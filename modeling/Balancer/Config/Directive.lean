import Balancer.OrderedMap

/-!
# Directives

The flat records of a proxy configuration: what a `bind`, an `acl`, a rule or a `stick-table` line
carries. A field that may be left out is optional, a list that may be left out is empty, and a
switch that is off is `false`.
-/

namespace Balancer

/-! ### Listening -/

/-- **An address to listen on.** -/
structure Bind where
  address : String
  port : Option Nat
  ssl : Bool
  crt : List String
  crtList : Option String
  caFile : Option String
  verify : Option String
  alpn : List String
  ciphers : Option String
  ciphersuites : Option String
  sslMinVer : Option String
  sslMaxVer : Option String
  strictSni : Bool
  acceptProxy : Bool
  transparent : Bool
  v4v6 : Bool
  v6only : Bool
  deferAccept : Bool
  tfo : Bool
  allow0rtt : Bool
  interface : Option String
  name : Option String
  mode : Option String
  user : Option String
  group : Option String
  level : Option String
  maxconn : Option Nat
deriving DecidableEq, Repr

/-! ### Conditions and rules -/

/-- **A named condition** on traffic. -/
structure Acl where
  name : String
  criterion : String
  flags : List String
  values : List String
deriving DecidableEq, Repr

/-- **The families of rules**, each with its own keyword. -/
inductive RuleKind where
  | httpRequest | httpResponse | httpAfterResponse | tcpRequest | tcpResponse | httpCheck | tcpCheck
deriving DecidableEq, Repr

namespace RuleKind

/-- All families, in the order in which the fields of a rule set stand. -/
def all : List RuleKind :=
  [httpRequest, httpResponse, httpAfterResponse, tcpRequest, tcpResponse, httpCheck, tcpCheck]

/-- All families in the order in which they are written: connection level before request level,
checks last. -/
def writtenOrder : List RuleKind :=
  [tcpRequest, tcpResponse, httpRequest, httpResponse, httpAfterResponse, httpCheck, tcpCheck]

/-- The name of the family in a document. -/
def directive : RuleKind → String
  | httpRequest => "http_request"
  | httpResponse => "http_response"
  | httpAfterResponse => "http_after_response"
  | tcpRequest => "tcp_request"
  | tcpResponse => "tcp_response"
  | httpCheck => "http_check"
  | tcpCheck => "tcp_check"

/-- The keyword of the family in the written configuration. -/
def keyword : RuleKind → String
  | httpRequest => "http-request"
  | httpResponse => "http-response"
  | httpAfterResponse => "http-after-response"
  | tcpRequest => "tcp-request"
  | tcpResponse => "tcp-response"
  | httpCheck => "http-check"
  | tcpCheck => "tcp-check"

/-- The family with a given name in a document. -/
def ofDirective? (name : String) : Option RuleKind :=
  all.find? fun kind => kind.directive == name

/-- Whether the family speaks about HTTP. -/
def isHttp : RuleKind → Bool
  | httpRequest | httpResponse | httpAfterResponse | httpCheck => true
  | tcpRequest | tcpResponse | tcpCheck => false

end RuleKind

/-- **A rule**: an action with parameters in the author's order, under a condition or always. -/
structure Rule where
  kind : RuleKind
  action : String
  params : OrderedMap String
  condition : Option String
deriving DecidableEq, Repr

/-- **The rules of a section**, family by family. -/
structure RuleSet where
  httpRequest : List Rule := []
  httpResponse : List Rule := []
  httpAfterResponse : List Rule := []
  tcpRequest : List Rule := []
  tcpResponse : List Rule := []
  httpCheck : List Rule := []
  tcpCheck : List Rule := []
deriving DecidableEq, Repr, Inhabited

namespace RuleSet

/-- The rules of one family. -/
def get (rules : RuleSet) : RuleKind → List Rule
  | .httpRequest => rules.httpRequest
  | .httpResponse => rules.httpResponse
  | .httpAfterResponse => rules.httpAfterResponse
  | .tcpRequest => rules.tcpRequest
  | .tcpResponse => rules.tcpResponse
  | .httpCheck => rules.httpCheck
  | .tcpCheck => rules.tcpCheck

/-- The rules with one more at the end of its family. -/
def push (rules : RuleSet) (rule : Rule) : RuleSet :=
  match rule.kind with
  | .httpRequest => { rules with httpRequest := rules.httpRequest ++ [rule] }
  | .httpResponse => { rules with httpResponse := rules.httpResponse ++ [rule] }
  | .httpAfterResponse => { rules with httpAfterResponse := rules.httpAfterResponse ++ [rule] }
  | .tcpRequest => { rules with tcpRequest := rules.tcpRequest ++ [rule] }
  | .tcpResponse => { rules with tcpResponse := rules.tcpResponse ++ [rule] }
  | .httpCheck => { rules with httpCheck := rules.httpCheck ++ [rule] }
  | .tcpCheck => { rules with tcpCheck := rules.tcpCheck ++ [rule] }

/-- All rules in the order in which they are written. -/
def written (rules : RuleSet) : List Rule :=
  RuleKind.writtenOrder.flatMap rules.get

end RuleSet

/-! ### Routing -/

/-- **A choice of a backend** under a condition. -/
structure UseBackend where
  backend : String
  condition : Option String
deriving DecidableEq, Repr

/-- **A choice of a server** under a condition. -/
structure UseServer where
  server : String
  condition : Option String
deriving DecidableEq, Repr

/-- What a redirect replaces. -/
inductive RedirectKind where
  | location | leading | scheme
deriving DecidableEq, Repr

/-- The keyword of a kind of redirect, in documents and in the written configuration. -/
def RedirectKind.keyword : RedirectKind → String
  | location => "location"
  | leading => "prefix"
  | scheme => "scheme"

/-- The kind of redirect with a given keyword. -/
def RedirectKind.ofKeyword? (word : String) : Option RedirectKind :=
  [location, leading, scheme].find? fun kind => kind.keyword == word

/-- **A redirect.** -/
structure Redirect where
  kind : RedirectKind
  target : String
  code : Option Nat
  dropQuery : Bool
  appendSlash : Bool
  setCookie : Option String
  condition : Option String
deriving DecidableEq, Repr

/-! ### Stick tables -/

/-- **A table** that remembers something about clients. -/
structure StickTable where
  kind : String
  len : Option Nat
  size : String
  expire : Option String
  nopurge : Bool
  peers : Option String
  store : List String
deriving DecidableEq, Repr

/-- What a stick rule does with a table. -/
inductive StickRuleKind where
  | matching | on | storeRequest | storeResponse
deriving DecidableEq, Repr

namespace StickRuleKind

/-- The name of the kind in a document. -/
def directive : StickRuleKind → String
  | matching => "match"
  | on => "on"
  | storeRequest => "store_request"
  | storeResponse => "store_response"

/-- The keyword of the kind in the written configuration. -/
def keyword : StickRuleKind → String
  | matching => "match"
  | on => "on"
  | storeRequest => "store-request"
  | storeResponse => "store-response"

/-- The kind with a given name in a document. -/
def ofDirective? (name : String) : Option StickRuleKind :=
  [matching, on, storeRequest, storeResponse].find? fun kind => kind.directive == name

end StickRuleKind

/-- **A stick rule**; without a table it uses the one of its own section. -/
structure StickRule where
  kind : StickRuleKind
  pattern : String
  table : Option String
  condition : Option String
deriving DecidableEq, Repr

/-! ### Responses -/

/-- **Compression of responses.** -/
structure Compression where
  algo : List String
  types : List String
  offload : Bool
deriving DecidableEq, Repr

/-- How an error is answered: with a file, or by sending the client elsewhere. -/
inductive ErrorPageKind where
  | file | location | location302 | location303
deriving DecidableEq, Repr

/-- The keyword of a kind of error page. -/
def ErrorPageKind.keyword : ErrorPageKind → String
  | file => "errorfile"
  | location => "errorloc"
  | location302 => "errorloc302"
  | location303 => "errorloc303"

/-- **The answer to an error status.** -/
structure ErrorPage where
  code : Nat
  kind : ErrorPageKind
  target : String
deriving DecidableEq, Repr

/-! ### Observation -/

/-- **The statistics page.** -/
structure Stats where
  enable : Bool
  uri : Option String
  realm : Option String
  auth : List String
  refresh : Option String
  hideVersion : Bool
  showLegends : Bool
  showNode : Bool
  admin : Option String
  scope : List String
deriving DecidableEq, Repr

/-- **A destination of logs.** -/
structure LogTarget where
  address : String
  facility : String
  level : Option String
  minLevel : Option String
  format : Option String
  length : Option Nat
deriving DecidableEq, Repr

/-- The facility of a log target that names none. -/
def LogTarget.defaultFacility : String := "local0"

/-- **A control socket.** -/
structure StatsSocket where
  path : String
  mode : Option String
  level : Option String
  user : Option String
  group : Option String
  exposeFdListeners : Bool
deriving DecidableEq, Repr

end Balancer
