/-!
# Server options

The parameters of a server line. Each is a **slot** that is either unset or holds a value of the
slot's type, and all of them together are a `ServerOptions`. Unset and switched off are different
things: only an unset slot can be filled from a template.

The slots are also an enumeration, `ServerSlot`, so that whatever is true of every option – how it
is named, converted, filled or written – is said once. `ServerOptions.get` and `ServerOptions.set`
read and write the slot they are given.
-/

namespace Balancer

/-! ### Slots -/

/-- **The slots** of a server, in the order in which they are written. -/
inductive ServerSlot where
  | check | checkSsl | checkPort | inter | fastinter | downinter | rise | fall | weight
  | maxconn | maxqueue | minconn | backup | disabled | ssl | verify | caFile | crt | sni | alpn
  | ciphers | sslMinVer | sendProxy | sendProxyV2 | cookie | resolvers | resolvePrefer
  | initAddr | slowstart | agentCheck | agentPort | agentInter | track | observe | errorLimit
  | onError | onMarkedDown | proto | source | tfo
deriving DecidableEq, Repr

/-- The types that a slot can have. -/
inductive SlotType where
  | flag | port | count | text | texts
deriving DecidableEq, Repr

/-- The values of a slot type. -/
@[reducible] def SlotType.Carrier : SlotType → Type
  | flag => Bool
  | port => Nat
  | count => Nat
  | text => String
  | texts => List String

namespace ServerSlot

/-- All slots in order. -/
def all : List ServerSlot :=
  [check, checkSsl, checkPort, inter, fastinter, downinter, rise, fall, weight, maxconn,
   maxqueue, minconn, backup, disabled, ssl, verify, caFile, crt, sni, alpn, ciphers, sslMinVer,
   sendProxy, sendProxyV2, cookie, resolvers, resolvePrefer, initAddr, slowstart, agentCheck,
   agentPort, agentInter, track, observe, errorLimit, onError, onMarkedDown, proto, source, tfo]

/-- The type of a slot. -/
@[reducible] def type : ServerSlot → SlotType
  | check | checkSsl | backup | disabled | ssl | sendProxy | sendProxyV2 | agentCheck
  | tfo => .flag
  | checkPort | agentPort => .port
  | rise | fall | weight | maxconn | maxqueue | minconn | errorLimit => .count
  | alpn => .texts
  | inter | fastinter | downinter | verify | caFile | crt | sni | ciphers | sslMinVer
  | cookie | resolvers | resolvePrefer | initAddr | slowstart | agentInter | track
  | observe | onError | onMarkedDown | proto | source => .text

/-- The key of a slot in a document. -/
def key : ServerSlot → String
  | check => "check"
  | checkSsl => "check_ssl"
  | checkPort => "check_port"
  | inter => "inter"
  | fastinter => "fastinter"
  | downinter => "downinter"
  | rise => "rise"
  | fall => "fall"
  | weight => "weight"
  | maxconn => "maxconn"
  | maxqueue => "maxqueue"
  | minconn => "minconn"
  | backup => "backup"
  | disabled => "disabled"
  | ssl => "ssl"
  | verify => "verify"
  | caFile => "ca_file"
  | crt => "crt"
  | sni => "sni"
  | alpn => "alpn"
  | ciphers => "ciphers"
  | sslMinVer => "ssl_min_ver"
  | sendProxy => "send_proxy"
  | sendProxyV2 => "send_proxy_v2"
  | cookie => "cookie"
  | resolvers => "resolvers"
  | resolvePrefer => "resolve_prefer"
  | initAddr => "init_addr"
  | slowstart => "slowstart"
  | agentCheck => "agent_check"
  | agentPort => "agent_port"
  | agentInter => "agent_inter"
  | track => "track"
  | observe => "observe"
  | errorLimit => "error_limit"
  | onError => "on_error"
  | onMarkedDown => "on_marked_down"
  | proto => "proto"
  | source => "source"
  | tfo => "tfo"

/-- The slot with a given key. -/
def ofKey? (key : String) : Option ServerSlot :=
  all.find? fun slot => slot.key == key

/-- The keyword of a slot on a server line. -/
def keyword : ServerSlot → String
  | check => "check"
  | checkSsl => "check-ssl"
  | checkPort => "port"
  | inter => "inter"
  | fastinter => "fastinter"
  | downinter => "downinter"
  | rise => "rise"
  | fall => "fall"
  | weight => "weight"
  | maxconn => "maxconn"
  | maxqueue => "maxqueue"
  | minconn => "minconn"
  | backup => "backup"
  | disabled => "disabled"
  | ssl => "ssl"
  | verify => "verify"
  | caFile => "ca-file"
  | crt => "crt"
  | sni => "sni"
  | alpn => "alpn"
  | ciphers => "ciphers"
  | sslMinVer => "ssl-min-ver"
  | sendProxy => "send-proxy"
  | sendProxyV2 => "send-proxy-v2"
  | cookie => "cookie"
  | resolvers => "resolvers"
  | resolvePrefer => "resolve-prefer"
  | initAddr => "init-addr"
  | slowstart => "slowstart"
  | agentCheck => "agent-check"
  | agentPort => "agent-port"
  | agentInter => "agent-inter"
  | track => "track"
  | observe => "observe"
  | errorLimit => "error-limit"
  | onError => "on-error"
  | onMarkedDown => "on-marked-down"
  | proto => "proto"
  | source => "source"
  | tfo => "tfo"

end ServerSlot

/-! ### Options -/

/-- **The options of a server**, slot by slot. -/
structure ServerOptions where
  check : Option Bool := none
  checkSsl : Option Bool := none
  checkPort : Option Nat := none
  inter : Option String := none
  fastinter : Option String := none
  downinter : Option String := none
  rise : Option Nat := none
  fall : Option Nat := none
  weight : Option Nat := none
  maxconn : Option Nat := none
  maxqueue : Option Nat := none
  minconn : Option Nat := none
  backup : Option Bool := none
  disabled : Option Bool := none
  ssl : Option Bool := none
  verify : Option String := none
  caFile : Option String := none
  crt : Option String := none
  sni : Option String := none
  alpn : Option (List String) := none
  ciphers : Option String := none
  sslMinVer : Option String := none
  sendProxy : Option Bool := none
  sendProxyV2 : Option Bool := none
  cookie : Option String := none
  resolvers : Option String := none
  resolvePrefer : Option String := none
  initAddr : Option String := none
  slowstart : Option String := none
  agentCheck : Option Bool := none
  agentPort : Option Nat := none
  agentInter : Option String := none
  track : Option String := none
  observe : Option String := none
  errorLimit : Option Nat := none
  onError : Option String := none
  onMarkedDown : Option String := none
  proto : Option String := none
  source : Option String := none
  tfo : Option Bool := none
deriving DecidableEq, Repr, Inhabited

namespace ServerOptions

/-- The content of a slot. -/
def get (options : ServerOptions) : (slot : ServerSlot) → Option slot.type.Carrier
  | .check => options.check
  | .checkSsl => options.checkSsl
  | .checkPort => options.checkPort
  | .inter => options.inter
  | .fastinter => options.fastinter
  | .downinter => options.downinter
  | .rise => options.rise
  | .fall => options.fall
  | .weight => options.weight
  | .maxconn => options.maxconn
  | .maxqueue => options.maxqueue
  | .minconn => options.minconn
  | .backup => options.backup
  | .disabled => options.disabled
  | .ssl => options.ssl
  | .verify => options.verify
  | .caFile => options.caFile
  | .crt => options.crt
  | .sni => options.sni
  | .alpn => options.alpn
  | .ciphers => options.ciphers
  | .sslMinVer => options.sslMinVer
  | .sendProxy => options.sendProxy
  | .sendProxyV2 => options.sendProxyV2
  | .cookie => options.cookie
  | .resolvers => options.resolvers
  | .resolvePrefer => options.resolvePrefer
  | .initAddr => options.initAddr
  | .slowstart => options.slowstart
  | .agentCheck => options.agentCheck
  | .agentPort => options.agentPort
  | .agentInter => options.agentInter
  | .track => options.track
  | .observe => options.observe
  | .errorLimit => options.errorLimit
  | .onError => options.onError
  | .onMarkedDown => options.onMarkedDown
  | .proto => options.proto
  | .source => options.source
  | .tfo => options.tfo

/-- The options with a slot set to a value. -/
def set (options : ServerOptions) : (slot : ServerSlot) → slot.type.Carrier → ServerOptions
  | .check, value => { options with check := value }
  | .checkSsl, value => { options with checkSsl := value }
  | .checkPort, value => { options with checkPort := value }
  | .inter, value => { options with inter := value }
  | .fastinter, value => { options with fastinter := value }
  | .downinter, value => { options with downinter := value }
  | .rise, value => { options with rise := value }
  | .fall, value => { options with fall := value }
  | .weight, value => { options with weight := value }
  | .maxconn, value => { options with maxconn := value }
  | .maxqueue, value => { options with maxqueue := value }
  | .minconn, value => { options with minconn := value }
  | .backup, value => { options with backup := value }
  | .disabled, value => { options with disabled := value }
  | .ssl, value => { options with ssl := value }
  | .verify, value => { options with verify := value }
  | .caFile, value => { options with caFile := value }
  | .crt, value => { options with crt := value }
  | .sni, value => { options with sni := value }
  | .alpn, value => { options with alpn := value }
  | .ciphers, value => { options with ciphers := value }
  | .sslMinVer, value => { options with sslMinVer := value }
  | .sendProxy, value => { options with sendProxy := value }
  | .sendProxyV2, value => { options with sendProxyV2 := value }
  | .cookie, value => { options with cookie := value }
  | .resolvers, value => { options with resolvers := value }
  | .resolvePrefer, value => { options with resolvePrefer := value }
  | .initAddr, value => { options with initAddr := value }
  | .slowstart, value => { options with slowstart := value }
  | .agentCheck, value => { options with agentCheck := value }
  | .agentPort, value => { options with agentPort := value }
  | .agentInter, value => { options with agentInter := value }
  | .track, value => { options with track := value }
  | .observe, value => { options with observe := value }
  | .errorLimit, value => { options with errorLimit := value }
  | .onError, value => { options with onError := value }
  | .onMarkedDown, value => { options with onMarkedDown := value }
  | .proto, value => { options with proto := value }
  | .source, value => { options with source := value }
  | .tfo, value => { options with tfo := value }

/-- The options with a slot set to a value if it was unset. -/
def fill (options : ServerOptions) (slot : ServerSlot) (value : slot.type.Carrier) :
    ServerOptions :=
  if (options.get slot).isSome then options else options.set slot value

end ServerOptions

end Balancer
