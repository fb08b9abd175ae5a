import Balancer.Entry.Directives
import Balancer.Entry.Evaluation
import Balancer.Entry.Servers

/-!
# Reading entries

The kind of every child of a section is decided here. A pair becomes a pair with a value. An
object becomes the directive that its kind names; its own children are read first and have to be
pairs, so an error inside an object is reported before one of the object itself. The items of a
list stand for themselves, and a loop stays a loop, with its servers read like any others.

Two errors come before the children of an object are looked at: a kind that no directive has, and
the label of an error page that is not a status code.
-/

namespace Balancer

/-! ### The kinds of objects -/

/-- **The kinds of objects** that are directives. -/
inductive ObjectKind where
  | rule (kind : RuleKind)
  | bind | acl | useBackend | useServer | redirect | stickTable | stickRule | compression
  | errorPage | stats | log | timeouts | options | statsSocket | tune | setenv | hold | peer
  | nameserver | mailer | cookie | healthCheck | server | defaultServer | serverTemplate
deriving DecidableEq, Repr

namespace ObjectKind

/-- The kinds that are not families of rules, by name. -/
def named : List (String × ObjectKind) :=
  [("bind", bind), ("acl", acl), ("use_backend", useBackend), ("use_server", useServer),
   ("redirect", redirect), ("stick_table", stickTable), ("stick", stickRule),
   ("compression", compression), ("error_page", errorPage), ("stats", stats), ("log", log),
   ("timeouts", timeouts), ("options", options), ("stats_socket", statsSocket), ("tune", tune),
   ("setenv", setenv), ("hold", hold), ("peer", peer), ("nameserver", nameserver),
   ("mailer", mailer), ("cookie", cookie), ("health_check", healthCheck), ("server", server),
   ("default_server", defaultServer), ("server_template", serverTemplate)]

/-- The kind with a given name. -/
def ofName? (name : String) : Option ObjectKind :=
  match RuleKind.ofDirective? name with
  | some kind => some (rule kind)
  | none => named.lookup name

/-- Whether template spreads may stand in an object of this kind. Rules let them pass without a
use for them. -/
def allowsSpreads : ObjectKind → Bool
  | rule _ | server => true
  | _ => false

/-- What is checked about the labels before the children are read. -/
def precheck (kind : ObjectKind) (name : String) (labels : List String)
    (position : Option Position) : Except BuildError Unit :=
  match kind, labels with
  | errorPage, [label] =>
    match ErrorPage.statusCode label with
    | .ok _ => .ok ()
    | .error e => .error (.field name e position)
  | _, _ => .ok ()

/-- The directive of a kind with the given fields and spreads. -/
def read (fields : Fields) (spreads : List String) : ObjectKind → Except BuildError Directive
  | rule kind => .rule <$> Rule.ofFields kind fields
  | bind => .bind <$> Bind.ofFields fields
  | acl => .acl <$> Acl.ofFields fields
  | useBackend => .useBackend <$> UseBackend.ofFields fields
  | useServer => .useServer <$> UseServer.ofFields fields
  | redirect => .redirect <$> Redirect.ofFields fields
  | stickTable => .stickTable <$> StickTable.ofFields fields
  | stickRule => .stickRule <$> StickRule.ofFields fields
  | compression => .compression <$> Compression.ofFields fields
  | errorPage => .errorPage <$> ErrorPage.ofFields fields
  | stats => .stats <$> Stats.ofFields fields
  | log => .log <$> LogTarget.ofFields fields
  | timeouts => .timeouts <$> Timeouts.ofFields fields
  | options => .options <$> ProxyOptions.ofFields fields
  | statsSocket => .statsSocket <$> StatsSocket.ofFields fields
  | tune => .tune <$> fields.textMap
  | setenv => .setenv <$> fields.textMap
  | hold => .hold <$> fields.textMap
  | peer => .peer <$> Endpoint.ofFields fields
  | nameserver => .nameserver <$> Endpoint.ofFields fields
  | mailer => .mailer <$> Endpoint.ofFields fields
  | cookie => .cookie <$> Cookie.ofFields fields
  | healthCheck => .healthCheck <$> HealthCheck.ofFields fields
  | server => .server <$> Server.ofFields fields spreads
  | defaultServer => .defaultServer <$> ServerOptions.ofFields fields
  | serverTemplate => .serverTemplate <$> ServerTemplate.ofFields fields

end ObjectKind

/-! ### Fields from entries -/

/-- The pair in an entry of an object; nothing else is allowed there. -/
def Entry.pair (directive : String) (position : Option Position) (entry : Entry) :
    Except BuildError (String × Value) :=
  match entry.directive with
  | .pair key value => .ok (key, value)
  | other => .error (.misplaced other.name (.object directive) (entry.position.or position))

/-- The fields made of the entries of an object. The last value of a key counts, in the place of
the first. -/
def Fields.ofEntries (directive : String) (labels : List String) (position : Option Position)
    (entries : List Entry) : Except BuildError Fields := do
  let pairs ← entries.mapM (Entry.pair directive position)
  return { directive, labels, position, entries := OrderedMap.ofList pairs }

/-! ### Loops -/

/-- The bound of a range that a value gives. -/
def Bound.ofValue (position : Option Position) : Value → Except BuildError Bound
  | .integer n => .ok (.integer n)
  | .text s =>
    match Text.readInteger? (Text.trim s) with
    | some n => .ok (.integer n)
    | none => .ok (.expr s)
  | other => .error (.field "for" (other.mismatch "range" "integer or expression") position)

/-- What a loop runs over, with the expressions evaluated in order. -/
def Iterable.evaluate (environment : Environment) (position : Option Position) :
    Iterable → Except BuildError LoopIterable
  | .range start stop => do
    let first ← Bound.ofValue position (← start.evaluate environment position)
    let last ← Bound.ofValue position (← stop.evaluate environment position)
    return .range first last
  | .list items => do return .list (← Expr.evaluateAll environment position items)

/-! ### Children -/

mutual

/-- **The entries of the children**, in order. -/
def readChildren (environment : Environment) : List Child → Except BuildError (List Entry)
  | [] => .ok []
  | child :: children => do
    let first ← readChild environment child
    let rest ← readChildren environment children
    return first ++ rest

/-- The entries of one child: one, or as many as a list has items. -/
def readChild (environment : Environment) : Child → Except BuildError (List Entry)
  | .pair key value position => do
    return [⟨.pair key (← value.evaluate environment position), position⟩]
  | .object ⟨kind, labels, children, spreads, position⟩ => do
    return [⟨← readObject environment ⟨kind, labels, children, spreads, position⟩, position⟩]
  | .list _ items position => readItems environment position items
  | .loop ⟨binder, iterable, body, position⟩ => do
    let values ← iterable.evaluate environment position
    let servers ← readServers environment position body
    return [⟨.loop ⟨binder, values, servers⟩, position⟩]

/-- The entries of the items of a list; one without a position of its own takes the list's. -/
def readItems (environment : Environment) (position : Option Position) :
    List ObjectNode → Except BuildError (List Entry)
  | [] => .ok []
  | item :: items => do
    let directive ← readObject environment item
    let rest ← readItems environment position items
    return ⟨directive, item.position.or position⟩ :: rest

/-- The directive that an object stands for. -/
def readObject (environment : Environment) : ObjectNode → Except BuildError Directive
  | ⟨name, labels, children, spreads, position⟩ => do
    let some kind := ObjectKind.ofName? name | throw (.unknownDirective name position)
    kind.precheck name labels position
    let fields ← Fields.ofEntries name labels position (← readChildren environment children)
    let directive ← kind.read fields spreads
    if !spreads.isEmpty && !kind.allowsSpreads then
      throw (.invalid name .spreadOutsideServer position)
    return directive

/-- The servers in the body of a loop; nothing else is allowed there. -/
def readServers (environment : Environment) (position : Option Position) :
    List ObjectNode → Except BuildError (List Server)
  | [] => .ok []
  | ⟨name, labels, children, spreads, own⟩ :: items => do
    if name ≠ "server" then throw (.misplaced name .loop (own.or position))
    let fields ← Fields.ofEntries name labels own (← readChildren environment children)
    let first ← Server.ofFields fields spreads
    let rest ← readServers environment position items
    return first :: rest

end

end Balancer
