import Balancer.Assembly.Settings

/-!
# Sections from entries

A section is filled entry by entry. Every entry is offered to the parts that the section is made
of, in a fixed order; a part takes the directive in or leaves it to the next one, and what nobody
takes is an error. A pair that nobody takes is an unknown key, unless another kind of section would
understand it: then it is misplaced, like any other directive that belongs elsewhere.
-/

namespace Balancer

/-! ### Parts -/

/-- The body after taking in a directive; `none` where it is not for the body. -/
def ProxyBody.absorb? (body : ProxyBody) : Directive → Except Refusal (Option ProxyBody)
  | .log target => .ok (some { body with logs := body.logs ++ [target] })
  | .timeouts timeouts => .ok (some { body with timeouts := body.timeouts.merge timeouts })
  | .options options => .ok (some { body with options := body.options.merge options })
  | .acl acl => .ok (some { body with acls := body.acls ++ [acl] })
  | .rule rule => .ok (some { body with rules := body.rules.push rule })
  | .stickTable table =>
    if body.stickTable.isSome then .error (.fault .secondStickTable)
    else .ok (some { body with stickTable := table })
  | .stickRule rule => .ok (some { body with stickRules := body.stickRules ++ [rule] })
  | .redirect redirect => .ok (some { body with redirects := body.redirects ++ [redirect] })
  | .stats stats => .ok (some { body with stats })
  | .compression compression => .ok (some { body with compression })
  | .errorPage page => .ok (some { body with errorPages := body.errorPages ++ [page] })
  | .pair key value => Setting.update? ProxyBody.settings key value body
  | _ => .ok none

/-- The accepting side after taking in a directive. -/
def Intake.absorb? (intake : Intake) : Directive → Except Refusal (Option Intake)
  | .bind bind => .ok (some { intake with binds := intake.binds ++ [bind] })
  | .useBackend choice => .ok (some { intake with useBackends := intake.useBackends ++ [choice] })
  | .pair key value => Setting.update? Intake.settings key value intake
  | _ => .ok none

/-- The serving side after taking in a directive. -/
def Pool.absorb? (pool : Pool) : Directive → Except Refusal (Option Pool)
  | .server server => .ok (some { pool with servers := pool.servers ++ [server] })
  | .loop loop => .ok (some { pool with loops := pool.loops ++ [loop] })
  | .serverTemplate template =>
    .ok (some { pool with serverTemplates := pool.serverTemplates ++ [template] })
  | .defaultServer options => .ok (some { pool with defaultServer := options })
  | .useServer choice => .ok (some { pool with useServers := pool.useServers ++ [choice] })
  | .cookie cookie => .ok (some { pool with cookie })
  | .healthCheck check => .ok (some { pool with healthCheck := check })
  | .pair key value => Setting.update? Pool.settings key value pool
  | _ => .ok none

/-! ### Whole sections -/

/-- The process-wide settings after taking in a directive. -/
def Global.absorb? (global : Global) : Directive → Except Refusal (Option Global)
  | .log target => .ok (some { global with logs := global.logs ++ [target] })
  | .statsSocket socket =>
    .ok (some { global with statsSockets := global.statsSockets ++ [socket] })
  | .tune tune => .ok (some { global with tune := global.tune.insertAll tune.entries })
  | .setenv setenv => .ok (some { global with setenv := global.setenv.insertAll setenv.entries })
  | .pair key value => Setting.update? Global.settings key value global
  | _ => .ok none

/-- The inherited settings after taking in a directive. Concrete servers belong to a backend. -/
def Defaults.absorb? (defaults : Defaults) : Directive → Except Refusal (Option Defaults)
  | .server _ | .loop _ | .serverTemplate _ => .ok none
  | directive => do
    if let some body ← defaults.body.absorb? directive then return some { defaults with body }
    if let some pool ← defaults.pool.absorb? directive then return some { defaults with pool }
    return none

/-- A frontend after taking in a directive. -/
def Frontend.absorb? (frontend : Frontend) (directive : Directive) :
    Except Refusal (Option Frontend) := do
  if let some body ← frontend.body.absorb? directive then return some { frontend with body }
  if let some intake ← frontend.intake.absorb? directive then
    return some { frontend with intake }
  return none

/-- A backend after taking in a directive. -/
def Backend.absorb? (backend : Backend) (directive : Directive) :
    Except Refusal (Option Backend) := do
  if let some body ← backend.body.absorb? directive then return some { backend with body }
  if let some pool ← backend.pool.absorb? directive then return some { backend with pool }
  return none

/-- A `listen` section after taking in a directive. -/
def Listen.absorb? (listen : Listen) (directive : Directive) :
    Except Refusal (Option Listen) := do
  if let some body ← listen.body.absorb? directive then return some { listen with body }
  if let some intake ← listen.intake.absorb? directive then return some { listen with intake }
  if let some pool ← listen.pool.absorb? directive then return some { listen with pool }
  return none

/-- A group of peers after taking in a directive. -/
def Peers.absorb? (peers : Peers) : Directive → Except Refusal (Option Peers)
  | .peer peer => .ok (some { peers with peers := peers.peers ++ [peer] })
  | _ => .ok none

/-- A group of name servers after taking in a directive. -/
def Resolvers.absorb? (resolvers : Resolvers) : Directive → Except Refusal (Option Resolvers)
  | .nameserver server =>
    .ok (some { resolvers with nameservers := resolvers.nameservers ++ [server] })
  | .hold hold => .ok (some { resolvers with hold := resolvers.hold.insertAll hold.entries })
  | .pair key value => Setting.update? Resolvers.settings key value resolvers
  | _ => .ok none

/-- A group of mail servers after taking in a directive. -/
def Mailers.absorb? (mailers : Mailers) : Directive → Except Refusal (Option Mailers)
  | .mailer mailer => .ok (some { mailers with mailers := mailers.mailers ++ [mailer] })
  | .pair key value => Setting.update? Mailers.settings key value mailers
  | _ => .ok none

/-! ### Filling a section -/

namespace SectionNode

/-- The error for a refused directive. -/
def refused (node : SectionNode) (position : Option Position) : Refusal → BuildError
  | .field source => .field node.kind source (position.or node.position)
  | .fault fault => .invalid node.kind fault (position.or node.position)

/-- The error for a directive that nobody took. Pairs whose key is understood `elsewhere` are
misplaced. -/
def leftover (node : SectionNode) (elsewhere : String → Bool) (entry : Entry) : BuildError :=
  let position := entry.position.or node.position
  let misplaced := .misplaced entry.directive.name (.zone node.kind node.name) position
  match entry.directive with
  | .pair key _ => if elsewhere key then misplaced else .unknownKey key node.kind position
  | _ => misplaced

/-- One step of filling a section. -/
def take {σ : Type} (node : SectionNode) (absorb? : σ → Directive → Except Refusal (Option σ))
    (elsewhere : String → Bool) (state : σ) (entry : Entry) : Except BuildError σ :=
  match absorb? state entry.directive with
  | .error refusal => .error (node.refused entry.position refusal)
  | .ok (some state) => .ok state
  | .ok none => .error (node.leftover elsewhere entry)

/-- **The section filled with all its entries.** -/
def fill {σ : Type} (node : SectionNode) (environment : Environment)
    (absorb? : σ → Directive → Except Refusal (Option σ)) (elsewhere : String → Bool)
    (start : σ) : Except BuildError σ := do
  let entries ← readChildren environment node.children
  entries.foldlM (node.take absorb? elsewhere) start

/-- The name of a section that must have one. -/
def requiredName (node : SectionNode) : Except BuildError String :=
  match node.name with
  | some name => .ok name
  | none => .error (.missing node.kind .zoneName node.position)

end SectionNode

/-! ### The sections -/

/-- A key that no section but this one would understand. -/
def nowhere (_ : String) : Bool := false

/-- The process-wide settings in a section. -/
def Global.ofNode (environment : Environment) (node : SectionNode) : Except BuildError Global :=
  node.fill environment Global.absorb? nowhere {}

/-- The inherited settings in a section. -/
def Defaults.ofNode (environment : Environment) (node : SectionNode) :
    Except BuildError Defaults :=
  node.fill environment Defaults.absorb? proxyKeys.contains { name := node.name }

/-- The body with its mode decided: HTTP where the author names none. -/
def ProxyBody.settled (body : ProxyBody) : ProxyBody :=
  { body with mode := body.mode.or (some .http) }

/-- The pool with its algorithm decided: round robin where the author names none. -/
def Pool.settled (pool : Pool) : Pool :=
  { pool with balance := pool.balance.or (some .roundRobin) }

/-- The frontend in a section. -/
def Frontend.ofNode (environment : Environment) (node : SectionNode) :
    Except BuildError Frontend := do
  let name ← node.requiredName
  let frontend ← node.fill environment Frontend.absorb? proxyKeys.contains { name }
  return { frontend with body := frontend.body.settled }

/-- The backend in a section. -/
def Backend.ofNode (environment : Environment) (node : SectionNode) :
    Except BuildError Backend := do
  let name ← node.requiredName
  let backend ← node.fill environment Backend.absorb? proxyKeys.contains { name }
  return { backend with body := backend.body.settled, pool := backend.pool.settled }

/-- The `listen` section in a section. -/
def Listen.ofNode (environment : Environment) (node : SectionNode) :
    Except BuildError Listen := do
  let name ← node.requiredName
  let listen ← node.fill environment Listen.absorb? proxyKeys.contains { name }
  return { listen with body := listen.body.settled, pool := listen.pool.settled }

/-- The group of peers in a section; it has no settings of its own. -/
def Peers.ofNode (environment : Environment) (node : SectionNode) : Except BuildError Peers := do
  let name ← node.requiredName
  node.fill environment Peers.absorb? (fun _ => true) { name }

/-- The group of name servers in a section. -/
def Resolvers.ofNode (environment : Environment) (node : SectionNode) :
    Except BuildError Resolvers := do
  let name ← node.requiredName
  node.fill environment Resolvers.absorb? nowhere { name }

/-- The group of mail servers in a section. -/
def Mailers.ofNode (environment : Environment) (node : SectionNode) :
    Except BuildError Mailers := do
  let name ← node.requiredName
  node.fill environment Mailers.absorb? nowhere { name }

/-- The script in a section. -/
def Script.ofNode (environment : Environment) (node : SectionNode) :
    Except BuildError Script := do
  let name ← node.requiredName
  let fields ←
    Fields.ofEntries "script" [] node.position (← readChildren environment node.children)
  let kind := (← (FieldReader.text? "kind").read fields).getD "lua"
  if kind ≠ "lua" then throw (fields.invalid (.scriptKind kind))
  let path ← (FieldReader.text? "path").read fields
  let source ← (FieldReader.text? "source").read fields
  if path.isNone && source.isNone then throw (fields.missing .scriptBody)
  fields.finish ["kind", "path", "source"]
  return { name, path, source }

/-- The template in an item; every pair but `kind` is a parameter. -/
def Template.ofChildren (environment : Environment) (name : String) (children : List Child)
    (position : Option Position) : Except BuildError Template := do
  let fields ← Fields.ofEntries "template" [] position (← readChildren environment children)
  let kind := (← (FieldReader.text? "kind").read fields).getD "server"
  if kind ≠ "server" then throw (fields.invalid (.templateTarget kind))
  return { name, params := OrderedMap.ofList (fields.others ["kind"]) }

end Balancer
