import Balancer.Report.Condition
import Balancer.Report.Finding

/-!
# Consistency

Whether a configuration makes sense as a whole: names are declared once and refer to something that
is declared, modes fit together, and no section is without a purpose. The checks follow one
another, and each goes through the sections in order.
-/

namespace Balancer

/-! ### Names declared twice -/

/-- The names that are among those seen before them. -/
def repeatedFrom : List String → List String → List String
  | _, [] => []
  | seen, name :: names =>
    if seen.contains name then name :: repeatedFrom seen names
    else repeatedFrom (name :: seen) names

/-- Findings for proxies whose names are taken. -/
def duplicateProxies (kind : String) (taken names : List String) : List Finding :=
  (repeatedFrom taken names).map fun name => ⟨⟨kind, some name⟩, .duplicateProxy name⟩

/-- Findings for groups of one kind whose names are taken. -/
def duplicateGroups (kind : String) (names : List String) : List Finding :=
  (repeatedFrom [] names).map fun name => ⟨⟨kind, some name⟩, .duplicateGroup kind name⟩

namespace Configuration

/-- **Names declared twice.** Frontends and backends have name spaces of their own, and a `listen`
section is in both. -/
def duplicates (config : Configuration) : List Finding :=
  let frontends := config.frontends.map Frontend.name
  let backends := config.backends.map Backend.name
  duplicateProxies "frontend" [] frontends ++ duplicateProxies "backend" [] backends ++
    duplicateProxies "listen" (frontends ++ backends) (config.listens.map Listen.name) ++
    duplicateGroups "peers" (config.peers.map Peers.name) ++
    duplicateGroups "resolvers" (config.resolvers.map Resolvers.name) ++
    duplicateGroups "mailers" (config.mailers.map Mailers.name)

/-! ### Routing -/

/-- The names that traffic can be routed to. -/
def backendNames (config : Configuration) : List String := config.pools.map Prod.fst

/-- The modes of the sections that traffic can be routed to. -/
def backendModes (config : Configuration) : List (String × Option Mode) :=
  config.backends.map (fun b => (b.name, b.body.mode)) ++
    config.listens.map fun l => (l.name, l.body.mode)

/-- The mode of the section with a given name; of several sections, the last one counts. -/
def backendMode? (config : Configuration) (name : String) : Option Mode :=
  (config.backendModes.reverse.lookup name).join

end Configuration

/-- The directives of an accepting side that route, with their targets. -/
def Intake.targets (intake : Intake) : List (String × String) :=
  intake.defaultBackend.toList.map (fun target => ("default_backend", target)) ++
    intake.useBackends.map fun choice => ("use_backend", choice.backend)

namespace Configuration

/-- What is wrong with routing to a target from a section with a mode. -/
def routeProblem? (config : Configuration) (mode : Option Mode) (directive target : String) :
    Option Problem :=
  if config.backendNames.contains target then
    match mode, config.backendMode? target with
    | some own, some theirs => if own = theirs then none else some (.otherMode own target theirs)
    | _, _ => none
  else some (.unknownBackend directive target)

/-- **Targets that do not exist or work in another mode.** -/
def routing (config : Configuration) : List Finding :=
  config.entryPoints.flatMap fun (name, body, intake) =>
    intake.targets.filterMap fun (directive, target) =>
      (config.routeProblem? body.mode directive target).map fun problem =>
        ⟨config.entryHeader name, problem⟩

/-- **Choices of servers that the pool does not have.** -/
def serverChoices (config : Configuration) : List Finding :=
  config.pools.flatMap fun (name, pool) =>
    let servers := pool.servers.map Server.name
    (pool.useServers.filter fun choice => !servers.contains choice.server).map fun choice =>
      ⟨config.poolHeader name, .unknownServer choice.server⟩

/-! ### Stick tables -/

/-- The names of the sections that declare a stick table. -/
def tables (config : Configuration) : List String :=
  (config.frontends.filter fun f => f.body.stickTable.isSome).map Frontend.name ++
    (config.backends.filter fun b => b.body.stickTable.isSome).map Backend.name ++
    (config.listens.filter fun l => l.body.stickTable.isSome).map Listen.name

/-- What is wrong with a stick rule of a section. -/
def stickProblem? (config : Configuration) (body : ProxyBody) (rule : StickRule) :
    Option Problem :=
  match rule.table with
  | some table =>
    if config.tables.contains table then none else some (.undeclaredTable rule.kind table)
  | none => if body.stickTable.isSome then none else some (.noTable rule.kind)

/-- **Stick rules without a table to work on.** -/
def stickRules (config : Configuration) : List Finding :=
  config.proxies.flatMap fun (header, body) =>
    body.stickRules.filterMap fun rule =>
      (config.stickProblem? body rule).map fun problem => ⟨header, problem⟩

end Configuration

/-! ### Conditions -/

/-- The conditions that the engine declares by itself. -/
def predefinedAcls : List String :=
  ["FALSE", "HTTP", "HTTP_1.0", "HTTP_1.1", "HTTP_2.0", "HTTP_CONTENT", "HTTP_URL_ABS",
   "HTTP_URL_SLASH", "HTTP_URL_STAR", "LOCALHOST", "METH_CONNECT", "METH_DELETE", "METH_GET",
   "METH_HEAD", "METH_OPTIONS", "METH_POST", "METH_PUT", "METH_TRACE", "RDP_COOKIE",
   "REQ_CONTENT", "TRUE", "WAIT_END"]

/-- The conditions of a section, and the names declared in it. -/
structure SectionConditions where
  header : Header
  declared : List String
  conditions : List String

/-- The conditions in the body of a proxy section. -/
def ProxyBody.conditions (body : ProxyBody) : List String :=
  body.rules.written.filterMap Rule.condition ++ body.redirects.filterMap Redirect.condition ++
    body.stickRules.filterMap StickRule.condition ++
    (body.stats.bind Stats.admin).toList

/-- The sections with more conditions in the first one that has the header. -/
def addConditions (header : Header) (conditions : List String) :
    List SectionConditions → List SectionConditions
  | [] => []
  | zone :: zones =>
    if zone.header = header then
      { zone with conditions := zone.conditions ++ conditions } :: zones
    else zone :: addConditions header conditions zones

/-- The names in the conditions of a section that nobody declares, each once. -/
def SectionConditions.undeclared (zone : SectionConditions) : List String :=
  ((zone.conditions.flatMap Condition.names).filter fun name =>
    !zone.declared.contains name && !predefinedAcls.contains name).eraseDups

namespace Configuration

/-- **The conditions of all proxy sections.** -/
def conditions (config : Configuration) : List SectionConditions :=
  let own := config.proxies.map fun (header, body) =>
    ⟨header, body.acls.map Acl.name, body.conditions⟩
  let withRoutes := config.entryPoints.foldl
    (fun zones (name, _, intake) =>
      addConditions (config.entryHeader name) (intake.useBackends.filterMap UseBackend.condition)
        zones)
    own
  config.pools.foldl
    (fun zones (name, pool) =>
      addConditions (config.poolHeader name) (pool.useServers.filterMap UseServer.condition)
        zones)
    withRoutes

/-- **Names in conditions that are not declared in their section.** -/
def aclReferences (config : Configuration) : List Finding :=
  config.conditions.flatMap fun zone =>
    zone.undeclared.map fun name => ⟨zone.header, .undeclaredAcl name⟩

end Configuration

/-! ### Modes -/

/-- What has no effect, or no place, in the mode of a section. -/
def ProxyBody.modeProblems (body : ProxyBody) : List Problem :=
  match body.mode with
  | none => []
  | some .http => (body.options.enabled.filter ProxyFlag.tcpOnly).map .uselessOption
  | some .tcp =>
    (body.options.enabled.filter ProxyFlag.httpOnly).map .httpOption ++
      ([RuleKind.httpRequest, .httpResponse, .httpAfterResponse].filter fun kind =>
        !(body.rules.get kind).isEmpty).map .httpRules

namespace Configuration

/-- **Options and rules that do not go with the mode.** -/
def modes (config : Configuration) : List Finding :=
  config.proxies.flatMap fun (header, body) =>
    body.modeProblems.map fun problem => ⟨header, problem⟩

/-! ### Sections without a purpose -/

/-- **Sections that accept no traffic or have no servers.** -/
def emptySections (config : Configuration) : List Finding :=
  (config.entryPoints.filter fun (_, _, intake) => intake.binds.isEmpty).map
      (fun (name, _) => ⟨config.entryHeader name, .noBind⟩) ++
    (config.pools.filter fun (_, pool) =>
      pool.servers.isEmpty && pool.serverTemplates.isEmpty).map
      fun (name, _) => ⟨config.poolHeader name, .noServers⟩

/-- **All findings**, check by check. -/
def findings (config : Configuration) : List Finding :=
  config.duplicates ++ config.routing ++ config.serverChoices ++ config.stickRules ++
    config.aclReferences ++ config.modes ++ config.emptySections

end Configuration

end Balancer
