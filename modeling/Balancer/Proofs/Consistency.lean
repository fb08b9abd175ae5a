import Balancer.Report.Consistency
import Mathlib.Data.List.Nodup

/-!
# Configurations without errors

The report goes through a configuration check by check, and remembers names while it scans. What an
error-free report says about the configuration can be told without any of this
(`Configuration.Consistent`): which names are different from one another, and which names refer to
something that is declared.

| check | an error-free report says | theorem |
|---|---|---|
| names | no name is declared twice in its name space | `errorFree_duplicates_iff` |
| routing | every target is a backend or a `listen` section | `errorFree_routing_iff` |
| choices of servers | every chosen server is in the same pool | `errorFree_serverChoices_iff` |
| stick rules | every rule has a table to work on | `errorFree_stickRules_iff` |

The other checks only ever warn. Together they are exact: the report has no error precisely when the
configuration is consistent (`Configuration.findings_errorFree_iff`).
-/

namespace Balancer

/-! ### Consistent configurations -/

/-- **The accepting side sends traffic to a name.** -/
def Intake.RoutesTo (intake : Intake) (name : String) : Prop :=
  intake.defaultBackend = some name ∨ ∃ choice ∈ intake.useBackends, choice.backend = name

/-- **The pool chooses among its own servers.** -/
def Pool.ChoosesOwn (pool : Pool) : Prop :=
  ∀ choice ∈ pool.useServers, ∃ server ∈ pool.servers, server.name = choice.server

namespace Configuration

variable (config : Configuration)

/-- **A name that traffic can be sent to**: that of a backend or of a `listen` section. -/
def IsTarget (name : String) : Prop :=
  (∃ backend ∈ config.backends, backend.name = name) ∨
    ∃ listen ∈ config.listens, listen.name = name

/-- **A name that stands for a stick table**: that of a section which declares one. -/
def IsTable (name : String) : Prop :=
  (∃ frontend ∈ config.frontends, frontend.body.stickTable ≠ none ∧ frontend.name = name) ∨
    (∃ backend ∈ config.backends, backend.body.stickTable ≠ none ∧ backend.name = name) ∨
      ∃ listen ∈ config.listens, listen.body.stickTable ≠ none ∧ listen.name = name

/-- **The stick rules of a section have a table**: a declared one that they name, or else the
section's own. -/
def HasTables (body : ProxyBody) : Prop :=
  ∀ rule ∈ body.stickRules,
    (∃ table, rule.table = some table ∧ config.IsTable table) ∨
      (rule.table = none ∧ body.stickTable ≠ none)

/-- **Names that are declared once.** Frontends and backends may share a name; a `listen` section
is both and shares its name with neither. -/
structure DistinctNames : Prop where
  frontends : (config.frontends.map Frontend.name).Nodup
  backends : (config.backends.map Backend.name).Nodup
  listens : (config.listens.map Listen.name).Nodup
  listen_ne_frontend : ∀ listen ∈ config.listens, ∀ frontend ∈ config.frontends,
    listen.name ≠ frontend.name
  listen_ne_backend : ∀ listen ∈ config.listens, ∀ backend ∈ config.backends,
    listen.name ≠ backend.name
  peers : (config.peers.map Peers.name).Nodup
  resolvers : (config.resolvers.map Resolvers.name).Nodup
  mailers : (config.mailers.map Mailers.name).Nodup

/-- **A consistent configuration**: names are declared once, and what is referred to is there. -/
structure Consistent : Prop where
  names : config.DistinctNames
  frontend_routes : ∀ frontend ∈ config.frontends, ∀ name,
    frontend.intake.RoutesTo name → config.IsTarget name
  listen_routes : ∀ listen ∈ config.listens, ∀ name,
    listen.intake.RoutesTo name → config.IsTarget name
  backend_choices : ∀ backend ∈ config.backends, backend.pool.ChoosesOwn
  listen_choices : ∀ listen ∈ config.listens, listen.pool.ChoosesOwn
  defaults_tables : ∀ defaults ∈ config.defaults, config.HasTables defaults.body
  frontend_tables : ∀ frontend ∈ config.frontends, config.HasTables frontend.body
  backend_tables : ∀ backend ∈ config.backends, config.HasTables backend.body
  listen_tables : ∀ listen ∈ config.listens, config.HasTables listen.body

end Configuration

/-! ### Findings without errors -/

/-- **Findings of which none is an error.** -/
def ErrorFree (findings : List Finding) : Prop := ∀ finding ∈ findings, ¬finding.isError

theorem errorFree_append_iff {findings findings' : List Finding} :
    ErrorFree (findings ++ findings') ↔ ErrorFree findings ∧ ErrorFree findings' :=
  List.forall_mem_append

theorem errorFree_flatMap_iff {α : Type} {as : List α} {check : α → List Finding} :
    ErrorFree (as.flatMap check) ↔ ∀ a ∈ as, ErrorFree (check a) := by
  simp only [ErrorFree, List.mem_flatMap]
  constructor
  · intro h a ha finding hfinding
    exact h finding ⟨a, ha, hfinding⟩
  · rintro h finding ⟨a, ha, hfinding⟩
    exact h a ha finding hfinding

/-- A check that makes nothing but errors has to find nothing. -/
theorem errorFree_map_iff {α : Type} {as : List α} {finding : α → Finding}
    (h : ∀ a, (finding a).isError) : ErrorFree (as.map finding) ↔ as = [] := by
  rw [ErrorFree, List.forall_mem_map]
  constructor
  · intro hfree
    refine List.eq_nil_iff_forall_not_mem.2 fun a ha => ?_
    exact hfree a ha (h a)
  · rintro rfl
    exact List.forall_mem_nil _

/-- A check that makes nothing but warnings makes no errors. -/
theorem errorFree_map_of_warning {α : Type} {as : List α} {finding : α → Finding}
    (h : ∀ a ∈ as, (finding a).problem.severity = .warning) : ErrorFree (as.map finding) := by
  rw [ErrorFree, List.forall_mem_map]
  intro a ha
  simp [Finding.isError, Finding.severity, h a ha]

/-- A check that looks for a problem in each element. -/
theorem errorFree_filterMap_iff {α : Type} {as : List α} {problem? : α → Option Problem}
    {header : Header} :
    ErrorFree (as.filterMap fun a => (problem? a).map fun problem => ⟨header, problem⟩) ↔
      ∀ a ∈ as, ∀ problem, problem? a = some problem → problem.severity = .warning := by
  have hseverity (problem : Problem) :
      ¬(Finding.mk header problem).isError ↔ problem.severity = .warning := by
    rw [Finding.isError, Finding.severity]
    cases problem.severity <;> decide
  simp only [ErrorFree, List.mem_filterMap, Option.map_eq_some_iff]
  constructor
  · intro h a ha problem hproblem
    exact (hseverity problem).1 (h _ ⟨a, ha, problem, hproblem, rfl⟩)
  · rintro h _ ⟨a, ha, problem, hproblem, rfl⟩
    exact (hseverity problem).2 (h a ha problem hproblem)

theorem ProxyBody.severity_of_mem_modeProblems {body : ProxyBody} {problem : Problem}
    (h : problem ∈ body.modeProblems) : problem.severity = .warning := by
  rw [ProxyBody.modeProblems] at h
  split at h
  · exact nomatch h
  · obtain ⟨flag, -, rfl⟩ := List.mem_map.1 h
    rfl
  · rcases List.mem_append.1 h with h | h
    · obtain ⟨flag, -, rfl⟩ := List.mem_map.1 h
      rfl
    · obtain ⟨kind, -, rfl⟩ := List.mem_map.1 h
      rfl

/-! ### Names declared twice -/

/-- **No name is reported when all are new**: different from one another and from those seen
before. -/
theorem repeatedFrom_eq_nil_iff {seen names : List String} :
    repeatedFrom seen names = [] ↔ names.Nodup ∧ ∀ name ∈ names, name ∉ seen := by
  induction names generalizing seen with
  | nil => simp [repeatedFrom]
  | cons name names ih =>
    rw [repeatedFrom, List.nodup_cons, List.forall_mem_cons]
    by_cases hseen : name ∈ seen
    · simp [hseen]
    · rw [if_neg (by simpa using hseen), ih]
      -- a name that is passed is seen from there on, so it may not come again
      simp only [List.mem_cons, not_or]
      constructor
      · rintro ⟨hnodup, hnew⟩
        have hfirst : name ∉ names := fun hmem => (hnew name hmem).1 rfl
        exact ⟨⟨hfirst, hnodup⟩, hseen, fun other hother => (hnew other hother).2⟩
      · rintro ⟨⟨hfirst, hnodup⟩, -, hnew⟩
        refine ⟨hnodup, fun other hother => ⟨?_, hnew other hother⟩⟩
        rintro rfl
        exact hfirst hother

theorem errorFree_duplicateProxies_iff {kind : String} {taken names : List String} :
    ErrorFree (duplicateProxies kind taken names) ↔
      names.Nodup ∧ ∀ name ∈ names, name ∉ taken := by
  rw [duplicateProxies, errorFree_map_iff fun _ => rfl, repeatedFrom_eq_nil_iff]

theorem errorFree_duplicateGroups_iff {kind : String} {names : List String} :
    ErrorFree (duplicateGroups kind names) ↔ names.Nodup := by
  rw [duplicateGroups, errorFree_map_iff fun _ => rfl, repeatedFrom_eq_nil_iff]
  simp

namespace Configuration

variable {config : Configuration}

theorem errorFree_duplicates_iff : ErrorFree config.duplicates ↔ config.DistinctNames := by
  simp only [duplicates, errorFree_append_iff, errorFree_duplicateProxies_iff,
    errorFree_duplicateGroups_iff]
  constructor
  · rintro ⟨⟨⟨⟨⟨⟨hfrontends, -⟩, hbackends, -⟩, hlistens, hapart⟩, hpeers⟩, hresolvers⟩, hmailers⟩
    rw [List.forall_mem_map] at hapart
    refine ⟨hfrontends, hbackends, hlistens, ?_, ?_, hpeers, hresolvers, hmailers⟩
    · intro listen hlisten frontend hfrontend hname
      exact hapart listen hlisten
        (List.mem_append_left _ (List.mem_map.2 ⟨frontend, hfrontend, hname.symm⟩))
    · intro listen hlisten backend hbackend hname
      exact hapart listen hlisten
        (List.mem_append_right _ (List.mem_map.2 ⟨backend, hbackend, hname.symm⟩))
  · intro h
    have hapart : ∀ name ∈ config.listens.map Listen.name,
        name ∉ config.frontends.map Frontend.name ++ config.backends.map Backend.name := by
      rw [List.forall_mem_map]
      intro listen hlisten hmem
      rcases List.mem_append.1 hmem with hmem | hmem
      · obtain ⟨frontend, hfrontend, hname⟩ := List.mem_map.1 hmem
        exact h.listen_ne_frontend listen hlisten frontend hfrontend hname.symm
      · obtain ⟨backend, hbackend, hname⟩ := List.mem_map.1 hmem
        exact h.listen_ne_backend listen hlisten backend hbackend hname.symm
    exact ⟨⟨⟨⟨⟨⟨h.frontends, by simp⟩, h.backends, by simp⟩, h.listens, hapart⟩, h.peers⟩,
      h.resolvers⟩, h.mailers⟩

/-! ### Routing -/

theorem mem_backendNames_iff {name : String} :
    name ∈ config.backendNames ↔ config.IsTarget name := by
  simp only [backendNames, pools, List.map_append, List.map_map, List.mem_append, List.mem_map,
    Function.comp_apply, IsTarget]

/-- A route is wrong when it leads nowhere; a route to another mode only earns a warning. -/
theorem routeProblem?_warning_iff {mode : Option Mode} {directive target : String} :
    (∀ problem, config.routeProblem? mode directive target = some problem →
      problem.severity = .warning) ↔ config.IsTarget target := by
  rw [← mem_backendNames_iff]
  unfold routeProblem?
  by_cases htarget : target ∈ config.backendNames
  · simp only [List.contains_iff_mem, htarget, if_true, iff_true]
    intro problem hproblem
    split at hproblem
    · split at hproblem
      · exact nomatch hproblem
      · cases hproblem
        rfl
    · exact nomatch hproblem
  · simp only [List.contains_iff_mem, htarget, if_false, iff_false]
    intro h
    exact nomatch h _ rfl

theorem forall_mem_targets_iff {intake : Intake} {P : String → Prop} :
    (∀ route ∈ intake.targets, P route.2) ↔ ∀ name, intake.RoutesTo name → P name := by
  simp only [Intake.targets, List.forall_mem_append, List.forall_mem_map, Option.mem_toList,
    Intake.RoutesTo]
  constructor
  · rintro ⟨hdefault, hchoices⟩ name (hname | ⟨choice, hchoice, rfl⟩)
    · exact hdefault name hname
    · exact hchoices choice hchoice
  · intro h
    exact ⟨fun name hname => h name (.inl hname),
      fun choice hchoice => h _ (.inr ⟨choice, hchoice, rfl⟩)⟩

theorem errorFree_routing_iff :
    ErrorFree config.routing ↔
      (∀ frontend ∈ config.frontends, ∀ name,
        frontend.intake.RoutesTo name → config.IsTarget name) ∧
      ∀ listen ∈ config.listens, ∀ name, listen.intake.RoutesTo name → config.IsTarget name := by
  simp only [routing, errorFree_flatMap_iff, errorFree_filterMap_iff, routeProblem?_warning_iff,
    entryPoints, List.forall_mem_append, List.forall_mem_map, forall_mem_targets_iff]

/-! ### Choices of servers -/

theorem choosesOwn_iff {pool : Pool} :
    (pool.useServers.filter fun choice =>
      !(pool.servers.map Server.name).contains choice.server) = [] ↔ pool.ChoosesOwn := by
  simp only [List.filter_eq_nil_iff, Bool.not_eq_true', Bool.not_eq_false, List.contains_iff_mem,
    List.mem_map, Pool.ChoosesOwn]

theorem errorFree_serverChoices_iff :
    ErrorFree config.serverChoices ↔
      (∀ backend ∈ config.backends, backend.pool.ChoosesOwn) ∧
        ∀ listen ∈ config.listens, listen.pool.ChoosesOwn := by
  have hchoices (header : Header) (pool : Pool) :
      ErrorFree ((pool.useServers.filter fun choice =>
        !(pool.servers.map Server.name).contains choice.server).map fun choice =>
          ⟨header, .unknownServer choice.server⟩) ↔ pool.ChoosesOwn :=
    (errorFree_map_iff fun _ => rfl).trans choosesOwn_iff
  simp only [serverChoices, errorFree_flatMap_iff, hchoices, pools, List.forall_mem_append,
    List.forall_mem_map]

/-! ### Stick tables -/

theorem mem_tables_iff {name : String} : name ∈ config.tables ↔ config.IsTable name := by
  simp only [tables, List.mem_append, List.mem_map, List.mem_filter, Option.isSome_iff_ne_none,
    IsTable, or_assoc, and_assoc]

/-- All problems of a stick rule are errors, so it has to have none. -/
theorem stickProblem?_warning_iff {body : ProxyBody} {rule : StickRule} :
    (∀ problem, config.stickProblem? body rule = some problem → problem.severity = .warning) ↔
      (∃ table, rule.table = some table ∧ config.IsTable table) ∨
        (rule.table = none ∧ body.stickTable ≠ none) := by
  rw [stickProblem?]
  cases rule.table with
  | some table =>
    by_cases htable : table ∈ config.tables
    · simp [htable, mem_tables_iff.1 htable]
    · have hundeclared : ¬config.IsTable table := fun h => htable (mem_tables_iff.2 h)
      simp [htable, hundeclared, Problem.severity]
  | none => cases body.stickTable <;> simp [Problem.severity]

theorem errorFree_stickRules_iff :
    ErrorFree config.stickRules ↔
      (∀ defaults ∈ config.defaults, config.HasTables defaults.body) ∧
      (∀ frontend ∈ config.frontends, config.HasTables frontend.body) ∧
      (∀ backend ∈ config.backends, config.HasTables backend.body) ∧
      ∀ listen ∈ config.listens, config.HasTables listen.body := by
  simp only [stickRules, errorFree_flatMap_iff, errorFree_filterMap_iff,
    stickProblem?_warning_iff, proxies, List.forall_mem_append, List.forall_mem_map,
    Option.mem_toList, Option.mem_def, HasTables, and_assoc]

/-! ### Checks that only warn -/

theorem errorFree_aclReferences : ErrorFree config.aclReferences :=
  errorFree_flatMap_iff.2 fun _ _ => errorFree_map_of_warning fun _ _ => rfl

theorem errorFree_modes : ErrorFree config.modes :=
  errorFree_flatMap_iff.2 fun _ _ =>
    errorFree_map_of_warning fun _ => ProxyBody.severity_of_mem_modeProblems

theorem errorFree_emptySections : ErrorFree config.emptySections :=
  errorFree_append_iff.2
    ⟨errorFree_map_of_warning fun _ _ => rfl, errorFree_map_of_warning fun _ _ => rfl⟩

/-! ### The whole report -/

/-- **The report has no error exactly when the configuration is consistent.** -/
theorem findings_errorFree_iff (config : Configuration) :
    config.findings.any Finding.isError = false ↔ config.Consistent := by
  have herrors : config.findings.any Finding.isError = false ↔ ErrorFree config.findings := by
    rw [List.any_eq_false]
    rfl
  rw [herrors]
  simp only [findings, errorFree_append_iff, errorFree_duplicates_iff,
    errorFree_routing_iff, errorFree_serverChoices_iff, errorFree_stickRules_iff,
    errorFree_aclReferences, errorFree_modes, errorFree_emptySections, and_true]
  constructor
  · rintro ⟨⟨⟨hnames, hfrontends, hlistens⟩, hbackendChoices, hlistenChoices⟩, hdefaults,
      hfrontendTables, hbackendTables, hlistenTables⟩
    exact ⟨hnames, hfrontends, hlistens, hbackendChoices, hlistenChoices, hdefaults,
      hfrontendTables, hbackendTables, hlistenTables⟩
  · intro h
    exact ⟨⟨⟨h.names, h.frontend_routes, h.listen_routes⟩, h.backend_choices, h.listen_choices⟩,
      h.defaults_tables, h.frontend_tables, h.backend_tables, h.listen_tables⟩

end Configuration

end Balancer
