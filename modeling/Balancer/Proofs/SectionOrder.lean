import Balancer.Proofs.OrderedMap
import Balancer.Proofs.Undeclared

/-!
# The order of sections

The report goes through the sections in order, and most of its checks look other sections up: a
target by its name, its mode by the last section of the name, a stick table by the section that
declares it, the header of a section by the first section of the name. When the sections of each
kind are rearranged (`Configuration.Rearranged`) and no name is declared twice, all these look-ups
find what they found before:

| look-up | lemma |
|---|---|
| targets, and problems with routes | `Rearranged.routeProblem?_eq` |
| stick tables, and problems with stick rules | `Rearranged.stickProblem?_eq` |
| accepting sides under the headers of their sections | `Rearranged.entryPoints_perm` |
| pools under the headers of their sections | `Rearranged.pools_perm` |
| conditions of all sections | `Rearranged.conditions_perm` |

So each check makes the same findings in another order, and so does the report
(`Configuration.findings_rearranged`).
-/

namespace Balancer.Configuration

/-- **A configuration with its sections rearranged**: the sections of each kind in another order,
and the rest as it was. -/
structure Rearranged (config config' : Configuration) : Prop where
  frontends : config.frontends.Perm config'.frontends
  backends : config.backends.Perm config'.backends
  listens : config.listens.Perm config'.listens
  peers : config.peers.Perm config'.peers
  resolvers : config.resolvers.Perm config'.resolvers
  mailers : config.mailers.Perm config'.mailers
  rest : config' = { config with
    frontends := config'.frontends
    backends := config'.backends
    listens := config'.listens
    peers := config'.peers
    resolvers := config'.resolvers
    mailers := config'.mailers }

variable {config config' : Configuration}

namespace Rearranged

variable (h : config.Rearranged config')

include h

theorem defaults_eq : config'.defaults = config.defaults := by
  rw [h.rest]

/-- Rearranging sections declares no name twice. -/
theorem distinctNames (hnames : config.DistinctNames) : config'.DistinctNames where
  frontends := (h.frontends.map _).nodup_iff.1 hnames.frontends
  backends := (h.backends.map _).nodup_iff.1 hnames.backends
  listens := (h.listens.map _).nodup_iff.1 hnames.listens
  listen_ne_frontend listen hlisten frontend hfrontend :=
    hnames.listen_ne_frontend listen (h.listens.mem_iff.2 hlisten) frontend
      (h.frontends.mem_iff.2 hfrontend)
  listen_ne_backend listen hlisten backend hbackend :=
    hnames.listen_ne_backend listen (h.listens.mem_iff.2 hlisten) backend
      (h.backends.mem_iff.2 hbackend)
  peers := (h.peers.map _).nodup_iff.1 hnames.peers
  resolvers := (h.resolvers.map _).nodup_iff.1 hnames.resolvers
  mailers := (h.mailers.map _).nodup_iff.1 hnames.mailers

theorem allSections_perm : config.allSections.Perm config'.allSections := by
  rw [allSections, allSections, h.defaults_eq]
  exact (((h.frontends.map _).append (h.backends.map _)).append (h.listens.map _)).append_left _

theorem proxies_perm : config.proxies.Perm config'.proxies := by
  rw [proxies_eq, proxies_eq]
  exact h.allSections_perm.map _

/-! ### What is looked up by name -/

theorem backendMode?_eq (hnames : config.DistinctNames) (name : String) :
    config'.backendMode? name = config.backendMode? name := by
  have hperm : config.backendModes.Perm config'.backendModes :=
    (h.backends.map _).append (h.listens.map _)
  have hnodup : (config.backendModes.map Prod.fst).Nodup := by
    simp only [backendModes, List.map_append, List.map_map]
    refine hnames.backends.append hnames.listens fun name hname hname' => ?_
    obtain ⟨backend, hbackend, rfl⟩ := List.mem_map.1 hname
    obtain ⟨listen, hlisten, heq⟩ := List.mem_map.1 hname'
    exact hnames.listen_ne_backend listen hlisten backend hbackend heq
  have hlast := OrderedMap.get?_ofList_of_perm hperm hnodup name
  rw [OrderedMap.get?_ofList, OrderedMap.get?_ofList] at hlast
  exact congrArg Option.join hlast

/-- **Routes have the same problems.** -/
theorem routeProblem?_eq (hnames : config.DistinctNames) :
    config'.routeProblem? = config.routeProblem? := by
  have hbackends : config.backendNames.Perm config'.backendNames :=
    ((h.backends.map _).append (h.listens.map _)).map _
  funext mode directive target
  unfold routeProblem?
  rw [h.backendMode?_eq hnames, hbackends.contains_eq]

/-- **Stick rules have the same problems.** -/
theorem stickProblem?_eq : config'.stickProblem? = config.stickProblem? := by
  have htables : config.tables.Perm config'.tables :=
    (((h.frontends.filter _).map _).append ((h.backends.filter _).map _)).append
      ((h.listens.filter _).map _)
  funext body rule
  simp only [stickProblem?, htables.contains_eq]

/-! ### What is found under the headers of sections -/

theorem entryPoints_perm (hnames : config.DistinctNames) :
    (config.entryPoints.map fun entry => (config.entryHeader entry.1, entry.2)).Perm
      (config'.entryPoints.map fun entry => (config'.entryHeader entry.1, entry.2)) := by
  rw [hnames.map_entryPoints, (h.distinctNames hnames).map_entryPoints]
  exact h.allSections_perm.filterMap _

theorem pools_perm (hnames : config.DistinctNames) :
    (config.pools.map fun entry => (config.poolHeader entry.1, entry.2)).Perm
      (config'.pools.map fun entry => (config'.poolHeader entry.1, entry.2)) := by
  rw [hnames.map_pools, (h.distinctNames hnames).map_pools]
  exact h.allSections_perm.filterMap _

theorem conditions_perm (hnames : config.DistinctNames) :
    config.conditions.Perm config'.conditions := by
  rw [hnames.conditions_eq, (h.distinctNames hnames).conditions_eq]
  exact h.allSections_perm.map _

end Rearranged

/-! ### The checks -/

/-- Routing as a check of the accepting sides under the headers of their sections. -/
theorem routing_eq :
    config.routing =
      (config.entryPoints.map fun entry => (config.entryHeader entry.1, entry.2)).flatMap
        fun (header, body, intake) => intake.targets.filterMap fun (directive, target) =>
          (config.routeProblem? body.mode directive target).map fun problem =>
            ⟨header, problem⟩ := by
  rw [routing, List.flatMap_map]

/-- The choices of servers as a check of the pools under the headers of their sections. -/
theorem serverChoices_eq :
    config.serverChoices =
      (config.pools.map fun entry => (config.poolHeader entry.1, entry.2)).flatMap
        fun (header, pool) => (pool.useServers.filter fun choice =>
          !(pool.servers.map Server.name).contains choice.server).map fun choice =>
            ⟨header, .unknownServer choice.server⟩ := by
  rw [serverChoices, List.flatMap_map]

/-- The sections without a purpose under their headers. -/
theorem emptySections_eq :
    config.emptySections =
      ((config.entryPoints.map fun entry => (config.entryHeader entry.1, entry.2)).filter
        fun (_, _, intake) => intake.binds.isEmpty).map (fun (header, _) => ⟨header, .noBind⟩) ++
      ((config.pools.map fun entry => (config.poolHeader entry.1, entry.2)).filter
        fun (_, pool) => pool.servers.isEmpty && pool.serverTemplates.isEmpty).map
          fun (header, _) => ⟨header, .noServers⟩ := by
  rw [emptySections, List.filter_map, List.filter_map, List.map_map, List.map_map]
  rfl

namespace Rearranged

variable (h : config.Rearranged config') (hnames : config.DistinctNames)

include h hnames

theorem duplicates_eq : config'.duplicates = config.duplicates := by
  rw [duplicates_eq_nil_iff.2 hnames, duplicates_eq_nil_iff.2 (h.distinctNames hnames)]

theorem routing_perm : config.routing.Perm config'.routing := by
  rw [routing_eq, routing_eq, h.routeProblem?_eq hnames]
  exact (h.entryPoints_perm hnames).flatMap_right _

theorem serverChoices_perm : config.serverChoices.Perm config'.serverChoices := by
  rw [serverChoices_eq, serverChoices_eq]
  exact (h.pools_perm hnames).flatMap_right _

omit hnames in
theorem stickRules_perm : config.stickRules.Perm config'.stickRules := by
  rw [stickRules, stickRules, h.stickProblem?_eq]
  exact h.proxies_perm.flatMap_right _

theorem aclReferences_perm : config.aclReferences.Perm config'.aclReferences :=
  (h.conditions_perm hnames).flatMap_right _

omit hnames in
theorem modes_perm : config.modes.Perm config'.modes :=
  h.proxies_perm.flatMap_right _

theorem emptySections_perm : config.emptySections.Perm config'.emptySections := by
  rw [emptySections_eq, emptySections_eq]
  exact (((h.entryPoints_perm hnames).filter _).map _).append
    (((h.pools_perm hnames).filter _).map _)

theorem findings_perm : config.findings.Perm config'.findings := by
  rw [findings, findings, h.duplicates_eq hnames]
  have hrouting := (List.Perm.refl config.duplicates).append (h.routing_perm hnames)
  have hstick := (hrouting.append (h.serverChoices_perm hnames)).append h.stickRules_perm
  exact ((hstick.append (h.aclReferences_perm hnames)).append h.modes_perm).append
    (h.emptySections_perm hnames)

end Rearranged

/-- **The order of sections does not matter to the report.** While no name is declared twice,
rearranging the sections of each kind rearranges the findings. -/
theorem findings_rearranged (config config' : Configuration) (h : config.NoDuplicates)
    (hrearranged : config.Rearranged config') :
    config.findings.Perm config'.findings ∧
      (config.findings.map Finding.shown).Perm (config'.findings.map Finding.shown) := by
  have hperm := hrearranged.findings_perm h.distinctNames
  exact ⟨hperm, hperm.map Finding.shown⟩

/-- A frontend with a mode that routes to a name. -/
def routingFrontend (name target : String) : Frontend where
  name := name
  body := { mode := some .http }
  intake := { defaultBackend := some target }

/-- A backend with a mode. -/
def backendWithMode (name : String) (mode : Mode) : Backend where
  name := name
  body := { mode := some mode }

/-- Two frontends and two backends, where one frontend routes to a backend in another mode and one
to nowhere. -/
def twoRoutes : Configuration where
  frontends := [routingFrontend "web" "mail", routingFrontend "shop" "cart"]
  backends := [backendWithMode "mail" .tcp, backendWithMode "web" .http]

/-- The same sections from the last to the first. -/
def twoRoutesBackwards : Configuration where
  frontends := twoRoutes.frontends.reverse
  backends := twoRoutes.backends.reverse

/-- The findings come in another order, and are the same. -/
theorem findings_rearranged_twoRoutes :
    twoRoutes.NoDuplicates ∧ twoRoutes.Rearranged twoRoutesBackwards ∧
      twoRoutes.findings ≠ twoRoutesBackwards.findings ∧
      twoRoutes.findings.Perm twoRoutesBackwards.findings ∧
      (twoRoutes.findings.map Finding.shown).Perm
        (twoRoutesBackwards.findings.map Finding.shown) := by
  have hduplicates : twoRoutes.NoDuplicates := by decide +kernel
  have hrearranged : twoRoutes.Rearranged twoRoutesBackwards :=
    { frontends := (List.reverse_perm _).symm
      backends := (List.reverse_perm _).symm
      listens := .refl _
      peers := .refl _
      resolvers := .refl _
      mailers := .refl _
      rest := rfl }
  exact ⟨hduplicates, hrearranged, by decide +kernel,
    findings_rearranged twoRoutes twoRoutesBackwards hduplicates hrearranged⟩

/-- Where a name is declared twice, the order matters: the last section of the name has the mode. -/
example :
    let config (modes : List Mode) : Configuration :=
      { frontends := [routingFrontend "web" "app"], backends := modes.map (backendWithMode "app") }
    ¬(config [.http, .tcp]).findings.Perm (config [.tcp, .http]).findings := by
  decide +kernel

end Balancer.Configuration
