import Balancer.Proofs.Auditing
import Balancer.Proofs.Consistency

/-!
# Undeclared names in conditions

The report warns about a name in a condition that its section does not declare. The conditions are
collected in three rounds: those in the body of a section, those on choices of backends, and those
on choices of servers. The last two are found by the name of the section, and the header they are
added under is made from that name, where a frontend or a backend goes before a `listen` section.

A section is taken as a whole here (`ProxySection`), and `ProxySection.Misses` says which names the
warnings should be about. The argument has three steps:

* while no name is declared twice, headers tell sections apart (`DistinctNames.nodup_headers`), and
  the header made from a name is the one of the section (`DistinctNames.map_entryPoints`,
  `DistinctNames.map_pools`);
* so what the three rounds collect under a header is what the section has
  (`DistinctNames.conditions_eq`), and the names left of it are reported once;
* what is shown of such a warning is shown of no other finding (`DistinctNames.shown_eq_iff`).

Then the warnings are exact, section by section and name by name
(`Configuration.findings_undeclaredAcl`).
-/

namespace Balancer

/-! ### Sections and their conditions -/

/-- **A proxy section**, with the parts of it that the report looks at. -/
structure ProxySection where
  header : Header
  body : ProxyBody
  intake : Option Intake := none
  pool : Option Pool := none

/-- The inherited settings as a section. The report looks at their body only. -/
def Defaults.proxy (defaults : Defaults) : ProxySection where
  header := ⟨"defaults", defaults.name⟩
  body := defaults.body

/-- A frontend as a section. -/
def Frontend.proxy (frontend : Frontend) : ProxySection where
  header := ⟨"frontend", frontend.name⟩
  body := frontend.body
  intake := frontend.intake

/-- A backend as a section. -/
def Backend.proxy (backend : Backend) : ProxySection where
  header := ⟨"backend", backend.name⟩
  body := backend.body
  pool := backend.pool

/-- A `listen` section as a section. -/
def Listen.proxy (listen : Listen) : ProxySection where
  header := ⟨"listen", listen.name⟩
  body := listen.body
  intake := listen.intake
  pool := listen.pool

namespace ProxySection

/-- **The section has a condition**: on a rule of any family, a redirect, a stick rule, the
administration of its statistics, a choice of a backend or a choice of a server. -/
def HasCondition (proxy : ProxySection) (condition : String) : Prop :=
  (∃ kind, ∃ rule ∈ proxy.body.rules.get kind, rule.condition = some condition) ∨
    (∃ redirect ∈ proxy.body.redirects, redirect.condition = some condition) ∨
    (∃ rule ∈ proxy.body.stickRules, rule.condition = some condition) ∨
    (∃ stats ∈ proxy.body.stats, stats.admin = some condition) ∨
    (∃ intake ∈ proxy.intake, ∃ choice ∈ intake.useBackends, choice.condition = some condition) ∨
    ∃ pool ∈ proxy.pool, ∃ choice ∈ pool.useServers, choice.condition = some condition

/-- **The section misses a name**: it occurs in a condition, the section does not declare it, and
the engine does not either. -/
def Misses (proxy : ProxySection) (name : String) : Prop :=
  (∃ condition, proxy.HasCondition condition ∧ name ∈ Condition.names condition) ∧
    (∀ acl ∈ proxy.body.acls, acl.name ≠ name) ∧ name ∉ predefinedAcls

/-- The conditions on the choices of backends. -/
def routeConditions (proxy : ProxySection) : List String :=
  (proxy.intake.map fun intake => intake.useBackends.filterMap UseBackend.condition).getD []

/-- The conditions on the choices of servers. -/
def choiceConditions (proxy : ProxySection) : List String :=
  (proxy.pool.map fun pool => pool.useServers.filterMap UseServer.condition).getD []

/-- The conditions of a section as they are collected. -/
def zone (proxy : ProxySection) : SectionConditions where
  header := proxy.header
  declared := proxy.body.acls.map Acl.name
  conditions := proxy.body.conditions ++ proxy.routeConditions ++ proxy.choiceConditions

theorem mem_zone_conditions_iff {proxy : ProxySection} {condition : String} :
    condition ∈ proxy.zone.conditions ↔ proxy.HasCondition condition := by
  have hrules : (∃ rule ∈ proxy.body.rules.written, rule.condition = some condition) ↔
      ∃ kind, ∃ rule ∈ proxy.body.rules.get kind, rule.condition = some condition := by
    have hall (kind : RuleKind) : kind ∈ RuleKind.writtenOrder := by cases kind <;> decide
    simp only [RuleSet.written, List.mem_flatMap]
    constructor
    · rintro ⟨rule, ⟨kind, -, hrule⟩, hcondition⟩
      exact ⟨kind, rule, hrule, hcondition⟩
    · rintro ⟨kind, rule, hrule, hcondition⟩
      exact ⟨rule, ⟨kind, hall kind, hrule⟩, hcondition⟩
  have hstats : condition ∈ (proxy.body.stats.bind Stats.admin).toList ↔
      ∃ stats ∈ proxy.body.stats, stats.admin = some condition := by
    simp [Option.bind_eq_some_iff]
  have hroutes : condition ∈ proxy.routeConditions ↔ ∃ intake ∈ proxy.intake,
      ∃ choice ∈ intake.useBackends, choice.condition = some condition := by
    cases hintake : proxy.intake <;> simp [routeConditions, hintake]
  have hchoices : condition ∈ proxy.choiceConditions ↔ ∃ pool ∈ proxy.pool,
      ∃ choice ∈ pool.useServers, choice.condition = some condition := by
    cases hpool : proxy.pool <;> simp [choiceConditions, hpool]
  simp only [zone, ProxyBody.conditions, List.mem_append, List.mem_filterMap, hrules, hstats,
    hroutes, hchoices, HasCondition, or_assoc]

theorem mem_undeclared_iff {proxy : ProxySection} {name : String} :
    name ∈ proxy.zone.undeclared ↔ proxy.Misses name := by
  simp only [SectionConditions.undeclared, List.mem_eraseDups, List.mem_filter, List.mem_flatMap,
    mem_zone_conditions_iff, Misses]
  simp [zone]

end ProxySection

/-! ### The sections of a configuration -/

namespace Configuration

/-- **The frontends, backends and `listen` sections** of a configuration. -/
def sections (config : Configuration) : List ProxySection :=
  config.frontends.map Frontend.proxy ++ config.backends.map Backend.proxy ++
    config.listens.map Listen.proxy

/-- All proxy sections, the inherited settings in front. -/
def allSections (config : Configuration) : List ProxySection :=
  config.defaults.toList.map Defaults.proxy ++ config.sections

variable {config : Configuration}

theorem proxies_eq :
    config.proxies = config.allSections.map fun proxy => (proxy.header, proxy.body) := by
  simp only [proxies, allSections, sections, List.map_append, List.map_map, List.append_assoc]
  rfl

theorem space_notMem_kind {proxy : ProxySection} (h : proxy ∈ config.allSections) :
    ' ' ∉ proxy.header.kind.toList := by
  have hkinds : ∀ proxy ∈ config.allSections,
      proxy.header.kind ∈ ["defaults", "frontend", "backend", "listen"] := by
    simp only [allSections, sections, List.forall_mem_append, List.forall_mem_map]
    simp [Defaults.proxy, Frontend.proxy, Backend.proxy, Listen.proxy]
  have hspaces : ∀ kind ∈ ["defaults", "frontend", "backend", "listen"], ' ' ∉ kind.toList := by
    decide
  exact hspaces _ (hkinds proxy h)

theorem entryHeader_frontend {frontend : Frontend} (h : frontend ∈ config.frontends) :
    config.entryHeader frontend.name = frontend.proxy.header := by
  have hany : config.frontends.any (fun other => other.name == frontend.name) = true :=
    List.any_eq_true.2 ⟨frontend, h, beq_self_eq_true _⟩
  rw [entryHeader, if_pos hany]
  rfl

theorem poolHeader_backend {backend : Backend} (h : backend ∈ config.backends) :
    config.poolHeader backend.name = backend.proxy.header := by
  have hany : config.backends.any (fun other => other.name == backend.name) = true :=
    List.any_eq_true.2 ⟨backend, h, beq_self_eq_true _⟩
  rw [poolHeader, if_pos hany]
  rfl

namespace DistinctNames

variable (h : config.DistinctNames)

include h

/-- **Sections with different names have different headers.** -/
theorem nodup_headers : (config.allSections.map ProxySection.header).Nodup := by
  have hnamed (kind : String) {names : List String} (hnames : names.Nodup) :
      (names.map fun name => Header.mk kind (some name)).Nodup := by
    refine hnames.map fun name other heq => ?_
    simpa using heq
  have hfrontends := hnamed "frontend" h.frontends
  have hbackends := hnamed "backend" h.backends
  have hlistens := hnamed "listen" h.listens
  have hdefaults : (config.defaults.toList.map fun defaults =>
      Header.mk "defaults" defaults.name).Nodup := by
    cases config.defaults <;> simp
  rw [List.map_map] at hfrontends hbackends hlistens
  simp only [allSections, sections, List.map_append, List.map_map, List.nodup_append,
    List.mem_append, List.mem_map]
  have hkinds {header header' : Header} (hne : header.kind ≠ header'.kind) : header ≠ header' :=
    fun heq => hne (congrArg Header.kind heq)
  refine ⟨hdefaults, ⟨⟨hfrontends, hbackends, ?_⟩, hlistens, ?_⟩, ?_⟩
  · rintro _ ⟨frontend, -, rfl⟩ _ ⟨backend, -, rfl⟩
    exact hkinds (by simp [Frontend.proxy, Backend.proxy])
  · rintro _ (⟨frontend, -, rfl⟩ | ⟨backend, -, rfl⟩) _ ⟨listen, -, rfl⟩
    · exact hkinds (by simp [Frontend.proxy, Listen.proxy])
    · exact hkinds (by simp [Backend.proxy, Listen.proxy])
  · rintro _ ⟨defaults, -, rfl⟩ _ ((⟨frontend, -, rfl⟩ | ⟨backend, -, rfl⟩) | ⟨listen, -, rfl⟩)
    · exact hkinds (by simp [Defaults.proxy, Frontend.proxy])
    · exact hkinds (by simp [Defaults.proxy, Backend.proxy])
    · exact hkinds (by simp [Defaults.proxy, Listen.proxy])

theorem entryHeader_listen {listen : Listen} (hlisten : listen ∈ config.listens) :
    config.entryHeader listen.name = listen.proxy.header := by
  have hnone : ¬config.frontends.any (fun frontend => frontend.name == listen.name) = true := by
    simpa using fun frontend hfrontend =>
      (h.listen_ne_frontend listen hlisten frontend hfrontend).symm
  rw [entryHeader, if_neg hnone]
  rfl

theorem poolHeader_listen {listen : Listen} (hlisten : listen ∈ config.listens) :
    config.poolHeader listen.name = listen.proxy.header := by
  have hnone : ¬config.backends.any (fun backend => backend.name == listen.name) = true := by
    simpa using fun backend hbackend => (h.listen_ne_backend listen hlisten backend hbackend).symm
  rw [poolHeader, if_neg hnone]
  rfl

/-- **The accepting sides are found under the headers of their sections.** -/
theorem map_entryPoints :
    (config.entryPoints.map fun entry => (config.entryHeader entry.1, entry.2)) =
      config.allSections.filterMap fun proxy =>
        proxy.intake.map fun intake => (proxy.header, proxy.body, intake) := by
  have hfrontends : (config.frontends.map fun frontend =>
      (config.entryHeader frontend.name, frontend.body, frontend.intake)) =
      config.frontends.map fun frontend =>
        (frontend.proxy.header, frontend.body, frontend.intake) :=
    List.map_congr_left fun frontend hfrontend => by rw [entryHeader_frontend hfrontend]
  have hlistens : (config.listens.map fun listen =>
      (config.entryHeader listen.name, listen.body, listen.intake)) =
      config.listens.map fun listen => (listen.proxy.header, listen.body, listen.intake) :=
    List.map_congr_left fun listen hlisten => by rw [h.entryHeader_listen hlisten]
  simp only [entryPoints, List.map_append, List.map_map, Function.comp_def, hfrontends, hlistens]
  simp [allSections, sections, Function.comp_def, Defaults.proxy, Frontend.proxy, Backend.proxy,
    Listen.proxy]

/-- **The pools are found under the headers of their sections.** -/
theorem map_pools :
    (config.pools.map fun entry => (config.poolHeader entry.1, entry.2)) =
      config.allSections.filterMap fun proxy =>
        proxy.pool.map fun pool => (proxy.header, pool) := by
  have hbackends : (config.backends.map fun backend =>
      (config.poolHeader backend.name, backend.pool)) =
      config.backends.map fun backend => (backend.proxy.header, backend.pool) :=
    List.map_congr_left fun backend hbackend => by rw [poolHeader_backend hbackend]
  have hlistens : (config.listens.map fun listen =>
      (config.poolHeader listen.name, listen.pool)) =
      config.listens.map fun listen => (listen.proxy.header, listen.pool) :=
    List.map_congr_left fun listen hlisten => by rw [h.poolHeader_listen hlisten]
  simp only [pools, List.map_append, List.map_map, Function.comp_def, hbackends, hlistens]
  simp [allSections, sections, Function.comp_def, Defaults.proxy, Frontend.proxy, Backend.proxy,
    Listen.proxy]

end DistinctNames

end Configuration

/-! ### Conditions that are added under a header -/

theorem nodup_eraseDups (names : List String) : names.eraseDups.Nodup := by
  induction hlength : names.length using Nat.strong_induction_on generalizing names with
  | _ n ih =>
    cases names with
    | nil => exact List.nodup_nil
    | cons name names =>
      have hshorter : (names.filter fun other => !other == name).length < n :=
        hlength ▸ Nat.lt_succ_of_le (List.length_filter_le _ names)
      rw [List.eraseDups_cons, List.nodup_cons, List.mem_eraseDups]
      exact ⟨by simp, ih _ hshorter _ rfl⟩

/-- The conditions of a section with more conditions at the end. -/
def SectionConditions.add (zone : SectionConditions) (conditions : List String) :
    SectionConditions :=
  { zone with conditions := zone.conditions ++ conditions }

/-- What is added under a header, in order. -/
def gathered (header : Header) (additions : List (Header × List String)) : List String :=
  (additions.filter fun addition => addition.1 = header).flatMap Prod.snd

section Additions

variable {header : Header} {part : List String} {additions : List (Header × List String)}
  {zones : List SectionConditions}

theorem gathered_cons_self : gathered header ((header, part) :: additions) =
    part ++ gathered header additions := by
  simp [gathered]

theorem gathered_cons_of_ne {other : Header} (h : other ≠ header) :
    gathered header ((other, part) :: additions) = gathered header additions := by
  simp [gathered, h]

theorem gathered_eq_nil (h : ∀ addition ∈ additions, addition.1 ≠ header) :
    gathered header additions = [] := by
  have hnone : (additions.filter fun addition => addition.1 = header) = [] :=
    List.filter_eq_nil_iff.2 fun addition haddition => by simp [h addition haddition]
  rw [gathered, hnone, List.flatMap_nil]

theorem addConditions_eq_map (conditions : List String)
    (h : (zones.map SectionConditions.header).Nodup) :
    addConditions header conditions zones =
      zones.map fun zone => if zone.header = header then zone.add conditions else zone := by
  induction zones with
  | nil => rfl
  | cons zone zones ih =>
    rw [List.map_cons, List.nodup_cons] at h
    obtain ⟨hzone, hzones⟩ := h
    rw [addConditions, List.map_cons]
    split_ifs with hheader
    · have hother : ∀ other ∈ zones, other.header ≠ header := by
        rintro other hother rfl
        exact hzone (List.mem_map.2 ⟨other, hother, hheader.symm⟩)
      have hsame : (zones.map fun zone =>
          if zone.header = header then zone.add conditions else zone) = zones := by
        rw [List.map_congr_left fun other h => if_neg (hother other h), List.map_id']
      rw [hsame]
      rfl
    · rw [ih hzones]

/-- **What several additions add up to.** Each section gets, in order, what is added under its
header. -/
theorem foldl_addConditions (additions : List (Header × List String))
    (h : (zones.map SectionConditions.header).Nodup) :
    additions.foldl (fun zones addition => addConditions addition.1 addition.2 zones) zones =
      zones.map fun zone => zone.add (gathered zone.header additions) := by
  induction additions generalizing zones with
  | nil => simp [gathered, SectionConditions.add]
  | cons addition additions ih =>
    obtain ⟨header, part⟩ := addition
    have hheaders : (zones.map fun zone =>
        if zone.header = header then zone.add part else zone).map SectionConditions.header =
        zones.map SectionConditions.header := by
      rw [List.map_map]
      refine List.map_congr_left fun zone _ => ?_
      rw [Function.comp_apply]
      split_ifs <;> rfl
    rw [List.foldl_cons, addConditions_eq_map part h, ih (hheaders ▸ h), List.map_map]
    refine List.map_congr_left fun zone _ => ?_
    rw [Function.comp_apply]
    split_ifs with hheader
    · subst hheader
      rw [gathered_cons_self]
      simp [SectionConditions.add]
    · rw [gathered_cons_of_ne (Ne.symm hheader)]

/-- What is added for some of several sections, under their own headers. -/
theorem gathered_filterMap {sections : List ProxySection} {proxy : ProxySection}
    (hnodup : (sections.map ProxySection.header).Nodup) (hproxy : proxy ∈ sections)
    (part? : ProxySection → Option (List String)) :
    gathered proxy.header (sections.filterMap fun proxy =>
      (part? proxy).map fun part => (proxy.header, part)) = (part? proxy).getD [] := by
  induction sections with
  | nil => cases hproxy
  | cons first sections ih =>
    rw [List.map_cons, List.nodup_cons] at hnodup
    obtain ⟨hfirst, hsections⟩ := hnodup
    rw [List.filterMap_cons]
    rcases List.mem_cons.1 hproxy with rfl | hmem
    · -- the section is the first one, and no other has its header
      have hothers : gathered proxy.header (sections.filterMap fun proxy =>
          (part? proxy).map fun part => (proxy.header, part)) = [] := by
        refine gathered_eq_nil fun addition haddition heq => ?_
        obtain ⟨other, hother, hpart⟩ := List.mem_filterMap.1 haddition
        obtain ⟨part, -, rfl⟩ := Option.map_eq_some_iff.1 hpart
        exact hfirst (List.mem_map.2 ⟨other, hother, heq⟩)
      cases part? proxy with
      | none => exact hothers
      | some part =>
        rw [Option.map_some, Option.getD_some, gathered_cons_self, hothers, List.append_nil]
    · have hne : first.header ≠ proxy.header :=
        fun heq => hfirst (heq ▸ List.mem_map_of_mem hmem)
      cases part? first with
      | none => exact ih hsections hmem
      | some part =>
        rw [Option.map_some, gathered_cons_of_ne hne]
        exact ih hsections hmem

end Additions

namespace Configuration

variable {config : Configuration}

theorem conditions_eq_foldl : config.conditions =
    (config.pools.map fun entry => (config.poolHeader entry.1,
      entry.2.useServers.filterMap UseServer.condition)).foldl
        (fun zones addition => addConditions addition.1 addition.2 zones)
    ((config.entryPoints.map fun entry => (config.entryHeader entry.1,
      entry.2.2.useBackends.filterMap UseBackend.condition)).foldl
        (fun zones addition => addConditions addition.1 addition.2 zones)
    (config.allSections.map fun proxy =>
      ⟨proxy.header, proxy.body.acls.map Acl.name, proxy.body.conditions⟩)) := by
  rw [conditions, proxies_eq, List.foldl_map, List.foldl_map, List.map_map]
  rfl

namespace DistinctNames

variable (h : config.DistinctNames)

include h

/-- **Each section has its own conditions**, and no others. -/
theorem conditions_eq : config.conditions = config.allSections.map ProxySection.zone := by
  have hroutes : (config.entryPoints.map fun entry => (config.entryHeader entry.1,
      entry.2.2.useBackends.filterMap UseBackend.condition)) =
      config.allSections.filterMap fun proxy => (proxy.intake.map fun intake =>
        intake.useBackends.filterMap UseBackend.condition).map
          fun part => (proxy.header, part) := by
    have hmap := congrArg (List.map fun entry : Header × ProxyBody × Intake =>
      (entry.1, entry.2.2.useBackends.filterMap UseBackend.condition)) h.map_entryPoints
    simpa [List.map_filterMap, Function.comp_def] using hmap
  have hchoices : (config.pools.map fun entry => (config.poolHeader entry.1,
      entry.2.useServers.filterMap UseServer.condition)) =
      config.allSections.filterMap fun proxy => (proxy.pool.map fun pool =>
        pool.useServers.filterMap UseServer.condition).map fun part => (proxy.header, part) := by
    have hmap := congrArg (List.map fun entry : Header × Pool =>
      (entry.1, entry.2.useServers.filterMap UseServer.condition)) h.map_pools
    simpa [List.map_filterMap, Function.comp_def] using hmap
  have hnodup := h.nodup_headers
  have hown : ((config.allSections.map fun proxy => SectionConditions.mk proxy.header
      (proxy.body.acls.map Acl.name) proxy.body.conditions).map
        SectionConditions.header).Nodup := by
    rw [List.map_map]
    exact hnodup
  rw [conditions_eq_foldl, hroutes, hchoices, foldl_addConditions _ hown, List.map_map,
    foldl_addConditions _ (by rw [List.map_map]; exact hnodup), List.map_map]
  refine List.map_congr_left fun proxy hproxy => ?_
  simp only [Function.comp_apply, SectionConditions.add, gathered_filterMap hnodup hproxy]
  rfl

/-- **What is reported about names in conditions.** -/
theorem mem_aclReferences_iff {finding : Finding} :
    finding ∈ config.aclReferences ↔ ∃ proxy ∈ config.allSections, ∃ name,
      proxy.Misses name ∧ finding = ⟨proxy.header, .undeclaredAcl name⟩ := by
  rw [aclReferences, h.conditions_eq, List.flatMap_map]
  simp only [List.mem_flatMap, List.mem_map, ProxySection.mem_undeclared_iff]
  constructor
  · rintro ⟨proxy, hproxy, name, hname, rfl⟩
    exact ⟨proxy, hproxy, name, hname, rfl⟩
  · rintro ⟨proxy, hproxy, name, hname, rfl⟩
    exact ⟨proxy, hproxy, name, hname, rfl⟩

/-- Nothing is reported twice about names in conditions. -/
theorem nodup_aclReferences : config.aclReferences.Nodup := by
  rw [aclReferences, h.conditions_eq, List.flatMap_map, List.nodup_flatMap]
  constructor
  · intro proxy _
    refine (nodup_eraseDups _).map fun name other heq => ?_
    simpa using heq
  · have hpairwise := List.pairwise_map.1 h.nodup_headers
    refine hpairwise.imp fun {proxy other} hne => ?_
    intro finding hfinding hother
    obtain ⟨name, -, rfl⟩ := List.mem_map.1 hfinding
    obtain ⟨name', -, heq⟩ := List.mem_map.1 hother
    exact hne (congrArg Finding.header heq).symm

end DistinctNames

end Configuration

/-! ### Names declared twice -/

/-- Whether the problem is a name that is declared twice. -/
def Problem.isDuplicate : Problem → Bool
  | duplicateProxy _ | duplicateGroup _ _ => true
  | _ => false

namespace Configuration

/-- **No name is reported as declared twice.** -/
def NoDuplicates (config : Configuration) : Prop :=
  ∀ finding ∈ config.findings, finding.problem.isDuplicate = false

instance (config : Configuration) : Decidable config.NoDuplicates :=
  inferInstanceAs (Decidable (∀ finding ∈ config.findings, finding.problem.isDuplicate = false))

variable {config : Configuration}

theorem isDuplicate_of_mem_duplicates {finding : Finding} (h : finding ∈ config.duplicates) :
    finding.isError = true ∧ finding.problem.isDuplicate = true := by
  simp only [duplicates, duplicateProxies, duplicateGroups, List.mem_append, List.mem_map] at h
  rcases h with ((((⟨_, _, rfl⟩ | ⟨_, _, rfl⟩) | ⟨_, _, rfl⟩) | ⟨_, _, rfl⟩) | ⟨_, _, rfl⟩) |
    ⟨_, _, rfl⟩ <;> exact ⟨rfl, rfl⟩

theorem duplicates_eq_nil_iff : config.duplicates = [] ↔ config.DistinctNames := by
  rw [← errorFree_duplicates_iff, List.eq_nil_iff_forall_not_mem]
  refine forall_congr' fun finding => ⟨fun h hmem => absurd hmem h, fun h hmem => ?_⟩
  exact h hmem (isDuplicate_of_mem_duplicates hmem).1

theorem NoDuplicates.distinctNames (h : config.NoDuplicates) : config.DistinctNames := by
  refine duplicates_eq_nil_iff.1 (List.eq_nil_iff_forall_not_mem.2 fun finding hfinding => ?_)
  have hmem : finding ∈ config.findings := by
    simp only [findings, List.mem_append, hfinding, true_or]
  have hreported := (isDuplicate_of_mem_duplicates hfinding).2
  rw [h finding hmem] at hreported
  cases hreported

/-! ### Other findings -/

section Others

variable {header : Header} {name : String}

theorem undeclaredAcl_notMem_routing : ⟨header, .undeclaredAcl name⟩ ∉ config.routing := by
  simp only [routing, List.mem_flatMap, List.mem_filterMap, Option.map_eq_some_iff]
  rintro ⟨entry, -, route, -, problem, hproblem, heq⟩
  cases congrArg Finding.problem heq
  unfold routeProblem? at hproblem
  split at hproblem
  · split at hproblem
    · split at hproblem <;> simp at hproblem
    · simp at hproblem
  · simp at hproblem

theorem undeclaredAcl_notMem_stickRules : ⟨header, .undeclaredAcl name⟩ ∉ config.stickRules := by
  simp only [stickRules, List.mem_flatMap, List.mem_filterMap, Option.map_eq_some_iff]
  rintro ⟨entry, -, rule, -, problem, hproblem, heq⟩
  cases congrArg Finding.problem heq
  rw [stickProblem?] at hproblem
  split at hproblem
  · split_ifs at hproblem
    simp at hproblem
  · split_ifs at hproblem
    simp at hproblem

theorem undeclaredAcl_notMem_modes : ⟨header, .undeclaredAcl name⟩ ∉ config.modes := by
  simp only [modes, List.mem_flatMap, List.mem_map]
  rintro ⟨entry, -, problem, hproblem, heq⟩
  cases congrArg Finding.problem heq
  rw [ProxyBody.modeProblems] at hproblem
  split at hproblem <;> simp at hproblem

/-- Names in conditions are only reported by their own check. -/
theorem count_findings_undeclaredAcl :
    config.findings.count ⟨header, .undeclaredAcl name⟩ =
      config.aclReferences.count ⟨header, .undeclaredAcl name⟩ := by
  have hduplicates : ⟨header, .undeclaredAcl name⟩ ∉ config.duplicates := by
    simp [duplicates, duplicateProxies, duplicateGroups]
  have hchoices : ⟨header, .undeclaredAcl name⟩ ∉ config.serverChoices := by
    simp [serverChoices]
  have hempty : ⟨header, .undeclaredAcl name⟩ ∉ config.emptySections := by
    simp [emptySections]
  simp [findings, List.count_append, List.count_eq_zero_of_not_mem, hduplicates, hchoices, hempty,
    undeclaredAcl_notMem_routing, undeclaredAcl_notMem_stickRules, undeclaredAcl_notMem_modes]

end Others

end Configuration

/-! ### Findings as they are shown -/

/-- **What is shown of a finding**: how much it matters, the header of the section, and the text of
the problem. -/
def Finding.shown (finding : Finding) : Severity × String × String :=
  (finding.severity, finding.header.text, finding.problem.message)

/-- Headers of kinds without spaces are told apart by their texts. -/
theorem Header.text_inj {header header' : Header} (h : ' ' ∉ header.kind.toList)
    (h' : ' ' ∉ header'.kind.toList) : header.text = header'.text ↔ header = header' := by
  refine ⟨fun htext => ?_, congrArg Header.text⟩
  obtain ⟨kind, name⟩ := header
  obtain ⟨kind', name'⟩ := header'
  have hkind (kind : String) (h : ' ' ∉ kind.toList) (name : Option String) :
      (Header.mk kind name).text.toList.takeWhile (· != ' ') = kind.toList := by
    have hall : ∀ c ∈ kind.toList, (c != ' ') = true := by
      intro c hc
      simpa using fun heq : c = ' ' => h (heq ▸ hc)
    cases name with
    | none => exact List.takeWhile_eq_self_iff.2 hall
    | some name => simp [Header.text, List.takeWhile_append_of_pos hall]
  obtain rfl : kind = kind' := by
    rw [← String.toList_inj, ← hkind kind h name, htext, hkind kind' h' name']
  have hspace (name : String) : ' ' ∈ (Header.mk kind (some name)).text.toList := by
    simp [Header.text]
  cases name with
  | none =>
    cases name' with
    | none => rfl
    | some name' => exact absurd (hspace name') (htext ▸ h)
  | some name =>
    cases name' with
    | none => exact absurd (hspace name) (htext ▸ h')
    | some name' =>
      have hname : kind ++ " " ++ name = kind ++ " " ++ name' := htext
      rw [(String.append_right_inj _).1 hname]

/-- The text about an undeclared name begins like no other warning. -/
theorem Problem.exists_undeclaredAcl_of_head? {problem : Problem}
    (hseverity : problem.severity = .warning)
    (hhead : problem.message.toList.head? = some 'c') : ∃ name, problem = .undeclaredAcl name := by
  -- The texts are written out by definition: the equations of `message` are slow to derive.
  cases problem with
  | duplicateProxy _ | duplicateGroup _ _ | unknownBackend _ _ | unknownServer _
  | undeclaredTable _ _ | noTable _ => cases hseverity
  | undeclaredAcl name => exact ⟨name, rfl⟩
  | otherMode own target theirs =>
    change ("routes " ++ own.keyword ++ " traffic to backend `" ++ target ++ "` in " ++
      theirs.keyword ++ " mode").toList.head? = some 'c' at hhead
    simp at hhead
  | uselessOption flag =>
    change ("option " ++ flag.wire ++ " has no effect in http mode").toList.head? =
      some 'c' at hhead
    simp at hhead
  | httpOption flag =>
    change ("option " ++ flag.wire ++ " requires http mode").toList.head? = some 'c' at hhead
    simp at hhead
  | httpRules kind =>
    have hkeyword :
        kind.keyword.toList.head? = some 'h' ∨ kind.keyword.toList.head? = some 't' := by
      cases kind <;> decide
    change (kind.keyword ++ " rules require http mode").toList.head? = some 'c' at hhead
    rcases hkeyword with hkeyword | hkeyword <;> simp [hkeyword] at hhead
  | noBind => exact absurd hhead (by decide)
  | noServers => exact absurd hhead (by decide)

/-- A warning about a name in a condition is told apart by its text. -/
theorem Problem.eq_undeclaredAcl {problem : Problem} {name : String}
    (hseverity : problem.severity = .warning)
    (hmessage : problem.message = s!"condition uses undeclared ACL `{name}`") :
    problem = .undeclaredAcl name := by
  have hhead : problem.message.toList.head? = some 'c' := by
    change problem.message = "condition uses undeclared ACL `" ++ name ++ "`" at hmessage
    simp [hmessage]
  obtain ⟨other, rfl⟩ := exists_undeclaredAcl_of_head? hseverity hhead
  have htext : "condition uses undeclared ACL `" ++ other ++ "`" =
      "condition uses undeclared ACL `" ++ name ++ "`" := hmessage
  rw [(String.append_right_inj _).1 ((String.append_left_inj _).1 htext)]

namespace Configuration

variable {config : Configuration}

/-- What is shown of an undeclared name is shown of nothing else. -/
theorem DistinctNames.shown_eq_iff (h : config.DistinctNames) {proxy : ProxySection}
    (hproxy : proxy ∈ config.allSections) {name : String} {finding : Finding}
    (hfinding : finding ∈ config.findings) :
    finding.shown = (.warning, proxy.header.text, s!"condition uses undeclared ACL `{name}`") ↔
      finding = ⟨proxy.header, .undeclaredAcl name⟩ := by
  constructor
  · intro hshown
    obtain ⟨header, problem⟩ := finding
    simp only [Finding.shown, Prod.mk.injEq] at hshown
    obtain ⟨hseverity, htext, hmessage⟩ := hshown
    obtain rfl := Problem.eq_undeclaredAcl hseverity hmessage
    -- the report only has such a finding under the header of a section
    have hcount := List.count_pos_iff.2 hfinding
    rw [count_findings_undeclaredAcl, List.count_pos_iff, h.mem_aclReferences_iff] at hcount
    obtain ⟨other, hother, _, -, heq⟩ := hcount
    obtain rfl : header = other.header := congrArg Finding.header heq
    rw [(Header.text_inj (space_notMem_kind hother) (space_notMem_kind hproxy)).1 htext]
  · rintro rfl
    rfl

theorem DistinctNames.count_shown (h : config.DistinctNames) {proxy : ProxySection}
    (hproxy : proxy ∈ config.allSections) (name : String) :
    (config.findings.map Finding.shown).count
        (.warning, proxy.header.text, s!"condition uses undeclared ACL `{name}`") =
      config.aclReferences.count ⟨proxy.header, .undeclaredAcl name⟩ := by
  rw [← count_findings_undeclaredAcl, List.count_eq_countP, List.countP_map,
    List.count_eq_countP]
  refine List.countP_congr fun finding hfinding => ?_
  rw [Function.comp_apply, beq_iff_eq, beq_iff_eq]
  exact h.shown_eq_iff hproxy hfinding

/-- **Undeclared names are reported exactly.** A frontend, a backend or a `listen` section that
misses a name has one warning about it, and a section that does not has none. -/
theorem findings_undeclaredAcl (config : Configuration) (h : config.NoDuplicates)
    (proxy : ProxySection) (hproxy : proxy ∈ config.sections) (name : String) :
    (proxy.Misses name →
      (config.findings.map Finding.shown).count
        (.warning, proxy.header.text, s!"condition uses undeclared ACL `{name}`") = 1) ∧
    (¬proxy.Misses name →
      (config.findings.map Finding.shown).count
        (.warning, proxy.header.text, s!"condition uses undeclared ACL `{name}`") = 0) := by
  have hnames := h.distinctNames
  have hmem : proxy ∈ config.allSections := List.mem_append_right _ hproxy
  rw [hnames.count_shown hmem]
  constructor
  · intro hmisses
    refine List.count_eq_one_of_mem hnames.nodup_aclReferences ?_
    exact hnames.mem_aclReferences_iff.2 ⟨proxy, hmem, name, hmisses, rfl⟩
  · intro hmisses
    refine List.count_eq_zero_of_not_mem fun hreported => ?_
    obtain ⟨other, hother, _, hmisses', heq⟩ := hnames.mem_aclReferences_iff.1 hreported
    have hheader : proxy.header = other.header := congrArg Finding.header heq
    obtain rfl := List.inj_on_of_nodup_map hnames.nodup_headers hmem hother hheader
    cases congrArg Finding.problem heq
    exact hmisses hmisses'

/-- A frontend that declares the name it routes by. -/
def declaringFrontend : Frontend where
  name := "web"
  body := { acls := [⟨"is_api", "path_beg", [], ["/api"]⟩] }
  intake := { useBackends := [⟨"web", some "is_api"⟩] }

/-- A backend with the name of the frontend that chooses servers by the frontend's condition, twice
in one choice and once in another. -/
def borrowingBackend : Backend where
  name := "web"
  pool := { useServers := [⟨"w1", some "is_api or !is_api"⟩, ⟨"w2", some "is_api"⟩] }

/-- The backend is warned once, and the frontend is not. -/
theorem findings_undeclaredAcl_borrowingBackend :
    let config : Configuration :=
      { frontends := [declaringFrontend], backends := [borrowingBackend] }
    config.NoDuplicates ∧ borrowingBackend.proxy ∈ config.sections ∧
      borrowingBackend.proxy.Misses "is_api" ∧ ¬declaringFrontend.proxy.Misses "is_api" ∧
      (config.findings.map Finding.shown).count
        (.warning, "backend web", "condition uses undeclared ACL `is_api`") = 1 ∧
      (config.findings.map Finding.shown).count
        (.warning, "frontend web", "condition uses undeclared ACL `is_api`") = 0 := by
  intro config
  have hduplicates : config.NoDuplicates := by decide +kernel
  have hbackend : borrowingBackend.proxy ∈ config.sections := List.mem_of_mem_tail (.head _)
  have hmisses : borrowingBackend.proxy.Misses "is_api" := by
    refine ⟨⟨"is_api", ?_, by decide +kernel⟩, nofun, by decide⟩
    exact .inr (.inr (.inr (.inr (.inr ⟨_, rfl, _, .tail _ (.head _), rfl⟩))))
  have hdeclares : ¬declaringFrontend.proxy.Misses "is_api" :=
    fun hmisses => hmisses.2.1 _ (.head _) rfl
  exact ⟨hduplicates, hbackend, hmisses, hdeclares,
    (findings_undeclaredAcl config hduplicates _ hbackend "is_api").1 hmisses,
    (findings_undeclaredAcl config hduplicates _ (.head _) "is_api").2 hdeclares⟩

end Configuration

end Balancer
