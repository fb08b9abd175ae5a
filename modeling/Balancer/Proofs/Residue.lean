import Balancer.Proofs.Contents
import Balancer.Proofs.Labels
import Balancer.Proofs.Normal
import Balancer.Proofs.Parameters
import Balancer.Proofs.Substitution

/-!
# What is left of the design

Variables, templates, loops and spreads only exist while a configuration is designed. This file
says that none of them is left once a document is compiled, in whatever section it may have stood.

For backends and `listen` sections this is the work of the passes: unrolling leaves no loop, and a
server that has taken its templates over names none any more. `Configuration.isNormal` says so, and
it looks at these sections only.

The **inherited settings** have a pool as well, and the passes do not enter it; a loop or a spread
in it would stay for good. It is the assembly that keeps them out: whatever stands in a `defaults`
section, and in whatever order, its pool gets no server, no loop and no family of servers
(`Defaults.hostless_of_ofNode`), and substitution, the one pass that reaches the pool, keeps it so
(`Pool.Hostless.traverse`).
-/

namespace Balancer

/-! ### Pools that nothing is pending in -/

/-- **Nothing is left to do in a pool**: its loops are unrolled, and no server names a template. -/
structure Pool.Done (pool : Pool) : Prop where
  loops : pool.loops = []
  spreads : ∀ server ∈ pool.servers, server.spreads = []

/-- **A pool without servers**, and without anything that stands for servers. -/
structure Pool.Hostless (pool : Pool) : Prop where
  servers : pool.servers = []
  loops : pool.loops = []
  serverTemplates : pool.serverTemplates = []

theorem Pool.Hostless.done {pool : Pool} (h : pool.Hostless) : pool.Done where
  loops := h.loops
  spreads := by
    rw [h.servers]
    exact List.forall_mem_nil _

/-- **The pools of a configuration**, that of the inherited settings included. -/
def Configuration.allPools (config : Configuration) : List Pool :=
  config.defaults.toList.map Defaults.pool ++ config.backends.map Backend.pool ++
    config.listens.map Listen.pool

/-! ### The passes leave nothing behind -/

section Passes

variable {scope : OrderedMap Value} {templates : OrderedMap Template}

/-- A server that has taken its templates over names none. -/
theorem Server.spreads_of_expand {server result : Server}
    (h : server.expand scope templates = .ok result) : result.spreads = [] :=
  (Server.expand_eq_ok h).2.spreads

theorem Server.spreads_of_normalize {lookup : String → Except NormalizeError Value}
    {server result : Server} (h : server.normalize scope templates lookup = .ok result) :
    result.spreads = [] := by
  obtain ⟨substituted, -, hexpand⟩ := bind_eq_ok.1 h
  exact Server.spreads_of_expand hexpand

/-- What holds of everything that is related to something holds of the second of two related
lists. -/
theorem forall_mem_of_forall₂ {α β : Type} {R : α → β → Prop} {P : β → Prop} {as : List α}
    {bs : List β} (h : List.Forall₂ R as bs) (hstep : ∀ a b, R a b → P b) : ∀ b ∈ bs, P b := by
  induction h with
  | nil => exact List.forall_mem_nil _
  | cons hab _ ih => exact List.forall_mem_cons.2 ⟨hstep _ _ hab, ih⟩

theorem ServerLoop.spreads_of_normalize {loop : ServerLoop} {servers : List Server}
    (h : loop.normalize scope templates = .ok servers) :
    ∀ server ∈ servers, server.spreads = [] := by
  obtain ⟨plain, -, hexpand⟩ := ServerLoop.normalize_eq_ok_iff.1 h
  exact forall_mem_of_forall₂ (mapM_eq_ok.1 hexpand) fun _ _ => Server.spreads_of_expand

/-- **A pool that has gone through all passes is done.** -/
theorem Pool.done_of_normalize {pool result : Pool}
    (h : pool.normalize scope templates = .ok result) : result.Done := by
  obtain ⟨-, hloops, direct, generated, hdirect, hgenerated, hservers⟩ :=
    Pool.normalize_eq_ok_iff.1 h
  refine ⟨hloops, ?_⟩
  rw [hservers]
  refine List.forall_mem_append.2 ⟨?_, ?_⟩
  · exact forall_mem_of_forall₂ (mapM_eq_ok.1 hdirect) fun _ _ => Server.spreads_of_normalize
  · intro server hserver
    obtain ⟨servers, hmem, hserver⟩ := List.mem_flatten.1 hserver
    exact forall_mem_of_forall₂ (mapM_eq_ok.1 hgenerated)
      (fun _ _ => ServerLoop.spreads_of_normalize) servers hmem server hserver

theorem Backend.done_of_normalize {backend result : Backend}
    (h : backend.normalize scope templates = .ok result) : result.pool.Done :=
  Pool.done_of_normalize (Backend.normalize_eq_ok_iff.1 h).2.2

theorem Listen.done_of_normalize {listen result : Listen}
    (h : listen.normalize scope templates = .ok result) : result.pool.Done :=
  Pool.done_of_normalize (Listen.normalize_eq_ok_iff.1 h).2.2.2

end Passes

namespace Configuration

variable {config result : Configuration}

/-- **A configuration is normal** when it has no variables and no templates, and the pools of its
backends and `listen` sections are done. -/
theorem isNormal_iff :
    config.isNormal = true ↔
      config.definitions = ∅ ∧ config.templates = ∅ ∧
        (∀ backend ∈ config.backends, backend.pool.Done) ∧
        ∀ listen ∈ config.listens, listen.pool.Done := by
  have hempty {α : Type} (m : OrderedMap α) : m.isEmpty = true ↔ m = ∅ := by
    obtain ⟨entries, hn⟩ := m
    constructor
    · intro h
      cases List.isEmpty_iff.1 h
      rfl
    · intro h
      rw [h]
      rfl
  have hdone (pool : Pool) :
      (pool.loops.isEmpty && pool.servers.all fun server => server.spreads.isEmpty) = true ↔
        pool.Done := by
    rw [Bool.and_eq_true, List.isEmpty_iff, List.all_eq_true]
    simp only [List.isEmpty_iff]
    exact ⟨fun h => ⟨h.1, h.2⟩, fun h => ⟨h.loops, h.spreads⟩⟩
  rw [isNormal, Bool.and_eq_true, Bool.and_eq_true, hempty, hempty, and_assoc, List.all_eq_true,
    pools, List.forall_mem_append, List.forall_mem_map, List.forall_mem_map]
  simp only [hdone]

/-- **Normalisation leaves a normal configuration.** -/
theorem isNormal_of_normalize (h : config.normalize = .ok result) : result.isNormal = true := by
  obtain ⟨scope, -, hnormal⟩ := normalize_eq_ok_iff.1 h
  refine isNormal_iff.2 ⟨hnormal.definitions, hnormal.templates, ?_, ?_⟩
  · exact forall_mem_of_forall₂ (mapM_eq_ok.1 hnormal.backends) fun _ _ => Backend.done_of_normalize
  · exact forall_mem_of_forall₂ (mapM_eq_ok.1 hnormal.listens) fun _ _ => Listen.done_of_normalize

end Configuration

/-! ### Inherited settings have no servers -/

/-- Inherited settings take neither servers in nor what stands for them. -/
theorem Defaults.hostless_of_absorb? {defaults result : Defaults} {directive : Directive}
    (h : defaults.absorb? directive = .ok (some result)) :
    directive.server? = none ∧ directive.loop? = none ∧ directive.serverTemplate? = none := by
  cases directive <;> first | exact ⟨rfl, rfl, rfl⟩ | cases h

theorem Defaults.pool_of_absorb? {defaults result : Defaults} {directive : Directive}
    (h : defaults.absorb? directive = .ok (some result)) :
    defaults.pool.absorb? directive = .ok (some result.pool) ∨ result.pool = defaults.pool := by
  unfold Defaults.absorb? at h
  split at h
  case h_4 =>
    obtain ⟨body?, -, h⟩ := bind_eq_ok.1 h
    cases body? with
    | some body =>
      cases h
      exact .inr rfl
    | none =>
      obtain ⟨pool?, hpool, h⟩ := bind_eq_ok.1 h
      cases pool? with
      | some pool =>
        cases h
        exact .inl hpool
      | none => cases h
  all_goals cases h

/-- **One directive of a `defaults` section** brings no server into the pool. -/
theorem Defaults.Hostless.absorb? {defaults result : Defaults} {directive : Directive}
    (h : defaults.absorb? directive = .ok (some result)) (hpool : defaults.pool.Hostless) :
    result.pool.Hostless := by
  rcases Defaults.pool_of_absorb? h with habsorb | hsame
  · obtain ⟨hserver, hloop, htemplate⟩ := Defaults.hostless_of_absorb? h
    have hfilled : Pool.FilledWith [⟨directive, none⟩] defaults.pool result.pool :=
      Pool.FilledWith.of_absorb? habsorb
    have hservers := hfilled.servers
    have hloops := hfilled.loops
    have htemplates := hfilled.serverTemplates
    simp only [selected, List.filterMap_cons, List.filterMap_nil, hserver, hloop, htemplate,
      List.append_nil] at hservers hloops htemplates
    exact ⟨hservers.trans hpool.servers, hloops.trans hpool.loops,
      htemplates.trans hpool.serverTemplates⟩
  · rw [hsame]
    exact hpool

/-- **A `defaults` section has no servers**, whatever it is filled with. -/
theorem Defaults.hostless_of_ofNode {environment : Environment} {node : SectionNode}
    {defaults : Defaults} (h : Defaults.ofNode environment node = .ok defaults) :
    defaults.pool.Hostless := by
  obtain ⟨entries, -, hfold⟩ := SectionNode.fill_eq_ok_iff.1 h
  have hcomposes : Composes fun (_ : List Entry) (start result : Defaults) =>
      start.pool.Hostless → result.pool.Hostless :=
    { nil := fun _ => id
      append := fun hfirst hsecond => hsecond ∘ hfirst }
  refine hcomposes.foldlM (fun start entry result hstep => ?_) hfold ⟨rfl, rfl, rfl⟩
  exact Defaults.Hostless.absorb? hstep

/-- **Substitution keeps a pool without servers so.** -/
theorem Pool.Hostless.traverse {ε : Type} {f : String → Except ε String} {pool result : Pool}
    (hpool : pool.Hostless) (h : Strings.traverse f pool = .ok result) : result.Hostless := by
  have hagree := (Pool.ends_traverse f pool).of_ok h
  obtain ⟨-, -, hloops⟩ := Pool.traverse_eq_ok_iff.1 h
  have hservers := hagree.servers
  have htemplates := hagree.serverTemplates
  rw [hpool.servers] at hservers
  rw [hpool.serverTemplates] at htemplates
  exact ⟨List.forall₂_nil_left_iff.1 hservers, hloops.trans hpool.loops,
    List.forall₂_nil_left_iff.1 htemplates⟩

theorem Defaults.hostless_of_traverse {ε : Type} {f : String → Except ε String}
    {defaults result : Defaults} (hpool : defaults.pool.Hostless)
    (h : Strings.traverse f defaults = .ok result) : result.pool.Hostless := by
  obtain ⟨name, -, h⟩ := bind_eq_ok.1 h
  obtain ⟨body, -, h⟩ := bind_eq_ok.1 h
  obtain ⟨pool, htraverse, h⟩ := bind_eq_ok.1 h
  cases h
  exact hpool.traverse htraverse

/-! ### Compiled documents -/

/-- **The inherited settings of a compiled document have no servers.** -/
theorem Document.hostless_of_compile {environment : Environment} {document : Document}
    {result : Configuration} (h : document.compile environment = .ok result) :
    ∀ defaults ∈ result.defaults, defaults.pool.Hostless := by
  obtain ⟨config, hconfig, hnormalize⟩ := Document.compile_eq_ok_iff.1 h
  obtain ⟨scope, -, hnormal⟩ := Configuration.normalize_eq_ok_iff.1 hnormalize
  have hassembled := Configuration.assembled_of_ofDocument hconfig
  have hdefaults : ∀ defaults ∈ result.defaults.toList, defaults.pool.Hostless := by
    refine forall_mem_of_forall₂ (forall₂_comp (mapM_eq_ok.1 hassembled.defaults)
      (mapM_eq_ok.1 (traverse_toList hnormal.defaults))) ?_
    rintro node defaults ⟨read, hread, htraverse⟩
    exact Defaults.hostless_of_traverse (Defaults.hostless_of_ofNode hread) htraverse
  exact fun defaults hmem => hdefaults defaults (Option.mem_toList.2 hmem)

/-- **What is left of the design after compilation: nothing.** -/
structure Configuration.WithoutDesign (config : Configuration) : Prop where
  definitions : config.definitions = ∅
  templates : config.templates = ∅
  pools : ∀ pool ∈ config.allPools, pool.Done
  defaults : ∀ defaults ∈ config.defaults,
    defaults.pool.servers = [] ∧ defaults.pool.serverTemplates = []

/-- **A compiled document has no variables and no templates, no loop and no spread in any pool**,
and its inherited settings have neither servers nor families of servers. -/
theorem Document.compile_withoutDesign (environment : Environment) (document : Document)
    (result : Configuration) (h : document.compile environment = .ok result) :
    result.WithoutDesign := by
  obtain ⟨config, -, hnormalize⟩ := Document.compile_eq_ok_iff.1 h
  obtain ⟨hdefinitions, htemplates, hbackends, hlistens⟩ :=
    Configuration.isNormal_iff.1 (Configuration.isNormal_of_normalize hnormalize)
  have hdefaults := Document.hostless_of_compile h
  refine ⟨hdefinitions, htemplates, ?_, fun defaults hmem => ?_⟩
  · rw [Configuration.allPools, List.forall_mem_append, List.forall_mem_append,
      List.forall_mem_map, List.forall_mem_map, List.forall_mem_map]
    refine ⟨⟨fun defaults hmem => ?_, hbackends⟩, hlistens⟩
    exact (hdefaults defaults (Option.mem_toList.1 hmem)).done
  · exact ⟨(hdefaults defaults hmem).servers, (hdefaults defaults hmem).serverTemplates⟩

/-- A document with one of everything: a variable, a template, inherited settings with something of
a pool in them, and a loop over a server that names the template. -/
def designedDocument : Document where
  items :=
    [.definition "net" (.literal (.text "10.0.0")) none,
      .template "small" [.pair "cookie" (.literal (.text "c-$\x7bnet\x7d")) none] none,
      .block
        { kind := "defaults"
          name := none
          children := [.pair "http_reuse" (.literal (.text "$\x7bnet\x7d")) none]
          position := none },
      .block
        { kind := "backend"
          name := "app"
          children :=
            [.loop ⟨"i", .list [.literal (.text "7"), .literal (.text "8")],
              [⟨"server", ["web$\x7bi\x7d"],
                [.pair "address" (.literal (.text "$\x7bnet\x7d.$\x7bi\x7d")) none], ["small"],
                none⟩], none⟩]
          position := none }]

/-- The configuration that the document compiles to. -/
def designedConfiguration : Configuration where
  defaults := some { pool := { httpReuse := "10.0.0" } }
  backends :=
    [{ name := "app"
       body := { mode := some .http }
       pool :=
        { balance := some .roundRobin
          servers :=
            [{ name := "web7", address := "10.0.0.7", options := { cookie := "c-10.0.0" } },
              { name := "web8", address := "10.0.0.8", options := { cookie := "c-10.0.0" } }] } }]

theorem Document.compile_withoutDesign_designedDocument :
    designedDocument.compile {} = .ok designedConfiguration ∧
      designedConfiguration.WithoutDesign := by
  have hcompile : designedDocument.compile {} = .ok designedConfiguration := by cbv
  exact ⟨hcompile, Document.compile_withoutDesign {} designedDocument _ hcompile⟩

end Balancer
