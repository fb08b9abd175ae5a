import Balancer.Proofs.Assembly
import Balancer.Proofs.Normal
import Balancer.Proofs.Sections

/-!
# Documents with other servers in them

When the servers in a document are written in another way, and each of them comes to the same in the
end, then the document compiles to the same. What has to be seen for this is that nothing else looks
at the servers while a section is assembled. An entry that holds a server or a loop goes to the
lists of the pool, whatever is in it, and every other entry is taken in without a look at these
lists (`Pool.absorb?_alike`). So two runs over entries that only differ in their servers go side by
side (`SectionNode.exists_foldlM_take`), and end in sections that only differ in their servers.

`Refines` says that a server comes to the same as another one, and `Document.compile_of_rewritten`
that this is enough.
-/

namespace Balancer

/-! ### What comes to the same -/

section Refines

variable (scope : OrderedMap Value) (templates : OrderedMap Template)

/-- Whatever `a` is computed to, `b` is computed to. -/
def Refines {ε α β : Type} (f : α → Except ε β) (a b : α) : Prop :=
  ∀ r, f a = .ok r → f b = .ok r

theorem Refines.refl {ε α β : Type} (f : α → Except ε β) (a : α) : Refines f a a :=
  fun _ h => h

theorem Refines.mapM {ε α β : Type} {f : α → Except ε β} {as bs : List α}
    (h : List.Forall₂ (Refines f) as bs) : Refines (List.mapM f) as bs := by
  intro rs hrs
  rw [mapM_eq_ok] at hrs ⊢
  induction h generalizing rs with
  | nil =>
    cases hrs
    exact .nil
  | cons hab _ ih =>
    cases hrs with
    | cons ha has => exact .cons (hab _ ha) (ih _ has)

variable {scope templates}

/-- A pool whose servers and loops come to the same comes to the same. -/
theorem Pool.refines_normalize {pool pool' : Pool} (hbare : pool'.bare = pool.bare)
    (hservers : List.Forall₂ (Refines (Server.normalize scope templates scope.lookupVariable))
      pool.servers pool'.servers)
    (hloops : List.Forall₂ (Refines (ServerLoop.normalize scope templates)) pool.loops
      pool'.loops) :
    Refines (Pool.normalize scope templates) pool pool' := by
  intro result h
  obtain ⟨hrest, hnone, direct, generated, hdirect, hgenerated, hresult⟩ :=
    Pool.normalize_eq_ok_iff.1 h
  rw [← hbare] at hrest
  exact Pool.normalize_eq_ok_iff.2 ⟨hrest, hnone, direct, generated,
    Refines.mapM hservers _ hdirect, Refines.mapM hloops _ hgenerated, hresult⟩

end Refines

/-! ### Entries with other servers -/

/-- **Directives that only differ in their servers.** -/
inductive Directive.Alike (R : Server → Server → Prop) (Q : ServerLoop → ServerLoop → Prop) :
    Directive → Directive → Prop
  | server {server server' : Server} (h : R server server') :
    Alike R Q (.server server) (.server server')
  | loop {loop loop' : ServerLoop} (h : Q loop loop') : Alike R Q (.loop loop) (.loop loop')
  | same {directive : Directive} (hserver : directive.server? = none)
    (hloop : directive.loop? = none) : Alike R Q directive directive

section Alike

variable {R : Server → Server → Prop} {Q : ServerLoop → ServerLoop → Prop}
  {directive directive' : Directive}

theorem Directive.Alike.refl (hR : ∀ server, R server server) (hQ : ∀ loop, Q loop loop)
    (directive : Directive) : directive.Alike R Q directive := by
  cases directive with
  | server server => exact .server (hR server)
  | loop loop => exact .loop (hQ loop)
  | _ => exact .same rfl rfl

theorem Directive.Alike.server? (h : directive.Alike R Q directive') :
    Option.Rel R directive.server? directive'.server? := by
  cases h with
  | server h => exact .some h
  | loop h => exact .none
  | same hserver _ =>
    rw [hserver]
    exact .none

theorem Directive.Alike.loop? (h : directive.Alike R Q directive') :
    Option.Rel Q directive.loop? directive'.loop? := by
  cases h with
  | server h => exact .none
  | loop h => exact .some h
  | same _ hloop =>
    rw [hloop]
    exact .none

/-! ### One step -/

/-- A setting of the pool does not look at the servers. -/
theorem Setting.assign_bare {setting : Setting Pool} (h : setting ∈ Pool.settings) (value : Value)
    (pool : Pool) :
    setting.assign value pool.bare = Pool.bare <$> setting.assign value pool := by
  simp only [Pool.settings, List.mem_cons, List.not_mem_nil, or_false] at h
  rcases h with rfl | rfl | rfl | rfl | rfl <;>
    · dsimp only [Setting.text, Setting.count, Setting.ofConversion]
      split <;> rfl

/-- Taking in what is neither a server nor a loop does not look at the servers. -/
theorem Pool.absorb?_bare (hserver : directive.server? = none) (hloop : directive.loop? = none)
    (pool : Pool) :
    pool.bare.absorb? directive = Option.map Pool.bare <$> pool.absorb? directive := by
  cases directive with
  | server server => exact nomatch hserver
  | loop loop => exact nomatch hloop
  | pair key value =>
    rw [Pool.absorb?, Pool.absorb?, Setting.update?, Setting.update?]
    split
    · rfl
    · rename_i setting hfind
      rw [Setting.assign_bare (List.mem_of_find?_eq_some hfind)]
      cases setting.assign value pool <;> rfl
  | _ => rfl

/-- **One step of two pools** that only differ in their servers. -/
theorem Pool.absorb?_alike {pool pool' result : Pool} (hbare : pool'.bare = pool.bare)
    (h : directive.Alike R Q directive') (hstep : pool.absorb? directive = .ok (some result)) :
    ∃ result', pool'.absorb? directive' = .ok (some result') ∧ result'.bare = result.bare := by
  cases h with
  | server _ =>
    cases hstep
    exact ⟨_, rfl, hbare⟩
  | loop _ =>
    cases hstep
    exact ⟨_, rfl, hbare⟩
  | same hserver hloop =>
    have hresult := Pool.absorb?_bare hserver hloop pool'
    rw [hbare, Pool.absorb?_bare hserver hloop pool, hstep] at hresult
    obtain ⟨found, hfound, hsome⟩ := map_eq_ok.1 hresult.symm
    obtain ⟨result', rfl, hbare'⟩ := Option.map_eq_some_iff.1 hsome
    exact ⟨result', hfound, hbare'⟩

theorem ProxyBody.absorb?_alike (h : directive.Alike R Q directive') (body : ProxyBody) :
    body.absorb? directive' = body.absorb? directive := by
  cases h <;> rfl

theorem Intake.absorb?_alike (h : directive.Alike R Q directive') (intake : Intake) :
    intake.absorb? directive' = intake.absorb? directive := by
  cases h <;> rfl

/-- Backends that only differ in their servers. -/
structure Backend.Alike (backend backend' : Backend) : Prop where
  name : backend'.name = backend.name
  body : backend'.body = backend.body
  bare : backend'.pool.bare = backend.pool.bare

theorem Backend.absorb?_alike {backend backend' result : Backend} (hsame : backend.Alike backend')
    (h : directive.Alike R Q directive') (hstep : backend.absorb? directive = .ok (some result)) :
    ∃ result', backend'.absorb? directive' = .ok (some result') ∧ result.Alike result' := by
  have hbody : backend'.body.absorb? directive' = backend.body.absorb? directive := by
    rw [hsame.body, ProxyBody.absorb?_alike h]
  rcases Backend.absorb?_eq_ok_some_iff.1 hstep with
    ⟨body, htaken, rfl⟩ | ⟨hnone, pool, htaken, rfl⟩
  · refine ⟨{ backend' with body }, Backend.absorb?_eq_ok_some_iff.2 (.inl ⟨body, ?_, rfl⟩),
      ⟨hsame.name, rfl, hsame.bare⟩⟩
    rw [hbody, htaken]
  · obtain ⟨pool', htaken', hbare⟩ := Pool.absorb?_alike hsame.bare h htaken
    refine ⟨{ backend' with pool := pool' },
      Backend.absorb?_eq_ok_some_iff.2 (.inr ⟨?_, pool', htaken', rfl⟩),
      ⟨hsame.name, hsame.body, hbare⟩⟩
    rw [hbody, hnone]

/-- Sections of the kind `listen` that only differ in their servers. -/
structure Listen.Alike (listen listen' : Listen) : Prop where
  name : listen'.name = listen.name
  body : listen'.body = listen.body
  intake : listen'.intake = listen.intake
  bare : listen'.pool.bare = listen.pool.bare

theorem Listen.absorb?_alike {listen listen' result : Listen} (hsame : listen.Alike listen')
    (h : directive.Alike R Q directive') (hstep : listen.absorb? directive = .ok (some result)) :
    ∃ result', listen'.absorb? directive' = .ok (some result') ∧ result.Alike result' := by
  have hbody : listen'.body.absorb? directive' = listen.body.absorb? directive := by
    rw [hsame.body, ProxyBody.absorb?_alike h]
  have hintake : listen'.intake.absorb? directive' = listen.intake.absorb? directive := by
    rw [hsame.intake, Intake.absorb?_alike h]
  rcases Listen.absorb?_eq_ok_some_iff.1 hstep with
    ⟨body, htaken, rfl⟩ | ⟨hnone, ⟨intake, htaken, rfl⟩ | ⟨hnone', pool, htaken, rfl⟩⟩
  · refine ⟨{ listen' with body }, Listen.absorb?_eq_ok_some_iff.2 (.inl ⟨body, ?_, rfl⟩),
      ⟨hsame.name, rfl, hsame.intake, hsame.bare⟩⟩
    rw [hbody, htaken]
  · refine ⟨{ listen' with intake },
      Listen.absorb?_eq_ok_some_iff.2 (.inr ⟨?_, .inl ⟨intake, ?_, rfl⟩⟩),
      ⟨hsame.name, hsame.body, rfl, hsame.bare⟩⟩
    · rw [hbody, hnone]
    · rw [hintake, htaken]
  · obtain ⟨pool', htaken', hbare⟩ := Pool.absorb?_alike hsame.bare h htaken
    refine ⟨{ listen' with pool := pool' },
      Listen.absorb?_eq_ok_some_iff.2 (.inr ⟨?_, .inr ⟨?_, pool', htaken', rfl⟩⟩),
      ⟨hsame.name, hsame.body, hsame.intake, hbare⟩⟩
    · rw [hbody, hnone]
    · rw [hintake, hnone']

end Alike

/-! ### Whole runs -/

/-- **Two runs side by side**: what one step keeps between them, the runs keep. -/
theorem SectionNode.exists_foldlM_take {σ : Type}
    {absorb? : σ → Directive → Except Refusal (Option σ)} {elsewhere : String → Bool}
    {S : σ → σ → Prop} {D : Directive → Directive → Prop}
    (hstep : ∀ {state state' d d' result}, S state state' → D d d' →
      absorb? state d = .ok (some result) →
        ∃ result', absorb? state' d' = .ok (some result') ∧ S result result')
    {node node' : SectionNode} {entries entries' : List Entry}
    (hentries : List.Forall₂ (fun e e' => D e.directive e'.directive) entries entries')
    {start start' result : σ} (hstart : S start start')
    (h : entries.foldlM (node.take absorb? elsewhere) start = .ok result) :
    ∃ result', entries'.foldlM (node'.take absorb? elsewhere) start' = .ok result' ∧
      S result result' := by
  induction hentries generalizing start start' with
  | nil =>
    cases h
    exact ⟨start', rfl, hstart⟩
  | cons hentry _ ih =>
    rw [List.foldlM_cons] at h
    obtain ⟨next, hnext, h⟩ := bind_eq_ok.1 h
    obtain ⟨next', hnext', hsame⟩ := hstep hstart hentry (SectionNode.take_eq_ok_iff.1 hnext)
    obtain ⟨result', hresult', hresult⟩ := ih hsame h
    refine ⟨result', ?_, hresult⟩
    rw [List.foldlM_cons]
    exact bind_eq_ok.2 ⟨next', SectionNode.take_eq_ok_iff.2 hnext', hresult'⟩

/-! ### Whole sections -/

section Sections

variable (environment : Environment) (scope : OrderedMap Value) (templates : OrderedMap Template)

/-- Entries that only differ in their servers, which come to the same. -/
def EntriesAlike : List Entry → List Entry → Prop :=
  List.Forall₂ fun entry entry' =>
    entry.directive.Alike (Refines (Server.normalize scope templates scope.lookupVariable))
      (Refines (ServerLoop.normalize scope templates)) entry'.directive

/-- **A section whose servers are written in another way.** What it is read as may depend on it that
all servers have a normal form. -/
structure SectionNode.Rewritten (node node' : SectionNode) : Prop where
  kind : node'.kind = node.kind
  name : node'.name = node.name
  reads {entries : List Entry} (hread : readChildren environment node.children = .ok entries)
    (hservers : ∀ server ∈ selected Directive.server? entries,
      Returns (server.normalize scope templates scope.lookupVariable))
    (hloops : ∀ loop ∈ selected Directive.loop? entries,
      Returns (loop.normalize scope templates)) :
    ∃ entries', readChildren environment node'.children = .ok entries' ∧
      EntriesAlike scope templates entries entries'

variable {environment scope templates} {node node' : SectionNode}

theorem EntriesAlike.servers {entries entries' : List Entry}
    (h : EntriesAlike scope templates entries entries') :
    List.Forall₂ (Refines (Server.normalize scope templates scope.lookupVariable))
      (selected Directive.server? entries) (selected Directive.server? entries') := by
  refine List.rel_filterMap ?_ h
  intro entry entry' hentry
  exact hentry.server?

theorem EntriesAlike.loops {entries entries' : List Entry}
    (h : EntriesAlike scope templates entries entries') :
    List.Forall₂ (Refines (ServerLoop.normalize scope templates))
      (selected Directive.loop? entries) (selected Directive.loop? entries') := by
  refine List.rel_filterMap ?_ h
  intro entry entry' hentry
  exact hentry.loop?

/-- Every server and every loop of a pool with a normal form has one. -/
theorem Pool.returns_of_normalize {pool result : Pool}
    (h : pool.normalize scope templates = .ok result) :
    (∀ server ∈ pool.servers, Returns (server.normalize scope templates scope.lookupVariable)) ∧
      ∀ loop ∈ pool.loops, Returns (loop.normalize scope templates) := by
  obtain ⟨-, -, direct, generated, hdirect, hgenerated, -⟩ := Pool.normalize_eq_ok_iff.1 h
  exact ⟨returns_mapM_iff.1 ⟨_, hdirect⟩, returns_mapM_iff.1 ⟨_, hgenerated⟩⟩

/-- The pools of two runs over such entries come to the same. -/
theorem EntriesAlike.refines_normalize {entries entries' : List Entry}
    (h : EntriesAlike scope templates entries entries') {pool pool' : Pool}
    (hbare : pool'.bare = pool.bare)
    (hservers : pool.servers = selected Directive.server? entries)
    (hloops : pool.loops = selected Directive.loop? entries)
    (hservers' : pool'.servers = selected Directive.server? entries')
    (hloops' : pool'.loops = selected Directive.loop? entries') :
    Refines (Pool.normalize scope templates) pool.settled pool'.settled := by
  refine Pool.refines_normalize (congrArg Pool.settled hbare) ?_ ?_
  · change List.Forall₂ _ pool.servers pool'.servers
    rw [hservers, hservers']
    exact h.servers
  · change List.Forall₂ _ pool.loops pool'.loops
    rw [hloops, hloops']
    exact h.loops

/-- **A backend whose servers are written in another way** comes to the same. -/
theorem Backend.exists_ofNode_of_rewritten (h : node.Rewritten environment scope templates node')
    {backend result : Backend} (hread : Backend.ofNode environment node = .ok backend)
    (hnormal : backend.normalize scope templates = .ok result) :
    ∃ backend', Backend.ofNode environment node' = .ok backend' ∧
      backend'.normalize scope templates = .ok result := by
  obtain ⟨name, hname, hread⟩ := bind_eq_ok.1 hread
  obtain ⟨filled, hfill, hread⟩ := bind_eq_ok.1 hread
  cases hread
  obtain ⟨entries, hentries, hfold⟩ := SectionNode.fill_eq_ok_iff.1 hfill
  have hservers : filled.pool.servers = selected Directive.server? entries :=
    Backend.collects_servers.foldlM hfold
  have hloops : filled.pool.loops = selected Directive.loop? entries :=
    Backend.collects_loops.foldlM hfold
  obtain ⟨hnormalName, hnormalBody, hnormalPool⟩ := Backend.normalize_eq_ok_iff.1 hnormal
  obtain ⟨hreturns, hreturns'⟩ := Pool.returns_of_normalize hnormalPool
  obtain ⟨entries', hentries', halike⟩ :=
    h.reads hentries (hservers ▸ hreturns) (hloops ▸ hreturns')
  have hrun : ∃ filled',
      entries'.foldlM (node'.take Backend.absorb? proxyKeys.contains) { name } = .ok filled' ∧
        filled.Alike filled' :=
    SectionNode.exists_foldlM_take Backend.absorb?_alike halike ⟨rfl, rfl, rfl⟩ hfold
  obtain ⟨filled', hfold', hsame⟩ := hrun
  rw [SectionNode.requiredName_eq_ok_iff, ← h.name, ← SectionNode.requiredName_eq_ok_iff] at hname
  refine ⟨_, bind_eq_ok.2 ⟨name, hname, bind_eq_ok.2
    ⟨filled', SectionNode.fill_eq_ok_iff.2 ⟨entries', hentries', hfold'⟩, rfl⟩⟩,
    Backend.normalize_eq_ok_iff.2 ⟨?_, ?_, ?_⟩⟩
  · rw [← hnormalName, ← hsame.name]
  · rw [← hnormalBody, ← hsame.body]
  · exact halike.refines_normalize hsame.bare hservers hloops
      (Backend.collects_servers.foldlM hfold') (Backend.collects_loops.foldlM hfold') _ hnormalPool

/-- **A `listen` section whose servers are written in another way** comes to the same. -/
theorem Listen.exists_ofNode_of_rewritten (h : node.Rewritten environment scope templates node')
    {listen result : Listen} (hread : Listen.ofNode environment node = .ok listen)
    (hnormal : listen.normalize scope templates = .ok result) :
    ∃ listen', Listen.ofNode environment node' = .ok listen' ∧
      listen'.normalize scope templates = .ok result := by
  obtain ⟨name, hname, hread⟩ := bind_eq_ok.1 hread
  obtain ⟨filled, hfill, hread⟩ := bind_eq_ok.1 hread
  cases hread
  obtain ⟨entries, hentries, hfold⟩ := SectionNode.fill_eq_ok_iff.1 hfill
  have hservers : filled.pool.servers = selected Directive.server? entries :=
    Listen.collects_servers.foldlM hfold
  have hloops : filled.pool.loops = selected Directive.loop? entries :=
    Listen.collects_loops.foldlM hfold
  obtain ⟨hnormalName, hnormalBody, hnormalIntake, hnormalPool⟩ :=
    Listen.normalize_eq_ok_iff.1 hnormal
  obtain ⟨hreturns, hreturns'⟩ := Pool.returns_of_normalize hnormalPool
  obtain ⟨entries', hentries', halike⟩ :=
    h.reads hentries (hservers ▸ hreturns) (hloops ▸ hreturns')
  have hrun : ∃ filled',
      entries'.foldlM (node'.take Listen.absorb? proxyKeys.contains) { name } = .ok filled' ∧
        filled.Alike filled' :=
    SectionNode.exists_foldlM_take Listen.absorb?_alike halike ⟨rfl, rfl, rfl, rfl⟩ hfold
  obtain ⟨filled', hfold', hsame⟩ := hrun
  rw [SectionNode.requiredName_eq_ok_iff, ← h.name, ← SectionNode.requiredName_eq_ok_iff] at hname
  refine ⟨_, bind_eq_ok.2 ⟨name, hname, bind_eq_ok.2
    ⟨filled', SectionNode.fill_eq_ok_iff.2 ⟨entries', hentries', hfold'⟩, rfl⟩⟩,
    Listen.normalize_eq_ok_iff.2 ⟨?_, ?_, ?_, ?_⟩⟩
  · rw [← hnormalName, ← hsame.name]
  · rw [← hnormalBody, ← hsame.body]
  · rw [← hnormalIntake, ← hsame.intake]
  · exact halike.refines_normalize hsame.bare hservers hloops
      (Listen.collects_servers.foldlM hfold') (Listen.collects_loops.foldlM hfold') _ hnormalPool

end Sections

/-! ### Whole documents -/

section Documents

variable (environment : Environment) (scope : OrderedMap Value) (templates : OrderedMap Template)

/-- **An item whose servers are written in another way.** -/
inductive Item.Rewritten : Item → Item → Prop
  | same (item : Item) : Rewritten item item
  | block {node node' : SectionNode} (hkind : node.kind = "backend" ∨ node.kind = "listen")
    (h : node.Rewritten environment scope templates node') :
    Rewritten (.block node) (.block node')

variable {environment scope templates} {items items' : List Item}

/-- What does not look into the sections that may be rewritten is the same. -/
theorem filterMap_of_rewritten {α : Type} {select : Item → Option α}
    (h : List.Forall₂ (Item.Rewritten environment scope templates) items items')
    (hselect : ∀ node, node.kind = "backend" ∨ node.kind = "listen" →
      select (.block node) = none) :
    items'.filterMap select = items.filterMap select := by
  have hsame : List.Forall₂ Eq (items.filterMap select) (items'.filterMap select) := by
    refine List.rel_filterMap ?_ h
    intro item item' hitem
    cases hitem with
    | same =>
      cases select item with
      | none => exact .none
      | some a => exact .some rfl
    | block hkind h =>
      rw [hselect _ hkind, hselect _ (h.kind ▸ hkind)]
      exact .none
  rw [List.forall₂_eq_eq_eq] at hsame
  exact hsame.symm

/-- Sections of a kind are the same or are rewritten. -/
theorem forall₂_sectionsOf_of_rewritten
    (h : List.Forall₂ (Item.Rewritten environment scope templates) items items')
    (kind : String) :
    List.Forall₂ (fun node node' => node' = node ∨
        node.Rewritten environment scope templates node')
      (sectionsOf kind items) (sectionsOf kind items') := by
  refine List.rel_filterMap ?_ h
  rintro item item' (_ | @⟨node, node', _, h⟩)
  · cases item.section? kind with
    | none => exact .none
    | some node => exact .some (.inl rfl)
  · rw [Item.section?, Item.section?, h.kind]
    by_cases hkind : node.kind = kind
    · rw [if_pos hkind, if_pos hkind]
      exact .some (.inr h)
    · rw [if_neg hkind, if_neg hkind]
      exact .none

/-- Sections that are read and brought to normal form, where they are written in another way. -/
theorem mapM_normalize_of_rewritten {ε ε' α : Type} {read : SectionNode → Except ε α}
    {normalize : α → Except ε' α}
    (hrewritten : ∀ {node node' a r}, node.Rewritten environment scope templates node' →
      read node = .ok a → normalize a = .ok r → ∃ a', read node' = .ok a' ∧ normalize a' = .ok r)
    {nodes nodes' : List SectionNode} {as as' rs : List α}
    (h : List.Forall₂ (fun node node' => node' = node ∨
      node.Rewritten environment scope templates node') nodes nodes')
    (hread : nodes.mapM read = .ok as) (hread' : nodes'.mapM read = .ok as')
    (hnormal : as.mapM normalize = .ok rs) : as'.mapM normalize = .ok rs := by
  rw [mapM_eq_ok] at hread hread' hnormal ⊢
  induction h generalizing as as' rs with
  | nil =>
    cases hread
    cases hread'
    exact hnormal
  | cons hnode _ ih =>
    cases hread with
    | cons ha has =>
      cases hread' with
      | cons ha' has' =>
        cases hnormal with
        | cons hr hrs =>
          refine .cons ?_ (ih has has' hrs)
          rcases hnode with rfl | hnode
          · cases ha.symm.trans ha'
            exact hr
          · obtain ⟨_, hread, hsame⟩ := hrewritten hnode ha hr
            cases hread.symm.trans ha'
            exact hsame

/-- An item whose servers are written in another way can be taken in, if what it holds can be taken
in and has a normal form. -/
theorem Item.Rewritten.builds {item item' : Item}
    (h : item.Rewritten environment scope templates item') (hitem : item ∈ items)
    (hbuilds : item.Builds environment)
    (hbackends : ∀ node ∈ sectionsOf "backend" items, ∃ b r,
      Backend.ofNode environment node = .ok b ∧ b.normalize scope templates = .ok r)
    (hlistens : ∀ node ∈ sectionsOf "listen" items, ∃ l r,
      Listen.ofNode environment node = .ok l ∧ l.normalize scope templates = .ok r) :
    item'.Builds environment := by
  cases h with
  | same => exact hbuilds
  | @block node node' hkind h =>
    have hmem (kind : String) (hnode : node.kind = kind) : node ∈ sectionsOf kind items :=
      List.mem_filterMap.2 ⟨_, hitem, if_pos hnode⟩
    rcases hkind with hkind | hkind
    · obtain ⟨b, r, hb, hr⟩ := hbackends node (hmem _ hkind)
      obtain ⟨b', hb', -⟩ := Backend.exists_ofNode_of_rewritten h hb hr
      exact ⟨_, addSection_eq_ok_iff.2 (.backend (h.kind.trans hkind) hb')⟩
    · obtain ⟨l, r, hl, hr⟩ := hlistens node (hmem _ hkind)
      obtain ⟨l', hl', -⟩ := Listen.exists_ofNode_of_rewritten h hl hr
      exact ⟨_, addSection_eq_ok_iff.2 (.listen (h.kind.trans hkind) hl')⟩

/-- Each section that is read and brought to normal form has a normal form. -/
theorem exists_normal_of_mem {ε ε' α : Type} {read : SectionNode → Except ε α}
    {normalize : α → Except ε' α} {nodes : List SectionNode} {as rs : List α}
    (hread : nodes.mapM read = .ok as) (hnormal : as.mapM normalize = .ok rs) {node : SectionNode}
    (hnode : node ∈ nodes) : ∃ a r, read node = .ok a ∧ normalize a = .ok r := by
  obtain ⟨i, hi⟩ := List.mem_iff_getElem?.1 hnode
  obtain ⟨r, -, a, ha, hr⟩ :=
    forall₂_getElem? (forall₂_comp (mapM_eq_ok.1 hread) (mapM_eq_ok.1 hnormal)) hi
  exact ⟨a, r, ha, hr⟩

theorem sectionsOf_of_rewritten
    (h : List.Forall₂ (Item.Rewritten environment scope templates) items items') {kind : String}
    (hbackend : kind ≠ "backend") (hlisten : kind ≠ "listen") :
    sectionsOf kind items' = sectionsOf kind items := by
  refine filterMap_of_rewritten h fun node hkind => ?_
  rw [Item.section?, if_neg]
  rintro rfl
  exact hkind.elim hbackend hlisten

variable {document document' : Document} {config config' result : Configuration}

/-- A document whose servers are written in another way can be assembled. -/
theorem Configuration.exists_ofDocument_of_rewritten
    (hconfig : ofDocument environment document = .ok config)
    (hnormal : Normalized scope templates config result)
    (hitems : List.Forall₂ (Item.Rewritten environment scope templates) document.items
      document'.items) :
    ∃ config', ofDocument environment document' = .ok config' := by
  have h := assembled_of_ofDocument hconfig
  obtain ⟨hbuilds, hglobal, hdefaults⟩ := exists_ofDocument_iff.1 ⟨config, hconfig⟩
  refine exists_ofDocument_iff.2 ⟨fun item' hitem' => ?_, ?_, ?_⟩
  · obtain ⟨i, hi⟩ := List.mem_iff_getElem?.1 hitem'
    obtain ⟨item, hitem, hrewritten⟩ := forall₂_getElem? hitems.flip hi
    have hmem := List.mem_of_getElem? hitem
    exact Item.Rewritten.builds hrewritten hmem (hbuilds item hmem)
      (fun _ => exists_normal_of_mem h.backends hnormal.backends)
      (fun _ => exists_normal_of_mem h.listens hnormal.listens)
  · rwa [sectionsOf_of_rewritten hitems (by decide) (by decide)]
  · rwa [sectionsOf_of_rewritten hitems (by decide) (by decide)]

/-- Its variables and templates are the same. -/
theorem Assembled.declarations_of_rewritten (h : Assembled environment items config)
    (h' : Assembled environment items' config')
    (hitems : List.Forall₂ (Item.Rewritten environment scope templates) items items') :
    config'.definitions = config.definitions ∧ config'.templates = config.templates := by
  obtain ⟨declared, hdeclared, hdefinitions⟩ := h.definitions
  obtain ⟨declared', hdeclared', hdefinitions'⟩ := h'.definitions
  obtain ⟨entries, hentries, htemplates⟩ := h.templates
  obtain ⟨entries', hentries', htemplates'⟩ := h'.templates
  have hsame : definitionsOf items' = definitionsOf items :=
    filterMap_of_rewritten hitems fun _ _ => rfl
  have hsame' : templatesOf items' = templatesOf items :=
    filterMap_of_rewritten hitems fun _ _ => rfl
  rw [hsame, hdeclared] at hdeclared'
  rw [hsame', hentries] at hentries'
  rw [hdefinitions, hdefinitions', htemplates, htemplates', Except.ok.inj hdeclared',
    Except.ok.inj hentries']
  exact ⟨rfl, rfl⟩

/-- Its parts have the same normal form: those that hold no servers are the same, and the servers of
the others come to the same. -/
theorem Normalized.of_rewritten (hnormal : Normalized scope templates config result)
    (h : Assembled environment items config) (h' : Assembled environment items' config')
    (hitems : List.Forall₂ (Item.Rewritten environment scope templates) items items') :
    Normalized scope templates config' result := by
  have hsame {kind : String} (hbackend : kind ≠ "backend") (hlisten : kind ≠ "listen") :=
    sectionsOf_of_rewritten hitems hbackend hlisten
  have hglobal : config'.global = config.global :=
    eq_of_toList_eq (eq_of_sectionsOf_eq (hsame (by decide) (by decide)) h.global h'.global)
  have hdefaults : config'.defaults = config.defaults :=
    eq_of_toList_eq (eq_of_sectionsOf_eq (hsame (by decide) (by decide)) h.defaults h'.defaults)
  have hfrontends : config'.frontends = config.frontends :=
    eq_of_sectionsOf_eq (hsame (by decide) (by decide)) h.frontends h'.frontends
  have hscripts : config'.scripts = config.scripts :=
    eq_of_sectionsOf_eq (hsame (by decide) (by decide)) h.scripts h'.scripts
  have hpeers : config'.peers = config.peers :=
    eq_of_sectionsOf_eq (hsame (by decide) (by decide)) h.peers h'.peers
  have hresolvers : config'.resolvers = config.resolvers :=
    eq_of_sectionsOf_eq (hsame (by decide) (by decide)) h.resolvers h'.resolvers
  have hmailers : config'.mailers = config.mailers :=
    eq_of_sectionsOf_eq (hsame (by decide) (by decide)) h.mailers h'.mailers
  have himports : importsOf items' = importsOf items :=
    filterMap_of_rewritten hitems fun _ _ => rfl
  exact {
    global := hglobal ▸ hnormal.global
    defaults := hdefaults ▸ hnormal.defaults
    frontends := hfrontends ▸ hnormal.frontends
    backends := mapM_normalize_of_rewritten (fun h => Backend.exists_ofNode_of_rewritten h)
      (forall₂_sectionsOf_of_rewritten hitems _) h.backends h'.backends hnormal.backends
    listens := mapM_normalize_of_rewritten (fun h => Listen.exists_ofNode_of_rewritten h)
      (forall₂_sectionsOf_of_rewritten hitems _) h.listens h'.listens hnormal.listens
    scripts := hscripts ▸ hnormal.scripts
    peers := hpeers ▸ hnormal.peers
    resolvers := hresolvers ▸ hnormal.resolvers
    mailers := hmailers ▸ hnormal.mailers
    definitions := hnormal.definitions
    templates := hnormal.templates
    imports := by rw [hnormal.imports, h.imports, h'.imports, himports] }

/-- **A document whose servers are written in another way compiles to the same.** -/
theorem Document.compile_of_rewritten
    (hconfig : Configuration.ofDocument environment document = .ok config)
    (hscope : Resolver.resolve config.definitions = .ok scope)
    (hitems : List.Forall₂ (Item.Rewritten environment scope config.templates) document.items
      document'.items)
    (hresult : document.compile environment = .ok result) :
    document'.compile environment = .ok result := by
  obtain ⟨_, hconfig₀, hnormal⟩ := compile_eq_ok_iff.1 hresult
  cases hconfig.symm.trans hconfig₀
  obtain ⟨_, hscope₀, hnormal⟩ := Configuration.normalize_eq_ok_iff.1 hnormal
  cases hscope.symm.trans hscope₀
  obtain ⟨config', hconfig'⟩ :=
    Configuration.exists_ofDocument_of_rewritten hconfig hnormal hitems
  have h := Configuration.assembled_of_ofDocument hconfig
  have h' := Configuration.assembled_of_ofDocument hconfig'
  obtain ⟨hdefinitions, htemplates⟩ := h.declarations_of_rewritten h' hitems
  refine compile_eq_ok_iff.2 ⟨config', hconfig', Configuration.normalize_eq_ok_iff.2
    ⟨scope, hdefinitions ▸ hscope, ?_⟩⟩
  rw [htemplates]
  exact hnormal.of_rewritten h h' hitems

end Documents

end Balancer
