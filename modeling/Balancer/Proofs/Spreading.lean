import Balancer.Proofs.Assembly
import Balancer.Proofs.Contents

/-!
# Where templates are spread

An author spreads a template by naming it in an object. Only servers have a use for templates, and
this file says what becomes of the names elsewhere. An object falls under one of three cases:

* **servers** of a backend or of a `listen` section, in a loop or not, keep the names as they are
  written; in any other section a server is misplaced;
* **rules** of the seven families are read as if no template was named, so that the names can be
  erased from a document without any effect (`Document.withoutRuleSpreads`);
* **all other objects** may not name a template, and a document in which one does is not assembled.

The order of the cases is that of the code: the kind of an object decides how it is read, and only
afterwards is it asked whether spreads may stand there (`ObjectKind.allowsSpreads`).
-/

namespace Balancer

variable {environment : Environment}

/-! ### Objects that name templates -/

theorem ObjectKind.of_allowsSpreads {name : String} {kind : ObjectKind}
    (h : ofName? name = some kind) (hallows : kind.allowsSpreads = true) :
    name = "server" ∨ RuleKind.ofDirective? name ≠ none := by
  obtain ⟨family, hfamily, rfl⟩ | hnamed := ofName?_cases h
  · rw [hfamily]
    exact .inr (Option.some_ne_none family)
  · cases kind with
    | rule family => simp [named] at hnamed
    | server => exact .inl (by simpa [named] using hnamed)
    | _ => cases hallows

/-- An object that names templates and is read is a server or a rule. -/
theorem kind_of_readObject {object : ObjectNode} {directive : Directive}
    (h : readObject environment object = .ok directive) (hspreads : object.spreads ≠ []) :
    object.kind = "server" ∨ RuleKind.ofDirective? object.kind ≠ none := by
  obtain ⟨name, labels, children, spreads, position⟩ := object
  rw [readObject] at h
  cases hkind : ObjectKind.ofName? name with
  | none =>
    rw [hkind] at h
    cases h
  | some kind =>
    rw [hkind] at h
    obtain ⟨-, -, h⟩ := bind_eq_ok.1 h
    obtain ⟨entries, -, h⟩ := bind_eq_ok.1 h
    obtain ⟨fields, -, h⟩ := bind_eq_ok.1 h
    obtain ⟨read, -, h⟩ := bind_eq_ok.1 h
    -- the check of the spreads comes last, after the object has been read
    refine ObjectKind.of_allowsSpreads hkind ?_
    cases hallows : kind.allowsSpreads with
    | true => rfl
    | false =>
      rw [hallows] at h
      cases spreads with
      | nil => exact absurd rfl hspreads
      | cons _ _ => cases h

theorem server?_of_readObject {object : ObjectNode} {directive : Directive}
    (h : readObject environment object = .ok directive) (hkind : object.kind = "server") :
    directive.server?.isSome = true := by
  obtain ⟨kind, fields, hname, -, hread⟩ := readObject_eq_ok h
  rw [hkind] at hname
  cases hname
  obtain ⟨server, -, rfl⟩ := map_eq_ok.1 hread
  rfl

section Children

variable {entries : List Entry}

theorem exists_entry_of_mem_items {position : Option Position} {items : List ObjectNode}
    (h : readItems environment position items = .ok entries) {object : ObjectNode}
    (hobject : object ∈ items) :
    ∃ entry ∈ entries, readObject environment object = .ok entry.directive := by
  induction items generalizing entries with
  | nil => cases hobject
  | cons item items ih =>
    rw [readItems] at h
    obtain ⟨directive, hdirective, h⟩ := bind_eq_ok.1 h
    obtain ⟨rest, hrest, h⟩ := bind_eq_ok.1 h
    cases h
    rcases List.mem_cons.1 hobject with rfl | hobject
    · exact ⟨_, List.mem_cons_self, hdirective⟩
    · obtain ⟨entry, hentry, hread⟩ := ih hrest hobject
      exact ⟨entry, List.mem_cons_of_mem _ hentry, hread⟩

/-- **Every object among the children is read into an entry.** -/
theorem exists_entry_of_mem_objects {children : List Child}
    (h : readChildren environment children = .ok entries) {object : ObjectNode}
    (hobject : object ∈ children.flatMap Child.objects) :
    ∃ entry ∈ entries, readObject environment object = .ok entry.directive := by
  induction children generalizing entries with
  | nil => cases hobject
  | cons child children ih =>
    obtain ⟨first, rest, hfirst, hrest, rfl⟩ := readChildren_cons_eq_ok_iff.1 h
    rw [List.flatMap_cons, List.mem_append] at hobject
    rcases hobject with hobject | hobject
    · cases child with
      | pair | loop => cases hobject
      | object node =>
        cases List.mem_singleton.1 hobject
        obtain ⟨name, labels, inner, spreads, position⟩ := object
        rw [readChild] at hfirst
        obtain ⟨directive, hdirective, hfirst⟩ := bind_eq_ok.1 hfirst
        cases hfirst
        exact ⟨_, List.mem_cons_self, hdirective⟩
      | list _ items position =>
        rw [readChild] at hfirst
        obtain ⟨entry, hentry, hread⟩ := exists_entry_of_mem_items hfirst hobject
        exact ⟨entry, List.mem_append_left _ hentry, hread⟩
    · obtain ⟨entry, hentry, hread⟩ := ih hrest hobject
      exact ⟨entry, List.mem_append_right _ hentry, hread⟩

/-- Every loop among the children is read into an entry. -/
theorem exists_entry_of_mem_loops {children : List Child}
    (h : readChildren environment children = .ok entries) {node : LoopNode}
    (hnode : node ∈ loopsOf children) :
    ∃ entry ∈ entries, ∃ loop, readLoop environment node = .ok loop ∧
      entry.directive.loop? = some loop := by
  obtain ⟨i, hi⟩ := List.mem_iff_getElem?.1 hnode
  obtain ⟨loop, hloop, hread⟩ := forall₂_getElem? (mapM_eq_ok.1 (loops_of_readChildren h)) hi
  obtain ⟨entry, hentry, hselect⟩ := List.mem_filterMap.1 (List.mem_of_getElem? hloop)
  exact ⟨entry, hentry, loop, hread, hselect⟩

end Children

/-! ### Sections that have servers -/

/-- A directive that is neither a server nor a loop over servers. -/
def Directive.NotServing (directive : Directive) : Prop :=
  directive.server? = none ∧ directive.loop? = none

/-- A section that takes in nothing but such directives is filled with nothing else. -/
theorem SectionNode.notServing_of_fill {σ : Type} {node : SectionNode}
    {absorb? : σ → Directive → Except Refusal (Option σ)} {elsewhere : String → Bool}
    {start result : σ} (h : node.fill environment absorb? elsewhere start = .ok result)
    (habsorb : ∀ {before directive after}, absorb? before directive = .ok (some after) →
      directive.NotServing) :
    ∃ entries, readChildren environment node.children = .ok entries ∧
      ∀ entry ∈ entries, entry.directive.NotServing := by
  obtain ⟨entries, hentries, hfold⟩ := SectionNode.fill_eq_ok_iff.1 h
  have hcomposes : Composes fun (entries : List Entry) (_ _ : σ) =>
      ∀ entry ∈ entries, entry.directive.NotServing :=
    { nil := fun _ => List.forall_mem_nil _
      append := fun h h' => List.forall_mem_append.2 ⟨h, h'⟩ }
  refine ⟨entries, hentries, hcomposes.foldlM (fun before entry after hstep => ?_) hfold⟩
  exact List.forall_mem_singleton.2 (habsorb hstep)

section NotServing

variable {directive : Directive}

theorem Global.notServing_of_absorb? {global result : Global}
    (h : global.absorb? directive = .ok (some result)) : directive.NotServing := by
  cases directive <;> first | exact ⟨rfl, rfl⟩ | cases h

theorem Defaults.notServing_of_absorb? {defaults result : Defaults}
    (h : defaults.absorb? directive = .ok (some result)) : directive.NotServing := by
  cases directive <;> first | exact ⟨rfl, rfl⟩ | cases h

theorem Frontend.notServing_of_absorb? {frontend result : Frontend}
    (h : frontend.absorb? directive = .ok (some result)) : directive.NotServing := by
  rcases Frontend.absorb?_eq_ok_some_iff.1 h with ⟨body, hbody, -⟩ | ⟨-, intake, hintake, -⟩
  · exact (ProxyBody.other_of_absorb?_some hbody).2
  · exact Intake.other_of_absorb?_some hintake

theorem Peers.notServing_of_absorb? {peers result : Peers}
    (h : peers.absorb? directive = .ok (some result)) : directive.NotServing := by
  cases directive <;> first | exact ⟨rfl, rfl⟩ | cases h

theorem Resolvers.notServing_of_absorb? {resolvers result : Resolvers}
    (h : resolvers.absorb? directive = .ok (some result)) : directive.NotServing := by
  cases directive <;> first | exact ⟨rfl, rfl⟩ | cases h

theorem Mailers.notServing_of_absorb? {mailers result : Mailers}
    (h : mailers.absorb? directive = .ok (some result)) : directive.NotServing := by
  cases directive <;> first | exact ⟨rfl, rfl⟩ | cases h

theorem notServing_of_pair {kind : String} {position : Option Position} {entry : Entry}
    {pair : String × Value} (h : entry.pair kind position = .ok pair) :
    entry.directive.NotServing := by
  obtain ⟨directive, place⟩ := entry
  cases directive <;> first | exact ⟨rfl, rfl⟩ | cases h

end NotServing

section Added

variable {config config' : Configuration} {node : SectionNode}

theorem Frontend.notServing_of_ofNode {frontend : Frontend}
    (h : Frontend.ofNode environment node = .ok frontend) :
    ∃ entries, readChildren environment node.children = .ok entries ∧
      ∀ entry ∈ entries, entry.directive.NotServing := by
  obtain ⟨name, -, h⟩ := bind_eq_ok.1 h
  obtain ⟨filled, hfill, -⟩ := bind_eq_ok.1 h
  exact SectionNode.notServing_of_fill hfill Frontend.notServing_of_absorb?

/-- A script has nothing but settings. -/
theorem Script.notServing_of_ofNode {script : Script}
    (h : Script.ofNode environment node = .ok script) :
    ∃ entries, readChildren environment node.children = .ok entries ∧
      ∀ entry ∈ entries, entry.directive.NotServing := by
  obtain ⟨name, -, h⟩ := bind_eq_ok.1 h
  obtain ⟨entries, hentries, h⟩ := bind_eq_ok.1 h
  obtain ⟨fields, hfields, -⟩ := bind_eq_ok.1 h
  obtain ⟨pairs, hpairs, -⟩ := bind_eq_ok.1 hfields
  refine ⟨entries, hentries, fun entry hentry => ?_⟩
  obtain ⟨pair, hpair⟩ := returns_mapM_iff.1 ⟨pairs, hpairs⟩ entry hentry
  exact notServing_of_pair hpair

/-- **A section is read before it is filled, and only backends and `listen` sections have
servers.** -/
theorem Added.exists_entries (h : Added environment config node config') :
    ∃ entries, readChildren environment node.children = .ok entries ∧
      (node.kind ≠ "backend" → node.kind ≠ "listen" →
        ∀ entry ∈ entries, entry.directive.NotServing) := by
  cases h with
  | backend hkind hx =>
    obtain ⟨_, entries, -, hentries, -⟩ := Backend.filledWith_of_ofNode hx
    exact ⟨entries, hentries, fun hne => absurd hkind hne⟩
  | listen hkind hx =>
    obtain ⟨_, entries, -, hentries, -⟩ := Listen.filledWith_of_ofNode hx
    exact ⟨entries, hentries, fun _ hne => absurd hkind hne⟩
  | global _ _ _ hx =>
    obtain ⟨entries, hentries, hnot⟩ :=
      SectionNode.notServing_of_fill hx Global.notServing_of_absorb?
    exact ⟨entries, hentries, fun _ _ => hnot⟩
  | defaults _ _ hx =>
    obtain ⟨entries, hentries, hnot⟩ :=
      SectionNode.notServing_of_fill hx Defaults.notServing_of_absorb?
    exact ⟨entries, hentries, fun _ _ => hnot⟩
  | frontend _ hx =>
    obtain ⟨entries, hentries, hnot⟩ := Frontend.notServing_of_ofNode hx
    exact ⟨entries, hentries, fun _ _ => hnot⟩
  | script _ hx =>
    obtain ⟨entries, hentries, hnot⟩ := Script.notServing_of_ofNode hx
    exact ⟨entries, hentries, fun _ _ => hnot⟩
  | peers _ hx =>
    obtain ⟨name, -, hfill⟩ := bind_eq_ok.1 hx
    obtain ⟨entries, hentries, hnot⟩ :=
      SectionNode.notServing_of_fill hfill Peers.notServing_of_absorb?
    exact ⟨entries, hentries, fun _ _ => hnot⟩
  | resolvers _ hx =>
    obtain ⟨name, -, hfill⟩ := bind_eq_ok.1 hx
    obtain ⟨entries, hentries, hnot⟩ :=
      SectionNode.notServing_of_fill hfill Resolvers.notServing_of_absorb?
    exact ⟨entries, hentries, fun _ _ => hnot⟩
  | mailers _ hx =>
    obtain ⟨name, -, hfill⟩ := bind_eq_ok.1 hx
    obtain ⟨entries, hentries, hnot⟩ :=
      SectionNode.notServing_of_fill hfill Mailers.notServing_of_absorb?
    exact ⟨entries, hentries, fun _ _ => hnot⟩

end Added

/-- Every section of a document that is assembled can be read, and servers stand where they may. -/
theorem Configuration.exists_entries_of_ofDocument {document : Document} {config : Configuration}
    (h : ofDocument environment document = .ok config) {node : SectionNode}
    (hnode : .block node ∈ document.items) :
    ∃ entries, readChildren environment node.children = .ok entries ∧
      (node.kind ≠ "backend" → node.kind ≠ "listen" →
        ∀ entry ∈ entries, entry.directive.NotServing) := by
  obtain ⟨hbuilds, -⟩ := exists_ofDocument_iff.1 ⟨config, h⟩
  obtain ⟨alone, halone⟩ := hbuilds _ hnode
  exact (addSection_eq_ok_iff.1 halone).exists_entries

/-! ### Rules without their spreads -/

/-- The object, without the templates that it names if it is a rule. -/
def ObjectNode.withoutRuleSpreads (object : ObjectNode) : ObjectNode :=
  if (RuleKind.ofDirective? object.kind).isSome then { object with spreads := [] } else object

/-- The child, without the templates that rules name. -/
def Child.withoutRuleSpreads : Child → Child
  | object node => object node.withoutRuleSpreads
  | list kind items position => list kind (items.map ObjectNode.withoutRuleSpreads) position
  | child => child

/-- The section, without the templates that rules name. -/
def SectionNode.withoutRuleSpreads (node : SectionNode) : SectionNode :=
  { node with children := node.children.map Child.withoutRuleSpreads }

/-- The item, without the templates that rules name. -/
def Item.withoutRuleSpreads : Item → Item
  | block node => block node.withoutRuleSpreads
  | item => item

/-- **The document without the templates that rules name.** -/
def Document.withoutRuleSpreads (document : Document) : Document where
  items := document.items.map Item.withoutRuleSpreads

/-- A rule is read from its fields alone. -/
theorem readObject_withoutRuleSpreads (object : ObjectNode) :
    readObject environment object.withoutRuleSpreads = readObject environment object := by
  obtain ⟨name, labels, children, spreads, position⟩ := object
  rw [ObjectNode.withoutRuleSpreads]
  cases hfamily : RuleKind.ofDirective? name with
  | none => simp
  | some family =>
    have hkind : ObjectKind.ofName? name = some (.rule family) := by
      rw [ObjectKind.ofName?, hfamily]
    simp only [Option.isSome_some, if_true]
    rw [readObject, readObject, hkind]
    simp [ObjectKind.allowsSpreads, ObjectKind.read]

theorem position_withoutRuleSpreads (object : ObjectNode) :
    object.withoutRuleSpreads.position = object.position := by
  rw [ObjectNode.withoutRuleSpreads]
  split <;> rfl

theorem readItems_withoutRuleSpreads (position : Option Position) (items : List ObjectNode) :
    readItems environment position (items.map ObjectNode.withoutRuleSpreads) =
      readItems environment position items := by
  induction items with
  | nil => rfl
  | cons item items ih =>
    rw [List.map_cons, readItems, readItems, readObject_withoutRuleSpreads, ih,
      position_withoutRuleSpreads]

theorem readChild_object (object : ObjectNode) :
    readChild environment (.object object) =
      (do return [⟨← readObject environment object, object.position⟩]) := by
  obtain ⟨name, labels, children, spreads, position⟩ := object
  rw [readChild]

theorem readChild_withoutRuleSpreads (child : Child) :
    readChild environment child.withoutRuleSpreads = readChild environment child := by
  cases child with
  | pair | loop => rfl
  | object node =>
    rw [Child.withoutRuleSpreads, readChild_object, readChild_object,
      readObject_withoutRuleSpreads, position_withoutRuleSpreads]
  | list kind items position =>
    rw [Child.withoutRuleSpreads, readChild, readChild, readItems_withoutRuleSpreads]

theorem readChildren_withoutRuleSpreads (children : List Child) :
    readChildren environment (children.map Child.withoutRuleSpreads) =
      readChildren environment children := by
  induction children with
  | nil => rfl
  | cons child children ih =>
    rw [List.map_cons, readChildren, readChildren, readChild_withoutRuleSpreads, ih]

theorem SectionNode.fill_withoutRuleSpreads {σ : Type} (node : SectionNode)
    (absorb? : σ → Directive → Except Refusal (Option σ)) (elsewhere : String → Bool) (start : σ) :
    node.withoutRuleSpreads.fill environment absorb? elsewhere start =
      node.fill environment absorb? elsewhere start := by
  rw [SectionNode.fill, SectionNode.fill, SectionNode.withoutRuleSpreads,
    readChildren_withoutRuleSpreads]
  rfl

theorem Script.ofNode_withoutRuleSpreads (node : SectionNode) :
    Script.ofNode environment node.withoutRuleSpreads = Script.ofNode environment node := by
  rw [Script.ofNode, Script.ofNode, SectionNode.withoutRuleSpreads,
    readChildren_withoutRuleSpreads]
  rfl

theorem Configuration.addSection_withoutRuleSpreads (config : Configuration) (node : SectionNode) :
    config.addSection environment node.withoutRuleSpreads = config.addSection environment node := by
  unfold addSection Global.ofNode Defaults.ofNode Frontend.ofNode Backend.ofNode Listen.ofNode
    Peers.ofNode Resolvers.ofNode Mailers.ofNode
  simp only [SectionNode.fill_withoutRuleSpreads, Script.ofNode_withoutRuleSpreads]
  rfl

/-- **The templates that rules name have no effect.** -/
theorem Configuration.ofDocument_withoutRuleSpreads (document : Document) :
    ofDocument environment document.withoutRuleSpreads = ofDocument environment document := by
  have hitem : (fun config item => addItem environment config item.withoutRuleSpreads) =
      addItem environment := by
    funext config item
    cases item with
    | block node => exact addSection_withoutRuleSpreads config node
    | _ => rfl
  rw [ofDocument, Document.withoutRuleSpreads, List.foldlM_map, hitem, ofDocument]

/-! ### Servers with their spreads -/

theorem spreads_of_readServer {object : ObjectNode} {server : Server}
    (h : readServer environment object = .ok server) : server.spreads = object.spreads := by
  obtain ⟨fields, -, h⟩ := bind_eq_ok.1 h
  obtain ⟨name?, -, h⟩ := bind_eq_ok.1 h
  obtain ⟨name, -, h⟩ := bind_eq_ok.1 h
  obtain ⟨address, -, h⟩ := bind_eq_ok.1 h
  obtain ⟨port, -, h⟩ := bind_eq_ok.1 h
  obtain ⟨options, -, h⟩ := bind_eq_ok.1 h
  cases h
  rfl

/-- What every step of a pass keeps is kept by the pass. -/
theorem map_eq_of_mapM_eq_ok {ε α β γ : Type} {f : α → Except ε β} {p : α → γ} {q : β → γ}
    (hstep : ∀ a b, f a = .ok b → q b = p a) {as : List α} {bs : List β}
    (h : as.mapM f = .ok bs) : bs.map q = as.map p := by
  have hsteps := mapM_eq_ok.1 h
  clear h
  induction hsteps with
  | nil => rfl
  | cons hab _ ih => rw [List.map_cons, List.map_cons, hstep _ _ hab, ih]

theorem spreads_of_readLoop {node : LoopNode} {loop : ServerLoop}
    (h : readLoop environment node = .ok loop) :
    loop.body.map Server.spreads = node.body.map ObjectNode.spreads := by
  obtain ⟨values, -, h⟩ := bind_eq_ok.1 h
  obtain ⟨servers, hservers, h⟩ := bind_eq_ok.1 h
  cases h
  exact map_eq_of_mapM_eq_ok (fun _ _ => spreads_of_readServer) (readServers_eq_ok_iff.1 hservers).2

/-- **The servers of a pool spread the templates that are written**, one by one and in the order of
the source, and so do the servers in the bodies of its loops. -/
structure Pool.SpreadsAsWritten (pool : Pool) (children : List Child) : Prop where
  servers : pool.servers.map Server.spreads =
    (objectsOf "server" children).map ObjectNode.spreads
  loops : (pool.loops.map fun loop => loop.body.map Server.spreads) =
    (loopsOf children).map fun node => node.body.map ObjectNode.spreads

theorem Pool.spreadsAsWritten {pool : Pool} {children : List Child}
    (hservers : (objectsOf "server" children).mapM (readServer environment) = .ok pool.servers)
    (hloops : (loopsOf children).mapM (readLoop environment) = .ok pool.loops) :
    pool.SpreadsAsWritten children where
  servers := map_eq_of_mapM_eq_ok (fun _ _ => spreads_of_readServer) hservers
  loops := map_eq_of_mapM_eq_ok (fun _ _ => spreads_of_readLoop) hloops

/-! ### Documents -/

/-- **What becomes of the templates that a document names.** An object that is not a rule may name
templates only if it is a server of a backend or of a `listen` section; in the body of a loop there
are no rules either. The templates that rules name are as good as not written, and those that
servers name are kept. -/
theorem Configuration.ofDocument_spreads (environment : Environment) (document : Document) :
    (∀ node object, .block node ∈ document.items → object ∈ node.children.flatMap Child.objects →
      object.spreads ≠ [] → RuleKind.ofDirective? object.kind = none →
      (object.kind = "server" → node.kind ≠ "backend" ∧ node.kind ≠ "listen") →
      ∃ error, ofDocument environment document = .error error) ∧
    (∀ node loop object, .block node ∈ document.items → loop ∈ loopsOf node.children →
      object ∈ loop.body →
      (object.kind = "server" → node.kind ≠ "backend" ∧ node.kind ≠ "listen") →
      ∃ error, ofDocument environment document = .error error) ∧
    ofDocument environment document.withoutRuleSpreads = ofDocument environment document ∧
    ∀ config, ofDocument environment document = .ok config →
      List.Forall₂ (fun node backend => backend.pool.SpreadsAsWritten node.children)
        (sectionsOf "backend" document.items) config.backends ∧
      List.Forall₂ (fun node listen => listen.pool.SpreadsAsWritten node.children)
        (sectionsOf "listen" document.items) config.listens := by
  refine ⟨?_, ?_, ofDocument_withoutRuleSpreads document, ?_⟩
  · intro node object hnode hobject hspreads hrule hserver
    cases h : ofDocument environment document with
    | error error => exact ⟨error, rfl⟩
    | ok config =>
      obtain ⟨entries, hentries, hnot⟩ := exists_entries_of_ofDocument h hnode
      obtain ⟨entry, hentry, hread⟩ := exists_entry_of_mem_objects hentries hobject
      rcases kind_of_readObject hread hspreads with hkind | hfamily
      · obtain ⟨hbackend, hlisten⟩ := hserver hkind
        have hsome := server?_of_readObject hread hkind
        rw [(hnot hbackend hlisten entry hentry).1] at hsome
        cases hsome
      · exact absurd hrule hfamily
  · intro node loop object hnode hloop hobject hserver
    cases h : ofDocument environment document with
    | error error => exact ⟨error, rfl⟩
    | ok config =>
      obtain ⟨entries, hentries, hnot⟩ := exists_entries_of_ofDocument h hnode
      obtain ⟨entry, hentry, content, hread, hcontent⟩ := exists_entry_of_mem_loops hentries hloop
      obtain ⟨values, -, hread⟩ := bind_eq_ok.1 hread
      obtain ⟨servers, hservers, -⟩ := bind_eq_ok.1 hread
      obtain ⟨hbackend, hlisten⟩ := hserver ((readServers_eq_ok_iff.1 hservers).1 object hobject)
      rw [(hnot hbackend hlisten entry hentry).2] at hcontent
      cases hcontent
  · intro config h
    have hassembled := assembled_of_ofDocument h
    refine ⟨(mapM_eq_ok.1 hassembled.backends).imp fun node backend hnode => ?_,
      (mapM_eq_ok.1 hassembled.listens).imp fun node listen hnode => ?_⟩
    · obtain ⟨-, -, hservers, hloops⟩ := Backend.ofNode_eq_ok hnode
      exact Pool.spreadsAsWritten hservers hloops
    · obtain ⟨-, -, -, hservers, hloops⟩ := Listen.ofNode_eq_ok hnode
      exact Pool.spreadsAsWritten hservers hloops

/-- A section with one object, which names a template. -/
def spreadingDocument (place kind label : String) : Document where
  items :=
    [.block ⟨place, some "web", [.object ⟨kind, [label], [], ["t"], none⟩], none⟩]

theorem Configuration.ofDocument_spreads_frontend :
    (∃ error, ofDocument {} (spreadingDocument "frontend" "use_backend" "app") = .error error) ∧
      ∃ error, ofDocument {} (spreadingDocument "frontend" "server" "app") = .error error := by
  obtain ⟨hchoice, -⟩ := ofDocument_spreads {} (spreadingDocument "frontend" "use_backend" "app")
  obtain ⟨hserver, -⟩ := ofDocument_spreads {} (spreadingDocument "frontend" "server" "app")
  exact ⟨hchoice _ _ List.mem_cons_self List.mem_cons_self (by decide) (by decide) (by decide),
    hserver _ _ List.mem_cons_self List.mem_cons_self (by decide) (by decide) (by decide)⟩

/-- **A rule may name a template**, which then is not even looked for: the document is assembled as
if it did not. -/
theorem Configuration.ofDocument_accepts_spreading_rule :
    ofDocument {} (spreadingDocument "frontend" "http_request" "deny") =
      .ok
        { frontends :=
            [{ name := "web"
               body :=
                { mode := some .http
                  rules :=
                    { httpRequest := [⟨.httpRequest, "deny", .ofList [], none⟩] } } }] } := by
  cbv

end Balancer
