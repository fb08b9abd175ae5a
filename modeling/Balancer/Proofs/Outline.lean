import Balancer.Proofs.Reporting

/-!
# The outline of a document

Two things in a document do not matter to the configuration it describes: where its nodes stand, and
whether objects of a kind stand on their own or together in a list. The outline of a document leaves
both out. It builds the same configuration, or it fails for the same cause
(`Configuration.buildsAlike_outline`), so two documents with one outline build alike
(`Configuration.buildsAlike_of_outline_eq`).

The comparison goes along the construction, with two runs side by side: entries agree in their
directives, and everything that is made of them is the same on both sides.
-/

namespace Balancer

/-! ### Outlines -/

mutual

/-- **The outline of a child**: it has no positions, and a list is taken apart into its objects. -/
def Child.outline : Child → List Child
  | .pair key value _ => [.pair key value none]
  | .object node => [.object node.outline]
  | .list _ items _ => (objectsOutline items).map .object
  | .loop ⟨binder, iterable, body, _⟩ => [.loop ⟨binder, iterable, objectsOutline body, none⟩]

/-- The outline of an object. -/
def ObjectNode.outline : ObjectNode → ObjectNode
  | ⟨kind, labels, children, spreads, _⟩ =>
    ⟨kind, labels, childrenOutline children, spreads, none⟩

/-- The outline of children. -/
def childrenOutline : List Child → List Child
  | [] => []
  | child :: children => child.outline ++ childrenOutline children

/-- The outlines of objects. -/
def objectsOutline : List ObjectNode → List ObjectNode
  | [] => []
  | object :: objects => object.outline :: objectsOutline objects

end

/-- The outline of a section. -/
def SectionNode.outline (node : SectionNode) : SectionNode :=
  { node with children := childrenOutline node.children, position := none }

/-- The outline of an item. -/
def Item.outline : Item → Item
  | .definition name value _ => .definition name value none
  | .template name children _ => .template name (childrenOutline children) none
  | .importFile path _ => .importFile path none
  | .block node => .block node.outline

/-- **The outline of a document.** -/
def Document.outline (document : Document) : Document where
  items := document.items.map Item.outline

/-! ### Building alike -/

/-- **Two errors have the same cause**: they differ at most in their positions. -/
def BuildError.SameCause (e e' : BuildError) : Prop := e.placedAt none = e'.placedAt none

/-- **Two constructions end alike**: in related results, or for the same cause. -/
abbrev BuildsAlike {α β : Type} (R : α → β → Prop) :
    Except BuildError α → Except BuildError β → Prop :=
  Ends₂ R BuildError.SameCause

/-- **Entries that agree in their directives.** -/
abbrev SameDirectives : List Entry → List Entry → Prop :=
  List.Forall₂ fun entry entry' => entry.directive = entry'.directive

theorem BuildError.sameCause_placedAt (e : BuildError) (position : Option Position) :
    e.SameCause (e.placedAt position) := by
  cases e <;> rfl

theorem ReportsAlike.buildsAlike {α : Type} {here there : Option Position}
    {x y : Except BuildError α} (h : ReportsAlike here there x y) : BuildsAlike Eq x y :=
  h.mono (fun _ _ hab => hab) fun e _ he => he.2 ▸ e.sameCause_placedAt there

/-! ### Reading -/

section Reading

variable {environment : Environment}

/-- Fields made of entries with the same directives are the same but for the position. -/
theorem Fields.buildsAlike_ofEntries (directive : String) (labels : List String)
    (position : Option Position) {entries entries' : List Entry}
    (h : SameDirectives entries entries') :
    BuildsAlike (fun fields fields' => fields' = fields.moved none)
      (Fields.ofEntries directive labels position entries)
      (Fields.ofEntries directive labels none entries') := by
  have hpair (entry entry' : Entry) (hentry : entry.directive = entry'.directive) :
      BuildsAlike Eq (Entry.pair directive position entry) (Entry.pair directive none entry') := by
    rw [Entry.pair, Entry.pair, hentry]
    split
    · exact .ok rfl
    · exact .error rfl
  refine Ends₂.bind ((ending _).mapM h hpair) fun pairs pairs' hpairs => ?_
  rw [List.forall₂_eq_eq_eq] at hpairs
  exact .ok (by rw [hpairs]; rfl)

theorem readChildren_append_eq_bind (children children' : List Child) :
    readChildren environment (children ++ children') = (do
      let entries ← readChildren environment children
      let entries' ← readChildren environment children'
      return entries ++ entries') := by
  induction children with
  | nil =>
    rw [List.nil_append, readChildren]
    cases readChildren environment children' <;> rfl
  | cons child children ih =>
    rw [List.cons_append, readChildren, readChildren, ih]
    cases readChild environment child with
    | error e => rfl
    | ok first =>
      cases readChildren environment children with
      | error e => rfl
      | ok entries =>
        cases readChildren environment children' with
        | error e => rfl
        | ok entries' => exact congrArg Except.ok (List.append_assoc ..).symm

mutual

/-- **An object is read as its outline.** -/
theorem buildsAlike_readObject (object : ObjectNode) :
    BuildsAlike Eq (readObject environment object) (readObject environment object.outline) := by
  match object with
  | ⟨name, labels, children, spreads, position⟩ =>
    rw [ObjectNode.outline, readObject, readObject]
    cases ObjectKind.ofName? name with
    | none => exact .error rfl
    | some kind =>
      refine (kind.alike_precheck name labels position none).buildsAlike.bind_eq fun _ => ?_
      refine (buildsAlike_readChildren children).bind fun _ _ hentries => ?_
      refine (Fields.buildsAlike_ofEntries name labels position hentries).bind ?_
      rintro fields _ rfl
      refine (kind.alike_read fields none spreads).buildsAlike.bind_eq fun _ => ?_
      exact (ending _).guard (.error rfl) (.ok rfl)

theorem buildsAlike_readServers (position : Option Position) (items : List ObjectNode) :
    BuildsAlike Eq (readServers environment position items)
      (readServers environment none (objectsOutline items)) := by
  match items with
  | [] =>
    rw [objectsOutline, readServers, readServers]
    exact .ok rfl
  | ⟨name, labels, children, spreads, own⟩ :: items =>
    rw [objectsOutline, ObjectNode.outline, readServers, readServers]
    refine (ending _).guard (.error rfl) ?_
    refine (buildsAlike_readChildren children).bind fun _ _ hentries => ?_
    refine (Fields.buildsAlike_ofEntries name labels own hentries).bind ?_
    rintro fields _ rfl
    refine (Server.alike_ofFields fields none spreads).buildsAlike.bind_eq fun _ => ?_
    exact (buildsAlike_readServers position items).bind_eq fun _ => .ok rfl

/-- The items of a list are read as objects that stand on their own. -/
theorem buildsAlike_readItems (position : Option Position) (items : List ObjectNode) :
    BuildsAlike SameDirectives (readItems environment position items)
      (readChildren environment ((objectsOutline items).map .object)) := by
  match items with
  | [] =>
    rw [objectsOutline, List.map_nil, readItems, readChildren]
    exact .ok .nil
  | ⟨name, labels, children, spreads, own⟩ :: items =>
    have hfirst := buildsAlike_readObject ⟨name, labels, children, spreads, own⟩
    rw [ObjectNode.outline] at hfirst
    rw [objectsOutline, ObjectNode.outline, List.map_cons, readItems, readChildren, readChild,
      bind_assoc]
    refine hfirst.bind_eq fun _ => ?_
    refine (buildsAlike_readItems position items).bind fun _ _ hrest => ?_
    exact .ok (.cons rfl hrest)

theorem buildsAlike_readChild (child : Child) :
    BuildsAlike SameDirectives (readChild environment child)
      (readChildren environment child.outline) := by
  match child with
  | .pair key value position =>
    rw [Child.outline, readChild, readChildren, readChild, bind_assoc]
    refine (value.alike_evaluate environment position none).buildsAlike.bind_eq fun _ => ?_
    rw [readChildren]
    exact .ok (.cons rfl .nil)
  | .object ⟨name, labels, children, spreads, position⟩ =>
    have hobject := buildsAlike_readObject ⟨name, labels, children, spreads, position⟩
    rw [ObjectNode.outline] at hobject
    rw [Child.outline, ObjectNode.outline, readChild, readChildren, readChild, bind_assoc]
    refine hobject.bind_eq fun _ => ?_
    rw [readChildren]
    exact .ok (.cons rfl .nil)
  | .list kind items position =>
    rw [Child.outline, readChild]
    exact buildsAlike_readItems position items
  | .loop ⟨binder, iterable, body, position⟩ =>
    rw [Child.outline, readChild, readChildren, readChild, bind_assoc]
    refine (iterable.alike_evaluate environment position none).buildsAlike.bind_eq fun _ => ?_
    rw [bind_assoc]
    refine (buildsAlike_readServers position body).bind_eq fun _ => ?_
    rw [readChildren]
    exact .ok (.cons rfl .nil)

/-- **Children are read as their outline.** -/
theorem buildsAlike_readChildren (children : List Child) :
    BuildsAlike SameDirectives (readChildren environment children)
      (readChildren environment (childrenOutline children)) := by
  match children with
  | [] =>
    rw [childrenOutline, readChildren]
    exact .ok .nil
  | child :: children =>
    rw [childrenOutline, readChildren_append_eq_bind, readChildren]
    refine (buildsAlike_readChild child).bind fun _ _ hfirst => ?_
    refine (buildsAlike_readChildren children).bind fun _ _ hrest => ?_
    exact .ok (List.rel_append hfirst hrest)

end

end Reading

/-! ### Sections -/

section Sections

variable {environment : Environment} (node : SectionNode)

namespace SectionNode

theorem buildsAlike_requiredName : BuildsAlike Eq node.requiredName node.outline.requiredName := by
  have hname : node.outline.name = node.name := rfl
  rw [requiredName, requiredName, hname]
  split
  · exact .ok rfl
  · exact .error rfl

/-- Entries with the same directive are taken in alike. -/
theorem buildsAlike_take {σ : Type} {absorb? : σ → Directive → Except Refusal (Option σ)}
    {elsewhere : String → Bool} (state : σ) {entry entry' : Entry}
    (h : entry.directive = entry'.directive) :
    BuildsAlike Eq (node.take absorb? elsewhere state entry)
      (node.outline.take absorb? elsewhere state entry') := by
  rw [take, take, h]
  split
  case h_1 refusal _ =>
    cases refusal with
    | field source => exact .error rfl
    | fault fault => exact .error rfl
  case h_2 => exact .ok rfl
  case h_3 =>
    refine .error ?_
    rw [leftover, leftover, h]
    split
    · split
      · rfl
      · rfl
    · rfl

/-- **A section is filled as its outline.** -/
theorem buildsAlike_fill {σ : Type} {absorb? : σ → Directive → Except Refusal (Option σ)}
    {elsewhere : String → Bool} (start : σ) :
    BuildsAlike Eq (node.fill environment absorb? elsewhere start)
      (node.outline.fill environment absorb? elsewhere start) := by
  refine (buildsAlike_readChildren node.children).bind fun entries entries' hentries => ?_
  refine (ending _).foldlM hentries ?_ rfl
  rintro state _ rfl entry entry' hentry
  exact node.buildsAlike_take state hentry

end SectionNode

theorem Script.buildsAlike_ofNode :
    BuildsAlike Eq (Script.ofNode environment node) (Script.ofNode environment node.outline) := by
  refine node.buildsAlike_requiredName.bind_eq fun _ => ?_
  refine (buildsAlike_readChildren node.children).bind fun _ _ hentries => ?_
  refine (Fields.buildsAlike_ofEntries "script" [] node.position hentries).bind ?_
  rintro fields _ rfl
  -- from here on both sides read the same fields, at two positions
  refine ReportsAlike.buildsAlike (?_ : ReportsAlike fields.position none _ _)
  refine (FieldReader.alike_read fields none).bind_eq fun _ =>
    (ending _).guard (.error ⟨rfl, rfl⟩) ?_
  refine (FieldReader.alike_read fields none).bind_eq fun _ => ?_
  refine (FieldReader.alike_read fields none).bind_eq fun _ =>
    (ending _).guard (.error ⟨rfl, rfl⟩) ?_
  exact (fields.alike_finish none _).bind_eq fun _ => .ok rfl

/-- **A section is taken in as its outline.** -/
theorem Configuration.buildsAlike_addSection (config : Configuration) :
    BuildsAlike Eq (config.addSection environment node)
      (config.addSection environment node.outline) := by
  have hkind : node.outline.kind = node.kind := rfl
  have hname : node.outline.name = node.name := rfl
  have hfill {σ : Type} {absorb? : σ → Directive → Except Refusal (Option σ)}
      {elsewhere : String → Bool} (start : σ) :
      BuildsAlike Eq (node.fill environment absorb? elsewhere start)
        (node.outline.fill environment absorb? elsewhere start) :=
    node.buildsAlike_fill start
  have hrequired := node.buildsAlike_requiredName
  rw [addSection.eq_def, addSection.eq_def, hkind]
  split
  case h_1 => 
    refine (ending _).guard (.error rfl) ((ending _).guard (.error rfl) ?_)
    exact (hfill _).bind_eq fun _ => .ok rfl
  case h_2 => exact (ending _).guard (.error rfl) ((hfill _).bind_eq fun _ => .ok rfl)
  case h_3 | h_4 | h_5 =>
    refine Ends₂.bind_eq ?_ fun _ => .ok rfl
    exact hrequired.bind_eq fun _ => (hfill _).bind_eq fun _ => .ok rfl
  case h_6 | h_7 | h_8 =>
    exact (hrequired.bind_eq fun _ => hfill _).bind_eq fun _ => .ok rfl
  case h_9 => exact (Script.buildsAlike_ofNode node).bind_eq fun _ => .ok rfl
  case h_10 => exact .error rfl

end Sections

/-! ### Documents -/

namespace Configuration

variable {environment : Environment}

theorem buildsAlike_addItem (config : Configuration) (item : Item) :
    BuildsAlike Eq (config.addItem environment item)
      (config.addItem environment item.outline) := by
  cases item with
  | definition name value position =>
    exact (value.alike_evaluate environment position none).buildsAlike.bind_eq fun _ => .ok rfl
  | template name children position =>
    refine Ends₂.bind_eq ?_ fun _ => .ok rfl
    refine (buildsAlike_readChildren children).bind fun _ _ hentries => ?_
    refine (Fields.buildsAlike_ofEntries "template" [] position hentries).bind ?_
    rintro fields _ rfl
    refine ReportsAlike.buildsAlike (?_ : ReportsAlike fields.position none _ _)
    exact (FieldReader.alike_read fields none).bind_eq fun _ =>
      (ending _).guard (.error ⟨rfl, rfl⟩) (.ok rfl)
  | importFile path position => exact .ok rfl
  | block node => exact buildsAlike_addSection node config

/-- **A document builds as its outline.** -/
theorem buildsAlike_outline (document : Document) :
    BuildsAlike Eq (ofDocument environment document)
      (ofDocument environment document.outline) := by
  have hitems : List.Forall₂ (fun item item' => item' = Item.outline item) document.items
      (document.items.map Item.outline) :=
    List.forall₂_map_right_iff.2 (List.forall₂_same.2 fun _ _ => rfl)
  refine (ending _).foldlM hitems ?_ rfl
  rintro config _ rfl item _ rfl
  exact buildsAlike_addItem config item

/-- **Documents with one outline build alike.** -/
theorem buildsAlike_of_outline_eq {document document' : Document}
    (h : document.outline = document'.outline) :
    BuildsAlike Eq (ofDocument environment document) (ofDocument environment document') := by
  have hdocument : BuildsAlike Eq (ofDocument environment document)
      (ofDocument environment document'.outline) := h ▸ buildsAlike_outline document
  refine hdocument.of_common (buildsAlike_outline document') ?_ ?_
  · intro config outlined config' hconfig hconfig'
    exact hconfig.trans hconfig'.symm
  · intro e outlined e' he he'
    exact he.trans he'.symm

end Configuration

end Balancer
