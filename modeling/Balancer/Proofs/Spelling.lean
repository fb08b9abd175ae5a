import Mathlib
import Balancer.Proofs.Placement

/-!
# The spellings of objects

Objects of one kind can be written in three ways: as blocks one after the other, as one assignment
of a list of object values, and, if there is only one, as an assignment of an object value. In a
value the labels of a block are the entry `labels`. Two texts that differ only in how they spell
objects, in sections or in the bodies of loops, and as often as one likes, are `Respelled`. They are
parsed alike, and what they are parsed to builds alike (`Document.parse_respelled`).

The three spellings are never compared with each other: each of them is read as the object itself
(`Subobject.read`), up to positions. The two places where objects stand, sections and loops, then
use the same fact (`Spells.parsesAlike_mapM`, `Spells.parsesAlike_foldlM`).

Two limits are sharp (`Document.parse_distinguishes_spellings`). An empty list is a value like any
other, so it does not spell no objects. And the words `true`, `false` and `null` are names in front
of an equals sign in a block, but not in a value, where they are computed keys.
-/

namespace Balancer

/-! ### Spellings -/

/-- **A sub-object**: its labels and its attributes. The keys that stand for labels in a value are
not attributes. -/
structure Subobject where
  labels : List String
  attributes : List (String × Hcl.Expr)
  keys : ∀ pair ∈ attributes, pair.1 ≠ "label" ∧ pair.1 ≠ "labels"

namespace Subobject

/-- The entries of the object value for some attributes. -/
def entries (attributes : List (String × Hcl.Expr)) : List (Hcl.Key × Hcl.Expr) :=
  attributes.map fun (name, value) => (.name name, value)

/-- **The sub-object as a value**, with its labels in front. -/
def literal (object : Subobject) : Hcl.Expr :=
  .object ((.name "labels", .array (object.labels.map .text)) :: entries object.attributes)

/-- An attribute in a block. -/
inductive IsAttribute : String × Hcl.Expr → Hcl.Structure → Prop
  | mk (name : String) (value : Hcl.Expr) (left : Nat) :
    IsAttribute (name, value) (.assignment name value left)

/-- **The sub-object as a block** of a kind. -/
inductive IsBlock (kind : String) (object : Subobject) : Hcl.Structure → Prop
  | mk {body : List Hcl.Structure} (h : List.Forall₂ IsAttribute object.attributes body)
    (left : Nat) : IsBlock kind object (.block kind object.labels body left)

end Subobject

/-- **The spellings of sub-objects** of a kind. -/
inductive Spells (kind : String) : List Subobject → List Hcl.Structure → Prop
  | blocks {objects : List Subobject} {structures : List Hcl.Structure}
    (h : List.Forall₂ (Subobject.IsBlock kind) objects structures) : Spells kind objects structures
  | list {objects : List Subobject} (h : objects ≠ []) (left : Nat) :
    Spells kind objects [.assignment kind (.array (objects.map Subobject.literal)) left]
  | single (object : Subobject) (left : Nat) :
    Spells kind [object] [.assignment kind object.literal left]

/-- **Bodies that differ in their spellings**: some structures are `Kept`, and objects of an
admissible `Kind` are spelled in another way. -/
inductive RespelledBody (Kind : String → Prop) (Kept : Hcl.Structure → Hcl.Structure → Prop) :
    List Hcl.Structure → List Hcl.Structure → Prop
  | nil : RespelledBody Kind Kept [] []
  | keep {entry entry' : Hcl.Structure} {rest rest' : List Hcl.Structure} (h : Kept entry entry')
    (hrest : RespelledBody Kind Kept rest rest') :
    RespelledBody Kind Kept (entry :: rest) (entry' :: rest')
  | respell {kind : String} {objects : List Subobject} {spelling spelling' : List Hcl.Structure}
    {rest rest' : List Hcl.Structure} (hkind : Kind kind) (h : Spells kind objects spelling)
    (h' : Spells kind objects spelling') (hrest : RespelledBody Kind Kept rest rest') :
    RespelledBody Kind Kept (spelling ++ rest) (spelling' ++ rest')

/-- The bodies of loops. What a loop runs over is not an object. -/
abbrev RespelledLoop : List Hcl.Structure → List Hcl.Structure → Prop :=
  RespelledBody (· ∉ ["for", "range", "in"]) Hcl.Structure.Moved

/-- What is kept in a section, apart from what is spelled differently in loops. -/
inductive RespelledEntry : Hcl.Structure → Hcl.Structure → Prop
  | moved {entry entry' : Hcl.Structure} (h : entry.Moved entry') : RespelledEntry entry entry'
  | loop (labels : List String) {body body' : List Hcl.Structure} (h : RespelledLoop body body')
    (left left' : Nat) :
    RespelledEntry (.block "for" labels body left) (.block "for" labels body' left')

/-- The bodies of sections. -/
abbrev RespelledSection : List Hcl.Structure → List Hcl.Structure → Prop :=
  RespelledBody (· ≠ "for") RespelledEntry

/-- Structures at the top level. -/
inductive RespelledItem : Hcl.Structure → Hcl.Structure → Prop
  | assignment (name : String) (value : Hcl.Expr) (left left' : Nat) :
    RespelledItem (.assignment name value left) (.assignment name value left')
  | block (kind : String) (labels : List String) {body body' : List Hcl.Structure}
    (h : RespelledSection body body') (left left' : Nat) :
    RespelledItem (.block kind labels body left) (.block kind labels body' left')

/-- **Texts that differ in their spellings.** -/
abbrev Respelled : List Hcl.Structure → List Hcl.Structure → Prop := List.Forall₂ RespelledItem

/-! ### Every spelling is read as the object -/

/-- **The object that a sub-object stands for.** -/
def Subobject.read (kind : String) (object : Subobject) : Except ParseError ObjectNode :=
  ObjectNode.ofEntries ⟨kind, object.labels, [], [], none⟩ (entries object.attributes)

theorem labelTexts_text (position : Option Position) (labels : List String) :
    labelTexts position (.array (labels.map .text)) = .ok labels := by
  rw [labelTexts]
  induction labels with
  | nil => rfl
  | cons label labels ih =>
    rw [List.map_cons, List.mapM_cons, ih]
    rfl

theorem ObjectNode.ofEntries_labels (node : ObjectNode) (labels : List String)
    (entries : List (Hcl.Key × Hcl.Expr)) :
    ObjectNode.ofEntries node ((.name "labels", .array (labels.map .text)) :: entries) =
      ObjectNode.ofEntries { node with labels := node.labels ++ labels } entries := by
  have hlabels := labelTexts_text node.position labels
  rw [ObjectNode.ofEntries]
  simp only [Hcl.Key.toName, ok_bind, hlabels]

/-- An entry of a value that is an attribute is added as an attribute of a block. -/
theorem ObjectNode.ofEntries_attribute (node : ObjectNode) {name : String}
    (h : name ≠ "label" ∧ name ≠ "labels") (value : Hcl.Expr)
    (entries : List (Hcl.Key × Hcl.Expr)) (left : Nat) :
    ObjectNode.ofEntries node ((.name name, value) :: entries) = (do
      let next ← ObjectNode.addStructure (fun _ => node.position) node (.assignment name value left)
      ObjectNode.ofEntries next entries) := by
  rw [ObjectNode.ofEntries, ObjectNode.addStructure]
  simp only [Hcl.Key.toName, ok_bind]
  by_cases htemplates : name = "templates"
  · subst htemplates
    simp
  · simp [htemplates, h.1, h.2]

theorem childrenOutline_singleton (child : Child) : childrenOutline [child] = child.outline := by
  rw [childrenOutline, childrenOutline, List.append_nil]

theorem objectsOutline_singleton {node node' : ObjectNode} (h : node.outline = node'.outline) :
    objectsOutline [node] = objectsOutline [node'] := by
  rw [objectsOutline, objectsOutline, h]
  rfl

/-- A child that stands for objects adds them to a loop. -/
theorem LoopParts.Alike.addChild_of_looped {parts parts' : LoopParts} (h : parts.Alike parts')
    {name : String} {position : Option Position} {child : Child} {nodes : List ObjectNode}
    (hchild : child.looped?.map objectsOutline = some (objectsOutline nodes)) :
    ParsesAlike (fun result nodes => result.Alike { parts' with body := parts'.body ++ nodes })
      (parts.addChild name position child) (.ok nodes) := by
  obtain ⟨items, hitems, hnodes⟩ := Option.map_eq_some_iff.1 hchild
  rw [LoopParts.addChild, hitems]
  exact .ok (h.append hnodes)

section Reading

variable (place : Nat → Option Position) {kind : String}

/-- Attributes of a block and of a value are added alike. -/
theorem ObjectNode.parsesAlike_addAttributes {attributes : List (String × Hcl.Expr)}
    {body : List Hcl.Structure} (hbody : List.Forall₂ Subobject.IsAttribute attributes body)
    (hkeys : ∀ pair ∈ attributes, pair.1 ≠ "label" ∧ pair.1 ≠ "labels")
    {node node' : ObjectNode} (h : node.outline = node'.outline) :
    ParsesAlike (fun result result' => result.outline = result'.outline)
      (ObjectNode.addStructures place node body)
      (ObjectNode.ofEntries node' (Subobject.entries attributes)) := by
  induction hbody generalizing node node' with
  | nil =>
    rw [ObjectNode.addStructures, Subobject.entries, List.map_nil, ObjectNode.ofEntries]
    exact .ok h
  | cons hfirst _ ih =>
    obtain ⟨name, value, left⟩ := hfirst
    obtain ⟨hname, hkeys⟩ := List.forall_mem_cons.1 hkeys
    rw [ObjectNode.addStructures, Subobject.entries, List.map_cons,
      ObjectNode.ofEntries_attribute node' hname value _ left]
    have hmoved := Hcl.Structure.Moved.assignment name value left left
    refine (ObjectNode.parsesAlike_addStructure place _ hmoved h).bind fun _ _ hnext => ?_
    exact ih hkeys hnext

/-- A block is read as the object. -/
theorem Subobject.IsBlock.parsesAlike {object : Subobject} {body : List Hcl.Structure}
    (h : List.Forall₂ IsAttribute object.attributes body) (left : Nat) :
    ParsesAlike (fun node node' => node.outline = node'.outline)
      (ObjectNode.ofBlock place kind object.labels body left) (object.read kind) :=
  ObjectNode.parsesAlike_addAttributes place h object.keys (ObjectNode.outline_mk kind _ _ none)

/-- A value is read as the object. -/
theorem Subobject.parsesAlike_literal (object : Subobject) (position : Option Position) :
    ParsesAlike (fun child node => child.outline = [.object node.outline])
      (Child.ofHcl kind position object.literal) (object.read kind) := by
  rw [literal, Child.ofHcl, ObjectNode.ofEntries_labels]
  have hstart := ObjectNode.outline_mk kind object.labels position none
  have hnode := ObjectNode.parsesAlike_ofEntries (entries object.attributes) hstart
  rw [← bind_pure (object.read kind)]
  refine hnode.bind fun node node' hnode => .ok ?_
  rw [Child.outline, hnode]

/-- The values in a list are read as the objects. -/
theorem Subobject.parsesAlike_ofItems (objects : List Subobject) (position : Option Position) :
    ParsesAlike (fun nodes nodes' => objectsOutline nodes = objectsOutline nodes')
      (ObjectNode.ofItems kind position (objects.map literal))
      (objects.mapM (Subobject.read kind)) := by
  induction objects with
  | nil => exact .ok rfl
  | cons object objects ih =>
    rw [List.map_cons, literal, ObjectNode.ofItems, ObjectNode.ofEntries_labels, List.mapM_cons]
    have hstart := ObjectNode.outline_mk kind object.labels position none
    refine (ObjectNode.parsesAlike_ofEntries (entries object.attributes) hstart).bind ?_
    intro node node' hnode
    refine ih.bind fun nodes nodes' hnodes => .ok ?_
    rw [objectsOutline, objectsOutline, hnode, hnodes]

/-- A list of values is read as the objects. -/
theorem Subobject.parsesAlike_list {objects : List Subobject} (h : objects ≠ [])
    (position : Option Position) :
    ParsesAlike (fun child nodes => child.outline = (objectsOutline nodes).map .object)
      (Child.ofHcl kind position (.array (objects.map literal)))
      (objects.mapM (Subobject.read kind)) := by
  have hobjects : (!(objects.map literal).isEmpty &&
      (objects.map literal).all Hcl.Expr.isObject) = true := by
    simp [h, literal, Hcl.Expr.isObject]
  rw [Child.ofHcl, if_pos hobjects, ← bind_pure (objects.mapM _)]
  refine (Subobject.parsesAlike_ofItems objects position).bind fun nodes nodes' hnodes => .ok ?_
  rw [Child.outline, hnodes]

/-- **In a section, every spelling is read as the objects.** -/
theorem Spells.parsesAlike_mapM (hkind : kind ≠ "for") {objects : List Subobject}
    {structures : List Hcl.Structure} (h : Spells kind objects structures) :
    ParsesAlike
      (fun children nodes => childrenOutline children = (objectsOutline nodes).map .object)
      (structures.mapM (Child.ofStructure place)) (objects.mapM (Subobject.read kind)) := by
  cases h with
  | blocks h =>
    induction h with
    | nil => exact .ok rfl
    | cons hfirst _ ih =>
      obtain ⟨hbody, left⟩ := hfirst
      rw [List.mapM_cons, List.mapM_cons, Child.ofStructure_block place hkind, map_eq_pure_bind,
        bind_assoc]
      refine (Subobject.IsBlock.parsesAlike place hbody left).bind fun node node' hnode => ?_
      refine ih.bind fun children nodes hchildren => .ok ?_
      rw [childrenOutline, objectsOutline, Child.outline, hnode, hchildren]
      rfl
  | list hne left =>
    rw [List.mapM_cons, ← bind_pure (objects.mapM _)]
    refine (Subobject.parsesAlike_list hne (place left)).bind fun child nodes hchild => .ok ?_
    exact (childrenOutline_singleton child).trans hchild
  | single object left =>
    rw [List.mapM_cons, List.mapM_cons]
    refine (object.parsesAlike_literal (place left)).bind fun child node hchild => .ok ?_
    exact (childrenOutline_singleton child).trans hchild

/-- **In a loop, every spelling adds the objects.** -/
theorem Spells.parsesAlike_foldlM (hkind : kind ∉ ["for", "range", "in"])
    {objects : List Subobject} {structures : List Hcl.Structure}
    (h : Spells kind objects structures) {parts parts' : LoopParts} (hparts : parts.Alike parts') :
    ParsesAlike (fun result nodes => result.Alike { parts' with body := parts'.body ++ nodes })
      (structures.foldlM (LoopParts.add place) parts) (objects.mapM (Subobject.read kind)) := by
  simp only [List.mem_cons, List.not_mem_nil, or_false, not_or] at hkind
  obtain ⟨hfor, hrange, hin⟩ := hkind
  cases h with
  | blocks h =>
    induction h generalizing parts parts' with
    | nil =>
      rw [List.foldlM_nil, List.mapM_nil]
      exact .ok (by rwa [List.append_nil])
    | cons hfirst _ ih =>
      obtain ⟨hbody, left⟩ := hfirst
      rw [List.foldlM_cons, List.mapM_cons, LoopParts.add_block place hfor, bind_assoc]
      refine (Subobject.IsBlock.parsesAlike place hbody left).bind fun node node' hnode => ?_
      have hnext := hparts.append (objectsOutline_singleton hnode)
      rw [pure_bind, ← bind_pure (List.foldlM _ _ _)]
      refine (ih hnext).bind fun result nodes hresult => .ok ?_
      rwa [List.append_assoc] at hresult
  | list hne left =>
    simp only [List.foldlM_cons, List.foldlM_nil, bind_pure]
    rw [LoopParts.add_assignment place hrange hin, ← bind_pure (objects.mapM _)]
    refine (Subobject.parsesAlike_list hne (place left)).bind fun child nodes hchild => ?_
    have hlooped : child.looped?.map objectsOutline = some (objectsOutline nodes) := by
      rw [Child.looped?_outline, hchild, Child.mapM_object?]
    exact hparts.addChild_of_looped hlooped
  | single object left =>
    simp only [List.foldlM_cons, List.foldlM_nil, bind_pure]
    rw [LoopParts.add_assignment place hrange hin, List.mapM_cons]
    refine (object.parsesAlike_literal (place left)).bind fun child node hchild => ?_
    have hlooped : child.looped?.map objectsOutline = some (objectsOutline [node]) := by
      rw [Child.looped?_outline, hchild]
      rfl
    exact hparts.addChild_of_looped hlooped

end Reading

/-! ### Texts that differ in their spellings -/

section Texts

variable (place place' : Nat → Option Position)

/-- **The bodies of loops are read alike.** -/
theorem LoopParts.parsesAlike_respelled {body body' : List Hcl.Structure}
    (h : RespelledLoop body body') {parts parts' : LoopParts} (hparts : parts.Alike parts') :
    ParsesAlike Alike (body.foldlM (LoopParts.add place) parts)
      (body'.foldlM (LoopParts.add place') parts') := by
  induction h generalizing parts parts' with
  | nil => exact .ok hparts
  | keep hentry _ ih =>
    rw [List.foldlM_cons, List.foldlM_cons]
    refine (LoopParts.parsesAlike_add place place' hparts hentry).bind fun _ _ hnext => ?_
    exact ih hnext
  | respell hkind hspelling hspelling' _ ih =>
    rw [List.foldlM_append, List.foldlM_append]
    -- both spellings are compared with the objects they spell
    have hleft := hspelling.parsesAlike_foldlM place hkind hparts
    have hright := hspelling'.parsesAlike_foldlM place' hkind (Alike.refl parts')
    refine Ends₂.bind (R := Alike) (hleft.of_common hright ?_ ?_) fun _ _ hnext => ih hnext
    · intro result nodes result' h h'
      exact ⟨h.iterable.trans h'.iterable.symm, h.body.trans h'.body.symm⟩
    · intro e f e' he he'
      exact he.trans he'.symm

theorem Child.parsesAlike_respelled {entry entry' : Hcl.Structure}
    (h : RespelledEntry entry entry') :
    ParsesAlike (fun child child' => child.outline = child'.outline)
      (Child.ofStructure place entry) (Child.ofStructure place' entry') := by
  cases h with
  | moved h => exact Child.parsesAlike_ofStructure place place' h
  | loop labels h left left' =>
    have hparts := LoopParts.parsesAlike_respelled place place' h (.refl {})
    have hnodes := LoopNode.parsesAlike_ofBlock place place' labels left left' hparts
    exact (ending _).map hnodes fun _ _ => id

/-- **The bodies of sections are read alike.** -/
theorem parsesAlike_mapM_respelled {body body' : List Hcl.Structure}
    (h : RespelledSection body body') :
    ParsesAlike (fun children children' => childrenOutline children = childrenOutline children')
      (body.mapM (Child.ofStructure place)) (body'.mapM (Child.ofStructure place')) := by
  induction h with
  | nil => exact .ok rfl
  | keep hentry _ ih =>
    rw [List.mapM_cons, List.mapM_cons]
    refine (Child.parsesAlike_respelled place place' hentry).bind fun _ _ hchild => ?_
    refine ih.bind fun _ _ hchildren => .ok ?_
    rw [childrenOutline, childrenOutline, hchild, hchildren]
  | respell hkind hspelling hspelling' _ ih =>
    rw [List.mapM_append, List.mapM_append]
    have hleft := hspelling.parsesAlike_mapM place hkind
    have hright := hspelling'.parsesAlike_mapM place' hkind
    have hboth : ParsesAlike
        (fun children children' => childrenOutline children = childrenOutline children') _ _ :=
      hleft.of_common hright (fun _ _ _ h h' => h.trans h'.symm)
        fun _ _ _ he he' => he.trans he'.symm
    refine hboth.bind fun _ _ hfirst => ih.bind fun _ _ hrest => .ok ?_
    rw [childrenOutline_append, childrenOutline_append, hfirst, hrest]

theorem Item.ofStructure_block {kind : String} (htemplate : kind ≠ "template")
    (himport : kind ≠ "import") (labels : List String) (body : List Hcl.Structure) (left : Nat) :
    Item.ofStructure place (.block kind labels body left) =
      if sectionKinds.contains kind then .block <$> SectionNode.ofBlock place kind labels body left
      else .error (.unsupported (.topLevelBlock kind) (place left)) := by
  rw [Item.ofStructure]
  all_goals simp [htemplate, himport]

/-- **Items are read alike.** -/
theorem Item.parsesAlike_respelled {entry entry' : Hcl.Structure} (h : RespelledItem entry entry') :
    ParsesAlike (fun item item' => item.outline = item'.outline)
      (Item.ofStructure place entry) (Item.ofStructure place' entry') := by
  cases h with
  | assignment name value left left' =>
    exact (Expr.parsesAlike_ofHcl _ _ value).bind_eq fun _ => .ok rfl
  | block kind labels hbody left left' =>
    have hchildren := parsesAlike_mapM_respelled place place' hbody
    by_cases htemplate : kind = "template"
    · subst htemplate
      refine (parsesAlike_onlyLabel "template" labels _ _).bind_eq fun name => ?_
      refine hchildren.bind fun _ _ hchildren => .ok ?_
      rw [Item.outline, Item.outline, hchildren]
    by_cases himport : kind = "import"
    · subst himport
      exact (parsesAlike_onlyLabel "import" labels _ _).bind_eq fun _ => .ok rfl
    rw [Item.ofStructure_block place htemplate himport,
      Item.ofStructure_block place' htemplate himport]
    split
    · refine (ending _).map (R := fun node node' => SectionNode.outline node = node'.outline) ?_
        fun _ _ hnode => congrArg Item.block hnode
      rw [SectionNode.ofBlock, SectionNode.ofBlock]
      split
      · exact .error rfl
      · refine hchildren.bind fun _ _ hchildren => .ok ?_
        rw [SectionNode.outline, SectionNode.outline, hchildren]
    · exact .error rfl

/-- **Documents are read alike.** -/
theorem Document.parsesAlike_respelled {structures structures' : List Hcl.Structure}
    (h : Respelled structures structures') :
    ParsesAlike (fun document document' => document.outline = document'.outline)
      (Document.ofStructures place structures) (Document.ofStructures place' structures') := by
  have hitems := (ending _).mapM h fun _ _ => Item.parsesAlike_respelled place place'
  refine hitems.bind fun items items' hitems => .ok ?_
  have houtlines : items.map Item.outline = items'.map Item.outline := by
    rwa [← List.forall₂_eq_eq_eq, List.forall₂_map_left_iff, List.forall₂_map_right_iff]
  rw [Document.outline, Document.outline, houtlines]

end Texts

theorem Document.parse_of_read? {source : String} {structures : List Hcl.Structure}
    (h : Hcl.read? source = some structures) :
    Document.parse source =
      Document.ofStructures (fun left => some (.ofOffset source (offsetOfLeft source.toList left)))
        structures := by
  rw [Document.parse, h]

/-- **Spellings do not matter.** Texts that differ in how they spell objects are both refused, for
the same cause, or both accepted; and the documents then both fail to build, for the same cause, or
build the same configuration. -/
theorem Document.parse_respelled {source source' : String}
    {structures structures' : List Hcl.Structure} (hread : Hcl.read? source = some structures)
    (hread' : Hcl.read? source' = some structures') (h : Respelled structures structures')
    (environment : Environment) :
    ParsesAlike
      (fun document document' =>
        BuildsAlike Eq (Configuration.ofDocument environment document)
          (Configuration.ofDocument environment document'))
      (Document.parse source) (Document.parse source') := by
  rw [Document.parse_of_read? hread, Document.parse_of_read? hread']
  refine (Document.parsesAlike_respelled _ _ h).mono ?_ fun _ _ => id
  intro document document' houtline
  exact Configuration.buildsAlike_of_outline_eq houtline

/-! ### Texts that are made of texts

Syntax trees have no decidable equality, but what a concrete text is read as can be compared with a
tree whose values are texts, lists and objects. -/

namespace Hcl

mutual

/-- Whether two syntax trees are made of the same texts. -/
def Expr.same : Expr → Expr → Bool
  | .text s, .text t => s == t
  | .array items, .array items' => sameItems items items'
  | .object entries, .object entries' => sameEntries entries entries'
  | _, _ => false

/-- Whether two lists of syntax trees are made of the same texts. -/
def sameItems : List Expr → List Expr → Bool
  | [], [] => true
  | item :: items, item' :: items' => item.same item' && sameItems items items'
  | _, _ => false

/-- Whether the entries of two objects are made of the same texts. -/
def sameEntries : List (Key × Expr) → List (Key × Expr) → Bool
  | [], [] => true
  | (key, item) :: entries, (key', item') :: entries' =>
    key == key' && (item.same item' && sameEntries entries entries')
  | _, _ => false

end

mutual

/-- Whether two structures are made of the same texts, at the same places. -/
def Structure.same : Structure → Structure → Bool
  | .assignment name value left, .assignment name' value' left' =>
    name == name' && (value.same value' && left == left')
  | .block kind labels body left, .block kind' labels' body' left' =>
    kind == kind' && (labels == labels' && (sameStructures body body' && left == left'))
  | _, _ => false

/-- Whether the structures of two bodies are made of the same texts. -/
def sameStructures : List Structure → List Structure → Bool
  | [], [] => true
  | first :: rest, first' :: rest' => first.same first' && sameStructures rest rest'
  | _, _ => false

end

mutual

theorem Expr.eq_of_same {value value' : Expr} (h : value.same value' = true) : value = value' := by
  match value, value' with
  | .text s, .text t =>
    rw [Expr.same, beq_iff_eq] at h
    rw [h]
  | .array items, .array items' =>
    rw [Expr.same] at h
    rw [eq_of_sameItems h]
  | .object entries, .object entries' =>
    rw [Expr.same] at h
    rw [eq_of_sameEntries h]

theorem eq_of_sameItems {items items' : List Expr} (h : sameItems items items' = true) :
    items = items' := by
  match items, items' with
  | [], [] => rfl
  | item :: items, item' :: items' =>
    rw [sameItems, Bool.and_eq_true] at h
    rw [Expr.eq_of_same h.1, eq_of_sameItems h.2]

theorem eq_of_sameEntries {entries entries' : List (Key × Expr)}
    (h : sameEntries entries entries' = true) : entries = entries' := by
  match entries, entries' with
  | [], [] => rfl
  | (key, item) :: entries, (key', item') :: entries' =>
    rw [sameEntries, Bool.and_eq_true, Bool.and_eq_true, beq_iff_eq] at h
    rw [h.1, Expr.eq_of_same h.2.1, eq_of_sameEntries h.2.2]

end

mutual

theorem Structure.eq_of_same {entry entry' : Structure} (h : entry.same entry' = true) :
    entry = entry' := by
  match entry, entry' with
  | .assignment name value left, .assignment name' value' left' =>
    simp only [Structure.same, Bool.and_eq_true, beq_iff_eq] at h
    rw [h.1, Expr.eq_of_same h.2.1, h.2.2]
  | .block kind labels body left, .block kind' labels' body' left' =>
    simp only [Structure.same, Bool.and_eq_true, beq_iff_eq] at h
    rw [h.1, h.2.1, eq_of_sameStructures h.2.2.1, h.2.2.2]

theorem eq_of_sameStructures {body body' : List Structure}
    (h : sameStructures body body' = true) : body = body' := by
  match body, body' with
  | [], [] => rfl
  | first :: rest, first' :: rest' =>
    rw [sameStructures, Bool.and_eq_true] at h
    rw [Structure.eq_of_same h.1, eq_of_sameStructures h.2]

end

/-- What a text is read as can be decided where it is made of texts only. -/
theorem read?_eq_some_of_same {source : String} {structures : List Structure}
    (h : (read? source).any (sameStructures structures ·) = true) :
    read? source = some structures := by
  obtain ⟨found, hfound, hsame⟩ := (Option.any_eq_true _ _).1 h
  rw [hfound, eq_of_sameStructures hsame]

end Hcl

/-! ### Two spellings of a backend -/

/-- A backend with its servers in blocks, one of them in a loop. -/
def blockSource : String :=
  "backend \"app\" \x7b\n  server \"a\" \x7b\n    address = \"h\"\n  \x7d\n" ++
  "  server \"b\" \x7b\n    address = \"h\"\n    templates = [\"t\"]\n  \x7d\n" ++
  "  for \"i\" \x7b\n    in = [\"x\"]\n    server \"c\" \x7b\n      address = \"h\"\n" ++
  "    \x7d\n  \x7d\n\x7d\n"

/-- The same backend with its servers in values. -/
def valueSource : String :=
  "backend \"app\" \x7b\n  server = [\x7b labels = [\"a\"], address = \"h\" \x7d, " ++
  "\x7b labels = [\"b\"], address = \"h\", templates = [\"t\"] \x7d]\n" ++
  "  for \"i\" \x7b\n    in = [\"x\"]\n    server = \x7b labels = [\"c\"], address = \"h\" " ++
  "\x7d\n  \x7d\n\x7d\n"

/-- A server with a label that spreads templates. -/
def spreadingServer (label : String) : Subobject where
  labels := [label]
  attributes := [("address", .text "h"), ("templates", .array [.text "t"])]
  keys := by simp

/-- A server with a label and an address. -/
def plainServer (label : String) : Subobject where
  labels := [label]
  attributes := [("address", .text "h")]
  keys := by simp

/-- What the backend with blocks is read as. -/
def blockStructures : List Hcl.Structure :=
  [.block "backend" ["app"]
    [.block "server" ["a"] [.assignment "address" (.text "h") 153] 170,
     .block "server" ["b"]
       [.assignment "address" (.text "h") 116,
        .assignment "templates" (.array [.text "t"]) 98] 133,
     .block "for" ["i"]
       [.assignment "in" (.array [.text "x"]) 60,
        .block "server" ["c"] [.assignment "address" (.text "h") 26] 45] 74] 188]

/-- What the backend with values is read as. -/
def valueStructures : List Hcl.Structure :=
  [.block "backend" ["app"]
    [.assignment "server"
       (.array [(plainServer "a").literal, (spreadingServer "b").literal]) 179,
     .block "for" ["i"]
       [.assignment "in" (.array [.text "x"]) 64,
        .assignment "server" (plainServer "c").literal 49] 78] 197]

/-- The configuration of both. -/
def spelledBackend : Configuration where
  backends := [
    { name := "app"
      body := { mode := some .http }
      pool := {
        servers := [
          { name := "a", address := "h" },
          { name := "b", address := "h", spreads := ["t"] }]
        loops := [⟨"i", .list [.text "x"], [{ name := "c", address := "h" }]⟩]
        balance := some .roundRobin } }]

theorem isBlock_plainServer (label : String) (left left' : Nat) :
    (plainServer label).IsBlock "server"
      (.block "server" [label] [.assignment "address" (.text "h") left'] left) :=
  .mk (.cons (.mk _ _ _) .nil) left

theorem respelled_blockStructures : Respelled blockStructures valueStructures := by
  have hlist : Spells "server" [plainServer "a", spreadingServer "b"]
      [.assignment "server" (.array [(plainServer "a").literal, (spreadingServer "b").literal])
        179] :=
    .list (List.cons_ne_nil _ _) 179
  have hblocks : Spells "server" [plainServer "a", spreadingServer "b"]
      [.block "server" ["a"] [.assignment "address" (.text "h") 153] 170,
       .block "server" ["b"]
         [.assignment "address" (.text "h") 116,
          .assignment "templates" (.array [.text "t"]) 98] 133] :=
    .blocks (.cons (isBlock_plainServer "a" 170 153)
      (.cons (.mk (.cons (.mk _ _ _) (.cons (.mk _ _ _) .nil)) 133) .nil))
  have hloop : RespelledLoop
      [.assignment "in" (.array [.text "x"]) 60,
       .block "server" ["c"] [.assignment "address" (.text "h") 26] 45]
      [.assignment "in" (.array [.text "x"]) 64,
       .assignment "server" (plainServer "c").literal 49] :=
    .keep (.assignment _ _ _ _) (.respell (by simp)
      (.blocks (.cons (isBlock_plainServer "c" 45 26) .nil)) (.single _ 49) .nil)
  refine .cons (.block _ _ ?_ _ _) .nil
  exact .respell (by simp) hblocks hlist (.keep (.loop ["i"] hloop 74 78) .nil)

theorem Document.parse_respelled_blockSource :
    Hcl.read? blockSource = some blockStructures ∧ Hcl.read? valueSource = some valueStructures ∧
      Respelled blockStructures valueStructures ∧
      ∃ document document', Document.parse blockSource = .ok document ∧
        Document.parse valueSource = .ok document' ∧
        Configuration.ofDocument {} document = .ok spelledBackend ∧
        Configuration.ofDocument {} document' = .ok spelledBackend := by
  have hread : Hcl.read? blockSource = some blockStructures :=
    Hcl.read?_eq_some_of_same (by decide +kernel)
  have hread' : Hcl.read? valueSource = some valueStructures :=
    Hcl.read?_eq_some_of_same (by decide +kernel)
  have hbuilds (place : Nat → Option Position) :
      ∃ document, Document.ofStructures place blockStructures = .ok document ∧
        Configuration.ofDocument {} document = .ok spelledBackend := ⟨_, rfl, by cbv⟩
  obtain ⟨document, hparse, hbuild⟩ := hbuilds fun left =>
    some (.ofOffset blockSource (offsetOfLeft blockSource.toList left))
  rw [← Document.parse_of_read? hread] at hparse
  -- the other text is never parsed here: it follows the first one
  have halike := Document.parse_respelled hread hread' respelled_blockStructures {}
  obtain ⟨document', hparse', hbuilds'⟩ := halike.exists_eq_ok hparse
  obtain ⟨config, hbuild', rfl⟩ := hbuilds'.exists_eq_ok hbuild
  exact ⟨hread, hread', respelled_blockStructures, document, document', hparse, hparse', hbuild,
    hbuild'⟩

/-- **Where spellings matter.** No objects can be spelled by no block, but not by an empty list,
which is a pair. And an attribute can be called `true` in a block, but in a value this is no
name. -/
theorem Document.parse_distinguishes_spellings :
    (∃ document document',
      Document.parse "backend \"app\" \x7b\n\x7d\n" = .ok document ∧
        Document.parse "backend \"app\" \x7b\n  server = []\n\x7d\n" = .ok document' ∧
        Returns (Configuration.ofDocument {} document) ∧
        Configuration.ofDocument {} document' =
          .error (.unknownKey "server" "backend" (some ⟨2, 3⟩))) ∧
      (∃ document,
        Document.parse "global \x7b\n  setenv \x7b\n    true = \"x\"\n  \x7d\n\x7d\n" =
          .ok document ∧
        Returns (Configuration.ofDocument {} document)) ∧
      Document.parse "global \x7b\n  setenv = \x7b labels = [], true = \"x\" \x7d\n\x7d\n" =
        .error (.unsupported .computedKey (some ⟨2, 3⟩)) := by
  have hnone : Hcl.read? "backend \"app\" \x7b\n\x7d\n" =
      some [.block "backend" ["app"] [] 18] :=
    Hcl.read?_eq_some_of_same (by decide +kernel)
  have hempty : Hcl.read? "backend \"app\" \x7b\n  server = []\n\x7d\n" =
      some [.block "backend" ["app"] [.assignment "server" (.array []) 14] 32] :=
    Hcl.read?_eq_some_of_same (by decide +kernel)
  have hblock : Hcl.read? "global \x7b\n  setenv \x7b\n    true = \"x\"\n  \x7d\n\x7d\n" =
      some [.block "global" [] [.block "setenv" [] [.assignment "true" (.text "x") 17] 30] 41] :=
    Hcl.read?_eq_some_of_same (by decide +kernel)
  have hvalue : Hcl.read?
      "global \x7b\n  setenv = \x7b labels = [], true = \"x\" \x7d\n\x7d\n" =
      some [.block "global" [] [.assignment "setenv" (.object [(.name "labels", .array []),
        (.computed [.mark ['t', 'r', 'u', 'e']], .text "x")]) 39] 50] :=
    Hcl.read?_eq_some_of_same (by decide +kernel)
  refine ⟨⟨_, _, Document.parse_of_read? hnone, Document.parse_of_read? hempty,
    ⟨_, rfl⟩, rfl⟩, ⟨_, Document.parse_of_read? hblock, ⟨_, rfl⟩⟩, ?_⟩
  exact Document.parse_of_read? hvalue

end Balancer
