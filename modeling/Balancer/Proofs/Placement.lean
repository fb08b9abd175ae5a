import Balancer.Document.OfHcl
import Balancer.Proofs.Outline

/-!
# Where a structure stands

The structures of a text know where they stand, and the nodes of a document get their positions from
that. Nothing else depends on it: structures that differ in their places only
(`Hcl.Structure.Moved`) give nodes with one outline, or they are refused for the same cause. For the
child of a section this is `Child.parsesAlike_ofStructure`; on the way there it is said of
expressions, of objects that are written as values, of blocks and of the parts of loops.
-/

namespace Balancer

/-! ### Parsing alike -/

/-- The error without its position. -/
def ParseError.unplaced : ParseError → ParseError
  | notWellFormed => notWellFormed
  | unsupported feature _ => unsupported feature none
  | invalid construct defect _ => invalid construct defect none

/-- **Two errors have the same cause**: they differ at most in their positions. -/
def ParseError.SameCause (e e' : ParseError) : Prop := e.unplaced = e'.unplaced

/-- **Two texts are parsed alike**: to related results, or they are refused for the same cause. -/
abbrev ParsesAlike {α β : Type} (R : α → β → Prop) :
    Except ParseError α → Except ParseError β → Prop :=
  Ends₂ R ParseError.SameCause

/-! ### Expressions -/

section Expressions

variable (here there : Option Position)

theorem Hcl.Key.parsesAlike_toName (key : Hcl.Key) :
    ParsesAlike Eq (key.toName here) (key.toName there) := by
  cases key with
  | name | text => exact .ok rfl
  | computed => exact .error rfl

theorem Expr.ofHcl_call_of_ne {function : String} (h : function ≠ "env")
    (arguments : List Hcl.Expr) :
    Expr.ofHcl here (.call function arguments) =
      .error (.unsupported (.function function) here) := by
  rw [ofHcl]
  all_goals simp [h]

mutual

/-- **An expression is the same wherever it stands.** -/
theorem Expr.parsesAlike_ofHcl (value : Hcl.Expr) :
    ParsesAlike Eq (Expr.ofHcl here value) (Expr.ofHcl there value) := by
  match value with
  | .boolean _ | .number _ | .text _ | .template _ => exact .ok rfl
  | .array items => exact (Expr.parsesAlike_ofHclAll items).bind_eq fun _ => .ok rfl
  | .object entries => exact (Expr.parsesAlike_ofHclEntries entries).bind_eq fun _ => .ok rfl
  | .parenthesis inner =>
    rw [ofHcl, ofHcl]
    exact Expr.parsesAlike_ofHcl inner
  | .call function [] =>
    by_cases hfunction : function = "env"
    · subst hfunction
      exact .error rfl
    · rw [ofHcl_call_of_ne _ hfunction, ofHcl_call_of_ne _ hfunction]
      exact .error rfl
  | .call function (head :: arguments) =>
    by_cases hfunction : function = "env"
    · subst hfunction
      -- only a plain text names a variable, and only then the arguments are looked at
      cases head with
      | text name =>
        rw [ofHcl, ofHcl]
        refine (Expr.parsesAlike_ofArguments arguments).bind_eq fun found => ?_
        cases found <;> exact .ok rfl
      | _ => exact .error rfl
    · rw [ofHcl_call_of_ne _ hfunction, ofHcl_call_of_ne _ hfunction]
      exact .error rfl
  | .null | .name _ | .traversal | .operation | .conditional | .comprehension => exact .error rfl

theorem Expr.parsesAlike_ofArguments (arguments : List Hcl.Expr) :
    ParsesAlike Eq (Expr.ofArguments here arguments) (Expr.ofArguments there arguments) := by
  match arguments with
  | [] => exact .ok rfl
  | [fallback] => exact (Expr.parsesAlike_ofHcl fallback).bind_eq fun _ => .ok rfl
  | fallback :: _ :: _ => exact (Expr.parsesAlike_ofHcl fallback).bind_eq fun _ => .error rfl

theorem Expr.parsesAlike_ofHclAll (items : List Hcl.Expr) :
    ParsesAlike Eq (Expr.ofHclAll here items) (Expr.ofHclAll there items) := by
  match items with
  | [] => exact .ok rfl
  | item :: items =>
    refine (Expr.parsesAlike_ofHcl item).bind_eq fun _ => ?_
    exact (Expr.parsesAlike_ofHclAll items).bind_eq fun _ => .ok rfl

theorem Expr.parsesAlike_ofHclEntries (entries : List (Hcl.Key × Hcl.Expr)) :
    ParsesAlike Eq (Expr.ofHclEntries here entries) (Expr.ofHclEntries there entries) := by
  match entries with
  | [] => exact .ok rfl
  | (key, item) :: entries =>
    refine (key.parsesAlike_toName here there).bind_eq fun _ => ?_
    refine (Expr.parsesAlike_ofHcl item).bind_eq fun _ => ?_
    exact (Expr.parsesAlike_ofHclEntries entries).bind_eq fun _ => .ok rfl

end

theorem parsesAlike_labelText (construct : String) (value : Hcl.Expr) :
    ParsesAlike Eq (labelText construct here value) (labelText construct there value) := by
  unfold labelText
  split
  · exact .ok rfl
  · exact .ok rfl
  · exact .error rfl

theorem parsesAlike_labelTexts (value : Hcl.Expr) :
    ParsesAlike Eq (labelTexts here value) (labelTexts there value) := by
  unfold labelTexts
  split
  · exact (ending _).mapM_same (parsesAlike_labelText here there "labels") _
  · exact .error rfl

theorem parsesAlike_templateNames (value : Hcl.Expr) :
    ParsesAlike Eq (templateNames here value) (templateNames there value) := by
  unfold templateNames
  split
  · refine (ending _).mapM_same (fun item => ?_) _
    unfold templateName
    split
    · exact .ok rfl
    · exact .error rfl
  · exact .error rfl

theorem Iterable.parsesAlike_ofRange (value : Hcl.Expr) :
    ParsesAlike Eq (Iterable.ofRange here value) (Iterable.ofRange there value) := by
  unfold ofRange
  split
  · refine (Expr.parsesAlike_ofHcl here there _).bind_eq fun _ => ?_
    exact (Expr.parsesAlike_ofHcl here there _).bind_eq fun _ => .ok rfl
  · exact .error rfl
  · refine (Expr.parsesAlike_ofHcl here there _).bind_eq fun expr => ?_
    split
    · split
      · exact .ok rfl
      · exact .error rfl
    · exact .error rfl

theorem Iterable.parsesAlike_ofItems (value : Hcl.Expr) :
    ParsesAlike Eq (Iterable.ofItems here value) (Iterable.ofItems there value) := by
  unfold ofItems
  split
  · exact (Expr.parsesAlike_ofHclAll here there _).bind_eq fun _ => .ok rfl
  · exact .error rfl

end Expressions

/-! ### Outlines of parts -/

theorem childrenOutline_append (children children' : List Child) :
    childrenOutline (children ++ children') =
      childrenOutline children ++ childrenOutline children' := by
  induction children with
  | nil => rfl
  | cons child children ih =>
    rw [List.cons_append, childrenOutline, childrenOutline, ih, List.append_assoc]

theorem objectsOutline_append (objects objects' : List ObjectNode) :
    objectsOutline (objects ++ objects') = objectsOutline objects ++ objectsOutline objects' := by
  induction objects with
  | nil => rfl
  | cons object objects ih => rw [List.cons_append, objectsOutline, objectsOutline, ih]; rfl

/-- **Two objects have one outline** when they agree in everything but their positions. -/
theorem ObjectNode.outline_eq_iff {node node' : ObjectNode} :
    node.outline = node'.outline ↔
      node.kind = node'.kind ∧ node.labels = node'.labels ∧
        childrenOutline node.children = childrenOutline node'.children ∧
        node.spreads = node'.spreads := by
  obtain ⟨kind, labels, children, spreads, position⟩ := node
  obtain ⟨kind', labels', children', spreads', position'⟩ := node'
  rw [outline, outline]
  constructor
  · intro h
    injection h with hkind hlabels hchildren hspreads
    exact ⟨hkind, hlabels, hchildren, hspreads⟩
  · rintro ⟨rfl, rfl, hchildren, rfl⟩
    rw [hchildren]

theorem ObjectNode.outline_mk (kind : String) (labels : List String)
    (here there : Option Position) :
    (ObjectNode.mk kind labels [] [] here).outline =
      (ObjectNode.mk kind labels [] [] there).outline :=
  rfl

section Growing

variable {node node' : ObjectNode} (h : node.outline = node'.outline)

include h

theorem ObjectNode.outline_setSpreads (spreads : List String) :
    ({ node with spreads } : ObjectNode).outline = { node' with spreads }.outline := by
  obtain ⟨hkind, hlabels, hchildren, -⟩ := outline_eq_iff.1 h
  exact outline_eq_iff.2 ⟨hkind, hlabels, hchildren, rfl⟩

theorem ObjectNode.outline_addLabels (labels : List String) :
    ({ node with labels := node.labels ++ labels } : ObjectNode).outline =
      { node' with labels := node'.labels ++ labels }.outline := by
  obtain ⟨hkind, hlabels, hchildren, hspreads⟩ := outline_eq_iff.1 h
  exact outline_eq_iff.2 ⟨hkind, congrArg (· ++ labels) hlabels, hchildren, hspreads⟩

theorem ObjectNode.outline_addChild {child child' : Child}
    (hchild : child.outline = child'.outline) :
    ({ node with children := node.children ++ [child] } : ObjectNode).outline =
      { node' with children := node'.children ++ [child'] }.outline := by
  obtain ⟨hkind, hlabels, hchildren, hspreads⟩ := outline_eq_iff.1 h
  refine outline_eq_iff.2 ⟨hkind, hlabels, ?_, hspreads⟩
  simp only [childrenOutline_append, childrenOutline, hchildren, hchild]

end Growing

/-! ### Objects as values -/

mutual

/-- **An assignment stands for the same child wherever it stands.** -/
theorem Child.parsesAlike_ofHcl (key : String) (here there : Option Position)
    (value : Hcl.Expr) :
    ParsesAlike (fun child child' => child.outline = child'.outline)
      (Child.ofHcl key here value) (Child.ofHcl key there value) := by
  match value with
  | .object entries =>
    rw [Child.ofHcl, Child.ofHcl]
    have hstart := ObjectNode.outline_mk key [] here there
    refine (ObjectNode.parsesAlike_ofEntries entries hstart).bind fun node node' hnode => .ok ?_
    rw [Child.outline, Child.outline, hnode]
  | .array items =>
    rw [Child.ofHcl, Child.ofHcl]
    split
    · refine (ObjectNode.parsesAlike_ofItems key here there items).bind fun _ _ hnodes => .ok ?_
      rw [Child.outline, Child.outline, hnodes]
    · refine (Expr.parsesAlike_ofHcl here there (.array items)).bind_eq fun _ => .ok ?_
      rw [Child.outline, Child.outline]
  | .null | .boolean _ | .number _ | .text _ | .template _ | .parenthesis _ | .call _ _ | .name _
  | .traversal | .operation | .conditional | .comprehension =>
    rw [Child.ofHcl, Child.ofHcl]
    · refine (Expr.parsesAlike_ofHcl here there _).bind_eq fun _ => .ok ?_
      rw [Child.outline, Child.outline]
    all_goals simp

theorem ObjectNode.parsesAlike_ofItems (kind : String) (here there : Option Position)
    (items : List Hcl.Expr) :
    ParsesAlike (fun nodes nodes' => objectsOutline nodes = objectsOutline nodes')
      (ObjectNode.ofItems kind here items) (ObjectNode.ofItems kind there items) := by
  match items with
  | [] => exact .ok rfl
  | .object entries :: items =>
    rw [ObjectNode.ofItems, ObjectNode.ofItems]
    have hstart := ObjectNode.outline_mk kind [] here there
    refine (ObjectNode.parsesAlike_ofEntries entries hstart).bind fun node node' hnode => ?_
    refine (ObjectNode.parsesAlike_ofItems kind here there items).bind fun _ _ hnodes => .ok ?_
    rw [objectsOutline, objectsOutline, hnode, hnodes]
  | .array _ :: items | .null :: items | .boolean _ :: items | .number _ :: items
  | .text _ :: items | .template _ :: items | .parenthesis _ :: items | .call _ _ :: items
  | .name _ :: items | .traversal :: items | .operation :: items | .conditional :: items
  | .comprehension :: items =>
    rw [ObjectNode.ofItems, ObjectNode.ofItems]
    · exact ObjectNode.parsesAlike_ofItems kind here there items
    all_goals simp

theorem ObjectNode.parsesAlike_ofEntries (entries : List (Hcl.Key × Hcl.Expr))
    {node node' : ObjectNode} (h : node.outline = node'.outline) :
    ParsesAlike (fun result result' => result.outline = result'.outline)
      (ObjectNode.ofEntries node entries) (ObjectNode.ofEntries node' entries) := by
  match entries with
  | [] =>
    rw [ObjectNode.ofEntries, ObjectNode.ofEntries]
    exact .ok h
  | (key, value) :: entries =>
    rw [ObjectNode.ofEntries, ObjectNode.ofEntries]
    refine (key.parsesAlike_toName node.position node'.position).bind_eq fun name => ?_
    split
    · refine (parsesAlike_templateNames _ _ value).bind_eq fun spreads => ?_
      exact ObjectNode.parsesAlike_ofEntries entries (ObjectNode.outline_setSpreads h spreads)
    · refine (parsesAlike_labelText _ _ "label" value).bind_eq fun label => ?_
      exact ObjectNode.parsesAlike_ofEntries entries (ObjectNode.outline_addLabels h [label])
    · refine (parsesAlike_labelTexts _ _ value).bind_eq fun labels => ?_
      exact ObjectNode.parsesAlike_ofEntries entries (ObjectNode.outline_addLabels h labels)
    · refine (Child.parsesAlike_ofHcl name _ _ value).bind fun child child' hchild => ?_
      exact ObjectNode.parsesAlike_ofEntries entries (ObjectNode.outline_addChild h hchild)

end

/-! ### Structures that were moved -/

namespace Hcl

mutual

/-- **The same structure at another place.** -/
inductive Structure.Moved : Structure → Structure → Prop
  | assignment (name : String) (value : Expr) (left left' : Nat) :
    Structure.Moved (.assignment name value left) (.assignment name value left')
  | block (kind : String) (labels : List String) {body body' : List Structure}
    (h : MovedAll body body') (left left' : Nat) :
    Structure.Moved (.block kind labels body left) (.block kind labels body' left')

/-- The same structures at other places. -/
inductive MovedAll : List Structure → List Structure → Prop
  | nil : MovedAll [] []
  | cons {first first' : Structure} {rest rest' : List Structure}
    (h : Structure.Moved first first') (hrest : MovedAll rest rest') :
    MovedAll (first :: rest) (first' :: rest')

end

theorem MovedAll.forall₂ {body body' : List Structure} (h : MovedAll body body') :
    List.Forall₂ Structure.Moved body body' := by
  match h with
  | .nil => exact .nil
  | .cons hfirst hrest => exact .cons hfirst hrest.forall₂

end Hcl

section Blocks

variable (place place' : Nat → Option Position)

mutual

theorem ObjectNode.parsesAlike_addStructure {entry entry' : Hcl.Structure}
    (hentry : entry.Moved entry') {node node' : ObjectNode} (h : node.outline = node'.outline) :
    ParsesAlike (fun result result' => result.outline = result'.outline)
      (ObjectNode.addStructure place node entry) (ObjectNode.addStructure place' node' entry') := by
  match hentry with
  | .assignment name value left left' =>
    rw [addStructure, addStructure]
    split
    · refine (parsesAlike_templateNames _ _ value).bind_eq fun spreads => .ok ?_
      exact outline_setSpreads h spreads
    · refine (Child.parsesAlike_ofHcl name _ _ value).bind fun _ _ hchild => .ok ?_
      exact outline_addChild h hchild
  | .block kind labels hbody left left' =>
    rw [addStructure, addStructure]
    split
    · have hkind : node.kind = node'.kind := (outline_eq_iff.1 h).1
      exact .error (by rw [hkind]; rfl)
    · have hstart := outline_mk kind labels (place left) (place' left')
      refine (ObjectNode.parsesAlike_addStructures hbody hstart).bind fun inner inner' hinner => ?_
      have hchild : (Child.object inner).outline = (Child.object inner').outline := by
        rw [Child.outline, Child.outline, hinner]
      exact .ok (outline_addChild h hchild)

theorem ObjectNode.parsesAlike_addStructures {body body' : List Hcl.Structure}
    (hbody : Hcl.MovedAll body body') {node node' : ObjectNode}
    (h : node.outline = node'.outline) :
    ParsesAlike (fun result result' => result.outline = result'.outline)
      (ObjectNode.addStructures place node body) (ObjectNode.addStructures place' node' body') := by
  match hbody with
  | .nil =>
    rw [addStructures, addStructures]
    exact .ok h
  | .cons hfirst hrest =>
    rw [addStructures, addStructures]
    refine (ObjectNode.parsesAlike_addStructure hfirst h).bind fun _ _ hnext => ?_
    exact ObjectNode.parsesAlike_addStructures hrest hnext

end

theorem parsesAlike_onlyLabel (construct : String) (labels : List String)
    (here there : Option Position) :
    ParsesAlike Eq (onlyLabel construct labels here) (onlyLabel construct labels there) := by
  unfold onlyLabel
  split
  · exact .ok rfl
  · exact .error rfl

/-! ### Loops -/

/-- The objects that a child adds to the body of a loop, unless it is a pair or a loop. -/
def Child.looped? : Child → Option (List ObjectNode)
  | .object node => some [node]
  | .list _ items _ => some items
  | _ => none

/-- The object that a child is. -/
def Child.object? : Child → Option ObjectNode
  | .object node => some node
  | _ => none

theorem Child.mapM_object? (objects : List ObjectNode) :
    (objects.map Child.object).mapM Child.object? = some objects := by
  induction objects with
  | nil => rfl
  | cons object objects ih =>
    rw [List.map_cons, List.mapM_cons, ih]
    rfl

/-- What a child adds to the body of a loop is known from its outline. -/
theorem Child.looped?_outline (child : Child) :
    child.looped?.map objectsOutline = child.outline.mapM Child.object? := by
  match child with
  | .pair key value position => rfl
  | .object node => rfl
  | .list kind items position => exact (Child.mapM_object? (objectsOutline items)).symm
  | .loop ⟨binder, iterable, body, position⟩ => rfl

namespace LoopParts

/-- **Parts of a loop with one outline.** -/
structure Alike (parts parts' : LoopParts) : Prop where
  iterable : parts.iterable = parts'.iterable
  body : objectsOutline parts.body = objectsOutline parts'.body

theorem Alike.refl (parts : LoopParts) : parts.Alike parts := ⟨rfl, rfl⟩

theorem Alike.append {parts parts' : LoopParts} (h : parts.Alike parts')
    {nodes nodes' : List ObjectNode} (hnodes : objectsOutline nodes = objectsOutline nodes') :
    Alike { parts with body := parts.body ++ nodes }
      { parts' with body := parts'.body ++ nodes' } :=
  ⟨h.iterable, by rw [objectsOutline_append, objectsOutline_append, h.body, hnodes]⟩

theorem parsesAlike_setIterable {parts parts' : LoopParts} (h : parts.Alike parts')
    (iterable : Iterable) (here there : Option Position) :
    ParsesAlike Alike (parts.setIterable iterable here) (parts'.setIterable iterable there) := by
  rw [setIterable, setIterable, h.iterable]
  split
  · exact .ok ⟨rfl, h.body⟩
  · exact .error rfl

/-- A loop with the objects of a child. -/
def addChild (parts : LoopParts) (name : String) (position : Option Position) (child : Child) :
    Except ParseError LoopParts :=
  match child.looped? with
  | some nodes => .ok { parts with body := parts.body ++ nodes }
  | none => .error (.invalid "for" (.unknownLoopKey name) position)

theorem add_assignment {name : String} (hrange : name ≠ "range") (hin : name ≠ "in")
    (parts : LoopParts) (value : Hcl.Expr) (left : Nat) :
    parts.add place (.assignment name value left) =
      Child.ofHcl name (place left) value >>= parts.addChild name (place left) := by
  rw [add]
  · cases Child.ofHcl name (place left) value with
    | error e => rfl
    | ok child => cases child <;> rfl
  all_goals simp [hrange, hin]

theorem add_block {kind : String} (hkind : kind ≠ "for") (parts : LoopParts)
    (labels : List String) (body : List Hcl.Structure) (left : Nat) :
    parts.add place (.block kind labels body left) = (do
      let node ← ObjectNode.ofBlock place kind labels body left
      return { parts with body := parts.body ++ [node] }) := by
  rw [add]
  all_goals simp [hkind]

theorem parsesAlike_addChild {parts parts' : LoopParts} (h : parts.Alike parts') (name : String)
    (here there : Option Position) {child child' : Child}
    (hchild : child.outline = child'.outline) :
    ParsesAlike Alike (parts.addChild name here child) (parts'.addChild name there child') := by
  have hlooped : child.looped?.map objectsOutline = child'.looped?.map objectsOutline := by
    rw [Child.looped?_outline, Child.looped?_outline, hchild]
  rw [addChild, addChild]
  rcases hnodes : child.looped? with _ | nodes <;> rcases hnodes' : child'.looped? with _ | nodes'
  · exact .error rfl
  · simp [hnodes, hnodes'] at hlooped
  · simp [hnodes, hnodes'] at hlooped
  · rw [hnodes, hnodes'] at hlooped
    exact .ok (h.append (Option.some.inj hlooped))

/-- **A structure adds the same to a loop wherever it stands.** -/
theorem parsesAlike_add {parts parts' : LoopParts} (h : parts.Alike parts')
    {entry entry' : Hcl.Structure} (hentry : entry.Moved entry') :
    ParsesAlike Alike (parts.add place entry) (parts'.add place' entry') := by
  cases hentry with
  | assignment name value left left' =>
    by_cases hrange : name = "range"
    · subst hrange
      refine (Iterable.parsesAlike_ofRange _ _ value).bind_eq fun iterable => ?_
      exact parsesAlike_setIterable h iterable _ _
    by_cases hin : name = "in"
    · subst hin
      refine (Iterable.parsesAlike_ofItems _ _ value).bind_eq fun iterable => ?_
      exact parsesAlike_setIterable h iterable _ _
    rw [add_assignment place hrange hin, add_assignment place' hrange hin]
    refine (Child.parsesAlike_ofHcl name _ _ value).bind fun _ _ hchild => ?_
    exact parsesAlike_addChild h name _ _ hchild
  | block kind labels hbody left left' =>
    by_cases hkind : kind = "for"
    · subst hkind
      exact .error rfl
    rw [add_block place hkind, add_block place' hkind]
    have hstart := ObjectNode.outline_mk kind labels (place left) (place' left')
    refine (ObjectNode.parsesAlike_addStructures place place' hbody hstart).bind fun _ _ hnode => ?_
    exact .ok (h.append (by rw [objectsOutline, objectsOutline, hnode]; rfl))

end LoopParts

/-- **Loops with alike bodies are alike.** -/
theorem LoopNode.parsesAlike_ofBlock (labels : List String) (left left' : Nat)
    {body body' : List Hcl.Structure}
    (h : ParsesAlike LoopParts.Alike (body.foldlM (LoopParts.add place) {})
      (body'.foldlM (LoopParts.add place') {})) :
    ParsesAlike (fun node node' => (Child.loop node).outline = (Child.loop node').outline)
      (LoopNode.ofBlock place labels body left) (LoopNode.ofBlock place' labels body' left') := by
  refine (parsesAlike_onlyLabel "for" labels _ _).bind_eq fun binder => ?_
  refine h.bind fun parts parts' hparts => ?_
  rw [hparts.iterable]
  split
  · refine .ok ?_
    rw [Child.outline, Child.outline, hparts.body]
  · exact .error rfl

/-! ### Children, sections and items -/

theorem Child.ofStructure_block {kind : String} (hkind : kind ≠ "for") (labels : List String)
    (body : List Hcl.Structure) (left : Nat) :
    Child.ofStructure place (.block kind labels body left) =
      .object <$> ObjectNode.ofBlock place kind labels body left := by
  rw [Child.ofStructure]
  all_goals simp [hkind]

/-- **A structure of a section stands for the same child wherever it stands.** -/
theorem Child.parsesAlike_ofStructure {entry entry' : Hcl.Structure} (hentry : entry.Moved entry') :
    ParsesAlike (fun child child' => child.outline = child'.outline)
      (Child.ofStructure place entry) (Child.ofStructure place' entry') := by
  cases hentry with
  | assignment name value left left' => exact Child.parsesAlike_ofHcl name _ _ value
  | block kind labels hbody left left' =>
    by_cases hkind : kind = "for"
    · subst hkind
      refine (ending _).map (LoopNode.parsesAlike_ofBlock place place' labels left left' ?_)
        fun _ _ hnode => hnode
      refine (ending _).foldlM hbody.forall₂ ?_ (.refl {})
      intro parts parts' hparts entry entry' hentry
      exact LoopParts.parsesAlike_add place place' hparts hentry
    rw [Child.ofStructure_block place hkind, Child.ofStructure_block place' hkind]
    have hstart := ObjectNode.outline_mk kind labels (place left) (place' left')
    have hnodes := ObjectNode.parsesAlike_addStructures place place' hbody hstart
    refine (ending _).map hnodes fun _ _ hnode => ?_
    rw [Child.outline, Child.outline, hnode]

end Blocks

end Balancer
