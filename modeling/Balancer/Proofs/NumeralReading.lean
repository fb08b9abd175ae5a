import Balancer.Proofs.Comparing
import Balancer.Proofs.Numerals

/-!
# Reading numerals for numbers

An integer in a document may be written as the text of its numeral. Every way in which a field is
read takes the text for the number, or takes neither (`Value.Respelled.matches_convert`); but a text
is sometimes taken where a number is not, so this goes in one direction only. The comparison is that
the second construction matches the first one: it returns the same, if the first one returns
(`Matches`).

It is one of the comparisons that all readers of fields keep, so that objects are read to the very
same directives (`ObjectNode.Respelled.matches_readObject`). What is left of the spelling is in the
pairs that stand in a section or a template by themselves (`Child.Respelled.matches_readChild`).
-/

namespace Balancer

open Text

/-! ### Matching -/

/-- **The second construction matches the first one**: where the first one returns, the second one
does too, with a related result. -/
def Matches {ε φ α β : Type} (R : α → β → Prop) (x : Except ε α) (y : Except φ β) : Prop :=
  ∀ a, x = .ok a → ∃ b, y = .ok b ∧ R a b

namespace Matches

variable {ε φ α β γ δ : Type} {R : α → β → Prop} {S : γ → δ → Prop}

theorem ok {a : α} {b : β} (h : R a b) : Matches R (.ok a : Except ε α) (.ok b : Except φ β) := by
  intro _ ha
  cases ha
  exact ⟨b, rfl, h⟩

/-- What stops is matched by anything. -/
theorem of_error (e : ε) (y : Except φ β) : Matches R (.error e) y :=
  fun _ ha => nomatch ha

theorem of_eq {x y : Except ε α} (h : y = x) : Matches Eq x y :=
  fun a ha => ⟨a, h.trans ha, rfl⟩

theorem refl (x : Except ε α) : Matches Eq x x := of_eq rfl

theorem eq_ok {x : Except ε α} {y : Except φ α} (h : Matches Eq x y) {a : α} (hx : x = .ok a) :
    y = .ok a := by
  obtain ⟨_, hy, rfl⟩ := h a hx
  exact hy

theorem bind {x : Except ε α} {y : Except φ β} {f : α → Except ε γ} {g : β → Except φ δ}
    (hx : Matches R x y) (hf : ∀ a b, R a b → Matches S (f a) (g b)) :
    Matches S (x >>= f) (y >>= g) := by
  intro c hc
  obtain ⟨a, ha, hc⟩ := bind_eq_ok.1 hc
  obtain ⟨b, hb, hab⟩ := hx a ha
  obtain ⟨d, hd, hcd⟩ := hf a b hab c hc
  exact ⟨d, bind_eq_ok.2 ⟨b, hb, hd⟩, hcd⟩

end Matches

/-- The comparison of two constructions by what they return. -/
def matching {ε φ : Type} : Comparison ε φ where
  Holds := Matches
  ok := .ok
  bind := .bind

theorem Matches.bind_eq {ε φ α γ δ : Type} {S : γ → δ → Prop} {x : Except ε α} {y : Except φ α}
    {f : α → Except ε γ} {g : α → Except φ δ} (hx : Matches Eq x y)
    (hf : ∀ a, Matches S (f a) (g a)) : Matches S (x >>= f) (y >>= g) :=
  matching.bind_eq hx hf

/-! ### Values -/

namespace Value

/-- A value, or the numeral of the integer that it is. -/
inductive RespelledItem : Value → Value → Prop
  | same (value : Value) : RespelledItem value value
  | numeral (n : Int64) : RespelledItem (.integer n) (.text (integerText n))

/-- **A value with integers written as texts**: itself, or some of the items that it lists. -/
inductive Respelled : Value → Value → Prop
  | item {value value' : Value} (h : RespelledItem value value') : Respelled value value'
  | array {items items' : List Value} (h : List.Forall₂ RespelledItem items items') :
    Respelled (.array items) (.array items')

/-- The numeral of an integer is read as the integer. -/
theorem toInteger_integerText (key : String) (n : Int64) :
    toInteger key (.text (integerText n)) = .ok n := by
  rw [toInteger, trim_integerText, readInteger?_integerText]

theorem RespelledItem.matches_toText {value value' : Value} (h : RespelledItem value value')
    (key : String) : Matches Eq (value.toText key) (value'.toText key) := by
  cases h with
  | same => exact .refl _
  | numeral n => exact .refl _

/-- **A field is read as before** where integers are written as texts. -/
theorem Respelled.matches_convert {value value' : Value} (h : Respelled value value')
    (key : String) (type : SlotType) :
    Matches Eq (type.convert key value) (type.convert key value') := by
  cases h with
  | item h =>
    cases h with
    | same => exact .refl _
    | numeral n =>
      have hbounded (bound : Nat) (name : String) :
          (Value.text (integerText n)).toBounded bound name key =
            (Value.integer n).toBounded bound name key := by
        rw [toBounded, toBounded, toInteger_integerText]
        rfl
      cases type with
      | flag => exact .of_error _ _
      | port => exact .of_eq (hbounded _ _)
      | count => exact .of_eq (hbounded _ _)
      | text => exact .refl _
      | texts => exact .refl _
  | @array items items' h =>
    cases type with
    | texts =>
      exact matching.mapM_eq h fun _ _ hitem => hitem.matches_toText key
    | flag | port | count | text => exact .of_error _ _

theorem RespelledItem.render_eq {value value' : Value} (h : RespelledItem value value') :
    value'.render = value.render := by
  cases h <;> rfl

theorem Respelled.render_eq {value value' : Value} (h : Respelled value value') :
    value'.render = value.render := by
  cases h with
  | item h => exact h.render_eq
  | @array items items' h =>
    have hall : renderAll items' = renderAll items := by
      induction h with
      | nil => rfl
      | cons hitem _ ih => rw [renderAll, renderAll, hitem.render_eq, ih]
    rw [render, render, hall]

end Value

/-! ### Fields -/

section Attempts

variable {fields fields' : Fields} {value value' : Value}

theorem Fields.matches_attempt {α : Type} {x y : Except FieldError α} (h : Matches Eq x y) :
    Matches Eq (fields.attempt x) (fields'.attempt y) := by
  cases x with
  | error e => exact .of_error _ _
  | ok a =>
    obtain ⟨_, rfl, rfl⟩ := h a rfl
    exact .ok rfl

theorem ProxyOptions.matches_assign (h : value.Respelled value') (options : ProxyOptions)
    (key : String) :
    Matches Eq (options.assign fields key value) (options.assign fields' key value') := by
  rw [assign_eq_attempt, assign_eq_attempt]
  refine (Fields.matches_attempt (h.matches_convert key .flag)).bind_eq fun on => ?_
  cases ProxyFlag.ofKey? key with
  | none => exact .of_error _ _
  | some flag => exact .ok rfl

/-- A text stands for a network where a number stands for nothing. -/
theorem ProxyOptions.matches_ofNetwork (h : value.Respelled value') :
    Matches Eq (ProxyOptions.ofNetwork fields value) (ProxyOptions.ofNetwork fields' value') := by
  cases h with
  | item h =>
    cases h with
    | same =>
      unfold ofNetwork
      split
      · exact .refl _
      · exact matches_assign (.item (.same _)) _ _
    | numeral n => exact .of_error _ _
  | array h => exact .of_error _ _

theorem Fields.matches_parameter (h : value.Respelled value') (key : String) :
    Matches Eq (fields.parameter key value) (fields'.parameter key value') := by
  rw [parameter, parameter, h.render_eq]
  cases value.render with
  | none => exact .of_error _ _
  | some rendered => exact .ok rfl

end Attempts

/-- **Fields with integers written as texts.** -/
structure Fields.Respelled (fields fields' : Fields) : Prop where
  labels : fields'.labels = fields.labels
  entries : Entrywise Value.Respelled fields.entries.entries fields'.entries.entries

/-- **What is read from such fields matches** what was read from the numbers. -/
theorem Fields.Respelled.compares {fields fields' : Fields} (h : fields.Respelled fields') :
    Compares matching fields fields' where
  labels := h.labels
  entries := h.entries.imp fun entry entry' hentry => by
    obtain ⟨hkey, hvalue⟩ := hentry
    exact ⟨hkey, fun key type => matches_attempt (hvalue.matches_convert key type),
      matches_parameter hvalue, ProxyOptions.matches_ofNetwork hvalue⟩
  field _ := Matches.of_error _ _
  invalid _ := Matches.of_error _ _
  missing _ := Matches.of_error _ _
  unknownKey _ := Matches.of_error _ _

theorem Fields.Respelled.matches_text? {fields fields' : Fields} (h : fields.Respelled fields')
    (key : String) :
    Matches Eq ((FieldReader.text? key).read fields) ((FieldReader.text? key).read fields') :=
  FieldReader.Uniform.compares h.compares

/-! ### Documents -/

/-- A literal, or the literal text of the integer that it is. -/
inductive Expr.RespelledItem : Expr → Expr → Prop
  | same (expr : Expr) : RespelledItem expr expr
  | literal {value value' : Value} (h : value.RespelledItem value') :
    RespelledItem (.literal value) (.literal value')

/-- **An expression with integer literals written as texts.** -/
inductive Expr.Respelled : Expr → Expr → Prop
  | same (expr : Expr) : Respelled expr expr
  | literal {value value' : Value} (h : value.Respelled value') :
    Respelled (.literal value) (.literal value')
  | array {items items' : List Expr} (h : List.Forall₂ RespelledItem items items') :
    Respelled (.array items) (.array items')

/-- A child that may be a pair with integers written as texts. -/
inductive Child.RespelledPair : Child → Child → Prop
  | same (child : Child) : RespelledPair child child
  | pair (key : String) {value value' : Expr} (h : value.Respelled value')
    (position : Option Position) :
    RespelledPair (.pair key value position) (.pair key value' position)

/-- **An object with integers written as texts** in its pairs. -/
inductive ObjectNode.Respelled : ObjectNode → ObjectNode → Prop
  | mk (kind : String) (labels : List String) {children children' : List Child}
    (h : List.Forall₂ Child.RespelledPair children children') (spreads : List String)
    (position : Option Position) :
    Respelled ⟨kind, labels, children, spreads, position⟩
      ⟨kind, labels, children', spreads, position⟩

/-- **A child with integers written as texts**: in a pair, or in the pairs of its objects. -/
inductive Child.Respelled : Child → Child → Prop
  | pair {child child' : Child} (h : child.RespelledPair child') : Respelled child child'
  | object {node node' : ObjectNode} (h : node.Respelled node') :
    Respelled (.object node) (.object node')
  | list (key : String) {items items' : List ObjectNode}
    (h : List.Forall₂ ObjectNode.Respelled items items') (position : Option Position) :
    Respelled (.list key items position) (.list key items' position)
  | loop (binder : String) (iterable : Iterable) {body body' : List ObjectNode}
    (h : List.Forall₂ ObjectNode.Respelled body body') (position : Option Position) :
    Respelled (.loop ⟨binder, iterable, body, position⟩) (.loop ⟨binder, iterable, body', position⟩)

/-- **A section with integers written as texts.** -/
inductive SectionNode.Respelled : SectionNode → SectionNode → Prop
  | mk (kind : String) (name : Option String) {children children' : List Child}
    (h : List.Forall₂ Child.Respelled children children') (position : Option Position) :
    Respelled ⟨kind, name, children, position⟩ ⟨kind, name, children', position⟩

/-- **An item with integers written as texts.** Definitions and imports are left as they are. -/
inductive Item.Respelled : Item → Item → Prop
  | same (item : Item) : Respelled item item
  | template (name : String) {children children' : List Child}
    (h : List.Forall₂ Child.RespelledPair children children') (position : Option Position) :
    Respelled (.template name children position) (.template name children' position)
  | block {node node' : SectionNode} (h : node.Respelled node') :
    Respelled (.block node) (.block node')

/-! ### Reading -/

section Reading

variable {environment : Environment}

theorem Expr.RespelledItem.matches_evaluate {expr expr' : Expr} (h : expr.RespelledItem expr')
    (position : Option Position) :
    Matches Value.RespelledItem (expr.evaluate environment position)
      (expr'.evaluate environment position) := by
  cases h with
  | same => exact fun value hvalue => ⟨value, hvalue, .same value⟩
  | literal h => exact .ok h

theorem Expr.Respelled.matches_evaluate {expr expr' : Expr} (h : expr.Respelled expr')
    (position : Option Position) :
    Matches Value.Respelled (expr.evaluate environment position)
      (expr'.evaluate environment position) := by
  cases h with
  | same => exact fun value hvalue => ⟨value, hvalue, .item (.same value)⟩
  | literal h => exact .ok h
  | @array items items' h =>
    have hitems : Matches (List.Forall₂ Value.RespelledItem)
        (Expr.evaluateAll environment position items)
        (Expr.evaluateAll environment position items') := by
      induction h with
      | nil => exact .ok .nil
      | cons hitem _ ih =>
        refine (hitem.matches_evaluate position).bind fun _ _ hvalue => ?_
        exact ih.bind fun _ _ hvalues => .ok (.cons hvalue hvalues)
    exact hitems.bind fun _ _ hvalues => .ok (.array hvalues)

/-- A directive, or a pair with integers written as texts. -/
inductive Directive.Respelled : Directive → Directive → Prop
  | same (directive : Directive) : Respelled directive directive
  | pair (key : String) {value value' : Value} (h : value.Respelled value') :
    Respelled (.pair key value) (.pair key value')

/-- Entries with integers written as texts. -/
abbrev EntriesMatch : List Entry → List Entry → Prop :=
  List.Forall₂ fun entry entry' => entry.directive.Respelled entry'.directive

theorem EntriesMatch.refl (entries : List Entry) : EntriesMatch entries entries :=
  List.forall₂_same.2 fun entry _ => .same entry.directive

theorem matches_readChildren {R : Child → Child → Prop}
    (hread : ∀ child child', R child child' →
      Matches EntriesMatch (readChild environment child) (readChild environment child'))
    {children children' : List Child} (h : List.Forall₂ R children children') :
    Matches EntriesMatch (readChildren environment children)
      (readChildren environment children') := by
  induction h with
  | nil =>
    rw [readChildren]
    exact .ok .nil
  | cons hchild _ ih =>
    rw [readChildren, readChildren]
    refine (hread _ _ hchild).bind fun _ _ hfirst => ih.bind fun _ _ hrest => ?_
    exact .ok (List.rel_append hfirst hrest)

theorem Child.RespelledPair.matches_readChild {child child' : Child}
    (h : child.RespelledPair child') :
    Matches EntriesMatch (readChild environment child) (readChild environment child') := by
  cases h with
  | same => exact fun entries hentries => ⟨entries, hentries, .refl entries⟩
  | pair key h position =>
    rw [readChild, readChild]
    exact (h.matches_evaluate position).bind fun _ _ hvalue => .ok (.cons (.pair key hvalue) .nil)

theorem Fields.matches_ofEntries (directive : String) (labels : List String)
    (position : Option Position) {entries entries' : List Entry}
    (h : EntriesMatch entries entries') :
    Matches Fields.Respelled (Fields.ofEntries directive labels position entries)
      (Fields.ofEntries directive labels position entries') := by
  have hpairs : Matches (Entrywise Value.Respelled) (entries.mapM (Entry.pair directive position))
      (entries'.mapM (Entry.pair directive position)) := by
    refine matching.mapM h ?_
    rintro ⟨directive, _⟩ ⟨_, _⟩ (_ | ⟨key, hvalue⟩)
    · cases directive with
      | pair key value => exact .ok ⟨rfl, .item (.same value)⟩
      | _ => exact .of_error _ _
    · exact .ok ⟨rfl, hvalue⟩
  exact hpairs.bind fun _ _ hvalues => .ok ⟨rfl, hvalues.ofList⟩

theorem matches_readPairs {children children' : List Child}
    (h : List.Forall₂ Child.RespelledPair children children') :
    Matches EntriesMatch (readChildren environment children)
      (readChildren environment children') :=
  matches_readChildren (fun _ _ hchild => hchild.matches_readChild) h

/-- **An object is read as before.** -/
theorem ObjectNode.Respelled.matches_readObject {object object' : ObjectNode}
    (h : object.Respelled object') :
    Matches Eq (readObject environment object) (readObject environment object') := by
  obtain ⟨name, labels, h, spreads, position⟩ := h
  rw [readObject, readObject]
  cases ObjectKind.ofName? name with
  | none => exact .of_error _ _
  | some kind =>
    refine (Matches.refl _).bind_eq fun _ => (matches_readPairs h).bind fun _ _ hentries => ?_
    refine (Fields.matches_ofEntries name labels position hentries).bind fun _ _ hfields => ?_
    have hread : Matches Eq (kind.read _ spreads) (kind.read _ spreads) :=
      kind.compares_read hfields.compares spreads
    exact hread.bind_eq fun _ => .refl _

theorem matches_readItems {items items' : List ObjectNode}
    (h : List.Forall₂ ObjectNode.Respelled items items') (position : Option Position) :
    Matches EntriesMatch (readItems environment position items)
      (readItems environment position items') := by
  induction h with
  | nil =>
    rw [readItems]
    exact .ok .nil
  | cons hitem _ ih =>
    rw [readItems, readItems]
    exact hitem.matches_readObject.bind_eq fun _ => ih.bind fun _ _ hrest =>
      .ok (.cons (.same _) hrest)

theorem matches_readServers {items items' : List ObjectNode}
    (h : List.Forall₂ ObjectNode.Respelled items items') (position : Option Position) :
    Matches Eq (readServers environment position items)
      (readServers environment position items') := by
  induction h with
  | nil =>
    rw [readServers]
    exact .ok rfl
  | cons hitem _ ih =>
    obtain ⟨name, labels, h, spreads, own⟩ := hitem
    rw [readServers, readServers]
    refine matching.guard (.of_error _ _) ((matches_readPairs h).bind fun _ _ hentries => ?_)
    refine (Fields.matches_ofEntries name labels own hentries).bind fun _ _ hfields => ?_
    have hread : Matches Eq (Server.ofFields _ spreads) (Server.ofFields _ spreads) :=
      Server.compares_ofFields hfields.compares spreads
    exact hread.bind_eq fun _ => ih.bind_eq fun _ => .ok rfl

/-- **A child is read as before**, up to the way in which its value is written if it is a pair. -/
theorem Child.Respelled.matches_readChild {child child' : Child} (h : child.Respelled child') :
    Matches EntriesMatch (readChild environment child) (readChild environment child') := by
  cases h with
  | pair h => exact h.matches_readChild
  | @object node node' h =>
    have hread : Matches Eq (readObject environment node) _ := h.matches_readObject
    obtain ⟨name, labels, h, spreads, position⟩ := h
    rw [readChild, readChild]
    exact hread.bind_eq fun _ => .ok (.cons (.same _) .nil)
  | list key h position =>
    rw [readChild, readChild]
    exact matches_readItems h position
  | loop binder iterable h position =>
    rw [readChild, readChild]
    exact (Matches.refl _).bind_eq fun _ => (matches_readServers h position).bind_eq fun _ =>
      .ok (.refl _)

end Reading

end Balancer
