import Balancer.Decimal
import Balancer.OrderedMap

/-!
# Views

A view is the neutral shape in which documents and configurations are shown to a reader: scalars,
lists, records with named fields, and variants with a tag. It says which fields there are and in
which order; how they are spelled is the business of the formats.
-/

namespace Balancer

/-- **A view** of a piece of data. -/
inductive View where
  | null
  | boolean (b : Bool)
  | integer (n : Int)
  | decimal (d : Decimal)
  | text (s : String)
  | list (items : List View)
  | record (fields : List (String × View))
  | variant (tag : String) (content : View)
deriving Repr, Inhabited

/-- Whether a view is a variant. -/
def View.isVariant : View → Bool
  | variant _ _ => true
  | _ => false

/-- **Types with a view.** -/
class HasView (α : Type) where
  /-- The view of a piece of data. -/
  view : α → View

export HasView (view)

instance : HasView View := ⟨id⟩
instance : HasView Bool := ⟨.boolean⟩
instance : HasView Nat := ⟨fun n => .integer n⟩
instance : HasView Int64 := ⟨fun n => .integer n.toInt⟩
instance : HasView Decimal := ⟨.decimal⟩
instance : HasView String := ⟨.text⟩

instance {α : Type} [HasView α] : HasView (Option α) where
  view
    | some a => view a
    | none => .null

instance {α : Type} [HasView α] : HasView (List α) where
  view items := .list (items.map view)

instance {α : Type} [HasView α] : HasView (OrderedMap α) where
  view map := .record (map.entries.map fun (key, value) => (key, view value))

end Balancer
