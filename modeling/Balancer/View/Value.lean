import Balancer.Value
import Balancer.View

/-!
# The view of a value
-/

namespace Balancer

mutual

/-- **The view of a value**, without a tag. -/
def Value.view : Value → View
  | .boolean b => .boolean b
  | .integer n => .integer n.toInt
  | .decimal d => .decimal d
  | .text s => .text s
  | .array items => .list (Value.viewAll items)
  | .object entries => .record (Value.viewEntries entries)

/-- The views of values. -/
def Value.viewAll : List Value → List View
  | [] => []
  | item :: items => item.view :: Value.viewAll items

/-- The views of named values. -/
def Value.viewEntries : List (String × Value) → List (String × View)
  | [] => []
  | (key, item) :: entries => (key, item.view) :: Value.viewEntries entries

end

instance : HasView Value := ⟨Value.view⟩

end Balancer
