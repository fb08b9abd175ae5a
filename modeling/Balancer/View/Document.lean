import Balancer.Document
import Balancer.View.Value

/-!
# The view of a document
-/

namespace Balancer

/-- The view of a position. -/
instance : HasView Position where
  view position := .record [("line", view position.line), ("column", view position.column)]

/-! ### Expressions -/

mutual

/-- **The view of an expression.** -/
def Expr.view : Expr → View
  | .literal value => .variant "Literal" value.view
  | .array items => .variant "Array" (.list (Expr.viewAll items))
  | .object entries => .variant "Object" (.record (Expr.viewEntries entries))
  | .env name none => .variant "Env" (.record [("name", .text name), ("default", .null)])
  | .env name (some fallback) =>
    .variant "Env" (.record [("name", .text name), ("default", fallback.view)])

/-- The views of expressions. -/
def Expr.viewAll : List Expr → List View
  | [] => []
  | item :: items => item.view :: Expr.viewAll items

/-- The views of named expressions. -/
def Expr.viewEntries : List (String × Expr) → List (String × View)
  | [] => []
  | (key, item) :: entries => (key, item.view) :: Expr.viewEntries entries

end

instance : HasView Expr := ⟨Expr.view⟩

/-- The view of what a loop runs over. -/
instance : HasView Iterable where
  view
    | .range start stop => .variant "Range" (.record [("start", view start), ("end", view stop)])
    | .list items => .variant "List" (view items)

/-! ### Children -/

mutual

/-- **The view of a child.** -/
def Child.view : Child → View
  | .pair key value position =>
    .variant "Pair" (.record
      [("key", .text key), ("value", value.view), ("position", HasView.view position)])
  | .object node => .variant "Object" node.view
  | .list kind items position =>
    .variant "List" (.record
      [("kind", .text kind),
       ("items", .list (ObjectNode.viewAll items)),
       ("position", HasView.view position)])
  | .loop ⟨binder, iterable, body, position⟩ =>
    .variant "Loop" (.record
      [("variable", .text binder),
       ("iterable", HasView.view iterable),
       ("body", .list (ObjectNode.viewAll body)),
       ("position", HasView.view position)])

/-- The views of children. -/
def Child.viewAll : List Child → List View
  | [] => []
  | child :: children => child.view :: Child.viewAll children

/-- The view of an object. -/
def ObjectNode.view : ObjectNode → View
  | ⟨kind, labels, children, spreads, position⟩ =>
    .record
      [("kind", .text kind),
       ("labels", HasView.view labels),
       ("children", .list (Child.viewAll children)),
       ("spreads", HasView.view spreads),
       ("position", HasView.view position)]

/-- The views of objects. -/
def ObjectNode.viewAll : List ObjectNode → List View
  | [] => []
  | node :: nodes => node.view :: ObjectNode.viewAll nodes

end

instance : HasView Child := ⟨Child.view⟩

/-! ### Items -/

/-- The view of a section. -/
instance : HasView SectionNode where
  view node :=
    .record
      [("kind", view node.kind),
       ("name", view node.name),
       ("children", view node.children),
       ("position", view node.position)]

/-- The view of an item. -/
instance : HasView Item where
  view
    | .definition name value position =>
      .variant "Variable" (.record
        [("name", view name), ("value", view value), ("position", view position)])
    | .template name children position =>
      .variant "Template" (.record
        [("name", view name), ("children", view children), ("position", view position)])
    | .importFile path position =>
      .variant "Import" (.record [("path", view path), ("position", view position)])
    | .block node => .variant "Section" (view node)

/-- **The view of a document.** -/
instance : HasView Document where
  view document := .record [("items", view document.items)]

end Balancer
