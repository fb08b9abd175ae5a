import Balancer.Position
import Balancer.Value

/-!
# Documents

A document is the neutral shape of a configuration before anything is known about proxies. It is
a list of items: variables, templates, imports and sections. A section holds children, and each
child is a pair of a key and an expression, an object of a named kind, a list of such objects, or a
loop over objects.

Expressions are values with one addition: `env` reads a variable of the environment.
-/

namespace Balancer

/-! ### Expressions -/

/-- **An expression** on the right of an equals sign. -/
inductive Expr where
  | literal (value : Value)
  | array (items : List Expr)
  | object (entries : List (String × Expr))
  /-- The environment variable `name`, or `fallback` where it is not set. -/
  | env (name : String) (fallback : Option Expr)
deriving Repr, Inhabited

/-- What a loop runs over: the integers between two bounds, or the items of a list. -/
inductive Iterable where
  | range (start stop : Expr)
  | list (items : List Expr)
deriving Repr, Inhabited

/-! ### The parts of a section -/

mutual

/-- **A child** of a section or an object. -/
inductive Child where
  | pair (key : String) (value : Expr) (position : Option Position)
  | object (node : ObjectNode)
  | list (kind : String) (items : List ObjectNode) (position : Option Position)
  | loop (node : LoopNode)
deriving Repr

/-- **An object** of a kind, with labels, children, and the templates it spreads. -/
structure ObjectNode where
  kind : String
  labels : List String
  children : List Child
  spreads : List String
  position : Option Position
deriving Repr

/-- **A loop** that repeats its body for each value of the iterable. -/
structure LoopNode where
  binder : String
  iterable : Iterable
  body : List ObjectNode
  position : Option Position
deriving Repr

end

instance : Inhabited ObjectNode := ⟨⟨"", [], [], [], none⟩⟩

/-- Where a child stands. -/
def Child.position : Child → Option Position
  | .pair _ _ position => position
  | .object node => node.position
  | .list _ _ position => position
  | .loop node => node.position

/-! ### Items -/

/-- **A section** of a kind, with at most one name. -/
structure SectionNode where
  kind : String
  name : Option String
  children : List Child
  position : Option Position
deriving Repr

/-- **An item** at the top level of a document. -/
inductive Item where
  | definition (name : String) (value : Expr) (position : Option Position)
  | template (name : String) (children : List Child) (position : Option Position)
  | importFile (path : String) (position : Option Position)
  | block (node : SectionNode)
deriving Repr

/-- **A document**: its items in order. -/
structure Document where
  items : List Item := []
deriving Repr, Inhabited

end Balancer
