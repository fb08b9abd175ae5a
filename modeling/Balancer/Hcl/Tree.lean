import Balancer.Hcl.Written
import Balancer.Value

/-!
# Syntax trees

The tree of a configuration text. Numbers and texts are decoded already. What the language of
expressions has beyond plain data – access to attributes, operators, conditionals, comprehensions –
is recognised, so that it can be refused by name, but its parts are not kept.

While an expression is read, its written form goes with it, because an interpolation around it is
written back.
-/

namespace Balancer.Hcl

/-- The key of an entry of an object. A key that is neither a name nor a text is known by its
shape. -/
inductive Key where
  | name (s : String)
  | text (s : String)
  | computed (shape : Written)
deriving DecidableEq, Repr

/-- **An expression** of a configuration text. -/
inductive Expr where
  | null
  | boolean (b : Bool)
  | number (value : Value)
  /-- A text without interpolation, decoded. -/
  | text (s : String)
  /-- A text with interpolation, or a here document, written back. -/
  | template (s : String)
  | array (items : List Expr)
  | object (entries : List (Key × Expr))
  | parenthesis (inner : Expr)
  | call (function : String) (arguments : List Expr)
  | name (s : String)
  | traversal
  | operation
  | conditional
  | comprehension
deriving Repr, Inhabited

/-- **An expression as it was read**, with its written form. The blanks of `lead` stand in front of
it unless its surroundings have blanks of their own for that place. -/
structure Parsed where
  value : Expr
  written : Written
  lead : List Char := []
deriving Repr, Inhabited

/-- The written form with the blanks in front. -/
def Parsed.full (parsed : Parsed) : Written := .blank parsed.lead :: parsed.written

/-- **A structure** of a body: an assignment or a block. `left` is the number of characters from its
start to the end of the text. -/
inductive Structure where
  | assignment (name : String) (value : Expr) (left : Nat)
  | block (name : String) (labels : List String) (body : List Structure) (left : Nat)
deriving Repr, Inhabited

/-- The name of a structure if it is an assignment. -/
def Structure.assigned? : Structure → Option String
  | assignment name _ _ => some name
  | block _ _ _ _ => none

end Balancer.Hcl
