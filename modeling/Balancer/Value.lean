import Balancer.Decimal.Text
import Balancer.Text.Blank
import Balancer.Text.Search

/-!
# Values

A value is what an author writes on the right of an equals sign: a boolean, an integer, a decimal
number, a text, a list of values, or an object with named values. A text may still hold `${…}`,
which a later stage substitutes.

Directives want narrower types than that. The accessors `Value.toText`, `Value.toFlag`,
`Value.toInteger`, `Value.toCount`, `Value.toPort` and `Value.toTexts` convert where the value has
a sensible reading and otherwise say, with the name of the field, what was expected and what was
found.
-/

namespace Balancer

open Text

/-- **A value** as written by the author. -/
inductive Value where
  | boolean (b : Bool)
  | integer (n : Int64)
  | decimal (d : Decimal)
  | text (s : String)
  | array (items : List Value)
  | object (entries : List (String × Value))
deriving Repr, Inhabited

/-- **A field that does not have the shape its directive requires.** -/
structure FieldError where
  key : String
  expected : String
  found : String
deriving DecidableEq, Repr

/-- The text of a field error. -/
def FieldError.message (e : FieldError) : String :=
  s!"`{e.key}` expects {e.expected}, found {e.found}"

namespace Value

/-- The name of a value's kind, as error messages use it. -/
def kind : Value → String
  | boolean _ => "boolean"
  | integer _ => "integer"
  | decimal _ => "decimal"
  | text _ => "string"
  | array _ => "array"
  | object _ => "object"

/-- The text, if the value is one. -/
def text? : Value → Option String
  | text s => some s
  | _ => none

/-! ### Rendering -/

mutual

/-- **The rendering** of a value inside a text. A list renders as its items with blanks between
them; an object has no rendering, and neither has a list that holds one. -/
def render : Value → Option String
  | boolean b => some (if b then "true" else "false")
  | integer n => some (integerText n)
  | decimal d => some d.positional
  | text s => some s
  | array items => (renderAll items).map (join " ")
  | object _ => none

/-- The renderings of all items, if each has one. -/
def renderAll : List Value → Option (List String)
  | [] => some []
  | item :: items => do
    let first ← render item
    let rest ← renderAll items
    return first :: rest

end

/-! ### Typed readings -/

/-- The error of a field that is not of the expected kind. -/
def mismatch (value : Value) (key expected : String) : FieldError :=
  ⟨key, expected, value.kind⟩

/-- A text; numbers count as the text that writes them. -/
def toText (key : String) : Value → Except FieldError String
  | text s => .ok s
  | integer n => .ok (integerText n)
  | decimal d => .ok d.positional
  | other => .error (other.mismatch key "string")

/-- A truth value, also where it is written as a text. -/
def toFlag (key : String) : Value → Except FieldError Bool
  | boolean b => .ok b
  | text s =>
    if s = "true" then .ok true
    else if s = "false" then .ok false
    else .error ((text s).mismatch key "boolean")
  | other => .error (other.mismatch key "boolean")

/-- An integer, also where it is written as a text, with blanks around it or not. -/
def toInteger (key : String) : Value → Except FieldError Int64
  | integer n => .ok n
  | text s =>
    match readInteger? (trim s) with
    | some n => .ok n
    | none => .error ((text s).mismatch key "integer")
  | other => .error (other.mismatch key "integer")

/-- A natural number below a bound, named for the error message. -/
def toBounded (bound : Nat) (name key : String) (value : Value) : Except FieldError Nat := do
  let n ← value.toInteger key
  if 0 ≤ n.toInt ∧ n.toInt < bound then return n.toInt.toNat
  else throw ⟨key, name, "integer"⟩

/-- A natural number of 32 bits. -/
def toCount (key : String) (value : Value) : Except FieldError Nat :=
  value.toBounded (Nat.pow 2 32) "unsigned 32 bit integer" key

/-- A natural number of 16 bits. -/
def toPort (key : String) (value : Value) : Except FieldError Nat :=
  value.toBounded (Nat.pow 2 16) "port number" key

/-- A list of texts; a single text or number counts as a list of one. -/
def toTexts (key : String) : Value → Except FieldError (List String)
  | array items => items.mapM (toText key)
  | scalar => do return [← scalar.toText key]

/-- The named values of an object. -/
def toObject (key : String) : Value → Except FieldError (List (String × Value))
  | object entries => .ok entries
  | other => .error (other.mismatch key "object")

end Value

end Balancer
