import Balancer.Normal.Error

/-!
# Terms and their values

The words of an expression are grouped by the grammar

    sum     := operand (("+" | "-") operand)*
    operand := "-" operand | integer | text | name | "(" sum ")"

into a `Term`, in which chains of `+` and `-` lean to the left. Grouping never fails: where the
grammar is broken, a fault takes the place of the missing term, and nothing after it is read. So
what is wrong with an expression is found in one left-to-right evaluation, and a name that stands
before a misplaced word is looked up before the word is reported.
-/

namespace Balancer.Expression

open Balancer.Text

/-! ### Terms -/

/-- **A term** of the expression language. -/
inductive Term where
  | integer (n : Int64)
  | text (s : String)
  | name (s : String)
  | negate (term : Term)
  | add (left right : Term)
  | subtract (left right : Term)
  /-- Not a term: evaluation ends here. -/
  | fault (reason : Fault)
  /-- A term after which evaluation ends. -/
  | before (term : Term) (reason : Fault)
deriving DecidableEq, Repr

mutual

/-- The sum at the front of the words and the words after it. -/
def groupSum : Nat → List Token → Term × List Token
  | 0, _ => (.fault .endOfExpression, [])
  | fuel + 1, tokens =>
    let (first, rest) := groupOperand fuel tokens
    groupSumFrom fuel first rest

/-- Goes on with a sum whose left part is known. -/
def groupSumFrom : Nat → Term → List Token → Term × List Token
  | fuel + 1, left, .plus :: rest =>
    let (right, rest) := groupOperand fuel rest
    groupSumFrom fuel (.add left right) rest
  | fuel + 1, left, .minus :: rest =>
    let (right, rest) := groupOperand fuel rest
    groupSumFrom fuel (.subtract left right) rest
  | _, left, rest => (left, rest)

/-- The operand at the front of the words and the words after it. -/
def groupOperand : Nat → List Token → Term × List Token
  | _, [] => (.fault .endOfExpression, [])
  | 0, _ => (.fault .endOfExpression, [])
  | _ + 1, .integer n :: rest => (.integer n, rest)
  | _ + 1, .text s :: rest => (.text s, rest)
  | _ + 1, .name s :: .opening :: _ => (.fault (.call s), [])
  | _ + 1, .name s :: rest => (.name s, rest)
  | fuel + 1, .minus :: rest =>
    let (term, rest) := groupOperand fuel rest
    (.negate term, rest)
  | fuel + 1, .opening :: rest =>
    match groupSum fuel rest with
    | (term, .closing :: rest) => (term, rest)
    | (term, _) => (.before term .missingClosing, [])
  | _ + 1, .plus :: _ => (.fault (.unexpectedToken .plus), [])
  | _ + 1, .closing :: _ => (.fault (.unexpectedToken .closing), [])

end

/-- **The term that the words form**, up to the first word that does not belong. Every operand uses
up a word and two levels of nesting at most, which bounds the depth. -/
def group (tokens : List Token) : Term :=
  match groupSum (2 * tokens.length + 2) tokens with
  | (term, []) => term
  | (term, token :: _) => .before term (.unexpectedToken token)

/-! ### Values -/

/-- The sum of two values: of integers, or the concatenation of what the values render as where
one of them is a text. -/
def addValues : Value → Value → Except Fault Value
  | .integer a, .integer b =>
    match integerOf? (a.toInt + b.toInt) with
    | some n => .ok (.integer n)
    | none => .error .overflow
  | .text a, right =>
    match right.render with
    | some b => .ok (.text (a ++ b))
    | none => .error .concatenatedObject
  | left, .text b =>
    match left.render with
    | some a => .ok (.text (a ++ b))
    | none => .error .concatenatedObject
  | left, right => .error (.addition left.kind right.kind)

/-- The difference of two integers. -/
def subtractValues : Value → Value → Except Fault Value
  | .integer a, .integer b =>
    match integerOf? (a.toInt - b.toInt) with
    | some n => .ok (.integer n)
    | none => .error .overflow
  | left, right => .error (.subtraction left.kind right.kind)

/-- The opposite of an integer. -/
def negateValue : Value → Except Fault Value
  | .integer a =>
    match integerOf? (-a.toInt) with
    | some n => .ok (.integer n)
    | none => .error .overflow
  | other => .error (.negation other.kind)

/-! ### Evaluation -/

section Evaluation

variable {m : Type → Type} [Monad m] [MonadExceptOf NormalizeError m]

/-- The result of an operation inside the expression `source`. -/
def lift (source : String) : Except Fault Value → m Value
  | .ok value => pure value
  | .error fault => throw (.expression source fault)

/-- The value of a term inside the expression `source`. -/
def Term.evaluate (source : String) (lookup : String → m Value) : Term → m Value
  | integer n => pure (.integer n)
  | text s => pure (.text s)
  | name s => lookup s
  | negate term => do
    let value ← term.evaluate source lookup
    lift source (negateValue value)
  | add left right => do
    let a ← left.evaluate source lookup
    let b ← right.evaluate source lookup
    lift source (addValues a b)
  | subtract left right => do
    let a ← left.evaluate source lookup
    let b ← right.evaluate source lookup
    lift source (subtractValues a b)
  | fault reason => throw (.expression source reason)
  | before term reason => do
    let _ ← term.evaluate source lookup
    throw (.expression source reason)

/-- **The value of an expression**, with names looked up by `lookup`. -/
def evaluate (source : String) (lookup : String → m Value) : m Value :=
  match lex source with
  | .error fault => throw (.expression source fault)
  | .ok tokens => (group tokens).evaluate source lookup

end Evaluation

end Balancer.Expression
