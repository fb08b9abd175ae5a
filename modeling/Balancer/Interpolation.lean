import Balancer.Expression.Term

/-!
# Interpolation

A text may hold expressions, written `${…}`, and `$${` where a plain `${` is meant. It is read as a
sequence of **pieces** first: characters, escaped openings, and expressions, each of which runs to
the next closing brace. Substitution then puts in what the expressions render as, piece by piece,
so that what is put in is never read again.

Inside a value, a text that is nothing but one expression takes the type of its result: with an
integer `n`, `"${n}"` is an integer and `"${n}0"` is a text.
-/

namespace Balancer

open Text

/-! ### Pieces -/

/-- **A piece** of a text. -/
inductive Piece where
  /-- A character that stands for itself. -/
  | char (c : Char)
  /-- An escaped opening, which stands for `${`. -/
  | escaped
  /-- An expression. -/
  | expression (source : String)
  /-- An opening whose expression never ends. -/
  | unterminated
deriving DecidableEq, Repr

/-- What stands before the next closing brace and after it. -/
def cutClosing : List Char → Option (List Char × List Char)
  | [] => none
  | c :: cs =>
    if c = '}' then some ([], cs)
    else (cutClosing cs).map fun (inner, rest) => (c :: inner, rest)

/-- The pieces of the characters; each piece uses up at least one of them. -/
def piecesFrom : Nat → List Char → List Piece
  | 0, _ => []
  | _, [] => []
  | fuel + 1, '$' :: '$' :: '{' :: rest => .escaped :: piecesFrom fuel rest
  | fuel + 1, '$' :: '{' :: rest =>
    match cutClosing rest with
    | some (inner, rest) => .expression (String.ofList inner) :: piecesFrom fuel rest
    | none => [.unterminated]
  | fuel + 1, c :: rest => .char c :: piecesFrom fuel rest

/-- **The pieces of a text.** -/
def pieces (s : String) : List Piece :=
  piecesFrom s.toList.length s.toList

/-- The expression of a text that is nothing but one. -/
def soleExpression? (s : String) : Option String :=
  match stripFront? ['$', '{'] s.toList with
  | none => none
  | some rest =>
    match rest.reverse with
    | '}' :: inner =>
      let inner := inner.reverse
      if inner.contains '}' || occursIn ['$', '{'] inner then none
      else some (String.ofList inner)
    | _ => none

/-! ### Substitution -/

section Substitution

variable {m : Type → Type} [Monad m] [MonadExceptOf NormalizeError m]

/-- What a piece of the text `input` stands for. -/
def Piece.expand (input : String) (lookup : String → m Value) : Piece → m String
  | char c => pure c.toString
  | escaped => pure "$\x7b"
  | expression source => do
    let value ← Expression.evaluate source lookup
    match value.render with
    | some text => pure text
    | none => throw (.notInterpolatable source value.kind)
  | unterminated => throw (.expression input .unterminated)

/-- **The text with its expressions substituted.** -/
def interpolate (lookup : String → m Value) (input : String) : m String := do
  return join "" (← (pieces input).mapM (Piece.expand input lookup))

mutual

/-- **The value with the expressions of its texts substituted.** -/
def interpolateValue (lookup : String → m Value) : Value → m Value
  | .text s =>
    match soleExpression? s with
    | some source => Expression.evaluate source lookup
    | none => do return .text (← interpolate lookup s)
  | .array items => do return .array (← interpolateValues lookup items)
  | .object entries => do return .object (← interpolateEntries lookup entries)
  | scalar => pure scalar

/-- The values with their expressions substituted, in order. -/
def interpolateValues (lookup : String → m Value) : List Value → m (List Value)
  | [] => pure []
  | item :: items => do
    let first ← interpolateValue lookup item
    let rest ← interpolateValues lookup items
    return first :: rest

/-- The named values with their expressions substituted, in order. -/
def interpolateEntries (lookup : String → m Value) :
    List (String × Value) → m (List (String × Value))
  | [] => pure []
  | (key, item) :: entries => do
    let first ← interpolateValue lookup item
    let rest ← interpolateEntries lookup entries
    return (key, first) :: rest

end

end Substitution

end Balancer
