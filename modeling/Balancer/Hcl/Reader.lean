import Balancer.Hcl.Identifier
import Balancer.Text.Integer
import Balancer.Text.Search

/-!
# Readers

A reader reads from the front of a list of characters and leaves the rest. It either succeeds in
one way or fails, and an alternative starts again where the failed reader started.

This module has the pieces that are smaller than an expression: blanks, comments, line endings and
identifiers. Inside a line only blanks, tabs and comments between `/*` and `*/` are skipped; where
line breaks are allowed, so are comments that run to the end of the line.
-/

namespace Balancer.Hcl

open Balancer.Text

/-- **A reader.** -/
abbrev Reader (α : Type) := StateT (List Char) Option α

namespace Reader

variable {α : Type}

/-! ### Characters -/

/-- The next character, without reading it. -/
def peek? : Reader (Option Char) := fun cs => some (cs.head?, cs)

/-- The number of characters that are left. -/
def left : Reader Nat := fun cs => some (cs.length, cs)

/-- Reads a character that satisfies `p`. -/
def satisfy (p : Char → Bool) : Reader Char
  | [] => none
  | c :: cs => if p c then some (c, cs) else none

/-- Reads a text. -/
def exactly (s : List Char) : Reader Unit := fun cs => (stripFront? s cs).map fun rest => ((), rest)

/-- Reads a character. -/
def char (c : Char) : Reader Unit := exactly [c]

/-- Reads the longest run of characters that satisfy `p`. -/
def takeWhile (p : Char → Bool) : Reader (List Char) := fun cs =>
  some (cs.takeWhile p, cs.dropWhile p)

/-- Succeeds at the end of the text. -/
def atEnd : Reader Unit
  | [] => some ((), [])
  | _ :: _ => none

/-! ### Combinators -/

/-- Runs a reader if it succeeds. -/
def attempt (p : Reader α) : Reader (Option α) := fun cs =>
  match p cs with
  | some (a, rest) => some (some a, rest)
  | none => some (none, cs)

/-- Whether a reader would succeed; nothing is read. -/
def ahead (p : Reader α) : Reader Bool := fun cs => some ((p cs).isSome, cs)

/-- Runs a reader and returns the characters that it reads as well. -/
def consumed (p : Reader α) : Reader (α × List Char) := fun cs =>
  (p cs).map fun (a, rest) => ((a, cs.take (cs.length - rest.length)), rest)

/-- Runs a reader as often as it succeeds, `fuel` times at most. -/
def manyFrom (p : Reader α) : Nat → Reader (List α)
  | 0 => pure []
  | fuel + 1 => do
    match ← attempt p with
    | none => return []
    | some a => return a :: (← manyFrom p fuel)

/-- Runs a reader as often as it succeeds. The reader reads at least one character each time. -/
def many (p : Reader α) : Reader (List α) := fun cs => manyFrom p cs.length cs

/-! ### Blanks and comments -/

/-- Blanks inside a line. -/
def isSpace (c : Char) : Bool := c == ' ' || c == '\t'

/-- Blanks and line breaks. -/
def isSpaceOrBreak (c : Char) : Bool := isSpace c || c == '\r' || c == '\n'

/-- Reads a text and returns it. -/
def symbol (s : List Char) : Reader (List Char) := do
  exactly s
  return s

/-- Reads the end of a line. -/
def lineEnding : Reader (List Char) := symbol ['\n'] <|> symbol ['\r', '\n']

/-- Reads a comment to the end of the line, which is left. A carriage return inside the comment has
to belong to the line ending. -/
def lineComment : Reader (List Char) := do
  let start ← symbol ['#'] <|> symbol ['/', '/']
  let text ← takeWhile fun c => c != '\n' && c != '\r'
  if (← peek?) = some '\r' then guard (← ahead lineEnding)
  return start ++ text

/-- Reads a comment between `/*` and `*/`. -/
def inlineComment : Reader (List Char) := do
  let start ← symbol ['/', '*']
  fun cs => (splitFirst? ['*', '/'] cs).map fun (text, rest) => (start ++ text ++ ['*', '/'], rest)

/-- Reads blanks and comments of the given kinds. -/
def skip (isBlank : Char → Bool) (comment : Reader (List Char)) : Reader (List Char) := do
  let first ← takeWhile isBlank
  match ← peek? with
  | some '/' | some '#' =>
    let more ← many do return (← comment) ++ (← takeWhile isBlank)
    return first ++ more.flatten
  | _ => return first

/-- Reads what may stand between two words, with line breaks or without. -/
def gap (breaks : Bool) : Reader (List Char) :=
  if breaks then skip isSpaceOrBreak (lineComment <|> inlineComment)
  else skip isSpace inlineComment

/-- Skips what may stand between two words of a line. -/
def sp : Reader Unit := discard (gap false)

/-- Skips what may stand between two words where line breaks are allowed. -/
def ws : Reader Unit := discard (gap true)

/-- Reads a comment at the end of a line, if there is one, and the end of the line. The comment is
returned. -/
def lineEnd : Reader (List Char) := do
  let comment ← attempt lineComment
  let _ ← lineEnding
  return comment.getD []

/-! ### Identifiers -/

/-- Reads an identifier. -/
def identifier : Reader String := do
  let first ← satisfy isIdStart
  let rest ← takeWhile isIdPart
  return String.ofList (first :: rest)

end Reader

end Balancer.Hcl
