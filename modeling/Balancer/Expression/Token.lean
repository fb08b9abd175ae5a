import Balancer.Text.Blank
import Balancer.Text.Integer

/-!
# Words of the expression language

Between `${` and `}` stands an expression: integers, quoted texts, names, `+`, `-` and
parentheses. Its text is cut into words from left to right by a scanner that remembers the word it
is inside of. Cutting either succeeds for the whole text or reports the first thing that is no
word, and it comes before anything is evaluated.
-/

namespace Balancer.Expression

open Balancer.Text

/-! ### Tokens and faults -/

/-- **A word** of an expression. -/
inductive Token where
  | integer (n : Int64)
  | text (s : String)
  | name (s : String)
  | plus | minus | opening | closing
deriving DecidableEq, Repr

/-- A word as messages show it. -/
def Token.show : Token → String
  | integer n => integerText n
  | text s => s!"\"{s}\""
  | name s => s
  | plus => "+"
  | minus => "-"
  | opening => "("
  | closing => ")"

/-- **What can be wrong with an expression.** -/
inductive Fault where
  | outOfRange (digits : String)
  | unterminatedText
  | attributeAccess
  | indexing
  | unexpectedCharacter (c : Char)
  | call (name : String)
  | missingClosing
  | unexpectedToken (token : Token)
  | endOfExpression
  | overflow
  | concatenatedObject
  | addition (left right : String)
  | subtraction (left right : String)
  | negation (kind : String)
  | unterminated
deriving DecidableEq, Repr

/-- The text of a fault. -/
def Fault.message : Fault → String
  | outOfRange digits => s!"integer `{digits}` is out of range"
  | unterminatedText => "unterminated string literal"
  | attributeAccess => "attribute access is not supported"
  | indexing => "indexing is not supported"
  | unexpectedCharacter c => s!"unexpected character `{c.toString}`"
  | call name => s!"function calls are not supported (`{name}(...)`)"
  | missingClosing => "missing `)`"
  | unexpectedToken token => s!"unexpected `{token.show}`"
  | endOfExpression => "unexpected end of expression"
  | overflow => "integer overflow"
  | concatenatedObject => "cannot concatenate an object"
  | addition left right => s!"cannot add {left} and {right}"
  | subtraction left right => s!"cannot subtract {right} from {left}"
  | negation kind => s!"cannot negate a {kind}"
  | unterminated => "unterminated `$\x7b`"

/-! ### The scanner -/

/-- A character that can start a name. -/
def isNameStart (c : Char) : Bool := c.isAlpha || c == '_'

/-- A character that can go on a name. -/
def isNamePart (c : Char) : Bool := c.isAlphanum || c == '_'

/-- What the scanner is inside of. The characters of a word are kept in reverse. -/
inductive Scan where
  | between
  | digits (read : List Char)
  | name (read : List Char)
  | text (quote : Char) (read : List Char)

/-- The integer that digits in reverse write. -/
def integerToken (read : List Char) : Except Fault Token :=
  match integerOf? (natOfDigits read.reverse) with
  | some n => .ok (.integer n)
  | none => .error (.outOfRange (String.ofList read.reverse))

/-- The words that end where the text ends, or where a character comes that does not go on. -/
def Scan.close : Scan → Except Fault (List Token)
  | between => .ok []
  | digits read => do return [← integerToken read]
  | name read => .ok [.name (String.ofList read.reverse)]
  | text _ _ => .error .unterminatedText

/-- The first character after a word: the words that it is, and what the scanner is inside of
then. -/
def Scan.begin (c : Char) : Except Fault (List Token × Scan) :=
  if isBlank c then .ok ([], between)
  else if c = '+' then .ok ([.plus], between)
  else if c = '-' then .ok ([.minus], between)
  else if c = '(' then .ok ([.opening], between)
  else if c = ')' then .ok ([.closing], between)
  else if isDigit c then .ok ([], digits [c])
  else if c = '"' ∨ c = '\x27' then .ok ([], text c [])
  else if isNameStart c then .ok ([], name [c])
  else if c = '.' then .error .attributeAccess
  else if c = '[' then .error .indexing
  else .error (.unexpectedCharacter c)

/-- One step of the scanner. -/
def Scan.step (c : Char) : Scan → Except Fault (List Token × Scan)
  | between => begin c
  | digits read =>
    if isDigit c then .ok ([], digits (c :: read))
    else do
      let token ← integerToken read
      let (tokens, next) ← begin c
      return (token :: tokens, next)
  | name read =>
    if isNamePart c then .ok ([], name (c :: read))
    else do
      let (tokens, next) ← begin c
      return (.name (String.ofList read.reverse) :: tokens, next)
  | text quote read =>
    if c = quote then .ok ([.text (String.ofList read.reverse)], between)
    else .ok ([], text quote (c :: read))

/-- The words of the characters, from within a word. -/
def lexFrom : Scan → List Char → Except Fault (List Token)
  | scan, [] => scan.close
  | scan, c :: cs => do
    let (tokens, next) ← scan.step c
    let rest ← lexFrom next cs
    return tokens ++ rest

/-- **The words of an expression.** -/
def lex (source : String) : Except Fault (List Token) :=
  lexFrom .between source.toList

end Balancer.Expression
