import Balancer.Text.Blank
import Balancer.Text.Integer
import Balancer.Text.Search

/-!
# Lines

A line of the written configuration is a list of words with single blanks between them. This module
has the ways in which lines grow: a word that may be missing, a keyword with its value, a switch, a
condition. A word is written as it is; only where the author's text has to stay together although
it holds blanks is it quoted.
-/

namespace Balancer.Layout

open Balancer.Text

/-- **A line**: its words. -/
abbrev Line := List String

/-- The text of a line. -/
def Line.text (line : Line) : String := join " " line

/-! ### Parts of a line -/

/-- A keyword and its text, where there is one. -/
def option (keyword : String) : Option String → Line
  | some value => [keyword, value]
  | none => []

/-- A keyword and its number, where there is one. -/
def count (keyword : String) (value : Option Nat) : Line :=
  option keyword (value.map natText)

/-- A keyword that stands alone, where the switch is on. -/
def flag (keyword : String) (on : Bool) : Line :=
  if on then [keyword] else []

/-- The condition as it is written: `if` is put in front unless the author wrote `if` or
`unless`. -/
def conditionText (condition : String) : String :=
  let condition := trim condition
  if startsWith condition "if " || startsWith condition "unless " then condition
  else "if " ++ condition

/-- The condition at the end of a line, where there is one. -/
def condition (condition : Option String) : Line :=
  (condition.map conditionText).toList

/-! ### Words -/

/-- Whether a text starts and ends with a quote of its own. -/
def isQuoted (value : String) : Bool :=
  2 ≤ value.toList.length && startsWith value "\"" && endsWith value "\""

/-- **The value as one word**: quoted where it holds a blank, with the quotes inside it escaped. A
text that is quoted already stays as it is. -/
def quote (value : String) : String :=
  if isQuoted value || !value.toList.any isBlank then value
  else "\"" ++ replaceChar '"' ['\\', '"'] value ++ "\""

/-- An address with its port, where it has one. -/
def address (host : String) : Option Nat → String
  | some port => host ++ ":" ++ natText port
  | none => host

/-! ### Whole lines -/

/-- A line with a keyword and its text, where there is one. -/
def optionLine (keyword : String) (value : Option String) : List Line :=
  match value with
  | some value => [[keyword, value]]
  | none => []

/-- A line with a keyword and its number, where there is one. -/
def countLine (keyword : String) (value : Option Nat) : List Line :=
  optionLine keyword (value.map natText)

/-- A line with a keyword alone, where the switch is on. -/
def flagLine (keyword : String) (on : Bool) : List Line :=
  if on then [[keyword]] else []

/-- A line with a keyword and `on` or `off`, where the switch is set. -/
def switchLine (keyword : String) (on : Option Bool) : List Line :=
  optionLine keyword (on.map fun on => if on then "on" else "off")

/-- A line with a keyword and all the texts, where there are any. -/
def listLine (keyword : String) (values : List String) : List Line :=
  if values.isEmpty then [] else [keyword :: values]

end Balancer.Layout
