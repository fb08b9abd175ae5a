import Balancer.Text.Blank
import Balancer.Text.Search

/-!
# The names in a condition

A condition is a sequence of words: names of conditions declared elsewhere, each perhaps negated,
keywords that connect them, and anonymous conditions in braces. The names are what is left when the
rest is taken out.
-/

namespace Balancer.Condition

open Balancer.Text

/-- The words that are no names. -/
def keywords : List String := ["", "if", "unless", "or", "||", "&&"]

/-- Whether a word opens an anonymous condition. -/
def isOpening (word : String) : Bool :=
  startsWith word "\x7b" || startsWith word "!\x7b"

/-- Whether a word closes an anonymous condition. -/
def isClosing (word : String) : Bool := endsWith word "\x7d"

/-- The word without the exclamation marks in front of it. -/
def positive (word : String) : String :=
  String.ofList (word.toList.dropWhile (· == '!'))

/-- The names among the words, inside `depth` anonymous conditions. -/
def namesFrom : Nat → List String → List String
  | _, [] => []
  | depth, word :: rest =>
    let inside := if isOpening word then depth + 1 else depth
    if 0 < inside then namesFrom (if isClosing word then inside - 1 else inside) rest
    else
      let name := positive word
      if keywords.contains name then namesFrom 0 rest else name :: namesFrom 0 rest

/-- **The names that a condition refers to**, in order. -/
def names (condition : String) : List String :=
  namesFrom 0 (words condition)

end Balancer.Condition
