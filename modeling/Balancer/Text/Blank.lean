/-!
# Blank characters

White space in this library is the Unicode property `White_Space`: 25 code points, of which only
six are ASCII. It decides how a text is trimmed, how a condition falls into words, and which
values have to be quoted when they are written out.
-/

namespace Balancer.Text

/-- **Blank characters**: the code points with the Unicode property `White_Space`. -/
def isBlank (c : Char) : Bool :=
  let n := c.toNat
  (9 ≤ n && n ≤ 13) || n == 0x20 || n == 0x85 || n == 0xA0 || n == 0x1680 ||
    (0x2000 ≤ n && n ≤ 0x200A) || n == 0x2028 || n == 0x2029 || n == 0x202F || n == 0x205F ||
    n == 0x3000

/-! ### Trimming -/

/-- The characters without the blanks around them. -/
def trimChars (cs : List Char) : List Char :=
  ((cs.dropWhile isBlank).reverse.dropWhile isBlank).reverse

/-- The text without the blanks around it. -/
def trim (s : String) : String :=
  String.ofList (trimChars s.toList)

/-! ### Words -/

/-- The maximal runs of characters that are not blank; `word` holds, in reverse, the run that is
open to the left of the characters still to be read. -/
def wordsFrom : List Char → List Char → List (List Char)
  | [], [] => []
  | word, [] => [word.reverse]
  | word, c :: cs =>
    if isBlank c then
      match word with
      | [] => wordsFrom [] cs
      | _ => word.reverse :: wordsFrom [] cs
    else wordsFrom (c :: word) cs

/-- The words of a text: what stands between its blanks. -/
def words (s : String) : List String :=
  (wordsFrom [] s.toList).map String.ofList

end Balancer.Text
