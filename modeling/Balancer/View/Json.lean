import Balancer.Decimal.Text
import Balancer.Text.Search
import Balancer.View

/-!
# Views as JSON

Every field and every item has a line of its own, indented by two blanks, and nothing follows the
last line. A variant is a record with its tag as the only key.
-/

namespace Balancer

namespace Json

/-- A number with its sign. -/
def number (n : Int) : String :=
  if n < 0 then "-" ++ Text.natText n.natAbs else Text.natText n.natAbs

/-- The last so many hexadecimal digits of a number, in small letters. -/
def hex (width n : Nat) : String :=
  String.ofList ((List.range width).reverse.map fun place =>
    Nat.digitChar (n / Nat.pow 16 place % 16))

/-- A character inside quotes. -/
def character (c : Char) : String :=
  match c with
  | '"' => "\\\""
  | '\\' => "\\\\"
  | '\n' => "\\n"
  | '\r' => "\\r"
  | '\t' => "\\t"
  | '\x08' => "\\b"
  | '\x0c' => "\\f"
  | c => if c.toNat < 32 then "\\u" ++ hex 4 c.toNat else c.toString

/-- A text in quotes. -/
def quoted (s : String) : String :=
  "\"" ++ String.join (s.toList.map character) ++ "\""

/-- A line break and the indentation of the next line. -/
def lineBreak (depth : Nat) : String := "\n" ++ String.ofList (List.replicate (2 * depth) ' ')

/-- Items between an opening and a closing mark. -/
def enclose (start stop : String) (depth : Nat) (items : List String) : String :=
  if items.isEmpty then start ++ stop
  else
    let inner := lineBreak (depth + 1)
    start ++ inner ++ Text.join ("," ++ inner) items ++ lineBreak depth ++ stop

end Json

mutual

/-- The text of a view at a depth of nesting. -/
def View.jsonAt (depth : Nat) : View → String
  | .null => "null"
  | .boolean b => if b then "true" else "false"
  | .integer n => Json.number n
  | .decimal d => d.scientific true
  | .text s => Json.quoted s
  | .list items => Json.enclose "[" "]" depth (View.jsonItems (depth + 1) items)
  | .record fields => Json.enclose "\x7b" "\x7d" depth (View.jsonFields (depth + 1) fields)
  | .variant tag content =>
    Json.enclose "\x7b" "\x7d" depth [Json.quoted tag ++ ": " ++ content.jsonAt (depth + 1)]

/-- The texts of items. -/
def View.jsonItems (depth : Nat) : List View → List String
  | [] => []
  | item :: items => item.jsonAt depth :: View.jsonItems depth items

/-- The texts of fields. -/
def View.jsonFields (depth : Nat) : List (String × View) → List String
  | [] => []
  | (key, value) :: fields =>
    (Json.quoted key ++ ": " ++ value.jsonAt depth) :: View.jsonFields depth fields

end

/-- **The text of a view as JSON.** -/
def View.json (v : View) : String := v.jsonAt 0

end Balancer
