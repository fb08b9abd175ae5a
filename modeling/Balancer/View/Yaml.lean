import Balancer.View.Json

/-!
# Views as YAML

Lists and records are written as blocks, the items of a list under a key in the column of the key,
and the tag of a variant in front of its content.

A text is written plainly where nothing in it could be taken for something else. A text that looks
like a number, a truth value or nothing stands in single quotes, and so does one with marks that
mean something in a block. A text of several lines is a literal block. What none of these can hold,
such as control characters, goes in double quotes.
-/

namespace Balancer

namespace Yaml

/-! ### Characters -/

/-- Line breaks. -/
def isBreak (c : Char) : Bool :=
  c == '\n' || c == '\r' || c == '\u0085' || c == '\u2028' || c == '\u2029'

/-- Blanks, and line breaks. -/
def isBlank (c : Char) : Bool := c == ' ' || c == '\t' || isBreak c

/-- Characters that are shown as they are. -/
def isPrintable (c : Char) : Bool :=
  c == '\n' || (' ' ≤ c && c ≤ '~') ||
    ('\u00a0' ≤ c && c != '\ufeff' && c != '\ufffe' && c != '\uffff')

/-- Characters that cannot start a plain text. -/
def isIndicator (c : Char) : Bool :=
  ['#', ',', '[', ']', '{', '}', '&', '*', '!', '|', '>', '\x27', '"', '%', '@', '\x60'].contains c

/-- Whether a character with the first property stands before one with the second. -/
def hasPair (p q : Char → Bool) : List Char → Bool
  | c :: d :: cs => (p c && q d) || hasPair p q (d :: cs)
  | _ => false

/-! ### Styles -/

/-- **The ways to write a text.** -/
inductive Style where
  | plain
  | single
  | double
  | literal
deriving DecidableEq, Repr

/-- Words that stand for truth values, for nothing, or for what is no finite number. -/
def reservedWords : List String :=
  ["", "~", "null", "Null", "NULL", "true", "True", "TRUE", "false", "False", "FALSE",
   ".nan", ".NaN", ".NAN", ".inf", ".Inf", ".INF", "+.inf", "+.Inf", "+.INF",
   "-.inf", "-.Inf", "-.INF"]

/-- The bases that whole numbers may be written in, with the letters that mark them. -/
def bases : List (Char × Nat) := [('x', 16), ('o', 8), ('b', 2)]

/-- The number that digits write in a base, if they are such digits. -/
def digitsIn? (base : Nat) : Nat → List Char → Option Nat
  | n, [] => some n
  | n, c :: cs =>
    match Text.hexDigit? c with
    | some d => if d < base then digitsIn? base (base * n + d) cs else none
    | none => none

/-- Whether characters write a whole number below a limit in a base other than ten. -/
def isBased (limit : Nat) : List Char → Bool
  | '0' :: mark :: c :: cs =>
    match bases.lookup mark with
    | some base => (digitsIn? base 0 (c :: cs)).any (· < limit)
    | none => false
  | _ => false

/-- Whether a text could be read as a number. -/
def isNumber (s : String) : Bool :=
  (Decimal.ofText? s).isSome ||
    match s.toList with
    | '-' :: cs => isBased (Nat.pow 2 127 + 1) cs
    | '+' :: cs | cs => isBased (Nat.pow 2 128) cs

/-- Whether a text could be read as something else. -/
def isAmbiguous (s : String) : Bool := reservedWords.contains s || isNumber s

/-- Whether there is a character that only double quotes can hold, or a blank at the end of a line
before the last. -/
def needsEscapes (cs : List Char) : Bool :=
  cs.any (fun c => !isPrintable c) || hasPair (· == ' ') isBreak cs

/-- Whether the start of a text means something in a block. -/
def startsBlock : List Char → Bool
  | '-' :: '-' :: '-' :: _ => true
  | '.' :: '.' :: '.' :: _ => true
  | c :: cs => isIndicator c || ((c == '?' || c == '-') && cs.head?.all isBlank)
  | [] => false

/-- Whether marks in a text mean something in a block. -/
def hasIndicators (cs : List Char) : Bool :=
  startsBlock cs || hasPair (· == ':') isBlank cs || cs.getLast? == some ':' ||
    hasPair isBlank (· == '#') cs

/-- Whether a text starts or ends with a blank. -/
def hasOuterBlanks (cs : List Char) : Bool :=
  let outer (c : Char) : Bool := c == ' ' || isBreak c
  cs.head?.any outer || cs.getLast?.any outer

/-- The style of a text. -/
def style (s : String) : Style :=
  let cs := s.toList
  if cs.contains '\n' then
    if needsEscapes cs || cs.getLast? == some ' ' then .double else .literal
  else if needsEscapes cs || hasPair isBreak (· == ' ') cs then .double
  else if isAmbiguous s || hasIndicators cs || hasOuterBlanks cs || cs.any isBreak then .single
  else .plain

/-! ### Texts -/

/-- The indentation of a column. -/
def pad (column : Nat) : String := String.ofList (List.replicate column ' ')

/-- A character in double quotes. -/
def character (c : Char) : String :=
  match c with
  | '\x00' => "\\0"
  | '\x07' => "\\a"
  | '\x08' => "\\b"
  | '\t' => "\\t"
  | '\n' => "\\n"
  | '\x0b' => "\\v"
  | '\x0c' => "\\f"
  | '\r' => "\\r"
  | '\x1b' => "\\e"
  | '"' => "\\\""
  | '\\' => "\\\\"
  | '\u0085' => "\\N"
  | '\u2028' => "\\L"
  | '\u2029' => "\\P"
  | c =>
    if isPrintable c then c.toString
    else if c.toNat ≤ 255 then "\\x" ++ (Json.hex 2 c.toNat).toUpper
    else "\\u" ++ (Json.hex 4 c.toNat).toUpper

/-- How a literal block treats the line breaks at its end. -/
def chomping (cs : List Char) : String :=
  match cs.reverse with
  | ['\n'] => "+"
  | '\n' :: c :: _ => if isBreak c then "+" else ""
  | _ => "-"

/-- A line of a literal block. -/
def literalLine (column : Nat) (line : List Char) : String :=
  if line.isEmpty then "" else pad column ++ String.ofList line

/-- A literal block with its lines in a column. The last line break is left to what follows. -/
def literal (column : Nat) (s : String) : String :=
  let cs := s.toList
  let hint := if cs.head?.any (fun c => c == ' ' || isBreak c) then "2" else ""
  let body := if cs.getLast? == some '\n' then cs.dropLast else cs
  let lines := (Text.splitChar '\n' body).map (literalLine column)
  "|" ++ hint ++ chomping cs ++ "\n" ++ Text.join "\n" lines

/-- **A text**, whose lines stand in a column if there are several. -/
def text (column : Nat) (s : String) : String :=
  match style s with
  | .plain => s
  | .single => "\x27" ++ Text.replaceChar '\x27' ['\x27', '\x27'] s ++ "\x27"
  | .double => "\"" ++ String.join (s.toList.map character) ++ "\""
  | .literal => literal column s

/-- Keys longer than this, in bytes, are set apart from their value. -/
def maxSimpleKey : Nat := 128

/-- Whether a key stands on the line of its value. -/
def isSimpleKey (key : String) : Bool :=
  !key.toList.any isBreak && key.utf8ByteSize ≤ maxSimpleKey

/-! ### Blocks -/

/-- Entries in a column, each with its line breaks. -/
def block (column : Nat) (entries : List String) : String :=
  String.join (entries.map (pad column ++ ·))

/-- Entries in a column whose first one stands where the line is already indented. -/
def inlineBlock (column : Nat) : List String → String
  | [] => ""
  | entry :: entries => entry ++ block column entries

end Yaml

mutual

/-- What follows a key or a tag: lists start in the column `lists`, records in the column
`fields`. -/
def View.yamlBlock (lists fields : Nat) : View → String
  | .null => " null\n"
  | .boolean b => if b then " true\n" else " false\n"
  | .integer n => " " ++ Json.number n ++ "\n"
  | .decimal d => " " ++ d.scientific false ++ "\n"
  | .text s => " " ++ Yaml.text fields s ++ "\n"
  | .list [] => " []\n"
  | .list (item :: items) => "\n" ++ Yaml.block lists (View.yamlItems lists (item :: items))
  | .record [] => " \x7b\x7d\n"
  | .record (entry :: entries) =>
    "\n" ++ Yaml.block fields (View.yamlFields fields (entry :: entries))
  | .variant tag content => " !" ++ tag ++ content.yamlBlock lists fields

/-- What follows a dash in a column. A list or a record starts on the same line. -/
def View.yamlInline (column : Nat) : View → String
  | .list (item :: items) =>
    " " ++ Yaml.inlineBlock (column + 2) (View.yamlItems (column + 2) (item :: items))
  | .record (entry :: entries) =>
    " " ++ Yaml.inlineBlock (column + 2) (View.yamlFields (column + 2) (entry :: entries))
  | .variant tag content => " !" ++ tag ++ content.yamlBlock (column + 2) (column + 2)
  | .null => " null\n"
  | .boolean b => if b then " true\n" else " false\n"
  | .integer n => " " ++ Json.number n ++ "\n"
  | .decimal d => " " ++ d.scientific false ++ "\n"
  | .text s => " " ++ Yaml.text (column + 2) s ++ "\n"
  | .list [] => " []\n"
  | .record [] => " \x7b\x7d\n"

/-- The items of a list whose dashes stand in a column. -/
def View.yamlItems (column : Nat) : List View → List String
  | [] => []
  | item :: items => ("-" ++ item.yamlInline column) :: View.yamlItems column items

/-- The fields of a record whose keys stand in a column. -/
def View.yamlFields (column : Nat) : List (String × View) → List String
  | [] => []
  | (key, value) :: fields =>
    let field :=
      if Yaml.isSimpleKey key then
        Yaml.text (column + 2) key ++ ":" ++ value.yamlBlock column (column + 2)
      else
        "? " ++ Yaml.text (column + 2) key ++ "\n" ++ Yaml.pad column ++ ":" ++
          (if value.isVariant then value.yamlBlock column (column + 2)
          else value.yamlInline column)
    field :: View.yamlFields column fields

end

/-- **The text of a view as YAML**; a record is written from the first column. -/
def View.yaml : View → String
  | .record (entry :: entries) => Yaml.block 0 (View.yamlFields 0 (entry :: entries))
  | other => String.ofList ((other.yamlBlock 0 0).toList.drop 1)

end Balancer
