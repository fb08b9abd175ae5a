import Balancer.Text.Integer

/-!
# Positions in a source text

A position is a line and a column, both counted from one. The column counts bytes of the UTF-8
encoding, so a position can point inside a character, and offsets beyond the end of the text count
as the end.
-/

namespace Balancer

/-- **A place in a source text.** -/
structure Position where
  line : Nat
  column : Nat
deriving DecidableEq, Repr, Inhabited

namespace Position

/-- The byte of a line feed. -/
def lineFeed : UInt8 := 10

/-- The bytes of a text. -/
def bytes (source : String) : List UInt8 := source.toUTF8.data.toList

/-- The position reached after the given bytes: one line more than there are line feeds, and one
column more than there are bytes after the last of them. -/
def after (before : List UInt8) : Position where
  line := before.count lineFeed + 1
  column := (before.reverse.takeWhile (· != lineFeed)).length + 1

/-- The position of a byte offset. -/
def ofOffset (source : String) (offset : Nat) : Position :=
  after ((bytes source).take offset)

/-- The position as `line:column`. -/
def text (p : Position) : String :=
  Text.natText p.line ++ ":" ++ Text.natText p.column

/-- The position as it stands in a message: ` at line:column`, or nothing where it is unknown. -/
def suffix : Option Position → String
  | some p => " at " ++ p.text
  | none => ""

end Position

end Balancer
