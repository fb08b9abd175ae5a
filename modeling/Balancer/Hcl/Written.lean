/-!
# Written forms

What stands in an interpolation is not evaluated where a text is read. It goes on as text, for the
program to evaluate later, but not quite as the author typed it: it has been read, and is written
back. Names, signs, numbers, blanks and comments come back as they were. A quoted text comes back
from the characters it stands for, so that `"\/"` is written `"/"` and a line break inside it is
written `\n`.

A written form is a list of pieces. One thing about writing them is not local: a stretch of a
template has its characters escaped if the nearest quote before it opens a template, and is left
alone otherwise. In particular a stretch that follows a closed inner template is left alone.
-/

namespace Balancer.Hcl

/-- **A piece** of a written form. -/
inductive Piece where
  /-- A sign, a name or a number, as it was typed. -/
  | mark (cs : List Char)
  /-- Blanks and comments, as they were typed. -/
  | blank (cs : List Char)
  /-- A quoted text without interpolation, decoded. -/
  | quotation (cs : List Char)
  /-- A stretch of text in a template, decoded. -/
  | literal (cs : List Char)
  /-- The quote that opens or closes a template. -/
  | quote (opening : Bool)
deriving DecidableEq, Repr

/-- **A written form.** -/
abbrev Written := List Piece

/-! ### Escapes -/

/-- Doubles the markers `${` and `%{` in the rest of a text that has one in front. A dollar or
percent sign that starts no marker is passed over together with the character after it. -/
def escapeMoreMarkers : List Char → List Char
  | '$' :: '{' :: cs => '$' :: '$' :: '{' :: escapeMoreMarkers cs
  | '%' :: '{' :: cs => '%' :: '%' :: '{' :: escapeMoreMarkers cs
  | '$' :: c :: cs => '$' :: c :: escapeMoreMarkers cs
  | '%' :: c :: cs => '%' :: c :: escapeMoreMarkers cs
  | c :: cs => c :: escapeMoreMarkers cs
  | [] => []

/-- **Doubles the markers** `${` and `%{` in a text. -/
def escapeMarkers : List Char → List Char
  | '$' :: '{' :: cs => '$' :: '$' :: '{' :: escapeMoreMarkers cs
  | '%' :: '{' :: cs => '%' :: '%' :: '{' :: escapeMoreMarkers cs
  | c :: cs => c :: escapeMarkers cs
  | [] => []

/-- Whether a character is a control character. -/
def isControl (c : Char) : Bool := c.toNat < 32 || (127 ≤ c.toNat && c.toNat < 160)

/-- The four hexadecimal digits of a number. -/
def fourDigits (n : Nat) : List Char :=
  let digits := (Nat.toDigits 16 n).map Char.toUpper
  List.replicate (4 - digits.length) '0' ++ digits

/-- A character as it is written between quotes. -/
def escapeChar (c : Char) : List Char :=
  match c with
  | '"' => ['\\', '"']
  | '\\' => ['\\', '\\']
  | '\n' => ['\\', 'n']
  | '\r' => ['\\', 'r']
  | '\t' => ['\\', 't']
  | '\x08' => ['\\', 'b']
  | '\x0c' => ['\\', 'f']
  | c => if isControl c then '\\' :: 'u' :: fourDigits c.toNat else [c]

/-- A text as it is written between quotes. -/
def escapeText (cs : List Char) : List Char := (escapeMarkers cs).flatMap escapeChar

/-! ### Writing -/

/-- The characters of a piece. -/
def Piece.chars (escaping : Bool) : Piece → List Char
  | mark cs | blank cs => cs
  | quotation cs => '"' :: escapeText cs ++ ['"']
  | literal cs => if escaping then escapeText cs else escapeMarkers cs
  | quote _ => ['"']

/-- Whether stretches after a piece are escaped. -/
def Piece.escapes (escaping : Bool) : Piece → Bool
  | quote opening => opening
  | _ => escaping

/-- The characters of a written form. -/
def Written.chars : Bool → Written → List Char
  | _, [] => []
  | escaping, piece :: rest =>
    piece.chars escaping ++ Written.chars (piece.escapes escaping) rest

/-- **The text of a written form** that stands on its own. -/
def Written.text (written : Written) : String := String.ofList (Written.chars false written)

/-- A written form without its blanks: two expressions are the same if these agree. -/
def Written.shape (written : Written) : Written :=
  written.filter fun
    | .blank _ => false
    | _ => true

end Balancer.Hcl
