import Balancer.Hcl.Reader
import Balancer.Hcl.Tree

/-!
# Texts and templates

A quoted text holds characters and escapes, and it may hold interpolations, `${…}`, and directives,
`%{…}`. A here document holds the same without escapes, and ends at a line that starts with its
delimiter. Both are read as a list of elements: stretches of text, decoded, and what stands between
the braces, as a written form.

A stretch ends early at an escape that means nothing. If something was read before it, the escape is
skipped, and what follows it is a stretch of its own; otherwise the text is not well formed.

The stretches that a directive governs have no escapes and no end but the next directive, wherever
the directive stands.
-/

namespace Balancer.Hcl

open Balancer.Text Reader

/-! ### Pieces -/

/-- Reads a sign or a word. -/
def sign (s : String) : Reader Written := do
  return [.mark (← symbol s.toList)]

/-- Reads a name. -/
def name : Reader Written := do
  return [.mark (← identifier).toList]

/-- Reads what may stand between two words. -/
def space (breaks : Bool) : Reader Written := do
  return [.blank (← gap breaks)]

/-- Reads one part after the other. -/
def inOrder (parts : List (Reader Written)) : Reader Written :=
  parts.foldr (fun part rest => do return (← part) ++ (← rest)) (pure [])

/-- Reads a part if it is there. -/
def optionally (part : Reader Written) : Reader Written := do
  return (← attempt part).getD []

/-- The written form of what a reader reads, between blanks that replace its own. -/
def spaced (breaks : Bool) (inner : Reader Parsed) : Reader Written :=
  inOrder [space breaks, Parsed.written <$> inner, space breaks]

/-! ### Where expressions stand -/

/-- **What the surroundings of an expression allow** besides its terms. -/
structure Context where
  /-- Line breaks between the parts of the expression. -/
  breaks : Bool
  /-- A conditional that is not in parentheses. -/
  conditional : Bool

/-- An expression that ends with the line. -/
def Context.line : Context := ⟨false, true⟩

/-- An expression between brackets of its own. -/
def Context.enclosed : Context := ⟨true, true⟩

/-! ### Elements -/

/-- **An element** of a template. A tag is an interpolation, or a directive with the stretches it
governs. -/
inductive Element where
  | literal (cs : List Char)
  | tag (written : Written)

/-- The written form of an element. -/
def Element.written : Element → Written
  | literal cs => [.literal cs]
  | tag written => written

/-- The written form of elements. -/
def writtenElements (elements : List Element) : Written := elements.flatMap Element.written

/-! ### Escapes -/

/-- Reads so many hexadecimal digits. -/
def hexDigits : Nat → Nat → Reader Nat
  | 0, n => pure n
  | count + 1, n => do
    let c ← satisfy fun _ => true
    match hexDigit? c with
    | some d => hexDigits count (16 * n + d)
    | none => failure

/-- The character with a given code, if there is one. -/
def charOf? (n : Nat) : Option Char :=
  if h : n.isValidChar then some (Char.ofNatAux n h) else none

/-- Reads an escape. -/
def escape : Reader Char := do
  char '\\'
  let c ← satisfy fun _ => true
  match c with
  | 'n' => return '\n'
  | 'r' => return '\r'
  | 't' => return '\t'
  | '\\' => return '\\'
  | '"' => return '"'
  | '/' => return '/'
  | 'b' => return '\x08'
  | 'f' => return '\x0c'
  | 'u' => StateT.lift (charOf? (← hexDigits 4 0))
  | 'U' => StateT.lift (charOf? (← hexDigits 8 0))
  | _ => failure

/-- Skips a backslash and the character after it, which is one of ASCII. -/
def skipEscape : Reader Unit := do
  char '\\'
  let _ ← satisfy fun c => c.toNat < 128

/-! ### Stretches of text -/

/-- What a stretch of text stands in. -/
inductive Frame where
  | quoted
  | hereDocument (delimiter : String)
  | directive

/-- Reads the end of the last line of a here document, and the delimiter. -/
def delimiterLine (delimiter : String) : Reader Unit := do
  let _ ← lineEnding
  let _ ← takeWhile isSpace
  exactly delimiter.toList

/-- Succeeds where a frame ends or has an escape. -/
def Frame.interrupts : Frame → Reader Unit
  | quoted => char '"' <|> char '\\'
  | hereDocument delimiter => delimiterLine delimiter
  | directive => failure

/-- Reads a marker that is doubled and so stands for itself. -/
def escapedMarker : Reader (List Char) :=
  (exactly ['$', '$', '{'] *> pure ['$', '{']) <|> (exactly ['%', '%', '{'] *> pure ['%', '{'])

/-- Reads the start of an interpolation or of a directive. -/
def marker : Reader Unit := exactly ['$', '{'] <|> exactly ['%', '{']

/-- Reads a character that stands for itself. -/
def plainChar (frame : Frame) : Reader (List Char) := do
  guard !(← ahead (marker <|> frame.interrupts))
  return [← satisfy fun _ => true]

/-- Reads an escape where the frame has escapes. -/
def Frame.escape : Frame → Reader (List Char)
  | quoted => do return [← Hcl.escape]
  | _ => failure

/-- Reads one character of a stretch, or one marker. -/
def fragment (frame : Frame) : Reader (List Char) :=
  escapedMarker <|> plainChar frame <|> frame.escape

/-- **Reads a stretch of text**, which is not empty. An escape that means nothing ends it and is
skipped. -/
def stretch (frame : Frame) : Reader (List Char) := do
  let first ← fragment frame
  let rest ← many (fragment frame)
  match frame with
  | .quoted => let _ ← attempt skipEscape
  | _ => pure ()
  return first ++ rest.flatten

/-- **Reads a quoted text without interpolations.** -/
def plainQuoted : Reader String := do
  char '"'
  let text ← attempt (stretch .quoted)
  char '"'
  return String.ofList (text.getD [])

/-! ### Interpolations and directives -/

section Elements

variable (expr : Context → Reader Parsed)

/-- Reads the opening of a directive or an interpolation. -/
def openTag (start : String) : Reader Written := inOrder [sign start, optionally (sign "~")]

/-- Reads the closing of a directive or an interpolation. -/
def closeTag : Reader Written := inOrder [optionally (sign "~"), sign "\x7d"]

/-- **Reads an interpolation.** -/
def interpolation : Reader Written :=
  inOrder [openTag "$\x7b", spaced true (expr .enclosed), closeTag]

/-- Reads the directive that opens a conditional stretch. -/
def ifTag : Reader Written :=
  inOrder [openTag "%\x7b", space true, sign "if", spaced true (expr .line), closeTag]

/-- Reads the variables of a comprehension or of a repeated stretch, and what they run over. The
words around them need no blanks. -/
def forIntro : Reader Written :=
  inOrder [sign "for", space true, name, space true,
    optionally (inOrder [sign ",", space true, name, space true]),
    sign "in", spaced true (expr .line)]

/-- Reads the directive that opens a repeated stretch. -/
def forTag : Reader Written := inOrder [openTag "%\x7b", space true, forIntro expr, closeTag]

/-- Reads a directive that is only a word. -/
def wordTag (word : String) : Reader Written :=
  inOrder [openTag "%\x7b", space true, sign word, space true, closeTag]

mutual

/-- Reads the elements of a template, as many as there are. -/
def elements (frame : Frame) : Nat → Reader (List Element)
  | 0 => failure
  | fuel + 1 => do
    match ← attempt (.literal <$> stretch frame <|> .tag <$> interpolation expr <|>
        .tag <$> directive fuel) with
    | some first => return first :: (← elements frame fuel)
    | none => return []

/-- Reads a directive with the stretches it governs. -/
def directive : Nat → Reader Written
  | 0 => failure
  | fuel + 1 => do
    let governed : Reader Written := writtenElements <$> elements .directive fuel
    inOrder [ifTag expr, governed, optionally (inOrder [wordTag "else", governed]),
        wordTag "endif"] <|>
      inOrder [forTag expr, governed, wordTag "endfor"]

end

/-- Reads the elements of a template. -/
def template (frame : Frame) : Reader (List Element) := do
  elements expr frame ((← left) + 1)

/-- **Reads a quoted text.** -/
def quoted : Reader Parsed := do
  match ← attempt plainQuoted with
  | some text => return { value := .text text, written := [.quotation text.toList] }
  | none =>
    char '"'
    let written := writtenElements (← template expr .quoted)
    char '"'
    return { value := .template written.text
             written := .quote true :: written ++ [.quote false] }

end Elements

/-! ### Indentation -/

/-- A line without the carriage return at its end. -/
def dropReturn (line : List Char) : List Char :=
  if line.getLast? = some '\r' then line.dropLast else line

/-- The lines of a stretch, without their ends. The last line has no end. -/
def linesOf (cs : List Char) : List (List Char) :=
  let lines := splitChar '\n' cs
  lines.dropLast.map dropReturn ++ lines.getLast?.toList

/-- A stretch with its lines changed, except for a first line that does not start in it. All lines
end alike then. -/
def mapLines (change : List Char → List Char) (startsLine : Bool) (cs : List Char) : List Char :=
  match linesOf cs with
  | [] => []
  | first :: rest =>
    (((if startsLine then change first else first) :: rest.map change).intersperse ['\n']).flatten

/-- The least number of blanks at the start of the lines of a stretch, which must not be zero.
Empty lines do not count. -/
def stretchIndent? (startsLine : Bool) (cs : List Char) : Option Nat :=
  let lines := if startsLine then linesOf cs else (linesOf cs).drop 1
  let widths := (lines.filter fun line => !line.isEmpty).map fun line =>
    (line.takeWhile Text.isBlank).length
  if widths.contains 0 then none else widths.min?

/-- The indentations that count: those of the stretches that have one, and zero for every tag that
starts a line. -/
def indentations (startsLine : Bool) : List Element → List Nat
  | [] => []
  | .literal cs :: rest =>
    (stretchIndent? startsLine cs).toList ++ indentations (cs.getLast? == some '\n') rest
  | .tag _ :: rest => (if startsLine then [0] else []) ++ indentations false rest

/-- The indentation that the elements of a here document have in common. -/
def commonIndent (elements : List Element) : Nat := (indentations true elements).min?.getD 0

/-- An element with the lines of a stretch changed. -/
def Element.mapLines (change : List Char → List Char) (startsLine : Bool) : Element → Element
  | literal cs => literal (Hcl.mapLines change startsLine cs)
  | tag written => tag written

/-- The elements of a here document with their lines changed. -/
def changeLines (change : List Char → List Char) : List Element → List Element
  | [] => []
  | first :: rest => first.mapLines change true :: rest.map (Element.mapLines change false)

/-- **The elements without an indentation.** As many characters are taken off every line, blanks or
not. -/
def dedent (indent : Nat) (elements : List Element) : List Element :=
  if indent = 0 then elements else changeLines (List.drop indent) elements

/-- The elements with an indentation. Empty lines get none. -/
def reindent (indent : Nat) (elements : List Element) : List Element :=
  if indent = 0 then elements
  else changeLines
    (fun line => if line.isEmpty then line else List.replicate indent ' ' ++ line) elements

/-! ### Here documents -/

/-- The elements with the end of the last line added to the last stretch. -/
def endLine (ending : List Char) : List Element → List Element
  | [] => [.literal ending]
  | [.literal cs] => [.literal (cs ++ ending)]
  | first :: rest => first :: endLine ending rest

/-- Reads the lines of a here document up to its delimiter. Without a line that ends before a
delimiter the document is empty. -/
def hereLines (expr : Context → Reader Parsed) (delimiter : String) : Reader (List Element) := do
  let lines ← attempt do
    let elements ← template expr (.hereDocument delimiter)
    return endLine (← lineEnding) elements
  return lines.getD []

/-- **Reads a here document.** It is a template even where it holds no interpolation. -/
def hereDocument (expr : Context → Reader Parsed) : Reader Parsed := do
  exactly ['<', '<']
  let strip ← attempt (char '-')
  let delimiter ← identifier
  let _ ← lineEnding
  let elements ← hereLines expr delimiter
  let margin ← takeWhile isSpace
  exactly delimiter.toList
  let indent := if strip.isSome then commonIndent elements else 0
  let lines := dedent indent elements
  let start := (if strip.isSome then ['<', '<', '-'] else ['<', '<']) ++ delimiter.toList ++ ['\n']
  return { value := .template (writtenElements lines).text
           written := .mark start :: writtenElements (reindent indent lines) ++
             [.mark (margin ++ delimiter.toList)] }

end Balancer.Hcl
