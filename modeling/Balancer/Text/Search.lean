/-!
# Looking for one text inside another

Everything here works on lists of characters, so that each operation is a recursion on the text
itself and can be followed by the kernel.
-/

namespace Balancer.Text

/-! ### A text at the front of another -/

/-- What follows `pattern` when the characters start with it. -/
def stripFront? : List Char → List Char → Option (List Char)
  | [], cs => some cs
  | _ :: _, [] => none
  | p :: ps, c :: cs => if p = c then stripFront? ps cs else none

/-- Whether `s` starts with `pattern`. -/
def startsWith (s pattern : String) : Bool :=
  (stripFront? pattern.toList s.toList).isSome

/-- Whether `s` ends with `pattern`. -/
def endsWith (s pattern : String) : Bool :=
  (stripFront? pattern.toList.reverse s.toList.reverse).isSome

/-! ### The first occurrence -/

/-- What stands before and after the first occurrence of `pattern`. -/
def splitFirst? (pattern : List Char) : List Char → Option (List Char × List Char)
  | [] => if pattern = [] then some ([], []) else none
  | c :: cs =>
    match stripFront? pattern (c :: cs) with
    | some rest => some ([], rest)
    | none => (splitFirst? pattern cs).map fun (before, rest) => (c :: before, rest)

/-- The texts before and after the first occurrence of `pattern`. -/
def splitOnce? (s pattern : String) : Option (String × String) :=
  (splitFirst? pattern.toList s.toList).map fun (before, rest) =>
    (String.ofList before, String.ofList rest)

/-- Whether `pattern` occurs in the characters. -/
def occursIn (pattern cs : List Char) : Bool :=
  (splitFirst? pattern cs).isSome

/-! ### Single characters -/

/-- The pieces between the occurrences of a character, empty ones included. -/
def splitChar (sep : Char) : List Char → List (List Char)
  | [] => [[]]
  | c :: cs =>
    if c = sep then [] :: splitChar sep cs
    else
      match splitChar sep cs with
      | [] => [[c]]
      | piece :: pieces => (c :: piece) :: pieces

/-- The text with every `old` written as `new`. -/
def replaceChar (old : Char) (new : List Char) (s : String) : String :=
  String.ofList (s.toList.flatMap fun c => if c = old then new else [c])

/-! ### Joining -/

/-- The texts one after the other with `sep` between them. -/
def join (sep : String) : List String → String
  | [] => ""
  | [s] => s
  | s :: t :: rest => s ++ sep ++ join sep (t :: rest)

end Balancer.Text
