import Balancer.Hcl.Expression

/-!
# Bodies

A body is a list of assignments and blocks, one to a line. A block has a name, labels and a body in
braces; a block on one line holds at most one assignment. No name is assigned twice in one body.
-/

namespace Balancer.Hcl

open Reader

/-- Whether no name is assigned twice. -/
def assignsOnce (structures : List Structure) : Bool :=
  decide (structures.filterMap Structure.assigned?).Nodup

/-- Reads what follows the name of an assignment. -/
def assignmentRest (name : String) (start : Nat) : Reader Structure := do
  char '='
  sp
  return .assignment name (← expression .line).value start

/-- Reads a label of a block and the blanks after it. -/
def label : Reader String := do
  let label ← identifier <|> plainQuoted
  sp
  return label

/-- Reads the body of a block on one line, after its opening brace. -/
def inlineBody : Reader (List Structure) := do
  sp
  if (← attempt (char '}')).isSome then return []
  let start ← left
  let name ← identifier
  sp
  let only ← assignmentRest name start
  sp
  char '}'
  return [only]

section Nested

variable (body : Reader (List Structure))

/-- Reads the body of a block, after its opening brace. -/
def blockBody : Reader (List Structure) :=
  (do
    sp
    let _ ← lineEnd
    let structures ← body
    char '}'
    return structures) <|> inlineBody

/-- Reads what follows the name of a block. -/
def blockRest (name : String) (start : Nat) : Reader Structure := do
  let labels ← many label
  char '{'
  return .block name labels (← blockBody body) start

/-- Reads a structure and the rest of its line. -/
def structureLine : Reader Structure := do
  ws
  let start ← left
  let name ← identifier
  sp
  let result ← assignmentRest name start <|> blockRest body name start
  sp
  let _ ← attempt lineComment
  discard lineEnding <|> atEnd
  return result

/-- Reads a body, given a reader for the bodies inside. -/
def bodyStep : Reader (List Structure) := do
  let structures ← many (structureLine body)
  ws
  guard (assignsOnce structures)
  return structures

end Nested

/-- Reads a body whose blocks are nested less deep than a bound. -/
def bodyWithin : Nat → Reader (List Structure)
  | 0 => failure
  | depth + 1 => bodyStep (bodyWithin depth)

/-- **The structures of a configuration text**, if it is well formed. -/
def read? (source : String) : Option (List Structure) := do
  let cs := source.toList
  let (structures, _) ← (bodyWithin (cs.length + 1) <* atEnd) cs
  return structures

end Balancer.Hcl
