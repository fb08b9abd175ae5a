import Balancer.Hcl.Number
import Balancer.Hcl.Template

/-!
# Expressions

An expression is a term, followed by any number of accesses, perhaps by an operator with the rest of
an operation, and perhaps by a conditional. The right side of an operator is an expression without a
conditional of its own, so that a conditional takes the whole operation as its condition.

A flag tells whether line breaks may stand between the parts of an expression, as they may inside
brackets. Lists, calls and comprehensions leave the flag set behind them: after a term of these
kinds the expression goes on in the next line if it can. Objects and parentheses do not.

Another flag tells whether a conditional may stand without parentheses. It is off on the right side
of an operator and, once an operator was read, in both branches of the conditional that follows.
Lists and calls hand it on to what is inside them; objects, parentheses and indices start afresh.

The readers of this module take the reader for the expressions inside as an argument, and
`expression` closes the knot with a bound on the depth of nesting.
-/

namespace Balancer.Hcl

open Balancer.Text Reader

/-! ### Objects -/

/-- The key that an expression before `=` or `:` stands for. -/
def Key.ofParsed (parsed : Parsed) : Key :=
  match parsed.value with
  | .name s => .name s
  | .text s => .text s
  | _ => .computed parsed.written.shape

/-- An entry of an object. -/
structure ObjectEntry where
  key : Key
  value : Expr
  written : Written

/-- The entries with one more. If its key is there already, it takes the place of the old entry. -/
def putEntry : List ObjectEntry → ObjectEntry → List ObjectEntry
  | [], new => [new]
  | entry :: rest, new => if entry.key = new.key then new :: rest else entry :: putEntry rest new

/-- The object with the given entries. -/
def Expr.ofEntries (entries : List ObjectEntry) : Expr :=
  .object (entries.map fun entry => (entry.key, entry.value))

/-! ### Terms -/

section Terms

variable (expr : Context → Reader Parsed)

/-- Reads the condition of a comprehension. -/
def filterClause (context : Context) : Reader Written :=
  inOrder [sign "if", spaced true (expr context)]

/-- Reads a comprehension that makes a list, after its opening bracket. -/
def listComprehension (context : Context) : Reader Written :=
  inOrder [space true, forIntro expr, sign ":", spaced true (expr context),
    optionally (filterClause expr context), sign "]"]

/-- Reads a comprehension that makes an object, after its opening brace. -/
def objectComprehension (context : Context) : Reader Written :=
  inOrder [space true, forIntro expr, sign ":", spaced true (expr .line), sign "=>",
    spaced true (expr .line), optionally (inOrder [sign "...", space true]),
    optionally (filterClause expr context), sign "\x7d"]

/-- Whether a comprehension follows: the word `for`, set apart from what comes after it. -/
def atComprehension : Reader Bool :=
  ahead do
    ws
    exactly ['f', 'o', 'r']
    satisfy fun c => isSpaceOrBreak c || c == '#' || c == '/'

/-- Reads items up to a closing bracket. Where `spreads` allows it, three dots may stand after the
last item. -/
def itemsUntil (context : Context) (closing : Char) (spreads : Bool) :
    Nat → Reader (List Expr × Written)
  | 0 => failure
  | fuel + 1 => do
    let before ← space true
    if (← attempt (char closing)).isSome then return ([], before ++ [.mark [closing]])
    let item ← expr context
    let read := before ++ item.written ++ (← space true)
    if (← attempt (char closing)).isSome then return ([item.value], read ++ [.mark [closing]])
    match ← attempt do guard spreads; sign "..." with
    | some dots =>
      let after ← space true
      char closing
      return ([item.value], read ++ dots ++ after ++ [.mark [closing]])
    | none =>
      char ','
      let (items, rest) ← itemsUntil context closing spreads fuel
      return (item.value :: items, read ++ .mark [','] :: rest)

/-- Reads a list. -/
def list (context : Context) : Reader Parsed := do
  let start ← sign "["
  if ← atComprehension then
    return { value := .comprehension, written := start ++ (← listComprehension expr context) }
  let (items, rest) ← itemsUntil expr context ']' false (← left)
  return { value := .array items, written := start ++ rest }

/-- Reads what ends an entry: a comma, the end of the line, or nothing before the closing brace. The
end of a line is written in one way only. -/
def entryEnd : Reader Written := do
  if ← ahead (char '}') then return []
  sign "," <|> do return [.blank (← lineEnd), .mark ['\n']]

/-- Reads an entry of an object. -/
def objectEntry (before : Written) : Reader ObjectEntry := do
  let key ← expr .line
  let middle ← inOrder [space false, sign "=" <|> sign ":", space false]
  let value ← expr .line
  let after ← inOrder [space false, entryEnd]
  return { key := .ofParsed key
           value := value.value
           written := before ++ key.written ++ middle ++ value.written ++ after }

/-- Reads the entries of an object up to its closing brace. -/
def entriesUntil (entries : List ObjectEntry) : Nat → Reader (List ObjectEntry × Written)
  | 0 => failure
  | fuel + 1 => do
    let before ← space true
    if (← attempt (char '}')).isSome then return (entries, before ++ [.mark ['}']])
    entriesUntil (putEntry entries (← objectEntry expr before)) fuel

/-- Reads an object. -/
def object (context : Context) : Reader Parsed := do
  let start ← sign "\x7b"
  if ← atComprehension then
    return { value := .comprehension, written := start ++ (← objectComprehension expr context) }
  let (entries, rest) ← entriesUntil expr [] (← left)
  return { value := .ofEntries entries
           written := start ++ entries.flatMap ObjectEntry.written ++ rest }

/-- Reads an expression in parentheses. -/
def parenthesis : Reader Parsed := do
  let start ← inOrder [sign "(", space true]
  let inner ← expr .enclosed
  let stop ← inOrder [space true, sign ")"]
  return { value := .parenthesis inner.value, written := start ++ inner.written ++ stop }

/-- Reads one more part of the name of a function, with what stands in front of it. -/
def nameSegment (breaks : Bool) : Reader (String × Written) := do
  let before ← inOrder [space breaks, sign "::", space breaks]
  let segment ← identifier
  return (segment, before ++ [.mark segment.toList])

/-- Reads a call after the first part of the name of the function. -/
def callRest (context : Context) (breaks : Bool) (word : String) : Reader Parsed := do
  let segments ← many (nameSegment breaks)
  let start ← inOrder [space breaks, sign "("]
  let (arguments, rest) ← itemsUntil expr context ')' true (← left)
  return { value := .call (join "::" (word :: segments.map Prod.fst)) arguments
           written := .mark word.toList :: segments.flatMap Prod.snd ++ start ++ rest }

/-- The expression that a single word stands for. -/
def Expr.ofWord : String → Expr
  | "true" => .boolean true
  | "false" => .boolean false
  | "null" => .null
  | word => .name word

/-- Reads a word or a call. -/
def named (context : Context) (breaks : Bool) : Reader Parsed := do
  let word ← identifier
  match ← attempt (callRest expr context breaks word) with
  | some call => return call
  | none => return { value := .ofWord word, written := [.mark word.toList] }

/-- Reads a number. -/
def numeral : Reader Parsed := do
  let (value, digits) ← consumed number
  return { value := .number value, written := [.mark digits] }

/-- Reads a term without an operator in front. -/
def operand (context : Context) : Reader Parsed := do
  let inside : Context := { context with breaks := true }
  match ← peek? with
  | some '"' => quoted expr
  | some '[' => list expr inside
  | some '{' => object expr inside
  | some '(' => parenthesis expr
  | some '<' => hereDocument expr
  | _ => numeral <|> named expr inside context.breaks

/-- Whether line breaks are allowed after an operand of this kind. -/
def Expr.opensLines : Expr → Bool
  | .array _ | .call _ _ | .comprehension => true
  | _ => false

/-- Reads a unary operator and the blanks after it. The minus sign of a number is none. -/
def unaryOperator : Reader (Char × List Char) := do
  guard !(← ahead number)
  let operator ← satisfy fun c => c == '-' || c == '!'
  return (operator, ← gap false)

/-- Reads a term, and whether line breaks are allowed after it. Of several unary operators only the
last one is kept, and the blanks after it go in front of it. -/
def term (context : Context) : Reader (Parsed × Bool) := do
  let operators ← many unaryOperator
  let operand ← operand expr context
  let opens := context.breaks || operand.value.opensLines
  match operators.getLast? with
  | none => return (operand, opens)
  | some (operator, lead) =>
    return ({ value := .operation, written := .mark [operator] :: operand.written, lead }, opens)

/-! ### Accesses, operations, conditionals -/

/-- Reads the number of an element after a point: a whole number without leading zeros. -/
def elementNumber : Reader Written := do
  let digits ← if (← peek?) = some '0' then symbol ['0'] else digits
  guard (natOfDigits digits ≤ maxWhole)
  return [.mark digits]

/-- Reads an access to an attribute or an element. -/
def access : Reader Written :=
  inOrder [sign ".", space true, sign "*" <|> elementNumber <|> name] <|>
    inOrder [sign "[", space true, sign "*" <|> Parsed.written <$> expr .enclosed, space true,
      sign "]"]

/-- Reads the accesses after a term. Only the blanks in front of the first one are kept. -/
def accesses (breaks : Bool) : Reader Written := do
  let first ← inOrder [space breaks, access expr]
  let more ← many (gap breaks *> access expr)
  return first ++ more.flatten

/-- The binary operators, longer ones first. -/
def binaryOperators : List String :=
  ["==", "!=", "<=", ">=", "&&", "||", "<", ">", "+", "-", "*", "/", "%"]

/-- Reads a binary operator. The start of a comment is none. -/
def binaryOperator : Reader Written := do
  guard !(← ahead (exactly ['/', '/'] <|> exactly ['/', '*']))
  binaryOperators.foldr (fun operator other => sign operator <|> other) failure

/-- Reads the rest of an operation after its first operand. -/
def operationRest (breaks : Bool) : Reader Written :=
  inOrder [space breaks, binaryOperator, space breaks,
    Parsed.written <$> expr { breaks, conditional := false }]

/-- Reads the rest of a conditional after its condition. -/
def conditionalRest (context : Context) : Reader Written :=
  let branch := Parsed.written <$> expr context
  inOrder [space context.breaks, sign "?", space context.breaks, branch, space context.breaks,
    sign ":", space context.breaks, branch]

/-- An expression with a rest that makes it another one. -/
def Parsed.extend (parsed : Parsed) (value : Expr) (rest : Option Written) : Parsed :=
  match rest with
  | none => parsed
  | some written => { value, written := parsed.full ++ written }

/-- Reads an expression, given a reader for the expressions inside. -/
def expressionStep (context : Context) : Reader Parsed := do
  let (term, breaks) ← term expr context
  let accessed := term.extend .traversal (← attempt (accesses expr breaks))
  let operation ← attempt (operationRest expr breaks)
  let joined := accessed.extend .operation operation
  let branches : Context := { breaks, conditional := operation.isNone }
  let conditional ← attempt do
    guard context.conditional
    conditionalRest expr branches
  return joined.extend .conditional conditional

end Terms

/-- Reads an expression that is nested less deep than a bound. -/
def expressionWithin : Nat → Context → Reader Parsed
  | 0, _ => failure
  | depth + 1, context => expressionStep (expressionWithin depth) context

/-- **Reads an expression.** -/
def expression (context : Context) : Reader Parsed := fun cs =>
  expressionWithin (cs.length + 1) context cs

end Balancer.Hcl
