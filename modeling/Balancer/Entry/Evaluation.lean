import Balancer.Document
import Balancer.Entry.Error

/-!
# Evaluation of expressions

An expression becomes a value as soon as the environment is known. Nothing else of the
surroundings enters a configuration.
-/

namespace Balancer

/-- **The environment**: names with their texts. -/
structure Environment where
  settings : List (String × String) := []
deriving Repr, Inhabited

/-- The text of a variable of the environment. -/
def Environment.get? (environment : Environment) (name : String) : Option String :=
  environment.settings.lookup name

mutual

/-- **The value of an expression.** The fallback of an environment variable is only evaluated
where the variable is not set. -/
def Expr.evaluate (environment : Environment) (position : Option Position) :
    Expr → Except BuildError Value
  | .literal value => .ok value
  | .array items => do return .array (← Expr.evaluateAll environment position items)
  | .object entries => do return .object (← Expr.evaluateEntries environment position entries)
  | .env name none =>
    match environment.get? name with
    | some text => .ok (.text text)
    | none => .error (.missingEnvironment name position)
  | .env name (some fallback) =>
    match environment.get? name with
    | some text => .ok (.text text)
    | none => fallback.evaluate environment position

/-- The values of the expressions, one after the other. -/
def Expr.evaluateAll (environment : Environment) (position : Option Position) :
    List Expr → Except BuildError (List Value)
  | [] => .ok []
  | item :: items => do
    let first ← item.evaluate environment position
    let rest ← Expr.evaluateAll environment position items
    return first :: rest

/-- The values of named expressions, one after the other. -/
def Expr.evaluateEntries (environment : Environment) (position : Option Position) :
    List (String × Expr) → Except BuildError (List (String × Value))
  | [] => .ok []
  | (key, item) :: entries => do
    let first ← item.evaluate environment position
    let rest ← Expr.evaluateEntries environment position entries
    return (key, first) :: rest

end

end Balancer
