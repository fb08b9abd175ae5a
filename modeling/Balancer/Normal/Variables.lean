import Balancer.Config.Strings
import Balancer.Interpolation

/-!
# Resolving variables

Variables may refer to one another in any order. Each is resolved when it is first asked for and
remembered; while it is being resolved it stands on a stack, and asking for a name on the stack is
a cycle. The stack never holds a name twice, so resolution goes no deeper than there are
variables, and that number bounds the recursion.

Once all variables are known, every text of the configuration is substituted.
-/

namespace Balancer

/-- The value of a variable in a scope. -/
def OrderedMap.lookupVariable (scope : OrderedMap Value) (name : String) :
    Except NormalizeError Value :=
  match scope.get? name with
  | some value => .ok value
  | none => .error (.undefinedVariable name)

namespace Resolver

/-- Computations that remember the variables resolved so far. -/
abbrev Memo : Type → Type := StateT (OrderedMap Value) (Except NormalizeError)

/-- The chain that closes a cycle: from where the name stands on the stack back to the name. -/
def cycle (stack : List String) (name : String) : List String :=
  stack.dropWhile (· != name) ++ [name]

/-- **The value of a variable**, resolved on demand. `depth` is how many more variables can be put
on the stack. -/
def get (declared : OrderedMap Value) : Nat → List String → String → Memo Value
  | depth, stack, name => do
    match (← StateT.get).get? name with
    | some value => return value
    | none =>
      match declared.get? name with
      | none => throw (.undefinedVariable name)
      | some value =>
        if stack.contains name then throw (.variableCycle (cycle stack name))
        else
          match depth with
          | 0 => throw (.variableCycle (cycle stack name))
          | depth + 1 =>
            let value ← interpolateValue (get declared depth (stack ++ [name])) value
            modify (·.insert name value)
            return value

/-- Asks for every declared variable in order. -/
def getAll (declared : OrderedMap Value) : Memo Unit :=
  declared.keys.forM fun name => discard (get declared declared.size [] name)

/-- **All variables with their values**, in the order of declaration. -/
def resolve (declared : OrderedMap Value) : Except NormalizeError (OrderedMap Value) := do
  let (_, resolved) ← (getAll declared).run {}
  return declared.withValues (declared.entries.map fun (name, value) =>
    (resolved.get? name).getD value)

end Resolver

/-- **The configuration with its variables resolved and put into every text.** Loops and templates
are left alone; they are evaluated later, against a wider scope. -/
def Configuration.resolve (config : Configuration) : Except NormalizeError Configuration := do
  let definitions ← Resolver.resolve config.definitions
  let config ← Strings.traverse (interpolate definitions.lookupVariable) config
  return { config with definitions }

end Balancer
