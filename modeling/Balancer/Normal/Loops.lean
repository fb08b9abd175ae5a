import Balancer.Normal.Variables

/-!
# Unrolling loops

A loop over servers is replaced by the servers it stands for: for each value of the loop variable,
in order, one copy of each server of the body with its texts substituted. They follow the servers
that are written out.
-/

namespace Balancer

/-! ### The values of a loop -/

/-- The integers from `start` to `stop`, ends included; none where `stop` is the smaller one. -/
def integersBetween (start stop : Int64) : List Int64 :=
  (List.range (stop.toInt - start.toInt + 1).toNat).map fun (k : Nat) =>
    Int64.ofInt (start.toInt + (k : Int))

/-- The integer that an evaluated bound stands for, or why it stands for none. -/
def Bound.read : Value → Except String Int64
  | .integer n => .ok n
  | .text s =>
    match Text.readInteger? (Text.trim s) with
    | some n => .ok n
    | none => .error s!"`{s}` is not an integer"
  | other => .error s!"evaluates to a {other.kind}"

/-- The integer that a bound of a loop stands for. -/
def Bound.evaluate (globals : OrderedMap Value) (binder : String) :
    Bound → Except NormalizeError Int64
  | .integer n => .ok n
  | .expr source =>
    let result :=
      match interpolateValue globals.lookupVariable (.text source) with
      | .ok value => Bound.read value
      | .error e => .error e.message
    match result with
    | .ok n => .ok n
    | .error reason => .error (.invalidLoopBound binder source reason)

/-- **The values of the loop variable**, in order. -/
def ServerLoop.values (globals : OrderedMap Value) (loop : ServerLoop) :
    Except NormalizeError (List Value) :=
  match loop.iterable with
  | .range start stop => do
    let first ← start.evaluate globals loop.binder
    let last ← stop.evaluate globals loop.binder
    return (integersBetween first last).map .integer
  | .list items => items.mapM (interpolateValue globals.lookupVariable)

/-! ### The servers of a loop -/

/-- The value of a name inside a loop, where the loop variable hides a variable of its name. -/
def lookupInLoop (globals : OrderedMap Value) (binder : String) (value : Value) (name : String) :
    Except NormalizeError Value :=
  if name = binder then .ok value else globals.lookupVariable name

/-- A copy of a server for one value of the loop variable. -/
def Server.instantiate (globals : OrderedMap Value) (binder : String) (server : Server)
    (value : Value) : Except NormalizeError Server :=
  Strings.traverse (interpolate (lookupInLoop globals binder value)) server

/-- **The servers that a loop stands for.** -/
def ServerLoop.servers (globals : OrderedMap Value) (loop : ServerLoop) :
    Except NormalizeError (List Server) := do
  let values ← loop.values globals
  let rounds ← values.mapM fun value =>
    loop.body.mapM fun server => server.instantiate globals loop.binder value
  return rounds.flatten

/-- The pool with the servers of its loops after its own. -/
def Pool.unroll (globals : OrderedMap Value) (pool : Pool) : Except NormalizeError Pool := do
  let generated ← pool.loops.mapM (ServerLoop.servers globals)
  return { pool with servers := pool.servers ++ generated.flatten, loops := [] }

/-- **The configuration with its loops unrolled.** -/
def Configuration.unroll (config : Configuration) : Except NormalizeError Configuration :=
  config.mapPoolsM (Pool.unroll config.definitions)

end Balancer
