import Balancer.Expression.Token
import Balancer.Text.Search
import Balancer.Value

/-!
# Errors of normalisation

What can go wrong when variables are substituted, loops unrolled and templates spread.
-/

namespace Balancer

/-- **The errors of normalisation.** -/
inductive NormalizeError where
  | undefinedVariable (name : String)
  | variableCycle (chain : List String)
  | expression (source : String) (fault : Expression.Fault)
  | notInterpolatable (source kind : String)
  | invalidLoopBound (binder bound reason : String)
  | unknownTemplate (template server : String)
  | unknownTemplateParam (template param : String)
  | templateParam (template : String) (source : FieldError)
deriving DecidableEq, Repr

/-- The text of an error of normalisation. -/
def NormalizeError.message : NormalizeError → String
  | undefinedVariable name => s!"undefined variable `{name}`"
  | variableCycle chain => "variables reference each other: " ++ Text.join " -> " chain
  | expression source fault => s!"cannot evaluate `{source}`: {fault.message}"
  | notInterpolatable source kind => s!"`{source}` is a {kind} and cannot be written into text"
  | invalidLoopBound binder bound reason =>
    s!"invalid bound `{bound}` for loop variable `{binder}`: {reason}"
  | unknownTemplate template server => s!"server `{server}` uses unknown template `{template}`"
  | unknownTemplateParam template param =>
    s!"template `{template}` sets `{param}`, which is not a server parameter"
  | templateParam template source => s!"template `{template}`: {source.message}"

end Balancer
