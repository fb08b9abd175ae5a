import Balancer.Normal.Loops
import Balancer.Normal.Spreads

/-!
# Normal configurations

A configuration is brought to normal form in three steps: variables are resolved and substituted,
loops are unrolled, templates are taken over. What only served the design is dropped then.
-/

namespace Balancer

/-- **The normal form of a configuration.** -/
def Configuration.normalize (config : Configuration) : Except NormalizeError Configuration := do
  let config ← config.resolve
  let config ← config.unroll
  let config ← config.expandTemplates
  return { config with definitions := {}, templates := {} }

end Balancer
