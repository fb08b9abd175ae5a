import Balancer.Config.Directive
import Balancer.Layout.Line

/-!
# Rule lines

Each family of rules spells its actions in its own way. Rules on HTTP write every underscore of an
action as a dash. Rules on TCP first split off the name of the rule set that the action starts
with. Checks write the action as it stands.
-/

namespace Balancer

open Layout Text

/-- The rule sets that the action of a TCP rule can start with. -/
def tcpRulesets : List String := ["connection", "content", "session", "inspect"]

/-- The parameters that are written without their names. -/
def positionalParams : List String := ["name", "value", "fmt", "expr", "key"]

/-- The text with dashes for its underscores. -/
def dashed (s : String) : String := replaceChar '_' ['-'] s

/-- What follows the name of a rule set and an underscore at the front of an action. -/
def afterRuleset? (action ruleset : String) : Option String :=
  (stripFront? (ruleset.toList ++ ['_']) action.toList).map String.ofList

/-- The action of a TCP rule. -/
def tcpAction (action : String) : String :=
  let split := tcpRulesets.findSome? fun ruleset =>
    (afterRuleset? action ruleset).map fun rest => ruleset ++ " " ++ dashed rest
  split.getD (dashed action)

/-- **An action as its family spells it.** -/
def RuleKind.action (action : String) : RuleKind → String
  | httpRequest | httpResponse | httpAfterResponse => dashed action
  | tcpRequest | tcpResponse => tcpAction action
  | httpCheck | tcpCheck => action

/-- The words of a parameter. -/
def paramWords : String × String → Line
  | (key, value) => if positionalParams.contains key then [quote value] else [key, quote value]

/-- **The line of a rule.** -/
def Rule.line (rule : Rule) : Line :=
  [rule.kind.keyword, rule.kind.action rule.action] ++ rule.params.entries.flatMap paramWords ++
    Layout.condition rule.condition

end Balancer
