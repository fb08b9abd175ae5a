import Balancer.Position

/-!
# Errors of a configuration text

What can be wrong with a text before its sections are given a meaning. The text may not be well
formed at all, it may use a feature of the language of expressions that has no place in a
configuration, or a construct may not have the shape it needs.
-/

namespace Balancer

/-- **What is not supported** although it is well formed. -/
inductive Feature where
  | topLevelBlock (name : String)
  | loopInside (kind : String)
  | nestedLoop
  | computedKey
  | function (name : String)
  | null
  | reference (name : String)
  | attributeAccess
  | operator
  | conditional
  | comprehension
deriving DecidableEq, Repr

/-- The name of a feature in messages. -/
def Feature.text : Feature → String
  | topLevelBlock name => s!"top level block `{name}`"
  | loopInside kind => s!"`for` inside `{kind}`"
  | nestedLoop => "nested `for`"
  | computedKey => "computed object key"
  | function name => s!"function `{name}`"
  | null => "null"
  | reference name => s!"reference `{name}` (write \"$" ++ "\x7b" ++ name ++ "\x7d\")"
  | attributeAccess => "attribute access"
  | operator => "operator outside `$\x7b...\x7d`"
  | conditional => "conditional expression"
  | comprehension => "for expression"

/-- **What is wrong with the shape** of a construct. -/
inductive Defect where
  | tooManyLabels
  | notOneLabel
  | listExpected
  | unknownLoopKey (key : String)
  | secondIterable
  | noIterable
  | labelsExpected
  | labelExpected
  | templatesExpected
  | templateNameExpected
  | twoBoundsExpected
  | rangeExpected
  | notRange (text : String)
  | variableNameExpected
  | tooManyArguments
deriving DecidableEq, Repr

/-- The text of a defect. -/
def Defect.text : Defect → String
  | tooManyLabels => "at most one label is allowed"
  | notOneLabel => "exactly one label is required"
  | listExpected => "`in` must be an array"
  | unknownLoopKey key => s!"unknown key `{key}`, expected `range` or `in`"
  | secondIterable => "more than one iterable"
  | noIterable => "`range` or `in` is required"
  | labelsExpected => "expected an array of strings"
  | labelExpected => "expected a string"
  | templatesExpected => "expected an array of template names"
  | templateNameExpected => "template names must be plain strings"
  | twoBoundsExpected => "`range` takes exactly two bounds"
  | rangeExpected => "`range` must be `[start, end]` or \"start..end\""
  | notRange text => s!"`{text}` is not a `start..end` range"
  | variableNameExpected => "the first argument must be a plain string"
  | tooManyArguments => "takes at most two arguments"

/-- **The errors of a configuration text.** -/
inductive ParseError where
  | notWellFormed
  | unsupported (feature : Feature) (position : Option Position)
  | invalid (construct : String) (defect : Defect) (position : Option Position)
deriving DecidableEq, Repr

/-- The text of the error. -/
def ParseError.message : ParseError → String
  | notWellFormed => "unable to parse hcl: the text is not well formed"
  | unsupported feature position => feature.text ++ " is not supported" ++ Position.suffix position
  | invalid construct defect position =>
    s!"invalid `{construct}`" ++ Position.suffix position ++ ": " ++ defect.text

end Balancer
