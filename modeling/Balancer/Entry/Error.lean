import Balancer.Position
import Balancer.Value

/-!
# Errors of assembly

What can be wrong with a document that is well formed as a text: a directive nobody knows, one in
the wrong place, a key or a label that is missing or too many, a value of the wrong kind. Each
error names its cause and, where it is known, the place; the wording stands in one function,
`BuildError.message`.
-/

namespace Balancer

/-- **Where a directive is not allowed**: inside an object, in a section, or in a loop. -/
inductive Place where
  | object (kind : String)
  | zone (kind : String) (name : Option String)
  | loop
deriving DecidableEq, Repr

/-- The name of a place in a message. -/
def Place.text : Place → String
  | object kind => s!"`{kind}`"
  | zone kind (some name) => s!"{kind} `{name}`"
  | zone kind none => s!"`{kind}`"
  | loop => "a `for` loop"

/-- **What a directive requires** and does not have. -/
inductive Need where
  | label (what : String)
  | key (key : String)
  | zoneName
  | serverName
  | stemLabel
  | cookieLabel
  | pageTarget
  | scriptBody
  | databaseUser
deriving DecidableEq, Repr

/-- The name of a requirement in a message. -/
def Need.text : Need → String
  | label what => s!"a {what} label"
  | key name => s!"`{name}`"
  | zoneName => "a name"
  | serverName => "exactly one name label or `name`"
  | stemLabel => "exactly one prefix label"
  | cookieLabel => "exactly one cookie name label"
  | pageTarget => "`file` or `location`"
  | scriptBody => "`path` or `source`"
  | databaseUser => "`user` for database checks"

/-- **What makes a directive invalid** although all its fields have the right kind. -/
inductive Fault where
  | labelCount (what : String)
  | takesNoLabels
  | takesNoName
  | unknownRedirect (kind : String)
  | unknownStickRule (kind : String)
  | redirectCode (code : Nat)
  | fileAndLocation
  | codeWithoutLocation
  | minLevelWithoutLevel
  | nameTwice
  | unknownCheck (kind : String)
  | unknownMode (mode : String)
  | secondStickTable
  | templateTarget (kind : String)
  | scriptKind (kind : String)
  | spreadOutsideServer
deriving DecidableEq, Repr

/-- The text of a fault. -/
def Fault.text : Fault → String
  | labelCount what => s!"expects exactly one {what} label"
  | takesNoLabels => "takes no labels"
  | takesNoName => "takes no name"
  | unknownRedirect kind =>
    s!"unknown redirect kind `{kind}`, expected location, prefix or scheme"
  | unknownStickRule kind =>
    s!"unknown stick rule `{kind}`, expected match, on, store_request or store_response"
  | redirectCode code => s!"redirect code {Text.natText code} is not 302 or 303"
  | fileAndLocation => "`file` and `location` conflict"
  | codeWithoutLocation => "`code` only applies to `location`"
  | minLevelWithoutLevel => "`min_level` requires `level`"
  | nameTwice => "takes a name label or `name`, not both"
  | unknownCheck kind => s!"unknown check type `{kind}`"
  | unknownMode mode => s!"unknown mode `{mode}`"
  | secondStickTable => "declares more than one stick table"
  | templateTarget kind => s!"templates cannot target `{kind}`"
  | scriptKind kind => s!"unsupported script kind `{kind}`"
  | spreadOutsideServer => "only servers accept template spreads"

/-- **The errors of assembly**, each with the place it was found at. -/
inductive BuildError where
  | unknownDirective (directive : String) (position : Option Position)
  | misplaced (directive : String) (place : Place) (position : Option Position)
  | unknownKey (key directive : String) (position : Option Position)
  | missing (directive : String) (need : Need) (position : Option Position)
  | field (directive : String) (source : FieldError) (position : Option Position)
  | invalid (directive : String) (fault : Fault) (position : Option Position)
  | duplicateSection (kind : String) (position : Option Position)
  | missingEnvironment (name : String) (position : Option Position)
deriving DecidableEq, Repr

namespace BuildError

/-- Where the error was found. -/
def position : BuildError → Option Position
  | unknownDirective _ position => position
  | misplaced _ _ position => position
  | unknownKey _ _ position => position
  | missing _ _ position => position
  | field _ _ position => position
  | invalid _ _ position => position
  | duplicateSection _ position => position
  | missingEnvironment _ position => position

/-- The text of the error. -/
def message (error : BuildError) : String :=
  let place := Position.suffix error.position
  match error with
  | unknownDirective directive _ => s!"unknown directive `{directive}`{place}"
  | misplaced directive site _ => s!"`{directive}` is not allowed in {site.text}{place}"
  | unknownKey key directive _ => s!"unknown key `{key}` in `{directive}`{place}"
  | missing directive need _ => s!"`{directive}` requires {need.text}{place}"
  | field directive source _ => s!"invalid `{directive}`{place}: {source.message}"
  | invalid directive fault _ => s!"invalid `{directive}`{place}: {fault.text}"
  | duplicateSection kind _ => s!"section `{kind}` declared more than once{place}"
  | missingEnvironment name _ =>
    s!"environment variable `{name}` is not set and has no default{place}"

end BuildError

end Balancer
