import Balancer.Text.Search

/-!
# The arguments of the command line

The commands form a small tree: `compile` and `check` are commands of their own, `tree` and `ir`
are commands of `dev`. Options follow the command they belong to. Only `-C` may stand anywhere; if
it is given at several levels of the tree, the deepest level counts and the others are forgotten.

Arguments are cut into words first: an option carries its value with it, however the two are
written. A second pass walks the tree of commands and collects the options.
-/

namespace Balancer

open Balancer.Text

/-! ### Invocations -/

/-- Where the configuration comes from. With nothing chosen it is the standard input. -/
structure Input where
  workdir : Bool := false
  files : List String := []
  directories : List String := []
deriving DecidableEq, Repr

/-- Whether nothing is chosen. -/
def Input.isStandard (input : Input) : Bool :=
  !input.workdir && input.files.isEmpty && input.directories.isEmpty

/-- One more file. -/
def Input.addFile (input : Input) (path : String) : Input :=
  { input with files := input.files ++ [path] }

/-- One more directory. -/
def Input.addDirectory (input : Input) (path : String) : Input :=
  { input with directories := input.directories ++ [path] }

/-- The formats of views. -/
inductive Format where
  | json
  | yaml
deriving DecidableEq, Repr

/-- **A command** with its options. -/
inductive Command where
  | compile (input : Input) (output : Option String) (validate : Bool)
  | check (input : Input)
  | tree (input : Input) (format : Format)
  | ir (input : Input) (format : Format)
deriving DecidableEq, Repr

/-- Where the configuration of a command comes from. -/
def Command.input : Command → Input
  | compile input _ _ | check input | tree input _ | ir input _ => input

/-- **An invocation**: the directories to change to, one after the other, and the command. -/
structure Invocation where
  directories : List String
  command : Command
deriving DecidableEq, Repr

/-- **The errors of usage.** -/
inductive UsageError where
  | unexpected (argument : String)
  | valueMissing (argument : String)
  | badValue (value : String)
  | repeated (option : String)
  | commandMissing
deriving DecidableEq, Repr

/-- The text of an error of usage. -/
def UsageError.message : UsageError → String
  | unexpected argument => s!"error: unexpected argument `{argument}`"
  | valueMissing argument => s!"error: `{argument}` requires a value"
  | badValue value => s!"error: invalid value `{value}`"
  | repeated option => s!"error: `--{option}` is given more than once"
  | commandMissing => "error: expected one of the commands compile, check, dev tree, dev ir"

namespace Arguments

/-! ### Words -/

/-- The options. -/
inductive Flag where
  | directory
  | workdir
  | file
  | fileDirectory
  | output
  | noValidate
  | format
deriving DecidableEq, Repr

namespace Flag

/-- Whether an option has a value. -/
def takesValue : Flag → Bool
  | workdir | noValidate => false
  | _ => true

/-- The option of a letter. -/
def ofShort? : Char → Option Flag
  | 'C' => some directory
  | 'w' => some workdir
  | 'f' => some file
  | 'd' => some fileDirectory
  | 'o' => some output
  | 'F' => some format
  | _ => none

/-- All options. -/
def all : List Flag := [directory, workdir, file, fileDirectory, output, noValidate, format]

/-- The long name of an option. -/
def name : Flag → String
  | directory => "directory"
  | workdir => "input-workdir"
  | file => "input-file"
  | fileDirectory => "input-dir"
  | output => "output"
  | noValidate => "no-validate"
  | format => "output-format"

/-- The option with a given long name. -/
def ofLong? (name : String) : Option Flag := all.find? fun flag => flag.name = name

end Flag

/-- **A word**: the name of a command, or an option with its value. -/
inductive Word where
  | command (name : String)
  | switch (flag : Flag)
  | option (flag : Flag) (value : String)

/-- The words of an argument, and an option whose value is the next argument. -/
structure Cut where
  words : List Word
  pending : Option Flag := none

/-- A value as it stands after a letter, perhaps behind an equals sign. -/
def attachedValue : List Char → String
  | '=' :: cs => String.ofList cs
  | cs => String.ofList cs

/-- The words of letters behind one dash. -/
def cutLetters (argument : String) : List Char → Except UsageError Cut
  | [] => .ok ⟨[], none⟩
  | c :: cs =>
    match Flag.ofShort? c with
    | none => .error (.unexpected argument)
    | some flag =>
      if !flag.takesValue then do
        let rest ← cutLetters argument cs
        return ⟨.switch flag :: rest.words, rest.pending⟩
      else if cs.isEmpty then .ok ⟨[], some flag⟩
      else .ok ⟨[.option flag (attachedValue cs)], none⟩

/-- The words of a long option. -/
def cutLong (argument name : String) : Except UsageError Cut :=
  match splitOnce? name "=" with
  | some (name, value) =>
    match Flag.ofLong? name with
    | some flag =>
      if flag.takesValue then .ok ⟨[.option flag value], none⟩ else .error (.unexpected argument)
    | none => .error (.unexpected argument)
  | none =>
    match Flag.ofLong? name with
    | some flag =>
      if flag.takesValue then .ok ⟨[], some flag⟩ else .ok ⟨[.switch flag], none⟩
    | none => .error (.unexpected argument)

/-- The words of an argument. -/
def cutArgument (argument : String) : Except UsageError Cut :=
  match argument.toList with
  | '-' :: '-' :: cs => cutLong argument (String.ofList cs)
  | '-' :: c :: cs => cutLetters argument (c :: cs)
  | _ => .ok ⟨[.command argument], none⟩

/-- Whether an argument can be the value of the option before it. -/
def isValue (argument : String) : Bool := argument = "-" || !startsWith argument "-"

/-- **The words of the arguments.** -/
def wordsOf : List String → Except UsageError (List Word)
  | [] => .ok []
  | argument :: arguments => do
    let cut ← cutArgument argument
    match cut.pending, arguments with
    | none, arguments => return cut.words ++ (← wordsOf arguments)
    | some _, [] => .error (.valueMissing argument)
    | some flag, value :: arguments =>
      if isValue value then return cut.words ++ .option flag value :: (← wordsOf arguments)
      else .error (.valueMissing argument)

/-! ### The tree of commands -/

/-- **A place in the tree of commands.** -/
inductive Level where
  | top
  | compile
  | check
  | dev
  | tree
  | ir
deriving DecidableEq, Repr

namespace Level

/-- The place below this one with a given name. -/
def enter? : Level → String → Option Level
  | top, "compile" => some compile
  | top, "check" => some check
  | top, "dev" => some dev
  | dev, "tree" => some tree
  | dev, "ir" => some ir
  | _, _ => none

/-- The number of names that lead to a place. -/
def depth : Level → Nat
  | top => 0
  | compile | check | dev => 1
  | tree | ir => 2

/-- Whether an option may stand at a place. -/
def accepts : Level → Flag → Bool
  | _, .directory => true
  | compile, flag => flag != .format
  | check, flag => flag == .workdir || flag == .file || flag == .fileDirectory
  | tree, flag | ir, flag => flag != .output && flag != .noValidate
  | _, _ => false

end Level

/-- What has been collected on the way through the tree. -/
structure Draft where
  level : Level := .top
  directories : List (Nat × String) := []
  input : Input := {}
  output : Option String := none
  noValidate : Bool := false
  format : Option Format := none

namespace Draft

/-- The draft with a switch. -/
def addSwitch (draft : Draft) : Flag → Except UsageError Draft
  | .workdir =>
    if draft.input.workdir then .error (.repeated Flag.workdir.name)
    else .ok { draft with input := { draft.input with workdir := true } }
  | .noValidate =>
    if draft.noValidate then .error (.repeated Flag.noValidate.name)
    else .ok { draft with noValidate := true }
  | _ => .ok draft

/-- The draft with a format. -/
def addFormat (draft : Draft) (value : String) : Except UsageError Draft :=
  match draft.format, value with
  | some _, _ => .error (.repeated Flag.format.name)
  | none, "json" => .ok { draft with format := some .json }
  | none, "yaml" => .ok { draft with format := some .yaml }
  | none, _ => .error (.badValue value)

/-- The draft with an option and its value. -/
def addOption (draft : Draft) (value : String) : Flag → Except UsageError Draft
  | .directory =>
    .ok { draft with directories := draft.directories ++ [(draft.level.depth, value)] }
  | .file => .ok { draft with input := draft.input.addFile value }
  | .fileDirectory => .ok { draft with input := draft.input.addDirectory value }
  | .output =>
    match draft.output with
    | some _ => .error (.repeated Flag.output.name)
    | none => .ok { draft with output := some value }
  | .format => draft.addFormat value
  | _ => .ok draft

/-- The draft with one more word. -/
def add (draft : Draft) : Word → Except UsageError Draft
  | .command name =>
    match draft.level.enter? name with
    | some level => .ok { draft with level }
    | none => .error (.unexpected name)
  | .switch flag =>
    if draft.level.accepts flag then draft.addSwitch flag
    else .error (.unexpected flag.name)
  | .option flag value =>
    if !draft.level.accepts flag then .error (.unexpected flag.name)
    else if value.isEmpty then .error (.badValue value)
    else draft.addOption value flag

/-- The directories that count: those given at the deepest level. -/
def effectiveDirectories (draft : Draft) : List String :=
  let deepest := draft.directories.foldl (fun depth entry => max depth entry.1) 0
  (draft.directories.filter fun entry => entry.1 = deepest).map Prod.snd

/-- The command of a finished draft. -/
def command? (draft : Draft) : Option Command :=
  match draft.level with
  | .top | .dev => none
  | .compile => some (.compile draft.input draft.output !draft.noValidate)
  | .check => some (.check draft.input)
  | .tree => some (.tree draft.input (draft.format.getD .yaml))
  | .ir => some (.ir draft.input (draft.format.getD .yaml))

end Draft

end Arguments

open Arguments in
/-- **The invocation that arguments stand for.** -/
def Invocation.ofArguments (arguments : List String) : Except UsageError Invocation := do
  let draft ← (← wordsOf arguments).foldlM Draft.add {}
  match draft.command? with
  | some command => return { directories := draft.effectiveDirectories, command }
  | none => .error .commandMissing

end Balancer
