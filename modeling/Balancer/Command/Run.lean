import Balancer.Command.Arguments
import Balancer.Compilation
import Balancer.Report.Audit
import Balancer.Report.Consistency
import Balancer.Sources
import Balancer.View.Config
import Balancer.View.Document
import Balancer.View.Yaml

/-!
# Running a command

A command is a function of the world it runs in: a file system, an environment and the text on the
standard input. Its outcome is what it prints, the file it writes, and an exit code.

An error is printed with what caused it, one line each, even where the first line quotes the second.
-/

namespace Balancer

/-- **What a command can see.** The standard input is missing if it does not hold text. -/
structure World where
  files : FileSystem := {}
  environment : Environment := {}
  stdin : Option String := some ""

/-- **What a command does.** -/
structure Outcome where
  code : Nat := 0
  out : String := ""
  err : String := ""
  written : Option (Path × String) := none
deriving DecidableEq, Repr

/-- Lines, each with its end. -/
def printLines (lines : List String) : String := Text.join "" (lines.map (· ++ "\n"))

/-! ### Errors -/

/-- **What makes a command fail.** -/
inductive CommandError where
  | usage (error : UsageError)
  | unresolvedDirectory (path : String) (fault : FileFault)
  | unusableDirectory (path : Path) (fault : FileFault)
  | input (fault : FileFault)
  | parse (error : ParseError)
  | load (error : LoadError)
  | compile (error : CompileError)
  | validation (errors : Nat)
  | semantic
  | output (fault : FileFault)
deriving DecidableEq, Repr

/-- What caused an error of loading, beyond its own text. -/
def LoadError.causes : LoadError → List String
  | unreadable _ fault => [fault.text]
  | file _ source => [source.message]
  | noFiles _ => []

/-- What caused an error of compilation, beyond its own text. -/
def CompileError.causes : CompileError → List String
  | build (.field _ source _) => [source.message]
  | normalize (.templateParam _ source) => [source.message]
  | _ => []

namespace CommandError

/-- The lines that are printed for an error. -/
def lines : CommandError → List String
  | usage error => [error.message]
  | unresolvedDirectory path fault =>
    ["Failed to resolve path for -C/--directory " ++ path, fault.text]
  | unusableDirectory path fault => ["Failed to set work directory to " ++ path.text, fault.text]
  | input fault => [fault.text]
  | parse error => [error.message]
  | load error => error.message :: error.causes
  | compile error => error.message :: error.causes
  | validation errors =>
    ["validation failed with " ++ Text.natText errors ++
      " error(s), use --no-validate to write the configuration anyway"]
  | semantic => ["configuration has semantic errors"]
  | output fault => [fault.text]

/-- The exit code for an error. -/
def code : CommandError → Nat
  | usage _ => 2
  | _ => 1

end CommandError

/-- An outcome that ends in an error. -/
def Outcome.fail (outcome : Outcome) (error : CommandError) : Outcome :=
  { outcome with code := error.code, err := outcome.err ++ printLines error.lines }

/-! ### Input -/

/-- Loads the chosen files: the working directory first, then files, then directories. -/
def Input.loading (fs : FileSystem) (input : Input) : Loading Unit := do
  if input.workdir then Sources.loadDirectory fs fs.workdir.text
  input.files.forM (Sources.loadFile fs)
  input.directories.forM (Sources.loadDirectory fs)

/-- **The document that a command works on.** -/
def World.document (world : World) (input : Input) : Except CommandError Document :=
  if input.isStandard then
    match world.stdin with
    | none => .error (.input .notText)
    | some source => (Document.parse source).mapError .parse
  else
    match (input.loading world.files).run {} with
    | (.ok (), sources) => .ok sources.document
    | (.error error, _) => .error (.load error)

/-- **The configuration that a command works on.** -/
def World.configuration (world : World) (input : Input) : Except CommandError Configuration := do
  let document ← world.document input
  (document.compile world.environment).mapError .compile

/-! ### Commands -/

/-- The warnings before a configuration is written. -/
def Configuration.notes (config : Configuration) : List String :=
  config.findings.map Finding.text ++ config.issues.map fun issue => "security " ++ issue.text

/-- The number of errors in a configuration. -/
def Configuration.errorCount (config : Configuration) : Nat :=
  (config.findings.filter Finding.isError).length

/-- The configuration as text, on the standard output or in a file. -/
def Configuration.emit (world : World) (config : Configuration) (output : Option String)
    (outcome : Outcome) : Outcome :=
  match output with
  | none => { outcome with out := config.text }
  | some path =>
    match world.files.target path with
    | .ok path => { outcome with written := some (path, config.text) }
    | .error fault => outcome.fail (.output fault)

/-- Writes a configuration, with notes on what is wrong with it. Errors prevent it if they are
asked to. -/
def Configuration.compileOutcome (world : World) (output : Option String) (validate : Bool)
    (config : Configuration) : Outcome :=
  let noted : Outcome := { err := printLines config.notes }
  if validate && config.errorCount != 0 then noted.fail (.validation config.errorCount)
  else config.emit world output noted

/-- The reports on a configuration. -/
def Configuration.reports (config : Configuration) : String :=
  let highest := match highestLevel? config.issues with
    | some level => level.text
    | none => "none"
  printLines (("semantic: " ++ Text.natText config.findings.length ++ " finding(s)") ::
    config.findings.map Finding.text) ++
  printLines (("security: " ++ Text.natText config.issues.length ++ " issue(s), highest " ++
    highest) :: config.issues.map Issue.text)

/-- Prints the reports on a configuration, and fails if it has errors. -/
def Configuration.checkOutcome (config : Configuration) : Outcome :=
  let reported : Outcome := { out := config.reports }
  if config.errorCount = 0 then reported else reported.fail .semantic

/-- A view in a format. -/
def Format.print : Format → View → String
  | json, v => v.json
  | yaml, v => v.yaml

/-- The outcome of a computation that may fail. -/
def Outcome.ofResult {α : Type} (result : Except CommandError α) (done : α → Outcome) : Outcome :=
  match result with
  | .ok a => done a
  | .error error => Outcome.fail {} error

/-- **The outcome of a command.** -/
def Command.run (world : World) : Command → Outcome
  | compile input output validate =>
    .ofResult (world.configuration input) (Configuration.compileOutcome world output validate)
  | check input => .ofResult (world.configuration input) Configuration.checkOutcome
  | tree input format =>
    .ofResult (world.document input) fun document => { out := format.print (view document) }
  | ir input format =>
    .ofResult (world.configuration input) fun config => { out := format.print (view config) }

/-- The file system with the working directory changed along the directories. -/
def FileSystem.enterAll (fs : FileSystem) : List String → Except CommandError FileSystem
  | [] => .ok fs
  | path :: paths => do
    let directory ← (fs.canonical path).mapError (.unresolvedDirectory path)
    let fs ← (fs.enterDirectory directory).mapError (.unusableDirectory directory)
    fs.enterAll paths

/-- The outcome of an invocation. -/
def Invocation.run (world : World) (invocation : Invocation) : Outcome :=
  .ofResult (world.files.enterAll invocation.directories) fun files =>
    invocation.command.run { world with files }

/-- **The outcome of the program with the given arguments.** -/
def run (world : World) (arguments : List String) : Outcome :=
  .ofResult ((Invocation.ofArguments arguments).mapError .usage) (Invocation.run world)

end Balancer
