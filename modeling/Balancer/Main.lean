import Balancer.Command.Run

/-!
# The program

Everything is decided by `Balancer.run`. What is left to do here is to look at the files that a run
can ask for, so that they can be handed over as a value, and to carry out what the run says.
-/

namespace Balancer.Program

/-- An action that looks at files and notes what it finds. -/
abbrev Survey := StateT FileSystem IO

/-- The canonical path of an absolute path, if there is something. -/
def realPath? (path : Path) : IO (Option Path) := do
  try
    let real ← IO.FS.realPath path.text
    return some ((FileSystem.namesOf real.toString).filter (· != ""))
  catch _ => return none

/-- The node at a canonical path. -/
def readNode (path : Path) : IO Node := do
  try
    return .file (String.fromUTF8? (← IO.FS.readBinFile path.text))
  catch _ => return .directory

/-- Adds a node to a file system. -/
def addNode (path : Path) (node : Node) : Survey Unit :=
  modify fun fs => { fs with nodes := fs.nodes ++ [(path, node)] }

/-- Notes what is at a path and on the way to it. The directories before it are canonical. -/
def note (path : Path) : Survey Unit := do
  if ((← get).node? path).isSome then return
  match ← realPath? path with
  | none => return
  | some real =>
    if real != path then addNode path (.link real)
    for n in List.range (real.length - 1) do
      let above := real.take (n + 1)
      if ((← get).node? above).isNone then addNode above .directory
    if ((← get).node? real).isNone then addNode real (← readNode real)

/-- Notes everything along the names of a path. -/
def noteNames (here : Path) : List String → Survey Unit
  | [] => return
  | name :: names => do
    if name != "" && name != "." && name != ".." then note (here ++ [name])
    match (← get).step here name with
    | .ok next => noteNames next names
    | .error _ => return

/-- Notes everything along a path. -/
def notePath (path : String) : Survey Unit := do
  noteNames ((← get).startOf path) (FileSystem.namesOf path)

/-- Notes a file and the files it imports. -/
partial def noteFile (seen : List Path) (path : String) : Survey (List Path) := do
  notePath path
  let fs ← get
  match fs.canonical path with
  | .error _ => return seen
  | .ok canonical =>
    if seen.contains canonical then return seen
    let mut seen := canonical :: seen
    match Sources.fileItems fs canonical with
    | .error _ => return seen
    | .ok items =>
      for item in items do
        if let .importFile target _ := item then
          seen ← noteFile seen (joinPath (Sources.baseOf canonical) target)
      return seen

/-- Notes a directory and the files in it. -/
def noteDirectory (seen : List Path) (path : String) : Survey (List Path) := do
  notePath path
  match (← get).canonical path with
  | .error _ => return seen
  | .ok canonical =>
    let mut seen := seen
    try
      let directory ← IO.FS.realPath canonical.text
      for entry in ← directory.readDir do
        if Text.endsWith entry.fileName ".hcl" then
          seen ← noteFile seen (joinPath path entry.fileName)
    catch _ => pure ()
    return seen

/-- Notes everything that an invocation can ask for. -/
def noteInvocation (invocation : Invocation) : Survey Unit := do
  let start ← get
  for directory in invocation.directories do
    notePath directory
    match (← get).canonical directory with
    | .ok path => modify fun fs => { fs with workdir := path }
    | .error _ => pure ()
  let input := invocation.command.input
  let mut seen := []
  if input.workdir then seen ← noteDirectory seen (← get).workdir.text
  for path in input.files do seen ← noteFile seen path
  for path in input.directories do seen ← noteDirectory seen path
  if let .compile _ (some path) _ := invocation.command then notePath path
  modify fun fs => { fs with workdir := start.workdir }

/-- The standard input, if it is text. -/
def readStdin : IO (Option String) := do
  return String.fromUTF8? (← IO.FS.readBinFile "/dev/stdin")

/-- The environment of the process. -/
def readEnvironment : IO Environment := do
  let bytes ← try IO.FS.readBinFile "/proc/self/environ" catch _ => pure .empty
  let text := (String.fromUTF8? bytes).getD ""
  let settings := (Text.splitChar '\x00' text.toList).map String.ofList
  return { settings := settings.filterMap (Text.splitOnce? · "=") }

/-- What the run with the given arguments can see. -/
def observe (arguments : List String) : IO World := do
  let environment ← readEnvironment
  match Invocation.ofArguments arguments with
  | .error _ => return { environment }
  | .ok invocation =>
    let start : FileSystem := {}
    let workdir ← realPath? (FileSystem.namesOf (← IO.currentDir).toString |>.filter (· != ""))
    let (_, files) ← (do note (workdir.getD []); noteInvocation invocation : Survey Unit).run
      { start with workdir := workdir.getD [] }
    let stdin ← if invocation.command.input.isStandard then readStdin else pure (some "")
    return { files, environment, stdin }

end Balancer.Program

open Balancer in
/-- **The program.** -/
def main (arguments : List String) : IO UInt32 := do
  let outcome := run (← Program.observe arguments) arguments
  if let some (path, text) := outcome.written then
    IO.FS.writeFile path.text text
  IO.print outcome.out
  IO.eprint outcome.err
  return outcome.code.toUInt32
