import Balancer.Text.Search

/-!
# File systems

A file system is a finite table from paths to nodes, with a working directory. Its nodes are
directories, files and links, and the paths of the table are canonical: they are lists of names
from the root, without `.`, `..` or a link on the way.

The text of a path is walked name by name. What stands before a slash has to be a directory, also
where nothing follows the slash, so that `a/` is a directory or an error even though it has only
one name.
-/

namespace Balancer

open Balancer.Text

/-- **A canonical path**: the names from the root. -/
abbrev Path := List String

/-- The text of a canonical path. -/
def Path.text : Path → String
  | [] => "/"
  | names => String.join (names.map ("/" ++ ·))

/-- The text of a path inside a directory. An absolute path stands for itself. -/
def joinPath (base path : String) : String :=
  if startsWith path "/" || base.isEmpty then path
  else if endsWith base "/" then base ++ path
  else base ++ "/" ++ path

/-- **What can go wrong** with a path. -/
inductive FileFault where
  | notFound
  | notDirectory
  | isDirectory
  | nameTooLong
  | zeroCharacter
  | notText
deriving DecidableEq, Repr

/-- The text of a fault. -/
def FileFault.text : FileFault → String
  | notFound => "No such file or directory (os error 2)"
  | notDirectory => "Not a directory (os error 20)"
  | isDirectory => "Is a directory (os error 21)"
  | nameTooLong => "File name too long (os error 36)"
  | zeroCharacter => "file name contained an unexpected NUL byte"
  | notText => "stream did not contain valid UTF-8"

/-- **A node** of a file system. -/
inductive Node where
  | directory
  /-- A file with its text, or none if it does not hold text. -/
  | file (text : Option String)
  /-- Another name for a canonical path. -/
  | link (target : Path)
deriving DecidableEq, Repr

/-- **A file system.** -/
structure FileSystem where
  nodes : List (Path × Node) := []
  workdir : Path := []
deriving Repr, Inhabited

namespace FileSystem

variable (fs : FileSystem)

/-- The node at a canonical path. The root is always there. -/
def node? : Path → Option Node
  | [] => some .directory
  | path => fs.nodes.lookup path

/-! ### Walking -/

/-- The greatest number of bytes in a name. -/
def maxName : Nat := 255

/-- The path of a name in a directory. -/
def enter (here : Path) (name : String) : Except FileFault Path :=
  if name.utf8ByteSize > maxName then .error .nameTooLong
  else
    match fs.node? (here ++ [name]) with
    | none => .error .notFound
    | some (.link target) => .ok target
    | some _ => .ok (here ++ [name])

/-- One step from a directory. -/
def step (here : Path) : String → Except FileFault Path
  | "" | "." => .ok here
  | ".." => .ok here.dropLast
  | name => fs.enter here name

/-- Refuses a path that is no directory. -/
def requireDirectory (path : Path) : Except FileFault Unit :=
  match fs.node? path with
  | some .directory => .ok ()
  | some _ => .error .notDirectory
  | none => .error .notFound

/-- Where the names lead from a path. -/
def walk : Path → List String → Except FileFault Path
  | here, [] => .ok here
  | here, name :: names => do
    fs.requireDirectory here
    walk (← fs.step here name) names

/-- The names between the slashes of a path. -/
def namesOf (path : String) : List String :=
  (splitChar '/' path.toList).map String.ofList

/-- Where a path starts. -/
def startOf (path : String) : Path :=
  if startsWith path "/" then [] else fs.workdir

/-- Refuses texts that are no path. -/
def requirePath (path : String) : Except FileFault Unit :=
  if path.toList.contains '\x00' then .error .zeroCharacter
  else if path.isEmpty then .error .notFound
  else .ok ()

/-- **The canonical path** that a path leads to. -/
def canonical (path : String) : Except FileFault Path := do
  requirePath path
  fs.walk (fs.startOf path) (namesOf path)

/-! ### Reading and writing -/

/-- **The text of the file** at a canonical path. -/
def read (path : Path) : Except FileFault String :=
  match fs.node? path with
  | some (.file (some text)) => .ok text
  | some (.file none) => .error .notText
  | some .directory => .error .isDirectory
  | some (.link _) | none => .error .notFound

/-- Whether a file, and not a link to one, is at a canonical path. -/
def isFile (path : Path) : Bool :=
  match fs.node? path with
  | some (.file _) => true
  | _ => false

/-- The names of the files in a directory, in the order of the table. -/
def filesIn (directory : Path) : List String :=
  (fs.nodes.map Prod.fst).filterMap fun path =>
    if path.dropLast = directory && fs.isFile path then path.getLast? else none

/-- The names of the files in the directory that a path leads to. -/
def list (path : String) : Except FileFault (List String) := do
  let directory ← fs.canonical path
  fs.requireDirectory directory
  return fs.filesIn directory

/-- A path cut before its last name, and whether a slash follows the name. -/
def cutLast (path : String) : List String × Option String × Bool :=
  let names := (namesOf path).reverse
  let rest := names.dropWhile (· = "")
  ((rest.drop 1).reverse, rest.head?, names.head? = some "")

/-- **The canonical path that a file is written to.** Its directory has to be there, the file does
not. -/
def target (path : String) : Except FileFault Path := do
  requirePath path
  match cutLast path with
  | (_, none, _) => .error .isDirectory
  | (names, some name, slash) =>
    let directory ← fs.walk (fs.startOf path) names
    fs.requireDirectory directory
    if slash || name = "." || name = ".." then .error .isDirectory
    match fs.enter directory name with
    | .ok found =>
      match fs.node? found with
      | some .directory => .error .isDirectory
      | _ => .ok found
    | .error .notFound => .ok (directory ++ [name])
    | .error fault => .error fault

/-- The file system with the text of a file written. -/
def write (path : Path) (text : String) : FileSystem :=
  { fs with nodes := (path, .file (some text)) :: fs.nodes.filter fun entry => entry.1 ≠ path }

/-- **The file system with another working directory.** -/
def enterDirectory (path : Path) : Except FileFault FileSystem := do
  fs.requireDirectory path
  return { fs with workdir := path }

end FileSystem

end Balancer
