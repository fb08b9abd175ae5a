import Balancer.Document.OfHcl
import Balancer.FileSystem

/-!
# Sources

Documents are loaded from files and collected into one. A file that imports others is loaded item
by item, and each import is followed before the import itself is added, so that what a file imports
stands before what comes after the import. A path in an import is relative to the file it stands in.

Every file is loaded at most once, whichever way its path is written: files are told apart by their
canonical paths. A file counts as loaded as soon as its path is known, before it is read, so files
that import each other do not go round in circles. For the same reason the number of files that are
not loaded bounds how deep imports can nest, and `Sources.loadWithin` recurses on it.

An error stops loading and leaves everything that was collected before it.
-/

namespace Balancer

open Balancer.Text

/-- **The errors of loading.** -/
inductive LoadError where
  | unreadable (path : String) (fault : FileFault)
  | file (path : Path) (source : ParseError)
  | noFiles (path : String)
deriving DecidableEq, Repr

/-- The text of the error. -/
def LoadError.message : LoadError → String
  | unreadable path _ => s!"unable to read `{path}`"
  | file path source => s!"in `{path.text}`: {source.message}"
  | noFiles path => s!"no .hcl files found in `{path}`"

/-- **What has been loaded**: the canonical paths of the files, and all items in order. -/
structure Sources where
  loaded : List Path := []
  items : List Item := []
deriving Inhabited

/-- An action that loads files. What was collected before an error is kept. -/
abbrev Loading := ExceptT LoadError (StateM Sources)

namespace Sources

/-- The number of files that have been loaded. -/
def count (sources : Sources) : Nat := sources.loaded.length

/-- The document of all items. -/
def document (sources : Sources) : Document := { items := sources.items }

/-- The sources with the items of a document. -/
def insert (sources : Sources) (document : Document) : Sources :=
  { sources with items := sources.items ++ document.items }

/-- The sources with one more item. -/
def addItem (sources : Sources) (item : Item) : Sources :=
  { sources with items := sources.items ++ [item] }

/-- The sources with one more file that counts as loaded. -/
def markLoaded (sources : Sources) (path : Path) : Sources :=
  { sources with loaded := sources.loaded ++ [path] }

/-- The items of the file at a canonical path. -/
def fileItems (fs : FileSystem) (path : Path) : Except LoadError (List Item) :=
  match fs.read path with
  | .error fault => .error (.unreadable path.text fault)
  | .ok source =>
    match Document.parse source with
    | .error error => .error (.file path error)
    | .ok document => .ok document.items

/-- The canonical path of a file. -/
def resolve (fs : FileSystem) (path : String) : Except LoadError Path :=
  match fs.canonical path with
  | .error fault => .error (.unreadable path fault)
  | .ok canonical => .ok canonical

/-- Opens a file that is not loaded: its canonical path and its items. -/
def openFile? (fs : FileSystem) (path : String) : Loading (Option (Path × List Item)) := do
  let path ← resolve fs path
  if (← get).loaded.contains path then return none
  modify (·.markLoaded path)
  return some (path, ← fileItems fs path)

/-- The directory that the imports of a file are relative to. -/
def baseOf (path : Path) : String := Path.text path.dropLast

/-- Adds the items of a file, after following the imports among them. -/
def addItems (follow : String → Loading Unit) (base : String) : List Item → Loading Unit
  | [] => return
  | item :: items => do
    match item with
    | .importFile path _ => follow (joinPath base path)
    | _ => pure ()
    modify (·.addItem item)
    addItems follow base items

/-- Loads a file, where at most so many files are left to load. With none left, the file is loaded
already or cannot be read. -/
def loadWithin (fs : FileSystem) : Nat → String → Loading Unit
  | 0, path => do
    let _ ← openFile? fs path
  | left + 1, path => do
    match ← openFile? fs path with
    | none => return
    | some (path, items) => addItems (loadWithin fs left) (baseOf path) items

/-- The number of nodes that are not loaded. -/
def unloaded (fs : FileSystem) (sources : Sources) : Nat :=
  ((fs.nodes.map Prod.fst).filter fun path => !sources.loaded.contains path).length

/-- **Loads a file and what it imports.** -/
def loadFile (fs : FileSystem) (path : String) : Loading Unit := do
  loadWithin fs (unloaded fs (← get)) path

/-- The names of the configuration files in a directory, in order. -/
def configurationFiles (fs : FileSystem) (directory : String) : Except LoadError (List String) :=
  match fs.list directory with
  | .error fault => .error (.unreadable directory fault)
  | .ok names =>
    match names.filter (endsWith · ".hcl") with
    | [] => .error (.noFiles directory)
    | names => .ok names.mergeSort

/-- **Loads the configuration files of a directory.** -/
def loadDirectory (fs : FileSystem) (directory : String) : Loading Unit := do
  let names ← configurationFiles fs directory
  names.forM fun name => loadFile fs (joinPath directory name)

end Sources

end Balancer
