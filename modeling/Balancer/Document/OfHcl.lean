import Balancer.Document
import Balancer.Document.Error
import Balancer.Hcl.Body
import Balancer.OrderedMap

/-!
# Documents from texts

The structures of a text become the items of a document. At the top level an assignment defines a
variable, and a block is a template, an import or a section. Inside a section an assignment is a
pair, unless its value is an object or a list of objects: these stand for objects of the kind that
the key names, as blocks do.

Interpolations are not evaluated here: they stay in the texts. A text without interpolation can only
hold `${` where the author escaped it, so the marker is escaped again and all texts read alike from
here on. Labels, names of templates and names of environment variables are never interpolated and
stay plain.

Everything inside an assignment has the position of the assignment.
-/

namespace Balancer

open Balancer.Text

/-! ### Expressions -/

/-- A plain text with the marker of interpolation escaped. -/
def escapePlain : List Char → List Char
  | '$' :: '{' :: cs => '$' :: '$' :: '{' :: escapePlain cs
  | c :: cs => c :: escapePlain cs
  | [] => []

/-- The name of a key of an object. -/
def Hcl.Key.toName (position : Option Position) : Hcl.Key → Except ParseError String
  | .name s | .text s => .ok s
  | .computed _ => .error (.unsupported .computedKey position)

mutual

/-- **The expression that a syntax tree stands for.** -/
def Expr.ofHcl (position : Option Position) : Hcl.Expr → Except ParseError Expr
  | .boolean b => .ok (.literal (.boolean b))
  | .number value => .ok (.literal value)
  | .text s => .ok (.literal (.text (String.ofList (escapePlain s.toList))))
  | .template s => .ok (.literal (.text s))
  | .array items => do return .array (← Expr.ofHclAll position items)
  | .object entries => do
    let entries ← Expr.ofHclEntries position entries
    return .object (OrderedMap.ofList entries).entries
  | .parenthesis inner => Expr.ofHcl position inner
  | .call "env" [] => .error (.invalid "env" .variableNameExpected position)
  | .call "env" (.text name :: arguments) => do
    match ← Expr.ofArguments position arguments with
    | [] => return .env name none
    | fallback :: _ => return .env name (some fallback)
  | .call "env" (_ :: _) => .error (.invalid "env" .variableNameExpected position)
  | .call function _ => .error (.unsupported (.function function) position)
  | .null => .error (.unsupported .null position)
  | .name s => .error (.unsupported (.reference s) position)
  | .traversal => .error (.unsupported .attributeAccess position)
  | .operation => .error (.unsupported .operator position)
  | .conditional => .error (.unsupported .conditional position)
  | .comprehension => .error (.unsupported .comprehension position)

/-- The fallback of an environment variable, which is the only argument after its name. It is read
before the number of arguments is looked at. -/
def Expr.ofArguments (position : Option Position) :
    List Hcl.Expr → Except ParseError (List Expr)
  | [] => .ok []
  | [fallback] => do return [← Expr.ofHcl position fallback]
  | fallback :: _ => do
    let _ ← Expr.ofHcl position fallback
    .error (.invalid "env" .tooManyArguments position)

/-- The expressions of a list, one after the other. -/
def Expr.ofHclAll (position : Option Position) : List Hcl.Expr → Except ParseError (List Expr)
  | [] => .ok []
  | item :: items => do
    let first ← Expr.ofHcl position item
    let rest ← Expr.ofHclAll position items
    return first :: rest

/-- The entries of an object, one after the other. -/
def Expr.ofHclEntries (position : Option Position) :
    List (Hcl.Key × Hcl.Expr) → Except ParseError (List (String × Expr))
  | [] => .ok []
  | (key, item) :: entries => do
    let name ← key.toName position
    let first ← Expr.ofHcl position item
    let rest ← Expr.ofHclEntries position entries
    return (name, first) :: rest

end

/-! ### Labels, templates and ranges -/

/-- The text of a label. -/
def labelText (construct : String) (position : Option Position) :
    Hcl.Expr → Except ParseError String
  | .text s | .template s => .ok s
  | _ => .error (.invalid construct .labelExpected position)

/-- The texts of a list of labels. -/
def labelTexts (position : Option Position) : Hcl.Expr → Except ParseError (List String)
  | .array items => items.mapM (labelText "labels" position)
  | _ => .error (.invalid "labels" .labelsExpected position)

/-- The name of a template that is spread. -/
def templateName (position : Option Position) : Hcl.Expr → Except ParseError String
  | .text s => .ok s
  | _ => .error (.invalid "templates" .templateNameExpected position)

/-- The names of the templates that are spread. -/
def templateNames (position : Option Position) : Hcl.Expr → Except ParseError (List String)
  | .array items => items.mapM (templateName position)
  | _ => .error (.invalid "templates" .templatesExpected position)

/-- The bound that a part of the text of a range gives. -/
def Expr.ofBound (s : String) : Expr :=
  match readInteger? (trim s) with
  | some n => .literal (.integer n)
  | none => .literal (.text (trim s))

/-- **The range that a syntax tree stands for**: a list of two bounds, or a text with two dots
between them. -/
def Iterable.ofRange (position : Option Position) : Hcl.Expr → Except ParseError Iterable
  | .array [start, stop] => do
    let first ← Expr.ofHcl position start
    let last ← Expr.ofHcl position stop
    return .range first last
  | .array _ => .error (.invalid "for" .twoBoundsExpected position)
  | other => do
    match ← Expr.ofHcl position other with
    | .literal (.text s) =>
      match splitOnce? s ".." with
      | some (start, stop) => return .range (Expr.ofBound start) (Expr.ofBound stop)
      | none => .error (.invalid "for" (.notRange s) position)
    | _ => .error (.invalid "for" .rangeExpected position)

/-- The items of a list that a loop runs over. -/
def Iterable.ofItems (position : Option Position) : Hcl.Expr → Except ParseError Iterable
  | .array items => do return .list (← Expr.ofHclAll position items)
  | _ => .error (.invalid "for" .listExpected position)

/-! ### Objects as values -/

/-- Whether a syntax tree is an object. -/
def Hcl.Expr.isObject : Hcl.Expr → Bool
  | .object _ => true
  | _ => false

mutual

/-- **The child that an assignment stands for.** -/
def Child.ofHcl (key : String) (position : Option Position) : Hcl.Expr → Except ParseError Child
  | .object entries => do
    return .object (← ObjectNode.ofEntries (.mk key [] [] [] position) entries)
  | .array items =>
    if !items.isEmpty && items.all Hcl.Expr.isObject then do
      return .list key (← ObjectNode.ofItems key position items) position
    else do
      return .pair key (← Expr.ofHcl position (.array items)) position
  | other => do return .pair key (← Expr.ofHcl position other) position

/-- The objects among the items of a list. -/
def ObjectNode.ofItems (kind : String) (position : Option Position) :
    List Hcl.Expr → Except ParseError (List ObjectNode)
  | [] => .ok []
  | .object entries :: items => do
    let first ← ObjectNode.ofEntries (.mk kind [] [] [] position) entries
    let rest ← ObjectNode.ofItems kind position items
    return first :: rest
  | _ :: items => ObjectNode.ofItems kind position items

/-- An object with the entries of an object value added. The keys `templates`, `label` and
`labels` are not children. -/
def ObjectNode.ofEntries (node : ObjectNode) :
    List (Hcl.Key × Hcl.Expr) → Except ParseError ObjectNode
  | [] => .ok node
  | (key, value) :: entries => do
    match ← key.toName node.position with
    | "templates" =>
      let spreads ← templateNames node.position value
      ObjectNode.ofEntries { node with spreads } entries
    | "label" =>
      let label ← labelText "label" node.position value
      ObjectNode.ofEntries { node with labels := node.labels ++ [label] } entries
    | "labels" =>
      let labels ← labelTexts node.position value
      ObjectNode.ofEntries { node with labels := node.labels ++ labels } entries
    | name =>
      let child ← Child.ofHcl name node.position value
      ObjectNode.ofEntries { node with children := node.children ++ [child] } entries

end

/-! ### Blocks -/

section Blocks

/-! Where a structure stands is known from the number of characters that are left at its start. -/

variable (place : Nat → Option Position)

mutual

/-- An object with one more structure of its block. The key `templates` is not a child. -/
def ObjectNode.addStructure (node : ObjectNode) : Hcl.Structure → Except ParseError ObjectNode
  | .assignment name value left =>
    if name = "templates" then do
      return { node with spreads := ← templateNames (place left) value }
    else do
      let child ← Child.ofHcl name (place left) value
      return { node with children := node.children ++ [child] }
  | .block kind labels body left =>
    if kind = "for" then .error (.unsupported (.loopInside node.kind) (place left))
    else do
      let inner ← ObjectNode.addStructures (.mk kind labels [] [] (place left)) body
      return { node with children := node.children ++ [.object inner] }

/-- An object with the structures of its block, one after the other. -/
def ObjectNode.addStructures (node : ObjectNode) :
    List Hcl.Structure → Except ParseError ObjectNode
  | [] => .ok node
  | first :: rest => do
    let node ← ObjectNode.addStructure node first
    ObjectNode.addStructures node rest

end

/-- **The object that a block stands for.** -/
def ObjectNode.ofBlock (kind : String) (labels : List String) (body : List Hcl.Structure)
    (left : Nat) : Except ParseError ObjectNode :=
  ObjectNode.addStructures place (.mk kind labels [] [] (place left)) body

/-- The only label of a block that needs exactly one. -/
def onlyLabel (construct : String) (labels : List String) (position : Option Position) :
    Except ParseError String :=
  match labels with
  | [label] => .ok label
  | _ => .error (.invalid construct .notOneLabel position)

/-- What has been read of a loop: what it runs over, and the objects of its body. -/
structure LoopParts where
  iterable : Option Iterable := none
  body : List ObjectNode := []

/-- A loop with what it runs over. -/
def LoopParts.setIterable (parts : LoopParts) (iterable : Iterable) (position : Option Position) :
    Except ParseError LoopParts :=
  match parts.iterable with
  | none => .ok { parts with iterable := some iterable }
  | some _ => .error (.invalid "for" .secondIterable position)

/-- A loop with one more structure of its block. -/
def LoopParts.add (parts : LoopParts) : Hcl.Structure → Except ParseError LoopParts
  | .assignment "range" value left => do
    parts.setIterable (← Iterable.ofRange (place left) value) (place left)
  | .assignment "in" value left => do
    parts.setIterable (← Iterable.ofItems (place left) value) (place left)
  | .assignment name value left => do
    match ← Child.ofHcl name (place left) value with
    | .object node => return { parts with body := parts.body ++ [node] }
    | .list _ items _ => return { parts with body := parts.body ++ items }
    | _ => .error (.invalid "for" (.unknownLoopKey name) (place left))
  | .block "for" _ _ left => .error (.unsupported .nestedLoop (place left))
  | .block kind labels body left => do
    let node ← ObjectNode.ofBlock place kind labels body left
    return { parts with body := parts.body ++ [node] }

/-- **The loop that a block stands for.** -/
def LoopNode.ofBlock (labels : List String) (body : List Hcl.Structure) (left : Nat) :
    Except ParseError LoopNode := do
  let binder ← onlyLabel "for" labels (place left)
  let parts ← body.foldlM (LoopParts.add place) {}
  match parts.iterable with
  | some iterable => return .mk binder iterable parts.body (place left)
  | none => .error (.invalid "for" .noIterable (place left))

/-- The child of a section that a structure stands for. -/
def Child.ofStructure : Hcl.Structure → Except ParseError Child
  | .assignment name value left => Child.ofHcl name (place left) value
  | .block "for" labels body left => .loop <$> LoopNode.ofBlock place labels body left
  | .block kind labels body left => .object <$> ObjectNode.ofBlock place kind labels body left

/-! ### Items -/

/-- The kinds of blocks that are sections. -/
def sectionKinds : List String :=
  ["global", "defaults", "frontend", "backend", "listen", "peers", "resolvers", "mailers", "script"]

/-- **The section that a block stands for.** -/
def SectionNode.ofBlock (kind : String) (labels : List String) (body : List Hcl.Structure)
    (left : Nat) : Except ParseError SectionNode := do
  if labels.length > 1 then
    .error (.invalid kind .tooManyLabels (place left))
  else
    let children ← body.mapM (Child.ofStructure place)
    return { kind, name := labels.head?, children, position := place left }

/-- **The item that a structure stands for.** The body of an import is not looked at. -/
def Item.ofStructure : Hcl.Structure → Except ParseError Item
  | .assignment name value left => do
    return .definition name (← Expr.ofHcl (place left) value) (place left)
  | .block "template" labels body left => do
    let name ← onlyLabel "template" labels (place left)
    let children ← body.mapM (Child.ofStructure place)
    return .template name children (place left)
  | .block "import" labels _ left => do
    return .importFile (← onlyLabel "import" labels (place left)) (place left)
  | .block kind labels body left =>
    if sectionKinds.contains kind then .block <$> SectionNode.ofBlock place kind labels body left
    else .error (.unsupported (.topLevelBlock kind) (place left))

/-- **The document that structures stand for.** -/
def Document.ofStructures (structures : List Hcl.Structure) : Except ParseError Document := do
  return { items := ← structures.mapM (Item.ofStructure place) }

end Blocks

/-! ### Texts -/

/-- The byte offset at which so many characters of a text are left. -/
def offsetOfLeft (cs : List Char) (left : Nat) : Nat :=
  (String.ofList (cs.take (cs.length - left))).utf8ByteSize

/-- **The document that a text holds.** -/
def Document.parse (source : String) : Except ParseError Document :=
  match Hcl.read? source with
  | none => .error .notWellFormed
  | some structures =>
    let cs := source.toList
    Document.ofStructures (fun left => some (.ofOffset source (offsetOfLeft cs left))) structures

end Balancer
