import Balancer.Entry

/-!
# The fields of an object

The pairs of an object are its fields. A directive reads the fields it knows, one after the other,
and then insists that there are no others, so that a misspelt key is an error and not silence.

A `FieldReader` says which keys it reads and how the result is made of them. Readers are combined
applicatively, which keeps both in step: the keys of the whole are the keys of the parts, and the
fields are converted in the order in which they are listed, the first failure being the one
reported.
-/

namespace Balancer

/-- **The fields of an object**, with its labels and what is needed to report an error. -/
structure Fields where
  directive : String
  labels : List String
  position : Option Position
  entries : OrderedMap Value

namespace Fields

/-! ### Errors -/

/-- The error of a field of the wrong kind. -/
def fieldError (fields : Fields) (source : FieldError) : BuildError :=
  .field fields.directive source fields.position

/-- The error of fields that do not go together. -/
def invalid (fields : Fields) (fault : Fault) : BuildError :=
  .invalid fields.directive fault fields.position

/-- The error of something that is required. -/
def missing (fields : Fields) (need : Need) : BuildError :=
  .missing fields.directive need fields.position

/-! ### Labels -/

/-- The only label, which names `what`. -/
def label (fields : Fields) (what : String) : Except BuildError String :=
  match fields.labels with
  | [label] => .ok label
  | [] => .error (fields.missing (.label what))
  | _ => .error (fields.invalid (.labelCount what))

/-- The only label, or the given error. -/
def soleLabel (fields : Fields) (need : Need) : Except BuildError String :=
  match fields.labels with
  | [label] => .ok label
  | _ => .error (fields.missing need)

/-- Insists that there are no labels. -/
def noLabel (fields : Fields) : Except BuildError Unit :=
  if fields.labels.isEmpty then .ok () else .error (fields.invalid .takesNoLabels)

/-! ### Fields one by one -/

/-- The field `key` after conversion, if it is there. -/
def convert {α : Type} (fields : Fields) (key : String)
    (conversion : Value → Except FieldError α) : Except BuildError (Option α) :=
  match fields.entries.get? key with
  | none => .ok none
  | some value =>
    match conversion value with
    | .ok a => .ok (some a)
    | .error e => .error (fields.fieldError e)

/-- The fields other than those with the given keys, in order. -/
def others (fields : Fields) (known : List String) : List (String × Value) :=
  fields.entries.entries.filter fun (key, _) => !known.contains key

/-- Insists that all keys are known; the first one that is not is reported. -/
def finish (fields : Fields) (known : List String) : Except BuildError Unit :=
  match fields.others known with
  | [] => .ok ()
  | (key, _) :: _ => .error (.unknownKey key fields.directive fields.position)

end Fields

/-- **A reader of fields**: the keys it knows, and how to read a result from them. -/
structure FieldReader (α : Type) where
  keys : List String
  read : Fields → Except BuildError α

namespace FieldReader

instance : Applicative FieldReader where
  pure a := ⟨[], fun _ => .ok a⟩
  seq f x :=
    { keys := f.keys ++ (x ()).keys
      read := fun fields => do
        let g ← f.read fields
        let a ← (x ()).read fields
        return g a }

/-- Reads a field with a conversion, if it is there. -/
def optional {α : Type} (key : String) (conversion : String → Value → Except FieldError α) :
    FieldReader (Option α) :=
  ⟨[key], fun fields => fields.convert key (conversion key)⟩

/-- A text that may be left out. -/
def text? (key : String) : FieldReader (Option String) := optional key Value.toText

/-- A text that must be there. -/
def text (key : String) : FieldReader String where
  keys := [key]
  read fields := do
    match ← (text? key).read fields with
    | some s => return s
    | none => throw (fields.missing (.key key))

/-- A switch, off where it is left out. -/
def flag (key : String) : FieldReader Bool :=
  (Option.getD · false) <$> optional key Value.toFlag

/-- A count that may be left out. -/
def count? (key : String) : FieldReader (Option Nat) := optional key Value.toCount

/-- A port that may be left out. -/
def port? (key : String) : FieldReader (Option Nat) := optional key Value.toPort

/-- A list of texts, empty where it is left out. -/
def texts (key : String) : FieldReader (List String) :=
  (Option.getD · []) <$> optional key Value.toTexts

/-- Reads the fields and insists that there are no others. -/
def readAll {α : Type} (reader : FieldReader α) (fields : Fields) : Except BuildError α := do
  let a ← reader.read fields
  fields.finish reader.keys
  return a

end FieldReader

end Balancer
