import FleetSync.Yaml.Value

/-!
# Reading from YAML values

Readers are total and answer `none` for a value of the wrong form. Tags do not matter, except that
a tagged value is a value, even if nothing stands behind the tag. Nothing reads as a list, a
dictionary or a record without entries. The names of a record's fields are texts, and known fields
occur once.
-/
namespace FleetSync.Yaml

/-- Reads something from a value, if the value has its form. -/
abbrev Reader (α : Type) := Value → Option α

namespace Reader

variable {α : Type}

def untagged : Value → Value
  | .tagged _ v => untagged v
  | v => v

def string : Reader String := fun v =>
  match untagged v with
  | .text s => some s
  | _ => none

def bool : Reader Bool := fun v =>
  match untagged v with
  | .truth b => some b
  | _ => none

def optional (read : Reader α) : Reader (Option α)
  | .null => some none
  | v => (read v).map some

def list (read : Reader α) : Reader (List α) := fun v =>
  match untagged v with
  | .sequence items => items.mapM read
  | .null => some []
  | _ => none

def entries : Reader (List (String × Value)) := fun v =>
  match untagged v with
  | .mapping es => es.mapM fun e => (string e.1).map fun name => (name, e.2)
  | .null => some []
  | _ => none

def strings : Reader (List (String × String)) := fun v => do
  (← entries v).mapM fun e => (string e.2).map fun s => (e.1, s)

/-- One of some names: as a text, or as a tag of nothing. -/
def choice (names : List String) : Reader String := fun v =>
  let name := match v with
    | .text s => some s
    | .tagged s .null => some s
    | _ => none
  name.filter names.contains

/-- The fields of a record, each of which may occur once. -/
def record (names : List String) : Reader (List (String × Value)) := fun v => do
  let fields ← entries v
  if names.all fun name => (fields.filter (·.1 = name)).length ≤ 1 then return fields else none

def required (fields : List (String × Value)) (name : String) (read : Reader α) : Option α :=
  (fields.lookup name).bind read

def maybe (fields : List (String × Value)) (name : String) (read : Reader α) :
    Option (Option α) :=
  match fields.lookup name with
  | some v => optional read v
  | none => some none

def withDefault (fields : List (String × Value)) (name : String) (absent : α) (read : Reader α) :
    Option α :=
  match fields.lookup name with
  | some v => read v
  | none => some absent

mutual

/-- The value is a document without tags whose names are all texts. -/
def isDocument : Value → Bool
  | .sequence items => areDocuments items
  | .mapping es => areFields es
  | .tagged _ _ => false
  | _ => true

def areDocuments : List Value → Bool
  | [] => true
  | v :: rest => isDocument v && areDocuments rest

def areFields : List (Value × Value) → Bool
  | [] => true
  | (k, v) :: rest => (string k).isSome && isDocument v && areFields rest

end

end Reader

end FleetSync.Yaml
