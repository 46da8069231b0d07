import FleetSync.Json.Basic

/-!
# Reading values from JSON

Readers are total and answer `none` for a document of the wrong form. They take documents as they
are written. A record is read from an object, whose unknown fields are ignored and whose known ones
occur once, or from the list of its fields' values in the order of their declaration, which may stop
early where the rest of the fields have defaults. In an open record and in a dictionary a name may
occur again: then each of its values has to read, and the last one stays.
-/
namespace FleetSync

/-- Reads a value from a document, if the document has its form. -/
abbrev Reader (α : Type) := Json → Option α

namespace Reader

variable {α : Type}

def string : Reader String
  | .str s => some s
  | _ => none

def bool : Reader Bool
  | .bool b => some b
  | _ => none

def intBetween (lo hi : Int) : Reader Int
  | .int n => if lo ≤ n ∧ n ≤ hi then some n else none
  | _ => none

def int64 : Reader Int := intBetween (-9223372036854775808) 9223372036854775807

def natBelow (bound : Nat) : Reader Nat := fun j => (intBetween 0 (bound - 1) j).map Int.toNat

/-- `null` reads as no value. -/
def optional (read : Reader α) : Reader (Option α)
  | .null => some none
  | j => (read j).map some

def list (read : Reader α) : Reader (List α)
  | .arr items => items.mapM read
  | _ => none

def dict (read : Reader α) : Reader (StrDict α)
  | .obj fields => (fields.mapM fun f => (read f.2).map fun a => (f.1, a)).map Dict.ofList
  | _ => none

/-- A name of a finite choice, as text or as the only field, with value `null`, of an object. -/
def choice (ofName? : String → Option α) : Reader α
  | .str s => ofName? s
  | .obj [(s, .null)] => ofName? s
  | _ => none

def occursOnce (fields : List (String × Json)) (name : String) : Bool :=
  (fields.filter (·.1 = name)).length ≤ 1

/-- The fields of a record whose fields are declared in the order `names`. -/
def record (names : List String) : Reader (List (String × Json))
  | .obj fields => if names.all (occursOnce fields) then some fields else none
  | .arr items => if items.length ≤ names.length then some (names.zip items) else none
  | _ => none

/-- The fields of a record that is written as an object only. -/
def openRecord : Reader (List (String × Json))
  | .obj fields => some fields
  | _ => none

/-- The last value of a field, of which every value has to read. -/
def last? (fields : List (String × Json)) (name : String) (read : Reader α) :
    Option (Option α) :=
  ((fields.filter (·.1 = name)).mapM fun f => read f.2).map List.getLast?

def required (fields : List (String × Json)) (name : String) (read : Reader α) : Option α :=
  (last? fields name read).join

def withDefault (fields : List (String × Json)) (name : String) (absent : α) (read : Reader α) :
    Option α :=
  (last? fields name read).map fun v => v.getD absent

def maybe (fields : List (String × Json)) (name : String) (read : Reader α) : Option (Option α) :=
  withDefault fields name none (optional read)

/-- A field for which absence and `null` both stand for a default value. -/
def orDefault (fields : List (String × Json)) (name : String) (absent : α) (read : Reader α) :
    Option α :=
  (maybe fields name read).map fun v => v.getD absent

/-- The field is this text wherever it occurs. -/
def agrees (fields : List (String × Json)) (name text : String) : Option Unit :=
  (last? fields name fun j => (string j).filter (· = text)).map fun _ => ()

end Reader

end FleetSync
