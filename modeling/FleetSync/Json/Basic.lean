import FleetSync.Data.Dict

/-!
# JSON documents

Integers of 64 bits are exact. A larger number, or one written with a point or an exponent, stays a
decimal, so that a field that asks for an integer can refuse it. A document as it is written lists
the fields of its objects in the order of the text, names that occur twice among them, and may hold
values that are well formed but stand for nothing. A settled document has no such values, lists its
fields in key order, and has kept the last of several values for one key.
-/
namespace FleetSync

inductive Json where
  | null
  | bool (value : Bool)
  | int (value : Int)
  /-- The number `digits * 10 ^ exponent`, written with a point or an exponent. -/
  | decimal (digits exponent : Int)
  | str (value : String)
  | arr (items : List Json)
  | obj (fields : List (String × Json))
  /-- What is well formed but stands for nothing: a text with half of a character, a number that is
  too large, or an object with such a text as a name. It can be passed over, and not be read. -/
  | unreadable
  deriving Inhabited, Repr

namespace Json

/-- The settled object of these fields, whose values are settled. -/
def object (fields : List (String × Json)) : Json :=
  .obj (fields.foldl (fun fs f => Dict.insertEntry f.1 f.2 fs) [])

def lookup (fields : List (String × Json)) (name : String) : Option Json :=
  (fields.find? (·.1 = name)).map (·.2)

def get? : Json → String → Option Json
  | .obj fields, name => lookup fields name
  | _, _ => none

def path? : Json → List String → Option Json
  | v, [] => some v
  | v, name :: rest => (v.get? name).bind fun w => path? w rest

/-- The object with one field written or, for `none`, removed; other values become an object. -/
def setField (v : Json) (name : String) (value : Option Json) : Json :=
  let fields := match v with
    | .obj fields => fields
    | _ => []
  match value with
  | some w => .obj (Dict.insertEntry name w fields)
  | none => .obj (fields.filter (·.1 ≠ name))

def ofDict {α : Type} (encode : α → Json) (d : StrDict α) : Json :=
  .obj (d.entries.map fun e => (e.1, encode e.2))

/-- A field that is written only if it has a value. -/
def field {α : Type} (name : String) (encode : α → Json) : Option α → List (String × Json)
  | none => []
  | some a => [(name, encode a)]

mutual

/-- The settled form of a document whose lists and objects are nested to this depth at most. -/
def settle? : Nat → Json → Option Json
  | _, .unreadable => none
  | 0, .arr _ => none
  | depth + 1, .arr items => (settleItems? depth items).map .arr
  | 0, .obj _ => none
  | depth + 1, .obj fields => (settleFields? depth fields).map object
  | _, .null => some .null
  | _, .bool b => some (.bool b)
  | _, .int n => some (.int n)
  | _, .decimal d e => some (.decimal d e)
  | _, .str s => some (.str s)

def settleItems? : Nat → List Json → Option (List Json)
  | _, [] => some []
  | depth, j :: rest => do return (← settle? depth j) :: (← settleItems? depth rest)

def settleFields? : Nat → List (String × Json) → Option (List (String × Json))
  | _, [] => some []
  | depth, (name, j) :: rest => do
    return (name, ← settle? depth j) :: (← settleFields? depth rest)

end

/-- The greatest depth of a settled document. -/
def maxDepth : Nat := 127

/-- The settled form of a document as it is written, if it has one. -/
def settled? (j : Json) : Option Json := settle? maxDepth j

end Json

end FleetSync
