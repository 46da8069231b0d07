import FleetSync.Json.Reader
import FleetSync.Text.Base64
import FleetSync.Time.Rfc3339

/-!
# Forms of documents

The form of a document that is only looked at: which of its fields are known, and what they hold.
Unknown fields are passed over. A known field may be missing or `null`, and each of its occurrences
has to have its form. Lists and objects are not nested too deeply where they are looked at.
-/
namespace FleetSync

inductive Form where
  /-- Anything that can be read. -/
  | any
  | flag
  | text
  /-- One text. -/
  | exactly (s : String)
  /-- Bytes in Base64. -/
  | bytes
  | instant
  | integer (lo hi : Int)
  | number
  | list (items : Form)
  | dict (values : Form)
  | record (fields : List (String × Form))
  /-- One of several forms. -/
  | oneOf (forms : List Form)
  /-- The form that a name stands for. -/
  | named (name : String)
  deriving Repr, Inhabited

namespace Form

def int32 : Form := integer (-2147483648) 2147483647

def int64 : Form := integer (-9223372036854775808) 9223372036854775807

/-- Whether a document has a form, with so many levels of lists and objects. A step is taken into a
list or an object, to one of several forms, and to what a name stands for. -/
def accepts (names : List (String × Form)) : Nat → Nat → Form → Json → Bool
  | 0, _, _, _ => false
  | steps + 1, depth, form, j =>
    match form, depth, j with
    | any, depth, j => (j.settle? depth).isSome
    | flag, _, .bool _ => true
    | text, _, .str _ => true
    | exactly s, _, .str t => s == t
    | bytes, _, .str s => (Text.Base64.decode? s).isSome
    | instant, _, .str s => (Instant.ofRfc3339? s).isSome
    | integer lo hi, _, .int n => lo ≤ n && n ≤ hi
    | number, _, .int _ => true
    | number, _, .decimal _ _ => true
    | list items, depth + 1, .arr js => js.all (accepts names steps depth items)
    | dict values, depth + 1, .obj es => es.all fun e => accepts names steps depth values e.2
    | record fields, depth + 1, .obj es =>
      fields.all fun field =>
        es.all fun e => e.1 ≠ field.1 || e.2 matches .null || accepts names steps depth field.2 e.2
    | oneOf forms, depth, j => forms.any fun form => accepts names steps depth form j
    | named name, depth, j => (names.lookup name).any fun form => accepts names steps depth form j
    | _, _, _ => false

/-- The most steps from one level to the next. -/
def stepsPerLevel : Nat := 4

def holds (form : Form) (names : List (String × Form)) (j : Json) : Bool :=
  accepts names (stepsPerLevel * (Json.maxDepth + 1)) Json.maxDepth form j

end Form

end FleetSync
