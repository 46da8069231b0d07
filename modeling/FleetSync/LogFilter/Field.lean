import FleetSync.Number.Shortest
import FleetSync.Text.Pattern

/-!
# Fields of spans

What a directive asks of a field of a span: that it exists, or that it has a value. A value is the
simplest thing that its text spells: a truth value, an integer of 64 bits, a double, and otherwise a
pattern for the value's text.
-/
namespace FleetSync

inductive FieldValue where
  | truth (b : Bool)
  | natural (n : Nat)
  | integer (n : Int)
  | double (x : Float)
  | notANumber
  | pattern (text : String)
  deriving Repr, Inhabited

namespace FieldValue

/-- An integer below zero, or its zero. -/
def negative? (s : String) : Option Int :=
  match s.toList with
  | '-' :: digits =>
    if digits ≠ [] ∧ digits.all Char.isDigit then
      let n := Text.digitsValue digits
      if n ≤ 9223372036854775808 then some (-(n : Int)) else none
    else none
  | _ => none

/-- The value that a text spells; none if it is not even a pattern. -/
def ofText? (s : String) : Option FieldValue :=
  if s = "true" then some (truth true)
  else if s = "false" then some (truth false)
  else
    match (Text.unsigned? s).filter (· < UInt64.size), negative? s, floatOfText? s with
    | some n, _, _ => some (natural n)
    | none, some n, _ => some (integer n)
    | none, none, some x => some (if x.isNaN then notANumber else double x)
    | none, none, none => if Text.Pattern.isPattern s then some (pattern s) else none

def text : FieldValue → String
  | truth b => if b then "true" else "false"
  | natural n => toString n
  | integer n => toString n
  | double x => Shortest.text x
  | notANumber => "NaN"
  | pattern s => s

/-- The same demand; the two zeros among the doubles are one. -/
def isSame : FieldValue → FieldValue → Bool
  | truth a, truth b => a == b
  | natural a, natural b => a == b
  | integer a, integer b => a == b
  | double a, double b => a == b
  | notANumber, notANumber => true
  | pattern a, pattern b => a == b
  | _, _ => false

end FieldValue

structure FieldMatch where
  name : String
  value : Option FieldValue
  deriving Repr, Inhabited

namespace FieldMatch

/-- A name, or a name and a value after an equals sign; what follows another one is ignored. -/
def ofText? (s : String) : Option FieldMatch :=
  match s.splitOn "=" with
  | name :: value :: _ => (FieldValue.ofText? value).map fun v => ⟨name, some v⟩
  | _ => some ⟨s, none⟩

def text (m : FieldMatch) : String :=
  match m.value with
  | some value => m.name ++ "=" ++ value.text
  | none => m.name

def isSame (a b : FieldMatch) : Bool :=
  a.name == b.name &&
    match a.value, b.value with
    | some v, some w => v.isSame w
    | none, none => true
    | _, _ => false

end FieldMatch

end FleetSync
