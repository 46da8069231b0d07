/-!
# Numbers in digits

The value of decimal digits, and numbers as settings spell them: digits, leading zeros among them,
with a plus sign before them or not.
-/
namespace FleetSync.Text

def digitsValue (cs : List Char) : Nat := cs.foldl (fun n c => n * 10 + (c.toNat - '0'.toNat)) 0

def unsigned? (s : String) : Option Nat :=
  let digits := match s.toList with
    | '+' :: cs => cs
    | cs => cs
  if digits ≠ [] ∧ digits.all Char.isDigit then some (digitsValue digits) else none

end FleetSync.Text
