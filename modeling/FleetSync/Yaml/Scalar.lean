import FleetSync.Number.Decimal

/-!
# Plain scalars

What a text without quotes stands for: nothing, a truth value, a number, or itself. An integer is
decimal without leading zeros, or has the mark of its base; other numbers are finite doubles, or the
names of those that are not finite.
-/
namespace FleetSync.Yaml

/-- A number. A double is known by its bits, the two zeros and all values that are no numbers being
one each. -/
inductive Number where
  | integer (n : Int)
  | double (bits : UInt64)
  deriving DecidableEq, Repr, Inhabited

namespace Number

def ofFloat (x : Float) : Number :=
  if x == 0 then double (0.0 : Float).toBits
  else if x.isNaN then double Decimal.notANumber.toBits
  else double x.toBits

end Number

inductive Scalar where
  | null
  | truth (b : Bool)
  | number (n : Number)
  | text (s : String)
  deriving DecidableEq, Repr, Inhabited

namespace Scalar

def nulls : List String := ["~", "null", "Null", "NULL"]

def truths : List (String × Bool) :=
  [("true", true), ("True", true), ("TRUE", true), ("false", false), ("False", false),
    ("FALSE", false)]

def digitValue? (base : Nat) (c : Char) : Option Nat :=
  let v := if '0' ≤ c ∧ c ≤ '9' then c.toNat - '0'.toNat
    else if 'a' ≤ c ∧ c ≤ 'f' then c.toNat - 'a'.toNat + 10
    else if 'A' ≤ c ∧ c ≤ 'F' then c.toNat - 'A'.toNat + 10
    else 16
  if v < base then some v else none

/-- The number that digits spell, if there are any. -/
def natOfDigits? (base : Nat) : List Char → Option Nat
  | [] => none
  | cs => cs.foldlM (fun n c => (digitValue? base c).map (n * base + ·)) 0

def size? : List Char → Option Nat
  | '0' :: 'x' :: cs => natOfDigits? 16 cs
  | '0' :: 'o' :: cs => natOfDigits? 8 cs
  | '0' :: 'b' :: cs => natOfDigits? 2 cs
  | ['0'] => some 0
  | '0' :: _ => none
  | cs => natOfDigits? 10 cs

def integer? (s : String) : Option Int :=
  let (isNegative, cs) := Decimal.splitSign s.toList
  (size? cs).bind fun n =>
    if isNegative then
      if n ≤ 170141183460469231731687303715884105728 then some (-(n : Int)) else none
    else if n < 340282366920938463463374607431768211456 then some n
    else none

/-- An integer of 64 bits, which can be held. -/
def isHeld (n : Int) : Bool := -9223372036854775808 ≤ n && n < 18446744073709551616

def infinities : List String :=
  [".inf", ".Inf", ".INF", "+.inf", "+.Inf", "+.INF"]

def negativeInfinities : List String := ["-.inf", "-.Inf", "-.INF"]

def nans : List String := [".nan", ".NaN", ".NAN"]

def double? (s : String) : Option Float :=
  if infinities.contains s then some Decimal.infinity
  else if negativeInfinities.contains s then some (-Decimal.infinity)
  else if nans.contains s then some Decimal.notANumber
  else ((Decimal.ofChars? s.toList).filter Decimal.isDouble).map Decimal.toFloat

def isZeroPadded (s : String) : Bool :=
  match (Decimal.splitSign s.toList).2 with
  | '0' :: d :: rest => (d :: rest).all Char.isDigit
  | _ => false

/-- What a text stands for; none if it is an integer that cannot be held. -/
def ofPlain? (s : String) : Option Scalar :=
  if s = "" ∨ nulls.contains s then some null
  else
    match truths.lookup s, integer? s with
    | some b, _ => some (truth b)
    | none, some n => if isHeld n then some (number (.integer n)) else none
    | none, none =>
      match if isZeroPadded s then none else double? s with
      | some x => some (number (.ofFloat x))
      | none => some (text s)

/-- What a text stands for where a tag of the core schema asks for it. -/
def ofTagged? (tag : String) (s : String) : Option Scalar :=
  if tag = "bool" then (truths.lookup s).map truth
  else if tag = "int" then ((integer? s).filter isHeld).map fun n => number (.integer n)
  else if tag = "float" then (double? s).map fun x => number (.ofFloat x)
  else if tag = "null" then if nulls.contains s then some null else none
  else some (text s)

/-- A plain scalar with this text stands for the text. -/
def isText (s : String) : Bool := ofPlain? s = some (text s)

end Scalar

end FleetSync.Yaml
