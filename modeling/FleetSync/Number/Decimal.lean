import FleetSync.Text.Digits

/-!
# Decimal numbers

A decimal is an integer times a power of ten, with a sign of its own, so that zero has two. It is
spelled by digits with at most one point among them and, after an `e`, an exponent. The double of a
decimal is the nearest one; decimals too large for any double become infinite.
-/
namespace FleetSync

structure Decimal where
  isNegative : Bool
  digits : Nat
  exponent : Int
  deriving DecidableEq, Repr, Inhabited

namespace Decimal

def splitSign : List Char → Bool × List Char
  | '-' :: rest => (true, rest)
  | '+' :: rest => (false, rest)
  | cs => (false, cs)

/-- The exponent that a text spells; no text spells zero. -/
def exponentOf? : List Char → Option Int
  | [] => some 0
  | c :: rest =>
    let (negative, digits) := splitSign rest
    if (c = 'e' ∨ c = 'E') ∧ digits ≠ [] ∧ digits.all Char.isDigit then
      some (if negative then -(Text.digitsValue digits : Int) else Text.digitsValue digits)
    else none

/-- The decimal that a text spells, with a digit before or after the point. -/
def ofChars? (cs : List Char) : Option Decimal := do
  let (negative, cs) := splitSign cs
  let whole := cs.takeWhile Char.isDigit
  let (fraction, rest) := match cs.drop whole.length with
    | '.' :: rest => (rest.takeWhile Char.isDigit, rest.dropWhile Char.isDigit)
    | rest => ([], rest)
  if (whole ++ fraction).isEmpty then none
  else
    let exponent ← exponentOf? rest
    some ⟨negative, Text.digitsValue (whole ++ fraction), exponent - fraction.length⟩

/-- The position of the first digit: the least power of ten above the decimal. -/
def order (d : Decimal) : Int := (Nat.toDigits 10 d.digits).length + d.exponent

/-- The least magnitude whose nearest double is infinite. -/
def doubleBound : Nat := (Nat.pow 2 54 - 1) * Nat.pow 2 970

/-- Above this power of ten there is no double, and below its opposite only zero. -/
def maxOrder : Int := 400

/-- Some double is near the decimal. -/
def isDouble (d : Decimal) : Bool :=
  if d.digits = 0 ∨ d.order < -maxOrder then true
  else if maxOrder < d.order then false
  else decide (d.digits * Nat.pow 10 d.exponent.toNat <
    doubleBound * Nat.pow 10 (-d.exponent).toNat)

def infinity : Float := 1.0 / 0.0

def notANumber : Float := 0.0 / 0.0

def toFloat (d : Decimal) : Float :=
  let size : Float :=
    if d.digits = 0 ∨ d.order < -maxOrder then 0
    else if d.isDouble then Float.ofScientific d.digits (d.exponent < 0) d.exponent.natAbs
    else infinity
  if d.isNegative then -size else size

end Decimal

/-- The names of what is no decimal. -/
def namedFloat? (name : String) : Option Float :=
  if name = "inf" ∨ name = "infinity" then some Decimal.infinity
  else if name = "nan" then some Decimal.notANumber
  else none

/-- The double that a text spells: a decimal, or a name in any case with a sign or without. -/
def floatOfText? (text : String) : Option Float :=
  let (negative, name) := Decimal.splitSign text.toList
  match namedFloat? (String.ofList name).toLower with
  | some x => some (if negative then -x else x)
  | none => (Decimal.ofChars? text.toList).map Decimal.toFloat

end FleetSync
