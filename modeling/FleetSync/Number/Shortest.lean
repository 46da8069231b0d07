import FleetSync.Number.Decimal

/-!
# Shortest decimals

The text of a double has the fewest digits that read back as it. The reals that read back as a
double reach halfway to its neighbours; the halves themselves belong to it if its significand is
even. On each decimal grid the two neighbours of the double are tried, the coarsest grid first; of
two that read back the nearer one is taken, and of two equally near ones the greater.
-/
namespace FleetSync.Shortest

/-- A positive double: a significand times a power of two. -/
structure Binary where
  significand : Nat
  exponent : Int
  /-- The gap below is half the gap above. -/
  isNarrowBelow : Bool
  deriving DecidableEq, Repr

def Binary.ofFloat (x : Float) : Binary :=
  let bits := x.toBits.toNat
  let unit := 4503599627370496
  let exponent := bits / unit % 2048
  let fraction := bits % unit
  if exponent = 0 then ⟨fraction, -1074, false⟩
  else ⟨unit + fraction, (exponent : Int) - 1075, fraction = 0 && 1 < exponent⟩

/-- How `a * 10 ^ i` compares with `b * 2 ^ j`. -/
def compareScaled (a : Nat) (i : Int) (b : Nat) (j : Int) : Ordering :=
  compare (a * Nat.pow 10 i.toNat * Nat.pow 2 (-j).toNat)
    (b * Nat.pow 2 j.toNat * Nat.pow 10 (-i).toNat)

/-- The double is the nearest one to `digits * 10 ^ exponent`. -/
def Binary.readsBack (x : Binary) (digits : Nat) (exponent : Int) : Bool :=
  let least := if x.isNarrowBelow then 4 * x.significand - 1 else 4 * x.significand - 2
  let isEven := x.significand % 2 == 0
  let below := compareScaled digits exponent least (x.exponent - 2)
  let above := compareScaled digits exponent (4 * x.significand + 2) (x.exponent - 2)
  (below == .gt || (isEven && below == .eq)) && (above == .lt || (isEven && above == .eq))

/-- The greatest number of steps of `10 ^ exponent` up to the double. -/
def Binary.floorOn (x : Binary) (exponent : Int) : Nat :=
  x.significand * Nat.pow 2 x.exponent.toNat * Nat.pow 10 (-exponent).toNat /
    (Nat.pow 2 (-x.exponent).toNat * Nat.pow 10 exponent.toNat)

/-- The digits that read back on the grid of `10 ^ exponent`, if there are any. -/
def Binary.onGrid? (x : Binary) (exponent : Int) : Option (Nat × Int) :=
  let low := x.floorOn exponent
  match x.readsBack low exponent, x.readsBack (low + 1) exponent with
  | false, false => none
  | true, false => some (low, exponent)
  | false, true => some (low + 1, exponent)
  | true, true =>
    let isBelowMiddle := compareScaled (2 * low + 1) exponent (2 * x.significand) x.exponent == .gt
    some (if isBelowMiddle then low else low + 1, exponent)

/-- The first of the grids, which get finer by ten, that has such digits. -/
def Binary.search? (x : Binary) : Nat → Int → Option (Nat × Int)
  | 0, _ => none
  | tries + 1, exponent => (x.onGrid? exponent).or (x.search? tries (exponent - 1))

/-- The exponent of a grid that is too coarse for any double. -/
def coarsest : Int := 310

/-- The digits and the exponent of the shortest decimal, zeros at the end included. -/
def Binary.shortest (x : Binary) : Nat × Int := (x.search? 640 coarsest).getD (0, 0)

/-- The positional form: no exponent, and a point only before decimals. -/
def positional (digits : Nat) (exponent : Int) : String :=
  let body := Nat.toDigits 10 digits
  if 0 ≤ exponent then String.ofList (body ++ List.replicate exponent.toNat '0')
  else
    let places := exponent.natAbs
    let padded := List.replicate (places + 1 - body.length) '0' ++ body
    let whole := padded.length - places
    String.ofList (padded.take whole) ++ "." ++ String.ofList (padded.drop whole)

def text (x : Float) : String :=
  if x.isNaN then "NaN"
  else
    let sign := if x < 0 || 1.0 / x < 0 then "-" else ""
    if x.isInf then sign ++ "inf"
    else if x == 0 then sign ++ "0"
    else
      let (digits, exponent) := (Binary.ofFloat x).shortest
      sign ++ positional digits exponent

end FleetSync.Shortest
