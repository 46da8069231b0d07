import FleetSync.Time.Duration

/-!
# Scaled durations

A duration is scaled as a double-precision number of seconds. The product, cut off at a greatest
duration, is rounded to the nearest nanosecond, and a half goes to the even one.
-/
namespace FleetSync

/-- The quotient rounded to the nearest integer, a half to the even one. -/
def roundQuotient (n d : Nat) : Nat :=
  let q := n / d
  let twice := 2 * (n % d)
  if twice < d then q
  else if d < twice then q + 1
  else if q % 2 = 0 then q else q + 1

namespace Duration

def toFloat (d : Duration) : Float :=
  d.seconds.toUInt64.toFloat + d.subsecond.toUInt64.toFloat / 1000000000

/-- The number of fractions of a double-precision number, which have 52 bits. -/
def fractionBound : Nat := 4503599627370496

/-- The duration of a finite number of seconds, unless it is negative or out of range. -/
def ofFloat? (x : Float) : Option Duration :=
  if x < 0 then none
  else
    let bits := x.toBits.toNat
    let exponent := bits / fractionBound % 2048
    let fraction := bits % fractionBound
    if exponent = 2047 then none
    else
      let significand := if exponent = 0 then fraction else fraction + fractionBound
      let nanos := significand * 1000000000
      let rounded :=
        if 1075 ≤ exponent then nanos * Nat.pow 2 (exponent - 1075)
        else roundQuotient nanos (Nat.pow 2 (1075 - max exponent 1))
      ofParts? 0 rounded

/-- The duration times a factor, at most `cap`. A product that is no number counts as too large. -/
def scale? (d : Duration) (factor : Float) (cap : Duration) : Option Duration :=
  let product := d.toFloat * factor
  ofFloat? (if product < cap.toFloat then product else cap.toFloat)

end Duration

end FleetSync
