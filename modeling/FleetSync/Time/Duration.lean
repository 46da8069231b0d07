/-!
# Durations

A duration is a whole number of nanoseconds. Its text names the largest unit that it reaches, with
as many decimals as it needs.
-/
namespace FleetSync

structure Duration where
  nanoseconds : Nat
  deriving DecidableEq, Repr, Inhabited

namespace Duration

/-- The first number of seconds that no duration reaches. -/
def secondsBound : Nat := UInt64.size

def ofSeconds (n : Nat) : Duration := ⟨n * 1000000000⟩

def ofMillis (n : Nat) : Duration := ⟨n * 1000000⟩

/-- The duration of so many seconds and nanoseconds, unless it is out of range. -/
def ofParts? (seconds nanos : Nat) : Option Duration :=
  let n := seconds * 1000000000 + nanos
  if n < secondsBound * 1000000000 then some ⟨n⟩ else none

def seconds (d : Duration) : Nat := d.nanoseconds / 1000000000

def subsecond (d : Duration) : Nat := d.nanoseconds % 1000000000

def wholeMillis (d : Duration) : Nat := d.nanoseconds / 1000000

/-- The milliseconds, a started one counted in full. -/
def ceilMillis (d : Duration) : Nat := (d.nanoseconds + 999999) / 1000000

def isZero (d : Duration) : Bool := d.nanoseconds == 0

instance : LE Duration := ⟨fun a b => a.nanoseconds ≤ b.nanoseconds⟩

instance (a b : Duration) : Decidable (a ≤ b) :=
  inferInstanceAs (Decidable (a.nanoseconds ≤ b.nanoseconds))

instance : LT Duration := ⟨fun a b => a.nanoseconds < b.nanoseconds⟩

instance (a b : Duration) : Decidable (a < b) :=
  inferInstanceAs (Decidable (a.nanoseconds < b.nanoseconds))

instance : Max Duration := ⟨fun a b => if a ≤ b then b else a⟩

instance : Min Duration := ⟨fun a b => if a ≤ b then a else b⟩

instance : Add Duration := ⟨fun a b => ⟨a.nanoseconds + b.nanoseconds⟩⟩

/-- The first `places` decimals of a fraction, without the zeros at their end. -/
def decimals (fraction places : Nat) : List Char :=
  let ds := Nat.toDigits 10 fraction
  ((List.replicate (places - ds.length) '0' ++ ds).reverse.dropWhile (· = '0')).reverse

/-- A whole part and a fraction of so many places, in a unit. -/
def inUnit (whole fraction places : Nat) (unit : String) : String :=
  let ds := decimals fraction places
  toString whole ++ (if ds.isEmpty then "" else "." ++ String.ofList ds) ++ unit

/-- The text of a duration, such as `6s`, `1.5s`, `100ms` or `1.5µs`. -/
def text (d : Duration) : String :=
  let n := d.nanoseconds
  if 1000000000 ≤ n then inUnit (n / 1000000000) (n % 1000000000) 9 "s"
  else if 1000000 ≤ n then inUnit (n / 1000000) (n % 1000000) 6 "ms"
  else if 1000 ≤ n then inUnit (n / 1000) (n % 1000) 3 "µs"
  else inUnit n 0 0 "ns"

end Duration

end FleetSync
