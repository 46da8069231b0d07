import FleetSync.Time.Calendar

/-!
# Instants

A point in time, counted from the start of 1970 in UTC. A leap second is held as a fraction of one
second or more in the last second of its minute.
-/
namespace FleetSync

structure Instant where
  seconds : Int
  nanos : Nat
  nanos_lt : nanos < 2000000000
  leap : 1000000000 ≤ nanos → seconds % 60 = 59
  deriving DecidableEq, Repr

namespace Instant

instance : Inhabited Instant := ⟨⟨0, 0, by decide, by decide⟩⟩

/-- The instant with these parts, if they are those of one. -/
def ofParts? (seconds : Int) (nanos : Nat) : Option Instant :=
  if h : nanos < 2000000000 ∧ (1000000000 ≤ nanos → seconds % 60 = 59) then
    some ⟨seconds, nanos, h.1, h.2⟩
  else none

def ofSeconds (seconds : Int) : Instant := ⟨seconds, 0, by decide, by simp⟩

def date (t : Instant) : Calendar.Date := Calendar.date (t.seconds / 86400)

def secondOfDay (t : Instant) : Nat := (t.seconds % 86400).toNat

/-- The instant without its fraction of a second; a leap second stays one. -/
def wholeSeconds (t : Instant) : Instant :=
  if h : 1000000000 ≤ t.nanos then
    ⟨t.seconds, 1000000000, by decide, fun _ => t.leap h⟩
  else ⟨t.seconds, 0, by decide, by simp⟩

end Instant

end FleetSync
