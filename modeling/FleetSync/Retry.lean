import FleetSync.Time.Scaling

/-!
# Repeated attempts

An operation that fails in a way worth retrying is tried again after a pause. Each pause follows
from the one before. A schedule may bound the number of attempts; if it does not, only success or a
failure of another sort ends the run.
-/
namespace FleetSync

structure RetrySchedule where
  /-- The number of attempts; zero stands for no bound. -/
  maxAttempts : Nat
  firstPause : Duration
  /-- The pause after a pause, if there is a duration for it. -/
  nextPause? : Duration → Option Duration

namespace RetrySchedule

variable {m : Type → Type} [Monad m] {ε α : Type}

/-- The pause after a pause; the same one again where no duration follows. -/
def nextPause (s : RetrySchedule) (d : Duration) : Duration := (s.nextPause? d).getD d

/-- An attempt and up to `left` further ones, the first of them after the pause `d`. -/
def attempts (s : RetrySchedule) (retryable : ε → Bool) (sleep : Duration → m Unit)
    (operation : m (Except ε α)) : Nat → Duration → m (Except ε α)
  | 0, _ => operation
  | left + 1, d => do
    match ← operation with
    | .ok a => return .ok a
    | .error e =>
      if retryable e then
        sleep d
        s.attempts retryable sleep operation left (s.nextPause d)
      else return .error e

/-- The run of a schedule that bounds its attempts; one without a bound makes `unbounded` of
them. -/
def run (s : RetrySchedule) (unbounded : Nat) (retryable : ε → Bool)
    (sleep : Duration → m Unit) (operation : m (Except ε α)) : m (Except ε α) :=
  let bound := if s.maxAttempts = 0 then unbounded else s.maxAttempts
  s.attempts retryable sleep operation (bound - 1) s.firstPause

/-- Pauses that grow by a factor, each computed from the one before and none of the later ones
above `cap`. -/
def growing (maxAttempts : Nat) (firstPause cap : Duration) (factor : Float) : RetrySchedule where
  maxAttempts
  firstPause
  nextPause? d := d.scale? factor cap

/-- The schedule after a conflict with another writer: five attempts, with pauses that double from
ten milliseconds on. -/
def conflict : RetrySchedule where
  maxAttempts := 5
  firstPause := .ofMillis 10
  nextPause? d := some ⟨min (d.nanoseconds * 2) 200000000⟩

/-- A record of attempts and pauses. -/
structure Rehearsal where
  /-- When each attempt began, in milliseconds from the first one, the last attempt first. -/
  starts : List Nat
  /-- The pauses, the last one first. -/
  pauses : List Duration
  clock : Nat
  deriving Repr, Inhabited

/-- The longest time that a pause takes: thirty years. -/
def longestPause : Duration := .ofSeconds 946080000

/-- The run in which the attempts end as given, and its record. A pause counts in started
milliseconds, and a longer one than the longest as that. -/
def rehearse (s : RetrySchedule) (unbounded : Nat) (retryable : ε → Bool)
    (outcome : Nat → Except ε α) : Except ε α × Rehearsal :=
  let attempt : StateM Rehearsal (Except ε α) := fun r =>
    (outcome r.starts.length, { r with starts := r.clock :: r.starts })
  let sleep (d : Duration) : StateM Rehearsal Unit := fun r =>
    ((), { r with pauses := d :: r.pauses, clock := r.clock + (min d longestPause).ceilMillis })
  (s.run unbounded retryable sleep attempt).run ⟨[], [], 0⟩

/-- After one of the pauses there is no duration for the next one. -/
def overflows (s : RetrySchedule) (r : Rehearsal) : Bool :=
  r.pauses.any fun d => (s.nextPause? d).isNone

end RetrySchedule

end FleetSync
