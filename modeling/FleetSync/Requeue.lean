import FleetSync.Time.Duration

/-!
# Delays after failed passes

A failed pass is repeated after a delay drawn from a window, so that controllers that fail together
do not come back together. The window is cut to whole milliseconds, as many as 64 bits count; a
window that is empty then stands for its lower bound. A draw of 64 bits is scaled to the window and
rejected where that would favour some delays.
-/
namespace FleetSync

/-- The half-open range of the delays. -/
structure Window where
  lower : Duration
  upper : Duration
  deriving DecidableEq, Repr, Inhabited

/-- Two to six seconds. -/
def Window.default : Window := ⟨.ofSeconds 2, .ofSeconds 6⟩

def drawBound : Nat := UInt64.size

/-- Draws of 64 bits each, given out in a cycle. -/
structure Draws where
  values : List UInt64
  next : Nat
  deriving Repr, Inhabited

namespace Draws

def take (d : Draws) : UInt64 × Draws :=
  (d.values.getD (d.next % d.values.length) 0, { d with next := d.next + 1 })

def zero : Draws := ⟨[0], 0⟩

def nextState (s : UInt64) : UInt64 := s * 6364136223846793005 + 1442695040888963407

def states : Nat → UInt64 → List UInt64
  | 0, _ => []
  | n + 1, s => nextState s :: states n (nextState s)

/-- Draws that are determined by a seed, of which so many differ. -/
def seeded (seed : UInt64) (count : Nat) : Draws := ⟨states count seed, 0⟩

end Draws

/-- The greatest low half of a product that is accepted for a range. -/
def acceptanceZone (range : Nat) : Nat := range * Nat.pow 2 (63 - range.log2) - 1

/-- The first accepted draw, scaled to a range, of as many as are tried. -/
def scaledDraw (range : Nat) : Nat → Draws → Nat × Draws
  | 0, draws => (0, draws)
  | tries + 1, draws =>
    let (v, rest) := draws.take
    let product := v.toNat * range
    if product % drawBound ≤ acceptanceZone range then (product / drawBound, rest)
    else scaledDraw range tries rest

/-- A way to take a number from `lo` on and below `hi` from a generator. -/
abbrev Sampler (γ : Type) := (lo hi : Nat) → γ → Nat × γ

def Draws.sample : Sampler Draws := fun lo hi draws =>
  let (n, rest) := scaledDraw (hi - lo) (draws.values.length + 1) draws
  (lo + n, rest)

namespace Window

def millis (d : Duration) : Nat := d.wholeMillis % UInt64.size

/-- The delay for one failed pass, and the generator after it. -/
def drawWith {γ : Type} (w : Window) (sample : Sampler γ) (g : γ) : Duration × γ :=
  let lo := millis w.lower
  let hi := millis w.upper
  if hi ≤ lo then (w.lower, g)
  else
    let (n, rest) := sample lo hi g
    (.ofMillis n, rest)

/-- The delays for so many failed passes, one after the other. -/
def delays {γ : Type} (w : Window) (sample : Sampler γ) : Nat → γ → List Duration
  | 0, _ => []
  | n + 1, g =>
    let (d, rest) := w.drawWith sample g
    d :: w.delays sample n rest

def draw (w : Window) (draws : Draws) : Duration × Draws := w.drawWith Draws.sample draws

def drawMany (w : Window) (count : Nat) (draws : Draws) : List Duration :=
  w.delays Draws.sample count draws

/-- A delay that the window admits: one of its range, or its lower bound. -/
def admits (w : Window) (d : Duration) : Bool :=
  d = w.lower || (w.lower.wholeMillis ≤ d.wholeMillis && decide (d < w.upper))

def text (w : Window) : String :=
  "RequeueBackoff \x7b window: " ++ w.lower.text ++ ".." ++ w.upper.text ++ ", .. \x7d"

end Window

end FleetSync
