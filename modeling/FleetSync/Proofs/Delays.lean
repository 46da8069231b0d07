import FleetSync.Config
import Mathlib.Tactic.SplitIfs

/-!
# Delays and their window

The window of a valid configuration is not empty, but a delay is drawn from what is left of it in
whole milliseconds that 64 bits count. All delays stay below the upper bound. They keep the lower
bound exactly if nothing is left to draw from, so that the bound itself is given, or if the bound
is not moved by the cut.
-/
namespace FleetSync

/-- It answers with a number of the range that it is asked for, if there is one. -/
def Sampler.InRange {γ : Type} (sample : Sampler γ) : Prop :=
  ∀ lo hi g, lo < hi → hi < UInt64.size → lo ≤ (sample lo hi g).1 ∧ (sample lo hi g).1 < hi

theorem scaledDraw_lt {range : Nat} (h : 0 < range) (tries : Nat) (draws : Draws) :
    (scaledDraw range tries draws).1 < range := by
  induction tries generalizing draws with
  | zero => exact h
  | succ tries ih =>
    unfold scaledDraw
    dsimp only
    split
    · apply Nat.div_lt_of_lt_mul
      exact Nat.mul_lt_mul_of_pos_right (UInt64.toNat_lt _) h
    · exact ih _

theorem Draws.sample_inRange : Sampler.InRange Draws.sample := by
  intro lo hi draws h _
  have hdraw := scaledDraw_lt (Nat.sub_pos_of_lt h) (draws.values.length + 1) draws
  simp only [Draws.sample]
  omega

theorem scaledDraw_zero (range tries : Nat) : (scaledDraw range tries .zero).1 = 0 := by
  cases tries with
  | zero => rfl
  | succ tries => simp [scaledDraw, Draws.take, Draws.zero]

namespace Window

variable {γ : Type} {w : Window} {sample : Sampler γ} {P : Duration → Prop}

def Collapses (w : Window) : Prop := millis w.upper ≤ millis w.lower

/-- What holds of all delays for the window, whichever generator they are drawn from. -/
def AllDelays (w : Window) (P : Duration → Prop) : Prop :=
  ∀ (γ : Type) (sample : Sampler γ), sample.InRange → ∀ (count : Nat) (g : γ),
    ∀ d ∈ w.delays sample count g, P d

theorem millis_lt (d : Duration) : millis d < UInt64.size := Nat.mod_lt _ (by decide)

theorem ofMillis_millis_le (d : Duration) : .ofMillis (millis d) ≤ d := by
  have hmod : millis d ≤ d.wholeMillis := Nat.mod_le _ _
  have hcut : d.wholeMillis * 1000000 ≤ d.nanoseconds := Nat.div_mul_le_self _ _
  exact Nat.le_trans (Nat.mul_le_mul_right _ hmod) hcut

/-- The cut does not move a duration exactly if that is a number of milliseconds of 64 bits. -/
theorem ofMillis_millis_eq_iff {d : Duration} :
    .ofMillis (millis d) = d ↔ ∃ n < UInt64.size, d = .ofMillis n := by
  constructor
  · intro h
    exact ⟨millis d, millis_lt d, h.symm⟩
  · rintro ⟨n, hn, rfl⟩
    have hmillis : millis (.ofMillis n) = n := by
      simp [millis, Duration.wholeMillis, Duration.ofMillis, Nat.mod_eq_of_lt hn]
    rw [hmillis]

theorem drawWith_of_collapses (h : w.Collapses) (g : γ) :
    (w.drawWith sample g).1 = w.lower := by
  unfold Collapses at h
  simp [drawWith, h]

theorem drawWith_of_not_collapses (h : ¬ w.Collapses) (g : γ) : (w.drawWith sample g).1 =
    .ofMillis (sample (millis w.lower) (millis w.upper) g).1 := by
  unfold Collapses at h
  simp [drawWith, h]

/-- What holds of the lower bound of a collapsed window, or of the milliseconds of a window, holds
of a draw. -/
theorem drawWith_induction (hs : sample.InRange) (hlower : w.Collapses → P w.lower)
    (hmillis : ∀ n, millis w.lower ≤ n → n < millis w.upper → P (.ofMillis n)) (g : γ) :
    P (w.drawWith sample g).1 := by
  by_cases h : w.Collapses
  · rw [drawWith_of_collapses h]
    exact hlower h
  · rw [drawWith_of_not_collapses h]
    obtain ⟨hlo, hhi⟩ := hs _ _ g (Nat.lt_of_not_le h) (millis_lt _)
    exact hmillis _ hlo hhi

theorem forall_mem_delays (h : ∀ g, P (w.drawWith sample g).1) (count : Nat) (g : γ) :
    ∀ d ∈ w.delays sample count g, P d := by
  induction count generalizing g with
  | zero => simp [delays]
  | succ count ih =>
    intro d hd
    simp only [delays, List.mem_cons] at hd
    rcases hd with rfl | hd
    · exact h g
    · exact ih _ d hd

theorem allDelays (hlower : w.Collapses → P w.lower)
    (hmillis : ∀ n, millis w.lower ≤ n → n < millis w.upper → P (.ofMillis n)) : w.AllDelays P := by
  intro γ sample hs count g
  exact forall_mem_delays (drawWith_induction hs hlower hmillis) count g

theorem AllDelays.of_ofMillis (h : w.AllDelays P) (hw : ¬ w.Collapses) :
    P (.ofMillis (millis w.lower)) := by
  have hdraw : (w.drawWith Draws.sample .zero).1 = .ofMillis (millis w.lower) := by
    rw [drawWith_of_not_collapses hw]
    simp [Draws.sample, scaledDraw_zero]
  have hmem : (w.drawWith Draws.sample .zero).1 ∈ w.delays Draws.sample 1 .zero := by
    simp [delays]
  rw [← hdraw]
  exact h _ _ Draws.sample_inRange 1 .zero _ hmem

theorem allDelays_lt_upper (h : w.lower < w.upper) : w.AllDelays fun d => d < w.upper := by
  apply allDelays
  · exact fun _ => h
  · intro n _ hn
    have hupper : millis w.upper * 1000000 ≤ w.upper.nanoseconds := ofMillis_millis_le w.upper
    have hmillis : n * 1000000 < millis w.upper * 1000000 := by omega
    exact Nat.lt_of_lt_of_le hmillis hupper

theorem allDelays_lower_le_iff : (w.AllDelays fun d => w.lower ≤ d) ↔
    w.Collapses ∨ ∃ n < UInt64.size, w.lower = .ofMillis n := by
  rw [← ofMillis_millis_eq_iff]
  constructor
  · intro h
    by_cases hw : w.Collapses
    · exact .inl hw
    · have hle : w.lower.nanoseconds ≤ (Duration.ofMillis (millis w.lower)).nanoseconds :=
        h.of_ofMillis hw
      have hge := ofMillis_millis_le w.lower
      exact .inr (congrArg Duration.mk (Nat.le_antisymm hge hle))
  · intro h
    apply allDelays
    · exact fun _ => Nat.le_refl _
    · intro n hlo hhi
      rcases h with hw | hexact
      · exact absurd (Nat.lt_of_le_of_lt hlo hhi) (Nat.not_lt.2 hw)
      · have hmillis : (Duration.ofMillis (millis w.lower)).nanoseconds ≤
            (Duration.ofMillis n).nanoseconds := Nat.mul_le_mul_right _ hlo
        rwa [hexact] at hmillis

theorem allDelays_pos_iff (h : 0 < w.lower.nanoseconds) :
    (w.AllDelays fun d => 0 < d.nanoseconds) ↔ w.Collapses ∨ millis w.lower ≠ 0 := by
  constructor
  · intro hpos
    by_cases hw : w.Collapses
    · exact .inl hw
    · have hcut : 0 < (Duration.ofMillis (millis w.lower)).nanoseconds := hpos.of_ofMillis hw
      simp only [Duration.ofMillis] at hcut
      exact .inr (by omega)
  · intro hw
    apply allDelays
    · exact fun _ => h
    · intro n hlo hhi
      have hn : 0 < n := by
        rcases hw with hw | hne
        · exact absurd (Nat.lt_of_le_of_lt hlo hhi) (Nat.not_lt.2 hw)
        · omega
      simp only [Duration.ofMillis]
      omega

end Window

theorem Config.window_of_validate {c : Config} (hc : c.validate = .ok ()) :
    0 < c.requeue.lower.nanoseconds ∧ c.requeue.lower < c.requeue.upper := by
  have hfault : c.fault? = none := by
    unfold validate at hc
    split at hc
    · cases hc
    · assumption
  unfold fault? at hfault
  split_ifs at hfault with hname hregistration hcapacity hzero hempty
  refine ⟨?_, Nat.lt_of_not_le hempty⟩
  simp only [Duration.isZero, beq_iff_eq] at hzero
  omega

/-- For every valid configuration and every generator, all delays are below the upper bound of the
window. All of them keep the lower bound exactly if the window collapses or that bound is a number
of milliseconds that 64 bits count, and all of them are positive exactly if the window collapses or
something is left of that bound. -/
theorem delays_keep_bounds_iff {c : Config} (hc : c.validate = .ok ()) :
    (c.requeue.AllDelays fun d => d < c.requeue.upper) ∧
    ((c.requeue.AllDelays fun d => c.requeue.lower ≤ d) ↔
      c.requeue.Collapses ∨ ∃ n < UInt64.size, c.requeue.lower = .ofMillis n) ∧
    ((c.requeue.AllDelays fun d => 0 < d.nanoseconds) ↔
      c.requeue.Collapses ∨ Window.millis c.requeue.lower ≠ 0) := by
  obtain ⟨hpos, hlt⟩ := Config.window_of_validate hc
  exact ⟨Window.allDelays_lt_upper hlt, Window.allDelays_lower_le_iff,
    Window.allDelays_pos_iff hpos⟩

def hastyConfig : Config := { (default : Config) with requeue := ⟨⟨999999⟩, .ofMillis 1⟩ }

/-- It is valid, and without any delay its passes are repeated at once. -/
theorem hasty_delays : hastyConfig.validate = .ok () ∧
    hastyConfig.requeue.drawMany 2 .zero = [⟨0⟩, ⟨0⟩] ∧
    (hastyConfig.requeue.AllDelays fun d => d < .ofMillis 1) ∧
    ¬ (hastyConfig.requeue.AllDelays fun d => ⟨999999⟩ ≤ d) ∧
    ¬ hastyConfig.requeue.AllDelays fun d => 0 < d.nanoseconds := by
  have hvalid : hastyConfig.validate = .ok () := rfl
  have hcollapses : ¬ hastyConfig.requeue.Collapses := by
    unfold Window.Collapses
    decide
  obtain ⟨hupper, hlower, hpos⟩ := delays_keep_bounds_iff hvalid
  refine ⟨hvalid, by decide, hupper, ?_, ?_⟩
  · intro h
    obtain hcollapsed | ⟨n, -, hn⟩ := hlower.1 h
    · exact hcollapses hcollapsed
    · have hwhole : 999999 = n * 1000000 := congrArg Duration.nanoseconds hn
      omega
  · intro h
    obtain hcollapsed | hne := hpos.1 h
    · exact hcollapses hcollapsed
    · exact hne (by decide)

end FleetSync
