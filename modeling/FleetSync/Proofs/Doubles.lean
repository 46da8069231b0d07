import FleetSync.Time.Scaling
import Mathlib

/-!
# Bounds of double-precision numbers

Every finite double is a whole number of units, each of which is the least positive double. An
operation is exact up to the rounding of its result, and rounding adds at most one unit in the last
place. So bounds on the operands give bounds on the result, on its bits, and on what lies below it.
-/
namespace FleetSync.Doubles
open Float.Model (Format UnpackedFloat totalExponent)
open Float.Model.UnpackedFloat

/-! Units -/

def unitsOf (m : Nat) (e : Int) : Nat := m * 2 ^ (e + 1074).toNat

@[irreducible] def binade (k : Nat) : Nat := 2 ^ (k + 1074)

@[irreducible] def step (k : Nat) : Nat := 2 ^ k

theorem unitsOf_mono {m n : Nat} (e : Int) (h : m ≤ n) : unitsOf m e ≤ unitsOf n e :=
  Nat.mul_le_mul_right _ h

theorem unitsOf_add (m n : Nat) (e : Int) : unitsOf (m + n) e = unitsOf m e + unitsOf n e :=
  Nat.add_mul _ _ _

theorem unitsOf_add_exponent {m k : Nat} {e : Int} (he : -1074 ≤ e) :
    unitsOf m (e + k) = unitsOf m e * 2 ^ k := by
  have hexp : (e + k + 1074).toNat = (e + 1074).toNat + k := by omega
  unfold unitsOf
  rw [hexp, Nat.pow_add, Nat.mul_assoc]

theorem unitsOf_mul_two_pow {m k : Nat} {e : Int} (he : -1074 ≤ e) :
    unitsOf (m * 2 ^ k) e = unitsOf m (e + k) := by
  rw [unitsOf_add_exponent he]
  exact Nat.mul_right_comm _ _ _

theorem unitsOf_shift_le {m k : Nat} {e : Int} (he : -1074 ≤ e) :
    unitsOf (m / 2 ^ k) (e + k) ≤ unitsOf m e := by
  rw [← unitsOf_mul_two_pow he]
  exact unitsOf_mono e (Nat.div_mul_le_self _ _)

theorem binade_add (j k : Nat) : binade (j + k) = 2 ^ k * binade j := by
  unfold binade
  rw [Nat.add_right_comm, Nat.pow_add, Nat.mul_comm]

theorem binade_eq (k : Nat) : binade k = 2 ^ k * binade 0 := by
  rw [← binade_add, Nat.zero_add]

theorem binade_pos (k : Nat) : 0 < binade k := by
  unfold binade
  exact Nat.two_pow_pos _

theorem binade_mono {j k : Nat} (h : j ≤ k) : binade j ≤ binade k := by
  unfold binade
  exact Nat.pow_le_pow_right (by decide) (by omega)

theorem unitsOf_natCast (m k : Nat) : unitsOf m k = m * binade k := by
  have hexp : ((k : Int) + 1074).toNat = k + 1074 := by omega
  unfold unitsOf binade
  rw [hexp]

theorem step_add (j k : Nat) : step (j + k) = 2 ^ k * step j := by
  unfold step
  rw [Nat.pow_add, Nat.mul_comm]

theorem step_pos (k : Nat) : 0 < step k := by
  unfold step
  exact Nat.two_pow_pos _

theorem step_mono {j k : Nat} (h : j ≤ k) : step j ≤ step k := by
  unfold step
  exact Nat.pow_le_pow_right (by decide) h

theorem binade_eq_step (k : Nat) : binade k = step (k + 1074) := by
  unfold binade step
  rfl

theorem unitsOf_one_le_step {e : Int} {k : Nat} (h : e + 1074 ≤ k) : unitsOf 1 e ≤ step k := by
  unfold unitsOf step
  rw [Nat.one_mul]
  exact Nat.pow_le_pow_right (by decide) (by omega)

theorem lt_of_unitsOf_lt_step {m j k : Nat} {e : Int} (hm : 2 ^ j ≤ m) (he : -1074 ≤ e)
    (h : unitsOf m e < step k) : j + e + 1074 < k := by
  unfold step at h
  have hpow : 2 ^ (j + (e + 1074).toNat) < 2 ^ k := by
    rw [Nat.pow_add]
    exact Nat.lt_of_le_of_lt (unitsOf_mono e hm) h
  have hexp := (Nat.pow_lt_pow_iff_right (by decide)).1 hpow
  omega

theorem lt_of_unitsOf_lt {m j k : Nat} {e : Int} (hm : 2 ^ j ≤ m) (he : -1074 ≤ e)
    (h : unitsOf m e < binade k) : j + e < k := by
  rw [binade_eq_step] at h
  have hexp := lt_of_unitsOf_lt_step hm he h
  omega

theorem unitsOf_one_le {e : Int} {k : Nat} (h : e ≤ k) : unitsOf 1 e ≤ binade k := by
  rw [binade_eq_step]
  exact unitsOf_one_le_step (by omega)

/-- Numbers are compared by their exponents and then by their significands, if the greater one has
53 bits. -/
theorem unitsOf_le_of_lt {m n : Nat} {e e' : Int} (hm : m < 2 ^ 53) (he : -1074 ≤ e)
    (hn : 2 ^ 52 ≤ n ∨ e' = -1074) (h : e < e' ∨ e = e' ∧ m < n) :
    unitsOf m e ≤ unitsOf n e' := by
  rcases h with hlt | ⟨rfl, hlt⟩
  · have hhigh : 2 ^ 52 ≤ n := hn.resolve_right (by omega)
    have hexp : e + (1 : Nat) ≤ e' := by omega
    calc unitsOf m e ≤ unitsOf (2 ^ 52 * 2 ^ 1) e := unitsOf_mono e (by omega)
      _ = unitsOf (2 ^ 52) (e + (1 : Nat)) := unitsOf_mul_two_pow he
      _ ≤ unitsOf (2 ^ 52) e' :=
        Nat.mul_le_mul_left _ (Nat.pow_le_pow_right (by decide) (by omega))
      _ ≤ unitsOf n e' := unitsOf_mono e' hhigh
  · exact unitsOf_mono e (Nat.le_of_lt hlt)

/-- A zero, or a positive number of at most so many units. -/
inductive AtMost (b : Nat) : UnpackedFloat → Prop
  | zero (s : Sign) : AtMost b (.zero s)
  | finite {m e h} (hm : m < 2 ^ 53) (he : -1074 ≤ e) (hb : unitsOf m e ≤ b) :
      AtMost b (.finite .positive m e h)

theorem AtMost.mono {b c : Nat} {u : UnpackedFloat} (h : AtMost b u) (hbc : b ≤ c) :
    AtMost c u := by
  cases h with
  | zero s => exact .zero s
  | finite hm he hb => exact .finite hm he (Nat.le_trans hb hbc)

/-- A number that is not below zero, or no number. -/
inductive NotNegative : UnpackedFloat → Prop
  | infinity : NotNegative (.infinity .positive)
  | notANumber : NotNegative .notANumber
  | zero (s : Sign) : NotNegative (.zero s)
  | finite {m e} (h : 0 < m) : NotNegative (.finite .positive m e h)

theorem AtMost.notNegative {b : Nat} {u : UnpackedFloat} (h : AtMost b u) : NotNegative u := by
  cases h with
  | zero s => exact .zero s
  | finite hm he hb => exact .finite _

/-! Rounding -/

/-- The exponent for a significand of 53 bits, or the least exponent. -/
def target (m : Nat) (e : Int) : Int := Format.binary64.targetExponent (totalExponent m e)

/-- The places that a shift to that exponent drops. -/
def dropped (m : Nat) (e : Int) : Nat := (target m e - e).toNat

theorem target_eq (m : Nat) (e : Int) : target m e = max (m.log2 + e - 52) (-1074) := by
  simp only [target, Format.targetExponent, totalExponent, Format.mantissaBits, Format.minExponent]
  omega

theorem add_dropped (m : Nat) (e : Int) : e + dropped m e = max e (target m e) := by
  unfold dropped
  omega

theorem target_le_step {m k : Nat} {e : Int} (hm : 0 < m) (he : -1074 ≤ e)
    (h : unitsOf m e < step (k + 53)) : target m e + 1074 ≤ k := by
  have hlog := lt_of_unitsOf_lt_step (Nat.log2_self_le (Nat.ne_of_gt hm)) he h
  rw [target_eq]
  omega

theorem binade_add_eq_step (k : Nat) : binade (k + 53) = step (k + 1074 + 53) := by
  rw [binade_eq_step, Nat.add_right_comm]

theorem target_le {m k : Nat} {e : Int} (hm : 0 < m) (he : -1074 ≤ e)
    (h : unitsOf m e < binade (k + 53)) : target m e ≤ k := by
  rw [binade_add_eq_step] at h
  have htarget := target_le_step hm he h
  omega

theorem mantissa_shiftRight (em : ExtendedMantissa) (n : Nat) :
    (em >>> n).mantissa = em.mantissa / 2 ^ n := by
  induction n with
  | zero => exact (Nat.div_one _).symm
  | succ n ih =>
    have hstep : (em >>> (n + 1)).mantissa = (em >>> n).mantissa / 2 := rfl
    rw [hstep, ih, Nat.div_div_eq_div_mul, ← Nat.pow_succ]

theorem roundedMantissa_le (em : ExtendedMantissa) : em.roundedMantissa ≤ em.mantissa + 1 := by
  obtain ⟨m, r, s⟩ := em
  cases r <;> cases s <;>
    simp only [ExtendedMantissa.roundedMantissa, ExtendedMantissa.accuracy,
      Accuracy.roundToNearestEven] <;> omega

theorem shiftToTargetExponent_eq (m : Nat) (e : Int) (a : Accuracy) :
    (shiftToTargetExponent Format.binary64 m e a).1.mantissa = m / 2 ^ dropped m e ∧
      (shiftToTargetExponent Format.binary64 m e a).2 = e + dropped m e := by
  have hm : (ExtendedMantissa.ofMantissaAndAccuracy m a).mantissa = m := by
    rcases a with _ | (_ | _ | _) <;> rfl
  refine ⟨(mantissa_shiftRight _ _).trans ?_, rfl⟩
  rw [hm]
  rfl

theorem shifted_lt (m : Nat) (e : Int) : m / 2 ^ dropped m e < 2 ^ 53 := by
  have hbits : m.log2 + 1 ≤ dropped m e + 53 := by
    have htarget := target_eq m e
    unfold dropped
    omega
  apply Nat.div_lt_of_lt_mul
  calc m < 2 ^ (m.log2 + 1) := Nat.lt_log2_self
    _ ≤ 2 ^ (dropped m e + 53) := Nat.pow_le_pow_right (by decide) hbits
    _ = 2 ^ dropped m e * 2 ^ 53 := Nat.pow_add _ _ _

/-- Rounding adds at most one in the last place. -/
theorem atMost_roundWithAccuracy {m b : Nat} {e : Int} {a : Accuracy} (he : -1074 ≤ e)
    (hb : unitsOf m e + unitsOf 1 (max e (target m e)) ≤ b) :
    AtMost b (roundWithAccuracy Format.binary64 .positive m e a) := by
  rw [← add_dropped] at hb
  obtain ⟨hm₁, he₁⟩ := shiftToTargetExponent_eq m e a
  have hr := roundedMantissa_le (shiftToTargetExponent Format.binary64 m e a).1
  rw [hm₁] at hr
  unfold roundWithAccuracy
  generalize shiftToTargetExponent Format.binary64 m e a = first at *
  obtain ⟨em, e₁⟩ := first
  dsimp only at *
  subst he₁
  have hrounded : unitsOf em.roundedMantissa (e + dropped m e) ≤ b := calc
    _ ≤ unitsOf (m / 2 ^ dropped m e + 1) (e + dropped m e) := unitsOf_mono _ hr
    _ = unitsOf (m / 2 ^ dropped m e) (e + dropped m e) + unitsOf 1 (e + dropped m e) :=
      unitsOf_add _ _ _
    _ ≤ b := Nat.le_trans (Nat.add_le_add_right (unitsOf_shift_le he) _) hb
  -- the rounded significand may have 54 bits, so that it is shifted once more
  obtain ⟨hm₂, he₂⟩ := shiftToTargetExponent_eq em.roundedMantissa (e + dropped m e) .exact
  split
  · exact .zero _
  · apply AtMost.finite
    · rw [hm₂]
      exact shifted_lt _ _
    · rw [he₂]
      omega
    · rw [hm₂, he₂]
      exact Nat.le_trans (unitsOf_shift_le (by omega)) hrounded

theorem notNegative_roundWithAccuracy (m : Nat) (e : Int) (a : Accuracy) :
    NotNegative (roundWithAccuracy Format.binary64 .positive m e a) := by
  unfold roundWithAccuracy
  dsimp only
  split
  · exact .zero _
  · exact .finite _

theorem unitsOf_decreaseExponent {m : Nat} {e t : Int} (he : -1074 ≤ e) (ht : -1074 ≤ t) :
    unitsOf (decreaseExponent m e t).1 (min e t) = unitsOf m e := by
  have hmin : min e t + (e - t).toNat = e := by omega
  simp only [decreaseExponent]
  rw [Nat.shiftLeft_eq, unitsOf_mul_two_pow (by omega), hmin]

theorem log2_mul_two_pow {m : Nat} (hm : 0 < m) (k : Nat) : (m * 2 ^ k).log2 = m.log2 + k := by
  have hlo := Nat.log2_self_le (Nat.ne_of_gt hm)
  have hhi := Nat.lt_log2_self (n := m)
  have hpos := Nat.mul_pos hm (Nat.two_pow_pos k)
  rw [Nat.log2_eq_iff (Nat.ne_of_gt hpos)]
  constructor
  · rw [Nat.pow_add]
    exact Nat.mul_le_mul_right _ hlo
  · rw [Nat.add_right_comm, Nat.pow_add]
    exact Nat.mul_lt_mul_of_pos_right hhi (Nat.two_pow_pos k)

theorem target_decreaseExponent {m : Nat} {e t : Int} (hm : 0 < m) :
    target (decreaseExponent m e t).1 (min e t) = target m e := by
  simp only [decreaseExponent]
  rw [target_eq, target_eq, Nat.shiftLeft_eq, log2_mul_two_pow hm]
  omega

theorem atMost_round {m b k : Nat} {e : Int} (hm : 0 < m) (he : -1074 ≤ e)
    (h : unitsOf m e < step (k + 53)) (hb : unitsOf m e + step k ≤ b) :
    AtMost b (UnpackedFloat.round Format.binary64 .positive m e) := by
  have hround : UnpackedFloat.round Format.binary64 .positive m e =
      roundWithAccuracy Format.binary64 .positive (decreaseExponent m e (target m e)).1
        (e - (e - target m e).toNat) .exact := rfl
  have hexp : e - ((e - target m e).toNat : Int) = min e (target m e) := by omega
  have hleast : -1074 ≤ target m e := by
    rw [target_eq]
    omega
  have hplaces : max (min e (target m e)) (target m e) = target m e := by omega
  have hone := unitsOf_one_le_step (target_le_step hm he h)
  rw [hround, hexp]
  apply atMost_roundWithAccuracy (by omega)
  rw [target_decreaseExponent hm, hplaces, unitsOf_decreaseExponent he hleast]
  omega

theorem atMost_normalize {m b k : Nat} {e : Int} (he : -1074 ≤ e)
    (h : unitsOf m e < step (k + 53)) (hb : unitsOf m e + step k ≤ b) :
    AtMost b (UnpackedFloat.normalize Format.binary64 m e .positive) := by
  unfold UnpackedFloat.normalize
  split
  · rename_i hlt
    have hneg := Int.compare_eq_lt.1 hlt
    omega
  · exact .zero _
  · rename_i hgt
    have hpos := Int.compare_eq_gt.1 hgt
    exact atMost_round (by omega) he h hb

/-! Operations -/

theorem AtMost.add_step {b c d k : Nat} {u v : UnpackedFloat} (hu : AtMost b u) (hv : AtMost c v)
    (h : b + c < step (k + 53)) (hd : b + c + step k ≤ d) :
    AtMost d (UnpackedFloat.add Format.binary64 u v) := by
  have hbc : b + c ≤ d := Nat.le_trans (Nat.le_add_right _ _) hd
  cases hu with
  | zero s =>
    cases hv with
    | zero s' =>
      unfold UnpackedFloat.add
      dsimp only
      split
      · exact .zero _
      · exact .zero _
    | finite hm he hb => exact .finite hm he (by omega)
  | @finite m₁ e₁ h₁ hm₁ he₁ hb₁ =>
    cases hv with
    | zero s' => exact .finite hm₁ he₁ (by omega)
    | @finite m₂ e₂ h₂ hm₂ he₂ hb₂ =>
      have hone := unitsOf_decreaseExponent (m := m₁) (t := min e₁ e₂) he₁ (by omega)
      have htwo := unitsOf_decreaseExponent (m := m₂) (t := min e₁ e₂) he₂ (by omega)
      rw [Int.min_eq_right (Int.min_le_left _ _)] at hone
      rw [Int.min_eq_right (Int.min_le_right _ _)] at htwo
      have hsum : unitsOf ((decreaseExponent m₁ e₁ (min e₁ e₂)).1 +
          (decreaseExponent m₂ e₂ (min e₁ e₂)).1) (min e₁ e₂) ≤ b + c := by
        rw [unitsOf_add, hone, htwo]
        exact Nat.add_le_add hb₁ hb₂
      exact atMost_normalize (by omega) (Nat.lt_of_le_of_lt hsum h)
        (Nat.le_trans (Nat.add_le_add_right hsum _) hd)

theorem AtMost.add {b c d k : Nat} {u v : UnpackedFloat} (hu : AtMost b u) (hv : AtMost c v)
    (h : b + c < binade (k + 53)) (hd : b + c + binade k ≤ d) :
    AtMost d (UnpackedFloat.add Format.binary64 u v) := by
  rw [binade_add_eq_step] at h
  rw [binade_eq_step] at hd
  exact hu.add_step hv h hd

theorem atMost_two_mul {m k : Nat} {e : Int} {a : Accuracy} (he : -1074 ≤ e) (hk : e ≤ k)
    (h : unitsOf m e < binade k) :
    AtMost (2 * binade k) (roundWithAccuracy Format.binary64 .positive m e a) := by
  have htarget : max e (target m e) ≤ k := by
    rcases Nat.eq_zero_or_pos m with rfl | hpos
    · rw [target_eq, Nat.log2_zero]
      omega
    · have hwide : binade k ≤ binade (k + 53) := binade_mono (by omega)
      have htarget := target_le hpos he (Nat.lt_of_lt_of_le h hwide)
      omega
  have hone := unitsOf_one_le htarget
  apply atMost_roundWithAccuracy he
  omega

/-- A quotient by a whole number that is given with `s` places below the point. -/
theorem AtMost.div {b k s m₂ : Nat} {u : UnpackedFloat} {h₂ : 0 < m₂} (hu : AtMost b u)
    (h : b * 2 ^ s < binade k) : AtMost (2 * binade k)
      (UnpackedFloat.div Format.binary64 u (.finite .positive m₂ (-s) h₂)) := by
  cases hu with
  | zero s' => exact .zero _
  | @finite m₁ e₁ h₁ hm₁ he₁ hb₁ =>
    have hdiv : UnpackedFloat.div Format.binary64 (.finite .positive m₁ e₁ h₁)
        (.finite .positive m₂ (-s) h₂) = roundWithAccuracy Format.binary64 .positive
          (divCore Format.binary64 m₁ e₁ m₂ (-s)).1 (divCore Format.binary64 m₁ e₁ m₂ (-s)).2.1
          (divCore Format.binary64 m₁ e₁ m₂ (-s)).2.2 := rfl
    rw [hdiv]
    simp only [divCore]
    generalize ht : min (e₁ - -(s : Int)) _ = t
    have hle : t ≤ e₁ + s := by omega
    have hge : -1074 ≤ t := by
      rw [← ht]
      simp only [Format.targetExponent, Format.minExponent, Format.mantissaBits]
      omega
    have hscaled : unitsOf (m₁ <<< (e₁ - -(s : Int) - t).toNat) t = unitsOf m₁ e₁ * 2 ^ s := by
      have hexp : t + (e₁ - -(s : Int) - t).toNat = e₁ + s := by omega
      rw [Nat.shiftLeft_eq, unitsOf_mul_two_pow hge, hexp, unitsOf_add_exponent he₁]
    have hdividend : unitsOf (m₁ <<< (e₁ - -(s : Int) - t).toNat) t < binade k := by
      rw [hscaled]
      exact Nat.lt_of_le_of_lt (Nat.mul_le_mul_right _ hb₁) h
    have hpos : 2 ^ 0 ≤ m₁ <<< (e₁ - -(s : Int) - t).toNat := by
      rw [Nat.shiftLeft_eq]
      exact Nat.mul_pos h₁ (Nat.two_pow_pos _)
    have htop := lt_of_unitsOf_lt hpos hge hdividend
    apply atMost_two_mul hge (by omega)
    exact Nat.lt_of_le_of_lt (unitsOf_mono t (Nat.div_le_self _ _)) hdividend

/-- A quotient by a divisor of many bits is close to the quotient of the bounds. -/
theorem AtMost.div_step {b c i j k s m₂ : Nat} {u : UnpackedFloat} {h₂ : 0 < m₂} (hu : AtMost b u)
    (hb : b < step i) (hm₂ : 2 ^ j ≤ m₂) (hk : i + s ≤ j + k + 52)
    (hc : b * 2 ^ s / m₂ + step k ≤ c) :
    AtMost c (UnpackedFloat.div Format.binary64 u (.finite .positive m₂ (-s) h₂)) := by
  cases hu with
  | zero s' => exact .zero _
  | @finite m₁ e₁ h₁ hm₁ he₁ hb₁ =>
    have hdiv : UnpackedFloat.div Format.binary64 (.finite .positive m₁ e₁ h₁)
        (.finite .positive m₂ (-s) h₂) = roundWithAccuracy Format.binary64 .positive
          (divCore Format.binary64 m₁ e₁ m₂ (-s)).1 (divCore Format.binary64 m₁ e₁ m₂ (-s)).2.1
          (divCore Format.binary64 m₁ e₁ m₂ (-s)).2.2 := rfl
    rw [hdiv]
    simp only [divCore]
    have hlog₁ := lt_of_unitsOf_lt_step (Nat.log2_self_le (Nat.ne_of_gt h₁)) he₁
      (Nat.lt_of_le_of_lt hb₁ hb)
    have hlog₂ : j ≤ m₂.log2 := (Nat.le_log2 (Nat.ne_of_gt h₂)).2 hm₂
    generalize ht : min (e₁ - -(s : Int)) _ = t
    have hle : t ≤ e₁ + s := by omega
    have hbounds : -1074 ≤ t ∧ t + 1074 ≤ k := by
      rw [← ht]
      simp only [Format.targetExponent, Format.minExponent, Format.mantissaBits, totalExponent]
      omega
    obtain ⟨hge, htop⟩ := hbounds
    have hscaled : unitsOf (m₁ <<< (e₁ - -(s : Int) - t).toNat) t = unitsOf m₁ e₁ * 2 ^ s := by
      have hexp : t + (e₁ - -(s : Int) - t).toNat = e₁ + s := by omega
      rw [Nat.shiftLeft_eq, unitsOf_mul_two_pow hge, hexp, unitsOf_add_exponent he₁]
    generalize m₁ <<< (e₁ - -(s : Int) - t).toNat = dividend at *
    have hquotient : unitsOf (dividend / m₂) t * m₂ ≤ b * 2 ^ s := calc
      unitsOf (dividend / m₂) t * m₂ = dividend / m₂ * m₂ * 2 ^ (t + 1074).toNat :=
        Nat.mul_right_comm _ _ _
      _ ≤ unitsOf dividend t := Nat.mul_le_mul_right _ (Nat.div_mul_le_self _ _)
      _ = unitsOf m₁ e₁ * 2 ^ s := hscaled
      _ ≤ b * 2 ^ s := Nat.mul_le_mul_right _ hb₁
    have htarget : max t (target (dividend / m₂) t) + 1074 ≤ k := by
      rw [target_eq]
      rcases Nat.eq_zero_or_pos (dividend / m₂) with hzero | hpos
      · rw [hzero, Nat.log2_zero]
        omega
      · have hbits : 2 ^ ((dividend / m₂).log2 + j) ≤ dividend / m₂ * 2 ^ j := by
          rw [Nat.pow_add]
          exact Nat.mul_le_mul_right _ (Nat.log2_self_le (Nat.ne_of_gt hpos))
        have hbelow : unitsOf (dividend / m₂ * 2 ^ j) t < step (i + s) := calc
          unitsOf (dividend / m₂ * 2 ^ j) t = unitsOf (dividend / m₂) t * 2 ^ j :=
            Nat.mul_right_comm _ _ _
          _ ≤ unitsOf (dividend / m₂) t * m₂ := Nat.mul_le_mul_left _ hm₂
          _ ≤ b * 2 ^ s := hquotient
          _ < step i * 2 ^ s := Nat.mul_lt_mul_of_pos_right hb (Nat.two_pow_pos s)
          _ = step (i + s) := by rw [step_add, Nat.mul_comm]
        have hlog := lt_of_unitsOf_lt_step hbits hge hbelow
        omega
    apply atMost_roundWithAccuracy hge
    have hone := unitsOf_one_le_step htarget
    have hunits := (Nat.le_div_iff_mul_le h₂).2 hquotient
    omega

theorem NotNegative.mul {u v : UnpackedFloat} (hu : NotNegative u) (hv : NotNegative v) :
    NotNegative (UnpackedFloat.mul Format.binary64 u v) := by
  cases hu with
  | infinity =>
    cases hv with
    | infinity => exact .infinity
    | notANumber => exact .notANumber
    | zero s => exact .notANumber
    | finite h => exact .infinity
  | notANumber => exact .notANumber
  | zero s =>
    cases hv with
    | infinity => exact .notANumber
    | notANumber => exact .notANumber
    | zero s' => exact .zero _
    | finite h => exact .zero _
  | finite h =>
    cases hv with
    | infinity => exact .infinity
    | notANumber => exact .notANumber
    | zero s => exact .zero _
    | finite h' => exact notNegative_roundWithAccuracy _ _ _

/-! Bits -/

/-- What a sign, an exponent and a fraction are read as. -/
inductive Reads (s : Sign) (x : BitVec 11) (f : BitVec 52) : UnpackedFloat → Prop
  | infinity (hx : x.toNat = 2047) : Reads s x f (.infinity s)
  | notANumber (hx : x.toNat = 2047) : Reads s x f .notANumber
  | zero (hx : x.toNat = 0) : Reads s x f (.zero s)
  | subnormal {h} (hx : x.toNat = 0) : Reads s x f (.finite s f.toNat (-1074) h)
  | normal {h} (hx : 0 < x.toNat) (hlt : x.toNat < 2047) :
      Reads s x f (.finite s (2 ^ 52 + f.toNat) (x.toNat - 1075) h)

theorem toNat_one_append (f : BitVec 52) : (1#1 ++ f).toNat = 2 ^ 52 + f.toNat := by
  rw [BitVec.toNat_append, Nat.or_comm]
  exact (Nat.or_two_pow_eq_add_of_lt f.isLt).trans (Nat.add_comm _ _)

theorem reads_unpack (b : BitVec 64) :
    Reads (.ofBitVec (@unpackSign Format.binary64 b)) (@unpackExponent Format.binary64 b)
      (@unpackMantissa Format.binary64 b) (unpack Format.binary64 b) := by
  have hbias : (Format.exponentBias Format.binary64 : Int) + (52 : Nat) = 1075 := rfl
  unfold unpack
  dsimp only
  split
  · rename_i hx
    split
    · exact .infinity (congrArg BitVec.toNat hx)
    · exact .notANumber (congrArg BitVec.toNat hx)
  · rename_i hx
    split
    · rename_i hzero
      split
      · exact .zero (congrArg BitVec.toNat hzero)
      · simp only [hzero, hbias]
        exact .subnormal rfl
    · rename_i hzero
      have hpos : (@unpackExponent Format.binary64 b).toNat ≠ 0 :=
        fun h => hzero (BitVec.eq_of_toNat_eq h)
      have htop : (@unpackExponent Format.binary64 b).toNat ≠ 2047 :=
        fun h => hx (BitVec.eq_of_toNat_eq h)
      have hlt : (@unpackExponent Format.binary64 b).toNat < 2048 := BitVec.isLt _
      simp only [toNat_one_append, hbias]
      exact .normal (by omega) (by omega)

theorem reads_packComponents (s : Sign) (x : BitVec 11) (f : BitVec 52) :
    Reads s x f (unpack Format.binary64 (packComponents Format.binary64 s x f)) := by
  have h := reads_unpack (packComponents Format.binary64 s x f)
  rwa [unpackSign_packComponents, unpackExponent_packComponents, unpackMantissa_packComponents,
    Sign.ofBitVec_toBitVec] at h

section Reads
variable {b : Nat} {s : Sign} {x : BitVec 11} {f : BitVec 52} {u : UnpackedFloat}

theorem Reads.notNegative (h : Reads .positive x f u) : NotNegative u := by
  cases h with
  | infinity hx => exact .infinity
  | notANumber hx => exact .notANumber
  | zero hx => exact .zero _
  | subnormal hx => exact .finite _
  | normal hx hlt => exact .finite _

theorem Reads.atMost (h : Reads .positive x f u) (hx : x.toNat < 2047)
    (hsubnormal : x.toNat = 0 → unitsOf f.toNat (-1074) ≤ b)
    (hnormal : 0 < x.toNat → unitsOf (2 ^ 52 + f.toNat) (x.toNat - 1075) ≤ b) : AtMost b u := by
  have hf : f.toNat < 2 ^ 52 := f.isLt
  cases h with
  | infinity h => omega
  | notANumber h => omega
  | zero h => exact .zero _
  | subnormal h => exact .finite (by omega) (by omega) (hsubnormal h)
  | normal h hlt => exact .finite (by omega) (by omega) (hnormal h)

theorem Reads.exponent_le (h : Reads s x f u) (hu : AtMost b u) (hb : b < binade 64) :
    x.toNat ≤ 1086 := by
  cases h with
  | infinity hx => cases hu
  | notANumber hx => cases hu
  | zero hx => omega
  | subnormal hx => omega
  | normal hx hlt =>
    cases hu with
    | finite hm he hunits =>
      have hlow : 2 ^ 52 ≤ 2 ^ 52 + f.toNat := Nat.le_add_right _ _
      have htop := lt_of_unitsOf_lt hlow he (Nat.lt_of_le_of_lt hunits hb)
      omega

theorem Reads.canonical {s' : Sign} {m : Nat} {e : Int} {hm : 0 < m}
    (h : Reads s x f (.finite s' m e hm)) :
    m < 2 ^ 53 ∧ -1074 ≤ e ∧ (2 ^ 52 ≤ m ∨ e = -1074) := by
  have hf : f.toNat < 2 ^ 52 := f.isLt
  cases h with
  | subnormal hx => exact ⟨by omega, by omega, .inr rfl⟩
  | normal hx hlt => exact ⟨by omega, by omega, .inl (Nat.le_add_right _ _)⟩

end Reads

theorem NotNegative.unpack_pack {u : UnpackedFloat} (h : NotNegative u) :
    NotNegative (unpack Format.binary64 (pack Format.binary64 u)) := by
  cases h with
  | infinity => exact (reads_packComponents .positive _ _).notNegative
  | notANumber => exact (reads_packComponents .positive _ _).notNegative
  | zero s => cases s <;> exact .zero _
  | finite h =>
    unfold pack
    dsimp only
    split
    · exact (reads_packComponents .positive _ _).notNegative
    · split
      · exact (reads_packComponents .positive _ _).notNegative
      · exact (reads_packComponents .positive _ _).notNegative

theorem pack_finite {m : Nat} {e : Int} {hpos : 0 < m} (hm : m < 2 ^ 53) (he : e ≤ 900) :
    pack Format.binary64 (.finite .positive m e hpos) = packComponents Format.binary64 .positive
      (.ofNat 11 (if 2 ^ 52 ≤ m then (e + 1075).toNat else 0)) (.ofNat 52 m) := by
  have hbiased : (e + Format.exponentBias Format.binary64 + (52 : Nat)).toNat =
      (e + 1075).toNat := by
    have hbias : (Format.exponentBias Format.binary64 : Int) = 1023 := rfl
    omega
  have hlog : m.log2 + 1 = Format.mantissaBits Format.binary64 ↔ 2 ^ 52 ≤ m := by
    have hbits : Format.mantissaBits Format.binary64 = 53 := rfl
    have hiff := Nat.log2_eq_iff (Nat.ne_of_gt hpos) (k := 52)
    omega
  unfold pack
  dsimp only
  rw [hbiased]
  split
  · rename_i hover
    have hfull : 2048 ≤ (e + 1075).toNat + 1 := hover
    omega
  · split
    · rename_i hnormal
      rw [if_pos (hlog.1 hnormal)]
    · rename_i hsubnormal
      rw [if_neg fun hlow => hsubnormal (hlog.2 hlow)]

/-- A number that is small enough is no greater when it is read back. -/
theorem AtMost.unpack_pack {b : Nat} {u : UnpackedFloat} (h : AtMost b u) (hb : b < binade 900) :
    AtMost b (unpack Format.binary64 (pack Format.binary64 u)) := by
  cases h with
  | zero s => cases s <;> exact .zero _
  | @finite m e hpos hm he hunits =>
    have hone : 2 ^ 0 ≤ m := hpos
    have htop := lt_of_unitsOf_lt hone he (Nat.lt_of_le_of_lt hunits hb)
    have hf : (BitVec.ofNat 52 m).toNat = m % 2 ^ 52 := rfl
    rw [pack_finite hm (by omega)]
    by_cases hlow : 2 ^ 52 ≤ m
    · rw [if_pos hlow]
      have hx : (BitVec.ofNat 11 (e + 1075).toNat).toNat = (e + 1075).toNat :=
        Nat.mod_eq_of_lt (by omega)
      have hm : 2 ^ 52 + m % 2 ^ 52 = m := by omega
      have he : (((e + 1075).toNat : Nat) : Int) - 1075 = e := by omega
      apply (reads_packComponents .positive _ _).atMost
      · omega
      · omega
      · intro _
        rwa [hf, hm, hx, he]
    · rw [if_neg hlow]
      apply (reads_packComponents .positive _ _).atMost
      · decide
      · intro _
        rw [hf, Nat.mod_eq_of_lt (Nat.lt_of_not_le hlow)]
        have hexp : (-1074 + 1074 : Int).toNat ≤ (e + 1074).toNat := by omega
        exact Nat.le_trans (Nat.mul_le_mul_left _ (Nat.pow_le_pow_right (by decide) hexp)) hunits
      · exact fun h => (Nat.lt_irrefl 0 h).elim

/-! Doubles -/

def number (x : Float) : UnpackedFloat := x.toModel.unpack

theorem number_add (x y : Float) : number (x + y) = unpack Format.binary64
    (pack Format.binary64 (UnpackedFloat.add Format.binary64 (number x) (number y))) := rfl

theorem number_mul (x y : Float) : number (x * y) = unpack Format.binary64
    (pack Format.binary64 (UnpackedFloat.mul Format.binary64 (number x) (number y))) := rfl

theorem number_div (x y : Float) : number (x / y) = unpack Format.binary64
    (pack Format.binary64 (UnpackedFloat.div Format.binary64 (number x) (number y))) := rfl

theorem number_toFloat (n : UInt64) : number n.toFloat = unpack Format.binary64
    (pack Format.binary64 (UnpackedFloat.normalize Format.binary64 n.toNat 0 .positive)) := rfl

theorem number_zero : number 0 = .zero .positive := rfl

theorem reads_number (x : Float) :
    Reads (.ofBitVec (@unpackSign Format.binary64 x.toBits.toBitVec))
      (@unpackExponent Format.binary64 x.toBits.toBitVec)
      (@unpackMantissa Format.binary64 x.toBits.toBitVec) (number x) :=
  reads_unpack _

theorem lt_iff {x y : Float} : x < y ↔ (number x).lt (number y) = true := by
  show (Float.lt x y = true) ↔ _
  simp only [Float.lt, decide_eq_true_eq]
  rfl

theorem le_iff {x y : Float} : x ≤ y ↔ (number x).le (number y) = true := by
  show (Float.le x y = true) ↔ _
  simp only [Float.le, decide_eq_true_eq]
  rfl

theorem NotNegative.not_lt_zero {x : Float} (h : NotNegative (number x)) : ¬ x < 0 := by
  rw [lt_iff, number_zero]
  generalize number x = u at h
  intro hlt
  cases h <;> cases hlt

theorem notNegative_of_zero_le {x : Float} (h : 0 ≤ x) : NotNegative (number x) := by
  rw [le_iff, number_zero] at h
  generalize number x = u at h
  match u with
  | .infinity .positive => exact .infinity
  | .infinity .negative => cases h
  | .notANumber => cases h
  | .zero s => exact .zero s
  | .finite .positive m e hm => exact .finite hm
  | .finite .negative m e hm => cases h

/-- What lies below a number of at most so many units has as few. -/
theorem AtMost.of_lt {b : Nat} {x y : Float} (hx : NotNegative (number x))
    (hy : AtMost b (number y)) (h : x < y) : AtMost b (number x) := by
  have hreadx := reads_number x
  have hready := reads_number y
  rw [lt_iff] at h
  generalize number x = u at *
  generalize number y = v at *
  cases hx with
  | infinity => cases hy <;> cases h
  | notANumber => cases hy <;> cases h
  | zero s => exact .zero s
  | finite hpos =>
    cases hy with
    | zero s => cases h
    | finite hm he hb =>
      obtain ⟨hmx, hex, -⟩ := hreadx.canonical
      obtain ⟨-, -, hcanonical⟩ := hready.canonical
      have hcompare := beq_iff_eq.1 h
      simp only [UnpackedFloat.compare, Option.some.injEq, Ordering.then_eq_lt,
        Int.compare_eq_lt, Int.compare_eq_eq, Nat.compare_eq_lt] at hcompare
      exact .finite hmx hex (Nat.le_trans (unitsOf_le_of_lt hmx hex hcanonical hcompare) hb)

theorem atMost_toFloat_step {n : UInt64} {b k : Nat} (h : unitsOf n.toNat 0 < step (k + 53))
    (hb : unitsOf n.toNat 0 + step k ≤ b) (hsmall : b < binade 900) :
    AtMost b (number n.toFloat) := by
  rw [number_toFloat]
  exact (atMost_normalize (by decide) h hb).unpack_pack hsmall

theorem atMost_toFloat {n : UInt64} {b k : Nat} (h : unitsOf n.toNat 0 < binade (k + 53))
    (hb : unitsOf n.toNat 0 + binade k ≤ b) (hsmall : b < binade 900) :
    AtMost b (number n.toFloat) := by
  rw [binade_add_eq_step] at h
  rw [binade_eq_step] at hb
  exact atMost_toFloat_step h hb hsmall

end FleetSync.Doubles
