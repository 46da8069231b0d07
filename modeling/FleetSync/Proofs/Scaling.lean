import FleetSync.Proofs.Doubles

/-!
# Scaled durations exist

A duration as a number of seconds, scaled by a factor that is not below zero and cut off below
`2 ^ 63` seconds, is a duration again.
-/
namespace FleetSync
open Float.Model (Format)
open Float.Model.UnpackedFloat (unpackExponent)
open Doubles

theorem number_billion :
    number 1000000000 = .finite .positive (1000000000 * 2 ^ 23) (-(23 : Nat)) (by decide) := rfl

theorem toNat_unpackExponent (x : Float) :
    (@unpackExponent Format.binary64 x.toBits.toBitVec).toNat =
      x.toBits.toNat / Duration.fractionBound % 2048 := by
  simp only [unpackExponent, BitVec.toNat_cast, BitVec.extractLsb, BitVec.extractLsb'_toNat,
    Nat.shiftRight_eq_div_pow]
  rfl

theorem roundQuotient_le (n d : Nat) : roundQuotient n d ≤ n / d + 1 := by
  unfold roundQuotient
  dsimp only
  split
  · exact Nat.le_succ _
  · split
    · exact Nat.le_refl _
    · split
      · exact Nat.le_succ _
      · exact Nat.le_refl _

namespace Duration

/-- The fraction of a second is small, also after it was rounded twice. -/
theorem atMost_fraction {n : UInt64} (hn : n.toNat < 2 ^ 30) :
    AtMost (binade 55) (number (n.toFloat / 1000000000)) := by
  have hunits : unitsOf n.toNat 0 = n.toNat * binade 0 := unitsOf_natCast _ 0
  have hbound : n.toNat * binade 0 + binade 0 ≤ 2 ^ 30 * binade 0 := by
    rw [← Nat.succ_mul]
    exact Nat.mul_le_mul_right _ hn
  have hpos := binade_pos 0
  have h53 := binade_eq 53
  have h54 := binade_eq 54
  have h55 := binade_eq 55
  have h56 := binade_eq 56
  have h900 : binade 56 ≤ binade 900 := binade_mono (by decide)
  have htop : binade 55 < binade 900 := by omega
  have hdouble : 2 * binade 54 ≤ binade 55 := by omega
  have hnanos : AtMost (2 ^ 30 * binade 0) (number n.toFloat) := by
    apply atMost_toFloat (k := 0)
    · rw [hunits, Nat.zero_add]
      omega
    · omega
    · omega
  have hscaled : 2 ^ 30 * binade 0 * 2 ^ 23 < binade 54 := by
    rw [h54, Nat.mul_right_comm]
    exact Nat.mul_lt_mul_of_pos_right (by decide) hpos
  rw [number_div, number_billion]
  exact ((hnanos.div (s := 23) hscaled).mono hdouble).unpack_pack htop

/-- A duration of less than `2 ^ (j + 53)` seconds is less than twice as long as a double. -/
theorem exists_atMost_toFloat {d : Duration} {j : Nat} (hj : 10 ≤ j) (hsmall : j < 800)
    (h : d.seconds.toUInt64.toNat < 2 ^ (j + 53)) :
    ∃ b < binade (j + 54), AtMost b (number d.toFloat) := by
  unfold toFloat
  generalize d.seconds.toUInt64 = n at *
  have hsubsecond : d.subsecond < 1000000000 := Nat.mod_lt _ (by decide)
  have hfraction : AtMost (binade 55) (number (d.subsecond.toUInt64.toFloat / 1000000000)) := by
    apply atMost_fraction
    have htoNat : d.subsecond.toUInt64.toNat = d.subsecond :=
      UInt64.toNat_ofNat_of_lt' (Nat.lt_trans hsubsecond (by decide))
    omega
  have hunits : unitsOf n.toNat 0 = n.toNat * binade 0 := unitsOf_natCast _ 0
  have hseconds : n.toNat * binade 0 < binade (j + 53) := by
    rw [binade_eq (j + 53)]
    exact Nat.mul_lt_mul_of_pos_right h (binade_pos 0)
  have hpos := binade_pos j
  have h1 := binade_add j 1
  have h45 := binade_add j 45
  have h53 := binade_add j 53
  have h54 := binade_add j 54
  have h55 : binade 55 ≤ binade (j + 45) := binade_mono (by omega)
  have h900 : binade (j + 54) ≤ binade 900 := binade_mono (by omega)
  have hwhole : AtMost (n.toNat * binade 0 + binade j) (number n.toFloat) := by
    apply atMost_toFloat (k := j)
    · rwa [hunits]
    · exact Nat.le_of_eq (congrArg (· + binade j) hunits)
    · omega
  have hsum : n.toNat * binade 0 + binade j + binade 55 + binade (j + 1) < binade (j + 54) := by
    omega
  have hnext : binade (j + 1 + 53) = binade (j + 54) := congrArg binade (Nat.add_assoc _ _ _)
  refine ⟨_, hsum, ?_⟩
  rw [number_add]
  exact (hwhole.add hfraction (by omega) (Nat.le_refl _)).unpack_pack (by omega)

theorem isSome_ofParts? {n : Nat} (h : n < 2 ^ 64 * 1000000000) : (ofParts? 0 n).isSome := by
  have hrange : 0 * 1000000000 + n < secondsBound * 1000000000 := by
    unfold secondsBound UInt64.size
    omega
  simp only [ofParts?, hrange, if_true, Option.isSome_some]

/-- A number below `2 ^ 64` is a number of seconds. -/
theorem isSome_ofFloat? {x : Float} {b : Nat} (h : AtMost b (number x)) (hb : b < binade 64) :
    (ofFloat? x).isSome := by
  have hexp := (reads_number x).exponent_le h hb
  rw [toNat_unpackExponent] at hexp
  have hfraction : x.toBits.toNat % fractionBound < 2 ^ 52 := Nat.mod_lt _ (by decide)
  unfold ofFloat?
  rw [if_neg h.notNegative.not_lt_zero]
  dsimp only
  generalize x.toBits.toNat / fractionBound % 2048 = exponent at *
  generalize x.toBits.toNat % fractionBound = fraction at *
  rw [if_neg (by omega)]
  generalize hs : (if exponent = 0 then fraction else fraction + fractionBound) = significand
  have hsignificand : significand < 2 ^ 53 := by
    rw [← hs]
    unfold fractionBound
    split <;> omega
  apply isSome_ofParts?
  split
  · have hpow : 2 ^ (exponent - 1075) ≤ 2 ^ 11 := Nat.pow_le_pow_right (by decide) (by omega)
    calc significand * 1000000000 * Nat.pow 2 (exponent - 1075)
        ≤ significand * 1000000000 * 2 ^ 11 := Nat.mul_le_mul_left _ hpow
      _ < 2 ^ 64 * 1000000000 := by omega
  · have hround := roundQuotient_le (significand * 1000000000) (Nat.pow 2 (1075 - max exponent 1))
    have hdiv := Nat.div_le_self (significand * 1000000000) (Nat.pow 2 (1075 - max exponent 1))
    omega

theorem isSome_scale? {factor : Float} {cap : Duration} (hfactor : 0 ≤ factor)
    (hcap : cap.seconds < 2 ^ 63) (d : Duration) : (d.scale? factor cap).isSome := by
  have hd : d.seconds.toUInt64.toNat < 2 ^ (11 + 53) := UInt64.toNat_lt _
  have hseconds : cap.seconds.toUInt64.toNat < 2 ^ (10 + 53) := by
    have htoNat : cap.seconds.toUInt64.toNat = cap.seconds :=
      UInt64.toNat_ofNat_of_lt' (Nat.lt_trans hcap (by decide))
    omega
  obtain ⟨b, -, hduration⟩ := exists_atMost_toFloat (by decide) (by decide) hd
  obtain ⟨c, hc, hlimit⟩ := exists_atMost_toFloat (by decide) (by decide) hseconds
  have hproduct : NotNegative (number (d.toFloat * factor)) := by
    rw [number_mul]
    exact (hduration.notNegative.mul (notNegative_of_zero_le hfactor)).unpack_pack
  unfold scale?
  dsimp only
  split
  · rename_i hlt
    exact isSome_ofFloat? (hlimit.of_lt hproduct hlt) hc
  · exact isSome_ofFloat? hlimit hc

end Duration

end FleetSync
