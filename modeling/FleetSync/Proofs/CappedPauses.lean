import FleetSync.Proofs.Retries

/-!
# Which pauses the cap holds for

A pause that is computed from another one is cut off at the cap, as a double, and rounded to whole
nanoseconds. Rounding keeps the order, so the computed pauses are at most what becomes of the cap
itself. The first pause is not computed, and the cap does not hold for it.
-/
namespace FleetSync

/-! Nearest quotients -/
section RoundQuotient
variable {m n d k q : Nat}

theorem div_le_roundQuotient (n d : Nat) : n / d ≤ roundQuotient n d := by
  unfold roundQuotient
  dsimp only
  split
  · exact Nat.le_refl _
  · split
    · exact Nat.le_succ _
    · split
      · exact Nat.le_refl _
      · exact Nat.le_succ _

theorem roundQuotient_mul_right (hk : 0 < k) :
    roundQuotient (n * k) (d * k) = roundQuotient n d := by
  have hlt (a b : Nat) : 2 * (a * k) < b * k ↔ 2 * a < b := by
    rw [← Nat.mul_assoc]
    exact Nat.mul_lt_mul_right hk
  have hgt (a b : Nat) : b * k < 2 * (a * k) ↔ b < 2 * a := by
    rw [← Nat.mul_assoc]
    exact Nat.mul_lt_mul_right hk
  unfold roundQuotient
  dsimp only
  simp only [Nat.mul_div_mul_right _ _ hk, Nat.mul_mod_mul_right, hlt, hgt]

theorem roundQuotient_mul_self (hd : 0 < d) : roundQuotient (n * d) d = n := by
  unfold roundQuotient
  dsimp only
  rw [Nat.mul_mod_left, Nat.mul_div_cancel _ hd, if_pos hd]

theorem roundQuotient_mono (h : m ≤ n) : roundQuotient m d ≤ roundQuotient n d := by
  rcases Nat.lt_or_eq_of_le (Nat.div_le_div_right h (c := d)) with hlt | heq
  · calc roundQuotient m d ≤ m / d + 1 := roundQuotient_le m d
      _ ≤ n / d := hlt
      _ ≤ roundQuotient n d := div_le_roundQuotient n d
  · have hrest : m % d ≤ n % d := by
      have hm := Nat.div_add_mod m d
      have hn := Nat.div_add_mod n d
      rw [heq] at hm
      omega
    unfold roundQuotient
    dsimp only
    rw [heq]
    repeat' split
    all_goals omega

theorem roundQuotient_le_of_lt (h : 2 * n < (2 * q + 1) * d) : roundQuotient n d ≤ q := by
  have hn := Nat.div_add_mod n d
  rw [Nat.mul_comm] at hn
  have hparts : (2 * (n / d)) * d + 2 * (n % d) < (2 * q + 1) * d := by
    rw [Nat.mul_assoc]
    omega
  have hle : n / d ≤ q := by
    have hlt : 2 * (n / d) < 2 * q + 1 :=
      Nat.lt_of_mul_lt_mul_right (Nat.lt_of_le_of_lt (Nat.le_add_right _ _) hparts)
    omega
  have hup : d ≤ 2 * (n % d) → n / d + 1 ≤ q := by
    intro hhalf
    have hlt : 2 * (n / d) + 1 < 2 * q + 1 := by
      apply Nat.lt_of_mul_lt_mul_right (a := d)
      rw [Nat.succ_mul]
      omega
    omega
  unfold roundQuotient
  dsimp only
  repeat' split
  all_goals omega

end RoundQuotient

/-! Durations of doubles -/
namespace Duration
open Float.Model (Format UnpackedFloat)
open Float.Model.UnpackedFloat (Sign unpackExponent unpackMantissa unpack)
open Doubles

/-- The units of a number that is not below zero, if it is finite. -/
def units : UnpackedFloat → Nat
  | .finite _ m e _ => unitsOf m e
  | _ => 0

@[simp] theorem units_finite {s : Sign} {m : Nat} {e : Int} {h : 0 < m} :
    units (.finite s m e h) = unitsOf m e := rfl

/-- The nearest nanosecond of so many units of a second. -/
def ofUnits (n : Nat) : Duration := ⟨roundQuotient (n * 1000000000) (binade 0)⟩

/-- What becomes of a duration that is taken as a double and rounded. -/
def nearest (d : Duration) : Duration := ofUnits (units (number d.toFloat))

theorem ofUnits_mono {m n : Nat} (h : m ≤ n) : ofUnits m ≤ ofUnits n :=
  roundQuotient_mono (Nat.mul_le_mul_right _ h)

theorem atMost_units {b : Nat} {u : UnpackedFloat} (h : AtMost b u) : AtMost (units u) u := by
  cases h with
  | zero s => exact .zero s
  | finite hm he hb => exact .finite hm he (Nat.le_refl _)

theorem units_le {b : Nat} {u : UnpackedFloat} (h : AtMost b u) : units u ≤ b := by
  cases h with
  | zero s => exact Nat.zero_le _
  | finite hm he hb => exact hb

theorem toNat_unpackMantissa (x : Float) :
    (@unpackMantissa Format.binary64 x.toBits.toBitVec).toNat =
      x.toBits.toNat % Duration.fractionBound := by
  simp only [unpackMantissa, BitVec.toNat_cast, BitVec.extractLsb, BitVec.extractLsb'_toNat,
    Nat.shiftRight_eq_div_pow, Nat.pow_zero, Nat.div_one]
  rfl

theorem unpackMantissa_of_zero {b : BitVec 64} {s : Sign}
    (h : unpack Format.binary64 b = .zero s) : (@unpackMantissa Format.binary64 b).toNat = 0 := by
  unfold unpack at h
  dsimp only at h
  split at h
  · split at h <;> cases h
  · split at h
    · split at h
      · rename_i hzero
        exact congrArg BitVec.toNat hzero
      · cases h
    · cases h

theorem units_eq {b : Nat} {x : Float} (h : AtMost b (number x)) :
    x.toBits.toNat / fractionBound % 2048 < 2047 ∧
    units (number x) =
      (if x.toBits.toNat / fractionBound % 2048 = 0 then x.toBits.toNat % fractionBound
        else x.toBits.toNat % fractionBound + fractionBound) *
      2 ^ (max (x.toBits.toNat / fractionBound % 2048) 1 - 1) := by
  have hread := reads_number x
  have hexponent := toNat_unpackExponent x
  have hfraction := toNat_unpackMantissa x
  have hzero (s : Sign) (hx : number x = .zero s) : x.toBits.toNat % fractionBound = 0 := by
    rw [← hfraction]
    exact unpackMantissa_of_zero hx
  rw [← hexponent, ← hfraction] at *
  generalize number x = u at *
  generalize @unpackExponent Format.binary64 x.toBits.toBitVec = exponent at *
  generalize @unpackMantissa Format.binary64 x.toBits.toBitVec = fraction at *
  cases hread with
  | infinity hx => cases h
  | notANumber hx => cases h
  | zero hx =>
    rw [hx, if_pos rfl, hzero _ rfl]
    exact ⟨by decide, rfl⟩
  | subnormal hx =>
    rw [hx, if_pos rfl]
    exact ⟨by decide, rfl⟩
  | normal hx hlt =>
    rw [if_neg (by omega)]
    refine ⟨hlt, ?_⟩
    have hexp : ((exponent.toNat : Int) - 1075 + 1074).toNat = max exponent.toNat 1 - 1 := by omega
    have hbound : 2 ^ 52 = fractionBound := rfl
    rw [units_finite]
    unfold unitsOf
    rw [hexp, hbound, Nat.add_comm]

theorem two_pow_eq_mul_binade {exponent : Nat} (h : 1075 ≤ exponent) :
    2 ^ (exponent - 1) = 2 ^ (exponent - 1075) * binade 0 := by
  have hexp : exponent - 1 = exponent - 1075 + 1074 := by omega
  rw [← binade_eq]
  unfold binade
  exact congrArg (2 ^ ·) hexp

theorem binade_zero_eq_mul {exponent : Nat} (h : exponent ≤ 1075) (hpos : 0 < exponent) :
    binade 0 = 2 ^ (1075 - exponent) * 2 ^ (exponent - 1) := by
  have hexp : 0 + 1074 = 1075 - exponent + (exponent - 1) := by omega
  unfold binade
  rw [hexp]
  exact Nat.pow_add _ _ _

theorem ofFloat?_eq {b : Nat} {x : Float} (h : AtMost b (number x)) :
    ofFloat? x = ofParts? 0 (ofUnits (units (number x))).nanoseconds := by
  obtain ⟨hlt, hunits⟩ := units_eq h
  unfold ofFloat? ofUnits
  rw [if_neg h.notNegative.not_lt_zero, hunits]
  dsimp only
  generalize x.toBits.toNat / fractionBound % 2048 = exponent at *
  generalize (if exponent = 0 then x.toBits.toNat % fractionBound
    else x.toBits.toNat % fractionBound + fractionBound) = significand at *
  rw [if_neg (by omega)]
  congr 1
  split
  · rename_i hlarge
    rw [Nat.max_eq_left (by omega), two_pow_eq_mul_binade hlarge, ← Nat.mul_assoc,
      Nat.mul_right_comm _ (binade 0), roundQuotient_mul_self (binade_pos 0), Nat.mul_right_comm]
    rfl
  · have hbinade : binade 0 = 2 ^ (1075 - max exponent 1) * 2 ^ (max exponent 1 - 1) :=
      binade_zero_eq_mul (by omega) (by omega)
    rw [hbinade, Nat.mul_right_comm significand, roundQuotient_mul_right (Nat.two_pow_pos _)]
    rfl

theorem exists_atMost_number (d : Duration) : ∃ b, AtMost b (number d.toFloat) := by
  have hseconds : d.seconds.toUInt64.toNat < 2 ^ (11 + 53) := UInt64.toNat_lt _
  obtain ⟨b, -, hb⟩ := exists_atMost_toFloat (by decide) (by decide) hseconds
  exact ⟨b, hb⟩

theorem le_nearest_of_scale? {d d' cap : Duration} {factor : Float} (hfactor : 0 ≤ factor)
    (h : d.scale? factor cap = some d') : d' ≤ cap.nearest := by
  obtain ⟨b, hduration⟩ := exists_atMost_number d
  obtain ⟨c, hlimit⟩ := exists_atMost_number cap
  have hproduct : NotNegative (number (d.toFloat * factor)) := by
    rw [number_mul]
    exact (hduration.notNegative.mul (notNegative_of_zero_le hfactor)).unpack_pack
  have hofParts {n : Nat} (hn : ofParts? 0 n = some d') : d' = ⟨n⟩ := by
    unfold ofParts? at hn
    rw [Nat.zero_mul, Nat.zero_add] at hn
    dsimp only at hn
    split at hn
    · exact (Option.some.inj hn).symm
    · cases hn
  unfold scale? at h
  dsimp only at h
  split at h
  · rename_i hlt
    have hbelow := (atMost_units hlimit).of_lt hproduct hlt
    rw [ofFloat?_eq hbelow] at h
    rw [hofParts h]
    exact ofUnits_mono (units_le hbelow)
  · rw [ofFloat?_eq hlimit] at h
    rw [hofParts h]
    exact Nat.le_refl _

theorem binade_zero_eq_step : binade 0 = 2 ^ 40 * step 1034 :=
  (binade_eq_step 0).trans (step_add 1034 40)

/-- The fraction of a second as a double, up to the fortieth binary place. -/
theorem atMost_subsecond {n : UInt64} (hn : n.toNat < 1000000000) : ∃ b,
    AtMost b (number (n.toFloat / 1000000000)) ∧
      b * 1000000000 ≤ n.toNat * binade 0 + (2 ^ 17 + 1000000000) * step 1034 := by
  have hunits : unitsOf n.toNat 0 = n.toNat * binade 0 := unitsOf_natCast _ 0
  have hnanos : n.toNat * binade 0 ≤ 999999999 * binade 0 := Nat.mul_le_mul_right _ (by omega)
  have hsecond := binade_zero_eq_step
  have h1051 : step 1051 = 2 ^ 17 * step 1034 := step_add 1034 17
  have h1104 : step (1051 + 53) = 2 ^ 70 * step 1034 := step_add 1034 70
  have h1105 : step 1105 = 2 ^ 71 * step 1034 := step_add 1034 71
  have h900 : step 1105 ≤ binade 900 := by
    rw [binade_eq_step]
    exact step_mono (by decide)
  have hpos := step_pos 1034
  generalize hs : step 1034 = s at *
  generalize hN : n.toNat * binade 0 = N at *
  have hwhole : AtMost (N + step 1051) (number n.toFloat) := by
    apply atMost_toFloat_step (k := 1051)
    · rw [hunits]
      omega
    · rw [hunits]
    · omega
  refine ⟨(N + step 1051) / 1000000000 + s, ?_, by omega⟩
  rw [number_div, number_billion]
  apply AtMost.unpack_pack
  · apply hwhole.div_step (i := 1105) (j := 52) (k := 1034)
    · omega
    · decide
    · decide
    · rw [Nat.mul_div_mul_right _ _ (Nat.two_pow_pos 23), hs]
  · omega

theorem nearest_le {d : Duration} (h : d.seconds < 2 ^ 21) : d.nearest ≤ d := by
  have hseconds : d.seconds.toUInt64.toNat = d.seconds :=
    UInt64.toNat_ofNat_of_lt' (Nat.lt_trans h (by decide))
  have hsubsecond : d.subsecond < 1000000000 := Nat.mod_lt _ (by decide)
  have hfraction : d.subsecond.toUInt64.toNat = d.subsecond :=
    UInt64.toNat_ofNat_of_lt' (Nat.lt_trans hsubsecond (by decide))
  have hparts : d.nanoseconds = d.seconds * 1000000000 + d.subsecond := by
    unfold seconds subsecond
    omega
  obtain ⟨f, hf, hbound⟩ := atMost_subsecond (n := d.subsecond.toUInt64) (by omega)
  rw [hfraction] at hbound
  have hunits : unitsOf d.seconds.toUInt64.toNat 0 = d.seconds * binade 0 := by
    rw [hseconds]
    exact unitsOf_natCast _ 0
  have hwhole : d.seconds * binade 0 ≤ (2 ^ 21 - 1) * binade 0 :=
    Nat.mul_le_mul_right _ (by omega)
  have hnanos : d.subsecond * binade 0 ≤ 999999999 * binade 0 :=
    Nat.mul_le_mul_right _ (by omega)
  have hsecond := binade_zero_eq_step
  have h1042 : step 1042 = 2 ^ 8 * step 1034 := step_add 1034 8
  have h1095 : step (1042 + 53) = 2 ^ 61 * step 1034 := step_add 1034 61
  have h900 : step (1042 + 53) ≤ binade 900 := by
    rw [binade_eq_step]
    exact step_mono (by decide)
  have hpos := step_pos 1034
  have htimes : (2 * d.nanoseconds + 1) * binade 0 =
      2 * (d.seconds * binade 0) * 1000000000 + 2 * (d.subsecond * binade 0) + binade 0 := by
    rw [hparts]
    ring
  have hsum : AtMost (d.seconds * binade 0 + step 1042 + f + step 1042) (number d.toFloat) := by
    have hwholes : AtMost (d.seconds * binade 0 + step 1042)
        (number d.seconds.toUInt64.toFloat) := by
      apply atMost_toFloat_step (k := 1042)
      · omega
      · omega
      · omega
    unfold toFloat
    rw [number_add]
    apply AtMost.unpack_pack
    · apply hwholes.add_step hf (k := 1042)
      · omega
      · omega
    · omega
  have hnearest := units_le hsum
  apply roundQuotient_le_of_lt
  rw [htimes]
  omega

end Duration

namespace RetrySchedule
variable {ε α : Type} {maxAttempts : Nat} {first cap : Duration} {factor : Float}

theorem pauses_succ_le (hfactor : 0 ≤ factor) (n : Nat) :
    (growing maxAttempts first cap factor).pauses (n + 1) ≤ cap.nearest ∨
      (growing maxAttempts first cap factor).pauses (n + 1) =
        (growing maxAttempts first cap factor).pauses n := by
  cases h : ((growing maxAttempts first cap factor).pauses n).scale? factor cap with
  | none => exact .inr (congrArg (Option.getD · _) h)
  | some d =>
    have hnext : (growing maxAttempts first cap factor).pauses (n + 1) = d :=
      congrArg (Option.getD · _) h
    rw [hnext]
    exact .inl (Duration.le_nearest_of_scale? hfactor h)

theorem pauses_le (hfactor : 0 ≤ factor) (n : Nat) :
    (growing maxAttempts first cap factor).pauses n = first ∨
      (growing maxAttempts first cap factor).pauses n ≤ cap.nearest := by
  induction n with
  | zero => exact .inl rfl
  | succ n ih =>
    rcases pauses_succ_le hfactor n with hle | heq
    · exact .inr hle
    · rwa [heq]

theorem mem_history {s : RetrySchedule} {n : Nat} {d : Duration} :
    .pause d ∈ s.history n ↔ ∃ i < n, s.pauses i = d := by
  induction n with
  | zero => simp [history]
  | succ n ih =>
    simp only [history, List.mem_append, ih, List.mem_cons, reduceCtorEq, false_or,
      Event.pause.injEq, List.not_mem_nil, or_false, Nat.lt_succ_iff_lt_or_eq]
    constructor
    · rintro (⟨i, hi, rfl⟩ | rfl)
      · exact ⟨i, .inl hi, rfl⟩
      · exact ⟨n, .inr rfl, rfl⟩
    · rintro ⟨i, hi | rfl, rfl⟩
      · exact .inl ⟨i, hi, rfl⟩
      · exact .inr rfl

/-- What is recorded of so many rounds of the loop, or of a run. -/
inductive Recorded (s : RetrySchedule) (retryable : ε → Bool) (outcome : Nat → Except ε α) :
    List Event → Prop
  | loop (n : Nat) : Recorded s retryable outcome (s.loop retryable outcome n).2
  | run (n : Nat) : Recorded s retryable outcome (s.recordedRun retryable outcome n).2

section Recorded
variable {s : RetrySchedule} {retryable : ε → Bool} {outcome : Nat → Except ε α} {n : Nat}

theorem record_roundsAndAttempt (hs : s.maxAttempts < UInt32.size) (n : Nat) :
    ∃ k, (∀ i < k, s.decides retryable outcome i = false) ∧
      ((s.roundsAndAttempt retryable recordPause (nextAttempt outcome) n ⟨0, s.firstPause⟩).run
        []).2 = s.history k ++ [.attempt] := by
  rcases decidedAt_or n with ⟨k, hk, hdecided⟩ | hnone
  · rw [roundsAndAttempt_of_decidedAt hs hdecided (Nat.le_of_lt hk)]
    exact ⟨k, hdecided.undecided, rfl⟩
  · have hloop : (s.rounds retryable recordPause (nextAttempt outcome) n ⟨0, s.firstPause⟩).run [] =
        s.loop retryable outcome n := rfl
    refine ⟨n, hnone, ?_⟩
    unfold roundsAndAttempt
    rw [StateT.run_bind, hloop, loop_of_not_decides hs hnone]
    exact congrArg Prod.snd (run_nextAttempt n)

/-- A record shows attempts that did not decide, with their pauses, and at most one more attempt. -/
theorem Recorded.exists_history {es : List Event} (hs : s.maxAttempts < UInt32.size)
    (h : s.Recorded retryable outcome es) :
    ∃ k, (∀ i < k, s.decides retryable outcome i = false) ∧
      (es = s.history k ∨ es = s.history k ++ [.attempt]) := by
  cases h with
  | loop n =>
    rcases decidedAt_or n with ⟨k, hk, hdecided⟩ | hnone
    · rw [loop_of_decidedAt hs hdecided hk]
      exact ⟨k, hdecided.undecided, .inr rfl⟩
    · rw [loop_of_not_decides hs hnone]
      exact ⟨n, hnone, .inl rfl⟩
  | run n =>
    have hrun (left : Nat) (hleft : s.maxAttempts = 0 ∨ left < s.maxAttempts) :
        ∃ k, (∀ i < k, s.decides retryable outcome i = false) ∧
          ((s.attempts retryable recordPause (nextAttempt outcome) left s.firstPause).run []).2 =
            s.history k ++ [.attempt] := by
      have hcount : s.maxAttempts = 0 ∨ (0 : UInt32).toNat + left < s.maxAttempts := by
        simpa using hleft
      rw [attempts_eq_roundsAndAttempt hs hcount]
      exact record_roundsAndAttempt hs left
    unfold recordedRun RetrySchedule.run
    dsimp only
    split
    · rename_i hunbounded
      obtain ⟨k, hk, hrecord⟩ := hrun (n - 1) (.inl hunbounded)
      exact ⟨k, hk, .inr hrecord⟩
    · obtain ⟨k, hk, hrecord⟩ := hrun (s.maxAttempts - 1) (.inr (by omega))
      exact ⟨k, hk, .inr hrecord⟩

/-- No pause follows the last attempt that the bound allows. -/
theorem Recorded.exists_pauses {es : List Event} {d : Duration} (hs : s.maxAttempts < UInt32.size)
    (h : s.Recorded retryable outcome es) (hmem : .pause d ∈ es) :
    ∃ i, s.pauses i = d ∧ (s.maxAttempts = 0 ∨ i + 1 < s.maxAttempts) := by
  obtain ⟨k, hk, hes⟩ := h.exists_history hs
  have hhistory : .pause d ∈ s.history k := by
    rcases hes with rfl | rfl
    · exact hmem
    · simpa using hmem
  obtain ⟨i, hi, hpause⟩ := mem_history.1 hhistory
  have hbound := unbounded_or_lt hk
  exact ⟨i, hpause, by omega⟩

end Recorded

theorem first_mem_loop {s : RetrySchedule} (e : ε) (hs : s.maxAttempts < UInt32.size)
    (hmany : s.maxAttempts ≠ 1) :
    .pause s.firstPause ∈ (s.loop (fun _ => true) (fun _ => (.error e : Except ε α)) 1).2 := by
  have hundecided : ∀ i < 1, s.decides (fun _ => true) (fun _ => (.error e : Except ε α)) i =
      false := by
    intro i hi
    obtain rfl : i = 0 := by omega
    simp [decides, hmany.symm]
  rw [loop_of_not_decides hs hundecided]
  exact mem_history.2 ⟨0, Nat.one_pos, rfl⟩

/-- A pause that was computed is at most the cap as a double, so every pause of every run is the
first one or within that bound, which is the cap itself or less for caps below twenty-four days. For
a cap with such a bound, no pause of any run exceeds the cap exactly if the first one does not, or
if there is no second attempt to pause for. -/
theorem pauses_capped_iff_first_capped (maxAttempts : UInt32) (first cap : Duration)
    {factor : Float} (hfactor : 0 ≤ factor) :
    let s := growing maxAttempts.toNat first cap factor
    (∀ d d', s.nextPause? d = some d' → d' ≤ cap.nearest) ∧
    (∀ (retryable : ε → Bool) (outcome : Nat → Except ε α) (es : List Event) (d : Duration),
      s.Recorded retryable outcome es → .pause d ∈ es → d = first ∨ d ≤ cap.nearest) ∧
    (cap.seconds < 2 ^ 21 → cap.nearest ≤ cap) ∧
    (cap.nearest ≤ cap → Nonempty ε →
      ((∀ (retryable : ε → Bool) (outcome : Nat → Except ε α) (es : List Event) (d : Duration),
        s.Recorded retryable outcome es → .pause d ∈ es → d ≤ cap) ↔
        first ≤ cap ∨ maxAttempts = 1)) := by
  intro s
  have hs : s.maxAttempts < UInt32.size := UInt32.toNat_lt maxAttempts
  refine ⟨fun d d' h => Duration.le_nearest_of_scale? hfactor h, ?_, Duration.nearest_le, ?_⟩
  · intro retryable outcome es d hes hmem
    obtain ⟨i, rfl, -⟩ := hes.exists_pauses hs hmem
    exact pauses_le hfactor i
  · rintro hcap ⟨e⟩
    constructor
    · intro hall
      by_cases hone : maxAttempts = 1
      · exact .inr hone
      · have hmany : s.maxAttempts ≠ 1 := fun h => hone (UInt32.toNat_inj.1 h)
        exact .inl (hall _ _ _ first (.loop 1) (first_mem_loop e hs hmany))
    · intro hfirst retryable outcome es d hes hmem
      obtain ⟨i, rfl, hbound⟩ := hes.exists_pauses hs hmem
      rcases hfirst with hle | rfl
      · have hpauses : s.pauses i = first ∨ s.pauses i ≤ cap.nearest := pauses_le hfactor i
        rcases hpauses with heq | hnearest
        · rw [heq]
          exact hle
        · exact Nat.le_trans hnearest hcap
      · have hmax : s.maxAttempts = 1 := rfl
        omega

def slowStart : RetrySchedule := growing 3 (.ofSeconds 60) (.ofSeconds 30) 2

/-- The cap does not hold for the first pause. -/
theorem first_pause_exceeds_cap :
    (slowStart.recordedRun (fun _ => true) (fun n => (.error n : Except Nat Unit)) 3).2 =
      [.attempt, .pause (.ofSeconds 60), .attempt, .pause (.ofSeconds 30), .attempt] ∧
    (Duration.ofSeconds 30).nearest ≤ .ofSeconds 30 ∧
    ¬∀ (retryable : Nat → Bool) (outcome : Nat → Except Nat Unit) (es : List Event) (d : Duration),
      slowStart.Recorded retryable outcome es → .pause d ∈ es → d ≤ .ofSeconds 30 := by
  have hfactor : (0 : Float) ≤ 2 := by decide +kernel
  obtain ⟨-, -, hsmall, hiff⟩ := pauses_capped_iff_first_capped (ε := Nat) (α := Unit) 3
    (.ofSeconds 60) (.ofSeconds 30) hfactor
  have hnearest := hsmall (by decide)
  refine ⟨by decide +kernel, hnearest, ?_⟩
  intro hall
  exact absurd ((hiff hnearest ⟨0⟩).1 hall) (by decide)

end RetrySchedule

end FleetSync
