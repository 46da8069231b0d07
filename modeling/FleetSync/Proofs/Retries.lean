import FleetSync.Proofs.Scaling
import FleetSync.Retry

/-!
# How often an operation is attempted

A run is a loop that counts its attempts in 32 bits: each round counts its attempt before it is
made, and compares the count with the bound after it failed. The loop ends with the first attempt
that decides, which is one that succeeds, one whose failure is not worth another, or the last one
that the bound allows. Until then each attempt is followed by one pause.
-/
namespace FleetSync.RetrySchedule

/-- What a round leaves to the next one. -/
structure Progress where
  made : UInt32
  pause : Duration
  deriving DecidableEq, Repr

def Exhausted (s : RetrySchedule) (made : UInt32) : Prop :=
  0 < s.maxAttempts ∧ s.maxAttempts ≤ made.toNat

instance (s : RetrySchedule) (made : UInt32) : Decidable (s.Exhausted made) :=
  inferInstanceAs (Decidable (_ ∧ _))

theorem toNat_add_one {c : UInt32} {n : Nat} (h : c.toNat < n) (hn : n < UInt32.size) :
    (c + 1).toNat = c.toNat + 1 := by
  rw [UInt32.toNat_add]
  exact Nat.mod_eq_of_lt (Nat.lt_of_le_of_lt h hn)

section Loop
variable {m : Type → Type} [Monad m] {ε α : Type} (s : RetrySchedule) (retryable : ε → Bool)
  (sleep : Duration → m Unit) (operation : m (Except ε α))

/-- The result, or what is left to the next round. The count wraps, since overflow is taken to go
unchecked. Were it checked, a run without a bound would break off at its attempt 2 ^ 32. -/
def round (p : Progress) : m (Except ε α ⊕ Progress) := do
  match ← operation with
  | .ok a => return .inl (.ok a)
  | .error e =>
    if retryable e then
      if s.Exhausted (p.made + 1) then return .inl (.error e)
      else
        sleep p.pause
        return .inr ⟨p.made + 1, s.nextPause p.pause⟩
    else return .inl (.error e)

def rounds : Nat → Progress → m (Except ε α ⊕ Progress)
  | 0, p => return .inr p
  | n + 1, p => do
    match ← round s retryable sleep operation p with
    | .inl r => return .inl r
    | .inr p => rounds n p

/-- At most so many rounds, and one more attempt if the loop goes on after them. -/
def roundsAndAttempt (n : Nat) (p : Progress) : m (Except ε α) := do
  match ← s.rounds retryable sleep operation n p with
  | .inl r => return r
  | .inr _ => operation

variable {s} {retryable} {sleep} {operation} {left : Nat} {d : Duration}

/-- Attempts are rounds of the loop, as long as the bound allows another attempt after them. -/
theorem attempts_eq_roundsAndAttempt [LawfulMonad m] {made : UInt32}
    (hs : s.maxAttempts < UInt32.size)
    (h : s.maxAttempts = 0 ∨ made.toNat + left < s.maxAttempts) :
    s.attempts retryable sleep operation left d =
      s.roundsAndAttempt retryable sleep operation left ⟨made, d⟩ := by
  induction left generalizing made d with
  | zero => simp [attempts, roundsAndAttempt, rounds]
  | succ left ih =>
    have hleft : ¬ s.Exhausted (made + 1) ∧
        (s.maxAttempts = 0 ∨ (made + 1).toNat + left < s.maxAttempts) := by
      rcases h with h | h
      · simp [Exhausted, h]
      · have hmade := toNat_add_one (c := made) (by omega) hs
        simp only [Exhausted]
        omega
    simp only [attempts, roundsAndAttempt, rounds, round, bind_assoc]
    congr 1
    funext r
    cases r with
    | ok a => simp
    | error e =>
      by_cases hretry : retryable e
      · simp only [hretry, hleft.1, if_true, if_false, bind_assoc, pure_bind]
        congr 1
        funext u
        exact ih hleft.2
      · simp [hretry]

end Loop

/-! Recorded runs -/

/-- The pauses, each from the one before. -/
def pauses (s : RetrySchedule) : Nat → Duration
  | 0 => s.firstPause
  | n + 1 => s.nextPause (s.pauses n)

inductive Event where
  | attempt
  | pause (d : Duration)
  deriving DecidableEq, Repr

def history (s : RetrySchedule) : Nat → List Event
  | 0 => []
  | n + 1 => s.history n ++ [.attempt, .pause (s.pauses n)]

def progress (s : RetrySchedule) (n : Nat) : Progress := ⟨.ofNat n, s.pauses n⟩

theorem count_history (s : RetrySchedule) (n : Nat) : (s.history n).count .attempt = n := by
  induction n with
  | zero => rfl
  | succ n ih => simp [history, ih]

section Record
variable {ε α : Type} (s : RetrySchedule) (retryable : ε → Bool) (outcome : Nat → Except ε α)

def nextAttempt : StateM (List Event) (Except ε α) := fun es =>
  (outcome (es.count .attempt), es ++ [.attempt])

def recordPause (d : Duration) : StateM (List Event) Unit := fun es => ((), es ++ [.pause d])

def loop (n : Nat) : (Except ε α ⊕ Progress) × List Event :=
  (s.rounds retryable recordPause (nextAttempt outcome) n ⟨0, s.firstPause⟩).run []

def recordedRun (unbounded : Nat) : Except ε α × List Event :=
  (s.run unbounded retryable recordPause (nextAttempt outcome)).run []

def decides (n : Nat) : Bool :=
  match outcome n with
  | .ok _ => true
  | .error e => !retryable e || n + 1 == s.maxAttempts

/-- The attempt after so many others is the first one that decides. -/
structure DecidedAt (n : Nat) : Prop where
  decides : s.decides retryable outcome n = true
  undecided : ∀ i < n, s.decides retryable outcome i = false

variable {s} {retryable} {outcome} {n k i : Nat}

theorem lt_maxAttempts (hs : 0 < s.maxAttempts)
    (h : ∀ i < n, s.decides retryable outcome i = false) : n < s.maxAttempts := by
  apply Nat.lt_of_not_le
  intro hle
  have hlast := h (s.maxAttempts - 1) (by omega)
  unfold decides at hlast
  split at hlast
  · cases hlast
  · simp only [Bool.or_eq_false_iff, beq_eq_false_iff_ne] at hlast
    omega

theorem unbounded_or_lt (h : ∀ i < n, s.decides retryable outcome i = false) :
    s.maxAttempts = 0 ∨ n < s.maxAttempts :=
  (Nat.eq_zero_or_pos _).imp_right fun hpos => lt_maxAttempts hpos h

theorem exhausted_iff (hs : s.maxAttempts < UInt32.size)
    (hi : s.maxAttempts = 0 ∨ i < s.maxAttempts) :
    s.Exhausted (.ofNat i + 1) ↔ i + 1 = s.maxAttempts := by
  unfold Exhausted
  rcases hi with hi | hi
  · omega
  · have htoNat : (UInt32.ofNat i).toNat = i := UInt32.toNat_ofNat_of_lt' (by omega)
    rw [toNat_add_one (by omega) hs, htoNat]
    omega

theorem run_nextAttempt (n : Nat) : (nextAttempt outcome).run (s.history n) =
    (pure (outcome n, s.history n ++ [.attempt]) : Id _) := by
  simp [nextAttempt, StateT.run, count_history, pure]

theorem run_recordPause (d : Duration) (es : List Event) :
    (recordPause d).run es = (pure ((), es ++ [.pause d]) : Id _) := rfl

theorem round_of_decides (hs : s.maxAttempts < UInt32.size)
    (hi : s.maxAttempts = 0 ∨ i < s.maxAttempts) (h : s.decides retryable outcome i = true) :
    (s.round retryable recordPause (nextAttempt outcome) (s.progress i)).run (s.history i) =
      (.inl (outcome i), s.history i ++ [.attempt]) := by
  unfold round
  rw [StateT.run_bind, run_nextAttempt, pure_bind]
  unfold decides at h
  split at h
  · rename_i a ho
    simp only [ho, StateT.run_pure]
    rfl
  · rename_i e ho
    simp only [Bool.or_eq_true, Bool.not_eq_true', beq_iff_eq] at h
    rcases h with hretry | hlast
    · simp only [ho, hretry, Bool.false_eq_true, if_false, StateT.run_pure]
      rfl
    · have hexhausted : s.Exhausted ((s.progress i).made + 1) := (exhausted_iff hs hi).2 hlast
      simp only [ho, hexhausted, if_true, ite_self, StateT.run_pure]
      rfl

theorem round_of_not_decides (hs : s.maxAttempts < UInt32.size)
    (hi : s.maxAttempts = 0 ∨ i < s.maxAttempts) (h : s.decides retryable outcome i = false) :
    (s.round retryable recordPause (nextAttempt outcome) (s.progress i)).run (s.history i) =
      (.inr (s.progress (i + 1)), s.history (i + 1)) := by
  unfold round
  rw [StateT.run_bind, run_nextAttempt, pure_bind]
  unfold decides at h
  split at h
  · cases h
  · rename_i e ho
    simp only [Bool.or_eq_false_iff, Bool.not_eq_false', beq_eq_false_iff_ne] at h
    obtain ⟨hretry, hlast⟩ := h
    have hexhausted : ¬ s.Exhausted ((s.progress i).made + 1) :=
      fun hexhausted => hlast ((exhausted_iff hs hi).1 hexhausted)
    have hmade : (s.progress (i + 1)).made = (s.progress i).made + 1 := UInt32.ofNat_add i 1
    simp only [ho, hretry, hexhausted, if_true, if_false]
    simp only [StateT.run_bind, StateT.run_pure, run_recordPause, pure_bind, history]
    rw [List.append_assoc, ← hmade]
    rfl

theorem rounds_of_not_decides (hs : s.maxAttempts < UInt32.size)
    (h : ∀ j < i + n, s.decides retryable outcome j = false) :
    (s.rounds retryable recordPause (nextAttempt outcome) n (s.progress i)).run (s.history i) =
      (.inr (s.progress (i + n)), s.history (i + n)) := by
  induction n generalizing i with
  | zero => rfl
  | succ n ih =>
    have hi : s.maxAttempts = 0 ∨ i < s.maxAttempts :=
      unbounded_or_lt fun j hj => h j (by omega)
    unfold rounds
    rw [StateT.run_bind, round_of_not_decides hs hi (h i (by omega))]
    have hrest := ih (i := i + 1) (fun j hj => h j (by omega))
    rw [Nat.add_right_comm] at hrest
    exact hrest

theorem rounds_of_decidedAt (hs : s.maxAttempts < UInt32.size)
    (hk : s.DecidedAt retryable outcome k) (hi : i ≤ k) (hn : k < i + n) :
    (s.rounds retryable recordPause (nextAttempt outcome) n (s.progress i)).run (s.history i) =
      (.inl (outcome k), s.history k ++ [.attempt]) := by
  induction n generalizing i with
  | zero => omega
  | succ n ih =>
    have hbound : s.maxAttempts = 0 ∨ i < s.maxAttempts :=
      unbounded_or_lt fun j hj => hk.undecided j (by omega)
    unfold rounds
    rw [StateT.run_bind]
    rcases Nat.eq_or_lt_of_le hi with rfl | hlt
    · rw [round_of_decides hs hbound hk.decides]
      rfl
    · rw [round_of_not_decides hs hbound (hk.undecided i hlt)]
      exact ih hlt (by omega)

theorem loop_of_not_decides (hs : s.maxAttempts < UInt32.size)
    (h : ∀ i < n, s.decides retryable outcome i = false) :
    s.loop retryable outcome n = (.inr (s.progress n), s.history n) := by
  have hrounds := rounds_of_not_decides (n := n) (i := 0) hs (by simpa using h)
  rwa [Nat.zero_add] at hrounds

theorem loop_of_decidedAt (hs : s.maxAttempts < UInt32.size)
    (hk : s.DecidedAt retryable outcome k) (hn : k < n) :
    s.loop retryable outcome n = (.inl (outcome k), s.history k ++ [.attempt]) :=
  rounds_of_decidedAt hs hk (Nat.zero_le k) (by omega)

theorem roundsAndAttempt_of_decidedAt (hs : s.maxAttempts < UInt32.size)
    (hk : s.DecidedAt retryable outcome k) (hn : k ≤ n) :
    (s.roundsAndAttempt retryable recordPause (nextAttempt outcome) n ⟨0, s.firstPause⟩).run [] =
      (outcome k, s.history k ++ [.attempt]) := by
  have hloop : (s.rounds retryable recordPause (nextAttempt outcome) n ⟨0, s.firstPause⟩).run [] =
      s.loop retryable outcome n := rfl
  unfold roundsAndAttempt
  rw [StateT.run_bind, hloop]
  rcases Nat.eq_or_lt_of_le hn with rfl | hlt
  · rw [loop_of_not_decides hs hk.undecided]
    exact run_nextAttempt k
  · rw [loop_of_decidedAt hs hk hlt]
    rfl

theorem recordedRun_of_decidedAt (hs : s.maxAttempts < UInt32.size)
    (hk : s.DecidedAt retryable outcome k) (hn : k < n) :
    s.recordedRun retryable outcome n = (outcome k, s.history k ++ [.attempt]) := by
  unfold recordedRun run
  dsimp only
  split
  · rename_i hunbounded
    rw [attempts_eq_roundsAndAttempt hs (.inl hunbounded)]
    exact roundsAndAttempt_of_decidedAt hs hk (by omega)
  · have hbound : k < s.maxAttempts := lt_maxAttempts (by omega) hk.undecided
    have hleft : (0 : UInt32).toNat + (s.maxAttempts - 1) < s.maxAttempts := by
      rw [UInt32.toNat_zero]
      omega
    rw [attempts_eq_roundsAndAttempt hs (.inr hleft)]
    exact roundsAndAttempt_of_decidedAt hs hk (by omega)

theorem decidedAt_or (n : Nat) : (∃ k < n, s.DecidedAt retryable outcome k) ∨
    ∀ i < n, s.decides retryable outcome i = false := by
  induction n with
  | zero => exact .inr nofun
  | succ n ih =>
    rcases ih with ⟨k, hk, hdecided⟩ | hnone
    · exact .inl ⟨k, Nat.lt_succ_of_lt hk, hdecided⟩
    · cases hn : s.decides retryable outcome n with
      | true => exact .inl ⟨n, Nat.lt_succ_self n, hn, hnone⟩
      | false => exact .inr (Nat.forall_lt_succ_right.2 ⟨hnone, hn⟩)

theorem exists_decidedAt (hs : 0 < s.maxAttempts) :
    ∃ k < s.maxAttempts, s.DecidedAt retryable outcome k := by
  rcases decidedAt_or s.maxAttempts with h | hnone
  · exact h
  · exact absurd (lt_maxAttempts hs hnone) (Nat.lt_irrefl _)

/-- The count of a bounded loop is the number of its attempts, also after the next one. -/
theorem toNat_made_add_one {p : Progress} (hs : s.maxAttempts < UInt32.size)
    (hpos : 0 < s.maxAttempts) (h : (s.loop retryable outcome n).1 = .inr p) :
    (p.made + 1).toNat = n + 1 := by
  rcases decidedAt_or n with ⟨k, hk, hdecided⟩ | hnone
  · rw [loop_of_decidedAt hs hdecided hk] at h
    cases h
  · rw [loop_of_not_decides hs hnone] at h
    cases h
    have hn := lt_maxAttempts hpos hnone
    have hmade : (s.progress n).made.toNat = n := UInt32.toNat_ofNat_of_lt' (by omega)
    rw [toNat_add_one (by omega) hs, hmade]

end Record

variable {ε α : Type}

theorem not_decides_of_retryable {s : RetrySchedule} {retryable : ε → Bool}
    {outcome : Nat → Except ε α} {n : Nat} (hs : s.maxAttempts = 0)
    (h : ∃ e, outcome n = .error e ∧ retryable e = true) :
    s.decides retryable outcome n = false := by
  obtain ⟨e, he, hretry⟩ := h
  simp [decides, he, hretry, hs]

theorem nextPause?_pauses {maxAttempts : Nat} {first cap : Duration} {factor : Float}
    (hfactor : 0 ≤ factor) (hcap : cap.seconds < 2 ^ 63) (n : Nat) :
    ((growing maxAttempts first cap factor).pauses n).scale? factor cap =
      some ((growing maxAttempts first cap factor).pauses (n + 1)) := by
  obtain ⟨d, hd⟩ := Option.isSome_iff_exists.1 (Duration.isSome_scale? hfactor hcap
    ((growing maxAttempts first cap factor).pauses n))
  have hnext : (growing maxAttempts first cap factor).pauses (n + 1) = d :=
    congrArg (Option.getD · _) hd
  rw [hnext, hd]

/-- Each pause is the one before, scaled by the factor and cut off at the cap. The first attempt
that decides ends the loop and the run with its result, and each attempt before it was followed by
one pause. As long as no attempt decides, the loop goes on. If the number of attempts is bounded,
one of them decides, and the count is exact also after the next attempt. If it is not, failures
that are worth another attempt never end the loop. -/
theorem retries_until_decided (maxAttempts : UInt32) (first : Duration) {cap : Duration}
    {factor : Float} (hfactor : 0 ≤ factor) (hcap : cap.seconds < 2 ^ 63)
    (retryable : ε → Bool) (outcome : Nat → Except ε α) :
    let s := growing maxAttempts.toNat first cap factor
    (s.pauses 0 = first ∧ ∀ n, (s.pauses n).scale? factor cap = some (s.pauses (n + 1))) ∧
    (∀ k, s.DecidedAt retryable outcome k → ∀ n, k < n →
      s.loop retryable outcome n = (.inl (outcome k), s.history k ++ [.attempt]) ∧
      s.recordedRun retryable outcome n = (outcome k, s.history k ++ [.attempt])) ∧
    (∀ n, (∀ i < n, s.decides retryable outcome i = false) →
      s.loop retryable outcome n = (.inr (s.progress n), s.history n)) ∧
    (maxAttempts ≠ 0 → (∃ k < maxAttempts.toNat, s.DecidedAt retryable outcome k) ∧
      ∀ n p, (s.loop retryable outcome n).1 = .inr p → (p.made + 1).toNat = n + 1) ∧
    (maxAttempts = 0 → ∀ n, (∀ i < n, ∃ e, outcome i = .error e ∧ retryable e = true) →
      (s.loop retryable outcome n).1 = .inr (s.progress n)) := by
  intro s
  have hs : s.maxAttempts < UInt32.size := UInt32.toNat_lt maxAttempts
  refine ⟨⟨rfl, nextPause?_pauses hfactor hcap⟩, ?_, fun n => loop_of_not_decides hs, ?_, ?_⟩
  · intro k hk n hn
    exact ⟨loop_of_decidedAt hs hk hn, recordedRun_of_decidedAt hs hk hn⟩
  · intro hne
    have hpos : 0 < s.maxAttempts := by
      apply Nat.pos_of_ne_zero
      intro hzero
      exact hne (UInt32.toNat_inj.1 hzero)
    exact ⟨exists_decidedAt hpos, fun n p => toNat_made_add_one hs hpos⟩
  · rintro rfl n hretry
    rw [loop_of_not_decides hs fun i hi => not_decides_of_retryable rfl (hretry i hi)]

/-- The pauses after a conflict are those that doubling in double precision gives. -/
theorem conflict_pauses (n : Nat) :
    conflict.pauses n = (growing 5 (.ofMillis 10) (.ofMillis 200) 2).pauses n := by
  have hcapped (n : Nat) : conflict.pauses (n + 5) = .ofMillis 200 ∧
      (growing 5 (.ofMillis 10) (.ofMillis 200) 2).pauses (n + 5) = .ofMillis 200 := by
    induction n with
    | zero => decide +kernel
    | succ n ih =>
      have hstays : conflict.nextPause (.ofMillis 200) = .ofMillis 200 ∧
          (growing 5 (.ofMillis 10) (.ofMillis 200) 2).nextPause (.ofMillis 200) =
            .ofMillis 200 := by
        decide +kernel
      exact ⟨(congrArg conflict.nextPause ih.1).trans hstays.1,
        (congrArg (nextPause _) ih.2).trans hstays.2⟩
  match n with
  | 0 | 1 | 2 | 3 | 4 => decide +kernel
  | n + 5 => rw [(hcapped n).1, (hcapped n).2]

def doubling : RetrySchedule := growing 3 (.ofMillis 10) (.ofMillis 200) 2

/-- The third failure is returned. -/
theorem doubling_fails : doubling.loop (fun _ => true) (fun n => (.error n : Except Nat Unit)) 3 =
    (.inl (.error 2), [.attempt, .pause (.ofMillis 10), .attempt, .pause (.ofMillis 20),
      .attempt]) := by
  have hdecided : doubling.DecidedAt (fun _ => true) (fun n => (.error n : Except Nat Unit)) 2 :=
    ⟨rfl, by decide⟩
  have hfactor : (0 : Float) ≤ 2 := by decide +kernel
  have hcap : (Duration.ofMillis 200).seconds < 2 ^ 63 := by decide
  obtain ⟨-, hends, -⟩ := retries_until_decided 3 (.ofMillis 10) hfactor hcap (fun _ => true)
    (fun n => (.error n : Except Nat Unit))
  have hloop := (hends 2 hdecided 3 (by decide)).1
  have hhistory : doubling.history 2 =
      [.attempt, .pause (.ofMillis 10), .attempt, .pause (.ofMillis 20)] := by
    decide +kernel
  exact hloop.trans (congrArg (fun es => (_, es ++ [Event.attempt])) hhistory)

end FleetSync.RetrySchedule
