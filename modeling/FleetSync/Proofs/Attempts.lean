import FleetSync.Proofs.Dialogue
import FleetSync.Sync

/-!
# Dialogues of repeated attempts

An attempt that is repeated after conflicts asks what its attempts ask, with a pause after each one
that failed and is followed by another one. It ends as its last attempt does. A synchronization is
such an attempt: it reads the concrete object, renders the template onto it and writes the result
if that differs.
-/
namespace FleetSync

variable {k : Kind}

abbrev Dialogue (k : Kind) := List (Exchange (Request k) Request.Answer)

def Exchange.failure? : Exchange (Request k) Request.Answer → Option Failure
  | ⟨.template _, .error f⟩ => some f
  | ⟨.concrete _, .error f⟩ => some f
  | ⟨.clusterName, .error f⟩ => some f
  | _ => none

def Exchange.reads : Exchange (Request k) Request.Answer → Bool
  | ⟨.template (.get _), _⟩ => true
  | ⟨.concrete (.get _), _⟩ => true
  | _ => false

def paused (d : Duration) : Exchange (Request k) Request.Answer := ⟨.pause d, ()⟩

/-- The exchanges of some attempts, `n` of them, that failed and were worth repeating, each followed
by a pause. -/
inductive Repeated {α : Type} (retryable : Failure → Bool)
    (operation : Task k (Except Failure α)) : Nat → Dialogue k → Prop
  | zero : Repeated retryable operation 0 []
  | succ {n es es' f} (d : Duration) (hends : operation.Ends es (.error f))
      (hf : retryable f = true) (hrest : Repeated retryable operation n es') :
      Repeated retryable operation (n + 1) (es ++ paused d :: es')

section Repeated
variable {α : Type} {s : RetrySchedule} {retryable : Failure → Bool}
  {operation : Task k (Except Failure α)} {es : Dialogue k} {q : Request k} {left : Nat}
  {d : Duration}

/-- A repeated attempt asks what one of its attempts asks, after the exchanges of the earlier
ones, or it pauses after an attempt that failed. -/
theorem asks_attempts (h : (s.attempts retryable pause operation left d).Asks es q) :
    ∃ n ≤ left, ∃ earlier es', es = earlier ++ es' ∧ Repeated retryable operation n earlier ∧
      (operation.Asks es' q ∨ ∃ f d, operation.Ends es' (.error f) ∧ retryable f = true ∧
        q = .pause d) := by
  induction left generalizing es d with
  | zero => exact ⟨0, Nat.le_refl _, [], es, rfl, .zero, .inl h⟩
  | succ left ih =>
    unfold RetrySchedule.attempts at h
    rcases Program.asks_bind.1 h with h | ⟨es₁, es₂, r, rfl, h₁, h₂⟩
    · exact ⟨0, Nat.zero_le _, [], es, rfl, .zero, .inl h⟩
    · cases r with
      | ok a => exact (Program.not_asks_done h₂).elim
      | error f =>
        dsimp only at h₂
        split at h₂
        · rename_i hf
          rcases Program.asks_bind.1 h₂ with h | ⟨es₃, es₄, u, rfl, h₃, h₄⟩
          · obtain ⟨rfl, rfl⟩ := Program.asks_send.1 h
            exact ⟨0, Nat.zero_le _, [], es₁, by simp, .zero, .inr ⟨f, d, h₁, hf, rfl⟩⟩
          · cases Program.ends_send.1 h₃
            obtain ⟨n, hn, earlier, es', rfl, hearlier, h'⟩ := ih h₄
            exact ⟨n + 1, Nat.succ_le_succ hn, es₁ ++ paused d :: earlier, es', by simp [paused],
              .succ d h₁ hf hearlier, h'⟩
        · exact (Program.not_asks_done h₂).elim

/-- A repeated attempt ends as its last attempt, after the exchanges of the earlier ones. If that
failed in a way worth repeating, no attempt was left. -/
theorem ends_attempts {r : Except Failure α}
    (h : (s.attempts retryable pause operation left d).Ends es r) :
    ∃ n ≤ left, ∃ earlier es', es = earlier ++ es' ∧ Repeated retryable operation n earlier ∧
      operation.Ends es' r ∧ ∀ f, r = .error f → retryable f = true → n = left := by
  induction left generalizing es d with
  | zero => exact ⟨0, Nat.le_refl _, [], es, rfl, .zero, h, fun _ _ _ => rfl⟩
  | succ left ih =>
    unfold RetrySchedule.attempts at h
    obtain ⟨es₁, es₂, r', rfl, h₁, h₂⟩ := Program.ends_bind.1 h
    cases r' with
    | ok a =>
      obtain ⟨rfl, rfl⟩ := Program.ends_done.1 h₂
      exact ⟨0, Nat.zero_le _, [], es₁, by simp, .zero, h₁, nofun⟩
    | error f =>
      dsimp only at h₂
      split at h₂
      · rename_i hf
        obtain ⟨es₃, es₄, u, rfl, h₃, h₄⟩ := Program.ends_bind.1 h₂
        cases Program.ends_send.1 h₃
        obtain ⟨n, hn, earlier, es', rfl, hearlier, h', hlast⟩ := ih h₄
        exact ⟨n + 1, Nat.succ_le_succ hn, es₁ ++ paused d :: earlier, es', by simp [paused],
          .succ d h₁ hf hearlier, h', fun f hr hf' => congrArg (· + 1) (hlast f hr hf')⟩
      · rename_i hf
        obtain ⟨rfl, rfl⟩ := Program.ends_done.1 h₂
        refine ⟨0, Nat.zero_le _, [], es₁, by simp, .zero, h₁, ?_⟩
        intro f' hr hf'
        cases hr
        exact (hf hf').elim

theorem asks_retryConflicts {attempt : Attempt k α} (h : (retryConflicts attempt).run.Asks es q) :
    ∃ n ≤ 4, ∃ earlier es', es = earlier ++ es' ∧
      Repeated Failure.isConflict attempt.run n earlier ∧
      (attempt.run.Asks es' q ∨ ∃ f d, attempt.run.Ends es' (.error f) ∧ f.isConflict = true ∧
        q = .pause d) :=
  asks_attempts h

theorem ends_retryConflicts {attempt : Attempt k α} {r : Except Failure α}
    (h : (retryConflicts attempt).run.Ends es r) :
    ∃ n ≤ 4, ∃ earlier es', es = earlier ++ es' ∧
      Repeated Failure.isConflict attempt.run n earlier ∧ attempt.run.Ends es' r := by
  obtain ⟨n, hn, earlier, es', hes, hearlier, hlast, -⟩ := ends_attempts h
  exact ⟨n, hn, earlier, es', hes, hearlier, hlast⟩

theorem Repeated.forall_mem {P : Exchange (Request k) Request.Answer → Prop} {n : Nat}
    (h : Repeated retryable operation n es)
    (hattempt : ∀ es f, operation.Ends es (.error f) → ∀ e ∈ es, P e)
    (hpaused : ∀ d, P (paused d)) : ∀ e ∈ es, P e := by
  induction h with
  | zero => exact fun _ he => (List.not_mem_nil he).elim
  | succ d hends hf hrest ih =>
    intro e he
    rcases List.mem_append.1 he with he | he
    · exact hattempt _ _ hends e he
    · rcases List.mem_cons.1 he with rfl | he
      · exact hpaused d
      · exact ih e he

theorem Repeated.countP_eq {p : Exchange (Request k) Request.Answer → Bool} {n : Nat}
    (h : Repeated retryable operation n es)
    (hattempt : ∀ es f, operation.Ends es (.error f) → es.countP p = 1)
    (hpaused : ∀ d, p (paused d) = false) : es.countP p = n := by
  induction h with
  | zero => rfl
  | succ d hends hf hrest ih =>
    rw [List.countP_append, List.countP_cons, ih, hattempt _ _ hends, hpaused]
    exact Nat.add_comm 1 _

/-- There were `n` attempts that failed with a conflict, at most four of them, and then the last
one, which ended in this way. Only the fifth attempt is the last one for a conflict. -/
structure Attempted (attempt : Attempt k α) (n : Nat) (earlier last : Dialogue k)
    (r : Except Failure α) : Prop where
  bounded : n ≤ 4
  conflicts : Repeated Failure.isConflict attempt.run n earlier
  ends : attempt.run.Ends last r
  exhausted : ∀ f, r = .error f → f.isConflict = true → n = 4

theorem Attempted.filterMap_eq {β : Type} {attempt : Attempt k α} {n : Nat}
    {earlier last : Dialogue k} {r : Except Failure α}
    {f : Exchange (Request k) Request.Answer → Option β} (h : Attempted attempt n earlier last r)
    (hattempt : ∀ es e, attempt.run.Ends es (.error e) → es.filterMap f = [])
    (hpaused : ∀ d, f (paused d) = none) : (earlier ++ last).filterMap f = last.filterMap f := by
  have hearlier : earlier.filterMap f = [] :=
    List.filterMap_eq_nil_iff.2 (h.conflicts.forall_mem (P := fun e => f e = none)
      (fun es e hends => List.filterMap_eq_nil_iff.1 (hattempt es e hends)) hpaused)
  rw [List.filterMap_append, hearlier, List.nil_append]

theorem Attempted.countP_eq {attempt : Attempt k α} {n : Nat} {earlier last : Dialogue k}
    {r : Except Failure α} {p : Exchange (Request k) Request.Answer → Bool}
    (h : Attempted attempt n earlier last r)
    (hattempt : ∀ es r, attempt.run.Ends es r → es.countP p = 1)
    (hpaused : ∀ d, p (paused d) = false) : (earlier ++ last).countP p = n + 1 := by
  rw [List.countP_append, hattempt last r h.ends,
    h.conflicts.countP_eq (fun es f hends => hattempt es _ hends) hpaused]

theorem attempted_of_ends {attempt : Attempt k α} {r : Except Failure α}
    (h : (retryConflicts attempt).run.Ends es r) :
    ∃ n earlier last, es = earlier ++ last ∧ Attempted attempt n earlier last r := by
  obtain ⟨n, hn, earlier, last, hes, hearlier, hlast, hexhausted⟩ := ends_attempts h
  exact ⟨n, earlier, last, hes, hn, hearlier, hlast, hexhausted⟩

end Repeated

/-! Synchronizations -/

def sighted (key : Key) (found : Option (Concrete k)) : Exchange (Request k) Request.Answer :=
  ⟨.concrete (.get key), (.ok found : Except Failure (Option (Concrete k)))⟩

inductive SyncAsks (key : Key) (mutation : Mutation k) : Dialogue k → Request k → Prop
  | get : SyncAsks key mutation [] (.concrete (.get key))
  | create {c} (h : mutation (.blank key) = .ok c) :
      SyncAsks key mutation [sighted key none] (.concrete (.create key.ns (c.pin key)))
  | replace {old c} (h : mutation old = .ok c) (hne : c.pin key ≠ old) :
      SyncAsks key mutation [sighted key (some old)] (.concrete (.replace key (c.pin key)))

inductive SyncEnds (key : Key) (mutation : Mutation k) :
    Dialogue k → Except Failure SyncOutcome → Prop
  | unsighted (f : Failure) :
      SyncEnds key mutation [⟨.concrete (.get key), .error f⟩] (.error f)
  | refused {found f} (h : mutation (found.getD (.blank key)) = .error f) :
      SyncEnds key mutation [sighted key found] (.error f)
  | created {c} (h : mutation (.blank key) = .ok c) (answer : Except Failure (Concrete k)) :
      SyncEnds key mutation
        [sighted key none, ⟨.concrete (.create key.ns (c.pin key)), answer⟩]
        (answer.map fun _ => .created)
  | unchanged {old c} (h : mutation old = .ok c) (hsame : c.pin key = old) :
      SyncEnds key mutation [sighted key (some old)] (.ok .unchanged)
  | updated {old c} (h : mutation old = .ok c) (hne : c.pin key ≠ old)
      (answer : Except Failure (Concrete k)) :
      SyncEnds key mutation
        [sighted key (some old), ⟨.concrete (.replace key (c.pin key)), answer⟩]
        ((answer.mapError (vanished (k := k) key)).map fun _ => .updated)

/-- All that a synchronization asks for. -/
inductive Syncs (key : Key) : Request k → Prop
  | get : Syncs key (.concrete (.get key))
  | create (c : Concrete k) : Syncs key (.concrete (.create key.ns (c.pin key)))
  | replace (c : Concrete k) : Syncs key (.concrete (.replace key (c.pin key)))
  | pause (d : Duration) : Syncs key (.pause d)

section Synchronize
variable {es : Dialogue k} {q : Request k} {key : Key} {mutation : Mutation k}
  {r : Except Failure SyncOutcome}

theorem asks_syncOnce (h : (syncOnce key mutation).run.Asks es q) : SyncAsks key mutation es q := by
  unfold syncOnce at h
  rcases Program.asks_attempt_bind.1 h with h | ⟨es₁, es₂, found, rfl, h₁, h₂⟩
  · obtain ⟨rfl, rfl⟩ := Program.asks_send.1 h
    exact .get
  · cases Program.ends_send.1 h₁
    cases found with
    | none =>
      rcases Program.asks_attempt_bind.1 h₂ with h' | ⟨es₃, es₄, object, rfl, h₃, h₄⟩
      · exact (Program.not_asks_done h').elim
      · obtain ⟨rfl, hobject⟩ := Program.ends_done.1 h₃
        rcases Program.asks_attempt_bind.1 h₄ with h' | ⟨es₅, es₆, stored, rfl, -, h₆⟩
        · obtain ⟨rfl, rfl⟩ := Program.asks_send.1 h'
          exact .create hobject
        · exact (Program.not_asks_done h₆).elim
    | some existing =>
      rcases Program.asks_attempt_bind.1 h₂ with h' | ⟨es₃, es₄, object, rfl, h₃, h₄⟩
      · exact (Program.not_asks_done h').elim
      · obtain ⟨rfl, hobject⟩ := Program.ends_done.1 h₃
        dsimp only at h₄
        split at h₄
        · exact (Program.not_asks_done h₄).elim
        · rename_i hne
          rcases Program.asks_attempt_bind.1 h₄ with h' | ⟨es₅, es₆, stored, rfl, -, h₆⟩
          · obtain ⟨rfl, rfl⟩ := Program.asks_send.1 (Program.asks_map.1 h')
            exact .replace hobject hne
          · exact (Program.not_asks_done h₆).elim

theorem ends_syncOnce (h : (syncOnce key mutation).run.Ends es r) : SyncEnds key mutation es r := by
  unfold syncOnce at h
  rcases Program.ends_attempt_bind.1 h with ⟨f, h₁, rfl⟩ | ⟨es₁, es₂, found, rfl, h₁, h₂⟩
  · cases Program.ends_send.1 h₁
    exact .unsighted f
  · cases Program.ends_send.1 h₁
    cases found with
    | none =>
      rcases Program.ends_attempt_bind.1 h₂ with ⟨f, h₃, rfl⟩ | ⟨es₃, es₄, object, rfl, h₃, h₄⟩
      · obtain ⟨rfl, hf⟩ := Program.ends_done.1 h₃
        exact @SyncEnds.refused k key mutation none f hf
      · obtain ⟨rfl, hobject⟩ := Program.ends_done.1 h₃
        rcases Program.ends_attempt_bind.1 h₄ with ⟨f, h₅, rfl⟩ | ⟨es₅, es₆, stored, rfl, h₅, h₆⟩
        · cases Program.ends_send.1 h₅
          exact .created hobject (.error f)
        · cases Program.ends_send.1 h₅
          obtain ⟨rfl, rfl⟩ := Program.ends_done.1 h₆
          exact .created hobject (.ok stored)
    | some existing =>
      rcases Program.ends_attempt_bind.1 h₂ with ⟨f, h₃, rfl⟩ | ⟨es₃, es₄, object, rfl, h₃, h₄⟩
      · obtain ⟨rfl, hf⟩ := Program.ends_done.1 h₃
        exact @SyncEnds.refused k key mutation (some existing) f hf
      · obtain ⟨rfl, hobject⟩ := Program.ends_done.1 h₃
        dsimp only at h₄
        split at h₄
        · rename_i hsame
          obtain ⟨rfl, rfl⟩ := Program.ends_done.1 h₄
          exact .unchanged hobject hsame
        · rename_i hne
          rcases Program.ends_attempt_bind.1 h₄ with
            ⟨f, h₅, rfl⟩ | ⟨es₅, es₆, stored, rfl, h₅, h₆⟩
          · obtain ⟨answer, h₅, hanswer⟩ := Program.ends_map.1 h₅
            cases Program.ends_send.1 h₅
            have hr : .error f = (answer.mapError (vanished (k := k) key)).map
                fun _ => SyncOutcome.updated := by
              rw [hanswer]
              rfl
            exact hr ▸ .updated hobject hne answer
          · obtain ⟨answer, h₅, hanswer⟩ := Program.ends_map.1 h₅
            cases Program.ends_send.1 h₅
            obtain ⟨rfl, rfl⟩ := Program.ends_done.1 h₆
            have hr : .ok SyncOutcome.updated = (answer.mapError (vanished (k := k) key)).map
                fun _ => SyncOutcome.updated := by
              rw [hanswer]
              rfl
            exact hr ▸ .updated hobject hne answer

theorem asks_synchronize (h : (synchronize key mutation).run.Asks es q) : Syncs key q := by
  obtain ⟨n, -, earlier, es', -, -, h | ⟨f, d, -, -, rfl⟩⟩ := asks_retryConflicts h
  · cases asks_syncOnce h with
    | get => exact .get
    | create h => exact .create _
    | replace h hne => exact .replace _
  · exact .pause d

end Synchronize

end FleetSync
