import FleetSync.Program

/-!
# Dialogues of programs

The exchanges of a program with its surroundings are its requests with the answers it got, in
order. What a program asks after some exchanges, and how it ends after others, is a matter of the
program alone, whoever answers. A sequence of two programs asks what the first one asks, and once
that has ended, what the second one asks after the rest of the exchanges.
-/
namespace FleetSync

structure Exchange (Q : Type) (R : Q → Type) where
  request : Q
  answer : R request

/-- Where an element of two lists put together is found. -/
theorem split_of_append_eq {α : Type} {l₁ l₂ front back : List α} {x : α}
    (h : l₁ ++ l₂ = front ++ x :: back) :
    (∃ rest, l₁ = front ++ x :: rest ∧ back = rest ++ l₂) ∨
      ∃ start, front = l₁ ++ start ∧ l₂ = start ++ x :: back := by
  rcases List.append_eq_append_iff.1 h with ⟨start, hfront, h₂⟩ | ⟨rest, rfl, h₂⟩
  · exact .inr ⟨start, hfront, h₂⟩
  · rcases rest with _ | ⟨y, rest⟩
    · exact .inr ⟨[], by simp, h₂.symm⟩
    · obtain ⟨rfl, hback⟩ := List.cons.inj h₂
      exact .inl ⟨rest, rfl, hback⟩

theorem eq_of_append_cons_eq_singleton {α : Type} {front back : List α} {x y : α}
    (h : front ++ x :: back = [y]) : front = [] ∧ x = y ∧ back = [] := by
  simpa [List.append_eq_singleton_iff] using h

namespace Program

variable {Q : Type} {R : Q → Type} {α β : Type}

/-- What is left of a program after some exchanges. -/
def After : Program Q R α → List (Exchange Q R) → Program Q R α → Prop
  | p, [], p' => p = p'
  | done _, _ :: _, _ => False
  | ask q next, e :: es, p' => ∃ r, e = ⟨q, r⟩ ∧ (next r).After es p'

/-- After these exchanges the program asks this. -/
def Asks (p : Program Q R α) (es : List (Exchange Q R)) (q : Q) : Prop :=
  ∃ next, p.After es (ask q next)

/-- After these exchanges the program has ended with this result. -/
def Ends (p : Program Q R α) (es : List (Exchange Q R)) (a : α) : Prop := p.After es (done a)

@[simp] theorem after_nil {p p' : Program Q R α} : p.After [] p' ↔ p = p' := by
  cases p <;> rfl

@[simp] theorem after_done_cons {a : α} {e : Exchange Q R} {es : List (Exchange Q R)}
    {p' : Program Q R α} : ¬(done a : Program Q R α).After (e :: es) p' := id

@[simp] theorem after_ask_cons {q : Q} {next : R q → Program Q R α} {e : Exchange Q R}
    {es : List (Exchange Q R)} {p' : Program Q R α} :
    (ask q next).After (e :: es) p' ↔ ∃ r, e = ⟨q, r⟩ ∧ (next r).After es p' := Iff.rfl

theorem after_append {p p' : Program Q R α} {es₁ es₂ : List (Exchange Q R)} :
    p.After (es₁ ++ es₂) p' ↔ ∃ m, p.After es₁ m ∧ m.After es₂ p' := by
  induction es₁ generalizing p with
  | nil => simp
  | cons e es₁ ih =>
    cases p with
    | done a => simp
    | ask q next =>
      simp only [List.cons_append, after_ask_cons, ih]
      constructor
      · rintro ⟨r, he, m, hm, h⟩
        exact ⟨m, ⟨r, he, hm⟩, h⟩
      · rintro ⟨m, ⟨r, he, hm⟩, h⟩
        exact ⟨r, he, m, hm, h⟩

theorem After.step {p : Program Q R α} {es : List (Exchange Q R)} {q : Q}
    {next : R q → Program Q R α} (h : p.After es (ask q next)) (r : R q) :
    p.After (es ++ [⟨q, r⟩]) (next r) :=
  after_append.2 ⟨_, h, r, rfl, after_nil.2 rfl⟩

theorem After.asks_of_append {p p' : Program Q R α} {es₁ es₂ : List (Exchange Q R)}
    {e : Exchange Q R} (h : p.After (es₁ ++ e :: es₂) p') : p.Asks es₁ e.request := by
  obtain ⟨m, hm, he⟩ := after_append.1 h
  cases m with
  | done a => exact (after_done_cons he).elim
  | ask q next =>
    obtain ⟨r, rfl, -⟩ := he
    exact ⟨next, hm⟩

theorem After.asks_of_mem {p p' : Program Q R α} {es : List (Exchange Q R)} {e : Exchange Q R}
    (h : p.After es p') (he : e ∈ es) : ∃ es₁, p.Asks es₁ e.request := by
  obtain ⟨es₁, es₂, rfl⟩ := List.append_of_mem he
  exact ⟨es₁, h.asks_of_append⟩

theorem After.unique {p p₁ p₂ : Program Q R α} {es : List (Exchange Q R)} (h₁ : p.After es p₁)
    (h₂ : p.After es p₂) : p₁ = p₂ := by
  induction es generalizing p with
  | nil => exact (after_nil.1 h₁).symm.trans (after_nil.1 h₂)
  | cons e es ih =>
    cases p with
    | done a => exact (after_done_cons h₁).elim
    | ask q next =>
      obtain ⟨r, rfl, h₁⟩ := h₁
      obtain ⟨r', he, h₂⟩ := h₂
      cases he
      exact ih h₁ h₂

section Done
variable {a b : α} {es : List (Exchange Q R)} {q : Q}

@[simp] theorem not_asks_done : ¬(done a : Program Q R α).Asks es q := by
  rintro ⟨next, h⟩
  cases es with
  | nil => cases after_nil.1 h
  | cons e es => exact after_done_cons h

@[simp] theorem ends_done : (done a : Program Q R α).Ends es b ↔ es = [] ∧ a = b := by
  cases es with
  | nil => simp [Ends]
  | cons e es => simp [Ends]

end Done

section Ask
variable {q q' : Q} {next : R q → Program Q R α} {a : α} {es : List (Exchange Q R)}

theorem asks_ask : (ask q next).Asks es q' ↔
    (es = [] ∧ q = q') ∨ ∃ r es', es = ⟨q, r⟩ :: es' ∧ (next r).Asks es' q' := by
  cases es with
  | nil =>
    constructor
    · rintro ⟨next', h⟩
      cases after_nil.1 h
      exact .inl ⟨rfl, rfl⟩
    · rintro (⟨-, rfl⟩ | ⟨r, es', h, -⟩)
      · exact ⟨next, after_nil.2 rfl⟩
      · cases h
  | cons e es =>
    constructor
    · rintro ⟨next', r, he, h⟩
      exact .inr ⟨r, es, he ▸ rfl, next', h⟩
    · rintro (⟨h, -⟩ | ⟨r, es', h, next', h'⟩)
      · cases h
      · cases h
        exact ⟨next', r, rfl, h'⟩

theorem ends_ask : (ask q next).Ends es a ↔
    ∃ r es', es = ⟨q, r⟩ :: es' ∧ (next r).Ends es' a := by
  cases es with
  | nil => simp [Ends]
  | cons e es =>
    simp only [Ends, after_ask_cons, List.cons.injEq]
    constructor
    · rintro ⟨r, he, h⟩
      exact ⟨r, es, ⟨he, rfl⟩, h⟩
    · rintro ⟨r, es', ⟨he, rfl⟩, h⟩
      exact ⟨r, he, h⟩

end Ask

/-- A program that has ended along some exchanges does not end along others that go on from
them. -/
theorem Ends.eq_of_append {p : Program Q R α} {a b : α} {es₁ es₂ es₃ es₄ : List (Exchange Q R)}
    (h₁ : p.Ends es₁ a) (h₃ : p.Ends es₃ b) (h : es₁ ++ es₂ = es₃ ++ es₄) :
    es₁ = es₃ ∧ es₂ = es₄ ∧ a = b := by
  induction p generalizing es₁ es₃ with
  | done c =>
    obtain ⟨rfl, rfl⟩ := ends_done.1 h₁
    obtain ⟨rfl, rfl⟩ := ends_done.1 h₃
    exact ⟨rfl, h, rfl⟩
  | ask q next ih =>
    obtain ⟨r, es₁', rfl, hnext₁⟩ := ends_ask.1 h₁
    obtain ⟨r', es₃', rfl, hnext₃⟩ := ends_ask.1 h₃
    obtain ⟨he, htail⟩ := List.cons.inj h
    cases he
    obtain ⟨hes, hes', hab⟩ := ih r hnext₁ hnext₃ htail
    exact ⟨congrArg _ hes, hes', hab⟩

theorem asks_send {q q' : Q} {es : List (Exchange Q R)} :
    (send q : Program Q R (R q)).Asks es q' ↔ es = [] ∧ q = q' := by
  simp [send, asks_ask]

theorem ends_send {q : Q} {es : List (Exchange Q R)} {r : R q} :
    (send q : Program Q R (R q)).Ends es r ↔ es = [⟨q, r⟩] := by
  simp only [send, ends_ask, ends_done]
  constructor
  · rintro ⟨r', es', rfl, rfl, rfl⟩
    rfl
  · rintro rfl
    exact ⟨r, [], rfl, rfl, rfl⟩

/-- The first of two programs asks, or it has ended and the second one asks. -/
theorem asks_bind {p : Program Q R α} {f : α → Program Q R β} {es : List (Exchange Q R)} {q : Q} :
    (p >>= f).Asks es q ↔ p.Asks es q ∨
      ∃ es₁ es₂ a, es = es₁ ++ es₂ ∧ p.Ends es₁ a ∧ (f a).Asks es₂ q := by
  induction p generalizing es with
  | done a =>
    simp only [done_bind, not_asks_done, ends_done, false_or]
    constructor
    · intro h
      exact ⟨[], es, a, rfl, ⟨rfl, rfl⟩, h⟩
    · rintro ⟨es₁, es₂, b, rfl, ⟨rfl, rfl⟩, h⟩
      exact h
  | ask q' next ih =>
    simp only [ask_bind, asks_ask, ends_ask, ih]
    constructor
    · rintro (h | ⟨r, es', rfl, h | ⟨es₁, es₂, a, rfl, h₁, h₂⟩⟩)
      · exact .inl (.inl h)
      · exact .inl (.inr ⟨r, es', rfl, h⟩)
      · exact .inr ⟨_ :: es₁, es₂, a, rfl, ⟨r, es₁, rfl, h₁⟩, h₂⟩
    · rintro ((h | ⟨r, es', rfl, h⟩) | ⟨es₁, es₂, a, rfl, ⟨r, es', rfl, h₁⟩, h₂⟩)
      · exact .inl h
      · exact .inr ⟨r, es', rfl, .inl h⟩
      · exact .inr ⟨r, es' ++ es₂, rfl, .inr ⟨es', es₂, a, rfl, h₁, h₂⟩⟩

theorem ends_bind {p : Program Q R α} {f : α → Program Q R β} {es : List (Exchange Q R)} {b : β} :
    (p >>= f).Ends es b ↔ ∃ es₁ es₂ a, es = es₁ ++ es₂ ∧ p.Ends es₁ a ∧ (f a).Ends es₂ b := by
  induction p generalizing es with
  | done a =>
    simp only [done_bind, ends_done]
    constructor
    · intro h
      exact ⟨[], es, a, rfl, ⟨rfl, rfl⟩, h⟩
    · rintro ⟨es₁, es₂, a', rfl, ⟨rfl, rfl⟩, h⟩
      exact h
  | ask q next ih =>
    simp only [ask_bind, ends_ask, ih]
    constructor
    · rintro ⟨r, es', rfl, es₁, es₂, a, rfl, h₁, h₂⟩
      exact ⟨_ :: es₁, es₂, a, rfl, ⟨r, es₁, rfl, h₁⟩, h₂⟩
    · rintro ⟨es₁, es₂, a, rfl, ⟨r, es', rfl, h₁⟩, h₂⟩
      exact ⟨r, es' ++ es₂, rfl, es', es₂, a, rfl, h₁, h₂⟩

section Map
variable {es : List (Exchange Q R)} {q : Q}

@[simp] theorem asks_map {p : Program Q R α} {f : α → β} : (f <$> p).Asks es q ↔ p.Asks es q := by
  rw [← bind_pure_comp, asks_bind]
  simp

@[simp] theorem ends_map {p : Program Q R α} {f : α → β} {b : β} :
    (f <$> p).Ends es b ↔ ∃ a, p.Ends es a ∧ f a = b := by
  rw [← bind_pure_comp, ends_bind]
  constructor
  · rintro ⟨es₁, es₂, a, rfl, h, h'⟩
    obtain ⟨rfl, rfl⟩ := ends_done.1 h'
    exact ⟨a, by simpa using h, rfl⟩
  · rintro ⟨a, h, rfl⟩
    exact ⟨es, [], a, by simp, h, ends_done.2 ⟨rfl, rfl⟩⟩

end Map

/-! Programs that may fail go on only after a success, and their handlers only after a failure. -/
section Failing
variable {ε : Type} {es : List (Exchange Q R)} {q : Q}

theorem asks_attempt_bind {x : ExceptT ε (Program Q R) α} {f : α → ExceptT ε (Program Q R) β} :
    (x >>= f).run.Asks es q ↔ x.run.Asks es q ∨
      ∃ es₁ es₂ a, es = es₁ ++ es₂ ∧ x.run.Ends es₁ (.ok a) ∧ (f a).run.Asks es₂ q := by
  rw [ExceptT.run_bind, asks_bind]
  refine or_congr Iff.rfl ⟨?_, ?_⟩
  · rintro ⟨es₁, es₂, r, rfl, h₁, h₂⟩
    cases r with
    | error e => exact (not_asks_done h₂).elim
    | ok a => exact ⟨es₁, es₂, a, rfl, h₁, h₂⟩
  · rintro ⟨es₁, es₂, a, rfl, h₁, h₂⟩
    exact ⟨es₁, es₂, .ok a, rfl, h₁, h₂⟩

theorem ends_attempt_bind {x : ExceptT ε (Program Q R) α} {f : α → ExceptT ε (Program Q R) β}
    {r : Except ε β} : (x >>= f).run.Ends es r ↔
      (∃ e, x.run.Ends es (.error e) ∧ r = .error e) ∨
      ∃ es₁ es₂ a, es = es₁ ++ es₂ ∧ x.run.Ends es₁ (.ok a) ∧ (f a).run.Ends es₂ r := by
  rw [ExceptT.run_bind, ends_bind]
  constructor
  · rintro ⟨es₁, es₂, r', rfl, h₁, h₂⟩
    cases r' with
    | error e =>
      obtain ⟨rfl, rfl⟩ := ends_done.1 h₂
      exact .inl ⟨e, by simpa using h₁, rfl⟩
    | ok a => exact .inr ⟨es₁, es₂, a, rfl, h₁, h₂⟩
  · rintro (⟨e, h, rfl⟩ | ⟨es₁, es₂, a, rfl, h₁, h₂⟩)
    · exact ⟨es, [], .error e, by simp, h, ends_done.2 ⟨rfl, rfl⟩⟩
    · exact ⟨es₁, es₂, .ok a, rfl, h₁, h₂⟩

theorem asks_attempt_map {x : ExceptT ε (Program Q R) α} {f : α → β} :
    (f <$> x).run.Asks es q ↔ x.run.Asks es q := by
  rw [ExceptT.run_map, asks_map]

theorem ends_attempt_map {x : ExceptT ε (Program Q R) α} {f : α → β} {r : Except ε β} :
    (f <$> x).run.Ends es r ↔ ∃ a, x.run.Ends es a ∧ a.map f = r := by
  rw [ExceptT.run_map, ends_map]

theorem asks_tryCatch {x : ExceptT ε (Program Q R) α} {f : ε → ExceptT ε (Program Q R) α} :
    (tryCatch x f).run.Asks es q ↔ x.run.Asks es q ∨
      ∃ es₁ es₂ e, es = es₁ ++ es₂ ∧ x.run.Ends es₁ (.error e) ∧ (f e).run.Asks es₂ q := by
  rw [ExceptT.run_tryCatch, asks_bind]
  refine or_congr Iff.rfl ⟨?_, ?_⟩
  · rintro ⟨es₁, es₂, r, rfl, h₁, h₂⟩
    cases r with
    | ok a => exact (not_asks_done h₂).elim
    | error e => exact ⟨es₁, es₂, e, rfl, h₁, h₂⟩
  · rintro ⟨es₁, es₂, e, rfl, h₁, h₂⟩
    exact ⟨es₁, es₂, .error e, rfl, h₁, h₂⟩

theorem ends_tryCatch {x : ExceptT ε (Program Q R) α} {f : ε → ExceptT ε (Program Q R) α}
    {r : Except ε α} : (tryCatch x f).run.Ends es r ↔
      (∃ a, x.run.Ends es (.ok a) ∧ r = .ok a) ∨
      ∃ es₁ es₂ e, es = es₁ ++ es₂ ∧ x.run.Ends es₁ (.error e) ∧ (f e).run.Ends es₂ r := by
  rw [ExceptT.run_tryCatch, ends_bind]
  constructor
  · rintro ⟨es₁, es₂, r', rfl, h₁, h₂⟩
    cases r' with
    | ok a =>
      obtain ⟨rfl, rfl⟩ := ends_done.1 h₂
      exact .inl ⟨a, by simpa using h₁, rfl⟩
    | error e => exact .inr ⟨es₁, es₂, e, rfl, h₁, h₂⟩
  · rintro (⟨a, h, rfl⟩ | ⟨es₁, es₂, e, rfl, h₁, h₂⟩)
    · exact ⟨es, [], .ok a, by simp, h, ends_done.2 ⟨rfl, rfl⟩⟩
    · exact ⟨es₁, es₂, .error e, rfl, h₁, h₂⟩

end Failing

/-! Runs -/
section Run
variable {σ : Type} {answer : (q : Q) → σ → R q × σ}

def exchanges (answer : (q : Q) → σ → R q × σ) : Program Q R α → σ → List (Exchange Q R)
  | done _, _ => []
  | ask q next, s => ⟨q, (answer q s).1⟩ :: (next (answer q s).1).exchanges answer (answer q s).2

/-- The second of two programs is run after the exchanges of the first one. -/
theorem exchanges_bind (p : Program Q R α) (f : α → Program Q R β) (s : σ) :
    (p >>= f).exchanges answer s =
      p.exchanges answer s ++ (f (p.run answer s).1).exchanges answer (p.run answer s).2 := by
  induction p generalizing s with
  | done a => rfl
  | ask q next ih => exact congrArg (_ :: ·) (ih _ _)

theorem ends_exchanges (p : Program Q R α) (s : σ) :
    p.Ends (p.exchanges answer s) (p.run answer s).1 := by
  induction p generalizing s with
  | done a => exact ends_done.2 ⟨rfl, rfl⟩
  | ask q next ih => exact ends_ask.2 ⟨_, _, rfl, ih _ _⟩

theorem exists_of_mem_exchanges {p : Program Q R α} {s : σ} {e : Exchange Q R}
    (he : e ∈ p.exchanges answer s) : ∃ s', e.answer = (answer e.request s').1 := by
  induction p generalizing s with
  | done a => cases he
  | ask q next ih =>
    rcases List.mem_cons.1 he with rfl | he
    · exact ⟨s, rfl⟩
    · exact ih _ he

/-- All answers are those of one and the same state. -/
def Unmoved (answer : (q : Q) → σ → R q × σ) (s : σ) (es : List (Exchange Q R)) : Prop :=
  ∀ e ∈ es, e.answer = (answer e.request s).1

theorem Unmoved.append_iff {s : σ} {es es' : List (Exchange Q R)} :
    Unmoved answer s (es ++ es') ↔ Unmoved answer s es ∧ Unmoved answer s es' := by
  simp [Unmoved, or_imp, forall_and]

theorem Unmoved.cons_iff {s : σ} {e : Exchange Q R} {es : List (Exchange Q R)} :
    Unmoved answer s (e :: es) ↔ e.answer = (answer e.request s).1 ∧ Unmoved answer s es := by
  simp [Unmoved]

/-- If a program asks only for what leaves the state as it is, as long as it gets the answers of
that state, then its whole run leaves the state as it is. -/
theorem run_of_unmoved {p : Program Q R α} {s : σ} {P : Q → Prop}
    (h : ∀ es q, p.Asks es q → Unmoved answer s es → P q ∧ (answer q s).2 = s) :
    (p.run answer s).2 = s ∧ ∀ e ∈ p.exchanges answer s, P e.request := by
  induction p with
  | done a => exact ⟨rfl, fun _ he => (List.not_mem_nil he).elim⟩
  | ask q next ih =>
    obtain ⟨hP, hstate⟩ :=
      h [] q (asks_ask.2 (.inl ⟨rfl, rfl⟩)) fun _ he => (List.not_mem_nil he).elim
    obtain ⟨hrun, hrest⟩ := ih (answer q s).1 fun es q' hasks hes =>
      h (⟨q, (answer q s).1⟩ :: es) q' (asks_ask.2 (.inr ⟨_, es, rfl, hasks⟩))
        (Unmoved.cons_iff.2 ⟨rfl, hes⟩)
    simp only [run_ask, exchanges, hstate]
    refine ⟨hrun, ?_⟩
    intro e he
    rcases List.mem_cons.1 he with rfl | he
    · exact hP
    · exact hrest e he

end Run

end Program

end FleetSync
