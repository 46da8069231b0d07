import FleetSync.Proofs.Attempts
import FleetSync.Pass

/-!
# What a pass asks for

A pass is a program of many branches, but after given exchanges it asks for one of a few things.
They are listed here once, each with the exchanges that lead to it. What holds of every request of
a pass, whatever is answered, is then read off this list.
-/
namespace FleetSync

variable {k : Kind}

def fetched (key : Key) (t : Template k) : Exchange (Request k) Request.Answer :=
  ⟨.template (.get key), (.ok (some t) : Except Failure (Option (Template k)))⟩

def named (cluster : String) : Exchange (Request k) Request.Answer :=
  ⟨.clusterName, (.ok cluster : Except Failure String)⟩

def erased (key : Key) : Exchange (Request k) Request.Answer :=
  ⟨.concrete (.delete key), (.ok () : Except Failure Unit)⟩

def replaced (t : Template k) (answer : Except Failure (Template k)) :
    Exchange (Request k) Request.Answer :=
  ⟨.template (.replace t.metadata.key t), answer⟩

def restated (t : Template k) (answer : Except Failure (Template k)) :
    Exchange (Request k) Request.Answer :=
  ⟨.template (.replaceStatus t.metadata.key t), answer⟩

def timed (now : Instant) : Exchange (Request k) Request.Answer := ⟨.now, now⟩

def told (r : Report) : Exchange (Request k) Request.Answer := ⟨.report r, ()⟩

def Exchange.report? : Exchange (Request k) Request.Answer → Option Report
  | ⟨.report r, _⟩ => some r
  | _ => none

def reportsOf (es : Dialogue k) : List Report := es.filterMap (·.report?)

namespace Template

def isTied (t : Template k) : Bool := t.metadata.hasFinalizer k.finalizer

def tie (t : Template k) : Template k :=
  { t with metadata := t.metadata.addFinalizer k.finalizer }

def untie (t : Template k) : Template k :=
  { t with metadata := t.metadata.dropFinalizer k.finalizer }

def synchronization (t : Template k) : Task k (Except Failure SyncOutcome) :=
  (synchronize t.metadata.key (k.mutate t.payload)).run

/-- The concrete object has the form that the template prescribes: rendering and pinning change
nothing. -/
def Prescribes (t : Template k) (c : Concrete k) : Prop :=
  ∃ c', k.mutate t.payload c = .ok c' ∧ c'.pin t.metadata.key = c

theorem prescribes_of_mutate {t : Template k} {old c : Concrete k}
    (h : k.mutate t.payload old = .ok c) (version : Option String) :
    t.Prescribes { c.pin t.metadata.key with
      metadata := { (c.pin t.metadata.key).metadata with resourceVersion := version } } := by
  obtain ⟨r, hr, rfl⟩ := Kind.render_of_mutate_eq_ok h
  exact ⟨_, Kind.mutate_of_render hr _, rfl⟩

theorem syncs_of_mem {t : Template k} {es : Dialogue k} {p : Task k (Except Failure SyncOutcome)}
    {e : Exchange (Request k) Request.Answer} (h : t.synchronization.After es p) (he : e ∈ es) :
    Syncs t.metadata.key e.request := by
  obtain ⟨es₁, hasks⟩ := h.asks_of_mem he
  exact asks_synchronize hasks

@[simp] theorem key_refreshed (t : Template k) : t.refreshed.metadata.key = t.metadata.key := rfl

@[simp] theorem isTied_refreshed (t : Template k) : t.refreshed.isTied = t.isTied := rfl

section Finalizer
variable {t : Template k} {es : Dialogue k} {q : Request k}

theorem asks_addFinalizer : (t.addFinalizer k.finalizer).run.Asks es q ↔
    es = [] ∧ t.isTied = false ∧ q = .template (.replace t.metadata.key t.tie) := by
  unfold addFinalizer isTied
  split
  · rename_i h
    simp [h, Program.not_asks_done]
  · rename_i h
    simp only [h, true_and]
    exact Program.asks_attempt_map.trans (Program.asks_send.trans (and_congr Iff.rfl eq_comm))

theorem ends_addFinalizer {r : Except Failure (Option (Template k))} :
    (t.addFinalizer k.finalizer).run.Ends es r ↔
      (t.isTied = true ∧ es = [] ∧ r = .ok none) ∨
      (t.isTied = false ∧ ∃ a, es = [replaced t.tie a] ∧ r = a.map some) := by
  unfold addFinalizer isTied
  split
  · rename_i h
    simp [h, Program.ends_done, eq_comm]
  · rename_i h
    refine Program.ends_attempt_map.trans ⟨?_, ?_⟩
    · rintro ⟨a, ha, rfl⟩
      exact .inr ⟨by simpa using h, a, Program.ends_send.1 ha, rfl⟩
    · rintro (⟨h', -⟩ | ⟨-, a, rfl, rfl⟩)
      · exact (h h').elim
      · exact ⟨a, Program.ends_send.2 rfl, rfl⟩

theorem asks_removeFinalizer : (t.removeFinalizer k.finalizer).run.Asks es q ↔
    es = [] ∧ t.isTied = true ∧ q = .template (.replace t.metadata.key t.untie) := by
  unfold removeFinalizer isTied
  split
  · rename_i h
    simp only [h, true_and]
    exact Program.asks_attempt_map.trans (Program.asks_send.trans (and_congr Iff.rfl eq_comm))
  · rename_i h
    simp [h, Program.not_asks_done]

inductive Releases (t : Template k) : Dialogue k → Request k → Prop
  | erase : Releases t [] (.concrete (.delete t.metadata.key))
  | untie (h : t.isTied = true) :
      Releases t [erased t.metadata.key] (.template (.replace t.metadata.key t.untie))

theorem asks_release (h : (t.release k.finalizer).run.Asks es q) : t.Releases es q := by
  unfold release at h
  rcases Program.asks_attempt_bind.1 h with h | ⟨es₁, es₂, u, rfl, h₁, h₂⟩
  · obtain ⟨rfl, rfl⟩ := Program.asks_send.1 h
    exact .erase
  · cases Program.ends_send.1 h₁
    rcases Program.asks_attempt_bind.1 h₂ with h | ⟨es₃, es₄, r, rfl, h₃, h₄⟩
    · obtain ⟨rfl, htied, rfl⟩ := asks_removeFinalizer.1 h
      exact .untie htied
    · exact (Program.not_asks_done h₄).elim

end Finalizer

section Materialize
variable {t : Template k} {es : Dialogue k}

/-- How the writing of the concrete object and of the token ends: with the copy of the template to
go on with, and the outcome. -/
inductive Materializes (t : Template k) :
    Dialogue k → Template k → Except Failure SyncOutcome → Prop
  | failed {es f} (h : t.synchronization.Ends es (.error f)) : Materializes t es t (.error f)
  | tied {es done} (h : t.synchronization.Ends es (.ok done)) (htied : t.isTied = true) :
      Materializes t es t (.ok done)
  | tieRefused {es done f} (h : t.synchronization.Ends es (.ok done)) (htied : t.isTied = false) :
      Materializes t (es ++ [replaced t.tie (.error f)]) t (.error f)
  | tieWritten {es done stored} (h : t.synchronization.Ends es (.ok done))
      (htied : t.isTied = false) :
      Materializes t (es ++ [replaced t.tie (.ok stored)]) stored (.ok done)

theorem ends_materialize {current : Template k} {outcome : Except Failure SyncOutcome}
    (h : t.materialize.Ends es (current, outcome)) : t.Materializes es current outcome := by
  unfold materialize at h
  obtain ⟨es₁, es₂, r, rfl, h₁, h₂⟩ := Program.ends_bind.1 h
  cases r with
  | error f =>
    obtain ⟨rfl, e⟩ := Program.ends_done.1 h₂
    cases e
    simpa using Materializes.failed h₁
  | ok done =>
    obtain ⟨es₃, es₄, r, rfl, h₃, h₄⟩ := Program.ends_bind.1 h₂
    rcases ends_addFinalizer.1 h₃ with ⟨htied, rfl, rfl⟩ | ⟨htied, a, rfl, rfl⟩
    · obtain ⟨rfl, e⟩ := Program.ends_done.1 h₄
      cases e
      simpa using Materializes.tied h₁ htied
    · cases a with
      | error f =>
        obtain ⟨rfl, e⟩ := Program.ends_done.1 h₄
        cases e
        simpa using Materializes.tieRefused h₁ htied
      | ok stored =>
        obtain ⟨rfl, e⟩ := Program.ends_done.1 h₄
        cases e
        simpa using Materializes.tieWritten h₁ htied

theorem asks_materialize {q : Request k} (h : t.materialize.Asks es q) :
    t.synchronization.Asks es q ∨ ∃ done, t.synchronization.Ends es (.ok done) ∧
      t.isTied = false ∧ q = .template (.replace t.metadata.key t.tie) := by
  unfold materialize at h
  rcases Program.asks_bind.1 h with h | ⟨es₁, es₂, r, rfl, h₁, h₂⟩
  · exact .inl h
  · cases r with
    | error f => exact (Program.not_asks_done h₂).elim
    | ok done =>
      rcases Program.asks_bind.1 h₂ with h | ⟨es₃, es₄, r, rfl, h₃, h₄⟩
      · obtain ⟨rfl, htied, rfl⟩ := asks_addFinalizer.1 h
        exact .inr ⟨done, by simpa [synchronization] using h₁, htied, rfl⟩
      · cases r <;> exact (Program.not_asks_done h₄).elim

end Materialize

end Template

namespace Template

/-- What the pass on a template that was read, and whose deletion was not requested, asks for once
the cluster's name is known. -/
inductive Proceeds (t : Template k) (cluster : String) : Dialogue k → Request k → Prop
  | restate (hplaced : t.placement.places cluster = false)
      (hstate : t.refreshed.currentStatus.state ≠ t.currentStatus.state) :
      Proceeds t cluster [] (.template (.replaceStatus t.metadata.key t.refreshed))
  | prune {es q} (hplaced : t.placement.places cluster = false)
      (hstate : t.refreshed.currentStatus.state = t.currentStatus.state)
      (h : t.refreshed.Releases es q) : Proceeds t cluster es q
  | pruneRestated {stored es q} (hplaced : t.placement.places cluster = false)
      (hstate : t.refreshed.currentStatus.state ≠ t.currentStatus.state)
      (h : Releases stored es q) :
      Proceeds t cluster (restated t.refreshed (.ok stored) :: es) q
  | synchronize {es q} (hplaced : t.placement.places cluster = true)
      (h : t.synchronization.Asks es q) : Proceeds t cluster es q
  | tie {es done} (hplaced : t.placement.places cluster = true)
      (h : t.synchronization.Ends es (.ok done)) (htied : t.isTied = false) :
      Proceeds t cluster es (.template (.replace t.metadata.key t.refreshed.tie))
  | clock {es current outcome} (hplaced : t.placement.places cluster = true)
      (h : t.refreshed.materialize.Ends es (current, outcome)) : Proceeds t cluster es .now
  | record {es current outcome now} (hplaced : t.placement.places cluster = true)
      (h : t.refreshed.materialize.Ends es (current, outcome))
      (hchanged : (current.withOutcome cluster
        (.ofOutcome k.concrete.kind outcome now)).status ≠ some t.currentStatus) :
      Proceeds t cluster (es ++ [timed now]) (.template (.replaceStatus current.metadata.key
        (current.withOutcome cluster (.ofOutcome k.concrete.kind outcome now))))
  | report {es current outcome now stored} (hplaced : t.placement.places cluster = true)
      (h : t.refreshed.materialize.Ends es (current, outcome))
      (hchanged : (current.withOutcome cluster
        (.ofOutcome k.concrete.kind outcome now)).status ≠ some t.currentStatus) :
      Proceeds t cluster (es ++ [timed now, restated (current.withOutcome cluster
        (.ofOutcome k.concrete.kind outcome now)) (.ok stored)])
        (.report (current.reportOf cluster (.ofOutcome k.concrete.kind outcome now)))

section Proceeds
variable {t : Template k} {es : Dialogue k} {q : Request k}

theorem asks_prune {cluster : String} (hplaced : t.placement.places cluster = false)
    (h : (t.refreshed.prune t.currentStatus.state).run.Asks es q) : t.Proceeds cluster es q := by
  have hrelease {current : Template k} {es q}
      (h : (do let _ ← current.release k.finalizer : Attempt k Unit).run.Asks es q) :
      current.Releases es q := by
    rcases Program.asks_attempt_bind.1 h with h' | ⟨es₁, es₂, u, rfl, -, h₂⟩
    · exact asks_release h'
    · exact (Program.not_asks_done h₂).elim
  unfold prune at h
  by_cases hstate : t.refreshed.currentStatus.state = t.currentStatus.state
  · simp only [if_pos hstate] at h
    rcases Program.asks_attempt_bind.1 h with h' | ⟨es₁, es₂, current, rfl, h₁, h₂⟩
    · exact (Program.not_asks_done h').elim
    · obtain ⟨rfl, e⟩ := Program.ends_done.1 h₁
      cases e
      exact .prune hplaced hstate (hrelease h₂)
  · simp only [if_neg hstate] at h
    rcases Program.asks_attempt_bind.1 h with h' | ⟨es₁, es₂, current, rfl, h₁, h₂⟩
    · obtain ⟨rfl, rfl⟩ := Program.asks_send.1 h'
      exact .restate hplaced hstate
    · cases Program.ends_send.1 h₁
      exact .pruneRestated hplaced hstate (hrelease h₂)

theorem asks_recordOutcome {persisted : FleetStatus} {cluster : String} {c : Condition}
    (h : (t.recordOutcome persisted cluster c).run.Asks es q) :
    (t.withOutcome cluster c).status ≠ some persisted ∧
      ((es = [] ∧ q = .template (.replaceStatus t.metadata.key (t.withOutcome cluster c))) ∨
        ∃ stored, es = [restated (t.withOutcome cluster c) (.ok stored)] ∧
          q = .report (t.reportOf cluster c)) := by
  unfold recordOutcome at h
  by_cases hchanged : (t.withOutcome cluster c).status = some persisted
  · simp only [if_pos hchanged] at h
    exact (Program.not_asks_done h).elim
  · simp only [if_neg hchanged] at h
    refine ⟨hchanged, ?_⟩
    rcases Program.asks_attempt_bind.1 h with h' | ⟨es₁, es₂, stored, rfl, h₁, h₂⟩
    · obtain ⟨rfl, rfl⟩ := Program.asks_send.1 h'
      exact .inl ⟨rfl, rfl⟩
    · cases Program.ends_send.1 h₁
      rcases Program.asks_attempt_bind.1 h₂ with h' | ⟨es₃, es₄, u, rfl, -, h₄⟩
      · obtain ⟨rfl, rfl⟩ := Program.asks_send.1 (Program.asks_map.1 h')
        exact .inr ⟨stored, rfl, rfl⟩
      · exact (Program.not_asks_done h₄).elim

/-- A status that changes is written and, if the write was accepted, reported. -/
theorem ends_recordOutcome {persisted : FleetStatus} {cluster : String} {c : Condition}
    {r : Except Failure (Template k)}
    (h : (t.recordOutcome persisted cluster c).run.Ends es r) :
    ((t.withOutcome cluster c).status = some persisted ∧ es = [] ∧
        r = .ok (t.withOutcome cluster c)) ∨
      ((t.withOutcome cluster c).status ≠ some persisted ∧
        ((∃ f, es = [restated (t.withOutcome cluster c) (.error f)] ∧ r = .error f) ∨
          ∃ stored, es = [restated (t.withOutcome cluster c) (.ok stored),
            told (t.reportOf cluster c)] ∧ r = .ok stored)) := by
  unfold recordOutcome at h
  by_cases hchanged : (t.withOutcome cluster c).status = some persisted
  · simp only [if_pos hchanged] at h
    obtain ⟨rfl, rfl⟩ := Program.ends_done.1 h
    exact .inl ⟨hchanged, rfl, rfl⟩
  · simp only [if_neg hchanged] at h
    refine .inr ⟨hchanged, ?_⟩
    rcases Program.ends_attempt_bind.1 h with ⟨f, h₁, rfl⟩ | ⟨es₁, es₂, stored, rfl, h₁, h₂⟩
    · cases Program.ends_send.1 h₁
      exact .inl ⟨f, rfl, rfl⟩
    · cases Program.ends_send.1 h₁
      rcases Program.ends_attempt_bind.1 h₂ with ⟨f, h₃, -⟩ | ⟨es₃, es₄, u, rfl, h₃, h₄⟩
      · obtain ⟨a, -, ha⟩ := Program.ends_map.1 h₃
        cases ha
      · obtain ⟨a, h₃, -⟩ := Program.ends_map.1 h₃
        cases Program.ends_send.1 h₃
        obtain ⟨rfl, rfl⟩ := Program.ends_done.1 h₄
        exact .inr ⟨stored, rfl, rfl⟩

theorem asks_deploy {cluster : String} (hplaced : t.placement.places cluster = true)
    (h : (t.refreshed.deploy t.currentStatus cluster).run.Asks es q) : t.Proceeds cluster es q := by
  unfold deploy at h
  rcases Program.asks_attempt_bind.1 h with h' | ⟨es₁, es₂, ⟨current, outcome⟩, rfl, h₁, h₂⟩
  · rcases asks_materialize (Program.asks_map.1 h') with hsync | ⟨done, hsync, htied, rfl⟩
    · exact .synchronize hplaced hsync
    · exact .tie hplaced hsync htied
  · obtain ⟨a, h₁, e⟩ := Program.ends_map.1 h₁
    cases e
    rcases Program.asks_attempt_bind.1 h₂ with h' | ⟨es₃, es₄, now, rfl, h₃, h₄⟩
    · obtain ⟨rfl, rfl⟩ := Program.asks_send.1 (Program.asks_map.1 h')
      simpa using Proceeds.clock hplaced h₁
    · obtain ⟨a, h₃, e⟩ := Program.ends_map.1 h₃
      cases e
      cases Program.ends_send.1 h₃
      rcases Program.asks_attempt_bind.1 h₄ with h' | ⟨es₅, es₆, stored, rfl, h₅, h₆⟩
      · obtain ⟨hchanged, ⟨rfl, rfl⟩ | ⟨stored, rfl, rfl⟩⟩ := asks_recordOutcome h'
        · exact .record hplaced h₁ hchanged
        · exact .report hplaced h₁ hchanged
      · rcases Program.asks_attempt_bind.1 h₆ with h' | ⟨es₇, es₈, u, rfl, -, h₈⟩
        · exact (Program.not_asks_done h').elim
        · exact (Program.not_asks_done h₈).elim

/-- A pass over a placed template ends as the recording of its outcome if that fails, and as the
outcome says otherwise. -/
theorem ends_deploy {persisted : FleetStatus} {cluster : String} {r : Except Failure Unit}
    (h : (t.deploy persisted cluster).run.Ends es r) :
    ∃ es₁ es₂ current outcome now recorded, es = es₁ ++ timed now :: es₂ ∧
      t.materialize.Ends es₁ (current, outcome) ∧
      (current.recordOutcome persisted cluster
        (.ofOutcome k.concrete.kind outcome now)).run.Ends es₂ recorded ∧
      ((∃ f, recorded = .error f ∧ r = .error f) ∨
        (∃ stored, recorded = .ok stored) ∧ r = outcome.map fun _ => ()) := by
  unfold deploy at h
  rcases Program.ends_attempt_bind.1 h with
    ⟨f, h₁, -⟩ | ⟨es₁, es₂, ⟨current, outcome⟩, rfl, h₁, h₂⟩
  · obtain ⟨a, -, e⟩ := Program.ends_map.1 h₁
    cases e
  obtain ⟨a, h₁, e⟩ := Program.ends_map.1 h₁
  cases e
  rcases Program.ends_attempt_bind.1 h₂ with ⟨f, h₃, -⟩ | ⟨es₃, es₄, now, rfl, h₃, h₄⟩
  · obtain ⟨a, -, e⟩ := Program.ends_map.1 h₃
    cases e
  obtain ⟨a, h₃, e⟩ := Program.ends_map.1 h₃
  cases e
  cases Program.ends_send.1 h₃
  rcases Program.ends_attempt_bind.1 h₄ with ⟨f, h₅, rfl⟩ | ⟨es₅, es₆, stored, rfl, h₅, h₆⟩
  · exact ⟨es₁, es₄, current, outcome, now, _, rfl, h₁, h₅, .inl ⟨f, rfl, rfl⟩⟩
  · have hlast : es₆ = [] ∧ r = outcome.map fun _ => () := by
      rcases Program.ends_attempt_bind.1 h₆ with ⟨f, h₇, rfl⟩ | ⟨es₇, es₈, done, rfl, h₇, h₈⟩
      · obtain ⟨rfl, rfl⟩ := Program.ends_done.1 h₇
        exact ⟨rfl, rfl⟩
      · obtain ⟨rfl, rfl⟩ := Program.ends_done.1 h₇
        obtain ⟨rfl, rfl⟩ := Program.ends_done.1 h₈
        exact ⟨rfl, rfl⟩
    obtain ⟨rfl, rfl⟩ := hlast
    exact ⟨es₁, es₅, current, outcome, now, .ok stored, by simp [timed], h₁, h₅,
      .inr ⟨⟨stored, rfl⟩, rfl⟩⟩

end Proceeds

end Template

/-- What the pass over the template at an address asks for. -/
inductive PassAsks (key : Key) : Dialogue k → Request k → Prop
  | fetch : PassAsks key [] (.template (.get key))
  | retire {t es q} (hdel : t.metadata.isDeleting = true) (h : Template.Releases t es q) :
      PassAsks key (fetched key t :: es) q
  | identify {t} (hdel : t.metadata.isDeleting = false) : PassAsks key [fetched key t] .clusterName
  | proceed {t cluster es q} (hdel : t.metadata.isDeleting = false)
      (h : Template.Proceeds t cluster es q) :
      PassAsks key (fetched key t :: named cluster :: es) q

theorem asks_reconcile {key : Key} {es : Dialogue k} {q : Request k}
    (h : (reconcile key).run.Asks es q) : PassAsks key es q := by
  unfold reconcile at h
  rcases Program.asks_attempt_bind.1 h with h' | ⟨es₁, es₂, found, rfl, h₁, h₂⟩
  · obtain ⟨rfl, rfl⟩ := Program.asks_send.1 h'
    exact .fetch
  · cases Program.ends_send.1 h₁
    cases found with
    | none => exact (Program.not_asks_done h₂).elim
    | some t =>
      rcases Program.asks_tryCatch.1 h₂ with h' | ⟨es₃, es₄, f, rfl, -, h₄⟩
      · unfold Template.process at h'
        split at h'
        · rename_i hdel
          rcases Program.asks_attempt_bind.1 h' with h' | ⟨es₃, es₄, u, rfl, -, h₄⟩
          · exact .retire hdel (Template.asks_release h')
          · exact (Program.not_asks_done h₄).elim
        · rename_i hdel
          rw [Bool.not_eq_true] at hdel
          rcases Program.asks_attempt_bind.1 h' with h' | ⟨es₃, es₄, cluster, rfl, h₃, h₄⟩
          · obtain ⟨rfl, rfl⟩ := Program.asks_send.1 h'
            exact .identify hdel
          · cases Program.ends_send.1 h₃
            refine .proceed hdel ?_
            split at h₄
            · rename_i hplaced
              exact Template.asks_deploy hplaced h₄
            · rename_i hplaced
              rw [Bool.not_eq_true] at hplaced
              exact Template.asks_prune hplaced h₄
      · split at h₄ <;> exact (Program.not_asks_done h₄).elim

/-! The calls of a pass -/

/-- The calls of a pass to the store of templates. -/
inductive TemplateCall (key : Key) : Dialogue k → StoreCall (Template k) → Prop
  | fetch : TemplateCall key [] (.get key)
  | retire {t : Template k} (hdel : t.metadata.isDeleting = true) (htied : t.isTied = true) :
      TemplateCall key [fetched key t, erased t.metadata.key] (.replace t.metadata.key t.untie)
  | restate {t : Template k} {cluster : String} (hdel : t.metadata.isDeleting = false)
      (hplaced : t.placement.places cluster = false) :
      TemplateCall key [fetched key t, named cluster]
        (.replaceStatus t.metadata.key t.refreshed)
  | prune {t : Template k} {cluster : String} (hdel : t.metadata.isDeleting = false)
      (hplaced : t.placement.places cluster = false) (htied : t.isTied = true) :
      TemplateCall key [fetched key t, named cluster, erased t.metadata.key]
        (.replace t.metadata.key t.refreshed.untie)
  | pruneRestated {t stored : Template k} {cluster : String} (hdel : t.metadata.isDeleting = false)
      (hplaced : t.placement.places cluster = false) (htied : stored.isTied = true) :
      TemplateCall key [fetched key t, named cluster, restated t.refreshed (.ok stored),
        erased stored.metadata.key] (.replace stored.metadata.key stored.untie)
  | tie {t : Template k} {cluster : String} {es : Dialogue k} {done : SyncOutcome}
      (hdel : t.metadata.isDeleting = false) (hplaced : t.placement.places cluster = true)
      (hsync : t.synchronization.Ends es (.ok done)) (htied : t.isTied = false) :
      TemplateCall key (fetched key t :: named cluster :: es)
        (.replace t.metadata.key t.refreshed.tie)
  | record {t current : Template k} {cluster : String} {es : Dialogue k}
      {outcome : Except Failure SyncOutcome} {now : Instant}
      (hdel : t.metadata.isDeleting = false) (hplaced : t.placement.places cluster = true)
      (hends : t.refreshed.materialize.Ends es (current, outcome)) :
      TemplateCall key (fetched key t :: named cluster :: (es ++ [timed now]))
        (.replaceStatus current.metadata.key
          (current.withOutcome cluster (.ofOutcome k.concrete.kind outcome now)))

/-- The calls of a pass to the store of concrete objects. -/
inductive ConcreteCall (key : Key) : Dialogue k → StoreCall (Concrete k) → Prop
  | sync {t : Template k} {cluster : String} {es : Dialogue k} {call : StoreCall (Concrete k)}
      (hdel : t.metadata.isDeleting = false) (hplaced : t.placement.places cluster = true)
      (hsync : Syncs t.metadata.key (.concrete call)) :
      ConcreteCall key (fetched key t :: named cluster :: es) call
  | retire {t : Template k} (hdel : t.metadata.isDeleting = true) :
      ConcreteCall key [fetched key t] (.delete t.metadata.key)
  | prune {t : Template k} {cluster : String} (hplaced : t.placement.places cluster = false) :
      ConcreteCall key [fetched key t, named cluster] (.delete t.metadata.key)
  | pruneRestated {t stored : Template k} {cluster : String}
      (hplaced : t.placement.places cluster = false) :
      ConcreteCall key [fetched key t, named cluster, restated t.refreshed (.ok stored)]
        (.delete stored.metadata.key)

/-- The reports of a pass: it tells the outcome right after the outcome was written. -/
inductive ReportCall (key : Key) : Dialogue k → Report → Prop
  | report {t current stored : Template k} {cluster : String} {es : Dialogue k}
      {outcome : Except Failure SyncOutcome} {now : Instant}
      (hplaced : t.placement.places cluster = true)
      (hends : t.refreshed.materialize.Ends es (current, outcome)) :
      ReportCall key (fetched key t :: named cluster :: (es ++ [timed now, restated
        (current.withOutcome cluster (.ofOutcome k.concrete.kind outcome now)) (.ok stored)]))
        (current.reportOf cluster (.ofOutcome k.concrete.kind outcome now))

/-- A report comes right after the accepted write that it tells of. -/
theorem ReportCall.exists_restated {key : Key} {past : Dialogue k} {r : Report}
    (h : ReportCall key past r) : ∃ t current stored cluster es outcome now,
    past = (fetched key t :: named cluster :: (es ++ [timed now])) ++
      [restated (current.withOutcome cluster (.ofOutcome k.concrete.kind outcome now))
        (.ok stored)] ∧
    t.refreshed.materialize.Ends es (current, outcome) ∧
    r = current.reportOf cluster (.ofOutcome k.concrete.kind outcome now) := by
  cases h with
  | @report t current stored cluster es outcome now hplaced hends =>
    exact ⟨t, current, stored, cluster, es, outcome, now, by simp, hends, rfl⟩

section Calls
variable {key : Key} {es : Dialogue k}

theorem templateCall_of_asks {call : StoreCall (Template k)}
    (hasks : (reconcile key).run.Asks es (.template call)) : TemplateCall key es call := by
  have hpass := asks_reconcile hasks
  generalize hq : Request.template call = q at hpass
  cases hpass with
  | fetch =>
    cases hq
    exact .fetch
  | retire hdel h =>
    cases h with
    | erase => cases hq
    | untie htied =>
      cases hq
      exact .retire hdel htied
  | identify hdel => cases hq
  | proceed hdel h =>
    cases h with
    | restate hplaced hstate =>
      cases hq
      exact .restate hdel hplaced
    | prune hplaced hstate h =>
      cases h with
      | erase => cases hq
      | untie htied =>
        cases hq
        exact .prune hdel hplaced htied
    | pruneRestated hplaced hstate h =>
      cases h with
      | erase => cases hq
      | untie htied =>
        cases hq
        exact .pruneRestated hdel hplaced htied
    | synchronize hplaced h =>
      subst hq
      cases asks_synchronize h
    | tie hplaced h htied =>
      cases hq
      exact .tie hdel hplaced h htied
    | clock hplaced h => cases hq
    | record hplaced h hchanged =>
      cases hq
      exact .record hdel hplaced h
    | report hplaced h hchanged => cases hq

theorem concreteCall_of_asks {call : StoreCall (Concrete k)}
    (hasks : (reconcile key).run.Asks es (.concrete call)) : ConcreteCall key es call := by
  have hpass := asks_reconcile hasks
  generalize hq : Request.concrete call = q at hpass
  cases hpass with
  | fetch => cases hq
  | retire hdel h =>
    cases h with
    | erase =>
      cases hq
      exact .retire hdel
    | untie htied => cases hq
  | identify hdel => cases hq
  | proceed hdel h =>
    cases h with
    | restate hplaced hstate => cases hq
    | prune hplaced hstate h =>
      cases h with
      | erase =>
        cases hq
        exact .prune hplaced
      | untie htied => cases hq
    | pruneRestated hplaced hstate h =>
      cases h with
      | erase =>
        cases hq
        exact .pruneRestated hplaced
      | untie htied => cases hq
    | synchronize hplaced h =>
      subst hq
      exact .sync hdel hplaced (asks_synchronize h)
    | tie hplaced h htied => cases hq
    | clock hplaced h => cases hq
    | record hplaced h hchanged => cases hq
    | report hplaced h hchanged => cases hq

theorem reportCall_of_asks {r : Report} (hasks : (reconcile key).run.Asks es (.report r)) :
    ReportCall key es r := by
  have hpass := asks_reconcile hasks
  generalize hq : Request.report r = q at hpass
  cases hpass with
  | fetch => cases hq
  | retire hdel h => cases h <;> cases hq
  | identify hdel => cases hq
  | proceed hdel h =>
    cases h with
    | restate hplaced hstate => cases hq
    | prune hplaced hstate h => cases h <;> cases hq
    | pruneRestated hplaced hstate h => cases h <;> cases hq
    | synchronize hplaced h =>
      subst hq
      cases asks_synchronize h
    | tie hplaced h htied => cases hq
    | clock hplaced h => cases hq
    | record hplaced h hchanged => cases hq
    | report hplaced h hchanged =>
      cases hq
      exact .report hplaced h

end Calls

end FleetSync
