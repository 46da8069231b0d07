import FleetSync.Forwarding
import FleetSync.Proofs.PassProtocol

/-!
# Entries of a status

What the outcome of a pass and a report do to a status: they set the entry of their cluster, which
may keep an earlier time, and leave all other entries alone. The state follows from the entries.
An outcome that is recorded a second time changes nothing, even at another time.
-/
namespace FleetSync

variable {k : Kind}

theorem Condition.sameOutcome_iff {a b : Condition} : a.sameOutcome b = true ↔
    a.type = b.type ∧ a.status = b.status ∧ a.message = b.message := by
  simp [sameOutcome, and_assoc]

theorem Condition.sameOutcome_ofOutcome (kind : String) (outcome : Except Failure SyncOutcome)
    (now now' : Instant) :
    (Condition.ofOutcome kind outcome now).sameOutcome (.ofOutcome kind outcome now') = true := by
  rw [sameOutcome_iff]
  cases outcome <;> exact ⟨rfl, rfl, rfl⟩

/-- The entry of a cluster after one more report: it stays as it is, its time included, if it says
the same. -/
def ClusterEntry.upsert (old : Option ClusterEntry) (e : ClusterEntry) : Option ClusterEntry :=
  if old.any (·.sameReport e) then old else some e

theorem ClusterEntry.upsert_of_any {old : Option ClusterEntry} {e : ClusterEntry}
    (h : old.any (·.sameReport e) = true) : upsert old e = old := if_pos h

theorem ClusterEntry.exists_upsert (old : Option ClusterEntry) (e : ClusterEntry) :
    ∃ e', upsert old e = some e' ∧ e'.state = e.state ∧ e'.message = e.message := by
  unfold upsert
  split
  · rename_i hrepeats
    obtain ⟨e', he', hsame⟩ := (Option.any_eq_true _ _).1 hrepeats
    simp only [sameReport, Bool.and_eq_true, beq_iff_eq] at hsame
    exact ⟨e', he', hsame⟩
  · exact ⟨e, rfl, rfl, rfl⟩

theorem ClusterEntry.upsert_upsert (old : Option ClusterEntry) (e : ClusterEntry) :
    upsert (upsert old e) e = upsert old e := by
  apply upsert_of_any
  unfold upsert
  split
  · assumption
  · simp [sameReport]

namespace FleetStatus
variable {s : FleetStatus} {cluster d : String} {e : ClusterEntry} {c : Condition} {p : Placement}

theorem ext_parts {s' : FleetStatus} (hstate : s.state = s'.state)
    (hconditions : s.conditions = s'.conditions) (hclusters : s.clusters = s'.clusters) :
    s = s' := by
  cases s
  cases s'
  cases hstate
  cases hconditions
  cases hclusters
  rfl

@[simp] theorem clusters_appendCondition : (s.appendCondition c).clusters = s.clusters := by
  unfold appendCondition
  split <;> rfl

theorem get?_setCluster : (s.setCluster cluster e).clusters.get? cluster =
    ClusterEntry.upsert (s.clusters.get? cluster) e := by
  unfold setCluster ClusterEntry.upsert
  split
  · rename_i hrepeats
    exact (if_pos hrepeats).symm
  · rename_i hrepeats
    exact (Dict.get?_insert_self ..).trans (if_neg hrepeats).symm

theorem get?_setCluster_self (s : FleetStatus) (cluster : String) (e : ClusterEntry) :
    ∃ e', (s.setCluster cluster e).clusters.get? cluster = some e' ∧ e'.state = e.state ∧
      e'.message = e.message := by
  rw [get?_setCluster]
  exact ClusterEntry.exists_upsert _ e

@[simp] theorem conditions_setCluster : (s.setCluster cluster e).conditions = s.conditions := by
  unfold setCluster
  split <;> rfl

theorem get?_setCluster_ne (h : d ≠ cluster) :
    (s.setCluster cluster e).clusters.get? d = s.clusters.get? d := by
  unfold setCluster
  split
  · rfl
  · exact Dict.get?_insert_ne _ h _

theorem appendCondition_withState (s : FleetStatus) (x : ResourceState) (c : Condition) :
    { s with state := x }.appendCondition c = { s.appendCondition c with state := x } := by
  unfold appendCondition
  change (if s.repeatsCondition c = true then _ else _) = _
  split <;> rfl

theorem setCluster_withState (s : FleetStatus) (x : ResourceState) (cluster : String)
    (e : ClusterEntry) :
    { s with state := x }.setCluster cluster e = { s.setCluster cluster e with state := x } := by
  unfold setCluster
  change (if s.repeatsEntry cluster e = true then _ else _) = _
  split <;> rfl

theorem record_refresh (s : FleetStatus) (p : Placement) (cluster : String) (c : Condition) :
    (s.refresh p).record p cluster c = s.record p cluster c := by
  have hrefresh : s.refresh p = { s with state := effectiveState p s } := rfl
  unfold record
  rw [hrefresh, appendCondition_withState, setCluster_withState]
  rfl

/-- A condition that is added stays, and so do the newest ones before it. -/
theorem keepNewest_concat (l : List Condition) (c : Condition) :
    ∃ kept, kept <:+ l ∧ keepNewest (l ++ [c]) = kept ++ [c] := by
  refine ⟨l.drop (l.length + 1 - maxConditions), List.drop_suffix .., ?_⟩
  unfold keepNewest
  rw [List.length_append, List.length_singleton]
  apply List.drop_append_of_le_length
  have : 0 < maxConditions := by decide
  omega

/-- The newest condition of a type has the outcome of the one that was appended last. -/
theorem latest?_appendCondition (s : FleetStatus) (c : Condition) :
    ∃ c', (s.appendCondition c).latest? c.type = some c' ∧ c'.sameOutcome c = true := by
  unfold appendCondition
  split
  · rename_i hrepeats
    exact (Option.any_eq_true _ _).1 hrepeats
  · obtain ⟨l, -, hl⟩ := keepNewest_concat s.conditions c
    refine ⟨c, ?_, Condition.sameOutcome_iff.2 ⟨rfl, rfl, rfl⟩⟩
    simp [latest?, hl]

theorem appendCondition_of_repeats (h : s.repeatsCondition c = true) : s.appendCondition c = s :=
  if_pos h

theorem setCluster_of_repeats (h : s.repeatsEntry cluster e = true) : s.setCluster cluster e = s :=
  if_pos h

theorem latest?_record {type : ConditionType} :
    (s.record p cluster c).latest? type = (s.appendCondition c).latest? type := by
  unfold latest? record refresh
  rw [conditions_setCluster]

/-- An outcome that is recorded again, perhaps at another time, leaves the status as it is. -/
theorem record_record {c' : Condition} (hsame : c.sameOutcome c' = true) :
    (s.record p cluster c).record p cluster c' = s.record p cluster c := by
  obtain ⟨htype, hstatus, hmessage⟩ := Condition.sameOutcome_iff.1 hsame
  have hcondition : (s.record p cluster c).repeatsCondition c' = true := by
    obtain ⟨latest, hlatest, hlatest'⟩ := s.latest?_appendCondition c
    obtain ⟨ht, hs, hm⟩ := Condition.sameOutcome_iff.1 hlatest'
    unfold repeatsCondition
    rw [latest?_record, ← htype, hlatest]
    exact Condition.sameOutcome_iff.2 ⟨ht.trans htype, hs.trans hstatus, hm.trans hmessage⟩
  have hentry : (s.record p cluster c).repeatsEntry cluster (.ofCondition c') = true := by
    obtain ⟨e', he', hstate', hmessage'⟩ :=
      get?_setCluster_self (s.appendCondition c) cluster (.ofCondition c)
    have hfind : (s.record p cluster c).clusters.get? cluster = some e' := he'
    unfold repeatsEntry
    rw [hfind]
    simp [ClusterEntry.sameReport, hstate', hmessage', ClusterEntry.ofCondition, htype, hmessage]
  have hrecord : (s.record p cluster c).record p cluster c' =
      (((s.record p cluster c).appendCondition c').setCluster cluster
        (.ofCondition c')).refresh p := rfl
  rw [hrecord, appendCondition_of_repeats hcondition, setCluster_of_repeats hentry]
  rfl

theorem refresh_eq_of_record_eq (h : s.record p cluster c = s) : s.refresh p = s := by
  rw [← h]
  rfl

/-! The state -/

theorem worse_eq_failed_iff {x y : ResourceState} :
    x.worse y = .failed ↔ x = .failed ∨ y = .failed := by
  cases x <;> cases y <;> decide

theorem foldl_worse_eq_failed_iff {f : String → ResourceState} {x : ResourceState}
    {l : List String} : l.foldl (fun worst d => worst.worse (f d)) x = .failed ↔
      x = .failed ∨ ∃ d ∈ l, f d = .failed := by
  induction l generalizing x with
  | nil => simp
  | cons d l ih =>
    rw [List.foldl_cons, ih, worse_eq_failed_iff]
    simp [or_assoc]

theorem effectiveState_congr {s' : FleetStatus} (h : s.clusters = s'.clusters) :
    effectiveState p s = effectiveState p s' := by
  have hstate : s.stateOf = s'.stateOf := by
    funext d
    unfold stateOf
    rw [h]
  unfold effectiveState
  rw [hstate]

theorem effectiveState_eq_failed_iff :
    effectiveState p s = .failed ↔ ∃ cluster ∈ p.clusters, s.stateOf cluster = .failed := by
  unfold effectiveState
  cases p.clusters with
  | nil => simp
  | cons c rest => simp [foldl_worse_eq_failed_iff]

theorem worse_eq_ready_iff {x y : ResourceState} :
    x.worse y = .ready ↔ x = .ready ∧ y = .ready := by
  cases x <;> cases y <;> decide

theorem foldl_worse_eq_ready_iff {f : String → ResourceState} {x : ResourceState}
    {l : List String} : l.foldl (fun worst d => worst.worse (f d)) x = .ready ↔
      x = .ready ∧ ∀ d ∈ l, f d = .ready := by
  induction l generalizing x with
  | nil => simp
  | cons d l ih =>
    rw [List.foldl_cons, ih, worse_eq_ready_iff]
    simp [and_assoc]

theorem effectiveState_eq_ready_iff : effectiveState p s = .ready ↔
    p.clusters ≠ [] ∧ ∀ cluster ∈ p.clusters, s.stateOf cluster = .ready := by
  unfold effectiveState
  cases p.clusters with
  | nil => simp
  | cons c rest => simp [foldl_worse_eq_ready_iff]

/-- Any other state than pending was reported. -/
theorem stateOf_eq_iff {x : ResourceState} (hx : x ≠ .pending) :
    s.stateOf cluster = x ↔ ∃ e, s.clusters.get? cluster = some e ∧ e.state = x := by
  unfold stateOf
  cases s.clusters.get? cluster with
  | none => simp [hx.symm]
  | some e => simp

theorem exists_of_stateOf_eq_ready (h : s.stateOf cluster = .ready) :
    ∃ e, s.clusters.get? cluster = some e ∧ e.state = .ready :=
  (stateOf_eq_iff (by decide)).1 h

theorem record_ne_initial (s : FleetStatus) (p : Placement) (cluster : String) (c : Condition) :
    s.record p cluster c ≠ .initial := by
  obtain ⟨e, he, -⟩ := get?_setCluster_self (s.appendCondition c) cluster (.ofCondition c)
  intro h
  have hnone : (s.record p cluster c).clusters.get? cluster = none := by
    rw [h]
    rfl
  rw [show (s.record p cluster c).clusters.get? cluster = some e from he] at hnone
  cases hnone

end FleetStatus

namespace Template
variable {t : Template k} {cluster d : String} {c : Condition}

def entryOf? (t : Template k) (cluster : String) : Option ClusterEntry :=
  t.currentStatus.clusters.get? cluster

@[simp] theorem entryOf?_refreshed : t.refreshed.entryOf? d = t.entryOf? d := rfl

theorem entryOf?_eq_of_status {t' : Template k} (h : t.status = t'.status) :
    t.entryOf? d = t'.entryOf? d := by
  unfold entryOf? currentStatus
  rw [h]

theorem entryOf?_withOutcome_self (t : Template k) (cluster : String) (c : Condition) :
    ∃ e, (t.withOutcome cluster c).entryOf? cluster = some e ∧
      e.state = (ClusterEntry.ofCondition c).state ∧
      e.message = (ClusterEntry.ofCondition c).message :=
  FleetStatus.get?_setCluster_self ..

theorem entryOf?_withOutcome : (t.withOutcome cluster c).entryOf? cluster =
    ClusterEntry.upsert (t.entryOf? cluster) (.ofCondition c) := by
  refine FleetStatus.get?_setCluster.trans ?_
  rw [FleetStatus.clusters_appendCondition]
  rfl

theorem entryOf?_withOutcome_ne (h : d ≠ cluster) :
    (t.withOutcome cluster c).entryOf? d = t.entryOf? d :=
  (FleetStatus.get?_setCluster_ne h).trans
    (congrArg (·.get? d) FleetStatus.clusters_appendCondition)

theorem entryOf?_of_withOutcome {e : ClusterEntry}
    (he : (t.withOutcome cluster c).entryOf? d = some e) :
    t.entryOf? d = some e ∨ d = cluster ∧ e.state = (ClusterEntry.ofCondition c).state := by
  by_cases hd : d = cluster
  · subst hd
    obtain ⟨e', he', hstate, -⟩ := t.entryOf?_withOutcome_self d c
    cases he.symm.trans he'
    exact .inr ⟨rfl, hstate⟩
  · rw [entryOf?_withOutcome_ne hd] at he
    exact .inl he

theorem clusters_withReport (t : Template k) (r : Report) :
    (t.withReport r).currentStatus.clusters =
      (t.currentStatus.setCluster r.cluster r.entry).clusters :=
  FleetStatus.clusters_appendCondition

theorem entryOf?_withReport_self (t : Template k) (r : Report) :
    ∃ e, (t.withReport r).entryOf? r.cluster = some e ∧ e.state = r.entry.state ∧
      e.message = r.entry.message := by
  unfold entryOf?
  rw [clusters_withReport]
  exact FleetStatus.get?_setCluster_self ..

theorem entryOf?_withReport (t : Template k) (r : Report) :
    (t.withReport r).entryOf? r.cluster = ClusterEntry.upsert (t.entryOf? r.cluster) r.entry := by
  unfold entryOf?
  rw [clusters_withReport]
  exact FleetStatus.get?_setCluster

theorem upsert_of_not_reportChanges {r : Report} (h : t.reportChanges r = false) :
    ClusterEntry.upsert (t.entryOf? r.cluster) r.entry = t.entryOf? r.cluster := by
  simp only [reportChanges, FleetStatus.absorbChanges, Bool.or_eq_false_iff] at h
  have hrepeats : t.currentStatus.repeatsEntry r.cluster r.entry = true := by
    simpa using h.1.1
  exact ClusterEntry.upsert_of_any hrepeats

theorem entryOf?_withReport_ne {r : Report} (h : d ≠ r.cluster) :
    (t.withReport r).entryOf? d = t.entryOf? d := by
  unfold entryOf?
  rw [clusters_withReport]
  exact FleetStatus.get?_setCluster_ne h

theorem entryOf?_of_withReport {r : Report} {e : ClusterEntry}
    (he : (t.withReport r).entryOf? d = some e) :
    t.entryOf? d = some e ∨ d = r.cluster ∧ e.state = r.entry.state := by
  by_cases hd : d = r.cluster
  · subst hd
    obtain ⟨e', he', hstate, -⟩ := t.entryOf?_withReport_self r
    cases he.symm.trans he'
    exact .inr ⟨rfl, hstate⟩
  · rw [entryOf?_withReport_ne hd] at he
    exact .inl he

end Template

end FleetSync
