import FleetSync.Proofs.Conditions
import FleetSync.Proofs.Confluence

/-!
# Reports that change a status

A status that absorbs a report says whether it changed, and what it says is so: an entry that says
something new replaces the one before it, a condition that is added shows at the end of the history
even if it pushes out the oldest one, and the state is compared. The same report a second time,
whatever its times are, changes nothing.
-/
namespace FleetSync.FleetStatus

variable {s : FleetStatus} {p : Placement} {cluster : String} {c c' : Condition}
  {e e' : ClusterEntry}

theorem repeatsEntry_of_absorb_eq_self (h : s.absorb p cluster c e = s) :
    s.repeatsEntry cluster e = true := by
  obtain ⟨e', he', hstate, hmessage⟩ := s.get?_setCluster_self cluster e
  have hfind : s.clusters.get? cluster = some e' := by
    rw [← he', ← clusters_absorb (p := p) (c := c), h]
  unfold repeatsEntry
  rw [hfind]
  simp [ClusterEntry.sameReport, hstate, hmessage]

theorem repeatsCondition_of_absorb_eq_self (h : s.absorb p cluster c e = s) :
    (s.setCluster cluster e).repeatsCondition c = true := by
  by_contra hrepeats
  rw [Bool.not_eq_true] at hrepeats
  apply repeatsCondition_eq_false_iff.1 hrepeats
  rw [conditions_setCluster]
  have hconditions : (s.absorb p cluster c e).conditions = s.conditions := congrArg conditions h
  exact hconditions

theorem absorbChanges_iff : s.absorbChanges p cluster c e = true ↔ s.absorb p cluster c e ≠ s := by
  constructor
  · intro hchanges hsame
    unfold absorbChanges at hchanges
    rw [repeatsEntry_of_absorb_eq_self hsame, repeatsCondition_of_absorb_eq_self hsame, hsame]
      at hchanges
    simp at hchanges
  · intro hne
    by_contra hchanges
    rw [Bool.not_eq_true] at hchanges
    exact hne (absorb_of_not_absorbChanges hchanges)

/-! The same report again -/

theorem repeatsEntry_absorb (h : e.sameReport e' = true) :
    (s.absorb p cluster c e).repeatsEntry cluster e' = true := by
  obtain ⟨stored, hstored, hstate, hmessage⟩ := s.get?_setCluster_self cluster e
  simp only [ClusterEntry.sameReport, Bool.and_eq_true, beq_iff_eq] at h
  unfold repeatsEntry
  rw [clusters_absorb, hstored]
  simp [ClusterEntry.sameReport, hstate, hmessage, h]

/-- The condition of a report that was absorbed is the newest one of its type. -/
theorem repeatsCondition_absorb (h : c.sameOutcome c' = true) :
    (s.absorb p cluster c e).repeatsCondition c' = true := by
  obtain ⟨htype, hstatus, hmessage⟩ := Condition.sameOutcome_iff.1 h
  obtain ⟨newest, hnewest, hsame⟩ := (s.setCluster cluster e).latest?_appendCondition c
  obtain ⟨htype', hstatus', hmessage'⟩ := Condition.sameOutcome_iff.1 hsame
  have hlatest : (s.absorb p cluster c e).latest? c'.type = some newest := htype ▸ hnewest
  unfold repeatsCondition
  rw [hlatest]
  exact Condition.sameOutcome_iff.2
    ⟨htype'.trans htype, hstatus'.trans hstatus, hmessage'.trans hmessage⟩

/-- A report is absorbed once, even if it comes again with other times. -/
theorem absorb_absorb (hcondition : c.sameOutcome c' = true) (hentry : e.sameReport e' = true) :
    (s.absorb p cluster c e).absorb p cluster c' e' = s.absorb p cluster c e := by
  have habsorb : (s.absorb p cluster c e).absorb p cluster c' e' =
      (((s.absorb p cluster c e).setCluster cluster e').appendCondition c').refresh p := rfl
  rw [habsorb, setCluster_of_repeats (repeatsEntry_absorb hentry),
    appendCondition_of_repeats (repeatsCondition_absorb hcondition)]
  rfl

/-- Whether a status changes by a report is told exactly, whatever its history and the report are,
and a report that comes again at once with other times is told to change nothing, and changes
nothing. -/
theorem absorption_is_told_exactly (s : FleetStatus) (p : Placement) (cluster : String)
    (c : Condition) (e : ClusterEntry) :
    (s.absorbChanges p cluster c e = true ↔ s.absorb p cluster c e ≠ s) ∧
    ∀ (time : Instant) (lastUpdate : Option Instant),
      let again := (s.absorb p cluster c e).absorb p cluster { c with lastTransition := time }
        { e with lastUpdate := lastUpdate }
      (s.absorb p cluster c e).absorbChanges p cluster { c with lastTransition := time }
        { e with lastUpdate := lastUpdate } = false ∧ again = s.absorb p cluster c e := by
  refine ⟨absorbChanges_iff, fun time lastUpdate => ?_⟩
  have hcondition : c.sameOutcome { c with lastTransition := time } = true :=
    Condition.sameOutcome_iff.2 ⟨rfl, rfl, rfl⟩
  have hentry : e.sameReport { e with lastUpdate := lastUpdate } = true := by
    simp [ClusterEntry.sameReport]
  have hagain := @absorb_absorb s p cluster _ _ _ _ hcondition hentry
  exact ⟨Bool.eq_false_iff.2 fun hchanges => absorbChanges_iff.1 hchanges hagain, hagain⟩

end FleetSync.FleetStatus
