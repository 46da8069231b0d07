import FleetSync.Proofs.Entries

/-!
# The worst state over a placement

The state of the fleet is found by a walk over the placement that keeps the worse one of two
states. Its severity is the least bound of the severities of the placed clusters, so that neither
the order of the placement nor its repetitions count, and it grows with each of them and with the
placement.
-/
namespace FleetSync

variable {p p' : Placement} {s s' : FleetStatus}

namespace ResourceState

theorem severity_worse (x y : ResourceState) :
    (x.worse y).severity = max x.severity y.severity := by
  cases x <;> cases y <;> decide

theorem severity_injective {x y : ResourceState} (h : x.severity = y.severity) : x = y := by
  cases x <;> cases y <;> first | rfl | cases h

end ResourceState

namespace FleetStatus

theorem severity_foldl_worse_le_iff {f : String → ResourceState} {x : ResourceState}
    {l : List String} {n : Nat} : (l.foldl (fun worst d => worst.worse (f d)) x).severity ≤ n ↔
      x.severity ≤ n ∧ ∀ d ∈ l, (f d).severity ≤ n := by
  induction l generalizing x with
  | nil => simp
  | cons d l ih =>
    rw [List.foldl_cons, ih, ResourceState.severity_worse, Nat.max_le]
    simp [and_assoc]

/-- The severity of the fleet's state is the least bound of those of the placed clusters. -/
theorem severity_effectiveState_le_iff (hp : p.clusters ≠ []) {n : Nat} :
    (effectiveState p s).severity ≤ n ↔ ∀ c ∈ p.clusters, (s.stateOf c).severity ≤ n := by
  unfold effectiveState
  cases hclusters : p.clusters with
  | nil => exact absurd hclusters hp
  | cons c rest => simp [severity_foldl_worse_le_iff]

theorem clusters_ne_nil_of_subset (hp : p.clusters ≠ [])
    (hsub : ∀ c ∈ p.clusters, c ∈ p'.clusters) : p'.clusters ≠ [] := by
  obtain ⟨c, hc⟩ := List.exists_mem_of_ne_nil _ hp
  exact List.ne_nil_of_mem (hsub c hc)

theorem severity_effectiveState_mono (hp : p.clusters ≠ [])
    (hsub : ∀ c ∈ p.clusters, c ∈ p'.clusters)
    (hle : ∀ c ∈ p.clusters, (s.stateOf c).severity ≤ (s'.stateOf c).severity) :
    (effectiveState p s).severity ≤ (effectiveState p' s').severity := by
  have hp' := clusters_ne_nil_of_subset hp hsub
  rw [severity_effectiveState_le_iff hp]
  intro c hc
  have hbound := (severity_effectiveState_le_iff (s := s') hp').1 (Nat.le_refl _)
  exact Nat.le_trans (hle c hc) (hbound c (hsub c hc))

theorem effectiveState_of_nil (hp : p.clusters = []) : effectiveState p s = .pending := by
  unfold effectiveState
  rw [hp]

/-- Only the states of the placed clusters count, and each of them once. -/
theorem effectiveState_congr_of_mem_iff (hmem : ∀ c, c ∈ p'.clusters ↔ c ∈ p.clusters)
    (hstate : ∀ c ∈ p.clusters, s'.stateOf c = s.stateOf c) :
    effectiveState p' s' = effectiveState p s := by
  by_cases hp : p.clusters = []
  · have hp' : p'.clusters = [] := by
      apply List.eq_nil_iff_forall_not_mem.2
      intro c hc
      rw [hmem, hp] at hc
      exact List.not_mem_nil hc
    rw [effectiveState_of_nil hp, effectiveState_of_nil hp']
  · have hsub : ∀ c ∈ p.clusters, c ∈ p'.clusters := fun c => (hmem c).2
    have hsub' : ∀ c ∈ p'.clusters, c ∈ p.clusters := fun c => (hmem c).1
    apply ResourceState.severity_injective
    apply Nat.le_antisymm
    · apply severity_effectiveState_mono (clusters_ne_nil_of_subset hp hsub) hsub'
      intro c hc
      exact Nat.le_of_eq (congrArg ResourceState.severity (hstate c (hsub' c hc)))
    · apply severity_effectiveState_mono hp hsub
      intro c hc
      exact Nat.le_of_eq (congrArg ResourceState.severity (hstate c hc).symm)

def SomeFailed (p : Placement) (s : FleetStatus) : Prop :=
  ∃ c ∈ p.clusters, ∃ e, s.clusters.get? c = some e ∧ e.state = .failed

/-- There is a placed cluster, and all of them have reported that they are ready. -/
def AllReady (p : Placement) (s : FleetStatus) : Prop :=
  p.clusters ≠ [] ∧ ∀ c ∈ p.clusters, ∃ e, s.clusters.get? c = some e ∧ e.state = .ready

theorem effectiveState_eq_failed_iff_someFailed :
    effectiveState p s = .failed ↔ SomeFailed p s := by
  rw [effectiveState_eq_failed_iff]
  unfold SomeFailed
  simp only [stateOf_eq_iff (x := .failed) (by decide)]

theorem effectiveState_eq_ready_iff_allReady : effectiveState p s = .ready ↔ AllReady p s := by
  rw [effectiveState_eq_ready_iff]
  unfold AllReady
  simp only [stateOf_eq_iff (x := .ready) (by decide)]

theorem effectiveState_eq_pending_iff :
    effectiveState p s = .pending ↔ ¬ SomeFailed p s ∧ ¬ AllReady p s := by
  rw [← effectiveState_eq_failed_iff_someFailed, ← effectiveState_eq_ready_iff_allReady]
  cases effectiveState p s <;> simp

/-- The state is failed if a placed cluster has failed, else ready if all of a placement that is not
empty are ready, else pending. It is the same for every placement of the same clusters and every
status with the same entries for them, it does not improve when what clusters count as worsens or
when a placement that is not empty grows, and exchanging it gives the old state, changes nothing
else, and is done after one time. -/
theorem effective_state_is_worst_placed (p : Placement) (s : FleetStatus) :
    (effectiveState p s = .failed ↔ SomeFailed p s) ∧
    (effectiveState p s = .ready ↔ ¬ SomeFailed p s ∧ AllReady p s) ∧
    (effectiveState p s = .pending ↔ ¬ SomeFailed p s ∧ ¬ AllReady p s) ∧
    (∀ (p' : Placement) (s' : FleetStatus), (∀ c, c ∈ p'.clusters ↔ c ∈ p.clusters) →
      (∀ c ∈ p.clusters, s'.clusters.get? c = s.clusters.get? c) →
      effectiveState p' s' = effectiveState p s) ∧
    (∀ s' : FleetStatus,
      (∀ c ∈ p.clusters, (s.stateOf c).severity ≤ (s'.stateOf c).severity) →
      (effectiveState p s).severity ≤ (effectiveState p s').severity) ∧
    (∀ p' : Placement, p.clusters ≠ [] → (∀ c ∈ p.clusters, c ∈ p'.clusters) →
      (effectiveState p s).severity ≤ (effectiveState p' s).severity) ∧
    s.exchangeState p = (s.state, { s with state := effectiveState p s }) ∧
    (s.exchangeState p).2.exchangeState p = (effectiveState p s, (s.exchangeState p).2) := by
  refine ⟨effectiveState_eq_failed_iff_someFailed, ?_, effectiveState_eq_pending_iff, ?_, ?_, ?_,
    rfl, rfl⟩
  · rw [← effectiveState_eq_failed_iff_someFailed, ← effectiveState_eq_ready_iff_allReady]
    cases effectiveState p s <;> simp
  · intro p' s' hmem hentries
    apply effectiveState_congr_of_mem_iff hmem
    intro c hc
    unfold stateOf
    rw [hentries c hc]
  · intro s' hle
    by_cases hp : p.clusters = []
    · have hsame : effectiveState p s' = effectiveState p s := by
        rw [effectiveState_of_nil hp, effectiveState_of_nil hp]
      exact Nat.le_of_eq (congrArg ResourceState.severity hsame.symm)
    · exact severity_effectiveState_mono hp (fun c hc => hc) hle
  · intro p' hp hsub
    exact severity_effectiveState_mono hp hsub fun c _ => Nat.le_refl _

/-- West is ready and east has failed; a third cluster was never placed. -/
def splitStatus : FleetStatus :=
  ⟨.pending, [], Dict.ofList
    [("east", ⟨.failed, none, none⟩), ("north", ⟨.failed, none, none⟩),
      ("west", ⟨.ready, none, none⟩)]⟩

def failedStatus : FleetStatus :=
  ⟨.ready, [], Dict.ofList [("east", ⟨.failed, none, none⟩), ("west", ⟨.failed, none, none⟩)]⟩

/-- Repetitions and other clusters do not count, a worse west and east as well as west make the
state no better, and the exchange gives the old state. -/
theorem state_of_west_and_east :
    effectiveState ⟨["west", "east", "west"]⟩ splitStatus =
      effectiveState ⟨["east", "west"]⟩ splitStatus ∧
    effectiveState ⟨["east", "west"]⟩ splitStatus = .failed ∧
    effectiveState ⟨["west"]⟩ splitStatus = .ready ∧
    (effectiveState ⟨["west"]⟩ splitStatus).severity ≤
      (effectiveState ⟨["west"]⟩ failedStatus).severity ∧
    (effectiveState ⟨["west"]⟩ splitStatus).severity ≤
      (effectiveState ⟨["east", "west"]⟩ splitStatus).severity ∧
    (splitStatus.exchangeState ⟨["west"]⟩).1 = .pending := by
  obtain ⟨hfailed, -, -, hset, -, -, -, -⟩ :=
    effective_state_is_worst_placed ⟨["east", "west"]⟩ splitStatus
  obtain ⟨-, hready, -, -, hworse, hgrown, hexchange, -⟩ :=
    effective_state_is_worst_placed ⟨["west"]⟩ splitStatus
  refine ⟨hset _ _ ?_ fun c _ => rfl, hfailed.2 ?_, hready.2 ⟨?_, by decide, ?_⟩, hworse _ ?_,
    hgrown _ (by decide) ?_, by rw [hexchange]; rfl⟩
  · intro c
    simp only [List.mem_cons, List.not_mem_nil]
    grind
  · exact ⟨"east", by decide, ⟨.failed, none, none⟩, by decide, rfl⟩
  · rintro ⟨c, hc, e, he, hstate⟩
    cases List.mem_singleton.1 hc
    have hwest : splitStatus.clusters.get? "west" = some ⟨.ready, none, none⟩ := by decide
    cases hwest.symm.trans he
    cases hstate
  · intro c hc
    cases List.mem_singleton.1 hc
    exact ⟨⟨.ready, none, none⟩, by decide, rfl⟩
  · intro c hc
    cases List.mem_singleton.1 hc
    decide
  · intro c hc
    cases List.mem_singleton.1 hc
    decide

end FleetStatus

end FleetSync
