import FleetSync.Proofs.Convergence
import FleetSync.Proofs.Reports

/-!
# The order of reports across clusters

The aggregator folds the reports of all clusters into one status, in the order in which they
arrive. An entry depends on the reports on its own cluster alone, and the state on the entries. So
the order between reports on different clusters is seen in the history of conditions only. A report
that is not stored, because it would change nothing, does not make a difference either.
-/
namespace FleetSync

variable {k : Kind}

/-- The condition and the entry of each report on a cluster, in their order. -/
def reportsOn (cluster : String) (l : List Report) : List (Condition × ClusterEntry) :=
  (l.filter (·.cluster = cluster)).map fun r => (r.condition, r.entry)

theorem reportsOn_cons_self (r : Report) (l : List Report) :
    reportsOn r.cluster (r :: l) = (r.condition, r.entry) :: reportsOn r.cluster l := by
  simp [reportsOn]

theorem reportsOn_cons_ne {cluster : String} {r : Report} (h : r.cluster ≠ cluster)
    (l : List Report) : reportsOn cluster (r :: l) = reportsOn cluster l := by
  simp [reportsOn, h]

/-- The list holds what each cluster sent, in the order in which the cluster sent it. -/
def Interleaves (sent : String → List (Condition × ClusterEntry)) (l : List Report) : Prop :=
  ∀ cluster, reportsOn cluster l = sent cluster

theorem Interleaves.ne_nil {sent : String → List (Condition × ClusterEntry)} {l₁ l₂ : List Report}
    (h₁ : Interleaves sent l₁) (h₂ : Interleaves sent l₂) (hne : l₁ ≠ []) : l₂ ≠ [] := by
  rintro rfl
  cases l₁ with
  | nil => exact hne rfl
  | cons r l =>
    have hnone : reportsOn r.cluster (r :: l) = [] := (h₁ r.cluster).trans (h₂ r.cluster).symm
    rw [reportsOn_cons_self] at hnone
    cases hnone

/-! One status -/
namespace FleetStatus
variable {p : Placement} {s s' : FleetStatus} {c : Condition} {e : ClusterEntry}
  {cluster : String} {l : List Report}

def absorbAll (p : Placement) (s : FleetStatus) (l : List Report) : FleetStatus :=
  l.foldl (fun s r => s.absorb p r.cluster r.condition r.entry) s

theorem clusters_absorb :
    (s.absorb p cluster c e).clusters = (s.setCluster cluster e).clusters :=
  clusters_appendCondition

theorem absorb_of_not_absorbChanges (h : s.absorbChanges p cluster c e = false) :
    s.absorb p cluster c e = s := by
  simp only [absorbChanges, Bool.or_eq_false_iff, Bool.not_eq_eq_eq_not, Bool.not_false,
    bne_eq_false_iff_eq] at h
  obtain ⟨⟨hentry, hcondition⟩, hstate⟩ := h
  unfold absorb at hstate ⊢
  rw [setCluster_of_repeats hentry] at hcondition hstate ⊢
  rw [appendCondition_of_repeats hcondition] at hstate ⊢
  have hrefreshed : s.refresh p = { s with state := (s.refresh p).state } := rfl
  rw [hrefreshed, ← hstate]

theorem get?_absorbAll (p : Placement) (s : FleetStatus) (l : List Report) (cluster : String) :
    (s.absorbAll p l).clusters.get? cluster =
      ((reportsOn cluster l).map (·.2)).foldl ClusterEntry.upsert (s.clusters.get? cluster) := by
  induction l generalizing s with
  | nil => rfl
  | cons r l ih =>
    have hrest := ih (s.absorb p r.cluster r.condition r.entry)
    rw [clusters_absorb] at hrest
    refine hrest.trans ?_
    by_cases hcluster : r.cluster = cluster
    · subst hcluster
      rw [reportsOn_cons_self, get?_setCluster]
      rfl
    · rw [reportsOn_cons_ne hcluster, get?_setCluster_ne (Ne.symm hcluster)]

theorem state_absorbAll (hne : l ≠ []) :
    (s.absorbAll p l).state = effectiveState p (s.absorbAll p l) := by
  obtain rfl | ⟨l', r, rfl⟩ := List.eq_nil_or_concat l
  · exact (hne rfl).elim
  · unfold absorbAll
    rw [List.concat_eq_append, List.foldl_append]
    rfl

theorem clusters_absorbAll_congr {sent : String → List (Condition × ClusterEntry)}
    {l₁ l₂ : List Report} (h₁ : Interleaves sent l₁) (h₂ : Interleaves sent l₂) (p : Placement)
    (s : FleetStatus) : (s.absorbAll p l₁).clusters = (s.absorbAll p l₂).clusters := by
  apply Dict.ext_get?
  intro cluster
  rw [get?_absorbAll, get?_absorbAll, h₁ cluster, h₂ cluster]

end FleetStatus

/-! The stored template -/

def recordReports : List Report → Attempt k Unit
  | [] => return ()
  | r :: rest => do
    let _ ← recordReport r
    recordReports rest

/-- The template with the reports in its status, wherever it has a version. -/
structure Template.Absorbs (l : List Report) (t t' : Template k) : Prop where
  metadata : t'.metadata = { t.metadata with resourceVersion := t'.metadata.resourceVersion }
  payload : t'.payload = t.payload
  placement : t'.placement = t.placement
  status : t'.currentStatus = t.currentStatus.absorbAll t.placement l

theorem Template.Absorbs.cons {r : Report} {l : List Report} {t t' t'' : Template k}
    (h : Absorbs [r] t t') (h' : Absorbs l t' t'') : Absorbs (r :: l) t t'' where
  metadata := by rw [h'.metadata, h.metadata]
  payload := h'.payload.trans h.payload
  placement := h'.placement.trans h.placement
  status := by
    rw [h'.status, h.status, h.placement]
    rfl

section Recording
variable {cluster : String} {now : Instant} {w : World k} {t : Template k} {r : Report}

theorem perform_recordReport (hfind : w.templates.find? r.key = some t) :
    w.perform cluster now (recordReport r) = (.ok (t.reportChanges r),
      if t.reportChanges r then w.restock r.key (t.withReport r) else w) := by
  have honce : w.perform cluster now (recordReportOnce r) = (.ok (t.reportChanges r),
      if t.reportChanges r then w.restock r.key (t.withReport r) else w) := by
    have hget : w.perform cluster now (askTemplates (.get r.key)) = (.ok (some t), w) := by
      rw [← hfind]
      exact perform_getTemplate
    unfold recordReportOnce
    rw [perform_bind_ok hget]
    dsimp only
    cases t.reportChanges r with
    | false => rfl
    | true =>
      have hwrite : w.perform cluster now _ = _ :=
        perform_replaceStatus (t := t.withReport r) hfind rfl
      have hrestated : w.templates.restatement t (t.withReport r) = t.withReport r :=
        restatement_withStatus ..
      rw [hrestated] at hwrite
      simp only [if_true]
      exact perform_tryCatch_ok ((perform_bind_ok hwrite).trans (perform_pure true))
  unfold recordReport
  rw [perform_retryConflicts, honce]
  rw [honce]
  rintro e h
  cases h

theorem exists_perform_recordReport (hfind : w.templates.find? r.key = some t) :
    ∃ changed w' t', w.perform cluster now (recordReport r) = (.ok changed, w') ∧
      w'.templates.find? r.key = some t' ∧ t.Absorbs [r] t' := by
  rw [perform_recordReport hfind]
  cases hchanges : t.reportChanges r with
  | false =>
    have hsame : t.currentStatus = t.currentStatus.absorbAll t.placement [r] :=
      (FleetStatus.absorb_of_not_absorbChanges hchanges).symm
    exact ⟨false, w, t, rfl, hfind, rfl, rfl, rfl, hsame⟩
  | true =>
    exact ⟨true, w.restock r.key (t.withReport r), w.stocked r.key (t.withReport r), rfl,
      w.templates.find?_assign_self .., rfl, rfl, rfl, rfl⟩

theorem exists_perform_recordReports {l : List Report} {key : Key}
    (hfind : w.templates.find? key = some t) (hkey : ∀ r ∈ l, r.key = key) :
    ∃ w' t', w.perform cluster now (recordReports l) = (.ok (), w') ∧
      w'.templates.find? key = some t' ∧ t.Absorbs l t' := by
  induction l generalizing w t with
  | nil => exact ⟨w, t, rfl, hfind, rfl, rfl, rfl, rfl⟩
  | cons r l ih =>
    rw [List.forall_mem_cons] at hkey
    obtain ⟨rfl, hkeys⟩ := hkey
    obtain ⟨changed, w₁, t₁, hperform, hfind₁, habsorbs⟩ :=
      @exists_perform_recordReport k cluster now w t r hfind
    obtain ⟨w', t', hperform', hfind', habsorbs'⟩ := ih hfind₁ hkeys
    refine ⟨w', t', ?_, hfind', habsorbs.cons habsorbs'⟩
    unfold recordReports
    rw [perform_bind_ok hperform, hperform']

end Recording

/-- Take two interleavings of what the clusters sent, with one report at least. Folded into any
status they give the same entries, times included, and the same state, which is the one that the
entries imply. Recorded in a store that nobody else writes, all of them are accepted, and the
stored templates differ in their versions and in the histories of their conditions at most. -/
theorem aggregate_independent_of_interleaving
    {sent : String → List (Condition × ClusterEntry)} {l₁ l₂ : List Report}
    (h₁ : Interleaves sent l₁) (h₂ : Interleaves sent l₂) (hne : l₁ ≠ []) :
    (∀ (p : Placement) (s : FleetStatus),
      (s.absorbAll p l₁).clusters = (s.absorbAll p l₂).clusters ∧
      (s.absorbAll p l₁).state = (s.absorbAll p l₂).state ∧
      (s.absorbAll p l₁).state = FleetStatus.effectiveState p (s.absorbAll p l₁)) ∧
    ∀ (w : World k) (key : Key) (t : Template k) (cluster : String) (now₁ now₂ : Instant),
      w.templates.find? key = some t → (∀ r ∈ l₁ ++ l₂, r.key = key) →
      ∃ w₁ w₂ t₁ t₂,
        w.perform cluster now₁ (recordReports l₁) = (.ok (), w₁) ∧
        w.perform cluster now₂ (recordReports l₂) = (.ok (), w₂) ∧
        w₁.templates.find? key = some t₁ ∧ w₂.templates.find? key = some t₂ ∧
        t.Absorbs l₁ t₁ ∧ t.Absorbs l₂ t₂ ∧
        t₁.currentStatus.clusters = t₂.currentStatus.clusters ∧
        t₁.currentStatus.state = t₂.currentStatus.state := by
  have hstatus (p : Placement) (s : FleetStatus) :
      (s.absorbAll p l₁).clusters = (s.absorbAll p l₂).clusters ∧
      (s.absorbAll p l₁).state = (s.absorbAll p l₂).state ∧
      (s.absorbAll p l₁).state = FleetStatus.effectiveState p (s.absorbAll p l₁) := by
    have hclusters := FleetStatus.clusters_absorbAll_congr h₁ h₂ p s
    refine ⟨hclusters, ?_, FleetStatus.state_absorbAll hne⟩
    rw [FleetStatus.state_absorbAll hne, FleetStatus.state_absorbAll (h₁.ne_nil h₂ hne)]
    exact FleetStatus.effectiveState_congr hclusters
  refine ⟨hstatus, ?_⟩
  intro w key t cluster now₁ now₂ hfind hkeys
  obtain ⟨w₁, t₁, hperform₁, hfind₁, habsorbs₁⟩ :=
    @exists_perform_recordReports k cluster now₁ w t l₁ key hfind fun r hr =>
      hkeys r (List.mem_append_left _ hr)
  obtain ⟨w₂, t₂, hperform₂, hfind₂, habsorbs₂⟩ :=
    @exists_perform_recordReports k cluster now₂ w t l₂ key hfind fun r hr =>
      hkeys r (List.mem_append_right _ hr)
  obtain ⟨hclusters, hstate, -⟩ := hstatus t.placement t.currentStatus
  refine ⟨w₁, w₂, t₁, t₂, hperform₁, hperform₂, hfind₁, hfind₂, habsorbs₁, habsorbs₂, ?_, ?_⟩
  · rw [habsorbs₁.status, habsorbs₂.status, hclusters]
  · rw [habsorbs₁.status, habsorbs₂.status, hstate]

def reportOfEast (type : ConditionType) (message : String) : Report :=
  let condition : Condition := ⟨type, .isTrue, message, default⟩
  ⟨Kind.configMap.template.kind, ⟨"apps", "settings"⟩, "east", condition, .ofCondition condition⟩

/-- The east retries once, the west succeeds at once. -/
def eastThenWest : List Report :=
  [reportOfEast .deployFailed "denied", reportOfEast .deployComplete "ConfigMap created",
    reportOfWest]

def westThenEast : List Report :=
  [reportOfWest, reportOfEast .deployFailed "denied",
    reportOfEast .deployComplete "ConfigMap created"]

theorem interleaves_westThenEast :
    Interleaves (reportsOn · eastThenWest) westThenEast := by
  intro cluster
  by_cases heast : cluster = "east"
  · subst heast
    decide
  · by_cases hwest : cluster = "west"
    · subst hwest
      decide
    · simp [reportsOn, eastThenWest, westThenEast, reportOfEast, reportOfWest, Ne.symm heast,
        Ne.symm hwest]

/-- The two orders give one aggregate with two histories. -/
theorem two_orders_of_reports : ∃ w₁ w₂ t₁ t₂,
    World.perform "east" default (recordReports eastThenWest)
      ⟨((Store.empty true).put sharedSettings).2, .empty false⟩ = (.ok (), w₁) ∧
    World.perform "east" default (recordReports westThenEast)
      ⟨((Store.empty true).put sharedSettings).2, .empty false⟩ = (.ok (), w₂) ∧
    w₁.templates.find? ⟨"apps", "settings"⟩ = some t₁ ∧
    w₂.templates.find? ⟨"apps", "settings"⟩ = some t₂ ∧
    t₁.currentStatus.clusters = t₂.currentStatus.clusters ∧
    t₁.currentStatus.state = t₂.currentStatus.state ∧
    t₁.currentStatus.conditions ≠ t₂.currentStatus.conditions := by
  obtain ⟨w₁, w₂, t₁, t₂, hw₁, hw₂, ht₁, ht₂, h₁, h₂, hclusters, hstate⟩ :=
    (aggregate_independent_of_interleaving (fun _ => rfl) interleaves_westThenEast
      (by decide)).2 ⟨((Store.empty true).put sharedSettings).2, .empty false⟩
      ⟨"apps", "settings"⟩ _ "east" default default rfl (by decide)
  refine ⟨w₁, w₂, t₁, t₂, hw₁, hw₂, ht₁, ht₂, hclusters, hstate, ?_⟩
  rw [h₁.status, h₂.status]
  decide +kernel

end FleetSync
