import FleetSync.Proofs.Convergence

/-!
# Passes come to rest

Passes over one template that nobody disturbs come to rest. What a pass finds settled it leaves as
it is: it asks for nothing that writes, as all that it is answered comes from stores that do not
change. The first pass settles what is to be withdrawn or cannot be rendered. What was written it
calls created or updated, so the second pass records once more that the object is unchanged, and
from then on the outcome repeats, at whatever time.
-/
namespace FleetSync

variable {k : Kind}

def Verb.writes : Verb → Bool
  | create => true
  | replace => true
  | replaceStatus => true
  | get => false
  | delete => false

def Request.writes : Request k → Bool
  | template call => call.verb.writes
  | concrete call => call.verb.writes
  | _ => false

/-- What will come of the synchronization of a template if the stores stay as they are. -/
inductive World.Foresees (w : World k) (t : Template k) : Except Failure SyncOutcome → Prop
  | unchanged {c} (hfind : w.concretes.find? t.metadata.key = some c) (hprescribed : t.Prescribes c)
      (htied : t.isTied = true) : Foresees w t (.ok .unchanged)
  | refused {f} (h : k.mutate t.payload
        ((w.concretes.find? t.metadata.key).getD (.blank t.metadata.key)) = .error f) :
      Foresees w t (.error f)

/-- All that a pass of the cluster over the template at an address would bring about is there. -/
inductive Settled (cluster : String) (key : Key) (w : World k) : Prop
  | absent (hfind : w.templates.find? key = none)
  | withdrawn {t} (hfind : w.templates.find? key = some t) (hkey : t.metadata.key = key)
      (hgoing : t.metadata.isDeleting = true ∨ t.metadata.isDeleting = false ∧
        t.placement.places cluster = false ∧ t.refreshed.currentStatus = t.currentStatus)
      (htied : t.isTied = false) (herased : w.concretes.find? key = none)
  | recorded {t outcome} (hfind : w.templates.find? key = some t) (hkey : t.metadata.key = key)
      (hdel : t.metadata.isDeleting = false) (hplaced : t.placement.places cluster = true)
      (houtcome : w.Foresees t outcome)
      (hstatus : ∀ now, t.currentStatus.record t.placement cluster
        (.ofOutcome k.concrete.kind outcome now) = t.currentStatus)

/-! A pass over what is settled -/
section Answers
variable {cluster : String} {now : Instant} {w : World k} {key : Key} {t : Template k}
  {es : Dialogue k} {q : Request k}

abbrev Hears (cluster : String) (now : Instant) (w : World k) (es : Dialogue k) : Prop :=
  Program.Unmoved (World.serve cluster now) w es

theorem find?_of_hears_fetched (h : Hears cluster now w (fetched key t :: es)) :
    w.templates.find? key = some t :=
  (Except.ok.inj (h _ List.mem_cons_self)).symm

theorem eq_of_hears_named {name : String} (h : Hears cluster now w (named name :: es)) :
    name = cluster :=
  Except.ok.inj (h _ List.mem_cons_self)

theorem find?_of_hears_sighted {found : Option (Concrete k)}
    (h : Hears cluster now w (sighted key found :: es)) : found = w.concretes.find? key :=
  Except.ok.inj (h _ List.mem_cons_self)

theorem serve_delete (h : w.concretes.find? key = none) :
    (World.serve cluster now (.concrete (.delete key)) w).2 = w := by
  change ({ w with concretes := { w.concretes with objects := w.concretes.objects.erase key } } :
    World k) = w
  rw [Dict.erase_of_get?_eq_none h]

section Foresees
variable {outcome : Except Failure SyncOutcome} {found : Option (Concrete k)} {c : Concrete k}

theorem World.Foresees.eq_some_of_mutate (h : w.Foresees t outcome)
    (hfound : found = w.concretes.find? t.metadata.key)
    (hm : k.mutate t.payload (found.getD (.blank t.metadata.key)) = .ok c) :
    outcome = .ok .unchanged ∧ found = some (c.pin t.metadata.key) := by
  subst hfound
  cases h with
  | unchanged hfind hprescribed htied =>
    obtain ⟨c', hm', rfl⟩ := hprescribed
    rw [hfind] at hm
    cases hm.symm.trans hm'
    exact ⟨rfl, hfind⟩
  | refused hm' => cases hm.symm.trans hm'

theorem World.Foresees.eq_error_of_mutate {f : Failure} (h : w.Foresees t outcome)
    (hfound : found = w.concretes.find? t.metadata.key)
    (hm : k.mutate t.payload (found.getD (.blank t.metadata.key)) = .error f) :
    outcome = .error f := by
  subst hfound
  cases h with
  | unchanged hfind hprescribed htied =>
    obtain ⟨c', hm', -⟩ := hprescribed
    rw [hfind] at hm
    cases hm.symm.trans hm'
  | refused hm' =>
    cases hm.symm.trans hm'
    rfl

end Foresees

theorem World.Foresees.eq_of_syncEnds {outcome r : Except Failure SyncOutcome}
    (h : w.Foresees t outcome) (hends : SyncEnds t.metadata.key (k.mutate t.payload) es r)
    (hes : Hears cluster now w es) : r = outcome := by
  cases hends with
  | unsighted f => cases hes _ List.mem_cons_self
  | refused hm => exact (h.eq_error_of_mutate (find?_of_hears_sighted hes) hm).symm
  | created hm answer =>
    obtain ⟨-, hthere⟩ := h.eq_some_of_mutate (find?_of_hears_sighted hes) hm
    cases hthere
  | unchanged hm hsame => exact (h.eq_some_of_mutate (find?_of_hears_sighted hes) hm).1.symm
  | updated hm hne answer =>
    obtain ⟨-, hthere⟩ := h.eq_some_of_mutate (find?_of_hears_sighted hes) hm
    exact (hne (Option.some.inj hthere).symm).elim

theorem World.Foresees.eq_of_ends {outcome r : Except Failure SyncOutcome}
    (h : w.Foresees t outcome) (hends : t.synchronization.Ends es r)
    (hes : Hears cluster now w es) : r = outcome := by
  obtain ⟨n, -, earlier, es', rfl, -, hlast⟩ := ends_retryConflicts hends
  exact h.eq_of_syncEnds (ends_syncOnce hlast) (Program.Unmoved.append_iff.1 hes).2

theorem World.Foresees.calm_of_asks {outcome : Except Failure SyncOutcome}
    (h : w.Foresees t outcome) (hasks : t.synchronization.Asks es q)
    (hes : Hears cluster now w es) : q.writes = false ∧ (World.serve cluster now q w).2 = w := by
  obtain ⟨n, -, earlier, es', rfl, -, hlast | ⟨f, d, -, -, rfl⟩⟩ := asks_retryConflicts hasks
  · have hes' := (Program.Unmoved.append_iff.1 hes).2
    cases asks_syncOnce hlast with
    | get => exact ⟨rfl, rfl⟩
    | create hm =>
      obtain ⟨-, hthere⟩ := h.eq_some_of_mutate (find?_of_hears_sighted hes') hm
      cases hthere
    | replace hm hne =>
      obtain ⟨-, hthere⟩ := h.eq_some_of_mutate (find?_of_hears_sighted hes') hm
      exact (hne (Option.some.inj hthere).symm).elim
  · exact ⟨rfl, rfl⟩

theorem World.Foresees.isTied_of_ends {outcome : Except Failure SyncOutcome} {done : SyncOutcome}
    (h : w.Foresees t outcome) (hends : t.synchronization.Ends es (.ok done))
    (hes : Hears cluster now w es) : t.isTied = true := by
  cases h.eq_of_ends hends hes
  cases h with
  | unchanged hfind hprescribed htied => exact htied

theorem World.Foresees.eq_of_materialize {outcome r : Except Failure SyncOutcome}
    {current : Template k} (h : w.Foresees t outcome)
    (hends : t.refreshed.materialize.Ends es (current, r)) (hes : Hears cluster now w es) :
    current = t.refreshed ∧ r = outcome := by
  have hnot {es' : Dialogue k} {e : Exchange (Request k) Request.Answer} {done : SyncOutcome}
      (hsync : t.synchronization.Ends es' (.ok done)) (hes : Hears cluster now w (es' ++ [e]))
      (hfree : t.isTied = false) : False := by
    rw [h.isTied_of_ends hsync (Program.Unmoved.append_iff.1 hes).1] at hfree
    cases hfree
  cases Template.ends_materialize hends with
  | failed hsync => exact ⟨rfl, h.eq_of_ends hsync hes⟩
  | tied hsync htied => exact ⟨rfl, h.eq_of_ends hsync hes⟩
  | tieRefused hsync hfree => exact (hnot hsync hes hfree).elim
  | tieWritten hsync hfree => exact (hnot hsync hes hfree).elim

theorem status_withOutcome_refreshed {c : Condition}
    (h : t.currentStatus.record t.placement cluster c = t.currentStatus) :
    (t.refreshed.withOutcome cluster c).status = some t.currentStatus := by
  change some (FleetStatus.record (t.currentStatus.refresh t.placement) t.placement cluster c) = _
  rw [FleetStatus.record_refresh, h]

theorem calm_of_releases (h : t.Releases es q) (hkey : t.metadata.key = key)
    (htied : t.isTied = false) (herased : w.concretes.find? key = none) :
    q.writes = false ∧ (World.serve cluster now q w).2 = w := by
  cases h with
  | erase =>
    rw [hkey]
    exact ⟨rfl, serve_delete herased⟩
  | untie htied' =>
    rw [htied] at htied'
    cases htied'

theorem calm_of_withdrawn (hdel : t.metadata.isDeleting = false)
    (hgoing : t.metadata.isDeleting = true ∨ t.metadata.isDeleting = false ∧
      t.placement.places cluster = false ∧ t.refreshed.currentStatus = t.currentStatus)
    (hkey : t.metadata.key = key) (htied : t.isTied = false)
    (herased : w.concretes.find? key = none) (h : t.Proceeds cluster es q) :
    q.writes = false ∧ (World.serve cluster now q w).2 = w := by
  obtain ⟨-, helsewhere, hrefreshed⟩ : t.metadata.isDeleting = false ∧
      t.placement.places cluster = false ∧ t.refreshed.currentStatus = t.currentStatus := by
    rcases hgoing with hdel' | hgoing
    · rw [hdel] at hdel'
      cases hdel'
    · exact hgoing
  have hnot {P : Prop} (hplaced : t.placement.places cluster = true) : P := by
    rw [helsewhere] at hplaced
    cases hplaced
  cases h with
  | restate hplaced hstate => exact (hstate (congrArg (·.state) hrefreshed)).elim
  | prune hplaced hstate h => exact calm_of_releases h hkey htied herased
  | pruneRestated hplaced hstate h => exact (hstate (congrArg (·.state) hrefreshed)).elim
  | synchronize hplaced h => exact hnot hplaced
  | tie hplaced h htied => exact hnot hplaced
  | clock hplaced h => exact hnot hplaced
  | record hplaced h hchanged => exact hnot hplaced
  | report hplaced h hchanged => exact hnot hplaced

theorem calm_of_recorded {outcome : Except Failure SyncOutcome}
    (hplaced : t.placement.places cluster = true) (houtcome : w.Foresees t outcome)
    (hstatus : ∀ now, t.currentStatus.record t.placement cluster
      (.ofOutcome k.concrete.kind outcome now) = t.currentStatus)
    (h : t.Proceeds cluster es q) (hes : Hears cluster now w es) :
    q.writes = false ∧ (World.serve cluster now q w).2 = w := by
  have hnot {P : Prop} (helsewhere : t.placement.places cluster = false) : P := by
    rw [hplaced] at helsewhere
    cases helsewhere
  have hrecorded {es' : Dialogue k} {current : Template k} {r : Except Failure SyncOutcome}
      {now' : Instant} (hends : t.refreshed.materialize.Ends es' (current, r))
      (hes : Hears cluster now w es') :
      (current.withOutcome cluster (.ofOutcome k.concrete.kind r now')).status =
        some t.currentStatus := by
    obtain ⟨rfl, rfl⟩ := houtcome.eq_of_materialize hends hes
    exact status_withOutcome_refreshed (hstatus now')
  cases h with
  | restate helsewhere hstate => exact hnot helsewhere
  | prune helsewhere hstate h => exact hnot helsewhere
  | pruneRestated helsewhere hstate h => exact hnot helsewhere
  | synchronize hplaced h => exact houtcome.calm_of_asks h hes
  | tie hplaced h hfree =>
    rw [houtcome.isTied_of_ends h hes] at hfree
    cases hfree
  | clock hplaced h => exact ⟨rfl, rfl⟩
  | record hplaced h hchanged =>
    exact (hchanged (hrecorded h (Program.Unmoved.append_iff.1 hes).1)).elim
  | report hplaced h hchanged =>
    exact (hchanged (hrecorded h (Program.Unmoved.append_iff.1 hes).1)).elim

/-- As long as a pass over what is settled finds the stores as they are, it asks for nothing that
would change them. -/
theorem Settled.calm (h : Settled cluster key w) (hasks : (reconcile key).run.Asks es q)
    (hes : Hears cluster now w es) : q.writes = false ∧ (World.serve cluster now q w).2 = w := by
  cases asks_reconcile hasks with
  | fetch => exact ⟨rfl, rfl⟩
  | identify hdel => exact ⟨rfl, rfl⟩
  | @retire t es q hdel hreleases =>
    have hfind := find?_of_hears_fetched hes
    cases h with
    | absent hnone => cases hnone.symm.trans hfind
    | withdrawn hfind' hkey hgoing htied herased =>
      cases hfind'.symm.trans hfind
      exact calm_of_releases hreleases hkey htied herased
    | recorded hfind' hkey hdel' hplaced houtcome hstatus =>
      cases hfind'.symm.trans hfind
      rw [hdel] at hdel'
      cases hdel'
  | @proceed t name es q hdel hproceeds =>
    have hfind := find?_of_hears_fetched hes
    have hnamed := (Program.Unmoved.cons_iff.1 hes).2
    have hrest := (Program.Unmoved.cons_iff.1 hnamed).2
    cases eq_of_hears_named hnamed
    cases h with
    | absent hnone => cases hnone.symm.trans hfind
    | withdrawn hfind' hkey hgoing htied herased =>
      cases hfind'.symm.trans hfind
      exact calm_of_withdrawn hdel hgoing hkey htied herased hproceeds
    | recorded hfind' hkey hdel' hplaced houtcome hstatus =>
      cases hfind'.symm.trans hfind
      exact calm_of_recorded hplaced houtcome hstatus hproceeds hrest

theorem Settled.pass (h : Settled cluster key w) (now : Instant) :
    (w.perform cluster now (reconcile key)).2 = w ∧
      ∀ e ∈ (reconcile key).run.exchanges (World.serve cluster now) w, e.request.writes = false :=
  Program.run_of_unmoved fun _ _ hasks hes => h.calm hasks hes

end Answers

/-! Settling -/

/-- The concrete object of a template that is placed on the cluster and can be rendered has the
prescribed form. -/
def World.Shaped (cluster : String) (key : Key) (w : World k) : Prop :=
  ∀ t c, w.templates.find? key = some t → t.metadata.isDeleting = false →
    t.placement.places cluster = true →
    k.mutate t.payload ((w.concretes.find? key).getD (.blank key)) = .ok c →
    w.concretes.find? key = some (c.pin key)

section Settling
variable {cluster : String} {now : Instant} {w w' : World k} {key : Key} {t t' : Template k}
  {result : Except Failure Unit} {l : List String}

theorem Template.Keeps.key_eq (h : t.Keeps t') : t'.metadata.key = t.metadata.key := by
  rw [h.metadata]
  rfl

theorem Template.Keeps.isDeleting_eq (h : t.Keeps t') :
    t'.metadata.isDeleting = t.metadata.isDeleting := by
  rw [h.metadata]
  rfl

theorem isTied_of_finalizers (h : t.metadata.finalizers.getD [] = withToken k l) :
    t.isTied = true := by
  unfold Template.isTied Metadata.hasFinalizer
  rw [h]
  unfold withToken
  split
  · assumption
  · simp

theorem not_isTied_of_finalizers
    (h : t.metadata.finalizers.getD [] = l.filter (· ≠ k.finalizer)) : t.isTied = false := by
  unfold Template.isTied Metadata.hasFinalizer
  rw [h]
  simp

theorem record_of_status {s : FleetStatus} {p : Placement} {outcome : Except Failure SyncOutcome}
    (hstatus : t.status = some (s.record p cluster (.ofOutcome k.concrete.kind outcome now)))
    (hplacement : t.placement = p) (now' : Instant) :
    t.currentStatus.record t.placement cluster (.ofOutcome k.concrete.kind outcome now') =
      t.currentStatus := by
  have hcurrent : t.currentStatus =
      s.record p cluster (.ofOutcome k.concrete.kind outcome now) := by
    unfold Template.currentStatus
    rw [hstatus]
    rfl
  rw [hcurrent, hplacement]
  exact FleetStatus.record_record (Condition.sameOutcome_ofOutcome ..)

/-- What an undisturbed pass has done to the stores, by what it found. -/
inductive Concluded (cluster : String) (now : Instant) (key : Key) (w w' : World k) : Prop
  | absent (hfind : w.templates.find? key = none) (hsame : w' = w)
  | withdrawn {t t' : Template k} (hfind : w.templates.find? key = some t)
      (hrewrites : Rewrites key w.templates w'.templates t t')
      (hgoing : t.metadata.isDeleting = true ∨ t.placement.places cluster = false)
      (h : Withdrawn key w' t t')
  | deployed {t t' : Template k} {c} (hfind : w.templates.find? key = some t)
      (hrewrites : Rewrites key w.templates w'.templates t t')
      (hdel : t.metadata.isDeleting = false) (hplaced : t.placement.places cluster = true)
      (hm : k.mutate t.payload ((w.concretes.find? key).getD (.blank key)) = .ok c)
      (h : Deployed cluster now key w w' t t' c)
  | refused {t t' : Template k} {f} (hfind : w.templates.find? key = some t)
      (hrewrites : Rewrites key w.templates w'.templates t t')
      (hdel : t.metadata.isDeleting = false) (hplaced : t.placement.places cluster = true)
      (hm : k.mutate t.payload ((w.concretes.find? key).getD (.blank key)) = .error f)
      (h : Refused cluster now w w' t t' f)

theorem Converges.concluded (h : Converges cluster now key w result w') :
    Concluded cluster now key w w' := by
  unfold Converges at h
  cases hfind : w.templates.find? key with
  | none =>
    rw [hfind] at h
    exact .absent hfind h.2
  | some t =>
    rw [hfind] at h
    obtain ⟨-, t', hrewrites, h⟩ := h
    split at h
    · rename_i hgoing
      exact .withdrawn hfind hrewrites hgoing h.2
    · rename_i hstays
      rw [not_or, Bool.not_eq_true, Bool.not_eq_false] at hstays
      split at h
      · rename_i c hm
        exact .deployed hfind hrewrites hstays.1 hstays.2 hm h.2
      · rename_i f hm
        exact .refused hfind hrewrites hstays.1 hstays.2 hm h.2

theorem Concluded.own (h : Concluded cluster now key w w')
    (hown : ∀ t, w.templates.find? key = some t → t.metadata.key = key) (t' : Template k)
    (ht' : w'.templates.find? key = some t') : t'.metadata.key = key := by
  have hkey {t t'' : Template k} (hfind : w.templates.find? key = some t)
      (hrewrites : Rewrites key w.templates w'.templates t t'') : t'.metadata.key = key := by
    cases hrewrites.find.symm.trans ht'
    exact hrewrites.keeps.key_eq.trans (hown t hfind)
  cases h with
  | absent hfind hsame => exact hown t' (hsame ▸ ht')
  | withdrawn hfind hrewrites hgoing h => exact hkey hfind hrewrites
  | deployed hfind hrewrites hdel hplaced hm h => exact hkey hfind hrewrites
  | refused hfind hrewrites hdel hplaced hm h => exact hkey hfind hrewrites

theorem Concluded.shaped (h : Concluded cluster now key w w')
    (hown : ∀ t, w.templates.find? key = some t → t.metadata.key = key) :
    w'.Shaped cluster key := by
  intro t' c' ht' hdel' hplaced' hm'
  have hkey' := h.own hown t' ht'
  cases h with
  | absent hfind hsame => cases hfind.symm.trans (hsame ▸ ht')
  | withdrawn hfind hrewrites hgoing h =>
    cases hrewrites.find.symm.trans ht'
    rw [← hrewrites.keeps.isDeleting_eq, ← hrewrites.keeps.placement, hdel', hplaced'] at hgoing
    simp at hgoing
  | deployed hfind hrewrites hdel hplaced hm h =>
    cases hrewrites.find.symm.trans ht'
    obtain ⟨version, hconcrete⟩ := h.concrete
    have hprescribed :=
      Template.prescribes_of_mutate (t := t') (hrewrites.keeps.payload ▸ hm) version
    rw [hkey'] at hprescribed
    obtain ⟨c'', hm'', hpin⟩ := hprescribed
    rw [hconcrete] at hm'
    cases hm'.symm.trans hm''
    rw [hconcrete, ← hpin, hkey']
  | refused hfind hrewrites hdel hplaced hm h =>
    cases hrewrites.find.symm.trans ht'
    rw [h.concretes, hrewrites.keeps.payload, hm] at hm'
    cases hm'

theorem Withdrawn.settled (h : Withdrawn key w' t t') (hkey' : t'.metadata.key = key)
    (hrewrites : Rewrites key w.templates w'.templates t t')
    (hgoing : t.metadata.isDeleting = true ∨ t.placement.places cluster = false) :
    Settled cluster key w' := by
  refine .withdrawn hrewrites.find hkey' ?_ (not_isTied_of_finalizers h.finalizers) h.erased
  rw [hrewrites.keeps.isDeleting_eq, hrewrites.keeps.placement]
  cases hdel : t.metadata.isDeleting with
  | true => exact .inl rfl
  | false =>
    refine .inr ⟨rfl, hgoing.resolve_left (Bool.eq_false_iff.1 hdel), ?_⟩
    change t'.currentStatus.refresh t'.placement = t'.currentStatus
    rw [h.status hdel, hrewrites.keeps.placement]
    rfl

theorem Deployed.settled {c : Concrete k} (h : Deployed cluster now key w w' t t' c)
    (hkey' : t'.metadata.key = key) (hrewrites : Rewrites key w.templates w'.templates t t')
    (hdel : t.metadata.isDeleting = false) (hplaced : t.placement.places cluster = true)
    (hm : k.mutate t.payload ((w.concretes.find? key).getD (.blank key)) = .ok c)
    (hthere : w.concretes.find? key = some (c.pin key)) : Settled cluster key w' := by
  have hconcrete : w'.concretes.find? key = some (c.pin key) := by
    rw [h.unwritten hthere]
    exact hthere
  have hprescribed : t'.Prescribes (c.pin key) := by
    rw [hthere] at hm
    exact ⟨c, hrewrites.keeps.payload ▸ hm, by rw [hkey']⟩
  have hstatus := h.status
  rw [hthere, SyncOutcome.between, if_pos rfl] at hstatus
  exact .recorded hrewrites.find hkey' (hrewrites.keeps.isDeleting_eq.trans hdel)
    (hrewrites.keeps.placement ▸ hplaced)
    (.unchanged (hkey' ▸ hconcrete) hprescribed (isTied_of_finalizers h.finalizers))
    (record_of_status hstatus hrewrites.keeps.placement)

theorem Refused.settled {f : Failure} (h : Refused cluster now w w' t t' f)
    (hkey' : t'.metadata.key = key) (hrewrites : Rewrites key w.templates w'.templates t t')
    (hdel : t.metadata.isDeleting = false) (hplaced : t.placement.places cluster = true)
    (hm : k.mutate t.payload ((w.concretes.find? key).getD (.blank key)) = .error f) :
    Settled cluster key w' := by
  rw [← h.concretes, ← hrewrites.keeps.payload, ← hkey'] at hm
  exact .recorded hrewrites.find hkey' (hrewrites.keeps.isDeleting_eq.trans hdel)
    (hrewrites.keeps.placement ▸ hplaced) (.refused hm)
    (record_of_status h.status hrewrites.keeps.placement)

theorem Concluded.settled (h : Concluded cluster now key w w')
    (hown : ∀ t, w.templates.find? key = some t → t.metadata.key = key)
    (hshaped : w.Shaped cluster key) : Settled cluster key w' := by
  have hown' := h.own hown
  cases h with
  | absent hfind hsame => exact .absent (hsame ▸ hfind)
  | withdrawn hfind hrewrites hgoing h =>
    exact h.settled (hown' _ hrewrites.find) hrewrites hgoing
  | deployed hfind hrewrites hdel hplaced hm h =>
    exact h.settled (hown' _ hrewrites.find) hrewrites hdel hplaced hm
      (hshaped _ _ hfind hdel hplaced hm)
  | refused hfind hrewrites hdel hplaced hm h =>
    exact h.settled (hown' _ hrewrites.find) hrewrites hdel hplaced hm

/-- Two passes settle whatever the stores held, at whatever times. -/
theorem settled_of_two_passes (hk : k = .configMap ∨ k = .secret)
    (hown : ∀ t, w.templates.find? key = some t → t.metadata.key = key) (now₁ now₂ : Instant) :
    Settled cluster key (World.perform cluster now₂ (reconcile key)
      (w.perform cluster now₁ (reconcile key)).2).2 := by
  have hfirst : Concluded cluster now₁ key w _ := (converges_of_perform hk hown).concluded
  have hown₁ := hfirst.own hown
  have hsecond : Concluded cluster now₂ key _ _ := (converges_of_perform hk hown₁).concluded
  exact hsecond.settled hown₁ (hfirst.shaped hown)

end Settling

/-! Repeated passes -/
namespace Simulation
variable {cluster : String} {w : Simulation k} {key : Key}

def passAt (key : Key) (w : Simulation k) (now : Instant) : Simulation k :=
  (run (reconcile key).run { w with now }).2

theorem quiet_run {α : Type} (p : Task k α) (hw : w.Quiet cluster) :
    (run p w).2.Quiet cluster := by
  unfold run
  induction p generalizing w with
  | done a => exact hw
  | ask q next ih => exact ih _ (answer_of_quiet hw q).2.1

/-- The calls that were added to those of an earlier simulation write nothing. -/
def OnlyReads (w w' : Simulation k) : Prop :=
  ∃ new, w'.calls = new ++ w.calls ∧ ∀ call ∈ new, call.2.verb.writes = false

theorem OnlyReads.refl (w : Simulation k) : w.OnlyReads w :=
  ⟨[], rfl, fun _ hcall => (List.not_mem_nil hcall).elim⟩

theorem OnlyReads.trans {w w' w'' : Simulation k} (h : w.OnlyReads w') (h' : w'.OnlyReads w'') :
    w.OnlyReads w'' := by
  obtain ⟨new, hnew, hreads⟩ := h
  obtain ⟨new', hnew', hreads'⟩ := h'
  refine ⟨new' ++ new, by rw [hnew', hnew, List.append_assoc], ?_⟩
  intro call hcall
  rcases List.mem_append.1 hcall with hcall | hcall
  · exact hreads' call hcall
  · exact hreads call hcall

theorem onlyReads_callStore {n : StoreName} (call : StoreCall (n.Object k))
    (h : call.verb.writes = false) : w.OnlyReads (callStore n call w).2 := by
  refine ⟨[(n, ⟨call.verb, call.key, call.outcome (callStore n call w).1⟩)], ?_, ?_⟩
  · cases n <;> rfl
  · intro c hc
    cases List.mem_singleton.1 hc
    exact h

theorem onlyReads_clusterName : w.OnlyReads (clusterName w).2 := by
  have hname : (clusterName w).2 =
      (w.identity.clusterName (m := StateM (Simulation k))
        (fun key => callStore .registration (.get key)) w).2 := rfl
  rw [hname]
  cases w.identity with
  | fixed name => exact .refl w
  | failing f => exact .refl w
  | registered key => exact onlyReads_callStore (n := .registration) (.get key) rfl

theorem onlyReads_answer {q : Request k} (h : q.writes = false) :
    w.OnlyReads (answerWith (callStore .templates) q w).2 := by
  cases q with
  | template call => exact onlyReads_callStore (n := .templates) call h
  | concrete call => exact onlyReads_callStore (n := .concretes) call h
  | clusterName => exact onlyReads_clusterName
  | now => exact .refl w
  | pause d => exact ⟨[], rfl, fun _ hcall => (List.not_mem_nil hcall).elim⟩
  | report r => exact ⟨[], rfl, fun _ hcall => (List.not_mem_nil hcall).elim⟩

theorem onlyReads_run {α : Type} (p : Task k α) (hw : w.Quiet cluster)
    (h : ∀ e ∈ p.exchanges (World.serve cluster w.now) w.world, e.request.writes = false) :
    w.OnlyReads (run p w).2 := by
  unfold run
  induction p generalizing w with
  | done a => exact .refl w
  | ask q next ih =>
    obtain ⟨hanswer, hquiet, hnow⟩ := answer_of_quiet hw q
    rw [Program.exchanges, ← hanswer] at h
    have hq : q.writes = false := h _ List.mem_cons_self
    refine (onlyReads_answer hq).trans (ih _ hquiet ?_)
    rw [hnow]
    exact fun e he => h e (List.mem_cons_of_mem _ he)

theorem world_passAt (key : Key) (hw : w.Quiet cluster) (now : Instant) :
    (passAt key w now).Quiet cluster ∧
      (passAt key w now).world = (w.world.perform cluster now (reconcile key)).2 := by
  have hnow : ({ w with now } : Simulation k).Quiet cluster := hw.congr rfl rfl rfl rfl
  exact ⟨quiet_run _ hnow, congrArg Prod.snd (run_of_quiet (reconcile key).run hnow)⟩

theorem settled_foldl (hw : w.Quiet cluster) (hsettled : Settled cluster key w.world)
    (times : List Instant) : (times.foldl (passAt key) w).Quiet cluster ∧
      Settled cluster key (times.foldl (passAt key) w).world := by
  induction times generalizing w with
  | nil => exact ⟨hw, hsettled⟩
  | cons now times ih =>
    obtain ⟨hquiet, hworld⟩ := world_passAt key hw now
    rw [(hsettled.pass now).1] at hworld
    exact ih hquiet (hworld ▸ hsettled)

theorem settled_of_passes (hk : k = .configMap ∨ k = .secret) (hw : w.Quiet cluster)
    (hown : ∀ t, w.templates.store.find? key = some t → t.metadata.key = key)
    {times : List Instant} (hmany : 2 ≤ times.length) :
    (times.foldl (passAt key) w).Quiet cluster ∧
      Settled cluster key (times.foldl (passAt key) w).world := by
  match times, hmany with
  | now₁ :: now₂ :: rest, _ =>
    obtain ⟨hquiet₁, hworld₁⟩ := world_passAt key hw now₁
    obtain ⟨hquiet₂, hworld₂⟩ := world_passAt key hquiet₁ now₂
    refine settled_foldl hquiet₂ ?_ rest
    rw [hworld₂, hworld₁]
    exact settled_of_two_passes hk hown now₁ now₂

end Simulation

/-- However often a pass over a template is repeated while no call fails and nobody else writes, the
third pass and all later ones send no write and leave both stores exactly as they are, each at a
time of its own. -/
theorem third_pass_writes_nothing (hk : k = .configMap ∨ k = .secret) {cluster : String}
    {w : Simulation k} (hw : w.Quiet cluster) {key : Key}
    (hown : ∀ t, w.templates.store.find? key = some t → t.metadata.key = key)
    (times : List Instant) (hmany : 2 ≤ times.length) (now : Instant) :
    let before := times.foldl (Simulation.passAt key) w
    let after := before.passAt key now
    after.templates.store = before.templates.store ∧
      after.concretes.store = before.concretes.store ∧
      ∃ new, after.calls = new ++ before.calls ∧ ∀ call ∈ new, call.2.verb.writes = false := by
  intro before after
  obtain ⟨hquiet, hsettled⟩ := Simulation.settled_of_passes hk hw hown hmany
  obtain ⟨hsame, hreads⟩ := hsettled.pass now
  obtain ⟨-, hworld⟩ := Simulation.world_passAt key hquiet now
  rw [hsame] at hworld
  have hnow : ({ before with now } : Simulation k).Quiet cluster := hquiet.congr rfl rfl rfl rfl
  exact ⟨congrArg World.templates hworld, congrArg World.concretes hworld,
    Simulation.onlyReads_run _ hnow hreads⟩

/-- The first pass over the template writes, the third one does not. -/
theorem passes_over_settings_come_to_rest :
    (placedCluster.passAt ⟨"apps", "settings"⟩ (.ofSeconds 1)).calls.any (·.2.verb.writes) = true ∧
    let before := [.ofSeconds 1, .ofSeconds 2].foldl
      (Simulation.passAt ⟨"apps", "settings"⟩) placedCluster
    let after := before.passAt ⟨"apps", "settings"⟩ (.ofSeconds 3)
    after.templates.store = before.templates.store ∧
      after.concretes.store = before.concretes.store ∧
      ∃ new, after.calls = new ++ before.calls ∧ ∀ call ∈ new, call.2.verb.writes = false := by
  have hown : ∀ t, placedCluster.templates.store.find? ⟨"apps", "settings"⟩ = some t →
      t.metadata.key = ⟨"apps", "settings"⟩ := by
    intro t ht
    cases ht
    rfl
  exact ⟨by decide +kernel, third_pass_writes_nothing (.inl rfl) (w := placedCluster)
    ⟨rfl, rfl, rfl, rfl⟩ hown _ (by decide) _⟩

end FleetSync
