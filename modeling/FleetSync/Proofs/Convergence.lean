import FleetSync.Kind.ConfigMap
import FleetSync.Kind.Secret
import FleetSync.Proofs.Entries
import FleetSync.Proofs.Undisturbed

/-!
# An undisturbed pass converges

A pass that nobody disturbs reaches its goal at once, from whatever the stores hold: the concrete
object and the token are there if the template is placed on the cluster and can be rendered, they
are gone if the template is to be deleted or placed elsewhere, and the status says so. Every write
is based on the version that the write before it gave.
-/
namespace FleetSync

variable {k : Kind}

/-- What a synchronization that found `old` did if it was to write `new`. -/
def SyncOutcome.between (old : Option (Concrete k)) (new : Concrete k) : SyncOutcome :=
  match old with
  | none => .created
  | some c => if new = c then .unchanged else .updated

def World.settle (w : World k) (key : Key) (c : Concrete k) : World k :=
  if w.concretes.find? key = some c then w
  else { w with concretes := (w.concretes.assign key c).2 }

@[simp] theorem templates_settle (w : World k) (key : Key) (c : Concrete k) :
    (w.settle key c).templates = w.templates := by
  unfold World.settle
  split <;> rfl

theorem World.settle_of_eq {w : World k} {key : Key} {c : Concrete k}
    (h : w.concretes.find? key = some c) : w.settle key c = w :=
  if_pos h

theorem World.settle_of_ne {w : World k} {key : Key} {c : Concrete k}
    (h : w.concretes.find? key ≠ some c) :
    w.settle key c = { w with concretes := (w.concretes.assign key c).2 } :=
  if_neg h

theorem World.find?_settle (w : World k) (key : Key) (c : Concrete k) :
    ∃ version, (w.settle key c).concretes.find? key =
      some { c with metadata := { c.metadata with resourceVersion := version } } := by
  by_cases h : w.concretes.find? key = some c
  · rw [settle_of_eq h]
    exact ⟨_, h⟩
  · rw [settle_of_ne h]
    exact ⟨_, w.concretes.find?_assign_self key c⟩

theorem World.find?_settle_ne (w : World k) {key key' : Key} (c : Concrete k) (hne : key' ≠ key) :
    (w.settle key c).concretes.find? key' = w.concretes.find? key' := by
  by_cases h : w.concretes.find? key = some c
  · rw [settle_of_eq h]
  · rw [settle_of_ne h]
    exact (w.concretes.find?_assign key key' c).trans (if_neg hne)

/-! Concrete objects -/
section Synchronize
variable {cluster : String} {now : Instant} {w : World k} {key : Key} {payload : k.Payload}
  {c : Concrete k} {f : Failure}

theorem version_of_mutate {old : Concrete k} (h : k.mutate payload old = .ok c) :
    Resource.version? c = Resource.version? old := by
  obtain ⟨r, -, rfl⟩ := Kind.render_of_mutate_eq_ok h
  rfl

theorem perform_create (hfind : w.concretes.find? key = none) :
    w.perform cluster now (askConcretes (.create key.ns (c.pin key))) =
      (.ok (w.concretes.assign key (c.pin key)).1,
        { w with concretes := (w.concretes.assign key (c.pin key)).2 }) := by
  have hanswer : w.concretes.answer (.create key.ns (c.pin key)) =
      (.ok (w.concretes.assign key (c.pin key)).1, (w.concretes.assign key (c.pin key)).2) := by
    simp only [Store.answer]
    split
    · rename_i o h
      cases hfind.symm.trans h
    · rfl
  change ((w.concretes.answer _).1, { w with concretes := (w.concretes.answer _).2 }) = _
  rw [hanswer]

theorem perform_replaceConcrete {stored : Concrete k} (hfind : w.concretes.find? key = some stored)
    (hv : Resource.version? stored = Resource.version? c) :
    w.perform cluster now (askConcretes (.replace key c)) =
      (.ok (w.concretes.assign key c).1,
        { w with concretes := (w.concretes.assign key c).2 }) := by
  have hreplacement : w.concretes.replacement stored c = c := by
    unfold Store.replacement
    split <;> rfl
  have hanswer : w.concretes.answer (.replace key c) =
      (.ok (w.concretes.assign key c).1, (w.concretes.assign key c).2) := by
    simp only [Store.answer, Store.replaceBy, hfind, if_pos hv]
    change (Except.ok (w.concretes.assign key (w.concretes.replacement stored c)).1, _) = _
    rw [hreplacement]
    exact congrArg (fun c' => (_, (w.concretes.assign key c').2)) hreplacement
  change ((w.concretes.answer _).1, { w with concretes := (w.concretes.answer _).2 }) = _
  rw [hanswer]

theorem perform_syncOnce_refused
    (hm : k.mutate payload ((w.concretes.find? key).getD (.blank key)) = .error f) :
    w.perform cluster now (syncOnce key (k.mutate payload)) = (.error f, w) := by
  have hget : w.perform cluster now (askConcretes (.get key)) =
      (.ok (w.concretes.find? key), w) := rfl
  unfold syncOnce
  rw [perform_bind_ok hget]
  cases hfind : w.concretes.find? key with
  | none =>
    rw [hfind] at hm
    exact perform_bind_error (congrArg (·, w) hm)
  | some existing =>
    rw [hfind] at hm
    exact perform_bind_error (congrArg (·, w) hm)

theorem perform_syncOnce
    (hm : k.mutate payload ((w.concretes.find? key).getD (.blank key)) = .ok c) :
    w.perform cluster now (syncOnce key (k.mutate payload)) =
      (.ok (.between (w.concretes.find? key) (c.pin key)), w.settle key (c.pin key)) := by
  have hget : World.serve cluster now (.concrete (.get key)) w =
      ((.ok (w.concretes.find? key) : Except Failure (Option (Concrete k))), w) := rfl
  cases hfind : w.concretes.find? key with
  | none =>
    rw [hfind] at hm hget
    have hne : w.concretes.find? key ≠ some (c.pin key) := by
      rw [hfind]
      nofun
    rw [World.settle_of_ne hne]
    exact run_syncOnce_created hget hm (@perform_create k cluster now w key c hfind)
  | some existing =>
    rw [hfind] at hm hget
    dsimp only [SyncOutcome.between]
    by_cases hsame : c.pin key = existing
    · rw [if_pos hsame, World.settle_of_eq (hsame ▸ hfind)]
      exact (run_syncOnce_unchanged hget hm hsame).1
    · have hne : w.concretes.find? key ≠ some (c.pin key) := by
        rw [hfind]
        intro h
        exact hsame (Option.some.inj h).symm
      have hversion : Resource.version? existing = Resource.version? (c.pin key) :=
        (version_of_mutate hm).symm
      rw [if_neg hsame, World.settle_of_ne hne]
      exact run_syncOnce_updated hget hm hsame
        (@perform_replaceConcrete k cluster now w key (c.pin key) existing hfind hversion)

theorem perform_synchronize_refused
    (hm : k.mutate payload ((w.concretes.find? key).getD (.blank key)) = .error f)
    (hf : f.isConflict = false) :
    w.perform cluster now (synchronize key (k.mutate payload)) = (.error f, w) := by
  unfold synchronize
  rw [perform_retryConflicts, perform_syncOnce_refused hm]
  rw [perform_syncOnce_refused hm]
  rintro e h
  cases h
  exact hf

theorem perform_synchronize
    (hm : k.mutate payload ((w.concretes.find? key).getD (.blank key)) = .ok c) :
    w.perform cluster now (synchronize key (k.mutate payload)) =
      (.ok (.between (w.concretes.find? key) (c.pin key)), w.settle key (c.pin key)) := by
  unfold synchronize
  rw [perform_retryConflicts, perform_syncOnce hm]
  rw [perform_syncOnce hm]
  rintro e h
  cases h

end Synchronize

/-! Templates -/

/-- The template with other finalizers, another status or another version at most. -/
structure Template.Keeps (t t' : Template k) : Prop where
  metadata : t'.metadata = { t.metadata with
    finalizers := t'.metadata.finalizers, resourceVersion := t'.metadata.resourceVersion }
  payload : t'.payload = t.payload
  placement : t'.placement = t.placement

theorem Template.Keeps.trans {t t' t'' : Template k} (h : t.Keeps t') (h' : t'.Keeps t'') :
    t.Keeps t'' where
  metadata := by
    rw [h'.metadata, h.metadata]
  payload := h'.payload.trans h.payload
  placement := h'.placement.trans h.placement

/-- The template at one address was rewritten, and no other one. -/
structure Rewrites (key : Key) (s s' : Store (Template k)) (t t' : Template k) : Prop where
  find : s'.find? key = some t'
  apart : ∀ key', key' ≠ key → s'.find? key' = s.find? key'
  keeps : t.Keeps t'

theorem Rewrites.refl {key : Key} {s : Store (Template k)} {t : Template k}
    (h : s.find? key = some t) : Rewrites key s s t t :=
  ⟨h, fun _ _ => rfl, ⟨rfl, rfl, rfl⟩⟩

theorem Rewrites.trans {key : Key} {s s' s'' : Store (Template k)} {t t' t'' : Template k}
    (h : Rewrites key s s' t t') (h' : Rewrites key s' s'' t' t'') : Rewrites key s s'' t t'' where
  find := h'.find
  apart key' hkey := (h'.apart key' hkey).trans (h.apart key' hkey)
  keeps := h.keeps.trans h'.keeps

/-- What is stored in place of a template keeps it if it is so before it gets its version. -/
theorem rewrites_restock {w : World k} {key : Key} {t o : Template k} (ho : t.Keeps o) :
    Rewrites key w.templates (w.restock key o).templates t (w.stocked key o) where
  find := w.templates.find?_assign_self key o
  apart key' hkey := (w.templates.find?_assign key key' o).trans (if_neg hkey)
  keeps := ho.trans ⟨rfl, rfl, rfl⟩

section Templates
variable {cluster : String} {now : Instant} {w w' : World k} {key : Key} {t : Template k}
  {st : Option FleetStatus}

theorem replacement_eq (s : Store (Template k)) (stored o : Template k) :
    s.replacement stored o =
      { o with status := if s.statusApart then stored.status else o.status } := by
  unfold Store.replacement
  split <;> rfl

theorem finalizers_of_unversioned {t t' : Template k}
    (h : Resource.unversioned t = Resource.unversioned t') :
    t.metadata.finalizers = t'.metadata.finalizers := by
  have hmetadata := congrArg Template.metadata h
  exact (Metadata.mk.inj hmetadata).2.2.2.2.2.2.2.2.1

theorem status_of_unversioned {t t' : Template k}
    (h : Resource.unversioned t = Resource.unversioned t') : t.status = t'.status := by
  have hstatus := congrArg Template.status h
  exact hstatus

theorem restatement_withStatus (s : Store (Template k)) (t : Template k) (st : Option FleetStatus) :
    s.restatement t { t with status := st } = { t with status := st } := by
  unfold Store.restatement
  split <;> rfl

/-- The template after the release of a copy of it whose status is `st`. -/
def Template.released (apart : Bool) (t : Template k) (st : Option FleetStatus) : Template k :=
  if t.isTied then { t.untie with status := if apart then t.status else st } else t

theorem Template.finalizers_released (apart : Bool) (t : Template k) (st : Option FleetStatus) :
    (t.released apart st).metadata.finalizers.getD [] =
      (t.metadata.finalizers.getD []).filter (· ≠ k.finalizer) := by
  unfold released
  by_cases htied : t.isTied = true
  · rw [if_pos htied]
    rfl
  · rw [if_neg htied]
    symm
    apply List.filter_eq_self.2
    intro token htoken
    rw [decide_eq_true_iff]
    rintro rfl
    exact htied (List.contains_iff_mem.2 htoken)

theorem Template.status_released (apart : Bool) (t : Template k) (st : Option FleetStatus) :
    (t.released apart st).status = t.status ∨ (t.released apart st).status = st := by
  unfold released
  split
  · cases apart with
    | true => exact .inl rfl
    | false => exact .inr rfl
  · exact .inl rfl

theorem Template.unversioned_released (apart : Bool) (t : Template k) (st : Option FleetStatus) :
    Resource.unversioned (t.released apart st) = (Resource.unversioned t).released apart st := by
  have htied : (Resource.unversioned t).isTied = t.isTied := rfl
  unfold released
  rw [htied]
  split <;> rfl

/-- A copy that differs from the stored template in its status at most is released together with
the concrete object. -/
theorem perform_release (hfind : w.templates.find? t.metadata.key = some t) :
    ∃ a w' t', w.perform cluster now (({ t with status := st } : Template k).release k.finalizer) =
        (.ok a, w') ∧ w'.concretes = w.concretes.drop t.metadata.key ∧
      Rewrites t.metadata.key w.templates w'.templates t t' ∧
      Resource.unversioned t' = Resource.unversioned (t.released w.templates.statusApart st) := by
  unfold Template.release
  rw [perform_bind_ok perform_deleteConcrete]
  unfold Template.removeFinalizer
  by_cases htied : t.metadata.hasFinalizer k.finalizer = true
  · have hwrite : World.perform cluster now _
        { w with concretes := w.concretes.drop t.metadata.key } = _ := perform_replace
      (t := { t with metadata := t.metadata.dropFinalizer k.finalizer, status := st }) hfind rfl
    rw [replacement_eq] at hwrite
    simp only [if_pos htied]
    rw [perform_bind_ok (perform_map_ok hwrite)]
    refine ⟨_, _, _, rfl, rfl, rewrites_restock ⟨rfl, rfl, rfl⟩, ?_⟩
    unfold Template.released
    rw [if_pos (show t.isTied = true from htied)]
    rfl
  · simp only [if_neg htied]
    rw [perform_bind_ok (perform_pure _)]
    refine ⟨_, _, t, rfl, rfl, .refl hfind, ?_⟩
    unfold Template.released
    rw [if_neg (show ¬t.isTied = true from htied)]

/-- The finalizers with the token of the kind, which is added at their end. -/
def withToken (k : Kind) (finalizers : List String) : List String :=
  if finalizers.contains k.finalizer then finalizers else finalizers ++ [k.finalizer]

/-- The stored template and the copy to go on with are such that the outcome can be recorded. -/
structure Prepared (key : Key) (s s' : Store (Template k)) (t t' : Template k)
    (st : Option FleetStatus) : Prop where
  rewrites : Rewrites key s s' t t'
  copy : (st.getD .initial).refresh t.placement = t.currentStatus.refresh t.placement
  stored : t'.status = t.status ∨ t'.status = some (t.currentStatus.refresh t.placement)

theorem prepared_refl (hfind : w.templates.find? key = some t) :
    Prepared key w.templates w.templates t t t.refreshed.status :=
  ⟨.refl hfind, rfl, .inl rfl⟩

theorem run_materialize_of_error {f : Failure}
    (hsync : w.perform cluster now (synchronize t.metadata.key (k.mutate t.payload)) =
      (.error f, w')) : t.materialize.run (World.serve cluster now) w = ((t, .error f), w') := by
  unfold World.perform at hsync
  unfold Template.materialize
  rw [Program.run_bind, hsync]
  rfl

theorem run_materialize_of_ok {w'' : World k} {done : SyncOutcome} {r : Option (Template k)}
    (hsync : w.perform cluster now (synchronize t.metadata.key (k.mutate t.payload)) =
      (.ok done, w'))
    (hadd : w'.perform cluster now (t.addFinalizer k.finalizer) = (.ok r, w'')) :
    t.materialize.run (World.serve cluster now) w = ((r.getD t, .ok done), w'') := by
  unfold World.perform at hsync hadd
  unfold Template.materialize
  rw [Program.run_bind, hsync]
  dsimp only
  rw [Program.run_bind, hadd]
  rfl

theorem perform_addFinalizer (hfind : w.templates.find? t.metadata.key = some t) :
    ∃ r t' w', w.perform cluster now (t.refreshed.addFinalizer k.finalizer) = (.ok r, w') ∧
      r.getD t.refreshed = { t' with status := (r.getD t.refreshed).status } ∧
      w'.concretes = w.concretes ∧
      Prepared t.metadata.key w.templates w'.templates t t' (r.getD t.refreshed).status ∧
      t'.metadata.finalizers.getD [] = withToken k (t.metadata.finalizers.getD []) := by
  unfold Template.addFinalizer withToken
  by_cases htied : t.refreshed.metadata.hasFinalizer k.finalizer = true
  · simp only [if_pos htied]
    exact ⟨none, t, w, rfl, rfl, rfl, prepared_refl hfind, (if_pos htied).symm⟩
  · have hwrite : w.perform cluster now _ = _ := perform_replace
      (t := { t.refreshed with metadata := t.metadata.addFinalizer k.finalizer }) hfind rfl
    rw [replacement_eq] at hwrite
    simp only [if_neg htied]
    refine ⟨some _, _, _, perform_map_ok hwrite, rfl, rfl,
      ⟨rewrites_restock ⟨rfl, rfl, rfl⟩, ?_, ?_⟩, (if_neg htied).symm⟩
    · change FleetStatus.refresh _ ((if _ then _ else _ : Option FleetStatus).getD .initial) = _
      split <;> rfl
    · change (if _ then _ else _) = _ ∨ (if _ then _ else _) = _
      split
      · exact .inl rfl
      · exact .inr rfl

theorem run_materialize {c : Concrete k} (hkey : t.metadata.key = key)
    (hfind : w.templates.find? key = some t)
    (hm : k.mutate t.payload ((w.concretes.find? key).getD (.blank key)) = .ok c) :
    ∃ t' st w', t.refreshed.materialize.run (World.serve cluster now) w =
        (({ t' with status := st }, .ok (.between (w.concretes.find? key) (c.pin key))), w') ∧
      w'.concretes = (w.settle key (c.pin key)).concretes ∧
      Prepared key w.templates w'.templates t t' st ∧
      t'.metadata.finalizers.getD [] = withToken k (t.metadata.finalizers.getD []) := by
  subst hkey
  have hsync : w.perform cluster now _ = _ := perform_synchronize hm
  have hfind' : (w.settle t.metadata.key (c.pin t.metadata.key)).templates.find? t.metadata.key =
      some t := by
    rw [templates_settle]
    exact hfind
  obtain ⟨r, t', w', hadd, hcurrent, hconcretes, hprepared, hfinalizers⟩ :=
    @perform_addFinalizer k cluster now _ t hfind'
  rw [templates_settle] at hprepared
  have hmaterialize : t.refreshed.materialize.run (World.serve cluster now) w = _ :=
    run_materialize_of_ok hsync hadd
  rw [hcurrent] at hmaterialize
  exact ⟨t', _, w', hmaterialize, hconcretes, hprepared, hfinalizers⟩

theorem Prepared.record {t' : Template k} {c : Condition} (hkey : t.metadata.key = key)
    (h : Prepared key w.templates w'.templates t t' st) :
    ∃ a w'' t'', w'.perform cluster now (({ t' with status := st } : Template k).recordOutcome
        t.currentStatus cluster c) = (.ok a, w'') ∧ w''.concretes = w'.concretes ∧
      Rewrites key w.templates w''.templates t t'' ∧
      t''.metadata.finalizers = t'.metadata.finalizers ∧
      t''.status = some (t.currentStatus.record t.placement cluster c) := by
  have hkey' : t'.metadata.key = key := by
    rw [h.rewrites.keeps.metadata]
    exact hkey
  have hupdated : ({ t' with status := st } : Template k).withOutcome cluster c =
      { t' with status := some (t.currentStatus.record t.placement cluster c) } := by
    have hrecord := FleetStatus.record_refresh (st.getD .initial) t.placement cluster c
    rw [h.copy, FleetStatus.record_refresh] at hrecord
    rw [hrecord, ← h.rewrites.keeps.placement]
    rfl
  unfold Template.recordOutcome
  rw [hupdated]
  dsimp only
  by_cases hsame : t.currentStatus.record t.placement cluster c = t.currentStatus
  · rw [if_pos (congrArg some hsame)]
    refine ⟨_, _, t', rfl, rfl, h.rewrites, rfl, ?_⟩
    rw [hsame]
    rcases h.stored with hstatus | hstatus
    · cases ht : t.status with
      | some s =>
        rw [hstatus, ht]
        unfold Template.currentStatus
        rw [ht]
        rfl
      | none =>
        have hinitial : t.currentStatus = .initial := by
          unfold Template.currentStatus
          rw [ht]
          rfl
        rw [hinitial] at hsame
        exact (FleetStatus.record_ne_initial _ _ _ _ hsame).elim
    · rw [hstatus, FleetStatus.refresh_eq_of_record_eq hsame]
  · rw [if_neg fun h => hsame (Option.some.inj h), hkey']
    have hwrite : w'.perform cluster now _ = _ := perform_replaceStatus
      (t := { t' with status := some (t.currentStatus.record t.placement cluster c) })
      h.rewrites.find rfl
    rw [restatement_withStatus] at hwrite
    rw [perform_bind_ok hwrite, perform_bind_ok (perform_lift _)]
    exact ⟨_, _, _, rfl, rfl, h.rewrites.trans (rewrites_restock ⟨rfl, rfl, rfl⟩), rfl, rfl⟩

/-- Once the concrete object and the token are as they should be, the rest of the pass records the
outcome and ends with it. -/
theorem perform_deploy {t' : Template k} {outcome : Except Failure SyncOutcome}
    (hkey : t.metadata.key = key)
    (hrun : t.refreshed.materialize.run (World.serve cluster now) w =
      (({ t' with status := st }, outcome), w'))
    (h : Prepared key w.templates w'.templates t t' st) :
    ∃ w'' t'', w.perform cluster now (t.refreshed.deploy t.currentStatus cluster) =
        (outcome.map fun _ => (), w'') ∧ w''.concretes = w'.concretes ∧
      Rewrites key w.templates w''.templates t t'' ∧
      t''.metadata.finalizers = t'.metadata.finalizers ∧
      t''.status = some (t.currentStatus.record t.placement cluster
        (.ofOutcome k.concrete.kind outcome now)) := by
  obtain ⟨a, w'', t'', hrecord, hconcretes, hrewrites, hfinalizers, hstatus⟩ :=
    @Prepared.record k cluster now w w' key t st t' (.ofOutcome k.concrete.kind outcome now) hkey h
  refine ⟨w'', t'', ?_, hconcretes, hrewrites, hfinalizers, hstatus⟩
  have hmaterialize : w.perform cluster now (liftM t.refreshed.materialize) =
      (.ok ({ t' with status := st }, outcome), w') := by
    rw [perform_lift, hrun]
  unfold Template.deploy
  have hnow : w'.perform cluster now (liftM (askNow : Task k Instant)) = (.ok now, w') :=
    perform_lift _
  rw [perform_bind_ok hmaterialize]
  dsimp only
  rw [perform_bind_ok hnow, perform_bind_ok hrecord]
  cases outcome with
  | ok done => exact perform_bind_ok (perform_except _)
  | error f => exact perform_bind_error (perform_except _)

def Template.pruned (apart : Bool) (t : Template k) : Template k :=
  if t.refreshed.currentStatus.state = t.currentStatus.state then
    t.released apart t.refreshed.status
  else t.refreshed.released apart t.refreshed.status

theorem Template.finalizers_pruned (apart : Bool) (t : Template k) :
    (t.pruned apart).metadata.finalizers.getD [] =
      (t.metadata.finalizers.getD []).filter (· ≠ k.finalizer) := by
  unfold pruned
  split <;> exact finalizers_released ..

theorem Template.currentStatus_pruned (apart : Bool) (t : Template k) :
    (t.pruned apart).currentStatus = t.currentStatus.refresh t.placement := by
  have hrefreshed {t' : Template k} (h : t'.status = t.refreshed.status) :
      t'.currentStatus = t.currentStatus.refresh t.placement := by
    unfold currentStatus
    rw [h]
    rfl
  unfold pruned
  split
  · rename_i hstate
    have hrefresh : t.currentStatus.refresh t.placement = t.currentStatus := by
      change ({ t.currentStatus with state := _ } : FleetStatus) = _
      exact congrArg (fun x => { t.currentStatus with state := x }) hstate
    rcases status_released apart t t.refreshed.status with hstatus | hstatus
    · rw [hrefresh]
      unfold currentStatus
      rw [hstatus]
    · exact hrefreshed hstatus
  · exact hrefreshed ((status_released apart t.refreshed t.refreshed.status).elim id id)

/-- A template that is not placed on the cluster gets its state and loses its concrete object and
the token. -/
theorem perform_prune (hfind : w.templates.find? t.metadata.key = some t) :
    ∃ w' t', w.perform cluster now (t.refreshed.prune t.currentStatus.state) = (.ok (), w') ∧
      w'.concretes = w.concretes.drop t.metadata.key ∧
      Rewrites t.metadata.key w.templates w'.templates t t' ∧
      Resource.unversioned t' = Resource.unversioned (t.pruned w.templates.statusApart) := by
  unfold Template.prune Template.pruned
  by_cases hstate : t.refreshed.currentStatus.state = t.currentStatus.state
  · obtain ⟨a, w', t', hrelease, hconcretes, hrewrites, hreleased⟩ :=
      @perform_release k cluster now w t t.refreshed.status hfind
    simp only [if_pos hstate]
    rw [perform_bind_ok (perform_pure _)]
    exact ⟨w', t', perform_bind_ok hrelease, hconcretes, hrewrites, hreleased⟩
  · simp only [if_neg hstate]
    have hwrite : w.perform cluster now _ = _ := perform_replaceStatus (t := t.refreshed) hfind rfl
    have hrestated : w.templates.restatement t t.refreshed = t.refreshed :=
      restatement_withStatus ..
    rw [hrestated] at hwrite
    have hstored : Rewrites t.metadata.key w.templates
        (w.restock t.metadata.key t.refreshed).templates t
        (w.stocked t.metadata.key t.refreshed) := rewrites_restock ⟨rfl, rfl, rfl⟩
    obtain ⟨a, w', t', hrelease, hconcretes, hrewrites, hreleased⟩ :=
      @perform_release k cluster now (w.restock t.metadata.key t.refreshed)
        (w.stocked t.metadata.key t.refreshed) t.refreshed.status hstored.find
    rw [Template.key_refreshed, perform_bind_ok hwrite]
    refine ⟨w', t', perform_bind_ok hrelease, hconcretes, hstored.trans hrewrites, ?_⟩
    rw [hreleased, Template.unversioned_released, Template.unversioned_released]
    rfl

end Templates

/-! Passes -/

/-- The template is to be deleted or is placed elsewhere: its concrete object and the token are
gone, and its state is what its entries imply. -/
structure Withdrawn (key : Key) (after : World k) (t t' : Template k) : Prop where
  erased : after.concretes.find? key = none
  finalizers : t'.metadata.finalizers.getD [] =
    (t.metadata.finalizers.getD []).filter (· ≠ k.finalizer)
  state : t.metadata.isDeleting = false →
    t'.currentStatus.state = FleetStatus.effectiveState t'.placement t'.currentStatus
  status : t.metadata.isDeleting = false →
    t'.currentStatus = t.currentStatus.refresh t.placement
  status_of_deleting : t.metadata.isDeleting = true → t'.status = t.status

/-- The template is placed on the cluster and was rendered: its concrete object is the rendering
`c` apart from its version, it carries the token, and the outcome is in its status. -/
structure Deployed (cluster : String) (now : Instant) (key : Key) (before after : World k)
    (t t' : Template k) (c : Concrete k) : Prop where
  concrete : ∃ version, after.concretes.find? key = some { c.pin key with
    metadata := { (c.pin key).metadata with resourceVersion := version } }
  unwritten : before.concretes.find? key = some (c.pin key) → after.concretes = before.concretes
  finalizers : t'.metadata.finalizers.getD [] = withToken k (t.metadata.finalizers.getD [])
  status : t'.status = some (t.currentStatus.record t.placement cluster
    (.ofOutcome k.concrete.kind (.ok (.between (before.concretes.find? key) (c.pin key))) now))

/-- The template is placed on the cluster and cannot be rendered: the failure is in its status, and
nothing else was written. -/
structure Refused (cluster : String) (now : Instant) (before after : World k) (t t' : Template k)
    (f : Failure) : Prop where
  mutation : ∃ text, f = .mutation text
  concretes : after.concretes = before.concretes
  finalizers : t'.metadata.finalizers = t.metadata.finalizers
  status : t'.status =
    some (t.currentStatus.record t.placement cluster (.ofOutcome k.concrete.kind (.error f) now))

/-- How an undisturbed pass of a cluster over the template at an address ends, and what it makes of
the stores. -/
def Converges (cluster : String) (now : Instant) (key : Key) (before : World k)
    (result : Except Failure Unit) (after : World k) : Prop :=
  match before.templates.find? key with
  | none => result = .ok () ∧ after = before
  | some t =>
    (∀ key', key' ≠ key → after.concretes.find? key' = before.concretes.find? key') ∧
    ∃ t', Rewrites key before.templates after.templates t t' ∧
      if t.metadata.isDeleting = true ∨ t.placement.places cluster = false then
        result = .ok () ∧ Withdrawn key after t t'
      else
        match k.mutate t.payload ((before.concretes.find? key).getD (.blank key)) with
        | .ok c => result = .ok () ∧ Deployed cluster now key before after t t' c
        | .error f => result = .error f ∧ Refused cluster now before after t t' f

section Passes
variable {cluster : String} {now : Instant} {w : World k} {key : Key} {t : Template k}

theorem mutation_of_checkKeys_eq_error {keys : List String} {f : Failure}
    (h : checkKeys keys = .error f) : ∃ text, f = .mutation text := by
  unfold checkKeys at h
  split at h
  · cases h
    exact ⟨_, rfl⟩
  · cases h

theorem ConfigMapTemplate.mutation_of_render_eq_error {payload : ConfigMapTemplate} {f : Failure}
    (h : payload.render = .error f) : ∃ text, f = .mutation text := by
  unfold render at h
  cases hcheck : checkKeys (keysOf payload.data ++ keysOf payload.binaryData) with
  | error e =>
    rw [hcheck] at h
    cases h
    exact mutation_of_checkKeys_eq_error hcheck
  | ok u =>
    rw [hcheck] at h
    cases hshared : payload.sharedKey? with
    | none =>
      rw [hshared] at h
      cases h
    | some key =>
      rw [hshared] at h
      cases h
      exact ⟨_, rfl⟩

theorem SecretTemplate.mutation_of_render_eq_error {payload : SecretTemplate} {f : Failure}
    (h : payload.render = .error f) : ∃ text, f = .mutation text := by
  unfold render at h
  cases hcheck : checkKeys payload.allData.keys with
  | error e =>
    rw [hcheck] at h
    cases h
    exact mutation_of_checkKeys_eq_error hcheck
  | ok u =>
    rw [hcheck] at h
    cases h

theorem mutation_of_render_eq_error (hk : k = .configMap ∨ k = .secret) {payload : k.Payload}
    {f : Failure} (h : k.render payload = .error f) : ∃ text, f = .mutation text := by
  rcases hk with rfl | rfl
  · exact ConfigMapTemplate.mutation_of_render_eq_error h
  · exact SecretTemplate.mutation_of_render_eq_error h

theorem mutation_of_mutate_eq_error (hk : k = .configMap ∨ k = .secret) {payload : k.Payload}
    {c : Concrete k} {f : Failure} (h : k.mutate payload c = .error f) :
    ∃ text, f = .mutation text :=
  mutation_of_render_eq_error hk (Kind.render_of_mutate_eq_error h)

theorem perform_process (hdel : t.metadata.isDeleting = false) :
    w.perform cluster now t.process = w.perform cluster now
      (if t.placement.places cluster then t.refreshed.deploy t.currentStatus cluster
        else t.refreshed.prune t.currentStatus.state) := by
  have hname : w.perform cluster now askClusterName = (.ok cluster, w) := rfl
  unfold Template.process
  rw [if_neg (Bool.eq_false_iff.1 hdel), perform_bind_ok hname]

theorem withdrawn_of_deleting (hkey : t.metadata.key = key)
    (hfind : w.templates.find? key = some t) (hdel : t.metadata.isDeleting = true) :
    ∃ w' t', w.perform cluster now t.process = (.ok (), w') ∧
      w'.concretes = w.concretes.drop key ∧ Rewrites key w.templates w'.templates t t' ∧
      Resource.unversioned t' =
        Resource.unversioned (t.released w.templates.statusApart t.status) ∧
      Withdrawn key w' t t' := by
  subst hkey
  obtain ⟨a, w', t', hrelease, hconcretes, hrewrites, hreleased⟩ :=
    @perform_release k cluster now w t t.status hfind
  have hstatus := status_of_unversioned hreleased
  unfold Template.process
  rw [if_pos hdel]
  refine ⟨w', t', perform_bind_ok hrelease, hconcretes, hrewrites, hreleased, ?_, ?_, ?_, ?_, ?_⟩
  · rw [hconcretes, Store.find?_drop, if_pos rfl]
  · rw [finalizers_of_unversioned hreleased]
    exact Template.finalizers_released ..
  · intro h
    rw [hdel] at h
    cases h
  · intro h
    rw [hdel] at h
    cases h
  · exact fun _ => hstatus.trans ((Template.status_released ..).elim id id)

theorem withdrawn_of_elsewhere (hkey : t.metadata.key = key)
    (hfind : w.templates.find? key = some t) (hdel : t.metadata.isDeleting = false)
    (hplaced : t.placement.places cluster = false) :
    ∃ w' t', w.perform cluster now t.process = (.ok (), w') ∧
      w'.concretes = w.concretes.drop key ∧ Rewrites key w.templates w'.templates t t' ∧
      Resource.unversioned t' = Resource.unversioned (t.pruned w.templates.statusApart) ∧
      Withdrawn key w' t t' := by
  subst hkey
  obtain ⟨w', t', hprune, hconcretes, hrewrites, hpruned⟩ :=
    @perform_prune k cluster now w t hfind
  have hstatus : t'.currentStatus = t.currentStatus.refresh t.placement := by
    rw [← Template.currentStatus_pruned w.templates.statusApart]
    unfold Template.currentStatus
    rw [status_of_unversioned hpruned]
  rw [perform_process hdel, if_neg (Bool.eq_false_iff.1 hplaced)]
  refine ⟨w', t', hprune, hconcretes, hrewrites, hpruned, ?_, ?_, ?_, fun _ => hstatus, ?_⟩
  · rw [hconcretes, Store.find?_drop, if_pos rfl]
  · rw [finalizers_of_unversioned hpruned]
    exact Template.finalizers_pruned ..
  · intro _
    rw [hstatus, hrewrites.keeps.placement]
    rfl
  · intro h
    rw [hdel] at h
    cases h

theorem deployed_of_mutate {c : Concrete k} (hkey : t.metadata.key = key)
    (hfind : w.templates.find? key = some t) (hdel : t.metadata.isDeleting = false)
    (hplaced : t.placement.places cluster = true)
    (hm : k.mutate t.payload ((w.concretes.find? key).getD (.blank key)) = .ok c) :
    ∃ w' t', w.perform cluster now t.process = (.ok (), w') ∧
      w'.concretes = (w.settle key (c.pin key)).concretes ∧
      Rewrites key w.templates w'.templates t t' ∧ Deployed cluster now key w w' t t' c := by
  obtain ⟨t₁, st, w₁, hmaterialize, hconcretes₁, hprepared, hfinalizers₁⟩ :=
    @run_materialize k cluster now w key t c hkey hfind hm
  obtain ⟨w', t', hdeploy, hconcretes, hrewrites, hfinalizers, hstatus⟩ :=
    perform_deploy hkey hmaterialize hprepared
  rw [perform_process hdel, if_pos hplaced]
  rw [hconcretes₁] at hconcretes
  refine ⟨w', t', hdeploy, hconcretes, hrewrites, ?_, ?_, ?_, hstatus⟩
  · rw [hconcretes]
    exact w.find?_settle key (c.pin key)
  · intro h
    rw [hconcretes, World.settle_of_eq h]
  · rw [hfinalizers]
    exact hfinalizers₁

theorem refused_of_mutate {f : Failure} (hk : k = .configMap ∨ k = .secret)
    (hkey : t.metadata.key = key) (hfind : w.templates.find? key = some t)
    (hdel : t.metadata.isDeleting = false) (hplaced : t.placement.places cluster = true)
    (hm : k.mutate t.payload ((w.concretes.find? key).getD (.blank key)) = .error f) :
    ∃ w' t', w.perform cluster now t.process = (.error f, w') ∧
      Rewrites key w.templates w'.templates t t' ∧ Refused cluster now w w' t t' f := by
  obtain ⟨text, rfl⟩ := mutation_of_mutate_eq_error hk hm
  have hsync : w.perform cluster now (synchronize key (k.mutate t.payload)) =
      (.error (.mutation text), w) := perform_synchronize_refused hm rfl
  rw [← hkey] at hsync
  have hmaterialize : t.refreshed.materialize.run (World.serve cluster now) w =
      (({ t with status := t.refreshed.status }, .error (.mutation text)), w) :=
    run_materialize_of_error hsync
  obtain ⟨w', t', hdeploy, hconcretes, hrewrites, hfinalizers, hstatus⟩ :=
    perform_deploy hkey hmaterialize (prepared_refl hfind)
  rw [perform_process hdel, if_pos hplaced]
  exact ⟨w', t', hdeploy, hrewrites, ⟨text, rfl⟩, hconcretes, hfinalizers, hstatus⟩

theorem perform_reconcile {r : Except Failure Unit} {w' : World k}
    (hfind : w.templates.find? key = some t) (hprocess : w.perform cluster now t.process = (r, w'))
    (hr : ∀ f, r = .error f → isTemplateGone k f = false) :
    w.perform cluster now (reconcile key) = (r, w') := by
  unfold reconcile
  rw [perform_bind_ok perform_getTemplate, hfind]
  cases r with
  | ok u => exact perform_tryCatch_ok hprocess
  | error f =>
    dsimp only
    rw [perform_tryCatch_error hprocess, hr f rfl]
    rfl

theorem perform_reconcile_of_none (hfind : w.templates.find? key = none) :
    w.perform cluster now (reconcile key) = (.ok (), w) := by
  unfold reconcile
  rw [perform_bind_ok perform_getTemplate, hfind]
  rfl

theorem converges_of_perform (hk : k = .configMap ∨ k = .secret)
    (hown : ∀ t, w.templates.find? key = some t → t.metadata.key = key) :
    Converges cluster now key w (w.perform cluster now (reconcile key)).1
      (w.perform cluster now (reconcile key)).2 := by
  unfold Converges
  cases hfind : w.templates.find? key with
  | none =>
    rw [perform_reconcile_of_none hfind]
    exact ⟨rfl, rfl⟩
  | some t =>
    have hkey := hown t hfind
    dsimp only
    cases hdel : t.metadata.isDeleting with
    | true =>
      obtain ⟨w', t', hprocess, hconcretes, hrewrites, -, hwithdrawn⟩ :=
        @withdrawn_of_deleting k cluster now w key t hkey hfind hdel
      rw [perform_reconcile hfind hprocess nofun]
      refine ⟨fun key' hne => hconcretes ▸ w.concretes.find?_drop_ne hne, t', hrewrites, ?_⟩
      rw [if_pos (.inl rfl)]
      exact ⟨rfl, hwithdrawn⟩
    | false =>
      cases hplaced : t.placement.places cluster with
      | false =>
        obtain ⟨w', t', hprocess, hconcretes, hrewrites, -, hwithdrawn⟩ :=
          @withdrawn_of_elsewhere k cluster now w key t hkey hfind hdel hplaced
        rw [perform_reconcile hfind hprocess nofun]
        refine ⟨fun key' hne => hconcretes ▸ w.concretes.find?_drop_ne hne, t', hrewrites, ?_⟩
        rw [if_pos (.inr rfl)]
        exact ⟨rfl, hwithdrawn⟩
      | true =>
        have hnot : ¬(false = true ∨ true = false) := by simp
        simp only [if_neg hnot]
        cases hm : k.mutate t.payload ((w.concretes.find? key).getD (.blank key)) with
        | ok c =>
          obtain ⟨w', t', hprocess, hconcretes, hrewrites, hdeployed⟩ :=
            @deployed_of_mutate k cluster now w key t c hkey hfind hdel hplaced hm
          rw [perform_reconcile hfind hprocess nofun]
          refine ⟨?_, t', hrewrites, rfl, hdeployed⟩
          intro key' hne
          rw [hconcretes, w.find?_settle_ne (c.pin key) hne]
        | error f =>
          obtain ⟨w', t', hprocess, hrewrites, hrefused⟩ :=
            @refused_of_mutate k cluster now w key t f hk hkey hfind hdel hplaced hm
          obtain ⟨text, rfl⟩ := hrefused.mutation
          rw [perform_reconcile hfind hprocess (fun _ h => by cases h; rfl)]
          exact ⟨fun key' _ => by rw [hrefused.concretes], t', hrewrites, rfl, hrefused⟩

end Passes

/-- A pass during which no call fails and nobody else writes converges, whatever the stores hold
and whichever copy of the template it was started for. -/
theorem undisturbed_pass_converges (hk : k = .configMap ∨ k = .secret) {cluster : String}
    {w : Simulation k} (hw : w.Quiet cluster) (stale : Template k)
    (hown : ∀ t, w.templates.store.find? stale.metadata.key = some t →
      t.metadata.key = stale.metadata.key) :
    Converges cluster w.now stale.metadata.key w.world
      (Simulation.run (reconcile stale.metadata.key).run w).1
      (Simulation.run (reconcile stale.metadata.key).run w).2.world := by
  have hrun := Simulation.run_of_quiet (reconcile stale.metadata.key).run hw
  rw [Prod.ext_iff] at hrun
  obtain ⟨hresult, hworld⟩ := hrun
  dsimp only at hresult hworld
  rw [hresult, hworld]
  exact converges_of_perform hk hown

def placedSettings : Template .configMap :=
  ⟨{ name := some "settings", ns := some "apps" }, ⟨default, none, none, none⟩, ⟨["east"]⟩, none⟩

def placedCluster : Simulation .configMap :=
  (Simulation.start "east" .disabled .default .zero false).mapStore .templates
    fun s => (s.put placedSettings).2

/-- The first pass over the template creates its config map. -/
theorem first_pass_converges :
    (Simulation.run (reconcile ⟨"apps", "settings"⟩).run placedCluster).1 = .ok () ∧
      Converges "east" placedCluster.now ⟨"apps", "settings"⟩ placedCluster.world
        (Simulation.run (reconcile ⟨"apps", "settings"⟩).run placedCluster).1
        (Simulation.run (reconcile ⟨"apps", "settings"⟩).run placedCluster).2.world := by
  have hown : ∀ t, placedCluster.templates.store.find? placedSettings.metadata.key = some t →
      t.metadata.key = placedSettings.metadata.key := by
    intro t ht
    cases ht
    rfl
  exact ⟨rfl, undisturbed_pass_converges (.inl rfl) (w := placedCluster) ⟨rfl, rfl, rfl, rfl⟩
    placedSettings hown⟩

end FleetSync
