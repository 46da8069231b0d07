import FleetSync.Proofs.Convergence

/-!
# Edits of finalizers

A token is added to the finalizers of a template, or removed from them, by one write, which is sent
exactly if it changes the list. A write that fails leaves the caller with the copy it had. One that
is accepted leaves it with the stored copy, on which the next write can be based.
-/
namespace FleetSync

variable {k : Kind}

def Metadata.finalizerList (m : Metadata) : List String := m.finalizers.getD []

inductive FinalizerEdit where
  | add (token : String)
  | remove (token : String)
  deriving DecidableEq, Repr

namespace FinalizerEdit

/-- There is something to do: the token is missing, or it is there at least once. -/
def isDue : FinalizerEdit → List String → Bool
  | add token, l => !l.contains token
  | remove token, l => l.contains token

/-- The token at the end, or all of its occurrences gone. -/
def apply : FinalizerEdit → List String → List String
  | add token, l => l ++ [token]
  | remove token, l => l.filter (· ≠ token)

def attempt (t : Template k) : FinalizerEdit → Attempt k (Option (Template k))
  | add token => t.addFinalizer token
  | remove token => t.removeFinalizer token

def draft (e : FinalizerEdit) (t : Template k) : Template k :=
  { t with metadata :=
    { t.metadata with finalizers := some (e.apply t.metadata.finalizerList) } }

/-- Whether an edit tells its caller that something was written. -/
def told : Except Failure (Option (Template k)) → Except Failure Bool := Except.map Option.isSome

/-- The copy that the caller of an edit goes on with. -/
def copyAfter (t : Template k) : Except Failure (Option (Template k)) → Template k
  | .ok stored => stored.getD t
  | .error _ => t

theorem isDue_apply (e : FinalizerEdit) (l : List String) : e.isDue (e.apply l) = false := by
  cases e <;> simp [isDue, apply]

theorem apply_remove_add {token : String} {l : List String}
    (h : (add token).isDue l = true) : (remove token).apply ((add token).apply l) = l := by
  simp only [isDue, Bool.not_eq_true', List.contains_eq_mem, decide_eq_false_iff_not] at h
  simp only [apply, List.filter_append]
  rw [List.filter_eq_self.2]
  · simp
  · intro other hother
    simp only [decide_eq_true_eq]
    rintro rfl
    exact h hother

theorem isDue_remove_add (token : String) (l : List String) :
    (remove token).isDue ((add token).apply l) = true := by
  simp [isDue, apply]

theorem run_attempt (e : FinalizerEdit) (t : Template k) :
    (e.attempt t).run = if e.isDue t.metadata.finalizerList then
      .ask (.template (.replace t.metadata.key (e.draft t))) fun a =>
        .done ((a : Except Failure (Template k)).map some)
      else .done (.ok none) := by
  have hwrite : (some <$> askTemplates (.replace t.metadata.key (e.draft t)) :
      Attempt k (Option (Template k))).run =
        .ask (.template (.replace t.metadata.key (e.draft t))) fun a =>
          .done ((a : Except Failure (Template k)).map some) := by
    refine congrArg (Program.ask _) (funext fun a => ?_)
    cases a <;> rfl
  cases e with
  | add token =>
    have hdue : (add token).isDue t.metadata.finalizerList = !t.metadata.hasFinalizer token := rfl
    rw [hdue, ← hwrite]
    unfold attempt
    dsimp only
    unfold Template.addFinalizer
    cases t.metadata.hasFinalizer token <;> rfl
  | remove token =>
    have hdue : (remove token).isDue t.metadata.finalizerList = t.metadata.hasFinalizer token := rfl
    rw [hdue, ← hwrite]
    unfold attempt
    dsimp only
    unfold Template.removeFinalizer
    cases t.metadata.hasFinalizer token <;> rfl

/-- What an edit of a template asks for and how it ends, by its exchanges and its result. -/
structure Account (e : FinalizerEdit) (t : Template k) (es : Dialogue k)
    (r : Except Failure (Option (Template k))) : Prop where
  /-- One write is sent exactly if it changes the list, and nothing else is asked for. -/
  sent : es.map (·.request) = if e.isDue t.metadata.finalizerList then
    [.template (.replace t.metadata.key (e.draft t))] else []
  /-- Only an accepted write is told of. -/
  told_iff : told r = .ok true ↔ ∃ stored, replaced (e.draft t) (.ok stored) ∈ es
  /-- The failure is that of the write. -/
  refused : ∀ f, r = .error f → replaced (e.draft t) (.error f) ∈ es ∧ copyAfter t r = t
  accepted : ∀ stored, replaced (e.draft t) (.ok stored) ∈ es →
    r = .ok (some stored) ∧ copyAfter t r = stored
  idle : es = [] → r = .ok none ∧ copyAfter t r = t

theorem replaced_inj {t : Template k} {a b : Except Failure (Template k)} :
    replaced t a = replaced t b ↔ a = b := by
  simp [replaced]

theorem account {σ : Type} (e : FinalizerEdit) (t : Template k)
    (answer : (q : Request k) → σ → q.Answer × σ) (s : σ) :
    e.Account t ((e.attempt t).run.exchanges answer s) ((e.attempt t).run.run answer s).1 := by
  rw [run_attempt]
  by_cases hdue : e.isDue t.metadata.finalizerList = true
  · rw [if_pos hdue]
    have hone (a : Except Failure (Template k)) :
        e.Account t [replaced (e.draft t) a] (a.map some) := by
      cases a with
      | error f =>
        refine ⟨(if_pos hdue).symm, ?_, ?_, ?_, nofun⟩
        · simp [told, Except.map, replaced_inj]
        · rintro f' ⟨⟩
          exact ⟨List.mem_singleton_self _, rfl⟩
        · intro stored hstored
          cases replaced_inj.1 (List.mem_singleton.1 hstored)
      | ok stored =>
        refine ⟨(if_pos hdue).symm, ?_, nofun, ?_, nofun⟩
        · simp [told, Except.map, replaced_inj]
        · intro stored' hstored
          cases replaced_inj.1 (List.mem_singleton.1 hstored)
          exact ⟨rfl, rfl⟩
    exact hone _
  · rw [if_neg hdue]
    constructor <;> simp [Program.exchanges, told, copyAfter, hdue, Except.map]

/-! Stores that nobody else uses -/
section Undisturbed
variable {cluster : String} {now : Instant} {w w' : World k} {t next stored : Template k}
  {key : Key} {e : FinalizerEdit}

theorem exists_of_perform_replace
    (h : w.perform cluster now (askTemplates (.replace key t)) = (.ok stored, w')) :
    ∃ old, w.templates.find? key = some old ∧
      stored = w.stocked key (w.templates.replacement old t) ∧
      w' = w.restock key (w.templates.replacement old t) := by
  have hanswer : (w.templates.answer (.replace key t)).1 = .ok stored :=
    congrArg Prod.fst h
  have hserved := w.templates.served_answer (.replace key t)
  rw [hanswer] at hserved
  generalize hs : (w.templates.answer (.replace key t)).2 = s at hserved
  cases hserved with
  | @replaced _ _ old hfind hv =>
    refine ⟨old, hfind, rfl, ?_⟩
    have hwrite : w.perform cluster now _ = _ := perform_replace hfind hv
    exact (congrArg Prod.snd h).symm.trans (congrArg Prod.snd hwrite)

theorem find?_restock (w : World k) (key : Key) (t : Template k) :
    (w.restock key t).templates.find? key = some (w.stocked key t) :=
  w.templates.find?_assign_self key t

theorem metadata_stocked (w : World k) (key : Key) (old t : Template k) :
    (w.stocked key (w.templates.replacement old t)).metadata =
      { t.metadata with resourceVersion := some (toString w.templates.nextVersion) } := by
  have hassign := w.templates.metadata_assign key (w.templates.replacement old t)
  have hmetadata : Resource.metadata (w.templates.replacement old t) = t.metadata :=
    metadata_replacement w.templates old t
  rwa [hmetadata] at hassign

theorem key_stocked (w : World k) (e : FinalizerEdit) (key : Key) (old t : Template k) :
    (w.stocked key (w.templates.replacement old (e.draft t))).metadata.key = t.metadata.key := by
  rw [metadata_stocked]
  rfl

theorem finalizerList_stocked (w : World k) (e : FinalizerEdit) (key : Key) (old t : Template k) :
    (w.stocked key (w.templates.replacement old (e.draft t))).metadata.finalizerList =
      e.apply t.metadata.finalizerList := by
  rw [metadata_stocked]
  rfl

theorem exists_perform_of_version (hfind : w.templates.find? key = some stored)
    (hv : Resource.version? next = Resource.version? stored) :
    (∃ t' w', w.perform cluster now (askTemplates (.replace key next)) = (.ok t', w')) ∧
      ∃ t' w', w.perform cluster now (askTemplates (.replaceStatus key next)) = (.ok t', w') :=
  ⟨⟨_, _, perform_replace hfind hv.symm⟩, ⟨_, _, perform_replaceStatus hfind hv.symm⟩⟩

theorem perform_attempt {o : Option (Template k)}
    (h : w.perform cluster now (e.attempt t) = (.ok o, w')) :
    (e.isDue t.metadata.finalizerList = false ∧ o = none ∧ w' = w) ∨
      (e.isDue t.metadata.finalizerList = true ∧ ∃ stored, o = some stored ∧
        w.perform cluster now (askTemplates (.replace t.metadata.key (e.draft t))) =
          (.ok stored, w')) := by
  unfold World.perform at h
  rw [run_attempt] at h
  by_cases hdue : e.isDue t.metadata.finalizerList = true
  · rw [if_pos hdue] at h
    refine .inr ⟨hdue, ?_⟩
    rw [Program.run_ask, Program.run_done] at h
    obtain ⟨hresult, hworld⟩ := Prod.mk.inj h
    cases ha : ((World.serve cluster now (.template (.replace t.metadata.key (e.draft t))) w).1 :
        Except Failure (Template k)) with
    | error f =>
      rw [ha] at hresult
      cases hresult
    | ok stored =>
      rw [ha] at hresult
      cases hresult
      exact ⟨stored, rfl, Prod.ext ha hworld⟩
  · rw [if_neg hdue] at h
    cases h
    exact .inl ⟨by simpa using hdue, rfl, rfl⟩

theorem perform_attempt_of_replace (hdue : e.isDue t.metadata.finalizerList = true)
    (h : w.perform cluster now (askTemplates (.replace t.metadata.key (e.draft t))) =
      (.ok stored, w')) : w.perform cluster now (e.attempt t) = (.ok (some stored), w') := by
  unfold World.perform
  rw [run_attempt, if_pos hdue, Program.run_ask, Program.run_done]
  have hanswer : ((World.serve cluster now (.template (.replace t.metadata.key (e.draft t))) w).1 :
      Except Failure (Template k)) = .ok stored := congrArg Prod.fst h
  have hworld : (World.serve cluster now (.template (.replace t.metadata.key (e.draft t))) w).2 =
      w' := congrArg Prod.snd h
  rw [hanswer, hworld]
  rfl

/-- What an edit leaves behind that succeeded on stores that nobody else uses. -/
structure Lasts (cluster : String) (now : Instant) (e : FinalizerEdit) (t : Template k)
    (o : Option (Template k)) (w' : World k) : Prop where
  /-- What the caller goes on with is what is stored now. -/
  stored : ∀ stored, o = some stored →
    w'.templates.find? t.metadata.key = some stored ∧ stored.metadata.key = t.metadata.key
  /-- Whatever is written next on the caller's copy is not stale. -/
  current : ∀ stored next, o = some stored → Resource.version? next = Resource.version? stored →
    (∃ t' w'', w'.perform cluster now (askTemplates (.replace t.metadata.key next)) =
      (.ok t', w'')) ∧
    ∃ t' w'', w'.perform cluster now (askTemplates (.replaceStatus t.metadata.key next)) =
      (.ok t', w'')
  /-- The same edit again asks for nothing. -/
  repeated : (e.attempt (o.getD t)).run = .done (.ok none)

theorem lasts_of_perform {o : Option (Template k)}
    (h : w.perform cluster now (e.attempt t) = (.ok o, w')) : e.Lasts cluster now t o w' := by
  rcases perform_attempt h with ⟨hdue, rfl, rfl⟩ | ⟨-, stored, rfl, hwrite⟩
  · refine ⟨?_, ?_, ?_⟩
    · intro stored hnone
      cases hnone
    · intro stored next hnone
      cases hnone
    · rw [run_attempt]
      exact if_neg (by simp [hdue])
  · obtain ⟨old, hold, rfl, rfl⟩ := exists_of_perform_replace hwrite
    have hfind := find?_restock w t.metadata.key (w.templates.replacement old (e.draft t))
    have hkey := key_stocked w e t.metadata.key old t
    have hlist := finalizerList_stocked w e t.metadata.key old t
    generalize w.stocked t.metadata.key (w.templates.replacement old (e.draft t)) = stored at *
    generalize w.restock t.metadata.key (w.templates.replacement old (e.draft t)) = w' at *
    refine ⟨?_, ?_, ?_⟩
    · rintro stored' ⟨⟩
      exact ⟨hfind, hkey⟩
    · rintro stored' next ⟨⟩ hv
      exact exists_perform_of_version hfind hv
    · rw [run_attempt]
      apply if_neg
      rw [Option.getD_some, hlist, isDue_apply]
      exact Bool.false_ne_true

theorem exists_perform_remove_add {token : String}
    (h : w.perform cluster now ((add token).attempt t) = (.ok (some stored), w')) :
    ∃ stored' w'', w'.perform cluster now ((remove token).attempt stored) =
        (.ok (some stored'), w'') ∧ w''.templates.find? t.metadata.key = some stored' ∧
      stored'.metadata.finalizerList = t.metadata.finalizerList := by
  obtain ⟨hfind, hkey⟩ := (lasts_of_perform h).stored stored rfl
  rcases perform_attempt h with ⟨-, hnone, -⟩ | ⟨hdue, stored', hstored, hwrite⟩
  · cases hnone
  cases hstored
  obtain ⟨old, -, rfl, rfl⟩ := exists_of_perform_replace hwrite
  have hlist := finalizerList_stocked w (add token) t.metadata.key old t
  generalize w.stocked t.metadata.key (w.templates.replacement old ((add token).draft t)) = stored
    at *
  generalize w.restock t.metadata.key (w.templates.replacement old ((add token).draft t)) = w' at *
  rw [← hkey] at hfind
  have hattempt : (remove token).isDue stored.metadata.finalizerList = true := by
    rw [hlist]
    exact isDue_remove_add token _
  let next := w'.templates.replacement stored ((remove token).draft stored)
  refine ⟨w'.stocked stored.metadata.key next, w'.restock stored.metadata.key next, ?_, ?_, ?_⟩
  · exact perform_attempt_of_replace hattempt (perform_replace hfind rfl)
  · rw [← hkey]
    exact find?_restock ..
  · have hrestored := finalizerList_stocked w' (remove token) stored.metadata.key stored stored
    rw [hlist, apply_remove_add hdue] at hrestored
    exact hrestored

theorem exists_perform_attempt {old : Template k} (e : FinalizerEdit)
    (hfind : w.templates.find? t.metadata.key = some old)
    (hv : Resource.version? old = Resource.version? t) :
    ∃ o w', w.perform cluster now (e.attempt t) = (.ok o, w') := by
  by_cases hdue : e.isDue t.metadata.finalizerList = true
  · exact ⟨_, _, perform_attempt_of_replace hdue (perform_replace hfind hv)⟩
  · refine ⟨none, w, ?_⟩
    unfold World.perform
    rw [run_attempt, if_neg hdue]
    rfl

end Undisturbed

/-- An edit sends one write exactly if it changes the list of finalizers, of a template that differs
from the caller's copy in that list alone, and it tells of a write exactly if that was accepted.
The caller goes on with the copy it had, or with the stored one after an accepted write. On stores
that nobody else uses, an edit of a current copy succeeds, the copy to go on with is current again,
the same edit again asks for nothing, and the removal of a token that was added restores the
list. -/
theorem edits_are_exact_and_atomic (e : FinalizerEdit) (t : Template k) :
    (∀ {σ : Type} (answer : (q : Request k) → σ → q.Answer × σ) (s : σ),
      e.Account t ((e.attempt t).run.exchanges answer s) ((e.attempt t).run.run answer s).1) ∧
    { e.draft t with metadata :=
      { (e.draft t).metadata with finalizers := t.metadata.finalizers } } = t ∧
    (∀ (cluster : String) (now : Instant) (w : World k) (old : Template k),
      w.templates.find? t.metadata.key = some old → Resource.version? old = Resource.version? t →
      ∃ o w', w.perform cluster now (e.attempt t) = (.ok o, w')) ∧
    (∀ (cluster : String) (now : Instant) (w w' : World k) (o : Option (Template k)),
      w.perform cluster now (e.attempt t) = (.ok o, w') → e.Lasts cluster now t o w') ∧
    ∀ (token : String) (cluster : String) (now : Instant) (w w' : World k) (stored : Template k),
      e = .add token → w.perform cluster now (e.attempt t) = (.ok (some stored), w') →
      ∃ stored' w'', w'.perform cluster now ((remove token).attempt stored) =
          (.ok (some stored'), w'') ∧ w''.templates.find? t.metadata.key = some stored' ∧
        stored'.metadata.finalizerList = t.metadata.finalizerList := by
  refine ⟨fun answer s => account e t answer s, rfl, ?_, ?_, ?_⟩
  · intro cluster now w old hfind hv
    exact exists_perform_attempt e hfind hv
  · intro cluster now w w' o h
    exact lasts_of_perform h
  · rintro token cluster now w w' stored rfl h
    exact exists_perform_remove_add h

def heldSettings : Template .configMap :=
  { placedSettings with metadata :=
    { placedSettings.metadata with finalizers := some ["archive"] } }

def heldCluster : World .configMap :=
  { placedCluster.world with templates := (placedCluster.world.templates.put heldSettings).2 }

/-- A token goes in after that of another holder, and out again. -/
theorem token_added_beside_another :
    ∃ t stored stored' w w', heldCluster.templates.find? heldSettings.metadata.key = some t ∧
      t.metadata.finalizerList = ["archive"] ∧
      heldCluster.perform "east" placedCluster.now ((add "mirror").attempt t) =
        (.ok (some stored), w) ∧ stored.metadata.finalizerList = ["archive", "mirror"] ∧
      (add "mirror").Lasts "east" placedCluster.now t (some stored) w ∧
      w.perform "east" placedCluster.now ((remove "mirror").attempt stored) =
        (.ok (some stored'), w') ∧ stored'.metadata.finalizerList = ["archive"] := by
  let t := (placedCluster.world.templates.put heldSettings).1
  obtain ⟨-, -, succeeds, lasts, restores⟩ := edits_are_exact_and_atomic (add "mirror") t
  obtain ⟨o, w, h⟩ := succeeds "east" placedCluster.now heldCluster t rfl rfl
  have hwritten : Except.ok (some _) = Except.ok o := congrArg Prod.fst h
  cases hwritten
  obtain ⟨stored', w', hremove, -, hlist⟩ :=
    restores "mirror" "east" placedCluster.now heldCluster w _ rfl h
  exact ⟨t, _, stored', w, w', rfl, rfl, h, rfl,
    lasts "east" placedCluster.now heldCluster w _ h, hremove, hlist⟩

end FinalizerEdit

end FleetSync
