import FleetSync.Proofs.Interleaving
import FleetSync.Simulation

/-!
# Undisturbed programs

What the parts of a pass do to the stores when every call is answered by its store and nobody else
writes. A simulation whose scripts are empty runs a program in just this way.
-/
namespace FleetSync

variable {k : Kind}

/-! Simulations -/
namespace ScriptedStore
variable {α : Type} [Resource α] {s : ScriptedStore α}

theorem answer_of_quiet (h : s.script = fun _ => []) (call : StoreCall α) :
    s.answer call = ((s.store.answer call).1, { s with store := (s.store.answer call).2 }) := by
  have hscript : (fun v => if v = call.verb then (s.script v).tail else s.script v) = s.script := by
    funext v
    rw [h]
    split <;> rfl
  unfold answer
  rw [hscript, h]
  rfl

end ScriptedStore

namespace Simulation
variable {w : Simulation k} {cluster : String}

def world (w : Simulation k) : World k := ⟨w.templates.store, w.concretes.store⟩

/-- No call will be disturbed, and the cluster's name is given. -/
structure Quiet (cluster : String) (w : Simulation k) : Prop where
  templates : w.templates.script = fun _ => []
  concretes : w.concretes.script = fun _ => []
  registration : w.registration.script = fun _ => []
  name : (clusterName w).1 = .ok cluster

theorem clusterName_congr {w w' : Simulation k} (hi : w'.identity = w.identity)
    (hr : w'.registration = w.registration) : (clusterName w').1 = (clusterName w).1 := by
  have hname (v : Simulation k) : (clusterName v).1 =
      (v.identity.clusterName (m := StateM (Simulation k))
        (fun key => callStore .registration (.get key)) v).1 := rfl
  rw [hname, hname, hi]
  cases w.identity with
  | fixed name => rfl
  | failing f => rfl
  | registered key =>
    change ((w'.registration.answer (.get key)).1).map clusterNameOf =
      ((w.registration.answer (.get key)).1).map clusterNameOf
    rw [hr]

theorem Quiet.congr {w w' : Simulation k} (hw : w.Quiet cluster)
    (ht : w'.templates.script = w.templates.script) (hc : w'.concretes.script = w.concretes.script)
    (hi : w'.identity = w.identity) (hr : w'.registration = w.registration) : w'.Quiet cluster :=
  ⟨ht.trans hw.templates, hc.trans hw.concretes, by rw [hr, hw.registration],
    (clusterName_congr hi hr).trans hw.name⟩

theorem clusterName_of_quiet (hw : w.Quiet cluster) : (clusterName w).2.Quiet cluster ∧
    (clusterName w).2.world = w.world ∧ (clusterName w).2.now = w.now := by
  have hname : (clusterName w).2 =
      (w.identity.clusterName (m := StateM (Simulation k))
        (fun key => callStore .registration (.get key)) w).2 := rfl
  cases hi : w.identity with
  | fixed name =>
    rw [hname, hi]
    exact ⟨hw, rfl, rfl⟩
  | failing f =>
    rw [hname, hi]
    exact ⟨hw, rfl, rfl⟩
  | registered key =>
    have hw' : (clusterName w).2 = (callStore .registration (.get key) w).2 := by
      rw [hname, hi]
      rfl
    rw [hw']
    have hanswer : (w.registration.answer (.get key)).2 = w.registration := by
      rw [ScriptedStore.answer_of_quiet hw.registration]
      rfl
    exact ⟨hw.congr rfl rfl rfl hanswer, rfl, rfl⟩

/-- A quiet simulation answers a request like its stores, and stays quiet. -/
theorem answer_of_quiet (hw : w.Quiet cluster) (q : Request k) :
    ((answerWith (callStore .templates) q w).1,
        (answerWith (callStore .templates) q w).2.world) = World.serve cluster w.now q w.world ∧
      (answerWith (callStore .templates) q w).2.Quiet cluster ∧
      (answerWith (callStore .templates) q w).2.now = w.now := by
  cases q with
  | template call =>
    have hanswer := ScriptedStore.answer_of_quiet hw.templates call
    refine ⟨?_, hw.congr ?_ rfl rfl rfl, rfl⟩
    · change ((w.templates.answer call).1,
        (⟨(w.templates.answer call).2.store, w.concretes.store⟩ : World k)) = _
      rw [hanswer]
      rfl
    · change (w.templates.answer call).2.script = _
      rw [hanswer]
  | concrete call =>
    have hanswer := ScriptedStore.answer_of_quiet hw.concretes call
    refine ⟨?_, hw.congr rfl ?_ rfl rfl, rfl⟩
    · change ((w.concretes.answer call).1,
        (⟨w.templates.store, (w.concretes.answer call).2.store⟩ : World k)) = _
      rw [hanswer]
      rfl
    · change (w.concretes.answer call).2.script = _
      rw [hanswer]
  | clusterName =>
    obtain ⟨hquiet, hworld, hnow⟩ := clusterName_of_quiet hw
    refine ⟨?_, hquiet, hnow⟩
    change ((clusterName w).1, (clusterName w).2.world) = (.ok cluster, w.world)
    rw [hw.name, hworld]
  | now => exact ⟨rfl, hw, rfl⟩
  | pause d =>
    have hpaused (millis : Nat) :
        (((), ({ w with pausedMillis := millis } : Simulation k).world) = ((), w.world)) ∧
          ({ w with pausedMillis := millis } : Simulation k).Quiet cluster ∧
          ({ w with pausedMillis := millis } : Simulation k).now = w.now :=
      ⟨rfl, hw.congr rfl rfl rfl rfl, rfl⟩
    exact hpaused (w.pausedMillis + d.ceilMillis)
  | report r => exact ⟨rfl, hw.congr rfl rfl rfl rfl, rfl⟩

theorem run_of_quiet {α : Type} (p : Task k α) (hw : w.Quiet cluster) :
    ((run p w).1, (run p w).2.world) = p.run (World.serve cluster w.now) w.world := by
  unfold run
  induction p generalizing w with
  | done a => rfl
  | ask q next ih =>
    obtain ⟨hanswer, hquiet, hnow⟩ := answer_of_quiet hw q
    rw [Program.run_ask, Program.run_ask, ih _ hquiet, hnow, ← hanswer]

end Simulation

/-! Programs -/

/-- What comes of a program that may fail, and of the stores. -/
def World.perform {α : Type} (cluster : String) (now : Instant) (x : Attempt k α) (w : World k) :
    Except Failure α × World k :=
  x.run.run (World.serve cluster now) w

section Perform
variable {α β : Type} {cluster : String} {now : Instant} {w w' : World k} {x : Attempt k α}
  {f : α → Attempt k β}

theorem run_bind_ok {σ : Type} {answer : (q : Request k) → σ → q.Answer × σ} {s s' : σ} {a : α}
    (hx : x.run.run answer s = (.ok a, s')) :
    (x >>= f).run.run answer s = (f a).run.run answer s' ∧
      (x >>= f).run.exchanges answer s =
        x.run.exchanges answer s ++ (f a).run.exchanges answer s' := by
  rw [ExceptT.run_bind, Program.run_bind, Program.exchanges_bind, hx]
  exact ⟨rfl, rfl⟩

theorem perform_bind_ok {a : α} (hx : w.perform cluster now x = (.ok a, w')) :
    w.perform cluster now (x >>= f) = w'.perform cluster now (f a) :=
  (run_bind_ok hx).1

theorem perform_bind_error {e : Failure} (hx : w.perform cluster now x = (.error e, w')) :
    w.perform cluster now (x >>= f) = (.error e, w') := by
  unfold World.perform at hx ⊢
  rw [ExceptT.run_bind, Program.run_bind, hx]
  rfl

theorem perform_pure (a : α) : w.perform cluster now (pure a : Attempt k α) = (.ok a, w) := rfl

theorem perform_map_ok {a : α} {g : α → β} (hx : w.perform cluster now x = (.ok a, w')) :
    w.perform cluster now (g <$> x) = (.ok (g a), w') := by
  rw [← bind_pure_comp, perform_bind_ok hx]
  rfl

theorem perform_lift (p : Task k α) : w.perform cluster now (liftM p : Attempt k α) =
    (.ok (p.run (World.serve cluster now) w).1, (p.run (World.serve cluster now) w).2) := by
  change ((Except.ok <$> p).run (World.serve cluster now) w) = _
  rw [← bind_pure_comp, Program.run_bind]
  rfl

theorem perform_except (r : Except Failure α) :
    w.perform cluster now (liftM r : Attempt k α) = (r, w) := rfl

theorem perform_tryCatch_ok {a : α} {g : Failure → Attempt k α}
    (hx : w.perform cluster now x = (.ok a, w')) :
    w.perform cluster now (tryCatch x g) = (.ok a, w') := by
  unfold World.perform at hx ⊢
  rw [ExceptT.run_tryCatch, Program.run_bind, hx]
  rfl

theorem perform_tryCatch_error {e : Failure} {g : Failure → Attempt k α}
    (hx : w.perform cluster now x = (.error e, w')) :
    w.perform cluster now (tryCatch x g) = w'.perform cluster now (g e) := by
  unfold World.perform at hx ⊢
  rw [ExceptT.run_tryCatch, Program.run_bind, hx]

theorem run_retryConflicts {σ : Type} {answer : (q : Request k) → σ → q.Answer × σ} {s : σ}
    (hx : ∀ e, (x.run.run answer s).1 = .error e → e.isConflict = false) :
    (retryConflicts x).run.run answer s = x.run.run answer s ∧
      (retryConflicts x).run.exchanges answer s = x.run.exchanges answer s := by
  have hattempts (left : Nat) (d : Duration) :
      let p := RetrySchedule.conflict.attempts Failure.isConflict pause x.run left d
      p.run answer s = x.run.run answer s ∧ p.exchanges answer s = x.run.exchanges answer s := by
    cases left with
    | zero => exact ⟨rfl, rfl⟩
    | succ left =>
      unfold RetrySchedule.attempts
      dsimp only
      rw [Program.run_bind, Program.exchanges_bind]
      generalize x.run.run answer s = r at hx
      obtain ⟨r, s'⟩ := r
      cases r with
      | ok a => exact ⟨rfl, List.append_nil _⟩
      | error e =>
        simp only [hx e rfl, Bool.false_eq_true, if_false]
        exact ⟨rfl, List.append_nil _⟩
  exact hattempts _ _

theorem perform_retryConflicts
    (hx : ∀ e, (w.perform cluster now x).1 = .error e → e.isConflict = false) :
    w.perform cluster now (retryConflicts x) = w.perform cluster now x :=
  (run_retryConflicts hx).1

end Perform

theorem statusApart_perform {α : Type} (cluster : String) (now : Instant) (x : Attempt k α)
    (w : World k) :
    (w.perform cluster now x).2.templates.statusApart = w.templates.statusApart := by
  unfold World.perform
  induction x.run generalizing w with
  | done r => rfl
  | ask q next ih =>
    rw [Program.run_ask, ih]
    cases q with
    | template call => exact (w.templates.served_answer call).statusApart_eq
    | concrete call => rfl
    | clusterName => rfl
    | now => rfl
    | pause d => rfl
    | report r => rfl

/-! One attempt to synchronize, whoever answers. -/
section Synchronize
variable {key : Key} {mutation : Mutation k} {σ : Type}
  {answer : (q : Request k) → σ → q.Answer × σ} {s s' : σ} {c old stored : Concrete k}

theorem run_syncOnce_created (hget : answer (.concrete (.get key)) s = (.ok none, s))
    (hm : mutation (.blank key) = .ok c)
    (hanswer : answer (.concrete (.create key.ns (c.pin key))) s = (.ok stored, s')) :
    (syncOnce key mutation).run.run answer s = (.ok .created, s') := by
  have hasked : (askConcretes (k := k) (.get key)).run.run answer s = (.ok none, s) := hget
  have hdrafted : (liftM (mutation (.blank key)) : Attempt k (Concrete k)).run.run answer s =
      (.ok c, s) := congrArg (·, s) hm
  have hsent : (askConcretes (.create key.ns (c.pin key))).run.run answer s =
      (.ok stored, s') := hanswer
  unfold syncOnce
  rw [(run_bind_ok hasked).1]
  dsimp only
  rw [(run_bind_ok hdrafted).1, (run_bind_ok hsent).1]
  rfl

theorem run_syncOnce_updated (hget : answer (.concrete (.get key)) s = (.ok (some old), s))
    (hm : mutation old = .ok c) (hne : c.pin key ≠ old)
    (hanswer : answer (.concrete (.replace key (c.pin key))) s =
      ((.ok stored : Except Failure (Concrete k)), s')) :
    (syncOnce key mutation).run.run answer s = (.ok .updated, s') := by
  have hasked : (askConcretes (k := k) (.get key)).run.run answer s = (.ok (some old), s) := hget
  have hdrafted : (liftM (mutation old) : Attempt k (Concrete k)).run.run answer s =
      (.ok c, s) := congrArg (·, s) hm
  have hsent : ((askConcretes (.replace key (c.pin key))).adapt
      (vanished (k := k) key)).run.run answer s = (.ok stored, s') :=
    congrArg (fun a : Except Failure (Concrete k) × σ => (a.1.mapError (vanished (k := k) key), a.2))
      hanswer
  unfold syncOnce
  rw [(run_bind_ok hasked).1]
  dsimp only
  rw [(run_bind_ok hdrafted).1, if_neg hne, (run_bind_ok hsent).1]
  rfl

theorem run_syncOnce_unchanged (hget : answer (.concrete (.get key)) s = (.ok (some old), s))
    (hm : mutation old = .ok c) (hsame : c.pin key = old) :
    (syncOnce key mutation).run.run answer s = (.ok .unchanged, s) ∧
      (syncOnce key mutation).run.exchanges answer s = [sighted key (some old)] := by
  have hasked : (askConcretes (k := k) (.get key)).run.run answer s = (.ok (some old), s) := hget
  have hdrafted : (liftM (mutation old) : Attempt k (Concrete k)).run.run answer s =
      (.ok c, s) := congrArg (·, s) hm
  have hexchanged : (askConcretes (k := k) (.get key)).run.exchanges answer s =
      [sighted key (some old)] := by
    change [(⟨.concrete (.get key), (answer (.concrete (.get key)) s).1⟩ :
      Exchange (Request k) Request.Answer)] = _
    rw [hget]
    rfl
  unfold syncOnce
  rw [(run_bind_ok hasked).1, (run_bind_ok hasked).2, hexchanged]
  dsimp only
  rw [(run_bind_ok hdrafted).1, (run_bind_ok hdrafted).2, if_pos hsame]
  exact ⟨rfl, rfl⟩

end Synchronize

/-! Calls -/

def World.restock (w : World k) (key : Key) (t : Template k) : World k :=
  { w with templates := (w.templates.assign key t).2 }

def World.stocked (w : World k) (key : Key) (t : Template k) : Template k :=
  (w.templates.assign key t).1

section Calls
variable {cluster : String} {now : Instant} {w : World k} {key : Key} {t stored : Template k}

theorem perform_getTemplate :
    w.perform cluster now (askTemplates (.get key)) = (.ok (w.templates.find? key), w) := rfl

theorem perform_replace (hfind : w.templates.find? key = some stored)
    (hv : Resource.version? stored = Resource.version? t) :
    w.perform cluster now (askTemplates (.replace key t)) =
      (.ok (w.stocked key (w.templates.replacement stored t)),
        w.restock key (w.templates.replacement stored t)) := by
  change ((w.templates.answer (.replace key t)).1,
    { w with templates := (w.templates.answer (.replace key t)).2 }) = _
  have hanswer : w.templates.answer (.replace key t) =
      (.ok (w.stocked key (w.templates.replacement stored t)),
        (w.restock key (w.templates.replacement stored t)).templates) := by
    simp only [Store.answer, Store.replaceBy, hfind, if_pos hv]
    rfl
  rw [hanswer]
  rfl

theorem perform_replaceStatus (hfind : w.templates.find? key = some stored)
    (hv : Resource.version? stored = Resource.version? t) :
    w.perform cluster now (askTemplates (.replaceStatus key t)) =
      (.ok (w.stocked key (w.templates.restatement stored t)),
        w.restock key (w.templates.restatement stored t)) := by
  change ((w.templates.answer (.replaceStatus key t)).1,
    { w with templates := (w.templates.answer (.replaceStatus key t)).2 }) = _
  have hanswer : w.templates.answer (.replaceStatus key t) =
      (.ok (w.stocked key (w.templates.restatement stored t)),
        (w.restock key (w.templates.restatement stored t)).templates) := by
    simp only [Store.answer, Store.replaceBy, hfind, if_pos hv]
    rfl
  rw [hanswer]
  rfl

theorem perform_deleteConcrete : w.perform cluster now (askConcretes (.delete key)) =
    (.ok (), { w with concretes := w.concretes.drop key }) := rfl

end Calls

end FleetSync
