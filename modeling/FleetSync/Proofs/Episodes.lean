import FleetSync.Proofs.Readiness
import FleetSync.Proofs.Undisturbed

/-!
# Episodes

A program works on two stores that others use as well. Each of its calls is answered by the store,
or fails without an effect; before and after it others write, drop and renew objects as they like.
Whatever the scripts of a simulation do to a program is an episode of it, and every program comes to
an end in such a run.
-/
namespace FleetSync

variable {k : Kind} {α : Type}

/-! Stores -/

section Served
variable {β : Type} [Resource β] [LawfulResource β] {s s' : Store β} {call : StoreCall β}
  {r : call.Answer}

theorem Store.Served.find?_ne {key : Key} (h : s.Served call r s') (hne : key ≠ call.key) :
    s'.find? key = s.find? key := by
  cases h with
  | found key' => rfl
  | failed call f => rfl
  | @created ns o o' ho h =>
    have hstored : Resource.storedKey o' = (StoreCall.create ns o).key := by
      unfold Resource.storedKey
      rw [ho, LawfulResource.metadata_withMetadata]
      rfl
    rw [Store.find?_assign, if_neg (hstored ▸ hne)]
  | @replaced key' o stored h hv =>
    have hne : key ≠ key' := hne
    rw [Store.find?_assign, if_neg hne]
  | @restated key' o stored h hv =>
    have hne : key ≠ key' := hne
    rw [Store.find?_assign, if_neg hne]
  | deleted key' => exact Store.find?_drop_ne s hne

end Served

/-- Before a scripted call others do what the script says; then the call is answered or fails. -/
theorem ScriptedStore.exists_serves {β : Type} [Resource β] (s : ScriptedStore β)
    (call : StoreCall β) : ∃ s', s.store.Meddles (fun _ _ => True) s' ∧
      s'.Serves call (s.answer call).1 (s.answer call).2.store := by
  unfold answer
  cases (s.script call.verb).headD .nothing with
  | fail f => exact ⟨s.store, .idle, .inr ⟨⟨f, rfl⟩, rfl⟩⟩
  | drop => exact ⟨s.store.drop call.key, .drop _, .inl ⟨rfl, rfl⟩⟩
  | put o => exact ⟨(s.store.put o).2, .write _ o trivial, .inl ⟨rfl, rfl⟩⟩
  | nothing => exact ⟨s.store, .idle, .inl ⟨rfl, rfl⟩⟩
  | touch =>
    refine ⟨s.store.touch call.key, ?_, .inl ⟨rfl, rfl⟩⟩
    unfold Store.touch
    split
    · exact .write _ _ trivial
    · exact .skip

/-! Worlds -/

structure World.Versioned (w : World k) : Prop where
  templates : w.templates.Versioned
  concretes : w.concretes.Versioned

structure World.Evolves (w w' : World k) : Prop where
  templates : w.templates.Evolves w'.templates
  concretes : w.concretes.Evolves w'.concretes

/-- Others may have done something to either store. -/
structure World.Meddles (w w' : World k) : Prop where
  templates : w.templates.Meddles (fun _ _ => True) w'.templates
  concretes : w.concretes.Meddles (fun _ _ => True) w'.concretes

section World
variable {w w' w'' : World k} {q : Request k} {r : q.Answer}

theorem World.Evolves.refl (w : World k) : w.Evolves w := ⟨.refl _, .refl _⟩

theorem World.Evolves.trans (h : w.Evolves w') (h' : w'.Evolves w'') : w.Evolves w'' :=
  ⟨h.templates.trans h'.templates, h.concretes.trans h'.concretes⟩

theorem World.Meddles.evolves (h : w.Meddles w') : w.Evolves w' :=
  ⟨h.templates.evolves, h.concretes.evolves⟩

theorem World.Meddles.versioned (h : w.Meddles w') (hw : w.Versioned) : w'.Versioned :=
  ⟨h.templates.versioned hw.templates, h.concretes.versioned hw.concretes⟩

theorem World.Answers.concretes (h : w.Answers q r w') :
    (∃ call r', (⟨q, r⟩ : Exchange (Request k) Request.Answer) = ⟨.concrete call, r'⟩ ∧
      w.concretes.Served call r' w'.concretes) ∨
    w'.concretes = w.concretes ∧ ∀ call, q ≠ .concrete call := by
  cases q with
  | concrete call => exact .inl ⟨call, r, rfl, h.1.served⟩
  | template call => exact .inr ⟨h.2, fun _ hq => by cases hq⟩
  | clusterName => exact .inr ⟨congrArg World.concretes h, fun _ hq => by cases hq⟩
  | now => exact .inr ⟨congrArg World.concretes h, fun _ hq => by cases hq⟩
  | pause d => exact .inr ⟨congrArg World.concretes h, fun _ hq => by cases hq⟩
  | report r => exact .inr ⟨congrArg World.concretes h, fun _ hq => by cases hq⟩

theorem World.versioned_of_answers (h : w.Answers q r w') (hw : w.Versioned) : w'.Versioned := by
  refine ⟨h.versioned hw.templates, ?_⟩
  rcases h.concretes with ⟨call, r', -, hserved⟩ | ⟨heq, -⟩
  · exact hserved.versioned hw.concretes
  · exact heq ▸ hw.concretes

end World

/-! Programs among others -/

/-- A program at work, its moments so far with the last one first, the stores and what is left of
the program. Between its exchanges others do as they like. -/
inductive Episode (task : Task k α) (w₀ : World k) : List (Moment k) → World k → Task k α → Prop
  | start : Episode task w₀ [] w₀ task
  | exchange {ms w w' q next} (r : Request.Answer q) (h : Episode task w₀ ms w (.ask q next))
      (hanswer : w.Answers q r w') : Episode task w₀ (⟨⟨q, r⟩, w, w'⟩ :: ms) w' (next r)
  | others {ms w w' p} (h : Episode task w₀ ms w p) (hmeddles : w.Meddles w') :
      Episode task w₀ ms w' p

section Episode
variable {task p : Task k α} {w₀ w : World k} {ms later earlier : List (Moment k)} {m : Moment k}

theorem Episode.after (h : Episode task w₀ ms w p) : task.After (pastOf ms) p := by
  induction h with
  | start => exact Program.after_nil.2 rfl
  | exchange r h hanswer ih => simpa [pastOf] using ih.step r
  | others h hmeddles ih => exact ih

theorem Episode.before (h : Episode task w₀ (later ++ m :: earlier) w p) :
    (∃ next, Episode task w₀ earlier m.before (.ask m.exchange.request next)) ∧
      m.before.Answers m.exchange.request m.exchange.answer m.after := by
  generalize hms : later ++ m :: earlier = ms at h
  induction h generalizing later with
  | start => simp at hms
  | @exchange ms w w' q next r h hanswer ih =>
    rcases later with _ | ⟨m', later⟩
    · obtain ⟨rfl, rfl⟩ := List.cons.inj hms
      exact ⟨⟨next, h⟩, hanswer⟩
    · exact ih (List.cons.inj hms).2
  | others h hmeddles ih => exact ih hms

theorem Episode.asks (h : Episode task w₀ (later ++ m :: earlier) w p) :
    task.Asks (pastOf earlier) m.exchange.request := by
  obtain ⟨⟨next, hbefore⟩, -⟩ := h.before
  exact ⟨next, hbefore.after⟩

theorem Episode.versioned (h : Episode task w₀ ms w p) (hw : w₀.Versioned) : w.Versioned := by
  induction h with
  | start => exact hw
  | exchange r h hanswer ih => exact World.versioned_of_answers hanswer ih
  | others h hmeddles ih => exact hmeddles.versioned ih

theorem Episode.evolves (h : Episode task w₀ (m :: earlier) w p) : m.after.Evolves w := by
  generalize hms : m :: earlier = ms at h
  induction h with
  | start => cases hms
  | exchange r h hanswer ih =>
    cases hms
    exact .refl _
  | others h hmeddles ih => exact (ih hms).trans hmeddles.evolves

theorem Episode.recognizes_template {t : Template k} (h : Episode task w₀ (m :: earlier) w p)
    (hw : w₀.Versioned) (hm : m.exchange.copy? = some t) : w.templates.Recognizes t := by
  have hcut : Episode task w₀ ([] ++ m :: earlier) w p := h
  obtain ⟨⟨next, hbefore⟩, hanswer⟩ := hcut.before
  exact (hanswer.recognizes (hbefore.versioned hw).templates hm).evolves h.evolves.templates

theorem Episode.recognizes_concrete {key : Key} {c : Concrete k}
    (h : Episode task w₀ (m :: earlier) w p) (hw : w₀.Versioned)
    (hm : m.exchange = sighted key (some c)) : w.concretes.Recognizes c := by
  have hcut : Episode task w₀ ([] ++ m :: earlier) w p := h
  obtain ⟨⟨next, hbefore⟩, hanswer⟩ := hcut.before
  have hevolves := h.evolves.concretes
  have hversioned := (hbefore.versioned hw).concretes
  obtain ⟨e, before, after⟩ := m
  dsimp only at hm
  subst hm
  obtain ⟨hfind, hsame⟩ := hanswer.1.find?_eq
  dsimp only at hevolves hversioned hfind hsame
  rw [hsame] at hevolves
  exact (hversioned.recognizes hfind).evolves hevolves

/-- A repeated attempt that has ended: each attempt but the last one ended with a conflict, there
were five at most, and no conflict is the result of fewer. They are counted by what they read, if
each of them reads once. -/
theorem Episode.attempted {attempt : Attempt k α} {r : Except Failure α}
    (h : Episode (retryConflicts attempt).run w₀ ms w (.done r))
    (hreads : ∀ es r, attempt.run.Ends es r → es.countP (·.reads) = 1) :
    ∃ n earlier last, pastOf ms = earlier ++ last ∧ Attempted attempt n earlier last r ∧
      (pastOf ms).countP (·.reads) = n + 1 ∧ (pastOf ms).countP (·.reads) ≤ 5 ∧
      ∀ f, r = .error f → f.isConflict = true → (pastOf ms).countP (·.reads) = 5 := by
  obtain ⟨n, earlier, last, hpast, hattempted⟩ := attempted_of_ends h.after
  have hcount : (pastOf ms).countP (·.reads) = n + 1 := by
    rw [hpast]
    exact hattempted.countP_eq hreads fun _ => rfl
  refine ⟨n, earlier, last, hpast, hattempted, hcount, ?_, fun f hf hconflict => ?_⟩
  · rw [hcount]
    exact Nat.succ_le_succ hattempted.bounded
  · rw [hcount, hattempted.exhausted f hf hconflict]

/-- If others act before each request in some way, and the rest is up to the stores, then a program
comes to an end, and the run is an episode. -/
theorem Episode.exists_run {σ : Type} {answer : (q : Request k) → σ → q.Answer × σ}
    {view : σ → World k} (hanswer : ∀ q s, ∃ w, (view s).Meddles w ∧
      w.Answers q (answer q s).1 (view (answer q s).2)) {s : σ}
    (h : Episode task w₀ ms (view s) p) : ∃ new,
      Episode task w₀ (new ++ ms) (view (p.run answer s).2) (.done (p.run answer s).1) ∧
        pastOf new = p.exchanges answer s := by
  induction p generalizing s ms with
  | done a => exact ⟨[], h, rfl⟩
  | ask q next ih =>
    obtain ⟨w, hmeddles, hanswers⟩ := hanswer q s
    obtain ⟨new, hnew, hpast⟩ := ih _ ((h.others hmeddles).exchange _ hanswers)
    refine ⟨new ++ [_], List.append_cons .. ▸ hnew, ?_⟩
    simpa [pastOf, Program.exchanges] using hpast

end Episode

/-! Simulations -/

namespace Simulation

def upstream (w : Simulation k) : World k := ⟨w.aggregator.store, w.concretes.store⟩

theorem stores_clusterName (w : Simulation k) : (clusterName w).2.templates = w.templates ∧
    (clusterName w).2.aggregator = w.aggregator ∧ (clusterName w).2.concretes = w.concretes := by
  have hname : (clusterName w).2 = (w.identity.clusterName (m := StateM (Simulation k))
      (fun key => callStore .registration (.get key)) w).2 := rfl
  rw [hname]
  cases w.identity with
  | fixed name => exact ⟨rfl, rfl, rfl⟩
  | failing f => exact ⟨rfl, rfl, rfl⟩
  | registered key => exact ⟨rfl, rfl, rfl⟩

/-- A request is answered by the stores after others did what the scripts say, wherever the
templates are kept. -/
theorem exists_answers (templates : Simulation k → ScriptedStore (Template k))
    (templatesStore : (call : StoreCall (Template k)) → Simulation k →
      call.Answer × Simulation k)
    (hstore : ∀ call w, ((templatesStore call w).1, templates (templatesStore call w).2) =
      (templates w).answer call ∧ (templatesStore call w).2.concretes = w.concretes)
    (hkept : ∀ w w' : Simulation k, w'.templates = w.templates → w'.aggregator = w.aggregator →
      templates w' = templates w) (q : Request k) (w : Simulation k) :
    ∃ w', World.Meddles ⟨(templates w).store, w.concretes.store⟩ w' ∧
      w'.Answers q (answerWith templatesStore q w).1
        ⟨(templates (answerWith templatesStore q w).2).store,
          (answerWith templatesStore q w).2.concretes.store⟩ := by
  have hsame {w' : Simulation k} (ht : w'.templates = w.templates)
      (ha : w'.aggregator = w.aggregator) (hc : w'.concretes = w.concretes) :
      (⟨(templates w').store, w'.concretes.store⟩ : World k) =
        ⟨(templates w).store, w.concretes.store⟩ := by
    rw [hkept w w' ht ha, hc]
  cases q with
  | template call =>
    obtain ⟨hanswer, hconcretes⟩ := hstore call w
    obtain ⟨s, hmeddles, hserves⟩ := (templates w).exists_serves call
    rw [← hanswer] at hserves
    exact ⟨⟨s, w.concretes.store⟩, ⟨hmeddles, .idle⟩, hserves,
      congrArg ScriptedStore.store hconcretes⟩
  | concrete call =>
    obtain ⟨s, hmeddles, hserves⟩ := w.concretes.exists_serves call
    exact ⟨⟨(templates w).store, s⟩, ⟨.idle, hmeddles⟩, hserves,
      congrArg ScriptedStore.store (hkept w _ rfl rfl)⟩
  | clusterName =>
    obtain ⟨ht, ha, hc⟩ := stores_clusterName w
    exact ⟨_, ⟨.idle, .idle⟩, hsame ht ha hc⟩
  | now => exact ⟨_, ⟨.idle, .idle⟩, rfl⟩
  | pause d =>
    -- for any number, since the sum of the pauses takes long to evaluate
    have hpaused (n : Nat) := @hsame { w with pausedMillis := n } rfl rfl rfl
    exact ⟨_, ⟨.idle, .idle⟩, hpaused _⟩
  | report r => exact ⟨_, ⟨.idle, .idle⟩, hsame rfl rfl rfl⟩

theorem exists_episode (task : Task k α) (w : Simulation k) : ∃ ms,
    Episode task w.world ms (run task w).2.world (.done (run task w).1) ∧
      pastOf ms = task.exchanges (answerWith (callStore .templates)) w := by
  have hanswer := exists_answers Simulation.templates (callStore (k := k) .templates)
    (fun _ _ => ⟨rfl, rfl⟩) fun _ _ h _ => h
  have hstart : Episode task w.world [] w.world task := .start
  obtain ⟨ms, hms, hpast⟩ := hstart.exists_run hanswer
  exact ⟨ms, List.append_nil ms ▸ hms, hpast⟩

theorem exists_episode_upstream (task : Task k α) (w : Simulation k) : ∃ ms,
    Episode task w.upstream ms (runAggregator task w).2.upstream
        (.done (runAggregator task w).1) ∧
      pastOf ms = task.exchanges (answerWith (callStore .aggregator)) w := by
  have hanswer := exists_answers Simulation.aggregator (callStore (k := k) .aggregator)
    (fun _ _ => ⟨rfl, rfl⟩) fun _ _ _ h => h
  have hstart : Episode task w.upstream [] w.upstream task := .start
  obtain ⟨ms, hms, hpast⟩ := hstart.exists_run hanswer
  exact ⟨ms, List.append_nil ms ▸ hms, hpast⟩

end Simulation

end FleetSync
