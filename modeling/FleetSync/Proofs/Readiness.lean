import FleetSync.Proofs.Discipline
import FleetSync.Proofs.Entries

/-!
# What is reported ready is there

Others write what they like while a pass goes on. When it records that its template is ready, or
says so to the aggregator, then at some moment of the same pass before that write the concrete
object was stored in the form that the fetched template prescribes, and the write overwrites a
template that carries the token and has the payload and the placement of the fetched one.
-/
namespace FleetSync

variable {k : Kind}

/-- An exchange of a pass, with the stores before and after it. -/
structure Moment (k : Kind) where
  exchange : Exchange (Request k) Request.Answer
  before : World k
  after : World k

def pastOf (ms : List (Moment k)) : Dialogue k := (ms.map (·.exchange)).reverse

/-- A pass over the template at an address, its moments so far with the last one first, the stores
and what is left of the pass. Between its exchanges others change the stores as they like, but each
version is given to one template. -/
inductive Course (key : Key) (w₀ : World k) :
    List (Moment k) → World k → Task k (Except Failure Unit) → Prop
  | start : Course key w₀ [] w₀ (reconcile key).run
  | exchange {ms w w' q next} (r : Request.Answer q) (h : Course key w₀ ms w (.ask q next))
      (hanswer : w.Answers q r w') : Course key w₀ (⟨⟨q, r⟩, w, w'⟩ :: ms) w' (next r)
  | others {ms w w' p} (h : Course key w₀ ms w p)
      (hevolves : w.templates.Evolves w'.templates) (hversioned : w'.templates.Versioned) :
      Course key w₀ ms w' p

section Course
variable {key : Key} {w₀ w : World k} {ms later earlier : List (Moment k)} {m : Moment k}
  {p : Task k (Except Failure Unit)}

theorem Course.sound (h : Course key w₀ ms w p) (hw : w₀.templates.Versioned) :
    System.Sound ⟨w, [⟨.pass key, pastOf ms, p⟩]⟩ := by
  induction h with
  | start => exact (System.sound_atRest hw).start (.pass key)
  | @exchange ms w w' q next r h hanswer ih =>
    have hthreads : [(⟨.pass key, pastOf ms, .ask q next⟩ : Thread k)] =
        [] ++ ⟨.pass key, pastOf ms, .ask q next⟩ :: [] := rfl
    simpa [pastOf] using ih.exchange hthreads hanswer
  | others h hevolves hversioned ih => exact ih.evolves hevolves hversioned

theorem Course.before (h : Course key w₀ (later ++ m :: earlier) w p) :
    (∃ next, Course key w₀ earlier m.before (.ask m.exchange.request next)) ∧
      m.before.Answers m.exchange.request m.exchange.answer m.after := by
  generalize hms : later ++ m :: earlier = ms at h
  induction h generalizing later with
  | start => simp at hms
  | @exchange ms w w' q next r h hanswer ih =>
    rcases later with _ | ⟨m', later⟩
    · obtain ⟨rfl, rfl⟩ := List.cons.inj hms
      exact ⟨⟨next, h⟩, hanswer⟩
    · exact ih (List.cons.inj hms).2
  | others h hevolves hversioned ih => exact ih hms

theorem Course.asks (h : Course key w₀ (later ++ m :: earlier) w p) (hw : w₀.templates.Versioned) :
    (reconcile key).run.Asks (pastOf earlier) m.exchange.request := by
  obtain ⟨⟨next, hbefore⟩, -⟩ := h.before
  exact ⟨next, (hbefore.sound hw).after _ (List.mem_singleton_self _)⟩

theorem Course.exists_moment {e : Exchange (Request k) Request.Answer} (h : Course key w₀ ms w p)
    (he : e ∈ pastOf ms) :
    ∃ m ∈ ms, m.exchange = e ∧ m.before.Answers e.request e.answer m.after := by
  obtain ⟨m, hm, rfl⟩ := List.mem_map.1 (List.mem_reverse.1 he)
  obtain ⟨later, earlier, rfl⟩ := List.append_of_mem hm
  exact ⟨m, hm, rfl, h.before.2⟩

theorem eq_cons_of_pastOf {es : Dialogue k} {e : Exchange (Request k) Request.Answer}
    (h : pastOf ms = es ++ [e]) : ∃ m ms', ms = m :: ms' ∧ m.exchange = e ∧ pastOf ms' = es := by
  cases ms with
  | nil => simp [pastOf] at h
  | cons m ms =>
    have hlast : pastOf ms ++ [m.exchange] = es ++ [e] := by
      simpa [pastOf] using h
    obtain ⟨hes, he⟩ := List.append_inj' hlast rfl
    exact ⟨m, ms, rfl, List.singleton_inj.1 he, hes⟩

end Course

/-! The concrete object -/
section Prescribed
variable {t : Template k} {es : Dialogue k} {done : SyncOutcome}

theorem SyncEnds.exists_prescribed
    (h : SyncEnds t.metadata.key (k.mutate t.payload) es (.ok done)) :
    ∃ e ∈ es, ∀ w w' : World k, w.Answers e.request e.answer w' →
      ∃ c, w'.concretes.find? t.metadata.key = some c ∧ t.Prescribes c := by
  generalize hr : Except.ok done = r at h
  cases h with
  | unsighted f => cases hr
  | refused h => cases hr
  | @unchanged old c h hsame =>
    refine ⟨_, List.mem_singleton_self _, ?_⟩
    rintro w w' ⟨hserves, -⟩
    obtain ⟨hfind, hsame'⟩ := hserves.find?_eq
    exact ⟨old, by rw [hsame', hfind], c, h, hsame⟩
  | @created c h answer =>
    refine ⟨_, List.mem_cons_of_mem _ (List.mem_singleton_self _), ?_⟩
    rintro w w' ⟨hserves, -⟩
    cases answer with
    | error f => cases hr
    | ok stored =>
      generalize w'.concretes = store at hserves ⊢
      cases hserves.served with
      | created ho hfree =>
        cases ho
        exact ⟨_, Store.find?_assign_self _ _ _, Template.prescribes_of_mutate h _⟩
  | @updated old c h hne answer =>
    refine ⟨_, List.mem_cons_of_mem _ (List.mem_singleton_self _), ?_⟩
    rintro w w' ⟨hserves, -⟩
    cases answer with
    | error f => cases hr
    | ok stored =>
      generalize w'.concretes = store at hserves ⊢
      cases hserves.served with
      | @replaced _ _ stored' hfind hv =>
        have hall : w.concretes.replacement stored' (c.pin t.metadata.key) =
            c.pin t.metadata.key := ite_self _
        rw [hall]
        exact ⟨_, Store.find?_assign_self _ _ _, Template.prescribes_of_mutate h _⟩

theorem exists_prescribed_of_synchronization (h : t.synchronization.Ends es (.ok done)) :
    ∃ e ∈ es, ∀ w w' : World k, w.Answers e.request e.answer w' →
      ∃ c, w'.concretes.find? t.metadata.key = some c ∧ t.Prescribes c := by
  obtain ⟨n, -, earlier, es', rfl, -, hlast⟩ := ends_retryConflicts h
  obtain ⟨e, he, hprescribed⟩ := (ends_syncOnce hlast).exists_prescribed
  exact ⟨e, List.mem_append_right _ he, hprescribed⟩

end Prescribed

/-! The template -/

theorem World.Answers.replaced {o stored : Template k} {key : Key} {w w' : World k}
    (h : w.Answers (.template (.replace key o)) (.ok stored) w') :
    stored.isTied = o.isTied ∧ stored.metadata.key = o.metadata.key ∧
      stored.payload = o.payload ∧ stored.placement = o.placement := by
  obtain ⟨hserves, -⟩ := h
  generalize w'.templates = store at hserves
  cases hserves.served with
  | @replaced _ _ old hfind hv =>
    unfold Store.replacement
    split <;> exact ⟨rfl, rfl, rfl, rfl⟩

/-- When the status of the template that a pass fetched is written at this moment, its concrete
object has been there, and what is overwritten has the token and the same payload and placement. -/
structure Backed (t : Template k) (m : Moment k) (earlier : List (Moment k)) : Prop where
  materialized : ∃ m' ∈ earlier, ∃ c,
    m'.after.concretes.find? t.metadata.key = some c ∧ t.Prescribes c
  overwritten : ∃ o stored base, m.exchange = restated o (.ok stored) ∧
    o.metadata.key = t.metadata.key ∧
    m.before.templates.find? t.metadata.key = some base ∧ base.isTied = true ∧
    base.payload = t.payload ∧ base.placement = t.placement

section Backed
variable {key : Key} {w₀ w : World k} {later earlier : List (Moment k)} {m : Moment k}
  {p : Task k (Except Failure Unit)} {t current : Template k} {cluster : String} {es : Dialogue k}
  {done : SyncOutcome} {now : Instant}

theorem eq_ok_of_ready {outcome : Except Failure SyncOutcome}
    (h : (ClusterEntry.ofCondition (.ofOutcome k.concrete.kind outcome now)).state = .ready) :
    ∃ done, outcome = .ok done := by
  cases outcome with
  | error f => cases h
  | ok done => exact ⟨done, rfl⟩

theorem Course.backed {o stored : Template k} (hw : w₀.templates.Versioned)
    (h : Course key w₀ (later ++ m :: earlier) w p) (hm : m.exchange = restated o (.ok stored))
    (hpast : pastOf earlier = fetched key t :: named cluster :: (es ++ [timed now]))
    (hends : t.refreshed.materialize.Ends es (current, .ok done))
    (hkey : o.metadata.key = current.metadata.key) : Backed t m earlier := by
  obtain ⟨⟨next, hbefore⟩, hanswer⟩ := h.before
  have hmoment {e : Exchange (Request k) Request.Answer} (he : e ∈ es) : ∃ m' ∈ earlier,
      m'.exchange = e ∧ m'.before.Answers e.request e.answer m'.after :=
    hbefore.exists_moment (by simp [hpast, he])
  have hprescribed {es' : Dialogue k} (hsync : t.synchronization.Ends es' (.ok done))
      (hsub : ∀ e ∈ es', e ∈ es) : ∃ m' ∈ earlier, ∃ c,
        m'.after.concretes.find? t.metadata.key = some c ∧ t.Prescribes c := by
    obtain ⟨e, he, hthere⟩ := exists_prescribed_of_synchronization hsync
    obtain ⟨m', hm', -, hanswer'⟩ := hmoment (hsub e he)
    exact ⟨m', hm', hthere _ _ hanswer'⟩
  obtain ⟨e, before, after⟩ := m
  cases hm
  rcases (hbefore.sound hw).overwrites (List.mem_singleton_self _) hanswer with
    ⟨hnone, -⟩ | ⟨call, base, hcall, hlast, -, hfind, -, -⟩
  · cases hnone
  cases hcall
  rw [hpast] at hlast
  have hfind : before.templates.find? o.metadata.key = some base := hfind
  cases Template.ends_materialize hends with
  | tied hsync htied =>
    have hnone : lastCopy? es = none := lastCopy?_synchronization hsync
    have hbase : t = base := by
      simpa [lastCopy?_cons, lastCopy?_append, hnone] using hlast
    subst hbase
    exact ⟨hprescribed hsync fun _ he => he, o, stored, t, rfl, hkey, hkey ▸ hfind,
      (Template.isTied_refreshed t).symm.trans htied, rfl, rfl⟩
  | @tieWritten es' _ _ hsync htied =>
    have hbase : current = base := by
      simpa [lastCopy?_cons, lastCopy?_append] using hlast
    subst hbase
    obtain ⟨m', -, -, hanswer'⟩ := hmoment (List.mem_append_right es' (List.mem_singleton_self _))
    obtain ⟨htied', hkey', hpayload, hplacement⟩ := World.Answers.replaced hanswer'
    have haddress : o.metadata.key = t.metadata.key := hkey.trans hkey'
    exact ⟨hprescribed hsync fun _ he => List.mem_append_left _ he, o, stored, current, rfl,
      haddress, haddress ▸ hfind, htied'.trans Template.isTied_tie, hpayload, hplacement⟩

/-- A status that is written right after the clock was read is an outcome. If it says that the
cluster is ready, that is backed. -/
theorem Course.backed_of_written {o stored : Template k} (hw : w₀.templates.Versioned)
    (h : Course key w₀ (later ++ m :: earlier) w p) (hm : m.exchange = restated o (.ok stored))
    (hpast : pastOf earlier = es ++ [timed now]) :
    ∃ t cluster es', es = fetched key t :: named cluster :: es' ∧
      ((∃ e, o.entryOf? cluster = some e ∧ e.state = .ready) → Backed t m earlier) := by
  have hasks := h.asks hw
  rw [hm, hpast] at hasks
  have hcall := templateCall_of_asks hasks
  generalize hes : es ++ [timed now] = past at hcall
  generalize hput : StoreCall.replaceStatus o.metadata.key o = call at hcall
  cases hcall with
  | fetch => cases hput
  | retire hdel htied => cases hput
  | @restate t cluster hdel hplaced =>
    obtain ⟨-, hlast⟩ := List.append_inj'
      (show es ++ [timed now] = [fetched key t] ++ [named cluster] from hes) rfl
    cases hlast
  | prune hdel hplaced htied => cases hput
  | pruneRestated hdel hplaced htied => cases hput
  | tie hdel hplaced hsync htied => cases hput
  | @record t current cluster es' outcome now' hdel hplaced hends =>
    obtain ⟨hkey, rfl⟩ := StoreCall.replaceStatus.inj hput
    obtain ⟨rfl, hlast⟩ := List.append_inj'
      (show es ++ [timed now] = (fetched key t :: named cluster :: es') ++ [timed now'] from hes)
      rfl
    refine ⟨t, cluster, es', rfl, ?_⟩
    rintro ⟨e, he, hready⟩
    obtain ⟨e', he', hstate, -⟩ := current.entryOf?_withOutcome_self cluster
      (.ofOutcome k.concrete.kind outcome now')
    cases he.symm.trans he'
    obtain ⟨done, rfl⟩ := eq_ok_of_ready (hstate.symm.trans hready)
    exact h.backed hw hm hpast hends rfl

theorem Course.backed_of_reported {r : Report} (hw : w₀.templates.Versioned)
    (h : Course key w₀ (later ++ m :: earlier) w p) (hm : m.exchange.request = .report r) :
    ∃ t es, pastOf earlier = fetched key t :: named r.cluster :: es ∧
      (r.entry.state = .ready →
        ∃ m' earlier', earlier = m' :: earlier' ∧ Backed t m' earlier') := by
  have hasks := h.asks hw
  rw [hm] at hasks
  obtain ⟨t, current, stored, cluster, es, outcome, now, hpast, hends, rfl⟩ :=
    (reportCall_of_asks hasks).exists_restated
  refine ⟨t, _, hpast, ?_⟩
  intro hready
  obtain ⟨done, rfl⟩ := eq_ok_of_ready hready
  obtain ⟨m', earlier', rfl, hm', hpast'⟩ := eq_cons_of_pastOf hpast
  have hcourse : Course key w₀ ((later ++ [m]) ++ m' :: earlier') w p := by
    simpa using h
  exact ⟨m', earlier', rfl, hcourse.backed hw hm' hpast' hends rfl⟩

end Backed

/-- Take any pass, with any failures and any changes by others between its exchanges. If it has a
status accepted right after it read the clock, that is, in answer to its own outcome, and this says
that its cluster is ready, or if it reports that the cluster is ready after such a write, then the
concrete object was stored in the prescribed form before that, and the write overwrites a template
with the token and with the payload and the placement of the fetched one. -/
theorem ready_is_sound {key : Key} {w₀ w : World k} {later earlier : List (Moment k)}
    {m : Moment k} {p : Task k (Except Failure Unit)} (hw : w₀.templates.Versioned)
    (h : Course key w₀ (later ++ m :: earlier) w p) :
    (∀ o stored es now, m.exchange = restated o (.ok stored) → pastOf earlier = es ++ [timed now] →
      ∃ t cluster es', es = fetched key t :: named cluster :: es' ∧
        ((∃ e, o.entryOf? cluster = some e ∧ e.state = .ready) → Backed t m earlier)) ∧
    ∀ r, m.exchange.request = .report r →
      ∃ t es, pastOf earlier = fetched key t :: named r.cluster :: es ∧
        (r.entry.state = .ready →
          ∃ m' earlier', earlier = m' :: earlier' ∧ Backed t m' earlier') :=
  ⟨fun _ _ _ _ hm hpast => h.backed_of_written hw hm hpast, fun _ hm => h.backed_of_reported hw hm⟩

/-- The moments of a run in which nobody else writes, the first one first. -/
def momentsOf {α : Type} (cluster : String) (now : Instant) : Task k α → World k → List (Moment k)
  | .done _, _ => []
  | .ask q next, w =>
    let (r, w') := World.serve cluster now q w
    ⟨⟨q, r⟩, w, w'⟩ :: momentsOf cluster now (next r) w'

theorem Course.alone {key : Key} {w₀ w : World k} {ms : List (Moment k)}
    {p : Task k (Except Failure Unit)} (cluster : String) (now : Instant)
    (h : Course key w₀ ms w p) :
    Course key w₀ ((momentsOf cluster now p w).reverse ++ ms)
      (p.run (World.serve cluster now) w).2 (.done (p.run (World.serve cluster now) w).1) := by
  induction p generalizing ms w with
  | done a => exact h
  | ask q next ih =>
    have hnext := ih _ (h.exchange _ (World.answers_serve cluster now q w))
    simpa [momentsOf] using hnext

def untiedWorld : World .configMap := ⟨((Store.empty true).put untiedSettings).2, .empty false⟩

/-- The pass over the settings reports that they are ready, and they are. -/
theorem ready_settings_are_backed : ∃ m earlier w p r t,
    Course ⟨"apps", "settings"⟩ untiedWorld ([] ++ m :: earlier) w p ∧
    m.exchange.request = .report r ∧ r.entry.state = .ready ∧
    ∃ m' earlier', earlier = m' :: earlier' ∧ Backed t m' earlier' := by
  have hstart : Course ⟨"apps", "settings"⟩ untiedWorld [] untiedWorld _ := .start
  have h := hstart.alone "east" default
  obtain ⟨m, earlier, r, hms, hm, hready⟩ : ∃ m earlier r,
      (momentsOf "east" default (reconcile ⟨"apps", "settings"⟩).run untiedWorld).reverse =
        m :: earlier ∧ m.exchange.request = .report r ∧ r.entry.state = .ready :=
    ⟨_, _, _, rfl, rfl, by decide +kernel⟩
  rw [List.append_nil, hms] at h
  have hcourse : Course ⟨"apps", "settings"⟩ untiedWorld ([] ++ m :: earlier) _ _ := h
  have hversioned : untiedWorld.templates.Versioned := (Store.versioned_empty true).assign _ _
  obtain ⟨t, -, -, hbacked⟩ := (ready_is_sound hversioned hcourse).2 r hm
  exact ⟨m, earlier, _, _, r, t, hcourse, hm, hready, hbacked hready⟩

end FleetSync
