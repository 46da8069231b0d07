import FleetSync.Kind.ConfigMap
import FleetSync.Proofs.Entries
import FleetSync.Proofs.Interleaving

/-!
# No report is lost

Passes and recorded reports write the status of the same template, each from a copy that it read
before. An accepted write overwrites exactly the copy that it was made of, so it keeps what every
other cluster reported. A cluster's entry therefore says at any time what the last accepted report
on the cluster said.
-/
namespace FleetSync

variable {k : Kind}

theorem entryOf?_of_ends_materialize {key : Key} {t base current : Template k} {cluster : String}
    {es : Dialogue k} {outcome : Except Failure SyncOutcome} {now : Instant}
    (h : t.refreshed.materialize.Ends es (current, outcome))
    (hlast : lastCopy? (fetched key t :: named cluster :: (es ++ [timed now])) = some base)
    (d : String) : current.entryOf? d = base.entryOf? d := by
  rcases (Template.ends_materialize h).lastCopy? with ⟨hnone, rfl⟩ | hsome
  · simp [lastCopy?_cons, lastCopy?_append, hnone] at hlast
    rw [Template.entryOf?_refreshed, hlast]
  · simp [lastCopy?_cons, lastCopy?_append, hsome] at hlast
    rw [hlast]

/-! Reports -/
namespace Event

/-- A report on a cluster, which says this, was accepted for the template at an address: one that
was being recorded, or the outcome of a pass of that cluster. -/
inductive Reports (key : Key) (cluster : String) : Event k → ClusterEntry → Prop
  | absorbed {r : Report} {past : Dialogue k} {o stored : Template k} (hkey : r.key = key)
      (hcluster : r.cluster = cluster) :
      Reports key cluster
        (.exchange (.record r) past ⟨.template (.replaceStatus key o), .ok stored⟩) r.entry
  | recorded {passKey : Key} {t current o stored : Template k} {es : Dialogue k}
      {outcome : Except Failure SyncOutcome} {now : Instant}
      (h : t.refreshed.materialize.Ends es (current, outcome)) :
      Reports key cluster
        (.exchange (.pass passKey) (fetched passKey t :: named cluster :: (es ++ [timed now]))
          ⟨.template (.replaceStatus key o), .ok stored⟩)
        (.ofCondition (.ofOutcome k.concrete.kind outcome now))

def Removes (key : Key) : Event k → Prop
  | .exchange _ _ _ => False
  | .interference _ after => after.templates.find? key = none

theorem Reports.stored {key : Key} {cluster : String} {a : Activity k} {past : Dialogue k}
    {x : Exchange (Request k) Request.Answer} {e : ClusterEntry}
    (h : (Event.exchange a past x).Reports key cluster e) :
    ∃ t, x.stored? = some (key, t) := by
  cases h with
  | absorbed => exact ⟨_, rfl⟩
  | recorded => exact ⟨_, rfl⟩

theorem Reports.replacesStatus {key : Key} {cluster : String} {a : Activity k} {past : Dialogue k}
    {x : Exchange (Request k) Request.Answer} {e : ClusterEntry}
    (h : (Event.exchange a past x).Reports key cluster e) :
    ∃ o, x.request = .template (.replaceStatus key o) := by
  cases h with
  | absorbed => exact ⟨_, rfl⟩
  | recorded => exact ⟨_, rfl⟩

end Event

/-- An entry follows from a history and from what it was at its beginning: it says what the last
report on the cluster said, or it is as it was if there was none. -/
def LastReported (key : Key) (cluster : String) (h : List (Event k))
    (initial entry : Option ClusterEntry) : Prop :=
  (∃ newer ev older reported e, h = newer ++ ev :: older ∧ ev.Reports key cluster reported ∧
    (∀ ev' ∈ newer, ∀ r, ¬ev'.Reports key cluster r) ∧
    entry = some e ∧ e.state = reported.state ∧ e.message = reported.message) ∨
  (∀ ev ∈ h, ∀ r, ¬ev.Reports key cluster r) ∧ entry = initial

inductive Tells (key : Key) (cluster : String) (ev : Event k) (old : Option ClusterEntry) :
    Option ClusterEntry → Prop
  | report {reported e} (h : ev.Reports key cluster reported) (hstate : e.state = reported.state)
      (hmessage : e.message = reported.message) : Tells key cluster ev old (some e)
  | nothing (h : ∀ r, ¬ev.Reports key cluster r) : Tells key cluster ev old old

theorem LastReported.cons {key : Key} {cluster : String} {h : List (Event k)} {ev : Event k}
    {initial old new : Option ClusterEntry} (hold : LastReported key cluster h initial old)
    (htells : Tells key cluster ev old new) : LastReported key cluster (ev :: h) initial new := by
  cases htells with
  | report hev hstate hmessage =>
    exact .inl ⟨[], ev, h, _, _, rfl, hev, fun _ h => (List.not_mem_nil h).elim, rfl, hstate,
      hmessage⟩
  | nothing hev =>
    rcases hold with ⟨newer, ev', older, reported, e, rfl, hev', hnewer, he⟩ | ⟨hnone, rfl⟩
    · refine .inl ⟨ev :: newer, ev', older, reported, e, rfl, hev', ?_, he⟩
      intro ev'' hev''
      rcases List.mem_cons.1 hev'' with rfl | hev''
      · exact hev
      · exact hnewer ev'' hev''
    · refine .inr ⟨?_, rfl⟩
      intro ev' hev'
      rcases List.mem_cons.1 hev' with rfl | hev'
      · exact hev
      · exact hnone ev' hev'

/-! Writes -/
section Writes
variable {s : Store (Template k)} {base o : Template k} {key : Key} {d : String}

theorem entryOf?_assign (s : Store (Template k)) (key : Key) (t : Template k) :
    (s.assign key t).1.entryOf? d = t.entryOf? d := rfl

theorem entryOf?_restatement : (s.restatement base o).entryOf? d = o.entryOf? d := by
  unfold Store.restatement
  split
  · exact Template.entryOf?_eq_of_status rfl
  · rfl

theorem entryOf?_replacement (h : base.Drafts (.replace key o)) :
    (s.replacement base o).entryOf? d = base.entryOf? d := by
  unfold Store.replacement
  split
  · exact Template.entryOf?_eq_of_status rfl
  · cases h with
    | tie h => rfl
    | untie ht h => rcases ht with rfl | rfl <;> rfl

theorem tells_of_recordReport {r : Report} {past : Dialogue k} {stored : Template k}
    (hasks : (Activity.record r).task.Asks past (.template (.replaceStatus key o)))
    (hlast : lastCopy? past = some base) (d : String) :
    Tells key d (.exchange (.record r) past ⟨.template (.replaceStatus key o), .ok stored⟩)
      (base.entryOf? d) (o.entryOf? d) := by
  rcases asks_recordReport hasks with h | ⟨pause, h⟩ | ⟨earlier, t, rfl, -, h⟩
  · cases h
  · cases h
  · cases h
    simp [lastCopy?_append, lastCopy?_cons] at hlast
    subst hlast
    by_cases hd : d = r.cluster
    · subst hd
      obtain ⟨e, he, hstate, hmessage⟩ := t.entryOf?_withReport_self r
      rw [he]
      exact .report (.absorbed rfl rfl) hstate hmessage
    · rw [Template.entryOf?_withReport_ne hd]
      apply Tells.nothing
      intro e h
      cases h with
      | absorbed hkey hcluster => exact hd hcluster.symm

theorem tells_of_reconcile {passKey : Key} {past : Dialogue k} {stored : Template k}
    (hasks : (reconcile passKey).run.Asks past (.template (.replaceStatus key o)))
    (hlast : lastCopy? past = some base) (d : String) :
    Tells key d (.exchange (.pass passKey) past ⟨.template (.replaceStatus key o), .ok stored⟩)
      (base.entryOf? d) (o.entryOf? d) := by
  cases templateCall_of_asks hasks with
  | @restate t cluster hdel hplaced =>
    simp [lastCopy?_cons] at hlast
    subst hlast
    rw [Template.entryOf?_refreshed]
    apply Tells.nothing
    intro e h
    generalize hpast : [fetched passKey t, named cluster] = past at h
    cases h with
    | recorded h => simp at hpast
  | @record t current cluster es outcome now hdel hplaced hends =>
    have hcurrent := entryOf?_of_ends_materialize hends hlast d
    by_cases hd : d = cluster
    · subst hd
      obtain ⟨e, he, hstate, hmessage⟩ := current.entryOf?_withOutcome_self d
        (.ofOutcome k.concrete.kind outcome now)
      rw [he]
      exact .report (.recorded hends) hstate hmessage
    · rw [Template.entryOf?_withOutcome_ne hd, hcurrent]
      apply Tells.nothing
      intro e h
      generalize hpast : fetched passKey t :: named cluster :: (es ++ [timed now]) = past at h
      cases h with
      | recorded h =>
        have hnamed := (List.cons.inj (List.cons.inj hpast).2).1
        cases hnamed
        exact hd rfl

/-- An accepted write tells of a cluster what it reports on it, and nothing of the other
clusters. -/
theorem tells_of_stored {a : Activity k} {past : Dialogue k} {call : StoreCall (Template k)}
    {r : call.Answer} {stored : Template k} (hasks : a.task.Asks past (.template call))
    (hlast : lastCopy? past = some base) (hdraft : base.Drafts call)
    (hstored : Exchange.stored? ⟨.template call, r⟩ = some (call.key, stored)) (d : String) :
    Tells call.key d (.exchange a past ⟨.template call, r⟩) (base.entryOf? d)
      ((s.revision call base).entryOf? d) := by
  cases call with
  | get key => cases hdraft
  | create ns o => cases hdraft
  | delete key => cases hdraft
  | replace key o =>
    have hentry : (s.revision (.replace key o) base).entryOf? d = base.entryOf? d :=
      entryOf?_replacement hdraft
    rw [hentry]
    apply Tells.nothing
    intro e h
    obtain ⟨o', ho'⟩ := h.replacesStatus
    cases ho'
  | replaceStatus key o =>
    have hentry : (s.revision (.replaceStatus key o) base).entryOf? d = o.entryOf? d :=
      entryOf?_restatement
    rw [hentry]
    cases r with
    | error f => cases hstored
    | ok stored =>
      cases a with
      | record r => exact tells_of_recordReport hasks hlast d
      | pass passKey => exact tells_of_reconcile hasks hlast d

end Writes

/-! Runs -/

/-- Others leave the status of a template as it is. -/
def KeepsStatus (old : Option (Template k)) (new : Template k) : Prop :=
  ∀ t, old = some t → new.status = t.status

section Run
variable {s₀ s : System k} {h : List (Event k)} {key : Key}

/-- An accepted write of a thread overwrites exactly the copy that it was made of, which is the
last one that the thread received. -/
theorem System.Sound.overwrites_copy {a : Activity k} {past : Dialogue k}
    {call : StoreCall (Template k)} {next : call.Answer → Task k (Except Failure a.Result)}
    {r : call.Answer} {stored : Template k} {store : Store (Template k)} (hs : s.Sound)
    (hthread : ⟨a, past, .ask (.template call) next⟩ ∈ s.threads)
    (hserves : s.world.templates.Serves call r store)
    (hstored : Exchange.stored? ⟨.template call, r⟩ = some (key, stored)) :
    ∃ base, lastCopy? past = some base ∧ base.Drafts call ∧
      s.world.templates.find? key = some base := by
  have hanswer : s.world.Answers (.template call) r { s.world with templates := store } :=
    ⟨hserves, rfl⟩
  rcases hs.overwrites hthread hanswer with ⟨hnone, -⟩ |
    ⟨call', base, hcall, hlast, hdraft, hfind, hstored', -⟩
  · rw [hnone] at hstored
    cases hstored
  · cases hcall
    rw [hstored] at hstored'
    cases hstored'
    exact ⟨base, hlast, hdraft, hfind⟩

theorem System.Sound.tells_of_exchange {w : World k} {t : Template k} {a : Activity k}
    {past : Dialogue k} {q : Request k} {next : q.Answer → Task k (Except Failure a.Result)}
    {r : q.Answer} (hs : s.Sound) (hthread : ⟨a, past, .ask q next⟩ ∈ s.threads)
    (hanswer : s.world.Answers q r w) (ht : s.world.templates.find? key = some t) :
    ∃ t', w.templates.find? key = some t' ∧ ∀ cluster,
      Tells key cluster (.exchange a past ⟨q, r⟩) (t.entryOf? cluster) (t'.entryOf? cluster) := by
  rcases hs.overwrites_at hthread hanswer key with ⟨hsame, hnot⟩ |
    ⟨call, base, rfl, rfl, hbase, hdraft, hfind, hstored, hw⟩
  · refine ⟨t, hsame.trans ht, fun cluster => .nothing fun e hreports => ?_⟩
    obtain ⟨t', ht'⟩ := hreports.stored
    exact hnot t' ht'
  · cases ht.symm.trans hfind
    refine ⟨_, hw, fun cluster => ?_⟩
    rw [entryOf?_assign]
    exact tells_of_stored ⟨next, hs.after _ hthread⟩ hbase hdraft hstored cluster

theorem tells_of_interference {w w' : World k} {t : Template k}
    (hmeddles : w.templates.Meddles KeepsStatus w'.templates)
    (ht : w.templates.find? key = some t) (hkept : ¬(Event.interference w w').Removes key) :
    ∃ t', w'.templates.find? key = some t' ∧ ∀ cluster,
      Tells key cluster (.interference w w') (t.entryOf? cluster) (t'.entryOf? cluster) := by
  obtain ⟨t', ht'⟩ := Option.ne_none_iff_exists'.1 hkept
  have hstatus : t'.status = t.status := by
    rcases hmeddles.find? ht' with hsame | ⟨o, hkeeps, rfl⟩
    · cases hsame.symm.trans ht
      rfl
    · exact hkeeps t ht
  refine ⟨t', ht', fun cluster => ?_⟩
  rw [Template.entryOf?_eq_of_status hstatus]
  exact .nothing nofun

/-- As long as others leave the status alone and do not remove the template, each of its entries
follows from the reports. -/
theorem Run.lastReported (hrun : Run KeepsStatus s₀ h s) (h₀ : s₀.Sound) {t₀ : Template k}
    (ht₀ : s₀.world.templates.find? key = some t₀) (hkept : ∀ ev ∈ h, ¬ev.Removes key) :
    ∃ t, s.world.templates.find? key = some t ∧
      ∀ cluster, LastReported key cluster h (t₀.entryOf? cluster) (t.entryOf? cluster) := by
  induction hrun with
  | init =>
    exact ⟨t₀, ht₀, fun cluster => .inr ⟨fun _ h => (List.not_mem_nil h).elim, rfl⟩⟩
  | start a hrun ih => exact ih hkept
  | @exchange h s w l₁ l₂ a past q next r hrun hthreads hanswer ih =>
    obtain ⟨t, ht, hlast⟩ := ih fun ev hev => hkept ev (List.mem_cons_of_mem _ hev)
    have hthread : (⟨a, past, .ask q next⟩ : Thread k) ∈ s.threads := by simp [hthreads]
    obtain ⟨t', ht', htells⟩ := (hrun.sound h₀).tells_of_exchange hthread hanswer ht
    exact ⟨t', ht', fun cluster => (hlast cluster).cons (htells cluster)⟩
  | @interfere h s w hrun hmeddles ih =>
    obtain ⟨t, ht, hlast⟩ := ih fun ev hev => hkept ev (List.mem_cons_of_mem _ hev)
    obtain ⟨t', ht', htells⟩ := tells_of_interference hmeddles ht (hkept _ List.mem_cons_self)
    exact ⟨t', ht', fun cluster => (hlast cluster).cons (htells cluster)⟩

end Run

/-- Take any run of passes and recorded reports over one store of templates, with failing calls and
with others who leave the status alone. An accepted write overwrites exactly the copy that it was
made of. From any moment on, as long as the template is not removed, the entry of a cluster says
what the last accepted report on it said, and it is as it was if there was none. -/
theorem reports_are_not_lost {w : World k} {past h : List (Event k)} {s₀ s : System k}
    (hw : w.templates.Versioned) (hpast : Run KeepsStatus (.atRest w) past s₀)
    (hrun : Run KeepsStatus s₀ h s) :
    (∀ a past call next, (⟨a, past, .ask (.template call) next⟩ : Thread k) ∈ s.threads →
      ∀ r store key stored, s.world.templates.Serves call r store →
        Exchange.stored? ⟨.template call, r⟩ = some (key, stored) →
        ∃ base, lastCopy? past = some base ∧ base.Drafts call ∧
          s.world.templates.find? key = some base) ∧
    ∀ key t₀, s₀.world.templates.find? key = some t₀ → (∀ ev ∈ h, ¬ev.Removes key) →
      ∃ t, s.world.templates.find? key = some t ∧
        ∀ cluster, LastReported key cluster h (t₀.entryOf? cluster) (t.entryOf? cluster) := by
  have h₀ : s₀.Sound := hpast.sound (System.sound_atRest hw)
  refine ⟨?_, fun key t₀ ht₀ hkept => hrun.lastReported h₀ ht₀ hkept⟩
  intro a past call next hthread r store key stored hserves hstored
  exact (hrun.sound h₀).overwrites_copy hthread hserves hstored

def sharedSettings : Template .configMap :=
  ⟨{ name := some "settings", ns := some "apps" }, ⟨default, none, none, none⟩,
    ⟨["east", "west"]⟩, none⟩

def reportOfWest : Report where
  kind := Kind.configMap.template.kind
  key := ⟨"apps", "settings"⟩
  cluster := "west"
  condition := ⟨.deployComplete, .isTrue, "ConfigMap created", default⟩
  entry := ⟨.ready, some "ConfigMap created", none⟩

/-- The report is recorded while nothing else goes on. -/
theorem a_report_is_not_lost : ∃ h s t,
    Run KeepsStatus (.atRest ⟨((Store.empty true).put sharedSettings).2, .empty false⟩) h s ∧
      s.world.templates.find? ⟨"apps", "settings"⟩ = some t ∧ (t.entryOf? "west").isSome = true ∧
      ∀ cluster, LastReported ⟨"apps", "settings"⟩ cluster h none (t.entryOf? cluster) := by
  have hstart : Run KeepsStatus
      (.atRest ⟨((Store.empty true).put sharedSettings).2, .empty false⟩) _ _ :=
    .start (.record reportOfWest) .init
  obtain ⟨h, past, hexchanges, hrun⟩ := hstart.alone "east" default
  have hkept : ∀ ev ∈ h ++ [], ¬ev.Removes ⟨"apps", "settings"⟩ := by
    intro ev hev
    rw [List.append_nil] at hev
    obtain ⟨past, e, rfl⟩ := hexchanges ev hev
    exact id
  obtain ⟨t, ht, hlast⟩ := (reports_are_not_lost ((Store.versioned_empty true).assign _ _)
    .init hrun).2 _ _ rfl hkept
  refine ⟨_, _, t, hrun, ht, ?_, hlast⟩
  cases ht
  decide +kernel

end FleetSync
