import Mathlib.Logic.Relation
import FleetSync.Channel
import FleetSync.Proofs.Readiness
import FleetSync.Proofs.Reports

/-!
# Cluster and aggregator agree

A cluster folds the outcome of a pass into its own copy of a template and sends a report, which the
aggregator folds into another copy. Both keep an entry that the new one repeats. So what the
aggregator has of a cluster, folded with the reports that are on their way, is what the cluster
itself has; and once nothing is on its way, they have the same.
-/
namespace FleetSync

variable {k : Kind}

/-- The entry of a cluster at an address after a report, which may be about something else. -/
def Report.amend (kind : String) (key : Key) (cluster : String) (entry : Option ClusterEntry)
    (r : Report) : Option ClusterEntry :=
  if r.kind = kind ∧ r.key = key ∧ r.cluster = cluster then ClusterEntry.upsert entry r.entry
  else entry

namespace Report
variable {kind : String} {key : Key} {cluster : String} {entry : Option ClusterEntry} {r : Report}

theorem amend_self : amend r.kind r.key r.cluster entry r = ClusterEntry.upsert entry r.entry :=
  if_pos ⟨rfl, rfl, rfl⟩

theorem amend_of_kind_ne (h : r.kind ≠ kind) : amend kind key cluster entry r = entry :=
  if_neg fun hr => h hr.1

theorem amend_of_key_ne (h : r.key ≠ key) : amend kind key cluster entry r = entry :=
  if_neg fun hr => h hr.2.1

theorem amend_of_cluster_ne (h : r.cluster ≠ cluster) : amend kind key cluster entry r = entry :=
  if_neg fun hr => h hr.2.2

theorem amend_amend :
    amend kind key cluster (amend kind key cluster entry r) r = amend kind key cluster entry r := by
  unfold amend
  split
  · exact ClusterEntry.upsert_upsert entry r.entry
  · rfl

end Report

theorem Store.find?_assign_over {s : Store (Template k)} {address key : Key} {base t : Template k}
    (hbase : s.find? key = some base) (hfind : s.find? address = some t) (o : Template k) :
    (address = key ∧ t = base ∧
        (s.assign key o).2.find? address = some (s.assign key o).1) ∨
      address ≠ key ∧ (s.assign key o).2.find? address = some t := by
  rw [find?_assign]
  by_cases haddress : address = key
  · subst haddress
    exact .inl ⟨rfl, Option.some.inj (hfind.symm.trans hbase), if_pos rfl⟩
  · exact .inr ⟨haddress, (if_neg haddress).trans hfind⟩

/-- What a program is about to send. -/
def unsent {α : Type} : Task k α → List Report
  | .ask (.report r) _ => [r]
  | _ => []

@[simp] theorem unsent_report {α : Type} (r : Report) (next : Unit → Task k α) :
    unsent (.ask (.report r) next) = [r] := rfl

@[simp] theorem unsent_done {α : Type} (a : α) : unsent (.done a : Task k α) = [] := rfl

/-! The pass -/
section Pass
variable {key address : Key} {cluster : String} {past : Dialogue k}
  {e : Exchange (Request k) Request.Answer} {base t : Template k} {r : Report}

theorem ReportCall.eq_restated (h : ReportCall key (past ++ [e]) r) :
    ∃ current stored cluster es outcome now t, past =
        fetched key t :: named cluster :: (es ++ [timed now]) ∧
      e = restated (current.withOutcome cluster (.ofOutcome k.concrete.kind outcome now))
        (.ok stored) ∧
      t.refreshed.materialize.Ends es (current, outcome) ∧
      r = current.reportOf cluster (.ofOutcome k.concrete.kind outcome now) := by
  obtain ⟨t, current, stored, cluster, es, outcome, now, hpast, hends, hr⟩ := h.exists_restated
  obtain ⟨rfl, hlast⟩ := List.append_inj' hpast rfl
  exact ⟨current, stored, cluster, es, outcome, now, t, rfl, List.singleton_inj.1 hlast, hends, hr⟩

theorem unsent_of_not_stored {p : Task k (Except Failure Unit)}
    (h : (reconcile key).run.After (past ++ [e]) p) (he : e.stored? = none) : unsent p = [] := by
  cases p with
  | done a => rfl
  | ask q next =>
    cases q with
    | report r =>
      obtain ⟨current, stored, cluster, es, outcome, now, t, -, rfl, -⟩ :=
        (reportCall_of_asks ⟨next, h⟩).eq_restated
      cases he
    | template call => rfl
    | concrete call => rfl
    | clusterName => rfl
    | now => rfl
    | pause d => rfl

theorem Template.asks_report_of_recordOutcome {persisted : FleetStatus} {c : Condition}
    (hchanged : (t.withOutcome cluster c).status ≠ some persisted) (stored : Template k) :
    (t.recordOutcome persisted cluster c).run.Asks [restated (t.withOutcome cluster c) (.ok stored)]
      (.report (t.reportOf cluster c)) := by
  unfold Template.recordOutcome
  simp only [if_neg hchanged]
  refine Program.asks_attempt_bind.2 (.inr ⟨_, [], stored, rfl, Program.ends_send.2 rfl, ?_⟩)
  exact Program.asks_attempt_bind.2 (.inl (Program.asks_map.2 (Program.asks_send.2 ⟨rfl, rfl⟩)))

theorem Template.asks_deploy_of_recordOutcome {current : Template k} {es es' : Dialogue k}
    {outcome : Except Failure SyncOutcome} {persisted : FleetStatus} {now : Instant}
    {q : Request k} (hends : t.materialize.Ends es (current, outcome))
    (h : (current.recordOutcome persisted cluster
      (.ofOutcome k.concrete.kind outcome now)).run.Asks es' q) :
    (t.deploy persisted cluster).run.Asks (es ++ timed now :: es') q := by
  unfold Template.deploy
  refine Program.asks_attempt_bind.2 (.inr ⟨es, _, (current, outcome), rfl,
    Program.ends_map.2 ⟨_, hends, rfl⟩, ?_⟩)
  refine Program.asks_attempt_bind.2 (.inr ⟨[timed now], _, now, rfl,
    Program.ends_map.2 ⟨now, Program.ends_send.2 rfl, rfl⟩, ?_⟩)
  exact Program.asks_attempt_bind.2 (.inl h)

theorem asks_reconcile_of_deploy {es : Dialogue k} {q : Request k}
    (hdel : t.metadata.isDeleting = false) (hplaced : t.placement.places cluster = true)
    (h : (t.refreshed.deploy t.currentStatus cluster).run.Asks es q) :
    (reconcile key).run.Asks (fetched key t :: named cluster :: es) q := by
  unfold reconcile
  refine Program.asks_attempt_bind.2 (.inr ⟨[fetched key t], _, some t, rfl,
    Program.ends_send.2 rfl, ?_⟩)
  refine Program.asks_tryCatch.2 (.inl ?_)
  unfold Template.process
  rw [if_neg (by simp [hdel])]
  refine Program.asks_attempt_bind.2 (.inr ⟨[named cluster], es, cluster, rfl,
    Program.ends_send.2 rfl, ?_⟩)
  simp only [if_pos hplaced]
  exact h

theorem asks_report_of_restated {current : Template k} {es : Dialogue k}
    {outcome : Except Failure SyncOutcome} {now : Instant}
    (hdel : t.metadata.isDeleting = false) (hplaced : t.placement.places cluster = true)
    (hends : t.refreshed.materialize.Ends es (current, outcome))
    (hchanged : (current.withOutcome cluster
      (.ofOutcome k.concrete.kind outcome now)).status ≠ some t.currentStatus)
    (stored : Template k) :
    (reconcile key).run.Asks ((fetched key t :: named cluster :: (es ++ [timed now])) ++ [restated
        (current.withOutcome cluster (.ofOutcome k.concrete.kind outcome now)) (.ok stored)])
      (.report (current.reportOf cluster (.ofOutcome k.concrete.kind outcome now))) := by
  rw [List.cons_append, List.cons_append, List.append_assoc]
  exact asks_reconcile_of_deploy hdel hplaced (Template.asks_deploy_of_recordOutcome hends
    (Template.asks_report_of_recordOutcome hchanged stored))

theorem entryOf?_of_unreported {s : Store (Template k)} {call : StoreCall (Template k)}
    {a : call.Answer} {stored : Template k}
    (hasks : (reconcile key).run.Asks past (.template call)) (hlast : lastCopy? past = some base)
    (hdraft : base.Drafts call)
    (hstored : Exchange.stored? ⟨.template call, a⟩ = some (call.key, stored))
    (hnot : ∀ r, ¬(reconcile key).run.Asks (past ++ [⟨.template call, a⟩]) (.report r)) :
    (s.revision call base).entryOf? cluster = base.entryOf? cluster := by
  cases call with
  | get key => cases hdraft
  | create ns o => cases hdraft
  | delete key => cases hdraft
  | replace address o => exact entryOf?_replacement hdraft
  | replaceStatus address o =>
    refine entryOf?_restatement.trans ?_
    obtain ⟨stored', rfl⟩ : ∃ stored', a = .ok stored' := by
      cases a with
      | error f => cases hstored
      | ok stored' => exact ⟨stored', rfl⟩
    have hpass := asks_reconcile hasks
    generalize hq : Request.template (.replaceStatus address o) = q at hpass
    cases hpass with
    | fetch => cases hq
    | retire hdel h => cases h <;> cases hq
    | identify hdel => cases hq
    | proceed hdel h =>
      cases h with
      | restate hplaced hstate =>
        cases hq
        simp [lastCopy?_cons] at hlast
        rw [Template.entryOf?_refreshed, hlast]
      | prune hplaced hstate h => cases h <;> cases hq
      | pruneRestated hplaced hstate h => cases h <;> cases hq
      | synchronize hplaced h =>
        subst hq
        cases asks_synchronize h
      | tie hplaced h htied => cases hq
      | clock hplaced h => cases hq
      | record hplaced h hchanged =>
        cases hq
        exact (hnot _ (asks_report_of_restated hdel hplaced h hchanged stored')).elim
      | report hplaced h hchanged => cases hq

theorem unsent_cases {α : Type} (p : Task k α) :
    (∃ r next, p = .ask (.report r) next) ∨
      unsent p = [] ∧ ∀ r next, p ≠ .ask (.report r) next := by
  cases p with
  | done a => exact .inr ⟨rfl, fun _ _ h => by cases h⟩
  | ask q next =>
    cases q with
    | report r => exact .inl ⟨r, next, rfl⟩
    | template call => exact .inr ⟨rfl, fun _ _ h => by cases h⟩
    | concrete call => exact .inr ⟨rfl, fun _ _ h => by cases h⟩
    | clusterName => exact .inr ⟨rfl, fun _ _ h => by cases h⟩
    | now => exact .inr ⟨rfl, fun _ _ h => by cases h⟩
    | pause d => exact .inr ⟨rfl, fun _ _ h => by cases h⟩

/-- An exchange of a pass amends the entry of its cluster by what the pass then has to send. -/
theorem System.Sound.entry_of_pass {s : System k} {w : World k} {q : Request k} {a : q.Answer}
    {next : q.Answer → Task k (Except Failure Unit)} (hs : s.Sound)
    (hthread : (⟨.pass key, past, .ask q next⟩ : Thread k) ∈ s.threads)
    (hanswer : s.world.Answers q a w) (hnamed : ∀ name, named name ∈ past → name = cluster)
    (hfind : s.world.templates.find? address = some t) :
    ∃ t', w.templates.find? address = some t' ∧ t'.entryOf? cluster =
      (unsent (next a)).foldl (Report.amend k.template.kind address cluster)
        (t.entryOf? cluster) := by
  have hafter : (reconcile key).run.After (past ++ [⟨q, a⟩]) (next a) :=
    (hs.after _ hthread).step a
  rcases hs.overwrites hthread hanswer with ⟨hnone, heq⟩ |
    ⟨call, base, rfl, hlast, hdraft, hbase, hstored, heq⟩
  · rw [unsent_of_not_stored hafter hnone]
    exact ⟨t, heq ▸ hfind, rfl⟩
  rw [heq]
  have hover := Store.find?_assign_over hbase hfind (s.world.templates.revision call base)
  rcases unsent_cases (next a) with ⟨r, next', hnext⟩ | ⟨hnil, hnot⟩
  · rw [hnext] at hafter ⊢
    obtain ⟨current, stored, cluster', es, outcome, now, t₀, rfl, he, hends, rfl⟩ :=
      (reportCall_of_asks ⟨next', hafter⟩).eq_restated
    cases he
    cases hnamed cluster' (by simp)
    rcases hover with ⟨rfl, rfl, hover⟩ | ⟨haddress, hover⟩
    · have hcurrent := entryOf?_of_ends_materialize hends hlast cluster
      refine ⟨_, hover, entryOf?_restatement.trans (Template.entryOf?_withOutcome.trans ?_)⟩
      rw [hcurrent]
      exact (Report.amend_self (r := current.reportOf cluster
        (.ofOutcome k.concrete.kind outcome now))).symm
    · exact ⟨t, hover, (Report.amend_of_key_ne haddress.symm).symm⟩
  · rw [hnil]
    rcases hover with ⟨rfl, rfl, hover⟩ | ⟨-, hover⟩
    · refine ⟨_, hover, ?_⟩
      exact entryOf?_of_unreported ⟨next, hs.after _ hthread⟩ hlast hdraft hstored
        fun r ⟨next', h⟩ => hnot r next' (hafter.unique h)
    · exact ⟨t, hover, rfl⟩

end Pass

/-! The recording of a report -/
section Record
variable {address : Key} {past : Dialogue k} {r : Report} {u : Template k}
  {e : Exchange (Request k) Request.Answer}

/-- An exchange of a recording leaves the templates as they are, or it amends the entries by the
report. -/
theorem System.Sound.entry_of_record {s : System k} {w : World k} {q : Request k} {a : q.Answer}
    {next : q.Answer → Task k (Except Failure Bool)} (hs : s.Sound)
    (hthread : (⟨.record r, past, .ask q next⟩ : Thread k) ∈ s.threads)
    (hanswer : s.world.Answers q a w) (hfind : s.world.templates.find? address = some u)
    (cluster : String) :
    (Exchange.stored? ⟨q, a⟩ = none ∧ w.templates = s.world.templates) ∨
      ∃ u', w.templates.find? address = some u' ∧ u'.entryOf? cluster =
        Report.amend r.kind address cluster (u.entryOf? cluster) r := by
  rcases hs.overwrites hthread hanswer with hsame |
    ⟨call, base, rfl, hlast, hdraft, hbase, hstored, heq⟩
  · exact .inl hsame
  right
  rcases asks_recordReport ⟨next, hs.after _ hthread⟩ with h | ⟨d, h⟩ | ⟨earlier, t, rfl, -, h⟩
  · cases h
    cases hdraft
  · cases h
  · cases h
    simp [lastCopy?_append, lastCopy?_cons] at hlast
    subst hlast
    rw [heq]
    rcases Store.find?_assign_over hbase hfind
        (s.world.templates.revision (.replaceStatus r.key (t.withReport r)) t) with
      ⟨rfl, rfl, hover⟩ | ⟨haddress, hover⟩
    · refine ⟨_, hover, entryOf?_restatement.trans ?_⟩
      by_cases hcluster : cluster = r.cluster
      · subst hcluster
        exact (Template.entryOf?_withReport _ r).trans Report.amend_self.symm
      · exact (Template.entryOf?_withReport_ne hcluster).trans
          (Report.amend_of_cluster_ne (Ne.symm hcluster)).symm
    · exact ⟨u, hover, (Report.amend_of_key_ne haddress.symm).symm⟩

theorem Failure.not_isNotFound_of_isConflict {f : Failure} (h : f.isConflict = true) :
    f.isNotFound = false := by
  cases f with
  | server fault =>
    cases fault <;> simp_all [isConflict, isNotFound]
  | conflict text => rfl
  | notFound _ _ _ | mutation _ | validation _ | serialization _ | config _ => cases h

/-- A recording that ends well with an exchange that stored nothing has just found that there is no
template, or that the report says nothing new of it. -/
theorem found_of_ends_recordReport {b : Bool} (h : (recordReport r).run.Ends (past ++ [e]) (.ok b))
    (hstored : e.stored? = none) (hfails : ∀ f, e.failure? = some f → f.isConflict = true) :
    e = ⟨.template (.get r.key), (.ok none : Except Failure (Option (Template k)))⟩ ∨
      ∃ t, e = fetched r.key t ∧ t.reportChanges r = false := by
  obtain ⟨n, -, earlier, es, hes, -, hends⟩ := ends_retryConflicts h
  have hlast {init : Dialogue k} {x : Exchange (Request k) Request.Answer}
      (h : past ++ [e] = init ++ [x]) : e = x :=
    List.singleton_inj.1 (List.append_inj' h rfl).2
  have hlast' {x y : Exchange (Request k) Request.Answer} (h : past ++ [e] = earlier ++ [x, y]) :
      e = y :=
    hlast (h.trans (List.append_cons earlier x [y]))
  generalize hr : Except.ok b = result at hends
  cases ends_recordReportOnce hends with
  | unread f => cases hr
  | missing => exact .inl (hlast hes)
  | @unchanged t hsame => exact .inr ⟨t, hlast hes, hsame⟩
  | @written t stored =>
    cases hlast' hes
    cases hstored
  | @vanished t f hf =>
    cases hlast' hes
    rw [Failure.not_isNotFound_of_isConflict (hfails f rfl)] at hf
    cases hf
  | refused f => cases hr

/-- An exchange of a recording amends the entry or leaves it for later. When the recording ends
well, the report says nothing new. -/
theorem System.Sound.amend_of_record {s : System k} {w : World k} {q : Request k} {a : q.Answer}
    {next : q.Answer → Task k (Except Failure Bool)} (hs : s.Sound)
    (hthread : (⟨.record r, past, .ask q next⟩ : Thread k) ∈ s.threads)
    (hanswer : s.world.Answers q a w)
    (hfails : ∀ f, Exchange.failure? ⟨q, a⟩ = some f → f.isConflict = true)
    (hfind : s.world.templates.find? address = some u) (cluster : String) :
    ∃ u', w.templates.find? address = some u' ∧
      Report.amend r.kind address cluster (u'.entryOf? cluster) r =
        Report.amend r.kind address cluster (u.entryOf? cluster) r ∧
      ∀ changed, next a = .done (.ok changed) →
        Report.amend r.kind address cluster (u'.entryOf? cluster) r = u'.entryOf? cluster := by
  rcases hs.entry_of_record hthread hanswer hfind cluster with ⟨hnone, heq⟩ | ⟨u', hu', hentry⟩
  · refine ⟨u, heq ▸ hfind, rfl, ?_⟩
    intro changed hnext
    have hends : (recordReport r).run.After (past ++ [⟨q, a⟩]) (next a) :=
      (hs.after _ hthread).step a
    rw [hnext] at hends
    rcases found_of_ends_recordReport hends hnone hfails with he | ⟨t, he, hsame⟩
    · cases he
      refine Report.amend_of_key_ne ?_
      rintro rfl
      cases hanswer.1.find?_eq.1.symm.trans hfind
    · cases he
      by_cases haddress : r.key = address
      · subst haddress
        cases hanswer.1.find?_eq.1.symm.trans hfind
        by_cases hcluster : r.cluster = cluster
        · subst hcluster
          exact Report.amend_self.trans (Template.upsert_of_not_reportChanges hsame)
        · exact Report.amend_of_cluster_ne hcluster
      · exact Report.amend_of_key_ne haddress
  · have hamended : Report.amend r.kind address cluster (u'.entryOf? cluster) r =
        u'.entryOf? cluster := by
      rw [hentry, Report.amend_amend]
    exact ⟨u', hu', hamended.trans hentry, fun _ _ => hamended⟩

end Record

/-! Fleets -/

/-- Others change the templates, each version being given to one of them, but they do not remove the
one at an address and leave alone what its status says of a cluster. -/
structure Store.Edited (key : Key) (cluster : String) (s s' : Store (Template k)) : Prop where
  evolves : s.Evolves s'
  versioned : s'.Versioned
  kept : ∀ t, s.find? key = some t →
    ∃ t', s'.find? key = some t' ∧ t'.entryOf? cluster = t.entryOf? cluster

/-- A cluster and the aggregator. -/
structure Fleet (k : Kind) where
  /-- The cluster's stores, and the pass over the template if there is one in flight. -/
  leaf : System k
  channel : Channel
  /-- The aggregator's stores. -/
  upstream : World k
  /-- The recording of the report that was received last, if it is in flight. -/
  delivery : List (Thread k)
  /-- The recordings of reports of other clusters. -/
  others : List (Thread k)

namespace Fleet

/-- The aggregator with all that is recorded there. -/
def recordings (f : Fleet k) : System k := ⟨f.upstream, f.delivery ++ f.others⟩

end Fleet

def Activity.reports : Activity k → List Report
  | pass _ => []
  | record r => [r]

namespace Fleet

/-- The reports that are on their way, the oldest one first. -/
def underway (f : Fleet k) : List Report :=
  f.delivery.flatMap (·.activity.reports) ++ f.channel.queue ++
    f.leaf.threads.flatMap fun t => unsent t.rest

/-- What can happen next. The passes of the cluster over the template at an address follow each
other, and so do the recordings of its reports. A call of a pass may fail without an effect; a call
of a recording may fail by a conflict. A report finds place in the channel, and its recording
succeeds. -/
inductive Step (key : Key) (cluster : String) : Fleet k → Fleet k → Prop
  | startPass {f} (hidle : f.leaf.threads = []) :
      Step key cluster f { f with leaf := { f.leaf with
        threads := ⟨.pass key, [], (Activity.pass key).task⟩ :: f.leaf.threads } }
  | passExchange {f w past q next} (a : Request.Answer q)
      (hthreads : f.leaf.threads = [⟨.pass key, past, .ask q next⟩])
      (hreport : ∀ r, q ≠ .report r) (hanswer : f.leaf.world.Answers q a w)
      (hnamed : ∀ name, (⟨q, a⟩ : Exchange (Request k) Request.Answer) = named name →
        name = cluster) :
      Step key cluster f { f with leaf := ⟨w, [⟨.pass key, past ++ [⟨q, a⟩], next a⟩]⟩ }
  | send {f past r next} (hthreads : f.leaf.threads = [⟨.pass key, past, .ask (.report r) next⟩])
      (haccepts : f.channel.accepts = true) :
      Step key cluster f { f with
        leaf := { f.leaf with threads := [⟨.pass key, past ++ [told r], next ()⟩] }
        channel := f.channel.send r }
  | endPass {f past result} (hthreads : f.leaf.threads = [⟨.pass key, past, .done result⟩]) :
      Step key cluster f { f with leaf := { f.leaf with threads := [] } }
  | editLeaf {f w} (h : f.leaf.world.templates.Edited key cluster w.templates) :
      Step key cluster f { f with leaf := { f.leaf with world := w } }
  /-- A report about another template joins the queue. -/
  | sendOther {f} (r : Report) (h : r.kind ≠ k.template.kind ∨ r.key ≠ key) :
      Step key cluster f { f with channel := f.channel.send r }
  | receive {f r channel} (hidle : f.delivery = [])
      (hreceive : f.channel.receive = (.report r, channel)) (hkind : r.kind = k.template.kind) :
      Step key cluster f { f with
        channel
        delivery := [⟨.record r, [], (Activity.record r).task⟩] }
  /-- A report of another kind is recorded elsewhere. -/
  | receiveOther {f r channel} (hidle : f.delivery = [])
      (hreceive : f.channel.receive = (.report r, channel)) (hkind : r.kind ≠ k.template.kind) :
      Step key cluster f { f with channel }
  | deliver {f w r past q next} (a : Request.Answer q)
      (hdelivery : f.delivery = [⟨.record r, past, .ask q next⟩])
      (hanswer : f.upstream.Answers q a w)
      (hfails : ∀ failure, Exchange.failure? ⟨q, a⟩ = some failure → failure.isConflict = true) :
      Step key cluster f { f with
        upstream := w
        delivery := [⟨.record r, past ++ [⟨q, a⟩], next a⟩] }
  | endDelivery {f r past changed}
      (hdelivery : f.delivery = [⟨.record r, past, .done (.ok changed)⟩]) :
      Step key cluster f { f with delivery := [] }
  | startOther {f} (r : Report) (hcluster : r.cluster ≠ cluster) :
      Step key cluster f { f with
        others := ⟨.record r, [], (Activity.record r).task⟩ :: f.others }
  | other {f w l₁ l₂ r past q next} (a : Request.Answer q)
      (hothers : f.others = l₁ ++ ⟨.record r, past, .ask q next⟩ :: l₂)
      (hanswer : f.upstream.Answers q a w) :
      Step key cluster f { f with
        upstream := w
        others := l₁ ++ ⟨.record r, past ++ [⟨q, a⟩], next a⟩ :: l₂ }
  | editUpstream {f w} (h : f.upstream.templates.Edited key cluster w.templates) :
      Step key cluster f { f with upstream := w }

/-- What the aggregator has of the cluster, amended by the reports that are on their way, is what
the cluster has. -/
structure Accords (key : Key) (cluster : String) (f : Fleet k) : Prop where
  leaf : f.leaf.Sound
  recordings : f.recordings.Sound
  named : ∀ t ∈ f.leaf.threads, ∀ name, FleetSync.named name ∈ t.past → name = cluster
  kind : ∀ t ∈ f.delivery, ∀ r, t.activity = .record r → r.kind = k.template.kind
  /-- Once a recording ended well, the report says nothing new. -/
  recorded : ∀ r past changed, ⟨.record r, past, .done (.ok changed)⟩ ∈ f.delivery →
    ∀ u, f.upstream.templates.find? key = some u →
      Report.amend k.template.kind key cluster (u.entryOf? cluster) r = u.entryOf? cluster
  others : ∀ t ∈ f.others, ∀ r, t.activity = .record r → r.cluster ≠ cluster
  entries : ∃ t u, f.leaf.world.templates.find? key = some t ∧
    f.upstream.templates.find? key = some u ∧
    f.underway.foldl (Report.amend k.template.kind key cluster) (u.entryOf? cluster) =
      t.entryOf? cluster

section Step
variable {key : Key} {cluster : String} {f : Fleet k} {past : Dialogue k} {r : Report}

theorem Accords.startPass (hf : f.Accords key cluster) :
    Accords key cluster { f with leaf := { f.leaf with
      threads := ⟨.pass key, [], (Activity.pass key).task⟩ :: f.leaf.threads } } :=
  { hf with
    leaf := hf.leaf.start (.pass key)
    named := by
      intro t ht name hname
      rcases List.mem_cons.1 ht with rfl | ht
      · cases hname
      · exact hf.named t ht name hname
    entries := hf.entries }

theorem Accords.passExchange {w : World k} {q : Request k} {a : q.Answer}
    {next : q.Answer → Task k (Except Failure Unit)} (hf : f.Accords key cluster)
    (hthreads : f.leaf.threads = [⟨.pass key, past, .ask q next⟩])
    (hreport : ∀ r, q ≠ .report r) (hanswer : f.leaf.world.Answers q a w)
    (hnamed : ∀ name, (⟨q, a⟩ : Exchange (Request k) Request.Answer) = FleetSync.named name →
      name = cluster) :
    Accords key cluster { f with leaf := ⟨w, [⟨.pass key, past ++ [⟨q, a⟩], next a⟩]⟩ } := by
  have hthread : (⟨.pass key, past, .ask q next⟩ : Thread k) ∈ f.leaf.threads := by
    simp [hthreads]
  have hpast := hf.named _ hthread
  obtain ⟨t, u, ht, hu, hfold⟩ := hf.entries
  obtain ⟨t', ht', hentry⟩ := hf.leaf.entry_of_pass hthread hanswer hpast ht
  have hleaf := hf.leaf.exchange (hthreads.trans (List.nil_append _).symm) hanswer
  refine { hf with leaf := hleaf, named := ?_, entries := ⟨t', u, ht', hu, ?_⟩ }
  · intro t ht name hname
    cases List.mem_singleton.1 ht
    rcases List.mem_append.1 hname with hname | hname
    · exact hpast name hname
    · exact hnamed name (List.mem_singleton.1 hname).symm
  · have hnothing : unsent (Program.ask q next) = [] := by
      rcases unsent_cases (.ask q next) with ⟨r, next', h⟩ | ⟨h, -⟩
      · cases h
        exact (hreport r rfl).elim
      · exact h
    rw [hentry, ← hfold]
    simp [underway, hthreads, hnothing]

theorem Accords.send {next : Unit → Task k (Except Failure Unit)} (hf : f.Accords key cluster)
    (hthreads : f.leaf.threads = [⟨.pass key, past, .ask (.report r) next⟩])
    (haccepts : f.channel.accepts = true) :
    Accords key cluster { f with
      leaf := { f.leaf with threads := [⟨.pass key, past ++ [told r], next ()⟩] }
      channel := f.channel.send r } := by
  have hthread : (⟨.pass key, past, .ask (.report r) next⟩ : Thread k) ∈ f.leaf.threads := by
    simp [hthreads]
  have hanswer : f.leaf.world.Answers (.report r) () f.leaf.world := rfl
  have hleaf := hf.leaf.exchange (hthreads.trans (List.nil_append _).symm) hanswer
  obtain ⟨t, u, ht, hu, hfold⟩ := hf.entries
  refine { hf with leaf := hleaf, named := ?_, entries := ⟨t, u, ht, hu, ?_⟩ }
  · intro t ht name hname
    cases List.mem_singleton.1 ht
    rcases List.mem_append.1 hname with hname | hname
    · exact hf.named _ hthread name hname
    · cases List.mem_singleton.1 hname
  · have hnothing : unsent (next ()) = [] :=
      unsent_of_not_stored ((hf.leaf.after _ hthread).step ()) rfl
    rw [← hfold]
    simp [underway, hthreads, hnothing, Channel.queue_send haccepts]

theorem Accords.endPass {result : Except Failure Unit} (hf : f.Accords key cluster)
    (hthreads : f.leaf.threads = [⟨.pass key, past, .done result⟩]) :
    Accords key cluster { f with leaf := { f.leaf with threads := [] } } := by
  obtain ⟨t, u, ht, hu, hfold⟩ := hf.entries
  refine { hf with
    leaf := hf.leaf.subset fun t ht => (List.not_mem_nil ht).elim
    named := fun t ht => (List.not_mem_nil ht).elim
    entries := ⟨t, u, ht, hu, ?_⟩ }
  rw [← hfold]
  simp [underway, hthreads]

theorem Accords.editLeaf {w : World k} (hf : f.Accords key cluster)
    (h : f.leaf.world.templates.Edited key cluster w.templates) :
    Accords key cluster { f with leaf := { f.leaf with world := w } } := by
  obtain ⟨t, u, ht, hu, hfold⟩ := hf.entries
  obtain ⟨t', ht', hentry⟩ := h.kept t ht
  exact { hf with
    leaf := hf.leaf.evolves h.evolves h.versioned
    entries := ⟨t', u, ht', hu, hfold.trans hentry.symm⟩ }

theorem Accords.sendOther (hf : f.Accords key cluster)
    (h : r.kind ≠ k.template.kind ∨ r.key ≠ key) :
    Accords key cluster { f with channel := f.channel.send r } := by
  obtain ⟨t, u, ht, hu, hfold⟩ := hf.entries
  refine { hf with entries := ⟨t, u, ht, hu, ?_⟩ }
  rw [← hfold]
  by_cases haccepts : f.channel.accepts = true
  · have hnot (entry : Option ClusterEntry) :
        Report.amend k.template.kind key cluster entry r = entry :=
      h.elim Report.amend_of_kind_ne Report.amend_of_key_ne
    simp [underway, Channel.queue_send haccepts, hnot]
  · simp [underway, Channel.send_of_not_accepts haccepts]

theorem Accords.receive {channel : Channel} (hf : f.Accords key cluster) (hidle : f.delivery = [])
    (hreceive : f.channel.receive = (.report r, channel)) (hkind : r.kind = k.template.kind) :
    Accords key cluster { f with
      channel
      delivery := [⟨.record r, [], (Activity.record r).task⟩] } := by
  obtain ⟨t, u, ht, hu, hfold⟩ := hf.entries
  have hothers : ∀ t ∈ f.others, t ∈ f.recordings.threads :=
    fun _ ht => List.mem_append_right _ ht
  refine { hf with
    recordings := (hf.recordings.subset hothers).start (.record r)
    kind := ?_
    recorded := ?_
    entries := ⟨t, u, ht, hu, ?_⟩ }
  · rintro t ht r' hr'
    cases List.mem_singleton.1 ht
    cases hr'
    exact hkind
  · intro r' past' changed hmem
    cases List.mem_singleton.1 hmem
  · rw [← hfold]
    simp [underway, hidle, Channel.queue_of_receive hreceive, Activity.reports]

theorem Accords.receiveOther {channel : Channel} (hf : f.Accords key cluster)
    (hidle : f.delivery = []) (hreceive : f.channel.receive = (.report r, channel))
    (hkind : r.kind ≠ k.template.kind) : Accords key cluster { f with channel } := by
  obtain ⟨t, u, ht, hu, hfold⟩ := hf.entries
  refine { hf with entries := ⟨t, u, ht, hu, ?_⟩ }
  rw [← hfold]
  simp [underway, hidle, Channel.queue_of_receive hreceive, Report.amend_of_kind_ne hkind]

/-- Whether a recording amends the entry now or did so before, the report may still be counted as
one that is on its way. -/
theorem Accords.deliver {w : World k} {q : Request k} {a : q.Answer}
    {next : q.Answer → Task k (Except Failure Bool)} (hf : f.Accords key cluster)
    (hdelivery : f.delivery = [⟨.record r, past, .ask q next⟩])
    (hanswer : f.upstream.Answers q a w)
    (hfails : ∀ failure, Exchange.failure? ⟨q, a⟩ = some failure → failure.isConflict = true) :
    Accords key cluster { f with
      upstream := w
      delivery := [⟨.record r, past ++ [⟨q, a⟩], next a⟩] } := by
  have hthreads : f.recordings.threads = [] ++ ⟨.record r, past, .ask q next⟩ :: f.others :=
    congrArg (· ++ f.others) hdelivery
  have hthread : (⟨.record r, past, .ask q next⟩ : Thread k) ∈ f.recordings.threads := by
    simp [hthreads]
  have hkind : r.kind = k.template.kind :=
    hf.kind ⟨.record r, past, .ask q next⟩ (by simp [hdelivery]) r rfl
  obtain ⟨t, u, ht, hu, hfold⟩ := hf.entries
  obtain ⟨u', hu', hamend, hended⟩ :=
    hf.recordings.amend_of_record hthread hanswer hfails hu cluster
  rw [hkind] at hamend hended
  refine { hf with
    recordings := hf.recordings.exchange hthreads hanswer
    kind := ?_
    recorded := ?_
    entries := ⟨t, u', ht, hu', ?_⟩ }
  · rintro t ht r' hr'
    cases List.mem_singleton.1 ht
    cases hr'
    exact hkind
  · intro r' past' changed hmem u'' hu''
    cases Option.some.inj (hu'.symm.trans hu'')
    generalize hnext : next a = rest at hmem
    cases List.mem_singleton.1 hmem
    exact hended changed hnext
  · rw [← hfold]
    simp [underway, hdelivery, Activity.reports, hamend]

theorem Accords.endDelivery {changed : Bool} (hf : f.Accords key cluster)
    (hdelivery : f.delivery = [⟨.record r, past, .done (.ok changed)⟩]) :
    Accords key cluster { f with delivery := [] } := by
  obtain ⟨t, u, ht, hu, hfold⟩ := hf.entries
  have hnew := hf.recorded r past changed (by simp [hdelivery]) u hu
  refine { hf with
    recordings := hf.recordings.subset fun _ ht => List.mem_append_right _ ht
    kind := fun t ht => (List.not_mem_nil ht).elim
    recorded := fun _ _ _ ht => (List.not_mem_nil ht).elim
    entries := ⟨t, u, ht, hu, ?_⟩ }
  rw [← hfold]
  simp [underway, hdelivery, Activity.reports, hnew]

theorem Accords.startOther (hf : f.Accords key cluster) (hcluster : r.cluster ≠ cluster) :
    Accords key cluster { f with
      others := ⟨.record r, [], (Activity.record r).task⟩ :: f.others } := by
  refine { hf with
    recordings := (hf.recordings.start (.record r)).subset fun t ht => ?_
    others := ?_
    entries := hf.entries }
  · rcases List.mem_append.1 ht with ht | ht
    · exact List.mem_cons_of_mem _ (List.mem_append_left _ ht)
    · rcases List.mem_cons.1 ht with rfl | ht
      · exact List.mem_cons_self
      · exact List.mem_cons_of_mem _ (List.mem_append_right _ ht)
  · intro t ht r' hr'
    rcases List.mem_cons.1 ht with rfl | ht
    · cases hr'
      exact hcluster
    · exact hf.others t ht r' hr'

theorem Accords.other {w : World k} {l₁ l₂ : List (Thread k)} {q : Request k} {a : q.Answer}
    {next : q.Answer → Task k (Except Failure Bool)} (hf : f.Accords key cluster)
    (hothers : f.others = l₁ ++ ⟨.record r, past, .ask q next⟩ :: l₂)
    (hanswer : f.upstream.Answers q a w) :
    Accords key cluster { f with
      upstream := w
      others := l₁ ++ ⟨.record r, past ++ [⟨q, a⟩], next a⟩ :: l₂ } := by
  have hthreads : f.recordings.threads =
      (f.delivery ++ l₁) ++ ⟨.record r, past, .ask q next⟩ :: l₂ := by
    simp [Fleet.recordings, hothers]
  have hthread : (⟨.record r, past, .ask q next⟩ : Thread k) ∈ f.recordings.threads := by
    simp [hthreads]
  have hcluster : r.cluster ≠ cluster :=
    hf.others ⟨.record r, past, .ask q next⟩ (by simp [hothers]) r rfl
  obtain ⟨t, u, ht, hu, hfold⟩ := hf.entries
  have hentry : ∃ u', w.templates.find? key = some u' ∧
      u'.entryOf? cluster = u.entryOf? cluster := by
    rcases hf.recordings.entry_of_record hthread hanswer hu cluster with
      ⟨-, heq⟩ | ⟨u', hu', hentry⟩
    · exact ⟨u, heq ▸ hu, rfl⟩
    · exact ⟨u', hu', hentry.trans (Report.amend_of_cluster_ne hcluster)⟩
  obtain ⟨u', hu', hentry⟩ := hentry
  refine { hf with
    recordings := ?_
    recorded := ?_
    others := ?_
    entries := ⟨t, u', ht, hu', hentry ▸ hfold⟩ }
  · simpa [Fleet.recordings] using hf.recordings.exchange hthreads hanswer
  · intro r' past' changed hmem u'' hu''
    cases Option.some.inj (hu'.symm.trans hu'')
    rw [hentry]
    exact hf.recorded r' past' changed hmem u hu
  · intro t ht r' hr'
    rcases List.mem_append.1 ht with ht | ht
    · exact hf.others t (by simp [hothers, ht]) r' hr'
    rcases List.mem_cons.1 ht with rfl | ht
    · cases hr'
      exact hcluster
    · exact hf.others t (by simp [hothers, ht]) r' hr'

theorem Accords.editUpstream {w : World k} (hf : f.Accords key cluster)
    (h : f.upstream.templates.Edited key cluster w.templates) :
    Accords key cluster { f with upstream := w } := by
  obtain ⟨t, u, ht, hu, hfold⟩ := hf.entries
  obtain ⟨u', hu', hentry⟩ := h.kept u hu
  refine { hf with
    recordings := hf.recordings.evolves h.evolves h.versioned
    recorded := ?_
    entries := ⟨t, u', ht, hu', hentry ▸ hfold⟩ }
  intro r past changed hmem u'' hu''
  cases Option.some.inj (hu'.symm.trans hu'')
  rw [hentry]
  exact hf.recorded r past changed hmem u hu

theorem Accords.step {f' : Fleet k} (hf : f.Accords key cluster) (h : Step key cluster f f') :
    f'.Accords key cluster := by
  cases h with
  | startPass hidle => exact hf.startPass
  | passExchange a hthreads hreport hanswer hnamed =>
    exact hf.passExchange hthreads hreport hanswer hnamed
  | send hthreads haccepts => exact hf.send hthreads haccepts
  | endPass hthreads => exact hf.endPass hthreads
  | editLeaf h => exact hf.editLeaf h
  | sendOther r h => exact hf.sendOther h
  | receive hidle hreceive hkind => exact hf.receive hidle hreceive hkind
  | receiveOther hidle hreceive hkind => exact hf.receiveOther hidle hreceive hkind
  | deliver a hdelivery hanswer hfails => exact hf.deliver hdelivery hanswer hfails
  | endDelivery hdelivery => exact hf.endDelivery hdelivery
  | startOther r hcluster => exact hf.startOther hcluster
  | other a hothers hanswer => exact hf.other hothers hanswer
  | editUpstream h => exact hf.editUpstream h

theorem Accords.steps {f' : Fleet k} (hf : f.Accords key cluster)
    (h : Relation.ReflTransGen (Step key cluster) f f') : f'.Accords key cluster := by
  induction h with
  | refl => exact hf
  | tail _ hstep ih => exact ih.step hstep

theorem Accords.entryOf?_eq (hf : f.Accords key cluster) (hunderway : f.underway = []) :
    ∃ t u, f.leaf.world.templates.find? key = some t ∧
      f.upstream.templates.find? key = some u ∧ u.entryOf? cluster = t.entryOf? cluster := by
  obtain ⟨t, u, ht, hu, hfold⟩ := hf.entries
  rw [hunderway] at hfold
  exact ⟨t, u, ht, hu, hfold⟩

end Step

def atRest (w u : World k) (channel : Channel) : Fleet k := ⟨.atRest w, channel, u, [], []⟩

theorem accords_atRest {key : Key} {cluster : String} {w u : World k} {channel : Channel}
    {t₀ u₀ : Template k} (hw : w.templates.Versioned) (hu : u.templates.Versioned)
    (hchannel : channel.queue = []) (ht₀ : w.templates.find? key = some t₀)
    (hu₀ : u.templates.find? key = some u₀) (h : u₀.entryOf? cluster = t₀.entryOf? cluster) :
    (atRest w u channel).Accords key cluster where
  leaf := System.sound_atRest hw
  recordings := System.sound_atRest hu
  named _ ht := (List.not_mem_nil ht).elim
  kind _ ht := (List.not_mem_nil ht).elim
  recorded _ _ _ ht := (List.not_mem_nil ht).elim
  others _ ht := (List.not_mem_nil ht).elim
  entries := by
    refine ⟨t₀, u₀, ht₀, hu₀, ?_⟩
    have hunderway : (atRest w u channel).underway = [] := by
      simp [underway, atRest, System.atRest, hchannel]
    rw [hunderway]
    exact h

end Fleet

/-- Take any run of a cluster with an open channel and of the aggregator that records its reports,
in which passes, recordings, changes by others on both sides and reports of other clusters
interleave. If both copies of a template start with the same entry of the cluster, or with none,
then they have the same one whenever no report is queued and no pass or recording is in flight. -/
theorem cluster_and_aggregator_agree {key : Key} {cluster : String} {w u : World k}
    {channel : Channel} {t₀ u₀ : Template k} {f : Fleet k} (hw : w.templates.Versioned)
    (hu : u.templates.Versioned) (hchannel : channel.queue = [])
    (ht₀ : w.templates.find? key = some t₀) (hu₀ : u.templates.find? key = some u₀)
    (h₀ : u₀.entryOf? cluster = t₀.entryOf? cluster)
    (hrun : Relation.ReflTransGen (Fleet.Step key cluster) (.atRest w u channel) f)
    (hqueue : f.channel.queue = []) (hpass : f.leaf.threads = []) (hdelivery : f.delivery = []) :
    ∃ t u, f.leaf.world.templates.find? key = some t ∧
      f.upstream.templates.find? key = some u ∧ u.entryOf? cluster = t.entryOf? cluster := by
  have hf := (Fleet.accords_atRest hw hu hchannel ht₀ hu₀ h₀).steps hrun
  refine hf.entryOf?_eq ?_
  simp [Fleet.underway, hqueue, hpass, hdelivery]

theorem Fleet.Step.alone {key : Key} {cluster : String} {w u : World k} {channel : Channel}
    {delivery others : List (Thread k)} {past : Dialogue k} {q : Request k}
    {next : q.Answer → Task k (Except Failure Unit)} (now : Instant)
    (hreport : ∀ r, q ≠ .report r) :
    Step key cluster ⟨⟨w, [⟨.pass key, past, .ask q next⟩]⟩, channel, u, delivery, others⟩
      ⟨⟨(World.serve cluster now q w).2,
        [⟨.pass key, past ++ [⟨q, (World.serve cluster now q w).1⟩],
          next (World.serve cluster now q w).1⟩]⟩, channel, u, delivery, others⟩ := by
  refine .passExchange _ rfl hreport (World.answers_serve cluster now q w) ?_
  rintro name ⟨⟩
  rfl

/-- The cluster synchronizes the settings and reports it, and the aggregator records that. -/
theorem settings_of_both_agree : ∃ f : Fleet .configMap, ∃ t u,
    Relation.ReflTransGen (Fleet.Step ⟨"apps", "settings"⟩ "east")
      (.atRest untiedWorld untiedWorld (.opened 4)) f ∧
    f.leaf.world.templates.find? ⟨"apps", "settings"⟩ = some t ∧
    f.upstream.templates.find? ⟨"apps", "settings"⟩ = some u ∧
    (t.entryOf? "east").isSome = true ∧ u.entryOf? "east" = t.entryOf? "east" := by
  have hstarted : Relation.ReflTransGen (Fleet.Step ⟨"apps", "settings"⟩ "east")
    (.atRest untiedWorld untiedWorld (.opened 4)) _ := .single (.startPass rfl)
  have hfetched := hstarted.tail (.alone default fun r h => by cases h)
  have hnamed := hfetched.tail (.alone default fun r h => by cases h)
  have hlooked := hnamed.tail (.alone default fun r h => by cases h)
  have hcreated := hlooked.tail (.alone default fun r h => by cases h)
  have htied := hcreated.tail (.alone default fun r h => by cases h)
  have htimed := htied.tail (.alone default fun r h => by cases h)
  have hwritten := htimed.tail (.alone default fun r h => by cases h)
  have hsent := hwritten.tail (.send rfl rfl)
  have hpassed := hsent.tail (.endPass rfl)
  have hreceived := hpassed.tail (.receive rfl rfl rfl)
  have hread := hreceived.tail (.deliver _ rfl (World.answers_serve "east" default _ _)
    fun f h => by cases h)
  have hrecorded := hread.tail (.deliver _ rfl (World.answers_serve "east" default _ _)
    fun f h => by cases h)
  have hrun := hrecorded.tail (.endDelivery rfl)
  have hversioned : untiedWorld.templates.Versioned := (Store.versioned_empty true).assign _ _
  obtain ⟨t, u, ht, hu, hagree⟩ := cluster_and_aggregator_agree hversioned hversioned rfl rfl rfl
    rfl hrun rfl rfl rfl
  refine ⟨_, t, u, hrun, ht, hu, ?_, hagree⟩
  cases ht
  decide +kernel

end FleetSync
