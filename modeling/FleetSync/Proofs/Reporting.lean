import FleetSync.Proofs.Convergence

/-!
# Reports are not heard

A program never learns what became of a report that it sent. So what it asks, how it ends and what
it does to the stores are the same whatever channel its reports go into, and only the contents of
the channel differ. A report is sent right after the write that it tells of was accepted, and by
nothing else.
-/
namespace FleetSync

variable {k : Kind} {σ α : Type}

/-! Programs and channels -/
section Environment

/-- Surroundings in which a channel takes the reports, and nothing else looks at it. -/
def reporting (answer : (q : Request k) → σ → q.Answer × σ) :
    (q : Request k) → σ × Channel → q.Answer × (σ × Channel)
  | .report r, (s, channel) => ((), s, channel.send r)
  | q, (s, channel) => ((answer q s).1, (answer q s).2, channel)

def unreporting (answer : (q : Request k) → σ → q.Answer × σ) :
    (q : Request k) → σ → q.Answer × σ
  | .report _, s => ((), s)
  | q, s => answer q s

def Channel.hear (channel : Channel) (es : Dialogue k) : Channel :=
  (reportsOf es).foldl Channel.send channel

theorem Channel.hear_cons (channel : Channel) (e : Exchange (Request k) Request.Answer)
    (es : Dialogue k) : channel.hear (e :: es) = (channel.hear [e]).hear es := by
  unfold hear reportsOf
  rw [List.filterMap_cons, List.filterMap_cons]
  cases e.report? <;> rfl

theorem reporting_eq (answer : (q : Request k) → σ → q.Answer × σ) (q : Request k) (s : σ)
    (channel : Channel) :
    reporting answer q (s, channel) = ((unreporting answer q s).1, (unreporting answer q s).2,
      channel.hear [⟨q, (unreporting answer q s).1⟩]) := by
  cases q <;> rfl

/-- A run with a channel is the run without one, and the channel takes the reports of that run. -/
theorem run_reporting (answer : (q : Request k) → σ → q.Answer × σ) (p : Task k α) (s : σ)
    (channel : Channel) :
    p.run (reporting answer) (s, channel) = ((p.run (unreporting answer) s).1,
        (p.run (unreporting answer) s).2,
        channel.hear (p.exchanges (unreporting answer) s)) ∧
      p.exchanges (reporting answer) (s, channel) = p.exchanges (unreporting answer) s := by
  induction p generalizing s channel with
  | done a => exact ⟨rfl, rfl⟩
  | ask q next ih =>
    have hanswer := reporting_eq answer q s channel
    obtain ⟨hrun, hasked⟩ := ih (unreporting answer q s).1 (unreporting answer q s).2
      (channel.hear [⟨q, (unreporting answer q s).1⟩])
    constructor
    · rw [Program.run_ask, hanswer, hrun, Program.run_ask, Program.exchanges, ← Channel.hear_cons]
    · rw [Program.exchanges, hanswer, hasked, Program.exchanges]

end Environment

/-- If what one environment does follows what another one does along a map of their states, then so
do the runs of every program. -/
theorem Program.run_of_semiconj {Q : Type} {R : Q → Type} {τ : Type} (f : σ → τ)
    {answer : (q : Q) → σ → R q × σ} {answer' : (q : Q) → τ → R q × τ}
    (h : ∀ q s, answer' q (f s) = ((answer q s).1, f (answer q s).2)) (p : Program Q R α) (s : σ) :
    p.run answer' (f s) = ((p.run answer s).1, f (p.run answer s).2) := by
  induction p generalizing s with
  | done a => rfl
  | ask q next ih => rw [run_ask, h, ih, run_ask]

namespace Simulation

def withChannel (w : Simulation k) (channel : Channel) : Simulation k := { w with channel }

theorem answer_withChannel (q : Request k) (w : Simulation k) (channel : Channel) :
    answerWith (callStore .templates) q (w.withChannel channel) =
      ((reporting (answerWith (callStore .templates)) q (w, channel)).1,
        (reporting (answerWith (callStore .templates)) q (w, channel)).2.1.withChannel
          (reporting (answerWith (callStore .templates)) q (w, channel)).2.2) := by
  cases q with
  | template call => rfl
  | concrete call => rfl
  | clusterName =>
    have hname (v : Simulation k) : answerWith (callStore .templates) .clusterName v =
        v.identity.clusterName (m := StateM (Simulation k))
          (fun key => callStore .registration (.get key)) v := rfl
    change answerWith (callStore .templates) .clusterName (w.withChannel channel) =
      ((answerWith (callStore .templates) .clusterName w).1,
        (answerWith (callStore .templates) .clusterName w).2.withChannel channel)
    rw [hname, hname]
    have hidentity : (w.withChannel channel).identity = w.identity := rfl
    rw [hidentity]
    cases w.identity <;> rfl
  | now => rfl
  | pause d => rfl
  | report r => rfl

theorem run_withChannel (p : Task k α) (w : Simulation k) (channel : Channel) :
    run p (w.withChannel channel) =
      ((p.run (reporting (answerWith (callStore .templates))) (w, channel)).1,
        (p.run (reporting (answerWith (callStore .templates))) (w, channel)).2.1.withChannel
          (p.run (reporting (answerWith (callStore .templates))) (w, channel)).2.2) :=
  Program.run_of_semiconj (fun s : Simulation k × Channel => s.1.withChannel s.2)
    (fun q s => answer_withChannel q s.1 s.2) p (w, channel)

end Simulation

/-! Reports of outcomes -/

section Outcome
variable {answer : (q : Request k) → σ → q.Answer × σ} {s : σ} {channel : Channel}
  {t : Template k} {persisted : FleetStatus} {cluster : String} {c : Condition}

/-- The recording of an outcome asks for at most one write, and sends at most one report, after it.
-/
structure Template.TellsOfWrites (t : Template k) (persisted : FleetStatus) (cluster : String)
    (c : Condition) (answer : (q : Request k) → σ → q.Answer × σ) (s : σ) (channel : Channel) :
    Prop where
  /-- A status that stays as it was is not written. -/
  unchanged : (t.withOutcome cluster c).status = some persisted →
    (t.recordOutcome persisted cluster c).run.exchanges (reporting answer) (s, channel) = [] ∧
    (t.recordOutcome persisted cluster c).run.run (reporting answer) (s, channel) =
      (.ok (t.withOutcome cluster c), s, channel)
  refused : (t.withOutcome cluster c).status ≠ some persisted → ∀ f s',
    answer (.template (.replaceStatus t.metadata.key (t.withOutcome cluster c))) s =
      ((.error f : Except Failure (Template k)), s') →
    (t.recordOutcome persisted cluster c).run.exchanges (reporting answer) (s, channel) =
      [restated (t.withOutcome cluster c) (.error f)] ∧
    (t.recordOutcome persisted cluster c).run.run (reporting answer) (s, channel) =
      (.error f, s', channel)
  written : (t.withOutcome cluster c).status ≠ some persisted → ∀ stored s',
    answer (.template (.replaceStatus t.metadata.key (t.withOutcome cluster c))) s =
      ((.ok stored : Except Failure (Template k)), s') →
    (t.recordOutcome persisted cluster c).run.exchanges (reporting answer) (s, channel) =
      [restated (t.withOutcome cluster c) (.ok stored), told (t.reportOf cluster c)] ∧
    (t.recordOutcome persisted cluster c).run.run (reporting answer) (s, channel) =
      (.ok stored, s', channel.send (t.reportOf cluster c))
  queued : channel.hasSender = true ∧ channel.hasReceiver = true ∧
      channel.queue.length < channel.capacity →
    (channel.send (t.reportOf cluster c)).queue = channel.queue ++ [t.reportOf cluster c]
  lost : ¬(channel.hasSender = true ∧ channel.hasReceiver = true ∧
      channel.queue.length < channel.capacity) →
    channel.send (t.reportOf cluster c) = channel
  subject : (t.reportOf cluster c).kind = k.template.kind ∧
    (t.reportOf cluster c).key = t.metadata.key ∧ (t.reportOf cluster c).cluster = cluster ∧
    (t.reportOf cluster c).condition = c
  /-- The report says what the object that was written says of the cluster. -/
  entry : ∃ e, (t.withOutcome cluster c).entryOf? cluster = some e ∧
    e.state = (t.reportOf cluster c).entry.state ∧
    e.message = (t.reportOf cluster c).entry.message

theorem Template.recordOutcome_of_changed
    (h : (t.withOutcome cluster c).status ≠ some persisted) :
    (t.recordOutcome persisted cluster c).run =
      .ask (.template (.replaceStatus t.metadata.key (t.withOutcome cluster c))) fun a =>
        match (a : Except Failure (Template k)) with
        | .error f => .done (.error f)
        | .ok stored => .ask (.report (t.reportOf cluster c)) fun _ => .done (.ok stored) := by
  unfold recordOutcome
  simp only [if_neg h]
  refine congrArg (Program.ask _) (funext fun a => ?_)
  cases a <;> rfl

theorem Template.tellsOfWrites (t : Template k) (persisted : FleetStatus) (cluster : String)
    (c : Condition) (answer : (q : Request k) → σ → q.Answer × σ) (s : σ) (channel : Channel) :
    t.TellsOfWrites persisted cluster c answer s channel where
  unchanged h := by
    unfold recordOutcome
    simp only [if_pos h]
    exact ⟨rfl, rfl⟩
  refused h f s' hanswer := by
    have hreporting : reporting answer
        (.template (.replaceStatus t.metadata.key (t.withOutcome cluster c))) (s, channel) =
        ((.error f : Except Failure (Template k)), s', channel) :=
      congrArg (fun a => (a.1, a.2, channel)) hanswer
    rw [recordOutcome_of_changed h, Program.exchanges, Program.run_ask, hreporting]
    exact ⟨rfl, rfl⟩
  written h stored s' hanswer := by
    have hreporting : reporting answer
        (.template (.replaceStatus t.metadata.key (t.withOutcome cluster c))) (s, channel) =
        ((.ok stored : Except Failure (Template k)), s', channel) :=
      congrArg (fun a => (a.1, a.2, channel)) hanswer
    rw [recordOutcome_of_changed h, Program.exchanges, Program.run_ask, hreporting]
    exact ⟨rfl, rfl⟩
  queued h := Channel.queue_send (Channel.accepts_iff.2 h)
  lost h := Channel.send_of_not_accepts fun haccepts => h (Channel.accepts_iff.1 haccepts)
  subject := ⟨rfl, rfl, rfl, rfl⟩
  entry := t.entryOf?_withOutcome_self cluster c

end Outcome

/-- A report is offered to the channel right after the write that it tells of was accepted, and it
is queued exactly if there is a sender, a receiver and room. And nothing else depends on the
channel: two runs of a pass that differ in their channels alone ask the same, get the same answers,
end in the same way, leave the same stores behind and offer the same reports, whoever answers and
whatever fails. -/
theorem reports_follow_writes_unheard :
    (∀ {σ : Type} (t : Template k) (persisted : FleetStatus) (cluster : String) (c : Condition)
      (answer : (q : Request k) → σ → q.Answer × σ) (s : σ) (channel : Channel),
      t.TellsOfWrites persisted cluster c answer s channel) ∧
    (∀ {σ : Type} (key : Key) (answer : (q : Request k) → σ → q.Answer × σ) (s : σ)
      (channel channel' : Channel),
      let r := (reconcile key).run.run (reporting answer) (s, channel)
      let r' := (reconcile key).run.run (reporting answer) (s, channel')
      r.1 = r'.1 ∧ r.2.1 = r'.2.1 ∧
        (reconcile key).run.exchanges (reporting answer) (s, channel) =
          (reconcile key).run.exchanges (reporting answer) (s, channel') ∧
        ∃ es : Dialogue k, r.2.2 = channel.hear es ∧ r'.2.2 = channel'.hear es) ∧
    ∀ (key : Key) (w : Simulation k) (channel channel' : Channel),
      let r := Simulation.run (reconcile key).run (w.withChannel channel)
      let r' := Simulation.run (reconcile key).run (w.withChannel channel')
      r.1 = r'.1 ∧ r.2.calls = r'.2.calls ∧ r.2.templates = r'.2.templates ∧
        r.2.concretes = r'.2.concretes := by
  refine ⟨Template.tellsOfWrites, ?_, ?_⟩
  · intro σ key answer s channel channel'
    obtain ⟨hrun, hasked⟩ := run_reporting answer (reconcile key).run s channel
    obtain ⟨hrun', hasked'⟩ := run_reporting answer (reconcile key).run s channel'
    rw [hrun, hrun', hasked, hasked']
    exact ⟨rfl, rfl, rfl, _, rfl, rfl⟩
  · intro key w channel channel'
    have hrun (channel : Channel) :=
      (run_reporting (Simulation.answerWith (Simulation.callStore .templates)) (reconcile key).run w
        channel).1
    dsimp only
    rw [Simulation.run_withChannel, Simulation.run_withChannel, hrun, hrun]
    exact ⟨rfl, rfl, rfl, rfl⟩

/-- A cluster that reports to nobody makes the same pass as one whose report is queued. -/
theorem settings_are_told_or_not :
    let r := Simulation.run (reconcile ⟨"apps", "settings"⟩).run
      (placedCluster.withChannel (.opened 4))
    let r' := Simulation.run (reconcile ⟨"apps", "settings"⟩).run
      (placedCluster.withChannel .disabled)
    r.2.channel.queue.length = 1 ∧ r'.2.channel.queue = [] ∧
      r.1 = r'.1 ∧ r.2.calls = r'.2.calls ∧ r.2.templates = r'.2.templates ∧
        r.2.concretes = r'.2.concretes :=
  ⟨by decide +kernel, by decide +kernel,
    reports_follow_writes_unheard.2.2 ⟨"apps", "settings"⟩ placedCluster (.opened 4) .disabled⟩

end FleetSync
