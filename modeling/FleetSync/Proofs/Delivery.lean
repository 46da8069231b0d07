import Mathlib.Logic.Relation
import FleetSync.Channel
import FleetSync.Forwarding
import FleetSync.Proofs.Dialogue

/-!
# The way of the reports

Any number of senders share a channel with one forwarder, which receives the reports one by one and
gives each of them to the sink that was registered last for its kind. Senders come and go, a sink
asks one thing after the other and may get any answer, and the forwarder may be shut down while it
waits. All of this happens one step at a time and in any order. The reports that were received are
then the accepted ones from the first one on, and all of them once the channel has been closed.
-/
namespace FleetSync

variable {Q : Type} {R : Q → Type}

/-- A report that is being applied: what its sink has exchanged so far, and what is left of it. -/
structure Dispatch (Q : Type) (R : Q → Type) where
  report : Report
  past : List (Exchange Q R)
  rest : Program Q R Bool

structure Delivery (Q : Type) (R : Q → Type) where
  report : Report
  exchanges : List (Exchange Q R)
  delivered : Bool

inductive Forwarder (Q : Type) (R : Q → Type) where
  | waiting
  | busy (d : Dispatch Q R)
  | stopped

def Forwarder.inFlight : Forwarder Q R → List Report
  | waiting => []
  | busy d => [d.report]
  | stopped => []

/-- The channel with its senders and the forwarder, and a record of what was accepted and of what
was delivered. -/
structure Relay (Q : Type) (R : Q → Type) where
  channel : Channel
  senders : Nat
  /-- Whether the handle of the shutdown was used or dropped. -/
  shutdown : Bool
  forwarder : Forwarder Q R
  accepted : List Report
  deliveries : List (Delivery Q R)

def lastSink? {m : Type → Type} (registrations : List (String × Sink m)) (kind : String) :
    Option (Sink m) :=
  (registrations.reverse.find? (·.1 = kind)).map (·.2)

/-- A report is applied by the sink that was registered last for its kind, from the beginning of
that sink to its end, and by no other; it is lost if there is no such sink or if the sink fails. -/
def Delivery.Applied (registrations : List (String × Sink (Program Q R))) (d : Delivery Q R) :
    Prop :=
  match lastSink? registrations d.report.kind with
  | none => d.exchanges = [] ∧ d.delivered = false
  | some sink => ∃ result, (sink d.report).Ends d.exchanges result ∧
      (d.delivered = true ↔ ∃ changed, result = .ok changed)

section Dispatching
variable {registrations : List (String × Sink (Program Q R))} {sinks : Sinks (Program Q R)}

theorem Delivery.applied {d : Delivery Q R}
    (h : (Sinks.dispatch (Dict.ofList registrations) d.report).Ends d.exchanges d.delivered) :
    d.Applied registrations := by
  unfold Sinks.dispatch at h
  rw [Dict.get?_ofList] at h
  unfold Applied lastSink?
  cases hsink : (registrations.reverse.find? (·.1 = d.report.kind)).map (·.2) with
  | none =>
    rw [hsink] at h
    obtain ⟨hexchanges, hdelivered⟩ := Program.ends_done.1 h
    exact ⟨hexchanges, hdelivered.symm⟩
  | some sink =>
    rw [hsink] at h
    obtain ⟨es, rest, result, hes, hresult, hrest⟩ := Program.ends_bind.1 h
    cases result with
    | ok changed =>
      obtain ⟨rfl, hdelivered⟩ := Program.ends_done.1 hrest
      rw [List.append_nil] at hes
      exact ⟨_, hes ▸ hresult, fun _ => ⟨changed, rfl⟩, fun _ => hdelivered.symm⟩
    | error f =>
      obtain ⟨rfl, hdelivered⟩ := Program.ends_done.1 hrest
      rw [List.append_nil] at hes
      refine ⟨_, hes ▸ hresult, fun htrue => ?_, fun ⟨_, hok⟩ => by cases hok⟩
      cases hdelivered.trans htrue

theorem Sinks.ends_dispatchAll {ds : List (Delivery Q R)}
    (h : ∀ d ∈ ds, (sinks.dispatch d.report).Ends d.exchanges d.delivered) :
    (sinks.dispatchAll (ds.map (·.report))).Ends (ds.flatMap (·.exchanges)) () := by
  induction ds with
  | nil => exact Program.ends_done.2 ⟨rfl, rfl⟩
  | cons d ds ih =>
    obtain ⟨hd, hds⟩ := List.forall_mem_cons.1 h
    exact Program.ends_bind.2 ⟨d.exchanges, _, d.delivered, rfl, hd, ih hds⟩

end Dispatching

/-- Whatever steps are taken, a state with this property is reached. -/
inductive Inevitable {α : Type} (step : α → α → Prop) (P : α → Prop) : α → Prop
  | now {a : α} (h : P a) : Inevitable step P a
  | next {a : α} (hcan : ∃ b, step a b) (hall : ∀ b, step a b → Inevitable step P b) :
      Inevitable step P a

namespace Relay

/-- A relay is started with any capacity. A cluster has none with a channel above
`Channel.maxCapacity`, so only those up to it are met with. -/
def start (capacity : Nat) : Relay Q R := ⟨.opened capacity, 1, false, .waiting, [], []⟩

def dispatched (s : Relay Q R) : List Report :=
  s.deliveries.map (·.report) ++ s.forwarder.inFlight

def send (s : Relay Q R) (r : Report) : Relay Q R :=
  { s with
    channel := s.channel.send r
    accepted := if s.channel.accepts then s.accepted ++ [r] else s.accepted }

/-- One of the senders is dropped; the last one closes its end of the channel. -/
def dropSender (s : Relay Q R) : Relay Q R :=
  { s with
    channel := if s.senders = 1 then s.channel.closeSender else s.channel
    senders := s.senders - 1 }

def halt (s : Relay Q R) (channel : Channel) : Relay Q R :=
  { s with channel := channel.closeReceiver, forwarder := .stopped }

inductive Step (sinks : Sinks (Program Q R)) (s : Relay Q R) : Relay Q R → Prop
  | clone (hsenders : 0 < s.senders) : Step sinks s { s with senders := s.senders + 1 }
  | dropSender (hsenders : 0 < s.senders) : Step sinks s s.dropSender
  | send (r : Report) (hsenders : 0 < s.senders) : Step sinks s (s.send r)
  | shutdown : Step sinks s { s with shutdown := true }
  | receive {r : Report} {channel : Channel} (hwaiting : s.forwarder = .waiting)
      (hreceived : s.channel.receive = (.report r, channel)) :
      Step sinks s { s with channel, forwarder := .busy ⟨r, [], sinks.dispatch r⟩ }
  | exchange {r : Report} {past : List (Exchange Q R)} {q : Q} {next : R q → Program Q R Bool}
      (hbusy : s.forwarder = .busy ⟨r, past, .ask q next⟩) (answer : R q) :
      Step sinks s { s with forwarder := .busy ⟨r, past ++ [⟨q, answer⟩], next answer⟩ }
  | deliver {r : Report} {past : List (Exchange Q R)} {delivered : Bool}
      (hbusy : s.forwarder = .busy ⟨r, past, .done delivered⟩) :
      Step sinks s
        { s with forwarder := .waiting, deliveries := s.deliveries ++ [⟨r, past, delivered⟩] }
  | close {channel : Channel} (hwaiting : s.forwarder = .waiting)
      (hreceived : s.channel.receive = (.closed, channel)) : Step sinks s (s.halt channel)
  | stop (hwaiting : s.forwarder = .waiting) (hshutdown : s.shutdown = true) :
      Step sinks s (s.halt s.channel)

/-- What every step keeps. -/
structure Orderly (sinks : Sinks (Program Q R)) (capacity : Nat) (s : Relay Q R) : Prop where
  capacity : s.channel.capacity = max capacity 1
  hasSender : s.channel.hasSender = true ↔ 0 < s.senders
  hasReceiver : s.channel.hasReceiver = true ↔ s.forwarder ≠ .stopped
  inFlight : ∀ d, s.forwarder = .busy d → (sinks.dispatch d.report).After d.past d.rest
  delivered : ∀ d ∈ s.deliveries, (sinks.dispatch d.report).Ends d.exchanges d.delivered
  lossless : s.forwarder ≠ .stopped → s.accepted = s.dispatched ++ s.channel.queue
  cut : s.forwarder = .stopped → s.dispatched <+: s.accepted
  complete : s.forwarder = .stopped → s.shutdown = false → s.dispatched = s.accepted

section Steps
variable {sinks : Sinks (Program Q R)} {capacity : Nat} {s s' : Relay Q R}

theorem orderly_start : (start capacity : Relay Q R).Orderly sinks capacity where
  capacity := rfl
  hasSender := by simp [start, Channel.opened]
  hasReceiver := by simp [start, Channel.opened]
  inFlight d hd := by cases hd
  delivered d hd := by cases hd
  lossless _ := rfl
  cut h := by cases h
  complete h := by cases h

theorem Orderly.accepts_iff (h : s.Orderly sinks capacity) : s.channel.accepts = true ↔
    0 < s.senders ∧ s.forwarder ≠ .stopped ∧ s.channel.queue.length < max capacity 1 := by
  rw [Channel.accepts_iff, h.hasSender, h.hasReceiver, h.capacity]

theorem Orderly.dropSender (h : s.Orderly sinks capacity) (hsenders : 0 < s.senders) :
    s.dropSender.Orderly sinks capacity := by
  have hqueue : s.dropSender.channel.queue = s.channel.queue := by
    unfold Relay.dropSender
    dsimp only
    split <;> rfl
  refine { h with
    capacity := ?_, hasSender := ?_, hasReceiver := ?_
    lossless := fun hrunning => hqueue ▸ h.lossless hrunning }
  · rw [← h.capacity]
    unfold Relay.dropSender
    dsimp only
    split <;> rfl
  · unfold Relay.dropSender
    dsimp only
    split
    · rename_i hone
      simp [Channel.closeSender, hone]
    · rename_i hmore
      rw [h.hasSender]
      omega
  · rw [← h.hasReceiver.trans (Iff.rfl : _ ↔ s.dropSender.forwarder ≠ .stopped)]
    unfold Relay.dropSender
    dsimp only
    split <;> rfl

theorem Orderly.send (h : s.Orderly sinks capacity) (r : Report) :
    (s.send r).Orderly sinks capacity := by
  by_cases haccepts : s.channel.accepts = true
  · have hrunning := (h.accepts_iff.1 haccepts).2.1
    refine { h with
      capacity := Channel.capacity_send.trans h.capacity
      hasSender := by simpa [Relay.send] using h.hasSender
      hasReceiver := by simpa [Relay.send] using h.hasReceiver
      lossless := fun _ => ?_
      cut := fun hstopped => (hrunning hstopped).elim
      complete := fun hstopped => (hrunning hstopped).elim }
    simp only [Relay.send, if_pos haccepts, Channel.queue_send haccepts]
    rw [h.lossless hrunning, List.append_assoc]
    rfl
  · have hsame : s.send r = s := by
      simp only [Relay.send, if_neg haccepts, Channel.send_of_not_accepts haccepts]
    rw [hsame]
    exact h

theorem Orderly.receive (h : s.Orderly sinks capacity) {r : Report} {channel : Channel}
    (hwaiting : s.forwarder = .waiting) (hreceived : s.channel.receive = (.report r, channel)) :
    Orderly sinks capacity
      { s with channel, forwarder := .busy ⟨r, [], sinks.dispatch r⟩ } := by
  obtain ⟨hcapacity, hhasSender, hhasReceiver⟩ := Channel.ends_of_receive hreceived
  refine { h with
    capacity := hcapacity.trans h.capacity
    hasSender := hhasSender ▸ h.hasSender
    hasReceiver := ?_, inFlight := ?_, lossless := fun _ => ?_
    cut := fun hstopped => by cases hstopped
    complete := fun hstopped => by cases hstopped }
  · have hrunning : s.channel.hasReceiver = true := h.hasReceiver.2 (by simp [hwaiting])
    simp [hhasReceiver, hrunning]
  · rintro d ⟨⟩
    exact Program.after_nil.2 rfl
  · have hlossless := h.lossless (by simp [hwaiting])
    simpa [dispatched, hwaiting, Forwarder.inFlight, Channel.queue_of_receive hreceived]
      using hlossless

theorem Orderly.exchange (h : s.Orderly sinks capacity) {r : Report} {past : List (Exchange Q R)}
    {q : Q} {next : R q → Program Q R Bool} (hbusy : s.forwarder = .busy ⟨r, past, .ask q next⟩)
    (answer : R q) : Orderly sinks capacity
      { s with forwarder := .busy ⟨r, past ++ [⟨q, answer⟩], next answer⟩ } := by
  have hrunning : s.forwarder ≠ .stopped := by simp [hbusy]
  refine { h with
    hasReceiver := ?_, inFlight := ?_, lossless := fun _ => ?_
    cut := fun hstopped => by cases hstopped
    complete := fun hstopped => by cases hstopped }
  · simp [h.hasReceiver.2 hrunning]
  · rintro d ⟨⟩
    exact (h.inFlight _ hbusy).step answer
  · simpa [dispatched, hbusy, Forwarder.inFlight] using h.lossless hrunning

theorem Orderly.deliver (h : s.Orderly sinks capacity) {r : Report} {past : List (Exchange Q R)}
    {delivered : Bool} (hbusy : s.forwarder = .busy ⟨r, past, .done delivered⟩) :
    Orderly sinks capacity { s with
      forwarder := .waiting, deliveries := s.deliveries ++ [⟨r, past, delivered⟩] } := by
  have hrunning : s.forwarder ≠ .stopped := by simp [hbusy]
  refine { h with
    hasReceiver := ?_
    inFlight := fun d hd => by cases hd
    delivered := ?_, lossless := fun _ => ?_
    cut := fun hstopped => by cases hstopped
    complete := fun hstopped => by cases hstopped }
  · simp [h.hasReceiver.2 hrunning]
  · intro d hd
    rcases List.mem_append.1 hd with hd | hd
    · exact h.delivered d hd
    · cases List.mem_singleton.1 hd
      exact h.inFlight _ hbusy
  · simpa [dispatched, hbusy, Forwarder.inFlight] using h.lossless hrunning

theorem Orderly.halt (h : s.Orderly sinks capacity) {channel : Channel}
    (hwaiting : s.forwarder = .waiting) (hcapacity : channel.capacity = s.channel.capacity)
    (hhasSender : channel.hasSender = s.channel.hasSender)
    (hcause : s.channel.queue = [] ∨ s.shutdown = true) :
    (s.halt channel).Orderly sinks capacity := by
  have hlossless := h.lossless (by simp [hwaiting])
  have hdispatched : (s.halt channel).dispatched = s.dispatched := by
    simp [dispatched, Relay.halt, hwaiting, Forwarder.inFlight]
  exact {
    capacity := hcapacity.trans h.capacity
    hasSender := hhasSender ▸ h.hasSender
    hasReceiver := by simp [Relay.halt, Channel.closeReceiver]
    inFlight := fun d hd => by cases hd
    delivered := h.delivered
    lossless := fun hrunning => (hrunning rfl).elim
    cut := fun _ => ⟨s.channel.queue, hdispatched ▸ hlossless.symm⟩
    complete := fun _ hshutdown => by
      rcases hcause with hempty | hshut
      · rw [hdispatched, Relay.halt, hlossless, hempty, List.append_nil]
      · cases hshut.symm.trans hshutdown }

theorem Orderly.step (h : s.Orderly sinks capacity) (hstep : s.Step sinks s') :
    s'.Orderly sinks capacity := by
  cases hstep with
  | clone hsenders =>
    have hsender := h.hasSender.2 hsenders
    exact { h with hasSender := by simp [hsender] }
  | dropSender hsenders => exact h.dropSender hsenders
  | send r hsenders => exact h.send r
  | shutdown => exact { h with complete := fun _ hshutdown => by cases hshutdown }
  | receive hwaiting hreceived => exact h.receive hwaiting hreceived
  | exchange hbusy answer => exact h.exchange hbusy answer
  | deliver hbusy => exact h.deliver hbusy
  | close hwaiting hreceived =>
    obtain ⟨hempty, -⟩ := Channel.of_receive_closed hreceived
    have hrunning : s.channel.hasReceiver = true := h.hasReceiver.2 (by simp [hwaiting])
    rw [Channel.receive_of_empty hrunning hempty] at hreceived
    cases (Prod.ext_iff.1 hreceived).2
    exact h.halt hwaiting rfl rfl (.inl hempty)
  | stop hwaiting hshutdown => exact h.halt hwaiting rfl rfl (.inr hshutdown)

theorem orderly_of_steps (h : Relation.ReflTransGen (Step sinks) (start capacity) s) :
    s.Orderly sinks capacity := by
  induction h with
  | refl => exact orderly_start
  | tail _ hstep ih => exact ih.step hstep

/-- A step after which no shutdown was asked for. -/
def Proceeds (sinks : Sinks (Program Q R)) (s s' : Relay Q R) : Prop :=
  s.Step sinks s' ∧ s'.shutdown = false

def Drained (accepted : List Report) (s : Relay Q R) : Prop :=
  s.forwarder = .stopped ∧ s.accepted = accepted ∧ s.deliveries.map (·.report) = accepted

theorem Proceeds.of_busy (h : s.Proceeds sinks s') (hsenders : s.senders = 0) {d : Dispatch Q R}
    (hbusy : s.forwarder = .busy d) :
    (∃ q next answer, d.rest = .ask q next ∧ s' = { s with
      forwarder := .busy ⟨d.report, d.past ++ [⟨q, answer⟩], next answer⟩ }) ∨
    ∃ delivered, d.rest = .done delivered ∧ s' = { s with
      forwarder := .waiting, deliveries := s.deliveries ++ [⟨d.report, d.past, delivered⟩] } := by
  obtain ⟨hstep, hshutdown⟩ := h
  cases hstep with
  | clone hpos => omega
  | dropSender hpos => omega
  | send r hpos => omega
  | shutdown => cases hshutdown
  | receive hwaiting _ => cases hwaiting.symm.trans hbusy
  | exchange hbusy' answer =>
    cases hbusy'.symm.trans hbusy
    exact .inl ⟨_, _, answer, rfl, rfl⟩
  | deliver hbusy' =>
    cases hbusy'.symm.trans hbusy
    exact .inr ⟨_, rfl, rfl⟩
  | close hwaiting _ => cases hwaiting.symm.trans hbusy
  | stop hwaiting _ => cases hwaiting.symm.trans hbusy

theorem Proceeds.of_waiting (h : s.Proceeds sinks s') (hsenders : s.senders = 0)
    (hwaiting : s.forwarder = .waiting) :
    (∃ r channel, s.channel.receive = (.report r, channel) ∧
      s' = { s with channel, forwarder := .busy ⟨r, [], sinks.dispatch r⟩ }) ∨
    ∃ channel, s.channel.receive = (.closed, channel) ∧ s' = s.halt channel := by
  obtain ⟨hstep, hshutdown⟩ := h
  cases hstep with
  | clone hpos => omega
  | dropSender hpos => omega
  | send r hpos => omega
  | shutdown => cases hshutdown
  | receive _ hreceived => exact .inl ⟨_, _, hreceived, rfl⟩
  | exchange hbusy _ => cases hwaiting.symm.trans hbusy
  | deliver hbusy => cases hwaiting.symm.trans hbusy
  | close _ hreceived => exact .inr ⟨_, hreceived, rfl⟩
  | stop _ hshut => cases hshut.symm.trans hshutdown

theorem inevitable_of_busy [∀ q, Nonempty (R q)] {P : Relay Q R → Prop} (rest : Program Q R Bool)
    (h : s.Orderly sinks capacity) (hsenders : s.senders = 0) (hshutdown : s.shutdown = false)
    {r : Report} {past : List (Exchange Q R)} (hbusy : s.forwarder = .busy ⟨r, past, rest⟩)
    (hwaiting : ∀ s' : Relay Q R, s'.Orderly sinks capacity → s'.senders = 0 →
      s'.shutdown = false → s'.forwarder = .waiting → s'.channel = s.channel →
      s'.accepted = s.accepted → Inevitable (Proceeds sinks) P s') :
    Inevitable (Proceeds sinks) P s := by
  induction rest generalizing s past with
  | done delivered =>
    refine .next ⟨_, .deliver hbusy, hshutdown⟩ fun s' hstep => ?_
    rcases hstep.of_busy hsenders hbusy with ⟨q, next, answer, hrest, -⟩ | ⟨b, hrest, rfl⟩
    · cases hrest
    · exact hwaiting _ (h.step hstep.1) hsenders hshutdown rfl rfl rfl
  | ask q next ih =>
    obtain ⟨answer⟩ := (inferInstance : Nonempty (R q))
    refine .next ⟨_, .exchange hbusy answer, hshutdown⟩ fun s' hstep => ?_
    rcases hstep.of_busy hsenders hbusy with ⟨q', next', answer', hrest, rfl⟩ | ⟨b, hrest, -⟩
    · cases hrest
      exact ih answer' (h.step hstep.1) hsenders hshutdown rfl hwaiting
    · cases hrest

theorem inevitable_of_waiting [∀ q, Nonempty (R q)] (queue : List Report)
    (h : s.Orderly sinks capacity) (hsenders : s.senders = 0) (hshutdown : s.shutdown = false)
    (hwaiting : s.forwarder = .waiting) (hqueue : s.channel.queue = queue) :
    Inevitable (Proceeds sinks) (Drained s.accepted) s := by
  have hreceiver : s.channel.hasReceiver = true := h.hasReceiver.2 (by simp [hwaiting])
  induction queue generalizing s with
  | nil =>
    have hclosed : s.channel.receive = (.closed, s.channel) := by
      have hsender : s.channel.hasSender ≠ true := fun hs => by
        have := h.hasSender.1 hs
        omega
      rw [Channel.receive_of_empty hreceiver hqueue, if_neg hsender]
    refine .next ⟨_, .close hwaiting hclosed, hshutdown⟩ fun s' hstep => ?_
    rcases hstep.of_waiting hsenders hwaiting with
      ⟨r, channel, hreceived, -⟩ | ⟨channel, hreceived, rfl⟩
    · cases hclosed.symm.trans hreceived
    · have hcomplete := (h.step hstep.1).complete rfl hshutdown
      exact .now ⟨rfl, rfl, by simpa [dispatched, halt, Forwarder.inFlight] using hcomplete⟩
  | cons r queue ih =>
    obtain ⟨channel, hreceive⟩ := Channel.exists_receive hreceiver hqueue
    refine .next ⟨_, .receive hwaiting hreceive, hshutdown⟩ fun s' hstep => ?_
    rcases hstep.of_waiting hsenders hwaiting with
      ⟨r', channel', hreceived, rfl⟩ | ⟨channel', hreceived, -⟩
    · cases hreceive.symm.trans hreceived
      have hrest := Channel.queue_of_receive hreceive
      rw [hqueue] at hrest
      refine inevitable_of_busy _ (h.step hstep.1) hsenders hshutdown rfl ?_
      intro s' h' hsenders' hshutdown' hwaiting' hchannel haccepted
      have hreceiver' : s'.channel.hasReceiver = true := h'.hasReceiver.2 (by simp [hwaiting'])
      have hqueue' : s'.channel.queue = queue := by
        rw [hchannel]
        exact (List.cons.inj hrest).2.symm
      exact haccepted ▸ ih h' hsenders' hshutdown' hwaiting' hqueue' hreceiver'
    · cases hreceive.symm.trans hreceived

theorem Orderly.inevitable [∀ q, Nonempty (R q)] (h : s.Orderly sinks capacity)
    (hsenders : s.senders = 0) (hshutdown : s.shutdown = false) :
    Inevitable (Proceeds sinks) (Drained s.accepted) s := by
  cases hforwarder : s.forwarder with
  | waiting => exact inevitable_of_waiting _ h hsenders hshutdown hforwarder rfl
  | busy d =>
    refine inevitable_of_busy d.rest h hsenders hshutdown hforwarder ?_
    intro s' h' hsenders' hshutdown' hwaiting' _ haccepted
    exact haccepted ▸ inevitable_of_waiting _ h' hsenders' hshutdown' hwaiting' rfl
  | stopped =>
    have hcomplete := h.complete hforwarder hshutdown
    exact .now ⟨hforwarder, rfl, by simpa [dispatched, hforwarder, Forwarder.inFlight]
      using hcomplete⟩

end Steps

/-- What holds of a relay whose sinks were registered in this order. -/
structure Delivers (registrations : List (String × Sink (Program Q R))) (capacity : Nat)
    (s : Relay Q R) : Prop where
  bounded : s.channel.queue.length ≤ max capacity 1
  /-- A report is accepted as long as there are a sender, a forwarder and room. -/
  accepts : s.channel.accepts = true ↔
    0 < s.senders ∧ s.forwarder ≠ .stopped ∧ s.channel.queue.length < max capacity 1
  /-- A sender is told that its report was accepted exactly if it joined the queue. -/
  enqueued : ∀ r, s.channel.accepts = true ↔ (s.channel.send r).queue = s.channel.queue ++ [r]
  refused : ∀ r, s.channel.accepts = false → s.channel.send r = s.channel
  /-- The reports are dispatched in the order in which they were accepted, each of them once. -/
  ordered : s.deliveries.map (·.report) ++ s.forwarder.inFlight <+: s.accepted
  applied : ∀ d ∈ s.deliveries, d.Applied registrations
  /-- So is the report in flight, however the exchanges go on. -/
  applying : ∀ d, s.forwarder = .busy d → ∀ es delivered, d.rest.Ends es delivered →
    Delivery.Applied registrations ⟨d.report, d.past ++ es, delivered⟩
  /-- The reports after any one of them are dispatched as if there had been none before. -/
  independent : ∀ before after, s.deliveries = before ++ after →
    (Sinks.dispatchAll (Dict.ofList registrations) (after.map (·.report))).Ends
      (after.flatMap (·.exchanges)) ()
  complete : s.forwarder = .stopped → s.shutdown = false →
    s.deliveries.map (·.report) = s.accepted
  /-- Without senders and a shutdown all that was accepted is dispatched in the end. -/
  drained : s.senders = 0 → s.shutdown = false →
    Inevitable (Proceeds (Dict.ofList registrations)) (Drained s.accepted) s

end Relay

/-- However the steps of senders, forwarder and sinks follow each other and whatever the sinks are
answered, reports are delivered in the order in which they were accepted, at most once, each by the
sink that was registered last for its kind, and all of them unless there is a shutdown. -/
theorem reports_are_delivered_in_order [∀ q, Nonempty (R q)]
    (registrations : List (String × Sink (Program Q R))) (capacity : Nat) {s : Relay Q R}
    (h : Relation.ReflTransGen (Relay.Step (Dict.ofList registrations)) (.start capacity) s) :
    s.Delivers registrations capacity := by
  have horderly := Relay.orderly_of_steps h
  have hdispatched (hstopped : s.forwarder = .stopped) :
      s.dispatched = s.deliveries.map (·.report) := by
    simp [Relay.dispatched, hstopped, Forwarder.inFlight]
  exact {
    bounded := horderly.capacity ▸ s.channel.length_le
    accepts := horderly.accepts_iff
    enqueued := fun r => by
      refine ⟨Channel.queue_send, fun hqueue => ?_⟩
      by_cases haccepts : s.channel.accepts = true
      · exact haccepts
      · rw [Channel.send_of_not_accepts haccepts] at hqueue
        simp at hqueue
    refused := fun r hrefused => Channel.send_of_not_accepts (by simp [hrefused])
    ordered := by
      by_cases hstopped : s.forwarder = .stopped
      · exact horderly.cut hstopped
      · exact ⟨s.channel.queue, (horderly.lossless hstopped).symm⟩
    applied := fun d hd => Delivery.applied (horderly.delivered d hd)
    applying := fun d hbusy es delivered hends =>
      Delivery.applied (d := ⟨d.report, d.past ++ es, delivered⟩)
        (Program.after_append.2 ⟨d.rest, horderly.inFlight d hbusy, hends⟩)
    independent := fun before after hsplit => Sinks.ends_dispatchAll fun d hd =>
      horderly.delivered d (hsplit ▸ List.mem_append_right before hd)
    complete := fun hstopped hshutdown =>
      (hdispatched hstopped).symm.trans (horderly.complete hstopped hshutdown)
    drained := horderly.inevitable }

/-- A sink of settings that was replaced, one of secrets that fails, and the one of settings. -/
def threeSinks : List (String × Sink (Program String fun _ => Bool)) :=
  [("Settings", fun _ => return .ok false),
    ("Secret", fun r => do
      let _ ← Program.send ("secret of " ++ r.cluster)
      return .error (.config "no connection")),
    ("Settings", fun r => .ok <$> Program.send ("settings of " ++ r.cluster))]

def reportOn (kind : String) : Report := { (default : Report) with kind, cluster := "east" }

/-- A report of an unknown kind, one that is refused, one whose sink fails and one that is
recorded, after which the last of two senders is dropped. -/
theorem steps_of_four_reports :
    Relation.ReflTransGen (Relay.Step (Dict.ofList threeSinks)) (.start 0)
      { channel := ((Channel.opened 0).closeSender).closeReceiver
        senders := 0
        shutdown := false
        forwarder := .stopped
        accepted := [reportOn "Volume", reportOn "Secret", reportOn "Settings"]
        deliveries :=
          [⟨reportOn "Volume", [], false⟩,
            ⟨reportOn "Secret", [⟨"secret of east", true⟩], false⟩,
            ⟨reportOn "Settings", [⟨"settings of east", true⟩], true⟩] } := by
  refine .head (.send (reportOn "Volume") (by decide)) ?_
  refine .head (.send (reportOn "Settings") (by decide)) ?_
  refine .head (.clone (by decide)) ?_
  refine .head (.receive rfl rfl) ?_
  refine .head (.deliver rfl) ?_
  refine .head (.send (reportOn "Secret") (by decide)) ?_
  refine .head (.dropSender (by decide)) ?_
  refine .head (.receive rfl rfl) ?_
  refine .head (.send (reportOn "Settings") (by decide)) ?_
  refine .head (.dropSender (by decide)) ?_
  refine .head (.exchange rfl true) ?_
  refine .head (.deliver rfl) ?_
  refine .head (.receive rfl rfl) ?_
  refine .head (.exchange rfl true) ?_
  refine .head (.deliver rfl) ?_
  exact .single (.close rfl rfl)

theorem a_failing_sink_stops_nothing : ∃ s : Relay String fun _ => Bool,
    Relation.ReflTransGen (Relay.Step (Dict.ofList threeSinks)) (.start 0) s ∧
      s.deliveries.map (fun d => (d.report.kind, d.delivered)) =
        [("Volume", false), ("Secret", false), ("Settings", true)] ∧
      s.Delivers threeSinks 0 :=
  ⟨_, steps_of_four_reports, rfl,
    reports_are_delivered_in_order threeSinks 0 steps_of_four_reports⟩

end FleetSync
