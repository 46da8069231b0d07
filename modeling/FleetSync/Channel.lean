import FleetSync.Report

/-!
# The channel of reports

A bounded queue between the passes of a cluster and the forwarder of their reports. Sending never
waits: a report is refused if the queue is full, if nobody receives, or if the sender's end is
closed. Reports leave in the order in which they were accepted, and those that are queued when the
sender's end closes are still received.
-/
namespace FleetSync

structure Channel where
  capacity : Nat
  queue : List Report
  hasSender : Bool
  hasReceiver : Bool
  capacity_pos : 0 < capacity
  length_le : queue.length ≤ capacity

/-- What the receiver's end finds. -/
inductive Received where
  | report (r : Report)
  /-- Nothing is queued, but more may come. -/
  | empty
  /-- Nothing is queued, and nothing will be. -/
  | closed
  | noReceiver
  deriving DecidableEq, Repr

namespace Channel

/-- The channel of a cluster that reports to nobody. -/
def disabled : Channel := ⟨1, [], false, false, by decide, by simp⟩

/-- An open channel; a capacity of zero counts as one. -/
def opened (capacity : Nat) : Channel :=
  ⟨max capacity 1, [], true, true, by omega, by simp⟩

/-- The greatest capacity of a channel. -/
def maxCapacity : Nat := 2305843009213693951

/-- The channel of a cluster with this capacity, if it reports at all. There is none of a capacity
above the greatest one. -/
def ofCapacity? : Option Nat → Option Channel
  | some capacity => if capacity ≤ maxCapacity then some (opened capacity) else none
  | none => some disabled

def accepts (c : Channel) : Bool :=
  c.hasSender && c.hasReceiver && decide (c.queue.length < c.capacity)

/-- The channel after a report was sent: it joins the queue or is lost. -/
def send (c : Channel) (r : Report) : Channel :=
  if h : c.accepts then
    { c with
      queue := c.queue ++ [r]
      length_le := by
        have : c.queue.length < c.capacity := by simp_all [accepts]
        simp only [List.length_append, List.length_singleton]
        omega }
  else c

def receive (c : Channel) : Received × Channel :=
  if c.hasReceiver then
    match h : c.queue with
    | r :: rest =>
      (.report r, { c with
        queue := rest, length_le := by have := c.length_le; simp [h] at this; omega })
    | [] => (if c.hasSender then .empty else .closed, c)
  else (.noReceiver, c)

/-- All that is queued, and the channel without it. -/
def drain (c : Channel) : List Report × Channel :=
  (c.queue, { c with queue := [], length_le := by simp })

/-- Without its sender's end nothing more is accepted. -/
def closeSender (c : Channel) : Channel := { c with hasSender := false }

/-- Without its receiver's end what is queued is lost. -/
def closeReceiver (c : Channel) : Channel :=
  { c with hasReceiver := false, queue := [], length_le := by simp }

section Lemmas
variable {c c' : Channel} {r : Report} {rest : List Report}

theorem accepts_iff : c.accepts = true ↔
    c.hasSender = true ∧ c.hasReceiver = true ∧ c.queue.length < c.capacity := by
  simp [accepts, and_assoc]

theorem queue_send (h : c.accepts = true) : (c.send r).queue = c.queue ++ [r] := by
  unfold send
  rw [dif_pos h]

theorem send_of_not_accepts (h : c.accepts ≠ true) : c.send r = c := by
  unfold send
  rw [dif_neg h]

@[simp] theorem capacity_send : (c.send r).capacity = c.capacity := by
  unfold send
  split <;> rfl

@[simp] theorem hasSender_send : (c.send r).hasSender = c.hasSender := by
  unfold send
  split <;> rfl

@[simp] theorem hasReceiver_send : (c.send r).hasReceiver = c.hasReceiver := by
  unfold send
  split <;> rfl

/-- What is received was the first in the queue. -/
theorem queue_of_receive (h : c.receive = (.report r, c')) : c.queue = r :: c'.queue := by
  unfold receive at h
  split at h
  · split at h
    · rename_i r' rest hqueue
      cases h
      exact hqueue
    · split at h <;> cases h
  · cases h

/-- To receive a report changes nothing but the queue. -/
theorem ends_of_receive (h : c.receive = (.report r, c')) :
    c'.capacity = c.capacity ∧ c'.hasSender = c.hasSender ∧ c'.hasReceiver = c.hasReceiver := by
  unfold receive at h
  split at h
  · split at h
    · cases h
      exact ⟨rfl, rfl, rfl⟩
    · split at h <;> cases h
  · cases h

theorem exists_receive (hreceiver : c.hasReceiver = true) (hqueue : c.queue = r :: rest) :
    ∃ c', c.receive = (.report r, c') := by
  unfold receive
  rw [if_pos hreceiver]
  split
  · rename_i r' rest' hqueue'
    rw [hqueue] at hqueue'
    cases hqueue'
    exact ⟨_, rfl⟩
  · rename_i hempty
    rw [hqueue] at hempty
    cases hempty

theorem receive_of_empty (hreceiver : c.hasReceiver = true) (hqueue : c.queue = []) :
    c.receive = (if c.hasSender then .empty else .closed, c) := by
  unfold receive
  rw [if_pos hreceiver]
  split
  · rename_i r rest hfull
    rw [hqueue] at hfull
    cases hfull
  · rfl

theorem of_receive_closed (h : c.receive = (.closed, c')) :
    c.queue = [] ∧ c.hasSender = false := by
  unfold receive at h
  split at h
  · split at h
    · cases h
    · rename_i hempty
      split at h
      · cases h
      · rename_i hsender
        exact ⟨hempty, by simpa using hsender⟩
  · cases h

end Lemmas

end Channel

end FleetSync
