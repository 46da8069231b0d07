import FleetSync.Program
import FleetSync.Report
import FleetSync.Kind.Basic
import FleetSync.Store.Call
import FleetSync.Time.Duration

/-!
# Requests of a controller

All that a controller for one kind asks of its surroundings: the two stores, the name of its
cluster, the time, a pause, and that a report be sent. Sending never fails and tells nothing.
-/
namespace FleetSync

inductive Request (k : Kind) where
  | template (call : StoreCall (Template k))
  | concrete (call : StoreCall (Concrete k))
  | clusterName
  | now
  | pause (d : Duration)
  | report (r : Report)

namespace Request

variable {k : Kind}

/-- A report stands for the whole guarded statement by which it is offered to a channel. Whether it
was accepted is discarded there, so there is no answer. -/
abbrev Answer : Request k → Type
  | template call => call.Answer
  | concrete call => call.Answer
  | clusterName => Except Failure String
  | now => Instant
  | pause _ => Unit
  | report _ => Unit

end Request

abbrev Task (k : Kind) := Program (Request k) Request.Answer

abbrev Attempt (k : Kind) := ExceptT Failure (Task k)

variable {k : Kind}

def askTemplates (call : StoreCall (Template k)) : Attempt k call.Value :=
  .mk (.send (Request.template call))

def askConcretes (call : StoreCall (Concrete k)) : Attempt k call.Value :=
  .mk (.send (Request.concrete call))

def askClusterName : Attempt k String := .mk (.send Request.clusterName)

def askNow : Task k Instant := .send Request.now

def pause (d : Duration) : Task k Unit := .send (Request.pause d)

def sendReport (r : Report) : Task k Unit := .send (Request.report r)

end FleetSync
