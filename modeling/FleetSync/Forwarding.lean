import FleetSync.Sync
import FleetSync.Status.Fold

/-!
# Forwarding reports

The aggregator folds each report into its own copy of the template. The forwarder gives a report to
the sink that was registered for its kind; a report without a sink, or one that its sink fails to
record, is lost, and the ones after it are not affected.
-/
namespace FleetSync

variable {k : Kind}

namespace Template

/-- The template with a report folded into its status. -/
def withReport (t : Template k) (r : Report) : Template k :=
  t.mapStatus fun s => s.absorb t.placement r.cluster r.condition r.entry

def reportChanges (t : Template k) (r : Report) : Bool :=
  t.currentStatus.absorbChanges t.placement r.cluster r.condition r.entry

end Template

/-- One attempt to record a report; the answer says whether the stored status changed. A template
that is not there, or not any more, needs no report. -/
def recordReportOnce (r : Report) : Attempt k Bool := do
  match ← askTemplates (.get r.key) with
  | none => return false
  | some t =>
    if t.reportChanges r then
      tryCatch (do let _ ← askTemplates (.replaceStatus r.key (t.withReport r)); return true)
        fun f => if f.isNotFound then return false else throw f
    else return false

/-- Records a report in the aggregator's copy of the template. -/
def recordReport (r : Report) : Attempt k Bool := retryConflicts (recordReportOnce r)

/-- Records a report somewhere and says whether that changed anything. -/
abbrev Sink (m : Type → Type) := Report → m (Except Failure Bool)

abbrev Sinks (m : Type → Type) := StrDict (Sink m)

namespace Sinks

variable {m : Type → Type} [Monad m]

/-- Gives a report to the sink of its kind; the answer says whether it was recorded. -/
def dispatch (sinks : Sinks m) (r : Report) : m Bool :=
  match sinks.get? r.kind with
  | none => return false
  | some sink => do
    match ← sink r with
    | .ok _ => return true
    | .error _ => return false

/-- Gives the reports to their sinks, one after the other. -/
def dispatchAll (sinks : Sinks m) : List Report → m Unit
  | [] => return ()
  | r :: rest => do
    let _ ← sinks.dispatch r
    sinks.dispatchAll rest

end Sinks

end FleetSync
