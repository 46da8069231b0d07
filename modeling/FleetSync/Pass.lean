import FleetSync.Finalizer
import FleetSync.Sync

/-!
# A pass over one template

A pass reads the template afresh. A template whose deletion was requested loses its concrete object
and then its finalizer; so does one that is not placed on this cluster. A template that is placed
here gets its concrete object written, then its finalizer, and the outcome is folded into its
status, which is written only if it differs from the one that was read. The aggregator is told
after such a write. A failure to write the object or the finalizer is recorded before the pass
fails with it.
-/
namespace FleetSync

variable {k : Kind}

/-- The condition that records how a synchronization ended. -/
def Condition.ofOutcome (kind : String) (outcome : Except Failure SyncOutcome) (now : Instant) :
    Condition :=
  match outcome with
  | .ok done => ⟨.deployComplete, .isTrue, kind ++ " " ++ done.text, now⟩
  | .error f => ⟨.deployFailed, .isTrue, f.message, now⟩

/-- The status with the outcome of this cluster's pass. -/
def FleetStatus.record (s : FleetStatus) (p : Placement) (cluster : String) (c : Condition) :
    FleetStatus :=
  ((s.appendCondition c).setCluster cluster (.ofCondition c)).refresh p

namespace Template

/-- The template with the outcome of a cluster's pass in its status. -/
def withOutcome (t : Template k) (cluster : String) (c : Condition) : Template k :=
  t.mapStatus fun s => s.record t.placement cluster c

/-- The template with the state that its entries imply. -/
def refreshed (t : Template k) : Template k := t.mapStatus fun s => s.refresh t.placement

/-- What the aggregator is told of a cluster's pass. -/
def reportOf (t : Template k) (cluster : String) (c : Condition) : Report :=
  ⟨k.template.kind, t.metadata.key, cluster, c, .ofCondition c⟩

/-- Records an outcome, unless it leaves the status as it was `persisted`, and reports it. The
answer is the copy to go on with. -/
def recordOutcome (t : Template k) (persisted : FleetStatus) (cluster : String) (c : Condition) :
    Attempt k (Template k) := do
  let updated := t.withOutcome cluster c
  if updated.status = some persisted then return updated
  else
    let stored ← askTemplates (.replaceStatus t.metadata.key updated)
    liftM (sendReport (t.reportOf cluster c) : Task k Unit)
    return stored

/-- Writes the concrete object, then the finalizer. The answer is the copy of the template to go on
with, and how it went. -/
def materialize (t : Template k) : Task k (Template k × Except Failure SyncOutcome) := do
  match ← (synchronize t.metadata.key (k.mutate t.payload)).run with
  | .error f => return (t, .error f)
  | .ok done =>
    match ← (t.addFinalizer k.finalizer).run with
    | .error f => return (t, .error f)
    | .ok stored => return (stored.getD t, .ok done)

/-- The rest of a pass on a template that is placed on `cluster`. -/
def deploy (t : Template k) (persisted : FleetStatus) (cluster : String) : Attempt k Unit := do
  let (current, outcome) ← liftM t.materialize
  let now ← liftM (askNow : Task k Instant)
  let condition := Condition.ofOutcome k.concrete.kind outcome now
  let _ ← current.recordOutcome persisted cluster condition
  let _ ← liftM outcome

/-- The rest of a pass on a template that is not placed on this cluster, whose state was `previous`
when it was read. -/
def prune (t : Template k) (previous : ResourceState) : Attempt k Unit := do
  let current ←
    if t.currentStatus.state = previous then pure t
    else askTemplates (.replaceStatus t.metadata.key t)
  let _ ← current.release k.finalizer

def process (t : Template k) : Attempt k Unit := do
  if t.metadata.isDeleting then
    let _ ← t.release k.finalizer
  else
    let cluster ← askClusterName
    let persisted := t.currentStatus
    if t.placement.places cluster then t.refreshed.deploy persisted cluster
    else t.refreshed.prune persisted.state

end Template

/-- The failure says that the template itself is gone. -/
def isTemplateGone (k : Kind) : Failure → Bool
  | .notFound kind _ _ => kind == k.template.kind
  | _ => false

/-- The pass over the template at an address. It succeeds also if the template vanishes under
it. -/
def reconcile (key : Key) : Attempt k Unit := do
  match ← askTemplates (.get key) with
  | none => return ()
  | some t => tryCatch t.process fun f => if isTemplateGone k f then return () else throw f

end FleetSync
