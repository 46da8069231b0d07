import FleetSync.Request
import FleetSync.Retry

/-!
# Synchronizing concrete objects

Brings one concrete object to the form that a change of it prescribes. The object is read, changed
and written with the version that was read; if somebody else writes in between, all of it is done
again. An object that already has the prescribed form is not written.
-/
namespace FleetSync

inductive SyncOutcome where
  | created
  | updated
  | unchanged
  deriving DecidableEq, Repr, Inhabited

def SyncOutcome.text : SyncOutcome → String
  | created => "created"
  | updated => "updated"
  | unchanged => "unchanged"

/-- Who writes: the manager of the fields and the owner that labels name. -/
def managerName : String := "lattice-fleet"

def managedByLabel : String := "app.kubernetes.io/managed-by"

/-- Selects the concrete objects that a controller wrote. -/
def managedBySelector : String := managedByLabel ++ "=" ++ managerName

namespace Metadata

/-- The metadata with an address and with the label of the owner, whatever was there. -/
def pin (m : Metadata) (key : Key) : Metadata :=
  { m with
    name := some key.name
    ns := some key.ns
    labels := some ((m.labels.getD ∅).insert managedByLabel managerName) }

/-- A controller wrote the object. -/
def isManaged (m : Metadata) : Bool := (m.labels.getD ∅).get? managedByLabel == some managerName

end Metadata

variable {k : Kind}

namespace Concrete

/-- An object with an address and nothing else. -/
def blank (key : Key) : Concrete k :=
  ⟨{ name := some key.name, ns := some key.ns }, k.emptyBody⟩

def pin (c : Concrete k) (key : Key) : Concrete k := { c with metadata := c.metadata.pin key }

end Concrete

/-- A change of a concrete object, which may refuse. -/
abbrev Mutation (k : Kind) := Concrete k → Except Failure (Concrete k)

def retryConflicts {α : Type} (attempt : Attempt k α) : Attempt k α :=
  .mk (RetrySchedule.conflict.run 1 Failure.isConflict pause attempt.run)

/-- A failure to replace an object that is gone is a conflict: the next attempt creates it. -/
def vanished (key : Key) (f : Failure) : Failure :=
  if f.isNotFound then .conflict (k.concrete.kind ++ " " ++ key.path ++ " deleted during update")
  else f

def syncOnce (key : Key) (mutation : Mutation k) : Attempt k SyncOutcome := do
  match ← askConcretes (.get key) with
  | none =>
    let object ← liftM (mutation (.blank key))
    let _ ← askConcretes (.create key.ns (object.pin key))
    return .created
  | some existing =>
    let object ← liftM (mutation existing)
    let object := object.pin key
    if object = existing then return .unchanged
    else
      let _ ← (askConcretes (.replace key object)).adapt (vanished (k := k) key)
      return .updated

/-- Creates or updates the concrete object at an address. -/
def synchronize (key : Key) (mutation : Mutation k) : Attempt k SyncOutcome :=
  retryConflicts (syncOnce key mutation)

end FleetSync
