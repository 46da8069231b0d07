import FleetSync.Request

/-!
# Finalizers

A token among a template's finalizers keeps the template from vanishing before its concrete object.
It is released only after the object was deleted. The edits are based on the caller's copy of the
template; each answers with the copy to go on with, which is the stored one if something was
written, and a failed write leaves the caller with the copy it had.
-/
namespace FleetSync

/-- Where a template stands between its creation and its end. -/
inductive FinalizerState where
  | noFinalizer
  | finalized
  | removing
  | gone
  deriving DecidableEq, Repr, Inhabited

namespace FinalizerState

def of (m : Metadata) (token : String) : FinalizerState :=
  match m.isDeleting, m.hasFinalizer token with
  | false, false => noFinalizer
  | false, true => finalized
  | true, true => removing
  | true, false => gone

def text : FinalizerState → String
  | noFinalizer => "NoFinalizer"
  | finalized => "Finalized"
  | removing => "Removing"
  | gone => "Gone"

end FinalizerState

namespace Template

variable {k : Kind}

/-- The stored copy with the token, or `none` if the token is there already. -/
def addFinalizer (t : Template k) (token : String) : Attempt k (Option (Template k)) :=
  if t.metadata.hasFinalizer token then return none
  else
    let updated := { t with metadata := t.metadata.addFinalizer token }
    some <$> askTemplates (.replace t.metadata.key updated)

/-- The stored copy without the token, or `none` if the token is not there. -/
def removeFinalizer (t : Template k) (token : String) : Attempt k (Option (Template k)) :=
  if t.metadata.hasFinalizer token then
    let updated := { t with metadata := t.metadata.dropFinalizer token }
    some <$> askTemplates (.replace t.metadata.key updated)
  else return none

/-- Deletes the concrete object, then releases the token. -/
def release (t : Template k) (token : String) : Attempt k (Template k) := do
  askConcretes (.delete t.metadata.key)
  return (← t.removeFinalizer token).getD t

end Template

end FleetSync
