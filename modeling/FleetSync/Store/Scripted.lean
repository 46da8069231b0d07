import FleetSync.Store.Versioned

/-!
# Stores with interference

A store whose calls can be disturbed: before a call runs, the call may fail, or another writer may
touch, drop or store an object. Each disturbance is met by one call and used up by it. The store
records its calls.
-/
namespace FleetSync

inductive Interference (α : Type) where
  /-- The call fails and does nothing. -/
  | fail (failure : Failure)
  /-- The addressed object is written by somebody else, without a change. -/
  | touch
  /-- The addressed object vanishes. -/
  | drop
  /-- An object is stored. -/
  | put (object : α)
  | nothing

inductive Verb where
  | get
  | create
  | replace
  | replaceStatus
  | delete
  deriving DecidableEq, Repr

namespace StoreCall

variable {α : Type}

def verb : StoreCall α → Verb
  | get _ => .get
  | create _ _ => .create
  | replace _ _ => .replace
  | replaceStatus _ _ => .replaceStatus
  | delete _ => .delete

end StoreCall

inductive CallOutcome where
  | found
  | none
  | ok
  | failed (failure : Failure)
  deriving DecidableEq, Repr

def StoreCall.outcome {α : Type} : (call : StoreCall α) → call.Answer → CallOutcome
  | _, .error f => .failed f
  | get _, .ok o => if (show Option α from o).isSome then .found else .none
  | create _ _, .ok _ => .ok
  | replace _ _, .ok _ => .ok
  | replaceStatus _ _, .ok _ => .ok
  | delete _, .ok _ => .ok

structure CallRecord where
  verb : Verb
  key : Key
  outcome : CallOutcome
  deriving DecidableEq, Repr

structure ScriptedStore (α : Type) where
  store : Store α
  /-- The disturbances that calls of each sort will meet, the next one first. -/
  script : Verb → List (Interference α)

namespace ScriptedStore

variable {α : Type} [Resource α]

def empty (statusApart : Bool) : ScriptedStore α := ⟨.empty statusApart, fun _ => []⟩

/-- The store with a change made past its script. -/
def mapStore (s : ScriptedStore α) (f : Store α → Store α) : ScriptedStore α :=
  { s with store := f s.store }

/-- The store whose calls of one sort will meet these disturbances after the earlier ones. -/
def appendScript (s : ScriptedStore α) (verb : Verb) (entries : List (Interference α)) :
    ScriptedStore α :=
  { s with script := fun v => if v = verb then s.script v ++ entries else s.script v }

/-- The store after what happens before a call, or the failure that the call meets. -/
def disturb (key : Key) (s : Store α) : Interference α → Except Failure (Store α)
  | .fail f => .error f
  | .touch => .ok (s.touch key)
  | .drop => .ok (s.drop key)
  | .put o => .ok (s.put o).2
  | .nothing => .ok s

def answer (call : StoreCall α) (s : ScriptedStore α) : call.Answer × ScriptedStore α :=
  let entry := (s.script call.verb).headD .nothing
  let rest := { s with
    script := fun v => if v = call.verb then (s.script v).tail else s.script v }
  match disturb call.key s.store entry with
  | .error f => (.error f, rest)
  | .ok store =>
    let (a, store) := store.answer call
    (a, { rest with store })

end ScriptedStore

end FleetSync
