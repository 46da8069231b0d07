import FleetSync.Failure
import FleetSync.Object.Resource

/-!
# Calls of a store

What can be asked of a store of objects. A write carries the version that it is based on, and the
answer to it is the object as it was stored.
-/
namespace FleetSync

inductive StoreCall (α : Type) where
  | get (key : Key)
  | create (ns : String) (object : α)
  | replace (key : Key) (object : α)
  /-- Replaces the status and nothing else, where the store keeps them apart. -/
  | replaceStatus (key : Key) (object : α)
  /-- Succeeds also if there is nothing to delete. -/
  | delete (key : Key)

abbrev StoreCall.Value {α : Type} : StoreCall α → Type
  | get _ => Option α
  | create _ _ => α
  | replace _ _ => α
  | replaceStatus _ _ => α
  | delete _ => Unit

abbrev StoreCall.Answer {α : Type} (c : StoreCall α) : Type := Except Failure c.Value

def StoreCall.key {α : Type} [Resource α] : StoreCall α → Key
  | get key => key
  | create ns o => ⟨ns, (Resource.metadata o).name.getD ""⟩
  | replace key _ => key
  | replaceStatus key _ => key
  | delete key => key

end FleetSync
