import FleetSync.Data.Dict
import FleetSync.Time.Instant

/-!
# Object metadata

What every stored object carries beside its content. A missing field differs from an empty one.
-/
namespace FleetSync

/-- The address of an object within its store: its namespace and its name. -/
structure Key where
  ns : String
  name : String
  deriving DecidableEq, Repr, Inhabited

instance : KeyOrder Key where
  precedes a b := KeyOrder.precedes (a.ns, a.name) (b.ns, b.name)
  irrefl a := KeyOrder.irrefl (a.ns, a.name)
  trans h₁ h₂ := KeyOrder.trans (κ := String × String) h₁ h₂
  connected {a b} h := KeyOrder.connected fun e => h (by cases a; cases b; simpa using e)

/-- `namespace/name`, as messages and logs name an object. -/
def Key.path (k : Key) : String := k.ns ++ "/" ++ k.name

structure OwnerReference where
  apiVersion : String
  kind : String
  name : String
  uid : String
  blockOwnerDeletion : Option Bool
  controller : Option Bool
  deriving DecidableEq, Repr, Inhabited

/-- All fields but `managedFields` and `selfLink`, which are dropped where an object is read. -/
structure Metadata where
  name : Option String := none
  generateName : Option String := none
  ns : Option String := none
  uid : Option String := none
  resourceVersion : Option String := none
  generation : Option Int := none
  labels : Option (StrDict String) := none
  annotations : Option (StrDict String) := none
  finalizers : Option (List String) := none
  creationTimestamp : Option Instant := none
  deletionTimestamp : Option Instant := none
  deletionGracePeriodSeconds : Option Int := none
  ownerReferences : Option (List OwnerReference) := none
  deriving DecidableEq, Repr, Inhabited

namespace Metadata

/-- The name, or what the server is to generate one from, or nothing. -/
def anyName (m : Metadata) : String := (m.name.or m.generateName).getD ""

/-- Where a pass looks for the object. -/
def key (m : Metadata) : Key := ⟨m.ns.getD "", m.anyName⟩

/-- Where a store keeps the object. -/
def storedKey (m : Metadata) : Key := ⟨m.ns.getD "", m.name.getD ""⟩

def hasFinalizer (m : Metadata) (token : String) : Bool := (m.finalizers.getD []).contains token

def isDeleting (m : Metadata) : Bool := m.deletionTimestamp.isSome

/-- The list with the token at its end. -/
def addFinalizer (m : Metadata) (token : String) : Metadata :=
  { m with finalizers := some (m.finalizers.getD [] ++ [token]) }

/-- The list without any occurrence of the token. -/
def dropFinalizer (m : Metadata) (token : String) : Metadata :=
  { m with finalizers := some ((m.finalizers.getD []).filter (· ≠ token)) }

end Metadata

end FleetSync
