import FleetSync.Object.Resource
import FleetSync.Store.Call

/-!
# Versioned stores

A store gives every object that it stores a version of its own and refuses a write that is based on
another version than the stored one. A store may keep the status apart, so that an object and its
status are written by different calls.
-/
namespace FleetSync

structure Store (α : Type) where
  objects : Dict Key α
  /-- The version of the next object that is stored. -/
  nextVersion : Nat
  /-- Whether the status is written apart from the rest. -/
  statusApart : Bool

namespace Store

variable {α : Type}

def empty (statusApart : Bool) : Store α := ⟨∅, 1, statusApart⟩

def find? (s : Store α) (key : Key) : Option α := s.objects.get? key

/-- The store after an object vanished, whatever its version. -/
def drop (s : Store α) (key : Key) : Store α := { s with objects := s.objects.erase key }

variable [Resource α]

/-- Stores an object at an address under a new version. The answer is the object as stored. -/
def assign (s : Store α) (key : Key) (o : α) : α × Store α :=
  let stored := Resource.withMetadata o
    { Resource.metadata o with resourceVersion := some (toString s.nextVersion) }
  (stored, { s with
    objects := s.objects.insert key stored, nextVersion := s.nextVersion + 1 })

def put (s : Store α) (o : α) : α × Store α := s.assign (Resource.storedKey o) o

/-- Gives the object at an address, if there is one, a new version; a version is used up in any
case. -/
def touch (s : Store α) (key : Key) : Store α :=
  match s.find? key with
  | some o => (s.assign key o).2
  | none => { s with nextVersion := s.nextVersion + 1 }

/-- Replaces the object at an address by one that is derived from the stored one, if the write is
based on the stored version. -/
def replaceBy (s : Store α) (key : Key) (o : α) (combine : α → α) : Except Failure α × Store α :=
  match s.find? key with
  | none => (.error (.notFound (Resource.type α).kind key.ns key.name), s)
  | some stored =>
    if Resource.version? stored = Resource.version? o then
      let (written, s) := s.assign key (combine stored)
      (.ok written, s)
    else (.error (.conflict (key.path ++ " is stale")), s)

def answer : (call : StoreCall α) → Store α → call.Answer × Store α
  | .get key, s => (.ok (s.find? key), s)
  | .create ns o, s =>
    let o := Resource.withMetadata o { Resource.metadata o with ns := some ns }
    let key := Resource.storedKey o
    match s.find? key with
    | some _ => (.error (.conflict (key.path ++ " already exists")), s)
    | none =>
      let (stored, s) := s.assign key o
      (.ok stored, s)
  | .replace key o, s =>
    s.replaceBy key o fun stored => if s.statusApart then Resource.withStatusOf o stored else o
  | .replaceStatus key o, s =>
    s.replaceBy key o fun stored => if s.statusApart then Resource.withStatusOf stored o else o
  | .delete key, s => (.ok (), s.drop key)

end Store

end FleetSync
