import FleetSync.Object.Document

/-!
# Stored objects

What the stores and the server's interface need to know of a kind of object: its address on the
server, its metadata, its status and its form as a document.
-/
namespace FleetSync

/-- A kind of object that the server stores: its version, its name and the path of its objects. -/
structure ResourceType where
  apiVersion : String
  kind : String
  plural : String
  deriving DecidableEq, Repr, Inhabited

class Resource (α : Type) where
  type : ResourceType
  metadata : α → Metadata
  withMetadata : α → Metadata → α
  /-- The first object with the status of the second one, if its kind has a status. -/
  withStatusOf : α → α → α
  toJson : α → Json
  ofJson? : Reader α

namespace Resource

variable {α : Type} [Resource α]

/-- Where a store keeps the object. -/
def storedKey (o : α) : Key := (metadata o).storedKey

def version? (o : α) : Option String := (metadata o).resourceVersion

def unversionedJson (o : α) : Json :=
  toJson (withMetadata o { metadata o with resourceVersion := none })

end Resource

end FleetSync
