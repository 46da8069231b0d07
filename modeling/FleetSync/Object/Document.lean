import FleetSync.Object.Metadata
import FleetSync.Json.Reader
import FleetSync.Time.Rfc3339

/-!
# Metadata as documents

Absent fields are not written. The times of metadata are written in whole seconds; other times keep
their fraction.
-/
namespace FleetSync

def Instant.toJson (t : Instant) : Json := .str t.toRfc3339

def Reader.instant : Reader Instant := fun j => (Reader.string j).bind Instant.ofRfc3339?

namespace OwnerReference

def toJson (o : OwnerReference) : Json := Json.object <|
  [("apiVersion", .str o.apiVersion), ("kind", .str o.kind), ("name", .str o.name),
    ("uid", .str o.uid)] ++
  Json.field "blockOwnerDeletion" .bool o.blockOwnerDeletion ++
  Json.field "controller" .bool o.controller

def ofJson? : Reader OwnerReference := fun j => do
  let fields ← Reader.openRecord j
  return {
    apiVersion := ← Reader.orDefault fields "apiVersion" "" Reader.string
    kind := ← Reader.orDefault fields "kind" "" Reader.string
    name := ← Reader.orDefault fields "name" "" Reader.string
    uid := ← Reader.orDefault fields "uid" "" Reader.string
    blockOwnerDeletion := ← Reader.maybe fields "blockOwnerDeletion" Reader.bool
    controller := ← Reader.maybe fields "controller" Reader.bool }

end OwnerReference

namespace Metadata

def strings (l : List String) : Json := .arr (l.map .str)

def toJson (m : Metadata) : Json := Json.object <|
  Json.field "annotations" (Json.ofDict .str) m.annotations ++
  Json.field "creationTimestamp" (fun t => t.wholeSeconds.toJson) m.creationTimestamp ++
  Json.field "deletionGracePeriodSeconds" .int m.deletionGracePeriodSeconds ++
  Json.field "deletionTimestamp" (fun t => t.wholeSeconds.toJson) m.deletionTimestamp ++
  Json.field "finalizers" strings m.finalizers ++
  Json.field "generateName" .str m.generateName ++
  Json.field "generation" .int m.generation ++
  Json.field "labels" (Json.ofDict .str) m.labels ++
  Json.field "name" .str m.name ++
  Json.field "namespace" .str m.ns ++
  Json.field "ownerReferences" (fun l => .arr (l.map OwnerReference.toJson)) m.ownerReferences ++
  Json.field "resourceVersion" .str m.resourceVersion ++
  Json.field "uid" .str m.uid

def ofJson? : Reader Metadata := fun j => do
  let fields ← Reader.openRecord j
  return {
    name := ← Reader.maybe fields "name" Reader.string
    generateName := ← Reader.maybe fields "generateName" Reader.string
    ns := ← Reader.maybe fields "namespace" Reader.string
    uid := ← Reader.maybe fields "uid" Reader.string
    resourceVersion := ← Reader.maybe fields "resourceVersion" Reader.string
    generation := ← Reader.maybe fields "generation" Reader.int64
    labels := ← Reader.maybe fields "labels" (Reader.dict Reader.string)
    annotations := ← Reader.maybe fields "annotations" (Reader.dict Reader.string)
    finalizers := ← Reader.maybe fields "finalizers" (Reader.list Reader.string)
    creationTimestamp := ← Reader.maybe fields "creationTimestamp" Reader.instant
    deletionTimestamp := ← Reader.maybe fields "deletionTimestamp" Reader.instant
    deletionGracePeriodSeconds :=
      ← Reader.maybe fields "deletionGracePeriodSeconds" Reader.int64
    ownerReferences :=
      ← Reader.maybe fields "ownerReferences" (Reader.list OwnerReference.ofJson?) }

end Metadata

end FleetSync
