import FleetSync.Status.Fold
import FleetSync.Object.Document

/-!
# Status and placement as documents

A status always writes its state; empty conditions and clusters are not written. Absent optional
fields and unknown ones are accepted, a name outside its list is not.
-/
namespace FleetSync

namespace ResourceState

def toJson (s : ResourceState) : Json := .str s.text

def ofJson? : Reader ResourceState := Reader.choice ofText?

end ResourceState

namespace Condition

def toJson (c : Condition) : Json := Json.object
  [("lastTransitionTime", c.lastTransition.toJson), ("message", .str c.message),
    ("status", .str c.status.text), ("type", .str c.type.text)]

def ofJson? : Reader Condition := fun j => do
  let fields ← Reader.record ["type", "status", "message", "lastTransitionTime"] j
  return {
    type := ← Reader.required fields "type" (Reader.choice ConditionType.ofText?)
    status := ← Reader.required fields "status" (Reader.choice ConditionStatus.ofText?)
    message := ← Reader.withDefault fields "message" "" Reader.string
    lastTransition := ← Reader.required fields "lastTransitionTime" Reader.instant }

end Condition

namespace ClusterEntry

def toJson (e : ClusterEntry) : Json := Json.object <|
  [("state", e.state.toJson)] ++ Json.field "message" .str e.message ++
  Json.field "lastUpdateTime" Instant.toJson e.lastUpdate

def ofJson? : Reader ClusterEntry := fun j => do
  let fields ← Reader.record ["state", "message", "lastUpdateTime"] j
  return {
    state := ← Reader.required fields "state" ResourceState.ofJson?
    message := ← Reader.maybe fields "message" Reader.string
    lastUpdate := ← Reader.maybe fields "lastUpdateTime" Reader.instant }

end ClusterEntry

namespace FleetStatus

def toJson (s : FleetStatus) : Json := Json.object <|
  [("state", s.state.toJson)] ++
  (if s.conditions.isEmpty then [] else
    [("conditions", .arr (s.conditions.map Condition.toJson))]) ++
  (if s.clusters.isEmpty then [] else
    [("clusters", Json.ofDict ClusterEntry.toJson s.clusters)])

def ofJson? : Reader FleetStatus := fun j => do
  let fields ← Reader.record ["state", "conditions", "clusters"] j
  return {
    state := ← Reader.withDefault fields "state" .pending ResourceState.ofJson?
    conditions := ← Reader.withDefault fields "conditions" [] (Reader.list Condition.ofJson?)
    clusters := ← Reader.withDefault fields "clusters" ∅ (Reader.dict ClusterEntry.ofJson?) }

end FleetStatus

namespace Placement

def toJson (p : Placement) : Json := Json.object
  [("clusters", .arr (p.clusters.map fun c => Json.object [("name", .str c)]))]

def clusterOfJson? : Reader String := fun j => do
  let fields ← Reader.record ["name"] j
  Reader.required fields "name" Reader.string

def ofJson? : Reader Placement := fun j => do
  let fields ← Reader.record ["clusters"] j
  return ⟨← Reader.withDefault fields "clusters" [] (Reader.list clusterOfJson?)⟩

end Placement

end FleetSync
