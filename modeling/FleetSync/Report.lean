import FleetSync.Status.Document

/-!
# Reports

What a cluster tells the aggregator about one template after a pass.
-/
namespace FleetSync

structure Report where
  /-- The kind of the template, by which the aggregator chooses where to record the report. -/
  kind : String
  key : Key
  cluster : String
  condition : Condition
  entry : ClusterEntry
  deriving DecidableEq, Repr, Inhabited

namespace Report

def toJson (r : Report) : Json := Json.object
  [("resourceKind", .str r.kind), ("namespace", .str r.key.ns), ("name", .str r.key.name),
    ("clusterName", .str r.cluster), ("newCondition", r.condition.toJson),
    ("newClusterStatus", r.entry.toJson)]

end Report

end FleetSync
