/-!
# Placement

The clusters on which a template is to be materialized. A cluster without a name is on none of
them.
-/
namespace FleetSync

/-- The names of the target clusters, in the order in which they were declared. -/
structure Placement where
  clusters : List String
  deriving DecidableEq, Repr, Inhabited

namespace Placement

def isEmpty (p : Placement) : Bool := p.clusters.isEmpty

def places (p : Placement) (cluster : String) : Bool :=
  cluster ≠ "" && p.clusters.contains cluster

theorem places_iff {p : Placement} {cluster : String} :
    p.places cluster ↔ cluster ≠ "" ∧ cluster ∈ p.clusters := by
  simp [places]

end Placement

end FleetSync
