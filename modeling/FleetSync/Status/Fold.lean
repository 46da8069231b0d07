import FleetSync.Status.Basic
import FleetSync.Status.Placement

/-!
# Folding reports into a status

The state of the fleet is the worst state over the placed clusters, where a cluster that has not
reported counts as pending. A report that repeats what is stored changes nothing, its time
included.
-/
namespace FleetSync

namespace FleetStatus

/-- Conditions that a status keeps; the oldest ones go first. -/
def maxConditions : Nat := 10

/-- What `cluster` counts as: its reported state, or pending. -/
def stateOf (s : FleetStatus) (cluster : String) : ResourceState :=
  match s.clusters.get? cluster with
  | some entry => entry.state
  | none => .pending

/-- The worst state over the placement, and pending for an empty one. -/
def effectiveState (p : Placement) (s : FleetStatus) : ResourceState :=
  match p.clusters with
  | [] => .pending
  | c :: rest => rest.foldl (fun worst d => worst.worse (s.stateOf d)) (s.stateOf c)

/-- The status with the state that its entries imply. -/
def refresh (p : Placement) (s : FleetStatus) : FleetStatus :=
  { s with state := effectiveState p s }

/-- The state that the status had, by which a write may be saved, and the refreshed status. -/
def exchangeState (p : Placement) (s : FleetStatus) : ResourceState × FleetStatus :=
  (s.state, s.refresh p)

def latest? (s : FleetStatus) (type : ConditionType) : Option Condition :=
  s.conditions.reverse.find? (·.type = type)

/-- The newest condition of its type has the same outcome. -/
def repeatsCondition (s : FleetStatus) (c : Condition) : Bool :=
  (s.latest? c.type).any (·.sameOutcome c)

/-- The last conditions of a list, as many as a status keeps. -/
def keepNewest (l : List Condition) : List Condition := l.drop (l.length - maxConditions)

/-- The status with a condition at its end, unless that repeats the newest one of its type. -/
def appendCondition (s : FleetStatus) (c : Condition) : FleetStatus :=
  if s.repeatsCondition c then s
  else { s with conditions := keepNewest (s.conditions ++ [c]) }

/-- The cluster's entry says the same. -/
def repeatsEntry (s : FleetStatus) (cluster : String) (e : ClusterEntry) : Bool :=
  (s.clusters.get? cluster).any (·.sameReport e)

/-- The status with the entry of a cluster, whose time stays if the entry says the same. -/
def setCluster (s : FleetStatus) (cluster : String) (e : ClusterEntry) : FleetStatus :=
  if s.repeatsEntry cluster e then s
  else { s with clusters := s.clusters.insert cluster e }

/-- The status after a cluster's report: its entry, its condition and the state that follows. -/
def absorb (s : FleetStatus) (p : Placement) (cluster : String) (c : Condition)
    (e : ClusterEntry) : FleetStatus :=
  ((s.setCluster cluster e).appendCondition c).refresh p

def absorbChanges (s : FleetStatus) (p : Placement) (cluster : String) (c : Condition)
    (e : ClusterEntry) : Bool :=
  !s.repeatsEntry cluster e || !(s.setCluster cluster e).repeatsCondition c ||
    s.state != (s.absorb p cluster c e).state

end FleetStatus

def ClusterEntry.at (state : ResourceState) (message : String) (now : Instant) : ClusterEntry :=
  ⟨state, some message, some now⟩

end FleetSync
