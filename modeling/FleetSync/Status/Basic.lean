import FleetSync.Data.Dict
import FleetSync.Time.Instant

/-!
# Status of a template

Each cluster reports one state for a template; the template's status keeps the reports, a short
history of conditions and the state of the whole fleet.
-/
namespace FleetSync

/-- State of a template on one cluster, or on all of them taken together. -/
inductive ResourceState where
  | pending
  | ready
  | failed
  deriving DecidableEq, Repr, Inhabited

namespace ResourceState

/-- The rank by which the worst state wins: ready, then pending, then failed. -/
def severity : ResourceState → Nat
  | ready => 0
  | pending => 1
  | failed => 2

def text : ResourceState → String
  | pending => "Pending"
  | ready => "Ready"
  | failed => "Failed"

def ofText? (s : String) : Option ResourceState :=
  if s = "Pending" then some pending
  else if s = "Ready" then some ready
  else if s = "Failed" then some failed
  else none

def worse (a b : ResourceState) : ResourceState := if a.severity ≤ b.severity then b else a

end ResourceState

/-- Whether what a condition reports is the case. -/
inductive ConditionStatus where
  | isTrue
  | isFalse
  | unknown
  deriving DecidableEq, Repr, Inhabited

namespace ConditionStatus

def text : ConditionStatus → String
  | isTrue => "True"
  | isFalse => "False"
  | unknown => "Unknown"

def ofText? (s : String) : Option ConditionStatus :=
  if s = "True" then some isTrue
  else if s = "False" then some isFalse
  else if s = "Unknown" then some unknown
  else none

end ConditionStatus

/-- The outcome of a deployment that a condition reports. -/
inductive ConditionType where
  | deployComplete
  | deployPending
  | deployFailed
  deriving DecidableEq, Repr, Inhabited

namespace ConditionType

def text : ConditionType → String
  | deployComplete => "DeployComplete"
  | deployPending => "DeployPending"
  | deployFailed => "DeployFailed"

def ofText? (s : String) : Option ConditionType :=
  if s = "DeployComplete" then some deployComplete
  else if s = "DeployPending" then some deployPending
  else if s = "DeployFailed" then some deployFailed
  else none

def impliedState : ConditionType → ResourceState
  | deployComplete => .ready
  | deployPending => .pending
  | deployFailed => .failed

end ConditionType

structure Condition where
  type : ConditionType
  status : ConditionStatus
  message : String
  lastTransition : Instant
  deriving DecidableEq, Repr, Inhabited

/-- Two conditions that differ in their times at most. -/
def Condition.sameOutcome (a b : Condition) : Bool :=
  a.type == b.type && a.status == b.status && a.message == b.message

/-- What one cluster reported last. -/
structure ClusterEntry where
  state : ResourceState
  message : Option String
  lastUpdate : Option Instant
  deriving DecidableEq, Repr, Inhabited

namespace ClusterEntry

/-- The entry that a condition implies, with the condition's time. -/
def ofCondition (c : Condition) : ClusterEntry :=
  ⟨c.type.impliedState, some c.message, some c.lastTransition⟩

/-- Two entries that differ in their times at most. -/
def sameReport (a b : ClusterEntry) : Bool := a.state == b.state && a.message == b.message

end ClusterEntry

/-- A template's status: the state of the fleet, the conditions with the newest one last, and the
entries of the clusters by their names. -/
structure FleetStatus where
  state : ResourceState
  conditions : List Condition
  clusters : StrDict ClusterEntry
  deriving DecidableEq, Repr

def FleetStatus.initial : FleetStatus := ⟨.pending, [], ∅⟩

instance : Inhabited FleetStatus := ⟨.initial⟩

end FleetSync
