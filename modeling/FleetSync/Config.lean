import FleetSync.Failure
import FleetSync.Identity
import FleetSync.Requeue
import FleetSync.Sync

/-!
# Configuration

What a controller has to be told, with defaults for all of it, and the checks that it makes once
before it starts. Of several faults the first one in the order of the settings is named.
-/
namespace FleetSync

structure Config where
  /-- A fixed name of the cluster; without one the registration is read. -/
  clusterName : Option String
  registration : Key
  channelCapacity : Nat
  requeue : Window
  /-- The path of the aggregator's kubeconfig; without one nothing is reported. -/
  aggregatorKubeconfig : Option String
  manager : String
  deriving DecidableEq, Repr

instance : Inhabited Config := ⟨⟨none, registrationKey, 1024, .default, none, managerName⟩⟩

inductive ConfigFault where
  | blankClusterName
  | missingRegistration
  | zeroCapacity
  | zeroDelay
  | emptyWindow (window : Window)
  | missingManager
  deriving DecidableEq, Repr

def ConfigFault.message : ConfigFault → String
  | blankClusterName => "cluster name must not be blank"
  | missingRegistration => "registration secret namespace and name must be set"
  | zeroCapacity => "status channel capacity must be positive"
  | zeroDelay => "minimum requeue delay must be positive"
  | emptyWindow w => "requeue window " ++ w.lower.text ++ ".." ++ w.upper.text ++ " is empty"
  | missingManager => "field manager must be set"

namespace Config

def fault? (c : Config) : Option ConfigFault :=
  if c.clusterName.any fun name => Text.trim name = "" then some .blankClusterName
  else if c.registration.ns = "" ∨ c.registration.name = "" then some .missingRegistration
  else if c.channelCapacity = 0 then some .zeroCapacity
  else if c.requeue.lower.isZero then some .zeroDelay
  else if c.requeue.upper ≤ c.requeue.lower then some (.emptyWindow c.requeue)
  else if c.manager = "" then some .missingManager
  else none

def validate (c : Config) : Except Failure Unit :=
  match c.fault? with
  | some fault => .error (.config fault.message)
  | none => .ok ()

/-- Where the controller takes the name of its cluster from. -/
def identity (c : Config) : Identity :=
  match c.clusterName with
  | some name => .fixed name
  | none => .registered c.registration

end Config

end FleetSync
