import FleetSync.Kind.Secret
import FleetSync.Text.Blank

/-!
# The name of a cluster

Registration writes a cluster's name into a secret. A cluster without a registration answers to a
name of its own.
-/
namespace FleetSync

/-- The name of a cluster that was never registered. -/
def localClusterName : String := "local"

/-- Where a registration is kept by default. -/
def registrationKey : Key := ⟨"lattice-system", "lattice-cluster-registration"⟩

def registeredNameKey : String := "managed-cluster-name"

/-- The registered name: the bytes of the secret as text, without the blanks around it. -/
def registeredName? (secret : Option (Concrete Kind.secret)) : Option String := do
  let body : SecretBody := (← secret).body
  let bytes ← (← body.data).get? registeredNameKey
  let name := Text.trim (Text.ofUtf8Lossy bytes)
  if name = "" then none else some name

/-- The name that a cluster has by its registration. -/
def clusterNameOf (secret : Option (Concrete Kind.secret)) : String :=
  (registeredName? secret).getD localClusterName

/-- Where a controller takes the name of its cluster from. -/
inductive Identity where
  | fixed (name : String)
  /-- Read anew for every pass, so that a later registration is noticed. -/
  | registered (key : Key)
  | failing (failure : Failure)
  deriving DecidableEq, Repr

def Identity.isRegistered : Identity → Bool
  | registered _ => true
  | _ => false

def Identity.clusterName {m : Type → Type} [Monad m]
    (getSecret : Key → m (Except Failure (Option (Concrete Kind.secret)))) :
    Identity → m (Except Failure String)
  | fixed name => return .ok name
  | registered key => do return (← getSecret key).map clusterNameOf
  | failing f => return .error f

end FleetSync
