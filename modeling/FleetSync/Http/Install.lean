import FleetSync.Http.Client
import FleetSync.Kind.ConfigMap
import FleetSync.Kind.Secret
import FleetSync.Manifest.Form

/-!
# Installing the manifests

Each manifest is applied to the server, whatever version of it is there. The first one that fails
ends the installation.
-/
namespace FleetSync

def Kind.all : List Kind := [.configMap, .secret]

namespace Http

def manifestsPath : String :=
  "/apis/" ++ manifestType.apiVersion ++ "/" ++ manifestType.plural

def applyRequest (manager : String) (k : Kind) : Except Unsendable Request :=
  if maxManagerBytes < manager.utf8ByteSize then .error (.fieldManager "PatchParams")
  else
    requestTo .patch
      (manifestsPath ++ "/" ++ k.manifestName ++ "?&force=true&fieldManager=" ++
        Text.formEncoded manager)
      (some "application/apply-patch+yaml") (some k.manifest)

structure InstallFailure where
  name : String
  fault : ServerFault
  deriving DecidableEq, Repr

def InstallFailure.message (f : InstallFailure) : String :=
  "Failed to install CRD " ++ f.name ++ ": " ++ f.fault.message

variable {m : Type → Type} [Monad m]

def applyManifest (exchange : Request → m Outcome) (manager : String) (k : Kind) :
    m (Except InstallFailure Unit) := do
  match applyRequest manager k with
  | .error cause => return .error ⟨k.manifestName, .unsendable cause⟩
  | .ok request =>
    match ← exchange request with
    | .error reason => return .error ⟨k.manifestName, .unreachable reason⟩
    | .ok reply =>
      match reply.document with
      | .error fault => return .error ⟨k.manifestName, fault⟩
      | .ok j =>
        if Manifest.isManifest j then return .ok () else return .error ⟨k.manifestName, .unreadable⟩

def install (exchange : Request → m Outcome) (manager : String) :
    List Kind → m (Except InstallFailure Unit)
  | [] => return .ok ()
  | k :: rest => do
    match ← applyManifest exchange manager k with
    | .error f => return .error f
    | .ok _ => install exchange manager rest

end Http

end FleetSync
