import FleetSync.Text.Quoted
import FleetSync.Unconnectable

/-!
# Failures

What can go wrong when a fleet's objects are read, rendered and written. A failure is a cause; its
wording is one function of it. Two questions decide how a pass goes on: whether the addressed
object does not exist, and whether somebody else wrote in between.
-/
namespace FleetSync

/-- The server's answer to a request that it refuses. -/
structure Refusal where
  status : String
  message : String
  reason : String
  code : Nat
  deriving DecidableEq, Repr, Inhabited

inductive Unsendable where
  | emptyName
  /-- The field manager is too long for the named parameters. -/
  | fieldManager (parameters : String)
  | invalidUri
  | longUri
  deriving DecidableEq, Repr

/-- What keeps a request from the answer that it asks for. -/
inductive ServerFault where
  | refused (refusal : Refusal)
  | unreachable (reason : String)
  | unreadable
  | unsendable (cause : Unsendable)
  | unconnectable (cause : Unconnectable)
  deriving DecidableEq, Repr

inductive Failure where
  | server (fault : ServerFault)
  | notFound (kind ns name : String)
  | conflict (text : String)
  | mutation (text : String)
  | validation (text : String)
  | serialization (text : String)
  | config (text : String)
  deriving DecidableEq, Repr

def Unsendable.message : Unsendable → String
  | .emptyName => "failed to validate request: A non-empty name is required"
  | .fieldManager parameters =>
    "failed to validate request: Failed to validate " ++ parameters ++ "::field_manager!"
  | .invalidUri => "failed to build request: invalid uri character"
  | .longUri => "failed to build request: uri too long"

/-- The refusal's message and reason, then all its parts with the texts quoted. -/
def Refusal.text (r : Refusal) : String :=
  "ApiError: " ++ r.message ++ ": " ++ r.reason ++ " (ErrorResponse \x7b status: " ++
    Text.quoted r.status ++ ", message: " ++ Text.quoted r.message ++ ", reason: " ++
    Text.quoted r.reason ++ ", code: " ++ toString r.code ++ " \x7d)"

def ServerFault.message : ServerFault → String
  | .refused r => r.text
  | .unreachable reason => "ServiceError: " ++ reason
  | .unreadable => "Error deserializing response"
  | .unsendable cause => "Failed to build request: " ++ cause.message
  | .unconnectable cause => cause.message

namespace Failure

def message : Failure → String
  | server fault => "kubernetes error: " ++ fault.message
  | notFound kind ns name => kind ++ " " ++ ns ++ "/" ++ name ++ " not found"
  | conflict text => "conflict: " ++ text
  | mutation text => "mutation error: " ++ text
  | validation text => "validation error: " ++ text
  | serialization text => "serialization error: " ++ text
  | config text => "configuration error: " ++ text

def isNotFound : Failure → Bool
  | notFound _ _ _ => true
  | server (.refused r) => r.code == 404
  | _ => false

/-- Somebody else wrote in between, so that a fresh attempt may succeed. -/
def isConflict : Failure → Bool
  | conflict _ => true
  | server (.refused r) => r.code == 409
  | _ => false

end Failure

end FleetSync
