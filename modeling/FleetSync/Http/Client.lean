import FleetSync.Http.Exchange
import FleetSync.Http.Uri
import FleetSync.Json.Printer
import FleetSync.Store.Call
import FleetSync.Text.FormEncoding

/-!
# Store calls over the server's interface

A call becomes at most one request, and the reply to it becomes the call's answer. A request that
cannot be sent is not: an object needs a name where its address is part of the target, and a
manager's name has a bound where an object is created. An object that is not there is no object to
a read and success to a deletion; to other calls it is a failure of its own, as is a conflict.
-/
namespace FleetSync.Http

/-- The path of the objects of a type in a namespace. -/
def objectsPath (t : ResourceType) (ns : String) : String :=
  (if t.apiVersion.contains '/' then "/apis/" else "/api/") ++ t.apiVersion ++ "/namespaces/" ++
    ns ++ "/" ++ t.plural

def managerQuery (manager : String) : String := "?&fieldManager=" ++ Text.formEncoded manager

def maxManagerBytes : Nat := 128

def jsonType : String := "application/json"

def requestTo (method : Method) (target : String) (contentType : Option String)
    (body : Option Json) : Except Unsendable Request :=
  match Uri.parse target with
  | .ok uri => .ok ⟨method, uri.text, contentType, body⟩
  | .error .tooLong => .error .longUri
  | .error _ => .error .invalidUri

def failureOf (kind : String) (key : Key) : ServerFault → Failure
  | .refused r =>
    if r.code = 404 then .notFound kind key.ns key.name
    else if r.code = 409 then .conflict (kind ++ " " ++ key.path ++ ": " ++ r.message)
    else .server (.refused r)
  | fault => .server fault

variable {α : Type} [Resource α]

def objectPath (α : Type) [Resource α] (key : Key) : Except Unsendable String :=
  if key.name = "" then .error .emptyName
  else .ok (objectsPath (Resource.type α) key.ns ++ "/" ++ key.name)

def requestOf (manager : String) : StoreCall α → Except Unsendable Request
  | .get key => do requestTo .get (← objectPath α key) none none
  | .create ns o =>
    if maxManagerBytes < manager.utf8ByteSize then .error (.fieldManager "PostParams")
    else
      requestTo .post (objectsPath (Resource.type α) ns ++ managerQuery manager) (some jsonType)
        (some (Resource.toJson o))
  | .replace key o => do
    requestTo .put ((← objectPath α key) ++ managerQuery manager) (some jsonType)
      (some (Resource.toJson o))
  | .replaceStatus key o => do
    requestTo .put ((← objectPath α key) ++ "/status" ++ managerQuery manager) (some jsonType)
      (some (Resource.toJson o))
  | .delete key => do
    requestTo .delete ((← objectPath α key) ++ "?") (some jsonType) (some (.obj []))

def objectOf (reply : Reply) : Except ServerFault α := do
  match Resource.ofJson? (← reply.document) with
  | some o => return o
  | none => throw .unreadable

def causeOfJson? : Reader Unit := fun j => do
  let names := ["reason", "message", "field"]
  let fields ← Reader.record names j
  let _ ← names.mapM fun name => Reader.withDefault fields name "" Reader.string
  return ()

/-- The details of a status, of which nothing is kept. -/
def detailsOfJson? : Reader Unit := fun j => do
  let names := ["name", "group", "kind", "uid"]
  let fields ← Reader.record (names ++ ["causes", "retryAfterSeconds"]) j
  let _ ← names.mapM fun name => Reader.withDefault fields name "" Reader.string
  let _ ← Reader.withDefault fields "causes" [] (Reader.list causeOfJson?)
  let _ ← Reader.withDefault fields "retryAfterSeconds" 0 (Reader.natBelow UInt32.size)
  return ()

/-- A report of how a request went, of which nothing is kept. -/
def statusOfJson? : Reader Unit := fun j => do
  let fields ← Reader.record ["status", "code", "message", "reason", "details"] j
  let _ ← Reader.maybe fields "status" (Reader.choice fun s => ["Success", "Failure"].find? (· = s))
  let _ ← Reader.withDefault fields "code" 0 (Reader.natBelow UInt16.size)
  let _ ← Reader.withDefault fields "message" "" Reader.string
  let _ ← Reader.withDefault fields "reason" "" Reader.string
  let _ ← Reader.maybe fields "details" detailsOfJson?
  return ()

/-- The reply to a deletion is a status or the deleted object. Its kind is taken from the settled
document, which it has to have. -/
def checkDeleted (α : Type) [Resource α] (reply : Reply) : Except ServerFault Unit := do
  let j ← reply.document
  let isRead := match j.settled? with
    | none => false
    | some settled =>
      match settled.get? "kind" with
      | some (.str "Status") => (statusOfJson? j).isSome
      | _ => (Resource.ofJson? j : Option α).isSome
  if isRead then return () else throw .unreadable

def answerFault (call : StoreCall α) (fault : ServerFault) : call.Answer :=
  let failure := failureOf (Resource.type α).kind call.key fault
  match call, fault with
  | .get _, .refused r => if r.reason = "NotFound" then .ok none else .error failure
  | .delete _, .refused r => if r.code = 404 then .ok () else .error failure
  | _, _ => .error failure

def valueOf : (call : StoreCall α) → Reply → Except ServerFault call.Value
  | .get _, reply => (objectOf reply : Except ServerFault α).map some
  | .create _ _, reply => (objectOf reply : Except ServerFault α)
  | .replace _ _, reply => (objectOf reply : Except ServerFault α)
  | .replaceStatus _ _, reply => (objectOf reply : Except ServerFault α)
  | .delete _, reply => checkDeleted α reply

def answerOf (call : StoreCall α) : Outcome → call.Answer
  | .error reason => answerFault call (.unreachable reason)
  | .ok reply =>
    match valueOf call reply with
    | .ok v => .ok v
    | .error fault => answerFault call fault

/-- Makes a call with a way to exchange a request for a reply. -/
def perform {m : Type → Type} [Monad m] (exchange : Request → m Outcome) (manager : String)
    (call : StoreCall α) : m call.Answer :=
  match requestOf manager call with
  | .error cause => return answerFault call (.unsendable cause)
  | .ok request => do return answerOf call (← exchange request)

end FleetSync.Http
