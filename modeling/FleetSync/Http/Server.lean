import FleetSync.Data.Dict
import FleetSync.Http.Exchange
import FleetSync.Json.MergePatch
import FleetSync.Json.Printer
import FleetSync.Object.Metadata

/-!
# A server in memory

Keeps documents of any form under their types' paths and answers the requests of a client. A write
that names another version than the stored one is refused. The status of an object is written
through a path of its own and by nothing else. An object with finalizers is only marked by a
deletion; it goes with any write that leaves it none. Requests can be made to fail, and every
change is recorded.
-/
namespace FleetSync.Http

/-- What a request is about. -/
structure Target where
  plural : String
  ns : String
  name : Option String
  /-- The status of the object, not the object itself. -/
  isStatus : Bool
  deriving DecidableEq, Repr

def Target.ofUri? (uri : String) : Option Target :=
  let path := String.ofList (uri.toList.takeWhile (· ≠ '?'))
  match (path.splitOn "/").dropWhile (· ≠ "namespaces") with
  | [_, ns, plural] => some ⟨plural, ns, none, false⟩
  | [_, ns, plural, name] => some ⟨plural, ns, some name, false⟩
  | [_, ns, plural, name, "status"] => some ⟨plural, ns, some name, true⟩
  | _ => none

/-- Requests that are to fail, and how many more of them. -/
structure FailRule where
  method : Method
  plural : String
  isStatus : Bool
  code : Nat
  reason : String
  times : Nat
  deriving DecidableEq, Repr

/-- A change of a stored document; a missing one did not exist or does not any more. -/
structure Change where
  plural : String
  key : Key
  before : Option Json
  after : Option Json

structure Server where
  objects : Dict (String × Key) Json
  nextVersion : Nat
  rules : List FailRule
  /-- The changes that nobody has looked at, the last one first. -/
  changes : List Change

def deletionTime : String := "2024-05-05T05:05:05Z"

def statusJson (code : Nat) (reason message : String) : Json := Json.object
  [("apiVersion", .str "v1"), ("kind", .str "Status"), ("status", .str "Failure"),
    ("message", .str message), ("reason", .str reason), ("code", .int code)]

def replyJson (status : Nat) (j : Json) : Outcome := .ok ⟨status, j.render⟩

def refuse (code : Nat) (reason message : String) : Outcome :=
  replyJson code (statusJson code reason message)

def metaField (j : Json) (name : String) : Option Json := j.path? ["metadata", name]

def setMetaField (j : Json) (name : String) (value : Option Json) : Json :=
  j.setField "metadata" (some (((j.get? "metadata").getD (.obj [])).setField name value))

def unversioned (j : Json) : Json := setMetaField j "resourceVersion" none

def metaText (j : Json) (name : String) : String :=
  match metaField j name with
  | some (.str s) => s
  | _ => ""

def keyOf (j : Json) : Key := ⟨metaText j "namespace", metaText j "name"⟩

def hasFinalizers (j : Json) : Bool :=
  match metaField j "finalizers" with
  | some (.arr (_ :: _)) => true
  | _ => false

def isMarked (j : Json) : Bool := (metaField j "deletionTimestamp").isSome

namespace Server

def empty : Server := ⟨∅, 1, [], []⟩

def find? (s : Server) (plural : String) (key : Key) : Option Json := s.objects.get? (plural, key)

def documents (s : Server) (plural : String) : List (Key × Json) :=
  (s.objects.entries.filter (·.1.1 = plural)).map fun e => (e.1.2, e.2)

/-- Stores a document under a new version, and gives it back as stored. -/
def store (s : Server) (plural : String) (key : Key) (j : Json) : Json × Server :=
  let stored := setMetaField j "resourceVersion" (some (.str (toString s.nextVersion)))
  (stored, { s with
    objects := s.objects.insert (plural, key) stored
    nextVersion := s.nextVersion + 1
    changes := ⟨plural, key, s.find? plural key, some stored⟩ :: s.changes })

def drop (s : Server) (plural : String) (key : Key) : Server :=
  match s.find? plural key with
  | none => s
  | some j => { s with
      objects := s.objects.erase (plural, key)
      changes := ⟨plural, key, some j, none⟩ :: s.changes }

/-- A write of a document, which lets a marked object without finalizers go. -/
def write (s : Server) (plural : String) (key : Key) (j : Json) : Json × Server :=
  let (stored, s) := s.store plural key j
  (stored, if isMarked j && !hasFinalizers j then s.drop plural key else s)

/-- A deletion: of the object, or a mark on an object with finalizers. -/
def delete (s : Server) (plural : String) (key : Key) (j : Json) : Server :=
  if hasFinalizers j then
    (s.store plural key (setMetaField j "deletionTimestamp" (some (.str deletionTime)))).2
  else s.drop plural key

/-- The rule that a request meets, which it uses up by one. -/
def meetRule (method : Method) (t : Target) :
    List FailRule → Option (FailRule × List FailRule)
  | [] => none
  | r :: rest =>
    if r.method = method ∧ r.plural = t.plural ∧ r.isStatus = t.isStatus ∧ 0 < r.times then
      some (r, { r with times := r.times - 1 } :: rest)
    else (meetRule method t rest).map fun m => (m.1, r :: m.2)

/-- The version that a document is based on is another one than the stored one's. -/
def isStale (stored body : Json) : Bool :=
  match metaField body "resourceVersion" with
  | none => false
  | some v => v.render != ((metaField stored "resourceVersion").getD .null).render

/-- The answer to a request that meets no rule. -/
def handle (s : Server) (r : Request) (t : Target) : Outcome × Server :=
  let body := r.body.getD (.obj [])
  let missing := refuse 404 "NotFound" (t.plural ++ " \"" ++ t.name.getD "" ++ "\" not found")
  match r.method, t.name with
  | .post, _ =>
    let key : Key := ⟨t.ns, metaText body "name"⟩
    match s.find? t.plural key with
    | some _ => (refuse 409 "AlreadyExists"
        (t.plural ++ " \"" ++ key.name ++ "\" already exists"), s)
    | none =>
      let (stored, s) := s.store t.plural key (setMetaField body "namespace" (some (.str t.ns)))
      (replyJson 201 stored, s)
  | method, some name =>
    let key : Key := ⟨t.ns, name⟩
    match s.find? t.plural key with
    | none => (missing, s)
    | some stored =>
      match method with
      | .get => (replyJson 200 stored, s)
      | .delete => (replyJson 200 stored, s.delete t.plural key stored)
      | .put =>
        if isStale stored body then
          (refuse 409 "Conflict" "the object has been modified", s)
        else
          let updated :=
            if t.isStatus then stored.setField "status" (body.get? "status")
            else body.setField "status" (stored.get? "status")
          let (written, s) := s.write t.plural key updated
          (replyJson 200 written, s)
      | _ => (missing, s)
  | _, none => (missing, s)

def serve (r : Request) (s : Server) : Outcome × Server :=
  match Target.ofUri? r.uri with
  | none => (refuse 404 "NotFound" "not found", s)
  | some t =>
    match meetRule r.method t s.rules with
    | some (rule, rules) => (refuse rule.code rule.reason rule.reason, { s with rules })
    | none => s.handle r t

/-- Stores a document at its own address, whatever is there. -/
def put (s : Server) (plural : String) (j : Json) : Server := (s.write plural (keyOf j) j).2

def patch (s : Server) (plural : String) (key : Key) (p : Json) : Server :=
  match s.find? plural key with
  | none => s
  | some j => (s.write plural key (j.merge p)).2

/-- Deletes a document as a request would. -/
def remove (s : Server) (plural : String) (key : Key) : Server :=
  match s.find? plural key with
  | none => s
  | some j => s.delete plural key j

/-- The changes that nobody has looked at, the first one first. -/
def takeChanges (s : Server) : List Change × Server := (s.changes.reverse, { s with changes := [] })

end Server

end FleetSync.Http
