import FleetSync.Failure
import FleetSync.Schema
import FleetSync.Object.Resource
import FleetSync.Status.Document

/-!
# Template kinds

A template carries a payload, a placement and a status. On every placed cluster its payload is
rendered onto a concrete object of the same namespace and name. A kind says what the payload and
the concrete object's body are, and how one follows from the other; all else is the same for every
kind.

Rendering sets the whole body, the labels and the annotations of the concrete object, each as a
function of the payload alone, and touches nothing else.
-/
namespace FleetSync

/-- What a payload prescribes for the concrete object. -/
structure Rendering (β : Type) where
  body : β
  labels : Option (StrDict String)
  annotations : Option (StrDict String)

structure Kind where
  /-- What a template prescribes. -/
  Payload : Type
  /-- What a concrete object holds beside its metadata. -/
  Body : Type
  payloadEq : DecidableEq Payload
  bodyEq : DecidableEq Body
  emptyBody : Body
  template : ResourceType
  concrete : ResourceType
  /-- The token that keeps a template from vanishing before its concrete object. -/
  finalizer : String
  /-- The short name of the template kind. -/
  shortName : String
  render : Payload → Except Failure (Rendering Body)
  readPayload : Reader Payload
  writePayload : Payload → Json
  payloadSchema : Schema
  readBody : List (String × Json) → Option Body
  writeBody : Body → List (String × Json)

instance (k : Kind) : DecidableEq k.Payload := k.payloadEq

instance (k : Kind) : DecidableEq k.Body := k.bodyEq

instance (k : Kind) : Inhabited k.Body := ⟨k.emptyBody⟩

def templateApiVersion : String := "lattice.dev/v1alpha1"

structure Template (k : Kind) where
  metadata : Metadata
  payload : k.Payload
  placement : Placement
  status : Option FleetStatus
  deriving DecidableEq

structure Concrete (k : Kind) where
  metadata : Metadata
  body : k.Body
  deriving DecidableEq

namespace Template

variable {k : Kind}

/-- The status, or the initial one if none was ever written. -/
def currentStatus (t : Template k) : FleetStatus := t.status.getD .initial

def mapStatus (t : Template k) (f : FleetStatus → FleetStatus) : Template k :=
  { t with status := some (f t.currentStatus) }

def specJson (t : Template k) : Json := Json.object
  [("template", k.writePayload t.payload), ("placement", t.placement.toJson)]

def toJson (t : Template k) : Json := Json.object <|
  [("apiVersion", .str k.template.apiVersion), ("kind", .str k.template.kind),
    ("metadata", t.metadata.toJson), ("spec", t.specJson)] ++
  Json.field "status" FleetStatus.toJson t.status

def specOfJson? : Reader (k.Payload × Placement) := fun j => do
  let fields ← Reader.record ["template", "placement"] j
  let payload ← Reader.required fields "template" k.readPayload
  let placement ← Reader.required fields "placement" Placement.ofJson?
  return (payload, placement)

def ofJson? : Reader (Template k) := fun j => do
  let fields ← Reader.record ["metadata", "spec", "status"] j
  let _ ← match j with
    | .arr items => if items.length = 3 then some () else none
    | _ => some ()
  let metadata ← Reader.required fields "metadata" Metadata.ofJson?
  let spec ← Reader.required fields "spec" specOfJson?
  let status ← Reader.maybe fields "status" FleetStatus.ofJson?
  return ⟨metadata, spec.1, spec.2, status⟩

end Template

namespace Concrete

variable {k : Kind}

instance : Inhabited (Concrete k) := ⟨⟨{}, k.emptyBody⟩⟩

def toJson (c : Concrete k) : Json := Json.object <|
  [("apiVersion", .str k.concrete.apiVersion), ("kind", .str k.concrete.kind),
    ("metadata", c.metadata.toJson)] ++ k.writeBody c.body

def ofJson? : Reader (Concrete k) := fun j => do
  let fields ← Reader.openRecord j
  Reader.agrees fields "apiVersion" k.concrete.apiVersion
  Reader.agrees fields "kind" k.concrete.kind
  let metadata ← Reader.orDefault fields "metadata" {} Metadata.ofJson?
  let body ← k.readBody fields
  return ⟨metadata, body⟩

end Concrete

instance (k : Kind) : Resource (Template k) where
  type := k.template
  metadata := Template.metadata
  withMetadata t m := { t with metadata := m }
  withStatusOf t u := { t with status := u.status }
  toJson := Template.toJson
  ofJson? := Template.ofJson?

instance (k : Kind) : Resource (Concrete k) where
  type := k.concrete
  metadata := Concrete.metadata
  withMetadata c m := { c with metadata := m }
  withStatusOf c _ := c
  toJson := Concrete.toJson
  ofJson? := Concrete.ofJson?

/-- The concrete object with the payload's rendering written onto it. -/
def Kind.mutate (k : Kind) (payload : k.Payload) (c : Concrete k) :
    Except Failure (Concrete k) := do
  let r ← k.render payload
  return { metadata := { c.metadata with labels := r.labels, annotations := r.annotations },
           body := r.body }

/-- Writes onto a concrete object, of which those before a failure stay. -/
abbrev Writing (k : Kind) := ExceptT Failure (StateM (Concrete k))

namespace Writing

variable {k : Kind}

def body (f : k.Body → k.Body) : Writing k Unit := modify fun c => { c with body := f c.body }

def labels (l : Option (StrDict String)) : Writing k Unit :=
  modify fun c => { c with metadata := { c.metadata with labels := l } }

def annotations (a : Option (StrDict String)) : Writing k Unit :=
  modify fun c => { c with metadata := { c.metadata with annotations := a } }

end Writing

namespace Kind
variable {k : Kind} {payload : k.Payload} {c c' : Concrete k}

theorem mutate_of_render {r : Rendering k.Body} (h : k.render payload = .ok r) (c : Concrete k) :
    k.mutate payload c = .ok
      { metadata := { c.metadata with labels := r.labels, annotations := r.annotations },
        body := r.body } := by
  unfold mutate
  rw [h]
  rfl

theorem render_of_mutate_eq_ok (h : k.mutate payload c = .ok c') :
    ∃ r, k.render payload = .ok r ∧ c' =
      { metadata := { c.metadata with labels := r.labels, annotations := r.annotations },
        body := r.body } := by
  unfold mutate at h
  cases hr : k.render payload with
  | error f =>
    rw [hr] at h
    cases h
  | ok r =>
    rw [hr] at h
    cases h
    exact ⟨r, rfl, rfl⟩

theorem render_of_mutate_eq_error {f : Failure} (h : k.mutate payload c = .error f) :
    k.render payload = .error f := by
  unfold mutate at h
  cases hr : k.render payload with
  | error f =>
    rw [hr] at h
    cases h
    rfl
  | ok r =>
    rw [hr] at h
    cases h

end Kind

end FleetSync
