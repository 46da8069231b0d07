import FleetSync.Kind.Basic
import FleetSync.Kind.Payload
import FleetSync.Text.Utf8

/-!
# Secrets

Bytes under keys. A template may also give texts, whose bytes take precedence; they are folded into
the bytes, as a server does with the texts that it is sent, so that a stored secret compares equal
to its rendering.
-/
namespace FleetSync

structure SecretTemplate where
  metadata : EmbeddedMetadata
  type : Option String
  data : Option (StrDict Bytes)
  stringData : Option (StrDict String)
  immutable : Option Bool
  deriving DecidableEq, Repr, Inhabited

structure SecretBody where
  data : Option (StrDict Bytes)
  immutable : Option Bool
  stringData : Option (StrDict String)
  type : Option String
  deriving DecidableEq, Repr, Inhabited

/-- The type that a server gives to a secret without one. -/
def defaultSecretType : String := "Opaque"

namespace SecretTemplate

/-- The bytes with the texts written over them. -/
def allData (t : SecretTemplate) : StrDict Bytes :=
  (t.data.getD ∅).override ((t.stringData.getD ∅).mapValues Text.toUtf8)

def render (t : SecretTemplate) : Except Failure (Rendering SecretBody) := do
  checkKeys t.allData.keys
  return {
    body := {
      data := nonEmpty (some t.allData)
      immutable := t.immutable
      stringData := none
      type := some (t.type.getD defaultSecretType) }
    labels := nonEmpty t.metadata.labels
    annotations := nonEmpty t.metadata.annotations }

def toJson (t : SecretTemplate) : Json := Json.object <|
  [("metadata", t.metadata.toJson)] ++ Json.field "type" .str t.type ++
  Json.field "data" (Json.ofDict Bytes.toJson) t.data ++
  Json.field "stringData" (Json.ofDict .str) t.stringData ++
  Json.field "immutable" .bool t.immutable

def ofJson? : Reader SecretTemplate := fun j => do
  let fields ← Reader.record ["metadata", "type", "data", "stringData", "immutable"] j
  return {
    metadata := ← Reader.withDefault fields "metadata" default EmbeddedMetadata.ofJson?
    type := ← Reader.maybe fields "type" Reader.string
    data := ← Reader.maybe fields "data" (Reader.dict Bytes.ofJson?)
    stringData := ← Reader.maybe fields "stringData" (Reader.dict Reader.string)
    immutable := ← Reader.maybe fields "immutable" Reader.bool }

def schema : Schema :=
  .record (Schema.described "Secret contents to materialize") none
    [("data", Schema.texts (Schema.optional "Base64-encoded data entries")),
      ("immutable", .flag (Schema.optional "Whether the Secret is immutable once written")),
      ("metadata", EmbeddedMetadata.schema "Labels and annotations for the Secret"),
      ("stringData", Schema.texts (Schema.optional
        "Plain-text data entries, merged over \x60data\x60 when materialized")),
      ("type", .text (Schema.optional "Secret type (defaults to Opaque on the API server)") []
        false)] []

end SecretTemplate

namespace SecretBody

def fields (b : SecretBody) : List (String × Json) :=
  Json.field "data" (Json.ofDict Bytes.toJson) b.data ++
  Json.field "immutable" .bool b.immutable ++
  Json.field "stringData" (Json.ofDict .str) b.stringData ++ Json.field "type" .str b.type

def ofFields? (fields : List (String × Json)) : Option SecretBody := do
  return {
    data := ← Reader.maybe fields "data" (Reader.dict Bytes.ofJson?)
    immutable := ← Reader.maybe fields "immutable" Reader.bool
    stringData := ← Reader.maybe fields "stringData" (Reader.dict Reader.string)
    type := ← Reader.maybe fields "type" Reader.string }

end SecretBody

def Kind.secret : Kind where
  Payload := SecretTemplate
  Body := SecretBody
  payloadEq := inferInstance
  bodyEq := inferInstance
  emptyBody := default
  template := ⟨templateApiVersion, "MultiClusterSecret", "multiclustersecrets"⟩
  concrete := ⟨"v1", "Secret", "secrets"⟩
  finalizer := "multiclustersecret.lattice.dev"
  shortName := "mcsecret"
  render := SecretTemplate.render
  readPayload := SecretTemplate.ofJson?
  writePayload := SecretTemplate.toJson
  payloadSchema := SecretTemplate.schema
  readBody := SecretBody.ofFields?
  writeBody := SecretBody.fields

/-- The rendering as it is written onto a secret, field by field. -/
def SecretTemplate.renderOnto (t : SecretTemplate) : Writing .secret Unit := do
  liftM (checkKeys t.allData.keys)
  Writing.body fun (b : SecretBody) => { b with data := nonEmpty (some t.allData) }
  Writing.body fun (b : SecretBody) => { b with stringData := none }
  Writing.body fun (b : SecretBody) => { b with type := some (t.type.getD defaultSecretType) }
  Writing.body fun (b : SecretBody) => { b with immutable := t.immutable }
  Writing.labels (nonEmpty t.metadata.labels)
  Writing.annotations (nonEmpty t.metadata.annotations)

end FleetSync
