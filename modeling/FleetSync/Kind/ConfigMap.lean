import FleetSync.Kind.Basic
import FleetSync.Kind.Payload

/-!
# Config maps

Texts and bytes under keys, no key in both. Empty maps are left out of the concrete object, as a
server stores them.
-/
namespace FleetSync

structure ConfigMapTemplate where
  metadata : EmbeddedMetadata
  data : Option (StrDict String)
  binaryData : Option (StrDict Bytes)
  immutable : Option Bool
  deriving DecidableEq, Repr, Inhabited

structure ConfigMapBody where
  data : Option (StrDict String)
  binaryData : Option (StrDict Bytes)
  immutable : Option Bool
  deriving DecidableEq, Repr, Inhabited

namespace ConfigMapTemplate

def keysOf {α : Type} (d : Option (StrDict α)) : List String := (d.map Dict.keys).getD []

/-- The first key that holds a text and bytes at once. -/
def sharedKey? (t : ConfigMapTemplate) : Option String :=
  (keysOf t.data).find? fun key => (keysOf t.binaryData).contains key

def sharedKeyFailure (key : String) : Failure :=
  .mutation ("key " ++ Text.quoted key ++ " is present in both data and binaryData")

def render (t : ConfigMapTemplate) : Except Failure (Rendering ConfigMapBody) := do
  checkKeys (keysOf t.data ++ keysOf t.binaryData)
  match t.sharedKey? with
  | some key => throw (sharedKeyFailure key)
  | none =>
    return {
      body := ⟨nonEmpty t.data, nonEmpty t.binaryData, t.immutable⟩
      labels := nonEmpty t.metadata.labels
      annotations := nonEmpty t.metadata.annotations }

def toJson (t : ConfigMapTemplate) : Json := Json.object <|
  [("metadata", t.metadata.toJson)] ++ Json.field "data" (Json.ofDict .str) t.data ++
  Json.field "binaryData" (Json.ofDict Bytes.toJson) t.binaryData ++
  Json.field "immutable" .bool t.immutable

def ofJson? : Reader ConfigMapTemplate := fun j => do
  let fields ← Reader.record ["metadata", "data", "binaryData", "immutable"] j
  return {
    metadata := ← Reader.withDefault fields "metadata" default EmbeddedMetadata.ofJson?
    data := ← Reader.maybe fields "data" (Reader.dict Reader.string)
    binaryData := ← Reader.maybe fields "binaryData" (Reader.dict Bytes.ofJson?)
    immutable := ← Reader.maybe fields "immutable" Reader.bool }

def schema : Schema :=
  .record (Schema.described "ConfigMap contents to materialize") none
    [("binaryData", Schema.texts (Schema.optional "Binary data entries")),
      ("data", Schema.texts (Schema.optional "UTF-8 data entries")),
      ("immutable", .flag (Schema.optional "Whether the ConfigMap is immutable once written")),
      ("metadata", EmbeddedMetadata.schema "Labels and annotations for the ConfigMap")] []

end ConfigMapTemplate

namespace ConfigMapBody

def fields (b : ConfigMapBody) : List (String × Json) :=
  Json.field "binaryData" (Json.ofDict Bytes.toJson) b.binaryData ++
  Json.field "data" (Json.ofDict .str) b.data ++ Json.field "immutable" .bool b.immutable

def ofFields? (fields : List (String × Json)) : Option ConfigMapBody := do
  return {
    data := ← Reader.maybe fields "data" (Reader.dict Reader.string)
    binaryData := ← Reader.maybe fields "binaryData" (Reader.dict Bytes.ofJson?)
    immutable := ← Reader.maybe fields "immutable" Reader.bool }

end ConfigMapBody

def Kind.configMap : Kind where
  Payload := ConfigMapTemplate
  Body := ConfigMapBody
  payloadEq := inferInstance
  bodyEq := inferInstance
  emptyBody := default
  template := ⟨templateApiVersion, "MultiClusterConfigMap", "multiclusterconfigmaps"⟩
  concrete := ⟨"v1", "ConfigMap", "configmaps"⟩
  finalizer := "multiclusterconfigmap.lattice.dev"
  shortName := "mccm"
  render := ConfigMapTemplate.render
  readPayload := ConfigMapTemplate.ofJson?
  writePayload := ConfigMapTemplate.toJson
  payloadSchema := ConfigMapTemplate.schema
  readBody := ConfigMapBody.ofFields?
  writeBody := ConfigMapBody.fields

/-- The rendering as it is written onto a config map, field by field. -/
def ConfigMapTemplate.renderOnto (t : ConfigMapTemplate) : Writing .configMap Unit := do
  liftM (checkKeys (keysOf t.data ++ keysOf t.binaryData))
  if let some key := t.sharedKey? then throw (sharedKeyFailure key)
  Writing.body fun (b : ConfigMapBody) => { b with data := nonEmpty t.data }
  Writing.body fun (b : ConfigMapBody) => { b with binaryData := nonEmpty t.binaryData }
  Writing.body fun (b : ConfigMapBody) => { b with immutable := t.immutable }
  Writing.labels (nonEmpty t.metadata.labels)
  Writing.annotations (nonEmpty t.metadata.annotations)

end FleetSync
