import FleetSync.Failure
import FleetSync.Schema
import FleetSync.Json.Reader
import FleetSync.Text.Base64

/-!
# Parts of payloads

Bytes, which documents write in base64; the labels and annotations that a payload prescribes; and
the rule for the keys of config maps and secrets.
-/
namespace FleetSync

abbrev Bytes := List UInt8

def Bytes.toJson (b : Bytes) : Json := .str (Text.Base64.encode b)

/-- Bytes from their base64 text; `null` reads as no bytes. -/
def Bytes.ofJson? : Reader Bytes
  | .null => some []
  | .str s => Text.Base64.decode? s
  | _ => none

/-- Labels and annotations for the concrete object. -/
structure EmbeddedMetadata where
  labels : Option (StrDict String)
  annotations : Option (StrDict String)
  deriving DecidableEq, Repr, Inhabited

namespace EmbeddedMetadata

def toJson (m : EmbeddedMetadata) : Json := Json.object <|
  Json.field "labels" (Json.ofDict .str) m.labels ++
  Json.field "annotations" (Json.ofDict .str) m.annotations

def ofJson? : Reader EmbeddedMetadata := fun j => do
  let fields ← Reader.record ["labels", "annotations"] j
  return {
    labels := ← Reader.maybe fields "labels" (Reader.dict Reader.string)
    annotations := ← Reader.maybe fields "annotations" (Reader.dict Reader.string) }

def schema (description : String) : Schema :=
  .record (Schema.defaulted description (.obj [])) none
    [("annotations", Schema.texts (Schema.optional "Annotations to set on the concrete object")),
      ("labels", Schema.texts (Schema.optional "Labels to set on the concrete object"))] []

end EmbeddedMetadata

/-- A map that is there only if it holds something. -/
def nonEmpty {α : Type} (d : Option (StrDict α)) : Option (StrDict α) :=
  d.filter fun d => !d.isEmpty

def isKeyChar (c : Char) : Bool := c.isAlphanum || c == '-' || c == '_' || c == '.'

/-- A key is not empty, has at most 253 bytes, consists of ASCII letters, digits, dashes,
underscores and dots, and is neither one dot nor two. -/
def isValidKey (key : String) : Bool :=
  key ≠ "" && key.utf8ByteSize ≤ 253 && key.toList.all isKeyChar && key ≠ "." && key ≠ ".."

def checkKeys (keys : List String) : Except Failure Unit :=
  match keys.find? fun key => !isValidKey key with
  | some key => throw (.mutation (Text.quoted key ++ " is not a valid config key"))
  | none => return ()

end FleetSync
