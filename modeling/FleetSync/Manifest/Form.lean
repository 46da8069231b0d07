import FleetSync.Json.Form
import FleetSync.Manifest

/-!
# The form of manifests

What a document has to be to pass for a manifest: known parts have their forms, and what the
document says of its own type is right. Manifests of other programs have parts that those of a
fleet lack.
-/
namespace FleetSync.Manifest

open Form

def texts : Form := list text

def textRecord (names : List String) : Form := record (names.map fun name => (name, text))

def ownerForm : Form := record
  [("apiVersion", text), ("blockOwnerDeletion", flag), ("controller", flag), ("kind", text),
    ("name", text), ("uid", text)]

/-- Who manages which fields. -/
def managerForm : Form := record
  [("apiVersion", text), ("fieldsType", text), ("fieldsV1", any), ("manager", text),
    ("operation", text), ("subresource", text), ("time", instant)]

def metadataForm : Form := record
  [("annotations", dict text), ("creationTimestamp", instant),
    ("deletionGracePeriodSeconds", int64), ("deletionTimestamp", instant), ("finalizers", texts),
    ("generateName", text), ("generation", int64), ("labels", dict text),
    ("managedFields", list managerForm), ("name", text), ("namespace", text),
    ("ownerReferences", list ownerForm), ("resourceVersion", text), ("selfLink", text),
    ("uid", text)]

/-- A schema, by its name because schemas hold schemas. -/
def schema : Form := named "schema"

def schemaOrFlag : Form := oneOf [schema, flag]

def validationForm : Form := record
  [("fieldPath", text), ("message", text), ("messageExpression", text), ("optionalOldSelf", flag),
    ("reason", text), ("rule", text)]

def schemaFields : List (List String × Form) :=
  [(["$ref", "$schema", "description", "format", "id", "pattern", "title", "type",
      "x-kubernetes-list-type", "x-kubernetes-map-type"], text),
    (["additionalItems", "additionalProperties"], schemaOrFlag),
    (["allOf", "anyOf", "oneOf"], list schema),
    (["default", "example"], any),
    (["definitions", "patternProperties", "properties"], dict schema),
    (["dependencies"], dict (oneOf [schema, texts])),
    (["enum"], list any),
    (["exclusiveMaximum", "exclusiveMinimum", "nullable", "uniqueItems",
      "x-kubernetes-embedded-resource", "x-kubernetes-int-or-string",
      "x-kubernetes-preserve-unknown-fields"], flag),
    (["externalDocs"], textRecord ["description", "url"]),
    (["items"], oneOf [schema, list schema]),
    (["maxItems", "maxLength", "maxProperties", "minItems", "minLength", "minProperties"], int64),
    (["maximum", "minimum", "multipleOf"], number),
    (["not"], schema),
    (["required", "x-kubernetes-list-map-keys"], texts),
    (["x-kubernetes-validations"], list validationForm)]

def names : List (String × Form) :=
  [("schema", record (schemaFields.flatMap fun f => f.1.map fun name => (name, f.2)))]

def namesForm : Form := record
  [("categories", texts), ("kind", text), ("listKind", text), ("plural", text),
    ("shortNames", texts), ("singular", text)]

/-- How objects of one version become those of another one. -/
def conversionForm : Form := record
  [("strategy", text),
    ("webhook", record
      [("clientConfig", record
          [("caBundle", bytes),
            ("service", record
              [("name", text), ("namespace", text), ("path", text), ("port", int32)]),
            ("url", text)]),
        ("conversionReviewVersions", texts)])]

def columnForm : Form := record
  [("description", text), ("format", text), ("jsonPath", text), ("name", text),
    ("priority", int32), ("type", text)]

def versionForm : Form := record
  [("additionalPrinterColumns", list columnForm), ("deprecated", flag),
    ("deprecationWarning", text), ("name", text),
    ("schema", record [("openAPIV3Schema", schema)]),
    ("selectableFields", list (textRecord ["jsonPath"])), ("served", flag), ("storage", flag),
    ("subresources", record
      [("scale", textRecord ["labelSelectorPath", "specReplicasPath", "statusReplicasPath"]),
        ("status", any)])]

def specForm : Form := record
  [("conversion", conversionForm), ("group", text), ("names", namesForm),
    ("preserveUnknownFields", flag), ("scope", text), ("versions", list versionForm)]

def conditionForm : Form := record
  [("lastTransitionTime", instant), ("message", text), ("reason", text), ("status", text),
    ("type", text)]

def statusForm : Form := record
  [("acceptedNames", namesForm), ("conditions", list conditionForm), ("storedVersions", texts)]

def form : Form := record
  [("apiVersion", exactly manifestType.apiVersion), ("kind", exactly manifestType.kind),
    ("metadata", metadataForm), ("spec", specForm), ("status", statusForm)]

/-- The document passes for a manifest: it has the form, and does not leave its type empty. -/
def isManifest (j : Json) : Bool :=
  form.holds names j &&
    (Reader.openRecord j).any fun fields =>
      (Reader.agrees fields "apiVersion" manifestType.apiVersion).isSome &&
        (Reader.agrees fields "kind" manifestType.kind).isSome

end FleetSync.Manifest
