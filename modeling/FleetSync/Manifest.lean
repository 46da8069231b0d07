import FleetSync.Kind.Basic
import FleetSync.Schema

/-!
# Manifests

The definition by which a server learns of a template kind: its names, its columns and the schema
of its objects. The schemas of placement and status are the same for all kinds.
-/
namespace FleetSync

/-- The group of the template kinds and their version within it. -/
def templateGroup : String := "lattice.dev"

def templateVersion : String := "v1alpha1"

def ResourceState.names : List String := [pending, ready, failed].map text

def manifestType : ResourceType :=
  ⟨"apiextensions.k8s.io/v1", "CustomResourceDefinition", "customresourcedefinitions"⟩

namespace Placement

def schema (concreteKind : String) : Schema :=
  .record (Schema.described ("Clusters the " ++ concreteKind ++ " is placed on")) none
    [("clusters",
      .list (Schema.defaulted "Target clusters, in the order they were declared" (.arr []))
        (.record (Schema.described "Reference to a cluster in a placement") none
          [("name", .text (Schema.described "Cluster name as registered with the fleet") [] false)]
          ["name"]))] []

end Placement

def ClusterEntry.schema : Schema :=
  .record (Schema.described "Outcome reported by a single cluster") none
    [("lastUpdateTime", .text (Schema.optional "When the cluster last reported") [] true),
      ("message",
        .text (Schema.optional "Message of the condition that produced this state") [] false),
      ("state", .text (Schema.described "State of the concrete object on that cluster")
        ResourceState.names false)] ["state"]

def Condition.schema : Schema :=
  .record (Schema.described "Kubernetes-style condition for status reporting") none
    [("lastTransitionTime",
        .text (Schema.described "Last time the condition transitioned") [] true),
      ("message", .text (Schema.defaulted "Human-readable message" (.str "")) [] false),
      ("status", .text (Schema.described "Status of the condition (True, False, Unknown)")
        ([.isTrue, .isFalse, .unknown].map ConditionStatus.text) false),
      ("type", .text (Schema.described "Type of condition")
        ([.deployComplete, .deployPending, .deployFailed].map ConditionType.text) false)]
    ["lastTransitionTime", "status", "type"]

def FleetStatus.schema : Schema :=
  .record (Schema.optional "Status shared by every multi-cluster resource kind") none
    [("clusters", .table (Schema.described "Per-cluster outcomes keyed by cluster name")
        ClusterEntry.schema),
      ("conditions", .list (Schema.described "Deployment conditions, newest last")
        Condition.schema),
      ("state", .text (Schema.defaulted "Aggregate state over all placed clusters"
        (.str ResourceState.pending.text)) ResourceState.names false)] []

namespace Kind

/-- The schema of a template's payload and placement. -/
def specSchema (k : Kind) : Schema :=
  .record (Schema.described ("Specification for a " ++ k.template.kind)) none
    [("placement", Placement.schema k.concrete.kind), ("template", k.payloadSchema)]
    ["placement", "template"]

def templateSchema (k : Kind) : Schema :=
  .record (Schema.described ("Auto-generated derived type for " ++ k.template.kind ++
      "Spec via \x60CustomResource\x60")) (some k.template.kind)
    [("spec", k.specSchema), ("status", FleetStatus.schema)] ["spec"]

def column (name type path : String) : Json := Json.object
  [("jsonPath", .str path), ("name", .str name), ("type", .str type)]

def versionJson (k : Kind) : Json := Json.object
  [("additionalPrinterColumns", .arr
      [column "State" "string" ".status.state",
        column "Age" "date" ".metadata.creationTimestamp"]),
    ("name", .str templateVersion),
    ("schema", Json.object [("openAPIV3Schema", k.templateSchema.toJson)]),
    ("served", .bool true), ("storage", .bool true),
    ("subresources", Json.object [("status", .obj [])])]

def manifestName (k : Kind) : String := k.template.plural ++ "." ++ templateGroup

def manifest (k : Kind) : Json := Json.object
  [("apiVersion", .str manifestType.apiVersion), ("kind", .str manifestType.kind),
    ("metadata", Json.object [("name", .str k.manifestName)]),
    ("spec", Json.object
      [("group", .str templateGroup),
        ("names", Json.object
          [("categories", .arr []), ("kind", .str k.template.kind),
            ("plural", .str k.template.plural), ("shortNames", .arr [.str k.shortName]),
            ("singular", .str k.template.kind.toLower)]),
        ("scope", .str "Namespaced"), ("versions", .arr [k.versionJson])])]

end Kind

end FleetSync
