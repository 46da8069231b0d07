import FleetSync.Channel
import FleetSync.CommandLine
import FleetSync.Config
import FleetSync.Controller
import FleetSync.Data.Dict
import FleetSync.Failure
import FleetSync.Finalizer
import FleetSync.Forwarding
import FleetSync.Http.Client
import FleetSync.Http.Connection
import FleetSync.Http.Exchange
import FleetSync.Http.Install
import FleetSync.Http.Server
import FleetSync.Http.Uri
import FleetSync.Identity
import FleetSync.Json.Basic
import FleetSync.Json.Form
import FleetSync.Json.MergePatch
import FleetSync.Json.Parser
import FleetSync.Json.Printer
import FleetSync.Json.Reader
import FleetSync.Kind.Basic
import FleetSync.Kind.ConfigMap
import FleetSync.Kind.Payload
import FleetSync.Kind.Secret
import FleetSync.Kubeconfig.Basic
import FleetSync.Kubeconfig.Connection
import FleetSync.Kubeconfig.Document
import FleetSync.Kubeconfig.Login
import FleetSync.LogFilter
import FleetSync.LogFilter.Directive
import FleetSync.LogFilter.Field
import FleetSync.LogFilter.Level
import FleetSync.Main
import FleetSync.Manifest
import FleetSync.Manifest.Form
import FleetSync.Number.Decimal
import FleetSync.Number.Shortest
import FleetSync.Object.Document
import FleetSync.Object.Metadata
import FleetSync.Object.Resource
import FleetSync.Pass
import FleetSync.Program
import FleetSync.Proofs.Absorption
import FleetSync.Proofs.Admission
import FleetSync.Proofs.Agreement
import FleetSync.Proofs.Attempts
import FleetSync.Proofs.Calendar
import FleetSync.Proofs.CappedPauses
import FleetSync.Proofs.CharacterBytes
import FleetSync.Proofs.ClusterNames
import FleetSync.Proofs.Conditions
import FleetSync.Proofs.Confluence
import FleetSync.Proofs.Convergence
import FleetSync.Proofs.Delays
import FleetSync.Proofs.Delivery
import FleetSync.Proofs.Dialogue
import FleetSync.Proofs.Discipline
import FleetSync.Proofs.Doubles
import FleetSync.Proofs.Entries
import FleetSync.Proofs.Episodes
import FleetSync.Proofs.Failures
import FleetSync.Proofs.FinalizerEdits
import FleetSync.Proofs.Footprint
import FleetSync.Proofs.InstantText
import FleetSync.Proofs.Interleaving
import FleetSync.Proofs.Locality
import FleetSync.Proofs.Normalization
import FleetSync.Proofs.Orphans
import FleetSync.Proofs.PassProtocol
import FleetSync.Proofs.Quiescence
import FleetSync.Proofs.Readiness
import FleetSync.Proofs.Recording
import FleetSync.Proofs.Records
import FleetSync.Proofs.Refusals
import FleetSync.Proofs.Rendering
import FleetSync.Proofs.Reporting
import FleetSync.Proofs.Reports
import FleetSync.Proofs.Retries
import FleetSync.Proofs.Scaling
import FleetSync.Proofs.SchemaMeaning
import FleetSync.Proofs.Standing
import FleetSync.Proofs.StoredForms
import FleetSync.Proofs.Synchronization
import FleetSync.Proofs.Undisturbed
import FleetSync.Proofs.Vanishing
import FleetSync.Proofs.Versions
import FleetSync.Proofs.WorstState
import FleetSync.Report
import FleetSync.Request
import FleetSync.Requeue
import FleetSync.Retry
import FleetSync.Schema
import FleetSync.Simulation
import FleetSync.Startup
import FleetSync.Status.Basic
import FleetSync.Status.Document
import FleetSync.Status.Fold
import FleetSync.Status.Placement
import FleetSync.Store.Call
import FleetSync.Store.Scripted
import FleetSync.Store.Versioned
import FleetSync.Sync
import FleetSync.Text.Base64
import FleetSync.Text.Blank
import FleetSync.Text.Bytes
import FleetSync.Text.Digits
import FleetSync.Text.FormEncoding
import FleetSync.Text.Letters
import FleetSync.Text.Pattern
import FleetSync.Text.Quoted
import FleetSync.Text.Unprintable
import FleetSync.Text.Utf8
import FleetSync.Time.Calendar
import FleetSync.Time.Duration
import FleetSync.Time.Instant
import FleetSync.Time.Rfc3339
import FleetSync.Time.Scaling
import FleetSync.Tls.Der
import FleetSync.Tls.Pem
import FleetSync.Tls.ServerName
import FleetSync.Unconnectable
import FleetSync.Yaml.Block
import FleetSync.Yaml.Gap
import FleetSync.Yaml.Glyph
import FleetSync.Yaml.Layout
import FleetSync.Yaml.Node
import FleetSync.Yaml.Plain
import FleetSync.Yaml.Printer
import FleetSync.Yaml.Quoted
import FleetSync.Yaml.Reader
import FleetSync.Yaml.Scalar
import FleetSync.Yaml.Tag
import FleetSync.Yaml.Token
import FleetSync.Yaml.Value
