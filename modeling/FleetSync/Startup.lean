import FleetSync.CommandLine
import FleetSync.Http.Install
import FleetSync.Kubeconfig.Connection
import FleetSync.Yaml.Printer

/-!
# Starting up

What the program does before it talks to a server: it writes the manifests if it is asked for them;
else it checks its configuration and sets up the connections, its own one first.
-/
namespace FleetSync

/-- Why the program has no connection to the aggregator, unless a token stops it. -/
def aggregatorFailure? : KubeconfigFault → Option Failure
  | .unreadable path =>
    some (.config ("failed to read upstream kubeconfig " ++ Text.quoted path ++ ": no kubeconfig"))
  | .incomplete gap => some (.config ("invalid upstream kubeconfig: " ++ gap.message))
  | .unconnectable cause => some (.server (.unconnectable cause))
  | .brokenToken => none

/-- Why the program ends before it talks to a server. -/
inductive StartFault where
  | config (fault : ConfigFault)
  /-- There is no connection to the program's own cluster. -/
  | own (fault : KubeconfigFault)
  | aggregator (fault : KubeconfigFault)
  deriving DecidableEq, Repr

namespace StartFault

def brokenTokenMessage : String := "token is not valid header"

def message : StartFault → String
  | config fault => (Failure.config fault.message).message
  | own (.unconnectable cause) => "Failed to create Kubernetes client: " ++ cause.message
  | own .brokenToken => brokenTokenMessage
  | own _ => "Failed to create Kubernetes client: Failed to infer configuration"
  | aggregator fault => ((aggregatorFailure? fault).map Failure.message).getD brokenTokenMessage

/-- The program stops without an orderly end. -/
def isCrash : StartFault → Bool
  | own .brokenToken => true
  | aggregator .brokenToken => true
  | _ => false

end StartFault

structure Servers where
  own : Target
  aggregator : Option Target
  deriving DecidableEq, Repr, Inhabited

/-- The files, the time and the path of the own kubeconfig that a program starts with. -/
structure Surroundings where
  files : Files
  now : Instant
  kubeconfig : Option String

/-- The aggregator's server, if the configuration names one. -/
def Config.aggregatorServer (c : Config) (s : Surroundings) :
    Except KubeconfigFault (Option Target) :=
  match c.aggregatorKubeconfig with
  | none => .ok none
  | some path => (Kubeconfig.target path s.files s.now).map some

def Surroundings.ownServer (s : Surroundings) : Except KubeconfigFault Target :=
  match s.kubeconfig with
  | none => .error (.unreadable "")
  | some path => Kubeconfig.target path s.files s.now

def Config.servers (c : Config) (s : Surroundings) : Except StartFault Servers := do
  if let some fault := c.fault? then throw (.config fault)
  let own ← s.ownServer.mapError .own
  let aggregator ← (c.aggregatorServer s).mapError .aggregator
  return ⟨own, aggregator⟩

def manifestsText : String :=
  String.intercalate "---\n" (Kind.all.map fun k => Yaml.render k.manifest) ++ "\n"

/-- How the program ends: its exit code and what it writes. -/
structure Ending where
  exit : Nat
  stdout : String
  stderr : String
  deriving DecidableEq, Repr

/-- The code of a program that stops without an orderly end. -/
def crashCode : Nat := 101

/-- How the program ends, unless it goes on to talk to the servers. -/
def endingOf (environment : String → Option String) (s : Surroundings)
    (arguments : List String) : Ending ⊕ (CommandLine.Arguments × Servers) :=
  match CommandLine.parse environment arguments with
  | .error usage =>
    let text := usage.message ++ "\n"
    .inl (if usage.exitCode = 0 then ⟨0, text, ""⟩ else ⟨usage.exitCode, "", text⟩)
  | .ok a =>
    if a.manifests then .inl ⟨0, manifestsText, ""⟩
    else
      match a.config.servers s with
      | .error fault =>
        let code := if fault.isCrash then crashCode else 1
        .inl ⟨code, "", "Error: " ++ fault.message ++ "\n"⟩
      | .ok servers => .inr (a, servers)

end FleetSync
