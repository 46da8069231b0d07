import FleetSync.Kubeconfig.Basic
import FleetSync.Yaml.Reader

/-!
# Kubeconfigs as texts

A text spells a kubeconfig in one YAML document or in several ones, which are taken together. A
document without contents is a kubeconfig without entries. Fields that do not matter for a
connection must have the right form as well; fields of other names are passed over.
-/
namespace FleetSync.Kubeconfig

open Yaml.Reader

/-- A name with what may be anything without tags. -/
def readExtension : Yaml.Reader Unit := fun v => do
  let fields ← record ["name", "extension"] v
  let _ ← required fields "name" string
  required fields "extension" fun v => if isDocument v then some () else none

/-- A field of extensions, of which nothing is kept. -/
def checkExtensions (fields : List (String × Yaml.Value)) : Option Unit :=
  (maybe fields "extensions" (list readExtension)).map fun _ => ()

def checkPreferences : Yaml.Reader Unit := fun v => do
  let fields ← record ["colors", "extensions"] v
  let _ ← maybe fields "colors" bool
  checkExtensions fields

/-- An entry that says what it says in the field `field`. -/
def readNamed {α : Type} (field : String) (read : Yaml.Reader α) :
    Yaml.Reader (Named α) := fun v => do
  let fields ← record ["name", field] v
  return ⟨← required fields "name" string, ← maybe fields field read⟩

/-- The source that a field and its twin with a text in Base64 give. -/
def readSource (fields : List (String × Yaml.Value)) (name : String) : Option Source := do
  return ⟨← maybe fields (name ++ "-data") string, ← maybe fields name string⟩

def readCluster : Yaml.Reader Cluster := fun v => do
  let fields ← record ["server", "insecure-skip-tls-verify", "certificate-authority",
    "certificate-authority-data", "proxy-url", "disable-compression", "tls-server-name",
    "extensions"] v
  let _ ← maybe fields "insecure-skip-tls-verify" bool
  let _ ← maybe fields "disable-compression" bool
  checkExtensions fields
  return {
    server := ← maybe fields "server" string
    authority := ← readSource fields "certificate-authority"
    proxy := ← maybe fields "proxy-url" string
    serverName := ← maybe fields "tls-server-name" string }

def readProvider : Yaml.Reader LoginProvider := fun v => do
  let fields ← record ["name", "config"] v
  return ⟨← required fields "name" string, ← withDefault fields "config" [] strings⟩

/-- When a program may ask the user in turn. -/
def interactiveModes : List String := ["Never", "IfAvailable", "Always"]

/-- The program that is to be asked, of which nothing is kept. -/
def checkProgram : Yaml.Reader Unit := fun v => do
  let fields ← record ["apiVersion", "command", "args", "env", "interactiveMode",
    "provideClusterInfo"] v
  let _ ← maybe fields "apiVersion" string
  let _ ← maybe fields "command" string
  let _ ← maybe fields "args" (list string)
  let _ ← maybe fields "env" (list strings)
  let _ ← maybe fields "interactiveMode" (choice interactiveModes)
  let _ ← withDefault fields "provideClusterInfo" false bool
  return ()

def readUser : Yaml.Reader User := fun v => do
  let fields ← record ["username", "password", "token", "tokenFile", "client-certificate",
    "client-certificate-data", "client-key", "client-key-data", "as", "as-groups",
    "auth-provider", "exec"] v
  return {
    name := ← maybe fields "username" string
    password := ← maybe fields "password" string
    token := ← maybe fields "token" string
    tokenFile := ← maybe fields "tokenFile" string
    certificate := ← readSource fields "client-certificate"
    key := ← readSource fields "client-key"
    provider := ← maybe fields "auth-provider" readProvider
    asksProgram := (← maybe fields "exec" checkProgram).isSome
    actsAs := ← maybe fields "as" string
    groups := (← maybe fields "as-groups" (list string)).getD [] }

def readContext : Yaml.Reader Context := fun v => do
  let fields ← record ["cluster", "user", "namespace", "extensions"] v
  let _ ← maybe fields "namespace" string
  checkExtensions fields
  return ⟨← required fields "cluster" string, ← maybe fields "user" string⟩

def ofValue? : Yaml.Reader Kubeconfig := fun v => do
  let fields ← record ["preferences", "clusters", "users", "contexts", "current-context",
    "extensions", "kind", "apiVersion"] v
  let _ ← maybe fields "preferences" checkPreferences
  checkExtensions fields
  let clusters ← maybe fields "clusters" (list (readNamed "cluster" readCluster))
  let users ← maybe fields "users" (list (readNamed "user" readUser))
  let contexts ← maybe fields "contexts" (list (readNamed "context" readContext))
  return {
    clusters := clusters.getD []
    users := users.getD []
    contexts := contexts.getD []
    current := ← maybe fields "current-context" string
    kind := ← maybe fields "kind" string
    version := ← maybe fields "apiVersion" string }

/-- A text without the byte order mark at its front. -/
def withoutMark (text : String) : String :=
  match text.toList with
  | '\ufeff' :: rest => String.ofList rest
  | _ => text

def ofText? (text : String) : Option Kubeconfig := do
  let configs ← (← Yaml.Value.documents? (withoutMark text)).mapM ofValue?
  configs.foldlM append? empty

end FleetSync.Kubeconfig
