/-!
# Kubeconfigs

A kubeconfig names clusters, users and contexts, each of which puts a user to a cluster; one context
is the current one. Of two entries with one name the first is meant. What an entry says may be
missing.
-/
namespace FleetSync

structure Named (α : Type) where
  name : String
  value : Option α
  deriving DecidableEq, Repr, Inhabited

/-- Where bytes come from: from a text in Base64, or else from a file. -/
structure Source where
  data : Option String
  file : Option String
  deriving DecidableEq, Repr, Inhabited

structure Cluster where
  server : Option String
  /-- The certificates of those who may vouch for the server. -/
  authority : Source
  proxy : Option String
  /-- The name by which the server's certificate knows it. -/
  serverName : Option String
  deriving DecidableEq, Repr, Inhabited

/-- A foreign service that users log in with, and what it is told. -/
structure LoginProvider where
  name : String
  settings : List (String × String)
  deriving DecidableEq, Repr, Inhabited

/-- How a user proves who it is. -/
structure User where
  name : Option String
  password : Option String
  token : Option String
  tokenFile : Option String
  certificate : Source
  key : Source
  provider : Option LoginProvider
  /-- A program is to be asked. -/
  asksProgram : Bool
  /-- Whom the user acts for. -/
  actsAs : Option String
  /-- The groups of whom the user acts for. -/
  groups : List String
  deriving DecidableEq, Repr, Inhabited

structure Context where
  cluster : String
  user : Option String
  deriving DecidableEq, Repr, Inhabited

structure Kubeconfig where
  clusters : List (Named Cluster)
  users : List (Named User)
  contexts : List (Named Context)
  current : Option String
  kind : Option String
  version : Option String
  deriving DecidableEq, Repr, Inhabited

namespace Kubeconfig

def empty : Kubeconfig := ⟨[], [], [], none, none, none⟩

def find? {α : Type} (entries : List (Named α)) (name : String) : Option α :=
  (entries.find? (·.name = name)).bind (·.value)

/-- Both are missing or the same, or one of them is missing. -/
def agree (a b : Option String) : Bool := a.isNone || b.isNone || a == b

/-- Both kubeconfigs, the first one winning, if they are of one kind and version. -/
def append? (a b : Kubeconfig) : Option Kubeconfig :=
  if agree a.kind b.kind && agree a.version b.version then
    some ⟨a.clusters ++ b.clusters, a.users ++ b.users, a.contexts ++ b.contexts,
      a.current.or b.current, a.kind.or b.kind, a.version.or b.version⟩
  else none

end Kubeconfig

end FleetSync
