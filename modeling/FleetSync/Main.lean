import FleetSync.Startup
import Std.Time.DateTime.Timestamp

/-!
# The program

Reads the arguments, the environment, the clock and the files, and writes what the library says.
-/
namespace FleetSync

def fileBytes? (path : String) : IO (Option (List UInt8)) := do
  try return some (← IO.FS.readBinFile path).toList
  catch _ => return none

def readFiles (paths : List String) : IO Files := do
  let contents ← paths.mapM fun path => return (path, ← fileBytes? path)
  return fun path => (contents.lookup path).join

def filesOf (files : Files) (path : String) : List String :=
  match ((files path).bind Text.ofUtf8?).bind Kubeconfig.ofText? with
  | some c => c.files path
  | none => []

/-- The names of the environment that the program looks up. -/
def environmentNames : List String :=
  "KUBECONFIG" :: CommandLine.Setting.all.filterMap (·.environmentName?)

end FleetSync

open FleetSync
def main (arguments : List String) : IO UInt32 := do
  let values ← environmentNames.mapM fun name => return (name, ← IO.getEnv name)
  let environment := fun name => (values.lookup name).join
  let named := match CommandLine.parse environment arguments with
    | .ok a => a.config.aggregatorKubeconfig.toList
    | .error _ => []
  let kubeconfigs := (environment "KUBECONFIG").toList ++ named
  let files ← readFiles kubeconfigs
  let files ← readFiles (kubeconfigs ++ kubeconfigs.flatMap (filesOf files))
  let now ← Std.Time.Timestamp.now
  let surroundings : Surroundings :=
    ⟨files, Instant.ofSeconds now.toSecondsSinceUnixEpoch.val, environment "KUBECONFIG"⟩
  match endingOf environment surroundings arguments with
  | .inl ending =>
    IO.print ending.stdout
    IO.eprint ending.stderr
    return ending.exit.toUInt32
  | .inr (_, servers) =>
    IO.eprintln ("Error: no transport to " ++ servers.own.server.text)
    return 1
