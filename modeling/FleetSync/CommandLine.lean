import FleetSync.Config
import FleetSync.Text.Digits

/-!
# The command line

Options with a value, given as the next argument or after an equals sign, and flags. What the
arguments do not give is taken from the environment, and then from the defaults. An option whose
value is still awaited takes the next argument that does not look like an option; its value is
judged when the next option begins or the arguments end, so that an argument that is no option at
all is reported before it.
-/
namespace FleetSync.CommandLine

inductive Setting where
  | clusterName
  | registrationNamespace
  | registrationSecret
  | aggregatorKubeconfig
  | channelCapacity
  | requeueMin
  | requeueMax
  | manager
  deriving DecidableEq, Repr

namespace Setting

def all : List Setting :=
  [clusterName, registrationNamespace, registrationSecret, aggregatorKubeconfig, channelCapacity,
    requeueMin, requeueMax, manager]

def text : Setting → String
  | clusterName => "cluster-name"
  | registrationNamespace => "registration-namespace"
  | registrationSecret => "registration-secret"
  | aggregatorKubeconfig => "upstream-kubeconfig"
  | channelCapacity => "status-channel-capacity"
  | requeueMin => "requeue-min-ms"
  | requeueMax => "requeue-max-ms"
  | manager => "field-manager"

/-- The variable of the environment that may give the value. -/
def environmentName? : Setting → Option String
  | clusterName => some "LATTICE_CLUSTER_NAME"
  | registrationNamespace => some "LATTICE_REGISTRATION_NAMESPACE"
  | registrationSecret => some "LATTICE_REGISTRATION_SECRET"
  | aggregatorKubeconfig => some "LATTICE_UPSTREAM_KUBECONFIG"
  | _ => none

end Setting

inductive Flag where
  | manifests
  | skipInstall
  | help
  | version
  deriving DecidableEq, Repr

namespace Flag

def all : List Flag := [manifests, skipInstall, help, version]

def text : Flag → String
  | manifests => "crd"
  | skipInstall => "skip-crd-install"
  | help => "help"
  | version => "version"

def letter? : Flag → Option Char
  | help => some 'h'
  | version => some 'V'
  | _ => none

end Flag

inductive Usage where
  | help
  | version
  | unknownArgument (text : String)
  /-- An option or a flag that was given already. -/
  | repeated (name : String)
  /-- No value, or an empty one where that is none. -/
  | invalidValue (name : String)
  /-- A value that is no number of the option's range. -/
  | notNumber (name value : String)
  /-- A value for a flag. -/
  | unneededValue (name : String)
  deriving DecidableEq, Repr

def Usage.exitCode : Usage → Nat
  | help => 0
  | version => 0
  | _ => 2

def Usage.message : Usage → String
  | help => "Keeps multi-cluster templates materialized on every placed cluster"
  | version => "lattice-fleet 0.1.0"
  | unknownArgument text => "error: unexpected argument " ++ text
  | repeated name => "error: the argument --" ++ name ++ " cannot be used multiple times"
  | invalidValue name => "error: a value is required for --" ++ name
  | notNumber name value => "error: invalid value " ++ value ++ " for --" ++ name
  | unneededValue name => "error: unexpected value for --" ++ name

structure Given where
  values : List (Setting × String)
  flags : List Flag
  deriving Repr, Inhabited

namespace Given

def value? (g : Given) (s : Setting) : Option String :=
  (g.values.find? (·.1 = s)).map (·.2)

end Given

/-- A number of 64 bits. -/
def number? (text : String) : Option Nat := (Text.unsigned? text).filter (· < UInt64.size)

def checkValue (s : Setting) (value : String) : Except Usage Unit :=
  match s with
  | .aggregatorKubeconfig => if value = "" then .error (.invalidValue s.text) else .ok ()
  | .channelCapacity | .requeueMin | .requeueMax =>
    if (number? value).isSome then .ok () else .error (.notNumber s.text value)
  | _ => .ok ()

/-- An option that was begun, and its value if that was there. -/
structure Begun where
  setting : Setting
  value : Option String

def Given.accept (g : Given) (b : Begun) : Except Usage Given := do
  match b.value with
  | none => throw (.invalidValue b.setting.text)
  | some value =>
    if (g.value? b.setting).isSome then throw (.repeated b.setting.text)
    checkValue b.setting value
    return { g with values := (b.setting, value) :: g.values }

def Given.settle (g : Given) : Option Begun → Except Usage Given
  | none => .ok g
  | some b => g.accept b

def Given.raise (g : Given) (f : Flag) : Except Usage Given :=
  match f with
  | .help => .error .help
  | .version => .error .version
  | _ => if g.flags.contains f then .error (.repeated f.text)
    else .ok { g with flags := f :: g.flags }

inductive Word where
  /-- The end of the options. -/
  | dashes
  | long (name : String) (value : Option String)
  | short (letters : List Char)
  | other

def Word.of (text : String) : Word :=
  match text.toList with
  | ['-', '-'] => .dashes
  | '-' :: '-' :: cs =>
    let name := cs.takeWhile (· ≠ '=')
    match cs.drop name.length with
    | [] => .long (String.ofList name) none
    | _ :: value => .long (String.ofList name) (some (String.ofList value))
  | '-' :: c :: cs => .short (c :: cs)
  | _ => .other

/-- The flags of a group of letters, up to one that is none. -/
def raiseLetters (g : Given) : List Char → Except Usage Given
  | [] => .ok g
  | c :: rest =>
    match Flag.all.find? fun f => f.letter? = some c with
    | some f => do raiseLetters (← g.raise f) rest
    | none => .error (.unknownArgument (String.ofList ['-', c]))

/-- Reads the arguments, with the option that was begun last. -/
def readArguments (g : Given) : Option Begun → List String → Except Usage Given
  | begun, [] => g.settle begun
  | begun, a :: rest =>
    match Word.of a with
    | .dashes =>
      match rest with
      | [] => g.settle begun
      | b :: _ => .error (.unknownArgument b)
    | .long name value =>
      match Setting.all.find? (·.text = name), Flag.all.find? (·.text = name), value with
      | some s, _, some v => do
        let g ← g.settle begun
        readArguments (← g.accept ⟨s, some v⟩) none rest
      | some s, _, none => do readArguments (← g.settle begun) (some ⟨s, none⟩) rest
      | none, some f, some _ => .error (.unneededValue f.text)
      | none, some f, none => do
        let g ← g.settle begun
        readArguments (← g.raise f) none rest
      | none, none, _ => .error (.unknownArgument a)
    | .short letters =>
      match letters with
      | c :: _ =>
        if Flag.all.any fun f => f.letter? = some c then do
          let g ← g.settle begun
          readArguments (← raiseLetters g letters) none rest
        else .error (.unknownArgument a)
      | [] => .error (.unknownArgument a)
    | .other =>
      match begun with
      | some ⟨s, none⟩ => readArguments g (some ⟨s, some a⟩) rest
      | _ => .error (.unknownArgument a)

/-- Adds what the environment gives to what the arguments do not. -/
def addEnvironment (environment : String → Option String) (g : Given) :
    List Setting → Except Usage Given
  | [] => .ok g
  | s :: rest =>
    match g.value? s, s.environmentName?.bind environment with
    | none, some v => do
      checkValue s v
      addEnvironment environment { g with values := (s, v) :: g.values } rest
    | _, _ => addEnvironment environment g rest

structure Arguments where
  manifests : Bool
  skipInstall : Bool
  config : Config

def Given.config (g : Given) : Config :=
  let base : Config := default
  let text (s : Setting) (absent : String) := (g.value? s).getD absent
  let number (s : Setting) : Option Nat := (g.value? s).bind number?
  { clusterName := g.value? .clusterName
    registration := ⟨text .registrationNamespace base.registration.ns,
      text .registrationSecret base.registration.name⟩
    channelCapacity := (number .channelCapacity).getD base.channelCapacity
    requeue := ⟨((number .requeueMin).map .ofMillis).getD base.requeue.lower,
      ((number .requeueMax).map .ofMillis).getD base.requeue.upper⟩
    aggregatorKubeconfig := g.value? .aggregatorKubeconfig
    manager := text .manager base.manager }

def parse (environment : String → Option String) (arguments : List String) :
    Except Usage Arguments := do
  let g ← readArguments ⟨[], []⟩ none arguments
  let g ← addEnvironment environment g Setting.all
  return ⟨g.flags.contains .manifests, g.flags.contains .skipInstall, g.config⟩

end FleetSync.CommandLine
