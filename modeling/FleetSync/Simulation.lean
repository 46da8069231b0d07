import FleetSync.Channel
import FleetSync.Forwarding
import FleetSync.Identity
import FleetSync.Json.MergePatch
import FleetSync.Pass
import FleetSync.Requeue
import FleetSync.Store.Scripted

/-!
# A cluster in memory

The surroundings of a controller for one kind: four scripted stores, the identity of the cluster,
the channel of its reports and the window of its requeue delays. The time stands still but for
pauses, which take no time and are added up.
-/
namespace FleetSync

inductive StoreName where
  | templates
  /-- The aggregator's copies of the templates. -/
  | aggregator
  | concretes
  /-- The secrets that hold registrations. -/
  | registration
  deriving DecidableEq, Repr

namespace StoreName

def all : List StoreName := [templates, aggregator, concretes, registration]

def Object (k : Kind) : StoreName → Type
  | templates => Template k
  | aggregator => Template k
  | concretes => Concrete k
  | registration => Concrete Kind.secret

instance (k : Kind) : (n : StoreName) → Resource (n.Object k)
  | templates => inferInstanceAs (Resource (Template k))
  | aggregator => inferInstanceAs (Resource (Template k))
  | concretes => inferInstanceAs (Resource (Concrete k))
  | registration => inferInstanceAs (Resource (Concrete Kind.secret))

end StoreName

structure Simulation (k : Kind) where
  templates : ScriptedStore (Template k)
  aggregator : ScriptedStore (Template k)
  concretes : ScriptedStore (Concrete k)
  registration : ScriptedStore (Concrete Kind.secret)
  identity : Identity
  channel : Channel
  window : Window
  draws : Draws
  now : Instant
  /-- The pauses so far, in started milliseconds. -/
  pausedMillis : Nat
  /-- The calls so far, the last one first. -/
  calls : List (StoreName × CallRecord)

namespace Simulation

variable {k : Kind}

def start (cluster : String) (channel : Channel) (window : Window) (draws : Draws)
    (statusApart : Bool) : Simulation k where
  templates := .empty statusApart
  aggregator := .empty statusApart
  concretes := .empty false
  registration := .empty false
  identity := .fixed cluster
  channel
  window
  draws
  now := default
  pausedMillis := 0
  calls := []

def get (w : Simulation k) : (n : StoreName) → ScriptedStore (n.Object k)
  | .templates => w.templates
  | .aggregator => w.aggregator
  | .concretes => w.concretes
  | .registration => w.registration

def set (w : Simulation k) : (n : StoreName) → ScriptedStore (n.Object k) → Simulation k
  | .templates, s => { w with templates := s }
  | .aggregator, s => { w with aggregator := s }
  | .concretes, s => { w with concretes := s }
  | .registration, s => { w with registration := s }

/-- The simulation with a change of a store made past its script. -/
def mapStore (w : Simulation k) (n : StoreName) (f : Store (n.Object k) → Store (n.Object k)) :
    Simulation k :=
  w.set n ((w.get n).mapStore f)

def contents (w : Simulation k) (n : StoreName) : List (Key × Json) :=
  (w.get n).store.objects.entries.map fun e => (e.1, Resource.toJson e.2)

/-- A call of a store, which is recorded. -/
def callStore (n : StoreName) (call : StoreCall (n.Object k)) (w : Simulation k) :
    call.Answer × Simulation k :=
  let (a, s) := (w.get n).answer call
  let w := w.set n s
  (a, { w with calls := (n, ⟨call.verb, call.key, call.outcome a⟩) :: w.calls })

def clusterName : StateM (Simulation k) (Except Failure String) := do
  (← MonadState.get).identity.clusterName fun key w => callStore .registration (.get key) w

/-- Answers a request, with templates kept in the store `n`. -/
def answerWith (templatesStore : (call : StoreCall (Template k)) → Simulation k →
      call.Answer × Simulation k) : (q : Request k) → Simulation k → q.Answer × Simulation k
  | .template call, w => templatesStore call w
  | .concrete call, w => callStore .concretes call w
  | .clusterName, w => clusterName w
  | .now, w => (w.now, w)
  | .pause d, w => ((), { w with pausedMillis := w.pausedMillis + d.ceilMillis })
  | .report r, w => ((), { w with channel := w.channel.send r })

/-- Runs a program of the cluster's own controller. -/
def run {α : Type} (task : Task k α) : StateM (Simulation k) α :=
  task.run (answerWith (callStore .templates))

def runAggregator {α : Type} (task : Task k α) : StateM (Simulation k) α :=
  task.run (answerWith (callStore .aggregator))

/-- Runs a program without a channel for its reports. -/
def runUnreported {α : Type} (task : Task k α) : StateM (Simulation k) α := fun w =>
  let (a, w') := run task { w with channel := .disabled }
  (a, { w' with channel := w.channel })

def requeueDelay : StateM (Simulation k) Duration := fun w =>
  let (d, draws) := w.window.draw w.draws
  (d, { w with draws })

/-- The change of the stored document at an address by a merge patch, if there is one and the
result is a document of the kind. -/
def patched? (w : Simulation k) (n : StoreName) (key : Key) (patch : Json) :
    Option (Option (n.Object k)) :=
  ((w.get n).store.find? key).map fun o => Resource.ofJson? ((Resource.toJson o).merge patch)

def sinks : Sinks (StateM (Simulation k)) :=
  Dict.empty.insert k.template.kind fun r => runAggregator (recordReport r : Attempt k Bool).run

def receive : StateM (Simulation k) Received := fun w =>
  let (r, channel) := w.channel.receive
  (r, { w with channel })

/-- Closes the channel and forwards what is queued; the answer says whether anybody received. -/
def forwardAll (sinks : Sinks (StateM (Simulation k))) : StateM (Simulation k) Bool := do
  modify fun w => { w with channel := w.channel.closeSender }
  let channel := (← MonadState.get).channel
  modify fun w => { w with channel := w.channel.closeReceiver }
  sinks.dispatchAll channel.queue
  return channel.hasReceiver

end Simulation

end FleetSync
