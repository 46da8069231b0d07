import FleetSync.Http.Connection
import FleetSync.Http.Server
import FleetSync.Requeue

/-!
# A controller at work

A controller watches the templates of its kind and the concrete objects that carry its label. Every
change of a template, and every change of such an object whose template exists, makes a pass over
the template due at once; a pass that fails makes another one due after a delay, unless a change
asks for it sooner. Passes over different templates run side by side: in each round every pass that
does not pause makes one exchange with the server, in the order of the templates' addresses. A
template has one pass at a time, and a pass that is due meanwhile follows it. The time is counted in
milliseconds, not waited for; a started one counts in full.
-/
namespace FleetSync

structure RunningPass (k : Kind) where
  /-- When it goes on. -/
  wake : Duration
  rest : Task k (Except Failure Unit)

structure Controller (k : Kind) where
  session : Http.Session Http.Server
  connection : Http.Connection
  window : Window
  draws : Draws
  started : Bool
  /-- The time since the beginning. -/
  time : Duration
  /-- When the next pass over each template is due. -/
  due : Dict Key Duration
  /-- The passes under way by their templates. -/
  running : Dict Key (RunningPass k)

namespace Controller

def initial (k : Kind) (identity : Identity) (channel : Channel) (window : Window)
    (draws : Draws) : Controller k where
  session := ⟨.empty, channel, default⟩
  connection := .ofManager managerName identity
  window
  draws
  started := false
  time := ⟨0⟩
  due := ∅
  running := ∅

variable {k : Kind}

/-- A document with the label of the controllers. -/
def isManaged (j : Json) : Bool :=
  match j.path? ["metadata", "labels", managedByLabel] with
  | some (.str s) => s = managerName
  | _ => false

/-- The change asks for a pass over the template at its address. -/
def isTrigger (k : Kind) (c : Http.Change) : Bool :=
  (c.plural = k.template.plural && c.after.isSome) ||
    (c.plural = k.concrete.plural && (c.before.any isManaged || c.after.any isManaged))

/-- Makes a pass due, unless one is due sooner. -/
def schedule (c : Controller k) (key : Key) (at_ : Duration) : Controller k :=
  let sooner := match c.due.get? key with
    | some d => decide (d ≤ at_)
    | none => false
  if sooner then c else { c with due := c.due.insert key at_ }

def observe (c : Controller k) : Controller k :=
  let (changes, server) := c.session.server.takeChanges
  let c := { c with session := { c.session with server } }
  if c.started then
    (changes.filter (isTrigger k)).foldl (fun c change => c.schedule change.key c.time) c
  else c

def template? (c : Controller k) (key : Key) : Option (Template k) :=
  (c.session.server.find? k.template.plural key).bind Resource.ofJson?

def start (c : Controller k) : Controller k :=
  let c := { c with started := true }
  (c.session.server.documents k.template.plural).foldl (fun c e => c.schedule e.1 c.time) c

def later (c : Controller k) (d : Duration) : Duration := c.time + .ofMillis d.ceilMillis

def canBegin (c : Controller k) (e : Key × Duration) : Bool := !c.running.contains e.1

/-- Begins the pass over a template, if the template exists. -/
def begin_ (c : Controller k) (key : Key) : Controller k :=
  let c := { c with due := c.due.erase key }
  match c.template? key with
  | none => c
  | some _ =>
    let rest := (reconcile key : Attempt k Unit).run
    { c with running := c.running.insert key ⟨c.time, rest⟩ }

def beginDue (c : Controller k) : Controller k :=
  ((c.due.entries.filter fun e => c.canBegin e && decide (e.2 ≤ c.time)).map (·.1)).foldl begin_ c

/-- Ends a pass; a failed one makes the next one due after a delay. -/
def finish (c : Controller k) (key : Key) (result : Except Failure Unit) : Controller k :=
  let c := { c with running := c.running.erase key }
  match result with
  | .ok _ => c
  | .error _ =>
    let (delay, draws) := c.window.draw c.draws
    { c with draws }.schedule key (c.later delay)

/-- Goes on with the pass over a template, if it does not pause. -/
def resume (c : Controller k) (key : Key) : Controller k :=
  match c.running.get? key with
  | none => c
  | some pass =>
    if pass.wake ≤ c.time then
      let (progress, session) :=
        Http.Session.advance Http.Server.serve c.connection pass.rest c.session
      let c := { c with session }
      match progress with
      | .ended result => c.finish key result
      | .paused rest d => { c with running := c.running.insert key ⟨c.later d, rest⟩ }
    else c

def round (c : Controller k) : Controller k := c.running.keys.foldl resume c

def nextTime? (c : Controller k) : Option Duration :=
  let times := (c.due.entries.filter c.canBegin).map (·.2) ++
    c.running.entries.map (·.2.wake)
  times.foldl (fun first t => some (first.elim t (min t))) none

/-- Does what is to be done before a time, in so many rounds at most. -/
def runUntil (deadline : Duration) : Nat → Controller k → Controller k
  | 0, c => c
  | fuel + 1, c =>
    let c := c.observe
    match c.nextTime? with
    | none => { c with time := deadline }
    | some t =>
      if t < deadline then
        runUntil deadline fuel ({ c with time := max c.time t }.beginDue.round)
      else { c with time := deadline }

def roundLimit : Nat := 100000

def elapse (c : Controller k) (period : Duration) : Controller k :=
  if c.started then runUntil (c.later period) roundLimit c else c

/-- The reports that were sent since the last look, by the addresses of their templates. -/
def takeReports (c : Controller k) : List Report × Controller k :=
  let (queue, channel) := c.session.channel.drain
  (queue.mergeSort fun a b => !(KeyOrder.precedes b.key a.key),
    { c with session := { c.session with channel } })

/-- The watches that are open: the type and the selector of each, in the order of the types. -/
def watches (c : Controller k) : List (String × String) :=
  if c.started then
    [(k.concrete.plural, managedBySelector), (k.template.plural, "")].mergeSort
      fun a b => decide (a.1 ≤ b.1)
  else []

end Controller

end FleetSync
