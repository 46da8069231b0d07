import FleetSync.Channel
import FleetSync.Http.Client
import FleetSync.Identity
import FleetSync.Pass

/-!
# A controller connected to a server

The surroundings of a controller whose stores are behind a server. Templates, concrete objects and
the registration are reached over the same exchange, each under the name of a manager.
-/
namespace FleetSync.Http

/-- Who the controller writes as, and where it takes the name of its cluster from. -/
structure Connection where
  manager : String
  templateManager : String
  concreteManager : String
  identity : Identity

namespace Connection

/-- The connection with one manager for all. -/
def ofManager (manager : String) (identity : Identity) : Connection :=
  ⟨manager, manager, manager, identity⟩

end Connection

/-- A controller's side of its connections, with the state of the server's side. -/
structure Session (σ : Type) where
  server : σ
  channel : Channel
  now : Instant

namespace Session

variable {σ : Type} {k : Kind}

def exchange (serve : Request → σ → Outcome × σ) (r : Request) : StateM (Session σ) Outcome :=
  fun s =>
    let (outcome, server) := serve r s.server
    (outcome, { s with server })

/-- Answers a request of the controller; a pause is over at once. -/
def answer (serve : Request → σ → Outcome × σ) (c : Connection) :
    (q : FleetSync.Request k) → Session σ → q.Answer × Session σ
  | .template call, s => perform (exchange serve) c.templateManager call s
  | .concrete call, s => perform (exchange serve) c.concreteManager call s
  | .clusterName, s =>
    Identity.clusterName (m := StateM (Session σ))
      (fun key => perform (exchange serve) c.manager (.get key)) c.identity s
  | .now, s => (s.now, s)
  | .pause _, s => ((), s)
  | .report r, s => ((), { s with channel := s.channel.send r })

def run {α : Type} (serve : Request → σ → Outcome × σ) (c : Connection) (task : Task k α) :
    StateM (Session σ) α :=
  task.run (answer serve c)

inductive Progress (k : Kind) (α : Type) where
  | ended (result : α)
  /-- The rest of the program goes on after a pause. -/
  | paused (rest : Task k α) (pause : Duration)

def isExchange (c : Connection) : FleetSync.Request k → Bool
  | .template _ => true
  | .concrete _ => true
  | .clusterName => c.identity.isRegistered
  | .now => false
  | .pause _ => false
  | .report _ => false

/-- Runs a program up to its first pause or past its first exchange with the server. -/
def advance {α : Type} (serve : Request → σ → Outcome × σ) (c : Connection) :
    Task k α → Session σ → Progress k α × Session σ
  | .done a, s => (.ended a, s)
  | .ask (.pause d) next, s => (.paused (next ()) d, s)
  | .ask q next, s =>
    let (a, s) := answer serve c q s
    if isExchange c q then (.paused (next a) ⟨0⟩, s) else advance serve c (next a) s

end Session

/-- A server that gives out replies in order, whatever it is asked, and records what it is. -/
structure ScriptedServer where
  replies : List Outcome
  /-- The requests so far, the last one first. -/
  requests : List Request

/-- A scripted server is out of reach when its replies are used up. -/
def ScriptedServer.serve (r : Request) (s : ScriptedServer) : Outcome × ScriptedServer :=
  (s.replies.headD (.error "no response left"), ⟨s.replies.tail, r :: s.requests⟩)

end FleetSync.Http
