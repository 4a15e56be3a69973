import TypedQueries.Postgres.Scratch
import TypedQueries.Simulation.World

/-! # A server that follows a script

The script says how the server reacts to statements and queries: with success, with an
error, by hanging up, or not at all. A request that is never answered ends the activity
that waits for it. What the server receives is noted.
-/

namespace TypedQueries

namespace Simulation

open Postgres

/-- How a server reacts to a request. -/
inductive Reaction (α : Type) where
  | answer (result : α)
  | fail (fault : ClientFault)
  | hangUp
  | stall

/-- Which statements are meant: those of exactly this text, or those that begin so. -/
inductive Pattern where
  | exactly (sql : String)
  | beginning (text : String)
deriving DecidableEq, Repr

def Pattern.fits (sql : String) : Pattern → Bool
  | exactly text => text == sql
  | beginning text => text.toList.isPrefixOf sql.toList

/-- What a server does: where it listens; whom it refuses; how it reacts to statements and
to queries, where the first entry that fits counts. -/
structure ServerScript where
  address : Address
  refusals : List (Nat × ClientFault) := []
  statements : List (Pattern × Reaction Unit) := []
  queries : List (String × Reaction QueryDescription) := []
  otherwise : Option QueryDescription := none

namespace ServerScript

def onBatch (script : ServerScript) (sql : String) : Reaction Unit :=
  ((script.statements.find? fun entry => entry.1.fits sql).map (·.2)).getD (.answer ())

def onPrepare (script : ServerScript) (sql : String) : Reaction QueryDescription :=
  match script.queries.lookup sql, script.otherwise with
  | some reaction, _ => reaction
  | none, some description => .answer description
  | none, none => .fail (.server "relation does not exist" none)

end ServerScript

/-- Whether an address is the one where a server listens. -/
def isSameAddress : Address → Address → Bool
  | .socket p, .socket q => p.same q
  | a, b => a == b

/-- How a connection stands. -/
inductive Standing where
  | active
  | refused
  | hungUp
  | ended
deriving DecidableEq, Repr

/-- What a server notes. -/
inductive ServerNote where
  | startup (connection : Nat) (user : String) (database : Option String)
  | query (connection : Nat) (sql : String)
  | prepare (connection : Nat) (sql : String)
  | stalled (connection : Nat)
deriving DecidableEq, Repr

/-- The state of simulated surroundings with a server. -/
structure ServedWorld where
  world : World
  script : Option ServerScript := none
  connections : List Standing := []
  notes : List ServerNote := []

namespace ServedWorld

/-- An activity in the simulation; one that waits for ever has no result. -/
abbrev Simulated (α : Type) : Type := OptionT (StateM ServedWorld) α

def note (entry : ServerNote) : Simulated Unit :=
  modify fun state => { state with notes := state.notes ++ [entry] }

def stand (connection : Nat) (standing : Standing) : Simulated Unit :=
  modify fun state => { state with connections := state.connections.set connection standing }

def react {α : Type} (connection : Nat) : Reaction α → Simulated (Except ClientFault α)
  | .answer result => return .ok result
  | .fail fault => return .error fault
  | .hangUp => do
      stand connection .hungUp
      return .error .hungUp
  | .stall => do
      note (.stalled connection)
      failure

/-- The reply to a request on a connection, which fails unless the connection is open. -/
def onConnection {α : Type} (connection : Nat) (entry : ServerNote)
    (reaction : ServerScript → Reaction α) : Simulated (Except ClientFault α) := do
  let state ← get
  match state.connections[connection]?, state.script with
  | some .active, some script =>
      note entry
      react connection (reaction script)
  | _, _ => return .error .closed

def accept (script : ServerScript) (user : String) (database : Option String) :
    Simulated (Except ClientFault Nat) := do
  let connection := (← get).connections.length
  note (.startup connection user database)
  let refusal := script.refusals.lookup connection
  modify fun state =>
    { state with
      connections := state.connections ++ [if refusal.isSome then .refused else .active] }
  match refusal with
  | some fault => return .error fault
  | none => return .ok connection

def answerWorld (request : Surroundings.Request) : Simulated (Surroundings.Reply request) :=
  modifyGet fun state =>
    let (reply, world) := World.answer request state.world
    (reply, { state with world := world })

def answerServer : (request : Server.Request) → Simulated (Server.Reply request)
  | .account => return "root"
  | .stamp => return (1, (← get).connections.length)
  | .dial address user database => do
      match (← get).script with
      | some script =>
          if isSameAddress script.address address then accept script user database
          else return .error .unreachable
      | none => return .error .unreachable
  | .batch connection sql => onConnection connection (.query connection sql) (·.onBatch sql)
  | .prepare connection sql => onConnection connection (.prepare connection sql) (·.onPrepare sql)
  | .close connection => do
      match (← get).connections[connection]? with
      | some .active => stand connection .ended
      | _ => pure ()

/-- The result of an activity, unless it waits for ever, and the state after it. -/
def perform {α : Type} (activity : Activity ClientInterface α) (state : ServedWorld) :
    Option α × ServedWorld :=
  Id.run (((activity.interpret (Activity.answerSum answerWorld answerServer)).run).run state)

end ServedWorld

end Simulation

end TypedQueries
