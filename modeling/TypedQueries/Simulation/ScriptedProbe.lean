import TypedQueries.Probe
import TypedQueries.Simulation.World

/-! # A probe that follows a script

The script says what each query's description is, and what fails. Every request is noted.
-/

namespace TypedQueries

namespace Simulation

/-- What a probe answers: for the queries in the catalog, of which the last one of a text
counts; for other queries; and what fails. -/
structure ProbeScript where
  catalog : List (String × Except String QueryDescription) := []
  otherwise : Option QueryDescription := none
  failingMigration : Option String := none
  connectFault : Option String := none
  disposeFault : Option String := none

/-- A request as it is noted. -/
inductive ProbeNote where
  | connect
  | apply (name sql : String)
  | describe (sql : String)
  | dispose
deriving DecidableEq, Repr

/-- The state of simulated surroundings with a probe. -/
structure ProbedWorld where
  world : World
  script : ProbeScript := {}
  notes : List ProbeNote := []

namespace ProbeScript

/-- The answer, with a fault put in the place it belongs to. -/
def faultOr {α : Type} (fault : Option String) (failure : String → DatabaseFailure) (result : α) :
    Except DatabaseFailure α :=
  match fault with
  | some detail => .error (failure detail)
  | none => .ok result

def describe (script : ProbeScript) (sql : String) : Except DatabaseFailure QueryDescription :=
  match script.catalog.reverse.lookup sql, script.otherwise with
  | some (.ok description), _ => .ok description
  | some (.error detail), _ => .error (.describeFailed sql detail)
  | none, some description => .ok description
  | none, none => .error (.describeFailed sql "relation does not exist")

def answer (script : ProbeScript) : (request : Probe.Request) → Probe.Reply request
  | .connect => faultOr script.connectFault (.unreachable "scripted") ()
  | .apply migration =>
      if script.failingMigration = some migration.name then
        .error (.migrationFailed migration.name "syntax error")
      else .ok ()
  | .describe sql => script.describe sql
  | .dispose => faultOr script.disposeFault (.notDropped "scripted") ()

end ProbeScript

def ProbeNote.of : Probe.Request → ProbeNote
  | .connect => .connect
  | .apply migration => .apply migration.name migration.sql
  | .describe sql => .describe sql
  | .dispose => .dispose

namespace ProbedWorld

def answerWorld (request : Surroundings.Request) :
    StateM ProbedWorld (Surroundings.Reply request) :=
  modifyGet fun state =>
    let (reply, world) := World.answer request state.world
    (reply, { state with world := world })

def answerProbe (request : Probe.Request) : StateM ProbedWorld (Probe.Reply request) :=
  modifyGet fun state =>
    (state.script.answer request,
      { state with notes := state.notes ++ [ProbeNote.of request] })

/-- The result of an activity, and the state after it. -/
def perform {α : Type} (activity : Activity RunInterface α) (state : ProbedWorld) :
    α × ProbedWorld :=
  Id.run ((activity.interpret (Activity.answerSum answerWorld answerProbe)).run state)

end ProbedWorld

end Simulation

end TypedQueries
