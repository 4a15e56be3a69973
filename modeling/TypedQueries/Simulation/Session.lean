import TypedQueries.CommandLine.LogFilter
import TypedQueries.CommandLine.Session
import TypedQueries.Simulation.ScriptedServer

/-! # Simulated sessions

Sessions of the program in simulated surroundings, with everything the user gets to see.
In a watch every run is followed by a change of the surroundings; when no change is left,
or when a run waits for ever, the user interrupts.
-/

namespace TypedQueries

namespace Simulation

variable [Grammars] [Postgres.ConnectionStrings]

/-- A change of the surroundings between two runs. -/
abbrev Intervention : Type := ServedWorld → ServedWorld

/-- A step of the watch loop, with its log entries. -/
def watchStep (event : WatchStep) (loop : WatchLoop) (state : ServedWorld) :
    WatchLoop × ServedWorld :=
  (loop.step event,
    { state with world := { state.world with log := state.world.log ++ loop.records event } })

def watchSteps : List WatchStep → WatchLoop → ServedWorld → WatchLoop × ServedWorld
  | [], loop, state => (loop, state)
  | event :: rest, loop, state =>
      let (loop, state) := watchStep event loop state
      watchSteps rest loop state

/-- One run of a watch, and whether it came to an end. -/
def watchOnce (root : Path) (settings : Settings) (loop : WatchLoop) (state : ServedWorld) :
    Bool × WatchLoop × ServedWorld :=
  let (loop, state) := watchStep .start loop state
  let (result, state) :=
    state.perform (Session.watchedRun root settings state.world.observers.length)
  (result.isSome, loop, state)

/-- The runs of a watch, with interventions between them. -/
def watchRuns (root : Path) (settings : Settings) (loop : WatchLoop) (state : ServedWorld) :
    List Intervention → WatchLoop × ServedWorld
  | [] =>
      match watchOnce root settings loop state with
      | (true, loop, state) => watchSteps [.finish, .interrupt] loop state
      | (false, loop, state) => watchStep .interrupt loop state
  | intervention :: rest =>
      match watchOnce root settings loop state with
      | (true, loop, state) =>
          let (loop, state) := watchStep .finish loop state
          let (loop, state) := watchSteps [.change, .receive] loop (intervention state)
          watchRuns root settings loop state rest
      | (false, loop, state) => watchStep .interrupt loop state

/-- A watch of the project in a directory. -/
def watch (root : Path) (settings : Settings) (interventions : List Intervention)
    (state : ServedWorld) : WatchLoop × ServedWorld :=
  let (_, state) := state.perform (Session.beginWatch root settings)
  watchRuns root settings {} state interventions

/-- What the user gets to see of a session. -/
structure Transcript where
  exitCode : Nat
  output : String
  errors : String
deriving DecidableEq, Repr

namespace Transcript

/-- A session that ends with the given result. -/
def ofResult (log : List LogRecord) (filter : LogFilter) (result : Except Trouble Unit) :
    Transcript :=
  let output := String.join ((log.filter filter.shows).map (·.line))
  match result with
  | .ok () => ⟨0, output, ""⟩
  | .error trouble => ⟨1, output, trouble.text⟩

/-- A session that does not come to a run. -/
def ofStop (stop : Arguments.Stop) : Transcript :=
  if stop.isSuccess then ⟨stop.exitCode, stop.text, ""⟩ else ⟨stop.exitCode, "", stop.text⟩

end Transcript

/-- The part of a session after the settings have been loaded. A run that waits for ever
shows nothing more. -/
def afterSettings (root : Path) (watching : Bool) (settings : Settings) (state : ServedWorld) :
    Except Trouble Unit × ServedWorld :=
  if watching then (.ok (), (watch root settings [] state).2)
  else
    let (result, state) :=
      state.perform (Session.runOnce root settings state.world.observers.length)
    (result.getD (.ok ()), state)

/-- A session of the program in a directory, with the given arguments and environment. In
a watch the user interrupts after the first run. -/
def session [Toml.Reader] (root : Path) (arguments : List String)
    (environment : Settings.Environment) (state : ServedWorld) : Transcript × ServedWorld :=
  match Arguments.read arguments with
  | .error stop => (.ofStop stop, state)
  | .ok watching =>
      let world : World := { state.world with observers := [.logger], heard := [], log := [] }
      let (settings, state) :=
        { state with world := world }.perform (Session.loadSettings root environment)
      let (result, state) :=
        match settings with
        | some (.ok settings) => afterSettings root watching settings state
        | some (.error trouble) => (.error trouble, state)
        | none => (.ok (), state)
      (.ofResult state.world.log (.ofSetting (environment "SQLTYPE_LOG")) result, state)

end Simulation

end TypedQueries
