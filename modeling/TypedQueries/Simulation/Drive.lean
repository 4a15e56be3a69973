import TypedQueries.Watch.Loop

/-! # The watch loop with scripted runs

Every run leaves a number of changes and then ends in the way its script says. The last
script serves for all further runs.
-/

namespace TypedQueries

namespace Simulation

/-- How a run ends: it finishes; it finishes after closing the source of changes; the user
interrupts once it has finished, or while it goes on. -/
inductive RunEnding where
  | finish
  | close
  | interruptAfter
  | interruptWithin
deriving DecidableEq, Repr

/-- What a run does. -/
structure RunScript where
  changes : Nat := 0
  ending : RunEnding := .finish
deriving DecidableEq, Repr

/-- So many changes: for each whether it leaves a trigger. None happens once the source of
changes is closed. -/
def changeTimes : Nat → WatchLoop → List Bool × WatchLoop
  | 0, loop => ([], loop)
  | count + 1, loop =>
      if loop.closed then ([], loop)
      else
        let rest := changeTimes count (loop.step .change)
        (loop.hasRoom :: rest.1, rest.2)

/-- The steps at the end of a run. Without a trigger or an interrupt nothing more can
happen, so the source of changes is closed. -/
def endingSteps (loop : WatchLoop) : RunEnding → List WatchStep
  | .finish => if loop.pending then [.finish, .receive] else [.close, .finish, .receive]
  | .close => [.close, .finish, .receive]
  | .interruptAfter => [.finish, .interrupt]
  | .interruptWithin => [.interrupt]

/-- One run by its script: which of its changes left a trigger, and the loop after it. -/
def scriptedRun (script : RunScript) (last : Bool) (loop : WatchLoop) : List Bool × WatchLoop :=
  let (accepted, loop) := changeTimes script.changes (loop.step .start)
  let loop := if last then loop.step .close else loop
  (accepted, (endingSteps loop script.ending).foldl WatchLoop.step loop)

/-- At most so many more runs by their scripts. -/
def drive (scripts : List RunScript) : Nat → Nat → WatchLoop → List (List Bool) × WatchLoop
  | 0, _, loop => ([], loop)
  | fuel + 1, index, loop =>
      if loop.phase = .starting then
        let script := (scripts[index]?.or scripts.getLast?).getD {}
        let (accepted, loop) := scriptedRun script (scripts.length ≤ index + 1) loop
        let rest := drive scripts fuel (index + 1) loop
        (accepted :: rest.1, rest.2)
      else ([], loop)

/-- The loop with scripted runs, after a number of changes: for those and for every run,
which changes left a trigger; and the loop in the end. After the last script at most one
run is left. -/
def driveFrom (before : Nat) (scripts : List RunScript) : List (List Bool) × WatchLoop :=
  let (accepted, loop) := changeTimes before {}
  let rest := drive scripts (scripts.length + 2) 0 loop
  (accepted :: rest.1, rest.2)

end Simulation

end TypedQueries
