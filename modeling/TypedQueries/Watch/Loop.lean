import TypedQueries.Event

/-! # The watch loop

Runs follow each other, one at a time. A change leaves a trigger, for which there is one
place: changes that find it taken add nothing. When a run is over, a trigger begins the
next one; without a trigger the loop waits, and it ends when none can come any more. An
interrupt ends it at once, and a run in progress is abandoned.
-/

namespace TypedQueries

/-- What the loop is doing. A trigger has been taken before a run starts, except for the
first one. -/
inductive WatchPhase where
  | starting
  | running
  | waiting
  | stopped
deriving DecidableEq, Repr

/-- The state of the loop: what it is doing, whether a trigger waits, whether triggers can
still come, and how many runs have started and been completed. -/
structure WatchLoop where
  phase : WatchPhase := .starting
  pending : Bool := false
  closed : Bool := false
  started : Nat := 0
  completed : Nat := 0
deriving DecidableEq, Repr

/-- What can happen. -/
inductive WatchStep where
  /-- A change that counts; none is noticed once triggers cannot come any more. -/
  | change
  | start
  | finish
  /-- The loop takes the trigger, or learns that none will come. -/
  | receive
  | close
  | interrupt
deriving DecidableEq, Repr

namespace WatchLoop

/-- Whether a change would leave a trigger. -/
def hasRoom (loop : WatchLoop) : Bool := !loop.pending && !loop.closed && loop.phase != .stopped

/-- The state after a step, if the step can happen. -/
def step? (loop : WatchLoop) : WatchStep → Option WatchLoop
  | .change =>
      if loop.closed then none
      else some (if loop.hasRoom then { loop with pending := true } else loop)
  | .start =>
      if loop.phase = .starting then
        some { loop with phase := .running, started := loop.started + 1 }
      else none
  | .finish =>
      if loop.phase = .running then
        some { loop with phase := .waiting, completed := loop.completed + 1 }
      else none
  | .receive =>
      if loop.phase = .waiting then
        if loop.pending then some { loop with phase := .starting, pending := false }
        else if loop.closed then some { loop with phase := .stopped }
        else none
      else none
  | .close => some { loop with closed := true }
  | .interrupt =>
      if loop.phase = .running || loop.phase = .waiting then
        some { loop with phase := .stopped }
      else none

/-- The state after a step; a step that cannot happen changes nothing. -/
def step (loop : WatchLoop) (event : WatchStep) : WatchLoop := (loop.step? event).getD loop

/-- The state after several steps, if they can happen. -/
def steps? (loop : WatchLoop) : List WatchStep → Option WatchLoop
  | [] => some loop
  | event :: rest => (loop.step? event).bind fun loop => loop.steps? rest

def logTarget : String := "sqltype_cli::watch"

def records (loop : WatchLoop) : WatchStep → List LogRecord
  | .receive =>
      if loop.phase = .waiting && loop.pending then
        [⟨.info, logTarget, "change detected, regenerating", []⟩]
      else []
  | .interrupt =>
      if loop.phase = .running then
        [⟨.info, logTarget, "interrupted during a run, stopping watch", []⟩]
      else if loop.phase = .waiting then
        [⟨.info, logTarget, "interrupted, stopping watch", []⟩]
      else []
  | _ => []

end WatchLoop

end TypedQueries
