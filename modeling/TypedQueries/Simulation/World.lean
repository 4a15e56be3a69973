import TypedQueries.FileSystem.Change
import TypedQueries.Surroundings

/-! # Simulated surroundings

Surroundings that are a value: a file system, observers of known behaviour, and a record
of what the observers heard and of what was logged. Time stands still, and two workers
share what there is to do.
-/

namespace TypedQueries

namespace Simulation

/-- The state of simulated surroundings. -/
structure World where
  files : FileSystem
  observers : List Observer := []
  heard : List (Nat × Event) := []
  log : List LogRecord := []

namespace World

/-- A change of the files as a step of the surroundings. -/
def change {α : Type} (outcome : FileSystem → FileSystem.Outcome α) :
    StateM World (Except SystemFault α) :=
  modifyGet fun world =>
    let (result, files) := outcome world.files
    (result, { world with files := files })

def hear (observer : Nat) (event : Event) (world : World) : Bool × World :=
  let behaviour := world.observers[observer]?.getD .silent
  (behaviour.fails event,
    { world with
      heard := world.heard ++ [(observer, event)]
      log := world.log ++ behaviour.log event })

/-- The order in which two workers finish pieces of work when one has the first half of them, the
other the second, and they keep pace. -/
def turns (pieces : Nat) : List Nat :=
  let half := pieces / 2
  (List.range (pieces - half)).flatMap fun piece =>
    if piece < half then [piece, half + piece] else [half + piece]

def answer : (request : Surroundings.Request) → StateM World (Surroundings.Reply request)
  | .survey => return (← get).files
  | .makeDirectories path => change fun fs => fs.makeDirectories path
  | .makeTemporary directory => change fun fs => fs.makeTemporary directory
  | .fill path content => change fun fs => fs.fill path content
  | .sync _ => return .ok ()
  | .rename source target => change fun fs => fs.rename source target
  | .discard path => modify fun world => { world with files := world.files.remove path }
  | .tell observer event => modifyGet (hear observer event)
  | .log record => modify fun world => { world with log := world.log ++ [record] }
  | .elapsed => return 0
  | .workers pieces => return .ok (turns pieces)

def heardBy (world : World) (observer : Nat) : List Event :=
  (world.heard.filter (·.1 == observer)).map (·.2)

/-- The surroundings with nothing heard or logged so far. -/
def forget (world : World) : World := { world with heard := [], log := [] }

end World

end Simulation

end TypedQueries
