import TypedQueries.Activity
import TypedQueries.Event
import TypedQueries.FileSystem

/-! # The surroundings of a run

What a run asks for beside the database: a look at the files, changes of files, someone to
tell of its progress, a log, the time, and workers for what can be done side by side.
-/

namespace TypedQueries

namespace Surroundings

/-- What can be asked for. -/
inductive Request where
  | survey
  | makeDirectories (path : Path)
  /-- An empty temporary file in a directory. -/
  | makeTemporary (directory : Path)
  | fill (path : Path) (content : ByteArray)
  /-- That the content of a file is kept for good. -/
  | sync (path : Path)
  /-- One file in the place of another, at one stroke. -/
  | rename (source target : Path)
  | discard (path : Path)
  /-- That an observer, given by its number, hears of an event. -/
  | tell (observer : Nat) (event : Event)
  | log (record : LogRecord)
  /-- The milliseconds since the run began. -/
  | elapsed
  /-- Workers for so many pieces of work, counted from zero. -/
  | workers (pieces : Nat)

/-- The replies: whether an observer fails; in which order the workers finish, or why they are
stopped before they are done. -/
abbrev Reply : Request → Type
  | .survey => FileSystem
  | .makeDirectories _ => Except SystemFault Unit
  | .makeTemporary _ => Except SystemFault Path
  | .fill _ _ => Except SystemFault Unit
  | .sync _ => Except SystemFault Unit
  | .rename _ _ => Except SystemFault Unit
  | .discard _ => Unit
  | .tell _ _ => Bool
  | .log _ => Unit
  | .elapsed => Nat
  | .workers _ => Except String (List Nat)

end Surroundings

def Surroundings : Interface where
  Request := Surroundings.Request
  Reply := Surroundings.Reply

namespace Surroundings

def ask (request : Request) : Activity Surroundings (Reply request) :=
  Activity.request (I := Surroundings) request

def log (record : LogRecord) : Activity Surroundings Unit := ask (.log record)

def survey : Activity Surroundings FileSystem := ask .survey

/-- Tells the remaining observers of an event. One that fails is noted in the log, and the
others hear of the event all the same. -/
def announceTo (event : Event) : List Nat → Activity Surroundings Unit
  | [] => pure ()
  | observer :: rest => do
      let failed ← ask (.tell observer event)
      if failed then log Observer.failureRecord
      announceTo event rest

/-- Tells all observers of an event, in the order they joined. -/
def announce (observers : Nat) (event : Event) : Activity Surroundings Unit :=
  announceTo event (List.range observers)

/-- Tells all observers of several events. -/
def announceAll (observers : Nat) : List Event → Activity Surroundings Unit
  | [] => pure ()
  | event :: rest => do
      announce observers event
      announceAll observers rest

def logAll : List LogRecord → Activity Surroundings Unit
  | [] => pure ()
  | record :: rest => do
      log record
      logAll rest

end Surroundings

end TypedQueries
