import TypedQueries.Description
import TypedQueries.Migration
import TypedQueries.Surroundings

/-! # Probing a database

A probe is a database that exists for one run: it takes migration scripts, describes
queries without running them, and is disposed of in the end. It is asked one thing at a
time.
-/

namespace TypedQueries

namespace Probe

/-- What can be asked of a probe. -/
inductive Request where
  | connect
  | apply (migration : Migration)
  | describe (sql : String)
  | dispose

abbrev Reply : Request → Type
  | .connect => Except DatabaseFailure Unit
  | .apply _ => Except DatabaseFailure Unit
  | .describe _ => Except DatabaseFailure QueryDescription
  | .dispose => Except DatabaseFailure Unit

end Probe

def Probe : Interface where
  Request := Probe.Request
  Reply := Probe.Reply

abbrev RunInterface : Interface := Surroundings.sum Probe

namespace Probe

def ask (request : Request) : Activity RunInterface (Reply request) :=
  Activity.onRight (Activity.request (I := Probe) request)

/-- The log entry when a script has been applied. -/
def appliedRecord (migration : Migration) : LogRecord :=
  ⟨.debug, "sqltype_analysis::probe", "migration applied", [("migration", .text migration.name)]⟩

/-- Applies the remaining scripts of so many in all; the first failure ends it. -/
def applyFrom (observers total : Nat) :
    Nat → List Migration → Activity RunInterface (Except DatabaseFailure Unit)
  | _, [] => return .ok ()
  | index, migration :: rest => do
      match ← ask (.apply migration) with
      | .error failure => return .error failure
      | .ok () =>
          Activity.onLeft do
            Surroundings.log (appliedRecord migration)
            Surroundings.announce observers (.migrationApplied migration.name index total)
          applyFrom observers total (index + 1) rest

def applyAll (observers : Nat) (migrations : List Migration) :
    Activity RunInterface (Except DatabaseFailure Unit) :=
  applyFrom observers migrations.length 0 migrations

/-- Describes the queries that have no description yet; the first failure ends it. -/
def describeFrom (observers : Nat) :
    QueryDescriptions → List String →
      Activity RunInterface (Except DatabaseFailure QueryDescriptions)
  | descriptions, [] => return .ok descriptions
  | descriptions, sql :: rest =>
      if descriptions.contains sql then describeFrom observers descriptions rest
      else do
        match ← ask (.describe sql) with
        | .error failure => return .error failure
        | .ok description =>
            Activity.onLeft (Surroundings.announce observers
              (.queryDescribed sql description.parameters.length description.columns.length))
            describeFrom observers (descriptions.insert sql description) rest

/-- Describes each query once, in the order in which the texts first occur. -/
def describeAll (observers : Nat) (queries : List String) :
    Activity RunInterface (Except DatabaseFailure QueryDescriptions) :=
  describeFrom observers .empty queries

/-- Applies scripts, then describes queries. -/
def applyAndDescribe (observers : Nat) (migrations : List Migration) (queries : List String) :
    Activity RunInterface (Except DatabaseFailure QueryDescriptions) := do
  match ← applyAll observers migrations with
  | .error failure => return .error failure
  | .ok () => describeAll observers queries

end Probe

end TypedQueries
