import TypedQueries.Generation
import TypedQueries.Postgres.Scratch

/-! # Runs with a database server

A run whose probe is a scratch database on the server that the settings name.
-/

namespace TypedQueries

namespace Postgres

variable [Grammars] [ConnectionStrings]

/-- An activity that may hold a scratch database. -/
abbrev Holding (α : Type) : Type := StateT (Option Scratch) (Activity ClientInterface) α

/-- The answer to a request to the probe. Without a database, every request but the one
to connect fails. -/
def answerProbe (url : String) : (request : Probe.Request) → Holding (Probe.Reply request)
  | .connect => do
      match ← (Scratch.create url : Activity ClientInterface _) with
      | .error failure => return .error failure
      | .ok scratch =>
          set (some scratch)
          return .ok ()
  | .apply migration => do
      match ← get with
      | some scratch => scratch.apply migration.name migration.sql
      | none => return .error (.migrationFailed migration.name ClientFault.closed.message)
  | .describe sql => do
      match ← get with
      | some scratch => scratch.describe sql
      | none => return .error (.describeFailed sql ClientFault.closed.message)
  | .dispose => do
      match ← get with
      | some scratch =>
          set (none : Option Scratch)
          scratch.dispose
      | none => return .error (.notDropped "" ClientFault.closed.message)

def answerSurroundings (request : Surroundings.Request) :
    Holding (Surroundings.Reply request) :=
  (Activity.onLeft (Surroundings.ask request) : Activity ClientInterface _)

/-- A run for the project in a directory, with so many observers, on the server that the
settings name. -/
def generate (root : Path) (settings : Settings) (observers : Nat) :
    Activity ClientInterface (Except Failure Report) :=
  ((TypedQueries.generate root settings observers).interpret
    (Activity.answerSum answerSurroundings (answerProbe settings.databaseUrl))).run' none

end Postgres

end TypedQueries
