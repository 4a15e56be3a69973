import TypedQueries.Module.Output
import TypedQueries.Module.Synthesis
import TypedQueries.Probe
import TypedQueries.Source.Scan

/-! # A run

The order of a run is fixed: the migration scripts are read; a probe is connected and the
scripts are applied to it; the sources are scanned; every query text is described; the
module is made and written; the probe is disposed of, whatever happened since it was
connected. Nothing is written before everything else has succeeded.
-/

namespace TypedQueries

/-- What a run amounts to. -/
structure Report where
  fileCount : Nat
  callCount : Nat
  queryCount : Nat
  diagnostics : List Diagnostic
  outputPath : Path
deriving DecidableEq, Repr

variable [Grammars]

namespace Generation

/-- The log entry when the probe could not be disposed of. -/
def leftoverRecord (failure : DatabaseFailure) : LogRecord :=
  ⟨.warn, "sqltype_analysis::pipeline::orchestrator", "failed to dispose scratch database",
    [("error", .text failure.message)]⟩

/-- Makes and writes the module of what has been scanned and described. -/
def conclude (root : Path) (settings : Settings) (observers : Nat) (scan : SourceScan)
    (descriptions : QueryDescriptions) :
    Activity Surroundings (Except Failure (Report × Nat)) := do
  let synthesis := synthesize descriptions .builtin settings.moduleOptions
  Surroundings.announceAll observers (synthesis.diagnostics.map .diagnostic)
  match ← Output.write (settings.outputPath root) synthesis.module with
  | .error failure => return .error (.output failure)
  | .ok () =>
      return .ok (
        { fileCount := scan.fileCount
          callCount := scan.callCount
          queryCount := descriptions.size
          diagnostics := scan.diagnostics ++ synthesis.diagnostics
          outputPath := settings.outputPath root },
        synthesis.module.utf8ByteSize)

/-- What is done while the probe is connected. The result comes with the number of bytes
written. -/
def withProbe (root : Path) (settings : Settings) (observers : Nat)
    (migrations : List Migration) : Activity RunInterface (Except Failure (Report × Nat)) := do
  match ← Probe.applyAll observers migrations with
  | .error failure => return .error (.database failure)
  | .ok () =>
      match ← Activity.onLeft (Source.scan settings (settings.sourcePath root)
          [settings.outputPath root] observers) with
      | .error failure => return .error failure
      | .ok scan =>
          Activity.onLeft
            (Surroundings.announceAll observers (scan.diagnostics.map .diagnostic))
          match ← Probe.describeAll observers scan.texts with
          | .error failure => return .error (.database failure)
          | .ok descriptions =>
              Activity.onLeft (conclude root settings observers scan descriptions)

/-- What is done between the first event and the last one. -/
def run (root : Path) (settings : Settings) (observers : Nat) :
    Activity RunInterface (Except Failure (Report × Nat)) := do
  let fs ← Activity.onLeft Surroundings.survey
  match Migration.load fs (settings.migrationsPath root) settings.migrationExtension with
  | .error failure => return .error (.database failure)
  | .ok migrations =>
      Activity.onLeft (Surroundings.log (Migration.loadedRecord migrations.length))
      match ← Probe.ask .connect with
      | .error failure => return .error (.database failure)
      | .ok () =>
          let outcome ← withProbe root settings observers migrations
          let disposed ← Probe.ask .dispose
          match outcome, disposed with
          | .ok result, .error failure =>
              Activity.onLeft (Surroundings.log (leftoverRecord failure))
              return .ok result
          | outcome, _ => return outcome

def announceEnd (observers : Nat) :
    Except Failure (Report × Nat) → Activity Surroundings (Except Failure Report)
  | .ok (report, bytes) => do
      let duration ← Surroundings.ask .elapsed
      Surroundings.announce observers
        (.outputWritten report.outputPath report.queryCount bytes duration)
      return .ok report
  | .error failure => do
      Surroundings.announce observers (.failed failure.code failure.message)
      return .error failure

end Generation

/-- A run for the project in a directory, with so many observers. -/
def generate (root : Path) (settings : Settings) (observers : Nat) :
    Activity RunInterface (Except Failure Report) := do
  Activity.onLeft (Surroundings.announce observers
    (.started (settings.sourcePath root) (settings.migrationsPath root) (settings.outputPath root)))
  let outcome ← Generation.run root settings observers
  Activity.onLeft (Generation.announceEnd observers outcome)

end TypedQueries
