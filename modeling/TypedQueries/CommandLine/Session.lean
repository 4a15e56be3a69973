import TypedQueries.CommandLine.Arguments
import TypedQueries.Postgres.Generation
import TypedQueries.Settings.Load
import TypedQueries.Watch.Loop

/-! # The program

A session of the program: the settings are loaded, then there is one run, or one after
every change that counts. What ends it badly is shown with all its causes.
-/

namespace TypedQueries

/-- What ends a session badly: in what it failed, and the causes, outermost first. -/
structure Trouble where
  context : String
  causes : List String
deriving DecidableEq, Repr

namespace Trouble

/-- Text with a first line that begins so, and further lines that are moved in. -/
def indented (start margin : String) (text : String) : String :=
  start ++ String.intercalate ("\n" ++ margin) (text.splitOn "\n")

def numbered : Nat → List String → String
  | _, [] => ""
  | n, cause :: rest =>
      let blank := String.ofList (List.replicate (5 - (toString n).length) ' ')
      let start := blank ++ toString n ++ ": "
      "\n" ++ indented start "       " cause ++ numbered (n + 1) rest

/-- The lines of causes; a single one has no number. -/
def causeLines : List String → String
  | [] => ""
  | [cause] => "\n\nCaused by:\n" ++ indented "    " "    " cause
  | causes => "\n\nCaused by:" ++ numbered 0 causes

def text (trouble : Trouble) : String :=
  "Error: " ++ trouble.context ++ causeLines trouble.causes ++ "\n"

def inline (trouble : Trouble) : String :=
  String.intercalate ": " (trouble.context :: trouble.causes)

def ofRun (failure : Failure) : Trouble := ⟨"generation failed", failure.chain⟩

/-- The trouble when the settings cannot be used. -/
def ofSettings (failure : SettingsFailure) : Trouble :=
  ⟨"could not load configuration", [failure.message]⟩

end Trouble

namespace Session

open Postgres (ClientInterface)

variable [Grammars] [Postgres.ConnectionStrings]

/-- The log entry when a run has succeeded. -/
def doneRecord (report : Report) : LogRecord :=
  ⟨.info, "sqltype_cli", "done",
    [("files", .number report.fileCount), ("calls", .number report.callCount),
      ("queries", .number report.queryCount), ("diagnostics", .number report.diagnostics.length)]⟩

/-- One run; success is noted in the log. -/
def runOnce (root : Path) (settings : Settings) (observers : Nat) :
    Activity ClientInterface (Except Trouble Unit) := do
  match ← Postgres.generate root settings observers with
  | .ok report =>
      Postgres.log (doneRecord report)
      return .ok ()
  | .error failure => return .error (.ofRun failure)

/-- The log entry for a directory that is to be watched. -/
def watchRecord (fs : FileSystem) (directory : Path) : LogRecord :=
  let fields := [("dir", FieldValue.text directory.display)]
  if fs.isDirectory directory then ⟨.info, WatchLoop.logTarget, "watching", fields⟩
  else ⟨.warn, WatchLoop.logTarget, "not watching missing directory", fields⟩

/-- What is noted before the first run of a watch. -/
def beginWatch (root : Path) (settings : Settings) : Activity ClientInterface Unit :=
  Activity.onLeft do
    let fs ← Surroundings.survey
    Surroundings.logAll
      ([settings.sourcePath root, settings.migrationsPath root].map (watchRecord fs))

/-- One run of a watch; failure is noted in the log as well. -/
def watchedRun (root : Path) (settings : Settings) (observers : Nat) :
    Activity ClientInterface Unit := do
  match ← runOnce root settings observers with
  | .ok () => return ()
  | .error trouble => Postgres.log ⟨.error, WatchLoop.logTarget, trouble.inline, []⟩

/-- The settings of the project in a directory. -/
def loadSettings [Toml.Reader] (root : Path) (environment : Settings.Environment) :
    Activity ClientInterface (Except Trouble Settings) := do
  let fs ← Activity.onLeft Surroundings.survey
  match Settings.load fs environment root with
  | .ok settings => return .ok settings
  | .error failure => return .error (.ofSettings failure)

end Session

end TypedQueries
