import TypedQueries.CommandLine.LogFilter
import TypedQueries.CommandLine.Session
import TypedQueries.FileSystem.Change
import TypedQueries.Syntax.Parse

/-! # The command line

The program as it is run in a terminal. It works on the files of the current directory
whose names it reads from its input, one a line, as `find . -type f` writes them; it keeps
what it knows of them up to date with what it writes. It has no way to a database server
of its own, so every call for one goes unanswered: a run gets as far as its first
connection. Nor does it notice changes: a watch is over after its first run.
-/

namespace TypedQueries

namespace Terminal

/-- What is known while the program runs: the files, which log entries are shown, and when
it began. -/
structure State where
  files : FileSystem
  filter : LogFilter
  start : Nat

abbrev Action (α : Type) : Type := StateT State IO α

def faultOf : IO.Error → SystemFault
  | .noFileOrDirectory _ code _ => .numbered code.toNat
  | .alreadyExists _ code _ => .numbered code.toNat
  | .inappropriateType _ code _ => .numbered code.toNat
  | .invalidArgument _ code _ => .numbered code.toNat
  | .permissionDenied _ code _ => .numbered code.toNat
  | .resourceExhausted _ code _ => .numbered code.toNat
  | .noSuchThing _ code _ => .numbered code.toNat
  | .resourceBusy code _ => .numbered code.toNat
  | .illegalOperation code _ => .numbered code.toNat
  | .unsupportedOperation code _ => .numbered code.toNat
  | .unsatisfiedConstraints code _ => .numbered code.toNat
  | .hardwareFault code _ => .numbered code.toNat
  | .otherError code _ => .numbered code.toNat
  | e => .worded (toString e)

/-- Does something to the real files, and the same to what is known of them. -/
def change {α : Type} (outcome : FileSystem → FileSystem.Outcome α) (action : α → IO Unit) :
    Action (Except SystemFault α) := do
  let state ← get
  match outcome state.files with
  | (.error fault, _) => return .error fault
  | (.ok result, files) =>
      try
        (action result : IO Unit)
        set { state with files := files }
        return .ok result
      catch e => return .error (faultOf e)

def present (record : LogRecord) : Action Unit := do
  if (← get).filter.shows record then IO.print record.line

def createFile (path : Path) : IO Unit := do
  let _ ← IO.FS.Handle.mk path.display .writeNew

/-- The answer of the surroundings. There is one observer, which logs what it hears. -/
def answerSurroundings : (request : Surroundings.Request) → Action (Surroundings.Reply request)
  | .survey => return (← get).files
  | .makeDirectories path =>
      change (fun fs => fs.makeDirectories path) fun _ => IO.FS.createDirAll path.display
  | .makeTemporary directory => change (fun fs => fs.makeTemporary directory) createFile
  | .fill path content =>
      change (fun fs => fs.fill path content) fun _ => IO.FS.writeBinFile path.display content
  | .sync _ => return .ok ()
  | .rename source target =>
      change (fun fs => fs.rename source target) fun _ =>
        IO.FS.rename source.display target.display
  | .discard path => do
      let _ ← change (fun fs => (.ok (), fs.remove path)) fun _ => IO.FS.removeFile path.display
  | .tell _ event => do
      (Observer.logger.log event).forM present
      return Observer.logger.fails event
  | .log record => present record
  | .elapsed => return (← IO.monoMsNow) - (← get).start
  | .workers pieces => return .ok (List.range pieces)

def answerServer : (request : Postgres.Server.Request) → Action (Postgres.Server.Reply request)
  | .account => return (← IO.getEnv "USER").getD "root"
  | .stamp => return (0, ← IO.monoNanosNow)
  | .dial .. => return .error .unreachable
  | .batch .. => return .error .closed
  | .prepare .. => return .error .closed
  | .close _ => return ()

def perform {α : Type} (activity : Activity Postgres.ClientInterface α) : Action α :=
  activity.interpret (Activity.answerSum answerSurroundings answerServer)

/-- Adds the file of a name to those that are known, if it can be read. -/
def addFile (root : Path) (fs : FileSystem) (name : String) : IO FileSystem := do
  let path := root.join (.ofString name)
  try
    return fs.write path (← IO.FS.readBinFile path.display)
  catch _ => return fs

/-- Performs a watch: the only run it comes to, and its end. -/
def watch (root : Path) (settings : Settings) : Action Unit := do
  perform (Session.beginWatch root settings)
  perform (Session.watchedRun root settings 1)

/-- Performs what comes after the arguments have been read. -/
def settle (root : Path) (watching : Bool) (environment : Settings.Environment) :
    Action (Except Trouble Unit) := do
  match ← perform (Session.loadSettings root environment) with
  | .error trouble => return .error trouble
  | .ok settings =>
      if watching then
        watch root settings
        return .ok ()
      else perform (Session.runOnce root settings 1)

/-- The variables of the environment that matter. -/
def knownVariables : List String :=
  ["SQLTYPE_DATABASE_URL", "SQLTYPE_SOURCE_DIR", "SQLTYPE_MIGRATIONS_DIR", "SQLTYPE_OUTPUT_PATH",
   "SQLTYPE_METHOD_NAME", "SQLTYPE_LOG"]

/-- Performs a session, and gives its exit code. -/
def session (watching : Bool) : IO UInt32 := do
  let root := Path.ofString (toString (← IO.currentDir))
  let environment ← knownVariables.mapM fun name => return (name, ← IO.getEnv name)
  let lookup (name : String) : Option String := (environment.lookup name).join
  let names := ((← (← IO.getStdin).readToEnd).splitOn "\n").filter (!·.isEmpty)
  let bare := (FileSystem.makeDirectories { nodes := [], here := [] } root).2
  let files ← (Settings.fileName :: names).foldlM (addFile root) bare
  let state : State := ⟨files, .ofSetting (lookup "SQLTYPE_LOG"), ← IO.monoMsNow⟩
  match (← (settle root watching lookup).run state).1 with
  | .ok () => return 0
  | .error trouble =>
      IO.eprint trouble.text
      return 1

end Terminal

end TypedQueries

def main (arguments : List String) : IO UInt32 := do
  match TypedQueries.Arguments.read arguments with
  | .ok watching => TypedQueries.Terminal.session watching
  | .error stop =>
      if stop.isSuccess then IO.print stop.text else IO.eprint stop.text
      return .ofNat stop.exitCode
