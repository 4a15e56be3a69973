import TypedQueries.Event
import TypedQueries.Failure
import TypedQueries.FileSystem

/-! # Migration scripts

The files of a directory with the extension of migration scripts, in the order of their
names. Directories in it are not looked into.
-/

namespace TypedQueries

/-- A migration script. -/
structure Migration where
  name : String
  path : Path
  sql : String
deriving DecidableEq, Repr

namespace Migration

/-- The name of a script, if a file of a directory is one. -/
def scriptName? (fs : FileSystem) (directory : Path) (extension : String) (name : Name) :
    Option String :=
  let path := directory.child name
  if fs.isFile path && path.extension? = some (Name.ofString extension) then Utf8.text? name
  else none

/-- Whether one script runs no later than another. -/
def nameLE (a b : Name) : Bool := (Path.compareComponents.compareNames a b).isLE

def scriptNames (fs : FileSystem) (directory : Path) (location : Location) (extension : String) :
    List Name :=
  (((fs.children location).map Prod.fst).filter fun name =>
    (scriptName? fs directory extension name).isSome).mergeSort nameLE

def readScript (fs : FileSystem) (directory : Path) (name : Name) :
    Except DatabaseFailure Migration :=
  let path := directory.child name
  match fs.readText path with
  | .ok sql => .ok ⟨Utf8.display name, path, sql⟩
  | .error fault => .error (.migrationUnreadable path fault)

def load (fs : FileSystem) (directory : Path) (extension : String) :
    Except DatabaseFailure (List Migration) :=
  if fs.isDirectory directory then
    match fs.resolve directory with
    | .ok location =>
        match fs.listingFault? location with
        | some fault => .error (.migrationUnreadable directory fault)
        | none => (scriptNames fs directory location extension).mapM (readScript fs directory)
    | .error _ => .error (.migrationsMissing directory)
  else .error (.migrationsMissing directory)

/-- The log entry when the scripts have been read. -/
def loadedRecord (count : Nat) : LogRecord :=
  ⟨.debug, "sqltype_analysis::pipeline::orchestrator", "migrations loaded",
    [("count", .number count)]⟩

end Migration

end TypedQueries
