import TypedQueries.FileSystem
import TypedQueries.Settings.Document

/-! # Loading settings

The settings of a project: those of the environment, over those of the project's file,
over the defaults. The file may be missing.
-/

namespace TypedQueries

namespace Settings

variable [Toml.Reader]

def fileName : String := "sqltype.toml"

def readFile (fs : FileSystem) (path : Path) : Except SettingsFailure Settings :=
  match fs.readText path with
  | .error _ => .error (.fileUnreadable path.display)
  | .ok text =>
      match parse? text with
      | some settings => .ok settings
      | none => .error (.malformed path.display "not a settings document")

/-- The settings that the project's file gives. -/
def ofProject (fs : FileSystem) (root : Path) : Except SettingsFailure Settings :=
  let path := root.join (.ofString fileName)
  if fs.pathExists path then readFile fs path else .ok {}

/-- The settings, unless something is wrong with them. -/
def checked (settings : Settings) : Except SettingsFailure Settings :=
  match settings.fault? with
  | some failure => .error failure
  | none => .ok settings

/-- The settings of the project in a directory. -/
def load (fs : FileSystem) (environment : Environment) (root : Path) :
    Except SettingsFailure Settings :=
  (ofProject fs root).bind fun settings => ((ofEnvironment environment).overriding settings).checked

end Settings

end TypedQueries
