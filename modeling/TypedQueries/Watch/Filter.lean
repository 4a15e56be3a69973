import TypedQueries.Settings
import TypedQueries.Source.Discovery

/-! # Which changes count

A changed file calls for another run if it has the extension of a source file or a
migration script, is not the generated module, and does not lie under an excluded name.
-/

namespace TypedQueries

def Path.Component.text? : Path.Component → Option String
  | .root => some "/"
  | .current => some "."
  | .parent => some ".."
  | .normal name => Utf8.text? name

/-- What decides whether a change counts. -/
structure ChangeFilter where
  extensions : List String
  excludes : List String
  output : Path

namespace ChangeFilter

/-- The filter for the project in a directory. -/
def of (root : Path) (settings : Settings) : ChangeFilter where
  extensions := settings.extensions ++ [settings.migrationExtension]
  excludes := settings.excludes
  output := settings.outputPath root

/-- Whether a path is that of the generated module, as it stands or where it leads. -/
def isOutput (filter : ChangeFilter) (fs : FileSystem) (path : Path) : Bool :=
  path.same filter.output ||
    match fs.canonical? path, fs.canonical? filter.output with
    | some a, some b => a.same b
    | _, _ => false

/-- Whether a component of a path is an excluded name. -/
def isExcluded (filter : ChangeFilter) (path : Path) : Bool :=
  path.components.any fun component => component.text?.any filter.excludes.contains

/-- Whether a change of the file at a path counts. -/
def isRelevant (filter : ChangeFilter) (fs : FileSystem) (path : Path) : Bool :=
  path.hasExtension filter.extensions && !filter.isOutput fs path && !filter.isExcluded path

end ChangeFilter

end TypedQueries
