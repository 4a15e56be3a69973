import TypedQueries.Failure
import TypedQueries.FileSystem

/-! # Finding source files

The files below a directory that have one of the extensions looked for. Directories of
certain names are passed over with all that is in them, and links are neither followed
nor found.
-/

namespace TypedQueries

def Path.hasExtension (p : Path) (extensions : List String) : Bool :=
  match p.extension? with
  | some extension => extensions.any fun wanted => Name.ofString wanted = extension
  | none => false

/-- What is looked for: extensions, the names of directories to pass over, and files that
do not count. -/
structure Discovery where
  extensions : List String
  excludes : List String
  skip : List Path

namespace Discovery

/-- Whether a directory of that name is passed over. -/
def excludesName (discovery : Discovery) (name : Name) : Bool :=
  discovery.excludes.contains (Utf8.display name)

/-- A path in its canonical form, if it has one. -/
def normalized (fs : FileSystem) (path : Path) : Path := (fs.canonical? path).getD path

/-- Whether a path leads to one of the files that do not count. -/
def skips (discovery : Discovery) (fs : FileSystem) (path : Path) : Bool :=
  discovery.skip.any fun skipped => (normalized fs skipped).same (normalized fs path)

/-- The file at the end of names below a directory, if it may be found. -/
def reach? (discovery : Discovery) (root : Path) (entry : Location × Node) : Option Path :=
  if entry.2.isFile && !entry.1.dropLast.any discovery.excludesName then
    some (entry.1.foldl Path.child root)
  else none

/-- The directory at the end of names below a directory, with what is met when it is listed, if it
is looked into and cannot be listed. -/
def obstacle? (discovery : Discovery) (root : Path) (entry : Location × Node) :
    Option (Path × SystemFault) :=
  if entry.1.any discovery.excludesName then none
  else entry.2.listingFault?.map fun fault => (entry.1.foldl Path.child root, fault)

/-- The directories that are looked into and cannot be listed, in the order of their paths. -/
def obstacles (discovery : Discovery) (fs : FileSystem) (root : Path) (location : Location) :
    List (Path × SystemFault) :=
  let entered := ((fs.node? location).map ([], ·)).toList ++ fs.below location
  (entered.filterMap (discovery.obstacle? root)).mergeSort fun obstacle other =>
    obstacle.1.le other.1

/-- The failure of a search that cannot list a directory. -/
def failure (root : Path) (obstacle : Path × SystemFault) : SourceFailure :=
  .walkFailed root (obstacle.1.display ++ ": IO error for operation on " ++ obstacle.1.display ++
    ": " ++ obstacle.2.message)

/-- The files found below a directory, in the order of their paths. -/
def find (discovery : Discovery) (fs : FileSystem) (root : Path) :
    Except SourceFailure (List Path) :=
  if fs.isDirectory root then
    match fs.resolve root with
    | .ok location =>
        match discovery.obstacles fs root location with
        | obstacle :: _ => .error (failure root obstacle)
        | [] =>
            let reached := (fs.below location).filterMap (discovery.reach? root)
            let found := reached.filter fun path =>
              path.hasExtension discovery.extensions && !discovery.skips fs path
            .ok (found.mergeSort Path.le)
    | .error _ => .error (.rootMissing root)
  else .error (.rootMissing root)

end Discovery

end TypedQueries
