import TypedQueries.Path
import TypedQueries.SystemFault

/-! # File systems

A file system says what there is at every location, a location being the names on the way
from the root. Paths lead to locations through directories and links; what one finds on
the way decides which fault a wrong path meets.
-/

namespace TypedQueries

abbrev Location : Type := List Name

/-- What there can be at a location. The content of an unreadable file cannot be read. A closed
directory keeps its contents from being seen and lets nothing be made in it, and so does a broken
one, which cannot be listed either. -/
inductive Node where
  | file (content : ByteArray)
  | unreadable (size : Nat) (fault : SystemFault)
  | directory
  | closed
  | broken (fault : SystemFault)
  | link (target : Path)

namespace Node

def isFile : Node → Bool
  | file _ | unreadable .. => true
  | _ => false

def isDirectory : Node → Bool
  | directory | closed | broken _ => true
  | _ => false

/-- What is met when something is looked for or made in a directory that does not let this be
done. -/
def refusal? : Node → Option SystemFault
  | closed => some .missing
  | broken fault => some fault
  | _ => none

def isClosed (node : Node) : Bool := node.refusal?.isSome

/-- What is met when a directory is listed that cannot be. -/
def listingFault? : Node → Option SystemFault
  | broken fault => some fault
  | _ => none

end Node

/-- What there is at every location, and where relative paths begin. There is always a
directory at the root. -/
structure FileSystem where
  nodes : List (Location × Node)
  here : Location := []

namespace FileSystem

def node? (fs : FileSystem) : Location → Option Node
  | [] => some .directory
  | location => fs.nodes.lookup location

/-- How many links a path may lead through. -/
def linkLimit : Nat := 40

def nameLimit : Nat := 255

/-- The number of bytes a path must not have. -/
def pathLimit : Nat := 4096

/-- Where names lead from a location. A link leads on as `follow` says: from where, and
along which names. -/
def walk (fs : FileSystem)
    (follow : Location → List Name → Except SystemFault Location) (place : Location) :
    List Name → Except SystemFault Location
  | [] => .ok place
  | name :: rest =>
      match fs.node? place with
      | none => .error .missing
      | some .directory =>
          if name = [] || name = [Path.dot] then walk fs follow place rest
          else if name = [Path.dot, Path.dot] then walk fs follow place.dropLast rest
          else if nameLimit < name.length then .error .nameTooLong
          else
            match fs.node? (place ++ [name]) with
            | none => .error .missing
            | some (.link target) =>
                follow (if target.isAbsolute then [] else place) (Path.split target.bytes ++ rest)
            | some _ => walk fs follow (place ++ [name]) rest
      | some node =>
          match node.refusal? with
          | none => .error .notDirectory
          | some fault =>
              if name = [] || name = [Path.dot] then walk fs follow place rest
              else if name = [Path.dot, Path.dot] then walk fs follow place.dropLast rest
              else .error fault

/-- Where names lead from a location through at most so many links. -/
def follow (fs : FileSystem) : Nat → Location → List Name → Except SystemFault Location
  | 0 => walk fs fun _ _ => .error .tooManyLinks
  | links + 1 => walk fs (follow fs links)

/-- Where names lead from the beginning of a path. -/
def resolveNames (fs : FileSystem) (path : Path) (names : List Name) :
    Except SystemFault Location :=
  if path.bytes.isEmpty then .error .missing
  else if pathLimit ≤ path.bytes.length then .error .nameTooLong
  else fs.follow linkLimit (if path.isAbsolute then [] else fs.here) names

def resolve (fs : FileSystem) (path : Path) : Except SystemFault Location :=
  fs.resolveNames path (Path.split path.bytes)

def at? (fs : FileSystem) (path : Path) : Except SystemFault Node :=
  (fs.resolve path).bind fun location =>
    match fs.node? location with
    | some node => .ok node
    | none => .error .missing

def pathExists (fs : FileSystem) (path : Path) : Bool := (fs.at? path).toBool

def isDirectory (fs : FileSystem) (path : Path) : Bool :=
  match fs.at? path with
  | .ok node => node.isDirectory
  | .error _ => false

def isFile (fs : FileSystem) (path : Path) : Bool :=
  match fs.at? path with
  | .ok node => node.isFile
  | .error _ => false

/-- The number of bytes of what a path leads to. -/
def size (fs : FileSystem) (path : Path) : Except SystemFault Nat :=
  (fs.at? path).map fun
    | .file content => content.size
    | .unreadable size _ => size
    | _ => 4096

/-- The content of the file a path leads to. -/
def read (fs : FileSystem) (path : Path) : Except SystemFault ByteArray :=
  (fs.at? path).bind fun
    | .file content => .ok content
    | .unreadable _ fault => .error fault
    | _ => .error .isDirectory

/-- The text of the file a path leads to. -/
def readText (fs : FileSystem) (path : Path) : Except SystemFault String :=
  (fs.read path).bind fun content =>
    match String.fromUTF8? content with
    | some text => .ok text
    | none => .error .notText

def pathOf (location : Location) : Path :=
  match location with
  | [] => ⟨[Path.slash]⟩
  | names => .ofNames ([] :: names)

/-- The one absolute path without links that leads where a path leads. -/
def canonical? (fs : FileSystem) (path : Path) : Option Path :=
  (fs.resolve path).toOption.map pathOf

/-- What lies below a location, however deep: the names on the way from there. -/
def below (fs : FileSystem) (location : Location) : List (Location × Node) :=
  fs.nodes.filterMap fun entry =>
    if location.isPrefixOf entry.1 && location.length < entry.1.length then
      some (entry.1.drop location.length, entry.2)
    else none

/-- What is met when the directory at a location is listed, if it cannot be. -/
def listingFault? (fs : FileSystem) (location : Location) : Option SystemFault :=
  (fs.node? location).bind Node.listingFault?

/-- What is met when something is made in the directory at a location that lets nothing be made in
it. -/
def refusal (fs : FileSystem) (location : Location) : SystemFault :=
  ((fs.node? location).bind Node.refusal?).getD .missing

/-- What lies in the directory at a location. -/
def children (fs : FileSystem) (location : Location) : List (Name × Node) :=
  (fs.below location).filterMap fun
    | ([name], node) => some (name, node)
    | _ => none

/-- With the given node at a location, in place of what was there. -/
def put (fs : FileSystem) (location : Location) (node : Node) : FileSystem :=
  { fs with nodes := (location, node) :: fs.nodes.filter (·.1 ≠ location) }

/-- Without what is at a location and below it. -/
def erase (fs : FileSystem) (location : Location) : FileSystem :=
  { fs with nodes := fs.nodes.filter fun entry => !location.isPrefixOf entry.1 }

end FileSystem

end TypedQueries
