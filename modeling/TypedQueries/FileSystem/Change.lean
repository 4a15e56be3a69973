import TypedQueries.FileSystem

/-! # Changes of a file system

Making directories and temporary files, filling files, putting one file in the place of
another, removing. A change that fails gives its fault; what it did before that stays.
-/

namespace TypedQueries

namespace FileSystem

/-- What a change comes to: its result or the fault it met, and the file system after
it. -/
abbrev Outcome (α : Type) : Type := Except SystemFault α × FileSystem

/-- Where a path would put something: a directory, a name in it, and whether a separator
follows the name. -/
structure Spot where
  directory : Location
  name : Name
  slashed : Bool
deriving DecidableEq, Repr

namespace Spot

def location (spot : Spot) : Location := spot.directory ++ [spot.name]

end Spot

/-- Where a path would put something. A path that ends in no name meets the fault
`unnamed`. -/
def spot (fs : FileSystem) (unnamed : SystemFault) (path : Path) : Except SystemFault Spot :=
  let names := (Path.split path.bytes).reverse
  let slashed := names.head? == some []
  match names.dropWhile (·.isEmpty) with
  | [] => .error (if path.bytes.isEmpty then .missing else unnamed)
  | name :: before =>
      match fs.resolveNames path (before.reverse ++ [[]]) with
      | .error fault => .error fault
      | .ok directory =>
          if name = [Path.dot] || name = [Path.dot, Path.dot] then .error unnamed
          else if nameLimit < name.length then .error .nameTooLong
          else .ok ⟨directory, name, slashed⟩

def makeDirectory (fs : FileSystem) (path : Path) : Outcome Unit :=
  match fs.spot .occupied path with
  | .error fault => (.error fault, fs)
  | .ok spot =>
      if (fs.node? spot.directory).any Node.isClosed then (.error (fs.refusal spot.directory), fs)
      else if (fs.node? spot.location).isSome then (.error .occupied, fs)
      else (.ok (), fs.put spot.location .directory)

/-- Makes a directory, unless there is one. -/
def ensureDirectory (fs : FileSystem) (path : Path) : Outcome Unit :=
  match fs.makeDirectory path with
  | (.ok (), fs) => (.ok (), fs)
  | (.error fault, fs) => (if fs.isDirectory path then .ok () else .error fault, fs)

/-- A path and the directories it lies in, from the inside out, the root and the empty
path excepted. -/
def ancestry : Nat → Path → List Path
  | 0, _ => []
  | depth + 1, path =>
      match path.parent? with
      | none => []
      | some parent => if path.bytes.isEmpty then [] else path :: ancestry depth parent

/-- Makes the first of nested directories, after those that it lies in as far as they are
missing. -/
def makeAll (fs : FileSystem) : List Path → Outcome Unit
  | [] => (.ok (), fs)
  | path :: outer =>
      match fs.ensureDirectory path with
      | (.error fault, fs) =>
          if fault = .missing then
            match makeAll fs outer with
            | (.ok (), fs) => fs.ensureDirectory path
            | (.error fault, fs) => (.error fault, fs)
          else (.error fault, fs)
      | (.ok (), fs) => (.ok (), fs)

/-- Makes a directory and those it lies in, as far as they are missing. -/
def makeDirectories (fs : FileSystem) (path : Path) : Outcome Unit :=
  fs.makeAll (ancestry path.bytes.length path)

def sixDigits (n : Nat) : List Char :=
  let digits := Nat.toDigits 10 n
  List.replicate (6 - digits.length) '0' ++ digits

/-- What the names of temporary files begin with. -/
def temporaryMark : Name := .ofString ".tmp"

def temporaryName (n : Nat) : Name :=
  temporaryMark ++ (sixDigits n).map fun digit => digit.toNat.toUInt8

/-- A name for a temporary file that nothing in the directory has. -/
def freshName (fs : FileSystem) (directory : Location) : Name :=
  temporaryName
    (((List.range (fs.nodes.length + 1)).find? fun n =>
      (fs.node? (directory ++ [temporaryName n])).isNone).getD 0)

/-- Makes an empty temporary file in a directory, under the name chosen for that. -/
def makeTemporaryNamed (fs : FileSystem) (choose : Location → Name) (directory : Path) :
    Outcome Path :=
  let base := (pathOf fs.here).join directory
  match fs.resolveNames base (Path.split base.bytes ++ [[]]) with
  | .error fault => (.error (fault.concerning (base.child (temporaryName 0))), fs)
  | .ok location =>
      let path := base.child (choose location)
      if pathLimit ≤ path.bytes.length || nameLimit < (choose location).length then
        (.error (SystemFault.nameTooLong.concerning path), fs)
      else if (fs.node? location).any Node.isClosed then
        (.error ((fs.refusal location).concerning path), fs)
      else (.ok path, fs.put (location ++ [choose location]) (.file .empty))

/-- Makes an empty temporary file in a directory. -/
def makeTemporary (fs : FileSystem) (directory : Path) : Outcome Path :=
  fs.makeTemporaryNamed fs.freshName directory

def fill (fs : FileSystem) (path : Path) (content : ByteArray) : Outcome Unit :=
  match fs.resolve path with
  | .error fault => (.error fault, fs)
  | .ok location => (.ok (), fs.put location (.file content))

def rename (fs : FileSystem) (source target : Path) : Outcome Unit :=
  match fs.resolve source, fs.spot .busy target with
  | .error fault, _ => (.error fault, fs)
  | .ok _, .error fault => (.error fault, fs)
  | .ok location, .ok spot =>
      if (fs.node? spot.directory).any Node.isClosed then (.error (fs.refusal spot.directory), fs)
      else if spot.slashed then (.error .notDirectory, fs)
      else if (fs.node? spot.location).any Node.isDirectory then (.error .isDirectory, fs)
      else
        match fs.node? location with
        | some node => (.ok (), (fs.erase location).put spot.location node)
        | none => (.error .missing, fs)

/-- Removes what a path names, with all that is in it. A link is removed, not what it
leads to. -/
def remove (fs : FileSystem) (path : Path) : FileSystem :=
  match fs.spot .busy path with
  | .error _ => fs
  | .ok spot => fs.erase spot.location

def makeLink (fs : FileSystem) (path target : Path) : FileSystem :=
  match fs.spot .occupied path with
  | .error _ => fs
  | .ok spot => fs.put spot.location (.link target)

/-- Writes a file, through links, and makes the directories it lies in. -/
def write (fs : FileSystem) (path : Path) (content : ByteArray) : FileSystem :=
  let fs := (fs.makeDirectories (path.parent?.getD ⟨[]⟩)).2
  match fs.resolve path with
  | .ok location => fs.put location (.file content)
  | .error _ =>
      match fs.spot .isDirectory path with
      | .ok spot => fs.put spot.location (.file content)
      | .error _ => fs

end FileSystem

end TypedQueries
