import TypedQueries.Text.Utf8

/-! # File paths

A path is a sequence of bytes in which `/` separates names. Its components leave out
empty names and the name `.` except at the start of a relative path; paths compare
by components. Joining an absolute path gives that path.
-/

namespace TypedQueries

/-- The name of a file: bytes, which need not be text. -/
abbrev Name : Type := List UInt8

def Name.ofString (s : String) : Name := s.toUTF8.toList

/-- A file path. -/
structure Path where
  bytes : List UInt8
deriving DecidableEq, Repr, Inhabited

namespace Path

def slash : UInt8 := 0x2f

def dot : UInt8 := 0x2e

def ofString (s : String) : Path := ⟨s.toUTF8.toList⟩

def display (p : Path) : String := Utf8.display p.bytes

/-- The parts of a path. -/
inductive Component where
  | root
  | current
  | parent
  | normal (name : Name)
deriving DecidableEq, Repr

/-- The stretches between separators, of which there is one more than of those. -/
def split : List UInt8 → List Name
  | [] => [[]]
  | b :: rest =>
      if b = slash then [] :: split rest
      else
        match split rest with
        | [] => [[b]]
        | name :: names => (b :: name) :: names

def component? (name : Name) : Option Component :=
  if name = [] || name = [dot] then none
  else if name = [dot, dot] then some .parent
  else some (.normal name)

def isAbsolute (p : Path) : Bool := p.bytes.head? == some slash

def components (p : Path) : List Component :=
  let parts := split p.bytes
  let before : List Component :=
    if p.isAbsolute then [.root]
    else if parts.head? == some [dot] then [.current]
    else []
  before ++ parts.filterMap component?

/-- Whether two paths have the same components. -/
def same (p q : Path) : Bool := p.components == q.components

def join (p q : Path) : Path :=
  if q.isAbsolute || p.bytes.isEmpty then q
  else if p.bytes.getLast? == some slash then ⟨p.bytes ++ q.bytes⟩
  else ⟨p.bytes ++ slash :: q.bytes⟩

def child (p : Path) (name : Name) : Path := p.join ⟨name⟩

/-- The path of names with separators between them. -/
def ofNames : List Name → Path
  | [] => ⟨[]⟩
  | [name] => ⟨name⟩
  | name :: rest => ⟨name ++ slash :: (ofNames rest).bytes⟩

/-- Names without those at the end that say nothing. -/
def trimNames (names : List Name) : List Name :=
  (names.reverse.dropWhile fun name => name = [] || name = [dot]).reverse

/-- The directory a path lies in. The root has none; a single name lies in the empty
path. -/
def parent? (p : Path) : Option Path :=
  match split p.bytes with
  | [] => none
  | first :: rest =>
      match trimNames rest with
      | [] => if first = [] then none else some ⟨[]⟩
      | names =>
          match trimNames names.dropLast with
          | [] => some (if first = [] then ⟨[slash]⟩ else ⟨first⟩)
          | names => some (ofNames (first :: names))

def fileName? (p : Path) : Option Name :=
  match p.components.getLast? with
  | some (.normal name) => some name
  | _ => none

/-- A name up to and after its last dot, if there is one. -/
def splitAtDot : Name → Option (Name × Name)
  | [] => none
  | b :: rest =>
      match splitAtDot rest with
      | some (stem, after) => some (b :: stem, after)
      | none => if b = dot then some ([], rest) else none

/-- The extension of a name: what follows its last dot, unless the dot is its first
byte. -/
def extensionOf? (name : Name) : Option Name :=
  if name = [dot, dot] then none
  else
    match splitAtDot name with
    | some (_ :: _, extension) => some extension
    | _ => none

def extension? (p : Path) : Option Name := p.fileName?.bind extensionOf?

/-- The order of components: the root, the current directory, the parent, then names by
their bytes. -/
def compareComponents : Component → Component → Ordering
  | .root, .root => .eq
  | .root, _ => .lt
  | .current, .root => .gt
  | .current, .current => .eq
  | .current, _ => .lt
  | .parent, .root => .gt
  | .parent, .current => .gt
  | .parent, .parent => .eq
  | .parent, .normal _ => .lt
  | .normal a, .normal b => compareNames a b
  | .normal _, _ => .gt
where
  compareNames : Name → Name → Ordering
    | [], [] => .eq
    | [], _ :: _ => .lt
    | _ :: _, [] => .gt
    | a :: as, b :: bs => (compare a b).then (compareNames as bs)

/-- The order of paths: by components from the left. -/
def compare (p q : Path) : Ordering :=
  compareAll p.components q.components
where
  /-- The order of sequences of components. -/
  compareAll : List Component → List Component → Ordering
    | [], [] => .eq
    | [], _ :: _ => .lt
    | _ :: _, [] => .gt
    | a :: as, b :: bs => (compareComponents a b).then (compareAll as bs)

/-- Whether one path comes no later than another. -/
def le (p q : Path) : Bool := (p.compare q).isLE

end Path

end TypedQueries
