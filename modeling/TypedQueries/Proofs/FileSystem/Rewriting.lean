import TypedQueries.Proofs.FileSystem.FreshName
import TypedQueries.Proofs.FileSystem.Landing

/-! # Writing a file again

A directory that has been made is there and need not be made again (`makeDirectories_again`). Where
a temporary file could be made there is room for another, whose name is as long
(`hasRoom_of_makeTemporaryNamed`), under any name that is free (`HasRoom.exists_hasTemporary`), and
it can be put where there is no directory (`HasTemporary.rename_eq`).
-/

namespace TypedQueries

namespace FileSystem

variable {fs gs grown : FileSystem} {path : Path} {location : Location}

section Directories

/-- Names that say nothing lead no further from a directory. -/
theorem Leads.of_silent {links : Nat} {names : List Name} (directory : fs.DirectoryAt location)
    (silent : ∀ name ∈ names, name = []) : fs.Leads links location names location := by
  induction names with
  | nil => exact .here
  | cons name names ih =>
      obtain ⟨first, rest⟩ := List.forall_mem_cons.mp silent
      exact .stay directory (.inl first) (ih rest)

/-- A directory that is made is where its path leads then, and nothing was there before. -/
theorem exists_of_makeDirectory (made : fs.makeDirectory path = (.ok (), gs)) :
    ∃ location, location ≠ [] ∧ gs = fs.put location .directory ∧
      fs.node? location = none ∧ gs.resolve path = .ok location := by
  have grows := growsTo_makeDirectory fs path
  rw [made] at grows
  rw [makeDirectory] at made
  cases found : fs.spot .occupied path with
  | error fault => simp [found] at made
  | ok spot =>
      simp only [found] at made
      split at made
      · cases made
      next unclosed =>
      split at made
      · cases made
      next absent =>
      cases made
      obtain ⟨entry, before, after, parts, -, silent, resolved⟩ := exists_of_spot found
      have inside : spot.location ≠ [] := by simp [Spot.location]
      have opened := (directoryAt_of_spot found).eq_directory unclosed
      have kept := resolveNames_of_retains grows.retains resolved fun file =>
        absurd file (directoryAt_of_spot found).not_fileAt
      have present : (fs.put spot.location .directory).node? spot.location = some .directory :=
        node?_put_self inside
      obtain ⟨nonempty, short, leads⟩ := resolveNames_eq_ok_iff.mp kept
      obtain ⟨left, goesOn⟩ := leads.append
      refine ⟨spot.location, inside, rfl, Option.not_isSome_iff_eq_none.mp absent, ?_⟩
      rw [resolve, parts, resolveNames_eq_ok_iff]
      exact ⟨nonempty, short, goesOn _ _ (.enter (grows.kept opened) entry present
        (fun _ => Node.noConfusion) (.of_silent (.of_directory present) silent))⟩

theorem isDirectory_of_makeDirectory (made : fs.makeDirectory path = (.ok (), gs)) :
    gs.isDirectory path := by
  obtain ⟨location, inside, rfl, -, resolved⟩ := exists_of_makeDirectory made
  exact isDirectory_iff.mpr ⟨location, resolved, .of_directory (node?_put_self inside)⟩

/-- A directory that is there cannot be made. -/
theorem exists_fault_of_isDirectory (isDirectory : fs.isDirectory path) :
    ∃ fault, fs.makeDirectory path = (.error fault, fs) := by
  rw [makeDirectory]
  cases found : fs.spot .occupied path with
  | error fault => exact ⟨fault, rfl⟩
  | ok spot =>
      obtain ⟨around, name, slashed⟩ := spot
      obtain ⟨entry, before, after, parts, -, -, resolved⟩ := exists_of_spot found
      obtain ⟨location, leadsTo, -⟩ := isDirectory_iff.mp isDirectory
      have present : (fs.node? (Spot.location ⟨around, name, slashed⟩)).isSome := by
        rw [resolve, parts, resolveNames_eq_ok_iff] at leadsTo
        obtain ⟨left, between, onward, goesOn⟩ := leadsTo.2.2.exists_of_append
        have ends := goesOn _ _ (.stay onward.directoryAt_of_cons (.inl rfl) .here)
        obtain rfl := ends.unique (resolveNames_eq_ok_iff.mp resolved).2.2
        cases onward with
        | stay directory silent =>
            rcases silent with silent | silent
            · exact absurd silent entry.nonempty
            · exact absurd silent entry.not_dot
        | up directory => exact absurd rfl entry.not_dotDot
        | enter directory entry present | through directory entry present =>
            rw [Spot.location, present]
            rfl
      simp only [if_pos present]
      split <;> exact ⟨_, rfl⟩

theorem ensureDirectory_of_isDirectory (isDirectory : fs.isDirectory path) :
    fs.ensureDirectory path = (.ok (), fs) := by
  obtain ⟨fault, refused⟩ := exists_fault_of_isDirectory isDirectory
  rw [ensureDirectory, refused]
  simp [isDirectory]

theorem isDirectory_of_ensureDirectory (made : fs.ensureDirectory path = (.ok (), gs)) :
    gs.isDirectory path := by
  rw [ensureDirectory] at made
  split at made
  · next fs' first =>
    cases made
    exact isDirectory_of_makeDirectory first
  · next fault fs' refused =>
    split at made
    · cases made
      assumption
    · cases made

theorem isDirectory_of_makeAll {outer : List Path}
    (made : fs.makeAll (path :: outer) = (.ok (), gs)) : gs.isDirectory path := by
  rw [makeAll] at made
  split at made
  · split at made
    · split at made
      · exact isDirectory_of_ensureDirectory made
      · cases made
    · cases made
  · next first =>
    cases made
    exact isDirectory_of_ensureDirectory first

theorem eq_of_ancestry_eq_cons {depth : Nat} {first : Path} {outer : List Path}
    (directories : ancestry depth path = first :: outer) : first = path := by
  cases depth with
  | zero => cases directories
  | succ depth =>
      rw [ancestry] at directories
      split at directories
      · cases directories
      · split at directories
        · cases directories
        · exact (List.cons.inj directories).1.symm

/-- A directory that is there need not be made. -/
theorem makeDirectories_of_isDirectory (isDirectory : fs.isDirectory path) :
    fs.makeDirectories path = (.ok (), fs) := by
  rw [makeDirectories]
  cases directories : ancestry path.bytes.length path with
  | nil => rfl
  | cons first outer =>
      rw [makeAll, eq_of_ancestry_eq_cons directories, ensureDirectory_of_isDirectory isDirectory]

/-- A directory that has been made is not made again. -/
theorem makeDirectories_again (made : fs.makeDirectories path = (.ok (), grown))
    (retains : grown.Retains gs) : gs.makeDirectories path = (.ok (), gs) := by
  cases directories : ancestry path.bytes.length path with
  | nil => rw [makeDirectories, directories, makeAll]
  | cons first outer =>
      rw [makeDirectories, directories] at made
      obtain ⟨location, resolved, directory⟩ := isDirectory_iff.mp (isDirectory_of_makeAll made)
      rw [eq_of_ancestry_eq_cons directories] at resolved
      refine makeDirectories_of_isDirectory (isDirectory_iff.mpr ⟨location, ?_,
        retains.directoryAt directory⟩)
      exact resolveNames_of_retains retains resolved fun file => absurd file directory.not_fileAt

end Directories

section Temporary

variable {directory temporary target : Path} {name other : Name} {choose : Location → Name}
  {content : ByteArray}

/-- The path of a directory as temporary files are made in it. -/
def temporaryBase (fs : FileSystem) (directory : Path) : Path := (pathOf fs.here).join directory

/-- The number of bytes of the names of temporary files. -/
def temporaryLength : Nat := 10

/-- That a temporary file can have a name in the directory that a path leads to. -/
structure Offers (fs : FileSystem) (directory : Path) (name : Name) : Prop where
  isTemporary : name.IsTemporary
  length : name.length = temporaryLength
  free : ∀ location,
    fs.resolveNames (fs.temporaryBase directory)
        (Path.split (fs.temporaryBase directory).bytes ++ [[]]) = .ok location →
      fs.node? (location ++ [name]) = none

/-- That temporary files can be made in the directory at a location by way of a path. -/
structure HasRoom (fs : FileSystem) (directory : Path) (location : Location) : Prop where
  resolved : fs.resolveNames (fs.temporaryBase directory)
    (Path.split (fs.temporaryBase directory).bytes ++ [[]]) = .ok location
  opened : fs.node? location = some .directory
  short : ∀ name : Name, name.IsProper → name.length = temporaryLength →
    ((fs.temporaryBase directory).child name).bytes.length < pathLimit

theorem length_child_eq {base : Path} (proper : name.IsProper) (properToo : other.IsProper)
    (same : name.length = other.length) :
    (base.child name).bytes.length = (base.child other).bytes.length := by
  rw [Path.child, Path.child, Path.join, Path.join, Path.isAbsolute_of_isProper proper,
    Path.isAbsolute_of_isProper properToo]
  split
  · exact same
  · split <;> simp [same]

/-- Where there is room for one temporary file there is room for all, whose names are as long. -/
theorem hasRoom_of_short
    (resolved : fs.resolveNames (fs.temporaryBase directory)
      (Path.split (fs.temporaryBase directory).bytes ++ [[]]) = .ok location)
    (opened : fs.node? location = some .directory) (proper : name.IsProper)
    (length : name.length = temporaryLength)
    (short : ((fs.temporaryBase directory).child name).bytes.length < pathLimit) :
    fs.HasRoom directory location where
  resolved := resolved
  opened := opened
  short other isProper isLong := by
    rwa [length_child_eq isProper proper (isLong.trans length.symm)]

/-- Where there is room, a name is offered that nothing has. -/
theorem HasRoom.offers (room : fs.HasRoom directory location) (isTemporary : name.IsTemporary)
    (length : name.length = temporaryLength) (absent : fs.node? (location ++ [name]) = none) :
    fs.Offers directory name where
  isTemporary := isTemporary
  length := length
  free other resolved := by
    obtain rfl := Except.ok.inj (room.resolved.symm.trans resolved)
    exact absent

/-- Where a temporary file has been made there is room for such files. -/
theorem hasRoom_of_makeTemporaryNamed (proper : ∀ location, (choose location).IsProper)
    (length : ∀ location, (choose location).length = temporaryLength)
    (made : fs.makeTemporaryNamed choose directory = (.ok temporary, gs)) :
    ∃ location, fs.HasRoom directory location := by
  simp only [makeTemporaryNamed] at made
  split at made
  · cases made
  next location resolved =>
  split at made
  · cases made
  next long =>
  split at made
  · cases made
  next unclosed =>
  obtain ⟨short, -⟩ := by simpa using long
  have opened := (resolveNames_eq_ok_iff.mp resolved).2.2.directoryAt.eq_directory unclosed
  exact ⟨location, hasRoom_of_short resolved opened (proper location) (length location) short⟩

theorem HasRoom.of_retains (room : fs.HasRoom directory location) (retains : fs.Retains gs) :
    gs.HasRoom directory location := by
  have same : gs.temporaryBase directory = fs.temporaryBase directory := by
    rw [temporaryBase, temporaryBase, retains.here]
  refine ⟨?_, retains.directory room.opened, by rw [same]; exact room.short⟩
  rw [same]
  exact resolveNames_of_retains retains room.resolved fun file =>
    absurd file (DirectoryAt.of_directory room.opened).not_fileAt

/-- Where there is room, a temporary file can be made under any name that is free. -/
theorem HasRoom.exists_hasTemporary (room : fs.HasRoom directory location)
    (offers : fs.Offers directory name) :
    ∃ temporary, fs.makeTemporaryNamed (fun _ => name) directory =
      (.ok temporary, fs.put (location ++ [name]) (.file .empty)) ∧
        fs.HasTemporary temporary location name .empty
          (fs.put (location ++ [name]) (.file .empty)) := by
  have short := room.short name offers.isTemporary.proper offers.length
  have nameShort : name.length ≤ nameLimit := by
    rw [offers.length]
    decide
  have entry : name.IsEntry :=
    ⟨offers.isTemporary.proper.nonempty, offers.isTemporary.proper.not_dot,
      offers.isTemporary.proper.not_dotDot, nameShort⟩
  refine ⟨(fs.temporaryBase directory).child name, ?_, offers.isTemporary, room.opened,
    offers.free location room.resolved,
    spot_child offers.isTemporary.proper entry room.resolved short, .put (by simp)⟩
  rw [makeTemporaryNamed, ← temporaryBase, room.resolved]
  simp [Nat.not_le.mpr short, Nat.not_lt.mpr nameShort, room.opened, Node.isClosed, Node.refusal?]

theorem HasTemporary.fill_eq (holds : fs.HasTemporary temporary location name content gs)
    (text : ByteArray) : (gs.fill temporary text).1 = .ok () := by
  rw [FileSystem.fill, holds.resolve]

/-- A temporary file can be put where there is no directory. -/
theorem HasTemporary.rename_eq (holds : fs.HasTemporary temporary location name content gs)
    {spot : Spot} (ends : fs.spot .busy target = .ok spot) (unslashed : spot.slashed = false)
    (opened : fs.node? spot.directory = some .directory)
    (unobstructed : ¬ fs.DirectoryAt spot.location) : (gs.rename temporary target).1 = .ok () := by
  obtain ⟨around, last, slashed⟩ := spot
  obtain rfl : slashed = false := unslashed
  have retains := holds.adds.retains holds.absent
  have unobstructedToo : ¬ gs.DirectoryAt (around ++ [last]) := by
    intro directory
    by_cases same : around ++ [last] = location ++ [name]
    · rw [same] at directory
      exact directory.not_fileAt ⟨_, holds.adds.file, rfl⟩
    · rw [DirectoryAt, holds.adds.elsewhere same] at directory
      exact unobstructed directory
  have openedToo : gs.node? around = some .directory := retains.directory opened
  have noDirectory : ¬ (gs.node? (around ++ [last])).any Node.isDirectory := fun isDirectory =>
    unobstructedToo ((Option.any_eq_true ..).mp isDirectory)
  simp only [FileSystem.rename, holds.resolve, spot_of_retains retains ends, Spot.location,
    openedToo, holds.adds.file, noDirectory, Option.any_some, Node.isClosed, Node.refusal?,
    Option.isSome_none, Bool.false_eq_true, if_false]

/-- A name is free again when the temporary file has been put elsewhere. -/
theorem Offers.of_addsFile {place : Location} (offers : fs.Offers directory name)
    (room : fs.HasRoom directory location) (retains : fs.Retains gs)
    (adds : fs.AddsFile place content gs) (apart : location ++ [name] ≠ place) :
    gs.Offers directory name := by
  refine (room.of_retains retains).offers offers.isTemporary offers.length ?_
  rw [adds.elsewhere apart]
  exact offers.free location room.resolved

/-- A name that is free is one that may be chosen for a temporary file. -/
theorem Offers.exists_chooses (offers : fs.Offers directory name)
    (made : fs.makeTemporaryNamed (fun _ => name) directory = (.ok temporary, gs)) :
    ∃ choose, fs.Chooses choose ∧ fs.makeTemporaryNamed choose directory = (.ok temporary, gs) := by
  cases resolved : fs.resolveNames (fs.temporaryBase directory)
      (Path.split (fs.temporaryBase directory).bytes ++ [[]]) with
  | error fault =>
      rw [makeTemporaryNamed, ← temporaryBase, resolved] at made
      cases fault <;> simp at made
  | ok location =>
      refine ⟨fun other => if other = location then name else fs.freshName other, fun other => ?_,
        ?_⟩
      · dsimp only
        split
        · next same => exact ⟨offers.isTemporary, same ▸ offers.free location resolved⟩
        · exact chooses_freshName fs other
      · rw [makeTemporaryNamed, ← temporaryBase, resolved] at made ⊢
        simpa using made

end Temporary

end FileSystem

end TypedQueries
