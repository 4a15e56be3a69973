import TypedQueries.Proofs.FileSystem.Change

/-! # Temporary files

While a temporary file is there it is the only thing that is new (`FileSystem.HasTemporary`).
Removing it undoes that. Putting it in the place of another file leaves the whole content there,
and nothing else has changed (`HasTemporary.rename`); whether the path of that file then leads to
it is decided by whether the path leads through what was there before (`read_eq_ok_iff`).
-/

namespace TypedQueries

/-- That a name can be chosen for a temporary file. -/
structure Name.IsTemporary (name : Name) : Prop where
  marked : FileSystem.temporaryMark <+: name
  proper : name.IsProper

namespace FileSystem

variable {fs gs hs : FileSystem} {location : Location} {content : ByteArray}

/-- That one file has been put where it is, and nothing else has changed. -/
structure AddsFile (fs : FileSystem) (location : Location) (content : ByteArray)
    (gs : FileSystem) : Prop where
  here : gs.here = fs.here
  file : gs.node? location = some (.file content)
  elsewhere : ∀ {other : Location}, other ≠ location → gs.node? other = fs.node? other

namespace AddsFile

theorem put (inside : location ≠ []) :
    fs.AddsFile location content (fs.put location (.file content)) :=
  ⟨rfl, node?_put_self inside, node?_put_of_ne⟩

theorem trans {other : ByteArray} (first : fs.AddsFile location other gs)
    (second : gs.AddsFile location content hs) : fs.AddsFile location content hs where
  here := second.here.trans first.here
  file := second.file
  elsewhere differs := (second.elsewhere differs).trans (first.elsewhere differs)

/-- No way leads through the file. -/
theorem retains_before (adds : fs.AddsFile location content gs) : gs.Retains fs where
  here := adds.here.symm
  ways {other node} present unfiled := by
    rw [← adds.elsewhere, present]
    rintro rfl
    rw [adds.file, Option.some.injEq] at present
    exact unfiled (present ▸ rfl)

theorem kept (adds : fs.AddsFile location content gs) (absent : fs.node? location = none)
    {other : Location} {node : Node} (present : fs.node? other = some node) :
    gs.node? other = some node := by
  rw [adds.elsewhere, present]
  rintro rfl
  rw [absent] at present
  cases present

theorem retains (adds : fs.AddsFile location content gs) (absent : fs.node? location = none) :
    fs.Retains gs :=
  ⟨adds.here, fun present _ => adds.kept absent present⟩

end AddsFile

/-- That a temporary file is new: at the end of its path, in an open directory. -/
structure HasTemporary (fs : FileSystem) (temporary : Path) (directory : Location) (name : Name)
    (content : ByteArray) (gs : FileSystem) : Prop where
  isTemporary : name.IsTemporary
  opened : fs.node? directory = some .directory
  absent : fs.node? (directory ++ [name]) = none
  spot : fs.spot .busy temporary = .ok ⟨directory, name, false⟩
  adds : fs.AddsFile (directory ++ [name]) content gs

/-- That a file has been put where a path ends, and nothing else has changed. -/
structure Replaces (fs : FileSystem) (path : Path) (place : Spot) (content : ByteArray)
    (gs : FileSystem) : Prop where
  spot : fs.spot .busy path = .ok place
  unslashed : place.slashed = false
  opened : fs.node? place.directory = some .directory
  unobstructed : ¬ fs.DirectoryAt place.location
  adds : fs.AddsFile place.location content gs

/-- That names are chosen for temporary files which nothing has. -/
def Chooses (fs : FileSystem) (choose : Location → Name) : Prop :=
  ∀ directory, (choose directory).IsTemporary ∧ fs.node? (directory ++ [choose directory]) = none

/-- A path into the directory that a path leads to ends there. -/
theorem spot_child {base : Path} {name : Name} {unnamed : SystemFault} (proper : name.IsProper)
    (entry : name.IsEntry)
    (resolved : fs.resolveNames base (Path.split base.bytes ++ [[]]) = .ok location)
    (short : (base.child name).bytes.length < pathLimit) :
    fs.spot unnamed (base.child name) = .ok ⟨location, name, false⟩ := by
  obtain ⟨nonempty, _, leads⟩ := resolveNames_eq_ok_iff.mp resolved
  obtain ⟨start, shape, same⟩ := Path.exists_child_eq proper nonempty
  rw [same] at short ⊢
  refine spot_eq_ok_iff.mpr ⟨entry, Path.split start, ?_, ?_⟩
  · rw [Path.split_append_slash, Path.split_of_unseparated proper.unseparated]
  refine resolveNames_eq_ok_iff.mpr ⟨by simp, short, ?_⟩
  rcases shape with ⟨whole, started⟩ | slashed
  · have rooted : Path.isAbsolute ⟨start ++ Path.slash :: name⟩ = base.isAbsolute := by
      obtain ⟨first, rest, rfl⟩ := List.exists_cons_of_ne_nil started
      rw [Path.isAbsolute, Path.isAbsolute, whole]
      rfl
    rwa [rooted, ← whole]
  · have rooted : Path.isAbsolute ⟨start ++ Path.slash :: name⟩ = base.isAbsolute := by
      rw [Path.isAbsolute, Path.isAbsolute, slashed]
      cases start <;> rfl
    rw [slashed, Path.split_append_slash] at leads
    rw [rooted]
    exact leads.of_append_silent

theorem hasTemporary_of_makeTemporaryNamed {choose : Location → Name} {directory temporary : Path}
    (chooses : fs.Chooses choose)
    (made : fs.makeTemporaryNamed choose directory = (.ok temporary, gs)) :
    ∃ location, fs.HasTemporary temporary location (choose location) .empty gs := by
  simp only [makeTemporaryNamed] at made
  generalize isBase : (pathOf fs.here).join directory = base at made
  split at made
  · cases made
  next location resolved =>
  split at made
  · cases made
  next long =>
  split at made
  · cases made
  next opened =>
  cases made
  obtain ⟨isTemporary, absent⟩ := chooses location
  obtain ⟨pathShort, nameShort⟩ := by simpa using long
  have entry : (choose location).IsEntry :=
    ⟨isTemporary.proper.nonempty, isTemporary.proper.not_dot, isTemporary.proper.not_dotDot,
      nameShort⟩
  obtain ⟨nonempty, _, leads⟩ := resolveNames_eq_ok_iff.mp resolved
  exact ⟨location, isTemporary, leads.directoryAt.eq_directory opened, absent,
    spot_child isTemporary.proper entry resolved pathShort,
    .put (by simp)⟩

namespace HasTemporary

variable {temporary target : Path} {directory : Location} {name : Name}

theorem resolve (holds : fs.HasTemporary temporary directory name content gs) :
    gs.resolve temporary = .ok (directory ++ [name]) := by
  have retains := holds.adds.retains holds.absent
  exact resolve_of_spot (spot_of_retains retains holds.spot)
    (retains.directory holds.opened) holds.adds.file
    fun _ => Node.noConfusion

theorem fill (holds : fs.HasTemporary temporary directory name content gs) {other : ByteArray}
    (filled : gs.fill temporary other = (.ok (), hs)) :
    fs.HasTemporary temporary directory name other hs := by
  rw [FileSystem.fill, holds.resolve] at filled
  cases filled
  exact { holds with adds := holds.adds.trans (.put (by simp)) }

theorem node?_erase (holds : fs.HasTemporary temporary directory name content gs)
    (sound : fs.Sound) (location : Location) :
    (gs.erase (directory ++ [name])).node? location = fs.node? location := by
  by_cases within : directory ++ [name] <+: location
  · have single := not_directoryAt_of_eq_none holds.absent
    have absent : fs.node? location = none := by
      by_cases same : location = directory ++ [name]
      · rw [same, holds.absent]
      · exact sound.node?_eq_none_of_within single within same
    rw [absent, node?_erase_of_within _ within]
    rintro rfl
    simp at within
  · rw [node?_erase_of_apart within, holds.adds.elsewhere]
    rintro rfl
    exact within (List.prefix_refl _)

/-- A temporary file that is removed has left nothing. -/
theorem node?_remove (holds : fs.HasTemporary temporary directory name content gs)
    (sound : fs.Sound) (location : Location) :
    (gs.remove temporary).node? location = fs.node? location := by
  rw [FileSystem.remove, spot_of_retains (holds.adds.retains holds.absent) holds.spot]
  exact holds.node?_erase sound location

theorem here_remove (holds : fs.HasTemporary temporary directory name content gs) :
    (gs.remove temporary).here = fs.here := by
  rw [FileSystem.remove]
  split <;> exact holds.adds.here

/-- A temporary file that is put in the place of another is the whole of what has changed. -/
theorem rename (holds : fs.HasTemporary temporary directory name content gs) (sound : fs.Sound)
    (renamed : gs.rename temporary target = (.ok (), hs)) :
    ∃ place, fs.Replaces target place content hs := by
  simp only [FileSystem.rename, holds.resolve] at renamed
  split at renamed
  · cases renamed
  · cases renamed
  next place same found =>
  cases same
  split at renamed
  · cases renamed
  next opened =>
  split at renamed
  · cases renamed
  next unslashed =>
  obtain ⟨around, last, slashed⟩ := place
  obtain rfl : slashed = false := by simpa using unslashed
  have before := spot_of_retains holds.adds.retains_before found
  have retains := holds.adds.retains holds.absent
  have unclosed : fs.node? around = some .directory := by
    have isDirectory := directoryAt_of_spot before
    rw [retains.node?_eq isDirectory] at opened
    exact isDirectory.eq_directory opened
  rw [holds.adds.file] at renamed
  split at renamed
  · cases renamed
  next unobstructed =>
  cases renamed
  refine ⟨_, before, rfl, unclosed, ?_, holds.adds.here,
    node?_put_self (by simp [Spot.location]),
    fun differs => (node?_put_of_ne differs).trans (holds.node?_erase sound _)⟩
  intro isDirectory
  exact unobstructed ((Option.any_eq_true ..).mpr (retains.directoryAt isDirectory))

end HasTemporary

namespace Replaces

variable {path : Path} {place : Spot}

/-- The content is read at the path unless the path leads through what was there before, which
can only be a link. -/
theorem read_eq_ok_iff (replaces : fs.Replaces path place content gs) (sound : fs.Sound) :
    gs.read path = .ok content ↔ (fs.erase place.location).spot .busy path = .ok place := by
  obtain ⟨directory, name, slashed⟩ := place
  obtain ⟨found, rfl, opened, unobstructed, adds⟩ := replaces
  constructor
  · intro read
    obtain ⟨location, resolved, -⟩ := FileSystem.read_eq_ok_iff.mp read
    obtain ⟨entry, before, parts, -⟩ := spot_eq_ok_iff.mp found
    obtain ⟨around, after⟩ : ∃ around, gs.spot .busy path = .ok ⟨around, name, false⟩ :=
      exists_spot_of_resolve resolved parts entry
    -- The way to the new file is not through it, so it was there without it.
    have onward : gs.Retains (fs.erase (directory ++ [name])) := by
      refine ⟨adds.here.symm, fun {other node} present unfiled => ?_⟩
      have differs : other ≠ directory ++ [name] := by
        rintro rfl
        exact unfiled (Option.some.inj (present.symm.trans adds.file) ▸ rfl)
      rw [adds.elsewhere differs] at present
      exact (node?_erase_of_not_directoryAt sound unobstructed differs).trans present
    have between := spot_of_retains onward after
    have same := spot_of_retains (retains_of_erase (by simp)) between
    obtain rfl : directory = around :=
      congrArg Spot.directory (Except.ok.inj (found.symm.trans same))
    exact between
  · intro spot
    have onward : (fs.erase (directory ++ [name])).Retains gs := by
      refine ⟨adds.here, fun {other node} present _ => ?_⟩
      obtain ⟨differs, present⟩ := node?_of_erase (by simp) present
      rw [adds.elsewhere differs, present]
    refine FileSystem.read_eq_ok_iff.mpr ⟨directory ++ [name], ?_, adds.file⟩
    refine resolve_of_spot (spot_of_retains onward spot) ?_ adds.file fun _ => Node.noConfusion
    rw [adds.elsewhere (by simp [Spot.location]), opened]

/-- Where there was no link, the content is read at the path. -/
theorem read_of_unlinked (replaces : fs.Replaces path place content gs) (sound : fs.Sound)
    (unlinked : ∀ target, fs.node? place.location ≠ some (.link target)) :
    gs.read path = .ok content := by
  rw [replaces.read_eq_ok_iff sound]
  obtain ⟨directory, name, slashed⟩ := place
  obtain ⟨found, rfl, _, unobstructed, _⟩ := replaces
  have onward : fs.Retains (fs.erase (directory ++ [name])) := by
    refine ⟨rfl, fun {other node} present unfiled => ?_⟩
    refine (node?_erase_of_not_directoryAt sound unobstructed ?_).trans present
    rintro rfl
    cases node with
    | file content | unreadable size fault => exact unfiled rfl
    | directory | closed | broken fault => exact unobstructed ⟨_, present, rfl⟩
    | link target => exact unlinked target present
  exact spot_of_retains onward found

end Replaces

/-- That nothing has been taken away or changed, and that only directories are new, and files
under names for temporary files. -/
structure Preserves (fs gs : FileSystem) : Prop where
  here : gs.here = fs.here
  kept : ∀ {location : Location} {node : Node}, fs.node? location = some node →
    gs.node? location = some node
  new : ∀ {location : Location} {node : Node}, gs.node? location = some node →
    fs.node? location = some node ∨ node = .directory ∨
      ∃ name, location.getLast? = some name ∧ name.IsTemporary

namespace Preserves

theorem read (preserves : fs.Preserves gs) {path : Path} (before : fs.read path = .ok content) :
    gs.read path = .ok content :=
  read_of_kept preserves.here preserves.kept before

end Preserves

theorem GrowsTo.preserves (grows : fs.GrowsTo gs) : fs.Preserves gs :=
  ⟨grows.here, grows.kept, fun present => (grows.made present).imp_right fun made => .inl made.1⟩

namespace HasTemporary

variable {temporary : Path} {directory : Location} {name : Name}

/-- A temporary file that stays is all that has been added to what there was. -/
theorem preserves (holds : gs.HasTemporary temporary directory name content hs)
    (grows : fs.GrowsTo gs) : fs.Preserves hs where
  here := holds.adds.here.trans grows.here
  kept present := holds.adds.kept holds.absent (grows.kept present)
  new {location node} present := by
    by_cases same : location = directory ++ [name]
    · rw [same, List.getLast?_concat]
      exact .inr (.inr ⟨name, rfl, holds.isTemporary⟩)
    · rw [holds.adds.elsewhere same] at present
      exact grows.preserves.new present

/-- A temporary file that is removed leaves the directories that were made for it. -/
theorem preserves_remove (holds : gs.HasTemporary temporary directory name content hs)
    (grows : fs.GrowsTo gs) (sound : gs.Sound) : fs.Preserves (hs.remove temporary) where
  here := holds.here_remove.trans grows.here
  kept present := (holds.node?_remove sound _).trans (grows.kept present)
  new present := grows.preserves.new ((holds.node?_remove sound _).symm.trans present)

end HasTemporary

end FileSystem

end TypedQueries
