import TypedQueries.Proofs.Source.Discovery

/-! # What a renewed file leaves

A file is renewed when it is put where no other kind of thing was, with the directories it needs
(`FileSystem.Renews`). That leaves the scripts that are loaded from another directory
(`Migration.load_of_renews`), what is read elsewhere (`Source.parseFile_of_renews`) and what a
search finds, but for the file itself (`Discovery.find_eq_iff`).
-/

namespace TypedQueries

namespace FileSystem

variable {fs gs grown : FileSystem} {place location : Location} {content : ByteArray} {path : Path}

/-- That a file has been put at a place where there was nothing or a file, and that elsewhere only
directories are new. -/
structure Renews (fs : FileSystem) (place : Location) (content : ByteArray) (gs : FileSystem) :
    Prop where
  here : gs.here = fs.here
  file : gs.node? place = some (.file content)
  before : ∀ {node : Node}, fs.node? place = some node → node.isFile
  kept : ∀ {location : Location} {node : Node}, location ≠ place →
    fs.node? location = some node → gs.node? location = some node
  new : ∀ {location : Location} {node : Node}, location ≠ place →
    gs.node? location = some node → fs.node? location = some node ∨ node = .directory

namespace Renews

theorem of_replaces {spot : Spot} (grows : fs.GrowsTo grown) (plain : grown.Plain)
    (replaces : grown.Replaces path spot content gs) : fs.Renews spot.location content gs where
  here := replaces.adds.here.trans grows.here
  file := replaces.adds.file
  before {node} present := by
    have present := grows.kept present
    cases node with
    | file content | unreadable size fault => rfl
    | directory | closed | broken fault => exact absurd ⟨_, present, rfl⟩ replaces.unobstructed
    | link target => exact absurd present (plain.ne_link target)
  kept differs present := (replaces.adds.elsewhere differs).trans (grows.kept present)
  new differs present :=
    (grows.made ((replaces.adds.elsewhere differs).symm.trans present)).imp_right And.left

theorem retains (renews : fs.Renews place content gs) : fs.Retains gs where
  here := renews.here
  ways {location node} present unfiled := by
    refine renews.kept ?_ present
    rintro rfl
    exact unfiled (renews.before present)

theorem fileAt_iff (renews : fs.Renews place content gs) (differs : location ≠ place) :
    gs.FileAt location ↔ fs.FileAt location := by
  refine ⟨fun ⟨node, present, isFile⟩ => ?_, fun ⟨node, present, isFile⟩ =>
    ⟨node, renews.kept differs present, isFile⟩⟩
  rcases renews.new differs present with earlier | rfl
  · exact ⟨node, earlier, isFile⟩
  · cases isFile

/-- Directories that cannot be listed are none of those that are new. -/
theorem listingFault?_eq_some (renews : fs.Renews place content gs) {fault : SystemFault}
    (faulty : gs.listingFault? location = some fault) : fs.listingFault? location = some fault := by
  obtain ⟨node, present, faulty⟩ := Option.bind_eq_some_iff.mp faulty
  have differs : location ≠ place := by
    rintro rfl
    obtain rfl := Option.some.inj (renews.file.symm.trans present)
    cases faulty
  rcases renews.new differs present with earlier | rfl
  · exact Option.bind_eq_some_iff.mpr ⟨node, earlier, faulty⟩
  · cases faulty

theorem resolve (renews : fs.Renews place content gs) (resolved : fs.resolve path = .ok location) :
    gs.resolve path = .ok location := by
  refine resolveNames_of_retains renews.retains resolved fun ⟨node, present, isFile⟩ => ?_
  by_cases same : location = place
  · exact ⟨_, same ▸ renews.file, rfl⟩
  · exact ⟨node, renews.kept same present, isFile⟩

/-- Whatever a path led to is still there, unless it has been renewed. -/
theorem at? (renews : fs.Renews place content gs) {node : Node} (is : fs.at? path = .ok node)
    (apart : fs.resolve path ≠ .ok place) : gs.at? path = .ok node := by
  obtain ⟨location, resolved, present⟩ := at?_eq_ok_iff.mp is
  refine at?_eq_ok_iff.mpr ⟨location, renews.resolve resolved, renews.kept ?_ present⟩
  rintro rfl
  exact apart resolved

theorem isDirectory (renews : fs.Renews place content gs) (is : fs.isDirectory path) :
    gs.isDirectory path := by
  obtain ⟨location, resolved, directory⟩ := isDirectory_iff.mp is
  exact isDirectory_iff.mpr
    ⟨location, renews.resolve resolved, renews.retains.directoryAt directory⟩

/-- The path of the module said before where the module was to be put. -/
theorem landing_eq {unnamed : SystemFault} {spot : Spot}
    (renews : fs.Renews spot.location content gs) (plain : gs.Plain)
    (ends : gs.spot unnamed path = .ok spot) (unslashed : spot.slashed = false) :
    path.landing fs.here = spot.location := by
  rw [← renews.here]
  exact (plain.location_eq_landing ends unslashed).symm

/-- What lies elsewhere is a file before if it is one after. -/
theorem isFile_child_iff (renews : fs.Renews place content gs) (plain : fs.Plain)
    (plainToo : gs.Plain) {name : Name} (proper : name.IsProper)
    (resolved : fs.resolve path = .ok location) (apart : location ++ [name] ≠ place) :
    gs.isFile (path.child name) ↔ fs.isFile (path.child name) := by
  rw [plain.isFile_child_iff resolved proper,
    plainToo.isFile_child_iff (renews.resolve resolved) proper]
  constructor
  · rintro ⟨leads, file⟩
    obtain ⟨node, present, isFile⟩ := (renews.fileAt_iff apart).mp file
    refine ⟨?_, node, present, isFile⟩
    exact plain.resolve_foldl_child [name] resolved (by rw [present]; rfl)
      (resolveNames_eq_ok_iff.mp leads).2.1
  · rintro ⟨leads, file⟩
    exact ⟨renews.resolve leads, (renews.fileAt_iff apart).mpr file⟩

end Renews

end FileSystem

/-- A source file that lies elsewhere is read as before. -/
theorem Source.parseFile_of_renews [Grammars] {fs gs : FileSystem} {place : Location}
    {content : ByteArray} {path : Path} (renews : fs.Renews place content gs)
    (apart : fs.resolve path ≠ .ok place) {limit : Nat} {parsed : ParsedSource}
    (isParsed : parseFile fs path limit = .ok parsed) : parseFile gs path limit = .ok parsed := by
  have found : ∃ node, fs.at? path = .ok node := by
    cases found : fs.at? path with
    | ok node => exact ⟨node, rfl⟩
    | error fault =>
        rw [parseFile, text, FileSystem.size, found] at isParsed
        split at isParsed <;> cases isParsed
  obtain ⟨node, found⟩ := found
  have kept := renews.at? found apart
  rwa [parseFile, text, FileSystem.size, FileSystem.read, kept, ← found, ← FileSystem.size,
    ← FileSystem.read, ← text, ← parseFile]

namespace Migration

variable {fs gs : FileSystem} {place location : Location} {content : ByteArray}
  {directory : Path} {extension : String} {name : Name}

section

variable (plain : fs.Plain) (plainToo : gs.Plain) (renews : fs.Renews place content gs)
  (resolved : fs.resolve directory = .ok location)

include plain plainToo renews resolved

theorem scriptName?_of_renews (apart : location ++ [name] ≠ place)
    (file : fs.FileAt (location ++ [name])) :
    scriptName? gs directory extension name = scriptName? fs directory extension name := by
  obtain ⟨node, present, -⟩ := file
  have proper := (plain.proper present name (by simp)).1
  rw [scriptName?, scriptName?,
    Bool.eq_iff_iff.mpr (renews.isFile_child_iff plain plainToo proper resolved apart)]

theorem scriptNames_of_renews (apart : ∀ name, location ++ [name] ≠ place) :
    scriptNames gs directory location extension = scriptNames fs directory location extension := by
  refine scriptNames_unique plainToo.treelike plain.treelike fun name => ?_
  rw [mem_scriptNames_iff plainToo (renews.resolve resolved), mem_scriptNames_iff plain resolved]
  constructor
  · rintro ⟨file, isScript⟩
    have earlier := (renews.fileAt_iff (apart name)).mp file
    rw [scriptName?_of_renews plain plainToo renews resolved (apart name) earlier] at isScript
    exact ⟨earlier, isScript⟩
  · rintro ⟨file, isScript⟩
    rw [← scriptName?_of_renews plain plainToo renews resolved (apart name) file] at isScript
    exact ⟨(renews.fileAt_iff (apart name)).mpr file, isScript⟩

omit plainToo in
theorem readScript_of_renews (apart : location ++ [name] ≠ place)
    (member : name ∈ scriptNames fs directory location extension) :
    readScript gs directory name = readScript fs directory name := by
  obtain ⟨⟨node, present, -⟩, isScript⟩ := (mem_scriptNames_iff plain resolved).mp member
  have proper := (plain.proper present name (by simp)).1
  obtain ⟨leads, -⟩ :=
    (plain.isFile_child_iff resolved proper).mp (isSome_scriptName?_iff.mp isScript).1
  have found := FileSystem.at?_eq_ok_iff.mpr ⟨_, leads, present⟩
  have kept := renews.at? found fun same => apart (Except.ok.inj (leads.symm.trans same))
  rw [readScript, readScript, FileSystem.readText, FileSystem.readText, FileSystem.read,
    FileSystem.read, found, kept]

end

/-- Scripts that lie elsewhere are loaded as before. -/
theorem load_of_renews {scripts : List Migration} (plain : fs.Plain) (plainToo : gs.Plain)
    (renews : fs.Renews place content gs) (outside : ¬ directory.landing fs.here <+: place)
    (loaded : load fs directory extension = .ok scripts) :
    load gs directory extension = .ok scripts := by
  obtain ⟨isDirectory, location, resolved, listed, read⟩ := exists_of_load loaded
  have apart (name : Name) : location ++ [name] ≠ place := by
    rw [plain.resolve_eq_landing resolved]
    rintro rfl
    exact outside (List.prefix_append _ _)
  have readAgain : ∀ name ∈ scriptNames fs directory location extension,
      readScript gs directory name = readScript fs directory name := fun name member =>
    readScript_of_renews plain renews resolved (apart name) member
  have listedToo : gs.listingFault? location = none :=
    Option.eq_none_iff_forall_ne_some.mpr fun fault faulty =>
      absurd (renews.listingFault?_eq_some faulty) (by simp [listed])
  rw [load, if_pos (renews.isDirectory isDirectory), renews.resolve resolved, ← read]
  simp only [listedToo]
  exact (congrArg _ (scriptNames_of_renews plain plainToo renews resolved apart)).trans
    (mapM_congr_left readAgain)

end Migration

namespace Discovery

variable {discovery : Discovery} {fs gs : FileSystem} {root path output : Path}
  {place : Location} {content : ByteArray} {paths others : List Path}

/-- The directory of a search is where it was. -/
theorem resolve_of_renews (renews : fs.Renews place content gs)
    (found : discovery.find fs root = .ok paths) : gs.resolve root = fs.resolve root := by
  obtain ⟨around, resolved, -, -⟩ := exists_of_find found
  rw [resolved, renews.resolve resolved]

/-- A search that succeeds has nothing in its way afterwards either. -/
theorem exists_find_of_renews (plain : fs.Plain) (plainToo : gs.Plain)
    (renews : fs.Renews place content gs) (found : discovery.find fs root = .ok paths) :
    ∃ others, discovery.find gs root = .ok others := by
  obtain ⟨around, resolved, unobstructed, -⟩ := exists_of_find found
  obtain ⟨other, resolvedToo, directory⟩ :=
    FileSystem.isDirectory_iff.mp (renews.isDirectory (isDirectory_of_find found))
  obtain rfl := Except.ok.inj ((renews.resolve resolved).symm.trans resolvedToo)
  refine exists_find discovery resolvedToo directory (List.eq_nil_iff_forall_not_mem.mpr ?_)
  rintro ⟨path, fault⟩ member
  obtain ⟨names, faulty, entered, isPath⟩ := (mem_obstacles_iff plainToo.treelike).mp member
  have earlier := (mem_obstacles_iff plain.treelike).mpr
    ⟨names, renews.listingFault?_eq_some faulty, entered, isPath⟩
  rw [unobstructed] at earlier
  cases earlier

/-- Renewing a file where the skipped paths lead leaves what a search finds, and the file is not
among it, exactly if it is skipped afterwards whenever the search comes upon it, and before if it
was there. -/
theorem find_eq_iff_skips (plain : fs.Plain) (plainToo : gs.Plain)
    (renews : fs.Renews place content gs)
    (lands : ∀ skipped ∈ discovery.skip, skipped.landing fs.here = place)
    (found : discovery.find fs root = .ok paths) (foundToo : discovery.find gs root = .ok others) :
    (others = paths ∧ ∀ path ∈ paths, path.landing fs.here ≠ place) ↔
      ∀ path, discovery.ComesUpon fs root place path →
        ((fs.node? place).isSome → discovery.skips fs path) ∧ discovery.skips gs path := by
  have sameRoot := resolve_of_renews renews found
  constructor
  · rintro ⟨rfl, outside⟩ path comes
    have absent : path ∉ others := fun member => outside path member
      (comes.landing_eq plain fun name inside => (plainToo.proper renews.file name inside).1)
    refine ⟨fun present => ?_, ?_⟩
    · obtain ⟨node, is⟩ := Option.isSome_iff_exists.mp present
      exact skips_of_notMem_find plain found comes ⟨node, is, renews.before is⟩ absent
    · exact skips_of_notMem_find plainToo foundToo (comes.of_resolve sameRoot)
        ⟨_, renews.file, rfl⟩ absent
  · intro skipped
    have elsewhere {path : Path} (member : path ∈ paths) : ∃ location,
        discovery.ComesUpon fs root location path ∧ fs.FileAt location ∧ location ≠ place := by
      obtain ⟨location, comes, file, counts⟩ := (mem_find_iff plain.treelike found).mp member
      refine ⟨location, comes, file, ?_⟩
      rintro rfl
      obtain ⟨node, present, -⟩ := file
      exact absurd ((skipped path comes).1 (by rw [present]; rfl)) (Bool.eq_false_iff.mp counts)
    refine ⟨find_unique plainToo.treelike foundToo plain.treelike found fun path =>
      ⟨fun member => ?_, fun member => ?_⟩, fun path member => ?_⟩
    · obtain ⟨location, comesToo, file, counts⟩ :=
        (mem_find_iff plainToo.treelike foundToo).mp member
      have comes := comesToo.of_resolve sameRoot.symm
      have differs : location ≠ place := by
        rintro rfl
        exact absurd (skipped path comes).2 (Bool.eq_false_iff.mp counts)
      exact mem_find_of_apart plain found comes ((renews.fileAt_iff differs).mp file)
        fun skipped member => lands skipped member ▸ differs.symm
    · obtain ⟨location, comes, file, differs⟩ := elsewhere member
      refine mem_find_of_apart plainToo foundToo (comes.of_resolve sameRoot)
        ((renews.fileAt_iff differs).mpr file) fun skipped member => ?_
      rw [renews.here, lands skipped member]
      exact differs.symm
    · obtain ⟨location, comes, ⟨node, present, -⟩, differs⟩ := elsewhere member
      rwa [comes.landing_eq plain fun name inside => (plain.proper present name inside).1]

theorem skips_iff_of_single (single : discovery.skip = [output]) :
    discovery.skips fs path ↔ (normalized fs output).same (normalized fs path) := by
  rw [skips, single, List.any_cons, List.any_nil, Bool.or_false]

/-- A module is skipped where it lies if the search comes upon it under a path that leads there or
is spelled so. -/
theorem skips_iff_of_resolve (plain : fs.Plain) (single : discovery.skip = [output])
    (leads : fs.resolve output = .ok place)
    (comes : discovery.ComesUpon fs root place path) :
    discovery.skips fs path ↔
      path.bytes.length < FileSystem.pathLimit ∨ path.same (FileSystem.pathOf place) := by
  rw [skips_iff_of_single single, normalized_of_resolve leads]
  by_cases short : path.bytes.length < FileSystem.pathLimit
  · have spelled := comes.resolve_eq plain (plain.treelike.isSome_of_resolve leads) short
    rw [normalized_of_resolve spelled]
    simp [short, Path.same]
  · rw [normalized_of_long short, Path.same_comm]
    simp [short]

section Renewed

variable {spot : FileSystem.Spot} (plain : fs.Plain) (plainToo : gs.Plain)
  (renews : fs.Renews spot.location content gs) (single : discovery.skip = [output])
  (ends : gs.spot .busy output = .ok spot) (unslashed : spot.slashed = false)

include plain plainToo renews single ends unslashed

/-- Where the module has been put, a path that leads there or is spelled so has been skipped before
exactly if the path of the module led there. -/
theorem skips_before_iff (comes : discovery.ComesUpon fs root spot.location path)
    (present : (fs.node? spot.location).isSome)
    (spelled : path.bytes.length < FileSystem.pathLimit ∨
      path.same (FileSystem.pathOf spot.location)) :
    discovery.skips fs path ↔ fs.pathExists output := by
  have lands := renews.landing_eq plainToo ends unslashed
  rw [plain.pathExists_iff, lands]
  refine ⟨fun skipped => ?_, fun leads =>
    (skips_iff_of_resolve plain single leads comes).mpr spelled⟩
  have canonical : (normalized fs path).same (FileSystem.pathOf spot.location) := by
    by_cases short : path.bytes.length < FileSystem.pathLimit
    · rw [normalized_of_resolve (comes.resolve_eq plain present short)]
      exact beq_self_eq_true _
    · rw [normalized_of_long short]
      exact spelled.resolve_left short
  rw [skips_iff_of_single single] at skipped
  have same : (normalized fs output).same (FileSystem.pathOf spot.location) :=
    beq_iff_eq.mpr ((beq_iff_eq.mp skipped).trans (beq_iff_eq.mp canonical))
  cases resolved : fs.resolve output with
  | ok location => rw [← lands, ← plain.resolve_eq_landing resolved]
  | error fault =>
      -- The path of the module is spelled so itself, so that it leads there.
      rw [normalized_of_error resolved] at same
      obtain ⟨around, name, slashed⟩ := spot
      obtain rfl : slashed = false := unslashed
      obtain ⟨entry, before, parts, opens⟩ := FileSystem.spot_eq_ok_iff.mp ends
      have short := (FileSystem.resolveNames_eq_ok_iff.mp opens).2.1
      exact resolved.symm.trans (plain.resolve_of_same same parts short present)

omit plain in
/-- Where the module has been put, a path is skipped afterwards exactly if it leads there or is
spelled so. -/
theorem skips_after_iff (comes : discovery.ComesUpon gs root spot.location path) :
    discovery.skips gs path ↔ path.bytes.length < FileSystem.pathLimit ∨
      path.same (FileSystem.pathOf spot.location) :=
  skips_iff_of_resolve plainToo single (plainToo.resolve_of_spot ends unslashed renews.file) comes

/-- Putting the module in its place leaves what a search finds, and the module is not among it,
exactly if whenever the search comes upon the module's place, the path of the module led there
before unless nothing was there, and the search has it under a path that leads there or is spelled
so. -/
theorem find_eq_iff (found : discovery.find fs root = .ok paths)
    (foundToo : discovery.find gs root = .ok others) :
    (others = paths ∧ ∀ path ∈ paths, path.landing fs.here ≠ spot.location) ↔
      ∀ path, discovery.ComesUpon fs root spot.location path →
        ((fs.node? spot.location).isSome → fs.pathExists output) ∧
        (path.bytes.length < FileSystem.pathLimit ∨
          path.same (FileSystem.pathOf spot.location)) := by
  have sameRoot := resolve_of_renews renews found
  rw [find_eq_iff_skips plain plainToo renews
    (by simpa [single] using renews.landing_eq plainToo ends unslashed) found foundToo]
  refine forall₂_congr fun path comes => ?_
  rw [skips_after_iff plainToo renews single ends unslashed (comes.of_resolve sameRoot)]
  exact and_congr_left fun spelled => forall_congr' fun present =>
    skips_before_iff plain plainToo renews single ends unslashed comes present spelled

end Renewed

end Discovery

end TypedQueries
