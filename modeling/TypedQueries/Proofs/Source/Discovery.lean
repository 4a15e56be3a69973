import TypedQueries.Migration
import TypedQueries.Proofs.FileSystem.Landing
import TypedQueries.Proofs.Generation.Inputs

/-! # What a search finds

In a tree of files a search comes upon each file below its directory once, under a path that says
where the file lies (`Discovery.ComesUpon`), and finds it unless that path is skipped
(`Discovery.mem_find_iff`). So two searches that find the same paths find the same list
(`Discovery.find_unique`). Likewise for the scripts in a directory (`Migration.scriptNames_unique`).
Without links a file is skipped only if it lies where a skipped path leads
(`Discovery.skips_eq_false`).
-/

namespace TypedQueries

namespace Discovery

variable {discovery : Discovery} {fs gs : FileSystem} {root path : Path} {location : Location}
  {paths : List Path}

/-- That a search below a directory comes upon a location under a path: the location lies in
directories that are not passed over, and the path has one of the extensions. -/
inductive ComesUpon (discovery : Discovery) (fs : FileSystem) (root : Path) :
    Location → Path → Prop
  | below {around : Location} {names : List Name} (resolved : fs.resolve root = .ok around)
      (inside : names ≠ []) (entered : names.dropLast.any discovery.excludesName = false)
      (extended : (names.foldl Path.child root).hasExtension discovery.extensions) :
      ComesUpon discovery fs root (around ++ names) (names.foldl Path.child root)

theorem ComesUpon.of_resolve (comes : discovery.ComesUpon fs root location path)
    (same : gs.resolve root = fs.resolve root) : discovery.ComesUpon gs root location path := by
  cases comes with
  | below resolved inside entered extended =>
      exact .below (same.trans resolved) inside entered extended

/-- The path says where the location is. -/
theorem ComesUpon.landing_eq (comes : discovery.ComesUpon fs root location path)
    (plain : fs.Plain) (proper : ∀ name ∈ location, name.IsProper) :
    path.landing fs.here = location := by
  cases comes with
  | below resolved inside entered extended =>
      rw [Path.landing_foldl_child _ _ (List.forall_mem_append.mp proper).2,
        ← plain.resolve_eq_landing resolved]

/-- The path leads to what is there, unless it is too long. -/
theorem ComesUpon.resolve_eq (comes : discovery.ComesUpon fs root location path)
    (plain : fs.Plain) (present : (fs.node? location).isSome)
    (short : path.bytes.length < FileSystem.pathLimit) : fs.resolve path = .ok location := by
  cases comes with
  | @below around names resolved inside entered extended =>
      exact plain.resolve_foldl_child names resolved present short

theorem reach?_eq_some_iff {entry : Location × Node} :
    discovery.reach? root entry = some path ↔
      entry.2.isFile ∧ entry.1.dropLast.any discovery.excludesName = false ∧
        entry.1.foldl Path.child root = path := by
  simp [reach?, and_assoc]

theorem obstacle?_eq_some_iff {entry : Location × Node} {fault : SystemFault} :
    discovery.obstacle? root entry = some (path, fault) ↔
      entry.2.listingFault? = some fault ∧ entry.1.any discovery.excludesName = false ∧
        entry.1.foldl Path.child root = path := by
  cases passed : entry.1.any discovery.excludesName <;> simp [obstacle?, passed, and_comm]

/-- What lies in the way of a search below a directory: the directories that it looks into and that
cannot be listed. -/
theorem mem_obstacles_iff (tree : fs.Treelike) {fault : SystemFault} :
    (path, fault) ∈ discovery.obstacles fs root location ↔
      ∃ names, fs.listingFault? (location ++ names) = some fault ∧
        names.any discovery.excludesName = false ∧ names.foldl Path.child root = path := by
  simp only [obstacles, List.mem_mergeSort, List.mem_filterMap, obstacle?_eq_some_iff,
    List.mem_append, Option.mem_toList, Option.map_eq_some_iff]
  constructor
  · rintro ⟨⟨names, node⟩, ⟨other, present, same⟩ | below, faulty, entered, isPath⟩
    · cases same
      refine ⟨[], ?_, entered, isPath⟩
      rw [List.append_nil, FileSystem.listingFault?, present]
      exact faulty
    · refine ⟨names, ?_, entered, isPath⟩
      rw [FileSystem.listingFault?, (tree.mem_below_iff.mp below).2]
      exact faulty
  · rintro ⟨names, faulty, entered, isPath⟩
    obtain ⟨node, present, faulty⟩ := Option.bind_eq_some_iff.mp faulty
    refine ⟨(names, node), ?_, faulty, entered, isPath⟩
    by_cases inside : names = []
    · subst inside
      rw [List.append_nil] at present
      exact .inl ⟨node, present, rfl⟩
    · exact .inr (tree.mem_below_iff.mpr ⟨inside, present⟩)

/-- A search below a directory that has nothing in its way comes to what it reaches, sorted. -/
theorem find_eq_mergeSort (resolved : fs.resolve root = .ok location)
    (directory : fs.DirectoryAt location)
    (unobstructed : discovery.obstacles fs root location = []) :
    discovery.find fs root =
      .ok ((((fs.below location).filterMap (discovery.reach? root)).filter fun path =>
        path.hasExtension discovery.extensions && !discovery.skips fs path).mergeSort
          Path.le) := by
  have isDirectory := FileSystem.isDirectory_iff.mpr ⟨location, resolved, directory⟩
  rw [find, if_pos isDirectory, resolved]
  simp only [unobstructed]

theorem exists_find (discovery : Discovery) (resolved : fs.resolve root = .ok location)
    (directory : fs.DirectoryAt location)
    (unobstructed : discovery.obstacles fs root location = []) :
    ∃ paths, discovery.find fs root = .ok paths :=
  ⟨_, find_eq_mergeSort resolved directory unobstructed⟩

/-- A search that reaches the given paths, in whatever order, comes to them in theirs. -/
theorem find_eq_of_perm (resolved : fs.resolve root = .ok location)
    (directory : fs.DirectoryAt location)
    (unobstructed : discovery.obstacles fs root location = [])
    (ordered : paths.Pairwise fun earlier later => earlier.compare later = .lt)
    (perm : (((fs.below location).filterMap (discovery.reach? root)).filter fun path =>
      path.hasExtension discovery.extensions && !discovery.skips fs path).Perm paths) :
    discovery.find fs root = .ok paths :=
  (find_eq_mergeSort resolved directory unobstructed).trans
    (congrArg Except.ok (mergeSort_eq_of_perm id Path.compare ordered perm))

/-- A search fails at the first of the directories in its way. -/
theorem find_eq_of_obstacles (resolved : fs.resolve root = .ok location)
    (directory : fs.DirectoryAt location) {obstacle : Path × SystemFault}
    {others : List (Path × SystemFault)}
    (obstructed : discovery.obstacles fs root location = obstacle :: others) :
    discovery.find fs root = .error (failure root obstacle) := by
  have isDirectory := FileSystem.isDirectory_iff.mpr ⟨location, resolved, directory⟩
  rw [find, if_pos isDirectory, resolved]
  simp only [obstructed]

theorem isDirectory_of_find (found : discovery.find fs root = .ok paths) :
    fs.isDirectory root := by
  unfold find at found
  split at found
  · assumption
  · cases found

theorem mem_find_iff (tree : fs.Treelike) (found : discovery.find fs root = .ok paths) :
    path ∈ paths ↔ ∃ location, discovery.ComesUpon fs root location path ∧
      fs.FileAt location ∧ discovery.skips fs path = false := by
  obtain ⟨around, resolved, -, rfl⟩ := exists_of_find found
  simp only [List.mem_mergeSort, List.mem_filter, List.mem_filterMap, Bool.and_eq_true,
    Bool.not_eq_true', reach?_eq_some_iff]
  constructor
  · rintro ⟨⟨⟨names, node⟩, below, isFile, entered, rfl⟩, extended, counts⟩
    obtain ⟨inside, present⟩ := tree.mem_below_iff.mp below
    exact ⟨_, .below resolved inside entered extended, ⟨node, present, isFile⟩, counts⟩
  · rintro ⟨location, comes, ⟨node, present, isFile⟩, counts⟩
    cases comes with
    | @below other names resolvedToo inside entered extended =>
        obtain rfl := Except.ok.inj (resolved.symm.trans resolvedToo)
        exact ⟨⟨(names, node), tree.mem_below_iff.mpr ⟨inside, present⟩, isFile, entered, rfl⟩,
          extended, counts⟩

/-- A file that the search comes upon and does not find is skipped. -/
theorem skips_of_notMem_find (plain : fs.Plain) (found : discovery.find fs root = .ok paths)
    (comes : discovery.ComesUpon fs root location path) (file : fs.FileAt location)
    (absent : path ∉ paths) :
    discovery.skips fs path := by
  by_contra counts
  exact absent ((mem_find_iff plain.treelike found).mpr
    ⟨location, comes, file, Bool.eq_false_iff.mpr counts⟩)

/-- Every file is found once. -/
theorem nodup_find (tree : fs.Treelike) (found : discovery.find fs root = .ok paths) :
    paths.Nodup := by
  obtain ⟨around, resolved, -, rfl⟩ := exists_of_find found
  refine (List.mergeSort_perm _ _).nodup_iff.mpr (List.Nodup.filter _ ?_)
  refine List.pairwise_filterMap.mpr
    (List.Pairwise.imp_of_mem ?_ (tree.pairwise_below around))
  intro entry other member memberToo differs first reached second reachedToo same
  have proper {entry : Location × Node} (member : entry ∈ fs.below around) :
      ∀ name ∈ entry.1, name.IsProper := fun name inside =>
    (tree.proper (tree.mem_below_iff.mp member).2 name (List.mem_append_right _ inside)).1
  obtain ⟨-, -, rfl⟩ := reach?_eq_some_iff.mp reached
  obtain ⟨-, -, rfl⟩ := reach?_eq_some_iff.mp reachedToo
  exact differs (Path.eq_of_components_foldl_child (proper member) (proper memberToo)
    (congrArg Path.components same))

/-- What is found below a directory, in one file system or another, is known by its components. -/
theorem eq_of_components_eq {others : List Path} {other : Path}
    (tree : fs.Treelike) (found : discovery.find fs root = .ok paths)
    (treeToo : gs.Treelike) (foundToo : discovery.find gs root = .ok others)
    (member : path ∈ paths) (memberToo : other ∈ others)
    (same : path.components = other.components) : path = other := by
  obtain ⟨_, comes, ⟨_, present, -⟩, -⟩ := (mem_find_iff tree found).mp member
  obtain ⟨_, comesToo, ⟨_, presentToo, -⟩, -⟩ := (mem_find_iff treeToo foundToo).mp memberToo
  cases comes with
  | below =>
      cases comesToo with
      | below =>
          rw [Path.eq_of_components_foldl_child
            (fun name inside => (tree.proper present name (List.mem_append_right _ inside)).1)
            (fun name inside => (treeToo.proper presentToo name (List.mem_append_right _ inside)).1)
            same]

/-- What is found is known when it is known which paths are. -/
theorem find_unique {others : List Path}
    (tree : fs.Treelike) (found : discovery.find fs root = .ok paths)
    (treeToo : gs.Treelike) (foundToo : discovery.find gs root = .ok others)
    (same : ∀ path, path ∈ paths ↔ path ∈ others) : paths = others := by
  refine List.Perm.eq_of_pairwise ?_ (pairwise_find found) (pairwise_find foundToo)
    ((List.perm_ext_iff_of_nodup (nodup_find tree found) (nodup_find treeToo foundToo)).mpr same)
  intro path other member memberToo before after
  exact eq_of_components_eq tree found treeToo foundToo member memberToo
    (Path.components_eq_of_le before after)

theorem normalized_of_resolve (resolved : fs.resolve path = .ok location) :
    normalized fs path = FileSystem.pathOf location := by
  rw [normalized, FileSystem.canonical?, resolved]
  rfl

theorem normalized_of_error {fault : SystemFault} (lost : fs.resolve path = .error fault) :
    normalized fs path = path := by
  rw [normalized, FileSystem.canonical?, lost]
  rfl

/-- A path that is too long to lead anywhere is taken as it is. -/
theorem normalized_of_long (long : ¬ path.bytes.length < FileSystem.pathLimit) :
    normalized fs path = path := by
  cases resolved : fs.resolve path with
  | error fault => exact normalized_of_error resolved
  | ok location => exact absurd (FileSystem.resolveNames_eq_ok_iff.mp resolved).2.1 long

/-- A path in its canonical form leads to where it led. -/
theorem landing_normalized (plain : fs.Plain) (path : Path) :
    (normalized fs path).landing fs.here = path.landing fs.here := by
  cases resolved : fs.resolve path with
  | error fault => rw [normalized_of_error resolved]
  | ok location =>
      obtain ⟨node, present⟩ :=
        Option.isSome_iff_exists.mp (plain.treelike.isSome_of_resolve resolved)
      rw [normalized_of_resolve resolved, ← plain.resolve_eq_landing resolved]
      exact Path.landing_pathOf fun name inside => (plain.proper present name inside).1

/-- A file is skipped only where a skipped path leads. -/
theorem skips_eq_false (plain : fs.Plain)
    (apart : ∀ skipped ∈ discovery.skip, skipped.landing fs.here ≠ path.landing fs.here) :
    discovery.skips fs path = false := by
  refine List.any_eq_false.mpr fun skipped member same => apart skipped member ?_
  rw [← landing_normalized plain skipped, ← landing_normalized plain path,
    Path.landing_of_same same]

/-- A file is found if the search comes upon it elsewhere than where skipped paths lead. -/
theorem mem_find_of_apart (plain : fs.Plain) (found : discovery.find fs root = .ok paths)
    (comes : discovery.ComesUpon fs root location path) (file : fs.FileAt location)
    (apart : ∀ skipped ∈ discovery.skip, skipped.landing fs.here ≠ location) : path ∈ paths := by
  obtain ⟨node, present, -⟩ := id file
  refine (mem_find_iff plain.treelike found).mpr
    ⟨location, comes, file, skips_eq_false plain ?_⟩
  rwa [comes.landing_eq plain fun name member => (plain.proper present name member).1]

end Discovery

namespace Migration

variable {fs gs : FileSystem} {directory : Path} {location : Location} {extension : String}
  {name : Name}

/-- The scripts of a directory are what is in it and has the name of one. -/
theorem mem_scriptNames_iff_listed (tree : fs.Treelike) :
    name ∈ scriptNames fs directory location extension ↔
      (∃ node, fs.node? (location ++ [name]) = some node) ∧
        (scriptName? fs directory extension name).isSome := by
  simp [scriptNames, tree.mem_children_iff]

theorem mem_scriptNames_iff (plain : fs.Plain) (resolved : fs.resolve directory = .ok location) :
    name ∈ scriptNames fs directory location extension ↔
      fs.FileAt (location ++ [name]) ∧ (scriptName? fs directory extension name).isSome := by
  rw [mem_scriptNames_iff_listed plain.treelike]
  refine and_congr_left fun isScript => ⟨?_, fun ⟨node, present, _⟩ => ⟨node, present⟩⟩
  rintro ⟨node, present⟩
  have proper := (plain.proper present name (by simp)).1
  exact ((plain.isFile_child_iff resolved proper).mp (isSome_scriptName?_iff.mp isScript).1).2

theorem nodup_scriptNames (tree : fs.Treelike) :
    (scriptNames fs directory location extension).Nodup :=
  (List.mergeSort_perm _ _).nodup_iff.mpr (List.Nodup.filter _ (tree.nodup_children location))

/-- Which scripts there are is known when it is known which names are those of scripts. -/
theorem scriptNames_unique (tree : fs.Treelike) (treeToo : gs.Treelike)
    (same : ∀ name, name ∈ scriptNames fs directory location extension ↔
      name ∈ scriptNames gs directory location extension) :
    scriptNames fs directory location extension = scriptNames gs directory location extension := by
  refine List.Perm.eq_of_pairwise ?_
    (pairwise_mergeSort_isLE Path.compareComponents.compareNames _)
    (pairwise_mergeSort_isLE Path.compareComponents.compareNames _)
    ((List.perm_ext_iff_of_nodup (nodup_scriptNames tree) (nodup_scriptNames treeToo)).mpr same)
  intro name other _ _ before after
  exact Std.LawfulEqCmp.eq_of_compare (Std.OrientedCmp.isLE_antisymm before after)

end Migration

end TypedQueries
