import TypedQueries.Proofs.Source.Discovery

/-! # What a search comes to

In a tree of files a search finds exactly the files that are wanted (`Discovery.Wants`), each once
and in the order of their paths, in whatever order the directories list what is in them; or it fails
at the first of the directories that are in its way (`Discovery.find_exact`). A file that is reached
counts unless a skipped path leads to it, or leads nowhere and is spelled as it is
(`Discovery.Hides`, `Discovery.same_normalized_iff`).
-/

namespace TypedQueries

namespace FileSystem

variable {fs : FileSystem}

/-- What lies at two locations has the same path only if they are one. -/
theorem Treelike.same_pathOf_iff (tree : fs.Treelike) {location other : Location}
    {node node' : Node} (present : fs.node? location = some node)
    (presentToo : fs.node? other = some node') :
    (pathOf location).same (pathOf other) ↔ location = other := by
  rw [Path.same, beq_iff_eq,
    Path.components_pathOf fun name member => (tree.proper present name member).1,
    Path.components_pathOf fun name member => (tree.proper presentToo name member).1,
    List.cons.injEq]
  simp [List.map_inj_right fun _ _ => Path.Component.normal.inj]

end FileSystem

namespace Discovery

variable {discovery : Discovery} {fs gs : FileSystem} {root path : Path} {around : Location}
  {paths : List Path}

/-- That a skipped path hides the file at a location, reached under a path: it leads to the file, or
leads nowhere and is spelled as the file's canonical path. A path that is too long to lead anywhere
has no canonical form, and such a file is hidden by what is spelled as it. -/
inductive Hides (fs : FileSystem) (skipped path : Path) (location : Location) : Prop
  | leads (reached : fs.resolve path = .ok location) (resolved : fs.resolve skipped = .ok location)
  | spelled {fault : SystemFault} (reached : fs.resolve path = .ok location)
      (lost : fs.resolve skipped = .error fault)
      (same : skipped.same (FileSystem.pathOf location))
  | long {fault : SystemFault} {place : Location} (unreached : fs.resolve path = .error fault)
      (resolved : fs.resolve skipped = .ok place) (same : (FileSystem.pathOf place).same path)
  | alike {fault fault' : SystemFault} (unreached : fs.resolve path = .error fault)
      (lost : fs.resolve skipped = .error fault') (same : skipped.same path)

/-- That a file below a directory, given by the names of the directories on its way and its own, is
left to a search: none of these directories has a name that is passed over, and none of the skipped
paths hides the file. -/
structure Considers (discovery : Discovery) (fs : FileSystem) (root : Path) (around : Location)
    (directories : List Name) (name : Name) : Prop where
  file : fs.FileAt (around ++ (directories ++ [name]))
  entered : ∀ directory ∈ directories, Utf8.display directory ∉ discovery.excludes
  counts : ∀ skipped ∈ discovery.skip,
    ¬ Hides fs skipped ((directories ++ [name]).foldl Path.child root)
      (around ++ (directories ++ [name]))

/-- That such a file is to be found: its name has one of the extensions. -/
structure Wants (discovery : Discovery) (fs : FileSystem) (root : Path) (around : Location)
    (directories : List Name) (name : Name) : Prop extends
    discovery.Considers fs root around directories name where
  extended : ∃ extension ∈ discovery.extensions,
    Path.extensionOf? name = some (Name.ofString extension)

/-- That a directory is in the way of a search below another, given by the names on its way and its
own: none of them is passed over, and the directory cannot be listed. -/
structure Obstructs (discovery : Discovery) (fs : FileSystem) (around : Location)
    (names : List Name) (fault : SystemFault) : Prop where
  faulty : fs.listingFault? (around ++ names) = some fault
  entered : ∀ name ∈ names, Utf8.display name ∉ discovery.excludes

/-- What a search comes to: the files that it wants in the strict order of their paths, or the first
directory that is in its way. -/
inductive Outcome (discovery : Discovery) (fs : FileSystem) (root : Path) (around : Location) :
    Except SourceFailure (List Path) → Prop
  | all {paths : List Path}
      (unobstructed : ∀ names fault, ¬ discovery.Obstructs fs around names fault)
      (ordered : paths.Pairwise fun earlier later => earlier.compare later = .lt)
      (exactly : ∀ path, path ∈ paths ↔ ∃ directories name,
        discovery.Wants fs root around directories name ∧
          path = (directories ++ [name]).foldl Path.child root) :
      Outcome discovery fs root around (.ok paths)
  | obstructed {names : List Name} {fault : SystemFault}
      (obstructs : discovery.Obstructs fs around names fault)
      (first : ∀ others fault', discovery.Obstructs fs around others fault' → others = names ∨
        (names.foldl Path.child root).compare (others.foldl Path.child root) = .lt) :
      Outcome discovery fs root around
        (.error (failure root (names.foldl Path.child root, fault)))

/-- A path and the path under which a file is reached are one in canonical form if it leads to the
file, or leads nowhere and is spelled as the file's canonical path. -/
theorem same_normalized_iff (tree : fs.Treelike) {skipped : Path} {location : Location}
    (resolved : fs.resolve path = .ok location) :
    (normalized fs skipped).same (normalized fs path) ↔
      fs.resolve skipped = .ok location ∨
        (∃ fault, fs.resolve skipped = .error fault) ∧
          skipped.same (FileSystem.pathOf location) := by
  rw [normalized_of_resolve resolved]
  obtain ⟨node, present⟩ := Option.isSome_iff_exists.mp (tree.isSome_of_resolve resolved)
  cases leads : fs.resolve skipped with
  | error fault => simp [normalized_of_error leads]
  | ok place =>
      obtain ⟨node', presentToo⟩ := Option.isSome_iff_exists.mp (tree.isSome_of_resolve leads)
      rw [normalized_of_resolve leads, tree.same_pathOf_iff presentToo present]
      simp

/-- The path under which a file is reached leads to it if it leads anywhere. -/
theorem same_normalized_iff_hides (tree : fs.Treelike) {skipped : Path} {location : Location}
    (reached : ∀ place, fs.resolve path = .ok place → place = location) :
    (normalized fs skipped).same (normalized fs path) ↔ Hides fs skipped path location := by
  cases leads : fs.resolve path with
  | ok place =>
      obtain rfl := reached place leads
      rw [same_normalized_iff tree leads]
      constructor
      · rintro (resolved | ⟨⟨fault, lost⟩, same⟩)
        · exact .leads leads resolved
        · exact .spelled leads lost same
      · rintro (⟨-, resolved⟩ | ⟨-, lost, same⟩ | unreached | unreached)
        · exact .inl resolved
        · exact .inr ⟨⟨_, lost⟩, same⟩
        · cases leads.symm.trans unreached
        · cases leads.symm.trans unreached
  | error fault =>
      rw [normalized_of_error leads]
      constructor
      · intro same
        cases resolved : fs.resolve skipped with
        | ok place => exact .long leads resolved (normalized_of_resolve resolved ▸ same)
        | error fault' => exact .alike leads resolved (normalized_of_error resolved ▸ same)
      · rintro (reached | reached | ⟨-, resolved, same⟩ | ⟨-, lost, same⟩)
        · cases leads.symm.trans reached
        · cases leads.symm.trans reached
        · rwa [normalized_of_resolve resolved]
        · rwa [normalized_of_error lost]

theorem Considers.proper {directories : List Name} {name : Name}
    (considered : discovery.Considers fs root around directories name) (tree : fs.Treelike) :
    ∀ other ∈ directories ++ [name], other.IsProper := by
  obtain ⟨node, present, -⟩ := considered.file
  exact fun other member => (tree.proper present other (List.mem_append_right _ member)).1

/-- The names below a directory lead to a file there, if they lead anywhere. -/
theorem eq_of_resolve_foldl_child (tree : fs.Treelike) (resolved : fs.resolve root = .ok around)
    {names : List Name} (file : fs.FileAt (around ++ names)) {place : Location}
    (reached : fs.resolve (names.foldl Path.child root) = .ok place) : place = around ++ names := by
  obtain ⟨node, present, isFile⟩ := file
  have unlinked : ∀ target, node ≠ .link target := by
    rintro target rfl
    cases isFile
  have short := (FileSystem.resolveNames_eq_ok_iff.mp reached).2.1
  exact Except.ok.inj
    (reached.symm.trans (tree.resolve_foldl_child names resolved present unlinked short))

/-- A file that a search comes upon counts if none of the skipped paths hides it. -/
theorem skips_eq_false_iff (tree : fs.Treelike) (resolved : fs.resolve root = .ok around)
    {names : List Name} (file : fs.FileAt (around ++ names)) :
    discovery.skips fs (names.foldl Path.child root) = false ↔ ∀ skipped ∈ discovery.skip,
      ¬ Hides fs skipped (names.foldl Path.child root) (around ++ names) := by
  rw [skips, List.any_eq_false]
  exact forall₂_congr fun skipped _ => not_congr
    (same_normalized_iff_hides tree fun _ => eq_of_resolve_foldl_child tree resolved file)

/-- A search finds what it wants. -/
theorem mem_find_iff_wants (tree : fs.Treelike) (resolved : fs.resolve root = .ok around)
    (found : discovery.find fs root = .ok paths) :
    path ∈ paths ↔ ∃ directories name, discovery.Wants fs root around directories name ∧
      path = (directories ++ [name]).foldl Path.child root := by
  rw [mem_find_iff tree found]
  constructor
  · rintro ⟨location, comes, file, counts⟩
    cases comes with
    | @below other names resolvedToo inside entered extended =>
        obtain rfl := Except.ok.inj (resolved.symm.trans resolvedToo)
        obtain ⟨directories, name, rfl⟩ : ∃ directories name, names = directories ++ [name] :=
          ⟨_, _, (List.dropLast_concat_getLast inside).symm⟩
        have considered : discovery.Considers fs root around directories name := by
          refine ⟨file, ?_, (skips_eq_false_iff tree resolved file).mp counts⟩
          rw [List.dropLast_concat, List.any_eq_false] at entered
          simpa [excludesName] using entered
        rw [Path.hasExtension_iff, Path.extension?_foldl_child (considered.proper tree)] at extended
        exact ⟨directories, name, ⟨considered, extended⟩, rfl⟩
  · rintro ⟨directories, name, wanted, rfl⟩
    refine ⟨_, .below resolved (by simp) ?_ ?_, wanted.file,
      (skips_eq_false_iff tree resolved wanted.file).mpr wanted.counts⟩
    · rw [List.dropLast_concat, List.any_eq_false]
      simpa [excludesName] using wanted.entered
    · rw [Path.hasExtension_iff, Path.extension?_foldl_child (wanted.proper tree)]
      exact wanted.extended

/-- The directories in the way of a search are those that obstruct it. -/
theorem mem_obstacles_iff_obstructs (tree : fs.Treelike) {fault : SystemFault} :
    (path, fault) ∈ discovery.obstacles fs root around ↔
      ∃ names, discovery.Obstructs fs around names fault ∧ names.foldl Path.child root = path := by
  rw [mem_obstacles_iff tree]
  refine exists_congr fun names => ?_
  have entered : names.any discovery.excludesName = false ↔
      ∀ name ∈ names, Utf8.display name ∉ discovery.excludes := by
    simp [excludesName]
  rw [entered, ← and_assoc]
  exact and_congr_left fun _ => ⟨fun ⟨faulty, entered⟩ => ⟨faulty, entered⟩,
    fun obstructs => ⟨obstructs.faulty, obstructs.entered⟩⟩

theorem Obstructs.mem_obstacles {names : List Name} {fault : SystemFault}
    (obstructs : discovery.Obstructs fs around names fault) (tree : fs.Treelike) (root : Path) :
    (names.foldl Path.child root, fault) ∈ discovery.obstacles fs root around :=
  (mem_obstacles_iff_obstructs tree).mpr ⟨names, obstructs, rfl⟩

theorem Obstructs.proper {names : List Name} {fault : SystemFault}
    (obstructs : discovery.Obstructs fs around names fault) (tree : fs.Treelike) :
    ∀ name ∈ names, name.IsProper := by
  obtain ⟨node, present, -⟩ := Option.bind_eq_some_iff.mp obstructs.faulty
  exact fun name member => (tree.proper present name (List.mem_append_right _ member)).1

theorem pairwise_obstacles (discovery : Discovery) (fs : FileSystem) (root : Path)
    (around : Location) :
    (discovery.obstacles fs root around).Pairwise fun earlier later => earlier.1.le later.1 :=
  pairwise_mergeSort_isLE_by Prod.fst Path.compare _

/-- Found files stand in the strict order of their paths. -/
theorem pairwise_lt_find (tree : fs.Treelike) (found : discovery.find fs root = .ok paths) :
    paths.Pairwise fun earlier later => earlier.compare later = .lt :=
  pairwise_lt_of_isLE (pairwise_find found) (nodup_find tree found)
    fun _ member _ memberToo same => eq_of_components_eq tree found tree found member memberToo
      (Path.components_eq_of_compare_eq same)

/-- What is in the way of a search is known by its components. -/
theorem obstacle_eq_of_components_eq (tree : fs.Treelike) {obstacle other : Path × SystemFault}
    (member : obstacle ∈ discovery.obstacles fs root around)
    (memberToo : other ∈ discovery.obstacles fs root around)
    (same : obstacle.1.components = other.1.components) : obstacle = other := by
  obtain ⟨path, fault⟩ := obstacle
  obtain ⟨path', fault'⟩ := other
  obtain ⟨names, obstructs, rfl⟩ := (mem_obstacles_iff_obstructs tree).mp member
  obtain ⟨names', obstructsToo, rfl⟩ := (mem_obstacles_iff_obstructs tree).mp memberToo
  obtain rfl := Path.eq_of_components_foldl_child (obstructs.proper tree)
    (obstructsToo.proper tree) same
  obtain rfl := Option.some.inj (obstructs.faulty.symm.trans obstructsToo.faulty)
  rfl

theorem obstacles_relisted (tree : fs.Treelike) (relisted : fs.Relisted gs)
    (discovery : Discovery) (root : Path) (around : Location) :
    discovery.obstacles gs root around = discovery.obstacles fs root around := by
  have perm : (discovery.obstacles gs root around).Perm (discovery.obstacles fs root around) := by
    refine (List.mergeSort_perm _ _).trans (List.Perm.trans ?_ (List.mergeSort_perm _ _).symm)
    rw [relisted.node?_eq tree]
    exact ((relisted.nodes.filterMap _).append_left _).filterMap _
  refine perm.eq_of_pairwise ?_ (pairwise_obstacles ..) (pairwise_obstacles ..)
  intro obstacle other member memberToo before after
  exact obstacle_eq_of_components_eq tree (perm.mem_iff.mp member) memberToo
    (Path.components_eq_of_le before after)

/-- In which order directories list what is in them makes no difference to a search. -/
theorem find_relisted (tree : fs.Treelike) (relisted : fs.Relisted gs) (discovery : Discovery)
    (root : Path) : discovery.find gs root = discovery.find fs root := by
  have sameRoot := congrFun (relisted.resolve_eq tree) root
  have treeToo := relisted.treelike tree
  by_cases isDirectory : fs.isDirectory root
  · obtain ⟨around, resolved, directory⟩ := FileSystem.isDirectory_iff.mp isDirectory
    have directoryToo : gs.DirectoryAt around := by
      rwa [FileSystem.DirectoryAt, relisted.node?_eq tree]
    have same := obstacles_relisted tree relisted discovery root around
    cases obstacles : discovery.obstacles fs root around with
    | nil =>
        obtain ⟨paths, found⟩ := exists_find discovery resolved directory obstacles
        obtain ⟨others, foundToo⟩ := exists_find discovery (sameRoot.trans resolved) directoryToo
          (same.trans obstacles)
        have skips (path : Path) : discovery.skips gs path = discovery.skips fs path := by
          simp only [skips, normalized, FileSystem.canonical?, relisted.resolve_eq tree]
        rw [found, foundToo, find_unique treeToo foundToo tree found]
        intro path
        rw [mem_find_iff treeToo foundToo, mem_find_iff tree found, skips]
        simp only [FileSystem.FileAt, relisted.node?_eq tree]
        refine exists_congr fun location => and_congr_left fun _ => ?_
        exact ⟨fun comes => comes.of_resolve sameRoot.symm, fun comes => comes.of_resolve sameRoot⟩
    | cons obstacle others =>
        rw [find_eq_of_obstacles resolved directory obstacles,
          find_eq_of_obstacles (sameRoot.trans resolved) directoryToo (same.trans obstacles)]
  · rw [find, find, relisted.isDirectory_eq tree, if_neg isDirectory, if_neg isDirectory]

/-- The first of the directories in the way of a search comes before all others. -/
theorem exists_first_obstructs (tree : fs.Treelike) {obstacle : Path × SystemFault}
    {others : List (Path × SystemFault)}
    (obstacles : discovery.obstacles fs root around = obstacle :: others) :
    ∃ names fault, obstacle = (names.foldl Path.child root, fault) ∧
      discovery.Obstructs fs around names fault ∧
      ∀ others fault', discovery.Obstructs fs around others fault' → others = names ∨
        (names.foldl Path.child root).compare (others.foldl Path.child root) = .lt := by
  have member : obstacle ∈ discovery.obstacles fs root around := obstacles ▸ List.mem_cons_self
  obtain ⟨names, obstructs, isPath⟩ := (mem_obstacles_iff_obstructs tree).mp member
  refine ⟨names, obstacle.2, by rw [isPath], obstructs, fun names' fault' obstructsToo => ?_⟩
  have before : (names.foldl Path.child root).le (names'.foldl Path.child root) := by
    have memberToo := obstructsToo.mem_obstacles tree root
    have ordered := pairwise_obstacles discovery fs root around
    rw [obstacles] at memberToo ordered
    rw [isPath]
    rcases List.mem_cons.mp memberToo with same | later
    · rw [← same]
      exact Std.ReflCmp.isLE_rfl
    · exact (List.pairwise_cons.mp ordered).1 _ later
  cases compared : (names.foldl Path.child root).compare (names'.foldl Path.child root) with
  | lt => exact .inr rfl
  | eq =>
      exact .inl (Path.eq_of_components_foldl_child (obstructsToo.proper tree)
        (obstructs.proper tree) (Path.components_eq_of_compare_eq compared).symm)
  | gt =>
      rw [Path.le, compared] at before
      cases before

/-- A search that no directory is in the way of succeeds. -/
theorem exists_find_of_unobstructed (tree : fs.Treelike) (resolved : fs.resolve root = .ok around)
    (directory : fs.DirectoryAt around)
    (unobstructed : ∀ names fault, ¬ discovery.Obstructs fs around names fault) :
    ∃ paths, discovery.find fs root = .ok paths := by
  refine exists_find discovery resolved directory (List.eq_nil_iff_forall_not_mem.mpr ?_)
  rintro ⟨path, fault⟩ member
  obtain ⟨names, obstructs, -⟩ := (mem_obstacles_iff_obstructs tree).mp member
  exact unobstructed names fault obstructs

/-- **What a search comes to.** Below a directory of a tree of files, and in whatever order its
directories list what is in them, a search finds exactly the files that are wanted, in the strict
order of their paths; if directories are in its way, it fails at the first of them. -/
theorem find_exact (tree : fs.Treelike) (discovery : Discovery)
    (resolved : fs.resolve root = .ok around) (directory : fs.DirectoryAt around) :
    ∃ outcome, Outcome discovery fs root around outcome ∧
      ∀ gs, fs.Relisted gs → discovery.find gs root = outcome := by
  refine ⟨discovery.find fs root, ?_, fun gs relisted =>
    find_relisted tree relisted discovery root⟩
  cases obstacles : discovery.obstacles fs root around with
  | nil =>
      obtain ⟨paths, found⟩ := exists_find discovery resolved directory obstacles
      rw [found]
      refine .all (fun names fault obstructs => ?_) (pairwise_lt_find tree found)
        fun path => mem_find_iff_wants tree resolved found
      have member := obstructs.mem_obstacles tree root
      rw [obstacles] at member
      cases member
  | cons obstacle others =>
      obtain ⟨names, fault, rfl, obstructs, first⟩ := exists_first_obstructs tree obstacles
      rw [find_eq_of_obstacles resolved directory obstacles]
      exact .obstructed obstructs first

end Discovery

/-- A directory `/lib.ts` with a file of its own name further down, a directory of that name, a
directory whose name only contains it, a link and a generated module; the two directories in it that
are to be looked into are of one kind. -/
def FileSystem.sameNames (kind : Node) : FileSystem where
  nodes :=
    [([.ofString "lib.ts"], .directory),
      ([.ofString "lib.ts", .ofString "z.ts"], .file .empty),
      ([.ofString "lib.ts", .ofString "l.ts"], .link (.ofString "z.ts")),
      ([.ofString "lib.ts", .ofString "gen.ts"], .file .empty),
      ([.ofString "lib.ts", .ofString "lib.ts"], .broken (.numbered 13)),
      ([.ofString "lib.ts", .ofString "a-lib.ts"], .directory),
      ([.ofString "lib.ts", .ofString "a-lib.ts", .ofString "y.ts"], .unreadable 1 (.numbered 13)),
      ([.ofString "lib.ts", .ofString "a-lib.ts", .ofString "b"], kind),
      ([.ofString "lib.ts", .ofString "a"], .directory),
      ([.ofString "lib.ts", .ofString "a", .ofString "lib.ts"], .file .empty),
      ([.ofString "lib.ts", .ofString "a", .ofString "b"], kind)]

/-- Passing over `lib.ts` hides the directory of that name below `/lib.ts` and nothing else, also
when everything is listed backwards; `a/` comes before `a-lib.ts/`, and if neither directory in them
can be listed the search fails at the one in `a/`. -/
theorem Discovery.find_exact_of_same_names :
    (FileSystem.sameNames .directory).Treelike ∧
      Discovery.find ⟨["ts"], ["lib.ts"], [.ofString "/lib.ts/a/../gen.ts"]⟩
          ⟨(FileSystem.sameNames .directory).nodes.reverse, []⟩ (.ofString "/lib.ts") =
        .ok [.ofString "/lib.ts/a/lib.ts", .ofString "/lib.ts/a-lib.ts/y.ts",
          .ofString "/lib.ts/z.ts"] ∧
      Discovery.find ⟨["ts"], ["lib.ts"], [.ofString "/lib.ts/a/../gen.ts"]⟩
          ⟨(FileSystem.sameNames (.broken (.numbered 5))).nodes.reverse, []⟩
          (.ofString "/lib.ts") =
        .error (.walkFailed (.ofString "/lib.ts") ("/lib.ts/a/b: IO error for operation on " ++
          "/lib.ts/a/b: Input/output error (os error 5)")) := by
  have facts : ∀ kind ∈ [Node.directory, .broken (.numbered 5)],
      (FileSystem.sameNames kind).Treelike ∧
        (FileSystem.sameNames kind).resolve (.ofString "/lib.ts") = .ok [Name.ofString "lib.ts"] ∧
        (FileSystem.sameNames kind).DirectoryAt [.ofString "lib.ts"] := by
    decide +kernel
  have backwards : ∀ kind ∈ [Node.directory, .broken (.numbered 5)],
      Discovery.find ⟨["ts"], ["lib.ts"], [.ofString "/lib.ts/a/../gen.ts"]⟩
          ⟨(FileSystem.sameNames kind).nodes.reverse, []⟩ (.ofString "/lib.ts") =
        Discovery.find ⟨["ts"], ["lib.ts"], [.ofString "/lib.ts/a/../gen.ts"]⟩
          (FileSystem.sameNames kind) (.ofString "/lib.ts") := by
    intro kind member
    obtain ⟨tree, resolved, directory⟩ := facts kind member
    obtain ⟨_, -, found⟩ := find_exact tree
      ⟨["ts"], ["lib.ts"], [.ofString "/lib.ts/a/../gen.ts"]⟩ resolved directory
    rw [found ⟨(FileSystem.sameNames kind).nodes.reverse, []⟩ ⟨rfl, List.reverse_perm _⟩,
      ← found _ ⟨rfl, List.Perm.refl _⟩]
  refine ⟨(facts _ (by simp)).1, ?_, ?_⟩
  · obtain ⟨-, resolved, directory⟩ := facts .directory (by simp)
    rw [backwards _ (by simp)]
    exact find_eq_of_perm resolved directory (by decide +kernel) (by decide +kernel)
      (by decide +kernel)
  · obtain ⟨-, resolved, directory⟩ := facts (.broken (.numbered 5)) (by simp)
    have obstacles : Discovery.obstacles
        ⟨["ts"], ["lib.ts"], [.ofString "/lib.ts/a/../gen.ts"]⟩
        (FileSystem.sameNames (.broken (.numbered 5))) (.ofString "/lib.ts")
        [.ofString "lib.ts"] = [(.ofString "/lib.ts/a/b", .numbered 5),
          (.ofString "/lib.ts/a-lib.ts/b", .numbered 5)] :=
      mergeSort_eq_of_perm Prod.fst Path.compare (by decide +kernel) (by decide +kernel)
    rw [backwards _ (by simp), find_eq_of_obstacles resolved directory obstacles]
    decide +kernel

end TypedQueries
