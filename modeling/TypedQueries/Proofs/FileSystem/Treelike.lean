import Mathlib.Data.List.Nodup
import TypedQueries.Proofs.FileSystem.Temporary

/-! # Trees of files

In a file system that is a tree (`FileSystem.Treelike`) every location has one entry, and whatever
there is lies in an open directory under a proper name; links may lead anywhere. So its entries are
what there is at their locations (`Treelike.mem_nodes_iff`), and names below a directory lead to
what is there unless that is a link (`Treelike.resolve_foldl_child`). In which order the entries are
listed (`FileSystem.Relisted`) makes no difference to where paths lead (`Relisted.resolve_eq`).
-/

namespace TypedQueries

namespace FileSystem

variable {fs gs : FileSystem} {location : Location} {names : List Name} {name : Name} {node : Node}

theorem mem_below_iff_mem_nodes :
    (names, node) ∈ fs.below location ↔ names ≠ [] ∧ (location ++ names, node) ∈ fs.nodes := by
  simp only [below, List.mem_filterMap, Option.ite_none_right_eq_some, Option.some.injEq,
    Bool.and_eq_true, List.isPrefixOf_iff_prefix, decide_eq_true_eq]
  constructor
  · rintro ⟨⟨whole, other⟩, present, ⟨⟨rest, isWhole⟩, longer⟩, same⟩
    obtain rfl : location ++ rest = whole := isWhole
    dsimp only at same longer
    rw [List.drop_left] at same
    cases same
    refine ⟨?_, present⟩
    rintro rfl
    simp at longer
  · rintro ⟨inside, present⟩
    refine ⟨_, present, ⟨List.prefix_append _ _, ?_⟩, by rw [List.drop_left]⟩
    simpa using List.length_pos_iff.mpr inside

theorem mem_children_iff {name : Name} :
    (name, node) ∈ fs.children location ↔ (location ++ [name], node) ∈ fs.nodes := by
  rw [children, List.mem_filterMap]
  constructor
  · rintro ⟨entry, member, single⟩
    split at single <;> cases single
    exact (mem_below_iff_mem_nodes.mp member).2
  · intro present
    exact ⟨([name], node), mem_below_iff_mem_nodes.mpr ⟨by simp, present⟩, rfl⟩

/-- Where locations have one entry each, it is what there is. -/
theorem node?_eq_some_iff (distinct : (fs.nodes.map Prod.fst).Nodup) (inside : location ≠ []) :
    fs.node? location = some node ↔ (location, node) ∈ fs.nodes := by
  rw [node?_of_ne_nil _ inside, List.lookup_eq_some_iff]
  constructor
  · rintro ⟨before, after, parts, -⟩
    rw [parts]
    exact List.mem_append_right _ List.mem_cons_self
  · intro member
    obtain ⟨before, after, parts⟩ := List.append_of_mem member
    refine ⟨before, after, parts, fun entry earlier => ?_⟩
    rw [parts, List.map_append, List.nodup_append] at distinct
    have apart := distinct.2.2 entry.1 (List.mem_map_of_mem earlier) location
      (List.mem_map_of_mem (f := Prod.fst) (List.mem_cons_self (a := (location, node))))
    exact bne_iff_ne.mpr (Ne.symm apart)

/-- That there is one entry at most for a location, and proper names only, and that whatever there
is lies in an open directory. -/
structure Treelike (fs : FileSystem) : Prop where
  distinct : (fs.nodes.map Prod.fst).Nodup
  inside : ∀ entry ∈ fs.nodes, entry.1 ≠ [] ∧ fs.node? entry.1.dropLast = some .directory
  named : ∀ entry ∈ fs.nodes, ∀ name ∈ entry.1, Name.IsProper name ∧ name.length ≤ nameLimit

instance (node : Option Node) : Decidable (node = some .directory) :=
  match node with
  | some .directory => isTrue rfl
  | none | some (.file _) | some (.unreadable ..) | some .closed | some (.broken _)
  | some (.link _) => isFalse nofun

instance (fs : FileSystem) : Decidable fs.Treelike :=
  decidable_of_iff
    ((fs.nodes.map Prod.fst).Nodup ∧
      (∀ entry ∈ fs.nodes, entry.1 ≠ [] ∧ fs.node? entry.1.dropLast = some .directory) ∧
      ∀ entry ∈ fs.nodes, ∀ name ∈ entry.1, Name.IsProper name ∧ name.length ≤ nameLimit)
    ⟨fun ⟨distinct, inside, named⟩ => ⟨distinct, inside, named⟩,
      fun tree => ⟨tree.distinct, tree.inside, tree.named⟩⟩

namespace Treelike

theorem mem_nodes_iff (tree : fs.Treelike) :
    (location, node) ∈ fs.nodes ↔ location ≠ [] ∧ fs.node? location = some node := by
  constructor
  · intro member
    have inside := (tree.inside _ member).1
    exact ⟨inside, (node?_eq_some_iff tree.distinct inside).mpr member⟩
  · rintro ⟨inside, present⟩
    exact (node?_eq_some_iff tree.distinct inside).mp present

theorem opened (tree : fs.Treelike) (inside : location ≠ [])
    (present : fs.node? location = some node) :
    fs.node? location.dropLast = some .directory :=
  (tree.inside _ (tree.mem_nodes_iff.mpr ⟨inside, present⟩)).2

/-- Something lies below open directories only. -/
theorem opened_of_below (tree : fs.Treelike) (inside : names ≠ [])
    (present : fs.node? (location ++ names) = some node) :
    fs.node? location = some .directory := by
  induction names using List.reverseRecOn generalizing node with
  | nil => exact absurd rfl inside
  | append_singleton names name ih =>
      have opened : fs.node? (location ++ names) = some .directory := by
        rw [← List.append_assoc] at present
        simpa using tree.opened (by simp) present
      by_cases last : names = []
      · simpa [last] using opened
      · exact ih last opened

theorem proper (tree : fs.Treelike) (present : fs.node? location = some node) :
    ∀ name ∈ location, Name.IsProper name ∧ name.length ≤ nameLimit := by
  by_cases inside : location = []
  · simp [inside]
  · exact tree.named _ (tree.mem_nodes_iff.mpr ⟨inside, present⟩)

theorem mem_below_iff (tree : fs.Treelike) :
    (names, node) ∈ fs.below location ↔
      names ≠ [] ∧ fs.node? (location ++ names) = some node := by
  rw [mem_below_iff_mem_nodes, tree.mem_nodes_iff]
  simp +contextual

/-- What lies below a location is there once. -/
theorem pairwise_below (tree : fs.Treelike) (location : Location) :
    (fs.below location).Pairwise fun entry other => entry.1 ≠ other.1 := by
  refine List.pairwise_filterMap.mpr ((List.pairwise_map.mp tree.distinct).imp ?_)
  intro entry other differs first found second foundToo same
  simp only [Option.ite_none_right_eq_some, Option.some.injEq, Bool.and_eq_true,
    List.isPrefixOf_iff_prefix] at found foundToo
  obtain ⟨⟨⟨names, whole⟩, _⟩, rfl⟩ := found
  obtain ⟨⟨⟨names', whole'⟩, _⟩, rfl⟩ := foundToo
  simp only [← whole, ← whole', List.drop_left] at same
  exact differs (by rw [← whole, ← whole', show names = names' from same])

/-- Where all that there is can be listed, everything can. -/
theorem listingFault?_eq_none (tree : fs.Treelike)
    (listed : ∀ entry ∈ fs.nodes, entry.2.listingFault? = none) (location : Location) :
    fs.listingFault? location = none := by
  refine Option.bind_eq_none_iff.mpr fun node present => ?_
  by_cases inside : location = []
  · subst inside
    obtain rfl := Option.some.inj present
    rfl
  · exact listed _ (tree.mem_nodes_iff.mpr ⟨inside, present⟩)

theorem mem_children_iff (tree : fs.Treelike) {name : Name} :
    (name, node) ∈ fs.children location ↔ fs.node? (location ++ [name]) = some node := by
  rw [FileSystem.mem_children_iff, tree.mem_nodes_iff]
  simp

theorem nodup_children (tree : fs.Treelike) (location : Location) :
    ((fs.children location).map Prod.fst).Nodup := by
  refine List.pairwise_map.mpr (List.pairwise_filterMap.mpr
    ((tree.pairwise_below location).imp ?_))
  rintro ⟨names, node⟩ ⟨names', node'⟩ differs ⟨name, _⟩ found ⟨name', _⟩ foundToo same
  obtain rfl : name = name' := same
  refine differs (Eq.trans (b := [name]) ?_ (Eq.symm ?_))
  · split at found <;> cases found
    rename_i whole
    exact congrArg Prod.fst whole
  · split at foundToo <;> cases foundToo
    rename_i whole
    exact congrArg Prod.fst whole

/-- Names below a directory lead to what is there, unless that is a link or their path is too
long. -/
theorem resolve_foldl_child (tree : fs.Treelike) {root : Path} (names : List Name)
    (resolved : fs.resolve root = .ok location)
    (present : fs.node? (location ++ names) = some node) (unlinked : ∀ target, node ≠ .link target)
    (short : (names.foldl Path.child root).bytes.length < pathLimit) :
    fs.resolve (names.foldl Path.child root) = .ok (location ++ names) := by
  induction names using List.reverseRecOn generalizing node with
  | nil => rwa [List.append_nil]
  | append_singleton names name ih =>
      rw [List.foldl_append, List.foldl_cons, List.foldl_nil] at short ⊢
      rw [← List.append_assoc] at present ⊢
      obtain ⟨proper, nameShort⟩ := tree.proper present name (by simp)
      have opened : fs.node? (location ++ names) = some .directory := by
        simpa using tree.opened (by simp) present
      have before := ih opened (fun _ => Node.noConfusion)
        (Nat.lt_of_le_of_lt (Path.length_le_length_child proper) short)
      have entry : name.IsEntry :=
        ⟨proper.nonempty, proper.not_dot, proper.not_dotDot, nameShort⟩
      have found : fs.spot .busy ((names.foldl Path.child root).child name) =
          .ok ⟨location ++ names, name, false⟩ :=
        spot_child proper entry (resolveNames_silent before (.of_directory opened)) short
      exact resolve_of_spot found opened present unlinked

/-- What lies in a directory and is no link leads to a file if it is one and its path is not too
long. -/
theorem isFile_child_iff (tree : fs.Treelike) {directory : Path} {name : Name}
    (resolved : fs.resolve directory = .ok location)
    (present : fs.node? (location ++ [name]) = some node)
    (unlinked : ∀ target, node ≠ .link target) :
    fs.isFile (directory.child name) ↔
      node.isFile ∧ (directory.child name).bytes.length < pathLimit := by
  have leads := tree.resolve_foldl_child [name] resolved present unlinked
  rw [isFile_iff]
  constructor
  · rintro ⟨place, found, file⟩
    have short := (resolveNames_eq_ok_iff.mp found).2.1
    obtain rfl : place = location ++ [name] := Except.ok.inj (found.symm.trans (leads short))
    exact ⟨(fileAt_iff present).mp file, short⟩
  · rintro ⟨isFile, short⟩
    exact ⟨_, leads short, node, present, isFile⟩

theorem isSome_of_leads (tree : fs.Treelike) {links : Nat} {place : Location} {names : List Name}
    (leads : fs.Leads links place names location) (present : (fs.node? place).isSome) :
    (fs.node? location).isSome := by
  induction leads with
  | here => exact present
  | stay directory silent leads ih => exact ih present
  | @up links place location rest directory leads ih =>
      refine ih ?_
      by_cases inside : place = []
      · rw [inside]
        rfl
      · obtain ⟨node, is⟩ := Option.isSome_iff_exists.mp present
        rw [tree.opened inside is]
        rfl
  | enter directory entry further unlinked leads ih =>
      refine ih ?_
      rw [further]
      rfl
  | through directory entry further leads ih =>
      refine ih ?_
      split
      · rfl
      · exact present

/-- A path that leads somewhere leads to something. -/
theorem isSome_of_resolve (tree : fs.Treelike) {path : Path}
    (resolved : fs.resolve path = .ok location) : (fs.node? location).isSome := by
  have leads := (resolveNames_eq_ok_iff.mp resolved).2.2
  refine tree.isSome_of_leads leads ?_
  obtain ⟨name, names, parts⟩ := List.exists_cons_of_ne_nil (Path.split_ne_nil path.bytes)
  rw [parts] at leads
  exact leads.directoryAt_of_cons.isSome

end Treelike

/-- That another file system has the same entries, listed in any order. -/
structure Relisted (fs gs : FileSystem) : Prop where
  here : gs.here = fs.here
  nodes : gs.nodes.Perm fs.nodes

section Congruence

variable (same : gs.node? = fs.node?)

include same

theorem walk_congr {follow : Location → List Name → Except SystemFault Location} :
    gs.walk follow = fs.walk follow := by
  funext place names
  induction names generalizing place with
  | nil => rfl
  | cons name names ih => rw [walk, walk, same, ih, ih, ih]

theorem follow_congr (links : Nat) : gs.follow links = fs.follow links := by
  induction links with
  | zero => exact walk_congr same
  | succ links ih => rw [follow, follow, walk_congr same, ih]

end Congruence

namespace Relisted

variable (relisted : fs.Relisted gs) (tree : fs.Treelike)

include relisted tree

theorem node?_eq : gs.node? = fs.node? := by
  funext location
  by_cases inside : location = []
  · rw [inside, node?_nil, node?_nil]
  · have distinct : (gs.nodes.map Prod.fst).Nodup :=
      (relisted.nodes.map Prod.fst).nodup_iff.mpr tree.distinct
    refine Option.ext fun node => ?_
    rw [node?_eq_some_iff distinct inside, relisted.nodes.mem_iff,
      node?_eq_some_iff tree.distinct inside]

theorem treelike : gs.Treelike where
  distinct := (relisted.nodes.map Prod.fst).nodup_iff.mpr tree.distinct
  inside entry member := by
    rw [relisted.node?_eq tree]
    exact tree.inside entry (relisted.nodes.mem_iff.mp member)
  named entry member := tree.named entry (relisted.nodes.mem_iff.mp member)

theorem resolve_eq : gs.resolve = fs.resolve := by
  funext path
  rw [resolve, resolve, resolveNames, resolveNames, relisted.here,
    follow_congr (relisted.node?_eq tree)]

theorem at?_eq : gs.at? = fs.at? := by
  funext path
  rw [at?, at?, relisted.resolve_eq tree, relisted.node?_eq tree]

theorem isDirectory_eq : gs.isDirectory = fs.isDirectory := by
  funext path
  rw [isDirectory, isDirectory, relisted.at?_eq tree]

theorem isFile_eq : gs.isFile = fs.isFile := by
  funext path
  rw [isFile, isFile, relisted.at?_eq tree]

theorem readText_eq : gs.readText = fs.readText := by
  funext path
  rw [readText, readText, read, read, relisted.at?_eq tree]

end Relisted

end FileSystem

end TypedQueries
