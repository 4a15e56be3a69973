import TypedQueries.Proofs.FileSystem.Treelike

/-! # Plain file systems

A plain file system (`FileSystem.Plain`) is a tree without links: every location has one entry, and
whatever there is lies in an open directory under a proper name. Changes keep file systems plain.
-/

namespace TypedQueries

theorem Path.unseparated_of_mem_split {bytes : List UInt8} {name : Name}
    (member : name ∈ split bytes) : slash ∉ name := by
  induction bytes generalizing name with
  | nil =>
      rw [List.mem_singleton.mp member]
      exact List.not_mem_nil
  | cons b bytes ih =>
      rw [split] at member
      split at member
      · rcases List.mem_cons.mp member with rfl | later
        · exact List.not_mem_nil
        · exact ih later
      · next other =>
        cases parts : split bytes with
        | nil => exact absurd parts (split_ne_nil bytes)
        | cons first names =>
            rw [parts] at member ih
            rcases List.mem_cons.mp member with rfl | later
            · rw [List.mem_cons, not_or]
              exact ⟨fun same => other same.symm, ih List.mem_cons_self⟩
            · exact ih (List.mem_cons_of_mem _ later)

namespace FileSystem

variable {fs gs hs : FileSystem} {location directory other : Location} {name : Name} {node : Node}

/-- That there are no links, one entry at most for a location, and proper names only, and that
whatever there is lies in an open directory. -/
structure Plain (fs : FileSystem) : Prop where
  distinct : (fs.nodes.map Prod.fst).Nodup
  inside : ∀ entry ∈ fs.nodes, entry.1 ≠ [] ∧ fs.node? entry.1.dropLast = some .directory
  named : ∀ entry ∈ fs.nodes, ∀ name ∈ entry.1, Name.IsProper name ∧ name.length ≤ nameLimit
  unlinked : ∀ entry ∈ fs.nodes, ∀ target, entry.2 ≠ .link target

instance (node : Node) : Decidable (∀ target, node ≠ .link target) :=
  match node with
  | .link target => isFalse fun unlinked => unlinked target rfl
  | .file _ | .unreadable .. | .directory | .closed | .broken _ => isTrue fun _ => nofun

instance (fs : FileSystem) : Decidable fs.Plain :=
  decidable_of_iff
    ((fs.nodes.map Prod.fst).Nodup ∧
      (∀ entry ∈ fs.nodes, entry.1 ≠ [] ∧ fs.node? entry.1.dropLast = some .directory) ∧
      (∀ entry ∈ fs.nodes, ∀ name ∈ entry.1, Name.IsProper name ∧ name.length ≤ nameLimit) ∧
      ∀ entry ∈ fs.nodes, ∀ target, entry.2 ≠ .link target)
    ⟨fun ⟨distinct, inside, named, unlinked⟩ => ⟨distinct, inside, named, unlinked⟩,
      fun plain => ⟨plain.distinct, plain.inside, plain.named, plain.unlinked⟩⟩

namespace Plain

theorem treelike (plain : fs.Plain) : fs.Treelike := ⟨plain.distinct, plain.inside, plain.named⟩

theorem opened (plain : fs.Plain) (inside : location ≠ [])
    (present : fs.node? location = some node) :
    fs.node? location.dropLast = some .directory :=
  plain.treelike.opened inside present

theorem sound (plain : fs.Plain) : fs.Sound := by
  intro location node present
  by_cases inside : location = []
  · rw [inside]
    exact .of_directory rfl
  · exact .of_directory (plain.opened inside present)

theorem ne_link (plain : fs.Plain) (target : Path) : fs.node? location ≠ some (.link target) := by
  intro present
  by_cases inside : location = []
  · rw [inside] at present
    cases present
  · exact plain.unlinked _ (plain.treelike.mem_nodes_iff.mpr ⟨inside, present⟩) target rfl

theorem proper (plain : fs.Plain) (present : fs.node? location = some node) :
    ∀ name ∈ location, Name.IsProper name ∧ name.length ≤ nameLimit :=
  plain.treelike.proper present

theorem put (plain : fs.Plain) (opened : fs.node? directory = some .directory)
    (proper : name.IsProper) (short : name.length ≤ nameLimit)
    (unlinked : ∀ target, node ≠ .link target)
    (kept : fs.node? (directory ++ [name]) = some .directory → node = .directory) :
    (fs.put (directory ++ [name]) node).Plain where
  distinct := by
    rw [FileSystem.put, List.map_cons, List.nodup_cons]
    refine ⟨?_, ?_⟩
    · simp
    · exact plain.distinct.sublist (List.filter_sublist.map _)
  inside := by
    rw [FileSystem.put, List.forall_mem_cons]
    refine ⟨⟨by simp, ?_⟩, fun entry member => ?_⟩
    · rw [List.dropLast_concat]
      exact (node?_put_of_ne (by simp)).trans opened
    · obtain ⟨present, -⟩ := List.mem_filter.mp member
      obtain ⟨inside, isDirectory⟩ := plain.inside entry present
      refine ⟨inside, ?_⟩
      by_cases here : entry.1.dropLast = directory ++ [name]
      · rw [here] at isDirectory ⊢
        exact (node?_put_self (by simp)).trans (congrArg some (kept isDirectory))
      · exact (node?_put_of_ne here).trans isDirectory
  named := by
    rw [FileSystem.put, List.forall_mem_cons]
    refine ⟨?_, fun entry member => plain.named entry (List.mem_filter.mp member).1⟩
    rw [List.forall_mem_append, List.forall_mem_singleton]
    exact ⟨plain.proper opened, proper, short⟩
  unlinked := by
    rw [FileSystem.put, List.forall_mem_cons]
    exact ⟨unlinked, fun entry member => plain.unlinked entry (List.mem_filter.mp member).1⟩

theorem erase (plain : fs.Plain) (location : Location) : (fs.erase location).Plain where
  distinct := plain.distinct.sublist (List.filter_sublist.map _)
  inside := by
    intro entry member
    obtain ⟨present, outside⟩ := List.mem_filter.mp member
    obtain ⟨inside, isDirectory⟩ := plain.inside entry present
    refine ⟨inside, ?_⟩
    rw [node?_erase_of_apart, isDirectory]
    intro within
    rw [Bool.not_eq_true', ← Bool.not_eq_true, List.isPrefixOf_iff_prefix] at outside
    exact outside (within.trans (List.dropLast_prefix _))
  named entry member := plain.named entry (List.mem_filter.mp member).1
  unlinked entry member := plain.unlinked entry (List.mem_filter.mp member).1

end Plain

/-- A path ends in a proper name. -/
theorem isProper_of_spot {unnamed : SystemFault} {path : Path} {spot : Spot}
    (found : fs.spot unnamed path = .ok spot) :
    spot.name.IsProper ∧ spot.name.length ≤ nameLimit := by
  obtain ⟨entry, before, after, parts, -⟩ := exists_of_spot found
  refine ⟨⟨entry.nonempty, entry.not_dot, entry.not_dotDot, ?_⟩, entry.short⟩
  have member : spot.name ∈ Path.split path.bytes := by
    rw [parts]
    exact List.mem_append_right _ List.mem_cons_self
  exact Path.unseparated_of_mem_split member

namespace Plain

theorem makeDirectory (plain : fs.Plain) (path : Path) : (fs.makeDirectory path).2.Plain := by
  rw [FileSystem.makeDirectory]
  cases found : fs.spot .occupied path with
  | error fault => exact plain
  | ok spot =>
      dsimp only
      split
      · exact plain
      next unclosed =>
      split
      · exact plain
      obtain ⟨proper, short⟩ := isProper_of_spot found
      exact plain.put ((directoryAt_of_spot found).eq_directory unclosed) proper short
        (fun _ => Node.noConfusion) fun _ => rfl

theorem ensureDirectory (plain : fs.Plain) (path : Path) : (fs.ensureDirectory path).2.Plain := by
  have made := plain.makeDirectory path
  rw [FileSystem.ensureDirectory]
  split <;> next outcome => rwa [outcome] at made

theorem makeAll (plain : fs.Plain) (paths : List Path) : (fs.makeAll paths).2.Plain := by
  induction paths generalizing fs with
  | nil => exact plain
  | cons path outer ih =>
      have first := plain.ensureDirectory path
      rw [FileSystem.makeAll]
      split
      · next fault gs made =>
        rw [made] at first
        split
        · have further := ih first
          split
          · next hs made =>
            rw [made] at further
            exact further.ensureDirectory path
          · next made => rwa [made] at further
        · exact first
      · next made => rwa [made] at first

theorem makeDirectories (plain : fs.Plain) (path : Path) : (fs.makeDirectories path).2.Plain :=
  plain.makeAll _

theorem makeTemporaryNamed (plain : fs.Plain) {choose : Location → Name} {around temporary : Path}
    (chooses : fs.Chooses choose)
    (made : fs.makeTemporaryNamed choose around = (.ok temporary, gs)) : gs.Plain := by
  simp only [FileSystem.makeTemporaryNamed] at made
  generalize (pathOf fs.here).join around = base at made
  split at made
  · cases made
  next location resolved =>
  split at made
  · cases made
  next long =>
  split at made
  · cases made
  next unclosed =>
  cases made
  obtain ⟨-, short⟩ := by simpa using long
  have opened := (resolveNames_eq_ok_iff.mp resolved).2.2.directoryAt.eq_directory unclosed
  refine plain.put opened (chooses location).1.proper short (fun _ => Node.noConfusion) ?_
  intro present
  cases (chooses location).2.symm.trans present

end Plain

namespace HasTemporary

variable {temporary target : Path} {content : ByteArray}

theorem plain_fill (holds : fs.HasTemporary temporary directory name content gs) (plain : gs.Plain)
    {text : ByteArray} (filled : gs.fill temporary text = (.ok (), hs)) : hs.Plain := by
  rw [FileSystem.fill, holds.resolve] at filled
  cases filled
  have present := holds.adds.file
  obtain ⟨proper, short⟩ := plain.proper present name (by simp)
  refine plain.put ?_ proper short (fun _ => Node.noConfusion) fun isDirectory => ?_
  · simpa using plain.opened (by simp) present
  · cases present.symm.trans isDirectory

theorem plain_rename (holds : fs.HasTemporary temporary directory name content gs)
    (sound : fs.Sound) (plain : gs.Plain) (renamed : gs.rename temporary target = (.ok (), hs)) :
    hs.Plain := by
  obtain ⟨place, replaces⟩ := holds.rename sound renamed
  have erased := holds.node?_erase sound
  simp only [FileSystem.rename, holds.resolve] at renamed
  split at renamed
  · cases renamed
  · cases renamed
  next spot same found =>
  cases same
  split at renamed
  · cases renamed
  split at renamed
  · cases renamed
  next unslashed =>
  split at renamed
  · cases renamed
  obtain ⟨around, last, slashed⟩ := spot
  obtain rfl : slashed = false := by simpa using unslashed
  obtain rfl : ⟨around, last, false⟩ = place := Except.ok.inj
    ((spot_of_retains holds.adds.retains_before found).symm.trans replaces.spot)
  have whole : hs = (gs.erase (directory ++ [name])).put (around ++ [last]) (.file content) := by
    rw [holds.adds.file] at renamed
    exact (congrArg Prod.snd renamed).symm
  obtain ⟨proper, short⟩ := isProper_of_spot found
  rw [whole]
  refine (plain.erase _).put ?_ proper short (fun _ => Node.noConfusion) fun isDirectory => ?_
  · rw [erased, replaces.opened]
  · rw [erased] at isDirectory
    exact absurd (.of_directory isDirectory) replaces.unobstructed

end HasTemporary

end FileSystem

end TypedQueries
