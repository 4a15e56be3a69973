import Mathlib.Data.List.Induction
import TypedQueries.Proofs.FileSystem.Leading

/-! # What changes leave

Making directories adds directories and nothing else (`FileSystem.GrowsTo`). A temporary file is
the only thing that is new while it is there (`FileSystem.AddsFile`); removing it undoes that, and
so does putting it in the place of another file, which then is the only thing that has changed
(`HasTemporary.rename`).
-/

namespace TypedQueries

namespace FileSystem

variable {fs gs : FileSystem} {location other : Location}

theorem lookup_filter (keeps : Location → Bool) (nodes : List (Location × Node))
    (location : Location) :
    (nodes.filter fun entry => keeps entry.1).lookup location =
      if keeps location then nodes.lookup location else none := by
  induction nodes with
  | nil => simp
  | cons entry nodes ih =>
      obtain ⟨first, node⟩ := entry
      rw [List.filter_cons]
      by_cases same : location = first
      · subst same
        cases kept : keeps location <;> simp [kept, ih]
      · have skipped : (location == first) = false := beq_false_of_ne same
        cases kept : keeps first <;> simp [ih, List.lookup_cons, skipped]

theorem node?_put_self {node : Node} (inside : location ≠ []) :
    (fs.put location node).node? location = some node := by
  rw [node?_of_ne_nil _ inside, put, List.lookup_cons_self]

theorem node?_put_of_ne {node : Node} (differs : other ≠ location) :
    (fs.put location node).node? other = fs.node? other := by
  by_cases inside : other = []
  · rw [inside, node?_nil, node?_nil]
  · have skipped : (other == location) = false := beq_false_of_ne differs
    rw [node?_of_ne_nil _ inside, node?_of_ne_nil _ inside, put, List.lookup_cons, skipped]
    exact (lookup_filter (fun key => decide (key ≠ location)) fs.nodes other).trans
      (if_pos (decide_eq_true differs))

theorem node?_erase_of_apart (apart : ¬ location <+: other) :
    (fs.erase location).node? other = fs.node? other := by
  by_cases inside : other = []
  · rw [inside, node?_nil, node?_nil]
  · rw [node?_of_ne_nil _ inside, node?_of_ne_nil _ inside, erase,
      lookup_filter (fun key => !location.isPrefixOf key)]
    simp [apart]

theorem node?_erase_of_within (inside : other ≠ []) (within : location <+: other) :
    (fs.erase location).node? other = none := by
  rw [node?_of_ne_nil _ inside, erase, lookup_filter (fun key => !location.isPrefixOf key),
    List.isPrefixOf_iff_prefix.mpr within]
  rfl

/-- That whatever there is lies in a directory. -/
def Sound (fs : FileSystem) : Prop :=
  ∀ {location : Location} {node : Node}, fs.node? location = some node →
    fs.DirectoryAt location.dropLast

theorem sound_of_nodes (inside : ∀ entry ∈ fs.nodes, fs.DirectoryAt entry.1.dropLast) :
    fs.Sound := by
  intro location node present
  by_cases below : location = []
  · rw [below]
    exact .of_directory rfl
  · rw [node?_of_ne_nil _ below] at present
    obtain ⟨before, after, parts, -⟩ := List.lookup_eq_some_iff.mp present
    refine inside (location, node) ?_
    rw [parts]
    exact List.mem_append_right _ List.mem_cons_self

/-- What lies below a location lies in a directory there. -/
theorem Sound.directoryAt_of_within (sound : fs.Sound) {node : Node}
    (present : fs.node? other = some node) (within : location <+: other)
    (differs : location ≠ other) : fs.DirectoryAt location := by
  obtain ⟨names, rfl⟩ := within
  induction names using List.reverseRecOn generalizing node with
  | nil => exact absurd (List.append_nil location).symm differs
  | append_singleton names name ih =>
      have directory := sound present
      rw [← List.append_assoc, List.dropLast_concat] at directory
      by_cases direct : names = []
      · rwa [direct, List.append_nil] at directory
      · have apart : location ≠ location ++ names := by simpa using direct
        obtain ⟨_, is, -⟩ := directory
        exact ih is apart

theorem Sound.node?_eq_none_of_within (sound : fs.Sound) (single : ¬ fs.DirectoryAt location)
    (within : location <+: other) (differs : other ≠ location) : fs.node? other = none := by
  cases present : fs.node? other with
  | none => rfl
  | some node => exact absurd (sound.directoryAt_of_within present within differs.symm) single

/-- What is no directory is alone at its location. -/
theorem node?_erase_of_not_directoryAt (sound : fs.Sound) (single : ¬ fs.DirectoryAt location)
    {other : Location} (differs : other ≠ location) :
    (fs.erase location).node? other = fs.node? other := by
  by_cases within : location <+: other
  · rw [sound.node?_eq_none_of_within single within differs, node?_erase_of_within _ within]
    rintro rfl
    exact differs (List.prefix_nil.mp within).symm
  · rw [node?_erase_of_apart within]

theorem node?_of_erase {other : Location} {node : Node} (inside : location ≠ [])
    (present : (fs.erase location).node? other = some node) :
    other ≠ location ∧ fs.node? other = some node := by
  by_cases within : location <+: other
  · have below : other ≠ [] := by
      rintro rfl
      exact inside (List.prefix_nil.mp within)
    rw [node?_erase_of_within below within] at present
    cases present
  · rw [node?_erase_of_apart within] at present
    refine ⟨?_, present⟩
    rintro rfl
    exact within (List.prefix_refl _)

theorem retains_of_erase (inside : location ≠ []) : (fs.erase location).Retains fs :=
  ⟨rfl, fun present _ => (node?_of_erase inside present).2⟩

/-- That a file system has come from another by making directories only. -/
structure GrowsTo (fs gs : FileSystem) : Prop where
  here : gs.here = fs.here
  kept : ∀ {location : Location} {node : Node}, fs.node? location = some node →
    gs.node? location = some node
  made : ∀ {location : Location} {node : Node}, gs.node? location = some node →
    fs.node? location = some node ∨ node = .directory ∧ gs.DirectoryAt location.dropLast

namespace GrowsTo

theorem refl (fs : FileSystem) : fs.GrowsTo fs := ⟨rfl, id, .inl⟩

theorem retains (grows : fs.GrowsTo gs) : fs.Retains gs :=
  ⟨grows.here, fun present _ => grows.kept present⟩

theorem trans {hs : FileSystem} (first : fs.GrowsTo gs) (second : gs.GrowsTo hs) :
    fs.GrowsTo hs where
  here := second.here.trans first.here
  kept present := second.kept (first.kept present)
  made present := by
    rcases second.made present with earlier | ⟨is, inside⟩
    · rcases first.made earlier with present | ⟨is, inside⟩
      · exact .inl present
      · exact .inr ⟨is, second.retains.directoryAt inside⟩
    · exact .inr ⟨is, inside⟩

theorem sound (grows : fs.GrowsTo gs) (sound : fs.Sound) : gs.Sound := by
  intro location node present
  rcases grows.made present with earlier | ⟨_, inside⟩
  · exact grows.retains.directoryAt (sound earlier)
  · exact inside

/-- A new directory in a directory. -/
theorem put_directory {name : Name} (inside : fs.DirectoryAt location)
    (absent : fs.node? (location ++ [name]) = none) :
    fs.GrowsTo (fs.put (location ++ [name]) .directory) := by
  have kept {other : Location} {node : Node} (present : fs.node? other = some node) :
      (fs.put (location ++ [name]) .directory).node? other = some node := by
    rw [node?_put_of_ne, present]
    rintro rfl
    rw [absent] at present
    cases present
  refine ⟨rfl, kept, fun {other node} present => ?_⟩
  by_cases new : other = location ++ [name]
  · subst new
    rw [node?_put_self (by simp)] at present
    cases present
    rw [List.dropLast_concat]
    exact .inr ⟨rfl, inside.imp fun _ => .imp_left kept⟩
  · rw [node?_put_of_ne new] at present
    exact .inl present

end GrowsTo

theorem growsTo_makeDirectory (fs : FileSystem) (path : Path) :
    fs.GrowsTo (fs.makeDirectory path).2 := by
  rw [makeDirectory]
  cases found : fs.spot .occupied path with
  | error fault => exact .refl fs
  | ok spot =>
      dsimp only
      split
      · exact .refl fs
      split
      · exact .refl fs
      next absent =>
      exact .put_directory (directoryAt_of_spot found) (Option.not_isSome_iff_eq_none.mp absent)

theorem growsTo_ensureDirectory (fs : FileSystem) (path : Path) :
    fs.GrowsTo (fs.ensureDirectory path).2 := by
  have grows := growsTo_makeDirectory fs path
  rw [ensureDirectory]
  split <;> next made => rwa [made] at grows

theorem growsTo_makeAll (fs : FileSystem) (paths : List Path) :
    fs.GrowsTo (fs.makeAll paths).2 := by
  induction paths generalizing fs with
  | nil => exact .refl fs
  | cons path outer ih =>
      have first := growsTo_ensureDirectory fs path
      rw [makeAll]
      split
      · next fault gs made =>
        rw [made] at first
        split
        · have further := ih gs
          split
          · next hs made =>
            rw [made] at further
            exact (first.trans further).trans (growsTo_ensureDirectory hs path)
          · next made =>
            rw [made] at further
            exact first.trans further
        · exact first
      · next made => rwa [made] at first

/-- Making a directory, and those it lies in, makes nothing else, whether it succeeds or not. -/
theorem growsTo_makeDirectories (fs : FileSystem) (path : Path) :
    fs.GrowsTo (fs.makeDirectories path).2 :=
  growsTo_makeAll fs _

end FileSystem

end TypedQueries
