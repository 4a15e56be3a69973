import TypedQueries.Path

/-! # The components of paths

Names that can be those of files (`Name.IsProper`) are components as they stand. A path into a
directory has the components of the directory and then the names on the way
(`Path.components_foldl_child`).
-/

namespace TypedQueries

/-- That a name can be that of a file: it says something, leads nowhere else and holds no
separator. -/
structure Name.IsProper (name : Name) : Prop where
  nonempty : name ≠ []
  not_dot : name ≠ [Path.dot]
  not_dotDot : name ≠ [Path.dot, Path.dot]
  unseparated : Path.slash ∉ name

instance (name : Name) : Decidable name.IsProper :=
  decidable_of_iff
    (name ≠ [] ∧ name ≠ [Path.dot] ∧ name ≠ [Path.dot, Path.dot] ∧ Path.slash ∉ name)
    ⟨fun ⟨nonempty, not_dot, not_dotDot, unseparated⟩ =>
      ⟨nonempty, not_dot, not_dotDot, unseparated⟩,
      fun proper => ⟨proper.1, proper.2, proper.3, proper.4⟩⟩

namespace Path

theorem same_comm (p q : Path) : p.same q = q.same p := by
  rw [same, same, Bool.eq_iff_iff, beq_iff_eq, beq_iff_eq]
  exact eq_comm

theorem split_ne_nil (bytes : List UInt8) : split bytes ≠ [] := by
  induction bytes with
  | nil => exact List.cons_ne_nil _ _
  | cons b bytes ih =>
      rw [split]
      split
      · exact List.cons_ne_nil _ _
      · cases split bytes <;> exact List.cons_ne_nil _ _

theorem split_of_unseparated {name : List UInt8} (unseparated : slash ∉ name) :
    split name = [name] := by
  induction name with
  | nil => rfl
  | cons b name ih =>
      rw [List.mem_cons, not_or] at unseparated
      obtain ⟨other, unseparated⟩ := unseparated
      rw [split, if_neg (Ne.symm other), ih unseparated]

/-- A separator separates. -/
theorem split_append_slash (first second : List UInt8) :
    split (first ++ slash :: second) = split first ++ split second := by
  induction first with
  | nil => rfl
  | cons b first ih =>
      rw [List.cons_append, split, split, ih]
      split
      · rfl
      · cases parts : split first with
        | nil => exact absurd parts (split_ne_nil first)
        | cons name names => rfl

theorem component?_of_isProper {name : Name} (proper : name.IsProper) :
    component? name = some (.normal name) := by
  simp [component?, proper.nonempty, proper.not_dot, proper.not_dotDot]

theorem isAbsolute_of_isProper {name : Name} (proper : name.IsProper) :
    isAbsolute ⟨name⟩ = false := by
  cases name with
  | nil => rfl
  | cons b name =>
      have other : b ≠ slash := fun same => proper.unseparated (by simp [same])
      simpa [isAbsolute] using other

/-- What is joined to a directory follows it and a separator. -/
theorem exists_join_eq {directory path : Path} (relative : path.isAbsolute = false)
    (nonempty : directory.bytes ≠ []) :
    ∃ start, (directory.bytes = start ∧ start ≠ [] ∨ directory.bytes = start ++ [slash]) ∧
      directory.join path = ⟨start ++ slash :: path.bytes⟩ := by
  rw [join, relative]
  rcases List.eq_nil_or_concat directory.bytes with empty | ⟨start, last, ends⟩
  · exact absurd empty nonempty
  rw [List.concat_eq_append] at ends
  by_cases slashed : last = slash
  · subst slashed
    exact ⟨start, .inr ends, by simp [ends]⟩
  · exact ⟨directory.bytes, .inl ⟨rfl, nonempty⟩, by simp [ends, slashed]⟩

/-- A path into a directory is that of the directory, a separator and a name. -/
theorem exists_child_eq {directory : Path} {name : Name} (proper : name.IsProper)
    (nonempty : directory.bytes ≠ []) :
    ∃ start, (directory.bytes = start ∧ start ≠ [] ∨ directory.bytes = start ++ [slash]) ∧
      directory.child name = ⟨start ++ slash :: name⟩ :=
  exists_join_eq (isAbsolute_of_isProper proper) nonempty

theorem components_slash (rest : List UInt8) :
    components ⟨slash :: rest⟩ = .root :: (split rest).filterMap component? := by
  simp [components, isAbsolute, split, component?]

/-- What follows a separator adds its components. -/
theorem components_append_slash {start : List UInt8} (nonempty : start ≠ [])
    (rest : List UInt8) :
    components ⟨start ++ slash :: rest⟩ =
      components ⟨start⟩ ++ (split rest).filterMap component? := by
  obtain ⟨first, names, parts⟩ := List.exists_cons_of_ne_nil (split_ne_nil start)
  obtain ⟨b, bytes, rfl⟩ := List.exists_cons_of_ne_nil nonempty
  rw [components, components, split_append_slash, parts, List.filterMap_append,
    ← List.append_assoc]
  rfl

theorem components_join {directory path : Path} (relative : path.isAbsolute = false)
    (nonempty : directory.bytes ≠ []) :
    (directory.join path).components =
      directory.components ++ (split path.bytes).filterMap component? := by
  obtain ⟨start, shape, same⟩ := exists_join_eq relative nonempty
  obtain ⟨bytes⟩ := directory
  obtain ⟨rfl, inside⟩ | rfl := shape
  · rw [same, components_append_slash inside]
  · rw [same]
    by_cases rooted : start = []
    · subst rooted
      rw [List.nil_append, List.nil_append, components_slash, components_slash]
      rfl
    · rw [components_append_slash rooted, components_append_slash rooted, List.append_assoc]
      rfl

theorem components_of_empty {path : Path} (empty : path.bytes = []) : path.components = [] := by
  rw [components, isAbsolute, empty]
  rfl

theorem components_child {directory : Path} {name : Name} (proper : name.IsProper) :
    (directory.child name).components = directory.components ++ [.normal name] := by
  have last : (split name).filterMap component? = [.normal name] := by
    simp [split_of_unseparated proper.unseparated, component?_of_isProper proper]
  have relative := isAbsolute_of_isProper proper
  by_cases empty : directory.bytes = []
  · have alone : directory.child name = ⟨name⟩ := by simp [child, join, empty]
    rw [alone, components_of_empty empty, components, relative, last,
      split_of_unseparated proper.unseparated]
    simp [proper.not_dot]
  · rw [child, components_join relative empty, last]

theorem components_foldl_child {directory : Path} {names : List Name}
    (proper : ∀ name ∈ names, name.IsProper) :
    (names.foldl child directory).components = directory.components ++ names.map .normal := by
  induction names generalizing directory with
  | nil => exact (List.append_nil _).symm
  | cons name names ih =>
      obtain ⟨first, rest⟩ := List.forall_mem_cons.mp proper
      rw [List.foldl_cons, ih rest, components_child first, List.append_assoc]
      rfl

/-- Names below a directory are known by the components of their path. -/
theorem eq_of_components_foldl_child {directory : Path} {names others : List Name}
    (proper : ∀ name ∈ names, name.IsProper) (properToo : ∀ name ∈ others, name.IsProper)
    (same : (names.foldl child directory).components = (others.foldl child directory).components) :
    names = others := by
  rw [components_foldl_child proper, components_foldl_child properToo] at same
  exact (List.map_inj_right fun _ _ => Component.normal.inj).mp (List.append_cancel_left same)

theorem length_le_length_child {directory : Path} {name : Name} (proper : name.IsProper) :
    directory.bytes.length ≤ (directory.child name).bytes.length := by
  by_cases nonempty : directory.bytes = []
  · rw [nonempty]
    exact Nat.zero_le _
  · obtain ⟨start, ⟨same, -⟩ | same, isChild⟩ := exists_child_eq proper nonempty <;>
      simp [same, isChild]

theorem fileName?_of_components {path : Path} {before : List Component} {name : Name}
    (ends : path.components = before ++ [.normal name]) : path.fileName? = some name := by
  rw [fileName?, ends, List.getLast?_concat]

theorem extension?_foldl_child {directory : Path} {names : List Name} {name : Name}
    (proper : ∀ other ∈ names ++ [name], other.IsProper) :
    ((names ++ [name]).foldl child directory).extension? = extensionOf? name := by
  have ends : ((names ++ [name]).foldl child directory).components =
      (directory.components ++ names.map .normal) ++ [.normal name] := by
    rw [components_foldl_child proper, List.map_append, List.append_assoc]
    rfl
  rw [extension?, fileName?_of_components ends]
  rfl

end Path

end TypedQueries
