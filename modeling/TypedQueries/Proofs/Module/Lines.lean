import TypedQueries.Module.Synthesis
import TypedQueries.Proofs.Text.StringLiteral

/-! # The lines of the module

The module is made of lines, and these are the lines it has as a text: none of what is
put into them can break a line (`Synthesis.textLines_module`).
-/

namespace TypedQueries

/-- The lines of a text: the stretches between its line feeds. -/
def textLines (text : String) : List String := (text.toList.splitOn '\n').map String.ofList

/-- A text without a line feed. -/
def OneLine (text : String) : Prop := '\n' ∉ text.toList

instance : DecidablePred OneLine := fun text => inferInstanceAs (Decidable ('\n' ∉ text.toList))

@[simp] theorem oneLine_append {first second : String} :
    OneLine (first ++ second) ↔ OneLine first ∧ OneLine second := by
  simp [OneLine]

@[simp] theorem oneLine_quote (value : String) : OneLine (StringLiteral.quote value) := by
  intro member
  rw [StringLiteral.toList_quote] at member
  have interior : '\n' ∈ StringLiteral.interior value.toList := by simpa using member
  exact absurd (StringLiteral.printable_interior interior) (by decide)

@[simp] theorem oneLine_repr (n : Nat) : OneLine n.repr := by
  intro member
  rw [Nat.toList_repr] at member
  exact absurd (Nat.isDigit_of_mem_toDigits (by decide) (by decide) member) (by decide)

/-- All characters of an identifier may stand within one. -/
theorem Identifier.continues_of_accepts {name : String} (accepted : accepts name = true) :
    ∀ c ∈ name.toList, continues c = true := by
  unfold accepts at accepted
  split at accepted
  · cases accepted
  · next first rest characters =>
      rw [Bool.and_eq_true, List.all_eq_true] at accepted
      rw [characters]
      intro c member
      rcases List.mem_cons.mp member with rfl | member
      · have start := accepted.1
        simp only [begins, Bool.or_eq_true] at start
        simp only [continues, Char.isAlphanum, Bool.or_eq_true]
        exact start.imp_left (Or.imp_left Or.inl)
      · exact accepted.2 c member

theorem oneLine_of_accepts {name : String} (accepted : Identifier.accepts name = true) :
    OneLine name := by
  intro member
  exact absurd (Identifier.continues_of_accepts accepted _ member) (by decide)

@[simp] theorem oneLine_propertyKey (name : String) : OneLine (propertyKey name) := by
  unfold propertyKey
  split
  · next accepted => exact oneLine_of_accepts accepted
  · exact oneLine_quote name

theorem oneLine_intercalate {separator : String} (oneLine : OneLine separator) {parts : List String}
    (parts_oneLine : ∀ part ∈ parts, OneLine part) :
    OneLine (String.intercalate separator parts) := by
  induction parts with
  | nil => simp [OneLine]
  | cons part parts ih =>
      have first := parts_oneLine part List.mem_cons_self
      have others := ih fun other member => parts_oneLine other (List.mem_cons_of_mem _ member)
      cases parts with
      | nil => rwa [String.intercalate_singleton]
      | cons next parts =>
          rw [String.intercalate_cons_cons]
          exact oneLine_append.mpr ⟨oneLine_append.mpr ⟨first, oneLine⟩, others⟩

/-! ## Lines put together -/

theorem foldl_joinLines (lines : List String) (text : String) :
    lines.foldl (fun text line => text ++ line ++ "\n") text = text ++ joinLines lines := by
  induction lines generalizing text with
  | nil => simp [joinLines]
  | cons line lines ih =>
      change lines.foldl _ (text ++ line ++ "\n") = text ++ lines.foldl _ ("" ++ line ++ "\n")
      rw [ih, ih, String.empty_append]
      simp only [String.append_assoc]

@[simp] theorem joinLines_nil : joinLines [] = "" := rfl

theorem joinLines_cons (line : String) (lines : List String) :
    joinLines (line :: lines) = line ++ "\n" ++ joinLines lines := by
  rw [joinLines, List.foldl_cons, foldl_joinLines]
  simp

theorem joinLines_append (first second : List String) :
    joinLines (first ++ second) = joinLines first ++ joinLines second := by
  induction first with
  | nil => simp
  | cons line first ih =>
      rw [List.cons_append, joinLines_cons, joinLines_cons, ih, String.append_assoc,
        String.append_assoc, String.append_assoc]

/-- Lines put together come apart again; after the last line feed there is nothing. -/
theorem textLines_joinLines {lines : List String} (oneLine : ∀ line ∈ lines, OneLine line) :
    textLines (joinLines lines) = lines ++ [""] := by
  induction lines with
  | nil => rfl
  | cons line lines ih =>
      rw [joinLines_cons, textLines, String.toList_append, String.toList_append,
        List.append_assoc]
      change (List.splitOn '\n' (line.toList ++ '\n' :: (joinLines lines).toList)).map _ = _
      rw [List.splitOn_append_cons_self_of_not_mem (oneLine line List.mem_cons_self), List.map_cons,
        String.ofList_toList]
      have rest := ih fun line member => oneLine line (List.mem_cons_of_mem _ member)
      rw [textLines] at rest
      rw [rest, List.cons_append]

namespace TypeTable

/-- A table whose names hold nothing that ends a line or separates names. -/
def NamesAreWords (table : TypeTable) : Prop :=
  ∀ id, ∀ c ∈ (Synthesis.typeName table id).toList, c ≠ '\n' ∧ c ≠ ' ' ∧ c ≠ ','

theorem namesAreWords_builtin : builtin.NamesAreWords := by
  -- As a proposition the check may be decided character after character of all there are.
  have entries : builtin.entries.all (fun entry =>
      entry.2.toList.all fun c => c ≠ '\n' ∧ c ≠ ' ' ∧ c ≠ ',') = true := by decide +kernel
  simp only [List.all_eq_true, decide_eq_true_eq] at entries
  intro id
  unfold Synthesis.typeName
  cases found : builtin.lookup id with
  | none =>
      have letters :
          "unknown".toList.all (fun c => c ≠ '\n' ∧ c ≠ ' ' ∧ c ≠ ',') = true := by decide
      simp only [List.all_eq_true, decide_eq_true_eq] at letters
      exact letters
  | some name =>
      obtain ⟨before, after, split, -⟩ := List.lookup_eq_some_iff.mp found
      refine entries (id, name) ?_
      rw [split]
      simp

end TypeTable

namespace Synthesis

variable {table : TypeTable} {options : ModuleOptions}

@[simp] theorem oneLine_queryName (index : Nat) : OneLine (queryName index) := by
  simp +decide [queryName]

@[simp] theorem oneLine_parametersName (index : Nat) : OneLine (parametersName index) := by
  simp +decide [parametersName]

@[simp] theorem oneLine_resultName (index : Nat) : OneLine (resultName index) := by
  simp +decide [resultName]

theorem oneLine_typeName (words : table.NamesAreWords) (id : TypeId) :
    OneLine (typeName table id) :=
  fun member => (words id _ member).1 rfl

theorem oneLine_parameterTuple (words : table.NamesAreWords) (description : QueryDescription) :
    OneLine (parameterTuple table description) := by
  unfold parameterTuple
  split
  · decide
  · have names :
        OneLine (String.intercalate ", " (description.parameters.map (typeName table))) := by
      refine oneLine_intercalate (by decide) fun name member => ?_
      obtain ⟨id, -, rfl⟩ := List.mem_map.mp member
      exact oneLine_typeName words id
    simp +decide [names]

theorem oneLine_of_mem_resultLines (words : table.NamesAreWords) {index : Nat}
    {description : QueryDescription} :
    ∀ line ∈ resultLines table (resultName index) description, OneLine line := by
  unfold resultLines
  intro line member
  split at member
  · rw [List.mem_singleton.mp member]
    simp +decide
  · rw [List.cons_append, List.mem_cons, List.mem_append, List.mem_singleton] at member
    rcases member with rfl | member | rfl
    · simp +decide
    · obtain ⟨column, -, rfl⟩ := List.mem_map.mp member
      simp +decide [fieldLine, oneLine_typeName words]
    · decide

theorem oneLine_of_mem_queriesLines (words : table.NamesAreWords) {index : Nat}
    {entries : List (String × QueryDescription)} :
    ∀ line ∈ queriesLines table index entries, OneLine line := by
  induction entries generalizing index with
  | nil => simp [queriesLines]
  | cons entry entries ih =>
      intro line member
      rw [queriesLines, queryLines, List.mem_append, List.mem_append] at member
      rcases member with (member | member) | member
      · simp only [List.mem_cons, List.not_mem_nil, or_false] at member
        rcases member with rfl | rfl | rfl
        · decide
        · simp +decide
        · simp +decide [oneLine_parameterTuple words]
      · exact oneLine_of_mem_resultLines words line member
      · exact ih line member

/-- A chain of types ends with a semicolon. -/
theorem terminated_lines (dispatch : Dispatch) (subject : String) :
    terminated (dispatch.lines subject) =
      dispatch.arms.map (Dispatch.line subject) ++ ["  " ++ dispatch.fallback ++ ";"] := by
  simp [terminated, Dispatch.lines]

theorem oneLine_of_mem_dispatch {dispatch : Dispatch} (fallback : OneLine dispatch.fallback)
    (arms : ∀ arm ∈ dispatch.arms, OneLine arm.discriminant ∧ OneLine arm.payload) :
    ∀ line ∈ terminated (dispatch.lines "Q"), OneLine line := by
  intro line member
  rw [terminated_lines, List.mem_append, List.mem_singleton] at member
  rcases member with member | rfl
  · obtain ⟨arm, inArms, rfl⟩ := List.mem_map.mp member
    have parts := arms arm inArms
    simp +decide [Dispatch.line, parts]
  · simp +decide [fallback]

theorem oneLine_of_mem_parameterDispatch (count : Nat) :
    ∀ line ∈ terminated ((parameterDispatch count).lines "Q"), OneLine line := by
  refine oneLine_of_mem_dispatch (show OneLine "any[]" by decide) fun arm member => ?_
  obtain ⟨index, -, rfl⟩ := List.mem_map.mp member
  simp

theorem oneLine_of_mem_resultDispatch (count : Nat) :
    ∀ line ∈ terminated ((resultDispatch count).lines "Q"), OneLine line := by
  refine oneLine_of_mem_dispatch (show OneLine "T" by decide) fun arm member => ?_
  obtain ⟨index, -, rfl⟩ := List.mem_map.mp member
  simp

variable (client : Identifier.accepts options.clientType = true)
  (wrapper : Identifier.accepts options.resultWrapper = true)

include client wrapper

theorem oneLine_of_mem_tailLines (count : Nat) :
    ∀ line ∈ tailLines count options, OneLine line := by
  have clientName := oneLine_of_accepts client
  have wrapperName := oneLine_of_accepts wrapper
  simp +decide only [tailLines, List.forall_mem_append, List.forall_mem_cons, oneLine_append,
    clientName, wrapperName, and_true, true_and]
  exact ⟨oneLine_of_mem_parameterDispatch count, oneLine_of_mem_resultDispatch count⟩

/-- **The lines the module is made of are its lines.** -/
theorem textLines_module (words : table.NamesAreWords) (descriptions : QueryDescriptions) :
    textLines (synthesize descriptions table options).module =
      lines descriptions table options ++ [""] := by
  refine textLines_joinLines fun line member => ?_
  rw [lines, List.mem_append, List.mem_append] at member
  rcases member with (member | member) | member
  · have clientName := oneLine_of_accepts client
    have wrapperName := oneLine_of_accepts wrapper
    simp only [headLines, List.mem_cons, List.not_mem_nil, or_false] at member
    rcases member with rfl | rfl | rfl
    · decide
    · decide
    · simp +decide [clientName, wrapperName]
  · exact oneLine_of_mem_queriesLines words line member
  · exact oneLine_of_mem_tailLines client wrapper _ line member

end Synthesis

end TypedQueries
