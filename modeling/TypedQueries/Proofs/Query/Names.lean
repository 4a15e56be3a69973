import TypedQueries.Query.Pattern

/-! # The names of patterns and imports

The names a pattern or an import introduces, listed. A name is bound exactly if it is in
the list (`Tree.patternBinds_iff`, `Tree.importBinds_iff`).
-/

namespace TypedQueries

namespace Tree

mutual

/-- The names a pattern, a parameter or a list of parameters introduces. -/
def boundNames : Tree → List String
  | node label children =>
      match label.kind with
      | .identifier | .shorthandPropertyIdentifierPattern => [label.text]
      | .pairPattern => boundNamesInRole .value children
      | .assignmentPattern | .objectAssignmentPattern => boundNamesInRole .left children
      | .requiredParameter | .optionalParameter => boundNamesInRole .pattern children
      | .formalParameters | .objectPattern | .arrayPattern | .restPattern =>
          boundNamesOfAll children
      | _ => []

/-- The names the first tree in a role introduces. -/
def boundNamesInRole (role : Role) : List Tree → List String
  | [] => []
  | t :: ts => if t.label.role == some role then boundNames t else boundNamesInRole role ts

/-- The names the named trees introduce. -/
def boundNamesOfAll : List Tree → List String
  | [] => []
  | t :: ts => (if t.label.named then boundNames t else []) ++ boundNamesOfAll ts

end

mutual

/-- The local names an import or a part of one introduces. -/
def importedNames : Tree → List String
  | node label children =>
      match label.kind with
      | .importSpecifier =>
          (((node label children).child? .alias).or ((node label children).child? .name)).elim []
            fun part => [part.text]
      | .identifier => [label.text]
      | .string => []
      | _ => importedNamesOfAll children

/-- The local names the named trees introduce as parts of an import. -/
def importedNamesOfAll : List Tree → List String
  | [] => []
  | t :: ts => (if t.label.named then importedNames t else []) ++ importedNamesOfAll ts

end

mutual

theorem patternBinds_iff (name : String) :
    ∀ t : Tree, t.patternBinds name = true ↔ name ∈ t.boundNames
  | node label children => by
      have inRole := fun role => firstBinds_iff name role children
      have among := someBinds_iff name children
      have leaf : (label.text == name) = true ↔ name ∈ [label.text] := by
        rw [beq_iff_eq, List.mem_singleton, eq_comm]
      rw [patternBinds, boundNames]
      generalize label.kind = kind
      -- One goal for each kind listed, and one for all others, in which the second function may
      -- still have to see that.
      split
      all_goals first
        | exact leaf
        | exact inRole _
        | exact among
        | simp

theorem firstBinds_iff (name : String) (role : Role) :
    ∀ ts : List Tree, firstBinds name role ts = true ↔ name ∈ boundNamesInRole role ts
  | [] => by simp [firstBinds, boundNamesInRole]
  | t :: ts => by
      rw [firstBinds, boundNamesInRole]
      split
      · exact patternBinds_iff name t
      · exact firstBinds_iff name role ts

theorem someBinds_iff (name : String) :
    ∀ ts : List Tree, someBinds name ts = true ↔ name ∈ boundNamesOfAll ts
  | [] => by simp [someBinds, boundNamesOfAll]
  | t :: ts => by
      have head := patternBinds_iff name t
      have tail := someBinds_iff name ts
      rw [someBinds, boundNamesOfAll]
      cases t.label.named <;> simp [head, tail]

end

mutual

theorem importBinds_iff (name : String) :
    ∀ t : Tree, t.importBinds name = true ↔ name ∈ t.importedNames
  | node label children => by
      have among := someImportBinds_iff name children
      have leaf (text : String) : (text == name) = true ↔ name ∈ [text] := by
        rw [beq_iff_eq, List.mem_singleton, eq_comm]
      rw [importBinds, importedNames]
      generalize label.kind = kind
      split
      · cases ((node label children).child? .alias).or ((node label children).child? .name) with
        | none => simp
        | some part => exact leaf part.text
      · exact leaf label.text
      · simp
      · -- No kind is listed, which the second function may still have to see.
        grind

theorem someImportBinds_iff (name : String) :
    ∀ ts : List Tree, someImportBinds name ts = true ↔ name ∈ importedNamesOfAll ts
  | [] => by simp [someImportBinds, importedNamesOfAll]
  | t :: ts => by
      have head := importBinds_iff name t
      have tail := someImportBinds_iff name ts
      rw [someImportBinds, importedNamesOfAll]
      cases t.label.named <;> simp [head, tail]

end

end Tree

end TypedQueries
