import TypedQueries.Proofs.Query.Environment

/-! # Hoisting

The search for a `var` below a node looks at the right statements in the right order: in
a tree that follows the grammar it finds the first entry among those of all `var`
statements below the node with no function and no class between
(`Site.hoistedBinding?_eq`). The search keeps a list of nodes still to be looked at; what
it maintains is that nothing lies between the root of the search and these nodes that a
`var` would not be seen through.
-/

namespace TypedQueries

namespace Site

variable {scope root site : Site}

theorem seenFrom_iff : scope.seenFrom site = true ↔
    ∀ outer ∈ site.ancestors, scope.depth < outer.depth → outer.kind.confines = false := by
  rw [seenFrom, List.all_eq_true]
  refine forall_congr' fun outer => imp_congr_right fun _ => ?_
  rw [Bool.or_eq_true, decide_eq_true_iff, Bool.not_eq_true', ← Nat.not_lt]
  exact Decidable.imp_iff_not_or.symm

theorem mem_hoistedVars_iff {statement : Site} : statement ∈ scope.hoistedVars root ↔
    (statement = root ∨ root ∈ statement.ancestors) ∧
      statement.kind = .variableDeclaration ∧ scope.seenFrom statement = true := by
  rw [hoistedVars, List.mem_filter, mem_nodes_iff, Bool.and_eq_true, beq_iff_eq]

theorem mem_ancestors_of_mem_hoistedVars {statement : Site}
    (other : scope.kind ≠ .variableDeclaration) (member : statement ∈ scope.hoistedVars scope) :
    scope ∈ statement.ancestors := by
  obtain ⟨within, kind, -⟩ := mem_hoistedVars_iff.mp member
  exact within.resolve_left fun same => other (same ▸ kind)

theorem mem_ancestors_of_mem_hoistedVars_body {body statement : Site}
    (found : body.parent? = some scope) (member : statement ∈ scope.hoistedVars body) :
    scope ∈ statement.ancestors := by
  obtain ⟨within, -, -⟩ := mem_hoistedVars_iff.mp member
  exact mem_ancestors_of_mem_nodes found (mem_nodes_iff.mpr within)

/-- What the search maintains of a node still to be looked at. -/
def Pending (root site : Site) : Prop :=
  (site = root ∨ root ∈ site.ancestors) ∧ root.seenFrom site = true

theorem Pending.grammatical (pending : Pending root site) (grammatical : root.top.Grammatical) :
    site.top.Grammatical := by
  rwa [top_of_mem_nodes (mem_nodes_iff.mpr pending.1)]

/-- A node still to be looked at is the root or deeper than the root. -/
theorem Pending.depth_lt (pending : Pending root site) (other : site.path ≠ root.path) :
    root.depth < site.depth := by
  rcases pending.1 with rfl | around
  · exact absurd rfl other
  · exact depth_lt_of_mem_ancestors around

/-- Unless a `var` is not seen through a node, its children are still to be looked at. -/
theorem Pending.child {child : Site} (pending : Pending root site)
    (entered : site.path = root.path ∨ site.kind.confines = false)
    (member : child ∈ site.children) : Pending root child := by
  have up := ancestors_of_parent? (mem_children_iff.mp member)
  refine ⟨Or.inr ?_, ?_⟩
  · rw [up]
    exact List.mem_cons.mpr (pending.1.imp Eq.symm id)
  · rw [seenFrom_iff, up]
    intro outer around deeper
    rcases List.mem_cons.mp around with rfl | further
    · rcases entered with same | shut
      · exact absurd (congrArg List.length same) (by simp [path, depth] at deeper ⊢; omega)
      · exact shut
    · exact seenFrom_iff.mp pending.2 outer further deeper

/-- A `var` statement is all that is found below it. -/
theorem hoistedVars_of_statement (grammatical : root.top.Grammatical) (pending : Pending root site)
    (statement : site.kind = .variableDeclaration) : root.hoistedVars site = [site] := by
  have inner : (site.children.flatMap nodes).filter
      (fun inner => inner.kind == .variableDeclaration && root.seenFrom inner) = [] := by
    rw [List.filter_eq_nil_iff]
    intro inner below both
    rw [Bool.and_eq_true, beq_iff_eq] at both
    obtain ⟨child, member, within⟩ := List.mem_flatMap.mp below
    have around : site ∈ inner.ancestors :=
      mem_ancestors_of_mem_nodes (mem_children_iff.mp member) within
    obtain ⟨between, among, deeper, confines⟩ : ∃ between ∈ inner.ancestors,
        site.depth < between.depth ∧ between.kind.confines = true := by
      have between := confines_between_or_placed (pending.grammatical grammatical) around both.1
        (by rw [statement]; rfl) (by rw [statement]; decide)
      rw [statement] at between
      exact between.resolve_right (by simp [Kind.isFunction])
    have rootDepth : root.depth ≤ site.depth := by
      rcases pending.1 with rfl | above
      · exact Nat.le_refl _
      · exact Nat.le_of_lt (depth_lt_of_mem_ancestors above)
    have seen := seenFrom_iff.mp both.2 between among (Nat.lt_of_le_of_lt rootDepth deeper)
    rw [seen] at confines
    cases confines
  rw [hoistedVars, nodes_eq, List.filter_cons, if_pos, inner]
  rw [statement, pending.2]
  rfl

/-- Nothing is found at and below a function or class other than the root. -/
theorem hoistedVars_of_confines (pending : Pending root site) (other : site.path ≠ root.path)
    (confines : site.kind.confines = true) : root.hoistedVars site = [] := by
  rw [List.eq_nil_iff_forall_not_mem]
  intro statement member
  obtain ⟨within, kind, seen⟩ := mem_hoistedVars_iff.mp member
  rcases within with rfl | around
  · rw [kind] at confines
    cases confines
  · rw [seenFrom_iff.mp seen site around (pending.depth_lt other)] at confines
    cases confines

/-- Punctuation adds nothing to what is found below the children. -/
theorem flatMap_namedChildren (grammatical : site.top.Grammatical) :
    site.namedChildren.flatMap root.hoistedVars = site.children.flatMap root.hoistedVars := by
  have token (child : Site) (member : child ∈ site.children)
      (unnamed : child.node.label.named = false) : root.hoistedVars child = [] := by
    have placed : child.WellPlaced :=
      grammatical child (mem_all_iff.mpr (top_of_parent? (mem_children_iff.mp member)))
    obtain ⟨kind, leaf⟩ := placed.token unnamed
    have none : child.children = [] := by
      rw [← List.map_eq_nil_iff, map_node_children, leaf]
    rw [hoistedVars, nodes_eq, none, List.flatMap_nil, List.filter_cons, kind]
    rfl
  rw [namedChildren]
  generalize site.children = children at token ⊢
  induction children with
  | nil => rfl
  | cons child children ih =>
      have rest := ih fun inner member => token inner (List.mem_cons_of_mem _ member)
      rw [List.filter_cons, List.flatMap_cons]
      cases named : child.node.label.named with
      | true => rw [if_pos rfl, List.flatMap_cons, rest]
      | false =>
          rw [if_neg Bool.false_ne_true, rest, token child List.mem_cons_self named]
          rfl

/-- All else is found below the children. -/
theorem hoistedVars_of_other (grammatical : site.top.Grammatical)
    (kind : site.kind ≠ .variableDeclaration) :
    root.hoistedVars site = site.namedChildren.flatMap root.hoistedVars := by
  rw [flatMap_namedChildren grammatical, hoistedVars, nodes_eq, List.filter_cons, if_neg,
    List.filter_flatMap]
  · rfl
  · rw [Bool.and_eq_true, beq_iff_eq]
    exact fun both => kind both.1

/-- The search finds the first entry among those of the `var` statements at and below the
nodes still to be looked at. -/
theorem hoistedAmong?_eq {name : String} (grammatical : root.top.Grammatical) (sites : List Site)
    (pending : ∀ site ∈ sites, Pending root site) :
    hoistedAmong? name root sites =
      ((sites.flatMap root.hoistedVars).flatMap declarations).lookup name := by
  induction sites using hoistedAmong?.induct name root with
  | case1 => rw [hoistedAmong?]; rfl
  | case2 site rest statement binding found =>
      have only := hoistedVars_of_statement grammatical (pending site List.mem_cons_self)
        (beq_iff_eq.mp statement)
      rw [hoistedAmong?, if_pos statement, found, List.flatMap_cons, only, List.flatMap_append,
        List.lookup_append, List.flatMap_singleton, ← statementBinding?_eq, found]
      rfl
  | case3 site rest statement none ih =>
      have only := hoistedVars_of_statement grammatical (pending site List.mem_cons_self)
        (beq_iff_eq.mp statement)
      rw [hoistedAmong?, if_pos statement, none, List.flatMap_cons, only, List.flatMap_append,
        List.lookup_append, List.flatMap_singleton, ← statementBinding?_eq, none]
      exact ih fun inner member => pending inner (List.mem_cons_of_mem _ member)
  | case4 site rest other skipped ih =>
      rw [hoistedAmong?, if_neg other, if_pos skipped]
      rw [Bool.and_eq_true, bne_iff_ne] at skipped
      rw [List.flatMap_cons,
        hoistedVars_of_confines (pending site List.mem_cons_self) skipped.1 skipped.2]
      exact ih fun inner member => pending inner (List.mem_cons_of_mem _ member)
  | case5 site rest other entered ih =>
      rw [hoistedAmong?, if_neg other, if_neg entered]
      have here := pending site List.mem_cons_self
      have through : site.path = root.path ∨ site.kind.confines = false := by
        rw [Bool.and_eq_true, bne_iff_ne, not_and, Bool.not_eq_true] at entered
        exact Decidable.or_iff_not_imp_left.mpr entered
      rw [ih, List.flatMap_append, List.flatMap_cons,
        hoistedVars_of_other (here.grammatical grammatical) fun same => other (beq_iff_eq.mpr same)]
      intro inner member
      rcases List.mem_append.mp member with below | later
      · exact here.child through (mem_children_of_mem_namedChildren below)
      · exact pending inner (List.mem_cons_of_mem _ later)

/-- The search below a node finds what the `var` statements seen from there declare. -/
theorem hoistedBinding?_eq {name : String} (grammatical : root.top.Grammatical) :
    hoistedBinding? name root = (root.variableEntries root).lookup name := by
  have start : Pending root root := by
    refine ⟨Or.inl rfl, seenFrom_iff.mpr fun outer around deeper => ?_⟩
    exact absurd (depth_lt_of_mem_ancestors around) (Nat.lt_asymm deeper)
  rw [hoistedBinding?, hoistedAmong?_eq grammatical [root] (by simpa using start),
    List.flatMap_singleton]
  rfl

end Site

end TypedQueries
