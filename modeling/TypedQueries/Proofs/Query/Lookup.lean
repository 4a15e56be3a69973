import TypedQueries.Proofs.Query.Hoisting

/-! # Looking names up

The search from a place outwards and the way down from the root agree: what the search
finds is what is declared on the way, each node overriding the nodes around it, if the
`var`s that the search sees of a function whose body is a function are counted as that
function's own. Where they are not counted, the two differ exactly where such a `var`
answers the search (`Site.lookup_eq_resolveDown_iff`).
-/

namespace TypedQueries

namespace Site

variable {site scope body : Site} {name : String}

/-! ## What the search finds at one node -/

theorem contribution_of_isFunction (kind : scope.kind.isFunction = true) :
    scope.contribution =
      asOther scope.parameterNames ++ (scope.child? .body).elim [] scope.variableEntries := by
  rw [contribution]
  generalize scope.kind = other at kind ⊢
  split
  all_goals first
    | cases kind
    | rw [if_pos kind]

theorem scopeBinding?_of_isFunction (kind : scope.kind.isFunction = true) :
    scopeBinding? name scope =
      ((asOther scope.parameterNames).lookup name).or
        ((scope.child? .body).bind (hoistedBinding? name)) := by
  rw [parameterNames, ← otherIf_any_patternBinds, scopeBinding?]
  generalize scope.kind = other at kind ⊢
  split
  all_goals first
    | cases kind
    | rw [if_pos kind]
  cases ((scope.child? .parameters).or (scope.child? .parameter)).any
    (·.node.patternBinds name) <;> rfl

theorem leaked_of_not_isFunction (kind : scope.kind.isFunction = false) : scope.leaked = [] := by
  rw [leaked, kind]
  rfl

/-- A body that is a function or a class holds no `var` of the function around it. -/
theorem hoistedVars_body_of_confines (found : body.parent? = some scope)
    (confines : body.kind.confines = true) : scope.hoistedVars body = [] := by
  rw [List.eq_nil_iff_forall_not_mem]
  intro statement member
  obtain ⟨within, kind, seen⟩ := mem_hoistedVars_iff.mp member
  have deeper := depth_lt_of_parent? found
  rcases within with rfl | around
  · rw [kind] at confines
    cases confines
  · rw [seenFrom_iff.mp seen body around deeper] at confines
    cases confines

/-- Any other body holds the `var`s of the function around it. -/
theorem hoistedVars_body (found : body.parent? = some scope)
    (passes : body.kind.confines = false) : scope.hoistedVars body = body.hoistedVars body := by
  rw [hoistedVars, hoistedVars]
  refine List.filter_congr fun statement member => ?_
  have depth := depth_of_parent? found
  have same : scope.seenFrom statement = body.seenFrom statement := by
    rw [Bool.eq_iff_iff, seenFrom_iff, seenFrom_iff]
    constructor
    · intro seen outer around deeper
      exact seen outer around (by omega)
    · intro seen outer around deeper
      by_cases same : outer.depth = body.depth
      · rcases mem_nodes_iff.mp member with rfl | above
        · exact absurd (depth_lt_of_mem_ancestors around) (by omega)
        · rw [eq_of_mem_ancestors_of_depth_eq around above same]
          exact passes
      · exact seen outer around (by omega)
  rw [same]

theorem blockBinding?_eq (block : Site) :
    blockBinding? name block = block.blockDeclarations.lookup name :=
  findSome?_eq_lookup_flatMap statementBinding?_eq block.namedChildren

/-- At one node the search finds the first entry among all it sees of the node. -/
theorem scopeBinding?_eq (grammatical : scope.top.Grammatical) :
    scopeBinding? name scope = scope.searched.lookup name := by
  rw [searched, List.lookup_append]
  by_cases function : scope.kind.isFunction = true
  · rw [scopeBinding?_of_isFunction function, contribution_of_isFunction function, leaked,
      if_pos function, List.lookup_append, lookup_elim, lookup_elim]
    cases found : scope.child? .body with
    | none => simp
    | some body =>
        have up := parent?_of_child? found
        have hoisted : hoistedBinding? name body = (body.variableEntries body).lookup name :=
          hoistedBinding?_eq (by rwa [top_of_parent? up])
        rw [Option.bind_some, Option.bind_some, Option.bind_some, hoisted, variableEntries,
          variableEntries]
        cases confines : body.kind.confines with
        | true => rw [hoistedVars_body_of_confines up confines]; simp
        | false => rw [hoistedVars_body up confines]; simp
  · have program : (blockBinding? name scope).or (hoistedBinding? name scope) =
        (scope.blockDeclarations ++ scope.variableEntries scope).lookup name := by
      rw [List.lookup_append, ← blockBinding?_eq, ← hoistedBinding?_eq grammatical]
    have heading : (scope.child? .initializer).bind (statementBinding? name) =
        ((scope.child? .initializer).elim [] declarations).lookup name := by
      rw [lookup_elim, funext statementBinding?_eq]
    rw [leaked_of_not_isFunction (Bool.eq_false_iff.mpr function), List.lookup_nil,
      Option.or_none, scopeBinding?, contribution]
    generalize scope.kind = kind at function ⊢
    -- One goal for each kind of scope that is not a function, and one for all other kinds.
    split
    · exact program
    · exact blockBinding?_eq scope
    · exact blockBinding?_eq scope
    · exact findSome?_eq_lookup_flatMap blockBinding?_eq scope.namedChildren
    · exact heading
    · exact otherIf_any_patternBinds (scope.child? .left)
    · exact otherIf_any_patternBinds (scope.child? .parameter)
    · grind

/-! ## The search and the way down -/

/-- A node around a site binds a name, and none nearer to the site does. -/
def Decides (outer site : Site) (name : String) (binding : Binding) : Prop :=
  outer ∈ site.ancestors ∧ scopeBinding? name outer = some binding ∧
    ∀ inner ∈ site.ancestors, outer.depth < inner.depth → scopeBinding? name inner = none

/-- The nearest scope that binds a name decides. -/
theorem lookup_eq_some_iff {binding : Binding} :
    site.lookup name = some binding ↔ ∃ outer, Decides outer site name binding := by
  simp only [Decides]
  induction site using induction_down with
  | root t => simp [lookup]
  | step parent child found ih =>
      have up := ancestors_of_parent? found
      rw [lookup, up, List.findSome?_cons]
      cases here : scopeBinding? name parent with
      | some decided =>
          constructor
          · rintro same
            refine ⟨parent, List.mem_cons_self, here.trans same, ?_⟩
            intro inner member deeper
            rcases List.mem_cons.mp member with rfl | further
            · exact absurd deeper (Nat.lt_irrefl _)
            · exact absurd (depth_lt_of_mem_ancestors further) (Nat.lt_asymm deeper)
          · rintro ⟨outer, around, binds, nearer⟩
            rcases List.mem_cons.mp around with rfl | further
            · exact here.symm.trans binds
            · have unseen := nearer parent List.mem_cons_self (depth_lt_of_mem_ancestors further)
              cases here.symm.trans unseen
      | none =>
          rw [← lookup, ih]
          constructor
          · rintro ⟨outer, around, binds, nearer⟩
            refine ⟨outer, List.mem_cons_of_mem _ around, binds, ?_⟩
            intro inner member deeper
            rcases List.mem_cons.mp member with rfl | further
            · exact here
            · exact nearer inner further deeper
          · rintro ⟨outer, around, binds, nearer⟩
            rcases List.mem_cons.mp around with rfl | further
            · cases here.symm.trans binds
            · exact ⟨outer, further, binds, fun inner member =>
                nearer inner (List.mem_cons_of_mem _ member)⟩

theorem lookup_of_parent? {child parent : Site} (found : child.parent? = some parent)
    (grammatical : parent.top.Grammatical) :
    child.lookup name = (parent.searched.lookup name).or (parent.lookup name) := by
  rw [lookup, ancestors_of_parent? found, List.findSome?_cons, scopeBinding?_eq grammatical]
  cases parent.searched.lookup name <;> rfl

theorem resolveDown_eq (declare : Site → Environment) (site : Site) (name : String) :
    site.resolveDown declare name = (site.ancestors.flatMap declare).lookup name := by
  rw [resolveDown, descend_path, Option.bind_some]
  induction site.ancestors with
  | nil => rfl
  | cons outer further ih =>
      rw [List.foldr_cons, List.flatMap_cons, List.lookup_append, List.lookup_append, ih]

theorem resolveDown_of_parent? {child parent : Site} (declare : Site → Environment)
    (found : child.parent? = some parent) :
    child.resolveDown declare name =
      ((declare parent).lookup name).or (parent.resolveDown declare name) := by
  rw [resolveDown_eq, resolveDown_eq, ancestors_of_parent? found, List.flatMap_cons,
    List.lookup_append]

theorem lookup_eq_resolveDown_searched (grammatical : site.top.Grammatical) :
    site.lookup name = site.resolveDown searched name := by
  induction site using induction_down with
  | root t => rfl
  | step parent child found ih =>
      rw [top_of_parent? found] at grammatical
      rw [lookup_of_parent? found grammatical, resolveDown_of_parent? searched found,
        ih grammatical]

/-- A `var` answers the search from a child either out of the parent, or out of a node
further up if the search sees nothing of the parent. -/
theorem leaks_of_parent? {child parent outer : Site} (found : child.parent? = some parent) :
    Leaks outer child name ↔
      (outer = parent ∧ parent.contribution.lookup name = none ∧
        parent.leaked.lookup name ≠ none ∧
        parent.leaked.lookup name ≠ parent.resolveDown contribution name) ∨
      (parent.searched.lookup name = none ∧ Leaks outer parent name) := by
  have up := ancestors_of_parent? found
  constructor
  · rintro ⟨around, nearer, own, leaks, differs⟩
    rw [up] at around nearer
    rcases List.mem_cons.mp around with rfl | further
    · exact Or.inl ⟨rfl, own, leaks, differs⟩
    · refine Or.inr ⟨nearer parent List.mem_cons_self (depth_lt_of_mem_ancestors further), ?_⟩
      exact ⟨further, fun inner member => nearer inner (List.mem_cons_of_mem _ member), own,
        leaks, differs⟩
  · rintro (⟨rfl, own, leaks, differs⟩ | ⟨unseen, around, nearer, own, leaks, differs⟩)
    · refine ⟨mem_ancestors_of_parent? found, ?_, own, leaks, differs⟩
      intro inner member deeper
      rw [up] at member
      rcases List.mem_cons.mp member with rfl | further
      · exact absurd deeper (Nat.lt_irrefl _)
      · exact absurd (depth_lt_of_mem_ancestors further) (Nat.lt_asymm deeper)
    · refine ⟨by rw [up]; exact List.mem_cons_of_mem _ around, ?_, own, leaks, differs⟩
      intro inner member deeper
      rw [up] at member
      rcases List.mem_cons.mp member with rfl | further
      · exact unseen
      · exact nearer inner further deeper

theorem lookup_ne_resolveDown_iff (grammatical : site.top.Grammatical) :
    site.lookup name ≠ site.resolveDown contribution name ↔ ∃ outer, Leaks outer site name := by
  induction site using induction_down with
  | root t =>
      constructor
      · exact fun differ => absurd rfl differ
      · rintro ⟨outer, around, -⟩
        cases around
  | step parent child found ih =>
      rw [top_of_parent? found] at grammatical
      rw [lookup_of_parent? found grammatical, resolveDown_of_parent? contribution found]
      simp only [leaks_of_parent? found, exists_or, exists_and_left, exists_eq_left]
      rw [← ih grammatical, searched, List.lookup_append]
      cases own : parent.contribution.lookup name with
      | some binding => simp
      | none =>
          cases leaked : parent.leaked.lookup name with
          | some binding => simp
          | none => simp

/-- **The search outwards is the way down, but for functions that are bodies.** In a tree
that follows the grammar a name is looked up as if the declarations were gathered from the
root down to the site, each node overriding the nodes around it, where a function with a
function as its body also declares the `var`s that bind in that body. Without these the
two answers differ exactly where such a `var` answers the search. -/
theorem lookup_eq_resolveDown_iff (site : Site) (name : String)
    (grammatical : site.top.Grammatical) :
    site.lookup name = site.resolveDown searched name ∧
      (site.lookup name = site.resolveDown contribution name ↔
        ¬ ∃ outer, Leaks outer site name) := by
  refine ⟨lookup_eq_resolveDown_searched grammatical, ?_⟩
  rw [← lookup_ne_resolveDown_iff grammatical, Classical.not_not]

/-- A `var` further down in a function hides the constant of the file. -/
theorem lookup_eq_resolveDown_iff_hoisted :
    ∃ site : Site,
      identifier? "const n = 0; (a) => \x7b HERE; if (a) var n; \x7d;" "HERE" = some site ∧
      site.top.Grammatical ∧
      site.lookup "n" = site.resolveDown searched "n" ∧
      (site.lookup "n" = site.resolveDown contribution "n" ↔ ¬ ∃ outer, Leaks outer site "n") := by
  have placed : (identifier? "const n = 0; (a) => \x7b HERE; if (a) var n; \x7d;" "HERE").any
      (fun site => decide site.top.Grammatical) = true := by decide +kernel
  obtain ⟨site, found, holds⟩ := (Option.any_eq_true _ _).mp placed
  have grammatical := of_decide_eq_true holds
  exact ⟨site, found, grammatical, lookup_eq_resolveDown_iff site "n" grammatical⟩

/-- The `var` of an arrow function is seen from the parameters of an arrow function that has
it as its body, where the constant of the file should be seen. -/
theorem lookup_ne_resolveDown_in_parameter :
    ∃ site : Site,
      identifier? "const n = 0; (a = HERE) => (b) => \x7b var n = 1; \x7d;" "HERE" = some site ∧
      site.top.Grammatical ∧
      (site.lookup "n").bind Binding.valueText? = some "1" ∧
      (site.resolveDown contribution "n").bind Binding.valueText? = some "0" := by
  have placed : (identifier? "const n = 0; (a = HERE) => (b) => \x7b var n = 1; \x7d;" "HERE").any
      (fun site => decide (site.top.Grammatical ∧
        (site.lookup "n").bind Binding.valueText? = some "1" ∧
        (site.resolveDown contribution "n").bind Binding.valueText? = some "0")) = true := by
    decide +kernel
  obtain ⟨site, found, holds⟩ := (Option.any_eq_true _ _).mp placed
  exact ⟨site, found, of_decide_eq_true holds⟩

end Site

end TypedQueries
