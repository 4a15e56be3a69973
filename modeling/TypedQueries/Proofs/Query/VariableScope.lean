import TypedQueries.Proofs.Query.Confinement

/-! # How far a `var` reaches

A `var` statement makes its names known in the whole function or program it belongs to:
from anywhere within, a lookup of such a name is decided there (`Site.var_decided_within`).
The `var` in the heading of a loop over elements or keys is known in that loop only, and
from elsewhere the lookup is decided within the function exactly if the name is declared
there in another way.
-/

namespace TypedQueries

/-- The kinds of node at which the reach of a `var` ends. -/
def Kind.endsVariables (kind : Kind) : Bool :=
  kind.isFunction || kind == .classStaticBlock || kind == .program

theorem Kind.endsVariables_of_isFunction {kind : Kind} (isFunction : kind.isFunction = true) :
    kind.endsVariables = true := by
  rw [endsVariables, isFunction, Bool.true_or, Bool.true_or]

namespace Site

variable {site scope : Site} {name : String}

/-- The function, static block or program a `var` belongs to. -/
def variableScope? (site : Site) : Option Site := site.ancestors.find? (·.kind.endsVariables)

/-- The names a loop over elements or keys binds in its heading. -/
def headingNames (loop : Site) : List String := (loop.child? .left).elim [] (·.node.boundNames)

/-- Whether the heading of a loop over elements or keys is written with `var`. -/
def saysVar (loop : Site) : Bool :=
  loop.node.children.any fun part => part.kind == .token && part.text == "var"

/-- The names a function or the program declares other than by `var`: its parameters, or
what its statements declare. -/
def directNames (scope : Site) : List String :=
  if scope.kind = .program then scope.blockDeclarations.names else scope.parameterNames

/-- A lookup gives a binding, and the node that decides is the scope or within it; so is the
variable if there is one. -/
def DecidedWithin (scope site : Site) (name : String) : Prop :=
  ∃ outer binding, site.lookup name = some binding ∧ Decides outer site name binding ∧
    (outer = scope ∨ scope ∈ outer.ancestors) ∧
    ∀ value, binding = .initialized value → scope ∈ value.ancestors

/-- A scope declares a name, or a node between the site and the scope does; the headings of
loops elsewhere do not count. -/
def DeclaredAround (scope site : Site) (name : String) : Prop :=
  (∃ outer ∈ site.ancestors, scope ∈ outer.ancestors ∧ name ∈ outer.searched.names) ∨
    name ∈ scope.directNames ∨
    (∃ statement : Site, statement.kind = .variableDeclaration ∧
      statement.variableScope? = some scope ∧ name ∈ statement.declarations.names) ∨
    name ∈ scope.leaked.names

/-! ## The statements that belong to a scope -/

theorem mem_ancestors_of_variableScope? (found : site.variableScope? = some scope) :
    scope ∈ site.ancestors :=
  List.mem_of_find?_eq_some found

theorem seenFrom_of_variableScope? (grammatical : site.top.Grammatical)
    (statement : site.kind = .variableDeclaration) (found : site.variableScope? = some scope) :
    scope.seenFrom site = true := by
  rw [seenFrom_iff]
  intro outer around deeper
  rw [← Bool.not_eq_true]
  intro confines
  obtain ⟨placing, member, depth, placed⟩ :=
    exists_placing (grammatical_of_mem_ancestors grammatical around) around statement
      (Kind.placesVariables_of_confines confines)
  have ends : placing.kind.endsVariables = true := by
    rcases placed with isBlock | ⟨isFunction, -⟩
    · rw [isBlock]
      rfl
    · exact Kind.endsVariables_of_isFunction isFunction
  have nearest := depth_le_of_find?_ancestors found member ends
  omega

/-- What a `var` belongs to is not seen from further out. -/
theorem exists_confines_of_endsVariables {outer : Site} (grammatical : site.top.Grammatical)
    (around : scope ∈ site.ancestors) (noClass : scope.kind ≠ .classBody)
    (member : outer ∈ site.ancestors) (deeper : scope.depth < outer.depth)
    (ends : outer.kind.endsVariables = true) :
    ∃ between ∈ site.ancestors, scope.depth < between.depth ∧ between.kind.confines = true := by
  rw [Kind.endsVariables, Bool.or_eq_true, Bool.or_eq_true, beq_iff_eq, beq_iff_eq] at ends
  rcases ends with (isFunction | isBlock) | isProgram
  · exact ⟨outer, member, deeper, Kind.confines_of_isFunction isFunction⟩
  · exact exists_confines_of_classStaticBlock grammatical around noClass member deeper isBlock
  · have placed : outer.WellPlaced :=
      grammatical outer (mem_all_iff.mpr (top_of_mem_ancestors member))
    have atRoot : outer.depth = 0 := congrArg List.length (placed.program isProgram)
    rw [atRoot] at deeper
    exact absurd deeper (Nat.not_lt_zero _)

theorem variableScope?_of_seenFrom (grammatical : site.top.Grammatical)
    (ends : scope.kind.endsVariables = true) (around : scope ∈ site.ancestors)
    (seen : scope.seenFrom site = true) : site.variableScope? = some scope := by
  cases found : site.variableScope? with
  | none => exact absurd ends (List.find?_eq_none.mp found scope around)
  | some outer =>
      have member := mem_ancestors_of_variableScope? found
      have outerEnds := List.find?_some (p := fun outer : Site => outer.kind.endsVariables) found
      rcases Nat.eq_or_lt_of_le (depth_le_of_find?_ancestors found around ends) with same | deeper
      · rw [eq_of_mem_ancestors_of_depth_eq around member same]
      · obtain ⟨between, among, within, confines⟩ := exists_confines_of_endsVariables grammatical
          around (Kind.ne_of_test ends rfl) member deeper outerEnds
        rw [seenFrom_iff.mp seen between among within] at confines
        cases confines

/-- The `var` statements seen from a scope are those that belong to it. -/
theorem mem_hoistedVars_self_iff {statement : Site} (grammatical : scope.top.Grammatical)
    (ends : scope.kind.endsVariables = true) : statement ∈ scope.hoistedVars scope ↔
      statement.kind = .variableDeclaration ∧ statement.variableScope? = some scope := by
  constructor
  · intro member
    have around : scope ∈ statement.ancestors :=
      mem_ancestors_of_mem_hoistedVars (Kind.ne_of_test ends rfl) member
    obtain ⟨-, kind, seen⟩ := mem_hoistedVars_iff.mp member
    rw [top_of_mem_ancestors around] at grammatical
    exact ⟨kind, variableScope?_of_seenFrom grammatical ends around seen⟩
  · rintro ⟨kind, found⟩
    have around := mem_ancestors_of_variableScope? found
    rw [top_of_mem_ancestors around] at grammatical
    exact mem_hoistedVars_iff.mpr
      ⟨Or.inr around, kind, seenFrom_of_variableScope? grammatical kind found⟩

theorem mem_names_flatMap {α : Type} {entries : α → Environment} {items : List α} :
    name ∈ Environment.names (items.flatMap entries) ↔
      ∃ item ∈ items, name ∈ (entries item).names := by
  rw [Environment.names, List.map_flatMap, List.mem_flatMap]
  rfl

/-- All that a function or the program declares: what it declares directly, and each `var`
that belongs to it. -/
theorem mem_names_contribution_iff (grammatical : scope.top.Grammatical)
    (kind : scope.kind.isFunction = true ∨ scope.kind = .program) :
    name ∈ scope.contribution.names ↔ name ∈ scope.directNames ∨
      ∃ statement ∈ scope.hoistedVars scope, name ∈ statement.declarations.names := by
  rcases kind with isFunction | isProgram
  · have noProgram : scope.kind ≠ .program := Kind.ne_of_test isFunction rfl
    rw [contribution_of_isFunction isFunction, names_append, names_asOther, List.mem_append,
      directNames, if_neg noProgram]
    refine or_congr_right ⟨fun declared => ?_, ?_⟩
    · cases found : scope.child? .body with
      | none => rw [found] at declared; cases declared
      | some body =>
          rw [found] at declared
          obtain ⟨statement, member, declared⟩ := mem_names_flatMap.mp declared
          have around := mem_ancestors_of_mem_hoistedVars_body (parent?_of_child? found) member
          obtain ⟨-, rest⟩ := mem_hoistedVars_iff.mp member
          exact ⟨statement, mem_hoistedVars_iff.mpr ⟨Or.inr around, rest⟩, declared⟩
    · rintro ⟨statement, member, declared⟩
      obtain ⟨body, found, inBody⟩ :=
        mem_hoistedVars_body_of_mem_hoistedVars grammatical isFunction member
      rw [found]
      exact mem_names_flatMap.mpr ⟨statement, inBody, declared⟩
  · rw [contribution, isProgram, directNames, if_pos isProgram]
    dsimp only
    rw [names_append, List.mem_append]
    exact or_congr_right mem_names_flatMap

/-! ## Where a lookup is decided -/

/-- A scope that binds a name decides, unless one nearer to the site does. -/
theorem exists_decides_of_binds {outer : Site} (around : outer ∈ site.ancestors)
    (binds : scopeBinding? name outer ≠ none) :
    ∃ inner binding, Decides inner site name binding ∧ outer.depth ≤ inner.depth := by
  cases found : site.lookup name with
  | none => exact absurd (List.findSome?_eq_none_iff.mp found outer around) binds
  | some binding =>
      obtain ⟨inner, decides⟩ := lookup_eq_some_iff.mp found
      refine ⟨inner, binding, decides, Nat.le_of_not_lt fun further => ?_⟩
      exact binds (decides.2.2 outer around further)

/-- A name that the scope or a node within it binds is decided there. -/
theorem decidedWithin_of_binds {outer : Site} (grammatical : site.top.Grammatical)
    (inside : scope ∈ site.ancestors) (around : outer ∈ site.ancestors)
    (within : scope.depth ≤ outer.depth) (binds : name ∈ outer.searched.names) :
    DecidedWithin scope site name := by
  have outerGrammatical := grammatical_of_mem_ancestors grammatical around
  rw [mem_names_iff, ← scopeBinding?_eq outerGrammatical] at binds
  obtain ⟨inner, binding, decides, deeper⟩ := exists_decides_of_binds around binds
  have place : inner = scope ∨ scope ∈ inner.ancestors := by
    rcases Nat.eq_or_lt_of_le (Nat.le_trans within deeper) with same | further
    · exact Or.inl (eq_of_mem_ancestors_of_depth_eq decides.1 inside same.symm)
    · exact Or.inr (mem_ancestors_of_depth_lt inside decides.1 further)
  refine ⟨inner, binding, lookup_eq_some_iff.mpr ⟨inner, decides⟩, decides, place, ?_⟩
  rintro value rfl
  have innerGrammatical := grammatical_of_mem_ancestors grammatical decides.1
  obtain ⟨-, declarator, declares, below, -⟩ :=
    exists_entryWithin_of_scopeBinding? innerGrammatical decides.2.1
  rw [ancestors_of_parent? (parent?_of_declares declares)]
  refine List.mem_cons_of_mem _ ?_
  rcases place with rfl | further
  · exact below
  · exact mem_ancestors_trans below further

/-- A name is decided within a function or the program exactly if it is declared there. -/
theorem decidedWithin_iff (grammatical : site.top.Grammatical)
    (kind : scope.kind.isFunction = true ∨ scope.kind = .program)
    (inside : scope ∈ site.ancestors) :
    DecidedWithin scope site name ↔ DeclaredAround scope site name := by
  have scopeGrammatical := grammatical_of_mem_ancestors grammatical inside
  have ends : scope.kind.endsVariables = true := by
    rcases kind with isFunction | isProgram
    · exact Kind.endsVariables_of_isFunction isFunction
    · rw [isProgram]
      rfl
  have declared : name ∈ scope.searched.names ↔
      name ∈ scope.directNames ∨
        (∃ statement : Site, statement.kind = .variableDeclaration ∧
          statement.variableScope? = some scope ∧ name ∈ statement.declarations.names) ∨
        name ∈ scope.leaked.names := by
    rw [searched, names_append, List.mem_append,
      mem_names_contribution_iff scopeGrammatical kind, or_assoc]
    simp only [mem_hoistedVars_self_iff scopeGrammatical ends, and_assoc]
  rw [DeclaredAround, ← declared]
  constructor
  · rintro ⟨outer, binding, -, ⟨around, binds, -⟩, place, -⟩
    have outerGrammatical := grammatical_of_mem_ancestors grammatical around
    have named : name ∈ outer.searched.names := by
      rw [mem_names_iff, ← scopeBinding?_eq outerGrammatical, binds]
      exact Option.some_ne_none binding
    rcases place with rfl | within
    · exact Or.inr named
    · exact Or.inl ⟨outer, around, within, named⟩
  · rintro (⟨outer, around, within, named⟩ | named)
    · exact decidedWithin_of_binds grammatical inside around
        (Nat.le_of_lt (depth_lt_of_mem_ancestors within)) named
    · exact decidedWithin_of_binds grammatical inside inside (Nat.le_refl _) named

/-- The heading of a loop over elements or keys declares its names in the loop. -/
theorem names_searched_of_forInStatement {loop : Site} (kind : loop.kind = .forInStatement) :
    loop.searched.names = loop.headingNames := by
  have noFunction : loop.kind.isFunction = false := by
    rw [kind]
    rfl
  rw [searched, leaked_of_not_isFunction noFunction, List.append_nil, contribution, kind]
  exact names_asOther loop.headingNames

/-- **A `var` reaches as far as its function, but for those in headings of loops over elements
or keys.** In a tree that follows the grammar let a site be in a function or the program.
The name of every `var` declaration that belongs to this scope is found from the site, and
what is found is declared in the scope. The name in a loop heading that belongs to the
scope is found in it exactly from within the loop, or if the name is declared in the scope
in another way. -/
theorem var_decided_within (site scope : Site) (name : String)
    (grammatical : site.top.Grammatical)
    (kind : scope.kind.isFunction = true ∨ scope.kind = .program)
    (inside : scope ∈ site.ancestors) :
    (∀ statement : Site, statement.kind = .variableDeclaration →
      statement.variableScope? = some scope → name ∈ statement.declarations.names →
      DecidedWithin scope site name) ∧
    (∀ loop : Site, loop.kind = .forInStatement → loop.saysVar = true →
      loop.variableScope? = some scope → name ∈ loop.headingNames →
      (DecidedWithin scope site name ↔
        loop ∈ site.ancestors ∨ DeclaredAround scope site name)) := by
  rw [decidedWithin_iff grammatical kind inside]
  constructor
  · intro statement isStatement found declared
    exact Or.inr (Or.inr (Or.inl ⟨statement, isStatement, found, declared⟩))
  · intro loop isLoop _ found heading
    refine ⟨Or.inr, fun known => known.elim (fun around => ?_) id⟩
    refine Or.inl ⟨loop, around, mem_ancestors_of_variableScope? found, ?_⟩
    rwa [names_searched_of_forInStatement isLoop]

/-- A node belongs to the scope around it that is where its own scope is. -/
theorem variableScope?_of_path (below : site ∈ scope.nodes)
    (way : site.variableScope?.map path = some scope.path) :
    site.variableScope? = some scope := by
  obtain ⟨outer, found, same⟩ := Option.map_eq_some_iff.mp way
  have tree := top_of_mem_ancestors (mem_ancestors_of_variableScope? found)
  rw [found, eq_of_path_eq (tree.trans (top_of_mem_nodes below)) same]

/-- The `var` in the heading of a plain loop is known after the loop. -/
theorem var_decided_within_after_loop :
    ∃ site scope statement : Site,
      identifier? "(a) => \x7b if (a) for (var n = 0;;); HERE; \x7d;" "HERE" = some site ∧
      site.top.Grammatical ∧ scope.kind.isFunction = true ∧ scope ∈ site.ancestors ∧
      statement.kind = .variableDeclaration ∧ statement.variableScope? = some scope ∧
      "n" ∈ statement.declarations.names ∧ DecidedWithin scope site "n" := by
  have placed : (identifier? "(a) => \x7b if (a) for (var n = 0;;); HERE; \x7d;" "HERE").any
      (fun site => decide site.top.Grammatical && site.variableScope?.any fun scope =>
        decide (scope.kind.isFunction = true) && scope.nodes.any fun statement =>
          decide (statement.kind = .variableDeclaration ∧
            statement.variableScope?.map path = some scope.path ∧
            "n" ∈ statement.declarations.names)) = true := by
    decide +kernel
  obtain ⟨site, found, holds⟩ := (Option.any_eq_true _ _).mp placed
  rw [Bool.and_eq_true] at holds
  have grammatical := of_decide_eq_true holds.1
  obtain ⟨scope, around, holds⟩ := (Option.any_eq_true _ _).mp holds.2
  rw [Bool.and_eq_true] at holds
  have isFunction := of_decide_eq_true holds.1
  obtain ⟨statement, below, holds⟩ := List.any_eq_true.mp holds.2
  obtain ⟨isStatement, way, declared⟩ := of_decide_eq_true holds
  have inside := mem_ancestors_of_variableScope? around
  have belongs := variableScope?_of_path below way
  refine ⟨site, scope, statement, found, grammatical, isFunction, inside, isStatement, belongs,
    declared, ?_⟩
  exact (var_decided_within site scope "n" grammatical (Or.inl isFunction) inside).1 statement
    isStatement belongs declared

/-- The `var` in the heading of a loop over elements is not known after the loop, where the
constant of the file is seen. -/
theorem var_not_decided_within_after_loop :
    ∃ site scope loop : Site,
      identifier? "const n = 1; (a) => \x7b for (var n of a); HERE; \x7d;" "HERE" = some site ∧
      site.top.Grammatical ∧ scope.kind.isFunction = true ∧ scope ∈ site.ancestors ∧
      loop.kind = .forInStatement ∧ loop.saysVar = true ∧ loop.variableScope? = some scope ∧
      "n" ∈ loop.headingNames ∧ (site.lookup "n").bind Binding.valueText? = some "1" ∧
      ¬ DecidedWithin scope site "n" := by
  have placed : (identifier? "const n = 1; (a) => \x7b for (var n of a); HERE; \x7d;" "HERE").any
      (fun site => decide (site.top.Grammatical ∧
          (site.lookup "n").bind Binding.valueText? = some "1") &&
        site.variableScope?.any fun scope =>
          decide (scope.kind.isFunction = true) &&
          ((site.lookup "n").any fun
            | .other => false
            | .initialized value => value.ancestors.all (·.path != scope.path)) &&
          scope.nodes.any fun loop =>
            decide (loop.kind = .forInStatement ∧ loop.saysVar = true ∧
              loop.variableScope?.map path = some scope.path ∧
              "n" ∈ loop.headingNames)) = true := by
    decide +kernel
  obtain ⟨site, found, holds⟩ := (Option.any_eq_true _ _).mp placed
  rw [Bool.and_eq_true] at holds
  obtain ⟨grammatical, answer⟩ := of_decide_eq_true holds.1
  obtain ⟨scope, around, holds⟩ := (Option.any_eq_true _ _).mp holds.2
  rw [Bool.and_eq_true, Bool.and_eq_true] at holds
  obtain ⟨⟨isFunction, away⟩, holds⟩ := holds
  obtain ⟨loop, below, holds⟩ := List.any_eq_true.mp holds
  obtain ⟨isLoop, keyword, way, heading⟩ := of_decide_eq_true holds
  refine ⟨site, scope, loop, found, grammatical, of_decide_eq_true isFunction,
    mem_ancestors_of_variableScope? around, isLoop, keyword, variableScope?_of_path below way,
    heading, answer, ?_⟩
  rintro ⟨outer, binding, known, -, -, inScope⟩
  rw [known, Option.any_some] at away
  cases binding with
  | other => cases away
  | initialized value =>
      have differ := List.all_eq_true.mp away scope (inScope value rfl)
      rw [bne_self_eq_false] at differ
      cases differ

end Site

end TypedQueries
