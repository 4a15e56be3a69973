import TypedQueries.Proofs.Query.Lookup

/-! # Variables and the functions around them

A value that a lookup gives belongs to a variable of that name, and the nearest function
around the variable is also around the place of the lookup. The one exception is a `var`
of a function that is the body of another function: it is seen from the parameters of the
outer one (`Site.escapes_iff`).
-/

namespace TypedQueries

namespace Site

variable {site scope child parent value declarator : Site} {name : String}

/-- The nearest function around a site. -/
def nearestFunction? (site : Site) : Option Site := site.ancestors.find? (·.kind.isFunction)

/-- The nearest function at or around a site. -/
def functionAt? (site : Site) : Option Site :=
  (site :: site.ancestors).find? (·.kind.isFunction)

/-- A variable with its name and its initial value. -/
structure Declares (declarator : Site) (name : String) (value : Site) : Prop where
  kind : declarator.kind = .variableDeclarator
  named : ∃ target, declarator.child? .name = some target ∧ target.kind = .identifier ∧
    target.text = name
  initialized : declarator.child? .value = some value

theorem nearestFunction?_of_parent? (found : child.parent? = some parent) :
    child.nearestFunction? = parent.functionAt? := by
  rw [nearestFunction?, ancestors_of_parent? found, functionAt?]

theorem functionAt?_of_isFunction (kind : site.kind.isFunction = true) :
    site.functionAt? = some site := by
  rw [functionAt?, List.find?_cons, kind]

theorem functionAt?_of_not_isFunction (kind : site.kind.isFunction = false) :
    site.functionAt? = site.nearestFunction? := by
  rw [functionAt?, List.find?_cons, kind, nearestFunction?]

theorem functionAt?_of_kind {kind : Kind} (same : site.kind = kind)
    (other : kind.isFunction = false) : site.functionAt? = site.nearestFunction? :=
  functionAt?_of_not_isFunction (same ▸ other)

theorem mem_ancestors_of_functionAt? {function : Site} (around : scope ∈ site.ancestors)
    (found : scope.functionAt? = some function) : function ∈ site.ancestors := by
  rcases List.mem_cons.mp (List.mem_of_find?_eq_some found) with rfl | further
  · exact around
  · exact mem_ancestors_trans around further

/-- Seen from a scope, a statement belongs to the function the scope belongs to. -/
theorem nearestFunction?_of_seenFrom (around : scope ∈ site.ancestors)
    (seen : scope.seenFrom site = true) : site.nearestFunction? = scope.functionAt? := by
  induction site using induction_down with
  | root t => cases around
  | step parent child found ih =>
      have up := ancestors_of_parent? found
      rw [nearestFunction?_of_parent? found]
      rw [up] at around
      rcases List.mem_cons.mp around with rfl | further
      · rfl
      · have passes : parent.kind.confines = false :=
          seenFrom_iff.mp seen parent (mem_ancestors_of_parent? found)
            (depth_lt_of_mem_ancestors further)
        have seenParent : scope.seenFrom parent = true := by
          rw [seenFrom_iff] at seen ⊢
          intro outer member deeper
          exact seen outer (by rw [up]; exact List.mem_cons_of_mem _ member) deeper
        rw [functionAt?_of_not_isFunction (Bool.or_eq_false_iff.mp passes).1,
          ih further seenParent]

/-! ## Where the variable of an entry stands -/

theorem declares_of_mem_declaratorEntries
    (entry : (name, Binding.initialized value) ∈ declarator.declaratorEntries) :
    declarator.Declares name value := by
  rw [declaratorEntries] at entry
  split at entry
  · next kind =>
      split at entry
      · cases entry
      · next target found =>
          split at entry
          · next plain =>
              have same := List.mem_singleton.mp entry
              refine ⟨kind, ⟨target, found, plain, (congrArg Prod.fst same).symm⟩, ?_⟩
              have initial := congrArg Prod.snd same
              cases given : declarator.child? .value with
              | none => rw [given] at initial; cases initial
              | some initialValue =>
                  rw [given] at initial
                  exact congrArg some (Binding.initialized.inj initial).symm
          · exact absurd entry not_initialized_mem_asOther
  · cases entry

/-- A variable of the entry stands within the site, in no function further inside. -/
def EntryWithin (outer : Site) (function : Option Site) (name : String) (value : Site) : Prop :=
  ∃ declarator : Site, declarator.Declares name value ∧ outer ∈ declarator.ancestors ∧
    declarator.nearestFunction? = function

theorem EntryWithin.of_child {function : Option Site} (found : child.parent? = some parent)
    (within : EntryWithin child function name value) : EntryWithin parent function name value := by
  obtain ⟨declarator, declares, around, nearest⟩ := within
  have further := mem_ancestors_trans around (mem_ancestors_of_parent? found)
  exact ⟨declarator, declares, further, nearest⟩

theorem entryWithin_of_mem_declarators {statement : Site}
    (other : statement.kind.isFunction = false)
    (entry : (name, Binding.initialized value) ∈
      statement.namedChildren.flatMap declaratorEntries) :
    EntryWithin statement statement.nearestFunction? name value := by
  obtain ⟨declarator, member, entry⟩ := List.mem_flatMap.mp entry
  have up := parent?_of_mem_namedChildren member
  refine ⟨declarator, declares_of_mem_declaratorEntries entry, mem_ancestors_of_parent? up, ?_⟩
  rw [nearestFunction?_of_parent? up, functionAt?_of_not_isFunction other]

theorem entryWithin_of_mem_declarations {statement : Site}
    (entry : (name, Binding.initialized value) ∈ statement.declarations) :
    EntryWithin statement statement.nearestFunction? name value := by
  induction statement using induction_up with
  | step statement ih =>
      by_cases exported : statement.kind = .exportStatement
      · rw [declarations_of_export exported] at entry
        cases found : statement.child? .declaration with
        | none => rw [found] at entry; cases entry
        | some part =>
            rw [found] at entry
            have up := parent?_of_child? found
            have within := (ih part (mem_children_of_child? found) entry).of_child up
            rwa [nearestFunction?_of_parent? up, functionAt?_of_kind exported rfl] at within
      · rw [declarations] at entry
        split at entry
        · next kind => exact entryWithin_of_mem_declarators (by rw [kind]; rfl) entry
        · next kind => exact entryWithin_of_mem_declarators (by rw [kind]; rfl) entry
        · next kind => exact absurd kind exported
        all_goals first
          | exact absurd entry not_initialized_mem_asOther
          | cases entry

theorem entryWithin_of_mem_blockDeclarations {block : Site}
    (entry : (name, Binding.initialized value) ∈ block.blockDeclarations) :
    EntryWithin block block.functionAt? name value := by
  obtain ⟨statement, member, entry⟩ := List.mem_flatMap.mp entry
  have up := parent?_of_mem_namedChildren member
  have within := (entryWithin_of_mem_declarations entry).of_child up
  rwa [nearestFunction?_of_parent? up] at within

theorem entryWithin_of_mem_variableEntries {root : Site}
    (around : ∀ statement ∈ scope.hoistedVars root, scope ∈ statement.ancestors)
    (entry : (name, Binding.initialized value) ∈ scope.variableEntries root) :
    EntryWithin scope scope.functionAt? name value := by
  obtain ⟨statement, member, entry⟩ := List.mem_flatMap.mp entry
  have seen := (mem_hoistedVars_iff.mp member).2.2
  obtain ⟨declarator, declares, further, nearest⟩ := entryWithin_of_mem_declarations entry
  refine ⟨declarator, declares, mem_ancestors_trans further (around statement member), ?_⟩
  rw [nearest, nearestFunction?_of_seenFrom (around statement member) seen]

/-- A variable that a node declares as a scope belongs to the function at or around the
node. -/
theorem entryWithin_of_mem_contribution (placed : scope.WellPlaced)
    (entry : (name, Binding.initialized value) ∈ scope.contribution) :
    EntryWithin scope scope.functionAt? name value := by
  by_cases function : scope.kind.isFunction = true
  · rw [contribution_of_isFunction function, List.mem_append] at entry
    rcases entry with parameter | entry
    · exact absurd parameter not_initialized_mem_asOther
    · cases found : scope.child? .body with
      | none => rw [found] at entry; cases entry
      | some body =>
          rw [found] at entry
          exact entryWithin_of_mem_variableEntries (fun statement member =>
            mem_ancestors_of_mem_hoistedVars_body (parent?_of_child? found) member) entry
  · rw [contribution] at entry
    split at entry
    · next kind =>
        rcases List.mem_append.mp entry with entry | entry
        · exact entryWithin_of_mem_blockDeclarations entry
        · refine entryWithin_of_mem_variableEntries (fun statement member => ?_) entry
          exact mem_ancestors_of_mem_hoistedVars (by rw [kind]; decide) member
    · exact entryWithin_of_mem_blockDeclarations entry
    · exact entryWithin_of_mem_blockDeclarations entry
    · next kind =>
        obtain ⟨part, member, entry⟩ := List.mem_flatMap.mp entry
        have up := parent?_of_mem_namedChildren member
        have noFunction : part.kind.isFunction = false := by
          refine placed.part kind part.node ?_
          rw [← map_node_namedChildren]
          exact List.mem_map_of_mem member
        have within := (entryWithin_of_mem_blockDeclarations entry).of_child up
        rwa [functionAt?_of_not_isFunction noFunction, nearestFunction?_of_parent? up] at within
    · cases found : scope.child? .initializer with
      | none => rw [found] at entry; cases entry
      | some heading =>
          rw [found] at entry
          have up := parent?_of_child? found
          have within := (entryWithin_of_mem_declarations entry).of_child up
          rwa [nearestFunction?_of_parent? up] at within
    · exact absurd entry not_initialized_mem_asOther
    · exact absurd entry not_initialized_mem_asOther
    · rw [if_neg function] at entry
      cases entry

/-- What the search sees besides belongs to a body that is itself a function or a class. -/
theorem exists_body_of_mem_leaked {binding : Binding}
    (entry : (name, binding) ∈ scope.leaked) :
    scope.kind.isFunction = true ∧ ∃ body, scope.child? .body = some body ∧
      body.kind.confines = true ∧ (name, binding) ∈ body.variableEntries body := by
  rw [leaked] at entry
  split at entry
  · next function =>
      cases found : scope.child? .body with
      | none => rw [found] at entry; cases entry
      | some body =>
          rw [found, Option.elim_some] at entry
          split at entry
          · next confines => exact ⟨function, body, rfl, confines, entry⟩
          · cases entry
  · cases entry

theorem entryWithin_of_mem_body {body : Site} (confines : body.kind.confines = true)
    (entry : (name, Binding.initialized value) ∈ body.variableEntries body) :
    EntryWithin body body.functionAt? name value := by
  refine entryWithin_of_mem_variableEntries (fun statement member => ?_) entry
  exact mem_ancestors_of_mem_hoistedVars (Kind.ne_of_test confines rfl) member

/-- A `var` that binds in a function stands in the function's body. -/
theorem mem_hoistedVars_body_of_mem_hoistedVars {function statement : Site}
    (grammatical : function.top.Grammatical) (kind : function.kind.isFunction = true)
    (member : statement ∈ function.hoistedVars function) :
    ∃ body, function.child? .body = some body ∧ statement ∈ function.hoistedVars body := by
  have around : function ∈ statement.ancestors :=
    mem_ancestors_of_mem_hoistedVars (Kind.ne_of_test kind rfl) member
  obtain ⟨-, isStatement, seen⟩ := mem_hoistedVars_iff.mp member
  have places := Kind.placesVariables_of_confines (Kind.confines_of_isFunction kind)
  rcases confines_between_or_placed grammatical around isStatement places
      (Kind.ne_of_test kind rfl) with
    ⟨between, among, deeper, confines⟩ | isBlock | ⟨-, inside⟩
  · rw [seenFrom_iff.mp seen between among deeper] at confines
    cases confines
  · exact absurd isBlock (Kind.ne_of_test kind rfl)
  · obtain ⟨body, found, within⟩ := body_within_of_inBodyOf around inside
    exact ⟨body, found, mem_hoistedVars_iff.mpr ⟨within, isStatement, seen⟩⟩

/-- The variable whose value is found at a node stands below the node. -/
theorem exists_entryWithin_of_scopeBinding? (grammatical : scope.top.Grammatical)
    (binds : scopeBinding? name scope = some (.initialized value)) :
    ∃ function, EntryWithin scope function name value := by
  rw [scopeBinding?_eq grammatical] at binds
  rcases List.mem_append.mp (mem_of_lookup binds) with own | leaked
  · exact ⟨_, entryWithin_of_mem_contribution (grammatical scope (mem_all_iff.mpr rfl)) own⟩
  · obtain ⟨-, body, found, confines, entry⟩ := exists_body_of_mem_leaked leaked
    exact ⟨_, (entryWithin_of_mem_body confines entry).of_child (parent?_of_child? found)⟩

/-! ## Values outside their function -/

/-- A lookup gives the value of a variable that stands in a function not around the site. -/
def Escapes (site : Site) (name : String) : Prop :=
  ∃ value declarator function : Site, site.lookup name = some (.initialized value) ∧
    declarator.Declares name value ∧ declarator.nearestFunction? = some function ∧
    function ∉ site.ancestors

theorem parent?_of_declares (declares : declarator.Declares name value) :
    value.parent? = some declarator :=
  parent?_of_child? declares.initialized

theorem exists_declares_of_lookup (grammatical : site.top.Grammatical)
    (found : site.lookup name = some (.initialized value)) :
    ∃ declarator : Site, declarator.Declares name value := by
  obtain ⟨outer, around, binds, -⟩ := lookup_eq_some_iff.mp found
  obtain ⟨-, declarator, declares, -⟩ :=
    exists_entryWithin_of_scopeBinding? (grammatical_of_mem_ancestors grammatical around) binds
  exact ⟨declarator, declares⟩

/-- A function around another node as its body has none of that body's `var`s. -/
theorem lookup_contribution_eq_none_iff {outer function : Site}
    (kind : outer.kind.isFunction = true) (found : outer.child? .body = some function)
    (isFunction : function.kind.isFunction = true) :
    outer.contribution.lookup name = none ↔ name ∉ outer.parameterNames := by
  have confines := Kind.confines_of_isFunction isFunction
  rw [contribution_of_isFunction kind, found, Option.elim_some, variableEntries,
    hoistedVars_body_of_confines (parent?_of_child? found) confines, List.flatMap_nil,
    List.append_nil, lookup_asOther, otherIf]
  by_cases member : name ∈ outer.parameterNames <;> simp [member]

theorem leaked_of_body {outer function : Site} (kind : outer.kind.isFunction = true)
    (found : outer.child? .body = some function) (isFunction : function.kind.isFunction = true) :
    outer.leaked = function.variableEntries function := by
  rw [leaked, if_pos kind, found, Option.elim_some, if_pos (Kind.confines_of_isFunction isFunction)]

/-- A function whose `var`s bind a name binds it as a scope. -/
theorem scopeBinding?_ne_none_of_variableEntries {function : Site} {binding : Binding}
    (grammatical : function.top.Grammatical) (kind : function.kind.isFunction = true)
    (binds : (function.variableEntries function).lookup name = some binding) :
    scopeBinding? name function ≠ none := by
  obtain ⟨statement, member, entry⟩ := List.mem_flatMap.mp (mem_of_lookup binds)
  obtain ⟨body, found, inBody⟩ := mem_hoistedVars_body_of_mem_hoistedVars grammatical kind member
  rw [scopeBinding?_eq grammatical, searched, contribution_of_isFunction kind, found]
  intro none
  rw [List.lookup_eq_none_iff] at none
  refine absurd (none (name, binding) ?_) (by simp)
  refine List.mem_append_left _ (List.mem_append_right _ ?_)
  exact List.mem_flatMap.mpr ⟨statement, inBody, entry⟩

/-- A `var` escapes only from a body that is itself a function. -/
theorem Escapes.exists_body (grammatical : site.top.Grammatical) (escapes : Escapes site name) :
    ∃ outer function value : Site, outer ∈ site.ancestors ∧ outer.kind.isFunction = true ∧
      outer.child? .body = some function ∧ function.kind.isFunction = true ∧
      name ∉ outer.parameterNames ∧
      (∀ inner ∈ site.ancestors, outer.depth < inner.depth → scopeBinding? name inner = none) ∧
      (function.variableEntries function).lookup name = some (.initialized value) := by
  obtain ⟨value, declarator, function, found, declares, nearest, outside⟩ := escapes
  obtain ⟨outer, around, binds, nearer⟩ := lookup_eq_some_iff.mp found
  have outerGrammatical := grammatical_of_mem_ancestors grammatical around
  have placed : outer.WellPlaced :=
    grammatical outer (mem_all_iff.mpr (top_of_mem_ancestors around))
  have same (other : Site) (declaresOther : other.Declares name value) : other = declarator :=
    Option.some.inj ((parent?_of_declares declaresOther).symm.trans (parent?_of_declares declares))
  -- What belongs to the function at or around the deciding scope does not escape.
  have confined (within : EntryWithin outer outer.functionAt? name value) : False := by
    obtain ⟨other, declaresOther, -, nearestOther⟩ := within
    obtain rfl := same other declaresOther
    exact outside (mem_ancestors_of_functionAt? around (nearestOther.symm.trans nearest))
  rw [scopeBinding?_eq outerGrammatical, searched, List.lookup_append] at binds
  cases own : outer.contribution.lookup name with
  | some binding =>
      rw [own] at binds
      obtain rfl := Option.some.inj binds
      exact (confined (entryWithin_of_mem_contribution placed (mem_of_lookup own))).elim
  | none =>
      rw [own, Option.none_or] at binds
      obtain ⟨kind, body, isBody, confines, entry⟩ :=
        exists_body_of_mem_leaked (mem_of_lookup binds)
      have within := entryWithin_of_mem_body confines entry
      by_cases isFunction : body.kind.isFunction = true
      · rw [leaked_of_body kind isBody isFunction] at binds
        exact ⟨outer, body, value, around, kind, isBody, isFunction,
          (lookup_contribution_eq_none_iff kind isBody isFunction).mp own, nearer, binds⟩
      · have up := parent?_of_child? isBody
        rw [functionAt?_of_not_isFunction (Bool.eq_false_iff.mpr isFunction),
          nearestFunction?_of_parent? up] at within
        exact (confined (within.of_child up)).elim

/-- **Variables stay in their function, but for functions that are bodies.** In a tree that
follows the grammar a value that a lookup gives is the initial value of a variable of that
name. The nearest function around the variable fails to be around the site exactly if that
function is the body of a function around the site which does not bind the name itself,
nothing nearer to the site binds it, and a `var` of the body gives the value. -/
theorem escapes_iff (site : Site) (name : String) (grammatical : site.top.Grammatical) :
    (∀ value : Site, site.lookup name = some (.initialized value) →
      ∃ declarator : Site, declarator.Declares name value) ∧
    (Escapes site name ↔
      ∃ outer function value : Site, outer ∈ site.ancestors ∧ outer.kind.isFunction = true ∧
        outer.child? .body = some function ∧ function.kind.isFunction = true ∧
        name ∉ outer.parameterNames ∧
        (∀ inner ∈ site.ancestors, outer.depth < inner.depth → scopeBinding? name inner = none) ∧
        (function.variableEntries function).lookup name = some (.initialized value)) := by
  refine ⟨fun value found => exists_declares_of_lookup grammatical found,
    fun escapes => escapes.exists_body grammatical, ?_⟩
  · rintro ⟨outer, function, value, around, kind, isBody, isFunction, other, nearer, binds⟩
    have up := parent?_of_child? isBody
    have outerGrammatical := grammatical_of_mem_ancestors grammatical around
    have functionGrammatical : function.top.Grammatical := by rwa [top_of_parent? up]
    have found : site.lookup name = some (.initialized value) := by
      refine lookup_eq_some_iff.mpr ⟨outer, around, ?_, nearer⟩
      rw [scopeBinding?_eq outerGrammatical, searched, List.lookup_append,
        (lookup_contribution_eq_none_iff kind isBody isFunction).mpr other, Option.none_or,
        leaked_of_body kind isBody isFunction, binds]
    have confines := Kind.confines_of_isFunction isFunction
    obtain ⟨declarator, declares, -, nearest⟩ :=
      entryWithin_of_mem_body confines (mem_of_lookup binds)
    refine ⟨value, declarator, function, found, declares, ?_, ?_⟩
    · rw [nearest, functionAt?_of_isFunction isFunction]
    · intro inside
      exact scopeBinding?_ne_none_of_variableEntries functionGrammatical isFunction binds
        (nearer function inside (depth_lt_of_parent? up))

/-- The search stays within a function with a block as its body. -/
theorem escapes_iff_in_block :
    ∃ site : Site, identifier? "(a) => \x7b var n = 1; HERE; \x7d;" "HERE" = some site ∧
      site.top.Grammatical ∧
      (∀ value : Site, site.lookup "n" = some (.initialized value) →
        ∃ declarator : Site, declarator.Declares "n" value) ∧
      (Escapes site "n" ↔
        ∃ outer function value : Site, outer ∈ site.ancestors ∧ outer.kind.isFunction = true ∧
          outer.child? .body = some function ∧ function.kind.isFunction = true ∧
          "n" ∉ outer.parameterNames ∧
          (∀ inner ∈ site.ancestors, outer.depth < inner.depth →
            scopeBinding? "n" inner = none) ∧
          (function.variableEntries function).lookup "n" = some (.initialized value)) := by
  have placed : (identifier? "(a) => \x7b var n = 1; HERE; \x7d;" "HERE").any
      (fun site => decide site.top.Grammatical) = true := by decide +kernel
  obtain ⟨site, found, holds⟩ := (Option.any_eq_true _ _).mp placed
  have grammatical := of_decide_eq_true holds
  exact ⟨site, found, grammatical, escapes_iff site "n" grammatical⟩

/-- A `var` of an arrow function escapes to the parameters of an arrow function that has it
as its body. -/
theorem escapes_in_parameter :
    ∃ site : Site, identifier? "(a = HERE) => (b) => \x7b var n = 1; \x7d;" "HERE" = some site ∧
      site.top.Grammatical ∧ Escapes site "n" := by
  have placed : (identifier? "(a = HERE) => (b) => \x7b var n = 1; \x7d;" "HERE").any
      (fun site => decide site.top.Grammatical && (site.lookup "n").any fun
        | .other => false
        | .initialized value => value.parent?.any fun declarator =>
            declarator.nearestFunction?.any fun function =>
              site.ancestors.all (·.path != function.path)) = true := by
    decide +kernel
  obtain ⟨site, here, holds⟩ := (Option.any_eq_true _ _).mp placed
  rw [Bool.and_eq_true] at holds
  have grammatical := of_decide_eq_true holds.1
  obtain ⟨binding, found, holds⟩ := (Option.any_eq_true _ _).mp holds.2
  cases binding with
  | other => cases holds
  | initialized value =>
      obtain ⟨declarator, up, holds⟩ := (Option.any_eq_true _ _).mp holds
      obtain ⟨function, nearest, away⟩ := (Option.any_eq_true _ _).mp holds
      obtain ⟨other, declares⟩ := exists_declares_of_lookup grammatical found
      obtain rfl := Option.some.inj ((parent?_of_declares declares).symm.trans up)
      refine ⟨site, here, grammatical, value, other, function, found, declares, nearest, ?_⟩
      intro inside
      have differ := List.all_eq_true.mp away function inside
      rw [bne_self_eq_false] at differ
      cases differ

end Site

end TypedQueries
