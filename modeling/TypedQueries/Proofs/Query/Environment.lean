import TypedQueries.Proofs.Query.Names
import TypedQueries.Proofs.Syntax.Placement
import TypedQueries.Query.Scope
import TypedQueries.Syntax.Parse

/-! # Lexical environments

What the nodes of a tree declare, as lists of names with their bindings. Going down from
the root, each node that is a scope puts its own declarations before those of the scopes
around it; the first entry for a name is the one seen (`Site.resolveDown`).

A block declares what its statements declare, a `switch` what the statements of all its
cases declare, a loop or a handler what its heading declares, and a function its
parameters. A function and the program also declare every `var` below them that is not in
a function or class further inside.
-/

namespace TypedQueries

/-- The source of the initial value a name is bound to. -/
def Binding.valueText? : Binding → Option String
  | initialized value => some value.text
  | other => none

/-- The first identifier with the given text in a source text. -/
def identifier? (source text : String) : Option Site :=
  (Site.all (parse .plain source).tree).find? fun site =>
    site.kind == .identifier && site.text == text

/-- Names with what they are bound to. The first entry for a name counts. -/
abbrev Environment := List (String × Binding)

/-- The names in an environment. -/
def Environment.names (environment : Environment) : List String := environment.map Prod.fst

namespace Site

/-- Names that are declared, but not as variables with initial values. -/
def asOther (names : List String) : Environment := names.map fun name => (name, .other)

/-- What a variable in a declaration declares. -/
def declaratorEntries (declarator : Site) : Environment :=
  if declarator.kind = .variableDeclarator then
    match declarator.child? .name with
    | none => []
    | some target =>
        if target.kind = .identifier then
          [(target.text, (declarator.child? .value).elim .other .initialized)]
        else asOther target.node.boundNames
  else []

/-- What a statement by itself declares. -/
def declarations (statement : Site) : Environment :=
  match statement.kind with
  | .lexicalDeclaration | .variableDeclaration =>
      statement.namedChildren.flatMap declaratorEntries
  | .exportStatement =>
      match _h : statement.child? .declaration with
      | some declaration => declarations declaration
      | none => []
  | .functionDeclaration | .generatorFunctionDeclaration | .classDeclaration
  | .abstractClassDeclaration | .enumDeclaration =>
      asOther ((statement.child? .name).toList.map (·.text))
  | .importStatement => asOther statement.node.importedNames
  | _ => []
termination_by statement.node.size
decreasing_by exact size_lt_of_mem_children (mem_children_of_child? ‹_›)

theorem declarations_of_export {statement : Site} (kind : statement.kind = .exportStatement) :
    statement.declarations = (statement.child? .declaration).elim [] declarations := by
  rw [declarations, kind]
  dsimp only
  split
  · next part found => rw [found, Option.elim_some]
  · next none => rw [none, Option.elim_none]

/-- What the statements directly in a block declare. -/
def blockDeclarations (block : Site) : Environment := block.namedChildren.flatMap declarations

/-- Whether no function and no class lies between a node and a scope around it. -/
def seenFrom (scope site : Site) : Bool :=
  site.ancestors.all fun outer => decide (outer.depth ≤ scope.depth) || !outer.kind.confines

/-- The `var` statements at and below a node that bind in a scope at or around it. -/
def hoistedVars (scope root : Site) : List Site :=
  root.nodes.filter fun site => site.kind == .variableDeclaration && scope.seenFrom site

/-- What the `var` statements that bind in a scope declare. -/
def variableEntries (scope root : Site) : Environment :=
  (scope.hoistedVars root).flatMap declarations

/-- The names of a function's parameters. -/
def parameterNames (function : Site) : List String :=
  ((function.child? .parameters).or (function.child? .parameter)).elim [] (·.node.boundNames)

/-- What a node declares as a scope. -/
def contribution (scope : Site) : Environment :=
  match scope.kind with
  | .program => scope.blockDeclarations ++ scope.variableEntries scope
  | .statementBlock | .classStaticBlock => scope.blockDeclarations
  | .switchBody => scope.namedChildren.flatMap blockDeclarations
  | .forStatement => (scope.child? .initializer).elim [] declarations
  | .forInStatement => asOther ((scope.child? .left).elim [] (·.node.boundNames))
  | .catchClause => asOther ((scope.child? .parameter).elim [] (·.node.boundNames))
  | kind =>
      if kind.isFunction then
        asOther scope.parameterNames ++ (scope.child? .body).elim [] scope.variableEntries
      else []

/-- What the search sees of a function besides its own declarations: where its body is
itself a function, the `var`s that bind in there. -/
def leaked (scope : Site) : Environment :=
  if scope.kind.isFunction then
    (scope.child? .body).elim [] fun body =>
      if body.kind.confines then body.variableEntries body else []
  else []

/-- All that the search sees of a node as a scope. -/
def searched (scope : Site) : Environment := scope.contribution ++ scope.leaked

/-- What a name is bound to for one who comes to a site from the root, with each node on
the way overriding what the nodes around it declare. -/
def resolveDown (declare : Site → Environment) (site : Site) (name : String) : Option Binding :=
  (descend (fun environment scope => declare scope ++ environment) [] (ofTree site.top)
    site.path).bind fun arrived => arrived.2.lookup name

/-- Whether a `var` in a body that is itself a function answers the search from a site: no
node nearer than the function with that body binds the name, nor do its own declarations,
and the way down to the function would give another answer. -/
def Leaks (outer site : Site) (name : String) : Prop :=
  outer ∈ site.ancestors ∧
    (∀ inner ∈ site.ancestors, outer.depth < inner.depth → inner.searched.lookup name = none) ∧
    outer.contribution.lookup name = none ∧ outer.leaked.lookup name ≠ none ∧
    outer.leaked.lookup name ≠ outer.resolveDown contribution name

/-! ## Entries for a name -/

variable {name : String}

theorem lookup_asOther (names : List String) :
    (asOther names).lookup name = otherIf (decide (name ∈ names)) := by
  induction names with
  | nil => rfl
  | cons first rest ih =>
      rw [asOther, List.map_cons, List.lookup_cons]
      by_cases same : name = first
      · subst same
        simp [otherIf]
      · rw [show (name == first) = false from beq_false_of_ne same]
        change (asOther rest).lookup name = _
        rw [ih]
        simp [same]

theorem lookup_flatMap {α : Type} (entries : α → Environment) (items : List α) :
    (items.flatMap entries).lookup name =
      items.findSome? fun item => (entries item).lookup name := by
  induction items with
  | nil => rfl
  | cons item items ih =>
      rw [List.flatMap_cons, List.lookup_append, ih, List.findSome?_cons]
      cases (entries item).lookup name <;> rfl

theorem lookup_elim {α : Type} (entries : α → Environment) (item : Option α) :
    (item.elim [] entries).lookup name = item.bind fun item => (entries item).lookup name := by
  cases item <;> rfl

theorem mem_of_lookup {environment : Environment} {binding : Binding}
    (found : environment.lookup name = some binding) : (name, binding) ∈ environment := by
  obtain ⟨before, after, split, -⟩ := List.lookup_eq_some_iff.mp found
  rw [split]
  exact List.mem_append_right _ List.mem_cons_self

theorem mem_names_iff {environment : Environment} :
    name ∈ environment.names ↔ environment.lookup name ≠ none := by
  rw [Environment.names, Ne, List.lookup_eq_none_iff, List.mem_map]
  constructor
  · rintro ⟨entry, member, rfl⟩ absent
    exact absurd (absent entry member) (by simp)
  · intro present
    refine Classical.byContradiction fun absent => present fun entry member => ?_
    rw [bne_iff_ne]
    exact fun same => absent ⟨entry, member, same.symm⟩

theorem names_append (first second : Environment) :
    Environment.names (first ++ second) = first.names ++ second.names :=
  List.map_append

theorem names_asOther (names : List String) : (asOther names).names = names := by
  rw [Environment.names, asOther, List.map_map]
  exact List.map_id names

theorem not_initialized_mem_asOther {names : List String} {value : Site} :
    (name, Binding.initialized value) ∉ asOther names := by
  intro member
  obtain ⟨other, -, same⟩ := List.mem_map.mp member
  cases congrArg Prod.snd same

/-! ## The search finds the entries -/

theorem otherIf_congr {p q : Bool} (same : p = true ↔ q = true) : otherIf p = otherIf q := by
  rw [Bool.eq_iff_iff.mpr same]

theorem otherIf_patternBinds (t : Tree) :
    otherIf (t.patternBinds name) = (asOther t.boundNames).lookup name := by
  rw [lookup_asOther]
  exact otherIf_congr ((Tree.patternBinds_iff name t).trans decide_eq_true_iff.symm)

/-- A pattern in a role of its parent hides the names it introduces. -/
theorem otherIf_any_patternBinds (pattern : Option Site) :
    otherIf (pattern.any (·.node.patternBinds name)) =
      (asOther (pattern.elim [] (·.node.boundNames))).lookup name := by
  cases pattern with
  | none => rfl
  | some site => exact otherIf_patternBinds site.node

theorem declaratorBinding?_eq (declarator : Site) :
    declaratorBinding? name declarator = declarator.declaratorEntries.lookup name := by
  rw [declaratorBinding?, declaratorEntries]
  by_cases kind : declarator.kind = .variableDeclarator
  · rw [if_pos (beq_iff_eq.mpr kind), if_pos kind]
    cases declarator.child? .name with
    | none => rfl
    | some target =>
        by_cases plain : target.kind = .identifier
        · simp only [plain, beq_self_eq_true, if_true]
          rw [List.lookup_cons]
          by_cases same : target.text = name
          · subst same
            simp only [beq_self_eq_true, if_true]
            cases declarator.child? .value <;> rfl
          · rw [if_neg (fun equal => same (beq_iff_eq.mp equal)),
              show (name == target.text) = false from beq_false_of_ne (Ne.symm same)]
            rfl
        · simp only [if_neg plain, beq_iff_eq]
          exact otherIf_patternBinds target.node
  · rw [if_neg (fun equal => kind (beq_iff_eq.mp equal)), if_neg kind]
    rfl

theorem statementBinding?_of_export {statement : Site} (kind : statement.kind = .exportStatement) :
    statementBinding? name statement =
      (statement.child? .declaration).bind (statementBinding? name) := by
  rw [statementBinding?, kind]
  dsimp only
  split
  · next part found => rw [found, Option.bind_some]
  · next none => rw [none, Option.bind_none]

theorem findSome?_eq_lookup_flatMap {entries : Site → Environment}
    {binding? : Site → Option Binding} (same : ∀ site, binding? site = (entries site).lookup name)
    (sites : List Site) : sites.findSome? binding? = (sites.flatMap entries).lookup name := by
  rw [lookup_flatMap, funext same]

theorem statementBinding?_eq (statement : Site) :
    statementBinding? name statement = statement.declarations.lookup name := by
  induction statement using induction_up with
  | step statement ih =>
      by_cases exported : statement.kind = .exportStatement
      · rw [statementBinding?_of_export exported, declarations_of_export exported, lookup_elim]
        cases found : statement.child? .declaration with
        | none => rfl
        | some part => exact ih part (mem_children_of_child? found)
      have declared : statement.namedChildren.findSome? (declaratorBinding? name) =
          (statement.namedChildren.flatMap declaratorEntries).lookup name :=
        findSome?_eq_lookup_flatMap declaratorBinding?_eq statement.namedChildren
      have named : otherIf ((statement.child? .name).any (·.text == name)) =
          (asOther ((statement.child? .name).toList.map (·.text))).lookup name := by
        rw [lookup_asOther]
        cases statement.child? .name with
        | none => rfl
        | some part =>
            refine otherIf_congr ?_
            rw [Option.any_some, beq_iff_eq, decide_eq_true_iff, Option.toList_some,
              List.map_singleton, List.mem_singleton, eq_comm]
      have imported : otherIf (statement.node.importBinds name) =
          (asOther statement.node.importedNames).lookup name := by
        rw [lookup_asOther]
        exact otherIf_congr ((Tree.importBinds_iff name _).trans decide_eq_true_iff.symm)
      rw [statementBinding?, declarations]
      generalize statement.kind = kind at exported ⊢
      -- One goal for each kind listed, and one for all others.
      split
      all_goals first
        | exact declared
        | exact named
        | exact imported
        | exact absurd rfl exported
        | grind

end Site

end TypedQueries
