import TypedQueries.Proofs.Syntax.Traversal

/-! # Where nodes may stand

The rules of the grammar that scopes rely on. The program is the root. Punctuation has no
parts. The parts of a `switch` are cases. A static block is a member of a class. A `var`
statement stands among statements: the nearest function, class, static block or other
declaration around it is a static block, or a function that has it in its body.
-/

namespace TypedQueries

/-- The kinds of node that the `var`s below them are not seen outside of. -/
def Kind.confines (kind : Kind) : Bool := kind.isFunction || kind == .classBody

/-- The kinds of node nearest to a `var` statement that tell how it is placed. -/
def Kind.placesVariables (kind : Kind) : Bool :=
  kind.confines || kind == .classStaticBlock || kind == .variableDeclaration

/-- Kinds that a test tells apart are different. -/
theorem Kind.ne_of_test {test : Kind → Bool} {kind other : Kind} (holds : test kind = true)
    (fails : test other = false) : kind ≠ other := by
  rintro rfl
  rw [fails] at holds
  cases holds

theorem Kind.confines_of_isFunction {kind : Kind} (isFunction : kind.isFunction = true) :
    kind.confines = true := by
  rw [confines, isFunction, Bool.true_or]

theorem Kind.placesVariables_of_confines {kind : Kind} (confines : kind.confines = true) :
    kind.placesVariables = true := by
  rw [placesVariables, confines, Bool.true_or, Bool.true_or]

namespace Site

/-- Whether the site is in the body of a function. -/
def inBodyOf (function site : Site) : Bool :=
  (function.child? .body).any fun body => body.path.isPrefixOf site.path

/-- The rules for the place of one node. -/
structure WellPlaced (site : Site) : Prop where
  program : site.kind = .program → site.frames = []
  token : site.node.label.named = false → site.kind = .token ∧ site.node.children = []
  part : site.kind = .switchBody → ∀ part ∈ site.node.namedChildren, part.kind.isFunction = false
  member : site.kind = .classStaticBlock → site.parent?.any (·.kind == .classBody) = true
  statement : site.kind = .variableDeclaration →
    ∀ outer ∈ site.ancestors.find? (·.kind.placesVariables),
      outer.kind = .classStaticBlock ∨
        outer.kind.isFunction = true ∧ outer.inBodyOf site = true

instance (site : Site) : Decidable site.WellPlaced :=
  decidable_of_iff
    ((site.kind = .program → site.frames = []) ∧
      (site.node.label.named = false → site.kind = .token ∧ site.node.children = []) ∧
      (site.kind = .switchBody → ∀ part ∈ site.node.namedChildren, part.kind.isFunction = false) ∧
      (site.kind = .classStaticBlock → site.parent?.any (·.kind == .classBody) = true) ∧
      (site.kind = .variableDeclaration →
        ∀ outer ∈ site.ancestors.find? (·.kind.placesVariables),
          outer.kind = .classStaticBlock ∨
            outer.kind.isFunction = true ∧ outer.inBodyOf site = true))
    ⟨fun ⟨program, token, part, member, statement⟩ => ⟨program, token, part, member, statement⟩,
      fun ⟨program, token, part, member, statement⟩ => ⟨program, token, part, member, statement⟩⟩

end Site

/-- A tree whose nodes all stand where the grammar lets them. -/
def Tree.Grammatical (t : Tree) : Prop := ∀ site ∈ Site.all t, site.WellPlaced

instance (t : Tree) : Decidable t.Grammatical :=
  inferInstanceAs (Decidable (∀ site ∈ Site.all t, site.WellPlaced))

namespace Site

variable {root site : Site}

theorem grammatical_of_mem_ancestors (grammatical : site.top.Grammatical)
    (around : root ∈ site.ancestors) : root.top.Grammatical := by
  rwa [top_of_mem_ancestors around]

theorem wellPlaced_of_mem_ancestors (grammatical : root.top.Grammatical)
    (around : root ∈ site.ancestors) : site.WellPlaced :=
  grammatical site (mem_all_iff.mpr (top_of_mem_ancestors around).symm)

/-- What is nearest to a `var` statement of all that tells how it is placed. -/
theorem exists_placing (grammatical : root.top.Grammatical) (around : root ∈ site.ancestors)
    (statement : site.kind = .variableDeclaration) (places : root.kind.placesVariables = true) :
    ∃ outer ∈ site.ancestors, root.depth ≤ outer.depth ∧
      (outer.kind = .classStaticBlock ∨
        outer.kind.isFunction = true ∧ outer.inBodyOf site = true) := by
  have placed := (wellPlaced_of_mem_ancestors grammatical around).statement statement
  cases found : site.ancestors.find? (·.kind.placesVariables) with
  | none => exact absurd places (List.find?_eq_none.mp found root around)
  | some outer =>
      exact ⟨outer, List.mem_of_find?_eq_some found,
        depth_le_of_find?_ancestors found around places, placed outer found⟩

/-- Around a static block is a class, inside of whatever other node is around the block. -/
theorem exists_confines_of_classStaticBlock {block : Site} (grammatical : site.top.Grammatical)
    (around : root ∈ site.ancestors) (noClass : root.kind ≠ .classBody)
    (member : block ∈ site.ancestors) (deeper : root.depth < block.depth)
    (isBlock : block.kind = .classStaticBlock) :
    ∃ between ∈ site.ancestors, root.depth < between.depth ∧ between.kind.confines = true := by
  have placed : block.WellPlaced :=
    grammatical block (mem_all_iff.mpr (top_of_mem_ancestors member))
  obtain ⟨classBody, up, isClass⟩ := (Option.any_eq_true _ _).mp (placed.member isBlock)
  rw [beq_iff_eq] at isClass
  have memberClass := mem_ancestors_trans member (mem_ancestors_of_parent? up)
  rw [depth_of_parent? up] at deeper
  refine ⟨classBody, memberClass, ?_, by rw [isClass]; rfl⟩
  refine Nat.lt_of_le_of_ne (Nat.le_of_lt_succ deeper) fun same => noClass ?_
  rw [eq_of_mem_ancestors_of_depth_eq around memberClass same, isClass]

/-- Between a `var` statement and a node around it that tells how it is placed there is a
function or a class, unless that node is a static block or the function it belongs to. -/
theorem confines_between_or_placed (grammatical : root.top.Grammatical)
    (around : root ∈ site.ancestors) (statement : site.kind = .variableDeclaration)
    (places : root.kind.placesVariables = true) (noClass : root.kind ≠ .classBody) :
    (∃ between ∈ site.ancestors, root.depth < between.depth ∧ between.kind.confines = true) ∨
      root.kind = .classStaticBlock ∨ root.kind.isFunction = true ∧ root.inBodyOf site = true := by
  obtain ⟨placing, member, depth, placed⟩ := exists_placing grammatical around statement places
  rcases Nat.eq_or_lt_of_le depth with same | deeper
  · obtain rfl := eq_of_mem_ancestors_of_depth_eq around member same
    exact Or.inr placed
  · left
    rcases placed with isBlock | ⟨isFunction, -⟩
    · rw [top_of_mem_ancestors around] at grammatical
      exact exists_confines_of_classStaticBlock grammatical around noClass member deeper isBlock
    · exact ⟨placing, member, deeper, Kind.confines_of_isFunction isFunction⟩

theorem body_within_of_inBodyOf {function : Site} (around : function ∈ site.ancestors)
    (inside : function.inBodyOf site = true) :
    ∃ body, function.child? .body = some body ∧ (site = body ∨ body ∈ site.ancestors) := by
  obtain ⟨body, found, begins⟩ := (Option.any_eq_true _ _).mp inside
  have tree : body.top = site.top :=
    (top_of_parent? (parent?_of_child? found)).trans (top_of_mem_ancestors around)
  have within := eq_or_mem_ancestors_of_path tree (List.isPrefixOf_iff_prefix.mp begins)
  exact ⟨body, found, within.imp Eq.symm id⟩

end Site

end TypedQueries
