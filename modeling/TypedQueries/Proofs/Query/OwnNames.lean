import TypedQueries.Proofs.Query.Lookup

/-! # The own names of expressions

A function or class expression may have a name, which is declared for what stands in the
expression: around its parameters and variables, and within the scopes around it
(`Site.withOwnName`). The search for a name knows nothing of these names. It passes such an
expression as if it had none, so that it stops there exactly if the scopes around the expression
stop it (`Site.own_name_hides_iff`).
-/

namespace TypedQueries

/-- The kinds of expression that may declare a name for what stands in them. -/
def Kind.mayNameItself : Kind → Bool
  | .functionExpression | .generatorFunction | .classExpression => true
  | _ => false

namespace Site

variable {site expression parent child : Site} {name : String}

/-- The name a function or class expression has in itself. -/
def ownNames (scope : Site) : List String :=
  if scope.kind.mayNameItself then (scope.child? .name).toList.map (·.text) else []

/-- What a node declares as a scope, and its own name last. -/
def withOwnName (scope : Site) : Environment := scope.contribution ++ asOther scope.ownNames

/-- What the search sees, besides their own declarations, of the functions around a site up to a
node around it: the `var`s of a body that is itself a function. -/
def leakedUpTo (outer site : Site) : Environment :=
  (site.ancestors.filter fun inner => outer.depth ≤ inner.depth).flatMap leaked

/-- No scope around a site up to a node around it declares a name. -/
def UnboundUpTo (outer site : Site) (name : String) : Prop :=
  ∀ inner ∈ site.ancestors, outer.depth ≤ inner.depth → inner.contribution.lookup name = none

instance (outer site : Site) (name : String) : Decidable (UnboundUpTo outer site name) :=
  inferInstanceAs (Decidable (∀ inner ∈ site.ancestors,
    outer.depth ≤ inner.depth → inner.contribution.lookup name = none))

theorem leakedUpTo_of_parent? (found : child.parent? = some parent)
    (around : expression ∈ parent.ancestors) :
    leakedUpTo expression child = parent.leaked ++ leakedUpTo expression parent := by
  have deeper := Nat.le_of_lt (depth_lt_of_mem_ancestors around)
  rw [leakedUpTo, ancestors_of_parent? found, List.filter_cons, if_pos (decide_eq_true deeper)]
  rfl

theorem leakedUpTo_parent (found : child.parent? = some parent) :
    leakedUpTo parent child = parent.leaked := by
  have none : (parent.ancestors.filter fun inner => decide (parent.depth ≤ inner.depth)) = [] := by
    refine List.filter_eq_nil_iff.mpr fun inner member deeper => ?_
    exact absurd (depth_lt_of_mem_ancestors member) (Nat.not_lt.mpr (of_decide_eq_true deeper))
  rw [leakedUpTo, ancestors_of_parent? found,
    List.filter_cons, if_pos (decide_eq_true (Nat.le_refl _)), none, List.flatMap_cons,
    List.flatMap_nil, List.append_nil]

theorem UnboundUpTo.of_child (unbound : UnboundUpTo expression child name)
    (found : child.parent? = some parent) : UnboundUpTo expression parent name := by
  intro inner member deeper
  refine unbound inner ?_ deeper
  rw [ancestors_of_parent? found]
  exact List.mem_cons_of_mem _ member

/-- Past nodes that do not declare a name, the search goes on with what it sees of them besides,
and then around them. -/
theorem lookup_of_unbound (grammatical : site.top.Grammatical)
    (around : expression ∈ site.ancestors) (unbound : UnboundUpTo expression site name) :
    site.lookup name =
      ((leakedUpTo expression site).lookup name).or (expression.lookup name) := by
  induction site using induction_down with
  | root t => cases around
  | step parent child found ih =>
      have up := ancestors_of_parent? found
      rw [top_of_parent? found] at grammatical
      rw [up] at around
      rw [lookup_of_parent? found grammatical, searched, List.lookup_append]
      rcases List.mem_cons.mp around with rfl | further
      · rw [unbound expression (mem_ancestors_of_parent? found) (Nat.le_refl _), Option.none_or,
          leakedUpTo_parent found]
      · have deeper := Nat.le_of_lt (depth_lt_of_mem_ancestors further)
        rw [unbound parent (mem_ancestors_of_parent? found) deeper, Option.none_or,
          leakedUpTo_of_parent? found further, List.lookup_append,
          ih grammatical further (unbound.of_child found), Option.or_assoc]

theorem lookup_withOwnName (scope : Site) (unbound : scope.contribution.lookup name = none) :
    scope.withOwnName.lookup name = otherIf (decide (name ∈ scope.ownNames)) := by
  rw [withOwnName, List.lookup_append, unbound, Option.none_or, lookup_asOther]

/-- From within an expression with a name, no scope in between declaring it, the name is that of
the expression or of one further inside. -/
theorem resolveDown_withOwnName (around : expression ∈ site.ancestors)
    (own : name ∈ expression.ownNames) (unbound : UnboundUpTo expression site name) :
    site.resolveDown withOwnName name = some .other := by
  induction site using induction_down with
  | root t => cases around
  | step parent child found ih =>
      have up := ancestors_of_parent? found
      rw [up] at around
      rw [resolveDown_of_parent? withOwnName found]
      rcases List.mem_cons.mp around with rfl | further
      · rw [lookup_withOwnName expression
          (unbound expression (mem_ancestors_of_parent? found) (Nat.le_refl _)),
          decide_eq_true own]
        rfl
      · have deeper := Nat.le_of_lt (depth_lt_of_mem_ancestors further)
        rw [lookup_withOwnName parent (unbound parent (mem_ancestors_of_parent? found) deeper),
          ih further (unbound.of_child found), otherIf]
        split <;> rfl

/-- **An expression's own name hides nothing by itself.** In a tree that follows the grammar let a
site be in a function or class expression that has the name, and let neither a scope in between
nor the expression's own parameters and variables declare it. From the root down the name is found
as something else than an initialized variable. The search outwards gives the first of the `var`s
that it sees of the functions in between by way of their bodies, and if there is none, whatever it
gives for the expression as a whole: it stops as it should exactly if this is not an initialized
variable either. -/
theorem own_name_hides_iff (grammatical : site.top.Grammatical)
    (around : expression ∈ site.ancestors) (own : name ∈ expression.ownNames)
    (unbound : UnboundUpTo expression site name) :
    site.resolveDown withOwnName name = some .other ∧
      (site.lookup name = some .other ↔
        (leakedUpTo expression site).lookup name = some .other ∨
          (leakedUpTo expression site).lookup name = none ∧
            expression.lookup name = some .other) ∧
      ∀ value : Site, site.lookup name = some (.initialized value) ↔
        (leakedUpTo expression site).lookup name = some (.initialized value) ∨
          (leakedUpTo expression site).lookup name = none ∧
            expression.lookup name = some (.initialized value) := by
  refine ⟨resolveDown_withOwnName around own unbound, ?_⟩
  rw [lookup_of_unbound grammatical around unbound]
  constructor
  · rw [Option.or_eq_some_iff]
  · intro value
    rw [Option.or_eq_some_iff]

/-- The name of a class expression in a file with a function of that name. -/
theorem own_name_hides_iff_in_class :
    ∃ site expression : Site,
      identifier? "function n() \x7b\x7d (class n \x7b m() \x7b HERE; \x7d \x7d);" "HERE" =
        some site ∧
      site.top.Grammatical ∧ expression ∈ site.ancestors ∧ "n" ∈ expression.ownNames ∧
      UnboundUpTo expression site "n" ∧ site.lookup "n" = some .other := by
  have placed :
      (identifier? "function n() \x7b\x7d (class n \x7b m() \x7b HERE; \x7d \x7d);" "HERE").any
        (fun site => decide site.top.Grammatical && site.ancestors.any fun expression =>
          decide ("n" ∈ expression.ownNames ∧ UnboundUpTo expression site "n" ∧
            (leakedUpTo expression site).lookup "n" = none) &&
            (expression.lookup "n").any fun
              | .other => true
              | .initialized _ => false) = true := by
    decide +kernel
  obtain ⟨site, found, holds⟩ := (Option.any_eq_true _ _).mp placed
  rw [Bool.and_eq_true] at holds
  have grammatical := of_decide_eq_true holds.1
  obtain ⟨expression, around, holds⟩ := List.any_eq_true.mp holds.2
  rw [Bool.and_eq_true] at holds
  obtain ⟨own, unbound, unseen⟩ := of_decide_eq_true holds.1
  obtain ⟨binding, outside, other⟩ := (Option.any_eq_true _ _).mp holds.2
  refine ⟨site, expression, found, grammatical, around, own, unbound, ?_⟩
  cases binding with
  | initialized value => cases other
  | other =>
      exact (own_name_hides_iff grammatical around own unbound).2.1.mpr (Or.inr ⟨unseen, outside⟩)

/-- The name of a function expression in a file with a constant of that name: the constant is
found from within. -/
theorem own_name_does_not_hide :
    ∃ site expression : Site,
      identifier? "const n = 1; (function n() \x7b HERE; \x7d);" "HERE" = some site ∧
      site.top.Grammatical ∧ expression ∈ site.ancestors ∧ "n" ∈ expression.ownNames ∧
      UnboundUpTo expression site "n" ∧
      (site.lookup "n").bind Binding.valueText? = some "1" := by
  have placed : (identifier? "const n = 1; (function n() \x7b HERE; \x7d);" "HERE").any
      (fun site => decide (site.top.Grammatical ∧
        (site.lookup "n").bind Binding.valueText? = some "1") &&
        site.ancestors.any fun expression =>
          decide ("n" ∈ expression.ownNames ∧ UnboundUpTo expression site "n")) = true := by
    decide +kernel
  obtain ⟨site, found, holds⟩ := (Option.any_eq_true _ _).mp placed
  rw [Bool.and_eq_true] at holds
  obtain ⟨grammatical, value⟩ := of_decide_eq_true holds.1
  obtain ⟨expression, around, holds⟩ := List.any_eq_true.mp holds.2
  obtain ⟨own, unbound⟩ := of_decide_eq_true holds
  exact ⟨site, expression, found, grammatical, around, own, unbound, value⟩

end Site

end TypedQueries
