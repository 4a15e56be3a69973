import Mathlib.Data.List.Perm.Basic
import TypedQueries.Syntax.Errors
import TypedQueries.Proofs.Syntax.Traversal

/-! # The errors of a tree

The count of errors looks at the nodes of a tree one after the other and passes over what is below
an unflagged node. It comes to an end (`Site.exists_looks`), and the nodes that it has looked at and
those that it has passed over are together the nodes of the tree, each once
(`Site.Looks.exists_passed`). Where the flags are true (`Tree.FlagsErrors`) no error is passed over,
so the errors counted are all errors of the tree (`errors_counted_once`).
-/

namespace TypedQueries

/-- That a node is flagged exactly if it is an error or there is one below it. -/
def Tree.FlagsErrors (t : Tree) : Prop :=
  ∀ node ∈ t.preorder, node.label.flagged = node.preorder.any isError

instance (t : Tree) : Decidable t.FlagsErrors :=
  inferInstanceAs
    (Decidable (∀ node ∈ t.preorder, node.label.flagged = node.preorder.any Tree.isError))

namespace Site

variable {site child : Site} {left rest looked : List Site}

/-- That the root and all nodes around a node are flagged. -/
def Reached (site : Site) : Prop :=
  site.top.label.flagged = true ∧ ∀ outer ∈ site.ancestors, outer.node.label.flagged = true

theorem reached_of_parent? {parent : Site} (found : child.parent? = some parent) :
    child.Reached ↔ parent.Reached ∧ parent.node.label.flagged = true := by
  rw [Reached, Reached, top_of_parent? found, ancestors_of_parent? found, List.forall_mem_cons]
  tauto

/-! ## One step -/

theorem reached_of_mem_leftAfter (reached : ∀ other ∈ site :: rest, other.Reached) :
    ∀ other ∈ site.leftAfter rest, other.Reached := by
  obtain ⟨here, further⟩ := List.forall_mem_cons.mp reached
  intro other member
  rw [leftAfter] at member
  split at member
  · next flagged =>
      rcases List.mem_append.mp member with below | later
      · have up := mem_children_iff.mp (List.mem_reverse.mp below)
        exact (reached_of_parent? up).mpr ⟨here, flagged⟩
      · exact further other later
  · exact further other member

/-- A node, the nodes that are then at or below those left, and the nodes passed over are together
the nodes that were at or below those left before. -/
theorem exists_passed_leftAfter (site : Site) (rest : List Site) :
    ∃ passed, (site :: (site.leftAfter rest).flatMap nodes ++ passed).Perm
        ((site :: rest).flatMap nodes) ∧
      ∀ other ∈ passed, ¬ other.Reached := by
  rw [leftAfter, List.flatMap_cons, nodes_eq]
  split
  · refine ⟨[], ?_, by simp⟩
    rw [List.append_nil, List.flatMap_append]
    exact (((List.reverse_perm _).flatMap_right nodes).append_right _).cons site
  · next unflagged =>
      refine ⟨site.children.flatMap nodes, List.perm_append_comm.cons site, ?_⟩
      intro other member reached
      obtain ⟨child, among, below⟩ := List.mem_flatMap.mp member
      exact unflagged
        (reached.2 site (mem_ancestors_of_mem_nodes (mem_children_iff.mp among) below))

/-! ## A run -/

/-- A run of the count to its end, from the nodes that are left to look at, with the nodes it
looks at in their order. -/
inductive Looks : List Site → List Site → Prop where
  | stop : Looks [] []
  | look {site : Site} {rest looked : List Site} (further : Looks (site.leftAfter rest) looked) :
      Looks (site :: rest) (site :: looked)

theorem exists_looks (left : List Site) : ∃ looked, Looks left looked := by
  induction size : Tree.sizeAll (left.map (·.node)) using Nat.strongRecOn generalizing left with
  | ind size ih =>
      subst size
      cases left with
      | nil => exact ⟨[], .stop⟩
      | cons site rest =>
          obtain ⟨looked, further⟩ := ih _ (sizeAll_leftAfter_lt site rest) _ rfl
          exact ⟨site :: looked, .look further⟩

namespace Looks

/-- What is counted are the errors among the nodes looked at. -/
theorem countErrors_eq (looks : Looks left looked) (count : Nat) :
    countErrors count left = count + looked.countP (·.node.isError) := by
  induction looks generalizing count with
  | stop => rw [countErrors]; rfl
  | look further ih =>
      rw [countErrors, ih, List.countP_cons]
      split <;> omega

theorem reached (looks : Looks left looked) (start : ∀ site ∈ left, site.Reached) :
    ∀ site ∈ looked, site.Reached := by
  induction looks with
  | stop => exact start
  | look further ih =>
      exact List.forall_mem_cons.mpr
        ⟨start _ List.mem_cons_self, ih (reached_of_mem_leftAfter start)⟩

/-- The nodes looked at and those passed over are together the nodes at or below those that were
left to look at. -/
theorem exists_passed (looks : Looks left looked) :
    ∃ passed, (looked ++ passed).Perm (left.flatMap nodes) ∧ ∀ site ∈ passed, ¬ site.Reached := by
  induction looks with
  | stop => exact ⟨[], .refl _, by simp⟩
  | @look site rest looked further ih =>
      obtain ⟨later, split, unreached⟩ := ih
      obtain ⟨passed, step, apart⟩ := exists_passed_leftAfter site rest
      refine ⟨later ++ passed, ?_, List.forall_mem_append.mpr ⟨unreached, apart⟩⟩
      rw [← List.append_assoc, List.cons_append]
      exact ((split.cons site).append_right passed).trans step

end Looks

/-! ## The count of a tree -/

/-- The nodes that the count of a tree begins with. -/
def firstLeft (t : Tree) : List Site := if t.label.flagged then [ofTree t] else []

variable {t : Tree}

theorem errorCount_eq (looks : Looks (firstLeft t) looked) :
    t.errorCount = looked.countP (·.node.isError) := by
  have counted := looks.countErrors_eq 0
  rw [Nat.zero_add] at counted
  rw [← counted, Tree.errorCount, firstLeft]
  split
  · rfl
  · rw [countErrors]

theorem reached_of_mem_firstLeft : ∀ site ∈ firstLeft t, site.Reached := by
  intro site member
  rw [firstLeft] at member
  split at member
  · next flagged =>
      obtain rfl := List.mem_singleton.mp member
      exact ⟨flagged, by simp⟩
  · cases member

/-- Whatever the flags are, the nodes looked at and those passed over are together the nodes of the
tree. -/
theorem exists_passed_all (looks : Looks (firstLeft t) looked) :
    ∃ passed, (looked ++ passed).Perm (all t) ∧ ∀ site ∈ passed, ¬ site.Reached := by
  obtain ⟨passed, split, unreached⟩ := looks.exists_passed
  rw [firstLeft] at split
  by_cases flagged : t.label.flagged = true
  · rw [if_pos flagged, List.flatMap_singleton] at split
    exact ⟨passed, split, unreached⟩
  · rw [if_neg flagged, List.flatMap_nil, List.perm_nil, List.append_eq_nil_iff] at split
    refine ⟨all t, by rw [split.1, List.nil_append], fun site member reached => flagged ?_⟩
    rw [← mem_all_iff.mp member]
    exact reached.1

theorem nodup_looked (looks : Looks (firstLeft t) looked) : looked.Nodup := by
  obtain ⟨passed, split, -⟩ := exists_passed_all looks
  exact (List.nodup_append.mp (split.nodup_iff.mpr (nodup_all t))).1

theorem mem_looked_iff (looks : Looks (firstLeft t) looked) :
    site ∈ looked ↔ site.top = t ∧ site.Reached := by
  obtain ⟨passed, split, unreached⟩ := exists_passed_all looks
  rw [← mem_all_iff, ← split.mem_iff, List.mem_append]
  constructor
  · exact fun member => ⟨Or.inl member, looks.reached reached_of_mem_firstLeft site member⟩
  · rintro ⟨here | apart, reached⟩
    · exact here
    · exact absurd reached (unreached site apart)

end Site

namespace Tree

variable {t : Tree} {site : Site}

/-- What has an error at or below it is flagged. -/
theorem FlagsErrors.flagged {outer : Site} (flags : t.FlagsErrors) (tree : outer.top = t)
    (within : site ∈ outer.nodes) (isError : site.node.isError = true) :
    outer.node.label.flagged = true := by
  have listed : outer.node ∈ t.preorder := by
    rw [← Site.map_node_all]
    exact List.mem_map_of_mem (Site.mem_all_iff.mpr tree)
  rw [flags _ listed, ← Site.map_node_nodes, List.any_map, List.any_eq_true]
  exact ⟨site, within, isError⟩

/-- The count comes to all errors. -/
theorem FlagsErrors.reached (flags : t.FlagsErrors) (tree : site.top = t)
    (isError : site.node.isError = true) : site.Reached := by
  subst tree
  constructor
  · exact flags.flagged (Site.top_ofTree _) (Site.mem_all_iff.mpr rfl) isError
  · intro outer around
    have within : site ∈ outer.nodes := Site.mem_nodes_iff.mpr (Or.inr around)
    exact flags.flagged (Site.top_of_mem_ancestors around) within isError

/-- The errors looked at are the errors of the tree. -/
theorem FlagsErrors.perm {looked : List Site} (flags : t.FlagsErrors)
    (looks : Site.Looks (Site.firstLeft t) looked) :
    (looked.filter (·.node.isError)).Perm ((Site.all t).filter (·.node.isError)) := by
  have distinct := Site.nodup_looked looks
  rw [List.perm_ext_iff_of_nodup (distinct.filter _) ((Site.nodup_all t).filter _)]
  intro site
  rw [List.mem_filter, List.mem_filter, Site.mem_looked_iff looks, Site.mem_all_iff]
  constructor
  · exact fun ⟨⟨tree, _⟩, isError⟩ => ⟨tree, isError⟩
  · exact fun ⟨tree, isError⟩ => ⟨⟨tree, flags.reached tree isError⟩, isError⟩

end Tree

/-- **Every error is counted once.** Where nodes are flagged exactly if there is an error at or
below them, the count comes to an end after it has looked at the nodes of the tree with only flagged
nodes around them, each once. The errors among these are the errors of the tree, so their number is
what is counted, and nothing is counted exactly if the tree has no errors. No more is counted than
the tree has nodes, so there is room for the count where there is room for their number. -/
theorem errors_counted_once (t : Tree) (flags : t.FlagsErrors) :
    ∃ looked, Site.Looks (Site.firstLeft t) looked ∧
      looked.Nodup ∧
      (∀ site : Site, site ∈ looked ↔ site.top = t ∧ site.Reached) ∧
      (looked.filter (·.node.isError)).Perm ((Site.all t).filter (·.node.isError)) ∧
      t.errorCount = looked.countP (·.node.isError) ∧
      t.errorCount = t.preorder.countP Tree.isError ∧
      t.errorCount ≤ t.preorder.length ∧
      (t.errorCount = 0 ↔ ∀ node ∈ t.preorder, node.isError = false) := by
  obtain ⟨looked, looks⟩ := Site.exists_looks (Site.firstLeft t)
  have counted := Site.errorCount_eq looks
  have errors := flags.perm looks
  have whole : t.errorCount = t.preorder.countP Tree.isError := by
    calc t.errorCount = (looked.filter (·.node.isError)).length := by
          rw [counted, List.countP_eq_length_filter]
      _ = ((Site.all t).filter (·.node.isError)).length := errors.length_eq
      _ = t.preorder.countP Tree.isError := by
          rw [← Site.map_node_all, List.countP_map, List.countP_eq_length_filter]
          rfl
  refine ⟨looked, looks, Site.nodup_looked looks, fun site => Site.mem_looked_iff looks, errors,
    counted, whole, whole ▸ List.countP_le_length, ?_⟩
  rw [whole, List.countP_eq_zero]
  simp only [Bool.not_eq_true]

/-- Errors in an error, a supplied token in a part of it, and parts without errors before and after
them. -/
def nestedErrors : Tree :=
  let label (kind : Kind) (missing flagged : Bool) : Label :=
    { (default : Label) with kind, missing, flagged }
  let word := Tree.node (label .identifier false false) []
  let supplied := Tree.node (label .token true true) []
  let statement := Tree.node (label .expressionStatement false false) [word]
  let block := Tree.node (label .statementBlock false true) [statement, supplied]
  let broken := Tree.node (label .error false true)
    [word, .node (label .error false true) [], block, word]
  .node (label .program false true) [statement, broken, statement]

theorem errors_counted_once_in_nested :
    nestedErrors.FlagsErrors ∧ nestedErrors.errorCount = 3 ∧
      ∃ looked, Site.Looks (Site.firstLeft nestedErrors) looked ∧ looked.Nodup ∧
        looked.countP (·.node.isError) = 3 := by
  have flags : nestedErrors.FlagsErrors := by decide +kernel
  obtain ⟨looked, looks, distinct, -, -, counted, whole, -⟩ :=
    errors_counted_once nestedErrors flags
  have three : nestedErrors.errorCount = 3 := whole.trans (by decide +kernel)
  exact ⟨flags, three, looked, looks, distinct, counted.symm.trans three⟩

end TypedQueries
