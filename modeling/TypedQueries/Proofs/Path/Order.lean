import Mathlib.Data.List.Pairwise
import Mathlib.Order.Defs.LinearOrder
import TypedQueries.Path

/-! # The order of names and paths

Both are lexicographic: names by their bytes (`compareNames_eq`), paths by their components
(`compareAll_eq`). So either order is total, and what is sorted by it is in order
(`pairwise_mergeSort_isLE`).
-/

namespace TypedQueries

namespace Path

open compareComponents (compareNames)
open Path.compare (compareAll)

theorem compareNames_eq :
    compareNames = List.compareLex (Ord.compare : UInt8 → UInt8 → Ordering) := by
  funext first second
  induction first generalizing second with
  | nil => cases second <;> rfl
  | cons a first ih =>
      cases second with
      | nil => rfl
      | cons b second =>
          rw [compareNames, ih, List.compareLex_cons_cons]

theorem compareAll_eq : compareAll = List.compareLex compareComponents := by
  funext first second
  induction first generalizing second with
  | nil => cases second <;> rfl
  | cons a first ih =>
      cases second with
      | nil => rfl
      | cons b second =>
          rw [compareAll, ih, List.compareLex_cons_cons]

instance : Std.TransCmp compareNames := by
  rw [compareNames_eq]
  infer_instance

instance : Std.TransCmp compareComponents where
  eq_swap {a b} := by
    cases a <;> cases b <;> simp only [compareComponents, Ordering.swap]
    exact Std.OrientedCmp.eq_swap
  isLE_trans {a b c} := by
    cases a <;> cases b <;> cases c <;> simp [compareComponents]
    exact Std.TransCmp.isLE_trans

instance : Std.TransCmp Path.compare where
  eq_swap {p q} := by
    rw [Path.compare, Path.compare, compareAll_eq]
    exact Std.OrientedCmp.eq_swap
  isLE_trans {p q r} := by
    simp only [Path.compare, compareAll_eq]
    exact Std.TransCmp.isLE_trans

instance : Std.LawfulEqCmp compareNames := by
  rw [compareNames_eq]
  infer_instance

instance : Std.LawfulEqCmp compareComponents where
  eq_of_compare {a b} same := by
    cases a <;> cases b <;> simp only [compareComponents, reduceCtorEq] at same ⊢
    rw [Std.LawfulEqCmp.eq_of_compare same]

theorem components_eq_of_compare_eq {p q : Path} (same : p.compare q = .eq) :
    p.components = q.components := by
  rw [Path.compare, compareAll_eq] at same
  exact Std.LawfulEqCmp.eq_of_compare same

/-- Paths of which neither comes after the other have the same components. -/
theorem components_eq_of_le {p q : Path} (before : p.le q) (after : q.le p) :
    p.components = q.components :=
  components_eq_of_compare_eq (Std.OrientedCmp.isLE_antisymm before after)

end Path

/-- What is sorted by an order of its keys is in that order. -/
theorem pairwise_mergeSort_isLE_by {α β : Type} (key : α → β) (cmp : β → β → Ordering)
    [Std.TransCmp cmp] (elements : List α) :
    (elements.mergeSort fun a b => (cmp (key a) (key b)).isLE).Pairwise
      fun a b => (cmp (key a) (key b)).isLE := by
  refine List.pairwise_mergeSort (fun _ _ _ => Std.TransCmp.isLE_trans) (fun a b => ?_) elements
  have swapped : cmp (key b) (key a) = (cmp (key a) (key b)).swap := Std.OrientedCmp.eq_swap
  rw [swapped]
  cases cmp (key a) (key b) <;> rfl

/-- What is sorted by an order is in that order. -/
theorem pairwise_mergeSort_isLE {α : Type} (cmp : α → α → Ordering) [Std.TransCmp cmp]
    (elements : List α) :
    (elements.mergeSort fun a b => (cmp a b).isLE).Pairwise fun a b => (cmp a b).isLE :=
  pairwise_mergeSort_isLE_by id cmp elements

/-- What is in strict order is what sorting makes of the same elements in any order. -/
theorem mergeSort_eq_of_perm {α β : Type} (key : α → β) (cmp : β → β → Ordering)
    [Std.TransCmp cmp] {elements sorted : List α}
    (ordered : sorted.Pairwise fun a b => cmp (key a) (key b) = .lt)
    (perm : elements.Perm sorted) :
    (elements.mergeSort fun a b => (cmp (key a) (key b)).isLE) = sorted := by
  have distinct : sorted.Pairwise fun a b => cmp (key a) (key b) ≠ .eq :=
    ordered.imp fun {_ _} before same => by simp [before] at same
  have : Std.Symm fun a b => cmp (key a) (key b) ≠ .eq :=
    ⟨fun _ _ differ same => differ (Std.OrientedCmp.eq_comm.mp same)⟩
  refine ((List.mergeSort_perm _ _).trans perm).eq_of_pairwise ?_
    (pairwise_mergeSort_isLE_by key cmp elements) (ordered.imp fun {_ _} before => by simp [before])
  intro a b member memberToo before after
  by_contra differ
  exact distinct.forall (perm.mem_iff.mp (List.mem_mergeSort.mp member)) memberToo differ
    (Std.OrientedCmp.isLE_antisymm before after)

/-- Elements in order of which no two compare the same are in strict order. -/
theorem pairwise_lt_of_isLE {α : Type} {cmp : α → α → Ordering} {elements : List α}
    (ordered : elements.Pairwise fun a b => (cmp a b).isLE) (once : elements.Nodup)
    (known : ∀ a ∈ elements, ∀ b ∈ elements, cmp a b = .eq → a = b) :
    elements.Pairwise fun a b => cmp a b = .lt := by
  refine (ordered.and once).imp_of_mem fun {a b} member memberToo both => ?_
  obtain ⟨before, differs⟩ := both
  cases compared : cmp a b with
  | lt => rfl
  | eq => exact absurd (known a member b memberToo compared) differs
  | gt => rw [compared] at before; cases before

end TypedQueries
