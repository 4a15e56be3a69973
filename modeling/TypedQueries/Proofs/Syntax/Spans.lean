import Mathlib.Data.Prod.Lex
import TypedQueries.Syntax.Cursor
import TypedQueries.Proofs.Syntax.Comments

/-! # Where nodes lie in their source

A node of a parsed tree covers a stretch of the source, and its children lie in this stretch one
after the other (`Tree.LiesIn`). Places in a source are compared by line and then by column, and
one that is further on is greater (`Cursor.place_past_lt`), since a line feed goes to a further
line and every other character to a further column. In pre-order the places of nodes do not
decrease, and they increase from one chosen node to the next where a chosen node has a part before
those chosen below it (`Tree.pairwise_start`).
-/

namespace TypedQueries

namespace Position

/-- What places are compared by: the line, then the column. -/
def key (position : Position) : Nat ×ₗ Nat := toLex (position.row, position.column)

instance : Preorder Position := Preorder.lift key

instance : DecidableLE Position := fun first second =>
  inferInstanceAs (Decidable (first.key ≤ second.key))

theorem lt_iff {first second : Position} :
    first < second ↔
      first.row < second.row ∨ first.row = second.row ∧ first.column < second.column :=
  Prod.Lex.toLex_lt_toLex

end Position

namespace Cursor

variable {source : String} {first last : Nat}

/-- The cursor that has come past the first characters of a source. -/
def past (source : String) (count : Nat) : Cursor := (start source).advance count

theorem advance_succ (cursor : Cursor) (count : Nat) :
    cursor.advance (count + 1) = (cursor.advance count).step := by
  induction count generalizing cursor with
  | zero => rfl
  | succ count ih => exact ih cursor.step

theorem rest_step (cursor : Cursor) : cursor.step.rest = cursor.rest.tail := by
  obtain ⟨rest, offset, place⟩ := cursor
  cases rest <;> rfl

theorem rest_past (source : String) (count : Nat) :
    (past source count).rest = source.toList.drop count := by
  induction count with
  | zero => rfl
  | succ count ih => rw [past, advance_succ, rest_step, ← past, ih, List.tail_drop]

/-- A step over a character goes on to a further line or column. -/
theorem place_lt_step {cursor : Cursor} (more : cursor.rest ≠ []) :
    cursor.place < cursor.step.place := by
  obtain ⟨rest, offset, place⟩ := cursor
  cases rest with
  | nil => exact absurd rfl more
  | cons c rest =>
      rw [Position.lt_iff]
      by_cases newline : c = '\n'
      · left
        simp only [step, after, if_pos newline]
        exact Nat.lt_succ_self _
      · right
        simp only [step, after, if_neg newline, true_and]
        exact Nat.lt_add_of_pos_right c.utf8Size_pos

theorem place_past_lt_succ {count : Nat} (within : count < source.length) :
    (past source count).place < (past source (count + 1)).place := by
  rw [past, past, advance_succ]
  refine place_lt_step ?_
  rw [← past, rest_past]
  exact List.drop_eq_nil_iff.not.mpr (Nat.not_le.mpr within)

/-- Further on in a source is a greater place. -/
theorem place_past_lt (further : first < last) (within : last ≤ source.length) :
    (past source first).place < (past source last).place := by
  induction last, further using Nat.le_induction with
  | base => exact place_past_lt_succ within
  | succ last further ih => exact (ih (Nat.le_of_lt within)).trans (place_past_lt_succ within)

theorem textTo_self (cursor : Cursor) : cursor.textTo source cursor = "" :=
  if_pos (Nat.le_refl _)

end Cursor

namespace Tree

variable {source : String} {t node : Tree}

/-- That a node covers a stretch of the source and its children lie in this stretch, one after the
other. -/
structure LiesIn (source : String) (t : Tree) : Prop where
  stretch : ∃ last ≤ source.length, ∃ first ≤ last,
    t.label.start = (Cursor.past source first).place ∧
      t.label.stop = (Cursor.past source last).place ∧
      t.text = (Cursor.past source first).textTo source (Cursor.past source last)
  inside : ∀ child ∈ t.children,
    t.label.start ≤ child.label.start ∧ child.label.stop ≤ t.label.stop
  inOrder : t.children.Pairwise fun earlier later => earlier.label.stop ≤ later.label.start

instance (source : String) (t : Tree) : Decidable (t.LiesIn source) :=
  decidable_of_iff
    ((∃ last ≤ source.length, ∃ first ≤ last,
        t.label.start = (Cursor.past source first).place ∧
          t.label.stop = (Cursor.past source last).place ∧
          t.text = (Cursor.past source first).textTo source (Cursor.past source last)) ∧
      (∀ child ∈ t.children,
        t.label.start ≤ child.label.start ∧ child.label.stop ≤ t.label.stop) ∧
      t.children.Pairwise fun earlier later => earlier.label.stop ≤ later.label.start)
    ⟨fun ⟨stretch, inside, inOrder⟩ => ⟨stretch, inside, inOrder⟩,
      fun ⟨stretch, inside, inOrder⟩ => ⟨stretch, inside, inOrder⟩⟩

namespace LiesIn

/-- What has a text begins before it ends. -/
theorem start_lt_stop (lies : t.LiesIn source) (text : t.text ≠ "") :
    t.label.start < t.label.stop := by
  obtain ⟨last, within, first, further, start, stop, covered⟩ := lies.stretch
  rcases further.eq_or_lt with rfl | further
  · rw [Cursor.textTo_self] at covered
    exact absurd covered text
  · rw [start, stop]
    exact Cursor.place_past_lt further within

end LiesIn

/-- A tree whose nodes lie in the source. -/
def LaidOut (source : String) (t : Tree) : Prop := ∀ node ∈ t.preorder, node.LiesIn source

instance (source : String) (t : Tree) : Decidable (t.LaidOut source) :=
  inferInstanceAs (Decidable (∀ node ∈ t.preorder, node.LiesIn source))

theorem self_mem_preorder (t : Tree) : t ∈ t.preorder := by
  rw [preorder_eq]
  exact List.mem_cons_self

theorem preorder_subset_of_mem_children {child : Tree} (member : child ∈ t.children) :
    child.preorder ⊆ t.preorder := fun node below => by
  rw [preorder_eq t]
  exact List.mem_cons_of_mem _ (List.mem_flatMap.mpr ⟨child, member, below⟩)

theorem preorder_subset (below : node ∈ t.preorder) : node.preorder ⊆ t.preorder := by
  induction t using Tree.induction with
  | step t ih =>
      have split := below
      rw [preorder_eq, List.mem_cons, List.mem_flatMap] at split
      rcases split with rfl | ⟨child, member, within⟩
      · exact List.Subset.refl _
      · exact List.Subset.trans (ih child member within) (preorder_subset_of_mem_children member)

namespace LaidOut

theorem below (laidOut : t.LaidOut source) (below : node ∈ t.preorder) : node.LaidOut source :=
  fun other within => laidOut other (preorder_subset below within)

theorem child {child : Tree} (laidOut : t.LaidOut source) (member : child ∈ t.children) :
    child.LaidOut source :=
  fun node below => laidOut node (preorder_subset_of_mem_children member below)

theorem liesIn (laidOut : t.LaidOut source) : t.LiesIn source := laidOut t t.self_mem_preorder

/-- The nodes at and below a node lie within it. -/
theorem within (laidOut : t.LaidOut source) (below : node ∈ t.preorder) :
    t.label.start ≤ node.label.start ∧ node.label.stop ≤ t.label.stop := by
  induction t using Tree.induction with
  | step t ih =>
      rw [preorder_eq, List.mem_cons, List.mem_flatMap] at below
      rcases below with rfl | ⟨child, member, below⟩
      · exact ⟨le_rfl, le_rfl⟩
      · have outer := laidOut.liesIn.inside child member
        have inner := ih child member (laidOut.child member) below
        exact ⟨outer.1.trans inner.1, inner.2.trans outer.2⟩

end LaidOut

/-- That a node begins with a stretch that is before all nodes chosen below it. -/
def Leads (chosen : Tree → Bool) (t : Tree) : Prop :=
  ∃ place, t.label.start < place ∧ place ≤ t.label.stop ∧
    ∀ node ∈ t.children.flatMap preorder, chosen node = true → place ≤ node.label.start

/-- A node leads with a part if nothing is chosen in the part and in those before it. -/
theorem LaidOut.leads_of_part {chosen : Tree → Bool} {part : Tree} {after : List Tree}
    (laidOut : t.LaidOut source) (before : List Tree) (parts : t.children = before ++ part :: after)
    (extent : part.label.start < part.label.stop)
    (free : ∀ node ∈ (before ++ [part]).flatMap preorder, chosen node = false) :
    t.Leads chosen := by
  have lies := laidOut.liesIn
  have inside := lies.inside part (by rw [parts]; exact List.mem_append_right _ List.mem_cons_self)
  have inOrder := lies.inOrder
  rw [parts, ← List.singleton_append, ← List.append_assoc, List.pairwise_append] at inOrder
  refine ⟨part.label.stop, inside.1.trans_lt extent, inside.2, fun node below isChosen => ?_⟩
  obtain ⟨child, member, below⟩ := List.mem_flatMap.mp below
  have split : child ∈ before ++ [part] ++ after := by
    rwa [List.append_assoc, List.singleton_append, ← parts]
  rcases List.mem_append.mp split with early | late
  · rw [free node (List.mem_flatMap.mpr ⟨child, early, below⟩)] at isChosen
    cases isChosen
  · have order := inOrder.2.2 part (List.mem_append_right _ List.mem_cons_self) child late
    exact order.trans ((laidOut.child member).within below).1

/-- A node leads with what its first part leads with, if this part is not chosen itself. -/
theorem LaidOut.leads_of_first {chosen : Tree → Bool} {part : Tree} {rest : List Tree}
    (laidOut : t.LaidOut source) (parts : t.children = part :: rest)
    (leads : part.Leads chosen) (free : chosen part = false) : t.Leads chosen := by
  obtain ⟨place, begins, ends, further⟩ := leads
  have lies := laidOut.liesIn
  have inside := lies.inside part (by rw [parts]; exact List.mem_cons_self)
  have inOrder := lies.inOrder
  rw [parts, List.pairwise_cons] at inOrder
  refine ⟨place, inside.1.trans_lt begins, ends.trans inside.2, fun node below isChosen => ?_⟩
  obtain ⟨child, member, below⟩ := List.mem_flatMap.mp below
  have later := ((laidOut.child member).within below).1
  rw [parts, List.mem_cons] at member
  rcases member with rfl | member
  · rw [preorder_eq, List.mem_cons] at below
    rcases below with rfl | below
    · rw [free] at isChosen
      cases isChosen
    · exact further node below isChosen
  · exact (ends.trans (inOrder.1 child member)).trans later

/-- Where chosen nodes have a part before those chosen below them, their places in pre-order
increase. -/
theorem pairwise_start (chosen : Tree → Bool) (laidOut : t.LaidOut source)
    (leads : ∀ node ∈ t.preorder, chosen node = true → node.Leads chosen) :
    (t.preorder.filter chosen).Pairwise fun first second =>
      first.label.start < second.label.start := by
  rw [List.pairwise_filter]
  induction t using Tree.induction with
  | step t ih =>
      have further {child : Tree} (member : child ∈ t.children) (node : Tree)
          (below : node ∈ child.preorder) :=
        leads node (preorder_subset_of_mem_children member below)
      rw [preorder_eq, List.pairwise_cons, List.pairwise_flatMap]
      -- Of two chosen nodes one is this node, or both are in one child, or they are in two.
      refine ⟨fun node below outer inner => ?_, fun child member =>
        ih child member (laidOut.child member) (further member), ?_⟩
      · obtain ⟨place, before, -, after⟩ := leads t t.self_mem_preorder outer
        exact before.trans_le (after node below inner)
      · refine laidOut.liesIn.inOrder.imp_of_mem fun {earlier later} memberE memberL order
          node below other belowL isChosen _ => ?_
        obtain ⟨place, before, ends, -⟩ := further memberE node below isChosen
        calc node.label.start < place := before
          _ ≤ node.label.stop := ends
          _ ≤ earlier.label.stop := ((laidOut.child memberE).within below).2
          _ ≤ later.label.start := order
          _ ≤ other.label.start := ((laidOut.child memberL).within belowL).1

end Tree

end TypedQueries
