import TypedQueries.Syntax.Site

/-! # Counting errors

The number of error nodes and supplied tokens in a tree. The flag of a node tells
whether there are any at or below it, so the nodes below an unflagged one are not
looked at. The count is at most the number of nodes, and fits into 32 bits where that
does.
-/

namespace TypedQueries

namespace Site

/-- The nodes left to look at after a node, the next one first: the children of a flagged
node, beginning with the last, and those that were left before. -/
def leftAfter (site : Site) (rest : List Site) : List Site :=
  if site.node.label.flagged then site.children.reverse ++ rest else rest

theorem sizeAll_leftAfter_lt (site : Site) (rest : List Site) :
    Tree.sizeAll ((site.leftAfter rest).map (·.node)) <
      Tree.sizeAll ((site :: rest).map (·.node)) := by
  rw [leftAfter]
  split
  · rw [List.map_append, Tree.sizeAll_append, List.map_reverse, map_node_children,
      Tree.sizeAll_eq_of_perm (List.reverse_perm _), List.map_cons, Tree.sizeAll, Tree.size_eq]
    omega
  · exact sizeAll_lt_cons site rest

/-- The errors among the nodes left to look at and below the flagged ones of them, added to
a count. -/
def countErrors (count : Nat) : List Site → Nat
  | [] => count
  | site :: rest =>
      countErrors (if site.node.isError then count + 1 else count) (site.leftAfter rest)
termination_by left => Tree.sizeAll (left.map (·.node))
decreasing_by exact sizeAll_leftAfter_lt site rest

end Site

/-- The number of errors in a tree. -/
def Tree.errorCount (t : Tree) : Nat :=
  if t.label.flagged then Site.countErrors 0 [.ofTree t] else 0

end TypedQueries
