import Mathlib.Data.List.Basic
import TypedQueries.Proofs.Syntax.Navigation

/-! # Visiting every node once

The nodes listed by `Site.all` are exactly the sites of the tree, each once and in
pre-order: their ways from the root increase lexicographically
(`Site.mem_all_iff`, `Site.pairwise_path_all`). Moving to the first child, the next
sibling or the next sibling further up runs through this list and stops at its end
(`Site.tour_all`), so a visit of the nodes is a fold over it (`Site.walk_ofTree`).
-/

namespace TypedQueries

namespace Site

variable {site child parent : Site}

/-- The nodes at and below a site, each before those below it. -/
def nodes (site : Site) : List Site := below site.frames site.node

theorem belowAll_eq_flatMap (label : Label) (frames : List Frame) (before ts : List Tree) :
    belowAll label frames before ts = (place label frames before ts).flatMap nodes := by
  induction ts generalizing before with
  | nil => rfl
  | cons t after ih =>
      rw [belowAll, place, List.flatMap_cons, ih]
      rfl

theorem nodes_eq (site : Site) : site.nodes = site :: site.children.flatMap nodes := by
  obtain ⟨⟨label, children⟩, frames⟩ := site
  rw [nodes, below, belowAll_eq_flatMap]
  rfl

theorem self_mem_nodes (site : Site) : site ∈ site.nodes := by
  rw [nodes_eq]
  exact List.mem_cons_self

/-- What holds of a site once it holds of its children holds of all sites. -/
theorem induction_up {motive : Site → Prop}
    (step : ∀ site : Site, (∀ child ∈ site.children, motive child) → motive site)
    (site : Site) : motive site := by
  induction size : site.node.size using Nat.strongRecOn generalizing site with
  | ind size ih =>
      subst size
      exact step site fun child member => ih _ (size_lt_of_mem_children member) child rfl

theorem map_node_nodes (site : Site) : site.nodes.map (·.node) = site.node.preorder := by
  induction site using induction_up with
  | step site ih =>
      rw [nodes_eq, Tree.preorder_eq, List.map_cons, List.map_flatMap, ← map_node_children,
        List.flatMap_map]
      exact congrArg _ (List.flatMap_congr ih)

theorem map_node_all (t : Tree) : (all t).map (·.node) = t.preorder := map_node_nodes (ofTree t)

/-! ## The nodes of a tree are its sites -/

theorem mem_nodes_trans {inner outer : Site} (first : site ∈ inner.nodes)
    (second : inner ∈ outer.nodes) : site ∈ outer.nodes := by
  induction outer using induction_up with
  | step outer ih =>
      rw [nodes_eq, List.mem_cons, List.mem_flatMap] at second
      rcases second with rfl | ⟨child, member, below⟩
      · exact first
      · rw [nodes_eq]
        exact List.mem_cons_of_mem _ (List.mem_flatMap.mpr ⟨child, member, ih child member below⟩)

theorem mem_nodes_iff {outer : Site} :
    site ∈ outer.nodes ↔ site = outer ∨ outer ∈ site.ancestors := by
  constructor
  · intro member
    induction outer using induction_up with
    | step outer ih =>
        rw [nodes_eq, List.mem_cons, List.mem_flatMap] at member
        rcases member with rfl | ⟨child, among, below⟩
        · exact Or.inl rfl
        · have around := mem_ancestors_of_parent? (mem_children_iff.mp among)
          rcases ih child among below with rfl | further
          · exact Or.inr around
          · exact Or.inr (mem_ancestors_trans further around)
  · intro within
    induction site using induction_down with
    | root t =>
        rcases within with rfl | impossible
        · exact self_mem_nodes _
        · cases impossible
    | step parent child found ih =>
        rcases within with rfl | around
        · exact self_mem_nodes _
        · have childIn : child ∈ parent.nodes := by
            rw [nodes_eq]
            exact List.mem_cons_of_mem _ (List.mem_flatMap.mpr
              ⟨child, mem_children_iff.mpr found, self_mem_nodes child⟩)
          rw [ancestors_of_parent? found, List.mem_cons] at around
          exact mem_nodes_trans childIn (ih (around.imp Eq.symm id))

theorem top_of_mem_nodes {outer : Site} (member : site ∈ outer.nodes) : site.top = outer.top := by
  rcases mem_nodes_iff.mp member with rfl | around
  · rfl
  · exact (top_of_mem_ancestors around).symm

theorem mem_ancestors_of_mem_nodes (found : child.parent? = some parent)
    (below : site ∈ child.nodes) : parent ∈ site.ancestors := by
  have around := mem_ancestors_of_parent? found
  rcases mem_nodes_iff.mp below with rfl | further
  · exact around
  · exact mem_ancestors_trans further around

theorem eq_ofTree_or_mem_ancestors (site : Site) :
    site = ofTree site.top ∨ ofTree site.top ∈ site.ancestors := by
  induction site using induction_down with
  | root t => exact Or.inl rfl
  | step parent child found ih =>
      rw [top_of_parent? found, ancestors_of_parent? found]
      exact Or.inr (List.mem_cons.mpr (ih.imp Eq.symm id))

/-- The nodes of a tree are the sites that belong to it. -/
theorem mem_all_iff {t : Tree} : site ∈ all t ↔ site.top = t := by
  constructor
  · exact fun member => top_of_mem_nodes (show site ∈ (ofTree t).nodes from member)
  · rintro rfl
    exact mem_nodes_iff.mpr (eq_ofTree_or_mem_ancestors site)

theorem length_below (frames : List Frame) (t : Tree) : (below frames t).length = t.size :=
  Tree.rec
    (motive_1 := fun t => ∀ frames, (below frames t).length = t.size)
    (motive_2 := fun ts => ∀ label frames before,
      (belowAll label frames before ts).length = Tree.sizeAll ts)
    (fun label children ih frames => by
      rw [below, List.length_cons, ih, Tree.size, Nat.add_comm])
    (fun _ _ _ => rfl)
    (fun t ts head tail label frames before => by
      rw [belowAll, List.length_append, head, tail, Tree.sizeAll])
    t frames

/-! ## Pre-order -/

theorem exists_path_of_mem_nodes (member : child ∈ site.nodes) :
    ∃ way, child.path = site.path ++ way := by
  induction child using induction_down with
  | root t =>
      rcases mem_nodes_iff.mp member with rfl | impossible
      · exact ⟨[], (List.append_nil _).symm⟩
      · cases impossible
  | step parent child found ih =>
      rcases mem_nodes_iff.mp member with rfl | around
      · exact ⟨[], (List.append_nil _).symm⟩
      · rw [ancestors_of_parent? found, List.mem_cons] at around
        obtain ⟨way, split⟩ := ih (mem_nodes_iff.mpr (around.imp Eq.symm id))
        obtain ⟨index, place⟩ := List.getElem?_of_mem (mem_children_iff.mpr found)
        exact ⟨way ++ [index], by
          rw [path_of_getElem?_children place, split, List.append_assoc]⟩

/-- The nodes at and below a child come before those at and below a later one. -/
theorem path_lt_of_getElem?_children {first second earlier later : Site} {i j : Nat}
    (one : site.children[i]? = some first) (other : site.children[j]? = some second) (order : i < j)
    (inFirst : earlier ∈ first.nodes) (inSecond : later ∈ second.nodes) :
    earlier.path < later.path := by
  obtain ⟨firstWay, firstPath⟩ := exists_path_of_mem_nodes inFirst
  obtain ⟨secondWay, secondPath⟩ := exists_path_of_mem_nodes inSecond
  rw [firstPath, secondPath, path_of_getElem?_children one, path_of_getElem?_children other,
    List.append_assoc, List.append_assoc]
  exact List.append_left_lt (List.cons_lt_cons_iff.mpr (Or.inl order))

/-- The ways to the nodes at and below a site increase lexicographically. -/
theorem pairwise_path_nodes (site : Site) :
    site.nodes.Pairwise fun first second => first.path < second.path := by
  induction site using induction_up with
  | step site ih =>
      rw [nodes_eq, List.pairwise_cons, List.pairwise_flatMap, List.pairwise_iff_getElem]
      refine ⟨?_, ih, ?_⟩
      · intro later member
        obtain ⟨child, among, below⟩ := List.mem_flatMap.mp member
        obtain ⟨index, place⟩ := List.getElem?_of_mem among
        obtain ⟨way, split⟩ := exists_path_of_mem_nodes below
        rw [split, path_of_getElem?_children place, List.append_assoc]
        calc site.path = site.path ++ [] := (List.append_nil _).symm
          _ < site.path ++ ([index] ++ way) := List.append_left_lt (List.nil_lt_cons index way)
      · intro i j validI validJ order earlier inFirst later inSecond
        exact path_lt_of_getElem?_children (List.getElem?_eq_getElem validI)
          (List.getElem?_eq_getElem validJ) order inFirst inSecond

/-- The ways to the nodes of a tree increase lexicographically. -/
theorem pairwise_path_all (t : Tree) :
    (all t).Pairwise fun first second => first.path < second.path :=
  pairwise_path_nodes (ofTree t)

theorem nodup_all (t : Tree) : (all t).Nodup := by
  refine (pairwise_path_all t).imp fun {first second} order same => ?_
  rw [same] at order
  exact List.lt_irrefl _ order

/-! ## The run of a visit -/

/-- A run of moves from a site on that comes to its end, with the sites it passes. -/
inductive Tour : Site → List Site → Prop where
  | stop {site : Site} (finished : site.next? = none) : Tour site [site]
  | move {site next : Site} {rest : List Site} (further : site.next? = some next)
      (tour : Tour next rest) : Tour site (site :: rest)

/-- What a visit does is done to the sites of its run in order. -/
theorem Tour.walk_eq_foldl {σ : Type} {visited : List Site} (tour : Tour site visited)
    (visit : σ → Site → σ) (state : σ) : site.walk visit state = visited.foldl visit state := by
  induction tour generalizing state with
  | @stop site finished =>
      rw [walk]
      split
      · next next further => cases finished.symm.trans further
      · rfl
  | @move site next rest further tour ih =>
      rw [walk]
      split
      · next other found =>
          obtain rfl := Option.some.inj (further.symm.trans found)
          exact ih (visit state site)
      · next finished => cases finished.symm.trans further

/-- The nodes that come after a node with the given frames around it and after all nodes
below it. -/
def beyond (t : Tree) : List Frame → List Site
  | [] => []
  | frame :: frames =>
      belowAll frame.label frames (t :: frame.before) frame.after ++ beyond (frame.fill t) frames

/-- The nodes that come after a site and after all nodes below it. -/
def later (site : Site) : List Site := beyond site.node site.frames

theorem later_of_nextSibling? {next : Site} (found : site.nextSibling? = some next) :
    site.later = next.nodes ++ next.later := by
  obtain ⟨t, frames⟩ := site
  match frames with
  | [] => cases found
  | ⟨label, before, []⟩ :: frames => cases found
  | ⟨label, before, sibling :: after⟩ :: frames =>
      obtain rfl := Option.some.inj found
      have same : Frame.fill ⟨label, before, sibling :: after⟩ t =
          Frame.fill ⟨label, t :: before, after⟩ sibling := by
        simp [Frame.fill]
      rw [later, beyond, belowAll, same, List.append_assoc]
      rfl

theorem later_of_parent? (last : site.nextSibling? = none) (found : site.parent? = some parent) :
    site.later = parent.later := by
  obtain ⟨t, frames⟩ := site
  match frames with
  | [] => cases found
  | ⟨label, before, []⟩ :: frames =>
      obtain rfl := Option.some.inj found
      rfl
  | ⟨label, before, sibling :: after⟩ :: frames => cases last

/-- What follows a site is the first of the nodes beyond it. -/
theorem later_eq (site : Site) :
    site.later = site.following?.elim [] fun next => next.nodes ++ next.later := by
  induction site using following?.induct with
  | case1 site sibling found =>
      rw [following?_of_nextSibling? found, later_of_nextSibling? found]
      rfl
  | case2 site last parent found ih =>
      rw [following?_of_last last, found, Option.bind_some, later_of_parent? last found, ih]
  | case3 site last found =>
      obtain ⟨t, frames⟩ := site
      cases frames with
      | nil => rw [following?_of_last last, found]; rfl
      | cons frame frames => cases found

/-- A visit goes on with the nodes below a site and comes to the nodes beyond it. -/
theorem nodes_append_later (site : Site) :
    site.nodes ++ site.later =
      site :: site.next?.elim [] fun next => next.nodes ++ next.later := by
  obtain ⟨⟨label, children⟩, frames⟩ := site
  cases children with
  | nil => rw [later_eq]; rfl
  | cons t after =>
      have next : next? ⟨.node label (t :: after), frames⟩ =
          some ⟨t, ⟨label, [], after⟩ :: frames⟩ := rfl
      rw [next, Option.elim_some, nodes, below, belowAll, List.cons_append, List.append_assoc]
      rfl

/-- A visit from a site on comes to its end after the nodes at, below and beyond it. -/
theorem tour_nodes_append_later (site : Site) : Tour site (site.nodes ++ site.later) := by
  induction size : site.remaining using Nat.strongRecOn generalizing site with
  | ind size ih =>
      subst size
      rw [nodes_append_later]
      cases further : site.next? with
      | none => exact .stop further
      | some next =>
          have fewer : next.remaining < site.remaining :=
            Nat.lt_of_succ_le (Nat.le_of_eq (remaining_next? further))
          exact .move further (ih _ fewer next rfl)

/-- A visit from the root on comes to its end after all nodes of the tree in order. -/
theorem tour_all (t : Tree) : Tour (ofTree t) (all t) := by
  have tour := tour_nodes_append_later (ofTree t)
  rwa [show (ofTree t).later = [] from rfl, List.append_nil] at tour

theorem walk_ofTree {σ : Type} (visit : σ → Site → σ) (state : σ) (t : Tree) :
    (ofTree t).walk visit state = (all t).foldl visit state :=
  (tour_all t).walk_eq_foldl visit state

end Site

end TypedQueries
