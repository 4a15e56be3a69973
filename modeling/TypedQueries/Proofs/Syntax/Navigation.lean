import TypedQueries.Syntax.Site

/-! # Moving between the places of a tree

The children of a site are the sites it is the parent of, so what is known of a site can
be carried along the way from the root: the tree, the depth, the nodes around it. Going
down the way to a site leads to that site (`Site.descend_path`), so a place of a tree is
known by its way (`Site.eq_of_path_eq`).
-/

namespace TypedQueries

namespace Site

variable {site child parent : Site}

/-! ## Parents and children -/

theorem getElem?_place (label : Label) (frames : List Frame) (before earlier later : List Tree)
    (t : Tree) :
    (place label frames before (earlier ++ t :: later))[earlier.length]? =
      some ⟨t, ⟨label, earlier.reverse ++ before, later⟩ :: frames⟩ := by
  induction earlier generalizing before with
  | nil => rfl
  | cons u earlier ih =>
      rw [List.cons_append, place, List.length_cons, List.getElem?_cons_succ, ih,
        List.reverse_cons, List.append_assoc]
      rfl

/-- A node stands among the children of its parent. -/
theorem getElem?_children_fill (t : Tree) (frame : Frame) (frames : List Frame) :
    (children ⟨frame.fill t, frames⟩)[frame.before.length]? = some ⟨t, frame :: frames⟩ := by
  have found := getElem?_place frame.label frames [] frame.before.reverse frame.after t
  rwa [List.length_reverse, List.reverse_reverse, List.append_nil] at found

/-- A placed tree keeps its siblings and gets the others before or after it. -/
theorem exists_of_mem_place {label : Label} {frames : List Frame} {before ts : List Tree}
    (member : site ∈ place label frames before ts) :
    ∃ earlier later, ts = earlier ++ site.node :: later ∧
      site.frames = ⟨label, earlier.reverse ++ before, later⟩ :: frames := by
  induction ts generalizing before with
  | nil => cases member
  | cons t after ih =>
      rcases List.mem_cons.mp member with rfl | rest
      · exact ⟨[], after, rfl, rfl⟩
      · obtain ⟨earlier, later, rfl, shape⟩ := ih rest
        refine ⟨t :: earlier, later, rfl, ?_⟩
        rw [shape, List.reverse_cons, List.append_assoc]
        rfl

theorem mem_children_iff : child ∈ site.children ↔ child.parent? = some site := by
  constructor
  · intro member
    obtain ⟨earlier, later, split, shape⟩ := exists_of_mem_place member
    obtain ⟨⟨label, children⟩, frames⟩ := site
    obtain ⟨t, childFrames⟩ := child
    subst shape
    obtain rfl : children = earlier ++ t :: later := split
    simp [parent?, Frame.fill]
  · intro found
    obtain ⟨t, frames⟩ := child
    cases frames with
    | nil => cases found
    | cons frame frames =>
        obtain rfl := Option.some.inj found
        exact List.mem_of_getElem? (getElem?_children_fill t frame frames)

theorem parent?_of_child? {role : Role} (found : site.child? role = some child) :
    child.parent? = some site :=
  mem_children_iff.mp (mem_children_of_child? found)

theorem parent?_of_mem_namedChildren (member : child ∈ site.namedChildren) :
    child.parent? = some site :=
  mem_children_iff.mp (mem_children_of_mem_namedChildren member)

/-- What holds of the roots and is handed on to children holds of all sites. -/
theorem induction_down {motive : Site → Prop} (root : ∀ t, motive (ofTree t))
    (step : ∀ parent child : Site, child.parent? = some parent → motive parent → motive child)
    (site : Site) : motive site := by
  obtain ⟨t, frames⟩ := site
  induction frames generalizing t with
  | nil => exact root t
  | cons frame frames ih => exact step ⟨frame.fill t, frames⟩ _ rfl (ih (frame.fill t))

/-! ## What changes from parent to child -/

@[simp] theorem ancestors_ofTree (t : Tree) : (ofTree t).ancestors = [] := rfl

@[simp] theorem top_ofTree (t : Tree) : (ofTree t).top = t := rfl

theorem ancestors_of_parent? (found : child.parent? = some parent) :
    child.ancestors = parent :: parent.ancestors := by
  obtain ⟨t, frames⟩ := child
  cases frames with
  | nil => cases found
  | cons frame frames =>
      obtain rfl := Option.some.inj found
      rfl

theorem top_of_parent? (found : child.parent? = some parent) : child.top = parent.top := by
  obtain ⟨t, frames⟩ := child
  cases frames with
  | nil => cases found
  | cons frame frames =>
      obtain rfl := Option.some.inj found
      rfl

theorem depth_of_parent? (found : child.parent? = some parent) :
    child.depth = parent.depth + 1 := by
  obtain ⟨t, frames⟩ := child
  cases frames with
  | nil => cases found
  | cons frame frames =>
      obtain rfl := Option.some.inj found
      rfl

theorem mem_ancestors_of_parent? (found : child.parent? = some parent) :
    parent ∈ child.ancestors := by
  rw [ancestors_of_parent? found]
  exact List.mem_cons_self

theorem depth_lt_of_parent? (found : child.parent? = some parent) :
    parent.depth < child.depth := by
  rw [depth_of_parent? found]
  exact Nat.lt_succ_self _

theorem path_of_getElem?_place {label : Label} {frames : List Frame} {before ts : List Tree}
    {index : Nat} (t : Tree) (found : (place label frames before ts)[index]? = some child) :
    child.path = path ⟨t, frames⟩ ++ [before.length + index] := by
  induction ts generalizing before index with
  | nil => cases found
  | cons u after ih =>
      cases index with
      | zero =>
          obtain rfl := Option.some.inj (List.getElem?_cons_zero.symm.trans found)
          simp [path]
      | succ index =>
          rw [ih (List.getElem?_cons_succ.symm.trans found), List.length_cons,
            Nat.add_right_comm, Nat.add_assoc]

/-- The way to a child ends with its number among the children. -/
theorem path_of_getElem?_children {index : Nat} (found : site.children[index]? = some child) :
    child.path = site.path ++ [index] := by
  rw [path_of_getElem?_place site.node found, List.length_nil, Nat.zero_add]

/-! ## The nodes around a site -/

theorem depth_lt_of_mem_ancestors {outer : Site} (member : outer ∈ site.ancestors) :
    outer.depth < site.depth := by
  induction site using induction_down with
  | root t => cases member
  | step parent child found ih =>
      rw [ancestors_of_parent? found] at member
      have deeper := depth_lt_of_parent? found
      rcases List.mem_cons.mp member with rfl | further
      · exact deeper
      · exact Nat.lt_trans (ih further) deeper

/-- The nodes around a site end with those around any one of them. -/
theorem exists_ancestors_eq_append {outer : Site} (member : outer ∈ site.ancestors) :
    ∃ nearer, site.ancestors = nearer ++ outer :: outer.ancestors := by
  induction site using induction_down with
  | root t => cases member
  | step parent child found ih =>
      rw [ancestors_of_parent? found] at member ⊢
      rcases List.mem_cons.mp member with rfl | further
      · exact ⟨[], rfl⟩
      · obtain ⟨nearer, split⟩ := ih further
        exact ⟨parent :: nearer, by rw [split, List.cons_append]⟩

theorem mem_ancestors_trans {inner outer : Site} (first : inner ∈ site.ancestors)
    (second : outer ∈ inner.ancestors) : outer ∈ site.ancestors := by
  obtain ⟨nearer, split⟩ := exists_ancestors_eq_append first
  rw [split]
  exact List.mem_append_right _ (List.mem_cons_of_mem _ second)

theorem top_of_mem_ancestors {outer : Site} (member : outer ∈ site.ancestors) :
    outer.top = site.top := by
  induction site using induction_down with
  | root t => cases member
  | step parent child found ih =>
      rw [ancestors_of_parent? found] at member
      rw [top_of_parent? found]
      rcases List.mem_cons.mp member with rfl | further
      · rfl
      · exact ih further

/-- Two nodes around a site at the same depth are the same. -/
theorem eq_of_mem_ancestors_of_depth_eq {first second : Site} (one : first ∈ site.ancestors)
    (other : second ∈ site.ancestors) (same : first.depth = second.depth) : first = second := by
  induction site using induction_down with
  | root t => cases one
  | step parent child found ih =>
      rw [ancestors_of_parent? found] at one other
      rcases List.mem_cons.mp one with rfl | one <;> rcases List.mem_cons.mp other with rfl | other
      · rfl
      · exact absurd (depth_lt_of_mem_ancestors other) (by omega)
      · exact absurd (depth_lt_of_mem_ancestors one) (by omega)
      · exact ih one other

/-- Of two nodes around a site the higher one is around the other. -/
theorem mem_ancestors_of_depth_lt {outer inner : Site} (one : outer ∈ site.ancestors)
    (other : inner ∈ site.ancestors) (higher : outer.depth < inner.depth) :
    outer ∈ inner.ancestors := by
  induction site using induction_down with
  | root t => cases one
  | step parent child found ih =>
      rw [ancestors_of_parent? found] at one other
      rcases List.mem_cons.mp one with rfl | one
      · rcases List.mem_cons.mp other with rfl | other
        · exact absurd higher (Nat.lt_irrefl _)
        · exact absurd (depth_lt_of_mem_ancestors other) (Nat.lt_asymm higher)
      · rcases List.mem_cons.mp other with rfl | other
        · exact one
        · exact ih one other

/-- Of the nodes around a site with a property, the one found first is the nearest. -/
theorem depth_le_of_find?_ancestors {test : Site → Bool} {nearest outer : Site}
    (found : site.ancestors.find? test = some nearest) (member : outer ∈ site.ancestors)
    (holds : test outer = true) : outer.depth ≤ nearest.depth := by
  induction site using induction_down with
  | root t => cases member
  | step parent child up ih =>
      rw [ancestors_of_parent? up] at found member
      by_cases first : test parent = true
      · rw [List.find?_cons_of_pos first] at found
        obtain rfl := Option.some.inj found
        rcases List.mem_cons.mp member with rfl | further
        · exact Nat.le_refl _
        · exact Nat.le_of_lt (depth_lt_of_mem_ancestors further)
      · rw [List.find?_cons_of_neg first] at found
        rcases List.mem_cons.mp member with rfl | further
        · exact absurd holds first
        · exact ih found further

/-! ## The way down -/

/-- Goes down from a site, each time to the child of the next number, and carries along
what is gathered at the nodes passed. -/
def descend {σ : Type} (pass : σ → Site → σ) (state : σ) (site : Site) :
    List Nat → Option (Site × σ)
  | [] => some (site, state)
  | index :: way =>
      match site.children[index]? with
      | none => none
      | some child => descend pass (pass state site) child way

theorem descend_append {σ : Type} (pass : σ → Site → σ) (state : σ) (site : Site)
    (first second : List Nat) :
    descend pass state site (first ++ second) =
      (descend pass state site first).bind fun reached =>
        descend pass reached.2 reached.1 second := by
  induction first generalizing state site with
  | nil => rfl
  | cons index way ih =>
      rw [List.cons_append, descend, descend]
      cases site.children[index]? with
      | none => rfl
      | some child => exact ih _ child

/-- The way to a site leads there from the root, past the nodes around it. -/
theorem descend_path {σ : Type} (pass : σ → Site → σ) (state : σ) (site : Site) :
    descend pass state (ofTree site.top) site.path =
      some (site, site.ancestors.foldr (fun outer carried => pass carried outer) state) := by
  induction site using induction_down with
  | root t => rfl
  | step parent child found ih =>
      obtain ⟨index, place⟩ := List.getElem?_of_mem (mem_children_iff.mpr found)
      rw [path_of_getElem?_children place, top_of_parent? found, descend_append, ih,
        Option.bind_some, descend, place, ancestors_of_parent? found]
      rfl

/-- The places of a tree differ in the way to them. -/
theorem eq_of_path_eq {other : Site} (tree : site.top = other.top)
    (way : site.path = other.path) : site = other := by
  have first := descend_path (fun state _ => state) () site
  have second := descend_path (fun state _ => state) () other
  rw [tree, way, second] at first
  exact (congrArg Prod.fst (Option.some.inj first)).symm

/-- A node whose way begins another way is that node or around it. -/
theorem eq_or_mem_ancestors_of_path {outer : Site} (tree : outer.top = site.top)
    (begins : outer.path <+: site.path) : outer = site ∨ outer ∈ site.ancestors := by
  induction site using induction_down with
  | root t =>
      exact Or.inl (eq_of_path_eq tree (List.prefix_nil.mp begins))
  | step parent child found ih =>
      obtain ⟨index, place⟩ := List.getElem?_of_mem (mem_children_iff.mpr found)
      rw [path_of_getElem?_children place, List.prefix_concat_iff] at begins
      rcases begins with same | shorter
      · exact Or.inl (eq_of_path_eq tree (same.trans (path_of_getElem?_children place).symm))
      · rw [ancestors_of_parent? found]
        exact Or.inr (List.mem_cons.mpr (ih (tree.trans (top_of_parent? found)) shorter))

end Site

end TypedQueries
