import TypedQueries.Syntax.Tree

/-! # Places in a syntax tree

A site is a node together with all that is around it: for every node on the way up to
the root, that node's own data and its children before and after the way. So a site
tells one place of a tree from another even where the same node stands at both, and the
tree it belongs to can be read off it.

The nodes of a tree are visited by moving a site: to the first child, or to the next
sibling, or up until there is one.
-/

namespace TypedQueries

/-- What is around a node within its parent: the parent's own data and the node's
siblings, those before it from the nearest on. -/
structure Frame where
  label : Label
  before : List Tree
  after : List Tree
deriving Repr

/-- The parent, given the node at the frame. -/
def Frame.fill (frame : Frame) (t : Tree) : Tree :=
  .node frame.label (frame.before.reverse ++ t :: frame.after)

/-- A node in its tree, with the frames around it from the nearest on. -/
structure Site where
  node : Tree
  frames : List Frame
deriving Repr

namespace Site

def ofTree (t : Tree) : Site := ⟨t, []⟩

def kind (site : Site) : Kind := site.node.kind

def text (site : Site) : String := site.node.text

def depth (site : Site) : Nat := site.frames.length

/-- The way to a site from the root: the number of siblings before each node on it. -/
def path (site : Site) : List Nat := (site.frames.map (·.before.length)).reverse

def parent? : Site → Option Site
  | ⟨_, []⟩ => none
  | ⟨t, frame :: frames⟩ => some ⟨frame.fill t, frames⟩

def firstChild? : Site → Option Site
  | ⟨.node _ [], _⟩ => none
  | ⟨.node label (t :: after), frames⟩ => some ⟨t, ⟨label, [], after⟩ :: frames⟩

def nextSibling? : Site → Option Site
  | ⟨t, ⟨label, before, next :: after⟩ :: frames⟩ =>
      some ⟨next, ⟨label, t :: before, after⟩ :: frames⟩
  | _ => none

/-- The sites of trees that follow the given ones, nearest first, below a node. -/
def place (label : Label) (frames : List Frame) (before : List Tree) : List Tree → List Site
  | [] => []
  | t :: after => ⟨t, ⟨label, before, after⟩ :: frames⟩ :: place label frames (t :: before) after

def children (site : Site) : List Site := place site.node.label site.frames [] site.node.children

/-- The sites of the children that are not punctuation. -/
def namedChildren (site : Site) : List Site := site.children.filter (·.node.label.named)

/-- The site of the first child in the given role. -/
def child? (site : Site) (role : Role) : Option Site :=
  site.children.find? fun c => c.node.label.role == some role

theorem map_node_place (label : Label) (frames : List Frame) (before ts : List Tree) :
    (place label frames before ts).map (·.node) = ts := by
  induction ts generalizing before with
  | nil => rfl
  | cons t after ih => rw [place, List.map_cons, ih]

@[simp] theorem map_node_children (site : Site) :
    site.children.map (·.node) = site.node.children :=
  map_node_place ..

theorem mem_children_of_mem_namedChildren {site c : Site} (h : c ∈ site.namedChildren) :
    c ∈ site.children :=
  (List.mem_filter.mp h).1

theorem mem_children_of_child? {site c : Site} {role : Role} (h : site.child? role = some c) :
    c ∈ site.children :=
  List.mem_of_find?_eq_some h

theorem size_lt_of_mem_children {site c : Site} (h : c ∈ site.children) :
    c.node.size < site.node.size := by
  have member : c.node ∈ site.node.children := by
    rw [← map_node_children]
    exact List.mem_map_of_mem h
  have part := Tree.size_le_sizeAll member
  have whole := site.node.size_eq
  omega

theorem map_node_namedChildren (site : Site) :
    site.namedChildren.map (·.node) = site.node.namedChildren := by
  rw [namedChildren, Tree.namedChildren, ← map_node_children, List.filter_map]
  rfl

/-- The nodes at and below some sites are fewer without the first of them. -/
theorem sizeAll_lt_cons (site : Site) (rest : List Site) :
    Tree.sizeAll (rest.map (·.node)) < Tree.sizeAll ((site :: rest).map (·.node)) := by
  rw [List.map_cons, Tree.sizeAll]
  exact Nat.lt_add_of_pos_left site.node.size_pos

/-- The nodes at and below some sites are fewer with children in the place of their parent. -/
theorem sizeAll_namedChildren_lt (site : Site) (rest : List Site) :
    Tree.sizeAll ((site.namedChildren ++ rest).map (·.node)) <
      Tree.sizeAll ((site :: rest).map (·.node)) := by
  have fewer := Tree.sizeAll_filter_le (·.label.named) site.node.children
  rw [List.map_append, Tree.sizeAll_append, map_node_namedChildren, List.map_cons, Tree.sizeAll,
    Tree.size_eq, Tree.namedChildren]
  omega

/-- The nodes on the way up from a node with the given frames around it. -/
def climb (t : Tree) : List Frame → List Site
  | [] => []
  | frame :: frames => ⟨frame.fill t, frames⟩ :: climb (frame.fill t) frames

/-- The nodes around a site, the nearest first. -/
def ancestors (site : Site) : List Site := climb site.node site.frames

def fillAll (t : Tree) : List Frame → Tree
  | [] => t
  | frame :: frames => fillAll (frame.fill t) frames

def top (site : Site) : Tree := fillAll site.node site.frames

mutual

/-- A node and the nodes below it, each before those below it. -/
def below (frames : List Frame) : Tree → List Site
  | .node label children => ⟨.node label children, frames⟩ :: belowAll label frames [] children

/-- The nodes at and below the trees that follow the given ones, nearest first, below a
node. -/
def belowAll (label : Label) (frames : List Frame) (before : List Tree) : List Tree → List Site
  | [] => []
  | t :: after =>
      below (⟨label, before, after⟩ :: frames) t ++ belowAll label frames (t :: before) after

end

/-- All nodes of a tree, each before those below it. -/
def all (t : Tree) : List Site := below [] t

/-! ## Visiting the nodes -/

theorem frames_length_of_parent? {site parent : Site} (h : site.parent? = some parent) :
    parent.frames.length < site.frames.length := by
  obtain ⟨t, frames⟩ := site
  cases frames with
  | nil => simp [parent?] at h
  | cons frame frames =>
      obtain rfl := Option.some.inj h
      exact Nat.lt_succ_self frames.length

/-- The next sibling of the node, or else of the nearest node around it that has one. -/
def following? (site : Site) : Option Site :=
  match site.nextSibling? with
  | some next => some next
  | none =>
      match _h : site.parent? with
      | some parent => parent.following?
      | none => none
termination_by site.frames.length
decreasing_by exact frames_length_of_parent? ‹_›

theorem following?_of_nextSibling? {site next : Site} (h : site.nextSibling? = some next) :
    site.following? = some next := by
  rw [following?, h]

theorem following?_of_last {site : Site} (last : site.nextSibling? = none) :
    site.following? = site.parent?.bind following? := by
  rw [following?, last]
  dsimp only
  split
  · next parent found => rw [found, Option.bind_some]
  · next found => rw [found, Option.bind_none]

/-- Where a visit goes on: below the node first. -/
def next? (site : Site) : Option Site :=
  match site.firstChild? with
  | some child => some child
  | none => site.following?

/-- The number of nodes after those that the frames are around. -/
def ahead : List Frame → Nat
  | [] => 0
  | frame :: frames => Tree.sizeAll frame.after + ahead frames

/-- The number of nodes still to be visited, counting from a site on. -/
def remaining (site : Site) : Nat := site.node.size + ahead site.frames

theorem ahead_parent? {site parent : Site} (h : site.parent? = some parent)
    (last : site.nextSibling? = none) : ahead parent.frames = ahead site.frames := by
  obtain ⟨t, frames⟩ := site
  match frames with
  | [] => cases h
  | ⟨label, before, []⟩ :: frames =>
      obtain rfl := Option.some.inj h
      exact (Nat.zero_add _).symm
  | ⟨label, before, next :: after⟩ :: frames => cases last

theorem remaining_following? {site next : Site} (h : site.following? = some next) :
    next.remaining = ahead site.frames := by
  induction site using following?.induct with
  | case1 site sibling found =>
      obtain rfl := Option.some.inj ((following?_of_nextSibling? found).symm.trans h)
      obtain ⟨t, frames⟩ := site
      match frames with
      | [] => cases found
      | ⟨label, before, []⟩ :: frames => cases found
      | ⟨label, before, next :: after⟩ :: frames =>
          obtain rfl := Option.some.inj found
          exact (Nat.add_assoc ..).symm
  | case2 site last parent found ih =>
      rw [following?_of_last last, found, Option.bind_some] at h
      rw [ih h, ahead_parent? found last]
  | case3 site last found =>
      rw [following?_of_last last, found] at h
      cases h

theorem remaining_next? {site next : Site} (h : site.next? = some next) :
    next.remaining + 1 = site.remaining := by
  obtain ⟨⟨label, children⟩, frames⟩ := site
  cases children with
  | nil =>
      have following : following? ⟨.node label [], frames⟩ = some next := h
      rw [remaining_following? following, remaining, Tree.size, Tree.sizeAll, Nat.add_comm]
  | cons t after =>
      obtain rfl := Option.some.inj (show some _ = some next from h)
      simp only [remaining, ahead, Tree.size, Tree.sizeAll]
      omega

/-- Visits the nodes from a site on, one after the other, until there is none left. -/
def walk {σ : Type} (visit : σ → Site → σ) (state : σ) (site : Site) : σ :=
  match _h : site.next? with
  | some next => walk visit (visit state site) next
  | none => visit state site
termination_by site.remaining
decreasing_by exact Nat.lt_of_succ_le (Nat.le_of_eq (remaining_next? ‹_›))

end Site

end TypedQueries
