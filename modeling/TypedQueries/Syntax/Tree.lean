import TypedQueries.Syntax.Kind

/-! # Syntax trees

A concrete syntax tree: a node has a kind, the role it plays in its parent, its
place in the file, its own source text and its children in source order.
Punctuation and comments are nodes too; `named` tells the nodes that carry
meaning (comments included) from punctuation.
-/

namespace TypedQueries

/-- A place in a file: lines and, within a line, bytes, both counted from zero. -/
structure Position where
  row : Nat
  column : Nat
deriving DecidableEq, Repr, Inhabited

/-- The role of a child in its parent, where the parent's kind gives it one. -/
inductive Role where
  | alias | arguments | body | declaration | function | initializer | left | name
  | object | parameter | parameters | pattern | property | value
deriving DecidableEq, Repr

/-- What a node says about itself. `flagged` is the parser's mark that the node
or something below it is an error. -/
structure Label where
  kind : Kind
  role : Option Role
  named : Bool
  missing : Bool
  flagged : Bool
  start : Position
  stop : Position
  text : String
deriving DecidableEq, Repr, Inhabited

/-- A syntax tree. -/
inductive Tree where
  | node (label : Label) (children : List Tree)
deriving Repr, Inhabited

namespace Tree

def label : Tree → Label
  | node label _ => label

def children : Tree → List Tree
  | node _ children => children

@[simp] theorem label_node (l : Label) (cs : List Tree) : (node l cs).label = l := rfl

@[simp] theorem children_node (l : Label) (cs : List Tree) : (node l cs).children = cs := rfl

def kind (t : Tree) : Kind := t.label.kind

def text (t : Tree) : String := t.label.text

@[simp] theorem kind_node (l : Label) (cs : List Tree) : (node l cs).kind = l.kind := rfl

@[simp] theorem text_node (l : Label) (cs : List Tree) : (node l cs).text = l.text := rfl

def namedChildren (t : Tree) : List Tree := t.children.filter (·.label.named)

def child? (t : Tree) (role : Role) : Option Tree :=
  t.children.find? fun c => c.label.role == some role

theorem mem_children_of_child? {t c : Tree} {role : Role} (h : t.child? role = some c) :
    c ∈ t.children :=
  List.mem_of_find?_eq_some h

theorem mem_children_of_mem_namedChildren {t c : Tree} (h : c ∈ t.namedChildren) :
    c ∈ t.children :=
  (List.mem_filter.1 h).1

theorem sizeOf_lt_of_mem_children {t c : Tree} (h : c ∈ t.children) : sizeOf c < sizeOf t := by
  cases t with
  | node l cs =>
    have : sizeOf c < sizeOf cs := List.sizeOf_lt_of_mem h
    simp only [node.sizeOf_spec]
    omega

/-- Whether the node is an error or a token the parser had to supply. -/
def isError (t : Tree) : Bool := t.kind == .error || t.label.missing

mutual

/-- The nodes of a tree, each before those below it. -/
def preorder : Tree → List Tree
  | node l cs => node l cs :: preorderAll cs

/-- The nodes of a list of trees, in order. -/
def preorderAll : List Tree → List Tree
  | [] => []
  | t :: ts => preorder t ++ preorderAll ts

end

theorem preorderAll_eq_flatMap (ts : List Tree) : preorderAll ts = ts.flatMap preorder := by
  induction ts with
  | nil => rfl
  | cons t ts ih => rw [preorderAll, ih, List.flatMap_cons]

theorem preorder_eq (t : Tree) : t.preorder = t :: t.children.flatMap preorder := by
  obtain ⟨label, children⟩ := t
  rw [preorder, preorderAll_eq_flatMap]
  rfl

mutual

def size : Tree → Nat
  | node _ cs => 1 + sizeAll cs

/-- The number of nodes of a list of trees. -/
def sizeAll : List Tree → Nat
  | [] => 0
  | t :: ts => size t + sizeAll ts

end

theorem size_eq (t : Tree) : t.size = 1 + sizeAll t.children := by
  cases t
  rfl

theorem size_pos (t : Tree) : 0 < t.size := by
  rw [size_eq]
  exact Nat.lt_add_right _ Nat.one_pos

theorem sizeAll_append (ts us : List Tree) : sizeAll (ts ++ us) = sizeAll ts + sizeAll us := by
  induction ts with
  | nil => exact (Nat.zero_add _).symm
  | cons t ts ih => rw [List.cons_append, sizeAll, sizeAll, ih, Nat.add_assoc]

theorem sizeAll_eq_of_perm {ts us : List Tree} (same : ts.Perm us) : sizeAll ts = sizeAll us := by
  induction same with
  | nil => rfl
  | cons t _ ih => rw [sizeAll, sizeAll, ih]
  | swap t u ts =>
      rw [sizeAll, sizeAll, sizeAll, sizeAll]
      exact Nat.add_left_comm _ _ _
  | trans _ _ ih jh => exact ih.trans jh

theorem size_le_sizeAll {t : Tree} {ts : List Tree} (h : t ∈ ts) : t.size ≤ sizeAll ts := by
  induction h with
  | head ts => exact Nat.le_add_right _ _
  | tail u _ ih => exact Nat.le_trans ih (Nat.le_add_left _ _)

theorem sizeAll_filter_le (keep : Tree → Bool) (ts : List Tree) :
    sizeAll (ts.filter keep) ≤ sizeAll ts := by
  induction ts with
  | nil => exact Nat.le_refl _
  | cons t ts ih =>
      rw [List.filter_cons]
      split
      · exact Nat.add_le_add_left ih _
      · exact Nat.le_trans ih (Nat.le_add_left _ _)

end Tree

end TypedQueries
