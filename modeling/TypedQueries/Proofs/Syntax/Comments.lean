import Mathlib.Data.List.Forall2
import TypedQueries.Proofs.Syntax.Traversal

/-! # Comments put into a tree

A tree with comments put into it (`Tree.Commented`): among the children of its nodes there
are further nodes that are comments. The places of the tree are found again
(`Site.Commented`): what is around and below a place is what was there, with comments in
between (`Site.Commented.ancestors`, `Site.Commented.nodes`).
-/

namespace Option.Rel

variable {α β γ δ : Type} {related : α → β → Prop} {answers : γ → δ → Prop}
  {a a' : Option α} {b b' : Option β}

theorem any_eq {p : α → Bool} {q : β → Bool} (both : Option.Rel related a b)
    (alike : ∀ x y, related x y → q y = p x) : b.any q = a.any p := by
  cases both with
  | none => rfl
  | some both => exact alike _ _ both

theorem bind {f : α → Option γ} {g : β → Option δ} (both : Option.Rel related a b)
    (alike : ∀ x y, related x y → Option.Rel answers (f x) (g y)) :
    Option.Rel answers (a.bind f) (b.bind g) := by
  cases both with
  | none => exact .none
  | some both => exact alike _ _ both

theorem or (first : Option.Rel related a b) (second : Option.Rel related a' b') :
    Option.Rel related (a.or a') (b.or b') := by
  cases first with
  | none => exact second
  | some first => exact .some first

theorem imp {related' : α → β → Prop} (both : Option.Rel related a b)
    (weaker : ∀ x y, related x y → related' x y) : Option.Rel related' a b := by
  cases both with
  | none => exact .none
  | some both => exact .some (weaker _ _ both)

/-- What is related may be taken to be what was found. -/
theorem with_found (both : Option.Rel related a b) :
    Option.Rel (fun x y => x ∈ a ∧ related x y) a b := by
  cases both with
  | none => exact .none
  | some both => exact .some ⟨rfl, both⟩

end Option.Rel

namespace TypedQueries

/-- The second list is the first with further items in between: the others are those of the
first list in their order, each in relation to its own. -/
inductive Interspersed {α β : Type} (extra : β → Prop) (related : α → β → Prop) :
    List α → List β → Prop where
  | nil : Interspersed extra related [] []
  | keep {a : α} {b : β} {as : List α} {bs : List β} (head : related a b)
      (tail : Interspersed extra related as bs) : Interspersed extra related (a :: as) (b :: bs)
  | extra {b : β} {as : List α} {bs : List β} (head : extra b)
      (tail : Interspersed extra related as bs) : Interspersed extra related as (b :: bs)

namespace Interspersed

variable {α β γ δ : Type} {extra : β → Prop} {related : α → β → Prop} {as cs : List α}
  {bs ds : List β}

theorem append (first : Interspersed extra related as bs)
    (second : Interspersed extra related cs ds) :
    Interspersed extra related (as ++ cs) (bs ++ ds) := by
  induction first with
  | nil => exact second
  | keep head _ ih => exact .keep head ih
  | extra head _ ih => exact .extra head ih

theorem reverse (between : Interspersed extra related as bs) :
    Interspersed extra related as.reverse bs.reverse := by
  induction between with
  | nil => exact .nil
  | keep head _ ih =>
      rw [List.reverse_cons, List.reverse_cons]
      exact ih.append (.keep head .nil)
  | @extra b as bs head _ ih =>
      rw [List.reverse_cons, ← List.append_nil as.reverse]
      exact ih.append (.extra head .nil)

theorem imp {related' : α → β → Prop} (between : Interspersed extra related as bs)
    (weaker : ∀ a b, related a b → related' a b) : Interspersed extra related' as bs := by
  induction between with
  | nil => exact .nil
  | keep head _ ih => exact .keep (weaker _ _ head) ih
  | extra head _ ih => exact .extra head ih

/-- Lists related item by item are related with nothing in between. -/
theorem of_forall₂ (each : List.Forall₂ related as bs) : Interspersed extra related as bs := by
  induction each with
  | nil => exact .nil
  | cons head _ ih => exact .keep head ih

/-- What is related may be taken to be a member of its list. -/
theorem with_members (between : Interspersed extra related as bs) :
    Interspersed extra (fun a b => a ∈ as ∧ related a b) as bs := by
  suffices widened : ∀ all : List α, (∀ a ∈ as, a ∈ all) →
      Interspersed extra (fun a b => a ∈ all ∧ related a b) as bs from
    widened as fun _ => id
  intro all
  induction between with
  | nil => exact fun _ => .nil
  | keep head _ ih =>
      intro members
      exact .keep ⟨members _ List.mem_cons_self, head⟩
        (ih fun a member => members a (List.mem_cons_of_mem _ member))
  | extra head _ ih => exact fun members => .extra head (ih members)

theorem with_both_members (between : Interspersed extra related as bs) :
    Interspersed extra (fun a b => a ∈ as ∧ b ∈ bs ∧ related a b) as bs := by
  suffices widened : ∀ all : List β, (∀ b ∈ bs, b ∈ all) →
      Interspersed extra (fun a b => b ∈ all ∧ related a b) as bs from
    (widened bs fun _ => id).with_members
  intro all
  induction between with
  | nil => exact fun _ => .nil
  | keep head _ ih =>
      intro members
      exact .keep ⟨members _ List.mem_cons_self, head⟩
        (ih fun b member => members b (List.mem_cons_of_mem _ member))
  | extra head _ ih =>
      intro members
      exact .extra head (ih fun b member => members b (List.mem_cons_of_mem _ member))

/-- A test that tells related items alike keeps related items. -/
theorem filter {p : α → Bool} {q : β → Bool} (between : Interspersed extra related as bs)
    (alike : ∀ a b, related a b → q b = p a) :
    Interspersed extra related (as.filter p) (bs.filter q) := by
  induction between with
  | nil => exact .nil
  | @keep a b as bs head _ ih =>
      rw [List.filter_cons, List.filter_cons, alike a b head]
      split
      · exact .keep head ih
      · exact ih
  | @extra b as bs head _ ih =>
      rw [List.filter_cons]
      split
      · exact .extra head ih
      · exact ih

/-- A test that no further item passes leaves none of them. -/
theorem forall₂_filter {p : α → Bool} {q : β → Bool} (between : Interspersed extra related as bs)
    (alike : ∀ a b, related a b → q b = p a) (none : ∀ b, extra b → q b = false) :
    List.Forall₂ related (as.filter p) (bs.filter q) := by
  induction between with
  | nil => exact .nil
  | @keep a b as bs head _ ih =>
      rw [List.filter_cons, List.filter_cons, alike a b head]
      split
      · exact .cons head ih
      · exact ih
  | @extra b as bs head _ ih =>
      rw [List.filter_cons, none b head]
      exact ih

theorem any_eq {p : α → Bool} {q : β → Bool} (between : Interspersed extra related as bs)
    (alike : ∀ a b, related a b → q b = p a) (none : ∀ b, extra b → q b = false) :
    bs.any q = as.any p := by
  induction between with
  | nil => rfl
  | @keep a b as bs head _ ih => rw [List.any_cons, List.any_cons, alike a b head, ih]
  | @extra b as bs head _ ih => rw [List.any_cons, none b head, ih, Bool.false_or]

theorem findSome? {f : α → Option γ} {g : β → Option δ} {answers : γ → δ → Prop}
    (between : Interspersed extra related as bs)
    (alike : ∀ a b, related a b → Option.Rel answers (f a) (g b))
    (none : ∀ b, extra b → g b = none) :
    Option.Rel answers (as.findSome? f) (bs.findSome? g) := by
  induction between with
  | nil => exact .none
  | @keep a b as bs head _ ih =>
      have first := alike a b head
      rw [List.findSome?_cons, List.findSome?_cons]
      revert first
      cases f a with
      | none =>
          intro first
          cases found : g b with
          | none => exact ih
          | some y => rw [found] at first; cases first
      | some x =>
          intro first
          cases found : g b with
          | none => rw [found] at first; cases first
          | some y => rw [found] at first; exact first
  | @extra b as bs head _ ih =>
      rw [List.findSome?_cons, none b head]
      exact ih

theorem find? {p : α → Bool} {q : β → Bool} (between : Interspersed extra related as bs)
    (alike : ∀ a b, related a b → q b = p a) (none : ∀ b, extra b → q b = false) :
    Option.Rel related (as.find? p) (bs.find? q) := by
  have first := between.forall₂_filter alike none
  rw [← List.head?_filter, ← List.head?_filter]
  generalize as.filter p = left at first
  generalize bs.filter q = right at first
  cases first with
  | nil => exact .none
  | cons head _ => exact .some head

/-- The first items are related unless the second list begins with a further one. -/
theorem head? (between : Interspersed extra related as bs) :
    Option.Rel related as.head? bs.head? ∨ ∃ b, bs.head? = some b ∧ extra b := by
  cases between with
  | nil => exact Or.inl .none
  | keep head _ => exact Or.inl (.some head)
  | extra head _ => exact Or.inr ⟨_, rfl, head⟩

/-- The last items are related unless the second list ends with a further one. -/
theorem getLast? (between : Interspersed extra related as bs) :
    Option.Rel related as.getLast? bs.getLast? ∨ ∃ b, bs.getLast? = some b ∧ extra b := by
  rw [← List.head?_reverse, ← List.head?_reverse]
  exact between.reverse.head?

theorem flatMap {extra' : δ → Prop} {related' : γ → δ → Prop} {f : α → List γ} {g : β → List δ}
    (between : Interspersed extra related as bs)
    (alike : ∀ a b, related a b → Interspersed extra' related' (f a) (g b))
    (extras : ∀ b, extra b → Interspersed extra' related' [] (g b)) :
    Interspersed extra' related' (as.flatMap f) (bs.flatMap g) := by
  induction between with
  | nil => exact .nil
  | @keep a b as bs head _ ih =>
      rw [List.flatMap_cons, List.flatMap_cons]
      exact (alike a b head).append ih
  | @extra b as bs head _ ih =>
      rw [List.flatMap_cons, ← List.nil_append (as.flatMap f)]
      exact (extras b head).append ih

theorem nil_cons_iff {b : β} :
    Interspersed extra related [] (b :: bs) ↔ extra b ∧ Interspersed extra related [] bs := by
  constructor
  · intro between
    cases between with
    | extra head tail => exact ⟨head, tail⟩
  · exact fun parts => .extra parts.1 parts.2

theorem cons_cons_iff {a : α} {b : β} :
    Interspersed extra related (a :: as) (b :: bs) ↔
      related a b ∧ Interspersed extra related as bs ∨
        extra b ∧ Interspersed extra related (a :: as) bs := by
  constructor
  · intro between
    cases between with
    | keep head tail => exact Or.inl ⟨head, tail⟩
    | extra head tail => exact Or.inr ⟨head, tail⟩
  · intro parts
    rcases parts with ⟨head, tail⟩ | ⟨head, tail⟩
    · exact .keep head tail
    · exact .extra head tail

end Interspersed

/-! ## Trees -/

/-- The kinds of node whose text is a name or a literal. -/
def Kind.isWord : Kind → Bool
  | .identifier | .propertyIdentifier | .privatePropertyIdentifier | .typeIdentifier
  | .shorthandPropertyIdentifierPattern | .string => true
  | _ => false

/-- That two labels say the same but for the place and the text. -/
structure Label.Moves (label label' : Label) : Prop where
  kind : label'.kind = label.kind
  role : label'.role = label.role
  named : label'.named = label.named
  missing : label'.missing = label.missing
  flagged : label'.flagged = label.flagged

instance (label label' : Label) : Decidable (label.Moves label') :=
  decidable_of_iff
    (label'.kind = label.kind ∧ label'.role = label.role ∧ label'.named = label.named ∧
      label'.missing = label.missing ∧ label'.flagged = label.flagged)
    ⟨fun ⟨kind, role, named, missing, flagged⟩ => ⟨kind, role, named, missing, flagged⟩,
      fun ⟨kind, role, named, missing, flagged⟩ => ⟨kind, role, named, missing, flagged⟩⟩

namespace Tree

/-- Whether the node is a template that takes in the values of expressions. -/
def hasSubstitution (t : Tree) : Bool :=
  t.kind == .templateString && t.namedChildren.any (·.kind == .templateSubstitution)

/-- Whether the node is a word or a literal, which no comment is a part of. -/
def isSolid (t : Tree) : Bool :=
  t.kind.isWord || (t.kind == .templateString && !t.hasSubstitution)

/-- A comment, as it stands among the children of a node. -/
structure IsComment (t : Tree) : Prop where
  kind : t.kind = .comment
  role : t.label.role = none
  named : t.label.named = true
  leaf : t.children = []

instance (t : Tree) : Decidable t.IsComment :=
  decidable_of_iff
    (t.kind = .comment ∧ t.label.role = none ∧ t.label.named = true ∧ t.children = [])
    ⟨fun ⟨kind, role, named, leaf⟩ => ⟨kind, role, named, leaf⟩,
      fun ⟨kind, role, named, leaf⟩ => ⟨kind, role, named, leaf⟩⟩

/-- The second tree is the first with comments put among the children of its nodes. The
nodes are at other places then, and those that a comment has come into have another text;
words and literals keep theirs. -/
inductive Commented : Tree → Tree → Prop where
  | node {label label' : Label} {children children' : List Tree} (moves : label.Moves label')
      (solid : (node label children).isSolid = true → label'.text = label.text)
      (parts : Interspersed IsComment Commented children children') :
      Commented (node label children) (node label' children')

theorem commented_iff {label label' : Label} {children children' : List Tree} :
    (node label children).Commented (node label' children') ↔
      label.Moves label' ∧
        ((node label children).isSolid = true → label'.text = label.text) ∧
        Interspersed IsComment Commented children children' :=
  ⟨fun | .node moves solid parts => ⟨moves, solid, parts⟩,
    fun ⟨moves, solid, parts⟩ => .node moves solid parts⟩

mutual

/-- Decides whether one tree is another with comments put into it. -/
def decideCommented : ∀ t u : Tree, Decidable (t.Commented u)
  | node _ children, node _ children' =>
      have := decideInterspersed children children'
      decidable_of_iff _ commented_iff.symm

/-- Decides whether some trees are others with comments put into and between them. -/
def decideInterspersed : ∀ ts us : List Tree, Decidable (Interspersed IsComment Commented ts us)
  | [], [] => isTrue .nil
  | _ :: _, [] => isFalse nofun
  | [], _ :: us =>
      have := decideInterspersed [] us
      decidable_of_iff _ Interspersed.nil_cons_iff.symm
  | t :: ts, u :: us =>
      have := decideCommented t u
      have := decideInterspersed ts us
      have := decideInterspersed (t :: ts) us
      decidable_of_iff _ Interspersed.cons_cons_iff.symm

end

instance (t u : Tree) : Decidable (t.Commented u) := decideCommented t u

/-- What holds of a tree once it holds of its children holds of all trees. -/
theorem induction {motive : Tree → Prop}
    (step : ∀ t : Tree, (∀ child ∈ t.children, motive child) → motive t) (t : Tree) : motive t := by
  induction size : sizeOf t using Nat.strongRecOn generalizing t with
  | ind size ih =>
      subst size
      exact step t fun child member => ih _ (sizeOf_lt_of_mem_children member) child rfl

namespace Commented

variable {t u : Tree}

theorem kind_eq (commented : t.Commented u) : u.kind = t.kind := by
  cases commented with
  | node moves _ _ => exact moves.kind

theorem role_eq (commented : t.Commented u) : u.label.role = t.label.role := by
  cases commented with
  | node moves _ _ => exact moves.role

theorem named_eq (commented : t.Commented u) : u.label.named = t.label.named := by
  cases commented with
  | node moves _ _ => exact moves.named

theorem text_eq (commented : t.Commented u) (solid : t.isSolid = true) : u.text = t.text := by
  cases commented with
  | node _ same _ => exact same solid

theorem children (commented : t.Commented u) :
    Interspersed IsComment Commented t.children u.children := by
  cases commented with
  | node _ _ parts => exact parts

end Commented

end Tree

/-! ## Places -/

namespace Site

/-- The place of a node that was in the tree before comments were put into it. -/
inductive Commented : Site → Site → Prop where
  | root {t u : Tree} (node : t.Commented u) : Commented (ofTree t) (ofTree u)
  | inner {t u : Tree} {frame frame' : Frame} {frames frames' : List Frame}
      (around : Commented ⟨frame.fill t, frames⟩ ⟨frame'.fill u, frames'⟩)
      (before : Interspersed Tree.IsComment Tree.Commented frame.before frame'.before)
      (after : Interspersed Tree.IsComment Tree.Commented frame.after frame'.after)
      (node : t.Commented u) : Commented ⟨t, frame :: frames⟩ ⟨u, frame' :: frames'⟩

namespace Commented

variable {site site' : Site}

theorem node (commented : site.Commented site') : site.node.Commented site'.node := by
  cases commented with
  | root node => exact node
  | inner _ _ _ node => exact node

/-- What was around a place is around it. -/
theorem ancestors (commented : site.Commented site') :
    List.Forall₂ Commented site.ancestors site'.ancestors := by
  induction commented with
  | root _ => exact .nil
  | inner around _ _ _ ih => exact .cons around ih

theorem place {label label' : Label} {frames frames' : List Frame}
    {before before' ts us : List Tree}
    (around : Commented ⟨.node label (before.reverse ++ ts), frames⟩
      ⟨.node label' (before'.reverse ++ us), frames'⟩)
    (earlier : Interspersed Tree.IsComment Tree.Commented before before')
    (later : Interspersed Tree.IsComment Tree.Commented ts us) :
    Interspersed (fun child => child.node.IsComment) Commented
      (place label frames before ts) (place label' frames' before' us) := by
  induction later generalizing before before' with
  | nil => exact .nil
  | @keep t u ts us head tail ih =>
      refine .keep (.inner around earlier tail head) (ih ?_ (.keep head earlier))
      simpa using around
  | @extra u ts us head tail ih =>
      refine .extra head (ih ?_ (.extra head earlier))
      simpa using around

/-- The children of a place are those it had and comments. -/
theorem children (commented : site.Commented site') :
    Interspersed (fun child => child.node.IsComment) Commented site.children site'.children := by
  have parts := commented.node.children
  obtain ⟨⟨label, children⟩, frames⟩ := site
  obtain ⟨⟨label', children'⟩, frames'⟩ := site'
  exact place commented .nil parts

theorem child? (commented : site.Commented site') (role : Role) :
    Option.Rel Commented (site.child? role) (site'.child? role) := by
  refine commented.children.find? (fun a b related => ?_) fun b comment => ?_
  · rw [related.node.role_eq]
  · rw [comment.role]
    rfl

end Commented

/-- There is nothing below a comment. -/
theorem children_of_isComment {site : Site} (comment : site.node.IsComment) :
    site.children = [] := by
  rw [← List.map_eq_nil_iff, map_node_children, comment.leaf]

/-- The nodes at and below a place are those that were there and comments, in the old order. -/
theorem Commented.nodes {site site' : Site} (commented : site.Commented site') :
    Interspersed (fun other => other.node.IsComment) Commented site.nodes site'.nodes := by
  induction site using induction_up generalizing site' with
  | step site ih =>
      rw [nodes_eq, nodes_eq]
      refine .keep commented ?_
      refine commented.children.with_members.flatMap (fun child child' related => ?_)
        fun child' comment => ?_
      · exact ih child related.1 related.2
      · rw [nodes_eq, children_of_isComment comment]
        exact .extra comment .nil

end Site

/-- The nodes of a tree with comments are those of the tree and comments, in the old order. -/
theorem Tree.Commented.all {t u : Tree} (commented : t.Commented u) :
    Interspersed (fun site => site.node.IsComment) Site.Commented (Site.all t) (Site.all u) :=
  (Site.Commented.root commented).nodes

end TypedQueries
