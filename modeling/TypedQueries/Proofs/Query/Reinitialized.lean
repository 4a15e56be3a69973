import TypedQueries.Proofs.Query.Reading
import TypedQueries.Syntax.Parse

/-! # Other initial values

The text of a query call is found in one step: no variable counts but the one that the first
argument names. In a tree where the variables of other names have other initial values
(`Tree.Reinitialized`) a query call comes to what it came to, and a variable that is initialized
with a name is not followed any further, whatever that name is bound to
(`Site.outcome_of_reinitialized`). One kind of expression is read with all that stands in it: a
template with substitutions is its own source, with the initial values in it.
-/

/-- Lists related one by one are so in another way too, or some items are not. -/
theorem List.Forall₂.imp_or_exists {α β : Type} {related : α → β → Prop} {as : List α} {bs : List β}
    (each : List.Forall₂ related as bs) (further : α → β → Prop) :
    List.Forall₂ further as bs ∨ ∃ a ∈ as, ∃ b ∈ bs, related a b ∧ ¬further a b := by
  induction each with
  | nil => exact Or.inl .nil
  | @cons a b as bs head _ ih =>
      by_cases both : further a b
      · rcases ih with all | ⟨c, member, d, member', same, differs⟩
        · exact Or.inl (.cons both all)
        · exact Or.inr ⟨c, List.mem_cons_of_mem _ member, d, List.mem_cons_of_mem _ member', same,
            differs⟩
      · exact Or.inr ⟨a, List.mem_cons_self, b, List.mem_cons_self, head, both⟩

namespace TypedQueries

/-- That two labels agree in what a part of a tree is found by. -/
structure Label.Alike (label label' : Label) : Prop where
  kind : label'.kind = label.kind
  role : label'.role = label.role
  named : label'.named = label.named

instance (label label' : Label) : Decidable (label.Alike label') :=
  decidable_of_iff
    (label'.kind = label.kind ∧ label'.role = label.role ∧ label'.named = label.named)
    ⟨fun ⟨kind, role, named⟩ => ⟨kind, role, named⟩,
      fun ⟨kind, role, named⟩ => ⟨kind, role, named⟩⟩

namespace Tree

/-- The second tree is the first with its nodes at other places in the file. -/
inductive Moved : Tree → Tree → Prop where
  | node {label label' : Label} {children children' : List Tree} (alike : label.Alike label')
      (text : label'.text = label.text) (parts : List.Forall₂ Moved children children') :
      Moved (node label children) (node label' children')

/-- Whether a variable in a declaration declares a name. -/
def declares (name : String) (declarator : Tree) : Bool :=
  (declarator.child? .name).any (patternBinds name)

/-- That trees are related one by one but for initial values, which may be any. -/
inductive RelatedButInitial (related : Tree → Tree → Prop) : List Tree → List Tree → Prop where
  | nil : RelatedButInitial related [] []
  | related {t u : Tree} {ts us : List Tree} (head : related t u)
      (tail : RelatedButInitial related ts us) : RelatedButInitial related (t :: ts) (u :: us)
  | initial {t u : Tree} {ts us : List Tree} (first : t.IsInitializer) (second : u.IsInitializer)
      (tail : RelatedButInitial related ts us) : RelatedButInitial related (t :: ts) (u :: us)

/-- The second tree is the first with other expressions as the initial values of variables that do
not declare the name to be kept. The nodes are at other places then, and those around an initial
value have another text; words, literals and imports have none of them inside. -/
inductive Reinitialized (kept : Option String) : Tree → Tree → Prop where
  | moved {t u : Tree} (moved : t.Moved u) : Reinitialized kept t u
  | around {label label' : Label} {children children' : List Tree} (alike : label.Alike label')
      (noImport : label.kind ≠ .importStatement) (bare : (node label children).isSolid = false)
      (parts : List.Forall₂ (Reinitialized kept) children children') :
      Reinitialized kept (node label children) (node label' children')
  | declarator {label label' : Label} {children children' : List Tree}
      (alike : label.Alike label') (kind : label.kind = .variableDeclarator)
      (other : ∀ name ∈ kept, (node label children).declares name = false)
      (parts : RelatedButInitial (Reinitialized kept) children children') :
      Reinitialized kept (node label children) (node label' children')

theorem relatedButInitial_cons_iff {related : Tree → Tree → Prop} {t u : Tree} {ts us : List Tree} :
    RelatedButInitial related (t :: ts) (u :: us) ↔
      (related t u ∨ t.IsInitializer ∧ u.IsInitializer) ∧ RelatedButInitial related ts us := by
  constructor
  · intro parts
    cases parts with
    | related head tail => exact ⟨Or.inl head, tail⟩
    | initial first second tail => exact ⟨Or.inr ⟨first, second⟩, tail⟩
  · intro parts
    obtain ⟨head | ⟨first, second⟩, tail⟩ := parts
    · exact .related head tail
    · exact .initial first second tail

theorem RelatedButInitial.forall₂ {related : Tree → Tree → Prop} {ts us : List Tree}
    (parts : RelatedButInitial related ts us) :
    List.Forall₂ (fun t u => related t u ∨ t.IsInitializer ∧ u.IsInitializer) ts us := by
  induction parts with
  | nil => exact .nil
  | related head _ ih => exact .cons (Or.inl head) ih
  | initial first second _ ih => exact .cons (Or.inr ⟨first, second⟩) ih

theorem moved_iff {label label' : Label} {children children' : List Tree} :
    (node label children).Moved (node label' children') ↔
      label.Alike label' ∧ label'.text = label.text ∧ List.Forall₂ Moved children children' :=
  ⟨fun | .node alike text parts => ⟨alike, text, parts⟩,
    fun ⟨alike, text, parts⟩ => .node alike text parts⟩

theorem reinitialized_iff {kept : Option String} {label label' : Label}
    {children children' : List Tree} :
    (node label children).Reinitialized kept (node label' children') ↔
      (node label children).Moved (node label' children') ∨
        (label.Alike label' ∧ label.kind ≠ .importStatement ∧
          (node label children).isSolid = false ∧
          List.Forall₂ (Reinitialized kept) children children') ∨
        (label.Alike label' ∧ label.kind = .variableDeclarator ∧
          (∀ name ∈ kept, (node label children).declares name = false) ∧
          RelatedButInitial (Reinitialized kept) children children') := by
  constructor
  · intro replaced
    cases replaced with
    | moved moved => exact Or.inl moved
    | around alike noImport bare parts => exact Or.inr (Or.inl ⟨alike, noImport, bare, parts⟩)
    | declarator alike kind other parts => exact Or.inr (Or.inr ⟨alike, kind, other, parts⟩)
  · intro forms
    rcases forms with moved | ⟨alike, noImport, bare, parts⟩ | ⟨alike, kind, other, parts⟩
    · exact .moved moved
    · exact .around alike noImport bare parts
    · exact .declarator alike kind other parts

mutual

/-- Decides whether a tree is another with its nodes at other places. -/
def decideMoved : ∀ t u : Tree, Decidable (t.Moved u)
  | node _ children, node _ children' =>
      have := decideAllMoved children children'
      decidable_of_iff _ moved_iff.symm

/-- Decides whether some trees are others with their nodes at other places. -/
def decideAllMoved : ∀ ts us : List Tree, Decidable (List.Forall₂ Moved ts us)
  | [], [] => isTrue .nil
  | _ :: _, [] => isFalse nofun
  | [], _ :: _ => isFalse nofun
  | t :: ts, u :: us =>
      have := decideMoved t u
      have := decideAllMoved ts us
      decidable_of_iff _ List.forall₂_cons.symm

end

instance (t u : Tree) : Decidable (t.Moved u) := decideMoved t u

mutual

/-- Decides whether a tree is another with other initial values. -/
def decideReinitialized (kept : Option String) : ∀ t u : Tree, Decidable (t.Reinitialized kept u)
  | node _ children, node _ children' =>
      have := decideAllReinitialized kept children children'
      have := decidePartsReinitialized kept children children'
      decidable_of_iff _ reinitialized_iff.symm

/-- Decides whether some trees are others with other initial values. -/
def decideAllReinitialized (kept : Option String) :
    ∀ ts us : List Tree, Decidable (List.Forall₂ (Reinitialized kept) ts us)
  | [], [] => isTrue .nil
  | _ :: _, [] => isFalse nofun
  | [], _ :: _ => isFalse nofun
  | t :: ts, u :: us =>
      have := decideReinitialized kept t u
      have := decideAllReinitialized kept ts us
      decidable_of_iff _ List.forall₂_cons.symm

/-- Decides whether some trees are others, or both initial values, with other initial values. -/
def decidePartsReinitialized (kept : Option String) : ∀ ts us : List Tree,
    Decidable (RelatedButInitial (Reinitialized kept) ts us)
  | [], [] => isTrue .nil
  | _ :: _, [] => isFalse nofun
  | [], _ :: _ => isFalse nofun
  | t :: ts, u :: us =>
      have := decideReinitialized kept t u
      have := decidePartsReinitialized kept ts us
      decidable_of_iff _ relatedButInitial_cons_iff.symm

end

instance (kept : Option String) (t u : Tree) : Decidable (t.Reinitialized kept u) :=
  decideReinitialized kept t u

variable {t u : Tree} {kept : Option String} {name : String}

theorem Moved.children (moved : t.Moved u) : List.Forall₂ Moved t.children u.children := by
  cases moved with
  | node _ _ parts => exact parts

theorem Moved.alike (moved : t.Moved u) : t.label.Alike u.label := by
  cases moved with
  | node alike _ _ => exact alike

theorem Moved.correspondence : Correspondence (fun _ => False) Moved where
  comment := False.elim
  kind_eq moved := moved.alike.kind
  named_eq moved := moved.alike.named
  text_eq moved _ := by
    cases moved with
    | node _ text _ => exact text
  children moved _ := .of_forall₂ (moved.children.imp fun _ _ part => ⟨part, part.alike.role⟩)

namespace Reinitialized

theorem alike (replaced : t.Reinitialized kept u) : t.label.Alike u.label := by
  cases replaced with
  | moved moved => exact moved.alike
  | around alike _ _ _ => exact alike
  | declarator alike _ _ _ => exact alike

/-- The children of a node, unless it is a variable whose initial value is free. -/
theorem children_or_other (replaced : t.Reinitialized kept u) :
    List.Forall₂ (Reinitialized kept) t.children u.children ∨
      t.kind = .variableDeclarator ∧ (∀ name ∈ kept, t.declares name = false) ∧
        RelatedButInitial (Reinitialized kept) t.children u.children := by
  cases replaced with
  | moved moved => exact Or.inl (moved.children.imp fun _ _ => .moved)
  | around _ _ _ parts => exact Or.inl parts
  | declarator _ kind other parts => exact Or.inr ⟨kind, other, parts⟩

theorem correspondence : Correspondence (fun _ => False) (Reinitialized kept) where
  comment := False.elim
  kind_eq replaced := replaced.alike.kind
  named_eq replaced := replaced.alike.named
  text_eq replaced solid := by
    cases replaced with
    | moved moved => exact Moved.correspondence.text_eq moved solid
    | around _ _ bare _ => exact absurd solid (Bool.eq_false_iff.mp bare)
    | declarator _ kind _ _ =>
        rw [isSolid, kind_node, kind] at solid
        cases solid
  children replaced kind := by
    rcases replaced.children_or_other with parts | ⟨isVariable, -⟩
    · exact .of_forall₂ (parts.imp fun _ _ part => ⟨part, part.alike.role⟩)
    · rw [isVariable] at kind
      cases kind

/-- An import is as it was. -/
theorem moved_of_importStatement (replaced : t.Reinitialized kept u)
    (kind : t.kind = .importStatement) : t.Moved u := by
  cases replaced with
  | moved moved => exact moved
  | around _ noImport _ _ => exact absurd kind noImport
  | declarator _ isVariable _ _ => exact absurd (isVariable.symm.trans kind) (by decide)

/-- A variable declares what it declared, whatever its initial value. -/
theorem declares_eq
    (parts : RelatedButInitial (Reinitialized kept) t.children u.children) :
    u.declares name = t.declares name := by
  have targets : Option.Rel
      (fun t u => t.Reinitialized kept u ∨ t.IsInitializer ∧ u.IsInitializer)
      (t.child? .name) (u.child? .name) := by
    refine (Interspersed.of_forall₂ parts.forall₂).find? (fun a b both => ?_) fun _ => False.elim
    rcases both with both | ⟨first, second⟩
    · rw [both.alike.role]
    · rw [first.role, second.role]
  refine targets.with_found.any_eq fun a b both => ?_
  obtain ⟨found, both | ⟨initial, -⟩⟩ := both
  · exact correspondence.patternBinds_eq both
  · have role := List.find?_some found
    rw [initial.role] at role
    cases role

end Reinitialized

end Tree

/-! ## Places -/

namespace Site

/-- The same place in a tree and in one with other initial values, within none of those. -/
structure Reinitialized (kept : Option String) (site site' : Site) : Prop where
  path : site'.path = site.path
  nodes : List.Forall₂ (fun outer outer' => outer.node.Reinitialized kept outer'.node)
    (site :: site.ancestors) (site' :: site'.ancestors)

instance (kept : Option String) (site site' : Site) : Decidable (site.Reinitialized kept site') :=
  decidable_of_iff
    (site'.path = site.path ∧
      List.Forall₂ (fun outer outer' => outer.node.Reinitialized kept outer'.node)
        (site :: site.ancestors) (site' :: site'.ancestors))
    ⟨fun ⟨path, nodes⟩ => ⟨path, nodes⟩, fun ⟨path, nodes⟩ => ⟨path, nodes⟩⟩

variable {kept : Option String} {name : String} {site site' : Site}

/-- A variable that does not declare a name binds it to nothing. -/
theorem declaratorBinding?_of_declares_eq_false (other : site.node.declares name = false) :
    declaratorBinding? name site = none := by
  rw [Tree.declares, ← map_node_child?, Option.any_map] at other
  rw [declaratorBinding?]
  split
  · cases found : site.child? .name with
    | none => rfl
    | some target =>
        have unbound : target.node.patternBinds name = false := by
          rw [found] at other
          exact other
        dsimp only
        split
        · next plain =>
            have differs : (target.text == name) = false := by
              obtain ⟨⟨label, children⟩, frames⟩ := target
              have kind : label.kind = .identifier := beq_iff_eq.mp plain
              rw [Tree.patternBinds, kind] at unbound
              exact unbound
            rw [if_neg (Bool.eq_false_iff.mp differs)]
        · rw [unbound]
          rfl
  · rfl

namespace Reinitialized

theorem node (replaced : site.Reinitialized kept site') :
    site.node.Reinitialized kept site'.node :=
  (List.forall₂_cons.mp replaced.nodes).1

theorem parent {outer outer' : Site} (replaced : site.Reinitialized kept site')
    (found : site.parent? = some outer) (found' : site'.parent? = some outer') :
    outer.Reinitialized kept outer' := by
  have nodes := (List.forall₂_cons.mp replaced.nodes).2
  rw [ancestors_of_parent? found, ancestors_of_parent? found'] at nodes
  obtain ⟨index, place⟩ := List.getElem?_of_mem (mem_children_iff.mpr found)
  obtain ⟨index', place'⟩ := List.getElem?_of_mem (mem_children_iff.mpr found')
  have path := replaced.path
  rw [path_of_getElem?_children place, path_of_getElem?_children place'] at path
  exact ⟨(List.append_inj' path rfl).1, nodes⟩

theorem ancestors (replaced : site.Reinitialized kept site') :
    List.Forall₂ (Reinitialized kept) site.ancestors site'.ancestors := by
  induction site using induction_down generalizing site' with
  | root t =>
      have nodes := (List.forall₂_cons.mp replaced.nodes).2
      rw [ancestors_ofTree, List.forall₂_nil_left_iff] at nodes
      rw [ancestors_ofTree, nodes]
      exact .nil
  | step parent child found ih =>
      have nodes := (List.forall₂_cons.mp replaced.nodes).2
      cases found' : site'.parent? with
      | none =>
          obtain ⟨t, frames⟩ := site'
          cases frames with
          | nil =>
              rw [ancestors_of_parent? found] at nodes
              cases nodes
          | cons frame frames => cases found'
      | some parent' =>
          have outer := replaced.parent found found'
          rw [ancestors_of_parent? found, ancestors_of_parent? found']
          exact .cons outer (ih outer)

/-- Children whose nodes are related one by one stand at the same places. -/
theorem children_of_nodes {related : Tree → Tree → Prop} (replaced : site.Reinitialized kept site')
    (parts : List.Forall₂ related site.node.children site'.node.children) :
    List.Forall₂
      (fun child child' => related child.node child'.node ∧
        (child.node.Reinitialized kept child'.node → child.Reinitialized kept child'))
      site.children site'.children := by
  rw [← map_node_children, ← map_node_children, List.forall₂_map_left_iff,
    List.forall₂_map_right_iff, List.forall₂_iff_get] at parts
  obtain ⟨lengths, each⟩ := parts
  refine List.forall₂_iff_get.mpr ⟨lengths, fun index inside inside' => ?_⟩
  refine ⟨each index inside inside', fun node => ?_⟩
  have place := List.getElem?_eq_getElem inside
  have place' := List.getElem?_eq_getElem inside'
  have found := mem_children_iff.mp (List.getElem_mem inside)
  have found' := mem_children_iff.mp (List.getElem_mem inside')
  refine ⟨?_, ?_⟩
  · rw [List.get_eq_getElem, List.get_eq_getElem, path_of_getElem?_children place,
      path_of_getElem?_children place', replaced.path]
  · rw [List.get_eq_getElem, List.get_eq_getElem, ancestors_of_parent? found,
      ancestors_of_parent? found']
    exact .cons node replaced.nodes

theorem correspondence :
    Correspondence (fun _ => False) (Tree.Reinitialized kept) (Reinitialized kept) where
  parts := Tree.Reinitialized.correspondence
  node := node
  ancestors replaced := .of_forall₂ replaced.ancestors
  children {site _} replaced := by
    refine .of_forall₂ ?_
    rcases replaced.node.children_or_other with parts | ⟨kind, -, parts⟩
    · exact (replaced.children_of_nodes parts).imp fun _ _ both =>
        Or.inl ⟨both.2 both.1, both.1.alike.role⟩
    · have takes : site.kind.takesValues = true := by
        rw [show site.kind = .variableDeclarator from kind]
        rfl
      exact (replaced.children_of_nodes parts.forall₂).imp fun _ _ both =>
        both.1.imp (fun same => ⟨both.2 same, same.alike.role⟩) fun initial =>
          ⟨takes, initial.1.isExpression, initial.2.isExpression⟩

/-- The kept name is declared as it was. -/
theorem declaredAlike :
    DeclaredAlike name (Reinitialized (some name)) (Reinitialized (some name)) where
  imported replaced kind := by
    have moved := replaced.node.moved_of_importStatement kind
    exact Tree.Moved.correspondence.importBinds_eq (fun moved => .of_forall₂ moved.children) moved
  declarator {site site'} replaced _ := by
    rcases replaced.node.children_or_other with parts | ⟨-, other, parts⟩
    · have children := (replaced.children_of_nodes parts).imp fun _ _ both => both.2 both.1
      have inRole (role : Role) : Option.Rel (Reinitialized (some name)) (site.child? role)
          (site'.child? role) := by
        refine (Interspersed.of_forall₂ children).find? (fun a b both => ?_) fun _ => False.elim
        rw [both.node.alike.role]
      exact correspondence.declaratorBinding? replaced (inRole .name) (inRole .value)
    · have unbound := other name rfl
      rw [declaratorBinding?_of_declares_eq_false unbound, declaratorBinding?_of_declares_eq_false
        ((Tree.Reinitialized.declares_eq parts).trans unbound)]
      exact .none

theorem peel (replaced : site.Reinitialized kept site') :
    site.peel.Reinitialized kept site'.peel :=
  (correspondence.alikeWithin replaced).resolve_right id

theorem hasSubstitution_peel (replaced : site.Reinitialized kept site') :
    site'.peel.node.hasSubstitution = site.peel.node.hasSubstitution :=
  Tree.Reinitialized.correspondence.hasSubstitution_eq replaced.peel.node

/-- An expression is read as it was unless it is a template whose source has changed. -/
theorem readsAlike_iff (replaced : site.Reinitialized kept site') :
    ReadsAlike site site' ↔
      (site.peel.node.hasSubstitution = true → site'.peel.text = site.peel.text) := by
  refine ⟨ReadsAlike.template, fun template => ⟨fun kind => ?_, template⟩⟩
  exact (correspondence.kind_eq replaced.peel).symm.trans kind

end Reinitialized

/-! ## Query calls -/

/-- The name that the first argument of a call is, if it is one. -/
def argumentName? (call : Site) : Option String :=
  match call.callArguments? with
  | some (argument :: _) =>
      if argument.peel.kind = .identifier then some argument.peel.text else none
  | _ => none

theorem argumentName?_of_callArguments? {call argument : Site} {rest : List Site}
    (found : call.callArguments? = some (argument :: rest))
    (named : argument.peel.kind = .identifier) :
    call.argumentName? = some argument.peel.text := by
  rw [argumentName?, found]
  exact if_pos named

theorem resolveText_of_initialValue? {value : Site} (found : site.initialValue? = some value) :
    site.resolveText = value.reading.asValueOf site.peel.text := by
  rw [Site.initialValue?] at found
  by_cases named : site.peel.kind = .identifier
  · rw [if_pos named] at found
    rw [resolveText_of_identifier named]
    cases bound : site.peel.lookup site.peel.text with
    | none =>
        rw [bound] at found
        cases found
    | some binding =>
        rw [bound] at found
        cases binding with
        | other => cases found
        | initialized initial =>
            obtain rfl := Option.some.inj found
            rfl
  · rw [if_neg named] at found
    cases found

/-- What is consulted for a call is its first argument and the initial value of the variable
named there. -/
theorem consulted_eq_cons_iff {call argument : Site} {values : List Site} :
    call.consulted = argument :: values ↔
      call.callArguments?.bind List.head? = some argument ∧
        argument.initialValue?.toList = values := by
  rw [consulted]
  cases call.callArguments? with
  | none =>
      exact iff_of_false (List.cons_ne_nil argument values).symm fun found => by cases found.1
  | some arguments =>
      cases arguments with
      | nil =>
          exact iff_of_false (List.cons_ne_nil argument values).symm fun found => by cases found.1
      | cons first rest =>
          rw [List.cons.injEq, Option.bind_some, List.head?_cons, Option.some.injEq]
          constructor
          · rintro ⟨rfl, values⟩
            exact ⟨rfl, values⟩
          · rintro ⟨rfl, values⟩
            exact ⟨rfl, values⟩

theorem outcome_of_consulted {call argument : Site} {values : List Site}
    (found : call.consulted = argument :: values) : call.outcome = argument.resolveText := by
  obtain ⟨first, -⟩ := consulted_eq_cons_iff.mp found
  obtain ⟨arguments, among, head⟩ := Option.bind_eq_some_iff.mp first
  obtain ⟨rest, rfl⟩ := List.head?_eq_some_iff.mp head
  rw [outcome_eq, among]

/-- A template with substitutions that is consulted for a call is what the call comes to. -/
theorem outcome_of_hasSubstitution {call template : Site} (member : template ∈ call.consulted)
    (substitutes : template.peel.node.hasSubstitution = true) :
    call.outcome = .ok template.peel.text := by
  have kind : template.peel.kind = .templateString :=
    beq_iff_eq.mp (Bool.and_eq_true_iff.mp substitutes).1
  have read := reading_of_hasSubstitution substitutes
  obtain ⟨argument, values, found⟩ := List.exists_cons_of_ne_nil (List.ne_nil_of_mem member)
  rw [outcome_of_consulted found]
  rw [found, ← (consulted_eq_cons_iff.mp found).2] at member
  rcases List.mem_cons.mp member with rfl | value
  · rw [resolveText_of_other (by rw [kind]; decide), read]
    rfl
  · rw [resolveText_of_initialValue? (Option.mem_toList.mp value), read]
    rfl

/-- A variable that is initialized with a name is followed no further. -/
theorem outcome_of_chained {call argument value : Site} (found : call.consulted = [argument, value])
    (chained : value.peel.kind = .identifier) :
    call.outcome = .error (.chainedIdentifier argument.peel.text value.peel.text) := by
  have known : argument.initialValue? = some value :=
    Option.toList_eq_singleton_iff.mp (consulted_eq_cons_iff.mp found).2
  rw [outcome_of_consulted found, resolveText_of_initialValue? known, reading_of_identifier chained]
  rfl

namespace Reinitialized

variable {call call' : Site}

/-- The arguments of a call are at the same places. -/
theorem arguments (replaced : call.Reinitialized kept call')
    (kind : call.kind.takesValues = false) :
    Option.Rel (ArgumentsAlike (fun _ => False) (Reinitialized kept)) (call.child? .arguments)
      (call'.child? .arguments) := by
  refine (correspondence.child? replaced kind .arguments).imp fun list list' lists =>
    correspondence.argumentsAlike lists fun arguments => ?_
  rcases lists.node.children_or_other with parts | ⟨isVariable, -⟩
  · refine (Interspersed.of_forall₂ (lists.children_of_nodes parts)).filter (fun _ _ both => ?_)
      |>.imp fun _ _ both => both.2 both.1
    exact both.1.alike.named
  · exact absurd (arguments.symm.trans isVariable) (by decide)

/-- The variable that the first argument names is declared as it was. -/
theorem declaredAlike_of_firstArgument {argument : Site}
    (first : argument ∈ call.callArguments?.bind List.head?)
    (named : argument.peel.kind = .identifier) :
    DeclaredAlike argument.peel.text (Reinitialized call.argumentName?)
      (Reinitialized call.argumentName?) := by
  obtain ⟨arguments, among, head⟩ := Option.bind_eq_some_iff.mp first
  obtain ⟨rest, rfl⟩ := List.head?_eq_some_iff.mp head
  rw [argumentName?_of_callArguments? among named]
  exact declaredAlike

/-- What is consulted for a call is at the same places. -/
theorem consulted (replaced : call.Reinitialized call.argumentName? call')
    (kind : call.kind.takesValues = false) (spelled : call.top.Spelled) :
    List.Forall₂ (Reinitialized call.argumentName?) call.consulted call'.consulted :=
  correspondence.forall₂_consulted
    (forall₂_callArguments? (fun _ => False.elim) (replaced.arguments kind))
    (fun _ _ => peel) (fun _ first named => declaredAlike_of_firstArgument first named) spelled

/-- A call comes to what it came to unless it is to a template with substitutions. -/
theorem outcome_eq_or (replaced : call.Reinitialized call.argumentName? call')
    (kind : call.kind.takesValues = false) (spelled : call.top.Spelled) :
    call'.outcome = call.outcome ∨
      ∃ template ∈ call.consulted, ∃ template' ∈ call'.consulted,
        template.Reinitialized call.argumentName? template' ∧
          template.peel.node.hasSubstitution = true ∧
          call.outcome = .ok template.peel.text ∧ call'.outcome = .ok template'.peel.text := by
  rcases (replaced.consulted kind spelled).imp_or_exists ReadsAlike with alike | other
  · left
    have lists := (replaced.arguments kind).imp fun _ _ lists =>
      lists.imp fun _ _ => correspondence.alikeWithin
    refine (correspondence.outcome_eq_iff lists (fun argument first named => ?_) spelled).mpr alike
    exact (declaredAlike_of_firstArgument first named).imp fun _ _ => correspondence.alikeWithin
  · right
    obtain ⟨template, member, template', member', same, differs⟩ := other
    rw [same.readsAlike_iff, Classical.not_imp] at differs
    have substitutes := differs.1
    exact ⟨template, member, template', member', same, substitutes,
      outcome_of_hasSubstitution member substitutes,
      outcome_of_hasSubstitution member' (same.hasSubstitution_peel.trans substitutes)⟩

end Reinitialized

/-- **One step, and nothing else counts.** Let the variables that do not declare the name of a
query call's first argument have other initial values, in a tree whose names are words. The call
is a query call still and comes to the same text, or to the same reason why its text is unknown,
unless what it comes to is the source of a template with substitutions, which may have initial
values inside. A variable that is initialized with a name makes a chained identifier, whatever that
name is bound to. -/
theorem outcome_of_reinitialized (method : String) {call call' : Site}
    (called : call.node.isQueryCall method = true)
    (replaced : call.Reinitialized call.argumentName? call') (spelled : call.top.Spelled) :
    call'.node.isQueryCall method = true ∧
      (call'.outcome = call.outcome ∨
        ∃ template ∈ call.consulted, ∃ template' ∈ call'.consulted,
          template.Reinitialized call.argumentName? template' ∧
            template.peel.node.hasSubstitution = true ∧
            call.outcome = .ok template.peel.text ∧ call'.outcome = .ok template'.peel.text) ∧
      ∀ argument value, call.consulted = [argument, value] → value.peel.kind = .identifier →
        call.outcome = .error (.chainedIdentifier argument.peel.text value.peel.text) := by
  have kind : call.kind = .callExpression := by
    rw [Tree.isQueryCall, Bool.and_eq_true] at called
    exact beq_iff_eq.mp called.1
  refine ⟨?_, ?_, ?_⟩
  · exact (Tree.Reinitialized.correspondence.isQueryCall_eq replaced.node
      (Tree.Spelled.node spelled)).trans called
  · exact replaced.outcome_eq_or (by rw [kind]; decide) spelled
  · intro argument value found chained
    exact outcome_of_chained found chained

/-- A function as the initial value of another variable, with a variable of the argument's name. -/
theorem outcome_of_reinitialized_function :
    ∃ call call' : Site,
      queryCalls "query" (parse .plain "const q = 's'; const d = 1; db.query(q);").tree = [call] ∧
      queryCalls "query"
        (parse .plain "const q = 's'; const d = () => \x7b var q = 2; \x7d; db.query(q);").tree =
        [call'] ∧
      call.node.isQueryCall "query" = true ∧ call.Reinitialized call.argumentName? call' ∧
      call.top.Spelled ∧ call.outcome = .ok "s" ∧ call'.outcome = .ok "s" := by
  have texts : (queryCalls "query"
      (parse .plain "const q = 's'; const d = 1; db.query(q);").tree).map (·.outcome) =
        [.ok "s"] := by
    decide +kernel
  have related : List.Forall₂
      (fun call call' => call.node.isQueryCall "query" = true ∧
        call.Reinitialized call.argumentName? call' ∧ call.top.Spelled ∧
        ∀ expression ∈ call.consulted, expression.peel.node.hasSubstitution = false)
      (queryCalls "query" (parse .plain "const q = 's'; const d = 1; db.query(q);").tree)
      (queryCalls "query" (parse .plain
        "const q = 's'; const d = () => \x7b var q = 2; \x7d; db.query(q);").tree) := by
    decide +kernel
  obtain ⟨call, call', only, only', text, first⟩ := related.exists_of_map_eq_singleton texts
  obtain ⟨called, replaced, spelled, plain⟩ := first
  obtain ⟨-, same | ⟨template, member, -, -, -, substitutes, -⟩, -⟩ :=
    outcome_of_reinitialized "query" called replaced spelled
  · exact ⟨call, call', only, only', called, replaced, spelled, text, same.trans text⟩
  · rw [plain template member] at substitutes
    cases substitutes

/-- The source of a template with a variable in it that has the given initial value. -/
def templateAround (value : String) : String :=
  "\x60$\x7b() => \x7b const d = " ++ value ++ "; \x7d\x7d\x60"

/-- Another initial value within a template makes another text. -/
theorem outcome_changed_in_template :
    ∃ call call' : Site,
      queryCalls "query" (parse .plain ("db.query(" ++ templateAround "1" ++ ");")).tree = [call] ∧
      queryCalls "query" (parse .plain ("db.query(" ++ templateAround "2" ++ ");")).tree =
        [call'] ∧
      call.node.isQueryCall "query" = true ∧ call.Reinitialized call.argumentName? call' ∧
      call.top.Spelled ∧ call.outcome = .ok (templateAround "1") ∧
      call'.outcome = .ok (templateAround "2") ∧ templateAround "2" ≠ templateAround "1" := by
  have texts : (queryCalls "query"
      (parse .plain ("db.query(" ++ templateAround "1" ++ ");")).tree).map (·.outcome) =
        [.ok (templateAround "1")] := by
    decide +kernel
  have texts' : (queryCalls "query"
      (parse .plain ("db.query(" ++ templateAround "2" ++ ");")).tree).map (·.outcome) =
        [.ok (templateAround "2")] := by
    decide +kernel
  have related : List.Forall₂
      (fun call call' => call.node.isQueryCall "query" = true ∧
        call.Reinitialized call.argumentName? call' ∧ call.top.Spelled)
      (queryCalls "query" (parse .plain ("db.query(" ++ templateAround "1" ++ ");")).tree)
      (queryCalls "query" (parse .plain ("db.query(" ++ templateAround "2" ++ ");")).tree) := by
    decide +kernel
  obtain ⟨call, only, text⟩ := List.map_eq_singleton_iff.mp texts
  obtain ⟨call', only', text'⟩ := List.map_eq_singleton_iff.mp texts'
  rw [only, only'] at related
  obtain ⟨called, replaced, spelled⟩ := (List.forall₂_cons.mp related).1
  exact ⟨call, call', only, only', called, replaced, spelled, text, text', by decide⟩

end Site

end TypedQueries
