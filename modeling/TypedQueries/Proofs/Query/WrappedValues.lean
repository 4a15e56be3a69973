import TypedQueries.Proofs.Query.Reinitialized

/-! # Values in wrappers

Parentheses and assertions of types keep the value of the expression in them. However they are
nested, the expression within all of them is the one that was put in, and to put arguments of calls
and initial values of variables in them (`Tree.Rewrapped`) leaves what a query call comes to
(`Site.wrappers_are_transparent`). One kind of expression is read with all that stands in it: a
template with substitutions is its own source, with the wrappers in it.
-/

namespace TypedQueries

/-- The kinds of node that hold one expression and have its value. -/
def Kind.wraps : Kind → Bool
  | .parenthesizedExpression | .asExpression | .satisfiesExpression | .nonNullExpression
  | .typeAssertion => true
  | _ => false

/-- The surroundings of an expression in a wrapper: in parentheses or before a type or a mark,
where it comes first, or behind a type in angle brackets, where it comes last. -/
structure Frame.IsWrapper (frame : Frame) : Prop where
  named : frame.label.named = true
  kind : frame.label.kind.wraps = true
  first : frame.label.kind ≠ .typeAssertion → ∀ t ∈ frame.before, t.label.named = false
  last : frame.label.kind = .typeAssertion → ∀ t ∈ frame.after, t.label.named = false

instance (frame : Frame) : Decidable frame.IsWrapper :=
  decidable_of_iff
    (frame.label.named = true ∧ frame.label.kind.wraps = true ∧
      (frame.label.kind ≠ .typeAssertion → ∀ t ∈ frame.before, t.label.named = false) ∧
      (frame.label.kind = .typeAssertion → ∀ t ∈ frame.after, t.label.named = false))
    ⟨fun ⟨named, kind, first, last⟩ => ⟨named, kind, first, last⟩,
      fun ⟨named, kind, first, last⟩ => ⟨named, kind, first, last⟩⟩

/-! ## Within all wrappers -/

namespace Site

theorem exists_place_eq_append (label : Label) (frames : List Frame)
    (before earlier later : List Tree) (t : Tree) :
    ∃ first last, place label frames before (earlier ++ t :: later) =
        first ++ ⟨t, ⟨label, earlier.reverse ++ before, later⟩ :: frames⟩ :: last ∧
      first.map (·.node) = earlier ∧ last.map (·.node) = later := by
  induction earlier generalizing before with
  | nil => exact ⟨[], place label frames (t :: before) later, rfl, rfl, map_node_place ..⟩
  | cons u earlier ih =>
      obtain ⟨first, last, split, nodes, nodes'⟩ := ih (u :: before)
      refine ⟨⟨u, ⟨label, before, earlier ++ t :: later⟩ :: frames⟩ :: first, last, ?_, ?_, nodes'⟩
      · rw [List.cons_append, place, split, List.reverse_cons, List.append_assoc]
        rfl
      · rw [List.map_cons, nodes]

theorem filter_named_eq_nil {sites : List Site} {ts : List Tree} (nodes : sites.map (·.node) = ts)
    (unnamed : ∀ t ∈ ts, t.label.named = false) : sites.filter (·.node.label.named) = [] := by
  refine List.filter_eq_nil_iff.mpr fun site member => ?_
  rw [unnamed site.node (nodes ▸ List.mem_map_of_mem member)]
  exact Bool.false_ne_true

/-- A wrapper holds the expression in it. -/
theorem wrapped?_fill {e : Tree} {frame : Frame} (wrapper : frame.IsWrapper)
    (named : e.label.named = true) (frames : List Frame) :
    wrapped? ⟨frame.fill e, frames⟩ = some ⟨e, frame :: frames⟩ := by
  obtain ⟨first, last, split, before, after⟩ :=
    exists_place_eq_append frame.label frames [] frame.before.reverse frame.after e
  rw [List.reverse_reverse, List.append_nil] at split
  have parts : namedChildren ⟨frame.fill e, frames⟩ =
      first.filter (·.node.label.named) ++
        ⟨e, frame :: frames⟩ :: last.filter (·.node.label.named) := by
    rw [namedChildren, children, Frame.fill, Tree.children_node, Tree.label_node, split,
      List.filter_append, List.filter_cons, if_pos named]
  by_cases assertion : frame.label.kind = .typeAssertion
  · have kind : kind ⟨frame.fill e, frames⟩ = .typeAssertion := assertion
    rw [wrapped?, kind]
    dsimp only
    rw [parts, filter_named_eq_nil after (wrapper.last assertion), List.getLast?_append_cons]
    rfl
  · have unnamed : ∀ t ∈ frame.before.reverse, t.label.named = false := fun t member =>
      wrapper.first assertion t (List.mem_reverse.mp member)
    have first : (namedChildren ⟨frame.fill e, frames⟩).head? = some ⟨e, frame :: frames⟩ := by
      rw [parts, filter_named_eq_nil before unnamed]
      rfl
    have wraps := wrapper.kind
    rw [wrapped?, show kind ⟨frame.fill e, frames⟩ = frame.label.kind from rfl]
    generalize frame.label.kind = kind at assertion wraps
    -- One goal for each kind listed, and one for all others.
    split
    all_goals first
      | exact first
      | exact absurd rfl assertion
      | skip
    cases kind <;> contradiction

theorem peel_fill {e : Tree} {frame : Frame} (wrapper : frame.IsWrapper)
    (named : e.label.named = true) (frames : List Frame) :
    peel ⟨frame.fill e, frames⟩ = peel ⟨e, frame :: frames⟩ :=
  peel_of_wrapped? (wrapped?_fill wrapper named frames)

/-- **Within all wrappers stands what was put in.** -/
theorem peel_fillAll {e : Tree} {nest : List Frame} (wrappers : ∀ frame ∈ nest, frame.IsWrapper)
    (named : e.label.named = true) (frames : List Frame) :
    peel ⟨fillAll e nest, frames⟩ = peel ⟨e, nest ++ frames⟩ := by
  induction nest generalizing e with
  | nil => rfl
  | cons frame nest ih =>
      obtain ⟨wrapper, wrappers⟩ := List.forall_mem_cons.mp wrappers
      have whole : (frame.fill e).label.named = true := wrapper.named
      rw [fillAll, ih wrappers whole, peel_fill wrapper named, List.cons_append]

theorem peel_peel (site : Site) : site.peel.peel = site.peel := by
  induction site using peel.induct with
  | case1 site inner found ih => rw [peel_of_wrapped? found, ih]
  | case2 site bare => rw [peel_of_bare bare, peel_of_bare bare]

end Site

theorem Tree.peel_peel (t : Tree) : t.peel.peel = t.peel := by
  have same := congrArg Site.node (Site.peel_peel (.ofTree t))
  rwa [Site.node_peel, Site.node_peel] at same

theorem Tree.peel_fillAll {e : Tree} {nest : List Frame}
    (wrappers : ∀ frame ∈ nest, frame.IsWrapper) (named : e.label.named = true) :
    (Site.fillAll e nest).peel = e.peel := by
  have same := congrArg Site.node (Site.peel_fillAll wrappers named [])
  rwa [Site.node_peel, Site.node_peel] at same

/-! ## Trees -/

namespace Tree

/-- The second tree is the first with its nodes at other places in the file, and may have another
role. -/
structure Same (t u : Tree) : Prop where
  kind : u.kind = t.kind
  named : u.label.named = t.label.named
  text : u.text = t.text
  parts : List.Forall₂ Moved t.children u.children

instance (t u : Tree) : Decidable (t.Same u) :=
  decidable_of_iff
    (u.kind = t.kind ∧ u.label.named = t.label.named ∧ u.text = t.text ∧
      List.Forall₂ Moved t.children u.children)
    ⟨fun ⟨kind, named, text, parts⟩ => ⟨kind, named, text, parts⟩,
      fun ⟨kind, named, text, parts⟩ => ⟨kind, named, text, parts⟩⟩

/-- Whether a child of a node of the given kind is an argument or an initial value. -/
def isValueIn (kind : Kind) (t : Tree) : Bool :=
  match kind with
  | .arguments => t.kind != .comment
  | .variableDeclarator => t.label.role == some .value
  | _ => false

mutual

/-- The second tree is the first with arguments and initial values in it put in wrappers. The nodes
are at other places then, and only those around a wrapper have another text; words, literals and
imports have none inside. -/
inductive Rewrapped : Tree → Tree → Prop where
  | same {t u : Tree} (same : t.Same u) : Rewrapped t u
  | around {label label' : Label} {children children' : List Tree} (kind : label'.kind = label.kind)
      (named : label'.named = label.named) (noImport : label.kind ≠ .importStatement)
      (bare : (node label children).isSolid = false)
      (changed : ¬List.Forall₂ Moved children children')
      (parts : RewrappedParts label.kind children children') :
      Rewrapped (node label children) (node label' children')

/-- The second tree is the first, changed so, in wrappers. -/
inductive InWrappers : Tree → Tree → Prop where
  | bare {t u : Tree} (both : Rewrapped t u) (named : u.label.named = true) : InWrappers t u
  | wrapper {t u : Tree} {frame : Frame} (wraps : frame.IsWrapper) (inner : InWrappers t u) :
      InWrappers t (frame.fill u)

/-- The second trees are the first, changed so, as children of a node of the given kind. -/
inductive RewrappedParts : Kind → List Tree → List Tree → Prop where
  | nil {kind : Kind} : RewrappedParts kind [] []
  | kept {kind : Kind} {t u : Tree} {ts us : List Tree} (role : u.label.role = t.label.role)
      (head : Rewrapped t u) (tail : RewrappedParts kind ts us) :
      RewrappedParts kind (t :: ts) (u :: us)
  | wrapped {kind : Kind} {t u : Tree} {ts us : List Tree} (role : u.label.role = t.label.role)
      (value : isValueIn kind t = true) (first : t.IsExpression) (second : u.IsExpression)
      (inside : InWrappers t u) (tail : RewrappedParts kind ts us) :
      RewrappedParts kind (t :: ts) (u :: us)

end

theorem rewrapped_iff {label label' : Label} {children children' : List Tree} :
    (node label children).Rewrapped (node label' children') ↔
      (node label children).Same (node label' children') ∨
        label'.kind = label.kind ∧ label'.named = label.named ∧
          label.kind ≠ .importStatement ∧ (node label children).isSolid = false ∧
          ¬List.Forall₂ Moved children children' ∧
          RewrappedParts label.kind children children' := by
  constructor
  · intro rewrapped
    cases rewrapped with
    | same same => exact Or.inl same
    | around kind named noImport bare changed parts =>
        exact Or.inr ⟨kind, named, noImport, bare, changed, parts⟩
  · rintro (same | ⟨kind, named, noImport, bare, changed, parts⟩)
    · exact .same same
    · exact .around kind named noImport bare changed parts

/-- That a tree is another, changed so, in wrappers, both being values in a node of the given
kind. -/
structure ValueInWrappers (kind : Kind) (t u : Tree) : Prop where
  value : isValueIn kind t = true
  first : t.IsExpression
  second : u.IsExpression
  inside : InWrappers t u

theorem rewrappedParts_cons_iff {kind : Kind} {t u : Tree} {ts us : List Tree} :
    RewrappedParts kind (t :: ts) (u :: us) ↔
      u.label.role = t.label.role ∧ (t.Rewrapped u ∨ ValueInWrappers kind t u) ∧
        RewrappedParts kind ts us := by
  constructor
  · intro parts
    cases parts with
    | kept role head tail => exact ⟨role, Or.inl head, tail⟩
    | wrapped role value first second inside tail =>
        exact ⟨role, Or.inr ⟨value, first, second, inside⟩, tail⟩
  · rintro ⟨role, head | ⟨value, first, second, inside⟩, tail⟩
    · exact .kept role head tail
    · exact .wrapped role value first second inside tail

theorem RewrappedParts.forall₂ {kind : Kind} {ts us : List Tree}
    (parts : RewrappedParts kind ts us) :
    List.Forall₂
      (fun t u => u.label.role = t.label.role ∧
        (t.Rewrapped u ∨ ValueInWrappers kind t u)) ts us := by
  induction ts generalizing us with
  | nil =>
      cases parts
      exact .nil
  | cons t ts ih =>
      cases us with
      | nil => cases parts
      | cons u us =>
          obtain ⟨role, head, tail⟩ := rewrappedParts_cons_iff.mp parts
          exact .cons ⟨role, head⟩ (ih tail)

/-- One of some trees that follow the given ones, nearest first, is in a wrapper of the given label
and has a property. -/
def SomeWrapped (property : Tree → Prop) (label : Label) (before us : List Tree) : Prop :=
  ∃ earlier v later, us = earlier ++ v :: later ∧
    Frame.IsWrapper ⟨label, earlier.reverse ++ before, later⟩ ∧ property v

theorem someWrapped_nil (property : Tree → Prop) (label : Label) (before : List Tree) :
    ¬SomeWrapped property label before [] := by
  rintro ⟨earlier, v, later, split, -, -⟩
  exact absurd split.symm (List.append_ne_nil_of_right_ne_nil _ (List.cons_ne_nil _ _))

theorem someWrapped_cons_iff {property : Tree → Prop} {label : Label} {before us : List Tree}
    {v : Tree} :
    SomeWrapped property label before (v :: us) ↔
      Frame.IsWrapper ⟨label, before, us⟩ ∧ property v ∨
        SomeWrapped property label (v :: before) us := by
  constructor
  · rintro ⟨earlier, w, later, split, wrapper, holds⟩
    cases earlier with
    | nil =>
        obtain ⟨rfl, rfl⟩ := List.cons.inj split
        exact Or.inl ⟨wrapper, holds⟩
    | cons first earlier =>
        obtain ⟨rfl, rfl⟩ := List.cons.inj split
        refine Or.inr ⟨earlier, w, later, rfl, ?_, holds⟩
        rwa [List.reverse_cons, List.append_assoc] at wrapper
  · rintro (⟨wrapper, holds⟩ | ⟨earlier, w, later, rfl, wrapper, holds⟩)
    · exact ⟨[], v, us, rfl, wrapper, holds⟩
    · refine ⟨v :: earlier, w, later, rfl, ?_, holds⟩
      rwa [List.reverse_cons, List.append_assoc]

theorem inWrappers_iff {t : Tree} {label : Label} {children : List Tree} :
    InWrappers t (node label children) ↔
      t.Rewrapped (node label children) ∧ label.named = true ∨
        SomeWrapped (InWrappers t) label [] children := by
  constructor
  · intro inside
    generalize whole : node label children = u at inside
    cases inside with
    | bare both named =>
        subst whole
        exact Or.inl ⟨both, named⟩
    | @wrapper _ v frame wraps inner =>
        obtain ⟨rfl, rfl⟩ := Tree.node.inj whole
        refine Or.inr ⟨frame.before.reverse, v, frame.after, rfl, ?_, inner⟩
        rwa [List.reverse_reverse, List.append_nil]
  · rintro (⟨both, named⟩ | ⟨earlier, v, later, rfl, wraps, inner⟩)
    · exact .bare both named
    · have whole : Frame.fill ⟨label, earlier.reverse ++ [], later⟩ v =
          node label (earlier ++ v :: later) := by
        rw [Frame.fill, List.append_nil, List.reverse_reverse]
      rw [← whole]
      exact .wrapper wraps inner

mutual

/-- Decides whether a tree is another with arguments and initial values put in wrappers. -/
def decideRewrapped : ∀ t u : Tree, Decidable (t.Rewrapped u)
  | node label children, node _ children' =>
      have := decideRewrappedParts label.kind children children'
      decidable_of_iff _ rewrapped_iff.symm
termination_by structural _ u => u

/-- Decides whether a tree is another, changed so, in wrappers. -/
def decideInWrappers : ∀ t u : Tree, Decidable (InWrappers t u)
  | node label children, node label' children' =>
      have := decideRewrappedParts label.kind children children'
      have : Decidable ((node label children).Rewrapped (node label' children')) :=
        decidable_of_iff _ rewrapped_iff.symm
      have := decideSomeWrapped (node label children) label' [] children'
      decidable_of_iff _ inWrappers_iff.symm
termination_by structural _ u => u

/-- Decides whether one of some trees is another, changed so, in wrappers of which the outermost has
the given label. -/
def decideSomeWrapped : ∀ (t : Tree) (label : Label) (before us : List Tree),
    Decidable (SomeWrapped (InWrappers t) label before us)
  | _, label, before, [] => isFalse (someWrapped_nil _ label before)
  | t, label, before, v :: us =>
      have := decideInWrappers t v
      have := decideSomeWrapped t label (v :: before) us
      decidable_of_iff _ someWrapped_cons_iff.symm
termination_by structural _ _ _ us => us

/-- Decides whether some trees are others with arguments and initial values put in wrappers. -/
def decideRewrappedParts : ∀ (kind : Kind) (ts us : List Tree),
    Decidable (RewrappedParts kind ts us)
  | _, [], [] => isTrue .nil
  | _, _ :: _, [] => isFalse nofun
  | _, [], _ :: _ => isFalse nofun
  | kind, t :: ts, u :: us =>
      have := decideRewrapped t u
      have := decideInWrappers t u
      have : Decidable (ValueInWrappers kind t u) :=
        decidable_of_iff
          (isValueIn kind t = true ∧ t.IsExpression ∧ u.IsExpression ∧ InWrappers t u)
          ⟨fun ⟨value, first, second, inside⟩ => ⟨value, first, second, inside⟩,
            fun ⟨value, first, second, inside⟩ => ⟨value, first, second, inside⟩⟩
      have := decideRewrappedParts kind ts us
      decidable_of_iff _ rewrappedParts_cons_iff.symm
termination_by structural _ _ us => us

end

instance (t u : Tree) : Decidable (t.Rewrapped u) := decideRewrapped t u

variable {t u : Tree}

theorem Moved.same (moved : t.Moved u) : t.Same u := by
  cases moved with
  | node alike text parts => exact ⟨alike.kind, alike.named, text, parts⟩

theorem Same.correspondence : Correspondence (fun _ => False) Same where
  comment := False.elim
  kind_eq same := same.kind
  named_eq same := same.named
  text_eq same _ := same.text
  children same _ := .of_forall₂ (same.parts.imp fun _ _ part => ⟨part.same, part.alike.role⟩)

theorem takesValues_of_isValueIn {kind : Kind} (value : isValueIn kind t = true) :
    kind.takesValues = true := by
  unfold isValueIn at value
  split at value
  · rfl
  · rfl
  · cases value

theorem isValueIn_arguments : isValueIn .arguments t = true ↔ t.kind ≠ .comment := by
  simp [isValueIn]

theorem isValueIn_variableDeclarator :
    isValueIn .variableDeclarator t = true ↔ t.label.role = some .value := by
  simp [isValueIn]

theorem InWrappers.named (inside : InWrappers t u) : u.label.named = true := by
  cases inside with
  | bare _ named => exact named
  | wrapper wraps _ => exact wraps.named

namespace Rewrapped

theorem kind_eq (rewrapped : t.Rewrapped u) : u.kind = t.kind := by
  cases rewrapped with
  | same same => exact same.kind
  | around kind _ _ _ _ _ => exact kind

theorem named_eq (rewrapped : t.Rewrapped u) : u.label.named = t.label.named := by
  cases rewrapped with
  | same same => exact same.named
  | around _ named _ _ _ _ => exact named

/-- A tree none of whose children has changed has its text. -/
theorem text_eq (rewrapped : t.Rewrapped u) (parts : List.Forall₂ Moved t.children u.children) :
    u.text = t.text := by
  cases rewrapped with
  | same same => exact same.text
  | around _ _ _ _ changed _ => exact absurd parts changed

theorem children (rewrapped : t.Rewrapped u) :
    List.Forall₂
      (fun c d => d.label.role = c.label.role ∧ (c.Rewrapped d ∨ ValueInWrappers t.kind c d))
      t.children u.children := by
  cases rewrapped with
  | same same =>
      exact same.parts.imp fun _ _ part => ⟨part.alike.role, Or.inl (.same part.same)⟩
  | around _ _ _ _ _ parts => exact parts.forall₂

theorem correspondence : Correspondence (fun _ => False) Rewrapped where
  comment := False.elim
  kind_eq := kind_eq
  named_eq := named_eq
  text_eq rewrapped solid := by
    cases rewrapped with
    | same same => exact same.text
    | around _ _ _ bare _ _ => exact absurd solid (Bool.eq_false_iff.mp bare)
  children {t u} rewrapped kind := by
    refine .of_forall₂ (rewrapped.children.imp fun c d part => ?_)
    obtain ⟨role, same | wrapped⟩ := part
    · exact ⟨same, role⟩
    · rw [takesValues_of_isValueIn wrapped.value] at kind
      cases kind

/-- An import is as it was. -/
theorem same_of_importStatement (rewrapped : t.Rewrapped u) (kind : t.kind = .importStatement) :
    t.Same u := by
  cases rewrapped with
  | same same => exact same
  | around _ _ noImport _ _ _ => exact absurd kind noImport

end Rewrapped

/-- No wrapper is a comment, and nothing becomes one. -/
theorem InWrappers.kind_ne_comment (inside : t.InWrappers u) (kind : t.kind ≠ .comment) :
    u.kind ≠ .comment := by
  cases inside with
  | bare both _ => rwa [both.kind_eq]
  | @wrapper _ v frame wraps _ =>
      intro comment
      have wrapping := wraps.kind
      rw [show frame.label.kind = .comment from comment] at wrapping
      cases wrapping

end Tree

/-! ## Places -/

namespace Site

/-- The same place in a tree and in one with arguments and initial values put in wrappers. Some of
the wrappers may be around it. -/
structure Rewrapped (site site' : Site) : Prop where
  node : site.node.Rewrapped site'.node
  around : Interspersed (fun outer => outer.kind.wraps = true)
    (fun outer outer' => outer.node.Rewrapped outer'.node) site.ancestors site'.ancestors

variable {name : String} {site site' : Site}

theorem scopeBinding?_of_wraps (wraps : site.kind.wraps = true) (name : String) :
    scopeBinding? name site = none := by
  rw [scopeBinding?]
  generalize site.kind = kind at wraps
  cases kind <;> first | rfl | cases wraps

theorem ancestors_eq_cons_iff {outer : Site} {outers : List Site} :
    site.ancestors = outer :: outers ↔ site.parent? = some outer ∧ outer.ancestors = outers := by
  cases found : site.parent? with
  | none =>
      obtain ⟨t, frames⟩ := site
      cases frames with
      | nil => exact iff_of_false (List.cons_ne_nil _ _).symm fun found => by cases found.1
      | cons frame frames => cases found
  | some parent =>
      rw [ancestors_of_parent? found, List.cons.injEq, Option.some.injEq]
      exact and_congr_right fun same => by rw [same]

namespace Rewrapped

/-- What is around a place is around it, with wrappers in between. -/
theorem ancestors
    (around : Interspersed (fun outer => outer.kind.wraps = true)
      (fun outer outer' => outer.node.Rewrapped outer'.node) site.ancestors site'.ancestors) :
    Interspersed (fun outer => ∀ name, scopeBinding? name outer = none) Rewrapped site.ancestors
      site'.ancestors := by
  induction site' using induction_down generalizing site with
  | root t =>
      rw [ancestors_ofTree] at around ⊢
      generalize site.ancestors = outers at around
      cases around
      exact .nil
  | step parent' child' found' ih =>
      rw [ancestors_of_parent? found'] at around ⊢
      generalize outers : site.ancestors = sites at around
      cases around with
      | keep node tail =>
          obtain ⟨-, rfl⟩ := ancestors_eq_cons_iff.mp outers
          exact .keep ⟨node, tail⟩ (ih tail)
      | extra wraps tail =>
          subst outers
          exact .extra (scopeBinding?_of_wraps wraps) (ih tail)

/-- The children of a place are at places that correspond, or are values that have been put in
wrappers. -/
theorem children (rewrapped : site.Rewrapped site') :
    List.Forall₂
      (fun child child' => child'.node.label.role = child.node.label.role ∧
        (child.Rewrapped child' ∨ Tree.ValueInWrappers site.kind child.node child'.node) ∧
        child.parent? = some site ∧ child'.parent? = some site')
      site.children site'.children := by
  have parts := rewrapped.node.children
  rw [← map_node_children, ← map_node_children, List.forall₂_map_left_iff,
    List.forall₂_map_right_iff, List.forall₂_iff_get] at parts
  obtain ⟨lengths, each⟩ := parts
  refine List.forall₂_iff_get.mpr ⟨lengths, fun index inside inside' => ?_⟩
  have found := mem_children_iff.mp (List.get_mem site.children ⟨index, inside⟩)
  have found' := mem_children_iff.mp (List.get_mem site'.children ⟨index, inside'⟩)
  obtain ⟨role, part⟩ := each index inside inside'
  refine ⟨role, part.imp_left fun node => ⟨node, ?_⟩, found, found'⟩
  rw [ancestors_of_parent? found, ancestors_of_parent? found']
  exact .keep rewrapped.node rewrapped.around

/-- The children in a role. -/
theorem childInRole (rewrapped : site.Rewrapped site') (role : Role) :
    Option.Rel
      (fun child child' => child.node.label.role = some role ∧
        (child.Rewrapped child' ∨ Tree.ValueInWrappers site.kind child.node child'.node) ∧
        child.parent? = some site ∧ child'.parent? = some site')
      (site.child? role) (site'.child? role) := by
  refine ((Interspersed.of_forall₂ rewrapped.children).find? (fun a b parts => ?_)
    fun _ => False.elim).with_found.imp fun child child' parts => ?_
  · rw [parts.1]
  · obtain ⟨found, -, part⟩ := parts
    have holds := List.find?_some found
    exact ⟨beq_iff_eq.mp holds, part⟩

theorem correspondence : Correspondence (fun _ => False) Tree.Rewrapped Rewrapped where
  parts := Tree.Rewrapped.correspondence
  node := node
  ancestors rewrapped := ancestors rewrapped.around
  children rewrapped := by
    refine .of_forall₂ (rewrapped.children.imp fun child child' parts => ?_)
    obtain ⟨role, same | wrapped, -⟩ := parts
    · exact Or.inl ⟨same, role⟩
    · exact Or.inr ⟨Tree.takesValues_of_isValueIn wrapped.value, wrapped.first, wrapped.second⟩

/-- Within all wrappers stands the expression that was put in them. -/
theorem alikeWithin_of_inWrappers (inside : Tree.InWrappers site.node site'.node)
    (around : Interspersed (fun outer => outer.kind.wraps = true)
      (fun outer outer' => outer.node.Rewrapped outer'.node) site.ancestors site'.ancestors) :
    AlikeWithin (fun _ => False) Rewrapped site site' := by
  obtain ⟨t, frames⟩ := site
  obtain ⟨u, frames'⟩ := site'
  induction u using Tree.induction generalizing frames' with
  | step u ih =>
      cases inside with
      | bare both _ => exact correspondence.alikeWithin ⟨both, around⟩
      | @wrapper _ v frame wraps inner =>
          have member : v ∈ (frame.fill v).children :=
            List.mem_append_right _ List.mem_cons_self
          have within := peel_fill wraps inner.named frames'
          rw [Frame.fill] at within
          rw [AlikeWithin, within]
          exact ih v member (frame :: frames') inner (.extra wraps.kind around)

/-- Corresponding values are the same expressions within all wrappers. -/
theorem alikeWithin_of_part {child child' : Site} {kind : Kind}
    (rewrapped : site.Rewrapped site') (found : child.parent? = some site)
    (found' : child'.parent? = some site')
    (part : child.Rewrapped child' ∨ Tree.ValueInWrappers kind child.node child'.node) :
    AlikeWithin (fun _ => False) Rewrapped child child' := by
  rcases part with same | wrapped
  · exact correspondence.alikeWithin same
  · refine alikeWithin_of_inWrappers wrapped.inside ?_
    rw [ancestors_of_parent? found, ancestors_of_parent? found']
    exact .keep rewrapped.node rewrapped.around

/-- All names are declared as they were. -/
theorem declaredAlike (name : String) :
    DeclaredAlike name Rewrapped (AlikeWithin (fun _ => False) Rewrapped) where
  imported rewrapped kind := by
    have same := rewrapped.node.same_of_importStatement kind
    exact Tree.Same.correspondence.importBinds_eq
      (fun same => .of_forall₂ (same.parts.imp fun _ _ part => part.same)) same
  declarator {site site'} rewrapped kind := by
    have targets : Option.Rel Rewrapped (site.child? .name) (site'.child? .name) := by
      refine (rewrapped.childInRole .name).imp fun target target' parts => ?_
      obtain ⟨role, same | wrapped, -⟩ := parts
      · exact same
      · have value := wrapped.value
        rw [kind, Tree.isValueIn_variableDeclarator, role] at value
        cases value
    have initial : Option.Rel (AlikeWithin (fun _ => False) Rewrapped) (site.child? .value)
        (site'.child? .value) :=
      (rewrapped.childInRole .value).imp fun value value' ⟨_, part, found, found'⟩ =>
        rewrapped.alikeWithin_of_part found found' part
    exact correspondence.declaratorBinding? rewrapped targets initial

variable {call call' : Site}

/-- The arguments of a call are the same expressions within all wrappers. -/
theorem arguments (rewrapped : call.Rewrapped call') (kind : call.kind.takesValues = false) :
    Option.Rel (ArgumentsAlike (fun _ => False) (AlikeWithin (fun _ => False) Rewrapped))
      (call.child? .arguments) (call'.child? .arguments) := by
  refine (correspondence.child? rewrapped kind .arguments).imp fun list list' lists => ?_
  refine ⟨correspondence.kind_eq lists, fun arguments => ?_⟩
  refine ((Interspersed.of_forall₂ lists.children).filter fun child child' parts => ?_).imp
    fun child child' ⟨_, part, found, found'⟩ =>
      ⟨lists.alikeWithin_of_part found found' part, ?_⟩
  · obtain ⟨-, same | wrapped, -⟩ := parts
    · exact same.node.named_eq
    · rw [wrapped.first.named, wrapped.second.named]
  · rcases part with same | wrapped
    · rw [correspondence.kind_eq same]
    · have value := wrapped.value
      rw [arguments, Tree.isValueIn_arguments] at value
      exact iff_of_false (wrapped.inside.kind_ne_comment value) value

/-- What is consulted for a call are the same expressions within all wrappers. -/
theorem consulted (rewrapped : call.Rewrapped call') (kind : call.kind.takesValues = false)
    (spelled : call.top.Spelled) :
    List.Forall₂ (AlikeWithin (fun _ => False) Rewrapped) call.consulted call'.consulted :=
  correspondence.forall₂_consulted
    (forall₂_callArguments? (fun _ => False.elim) (rewrapped.arguments kind))
    (fun _ _ within => within.resolve_right id) (fun _ _ _ => declaredAlike _) spelled

/-- A call comes to what it came to unless it is to a template with wrappers in it. -/
theorem outcome_eq_or (rewrapped : call.Rewrapped call') (kind : call.kind.takesValues = false)
    (spelled : call.top.Spelled) :
    call'.outcome = call.outcome ∨
      ∃ template ∈ call.consulted, ∃ template' ∈ call'.consulted,
        template.peel.Rewrapped template'.peel ∧
          ¬List.Forall₂ Tree.Moved template.peel.node.children template'.peel.node.children ∧
          template.peel.node.hasSubstitution = true ∧
          call.outcome = .ok template.peel.text ∧ call'.outcome = .ok template'.peel.text := by
  rcases (rewrapped.consulted kind spelled).imp_or_exists ReadsAlike with alike | other
  · left
    exact (correspondence.outcome_eq_iff (rewrapped.arguments kind) (fun _ _ _ => declaredAlike _)
      spelled).mpr alike
  · right
    obtain ⟨template, member, template', member', within, differs⟩ := other
    have inside := within.resolve_right id
    have expression : template'.peel.kind = .comment → template.peel.kind = .comment := fun kind =>
      (correspondence.kind_eq inside).symm.trans kind
    have changed : ¬(template.peel.node.hasSubstitution = true →
        template'.peel.text = template.peel.text) := fun text => differs ⟨expression, text⟩
    obtain ⟨substitutes, text⟩ := Classical.not_imp.mp changed
    refine ⟨template, member, template', member', inside, mt inside.node.text_eq text, substitutes,
      outcome_of_hasSubstitution member substitutes, outcome_of_hasSubstitution member' ?_⟩
    exact (Tree.Rewrapped.correspondence.hasSubstitution_eq inside.node).trans substitutes

end Rewrapped

/-- **Wrappers are transparent.** Within any nest of parentheses and assertions of types stands the
expression that was put in, and there is nothing more to take away from it. A query call whose
arguments are put in such nests, and initial values of variables as well, in a tree whose names are
words, is a query call still and comes to the same text, or to the same reason why its text is
unknown, unless what it comes to is the source of a template with substitutions in which a wrapper
has been put. -/
theorem wrappers_are_transparent (method : String) :
    (∀ (e : Tree) (nest : List Frame), e.label.named = true →
      (∀ frame ∈ nest, frame.IsWrapper) →
        (fillAll e nest).peel = e.peel ∧
          ∀ frames, peel ⟨fillAll e nest, frames⟩ = peel ⟨e, nest ++ frames⟩) ∧
    (∀ t : Tree, t.peel.peel = t.peel) ∧
    ∀ call call' : Site, call.node.isQueryCall method = true → call.Rewrapped call' →
      call.top.Spelled →
        call'.node.isQueryCall method = true ∧
          (call'.outcome = call.outcome ∨
            ∃ template ∈ call.consulted, ∃ template' ∈ call'.consulted,
              template.peel.Rewrapped template'.peel ∧
                ¬List.Forall₂ Tree.Moved template.peel.node.children
                  template'.peel.node.children ∧
                template.peel.node.hasSubstitution = true ∧
                call.outcome = .ok template.peel.text ∧
                call'.outcome = .ok template'.peel.text) := by
  refine ⟨?_, Tree.peel_peel, ?_⟩
  · intro e nest named wrappers
    exact ⟨Tree.peel_fillAll wrappers named, peel_fillAll wrappers named⟩
  · intro call call' called rewrapped spelled
    have kind : call.kind = .callExpression := by
      rw [Tree.isQueryCall, Bool.and_eq_true] at called
      exact beq_iff_eq.mp called.1
    refine ⟨?_, rewrapped.outcome_eq_or (by rw [kind]; rfl) spelled⟩
    exact (Tree.Rewrapped.correspondence.isQueryCall_eq rewrapped.node
      (Tree.Spelled.node spelled)).trans called

/-- The place of a call in two trees, with no wrapper around it, if arguments and initial values are
put in wrappers. -/
theorem Rewrapped.of_forall₂ {site site' : Site}
    (nodes : List.Forall₂ (fun outer outer' => outer.node.Rewrapped outer'.node)
      (site :: site.ancestors) (site' :: site'.ancestors)) : site.Rewrapped site' :=
  ⟨(List.forall₂_cons.mp nodes).1, .of_forall₂ (List.forall₂_cons.mp nodes).2⟩

/-- Wrappers of four kinds: three around the name that is the argument of a call, and others around
the text that the variable is initialized with. -/
theorem wrappers_are_transparent_nested :
    (∃ name : Site, identifier? "db.query((q!) satisfies string);" "q" = some name ∧
      name.node.label.named = true ∧ (∀ frame ∈ name.frames.take 3, frame.IsWrapper) ∧
      (fillAll name.node (name.frames.take 3)).kind = .satisfiesExpression ∧
      (fillAll name.node (name.frames.take 3)).peel = name.node.peel) ∧
    ∃ call call' : Site,
      queryCalls "query" (parse .plain "const q = 's'; db.query(q, 1);").tree = [call] ∧
      queryCalls "query" (parse .plain
        "const q = <string>('s' as any); db.query((q!) satisfies string, 1);").tree = [call'] ∧
      call.node.isQueryCall "query" = true ∧ call.Rewrapped call' ∧ call.top.Spelled ∧
      call.outcome = .ok "s" ∧ call'.outcome = .ok "s" := by
  obtain ⟨within, -, outcomes⟩ := wrappers_are_transparent "query"
  constructor
  · have facts : (identifier? "db.query((q!) satisfies string);" "q").any (fun name =>
        name.node.label.named && (name.frames.take 3).all (fun frame => decide frame.IsWrapper) &&
          (fillAll name.node (name.frames.take 3)).kind == .satisfiesExpression) = true := by
      decide +kernel
    cases found : identifier? "db.query((q!) satisfies string);" "q" with
    | none =>
        rw [found] at facts
        cases facts
    | some name =>
        rw [found, Option.any_some, Bool.and_eq_true, Bool.and_eq_true, beq_iff_eq,
          List.all_eq_true] at facts
        obtain ⟨⟨named, wrappers⟩, kind⟩ := facts
        have wrappers : ∀ frame ∈ name.frames.take 3, frame.IsWrapper := fun frame member =>
          of_decide_eq_true (wrappers frame member)
        exact ⟨name, rfl, named, wrappers, kind, (within name.node _ named wrappers).1⟩
  · have texts : (queryCalls "query"
        (parse .plain "const q = 's'; db.query(q, 1);").tree).map (·.outcome) = [.ok "s"] := by
      decide +kernel
    have related : List.Forall₂
        (fun call call' => call.node.isQueryCall "query" = true ∧
          List.Forall₂ (fun outer outer' => outer.node.Rewrapped outer'.node)
            (call :: call.ancestors) (call' :: call'.ancestors) ∧ call.top.Spelled ∧
          ∀ expression ∈ call.consulted, expression.peel.node.hasSubstitution = false)
        (queryCalls "query" (parse .plain "const q = 's'; db.query(q, 1);").tree)
        (queryCalls "query" (parse .plain
          "const q = <string>('s' as any); db.query((q!) satisfies string, 1);").tree) := by
      decide +kernel
    obtain ⟨call, call', only, only', text, first⟩ := related.exists_of_map_eq_singleton texts
    obtain ⟨called, nodes, spelled, plain⟩ := first
    have rewrapped := Rewrapped.of_forall₂ nodes
    obtain ⟨-, same | ⟨template, member, -, -, -, -, substitutes, -⟩⟩ :=
      outcomes call call' called rewrapped spelled
    · exact ⟨call, call', only, only', called, rewrapped, spelled, text, same.trans text⟩
    · rw [plain template member] at substitutes
      cases substitutes

/-- The source of a template with a query call in it whose argument is written as given. -/
def templateAroundCall (argument : String) : String :=
  "\x60$\x7bdb.query(" ++ argument ++ ")\x7d\x60"

/-- A wrapper around the argument of a call within the template that the call comes to. -/
theorem outcome_changed_by_wrapper :
    ∃ call call' : Site,
      queryCalls "query" (parse .plain ("const a = " ++ templateAroundCall "a" ++ ";")).tree =
        [call] ∧
      queryCalls "query" (parse .plain ("const a = " ++ templateAroundCall "(a)" ++ ";")).tree =
        [call'] ∧
      call.node.isQueryCall "query" = true ∧ call.Rewrapped call' ∧ call.top.Spelled ∧
      call.outcome = .ok (templateAroundCall "a") ∧
      call'.outcome = .ok (templateAroundCall "(a)") ∧
      templateAroundCall "(a)" ≠ templateAroundCall "a" := by
  have texts : (queryCalls "query"
      (parse .plain ("const a = " ++ templateAroundCall "a" ++ ";")).tree).map (·.outcome) =
        [.ok (templateAroundCall "a")] := by
    decide +kernel
  have texts' : (queryCalls "query"
      (parse .plain ("const a = " ++ templateAroundCall "(a)" ++ ";")).tree).map (·.outcome) =
        [.ok (templateAroundCall "(a)")] := by
    decide +kernel
  have related : List.Forall₂
      (fun call call' => call.node.isQueryCall "query" = true ∧
        List.Forall₂ (fun outer outer' => outer.node.Rewrapped outer'.node)
          (call :: call.ancestors) (call' :: call'.ancestors) ∧ call.top.Spelled)
      (queryCalls "query" (parse .plain ("const a = " ++ templateAroundCall "a" ++ ";")).tree)
      (queryCalls "query"
        (parse .plain ("const a = " ++ templateAroundCall "(a)" ++ ";")).tree) := by
    decide +kernel
  obtain ⟨call, only, text⟩ := List.map_eq_singleton_iff.mp texts
  obtain ⟨call', only', text'⟩ := List.map_eq_singleton_iff.mp texts'
  rw [only, only'] at related
  obtain ⟨called, nodes, spelled⟩ := (List.forall₂_cons.mp related).1
  exact ⟨call, call', only, only', called, .of_forall₂ nodes, spelled, text, text', by decide⟩

end Site

end TypedQueries
