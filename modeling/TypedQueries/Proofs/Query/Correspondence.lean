import TypedQueries.Proofs.Query.Environment
import TypedQueries.Proofs.Syntax.Comments

/-! # Looking names up in two trees alike

A tree and what a change to it has made of it are searched for a name in the same way, as far as
the change leaves the parts that the search goes by: the kinds and roles of nodes, the order of
their children, and the text of words (`Tree.Correspondence`). What a change puts in between are
comments, which declare nothing, and around a place nodes that declare nothing; and as initial
values of variables and as arguments of calls other expressions may stand on the two sides
(`Site.Correspondence`). Then the answers for a name at two places that correspond are the same, if
the variables of that name have corresponding values (`Site.Correspondence.lookup`).
-/

namespace TypedQueries

/-- The kinds of declaration that declare the one name they have as a part. -/
def Kind.declaresName : Kind → Bool
  | .functionDeclaration | .generatorFunctionDeclaration | .classDeclaration
  | .abstractClassDeclaration | .enumDeclaration => true
  | _ => false

/-- The kinds of statement that can declare a name. -/
def Kind.declares : Kind → Bool
  | .lexicalDeclaration | .variableDeclaration | .exportStatement | .importStatement => true
  | kind => kind.declaresName

/-- The kinds of node that have expressions as children and do not care which. -/
def Kind.takesValues : Kind → Bool
  | .variableDeclarator | .arguments => true
  | _ => false

theorem Kind.takesValues_of_declaresName {kind : Kind} (declares : kind.declaresName = true) :
    kind.takesValues = false := by
  cases kind <;> first | rfl | cases declares

theorem Kind.takesValues_of_isFunction {kind : Kind} (function : kind.isFunction = true) :
    kind.takesValues = false := by
  cases kind <;> first | rfl | cases function

namespace Tree

variable {t u : Tree} {name : String}

/-- The child by whose text a node is read. -/
def namePart? (t : Tree) : Option Tree :=
  match t.kind with
  | .memberExpression => t.child? .property
  | .importSpecifier => (t.child? .alias).or (t.child? .name)
  | kind => if kind.declaresName then t.child? .name else none

/-- A tree in which names are words, as they are in the grammar. -/
def Spelled (t : Tree) : Prop :=
  ∀ node ∈ t.preorder, node.namePart?.all (·.kind.isWord) = true

instance (t : Tree) : Decidable t.Spelled :=
  inferInstanceAs (Decidable (∀ node ∈ t.preorder, node.namePart?.all (·.kind.isWord) = true))

namespace Spelled

theorem isWord (spelled : t.Spelled) : t.namePart?.all (·.kind.isWord) = true := by
  refine spelled t ?_
  rw [preorder_eq]
  exact List.mem_cons_self

theorem child {c : Tree} (spelled : t.Spelled) (member : c ∈ t.children) : c.Spelled := by
  intro node below
  refine spelled node ?_
  rw [preorder_eq]
  exact List.mem_cons_of_mem _ (List.mem_flatMap.mpr ⟨c, member, below⟩)

theorem node {site : Site} (spelled : site.top.Spelled) : site.node.Spelled := by
  induction site using Site.induction_down with
  | root t => exact spelled
  | step parent c found ih =>
      rw [Site.top_of_parent? found] at spelled
      refine (ih spelled).child ?_
      rw [← Site.map_node_children]
      exact List.mem_map_of_mem (Site.mem_children_iff.mpr found)

end Spelled

theorem namePart?_of_declaresName (declares : t.kind.declaresName = true) :
    t.namePart? = t.child? .name := by
  rw [namePart?]
  generalize t.kind = kind at declares
  split
  · cases declares
  · cases declares
  · exact if_pos declares

mutual

/-- Whether a declaration stands in the tree with no function and no class around it. -/
def hasOpenDeclaration : Tree → Bool
  | node label children =>
      label.kind.declares || (!label.kind.confines && someOpenDeclaration children)

/-- Whether a declaration stands so in one of the trees. -/
def someOpenDeclaration : List Tree → Bool
  | [] => false
  | t :: ts => hasOpenDeclaration t || someOpenDeclaration ts

end

theorem someOpenDeclaration_eq (ts : List Tree) :
    someOpenDeclaration ts = ts.any hasOpenDeclaration := by
  induction ts with
  | nil => rfl
  | cons t ts ih => rw [someOpenDeclaration, List.any_cons, ih]

theorem hasOpenDeclaration_eq (t : Tree) :
    t.hasOpenDeclaration =
      (t.kind.declares || (!t.kind.confines && t.children.any hasOpenDeclaration)) := by
  obtain ⟨label, children⟩ := t
  rw [hasOpenDeclaration, someOpenDeclaration_eq]
  rfl

/-- What may be an expression. Declarations stand in it only in functions and classes. -/
structure IsExpression (t : Tree) : Prop where
  named : t.label.named = true
  closed : t.hasOpenDeclaration = false

instance (t : Tree) : Decidable t.IsExpression :=
  decidable_of_iff (t.label.named = true ∧ t.hasOpenDeclaration = false)
    ⟨fun ⟨named, closed⟩ => ⟨named, closed⟩, fun ⟨named, closed⟩ => ⟨named, closed⟩⟩

/-- An expression as the initial value of a variable. Declarations stand in it only in functions
and classes. -/
structure IsInitializer (t : Tree) : Prop where
  role : t.label.role = some .value
  named : t.label.named = true
  closed : t.hasOpenDeclaration = false

instance (t : Tree) : Decidable t.IsInitializer :=
  decidable_of_iff
    (t.label.role = some .value ∧ t.label.named = true ∧ t.hasOpenDeclaration = false)
    ⟨fun ⟨role, named, closed⟩ => ⟨role, named, closed⟩,
      fun ⟨role, named, closed⟩ => ⟨role, named, closed⟩⟩

theorem IsInitializer.isExpression (initial : t.IsInitializer) : t.IsExpression :=
  ⟨initial.named, initial.closed⟩

theorem IsExpression.declares_eq_false (expression : t.IsExpression) :
    t.kind.declares = false := by
  have closed := expression.closed
  rw [hasOpenDeclaration_eq, Bool.or_eq_false_iff] at closed
  exact closed.1

/-! ## Patterns and imports -/

theorem firstBinds_eq (role : Role) (ts : List Tree) :
    firstBinds name role ts = (ts.find? (·.label.role == some role)).any (patternBinds name) := by
  induction ts with
  | nil => rfl
  | cons t ts ih =>
      rw [firstBinds, List.find?_cons]
      cases t.label.role == some role with
      | true => rfl
      | false => exact ih

theorem someBinds_eq (ts : List Tree) :
    someBinds name ts = ts.any fun t => t.label.named && t.patternBinds name := by
  induction ts with
  | nil => rfl
  | cons t ts ih => rw [someBinds, List.any_cons, ih]

theorem someImportBinds_eq (ts : List Tree) :
    someImportBinds name ts = ts.any fun t => t.label.named && t.importBinds name := by
  induction ts with
  | nil => rfl
  | cons t ts ih => rw [someImportBinds, List.any_cons, ih]

theorem importBinds_of_importSpecifier (kind : t.kind = .importSpecifier) :
    t.importBinds name = t.namePart?.any (·.text == name) := by
  obtain ⟨label, children⟩ := t
  have kind : label.kind = .importSpecifier := kind
  rw [importBinds, kind, namePart?, kind_node, kind]

theorem IsComment.patternBinds (comment : t.IsComment) : t.patternBinds name = false := by
  obtain ⟨label, children⟩ := t
  have kind : label.kind = .comment := comment.kind
  rw [Tree.patternBinds, kind]

theorem IsComment.importBinds (comment : t.IsComment) : t.importBinds name = false := by
  obtain ⟨label, children⟩ := t
  have kind : label.kind = .comment := comment.kind
  have leaf : children = [] := comment.leaf
  rw [Tree.importBinds, kind, leaf]
  rfl

/-! ## Trees -/

/-- A relation between trees that reading goes by: related trees have the same kind and, where they
are words or literals, the same text, and their children are related in order and have the same
roles, but for comments in between. Where the children are values nothing is said of them. -/
structure Correspondence (extra : Tree → Prop) (related : Tree → Tree → Prop) : Prop where
  comment {t : Tree} : extra t → t.IsComment
  kind_eq {t u : Tree} : related t u → u.kind = t.kind
  named_eq {t u : Tree} : related t u → u.label.named = t.label.named
  text_eq {t u : Tree} : related t u → t.isSolid = true → u.text = t.text
  children {t u : Tree} : related t u → t.kind.takesValues = false →
    Interspersed extra (fun c d => related c d ∧ d.label.role = c.label.role) t.children u.children

namespace Correspondence

variable {extra : Tree → Prop} {related : Tree → Tree → Prop} (alike : Correspondence extra related)

include alike

theorem text_eq_of_isWord (both : related t u) (word : t.kind.isWord = true) : u.text = t.text :=
  alike.text_eq both (by rw [isSolid, word, Bool.true_or])

theorem child? (both : related t u) (kind : t.kind.takesValues = false) (role : Role) :
    Option.Rel related (t.child? role) (u.child? role) := by
  refine ((alike.children both kind).find? (fun a b parts => ?_) fun b comment => ?_).imp
    fun a b parts => parts.1
  · rw [parts.2]
  · rw [(alike.comment comment).role]
    rfl

theorem namedChildren (both : related t u) (kind : t.kind.takesValues = false) :
    Interspersed extra related t.namedChildren u.namedChildren :=
  ((alike.children both kind).imp fun _ _ parts => parts.1).filter fun _ _ => alike.named_eq

theorem hasSubstitution_eq (both : related t u) : u.hasSubstitution = t.hasSubstitution := by
  rw [hasSubstitution, hasSubstitution, alike.kind_eq both]
  by_cases template : t.kind = .templateString
  · refine congrArg _ ((alike.namedChildren both (by rw [template]; rfl)).any_eq
      (fun a b parts => ?_) fun b comment => ?_)
    · rw [alike.kind_eq parts]
    · rw [(alike.comment comment).kind]
      rfl
  · rw [beq_false_of_ne template]
    rfl

theorem namePart? (both : related t u) : Option.Rel related t.namePart? u.namePart? := by
  rw [Tree.namePart?, Tree.namePart?, alike.kind_eq both]
  have child (kind : t.kind.takesValues = false) (role : Role) := alike.child? both kind role
  generalize t.kind = kind at child
  split
  · exact child rfl .property
  · exact (child rfl .alias).or (child rfl .name)
  · split
    · next declares => exact child (Kind.takesValues_of_declaresName declares) .name
    · exact .none

/-- Related nodes are read by the same name. -/
theorem any_namePart? (both : related t u) (spelled : t.Spelled) :
    u.namePart?.any (·.text == name) = t.namePart?.any (·.text == name) := by
  have word := spelled.isWord
  have parts := alike.namePart? both
  generalize t.namePart? = part at word parts
  generalize u.namePart? = part' at parts
  cases parts with
  | none => rfl
  | some parts => rw [Option.any_some, Option.any_some, alike.text_eq_of_isWord parts word]

theorem patternBinds_eq (both : related t u) : u.patternBinds name = t.patternBinds name := by
  induction t using Tree.induction generalizing u with
  | step t ih =>
      obtain ⟨label, children⟩ := t
      obtain ⟨label', children'⟩ := u
      have kinds : label'.kind = label.kind := alike.kind_eq both
      have leaf (word : label.kind.isWord = true) :
          (label'.text == name) = (label.text == name) :=
        congrArg (· == name) (alike.text_eq_of_isWord both word)
      have parts (kind : label.kind.takesValues = false) :=
        (alike.children both kind).with_members
      have inRole (kind : label.kind.takesValues = false) (role : Role) :
          firstBinds name role children' = firstBinds name role children := by
        rw [firstBinds_eq, firstBinds_eq]
        refine ((parts kind).find? (fun a b parts => ?_) fun b comment => ?_).any_eq
          fun a b parts => ih a parts.1 parts.2.1
        · rw [parts.2.2]
        · rw [(alike.comment comment).role]
          rfl
      have among (kind : label.kind.takesValues = false) :
          someBinds name children' = someBinds name children := by
        rw [someBinds_eq, someBinds_eq]
        refine (parts kind).any_eq (fun a b parts => ?_) fun b comment => ?_
        · rw [alike.named_eq parts.2.1, ih a parts.1 parts.2.1]
        · rw [(alike.comment comment).patternBinds, Bool.and_false]
      rw [patternBinds, patternBinds, kinds]
      generalize label.kind = kind at leaf inRole among
      -- One goal for each kind listed, and one for all others.
      split
      all_goals first
        | exact leaf rfl
        | exact inRole rfl _
        | exact among rfl
        | rfl

/-- Imports bind the same names if the children of all their nodes are related. -/
theorem importBinds_eq
    (parts : ∀ {t u : Tree}, related t u → Interspersed extra related t.children u.children)
    (both : related t u) (spelled : t.Spelled) : u.importBinds name = t.importBinds name := by
  induction t using Tree.induction generalizing u with
  | step t ih =>
      by_cases specifier : t.kind = .importSpecifier
      · rw [importBinds_of_importSpecifier specifier,
          importBinds_of_importSpecifier ((alike.kind_eq both).trans specifier),
          alike.any_namePart? both spelled]
      obtain ⟨label, children⟩ := t
      obtain ⟨label', children'⟩ := u
      have kinds : label'.kind = label.kind := alike.kind_eq both
      have leaf (word : label.kind.isWord = true) :
          (label'.text == name) = (label.text == name) :=
        congrArg (· == name) (alike.text_eq_of_isWord both word)
      have among : someImportBinds name children' = someImportBinds name children := by
        rw [someImportBinds_eq, someImportBinds_eq]
        refine (parts both).with_members.any_eq (fun a b parts => ?_) fun b comment => ?_
        · rw [alike.named_eq parts.2, ih a parts.1 parts.2 (spelled.child parts.1)]
        · rw [(alike.comment comment).importBinds, Bool.and_false]
      rw [importBinds, importBinds, kinds]
      rw [kind_node] at specifier
      generalize label.kind = kind at leaf specifier
      split
      · exact absurd rfl specifier
      · exact leaf rfl
      · rfl
      · exact among

end Correspondence

end Tree

/-! ## Places -/

/-- What a name is bound to at corresponding places: values that are related, or something
else. -/
inductive Binding.Corresponding (values : Site → Site → Prop) : Binding → Binding → Prop where
  | initialized {value value' : Site} (same : values value value') :
      Corresponding values (.initialized value) (.initialized value')
  | other : Corresponding values .other .other

theorem Binding.Corresponding.imp {values values' : Site → Site → Prop} {binding binding' : Binding}
    (bound : Corresponding values binding binding')
    (weaker : ∀ value value', values value value' → values' value value') :
    Corresponding values' binding binding' := by
  cases bound with
  | initialized same => exact .initialized (weaker _ _ same)
  | other => exact .other

namespace Site

variable {name : String} {site site' : Site}

theorem map_node_child? (role : Role) :
    (site.child? role).map (·.node) = site.node.child? role := by
  rw [Tree.child?, ← map_node_children, List.find?_map]
  rfl

theorem any_text_name (declares : site.kind.declaresName = true) :
    (site.child? .name).any (·.text == name) = site.node.namePart?.any (·.text == name) := by
  rw [Tree.namePart?_of_declaresName declares, ← map_node_child?, Option.any_map]
  rfl

theorem spelled_of_mem_children {child : Site} (spelled : site.node.Spelled)
    (member : child ∈ site.children) : child.node.Spelled := by
  refine spelled.child ?_
  rw [← map_node_children]
  exact List.mem_map_of_mem member

theorem declaratorBinding?_of_isComment (comment : site.node.IsComment) :
    declaratorBinding? name site = none := by
  rw [declaratorBinding?, show site.kind = .comment from comment.kind]
  rfl

theorem statementBinding?_of_isComment (comment : site.node.IsComment) :
    statementBinding? name site = none := by
  rw [statementBinding?, show site.kind = .comment from comment.kind]

theorem blockBinding?_of_isComment (comment : site.node.IsComment) :
    blockBinding? name site = none := by
  rw [blockBinding?, namedChildren, children_of_isComment comment]
  rfl

theorem length_path (site : Site) : site.path.length = site.depth := by
  rw [path, List.length_reverse, List.length_map]
  rfl

theorem mem_ancestors_of_mem_namedChildren {child root : Site} (member : child ∈ site.namedChildren)
    (below : site ∈ root.nodes) : root ∈ child.ancestors := by
  rw [ancestors_of_parent? (parent?_of_mem_namedChildren member), List.mem_cons]
  exact (mem_nodes_iff.mp below).imp Eq.symm id

/-- The search for a `var` at the next node to look at. -/
theorem hoistedAmong?_cons {root : Site} {rest : List Site} :
    hoistedAmong? name root (site :: rest) =
      if site.kind == .variableDeclaration then
        (statementBinding? name site).or (hoistedAmong? name root rest)
      else if site.path != root.path && (site.kind.isFunction || site.kind == .classBody) then
        hoistedAmong? name root rest
      else hoistedAmong? name root (site.namedChildren ++ rest) := by
  rw [hoistedAmong?]
  cases statementBinding? name site <;> rfl

/-- A node below a root is not the root. -/
theorem path_bne_of_mem_ancestors {root : Site} (below : root ∈ site.ancestors) :
    (site.path != root.path) = true := by
  rw [bne_iff_ne]
  intro same
  have depths : site.depth = root.depth := by rw [← length_path, ← length_path, same]
  exact Nat.ne_of_gt (depth_lt_of_mem_ancestors below) depths

/-- The search for a `var` finds nothing in a part of the root where no declaration is open. -/
theorem hoistedAmong?_of_closed {root : Site} (below : root ∈ site.ancestors)
    (closed : site.node.hasOpenDeclaration = false) (rest : List Site) :
    hoistedAmong? name root (site :: rest) = hoistedAmong? name root rest := by
  induction site using induction_up generalizing rest with
  | step site ih =>
      rw [Tree.hasOpenDeclaration_eq, Bool.or_eq_false_iff] at closed
      obtain ⟨noDeclaration, inner⟩ := closed
      have noVariable : site.kind ≠ .variableDeclaration := by
        intro kind
        rw [show site.node.kind = _ from kind] at noDeclaration
        cases noDeclaration
      rw [hoistedAmong?_cons, if_neg (mt beq_iff_eq.mp noVariable),
        path_bne_of_mem_ancestors below, Bool.true_and]
      split
      · rfl
      · next entered =>
          have enters : site.node.kind.confines = false := Bool.eq_false_iff.mpr entered
          rw [enters, Bool.not_false, Bool.true_and, List.any_eq_false] at inner
          -- The children are looked at one after the other, and none has an open declaration.
          have passed (children : List Site) (members : ∀ child ∈ children, child ∈ site.children) :
              hoistedAmong? name root (children ++ rest) = hoistedAmong? name root rest := by
            induction children with
            | nil => rfl
            | cons child children further =>
                obtain ⟨member, members⟩ := List.forall_mem_cons.mp members
                have around : root ∈ child.ancestors := by
                  rw [ancestors_of_parent? (mem_children_iff.mp member)]
                  exact List.mem_cons_of_mem _ below
                have closed : child.node.hasOpenDeclaration = false := by
                  refine Bool.eq_false_iff.mpr (inner child.node ?_)
                  rw [← map_node_children]
                  exact List.mem_map_of_mem member
                rw [List.cons_append, ih child member around closed, further members]
          exact passed site.namedChildren fun child => mem_children_of_mem_namedChildren

theorem statementBinding?_of_declares_eq_false (none : site.kind.declares = false) :
    statementBinding? name site = .none := by
  rw [statementBinding?]
  generalize site.kind = kind at none
  split
  all_goals first
    | cases none
    | rfl

/-- A relation between places that the search for a name goes by: corresponding places have related
nodes, corresponding places around them, with nodes in between that bind no name, and corresponding
children. Where the children are values, other expressions may stand on the two sides. -/
structure Correspondence (extra : Tree → Prop) (trees : Tree → Tree → Prop)
    (places : Site → Site → Prop) : Prop where
  parts : Tree.Correspondence extra trees
  node {site site' : Site} : places site site' → trees site.node site'.node
  ancestors {site site' : Site} : places site site' →
    Interspersed (fun outer => ∀ name, scopeBinding? name outer = none) places site.ancestors
      site'.ancestors
  children {site site' : Site} : places site site' →
    Interspersed (fun child => extra child.node)
      (fun child child' =>
        places child child' ∧ child'.node.label.role = child.node.label.role ∨
          site.kind.takesValues = true ∧ child.node.IsExpression ∧ child'.node.IsExpression)
      site.children site'.children

/-- That variables and imports at corresponding places declare a name alike, and that variables
have related values. -/
structure DeclaredAlike (name : String) (places values : Site → Site → Prop) : Prop where
  imported {site site' : Site} : places site site' → site.kind = .importStatement →
    site.node.Spelled → site'.node.importBinds name = site.node.importBinds name
  declarator {site site' : Site} : places site site' → site.kind = .variableDeclarator →
    Option.Rel (Binding.Corresponding values) (declaratorBinding? name site)
      (declaratorBinding? name site')

theorem DeclaredAlike.imp {places values values' : Site → Site → Prop}
    (declared : DeclaredAlike name places values)
    (weaker : ∀ value value', values value value' → values' value value') :
    DeclaredAlike name places values' where
  imported := declared.imported
  declarator both kind :=
    (declared.declarator both kind).imp fun _ _ bound => bound.imp weaker

theorem otherIf_corresponding (values : Site → Site → Prop) (hidden : Bool) :
    Option.Rel (Binding.Corresponding values) (otherIf hidden) (otherIf hidden) := by
  cases hidden with
  | false => exact .none
  | true => exact .some .other

namespace Correspondence

variable {extra : Tree → Prop} {trees : Tree → Tree → Prop} {places values : Site → Site → Prop}
  (alike : Correspondence extra trees places)

include alike

theorem kind_eq (both : places site site') : site'.kind = site.kind :=
  alike.parts.kind_eq (alike.node both)

theorem children_of_takesValues (both : places site site') (kind : site.kind.takesValues = false) :
    Interspersed (fun child => extra child.node)
      (fun child child' => places child child' ∧ child'.node.label.role = child.node.label.role)
      site.children site'.children := by
  refine (alike.children both).imp fun child child' parts => ?_
  rcases parts with same | ⟨takes, -⟩
  · exact same
  · rw [kind] at takes
    cases takes

theorem namedChildren (both : places site site') (kind : site.kind.takesValues = false) :
    Interspersed (fun child => extra child.node) places site.namedChildren site'.namedChildren :=
  ((alike.children_of_takesValues both kind).imp fun _ _ parts => parts.1).filter
    fun _ _ same => alike.parts.named_eq (alike.node same)

theorem child? (both : places site site') (kind : site.kind.takesValues = false) (role : Role) :
    Option.Rel places (site.child? role) (site'.child? role) := by
  refine ((alike.children_of_takesValues both kind).find? (fun a b parts => ?_)
    fun b comment => ?_).imp fun a b parts => parts.1
  · rw [parts.2]
  · rw [(alike.parts.comment comment).role]
    rfl

/-- Variables in declarations bind a name alike if their targets and their initial values
correspond. -/
theorem declaratorBinding? (both : places site site')
    (targets : Option.Rel places (site.child? .name) (site'.child? .name))
    (initial : Option.Rel values (site.child? .value) (site'.child? .value)) :
    Option.Rel (Binding.Corresponding values) (declaratorBinding? name site)
      (declaratorBinding? name site') := by
  rw [Site.declaratorBinding?, Site.declaratorBinding?, alike.kind_eq both]
  split
  · generalize site.child? .name = target at targets
    generalize site'.child? .name = target' at targets
    cases targets with
    | none => exact .none
    | @some target target' same =>
        have nodes := alike.node same
        dsimp only
        rw [alike.kind_eq same]
        by_cases plain : target.kind = .identifier
        · have text : target'.text = target.text :=
            alike.parts.text_eq_of_isWord nodes
              (by rw [show target.node.kind = _ from plain]; rfl)
          rw [if_pos (beq_iff_eq.mpr plain), if_pos (beq_iff_eq.mpr plain), text]
          split
          · generalize site.child? .value = value at initial
            generalize site'.child? .value = value' at initial
            cases initial with
            | none => exact .some .other
            | some same => exact .some (.initialized same)
          · exact .none
        · rw [if_neg (fun equal => plain (beq_iff_eq.mp equal)),
            if_neg (fun equal => plain (beq_iff_eq.mp equal)), alike.parts.patternBinds_eq nodes]
          exact otherIf_corresponding values _
  · exact .none

/-- The named children of corresponding places, values too. -/
theorem namedParts (both : places site site') :
    Interspersed (fun child => extra child.node)
      (fun child child' => places child child' ∨
        child.node.IsExpression ∧ child'.node.IsExpression)
      site.namedChildren site'.namedChildren := by
  refine ((alike.children both).imp fun child child' parts => ?_).filter
    fun child child' parts => ?_
  · rcases parts with same | ⟨-, values⟩
    · exact Or.inl same.1
    · exact Or.inr values
  · rcases parts with same | ⟨first, second⟩
    · exact alike.parts.named_eq (alike.node same)
    · rw [first.named, second.named]

/-- The named children of corresponding places at or below two roots are further inside. -/
theorem partsInside {root root' : Site} (both : places site site') (below : site ∈ root.nodes)
    (below' : site' ∈ root'.nodes) :
    Interspersed (fun child => extra child.node)
      (fun child child' =>
        (places child child' ∨ child.node.IsExpression ∧ child'.node.IsExpression) ∧
          root ∈ child.ancestors ∧ root' ∈ child'.ancestors)
      site.namedChildren site'.namedChildren :=
  (alike.namedParts both).with_both_members.imp fun _ _ ⟨member, member', parts⟩ =>
    ⟨parts, mem_ancestors_of_mem_namedChildren member below,
      mem_ancestors_of_mem_namedChildren member' below'⟩

/-- A pattern in a role of a node hides the same names. -/
theorem any_patternBinds_eq {part part' : Option Site} (same : Option.Rel places part part') :
    part'.any (·.node.patternBinds name) = part.any (·.node.patternBinds name) :=
  same.any_eq fun _ _ both => alike.parts.patternBinds_eq (alike.node both)

variable (declared : DeclaredAlike name places values)

include declared

theorem declarator (both : places site site') :
    Option.Rel (Binding.Corresponding values) (Site.declaratorBinding? name site)
      (Site.declaratorBinding? name site') := by
  by_cases kind : site.kind = .variableDeclarator
  · exact declared.declarator both kind
  · rw [Site.declaratorBinding?, if_neg (mt beq_iff_eq.mp kind), Site.declaratorBinding?,
      if_neg (by rw [alike.kind_eq both]; exact mt beq_iff_eq.mp kind)]
    exact .none

theorem statementBinding? (both : places site site') (spelled : site.node.Spelled) :
    Option.Rel (Binding.Corresponding values) (statementBinding? name site)
      (statementBinding? name site') := by
  induction site using induction_up generalizing site' with
  | step site ih =>
      by_cases exported : site.kind = .exportStatement
      · rw [statementBinding?_of_export exported,
          statementBinding?_of_export ((alike.kind_eq both).trans exported)]
        refine (alike.child? both (by rw [exported]; rfl) .declaration).with_found.bind
          fun part part' same => ?_
        have member := mem_children_of_child? same.1
        exact ih part member same.2 (spelled_of_mem_children spelled member)
      have declarators (kind : site.kind.takesValues = false) :
          Option.Rel (Binding.Corresponding values)
          (site.namedChildren.findSome? (Site.declaratorBinding? name))
          (site'.namedChildren.findSome? (Site.declaratorBinding? name)) :=
        (alike.namedChildren both kind).findSome? (fun _ _ => alike.declarator declared)
          fun _ comment => declaratorBinding?_of_isComment (alike.parts.comment comment)
      have byName (declares : site.kind.declaresName = true) :
          Option.Rel (Binding.Corresponding values)
          (Site.otherIf ((site.child? .name).any (·.text == name)))
          (Site.otherIf ((site'.child? .name).any (·.text == name))) := by
        rw [any_text_name declares, any_text_name (by rw [alike.kind_eq both, declares]),
          alike.parts.any_namePart? (alike.node both) spelled]
        exact otherIf_corresponding values _
      have imported (kind : site.kind = .importStatement) :
          Option.Rel (Binding.Corresponding values)
          (Site.otherIf (site.node.importBinds name))
          (Site.otherIf (site'.node.importBinds name)) := by
        rw [declared.imported both kind spelled]
        exact otherIf_corresponding values _
      rw [Site.statementBinding?, Site.statementBinding?, alike.kind_eq both]
      generalize site.kind = kind at exported byName declarators imported
      -- One goal for each kind listed, and one for all others.
      split
      all_goals first
        | exact declarators rfl
        | exact byName rfl
        | exact imported rfl
        | exact absurd rfl exported
        | exact .none

/-! ## Scopes -/

theorem blockBinding? (both : places site site') (spelled : site.node.Spelled) :
    Option.Rel (Binding.Corresponding values) (blockBinding? name site)
      (blockBinding? name site') := by
  refine (alike.namedParts both).with_members.findSome? (fun part part' parts => ?_)
    fun _ comment => statementBinding?_of_isComment (alike.parts.comment comment)
  obtain ⟨member, same | ⟨first, second⟩⟩ := parts
  · have member := mem_children_of_mem_namedChildren member
    exact alike.statementBinding? declared same (spelled_of_mem_children spelled member)
  · rw [statementBinding?_of_declares_eq_false first.declares_eq_false,
      statementBinding?_of_declares_eq_false second.declares_eq_false]
    exact .none

/-- The search for a `var` below corresponding roots, over places further inside that correspond
or may be expressions. -/
theorem hoistedAmong? {root root' : Site} {sites sites' : List Site}
    (pending : Interspersed (fun site => extra site.node)
      (fun site site' =>
        (places site site' ∨ site.node.IsExpression ∧ site'.node.IsExpression) ∧
          root ∈ site.ancestors ∧ root' ∈ site'.ancestors) sites sites')
    (spelled : ∀ site ∈ sites, site.node.Spelled) :
    Option.Rel (Binding.Corresponding values) (hoistedAmong? name root sites)
      (hoistedAmong? name root' sites') := by
  induction size : Tree.sizeAll (sites'.map (·.node)) using Nat.strongRecOn
    generalizing sites sites' with
  | ind size ih =>
      subst size
      cases pending with
      | nil =>
          rw [Site.hoistedAmong?, Site.hoistedAmong?]
          exact .none
      | @keep site site' rest rest' head tail =>
          obtain ⟨spelledHere, spelledRest⟩ := List.forall_mem_cons.mp spelled
          have later : Option.Rel (Binding.Corresponding values) (Site.hoistedAmong? name root rest)
              (Site.hoistedAmong? name root' rest') :=
            ih _ (sizeAll_lt_cons site' rest') tail spelledRest rfl
          obtain ⟨same | ⟨first, second⟩, around, around'⟩ := head
          · rw [hoistedAmong?_cons, hoistedAmong?_cons, alike.kind_eq same,
              path_bne_of_mem_ancestors around, path_bne_of_mem_ancestors around']
            split
            · exact (alike.statementBinding? declared same spelledHere).or later
            split
            · exact later
            · refine ih _ (sizeAll_namedChildren_lt site' rest')
                ((alike.partsInside same (mem_nodes_iff.mpr (Or.inr around))
                  (mem_nodes_iff.mpr (Or.inr around'))).append tail)
                (List.forall_mem_append.mpr ⟨fun child member => ?_, spelledRest⟩) rfl
              exact spelled_of_mem_children spelledHere (mem_children_of_mem_namedChildren member)
          · rw [hoistedAmong?_of_closed around first.closed,
              hoistedAmong?_of_closed around' second.closed]
            exact later
      | @extra site' _ rest' comment tail =>
          have comment := alike.parts.comment comment
          have kind : site'.kind = .comment := comment.kind
          have empty : site'.namedChildren = [] := by
            rw [Site.namedChildren, children_of_isComment comment, List.filter_nil]
          rw [hoistedAmong?_cons, kind, empty, List.nil_append]
          have later := ih _ (sizeAll_lt_cons site' rest') tail spelled rfl
          -- A comment is no statement, and going below it or past it comes to the same.
          split
          · contradiction
          split
          · exact later
          · exact later

theorem hoistedBinding? (both : places site site') (spelled : site.node.Spelled) :
    Option.Rel (Binding.Corresponding values) (hoistedBinding? name site)
      (hoistedBinding? name site') := by
  rw [Site.hoistedBinding?, Site.hoistedBinding?, hoistedAmong?_cons, hoistedAmong?_cons,
    alike.kind_eq both, bne_self_eq_false, bne_self_eq_false, Bool.false_and]
  split
  · exact (alike.statementBinding? declared both spelled).or
      (alike.hoistedAmong? declared .nil (List.forall_mem_nil _))
  · rw [if_neg Bool.false_ne_true, if_neg Bool.false_ne_true, List.append_nil, List.append_nil]
    refine alike.hoistedAmong? declared
      (alike.partsInside both (self_mem_nodes site) (self_mem_nodes site')) fun child member => ?_
    exact spelled_of_mem_children spelled (mem_children_of_mem_namedChildren member)

theorem scopeBinding? (both : places site site') (spelled : site.node.Spelled) :
    Option.Rel (Binding.Corresponding values) (scopeBinding? name site)
      (scopeBinding? name site') := by
  have block : Option.Rel (Binding.Corresponding values) (Site.blockBinding? name site)
      (Site.blockBinding? name site') :=
    alike.blockBinding? declared both spelled
  have program : Option.Rel (Binding.Corresponding values)
      ((Site.blockBinding? name site).or (Site.hoistedBinding? name site))
      ((Site.blockBinding? name site').or (Site.hoistedBinding? name site')) :=
    block.or (alike.hoistedBinding? declared both spelled)
  have cases' (kind : site.kind.takesValues = false) : Option.Rel (Binding.Corresponding values)
      (site.namedChildren.findSome? (Site.blockBinding? name))
      (site'.namedChildren.findSome? (Site.blockBinding? name)) := by
    refine (alike.namedChildren both kind).with_members.findSome? (fun part part' same => ?_)
      fun _ comment => blockBinding?_of_isComment (alike.parts.comment comment)
    have member := mem_children_of_mem_namedChildren same.1
    exact alike.blockBinding? declared same.2 (spelled_of_mem_children spelled member)
  have started (kind : site.kind.takesValues = false) : Option.Rel (Binding.Corresponding values)
      ((site.child? .initializer).bind (Site.statementBinding? name))
      ((site'.child? .initializer).bind (Site.statementBinding? name)) := by
    refine (alike.child? both kind .initializer).with_found.bind fun part part' same => ?_
    exact alike.statementBinding? declared same.2
      (spelled_of_mem_children spelled (mem_children_of_child? same.1))
  have hidden (kind : site.kind.takesValues = false) (role : Role) :
      Option.Rel (Binding.Corresponding values)
      (Site.otherIf ((site.child? role).any (·.node.patternBinds name)))
      (Site.otherIf ((site'.child? role).any (·.node.patternBinds name))) := by
    rw [alike.any_patternBinds_eq (alike.child? both kind role)]
    exact otherIf_corresponding values _
  have parameters (kind : site.kind.takesValues = false) :
      ((site'.child? .parameters).or (site'.child? .parameter)).any (·.node.patternBinds name) =
        ((site.child? .parameters).or (site.child? .parameter)).any (·.node.patternBinds name) :=
    alike.any_patternBinds_eq
      ((alike.child? both kind .parameters).or (alike.child? both kind .parameter))
  have body (kind : site.kind.takesValues = false) : Option.Rel (Binding.Corresponding values)
      ((site.child? .body).bind (Site.hoistedBinding? name))
      ((site'.child? .body).bind (Site.hoistedBinding? name)) := by
    refine (alike.child? both kind .body).with_found.bind fun part part' same => ?_
    exact alike.hoistedBinding? declared same.2
      (spelled_of_mem_children spelled (mem_children_of_child? same.1))
  rw [Site.scopeBinding?, Site.scopeBinding?, alike.kind_eq both]
  generalize site.kind = kind at cases' started hidden parameters body
  -- One goal for each kind listed, and one for all others, functions among them.
  split
  all_goals first
    | exact program
    | exact block
    | exact cases' rfl
    | exact started rfl
    | exact hidden rfl _
    | skip
  split
  · next isFunction =>
      have noValues := Kind.takesValues_of_isFunction isFunction
      rw [parameters noValues]
      split
      · exact .some Binding.Corresponding.other
      · exact body noValues
  · exact .none

/-- **A name is bound alike at corresponding places**: to related initial values, to something
else, or not at all. -/
theorem lookup (both : places site site') (spelled : site.top.Spelled) :
    Option.Rel (Binding.Corresponding values) (site.lookup name) (site'.lookup name) := by
  refine (alike.ancestors both).with_members.findSome?
    (fun outer outer' same => ?_) fun _ unbound => unbound name
  refine alike.scopeBinding? declared same.2 (Tree.Spelled.node ?_)
  rwa [top_of_mem_ancestors same.1]

end Correspondence

end Site

end TypedQueries
