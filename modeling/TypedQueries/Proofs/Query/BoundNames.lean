import Mathlib.Data.Finset.Lattice.Fold
import TypedQueries.Proofs.Query.Correspondence
import TypedQueries.Proofs.Syntax.Comments
import TypedQueries.Proofs.Text.Shortening

/-! # Which names are bound

A binding pattern has names where it introduces something (`PatternPart`), and an import has them
where it names what it brings in (`ImportPart`); keys, default values, types and attributes are no
part of either. A pattern is searched for exactly these names, as they are written
(`boundNames_of_describes`), and so is an import (`importedNames_of_describes`), in whatever order
its parts are visited (`searchBy_eq`). What is written is what is meant unless a name has escapes,
or is the word `undefined` with a kind of its own (`WrittenName.forall_isPlain_iff`).
-/

namespace TypedQueries

/-- A name in a pattern or an import as it stands there. The word `undefined` may have a kind of its
own. -/
inductive WrittenName where
  | word (text : String)
  | undefined
deriving DecidableEq, Repr

namespace WrittenName

/-- The name that is meant: the escapes in a word are read. -/
def value : WrittenName → String
  | word text => Escape.decodeText text
  | undefined => "undefined"

/-- Whether the name that is meant is among the words as they are written. -/
def isPlain (names : List WrittenName) : WrittenName → Bool
  | word text => Escape.decodeText text == text
  | undefined => names.contains (word "undefined")

def word? : WrittenName → Option String
  | word text => some text
  | undefined => none

def length : WrittenName → Nat
  | word text => text.length
  | undefined => 0

variable {names : List WrittenName}

theorem mem_filterMap_word?_iff {text : String} :
    text ∈ names.filterMap word? ↔ word text ∈ names := by
  rw [List.mem_filterMap]
  constructor
  · rintro ⟨name, member, same⟩
    cases name <;> cases same
    exact member
  · intro member
    exact ⟨_, member, rfl⟩

/-- Where all words that are written are meant, none of them has an escape: one with an escape would
be meant by another, with an escape and longer. -/
theorem decodeText_eq_of_forall (meant : ∀ text, word text ∈ names → text ∈ names.map value)
    {text : String} (member : word text ∈ names) : Escape.decodeText text = text := by
  by_contra escaped
  have exists_longer (length : Nat) : ∃ long, word long ∈ names ∧
      Escape.decodeText long ≠ long ∧ length ≤ long.length := by
    induction length with
    | zero => exact ⟨text, member, escaped, Nat.zero_le _⟩
    | succ length ih =>
        obtain ⟨long, member, escaped, longEnough⟩ := ih
        obtain ⟨other, otherMember, means⟩ := List.mem_map.mp (meant long member)
        cases other with
        | undefined =>
            subst means
            exact absurd (by decide +kernel) escaped
        | word longer =>
            subst means
            have again : Escape.decodeText longer ≠ longer := fun same => escaped (by
              rw [value, same, same])
            have shorter : (Escape.decodeText longer).length < longer.length :=
              Escape.length_decodeText_lt (Escape.decodeText_eq_self_iff.not.mp again)
            exact ⟨longer, otherMember, again, Nat.lt_of_le_of_lt longEnough shorter⟩
  obtain ⟨long, member, -, beyond⟩ := exists_longer (names.toFinset.sup length + 1)
  have within : (word long).length ≤ names.toFinset.sup length :=
    Finset.le_sup (List.mem_toFinset.mpr member)
  exact Nat.lt_irrefl _ (Nat.lt_of_lt_of_le beyond within)

/-- The names that are meant are the words that are written exactly if each is plain. -/
theorem forall_isPlain_iff :
    (∀ name, word name ∈ names ↔ name ∈ names.map value) ↔
      ∀ name ∈ names, name.isPlain names = true := by
  constructor
  · intro same name member
    cases name with
    | word text =>
        exact beq_iff_eq.mpr (decodeText_eq_of_forall (fun text => (same text).mp) member)
    | undefined =>
        exact List.contains_iff_mem.mpr
          ((same "undefined").mpr (List.mem_map_of_mem (f := value) member))
  · intro plain name
    constructor
    · intro member
      exact List.mem_map.mpr ⟨_, member, beq_iff_eq.mp (plain _ member)⟩
    · intro meant
      obtain ⟨other, member, rfl⟩ := List.mem_map.mp meant
      cases other with
      | word text =>
          have same : Escape.decodeText text = text := beq_iff_eq.mp (plain _ member)
          rwa [value, same]
      | undefined => exact List.contains_iff_mem.mp (plain _ member)

end WrittenName

namespace Tree

/-- The named children of a node without the comments among them. -/
def parts (t : Tree) : List Tree := t.namedChildren.filter fun c => ¬ c.IsComment

theorem flatMap_parts {names : Tree → List String}
    (quiet : ∀ {t : Tree}, t.IsComment → names t = []) (t : Tree) :
    t.parts.flatMap names = t.namedChildren.flatMap names := by
  rw [parts]
  induction t.namedChildren with
  | nil => rfl
  | cons c cs ih =>
      rw [List.filter_cons, List.flatMap_cons, ← ih]
      by_cases comment : c.IsComment
      · rw [if_neg (by simpa using comment), quiet comment, List.nil_append]
      · rw [if_pos (by simpa using comment), List.flatMap_cons]

theorem boundNamesInRole_eq (role : Role) (ts : List Tree) :
    boundNamesInRole role ts = (ts.find? (·.label.role == some role)).elim [] boundNames := by
  induction ts with
  | nil => rfl
  | cons t ts ih =>
      rw [boundNamesInRole, List.find?_cons]
      cases t.label.role == some role with
      | true => rfl
      | false => exact ih

theorem boundNamesOfAll_eq (ts : List Tree) :
    boundNamesOfAll ts = (ts.filter (·.label.named)).flatMap boundNames := by
  induction ts with
  | nil => rfl
  | cons t ts ih =>
      rw [boundNamesOfAll, List.filter_cons, ih]
      cases t.label.named <;> rfl

theorem boundNamesOfAll_children (t : Tree) :
    boundNamesOfAll t.children = t.parts.flatMap boundNames := by
  rw [boundNamesOfAll_eq, flatMap_parts]
  · rfl
  · rintro ⟨label, children⟩ comment
    have kind : label.kind = .comment := comment.kind
    rw [boundNames, kind]

end Tree

/-! ## Patterns -/

/-- A binding pattern, a parameter or a list of parameters, or a part of one, without the keys,
default values, types and decorators in it. -/
inductive PatternPart where
  | name (name : WrittenName)
  | object (properties : List PatternPart)
  | array (elements : List PatternPart)
  /-- A property after its key. -/
  | keyed (target : PatternPart)
  | defaulted (target : PatternPart)
  | rest (target : PatternPart)
  | parameter (target : PatternPart)
  /-- The object of a method, declared among its parameters, which binds no name. -/
  | receiver
  | parameters (list : List PatternPart)
deriving Repr

namespace PatternPart

mutual

/-- The names at the places where a pattern introduces one. -/
def names : PatternPart → List WrittenName
  | name written => [written]
  | object inner | array inner | parameters inner => namesOfAll inner
  | keyed target | defaulted target | rest target | parameter target => names target
  | receiver => []

def namesOfAll : List PatternPart → List WrittenName
  | [] => []
  | part :: further => names part ++ namesOfAll further

end

/-- The names that a pattern introduces. -/
def boundNames (part : PatternPart) : List String := part.names.map WrittenName.value

mutual

/-- Whether a tree is such a part of a pattern, whatever its keys, default values, types and
comments are. -/
def describes : PatternPart → Tree → Bool
  | name (.word text), t =>
      (t.kind == .identifier || t.kind == .shorthandPropertyIdentifierPattern) && t.text == text
  | name .undefined, t => t.kind == .undefinedLiteral
  | object inner, t => t.kind == .objectPattern && describeAll inner t.parts
  | array inner, t => t.kind == .arrayPattern && describeAll inner t.parts
  | parameters inner, t => t.kind == .formalParameters && describeAll inner t.parts
  | keyed target, t =>
      t.kind == .pairPattern && t.parts.length == 2 && (t.child? .value).any target.describes
  | defaulted target, t =>
      (t.kind == .assignmentPattern || t.kind == .objectAssignmentPattern)
        && t.parts.length == 2 && (t.child? .left).any target.describes
  | rest target, t =>
      t.kind == .restPattern && match t.parts with
        | [inner] => target.describes inner
        | _ => false
  | parameter target, t =>
      (t.kind == .requiredParameter || t.kind == .optionalParameter)
        && (t.child? .pattern).any target.describes
  | receiver, t => t.kind == .thisExpression

/-- Whether trees are such parts, one after the other. -/
def describeAll : List PatternPart → List Tree → Bool
  | [], [] => true
  | part :: further, t :: ts => describes part t && describeAll further ts
  | _, _ => false

end

theorem boundNamesInRole_of_any {target : PatternPart} {names : List String}
    (same : ∀ {t : Tree}, target.describes t = true → t.boundNames = names) {role : Role}
    {ts : List Tree} (is : (ts.find? (·.label.role == some role)).any target.describes = true) :
    Tree.boundNamesInRole role ts = names := by
  rw [Tree.boundNamesInRole_eq]
  obtain ⟨t, found, describes⟩ := (Option.any_eq_true _ _).mp is
  rw [found]
  exact same describes

mutual

/-- The names that a pattern is searched for are those that stand where it introduces one. -/
theorem boundNames_of_describes : ∀ {part : PatternPart} {t : Tree}, part.describes t = true →
    t.boundNames = part.names.filterMap WrittenName.word?
  | name (.word text), .node label children, is => by
      simp only [describes, Bool.and_eq_true, Bool.or_eq_true, beq_iff_eq, Tree.kind_node,
        Tree.text_node] at is
      obtain ⟨kind | kind, rfl⟩ := is <;> rw [Tree.boundNames, kind] <;> rfl
  | name .undefined, .node label children, is => by
      simp only [describes, beq_iff_eq, Tree.kind_node] at is
      rw [Tree.boundNames, is]
      rfl
  | object inner, .node label children, is | array inner, .node label children, is
  | parameters inner, .node label children, is => by
      simp only [describes, Bool.and_eq_true, beq_iff_eq, Tree.kind_node] at is
      rw [Tree.boundNames, is.1]
      exact (Tree.boundNamesOfAll_children _).trans (boundNames_of_describeAll is.2)
  | keyed target, .node label children, is => by
      simp only [describes, Bool.and_eq_true, beq_iff_eq, Tree.kind_node] at is
      rw [Tree.boundNames, is.1.1, names]
      exact boundNamesInRole_of_any boundNames_of_describes is.2
  | defaulted target, .node label children, is => by
      simp only [describes, Bool.and_eq_true, Bool.or_eq_true, beq_iff_eq, Tree.kind_node] at is
      obtain ⟨⟨kind | kind, -⟩, left⟩ := is <;> rw [Tree.boundNames, kind, names] <;>
        exact boundNamesInRole_of_any boundNames_of_describes left
  | rest target, .node label children, is => by
      simp only [describes, Bool.and_eq_true, beq_iff_eq, Tree.kind_node] at is
      obtain ⟨kind, inner⟩ := is
      rw [Tree.boundNames, kind, names]
      refine (Tree.boundNamesOfAll_children (.node label children)).trans ?_
      split at inner
      · next t single =>
        rw [single, List.flatMap_singleton]
        exact boundNames_of_describes inner
      · cases inner
  | parameter target, .node label children, is => by
      simp only [describes, Bool.and_eq_true, Bool.or_eq_true, beq_iff_eq, Tree.kind_node] at is
      obtain ⟨kind | kind, pattern⟩ := is <;> rw [Tree.boundNames, kind, names] <;>
        exact boundNamesInRole_of_any boundNames_of_describes pattern
  | receiver, .node label children, is => by
      simp only [describes, beq_iff_eq, Tree.kind_node] at is
      rw [Tree.boundNames, is]
      rfl

theorem boundNames_of_describeAll : ∀ {parts : List PatternPart} {ts : List Tree},
    describeAll parts ts = true →
      ts.flatMap Tree.boundNames = (namesOfAll parts).filterMap WrittenName.word?
  | [], [], _ => rfl
  | part :: further, t :: ts, are => by
      rw [describeAll, Bool.and_eq_true] at are
      rw [List.flatMap_cons, namesOfAll, List.filterMap_append, boundNames_of_describes are.1,
        boundNames_of_describeAll are.2]

end

end PatternPart

/-! ## Imports -/

/-- Whether a node is neither a name nor a place for one. -/
def Tree.introducesNothing (t : Tree) : Bool :=
  t.kind != .identifier && t.kind != .importSpecifier

/-- An import or a part of one. -/
inductive ImportPart where
  /-- The name of the whole: of the default, of the namespace or of what is required. -/
  | name (text : String)
  | specifier (imported : String) (renamed : Option String)
  | group (inner : List ImportPart)
  /-- Where the names are brought in from, and how. -/
  | origin
deriving Repr

namespace ImportPart

mutual

/-- The local names where they stand in an import. -/
def names : ImportPart → List WrittenName
  | name text => [.word text]
  | specifier imported renamed => [.word (renamed.getD imported)]
  | group inner => namesOfAll inner
  | origin => []

def namesOfAll : List ImportPart → List WrittenName
  | [] => []
  | part :: further => names part ++ namesOfAll further

end

/-- The local names of an import. -/
def localNames (part : ImportPart) : List String := part.names.map WrittenName.value

/-- The kinds of an import and of the groups of names in it. -/
def groups : List Kind :=
  [.importStatement, .importClause, .importRequireClause, .namespaceImport, .namedImports]

mutual

/-- Whether a tree is such a part of an import, whatever its comments are. There are keys and texts
in attributes, and no names. -/
def describes : ImportPart → Tree → Bool
  | name text, t => t.kind == .identifier && t.text == text
  | specifier imported renamed, t =>
      t.kind == .importSpecifier && (t.child? .name).any (·.text == imported)
        && (t.child? .alias).map Tree.text == renamed
  | group inner, t => groups.contains t.kind && describeAll inner t.parts
  | origin, t =>
      t.kind == .string || t.kind == .importAttribute && t.preorder.all Tree.introducesNothing

/-- Whether trees are such parts, one after the other. -/
def describeAll : List ImportPart → List Tree → Bool
  | [], [] => true
  | part :: further, t :: ts => describes part t && describeAll further ts
  | _, _ => false

end

end ImportPart

namespace Tree

theorem importedNamesOfAll_eq (ts : List Tree) :
    importedNamesOfAll ts = (ts.filter (·.label.named)).flatMap importedNames := by
  induction ts with
  | nil => rfl
  | cons t ts ih =>
      rw [importedNamesOfAll, List.filter_cons, ih]
      cases t.label.named <;> rfl

theorem importedNamesOfAll_children (t : Tree) :
    importedNamesOfAll t.children = t.parts.flatMap importedNames := by
  rw [importedNamesOfAll_eq, flatMap_parts]
  · rfl
  · rintro ⟨label, children⟩ comment
    have kind : label.kind = .comment := comment.kind
    have leaf : children = [] := comment.leaf
    rw [importedNames, kind, leaf]
    rfl

mutual

/-- Where there are no identifiers, nothing is brought in. -/
theorem importedNames_eq_nil : ∀ {t : Tree}, t.preorder.all introducesNothing = true →
    t.importedNames = []
  | node label children, bare => by
      rw [preorder, List.all_cons, introducesNothing, Bool.and_eq_true, Bool.and_eq_true,
        bne_iff_ne, bne_iff_ne] at bare
      obtain ⟨⟨word, specifier⟩, below⟩ := bare
      rw [importedNames]
      split
      · exact absurd ‹_› specifier
      · exact absurd ‹_› word
      · rfl
      · exact importedNamesOfAll_eq_nil below

theorem importedNamesOfAll_eq_nil : ∀ {ts : List Tree},
    (preorderAll ts).all introducesNothing = true → importedNamesOfAll ts = []
  | [], _ => rfl
  | t :: ts, bare => by
      rw [preorderAll, List.all_append, Bool.and_eq_true] at bare
      rw [importedNamesOfAll, importedNames_eq_nil bare.1, importedNamesOfAll_eq_nil bare.2,
        ite_self, List.append_nil]

end

end Tree

namespace ImportPart

mutual

/-- The names that an import is searched for are its local names as they are written. -/
theorem importedNames_of_describes : ∀ {part : ImportPart} {t : Tree}, part.describes t = true →
    t.importedNames = part.names.filterMap WrittenName.word?
  | name text, .node label children, is => by
      simp only [describes, Bool.and_eq_true, beq_iff_eq, Tree.kind_node, Tree.text_node] at is
      obtain ⟨kind, rfl⟩ := is
      rw [Tree.importedNames, kind]
      rfl
  | specifier imported renamed, .node label children, is => by
      simp only [describes, Bool.and_eq_true, beq_iff_eq, Tree.kind_node] at is
      obtain ⟨⟨kind, named⟩, rfl⟩ := is
      obtain ⟨original, found, same⟩ := (Option.any_eq_true _ _).mp named
      rw [Tree.importedNames, kind, found]
      cases (Tree.node label children).child? .alias with
      | none => exact congrArg (fun text => [text]) (beq_iff_eq.mp same)
      | some renamed => rfl
  | group inner, .node label children, is => by
      simp only [describes, Bool.and_eq_true, Tree.kind_node, List.contains_iff_mem] at is
      have all := (Tree.importedNamesOfAll_children (.node label children)).trans
        (importedNames_of_describeAll is.2)
      have kind := is.1
      simp only [groups, List.mem_cons, List.not_mem_nil, or_false] at kind
      rw [Tree.importedNames]
      rcases kind with kind | kind | kind | kind | kind <;> rw [kind] <;> exact all
  | origin, .node label children, is => by
      rw [describes, Bool.or_eq_true, Bool.and_eq_true, beq_iff_eq] at is
      rcases is with kind | ⟨-, bare⟩
      · have kind : label.kind = .string := kind
        rw [Tree.importedNames, kind]
        rfl
      · exact Tree.importedNames_eq_nil bare

theorem importedNames_of_describeAll : ∀ {parts : List ImportPart} {ts : List Tree},
    describeAll parts ts = true →
      ts.flatMap Tree.importedNames = (namesOfAll parts).filterMap WrittenName.word?
  | [], [], _ => rfl
  | part :: further, t :: ts, are => by
      rw [describeAll, Bool.and_eq_true] at are
      rw [List.flatMap_cons, namesOfAll, List.filterMap_append, importedNames_of_describes are.1,
        importedNames_of_describeAll are.2]

end

end ImportPart

/-! ## The order of a search -/

namespace Tree

/-- Whether a part of an import is itself the place of a local name. -/
def isLocalName (name : String) (t : Tree) : Bool :=
  match t.kind with
  | .importSpecifier => ((t.child? .alias).or (t.child? .name)).any (·.text == name)
  | .identifier => t.text == name
  | _ => false

/-- The parts of an import that are visited after one. -/
def opened (t : Tree) : List Tree :=
  match t.kind with
  | .importSpecifier | .identifier | .string => []
  | _ => t.namedChildren

theorem importBinds_eq (name : String) (t : Tree) :
    t.importBinds name = (t.isLocalName name || t.opened.any (importBinds name)) := by
  obtain ⟨label, children⟩ := t
  have among : someImportBinds name children =
      (children.filter (·.label.named)).any (importBinds name) := by
    rw [someImportBinds_eq, List.any_filter]
  rw [importBinds, isLocalName, opened, kind_node]
  generalize label.kind = kind
  split <;> simp [among, namedChildren]

theorem sizeAll_opened_lt (t : Tree) : sizeAll t.opened < t.size := by
  have all : sizeAll t.namedChildren < t.size := by
    rw [size_eq, Nat.add_comm]
    exact Nat.lt_succ_of_le (sizeAll_filter_le _ _)
  rw [opened]
  split
  all_goals first
    | exact size_pos t
    | exact all

/-- In which order the parts that a visited one opens and those that were left before are left to
be visited. -/
abbrev Arrangement : Type :=
  (opened others : List Tree) → { all : List Tree // all.Perm (opened ++ others) }

/-- A search for a name among parts of imports that are left to be visited, the first of them
next. -/
def searchBy (arrange : Arrangement) (name : String) : List Tree → Bool
  | [] => false
  | t :: others => t.isLocalName name || searchBy arrange name (arrange t.opened others).1
termination_by left => sizeAll left
decreasing_by
  rw [sizeAll_eq_of_perm (arrange t.opened others).2, sizeAll_append, sizeAll]
  exact Nat.add_lt_add_right (sizeAll_opened_lt t) _

theorem searchBy_eq (arrange : Arrangement) (name : String) (left : List Tree) :
    searchBy arrange name left = left.any (importBinds name) := by
  induction left using searchBy.induct arrange with
  | case1 => rw [searchBy]; rfl
  | case2 t others ih =>
      rw [searchBy, ih, List.any_cons, importBinds_eq, Bool.or_assoc]
      congr 1
      rw [(arrange t.opened others).2.any_eq, List.any_append]

end Tree

/-- **What patterns and imports bind.** A pattern is taken to bind exactly the names that stand
where it introduces one, at any depth, as they are written, whatever its keys, default values, types
and comments are; and an import exactly its local names as they are written, in whatever order it is
searched. These are the names that are meant exactly if none has an escape in it and the word
`undefined` has no kind of its own, or is among the other words too. -/
theorem binds_exactly_as_written {pattern : PatternPart} {parameters : Tree} {clause : ImportPart}
    {statement : Tree} (binding : pattern.describes parameters = true)
    (importing : clause.describes statement = true) :
    ((∀ name, parameters.patternBinds name = true ↔ WrittenName.word name ∈ pattern.names) ∧
      ((∀ name, parameters.patternBinds name = true ↔ name ∈ pattern.boundNames) ↔
        ∀ name ∈ pattern.names, name.isPlain pattern.names = true)) ∧
    (∀ name, statement.importBinds name = true ↔ WrittenName.word name ∈ clause.names) ∧
    (∀ arrange name, Tree.searchBy arrange name [statement] = statement.importBinds name) ∧
    ((∀ name, statement.importBinds name = true ↔ name ∈ clause.localNames) ↔
      ∀ name ∈ clause.names, name.isPlain clause.names = true) := by
  have bound (name : String) : parameters.patternBinds name = true ↔
      WrittenName.word name ∈ pattern.names := by
    rw [Tree.patternBinds_iff, pattern.boundNames_of_describes binding,
      WrittenName.mem_filterMap_word?_iff]
  have brought (name : String) : statement.importBinds name = true ↔
      WrittenName.word name ∈ clause.names := by
    rw [Tree.importBinds_iff, clause.importedNames_of_describes importing,
      WrittenName.mem_filterMap_word?_iff]
  refine ⟨⟨bound, ?_⟩, brought, fun arrange name => ?_, ?_⟩
  · rw [← WrittenName.forall_isPlain_iff]
    simp only [bound, PatternPart.boundNames]
  · rw [Tree.searchBy_eq, List.any_cons, List.any_nil, Bool.or_false]
  · rw [← WrittenName.forall_isPlain_iff]
    simp only [brought, ImportPart.localNames]

/-- The first node of a kind in a source text. -/
def firstNode? (kind : Kind) (source : String) : Option Tree :=
  (parse .plain source).tree.preorder.find? (·.kind == kind)

/-- Parameters of many forms. The name `n` is a type, a default value and a key. -/
def nestedSource : String :=
  "function f(this: n, [a = n, \x7b n: b, [n]: \x7b c \x7d, ...d \x7d]: n, e?: n, ...[g]) \x7b\x7d"

def nestedPart : PatternPart :=
  .parameters [.parameter .receiver,
    .parameter (.array [.defaulted (.name (.word "a")),
      .object [.keyed (.name (.word "b")), .keyed (.object [.name (.word "c")]),
        .rest (.name (.word "d"))]]),
    .parameter (.name (.word "e")), .parameter (.rest (.array [.name (.word "g")]))]

/-- An import of several names. The name `n` is one of the module and of an attribute. -/
def importingSource : String :=
  "import m, \x7b n as o, p, default as q \x7d from 'n' with \x7b n: 'n' \x7d;"

def importingPart : ImportPart :=
  .group [.group [.name "m",
    .group [.specifier "n" (some "o"), .specifier "p" none, .specifier "default" (some "q")]],
    .origin, .origin]

theorem binds_exactly_as_written_in_nested :
    ∃ list clause, firstNode? .formalParameters nestedSource = some list ∧
      firstNode? .importStatement importingSource = some clause ∧
      (∀ name, list.patternBinds name = true ↔ name ∈ ["a", "b", "c", "d", "e", "g"]) ∧
      ∀ name, clause.importBinds name = true ↔ name ∈ ["m", "o", "p", "q"] := by
  have patterned : (firstNode? .formalParameters nestedSource).any nestedPart.describes = true := by
    decide +kernel
  have imported : (firstNode? .importStatement importingSource).any importingPart.describes =
      true := by decide +kernel
  obtain ⟨list, isList, described⟩ := (Option.any_eq_true _ _).mp patterned
  obtain ⟨clause, isClause, imports⟩ := (Option.any_eq_true _ _).mp imported
  obtain ⟨⟨-, bindsNames⟩, -, -, bringsNames⟩ := binds_exactly_as_written described imports
  have bound : nestedPart.boundNames = ["a", "b", "c", "d", "e", "g"] := by decide +kernel
  have localNames : importingPart.localNames = ["m", "o", "p", "q"] := by decide +kernel
  refine ⟨list, clause, isList, isClause, ?_, ?_⟩
  · rw [← bound]
    exact bindsNames.mpr (by decide +kernel)
  · rw [← localNames]
    exact bringsNames.mpr (by decide +kernel)

/-- A parameter with the name `n`, written with an escape. -/
def escapedSource : String := "(\x7b \\u006e \x7d) => \x7b HERE; \x7d;"

def escapedPart : PatternPart := .parameters [.parameter (.object [.name (.word "\\u006e")])]

/-- The parameter is not taken to bind its name, which is not found from inside the function. -/
theorem escaped_name_not_bound :
    ∃ list site, firstNode? .formalParameters escapedSource = some list ∧
      identifier? escapedSource "HERE" = some site ∧ escapedPart.describes list = true ∧
      "n" ∈ escapedPart.boundNames ∧ list.patternBinds "n" = false ∧
      (site.lookup "n").isNone = true := by
  have patterned : (firstNode? .formalParameters escapedSource).any (fun list =>
      escapedPart.describes list && !list.patternBinds "n") = true := by decide +kernel
  have placed : (identifier? escapedSource "HERE").any (fun site => (site.lookup "n").isNone) =
      true := by decide +kernel
  obtain ⟨list, isList, holds⟩ := (Option.any_eq_true _ _).mp patterned
  obtain ⟨site, isSite, unseen⟩ := (Option.any_eq_true _ _).mp placed
  rw [Bool.and_eq_true, Bool.not_eq_true'] at holds
  exact ⟨list, site, isList, isSite, holds.1, by decide +kernel, holds.2, unseen⟩

end TypedQueries
