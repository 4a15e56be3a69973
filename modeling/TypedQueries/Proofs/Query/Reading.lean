import TypedQueries.Proofs.Query.Correspondence
import TypedQueries.Proofs.Query.Extraction

/-! # What a query call comes to

A query call comes to a text, or to the reason why that is unknown (`Site.outcome`), by what its
first argument is read as and, where that is a name, by what the initial value of the variable is
read as (`Site.reading`, `Site.consulted`). Calls at corresponding places come to the same exactly
if these expressions are read alike (`Site.Correspondence.outcome_eq_iff`).
-/

/-- Of lists related one by one, if one has a single item, so has the other. -/
theorem List.Forall₂.exists_of_map_eq_singleton {α β γ : Type} {related : α → β → Prop}
    {as : List α} {bs : List β} (each : List.Forall₂ related as bs) {value : α → γ} {result : γ}
    (only : as.map value = [result]) :
    ∃ a b, as = [a] ∧ bs = [b] ∧ value a = result ∧ related a b := by
  obtain ⟨a, rfl, same⟩ := List.map_eq_singleton_iff.mp only
  obtain ⟨b, rest, head, others, rfl⟩ := List.forall₂_cons_left_iff.mp each
  cases List.forall₂_nil_left_iff.mp others
  exact ⟨a, b, rfl, rfl, same, head⟩

namespace TypedQueries

theorem Kind.name_eq_comment {kind : Kind} : kind.name = "comment" ↔ kind = .comment := by
  cases kind <;> decide

namespace LiteralText

variable {t u : Tree}

theorem of?_string (kind : t.peel.kind = .string) :
    of? t = (inner? t.peel.text).map fun raw => .cooked (Escape.decodeText raw) := by
  rw [of?, kind]

theorem of?_templateString (kind : t.peel.kind = .templateString) :
    of? t =
      if t.peel.hasSubstitution then some (.verbatim t.peel.text)
      else
        (inner? t.peel.text).map fun raw =>
          .cooked (String.ofList (Escape.decode (normalizeLines raw.toList))) := by
  rw [of?, Tree.hasSubstitution, kind]
  rfl

theorem of?_eq_none (string : t.peel.kind ≠ .string) (template : t.peel.kind ≠ .templateString) :
    of? t = none := by
  rw [of?]
  split
  · contradiction
  · contradiction
  · rfl

/-- Corresponding literals have the same text, but for templates that stand for their source. -/
theorem of?_of_related {extra : Tree → Prop} {related : Tree → Tree → Prop}
    (alike : Tree.Correspondence extra related) (both : related t.peel u.peel)
    (template : t.peel.hasSubstitution = true → u.peel.text = t.peel.text) : of? u = of? t := by
  by_cases string : t.peel.kind = .string
  · rw [of?_string string, of?_string ((alike.kind_eq both).trans string),
      alike.text_eq_of_isWord both (by rw [string]; rfl)]
  by_cases quoted : t.peel.kind = .templateString
  · have text : u.peel.text = t.peel.text := by
      cases substitutes : t.peel.hasSubstitution with
      | true => exact template substitutes
      | false => exact alike.text_eq both (by rw [Tree.isSolid, quoted, substitutes]; rfl)
    rw [of?_templateString quoted, of?_templateString ((alike.kind_eq both).trans quoted),
      alike.hasSubstitution_eq both, text]
  · rw [of?_eq_none string quoted, of?_eq_none] <;> rwa [alike.kind_eq both]

end LiteralText

theorem Tree.peel_of_wrapped? {t inner : Tree} (found : t.wrapped? = some inner) :
    t.peel = inner.peel := by
  rw [peel]
  split
  · next other same => rw [Option.some.inj (found.symm.trans same)]
  · next bare => cases found.symm.trans bare

theorem Tree.peel_of_bare {t : Tree} (bare : t.wrapped? = none) : t.peel = t := by
  rw [peel]
  split
  · next inner found => cases found.symm.trans bare
  · rfl

namespace Site

/-- What an expression is read as: the text of a literal, a name, or a kind of node that is
neither. -/
inductive Reading where
  | text (sql : String)
  | name (identifier : String)
  | other (kind : String)
deriving DecidableEq, Repr

variable {site site' : Site}

theorem map_node_wrapped? (site : Site) : site.wrapped?.map (·.node) = site.node.wrapped? := by
  rw [wrapped?, Tree.wrapped?, ← map_node_namedChildren, List.head?_map, List.getLast?_map, kind]
  split <;> rfl

theorem peel_of_wrapped? {inner : Site} (found : site.wrapped? = some inner) :
    site.peel = inner.peel := by
  rw [peel]
  split
  · next other same => rw [Option.some.inj (found.symm.trans same)]
  · next bare => cases found.symm.trans bare

theorem peel_of_bare (bare : site.wrapped? = none) : site.peel = site := by
  rw [peel]
  split
  · next inner found => cases found.symm.trans bare
  · rfl

theorem node_peel (site : Site) : site.peel.node = site.node.peel := by
  induction site using peel.induct with
  | case1 site inner found ih =>
      have below := map_node_wrapped? site
      rw [found] at below
      rw [peel_of_wrapped? found, ih, Tree.peel_of_wrapped? below.symm]
  | case2 site bare =>
      have below := map_node_wrapped? site
      rw [bare] at below
      rw [peel_of_bare bare, Tree.peel_of_bare below.symm]

theorem top_peel (site : Site) : site.peel.top = site.top := by
  induction site using peel.induct with
  | case1 site inner found ih =>
      rw [peel_of_wrapped? found, ih,
        top_of_parent? (mem_children_iff.mp (mem_children_of_wrapped? found))]
  | case2 site bare => rw [peel_of_bare bare]

theorem wrapped?_of_isComment (comment : site.node.IsComment) : site.wrapped? = none := by
  rw [wrapped?, show site.kind = .comment from comment.kind]

/-- What an expression is read as. -/
def reading (site : Site) : Reading :=
  match LiteralText.of? site.node with
  | some literal => .text literal.text
  | none =>
      if site.peel.kind = .identifier then .name site.peel.text else .other site.peel.kind.name

/-- That an expression is read as it was before a change: no comment is taken for it, and a
template that stands for its own source has the source it had. -/
structure ReadsAlike (site site' : Site) : Prop where
  expression : site'.peel.kind = .comment → site.peel.kind = .comment
  template : site.peel.node.hasSubstitution = true → site'.peel.text = site.peel.text

instance (site site' : Site) : Decidable (ReadsAlike site site') :=
  decidable_of_iff
    ((site'.peel.kind = .comment → site.peel.kind = .comment) ∧
      (site.peel.node.hasSubstitution = true → site'.peel.text = site.peel.text))
    ⟨fun ⟨expression, template⟩ => ⟨expression, template⟩,
      fun ⟨expression, template⟩ => ⟨expression, template⟩⟩

theorem of?_node_eq_none {kind : Kind} (same : site.peel.kind = kind) (string : kind ≠ .string)
    (template : kind ≠ .templateString) : LiteralText.of? site.node = none := by
  have inside : site.node.peel.kind = kind := by
    rw [← node_peel]
    exact same
  exact LiteralText.of?_eq_none (inside ▸ string) (inside ▸ template)

theorem reading_of_identifier (kind : site.peel.kind = .identifier) :
    site.reading = .name site.peel.text := by
  rw [reading, of?_node_eq_none kind (by decide) (by decide)]
  exact if_pos kind

theorem reading_of_comment (kind : site.peel.kind = .comment) :
    site.reading = .other "comment" := by
  rw [reading, of?_node_eq_none kind (by decide) (by decide), kind]
  rfl

theorem reading_of_hasSubstitution (substitutes : site.peel.node.hasSubstitution = true) :
    site.reading = .text site.peel.text := by
  rw [node_peel] at substitutes
  obtain ⟨kind, -⟩ := Bool.and_eq_true_iff.mp substitutes
  rw [reading, LiteralText.of?_templateString (beq_iff_eq.mp kind), if_pos substitutes, text,
    node_peel]
  rfl

/-- Nothing but a comment is read as one. -/
theorem reading_eq_comment_iff : site.reading = .other "comment" ↔ site.peel.kind = .comment := by
  constructor
  · intro same
    rw [reading] at same
    split at same
    · cases same
    split at same
    · cases same
    · exact Kind.name_eq_comment.mp (Reading.other.inj same)
  · exact reading_of_comment

/-! ## What a query call comes to -/

/-- What an expression comes to by itself, where nothing declares a name. -/
def Reading.alone : Reading → Except UnresolvedReason String
  | .text sql => .ok sql
  | .name identifier => .error (.identifierNotFound identifier)
  | .other kind => .error (.notALiteral kind)

/-- What an expression comes to as the initial value of the variable with a name. -/
def Reading.asValueOf (name : String) : Reading → Except UnresolvedReason String
  | .text sql => .ok sql
  | .name identifier => .error (.chainedIdentifier name identifier)
  | .other kind => .error (.initializerNotALiteral name kind)

theorem Reading.alone_injective : Function.Injective alone := by
  intro first second same
  cases first <;> cases second <;> cases same <;> rfl

theorem Reading.asValueOf_injective (name : String) : Function.Injective (asValueOf name) := by
  intro first second same
  cases first <;> cases second <;> cases same <;> rfl

/-- The initial value of the variable an expression names. -/
def initialValue? (argument : Site) : Option Site :=
  if argument.peel.kind = .identifier then
    match argument.peel.lookup argument.peel.text with
    | some (.initialized value) => some value
    | _ => none
  else none

/-- The expressions that are read for the text of a query call: its first argument, and the
initial value of the variable named there. -/
def consulted (call : Site) : List Site :=
  match call.callArguments? with
  | some (argument :: _) => argument :: argument.initialValue?.toList
  | _ => []

/-- What a query call comes to: its text, or the reason why that is unknown. -/
def outcome (call : Site) : Except UnresolvedReason String := call.resolve.map (·.sql)

theorem outcome_eq (call : Site) :
    call.outcome =
      match call.callArguments? with
      | some (argument :: _) => argument.resolveText
      | _ => .error .noArguments := by
  rw [outcome, resolve]
  cases call.callArguments? with
  | none => rfl
  | some arguments =>
      cases arguments with
      | nil => rfl
      | cons argument rest =>
          dsimp only
          cases argument.resolveText <;> rfl

theorem resolveText_of_other (kind : site.peel.kind ≠ .identifier) :
    site.resolveText = site.reading.alone := by
  rw [resolveText, reading]
  cases LiteralText.of? site.node with
  | some literal => rfl
  | none =>
      dsimp only
      rw [if_pos (bne_iff_ne.mpr kind), if_neg kind]
      rfl

theorem resolveText_of_identifier (kind : site.peel.kind = .identifier) :
    site.resolveText =
      match site.peel.lookup site.peel.text with
      | none => .error (.identifierNotFound site.peel.text)
      | some .other => .error (.notAVariable site.peel.text)
      | some (.initialized value) => value.reading.asValueOf site.peel.text := by
  rw [resolveText, of?_node_eq_none kind (by decide) (by decide)]
  dsimp only
  rw [if_neg (by rw [kind]; decide)]
  cases site.peel.lookup site.peel.text with
  | none => rfl
  | some binding =>
      cases binding with
      | other => rfl
      | initialized value =>
          dsimp only
          rw [reading]
          cases LiteralText.of? value.node with
          | some literal => rfl
          | none =>
              simp only [beq_iff_eq]
              split <;> rfl

/-- A comment is what is found in the place of an expression exactly if it is one. -/
theorem resolveText_eq_comment_iff :
    site.resolveText = .error (.notALiteral "comment") ↔ site.peel.kind = .comment := by
  by_cases named : site.peel.kind = .identifier
  · rw [resolveText_of_identifier named, named]
    refine iff_of_false ?_ (by decide)
    split
    · exact fun same => by cases same
    · exact fun same => by cases same
    · next value _ =>
        cases value.reading <;> exact fun same => by cases same
  · rw [resolveText_of_other named, ← reading_eq_comment_iff]
    exact Reading.alone_injective.eq_iff (b := .other "comment")

theorem initialValue?_of_other (kind : site.peel.kind ≠ .identifier) :
    site.initialValue? = none :=
  if_neg kind

theorem top_of_callArguments? {call argument : Site} {arguments : List Site}
    (found : call.callArguments? = some arguments) (member : argument ∈ arguments) :
    argument.top = call.top := by
  rw [callArguments?] at found
  split at found
  · next list among =>
      split at found
      · obtain rfl := Option.some.inj found
        rw [top_of_parent? (parent?_of_mem_namedChildren (List.mem_filter.mp member).1),
          top_of_parent? (parent?_of_child? among)]
      · cases found
  · cases found

theorem top_of_firstArgument {call argument : Site}
    (first : argument ∈ call.callArguments?.bind List.head?) : argument.top = call.top := by
  obtain ⟨arguments, among, head⟩ := Option.bind_eq_some_iff.mp first
  exact top_of_callArguments? among (List.mem_of_head? head)

/-! ## Corresponding places -/

/-- That two expressions correspond within all wrappers, unless the second is a comment there. -/
def AlikeWithin (extra : Tree → Prop) (places : Site → Site → Prop) (site site' : Site) : Prop :=
  places site.peel site'.peel ∨ extra site'.peel.node

/-- That two lists of arguments hold related arguments, with comments in between. -/
structure ArgumentsAlike (extra : Tree → Prop) (values : Site → Site → Prop) (list list' : Site) :
    Prop where
  kind_eq : list'.kind = list.kind
  arguments : list.kind = .arguments →
    Interspersed (fun child => extra child.node)
      (fun child child' =>
        values child child' ∧ (child'.kind = .comment ↔ child.kind = .comment))
      list.namedChildren list'.namedChildren

theorem ArgumentsAlike.imp {extra : Tree → Prop} {values values' : Site → Site → Prop}
    {list list' : Site} (alike : ArgumentsAlike extra values list list')
    (weaker : ∀ value value', values value value' → values' value value') :
    ArgumentsAlike extra values' list list' where
  kind_eq := alike.kind_eq
  arguments kind := (alike.arguments kind).imp fun _ _ parts => parts.imp_left (weaker _ _)

/-- The arguments of two calls are related, with no comments in between. -/
theorem forall₂_callArguments? {extra : Tree → Prop} {values : Site → Site → Prop}
    (comment : ∀ t, extra t → t.IsComment)
    (lists : Option.Rel (ArgumentsAlike extra values) (site.child? .arguments)
      (site'.child? .arguments)) :
    Option.Rel (List.Forall₂ values) site.callArguments? site'.callArguments? := by
  rw [Site.callArguments?, Site.callArguments?]
  generalize site.child? .arguments = list at lists
  generalize site'.child? .arguments = list' at lists
  cases lists with
  | none => exact .none
  | @some list list' both =>
      dsimp only
      rw [both.kind_eq]
      by_cases arguments : list.kind = .arguments
      · rw [if_pos (beq_iff_eq.mpr arguments), if_pos (beq_iff_eq.mpr arguments)]
        refine .some (((both.arguments arguments).forall₂_filter (fun a b parts => ?_)
          fun b further => ?_).imp fun a b parts => parts.1)
        · rw [Bool.eq_iff_iff, bne_iff_ne, bne_iff_ne, Ne, Ne, parts.2]
        · rw [show b.kind = .comment from (comment b.node further).kind]
          rfl
      · rw [if_neg (mt beq_iff_eq.mp arguments), if_neg (mt beq_iff_eq.mp arguments)]
        exact .none

theorem forall₂_consulted {values : Site → Site → Prop}
    (arguments : Option.Rel (List.Forall₂ values) site.callArguments? site'.callArguments?)
    (initial : ∀ argument ∈ site.callArguments?.bind List.head?, ∀ argument',
      values argument argument' →
        Option.Rel values argument.initialValue? argument'.initialValue?) :
    List.Forall₂ values site.consulted site'.consulted := by
  rw [consulted, consulted]
  generalize site.callArguments? = arguments at arguments initial
  generalize site'.callArguments? = arguments' at arguments
  cases arguments with
  | none => exact .nil
  | some pairs =>
      cases pairs with
      | nil => exact .nil
      | @cons argument argument' rest rest' first _ =>
          have values := initial argument rfl argument' first
          refine .cons first ?_
          generalize argument.initialValue? = value at values
          generalize argument'.initialValue? = value' at values
          cases values with
          | none => exact .nil
          | some same => exact .cons same .nil

namespace Correspondence

variable {extra : Tree → Prop} {trees : Tree → Tree → Prop} {places : Site → Site → Prop}
  (alike : Correspondence extra trees places)

include alike

theorem wrapped? (both : places site site') :
    Option.Rel places site.wrapped? site'.wrapped? ∨
      ∃ inner, site'.wrapped? = some inner ∧ extra inner.node := by
  have named (kind : site.kind.takesValues = false) := alike.namedChildren both kind
  rw [Site.wrapped?, Site.wrapped?, alike.kind_eq both]
  generalize site.kind = kind at named
  split
  all_goals first
    | exact (named rfl).head?
    | exact (named rfl).getLast?
    | exact Or.inl .none

/-- The expressions within all wrappers correspond, unless the second is a comment. -/
theorem alikeWithin (both : places site site') : AlikeWithin extra places site site' := by
  induction site using peel.induct generalizing site' with
  | case1 site inner found ih =>
      rcases alike.wrapped? both with inside | ⟨inner', found', comment⟩
      · rw [found] at inside
        generalize found' : site'.wrapped? = within at inside
        cases inside with
        | some inside =>
            rw [AlikeWithin, peel_of_wrapped? found, peel_of_wrapped? found']
            exact ih inside
      · rw [AlikeWithin, peel_of_wrapped? found',
          peel_of_bare (wrapped?_of_isComment (alike.parts.comment comment))]
        exact Or.inr comment
  | case2 site bare =>
      rcases alike.wrapped? both with inside | ⟨inner', found', comment⟩
      · rw [bare] at inside
        generalize bare' : site'.wrapped? = within at inside
        cases inside with
        | none =>
            rw [AlikeWithin, peel_of_bare bare, peel_of_bare bare']
            exact Or.inl both
      · rw [AlikeWithin, peel_of_wrapped? found',
          peel_of_bare (wrapped?_of_isComment (alike.parts.comment comment))]
        exact Or.inr comment

theorem reading_eq_iff (within : AlikeWithin extra places site site') :
    site'.reading = site.reading ↔ ReadsAlike site site' := by
  rcases within with inside | comment
  · have nodes := alike.node inside
    constructor
    · intro same
      refine ⟨fun kind => alike.kind_eq inside ▸ kind, fun substitutes => ?_⟩
      rw [reading_of_hasSubstitution substitutes, reading_of_hasSubstitution
        ((alike.parts.hasSubstitution_eq nodes).trans substitutes)] at same
      exact Reading.text.inj same
    · intro readsAlike
      have literal : LiteralText.of? site'.node = LiteralText.of? site.node := by
        rw [node_peel, node_peel] at nodes
        refine LiteralText.of?_of_related alike.parts nodes ?_
        rw [← node_peel, ← node_peel]
        exact readsAlike.template
      rw [reading, reading, literal, alike.kind_eq inside]
      split
      · rfl
      split
      · next identifier =>
          exact congrArg Reading.name (alike.parts.text_eq_of_isWord nodes (by
            rw [show site.peel.node.kind = .identifier from identifier]; rfl))
      · rfl
  · have kind : site'.peel.kind = .comment := (alike.parts.comment comment).kind
    rw [reading_of_comment kind, eq_comm, reading_eq_comment_iff]
    constructor
    · intro already
      refine ⟨fun _ => already, fun substitutes => ?_⟩
      rw [Tree.hasSubstitution, show site.peel.node.kind = .comment from already] at substitutes
      cases substitutes
    · exact fun readsAlike => readsAlike.expression kind

/-- An expression and, where it names a variable, the variable's initial value tell what the
expression comes to. -/
theorem resolveText_eq_iff (within : AlikeWithin extra places site site')
    (declared : site.peel.kind = .identifier →
      DeclaredAlike site.peel.text places (AlikeWithin extra places))
    (spelled : site.top.Spelled) :
    site'.resolveText = site.resolveText ↔
      List.Forall₂ ReadsAlike (site :: site.initialValue?.toList)
        (site' :: site'.initialValue?.toList) := by
  rw [List.forall₂_cons]
  have reads := alike.reading_eq_iff within
  rcases within with inside | comment
  · by_cases named : site.peel.kind = .identifier
    · have named' : site'.peel.kind = .identifier := (alike.kind_eq inside).trans named
      have text : site'.peel.text = site.peel.text :=
        alike.parts.text_eq_of_isWord (alike.node inside)
          (by rw [show site.peel.node.kind = _ from named]; rfl)
      have readsAlike : ReadsAlike site site' := by
        rw [← reads, reading_of_identifier named, reading_of_identifier named', text]
      rw [resolveText_of_identifier named, resolveText_of_identifier named', initialValue?,
        initialValue?, if_pos named, if_pos named', text, and_iff_right readsAlike]
      have bound := alike.lookup (declared named) inside (top_peel site ▸ spelled)
      generalize site.peel.lookup site.peel.text = binding at bound
      generalize site'.peel.lookup site.peel.text = binding' at bound
      cases bound with
      | none => exact iff_of_true rfl .nil
      | some bound =>
          cases bound with
          | other => exact iff_of_true rfl .nil
          | initialized same =>
              dsimp only
              rw [(Reading.asValueOf_injective _).eq_iff, alike.reading_eq_iff same,
                Option.toList_some, Option.toList_some, List.forall₂_cons, and_iff_left .nil]
    · have named' : site'.peel.kind ≠ .identifier := alike.kind_eq inside ▸ named
      rw [resolveText_of_other named, resolveText_of_other named',
        Reading.alone_injective.eq_iff, reads, initialValue?_of_other named,
        initialValue?_of_other named', and_iff_left .nil]
  · have kind : site'.peel.kind = .comment := (alike.parts.comment comment).kind
    have named' : site'.peel.kind ≠ .identifier := by rw [kind]; decide
    rw [resolveText_of_other named', reading_of_comment kind, eq_comm, Reading.alone,
      resolveText_eq_comment_iff, initialValue?_of_other named']
    constructor
    · intro already
      have named : site.peel.kind ≠ .identifier := by rw [already]; decide
      rw [initialValue?_of_other named, ← reads, reading_of_comment kind,
        reading_of_comment already]
      exact ⟨rfl, .nil⟩
    · exact fun readsAlike => readsAlike.1.expression kind

/-- A variable named at corresponding places has related initial values. -/
theorem initialValue? {values : Site → Site → Prop} (inside : places site.peel site'.peel)
    (declared : site.peel.kind = .identifier → DeclaredAlike site.peel.text places values)
    (spelled : site.top.Spelled) :
    Option.Rel values site.initialValue? site'.initialValue? := by
  by_cases kind : site.peel.kind = .identifier
  · have kind' := (alike.kind_eq inside).trans kind
    have text : site'.peel.text = site.peel.text :=
      alike.parts.text_eq_of_isWord (alike.node inside)
        (by rw [show site.peel.node.kind = _ from kind]; rfl)
    have bound := alike.lookup (declared kind) inside (top_peel site ▸ spelled)
    rw [Site.initialValue?, if_pos kind, Site.initialValue?, if_pos kind', text]
    generalize site.peel.lookup site.peel.text = binding at bound
    generalize site'.peel.lookup site.peel.text = binding' at bound
    cases bound with
    | none => exact .none
    | some bound =>
        cases bound with
        | initialized same => exact .some same
        | other => exact .none
  · have kind' : site'.peel.kind ≠ .identifier := by
      rwa [alike.kind_eq inside]
    rw [initialValue?_of_other kind, initialValue?_of_other kind']
    exact .none

/-- What is consulted for two calls is related if the arguments are, and the initial values of the
variable that the first one names. -/
theorem forall₂_consulted {values : Site → Site → Prop}
    (arguments : Option.Rel (List.Forall₂ values) site.callArguments? site'.callArguments?)
    (inside : ∀ value value', values value value' → places value.peel value'.peel)
    (declared : ∀ argument ∈ site.callArguments?.bind List.head?,
      argument.peel.kind = .identifier → DeclaredAlike argument.peel.text places values)
    (spelled : site.top.Spelled) : List.Forall₂ values site.consulted site'.consulted := by
  refine Site.forall₂_consulted arguments fun argument first argument' same => ?_
  refine alike.initialValue? (inside argument argument' same) (declared argument first) ?_
  rwa [top_of_firstArgument first]

/-- Lists of arguments at corresponding places with corresponding arguments. -/
theorem argumentsAlike {list list' : Site} (both : places list list')
    (arguments : list.kind = .arguments →
      Interspersed (fun child => extra child.node) places list.namedChildren list'.namedChildren) :
    ArgumentsAlike extra places list list' where
  kind_eq := alike.kind_eq both
  arguments kind :=
    (arguments kind).imp fun child child' same => ⟨same, by rw [alike.kind_eq same]⟩

/-- Calls with corresponding arguments come to the same exactly if what is consulted for them is
read alike. -/
theorem outcome_eq_iff
    (lists : Option.Rel (ArgumentsAlike extra (AlikeWithin extra places)) (site.child? .arguments)
      (site'.child? .arguments))
    (declared : ∀ argument ∈ site.callArguments?.bind List.head?,
      argument.peel.kind = .identifier →
        DeclaredAlike argument.peel.text places (AlikeWithin extra places))
    (spelled : site.top.Spelled) :
    site'.outcome = site.outcome ↔ List.Forall₂ ReadsAlike site.consulted site'.consulted := by
  have lists := forall₂_callArguments? (fun _ => alike.parts.comment) lists
  rw [outcome_eq, outcome_eq, consulted, consulted]
  cases found : site.callArguments? with
  | none =>
      rw [found] at lists
      generalize site'.callArguments? = arguments' at lists
      cases lists
      exact iff_of_true rfl .nil
  | some arguments =>
      rw [found] at lists declared
      generalize site'.callArguments? = arguments' at lists
      cases lists with
      | some pairs =>
          cases pairs with
          | nil => exact iff_of_true rfl .nil
          | cons first rest =>
              refine alike.resolveText_eq_iff first (declared _ rfl) ?_
              rwa [top_of_callArguments? found List.mem_cons_self]

end Correspondence

end Site

/-! ## Query calls -/

/-- A node that corresponds to a query call is one. -/
theorem Tree.Correspondence.isQueryCall_eq {extra : Tree → Prop} {related : Tree → Tree → Prop}
    {t u : Tree} {method : String} (alike : Tree.Correspondence extra related) (both : related t u)
    (spelled : t.Spelled) : u.isQueryCall method = t.isQueryCall method := by
  rw [isQueryCall, isQueryCall, alike.kind_eq both]
  by_cases call : t.kind = .callExpression
  · have callees := alike.child? both (by rw [call]; rfl) .function
    refine congrArg _ (callees.with_found.any_eq fun callee callee' same => ?_)
    have called := spelled.child (mem_children_of_child? same.1)
    rw [alike.kind_eq same.2]
    by_cases member : callee.kind = .memberExpression
    · have object : (callee'.child? .object).any (·.kind == .identifier) =
          (callee.child? .object).any (·.kind == .identifier) :=
        (alike.child? same.2 (by rw [member]; rfl) .object).any_eq
          fun _ _ objects => by rw [alike.kind_eq objects]
      have property (part : Tree) (kind : part.kind = .memberExpression) :
          part.child? .property = part.namePart? := by
        rw [Tree.namePart?, kind]
      rw [object, property callee member,
        property callee' ((alike.kind_eq same.2).trans member),
        alike.any_namePart? same.2 called]
    · rw [beq_false_of_ne member]
      rfl
  · rw [beq_false_of_ne call]
    rfl

end TypedQueries
