import TypedQueries.Syntax.Site
import TypedQueries.Text.Escape

/-! # Literal texts

The text an expression denotes when it is a string or a template, looked at through
parentheses and type assertions. A template with substitutions denotes its own source
text.
-/

namespace TypedQueries

namespace Tree

/-- The expression a value-preserving wrapper holds: its first named child, and for an
assertion in angle brackets, whose type comes first, its last. -/
def wrapped? (t : Tree) : Option Tree :=
  match t.kind with
  | .parenthesizedExpression | .asExpression | .satisfiesExpression | .nonNullExpression =>
      t.namedChildren.head?
  | .typeAssertion => t.namedChildren.getLast?
  | _ => none

theorem mem_children_of_wrapped? {t c : Tree} (h : t.wrapped? = some c) : c ∈ t.children := by
  unfold wrapped? at h
  split at h
  all_goals first
    | exact mem_children_of_mem_namedChildren (List.mem_of_head? h)
    | exact mem_children_of_mem_namedChildren (List.mem_of_getLast? h)
    | exact absurd h (by simp)

def peel (t : Tree) : Tree :=
  match _h : t.wrapped? with
  | some inner => peel inner
  | none => t
termination_by sizeOf t
decreasing_by exact sizeOf_lt_of_mem_children (mem_children_of_wrapped? (by assumption))

end Tree

namespace Site

/-- The place of the expression a value-preserving wrapper holds. -/
def wrapped? (site : Site) : Option Site :=
  match site.kind with
  | .parenthesizedExpression | .asExpression | .satisfiesExpression | .nonNullExpression =>
      site.namedChildren.head?
  | .typeAssertion => site.namedChildren.getLast?
  | _ => none

theorem mem_children_of_wrapped? {site c : Site} (h : site.wrapped? = some c) :
    c ∈ site.children := by
  unfold wrapped? at h
  split at h
  all_goals first
    | exact mem_children_of_mem_namedChildren (List.mem_of_head? h)
    | exact mem_children_of_mem_namedChildren (List.mem_of_getLast? h)
    | exact absurd h (by simp)

/-- The place of the expression within all wrappers. -/
def peel (site : Site) : Site :=
  match _h : site.wrapped? with
  | some inner => inner.peel
  | none => site
termination_by site.node.size
decreasing_by exact size_lt_of_mem_children (mem_children_of_wrapped? ‹_›)

end Site

/-- The text of a literal: what it denotes, or its source as it stands. -/
inductive LiteralText where
  | cooked (text : String)
  | verbatim (text : String)
deriving DecidableEq, Repr

namespace LiteralText

def text : LiteralText → String
  | cooked s => s
  | verbatim s => s

/-- The text between a first and a last character of one byte each. -/
def inner? (text : String) : Option String :=
  match text.toList with
  | first :: second :: rest =>
      if first.utf8Size = 1 ∧ ((second :: rest).getLast (by simp)).utf8Size = 1 then
        some (String.ofList (second :: rest).dropLast)
      else none
  | _ => none

/-- Line ends within templates are line feeds. -/
def normalizeLines : List Char → List Char
  | [] => []
  | '\r' :: '\n' :: rest => '\n' :: normalizeLines rest
  | c :: rest => c :: normalizeLines rest

/-- The text of an expression, if it is a literal. -/
def of? (t : Tree) : Option LiteralText :=
  let t := t.peel
  match t.kind with
  | .string => (inner? t.text).map fun raw => .cooked (Escape.decodeText raw)
  | .templateString =>
      if t.namedChildren.any (·.kind == .templateSubstitution) then some (.verbatim t.text)
      else
        (inner? t.text).map fun raw =>
          .cooked (String.ofList (Escape.decode (normalizeLines raw.toList)))
  | _ => none

end LiteralText

end TypedQueries
