import TypedQueries.Proofs.Query.Extraction
import TypedQueries.Proofs.Text.StringLiteral
import TypedQueries.Syntax.Parse

/-! # Query texts given as string literals

A string literal made from a text is read as that text: a query call whose first argument
is such a literal is reported with exactly this query text (`quote_read_back`).
-/

namespace TypedQueries

namespace LiteralText

theorem inner?_of_delimited {text : String} {first last : Char} {body : List Char}
    (delimited : text.toList = first :: body ++ [last]) (opening : first.utf8Size = 1)
    (closing : last.utf8Size = 1) : inner? text = some (String.ofList body) := by
  unfold inner?
  rw [delimited]
  cases body with
  | nil => simp [opening, closing]
  | cons second body =>
      have ends : (second :: (body ++ [last])).getLast (by simp) = last := by
        simp only [← List.cons_append, List.getLast_concat]
      have drops : (second :: (body ++ [last])).dropLast = second :: body := by
        rw [← List.cons_append, List.dropLast_concat]
      simp only [List.cons_append, ends, drops, opening, closing, and_self, if_true]

theorem inner?_quote (value : String) :
    inner? (StringLiteral.quote value) =
      some (String.ofList (StringLiteral.interior value.toList)) :=
  inner?_of_delimited (StringLiteral.toList_quote value) rfl rfl

/-- A string literal made from a text denotes that text. -/
theorem of?_quote {t : Tree} {value : String} (kind : t.kind = .string)
    (text : t.text = StringLiteral.quote value) : of? t = some (.cooked value) := by
  have bare : t.wrapped? = none := by rw [Tree.wrapped?, kind]
  have peeled : t.peel = t := by
    rw [Tree.peel]
    split
    · next inner found => rw [bare] at found; cases found
    · rfl
  rw [of?, peeled]
  simp only [kind, text, inner?_quote, Option.map_some]
  rw [Escape.decodeText, String.toList_ofList, StringLiteral.decode_interior, String.ofList_toList]

end LiteralText

namespace Site

theorem resolve_of_literal {call argument : Site} {further : List Site} {literal : LiteralText}
    (arguments : call.callArguments? = some (argument :: further))
    (denotes : LiteralText.of? argument.node = some literal) :
    ∃ query, call.resolve = .ok query ∧ query.sql = literal.text := by
  refine ⟨{ sql := literal.text, arguments := further.map (·.text),
            line := call.position.1, column := call.position.2 }, ?_, rfl⟩
  simp [resolve, arguments, resolveText, denotes, Except.map]

end Site

theorem mem_calls_extract {method : String} {file : Path} {call : Site} {query : QueryCall}
    (isCall : call.node.isQueryCall method = true) (resolved : call.resolve = .ok query) :
    query ∈ (extract method file call.top).calls := by
  rw [extract_eq]
  refine List.mem_filterMap.mpr ⟨call, List.mem_filter.mpr ⟨Site.mem_all_iff.mpr rfl, isCall⟩, ?_⟩
  rw [resolved]
  rfl

/-- **Writing and reading string literals are inverse.** A literal made from a text is one
line between two quotes, the second of which is the first that no escape takes. Reading
the escapes in between gives the text, so different texts have different literals, and a
query call whose first argument is the literal is reported with the text. -/
theorem quote_read_back (value : String) :
    (StringLiteral.quote value).toList =
      '\x22' :: StringLiteral.interior value.toList ++ ['\x22'] ∧
    (∀ before after, StringLiteral.interior value.toList = before ++ '\x22' :: after →
      Escape.inEscape before = true) ∧
    Escape.inEscape (StringLiteral.interior value.toList) = false ∧
    (∀ c ∈ StringLiteral.interior value.toList, c ≠ '\n' ∧ c ≠ '\r' ∧ 0x20 ≤ c.toNat) ∧
    Escape.decodeText (String.ofList (StringLiteral.interior value.toList)) = value ∧
    (∀ (method : String) (file : Path) (call argument : Site) (further : List Site),
      call.node.isQueryCall method = true → call.callArguments? = some (argument :: further) →
      argument.kind = .string → argument.text = StringLiteral.quote value →
        ∃ query, call.resolve = .ok query ∧ query.sql = value ∧
          query ∈ (extract method file call.top).calls) ∧
    Function.Injective StringLiteral.quote := by
  refine ⟨StringLiteral.toList_quote value, fun before after split =>
    StringLiteral.inEscape_of_quote split, StringLiteral.inEscape_interior _, ?_, ?_, ?_,
    StringLiteral.quote_injective⟩
  · intro c member
    have printable := StringLiteral.printable_interior member
    refine ⟨?_, ?_, printable⟩ <;> rintro rfl <;> exact absurd printable (by decide)
  · rw [Escape.decodeText, String.toList_ofList, StringLiteral.decode_interior,
      String.ofList_toList]
  · intro method file call argument further isCall arguments kind text
    obtain ⟨query, resolved, sql⟩ :=
      Site.resolve_of_literal arguments (LiteralText.of?_quote kind text)
    exact ⟨query, resolved, sql, mem_calls_extract isCall resolved⟩

/-- A quote in the text is escaped in the literal and read back in a call. -/
theorem quote_read_back_in_call :
    StringLiteral.interior "a\"b".toList = ['a', '\\'] ++ '\x22' :: ['b'] ∧
    Escape.inEscape ['a', '\\'] = true ∧ '\\' ∈ StringLiteral.interior "a\"b".toList ∧
    0x20 ≤ '\\'.toNat ∧
    ∃ call argument : Site, ∃ query : QueryCall,
      call.top = (parse .plain "db.query(\"a\\\"b\", 1);").tree ∧
      call.node.isQueryCall "query" = true ∧
      (∃ further, call.callArguments? = some (argument :: further)) ∧
      argument.kind = .string ∧ argument.text = StringLiteral.quote "a\"b" ∧
      call.resolve = .ok query ∧ query.sql = "a\"b" ∧
      query ∈ (extract "query" ⟨[]⟩ call.top).calls := by
  have split : StringLiteral.interior "a\"b".toList = ['a', '\\'] ++ '\x22' :: ['b'] := by decide
  have member : '\\' ∈ StringLiteral.interior "a\"b".toList := by decide
  obtain ⟨-, escaped, -, printable, -, read, -⟩ := quote_read_back "a\"b"
  have placed : (Site.all (parse .plain "db.query(\"a\\\"b\", 1);").tree).any (fun call =>
      call.node.isQueryCall "query" && call.callArguments?.any fun arguments =>
        arguments.head?.any fun argument =>
          argument.kind == .string && argument.text == StringLiteral.quote "a\"b") = true := by
    decide +kernel
  obtain ⟨call, inTree, holds⟩ := List.any_eq_true.mp placed
  obtain ⟨isCall, holds⟩ := Bool.and_eq_true_iff.mp holds
  obtain ⟨arguments, found, holds⟩ := (Option.any_eq_true _ _).mp holds
  obtain ⟨argument, first, holds⟩ := (Option.any_eq_true _ _).mp holds
  obtain ⟨kind, text⟩ := Bool.and_eq_true_iff.mp holds
  obtain ⟨further, rfl⟩ := List.head?_eq_some_iff.mp first
  obtain ⟨query, resolved, sql, reported⟩ :=
    read "query" ⟨[]⟩ call argument further isCall found (eq_of_beq kind) (eq_of_beq text)
  exact ⟨split, escaped _ _ split, member, (printable _ member).2.2, call, argument, query,
    Site.mem_all_iff.mp inTree, isCall, ⟨further, found⟩, eq_of_beq kind, eq_of_beq text,
    resolved, sql, reported⟩

end TypedQueries
