import Mathlib.Data.List.TakeWhile
import TypedQueries.Proofs.Query.LiteralArgument
import TypedQueries.Proofs.Query.Reading
import TypedQueries.Proofs.Text.MalformedEscapes

/-! # Line ends in literals

A file may be kept with line feeds or with carriage returns before them. What its literals denote
does not depend on this (`LiteralText.cooked_with_either_line_end`). In a string a line end is part
of a line continuation, which is read as nothing either way; in a template the carriage returns are
taken out before the escapes are read. No well-formed escape of a byte or of a code point contains
a line end or the backslash before one.
-/

namespace TypedQueries

/-- A text with a carriage return put before every line feed. -/
def returnFeeds (text : List Char) : List Char :=
  text.flatMap fun c => if c = '\n' then ['\r', '\n'] else [c]

section ReturnFeeds

variable {text : List Char}

@[simp] theorem returnFeeds_nil : returnFeeds [] = [] := rfl

@[simp] theorem returnFeeds_cons_feed (rest : List Char) :
    returnFeeds ('\n' :: rest) = '\r' :: '\n' :: returnFeeds rest := rfl

theorem returnFeeds_cons_of_ne {c : Char} (other : c ≠ '\n') (rest : List Char) :
    returnFeeds (c :: rest) = c :: returnFeeds rest := by
  rw [returnFeeds, List.flatMap_cons, if_neg other]
  rfl

theorem returnFeeds_append (first second : List Char) :
    returnFeeds (first ++ second) = returnFeeds first ++ returnFeeds second := List.flatMap_append

theorem returnFeeds_of_notMem (noFeed : '\n' ∉ text) : returnFeeds text = text := by
  induction text with
  | nil => rfl
  | cons c text ih =>
      rw [List.mem_cons, not_or] at noFeed
      rw [returnFeeds_cons_of_ne (Ne.symm noFeed.1), ih noFeed.2]

/-- A line end begins with no digit. -/
theorem any_isDigit_head?_returnFeeds (text : List Char) :
    (returnFeeds text).head?.any Char.isDigit = text.head?.any Char.isDigit := by
  cases text with
  | nil => rfl
  | cons c rest =>
      by_cases feed : c = '\n'
      · subst feed
        rfl
      · rw [returnFeeds_cons_of_ne feed]
        rfl

theorem normalizeLines_of_notMem (noReturn : '\r' ∉ text) :
    LiteralText.normalizeLines text = text := by
  induction text with
  | nil => rfl
  | cons c text ih =>
      rw [List.mem_cons, not_or] at noReturn
      rw [LiteralText.normalizeLines, ih noReturn.2]
      exact fun rest same _ => noReturn.1 same.symm

/-- Taking the carriage returns out of line ends undoes putting them in. -/
theorem normalizeLines_returnFeeds (noReturn : '\r' ∉ text) :
    LiteralText.normalizeLines (returnFeeds text) = text := by
  induction text with
  | nil => rfl
  | cons c text ih =>
      rw [List.mem_cons, not_or] at noReturn
      by_cases feed : c = '\n'
      · subst feed
        rw [returnFeeds_cons_feed, LiteralText.normalizeLines, ih noReturn.2]
      · rw [returnFeeds_cons_of_ne feed, LiteralText.normalizeLines, ih noReturn.2]
        exact fun rest same _ => noReturn.1 same.symm

end ReturnFeeds

namespace Escape

/-! ## Well-formed escapes of bytes and code points -/

theorem isSome_digit?_of_readFrom {digits : List Char} {value : Nat}
    (read : (Hex.readFrom value digits).isSome = true) :
    ∀ c ∈ digits, (Hex.digit? c).isSome = true := by
  induction digits generalizing value with
  | nil => exact fun c member => absurd member List.not_mem_nil
  | cons d digits ih =>
      obtain ⟨isDigit, further, rest⟩ := readFrom_cons_isSome read
      intro c member
      rcases List.mem_cons.mp member with rfl | member
      · exact isDigit
      · exact ih rest c member

/-- A well-formed escape is made of digits and braces. -/
theorem digit_or_brace_of_isWellFormed {mark : Char} {taken : List Char}
    (wellFormed : isWellFormed (mark :: taken) = true) :
    ∀ c ∈ taken, (Hex.digit? c).isSome = true ∨ c = '\x7b' ∨ c = '\x7d' := by
  rw [isWellFormed.eq_def] at wellFormed
  split at wellFormed
  · next rest same =>
      obtain ⟨rfl, rfl⟩ := List.cons.inj same
      rw [Bool.and_eq_true, Bool.and_eq_true, beq_iff_eq] at wellFormed
      obtain ⟨⟨closed, -⟩, number⟩ := wellFormed
      obtain ⟨digits, rfl⟩ := List.getLast?_eq_some_iff.mp closed
      rw [List.dropLast_concat] at number
      have read := isSome_digit?_of_readFrom (Option.isSome_of_any number)
      intro c member
      simp only [List.mem_cons, List.mem_append, List.not_mem_nil, or_false] at member
      rcases member with opening | digit | closing
      · exact Or.inr (Or.inl opening)
      · exact Or.inl (read c digit)
      · exact Or.inr (Or.inr closing)
  · next digits same =>
      obtain ⟨rfl, rfl⟩ := List.cons.inj same
      rw [Bool.and_eq_true, List.all_eq_true] at wellFormed
      exact fun c member => Or.inl (wellFormed.2 c member)
  · next digits unbraced same =>
      obtain ⟨rfl, rfl⟩ := List.cons.inj same
      rw [Bool.and_eq_true, List.all_eq_true] at wellFormed
      exact fun c member => Or.inl (wellFormed.2 c member)
  · cases wellFormed

/-- A well-formed escape contains no line end and no further backslash. -/
theorem notMem_of_isWellFormed {mark : Char} {taken : List Char}
    (wellFormed : isWellFormed (mark :: taken) = true) : '\n' ∉ taken ∧ '\\' ∉ taken := by
  have made := digit_or_brace_of_isWellFormed wellFormed
  exact ⟨fun member => absurd (made '\n' member) (by decide),
    fun member => absurd (made '\\' member) (by decide)⟩

theorem length_takeWhile_lt {p : Char → Bool} {text : List Char} {c : Char} (member : c ∈ text)
    (fails : p c = false) : (text.takeWhile p).length < text.length := by
  refine Nat.lt_of_le_of_ne (List.takeWhile_prefix p).length_le fun same => ?_
  have whole := List.takeWhile_eq_self_iff.mp ((List.takeWhile_prefix p).eq_of_length same)
  rw [whole c member] at fails
  cases fails

/-- A well-formed escape is in the text as a whole. -/
theorem length_taken_of_isWellFormed {mark : Char} {rest : List Char}
    (wellFormed : isWellFormed (mark :: rest.take (reach mark rest)) = true) :
    (rest.take (reach mark rest)).length = reach mark rest := by
  have opens {others : List Char} {count : Nat} (taken : rest.take count = '\x7b' :: others) :
      rest.head? = some '\x7b' := by
    rw [← List.take_append_drop count rest, taken]
    rfl
  rw [isWellFormed.eq_def] at wellFormed
  split at wellFormed
  · -- The closing brace is there, so it is not the end of the text that ends the escape.
    next braced same =>
      obtain ⟨rfl, taken⟩ := List.cons.inj same
      rw [Bool.and_eq_true, Bool.and_eq_true, beq_iff_eq] at wellFormed
      have closed : '\x7d' ∈ rest := List.mem_of_mem_take (i := reach 'u' rest) (by
        rw [taken]
        exact List.mem_cons_of_mem _ (List.mem_of_getLast? wellFormed.1.1))
      have short : reach 'u' rest ≤ rest.length := by
        rw [reach, if_pos (opens taken)]
        exact length_takeWhile_lt closed (by decide)
      rw [List.length_take, Nat.min_eq_left short]
  · next digits same =>
      obtain ⟨rfl, taken⟩ := List.cons.inj same
      rw [Bool.and_eq_true, beq_iff_eq] at wellFormed
      rw [taken, wellFormed.1]
      rfl
  · next digits unbraced same =>
      obtain ⟨rfl, taken⟩ := List.cons.inj same
      rw [Bool.and_eq_true, beq_iff_eq] at wellFormed
      have noBrace : rest.head? ≠ some '\x7b' := by
        intro opening
        obtain ⟨others, rfl⟩ := List.head?_eq_some_iff.mp opening
        rw [reach, if_pos opening, List.take_succ_cons] at taken
        exact unbraced _ taken.symm
      rw [taken, wellFormed.1, reach, if_neg noBrace]
  · cases wellFormed

/-- A well-formed escape is read alike before any text. -/
theorem escape_of_isWellFormed {mark : Char} {rest : List Char} (hex : mark = 'x' ∨ mark = 'u')
    (wellFormed : isWellFormed (mark :: rest.take (reach mark rest)) = true) (other : List Char) :
    escape mark (rest.take (reach mark rest) ++ other) = ((escape mark rest).1, other) := by
  have full := length_taken_of_isWellFormed wellFormed
  have whole := List.take_append_drop (reach mark rest) rest
  rcases hex with rfl | rfl
  · have alone := escape_byte_append full (rest.drop (reach 'x' rest))
    rw [whole] at alone
    rw [escape_byte_append full, alone]
  · have reaches : reach 'u' (rest.take (reach 'u' rest) ++ rest.drop (reach 'u' rest)) =
        (rest.take (reach 'u' rest)).length := by rw [whole, full]
    have alone := escape_codePoint_append reaches (rest.drop (reach 'u' rest))
    rw [whole] at alone
    rw [escape_codePoint_append reaches, alone]

/-! ## Reading the escapes -/

theorem inEscape_of_notMem {text : List Char} (free : '\\' ∉ text) : inEscape text = false := by
  induction text with
  | nil => rfl
  | cons c text ih =>
      rw [List.mem_cons, not_or] at free
      have first : inEscape [c] = false := beq_false_of_ne (Ne.symm free.1)
      rw [← List.singleton_append, inEscape_append first, ih free.2]

/-- Text after an escape that has no further backslash is outside of it. -/
theorem inEscape_escape_append {c : Char} {taken : List Char} (free : '\\' ∉ taken)
    (text : List Char) : inEscape ('\\' :: c :: (taken ++ text)) = inEscape text := by
  have outside : inEscape ('\\' :: c :: taken) = false := by
    rw [show '\\' :: c :: taken = ['\\', c] ++ taken from rfl, inEscape_append rfl,
      inEscape_of_notMem free]
  exact inEscape_append outside text

/-- In the place of an escape other than a line continuation there is the same with other line
ends. -/
theorem escape_returnFeeds {c : Char} {rest : List Char} (noFeed : c ≠ '\n')
    (noReturn : c ≠ '\r')
    (wellFormed : c = 'x' ∨ c = 'u' → isWellFormed (c :: rest.take (reach c rest)) = true) :
    escape c (returnFeeds rest) =
      ((escape c rest).1, returnFeeds (rest.drop (reach c rest))) := by
  by_cases hex : c = 'x' ∨ c = 'u'
  · have good := wellFormed hex
    have split : returnFeeds rest =
        rest.take (reach c rest) ++ returnFeeds (rest.drop (reach c rest)) := by
      rw [← returnFeeds_of_notMem (notMem_of_isWellFormed good).1, ← returnFeeds_append,
        List.take_append_drop]
    rw [split, escape_of_isWellFormed hex good]
  · obtain ⟨noByte, noCodePoint⟩ := not_or.mp hex
    rw [reach_of_single noByte noCodePoint noReturn, List.drop_zero]
    by_cases zero : c = '0'
    · subst zero
      rw [escape, escape, any_isDigit_head?_returnFeeds]
    · rw [escape_of_single noByte noCodePoint noReturn zero,
        escape_of_single noByte noCodePoint noReturn zero rest]

/-- Reading the escapes of a text of a string literal gives the same with other line ends. -/
theorem decode_returnFeeds {before text : List Char} (noReturn : '\r' ∉ text)
    (wellFormed : ∀ found ∈ occurrences before text, ¬found.IsMalformed)
    (continued : ∀ first last, text = first ++ '\n' :: last → inEscape first = true) :
    decode (returnFeeds text) = decode text := by
  -- By the escapes of the text; line feeds elsewhere would be kept with their returns.
  induction before, text using occurrences.induct with
  | case1 before => rfl
  | case2 before c rest ih =>
      rw [occurrences] at wellFormed
      rw [List.mem_cons, List.mem_cons, not_or, not_or] at noReturn
      have good : c = 'x' ∨ c = 'u' → isWellFormed (c :: rest.take (reach c rest)) = true := by
        intro hex
        have formed := wellFormed _ List.mem_cons_self
        exact Bool.of_not_eq_false fun malformed =>
          formed ⟨hex.imp (congrArg some) (congrArg some), malformed⟩
      have free : '\\' ∉ rest.take (reach c rest) := by
        by_cases hex : c = 'x' ∨ c = 'u'
        · exact (notMem_of_isWellFormed (good hex)).2
        · obtain ⟨noByte, noCodePoint⟩ := not_or.mp hex
          rw [reach_of_single noByte noCodePoint (Ne.symm noReturn.2.1)]
          exact List.not_mem_nil
      have later : decode (returnFeeds (rest.drop (reach c rest))) =
          decode (rest.drop (reach c rest)) := by
        refine ih (fun member => noReturn.2.2 (List.mem_of_mem_drop member))
          (fun found member => wellFormed found (List.mem_cons_of_mem _ member)) ?_
        intro first last split
        rw [← inEscape_escape_append free]
        refine continued _ last ?_
        rw [List.cons_append, List.cons_append, List.append_assoc, ← split, List.take_append_drop]
      rw [returnFeeds_cons_of_ne (by decide)]
      by_cases feed : c = '\n'
      · subst feed
        rw [returnFeeds_cons_feed, decode_escape, decode_escape]
        exact later
      · rw [returnFeeds_cons_of_ne feed, decode_escape, decode_escape,
          escape_returnFeeds feed (Ne.symm noReturn.2.1) good, escape_snd]
        exact congrArg _ later
  | case3 before c rest noEscape ih =>
      rw [occurrences] at wellFormed
      · have noFeed : c ≠ '\n' := by
          rintro rfl
          cases continued [] rest rfl
        by_cases bare : c = '\\'
        · -- A backslash that begins no escape is the last character.
          subst bare
          cases rest with
          | nil => rfl
          | cons d rest => exact absurd rfl (noEscape d rest rfl)
        · rw [returnFeeds_cons_of_ne noFeed, decode_cons_of_ne bare, decode_cons_of_ne bare]
          refine congrArg _ (ih (fun member => noReturn (List.mem_cons_of_mem _ member))
            wellFormed fun first last split => ?_)
          have outside : inEscape [c] = false := beq_false_of_ne bare
          rw [← inEscape_append outside, List.singleton_append]
          exact continued _ last (by rw [split]; rfl)
      · exact noEscape

end Escape

/-! ## Literals -/

/-- That an expression is a literal of a kind with a body between quotes or backticks, and without
substitutions. -/
structure Tree.IsLiteral (kind : Kind) (body : List Char) (t : Tree) : Prop where
  kind_eq : t.peel.kind = kind
  quoted : ∃ quote : Char, quote.utf8Size = 1 ∧ t.peel.text.toList = quote :: body ++ [quote]
  whole : t.peel.hasSubstitution = false

/-- A string within a tree, told by its text. -/
theorem Tree.exists_isLiteral_string (root : Tree) (body : List Char)
    (found : root.preorder.any (fun t =>
      t.kind == .string && t.text.toList == '\'' :: body ++ ['\'']) = true) :
    ∃ t ∈ root.preorder, t.IsLiteral .string body := by
  obtain ⟨t, member, holds⟩ := List.any_eq_true.mp found
  rw [Bool.and_eq_true, beq_iff_eq, beq_iff_eq] at holds
  obtain ⟨kind, text⟩ := holds
  have bare : t.peel = t := Tree.peel_of_bare (by rw [Tree.wrapped?, kind])
  refine ⟨t, member, ?_, ⟨'\'', rfl, ?_⟩, ?_⟩
  · rw [bare, kind]
  · rw [bare, text]
  · rw [bare, Tree.hasSubstitution, kind]
    rfl

namespace LiteralText

variable {body : List Char} {t t' : Tree}

theorem of?_of_string (literal : t.IsLiteral .string body) :
    of? t = some (.cooked (String.ofList (Escape.decode body))) := by
  obtain ⟨quote, size, text⟩ := literal.quoted
  rw [of?]
  simp only [literal.kind_eq, inner?_of_delimited text size size, Option.map_some,
    Escape.decodeText, String.toList_ofList]

theorem of?_of_template (literal : t.IsLiteral .templateString body) :
    of? t = some (.cooked (String.ofList (Escape.decode (normalizeLines body)))) := by
  obtain ⟨quote, size, text⟩ := literal.quoted
  have whole := literal.whole
  rw [Tree.hasSubstitution, literal.kind_eq, beq_self_eq_true, Bool.true_and] at whole
  rw [of?]
  simp only [literal.kind_eq, whole, inner?_of_delimited text size size, Option.map_some,
    String.toList_ofList]
  rfl

/-- **What a literal denotes does not depend on the line ends of its file.** A literal in a file
with line feeds and the same literal in the file with a carriage return before each of them denote
the same text: what the escapes of the body are read as. This is so of a string, all line feeds in
which are parts of line continuations, and of a template without substitutions, with well-formed
escapes anywhere in them. -/
theorem cooked_with_either_line_end {kind : Kind}
    (isText : kind = .string ∨ kind = .templateString)
    (literal : t.IsLiteral kind body) (literal' : t'.IsLiteral kind (returnFeeds body))
    (noReturn : '\r' ∉ body)
    (wellFormed : ∀ escape ∈ Escape.occurrences [] body, ¬escape.IsMalformed)
    (continued : kind = .string →
      ∀ before after, body = before ++ '\n' :: after → Escape.inEscape before = true) :
    of? t = some (.cooked (String.ofList (Escape.decode body))) ∧
      of? t' = some (.cooked (String.ofList (Escape.decode body))) := by
  rcases isText with rfl | rfl
  · rw [of?_of_string literal, of?_of_string literal',
      Escape.decode_returnFeeds noReturn wellFormed (continued rfl)]
    exact ⟨rfl, rfl⟩
  · rw [of?_of_template literal, of?_of_template literal', normalizeLines_returnFeeds noReturn,
      normalizeLines_of_notMem noReturn]
    exact ⟨rfl, rfl⟩

/-- A string over two lines, the second of which begins with an escape. -/
theorem continued_string_with_either_line_end :
    ∃ t ∈ (parse .plain "q('a\\\n\\x41')").tree.preorder,
      ∃ t' ∈ (parse .plain "q('a\\\r\n\\x41')").tree.preorder,
        of? t = some (.cooked "aA") ∧ of? t' = some (.cooked "aA") := by
  obtain ⟨t, member, literal⟩ := Tree.exists_isLiteral_string
    (parse .plain "q('a\\\n\\x41')").tree "a\\\n\\x41".toList (by decide +kernel)
  obtain ⟨t', member', literal'⟩ := Tree.exists_isLiteral_string
    (parse .plain "q('a\\\r\n\\x41')").tree (returnFeeds "a\\\n\\x41".toList)
    (by decide +kernel)
  have continued (before after : List Char)
      (split : "a\\\n\\x41".toList = before ++ '\n' :: after) :
      Escape.inEscape before = true := by
    have each : ∀ count < 7, "a\\\n\\x41".toList[count]? = some '\n' →
        Escape.inEscape ("a\\\n\\x41".toList.take count) = true := by decide
    have within : before.length < 7 := by
      have length : 7 = before.length + (after.length + 1) := by
        rw [← List.length_cons, ← List.length_append, ← split]
        rfl
      omega
    have escaped := each before.length within
    rw [split, List.getElem?_append_right le_rfl, Nat.sub_self, List.take_left] at escaped
    exact escaped rfl
  have read := cooked_with_either_line_end (Or.inl rfl) literal literal' (by decide)
    (by decide +kernel) fun _ => continued
  rw [show String.ofList (Escape.decode "a\\\n\\x41".toList) = "aA" by decide +kernel] at read
  exact ⟨t, member, t', member', read⟩

end LiteralText

end TypedQueries
