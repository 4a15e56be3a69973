import Mathlib.Dynamics.FixedPoints.Basic
import TypedQueries.Proofs.Syntax.Comments
import TypedQueries.Proofs.Text.StringLiteral
import TypedQueries.Query.Literal

/-! # Reading escapes shortens a text

What an escape denotes has fewer characters than the escape with its backslash
(`Escape.length_escape_le`), so a text in which there is an escape becomes shorter
(`Escape.length_decode_lt`), and any other stays as it is. Read again and again, every text comes
to one without escapes.
-/

namespace TypedQueries

/-- Lines that do not end with a carriage return and a line feed are kept. -/
theorem LiteralText.normalizeLines_of_not_infix {text : List Char}
    (single : ¬ ['\r', '\n'] <:+: text) : normalizeLines text = text := by
  induction text using normalizeLines.induct with
  | case1 => rfl
  | case2 rest => exact absurd ⟨[], rest, rfl⟩ single
  | case3 c rest apart ih =>
      rw [normalizeLines.eq_3 c rest apart, ih fun later => single (later.trans ⟨[c], [], by simp⟩)]

namespace Escape

/-- That there is no escape in a text: a backslash has nothing after it. -/
def Unescaped (text : List Char) : Prop :=
  ∀ before after, text = before ++ '\\' :: after → after = []

theorem unescaped_of_notMem {text : List Char} (plain : '\\' ∉ text) : Unescaped text := by
  rintro before after rfl
  exact absurd (List.mem_append_right before List.mem_cons_self) plain

theorem unescaped_nil : Unescaped [] := unescaped_of_notMem List.not_mem_nil

theorem unescaped_cons_iff {c : Char} {rest : List Char} :
    Unescaped (c :: rest) ↔ (c = '\\' → rest = []) ∧ Unescaped rest := by
  constructor
  · intro unescaped
    refine ⟨?_, fun before after whole => ?_⟩
    · rintro rfl
      exact unescaped [] rest rfl
    · exact unescaped (c :: before) after (congrArg (c :: ·) whole)
  · rintro ⟨single, unescaped⟩ before after whole
    cases before with
    | nil =>
        obtain ⟨same, rfl⟩ := List.cons.inj whole
        exact single same
    | cons first before => exact unescaped before after (List.cons.inj whole).2

theorem length_byte_le (rest : List Char) :
    (byte rest).1.length + (byte rest).2.length ≤ rest.length + 1 := by
  rw [byte]
  split
  · next c found =>
    -- One character is shown, or the mark and those that were taken.
    split <;>
      simp only [List.length_cons, List.length_nil, List.length_take, List.length_drop] <;> omega
  · simp only [List.length_cons, List.length_take, List.length_drop]
    omega

theorem length_codePoint_le (rest : List Char) :
    (codePoint rest).1.length + (codePoint rest).2.length ≤ rest.length + 1 := by
  have single : (codePoint rest).1.length = 1 := by
    rw [codePoint.eq_def]
    split <;> rfl
  have left := codePoint_length_le rest
  omega

/-- What an escape denotes, with the text after it, is shorter than the text with the escape. -/
theorem length_escape_le (c : Char) (rest : List Char) :
    (escape c rest).1.length + (escape c rest).2.length ≤ rest.length + 1 := by
  by_cases byteMark : c = 'x'
  · subst byteMark
    exact length_byte_le rest
  by_cases codePointMark : c = 'u'
  · subst codePointMark
    exact length_codePoint_le rest
  -- Every other escape denotes one character at most, and never reaches beyond the text.
  have left := escape_length_le c rest
  have few : (escape c rest).1.length ≤ 1 := by
    rw [escape.eq_def]
    split
    case h_7 => split <;> exact Nat.le_refl _
    case h_9 => split <;> exact Nat.zero_le _
    all_goals first
      | exact Nat.le_refl _
      | exact Nat.zero_le _
      | contradiction
  omega

theorem decode_cons_of_single {c : Char} {rest : List Char} (single : c = '\\' → rest = []) :
    decode (c :: rest) = c :: decode rest := by
  rw [decode]
  rintro next further same rfl
  cases single same

theorem decode_of_unescaped {text : List Char} (unescaped : Unescaped text) :
    decode text = text := by
  induction text with
  | nil => rw [decode]
  | cons c rest ih =>
      obtain ⟨single, unescaped⟩ := unescaped_cons_iff.mp unescaped
      rw [decode_cons_of_single single, ih unescaped]

/-- A text in which there is an escape becomes shorter. -/
theorem length_decode_lt {text : List Char} (escaped : ¬ Unescaped text) :
    (decode text).length < text.length := by
  induction text using decode.induct with
  | case1 => exact absurd unescaped_nil escaped
  | case2 c rest ih =>
      have further : (decode (escape c rest).2).length ≤ (escape c rest).2.length := by
        by_cases unescaped : Unescaped (escape c rest).2
        · rw [decode_of_unescaped unescaped]
        · exact Nat.le_of_lt (ih unescaped)
      have shortened := length_escape_le c rest
      rw [decode, List.length_append, List.length_cons, List.length_cons]
      omega
  | case3 c rest apart ih =>
      have single : c = '\\' → rest = [] := by
        rintro rfl
        cases rest with
        | nil => rfl
        | cons next rest => exact (apart next rest rfl rfl).elim
      rw [decode_cons_of_single single]
      refine Nat.succ_lt_succ (ih fun unescaped => ?_)
      exact escaped (unescaped_cons_iff.mpr ⟨single, unescaped⟩)

theorem decodeText_of_unescaped {raw : String} (unescaped : Unescaped raw.toList) :
    decodeText raw = raw := by
  rw [decodeText, decode_of_unescaped unescaped, String.ofList_toList]

theorem length_decodeText_lt {raw : String} (escaped : ¬ Unescaped raw.toList) :
    (decodeText raw).length < raw.length := by
  rw [decodeText, String.length_ofList, ← String.length_toList]
  exact length_decode_lt escaped

theorem decodeText_eq_self_iff {raw : String} : decodeText raw = raw ↔ Unescaped raw.toList := by
  refine ⟨fun same => ?_, decodeText_of_unescaped⟩
  by_contra escaped
  have shorter := length_decodeText_lt escaped
  rw [same] at shorter
  exact Nat.lt_irrefl _ shorter

/-- A text is read to the end after at most as many times as it has characters. -/
theorem exists_isFixedPt_iterate (raw : String) :
    ∃ n ≤ raw.length, Function.IsFixedPt decodeText (decodeText^[n] raw) := by
  induction length : raw.length using Nat.strong_induction_on generalizing raw with
  | h _ ih =>
      subst length
      by_cases unescaped : Unescaped raw.toList
      · exact ⟨0, Nat.zero_le _, decodeText_of_unescaped unescaped⟩
      · have shorter := length_decodeText_lt unescaped
        obtain ⟨n, few, fixed⟩ := ih _ shorter (decodeText raw) rfl
        exact ⟨n + 1, Nat.lt_of_le_of_lt few shorter, fixed⟩

/-- **Reading escapes shortens a text or leaves it.** No text becomes longer. A text stays as it is
exactly if each backslash in it is its last character, and any other has fewer characters
afterwards. So a text that is read again and again comes, after at most as many times as it has
characters, to one that stays as it is from then on. A string literal without backslashes denotes
what stands between its quotes, and so does a template without backslashes and substitutions in
which no line ends with a carriage return and a line feed. -/
theorem decodeText_shortens (raw : String) :
    (decodeText raw).length ≤ raw.length ∧
    (decodeText raw = raw ↔ Unescaped raw.toList) ∧
    (¬ Unescaped raw.toList → (decodeText raw).length < raw.length) ∧
    (∃ n ≤ raw.length, Unescaped (decodeText^[n] raw).toList ∧
      ∀ m ≥ n, decodeText^[m] raw = decodeText^[n] raw) ∧
    ('\\' ∉ raw.toList → decodeText raw = raw ∧
      ∀ t : Tree, LiteralText.inner? t.peel.text = some raw →
        (t.peel.kind = .string → LiteralText.of? t = some (.cooked raw)) ∧
        (t.peel.kind = .templateString → t.peel.hasSubstitution = false →
          ¬ ['\r', '\n'] <:+: raw.toList → LiteralText.of? t = some (.cooked raw))) := by
  refine ⟨?_, decodeText_eq_self_iff, length_decodeText_lt, ?_, fun plain => ?_⟩
  · by_cases unescaped : Unescaped raw.toList
    · rw [decodeText_of_unescaped unescaped]
    · exact Nat.le_of_lt (length_decodeText_lt unescaped)
  · obtain ⟨n, few, fixed⟩ := exists_isFixedPt_iterate raw
    refine ⟨n, few, decodeText_eq_self_iff.mp fixed, fun m later => ?_⟩
    obtain ⟨more, rfl⟩ := Nat.exists_eq_add_of_le' later
    rw [Function.iterate_add_apply]
    exact fixed.iterate more
  · have kept := decodeText_of_unescaped (unescaped_of_notMem plain)
    refine ⟨kept, fun t between => ⟨fun quoted => ?_, fun quoted whole single => ?_⟩⟩
    · rw [LiteralText.of?]
      simp only [quoted, between, Option.map_some, kept]
    · rw [Tree.hasSubstitution, quoted, beq_self_eq_true, Bool.true_and] at whole
      rw [LiteralText.of?]
      simp only [quoted, whole, between, Option.map_some]
      rw [LiteralText.normalizeLines_of_not_infix single]
      exact congrArg (fun text => some (LiteralText.cooked text)) kept

end Escape

end TypedQueries
