import TypedQueries.Proofs.Text.WellFormedEscapes

/-! # Texts in plain ASCII

A text can be written between quotes in plain ASCII: quotes, backslashes and all characters that
are no printable ASCII become escapes of their UTF-16 code units (`Escape.asciiForm`), one of four
digits for a character below U+10000 and two, a high and a low surrogate, for any other. Escapes
are read one by one and a surrogate alone is no character, so that a pair is not read back: both
of its escapes become the replacement character (`Escape.decodeText_asciiForm`).
-/

namespace TypedQueries

namespace Escape

open Hex (Digit)

/-- The code units of a character in UTF-16. -/
def codeUnits (c : Char) : List Nat :=
  if c.toNat < 0x10000 then [c.toNat]
  else [0xD800 + (c.toNat - 0x10000) / 0x400, 0xDC00 + (c.toNat - 0x10000) % 0x400]

def unitDigits (upper : Bool) (unit : Nat) : List Digit :=
  [0x1000, 0x100, 0x10, 1].map fun weight =>
    ⟨⟨unit / weight % 16, Nat.mod_lt _ (by decide)⟩, upper⟩

/-- The escape of a code unit. -/
def unitEscape (upper : Bool) (unit : Nat) : List Char :=
  '\\' :: 'u' :: (unitDigits upper unit).map Digit.char

/-- Whether a character is no printable ASCII, or one of the quotes, or a backslash. -/
def isEscaped (quotes : List Char) (c : Char) : Bool :=
  c.toNat < 0x20 || 0x7F ≤ c.toNat || c == '\\' || quotes.contains c

/-- A text in plain ASCII, its hexadecimal digits in small or in capital letters. -/
def asciiForm (quotes : List Char) (upper : Bool) (text : List Char) : List Char :=
  text.flatMap fun c => if isEscaped quotes c then (codeUnits c).flatMap (unitEscape upper) else [c]

/-- What is read of a character in plain ASCII. -/
def asRead (c : Char) : List Char :=
  if c.toNat < 0x10000 then [c] else [replacement, replacement]

theorem number_unitDigits (upper : Bool) {unit : Nat} (small : unit < 0x10000) :
    Hex.number (unitDigits upper unit) = unit := by
  simp only [unitDigits, List.map_cons, List.map_nil, Hex.number_cons, List.length_cons,
    List.length_nil, Nat.div_one]
  simp only [Hex.number, List.map_nil, List.reverse_nil, Nat.ofDigits_nil]
  omega

/-- The escape of a code unit is read as the character of that number, if there is one. -/
theorem decode_unitEscape_append (upper : Bool) {unit : Nat} (small : unit < 0x10000)
    (rest : List Char) :
    decode (unitEscape upper unit ++ rest) =
      (Hex.char? unit).getD replacement :: decode rest := by
  refine (decode_escape 'u' ((unitDigits upper unit).map Digit.char ++ rest)).trans ?_
  rw [escape, codePoint_digits rfl, number_unitDigits upper small]
  rfl

theorem char?_toNat (c : Char) : Hex.char? c.toNat = some c := by
  rw [Hex.char?_of_isValidChar (n := c.toNat) c.valid, Char.ofNat_toNat]

/-- A surrogate is no character. -/
theorem char?_surrogate {unit : Nat} (low : 0xD800 ≤ unit) (high : unit < 0xE000) :
    Hex.char? unit = none := by
  rw [Hex.char?, dif_neg]
  intro scalar
  rcases scalar with below | ⟨above, -⟩
  · omega
  · omega

/-- The escapes of a character are read as that character where it has one code unit, else as two
replacement characters. -/
theorem decode_codeUnits_append (upper : Bool) (c : Char) (rest : List Char) :
    decode ((codeUnits c).flatMap (unitEscape upper) ++ rest) = asRead c ++ decode rest := by
  by_cases single : c.toNat < 0x10000
  · rw [codeUnits, if_pos single, asRead, if_pos single, List.flatMap_cons, List.flatMap_nil,
      List.append_nil, decode_unitEscape_append upper single, char?_toNat]
    rfl
  · have last : c.toNat < 0x110000 := by
      have scalar : c.toNat < 0xD800 ∨ 0xDFFF < c.toNat ∧ c.toNat < 0x110000 := c.valid
      omega
    have high : 0xD800 + (c.toNat - 0x10000) / 0x400 < 0xDC00 := by omega
    have low : 0xDC00 + (c.toNat - 0x10000) % 0x400 < 0xE000 := by omega
    rw [codeUnits, if_neg single, asRead, if_neg single, List.flatMap_cons, List.flatMap_cons,
      List.flatMap_nil, List.append_nil, List.append_assoc,
      decode_unitEscape_append upper (by omega), decode_unitEscape_append upper (by omega),
      char?_surrogate (by omega) (by omega), char?_surrogate (by omega) (by omega)]
    rfl

theorem decode_asciiForm (quotes : List Char) (upper : Bool) (text : List Char) :
    decode (asciiForm quotes upper text) = text.flatMap asRead := by
  induction text with
  | nil => rw [asciiForm, List.flatMap_nil, decode, List.flatMap_nil]
  | cons c text ih =>
      rw [asciiForm] at ih ⊢
      rw [List.flatMap_cons, List.flatMap_cons, ← ih]
      by_cases escaped : isEscaped quotes c = true
      · rw [if_pos escaped, decode_codeUnits_append]
      · rw [if_neg escaped, List.singleton_append]
        -- What stands for itself is printable ASCII and no backslash.
        simp only [isEscaped, Bool.or_eq_true, decide_eq_true_eq, beq_iff_eq, not_or] at escaped
        obtain ⟨⟨⟨-, ascii⟩, noBackslash⟩, -⟩ := escaped
        rw [decode_cons_of_ne noBackslash, asRead, if_pos (by omega)]
        rfl

/-- Reading changes a text exactly if it has a character of two code units. -/
theorem flatMap_asRead_eq_iff (text : List Char) :
    text.flatMap asRead = text ↔ ∀ c ∈ text, c.toNat < 0x10000 := by
  induction text with
  | nil => simp
  | cons c text ih =>
      rw [List.flatMap_cons, List.forall_mem_cons, asRead]
      by_cases single : c.toNat < 0x10000
      · rw [if_pos single, List.singleton_append, List.cons_inj_right, ih]
        simp only [single, true_and]
      · rw [if_neg single]
        constructor
        · intro same
          have first : replacement = c := (List.cons.inj same).1
          exact absurd (by rw [← first]; decide) single
        · intro all
          exact absurd all.1 single

/-- **What is read of a text in plain ASCII.** Every character below U+10000 is read back and every
other as two replacement characters, so that the text is read back exactly if all of it is below
U+10000. -/
theorem decodeText_asciiForm (quotes : List Char) (upper : Bool) (text : String) :
    decodeText (String.ofList (asciiForm quotes upper text.toList)) =
        String.ofList (text.toList.flatMap asRead) ∧
      (decodeText (String.ofList (asciiForm quotes upper text.toList)) = text ↔
        ∀ c ∈ text.toList, c.toNat < 0x10000) := by
  have read : decodeText (String.ofList (asciiForm quotes upper text.toList)) =
      String.ofList (text.toList.flatMap asRead) := by
    rw [decodeText, String.toList_ofList, decode_asciiForm]
  refine ⟨read, ?_⟩
  rw [read, ← flatMap_asRead_eq_iff]
  constructor
  · intro same
    exact String.ofList_injective (same.trans String.ofList_toList.symm)
  · intro same
    rw [same, String.ofList_toList]

/-- The quotes of string literals and templates. -/
def allQuotes : List Char := ['\'', '\x22', '\x60']

/-- Two texts of one character each, written apart and read as one text that is neither. -/
theorem decodeText_asciiForm_collapses :
    String.ofList (asciiForm allQuotes false "😀".toList) = "\\ud83d\\ude00" ∧
      String.ofList (asciiForm allQuotes false "😁".toList) = "\\ud83d\\ude01" ∧
      decodeText "\\ud83d\\ude00" = "\ufffd\ufffd" ∧ decodeText "\\ud83d\\ude01" = "\ufffd\ufffd" ∧
      "\ufffd\ufffd" ≠ "😀" ∧ "😀" ≠ "😁" := by
  have first : String.ofList (asciiForm allQuotes false "😀".toList) = "\\ud83d\\ude00" := by decide
  have second : String.ofList (asciiForm allQuotes false "😁".toList) = "\\ud83d\\ude01" := by decide
  refine ⟨first, second, ?_, ?_, by decide, by decide⟩
  · rw [← first, decodeText, String.toList_ofList, decode_asciiForm]
    decide
  · rw [← second, decodeText, String.toList_ofList, decode_asciiForm]
    decide

end Escape

end TypedQueries
