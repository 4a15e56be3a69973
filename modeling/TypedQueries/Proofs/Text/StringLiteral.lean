import TypedQueries.Text.Escape
import TypedQueries.Text.StringLiteral

/-! # String literals and what they denote

Between the quotes of a literal every character is written in one of three forms
(`StringLiteral.Written`). Whatever the value, reading the escapes gives it back
(`StringLiteral.decode_interior`), no quote is bare (`StringLiteral.inEscape_of_quote`), and
no character is below U+0020 (`StringLiteral.printable_interior`).
-/

namespace TypedQueries

namespace Escape

/-- Whether a text ends within an escape: its last character is a backslash that no
backslash before it escapes. -/
def inEscape (text : List Char) : Bool := text.foldl (fun within c => !within && c == '\\') false

/-- After a text that ends outside escapes, another is read as it is read alone. -/
theorem inEscape_append {first : List Char} (outside : inEscape first = false)
    (second : List Char) : inEscape (first ++ second) = inEscape second := by
  unfold inEscape at outside ⊢
  rw [List.foldl_append, outside]

theorem decode_cons_of_ne {c : Char} (plain : c ≠ '\\') (rest : List Char) :
    decode (c :: rest) = c :: decode rest := by
  rw [decode]
  intro _ _ same
  exact absurd same plain

end Escape

namespace StringLiteral

/-- The forms of a character between the quotes: a backslash with a sign for it, a
backslash with its code point, or the character itself. -/
inductive Written (c : Char) : List Char → Prop
  | signed (sign : Char) (printable : 0x20 ≤ sign.toNat)
      (denotes : ∀ rest, Escape.escape sign rest = ([c], rest)) : Written c ['\\', sign]
  | numbered (control : c.toNat < 0x20) :
      Written c ('\\' :: 'u' :: '0' :: '0' :: Hex.pair false c.toNat)
  | plain (noQuote : c ≠ '\x22') (noBackslash : c ≠ '\\') (printable : 0x20 ≤ c.toNat) :
      Written c [c]

theorem written_character (c : Char) : Written c (character c) := by
  unfold character
  -- Seven characters have a sign of their own.
  iterate 7
    split
    · next same => exact .signed _ (by decide) fun rest => by subst same; rfl
  split
  · next control => exact .numbered control
  · next noQuote noBackslash _ _ _ _ _ printable =>
      exact .plain noQuote noBackslash (Nat.le_of_not_lt printable)

/-- The two digits of a control character are read back as that character. -/
theorem escape_pair {c : Char} (control : c.toNat < 0x20) (rest : List Char) :
    Escape.escape 'u' ('0' :: '0' :: Hex.pair false c.toNat ++ rest) = ([c], rest) := by
  have digits : ∀ n < 0x20,
      Hex.readChar? ('0' :: '0' :: Hex.pair false n) = some (Char.ofNat n) ∧
        (String.ofList ('0' :: '0' :: Hex.pair false n)).utf8ByteSize = 4 := by decide
  obtain ⟨value, size⟩ := digits c.toNat control
  rw [Char.ofNat_toNat] at value
  change ([(if (String.ofList ('0' :: '0' :: Hex.pair false c.toNat)).utf8ByteSize = 4 then
    Hex.readChar? ('0' :: '0' :: Hex.pair false c.toNat) else none).getD Escape.replacement],
      rest) = _
  rw [if_pos size, value]
  rfl

namespace Written

variable {c : Char} {text : List Char}

theorem decode_append (written : Written c text) (rest : List Char) :
    Escape.decode (text ++ rest) = c :: Escape.decode rest := by
  cases written with
  | signed sign _ denotes =>
      rw [List.cons_append, List.singleton_append, Escape.decode, denotes]
      rfl
  | numbered control =>
      rw [List.cons_append, List.cons_append, Escape.decode, escape_pair control]
      rfl
  | plain _ noBackslash _ => rw [List.singleton_append, Escape.decode_cons_of_ne noBackslash]

/-- A form ends outside escapes. -/
theorem inEscape (written : Written c text) : Escape.inEscape text = false := by
  cases written with
  | signed sign _ _ => simp [Escape.inEscape]
  | numbered control =>
      have digits : ∀ n < 0x20,
          Escape.inEscape ('\\' :: 'u' :: '0' :: '0' :: Hex.pair false n) = false := by decide
      exact digits c.toNat control
  | plain _ noBackslash _ => simp [Escape.inEscape, noBackslash]

theorem printable (written : Written c text) : ∀ d ∈ text, 0x20 ≤ d.toNat := by
  cases written with
  | signed sign printable _ => simpa using printable
  | numbered control =>
      have digits : ∀ n < 0x20,
          ('\\' :: 'u' :: '0' :: '0' :: Hex.pair false n).all (0x20 ≤ ·.toNat) = true := by decide
      simpa only [List.all_eq_true, decide_eq_true_eq] using digits c.toNat control
  | plain _ _ printable => simpa using printable

/-- A quote in a form has the form's backslash right before it. -/
theorem inEscape_of_quote (written : Written c text) {before after : List Char}
    (split : text = before ++ '\x22' :: after) : Escape.inEscape before = true := by
  cases before with
  | nil =>
      cases written with
      | plain noQuote _ _ => exact absurd (List.cons.inj split).1 noQuote
      | _ => cases split
  | cons first before =>
      cases written with
      | signed sign _ _ =>
          obtain ⟨rfl, rest⟩ := List.cons.inj split
          cases before with
          | nil => rfl
          | cons _ before => simp at rest
      | numbered control =>
          have member : '\x22' ∈ '\\' :: 'u' :: '0' :: '0' :: Hex.pair false c.toNat := by
            simp [split]
          have digits : ∀ n < 0x20,
              '\x22' ∉ '\\' :: 'u' :: '0' :: '0' :: Hex.pair false n := by decide
          exact absurd member (digits c.toNat control)
      | plain _ _ _ => simp at split

end Written

/-- **Reading the escapes of a literal gives its value back.** -/
theorem decode_interior (value : List Char) : Escape.decode (interior value) = value := by
  induction value with
  | nil => simp [interior, Escape.decode]
  | cons c value ih =>
      change Escape.decode (character c ++ interior value) = c :: value
      rw [(written_character c).decode_append, ih]

theorem inEscape_interior (value : List Char) : Escape.inEscape (interior value) = false := by
  induction value with
  | nil => rfl
  | cons c value ih =>
      change Escape.inEscape (character c ++ interior value) = false
      rw [Escape.inEscape_append (written_character c).inEscape, ih]

theorem printable_interior {value : List Char} {d : Char} (member : d ∈ interior value) :
    0x20 ≤ d.toNat := by
  obtain ⟨c, -, member⟩ := List.mem_flatMap.mp member
  exact (written_character c).printable d member

/-- **No quote is bare.** Every quote between the quotes of a literal stands within an
escape. -/
theorem inEscape_of_quote {value before after : List Char}
    (split : interior value = before ++ '\x22' :: after) : Escape.inEscape before = true := by
  induction value generalizing before with
  | nil => simp [interior] at split
  | cons c value ih =>
      change character c ++ interior value = _ at split
      -- The quote is either past the form of the first character or within it.
      rcases List.append_eq_append_iff.mp split with ⟨further, rfl, rest⟩ | ⟨rest, form, tail⟩
      · rw [Escape.inEscape_append (written_character c).inEscape]
        exact ih rest
      · cases rest with
        | nil =>
            -- A text that begins with the quote would have it outside every escape.
            have first : Escape.inEscape [] = true := ih tail.symm
            cases first
        | cons d rest =>
            obtain ⟨rfl, -⟩ := List.cons.inj tail
            exact (written_character c).inEscape_of_quote form

theorem toList_quote (value : String) :
    (quote value).toList = '\x22' :: interior value.toList ++ ['\x22'] := by
  rw [quote, String.toList_ofList]

theorem quote_injective : Function.Injective quote := by
  intro first second same
  have texts := congrArg String.toList same
  rw [toList_quote, toList_quote] at texts
  have interiors := List.append_cancel_right (List.cons.inj texts).2
  have values := congrArg Escape.decode interiors
  rw [decode_interior, decode_interior] at values
  exact String.toList_inj.mp values

end StringLiteral

end TypedQueries
