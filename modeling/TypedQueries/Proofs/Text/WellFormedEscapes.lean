import Mathlib.Data.Nat.Digits.Defs
import TypedQueries.Proofs.Text.StringLiteral

/-! # Texts with well-formed escapes

A text between quotes that follows the grammar of string literals is a sequence of pieces
(`Escape.Piece`): characters that stand for themselves and escapes of all the well-formed kinds.
Each piece has a value of its own, and reading the escapes of a sequence of pieces gives the
values one after the other (`Escape.decodeText_pieces`): no piece takes anything of what comes
after it. Two kinds of piece end only where the next character allows it
(`Escape.Piece.EndsBefore`).
-/

namespace TypedQueries

namespace Hex

/-- A hexadecimal digit, written as a small or a capital letter where it is one. -/
structure Digit where
  value : Fin 16
  upper : Bool
deriving DecidableEq, Repr

def Digit.char (d : Digit) : Char := digit d.upper d.value

/-- The number that digits stand for, the first of them counting most. -/
def number (digits : List Digit) : Nat := Nat.ofDigits 16 (digits.map (·.value.val)).reverse

theorem number_cons (d : Digit) (digits : List Digit) :
    number (d :: digits) = number digits + 16 ^ digits.length * d.value := by
  rw [number, List.map_cons, Nat.ofDigits_reverse_cons, List.length_map]
  rfl

theorem digit?_char (d : Digit) : digit? d.char = some d.value.val := by
  have all : ∀ (value : Fin 16) (upper : Bool),
      digit? (digit upper value) = some value.val := by decide
  exact all d.value d.upper

theorem Digit.char_ne {c : Char} (other : digit? c = none) (d : Digit) : d.char ≠ c := by
  intro same
  have isDigit := digit?_char d
  rw [same, other] at isDigit
  cases isDigit

theorem Digit.utf8Size_char (d : Digit) : d.char.utf8Size = 1 := by
  have all : ∀ (value : Fin 16) (upper : Bool), (digit upper value).utf8Size = 1 := by decide
  exact all d.value d.upper

theorem utf8ByteSize_digits (digits : List Digit) :
    (String.ofList (digits.map Digit.char)).utf8ByteSize = digits.length := by
  induction digits with
  | nil => rfl
  | cons d digits ih =>
      rw [List.map_cons, String.ofList_cons, String.utf8ByteSize_append,
        String.utf8ByteSize_singleton, d.utf8Size_char, ih, List.length_cons, Nat.add_comm]

theorem readFrom_digits (value : Nat) (digits : List Digit) :
    readFrom value (digits.map Digit.char) =
      some (number digits + 16 ^ digits.length * value) := by
  induction digits generalizing value with
  | nil => simp [readFrom, number]
  | cons d digits ih =>
      rw [List.map_cons, readFrom, digit?_char]
      dsimp only
      rw [ih, number_cons, List.length_cons]
      congr 1
      ring

/-- Digits are read as the character of their number, if there is one. -/
theorem readChar?_digits {digits : List Digit} (some : digits ≠ []) :
    readChar? (digits.map Digit.char) = char? (number digits) := by
  obtain ⟨d, digits, rfl⟩ := List.exists_cons_of_ne_nil some
  have read : read? ((d :: digits).map Digit.char) = .some (number (d :: digits)) := by
    have plus : d.char ≠ '+' := d.char_ne (by decide)
    have value := readFrom_digits 0 (d :: digits)
    rw [List.map_cons] at value ⊢
    rw [read?]
    · rw [value, Nat.mul_zero, Nat.add_zero]
    · exact fun same _ => plus same
    · exact fun _ _ same _ => plus same
  rw [readChar?, read, Option.bind_some]

theorem char?_of_isValidChar {n : Nat} (scalar : n.isValidChar) :
    char? n = some (Char.ofNat n) := by
  rw [char?, dif_pos scalar, Char.ofNat, dif_pos scalar]

end Hex

namespace Escape

open Hex (Digit)

theorem decode_escape (c : Char) (rest : List Char) :
    decode ('\\' :: c :: rest) = (escape c rest).1 ++ decode (escape c rest).2 := by
  rw [decode]

/-- Two digits after the mark of a byte are read as its character. -/
theorem byte_digits (first second : Digit) (rest : List Char) :
    byte (first.char :: second.char :: rest) =
      ([Char.ofNat (Hex.number [first, second])], rest) := by
  have scalar : (Hex.number [first, second]).isValidChar := by
    have small := first.value.isLt
    have small' := second.value.isLt
    rw [Hex.number_cons, Hex.number_cons]
    refine Or.inl ?_
    simp only [Hex.number, List.map_nil, List.reverse_nil, Nat.ofDigits_nil, List.length_cons,
      List.length_nil]
    omega
  have read := Hex.readChar?_digits (List.cons_ne_nil first [second])
  rw [Hex.char?_of_isValidChar scalar] at read
  have size : (String.ofList ([first, second].map Digit.char)).utf8ByteSize = 2 :=
    Hex.utf8ByteSize_digits [first, second]
  have taken : (first.char :: second.char :: rest).take 2 = [first, second].map Digit.char := rfl
  rw [byte, taken, read]
  dsimp only
  rw [if_pos size]
  rfl

/-- Four digits after the mark of a code point are read as its character, if there is one. -/
theorem codePoint_digits {digits : List Digit} (four : digits.length = 4) (rest : List Char) :
    codePoint (digits.map Digit.char ++ rest) =
      ([(Hex.char? (Hex.number digits)).getD replacement], rest) := by
  have some : digits ≠ [] := by
    rintro rfl
    cases four
  have taken : (digits.map Digit.char ++ rest).take 4 = digits.map Digit.char :=
    List.take_left' (by rw [List.length_map, four])
  have left : (digits.map Digit.char ++ rest).drop 4 = rest :=
    List.drop_left' (by rw [List.length_map, four])
  rw [codePoint]
  · rw [taken, left, if_pos ((Hex.utf8ByteSize_digits digits).trans four),
      Hex.readChar?_digits some]
  · obtain ⟨d, digits, rfl⟩ := List.exists_cons_of_ne_nil some
    intro _ same
    exact d.char_ne (by decide) (List.cons.inj same).1

/-- Digits in braces after the mark of a code point are read as its character, if there is
one. -/
theorem codePoint_braced {digits : List Digit} (some : digits ≠ []) (rest : List Char) :
    codePoint ('\x7b' :: (digits.map Digit.char ++ '\x7d' :: rest)) =
      ([(Hex.char? (Hex.number digits)).getD replacement], rest) := by
  have within : ∀ c ∈ digits.map Digit.char, (c != '\x7d') = true := by
    intro c member
    obtain ⟨d, -, rfl⟩ := List.mem_map.mp member
    exact bne_iff_ne.mpr (d.char_ne (by decide))
  have taken : (digits.map Digit.char ++ '\x7d' :: rest).takeWhile (· != '\x7d') =
      digits.map Digit.char := by
    rw [List.takeWhile_append_of_pos within, List.takeWhile_cons_of_neg (by decide),
      List.append_nil]
  rw [codePoint, taken, Hex.readChar?_digits some, ← List.drop_drop, List.drop_left,
    List.drop_succ_cons, List.drop_zero]

/-! ## Pieces -/

/-- The letters that stand for a control character after a backslash. -/
def controls : List (Char × Char) :=
  [('n', '\n'), ('t', '\t'), ('r', '\r'), ('b', '\x08'), ('f', '\x0c'), ('v', '\x0b')]

/-- Whether a character stands for itself after a backslash. -/
def isOrdinary (c : Char) : Bool :=
  !(c.isDigit ||
    ['n', 't', 'r', 'b', 'f', 'v', 'x', 'u', '\n', '\r', '\u2028', '\u2029'].contains c)

inductive LineEnd where
  | feed | returnFeed | return
deriving DecidableEq, Repr

def LineEnd.text : LineEnd → List Char
  | feed => ['\n']
  | returnFeed => ['\r', '\n']
  | .return => ['\r']

/-- A piece of a text: a character other than a backslash, or a well-formed escape. -/
inductive Piece where
  | plain (c : Char) (bare : c ≠ '\\')
  | control (letter value : Char) (listed : (letter, value) ∈ controls)
  | null
  | byte (first second : Digit)
  | codePoint (digits : List Digit) (four : digits.length = 4)
      (scalar : (Hex.number digits).isValidChar)
  | braced (digits : List Digit) (some : digits ≠ []) (scalar : (Hex.number digits).isValidChar)
  | continuation (lineEnd : LineEnd)
  | itself (c : Char) (ordinary : isOrdinary c = true)

namespace Piece

/-- How a piece is written. -/
def source : Piece → List Char
  | plain c _ => [c]
  | control letter _ _ => ['\\', letter]
  | null => ['\\', '0']
  | byte first second => ['\\', 'x', first.char, second.char]
  | codePoint digits _ _ => '\\' :: 'u' :: digits.map Digit.char
  | braced digits _ _ => '\\' :: 'u' :: '\x7b' :: (digits.map Digit.char ++ ['\x7d'])
  | continuation lineEnd => '\\' :: lineEnd.text
  | itself c _ => ['\\', c]

/-- What a piece stands for. -/
def value : Piece → List Char
  | plain c _ => [c]
  | control _ value _ => [value]
  | null => ['\x00']
  | byte first second => [Char.ofNat (Hex.number [first, second])]
  | codePoint digits _ _ => [Char.ofNat (Hex.number digits)]
  | braced digits _ _ => [Char.ofNat (Hex.number digits)]
  | continuation _ => []
  | itself c _ => [c]

/-- That a piece ends before a text: no digit comes after the escape of the null character, and
no line feed after a line continuation by a carriage return. -/
def EndsBefore : Piece → List Char → Prop
  | null, rest => rest.head?.any Char.isDigit = false
  | continuation .return, rest => rest.head? ≠ some '\n'
  | _, _ => True

instance decidableEndsBefore (rest : List Char) :
    (piece : Piece) → Decidable (piece.EndsBefore rest)
  | null => inferInstanceAs (Decidable (rest.head?.any Char.isDigit = false))
  | continuation .return => inferInstanceAs (Decidable (rest.head? ≠ some '\n'))
  | plain .. | control .. | byte .. | codePoint .. | braced .. | itself ..
  | continuation .feed | continuation .returnFeed => isTrue trivial

/-- A piece before a text is read as its value, and the text as it is read alone. -/
theorem decode_append {piece : Piece} {rest : List Char} (ends : piece.EndsBefore rest) :
    decode (piece.source ++ rest) = piece.value ++ decode rest := by
  cases piece with
  | plain c bare => exact decode_cons_of_ne bare rest
  | control letter value listed =>
      have escaped : escape letter rest = ([value], rest) := by
        simp only [controls, List.mem_cons, Prod.mk.injEq, List.not_mem_nil, or_false] at listed
        rcases listed with ⟨rfl, rfl⟩ | ⟨rfl, rfl⟩ | ⟨rfl, rfl⟩ | ⟨rfl, rfl⟩ | ⟨rfl, rfl⟩ |
          ⟨rfl, rfl⟩
        all_goals rfl
      exact (decode_escape letter rest).trans (by rw [escaped]; rfl)
  | null =>
      have escaped : escape '0' rest = (['\x00'], rest) := by
        have noDigit : rest.head?.any Char.isDigit = false := ends
        rw [escape, noDigit]
        rfl
      exact (decode_escape '0' rest).trans (by rw [escaped]; rfl)
  | byte first second =>
      refine (decode_escape 'x' (first.char :: second.char :: rest)).trans ?_
      rw [escape, byte_digits]
      rfl
  | codePoint digits four scalar =>
      refine (decode_escape 'u' (digits.map Digit.char ++ rest)).trans ?_
      rw [escape, codePoint_digits four, Hex.char?_of_isValidChar scalar]
      rfl
  | braced digits some scalar =>
      have whole : (braced digits some scalar).source ++ rest =
          '\\' :: 'u' :: '\x7b' :: (digits.map Digit.char ++ '\x7d' :: rest) := by
        simp [source]
      rw [whole, decode_escape, escape, codePoint_braced some, Hex.char?_of_isValidChar scalar]
      rfl
  | continuation lineEnd =>
      cases lineEnd with
      | feed => exact decode_escape '\n' rest
      | returnFeed => exact decode_escape '\r' ('\n' :: rest)
      | «return» =>
          have escaped : escape '\r' rest = ([], rest) := by
            have noFeed : rest.head? ≠ some '\n' := ends
            cases rest with
            | nil => rfl
            | cons c rest =>
                rw [escape]
                intro _ same
                exact noFeed (by rw [same]; rfl)
          exact (decode_escape '\r' rest).trans (by rw [escaped]; rfl)
  | itself c ordinary =>
      have escaped : escape c rest = ([c], rest) := by
        rw [escape]
        all_goals
          rintro rfl
          exact absurd ordinary (by decide)
      exact (decode_escape c rest).trans (by rw [escaped]; rfl)

end Piece

/-- That each of some pieces before a text ends before those after it and the text. -/
def Ending (rest : List Char) : List Piece → Prop
  | [] => True
  | piece :: pieces =>
      piece.EndsBefore (pieces.flatMap Piece.source ++ rest) ∧ Ending rest pieces

instance decidableEnding (rest : List Char) : (pieces : List Piece) → Decidable (Ending rest pieces)
  | [] => isTrue trivial
  | piece :: pieces =>
      have := decidableEnding rest pieces
      inferInstanceAs (Decidable (piece.EndsBefore _ ∧ Ending rest pieces))

/-- Pieces before a text are read as their values, and the text as it is read alone. -/
theorem decode_pieces_append {rest : List Char} {pieces : List Piece} (ends : Ending rest pieces) :
    decode (pieces.flatMap Piece.source ++ rest) = pieces.flatMap Piece.value ++ decode rest := by
  induction pieces with
  | nil => rfl
  | cons piece pieces ih =>
      rw [List.flatMap_cons, List.flatMap_cons, List.append_assoc, List.append_assoc,
        Piece.decode_append ends.1, ih ends.2]

/-- **Well-formed escapes are read piece by piece.** What a sequence of pieces denotes is what the
pieces stand for, one after the other. -/
theorem decodeText_pieces (pieces : List Piece) (ends : Ending [] pieces) :
    decodeText (String.ofList (pieces.flatMap Piece.source)) =
      String.ofList (pieces.flatMap Piece.value) := by
  have whole := decode_pieces_append ends
  rw [List.append_nil, decode, List.append_nil] at whole
  rw [decodeText, String.toList_ofList, whole]

/-- Pieces with no room between them: each would take part of the next if it could. -/
def crowded : List Piece :=
  [.null, .itself '\'' (by decide), .null, .byte ⟨4, false⟩ ⟨1, false⟩, .plain 'B' (by decide),
    .codePoint [⟨0, false⟩, ⟨0, false⟩, ⟨4, false⟩, ⟨3, false⟩] rfl (by decide),
    .plain '4' (by decide),
    .braced [⟨0, false⟩, ⟨0, false⟩, ⟨1, false⟩, ⟨15, true⟩, ⟨6, false⟩, ⟨0, false⟩, ⟨0, false⟩]
      (by decide) (by decide),
    .plain '\x7d' (by decide), .continuation .return, .control 'n' '\n' (by decide),
    .continuation .feed, .plain '\n' (by decide), .itself '\\' (by decide), .plain 'n' (by decide)]

theorem decodeText_crowded :
    Ending [] crowded ∧
      decodeText "\\0\\'\\0\\x41B\\u00434\\u\x7b001F600\x7d\x7d\\\r\\n\\\n\n\\\\n" =
        "\x00'\x00ABC4😀\x7d\n\n\\n" := by
  have ends : Ending [] crowded := by decide
  have source : String.ofList (crowded.flatMap Piece.source) =
      "\\0\\'\\0\\x41B\\u00434\\u\x7b001F600\x7d\x7d\\\r\\n\\\n\n\\\\n" := by decide
  have value : String.ofList (crowded.flatMap Piece.value) =
      "\x00'\x00ABC4😀\x7d\n\n\\n" := by decide
  refine ⟨ends, ?_⟩
  rw [← source, ← value]
  exact decodeText_pieces crowded ends

end Escape

end TypedQueries
