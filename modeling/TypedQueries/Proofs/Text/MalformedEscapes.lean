import TypedQueries.Proofs.Text.WellFormedEscapes

/-! # Texts with malformed escapes

The escapes of a text are listed with what is before and after each of them
(`Escape.occurrences`). All characters that are taken for an escape belong to it, whatever they
are. Of a hexadecimal escape that is malformed the characters are kept if it is one of a byte, but
for a plus sign before a digit; a malformed escape of a code point becomes a single character
(`Escape.decodeText_malformed`). In any case the text after it is read as it is read alone.
-/

namespace TypedQueries

namespace Escape

open Hex (Digit)

/-- How many characters belong to an escape after its first one, if there are so many. An escape
in braces goes on to the first closing brace. -/
def reach (c : Char) (rest : List Char) : Nat :=
  match c with
  | 'x' => 2
  | 'u' => if rest.head? = some '\x7b' then (rest.takeWhile (· != '\x7d')).length + 1 else 4
  | '\r' => if rest.head? = some '\n' then 1 else 0
  | _ => 0

/-- An escape in a text: what is before its backslash, its characters after the backslash, and
what follows them. -/
structure Occurrence where
  before : List Char
  body : List Char
  rest : List Char
deriving DecidableEq, Repr

/-- The escapes in a text that comes after another. -/
def occurrences (before : List Char) : List Char → List Occurrence
  | [] => []
  | '\\' :: c :: rest =>
      ⟨before, c :: rest.take (reach c rest), rest.drop (reach c rest)⟩ ::
        occurrences (before ++ '\\' :: c :: rest.take (reach c rest)) (rest.drop (reach c rest))
  | c :: rest => occurrences (before ++ [c]) rest
termination_by text => text.length
decreasing_by
  · simp only [List.length_drop, List.length_cons]
    omega
  · simp

/-- Whether the characters of a hexadecimal escape are what the grammar asks for: two digits, four
digits, or in braces the digits of a number below 110000. -/
def isWellFormed : List Char → Bool
  | 'u' :: '\x7b' :: rest =>
      rest.getLast? == some '\x7d' && !rest.dropLast.isEmpty
        && (Hex.readFrom 0 rest.dropLast).any (· < 0x110000)
  | 'x' :: digits => digits.length == 2 && digits.all fun c => (Hex.digit? c).isSome
  | 'u' :: digits => digits.length == 4 && digits.all fun c => (Hex.digit? c).isSome
  | _ => false

/-- A hexadecimal escape that is not well-formed. -/
def Occurrence.IsMalformed (escape : Occurrence) : Prop :=
  (escape.body.head? = some 'x' ∨ escape.body.head? = some 'u') ∧ isWellFormed escape.body = false

instance (escape : Occurrence) : Decidable escape.IsMalformed :=
  inferInstanceAs (Decidable
    ((escape.body.head? = some 'x' ∨ escape.body.head? = some 'u') ∧
      isWellFormed escape.body = false))

/-- The escapes of bytes, without those that are read as if they had a sign. -/
def Occurrence.IsUnsignedByte (escape : Occurrence) : Prop :=
  ∃ taken, escape.body = 'x' :: taken ∧ ∀ digit : Digit, taken ≠ ['+', digit.char]

/-! ## The text after an escape -/

/-- The escapes that take none of the characters after them, whatever these are. -/
theorem escape_of_single {c : Char} (noByte : c ≠ 'x') (noCodePoint : c ≠ 'u') (noReturn : c ≠ '\r')
    (noZero : c ≠ '0') (rest : List Char) : escape c rest = ((escape c []).1, rest) := by
  rw [escape.eq_def, escape.eq_def]
  split
  all_goals first
    | rfl
    | contradiction

theorem reach_of_single {c : Char} (noByte : c ≠ 'x') (noCodePoint : c ≠ 'u') (noReturn : c ≠ '\r')
    (rest : List Char) : reach c rest = 0 := by
  rw [reach.eq_def]
  split
  all_goals first
    | rfl
    | contradiction

theorem codePoint_of_unbraced {rest : List Char} (unbraced : rest.head? ≠ some '\x7b') :
    codePoint rest =
      ([(if (String.ofList (rest.take 4)).utf8ByteSize = 4 then Hex.readChar? (rest.take 4)
        else none).getD replacement], rest.drop 4) := by
  rw [codePoint]
  rintro others rfl
  exact unbraced rfl

theorem escape_return (rest : List Char) :
    escape '\r' rest = ([], rest.drop (reach '\r' rest)) := by
  rw [reach]
  split
  · next feed =>
      obtain ⟨others, rfl⟩ := List.head?_eq_some_iff.mp feed
      rfl
  · next noFeed =>
      cases rest with
      | nil => rfl
      | cons c others =>
          rw [escape]
          · rfl
          · intro _ feed
            exact noFeed (congrArg List.head? feed)

theorem escape_snd (c : Char) (rest : List Char) :
    (escape c rest).2 = rest.drop (reach c rest) := by
  by_cases byteMark : c = 'x'
  · subst byteMark
    rw [escape, byte]
    split <;> rfl
  by_cases codePointMark : c = 'u'
  · subst codePointMark
    rw [escape, reach]
    split
    · next braced =>
        obtain ⟨others, rfl⟩ := List.head?_eq_some_iff.mp braced
        rw [List.takeWhile_cons_of_pos (by decide), List.length_cons, List.drop_succ_cons]
        rfl
    · next unbraced => rw [codePoint_of_unbraced unbraced]
  by_cases lineEnd : c = '\r'
  · subst lineEnd
    rw [escape_return]
  rw [reach_of_single byteMark codePointMark lineEnd]
  by_cases zero : c = '0'
  · subst zero
    rfl
  · rw [escape_of_single byteMark codePointMark lineEnd zero]
    rfl

/-- The part of a text up to a mark is found in its beginning if the mark is there. -/
theorem takeWhile_append_of_length_lt {p : Char → Bool} {start rest : List Char}
    (within : ((start ++ rest).takeWhile p).length < start.length) (other : List Char) :
    (start ++ other).takeWhile p = (start ++ rest).takeWhile p := by
  induction start with
  | nil => exact absurd within (Nat.not_lt_zero _)
  | cons c start ih =>
      rw [List.cons_append, List.cons_append, List.takeWhile_cons, List.takeWhile_cons]
      rw [List.cons_append, List.takeWhile_cons] at within
      split
      · next passes =>
          rw [if_pos passes, List.length_cons, List.length_cons] at within
          rw [ih (Nat.lt_of_succ_lt_succ within)]
      · rfl

/-- A byte is read from its two characters. -/
theorem escape_byte_append {body : List Char} (two : body.length = 2) (rest : List Char) :
    escape 'x' (body ++ rest) = ((escape 'x' body).1, rest) := by
  have taken : (body ++ rest).take 2 = body := List.take_left' two
  have whole : body.take 2 = body := List.take_of_length_le (Nat.le_of_eq two)
  have left : (body ++ rest).drop 2 = rest := List.drop_left' two
  rw [escape, escape, byte, byte, taken, whole, left]
  split <;> rfl

/-- A code point is read from its four characters, or from those up to the closing brace. -/
theorem escape_codePoint_append {body rest : List Char}
    (full : reach 'u' (body ++ rest) = body.length) (other : List Char) :
    escape 'u' (body ++ other) = ((escape 'u' body).1, other) := by
  cases body with
  | nil =>
      rw [reach] at full
      split at full <;> cases full
  | cons c body =>
      rw [escape, escape]
      by_cases braced : c = '\x7b'
      · subst braced
        have length : ((body ++ rest).takeWhile (· != '\x7d')).length + 1 = body.length := by
          rw [reach, List.cons_append, List.head?_cons, if_pos rfl,
            List.takeWhile_cons_of_pos (by decide), List.length_cons, List.length_cons] at full
          exact Nat.succ.inj full
        have within : ((body ++ rest).takeWhile (· != '\x7d')).length < body.length := by omega
        have taken := takeWhile_append_of_length_lt within
        have alone := taken []
        rw [List.append_nil] at alone
        have left : (body ++ other).drop body.length = other := List.drop_left
        rw [List.cons_append, codePoint, codePoint, taken other, alone, length, left]
      · have four : (c :: body).length = 4 := by
          rw [reach, List.cons_append, List.head?_cons,
            if_neg fun same => braced (Option.some.inj same)] at full
          exact full.symm
        have unbraced (follow : List Char) : (c :: body ++ follow).head? ≠ some '\x7b' :=
          fun same => braced (Option.some.inj same)
        have alone := codePoint_of_unbraced (unbraced [])
        rw [List.append_nil] at alone
        rw [codePoint_of_unbraced (unbraced other), alone, List.take_left' four,
          List.drop_left' four, List.take_of_length_le (Nat.le_of_eq four)]

/-- An escape that is in the text as a whole before another one is read alike without it. -/
theorem escape_append {c : Char} {body rest follow : List Char}
    (full : reach c (body ++ (rest ++ '\\' :: follow)) = body.length) (other : List Char) :
    escape c (body ++ (rest ++ '\\' :: other)) =
        ((escape c (body ++ rest)).1, rest ++ '\\' :: other) ∧
      (escape c (body ++ rest)).2 = rest := by
  by_cases byteMark : c = 'x'
  · subst byteMark
    have two : body.length = 2 := full.symm
    rw [escape_byte_append two, escape_byte_append two]
    exact ⟨rfl, rfl⟩
  by_cases codePointMark : c = 'u'
  · subst codePointMark
    rw [escape_codePoint_append full, escape_codePoint_append full]
    exact ⟨rfl, rfl⟩
  by_cases lineEnd : c = '\r'
  · subst lineEnd
    rw [reach] at full
    cases body with
    | nil =>
        have noFeed : (rest ++ '\\' :: follow).head? ≠ some '\n' := by
          intro feed
          rw [List.nil_append, if_pos feed] at full
          cases full
        cases rest with
        | nil => exact ⟨rfl, rfl⟩
        | cons d rest =>
            have alike (more : List Char) : escape '\r' (d :: more) = ([], d :: more) := by
              rw [escape_return, reach, if_neg (show (d :: more).head? ≠ _ from noFeed)]
              rfl
            exact ⟨(alike _).trans (by rw [List.nil_append, alike]; rfl), by
              rw [List.nil_append, alike]⟩
    | cons d body =>
        split at full
        · next feed =>
            obtain rfl := Option.some.inj feed
            obtain rfl := List.length_eq_zero_iff.mp (Nat.succ.inj full).symm
            exact ⟨rfl, rfl⟩
        · cases full
  have empty : body = [] := by
    rw [reach_of_single byteMark codePointMark lineEnd] at full
    exact List.length_eq_zero_iff.mp full.symm
  subst empty
  by_cases zero : c = '0'
  · subst zero
    cases rest with
    | nil => exact ⟨rfl, rfl⟩
    | cons d rest => exact ⟨rfl, rfl⟩
  · rw [escape_of_single byteMark codePointMark lineEnd zero,
      escape_of_single byteMark codePointMark lineEnd zero ([] ++ rest)]
    exact ⟨rfl, rfl⟩

/-- What is before an escape is read as it is read alone, whatever the escape is. -/
theorem exists_passed_of_mem_occurrences {before text : List Char} {found : Occurrence}
    (member : found ∈ occurrences before text) :
    ∃ passed c follow,
      found = ⟨before ++ passed, c :: follow.take (reach c follow), follow.drop (reach c follow)⟩ ∧
        text = passed ++ '\\' :: c :: follow ∧
        ∀ other, decode (passed ++ '\\' :: other) = decode passed ++ decode ('\\' :: other) := by
  induction before, text using occurrences.induct with
  | case1 before =>
      rw [occurrences] at member
      cases member
  | case2 before c rest ih =>
      rw [occurrences] at member
      rcases List.mem_cons.mp member with rfl | later
      · exact ⟨[], c, rest, by rw [List.append_nil], rfl, fun other => by rw [decode]; rfl⟩
      · obtain ⟨passed, d, follow, rfl, left, alone⟩ := ih later
        have whole : rest = rest.take (reach c rest) ++ (passed ++ '\\' :: d :: follow) := by
          rw [← left, List.take_append_drop]
        have full : reach c (rest.take (reach c rest) ++ (passed ++ '\\' :: d :: follow)) =
            (rest.take (reach c rest)).length := by
          have some : (rest.drop (reach c rest)).length ≠ 0 := by
            rw [left, List.length_append, List.length_cons]
            omega
          rw [← whole, List.length_take]
          rw [List.length_drop] at some
          omega
        refine ⟨'\\' :: c :: (rest.take (reach c rest) ++ passed), d, follow, ?_, ?_,
          fun other => ?_⟩
        · rw [List.append_assoc]
          rfl
        · rw [List.cons_append, List.cons_append, List.append_assoc, ← whole]
        · obtain ⟨same, after⟩ := escape_append full other
          rw [List.cons_append, List.cons_append, List.append_assoc, decode_escape, same, alone,
            decode_escape, after, List.append_assoc]
  | case3 before c rest noEscape ih =>
      rw [occurrences] at member
      · obtain ⟨passed, d, follow, rfl, rfl, alone⟩ := ih member
        have bare : c ≠ '\\' := by
          rintro rfl
          obtain ⟨e, others, cons⟩ := List.exists_cons_of_ne_nil
            (List.append_ne_nil_of_right_ne_nil passed (List.cons_ne_nil '\\' (d :: follow)))
          exact noEscape e others rfl cons
        refine ⟨c :: passed, d, follow, ?_, rfl, fun other => ?_⟩
        · rw [List.append_assoc]
          rfl
        · rw [List.cons_append, decode_cons_of_ne bare, decode_cons_of_ne bare, alone]
          rfl
      · exact noEscape

/-! ## What is kept -/

theorem exists_digit_of_digit? {c : Char} (isDigit : (Hex.digit? c).isSome = true) :
    ∃ digit : Digit, digit.char = c := by
  have all : ∀ n : Fin 103, (Hex.digit? (Char.ofNat n)).isSome = true →
      ∃ (value : Fin 16) (upper : Bool), Hex.digit upper value = Char.ofNat n := by decide
  have small : c.toNat < 103 := by
    rw [Hex.digit?] at isDigit
    simp only [Bool.and_eq_true, decide_eq_true_eq] at isDigit
    split at isDigit
    · next decimal => exact Nat.lt_of_le_of_lt decimal.2 (by decide)
    split at isDigit
    · next letter => exact Nat.lt_of_le_of_lt letter.2 (by decide)
    split at isDigit
    · next letter => exact Nat.lt_of_le_of_lt letter.2 (by decide)
    · cases isDigit
  obtain ⟨value, upper, same⟩ := all ⟨c.toNat, small⟩ (by rwa [Char.ofNat_toNat])
  exact ⟨⟨value, upper⟩, same.trans (Char.ofNat_toNat c)⟩

theorem readFrom_cons_isSome {value : Nat} {c : Char} {rest : List Char}
    (read : (Hex.readFrom value (c :: rest)).isSome = true) :
    (Hex.digit? c).isSome = true ∧ ∃ further, (Hex.readFrom further rest).isSome = true := by
  rw [Hex.readFrom] at read
  split at read
  · next digit isDigit => exact ⟨by rw [isDigit]; rfl, _, read⟩
  · cases read

/-- Two characters that are read as a byte are digits, or a digit with a plus sign before it. -/
theorem digits_of_readChar? {taken : List Char} (short : taken.length ≤ 2)
    (size : (String.ofList taken).utf8ByteSize = 2) (read : (Hex.readChar? taken).isSome = true) :
    (∃ digit : Digit, taken = ['+', digit.char]) ∨
      ∃ first second : Digit, taken = [first.char, second.char] := by
  have number : (Hex.read? taken).isSome = true := by
    rw [Hex.readChar?, Option.isSome_bind] at read
    obtain ⟨value, found, -⟩ := (Option.any_eq_true _ _).mp read
    exact Option.isSome_of_mem found
  cases taken with
  | nil => cases number
  | cons first rest =>
      cases rest with
      | nil =>
          by_cases plus : first = '+'
          · subst plus
            cases number
          · rw [Hex.read?] at number
            · obtain ⟨digit, rfl⟩ := exists_digit_of_digit? (readFrom_cons_isSome number).1
              have one := Hex.utf8ByteSize_digits [digit]
              rw [List.map_singleton, size] at one
              cases one
            · exact fun same _ => plus same
            · exact fun _ _ same _ => plus same
      | cons second rest =>
          have last : rest = [] := by
            rw [List.length_cons, List.length_cons] at short
            exact List.eq_nil_of_length_eq_zero (by omega)
          subst last
          by_cases plus : first = '+'
          · subst plus
            obtain ⟨digit, rfl⟩ := exists_digit_of_digit? (readFrom_cons_isSome number).1
            exact Or.inl ⟨digit, rfl⟩
          · rw [Hex.read?] at number
            · obtain ⟨digit, further, rest⟩ := readFrom_cons_isSome number
              obtain ⟨first, rfl⟩ := exists_digit_of_digit? digit
              obtain ⟨second, rfl⟩ := exists_digit_of_digit? (readFrom_cons_isSome rest).1
              exact Or.inr ⟨first, second, rfl⟩
            · exact fun same => absurd same plus
            · exact fun _ _ same _ => plus same

/-- A malformed byte is kept, but for a digit with a plus sign before it. -/
theorem byte_of_malformed {rest : List Char}
    (malformed : isWellFormed ('x' :: rest.take 2) = false) :
    (∃ digit : Digit, rest.take 2 = ['+', digit.char] ∧ ∃ c, (byte rest).1 = [c]) ∨
      (∀ digit : Digit, rest.take 2 ≠ ['+', digit.char]) ∧ (byte rest).1 = 'x' :: rest.take 2 := by
  have signed : ∀ (value : Fin 16) (upper : Bool),
      (Hex.readChar? ['+', Hex.digit upper value]).isSome = true ∧
        (String.ofList ['+', Hex.digit upper value]).utf8ByteSize = 2 := by decide
  rw [byte]
  by_cases plus : ∃ digit : Digit, rest.take 2 = ['+', digit.char]
  · obtain ⟨digit, taken⟩ := plus
    obtain ⟨read, size⟩ := signed digit.value digit.upper
    obtain ⟨c, found⟩ := Option.isSome_iff_exists.mp read
    refine Or.inl ⟨digit, taken, c, ?_⟩
    rw [taken, show digit.char = Hex.digit digit.upper digit.value from rfl, found]
    exact if_pos size
  · refine Or.inr ⟨fun digit taken => plus ⟨digit, taken⟩, ?_⟩
    split
    · next c found =>
        refine if_neg fun size => ?_
        rcases digits_of_readChar? (List.length_take_le 2 rest) size (by rw [found]; rfl) with
          signed | ⟨first, second, taken⟩
        · exact plus signed
        · rw [taken, isWellFormed, List.all_cons, List.all_cons, Hex.digit?_char,
            Hex.digit?_char] at malformed
          cases malformed
    · rfl

/-- A code point is read as one character, which is never the whole escape. -/
theorem exists_codePoint_eq (rest : List Char) :
    ∃ c, (codePoint rest).1 = [c] ∧ [c] ≠ 'u' :: rest.take (reach 'u' rest) := by
  cases rest with
  | nil => exact ⟨replacement, rfl, by decide⟩
  | cons first others =>
      have longer (c : Char) :
          [c] ≠ 'u' :: (first :: others).take (reach 'u' (first :: others)) := by
        intro same
        have none := (List.cons.inj same).2
        rw [reach] at none
        split at none <;> cases none
      rw [codePoint.eq_def]
      split
      · exact ⟨_, rfl, longer _⟩
      · exact ⟨_, rfl, longer _⟩

/-- **What is kept of malformed escapes.** The characters of a malformed hexadecimal escape are
kept, in their order, exactly if it is one of a byte that is not read as if it had a sign; else a
single character stands in the place of all of them. The text before it and the text after it are
read as each is read alone. -/
theorem decodeText_malformed (raw : String) {found : Occurrence}
    (member : found ∈ occurrences [] raw.toList) (malformed : found.IsMalformed) :
    raw = String.ofList (found.before ++ '\\' :: (found.body ++ found.rest)) ∧
      (decodeText raw =
          String.ofList (decode found.before ++ (found.body ++ decode found.rest)) ↔
        found.IsUnsignedByte) ∧
      (¬found.IsUnsignedByte → ∃ c, decodeText raw =
        String.ofList (decode found.before ++ c :: decode found.rest)) := by
  obtain ⟨passed, c, follow, rfl, whole, alone⟩ := exists_passed_of_mem_occurrences member
  rw [List.nil_append] at malformed ⊢
  have text : raw = String.ofList (passed ++ '\\' :: c :: follow) := by
    rw [← whole, String.ofList_toList]
  have read : decodeText raw =
      String.ofList (decode passed ++ ((escape c follow).1 ++
        decode (follow.drop (reach c follow)))) := by
    rw [decodeText, whole, alone, decode_escape, escape_snd]
  have kept : (decodeText raw = String.ofList (decode passed ++
      ((c :: follow.take (reach c follow)) ++ decode (follow.drop (reach c follow))))) ↔
        (escape c follow).1 = c :: follow.take (reach c follow) := by
    rw [read, String.ofList_inj, List.append_cancel_left_eq,
      List.append_cancel_right_eq]
  refine ⟨?_, ?_⟩
  · dsimp only
    rw [text, List.cons_append, List.take_append_drop]
  rw [kept, read]
  have single {d : Char} (one : (escape c follow).1 = [d]) :
      ∃ d, String.ofList (decode passed ++ ((escape c follow).1 ++
          decode (follow.drop (reach c follow)))) =
        String.ofList (decode passed ++ d :: decode (follow.drop (reach c follow))) :=
    ⟨d, by rw [one]; rfl⟩
  obtain ⟨mark | mark, malformed⟩ := malformed
  · obtain rfl := Option.some.inj mark
    rcases byte_of_malformed malformed with ⟨digit, signed, d, one⟩ | ⟨unsigned, shown⟩
    · have dropped : (escape 'x' follow).1 ≠ 'x' :: follow.take 2 := by
        rw [show (escape 'x' follow).1 = [d] from one, signed]
        exact fun same => by cases (List.cons.inj same).2
      refine ⟨iff_of_false dropped ?_, fun _ => single one⟩
      rintro ⟨taken, body, unsigned⟩
      exact unsigned digit ((List.cons.inj body).2.symm.trans signed)
    · have holds : Occurrence.IsUnsignedByte ⟨passed, 'x' :: follow.take 2, follow.drop 2⟩ :=
        ⟨_, rfl, unsigned⟩
      exact ⟨iff_of_true shown holds, fun other => absurd holds other⟩
  · obtain rfl := Option.some.inj mark
    obtain ⟨d, one, part⟩ := exists_codePoint_eq follow
    have dropped : (escape 'u' follow).1 ≠ 'u' :: follow.take (reach 'u' follow) := by
      rwa [show (escape 'u' follow).1 = [d] from one]
    refine ⟨iff_of_false dropped ?_, fun _ => single one⟩
    rintro ⟨taken, body, -⟩
    cases (List.cons.inj body).1

/-- A malformed byte that takes the backslash after it, with all characters kept. -/
theorem decodeText_malformed_byte :
    ∃ found : Occurrence, occurrences [] "a\\x4\\nb".toList = [found] ∧ found.IsMalformed ∧
      found.IsUnsignedByte ∧ found.body = ['x', '4', '\\'] ∧
      decodeText "a\\x4\\nb" = "ax4\\nb" := by
  have listed : occurrences [] "a\\x4\\nb".toList = [⟨['a'], ['x', '4', '\\'], ['n', 'b']⟩] := by
    decide +kernel
  have malformed : Occurrence.IsMalformed ⟨['a'], ['x', '4', '\\'], ['n', 'b']⟩ := by decide
  have unsigned : Occurrence.IsUnsignedByte ⟨['a'], ['x', '4', '\\'], ['n', 'b']⟩ := by
    refine ⟨_, rfl, fun digit same => ?_⟩
    cases (List.cons.inj same).1
  have member : (⟨['a'], ['x', '4', '\\'], ['n', 'b']⟩ : Occurrence) ∈
      occurrences [] "a\\x4\\nb".toList := by
    rw [listed]
    exact List.mem_cons_self
  obtain ⟨-, kept, -⟩ := decodeText_malformed "a\\x4\\nb" member malformed
  refine ⟨_, listed, malformed, unsigned, rfl, (kept.mpr unsigned).trans ?_⟩
  decide +kernel

/-- The characters of a code point with too few digits are dropped. -/
theorem decodeText_malformed_dropped :
    ∃ found : Occurrence, occurrences [] "\\u12".toList = [found] ∧ found.IsMalformed ∧
      found.body = ['u', '1', '2'] ∧ decodeText "\\u12" = "\ufffd" ∧
      decodeText "\\u12" ≠
        String.ofList (decode found.before ++ (found.body ++ decode found.rest)) := by
  have listed : occurrences [] "\\u12".toList = [⟨[], ['u', '1', '2'], []⟩] := by decide +kernel
  exact ⟨_, listed, by decide, rfl, by decide +kernel, by decide +kernel⟩

end Escape

end TypedQueries
