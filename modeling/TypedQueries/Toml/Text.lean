import TypedQueries.Text.Hex

/-! # TOML strings

The text between quotes: on one line or on several, with escapes (double quotes) or as it
stands (single quotes). Every reader takes the characters after the opening quotes and
gives the text with what follows the closing ones.
-/

namespace TypedQueries

namespace Toml

def isBlank (c : Char) : Bool := c == ' ' || c == '\t'

/-- Characters that stand for themselves: no controls but the tab. -/
def isPrintable (c : Char) : Bool := c == '\t' || (0x20 ≤ c.toNat && c.toNat != 0x7f)

def afterLineEnd? : List Char → Option (List Char)
  | '\n' :: rest => some rest
  | '\r' :: '\n' :: rest => some rest
  | _ => none

theorem afterLineEnd_length {input rest : List Char} (h : afterLineEnd? input = some rest) :
    rest.length < input.length := by
  unfold afterLineEnd? at h
  split at h <;> simp at h <;> subst h <;> simp only [List.length_cons] <;> omega

/-- What follows the blanks at the start. -/
def skipBlanks (input : List Char) : List Char := input.dropWhile isBlank

/-- What follows the blanks and line ends at the start. -/
def skipLines : List Char → List Char
  | '\n' :: rest => skipLines rest
  | '\r' :: '\n' :: rest => skipLines rest
  | c :: rest => if isBlank c then skipLines rest else c :: rest
  | [] => []

theorem skipLines_length (input : List Char) : (skipLines input).length ≤ input.length := by
  fun_induction skipLines input <;> simp_all <;> omega

theorem skipBlanks_length (input : List Char) : (skipBlanks input).length ≤ input.length :=
  (List.dropWhile_suffix isBlank).length_le

/-- The character with the code point of so many hexadecimal digits. -/
def codePoint? (count : Nat) (input : List Char) : Option (Char × List Char) :=
  let digits := input.take count
  if digits.length = count then
    ((Hex.readFrom 0 digits).bind Hex.char?).map fun c => (c, input.drop count)
  else none

/-- What the characters after a backslash denote. -/
def escape? : List Char → Option (Char × List Char)
  | 'b' :: rest => some ('\x08', rest)
  | 't' :: rest => some ('\t', rest)
  | 'n' :: rest => some ('\n', rest)
  | 'f' :: rest => some ('\x0c', rest)
  | 'r' :: rest => some ('\r', rest)
  | '\x22' :: rest => some ('\x22', rest)
  | '\\' :: rest => some ('\\', rest)
  | 'u' :: rest => codePoint? 4 rest
  | 'U' :: rest => codePoint? 8 rest
  | _ => none

theorem codePoint_length {count : Nat} {input : List Char} {result : Char × List Char}
    (h : codePoint? count input = some result) : result.2.length ≤ input.length := by
  simp only [codePoint?] at h
  split at h
  · obtain ⟨c, _, rfl⟩ := Option.map_eq_some_iff.1 h
    simp
  · simp at h

theorem escape_length {input : List Char} {result : Char × List Char}
    (h : escape? input = some result) : result.2.length ≤ input.length := by
  unfold escape? at h
  split at h
  case h_8 | h_9 => exact Nat.le_succ_of_le (codePoint_length h)
  all_goals simp at h
  all_goals subst h; simp

def prepend (c : Char) (read : List Char × List Char) : List Char × List Char :=
  (c :: read.1, read.2)

/-- The text up to a double quote on the same line. -/
def basicLine : List Char → Option (List Char × List Char)
  | [] => none
  | '\x22' :: rest => some ([], rest)
  | '\\' :: rest =>
      match _h : escape? rest with
      | some (c, after) => (basicLine after).map (prepend c)
      | none => none
  | c :: rest => if isPrintable c then (basicLine rest).map (prepend c) else none
termination_by input => input.length
decreasing_by
  · have := escape_length _h
    simp only [List.length_cons] at this ⊢
    omega
  · simp

/-- The text up to a single quote on the same line. -/
def literalLine : List Char → Option (List Char × List Char)
  | [] => none
  | '\'' :: rest => some ([], rest)
  | c :: rest => if isPrintable c then (literalLine rest).map (prepend c) else none

/-- What follows a backslash at the end of a line: the next line that is not empty. -/
def continued? (input : List Char) : Option (List Char) :=
  (afterLineEnd? (skipBlanks input)).map skipLines

theorem continued_length {input rest : List Char} (h : continued? input = some rest) :
    rest.length ≤ input.length := by
  simp only [continued?, Option.map_eq_some_iff] at h
  obtain ⟨after, found, rfl⟩ := h
  have := afterLineEnd_length found
  have := skipBlanks_length input
  have := skipLines_length after
  omega

/-- The text up to three quotes; of a longer run of quotes the first ones, at most two,
belong to the text. Line ends are read as line feeds. -/
def lines (quote : Char) (escapes : Bool) : List Char → Option (List Char × List Char)
  | [] => none
  | '\n' :: rest => (lines quote escapes rest).map (prepend '\n')
  | '\r' :: '\n' :: rest => (lines quote escapes rest).map (prepend '\n')
  | c :: rest =>
      if c = quote then
        let more := (rest.takeWhile (· == quote)).length
        if 2 ≤ more then
          let kept := min (more - 2) 2
          some (List.replicate kept quote, rest.drop (kept + 2))
        else (lines quote escapes rest).map (prepend c)
      else if escapes && c == '\\' then
        match _h : continued? rest with
        | some after => lines quote escapes after
        | none =>
            match _h : escape? rest with
            | some (c, after) => (lines quote escapes after).map (prepend c)
            | none => none
      else if isPrintable c then (lines quote escapes rest).map (prepend c)
      else none
termination_by input => input.length
decreasing_by
  · simp
  · simp only [List.length_cons]; omega
  · simp
  · have := continued_length _h
    simp only [List.length_cons]
    omega
  · have := escape_length _h
    simp only [List.length_cons] at this ⊢
    omega
  · simp

/-- The text on several lines after three quotes; a line end that follows them at once does
not belong to it. -/
def openedLines (quote : Char) (escapes : Bool) (input : List Char) :
    Option (List Char × List Char) :=
  lines quote escapes ((afterLineEnd? input).getD input)

def lineString? : List Char → Option (String × List Char)
  | '\x22' :: rest => (basicLine rest).map fun read => (String.ofList read.1, read.2)
  | '\'' :: rest => (literalLine rest).map fun read => (String.ofList read.1, read.2)
  | _ => none

def string? : List Char → Option (String × List Char)
  | '\x22' :: '\x22' :: '\x22' :: rest =>
      (openedLines '\x22' true rest).map fun read => (String.ofList read.1, read.2)
  | '\'' :: '\'' :: '\'' :: rest =>
      (openedLines '\'' false rest).map fun read => (String.ofList read.1, read.2)
  | input => lineString? input

end Toml

end TypedQueries
