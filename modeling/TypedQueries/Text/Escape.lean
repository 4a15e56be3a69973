import TypedQueries.Text.Hex

/-! # Escape sequences

What the text between the quotes of a string literal denotes. A backslash and the
characters after it denote one character or none; `decode` replaces every escape by
what it denotes.
-/

namespace TypedQueries

namespace Escape

/-- The character in place of one that an escape fails to denote. -/
def replacement : Char := '\ufffd'

/-- What stands for the escape that begins with `x`: two hexadecimal digits, else the
characters themselves. -/
def byte (rest : List Char) : List Char × List Char :=
  let taken := rest.take 2
  let shown := 'x' :: taken
  match Hex.readChar? taken with
  | some c => (if (String.ofList taken).utf8ByteSize = 2 then [c] else shown, rest.drop 2)
  | none => (shown, rest.drop 2)

/-- What stands for the escape that begins with `u`: four hexadecimal digits, or any
number of them in braces. -/
def codePoint : List Char → List Char × List Char
  | '\x7b' :: rest =>
      let taken := rest.takeWhile (· != '\x7d')
      ([(Hex.readChar? taken).getD replacement], rest.drop (taken.length + 1))
  | rest =>
      let taken := rest.take 4
      let value :=
        if (String.ofList taken).utf8ByteSize = 4 then Hex.readChar? taken else none
      ([value.getD replacement], rest.drop 4)

/-- What stands for a backslash before the given character, and what follows the
escape. -/
def escape (c : Char) (rest : List Char) : List Char × List Char :=
  match c with
  | 'n' => (['\n'], rest)
  | 't' => (['\t'], rest)
  | 'r' => (['\r'], rest)
  | 'b' => (['\x08'], rest)
  | 'f' => (['\x0c'], rest)
  | 'v' => (['\x0b'], rest)
  | '0' => (if rest.head?.any Char.isDigit then ['0'] else ['\x00'], rest)
  | '\n' => ([], rest)
  | '\r' =>
      match rest with
      | '\n' :: rest => ([], rest)
      | rest => ([], rest)
  | 'x' => byte rest
  | 'u' => codePoint rest
  | c => ([c], rest)

theorem byte_length_le (rest : List Char) : (byte rest).2.length ≤ rest.length := by
  simp only [byte]
  split <;> simp

theorem codePoint_length_le (rest : List Char) : (codePoint rest).2.length ≤ rest.length := by
  unfold codePoint
  split <;> simp
  omega

/-- An escape never reaches beyond the text. -/
theorem escape_length_le (c : Char) (rest : List Char) :
    (escape c rest).2.length ≤ rest.length := by
  unfold escape
  split
  all_goals first
    | exact byte_length_le rest
    | exact codePoint_length_le rest
    | exact Nat.le_refl _
    | (split <;> simp)

/-- What a text with escapes denotes. A backslash at the end denotes itself. -/
def decode : List Char → List Char
  | [] => []
  | '\\' :: c :: rest => (escape c rest).1 ++ decode (escape c rest).2
  | c :: rest => c :: decode rest
termination_by cs => cs.length
decreasing_by
  · have := escape_length_le c rest
    simp only [List.length_cons]
    omega
  · simp

def decodeText (raw : String) : String := String.ofList (decode raw.toList)

end Escape

end TypedQueries
