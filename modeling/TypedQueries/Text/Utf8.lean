/-! # Bytes as text

The characters of a sequence of bytes. Where the bytes are no UTF-8, every longest
stretch that could have begun a character is read as one replacement character.
-/

namespace TypedQueries

namespace Utf8

/-- Whether a byte continues a character, in the given bounds. -/
def continues (low high : UInt8) (b : UInt8) : Bool := low ≤ b && b ≤ high

def extend (value : Nat) (b : UInt8) : Nat := value * 64 + (b.toNat - 0x80)

/-- The form of a character by its first byte: the bits that byte gives, the bounds of
the second byte, and how many bytes follow that one. -/
def leading? (b : UInt8) : Option (Nat × UInt8 × UInt8 × Nat) :=
  if 0xc2 ≤ b && b ≤ 0xdf then some (b.toNat - 0xc0, 0x80, 0xbf, 0)
  else if b == 0xe0 then some (0, 0xa0, 0xbf, 1)
  else if b == 0xed then some (0xd, 0x80, 0x9f, 1)
  else if 0xe1 ≤ b && b ≤ 0xef then some (b.toNat - 0xe0, 0x80, 0xbf, 1)
  else if b == 0xf0 then some (0, 0x90, 0xbf, 2)
  else if b == 0xf4 then some (4, 0x80, 0x8f, 2)
  else if 0xf1 ≤ b && b ≤ 0xf3 then some (b.toNat - 0xf0, 0x80, 0xbf, 2)
  else none

/-- Reads the remaining bytes of a character: its value, or nothing, and what follows. -/
def trailing : Nat → Nat → List UInt8 → Option Nat × List UInt8
  | 0, value, rest => (some value, rest)
  | n + 1, value, b :: rest =>
      if continues 0x80 0xbf b then trailing n (extend value b) rest else (none, b :: rest)
  | _ + 1, _, [] => (none, [])

/-- The first character, or nothing where the bytes are none, and what follows. -/
def first (b : UInt8) (rest : List UInt8) : Option Char × List UInt8 :=
  if b < 0x80 then (some (Char.ofNat b.toNat), rest)
  else
    match leading? b with
    | none => (none, rest)
    | some (bits, low, high, more) =>
        match rest with
        | [] => (none, [])
        | second :: rest' =>
            if continues low high second then
              let (value, after) := trailing more (extend bits second) rest'
              (value.map Char.ofNat, after)
            else (none, rest)

theorem trailing_length_le (n value : Nat) (rest : List UInt8) :
    (trailing n value rest).2.length ≤ rest.length := by
  induction n generalizing value rest with
  | zero => simp [trailing]
  | succ n ih =>
    cases rest with
    | nil => simp [trailing]
    | cons b rest =>
      simp only [trailing]
      split
      · exact Nat.le_succ_of_le (ih _ _)
      · simp

theorem first_length_le (b : UInt8) (rest : List UInt8) :
    (first b rest).2.length ≤ rest.length := by
  unfold first
  split
  · simp
  · split
    · simp
    · split
      · simp
      · split
        · exact Nat.le_succ_of_le (trailing_length_le _ _ _)
        · simp

/-- The characters of the bytes, with `none` where they are no UTF-8. -/
def characters : List UInt8 → List (Option Char)
  | [] => []
  | b :: rest => (first b rest).1 :: characters (first b rest).2
termination_by bytes => bytes.length
decreasing_by
  have := first_length_le b rest
  simp only [List.length_cons]
  omega

/-- The text of the bytes, with replacement characters where they are no UTF-8. -/
def display (bytes : List UInt8) : String :=
  String.ofList ((characters bytes).map (·.getD '\ufffd'))

/-- The text of the bytes, if they are UTF-8. -/
def text? (bytes : List UInt8) : Option String :=
  ((characters bytes).mapM id).map String.ofList

end Utf8

end TypedQueries
