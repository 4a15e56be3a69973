/-! # Hexadecimal numerals

Reading a numeral of any length, and writing one without padding.
-/

namespace TypedQueries

namespace Hex

def digit? (c : Char) : Option Nat :=
  if '0' ≤ c && c ≤ '9' then some (c.toNat - '0'.toNat)
  else if 'a' ≤ c && c ≤ 'f' then some (c.toNat - 'a'.toNat + 10)
  else if 'A' ≤ c && c ≤ 'F' then some (c.toNat - 'A'.toNat + 10)
  else none

/-- The value of digits after those already read. -/
def readFrom (value : Nat) : List Char → Option Nat
  | [] => some value
  | c :: rest =>
      match digit? c with
      | some d => readFrom (16 * value + d) rest
      | none => none

/-- The value of a numeral: at least one digit, with an optional plus sign before
them. -/
def read? : List Char → Option Nat
  | [] => none
  | '+' :: [] => none
  | '+' :: c :: rest => readFrom 0 (c :: rest)
  | c :: rest => readFrom 0 (c :: rest)

/-- The character with the given code point, if it is one. -/
def char? (n : Nat) : Option Char :=
  if h : n.isValidChar then some (Char.ofNatAux n h) else none

def readChar? (digits : List Char) : Option Char := (read? digits).bind char?

def digit (upper : Bool) (n : Nat) : Char :=
  if n < 10 then Char.ofNat ('0'.toNat + n)
  else Char.ofNat ((if upper then 'A' else 'a').toNat + (n - 10))

/-- The lower-case numeral of a number, without padding. -/
def numeral (n : Nat) : String := String.ofList (Nat.toDigits 16 n)

def pair (upper : Bool) (n : Nat) : List Char := [digit upper (n / 16 % 16), digit upper (n % 16)]

end Hex

end TypedQueries
