import TypedQueries.Text.Hex
import TypedQueries.Toml.Value

/-! # TOML numbers, dates and words

What a word without quotes denotes. Numbers with a fraction, dates and times are only
checked for their form.
-/

namespace TypedQueries

namespace Toml

def isWordChar (c : Char) : Bool := c.isAlphanum || ['+', '-', '_', '.', ':'].contains c

/-- Whether the text is digits, between any two of which there may be an underscore. -/
def isGrouped (digit : Char → Bool) : List Char → Bool
  | [] => false
  | [c] => digit c
  | c :: '_' :: d :: rest => digit c && isGrouped digit (d :: rest)
  | c :: d :: rest => digit c && isGrouped digit (d :: rest)

/-- The value of digits in a base; underscores do not count. -/
def groupedValue (base : Nat) (digits : List Char) : Nat :=
  digits.foldl (fun n c => if c == '_' then n else base * n + (Hex.digit? c).getD 0) 0

/-- A text without its sign, and whether that is a minus. -/
def unsigned : List Char → Bool × List Char
  | '+' :: rest => (false, rest)
  | '-' :: rest => (true, rest)
  | cs => (false, cs)

/-- Whether the text is a decimal number without superfluous zeros. -/
def isDecimal (digits : List Char) : Bool :=
  isGrouped Char.isDigit digits && (digits.length == 1 || digits.head? != some '0')

/-- The first number that is too large for an integer. -/
def integerBound : Nat := 9223372036854775808

/-- The integer, if it has sixty-four bits. -/
def bounded (n : Int) : Option Int :=
  if -(integerBound : Int) ≤ n && n < (integerBound : Int) then some n else none

def prefixed? (base : Nat) (digit : Char → Bool) (digits : List Char) : Option Int :=
  if isGrouped digit digits then bounded (groupedValue base digits) else none

def integer? : List Char → Option Int
  | '0' :: 'x' :: digits => prefixed? 16 (fun c => (Hex.digit? c).isSome) digits
  | '0' :: 'o' :: digits => prefixed? 8 (fun c => '0' ≤ c && c ≤ '7') digits
  | '0' :: 'b' :: digits => prefixed? 2 (fun c => c == '0' || c == '1') digits
  | word =>
      let (negative, digits) := unsigned word
      if isDecimal digits then
        let n : Int := groupedValue 10 digits
        bounded (if negative then -n else n)
      else none

/-- Whether the number with the given digits, scaled by a power of ten, is too large for
a double. -/
def isHuge (digits : Nat) (exponent : Int) : Bool :=
  if digits == 0 then false
  else
    let magnitude : Int := (Nat.toDigits 10 digits).length + exponent
    if magnitude > 310 then true
    else if magnitude < 300 then false
    else
      let bound := Nat.pow 2 1024 - Nat.pow 2 970
      if exponent ≥ 0 then digits * Nat.pow 10 exponent.toNat ≥ bound
      else digits ≥ bound * Nat.pow 10 (-exponent).toNat

/-- Whether a character belongs to the digits of a number. -/
def isDigitOrMark (c : Char) : Bool := c.isDigit || c == '_'

/-- The digits after a point, if there is one, and what follows. -/
def fraction? : List Char → Option (List Char) × List Char
  | '.' :: rest => (some (rest.takeWhile isDigitOrMark), rest.dropWhile isDigitOrMark)
  | rest => (none, rest)

/-- The sign and the digits of an exponent, if there is one. -/
def exponent? : List Char → Option (Bool × List Char)
  | 'e' :: rest => some (unsigned rest)
  | 'E' :: rest => some (unsigned rest)
  | _ => none

/-- Whether a word is a number with a fraction or an exponent, not too large if it is
positive. -/
def isFloat (word : List Char) : Bool :=
  let (negative, rest) := unsigned word
  let whole := rest.takeWhile isDigitOrMark
  let (fraction, rest) := fraction? (rest.dropWhile isDigitOrMark)
  let exponent := exponent? rest
  let wellFormed :=
    isDecimal whole && fraction.all (isGrouped Char.isDigit)
      && exponent.all (fun e => isGrouped Char.isDigit e.2)
      && (fraction.isSome || exponent.isSome) && (exponent.isSome || rest.isEmpty)
  let places : Int := ((fraction.getD []).filter (· != '_')).length
  let power : Int :=
    match exponent with
    | some (minus, digits) =>
        if minus then -(groupedValue 10 digits) else groupedValue 10 digits
    | none => 0
  wellFormed
    && (negative || !isHuge (groupedValue 10 (whole ++ fraction.getD [])) (power - places))

/-- Whether a word is an infinity or not a number. -/
def isSpecialFloat (word : List Char) : Bool :=
  ["inf".toList, "nan".toList].contains (unsigned word).2

def pair? : List Char → Option (Nat × List Char)
  | a :: b :: rest =>
      if a.isDigit && b.isDigit then some (groupedValue 10 [a, b], rest) else none
  | _ => none

def daysIn (year month : Nat) : Nat :=
  if month == 2 then
    if year % 4 == 0 && (year % 100 != 0 || year % 400 == 0) then 29 else 28
  else if [4, 6, 9, 11].contains month then 30
  else 31

def afterDate? : List Char → Option (List Char)
  | a :: b :: c :: d :: '-' :: rest => do
      guard ([a, b, c, d].all Char.isDigit)
      let (month, rest) ← pair? rest
      guard (1 ≤ month && month ≤ 12)
      let '-' :: rest := rest | none
      let (day, rest) ← pair? rest
      guard (1 ≤ day && day ≤ daysIn (groupedValue 10 [a, b, c, d]) month)
      return rest
  | _ => none

def afterTime? (word : List Char) : Option (List Char) := do
  let (hour, rest) ← pair? word
  guard (hour ≤ 23)
  let ':' :: rest := rest | none
  let (minute, rest) ← pair? rest
  guard (minute ≤ 59)
  let ':' :: rest := rest | none
  let (second, rest) ← pair? rest
  guard (second ≤ 60)
  match rest with
  | '.' :: rest =>
      let fraction := rest.takeWhile Char.isDigit
      guard (!fraction.isEmpty)
      return rest.drop fraction.length
  | rest => return rest

/-- Whether a text is the distance of a clock from universal time. -/
def isOffset : List Char → Bool
  | ['Z'] | ['z'] => true
  | sign :: rest =>
      (sign == '+' || sign == '-')
        && (do
            let (hour, rest) ← pair? rest
            guard (hour ≤ 23)
            let ':' :: rest := rest | none
            let (minute, rest) ← pair? rest
            guard (minute ≤ 59 && rest.isEmpty)).isSome
  | [] => false

/-- Whether a word is a time of day, if wanted with a distance from universal time. -/
def isTime (withOffset : Bool) (word : List Char) : Bool :=
  match afterTime? word with
  | some rest => rest.isEmpty || (withOffset && isOffset rest)
  | none => false

/-- Whether a word is a date, and if so, whether the date is all of it. -/
def dateOnly? (word : List Char) : Option Bool := do
  match ← afterDate? word with
  | [] => return true
  | c :: rest =>
      guard ((c == 'T' || c == 't') && isTime true rest)
      return false

def plainWord? (word : List Char) : Option Toml :=
  if word = "true".toList then some (boolean true)
  else if word = "false".toList then some (boolean false)
  else if isTime false word then some date
  else if isFloat word || isSpecialFloat word then some float
  else (integer? word).map integer

/-- Reads a value without quotes or brackets. A time may follow a date after a space. -/
def scalar (input : List Char) : Option (Toml × List Char) :=
  let word := input.takeWhile isWordChar
  let rest := input.drop word.length
  match dateOnly? word with
  | none => (plainWord? word).map (·, rest)
  | some false => some (date, rest)
  | some true =>
      match rest with
      | ' ' :: after =>
          let time := after.takeWhile isWordChar
          if time.isEmpty then some (date, rest)
          else if isTime true time then some (date, after.drop time.length)
          else none
      | rest => some (date, rest)

end Toml

end TypedQueries
