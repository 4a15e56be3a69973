import TypedQueries.Text.Hex

/-! # String literals and property keys

The string literals written into generated text. A quote, a backslash and the
characters below U+0020 are escaped, everything else stands for itself, so a literal
is one line whatever its value. A key that is an identifier needs no quotes.
-/

namespace TypedQueries

namespace StringLiteral

/-- How a character is written between the quotes. -/
def character (c : Char) : List Char :=
  if c = '\x22' then ['\\', '\x22']
  else if c = '\\' then ['\\', '\\']
  else if c = '\x08' then ['\\', 'b']
  else if c = '\x0c' then ['\\', 'f']
  else if c = '\n' then ['\\', 'n']
  else if c = '\r' then ['\\', 'r']
  else if c = '\t' then ['\\', 't']
  else if c.toNat < 0x20 then '\\' :: 'u' :: '0' :: '0' :: Hex.pair false c.toNat
  else [c]

def interior (value : List Char) : List Char := value.flatMap character

def quote (value : String) : String :=
  String.ofList ('\x22' :: interior value.toList ++ ['\x22'])

end StringLiteral

namespace Identifier

/-- Characters an identifier may begin with. -/
def begins (c : Char) : Bool := c.isAlpha || c == '_' || c == '$'

/-- Characters an identifier may go on with. -/
def continues (c : Char) : Bool := c.isAlphanum || c == '_' || c == '$'

/-- Whether a text is an identifier of ASCII characters. -/
def accepts (name : String) : Bool :=
  match name.toList with
  | [] => false
  | c :: rest => begins c && rest.all continues

end Identifier

/-- A key of an object type: bare if it is an identifier, a string literal otherwise. -/
def propertyKey (name : String) : String :=
  if Identifier.accepts name then name else StringLiteral.quote name

end TypedQueries
