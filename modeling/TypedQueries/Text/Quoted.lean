import TypedQueries.Text.Hex
import TypedQueries.Text.Invisible

/-! # Quoted text in messages

A text in double quotes on one line: quotes, backslashes and the common controls are
written with a backslash, characters that cannot be shown by their code point.
-/

namespace TypedQueries

namespace Quoted

/-- How a character appears between the quotes. -/
def character (c : Char) : String :=
  if c == '\x22' then "\\\""
  else if c == '\\' then "\\\\"
  else if c == '\t' then "\\t"
  else if c == '\n' then "\\n"
  else if c == '\r' then "\\r"
  else if c == '\x00' then "\\0"
  else if c.toNat < 0x20 || (0x7f ≤ c.toNat && Invisible.contains c.toNat) then
    "\\u\x7b" ++ Hex.numeral c.toNat ++ "\x7d"
  else String.singleton c

def quote (s : String) : String :=
  "\"" ++ s.foldl (fun out c => out ++ character c) "" ++ "\""

end Quoted

end TypedQueries
