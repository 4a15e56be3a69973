import TypedQueries.Text.Hex
import TypedQueries.Toml.Value

/-! # Writing TOML

How a string is written: in the plainest of the five ways that does it justice. Arrays of
more than one string take a line for each.
-/

namespace TypedQueries

namespace Toml

/-- The length of the longest run of a character, given that of the run which ends where
the text begins. -/
def longestRun (c : Char) : Nat → List Char → Nat
  | run, [] => run
  | run, d :: rest => if d = c then longestRun c (run + 1) rest else max run (longestRun c 0 rest)

/-- Controls that can only be written as escapes. -/
def needsEscape (c : Char) : Bool :=
  (c.toNat < 0x20 && c != '\t' && c != '\n') || c.toNat == 0x7f

/-- The escape of a character that needs one in a string between double quotes, on one
line or on several. -/
def escapeFor? (multiline : Bool) (c : Char) : Option String :=
  if c = '\x08' then some "\\b"
  else if c = '\t' then some "\\t"
  else if c = '\n' then if multiline then none else some "\\n"
  else if c = '\x0c' then some "\\f"
  else if c = '\r' then some "\\r"
  else if c = '\\' then some "\\\\"
  else if c.toNat < 0x20 || c.toNat = 0x7f then
    some (String.ofList (['\\', 'u', '0', '0'] ++ Hex.pair true c.toNat))
  else none

/-- What is written between double quotes. Of quotes in a row, `allowed` may stand without
an escape; `run` is how many stand before the text. -/
def escaped (multiline : Bool) (allowed : Nat) : Nat → List Char → String
  | _, [] => ""
  | run, c :: rest =>
      if c = '\x22' then
        if run < allowed then "\"" ++ escaped multiline allowed (run + 1) rest
        else "\\\"" ++ escaped multiline allowed 0 rest
      else
        (escapeFor? multiline c).getD (String.singleton c) ++ escaped multiline allowed 0 rest

def renderString (s : String) : String :=
  let text := s.toList
  let codes := text.any needsEscape
  let backslash := text.contains '\\'
  let newline := text.contains '\n'
  let singles := longestRun '\'' 0 text
  let doubles := longestRun '\x22' 0 text
  let opening := if newline then "\n" else ""
  let basic := "\"" ++ escaped false 0 0 text ++ "\""
  let basicLines := "\"\"\"" ++ opening ++ escaped true 2 0 text ++ "\"\"\""
  if !codes && !backslash && doubles == 0 && !newline then basic
  else if !codes && singles == 0 && !newline then "'" ++ s ++ "'"
  else if !codes && !backslash && doubles ≤ 2 then basicLines
  else if !codes && singles ≤ 2 then "'''" ++ opening ++ s ++ "'''"
  else if newline then basicLines
  else basic

def renderStrings : List String → String
  | [] => "[]"
  | [s] => "[" ++ renderString s ++ "]"
  | strings => "[\n" ++ String.join (strings.map fun s => "    " ++ renderString s ++ ",\n") ++ "]"

def renderField (key value : String) : String := key ++ " = " ++ value ++ "\n"

def renderSection (name : String) (fields : List (String × Option String)) : String :=
  "[" ++ name ++ "]\n"
    ++ String.join (fields.filterMap fun field => field.2.map (renderField field.1))

end Toml

end TypedQueries
