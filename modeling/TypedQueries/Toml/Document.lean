import TypedQueries.Toml.Text
import TypedQueries.Toml.Scalar

/-! # TOML documents

A document is a sequence of lines: headers, keys with values, comments. A line end ends
each of them, except within the brackets of an array and within strings on several lines.
-/

namespace TypedQueries

namespace Toml

/-- What follows a comment, if one begins here. -/
def skipComment : List Char → List Char
  | '#' :: rest => rest.dropWhile isPrintable
  | input => input

/-- What follows the line: blanks and a comment may stand before its end. -/
def endLine? (input : List Char) : Option (List Char) :=
  match skipComment (skipBlanks input) with
  | [] => some []
  | rest => afterLineEnd? rest

/-- What follows blanks, line ends and comments. -/
def skipLayout : List Char → List Char
  | '\n' :: rest => skipLayout rest
  | '\r' :: '\n' :: rest => skipLayout rest
  | c :: rest =>
      if isBlank c then skipLayout rest
      else if c == '#' then skipLayout (rest.dropWhile isPrintable)
      else c :: rest
  | [] => []
termination_by input => input.length
decreasing_by
  · simp
  · simp only [List.length_cons]; omega
  · simp
  · exact Nat.lt_succ_of_le (List.dropWhile_suffix isPrintable).length_le

def isKeyChar (c : Char) : Bool := c.isAlphanum || c == '_' || c == '-'

def keyPart? (input : List Char) : Option (String × List Char) :=
  match lineString? input with
  | some read => some read
  | none =>
      let word := input.takeWhile isKeyChar
      if word.isEmpty then none else some (String.ofList word, input.drop word.length)

/-- A key of at most so many parts with dots between them, and what follows it and
blanks. -/
def key? : Nat → List Char → Option (List String × List Char)
  | 0, _ => none
  | parts + 1, input => do
      let (part, rest) ← keyPart? (skipBlanks input)
      match skipBlanks rest with
      | '.' :: rest =>
          let (more, rest) ← key? parts rest
          return (part :: more, rest)
      | rest => return ([part], rest)

/-- How many parts a key may have, and how deep brackets may be nested. -/
def limit : Nat := 79

def simple? (input : List Char) : Option (Toml × List Char) :=
  if input.head? == some '\x22' || input.head? == some '\'' then
    (string? input).map fun read => (string read.1, read.2)
  else scalar input

/-- The items of an array up to its closing bracket; a comma may stand behind the last. -/
def items (item : List Char → Option (Toml × List Char)) (input : List Char) :
    Option (List Toml × List Char) :=
  match skipLayout input with
  | ']' :: rest => some ([], rest)
  | start =>
      match item start with
      | none => none
      | some (value, rest) =>
          match skipLayout rest with
          | ']' :: rest => some ([value], rest)
          | ',' :: rest =>
              if rest.length < input.length then
                (items item rest).map fun read => (value :: read.1, read.2)
              else none
          | _ => none
termination_by input.length

/-- A key with its value, added to the entries there are. -/
def field (item : List Char → Option (Toml × List Char)) (entries : Entries)
    (input : List Char) : Option (Entries × List Char) := do
  let (path, rest) ← key? limit input
  let '=' :: rest := rest | none
  let (value, rest) ← item (skipBlanks rest)
  let entries ← assign value path .header entries
  return (entries, skipBlanks rest)

/-- The fields of a table in braces, at least one, up to the closing brace. -/
def fields (item : List Char → Option (Toml × List Char)) (entries : Entries)
    (input : List Char) : Option (Entries × List Char) :=
  match field item entries input with
  | none => none
  | some (entries, rest) =>
      match rest with
      | '\x7d' :: rest => some (entries, rest)
      | ',' :: rest => if rest.length < input.length then fields item entries rest else none
      | _ => none
termination_by input.length

/-- A value with brackets nested at most so deep. -/
def value : Nat → List Char → Option (Toml × List Char)
  | depth + 1, '[' :: rest => (items (value depth) rest).map fun read => (array read.1, read.2)
  | depth + 1, '\x7b' :: rest =>
      match skipBlanks rest with
      | '\x7d' :: rest => some (table .inline [], rest)
      | rest => (fields (value depth) [] rest).map fun read => (table .inline read.1, read.2)
  | _, input => simple? input

/-- What has been read of a document: its entries, and the header that lines belong to. -/
structure Draft where
  entries : Entries
  header : List String

/-- A header's path without its last part, with which the given change begins a table. -/
def begin (change : String → Entries → Option Entries) (path : List String) (draft : Draft) :
    Option Draft := do
  let last ← path.getLast?
  let entries ← within (change last) path.dropLast draft.entries
  return ⟨entries, path⟩

/-- Reads what stands on a line, without the line end. -/
def statement (draft : Draft) : List Char → Option (Draft × List Char)
  | '[' :: '[' :: rest => do
      let (path, rest) ← key? limit rest
      let ']' :: ']' :: rest := rest | none
      return (← begin beginElement path draft, rest)
  | '[' :: rest => do
      let (path, rest) ← key? limit rest
      let ']' :: rest := rest | none
      return (← begin beginTable path draft, rest)
  | input => do
      let (path, rest) ← key? limit input
      let '=' :: rest := rest | none
      let (value, rest) ← value limit (skipBlanks rest)
      let entries ← within (assign value path .header) draft.header draft.entries
      return (⟨entries, draft.header⟩, rest)

def line (draft : Draft) (input : List Char) : Option (Draft × List Char) :=
  match endLine? input with
  | some rest => some (draft, rest)
  | none => do
      let (draft, rest) ← statement draft (skipBlanks input)
      let rest ← endLine? rest
      return (draft, rest)

def allLines (draft : Draft) (input : List Char) : Option Draft :=
  if input.isEmpty then some draft
  else
    match line draft input with
    | none => none
    | some (draft, rest) =>
        if rest.length < input.length then allLines draft rest else none
termination_by input.length

/-- The entries of a document; a byte order mark may stand at its start. -/
def parse (text : String) : Option Entries :=
  let input :=
    match text.toList with
    | '\ufeff' :: rest => rest
    | input => input
  (allLines ⟨[], []⟩ input).map (·.entries)

instance : Reader where
  entries? := parse

end Toml

end TypedQueries
