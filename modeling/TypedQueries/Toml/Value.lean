/-! # TOML values and tables

A document is a table. A table remembers how it came about, because that decides whether
a later line of the document may still add to it: a table with a header of its own takes
keys below its header only, a table made by a dotted key takes further dotted keys, and
a value written in braces takes nothing.
-/

namespace TypedQueries

/-- How a table came about: by a header, on the way to another header, by a dotted key,
or written in braces. -/
inductive TomlOrigin where
  | header
  | implied
  | dotted
  | inline
deriving DecidableEq, Repr

/-- A value. Numbers with a fraction, dates and times are told apart from other values
only; `tables` are those under headers in double brackets. -/
inductive Toml where
  | string (s : String)
  | integer (n : Int)
  | float
  | boolean (b : Bool)
  | date
  | array (items : List Toml)
  | table (origin : TomlOrigin) (entries : List (String × Toml))
  | tables (elements : List (List (String × Toml)))
deriving Repr, Inhabited

namespace Toml

abbrev Entries : Type := List (String × Toml)

/-- What reads documents. -/
class Reader where
  entries? : String → Option Entries

/-- The entries with the value of a key replaced. -/
def Entries.set (entries : Entries) (key : String) (value : Toml) : Entries :=
  entries.map fun entry => if entry.1 = key then (key, value) else entry

/-- The entries with one more at the end. -/
def Entries.add (entries : Entries) (key : String) (value : Toml) : Entries :=
  entries ++ [(key, value)]

def updateLast {α : Type} (update : α → Option α) : List α → Option (List α)
  | [] => none
  | [element] => (update element).map ([·])
  | element :: rest => (updateLast update rest).map (element :: ·)

/-- Gives a value to a dotted key, below a table of which `origin` tells how it came
about. The key must be new; the tables on the way to it must not have headers, and the
last one must have been made by a dotted key. -/
def assign (value : Toml) : List String → TomlOrigin → Entries → Option Entries
  | [], _, _ => none
  | [key], _, entries =>
      match entries.lookup key with
      | none => some (entries.add key value)
      | some _ => none
  | key :: next :: path, _, entries =>
      let inside (origin : TomlOrigin) (sub : Entries) : Option Entries :=
        if path.isEmpty && origin != .dotted then none
        else assign value (next :: path) origin sub
      match entries.lookup key with
      | none => (inside .dotted []).map fun sub => entries.add key (table .dotted sub)
      | some (table .dotted sub) =>
          (inside .dotted sub).map fun sub => entries.set key (table .dotted sub)
      | some (table .implied sub) =>
          (inside .implied sub).map fun sub => entries.set key (table .implied sub)
      | some (tables elements) =>
          (updateLast (inside .header) elements).map fun elements =>
            entries.set key (tables elements)
      | some _ => none

/-- Changes the table under a header; tables on the way are made if they are missing, and
of several tables under one name the last one is meant. -/
def within (change : Entries → Option Entries) : List String → Entries → Option Entries
  | [], entries => change entries
  | key :: path, entries =>
      match entries.lookup key with
      | none => (within change path []).map fun sub => entries.add key (table .implied sub)
      | some (table .inline _) => none
      | some (table origin sub) =>
          (within change path sub).map fun sub => entries.set key (table origin sub)
      | some (tables elements) =>
          (updateLast (within change path) elements).map fun elements =>
            entries.set key (tables elements)
      | some _ => none

/-- Begins the table of a header. It may exist only as one on the way to an earlier
header. -/
def beginTable (key : String) (entries : Entries) : Option Entries :=
  match entries.lookup key with
  | none => some (entries.add key (table .header []))
  | some (table .implied sub) => some (entries.set key (table .header sub))
  | some _ => none

/-- Begins one more table under a header in double brackets. -/
def beginElement (key : String) (entries : Entries) : Option Entries :=
  match entries.lookup key with
  | none => some (entries.add key (tables [[]]))
  | some (tables elements) => some (entries.set key (tables (elements ++ [[]])))
  | some _ => none

end Toml

end TypedQueries
