import TypedQueries.Syntax.Tree

/-! # Reading a source text

A cursor is a place in a source text together with the characters from there on.
Columns count bytes of the text's UTF-8 form, and only a line feed ends a line.
-/

namespace TypedQueries

/-- A place in a source text and what follows it. -/
structure Cursor where
  rest : List Char
  offset : Nat
  place : Position
deriving Inhabited

namespace Cursor

def start (text : String) : Cursor := ⟨text.toList, 0, ⟨0, 0⟩⟩

def after (c : Char) (rest : List Char) (cursor : Cursor) : Cursor where
  rest := rest
  offset := cursor.offset + c.utf8Size
  place :=
    if c = '\n' then ⟨cursor.place.row + 1, 0⟩
    else ⟨cursor.place.row, cursor.place.column + c.utf8Size⟩

/-- Steps over one character, if there is one. -/
def step (cursor : Cursor) : Cursor :=
  match cursor.rest with
  | [] => cursor
  | c :: rest => cursor.after c rest

def advance : Nat → Cursor → Cursor
  | 0, cursor => cursor
  | n + 1, cursor => advance n cursor.step

/-- Steps over the given characters while they satisfy a test. -/
def skipWhileFrom (test : Char → Bool) : List Char → Cursor → Cursor
  | [], cursor => cursor
  | c :: rest, cursor =>
      if test c then skipWhileFrom test rest (cursor.after c rest) else cursor

/-- Steps over characters while they satisfy a test. -/
def skipWhile (test : Char → Bool) (cursor : Cursor) : Cursor :=
  skipWhileFrom test cursor.rest cursor

def textTo (source : String) (start stop : Cursor) : String :=
  String.Pos.Raw.extract source ⟨start.offset⟩ ⟨stop.offset⟩

end Cursor

namespace Tree

/-- A node without children that covers a stretch of the source. -/
def leaf (source : String) (kind : Kind) (named : Bool) (start stop : Cursor) : Tree :=
  .node
    { kind, role := none, named, missing := false, flagged := kind == .error
      start := start.place, stop := stop.place, text := start.textTo source stop }
    []

/-- A token the text lacks, supplied at a place. -/
def absent (place : Position) : Tree :=
  .node
    { kind := .token, role := none, named := false, missing := true, flagged := true
      start := place, stop := place, text := "" }
    []

def withRole (role : Role) : Tree → Tree
  | .node label children => .node { label with role := some role } children

def withKind (kind : Kind) : Tree → Tree
  | .node label children => .node { label with kind } children

end Tree

end TypedQueries
