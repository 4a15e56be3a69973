import TypedQueries.Failure
import TypedQueries.Syntax.Language
import TypedQueries.Syntax.Tree

/-! # Readers of the source languages

What makes trees of texts stands outside: a reader for each language, which may not be available
and may come to no tree. What it does with a text that has errors is its own affair; the tree says
where they are.
-/

namespace TypedQueries

/-- The readers of the source languages. -/
class Grammars where
  /-- Why a language cannot be read, if it cannot. -/
  unavailable? : Dialect → Option String
  tree? : Dialect → String → Option Tree

/-- A file as its reader leaves it. -/
structure ParsedSource where
  dialect : Dialect
  source : String
  tree : Tree

variable [Grammars]

/-- The tree of the text of a file. -/
def parseText (path : Path) (dialect : Dialect) (source : String) :
    Except GrammarFailure ParsedSource :=
  match Grammars.unavailable? dialect with
  | some detail => .error (.unavailable dialect.name detail)
  | none =>
      match Grammars.tree? dialect source with
      | some tree => .ok { dialect, source, tree }
      | none => .error (.noTree path)

end TypedQueries
