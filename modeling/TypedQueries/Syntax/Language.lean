/-! # Source languages

Which grammar a file is read with, by its extension.
-/

namespace TypedQueries

/-- The two grammars: plain TypeScript, and TypeScript with markup elements. -/
inductive Dialect where
  | plain | markup
deriving DecidableEq, Repr, Inhabited

namespace Dialect

def ofExtension? (extension : String) : Option Dialect :=
  if ["ts", "mts", "cts", "js", "mjs", "cjs"].contains extension then some .plain
  else if ["tsx", "jsx"].contains extension then some .markup
  else none

def name : Dialect → String
  | .plain => "TypeScript"
  | .markup => "TSX"

end Dialect

end TypedQueries
