import TypedQueries.Syntax.Grammar.Statements
import TypedQueries.Syntax.Grammar.Elements
import TypedQueries.Syntax.Grammars

/-! # Parsing

A reader of the two languages. Its rules refer to each other through a table. Unfolding the
table to a depth that no text of the given length can use up gives the parser. It always
answers with a tree: what cannot be read is in error nodes, and how much that is and where it
begins is decided here and nowhere else. It serves for the evaluation of texts; what is shown
of a run holds for any `Grammars`.
-/

namespace TypedQueries

namespace Grammar

open Builder

/-- What each rule builds, given what the rules it refers to build. -/
def build (r : Rules) : Rule → Builder Unit
  | .statement => statement r
  | .block => block r
  | .expression inAllowed => expression r inAllowed
  | .sequence inAllowed => sequence r inAllowed
  | .binary minimum inAllowed => binary r minimum inAllowed
  | .operand => operand r (classExpression r)
  | .pattern => pattern r
  | .parameters => parameters r (decorators r)
  | .type => type r
  | .typeUnion => unionType r
  | .typeOperator => operatorType r
  | .classBody => classBody r
  | .element => element r

/-- The rules, referring to each other to the given depth. -/
def unfolded : Nat → Rules
  | 0 => fun _ => fail
  | depth + 1 => build (unfolded depth)

def interpreterLine : Builder Unit := do
  let lexeme ← peek
  if lexeme.start.offset == 0 then
    match lexeme.start.rest with
    | '#' :: '!' :: _ =>
        takeTo (lexeme.start.skipWhile fun c => c != '\n' && c != '\r') .hashBangLine true
    | _ => pure ()

/-- The place where the first comment or lexeme of the text begins. -/
def beginning : Builder Mark := fun script s =>
  some (⟨s.count, (Cursor.start script.source).skipWhile Lexeme.isBlank⟩, s)

/-- Moves on to the end of the text, over the blanks that are left. -/
def finish : Builder Unit := fun _ s => some ((), { s with last := s.ahead.start })

/-- The whole text, with the comments before its first lexeme and after its last one. A
closing brace without an opening one is an error by itself. -/
def program (r : Rules) : Builder Unit := do
  let since ← beginning
  interpreterLine
  repeatWhile do
    statements r []
    if ← sees "\x7d" then
      node .error token
      pure true
    else pure false
  settle
  finish
  gather since .program

end Grammar

def parse (dialect : Dialect) (source : String) : ParsedSource :=
  let script : Script := { source, dialect }
  let start := Cursor.start source
  let state : Builder.State :=
    { ahead := Lexeme.read source start, last := start, built := [], count := 0, strict := false }
  let rules := Grammar.unfolded (16 * source.utf8ByteSize + 64)
  let tree :=
    match Grammar.program rules script state with
    | some (_, { built := tree :: _, .. }) => tree
    | _ => .leaf source .program true start start
  { dialect, source, tree }

instance : Grammars where
  unavailable? _ := none
  tree? dialect source := some (parse dialect source).tree

end TypedQueries
