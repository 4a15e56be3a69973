import TypedQueries.Syntax.Builder

/-! # Looking past brackets

Whether an opening parenthesis begins the parameters of an arrow function or a
grouped expression shows only after the matching closing parenthesis. The functions
here find the lexeme that follows it without building anything.
-/

namespace TypedQueries

namespace Lexeme

def reservedWords : List String :=
  ["break", "case", "catch", "class", "const", "continue", "debugger", "default", "delete", "do",
   "else", "extends", "false", "finally", "for", "function", "if", "import", "in", "instanceof",
   "new", "null", "return", "super", "switch", "this", "throw", "true", "try", "typeof", "var",
   "void", "while", "with", "yield", "await"]

/-- Whether the lexeme may be the name of something. -/
def isName (lexeme : Lexeme) : Bool :=
  lexeme.shape == .word && !reservedWords.contains lexeme.text

/-- Words after which an expression begins. -/
def operatorWords : List String :=
  ["return", "typeof", "void", "delete", "await", "yield", "case", "in", "of", "instanceof", "new",
   "throw", "else", "do"]

/-- Whether a slash after the lexeme divides. -/
def endsOperand (lexeme : Lexeme) : Bool :=
  match lexeme.shape with
  | .word => !operatorWords.contains lexeme.text
  | .privateName | .number | .quoted => true
  | .mark => lexeme.text == ")" || lexeme.text == "]" || lexeme.text == "\x7d"
  | .stray | .finish => false

/-- What is open while brackets are skipped: a bracket, or a substitution of a
template. -/
inductive Opening where
  | bracket | substitution
deriving DecidableEq

/-- The lexeme after all open brackets have been closed. `steps` bounds the number of
lexemes looked at, `afterOperand` tells whether a slash divides. -/
def afterClosing (source : String) : Nat → List Opening → Bool → Cursor → Option Lexeme
  | 0, _, _, _ => none
  | _ + 1, [], _, here => some (read source here)
  | steps + 1, opening :: outer, afterOperand, here =>
      let lexeme := read source here
      let template := fun (open' : List Opening) (start : Cursor) =>
        match templateFrom start.rest start false with
        | none => none
        | some (.closed, stop, _) => afterClosing source steps open' true stop.step
        | some (.substitution, stop, _) =>
            afterClosing source steps (.substitution :: open') false (stop.advance 2)
      match lexeme.text with
      | "" => none
      | "(" | "[" | "\x7b" =>
          afterClosing source steps (.bracket :: opening :: outer) false lexeme.stop
      | ")" | "]" => afterClosing source steps outer true lexeme.stop
      | "\x7d" =>
          match opening with
          | .bracket => afterClosing source steps outer true lexeme.stop
          | .substitution => template outer lexeme.stop
      | "`" => template (opening :: outer) lexeme.stop
      | "/" | "/=" =>
          if afterOperand then afterClosing source steps (opening :: outer) false lexeme.stop
          else
            match regexEnd? lexeme.start with
            | some stop => afterClosing source steps (opening :: outer) true stop
            | none => none
      | _ => afterClosing source steps (opening :: outer) lexeme.endsOperand lexeme.stop

end Lexeme

namespace Builder

/-- The lexeme after the parenthesis that closes the given open one. -/
def follower (opening : Lexeme) : Builder (Option Lexeme) := do
  let source := (← script).source
  let steps := source.utf8ByteSize - opening.start.offset + 2
  pure (Lexeme.afterClosing source steps [.bracket] false opening.stop)

/-- Whether the given open parenthesis holds the parameters of an arrow function:
`some true` when an arrow follows, `some false` when a colon does, which may also
belong to a conditional. -/
def arrowAfter (opening : Lexeme) : Builder (Option Bool) := do
  match ← follower opening with
  | none => pure none
  | some lexeme =>
      if lexeme.text == "=>" then pure (some true)
      else if lexeme.text == ":" then pure (some false)
      else pure none

end Builder

end TypedQueries
