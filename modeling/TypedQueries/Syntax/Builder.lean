import TypedQueries.Syntax.Language
import TypedQueries.Syntax.Lexeme

/-! # Building syntax trees

A builder reads lexemes and grows the tree from its leaves: each lexeme taken
becomes a leaf, and a finished stretch of siblings is gathered under a node.
Comments are placed when the next lexeme is reached, so each one lies in the
smallest node that holds the lexemes on both its sides.

Builders are values without side effects: going back is running another builder
from the same state. Loops stop when an iteration does not move forward.
-/

namespace TypedQueries

/-- What a builder reads from. -/
structure Script where
  source : String
  dialect : Dialect

namespace Builder

/-- The lexeme ahead, the end of the last lexeme taken, and the siblings built so
far, latest first. While `strict` holds, an arrow function in parentheses has no
result type, so that a colon belongs to the enclosing conditional. -/
structure State where
  ahead : Lexeme
  last : Cursor
  built : List Tree
  count : Nat
  strict : Bool

end Builder

def Builder (α : Type) : Type := Script → Builder.State → Option (α × Builder.State)

namespace Builder

instance : Monad Builder where
  pure a := fun _ s => some (a, s)
  bind p f := fun script s =>
    match p script s with
    | none => none
    | some (a, s') => f a script s'

def fail {α : Type} : Builder α := fun _ _ => none

/-- The second builder where the first one fails. -/
def orElse {α : Type} (p q : Builder α) : Builder α := fun script s =>
  match p script s with
  | none => q script s
  | some r => some r

/-- Runs a builder if it succeeds; tells whether it did. -/
def optional (p : Builder Unit) : Builder Bool :=
  orElse (do p; pure true) (pure false)

def require (b : Bool) : Builder Unit := if b then pure () else fail

def peek : Builder Lexeme := fun _ s => some (s.ahead, s)

def second : Builder Lexeme := fun script s =>
  some (Lexeme.read script.source s.ahead.stop, s)

def script : Builder Script := fun script s => some (script, s)

/-- Whether the lexeme ahead is the given word or mark. -/
def sees (text : String) : Builder Bool := fun _ s => some (s.ahead.text == text, s)

/-- Whether the lexeme ahead is one of the given words or marks. -/
def seesAny (texts : List String) : Builder Bool := fun _ s =>
  some (texts.contains s.ahead.text, s)

/-- Places the comments before the lexeme ahead among the siblings. -/
def settle : Builder Unit := fun _ s =>
  match s.ahead.comments with
  | [] => some ((), s)
  | comments =>
      some ((), { s with
        built := comments ++ s.built
        count := s.count + comments.length
        ahead := { s.ahead with comments := [] } })

def add (t : Tree) : Builder Unit := fun _ s =>
  some ((), { s with built := t :: s.built, count := s.count + 1 })

/-- Moves on: the last lexeme ended at the given place, the next one is read there. -/
def resume (last : Cursor) : Builder Unit := fun script s =>
  some ((), { s with last, ahead := Lexeme.read script.source last })

/-- Takes the text up to a place as a leaf, beginning with the lexeme ahead. -/
def takeTo (stop : Cursor) (kind : Kind) (named : Bool) : Builder Unit := do
  settle
  let lexeme ← peek
  let source := (← script).source
  add (.leaf source kind named lexeme.start stop)
  resume stop

/-- Takes the lexeme ahead as a leaf of the given kind. -/
def leaf (kind : Kind) : Builder Unit := do takeTo (← peek).stop kind true

/-- Takes the lexeme ahead as punctuation. -/
def token : Builder Unit := do takeTo (← peek).stop .token false

/-- Takes the given word or mark, or fails. -/
def expect (text : String) : Builder Unit := do
  require (← sees text)
  token

/-- Takes the given word or mark if it is ahead; tells whether it was. -/
def accept (text : String) : Builder Bool := do
  if ← sees text then
    token
    pure true
  else pure false

/-- Takes a closing angle bracket, which may be the first character of a longer mark. -/
def expectAngle : Builder Unit := do
  let lexeme ← peek
  require (lexeme.shape == .mark && lexeme.text.startsWith ">")
  takeTo lexeme.start.step .token false

/-- Gives the sibling built last a role in the node to come. -/
def playing (role : Role) : Builder Unit := fun _ s =>
  match s.built with
  | [] => some ((), s)
  | t :: rest => some ((), { s with built := t.withRole role :: rest })

def revise (f : Tree → Tree) : Builder Unit := fun _ s =>
  match s.built with
  | [] => some ((), s)
  | t :: rest => some ((), { s with built := f t :: rest })

/-- A place among the siblings from which they may be gathered. -/
structure Mark where
  count : Nat
  start : Cursor

/-- Marks the place before the lexeme ahead. -/
def mark : Builder Mark := do
  settle
  fun _ s => some (⟨s.count, s.ahead.start⟩, s)

def siblings (since : Mark) : Builder (List Tree) := fun _ s =>
  some ((s.built.take (s.count - since.count)).reverse, s)

/-- Gathers the siblings since a mark under a node. -/
def gather (since : Mark) (kind : Kind) : Builder Unit := fun script s =>
  let children := (s.built.take (s.count - since.count)).reverse
  let label : Label :=
    { kind, role := none, named := true, missing := false
      flagged := kind == .error || children.any (·.label.flagged)
      start := since.start.place, stop := s.last.place
      text := since.start.textTo script.source s.last }
  some ((), { s with
    built := .node label children :: s.built.drop (s.count - since.count)
    count := since.count + 1 })

/-- A node that holds what a builder builds. -/
def node (kind : Kind) (body : Builder Unit) : Builder Unit := do
  let since ← mark
  body
  gather since kind

/-- Supplies a token the text lacks, after the sibling built last. -/
def supply : Builder Unit := fun _ s =>
  let place := (s.built.head?.map (·.label.stop)).getD s.last.place
  some ((), { s with built := .absent place :: s.built, count := s.count + 1 })

/-- Runs a builder with the rule on result types of arrow functions in force or not. -/
def withStrict {α : Type} (strict : Bool) (p : Builder α) : Builder α := fun script s =>
  match p script { s with strict } with
  | none => none
  | some (a, s') => some (a, { s' with strict := s.strict })

def State.remaining (script : Script) (s : State) : Nat :=
  script.source.utf8ByteSize - s.ahead.start.offset

/-- Repeats a builder while it yields `true` and moves forward. -/
def repeatWhile (p : Builder Bool) : Builder Unit := fun script s =>
  match p script s with
  | none => none
  | some (false, s') => some ((), s')
  | some (true, s') =>
      if s'.remaining script < s.remaining script then repeatWhile p script s'
      else some ((), s')
termination_by script s => s.remaining script

/-- One or more of the given builder with a separator between them. -/
def separated (separator : String) (p : Builder Unit) : Builder Unit := do
  p
  repeatWhile do
    if ← accept separator then
      p
      pure true
    else pure false

/-- Items up to a closing mark, separated by commas that may be left out at the end
or doubled; each item may be absent. Takes the closing mark. -/
def listUntil (closing : String) (item : Builder Unit) : Builder Unit := do
  repeatWhile do
    if ← sees closing then pure false
    else if ← accept "," then pure true
    else
      item
      if ← sees closing then pure false
      else
        expect ","
        pure true
  expect closing

end Builder

/-- The rules of the grammar that refer to each other. `inAllowed` tells whether the
word `in` may be an operator, `minimum` the weakest binding an operator may have. -/
inductive Rule where
  | statement
  | block
  | expression (inAllowed : Bool)
  | sequence (inAllowed : Bool)
  | binary (minimum : Nat) (inAllowed : Bool)
  | operand
  | pattern
  | parameters
  | type
  | typeUnion
  | typeOperator
  | classBody
  | element
deriving Repr

/-- A meaning for each rule, to be used by the rules themselves. -/
abbrev Rules : Type := Rule → Builder Unit

end TypedQueries
