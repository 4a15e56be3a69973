import TypedQueries.Syntax.Cursor

/-! # Lexemes

The lexemes of TypeScript, read one at a time. Blanks and comments before a
lexeme belong to it. What a slash or a backtick begins depends on the grammar, so
regular expressions, templates and markup text are read by functions of their own
from the place where the grammar expects them.
-/

namespace TypedQueries

/-- The shapes of lexemes. -/
inductive Shape where
  | word | privateName | number | quoted | mark | stray | finish
deriving DecidableEq, Repr, Inhabited

/-- A lexeme with the comments before it. `afterNewline` tells that a line ends
between the previous lexeme and this one, `flawed` that a string holds an
ill-formed escape. -/
structure Lexeme where
  shape : Shape
  text : String
  start : Cursor
  stop : Cursor
  afterNewline : Bool
  comments : List Tree
  flawed : Bool
deriving Inhabited

namespace Lexeme

def isBlank (c : Char) : Bool :=
  c == ' ' || ('\t' ≤ c && c ≤ '\r') || c == '\u00a0' || c == '\u1680'
    || ('\u2000' ≤ c && c ≤ '\u200b') || c == '\u2028' || c == '\u2029' || c == '\u202f'
    || c == '\u205f' || c == '\u2060' || c == '\u3000' || c == '\ufeff'

def endsComment (c : Char) : Bool :=
  c == '\n' || c == '\r' || c == '\u2028' || c == '\u2029'

/-- Characters whose presence between two lexemes may stand for a semicolon. -/
def separatesStatements (c : Char) : Bool :=
  c == '\n' || c == '\u2028' || c == '\u2029'

def continuesWord (c : Char) : Bool :=
  if c.toNat < 128 then c.isAlphanum || c == '_' || c == '$' || c == '\x7f'
  else !isBlank c

def beginsWord (c : Char) : Bool := continuesWord c && !c.isDigit

def isHexDigit (c : Char) : Bool :=
  c.isDigit || ('a' ≤ c && c ≤ 'f') || ('A' ≤ c && c ≤ 'F')

/-- What lies before a lexeme: its start, whether a line ended, and the comments,
latest first. -/
structure Lead where
  start : Cursor
  newline : Bool
  comments : List Tree

/-- Where the reader of blanks is: between lexemes or in a comment. -/
inductive LeadMode where
  | blank
  | line (start : Cursor)
  | block (start : Cursor)

/-- Steps over blanks and comments. A block comment without an end is none. -/
def lead (source : String) : LeadMode → List Char → Cursor → Bool → List Tree → Lead
  | .blank, [], here, newline, comments => ⟨here, newline, comments⟩
  | .blank, '/' :: '/' :: rest, here, newline, comments =>
      lead source (.line here) rest ((here.after '/' ('/' :: rest)).after '/' rest) newline comments
  | .blank, '/' :: '*' :: rest, here, newline, comments =>
      let inside := (here.after '/' ('*' :: rest)).after '*' rest
      lead source (.block here) rest inside newline comments
  | .blank, c :: rest, here, newline, comments =>
      if isBlank c then
        lead source .blank rest (here.after c rest) (newline || separatesStatements c) comments
      else ⟨here, newline, comments⟩
  | .line start, [], here, newline, comments =>
      ⟨here, newline, .leaf source .comment true start here :: comments⟩
  | .line start, c :: rest, here, newline, comments =>
      if endsComment c then
        lead source .blank rest (here.after c rest) (newline || separatesStatements c)
          (.leaf source .comment true start here :: comments)
      else lead source (.line start) rest (here.after c rest) newline comments
  | .block start, [], _, newline, comments => ⟨start, newline, comments⟩
  | .block start, '*' :: '/' :: rest, here, newline, comments =>
      let stop := (here.after '*' ('/' :: rest)).after '/' rest
      lead source .blank rest stop newline (.leaf source .comment true start stop :: comments)
  | .block start, c :: rest, here, newline, comments =>
      lead source (.block start) rest (here.after c rest)
        (newline || separatesStatements c) comments

/-- The length of the mark that begins the given characters. -/
def markLength : List Char → Nat
  | '>' :: '>' :: '>' :: '=' :: _ => 4
  | '.' :: '.' :: '.' :: _ | '=' :: '=' :: '=' :: _ | '!' :: '=' :: '=' :: _
  | '*' :: '*' :: '=' :: _ | '<' :: '<' :: '=' :: _ | '>' :: '>' :: '=' :: _
  | '>' :: '>' :: '>' :: _ | '&' :: '&' :: '=' :: _ | '|' :: '|' :: '=' :: _
  | '?' :: '?' :: '=' :: _ => 3
  | '?' :: '.' :: c :: _ => if c.isDigit then 1 else 2
  | '?' :: '.' :: [] | '=' :: '>' :: _ | '=' :: '=' :: _ | '!' :: '=' :: _ | '<' :: '=' :: _
  | '>' :: '=' :: _ | '<' :: '<' :: _ | '>' :: '>' :: _ | '&' :: '&' :: _ | '|' :: '|' :: _
  | '?' :: '?' :: _ | '+' :: '+' :: _ | '-' :: '-' :: _ | '*' :: '*' :: _ | '+' :: '=' :: _
  | '-' :: '=' :: _ | '*' :: '=' :: _ | '/' :: '=' :: _ | '%' :: '=' :: _ | '&' :: '=' :: _
  | '|' :: '=' :: _ | '^' :: '=' :: _ => 2
  | c :: _ => if "\x7b\x7d()[];,<>+-*/%&|^!~?:=.@`".toList.contains c then 1 else 0
  | [] => 0

/-- Whether a backslash may stand before the given characters. -/
def escapeIsWellFormed : List Char → Bool
  | [] => false
  | 'x' :: a :: b :: _ => isHexDigit a && isHexDigit b
  | 'x' :: _ => false
  | 'u' :: '\x7b' :: rest =>
      let digits := rest.takeWhile isHexDigit
      !digits.isEmpty && (rest.drop digits.length).head? == some '\x7d'
  | 'u' :: a :: b :: c :: d :: _ => [a, b, c, d].all isHexDigit
  | 'u' :: _ => false
  | _ => true

/-- Reads the rest of a quoted string: the place after its closing quote and
whether an escape in it is ill-formed. An unescaped line end leaves it open. -/
def quotedFrom (quote : Char) : List Char → Cursor → Bool → Option (Cursor × Bool)
  | [], _, _ => none
  | '\\' :: '\r' :: '\n' :: rest, here, flawed =>
      quotedFrom quote rest (here.advance 3) flawed
  | '\\' :: c :: rest, here, flawed =>
      quotedFrom quote rest ((here.after '\\' (c :: rest)).after c rest)
        (flawed || !escapeIsWellFormed (c :: rest))
  | c :: rest, here, flawed =>
      if c == quote then some (here.after c rest, flawed)
      else if c == '\n' || c == '\r' then none
      else quotedFrom quote rest (here.after c rest) flawed

/-- Steps over the rest of a word, its escapes included; `braced` within the braces
of one. -/
def wordFrom (braced : Bool) : List Char → Cursor → Cursor
  | [], here => here
  | '\\' :: 'u' :: '\x7b' :: rest, here =>
      wordFrom true rest
        (((here.after '\\' ('u' :: '\x7b' :: rest)).after 'u' ('\x7b' :: rest)).after '\x7b' rest)
  | '\\' :: 'u' :: rest, here =>
      wordFrom false rest ((here.after '\\' ('u' :: rest)).after 'u' rest)
  | c :: rest, here =>
      if braced then wordFrom (c != '\x7d') rest (here.after c rest)
      else if continuesWord c then wordFrom false rest (here.after c rest)
      else here

/-- Steps over an exponent, if one follows. -/
def exponent (here : Cursor) : Cursor :=
  match here.rest with
  | e :: s :: d :: _ =>
      if (e == 'e' || e == 'E') && (s == '+' || s == '-') && d.isDigit then
        (here.advance 2).skipWhile fun c => c.isDigit || c == '_'
      else if (e == 'e' || e == 'E') && s.isDigit then
        here.step.skipWhile fun c => c.isDigit || c == '_'
      else here
  | e :: s :: [] =>
      if (e == 'e' || e == 'E') && s.isDigit then here.advance 2 else here
  | _ => here

/-- Steps over a number that begins here. -/
def number (here : Cursor) : Cursor :=
  let digits := fun (cursor : Cursor) => cursor.skipWhile fun c => c.isDigit || c == '_'
  match here.rest with
  | '0' :: x :: _ =>
      if "xXoObB".toList.contains x then
        (here.advance 2).skipWhile fun c => c.isAlphanum || c == '_'
      else decimal digits
  | _ => decimal digits
where
  decimal (digits : Cursor → Cursor) : Cursor :=
    let whole := digits here
    let all :=
      match whole.rest with
      | '.' :: _ => exponent (digits whole.step)
      | _ => exponent whole
    match all.rest with
    | 'n' :: _ => all.step
    | _ => all

/-- The shape of the lexeme that begins here, its end, and whether it is flawed. -/
def scan (start : Cursor) : Shape × Cursor × Bool :=
  match start.rest with
  | [] => (.finish, start, false)
  | c :: rest =>
      if c == '\x27' || c == '\x22' then
        match quotedFrom c rest (start.after c rest) false with
        | some (stop, flawed) => (.quoted, stop, flawed)
        | none => (.stray, start.step, false)
      else if c.isDigit || (c == '.' && rest.head?.any (·.isDigit)) then
        (.number, number start, false)
      else if beginsWord c || (c == '\\' && rest.head? == some 'u') then
        (.word, wordFrom false start.rest start, false)
      else if c == '#' && rest.head?.any beginsWord then
        (.privateName, wordFrom false rest start.step, false)
      else
        match markLength start.rest with
        | 0 => (.stray, start.step, false)
        | n => (.mark, start.advance n, false)

def read (source : String) (origin : Cursor) : Lexeme :=
  let before := lead source .blank origin.rest origin false []
  let (shape, stop, flawed) := scan before.start
  { shape, text := before.start.textTo source stop, start := before.start, stop
    afterNewline := before.newline, comments := before.comments, flawed }

/-- Steps over the body of a regular expression; `inClass` within brackets. -/
def regexFrom : Bool → List Char → Cursor → Option Cursor
  | _, [], _ => none
  | inClass, '\\' :: c :: rest, here =>
      if endsComment c then none
      else regexFrom inClass rest ((here.after '\\' (c :: rest)).after c rest)
  | inClass, c :: rest, here =>
      if endsComment c then none
      else if c == '/' && !inClass then some (here.after c rest)
      else
        regexFrom (if c == '[' then true else if c == ']' then false else inClass) rest
          (here.after c rest)

/-- The end of the regular expression that begins here, flags included. -/
def regexEnd? (start : Cursor) : Option Cursor :=
  match start.rest with
  | '/' :: rest => (regexFrom false rest (start.after '/' rest)).map (·.skipWhile Char.isAlpha)
  | _ => none

/-- How a stretch of template text ends. -/
inductive TemplateEnd where
  | closed | substitution
deriving DecidableEq, Repr

/-- Steps over template text to its backtick or to `${`; the place is that of the
ending. -/
def templateFrom : List Char → Cursor → Bool → Option (TemplateEnd × Cursor × Bool)
  | [], _, _ => none
  | '\\' :: c :: rest, here, flawed =>
      templateFrom rest ((here.after '\\' (c :: rest)).after c rest)
        (flawed || !escapeIsWellFormed (c :: rest))
  | '\x60' :: _, here, flawed => some (.closed, here, flawed)
  | '$' :: '\x7b' :: _, here, flawed => some (.substitution, here, flawed)
  | c :: rest, here, flawed => templateFrom rest (here.after c rest) flawed

end Lexeme

end TypedQueries
