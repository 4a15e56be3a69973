import TypedQueries.Syntax.Grammar.Types

/-! # The grammar of markup elements

Elements with a tag, attributes and children. The names of the opening and closing
tag are not compared. Text between tags is read as it stands, comments included.
-/

namespace TypedQueries

namespace Grammar

open Builder

def continuesTagName (c : Char) : Bool := Lexeme.continuesWord c || c == '-'

/-- A name within a tag, which may hold hyphens. -/
def tagWord (kind : Kind) : Builder Unit := do
  let lexeme ← peek
  require (lexeme.shape == .word)
  takeTo (lexeme.start.skipWhile continuesTagName) kind true

/-- The name of an element: a word, words with dots, or two words with a colon. -/
def tagName : Builder Unit := do
  let since ← mark
  tagWord .identifier
  if ← accept ":" then
    tagWord .identifier
    gather since .jsxNamespaceName
  else
    repeatWhile do
      if ← sees "." then
        playing .object
        token
        tagWord .propertyIdentifier
        playing .property
        gather since .memberExpression
        pure true
      else pure false

/-- An expression in braces, which may be absent or spread. -/
def embedded (r : Rules) : Builder Unit :=
  node .jsxExpression do
    expect "\x7b"
    if ← sees "..." then
      node .spreadElement do
        token
        r (.expression true)
    else if !(← sees "\x7d") then r (.sequence true)
    settle
    expect "\x7d"

/-- The value of an attribute. A quoted one runs to the next such quote. -/
def attributeValue (r : Rules) : Builder Unit := do
  let lexeme ← peek
  match lexeme.start.rest with
  | '\x7b' :: _ => embedded r
  | '<' :: _ => r .element
  | quote :: _ =>
      require (quote == '\x27' || quote == '\x22')
      let stop := lexeme.start.step.skipWhile (· != quote)
      require (!stop.rest.isEmpty)
      takeTo stop.step .string true
  | [] => fail

def attributes (r : Rules) : Builder Unit :=
  repeatWhile do
    let lexeme ← peek
    if lexeme.text == "\x7b" then
      embedded r
      pure true
    else if lexeme.shape == .word then
      node .jsxAttribute do
        tagWord .propertyIdentifier
        if ← accept ":" then tagWord .propertyIdentifier
        if ← accept "=" then attributeValue r
      pure true
    else pure false

/-- Takes the text up to the next tag or brace as a leaf. -/
def elementText : Builder Bool := fun script s =>
  let stop := s.last.skipWhile fun c => c != '<' && c != '\x7b'
  let s :=
    if stop.offset == s.last.offset then s
    else
      { s with
        built := .leaf script.source .jsxText true s.last stop :: s.built
        count := s.count + 1 }
  match stop.rest with
  | [] => none
  | _ =>
      some (true, { s with
        last := stop
        ahead := { Lexeme.read script.source stop with comments := [] } })

/-- The children of an element, up to its closing tag. -/
def elementChildren (r : Rules) : Builder Unit :=
  repeatWhile do
    let _ ← elementText
    if ← sees "\x7b" then
      embedded r
      pure true
    else if (← second).text == "/" then pure false
    else
      r .element
      pure true

def element (r : Rules) : Builder Unit := do
  let since ← mark
  expect "<"
  if ← sees ">" then
    token
    gather since .jsxOpeningElement
    content since
  else
    tagName
    if ← sees "<" then typeArguments r
    attributes r
    if ← accept "/" then
      expect ">"
      gather since .jsxSelfClosingElement
    else
      expectAngle
      gather since .jsxOpeningElement
      content since
where
  content (since : Mark) : Builder Unit := do
    elementChildren r
    node .jsxClosingElement do
      expect "<"
      expect "/"
      if !(← (do pure ((← peek).text.startsWith ">"))) then tagName
      expectAngle
    gather since .jsxElement

end Grammar

end TypedQueries
