import TypedQueries.Syntax.Grammar.Expressions

/-! # The grammar of classes

Class headings and members: fields, methods, accessors, constructors, signatures
without a body, index signatures and static blocks.
-/

namespace TypedQueries

namespace Grammar

open Builder

/-- A decorator: a name with members and at most one call. -/
def decorator (r : Rules) : Builder Unit :=
  node .decorator do
    expect "@"
    let since ← mark
    if ← sees "(" then
      node .parenthesizedExpression do
        token
        r (.sequence true)
        expect ")"
    else nameLeaf .identifier
    repeatWhile do
      if ← sees "." then
        suffix r true since
      else if ← seesAny ["(", "<"] then
        let called ← suffix r true since
        if called && (← sees ".") then pure true else pure false
      else pure false

def decorators (r : Rules) : Builder Unit :=
  repeatWhile do
    if ← sees "@" then
      decorator r
      pure true
    else pure false

/-- Names of types after `implements` or in the heading of an interface. -/
def typeClause (r : Rules) (kind : Kind) : Builder Unit :=
  node kind do
    token
    separated "," (r .type)

def heritage (r : Rules) (classBuilder : Builder Unit) : Builder Unit := do
  if ← seesAny ["extends", "implements"] then
    node .classHeritage do
      if ← sees "extends" then
        node .extendsClause do
          token
          separated "," do
            suffixed r classBuilder
            playing .value
            if ← sees "<" then typeArguments r
      if ← sees "implements" then typeClause r .implementsClause

/-- Words that may stand before the name of a member. -/
def memberModifiers : List String :=
  ["public", "private", "protected", "static", "override", "readonly", "abstract", "declare",
   "async", "get", "set", "accessor"]

/-- Passes the modifiers of a member; tells whether `abstract` was among them. -/
def passMemberModifiers : Builder Bool := do
  let since ← mark
  repeatWhile do
    let lexeme ← peek
    let next ← second
    if memberModifiers.contains lexeme.text && (beginsPropertyName next || next.text == "*")
        && !(next.afterNewline && ["get", "set", "async", "accessor"].contains lexeme.text) then
      match lexeme.text with
      | "override" => leaf .overrideModifier
      | "public" | "private" | "protected" => leaf .accessibilityModifier
      | _ => token
      pure true
    else pure false
  pure ((← siblings since).any (·.text == "abstract"))

def member (r : Rules) : Builder Unit := do
  let since ← mark
  decorators r
  if (← sees "static") && (← second).text == "\x7b" then
    token
    functionBody r
    gather since .classStaticBlock
  else
    let isAbstract ← passMemberModifiers
    let _ ← accept "*"
    if ← seesIndexSignature then indexSignature r
    else
      propertyName r
      playing .name
      if !(← accept "?") then
        let _ ← accept "!"
      if ← seesAny ["(", "<"] then
        signature r
        if ← sees "\x7b" then
          functionBody r
          gather since .methodDefinition
        else gather since (if isAbstract then .abstractMethodSignature else .methodSignature)
      else
        optionalAscription r
        if ← accept "=" then
          r (.expression true)
          playing .value
        let next ← peek
        require (next.text == ";" || next.text == "," || next.text == "\x7d" || next.afterNewline)
        gather since .publicFieldDefinition

/-- A closing brace, supplied where the text ends too early. -/
def closeBrace : Builder Unit := do
  if (← peek).shape == .finish then supply else expect "\x7d"

def classBody (r : Rules) : Builder Unit :=
  node .classBody do
    expect "\x7b"
    repeatWhile do
      if (← sees "\x7d") || (← peek).shape == .finish then pure false
      else if ← accept ";" then pure true
      else
        member r
        let _ ← accept ","
        pure true
    closeBrace

/-- The part of a class after the word `class`; `classBuilder` builds class
expressions. -/
def classTail (r : Rules) (classBuilder : Builder Unit) : Builder Unit := do
  expect "class"
  if (← peek).isName && !(← seesAny ["implements"]) then
    leaf .typeIdentifier
    playing .name
  optionalTypeParameters r
  heritage r classBuilder
  r .classBody
  playing .body

/-- A class expression. Its `extends` clause admits class expressions in
parentheses only. -/
def classExpression (r : Rules) : Builder Unit :=
  node .classExpression do
    decorators r
    classTail r fail

end Grammar

end TypedQueries
