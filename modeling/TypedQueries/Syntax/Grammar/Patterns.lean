import TypedQueries.Syntax.Grammar.Types

/-! # The grammar of patterns and parameters

Patterns bind names: alone, in the properties of objects, in the elements of arrays,
with default values and as the rest of either. A parameter is a pattern with
modifiers before it and a type and a default value after it.
-/

namespace TypedQueries

namespace Grammar

open Builder

/-- A pattern and its default value, if it has one. -/
def defaulted (r : Rules) (kind : Kind) (target : Builder Unit) : Builder Unit := do
  let since ← mark
  target
  if ← sees "=" then
    playing .left
    token
    r (.expression true)
    gather since kind

/-- A pattern in another one or in a parameter. The word `undefined` keeps its own kind there. -/
def innerPattern (r : Rules) : Builder Unit := do
  if ← sees "undefined" then leaf .undefinedLiteral else r .pattern

/-- The rest of an object, an array or the parameters. -/
def restPattern (r : Rules) : Builder Unit :=
  node .restPattern do
    expect "..."
    innerPattern r

def propertyPattern (r : Rules) : Builder Unit := do
  if ← sees "..." then restPattern r
  else
    let lexeme ← peek
    let next ← second
    if lexeme.shape == .word && next.text != ":" then
      defaulted r .objectAssignmentPattern (nameLeaf .shorthandPropertyIdentifierPattern)
    else
      node .pairPattern do
        propertyName r
        expect ":"
        defaulted r .assignmentPattern (innerPattern r)
        playing .value

def elementPattern (r : Rules) : Builder Unit := do
  if ← sees "..." then restPattern r
  else defaulted r .assignmentPattern (innerPattern r)

/-- A name, an object pattern or an array pattern. -/
def pattern (r : Rules) : Builder Unit := do
  match (← peek).text with
  | "\x7b" =>
      node .objectPattern do
        token
        listUntil "\x7d" (propertyPattern r)
  | "[" =>
      node .arrayPattern do
        token
        listUntil "]" (elementPattern r)
  | _ => nameLeaf .identifier

/-- Words that may stand before the pattern of a parameter. -/
def parameterModifiers : List String :=
  ["public", "private", "protected", "override", "readonly"]

def passParameterModifiers : Builder Unit :=
  repeatWhile do
    let lexeme ← peek
    let next ← second
    if parameterModifiers.contains lexeme.text
        && (next.shape == .word || next.text == "\x7b" || next.text == "[") then
      match lexeme.text with
      | "override" => leaf .overrideModifier
      | "readonly" => token
      | _ => leaf .accessibilityModifier
      pure true
    else pure false

/-- A parameter; `decorators` builds the decorators before it. -/
def parameter (r : Rules) (decorators : Builder Unit) : Builder Unit := do
  let since ← mark
  decorators
  passParameterModifiers
  if ← sees "this" then leaf .thisExpression
  else if ← sees "..." then restPattern r
  else innerPattern r
  playing .pattern
  let optional' ← accept "?"
  optionalAscription r
  if ← accept "=" then
    r (.expression true)
    playing .value
  gather since (if optional' then .optionalParameter else .requiredParameter)

def parameters (r : Rules) (decorators : Builder Unit) : Builder Unit :=
  node .formalParameters do
    expect "("
    listUntil ")" (parameter r decorators)

end Grammar

end TypedQueries
