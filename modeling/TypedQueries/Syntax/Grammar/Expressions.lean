import TypedQueries.Syntax.Grammar.Patterns

/-! # The grammar of expressions

From weakest to strongest: assignments and arrow functions, conditionals, binary
operators, unary operators, then calls, members and the other suffixes, and the
primary expressions. Assertions with `as` and `satisfies` take everything to their
left that is not an assignment or a conditional.
-/

namespace TypedQueries

namespace Grammar

open Builder

/-- A list of arguments: expressions and spread ones, between commas. -/
def argument (r : Rules) : Builder Unit := do
  if ← sees "..." then
    node .spreadElement do
      token
      r (.expression true)
  else r (.expression true)

def arguments (r : Rules) : Builder Unit :=
  node .arguments do
    expect "("
    listUntil ")" (argument r)

def template (r : Rules) : Builder Unit :=
  node .templateString (templateBody .templateSubstitution (r (.sequence true)))

def functionBody (r : Rules) : Builder Unit := do
  withStrict false (r .block)
  playing .body

def functionExpression (r : Rules) : Builder Unit := do
  let since ← mark
  let _ ← accept "async"
  expect "function"
  let generator ← accept "*"
  if (← peek).isName then
    leaf .identifier
    playing .name
  signature r
  functionBody r
  gather since (if generator then .generatorFunction else .functionExpression)

/-- The part of an arrow function after its parameters. -/
def arrowBody (r : Rules) (inAllowed : Bool) : Builder Unit := do
  require !(← peek).afterNewline
  expect "=>"
  if ← sees "\x7b" then functionBody r
  else
    r (.expression inAllowed)
    playing .body

/-- An arrow function whose parameters are in parentheses. -/
def arrowFunction (r : Rules) (inAllowed : Bool) : Builder Unit :=
  node .arrowFunction do
    if (← sees "async") && (← second).text != "=>" then token
    if (← peek).shape == .word then
      nameLeaf .identifier
      playing .parameter
    else
      optionalTypeParameters r
      r .parameters
      playing .parameters
      if ← sees ":" then
        node .typeAscription do
          token
          r .type
    arrowBody r inAllowed

/-- How sure it is that an arrow function is ahead. -/
inductive Likelihood where
  | no | maybe | yes
deriving DecidableEq

/-- Whether an arrow function begins at the lexeme `opening`, which comes after the
word `async` or stands alone. -/
def arrowLikelihood (opening next : Lexeme) : Builder Likelihood := do
  if opening.text == "(" then
    match ← arrowAfter opening with
    | some true => pure .yes
    | some false => fun _ s => some (if s.strict then .no else .maybe, s)
    | none => pure .no
  else if opening.isName && next.text == "=>" && !next.afterNewline then pure .yes
  else if opening.text == "<" && next.shape == .word then
    if (← script).dialect == .markup then
      let source := (← script).source
      let third := Lexeme.read source next.stop
      if [",", "extends", "="].contains third.text || next.text == "const" then pure .maybe
      else if third.text == ">" then
        let fourth := Lexeme.read source third.stop
        if fourth.text == "(" then
          pure (if (← arrowAfter fourth).isSome then .maybe else .no)
        else pure .no
      else pure .no
    else pure .maybe
  else pure .no

def seesArrow : Builder Likelihood := do
  let first ← peek
  let next ← second
  let source := (← script).source
  if first.text == "async" && !next.afterNewline && next.text != "=>" then
    arrowLikelihood next (Lexeme.read source next.stop)
  else arrowLikelihood first next

/-- A property of an object: a spread one, a method, a pair or a name alone. -/
def property (r : Rules) : Builder Unit := do
  let lexeme ← peek
  let next ← second
  if lexeme.text == "..." then argument r
  else if lexeme.isName && (next.text == "," || next.text == "\x7d") then
    leaf .shorthandPropertyIdentifier
  else if lexeme.isName && next.text == "=" then
    defaulted r .objectAssignmentPattern (leaf .shorthandPropertyIdentifierPattern)
  else
    let since ← mark
    repeatWhile do
      let next ← second
      if (← seesAny ["async", "get", "set"]) && (beginsPropertyName next || next.text == "*") then
        token
        pure true
      else pure false
    let _ ← accept "*"
    propertyName r
    if ← seesAny ["(", "<"] then
      playing .name
      signature r
      functionBody r
      gather since .methodDefinition
    else
      expect ":"
      r (.expression true)
      playing .value
      gather since .pair

/-- Reads an object or array expression to the left of an assignment as a pattern. -/
def asPattern (t : Tree) : Tree :=
  match t.kind with
  | .object => t.withKind .objectPattern
  | .array => t.withKind .arrayPattern
  | _ => t

def importExpression : Builder Unit := do
  if (← second).text == "." then
    node .metaProperty do
      token
      token
      token
  else leaf .importExpression

/-- A primary expression; `classBuilder` builds class expressions. -/
def primary (r : Rules) (classBuilder : Builder Unit) : Builder Unit := do
  let lexeme ← peek
  match lexeme.shape with
  | .number => leaf .number
  | .quoted => stringLeaf .string
  | .privateName => leaf .privatePropertyIdentifier
  | .word =>
      match lexeme.text with
      | "this" => leaf .thisExpression
      | "super" => leaf .superExpression
      | "null" => leaf .nullLiteral
      | "true" => leaf .trueLiteral
      | "false" => leaf .falseLiteral
      | "undefined" => leaf .undefinedLiteral
      | "function" => functionExpression r
      | "class" => classBuilder
      | "import" => importExpression
      | text =>
          let next ← second
          if text == "async" && next.text == "function" && !next.afterNewline then
            functionExpression r
          else nameLeaf .identifier
  | .mark =>
      match lexeme.text with
      | "(" =>
          node .parenthesizedExpression do
            token
            withStrict false (r (.sequence true))
            optionalAscription r
            expect ")"
      | "[" =>
          node .array do
            token
            withStrict false (listUntil "]" (argument r))
      | "\x7b" =>
          node .object do
            token
            withStrict false (listUntil "\x7d" (property r))
      | "`" => template r
      | "/" | "/=" =>
          match Lexeme.regexEnd? lexeme.start with
          | some stop => takeTo stop .regex true
          | none => fail
      | "@" => classBuilder
      | _ => fail
  | .stray | .finish => fail

/-- Whether type arguments may end before the lexeme although no call follows. -/
def endsInstantiation (lexeme : Lexeme) : Bool :=
  lexeme.afterNewline ||
  match lexeme.shape with
  | .finish => true
  | .mark => !(["(", "[", "\x7b", "<", ">", "+", "-", "!", "~", "++", "--", "/", "@", "#",
      "`"].contains lexeme.text)
  | .word => ["as", "satisfies", "in", "of", "instanceof"].contains lexeme.text
  | _ => false

def memberName : Builder Unit := do
  match (← peek).shape with
  | .word => leaf .propertyIdentifier
  | .privateName => leaf .privatePropertyIdentifier
  | _ => fail
  playing .property

/-- Arguments or a template after a callee. -/
def callSuffix (r : Rules) (since : Mark) : Builder Unit := do
  if ← sees "(" then withStrict false (arguments r)
  else if ← sees "`" then template r
  else fail
  playing .arguments
  gather since .callExpression

/-- One suffix of the operand since a mark, if there is one. Without `calls` the
operand is what `new` constructs. -/
def suffix (r : Rules) (calls : Bool) (since : Mark) : Builder Bool := do
  let lexeme ← peek
  match lexeme.text with
  | "." =>
      playing .object
      token
      memberName
      gather since .memberExpression
      pure true
  | "?." =>
      if calls then
        let called := ["(", "`", "<"].contains (← second).text
        playing (if called then .function else .object)
        node .optionalChain token
        if called then
          if ← sees "<" then typeArguments r
          callSuffix r since
        else if ← accept "[" then
          withStrict false (r (.sequence true))
          expect "]"
          gather since .subscriptExpression
        else
          memberName
          gather since .memberExpression
        pure true
      else pure false
  | "[" =>
      playing .object
      token
      withStrict false (r (.sequence true))
      expect "]"
      gather since .subscriptExpression
      pure true
  | "(" | "`" =>
      if calls then
        playing .function
        callSuffix r since
        pure true
      else pure false
  | "!" =>
      if lexeme.afterNewline then pure false
      else
        token
        gather since .nonNullExpression
        pure true
  | "<" =>
      if calls then
        orElse
          (do
            playing .function
            typeArguments r
            if ← seesAny ["(", "`"] then callSuffix r since
            else
              require (endsInstantiation (← peek))
              gather since .instantiationExpression
            pure true)
          (pure false)
      else pure false
  | _ => pure false

def newExpression (r : Rules) (primary : Builder Unit) : Builder Unit := do
  let since ← mark
  if (← second).text == "." then
    token
    token
    token
    gather since .metaProperty
  else
    token
    let callee ← mark
    if ← sees "new" then r .operand
    else
      primary
      repeatWhile (suffix r false callee)
    let _ ← optional do
      typeArguments r
      require (← sees "(")
    if ← sees "(" then withStrict false (arguments r)
    gather since .newExpression

/-- A primary expression with its suffixes. -/
def suffixed (r : Rules) (classBuilder : Builder Unit) : Builder Unit := do
  let since ← mark
  if ← sees "new" then newExpression r (primary r classBuilder)
  else primary r classBuilder
  repeatWhile (suffix r true since)
  let lexeme ← peek
  if (lexeme.text == "++" || lexeme.text == "--") && !lexeme.afterNewline then
    token
    gather since .updateExpression

/-- Assertions after the operand since a mark. -/
def assertions (r : Rules) (since : Mark) : Builder Bool := do
  let lexeme ← peek
  if (lexeme.text == "as" || lexeme.text == "satisfies") && !lexeme.afterNewline then
    token
    if (lexeme.text == "as") && (← sees "const") then token else r .type
    gather since (if lexeme.text == "as" then .asExpression else .satisfiesExpression)
    pure true
  else pure false

/-- Whether the sibling built last ends in a block. -/
def endsInBlock : Builder Bool := fun _ s =>
  some (s.built.head?.any fun t => t.children.getLast?.any (·.kind == .statementBlock), s)

/-- An arrow function; what follows a body in braces applies to the function. -/
def arrow (r : Rules) (inAllowed : Bool) : Builder Unit := do
  let since ← mark
  arrowFunction r inAllowed
  if ← endsInBlock then
    repeatWhile (suffix r true since)
    repeatWhile (assertions r since)

/-- An operand: a unary operator and its operand, an arrow function, or a suffixed
expression. -/
def operand (r : Rules) (classBuilder : Builder Unit) : Builder Unit := do
  let lexeme ← peek
  match lexeme.text with
  | "!" | "~" | "+" | "-" | "typeof" | "void" | "delete" =>
      node .unaryExpression do
        token
        r .operand
  | "++" | "--" =>
      node .updateExpression do
        token
        r .operand
  | "await" =>
      node .awaitExpression do
        token
        let since ← mark
        if (← sees "using") && (← second).isName then r (.expression true)
        else
          r .operand
          repeatWhile (assertions r since)
  | "<" =>
      if (← script).dialect == .markup then r .element
      else
        node .typeAssertion do
          typeArguments r
          r .operand
  | _ =>
      match ← seesArrow with
      | .yes => arrow r true
      | _ => suffixed r classBuilder

/-- How strongly a binary operator binds, and whether it groups to the right. -/
def binding? (operator : String) : Option (Nat × Bool) :=
  match operator with
  | "??" => some (1, false)
  | "||" => some (2, false)
  | "&&" => some (3, false)
  | "|" => some (4, false)
  | "^" => some (5, false)
  | "&" => some (6, false)
  | "==" | "!=" | "===" | "!==" => some (7, false)
  | "<" | ">" | "<=" | ">=" | "instanceof" | "in" => some (8, false)
  | "<<" | ">>" | ">>>" => some (9, false)
  | "+" | "-" => some (10, false)
  | "*" | "/" | "%" => some (11, false)
  | "**" => some (12, true)
  | _ => none

/-- An operand and the binary operators after it that bind at least as strongly as
`minimum`. -/
def binary (r : Rules) (minimum : Nat) (inAllowed : Bool) : Builder Unit := do
  let since ← mark
  r .operand
  repeatWhile do
    let lexeme ← peek
    match binding? lexeme.text with
    | some (level, toRight) =>
        if level < minimum || (lexeme.text == "in" && !inAllowed) then pure false
        else
          token
          r (.binary (if toRight then level else level + 1) inAllowed)
          gather since .binaryExpression
          pure true
    | none =>
        if minimum == 0 || minimum == 12 then assertions r since else pure false

/-- Operators that assign after computing. -/
def augmentedOperators : List String :=
  ["+=", "-=", "*=", "/=", "%=", "**=", "<<=", ">>=", ">>>=", "&=", "|=", "^=", "&&=", "||=", "??="]

/-- A conditional or something simpler, and an assignment to it. -/
def conditional (r : Rules) (inAllowed : Bool) : Builder Unit := do
  let since ← mark
  if (← sees "using") && (← second).isName && !(← second).afterNewline then token
  r (.binary 0 inAllowed)
  let lexeme ← peek
  if lexeme.text == "?" then
    token
    orElse
      (do
        withStrict false (r (.expression true))
        require (← sees ":"))
      (withStrict true (r (.expression true)))
    expect ":"
    r (.expression inAllowed)
    gather since .ternaryExpression
  else if lexeme.text == "=" then
    revise asPattern
    playing .left
    token
    r (.expression inAllowed)
    gather since .assignmentExpression
  else if augmentedOperators.contains lexeme.text then
    playing .left
    token
    r (.expression inAllowed)
    gather since .augmentedAssignmentExpression

def yieldExpression (r : Rules) (inAllowed : Bool) : Builder Unit :=
  node .yieldExpression do
    token
    let lexeme ← peek
    if lexeme.text == "*" && !lexeme.afterNewline then
      token
      r (.expression inAllowed)
    else if !lexeme.afterNewline && lexeme.shape != .finish
        && !([")", "]", "\x7d", ",", ";", ":", "in", "of", "?"].contains lexeme.text) then
      r (.expression inAllowed)

/-- An expression without a comma at its top. -/
def expression (r : Rules) (inAllowed : Bool) : Builder Unit := do
  if ← sees "yield" then yieldExpression r inAllowed
  else
    match ← seesArrow with
    | .yes => arrow r inAllowed
    | .maybe => orElse (arrow r inAllowed) (conditional r inAllowed)
    | .no => conditional r inAllowed

/-- Expressions with commas between them. -/
def sequence (r : Rules) (inAllowed : Bool) : Builder Unit := do
  let since ← mark
  r (.expression inAllowed)
  if ← sees "," then
    repeatWhile do
      if ← accept "," then
        r (.expression inAllowed)
        pure true
      else pure false
    gather since .sequenceExpression

end Grammar

end TypedQueries
