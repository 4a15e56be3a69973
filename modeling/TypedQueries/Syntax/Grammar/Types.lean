import TypedQueries.Syntax.Lookahead

/-! # The grammar of types

Type annotations, type arguments and parameters, and the types themselves. A type
holds no calls and declares no variables, so its tree is coarser than that of an
expression where nothing depends on the difference.
-/

namespace TypedQueries

namespace Grammar

open Builder

/-- The words that are types by themselves. -/
def predefinedTypes : List String :=
  ["any", "unknown", "never", "number", "boolean", "string", "symbol", "object", "void", "bigint"]

/-- Takes the lexeme ahead as a leaf if it is a word. -/
def wordLeaf (kind : Kind) : Builder Unit := do
  require ((← peek).shape == .word)
  leaf kind

/-- Takes the lexeme ahead as a leaf if it may name something. -/
def nameLeaf (kind : Kind) : Builder Unit := do
  require (← peek).isName
  leaf kind

/-- A string literal; an ill-formed escape in it is an error. -/
def stringLeaf (kind : Kind) : Builder Unit := do
  let lexeme ← peek
  require (lexeme.shape == .quoted)
  if lexeme.flawed then
    let since ← mark
    takeTo lexeme.stop .error true
    gather since kind
  else leaf kind

/-- The stretches of a template up to its closing backtick; `hole` builds the inside of a
substitution, `kind` is the kind of substitutions. -/
def templateBody (kind : Kind) (hole : Builder Unit) : Builder Unit := do
  expect "`"
  repeatWhile do
    match ← stretch with
    | .closed => pure false
    | .substitution =>
        node kind do
          token
          hole
          expect "\x7d"
        pure true
  expect "`"
where
  /-- Passes template text and reads the lexeme that ends it. -/
  stretch : Builder Lexeme.TemplateEnd := fun script s =>
    match Lexeme.templateFrom s.last.rest s.last false with
    | none => none
    | some (ending, stop, flawed) =>
        let s :=
          if flawed then
            { s with
              built := .leaf script.source .error true s.last stop :: s.built
              count := s.count + 1 }
          else s
        some (ending, { s with
          last := stop
          ahead :=
            { shape := .mark, start := stop, afterNewline := false, comments := [], flawed := false
              text := match ending with | .closed => "`" | .substitution => "$"
              stop := stop.advance (match ending with | .closed => 1 | .substitution => 2) } })

def typeAscription (r : Rules) : Builder Unit :=
  node .typeAscription do
    expect ":"
    r .type

def optionalAscription (r : Rules) : Builder Unit := do
  if ← sees ":" then typeAscription r

def typeArguments (r : Rules) : Builder Unit :=
  node .typeArguments do
    expect "<"
    repeatWhile do
      if (← peek).text.startsWith ">" then pure false
      else
        r .type
        accept ","
    expectAngle

/-- Declarations of type parameters in angle brackets. -/
def typeParameters (r : Rules) : Builder Unit :=
  node .typeParameters do
    expect "<"
    repeatWhile do
      if (← peek).text.startsWith ">" then pure false
      else
        node .typeParameter do
          repeatWhile do
            if (← seesAny ["const", "in", "out"]) && (← second).shape == .word then
              token
              pure true
            else pure false
          wordLeaf .typeIdentifier
          if ← sees "extends" then
            node .constraint do
              token
              r .type
          if ← sees "=" then
            node .defaultType do
              token
              r .type
        accept ","
    expectAngle

/-- Declarations of type parameters, if there are any. -/
def optionalTypeParameters (r : Rules) : Builder Unit := do
  if ← sees "<" then typeParameters r

/-- A name in brackets as the key of a property, which may be any expression. -/
def computedName (r : Rules) : Builder Unit :=
  node .computedPropertyName do
    expect "["
    r (.sequence true)
    expect "]"

def propertyName (r : Rules) : Builder Unit := do
  match (← peek).shape with
  | .word => leaf .propertyIdentifier
  | .privateName => leaf .privatePropertyIdentifier
  | .quoted => stringLeaf .string
  | .number => leaf .number
  | _ => computedName r

def beginsPropertyName (lexeme : Lexeme) : Bool :=
  match lexeme.shape with
  | .word | .privateName | .quoted | .number => true
  | _ => lexeme.text == "["

/-- Parameters and the type of the result. -/
def signature (r : Rules) : Builder Unit := do
  optionalTypeParameters r
  r .parameters
  playing .parameters
  optionalAscription r

/-- `[name: key]: type`, or `[name in keys as name]: type`. -/
def indexSignature (r : Rules) : Builder Unit := do
  let since ← mark
  expect "["
  if (← second).text == "in" then
    let inner ← mark
    wordLeaf .typeIdentifier
    token
    r .type
    if ← accept "as" then r .type
    gather inner .mappedTypeClause
  else
    wordLeaf .identifier
    typeAscription r
  expect "]"
  let _ ← seesAny ["+", "-"] >>= fun b => if b then (do token; pure true) else pure false
  let _ ← accept "?"
  optionalAscription r
  gather since .indexSignature

def seesIndexSignature : Builder Bool := do
  if ← sees "[" then
    let name ← second
    let source := (← script).source
    let next := Lexeme.read source name.stop
    pure (name.shape == .word && (next.text == ":" || next.text == "in"))
  else pure false

/-- Words that may stand before the name of a member of an object type. -/
def typeMemberWords : List String :=
  ["public", "private", "protected", "static", "override", "readonly", "async", "get", "set"]

def typeMemberModifiers : Builder Unit :=
  repeatWhile do
    let next ← second
    if (← seesAny typeMemberWords) && (beginsPropertyName next || next.text == "*") then
      token
      pure true
    else if (← sees "*") && beginsPropertyName next then
      token
      pure true
    else if (← seesAny ["+", "-"]) && next.text == "readonly" then
      token
      token
      pure true
    else pure false

def typeMember (r : Rules) : Builder Unit := do
  if ← seesAny ["(", "<"] then
    node .callSignature (signature r)
  else if (← sees "new") && ((← second).text == "(" || (← second).text == "<") then
    node .constructSignature do
      token
      signature r
  else
    let since ← mark
    typeMemberModifiers
    if ← seesIndexSignature then indexSignature r
    else
      propertyName r
      playing .name
      let _ ← accept "?"
      if ← seesAny ["(", "<"] then
        signature r
        gather since .methodSignature
      else
        optionalAscription r
        gather since .propertySignature

def typeMembers (r : Rules) (kind : Kind) : Builder Unit :=
  node kind do
    expect "\x7b"
    repeatWhile do
      if ← sees "\x7d" then pure false
      else if ← seesAny [";", ","] then
        token
        pure true
      else
        typeMember r
        let next ← peek
        if next.text == ";" || next.text == "," then
          token
          pure true
        else if next.text == "\x7d" then pure false
        else
          require next.afterNewline
          pure true
    expect "\x7d"

def typeName (r : Rules) : Builder Unit := do
  let since ← mark
  wordLeaf .typeIdentifier
  let qualified ← sees "."
  if qualified then
    revise (·.withKind .identifier)
    repeatWhile do
      if ← sees "." then
        token
        wordLeaf .typeIdentifier
        if ← sees "." then
          revise (·.withKind .propertyIdentifier)
          gather since .nestedIdentifier
          pure true
        else
          gather since .nestedTypeIdentifier
          pure false
      else pure false
  if (← sees "<") && !(← peek).afterNewline then
    typeArguments r
    gather since .genericType

def typeQuery (r : Rules) : Builder Unit :=
  node .typeQuery do
    expect "typeof"
    let since ← mark
    if ← sees "import" then importCall
    else if ← sees "this" then leaf .thisExpression
    else wordLeaf .identifier
    repeatWhile do
      if ← sees "." then
        playing .object
        token
        match (← peek).shape with
        | .word => leaf .propertyIdentifier
        | .privateName => leaf .privatePropertyIdentifier
        | _ => fail
        playing .property
        gather since .memberExpression
        pure true
      else pure false
    if (← sees "<") && !(← peek).afterNewline then typeArguments r
where
  /-- `import(...)` as the name of a module. -/
  importCall : Builder Unit := do
    let since ← mark
    leaf .importExpression
    playing .function
    node .arguments do
      expect "("
      listUntil ")" (r (.expression true))
    playing .arguments
    gather since .callExpression

def literalType : Builder Unit :=
  node .literalType do
    let lexeme ← peek
    match lexeme.shape with
    | .number => leaf .number
    | .quoted => stringLeaf .string
    | .mark =>
        node .unaryExpression do
          require (lexeme.text == "-" || lexeme.text == "+")
          token
          require ((← peek).shape == .number)
          leaf .number
    | _ =>
        match lexeme.text with
        | "true" => leaf .trueLiteral
        | "false" => leaf .falseLiteral
        | "null" => leaf .nullLiteral
        | _ => leaf .undefinedLiteral

/-- A function type, whose parameters are ahead. -/
def functionType (r : Rules) (kind : Kind) : Builder Unit := do
  let since ← mark
  if kind == .constructorType then
    let _ ← accept "abstract"
    expect "new"
  optionalTypeParameters r
  r .parameters
  playing .parameters
  expect "=>"
  r .type
  gather since kind

def tupleElement (r : Rules) : Builder Unit := do
  let since ← mark
  let rest ← accept "..."
  let lexeme ← peek
  let next ← second
  let source := (← script).source
  let named := lexeme.shape == .word
    && (next.text == ":" || (next.text == "?" && (Lexeme.read source next.stop).text == ":"))
  if named then
    wordLeaf .identifier
    let optional' ← accept "?"
    typeAscription r
    gather since (if optional' then .optionalParameter else .requiredParameter)
  else
    r .type
    if rest then gather since .restType
    else if ← accept "?" then gather since .optionalType

def primaryType (r : Rules) : Builder Unit := do
  let lexeme ← peek
  match lexeme.shape with
  | .number | .quoted => literalType
  | .word =>
      if ["true", "false", "null", "undefined"].contains lexeme.text then literalType
      else if lexeme.text == "this" then leaf .thisType
      else if lexeme.text == "typeof" then typeQuery r
      else if lexeme.text == "import" then
        let since ← mark
        node .callExpression do
          leaf .importExpression
          node .arguments do
            expect "("
            listUntil ")" (r (.expression true))
        repeatWhile do
          if ← accept "." then
            wordLeaf .typeIdentifier
            gather since .nestedTypeIdentifier
            pure true
          else pure false
        if ← sees "<" then
          typeArguments r
          gather since .genericType
      else if lexeme.text == "new"
          || (lexeme.text == "abstract" && (← second).text == "new") then
        functionType r .constructorType
      else if predefinedTypes.contains lexeme.text && (← second).text != "." then
        leaf .predefinedType
      else typeName r
  | .mark =>
      match lexeme.text with
      | "(" =>
          if (← arrowAfter lexeme) == some true then functionType r .functionType
          else
            node .parenthesizedType do
              token
              r .type
              expect ")"
      | "<" => functionType r .functionType
      | "\x7b" => typeMembers r .objectType
      | "[" =>
          node .tupleType do
            token
            listUntil "]" (tupleElement r)
      | "`" => node .templateLiteralType (templateBody .templateType (r .type))
      | "-" | "+" => literalType
      | _ => fail
  | _ => fail

/-- A type with the array brackets and index types after it. -/
def postfixType (r : Rules) : Builder Unit := do
  let since ← mark
  primaryType r
  repeatWhile do
    let lexeme ← peek
    if lexeme.text == "[" && !lexeme.afterNewline then
      token
      if ← accept "]" then gather since .arrayType
      else
        r .type
        expect "]"
        gather since .lookupType
      pure true
    else pure false

def operatorType (r : Rules) : Builder Unit := do
  let lexeme ← peek
  let next ← second
  let begins := next.shape == .word || next.shape == .quoted || next.shape == .number
    || ["(", "[", "\x7b", "<", "`"].contains next.text
  if ["keyof", "unique", "readonly", "infer"].contains lexeme.text && begins then
    let kind : Kind :=
      match lexeme.text with
      | "keyof" => .indexTypeQuery
      | "infer" => .inferType
      | _ => .readonlyType
    node kind do
      token
      r .typeOperator
      if kind == .inferType && (← sees "extends") && !(← peek).afterNewline then
        token
        r .type
  else postfixType r

/-- Types joined by a mark, which may also stand before the first. -/
def joinedTypes (joint : String) (kind : Kind) (operand : Builder Unit) : Builder Unit := do
  let since ← mark
  let leading ← accept joint
  operand
  if leading then gather since kind
  repeatWhile do
    if ← accept joint then
      operand
      gather since kind
      pure true
    else pure false

def unionType (r : Rules) : Builder Unit :=
  joinedTypes "|" .unionType (joinedTypes "&" .intersectionType (r .typeOperator))

/-- A type, a conditional type, or what a function says about its argument. -/
def type (r : Rules) : Builder Unit := do
  let since ← mark
  let lexeme ← peek
  let next ← second
  if lexeme.text == "asserts" && next.shape == .word && !next.afterNewline
      && !(["extends", "is"].contains next.text) then
    token
    subject
    if ← accept "is" then r .type
    gather since .asserts
  else if lexeme.shape == .word && next.text == "is" && !next.afterNewline then
    subject
    token
    r .type
    gather since .typePredicate
  else
    r .typeUnion
    if (← sees "extends") && !(← peek).afterNewline then
      token
      r .typeUnion
      expect "?"
      r .type
      expect ":"
      r .type
      gather since .conditionalType
where
  /-- The argument a function speaks about. -/
  subject : Builder Unit := do
    if ← sees "this" then leaf .thisExpression else wordLeaf .identifier

end Grammar

end TypedQueries
