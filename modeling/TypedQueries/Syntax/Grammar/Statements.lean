import TypedQueries.Syntax.Grammar.Classes

/-! # The grammar of statements

Declarations, control statements, imports and exports. A semicolon may be left out
before a closing brace, at the end of the text and at the end of a line. A statement
that cannot be read becomes an error node that reaches to its end, so the statements
around it are read as usual.
-/

namespace TypedQueries

namespace Grammar

open Builder

/-- A semicolon, or a place where it may be left out. -/
def semicolon : Builder Unit := do
  let lexeme ← peek
  if lexeme.text == ";" then token
  else require (lexeme.text == "\x7d" || lexeme.shape == .finish || lexeme.afterNewline)

/-- A variable with its type and its initial value. -/
def declarator (r : Rules) (inAllowed : Bool) : Builder Unit :=
  node .variableDeclarator do
    r .pattern
    playing .name
    if (← second).text == ":" then
      let _ ← accept "!"
    optionalAscription r
    if ← accept "=" then
      r (.expression inAllowed)
      playing .value

def declarationKind (word : String) : Kind :=
  if word == "var" then .variableDeclaration else .lexicalDeclaration

/-- A declaration of variables; `close` builds what ends it. -/
def variableList (r : Rules) (inAllowed : Bool) (close : Builder Unit) : Builder Unit := do
  let word := (← peek).text
  node (declarationKind word) do
    token
    separated "," (declarator r inAllowed)
    close

def seesLet : Builder Bool := do
  let next ← second
  pure ((← sees "let") && (next.isName || next.text == "[" || next.text == "\x7b"))

/-- Whether a declaration of variables is ahead; `const enum` is none. -/
def seesVariables : Builder Bool := do
  if ← seesLet then pure true
  else if ← sees "var" then pure true
  else if ← sees "const" then pure ((← second).text != "enum")
  else pure false

def functionDeclaration (r : Rules) : Builder Unit := do
  let since ← mark
  let _ ← accept "async"
  expect "function"
  let generator ← accept "*"
  nameLeaf .identifier
  playing .name
  signature r
  if ← sees "\x7b" then
    functionBody r
    gather since (if generator then .generatorFunctionDeclaration else .functionDeclaration)
  else
    semicolon
    gather since .functionSignature

/-- A class declaration since a mark, its decorators and modifiers passed. -/
def classDeclaration (r : Rules) (since : Mark) : Builder Unit := do
  let isAbstract ← accept "abstract"
  classTail r (classExpression r)
  gather since (if isAbstract then .abstractClassDeclaration else .classDeclaration)

def enumDeclaration (r : Rules) : Builder Unit :=
  node .enumDeclaration do
    let _ ← accept "const"
    expect "enum"
    nameLeaf .identifier
    playing .name
    node .enumBody do
      expect "\x7b"
      listUntil "\x7d" do
        let since ← mark
        propertyName r
        if ← sees "=" then
          playing .name
          token
          r (.expression true)
          playing .value
          gather since .enumAssignment

def interfaceDeclaration (r : Rules) : Builder Unit :=
  node .interfaceDeclaration do
    token
    wordLeaf .typeIdentifier
    playing .name
    optionalTypeParameters r
    if ← sees "extends" then typeClause r .extendsTypeClause
    typeMembers r .interfaceBody

def typeAlias (r : Rules) : Builder Unit :=
  node .typeAliasDeclaration do
    token
    wordLeaf .typeIdentifier
    playing .name
    optionalTypeParameters r
    expect "="
    r .type
    semicolon

/-- A name with dots, as namespaces have. -/
def qualifiedName : Builder Unit := do
  let since ← mark
  nameLeaf .identifier
  repeatWhile do
    if ← accept "." then
      wordLeaf .propertyIdentifier
      gather since .nestedIdentifier
      pure true
    else pure false

/-- `namespace N` or `module M` with its block, if it has one. -/
def namespaceDeclaration (r : Rules) : Builder Unit := do
  let since ← mark
  let word := (← peek).text
  token
  if (← peek).shape == .quoted then stringLeaf .string else qualifiedName
  playing .name
  if ← sees "\x7b" then
    r .block
    playing .body
  else semicolon
  gather since (if word == "module" then .moduleDeclaration else .internalModule)

/-- The declarations that a word ahead may begin. -/
inductive Opening where
  | bindings | functions | classes | enums | interfaces | aliases | namespaces | ambient | none
deriving DecidableEq

def opening : Builder Opening := do
  let lexeme ← peek
  let next ← second
  let sameLine := !next.afterNewline
  if lexeme.shape != .word then pure .none
  else
    match lexeme.text with
    | "var" | "let" | "const" =>
        if ← seesVariables then pure .bindings
        else if next.text == "enum" then pure .enums
        else pure .none
    | "function" => pure .functions
    | "async" => pure (if next.text == "function" && sameLine then .functions else .none)
    | "class" => pure .classes
    | "abstract" => pure (if next.text == "class" && sameLine then .classes else .none)
    | "enum" => pure (if next.isName then .enums else .none)
    | "interface" => pure (if next.shape == .word && sameLine then .interfaces else .none)
    | "type" =>
        if next.shape == .word && sameLine then
          let source := (← script).source
          let third := (Lexeme.read source next.stop).text
          pure (if third == "=" || third == "<" then .aliases else .none)
        else pure .none
    | "namespace" => pure (if next.isName && sameLine then .namespaces else .none)
    | "module" =>
        pure (if (next.isName || next.shape == .quoted) && sameLine then .namespaces else .none)
    | "declare" => pure (if next.shape == .word && sameLine then .ambient else .none)
    | _ => pure .none

def ambient (r : Rules) (declaration : Opening → Builder Unit) : Builder Unit :=
  node .ambientDeclaration do
    token
    if (← sees "global") && (← second).text == "\x7b" then
      token
      r .block
    else
      let found ← opening
      require (found != .none)
      declaration found

/-- The declaration that begins here, other than an ambient one. -/
def plainDeclaration (r : Rules) (found : Opening) : Builder Unit := do
  match found with
  | .bindings => variableList r true semicolon
  | .functions => functionDeclaration r
  | .classes =>
      let since ← mark
      classDeclaration r since
  | .enums => enumDeclaration r
  | .interfaces => interfaceDeclaration r
  | .aliases => typeAlias r
  | .namespaces => namespaceDeclaration r
  | .ambient | .none => fail

def declaration (r : Rules) (found : Opening) : Builder Unit :=
  match found with
  | .ambient => ambient r (plainDeclaration r)
  | found => plainDeclaration r found

def moduleName (r : Rules) : Builder Unit := do
  stringLeaf .string
  if (← seesAny ["with", "assert"]) && (← second).text == "\x7b" then
    node .importAttribute do
      token
      r .operand

/-- An imported or exported name, renamed or not. -/
def specifier (kind : Kind) : Builder Unit :=
  node kind do
    let next ← second
    if (← sees "type") && (next.shape == .word || next.shape == .quoted) && next.text != "as" then
      token
    exchanged
    playing .name
    if ← accept "as" then
      exchanged
      playing .alias
where
  exchanged : Builder Unit := do
    if (← peek).shape == .quoted then stringLeaf .string else wordLeaf .identifier

def specifiers (list item : Kind) : Builder Unit :=
  node list do
    expect "\x7b"
    listUntil "\x7d" (specifier item)

def namespaceName (kind : Kind) : Builder Unit :=
  node kind do
    expect "*"
    expect "as"
    if (← peek).shape == .quoted then stringLeaf .string else wordLeaf .identifier

def importClause : Builder Unit :=
  node .importClause do
    if (← peek).isName then
      leaf .identifier
      if ← accept "," then grouped
    else grouped
where
  /-- The names in braces or the namespace. -/
  grouped : Builder Unit := do
    if ← sees "*" then namespaceName .namespaceImport
    else specifiers .namedImports .importSpecifier

def importStatement (r : Rules) : Builder Unit := do
  let since ← mark
  expect "import"
  if (← peek).shape == .quoted then
    moduleName r
    semicolon
    gather since .importStatement
  else
    let next ← second
    if (← seesAny ["type", "typeof"]) && next.text != "from" && next.text != "," && next.text != "="
    then token
    if (← peek).isName && (← second).text == "=" then
      let clause ← mark
      leaf .identifier
      token
      if (← sees "require") && (← second).text == "(" then
        token
        token
        stringLeaf .string
        expect ")"
        gather clause .importRequireClause
        semicolon
        gather since .importStatement
      else
        qualifiedName
        semicolon
        gather since .importAlias
    else
      importClause
      expect "from"
      moduleName r
      semicolon
      gather since .importStatement

def exportDefault (r : Rules) : Builder Unit := do
  expect "default"
  let next ← second
  let named : Bool :=
    if next.text == "function" || next.text == "class" then true
    else next.isName || next.text == "*"
  let found ← opening
  match found with
  | .functions | .classes | .interfaces =>
      if named then
        orElse
          (do
            declaration r found
            playing .declaration)
          value
      else value
  | _ =>
      if ← sees "@" then
        let since ← mark
        decorators r
        classDeclaration r since
        playing .declaration
      else value
where
  value : Builder Unit := do
    r (.expression true)
    playing .value
    semicolon

def exported (r : Rules) : Builder Unit := do
  let lexeme ← peek
  let next ← second
  match lexeme.text with
  | "default" => exportDefault r
  | "*" =>
      if next.text == "as" then namespaceName .namespaceExport else token
      expect "from"
      moduleName r
      semicolon
  | "\x7b" =>
      specifiers .exportClause .exportSpecifier
      if ← accept "from" then moduleName r
      semicolon
  | "=" =>
      token
      r (.expression true)
      semicolon
  | "as" =>
      token
      expect "namespace"
      wordLeaf .identifier
      semicolon
  | "import" =>
      token
      nameLeaf .identifier
      expect "="
      qualifiedName
      semicolon
  | _ =>
      if lexeme.text == "type" && (next.text == "\x7b" || next.text == "*") then
        token
        if ← sees "*" then
          if (← second).text == "as" then namespaceName .namespaceExport else token
          expect "from"
          moduleName r
        else
          specifiers .exportClause .exportSpecifier
          if ← accept "from" then moduleName r
        semicolon
      else if lexeme.text == "@" then
        let since ← mark
        decorators r
        classDeclaration r since
        playing .declaration
      else
        let found ← opening
        require (found != .none)
        declaration r found
        playing .declaration

def condition (r : Rules) : Builder Unit :=
  node .parenthesizedExpression do
    expect "("
    r (.sequence true)
    expect ")"

/-- Passes the lexemes of a statement that cannot be read: to a semicolon, or to the
brace that closes the block around it. -/
def passBroken : Nat → Nat → Builder Unit
  | 0, _ => pure ()
  | steps + 1, depth => do
      let lexeme ← peek
      if lexeme.shape == .finish then pure ()
      else
        match lexeme.text with
        | "(" | "[" | "\x7b" =>
            token
            passBroken steps (depth + 1)
        | ")" | "]" =>
            token
            passBroken steps (depth - 1)
        | "\x7d" =>
            if depth == 0 then pure ()
            else
              token
              passBroken steps (depth - 1)
        | ";" =>
            token
            if depth == 0 then pure () else passBroken steps depth
        | _ =>
            token
            passBroken steps depth

def statementOrError (r : Rules) : Builder Unit :=
  orElse (r .statement) do
    let source := (← script).source
    let start ← peek
    require (start.shape != .finish)
    node .error (passBroken (source.utf8ByteSize - start.start.offset + 1) 0)

/-- Statements up to a closing brace or one of the given words. -/
def statements (r : Rules) (stops : List String) : Builder Unit :=
  repeatWhile do
    let lexeme ← peek
    if lexeme.text == "\x7d" || lexeme.shape == .finish || stops.contains lexeme.text then
      pure false
    else
      statementOrError r
      pure true

def block (r : Rules) : Builder Unit :=
  node .statementBlock do
    expect "\x7b"
    statements r []
    settle
    closeBrace

def switchCase (r : Rules) : Builder Unit := do
  if ← sees "default" then
    node .switchDefault do
      token
      expect ":"
      statements r ["case", "default"]
  else
    node .switchCase do
      expect "case"
      r (.sequence true)
      playing .value
      expect ":"
      statements r ["case", "default"]

/-- A statement that chooses between cases. -/
def switchStatement (r : Rules) : Builder Unit :=
  node .switchStatement do
    token
    condition r
    playing .value
    node .switchBody do
      expect "\x7b"
      repeatWhile do
        if (← sees "\x7d") || (← peek).shape == .finish then pure false
        else
          switchCase r
          pure true
      closeBrace
    playing .body

/-- The target of a loop over the elements or keys of something. -/
def loopTarget (r : Rules) : Builder Unit := do
  if (← seesLet) || (← seesAny ["var", "const"]) then
    token
    r .pattern
    playing .left
    if ← accept "=" then
      r (.expression false)
      playing .value
  else
    if ← seesAny ["[", "\x7b"] then
      orElse (do r .pattern; require (← seesAny ["of", "in"])) (r .operand)
    else r .operand
    playing .left
  require (← seesAny ["of", "in"])
  token

def loopHeading (r : Rules) : Builder Unit := do
  if ← seesVariables then
    variableList r false (expect ";")
    playing .initializer
  else if ← sees ";" then
    node .emptyStatement token
    playing .initializer
  else
    r (.sequence false)
    playing .initializer
    expect ";"
  if ← sees ";" then node .emptyStatement token
  else
    r (.sequence true)
    expect ";"
  if !(← sees ")") then r (.sequence true)

def forStatement (r : Rules) : Builder Unit := do
  let since ← mark
  expect "for"
  let _ ← accept "await"
  expect "("
  let overElements ← optional (loopTarget r)
  if overElements then r (.sequence true) else loopHeading r
  expect ")"
  r .statement
  playing .body
  gather since (if overElements then .forInStatement else .forStatement)

/-- A statement with handlers of failures. -/
def tryStatement (r : Rules) : Builder Unit :=
  node .tryStatement do
    token
    r .block
    playing .body
    if ← sees "catch" then
      node .catchClause do
        token
        if ← accept "(" then
          r .pattern
          playing .parameter
          optionalAscription r
          expect ")"
        r .block
        playing .body
    if ← sees "finally" then
      node .finallyClause do
        token
        r .block
        playing .body

/-- A statement that leaves a loop or begins its next round. -/
def jump (kind : Kind) : Builder Unit :=
  node kind do
    token
    let lexeme ← peek
    if lexeme.isName && !lexeme.afterNewline then leaf .statementIdentifier
    semicolon

/-- A statement with an optional expression. -/
def result (r : Rules) (kind : Kind) : Builder Unit :=
  node kind do
    token
    let lexeme ← peek
    if !(lexeme.text == ";" || lexeme.text == "\x7d" || lexeme.shape == .finish
        || lexeme.afterNewline) then
      r (.sequence true)
    semicolon

/-- A statement that begins with a word of its own. -/
def keywordStatement (r : Rules) (word : String) : Builder Unit := do
  match word with
  | "if" =>
      node .ifStatement do
        token
        condition r
        r .statement
        if ← sees "else" then
          node .elseClause do
            token
            r .statement
  | "for" => forStatement r
  | "while" =>
      node .whileStatement do
        token
        condition r
        r .statement
        playing .body
  | "do" =>
      node .doStatement do
        token
        r .statement
        playing .body
        expect "while"
        condition r
        let _ ← accept ";"
  | "switch" => switchStatement r
  | "try" => tryStatement r
  | "with" =>
      node .withStatement do
        token
        condition r
        playing .object
        r .statement
        playing .body
  | "return" => result r .returnStatement
  | "throw" => result r .throwStatement
  | "break" => jump .breakStatement
  | "continue" => jump .continueStatement
  | "debugger" =>
      node .debuggerStatement do
        token
        semicolon
  | _ => fail

def statementWords : List String :=
  ["if", "for", "while", "do", "switch", "try", "with", "return", "throw", "break", "continue",
   "debugger"]

def expressionStatement (r : Rules) : Builder Unit :=
  node .expressionStatement do
    r (.sequence true)
    semicolon

def statement (r : Rules) : Builder Unit := do
  let lexeme ← peek
  let next ← second
  match lexeme.text with
  | "\x7b" => r .block
  | ";" => node .emptyStatement token
  | "import" =>
      if next.text == "(" || next.text == "." then expressionStatement r else importStatement r
  | "export" =>
      node .exportStatement do
        token
        exported r
  | "@" =>
      let since ← mark
      decorators r
      if ← sees "export" then
        token
        let _ ← accept "default"
        let inner ← mark
        classDeclaration r inner
        playing .declaration
        gather since .exportStatement
      else classDeclaration r since
  | text =>
      if statementWords.contains text && lexeme.shape == .word then keywordStatement r text
      else if lexeme.isName && next.text == ":" then
        node .labeledStatement do
          leaf .statementIdentifier
          token
          r .statement
          playing .body
      else
        match ← opening with
        | .none => expressionStatement r
        | .namespaces =>
            if text == "namespace" then node .expressionStatement (namespaceDeclaration r)
            else namespaceDeclaration r
        | found => declaration r found

end Grammar

end TypedQueries
