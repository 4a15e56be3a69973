/-! # Kinds of syntax nodes

The kinds a TypeScript syntax tree distinguishes, with the name each one has in
reports. Punctuation and keywords share the kind `token`.
-/

namespace TypedQueries

/-- What a node of the syntax tree stands for. -/
inductive Kind where
  | program | hashBangLine | comment | error | token
  | expressionStatement | emptyStatement | statementBlock | ifStatement | elseClause
  | forStatement | forInStatement | whileStatement | doStatement | switchStatement | switchBody
  | switchCase | switchDefault | tryStatement | catchClause | finallyClause | withStatement
  | labeledStatement | statementIdentifier | breakStatement | continueStatement | returnStatement
  | throwStatement | debuggerStatement
  | lexicalDeclaration | variableDeclaration | variableDeclarator | functionDeclaration
  | generatorFunctionDeclaration | functionSignature | classDeclaration
  | abstractClassDeclaration | enumDeclaration | enumBody | enumAssignment | interfaceDeclaration
  | interfaceBody | typeAliasDeclaration | ambientDeclaration | moduleDeclaration
  | internalModule
  | importStatement | importAlias | importClause | importRequireClause | importAttribute
  | namespaceImport | namedImports | importSpecifier | exportStatement | exportClause
  | exportSpecifier | namespaceExport
  | identifier | propertyIdentifier | privatePropertyIdentifier | shorthandPropertyIdentifier
  | number | string | templateString | templateSubstitution | regex | trueLiteral | falseLiteral
  | nullLiteral | undefinedLiteral | thisExpression | superExpression | importExpression
  | parenthesizedExpression | asExpression | satisfiesExpression | nonNullExpression
  | typeAssertion | instantiationExpression | callExpression | newExpression | memberExpression
  | subscriptExpression | optionalChain | arguments | binaryExpression | unaryExpression
  | updateExpression | assignmentExpression | augmentedAssignmentExpression | ternaryExpression
  | awaitExpression | yieldExpression | sequenceExpression | spreadElement | metaProperty | array
  | object | pair | computedPropertyName | arrowFunction | functionExpression | generatorFunction
  | classExpression | classBody | classHeritage | extendsClause | implementsClause
  | classStaticBlock | methodDefinition | methodSignature | abstractMethodSignature
  | publicFieldDefinition | decorator | accessibilityModifier | overrideModifier
  | objectPattern | arrayPattern | pairPattern | assignmentPattern | objectAssignmentPattern
  | restPattern | shorthandPropertyIdentifierPattern | formalParameters | requiredParameter
  | optionalParameter
  | jsxElement | jsxSelfClosingElement | jsxOpeningElement | jsxClosingElement | jsxAttribute
  | jsxExpression | jsxText | jsxNamespaceName
  | typeAscription | typeArguments | typeParameters | typeParameter | constraint | defaultType
  | typeIdentifier | predefinedType | nestedIdentifier | nestedTypeIdentifier | genericType
  | unionType | intersectionType | conditionalType | functionType | constructorType | objectType
  | propertySignature | callSignature | constructSignature | indexSignature | mappedTypeClause
  | arrayType | tupleType | optionalType | restType | literalType | lookupType | indexTypeQuery
  | typeQuery | readonlyType | inferType | templateLiteralType | templateType | parenthesizedType
  | typePredicate | typePredicateAscription | asserts | assertsAscription | thisType
  | extendsTypeClause
deriving DecidableEq, Repr, Inhabited

namespace Kind

def name : Kind → String
  | .program => "program"
  | .hashBangLine => "hash_bang_line"
  | .comment => "comment"
  | .error => "ERROR"
  | .token => "token"
  | .expressionStatement => "expression_statement"
  | .emptyStatement => "empty_statement"
  | .statementBlock => "statement_block"
  | .ifStatement => "if_statement"
  | .elseClause => "else_clause"
  | .forStatement => "for_statement"
  | .forInStatement => "for_in_statement"
  | .whileStatement => "while_statement"
  | .doStatement => "do_statement"
  | .switchStatement => "switch_statement"
  | .switchBody => "switch_body"
  | .switchCase => "switch_case"
  | .switchDefault => "switch_default"
  | .tryStatement => "try_statement"
  | .catchClause => "catch_clause"
  | .finallyClause => "finally_clause"
  | .withStatement => "with_statement"
  | .labeledStatement => "labeled_statement"
  | .statementIdentifier => "statement_identifier"
  | .breakStatement => "break_statement"
  | .continueStatement => "continue_statement"
  | .returnStatement => "return_statement"
  | .throwStatement => "throw_statement"
  | .debuggerStatement => "debugger_statement"
  | .lexicalDeclaration => "lexical_declaration"
  | .variableDeclaration => "variable_declaration"
  | .variableDeclarator => "variable_declarator"
  | .functionDeclaration => "function_declaration"
  | .generatorFunctionDeclaration => "generator_function_declaration"
  | .functionSignature => "function_signature"
  | .classDeclaration => "class_declaration"
  | .abstractClassDeclaration => "abstract_class_declaration"
  | .enumDeclaration => "enum_declaration"
  | .enumBody => "enum_body"
  | .enumAssignment => "enum_assignment"
  | .interfaceDeclaration => "interface_declaration"
  | .interfaceBody => "interface_body"
  | .typeAliasDeclaration => "type_alias_declaration"
  | .ambientDeclaration => "ambient_declaration"
  | .moduleDeclaration => "module"
  | .internalModule => "internal_module"
  | .importStatement => "import_statement"
  | .importAlias => "import_alias"
  | .importClause => "import_clause"
  | .importRequireClause => "import_require_clause"
  | .importAttribute => "import_attribute"
  | .namespaceImport => "namespace_import"
  | .namedImports => "named_imports"
  | .importSpecifier => "import_specifier"
  | .exportStatement => "export_statement"
  | .exportClause => "export_clause"
  | .exportSpecifier => "export_specifier"
  | .namespaceExport => "namespace_export"
  | .identifier => "identifier"
  | .propertyIdentifier => "property_identifier"
  | .privatePropertyIdentifier => "private_property_identifier"
  | .shorthandPropertyIdentifier => "shorthand_property_identifier"
  | .number => "number"
  | .string => "string"
  | .templateString => "template_string"
  | .templateSubstitution => "template_substitution"
  | .regex => "regex"
  | .trueLiteral => "true"
  | .falseLiteral => "false"
  | .nullLiteral => "null"
  | .undefinedLiteral => "undefined"
  | .thisExpression => "this"
  | .superExpression => "super"
  | .importExpression => "import"
  | .parenthesizedExpression => "parenthesized_expression"
  | .asExpression => "as_expression"
  | .satisfiesExpression => "satisfies_expression"
  | .nonNullExpression => "non_null_expression"
  | .typeAssertion => "type_assertion"
  | .instantiationExpression => "instantiation_expression"
  | .callExpression => "call_expression"
  | .newExpression => "new_expression"
  | .memberExpression => "member_expression"
  | .subscriptExpression => "subscript_expression"
  | .optionalChain => "optional_chain"
  | .arguments => "arguments"
  | .binaryExpression => "binary_expression"
  | .unaryExpression => "unary_expression"
  | .updateExpression => "update_expression"
  | .assignmentExpression => "assignment_expression"
  | .augmentedAssignmentExpression => "augmented_assignment_expression"
  | .ternaryExpression => "ternary_expression"
  | .awaitExpression => "await_expression"
  | .yieldExpression => "yield_expression"
  | .sequenceExpression => "sequence_expression"
  | .spreadElement => "spread_element"
  | .metaProperty => "meta_property"
  | .array => "array"
  | .object => "object"
  | .pair => "pair"
  | .computedPropertyName => "computed_property_name"
  | .arrowFunction => "arrow_function"
  | .functionExpression => "function_expression"
  | .generatorFunction => "generator_function"
  | .classExpression => "class"
  | .classBody => "class_body"
  | .classHeritage => "class_heritage"
  | .extendsClause => "extends_clause"
  | .implementsClause => "implements_clause"
  | .classStaticBlock => "class_static_block"
  | .methodDefinition => "method_definition"
  | .methodSignature => "method_signature"
  | .abstractMethodSignature => "abstract_method_signature"
  | .publicFieldDefinition => "public_field_definition"
  | .decorator => "decorator"
  | .accessibilityModifier => "accessibility_modifier"
  | .overrideModifier => "override_modifier"
  | .objectPattern => "object_pattern"
  | .arrayPattern => "array_pattern"
  | .pairPattern => "pair_pattern"
  | .assignmentPattern => "assignment_pattern"
  | .objectAssignmentPattern => "object_assignment_pattern"
  | .restPattern => "rest_pattern"
  | .shorthandPropertyIdentifierPattern => "shorthand_property_identifier_pattern"
  | .formalParameters => "formal_parameters"
  | .requiredParameter => "required_parameter"
  | .optionalParameter => "optional_parameter"
  | .jsxElement => "jsx_element"
  | .jsxSelfClosingElement => "jsx_self_closing_element"
  | .jsxOpeningElement => "jsx_opening_element"
  | .jsxClosingElement => "jsx_closing_element"
  | .jsxAttribute => "jsx_attribute"
  | .jsxExpression => "jsx_expression"
  | .jsxText => "jsx_text"
  | .jsxNamespaceName => "jsx_namespace_name"
  | .typeAscription => "type_annotation"
  | .typeArguments => "type_arguments"
  | .typeParameters => "type_parameters"
  | .typeParameter => "type_parameter"
  | .constraint => "constraint"
  | .defaultType => "default_type"
  | .typeIdentifier => "type_identifier"
  | .predefinedType => "predefined_type"
  | .nestedIdentifier => "nested_identifier"
  | .nestedTypeIdentifier => "nested_type_identifier"
  | .genericType => "generic_type"
  | .unionType => "union_type"
  | .intersectionType => "intersection_type"
  | .conditionalType => "conditional_type"
  | .functionType => "function_type"
  | .constructorType => "constructor_type"
  | .objectType => "object_type"
  | .propertySignature => "property_signature"
  | .callSignature => "call_signature"
  | .constructSignature => "construct_signature"
  | .indexSignature => "index_signature"
  | .mappedTypeClause => "mapped_type_clause"
  | .arrayType => "array_type"
  | .tupleType => "tuple_type"
  | .optionalType => "optional_type"
  | .restType => "rest_type"
  | .literalType => "literal_type"
  | .lookupType => "lookup_type"
  | .indexTypeQuery => "index_type_query"
  | .typeQuery => "type_query"
  | .readonlyType => "readonly_type"
  | .inferType => "infer_type"
  | .templateLiteralType => "template_literal_type"
  | .templateType => "template_type"
  | .parenthesizedType => "parenthesized_type"
  | .typePredicate => "type_predicate"
  | .typePredicateAscription => "type_predicate_annotation"
  | .asserts => "asserts"
  | .assertsAscription => "asserts_annotation"
  | .thisType => "this_type"
  | .extendsTypeClause => "extends_type_clause"

/-- The kinds that open a function scope. -/
def isFunction : Kind → Bool
  | .functionDeclaration | .generatorFunctionDeclaration | .functionExpression
  | .generatorFunction | .arrowFunction | .methodDefinition => true
  | _ => false

end Kind

end TypedQueries
