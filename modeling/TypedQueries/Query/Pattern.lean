import TypedQueries.Syntax.Tree

/-! # Names bound by patterns and imports

A pattern binds the names at its leaves that are not keys, default values or types.
An import binds its local names.
-/

namespace TypedQueries

namespace Tree

mutual

/-- Whether a pattern, a parameter or a list of parameters binds a name. -/
def patternBinds (name : String) : Tree → Bool
  | node label children =>
      match label.kind with
      | .identifier | .shorthandPropertyIdentifierPattern => label.text == name
      | .pairPattern => firstBinds name .value children
      | .assignmentPattern | .objectAssignmentPattern => firstBinds name .left children
      | .requiredParameter | .optionalParameter => firstBinds name .pattern children
      | .formalParameters | .objectPattern | .arrayPattern | .restPattern =>
          someBinds name children
      | _ => false

/-- Whether the first tree in the given role binds a name. -/
def firstBinds (name : String) (role : Role) : List Tree → Bool
  | [] => false
  | t :: ts =>
      if t.label.role == some role then patternBinds name t else firstBinds name role ts

/-- Whether one of the named trees binds a name. -/
def someBinds (name : String) : List Tree → Bool
  | [] => false
  | t :: ts => (t.label.named && patternBinds name t) || someBinds name ts

end

mutual

def importBinds (name : String) : Tree → Bool
  | node label children =>
      match label.kind with
      | .importSpecifier =>
          (((node label children).child? .alias).or ((node label children).child? .name)).any
            (·.text == name)
      | .identifier => label.text == name
      | .string => false
      | _ => someImportBinds name children

/-- Whether one of the named trees is a part of an import that binds a name. -/
def someImportBinds (name : String) : List Tree → Bool
  | [] => false
  | t :: ts => (t.label.named && importBinds name t) || someImportBinds name ts

end

end Tree

end TypedQueries
