import TypedQueries.Query.Pattern
import TypedQueries.Syntax.Site

/-! # Scopes

Which declaration of a name is seen from a place in a file. The nodes around the place
are searched from the inside outwards, and the first one that binds the name decides.
Only a variable with an initial value gives one; every other binding hides the name.

Declarations bind in their block, and the cases of a `switch` are one block. A `var`
binds in the whole function or program around it.
-/

namespace TypedQueries

/-- What a name is bound to: the initial value of a variable, or something else. -/
inductive Binding where
  | initialized (value : Site)
  | other
deriving Repr

namespace Site

def otherIf (b : Bool) : Option Binding := if b then some .other else none

/-- What a variable in a declaration binds a name to. -/
def declaratorBinding? (name : String) (declarator : Site) : Option Binding :=
  if declarator.kind == .variableDeclarator then
    match declarator.child? .name with
    | none => none
    | some target =>
        if target.kind == .identifier then
          if target.text == name then
            match declarator.child? .value with
            | some value => some (.initialized value)
            | none => some .other
          else none
        else otherIf (target.node.patternBinds name)
  else none

def statementBinding? (name : String) (statement : Site) : Option Binding :=
  match statement.kind with
  | .lexicalDeclaration | .variableDeclaration =>
      statement.namedChildren.findSome? (declaratorBinding? name)
  | .exportStatement =>
      match _h : statement.child? .declaration with
      | some declaration => statementBinding? name declaration
      | none => none
  | .functionDeclaration | .generatorFunctionDeclaration | .classDeclaration
  | .abstractClassDeclaration | .enumDeclaration =>
      otherIf ((statement.child? .name).any (·.text == name))
  | .importStatement => otherIf (statement.node.importBinds name)
  | _ => none
termination_by statement.node.size
decreasing_by exact size_lt_of_mem_children (mem_children_of_child? ‹_›)

/-- What the statements directly in a block bind a name to. -/
def blockBinding? (name : String) (block : Site) : Option Binding :=
  block.namedChildren.findSome? (statementBinding? name)

/-- What the first `var` at or below the given nodes, the next one to look at first, binds
a name to. Functions and classes are not entered, except for the root itself. -/
def hoistedAmong? (name : String) (root : Site) : List Site → Option Binding
  | [] => none
  | site :: rest =>
      if site.kind == .variableDeclaration then
        match statementBinding? name site with
        | some binding => some binding
        | none => hoistedAmong? name root rest
      else if site.path != root.path && (site.kind.isFunction || site.kind == .classBody) then
        hoistedAmong? name root rest
      else hoistedAmong? name root (site.namedChildren ++ rest)
termination_by sites => Tree.sizeAll (sites.map (·.node))
decreasing_by
  · exact sizeAll_lt_cons site rest
  · exact sizeAll_lt_cons site rest
  · exact sizeAll_namedChildren_lt site rest

/-- What a `var` at or below a node binds a name to. -/
def hoistedBinding? (name : String) (root : Site) : Option Binding :=
  hoistedAmong? name root [root]

def scopeBinding? (name : String) (scope : Site) : Option Binding :=
  match scope.kind with
  | .program => (blockBinding? name scope).or (hoistedBinding? name scope)
  | .statementBlock | .classStaticBlock => blockBinding? name scope
  | .switchBody => scope.namedChildren.findSome? (blockBinding? name)
  | .forStatement => (scope.child? .initializer).bind (statementBinding? name)
  | .forInStatement => otherIf ((scope.child? .left).any (·.node.patternBinds name))
  | .catchClause => otherIf ((scope.child? .parameter).any (·.node.patternBinds name))
  | kind =>
      if kind.isFunction then
        if ((scope.child? .parameters).or (scope.child? .parameter)).any
            (·.node.patternBinds name) then some .other
        else (scope.child? .body).bind (hoistedBinding? name)
      else none

/-- What a name is bound to at a place: the nearest scope that binds it decides. -/
def lookup (site : Site) (name : String) : Option Binding :=
  site.ancestors.findSome? (scopeBinding? name)

end Site

end TypedQueries
