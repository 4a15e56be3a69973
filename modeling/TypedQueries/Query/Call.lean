import TypedQueries.Diagnostic
import TypedQueries.Query.Literal
import TypedQueries.Query.Scope

/-! # Query calls

A query call is a call of the configured method on a plain identifier. Its first
argument gives the query text: a literal, or a variable of the same file that is
initialized with one. A call whose text cannot be found gives a reason instead.
-/

namespace TypedQueries

/-- A query call with its text and the source of its further arguments. Lines and
columns are counted from one. -/
structure QueryCall where
  sql : String
  arguments : List String
  line : Nat
  column : Nat
deriving DecidableEq, Repr

/-- What is found in a file. -/
structure FileScan where
  calls : List QueryCall
  diagnostics : List Diagnostic
deriving DecidableEq, Repr

namespace Tree

/-- Whether the node calls the given method on a plain identifier. -/
def isQueryCall (method : String) (t : Tree) : Bool :=
  t.kind == .callExpression &&
    (t.child? .function).any fun callee =>
      callee.kind == .memberExpression
        && (callee.child? .object).any (·.kind == .identifier)
        && (callee.child? .property).any (·.text == method)

end Tree

namespace Site

/-- The arguments of a call without comments; nothing for a template in their place. -/
def callArguments? (call : Site) : Option (List Site) :=
  match call.child? .arguments with
  | some list =>
      if list.kind == .arguments then some (list.namedChildren.filter (·.kind != .comment))
      else none
  | none => none

/-- The query text an argument denotes: its own, or by one step that of the variable it
names. -/
def resolveText (argument : Site) : Except UnresolvedReason String :=
  match LiteralText.of? argument.node with
  | some literal => .ok literal.text
  | none =>
      let argument := argument.peel
      if argument.kind != .identifier then .error (.notALiteral argument.kind.name)
      else
        let name := argument.text
        match argument.lookup name with
        | none => .error (.identifierNotFound name)
        | some .other => .error (.notAVariable name)
        | some (.initialized value) =>
            match LiteralText.of? value.node with
            | some literal => .ok literal.text
            | none =>
                let value := value.peel
                if value.kind == .identifier then .error (.chainedIdentifier name value.text)
                else .error (.initializerNotALiteral name value.kind.name)

/-- The position of a node, counted from one. -/
def position (site : Site) : Nat × Nat :=
  (site.node.label.start.row + 1, site.node.label.start.column + 1)

def resolve (call : Site) : Except UnresolvedReason QueryCall :=
  match call.callArguments? with
  | some (first :: rest) =>
      first.resolveText.map fun sql =>
        { sql, arguments := rest.map (·.text), line := call.position.1, column := call.position.2 }
  | _ => .error .noArguments

end Site

namespace FileScan

/-- Adds what a node is found to be: a query call, or a diagnostic if its text is unknown. -/
def visit (method : String) (file : Path) (scan : FileScan) (site : Site) : FileScan :=
  if site.node.isQueryCall method then
    match site.resolve with
    | .ok call => { scan with calls := scan.calls ++ [call] }
    | .error reason =>
        { scan with
          diagnostics := scan.diagnostics ++
            [.unresolvedLiteral file site.position.1 site.position.2 reason] }
  else scan

end FileScan

/-- The query calls of a tree, with a diagnostic for each one whose text is unknown. -/
def extract (method : String) (file : Path) (t : Tree) : FileScan :=
  (Site.ofTree t).walk (FileScan.visit method file) { calls := [], diagnostics := [] }

end TypedQueries
