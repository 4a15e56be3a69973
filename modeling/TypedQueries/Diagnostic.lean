import TypedQueries.Path
import TypedQueries.Text.Quoted

/-! # Diagnostics

Findings that do not stop a run: a call whose query text is unknown, a type without a
name in the generated module, a result column whose name occurs twice.
-/

namespace TypedQueries

/-- Why the query text of a call is unknown. Kinds are given by their names. -/
inductive UnresolvedReason where
  | noArguments
  | notALiteral (kind : String)
  | identifierNotFound (name : String)
  | chainedIdentifier (name target : String)
  | initializerNotALiteral (name kind : String)
  | notAVariable (name : String)
deriving DecidableEq, Repr

def UnresolvedReason.message : UnresolvedReason → String
  | .noArguments => "call has no arguments"
  | .notALiteral kind => "argument is a " ++ kind ++ ", not a string literal"
  | .identifierNotFound name => "no declaration of `" ++ name ++ "` in this file"
  | .chainedIdentifier name target =>
      "`" ++ name ++ "` is initialized from `" ++ target
        ++ "`; only one level of indirection is resolved"
  | .initializerNotALiteral name kind =>
      "`" ++ name ++ "` is initialized with a " ++ kind ++ ", not a string literal"
  | .notAVariable name => "`" ++ name ++ "` is not a variable initialized with a literal"

abbrev TypeId : Type := Nat

/-- A place in the shape of a query: a parameter, counted from zero, or a column. -/
inductive TypeSlot where
  | parameter (index : Nat)
  | column (name : String)
deriving DecidableEq, Repr

/-- The slot in words; parameters are counted from one. -/
def TypeSlot.message : TypeSlot → String
  | .parameter index => "parameter $" ++ toString (index + 1)
  | .column name => "column `" ++ name ++ "`"

/-- A finding. Lines and columns are counted from one. -/
inductive Diagnostic where
  | unresolvedLiteral (file : Path) (line column : Nat) (reason : UnresolvedReason)
  | unmappedType (sql : String) (typeId : TypeId) (slot : TypeSlot)
  | duplicateColumn (sql column : String)
deriving DecidableEq, Repr

namespace Diagnostic

def code : Diagnostic → String
  | unresolvedLiteral .. => "UNRESOLVED_LITERAL"
  | unmappedType .. => "UNMAPPED_TYPE"
  | duplicateColumn .. => "DUPLICATE_COLUMN"

def message : Diagnostic → String
  | unresolvedLiteral file line column reason =>
      file.display ++ ":" ++ toString line ++ ":" ++ toString column ++ ": skipped query call: "
        ++ reason.message
  | unmappedType sql typeId slot =>
      "unmapped type id " ++ toString typeId ++ " for " ++ slot.message ++ " in query "
        ++ Quoted.quote sql ++ "; emitted `unknown`"
  | duplicateColumn sql column =>
      "duplicate result column `" ++ column ++ "` in query " ++ Quoted.quote sql
        ++ "; kept the first"

end Diagnostic

end TypedQueries
