import TypedQueries.Description
import TypedQueries.Module.Dispatch
import TypedQueries.Text.StringLiteral
import TypedQueries.TypeTable

/-! # The generated module

For each described query, in order, three types: its text, its parameters and a row of
its result. After them the types that select by query text, and the type of the client
with its query method narrowed. The text depends on the descriptions, the table of types
and the options only.
-/

namespace TypedQueries

/-- The names the module uses: where the client comes from, its type, and the type around
results. -/
structure ModuleOptions where
  clientModule : String
  clientType : String
  resultWrapper : String
deriving DecidableEq, Repr

/-- A module and what was found while it was made. -/
structure Synthesis where
  module : String
  diagnostics : List Diagnostic
deriving DecidableEq, Repr

namespace Synthesis

def typeName (table : TypeTable) (id : TypeId) : String := (table.lookup id).getD TypeTable.unknown

/-- What there is to say about a type in a slot. -/
def typeDiagnostics (table : TypeTable) (sql : String) (id : TypeId) (slot : TypeSlot) :
    List Diagnostic :=
  match table.lookup id with
  | some _ => []
  | none => [.unmappedType sql id slot]

/-- The tuple of the parameters of a query. Without parameters it may be left out. -/
def parameterTuple (table : TypeTable) (description : QueryDescription) : String :=
  if description.parameters.isEmpty then "[] | undefined"
  else "[" ++ String.intercalate ", " (description.parameters.map (typeName table)) ++ "]"

/-- What there is to say about the parameters of a query from the given position on. -/
def parameterDiagnostics (table : TypeTable) (sql : String) : Nat → List TypeId → List Diagnostic
  | _, [] => []
  | index, id :: rest =>
      typeDiagnostics table sql id (.parameter index)
        ++ parameterDiagnostics table sql (index + 1) rest

/-- The columns whose names have not occurred before. -/
def freshColumns (seen : List String) : List ResultColumn → List ResultColumn
  | [] => []
  | column :: rest =>
      if seen.contains column.name then freshColumns seen rest
      else column :: freshColumns (column.name :: seen) rest

/-- What there is to say about columns after those with the given names. -/
def columnDiagnostics (table : TypeTable) (sql : String) (seen : List String) :
    List ResultColumn → List Diagnostic
  | [] => []
  | column :: rest =>
      if seen.contains column.name then
        .duplicateColumn sql column.name :: columnDiagnostics table sql seen rest
      else
        typeDiagnostics table sql column.typeId (.column column.name)
          ++ columnDiagnostics table sql (column.name :: seen) rest

/-- The line of a column in the type of a row. -/
def fieldLine (table : TypeTable) (column : ResultColumn) : String :=
  "  " ++ propertyKey column.name ++ ": " ++ typeName table column.typeId ++ ";"

/-- The lines that declare the type of a row. -/
def resultLines (table : TypeTable) (name : String) (description : QueryDescription) :
    List String :=
  match freshColumns [] description.columns with
  | [] => ["type " ++ name ++ " = Record<string, never>;"]
  | columns => ("type " ++ name ++ " = \x7b") :: columns.map (fieldLine table) ++ ["\x7d;"]

/-- The name of the type of a query's text. -/
def queryName (index : Nat) : String := "Query" ++ toString index

/-- The name of the type of a query's parameters. -/
def parametersName (index : Nat) : String := "Params" ++ toString index

/-- The name of the type of a query's rows. -/
def resultName (index : Nat) : String := "Result" ++ toString index

def queryLines (table : TypeTable) (index : Nat) (sql : String) (description : QueryDescription) :
    List String :=
  ["", "type " ++ queryName index ++ " = " ++ StringLiteral.quote sql ++ ";",
    "type " ++ parametersName index ++ " = " ++ parameterTuple table description ++ ";"]
    ++ resultLines table (resultName index) description

def queriesLines (table : TypeTable) : Nat → List (String × QueryDescription) → List String
  | _, [] => []
  | index, (sql, description) :: rest =>
      queryLines table index sql description ++ queriesLines table (index + 1) rest

/-- What there is to say about a query: its parameters, then its columns. -/
def queryDiagnostics (table : TypeTable) (entry : String × QueryDescription) : List Diagnostic :=
  parameterDiagnostics table entry.1 0 entry.2.parameters
    ++ columnDiagnostics table entry.1 [] entry.2.columns

/-- The selection of parameters by query text. -/
def parameterDispatch (count : Nat) : Dispatch where
  arms := (List.range count).map fun i => ⟨queryName i, parametersName i⟩
  fallback := "any[]"

def resultDispatch (count : Nat) : Dispatch where
  arms := (List.range count).map fun i => ⟨queryName i, resultName i⟩
  fallback := "T"

/-- Puts a semicolon after the last line. -/
def terminated (lines : List String) : List String :=
  lines.dropLast ++ (lines.getLast?.toList.map (· ++ ";"))

def headLines (options : ModuleOptions) : List String :=
  ["// Generated by sqltype. Do not edit: this file is rewritten on every run.", "",
   "import type \x7b " ++ options.clientType ++ ", " ++ options.resultWrapper ++ " \x7d from "
     ++ StringLiteral.quote options.clientModule ++ ";"]

def tailLines (count : Nat) (options : ModuleOptions) : List String :=
  ["", "type Is<A, B> = [A] extends [B] ? ([B] extends [A] ? true : false) : false;", "",
   "export type Params<Q extends string> ="]
    ++ terminated ((parameterDispatch count).lines "Q")
    ++ ["", "export type Result<Q extends string, T = any> ="]
    ++ terminated ((resultDispatch count).lines "Q")
    ++ ["",
      "type ParamArgs<Q extends string> =",
      "  undefined extends Params<Q> ? [params?: Params<Q>] :",
      "  any[] extends Params<Q> ? [params?: Params<Q>] :",
      "  [params: Params<Q>];",
      "",
      "export type TypedClient = Omit<" ++ options.clientType ++ ", \"query\"> & \x7b",
      "  query<Q extends string, T = any>(",
      "    query: Q,",
      "    ...params: ParamArgs<Q>",
      "  ): Promise<" ++ options.resultWrapper ++ "<Result<Q, T>>>;",
      "\x7d;"]

def lines (descriptions : QueryDescriptions) (table : TypeTable) (options : ModuleOptions) :
    List String :=
  headLines options ++ queriesLines table 0 descriptions.entries
    ++ tailLines descriptions.size options

end Synthesis

/-- Lines as text, each with a line feed after it. -/
def joinLines (lines : List String) : String :=
  lines.foldl (fun text line => text ++ line ++ "\n") ""

/-- The module for the given descriptions. -/
def synthesize (descriptions : QueryDescriptions) (table : TypeTable) (options : ModuleOptions) :
    Synthesis where
  module := joinLines (Synthesis.lines descriptions table options)
  diagnostics := descriptions.entries.flatMap (Synthesis.queryDiagnostics table)

end TypedQueries
