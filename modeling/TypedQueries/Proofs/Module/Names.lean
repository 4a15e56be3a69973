import Mathlib.Data.List.Nodup
import Mathlib.Data.List.ProdSigma
import TypedQueries.Proofs.Module.Reading
import TypedQueries.Proofs.Module.Selection
import TypedQueries.Settings

/-! # The names of the module

The names that the module binds at top level are read from its lines: those that it imports
and those of the types it declares (`Synthesis.topNames`). The names that are generated
differ, but two more come from the settings, and nothing keeps them from being the same
or generated names (`names_bound_once_iff`).
-/

namespace TypedQueries

namespace Synthesis

open Reader

/-- The name at the start of a text. -/
def nameAt (text : List Char) : String := String.ofList (text.takeWhile Identifier.continues)

/-- The names listed at the start of a text, up to the closing brace. -/
def namesListed (text : List Char) : List String :=
  (((text.takeWhile (· != '\x7d')).filter (· != ' ')).splitOn ',').map String.ofList

/-- The names that a line binds at top level: all that it imports, or the type that it
declares. -/
def boundNames (line : String) : List String :=
  match after? "import type \x7b" line.toList with
  | some imported => namesListed imported
  | none =>
      ((after? "type " line.toList).or (after? "export type " line.toList)).toList.map nameAt

/-- The names that a module binds at top level, in order. -/
def topNames (module : String) : List String := (textLines module).flatMap boundNames

/-- The names of the types of the query with the given number. -/
def typeNames (index : Nat) : List String :=
  [queryName index, parametersName index, resultName index]

/-- The names of the types that are generated for as many queries. -/
def generatedNames (count : Nat) : List String :=
  (List.range count).flatMap typeNames ++ ["Is", "Params", "Result", "ParamArgs", "TypedClient"]

/-! ## Lines that bind names -/

/-- That all characters of a name may stand within an identifier. -/
def IsName (name : String) : Prop := ∀ c ∈ name.toList, Identifier.continues c = true

theorem isName_of_all {name : String} (letters : name.toList.all Identifier.continues) :
    IsName name := List.all_eq_true.mp letters

theorem isDigit_of_mem_toString {index : Nat} {c : Char} (member : c ∈ (toString index).toList) :
    c.isDigit = true := by
  rw [Nat.toString_eq_repr, Nat.toList_repr] at member
  exact Nat.isDigit_of_mem_toDigits (by decide) (by decide) member

theorem isName_numbered {start : String} (letters : IsName start) (index : Nat) :
    IsName (start ++ toString index) := by
  intro c member
  rw [String.toList_append, List.mem_append] at member
  rcases member with member | member
  · exact letters c member
  · rw [Identifier.continues, Char.isAlphanum, isDigit_of_mem_toString member, Bool.or_true,
      Bool.true_or, Bool.true_or]

theorem nameAt_append {name : String} {c : Char} {rest : List Char} (isName : IsName name)
    (ends : Identifier.continues c = false) : nameAt (name.toList ++ c :: rest) = name := by
  rw [nameAt, List.takeWhile_append_of_pos isName,
    List.takeWhile_cons_of_neg (by rw [ends]; exact Bool.false_ne_true), List.append_nil,
    String.ofList_toList]

/-- The declaration of a type binds its name. -/
theorem boundNames_type {name : String} (isName : IsName name) (start text : String)
    {rest : List Char} (blank : start.toList = ' ' :: rest) :
    boundNames ("type " ++ (name ++ (start ++ text))) = [name] := by
  have whole : ("type " ++ (name ++ (start ++ text))).toList =
      "type ".toList ++ (name.toList ++ ' ' :: (rest ++ text.toList)) := by
    simp [blank]
  have notImported : after? "import type \x7b" ("type ".toList ++
      (name.toList ++ ' ' :: (rest ++ text.toList))) = none := rfl
  rw [boundNames, whole, notImported, after?_append]
  simp only [Option.some_or, Option.toList_some, List.map_singleton]
  rw [nameAt_append isName (by decide)]

/-- A line that is indented binds nothing. -/
theorem boundNames_indented {start : String} {rest : List Char}
    (blank : start.toList = ' ' :: rest) (text : String) : boundNames (start ++ text) = [] := by
  rw [boundNames, String.toList_append, blank]
  rfl

theorem IsName.not_mem {name : String} (isName : IsName name) {c : Char}
    (ends : Identifier.continues c = false) : c ∉ name.toList := by
  intro member
  exact absurd (isName c member) (by rw [ends]; exact Bool.false_ne_true)

/-- Two names with a comma between them, set off by blanks and closed by a brace. -/
theorem namesListed_two {first second : String} (isFirst : IsName first)
    (isSecond : IsName second) (rest : List Char) :
    namesListed ((' ' :: first.toList ++ ',' :: ' ' :: second.toList ++ [' ']) ++ '}' :: rest) =
      [first, second] := by
  have keeps {name : String} (isName : IsName name) :
      name.toList.filter (· != ' ') = name.toList :=
    List.filter_eq_self.mpr fun c member => bne_iff_ne.mpr fun same =>
      isName.not_mem (by decide) (same ▸ member)
  have unclosed : ∀ c ∈ ' ' :: first.toList ++ ',' :: ' ' :: second.toList ++ [' '],
      (c != '}') = true := by
    intro c member
    rw [bne_iff_ne]
    rintro rfl
    simp [isFirst.not_mem (show Identifier.continues '}' = false by decide),
      isSecond.not_mem (show Identifier.continues '}' = false by decide)] at member
  have listed : (' ' :: first.toList ++ ',' :: ' ' :: second.toList ++ [' ']).filter (· != ' ') =
      first.toList ++ ',' :: second.toList := by
    simp [keeps isFirst, keeps isSecond]
  rw [namesListed, List.takeWhile_append_of_pos unclosed, List.takeWhile_cons_of_neg (by decide),
    List.append_nil, listed,
    List.splitOn_append_cons_self_of_not_mem (isFirst.not_mem (by decide)),
    List.splitOn_eq_singleton (isSecond.not_mem (by decide))]
  simp

theorem boundNames_import {client wrapper : String} (isClient : IsName client)
    (isWrapper : IsName wrapper) (source : String) :
    boundNames
        ("import type \x7b " ++ client ++ ", " ++ wrapper ++ " \x7d from " ++ source ++ ";") =
      [client, wrapper] := by
  have whole : ("import type \x7b " ++ client ++ ", " ++ wrapper ++ " \x7d from " ++ source ++
      ";").toList =
      "import type \x7b".toList ++
        ((' ' :: client.toList ++ ',' :: ' ' :: wrapper.toList ++ [' ']) ++
          ('}' :: (" from " ++ source ++ ";").toList)) := by
    simp
  rw [boundNames, whole, after?_append]
  exact namesListed_two isClient isWrapper _

/-! ## The lines of the module -/

variable {table : TypeTable} {options : ModuleOptions}

theorem isName_queryName (index : Nat) : IsName (queryName index) :=
  isName_numbered (isName_of_all (show "Query".toList.all Identifier.continues by decide)) index

theorem isName_parametersName (index : Nat) : IsName (parametersName index) :=
  isName_numbered (isName_of_all (show "Params".toList.all Identifier.continues by decide)) index

theorem isName_resultName (index : Nat) : IsName (resultName index) :=
  isName_numbered (isName_of_all (show "Result".toList.all Identifier.continues by decide)) index

theorem flatMap_resultLines {name : String} (isName : IsName name)
    (description : QueryDescription) :
    (resultLines table name description).flatMap boundNames = [name] := by
  have declaration {start : String} {rest : List Char} (blank : start.toList = ' ' :: rest) :
      boundNames ("type " ++ name ++ start) = [name] := by
    rw [String.append_assoc, ← boundNames_type isName start "" blank, String.append_empty]
  have fields (columns : List ResultColumn) :
      (columns.map (fieldLine table)).flatMap boundNames = [] := by
    refine List.flatMap_eq_nil_iff.mpr fun line member => ?_
    obtain ⟨column, -, rfl⟩ := List.mem_map.mp member
    simp only [fieldLine, String.append_assoc]
    exact boundNames_indented rfl _
  rw [resultLines]
  split
  · rw [List.flatMap_singleton, declaration rfl]
  · rw [List.cons_append, List.flatMap_cons, List.flatMap_append, fields, declaration rfl]
    rfl

theorem flatMap_queryLines (index : Nat) (sql : String) (description : QueryDescription) :
    (queryLines table index sql description).flatMap boundNames = typeNames index := by
  have empty : boundNames "" = [] := rfl
  rw [queryLines, List.flatMap_append, flatMap_resultLines (isName_resultName index)]
  simp only [List.flatMap_cons, List.flatMap_nil, String.append_assoc, empty,
    boundNames_type (isName_queryName index) " = " _ rfl,
    boundNames_type (isName_parametersName index) " = " _ rfl]
  rfl

theorem flatMap_queriesLines (index : Nat) (entries : List (String × QueryDescription)) :
    (queriesLines table index entries).flatMap boundNames =
      (List.range' index entries.length).flatMap typeNames := by
  induction entries generalizing index with
  | nil => rfl
  | cons entry entries ih =>
      rw [queriesLines, List.flatMap_append, flatMap_queryLines, ih]
      rfl

theorem flatMap_dispatch (dispatch : Dispatch) :
    (terminated (dispatch.lines "Q")).flatMap boundNames = [] := by
  rw [terminated_lines]
  refine List.flatMap_eq_nil_iff.mpr fun line member => ?_
  rcases List.mem_append.mp member with member | member
  · obtain ⟨arm, -, rfl⟩ := List.mem_map.mp member
    simp only [Dispatch.line, String.append_assoc]
    exact boundNames_indented rfl _
  · rw [List.mem_singleton.mp member, String.append_assoc]
    exact boundNames_indented rfl _

/-- The lines of the types that select and of those that the client's type is made with. -/
def selectionLines (count : Nat) : List String :=
  ["", "type Is<A, B> = [A] extends [B] ? ([B] extends [A] ? true : false) : false;", "",
   "export type Params<Q extends string> ="]
    ++ terminated ((parameterDispatch count).lines "Q")
    ++ ["", "export type Result<Q extends string, T = any> ="]
    ++ terminated ((resultDispatch count).lines "Q")
    ++ ["", "type ParamArgs<Q extends string> =",
      "  undefined extends Params<Q> ? [params?: Params<Q>] :",
      "  any[] extends Params<Q> ? [params?: Params<Q>] :",
      "  [params: Params<Q>];", ""]

/-- The lines of the client's type. -/
def clientLines (options : ModuleOptions) : List String :=
  ["export type TypedClient = Omit<" ++ options.clientType ++ ", \"query\"> & \x7b",
    "  query<Q extends string, T = any>(", "    query: Q,", "    ...params: ParamArgs<Q>",
    "  ): Promise<" ++ options.resultWrapper ++ "<Result<Q, T>>>;", "\x7d;"]

theorem tailLines_eq (count : Nat) :
    tailLines count options = selectionLines count ++ clientLines options := by
  simp [tailLines, selectionLines, clientLines]

theorem flatMap_selectionLines (count : Nat) :
    (selectionLines count).flatMap boundNames = ["Is", "Params", "Result", "ParamArgs"] := by
  simp only [selectionLines, List.flatMap_append, flatMap_dispatch]
  decide

theorem flatMap_clientLines : (clientLines options).flatMap boundNames = ["TypedClient"] := by
  have client : boundNames ("export type TypedClient = Omit<" ++ options.clientType ++
      ", \"query\"> & \x7b") = ["TypedClient"] := by
    rw [String.append_assoc, boundNames, String.toList_append]
    rfl
  have wrapper : boundNames ("  ): Promise<" ++ options.resultWrapper ++ "<Result<Q, T>>>;") =
      [] := by
    rw [String.append_assoc]
    exact boundNames_indented rfl _
  simp only [clientLines, List.flatMap_cons, client, wrapper]
  decide

/-- The module binds the two names it imports and the generated ones. -/
theorem topNames_module (client : Identifier.accepts options.clientType = true)
    (wrapper : Identifier.accepts options.resultWrapper = true) (words : table.NamesAreWords)
    (descriptions : QueryDescriptions) :
    topNames (synthesize descriptions table options).module =
      options.clientType :: options.resultWrapper :: generatedNames descriptions.size := by
  have imported := boundNames_import (Identifier.continues_of_accepts client)
    (Identifier.continues_of_accepts wrapper) (StringLiteral.quote options.clientModule)
  have head : (headLines options).flatMap boundNames =
      [options.clientType, options.resultWrapper] := by
    simp only [headLines, List.flatMap_cons, imported]
    rfl
  have last : boundNames "" = [] := rfl
  rw [topNames, textLines_module client wrapper words, lines, List.flatMap_append,
    List.flatMap_append, List.flatMap_append, head, flatMap_queriesLines, tailLines_eq,
    List.flatMap_append, flatMap_selectionLines, flatMap_clientLines, List.flatMap_singleton, last,
    List.append_nil, generatedNames, List.range_eq_range']
  rfl

/-! ## Generated names differ -/

/-- A name without digits. -/
def Unnumbered (name : String) : Prop := name.toList.all (!·.isDigit)

/-- What is left of a numbered name without its digits. -/
theorem filter_numbered {start : String} (letters : Unnumbered start) (index : Nat) :
    (start ++ toString index).toList.filter (!·.isDigit) = start.toList := by
  have kept : start.toList.filter (!·.isDigit) = start.toList :=
    List.filter_eq_self.mpr (List.all_eq_true.mp letters)
  have gone : (toString index).toList.filter (!·.isDigit) = [] :=
    List.filter_eq_nil_iff.mpr fun c member => by
      rw [isDigit_of_mem_toString member]
      exact Bool.false_ne_true
  rw [String.toList_append, List.filter_append, kept, gone, List.append_nil]

/-- A number stands in a numbered name. -/
theorem not_unnumbered_numbered (start : String) (index : Nat) :
    ¬ Unnumbered (start ++ toString index) := by
  intro letters
  have some : (toString index).toList ≠ [] := by
    rw [Nat.toString_eq_repr, Nat.toList_repr]
    exact Nat.toDigits_ne_nil
  obtain ⟨c, rest, first⟩ := List.exists_cons_of_ne_nil some
  have member : c ∈ (toString index).toList := by
    rw [first]
    exact List.mem_cons_self
  have within : c ∈ (start ++ toString index).toList := by
    rw [String.toList_append]
    exact List.mem_append_right _ member
  have absent := List.all_eq_true.mp letters c within
  rw [isDigit_of_mem_toString member] at absent
  cases absent

theorem not_unnumbered_of_mem_typeNames {indices : List Nat} {name : String}
    (member : name ∈ indices.flatMap typeNames) : ¬ Unnumbered name := by
  obtain ⟨index, -, member⟩ := List.mem_flatMap.mp member
  simp only [typeNames, List.mem_cons, List.not_mem_nil, or_false] at member
  rcases member with rfl | rfl | rfl <;> exact not_unnumbered_numbered _ index

theorem flatMap_typeNames (count : Nat) :
    (List.range count).flatMap typeNames =
      (List.range count ×ˢ ["Query", "Params", "Result"]).map fun pair =>
        pair.2 ++ toString pair.1 := by
  change _ = ((List.range count).flatMap fun index =>
    ["Query", "Params", "Result"].map (Prod.mk index)).map fun pair => pair.2 ++ toString pair.1
  rw [List.map_flatMap]
  rfl

theorem nodup_generatedNames (count : Nat) : (generatedNames count).Nodup := by
  have starts : ∀ start ∈ ["Query", "Params", "Result"], Unnumbered start := by
    unfold Unnumbered
    decide
  have fixed : ∀ name ∈ ["Is", "Params", "Result", "ParamArgs", "TypedClient"],
      Unnumbered name := by
    unfold Unnumbered
    decide
  rw [generatedNames, List.nodup_append]
  refine ⟨?_, by decide, ?_⟩
  · rw [flatMap_typeNames]
    refine (List.Nodup.product List.nodup_range (by decide)).map_on
      fun first one second two same => ?_
    obtain ⟨index, start⟩ := first
    obtain ⟨index', start'⟩ := second
    have letters := starts start (List.mem_product.mp one).2
    have letters' := starts start' (List.mem_product.mp two).2
    have startsEqual : start = start' := by
      have same := congrArg (fun name => name.toList.filter (!·.isDigit)) same
      dsimp only at same
      rw [filter_numbered letters, filter_numbered letters'] at same
      exact String.toList_inj.mp same
    subst startsEqual
    exact congrArg (·, start) (numbered_injective start same)
  · intro name numbered other isFixed same
    exact not_unnumbered_of_mem_typeNames numbered (same ▸ fixed other isFixed)

end Synthesis

/-- Settings without a fault name the client and the wrapper by identifiers. -/
theorem Settings.accepts_of_fault? {settings : Settings} (sound : settings.fault? = none) :
    Identifier.accepts settings.moduleOptions.clientType = true ∧
      Identifier.accepts settings.moduleOptions.resultWrapper = true := by
  rw [fault?] at sound
  split at sound
  · cases sound
  split at sound
  · cases sound
  split at sound
  · cases sound
  split at sound
  · cases sound
  split at sound
  · cases sound
  · next client =>
      split at sound
      · cases sound
      · next wrapper =>
          rw [Bool.not_eq_true', Bool.not_eq_false] at client wrapper
          exact ⟨client, wrapper⟩

namespace Synthesis

/-- **When the module binds every name once.** For settings without a fault and any number of
queries, the names that the module binds are the client's type and the type around results, as
the settings have them, and the generated names, which all differ. So no name is bound twice
exactly if the two names of the settings differ and neither is a generated one. -/
theorem names_bound_once_iff (settings : Settings) (sound : settings.fault? = none)
    (descriptions : QueryDescriptions) :
    topNames (synthesize descriptions .builtin settings.moduleOptions).module =
      settings.moduleOptions.clientType :: settings.moduleOptions.resultWrapper ::
        generatedNames descriptions.size ∧
    (generatedNames descriptions.size).Nodup ∧
    ((topNames (synthesize descriptions .builtin settings.moduleOptions).module).Nodup ↔
      settings.moduleOptions.clientType ≠ settings.moduleOptions.resultWrapper ∧
        settings.moduleOptions.clientType ∉ generatedNames descriptions.size ∧
        settings.moduleOptions.resultWrapper ∉ generatedNames descriptions.size) := by
  obtain ⟨client, wrapper⟩ := settings.accepts_of_fault? sound
  have names := topNames_module client wrapper TypeTable.namesAreWords_builtin descriptions
  have distinct := nodup_generatedNames descriptions.size
  refine ⟨names, distinct, ?_⟩
  rw [names, List.nodup_cons, List.nodup_cons, List.mem_cons, not_or]
  constructor
  · rintro ⟨⟨other, free⟩, freeToo, -⟩
    exact ⟨other, free, freeToo⟩
  · rintro ⟨other, free, freeToo⟩
    exact ⟨⟨other, free⟩, freeToo, distinct⟩

/-- With the names that are the default, two queries and all else are bound once. -/
theorem names_bound_once_by_default :
    Settings.fault? {} = none ∧
    (topNames (synthesize (.ofList [("one", ⟨[], []⟩), ("two", ⟨[], []⟩)]) .builtin
      (Settings.moduleOptions {})).module).Nodup := by
  have sound : Settings.fault? {} = none := by decide +kernel
  have size : (QueryDescriptions.ofList [("one", ⟨[], []⟩), ("two", ⟨[], []⟩)]).size = 2 := by
    decide
  have free : Settings.moduleOptions {} = ⟨"@electric-sql/pglite", "PGlite", "Results"⟩ := rfl
  obtain ⟨-, -, once⟩ :=
    names_bound_once_iff {} sound (.ofList [("one", ⟨[], []⟩), ("two", ⟨[], []⟩)])
  rw [size, free] at once
  exact ⟨sound, once.mpr (by decide +kernel)⟩

/-- Settings under which the client's type is imported by the name of the first query's text. -/
def clientNamedAsQuery : Settings := { output := { clientType := some "Query0" } }

/-- A name of the settings may be a generated one: then it is bound twice. -/
theorem name_bound_twice :
    clientNamedAsQuery.fault? = none ∧
    topNames (synthesize (.ofList [("one", ⟨[], []⟩)]) .builtin
      clientNamedAsQuery.moduleOptions).module =
        ["Query0", "Results", "Query0", "Params0", "Result0", "Is", "Params", "Result", "ParamArgs",
          "TypedClient"] ∧
    ¬ (topNames (synthesize (.ofList [("one", ⟨[], []⟩)]) .builtin
      clientNamedAsQuery.moduleOptions).module).Nodup := by
  have sound : clientNamedAsQuery.fault? = none := by decide +kernel
  obtain ⟨client, wrapper⟩ := clientNamedAsQuery.accepts_of_fault? sound
  have names := topNames_module client wrapper TypeTable.namesAreWords_builtin
    (.ofList [("one", ⟨[], []⟩)])
  rw [names]
  exact ⟨sound, by decide +kernel, by decide +kernel⟩

end Synthesis

end TypedQueries
