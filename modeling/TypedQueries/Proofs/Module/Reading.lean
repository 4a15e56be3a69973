import Mathlib.Data.List.Basic
import TypedQueries.Proofs.Module.Lines

/-! # Reading the module back

A module is read line by line (`Reader.step`). Whatever the texts and names in it, it
declares exactly the described queries, each as it was described (`module_reads_back`).
-/

namespace TypedQueries

/-- What a module declares for a query: its text, the types of its parameters and the
columns of its rows with their types. The forms for no parameters and no columns give
nothing. -/
structure QueryShape where
  text : String
  parameters : Option (List String)
  columns : Option (List (String × String))
deriving DecidableEq, Repr

/-- The columns whose names do not occur before them. -/
def firstColumns (columns : List ResultColumn) : List ResultColumn :=
  columns.eraseDupsBy fun column earlier => column.name == earlier.name

namespace QueryShape

/-- A described query with the names of its types. -/
def ofEntry (table : TypeTable) (entry : String × QueryDescription) : QueryShape where
  text := entry.1
  parameters :=
    if entry.2.parameters = [] then none
    else some (entry.2.parameters.map (Synthesis.typeName table))
  columns :=
    if entry.2.columns = [] then none
    else some ((firstColumns entry.2.columns).map fun column =>
      (column.name, Synthesis.typeName table column.typeId))

end QueryShape

/-- Whether a line begins as the declaration of a query's text does. -/
def declaresQuery (line : String) : Bool := "type Query".toList.isPrefixOf line.toList

/-- A reader of modules: between declarations, or within those of a query of which some
are read. -/
inductive Reader where
  | outside (found : List QueryShape)
  | named (found : List QueryShape) (text : String)
  | typed (found : List QueryShape) (text : String) (parameters : Option (List String))
  | inRow (found : List QueryShape) (text : String) (parameters : Option (List String))
      (columns : List (String × String))

namespace Reader

open Synthesis

/-- What follows the start of a line. -/
def after? (start : String) (line : List Char) : Option (List Char) :=
  start.toList.isPrefixOf? line

/-- What precedes the end of a line. -/
def before? (stop : String) (line : List Char) : Option (List Char) :=
  stop.toList.isSuffixOf? line

/-- What precedes the first quote that no escape takes, and what follows it. -/
def closed? : List Char → Option (List Char × List Char)
  | [] => none
  | '\\' :: c :: rest => (closed? rest).map fun parts => ('\\' :: c :: parts.1, parts.2)
  | c :: rest =>
      if c = '\x22' then some ([], rest)
      else (closed? rest).map fun parts => (c :: parts.1, parts.2)

/-- The value of the string literal at the start of a line, and what follows it. -/
def literal? (line : List Char) : Option (String × List Char) :=
  (after? "\x22" line).bind closed? |>.map fun parts =>
    (String.ofList (Escape.decode parts.1), parts.2)

/-- The text that a line declares for the query of the given number. -/
def text? (index : Nat) (line : String) : Option String := do
  let (text, rest) ← (after? ("type " ++ queryName index ++ " = ") line.toList).bind literal?
  if rest = [';'] then some text else none

/-- The types in a tuple, which ends the line: nothing for the tuple that may be left out. -/
def tuple? (tuple : List Char) : Option (Option (List String)) :=
  if tuple = "[] | undefined;".toList then some none
  else
    ((after? "[" tuple).bind (before? "];")).map fun names =>
      some (((names.filter (· != ' ')).splitOn ',').map String.ofList)

/-- The types of parameters that a line declares for the query of the given number. -/
def parameters? (index : Nat) (line : String) : Option (Option (List String)) :=
  (after? ("type " ++ parametersName index ++ " = ") line.toList).bind tuple?

/-- The key at the start of a line, bare or in quotes, and what follows it. -/
def key? (line : List Char) : Option (String × List Char) :=
  match line with
  | '\x22' :: _ => literal? line
  | _ =>
      some (String.ofList (line.takeWhile Identifier.continues),
        line.dropWhile Identifier.continues)

/-- The column that a line declares, with its type. -/
def column? (line : String) : Option (String × String) := do
  let (name, rest) ← (after? "  " line.toList).bind key?
  let type ← (after? ": " rest).bind (before? ";")
  some (name, String.ofList type)

/-- Reads one more line. Between declarations a line may say anything else, but it must not
begin as the declaration of a query's text and fail to be the next one. -/
def step : Reader → String → Option Reader
  | outside found, line =>
      match text? found.length line with
      | some text => some (named found text)
      | none => if declaresQuery line then none else some (outside found)
  | named found text, line => (parameters? found.length line).map (typed found text)
  | typed found text parameters, line =>
      if line = "type " ++ resultName found.length ++ " = Record<string, never>;" then
        some (outside (found ++ [⟨text, parameters, none⟩]))
      else if line = "type " ++ resultName found.length ++ " = \x7b" then
        some (inRow found text parameters [])
      else none
  | inRow found text parameters columns, line =>
      if line = "\x7d;" then some (outside (found ++ [⟨text, parameters, some columns⟩]))
      else (column? line).map fun column => inRow found text parameters (columns ++ [column])

/-- The queries that a text declares, if it can be read. -/
def read (module : String) : Option (List QueryShape) :=
  match (textLines module).foldlM step (outside []) with
  | some (outside found) => some found
  | _ => none

/-! ## Parts of lines -/

theorem after?_append (start : String) (rest : List Char) :
    after? start (start.toList ++ rest) = some rest :=
  List.isPrefixOf?_eq_some_iff_append_eq.mpr rfl

theorem before?_append (stop : String) (rest : List Char) :
    before? stop (rest ++ stop.toList) = some rest :=
  List.isSuffixOf?_eq_some_iff_append_eq.mpr rfl

theorem closed?_cons_of_ne {c : Char} (noQuote : c ≠ '\x22') (noBackslash : c ≠ '\\')
    (rest : List Char) :
    closed? (c :: rest) = (closed? rest).map fun parts => (c :: parts.1, parts.2) := by
  rw [closed?, if_neg noQuote]
  intro _ _ same
  exact absurd same noBackslash

theorem closed?_written {c : Char} {form : List Char} (written : StringLiteral.Written c form)
    (rest : List Char) :
    closed? (form ++ rest) = (closed? rest).map fun parts => (form ++ parts.1, parts.2) := by
  cases written with
  | signed sign _ _ => rfl
  | numbered control =>
      have digits : ∀ n < 0x20,
          (Hex.pair false n).all (fun d => d ≠ '\x22' ∧ d ≠ '\\') = true := by decide
      have ordinary := digits c.toNat control
      simp only [List.all_eq_true, decide_eq_true_eq] at ordinary
      have first := ordinary _ List.mem_cons_self
      have second := ordinary _ (List.mem_cons_of_mem _ List.mem_cons_self)
      simp only [Hex.pair, List.cons_append, List.nil_append, closed?,
        closed?_cons_of_ne first.1 first.2, closed?_cons_of_ne second.1 second.2,
        closed?_cons_of_ne (c := '0') (by decide) (by decide), Option.map_map]
      rfl
  | plain noQuote noBackslash _ => exact closed?_cons_of_ne noQuote noBackslash rest

theorem closed?_interior (value rest : List Char) :
    closed? (StringLiteral.interior value ++ '\x22' :: rest) =
      some (StringLiteral.interior value, rest) := by
  induction value with
  | nil => rfl
  | cons c value ih =>
      change closed? (StringLiteral.character c ++ StringLiteral.interior value ++ _) = _
      rw [List.append_assoc, closed?_written (StringLiteral.written_character c), ih]
      rfl

theorem literal?_quote (value : String) (rest : List Char) :
    literal? ((StringLiteral.quote value).toList ++ rest) = some (value, rest) := by
  have opened : after? "\x22" ((StringLiteral.quote value).toList ++ rest) =
      some (StringLiteral.interior value.toList ++ '\x22' :: rest) := by
    rw [StringLiteral.toList_quote]
    simp [after?, List.isPrefixOf?]
  rw [literal?, opened, Option.bind_some, closed?_interior, Option.map_some,
    StringLiteral.decode_interior, String.ofList_toList]

theorem after?_toList_append (start middle rest : String) :
    after? start (start ++ middle ++ rest).toList = some (middle.toList ++ rest.toList) := by
  rw [String.append_assoc, String.toList_append, after?_append, String.toList_append]

theorem text?_declaration (index : Nat) (value : String) :
    text? index ("type " ++ queryName index ++ " = " ++ StringLiteral.quote value ++ ";") =
      some value := by
  rw [text?, after?_toList_append, Option.bind_some, literal?_quote]
  rfl

/-- Without the blanks, names are divided by single commas. -/
theorem filter_intercalate {names : List (List Char)} (words : ∀ name ∈ names, ' ' ∉ name) :
    ([',', ' '].intercalate names).filter (· != ' ') = [','].intercalate names := by
  induction names with
  | nil => rfl
  | cons name names ih =>
      have kept : name.filter (· != ' ') = name := by
        refine List.filter_eq_self.mpr fun c member => ?_
        rw [bne_iff_ne]
        rintro rfl
        exact words name List.mem_cons_self member
      have others := ih fun other member => words other (List.mem_cons_of_mem _ member)
      cases names with
      | nil => simpa [List.intercalate] using kept
      | cons next names =>
          rw [List.intercalate_cons_cons, List.intercalate_cons_cons, List.filter_append,
            List.filter_append, kept, others]
          rfl

theorem tuple?_names {names : List String} (some : names ≠ [])
    (words : ∀ name ∈ names, ∀ c ∈ name.toList, c ≠ ' ' ∧ c ≠ ',') :
    tuple? (("[" ++ String.intercalate ", " names ++ "]").toList ++ ";".toList) =
      .some (.some names) := by
  let parts := names.map String.toList
  have blanks : ∀ part ∈ parts, ' ' ∉ part := by
    intro part member blank
    obtain ⟨name, inNames, rfl⟩ := List.mem_map.mp member
    exact (words name inNames _ blank).1 rfl
  have commas : ∀ part ∈ parts, ',' ∉ part := by
    intro part member comma
    obtain ⟨name, inNames, rfl⟩ := List.mem_map.mp member
    exact (words name inNames _ comma).2 rfl
  have tuple : ("[" ++ String.intercalate ", " names ++ "]").toList ++ ";".toList =
      "[".toList ++ ([',', ' '].intercalate parts ++ "];".toList) := by
    simp [parts, String.toList_intercalate]
  have read (separated : List Char) :
      (after? "[" ("[".toList ++ (separated ++ "];".toList))).bind (before? "];") =
        .some separated := by
    rw [after?_append, Option.bind_some, before?_append]
  have other : "[".toList ++ ([',', ' '].intercalate parts ++ "];".toList) ≠
      "[] | undefined;".toList := by
    intro same
    have absent : (after? "[" "[] | undefined;".toList).bind (before? "];") = none := by decide
    rw [← same, read] at absent
    cases absent
  rw [tuple?, tuple, if_neg other, read, Option.map_some, filter_intercalate blanks,
    List.splitOn_intercalate _ commas (by simp [parts, some]), List.map_map]
  simp [Function.comp_def]

theorem parameters?_declaration {table : TypeTable} (words : table.NamesAreWords) (index : Nat)
    (entry : String × QueryDescription) :
    parameters? index
        ("type " ++ parametersName index ++ " = " ++ parameterTuple table entry.2 ++ ";") =
      some (QueryShape.ofEntry table entry).parameters := by
  rw [parameters?, after?_toList_append, Option.bind_some, parameterTuple, QueryShape.ofEntry]
  simp only [List.isEmpty_iff]
  split
  · rfl
  · next some =>
      refine tuple?_names (by simpa using some) fun name member c inName => ?_
      obtain ⟨id, -, rfl⟩ := List.mem_map.mp member
      exact (words id c inName).2

theorem key?_propertyKey (name : String) {c : Char} (ends : Identifier.continues c = false)
    (rest : List Char) :
    key? ((propertyKey name).toList ++ c :: rest) = some (name, c :: rest) := by
  unfold propertyKey
  split
  · next accepted =>
      have all := Identifier.continues_of_accepts accepted
      have bare : key? (name.toList ++ c :: rest) =
          some (String.ofList ((name.toList ++ c :: rest).takeWhile Identifier.continues),
            (name.toList ++ c :: rest).dropWhile Identifier.continues) := by
        cases characters : name.toList with
        | nil =>
            rw [Identifier.accepts, characters] at accepted
            cases accepted
        | cons first others =>
            rw [List.cons_append, key?]
            intro _ same
            have start := all first (by rw [characters]; exact List.mem_cons_self)
            rw [(List.cons.inj same).1] at start
            exact absurd start (by decide)
      rw [bare, List.takeWhile_append_of_pos all, List.dropWhile_append_of_pos all,
        List.takeWhile_cons_of_neg (by simp [ends]), List.dropWhile_cons_of_neg (by simp [ends]),
        List.append_nil, String.ofList_toList]
  · have quoted : key? ((StringLiteral.quote name).toList ++ c :: rest) =
        literal? ((StringLiteral.quote name).toList ++ c :: rest) := by
      rw [StringLiteral.toList_quote]
      rfl
    rw [quoted, literal?_quote]

theorem column?_fieldLine (table : TypeTable) (column : ResultColumn) :
    column? (fieldLine table column) = some (column.name, typeName table column.typeId) := by
  have key : ((after? "  " (fieldLine table column).toList).bind key?) =
      some (column.name, ": ".toList ++ ((typeName table column.typeId).toList ++ ";".toList)) := by
    simp only [fieldLine, String.toList_append, List.append_assoc, after?_append, Option.bind_some]
    exact key?_propertyKey column.name (by decide) _
  simp only [column?, key, Option.bind_eq_bind, Option.bind_some, after?_append, before?_append,
    String.ofList_toList]

/-! ## Reading a query -/

theorem declaresQuery_of_start (start rest : String)
    (differs : ¬ start.toList <+: "type Query".toList ∧ ¬ "type Query".toList <+: start.toList) :
    declaresQuery (start ++ rest) = false := by
  rw [declaresQuery, ← Bool.not_eq_true, List.isPrefixOf_iff_prefix, String.toList_append]
  intro begins
  rcases List.prefix_or_prefix_of_prefix begins (List.prefix_append _ _) with shorter | longer
  · exact differs.2 shorter
  · exact differs.1 longer

/-- A line that does not begin as the declaration of a text is passed over. -/
theorem step_outside {found : List QueryShape} {line : String}
    (other : declaresQuery line = false) : step (outside found) line = some (outside found) := by
  have absent : after? ("type " ++ queryName found.length ++ " = ") line.toList = none := by
    refine Option.eq_none_iff_forall_ne_some.mpr fun rest found => ?_
    have whole := List.isPrefixOf?_eq_some_iff_append_eq.mp found
    have begins : declaresQuery line = true := by
      rw [declaresQuery, List.isPrefixOf_iff_prefix, ← whole, queryName]
      simp only [String.toList_append, List.append_assoc]
      exact List.prefix_append "type Query".toList _
    rw [other] at begins
    cases begins
  simp [step, text?, absent, other]

theorem eraseDupsBy_loop_eq (columns kept : List ResultColumn) :
    List.eraseDupsBy.loop (fun column earlier => column.name == earlier.name) columns kept =
      kept.reverse ++ freshColumns (kept.map (·.name)) columns := by
  induction columns generalizing kept with
  | nil => simp [List.eraseDupsBy.loop, freshColumns]
  | cons column columns ih =>
      have seen : (kept.map (·.name)).contains column.name =
          kept.any (fun earlier => column.name == earlier.name) := by
        rw [List.contains_eq_any_beq, List.any_map]
        rfl
      rw [List.eraseDupsBy.loop, freshColumns, seen]
      cases kept.any (fun earlier => column.name == earlier.name) with
      | true => simpa using ih kept
      | false => simpa using ih (column :: kept)

theorem freshColumns_eq (columns : List ResultColumn) :
    freshColumns [] columns = firstColumns columns := by
  rw [firstColumns, List.eraseDupsBy, eraseDupsBy_loop_eq]
  rfl

theorem freshColumns_eq_nil_iff {columns : List ResultColumn} :
    freshColumns [] columns = [] ↔ columns = [] := by
  cases columns with
  | nil => simp [freshColumns]
  | cons column columns => simp [freshColumns]

theorem foldlM_step_fieldLines (table : TypeTable) (found : List QueryShape) (text : String)
    (parameters : Option (List String)) (read : List (String × String))
    (columns : List ResultColumn) :
    (columns.map (fieldLine table)).foldlM step (inRow found text parameters read) =
      some (inRow found text parameters
        (read ++ columns.map fun column => (column.name, typeName table column.typeId))) := by
  induction columns generalizing read with
  | nil => simp
  | cons column columns ih =>
      have inside : fieldLine table column ≠ "\x7d;" := by
        intro same
        have starts := congrArg String.toList same
        simp [fieldLine] at starts
      rw [List.map_cons, List.foldlM_cons, step, if_neg inside, column?_fieldLine]
      have next := ih (read ++ [(column.name, typeName table column.typeId)])
      rw [List.append_assoc, List.singleton_append] at next
      exact next

/-- The declaration of a row is read back. -/
theorem foldlM_step_resultLines (table : TypeTable) (found : List QueryShape)
    (entry : String × QueryDescription) (parameters : Option (List String)) :
    (resultLines table (resultName found.length) entry.2).foldlM step
        (typed found entry.1 parameters) =
      some (outside (found ++ [⟨entry.1, parameters,
        (QueryShape.ofEntry table entry).columns⟩])) := by
  unfold resultLines
  split
  · next none =>
      have columns : (QueryShape.ofEntry table entry).columns = .none :=
        if_pos (freshColumns_eq_nil_iff.mp none)
      rw [columns, List.foldlM_cons, step, if_pos rfl]
      rfl
  · next some =>
      have columns : (QueryShape.ofEntry table entry).columns =
          .some ((freshColumns [] entry.2.columns).map fun column =>
            (column.name, typeName table column.typeId)) := by
        rw [freshColumns_eq]
        exact if_neg fun none => some (freshColumns_eq_nil_iff.mpr none)
      have opens : "type " ++ resultName found.length ++ " = \x7b" ≠
          "type " ++ resultName found.length ++ " = Record<string, never>;" := by
        intro same
        have ends := congrArg String.toList same
        simp only [String.toList_append] at ends
        exact absurd (List.append_cancel_left ends) (by decide)
      rw [List.cons_append, List.foldlM_cons, step, if_neg opens, if_pos rfl]
      simp only [Option.bind_eq_bind, Option.bind_some]
      rw [List.foldlM_append, foldlM_step_fieldLines, columns]
      rfl

/-- **One query is read back.** -/
theorem foldlM_step_queryLines {table : TypeTable} (words : table.NamesAreWords)
    (found : List QueryShape) (entry : String × QueryDescription) :
    (queryLines table found.length entry.1 entry.2).foldlM step (outside found) =
      some (outside (found ++ [QueryShape.ofEntry table entry])) := by
  have between : step (outside found) "" = some (outside found) := step_outside rfl
  rw [queryLines, List.foldlM_append, List.foldlM_cons, between]
  simp only [List.foldlM_cons, List.foldlM_nil, step, text?_declaration,
    parameters?_declaration words, Option.bind_eq_bind, Option.bind_some, Option.map_some,
    Option.pure_def]
  exact foldlM_step_resultLines table found entry _

theorem foldlM_step_queriesLines {table : TypeTable} (words : table.NamesAreWords)
    (found : List QueryShape) (entries : List (String × QueryDescription)) :
    (queriesLines table found.length entries).foldlM step (outside found) =
      some (outside (found ++ entries.map (QueryShape.ofEntry table))) := by
  induction entries generalizing found with
  | nil => simp [queriesLines]
  | cons entry entries ih =>
      have next := ih (found ++ [QueryShape.ofEntry table entry])
      rw [List.length_append, List.length_singleton] at next
      rw [List.append_assoc, List.singleton_append] at next
      rw [queriesLines, List.foldlM_append, foldlM_step_queryLines words, List.map_cons]
      exact next

/-- Lines that declare no text are passed over. -/
theorem foldlM_step_outside {lines : List String} (found : List QueryShape)
    (others : ∀ line ∈ lines, declaresQuery line = false) :
    lines.foldlM step (outside found) = some (outside found) := by
  induction lines with
  | nil => rfl
  | cons line lines ih =>
      rw [List.foldlM_cons, step_outside (others line List.mem_cons_self)]
      exact ih fun other member => others other (List.mem_cons_of_mem _ member)

end Reader

namespace Synthesis

variable {table : TypeTable} {options : ModuleOptions}

theorem not_declaresQuery_of_mem_headLines {line : String} (member : line ∈ headLines options) :
    declaresQuery line = false := by
  simp only [headLines, List.mem_cons, List.not_mem_nil, or_false, String.append_assoc] at member
  rcases member with rfl | rfl | rfl
  · rfl
  · rfl
  · exact Reader.declaresQuery_of_start _ _ (by decide)

theorem not_declaresQuery_of_mem_dispatch {dispatch : Dispatch} {line : String}
    (member : line ∈ terminated (dispatch.lines "Q")) : declaresQuery line = false := by
  rw [terminated_lines, List.mem_append, List.mem_singleton] at member
  rcases member with member | rfl
  · obtain ⟨arm, -, rfl⟩ := List.mem_map.mp member
    simp only [Dispatch.line, String.append_assoc]
    exact Reader.declaresQuery_of_start _ _ (by decide)
  · simp only [String.append_assoc]
    exact Reader.declaresQuery_of_start _ _ (by decide)

theorem not_declaresQuery_of_mem_tailLines (count : Nat) :
    ∀ line ∈ tailLines count options, declaresQuery line = false := by
  have client : declaresQuery ("export type TypedClient = Omit<" ++ options.clientType ++
      ", \"query\"> & \x7b") = false := by
    rw [String.append_assoc]
    exact Reader.declaresQuery_of_start _ _ (by decide)
  have wrapper : declaresQuery ("  ): Promise<" ++ options.resultWrapper ++ "<Result<Q, T>>>;") =
      false := by
    rw [String.append_assoc]
    exact Reader.declaresQuery_of_start _ _ (by decide)
  simp +decide only [tailLines, List.forall_mem_append, List.forall_mem_cons, client, wrapper,
    true_and, and_true]
  exact ⟨fun line => not_declaresQuery_of_mem_dispatch,
    fun line => not_declaresQuery_of_mem_dispatch⟩

theorem not_declaresQuery_of_mem_resultLines (index : Nat) (description : QueryDescription) :
    ∀ line ∈ resultLines table (resultName index) description, declaresQuery line = false := by
  have declaration (rest : String) :
      declaresQuery ("type " ++ resultName index ++ rest) = false := by
    rw [resultName, ← String.append_assoc, String.append_assoc]
    exact Reader.declaresQuery_of_start ("type " ++ "Result") _ (by decide)
  unfold resultLines
  intro line member
  split at member
  · rw [List.mem_singleton.mp member]
    exact declaration _
  · rw [List.cons_append, List.mem_cons, List.mem_append, List.mem_singleton] at member
    rcases member with rfl | member | rfl
    · exact declaration _
    · obtain ⟨column, -, rfl⟩ := List.mem_map.mp member
      simp only [fieldLine, String.append_assoc]
      exact Reader.declaresQuery_of_start _ _ (by decide)
    · rfl

/-- The line that declares the text of a query. -/
def textLine (index : Nat) (sql : String) : String :=
  "type Query" ++ toString index ++ " = " ++ StringLiteral.quote sql ++ ";"

theorem textLine_eq (index : Nat) (sql : String) :
    "type " ++ queryName index ++ " = " ++ StringLiteral.quote sql ++ ";" = textLine index sql := by
  rw [queryName, ← String.append_assoc]
  rfl

theorem declaresQuery_textLine (index : Nat) (sql : String) :
    declaresQuery (textLine index sql) = true := by
  rw [declaresQuery, List.isPrefixOf_iff_prefix, textLine]
  simp only [String.toList_append, List.append_assoc]
  exact List.prefix_append _ _

theorem declaresQuery_parametersLine (index : Nat) (tuple : String) :
    declaresQuery ("type " ++ parametersName index ++ " = " ++ tuple ++ ";") = false := by
  simp only [parametersName, String.append_assoc]
  rw [← String.append_assoc]
  exact Reader.declaresQuery_of_start ("type " ++ "Params") _ (by decide)

theorem filter_declaresQuery_queriesLines (index : Nat)
    (entries : List (String × QueryDescription)) :
    (queriesLines table index entries).filter declaresQuery =
      (entries.zipIdx index).map fun entry => textLine entry.2 entry.1.1 := by
  induction entries generalizing index with
  | nil => rfl
  | cons entry entries ih =>
      have empty : declaresQuery "" = false := rfl
      have result : (resultLines table (resultName index) entry.2).filter declaresQuery = [] := by
        refine List.filter_eq_nil_iff.mpr fun line member => ?_
        rw [not_declaresQuery_of_mem_resultLines index entry.2 line member]
        exact Bool.false_ne_true
      rw [queriesLines, List.filter_append, ih, queryLines, List.filter_append, result, textLine_eq]
      simp [empty, declaresQuery_textLine, declaresQuery_parametersLine]

theorem filter_declaresQuery_lines (descriptions : QueryDescriptions) :
    (lines descriptions table options ++ [""]).filter declaresQuery =
      descriptions.entries.zipIdx.map fun entry => textLine entry.2 entry.1.1 := by
  have head : (headLines options).filter declaresQuery = [] :=
    List.filter_eq_nil_iff.mpr fun line member => by
      rw [not_declaresQuery_of_mem_headLines member]
      exact Bool.false_ne_true
  have tail : (tailLines descriptions.size options).filter declaresQuery = [] :=
    List.filter_eq_nil_iff.mpr fun line member => by
      rw [not_declaresQuery_of_mem_tailLines _ line member]
      exact Bool.false_ne_true
  rw [lines, List.filter_append, List.filter_append, List.filter_append, head, tail,
    filter_declaresQuery_queriesLines]
  simp [declaresQuery]

theorem foldlM_step_lines (words : table.NamesAreWords) (descriptions : QueryDescriptions) :
    (lines descriptions table options ++ [""]).foldlM Reader.step (.outside []) =
      some (.outside (descriptions.entries.map (QueryShape.ofEntry table))) := by
  have head := Reader.foldlM_step_outside []
    fun line (member : line ∈ headLines options) => not_declaresQuery_of_mem_headLines member
  have queries := Reader.foldlM_step_queriesLines words [] descriptions.entries
  rw [List.length_nil, List.nil_append] at queries
  have tailIsOutside : ∀ line ∈ tailLines descriptions.size options ++ [""],
      declaresQuery line = false := by
    intro line member
    rcases List.mem_append.mp member with member | member
    · exact not_declaresQuery_of_mem_tailLines _ line member
    · rw [List.mem_singleton.mp member]
      rfl
  have tail := Reader.foldlM_step_outside (descriptions.entries.map (QueryShape.ofEntry table))
    tailIsOutside
  rw [lines, List.append_assoc, List.append_assoc, List.foldlM_append, head]
  simp only [Option.bind_eq_bind, Option.bind_some]
  rw [List.foldlM_append, queries]
  exact tail

end Synthesis

/-- **A module can be read back, and its contents cannot forge declarations.** Whatever the
texts of the queries, the names of their columns and the place of the client are, the lines
that begin as declarations of texts are those of the described queries, one for each and in
order, and reading the module line by line gives each query back as it was described. -/
theorem module_reads_back (descriptions : QueryDescriptions) (options : ModuleOptions)
    (client : Identifier.accepts options.clientType = true)
    (wrapper : Identifier.accepts options.resultWrapper = true) :
    (textLines (synthesize descriptions .builtin options).module).filter declaresQuery =
      descriptions.entries.zipIdx.map (fun entry =>
        "type Query" ++ toString entry.2 ++ " = " ++ StringLiteral.quote entry.1.1 ++ ";") ∧
    ((textLines (synthesize descriptions .builtin options).module).filter declaresQuery).length =
      descriptions.size ∧
    Reader.read (synthesize descriptions .builtin options).module =
      some (descriptions.entries.map (QueryShape.ofEntry .builtin)) := by
  have words := TypeTable.namesAreWords_builtin
  have lines := Synthesis.textLines_module client wrapper words descriptions
  refine ⟨?_, ?_, ?_⟩
  · rw [lines]
    exact Synthesis.filter_declaresQuery_lines descriptions
  · rw [lines, Synthesis.filter_declaresQuery_lines]
    simp [QueryDescriptions.size]
  · rw [Reader.read, lines, Synthesis.foldlM_step_lines words]

/-- Descriptions whose texts and column names look like declarations. -/
def forgingDescriptions : QueryDescriptions where
  entries :=
    [("1\";\ntype Query1 = \"2", ⟨[23, 600], [⟨"a: number;\n\x7d;", 25⟩, ⟨"b", 1009⟩, ⟨"b", 23⟩]⟩),
     ("\\", ⟨[], []⟩)]
  distinct := by decide

theorem module_reads_back_forging :
    Identifier.accepts "PGlite" = true ∧ Identifier.accepts "Results" = true ∧
    Reader.read (synthesize forgingDescriptions .builtin
        ⟨"./db\";\ntype Query0 = \"", "PGlite", "Results"⟩).module =
      some [⟨"1\";\ntype Query1 = \"2", some ["number", "unknown"],
          some [("a: number;\n\x7d;", "string"), ("b", "string[]")]⟩,
        ⟨"\\", none, none⟩] := by
  have client : Identifier.accepts "PGlite" = true := by decide
  have wrapper : Identifier.accepts "Results" = true := by decide
  obtain ⟨-, -, read⟩ := module_reads_back forgingDescriptions
    ⟨"./db\";\ntype Query0 = \"", "PGlite", "Results"⟩ client wrapper
  have shapes : forgingDescriptions.entries.map (QueryShape.ofEntry .builtin) =
      [⟨"1\";\ntype Query1 = \"2", some ["number", "unknown"],
          some [("a: number;\n\x7d;", "string"), ("b", "string[]")]⟩,
        ⟨"\\", none, none⟩] := by
    decide +kernel
  exact ⟨client, wrapper, read.trans (congrArg some shapes)⟩

end TypedQueries
