import Mathlib.Algebra.GroupWithZero.Nat
import Mathlib.Data.List.Induction
import TypedQueries.Proofs.Generation.Forecast
import TypedQueries.Proofs.Generation.Observers
import TypedQueries.Proofs.Module.Names

/-! # What a run accounts for

What is told in a run that succeeds is told from what was found in the sources and what the probe
has described (`Course.exists_found`), and so are the figures of its report and the module. So they
agree: files, calls and queries are counted alike in the report, the events and the module, and the
findings are the same in the same order (`Generation.report_agrees`).
-/

namespace TypedQueries

theorem eraseDups_sublist (texts : List String) : texts.eraseDups.Sublist texts := by
  induction texts using List.reverseRecOn with
  | nil => exact List.Sublist.slnil
  | append_singleton texts text ih =>
      -- The last text is kept only if it does not occur before.
      rw [List.eraseDups_append]
      refine ih.append ?_
      cases known : texts.contains text with
      | true =>
          rw [List.cons_removeAll, known, if_neg (by decide)]
          exact List.nil_sublist _
      | false =>
          rw [List.cons_removeAll, known, if_pos rfl]
          exact List.Sublist.refl _

theorem nodup_eraseDups (texts : List String) : texts.eraseDups.Nodup := by
  induction texts using List.reverseRecOn with
  | nil => exact List.nodup_nil
  | append_singleton texts text ih =>
      rw [List.eraseDups_append, List.cons_removeAll]
      cases known : texts.contains text with
      | true =>
          rw [if_neg (by decide), List.nil_removeAll, List.eraseDups_nil, List.append_nil]
          exact ih
      | false =>
          have fresh : text ∉ texts.eraseDups := fun member => by
            have present := (eraseDups_sublist texts).subset member
            rw [List.contains_iff_mem.mpr present] at known
            cases known
          rw [if_pos rfl, List.nil_removeAll, List.eraseDups_cons, List.filter_nil,
            List.eraseDups_nil]
          exact List.nodup_append.mpr ⟨ih, List.nodup_singleton text,
            fun other member _ single same =>
              fresh (List.mem_singleton.mp single ▸ same ▸ member)⟩

/-- As many texts are left as there were exactly if none is repeated. -/
theorem length_eraseDups_eq_iff {texts : List String} :
    texts.eraseDups.length = texts.length ↔ texts.Nodup := by
  constructor
  · intro same
    rw [← (eraseDups_sublist texts).eq_of_length same]
    exact nodup_eraseDups texts
  · intro unrepeated
    rw [eraseDups_of_nodup unrepeated]

namespace Event

/-- The number of calls that is told of a file. -/
def calls? : Event → Option Nat
  | .fileScanned _ calls => some calls
  | _ => none

/-- The text of a query that is told to be described. -/
def describedText? : Event → Option String
  | .queryDescribed sql _ _ => some sql
  | _ => none

/-- The finding that is told. -/
def finding? : Event → Option Diagnostic
  | .diagnostic finding => some finding
  | _ => none

/-- What is told to be written: where, of how many queries and in how many bytes. -/
def written? : Event → Option (Path × Nat × Nat)
  | .outputWritten path queries bytes _ => some (path, queries, bytes)
  | _ => none

end Event

namespace Synthesis

/-- The names of the types that are declared in lines as texts of queries. -/
def aliases (lines : List String) : List String := (lines.filter declaresQuery).flatMap boundNames

theorem boundNames_textLine (index : Nat) (sql : String) :
    boundNames (textLine index sql) = [queryName index] := by
  rw [← textLine_eq, String.append_assoc, String.append_assoc, String.append_assoc]
  exact boundNames_type (isName_queryName index) " = " _ rfl

variable {table : TypeTable} {options : ModuleOptions}

theorem aliases_append_empty (lines : List String) : aliases (lines ++ [""]) = aliases lines := by
  rw [aliases, List.filter_append]
  exact congrArg (List.flatMap boundNames) (List.append_nil _)

theorem aliases_lines (descriptions : QueryDescriptions) :
    aliases (lines descriptions table options) =
      (List.range descriptions.size).map queryName := by
  rw [← aliases_append_empty, aliases, filter_declaresQuery_lines, List.flatMap_map]
  simp only [boundNames_textLine]
  rw [← List.map_eq_flatMap, List.range_eq_range', QueryDescriptions.size,
    ← List.zipIdx_map_snd 0 descriptions.entries, List.map_map]
  rfl

/-- The types that the module declares as texts of queries are numbered from zero. -/
theorem aliases_textLines (client : Identifier.accepts options.clientType = true)
    (wrapper : Identifier.accepts options.resultWrapper = true) (words : table.NamesAreWords)
    (descriptions : QueryDescriptions) :
    aliases (textLines (synthesize descriptions table options).module) =
      (List.range descriptions.size).map queryName := by
  rw [textLines_module client wrapper words, aliases_append_empty, aliases_lines]

end Synthesis

namespace Generation

variable {root : Path} {settings : Settings} {actions : List Action} {files fs gs : FileSystem}
  {sources : Sources} {descriptions : QueryDescriptions}

/-! ## What is told in a run -/

theorem events_applied (total : Nat) (scripts : List Migration) :
    events (applied total scripts) =
      scripts.zipIdx.map fun script => .migrationApplied script.1.name script.2 total := by
  rw [events, applied, List.filterMap_flatMap, List.map_eq_flatMap]
  rfl

theorem events_described (entries : List (String × QueryDescription)) :
    events (described entries) = entries.map fun entry =>
      .queryDescribed entry.1 entry.2.parameters.length entry.2.columns.length := by
  rw [events, described, List.filterMap_flatMap, List.map_eq_flatMap]
  rfl

theorem events_map_heard {α : Type} (event : α → Event) (elements : List α) :
    events (elements.map fun element => .heard (event element)) = elements.map event := by
  rw [events, List.filterMap_map, ← List.filterMap_eq_map]
  rfl

theorem Writing.events_eq {path : Path} {text : String} {outcome : Except OutputFailure Unit}
    (write : Writing path text actions outcome) : events actions = [] := by
  cases write with
  | noDirectory => rfl
  | noTemporary => rfl
  | removed replacing => cases replacing <;> rfl
  | all replacing => cases replacing; rfl

/-- That files are seen before any are changed. -/
def Surveyed (actions : List Action) (files : FileSystem) : Prop :=
  ∃ before after, actions = before ++ .surveyed files :: after ∧ changes before = []

namespace Surveyed

variable {first second : List Action}

theorem append_right (surveyed : Surveyed first files) (second : List Action) :
    Surveyed (first ++ second) files := by
  obtain ⟨before, after, rfl, unchanged⟩ := surveyed
  exact ⟨before, after ++ second, by rw [List.append_assoc, List.cons_append], unchanged⟩

theorem append_left (surveyed : Surveyed second files) (unchanged : changes first = []) :
    Surveyed (first ++ second) files := by
  obtain ⟨before, after, rfl, unchangedToo⟩ := surveyed
  refine ⟨first ++ before, after, (List.append_assoc ..).symm, ?_⟩
  rw [changes_append, unchanged, unchangedToo, List.append_nil]

/-- The files that are seen are those that there are in the beginning. -/
theorem eq_of_lead (surveyed : Surveyed actions files) (leads : Lead actions fs gs) :
    files = fs := by
  obtain ⟨before, after, rfl, unchanged⟩ := surveyed
  obtain ⟨begun, begins, looks⟩ := leads.exists_of_append
  obtain rfl := begins.eq_of_changes_eq_nil unchanged
  exact looks.eq_of_surveyed

/-- What is seen is a reply in the exchanges. -/
theorem mem {observers : Nat} {exchanges : List (Exchange RunInterface)}
    (surveyed : Surveyed actions files) (amount : AmountTo observers exchanges actions) :
    ⟨.inl .survey, files⟩ ∈ exchanges := by
  obtain ⟨before, after, rfl, -⟩ := surveyed
  obtain ⟨⟨request | request, reply⟩, member, shown⟩ :=
    amount.exists_seen (List.mem_append_right _ List.mem_cons_self) rfl
  · cases request with
    | survey =>
        cases shown
        exact member
    | tell listener event =>
        simp only [Action.seen?, Action.ofSurroundings] at shown
        split at shown <;> cases shown
    | workers pieces => cases reply <;> cases shown
    | makeDirectories _ | makeTemporary _ | fill _ _ | sync _ | rename _ _ | discard _ | log _
      | elapsed => cases shown
  · cases shown

end Surveyed

section Report

variable [Grammars]

/-- What is told of the work in a run that succeeds. -/
def progress (settings : Settings) (scripts : List Migration) (sources : Sources)
    (descriptions : QueryDescriptions) : List Event :=
  (scripts.zipIdx.map fun script => .migrationApplied script.1.name script.2 scripts.length) ++
    (sources.paths.map fun path =>
      .fileScanned path (Source.knownTexts settings sources.files path).length) ++
    (sources.findings settings).map .diagnostic ++
    (descriptions.entries.map fun entry =>
      .queryDescribed entry.1 entry.2.parameters.length entry.2.columns.length) ++
    (synthesize descriptions .builtin settings.moduleOptions).diagnostics.map .diagnostic

/-- That sources have been found and read, and their texts described. -/
structure Found (root : Path) (settings : Settings) (sources : Sources)
    (descriptions : QueryDescriptions) : Prop where
  search : (Source.discovery settings [settings.outputPath root]).find sources.files
    (settings.sourcePath root) = .ok sources.paths
  ordered : sources.paths.Pairwise fun earlier later => earlier.le later
  read : ∀ path ∈ sources.paths,
    (Source.parseFile sources.files path settings.maxFileSize).isOk
  complete : descriptions.texts = (sources.texts settings).eraseDups

/-- Work that succeeds reports and tells what has been found. -/
theorem Working.exists_found {scripts : List Migration} {report : Report} {bytes : Nat}
    (work : Working root settings scripts actions (.ok (report, bytes))) :
    ∃ sources descriptions,
      Surveyed actions sources.files ∧ Found root settings sources descriptions ∧
      descriptionsIn actions = descriptions.entries ∧
      report = reportOf root settings sources descriptions ∧
      bytes = (synthesize descriptions .builtin settings.moduleOptions).module.utf8ByteSize ∧
      events actions = progress settings scripts sources descriptions := by
  cases work with
  | @all applying scanning describing writing sources descriptions synthesis apply scan describe
      synthesized write =>
  subst synthesized
  have unchanged := apply.changes_eq
  have unasked := scan.probes_eq
  cases apply with
  | all =>
  cases scan with
  | @all files paths search ordered read =>
  cases describe with
  | all complete =>
      refine ⟨⟨files, paths⟩, descriptions, ?_, ⟨search, ordered, read, complete⟩, ?_, rfl, rfl,
        ?_⟩
      · have looks : Surveyed (.surveyed files :: paths.map fun path =>
            .heard (.fileScanned path (Source.knownTexts settings files path).length)) files :=
          ⟨[], _, rfl, rfl⟩
        exact ((((looks.append_left unchanged).append_right _).append_right _).append_right
          _).append_right _
      · exact descriptionsIn_working unasked write.probes_eq
      · have scans : events (.surveyed files :: paths.map fun path =>
            .heard (.fileScanned path (Source.knownTexts settings files path).length)) =
              paths.map fun path =>
                .fileScanned path (Source.knownTexts settings files path).length :=
          events_map_heard _ _
        simp only [events_append, events_applied, scans, findings, events_map_heard,
          events_described, write.events_eq, List.append_nil, progress]

/-- A run that succeeds reports and tells what it has found. -/
theorem Course.exists_found {report : Report} (course : Course root settings actions (.ok report)) :
    ∃ scripts sources descriptions duration,
      Surveyed actions sources.files ∧ Found root settings sources descriptions ∧
      descriptionsIn actions = descriptions.entries ∧
      report = reportOf root settings sources descriptions ∧
      events actions =
        [.started (settings.sourcePath root) (settings.migrationsPath root)
          (settings.outputPath root)] ++ progress settings scripts sources descriptions ++
        [.outputWritten report.outputPath report.queryCount
          (synthesize descriptions .builtin settings.moduleOptions).module.utf8ByteSize
          duration] := by
  cases course with
  | @written attempting report bytes duration attempt =>
  cases attempt with
  | @connected first scripts working outcome disposed load ordered work =>
      obtain ⟨sources, descriptions, surveyed, found, described, same, rfl, told⟩ :=
        work.exists_found
      refine ⟨scripts, sources, descriptions, duration, ?_, found, ?_, same, ?_⟩
      · exact (((surveyed.append_left rfl).append_right _).append_left rfl).append_right _
      · have connects : descriptionsIn [.surveyed first, .probed ⟨.connect, .ok ()⟩] = [] := rfl
        have disposes : descriptionsIn [.probed ⟨.dispose, disposed⟩] = [] := rfl
        have heard (event : Event) : descriptionsIn [.heard event] = [] := rfl
        simp only [descriptionsIn_append, connects, disposes, heard, described, List.nil_append,
          List.append_nil]
      · have heard (event : Event) : events [.heard event] = [event] := rfl
        have connects : events [.surveyed first, .probed ⟨.connect, .ok ()⟩] = [] := rfl
        have disposes : events [.probed ⟨.dispose, disposed⟩] = [] := rfl
        simp only [events_append, heard, connects, told, disposes, List.nil_append,
          List.append_nil]

/-! ## What agrees -/

/-- That the figures and the findings of a report are those of events that are heard and of the
text that is written. -/
structure Agrees (report : Report) (heard : List Event) (text : String) : Prop where
  files : (heard.filterMap Event.calls?).length = report.fileCount
  calls : (heard.filterMap Event.calls?).sum = report.callCount
  queries : (heard.filterMap Event.describedText?).length = report.queryCount
  findings : heard.filterMap Event.finding? = report.diagnostics
  written : heard.filterMap Event.written? =
    [(report.outputPath, report.queryCount, text.toUTF8.size)]

/-- Work that is told between the first event and the last agrees with its report. -/
theorem agrees_reportOf (scripts : List Migration) (duration : Nat) :
    Agrees (reportOf root settings sources descriptions)
      ([.started (settings.sourcePath root) (settings.migrationsPath root)
          (settings.outputPath root)] ++ progress settings scripts sources descriptions ++
        [.outputWritten (settings.outputPath root) descriptions.size
          (synthesize descriptions .builtin settings.moduleOptions).module.utf8ByteSize duration])
      (synthesize descriptions .builtin settings.moduleOptions).module where
  files := by
    simp [progress, List.filterMap_cons, Function.comp_def, Event.calls?, reportOf]
  calls := by
    simp [progress, List.filterMap_cons, Function.comp_def, Event.calls?, reportOf, Sources.texts,
      List.length_flatMap]
  queries := by
    simp [progress, List.filterMap_cons, Function.comp_def, Event.describedText?, reportOf,
      QueryDescriptions.size]
  findings := by
    simp [progress, List.filterMap_cons, Function.comp_def, Event.finding?, reportOf]
  written := by
    simp [progress, List.filterMap_cons, Function.comp_def, Event.written?, reportOf]

namespace Found

variable (found : Found root settings sources descriptions)

include found

theorem sourcePaths_eq : Source.sourcePaths root settings sources.files = sources.paths :=
  Source.sourcePaths_eq found.search

theorem queryCount_eq : (reportOf root settings sources descriptions).queryCount =
    (sources.texts settings).eraseDups.length := by
  rw [← found.complete, QueryDescriptions.texts, List.length_map]
  rfl

end Found

/-- What a report counts and finds in files with the descriptions of their texts. -/
structure Accounts (root : Path) (settings : Settings) (files : FileSystem)
    (descriptions : QueryDescriptions) (report : Report) : Prop where
  search : (Source.discovery settings [settings.outputPath root]).find files
    (settings.sourcePath root) = .ok (Source.sourcePaths root settings files)
  ordered : (Source.sourcePaths root settings files).Pairwise fun earlier later =>
    earlier.le later
  read : ∀ path ∈ Source.sourcePaths root settings files,
    (Source.parseFile files path settings.maxFileSize).isOk
  fileCount : report.fileCount = (Source.sourcePaths root settings files).length
  /-- The calls that are counted are those whose text is known. -/
  callCount : report.callCount =
    ((Source.sourcePaths root settings files).flatMap (Source.knownTexts settings files)).length
  queryCount_le : report.queryCount ≤ report.callCount
  queryCount_eq_iff : report.queryCount = report.callCount ↔
    ((Source.sourcePaths root settings files).flatMap (Source.knownTexts settings files)).Nodup
  /-- What there is to say about calls comes before what there is to say about descriptions. -/
  diagnostics : report.diagnostics =
    (Source.sourcePaths root settings files).flatMap (Source.findings settings files) ++
      (synthesize descriptions .builtin settings.moduleOptions).diagnostics
  aliases : Synthesis.aliases (Synthesis.lines descriptions .builtin settings.moduleOptions) =
    (List.range report.queryCount).map Synthesis.queryName
  /-- Names that are no identifiers could break lines of the module. -/
  aliases_text : settings.fault? = none →
    Synthesis.aliases
        (textLines (synthesize descriptions .builtin settings.moduleOptions).module) =
      (List.range report.queryCount).map Synthesis.queryName

theorem Found.accounts (found : Found root settings sources descriptions) :
    Accounts root settings sources.files descriptions
      (reportOf root settings sources descriptions) where
  search := by rw [found.sourcePaths_eq, found.search]
  ordered := found.sourcePaths_eq ▸ found.ordered
  read := found.sourcePaths_eq ▸ found.read
  fileCount := by rw [found.sourcePaths_eq, reportOf]
  callCount := by rw [found.sourcePaths_eq, reportOf, Sources.texts]
  queryCount_le := by
    rw [found.queryCount_eq]
    exact (eraseDups_sublist _).length_le
  queryCount_eq_iff := by
    rw [found.queryCount_eq, found.sourcePaths_eq]
    exact length_eraseDups_eq_iff
  diagnostics := by rw [found.sourcePaths_eq, reportOf, Sources.findings]
  aliases := Synthesis.aliases_lines descriptions
  aliases_text valid := by
    obtain ⟨client, wrapper⟩ := settings.accepts_of_fault? valid
    exact Synthesis.aliases_textLines client wrapper TypeTable.namesAreWords_builtin descriptions

/-- **The report, the events and the module agree.** In a run that succeeds the report counts the
source files, the calls in them whose text is known, and the queries. There are at most as many
queries as calls, and as many exactly if no two calls have the same text. The module declares a
numbered type for the text of each query: so do the lines that it is made of, and so does its text
if the settings have no fault. The findings about calls, with the files in the order of their paths
and the calls of each in pre-order, come before those about descriptions. Each observer hears of as
many files, with as many calls in all, of as many queries and of these findings, in the same order;
and it is told once that the module of so many queries has been written, and in how many bytes. The
files that are read are those of the project, in which the module, with all its bytes, has taken its
place. -/
theorem report_agrees {observers : Nat} {exchanges : List (Exchange RunInterface)}
    {report : Report} (runs : (generate root settings observers).Runs exchanges (.ok report)) :
    ∃ files descriptions,
      ⟨.inl .survey, files⟩ ∈ exchanges ∧ descriptions.entries = describedIn exchanges ∧
      Accounts root settings files descriptions report ∧
      (∀ observer < observers, Agrees report (heardBy observer exchanges)
        (synthesize descriptions .builtin settings.moduleOptions).module) ∧
      ∀ {fs gs : FileSystem}, fs.Sound → fs.Serves exchanges gs → fs = files ∧
        ∃ place, (fs.makeDirectories (Output.directory report.outputPath)).2.Replaces
          report.outputPath place
          (synthesize descriptions .builtin settings.moduleOptions).module.toUTF8 gs := by
  obtain ⟨actions, amount, course⟩ := Activity.Ensures.of_runs (Shows.generate root settings) runs
  obtain ⟨scripts, sources, descriptions, duration, surveyed, found, described, rfl, told⟩ :=
    course.exists_found
  have entries : descriptions.entries = describedIn exchanges := by
    rw [amount.describedIn_eq, described]
  refine ⟨sources.files, descriptions, surveyed.mem amount, entries, found.accounts, ?_, ?_⟩
  · intro observer joined
    rw [amount.heardBy_eq joined, told]
    exact agrees_reportOf scripts duration
  · intro fs gs sound serves
    obtain rfl := surveyed.eq_of_lead (amount.lead serves)
    obtain ⟨others, place, written, replaces⟩ := replaces_of_runs_ok sound runs serves
    obtain rfl := QueryDescriptions.eq_of_entries (written.trans entries.symm)
    exact ⟨rfl, place, replaces⟩

end Report

/-- A run with two calls of one text and one whose text is unknown: the report counts two calls and
one query, and what it finds is heard. -/
theorem report_agrees_for_repeated_text :
    let fs := singleSource "a.ts" "db.query('one'); db.query(q); db.query('one');"
    let finding : Diagnostic :=
      .unresolvedLiteral (.ofString "/src/a.ts") 1 18 (.identifierNotFound "q")
    ∃ exchanges gs report place text,
      (generate (.ofString "/") {} 1).Runs exchanges (.ok report) ∧ fs.Serves exchanges gs ∧
      report.fileCount = 1 ∧ report.callCount = 2 ∧ report.queryCount < 2 ∧
      Agrees report (heardBy 0 exchanges) text ∧
      ((heardBy 0 exchanges).filterMap Event.finding?).head? = some finding ∧
      gs.node? place = some (.file (String.toUTF8 text)) := by
  intro fs finding
  let state : Simulation.ProbedWorld := { world := { files := fs }, script := plainProbe }
  have sound : fs.Sound := FileSystem.sound_of_nodes (by decide +kernel)
  have succeeds : (state.perform (generate (.ofString "/") {} 1)).1.isOk := by decide +kernel
  have paths : Source.sourcePaths (.ofString "/") {} fs = [.ofString "/src/a.ts"] := by
    decide +kernel
  have texts : Source.knownTexts {} fs (.ofString "/src/a.ts") = ["one", "one"] := by
    decide +kernel
  have findings : Source.findings {} fs (.ofString "/src/a.ts") = [finding] := by decide +kernel
  obtain ⟨exchanges, report, runs, serves, -⟩ :=
    Simulation.ProbedWorld.exists_runs_of_isOk succeeds
  obtain ⟨files, descriptions, -, -, accounts, agrees, written⟩ := report_agrees runs
  obtain ⟨rfl, place, replaces⟩ := written sound serves
  have agrees := agrees 0 Nat.zero_lt_one
  have fileCount : report.fileCount = 1 := by rw [accounts.fileCount, paths, List.length_singleton]
  have callCount : report.callCount = 2 := by
    rw [accounts.callCount, paths, List.flatMap_singleton, texts]
    rfl
  refine ⟨exchanges, _, report, place.location, _, runs, serves, fileCount, callCount, ?_, agrees,
    ?_, replaces.adds.file⟩
  · rw [← callCount]
    refine lt_of_le_of_ne accounts.queryCount_le fun same => ?_
    have distinct := accounts.queryCount_eq_iff.mp same
    rw [paths, List.flatMap_singleton, texts] at distinct
    exact absurd distinct (by decide)
  · rw [agrees.findings, accounts.diagnostics, paths, List.flatMap_singleton, findings]
    rfl

end Generation

end TypedQueries
