import TypedQueries.Proofs.Query.Extraction
import TypedQueries.Source.Scan

/-! # What the sources say

The query calls in a source file have known texts (`Source.knownTexts`), or else there is something
to say about them (`Source.findings`). A scan that has read its files has gathered this of one file
after the other (`SourceScan.gathers_ofFiles`).
-/

namespace TypedQueries

namespace Source

variable [Grammars] {settings : Settings} {fs gs : FileSystem} {path : Path}

/-- The known texts of the query calls in a source file, each before those of calls within it. -/
def knownTexts (settings : Settings) (fs : FileSystem) (path : Path) : List String :=
  match parseFile fs path settings.maxFileSize with
  | .error _ => []
  | .ok parsed =>
      (queryCalls settings.method parsed.tree).filterMap fun call =>
        call.resolve.toOption.map (·.sql)

/-- What there is to say about the query calls in a source file, each before those within it. -/
def findings (settings : Settings) (fs : FileSystem) (path : Path) : List Diagnostic :=
  match parseFile fs path settings.maxFileSize with
  | .error _ => []
  | .ok parsed => (queryCalls settings.method parsed.tree).filterMap (Site.unresolved? path)

theorem knownTexts_eq {parsed : ParsedSource}
    (isParsed : parseFile fs path settings.maxFileSize = .ok parsed) :
    (extract settings.method path parsed.tree).calls.map (·.sql) = knownTexts settings fs path := by
  rw [knownTexts, isParsed, extract_eq, List.map_filterMap]

theorem findings_eq {parsed : ParsedSource}
    (isParsed : parseFile fs path settings.maxFileSize = .ok parsed) :
    (extract settings.method path parsed.tree).diagnostics = findings settings fs path := by
  rw [findings, isParsed, extract_eq]

theorem knownTexts_congr
    (same : parseFile gs path settings.maxFileSize = parseFile fs path settings.maxFileSize) :
    knownTexts settings gs path = knownTexts settings fs path := by
  rw [knownTexts, same, knownTexts]

theorem findings_congr
    (same : parseFile gs path settings.maxFileSize = parseFile fs path settings.maxFileSize) :
    findings settings gs path = findings settings fs path := by
  rw [findings, same, findings]

end Source

/-- The sources of a project in its files. -/
structure Sources where
  files : FileSystem
  paths : List Path

namespace Sources

variable [Grammars]

/-- The known texts of the query calls in the sources, repetitions included. -/
def texts (settings : Settings) (sources : Sources) : List String :=
  sources.paths.flatMap (Source.knownTexts settings sources.files)

/-- What there is to say about the query calls in the sources. -/
def findings (settings : Settings) (sources : Sources) : List Diagnostic :=
  sources.paths.flatMap (Source.findings settings sources.files)

end Sources

namespace SourceScan

/-- Files without known calls make no difference to the texts. -/
theorem texts_ofFiles (files : List (Path × FileScan)) :
    (ofFiles files).texts = files.flatMap fun file => file.2.calls.map (·.sql) := by
  induction files with
  | nil => rfl
  | cons file files ih =>
      rw [List.flatMap_cons, ← ih, texts, texts, ofFiles, ofFiles, List.filterMap_cons]
      cases calls : file.2.calls with
      | nil => simp
      | cons call others => simp

/-- The calls that are counted are those whose texts are known. -/
theorem callCount_eq (scan : SourceScan) : scan.callCount = scan.texts.length := by
  have counted (files : List FileCalls) (count : Nat) :
      files.foldl (fun count file => count + file.calls.length) count =
        count + (files.flatMap fun file => file.calls.map (·.sql)).length := by
    induction files generalizing count with
    | nil => rfl
    | cons file files ih =>
        rw [List.foldl_cons, ih, List.flatMap_cons, List.length_append, List.length_map,
          Nat.add_assoc]
  exact (counted scan.files 0).trans (Nat.zero_add _)

/-- That a scan has gathered what sources say. -/
structure Gathers [Grammars] (settings : Settings) (sources : Sources) (scan : SourceScan) :
    Prop where
  fileCount : scan.fileCount = sources.paths.length
  callCount : scan.callCount = (sources.texts settings).length
  texts : scan.texts = sources.texts settings
  diagnostics : scan.diagnostics = sources.findings settings

section Reads

variable [Grammars] {settings : Settings} {fs : FileSystem} {files : List (Path × FileScan)}
  (read : ∀ file ∈ files, ∃ parsed,
    Source.parseFile fs file.1 settings.maxFileSize = .ok parsed ∧
      file.2 = extract settings.method file.1 parsed.tree)

include read

theorem isOk_of_reads :
    ∀ path ∈ files.map Prod.fst, (Source.parseFile fs path settings.maxFileSize).isOk := by
  rw [List.forall_mem_map]
  intro file member
  obtain ⟨parsed, isParsed, -⟩ := read file member
  rw [isParsed]
  rfl

theorem length_calls_of_reads {file : Path × FileScan} (member : file ∈ files) :
    file.2.calls.length = (Source.knownTexts settings fs file.1).length := by
  obtain ⟨parsed, isParsed, extracted⟩ := read file member
  rw [extracted, ← Source.knownTexts_eq isParsed, List.length_map]

theorem gathers_ofFiles : (ofFiles files).Gathers settings ⟨fs, files.map Prod.fst⟩ := by
  have texts : (ofFiles files).texts = Sources.texts settings ⟨fs, files.map Prod.fst⟩ := by
    rw [texts_ofFiles, Sources.texts, List.flatMap_map]
    refine List.flatMap_congr fun file member => ?_
    obtain ⟨parsed, isParsed, extracted⟩ := read file member
    rw [extracted, Source.knownTexts_eq isParsed]
  refine ⟨(List.length_map _).symm, by rw [callCount_eq, texts], texts, ?_⟩
  rw [ofFiles, Sources.findings, List.flatMap_map]
  refine List.flatMap_congr fun file member => ?_
  obtain ⟨parsed, isParsed, extracted⟩ := read file member
  rw [extracted, Source.findings_eq isParsed]

end Reads

end SourceScan

end TypedQueries
