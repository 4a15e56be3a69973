import TypedQueries.Settings
import TypedQueries.Source.Discovery
import TypedQueries.Source.File
import TypedQueries.Surroundings

/-! # Scanning the sources

All source files of a project are found, read and searched for query calls. Files are read
side by side; what is found is put together in the order of the paths.
-/

namespace TypedQueries

/-- A file with its query calls. -/
structure FileCalls where
  path : Path
  calls : List QueryCall

/-- What was found in the sources: how many files there are, those that have calls whose
text is known, and what there is to say about the other calls. -/
structure SourceScan where
  fileCount : Nat
  files : List FileCalls
  diagnostics : List Diagnostic

namespace SourceScan

/-- The number of calls whose text is known. -/
def callCount (scan : SourceScan) : Nat :=
  scan.files.foldl (fun count file => count + file.calls.length) 0

/-- The texts of the calls in order, repetitions included. -/
def texts (scan : SourceScan) : List String := scan.files.flatMap fun file => file.calls.map (·.sql)

/-- What was found, put together file by file. -/
def ofFiles (files : List (Path × FileScan)) : SourceScan where
  fileCount := files.length
  files := files.filterMap fun file =>
    if file.2.calls.isEmpty then none else some ⟨file.1, file.2.calls⟩
  diagnostics := files.flatMap (·.2.diagnostics)

end SourceScan

namespace Source

/-- The failure of a piece of work, if it failed. -/
def failure? {ε α : Type} : Except ε α → Option ε
  | .error failure => some failure
  | .ok _ => none

/-- The results of pieces of work in their order; if some failed, the failure of the one
that finished first. -/
def collect {ε α : Type} (finished : List Nat) (pieces : List (Except ε α)) :
    Except ε (List α) :=
  match finished.findSome? fun piece => pieces[piece]?.bind failure? with
  | some failure => .error failure
  | none => pieces.mapM id

/-- What is looked for in the sources of a project. -/
def discovery (settings : Settings) (skip : List Path) : Discovery where
  extensions := settings.extensions
  excludes := settings.excludes
  skip := skip

variable [Grammars]

/-- Reads and parses the files at the given paths. -/
def parseAll (settings : Settings) (fs : FileSystem) (paths : List Path) :
    List (Except Failure (Path × ParsedSource)) :=
  paths.map fun path => (parseFile fs path settings.maxFileSize).map fun parsed => (path, parsed)

def scanParsed (settings : Settings) (file : Path × ParsedSource) : Path × FileScan :=
  (file.1, extract settings.method file.1 file.2.tree)

/-- The calls in all files, when the workers finish in the given order. -/
def scanAll (settings : Settings) (finished : List Nat)
    (parsed : List (Except Failure (Path × ParsedSource))) :
    Except Failure (List (Path × FileScan)) :=
  (collect finished parsed).map fun files => files.map (scanParsed settings)

/-- The log entry when the files have been found. -/
def discoveredRecord (directory : Path) (files : Nat) : LogRecord :=
  ⟨.debug, "sqltype_analysis::scanner::walker", "discovered sources",
    [("root", .text directory.display), ("files", .number files)]⟩

/-- The log entries for a file: one if it has syntax errors. -/
def parsedRecords : Except Failure (Path × ParsedSource) → List LogRecord
  | .error _ => []
  | .ok (path, parsed) =>
      let count := parsed.tree.errorCount
      if count = 0 then []
      else
        [⟨.debug, "sqltype_analysis::parsers::parser",
          "syntax errors in source; scanning the recovered tree",
          [("path", .text path.display), ("error_count", .number count)]⟩]

/-- The log entry when all files have been searched. -/
def completeRecord (scan : SourceScan) : LogRecord :=
  ⟨.debug, "sqltype_analysis::pipeline::scan", "source scan complete",
    [("files", .number scan.fileCount), ("calls", .number scan.callCount)]⟩

/-- Scans the sources in a directory. Every file is announced to the observers once all of
them have been read. -/
def scan (settings : Settings) (directory : Path) (skip : List Path) (observers : Nat) :
    Activity Surroundings (Except Failure SourceScan) := do
  let fs ← Surroundings.survey
  match (discovery settings skip).find fs directory with
  | .error failure => return .error (.source failure)
  | .ok paths =>
      Surroundings.log (discoveredRecord directory paths.length)
      match ← Surroundings.ask (.workers paths.length) with
      | .error detail => return .error (.source (.unfinished detail))
      | .ok finished =>
          let parsed := parseAll settings fs paths
          Surroundings.logAll
            (finished.flatMap fun piece => (parsed[piece]?.map parsedRecords).getD [])
          match scanAll settings finished parsed with
          | .error failure => return .error failure
          | .ok files =>
              Surroundings.announceAll observers
                (files.map fun file => .fileScanned file.1 file.2.calls.length)
              let scan := SourceScan.ofFiles files
              Surroundings.log (completeRecord scan)
              return .ok scan

end Source

end TypedQueries
