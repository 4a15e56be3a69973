import TypedQueries.SystemFault

/-! # Failures of a run

The conditions that end a run, by the part of the work they arise in. Each has a stable
code and a text; a failure that stems from a fault of the system has that fault as its
cause.
-/

namespace TypedQueries

/-- Failures to find and read source files. -/
inductive SourceFailure where
  | unreadable (path : Path) (fault : SystemFault)
  | rootMissing (path : Path)
  | walkFailed (root : Path) (detail : String)
  | tooLarge (path : Path) (size limit : Nat)
  | notText (path : Path)
  | unfinished (detail : String)
deriving DecidableEq, Repr

namespace SourceFailure

def code : SourceFailure → String
  | tooLarge .. => "FILE_TOO_LARGE"
  | _ => "SCAN_ERROR"

def message : SourceFailure → String
  | unreadable path fault => "IO error scanning " ++ path.display ++ ": " ++ fault.message
  | rootMissing path => "Source directory not found: " ++ path.display
  | walkFailed root detail => "Directory walk failed under " ++ root.display ++ ": " ++ detail
  | tooLarge path size limit =>
      "File too large: " ++ path.display ++ " (" ++ toString size ++ " bytes, max "
        ++ toString limit ++ ")"
  | notText path => "Source file is not valid UTF-8: " ++ path.display
  | unfinished detail => "Source scan task did not finish: " ++ detail

def fault? : SourceFailure → Option SystemFault
  | unreadable _ fault => some fault
  | _ => none

end SourceFailure

/-- Failures to read a source file as a program. -/
inductive GrammarFailure where
  | unavailable (grammar detail : String)
  | noTree (path : Path)
  | unsupported (path : Path) (extension : String)
deriving DecidableEq, Repr

namespace GrammarFailure

def code : GrammarFailure → String
  | unsupported .. => "UNSUPPORTED_EXTENSION"
  | _ => "PARSE_ERROR"

def message : GrammarFailure → String
  | unavailable grammar detail => "Failed to load grammar " ++ grammar ++ ": " ++ detail
  | noTree path => "Tree-sitter produced no tree for " ++ path.display
  | unsupported path extension =>
      "Unsupported source extension " ++ Quoted.quote extension ++ " for " ++ path.display

end GrammarFailure

/-- Failures of the database and of what it is given. -/
inductive DatabaseFailure where
  | unreachable (target detail : String)
  | notCreated (name detail : String)
  | notDropped (name detail : String)
  | migrationsMissing (path : Path)
  | migrationUnreadable (path : Path) (fault : SystemFault)
  | migrationFailed (name detail : String)
  | describeFailed (sql detail : String)
deriving DecidableEq, Repr

namespace DatabaseFailure

def code : DatabaseFailure → String
  | unreachable .. => "DB_CONNECT_FAILED"
  | notCreated .. | notDropped .. => "SCRATCH_DB_FAILED"
  | migrationsMissing .. | migrationUnreadable .. | migrationFailed .. => "MIGRATION_FAILED"
  | describeFailed .. => "DESCRIBE_FAILED"

def message : DatabaseFailure → String
  | unreachable target detail => "Could not connect to " ++ target ++ ": " ++ detail
  | notCreated name detail => "Could not create scratch database " ++ name ++ ": " ++ detail
  | notDropped name detail => "Could not drop scratch database " ++ name ++ ": " ++ detail
  | migrationsMissing path => "Migrations directory not found: " ++ path.display
  | migrationUnreadable path fault =>
      "Could not read migration " ++ path.display ++ ": " ++ fault.message
  | migrationFailed name detail => "Migration " ++ name ++ " failed: " ++ detail
  | describeFailed sql detail => "Describe failed for query " ++ Quoted.quote sql ++ ": " ++ detail

def fault? : DatabaseFailure → Option SystemFault
  | migrationUnreadable _ fault => some fault
  | _ => none

end DatabaseFailure

/-- Failures to write the generated module. -/
inductive OutputFailure where
  | noDirectory (path : Path) (fault : SystemFault)
  | notWritten (path : Path) (fault : SystemFault)
  | notReplaced (path : Path) (fault : SystemFault)
deriving DecidableEq, Repr

namespace OutputFailure

def code (_ : OutputFailure) : String := "OUTPUT_ERROR"

def message : OutputFailure → String
  | noDirectory path fault =>
      "Could not create output directory " ++ path.display ++ ": " ++ fault.message
  | notWritten path fault =>
      "Could not write generated module " ++ path.display ++ ": " ++ fault.message
  | notReplaced path fault =>
      "Could not replace " ++ path.display ++ " with the generated module: " ++ fault.message

def fault : OutputFailure → SystemFault
  | noDirectory _ fault | notWritten _ fault | notReplaced _ fault => fault

end OutputFailure

/-- Failures of the settings. -/
inductive SettingsFailure where
  | fileUnreadable (path : String)
  | malformed (path detail : String)
  | invalid (field detail : String)
deriving DecidableEq, Repr

namespace SettingsFailure

def code (_ : SettingsFailure) : String := "CONFIG_ERROR"

def message : SettingsFailure → String
  | fileUnreadable path => "Config file not found: " ++ path
  | malformed path detail => "Config parse error in " ++ path ++ ": " ++ detail
  | invalid field detail => "Config validation failed for " ++ field ++ ": " ++ detail

end SettingsFailure

/-- A failure that ends a run. -/
inductive Failure where
  | source (inner : SourceFailure)
  | grammar (inner : GrammarFailure)
  | database (inner : DatabaseFailure)
  | output (inner : OutputFailure)
  | settings (inner : SettingsFailure)
deriving DecidableEq, Repr

namespace Failure

/-- The stable code: that of the part the failure arises in. -/
def code : Failure → String
  | source e => e.code
  | grammar e => e.code
  | database e => e.code
  | output e => e.code
  | settings e => e.code

/-- The failure in the words of its part. -/
def detail : Failure → String
  | source e => e.message
  | grammar e => e.message
  | database e => e.message
  | output e => e.message
  | settings e => e.message

/-- The part the failure arises in, in words. -/
def part : Failure → String
  | source _ => "Scan error: "
  | grammar _ => "Parse error: "
  | database _ => "Probe error: "
  | output _ => "Output error: "
  | settings _ => "Configuration error: "

def message (e : Failure) : String := e.part ++ e.detail

def fault? : Failure → Option SystemFault
  | source e => e.fault?
  | database e => e.fault?
  | output e => some e.fault
  | grammar _ | settings _ => none

/-- The texts of the failure and of its causes, outermost first. -/
def chain (e : Failure) : List String :=
  [e.message, e.detail] ++ e.fault?.toList.map (·.message)

/-- A text with its stable code in front. -/
def coded (code text : String) : String := "[" ++ code ++ "] " ++ text

end Failure

end TypedQueries
