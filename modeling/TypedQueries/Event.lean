import TypedQueries.Diagnostic

/-! # Events of a run and who hears of them

A run reports its progress as events. Observers may log them and may fail at any of them.
-/

namespace TypedQueries

/-- What a run reports. Positions are counted from zero. -/
inductive Event where
  | started (sources migrations output : Path)
  | migrationApplied (name : String) (index total : Nat)
  | fileScanned (path : Path) (calls : Nat)
  | queryDescribed (sql : String) (parameters columns : Nat)
  | diagnostic (diagnostic : Diagnostic)
  | outputWritten (path : Path) (queries bytes duration : Nat)
  | failed (code message : String)
deriving DecidableEq, Repr

def Event.name : Event → String
  | .started .. => "generation_started"
  | .migrationApplied .. => "migration_applied"
  | .fileScanned .. => "file_scanned"
  | .queryDescribed .. => "query_described"
  | .diagnostic .. => "diagnostic"
  | .outputWritten .. => "output_written"
  | .failed .. => "generation_failed"

/-- How weighty a log record is. -/
inductive Level where
  | trace | debug | info | warn | error
deriving DecidableEq, Repr

/-- The value of a field of a log record: a number, a text, or a text in quotes. -/
inductive FieldValue where
  | number (n : Nat)
  | text (s : String)
  | quoted (s : String)
deriving DecidableEq, Repr

/-- An entry of the log: its weight, the part of the program it comes from, a message and
named values. -/
structure LogRecord where
  level : Level
  target : String
  message : String
  fields : List (String × FieldValue)
deriving DecidableEq, Repr

/-- Someone who hears of events: what it logs of each, and at which it fails. -/
structure Observer where
  log : Event → List LogRecord
  fails : Event → Bool

namespace Observer

def silent : Observer := ⟨fun _ => [], fun _ => false⟩

/-- An observer that only listens, and fails at the events of the given names. -/
def listener (failsAt : List String) : Observer :=
  ⟨fun _ => [], fun event => failsAt.contains event.name⟩

/-- Where the log records of events come from. -/
def eventTarget : String := "sqltype_core::events::tracing_handler"

def record : Event → LogRecord
  | .started sources migrations _ =>
      ⟨.info, eventTarget, "generating query types",
        [("source_dir", .text sources.display), ("migrations_dir", .text migrations.display)]⟩
  | .migrationApplied name index total =>
      ⟨.debug, eventTarget, "applied migration",
        [("migration", .text name), ("index", .number (index + 1)), ("total", .number total)]⟩
  | .fileScanned path calls =>
      ⟨.debug, eventTarget, "scanned file",
        [("path", .text path.display), ("query_calls", .number calls)]⟩
  | .queryDescribed sql parameters columns =>
      ⟨.debug, eventTarget, "described query",
        [("params", .number parameters), ("columns", .number columns), ("sql", .text sql)]⟩
  | .diagnostic diagnostic =>
      ⟨.warn, eventTarget, diagnostic.message, [("code", .quoted diagnostic.code)]⟩
  | .outputWritten path queries bytes duration =>
      ⟨.info, eventTarget, "wrote generated types",
        [("path", .text path.display), ("queries", .number queries), ("bytes", .number bytes),
          ("duration_ms", .number duration)]⟩
  | .failed code message => ⟨.error, eventTarget, message, [("code", .quoted code)]⟩

def logger : Observer := ⟨fun event => [record event], fun _ => false⟩

/-- The log record of an observer's failure. -/
def failureRecord : LogRecord :=
  ⟨.warn, "sqltype_core::events::dispatcher", "generation event handler panicked; continuing", []⟩

end Observer

end TypedQueries
