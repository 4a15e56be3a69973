import TypedQueries.Event
import TypedQueries.Text.Quoted

/-! # The log on the terminal

Which entries of the log are shown, and how. A filter is a list of directives: a level for
all entries, or for those from a part of the program. Of the directives that concern an
entry the most specific one counts; an entry that none concerns is not shown.
-/

namespace TypedQueries

namespace Level

/-- The rank of a level: the weightier, the smaller. -/
def rank : Level → Nat
  | error => 1
  | warn => 2
  | info => 3
  | debug => 4
  | trace => 5

def shown : Level → String
  | error => "ERROR"
  | warn => " WARN"
  | info => " INFO"
  | debug => "DEBUG"
  | trace => "TRACE"

end Level

/-- A directive: entries from targets that begin so, up to a rank. -/
structure LogDirective where
  target : String
  rank : Nat
deriving DecidableEq, Repr

abbrev LogFilter : Type := List LogDirective

namespace LogFilter

/-- The levels by name, with their ranks. -/
def levelNames : List (String × Nat) :=
  [("off", 0), ("error", 1), ("warn", 2), ("info", 3), ("debug", 4), ("trace", 5),
   ("0", 0), ("1", 1), ("2", 2), ("3", 3), ("4", 4), ("5", 5)]

def rank? (text : List Char) : Option Nat :=
  levelNames.lookup (String.ofList (text.map Char.toLower))

def isTargetChar (c : Char) : Bool := c.isAlphanum || ['_', ':', '-'].contains c

def directive? (text : List Char) : Option LogDirective :=
  let target := text.takeWhile (· != '=')
  match rank? text, text.drop target.length with
  | some rank, _ => some ⟨"", rank⟩
  | none, rest =>
      if target.isEmpty || !target.all isTargetChar then none
      else
        match rest with
        | [] | ['='] => some ⟨String.ofList target, Level.trace.rank⟩
        | _ :: level => (rank? level).map fun rank => ⟨String.ofList target, rank⟩

/-- The stretches of a text between commas that are not empty. -/
def parts (text : String) : List (List Char) :=
  ((text.splitOn ",").map String.toList).filter (!·.isEmpty)

def parse? (text : String) : Option LogFilter := (parts text).mapM directive?

/-- The filter that counts unless another one is given. -/
def standard : LogFilter :=
  [⟨"sqltype_cli", 3⟩, ⟨"sqltype_analysis", 3⟩, ⟨"sqltype_core", 3⟩]

/-- The filter for a setting, which may be missing or unreadable. -/
def ofSetting (setting : Option String) : LogFilter := (setting.bind parse?).getD standard

/-- Whether a directive concerns a target. -/
def concerns (target : String) (directive : LogDirective) : Bool :=
  directive.target.toList.isPrefixOf target.toList

/-- The more specific of two directives; of equals the later one. -/
def sharper (a b : LogDirective) : LogDirective :=
  if a.target.length ≤ b.target.length then b else a

def shows (filter : LogFilter) (record : LogRecord) : Bool :=
  match filter.filter (concerns record.target) with
  | [] => false
  | first :: rest => record.level.rank ≤ (rest.foldl sharper first).rank

end LogFilter

def FieldValue.shown : FieldValue → String
  | .number n => toString n
  | .text s => s
  | .quoted s => Quoted.quote s

def LogRecord.line (record : LogRecord) : String :=
  record.level.shown ++ " " ++ record.target ++ ": " ++ record.message
    ++ String.join (record.fields.map fun field => " " ++ field.1 ++ "=" ++ field.2.shown) ++ "\n"

end TypedQueries
