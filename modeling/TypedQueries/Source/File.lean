import TypedQueries.Failure
import TypedQueries.FileSystem
import TypedQueries.Query.Call
import TypedQueries.Syntax.Errors
import TypedQueries.Syntax.Grammars

/-! # Reading source files

A source file is read with the grammar for its extension. Its size is looked at before its
content, and its content must be text. A file with syntax errors is read all the same.
-/

namespace TypedQueries

namespace Source

def extensionText? (path : Path) : Option String := path.extension?.bind Utf8.text?

def dialect (path : Path) : Except GrammarFailure Dialect :=
  match (extensionText? path).bind Dialect.ofExtension? with
  | some dialect => .ok dialect
  | none => .error (.unsupported path ((extensionText? path).getD ""))

/-- The text of a source file of at most so many bytes. -/
def text (fs : FileSystem) (path : Path) (limit : Nat) : Except SourceFailure String :=
  match fs.size path with
  | .error fault => .error (.unreadable path fault)
  | .ok size =>
      if limit < size then .error (.tooLarge path size limit)
      else
        match fs.read path with
        | .error fault => .error (.unreadable path fault)
        | .ok content =>
            match String.fromUTF8? content with
            | some text => .ok text
            | none => .error (.notText path)

/-- Reads and parses a source file of at most so many bytes. -/
def parseFile [Grammars] (fs : FileSystem) (path : Path) (limit : Nat) :
    Except Failure ParsedSource :=
  match dialect path with
  | .error failure => .error (.grammar failure)
  | .ok dialect =>
      match text fs path limit with
      | .error failure => .error (.source failure)
      | .ok text => (parseText path dialect text).mapError .grammar

end Source

end TypedQueries
