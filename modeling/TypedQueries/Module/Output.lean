import TypedQueries.Failure
import TypedQueries.Surroundings

/-! # Writing the module

The module is written to a temporary file in its directory, which then takes the place of
the old module at one stroke: whoever reads the file sees the old module or the new one,
each whole. The temporary file does not outlive a failure.
-/

namespace TypedQueries

namespace Output

def directory (path : Path) : Path :=
  match path.parent? with
  | some parent => if parent.bytes.isEmpty then ⟨[Path.dot]⟩ else parent
  | none => ⟨[Path.dot]⟩

/-- Fills a temporary file and puts it in the place of another. -/
def replace (temporary path : Path) (content : ByteArray) :
    Activity Surroundings (Except OutputFailure Unit) := do
  match ← Surroundings.ask (.fill temporary content) with
  | .error fault => return .error (.notWritten path fault)
  | .ok () =>
      match ← Surroundings.ask (.sync temporary) with
      | .error fault => return .error (.notWritten path fault)
      | .ok () =>
          match ← Surroundings.ask (.rename temporary path) with
          | .error fault => return .error (.notReplaced path fault)
          | .ok () => return .ok ()

/-- Writes a text to a file, in one stroke. -/
def write (path : Path) (text : String) : Activity Surroundings (Except OutputFailure Unit) := do
  match ← Surroundings.ask (.makeDirectories (directory path)) with
  | .error fault => return .error (.noDirectory (directory path) fault)
  | .ok () =>
      match ← Surroundings.ask (.makeTemporary (directory path)) with
      | .error fault => return .error (.notWritten path fault)
      | .ok temporary =>
          match ← replace temporary path text.toUTF8 with
          | .ok () => return .ok ()
          | .error failure =>
              Surroundings.ask (.discard temporary)
              return .error failure

end Output

end TypedQueries
