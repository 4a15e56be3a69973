import TypedQueries.Settings
import TypedQueries.Toml.Document
import TypedQueries.Toml.Render

/-! # Settings as a document

Reading settings from TOML and writing them. Keys that mean nothing are passed over, but a
value of the wrong kind makes the document worthless. A section may also be written as an
array of its values in order.
-/

namespace TypedQueries

namespace Settings

def string? : Toml → Option String
  | .string s => some s
  | _ => none

def strings? : Toml → Option (List String)
  | .array items => items.mapM string?
  | _ => none

/-- The value of a number that is not negative. -/
def natural? : Toml → Option Nat
  | .integer (.ofNat n) => some n
  | _ => none

/-- The values of a section under the given keys, in this order. -/
def values? (keys : List String) : Toml → Option (List (Option Toml))
  | .table _ entries => some (keys.map fun key => entries.lookup key)
  | .array items => some ((List.range keys.length).map fun i => items[i]?)
  | .date => some (keys.map fun _ => none)
  | _ => none

/-- The value in a place of a section, of the kind that `read` accepts; it may be
missing. -/
def valueAt {α : Type} (read : Toml → Option α) (values : List (Option Toml)) (place : Nat) :
    Option (Option α) :=
  match values[place]?.join with
  | none => some none
  | some value => (read value).map some

def scanKeys : List String :=
  ["source_dir", "extensions", "method_name", "exclude", "max_file_size"]

def scanSettings? (value : Toml) : Option ScanSettings := do
  let values ← values? scanKeys value
  return {
    directory := ← valueAt string? values 0
    extensions := (← valueAt strings? values 1).getD []
    method := ← valueAt string? values 2
    excludes := (← valueAt strings? values 3).getD []
    maxFileSize := ← valueAt natural? values 4 }

def databaseKeys : List String := ["url", "migrations_dir", "migration_extension"]

def databaseSettings? (value : Toml) : Option DatabaseSettings := do
  let values ← values? databaseKeys value
  return {
    url := ← valueAt string? values 0
    migrations := ← valueAt string? values 1
    migrationExtension := ← valueAt string? values 2 }

def outputKeys : List String := ["path", "client_module", "client_type", "result_wrapper"]

def outputSettings? (value : Toml) : Option OutputSettings := do
  let values ← values? outputKeys value
  return {
    path := ← valueAt string? values 0
    clientModule := ← valueAt string? values 1
    clientType := ← valueAt string? values 2
    resultWrapper := ← valueAt string? values 3 }

def ofEntries? (entries : Toml.Entries) : Option Settings := do
  let part {α : Type} (name : String) (missing : α) (read : Toml → Option α) : Option α :=
    match entries.lookup name with
    | none => some missing
    | some value => read value
  return {
    scan := ← part "scan" {} scanSettings?
    database := ← part "database" {} databaseSettings?
    output := ← part "output" {} outputSettings? }

def parse? [Toml.Reader] (document : String) : Option Settings :=
  (Toml.Reader.entries? document).bind ofEntries?

/-- Writes settings. A number of more than sixty-three bits cannot be written. -/
def render? (s : Settings) : Option String :=
  let text := Option.map Toml.renderString
  if s.scan.maxFileSize.any (Toml.integerBound ≤ ·) then none
  else
    some (
      Toml.renderSection "scan" (scanKeys.zip
        [text s.scan.directory, some (Toml.renderStrings s.scan.extensions), text s.scan.method,
          some (Toml.renderStrings s.scan.excludes), s.scan.maxFileSize.map toString])
      ++ "\n" ++ Toml.renderSection "database" (databaseKeys.zip
        [text s.database.url, text s.database.migrations, text s.database.migrationExtension])
      ++ "\n" ++ Toml.renderSection "output" (outputKeys.zip
        [text s.output.path, text s.output.clientModule, text s.output.clientType,
          text s.output.resultWrapper]))

end Settings

end TypedQueries
