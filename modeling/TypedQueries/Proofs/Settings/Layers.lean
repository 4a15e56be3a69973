import TypedQueries.Settings.Load

/-! # Settings in layers

Each setting of a project is the value of the environment where it has a variable that is set, or
else the value of the project's file, or else a default (`Settings.layers_are_exact`). A setting
depends on its own variable and its own place in the file only. A file, the environment and the
settings made from them all say something or nothing about each setting (`Settings.given?`), and
settings that say the same are the same (`Settings.ext_given?`), so that laws of settings over
others are laws of one value over another.
-/

namespace TypedQueries

/-- The settings of a project, each with the type of its values. -/
inductive Setting : Type → Type
  | sourceDirectory : Setting String
  | extensions : Setting (List String)
  | method : Setting String
  | excludes : Setting (List String)
  | maxFileSize : Setting Nat
  | databaseUrl : Setting String
  | migrationsDirectory : Setting String
  | migrationExtension : Setting String
  | outputFile : Setting String
  | clientModule : Setting String
  | clientType : Setting String
  | resultWrapper : Setting String

namespace Settings

variable {α : Type}

/-- A list as a value; the empty one says nothing. -/
def nonempty? (list : List String) : Option (List String) :=
  if list.isEmpty then none else some list

/-- What settings say about one of them. -/
def given? (settings : Settings) : {α : Type} → Setting α → Option α
  | _, .sourceDirectory => settings.scan.directory
  | _, .extensions => nonempty? settings.scan.extensions
  | _, .method => settings.scan.method
  | _, .excludes => nonempty? settings.scan.excludes
  | _, .maxFileSize => settings.scan.maxFileSize
  | _, .databaseUrl => settings.database.url
  | _, .migrationsDirectory => settings.database.migrations
  | _, .migrationExtension => settings.database.migrationExtension
  | _, .outputFile => settings.output.path
  | _, .clientModule => settings.output.clientModule
  | _, .clientType => settings.output.clientType
  | _, .resultWrapper => settings.output.resultWrapper

/-- The value of a setting that a run goes by. -/
def effective (settings : Settings) : {α : Type} → Setting α → α
  | _, .sourceDirectory => settings.sourceDirectory
  | _, .extensions => settings.extensions
  | _, .method => settings.method
  | _, .excludes => settings.excludes
  | _, .maxFileSize => settings.maxFileSize
  | _, .databaseUrl => settings.databaseUrl
  | _, .migrationsDirectory => settings.migrationsDirectory
  | _, .migrationExtension => settings.migrationExtension
  | _, .outputFile => settings.outputFile
  | _, .clientModule => settings.moduleOptions.clientModule
  | _, .clientType => settings.moduleOptions.clientType
  | _, .resultWrapper => settings.moduleOptions.resultWrapper

end Settings

namespace Setting

variable {α : Type}

/-- The value of the variable for a setting, if it has one and it is set. -/
def inEnvironment? (environment : Settings.Environment) : {α : Type} → Setting α → Option α
  | _, .databaseUrl => environment "SQLTYPE_DATABASE_URL"
  | _, .sourceDirectory => environment "SQLTYPE_SOURCE_DIR"
  | _, .migrationsDirectory => environment "SQLTYPE_MIGRATIONS_DIR"
  | _, .outputFile => environment "SQLTYPE_OUTPUT_PATH"
  | _, .method => environment "SQLTYPE_METHOD_NAME"
  | _, .extensions | _, .excludes => none
  | _, .maxFileSize => none
  | _, .migrationExtension | _, .clientModule | _, .clientType | _, .resultWrapper => none

/-- How a value that is given is taken: extensions are meant without dots in front of them. -/
def normal : {α : Type} → Setting α → α → α
  | _, .extensions => List.map Settings.trimDots
  | _, .migrationExtension => Settings.trimDots
  | _, _ => id

/-- The value of a setting that nothing is said about. -/
def fallback : {α : Type} → Setting α → α
  | _, .sourceDirectory => "src"
  | _, .extensions => ["ts", "tsx"]
  | _, .method => "query"
  | _, .excludes => ["node_modules"]
  | _, .maxFileSize => 1048576
  | _, .databaseUrl => "postgres://postgres@localhost:5432/postgres"
  | _, .migrationsDirectory => "migrations"
  | _, .migrationExtension => "sql"
  | _, .outputFile => "src/sqltype.generated.ts"
  | _, .clientModule => "@electric-sql/pglite"
  | _, .clientType => "PGlite"
  | _, .resultWrapper => "Results"

/-- Where a document has a value: the name of a section, the key in it, and the place if the section
is written as an array. -/
structure Address where
  part : String
  key : String
  place : Nat

def address : Setting α → Address
  | sourceDirectory => ⟨"scan", "source_dir", 0⟩
  | extensions => ⟨"scan", "extensions", 1⟩
  | method => ⟨"scan", "method_name", 2⟩
  | excludes => ⟨"scan", "exclude", 3⟩
  | maxFileSize => ⟨"scan", "max_file_size", 4⟩
  | databaseUrl => ⟨"database", "url", 0⟩
  | migrationsDirectory => ⟨"database", "migrations_dir", 1⟩
  | migrationExtension => ⟨"database", "migration_extension", 2⟩
  | outputFile => ⟨"output", "path", 0⟩
  | clientModule => ⟨"output", "client_module", 1⟩
  | clientType => ⟨"output", "client_type", 2⟩
  | resultWrapper => ⟨"output", "result_wrapper", 3⟩

/-- The value of a section under a key, or in a place if the section is an array. -/
def valueIn? (key : String) (place : Nat) : Toml → Option Toml
  | .table _ entries => entries.lookup key
  | .array items => items[place]?
  | _ => none

/-- What a value in a document is read as. -/
def read? : {α : Type} → Setting α → Toml → Option α
  | _, .extensions | _, .excludes => fun value => (Settings.strings? value).bind Settings.nonempty?
  | _, .maxFileSize => Settings.natural?
  | _, .sourceDirectory | _, .method | _, .databaseUrl | _, .migrationsDirectory
  | _, .migrationExtension | _, .outputFile | _, .clientModule | _, .clientType
  | _, .resultWrapper => Settings.string?

/-- What a document says about a setting. -/
def written? (entries : Toml.Entries) (setting : Setting α) : Option α :=
  (entries.lookup setting.address.part).bind fun part =>
    (valueIn? setting.address.key setting.address.place part).bind setting.read?

end Setting

namespace Settings

variable {α : Type}

/-! ## Settings over others -/

theorem nonempty?_preferList (first second : List String) :
    nonempty? (preferList first second) = (nonempty? first).or (nonempty? second) := by
  cases first with
  | nil => rfl
  | cons text first => rfl

theorem nonempty?_injective {first second : List String}
    (same : nonempty? first = nonempty? second) : first = second := by
  cases first with
  | nil =>
      cases second with
      | nil => rfl
      | cons text second => cases same
  | cons text first =>
      cases second with
      | nil => cases same
      | cons other second => exact Option.some.inj same

theorem given?_overriding (first second : Settings) (setting : Setting α) :
    (first.overriding second).given? setting =
      (first.given? setting).or (second.given? setting) := by
  cases setting with
  | extensions => exact nonempty?_preferList ..
  | excludes => exact nonempty?_preferList ..
  | _ => rfl

theorem given?_ofEnvironment (environment : Environment) (setting : Setting α) :
    (ofEnvironment environment).given? setting = setting.inEnvironment? environment := by
  cases setting <;> rfl

theorem given?_default (setting : Setting α) : ({} : Settings).given? setting = none := by
  cases setting <;> rfl

/-- Settings are what they say about each of them. -/
theorem ext_given? {first second : Settings}
    (same : ∀ {α : Type} (setting : Setting α), first.given? setting = second.given? setting) :
    first = second := by
  obtain ⟨scan, database, output⟩ := first
  obtain ⟨scan', database', output'⟩ := second
  have scans : scan = scan' := by
    obtain ⟨directory, extensions, method, excludes, maxFileSize⟩ := scan
    obtain ⟨directory', extensions', method', excludes', maxFileSize'⟩ := scan'
    rw [ScanSettings.mk.injEq]
    exact ⟨same .sourceDirectory, nonempty?_injective (same .extensions), same .method,
      nonempty?_injective (same .excludes), same .maxFileSize⟩
  have databases : database = database' := by
    obtain ⟨url, migrations, migrationExtension⟩ := database
    obtain ⟨url', migrations', migrationExtension'⟩ := database'
    rw [DatabaseSettings.mk.injEq]
    exact ⟨same .databaseUrl, same .migrationsDirectory, same .migrationExtension⟩
  have outputs : output = output' := by
    obtain ⟨path, clientModule, clientType, resultWrapper⟩ := output
    obtain ⟨path', clientModule', clientType', resultWrapper'⟩ := output'
    rw [OutputSettings.mk.injEq]
    exact ⟨same .outputFile, same .clientModule, same .clientType, same .resultWrapper⟩
  rw [scans, databases, outputs]

theorem overriding_default (settings : Settings) : settings.overriding {} = settings := by
  refine ext_given? fun setting => ?_
  rw [given?_overriding, given?_default, Option.or_none]

theorem overriding_assoc (first second third : Settings) :
    (first.overriding second).overriding third = first.overriding (second.overriding third) := by
  refine ext_given? fun setting => ?_
  rw [given?_overriding, given?_overriding, given?_overriding, given?_overriding, Option.or_assoc]

/-- What is given counts, as it is meant, over the default. -/
theorem effective_eq (settings : Settings) (setting : Setting α) :
    settings.effective setting =
      ((settings.given? setting).map setting.normal).getD setting.fallback := by
  have plain {β : Type} (given : Option β) (fallback : β) :
      given.getD fallback = (given.map id).getD fallback := by rw [Option.map_id_apply]
  cases setting with
  | extensions =>
      rw [effective, extensions, given?, nonempty?]
      split <;> rfl
  | excludes =>
      rw [effective, excludes, given?, nonempty?]
      split <;> rfl
  | migrationExtension => rfl
  | _ => exact plain _ _

/-! ## What a document says -/

theorem nonempty?_getD (list : Option (List String)) :
    nonempty? (list.getD []) = list.bind nonempty? := by
  cases list <;> rfl

/-- The value of a section in a place of its keys. -/
theorem join_values? {keys : List String} {part : Toml} {values : List (Option Toml)} {place : Nat}
    {key : String} (listed : values? keys part = some values) (here : keys[place]? = some key) :
    values[place]?.join = Setting.valueIn? key place part := by
  cases part with
  | table origin entries =>
      obtain rfl := Option.some.inj listed
      rw [List.getElem?_map, here]
      rfl
  | array items =>
      obtain rfl := Option.some.inj listed
      have within : place < keys.length := (List.getElem?_eq_some_iff.mp here).1
      rw [List.getElem?_map, List.getElem?_range within]
      rfl
  | date =>
      obtain rfl := Option.some.inj listed
      rw [List.getElem?_map, here]
      rfl
  | string | integer | float | boolean | tables => cases listed

section ValueAt

variable {keys : List String} {part : Toml} {values : List (Option Toml)} {place : Nat}
  {key : String}

theorem eq_of_valueAt {read : Toml → Option α} {found : Option α}
    (listed : values? keys part = some values) (here : keys[place]? = some key)
    (valued : valueAt read values place = some found) :
    found = (Setting.valueIn? key place part).bind read := by
  rw [valueAt, join_values? listed here] at valued
  split at valued
  · next none =>
      rw [none]
      exact (Option.some.inj valued).symm
  · next value some =>
      obtain ⟨result, read, rfl⟩ := Option.map_eq_some_iff.mp valued
      rw [some, Option.bind_some, read]

theorem nonempty?_of_valueAt {found : Option (List String)}
    (listed : values? keys part = some values) (here : keys[place]? = some key)
    (valued : valueAt strings? values place = some found) :
    nonempty? (found.getD []) =
      (Setting.valueIn? key place part).bind fun value => (strings? value).bind nonempty? := by
  rw [nonempty?_getD, eq_of_valueAt listed here valued, Option.bind_assoc]

end ValueAt

/-- What a part of the settings says is what the section of that name says in the document. -/
theorem given_of_section {Part : Type} {entries : Toml.Entries} {name : String}
    {missing part : Part} {read : Toml → Option Part} {written : Toml → Option α}
    (given : Part → Option α)
    (found : (match entries.lookup name with
      | none => some missing
      | some value => read value) = some part)
    (nothing : given missing = none)
    (each : ∀ value part, read value = some part → given part = written value) :
    given part = (entries.lookup name).bind written := by
  split at found
  · next none =>
      rw [none, ← Option.some.inj found, nothing]
      rfl
  · next value some => rw [some, Option.bind_some, each value part found]

theorem fields_of_scanSettings? {value : Toml} {scan : ScanSettings}
    (read : scanSettings? value = some scan) :
    scan.directory = (Setting.valueIn? "source_dir" 0 value).bind string? ∧
      nonempty? scan.extensions =
        (Setting.valueIn? "extensions" 1 value).bind Setting.extensions.read? ∧
      scan.method = (Setting.valueIn? "method_name" 2 value).bind string? ∧
      nonempty? scan.excludes =
        (Setting.valueIn? "exclude" 3 value).bind Setting.excludes.read? ∧
      scan.maxFileSize = (Setting.valueIn? "max_file_size" 4 value).bind natural? := by
  simp only [scanSettings?, Option.bind_eq_bind, Option.bind_eq_some_iff, Option.pure_def,
    Option.some.injEq] at read
  obtain ⟨values, listed, directory, first, extensions, second, method, third, excludes, fourth,
    maxFileSize, fifth, rfl⟩ := read
  exact ⟨eq_of_valueAt listed rfl first, nonempty?_of_valueAt listed rfl second,
    eq_of_valueAt listed rfl third, nonempty?_of_valueAt listed rfl fourth,
    eq_of_valueAt listed rfl fifth⟩

theorem fields_of_databaseSettings? {value : Toml} {database : DatabaseSettings}
    (read : databaseSettings? value = some database) :
    database.url = (Setting.valueIn? "url" 0 value).bind string? ∧
      database.migrations = (Setting.valueIn? "migrations_dir" 1 value).bind string? ∧
      database.migrationExtension =
        (Setting.valueIn? "migration_extension" 2 value).bind string? := by
  simp only [databaseSettings?, Option.bind_eq_bind, Option.bind_eq_some_iff, Option.pure_def,
    Option.some.injEq] at read
  obtain ⟨values, listed, url, first, migrations, second, migrationExtension, third, rfl⟩ := read
  exact ⟨eq_of_valueAt listed rfl first, eq_of_valueAt listed rfl second,
    eq_of_valueAt listed rfl third⟩

theorem fields_of_outputSettings? {value : Toml} {output : OutputSettings}
    (read : outputSettings? value = some output) :
    output.path = (Setting.valueIn? "path" 0 value).bind string? ∧
      output.clientModule = (Setting.valueIn? "client_module" 1 value).bind string? ∧
      output.clientType = (Setting.valueIn? "client_type" 2 value).bind string? ∧
      output.resultWrapper = (Setting.valueIn? "result_wrapper" 3 value).bind string? := by
  simp only [outputSettings?, Option.bind_eq_bind, Option.bind_eq_some_iff, Option.pure_def,
    Option.some.injEq] at read
  obtain ⟨values, listed, path, first, clientModule, second, clientType, third, resultWrapper,
    fourth, rfl⟩ := read
  exact ⟨eq_of_valueAt listed rfl first, eq_of_valueAt listed rfl second,
    eq_of_valueAt listed rfl third, eq_of_valueAt listed rfl fourth⟩

/-- The settings of a document say what is written in it. -/
theorem given?_of_ofEntries? {entries : Toml.Entries} {file : Settings}
    (read : ofEntries? entries = some file) (setting : Setting α) :
    file.given? setting = setting.written? entries := by
  simp only [ofEntries?, Option.bind_eq_bind, Option.bind_eq_some_iff, Option.pure_def,
    Option.some.injEq] at read
  obtain ⟨scan, inScan, database, inDatabase, output, inOutput, rfl⟩ := read
  cases setting with
  | sourceDirectory =>
      exact given_of_section ScanSettings.directory inScan rfl fun value part read =>
        (fields_of_scanSettings? read).1
  | extensions =>
      exact given_of_section (fun scan => nonempty? scan.extensions) inScan rfl
        fun value part read => (fields_of_scanSettings? read).2.1
  | method =>
      exact given_of_section ScanSettings.method inScan rfl fun value part read =>
        (fields_of_scanSettings? read).2.2.1
  | excludes =>
      exact given_of_section (fun scan => nonempty? scan.excludes) inScan rfl
        fun value part read => (fields_of_scanSettings? read).2.2.2.1
  | maxFileSize =>
      exact given_of_section ScanSettings.maxFileSize inScan rfl fun value part read =>
        (fields_of_scanSettings? read).2.2.2.2
  | databaseUrl =>
      exact given_of_section DatabaseSettings.url inDatabase rfl fun value part read =>
        (fields_of_databaseSettings? read).1
  | migrationsDirectory =>
      exact given_of_section DatabaseSettings.migrations inDatabase rfl fun value part read =>
        (fields_of_databaseSettings? read).2.1
  | migrationExtension =>
      exact given_of_section DatabaseSettings.migrationExtension inDatabase rfl
        fun value part read => (fields_of_databaseSettings? read).2.2
  | outputFile =>
      exact given_of_section OutputSettings.path inOutput rfl fun value part read =>
        (fields_of_outputSettings? read).1
  | clientModule =>
      exact given_of_section OutputSettings.clientModule inOutput rfl fun value part read =>
        (fields_of_outputSettings? read).2.1
  | clientType =>
      exact given_of_section OutputSettings.clientType inOutput rfl fun value part read =>
        (fields_of_outputSettings? read).2.2.1
  | resultWrapper =>
      exact given_of_section OutputSettings.resultWrapper inOutput rfl fun value part read =>
        (fields_of_outputSettings? read).2.2.2

/-! ## The settings of a project -/

/-- The document with the settings of the project in a directory, if it can be read; where there is
no file, one that says nothing. -/
def document? [Toml.Reader] (fs : FileSystem) (root : Path) : Option Toml.Entries :=
  let path := root.join (.ofString fileName)
  if fs.pathExists path then (fs.readText path).toOption.bind Toml.Reader.entries? else some []

theorem ofProject_eq_ok_iff [Toml.Reader] {fs : FileSystem} {root : Path} {file : Settings} :
    ofProject fs root = .ok file ↔
      ∃ entries, document? fs root = some entries ∧ ofEntries? entries = some file := by
  rw [ofProject, document?]
  split
  · rw [readFile]
    cases fs.readText (root.join (.ofString fileName)) with
    | error fault => simp [Except.toOption]
    | ok text =>
        have read : (Except.ok text : Except SystemFault String).toOption.bind
            Toml.Reader.entries? = Toml.Reader.entries? text := rfl
        simp only [read, parse?, ← Option.bind_eq_some_iff]
        cases (Toml.Reader.entries? text).bind ofEntries? <;> simp
  · have nothing : ofEntries? [] = some {} := rfl
    simp [nothing]

theorem checked_eq_ok_iff {settings result : Settings} :
    settings.checked = .ok result ↔ settings.fault? = none ∧ settings = result := by
  rw [checked]
  cases settings.fault? <;> simp

theorem load_eq_ok_iff [Toml.Reader] {fs : FileSystem} {environment : Environment}
    {root : Path} {settings : Settings} :
    load fs environment root = .ok settings ↔
      settings.fault? = none ∧ ∃ entries file, document? fs root = some entries ∧
        ofEntries? entries = some file ∧
          (ofEnvironment environment).overriding file = settings := by
  rw [load]
  constructor
  · intro loaded
    cases project : ofProject fs root with
    | error failure =>
        rw [project] at loaded
        cases loaded
    | ok file =>
        rw [project] at loaded
        obtain ⟨valid, rfl⟩ := checked_eq_ok_iff.mp loaded
        obtain ⟨entries, found, read⟩ := ofProject_eq_ok_iff.mp project
        exact ⟨valid, entries, file, found, read, rfl⟩
  · rintro ⟨valid, entries, file, found, read, rfl⟩
    rw [ofProject_eq_ok_iff.mpr ⟨entries, found, read⟩]
    exact checked_eq_ok_iff.mpr ⟨valid, rfl⟩

/-- What the environment over the settings of a document says about a setting. -/
theorem given?_layered {entries : Toml.Entries} {file : Settings} (environment : Environment)
    (read : ofEntries? entries = some file) (setting : Setting α) :
    ((ofEnvironment environment).overriding file).given? setting =
      (setting.inEnvironment? environment).or (setting.written? entries) := by
  rw [given?_overriding, given?_ofEnvironment, given?_of_ofEntries? read]

/-- **The layers of settings are exact.** Loading the settings of a project gives settings exactly
if the file of the project can be read as settings and nothing is wrong with the settings made from
it: those that say about each setting what the environment says or else what the file says. The
value a run goes by is then the value given, as it is meant, or else the default. No setting has an
influence on another. Settings over none are themselves, and of three layers any two may be put
together first. -/
theorem layers_are_exact [Toml.Reader] (fs : FileSystem) (environment : Environment)
    (root : Path) (settings : Settings) :
    (load fs environment root = .ok settings ↔
      settings.fault? = none ∧
        ∃ entries, document? fs root = some entries ∧ (ofEntries? entries).isSome = true ∧
          ∀ {α : Type} (setting : Setting α),
            settings.given? setting =
                (setting.inEnvironment? environment).or (setting.written? entries) ∧
              settings.effective setting =
                (((setting.inEnvironment? environment).or (setting.written? entries)).map
                  setting.normal).getD setting.fallback) ∧
      settings.overriding {} = settings ∧
      ∀ second third : Settings, (settings.overriding second).overriding third =
        settings.overriding (second.overriding third) := by
  refine ⟨?_, overriding_default settings, overriding_assoc settings⟩
  rw [load_eq_ok_iff]
  refine and_congr_right fun _ => exists_congr fun entries => ?_
  constructor
  · rintro ⟨file, found, read, rfl⟩
    refine ⟨found, by rw [read]; rfl, fun setting => ?_⟩
    have given := given?_layered environment read setting
    exact ⟨given, by rw [effective_eq, given]⟩
  · -- What is said about each setting determines the settings.
    rintro ⟨found, accepted, given⟩
    obtain ⟨file, read⟩ := Option.isSome_iff_exists.mp accepted
    refine ⟨file, found, read, ext_given? fun setting => ?_⟩
    rw [given?_layered environment read, (given setting).1]

end Settings

end TypedQueries
