import TypedQueries.Failure
import TypedQueries.Module.Synthesis
import TypedQueries.Path
import TypedQueries.Text.StringLiteral

/-! # Settings

What a project may set, in three sections, each value with a default. Settings of the
project's file are overridden by the environment.
-/

namespace TypedQueries

/-- Which source files are read, and how. -/
structure ScanSettings where
  directory : Option String := none
  extensions : List String := []
  method : Option String := none
  excludes : List String := []
  maxFileSize : Option Nat := none
deriving DecidableEq, Repr

/-- The database and the scripts that set it up. -/
structure DatabaseSettings where
  url : Option String := none
  migrations : Option String := none
  migrationExtension : Option String := none
deriving DecidableEq, Repr

/-- The generated module. -/
structure OutputSettings where
  path : Option String := none
  clientModule : Option String := none
  clientType : Option String := none
  resultWrapper : Option String := none
deriving DecidableEq, Repr

/-- The settings of a project. -/
structure Settings where
  scan : ScanSettings := {}
  database : DatabaseSettings := {}
  output : OutputSettings := {}
deriving DecidableEq, Repr

namespace Settings

/-- An extension without the dots in front of it. -/
def trimDots (extension : String) : String :=
  String.ofList (extension.toList.dropWhile (· == '.'))

def sourceDirectory (s : Settings) : String := s.scan.directory.getD "src"

def extensions (s : Settings) : List String :=
  if s.scan.extensions.isEmpty then ["ts", "tsx"] else s.scan.extensions.map trimDots

def method (s : Settings) : String := s.scan.method.getD "query"

/-- The names of directories that are left out. -/
def excludes (s : Settings) : List String :=
  if s.scan.excludes.isEmpty then ["node_modules"] else s.scan.excludes

/-- The number of bytes a source file may have. -/
def maxFileSize (s : Settings) : Nat := s.scan.maxFileSize.getD 1048576

def databaseUrl (s : Settings) : String :=
  s.database.url.getD "postgres://postgres@localhost:5432/postgres"

def migrationsDirectory (s : Settings) : String := s.database.migrations.getD "migrations"

def migrationExtension (s : Settings) : String :=
  (s.database.migrationExtension.map trimDots).getD "sql"

def outputFile (s : Settings) : String := s.output.path.getD "src/sqltype.generated.ts"

def moduleOptions (s : Settings) : ModuleOptions where
  clientModule := s.output.clientModule.getD "@electric-sql/pglite"
  clientType := s.output.clientType.getD "PGlite"
  resultWrapper := s.output.resultWrapper.getD "Results"

/-- The directory of the source files of the project in a directory. -/
def sourcePath (s : Settings) (root : Path) : Path := root.join (.ofString s.sourceDirectory)

/-- The directory of the migration scripts of the project in a directory. -/
def migrationsPath (s : Settings) (root : Path) : Path :=
  root.join (.ofString s.migrationsDirectory)

/-- The path of the generated module of the project in a directory. -/
def outputPath (s : Settings) (root : Path) : Path := root.join (.ofString s.outputFile)

/-- Whether an extension can be one of a file. -/
def isExtension (extension : String) : Bool :=
  !extension.isEmpty && !extension.toList.contains '/'

def namesFile (path : String) : Bool :=
  match path.toList.getLast? with
  | none => false
  | some c => c != '/' && c != '\\'

/-- What is wrong with the settings, if anything; the first fault counts. -/
def fault? (s : Settings) : Option SettingsFailure :=
  if !Identifier.accepts s.method then
    some (.invalid "scan.method_name" "must be a valid identifier")
  else if !s.extensions.all isExtension then
    some (.invalid "scan.extensions"
      "extensions must be non-empty and contain no path separators")
  else if s.maxFileSize = 0 then some (.invalid "scan.max_file_size" "must be greater than 0")
  else if !namesFile s.outputFile then some (.invalid "output.path" "must name a file")
  else if !Identifier.accepts s.moduleOptions.clientType then
    some (.invalid "output.client_type" "must be a valid identifier")
  else if !Identifier.accepts s.moduleOptions.resultWrapper then
    some (.invalid "output.result_wrapper" "must be a valid identifier")
  else none

/-- The list that counts of two, where the empty one says nothing. -/
def preferList (preferred other : List String) : List String :=
  if preferred.isEmpty then other else preferred

/-- Settings over others: each value is taken from the first that has it. -/
def overriding (s other : Settings) : Settings where
  scan :=
    { directory := s.scan.directory.or other.scan.directory
      extensions := preferList s.scan.extensions other.scan.extensions
      method := s.scan.method.or other.scan.method
      excludes := preferList s.scan.excludes other.scan.excludes
      maxFileSize := s.scan.maxFileSize.or other.scan.maxFileSize }
  database :=
    { url := s.database.url.or other.database.url
      migrations := s.database.migrations.or other.database.migrations
      migrationExtension := s.database.migrationExtension.or other.database.migrationExtension }
  output :=
    { path := s.output.path.or other.output.path
      clientModule := s.output.clientModule.or other.output.clientModule
      clientType := s.output.clientType.or other.output.clientType
      resultWrapper := s.output.resultWrapper.or other.output.resultWrapper }

/-- The variables of the environment a program can see. -/
abbrev Environment : Type := String → Option String

def ofEnvironment (environment : Environment) : Settings where
  scan :=
    { directory := environment "SQLTYPE_SOURCE_DIR"
      method := environment "SQLTYPE_METHOD_NAME" }
  database :=
    { url := environment "SQLTYPE_DATABASE_URL"
      migrations := environment "SQLTYPE_MIGRATIONS_DIR" }
  output := { path := environment "SQLTYPE_OUTPUT_PATH" }

end Settings

end TypedQueries
