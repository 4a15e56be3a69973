import TypedQueries.Migration
import TypedQueries.Proofs.Source.Discovery
import TypedQueries.Proofs.Text.Utf8
import TypedQueries.Source.Scan
import TypedQueries.Watch.Filter

/-! # Changes of what a run reads

A run reads the source files that it finds and the scripts that it loads; the filter decides from
the path of a change alone. The two agree up to three things that only the filter minds: an
excluded name above the directory that is searched, one that a file itself has, and the place of
the generated module (`ChangeFilter.isRelevant_input_iff`).
-/

namespace TypedQueries

/-- That all files have proper names. -/
def FileSystem.ProperlyNamed (fs : FileSystem) : Prop :=
  ∀ entry ∈ fs.nodes, ∀ name ∈ entry.1, Name.IsProper name

instance (fs : FileSystem) : Decidable fs.ProperlyNamed :=
  inferInstanceAs (Decidable (∀ entry ∈ fs.nodes, ∀ name ∈ entry.1, Name.IsProper name))

theorem FileSystem.ProperlyNamed.of_mem_below {fs : FileSystem} (named : fs.ProperlyNamed)
    {location : Location} {entry : Location × Node} (member : entry ∈ fs.below location) :
    entry.1 ≠ [] ∧ ∀ name ∈ entry.1, name.IsProper := by
  obtain ⟨inside, present⟩ := mem_below_iff_mem_nodes.mp member
  exact ⟨inside, fun name member => named _ present name (List.mem_append_right _ member)⟩

/-- What is known of a file that is found: it lies in directories that are not passed over, has
one of the extensions and counts. -/
theorem Discovery.exists_names_of_find {discovery : Discovery} {fs : FileSystem} {root : Path}
    {paths : List Path} (named : fs.ProperlyNamed) (found : discovery.find fs root = .ok paths)
    {path : Path} (member : path ∈ paths) :
    (∃ (directories : List Name) (name : Name),
      path.components = root.components ++ (directories ++ [name]).map .normal ∧
      directories.any discovery.excludesName = false) ∧
    path.hasExtension discovery.extensions ∧ discovery.skips fs path = false := by
  obtain ⟨around, -, -, rfl⟩ := exists_of_find found
  simp only [List.mem_mergeSort, List.mem_filter, List.mem_filterMap, Bool.and_eq_true,
    Bool.not_eq_true', reach?_eq_some_iff] at member
  obtain ⟨⟨⟨names, node⟩, below, -, entered, rfl⟩, counts⟩ := member
  obtain ⟨inside, proper⟩ := named.of_mem_below below
  refine ⟨⟨names.dropLast, names.getLast inside, ?_, entered⟩, counts⟩
  rw [List.dropLast_concat_getLast, Path.components_foldl_child proper]

/-- What is known of a script that is loaded: it lies in the directory itself and has the
extension of scripts. -/
theorem Migration.exists_name_of_load {fs : FileSystem} {directory : Path} {extension : String}
    {scripts : List Migration} (named : fs.ProperlyNamed)
    (loaded : load fs directory extension = .ok scripts) {script : Migration}
    (member : script ∈ scripts) :
    (∃ name : Name, script.path.components = directory.components ++ [.normal name]) ∧
      script.path.extension? = some (Name.ofString extension) := by
  obtain ⟨-, location, -, -, collected⟩ := exists_of_load loaded
  have paths : scripts.map Migration.path =
      (scriptNames fs directory location extension).map directory.child :=
    map_eq_of_mapM_eq_ok collected fun _ _ read =>
      congrArg Prod.snd (name_path_of_readScript read)
  have isPath : script.path ∈ scripts.map Migration.path := List.mem_map_of_mem member
  rw [paths] at isPath
  obtain ⟨name, isScript, same⟩ := List.mem_map.mp isPath
  simp only [scriptNames, List.mem_mergeSort, List.mem_filter, List.mem_map] at isScript
  obtain ⟨⟨⟨child, node⟩, listed, rfl⟩, selected⟩ := isScript
  have proper := named _ (FileSystem.mem_children_iff.mp listed) child (by simp)
  rw [← same]
  exact ⟨⟨child, Path.components_child proper⟩, (isSome_scriptName?_iff.mp selected).2.1⟩

namespace ChangeFilter

/-- Whether a name is an excluded one. -/
def excludesName (filter : ChangeFilter) (name : Name) : Bool :=
  (Utf8.text? name).any filter.excludes.contains

/-- A path is excluded by the directory or by one of the names on the way from there. -/
theorem isExcluded_eq (filter : ChangeFilter) {path directory : Path} {names : List Name}
    (inside : path.components = directory.components ++ names.map .normal) :
    filter.isExcluded path = (filter.isExcluded directory || names.any filter.excludesName) := by
  rw [isExcluded, isExcluded, inside, List.any_append, List.any_map]
  rfl

end ChangeFilter

section Inputs

variable {root : Path} {settings : Settings} {fs : FileSystem}

/-- What a search passes over as the generated module is the generated module to the filter. The
filter takes one more spelling for it: the one of the settings, even if that leads nowhere. -/
theorem ChangeFilter.isOutput_of_not_skips {path : Path}
    (counts : (Source.discovery settings [settings.outputPath root]).skips fs path = false) :
    (ChangeFilter.of root settings).isOutput fs path = path.same (settings.outputPath root) := by
  simp only [Discovery.skips, Source.discovery, List.any_cons, List.any_nil, Bool.or_false,
    Discovery.normalized] at counts
  rw [isOutput, of]
  cases here : fs.canonical? path with
  | none => simp
  | some place =>
      cases there : fs.canonical? (settings.outputPath root) with
      | none => simp
      | some output =>
          rw [here, there, Option.getD_some, Option.getD_some, Path.same_comm] at counts
          simp [counts]

/-- A source file that is found counts when it changes, unless the directory of the sources lies
under an excluded name, the file itself has one, or the module is said to be generated there. -/
theorem ChangeFilter.isRelevant_source_iff {paths : List Path} {path : Path}
    (named : fs.ProperlyNamed)
    (found : (Source.discovery settings [settings.outputPath root]).find fs
      (settings.sourcePath root) = .ok paths) (member : path ∈ paths) :
    (ChangeFilter.of root settings).isRelevant fs path ↔
      path.same (settings.outputPath root) = false ∧
      (ChangeFilter.of root settings).isExcluded (settings.sourcePath root) = false ∧
      path.fileName?.any (ChangeFilter.of root settings).excludesName = false := by
  obtain ⟨⟨directories, name, inside, allowed⟩, extension, counts⟩ :=
    Discovery.exists_names_of_find named found member
  have extended : path.hasExtension (ChangeFilter.of root settings).extensions := by
    rw [Path.hasExtension_iff] at extension ⊢
    obtain ⟨wanted, member, same⟩ := extension
    exact ⟨wanted, List.mem_append_left _ member, same⟩
  -- The filter takes only proper texts for names, the search what is shown of them.
  have entered : directories.any (ChangeFilter.of root settings).excludesName = false := by
    rw [List.any_eq_false] at allowed ⊢
    intro directory member excluded
    refine allowed directory member ?_
    cases isText : Utf8.text? directory with
    | none => simp [excludesName, isText] at excluded
    | some text =>
        rw [excludesName, isText, Option.any_some] at excluded
        rw [Discovery.excludesName, Utf8.display_of_text? isText]
        exact excluded
  have own : path.fileName? = some name := by
    rw [List.map_append, ← List.append_assoc] at inside
    exact Path.fileName?_of_components inside
  rw [isRelevant, extended, isOutput_of_not_skips counts, isExcluded_eq _ inside, List.any_append,
    entered, own]
  simp

/-- A script that is loaded counts when it changes, unless the directory of the scripts lies under
an excluded name, the script itself has one, or it is the generated module. -/
theorem ChangeFilter.isRelevant_script_iff {scripts : List Migration} {script : Migration}
    (named : fs.ProperlyNamed)
    (loaded : Migration.load fs (settings.migrationsPath root) settings.migrationExtension =
      .ok scripts) (member : script ∈ scripts) :
    (ChangeFilter.of root settings).isRelevant fs script.path ↔
      (ChangeFilter.of root settings).isOutput fs script.path = false ∧
      (ChangeFilter.of root settings).isExcluded (settings.migrationsPath root) = false ∧
      script.path.fileName?.any (ChangeFilter.of root settings).excludesName = false := by
  obtain ⟨⟨name, inside⟩, extension⟩ := Migration.exists_name_of_load named loaded member
  have extended : script.path.hasExtension (ChangeFilter.of root settings).extensions :=
    Path.hasExtension_iff.mpr ⟨_, List.mem_append_right _ List.mem_cons_self, extension⟩
  have below : script.path.components =
      (settings.migrationsPath root).components ++ [name].map .normal := inside
  rw [isRelevant, extended, isExcluded_eq _ below, Path.fileName?_of_components inside]
  simp

end Inputs

/-- **Which inputs of a run are watched.** Every source file that a run finds, and every script it
loads, counts when it changes, unless its directory lies under an excluded name, it has such a name
itself, or it is the generated module. Directories below that of the sources make no difference,
since the search passes over those of an excluded name. -/
theorem ChangeFilter.isRelevant_input_iff (root : Path) (settings : Settings) {fs : FileSystem}
    (named : fs.ProperlyNamed) :
    (∀ paths, (Source.discovery settings [settings.outputPath root]).find fs
        (settings.sourcePath root) = .ok paths → ∀ path ∈ paths,
      ((ChangeFilter.of root settings).isRelevant fs path ↔
        path.same (settings.outputPath root) = false ∧
        (ChangeFilter.of root settings).isExcluded (settings.sourcePath root) = false ∧
        path.fileName?.any (ChangeFilter.of root settings).excludesName = false)) ∧
    (∀ scripts, Migration.load fs (settings.migrationsPath root) settings.migrationExtension =
        .ok scripts → ∀ script ∈ scripts,
      ((ChangeFilter.of root settings).isRelevant fs script.path ↔
        (ChangeFilter.of root settings).isOutput fs script.path = false ∧
        (ChangeFilter.of root settings).isExcluded (settings.migrationsPath root) = false ∧
        script.path.fileName?.any (ChangeFilter.of root settings).excludesName = false)) :=
  ⟨fun _ found _ member => isRelevant_source_iff named found member,
    fun _ loaded _ member => isRelevant_script_iff named loaded member⟩

/-- A project with one source file and one script in a directory. -/
def FileSystem.smallProject (directory : List String) : FileSystem where
  nodes :=
    (List.range (directory.length + 1)).map (fun depth =>
      ((directory.take depth).map Name.ofString, .directory)) ++
    [((directory ++ ["src"]).map Name.ofString, .directory),
      ((directory ++ ["src", "app.ts"]).map Name.ofString, .file .empty),
      ((directory ++ ["migrations"]).map Name.ofString, .directory),
      ((directory ++ ["migrations", "1.sql"]).map Name.ofString, .file .empty)]

/-- The source file and the script of a project in `/p` are watched. -/
theorem ChangeFilter.isRelevant_input_iff_of_small_project :
    (FileSystem.smallProject ["p"]).ProperlyNamed ∧
      (ChangeFilter.of (.ofString "/p") {}).isRelevant (.smallProject ["p"])
        (.ofString "/p/src/app.ts") ∧
      (ChangeFilter.of (.ofString "/p") {}).isRelevant (.smallProject ["p"])
        (.ofString "/p/migrations/1.sql") := by
  have named : (FileSystem.smallProject ["p"]).ProperlyNamed := by decide +kernel
  have inputs := isRelevant_input_iff (.ofString "/p") {} named
  refine ⟨named, ?_, ?_⟩
  · have found : (Source.discovery {} [Settings.outputPath {} (.ofString "/p")]).find
        (.smallProject ["p"]) (Settings.sourcePath {} (.ofString "/p")) =
          .ok [.ofString "/p/src/app.ts"] := by decide +kernel
    exact (inputs.1 _ found _ List.mem_cons_self).mpr (by decide +kernel)
  · have loaded : Migration.load (.smallProject ["p"])
        (Settings.migrationsPath {} (.ofString "/p")) (Settings.migrationExtension {}) =
          .ok [⟨"1.sql", .ofString "/p/migrations/1.sql", ""⟩] := by decide +kernel
    exact (inputs.2 _ loaded _ List.mem_cons_self).mpr (by decide +kernel)

/-- In a project that lies under an excluded name nothing is watched that a run reads. -/
theorem ChangeFilter.not_isRelevant_below_excluded_name :
    Settings.fault? {} = none ∧
      (Source.discovery {} [Settings.outputPath {} (.ofString "/node_modules/app")]).find
          (.smallProject ["node_modules", "app"])
          (Settings.sourcePath {} (.ofString "/node_modules/app")) =
        .ok [.ofString "/node_modules/app/src/app.ts"] ∧
      (ChangeFilter.of (.ofString "/node_modules/app") {}).isRelevant
        (.smallProject ["node_modules", "app"])
        (.ofString "/node_modules/app/src/app.ts") = false ∧
      Migration.load (.smallProject ["node_modules", "app"])
          (Settings.migrationsPath {} (.ofString "/node_modules/app"))
          (Settings.migrationExtension {}) =
        .ok [⟨"1.sql", .ofString "/node_modules/app/migrations/1.sql", ""⟩] ∧
      (ChangeFilter.of (.ofString "/node_modules/app") {}).isRelevant
        (.smallProject ["node_modules", "app"])
        (.ofString "/node_modules/app/migrations/1.sql") = false := by
  refine ⟨?_, ?_, ?_, ?_, ?_⟩
  · decide +kernel
  · decide +kernel
  · decide +kernel
  · decide +kernel
  · decide +kernel

end TypedQueries
