import TypedQueries.Proofs.Source.Discovery
import TypedQueries.Proofs.Text.Utf8

/-! # What loading the scripts of a directory comes to

The scripts in a directory of a tree of files (`Migration.IsScript`) are loaded in the strict order
of their names, each with its whole text; the first of them that cannot be read is what loading
fails at, or the directory if it cannot be listed. In which order the directory lists what is in it
makes no difference (`Migration.load_exact`).
-/

namespace TypedQueries

theorem FileSystem.readText_eq_ok_iff {fs : FileSystem} {path : Path} {text : String} :
    fs.readText path = .ok text ↔ fs.read path = .ok text.toUTF8 := by
  rw [readText]
  cases fs.read path with
  | error fault => simp [Except.bind]
  | ok content =>
      rw [Except.ok.injEq, ← Utf8.fromUTF8?_eq_some_iff]
      cases isText : String.fromUTF8? content <;> simp [Except.bind, isText]

namespace Migration

open Path.compareComponents (compareNames)

variable {fs gs : FileSystem} {directory : Path} {location : Location} {extension : String}
  {name : Name} {names : List Name}

/-- That a name in a directory is that of a script: it leads to a file, be it through a link, it
has the extension and it is text. -/
structure IsScript (fs : FileSystem) (directory : Path) (location : Location) (extension : String)
    (name : Name) : Prop where
  listed : ∃ node, fs.node? (location ++ [name]) = some node
  file : fs.isFile (directory.child name)
  extended : Path.extensionOf? name = some (Name.ofString extension)
  text : (Utf8.text? name).isSome

/-- That a script is the file of a name in a directory, with the whole text of that file. -/
structure Reads (fs : FileSystem) (directory : Path) (name : Name) (script : Migration) : Prop where
  named : Utf8.text? name = some script.name
  path_eq : script.path = directory.child name
  read : fs.read script.path = .ok script.sql.toUTF8

/-- What loading the scripts of some names in a directory comes to: all of them, or the first that
cannot be read. A directory that cannot be listed is what loading fails at itself. -/
inductive Outcome (fs : FileSystem) (directory : Path) (location : Location) (names : List Name) :
    Except DatabaseFailure (List Migration) → Prop
  | all {scripts : List Migration} (listed : fs.listingFault? location = none)
      (each : List.Forall₂ (Reads fs directory) names scripts) :
      Outcome fs directory location names (.ok scripts)
  | unreadable {before after : List Name} {name : Name} {fault : SystemFault}
      (listed : fs.listingFault? location = none) (parts : names = before ++ name :: after)
      (readable : ∀ earlier ∈ before, ∃ text, fs.readText (directory.child earlier) = .ok text)
      (unread : fs.readText (directory.child name) = .error fault) :
      Outcome fs directory location names
        (.error (.migrationUnreadable (directory.child name) fault))
  | unlisted {fault : SystemFault} (faulty : fs.listingFault? location = some fault) :
      Outcome fs directory location names (.error (.migrationUnreadable directory fault))

theorem mem_scriptNames_iff_isScript (tree : fs.Treelike) :
    name ∈ scriptNames fs directory location extension ↔
      IsScript fs directory location extension name := by
  have extended (proper : name.IsProper) :
      (directory.child name).extension? = Path.extensionOf? name :=
    @Path.extension?_foldl_child directory [] name (by simpa using proper)
  rw [mem_scriptNames_iff_listed tree, isSome_scriptName?_iff]
  constructor
  · rintro ⟨⟨node, present⟩, file, has, text⟩
    rw [extended (tree.proper present name (by simp)).1] at has
    exact ⟨⟨node, present⟩, file, has, text⟩
  · rintro ⟨⟨node, present⟩, file, has, text⟩
    rw [← extended (tree.proper present name (by simp)).1] at has
    exact ⟨⟨node, present⟩, file, has, text⟩

theorem pairwise_lt_scriptNames (tree : fs.Treelike) :
    (scriptNames fs directory location extension).Pairwise fun earlier later =>
      compareNames earlier later = .lt :=
  pairwise_lt_of_isLE (pairwise_mergeSort_isLE compareNames _) (nodup_scriptNames tree)
    fun _ _ _ _ same => Std.LawfulEqCmp.eq_of_compare same

/-- Scripts listed in whatever order are taken in that of their names. -/
theorem scriptNames_eq_of_perm {names : List Name}
    (ordered : names.Pairwise fun earlier later => compareNames earlier later = .lt)
    (perm : (((fs.children location).map Prod.fst).filter fun name =>
      (scriptName? fs directory extension name).isSome).Perm names) :
    scriptNames fs directory location extension = names :=
  mergeSort_eq_of_perm id compareNames ordered perm

/-- A directory is no script, whatever its name. -/
theorem IsScript.not_directoryAt (script : IsScript fs directory location extension name)
    (tree : fs.Treelike) (resolved : fs.resolve directory = .ok location) :
    ¬ fs.DirectoryAt (location ++ [name]) := by
  rintro ⟨node, present, isDirectory⟩
  have unlinked : ∀ target, node ≠ .link target := by
    rintro target rfl
    cases isDirectory
  obtain ⟨isFile, -⟩ := (tree.isFile_child_iff resolved present unlinked).mp script.file
  exact FileSystem.DirectoryAt.not_fileAt ⟨node, present, isDirectory⟩ ⟨node, present, isFile⟩

theorem exists_of_readScript_eq_error {failure : DatabaseFailure}
    (failed : readScript fs directory name = .error failure) :
    ∃ fault, fs.readText (directory.child name) = .error fault ∧
      failure = .migrationUnreadable (directory.child name) fault := by
  rw [readScript] at failed
  cases read : fs.readText (directory.child name) with
  | error fault =>
      simp only [read, Except.error.injEq] at failed
      exact ⟨fault, rfl, failed.symm⟩
  | ok sql => simp [read] at failed

theorem reads_of_readScript {script : Migration} (isText : (Utf8.text? name).isSome)
    (succeeded : readScript fs directory name = .ok script) : Reads fs directory name script := by
  obtain ⟨sql, read, rfl⟩ := exists_of_readScript_eq_ok succeeded
  obtain ⟨text, same⟩ := Option.isSome_iff_exists.mp isText
  exact ⟨by rw [same, Utf8.display_of_text? same], rfl, FileSystem.readText_eq_ok_iff.mp read⟩

theorem outcome_mapM_readScript (listed : fs.listingFault? location = none)
    (texts : ∀ name ∈ names, (Utf8.text? name).isSome) :
    Outcome fs directory location names (names.mapM (readScript fs directory)) := by
  cases collected : names.mapM (readScript fs directory) with
  | ok scripts =>
      have each := (List.forall₂_and_left names scripts).mpr
        ⟨texts, mapM_eq_ok_iff.mp collected⟩
      exact .all listed (each.imp fun _ _ both => reads_of_readScript both.1 both.2)
  | error failure =>
      obtain ⟨before, name, after, parts, succeeded, failed⟩ :=
        exists_first_of_mapM_eq_error collected
      obtain ⟨fault, unread, rfl⟩ := exists_of_readScript_eq_error failed
      refine .unreadable listed parts (fun earlier member => ?_) unread
      obtain ⟨script, read⟩ := succeeded earlier member
      obtain ⟨sql, read, -⟩ := exists_of_readScript_eq_ok read
      exact ⟨sql, read⟩

theorem load_eq_mapM (resolved : fs.resolve directory = .ok location)
    (isDirectory : fs.DirectoryAt location) (listed : fs.listingFault? location = none)
    (extension : String) :
    load fs directory extension =
      (scriptNames fs directory location extension).mapM (readScript fs directory) := by
  rw [load, if_pos (FileSystem.isDirectory_iff.mpr ⟨location, resolved, isDirectory⟩), resolved]
  simp only [listed]

theorem load_eq_of_unlisted (resolved : fs.resolve directory = .ok location)
    (isDirectory : fs.DirectoryAt location) {fault : SystemFault}
    (faulty : fs.listingFault? location = some fault) (extension : String) :
    load fs directory extension = .error (.migrationUnreadable directory fault) := by
  rw [load, if_pos (FileSystem.isDirectory_iff.mpr ⟨location, resolved, isDirectory⟩), resolved]
  simp only [faulty]

/-- In which order a directory lists what is in it makes no difference to its scripts. -/
theorem scriptNames_relisted (tree : fs.Treelike) (relisted : fs.Relisted gs) :
    scriptNames gs directory location extension = scriptNames fs directory location extension := by
  refine scriptNames_unique (relisted.treelike tree) tree fun name => ?_
  rw [mem_scriptNames_iff_listed (relisted.treelike tree), mem_scriptNames_iff_listed tree,
    relisted.node?_eq tree, scriptName?, scriptName?, relisted.isFile_eq tree]

theorem load_relisted (tree : fs.Treelike) (relisted : fs.Relisted gs) (directory : Path)
    (extension : String) : load gs directory extension = load fs directory extension := by
  have read : readScript gs directory = readScript fs directory := by
    funext name
    rw [readScript, readScript, relisted.readText_eq tree]
  rw [load, load, relisted.isDirectory_eq tree, relisted.resolve_eq tree, read]
  simp only [scriptNames_relisted tree relisted, FileSystem.listingFault?, relisted.node?_eq tree]

/-- **What loading the scripts of a directory comes to.** In a tree of files, and in whatever order
the directory lists what is in it, the scripts of the directory are loaded in the strict order of
their names, each with its whole text. If not all can be read, loading fails at the first in that
order that cannot, and if the directory cannot be listed, at the directory. No directory in it
counts as a script. -/
theorem load_exact (tree : fs.Treelike) (extension : String)
    (resolved : fs.resolve directory = .ok location) (isDirectory : fs.DirectoryAt location) :
    ∃ names outcome,
      names.Pairwise (fun earlier later => compareNames earlier later = .lt) ∧
      (∀ name, name ∈ names ↔ IsScript fs directory location extension name) ∧
      (∀ name ∈ names, ¬ fs.DirectoryAt (location ++ [name])) ∧
      Outcome fs directory location names outcome ∧
      ∀ gs, fs.Relisted gs → load gs directory extension = outcome := by
  have isScript (name : Name) : name ∈ scriptNames fs directory location extension ↔
      IsScript fs directory location extension name := mem_scriptNames_iff_isScript tree
  refine ⟨scriptNames fs directory location extension, load fs directory extension,
    pairwise_lt_scriptNames tree, isScript,
    fun name member => ((isScript name).mp member).not_directoryAt tree resolved, ?_,
    fun gs relisted => load_relisted tree relisted directory extension⟩
  cases listing : fs.listingFault? location with
  | none =>
      rw [load_eq_mapM resolved isDirectory listing]
      exact outcome_mapM_readScript listing fun name member => ((isScript name).mp member).text
  | some fault =>
      rw [load_eq_of_unlisted resolved isDirectory listing]
      exact .unlisted listing

end Migration

/-- A directory `/m` with a link to a file, the same thing under two names, a file whose name is no
text and a directory that is named like a script and holds one; and a directory `/n` that cannot be
listed. -/
def FileSystem.mixedScripts (script : Node) : FileSystem where
  nodes :=
    [([.ofString "m"], .directory),
      ([.ofString "m", .ofString "10.sql"], script),
      ([.ofString "m", .ofString "2.sql"], script),
      ([.ofString "m", .ofString "notes.md"], .file "a".toUTF8),
      ([.ofString "m", .ofString "1.sql"], .link (.ofString "notes.md")),
      ([.ofString "m", 0xff :: Name.ofString ".sql"], .file "b".toUTF8),
      ([.ofString "m", .ofString "0.sql"], .directory),
      ([.ofString "m", .ofString "0.sql", .ofString "3.sql"], .file "c".toUTF8),
      ([.ofString "n"], .broken (.numbered 13))]

/-- The link and the two files are loaded in the order of their names, also when everything is
listed backwards; if neither file is text, or neither can be read, loading fails at the first of
them. -/
theorem Migration.load_exact_of_mixed_scripts :
    (FileSystem.mixedScripts (.file "d".toUTF8)).Treelike ∧
      load ⟨(FileSystem.mixedScripts (.file "d".toUTF8)).nodes.reverse, []⟩ (.ofString "/m") "sql" =
        .ok [⟨"1.sql", .ofString "/m/1.sql", "a"⟩, ⟨"10.sql", .ofString "/m/10.sql", "d"⟩,
          ⟨"2.sql", .ofString "/m/2.sql", "d"⟩] ∧
      load ⟨(FileSystem.mixedScripts (.file ⟨#[0xff]⟩)).nodes.reverse, []⟩ (.ofString "/m") "sql" =
        .error (.migrationUnreadable (.ofString "/m/10.sql") .notText) ∧
      load ⟨(FileSystem.mixedScripts (.unreadable 1 (.numbered 5))).nodes.reverse, []⟩
          (.ofString "/m") "sql" =
        .error (.migrationUnreadable (.ofString "/m/10.sql") (.numbered 5)) ∧
      load ⟨(FileSystem.mixedScripts .directory).nodes.reverse, []⟩ (.ofString "/n") "sql" =
        .error (.migrationUnreadable (.ofString "/n") (.numbered 13)) := by
  have facts : ∀ script ∈ [Node.file "d".toUTF8, .file ⟨#[0xff]⟩, .unreadable 1 (.numbered 5)],
      (FileSystem.mixedScripts script).Treelike ∧
        (FileSystem.mixedScripts script).resolve (.ofString "/m") = .ok [Name.ofString "m"] ∧
        (FileSystem.mixedScripts script).DirectoryAt [.ofString "m"] ∧
        (FileSystem.mixedScripts script).listingFault? [.ofString "m"] = none ∧
        ((((FileSystem.mixedScripts script).children [.ofString "m"]).map Prod.fst).filter
          fun name => (scriptName? (FileSystem.mixedScripts script) (.ofString "/m") "sql"
            name).isSome).Perm [.ofString "1.sql", .ofString "10.sql", .ofString "2.sql"] := by
    decide +kernel
  have backwards {script : Node} {directory : Path} {location : Location}
      (tree : (FileSystem.mixedScripts script).Treelike)
      (resolved : (FileSystem.mixedScripts script).resolve directory = .ok location)
      (isDirectory : (FileSystem.mixedScripts script).DirectoryAt location) :
      load ⟨(FileSystem.mixedScripts script).nodes.reverse, []⟩ directory "sql" =
        load (FileSystem.mixedScripts script) directory "sql" := by
    obtain ⟨_, _, -, -, -, -, found⟩ := load_exact tree "sql" resolved isDirectory
    rw [found ⟨(FileSystem.mixedScripts script).nodes.reverse, []⟩ ⟨rfl, List.reverse_perm _⟩,
      ← found _ ⟨rfl, List.Perm.refl _⟩]
  have loaded : ∀ script ∈ [Node.file "d".toUTF8, .file ⟨#[0xff]⟩, .unreadable 1 (.numbered 5)],
      load ⟨(FileSystem.mixedScripts script).nodes.reverse, []⟩ (.ofString "/m") "sql" =
        [Name.ofString "1.sql", .ofString "10.sql", .ofString "2.sql"].mapM
          (readScript (FileSystem.mixedScripts script) (.ofString "/m")) := by
    intro script member
    obtain ⟨tree, resolved, isDirectory, listed, names⟩ := facts script member
    rw [backwards tree resolved isDirectory, load_eq_mapM resolved isDirectory listed,
      scriptNames_eq_of_perm (by decide +kernel) names]
  refine ⟨(facts _ (by simp)).1, (loaded _ (by simp)).trans (by decide +kernel),
    (loaded _ (by simp)).trans (by decide +kernel),
    (loaded _ (by simp)).trans (by decide +kernel), ?_⟩
  have resolved : (FileSystem.mixedScripts .directory).resolve (.ofString "/n") =
      .ok [Name.ofString "n"] := by decide +kernel
  rw [backwards (by decide +kernel) resolved (by decide +kernel)]
  decide +kernel

end TypedQueries
