import TypedQueries.Proofs.Migration.Loading
import TypedQueries.Proofs.Source.Search
import TypedQueries.Source.Scan

/-! # Which files the configured extensions choose

The extension of a name is what follows its last dot (`Path.extensionOf?_eq_some_iff`). So a
configured extension chooses the files whose names end in a dot and the extension
(`Name.EndsIn`) if there is no dot in it, and none at all otherwise
(`Settings.extensions_choose_iff`).
-/

namespace TypedQueries

namespace Path

theorem splitAtDot_eq_none_iff {name : Name} : splitAtDot name = none ↔ dot ∉ name := by
  induction name with
  | nil => simp [splitAtDot]
  | cons b rest ih =>
      rw [splitAtDot, List.mem_cons, not_or, ← ih]
      cases splitAtDot rest with
      | none => simp [eq_comm]
      | some parts => simp

theorem splitAtDot_append (stem : Name) {after : Name} (dotless : dot ∉ after) :
    splitAtDot (stem ++ dot :: after) = some (stem, after) := by
  induction stem with
  | nil => rw [List.nil_append, splitAtDot, splitAtDot_eq_none_iff.mpr dotless, if_pos rfl]
  | cons b stem ih => rw [List.cons_append, splitAtDot, ih]

theorem eq_append_of_splitAtDot {name stem after : Name}
    (found : splitAtDot name = some (stem, after)) :
    name = stem ++ dot :: after ∧ dot ∉ after := by
  fun_induction splitAtDot name generalizing stem with
  | case1 => cases found
  | case2 b rest stem' after' further ih =>
      cases found
      obtain ⟨whole, dotless⟩ := ih further
      exact ⟨by rw [whole]; rfl, dotless⟩
  | case3 rest none =>
      cases found
      exact ⟨rfl, splitAtDot_eq_none_iff.mp none⟩
  | case4 b rest none other => cases found

/-- The extension of a name is what follows its last dot, if something stands before that. -/
theorem extensionOf?_eq_some_iff {name extension : Name} (proper : name.IsProper) :
    extensionOf? name = some extension ↔
      (∃ stem : Name, stem ≠ [] ∧ name = stem ++ dot :: extension) ∧ dot ∉ extension := by
  rw [extensionOf?, if_neg proper.not_dotDot]
  constructor
  · intro found
    split at found
    next b stem after parts =>
      cases found
      obtain ⟨whole, dotless⟩ := eq_append_of_splitAtDot parts
      exact ⟨⟨b :: stem, List.cons_ne_nil b stem, whole⟩, dotless⟩
    next => cases found
  · rintro ⟨⟨stem, nonempty, rfl⟩, dotless⟩
    obtain ⟨b, stem, rfl⟩ := List.exists_cons_of_ne_nil nonempty
    rw [splitAtDot_append (b :: stem) dotless]

end Path

/-- That a name is a stem, a dot and an extension. -/
def Name.EndsIn (extension : String) (name : Name) : Prop :=
  ∃ stem : Name, stem ≠ [] ∧ name = stem ++ Path.dot :: Name.ofString extension

theorem Path.extensionOf?_eq_ofString_iff {name : Name} {extension : String}
    (proper : name.IsProper) :
    extensionOf? name = some (Name.ofString extension) ↔
      name.EndsIn extension ∧ '.' ∉ extension.toList := by
  rw [extensionOf?_eq_some_iff proper]
  exact and_congr_right fun _ => not_congr (Utf8.mem_toList_toUTF8_iff (c := '.') (by decide))

variable {fs : FileSystem} {name : Name} {location : Location}

theorem Migration.mem_scriptNames_iff_endsIn (tree : fs.Treelike) {directory : Path}
    (resolved : fs.resolve directory = .ok location) (file : fs.FileAt (location ++ [name]))
    (isText : (Utf8.text? name).isSome) (extension : String) :
    name ∈ scriptNames fs directory location extension ↔
      name.EndsIn extension ∧ '.' ∉ extension.toList ∧
        (directory.child name).bytes.length < FileSystem.pathLimit := by
  obtain ⟨node, present, isFile⟩ := file
  have proper := (tree.proper present name (by simp)).1
  have unlinked : ∀ target, node ≠ .link target := by
    rintro target rfl
    cases isFile
  have leads := tree.isFile_child_iff resolved present unlinked
  rw [mem_scriptNames_iff_isScript tree, ← and_assoc, ← Path.extensionOf?_eq_ofString_iff proper]
  constructor
  · intro script
    exact ⟨script.extended, (leads.mp script.file).2⟩
  · rintro ⟨extended, short⟩
    exact ⟨⟨node, present⟩, leads.mpr ⟨isFile, short⟩, extended, isText⟩

theorem Discovery.mem_find_iff_endsIn (tree : fs.Treelike) {discovery : Discovery} {root : Path}
    {paths : List Path} {directories : List Name} (resolved : fs.resolve root = .ok location)
    (considered : discovery.Considers fs root location directories name)
    (found : discovery.find fs root = .ok paths) :
    (directories ++ [name]).foldl Path.child root ∈ paths ↔
      ∃ extension ∈ discovery.extensions, name.EndsIn extension ∧ '.' ∉ extension.toList := by
  have proper := considered.proper tree
  have extended : (∃ extension ∈ discovery.extensions,
      Path.extensionOf? name = some (Name.ofString extension)) ↔
      ∃ extension ∈ discovery.extensions, name.EndsIn extension ∧ '.' ∉ extension.toList :=
    exists_congr fun extension => and_congr_right fun _ =>
      Path.extensionOf?_eq_ofString_iff (proper name (by simp))
  rw [mem_find_iff_wants tree resolved found, ← extended]
  constructor
  · rintro ⟨others, other, wanted, same⟩
    -- Names below the directory are known by their path, so it is this file that is wanted.
    have same := Path.eq_of_components_foldl_child proper (wanted.proper tree)
      (congrArg Path.components same)
    obtain ⟨rfl, rfl⟩ := List.append_singleton_inj.mp same
    exact wanted.extended
  · intro has
    exact ⟨directories, name, ⟨considered, has⟩, rfl⟩

/-- **Which files the configured extensions choose.** In a tree of files, a file in the directory of
the scripts whose name is text is one of those to be loaded exactly if its name ends in a dot and
the configured extension, there is no dot in that extension and the file's path is not too long. A
file below the directory of the sources that is left to the search is found exactly if its name ends
in a dot and one of the configured extensions in which there is no dot, unless directories are in
the way of the search. -/
theorem Settings.extensions_choose_iff (tree : fs.Treelike) (settings : Settings) :
    (∀ {directory : Path} {location : Location} {name : Name},
      fs.resolve directory = .ok location →
      fs.FileAt (location ++ [name]) → (Utf8.text? name).isSome →
      Migration.load fs directory settings.migrationExtension =
          (Migration.scriptNames fs directory location settings.migrationExtension).mapM
            (Migration.readScript fs directory) ∧
        (name ∈ Migration.scriptNames fs directory location settings.migrationExtension ↔
          name.EndsIn settings.migrationExtension ∧ '.' ∉ settings.migrationExtension.toList ∧
            (directory.child name).bytes.length < FileSystem.pathLimit)) ∧
    (∀ {skip : List Path} {root : Path} {around : Location} {directories : List Name} {name : Name},
      fs.resolve root = .ok around →
      (Source.discovery settings skip).Considers fs root around directories name →
      (∀ names fault, ¬ (Source.discovery settings skip).Obstructs fs around names fault) →
      ∃ paths, (Source.discovery settings skip).find fs root = .ok paths ∧
        ((directories ++ [name]).foldl Path.child root ∈ paths ↔
          ∃ extension ∈ settings.extensions, name.EndsIn extension ∧ '.' ∉ extension.toList)) := by
  constructor
  · intro directory location name resolved file isText
    obtain ⟨_, present, -⟩ := id file
    have opened := tree.opened_of_below (List.cons_ne_nil name []) present
    have listed : fs.listingFault? location = none := by
      rw [FileSystem.listingFault?, opened]
      rfl
    exact ⟨Migration.load_eq_mapM resolved (.of_directory opened) listed _,
      Migration.mem_scriptNames_iff_endsIn tree resolved file isText _⟩
  · intro skip root around directories name resolved considered unobstructed
    obtain ⟨_, present, -⟩ := considered.file
    have opened := tree.opened_of_below (List.append_ne_nil_of_right_ne_nil _ (by simp)) present
    obtain ⟨paths, found⟩ := Discovery.exists_find_of_unobstructed tree resolved
      (.of_directory opened) unobstructed
    exact ⟨paths, found, Discovery.mem_find_iff_endsIn tree resolved considered found⟩

/-- A directory `/p` with a script and a source file whose names have two dots each. -/
def FileSystem.twoDots : FileSystem where
  nodes :=
    [([.ofString "p"], .directory), ([.ofString "p", .ofString "1.up.sql"], .file .empty),
      ([.ofString "p", .ofString "a.gen.ts"], .file .empty)]

/-- By default both files are chosen, since what follows their last dots is `sql` and `ts`. -/
theorem Settings.extensions_choose_iff_of_two_dots :
    FileSystem.twoDots.Treelike ∧
      .ofString "1.up.sql" ∈ Migration.scriptNames .twoDots (.ofString "/p") [.ofString "p"]
        (migrationExtension {}) ∧
      ∃ paths, (Source.discovery {} []).find .twoDots (.ofString "/p") = .ok paths ∧
        .ofString "/p/a.gen.ts" ∈ paths := by
  have tree : FileSystem.twoDots.Treelike := by decide +kernel
  have resolved : FileSystem.twoDots.resolve (.ofString "/p") = .ok [.ofString "p"] := by
    decide +kernel
  obtain ⟨scripts, sources⟩ := extensions_choose_iff tree {}
  have file : FileSystem.twoDots.FileAt ([.ofString "p"] ++ [.ofString "1.up.sql"]) := by
    decide +kernel
  have considered : (Source.discovery {} []).Considers .twoDots (.ofString "/p") [.ofString "p"] []
      (.ofString "a.gen.ts") := ⟨by decide +kernel, by simp, by simp [Source.discovery]⟩
  have listed := tree.listingFault?_eq_none (by simp [FileSystem.twoDots, Node.listingFault?])
  obtain ⟨paths, found, isFound⟩ := sources resolved considered fun names fault obstructs => by
    cases (listed _).symm.trans obstructs.faulty
  refine ⟨tree, (scripts resolved file (by decide +kernel)).2.mpr ?_, paths, found, ?_⟩
  · exact ⟨⟨.ofString "1.up", by decide +kernel, by decide +kernel⟩, by decide +kernel,
      by decide +kernel⟩
  · have named : ([] ++ [Name.ofString "a.gen.ts"]).foldl Path.child (.ofString "/p") =
        .ofString "/p/a.gen.ts" := by decide +kernel
    rw [← named]
    exact isFound.mpr ⟨"ts", by decide +kernel, ⟨.ofString "a.gen", by decide +kernel,
      by decide +kernel⟩, by decide +kernel⟩

/-- The extension `up.sql` is accepted, the script's name ends in it, and it chooses nothing. -/
theorem Settings.extension_chooses_none :
    fault? { database := { migrationExtension := some "up.sql" } } = none ∧
      Name.EndsIn (migrationExtension { database := { migrationExtension := some "up.sql" } })
        (.ofString "1.up.sql") ∧
      FileSystem.twoDots.isFile (.ofString "/p/1.up.sql") ∧
      Migration.load .twoDots (.ofString "/p")
        (migrationExtension { database := { migrationExtension := some "up.sql" } }) = .ok [] := by
  exact ⟨by decide +kernel, ⟨.ofString "1", by decide +kernel, by decide +kernel⟩,
    by decide +kernel, by decide +kernel⟩

end TypedQueries
