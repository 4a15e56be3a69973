import Mathlib.Data.List.Forall2
import TypedQueries.Generation
import TypedQueries.Proofs.Path.Order

/-! # What a run reads

Migrations are loaded in the order of their files' names (`Migration.inNameOrder_of_load`) and
sources are found in the order of their paths (`Discovery.pairwise_find`). Pieces of work that
may fail are collected as a whole or not at all, in whatever order they are finished
(`Source.eq_of_collect_eq_ok`, `Source.mem_of_collect_eq_error`).
-/

namespace TypedQueries

section Pieces

variable {ε α β γ : Type}

theorem exists_of_bind_eq_ok {first : Except ε α} {further : α → Except ε β} {result : β}
    (succeeded : first >>= further = .ok result) :
    ∃ value, first = .ok value ∧ further value = .ok result := by
  cases first with
  | error failure => cases succeeded
  | ok value => exact ⟨value, rfl, succeeded⟩

theorem exists_of_map_eq_ok {piece : Except ε α} {f : α → β} {result : β}
    (succeeded : piece.map f = .ok result) : ∃ value, piece = .ok value ∧ f value = result := by
  cases piece with
  | error failure => cases succeeded
  | ok value => exact ⟨value, rfl, Except.ok.inj succeeded⟩

theorem eq_error_of_map_eq_error {piece : Except ε α} {f : α → β} {failure : ε}
    (failed : piece.map f = .error failure) : piece = .error failure := by
  cases piece with
  | error other => exact congrArg Except.error (Except.error.inj failed)
  | ok value => cases failed

theorem exists_of_isOk_eq_false {piece : Except ε α} (failed : piece.isOk = false) :
    ∃ failure, piece = .error failure := by
  cases piece with
  | error failure => exact ⟨failure, rfl⟩
  | ok value => cases failed

variable {work other : α → Except ε β} {pieces : List α}

theorem mapM_congr_left (same : ∀ piece ∈ pieces, work piece = other piece) :
    pieces.mapM work = pieces.mapM other := by
  induction pieces with
  | nil => rfl
  | cons piece pieces ih =>
      obtain ⟨first, rest⟩ := List.forall_mem_cons.mp same
      rw [List.mapM_cons, List.mapM_cons, first, ih rest]

/-- All pieces of work have results if each has its own. -/
theorem mapM_eq_ok_iff {results : List β} :
    pieces.mapM work = .ok results ↔
      List.Forall₂ (fun piece result => work piece = .ok result) pieces results := by
  induction pieces generalizing results with
  | nil =>
      rw [List.forall₂_nil_left_iff]
      constructor
      · intro collected
        exact (Except.ok.inj collected).symm
      · rintro rfl
        rfl
  | cons piece pieces ih =>
      rw [List.mapM_cons, List.forall₂_cons_left_iff]
      constructor
      · intro collected
        obtain ⟨result, first, collected⟩ := exists_of_bind_eq_ok collected
        obtain ⟨others, rest, collected⟩ := exists_of_bind_eq_ok collected
        exact ⟨result, others, first, ih.mp rest, (Except.ok.inj collected).symm⟩
      · rintro ⟨result, others, first, rest, rfl⟩
        rw [first, ih.mpr rest]
        rfl

/-- The failure of pieces of work is that of the first that fails. -/
theorem exists_first_of_mapM_eq_error {failure : ε} (failed : pieces.mapM work = .error failure) :
    ∃ before piece after, pieces = before ++ piece :: after ∧
      (∀ earlier ∈ before, ∃ result, work earlier = .ok result) ∧ work piece = .error failure := by
  induction pieces with
  | nil => cases failed
  | cons piece pieces ih =>
      rw [List.mapM_cons] at failed
      cases first : work piece with
      | error other =>
          rw [first] at failed
          cases failed
          exact ⟨[], piece, pieces, rfl, by simp, first⟩
      | ok result =>
          cases rest : pieces.mapM work with
          | error other =>
              rw [first, rest] at failed
              cases failed
              obtain ⟨before, failing, after, rfl, succeeded, failed⟩ := ih rest
              exact ⟨piece :: before, failing, after, rfl,
                List.forall_mem_cons.mpr ⟨⟨result, first⟩, succeeded⟩, failed⟩
          | ok others => rw [first, rest] at failed; cases failed

/-- The results of pieces of work stand in the order of the pieces: what a result has in common
with its piece, the results have in common with the pieces. -/
theorem map_eq_of_mapM_eq_ok {results : List β} {view : β → γ} {key : α → γ}
    (collected : pieces.mapM work = .ok results)
    (agrees : ∀ piece result, work piece = .ok result → view result = key piece) :
    results.map view = pieces.map key := by
  have each := mapM_eq_ok_iff.mp collected
  clear collected
  induction each with
  | nil => rfl
  | cons first rest ih => rw [List.map_cons, List.map_cons, agrees _ _ first, ih]

theorem mem_map_of_mapM_eq_error {failure : ε} (failed : pieces.mapM work = .error failure) :
    .error failure ∈ pieces.map work := by
  obtain ⟨before, piece, after, rfl, -, first⟩ := exists_first_of_mapM_eq_error failed
  exact List.mem_map.mpr ⟨piece, by simp, first⟩

end Pieces

namespace Migration

/-- That migrations come from files of a directory in the order of the files' names. -/
def InNameOrder (directory : Path) (migrations : List Migration) : Prop :=
  ∃ names : List Name,
    migrations.map (fun migration => (migration.name, migration.path)) =
      names.map (fun name => (Utf8.display name, directory.child name)) ∧
    names.Pairwise fun earlier later => nameLE earlier later

variable {fs : FileSystem} {directory : Path} {extension : String} {name : Name}

/-- A file has the name of a script if it is a file with the extension and its name is text. -/
theorem isSome_scriptName?_iff :
    (scriptName? fs directory extension name).isSome ↔
      fs.isFile (directory.child name) ∧
        (directory.child name).extension? = some (Name.ofString extension) ∧
        (Utf8.text? name).isSome := by
  rw [scriptName?]
  split
  next chosen =>
    rw [Bool.and_eq_true, decide_eq_true_eq] at chosen
    simp [chosen]
  next rejected =>
    rw [Bool.and_eq_true, decide_eq_true_eq] at rejected
    simp only [Option.isSome_none, Bool.false_eq_true, false_iff]
    rintro ⟨file, extended, -⟩
    exact rejected ⟨file, extended⟩

theorem exists_of_readScript_eq_ok {script : Migration}
    (succeeded : readScript fs directory name = .ok script) :
    ∃ sql, fs.readText (directory.child name) = .ok sql ∧
      script = ⟨Utf8.display name, directory.child name, sql⟩ := by
  rw [readScript] at succeeded
  cases read : fs.readText (directory.child name) with
  | error fault => simp [read] at succeeded
  | ok sql =>
      simp only [read, Except.ok.injEq] at succeeded
      exact ⟨sql, rfl, succeeded.symm⟩

theorem name_path_of_readScript {migration : Migration}
    (read : readScript fs directory name = .ok migration) :
    (migration.name, migration.path) = (Utf8.display name, directory.child name) := by
  obtain ⟨sql, -, rfl⟩ := exists_of_readScript_eq_ok read
  rfl

theorem exists_of_load {scripts : List Migration}
    (loaded : load fs directory extension = .ok scripts) :
    fs.isDirectory directory ∧ ∃ location, fs.resolve directory = .ok location ∧
      fs.listingFault? location = none ∧
      (scriptNames fs directory location extension).mapM (readScript fs directory) =
        .ok scripts := by
  unfold load at loaded
  split at loaded
  next isDirectory =>
    cases resolved : fs.resolve directory with
    | error fault => simp [resolved] at loaded
    | ok location =>
        simp only [resolved] at loaded
        split at loaded
        · cases loaded
        · next listed => exact ⟨isDirectory, location, rfl, listed, loaded⟩
  next => cases loaded

theorem inNameOrder_of_load {migrations : List Migration}
    (loaded : load fs directory extension = .ok migrations) :
    InNameOrder directory migrations := by
  obtain ⟨-, location, -, -, collected⟩ := exists_of_load loaded
  exact ⟨scriptNames fs directory location extension,
    map_eq_of_mapM_eq_ok collected fun _ _ => name_path_of_readScript,
    pairwise_mergeSort_isLE Path.compareComponents.compareNames _⟩

end Migration

theorem Path.hasExtension_iff {path : Path} {extensions : List String} :
    path.hasExtension extensions ↔
      ∃ extension ∈ extensions, path.extension? = some (Name.ofString extension) := by
  rw [hasExtension]
  cases path.extension? with
  | none => simp
  | some extension =>
      simp only [List.any_eq_true, decide_eq_true_eq, Option.some.injEq]
      exact exists_congr fun wanted => and_congr_right fun _ => eq_comm

namespace Discovery

variable {discovery : Discovery} {fs : FileSystem} {root : Path} {paths : List Path}

theorem exists_of_find (found : discovery.find fs root = .ok paths) :
    ∃ around, fs.resolve root = .ok around ∧ discovery.obstacles fs root around = [] ∧
      paths = (((fs.below around).filterMap (discovery.reach? root)).filter fun path =>
        path.hasExtension discovery.extensions && !discovery.skips fs path).mergeSort Path.le := by
  unfold find at found
  split at found
  · cases resolved : fs.resolve root with
    | error fault => simp [resolved] at found
    | ok around =>
        simp only [resolved] at found
        split at found
        · cases found
        · next unobstructed => exact ⟨around, rfl, unobstructed, (Except.ok.inj found).symm⟩
  · cases found

/-- Sources are found in the order of their paths. -/
theorem pairwise_find (found : discovery.find fs root = .ok paths) :
    paths.Pairwise fun earlier later => earlier.le later := by
  obtain ⟨around, -, -, rfl⟩ := exists_of_find found
  exact pairwise_mergeSort_isLE Path.compare _

end Discovery

namespace Source

variable {ε α : Type} {finished : List Nat} {pieces : List (Except ε α)}

/-- Pieces of work are collected only if all succeeded. -/
theorem eq_of_collect_eq_ok {results : List α} (collected : collect finished pieces = .ok results) :
    pieces = results.map .ok := by
  unfold collect at collected
  split at collected
  · cases collected
  · rw [map_eq_of_mapM_eq_ok collected fun _ _ same => same.symm, List.map_id]

/-- Whichever worker finished first, the failure is that of a piece of work. -/
theorem mem_of_collect_eq_error {failure : ε} (failed : collect finished pieces = .error failure) :
    .error failure ∈ pieces := by
  unfold collect at failed
  split at failed
  · rename_i first found
    cases failed
    obtain ⟨piece, -, isFailure⟩ := List.exists_of_findSome?_eq_some found
    obtain ⟨result, present, same⟩ := Option.bind_eq_some_iff.mp isFailure
    cases result with
    | ok value => cases same
    | error other =>
        cases same
        exact List.mem_of_getElem? present
  · rw [← List.map_id pieces]
    exact mem_map_of_mapM_eq_error failed

section ScanAll

variable [Grammars] {settings : Settings} {fs : FileSystem} {paths : List Path}

/-- A scan that fails does so at one of the files. -/
theorem exists_unread_of_scanAll {failure : Failure}
    (failed : scanAll settings finished (parseAll settings fs paths) = .error failure) :
    ∃ path ∈ paths, parseFile fs path settings.maxFileSize = .error failure := by
  have collected := eq_error_of_map_eq_error failed
  obtain ⟨path, member, unread⟩ := List.mem_map.mp (mem_of_collect_eq_error collected)
  exact ⟨path, member, eq_error_of_map_eq_error unread⟩

theorem parsed_of_parseAll {parsed : List (Path × ParsedSource)}
    (read : parseAll settings fs paths = parsed.map .ok) :
    parsed.map Prod.fst = paths ∧
      ∀ file ∈ parsed, parseFile fs file.1 settings.maxFileSize = .ok file.2 := by
  induction paths generalizing parsed with
  | nil =>
      obtain rfl := List.map_eq_nil_iff.mp read.symm
      exact ⟨rfl, fun _ member => (List.not_mem_nil member).elim⟩
  | cons path paths ih =>
      cases parsed with
      | nil => cases read
      | cons file parsed =>
          obtain ⟨first, rest⟩ := List.cons.inj read
          obtain ⟨source, readFirst, rfl⟩ := exists_of_map_eq_ok first
          obtain ⟨order, others⟩ := ih rest
          exact ⟨by rw [List.map_cons, order], List.forall_mem_cons.mpr ⟨readFirst, others⟩⟩

/-- A scan that succeeds has read every file, and keeps the files in their order. -/
theorem read_of_scanAll {scanned : List (Path × FileScan)}
    (complete : scanAll settings finished (parseAll settings fs paths) = .ok scanned) :
    scanned.map Prod.fst = paths ∧ ∀ file ∈ scanned, ∃ parsed,
      parseFile fs file.1 settings.maxFileSize = .ok parsed ∧
        file.2 = extract settings.method file.1 parsed.tree := by
  obtain ⟨parsed, collected, rfl⟩ := exists_of_map_eq_ok complete
  obtain ⟨order, read⟩ := parsed_of_parseAll (eq_of_collect_eq_ok collected)
  refine ⟨by rw [List.map_map]; exact order, fun file member => ?_⟩
  obtain ⟨source, present, rfl⟩ := List.exists_of_mem_map member
  exact ⟨source.2, read source present, rfl⟩

end ScanAll

end Source

end TypedQueries
