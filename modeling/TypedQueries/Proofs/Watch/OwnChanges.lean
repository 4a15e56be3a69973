import TypedQueries.Proofs.Module.AtOneStroke
import TypedQueries.Proofs.Settings.Extensions
import TypedQueries.Watch.Filter

/-! # Changes that a run makes itself

While a module is written, the changed files are the module and a temporary file
(`Output.ensures_files_write`). The name of the temporary file has no extension, and every
spelling of the module leads to the module, so that none of them counts as a change
(`ChangeFilter.own_changes_do_not_count`).
-/

namespace TypedQueries

open FileSystem

/-- The files that are made, filled, renamed, replaced or removed. -/
def Exchange.files (exchange : Exchange Surroundings) : List Path :=
  match exchange with
  | ⟨.makeTemporary _, .ok temporary⟩ => [temporary]
  | ⟨.fill path _, _⟩ => [path]
  | ⟨.sync path, _⟩ => [path]
  | ⟨.rename source target, _⟩ => [source, target]
  | ⟨.discard path, _⟩ => [path]
  | _ => []

/-- That a name is the mark of temporary files followed by letters and digits. -/
def Name.IsMarked (name : Name) : Prop :=
  ∃ rest, name = temporaryMark ++ rest ∧ ∀ byte ∈ rest, (Char.ofNat byte.toNat).isAlphanum

theorem Name.IsMarked.extensionOf?_eq_none {name : Name} (marked : name.IsMarked) :
    Path.extensionOf? name = none := by
  obtain ⟨rest, rfl, letters⟩ := marked
  have dotless : Path.dot ∉ [0x74, 0x6d, 0x70] ++ rest := by
    refine List.not_mem_append (by decide) fun member => ?_
    exact absurd (letters _ member) (by decide)
  have parts : Path.splitAtDot (temporaryMark ++ rest) = some ([], [0x74, 0x6d, 0x70] ++ rest) := by
    rw [temporaryMark_eq]
    exact Path.splitAtDot_append [] dotless
  rw [Path.extensionOf?, parts]
  split <;> rfl

theorem Path.fileName?_of_spot {fs : FileSystem} {unnamed : SystemFault} {path : Path}
    {directory : Location} {name : Name}
    (found : fs.spot unnamed path = .ok ⟨directory, name, false⟩) : path.fileName? = some name := by
  obtain ⟨entry, before, parts, -⟩ := spot_eq_ok_iff.mp found
  have last : [name].filterMap component? = [.normal name] :=
    List.filterMap_cons_some (component?_of_isEntry entry)
  rw [fileName?, components, parts, List.filterMap_append, last, ← List.append_assoc,
    List.getLast?_concat]

namespace Output

variable {fs gs now : FileSystem} {path temporary file : Path} {text : String}
  {exchange : Exchange Surroundings} {exchanges : List (Exchange Surroundings)}
  {result : Except OutputFailure Unit}

/-- Nothing is changed but two files when one takes the place of the other. -/
theorem ensures_files_replace (temporary path : Path) (content : ByteArray) :
    (replace temporary path content).Ensures fun exchanges _ =>
      ∀ exchange ∈ exchanges, exchange.files ⊆ [temporary, path] := by
  have single : [temporary] ⊆ [temporary, path] := List.cons_subset_cons _ (List.nil_subset _)
  refine .forall_mem_ask (fun _ => single) fun filled => ?_
  cases filled with
  | error fault => exact nofun
  | ok _ =>
  refine .forall_mem_ask (fun _ => single) fun synced => ?_
  cases synced with
  | error fault => exact nofun
  | ok _ =>
  refine .forall_mem_ask (fun _ => List.Subset.refl _) fun renamed => ?_
  cases renamed <;> exact nofun

/-- No file is changed while a module is written where no temporary file is made, and where one is,
no others than it and the module. -/
theorem ensures_files_write (path : Path) (text : String) :
    (write path text).Ensures fun exchanges _ =>
      (∀ exchange ∈ exchanges, exchange.files = []) ∨
        ∃ temporary, ⟨.makeTemporary (Output.directory path), .ok temporary⟩ ∈ exchanges ∧
          ∀ exchange ∈ exchanges, exchange.files ⊆ [temporary, path] := by
  intro directed
  cases directed with
  | error fault => exact .inl (List.forall_mem_singleton.mpr rfl)
  | ok _ =>
  intro begun
  cases begun with
  | error fault => exact .inl (List.forall_mem_cons.mpr ⟨rfl, List.forall_mem_singleton.mpr rfl⟩)
  | ok temporary =>
  have single : [temporary] ⊆ [temporary, path] := List.cons_subset_cons _ (List.nil_subset _)
  have replacing := ensures_files_replace temporary path text.toUTF8
  refine (Activity.Ensures.forall_mem_bind replacing ?_).mono fun later _ rest => ?_
  · rintro (failure | _)
    · exact .forall_mem_ask (fun _ => single) fun _ => nofun
    · exact nofun
  · exact .inr ⟨temporary, .tail _ (.head _), List.forall_mem_cons.mpr
      ⟨List.nil_subset _, List.forall_mem_cons.mpr ⟨single, rest⟩⟩⟩

theorem eq_or_mem_of_mem_files (runs : (Output.write path text).Runs exchanges result)
    (member : exchange ∈ exchanges) (changed : file ∈ exchange.files) :
    file = path ∨ ⟨.makeTemporary (Output.directory path), .ok file⟩ ∈ exchanges := by
  rcases (ensures_files_write path text).of_runs runs with none | ⟨temporary, made, both⟩
  · rw [none exchange member] at changed
    cases changed
  · rcases List.mem_pair.mp (both exchange member changed) with rfl | rfl
    · exact .inr made
    · exact .inl rfl

/-- A module that is there is there after it is written again. -/
theorem isFile_of_comes (sound : fs.Sound) (isFile : fs.isFile path)
    (runs : (Output.write path text).Runs exchanges result) (comes : fs.Comes exchanges gs) :
    gs.isFile path := by
  obtain ⟨_, made, -, prepares, agrees⟩ | ⟨made, place, -, prepares, replaces⟩ :=
    (keeps_write sound path text).comes runs comes
  · refine isFile_of_at? isFile fun node found => ?_
    rw [agrees.at?_eq]
    exact prepares.at?_of_ok found
  · have before := isFile_of_at? isFile fun _ => prepares.at?_of_ok
    exact isFile_of_read (replaces.read_of_isFile (prepares.growsTo.sound sound) before)

/-- A module that is there is there while it is written again. -/
theorem isFile_of_passes (sound : fs.Sound) (isFile : fs.isFile path)
    (runs : (Output.write path text).Runs exchanges result) (passes : fs.Passes exchanges now) :
    now.isFile path := by
  rcases passes_write sound runs passes with awaits | ⟨-, comes⟩
  · exact isFile_of_at? isFile fun _ => (awaits.undisturbed sound).kept
  · exact isFile_of_comes sound isFile runs comes

/-- What is exchanged when nothing fails. -/
def faultless (path : Path) (text : String) (temporary : Path) : List (Exchange Surroundings) :=
  [⟨.makeDirectories (Output.directory path), .ok ()⟩,
    ⟨.makeTemporary (Output.directory path), .ok temporary⟩,
    ⟨.fill temporary text.toUTF8, .ok ()⟩, ⟨.sync temporary, .ok ()⟩,
    ⟨.rename temporary path, .ok ()⟩]

theorem runs_faultless (path : Path) (text : String) (temporary : Path) :
    (Output.write path text).Runs (faultless path text temporary) (.ok ()) :=
  .ask (.ask (.ask (.ask (.ask .done))))

theorem eq_of_mem_faultless {around other : Path}
    (member : ⟨.makeTemporary around, .ok other⟩ ∈ faultless path text temporary) :
    other = temporary := by
  rcases List.mem_cons.mp member with same | afterDirectories
  · cases same
  rcases List.mem_cons.mp afterDirectories with same | afterTemporary
  · cases same
    rfl
  rcases List.mem_cons.mp afterTemporary with same | afterFill
  · cases same
  rcases List.mem_cons.mp afterFill with same | afterSync
  · cases same
  · cases List.mem_singleton.mp afterSync

end Output

namespace ChangeFilter

variable {fs : FileSystem} {path : Path} {name : Name}

/-- Temporary files do not count. -/
theorem not_isRelevant_of_marked (filter : ChangeFilter) (named : path.fileName? = some name)
    (marked : name.IsMarked) : filter.isRelevant fs path = false := by
  have extension : path.extension? = none := by
    rw [Path.extension?, named]
    exact marked.extensionOf?_eq_none
  have unextended : path.hasExtension filter.extensions = false := by
    rw [Path.hasExtension, extension]
  rw [isRelevant, unextended, Bool.false_and, Bool.false_and]

/-- No spelling of the module counts. -/
theorem not_isRelevant_of_spells (filter : ChangeFilter) (isFile : fs.isFile filter.output)
    (spells : fs.Spells filter.output path) : filter.isRelevant fs path = false := by
  obtain ⟨location, resolved, resolvedToo⟩ := spells.exists_resolve isFile
  have isOutput : filter.isOutput fs path = true := by
    rw [ChangeFilter.isOutput, canonical?, canonical?, resolved, resolvedToo]
    exact Bool.or_eq_true_iff.mpr (.inr (beq_self_eq_true _))
  rw [isRelevant, isOutput, Bool.not_true, Bool.and_false, Bool.false_and]

/-- **A run does not call for another.** Where the module is there, it is there at every moment
while it is written again and afterwards. And wherever it is there, no file that is changed in order
to write it counts, in whatever spelling and with whatever extensions: neither the module nor the
temporary file, if this is named by its mark and letters and digits. -/
theorem own_changes_do_not_count (root : Path) (settings : Settings) (text : String)
    {fs : FileSystem} {exchanges : List (Exchange Surroundings)}
    {result : Except OutputFailure Unit} (sound : fs.Sound)
    (isFile : fs.isFile (settings.outputPath root))
    (runs : (Output.write (settings.outputPath root) text).Runs exchanges result)
    (marked : ∀ directory temporary,
      ⟨.makeTemporary directory, .ok temporary⟩ ∈ exchanges →
        ∃ name, temporary.fileName? = some name ∧ name.IsMarked) :
    (∀ now, fs.Passes exchanges now ∨ fs.Comes exchanges now →
      now.isFile (settings.outputPath root)) ∧
    ∀ now, now.isFile (settings.outputPath root) →
      ∀ exchange ∈ exchanges, ∀ file ∈ exchange.files, ∀ path, now.Spells file path →
        (ChangeFilter.of root settings).isRelevant now path = false := by
  constructor
  · rintro now (passes | comes)
    · exact Output.isFile_of_passes sound isFile runs passes
    · exact Output.isFile_of_comes sound isFile runs comes
  · intro now there exchange member file changed path spells
    rcases Output.eq_or_mem_of_mem_files runs member changed with rfl | made
    · exact not_isRelevant_of_spells (.of root settings) there spells
    · obtain ⟨name, named, isMarked⟩ := marked _ file made
      obtain ⟨directory, last, found, foundToo, -⟩ := spells
      have same := (Path.fileName?_of_spot found).symm.trans named
      exact not_isRelevant_of_marked _
        ((Path.fileName?_of_spot foundToo).trans same) isMarked

/-- A project with its module, and a link to the project. -/
def linkedToWritten : FileSystem where
  nodes :=
    [([.ofString "p"], .directory), ([.ofString "p", .ofString "src"], .directory),
      ([.ofString "p", .ofString "src", .ofString "sqltype.generated.ts"], .file .empty),
      ([.ofString "link"], .link (.ofString "/p"))]

/-- What is changed by way of the link does not count where it is seen without the link. -/
theorem own_changes_do_not_count_through_link :
    linkedToWritten.Sound ∧ linkedToWritten.isFile (Settings.outputPath {} (.ofString "/link")) ∧
      ∃ temporary exchanges,
        (Output.write (Settings.outputPath {} (.ofString "/link")) "").Runs exchanges (.ok ()) ∧
        ⟨.makeTemporary (.ofString "/link/src"), .ok temporary⟩ ∈ exchanges ∧
        linkedToWritten.Spells temporary (.ofString "/p/src/.tmp000000") ∧
        (ChangeFilter.of (.ofString "/link") {}).isRelevant linkedToWritten
          (.ofString "/p/src/.tmp000000") = false ∧
        ⟨.rename temporary (Settings.outputPath {} (.ofString "/link")), .ok ()⟩ ∈ exchanges ∧
        linkedToWritten.Spells (Settings.outputPath {} (.ofString "/link"))
          (.ofString "/p/src/sqltype.generated.ts") ∧
        (ChangeFilter.of (.ofString "/link") {}).isRelevant linkedToWritten
          (.ofString "/p/src/sqltype.generated.ts") = false := by
  have sound : linkedToWritten.Sound := sound_of_nodes (by decide +kernel)
  have isFile : linkedToWritten.isFile (Settings.outputPath {} (.ofString "/link")) := by
    decide +kernel
  let temporary : Path := .ofString "/link/src/.tmp000000"
  let output := Settings.outputPath {} (.ofString "/link")
  have directory : Output.directory output = .ofString "/link/src" := by decide +kernel
  have runs := Output.runs_faultless output "" temporary
  have made : ⟨.makeTemporary (.ofString "/link/src"), .ok temporary⟩ ∈
      Output.faultless output "" temporary := directory ▸ .tail _ (.head _)
  have renamed : ⟨.rename temporary output, .ok ()⟩ ∈ Output.faultless output "" temporary :=
    .tail _ (.tail _ (.tail _ (.tail _ (.head _))))
  have absent : (linkedToWritten.node? [.ofString "p", .ofString "src",
      .ofString ".tmp000000"]).isNone := by decide +kernel
  have spelled : linkedToWritten.Spells temporary (.ofString "/p/src/.tmp000000") :=
    ⟨[.ofString "p", .ofString "src"], .ofString ".tmp000000", by decide +kernel,
      by decide +kernel, .inl fun target isLink =>
        nomatch (Option.isNone_iff_eq_none.mp absent).symm.trans isLink⟩
  have spelledToo : linkedToWritten.Spells output (.ofString "/p/src/sqltype.generated.ts") :=
    ⟨[.ofString "p", .ofString "src"], .ofString "sqltype.generated.ts", by decide +kernel,
      by decide +kernel, .inr (by decide +kernel)⟩
  have marked : ∀ around other, ⟨.makeTemporary around, .ok other⟩ ∈
      Output.faultless output "" temporary →
      ∃ name, other.fileName? = some name ∧ name.IsMarked := by
    intro around other member
    obtain rfl := Output.eq_of_mem_faultless member
    exact ⟨.ofString ".tmp000000", by decide +kernel, .ofString "000000", by decide +kernel,
      by decide +kernel⟩
  obtain ⟨-, ignores⟩ := own_changes_do_not_count (.ofString "/link") {} "" sound isFile runs marked
  exact ⟨sound, isFile, temporary, _, runs, made, spelled,
    ignores _ isFile _ made temporary (.head _) _ spelled, renamed, spelledToo,
    ignores _ isFile _ renamed output (.tail _ (.head _)) _ spelledToo⟩

end ChangeFilter

end TypedQueries
