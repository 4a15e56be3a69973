import TypedQueries.Proofs.FileSystem.Moments
import TypedQueries.Proofs.FileSystem.Spelling

/-! # The module at one stroke

The module is written to a temporary file, which then takes its place. Up to this stroke, whoever
looks for the module finds what was there before (`FileSystem.Undisturbed`), and a failure at
whatever step leaves it there (`Output.write_at_one_stroke`).
-/

namespace TypedQueries

namespace Output

/-- A file lies in its directory, unless this is where all paths begin. -/
theorem liesIn_or_eq_dot (path : Path) :
    Output.directory path = ⟨[Path.dot]⟩ ∨ Output.directory path = ⟨[Path.slash]⟩ ∨
      path.LiesIn (Output.directory path) := by
  rw [Output.directory]
  cases found : path.parent? with
  | none => exact .inl rfl
  | some parent =>
      dsimp only
      split
      · exact .inl rfl
      next inside =>
      by_cases root : parent.bytes = [Path.slash]
      · exact .inr (.inl (congrArg Path.mk root))
      · exact .inr (.inr (Path.liesIn_of_parent? found (by simpa using inside) root))

end Output

namespace FileSystem

variable {fs made now : FileSystem} {path : Path} {node : Node} {unnamed : SystemFault}

theorem exists_fault_dot (fs : FileSystem) :
    ∃ fault, fs.makeDirectory ⟨[Path.dot]⟩ = (.error fault, fs) := by
  rw [makeDirectory]
  cases found : fs.spot .occupied ⟨[Path.dot]⟩ with
  | error fault => exact ⟨fault, rfl⟩
  | ok spot =>
      obtain ⟨entry, before, after, parts, -⟩ := exists_of_spot found
      have single : [[Path.dot]] = before ++ spot.name :: after := parts
      cases before with
      | nil => exact absurd (List.cons.inj single).1.symm entry.not_dot
      | cons first before => simp at single

/-- That directories were made on the way to a path. -/
def Prepares (fs : FileSystem) (path : Path) (made : FileSystem) : Prop :=
  fs.Makes (ancestry (Output.directory path).bytes.length (Output.directory path)) made

namespace Prepares

theorem growsTo (prepares : fs.Prepares path made) : fs.GrowsTo made := Makes.growsTo prepares

/-- Either no directories are made, or all lie on the way to the path. -/
theorem eq_or_liesIn (prepares : fs.Prepares path made) :
    made = fs ∨ ∃ paths, fs.Makes paths made ∧ ∀ outer ∈ paths, path.LiesIn outer := by
  rw [Prepares] at prepares
  rcases Output.liesIn_or_eq_dot path with current | root | lies
  · rw [current] at prepares
    refine .inl (prepares.eq_of_refused fun outer member => ?_)
    rcases Path.eq_or_liesIn_of_mem_ancestry member with rfl | ⟨inside, further, bytes, -⟩
    · exact exists_fault_dot fs
    · have long := congrArg List.length bytes
      have short := List.length_pos_iff.mpr inside
      simp at long
      omega
  · rw [root] at prepares
    exact .inl (prepares.eq_of_refused fun outer member => nomatch member)
  · refine .inr ⟨_, prepares, fun outer member => ?_⟩
    rcases Path.eq_or_liesIn_of_mem_ancestry member with rfl | further
    · exact lies
    · exact lies.trans further

theorem eq_of_isDirectory (prepares : fs.Prepares path made)
    (isDirectory : fs.isDirectory (Output.directory path)) : made = fs :=
  Makes.eq_of_isDirectory prepares isDirectory

theorem at?_of_ok (prepares : fs.Prepares path made) (found : fs.at? path = .ok node) :
    made.at? path = .ok node :=
  at?_of_kept prepares.growsTo.here prepares.growsTo.kept found

/-- What a path leads to stays the same, if it does not lead up or its directory is there. -/
theorem at?_eq_ok_iff (prepares : fs.Prepares path made) (sound : fs.Sound)
    (settled : path.IsForward ∨ fs.isDirectory (Output.directory path)) :
    made.at? path = .ok node ↔ fs.at? path = .ok node := by
  rcases settled with forward | isDirectory
  · rcases prepares.eq_or_liesIn with rfl | ⟨paths, makes, lies⟩
    · rfl
    · exact makes.at?_eq_ok_iff sound forward lies
  · rw [prepares.eq_of_isDirectory isDirectory]

theorem node?_eq_of_spot (prepares : fs.Prepares path made) (sound : fs.Sound)
    (forward : path.IsForward) {spot : Spot} (found : made.spot unnamed path = .ok spot)
    (unslashed : spot.slashed = false) (name : Name) :
    made.node? (spot.directory ++ [name]) = fs.node? (spot.directory ++ [name]) := by
  rcases prepares.eq_or_liesIn with rfl | ⟨paths, makes, lies⟩
  · rfl
  · exact makes.node?_eq_of_spot sound forward lies found unslashed name

end Prepares

/-- That whoever looks for a file finds what was there before, and nothing else has been changed or
taken away: directories may have been made on the way, and there may be a temporary file. What was
not there is not found, but for the temporary file if the path leads to it, and for what a path
leads to that leads up from directories that were missing. -/
structure Undisturbed (fs : FileSystem) (path : Path) (now : FileSystem) : Prop where
  preserves : fs.Preserves now
  kept : ∀ {node : Node}, fs.at? path = .ok node → now.at? path = .ok node
  found : ∀ {node : Node}, now.at? path = .ok node → fs.at? path = .ok node ∨
    (∃ directory name, name.IsTemporary ∧ fs.node? (directory ++ [name]) = none ∧
      now.resolve path = .ok (directory ++ [name])) ∨
    ¬ path.IsForward ∧ ¬ fs.isDirectory (Output.directory path)

/-- That directories were made on the way to a path and there is a temporary file perhaps. -/
def Awaits (fs : FileSystem) (path : Path) (now : FileSystem) : Prop :=
  ∃ made, fs.Prepares path made ∧ (made.Matches now ∨
    ∃ temporary directory name content, made.HasTemporary temporary directory name content now)

theorem Awaits.undisturbed (awaits : fs.Awaits path now) (sound : fs.Sound) :
    fs.Undisturbed path now := by
  obtain ⟨made, prepares, pending⟩ := awaits
  have grows := prepares.growsTo
  have finds {node : Node} (found : made.at? path = .ok node) : fs.at? path = .ok node ∨
      ¬ path.IsForward ∧ ¬ fs.isDirectory (Output.directory path) := by
    by_cases settled : path.IsForward ∨ fs.isDirectory (Output.directory path)
    · exact .inl ((prepares.at?_eq_ok_iff sound settled).mp found)
    · exact .inr (not_or.mp settled)
  rcases pending with agrees | ⟨temporary, directory, name, content, holds⟩
  · refine ⟨(agrees.growsTo grows).preserves, fun found => ?_, fun found => ?_⟩
    · rw [agrees.at?_eq]
      exact prepares.at?_of_ok found
    · rw [agrees.at?_eq] at found
      exact (finds found).imp_right .inr
  · refine ⟨holds.preserves grows, fun found => ?_, fun found => ?_⟩
    · exact holds.at?_of_ok (prepares.at?_of_ok found)
    rcases holds.at?_or_resolve found with earlier | leadsTo
    · exact (finds earlier).imp_right .inr
    · refine .inr (.inl ⟨directory, name, holds.isTemporary, ?_, leadsTo⟩)
      cases before : fs.node? (directory ++ [name]) with
      | none => rfl
      | some node => cases holds.absent.symm.trans (grows.kept before)

end FileSystem

namespace Output

variable {fs made now : FileSystem} {path temporary : Path} {directory : Location}
  {name : Name} {text : String} {content part : ByteArray}
  {exchanges : List (Exchange Surroundings)} {result : Except OutputFailure Unit}

open FileSystem

/-- While a temporary file is put in the place of another, it is there up to the stroke; in the end
it is in the place of the other, or still there. -/
theorem keeps_replace (sound : made.Sound)
    (holds : made.HasTemporary temporary directory name part fs) :
    Keeps (fun now => ∃ part, made.HasTemporary temporary directory name part now)
      (fun result gs =>
        (∃ failure part, result = .error failure ∧
          made.HasTemporary temporary directory name part gs) ∨
        ∃ place, result = .ok () ∧ made.Replaces path place content gs)
      fs (Output.replace temporary path content) := by
  refine .ask (fun now during => during.exists_hasTemporary holds) fun reply filled fills => ?_
  obtain ⟨part, holds, isContent⟩ := fills.exists_of_fill holds
  cases reply with
  | error fault => exact .done (.inl ⟨_, part, rfl, holds⟩)
  | ok _ =>
  obtain rfl := isContent rfl
  refine .ask (fun now during => ?_) fun reply synced syncs => ?_
  · cases during
    exact ⟨part, holds⟩
  obtain rfl := syncs.eq_of_sync
  cases reply with
  | error fault => exact .done (.inl ⟨_, part, rfl, holds⟩)
  | ok _ =>
  refine .ask (fun now during => ?_) fun reply renamed renames => ?_
  · cases during
    exact ⟨part, holds⟩
  cases reply with
  | error fault =>
      obtain rfl := renames.eq_of_failed_rename
      exact .done (.inl ⟨_, part, rfl, holds⟩)
  | ok _ =>
      obtain ⟨place, replaces⟩ := renames.exists_replaces holds sound
      exact .done (.inr ⟨place, rfl, replaces⟩)

/-- Up to the stroke there may be new directories and a temporary file. A file that is not written
leaves no more than such directories in the end; one that is written is in its place. -/
theorem keeps_write (sound : fs.Sound) (path : Path) (text : String) :
    Keeps (fs.Awaits path)
      (fun result gs =>
        (∃ failure made, result = .error failure ∧ fs.Prepares path made ∧ made.Matches gs) ∨
        ∃ made place, result = .ok () ∧ fs.Prepares path made ∧
          made.Replaces path place text.toUTF8 gs)
      fs (Output.write path text) := by
  refine .ask (fun now during => ?_) fun reply made makes => ?_
  · cases during with
    | before => exact ⟨fs, .start, .inl (.refl fs)⟩
    | making makes => exact ⟨now, makes, .inl (.refl now)⟩
  have prepares : fs.Prepares path made := makes.makes _ rfl
  have soundToo : made.Sound := prepares.growsTo.sound sound
  cases reply with
  | error fault => exact .done (.inl ⟨_, made, rfl, prepares, .refl made⟩)
  | ok _ =>
  refine .ask (fun now during => ?_) fun reply begun begins => ?_
  · cases during
    exact ⟨made, prepares, .inl (.refl made)⟩
  cases reply with
  | error fault =>
      obtain rfl := begins.eq_of_failed_makeTemporary
      exact .done (.inl ⟨_, begun, rfl, prepares, .refl begun⟩)
  | ok temporary =>
  obtain ⟨directory, name, holds⟩ := begins.exists_hasTemporary
  have awaits (now : FileSystem)
      (pending : ∃ part, made.HasTemporary temporary directory name part now) :
      fs.Awaits path now :=
    ⟨made, prepares, .inr ⟨_, _, _, pending⟩⟩
  have replacing : Keeps (fs.Awaits path) _ begun (replace temporary path text.toUTF8) :=
    (keeps_replace soundToo holds).weaken awaits
  refine replacing.bind fun outcome left replaced => ?_
  rcases replaced with ⟨failure, part, rfl, holds⟩ | ⟨place, rfl, replaces⟩
  · refine .ask (fun now during => ?_) fun reply discarded discards => ?_
    · cases during
      exact awaits left ⟨part, holds⟩
    · exact .done (.inl ⟨failure, made, rfl, prepares, discards.matches_of_discard holds soundToo⟩)
  · exact .done (.inr ⟨made, place, rfl, prepares, replaces⟩)

/-- Up to the stroke the file awaits the new text. -/
theorem passes_write (sound : fs.Sound) (runs : (Output.write path text).Runs exchanges result)
    (passes : fs.Passes exchanges now) :
    fs.Awaits path now ∨ result = .ok () ∧ fs.Comes exchanges now := by
  have keeps := keeps_write sound path text
  rcases keeps.passes runs passes with awaits | comes
  · exact .inl awaits
  rcases keeps.comes runs comes with ⟨_, made, -, prepares, agrees⟩ | ⟨_, _, succeeds, -⟩
  · exact .inl ⟨made, prepares, .inl agrees⟩
  · exact .inr ⟨succeeds, comes⟩

/-- **A module is written at one stroke.** However a step fails, and at every moment: up to the
stroke with which the writing succeeds, directories have been made on the way to the file and there
is a temporary file perhaps, and whoever looks for the file finds what was there before. If it
fails, nothing is new in the end but directories on the way to the file, and what there was is still
found. If it succeeds, the new text is all that has changed but for such directories: it is in the
place of the file, and is read there unless the path leads through a link which was in that place.
A path that led to a file before does not. -/
theorem write_at_one_stroke (path : Path) (text : String) {fs : FileSystem}
    {exchanges : List (Exchange Surroundings)} {result : Except OutputFailure Unit}
    (sound : fs.Sound) (runs : (Output.write path text).Runs exchanges result) :
    (∀ now, fs.Passes exchanges now →
      fs.Awaits path now ∧ fs.Undisturbed path now ∨
        result = .ok () ∧ fs.Comes exchanges now) ∧
    ∀ gs, fs.Comes exchanges gs →
      (∀ failure, result = .error failure →
        (∃ made, fs.Prepares path made ∧ made.Matches gs) ∧
        fs.GrowsTo gs ∧
        (fs.isDirectory (Output.directory path) → gs.node? = fs.node?) ∧
        (∀ node, fs.at? path = .ok node → gs.at? path = .ok node) ∧
        (path.IsForward ∨ fs.isDirectory (Output.directory path) →
          ∀ node, gs.at? path = .ok node → fs.at? path = .ok node)) ∧
      (result = .ok () → ∃ made place,
        fs.Prepares path made ∧
        fs.GrowsTo made ∧
        (fs.isDirectory (Output.directory path) → made = fs) ∧
        made.Replaces path place text.toUTF8 gs ∧
        (path.IsForward → ∀ name, name ≠ place.name →
          gs.node? (place.directory ++ [name]) = fs.node? (place.directory ++ [name])) ∧
        (fs.isFile path ∨ (∀ target, made.node? place.location ≠ some (.link target)) →
          gs.read path = .ok text.toUTF8) ∧
        (gs.read path = .ok text.toUTF8 ↔
          (made.erase place.location).spot .busy path = .ok place)) := by
  refine ⟨fun now passes => ?_, fun gs comes => ⟨?_, ?_⟩⟩
  · exact (passes_write sound runs passes).imp_left fun awaits => ⟨awaits, awaits.undisturbed sound⟩
  · rintro failure rfl
    obtain ⟨_, made, -, prepares, agrees⟩ | ⟨_, _, failed, -⟩ :=
      (keeps_write sound path text).comes runs comes
    · rw [agrees.at?_eq]
      refine ⟨⟨made, prepares, agrees⟩, agrees.growsTo prepares.growsTo, fun isDirectory => ?_,
        fun _ => prepares.at?_of_ok, fun settled node => (prepares.at?_eq_ok_iff sound settled).mp⟩
      rw [agrees.node?, prepares.eq_of_isDirectory isDirectory]
    · cases failed
  · rintro rfl
    obtain ⟨_, _, failed, -⟩ | ⟨made, place, -, prepares, replaces⟩ :=
      (keeps_write sound path text).comes runs comes
    · cases failed
    · have soundToo : made.Sound := prepares.growsTo.sound sound
      refine ⟨made, place, prepares, prepares.growsTo, prepares.eq_of_isDirectory, replaces, ?_, ?_,
        replaces.read_eq_ok_iff soundToo⟩
      · intro forward name differs
        rw [replaces.adds.elsewhere (by simpa [Spot.location] using differs)]
        exact prepares.node?_eq_of_spot sound forward replaces.spot replaces.unslashed name
      · rintro (isFile | unlinked)
        · exact replaces.read_of_isFile soundToo (isFile_of_at? isFile fun _ => prepares.at?_of_ok)
        · exact replaces.read_of_unlinked soundToo unlinked

/-- A directory with a file in it. -/
def writtenBefore : FileSystem where
  nodes :=
    [([.ofString "src"], .directory),
      ([.ofString "src", .ofString "types.ts"], .file "first".toUTF8)]

/-- Whoever reads the file while it is written again reads the first text or the second. -/
theorem write_at_one_stroke_again :
    writtenBefore.Sound ∧ ∃ exchanges,
      (Output.write (.ofString "src/types.ts") "second").Runs exchanges (.ok ()) ∧
      (∃ gs, writtenBefore.Comes exchanges gs) ∧
      (∀ now, writtenBefore.Passes exchanges now →
        now.read (.ofString "src/types.ts") = .ok "first".toUTF8 ∨
          now.read (.ofString "src/types.ts") = .ok "second".toUTF8) ∧
      ∀ gs, writtenBefore.Comes exchanges gs →
        gs.read (.ofString "src/types.ts") = .ok "second".toUTF8 := by
  have sound : writtenBefore.Sound := sound_of_nodes (by decide +kernel)
  obtain ⟨exchanges, runs, comes⟩ := Simulation.World.exists_comes
    (Output.write (.ofString "src/types.ts") "second") { files := writtenBefore }
  have succeeds : (((Output.write (.ofString "src/types.ts") "second").interpret
      Simulation.World.answer).run { files := writtenBefore }).1 = .ok () := by decide +kernel
  rw [succeeds] at runs
  obtain ⟨moments, ends⟩ := write_at_one_stroke (.ofString "src/types.ts") "second" sound runs
  have written {gs : FileSystem} (comes : writtenBefore.Comes exchanges gs) :
      gs.read (.ofString "src/types.ts") = .ok "second".toUTF8 := by
    obtain ⟨_, _, _, _, _, _, _, reads, _⟩ := (ends gs comes).2 rfl
    exact reads (.inl (by decide +kernel))
  refine ⟨sound, exchanges, runs, ⟨_, comes⟩, fun now passes => ?_, fun gs => written⟩
  rcases moments now passes with ⟨-, undisturbed⟩ | ⟨-, comes⟩
  · have before : writtenBefore.read (.ofString "src/types.ts") = .ok "first".toUTF8 := by
      decide +kernel
    rw [read_eq_ok_iff_at?] at before
    refine .inl ?_
    rw [read_eq_ok_iff_at?]
    exact undisturbed.kept before
  · exact .inr (written comes)

/-- A file beside a directory, and a link to the directory. -/
def besideLink : FileSystem where
  nodes :=
    [([.ofString "d"], .directory), ([.ofString "a"], .link (.ofString "/d")),
      ([.ofString "old.ts"], .file "old".toUTF8)]

/-- A text that is written to a path which leads through a link in the place of the file is not read
there in the end. On the way to a path that leads up from a missing directory, this directory is
made: then what is at the path is found, where nothing was before, and the directory stays. -/
theorem not_at_one_stroke_through_links_and_up :
    besideLink.Sound ∧
    (∃ exchanges gs, (Output.write (.ofString "a/../a") "new").Runs exchanges (.ok ()) ∧
      besideLink.Comes exchanges gs ∧ gs.read (.ofString "a/../a") = .error .notDirectory) ∧
    ∃ exchanges now gs, (Output.write (.ofString "new/../old.ts") "new").Runs exchanges (.ok ()) ∧
      besideLink.Passes exchanges now ∧ besideLink.Comes exchanges gs ∧
      besideLink.read (.ofString "new/../old.ts") = .error .missing ∧
      now.read (.ofString "new/../old.ts") = .ok "old".toUTF8 ∧
      besideLink.node? [.ofString "new"] = none ∧
      gs.node? [.ofString "new"] = some .directory := by
  refine ⟨sound_of_nodes (by decide +kernel), ?_, ?_⟩
  · obtain ⟨exchanges, runs, comes⟩ := Simulation.World.exists_comes
      (Output.write (.ofString "a/../a") "new") { files := besideLink }
    have succeeds : (((Output.write (.ofString "a/../a") "new").interpret
        Simulation.World.answer).run { files := besideLink }).1 = .ok () := by decide +kernel
    exact ⟨exchanges, _, succeeds ▸ runs, comes, by decide +kernel⟩
  · obtain ⟨exchanges, runs, comes⟩ := Simulation.World.exists_comes
      (Output.write (.ofString "new/../old.ts") "new") { files := besideLink }
    have succeeds : (((Output.write (.ofString "new/../old.ts") "new").interpret
        Simulation.World.answer).run { files := besideLink }).1 = .ok () := by decide +kernel
    rw [succeeds] at runs
    obtain ⟨reply, later, rfl, -⟩ := runs.exists_of_request
    refine ⟨_, _, _, runs, .within (.making (.makeAll besideLink _)), comes, ?_⟩
    decide +kernel

end Output

end TypedQueries
