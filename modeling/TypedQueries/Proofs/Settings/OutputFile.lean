import TypedQueries.Proofs.FileSystem.Landing
import TypedQueries.Proofs.Text.Utf8
import TypedQueries.Settings

/-! # Where the configured output file lies

The last name of an accepted output path is that of a file unless it is `.` or `..`
(`Settings.output_names_file_iff`). If it is, the path leads back to a directory: to the one of the
project, to one around that, or to one that it has passed through (`Path.comesBack_of_endsInDots`),
and nothing can be put there. A path without `..` that names a file leads further down.
-/

namespace TypedQueries

namespace Path

variable {path : Path} {start place : Location} {names before : List Name} {name : Name}

/-- What stands after the last separator of a path. -/
def lastName (path : Path) : Name := (split path.bytes).getLast (split_ne_nil path.bytes)

/-- That a path ends in a name that leads to a directory. -/
def EndsInDots (path : Path) : Prop := path.lastName = [dot] ∨ path.lastName = [dot, dot]

instance (path : Path) : Decidable path.EndsInDots := inferInstanceAs (Decidable (_ ∨ _))

theorem split_eq_lastName (path : Path) : ∃ before, split path.bytes = before ++ [path.lastName] :=
  ⟨_, (List.dropLast_concat_getLast (split_ne_nil path.bytes)).symm⟩

theorem isProper_lastName_iff (nonempty : path.lastName ≠ []) :
    path.lastName.IsProper ↔ ¬ path.EndsInDots := by
  have member : path.lastName ∈ split path.bytes := List.getLast_mem _
  rw [EndsInDots, not_or]
  constructor
  · intro proper
    exact ⟨proper.not_dot, proper.not_dotDot⟩
  · rintro ⟨notDot, notDotDot⟩
    exact ⟨nonempty, notDot, notDotDot, unseparated_of_mem_split member⟩

theorem lastName_join (directory path : Path) : (directory.join path).lastName = path.lastName := by
  by_cases alone : path.isAbsolute || directory.bytes.isEmpty
  · rw [join, if_pos alone]
  · rw [Bool.or_eq_true, not_or, Bool.not_eq_true, List.isEmpty_iff] at alone
    obtain ⟨start, -, same⟩ := exists_join_eq alone.1 alone.2
    simp only [lastName, same, split_append_slash]
    rw [List.getLast_append_of_ne_nil]

theorem lastName_ne_nil {bytes : List UInt8} {last : UInt8} (other : last ≠ slash) :
    lastName ⟨bytes ++ [last]⟩ ≠ [] := by
  suffices ends : ∃ before name, split (bytes ++ [last]) = before ++ [name] ∧ name ≠ [] by
    obtain ⟨before, name, parts, nonempty⟩ := ends
    simpa [lastName, parts] using nonempty
  induction bytes with
  | nil => exact ⟨[], [last], by simp [split, other], List.cons_ne_nil _ _⟩
  | cons b bytes ih =>
      obtain ⟨before, name, parts, nonempty⟩ := ih
      rw [List.cons_append, split, parts]
      split
      · exact ⟨[] :: before, name, rfl, nonempty⟩
      · cases before with
        | nil => exact ⟨[], b :: name, rfl, List.cons_ne_nil _ _⟩
        | cons first before => exact ⟨(b :: first) :: before, name, rfl, nonempty⟩

/-- Where names lead from a location if there are no links on the way. -/
def landingOf (start : Location) (names : List Name) : Location :=
  (names.filterMap component?).foldl Component.step start

theorem landingOf_append (start : Location) (names others : List Name) :
    landingOf start (names ++ others) = landingOf (landingOf start names) others := by
  rw [landingOf, List.filterMap_append, List.foldl_append]
  rfl

theorem landingOf_silent (silent : name = [] ∨ name = [dot]) : landingOf start [name] = start := by
  rw [landingOf, List.filterMap_cons_none (component?_of_silent silent)]
  rfl

theorem landingOf_up (start : Location) : landingOf start [[dot, dot]] = start.dropLast := rfl

theorem landingOf_enter (loud : ¬ (name = [] ∨ name = [dot])) (further : name ≠ [dot, dot]) :
    landingOf start [name] = start ++ [name] := by
  have named : component? name = some (.normal name) := by
    rw [component?, if_neg (by simpa using loud), if_neg further]
  rw [landingOf, List.filterMap_cons_some named]
  rfl

theorem landing_join (here : Location) (directory path : Path) :
    (directory.join path).landing here =
      landingOf (if path.isAbsolute then [] else directory.landing here) (split path.bytes) := by
  by_cases rooted : path.isAbsolute
  · rw [join, if_pos (by simp [rooted]), landing_eq_foldl_split]
    simp only [rooted, if_true]
    rfl
  by_cases empty : directory.bytes = []
  · have same : directory.landing here = here := by
      rw [landing, components_of_empty empty]
      rfl
    rw [join, if_pos (by simp [empty]), landing_eq_foldl_split, same]
    rfl
  · rw [landing, components_join (by simpa using rooted) empty, List.foldl_append, if_neg rooted]
    rfl

/-- What is around the place to which names lead is around their start, or the names lead there
before. -/
theorem passed_of_prefix (within : place <+: landingOf start names) :
    place <+: start ∨ ∃ before, before <+: names ∧ place = landingOf start before := by
  induction names using List.reverseRecOn generalizing place with
  | nil => exact .inl within
  | append_singleton names name ih =>
      have earlier (within : place <+: landingOf start names) : place <+: start ∨
          ∃ before, before <+: names ++ [name] ∧ place = landingOf start before := by
        refine (ih within).imp_right fun ⟨before, first, same⟩ => ⟨before, ?_, same⟩
        exact first.trans (List.prefix_append names [name])
      -- Only a name that leads further down comes to a place that was not passed before.
      rw [landingOf_append] at within
      by_cases silent : name = [] ∨ name = [dot]
      · rw [landingOf_silent silent] at within
        exact earlier within
      by_cases up : name = [dot, dot]
      · rw [up, landingOf_up] at within
        exact earlier (within.trans (List.dropLast_prefix _))
      · rw [landingOf_enter silent up] at within
        rcases List.prefix_concat_iff.mp within with same | within
        · refine .inr ⟨names ++ [name], List.prefix_rfl, ?_⟩
          rw [landingOf_append, landingOf_enter silent up, same]
        · exact earlier within

/-- Names that do not lead up lead further down. -/
theorem prefix_landingOf (start : Location) (forward : [dot, dot] ∉ names) :
    start <+: landingOf start names := by
  induction names using List.reverseRecOn with
  | nil => exact List.prefix_rfl
  | append_singleton names name ih =>
      rw [List.mem_append, not_or, List.mem_singleton] at forward
      rw [landingOf_append]
      by_cases silent : name = [] ∨ name = [dot]
      · rw [landingOf_silent silent]
        exact ih forward.1
      · rw [landingOf_enter silent (Ne.symm forward.2)]
        exact (ih forward.1).trans (List.prefix_append _ _)

theorem landingOf_mono (start : Location) (within : before <+: names)
    (forward : [dot, dot] ∉ names) : landingOf start before <+: landingOf start names := by
  obtain ⟨rest, rfl⟩ := within
  rw [landingOf_append]
  exact prefix_landingOf _ fun up => forward (List.mem_append_right _ up)

theorem not_within_concat {further : Location} (within : place <+: further) :
    ¬ further ++ [name] <+: place := by
  intro back
  have longer := back.length_le
  have shorter := within.length_le
  rw [List.length_append, List.length_singleton] at longer
  omega

/-- That a path in a directory leads back to a directory: to this one or one around it, or to one
that it has passed through. -/
def ComesBack (here : Location) (directory path : Path) : Prop :=
  (directory.join path).landing here <+: directory.landing here ∨
    ∃ before after, split path.bytes = before ++ after ∧ after ≠ [] ∧
      (directory.join path).landing here =
        landingOf (if path.isAbsolute then [] else directory.landing here) before

theorem comesBack_of_endsInDots (dots : path.EndsInDots) (here : Location) (directory : Path) :
    ComesBack here directory path := by
  obtain ⟨before, parts⟩ := split_eq_lastName path
  rw [ComesBack, landing_join, parts]
  generalize isStart : (if path.isAbsolute then [] else directory.landing here) = start
  rw [landingOf_append]
  rcases dots with dots | dots
  · rw [dots, landingOf_silent (.inr rfl)]
    exact .inr ⟨before, [[dot]], rfl, List.cons_ne_nil _ _, rfl⟩
  rw [dots, landingOf_up]
  rcases passed_of_prefix (List.dropLast_prefix (landingOf start before)) with around | passed
  · by_cases rooted : path.isAbsolute
    -- The way of an absolute path begins at the root, which is around every directory.
    · rw [if_pos rooted] at isStart
      subst isStart
      exact .inl ((List.prefix_nil.mp around).symm ▸ List.nil_prefix)
    · rw [if_neg rooted] at isStart
      exact .inl (isStart ▸ around)
  · obtain ⟨earlier, ⟨rest, whole⟩, same⟩ := passed
    refine .inr ⟨earlier, rest ++ [[dot, dot]], ?_, by simp, same⟩
    rw [← whole, List.append_assoc]

/-- A path that does not lead up and ends in a name comes back only if it begins at the root. -/
theorem comesBack_iff_of_forward (nonempty : path.lastName ≠ []) (named : ¬ path.EndsInDots)
    (forward : [dot, dot] ∉ split path.bytes) (here : Location) (directory : Path) :
    ComesBack here directory path ↔
      path.isAbsolute ∧ (directory.join path).landing here <+: directory.landing here := by
  obtain ⟨before, parts⟩ := split_eq_lastName path
  have loud : ¬ (path.lastName = [] ∨ path.lastName = [dot]) := by
    rintro (empty | dots)
    · exact nonempty empty
    · exact named (.inl dots)
  have landing : (directory.join path).landing here =
      landingOf (if path.isAbsolute then [] else directory.landing here) before ++
        [path.lastName] := by
    rw [landing_join, parts, landingOf_append, landingOf_enter loud fun dots => named (.inr dots)]
  rw [parts, List.mem_append, not_or] at forward
  constructor
  · rintro (around | ⟨earlier, after, whole, inside, same⟩)
    · refine ⟨?_, around⟩
      by_contra relative
      rw [landing, if_neg relative] at around
      exact not_within_concat (prefix_landingOf _ forward.1) around
    · have within : earlier <+: before := by
        have within : earlier <+: before ++ [path.lastName] := ⟨after, whole.symm.trans parts⟩
        refine (List.prefix_concat_iff.mp within).resolve_left fun all => inside ?_
        rw [parts, ← all] at whole
        exact List.self_eq_append_right.mp whole
      have back := (List.append_nil _).trans (landing.symm.trans same)
      exact (not_within_concat (landingOf_mono _ within forward.1) ⟨[], back⟩).elim
  · rintro ⟨-, around⟩
    exact .inl around

end Path

/-- Nothing can be put where a path ends in a name that leads to a directory. -/
theorem FileSystem.rename_of_endsInDots {path : Path} (dots : path.EndsInDots) (fs : FileSystem)
    (source : Path) : ∃ fault, fs.rename source path = (.error fault, fs) := by
  -- A spot has the name of an entry, and only empty names can follow it.
  have nowhere (spot : Spot) : fs.spot .busy path ≠ .ok spot := by
    intro found
    obtain ⟨entry, before, after, parts, -, silent, -⟩ := exists_of_spot found
    have ends : (Path.split path.bytes).getLast? = some path.lastName :=
      List.getLast?_eq_some_getLast _
    rw [parts, List.getLast?_append_cons] at ends
    rcases List.mem_cons.mp (List.mem_of_getLast? ends) with last | last
    · rcases dots with dots | dots
      · exact entry.not_dot (last.symm.trans dots)
      · exact entry.not_dotDot (last.symm.trans dots)
    · rcases dots with dots | dots <;> cases dots.symm.trans (silent _ last)
  rw [rename]
  cases fs.resolve source with
  | error fault => exact ⟨fault, rfl⟩
  | ok location =>
      cases found : fs.spot .busy path with
      | error fault => exact ⟨fault, rfl⟩
      | ok spot => exact absurd found (nowhere spot)

namespace Settings

variable {settings : Settings}

theorem namesFile_of_accepted (accepted : settings.fault? = none) :
    namesFile settings.outputFile := by
  rw [fault?] at accepted
  split_ifs at accepted with _ _ _ unnamed
  simpa using unnamed

theorem lastName_ne_nil_of_namesFile {text : String} (named : namesFile text) :
    (Path.ofString text).lastName ≠ [] := by
  rw [namesFile] at named
  split at named
  · cases named
  next c last =>
    obtain ⟨bytes, b, member, all⟩ := Utf8.exists_toList_toUTF8_eq_concat last
    rw [Path.ofString, all]
    refine Path.lastName_ne_nil ?_
    rintro rfl
    have separator := (Utf8.mem_utf8EncodeChar_iff (by decide)).mp member
    have same : c = '/' := Char.toNat_inj.mp separator
    simp [same] at named

/-- **What an accepted output path names.** The last name of the output path is that of a file
exactly if the configured text does not end in the name `.` or `..`. If it does, the path leads back
to a directory, and in no file system can anything be put there. If it does not and has no name
`..`, the path comes back only if it is absolute and the project lies where it leads. -/
theorem output_names_file_iff (accepted : settings.fault? = none) (root : Path) :
    ((settings.outputPath root).lastName.IsProper ↔
      ¬ (Path.ofString settings.outputFile).EndsInDots) ∧
    ((Path.ofString settings.outputFile).EndsInDots →
      (∀ here, Path.ComesBack here root (.ofString settings.outputFile)) ∧
      ∀ (fs : FileSystem) (temporary : Path), ∃ fault,
        fs.rename temporary (settings.outputPath root) = (.error fault, fs)) ∧
    (¬ (Path.ofString settings.outputFile).EndsInDots →
      [Path.dot, Path.dot] ∉ Path.split (Path.ofString settings.outputFile).bytes →
      ∀ here, Path.ComesBack here root (.ofString settings.outputFile) ↔
        (Path.ofString settings.outputFile).isAbsolute ∧
          (settings.outputPath root).landing here <+: root.landing here) := by
  have nonempty := lastName_ne_nil_of_namesFile (namesFile_of_accepted accepted)
  have last : (settings.outputPath root).lastName = (Path.ofString settings.outputFile).lastName :=
    Path.lastName_join root _
  refine ⟨?_, fun dots => ⟨fun here => Path.comesBack_of_endsInDots dots here root,
    fun fs temporary => FileSystem.rename_of_endsInDots ?_ fs temporary⟩,
    fun named forward here => Path.comesBack_iff_of_forward nonempty named forward here root⟩
  · rw [last]
    exact Path.isProper_lastName_iff nonempty
  · rwa [Path.EndsInDots, last]

/-- By default the output path names a file and leads further down. -/
theorem output_names_file_by_default :
    fault? {} = none ∧ (outputPath {} (.ofString "/p")).lastName.IsProper ∧
      ∀ here, ¬ Path.ComesBack here (.ofString "/p") (.ofString (outputFile {})) := by
  have accepted : fault? {} = none := by decide +kernel
  have named : ¬ (Path.ofString (outputFile {})).EndsInDots := by decide +kernel
  obtain ⟨last, -, back⟩ := output_names_file_iff accepted (.ofString "/p")
  refine ⟨accepted, last.mpr named, fun here => ?_⟩
  rw [back named (by decide +kernel) here]
  exact fun rooted => absurd rooted.1 (by decide +kernel)

/-- The output path `src/..` is accepted and leads to the directory of the project. -/
theorem output_names_directory :
    fault? { output := { path := some "src/.." } } = none ∧
      (outputPath { output := { path := some "src/.." } } (.ofString "/p")).lastName =
        [Path.dot, Path.dot] ∧
      (outputPath { output := { path := some "src/.." } } (.ofString "/p")).landing [] =
        (Path.ofString "/p").landing [] := by
  decide +kernel

end Settings

end TypedQueries
