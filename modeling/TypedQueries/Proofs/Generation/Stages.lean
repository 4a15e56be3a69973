import TypedQueries.Proofs.Generation.Action
import TypedQueries.Proofs.Generation.Inputs
import TypedQueries.Proofs.Source.Calls

/-! # The stages of a run

What is seen of each stage and how it ends: applying the scripts (`Applying`), scanning the
sources (`Scanning`), describing the queries (`Describing`) and writing the module (`Writing`).
Each stage goes on up to its first failure; nothing of it is seen after that but the removal of
a temporary file.
-/

namespace TypedQueries

theorem eraseDups_of_nodup {texts : List String} (distinct : texts.Nodup) :
    texts.eraseDups = texts := by
  induction texts with
  | nil => rfl
  | cons text texts ih =>
      obtain ⟨absent, distinct⟩ := List.nodup_cons.mp distinct
      have kept : texts.filter (fun other => !other == text) = texts := by
        refine List.filter_eq_self.mpr fun other member => ?_
        rw [Bool.not_eq_true', beq_eq_false_iff_ne]
        exact fun same => absent (same ▸ member)
      rw [List.eraseDups_cons, kept, ih distinct]

namespace QueryDescriptions

variable {descriptions : QueryDescriptions} {sql : String}

theorem contains_iff : descriptions.contains sql ↔ sql ∈ descriptions.texts := by
  rw [contains, texts, List.any_eq_true, List.mem_map]
  simp only [beq_iff_eq]

theorem entries_insert (new : ¬ descriptions.contains sql) (description : QueryDescription) :
    (descriptions.insert sql description).entries =
      descriptions.entries ++ [(sql, description)] := by
  rw [insert, dif_neg new]

theorem texts_insert (new : ¬ descriptions.contains sql) (description : QueryDescription) :
    (descriptions.insert sql description).texts = descriptions.texts ++ [sql] := by
  rw [texts, entries_insert new, List.map_append]
  rfl

theorem eraseDups_texts : descriptions.texts.eraseDups = descriptions.texts :=
  eraseDups_of_nodup descriptions.distinct

/-- A text that is described adds nothing to the distinct texts. -/
theorem eraseDups_texts_append_of_contains (known : descriptions.contains sql)
    (further : List String) :
    (descriptions.texts ++ sql :: further).eraseDups =
      (descriptions.texts ++ further).eraseDups := by
  rw [List.eraseDups_append, List.eraseDups_append, List.cons_removeAll,
    List.contains_iff_mem.mpr (contains_iff.mp known), if_neg (by decide)]

/-- A new text is the next of the distinct texts. -/
theorem eraseDups_texts_append_of_not_contains (new : ¬ descriptions.contains sql)
    (further : List String) :
    ∃ after, (descriptions.texts ++ sql :: further).eraseDups =
      descriptions.texts ++ sql :: after := by
  have absent : descriptions.texts.contains sql = false := by
    rw [← Bool.not_eq_true, List.contains_iff_mem, ← contains_iff]
    exact new
  rw [List.eraseDups_append, eraseDups_texts, List.cons_removeAll, if_pos absent,
    List.eraseDups_cons]
  exact ⟨_, rfl⟩

end QueryDescriptions

namespace Generation

/-- Scripts applied, each announced with its place among so many in all. -/
def applied (total : Nat) (scripts : List Migration) : List Action :=
  scripts.zipIdx.flatMap fun script =>
    [.probed ⟨.apply script.1, .ok ()⟩,
      .heard (.migrationApplied script.1.name script.2 total)]

/-- Scripts are applied and announced in their order up to the first that fails. -/
inductive Applying (scripts : List Migration) : List Action → Except DatabaseFailure Unit → Prop
  | all : Applying scripts (applied scripts.length scripts) (.ok ())
  | stopped {before after : List Migration} {script : Migration} {failure : DatabaseFailure}
      (split : scripts = before ++ script :: after) :
      Applying scripts
        (applied scripts.length before ++ [.probed ⟨.apply script, .error failure⟩])
        (.error failure)

/-- Sources are looked for and read; when all of them could be, they are announced in the order
of their paths, each with the number of its calls whose text is known. -/
inductive Scanning [Grammars] (settings : Settings) (directory : Path) (skip : List Path) :
    List Action → Except Failure Sources → Prop
  | notFound {files : FileSystem} {failure : SourceFailure}
      (search : (Source.discovery settings skip).find files directory = .error failure) :
      Scanning settings directory skip [.surveyed files] (.error (.source failure))
  | unfinished {files : FileSystem} {paths : List Path} {detail : String}
      (search : (Source.discovery settings skip).find files directory = .ok paths) :
      Scanning settings directory skip [.surveyed files, .stopped detail]
        (.error (.source (.unfinished detail)))
  | notRead {files : FileSystem} {paths : List Path} {path : Path} {failure : Failure}
      (search : (Source.discovery settings skip).find files directory = .ok paths)
      (member : path ∈ paths)
      (unread : Source.parseFile files path settings.maxFileSize = .error failure) :
      Scanning settings directory skip [.surveyed files] (.error failure)
  | all {files : FileSystem} {paths : List Path}
      (search : (Source.discovery settings skip).find files directory = .ok paths)
      (ordered : paths.Pairwise fun earlier later => earlier.le later)
      (read : ∀ path ∈ paths, (Source.parseFile files path settings.maxFileSize).isOk) :
      Scanning settings directory skip
        (.surveyed files ::
          paths.map fun path =>
            .heard (.fileScanned path (Source.knownTexts settings files path).length))
        (.ok ⟨files, paths⟩)

/-- Queries described, each announced with the size of its description. -/
def described (entries : List (String × QueryDescription)) : List Action :=
  entries.flatMap fun entry =>
    [.probed ⟨.describe entry.1, .ok entry.2⟩,
      .heard (.queryDescribed entry.1 entry.2.parameters.length entry.2.columns.length)]

/-- Texts are described and announced in their order up to the first that fails. -/
inductive Describing (texts : List String) :
    List Action → Except DatabaseFailure QueryDescriptions → Prop
  | all {descriptions : QueryDescriptions} (complete : descriptions.texts = texts) :
      Describing texts (described descriptions.entries) (.ok descriptions)
  | stopped {entries : List (String × QueryDescription)} {sql : String} {after : List String}
      {failure : DatabaseFailure} (split : texts = entries.map Prod.fst ++ sql :: after) :
      Describing texts (described entries ++ [.probed ⟨.describe sql, .error failure⟩])
        (.error failure)

/-- A temporary file is filled, synced and put in the place of another, up to the first of these
that fails. -/
inductive Replacing (temporary path : Path) (content : ByteArray) :
    List Action → Except OutputFailure Unit → Prop
  | notFilled {fault : SystemFault} :
      Replacing temporary path content [.changed ⟨.fill temporary content, .error fault⟩]
        (.error (.notWritten path fault))
  | notSynced {fault : SystemFault} :
      Replacing temporary path content
        [.changed ⟨.fill temporary content, .ok ()⟩, .changed ⟨.sync temporary, .error fault⟩]
        (.error (.notWritten path fault))
  | notReplaced {fault : SystemFault} :
      Replacing temporary path content
        [.changed ⟨.fill temporary content, .ok ()⟩, .changed ⟨.sync temporary, .ok ()⟩,
          .changed ⟨.rename temporary path, .error fault⟩]
        (.error (.notReplaced path fault))
  | all :
      Replacing temporary path content
        [.changed ⟨.fill temporary content, .ok ()⟩, .changed ⟨.sync temporary, .ok ()⟩,
          .changed ⟨.rename temporary path, .ok ()⟩]
        (.ok ())

/-- The directory of the module and a temporary file in it are made, and the file takes the
place of the module; if it does not, it is removed. -/
inductive Writing (path : Path) (text : String) : List Action → Except OutputFailure Unit → Prop
  | noDirectory {fault : SystemFault} :
      Writing path text [.changed ⟨.makeDirectories (Output.directory path), .error fault⟩]
        (.error (.noDirectory (Output.directory path) fault))
  | noTemporary {fault : SystemFault} :
      Writing path text
        [.changed ⟨.makeDirectories (Output.directory path), .ok ()⟩,
          .changed ⟨.makeTemporary (Output.directory path), .error fault⟩]
        (.error (.notWritten path fault))
  | removed {temporary : Path} {actions : List Action} {failure : OutputFailure}
      (replacing : Replacing temporary path text.toUTF8 actions (.error failure)) :
      Writing path text
        ([.changed ⟨.makeDirectories (Output.directory path), .ok ()⟩,
          .changed ⟨.makeTemporary (Output.directory path), .ok temporary⟩] ++ actions ++
            [.changed ⟨.discard temporary, ()⟩])
        (.error failure)
  | all {temporary : Path} {actions : List Action}
      (replacing : Replacing temporary path text.toUTF8 actions (.ok ())) :
      Writing path text
        ([.changed ⟨.makeDirectories (Output.directory path), .ok ()⟩,
          .changed ⟨.makeTemporary (Output.directory path), .ok temporary⟩] ++ actions)
        (.ok ())

theorem applied_append_singleton (total : Nat) (before : List Migration) (script : Migration) :
    applied total (before ++ [script]) = applied total before ++
      [.probed ⟨.apply script, .ok ()⟩,
        .heard (.migrationApplied script.name before.length total)] := by
  simp [applied, List.zipIdx_append]

theorem described_append_singleton (entries : List (String × QueryDescription)) (sql : String)
    (description : QueryDescription) :
    described (entries ++ [(sql, description)]) = described entries ++
      [.probed ⟨.describe sql, .ok description⟩,
        .heard (.queryDescribed sql description.parameters.length description.columns.length)] := by
  simp [described]

namespace Shows

variable {observers : Nat}

/-- After the scripts before them, the remaining scripts are applied from where those end. -/
theorem applyFrom (before remaining : List Migration) :
    Shows observers
      (Probe.applyFrom observers (before ++ remaining).length before.length remaining)
      fun actions outcome =>
        Applying (before ++ remaining) (applied (before ++ remaining).length before ++ actions)
          outcome := by
  induction remaining generalizing before with
  | nil =>
      rw [List.append_nil]
      exact done (by rw [List.append_nil]; exact .all)
  | cons script remaining ih =>
      refine bind (probe (.apply script)) ?_
      rintro _ reply rfl
      cases reply with
      | error failure => exact done (.stopped rfl)
      | ok _ =>
          have later := ih (before ++ [script])
          have place : (before ++ [script]).length = before.length + 1 := by
            rw [List.length_append, List.length_singleton]
          rw [place, List.append_assoc, List.singleton_append, applied_append_singleton] at later
          simp only [List.append_assoc] at later
          have announced : Shows observers
              (Activity.onLeft do
                Surroundings.log (Probe.appliedRecord script)
                Surroundings.announce observers (.migrationApplied script.name before.length
                  (before ++ script :: remaining).length))
              fun actions _ => actions = [.heard (.migrationApplied script.name before.length
                (before ++ script :: remaining).length)] := by
            refine onLeft_bind (unseen fun _ _ => rfl) ?_
            rintro _ _ rfl
            exact announce _
          refine bind announced ?_
          rintro _ _ rfl
          exact later

theorem applyAll (scripts : List Migration) :
    Shows observers (Probe.applyAll observers scripts) (Applying scripts) :=
  applyFrom [] scripts

/-- With some texts described, those of the further texts that are new are described. -/
theorem describeFrom (descriptions : QueryDescriptions) (texts : List String) :
    Shows observers (Probe.describeFrom observers descriptions texts) fun actions outcome =>
      Describing (descriptions.texts ++ texts).eraseDups
        (described descriptions.entries ++ actions) outcome := by
  induction texts generalizing descriptions with
  | nil =>
      refine done ?_
      rw [List.append_nil, List.append_nil, QueryDescriptions.eraseDups_texts]
      exact .all rfl
  | cons sql texts ih =>
      rw [Probe.describeFrom]
      split
      · next known =>
        rw [QueryDescriptions.eraseDups_texts_append_of_contains known]
        exact ih descriptions
      · next new =>
        refine bind (probe (.describe sql)) ?_
        rintro _ reply rfl
        cases reply with
        | error failure =>
            obtain ⟨after, split⟩ :=
              QueryDescriptions.eraseDups_texts_append_of_not_contains new texts
            exact done (.stopped split)
        | ok description =>
            have later := ih (descriptions.insert sql description)
            rw [QueryDescriptions.texts_insert new, QueryDescriptions.entries_insert new,
              List.append_assoc, List.singleton_append, described_append_singleton] at later
            simp only [List.append_assoc] at later
            refine bind (announce _) ?_
            rintro _ _ rfl
            exact later

theorem describeAll (texts : List String) :
    Shows observers (Probe.describeAll observers texts) (Describing texts.eraseDups) :=
  describeFrom .empty texts

/-- What is gathered in a scan is what the sources say. -/
theorem scan [Grammars] (settings : Settings) (directory : Path) (skip : List Path) :
    Shows observers (Activity.onLeft (Source.scan settings directory skip observers))
      fun actions outcome =>
        match outcome with
        | .error failure => Scanning settings directory skip actions (.error failure)
        | .ok scan =>
            ∃ sources, Scanning settings directory skip actions (.ok sources) ∧
              scan.Gathers settings sources := by
  unfold Source.scan
  refine onLeft_bind survey ?_
  rintro _ files rfl
  cases search : (Source.discovery settings skip).find files directory with
  | error failure => exact done (.notFound search)
  | ok paths =>
      refine onLeft_bind (unseen fun _ _ => rfl) ?_
      rintro _ _ rfl
      refine onLeft_bind (workers _) ?_
      rintro _ (detail | finished) rfl
      · exact done (.unfinished search)
      refine onLeft_bind (logAll _) ?_
      rintro _ _ rfl
      cases gathered : Source.scanAll settings finished
          (Source.parseAll settings files paths) with
      | error failure =>
          obtain ⟨path, member, unread⟩ := Source.exists_unread_of_scanAll gathered
          exact done (.notRead search member unread)
      | ok scanned =>
          refine onLeft_bind (announceAll _) ?_
          rintro _ _ rfl
          refine onLeft_bind (unseen fun _ _ => rfl) ?_
          rintro _ _ rfl
          obtain ⟨order, read⟩ := Source.read_of_scanAll gathered
          subst order
          have announced : scanned.map (fun file =>
                Action.heard (.fileScanned file.1 file.2.calls.length)) =
              (scanned.map Prod.fst).map fun path =>
                .heard (.fileScanned path (Source.knownTexts settings files path).length) := by
            rw [List.map_map]
            refine List.map_congr_left fun file member => ?_
            rw [SourceScan.length_calls_of_reads read member]
            rfl
          refine done ⟨_, ?_, SourceScan.gathers_ofFiles read⟩
          simp only [List.nil_append, List.append_nil, List.map_map]
          exact announced ▸
            .all search (Discovery.pairwise_find search) (SourceScan.isOk_of_reads read)

theorem replace (temporary path : Path) (content : ByteArray) :
    Shows observers (Activity.onLeft (Output.replace temporary path content))
      (Replacing temporary path content) := by
  unfold Output.replace
  refine onLeft_bind (change fun _ _ => rfl) ?_
  rintro _ (fault | _) rfl
  · exact done .notFilled
  refine onLeft_bind (change fun _ _ => rfl) ?_
  rintro _ (fault | _) rfl
  · exact done .notSynced
  refine onLeft_bind (change fun _ _ => rfl) ?_
  rintro _ (fault | _) rfl
  · exact done .notReplaced
  · exact done .all

theorem write (path : Path) (text : String) :
    Shows observers (Activity.onLeft (Output.write path text)) (Writing path text) := by
  unfold Output.write
  refine onLeft_bind (change fun _ _ => rfl) ?_
  rintro _ (fault | _) rfl
  · exact done .noDirectory
  refine onLeft_bind (change fun _ _ => rfl) ?_
  rintro _ (fault | temporary) rfl
  · exact done .noTemporary
  refine onLeft_bind (replace temporary path text.toUTF8) ?_
  rintro actions (failure | _) replacing
  · refine onLeft_bind (change fun _ _ => rfl) ?_
    rintro _ _ rfl
    exact done (.removed replacing)
  · refine done ?_
    rw [List.append_nil]
    exact .all replacing

end Shows

end Generation

end TypedQueries
