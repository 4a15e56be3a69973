import TypedQueries.Proofs.Generation.DistinctTexts
import TypedQueries.Proofs.Generation.Faultless

/-! # What a run comes to

The files, the settings and the replies of the probe say what a run finds, reads and is told
(`Generation.Forecast`), up to whether the module can be written. A run that succeeds has done what
they say (`Course.exists_forecast`), and whatever they say comes about in every run, in which only
writing the module can fail (`Forecast.exists_writing`).
-/

namespace TypedQueries

namespace Probe

variable {replies : List Migration → (request : Request) → Reply request}

theorem scriptsIn_map_apply (scripts : List Migration) :
    scriptsIn (scripts.map fun script => ⟨.apply script, .ok ()⟩) = scripts := by
  rw [scriptsIn, List.filterMap_map]
  exact List.filterMap_some

theorem scriptsIn_map_describe (entries : List (String × QueryDescription)) :
    scriptsIn (entries.map fun entry => ⟨.describe entry.1, .ok entry.2⟩) = [] := by
  rw [scriptsIn, List.filterMap_map]
  exact List.filterMap_eq_nil_iff.mpr fun _ _ => rfl

end Probe

namespace Generation

variable {root : Path} {settings : Settings} {fs gs : FileSystem} {actions : List Action}
  {replies : List Migration → (request : Probe.Request) → Probe.Reply request}

theorem probes_applied (total : Nat) (scripts : List Migration) :
    probes (applied total scripts) = scripts.map fun script => ⟨.apply script, .ok ()⟩ := by
  rw [probes, applied, List.filterMap_flatMap]
  conv_rhs => rw [← List.zipIdx_map_fst 0 scripts]
  rw [List.map_map, List.map_eq_flatMap]
  rfl

theorem probes_described (entries : List (String × QueryDescription)) :
    probes (described entries) =
      entries.map fun entry => ⟨.describe entry.1, .ok entry.2⟩ := by
  rw [probes, described, List.filterMap_flatMap, List.map_eq_flatMap]
  rfl

section Applying

variable {scripts : List Migration}

theorem Applying.granted (apply : Applying scripts actions (.ok ()))
    (answers : Probe.AnswersBy replies (probes actions)) :
    Probe.scriptsIn (probes actions) = scripts ∧
      ∀ before script after, scripts = before ++ script :: after →
        replies before (.apply script) = .ok () := by
  cases apply with
  | all =>
      rw [probes_applied] at answers ⊢
      refine ⟨Probe.scriptsIn_map_apply scripts, ?_⟩
      rintro before script after rfl
      rw [List.map_append, List.map_cons] at answers
      have reply := answers _ _ _ _ rfl Probe.Request.noConfusion
      rw [Probe.scriptsIn_map_apply] at reply
      exact reply.symm

theorem Applying.eq_ok {outcome : Except DatabaseFailure Unit}
    (apply : Applying scripts actions outcome)
    (answers : Probe.AnswersBy replies (probes actions))
    (granted : ∀ before script after, scripts = before ++ script :: after →
      replies before (.apply script) = .ok ()) : outcome = .ok () := by
  cases apply with
  | all => rfl
  | @stopped before after script failure split =>
      rw [probes_append, probes_applied] at answers
      have reply := answers _ (.apply script) _ _ rfl Probe.Request.noConfusion
      rw [Probe.scriptsIn_map_apply, granted before script after split] at reply
      cases reply

end Applying

section Scanning

variable [Grammars] {directory : Path} {skip : List Path} {paths : List Path}

/-- A scan whose workers do not stop comes to the sources that are found and can be read. -/
theorem Scanning.eq_ok {outcome : Except Failure Sources}
    (scan : Scanning settings directory skip actions outcome) (leads : Lead actions fs gs)
    (finishes : ∀ detail, .stopped detail ∉ actions)
    (search : (Source.discovery settings skip).find fs directory = .ok paths)
    (read : ∀ path ∈ paths, (Source.parseFile fs path settings.maxFileSize).isOk) :
    outcome = .ok ⟨fs, paths⟩ := by
  cases leads with
  | nil => cases scan
  | cons looks further =>
      cases scan with
      | notFound failed =>
          cases looks
          cases search.symm.trans failed
      | unfinished found => exact absurd (List.mem_cons_of_mem _ List.mem_cons_self) (finishes _)
      | notRead found member unread =>
          cases looks
          obtain rfl := Except.ok.inj (search.symm.trans found)
          have isRead := read _ member
          rw [unread] at isRead
          cases isRead
      | all found ordered readToo =>
          cases looks
          rw [Except.ok.inj (search.symm.trans found)]

end Scanning

section Describing

variable {texts : List String} {descriptions : QueryDescriptions}

theorem Describing.described (describe : Describing texts actions (.ok descriptions))
    (answers : Probe.AnswersBy replies (probes actions)) :
    descriptions.texts = texts ∧
      ∀ entry ∈ descriptions.entries, replies [] (.describe entry.1) = .ok entry.2 := by
  cases describe with
  | all complete =>
      refine ⟨complete, fun entry member => ?_⟩
      obtain ⟨before, after, parts⟩ := List.append_of_mem member
      rw [probes_described, parts, List.map_append, List.map_cons] at answers
      have reply := answers _ (.describe entry.1) _ _ rfl Probe.Request.noConfusion
      rw [Probe.scriptsIn_map_describe] at reply
      exact reply.symm

theorem Describing.eq_ok {outcome : Except DatabaseFailure QueryDescriptions}
    (describe : Describing texts actions outcome)
    (answers : Probe.AnswersBy replies (probes actions)) (complete : descriptions.texts = texts)
    (described : ∀ entry ∈ descriptions.entries, replies [] (.describe entry.1) = .ok entry.2) :
    outcome = .ok descriptions := by
  cases outcome with
  | ok others =>
      obtain ⟨completeToo, describedToo⟩ := describe.described answers
      rw [QueryDescriptions.eq_of_entries (eq_of_described (fun sql => replies [] (.describe sql))
        (completeToo.trans complete.symm) describedToo described)]
  | error failure =>
      cases describe with
      | @stopped entries sql after _ split =>
          rw [probes_append, probes_described] at answers
          have reply := answers _ (.describe sql) _ _ rfl Probe.Request.noConfusion
          have known : sql ∈ descriptions.texts := by
            rw [complete, split]
            exact List.mem_append_right _ List.mem_cons_self
          obtain ⟨entry, member, rfl⟩ := List.mem_map.mp known
          rw [Probe.scriptsIn_map_describe, described entry member] at reply
          cases reply

end Describing

/-- What a run comes to up to whether the module can be written: the scripts are loaded and all
applied, the sources found and read, and their texts described. -/
structure Forecast [Grammars] (root : Path) (settings : Settings)
    (replies : List Migration → (request : Probe.Request) → Probe.Reply request)
    (fs : FileSystem) (scripts : List Migration) (paths : List Path)
    (descriptions : QueryDescriptions) : Prop where
  load : Migration.load fs (settings.migrationsPath root) settings.migrationExtension = .ok scripts
  connect : replies [] .connect = .ok ()
  apply : ∀ before script after, scripts = before ++ script :: after →
    replies before (.apply script) = .ok ()
  search : (Source.discovery settings [settings.outputPath root]).find fs
    (settings.sourcePath root) = .ok paths
  read : ∀ path ∈ paths, (Source.parseFile fs path settings.maxFileSize).isOk
  complete : descriptions.texts = (Sources.texts settings ⟨fs, paths⟩).eraseDups
  describe : ∀ entry ∈ descriptions.entries, replies scripts (.describe entry.1) = .ok entry.2

theorem Lead.of_prefix {first : List Action} (leads : Lead actions fs gs)
    (starts : first <+: actions) : ∃ hs, Lead first fs hs := by
  obtain ⟨rest, rfl⟩ := starts
  obtain ⟨hs, before, -⟩ := leads.exists_of_append
  exact ⟨hs, before⟩

section Working

variable {scripts : List Migration} {paths : List Path} {descriptions : QueryDescriptions}
  {applying scanning describing : List Action}

/-- The sources are searched and read in the files that the work begins with. -/
theorem Applying.lead_scanning {outcome : Except DatabaseFailure Unit}
    (apply : Applying scripts applying outcome) (scanning : List Action)
    (leads : Lead actions fs gs) (starts : applying ++ scanning <+: actions) :
    ∃ hs, Lead scanning fs hs := by
  obtain ⟨_, leads⟩ := leads.of_prefix starts
  obtain ⟨begun, begins, scans⟩ := leads.exists_of_append
  obtain rfl := begins.eq_of_changes_eq_nil apply.changes_eq
  exact ⟨_, scans⟩

variable [Grammars]

/-- Only writing the module changes files. -/
theorem changes_of_writing {found noted : List Diagnostic} {writing : List Action}
    {scan : Except Failure Sources} {applied : Except DatabaseFailure Unit}
    {described : Except DatabaseFailure QueryDescriptions} {texts : List String}
    (applies : Applying scripts applying applied)
    (scans : Scanning settings (settings.sourcePath root) [settings.outputPath root] scanning scan)
    (describes : Describing texts describing described) :
    changes (applying ++ scanning ++ findings found ++ describing ++ findings noted ++ writing) =
      changes writing := by
  simp only [changes_append, applies.changes_eq, scans.changes_eq, changes_findings,
    describes.changes_eq, List.nil_append]

theorem Working.exists_forecast {report : Report} {bytes : Nat}
    (work : Working root settings scripts actions (.ok (report, bytes)))
    (load : Migration.load fs (settings.migrationsPath root) settings.migrationExtension =
      .ok scripts)
    (connect : replies [] .connect = .ok ()) (leads : Lead actions fs gs)
    (answers : Probe.AnswersBy replies (probes actions)) :
    ∃ paths descriptions writing,
      Forecast root settings replies fs scripts paths descriptions ∧
      report = reportOf root settings ⟨fs, paths⟩ descriptions ∧
      Writing (settings.outputPath root)
        (synthesize descriptions .builtin settings.moduleOptions).module writing (.ok ()) ∧
      changes actions = changes writing := by
  cases work with
  | @all applying scanning describing writing sources descriptions synthesis apply scan describe
      synthesized write =>
      subst synthesized
      simp only [probes_append, scan.probes_eq, probes_findings, write.probes_eq,
        List.append_nil] at answers
      obtain ⟨applied, granted⟩ := apply.granted answers.of_append_left
      obtain ⟨complete, described⟩ := describe.described answers.of_append
      rw [applied, List.append_nil] at described
      obtain ⟨_, scans⟩ := apply.lead_scanning scanning leads (by simp)
      obtain ⟨rfl, search, read⟩ := scan.found scans
      exact ⟨sources.paths, descriptions, writing,
        ⟨load, connect, granted, search, read, complete, described⟩, rfl, write,
        changes_of_writing apply scan describe⟩

/-- What is forecast comes about up to the descriptions. -/
theorem Forecast.eq_of_describing {sources : Sources}
    {outcome : Except DatabaseFailure QueryDescriptions}
    (forecast : Forecast root settings replies fs scripts paths descriptions)
    (apply : Applying scripts applying (.ok ()))
    (scan : Scanning settings (settings.sourcePath root) [settings.outputPath root] scanning
      (.ok sources))
    (describe : Describing (sources.texts settings).eraseDups describing outcome)
    (leads : Lead actions fs gs) (answers : Probe.AnswersBy replies (probes actions))
    (starts : applying ++ scanning ++ findings (sources.findings settings) ++ describing <+:
      actions) :
    sources = ⟨fs, paths⟩ ∧ outcome = .ok descriptions := by
  obtain ⟨rest, rfl⟩ := starts
  obtain ⟨_, scans⟩ := apply.lead_scanning scanning leads (by simp)
  obtain ⟨rfl, search, -⟩ := scan.found scans
  obtain rfl := Except.ok.inj (search.symm.trans forecast.search)
  simp only [probes_append, scan.probes_eq, probes_findings, List.append_nil] at answers
  have answers := answers.of_append_left
  refine ⟨rfl, describe.eq_ok answers.of_append forecast.complete ?_⟩
  rw [(apply.granted answers.of_append_left).1, List.append_nil]
  exact forecast.describe

/-- What is forecast comes about, so that only writing the module can fail. -/
theorem Forecast.exists_writing_of_working {outcome : Except Failure (Report × Nat)}
    (forecast : Forecast root settings replies fs scripts paths descriptions)
    (work : Working root settings scripts actions outcome) (leads : Lead actions fs gs)
    (finishes : ∀ detail, .stopped detail ∉ actions)
    (answers : Probe.AnswersBy replies (probes actions)) :
    ∃ writing written,
      Writing (settings.outputPath root)
        (synthesize descriptions .builtin settings.moduleOptions).module writing written ∧
      changes actions = changes writing ∧
      (written = .ok () →
        outcome.map Prod.fst = .ok (reportOf root settings ⟨fs, paths⟩ descriptions)) := by
  cases work with
  | notApplied apply => cases apply.eq_ok answers forecast.apply
  | notScanned apply scan =>
      obtain ⟨_, scans⟩ := apply.lead_scanning _ leads List.prefix_rfl
      have finishes (detail : String) (member : Action.stopped detail ∈ _) : False :=
        finishes detail (List.mem_append_right _ member)
      cases scan.eq_ok scans finishes forecast.search forecast.read
  | notDescribed apply scan describe =>
      cases (forecast.eq_of_describing apply scan describe leads answers List.prefix_rfl).2
  | notWritten apply scan describe synthesized write =>
      subst synthesized
      obtain ⟨rfl, same⟩ :=
        forecast.eq_of_describing apply scan describe leads answers (by simp)
      obtain rfl := Except.ok.inj same
      exact ⟨_, _, write, changes_of_writing apply scan describe, fun written => by cases written⟩
  | all apply scan describe synthesized write =>
      subst synthesized
      obtain ⟨rfl, same⟩ :=
        forecast.eq_of_describing apply scan describe leads answers (by simp)
      obtain rfl := Except.ok.inj same
      exact ⟨_, _, write, changes_of_writing apply scan describe, fun _ => rfl⟩

end Working

theorem Lead.eq_of_surveyed {files : FileSystem} {rest : List Action}
    (leads : Lead (.surveyed files :: rest) fs gs) : files = fs := by
  cases leads with
  | cons looks further =>
      cases looks
      rfl

section Connected

variable {first last : Event} {files : FileSystem} {working : List Action}
  {disposed : Except DatabaseFailure Unit}

theorem changes_of_connected :
    changes ([.heard first] ++ ([.surveyed files, .probed ⟨.connect, .ok ()⟩] ++ working ++
      [.probed ⟨.dispose, disposed⟩]) ++ [.heard last]) = changes working := by
  simp only [changes_append]
  exact (List.append_nil _).trans (List.append_nil _)

/-- The work on a probe that is connected is done on the files that have been surveyed. -/
theorem exists_of_connected
    (leads : Lead ([.heard first] ++ ([.surveyed files, .probed ⟨.connect, .ok ()⟩] ++ working ++
      [.probed ⟨.dispose, disposed⟩]) ++ [.heard last]) fs gs)
    (answers : Probe.AnswersBy replies (probes ([.heard first] ++
      ([.surveyed files, .probed ⟨.connect, .ok ()⟩] ++ working ++
        [.probed ⟨.dispose, disposed⟩]) ++ [.heard last]))) :
    files = fs ∧ replies [] .connect = .ok () ∧ (∃ hs, Lead working fs hs) ∧
      Probe.AnswersBy replies (probes working) := by
  obtain ⟨_, before, -⟩ := leads.exists_of_append
  obtain ⟨_, begins, attempts⟩ := before.exists_of_append
  obtain rfl := begins.eq_of_changes_eq_nil rfl
  obtain ⟨_, connects, -⟩ := attempts.exists_of_append
  obtain ⟨_, looks, works⟩ := connects.exists_of_append
  obtain rfl := looks.eq_of_surveyed
  obtain rfl := looks.eq_of_changes_eq_nil rfl
  simp only [probes_append] at answers
  have connected := answers [] .connect (.ok ()) _ (by
    simp only [probes, List.filterMap_cons, List.filterMap_nil, Action.probe?]
    rfl) Probe.Request.noConfusion
  exact ⟨rfl, connected.symm, ⟨_, works⟩,
    answers.of_append_left.of_append.of_append_left.of_append⟩

end Connected

section Course

variable [Grammars] {scripts : List Migration} {paths : List Path}
  {descriptions : QueryDescriptions}

/-- A run is its attempt between two events. -/
theorem Course.exists_attempting {result : Except Failure Report}
    (course : Course root settings actions result) :
    ∃ first attempting last outcome,
      actions = [.heard first] ++ attempting ++ [.heard last] ∧
      Attempting root settings attempting outcome ∧ outcome.map Prod.fst = result := by
  cases course with
  | written attempt => exact ⟨_, _, _, _, rfl, attempt, rfl⟩
  | failed attempt => exact ⟨_, _, _, _, rfl, attempt, rfl⟩

/-- A run that succeeds has come to what the files, the settings and the replies of the probe
say. -/
theorem Course.exists_forecast {report : Report}
    (course : Course root settings actions (.ok report)) (leads : Lead actions fs gs)
    (answers : Probe.AnswersBy replies (probes actions)) :
    ∃ scripts paths descriptions writing,
      Forecast root settings replies fs scripts paths descriptions ∧
      report = reportOf root settings ⟨fs, paths⟩ descriptions ∧
      Writing (settings.outputPath root)
        (synthesize descriptions .builtin settings.moduleOptions).module writing (.ok ()) ∧
      changes actions = changes writing := by
  obtain ⟨first, attempting, last, outcome, rfl, attempt, succeeded⟩ := course.exists_attempting
  cases attempt with
  | notLoaded load => cases succeeded
  | notConnected load => cases succeeded
  | @connected files scripts working outcome disposed load ordered work =>
      cases outcome with
      | error failure => cases succeeded
      | ok result =>
          cases succeeded
          obtain ⟨rfl, connect, ⟨hs, leads⟩, answers⟩ := exists_of_connected leads answers
          obtain ⟨paths, descriptions, writing, forecast, same, write, changed⟩ :=
            work.exists_forecast load connect leads answers
          refine ⟨scripts, paths, descriptions, writing, forecast, same, write, ?_⟩
          rw [changes_of_connected, changed]

/-- What is forecast comes about in every run whose workers do not stop, so that only writing the
module can fail. -/
theorem Forecast.exists_writing {result : Except Failure Report}
    (forecast : Forecast root settings replies fs scripts paths descriptions)
    (course : Course root settings actions result) (leads : Lead actions fs gs)
    (finishes : ∀ detail, .stopped detail ∉ actions)
    (answers : Probe.AnswersBy replies (probes actions)) :
    ∃ writing written,
      Writing (settings.outputPath root)
        (synthesize descriptions .builtin settings.moduleOptions).module writing written ∧
      changes actions = changes writing ∧
      (written = .ok () → result = .ok (reportOf root settings ⟨fs, paths⟩ descriptions)) := by
  obtain ⟨first, attempting, last, outcome, rfl, attempt, rfl⟩ := course.exists_attempting
  cases attempt with
  | notLoaded load =>
      obtain ⟨_, before, -⟩ := leads.exists_of_append
      obtain ⟨_, begins, looks⟩ := before.exists_of_append
      obtain rfl := begins.eq_of_changes_eq_nil rfl
      obtain rfl := looks.eq_of_surveyed
      cases forecast.load.symm.trans load
  | @notConnected files scripts failure load =>
      have refused := answers [] .connect (.error failure) [] rfl Probe.Request.noConfusion
      cases forecast.connect.symm.trans refused.symm
  | @connected files others working outcome disposed load ordered work =>
      obtain ⟨rfl, -, ⟨hs, leads⟩, answers⟩ := exists_of_connected leads answers
      obtain rfl := Except.ok.inj (forecast.load.symm.trans load)
      have finishes (detail : String) (member : Action.stopped detail ∈ working) : False :=
        finishes detail (by simp [member])
      obtain ⟨writing, written, write, changed, succeeds⟩ :=
        forecast.exists_writing_of_working work leads finishes answers
      refine ⟨writing, written, write, ?_, succeeds⟩
      rw [changes_of_connected, changed]

end Course

end Generation

end TypedQueries
