import TypedQueries.Proofs.Generation.Stages

/-! # The course of a run

The stages of a run follow one another in one order, whatever its surroundings and the probe
reply (`Shows.generate`): a stage begins only when those before it have succeeded, the probe is
disposed of if it was connected, and the last event tells how the run has ended.
-/

namespace TypedQueries

namespace Generation

def findings (diagnostics : List Diagnostic) : List Action :=
  diagnostics.map fun diagnostic => .heard (.diagnostic diagnostic)

theorem Shows.announceFindings {observers : Nat} (diagnostics : List Diagnostic) :
    Shows observers
      (Activity.onLeft (Surroundings.announceAll observers (diagnostics.map .diagnostic)))
      fun actions _ => actions = findings diagnostics :=
  (announceAll _).mono fun _ _ same => by rw [same, List.map_map]; rfl

variable [Grammars]

/-- The report of a run that comes to these sources and descriptions. -/
def reportOf (root : Path) (settings : Settings) (sources : Sources)
    (descriptions : QueryDescriptions) : Report where
  fileCount := sources.paths.length
  callCount := (sources.texts settings).length
  queryCount := descriptions.size
  diagnostics := sources.findings settings ++
    (synthesize descriptions .builtin settings.moduleOptions).diagnostics
  outputPath := settings.outputPath root

/-- While the probe is connected the scripts are applied, then the sources scanned and what
they say announced, then the texts described, each once and in the order in which they first
occur, then what the module says announced and the module written. -/
inductive Working (root : Path) (settings : Settings) (scripts : List Migration) :
    List Action → Except Failure (Report × Nat) → Prop
  | notApplied {applying : List Action} {failure : DatabaseFailure}
      (apply : Applying scripts applying (.error failure)) :
      Working root settings scripts applying (.error (.database failure))
  | notScanned {applying scanning : List Action} {failure : Failure}
      (apply : Applying scripts applying (.ok ()))
      (scan : Scanning settings (settings.sourcePath root) [settings.outputPath root] scanning
        (.error failure)) :
      Working root settings scripts (applying ++ scanning) (.error failure)
  | notDescribed {applying scanning describing : List Action} {sources : Sources}
      {failure : DatabaseFailure}
      (apply : Applying scripts applying (.ok ()))
      (scan : Scanning settings (settings.sourcePath root) [settings.outputPath root] scanning
        (.ok sources))
      (describe : Describing (sources.texts settings).eraseDups describing (.error failure)) :
      Working root settings scripts
        (applying ++ scanning ++ findings (sources.findings settings) ++ describing)
        (.error (.database failure))
  | notWritten {applying scanning describing writing : List Action} {sources : Sources}
      {descriptions : QueryDescriptions} {synthesis : Synthesis} {failure : OutputFailure}
      (apply : Applying scripts applying (.ok ()))
      (scan : Scanning settings (settings.sourcePath root) [settings.outputPath root] scanning
        (.ok sources))
      (describe : Describing (sources.texts settings).eraseDups describing (.ok descriptions))
      (synthesized : synthesis = synthesize descriptions .builtin settings.moduleOptions)
      (write : Writing (settings.outputPath root) synthesis.module writing (.error failure)) :
      Working root settings scripts
        (applying ++ scanning ++ findings (sources.findings settings) ++ describing ++
          findings synthesis.diagnostics ++ writing)
        (.error (.output failure))
  | all {applying scanning describing writing : List Action} {sources : Sources}
      {descriptions : QueryDescriptions} {synthesis : Synthesis}
      (apply : Applying scripts applying (.ok ()))
      (scan : Scanning settings (settings.sourcePath root) [settings.outputPath root] scanning
        (.ok sources))
      (describe : Describing (sources.texts settings).eraseDups describing (.ok descriptions))
      (synthesized : synthesis = synthesize descriptions .builtin settings.moduleOptions)
      (write : Writing (settings.outputPath root) synthesis.module writing (.ok ())) :
      Working root settings scripts
        (applying ++ scanning ++ findings (sources.findings settings) ++ describing ++
          findings synthesis.diagnostics ++ writing)
        (.ok (reportOf root settings sources descriptions, synthesis.module.utf8ByteSize))

/-- The probe is connected only if the scripts could be loaded, which are in the order of their
files' names; and what was connected is disposed of, whatever came of the work. -/
inductive Attempting (root : Path) (settings : Settings) :
    List Action → Except Failure (Report × Nat) → Prop
  | notLoaded {files : FileSystem} {failure : DatabaseFailure}
      (load : Migration.load files (settings.migrationsPath root) settings.migrationExtension =
        .error failure) :
      Attempting root settings [.surveyed files] (.error (.database failure))
  | notConnected {files : FileSystem} {scripts : List Migration} {failure : DatabaseFailure}
      (load : Migration.load files (settings.migrationsPath root) settings.migrationExtension =
        .ok scripts) :
      Attempting root settings [.surveyed files, .probed ⟨.connect, .error failure⟩]
        (.error (.database failure))
  | connected {files : FileSystem} {scripts : List Migration} {working : List Action}
      {outcome : Except Failure (Report × Nat)} {disposed : Except DatabaseFailure Unit}
      (load : Migration.load files (settings.migrationsPath root) settings.migrationExtension =
        .ok scripts)
      (ordered : Migration.InNameOrder (settings.migrationsPath root) scripts)
      (work : Working root settings scripts working outcome) :
      Attempting root settings
        ([.surveyed files, .probed ⟨.connect, .ok ()⟩] ++ working ++
          [.probed ⟨.dispose, disposed⟩])
        outcome

/-- A run begins and ends with an event; the last one tells the result. -/
inductive Course (root : Path) (settings : Settings) :
    List Action → Except Failure Report → Prop
  | written {attempting : List Action} {report : Report} {bytes duration : Nat}
      (attempt : Attempting root settings attempting (.ok (report, bytes))) :
      Course root settings
        ([.heard (.started (settings.sourcePath root) (settings.migrationsPath root)
            (settings.outputPath root))] ++ attempting ++
          [.heard (.outputWritten report.outputPath report.queryCount bytes duration)])
        (.ok report)
  | failed {attempting : List Action} {failure : Failure}
      (attempt : Attempting root settings attempting (.error failure)) :
      Course root settings
        ([.heard (.started (settings.sourcePath root) (settings.migrationsPath root)
            (settings.outputPath root))] ++ attempting ++
          [.heard (.failed failure.code failure.message)])
        (.error failure)

namespace Shows

variable {observers : Nat}

theorem withProbe (root : Path) (settings : Settings) (scripts : List Migration) :
    Shows observers (Generation.withProbe root settings observers scripts)
      (Working root settings scripts) := by
  unfold Generation.withProbe
  refine bind (applyAll scripts) ?_
  rintro applying (failure | _) apply
  · refine done ?_
    rw [List.append_nil]
    exact .notApplied apply
  refine bind (scan settings _ _) ?_
  rintro scanning (failure | gathered) scan
  · refine done ?_
    rw [List.append_nil]
    exact .notScanned apply scan
  obtain ⟨sources, scan, gathers⟩ := scan
  refine bind (announceFindings _) ?_
  rintro _ _ rfl
  rw [gathers.diagnostics]
  refine bind (describeAll _) ?_
  rw [gathers.texts]
  rintro describing (failure | descriptions) describe
  · refine done ?_
    simpa only [List.append_nil, List.append_assoc] using Working.notDescribed apply scan describe
  refine onLeft_bind (announceFindings _) ?_
  rintro _ _ rfl
  refine onLeft_bind (write _ _) ?_
  rintro writing (failure | _) write
  · refine done ?_
    simpa only [List.append_nil, List.append_assoc] using
      Working.notWritten apply scan describe rfl write
  · refine done ?_
    rw [gathers.fileCount, gathers.callCount, gathers.diagnostics]
    simpa only [List.append_nil, List.append_assoc, reportOf] using
      Working.all apply scan describe rfl write

theorem run (root : Path) (settings : Settings) :
    Shows observers (Generation.run root settings observers) (Attempting root settings) := by
  unfold Generation.run
  refine bind survey ?_
  rintro _ files rfl
  cases load : Migration.load files (settings.migrationsPath root) settings.migrationExtension with
  | error failure => exact done (.notLoaded load)
  | ok scripts =>
      refine bind (unseen fun _ _ => rfl) ?_
      rintro _ _ rfl
      refine bind (probe .connect) ?_
      rintro _ (failure | _) rfl
      · exact done (.notConnected load)
      refine bind (withProbe root settings scripts) ?_
      rintro working outcome work
      refine bind (probe .dispose) ?_
      rintro _ disposed rfl
      have attempt : Attempting root settings
          ([.surveyed files, .probed ⟨.connect, .ok ()⟩] ++ working ++
            [.probed ⟨.dispose, disposed⟩]) outcome :=
        .connected load (Migration.inNameOrder_of_load load) work
      rw [List.append_assoc] at attempt
      -- Whether the probe could be disposed of decides only what is logged.
      cases outcome with
      | error failure => exact done attempt
      | ok result =>
          cases disposed with
          | ok _ => exact done attempt
          | error failure =>
              refine bind (unseen fun _ _ => rfl) ?_
              rintro _ _ rfl
              exact done attempt

theorem generate (root : Path) (settings : Settings) :
    Shows observers (TypedQueries.generate root settings observers) (Course root settings) := by
  unfold TypedQueries.generate
  refine bind (announce _) ?_
  rintro _ _ rfl
  refine bind (run root settings) ?_
  rintro attempting (failure | ⟨report, bytes⟩) attempt
  · refine onLeft_bind (announce _) ?_
    rintro _ _ rfl
    exact done (.failed attempt)
  · refine onLeft_bind (unseen fun _ _ => rfl) ?_
    rintro _ duration rfl
    refine onLeft_bind (announce _) ?_
    rintro _ _ rfl
    exact done (.written attempt)

end Shows

end Generation

end TypedQueries
