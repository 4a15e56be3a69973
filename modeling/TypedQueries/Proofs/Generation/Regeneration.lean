import TypedQueries.Proofs.Generation.Forecast

/-! # Running again

A run leaves to the next one what it has found itself, but for its module. So the next run comes to
the same report and writes the same module, exactly if neither of them comes upon the module as a
source (`generate_again_iff`).
-/

namespace TypedQueries

namespace Generation

variable {root : Path} {settings : Settings} {observers : Nat} {fs gs hs : FileSystem}
  {replies : List Migration → (request : Probe.Request) → Probe.Reply request}
  {scripts : List Migration} {paths : List Path} {descriptions : QueryDescriptions}
  {spot : FileSystem.Spot} {content : ByteArray}

theorem Rewritable.fileName?_eq (rewritable : Rewritable fs (settings.outputPath root) spot) :
    (settings.outputPath root).fileName? = some spot.name := by
  obtain ⟨around, name, slashed⟩ := spot
  obtain rfl : slashed = false := rewritable.unslashed
  obtain ⟨entry, before, parts, -⟩ := FileSystem.spot_eq_ok_iff.mp rewritable.ends
  rw [Path.fileName?, Path.components, parts, List.filterMap_append,
    List.filterMap_cons_some (Path.component?_of_isEntry entry), List.filterMap_nil,
    ← List.append_assoc, List.getLast?_concat]

section Forecast

variable [Grammars]

/-- Sources that are not where something has been put are read as before. -/
theorem parseFile_eq_of_renews (plain : fs.Plain) (renews : fs.Renews spot.location content gs)
    {path : Path} (apart : path.landing fs.here ≠ spot.location)
    (read : (Source.parseFile fs path settings.maxFileSize).isOk) :
    Source.parseFile gs path settings.maxFileSize =
      Source.parseFile fs path settings.maxFileSize := by
  cases isParsed : Source.parseFile fs path settings.maxFileSize with
  | error failure =>
      rw [isParsed] at read
      cases read
  | ok parsed =>
      exact Source.parseFile_of_renews renews
        (fun leads => apart (plain.resolve_eq_landing leads).symm) isParsed

/-- What is forecast comes about again when the module has been written and is not among the
sources, and it comes to the same report. -/
theorem Forecast.of_renews
    (forecast : Forecast root settings replies fs scripts paths descriptions)
    (plain : fs.Plain) (plainToo : gs.Plain) (renews : fs.Renews spot.location content gs)
    (outside : ¬ (settings.migrationsPath root).landing fs.here <+: spot.location)
    (search : (Source.discovery settings [settings.outputPath root]).find gs
      (settings.sourcePath root) = .ok paths)
    (apart : ∀ path ∈ paths, path.landing fs.here ≠ spot.location) :
    Forecast root settings replies gs scripts paths descriptions ∧
      reportOf root settings ⟨gs, paths⟩ descriptions =
        reportOf root settings ⟨fs, paths⟩ descriptions := by
  have same (path : Path) (member : path ∈ paths) :=
    parseFile_eq_of_renews plain renews (apart path member) (forecast.read path member)
  have texts : Sources.texts settings ⟨gs, paths⟩ = Sources.texts settings ⟨fs, paths⟩ :=
    List.flatMap_congr fun path member => Source.knownTexts_congr (same path member)
  have findings : Sources.findings settings ⟨gs, paths⟩ = Sources.findings settings ⟨fs, paths⟩ :=
    List.flatMap_congr fun path member => Source.findings_congr (same path member)
  refine ⟨?_, by rw [reportOf, texts, findings, reportOf]⟩
  exact {
    load := Migration.load_of_renews plain plainToo renews outside forecast.load
    connect := forecast.connect
    apply := forecast.apply
    search := search
    read := fun path member => by rw [same path member]; exact forecast.read path member
    complete := by rw [texts]; exact forecast.complete
    describe := forecast.describe }

/-- What is forecast comes about where the module can be written. -/
theorem Forecast.of_runs {exchanges : List (Exchange RunInterface)}
    {result : Except Failure Report}
    (forecast : Forecast root settings replies fs scripts paths descriptions)
    (rewritable : Rewritable fs (settings.outputPath root) spot) (sound : fs.Sound)
    (free : ∃ name, fs.Offers (Output.directory (settings.outputPath root)) name)
    (runs : (generate root settings observers).Runs exchanges result)
    (undergoes : fs.Undergoes (Exchange.lefts exchanges) gs)
    (answers : Probe.AnswersBy replies (Exchange.rights exchanges)) :
    result = .ok (reportOf root settings ⟨fs, paths⟩ descriptions) ∧
      fs.Replaces (settings.outputPath root) spot
        (synthesize descriptions .builtin settings.moduleOptions).module.toUTF8 gs := by
  have shows : Shows observers (generate root settings observers) (Course root settings) :=
    .generate root settings
  obtain ⟨actions, amount, course⟩ := Activity.Ensures.of_runs shows runs
  rw [amount.rights_eq] at answers
  obtain ⟨writing, written, write, changed, succeeds⟩ :=
    forecast.exists_writing course (amount.lead (FileSystem.serves_of_undergoes undergoes))
      (amount.finishes undergoes) answers
  have changes := amount.undergoes undergoes
  rw [changed] at changes
  obtain ⟨done, replaces⟩ := rewritable.writing free sound write changes
  exact ⟨succeeds done, replaces⟩

/-- A run that succeeds has come to what was forecast and has left the module so that it can be
written again. -/
theorem exists_forecast_of_runs {exchanges : List (Exchange RunInterface)} {report : Report}
    (plain : fs.Plain) (runs : (generate root settings observers).Runs exchanges (.ok report))
    (undergoes : fs.Undergoes (Exchange.lefts exchanges) gs)
    (answers : Probe.AnswersBy replies (Exchange.rights exchanges)) :
    ∃ scripts paths descriptions spot,
      Forecast root settings replies fs scripts paths descriptions ∧
      report = reportOf root settings ⟨fs, paths⟩ descriptions ∧ gs.Plain ∧
      fs.Renews spot.location
        (synthesize descriptions .builtin settings.moduleOptions).module.toUTF8 gs ∧
      Rewritable gs (settings.outputPath root) spot ∧
      (spot.name.IsTemporary ∨
        ∃ name, gs.Offers (Output.directory (settings.outputPath root)) name) := by
  have shows : Shows observers (generate root settings observers) (Course root settings) :=
    .generate root settings
  obtain ⟨actions, amount, course⟩ := Activity.Ensures.of_runs shows runs
  rw [amount.rights_eq] at answers
  obtain ⟨scripts, paths, descriptions, writing, forecast, same, write, changed⟩ :=
    course.exists_forecast (amount.lead (FileSystem.serves_of_undergoes undergoes)) answers
  have changes := amount.undergoes undergoes
  rw [changed] at changes
  obtain ⟨plainToo, spot, renews, rewritable, free⟩ := write.rewritable plain changes
  exact ⟨scripts, paths, descriptions, spot, forecast, same, plainToo, renews, rewritable, free⟩

/-- That a run after another that has come to a report comes to the same one, scans the same files,
the module not among them, and leaves the bytes of the module. -/
structure Regenerates (root : Path) (settings : Settings) (observers : Nat)
    (replies : List Migration → (request : Probe.Request) → Probe.Reply request)
    (report : Report) (fs gs : FileSystem) : Prop where
  sources : Source.sourcePaths root settings gs = Source.sourcePaths root settings fs
  apart : ∀ path ∈ Source.sourcePaths root settings fs,
    path.landing fs.here ≠ (settings.outputPath root).landing fs.here
  again : ∃ exchanges result hs, (generate root settings observers).Runs exchanges result ∧
    gs.Undergoes (Exchange.lefts exchanges) hs ∧
    Probe.AnswersBy replies (Exchange.rights exchanges)
  same : ∀ exchanges result hs, (generate root settings observers).Runs exchanges result →
    gs.Undergoes (Exchange.lefts exchanges) hs →
    Probe.AnswersBy replies (Exchange.rights exchanges) →
    result = .ok report ∧ ∃ content, gs.read (settings.outputPath root) = .ok content ∧
      hs.read (settings.outputPath root) = .ok content

/-- **When regeneration is idempotent.** In a file system without links, with a module outside of
the directory of the scripts and a probe that replies by a function, a run that follows one that has
succeeded comes to the same report, scans the same files, never the module, and leaves its bytes,
exactly if a search that comes upon the place of the module knows the module there: its path must
have led there before the first run unless nothing was there, and the path under which the search
has it must not be too long to lead anywhere, unless it is the one path to it that is spelled in
full. -/
theorem generate_again_iff (root : Path) (settings : Settings) (observers : Nat)
    {fs gs : FileSystem}
    {replies : List Migration → (request : Probe.Request) → Probe.Reply request}
    {exchanges : List (Exchange RunInterface)} {report : Report} (plain : fs.Plain)
    (outside : ¬ (settings.migrationsPath root).landing fs.here <+:
      (settings.outputPath root).landing fs.here)
    (runs : (generate root settings observers).Runs exchanges (.ok report))
    (undergoes : fs.Undergoes (Exchange.lefts exchanges) gs)
    (answers : Probe.AnswersBy replies (Exchange.rights exchanges))
    (free : ∀ name, (settings.outputPath root).fileName? = some name → name.IsTemporary →
      ∃ other, gs.Offers (Output.directory (settings.outputPath root)) other) :
    Regenerates root settings observers replies report fs gs ↔
      ∀ path, (Source.discovery settings [settings.outputPath root]).ComesUpon fs
          (settings.sourcePath root) ((settings.outputPath root).landing fs.here) path →
        ((fs.node? ((settings.outputPath root).landing fs.here)).isSome →
          fs.pathExists (settings.outputPath root)) ∧
        (path.bytes.length < FileSystem.pathLimit ∨
          path.same (FileSystem.pathOf ((settings.outputPath root).landing fs.here))) := by
  obtain ⟨scripts, paths, descriptions, spot, forecast, rfl, plainToo, renews, rewritable,
    temporary⟩ := exists_forecast_of_runs plain runs undergoes answers
  have free := temporary.elim (free spot.name rewritable.fileName?_eq) id
  have lands := renews.landing_eq plainToo rewritable.ends rewritable.unslashed
  obtain ⟨others, foundToo⟩ :=
    Discovery.exists_find_of_renews plain plainToo renews forecast.search
  have decided := Discovery.find_eq_iff plain plainToo renews rfl rewritable.ends
    rewritable.unslashed forecast.search foundToo
  rw [lands] at outside ⊢
  rw [← decided]
  constructor
  · rintro ⟨sources, apart, -, -⟩
    rw [Source.sourcePaths_eq forecast.search, Source.sourcePaths_eq foundToo] at sources
    rw [Source.sourcePaths_eq forecast.search, lands] at apart
    exact ⟨sources, apart⟩
  · rintro ⟨rfl, apart⟩
    have sources := (Source.sourcePaths_eq foundToo).trans
      (Source.sourcePaths_eq forecast.search).symm
    obtain ⟨forecastToo, same⟩ :=
      forecast.of_renews plain plainToo renews outside foundToo apart
    refine ⟨sources, ?_, ?_, ?_⟩
    · rwa [Source.sourcePaths_eq forecast.search, lands]
    · obtain ⟨again, result, hs, runs, undergoes, answers⟩ :=
        exists_runs_obeyed replies (generate root settings observers) gs []
      exact ⟨again, result, hs, runs, undergoes, answers⟩
    · intro again result hs runs undergoes answers
      obtain ⟨succeeds, replaces⟩ := forecastToo.of_runs rewritable plainToo.sound free runs
        undergoes answers
      refine ⟨same ▸ succeeds, _, ?_, replaces.read_of_unlinked plainToo.sound fun target => ?_⟩
      · have leads := plainToo.resolve_of_spot rewritable.ends rewritable.unslashed renews.file
        exact FileSystem.read_eq_ok_iff.mpr ⟨_, leads, renews.file⟩
      · exact plainToo.ne_link target

end Forecast

/-- A run that succeeds in a probed world tells what is to come there. -/
theorem exists_forecast_of_isOk [Grammars] {state : Simulation.ProbedWorld}
    (succeeds : (state.perform (generate root settings observers)).1.isOk) :
    ∃ scripts paths descriptions,
      Forecast root settings (fun _ => state.script.answer) state.world.files scripts paths
        descriptions := by
  obtain ⟨exchanges, report, runs, serves, scripted⟩ :=
    Simulation.ProbedWorld.exists_runs_of_isOk succeeds
  have shows : Shows observers (generate root settings observers) (Course root settings) :=
    .generate root settings
  obtain ⟨actions, amount, course⟩ := Activity.Ensures.of_runs shows runs
  have answers : Probe.AnswersBy (fun _ => state.script.answer) (Exchange.rights exchanges) := by
    intro before request reply after parts _
    refine scripted request reply (Exchange.mem_of_mem_rights ?_)
    rw [parts]
    exact List.mem_append_right _ List.mem_cons_self
  rw [amount.rights_eq] at answers
  obtain ⟨scripts, paths, descriptions, _, forecast, -⟩ :=
    course.exists_forecast (amount.lead serves) answers
  exact ⟨scripts, paths, descriptions, forecast⟩

theorem hasRoom_singleSource : (singleSource "a.ts" "db.query('one');").HasRoom
    (Output.directory (Settings.outputPath {} (.ofString "/"))) [.ofString "src"] :=
  FileSystem.hasRoom_of_short (by decide +kernel) (by decide +kernel)
    (FileSystem.isTemporary_temporaryName 0).proper (by decide +kernel) (by decide +kernel)

/-- A run for a project with one source file, whose module is new, can be repeated. -/
theorem generate_again_for_single_source :
    let fs := singleSource "a.ts" "db.query('one');"
    fs.Plain ∧ ∃ exchanges report gs,
      (generate (.ofString "/") {} 0).Runs exchanges (.ok report) ∧
      fs.Undergoes (Exchange.lefts exchanges) gs ∧ report.fileCount = 1 ∧
      Regenerates (.ofString "/") {} 0 (fun _ => plainProbe.answer) report fs gs := by
  intro fs
  have plain : fs.Plain := by decide +kernel
  have outside : ¬ (Settings.migrationsPath {} (.ofString "/")).landing fs.here <+:
      (Settings.outputPath {} (.ofString "/")).landing fs.here := by decide +kernel
  have place : (Settings.outputPath {} (.ofString "/")).landing fs.here =
      [.ofString "src", .ofString "sqltype.generated.ts"] := by decide +kernel
  let spot : FileSystem.Spot := ⟨[.ofString "src"], .ofString "sqltype.generated.ts", false⟩
  have room := hasRoom_singleSource
  have rewritable : Rewritable fs (Settings.outputPath {} (.ofString "/")) spot :=
    ⟨FileSystem.makeDirectories_of_isDirectory (by decide +kernel), ⟨_, room⟩, by decide +kernel,
      rfl, by decide +kernel, by decide +kernel⟩
  have free : ∃ name, fs.Offers (Output.directory (Settings.outputPath {} (.ofString "/"))) name :=
    ⟨_, room.offers (FileSystem.isTemporary_temporaryName 0) (by decide +kernel)
      (Option.isNone_iff_eq_none.mp (by decide +kernel))⟩
  let state : Simulation.ProbedWorld := { world := { files := fs }, script := plainProbe }
  have succeeds : (state.perform (generate (.ofString "/") {} 0)).1.isOk := by decide +kernel
  obtain ⟨scripts, paths, descriptions, forecast⟩ := exists_forecast_of_isOk succeeds
  obtain ⟨exchanges, result, gs, runs, undergoes, answers⟩ :=
    exists_runs_obeyed (fun _ => plainProbe.answer) (generate (.ofString "/") {} 0) fs []
  obtain ⟨rfl, replaces⟩ :=
    forecast.of_runs rewritable plain.sound free runs undergoes answers
  refine ⟨plain, exchanges, _, gs, runs, undergoes, ?_,
    (generate_again_iff (.ofString "/") {} 0 plain outside runs undergoes answers ?_).mpr ?_⟩
  · have single : Source.sourcePaths (.ofString "/") {} fs = [.ofString "/src/a.ts"] := by
      decide +kernel
    rw [Source.sourcePaths_eq forecast.search] at single
    exact congrArg List.length single
  · intro name isName isTemporary
    have named : (Settings.outputPath {} (.ofString "/")).fileName? =
        some (.ofString "sqltype.generated.ts") := by decide +kernel
    obtain rfl := Option.some.inj (isName.symm.trans named)
    exact absurd isTemporary.marked (by decide +kernel)
  · rw [place]
    generalize isPlace : ([.ofString "src", .ofString "sqltype.generated.ts"] : Location) = other
    rintro path ⟨leads, -, -, -⟩
    have root : fs.resolve (Settings.sourcePath {} (.ofString "/")) = .ok [.ofString "src"] := by
      decide +kernel
    obtain rfl := Except.ok.inj (root.symm.trans leads)
    obtain rfl := (List.cons.inj isPlace).2
    exact ⟨fun present => absurd present (by decide +kernel), .inl (by decide +kernel)⟩

/-- The first of two runs scans the file that the module is then put in the place of, since the
path of the module leads there only when the run has made a directory on its way. The second does
not. -/
theorem scans_replaced_file :
    let fs := singleSource "gen.ts" "db.query('one');"
    let settings : Settings := { output := { path := some "src/new/../gen.ts" } }
    let state : Simulation.ProbedWorld := { world := { files := fs }, script := plainProbe }
    let first := state.perform (generate (.ofString "/") settings 0)
    let second := first.2.perform (generate (.ofString "/") settings 0)
    fs.Plain ∧ settings.fault? = none ∧
      ¬ (settings.migrationsPath (.ofString "/")).landing fs.here <+:
        (settings.outputPath (.ofString "/")).landing fs.here ∧
      (first.1.map Report.fileCount).toOption = some 1 ∧
      (second.1.map Report.fileCount).toOption = some 0 := by
  refine ⟨?_, ?_, ?_, ?_, ?_⟩
  · decide +kernel
  · decide +kernel
  · decide +kernel
  · decide +kernel
  · decide +kernel

end Generation

end TypedQueries
