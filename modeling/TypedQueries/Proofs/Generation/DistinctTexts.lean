import TypedQueries.Proofs.Generation.Output

/-! # What the module depends on

The texts that a run describes are the known texts of the project, each where it first occurs
(`texts_of_runs_ok`). With a probe that describes texts by a function the module is made of
nothing else: how often a text occurs, where, in which file and with which further arguments makes
no difference (`module_by_distinct_texts`).
-/

namespace TypedQueries

namespace Source

/-- The paths of the sources of a project, in their order. -/
def sourcePaths (root : Path) (settings : Settings) (fs : FileSystem) : List Path :=
  match (discovery settings [settings.outputPath root]).find fs (settings.sourcePath root) with
  | .error _ => []
  | .ok paths => paths

theorem sourcePaths_eq {root : Path} {settings : Settings} {fs : FileSystem} {paths : List Path}
    (found : (discovery settings [settings.outputPath root]).find fs (settings.sourcePath root) =
      .ok paths) : sourcePaths root settings fs = paths := by
  rw [sourcePaths, found]

/-- The known texts of a project, each where it first occurs. -/
def distinctTexts [Grammars] (root : Path) (settings : Settings) (fs : FileSystem) : List String :=
  ((sourcePaths root settings fs).flatMap (knownTexts settings fs)).eraseDups

end Source

theorem QueryDescriptions.eq_of_entries {first second : QueryDescriptions}
    (same : first.entries = second.entries) : first = second := by
  cases first
  cases second
  cases same
  rfl

/-- Descriptions by one function are the same for the same texts. -/
theorem eq_of_described (describe : String → Except DatabaseFailure QueryDescription)
    {first second : List (String × QueryDescription)}
    (texts : first.map Prod.fst = second.map Prod.fst)
    (described : ∀ entry ∈ first, describe entry.1 = .ok entry.2)
    (describedToo : ∀ entry ∈ second, describe entry.1 = .ok entry.2) : first = second := by
  induction first generalizing second with
  | nil => exact (List.map_eq_nil_iff.mp texts.symm).symm
  | cons entry first ih =>
      cases second with
      | nil => cases texts
      | cons other second =>
          obtain ⟨sql, description⟩ := entry
          obtain ⟨same, rest⟩ := List.cons.inj texts
          obtain ⟨isDescribed, others⟩ := List.forall_mem_cons.mp described
          obtain ⟨isToo, othersToo⟩ := List.forall_mem_cons.mp describedToo
          obtain rfl : sql = other.1 := same
          obtain rfl : description = other.2 := Except.ok.inj (isDescribed.symm.trans isToo)
          rw [ih rest others othersToo]

namespace Generation

theorem mem_of_mem_describedIn {exchanges : List (Exchange RunInterface)} {sql : String}
    {description : QueryDescription} (member : (sql, description) ∈ describedIn exchanges) :
    ⟨.inr (.describe sql), .ok description⟩ ∈ exchanges := by
  obtain ⟨⟨request, reply⟩, present, found⟩ := List.mem_filterMap.mp member
  cases request with
  | inl request => cases found
  | inr request =>
      cases request with
      | connect | apply _ | dispose => cases found
      | describe text =>
          cases reply with
          | error failure => cases found
          | ok _ =>
              cases found
              exact present

section Runs

variable [Grammars] {root : Path} {settings : Settings} {observers : Nat} {fs gs : FileSystem}
  {exchanges : List (Exchange RunInterface)} {actions : List Action}

/-- The sources of a scan that succeeds are found and read in the files that there are. -/
theorem Scanning.found {directory : Path} {skip : List Path} {sources : Sources}
    (scan : Scanning settings directory skip actions (.ok sources)) (leads : Lead actions fs gs) :
    sources.files = fs ∧ (Source.discovery settings skip).find fs directory = .ok sources.paths ∧
      ∀ path ∈ sources.paths, (Source.parseFile fs path settings.maxFileSize).isOk := by
  cases scan with
  | all search ordered read =>
      cases leads with
      | cons looks _ =>
          cases looks
          exact ⟨rfl, search, read⟩

/-- The texts that are described in a run that succeeds are the distinct texts of the project. -/
theorem texts_of_runs_ok {report : Report}
    (runs : (generate root settings observers).Runs exchanges (.ok report))
    (serves : fs.Serves exchanges gs) :
    (Source.discovery settings [settings.outputPath root]).find fs (settings.sourcePath root) =
      .ok (Source.sourcePaths root settings fs) ∧
    (∀ path ∈ Source.sourcePaths root settings fs,
      (Source.parseFile fs path settings.maxFileSize).isOk) ∧
    (describedIn exchanges).map Prod.fst = Source.distinctTexts root settings fs := by
  obtain ⟨actions, course, same, leads⟩ := exists_course_of_runs runs serves
  obtain ⟨before, scanning, between, writing, after, sources, descriptions, rfl, quiet, -, -, scan,
    complete, described, -⟩ := course.exists_of_ok
  obtain ⟨_, toWriting, _⟩ := leads.exists_of_append
  obtain ⟨_, toBetween, _⟩ := toWriting.exists_of_append
  obtain ⟨_, toScanning, _⟩ := toBetween.exists_of_append
  obtain ⟨begun, begins, scans⟩ := toScanning.exists_of_append
  obtain rfl := begins.eq_of_changes_eq_nil quiet
  obtain ⟨rfl, search, parsed⟩ := scan.found scans
  rw [Source.distinctTexts, Source.sourcePaths_eq search]
  refine ⟨search, parsed, ?_⟩
  rw [same, described]
  exact complete

end Runs

/-- That the probe describes texts by a function in exchanges. -/
def DescribesBy (describe : String → Except DatabaseFailure QueryDescription)
    (exchanges : List (Exchange RunInterface)) : Prop :=
  ∀ sql reply, ⟨.inr (.describe sql), reply⟩ ∈ exchanges → reply = describe sql

/-- **The module depends on the distinct texts only.** In a run that succeeds, the texts described
in the module's descriptions are the known texts of the query calls, with the files in the order of
their paths and the calls of each in pre-order, every text where it first occurs. Two such runs with
the same settings, for projects in which these texts are the same and with probes that describe
texts by the same function, put the same bytes into the places of their modules. -/
theorem module_by_distinct_texts [Grammars] (settings : Settings) :
    (∀ {root observers exchanges report} {fs gs : FileSystem}, fs.Sound →
      (generate root settings observers).Runs exchanges (.ok report) → fs.Serves exchanges gs →
      (Source.discovery settings [settings.outputPath root]).find fs (settings.sourcePath root) =
        .ok (Source.sourcePaths root settings fs) ∧
      (Source.sourcePaths root settings fs).Pairwise (fun earlier later => earlier.le later) ∧
      (∀ path ∈ Source.sourcePaths root settings fs,
        (Source.parseFile fs path settings.maxFileSize).isOk) ∧
      ∃ descriptions place, descriptions.texts = Source.distinctTexts root settings fs ∧
        descriptions.entries = describedIn exchanges ∧
        (fs.makeDirectories (Output.directory (settings.outputPath root))).2.Replaces
          (settings.outputPath root) place
          (synthesize descriptions .builtin settings.moduleOptions).module.toUTF8 gs) ∧
    ∀ {root root' observers observers' describe exchanges exchanges' report report'}
      {fs gs fs' gs' : FileSystem},
      fs.Sound → (generate root settings observers).Runs exchanges (.ok report) →
      fs.Serves exchanges gs → DescribesBy describe exchanges →
      fs'.Sound → (generate root' settings observers').Runs exchanges' (.ok report') →
      fs'.Serves exchanges' gs' → DescribesBy describe exchanges' →
      Source.distinctTexts root settings fs = Source.distinctTexts root' settings fs' →
      ∃ content place place',
        (fs.makeDirectories (Output.directory (settings.outputPath root))).2.Replaces
          (settings.outputPath root) place content gs ∧
        (fs'.makeDirectories (Output.directory (settings.outputPath root'))).2.Replaces
          (settings.outputPath root') place' content gs' := by
  constructor
  · intro root observers exchanges report fs gs sound runs serves
    obtain ⟨search, parsed, texts⟩ := texts_of_runs_ok runs serves
    obtain ⟨descriptions, place, entries, replaces⟩ := replaces_of_runs_ok sound runs serves
    refine ⟨search, Discovery.pairwise_find search, parsed, descriptions, place, ?_, entries,
      replaces⟩
    rw [QueryDescriptions.texts, entries, texts]
  · intro root root' observers observers' describe exchanges exchanges' report report' fs gs fs' gs'
      sound runs serves describes sound' runs' serves' describes' same
    obtain ⟨descriptions, place, entries, replaces⟩ := replaces_of_runs_ok sound runs serves
    obtain ⟨descriptions', place', entries', replaces'⟩ := replaces_of_runs_ok sound' runs' serves'
    have equal : descriptions = descriptions' := by
      refine QueryDescriptions.eq_of_entries ?_
      rw [entries, entries']
      refine eq_of_described describe ?_ ?_ ?_
      · rw [(texts_of_runs_ok runs serves).2.2, same, (texts_of_runs_ok runs' serves').2.2]
      · exact fun entry member => (describes _ _ (mem_of_mem_describedIn member)).symm
      · exact fun entry member => (describes' _ _ (mem_of_mem_describedIn member)).symm
    exact ⟨_, place, place', replaces, equal ▸ replaces'⟩

/-- A project in the root with a source file and no scripts. -/
def singleSource (name text : String) : FileSystem where
  nodes :=
    [([.ofString "src"], .directory), ([.ofString "migrations"], .directory),
      ([.ofString "src", .ofString name], .file text.toUTF8)]

/-- A probe that describes every text as a query without parameters and columns. -/
def plainProbe : Simulation.ProbeScript := { otherwise := some ⟨[], []⟩ }

/-- Calls in other places, with other arguments, repeated or without a known text make the same
module. -/
theorem module_by_distinct_texts_of_rearranged_calls :
    let fs := singleSource "a.ts" "db.query('one'); db.query('two'); db.query('one', [x]);"
    let fs' := singleSource "b.tsx" "db.query(q); f(db.query('one')); db.query('two', y);"
    ∃ exchanges exchanges' gs gs' report report' place place' content,
      (generate (.ofString "/") {} 0).Runs exchanges (.ok report) ∧ fs.Serves exchanges gs ∧
      (generate (.ofString "/") {} 1).Runs exchanges' (.ok report') ∧ fs'.Serves exchanges' gs' ∧
      (describedIn exchanges).map Prod.fst = ["one", "two"] ∧
      gs.node? place = some (.file content) ∧ gs'.node? place' = some (.file content) := by
  intro fs fs'
  let state : Simulation.ProbedWorld := { world := { files := fs }, script := plainProbe }
  let state' : Simulation.ProbedWorld := { world := { files := fs' }, script := plainProbe }
  have sound : fs.Sound := FileSystem.sound_of_nodes (by decide +kernel)
  have sound' : fs'.Sound := FileSystem.sound_of_nodes (by decide +kernel)
  have succeeds : (state.perform (generate (.ofString "/") {} 0)).1.isOk := by decide +kernel
  have succeeds' : (state'.perform (generate (.ofString "/") {} 1)).1.isOk := by decide +kernel
  have texts : Source.distinctTexts (.ofString "/") {} fs = ["one", "two"] := by decide +kernel
  have texts' : Source.distinctTexts (.ofString "/") {} fs' = ["one", "two"] := by decide +kernel
  obtain ⟨exchanges, report, runs, serves, scripted⟩ :=
    Simulation.ProbedWorld.exists_runs_of_isOk succeeds
  obtain ⟨exchanges', report', runs', serves', scripted'⟩ :=
    Simulation.ProbedWorld.exists_runs_of_isOk succeeds'
  have describes : DescribesBy plainProbe.describe exchanges := fun _ _ => scripted _ _
  have describes' : DescribesBy plainProbe.describe exchanges' := fun _ _ => scripted' _ _
  obtain ⟨described, sameModule⟩ := module_by_distinct_texts {}
  obtain ⟨_, _, _, _, _, keys, entries, _⟩ := described sound runs serves
  obtain ⟨content, place, place', replaces, replaces'⟩ :=
    sameModule sound runs serves describes sound' runs' serves' describes' (texts.trans texts'.symm)
  rw [QueryDescriptions.texts, entries, texts] at keys
  exact ⟨exchanges, exchanges', _, _, report, report', place.location, place'.location, content,
    runs, serves, runs', serves', keys, replaces.adds.file, replaces'.adds.file⟩

end Generation

end TypedQueries
