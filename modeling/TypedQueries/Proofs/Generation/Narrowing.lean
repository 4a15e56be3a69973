import TypedQueries.Proofs.Generation.DistinctTexts
import TypedQueries.Proofs.Module.Names

/-! # The narrowed method

The texts that a run describes are those of the calls of the method that the settings name. The
module narrows a method of the client, and which one is read from the declaration of the
client's type (`narrowing?`): it is `query` whatever the settings are
(`narrows_scanned_method_iff`).
-/

namespace TypedQueries

namespace Synthesis

open Reader

/-- Whether a line begins the declaration of the client's type. -/
def opensClient (line : String) : Bool :=
  "export type TypedClient = Omit<".toList.isPrefixOf line.toList

/-- What the client's type is declared to be: the client's own type, the member that is left out
of it, and the name of the member that is declared anew. -/
def narrowing? (module : String) : Option (String × String × String) :=
  match (textLines module).dropWhile (!opensClient ·) with
  | opening :: member :: _ => do
      let base ← after? "export type TypedClient = Omit<" opening.toList
      let quoted ← after? ", " (base.dropWhile Identifier.continues)
      let (omitted, _) ← literal? quoted
      let declared ← after? "  " member.toList
      return (nameAt base, omitted, nameAt declared)
  | _ => none

variable {table : TypeTable} {options : ModuleOptions}

/-- The line that begins the declaration binds the name of the client's type. -/
theorem boundNames_of_opensClient {line : String} (opens : opensClient line = true) :
    boundNames line = ["TypedClient"] := by
  rw [opensClient, List.isPrefixOf_iff_prefix] at opens
  obtain ⟨rest, whole⟩ := opens
  rw [boundNames, ← whole]
  rfl

theorem not_opensClient_of_not_mem {lines : List String}
    (absent : "TypedClient" ∉ lines.flatMap boundNames) :
    ∀ line ∈ lines, (!opensClient line) = true := by
  intro line member
  rw [Bool.not_eq_true', ← Bool.not_eq_true]
  intro opens
  refine absent (List.mem_flatMap.mpr ⟨line, member, ?_⟩)
  rw [boundNames_of_opensClient opens]
  exact List.mem_singleton.mpr rfl

theorem narrowing?_module (client : Identifier.accepts options.clientType = true)
    (wrapper : Identifier.accepts options.resultWrapper = true) (words : table.NamesAreWords)
    (descriptions : QueryDescriptions) :
    narrowing? (synthesize descriptions table options).module =
      some (options.clientType, "query", "query") := by
  have isClient : IsName options.clientType := Identifier.continues_of_accepts client
  have head : ∀ line ∈ headLines options, (!opensClient line) = true := by
    simp only [headLines, List.forall_mem_cons, String.append_assoc, opensClient,
      String.toList_append]
    exact ⟨rfl, rfl, rfl, List.forall_mem_nil _⟩
  have queries : ∀ line ∈ queriesLines table 0 descriptions.entries,
      (!opensClient line) = true := by
    refine not_opensClient_of_not_mem fun member => ?_
    rw [flatMap_queriesLines] at member
    exact not_unnumbered_of_mem_typeNames member (by unfold Unnumbered; decide)
  have selection : ∀ line ∈ selectionLines descriptions.size, (!opensClient line) = true := by
    refine not_opensClient_of_not_mem ?_
    rw [flatMap_selectionLines]
    decide
  have before : ∀ line ∈ headLines options ++ queriesLines table 0 descriptions.entries ++
      selectionLines descriptions.size, (!opensClient line) = true :=
    List.forall_mem_append.mpr ⟨List.forall_mem_append.mpr ⟨head, queries⟩, selection⟩
  have opening : ("export type TypedClient = Omit<" ++ options.clientType ++
      ", \"query\"> & \x7b").toList = "export type TypedClient = Omit<".toList ++
        (options.clientType.toList ++ ", \"query\"> & \x7b".toList) := by
    simp only [String.toList_append, List.append_assoc]
  have opens : (!opensClient ("export type TypedClient = Omit<" ++ options.clientType ++
      ", \"query\"> & \x7b")) = false := by
    rw [opensClient, opening]
    rfl
  have base : (options.clientType.toList ++ ", \"query\"> & \x7b".toList).dropWhile
      Identifier.continues = ", \"query\"> & \x7b".toList := by
    rw [List.dropWhile_append_of_pos isClient]
    rfl
  rw [narrowing?, textLines_module client wrapper words, lines, tailLines_eq, ← List.append_assoc,
    List.append_assoc _ (clientLines options), List.dropWhile_append_of_pos before, clientLines,
    List.cons_append, List.cons_append, List.dropWhile_cons_of_neg (by rw [opens]; decide)]
  dsimp only
  rw [opening, after?_append]
  simp only [Option.bind_eq_bind, Option.bind_some, base]
  have name : nameAt (options.clientType.toList ++ ", \"query\"> & \x7b".toList) =
      options.clientType := nameAt_append isClient (by decide)
  have omitted : literal? "\"query\"> & \x7b".toList = some ("query", "> & \x7b".toList) := by
    decide +kernel
  have separated : after? ", " ", \"query\"> & \x7b".toList = some "\"query\"> & \x7b".toList := rfl
  have declared : after? "  " "  query<Q extends string, T = any>(".toList =
      some "query<Q extends string, T = any>(".toList := rfl
  have member : nameAt "query<Q extends string, T = any>(".toList = "query" := by decide
  simp only [name, separated, omitted, declared, Option.bind_some, member]
  rfl

end Synthesis

namespace Generation

open Synthesis

variable {root : Path} {settings : Settings} {observers : Nat} {fs gs : FileSystem}
  {exchanges : List (Exchange RunInterface)} {report : Report}

/-- A run that succeeds writes a module of the texts of the configured method's calls, and that
module narrows `query`. -/
theorem exists_narrowing_of_runs_ok [Grammars] (valid : settings.fault? = none)
    (sound : fs.Sound)
    (runs : (generate root settings observers).Runs exchanges (.ok report))
    (serves : fs.Serves exchanges gs) :
    ∃ descriptions place,
      (fs.makeDirectories (Output.directory (settings.outputPath root))).2.Replaces
        (settings.outputPath root) place
        (synthesize descriptions .builtin settings.moduleOptions).module.toUTF8 gs ∧
      descriptions.texts = Source.distinctTexts root settings fs ∧
      narrowing? (synthesize descriptions .builtin settings.moduleOptions).module =
        some (settings.moduleOptions.clientType, "query", "query") := by
  obtain ⟨client, wrapper⟩ := settings.accepts_of_fault? valid
  obtain ⟨descriptions, place, entries, replaces⟩ := replaces_of_runs_ok sound runs serves
  refine ⟨descriptions, place, replaces, ?_,
    narrowing?_module client wrapper TypeTable.namesAreWords_builtin descriptions⟩
  rw [QueryDescriptions.texts, entries]
  exact (texts_of_runs_ok runs serves).2.2

/-- **Which method is narrowed.** A run that succeeds with settings without a fault puts a module
into its place that is made of the texts of the calls of the method which the settings name. In
the module, the type of the client leaves out the member `query` of the client's own type and
declares a member of that name anew. So the method that is narrowed is the one whose calls
are scanned exactly if the settings name `query`. -/
theorem narrows_scanned_method_iff [Grammars] (settings : Settings)
    (valid : settings.fault? = none) (sound : fs.Sound)
    (runs : (generate root settings observers).Runs exchanges (.ok report))
    (serves : fs.Serves exchanges gs) :
    ∃ descriptions place,
      let module := (synthesize descriptions .builtin settings.moduleOptions).module
      (fs.makeDirectories (Output.directory (settings.outputPath root))).2.Replaces
        (settings.outputPath root) place module.toUTF8 gs ∧
      descriptions.texts = Source.distinctTexts root settings fs ∧
      narrowing? module = some (settings.moduleOptions.clientType, "query", "query") ∧
      (narrowing? module =
          some (settings.moduleOptions.clientType, settings.method, settings.method) ↔
        settings.method = "query") := by
  obtain ⟨descriptions, place, replaces, texts, narrowing⟩ :=
    exists_narrowing_of_runs_ok valid sound runs serves
  refine ⟨descriptions, place, replaces, texts, narrowing, ?_⟩
  rw [narrowing]
  constructor
  · intro same
    exact (Prod.mk.inj (Prod.mk.inj (Option.some.inj same)).2).1.symm
  · intro named
    rw [named]

/-- With the settings that are the default, the method of the calls is narrowed. -/
theorem narrows_scanned_method_by_default :
    let fs := singleSource "a.ts" "db.query('one');"
    Settings.fault? {} = none ∧ fs.Sound ∧ ∃ exchanges gs report module place,
      (generate (.ofString "/") {} 0).Runs exchanges (.ok report) ∧ fs.Serves exchanges gs ∧
      Source.distinctTexts (.ofString "/") {} fs = ["one"] ∧
      gs.node? place = some (.file (String.toUTF8 module)) ∧
      narrowing? module = some ("PGlite", Settings.method {}, Settings.method {}) := by
  intro fs
  let state : Simulation.ProbedWorld := { world := { files := fs }, script := plainProbe }
  have valid : Settings.fault? {} = none := by decide +kernel
  have sound : fs.Sound := FileSystem.sound_of_nodes (by decide +kernel)
  have succeeds : (state.perform (generate (.ofString "/") {} 0)).1.isOk := by decide +kernel
  have texts : Source.distinctTexts (.ofString "/") {} fs = ["one"] := by decide +kernel
  obtain ⟨exchanges, report, runs, serves, -⟩ :=
    Simulation.ProbedWorld.exists_runs_of_isOk succeeds
  obtain ⟨descriptions, place, replaces, -, -, narrowed⟩ :=
    narrows_scanned_method_iff {} valid sound runs serves
  exact ⟨valid, sound, exchanges, _, report, _, place.location, runs, serves, texts,
    replaces.adds.file, narrowed.mpr rfl⟩

/-- Settings that name another method than the default. -/
def executeMethod : Settings := { scan := { method := some "execute" } }

/-- The calls of another method are scanned, and `query` is narrowed all the same. -/
theorem narrows_other_method :
    let fs := singleSource "a.ts" "db.execute('one');"
    executeMethod.fault? = none ∧ fs.Sound ∧ ∃ exchanges gs report module place,
      (generate (.ofString "/") executeMethod 0).Runs exchanges (.ok report) ∧
      fs.Serves exchanges gs ∧
      Source.distinctTexts (.ofString "/") executeMethod fs = ["one"] ∧
      gs.node? place = some (.file (String.toUTF8 module)) ∧
      executeMethod.method = "execute" ∧
      narrowing? module = some ("PGlite", "query", "query") := by
  intro fs
  let state : Simulation.ProbedWorld := { world := { files := fs }, script := plainProbe }
  have valid : executeMethod.fault? = none := by decide +kernel
  have sound : fs.Sound := FileSystem.sound_of_nodes (by decide +kernel)
  have succeeds : (state.perform (generate (.ofString "/") executeMethod 0)).1.isOk := by
    decide +kernel
  have texts : Source.distinctTexts (.ofString "/") executeMethod fs = ["one"] := by decide +kernel
  obtain ⟨exchanges, report, runs, serves, -⟩ :=
    Simulation.ProbedWorld.exists_runs_of_isOk succeeds
  obtain ⟨descriptions, place, replaces, -, narrowing⟩ :=
    exists_narrowing_of_runs_ok valid sound runs serves
  exact ⟨valid, sound, exchanges, _, report, _, place.location, runs, serves, texts,
    replaces.adds.file, rfl, narrowing⟩

end Generation

end TypedQueries
