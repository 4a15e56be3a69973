import TypedQueries.Proofs.FileSystem.Temporary
import TypedQueries.Proofs.Generation.Disposal
import TypedQueries.Proofs.Generation.Ending

/-! # The files of a run

`FileSystem.Answers` says what can become of the files when the surroundings are asked for
something, faults included, and `FileSystem.Serves` what becomes of them in a run. Only what is
seen to be changed changes them (`Generation.Lead`). Writing the module either leaves every file
as it was (`Writing.preserves`) or puts the module into its place (`Writing.replaces`).
-/

namespace TypedQueries

/-- What can become of the files when the surroundings are asked for something. A change comes
about as it should, with any new name for a temporary file, or it fails: then directories may have
been made, a file may have been filled with something else, and a temporary file may be left. -/
inductive FileSystem.Answers (fs : FileSystem) :
    (request : Surroundings.Request) → Surroundings.Reply request → FileSystem → Prop
  | survey : Answers fs .survey fs fs
  | directories {path : Path} {gs : FileSystem}
      (made : fs.makeDirectories path = (.ok (), gs)) :
      Answers fs (.makeDirectories path) (.ok ()) gs
  | noDirectories {path : Path} {fault : SystemFault} {gs : FileSystem} (grows : fs.GrowsTo gs) :
      Answers fs (.makeDirectories path) (.error fault) gs
  | temporary {directory path : Path} {choose : Location → Name} {gs : FileSystem}
      (chooses : fs.Chooses choose)
      (made : fs.makeTemporaryNamed choose directory = (.ok path, gs)) :
      Answers fs (.makeTemporary directory) (.ok path) gs
  | noTemporary {directory : Path} {fault : SystemFault} :
      Answers fs (.makeTemporary directory) (.error fault) fs
  | filled {path : Path} {content : ByteArray} {gs : FileSystem}
      (fill : fs.fill path content = (.ok (), gs)) : Answers fs (.fill path content) (.ok ()) gs
  | spoiled {path : Path} {content other : ByteArray} {fault : SystemFault} {gs : FileSystem}
      (fill : fs.fill path other = (.ok (), gs)) :
      Answers fs (.fill path content) (.error fault) gs
  | unfilled {path : Path} {content : ByteArray} {fault : SystemFault} :
      Answers fs (.fill path content) (.error fault) fs
  | sync {path : Path} {reply : Except SystemFault Unit} : Answers fs (.sync path) reply fs
  | renamed {source target : Path} {gs : FileSystem}
      (rename : fs.rename source target = (.ok (), gs)) :
      Answers fs (.rename source target) (.ok ()) gs
  | notRenamed {source target : Path} {fault : SystemFault} :
      Answers fs (.rename source target) (.error fault) fs
  | discarded {path : Path} : Answers fs (.discard path) () (fs.remove path)
  | left {path : Path} : Answers fs (.discard path) () fs
  | told {observer : Nat} {event : Event} {fails : Bool} :
      Answers fs (.tell observer event) fails fs
  | logged {record : LogRecord} : Answers fs (.log record) () fs
  | elapsed {duration : Nat} : Answers fs .elapsed duration fs
  | workers {pieces : Nat} {reply : Except String (List Nat)} :
      Answers fs (.workers pieces) reply fs

/-- That exchanges of a run lead from one state of the files to another. The probe has no part in
them. -/
inductive FileSystem.Serves : FileSystem → List (Exchange RunInterface) → FileSystem → Prop
  | nil {fs : FileSystem} : Serves fs [] fs
  | surroundings {fs gs hs : FileSystem} {request : Surroundings.Request}
      {reply : Surroundings.Reply request} {rest : List (Exchange RunInterface)}
      (answers : fs.Answers request reply gs) (serves : Serves gs rest hs) :
      Serves fs (⟨.inl request, reply⟩ :: rest) hs
  | probe {fs hs : FileSystem} {request : Probe.Request} {reply : Probe.Reply request}
      {rest : List (Exchange RunInterface)} (serves : Serves fs rest hs) :
      Serves fs (⟨.inr request, reply⟩ :: rest) hs

namespace Generation

/-- That an action leads from one state of the files to another. -/
inductive Action.Leads : Action → FileSystem → FileSystem → Prop
  | heard {event : Event} {fs : FileSystem} : Leads (.heard event) fs fs
  | surveyed {fs : FileSystem} : Leads (.surveyed fs) fs fs
  | changed {request : Surroundings.Request} {reply : Surroundings.Reply request}
      {fs gs : FileSystem} (answers : fs.Answers request reply gs) :
      Leads (.changed ⟨request, reply⟩) fs gs
  | probed {exchange : Exchange Probe} {fs : FileSystem} : Leads (.probed exchange) fs fs
  | stopped {detail : String} {fs : FileSystem} : Leads (.stopped detail) fs fs

/-- That actions lead from one state of the files to another. -/
inductive Lead : List Action → FileSystem → FileSystem → Prop
  | nil {fs : FileSystem} : Lead [] fs fs
  | cons {action : Action} {rest : List Action} {fs gs hs : FileSystem}
      (first : action.Leads fs gs) (further : Lead rest gs hs) : Lead (action :: rest) fs hs

namespace Lead

variable {actions first second : List Action} {fs gs hs : FileSystem}

theorem exists_of_append (leads : Lead (first ++ second) fs hs) :
    ∃ gs, Lead first fs gs ∧ Lead second gs hs := by
  induction first generalizing fs with
  | nil => exact ⟨fs, .nil, leads⟩
  | cons action first ih =>
      cases leads with
      | cons begins further =>
          obtain ⟨between, goesOn, ends⟩ := ih further
          exact ⟨between, .cons begins goesOn, ends⟩

theorem exists_of_changed {exchange : Exchange Surroundings}
    (leads : Lead (.changed exchange :: second) fs hs) :
    ∃ gs, fs.Answers exchange.request exchange.reply gs ∧ Lead second gs hs := by
  cases leads with
  | cons begins further =>
      cases begins with
      | changed answers => exact ⟨_, answers, further⟩

theorem answers_of_changed {exchange : Exchange Surroundings}
    (leads : Lead [.changed exchange] fs gs) :
    fs.Answers exchange.request exchange.reply gs := by
  obtain ⟨between, answers, further⟩ := leads.exists_of_changed
  cases further
  exact answers

/-- Files stay as they are where nothing is changed. -/
theorem eq_of_changes_eq_nil (leads : Lead actions fs gs) (unchanged : changes actions = []) :
    gs = fs := by
  induction leads with
  | nil => rfl
  | cons begins further ih =>
      cases begins with
      | heard | surveyed | probed | stopped => exact ih unchanged
      | changed answers => cases unchanged

theorem of_visible {joined : Bool} (leads : Lead (Action.visible joined actions) fs gs) :
    Lead actions fs gs := by
  induction actions generalizing fs with
  | nil => exact leads
  | cons action actions ih =>
      rw [Action.visible, List.filter_cons] at leads
      split at leads
      · cases leads with
        | cons begins further => exact .cons begins (ih further)
      · next unheard =>
        cases action with
        | heard event => exact .cons .heard (ih leads)
        | surveyed | changed | probed | stopped => cases joined <;> exact absurd rfl unheard

end Lead

/-- What is seen of exchanges leads where they do. -/
theorem lead_of_serves {exchanges : List (Exchange RunInterface)} {fs gs : FileSystem}
    (serves : fs.Serves exchanges gs) (observer : Nat) :
    Lead (exchanges.filterMap (Action.seen? observer)) fs gs := by
  induction serves with
  | nil => exact .nil
  | probe serves ih => exact .cons .probed ih
  | @surroundings fs gs hs request reply rest answers serves ih =>
      cases request with
      | survey =>
          cases answers
          exact .cons .surveyed ih
      | tell listener event =>
          cases answers
          have shown : Action.seen? observer ⟨.inl (.tell listener event), reply⟩ =
              if listener = observer then some (.heard event) else none := rfl
          rw [List.filterMap_cons, shown]
          by_cases same : listener = observer
          · rw [if_pos same]
            exact .cons .heard ih
          · rwa [if_neg same]
      | log _ | elapsed =>
          cases answers
          exact ih
      | workers _ =>
          cases answers
          cases reply with
          | error detail => exact .cons .stopped ih
          | ok finished => exact ih
      | makeDirectories _ | makeTemporary _ | fill _ _ | sync _ | rename _ _ | discard _ =>
          exact .cons (.changed answers) ih

theorem AmountTo.lead {observers : Nat} {exchanges : List (Exchange RunInterface)}
    {actions : List Action} {fs gs : FileSystem} (amount : AmountTo observers exchanges actions)
    (serves : fs.Serves exchanges gs) : Lead actions fs gs := by
  have leads := lead_of_serves serves 0
  rw [amount] at leads
  exact leads.of_visible

section Write

variable {path temporary : Path} {text : String} {actions : List Action}
  {fs gs hs : FileSystem} {directory : Location} {name : Name} {content : ByteArray}

/-- A temporary file that is filled and synced has what it was filled with. -/
theorem Lead.exists_filled {other : ByteArray}
    (leads : Lead (.changed ⟨.fill temporary other, .ok ()⟩ ::
      .changed ⟨.sync temporary, .ok ()⟩ :: actions) gs hs)
    (holds : fs.HasTemporary temporary directory name content gs) :
    ∃ filled, fs.HasTemporary temporary directory name other filled ∧ Lead actions filled hs := by
  obtain ⟨filled, answers, leads⟩ := leads.exists_of_changed
  obtain ⟨synced, syncs, leads⟩ := leads.exists_of_changed
  cases answers with
  | filled fill =>
      cases syncs
      exact ⟨filled, holds.fill fill, leads⟩

/-- Up to a failure, only the temporary file has been filled. -/
theorem Replacing.hasTemporary {failure : OutputFailure} {other : ByteArray}
    (replacing : Replacing temporary path other actions (.error failure))
    (holds : fs.HasTemporary temporary directory name content gs) (leads : Lead actions gs hs) :
    ∃ content, fs.HasTemporary temporary directory name content hs := by
  cases replacing with
  | notFilled =>
      cases leads.answers_of_changed with
      | spoiled fill => exact ⟨_, holds.fill fill⟩
      | unfilled => exact ⟨_, holds⟩
  | notSynced =>
      obtain ⟨filled, answers, leads⟩ := leads.exists_of_changed
      cases answers with
      | filled fill =>
          cases leads.answers_of_changed
          exact ⟨_, holds.fill fill⟩
  | notReplaced =>
      obtain ⟨filled, holds, leads⟩ := leads.exists_filled holds
      cases leads.answers_of_changed
      exact ⟨_, holds⟩

/-- Without a failure, the temporary file has been filled and put in the place of the other. -/
theorem Replacing.replaces {other : ByteArray}
    (replacing : Replacing temporary path other actions (.ok ()))
    (holds : fs.HasTemporary temporary directory name content gs) (leads : Lead actions gs hs)
    (sound : fs.Sound) : ∃ place, fs.Replaces path place other hs := by
  cases replacing with
  | all =>
      obtain ⟨filled, holds, leads⟩ := leads.exists_filled holds
      cases leads.answers_of_changed with
      | renamed rename => exact holds.rename sound rename

/-- A temporary file is new in what has become of the files with the directories made. -/
theorem Lead.exists_hasTemporary {around : Path}
    (leads : Lead (.changed ⟨.makeDirectories around, .ok ()⟩ ::
      .changed ⟨.makeTemporary around, .ok temporary⟩ :: actions) fs hs) :
    ∃ directory name gs,
      (fs.makeDirectories around).2.HasTemporary temporary directory name .empty gs ∧
        Lead actions gs hs := by
  obtain ⟨grown, makes, leads⟩ := leads.exists_of_changed
  obtain ⟨begun, begins, leads⟩ := leads.exists_of_changed
  cases makes with
  | directories made =>
      cases begins with
      | temporary chooses began =>
          obtain ⟨directory, holds⟩ := FileSystem.hasTemporary_of_makeTemporaryNamed chooses began
          rw [made]
          exact ⟨directory, _, begun, holds, leads⟩

/-- A module that is not written leaves the files as they were. -/
theorem Writing.preserves {failure : OutputFailure}
    (writing : Writing path text actions (.error failure)) (leads : Lead actions fs gs)
    (sound : fs.Sound) : fs.Preserves gs := by
  cases writing with
  | noDirectory =>
      cases leads.answers_of_changed with
      | noDirectories grows => exact grows.preserves
  | noTemporary =>
      obtain ⟨grown, answers, leads⟩ := leads.exists_of_changed
      cases answers with
      | directories made =>
          cases leads.answers_of_changed
          have grows := FileSystem.growsTo_makeDirectories fs (Output.directory path)
          rw [made] at grows
          exact grows.preserves
  | removed replacing =>
      obtain ⟨left, leads, discards⟩ := leads.exists_of_append
      obtain ⟨directory, name, begun, holds, leads⟩ := leads.exists_hasTemporary
      obtain ⟨content, holds⟩ := replacing.hasTemporary holds leads
      have grows := FileSystem.growsTo_makeDirectories fs (Output.directory path)
      cases discards.answers_of_changed with
      | left => exact holds.preserves grows
      | discarded => exact holds.preserves_remove grows (grows.sound sound)

/-- A module that is written takes its place. -/
theorem Writing.replaces (writing : Writing path text actions (.ok ())) (leads : Lead actions fs gs)
    (sound : fs.Sound) :
    ∃ place, (fs.makeDirectories (Output.directory path)).2.Replaces path place text.toUTF8 gs := by
  cases writing with
  | all replacing =>
      obtain ⟨directory, name, begun, holds, leads⟩ := leads.exists_hasTemporary
      have grows := FileSystem.growsTo_makeDirectories fs (Output.directory path)
      exact replacing.replaces holds leads (grows.sound sound)

end Write

/-- A run takes a course, on which the queries are described and the files changed that are in its
exchanges. -/
theorem exists_course_of_runs [Grammars] {root : Path} {settings : Settings} {observers : Nat}
    {exchanges : List (Exchange RunInterface)} {result : Except Failure Report}
    {fs gs : FileSystem} (runs : (generate root settings observers).Runs exchanges result)
    (serves : fs.Serves exchanges gs) :
    ∃ actions, Course root settings actions result ∧
      describedIn exchanges = descriptionsIn actions ∧ Lead actions fs gs := by
  have shows : Shows observers (generate root settings observers) (Course root settings) :=
    .generate root settings
  obtain ⟨actions, amount, course⟩ := Activity.Ensures.of_runs shows runs
  exact ⟨actions, course, amount.describedIn_eq, amount.lead serves⟩

end Generation

end TypedQueries
