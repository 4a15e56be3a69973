import TypedQueries.Proofs.FileSystem.Rewriting
import TypedQueries.Proofs.Simulation.Service
import TypedQueries.Proofs.Source.Renewal

/-! # Runs without faults

Where nothing but the files and the settings is at fault, each change comes to what it should
(`FileSystem.Obeys`), and the probe replies in view of the scripts that have been applied
(`Probe.AnswersBy`). There are such runs of every activity (`Generation.exists_runs_obeyed`).
-/

namespace TypedQueries

namespace FileSystem

/-- What becomes of the files when nothing but them is at fault: each change comes to what it
should. A temporary file has any name that is free, and can be made if there is one. Observers may
fail, and workers finish in any order. -/
inductive Obeys (fs : FileSystem) :
    (request : Surroundings.Request) → Surroundings.Reply request → FileSystem → Prop
  | survey : Obeys fs .survey fs fs
  | directories {path : Path} {reply : Except SystemFault Unit} {gs : FileSystem}
      (made : fs.makeDirectories path = (reply, gs)) : Obeys fs (.makeDirectories path) reply gs
  | temporary {directory : Path} {name : Name} {reply : Except SystemFault Path} {gs : FileSystem}
      (offers : fs.Offers directory name)
      (made : fs.makeTemporaryNamed (fun _ => name) directory = (reply, gs)) :
      Obeys fs (.makeTemporary directory) reply gs
  | crowded {directory : Path} {fault : SystemFault} (full : ¬ ∃ name, fs.Offers directory name) :
      Obeys fs (.makeTemporary directory) (.error fault) fs
  | fill {path : Path} {content : ByteArray} {reply : Except SystemFault Unit} {gs : FileSystem}
      (filled : fs.fill path content = (reply, gs)) : Obeys fs (.fill path content) reply gs
  | sync {path : Path} : Obeys fs (.sync path) (.ok ()) fs
  | rename {source target : Path} {reply : Except SystemFault Unit} {gs : FileSystem}
      (renamed : fs.rename source target = (reply, gs)) : Obeys fs (.rename source target) reply gs
  | discard {path : Path} : Obeys fs (.discard path) () (fs.remove path)
  | tell {observer : Nat} {event : Event} {fails : Bool} : Obeys fs (.tell observer event) fails fs
  | log {record : LogRecord} : Obeys fs (.log record) () fs
  | elapsed {duration : Nat} : Obeys fs .elapsed duration fs
  | workers {pieces : Nat} {finished : List Nat} : Obeys fs (.workers pieces) (.ok finished) fs

/-- That exchanges lead from one state of the files to another and nothing else is at fault. -/
inductive Undergoes : FileSystem → List (Exchange Surroundings) → FileSystem → Prop
  | nil {fs : FileSystem} : Undergoes fs [] fs
  | cons {fs gs hs : FileSystem} {request : Surroundings.Request}
      {reply : Surroundings.Reply request} {rest : List (Exchange Surroundings)}
      (obeys : fs.Obeys request reply gs) (further : Undergoes gs rest hs) :
      Undergoes fs (⟨request, reply⟩ :: rest) hs

variable {fs gs hs : FileSystem} {request : Surroundings.Request}
  {reply : Surroundings.Reply request}

theorem Undergoes.exists_of_cons {rest : List (Exchange Surroundings)}
    (undergoes : fs.Undergoes (⟨request, reply⟩ :: rest) hs) :
    ∃ gs, fs.Obeys request reply gs ∧ gs.Undergoes rest hs := by
  cases undergoes with
  | cons obeys further => exact ⟨_, obeys, further⟩

theorem Undergoes.exists_of_mem {exchanges : List (Exchange Surroundings)}
    (undergoes : fs.Undergoes exchanges gs) (member : ⟨request, reply⟩ ∈ exchanges) :
    ∃ before after : FileSystem, before.Obeys request reply after := by
  induction undergoes with
  | nil => cases member
  | cons obeys further ih =>
      cases member with
      | head => exact ⟨_, _, obeys⟩
      | tail _ later => exact ih later

theorem exists_obeys (fs : FileSystem) (request : Surroundings.Request) :
    ∃ reply gs, fs.Obeys request reply gs := by
  cases request with
  | survey => exact ⟨_, _, .survey⟩
  | makeDirectories path => exact ⟨_, _, .directories rfl⟩
  | makeTemporary directory =>
      by_cases free : ∃ name, fs.Offers directory name
      · obtain ⟨name, offers⟩ := free
        exact ⟨_, _, .temporary offers rfl⟩
      · exact ⟨.error .missing, _, .crowded free⟩
  | fill path content => exact ⟨_, _, .fill rfl⟩
  | sync path => exact ⟨_, _, .sync⟩
  | rename source target => exact ⟨_, _, .rename rfl⟩
  | discard path => exact ⟨_, _, .discard⟩
  | tell observer event => exact ⟨false, _, .tell⟩
  | log record => exact ⟨_, _, .log⟩
  | elapsed => exact ⟨(0 : Nat), _, .elapsed⟩
  | workers pieces => exact ⟨(.ok [] : Except String (List Nat)), _, .workers⟩

/-- What comes about without other faults is among what can come about. -/
theorem Obeys.answers (obeys : fs.Obeys request reply gs) : fs.Answers request reply gs := by
  cases obeys with
  | survey => exact .survey
  | @directories path reply gs made =>
      have answers := fs.answers_makeDirectories path
      rwa [made] at answers
  | @temporary directory name reply gs offers made =>
      cases reply with
      | ok temporary =>
          obtain ⟨choose, chooses, made⟩ := offers.exists_chooses made
          exact .temporary chooses made
      | error fault =>
          obtain rfl : gs = fs := by
            simp only [makeTemporaryNamed] at made
            repeat' split at made
            all_goals cases made
            all_goals rfl
          exact .noTemporary
  | crowded full => exact .noTemporary
  | @fill path content reply gs filled =>
      have answers := fs.answers_fill path content
      rwa [filled] at answers
  | sync => exact .sync
  | @rename source target reply gs renamed =>
      have answers := fs.answers_rename source target
      rwa [renamed] at answers
  | discard => exact .discarded
  | tell => exact .told
  | log => exact .logged
  | elapsed => exact .elapsed
  | workers => exact .workers

theorem serves_of_undergoes {exchanges : List (Exchange RunInterface)}
    (undergoes : fs.Undergoes (Exchange.lefts exchanges) gs) : fs.Serves exchanges gs := by
  induction exchanges generalizing fs with
  | nil =>
      cases undergoes
      exact .nil
  | cons exchange exchanges ih =>
      obtain ⟨request | request, reply⟩ := exchange
      · cases undergoes with
        | cons obeys further => exact .surroundings obeys.answers (ih further)
      · exact .probe (ih undergoes)

end FileSystem

namespace Probe

/-- The scripts that have been applied in exchanges, or tried to be. -/
def scriptsIn (exchanges : List (Exchange Probe)) : List Migration :=
  exchanges.filterMap fun exchange =>
    match exchange.request with
    | .apply script => some script
    | _ => none

/-- That a probe replies by a function of the scripts before a request and of the request. Whether
it can be disposed of is left open. -/
def AnswersBy (replies : List Migration → (request : Request) → Reply request)
    (exchanges : List (Exchange Probe)) : Prop :=
  ∀ before request reply after, exchanges = before ++ ⟨request, reply⟩ :: after →
    request ≠ .dispose → reply = replies (scriptsIn before) request

variable {replies : List Migration → (request : Request) → Reply request}
  {first second : List (Exchange Probe)}

@[simp] theorem scriptsIn_nil : scriptsIn [] = [] := rfl

@[simp] theorem scriptsIn_append (first second : List (Exchange Probe)) :
    scriptsIn (first ++ second) = scriptsIn first ++ scriptsIn second := List.filterMap_append

/-- Exchanges by a function are so from any of them on, with the scripts before. -/
theorem AnswersBy.of_append (answers : AnswersBy replies (first ++ second)) :
    AnswersBy (fun scripts => replies (scriptsIn first ++ scripts)) second := by
  rintro before request reply after rfl isWork
  rw [answers (first ++ before) request reply after (List.append_assoc ..).symm isWork,
    scriptsIn_append]

theorem AnswersBy.of_append_left (answers : AnswersBy replies (first ++ second)) :
    AnswersBy replies first := by
  rintro before request reply after rfl isWork
  exact answers before request reply (after ++ second) (by simp) isWork

end Probe

namespace Generation

/-- However the probe replies, there is a run without other faults. -/
theorem exists_runs_obeyed {α : Type}
    (replies : List Migration → (request : Probe.Request) → Probe.Reply request)
    (activity : Activity RunInterface α) (fs : FileSystem) (past : List (Exchange Probe)) :
    ∃ exchanges result gs, activity.Runs exchanges result ∧
      fs.Undergoes (Exchange.lefts exchanges) gs ∧
      Probe.AnswersBy (fun scripts => replies (Probe.scriptsIn past ++ scripts))
        (Exchange.rights exchanges) := by
  induction activity generalizing fs past with
  | done result => exact ⟨[], result, fs, .done, .nil, by simp [Probe.AnswersBy]⟩
  | ask request next ih =>
      cases request with
      | inl request =>
          obtain ⟨reply, between, obeys⟩ := fs.exists_obeys request
          obtain ⟨exchanges, result, gs, runs, undergoes, answers⟩ := ih reply between past
          exact ⟨_, result, gs, .ask runs, .cons obeys undergoes, answers⟩
      | inr request =>
          let reply := replies (Probe.scriptsIn past) request
          obtain ⟨exchanges, result, gs, runs, undergoes, answers⟩ :=
            ih reply fs (past ++ [⟨request, reply⟩])
          refine ⟨_, result, gs, .ask runs, undergoes, ?_⟩
          intro before asked given after parts isWork
          change (⟨request, reply⟩ : Exchange Probe) :: Exchange.rights exchanges = _ at parts
          cases before with
          | nil =>
              cases parts
              simp [reply]
          | cons first before =>
              obtain ⟨rfl, rest⟩ := List.cons.inj parts
              have whole : Probe.scriptsIn (past ++ [⟨request, reply⟩]) ++ Probe.scriptsIn before =
                  Probe.scriptsIn past ++ Probe.scriptsIn (⟨request, reply⟩ :: before) := by
                rw [Probe.scriptsIn_append, List.append_assoc, ← Probe.scriptsIn_append]
                rfl
              dsimp only
              rw [← whole]
              exact answers before asked given after rest isWork

/-- An exchange with the surroundings, if it is a change of files. -/
def change? (exchange : Exchange Surroundings) : Option (Exchange Surroundings) :=
  (Action.ofSurroundings 0 exchange.request exchange.reply).bind Action.change?

theorem changes_visible (joined : Bool) (actions : List Action) :
    changes (Action.visible joined actions) = changes actions := by
  rw [changes, Action.visible, List.filterMap_filter]
  refine List.filterMap_congr fun action _ => ?_
  cases joined <;> cases action <;> rfl

/-- What is changed is seen. -/
theorem AmountTo.changes_eq {observers : Nat} {exchanges : List (Exchange RunInterface)}
    {actions : List Action} (amount : AmountTo observers exchanges actions) :
    (Exchange.lefts exchanges).filterMap change? = changes actions := by
  rw [← changes_visible, ← amount 0, changes, List.filterMap_filterMap, Exchange.lefts,
    List.filterMap_filterMap]
  refine List.filterMap_congr fun exchange _ => ?_
  obtain ⟨request | request, reply⟩ := exchange <;> rfl

/-- Only what is a change of files changes them. -/
theorem undergoes_changes {exchanges : List (Exchange Surroundings)} {fs gs : FileSystem}
    (undergoes : fs.Undergoes exchanges gs) : fs.Undergoes (exchanges.filterMap change?) gs := by
  induction undergoes with
  | nil => exact .nil
  | @cons fs gs hs request reply rest obeys further ih =>
      cases request with
      | survey | log _ | elapsed | workers _ =>
          cases obeys
          exact ih
      | tell observer event =>
          cases obeys
          rw [List.filterMap_cons_none]
          · exact ih
          · rw [change?, Action.ofSurroundings]
            split <;> rfl
      | makeDirectories _ | makeTemporary _ | fill _ _ | sync _ | rename _ _ | discard _ =>
          exact .cons obeys ih

theorem AmountTo.undergoes {observers : Nat} {exchanges : List (Exchange RunInterface)}
    {actions : List Action} {fs gs : FileSystem} (amount : AmountTo observers exchanges actions)
    (undergoes : fs.Undergoes (Exchange.lefts exchanges) gs) :
    fs.Undergoes (changes actions) gs := by
  rw [← amount.changes_eq]
  exact undergoes_changes undergoes

/-- Workers that finish are not seen to stop. -/
theorem AmountTo.finishes {observers : Nat} {exchanges : List (Exchange RunInterface)}
    {actions : List Action} {fs gs : FileSystem} (amount : AmountTo observers exchanges actions)
    (undergoes : fs.Undergoes (Exchange.lefts exchanges) gs) (detail : String) :
    .stopped detail ∉ actions := by
  intro member
  obtain ⟨⟨request | request, reply⟩, present, shown⟩ := amount.exists_seen member rfl
  · obtain ⟨before, after, obeys⟩ := undergoes.exists_of_mem (Exchange.mem_lefts present)
    cases obeys with
    | workers => cases shown
    | @tell listener event failed =>
        simp only [Action.seen?, Action.ofSurroundings] at shown
        split at shown <;> cases shown
    | survey | directories _ | temporary _ _ | crowded _ | fill _ | sync | rename _ | discard
      | log | elapsed => cases shown
  · cases shown

section Writing

variable {output : Path} {text : String} {actions : List Action}
  {fs gs : FileSystem} {spot : FileSystem.Spot}

/-- That a module can be written where its path ends: its directory is there and has room for a
temporary file, which can be put into the module's place. -/
structure Rewritable (fs : FileSystem) (output : Path) (spot : FileSystem.Spot) : Prop where
  made : fs.makeDirectories (Output.directory output) = (.ok (), fs)
  room : ∃ location, fs.HasRoom (Output.directory output) location
  ends : fs.spot .busy output = .ok spot
  unslashed : spot.slashed = false
  opened : fs.node? spot.directory = some .directory
  unobstructed : ¬ fs.DirectoryAt spot.location

/-- What has replaced a file can be replaced again. -/
theorem Rewritable.of_replaces {grown : FileSystem} {content : ByteArray} {location : Location}
    (plain : grown.Plain) (made : fs.makeDirectories (Output.directory output) = (.ok (), grown))
    (room : grown.HasRoom (Output.directory output) location)
    (replaces : grown.Replaces output spot content gs) : Rewritable gs output spot := by
  have retains : grown.Retains gs :=
    (FileSystem.Renews.of_replaces (.refl grown) plain replaces).retains
  obtain ⟨around, name, slashed⟩ := spot
  obtain rfl : slashed = false := replaces.unslashed
  refine ⟨FileSystem.makeDirectories_again made retains, ⟨location, room.of_retains retains⟩,
    FileSystem.spot_of_retains retains replaces.spot, rfl,
    retains.directory replaces.opened, fun directory => ?_⟩
  exact directory.not_fileAt ⟨_, replaces.adds.file, rfl⟩

/-- A module that has been written without other faults can be written again. The name of the
temporary file is free again, unless it is that of the module. -/
theorem Writing.rewritable (writing : Writing output text actions (.ok ())) (plain : fs.Plain)
    (undergoes : fs.Undergoes (changes actions) gs) :
    gs.Plain ∧ ∃ spot, fs.Renews spot.location text.toUTF8 gs ∧ Rewritable gs output spot ∧
      (spot.name.IsTemporary ∨ ∃ name, gs.Offers (Output.directory output) name) := by
  cases writing with
  | all replacing =>
  cases replacing with
  | all =>
  obtain ⟨grown, makes, undergoes⟩ := undergoes.exists_of_cons
  obtain ⟨begun, begins, undergoes⟩ := undergoes.exists_of_cons
  obtain ⟨filled, fills, undergoes⟩ := undergoes.exists_of_cons
  obtain ⟨synced, syncs, undergoes⟩ := undergoes.exists_of_cons
  obtain ⟨renewed, renames, undergoes⟩ := undergoes.exists_of_cons
  cases undergoes
  cases makes with | directories made =>
  cases begins with | @temporary _ name _ _ offers began =>
  cases fills with | fill fill =>
  cases syncs with | sync =>
  cases renames with | rename renamed =>
  have grows := FileSystem.growsTo_makeDirectories fs (Output.directory output)
  have grownPlain := plain.makeDirectories (Output.directory output)
  rw [made] at grows grownPlain
  obtain ⟨choose, chooses, chosen⟩ := offers.exists_chooses began
  obtain ⟨directory, holds⟩ := FileSystem.hasTemporary_of_makeTemporaryNamed chooses chosen
  have begunPlain := grownPlain.makeTemporaryNamed chooses chosen
  have filledPlain := holds.plain_fill begunPlain fill
  have holdsFilled := holds.fill fill
  obtain ⟨location, room⟩ := FileSystem.hasRoom_of_makeTemporaryNamed
    (fun _ => offers.isTemporary.proper) (fun _ => offers.length) began
  obtain ⟨spot, replaces⟩ := holdsFilled.rename grownPlain.sound renamed
  refine ⟨holdsFilled.plain_rename grownPlain.sound filledPlain renamed, spot,
    .of_replaces grows grownPlain replaces, .of_replaces grownPlain made room replaces, ?_⟩
  by_cases same : location ++ [name] = spot.location
  · have named : name = spot.name := List.singleton_inj.mp (List.append_inj' same rfl).2
    exact .inl (named ▸ offers.isTemporary)
  · have retains := (FileSystem.Renews.of_replaces (.refl grown) grownPlain replaces).retains
    exact .inr ⟨name, offers.of_addsFile room retains replaces.adds same⟩

/-- A temporary file is made in the directory that is there. -/
theorem Rewritable.exists_hasTemporary {temporary : Path} {rest : List (Exchange Surroundings)}
    (rewritable : Rewritable fs output spot)
    (undergoes : fs.Undergoes
      (⟨.makeDirectories (Output.directory output), .ok ()⟩ ::
        ⟨.makeTemporary (Output.directory output), .ok temporary⟩ :: rest) gs) :
    ∃ location name begun, fs.HasTemporary temporary location name .empty begun ∧
      begun.Undergoes rest gs := by
  obtain ⟨grown, makes, begins⟩ := undergoes.exists_of_cons
  obtain ⟨begun, begins, further⟩ := begins.exists_of_cons
  cases makes with | directories made =>
  obtain rfl : grown = fs := (congrArg Prod.snd (made.symm.trans rewritable.made))
  cases begins with | temporary offers began =>
  obtain ⟨choose, chooses, chosen⟩ := offers.exists_chooses began
  obtain ⟨location, holds⟩ := FileSystem.hasTemporary_of_makeTemporaryNamed chooses chosen
  exact ⟨location, _, begun, holds, further⟩

/-- A temporary file that is filled and synced has what it was filled with. -/
theorem exists_filled_of_undergoes {temporary : Path} {location : Location} {name : Name}
    {content other : ByteArray} {begun : FileSystem} {rest : List (Exchange Surroundings)}
    (holds : fs.HasTemporary temporary location name content begun)
    (undergoes : begun.Undergoes
      (⟨.fill temporary other, .ok ()⟩ :: ⟨.sync temporary, .ok ()⟩ :: rest) gs) :
    ∃ filled, fs.HasTemporary temporary location name other filled ∧ filled.Undergoes rest gs := by
  obtain ⟨filled, fills, undergoes⟩ := undergoes.exists_of_cons
  obtain ⟨synced, syncs, undergoes⟩ := undergoes.exists_of_cons
  cases fills with | fill fill =>
  cases syncs with | sync =>
  exact ⟨filled, holds.fill fill, undergoes⟩

/-- A module that can be written is written. -/
theorem Rewritable.writing {outcome : Except OutputFailure Unit}
    (rewritable : Rewritable fs output spot)
    (free : ∃ name, fs.Offers (Output.directory output) name) (sound : fs.Sound)
    (writing : Writing output text actions outcome)
    (undergoes : fs.Undergoes (changes actions) gs) :
    outcome = .ok () ∧ fs.Replaces output spot text.toUTF8 gs := by
  have rename {temporary : Path} {location : Location} {name : Name} {content : ByteArray}
      {begun : FileSystem} (holds : fs.HasTemporary temporary location name content begun) :
      (begun.rename temporary output).1 = .ok () :=
    holds.rename_eq rewritable.ends rewritable.unslashed rewritable.opened rewritable.unobstructed
  cases writing with
  | noDirectory =>
      obtain ⟨grown, makes, -⟩ := undergoes.exists_of_cons
      cases makes with | directories made =>
      cases made.symm.trans rewritable.made
  | noTemporary =>
      obtain ⟨grown, makes, undergoes⟩ := undergoes.exists_of_cons
      obtain ⟨begun, begins, -⟩ := undergoes.exists_of_cons
      cases makes with | directories made =>
      obtain rfl : grown = fs := (congrArg Prod.snd (made.symm.trans rewritable.made))
      cases begins with
      | temporary offers began =>
          obtain ⟨location, room⟩ := rewritable.room
          obtain ⟨temporary, made, -⟩ := room.exists_hasTemporary offers
          cases began.symm.trans made
      | crowded full => exact absurd free full
  | removed replacing =>
      cases replacing with
      | notFilled =>
          obtain ⟨location, name, begun, holds, undergoes⟩ :=
            rewritable.exists_hasTemporary undergoes
          obtain ⟨filled, fills, -⟩ := undergoes.exists_of_cons
          cases fills with | fill fill =>
          cases (congrArg Prod.fst fill).symm.trans (holds.fill_eq _)
      | notSynced =>
          obtain ⟨location, name, begun, holds, undergoes⟩ :=
            rewritable.exists_hasTemporary undergoes
          obtain ⟨filled, fills, undergoes⟩ := undergoes.exists_of_cons
          obtain ⟨synced, syncs, -⟩ := undergoes.exists_of_cons
          cases syncs
      | notReplaced =>
          obtain ⟨location, name, begun, holds, undergoes⟩ :=
            rewritable.exists_hasTemporary undergoes
          obtain ⟨filled, holds, undergoes⟩ := exists_filled_of_undergoes holds undergoes
          obtain ⟨renewed, renames, -⟩ := undergoes.exists_of_cons
          cases renames with | rename renamed =>
          cases (congrArg Prod.fst renamed).symm.trans (rename holds)
  | all replacing =>
      cases replacing with
      | all =>
          obtain ⟨location, name, begun, holds, undergoes⟩ :=
            rewritable.exists_hasTemporary undergoes
          obtain ⟨filled, holds, undergoes⟩ := exists_filled_of_undergoes holds undergoes
          obtain ⟨renewed, renames, undergoes⟩ := undergoes.exists_of_cons
          cases undergoes
          cases renames with | rename renamed =>
          obtain ⟨place, replaces⟩ := holds.rename sound renamed
          obtain rfl := Except.ok.inj (replaces.spot.symm.trans rewritable.ends)
          exact ⟨rfl, replaces⟩

end Writing

end Generation

end TypedQueries
