import TypedQueries.Proofs.FileSystem.Making
import TypedQueries.Proofs.FileSystem.Treelike
import TypedQueries.Proofs.Simulation.Service

/-! # Files from moment to moment

`FileSystem.Comes` says how the files can be after exchanges in which what is to be removed is
removed, and `FileSystem.Passes` how they can be at any moment of these. `FileSystem.Keeps` says of
an activity what holds at its moments and in its end: each request is looked at once for both. A
temporary file is there from its making to its end, and is in no one's way
(`HasTemporary.at?_or_resolve`). Simulated surroundings lead files so
(`Simulation.World.exists_comes`).
-/

namespace TypedQueries

namespace FileSystem

variable {fs made gs hs now : FileSystem} {path temporary : Path} {directory : Location}
  {name : Name} {content part : ByteArray} {node : Node}

/-- How the files can be while a request is carried out. Directories are made one by one, and a file
is filled bit by bit; all else is done at one stroke. -/
inductive During (fs : FileSystem) : Surroundings.Request → FileSystem → Prop
  | before {request : Surroundings.Request} : During fs request fs
  | making {path : Path} {gs : FileSystem}
      (makes : fs.Makes (ancestry path.bytes.length path) gs) : During fs (.makeDirectories path) gs
  | filling {path : Path} {content part : ByteArray} {gs : FileSystem}
      (fill : fs.fill path part = (.ok (), gs)) : During fs (.fill path content) gs

/-- What can become of the files by way of a request, where no directories are made but those on the
way, and a file that is to be removed is removed. -/
structure AnswersTidily (fs : FileSystem) (exchange : Exchange Surroundings) (gs : FileSystem) :
    Prop where
  answers : fs.Answers exchange.request exchange.reply gs
  makes : ∀ path, exchange.request = .makeDirectories path →
    fs.Makes (ancestry path.bytes.length path) gs
  removes : ∀ path, exchange.request = .discard path → gs = fs.remove path

/-- That exchanges lead from one state of the files to another. -/
inductive Comes : FileSystem → List (Exchange Surroundings) → FileSystem → Prop
  | nil {fs : FileSystem} : Comes fs [] fs
  | cons {fs gs hs : FileSystem} {exchange : Exchange Surroundings}
      {rest : List (Exchange Surroundings)} (tidy : fs.AnswersTidily exchange gs)
      (comes : Comes gs rest hs) : Comes fs (exchange :: rest) hs

/-- That the files can be so at some moment of the exchanges, or after them. -/
inductive Passes : FileSystem → List (Exchange Surroundings) → FileSystem → Prop
  | after {fs : FileSystem} : Passes fs [] fs
  | within {fs now : FileSystem} {exchange : Exchange Surroundings}
      {rest : List (Exchange Surroundings)} (during : fs.During exchange.request now) :
      Passes fs (exchange :: rest) now
  | later {fs gs now : FileSystem} {exchange : Exchange Surroundings}
      {rest : List (Exchange Surroundings)} (tidy : fs.AnswersTidily exchange gs)
      (passes : Passes gs rest now) : Passes fs (exchange :: rest) now

/-- That two file systems have the same at every location. -/
structure Matches (fs gs : FileSystem) : Prop where
  here : gs.here = fs.here
  node? : gs.node? = fs.node?

namespace Matches

theorem refl (fs : FileSystem) : fs.Matches fs := ⟨rfl, rfl⟩

theorem at?_eq (agrees : fs.Matches gs) : gs.at? = fs.at? := by
  funext path
  rw [at?, at?, resolve, resolve, resolveNames, resolveNames, agrees.here, agrees.node?,
    follow_congr agrees.node?]

theorem growsTo (agrees : gs.Matches hs) (grows : fs.GrowsTo gs) : fs.GrowsTo hs where
  here := agrees.here.trans grows.here
  kept present := (congrFun agrees.node? _).trans (grows.kept present)
  made {location node} present := by
    rw [agrees.node?] at present
    refine (grows.made present).imp_right fun ⟨is, inside⟩ => ⟨is, ?_⟩
    rwa [DirectoryAt, agrees.node?]

end Matches

namespace HasTemporary

/-- What a path leads to is not the temporary file unless nothing was there. -/
theorem at?_of_ok (holds : fs.HasTemporary temporary directory name content gs)
    (found : fs.at? path = .ok node) : gs.at? path = .ok node :=
  at?_of_kept holds.adds.here (holds.adds.kept holds.absent) found

theorem at?_or_resolve (holds : fs.HasTemporary temporary directory name content gs)
    (found : gs.at? path = .ok node) :
    fs.at? path = .ok node ∨ gs.resolve path = .ok (directory ++ [name]) := by
  rw [at?_eq_ok_iff] at found
  obtain ⟨location, resolved, present⟩ := found
  by_cases same : location = directory ++ [name]
  · exact .inr (same ▸ resolved)
  · rw [holds.adds.elsewhere same] at present
    refine .inl (at?_eq_ok_iff.mpr ⟨location, ?_, present⟩)
    refine resolveNames_of_retains holds.adds.retains_before resolved fun file => ?_
    rwa [FileAt, ← holds.adds.elsewhere same]

end HasTemporary

theorem During.exists_hasTemporary (during : fs.During (.fill temporary content) now)
    (holds : made.HasTemporary temporary directory name part fs) :
    ∃ part, made.HasTemporary temporary directory name part now := by
  cases during with
  | before => exact ⟨part, holds⟩
  | filling fill => exact ⟨_, holds.fill fill⟩

namespace AnswersTidily

variable {reply : Except SystemFault Unit}

/-- A temporary file is new where none has failed to be made. -/
theorem exists_hasTemporary {around : Path}
    (tidy : fs.AnswersTidily ⟨.makeTemporary around, .ok temporary⟩ gs) :
    ∃ directory name, fs.HasTemporary temporary directory name .empty gs := by
  cases tidy.answers with
  | temporary chooses began =>
      obtain ⟨directory, holds⟩ := hasTemporary_of_makeTemporaryNamed chooses began
      exact ⟨directory, _, holds⟩

theorem eq_of_failed_makeTemporary {around : Path} {fault : SystemFault}
    (tidy : fs.AnswersTidily ⟨.makeTemporary around, .error fault⟩ gs) : gs = fs := by
  cases tidy.answers
  rfl

/-- Filling a temporary file leaves it there, filled if that succeeds. -/
theorem exists_of_fill (tidy : fs.AnswersTidily ⟨.fill temporary content, reply⟩ gs)
    (holds : made.HasTemporary temporary directory name part fs) :
    ∃ part, made.HasTemporary temporary directory name part gs ∧
      (reply = .ok () → part = content) := by
  cases tidy.answers with
  | filled fill => exact ⟨content, holds.fill fill, fun _ => rfl⟩
  | spoiled fill => exact ⟨_, holds.fill fill, nofun⟩
  | unfilled => exact ⟨part, holds, nofun⟩

theorem eq_of_sync (tidy : fs.AnswersTidily ⟨.sync temporary, reply⟩ gs) : gs = fs := by
  cases tidy.answers
  rfl

theorem eq_of_failed_rename {fault : SystemFault}
    (tidy : fs.AnswersTidily ⟨.rename temporary path, .error fault⟩ gs) : gs = fs := by
  cases tidy.answers
  rfl

theorem exists_replaces (tidy : fs.AnswersTidily ⟨.rename temporary path, .ok ()⟩ gs)
    (holds : made.HasTemporary temporary directory name content fs) (sound : made.Sound) :
    ∃ place, made.Replaces path place content gs := by
  cases tidy.answers with
  | renamed rename => exact holds.rename sound rename

/-- A temporary file that is removed has left nothing. -/
theorem matches_of_discard (tidy : fs.AnswersTidily ⟨.discard temporary, ()⟩ gs)
    (holds : made.HasTemporary temporary directory name content fs) (sound : made.Sound) :
    made.Matches gs := by
  obtain rfl := tidy.removes temporary rfl
  exact ⟨holds.here_remove, funext fun location => holds.node?_remove sound location⟩

end AnswersTidily

/-- That whatever is replied, a condition is met by the files at every moment of an activity up to
its last reply, and another by its result with the files in the end. -/
inductive Keeps {α : Type} (meanwhile : FileSystem → Prop) (after : α → FileSystem → Prop) :
    FileSystem → Activity Surroundings α → Prop
  | done {fs : FileSystem} {result : α} (ended : after result fs) :
      Keeps meanwhile after fs (.done result)
  | ask {fs : FileSystem} {request : Surroundings.Request}
      {next : Surroundings.Reply request → Activity Surroundings α}
      (during : ∀ now, fs.During request now → meanwhile now)
      (answered : ∀ reply gs, fs.AnswersTidily ⟨request, reply⟩ gs →
        Keeps meanwhile after gs (next reply)) :
      Keeps meanwhile after fs (.ask request next)

namespace Keeps

variable {α β : Type} {meanwhile : FileSystem → Prop} {between : α → FileSystem → Prop}
  {after : β → FileSystem → Prop} {activity : Activity Surroundings β}
  {exchanges : List (Exchange Surroundings)} {result : β}

theorem bind {first : Activity Surroundings α} {further : α → Activity Surroundings β}
    (keeps : Keeps meanwhile between fs first)
    (goesOn : ∀ result gs, between result gs → Keeps meanwhile after gs (further result)) :
    Keeps meanwhile after fs (first >>= further) := by
  induction keeps with
  | done ended => exact goesOn _ _ ended
  | ask during _ ih => exact .ask during ih

theorem weaken {weaker : FileSystem → Prop} (keeps : Keeps meanwhile after fs activity)
    (implies : ∀ now, meanwhile now → weaker now) : Keeps weaker after fs activity := by
  induction keeps with
  | done ended => exact .done ended
  | ask during _ ih => exact .ask (fun now moment => implies now (during now moment)) ih

/-- The condition for the end is met where a run has come to. -/
theorem comes (keeps : Keeps meanwhile after fs activity) (runs : activity.Runs exchanges result)
    (comes : fs.Comes exchanges gs) : after result gs := by
  induction keeps generalizing exchanges with
  | done ended =>
      cases runs
      cases comes
      exact ended
  | ask _ _ ih =>
      cases runs with
      | ask runs =>
          cases comes with
          | cons tidy comes => exact ih _ _ tidy runs comes

/-- At every moment of a run its condition is met, or the run has come to its end. -/
theorem passes (keeps : Keeps meanwhile after fs activity) (runs : activity.Runs exchanges result)
    (passes : fs.Passes exchanges now) : meanwhile now ∨ fs.Comes exchanges now := by
  induction keeps generalizing exchanges with
  | done _ =>
      cases runs
      cases passes
      exact .inr .nil
  | ask during _ ih =>
      cases runs with
      | ask runs =>
          cases passes with
          | within moment => exact .inl (during _ moment)
          | later tidy passes => exact (ih _ _ tidy runs passes).imp_right (.cons tidy)

end Keeps

end FileSystem

namespace Simulation

theorem World.answersTidily (request : Surroundings.Request) (world : World) :
    world.files.AnswersTidily ⟨request, (World.answer request world).1⟩
      (World.answer request world).2.files where
  answers := World.answers request world
  makes := by
    rintro path rfl
    exact .makeAll world.files _
  removes := by
    rintro path rfl
    rfl

/-- What is done in a simulated world is a run, which leads to the files that are there in the
end. -/
theorem World.exists_comes {α : Type} (activity : Activity Surroundings α) (world : World) :
    ∃ exchanges, activity.Runs exchanges ((activity.interpret World.answer).run world).1 ∧
      world.files.Comes exchanges ((activity.interpret World.answer).run world).2.files := by
  induction activity generalizing world with
  | done result => exact ⟨[], .done, .nil⟩
  | ask request next ih =>
      obtain ⟨exchanges, runs, comes⟩ := ih _ (World.answer request world).2
      exact ⟨_, .ask runs, .cons (World.answersTidily request world) comes⟩

end Simulation

end TypedQueries
