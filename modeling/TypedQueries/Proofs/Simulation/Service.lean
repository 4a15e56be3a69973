import TypedQueries.Proofs.FileSystem.FreshName
import TypedQueries.Proofs.Generation.Files
import TypedQueries.Simulation.ScriptedProbe

/-! # What simulated surroundings do

Simulated surroundings change files as `FileSystem.Answers` says, and a scripted probe replies by
its script, so that whatever is performed in them is a run (`ProbedWorld.exists_runs`).
-/

namespace TypedQueries

namespace FileSystem

variable (fs : FileSystem)

theorem answers_makeDirectories (path : Path) :
    fs.Answers (.makeDirectories path) (fs.makeDirectories path).1
      (fs.makeDirectories path).2 := by
  have grows := growsTo_makeDirectories fs path
  cases made : fs.makeDirectories path with
  | mk result gs =>
      rw [made] at grows
      cases result with
      | error fault => exact .noDirectories grows
      | ok _ => exact .directories made

theorem answers_makeTemporary (directory : Path) :
    fs.Answers (.makeTemporary directory) (fs.makeTemporary directory).1
      (fs.makeTemporary directory).2 := by
  cases made : fs.makeTemporary directory with
  | mk result gs =>
      cases result with
      | ok path => exact .temporary (chooses_freshName fs) made
      | error fault =>
          obtain rfl : gs = fs := by
            simp only [makeTemporary, makeTemporaryNamed] at made
            repeat' split at made
            all_goals cases made
            all_goals rfl
          exact .noTemporary

theorem answers_fill (path : Path) (content : ByteArray) :
    fs.Answers (.fill path content) (fs.fill path content).1 (fs.fill path content).2 := by
  cases filled : fs.fill path content with
  | mk result gs =>
      cases result with
      | ok _ => exact .filled filled
      | error fault =>
          obtain rfl : gs = fs := by
            rw [fill] at filled
            split at filled
            all_goals cases filled
            rfl
          exact .unfilled

theorem answers_rename (source target : Path) :
    fs.Answers (.rename source target) (fs.rename source target).1
      (fs.rename source target).2 := by
  cases renamed : fs.rename source target with
  | mk result gs =>
      cases result with
      | ok _ => exact .renamed renamed
      | error fault =>
          obtain rfl : gs = fs := by
            rw [rename] at renamed
            repeat' split at renamed
            all_goals cases renamed
            all_goals rfl
          exact .notRenamed

end FileSystem

namespace Simulation

theorem World.answers (request : Surroundings.Request) (world : World) :
    world.files.Answers request (World.answer request world).1
      (World.answer request world).2.files := by
  cases request with
  | survey => exact .survey
  | makeDirectories path => exact world.files.answers_makeDirectories path
  | makeTemporary directory => exact world.files.answers_makeTemporary directory
  | fill path content => exact world.files.answers_fill path content
  | sync path => exact .sync
  | rename source target => exact world.files.answers_rename source target
  | discard path => exact .discarded
  | tell observer event => exact .told
  | log record => exact .logged
  | elapsed => exact .elapsed
  | workers pieces => exact .workers

namespace ProbedWorld

/-- What is performed in a probed world is a run, which leads to the files that are there in the
end, and in which the probe replies by its script. -/
theorem exists_runs {α : Type} (activity : Activity RunInterface α) (state : ProbedWorld) :
    ∃ exchanges, activity.Runs exchanges (state.perform activity).1 ∧
      state.world.files.Serves exchanges (state.perform activity).2.world.files ∧
      ∀ request reply, ⟨.inr request, reply⟩ ∈ exchanges → reply = state.script.answer request := by
  induction activity generalizing state with
  | done result => exact ⟨[], .done, .nil, by simp⟩
  | ask request next ih =>
      cases request with
      | inl request =>
          obtain ⟨exchanges, runs, serves, scripted⟩ := ih _
            { state with world := (World.answer request state.world).2 }
          refine ⟨_, .ask runs, .surroundings (World.answers request state.world) serves, ?_⟩
          intro asked reply member
          rcases List.mem_cons.mp member with same | later
          · cases same
          · exact scripted asked reply later
      | inr request =>
          obtain ⟨exchanges, runs, serves, scripted⟩ := ih _
            { state with notes := state.notes ++ [ProbeNote.of request] }
          refine ⟨_, .ask runs, .probe serves, ?_⟩
          intro asked reply member
          rcases List.mem_cons.mp member with same | later
          · cases same
            rfl
          · exact scripted asked reply later

theorem exists_runs_of_isOk {ε α : Type} {activity : Activity RunInterface (Except ε α)}
    {state : ProbedWorld} (succeeds : (state.perform activity).1.isOk) :
    ∃ exchanges result, activity.Runs exchanges (.ok result) ∧
      state.world.files.Serves exchanges (state.perform activity).2.world.files ∧
      ∀ request reply, ⟨.inr request, reply⟩ ∈ exchanges → reply = state.script.answer request := by
  obtain ⟨exchanges, runs, serves, scripted⟩ := exists_runs activity state
  cases performed : (state.perform activity).1 with
  | error failure =>
      rw [performed] at succeeds
      cases succeeds
  | ok result =>
      rw [performed] at runs
      exact ⟨exchanges, result, runs, serves, scripted⟩

end ProbedWorld

end Simulation

end TypedQueries
