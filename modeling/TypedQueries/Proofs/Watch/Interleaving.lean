import Mathlib.Data.List.Induction
import TypedQueries.Watch.Loop

/-! # Interleavings of the watch loop

Changes, runs, triggers, the end of the triggers and an interrupt may come in any order in which
each step is possible (`WatchLoop.Step`). In all of them runs do not overlap, no change is lost
and the loop knows how many runs it has completed (`WatchLoop.no_change_lost`); what carries this
is an account of the steps so far (`WatchLoop.Account`) that every step keeps.
-/

namespace TypedQueries

namespace WatchStep

/-- That a step has happened since the last run was started, or since the beginning. -/
def SinceStart (step : WatchStep) (steps : List WatchStep) : Prop :=
  ∃ before after, steps = before ++ step :: after ∧ .start ∉ after

/-- That an interrupt came while a run was going on: more runs had been started than finished. -/
def Abandons (steps : List WatchStep) : Prop :=
  ∃ before after, steps = before ++ .interrupt :: after ∧ before.count .finish < before.count .start

variable {step last : WatchStep} {steps : List WatchStep}

theorem not_sinceStart_nil : ¬ SinceStart step [] := by
  rintro ⟨before, after, split, -⟩
  simp at split

theorem not_abandons_nil : ¬ Abandons [] := by
  rintro ⟨before, after, split, -⟩
  simp at split

/-- Where the first part of some steps ends at one of them, it does so at the last or before. -/
theorem append_singleton_eq_iff {before after : List WatchStep} :
    steps ++ [last] = before ++ step :: after ↔
      (after = [] ∧ steps = before ∧ last = step) ∨
        ∃ shorter, after = shorter ++ [last] ∧ steps = before ++ step :: shorter := by
  rcases List.eq_nil_or_concat after with rfl | ⟨shorter, final, rfl⟩
  · simp
  · rw [List.concat_eq_append, ← List.cons_append, ← List.append_assoc]
    simp only [List.append_singleton_inj, List.append_eq_nil_iff, List.cons_ne_self, and_false,
      false_and, false_or]
    constructor
    · rintro ⟨rfl, rfl⟩
      exact ⟨shorter, ⟨rfl, rfl⟩, rfl⟩
    · rintro ⟨_, ⟨rfl, rfl⟩, rfl⟩
      exact ⟨rfl, rfl⟩

theorem sinceStart_append_singleton :
    SinceStart step (steps ++ [last]) ↔
      last = step ∨ last ≠ .start ∧ SinceStart step steps := by
  constructor
  · rintro ⟨before, after, split, quiet⟩
    rcases append_singleton_eq_iff.mp split with ⟨-, -, same⟩ | ⟨shorter, rfl, rfl⟩
    · exact .inl same
    · rw [List.mem_append, List.mem_singleton, not_or] at quiet
      exact .inr ⟨fun start => quiet.2 start.symm, before, shorter, rfl, quiet.1⟩
  · rintro (rfl | ⟨other, before, after, rfl, quiet⟩)
    · exact ⟨steps, [], rfl, List.not_mem_nil⟩
    · refine ⟨before, after ++ [last], by simp, ?_⟩
      rw [List.mem_append, List.mem_singleton, not_or]
      exact ⟨quiet, fun start => other start.symm⟩

theorem abandons_append_singleton :
    Abandons (steps ++ [last]) ↔
      Abandons steps ∨ last = .interrupt ∧ steps.count .finish < steps.count .start := by
  constructor
  · rintro ⟨before, after, split, going⟩
    rcases append_singleton_eq_iff.mp split with ⟨-, rfl, interrupt⟩ | ⟨shorter, rfl, rfl⟩
    · exact .inr ⟨interrupt, going⟩
    · exact .inl ⟨before, shorter, rfl, going⟩
  · rintro (⟨before, after, rfl, going⟩ | ⟨rfl, going⟩)
    · exact ⟨before, after ++ [last], by simp, going⟩
    · exact ⟨steps, [], rfl, going⟩

end WatchStep

namespace WatchLoop

open WatchStep (SinceStart Abandons)

/-- What each step does, and when it can happen. -/
inductive Step (loop : WatchLoop) : WatchStep → WatchLoop → Prop
  | noticed (opened : loop.closed = false) (room : loop.pending = false)
      (goesOn : loop.phase ≠ .stopped) : Step loop .change { loop with pending := true }
  | coalesced (opened : loop.closed = false) (full : loop.pending ∨ loop.phase = .stopped) :
      Step loop .change loop
  | started (ready : loop.phase = .starting) :
      Step loop .start { loop with phase := .running, started := loop.started + 1 }
  | finished (runs : loop.phase = .running) :
      Step loop .finish { loop with phase := .waiting, completed := loop.completed + 1 }
  | triggered (waits : loop.phase = .waiting) (trigger : loop.pending) :
      Step loop .receive { loop with phase := .starting, pending := false }
  | exhausted (waits : loop.phase = .waiting) (none : loop.pending = false)
      (closed : loop.closed) : Step loop .receive { loop with phase := .stopped }
  | closed : Step loop .close { loop with closed := true }
  | abandoned (runs : loop.phase = .running) :
      Step loop .interrupt { loop with phase := .stopped }
  | left (waits : loop.phase = .waiting) : Step loop .interrupt { loop with phase := .stopped }

theorem step_of_step? {loop next : WatchLoop} {event : WatchStep}
    (taken : loop.step? event = some next) : Step loop event next := by
  cases event with
  | change =>
      simp only [step?, Option.ite_none_left_eq_some, Bool.not_eq_true, Option.some.injEq] at taken
      obtain ⟨opened, rfl⟩ := taken
      by_cases room : loop.hasRoom
      · rw [if_pos room]
        simp only [hasRoom, Bool.and_eq_true, Bool.not_eq_true', bne_iff_ne] at room
        exact .noticed opened room.1.1 room.2
      · rw [if_neg room]
        refine .coalesced opened ?_
        simpa [hasRoom, opened, or_iff_not_imp_left] using room
  | start =>
      simp only [step?, Option.ite_none_right_eq_some, Option.some.injEq] at taken
      obtain ⟨ready, rfl⟩ := taken
      exact .started ready
  | finish =>
      simp only [step?, Option.ite_none_right_eq_some, Option.some.injEq] at taken
      obtain ⟨runs, rfl⟩ := taken
      exact .finished runs
  | receive =>
      simp only [step?, Option.ite_none_right_eq_some] at taken
      obtain ⟨waits, taken⟩ := taken
      split at taken
      · rename_i trigger
        cases taken
        exact .triggered waits trigger
      · rename_i none
        simp only [Option.ite_none_right_eq_some, Option.some.injEq] at taken
        obtain ⟨closed, rfl⟩ := taken
        exact .exhausted waits (Bool.not_eq_true _ ▸ none) closed
  | close =>
      cases taken
      exact .closed
  | interrupt =>
      simp only [step?, Option.ite_none_right_eq_some, Bool.or_eq_true, decide_eq_true_eq,
        Option.some.injEq] at taken
      obtain ⟨runs | waits, rfl⟩ := taken
      · exact .abandoned runs
      · exact .left waits

theorem steps?_append (loop : WatchLoop) (first second : List WatchStep) :
    loop.steps? (first ++ second) = (loop.steps? first).bind fun next => next.steps? second := by
  induction first generalizing loop with
  | nil => rfl
  | cons event first ih =>
      rw [List.cons_append, steps?, steps?, Option.bind_assoc]
      simp only [ih]

/-- What the loop has to show for the steps so far. -/
structure Account (steps : List WatchStep) (loop : WatchLoop) : Prop where
  started : loop.started = steps.count .start
  completed : loop.completed = steps.count .finish
  running : loop.phase = .running → loop.started = loop.completed + 1
  idle : loop.phase ≠ .running → ¬ Abandons steps → loop.started = loop.completed
  abandoned : Abandons steps → loop.phase = .stopped ∧ loop.started = loop.completed + 1
  ended : loop.phase = .stopped → loop.closed ∧ loop.pending = false ∨ .interrupt ∈ steps
  /-- A change waits for a run, unless an interrupt has ended the loop. -/
  noticed : SinceStart .change steps →
    loop.pending ∨ loop.phase = .starting ∧ SinceStart .receive steps ∨
      loop.phase = .stopped ∧ .interrupt ∈ steps
  /-- Every run but the first is due to a trigger, and every trigger to a change. -/
  earned : loop.started + (if loop.pending then 1 else 0)
    + (if loop.phase = .starting then 1 else 0) ≤ 1 + steps.count .change

theorem account_nil : Account [] {} where
  started := rfl
  completed := rfl
  running := nofun
  idle _ _ := rfl
  abandoned abandons := (WatchStep.not_abandons_nil abandons).elim
  ended := nofun
  noticed since := (WatchStep.not_sinceStart_nil since).elim
  earned := Nat.le_refl 1

/-- A loop that goes on has abandoned no run. -/
theorem Account.not_abandons {steps : List WatchStep} {loop : WatchLoop}
    (account : Account steps loop) (goesOn : loop.phase ≠ .stopped) : ¬ Abandons steps :=
  fun abandons => goesOn (account.abandoned abandons).1

/-- Every step keeps the account. -/
theorem Account.step {steps : List WatchStep} {event : WatchStep} {loop next : WatchLoop}
    (account : Account steps loop) (taken : Step loop event next) :
    Account (steps ++ [event]) next where
  started := by cases taken <;> simp [account.started]
  completed := by cases taken <;> simp [account.completed]
  running := by
    cases taken with
    | started ready =>
        have none : ¬ Abandons steps := account.not_abandons (by simp [ready])
        exact fun _ => congrArg (· + 1) (account.idle (by simp [ready]) none)
    | _ => first | exact account.running | exact nofun
  idle := by
    rw [WatchStep.abandons_append_singleton, ← account.started, ← account.completed, not_or]
    cases taken with
    | started ready => exact fun idle => (idle rfl).elim
    | finished runs => exact fun _ _ => account.running runs
    | triggered waits => exact fun _ none => account.idle (by simp [waits]) none.1
    | exhausted waits => exact fun _ none => account.idle (by simp [waits]) none.1
    | abandoned runs =>
        have unfinished : loop.completed < loop.started := by
          rw [account.running runs]
          exact Nat.lt_succ_self _
        exact fun _ none => (none.2 ⟨rfl, unfinished⟩).elim
    | left waits => exact fun _ none => account.idle (by simp [waits]) none.1
    | _ => exact fun idle none => account.idle idle none.1
  abandoned := by
    rw [WatchStep.abandons_append_singleton, ← account.started, ← account.completed]
    rintro (before | ⟨rfl, unfinished⟩)
    · obtain ⟨stopped, rest⟩ := account.abandoned before
      cases taken <;> simp_all
    · cases taken with
      | abandoned runs => exact ⟨rfl, account.running runs⟩
      | left waits =>
          have none : ¬ Abandons steps := account.not_abandons (by simp [waits])
          have same := account.idle (by simp [waits]) none
          exact (Nat.lt_irrefl _ (same ▸ unfinished)).elim
  ended := by
    have ended := account.ended
    rw [List.mem_append, List.mem_singleton]
    cases taken <;> grind
  noticed := by
    rw [WatchStep.sinceStart_append_singleton, WatchStep.sinceStart_append_singleton,
      List.mem_append, List.mem_singleton]
    have noticed := account.noticed
    cases taken with
    | noticed opened room goesOn => exact fun _ => .inl rfl
    | coalesced opened full =>
        refine fun _ => full.imp id fun stopped => .inr ⟨stopped, .inl ?_⟩
        exact (account.ended stopped).resolve_left (by simp [opened])
    | started ready => simp
    | finished runs => simpa [runs] using noticed
    | triggered waits trigger => exact fun _ => .inr (.inl ⟨rfl, .inl rfl⟩)
    | exhausted waits none closed =>
        have served : ¬ SinceStart .change steps := by simpa [waits, none] using noticed
        simp [served]
    | closed => simpa using noticed
    | abandoned runs => simp
    | left waits => simp
  earned := by
    have earned := account.earned
    cases taken <;> simp_all <;> omega

/-- In every interleaving the account is kept. -/
theorem account_of_steps? {steps : List WatchStep} {loop : WatchLoop}
    (run : steps? {} steps = some loop) : Account steps loop := by
  induction steps using List.reverseRecOn generalizing loop with
  | nil =>
      cases run
      exact account_nil
  | append_singleton steps event ih =>
      rw [steps?_append, Option.bind_eq_some_iff] at run
      obtain ⟨before, earlier, taken⟩ := run
      rw [steps?, Option.bind_eq_some_iff] at taken
      obtain ⟨next, taken, last⟩ := taken
      cases last
      exact (ih earlier).step (step_of_step? taken)

/-- What the loop gives back once it has stopped. -/
def result? (loop : WatchLoop) : Option Nat :=
  if loop.phase = .stopped then some loop.completed else none

/-- What can be relied on after some steps of the loop. -/
structure Reliable (steps : List WatchStep) (loop : WatchLoop) : Prop where
  /-- At most one run is going on. -/
  apart : steps.count .start ≤ steps.count .finish + 1
  /-- A change that came after the last start waits as a trigger, or its trigger has been received
  and the next run is about to start. -/
  noticed : SinceStart .change steps → loop.phase ≠ .stopped →
    loop.pending ∨ loop.phase = .starting ∧ SinceStart .receive steps
  /-- The loop waits for triggers only if there is nothing to be done. -/
  notIdle : loop.phase = .waiting → loop.pending = false → ¬ SinceStart .change steps
  /-- Without an interrupt the loop stops only if no triggers can come and none is left. -/
  served : loop.phase = .stopped → .interrupt ∉ steps →
    loop.closed ∧ loop.pending = false ∧ ¬ SinceStart .change steps
  earned : steps.count .start ≤ 1 + steps.count .change
  /-- The runs that were completed are given back. They are all that were started but one that an
  interrupt has abandoned. -/
  returned : ∀ runs, loop.result? = some runs → runs = steps.count .finish ∧
    (Abandons steps ∧ steps.count .start = runs + 1 ∨
      ¬ Abandons steps ∧ steps.count .start = runs)

/-- **No change is lost and no runs overlap.** This holds of the watch loop after any sequence of
changes, starts and ends of runs, receipts, the end of the triggers and an interrupt in which each
step is possible. -/
theorem no_change_lost {steps : List WatchStep} {loop : WatchLoop}
    (run : steps? {} steps = some loop) : Reliable steps loop := by
  have account := account_of_steps? run
  have balance : Abandons steps ∧ steps.count .start = steps.count .finish + 1 ∨
      loop.phase = .running ∧ steps.count .start = steps.count .finish + 1 ∨
      ¬ Abandons steps ∧ steps.count .start = steps.count .finish := by
    rw [← account.started, ← account.completed]
    by_cases abandons : Abandons steps
    · exact .inl ⟨abandons, (account.abandoned abandons).2⟩
    by_cases runs : loop.phase = .running
    · exact .inr (.inl ⟨runs, account.running runs⟩)
    · exact .inr (.inr ⟨abandons, account.idle runs abandons⟩)
  constructor
  case apart => omega
  case noticed =>
    intro since goesOn
    rcases account.noticed since with waits | ready | stopped
    · exact .inl waits
    · exact .inr ready
    · exact (goesOn stopped.1).elim
  case notIdle =>
    intro waits empty since
    simpa [waits, empty] using account.noticed since
  case served =>
    intro stopped uninterrupted
    obtain ⟨closed, empty⟩ := (account.ended stopped).resolve_right uninterrupted
    refine ⟨closed, empty, fun since => ?_⟩
    simpa [stopped, empty, uninterrupted] using account.noticed since
  case earned =>
    have earned := account.earned
    rw [account.started] at earned
    omega
  case returned =>
    intro runs returned
    rw [result?, Option.ite_none_right_eq_some, Option.some.injEq] at returned
    obtain ⟨stopped, rfl⟩ := returned
    rw [account.completed]
    exact ⟨rfl, balance.imp id fun rest => rest.resolve_left fun runs => by simp [stopped] at runs⟩

/-- Two changes come during the first run and leave one trigger; the second run is abandoned while
another trigger waits. -/
theorem no_change_lost_abandoning_second_run :
    steps? {} [.start, .change, .change, .finish, .receive, .start, .change, .interrupt] =
      some ⟨.stopped, true, false, 2, 1⟩ ∧
    Reliable [.start, .change, .change, .finish, .receive, .start, .change, .interrupt]
      ⟨.stopped, true, false, 2, 1⟩ :=
  ⟨rfl, no_change_lost rfl⟩

end WatchLoop

end TypedQueries
