import TypedQueries.Proofs.Generation.Order

/-! # Observers make no difference

Two runs for the same project that differ in their observers, and in how these fare, ask the files
and the probe for the same and come to the same result; and every observer hears of all events, the
same in both runs but for the time that is told (`Generation.generate_beside_observers`).
-/

namespace TypedQueries

/-- An event without the time it tells. -/
def Event.untimed : Event → Event
  | .outputWritten path queries bytes _ => .outputWritten path queries bytes 0
  | event => event

namespace Generation

open Activity

/-- A way to reply, in view of the exchanges before. -/
abbrev Replies : Type :=
  List (Exchange RunInterface) → (request : RunInterface.Request) → RunInterface.Reply request

/-- Whether a request is for the files, the workers or the probe, and not for observers, the log
or the clock. -/
def isOutward : RunInterface.Request → Bool
  | .inl (.tell _ _) => false
  | .inl (.log _) => false
  | .inl .elapsed => false
  | _ => true

/-- What is exchanged with the files, the workers and the probe. -/
def outward (exchanges : List (Exchange RunInterface)) : List (Exchange RunInterface) :=
  exchanges.filter fun exchange => isOutward exchange.request

/-- The replies where the files, the workers and the probe form a world that knows of nothing else,
while others reply for the observers, the log and the clock. -/
def amid (world others : Replies) : Replies := fun past request =>
  if isOutward request then world (outward past) request else others past request

/-- The events an observer hears of. -/
def heardBy (observer : Nat) (exchanges : List (Exchange RunInterface)) : List Event :=
  events (exchanges.filterMap (Action.seen? observer))

theorem outward_append (first second : List (Exchange RunInterface)) :
    outward (first ++ second) = outward first ++ outward second := List.filter_append ..

theorem heardBy_append (observer : Nat) (first second : List (Exchange RunInterface)) :
    heardBy observer (first ++ second) = heardBy observer first ++ heardBy observer second := by
  rw [heardBy, List.filterMap_append, events_append]
  rfl

/-- Every observer hears of what is seen to be told. -/
theorem AmountTo.heardBy_eq {observers observer : Nat} {exchanges : List (Exchange RunInterface)}
    {actions : List Action} (amount : AmountTo observers exchanges actions)
    (joined : observer < observers) : heardBy observer exchanges = events actions := by
  rw [heardBy, amount observer, decide_eq_true joined]
  exact congrArg events (List.filter_eq_self.mpr fun _ _ => rfl)

/-- That activities of a run, one with so many observers and one with as many others, do the same
but for what they tell and what time they tell. -/
inductive Alike (observers others : Nat) {α : Type} :
    Activity RunInterface α → Activity RunInterface α → Prop
  | done {result : α} : Alike observers others (.done result) (.done result)
  | asked {request : RunInterface.Request}
      {next other : RunInterface.Reply request → Activity RunInterface α}
      (isOutward : isOutward request)
      (goesOn : ∀ reply, Alike observers others (next reply) (other reply)) :
      Alike observers others (.ask request next) (.ask request other)
  | logged {record : LogRecord} {next other : Unit → Activity RunInterface α}
      (goesOn : Alike observers others (next ()) (other ())) :
      Alike observers others (.ask (.inl (.log record)) next) (.ask (.inl (.log record)) other)
  | elapsed {next other : Nat → Activity RunInterface α}
      (goesOn : ∀ duration longer, Alike observers others (next duration) (other longer)) :
      Alike observers others (.ask (.inl .elapsed) next) (.ask (.inl .elapsed) other)
  | announced {event other : Event} {next further : Unit → Activity RunInterface α}
      (same : event.untimed = other.untimed)
      (goesOn : Alike observers others (next ()) (further ())) :
      Alike observers others
        (onLeft (Surroundings.announce observers event) >>= next)
        (onLeft (Surroundings.announce others other) >>= further)

namespace Alike

variable {observers others : Nat} {α β : Type}

theorem bind {first second : Activity RunInterface α} {further other : α → Activity RunInterface β}
    (alike : Alike observers others first second)
    (goesOn : ∀ result, Alike observers others (further result) (other result)) :
    Alike observers others (first >>= further) (second >>= other) := by
  induction alike with
  | done => exact goesOn _
  | asked isOutward _ ih => exact .asked isOutward ih
  | logged _ ih => exact .logged ih
  | elapsed _ ih => exact .elapsed ih
  | announced same _ ih =>
      rw [bind_assoc, bind_assoc]
      exact .announced same ih

theorem probe (request : Probe.Request) :
    Alike observers others (Probe.ask request) (Probe.ask request) :=
  .asked rfl fun _ => .done

theorem ask {request : Surroundings.Request} (asks : isOutward (.inl request)) :
    Alike observers others (onLeft (Surroundings.ask request))
      (onLeft (Surroundings.ask request)) :=
  .asked asks fun _ => .done

theorem log (record : LogRecord) :
    Alike observers others (onLeft (Surroundings.log record))
      (onLeft (Surroundings.log record)) :=
  .logged .done

theorem onLeft_bind {first second : Activity Surroundings α}
    {further other : α → Activity Surroundings β}
    (alike : Alike observers others (onLeft first) (onLeft second))
    (goesOn : ∀ result, Alike observers others (onLeft (further result)) (onLeft (other result))) :
    Alike observers others (onLeft (first >>= further)) (onLeft (second >>= other)) := by
  rw [Activity.onLeft_bind, Activity.onLeft_bind]
  exact alike.bind goesOn

theorem logAll (records : List LogRecord) :
    Alike observers others (onLeft (Surroundings.logAll records))
      (onLeft (Surroundings.logAll records)) := by
  induction records with
  | nil => exact .done
  | cons record records ih => exact onLeft_bind (log record) fun _ => ih

theorem announce {event other : Event} (same : event.untimed = other.untimed) :
    Alike observers others (onLeft (Surroundings.announce observers event))
      (onLeft (Surroundings.announce others other)) := by
  have announced : Alike observers others
      (onLeft (Surroundings.announce observers event) >>= Activity.done)
      (onLeft (Surroundings.announce others other) >>= Activity.done) := .announced same .done
  rwa [bind_done, bind_done] at announced

theorem announceAll (events : List Event) :
    Alike observers others (onLeft (Surroundings.announceAll observers events))
      (onLeft (Surroundings.announceAll others events)) := by
  induction events with
  | nil => exact .done
  | cons event events ih => exact onLeft_bind (announce rfl) fun _ => ih

/-! ## The stages of a run -/

theorem applyFrom (total index : Nat) (scripts : List Migration) :
    Alike observers others (Probe.applyFrom observers total index scripts)
      (Probe.applyFrom others total index scripts) := by
  induction scripts generalizing index with
  | nil => exact .done
  | cons script scripts ih =>
      refine bind (probe (.apply script)) ?_
      rintro (failure | _)
      · exact .done
      · exact bind (onLeft_bind (log _) fun _ => announce rfl) fun _ => ih (index + 1)

theorem describeFrom (descriptions : QueryDescriptions) (texts : List String) :
    Alike observers others (Probe.describeFrom observers descriptions texts)
      (Probe.describeFrom others descriptions texts) := by
  induction texts generalizing descriptions with
  | nil => exact .done
  | cons sql texts ih =>
      rw [Probe.describeFrom, Probe.describeFrom]
      split
      · exact ih descriptions
      · refine bind (probe (.describe sql)) ?_
        rintro (failure | description)
        · exact .done
        · exact bind (announce rfl) fun _ => ih (descriptions.insert sql description)

theorem write (path : Path) (text : String) :
    Alike observers others (onLeft (Output.write path text))
      (onLeft (Output.write path text)) := by
  have replace (temporary : Path) (content : ByteArray) :
      Alike observers others (onLeft (Output.replace temporary path content))
        (onLeft (Output.replace temporary path content)) := by
    refine onLeft_bind (ask rfl) ?_
    rintro (fault | _)
    · exact .done
    refine onLeft_bind (ask rfl) ?_
    rintro (fault | _)
    · exact .done
    refine onLeft_bind (ask rfl) ?_
    rintro (fault | _)
    · exact .done
    · exact .done
  refine onLeft_bind (ask rfl) ?_
  rintro (fault | _)
  · exact .done
  refine onLeft_bind (ask rfl) ?_
  rintro (fault | temporary)
  · exact .done
  refine onLeft_bind (replace temporary _) ?_
  rintro (failure | _)
  · exact onLeft_bind (ask rfl) fun _ => .done
  · exact .done

variable [Grammars]

theorem scan (settings : Settings) (directory : Path) (skip : List Path) :
    Alike observers others (onLeft (Source.scan settings directory skip observers))
      (onLeft (Source.scan settings directory skip others)) := by
  unfold Source.scan
  refine onLeft_bind (ask rfl) fun files => ?_
  cases (Source.discovery settings skip).find files directory with
  | error failure => exact .done
  | ok paths =>
      refine onLeft_bind (log _) fun _ => onLeft_bind (ask rfl) ?_
      rintro (detail | finished)
      · exact .done
      refine onLeft_bind (logAll _) fun _ => ?_
      cases Source.scanAll settings finished (Source.parseAll settings files paths) with
      | error failure => exact .done
      | ok scanned => exact onLeft_bind (announceAll _) fun _ => onLeft_bind (log _) fun _ => .done

theorem withProbe (root : Path) (settings : Settings) (scripts : List Migration) :
    Alike observers others (Generation.withProbe root settings observers scripts)
      (Generation.withProbe root settings others scripts) := by
  refine bind (applyFrom _ _ _) ?_
  rintro (failure | _)
  · exact .done
  refine bind (scan _ _ _) ?_
  rintro (failure | sources)
  · exact .done
  refine bind (announceAll _) fun _ => bind (describeFrom _ _) ?_
  rintro (failure | descriptions)
  · exact .done
  refine onLeft_bind (announceAll _) fun _ => onLeft_bind (write _ _) ?_
  rintro (failure | _)
  · exact .done
  · exact .done

theorem run (root : Path) (settings : Settings) :
    Alike observers others (Generation.run root settings observers)
      (Generation.run root settings others) := by
  refine bind (ask rfl) fun files => ?_
  cases Migration.load files (settings.migrationsPath root) settings.migrationExtension with
  | error failure => exact .done
  | ok scripts =>
      refine bind (log _) fun _ => bind (probe .connect) ?_
      rintro (failure | _)
      · exact .done
      refine bind (withProbe root settings scripts) fun outcome => bind (probe .dispose) ?_
      intro disposed
      cases outcome with
      | error failure => exact .done
      | ok result =>
          cases disposed with
          | error failure => exact bind (log _) fun _ => .done
          | ok _ => exact .done

theorem generate (root : Path) (settings : Settings) :
    Alike observers others (TypedQueries.generate root settings observers)
      (TypedQueries.generate root settings others) := by
  refine bind (announce rfl) fun _ => bind (run root settings) ?_
  rintro (failure | ⟨report, bytes⟩)
  · exact onLeft_bind (announce rfl) fun _ => .done
  · -- The times told at the end may differ, and so may the last events.
    refine .elapsed fun duration longer => ?_
    change Alike observers others
      (onLeft (Surroundings.announce observers _ >>= fun _ => pure (Except.ok report)))
      (onLeft (Surroundings.announce others _ >>= fun _ => pure (Except.ok report)))
    exact onLeft_bind (announce rfl) fun _ => .done

end Alike

/-! ## Runs beside different observers -/

theorem outward_announce (observers : Nat) (event : Event) :
    (onLeft (Surroundings.announce observers event) : Activity RunInterface Unit).Ensures
      fun exchanges _ => outward exchanges = [] := by
  suffices told : ∀ listeners : List Nat,
      (onLeft (Surroundings.announceTo event listeners) : Activity RunInterface Unit).Ensures
        fun exchanges _ => outward exchanges = [] from told (List.range observers)
  intro listeners
  induction listeners with
  | nil => exact rfl
  | cons listener listeners ih =>
      rw [Surroundings.announceTo, Activity.onLeft_bind]
      refine Ensures.bind fun failed => ?_
      cases failed with
      | false => exact ih
      | true => exact fun _ => ih

theorem heardBy_announce {observers observer : Nat} (joined : observer < observers)
    (event : Event) :
    (onLeft (Surroundings.announce observers event) : Activity RunInterface Unit).Ensures
      fun exchanges _ => heardBy observer exchanges = [event] := by
  refine Ensures.mono (Shows.announce event) ?_
  rintro exchanges _ ⟨actions, amount, rfl⟩
  exact amount.heardBy_eq joined

variable {observers others : Nat} {α : Type} {world first second : Replies}
  {past pastToo : List (Exchange RunInterface)} {request : RunInterface.Request}

/-- What is exchanged with the world is a reply of the world to what was exchanged with it. -/
theorem amid_eq_amid (asks : isOutward request) (known : outward past = outward pastToo) :
    amid world first past request = amid world second pastToo request := by
  rw [amid, amid, if_pos asks, if_pos asks, known]

theorem outward_cons_of_isOutward (asks : isOutward request)
    (reply : RunInterface.Reply request) (exchanges : List (Exchange RunInterface)) :
    outward (⟨request, reply⟩ :: exchanges) = ⟨request, reply⟩ :: outward exchanges :=
  List.filter_cons_of_pos asks

theorem outward_append_of_not_isOutward (inward : isOutward request = false)
    {reply other : RunInterface.Reply request} (known : outward past = outward pastToo) :
    outward (past ++ [⟨request, reply⟩]) = outward (pastToo ++ [⟨request, other⟩]) := by
  have unseen (reply : RunInterface.Reply request) : outward [⟨request, reply⟩] = [] :=
    List.filter_cons_of_neg (by rw [inward]; decide)
  rw [outward_append, outward_append, known, unseen, unseen]

theorem heardBy_cons_of_isOutward (asks : isOutward request)
    (reply : RunInterface.Reply request) (observer : Nat)
    (exchanges : List (Exchange RunInterface)) :
    heardBy observer (⟨request, reply⟩ :: exchanges) = heardBy observer exchanges := by
  rcases request with request | request
  · cases request with
    | survey | makeDirectories _ | makeTemporary _ | fill _ _ | sync _ | rename _ _
      | discard _ => rfl
    | workers _ => cases reply <;> rfl
    | tell _ _ | log _ | elapsed => cases asks
  · rfl

/-- What activities that are alike come to in one world: the same result and the same exchanges
with the world. Any two observers hear of the same events. -/
theorem Alike.eq_of_runs {activity other : Activity RunInterface α}
    (alike : Alike observers others activity other)
    {exchanges exchangesToo : List (Exchange RunInterface)} {result final : α}
    (known : outward past = outward pastToo)
    (runs : activity.Runs exchanges result) (answered : Answered (amid world first) past exchanges)
    (runsToo : other.Runs exchangesToo final)
    (answeredToo : Answered (amid world second) pastToo exchangesToo) :
    result = final ∧ outward exchanges = outward exchangesToo ∧
      ∀ observer < observers, ∀ listener < others,
        (heardBy observer exchanges).map Event.untimed =
          (heardBy listener exchangesToo).map Event.untimed := by
  induction alike generalizing past pastToo exchanges exchangesToo with
  | done =>
      cases runs
      cases runsToo
      exact ⟨rfl, rfl, fun _ _ _ _ => rfl⟩
  | asked asks goesOn ih =>
      cases runs with
      | ask runs =>
      cases runsToo with
      | ask runsToo =>
      obtain ⟨replied, answered⟩ := answered
      obtain ⟨repliedToo, answeredToo⟩ := answeredToo
      cases (replied.trans (amid_eq_amid asks known)).trans repliedToo.symm
      obtain ⟨same, exchanged, heard⟩ := ih _ (by rw [outward_append, outward_append, known])
        runs answered runsToo answeredToo
      refine ⟨same, ?_, fun observer joined listener listens => ?_⟩
      · rw [outward_cons_of_isOutward asks, outward_cons_of_isOutward asks, exchanged]
      · rw [heardBy_cons_of_isOutward asks, heardBy_cons_of_isOutward asks]
        exact heard observer joined listener listens
  | logged goesOn ih =>
      cases runs with
      | ask runs =>
      cases runsToo with
      | ask runsToo =>
      have ended := ih (outward_append_of_not_isOutward (by rfl) known) runs answered.2 runsToo
        answeredToo.2
      exact ended
  | elapsed goesOn ih =>
      cases runs with
      | ask runs =>
      cases runsToo with
      | ask runsToo =>
      have ended := ih _ _ (outward_append_of_not_isOutward (by rfl) known) runs answered.2
        runsToo answeredToo.2
      exact ended
  | @announced event other next further same goesOn ih =>
      obtain ⟨told, _, later, rfl, tells, runs⟩ := runs.exists_of_bind
      obtain ⟨toldToo, _, laterToo, rfl, tellsToo, runsToo⟩ := runsToo.exists_of_bind
      have unasked := (outward_announce observers event).of_runs tells
      have unaskedToo := (outward_announce others other).of_runs tellsToo
      obtain ⟨same', exchanged, heard⟩ := ih
        (by rw [outward_append, outward_append, known, unasked, unaskedToo]) runs
        (answered_append.mp answered).2 runsToo (answered_append.mp answeredToo).2
      refine ⟨same', ?_, fun observer joined listener listens => ?_⟩
      · rw [outward_append, outward_append, unasked, unaskedToo, exchanged]
      · rw [heardBy_append, heardBy_append, (heardBy_announce joined event).of_runs tells,
          (heardBy_announce listens other).of_runs tellsToo, List.map_append, List.map_append,
          heard observer joined listener listens]
        simp only [List.map_cons, List.map_nil, same]

/-- **Observers make no difference.** For two numbers of observers, none included, and however they
fare in each of two runs in the same world, the runs come to the same result and ask the files, the
workers and the probe for the same, every file written with the same content. Any two observers,
of one run or of both, hear of the same events but for the time that is told; and what each hears
of is all that happens in the course of its run. -/
theorem generate_beside_observers [Grammars] (root : Path) (settings : Settings)
    (observers others : Nat) (world first second : Replies) :
    ∃ exchanges exchangesToo outcome actions,
      ((generate root settings observers).interpret (recorded (amid world first))).run [] =
        (outcome, exchanges) ∧
      ((generate root settings others).interpret (recorded (amid world second))).run [] =
        (outcome, exchangesToo) ∧
      outward exchanges = outward exchangesToo ∧
      (∀ observer < observers, ∀ listener < others,
        (heardBy observer exchanges).map Event.untimed =
          (heardBy listener exchangesToo).map Event.untimed) ∧
      AmountTo observers exchanges actions ∧
      Course root settings actions outcome ∧
      ∀ observer < observers, heardBy observer exchanges = events actions := by
  obtain ⟨exchanges, outcome, run, runs, answered⟩ :=
    exists_runs_recorded (amid world first) (generate root settings observers) []
  obtain ⟨exchangesToo, final, runToo, runsToo, answeredToo⟩ :=
    exists_runs_recorded (amid world second) (generate root settings others) []
  obtain ⟨rfl, same, heard⟩ :=
    (Alike.generate root settings).eq_of_runs rfl runs answered runsToo answeredToo
  obtain ⟨actions, amount, course⟩ :=
    Ensures.of_runs (Shows.generate root settings) runs
  exact ⟨exchanges, exchangesToo, outcome, actions, run, runToo, same, heard, amount, course,
    fun observer joined => amount.heardBy_eq joined⟩

end Generation

end TypedQueries
