import Mathlib.Data.List.Nodup
import TypedQueries.Generation
import TypedQueries.Proofs.Activity.Exchanges

/-! # What is seen of a run

Of the exchanges of a run an observer sees the events it hears of, the looks at the files, the
changes of files and what the probe is asked; the log and the clock are not seen, and of the
workers only that they have stopped.
`Generation.Shows` says what is seen of an activity of a run, the same by every observer
(`Shows.announce`) and, but for the events, by one that has not joined.
-/

namespace TypedQueries

namespace Generation

/-- Something seen of a run. -/
inductive Action where
  | heard (event : Event)
  | surveyed (files : FileSystem)
  | changed (exchange : Exchange Surroundings)
  | probed (exchange : Exchange Probe)
  | stopped (detail : String)

namespace Action

/-- What is seen of workers. -/
def stopped? : Except String (List Nat) → Option Action
  | .error detail => some (.stopped detail)
  | .ok _ => none

/-- What an observer sees of an exchange with the surroundings. -/
def ofSurroundings (observer : Nat) :
    (request : Surroundings.Request) → Surroundings.Reply request → Option Action
  | .survey, files => some (.surveyed files)
  | .tell listener event, _ => if listener = observer then some (.heard event) else none
  | .makeDirectories path, reply => some (.changed ⟨.makeDirectories path, reply⟩)
  | .makeTemporary directory, reply => some (.changed ⟨.makeTemporary directory, reply⟩)
  | .fill path content, reply => some (.changed ⟨.fill path content, reply⟩)
  | .sync path, reply => some (.changed ⟨.sync path, reply⟩)
  | .rename source target, reply => some (.changed ⟨.rename source target, reply⟩)
  | .discard path, reply => some (.changed ⟨.discard path, reply⟩)
  | .log _, _ => none
  | .elapsed, _ => none
  | .workers _, reply => stopped? reply

/-- What an observer sees of an exchange. -/
def seen? (observer : Nat) : Exchange RunInterface → Option Action
  | ⟨.inl request, reply⟩ => ofSurroundings observer request reply
  | ⟨.inr request, reply⟩ => some (.probed ⟨request, reply⟩)

def isHeard : Action → Bool
  | .heard _ => true
  | _ => false

/-- Actions as they are seen by someone who hears of events, or does not. -/
def visible (joined : Bool) (actions : List Action) : List Action :=
  actions.filter fun action => joined || !action.isHeard

theorem visible_append (joined : Bool) (first second : List Action) :
    visible joined (first ++ second) = visible joined first ++ visible joined second :=
  List.filter_append ..

theorem visible_of_not_heard {joined : Bool} {actions : List Action}
    (quiet : ∀ action ∈ actions, action.isHeard = false) : visible joined actions = actions := by
  refine List.filter_eq_self.mpr fun action member => ?_
  rw [quiet action member, Bool.not_false, Bool.or_true]

end Action

/-- That exchanges of a run with so many observers amount to certain actions: each observer
sees these, and all but the events are there without any observer. -/
def AmountTo (observers : Nat) (exchanges : List (Exchange RunInterface)) (actions : List Action) :
    Prop :=
  ∀ observer, exchanges.filterMap (Action.seen? observer) =
    Action.visible (observer < observers) actions

theorem AmountTo.append {observers : Nat} {first second : List (Exchange RunInterface)}
    {actions further : List Action} (begins : AmountTo observers first actions)
    (goesOn : AmountTo observers second further) :
    AmountTo observers (first ++ second) (actions ++ further) := by
  intro observer
  rw [List.filterMap_append, begins, goesOn, Action.visible_append]

/-- What is seen, and not heard of, is an exchange. -/
theorem AmountTo.exists_seen {observers : Nat} {exchanges : List (Exchange RunInterface)}
    {actions : List Action} {action : Action} (amount : AmountTo observers exchanges actions)
    (member : action ∈ actions) (unheard : action.isHeard = false) :
    ∃ exchange ∈ exchanges, Action.seen? 0 exchange = some action := by
  refine List.mem_filterMap.mp ?_
  rw [amount 0, Action.visible, List.mem_filter]
  exact ⟨member, by rw [unheard, Bool.not_false, Bool.or_true]⟩

/-- That the actions seen of an activity and its result meet a condition, whatever the replies
are. -/
def Shows {α : Type} (observers : Nat) (activity : Activity RunInterface α)
    (post : List Action → α → Prop) : Prop :=
  activity.Ensures fun exchanges result =>
    ∃ actions, AmountTo observers exchanges actions ∧ post actions result

namespace Shows

variable {α β : Type} {observers : Nat} {activity : Activity RunInterface α}
  {post : List Action → α → Prop}

theorem mono {weaker : List Action → α → Prop} (shows : Shows observers activity post)
    (implies : ∀ actions result, post actions result → weaker actions result) :
    Shows observers activity weaker :=
  Activity.Ensures.mono shows fun _ _ ⟨actions, amount, holds⟩ =>
    ⟨actions, amount, implies actions _ holds⟩

theorem done {result : α} (holds : post [] result) :
    Shows observers (Activity.done result) post :=
  ⟨[], fun _ => rfl, holds⟩

/-- One activity after another: what is seen of the second comes after what is seen of the
first. -/
theorem bind {further : α → Activity RunInterface β} {goal : List Action → β → Prop}
    (shows : Shows observers activity post)
    (goesOn : ∀ actions result, post actions result →
      Shows observers (further result) fun later final => goal (actions ++ later) final) :
    Shows observers (activity >>= further) goal := by
  refine Activity.Ensures.bind (Activity.Ensures.mono shows ?_)
  rintro exchanges result ⟨actions, begins, holds⟩
  refine Activity.Ensures.mono (goesOn actions result holds) ?_
  rintro later final ⟨further, ends, reached⟩
  exact ⟨actions ++ further, begins.append ends, reached⟩

/-- A request to the probe is seen with its reply. -/
theorem probe (request : Probe.Request) :
    Shows observers (Probe.ask request) fun actions reply =>
      actions = [.probed ⟨request, reply⟩] := by
  intro reply
  refine ⟨[.probed ⟨request, reply⟩], fun observer => ?_, rfl⟩
  rw [Action.visible_of_not_heard (by simp [Action.isHeard])]
  rfl

theorem onLeft_bind {first : Activity Surroundings α} {further : α → Activity Surroundings β}
    {goal : List Action → β → Prop} (shows : Shows observers (Activity.onLeft first) post)
    (goesOn : ∀ actions result, post actions result →
      Shows observers (Activity.onLeft (further result)) fun later final =>
        goal (actions ++ later) final) :
    Shows observers (Activity.onLeft (first >>= further)) goal := by
  rw [Activity.onLeft_bind]
  exact shows.bind goesOn

/-- A request to the surroundings that every observer sees in the same way, and not as an
event. -/
theorem ask {request : Surroundings.Request} {shown : Surroundings.Reply request → List Action}
    (same : ∀ observer reply, (Action.ofSurroundings observer request reply).toList = shown reply)
    (quiet : ∀ reply, ∀ action ∈ shown reply, action.isHeard = false) :
    Shows observers (Activity.onLeft (Surroundings.ask request)) fun actions reply =>
      actions = shown reply := by
  intro reply
  refine ⟨shown reply, fun observer => ?_, rfl⟩
  rw [Action.visible_of_not_heard (quiet reply), ← same observer reply]
  cases found : Action.ofSurroundings observer request reply <;>
    simp [Action.seen?, found]

theorem survey : Shows observers (Activity.onLeft Surroundings.survey) fun actions files =>
    actions = [.surveyed files] :=
  ask (fun _ _ => rfl) (by simp [Action.isHeard])

theorem change {request : Surroundings.Request}
    (isChange : ∀ observer reply,
      Action.ofSurroundings observer request reply = some (.changed ⟨request, reply⟩)) :
    Shows observers (Activity.onLeft (Surroundings.ask request)) fun actions reply =>
      actions = [.changed ⟨request, reply⟩] :=
  ask (fun observer reply => by rw [isChange]; rfl) (by simp [Action.isHeard])

theorem unseen {request : Surroundings.Request}
    (isUnseen : ∀ observer reply, Action.ofSurroundings observer request reply = none) :
    Shows observers (Activity.onLeft (Surroundings.ask request)) fun actions _ => actions = [] :=
  ask (fun observer reply => by rw [isUnseen]; rfl) (by simp)

theorem workers (pieces : Nat) :
    Shows observers (Activity.onLeft (Surroundings.ask (.workers pieces))) fun actions reply =>
      actions = (Action.stopped? reply).toList :=
  ask (fun _ _ => rfl) (by rintro (detail | finished) <;> simp [Action.stopped?, Action.isHeard])

theorem logAll (records : List LogRecord) :
    Shows observers (Activity.onLeft (Surroundings.logAll records)) fun actions _ =>
      actions = [] := by
  induction records with
  | nil => exact done rfl
  | cons record records ih =>
      refine onLeft_bind (unseen fun _ _ => rfl) ?_
      rintro _ _ rfl
      exact ih

/-- An announcement is heard by an observer as often as that is told. Whether listeners fail
is logged, and so not seen. -/
theorem announceTo (event : Event) (listeners : List Nat) :
    (Activity.onLeft (Surroundings.announceTo event listeners) :
      Activity RunInterface Unit).Ensures fun exchanges _ => ∀ observer,
        exchanges.filterMap (Action.seen? observer) =
          List.replicate (listeners.count observer) (.heard event) := by
  induction listeners with
  | nil => exact fun _ => rfl
  | cons listener listeners ih =>
      have told (observer : Nat) (failed : Bool) {exchanges : List (Exchange RunInterface)}
          (rest : exchanges.filterMap (Action.seen? observer) =
            List.replicate (listeners.count observer) (.heard event)) :
          List.filterMap (Action.seen? observer)
              (⟨.inl (.tell listener event), failed⟩ :: exchanges) =
            List.replicate ((listener :: listeners).count observer) (.heard event) := by
        by_cases same : listener = observer
        · simp [Action.seen?, Action.ofSurroundings, same, rest, List.replicate_succ]
        · simp [Action.seen?, Action.ofSurroundings, same, rest]
      rw [Surroundings.announceTo, Activity.onLeft_bind]
      refine Activity.Ensures.bind fun failed => ?_
      cases failed with
      | false => exact ih.mono fun _ _ heard observer => told observer false (heard observer)
      | true => exact fun _ => ih.mono fun _ _ heard observer => told observer true (heard observer)

/-- Every observer hears of an event that is announced, once. -/
theorem announce (event : Event) :
    Shows observers (Activity.onLeft (Surroundings.announce observers event)) fun actions _ =>
      actions = [.heard event] := by
  refine (announceTo event (List.range observers)).mono fun exchanges _ heard => ?_
  refine ⟨[.heard event], fun observer => ?_, rfl⟩
  rw [heard observer, List.nodup_range.count]
  by_cases joined : observer < observers <;> simp [Action.visible, Action.isHeard, joined]

theorem announceAll (events : List Event) :
    Shows observers (Activity.onLeft (Surroundings.announceAll observers events))
      fun actions _ => actions = events.map .heard := by
  induction events with
  | nil => exact done rfl
  | cons event events ih =>
      refine onLeft_bind (announce event) ?_
      rintro _ _ rfl
      refine ih.mono ?_
      rintro _ _ rfl
      rfl

end Shows

end Generation

end TypedQueries
