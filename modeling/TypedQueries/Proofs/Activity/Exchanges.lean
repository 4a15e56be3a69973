import TypedQueries.Activity

/-! # What is exchanged in an activity

An activity that is answered leaves a list of exchanges, each a request with its reply, and a
result. `Activity.Runs` says which lists and results an activity can have, `Activity.Ensures` what
holds of the two whatever the replies are; replies may hang on all that was exchanged before
(`Ensures.interpret_recorded`).
-/

namespace TypedQueries

/-- A request and its reply. -/
structure Exchange (I : Interface) where
  request : I.Request
  reply : I.Reply request

namespace Activity

variable {I J : Interface} {α β : Type}

/-- Answers a request in view of the exchanges before it, and keeps the exchange. -/
def recorded (answer : List (Exchange I) → (request : I.Request) → I.Reply request)
    (request : I.Request) : StateM (List (Exchange I)) (I.Reply request) :=
  fun past => (answer past request, past ++ [⟨request, answer past request⟩])

/-- That an activity can have these exchanges and come to this result. -/
inductive Runs : Activity I α → List (Exchange I) → α → Prop
  | done {result : α} : Runs (done result) [] result
  | ask {request : I.Request} {next : I.Reply request → Activity I α} {reply : I.Reply request}
      {later : List (Exchange I)} {result : α} (runs : Runs (next reply) later result) :
      Runs (ask request next) (⟨request, reply⟩ :: later) result

/-- That the exchanges of an activity and its result meet a condition, whatever the replies
are. -/
def Ensures : Activity I α → (List (Exchange I) → α → Prop) → Prop
  | done result, post => post [] result
  | ask request next, post =>
      ∀ reply, Ensures (next reply) fun later result => post (⟨request, reply⟩ :: later) result

/-- A run that begins with a request goes on from its reply. -/
theorem Runs.exists_of_request {request : I.Request} {further : I.Reply request → Activity I β}
    {exchanges : List (Exchange I)} {final : β}
    (runs : (Activity.request request >>= further).Runs exchanges final) :
    ∃ reply later, exchanges = ⟨request, reply⟩ :: later ∧ (further reply).Runs later final := by
  cases runs with
  | ask runs => exact ⟨_, _, rfl, runs⟩

theorem Runs.exists_of_bind {activity : Activity I α} {further : α → Activity I β}
    {exchanges : List (Exchange I)} {final : β}
    (runs : (activity >>= further).Runs exchanges final) :
    ∃ first result second, exchanges = first ++ second ∧ activity.Runs first result ∧
      (further result).Runs second final := by
  induction activity generalizing exchanges with
  | done result => exact ⟨[], result, exchanges, rfl, .done, runs⟩
  | ask request next ih =>
      cases runs with
      | @ask _ _ reply _ _ runs =>
          obtain ⟨first, result, second, rfl, begins, ends⟩ := ih reply runs
          exact ⟨_, result, second, rfl, .ask begins, ends⟩

theorem Runs.bind {first : Activity I α} {further : α → Activity I β}
    {exchanges later : List (Exchange I)} {result : α} {final : β}
    (runs : first.Runs exchanges result) (goesOn : (further result).Runs later final) :
    (first >>= further).Runs (exchanges ++ later) final := by
  induction runs with
  | done => exact goesOn
  | ask _ ih => exact .ask (ih goesOn)

/-- The replies determine the result. -/
theorem Runs.unique {activity : Activity I α} {exchanges : List (Exchange I)} {result result' : α}
    (runs : activity.Runs exchanges result) (runs' : activity.Runs exchanges result') :
    result = result' := by
  induction runs with
  | done =>
      cases runs'
      rfl
  | ask _ ih =>
      cases runs' with
      | ask runs' => exact ih runs'

/-- However requests are answered, there is a run with these replies. -/
theorem exists_runs (answer : (request : I.Request) → I.Reply request)
    (activity : Activity I α) :
    ∃ exchanges result, activity.Runs exchanges result ∧
      ∀ exchange ∈ exchanges, exchange.reply = answer exchange.request := by
  induction activity with
  | done result => exact ⟨[], result, .done, by simp⟩
  | ask request next ih =>
      obtain ⟨exchanges, result, runs, replies⟩ := ih (answer request)
      exact ⟨_, result, .ask runs, List.forall_mem_cons.mpr ⟨rfl, replies⟩⟩

/-- That each reply is the one that is given in view of the exchanges before it. -/
def Answered (answer : List (Exchange I) → (request : I.Request) → I.Reply request) :
    List (Exchange I) → List (Exchange I) → Prop
  | _, [] => True
  | past, exchange :: later =>
      exchange.reply = answer past exchange.request ∧ Answered answer (past ++ [exchange]) later

theorem answered_append {answer : List (Exchange I) → (request : I.Request) → I.Reply request}
    {past first second : List (Exchange I)} :
    Answered answer past (first ++ second) ↔
      Answered answer past first ∧ Answered answer (past ++ first) second := by
  induction first generalizing past with
  | nil => simp [Answered]
  | cons exchange first ih => simp [Answered, ih, and_assoc]

/-- An activity that is answered is a run with these answers. -/
theorem exists_runs_recorded
    (answer : List (Exchange I) → (request : I.Request) → I.Reply request)
    (activity : Activity I α) (past : List (Exchange I)) :
    ∃ exchanges result,
      (activity.interpret (recorded answer)).run past = (result, past ++ exchanges) ∧
        activity.Runs exchanges result ∧ Answered answer past exchanges := by
  induction activity generalizing past with
  | done result => exact ⟨[], result, by rw [List.append_nil]; rfl, .done, trivial⟩
  | ask request next ih =>
      obtain ⟨later, result, run, runs, answered⟩ :=
        ih (answer past request) (past ++ [⟨request, answer past request⟩])
      refine ⟨⟨request, answer past request⟩ :: later, result, ?_, .ask runs, rfl, answered⟩
      rw [List.append_assoc] at run
      exact run

namespace Ensures

theorem mono {activity : Activity I α} {post weaker : List (Exchange I) → α → Prop}
    (ensures : activity.Ensures post)
    (implies : ∀ exchanges result, post exchanges result → weaker exchanges result) :
    activity.Ensures weaker := by
  induction activity generalizing post weaker with
  | done result => exact implies [] result ensures
  | ask request next ih =>
      intro reply
      exact ih reply (ensures reply) fun later result => implies (⟨request, reply⟩ :: later) result

theorem of_forall {post : List (Exchange I) → α → Prop}
    (holds : ∀ exchanges result, post exchanges result) (activity : Activity I α) :
    activity.Ensures post := by
  induction activity generalizing post with
  | done result => exact holds [] result
  | ask request next ih => exact fun reply => ih reply fun later => holds _

/-- One activity after another: what the second ensures may hang on what the first did. -/
theorem bind {activity : Activity I α} {further : α → Activity I β}
    {post : List (Exchange I) → β → Prop}
    (ensures : activity.Ensures fun exchanges result =>
      (further result).Ensures fun later final => post (exchanges ++ later) final) :
    (activity >>= further).Ensures post := by
  induction activity generalizing post with
  | done result => exact ensures
  | ask request next ih => exact fun reply => ih reply (ensures reply)

/-- All exchanges meet a condition if the first does and all that follow its reply do. -/
theorem forall_mem_ask {condition : Exchange I → Prop} {request : I.Request}
    {next : I.Reply request → Activity I α} (first : ∀ reply, condition ⟨request, reply⟩)
    (later : ∀ reply, (next reply).Ensures fun exchanges _ =>
      ∀ exchange ∈ exchanges, condition exchange) :
    (ask request next).Ensures fun exchanges _ => ∀ exchange ∈ exchanges, condition exchange :=
  fun reply => (later reply).mono fun _ _ rest => List.forall_mem_cons.mpr ⟨first reply, rest⟩

theorem forall_mem_bind {condition : Exchange I → Prop} {activity : Activity I α}
    {further : α → Activity I β}
    (first : activity.Ensures fun exchanges _ => ∀ exchange ∈ exchanges, condition exchange)
    (later : ∀ result, (further result).Ensures fun exchanges _ =>
      ∀ exchange ∈ exchanges, condition exchange) :
    (activity >>= further).Ensures fun exchanges _ =>
      ∀ exchange ∈ exchanges, condition exchange :=
  bind (first.mono fun _ result begins => (later result).mono fun _ _ ends =>
    List.forall_mem_append.mpr ⟨begins, ends⟩)

/-- What is ensured is so of every run. -/
theorem of_runs {activity : Activity I α} {post : List (Exchange I) → α → Prop}
    (ensures : activity.Ensures post) {exchanges : List (Exchange I)} {result : α}
    (runs : activity.Runs exchanges result) : post exchanges result := by
  induction runs generalizing post with
  | done => exact ensures
  | ask _ ih => exact ih (ensures _)

/-- What is ensured is so however an activity is answered. -/
theorem interpret_recorded {activity : Activity I α} {post : List (Exchange I) → α → Prop}
    (ensures : activity.Ensures post)
    (answer : List (Exchange I) → (request : I.Request) → I.Reply request)
    (past : List (Exchange I)) :
    ∃ exchanges result,
      (activity.interpret (recorded answer)).run past = (result, past ++ exchanges) ∧
        post exchanges result := by
  induction activity generalizing post past with
  | done result => exact ⟨[], result, by rw [List.append_nil]; rfl, ensures⟩
  | ask request next ih =>
      obtain ⟨later, result, run, holds⟩ :=
        ih (answer past request) (ensures _) (past ++ [⟨request, answer past request⟩])
      refine ⟨⟨request, answer past request⟩ :: later, result, ?_, holds⟩
      rw [List.append_assoc] at run
      exact run

end Ensures

theorem onLeft_bind (activity : Activity I α) (further : α → Activity I β) :
    (onLeft (activity >>= further) : Activity (I.sum J) β) =
      onLeft activity >>= fun result => onLeft (further result) := by
  induction activity with
  | done result => rfl
  | ask request next ih => exact congrArg (ask (I := I.sum J) (.inl request)) (funext ih)

end Activity

end TypedQueries
