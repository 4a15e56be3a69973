/-! # Activities

What a program does, step by step: it asks its surroundings for something, goes on with
the reply, and in the end has a result. An activity says nothing about how requests are
answered; `Activity.interpret` answers them, in whatever way is given.
-/

namespace TypedQueries

/-- What can be asked for, and what the replies are. -/
structure Interface where
  Request : Type
  Reply : Request → Type

namespace Interface

def sum (I J : Interface) : Interface where
  Request := I.Request ⊕ J.Request
  Reply := Sum.elim I.Reply J.Reply

end Interface

/-- A result, or a request and what follows each reply to it. -/
inductive Activity (I : Interface) (α : Type) : Type where
  | done (result : α)
  | ask (request : I.Request) (next : I.Reply request → Activity I α)

namespace Activity

variable {I J : Interface} {α β γ : Type}

/-- One activity, then another that depends on its result. -/
def bind : Activity I α → (α → Activity I β) → Activity I β
  | done result, further => further result
  | ask request next, further => ask request fun reply => bind (next reply) further

instance : Monad (Activity I) where
  pure := done
  bind := bind

@[simp] theorem pure_eq (result : α) : (pure result : Activity I α) = done result := rfl

@[simp] theorem done_bind (result : α) (further : α → Activity I β) :
    done result >>= further = further result := rfl

@[simp] theorem ask_bind (request : I.Request) (next : I.Reply request → Activity I α)
    (further : α → Activity I β) :
    ask request next >>= further = ask request fun reply => next reply >>= further := rfl

theorem bind_done (activity : Activity I α) : activity >>= done = activity := by
  induction activity with
  | done result => rfl
  | ask request next ih => simp only [ask_bind, ih]

theorem bind_assoc (activity : Activity I α) (f : α → Activity I β) (g : β → Activity I γ) :
    activity >>= f >>= g = activity >>= fun result => f result >>= g := by
  induction activity with
  | done result => rfl
  | ask request next ih => simp only [ask_bind, ih]

instance : LawfulMonad (Activity I) :=
  LawfulMonad.mk' (Activity I) bind_done (fun _ _ => rfl) bind_assoc

def request (r : I.Request) : Activity I (I.Reply r) := ask r done

/-- The result when requests are answered in the given way. -/
def interpret {m : Type → Type} [Monad m] (answer : (r : I.Request) → m (I.Reply r)) :
    Activity I α → m α
  | done result => pure result
  | ask request next => do interpret answer (next (← answer request))

def answerSum {m : Type → Type} (left : (r : I.Request) → m (I.Reply r))
    (right : (r : J.Request) → m (J.Reply r)) :
    (r : (I.sum J).Request) → m ((I.sum J).Reply r)
  | .inl r => left r
  | .inr r => right r

/-- An activity on the first of two sides. -/
def onLeft : Activity I α → Activity (I.sum J) α
  | done result => done result
  | ask request next => ask (.inl request) fun reply => onLeft (next reply)

/-- An activity on the second of two sides. -/
def onRight : Activity J α → Activity (I.sum J) α
  | done result => done result
  | ask request next => ask (.inr request) fun reply => onRight (next reply)

end Activity

end TypedQueries
