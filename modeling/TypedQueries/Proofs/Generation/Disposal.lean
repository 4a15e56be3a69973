import TypedQueries.Proofs.Generation.Order

/-! # Disposing of the probe

The result of a run stands before the probe is disposed of (`Activity.Settled`): runs that agree
up to then have the same result, whatever the probe replies (`eq_of_runs_to_dispose`).
-/

namespace TypedQueries

namespace Activity

variable {α β : Type}

/-- That the probe is not asked to be disposed of. -/
def Undisposing (exchanges : List (Exchange RunInterface)) : Prop :=
  ∀ exchange ∈ exchanges, exchange.request ≠ .inr .dispose

/-- That an activity has its result when it asks the probe to be disposed of: it comes to the same
one, whatever the replies are from then on. -/
def Settled : Activity RunInterface α → Prop
  | done _ => True
  | ask request next =>
      (request = .inr .dispose → ∀ {reply other later further result final},
        (next reply).Runs later result → (next other).Runs further final → result = final) ∧
      ∀ reply, Settled (next reply)

namespace Settled

/-- Runs of a settled activity that agree until the probe is disposed of end alike. -/
theorem eq_of_runs {activity : Activity RunInterface α} (settled : activity.Settled)
    {before after further : List (Exchange RunInterface)}
    {reply other : Except DatabaseFailure Unit} {result final : α}
    (runs : activity.Runs (before ++ ⟨.inr .dispose, reply⟩ :: after) result)
    (again : activity.Runs (before ++ ⟨.inr .dispose, other⟩ :: further) final) :
    result = final := by
  induction before generalizing activity with
  | nil =>
      cases runs with
      | ask runs =>
          cases again with
          | ask again => exact settled.1 rfl runs again
  | cons exchange before ih =>
      cases runs with
      | ask runs =>
          cases again with
          | ask again => exact ih (settled.2 _) runs again

/-- What comes before the probe is disposed of is of no account. -/
theorem bind_undisposing {first : Activity RunInterface α}
    {further : α → Activity RunInterface β}
    (undisposing : first.Ensures fun exchanges result =>
      Undisposing exchanges ∧ (further result).Settled) : (first >>= further).Settled := by
  induction first with
  | done result => exact undisposing.2
  | ask request next ih =>
      refine ⟨?_, fun reply => ih reply ?_⟩
      · rintro rfl reply other later further result final runs again
        obtain ⟨_, _, _, _, begins, _⟩ := runs.exists_of_bind
        exact absurd rfl (((undisposing reply).of_runs begins).1 _ List.mem_cons_self)
      · exact (undisposing reply).mono fun _ _ ⟨quiet, settled⟩ =>
          ⟨fun exchange member => quiet exchange (List.mem_cons_of_mem _ member), settled⟩

end Settled

/-- The surroundings are not the probe. -/
theorem Ensures.onLeft_undisposing {activity : Activity Surroundings α} {post : α → Prop}
    (ensures : activity.Ensures fun _ result => post result) :
    (onLeft activity : Activity RunInterface α).Ensures fun exchanges result =>
      Undisposing exchanges ∧ post result := by
  induction activity with
  | done result => exact ⟨fun _ member => (List.not_mem_nil member).elim, ensures⟩
  | ask request next ih =>
      refine fun reply => (ih reply (ensures reply)).mono fun exchanges _ ⟨quiet, holds⟩ => ?_
      exact ⟨List.forall_mem_cons.mpr ⟨Sum.inl_ne_inr, quiet⟩, holds⟩

theorem Settled.onLeft_bind {first : Activity Surroundings α}
    {further : α → Activity RunInterface β} (goesOn : ∀ result, (further result).Settled) :
    (onLeft first >>= further).Settled :=
  bind_undisposing (Ensures.onLeft_undisposing (.of_forall (fun _ => goesOn) first))

end Activity

namespace Generation

open Activity

/-- Exchanges in which the probe is not seen to be disposed of. -/
theorem AmountTo.undisposing {observers : Nat} {exchanges : List (Exchange RunInterface)}
    {actions : List Action} (amount : AmountTo observers exchanges actions)
    (quiet : ∀ exchange ∈ probes actions, Probe.disposes exchange = false) :
    Undisposing exchanges := by
  rintro ⟨_, reply⟩ member rfl
  have seen : Action.probed ⟨.dispose, reply⟩ ∈ exchanges.filterMap (Action.seen? 0) :=
    List.mem_filterMap.mpr ⟨_, member, rfl⟩
  rw [amount] at seen
  have probed : (⟨.dispose, reply⟩ : Exchange Probe) ∈ probes actions :=
    List.mem_filterMap.mpr ⟨_, (List.mem_filter.mp seen).1, rfl⟩
  cases quiet _ probed

end Generation

end TypedQueries
