import Mathlib.Data.List.Nodup
import Mathlib.Logic.Relation
import TypedQueries.Proofs.Generation.Inputs

/-! # Workers

Pieces of work that may fail are shared among workers. Nothing is begun any more once a failure is
kept, but what was begun is finished, in any order (`Source.Progress.Step`). Of the failures the
one is kept that comes first in time, and that is what is collected (`Source.collect_of_order`).
Every order of all pieces is possible (`Source.order_of_perm`), and so is that nothing but a piece
that fails is begun (`Source.order_singleton`).
-/

namespace TypedQueries

namespace Source

variable {ε α : Type} {pieces : List (Except ε α)}

/-- The failure of a piece of work, given by its number. -/
def failureAt? (pieces : List (Except ε α)) (piece : Nat) : Option ε :=
  pieces[piece]?.bind failure?

theorem failureAt?_eq_some_iff {piece : Nat} {failure : ε} :
    failureAt? pieces piece = some failure ↔ pieces[piece]? = some (.error failure) := by
  rw [failureAt?, Option.bind_eq_some_iff]
  constructor
  · rintro ⟨_ | _, present, isFailure⟩
    · cases isFailure
      exact present
    · cases isFailure
  · exact fun present => ⟨_, present, rfl⟩

/-- How far workers have come: the pieces that are begun, those that are finished, each in the
order in which this happened, and the failure that is kept. -/
structure Progress (ε : Type) where
  begun : List Nat := []
  finished : List Nat := []
  kept : Option ε := none

namespace Progress

/-- A piece is begun unless a failure is kept, and finished at some time after that. Its failure
is kept if it is the first. -/
inductive Step (pieces : List (Except ε α)) (progress : Progress ε) : Progress ε → Prop
  | begins {piece : Nat} (inRange : piece < pieces.length) (fresh : piece ∉ progress.begun)
      (goesOn : progress.kept = none) :
      Step pieces progress { progress with begun := progress.begun ++ [piece] }
  | finishes {piece : Nat} (begun : piece ∈ progress.begun) (going : piece ∉ progress.finished) :
      Step pieces progress
        { progress with
          finished := progress.finished ++ [piece]
          kept := progress.kept.or (failureAt? pieces piece) }

/-- That workers come from one state to another. -/
abbrev Reaches (pieces : List (Except ε α)) : Progress ε → Progress ε → Prop :=
  Relation.ReflTransGen (Step pieces)

/-- That the workers are done: what was begun is finished, and without a failure this is all. -/
structure Complete (pieces : List (Except ε α)) (progress : Progress ε) : Prop where
  settled : ∀ piece ∈ progress.begun, piece ∈ progress.finished
  whole : progress.kept = none → ∀ piece < pieces.length, piece ∈ progress.begun

/-- What is known of the pieces that are finished, and of the failure that is kept. -/
structure Account (pieces : List (Except ε α)) (progress : Progress ε) : Prop where
  inRange : ∀ piece ∈ progress.begun, piece < pieces.length
  begun : ∀ piece ∈ progress.finished, piece ∈ progress.begun
  once : progress.finished.Nodup
  kept : progress.kept = progress.finished.findSome? (failureAt? pieces)

variable {progress next : Progress ε}

theorem Account.step (account : Account pieces progress) (step : Step pieces progress next) :
    Account pieces next := by
  cases step with
  | begins inRange fresh goesOn =>
      exact
        { account with
          inRange := by
            rw [List.forall_mem_append, List.forall_mem_singleton]
            exact ⟨account.inRange, inRange⟩
          begun := fun piece member => List.mem_append_left _ (account.begun piece member) }
  | finishes begun going =>
      exact
        { inRange := account.inRange
          begun := by
            rw [List.forall_mem_append, List.forall_mem_singleton]
            exact ⟨account.begun, begun⟩
          once := List.concat_eq_append ▸ account.once.concat going
          kept := by
            rw [List.findSome?_append, ← account.kept]
            cases progress.kept <;> simp }

/-- Whatever the workers do, the account is kept. -/
theorem account_of_reaches (reached : Reaches pieces {} progress) : Account pieces progress := by
  induction reached with
  | refl => exact ⟨by simp, by simp, List.nodup_nil, rfl⟩
  | tail _ step ih => exact ih.step step

/-- As long as no failure is kept, pieces can be begun one after the other. -/
theorem reaches_begun {fresh : List Nat} (goesOn : progress.kept = none)
    (inRange : ∀ piece ∈ fresh, piece < pieces.length) (once : (progress.begun ++ fresh).Nodup) :
    Reaches pieces progress { progress with begun := progress.begun ++ fresh } := by
  induction fresh generalizing progress with
  | nil => rw [List.append_nil]
  | cons piece fresh ih =>
      have new : piece ∉ progress.begun := fun member =>
        List.disjoint_of_nodup_append once member List.mem_cons_self
      rw [List.append_cons] at once ⊢
      have further : Reaches pieces { progress with begun := progress.begun ++ [piece] }
          { progress with begun := progress.begun ++ [piece] ++ fresh } :=
        ih goesOn (fun other member => inRange other (List.mem_cons_of_mem _ member)) once
      exact .head (.begins (inRange piece List.mem_cons_self) new goesOn) further

/-- Pieces that are begun can be finished one after the other. -/
theorem exists_reaches_finished (pieces : List (Except ε α)) {going : List Nat}
    (begun : ∀ piece ∈ going, piece ∈ progress.begun)
    (once : (progress.finished ++ going).Nodup) :
    ∃ kept, Reaches pieces progress ⟨progress.begun, progress.finished ++ going, kept⟩ := by
  induction going generalizing progress with
  | nil =>
      rw [List.append_nil]
      exact ⟨progress.kept, .refl⟩
  | cons piece going ih =>
      have open' : piece ∉ progress.finished := fun member =>
        List.disjoint_of_nodup_append once member List.mem_cons_self
      rw [List.append_cons] at once ⊢
      obtain ⟨kept, further⟩ : ∃ kept, Reaches pieces
          ⟨progress.begun, progress.finished ++ [piece],
            progress.kept.or (failureAt? pieces piece)⟩
          ⟨progress.begun, progress.finished ++ [piece] ++ going, kept⟩ :=
        ih (fun other member => begun other (List.mem_cons_of_mem _ member)) once
      exact ⟨kept, .head (.finishes (begun piece List.mem_cons_self) open') further⟩

end Progress

open Progress in
/-- That workers can finish pieces in an order and be done. -/
def Order (pieces : List (Except ε α)) (finished : List Nat) : Prop :=
  ∃ progress : Progress ε,
    Reaches pieces {} progress ∧ Complete pieces progress ∧ progress.finished = finished

/-- All pieces may be finished, in any order: they can all be begun before the first is
finished. -/
theorem order_of_perm {finished : List Nat} (all : finished.Perm (List.range pieces.length)) :
    Order pieces finished := by
  have inRange : ∀ piece ∈ finished, piece < pieces.length := fun piece member =>
    List.mem_range.mp (all.mem_iff.mp member)
  have once : finished.Nodup := all.nodup_iff.mpr List.nodup_range
  have begun : Progress.Reaches pieces {} ⟨finished, [], none⟩ :=
    Progress.reaches_begun rfl inRange once
  obtain ⟨kept, reached⟩ : ∃ kept, Progress.Reaches pieces ⟨finished, [], none⟩
      ⟨finished, [] ++ finished, kept⟩ :=
    Progress.exists_reaches_finished pieces (fun _ member => member) once
  refine ⟨_, begun.trans reached, ⟨fun _ member => member, fun _ piece within => ?_⟩, rfl⟩
  exact all.mem_iff.mpr (List.mem_range.mpr within)

/-- A piece that fails may be the only one that is begun. -/
theorem order_singleton {piece : Nat} {failure : ε}
    (failed : pieces[piece]? = some (.error failure)) : Order pieces [piece] := by
  have inRange : piece < pieces.length := (List.getElem?_eq_some_iff.mp failed).1
  have begins : Progress.Step pieces {} { begun := [piece] } :=
    .begins inRange List.not_mem_nil rfl
  have finishes : Progress.Step pieces { begun := [piece] }
      ⟨[piece], [piece], (none : Option ε).or (failureAt? pieces piece)⟩ :=
    .finishes List.mem_cons_self List.not_mem_nil
  refine ⟨_, .head begins (.single finishes), ⟨fun _ member => member, fun unkept => ?_⟩, rfl⟩
  rw [failureAt?_eq_some_iff.mpr failed] at unkept
  cases unkept

/-- What is collected from workers that are done: all results in the order of their pieces, if
every piece succeeds, and else the failure of the piece that was finished first of those that
fail. -/
theorem collect_of_order {finished : List Nat} (order : Order pieces finished) :
    (∃ results, pieces = results.map .ok ∧ collect finished pieces = .ok results) ∨
      ∃ before piece after failure, finished = before ++ piece :: after ∧
        pieces[piece]? = some (.error failure) ∧
        (∀ earlier ∈ before, failureAt? pieces earlier = none) ∧
        collect finished pieces = .error failure := by
  obtain ⟨progress, reached, complete, rfl⟩ := order
  have account := Progress.account_of_reaches reached
  have kept : progress.finished.findSome? (fun piece => pieces[piece]?.bind failure?) =
      progress.kept := account.kept.symm
  cases isKept : progress.kept with
  | some failure =>
      have first := account.kept.symm.trans isKept
      obtain ⟨before, piece, after, split, failed, succeeded⟩ := List.findSome?_eq_some_iff.mp first
      refine .inr ⟨before, piece, after, failure, split, failureAt?_eq_some_iff.mp failed,
        succeeded, ?_⟩
      rw [collect, kept, isKept]
  | none =>
      have collected : collect progress.finished pieces = pieces.mapM id := by
        rw [collect, kept, isKept]
      rw [collected]
      cases outcome : pieces.mapM id with
      | ok results =>
          refine .inl ⟨results, eq_of_collect_eq_ok (collected.trans outcome), rfl⟩
      | error failure =>
          -- A failure would have been kept, since all pieces are finished.
          have member := mem_map_of_mapM_eq_error outcome
          rw [List.map_id] at member
          obtain ⟨piece, inRange, failed⟩ := List.getElem_of_mem member
          have finished := complete.settled piece (complete.whole isKept piece inRange)
          have unfailed := List.findSome?_eq_none_iff.mp (account.kept.symm.trans isKept) piece
            finished
          rw [failureAt?_eq_some_iff.mpr (List.getElem?_eq_some_iff.mpr ⟨inRange, failed⟩)]
            at unfailed
          cases unfailed

end Source

end TypedQueries
