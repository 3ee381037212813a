import Mathlib.Data.List.Basic

/-!
# Transactions of calls that may fail

A transaction is begun, makes its calls in order up to the first that fails, and is then cancelled,
or completed if none fails. Every transaction that is begun ends once, and a result of success means
that everything succeeded.
-/

namespace Plank

variable {Call : Type}

/-- What is done with a transaction. -/
inductive TransactionEvent (Call : Type) where
  /-- It is begun, if that succeeds. -/
  | start (begun : Bool)
  /-- A call is made in it. -/
  | call (made : Call)
  /-- It is completed. -/
  | complete
  /-- It is cancelled. -/
  | cancel
  deriving DecidableEq

/-- Calls in order, each with whether it succeeds: those that are made, and whether all succeed. -/
def attempt : List (Call × Bool) → Bool × List Call
  | [] => (true, [])
  | (call, true) :: rest => ((attempt rest).1, call :: (attempt rest).2)
  | (call, false) :: _ => (false, [call])

/-- A transaction with calls: whether it is completed with success, and what is done with it. -/
def transact (begins : Bool) (calls : List (Call × Bool)) (completes : Bool) :
    Bool × List (TransactionEvent Call) :=
  if begins then
    match attempt calls with
    | (true, made) => (completes, .start true :: (made.map .call ++ [.complete]))
    | (false, made) => (false, .start true :: (made.map .call ++ [.cancel]))
  else (false, [.start false])

/-- Every transaction that is begun ends once, before the next one. -/
inductive Settled : List (TransactionEvent Call) → Prop
  /-- Nothing is done. -/
  | nil : Settled []
  /-- A transaction is not begun. -/
  | refused {rest : List (TransactionEvent Call)} (more : Settled rest) :
      Settled (.start false :: rest)
  /-- A transaction is begun and completed. -/
  | completed (made : List Call) {rest : List (TransactionEvent Call)} (more : Settled rest) :
      Settled (.start true :: (made.map .call ++ .complete :: rest))
  /-- A transaction is begun and cancelled. -/
  | cancelled (made : List Call) {rest : List (TransactionEvent Call)} (more : Settled rest) :
      Settled (.start true :: (made.map .call ++ .cancel :: rest))

/-- What is settled, one after the other, is settled. -/
theorem Settled.append {events more : List (TransactionEvent Call)} (settled : Settled events)
    (settled_more : Settled more) : Settled (events ++ more) := by
  induction settled with
  | nil => exact settled_more
  | refused _ ih => exact .refused ih
  | completed made _ ih =>
    rw [List.cons_append, List.append_assoc]
    exact .completed made ih
  | cancelled made _ ih =>
    rw [List.cons_append, List.append_assoc]
    exact .cancelled made ih

/-- A transaction is settled. -/
theorem transact_settled (begins : Bool) (calls : List (Call × Bool)) (completes : Bool) :
    Settled (transact begins calls completes).2 := by
  unfold transact
  cases begins with
  | false => exact .refused .nil
  | true =>
    obtain ⟨succeeds, made⟩ := attempt calls
    cases succeeds with
    | false => exact .cancelled made .nil
    | true => exact .completed made .nil

/-- The calls that are made are among those that were to be made. -/
theorem attempt_mem {calls : List (Call × Bool)} {call : Call} (made : call ∈ (attempt calls).2) :
    ∃ succeeds, (call, succeeds) ∈ calls := by
  induction calls with
  | nil => exact nomatch made
  | cons first rest ih =>
    obtain ⟨first, succeeds⟩ := first
    cases succeeds with
    | false =>
      obtain rfl := List.mem_singleton.mp made
      exact ⟨false, List.mem_cons_self⟩
    | true =>
      obtain _ | ⟨_, made⟩ := made
      · exact ⟨true, List.mem_cons_self⟩
      · obtain ⟨succeeds, member⟩ := ih made
        exact ⟨succeeds, List.mem_cons_of_mem _ member⟩

/-- A transaction makes no other calls than those that were to be made. -/
theorem transact_mem {begins : Bool} {calls : List (Call × Bool)} {completes : Bool} {call : Call}
    (made : .call call ∈ (transact begins calls completes).2) :
    ∃ succeeds, (call, succeeds) ∈ calls := by
  unfold transact at made
  cases begins with
  | false => simp at made
  | true =>
    have among := @attempt_mem Call calls call
    generalize attempt calls = result at made among
    obtain ⟨succeeds, calls_made⟩ := result
    cases succeeds with
    | false => exact among (by simpa using made)
    | true => exact among (by simpa using made)

end Plank
