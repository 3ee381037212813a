/-!
# Waiting for a notification

A cell that carries notifications to at most one future. A notification wakes the future if it
waits, and is stored as one permit otherwise. A broadcast wakes the future that waits and every
future created before it, and stores nothing. A future counts the broadcasts when it is created, and
takes no part in anything before its first poll.
-/

namespace Plank.Sync

/-- A cell of notifications with at most one waiter. -/
structure Notify where
  /-- Whether a notification is stored. -/
  permit : Bool := false
  /-- Broadcasts so far. -/
  calls : Nat := 0
  /-- Whether a future waits. -/
  waiting : Bool := false
  deriving DecidableEq, Repr

namespace Notify

/-- `notify_one`: wake the waiter, or store one permit. -/
def notifyOne (notify : Notify) : Notify :=
  if notify.waiting then { notify with waiting := false } else { notify with permit := true }

/-- `notify_waiters`: wake the waiter and every future created before. -/
def notifyWaiters (notify : Notify) : Notify :=
  { notify with calls := notify.calls + 1, waiting := false }

/-- The first poll of a future created after so many broadcasts: whether it is ready, and the cell
after. -/
def poll (notify : Notify) (created : Nat) : Bool × Notify :=
  if notify.permit then (true, { notify with permit := false })
  else if notify.calls ≠ created then (true, notify)
  else (false, { notify with waiting := true })

/-- The future is dropped: the notification that woke it, if one did, is passed on as a permit. -/
def cancel (notify : Notify) (woken : Bool) : Notify :=
  { notify with permit := notify.permit || woken, waiting := false }

/-- A notification ends the wait, and leaves a permit to a future that did not wait. -/
theorem notifyOne_effect (notify : Notify) :
    notify.notifyOne.waiting = false ∧ notify.notifyOne.calls = notify.calls ∧
      (notify.waiting = false → notify.notifyOne.permit = true) := by
  cases waiting : notify.waiting <;> simp [notifyOne, waiting]

/-- A poll that is not ready found no permit and no broadcast. -/
theorem poll_effect (notify : Notify) (created : Nat) :
    ((notify.poll created).1 = true ∧ (notify.poll created).2.waiting = notify.waiting ∧
      (notify.poll created).2.calls = notify.calls) ∨
    (notify.permit = false ∧ notify.calls = created ∧
      notify.poll created = (false, { notify with waiting := true })) := by
  cases permit : notify.permit with
  | true => simp [poll, permit]
  | false =>
    by_cases called : notify.calls = created
    · exact .inr ⟨rfl, called, by simp [poll, permit, called]⟩
    · exact .inl (by simp [poll, permit, called])

end Notify

end Plank.Sync
