import Mathlib.Logic.Function.Basic
import Plank.Sync.Notify
import Plank.Transition.System

/-!
# A queue that a worker empties

Callers store records under a lock and notify the worker after they released it. The worker creates
its future before it looks at the queue and awaits it after, so a look may fall between the two
steps of any caller, and a stop or a failure may broadcast between any two steps of the worker. Its
owner may drop it anywhere and begin another.

No worker waits while its queue holds a record, unless a caller still owes the notification, and
none waits once a stop was raised and broadcast.
-/

namespace Plank.Sync

/-- The operations of callers and of the worker on a queue the worker empties. -/
structure Sending (Fault Queue Offer : Type) where
  /-- The queue before the first record. -/
  empty : Queue
  /-- Whether a queue holds nothing. -/
  isEmpty : Queue → Bool
  /-- A caller offers a record: whether it was stored, and the queue after. -/
  put : Offer → Queue → Except Fault (Bool × Queue)
  /-- The worker takes a record: whether there was one, and the queue after. -/
  get : Queue → Except Fault (Bool × Queue)

/-- The operations keep to a condition on the queue, under which none faults, and the worker finds
nothing only where there is nothing. -/
structure Sending.Lawful {Fault Queue Offer : Type} (sending : Sending Fault Queue Offer)
    (valid : Queue → Prop) : Prop where
  /-- The first queue meets the condition. -/
  empty : valid sending.empty
  /-- A caller stores its record, or is refused. -/
  put : ∀ offer queue, valid queue → sending.put offer queue = .ok (false, queue) ∨
    ∃ after, sending.put offer queue = .ok (true, after) ∧ valid after
  /-- The worker takes a record unless there is none. -/
  get : ∀ queue, valid queue →
    sending.get queue = .ok (false, queue) ∧ sending.isEmpty queue = true ∨
      ∃ after, sending.get queue = .ok (true, after) ∧ valid after

/-- Where a worker that empties a queue is. -/
inductive SendingPhase where
  /-- About to create its future. -/
  | looping
  /-- It created its future after so many broadcasts. -/
  | created (calls : Nat)
  /-- It took a record and passes it on. -/
  | sending
  /-- It found nothing. -/
  | found (calls : Nat)
  /-- It is not asked to stop, and about to await. -/
  | going (calls : Nat)
  /-- It awaits. -/
  | parked
  /-- It ended, or was dropped. -/
  | ended
  deriving DecidableEq, Repr

/-- A queue with its callers and the worker that empties it. -/
structure Outbox (Queue : Type) where
  /-- The queue. -/
  queue : Queue
  /-- The cell of the worker. -/
  notify : Notify := {}
  /-- The worker. -/
  phase : SendingPhase := .looping
  /-- Callers that stored a record and have not notified. -/
  owes : Nat → Bool := fun _ => false
  /-- The stop flag. -/
  stop : Bool := false
  /-- Whether a broadcast followed the flag. -/
  announced : Bool := false

/-- The steps of a queue with its callers and the worker that empties it. -/
inductive OutboxAction (Offer : Type) where
  /-- A caller offers a record under the lock. -/
  | put (caller : Nat) (offer : Offer)
  /-- A caller notifies. -/
  | notify (caller : Nat)
  /-- The worker takes its next step. -/
  | worker
  /-- The worker ends with an error, or is dropped; a notification that woke it is passed on. -/
  | drop (woken : Bool)
  /-- The next worker begins. -/
  | begin
  /-- The stop flag is raised. -/
  | raise
  /-- A stop or a failure broadcasts. -/
  | broadcast
  deriving DecidableEq, Repr

namespace Outbox

variable {Fault Queue Offer : Type}

/-- The worker waits to be woken. -/
def Waits (outbox : Outbox Queue) : Prop :=
  outbox.phase = .parked ∧ outbox.notify.waiting = true

section Steps

variable (sending : Sending Fault Queue Offer)

/-- The next step of the worker. -/
def workerStep (outbox : Outbox Queue) : Option (Outbox Queue) :=
  match outbox.phase with
  | .looping => some { outbox with phase := .created outbox.notify.calls }
  | .created calls =>
    match sending.get outbox.queue with
    | .error _ => none
    | .ok (taken, queue) =>
      some { outbox with queue, phase := if taken then .sending else .found calls }
  | .sending => some { outbox with phase := .looping }
  | .found calls => some { outbox with phase := if outbox.stop then .ended else .going calls }
  | .going calls =>
    let (ready, notify) := outbox.notify.poll calls
    some { outbox with notify, phase := if ready then .looping else .parked }
  | .parked => if outbox.notify.waiting then none else some { outbox with phase := .looping }
  | .ended => none

/-- One step of a queue. -/
def step (outbox : Outbox Queue) : OutboxAction Offer → Option (Outbox Queue)
  | .put caller offer =>
    if outbox.owes caller then none
    else
      match sending.put offer outbox.queue with
      | .error _ => none
      | .ok (stored, queue) =>
        some { outbox with queue, owes := Function.update outbox.owes caller stored }
  | .notify caller =>
    if outbox.owes caller then
      some { outbox with
        notify := outbox.notify.notifyOne
        owes := Function.update outbox.owes caller false }
    else none
  | .worker => outbox.workerStep sending
  | .drop woken =>
    some { outbox with
      notify := outbox.notify.cancel
        (woken && outbox.phase = .parked && !outbox.notify.waiting)
      phase := .ended }
  | .begin => if outbox.phase = .ended then some { outbox with phase := .looping } else none
  | .raise => some { outbox with stop := true }
  | .broadcast =>
    some { outbox with
      notify := outbox.notify.notifyWaiters
      announced := outbox.announced || outbox.stop }

/-- All runs of a queue, from an empty one. -/
def system : Transition.System (Outbox Queue) (OutboxAction Offer) where
  initial outbox := outbox = { queue := sending.empty }
  step := step sending

/-- What the steps of a queue keep. -/
structure Invariant (valid : Queue → Prop) (outbox : Outbox Queue) : Prop where
  /-- The queue meets its condition. -/
  queue : valid outbox.queue
  /-- A future is not younger than the broadcasts it counted. -/
  created : ∀ calls, outbox.phase = .created calls ∨ outbox.phase = .found calls ∨
    outbox.phase = .going calls → calls ≤ outbox.notify.calls
  /-- A worker that looked finds its notification, or somebody owes it. -/
  looked : ∀ calls, outbox.phase = .found calls ∨ outbox.phase = .going calls →
    sending.isEmpty outbox.queue = false →
    outbox.notify.permit = true ∨ ∃ caller, outbox.owes caller = true
  /-- A worker that goes on finds the broadcast that followed the flag. -/
  going : ∀ calls, outbox.phase = .going calls → outbox.announced = true →
    calls < outbox.notify.calls
  /-- Only a worker that awaits waits. -/
  parked : outbox.notify.waiting = true → outbox.phase = .parked
  /-- A worker that waits was not told, or somebody owes it. -/
  waiting : outbox.notify.waiting = true → outbox.announced = false ∧
    (sending.isEmpty outbox.queue = false → ∃ caller, outbox.owes caller = true)
  /-- A broadcast followed the flag only once it was raised. -/
  raised : outbox.announced = true → outbox.stop = true

end Steps

variable {sending : Sending Fault Queue Offer} {valid : Queue → Prop} {before after : Outbox Queue}

/-- An empty queue meets the invariant. -/
theorem initial_invariant (lawful : sending.Lawful valid) :
    Invariant sending valid { queue := sending.empty } := by
  constructor <;> simp [lawful.empty]

/-- A caller that stores a record owes the notification. -/
theorem put_invariant {caller : Nat} {queue : Queue} (holds : before.Invariant sending valid)
    (kept : valid queue) :
    Invariant sending valid
      { before with queue, owes := Function.update before.owes caller true } := by
  have owed : ∃ other, Function.update before.owes caller true other = true :=
    ⟨caller, Function.update_self ..⟩
  exact {
    holds with
    queue := kept
    looked := fun _ _ _ => .inr owed
    waiting := fun waits => ⟨(holds.waiting waits).1, fun _ => owed⟩ }

/-- The notification of a caller reaches the worker. -/
theorem notify_invariant {caller : Nat} (holds : before.Invariant sending valid) :
    Invariant sending valid
      { before with
        notify := before.notify.notifyOne
        owes := Function.update before.owes caller false } := by
  obtain ⟨ended, calls, stored⟩ := before.notify.notifyOne_effect
  obtain ⟨queue, created, looked, going, parked, waiting, raised⟩ := holds
  constructor
  case queue => exact queue
  case created => grind -ring -linarith -order
  case looked =>
    intro calls looking _
    have idle : before.notify.waiting = false := by
      by_contra waits
      have awaits := parked (by simpa using waits)
      rcases looking with found | on
      · cases found.symm.trans awaits
      · cases on.symm.trans awaits
    exact .inl (stored idle)
  case going => grind -ring -linarith -order
  case parked => grind -ring -linarith -order
  case waiting => grind -ring -linarith -order
  case raised => exact raised

/-- The worker keeps the invariant. -/
theorem workerStep_invariant (lawful : sending.Lawful valid)
    (holds : before.Invariant sending valid) (stepped : before.workerStep sending = some after) :
    after.Invariant sending valid := by
  have polled := before.notify.poll_effect
  have taken := lawful.get before.queue holds.queue
  obtain ⟨queue, created, looked, going, parked, waiting, raised⟩ := holds
  cases phase : before.phase <;> simp only [workerStep, phase] at stepped
  case looping | sending =>
    obtain rfl := Option.some.inj stepped
    constructor <;> grind -ring -linarith -order
  case created calls =>
    rcases taken with ⟨nothing, empty⟩ | ⟨rest, took, kept⟩
    · rw [nothing] at stepped
      obtain rfl := Option.some.inj stepped
      constructor <;> grind -ring -linarith -order
    · rw [took] at stepped
      obtain rfl := Option.some.inj stepped
      constructor <;> grind -ring -linarith -order
  case found calls =>
    obtain rfl := Option.some.inj stepped
    constructor <;> grind -ring -linarith -order
  case going calls =>
    obtain rfl := Option.some.inj stepped
    rcases polled calls with ⟨ready, same, count⟩ | ⟨permit, called, pending⟩
    · constructor <;> grind -ring -linarith -order
    · rw [pending]
      constructor <;> grind -ring -linarith -order
  case parked =>
    obtain ⟨_, stepped⟩ := Option.ite_none_left_eq_some.mp stepped
    obtain rfl := Option.some.inj stepped
    constructor <;> grind -ring -linarith -order
  case ended => cases stepped

/-- Every step keeps the invariant. -/
theorem step_invariant (lawful : sending.Lawful valid) {action : OutboxAction Offer}
    (holds : before.Invariant sending valid) (stepped : step sending before action = some after) :
    after.Invariant sending valid := by
  cases action with
  | put caller offer =>
    obtain ⟨free, stepped⟩ := Option.ite_none_left_eq_some.mp stepped
    rcases lawful.put offer before.queue holds.queue with refused | ⟨queue, stored, kept⟩
    · rw [refused] at stepped
      obtain rfl := Option.some.inj stepped
      rw [← Bool.eq_false_iff.mpr free, Function.update_eq_self]
      exact holds
    · rw [stored] at stepped
      obtain rfl := Option.some.inj stepped
      exact put_invariant holds kept
  | notify caller =>
    obtain ⟨_, stepped⟩ := Option.ite_none_right_eq_some.mp stepped
    obtain rfl := Option.some.inj stepped
    exact notify_invariant holds
  | worker => exact workerStep_invariant lawful holds stepped
  | drop woken =>
    obtain rfl := Option.some.inj stepped
    obtain ⟨queue, created, looked, going, parked, waiting, raised⟩ := holds
    constructor <;> grind -ring -linarith -order [Notify.cancel]
  | begin =>
    obtain ⟨_, stepped⟩ := Option.ite_none_right_eq_some.mp stepped
    obtain rfl := Option.some.inj stepped
    obtain ⟨queue, created, looked, going, parked, waiting, raised⟩ := holds
    constructor <;> grind -ring -linarith -order
  | raise =>
    obtain rfl := Option.some.inj stepped
    exact { holds with raised := fun _ => rfl }
  | broadcast =>
    obtain rfl := Option.some.inj stepped
    obtain ⟨queue, created, looked, going, parked, waiting, raised⟩ := holds
    constructor <;> grind -ring -linarith -order [Notify.notifyWaiters]

/-- Every reachable queue meets the invariant. -/
theorem reachable_invariant (lawful : sending.Lawful valid) {outbox : Outbox Queue}
    (reachable : (system sending).Reachable outbox) : outbox.Invariant sending valid := by
  apply Transition.System.Preserves.reachable _ _ reachable
  · intro before action after holds stepped
    exact step_invariant lawful holds stepped
  · rintro _ rfl
    exact initial_invariant lawful

/-- What holds of every queue a worker empties. -/
structure Awake (sending : Sending Fault Queue Offer) (outbox : Outbox Queue) : Prop where
  /-- While the worker waits and the queue holds a record, a caller still owes its notification. -/
  records : outbox.Waits → sending.isEmpty outbox.queue = false →
    ∃ caller, outbox.owes caller = true
  /-- While the worker waits and a stop was raised, its broadcast is still to come. -/
  stop : outbox.Waits → outbox.announced = false
  /-- No caller faults. -/
  put : ∀ offer, ∃ result, sending.put offer outbox.queue = .ok result
  /-- The worker does not fault. -/
  get : ∃ result, sending.get outbox.queue = .ok result

/-- No wake-up of a worker that empties a queue is lost. -/
theorem reachable_awake (lawful : sending.Lawful valid) {outbox : Outbox Queue}
    (reachable : (system sending).Reachable outbox) : outbox.Awake sending := by
  have holds := reachable_invariant lawful reachable
  constructor
  · rintro ⟨_, waits⟩
    exact (holds.waiting waits).2
  · rintro ⟨_, waits⟩
    exact (holds.waiting waits).1
  · intro offer
    rcases lawful.put offer outbox.queue holds.queue with refused | ⟨after, stored, _⟩
    · exact ⟨_, refused⟩
    · exact ⟨_, stored⟩
  · rcases lawful.get outbox.queue holds.queue with ⟨nothing, _⟩ | ⟨after, took, _⟩
    · exact ⟨_, nothing⟩
    · exact ⟨_, took⟩

end Outbox

end Plank.Sync
