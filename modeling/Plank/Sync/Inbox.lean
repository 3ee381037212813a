import Mathlib.Logic.Function.Basic
import Plank.Sync.Notify
import Plank.Transition.System

/-!
# A bounded queue that a worker fills

One worker at a time stores the records it is given, in order, and awaits space while the queue
refuses its record. Any number of callers remove records under a lock and notify the worker after
they released it. The worker creates its future before it looks at the queue and awaits it after, so
a look may fall between the two steps of any caller, and the notifications of several callers may
become one permit. One removal need not make enough space. Its owner may drop the worker anywhere
and begin another.

No worker waits while its queue would take its record, unless a caller still owes the notification,
and callers that go on receiving always bring a waiting worker to its record's turn.
-/

namespace Plank.Sync

/-- The operations of the worker and of callers on a queue the worker fills. -/
structure Receiving (Fault Queue Record Demand : Type) where
  /-- The queue before the first record. -/
  empty : Queue
  /-- The number of its records. -/
  size : Queue → Nat
  /-- Whether the worker may be given this record. -/
  allowed : Record → Bool
  /-- The worker looks for space: whether it stored the record, and the queue after. -/
  put : Record → Queue → Except Fault (Bool × Queue)
  /-- A caller asks for a record: whether one was removed, and the queue after. -/
  take : Demand → Queue → Except Fault (Bool × Queue)

/-- The operations keep to a condition on the queue, under which none faults; an empty queue takes
every record, and a queue that holds one gives it to some caller. -/
structure Receiving.Lawful {Fault Queue Record Demand : Type}
    (receiving : Receiving Fault Queue Record Demand) (valid : Queue → Prop) : Prop where
  /-- The first queue meets the condition. -/
  empty : valid receiving.empty
  /-- The worker stores its record, or is refused. -/
  put : ∀ record queue, valid queue → receiving.allowed record = true →
    receiving.put record queue = .ok (false, queue) ∨
      ∃ after, receiving.put record queue = .ok (true, after) ∧ valid after
  /-- A caller removes one record, or none. -/
  take : ∀ demand queue, valid queue → receiving.take demand queue = .ok (false, queue) ∨
    ∃ after, receiving.take demand queue = .ok (true, after) ∧ valid after ∧
      receiving.size after + 1 = receiving.size queue
  /-- An empty queue takes every record. -/
  space : ∀ record queue, valid queue → receiving.allowed record = true →
    receiving.size queue = 0 → ∃ after, receiving.put record queue = .ok (true, after)
  /-- A queue that holds a record gives it to some caller. -/
  enough : ∀ queue, valid queue → 0 < receiving.size queue →
    ∃ demand after, receiving.take demand queue = .ok (true, after)

/-- Where a worker that fills a queue is. -/
inductive ReceivingPhase (Record : Type) where
  /-- It has no record. -/
  | idle
  /-- About to create its future. -/
  | looping (record : Record)
  /-- It created its future after so many broadcasts. -/
  | created (record : Record) (calls : Nat)
  /-- The queue refused its record, and it is about to await. -/
  | refused (record : Record) (calls : Nat)
  /-- It awaits. -/
  | parked (record : Record)
  deriving DecidableEq, Repr

/-- The record a worker holds. -/
@[grind]
def ReceivingPhase.record {Record : Type} : ReceivingPhase Record → Option Record
  | .idle => none
  | .looping record | .created record _ | .refused record _ | .parked record => some record

/-- A queue with its callers and the worker that fills it. -/
structure Inbox (Queue Record : Type) where
  /-- The queue. -/
  queue : Queue
  /-- The cell of the worker. -/
  notify : Notify := {}
  /-- The worker. -/
  phase : ReceivingPhase Record := .idle
  /-- Callers that removed a record and have not notified. -/
  owes : Nat → Bool := fun _ => false

/-- The steps of a queue with its callers and the worker that fills it. -/
inductive InboxAction (Record Demand : Type) where
  /-- The worker is given a record. -/
  | arrive (record : Record)
  /-- The worker takes its next step. -/
  | worker
  /-- The worker is dropped; a notification that woke it is passed on. -/
  | drop (woken : Bool)
  /-- A caller asks for a record under the lock. -/
  | take (caller : Nat) (demand : Demand)
  /-- A caller notifies. -/
  | notify (caller : Nat)
  deriving DecidableEq, Repr

/-- Whether a caller takes the step. -/
def InboxAction.ofCaller {Record Demand : Type} : InboxAction Record Demand → Bool
  | .take _ _ | .notify _ => true
  | _ => false

namespace Inbox

variable {Fault Queue Record Demand : Type}

/-- The worker waits to be woken for this record. -/
def Waits (inbox : Inbox Queue Record) (record : Record) : Prop :=
  inbox.phase = .parked record ∧ inbox.notify.waiting = true

section Steps

variable (receiving : Receiving Fault Queue Record Demand)

/-- The next step of the worker. -/
def workerStep (inbox : Inbox Queue Record) : Option (Inbox Queue Record) :=
  match inbox.phase with
  | .idle => none
  | .looping record => some { inbox with phase := .created record inbox.notify.calls }
  | .created record calls =>
    match receiving.put record inbox.queue with
    | .error _ => none
    | .ok (stored, queue) =>
      some { inbox with queue, phase := if stored then .idle else .refused record calls }
  | .refused record calls =>
    let (ready, notify) := inbox.notify.poll calls
    some { inbox with notify, phase := if ready then .looping record else .parked record }
  | .parked record =>
    if inbox.notify.waiting then none else some { inbox with phase := .looping record }

/-- One step of a queue. -/
def step (inbox : Inbox Queue Record) :
    InboxAction Record Demand → Option (Inbox Queue Record)
  | .arrive record =>
    if inbox.phase.record.isNone && receiving.allowed record then
      some { inbox with phase := .looping record }
    else none
  | .worker => inbox.workerStep receiving
  | .drop woken =>
    let awaits := match inbox.phase with
      | .parked _ => true
      | _ => false
    some { inbox with
      notify := inbox.notify.cancel (woken && awaits && !inbox.notify.waiting)
      phase := .idle }
  | .take caller demand =>
    if inbox.owes caller then none
    else
      match receiving.take demand inbox.queue with
      | .error _ => none
      | .ok (removed, queue) =>
        some { inbox with queue, owes := Function.update inbox.owes caller removed }
  | .notify caller =>
    if inbox.owes caller then
      some { inbox with
        notify := inbox.notify.notifyOne
        owes := Function.update inbox.owes caller false }
    else none

/-- All runs of a queue, from an empty one. -/
def system : Transition.System (Inbox Queue Record) (InboxAction Record Demand) where
  initial inbox := inbox = { queue := receiving.empty }
  step := step receiving

/-- The queue would take this record. -/
def Admits (queue : Queue) (record : Record) : Prop :=
  ∃ after, receiving.put record queue = .ok (true, after)

/-- What the steps of a queue keep. -/
structure Invariant (valid : Queue → Prop) (inbox : Inbox Queue Record) : Prop where
  /-- The queue meets its condition. -/
  queue : valid inbox.queue
  /-- The worker was given the record it holds. -/
  allowed : ∀ record, inbox.phase.record = some record → receiving.allowed record = true
  /-- A refused worker finds its notification once there is space, or somebody owes it. -/
  refused : ∀ record calls, inbox.phase = .refused record calls →
    Admits receiving inbox.queue record →
    inbox.notify.permit = true ∨ ∃ caller, inbox.owes caller = true
  /-- Only a worker that awaits waits. -/
  parked : inbox.notify.waiting = true → ∃ record, inbox.phase = .parked record
  /-- A worker that waits has no space, or somebody owes the notification. -/
  waiting : ∀ record, inbox.Waits record → Admits receiving inbox.queue record →
    ∃ caller, inbox.owes caller = true

end Steps

variable {receiving : Receiving Fault Queue Record Demand} {valid : Queue → Prop}
  {before after : Inbox Queue Record}

/-- An empty queue meets the invariant. -/
theorem initial_invariant (lawful : receiving.Lawful valid) :
    Invariant receiving valid { queue := receiving.empty } := by
  constructor <;> simp [lawful.empty, ReceivingPhase.record, Waits]

/-- A caller that removes a record owes the notification. -/
theorem take_invariant {caller : Nat} {queue : Queue} (holds : before.Invariant receiving valid)
    (kept : valid queue) :
    Invariant receiving valid
      { before with queue, owes := Function.update before.owes caller true } := by
  have owed : ∃ other, Function.update before.owes caller true other = true :=
    ⟨caller, Function.update_self ..⟩
  exact {
    holds with
    queue := kept
    refused := fun _ _ _ _ => .inr owed
    waiting := fun _ _ _ => owed }

/-- The notification of a caller reaches the worker. -/
theorem notify_invariant {caller : Nat} (holds : before.Invariant receiving valid) :
    Invariant receiving valid
      { before with
        notify := before.notify.notifyOne
        owes := Function.update before.owes caller false } := by
  obtain ⟨ended, _, stored⟩ := before.notify.notifyOne_effect
  exact {
    holds with
    refused := by
      intro record calls refused _
      have idle : before.notify.waiting = false := by
        by_contra waits
        obtain ⟨other, awaits⟩ := holds.parked (by simpa using waits)
        cases refused.symm.trans awaits
      exact .inl (stored idle)
    parked := fun waits => absurd waits (by simp [ended])
    waiting := fun _ waits => absurd waits.2 (by simp [ended]) }

/-- The worker keeps the invariant. -/
theorem workerStep_invariant (lawful : receiving.Lawful valid)
    (holds : before.Invariant receiving valid)
    (stepped : before.workerStep receiving = some after) : after.Invariant receiving valid := by
  have polled := before.notify.poll_effect
  have pushed := fun record => lawful.put record before.queue holds.queue
  obtain ⟨queue, allowed, refused, parked, waiting⟩ := holds
  cases phase : before.phase <;> simp only [workerStep, phase] at stepped
  case idle => cases stepped
  case looping record =>
    obtain rfl := Option.some.inj stepped
    constructor <;> grind -ring -linarith -order [Waits]
  case created record calls =>
    rcases pushed record (allowed record (by simp [phase, ReceivingPhase.record])) with
      full | ⟨rest, stored, kept⟩
    · rw [full] at stepped
      obtain rfl := Option.some.inj stepped
      constructor <;> grind -ring -linarith -order [Waits, Admits]
    · rw [stored] at stepped
      obtain rfl := Option.some.inj stepped
      constructor <;> grind -ring -linarith -order [Waits]
  case refused record calls =>
    obtain rfl := Option.some.inj stepped
    rcases polled calls with ⟨ready, same, _⟩ | ⟨permit, _, pending⟩
    · constructor <;> grind -ring -linarith -order [Waits]
    · rw [pending]
      constructor <;> grind -ring -linarith -order [Waits]
  case parked record =>
    obtain ⟨_, stepped⟩ := Option.ite_none_left_eq_some.mp stepped
    obtain rfl := Option.some.inj stepped
    constructor <;> grind -ring -linarith -order [Waits]

/-- Every step keeps the invariant. -/
theorem step_invariant (lawful : receiving.Lawful valid) {action : InboxAction Record Demand}
    (holds : before.Invariant receiving valid)
    (stepped : step receiving before action = some after) : after.Invariant receiving valid := by
  cases action with
  | arrive record =>
    obtain ⟨given, stepped⟩ := Option.ite_none_right_eq_some.mp stepped
    obtain rfl := Option.some.inj stepped
    obtain ⟨queue, allowed, refused, parked, waiting⟩ := holds
    constructor <;> grind -ring -linarith -order [Waits]
  | worker => exact workerStep_invariant lawful holds stepped
  | drop woken =>
    obtain rfl := Option.some.inj stepped
    obtain ⟨queue, allowed, refused, parked, waiting⟩ := holds
    constructor <;> grind -ring -linarith -order [Waits, Notify.cancel]
  | take caller demand =>
    obtain ⟨free, stepped⟩ := Option.ite_none_left_eq_some.mp stepped
    rcases lawful.take demand before.queue holds.queue with nothing | ⟨queue, took, kept, _⟩
    · rw [nothing] at stepped
      obtain rfl := Option.some.inj stepped
      rw [← Bool.eq_false_iff.mpr free, Function.update_eq_self]
      exact holds
    · rw [took] at stepped
      obtain rfl := Option.some.inj stepped
      exact take_invariant holds kept
  | notify caller =>
    obtain ⟨_, stepped⟩ := Option.ite_none_right_eq_some.mp stepped
    obtain rfl := Option.some.inj stepped
    exact notify_invariant holds

/-- Every reachable queue meets the invariant. -/
theorem reachable_invariant (lawful : receiving.Lawful valid) {inbox : Inbox Queue Record}
    (reachable : (system receiving).Reachable inbox) : inbox.Invariant receiving valid := by
  apply Transition.System.Preserves.reachable _ _ reachable
  · intro before action after holds stepped
    exact step_invariant lawful holds stepped
  · rintro _ rfl
    exact initial_invariant lawful

/-- A queue in which only callers step. -/
def callers (receiving : Receiving Fault Queue Record Demand) :
    Transition.System (Inbox Queue Record) (InboxAction Record Demand) :=
  (system receiving).restrict fun _ action => action.ofCaller

/-- A caller that owes its notification may give it. -/
theorem notify_enabled {inbox : Inbox Queue Record} {caller : Nat}
    (owes : inbox.owes caller = true) :
    (callers receiving).Next inbox
      { inbox with
        notify := inbox.notify.notifyOne
        owes := Function.update inbox.owes caller false } :=
  ⟨.notify caller, by
    simp [callers, Transition.System.restrict, InboxAction.ofCaller, system, step, owes]⟩

/-- A caller that owes nothing may remove a record. -/
theorem take_enabled {inbox : Inbox Queue Record} {caller : Nat} {demand : Demand} {queue : Queue}
    (free : inbox.owes caller = false)
    (took : receiving.take demand inbox.queue = .ok (true, queue)) :
    (callers receiving).Next inbox
      { inbox with queue, owes := Function.update inbox.owes caller true } :=
  ⟨.take caller demand, by
    simp [callers, Transition.System.restrict, InboxAction.ofCaller, system, step, free, took]⟩

/-- A caller that goes on receiving empties the queue, and wakes the worker if there was a record or
the worker was awake. -/
theorem drain (lawful : receiving.Lawful valid) {caller : Nat} {size : Nat}
    {inbox : Inbox Queue Record} (kept : valid inbox.queue)
    (count : receiving.size inbox.queue = size) (free : inbox.owes caller = false) :
    ∃ later, (callers receiving).Reaches inbox later ∧ later.phase = inbox.phase ∧
      valid later.queue ∧ receiving.size later.queue = 0 ∧
      (0 < size ∨ inbox.notify.waiting = false → later.notify.waiting = false) := by
  induction size generalizing inbox with
  | zero => exact ⟨inbox, .refl, rfl, kept, count, by simp⟩
  | succ size ih =>
    obtain ⟨demand, rest, took⟩ := lawful.enough inbox.queue kept (by omega)
    have removal := lawful.take demand inbox.queue kept
    rw [took] at removal
    rcases removal with nothing | ⟨_, same, keptRest, fewer⟩
    · cases nothing
    · obtain rfl : rest = _ := congrArg Prod.snd (Except.ok.inj same)
      let taken : Inbox Queue Record :=
        { inbox with queue := rest, owes := Function.update inbox.owes caller true }
      let told : Inbox Queue Record :=
        { taken with
          notify := taken.notify.notifyOne
          owes := Function.update taken.owes caller false }
      have awake : told.notify.waiting = false := taken.notify.notifyOne_effect.1
      obtain ⟨later, reached, phase, keptLater, empty, woken⟩ :=
        @ih told keptRest (by show receiving.size rest = size; omega) (Function.update_self ..)
      refine ⟨later, ?_, phase, keptLater, empty, fun _ => woken (.inr awake)⟩
      have owed : taken.owes caller = true := Function.update_self ..
      exact .head (take_enabled free took) (.head (notify_enabled owed) reached)

/-- What holds of every queue a worker fills. -/
structure Awake (receiving : Receiving Fault Queue Record Demand) (inbox : Inbox Queue Record) :
    Prop where
  /-- While the worker waits and the queue would take its record, a caller still owes its
  notification. -/
  space : ∀ record, inbox.Waits record → Admits receiving inbox.queue record →
    ∃ caller, inbox.owes caller = true
  /-- An empty queue takes every record the worker may be given. -/
  empty : ∀ record, receiving.allowed record = true → receiving.size inbox.queue = 0 →
    Admits receiving inbox.queue record
  /-- Callers alone can always wake a worker that waits, and make space for its record. -/
  freed : ∀ record, inbox.Waits record → ∃ later, (callers receiving).Reaches inbox later ∧
    later.phase = .parked record ∧ later.notify.waiting = false ∧
    Admits receiving later.queue record
  /-- The worker does not fault. -/
  put : ∀ record, receiving.allowed record = true →
    ∃ result, receiving.put record inbox.queue = .ok result
  /-- No caller faults. -/
  take : ∀ demand, ∃ result, receiving.take demand inbox.queue = .ok result

/-- Callers can always wake a worker that waits, and make space for its record. -/
theorem Invariant.freed (lawful : receiving.Lawful valid) {inbox : Inbox Queue Record}
    (holds : inbox.Invariant receiving valid) {record : Record} (waits : inbox.Waits record) :
    ∃ later, (callers receiving).Reaches inbox later ∧ later.phase = .parked record ∧
      later.notify.waiting = false ∧ Admits receiving later.queue record := by
  have allowed : receiving.allowed record = true :=
    holds.allowed record (by simp [waits.1, ReceivingPhase.record])
  by_cases owed : ∃ caller, inbox.owes caller = true
  · obtain ⟨caller, owes⟩ := owed
    let told : Inbox Queue Record :=
      { inbox with
        notify := inbox.notify.notifyOne
        owes := Function.update inbox.owes caller false }
    have awake : told.notify.waiting = false := inbox.notify.notifyOne_effect.1
    obtain ⟨later, reached, phase, kept, empty, woken⟩ :=
      @drain _ _ _ _ _ valid lawful caller _ told holds.queue rfl (Function.update_self ..)
    exact ⟨later, .head (notify_enabled owes) reached, phase.trans waits.1, woken (.inr awake),
      lawful.space record later.queue kept allowed empty⟩
  · -- nobody owes a notification, so the queue refuses the record and is not empty
    have held : 0 < receiving.size inbox.queue := by
      by_contra none
      have space := lawful.space record inbox.queue holds.queue allowed (by omega)
      exact owed (holds.waiting record waits space)
    have free : inbox.owes 0 = false := by
      by_contra owes
      exact owed ⟨0, by simpa using owes⟩
    obtain ⟨later, reached, phase, kept, empty, woken⟩ := drain lawful holds.queue rfl free
    exact ⟨later, reached, phase.trans waits.1, woken (.inl held),
      lawful.space record later.queue kept allowed empty⟩

/-- No wake-up of a worker that fills a queue is lost. -/
theorem reachable_awake (lawful : receiving.Lawful valid) {inbox : Inbox Queue Record}
    (reachable : (system receiving).Reachable inbox) : inbox.Awake receiving := by
  have holds := reachable_invariant lawful reachable
  constructor
  · exact holds.waiting
  · intro record allowed empty
    exact lawful.space record inbox.queue holds.queue allowed empty
  · intro record waits
    exact holds.freed lawful waits
  · intro record allowed
    rcases lawful.put record inbox.queue holds.queue allowed with full | ⟨after, stored, _⟩
    · exact ⟨_, full⟩
    · exact ⟨_, stored⟩
  · intro demand
    rcases lawful.take demand inbox.queue holds.queue with nothing | ⟨after, took, _⟩
    · exact ⟨_, nothing⟩
    · exact ⟨_, took⟩

end Inbox

end Plank.Sync
