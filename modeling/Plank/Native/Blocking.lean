import Mathlib.Logic.Function.Basic
import Plank.Native.Lifecycle

/-!
# Blocked receive calls

`wait_pop` in `native_ffi.rs` holds the mutex of all queues while it looks for a record, loads the
stop flag, reads the state and begins to wait, and releases it for the wait alone. Each lane has one
condition variable and here one caller. The worker pushes under the same mutex and notifies after it
released it; a stop or a failure publishes and notifies without it. The condition variable of each
lane concerns that lane alone, so a `notify_all` reaches all lanes in one step here. A queue is the
number of its records.
-/

namespace Plank.Native

/-- The lanes with a receive call. -/
inductive ReceiveLane where
  /-- `video_receive`. -/
  | video
  /-- `audio_receive`. -/
  | audio
  /-- `input_receive`. -/
  | input
  /-- `data_receive`. -/
  | data
  deriving DecidableEq, Repr

/-- All lanes with a receive call. -/
def ReceiveLane.all : List ReceiveLane := [.video, .audio, .input, .data]

/-- No lane is missing. -/
theorem ReceiveLane.mem_all (lane : ReceiveLane) : lane ∈ ReceiveLane.all := by
  cases lane <;> decide

/-- Where a receive call is in `wait_pop`. -/
inductive Consumer where
  /-- No call is under way. -/
  | idle
  /-- About to take the mutex and look. -/
  | entering
  /-- It holds the mutex and found no record. -/
  | checking
  /-- It holds the mutex and loaded a stop flag that was not raised. -/
  | reading
  /-- It holds the mutex and read a state that is neither `Failed` nor `Stopped`. -/
  | arming
  /-- It waits without the mutex. -/
  | waiting
  deriving DecidableEq, Repr

/-- Whether a call holds the mutex between two steps. -/
@[grind]
def Consumer.locks : Consumer → Bool
  | .checking | .reading | .arming => true
  | _ => false

/-- One lane with its caller and its producer. -/
structure ReceiveSlot where
  /-- Records in the queue. -/
  records : Nat := 0
  /-- The receive call. -/
  consumer : Consumer := .idle
  /-- Whether the worker pushed a record and has not notified. -/
  owes : Bool := false
  deriving DecidableEq, Repr

/-- A notification of the lane's condition variable. -/
def ReceiveSlot.notify (slot : ReceiveSlot) : ReceiveSlot :=
  { slot with consumer := if slot.consumer = .waiting then .entering else slot.consumer }

/-- An endpoint with its receive calls. -/
structure Receivers where
  /-- The lifecycle of the endpoint. -/
  endpoint : Endpoint := {}
  /-- The lane whose call holds the mutex of the queues. -/
  holder : Option ReceiveLane := none
  /-- The lanes. -/
  lanes : ReceiveLane → ReceiveSlot := fun _ => {}

/-- The steps of an endpoint with its receive calls. -/
inductive ReceiveAction where
  /-- A step of the lifecycle. -/
  | endpoint (action : Action)
  /-- The worker pushes a record under the mutex, and drops so many older ones. -/
  | push (lane : ReceiveLane) (dropped : Nat)
  /-- The worker notifies the lane it pushed to. -/
  | notify (lane : ReceiveLane)
  /-- A receive call begins. -/
  | call (lane : ReceiveLane)
  /-- The call takes the mutex and looks; a record it finds is removed if the storage takes it. -/
  | look (lane : ReceiveLane) (accepted : Bool)
  /-- The call loads the stop flag. -/
  | load (lane : ReceiveLane)
  /-- The call reads the state. -/
  | read (lane : ReceiveLane)
  /-- The call begins to wait, unless its deadline has passed. -/
  | wait (lane : ReceiveLane) (expired : Bool)
  /-- The call wakes without a notification. -/
  | wake (lane : ReceiveLane)
  /-- The wait of the call times out. -/
  | expire (lane : ReceiveLane)
  deriving DecidableEq, Repr

namespace Endpoint

/-- Whether a stop or a failure is about to notify all lanes. -/
@[grind]
def announces (endpoint : Endpoint) : Bool :=
  endpoint.caller = .notifying || endpoint.caller = .announcing || endpoint.worker = .announcing

/-- Whether the step is the stop of an idle endpoint that publishes `Stopped`. -/
@[grind]
def closes (endpoint : Endpoint) : Action → Bool
  | .caller _ => endpoint.caller = .closing
  | _ => false

end Endpoint

namespace Receivers

/-- The lanes after a change of one. -/
def set (receivers : Receivers) (holder : Option ReceiveLane) (lane : ReceiveLane)
    (slot : ReceiveSlot) : Receivers :=
  { receivers with holder, lanes := Function.update receivers.lanes lane slot }

/-- One step. -/
def step (receivers : Receivers) : ReceiveAction → Option Receivers
  | .endpoint action =>
    (Endpoint.step receivers.endpoint action).map fun endpoint =>
      { receivers with
        endpoint
        lanes := fun lane =>
          if receivers.endpoint.notifies action then (receivers.lanes lane).notify
          else receivers.lanes lane }
  | .push lane dropped =>
    let slot := receivers.lanes lane
    if receivers.endpoint.worker = .running && receivers.holder = none && !slot.owes then
      some (receivers.set none lane { slot with
        records := slot.records - dropped + 1, owes := true })
    else none
  | .notify lane =>
    let slot := receivers.lanes lane
    if slot.owes then
      some (receivers.set receivers.holder lane { slot.notify with owes := false })
    else none
  | .call lane =>
    let slot := receivers.lanes lane
    if slot.consumer = .idle then
      some (receivers.set receivers.holder lane { slot with consumer := .entering })
    else none
  | .look lane accepted =>
    let slot := receivers.lanes lane
    if slot.consumer = .entering && receivers.holder = none then
      if slot.records = 0 then
        some (receivers.set (some lane) lane { slot with consumer := .checking })
      else
        some (receivers.set none lane { slot with
          records := if accepted then slot.records - 1 else slot.records
          consumer := .idle })
    else none
  | .load lane =>
    let slot := receivers.lanes lane
    if slot.consumer = .checking then
      if receivers.endpoint.stop then
        some (receivers.set none lane { slot with consumer := .idle })
      else some (receivers.set receivers.holder lane { slot with consumer := .reading })
    else none
  | .read lane =>
    let slot := receivers.lanes lane
    if slot.consumer = .reading then
      if receivers.endpoint.status.state.terminal then
        some (receivers.set none lane { slot with consumer := .idle })
      else some (receivers.set receivers.holder lane { slot with consumer := .arming })
    else none
  | .wait lane expired =>
    let slot := receivers.lanes lane
    if slot.consumer = .arming then
      some (receivers.set none lane { slot with
        consumer := if expired then .idle else .waiting })
    else none
  | .wake lane =>
    let slot := receivers.lanes lane
    if slot.consumer = .waiting then
      some (receivers.set receivers.holder lane { slot with consumer := .entering })
    else none
  | .expire lane =>
    let slot := receivers.lanes lane
    if slot.consumer = .waiting then
      some (receivers.set receivers.holder lane { slot with consumer := .idle })
    else none

/-- All runs of an endpoint with its receive calls, from its creation. -/
def system : Transition.System Receivers ReceiveAction where
  initial receivers := receivers = {}
  step := step

/-- Whether a thread is about to notify the lane: the worker of a record, or a stop or a failure of
all lanes. -/
def owed (receivers : Receivers) (lane : ReceiveLane) : Bool :=
  (receivers.lanes lane).owes || receivers.endpoint.announces

/-- Whether the step notifies the lane. -/
def notifies (receivers : Receivers) (lane : ReceiveLane) : ReceiveAction → Bool
  | .notify other => other = lane
  | .endpoint action => receivers.endpoint.notifies action
  | _ => false

/-- The call has something to end for: a record, a stop or the end of the endpoint. -/
def due (receivers : Receivers) (lane : ReceiveLane) : Bool :=
  0 < (receivers.lanes lane).records || receivers.endpoint.stop ||
    receivers.endpoint.status.state.terminal

/-- No wake-up of the call is lost. -/
structure Served (receivers : Receivers) (lane : ReceiveLane) : Prop where
  /-- While the call waits and has something to end for, a thread is about to notify it. -/
  owed : (receivers.lanes lane).consumer = .waiting → receivers.due lane = true →
    receivers.owed lane = true
  /-- That thread can, and the call then looks again. -/
  woken : (receivers.lanes lane).consumer = .waiting → receivers.owed lane = true →
    ∃ action after, receivers.notifies lane action = true ∧
      step receivers action = some after ∧ (after.lanes lane).consumer = .entering

/-- Whether a `notify_all` comes too early for the call: after its last look at what was published,
and before its wait. -/
def misses (receivers : Receivers) (lane : ReceiveLane) : Bool :=
  (receivers.lanes lane).consumer = .arming ||
    (receivers.lanes lane).consumer = .reading && !receivers.endpoint.status.state.terminal

/-- Whether the call no longer looks at the state before it ends its wait. -/
def committed (receivers : Receivers) (lane : ReceiveLane) : Bool :=
  (receivers.lanes lane).consumer = .arming || (receivers.lanes lane).consumer = .waiting

/-- No `notify_all` falls between the last look of a call and its wait, and no idle endpoint stops
while a call is past its look at the state. -/
def careful (receivers : Receivers) : ReceiveAction → Bool
  | .endpoint action =>
    (!receivers.endpoint.notifies action ||
      ReceiveLane.all.all fun lane => !receivers.misses lane) &&
    (!receivers.endpoint.closes action || ReceiveLane.all.all fun lane => !receivers.committed lane)
  | _ => true

end Receivers

namespace Endpoint

variable {before after : Endpoint}

/-- A step that publishes nothing unannounced. -/
structure Quiet (before after : Endpoint) : Prop where
  /-- A flag that was raised is about to be notified. -/
  raised : after.stop = true → before.stop = true ∨ after.caller = .notifying
  /-- A stop that is about to notify still is. -/
  told : before.caller = .notifying → after.caller = .notifying
  /-- An endpoint at its end stays there. -/
  lasts : before.status.state.terminal = true → after.status.state.terminal = true
  /-- A notification that is about to come still is. -/
  announced : before.announces = true → after.announces = true
  /-- The end of an endpoint is about to be notified, or follows a stop. -/
  ended : after.status.state.terminal = true → before.status.state.terminal = true ∨
    after.announces = true ∨ before.stop = true

/-- The call under way publishes nothing unannounced, except when it stops an idle endpoint. -/
theorem callerStep_quiet {spawnError : Option String} (holds : before.Invariant)
    (stepped : before.callerStep spawnError = some after)
    (silent : before.notifies (.caller spawnError) = false)
    (working : before.closes (.caller spawnError) = false) : before.Quiet after := by
  obtain ⟨live, ended, unstarted, untouched, unspawned, idle, joined, settling, storing, once,
    requested, raised, sent, past, silence⟩ := holds
  simp only [notifies, closes] at silent working
  simp only [callerStep] at stepped
  cases caller : before.caller <;> simp only [caller] at stepped
  case none => cases stepped
  case notifying | announcing => simp [caller] at silent
  case closing => simp [caller] at working
  case spawning =>
    cases spawnError <;>
    · obtain rfl := Option.some.inj stepped
      constructor <;> grind -ring -linarith -order
  case joining =>
    split at stepped
    · obtain ⟨_, taken⟩ := Option.ite_none_right_eq_some.mp stepped
      obtain rfl := Option.some.inj taken
      constructor <;> grind -ring -linarith -order
    · obtain rfl := Option.some.inj stepped
      constructor <;> grind -ring -linarith -order
  all_goals
    obtain rfl := Option.some.inj stepped
    constructor <;> grind -ring -linarith -order [NativeStatus.fail]

/-- The end of the worker publishes nothing unannounced. -/
theorem workerStep_quiet (holds : before.Invariant) (stepped : before.workerStep = some after)
    (silent : before.notifies .worker = false) : before.Quiet after := by
  have raised := holds.raised
  simp only [notifies] at silent
  simp only [workerStep] at stepped
  cases worker : before.worker <;> simp only [worker] at stepped
  case absent | running | exited => cases stepped
  case announcing => simp [worker] at silent
  all_goals
    obtain rfl := Option.some.inj stepped
    constructor <;> grind -ring -linarith -order [NativeStatus.fail]

/-- A step that notifies nobody publishes nothing unannounced, except when an idle endpoint
stops. -/
theorem step_quiet {action : Action} (holds : before.Invariant)
    (stepped : step before action = some after) (silent : before.notifies action = false)
    (working : before.closes action = false) : before.Quiet after := by
  cases action with
  | caller spawnError => exact callerStep_quiet holds stepped silent working
  | worker => exact workerStep_quiet holds stepped silent
  | _ =>
    simp only [step, Option.ite_none_right_eq_some, Option.ite_none_left_eq_some] at stepped
    constructor <;> grind -ring -linarith -order

/-- A `notify_all` changes nothing that was published. -/
theorem notifies_status {action : Action} (stepped : step before action = some after)
    (notifies : before.notifies action = true) : after.status = before.status := by
  cases action with
  | caller spawnError =>
    have notifying : before.caller = .notifying ∨ before.caller = .announcing := by
      simpa [Endpoint.notifies] using notifies
    rcases notifying with caller | caller <;>
    · simp only [step, callerStep, caller] at stepped
      obtain rfl := Option.some.inj stepped
      rfl
  | worker =>
    have announcing : before.worker = .announcing := by simpa [Endpoint.notifies] using notifies
    simp only [step, workerStep, announcing] at stepped
    obtain rfl := Option.some.inj stepped
    rfl
  | _ => cases notifies

/-- The stop of an idle endpoint ends it. -/
theorem closes_terminal {action : Action} (holds : before.Invariant)
    (stepped : step before action = some after) (closes : before.closes action = true) :
    after.status.state.terminal = true := by
  cases action with
  | caller spawnError =>
    have closing : before.caller = .closing := by simpa [Endpoint.closes] using closes
    have idle := holds.untouched (.inr closing)
    simp only [step, callerStep, closing] at stepped
    obtain rfl := Option.some.inj stepped
    grind -ring -linarith -order
  | _ => cases closes

end Endpoint

/-- What ties a receive call to the endpoint and to the mutex of the queues. -/
structure ReceiveSlot.Calm (endpoint : Endpoint) (held : Prop) (slot : ReceiveSlot) : Prop where
  /-- A call between its look and its wait holds the mutex, and the queue stays empty. -/
  locked : slot.consumer.locks = true → held ∧ slot.records = 0
  /-- While a call waits, a record is about to be notified. -/
  records : slot.consumer = .waiting → 0 < slot.records → slot.owes = true
  /-- A stop raised after the call loaded the flag is about to be notified, or the call is about to
  read of the end. -/
  reading : slot.consumer = .reading → endpoint.stop = true →
    endpoint.caller = .notifying ∨ endpoint.status.state.terminal = true
  /-- A stop raised after the call read the state is about to be notified. -/
  stop : slot.consumer = .arming ∨ slot.consumer = .waiting → endpoint.stop = true →
    endpoint.caller = .notifying
  /-- An end that came after the call read the state is about to be notified. -/
  ended : slot.consumer = .arming ∨ slot.consumer = .waiting →
    endpoint.status.state.terminal = true → endpoint.announces = true

namespace ReceiveSlot.Calm

variable {before after : Endpoint} {held : Prop} {slot : ReceiveSlot}

/-- A caller that is idle, or about to look, is calm. -/
theorem of_free {records : Nat} {consumer : Consumer} {owes : Bool}
    (free : consumer = .idle ∨ consumer = .entering) :
    Calm before held { records, consumer, owes } := by
  constructor <;> grind -ring -linarith -order

/-- A call stays calm over a step that notifies nobody, unless an idle endpoint stops. -/
theorem of_quiet (calm : slot.Calm before held) (quiet : before.Quiet after) :
    slot.Calm after held := by
  obtain ⟨locked, records, reading, stop, past⟩ := calm
  obtain ⟨raised, told, lasts, announced, ended⟩ := quiet
  constructor <;> grind -ring -linarith -order

/-- A call stays calm over a `notify_all`, unless that comes too early for it. -/
theorem of_notify (calm : slot.Calm before held) (armed : slot.consumer ≠ .arming)
    (reads : slot.consumer = .reading → after.status.state.terminal = true) :
    slot.notify.Calm after held := by
  obtain ⟨locked, records, reading, stop, past⟩ := calm
  constructor <;> grind -ring -linarith -order [ReceiveSlot.notify]

/-- A call that is going to look at the state stays calm over the end of the endpoint. -/
theorem of_end (calm : slot.Calm before held) (armed : slot.consumer ≠ .arming)
    (waits : slot.consumer ≠ .waiting) (ended : after.status.state.terminal = true) :
    slot.Calm after held := by
  obtain ⟨locked, records, reading, stop, past⟩ := calm
  constructor <;> grind -ring -linarith -order

end ReceiveSlot.Calm

namespace Receivers

/-- What careful steps keep. -/
structure Invariant (receivers : Receivers) : Prop where
  /-- The endpoint meets its own invariant. -/
  endpoint : receivers.endpoint.Invariant
  /-- Every call is calm. -/
  calm : ∀ lane, (receivers.lanes lane).Calm receivers.endpoint (receivers.holder = some lane)

variable {before after : Receivers}

/-- A new endpoint has no receive calls. -/
theorem initial_invariant : Invariant {} where
  endpoint := Endpoint.initial_invariant
  calm _ := .of_free (.inl rfl)

/-- A change of one lane keeps the invariant if its call is calm and no other loses the mutex. -/
theorem set_invariant {holder : Option ReceiveLane} {lane : ReceiveLane} {slot : ReceiveSlot}
    (holds : before.Invariant)
    (kept : ∀ other, other ≠ lane → before.holder = some other → holder = some other)
    (calm : slot.Calm before.endpoint (holder = some lane)) :
    (before.set holder lane slot).Invariant where
  endpoint := holds.endpoint
  calm other := by
    by_cases same : other = lane
    · subst same
      simpa [set] using calm
    · have rest := holds.calm other
      have unchanged : (before.set holder lane slot).lanes other = before.lanes other :=
        Function.update_of_ne same _ _
      rw [unchanged]
      exact {
        rest with
        locked := by
          intro locks
          obtain ⟨held, empty⟩ := rest.locked locks
          exact ⟨kept other same held, empty⟩ }

/-- A careful step of the lifecycle keeps the invariant. -/
theorem endpoint_invariant {action : Action} (holds : before.Invariant)
    (careful : before.careful (.endpoint action) = true)
    (stepped : step before (.endpoint action) = some after) : after.Invariant := by
  obtain ⟨endpoint, moved, rfl⟩ := Option.map_eq_some_iff.mp stepped
  obtain ⟨missed, closed⟩ := Bool.and_eq_true_iff.mp careful
  constructor
  · exact Endpoint.step_invariant holds.endpoint moved
  · intro lane
    have calm := holds.calm lane
    show ReceiveSlot.Calm _ _ (if before.endpoint.notifies action then (before.lanes lane).notify
      else before.lanes lane)
    by_cases notifies : before.endpoint.notifies action = true
    · have status := Endpoint.notifies_status moved notifies
      have caught : before.misses lane = false := by
        simp only [notifies, Bool.not_true, Bool.false_or, List.all_eq_true] at missed
        simpa using missed lane lane.mem_all
      simp only [misses, Bool.or_eq_false_iff, decide_eq_false_iff_not] at caught
      rw [if_pos notifies]
      apply calm.of_notify caught.1
      intro reading
      rw [status]
      simpa [reading] using caught.2
    · rw [if_neg notifies]
      have silent : before.endpoint.notifies action = false := by simpa using notifies
      by_cases closes : before.endpoint.closes action = true
      · have free : before.committed lane = false := by
          simp only [closes, Bool.not_true, Bool.false_or, List.all_eq_true] at closed
          simpa using closed lane lane.mem_all
        simp only [committed, Bool.or_eq_false_iff, decide_eq_false_iff_not] at free
        exact calm.of_end free.1 free.2 (Endpoint.closes_terminal holds.endpoint moved closes)
      · exact calm.of_quiet (Endpoint.step_quiet holds.endpoint moved silent (by simpa using closes))

/-- A call that is not under way or about to look keeps the invariant, whatever it gives up. -/
theorem free_invariant {holder : Option ReceiveLane} {lane : ReceiveLane} {records : Nat}
    {consumer : Consumer} {owes : Bool} (holds : before.Invariant)
    (kept : ∀ other, other ≠ lane → before.holder = some other → holder = some other)
    (free : consumer = .idle ∨ consumer = .entering) :
    (before.set holder lane { records, consumer, owes }).Invariant :=
  set_invariant holds kept (.of_free free)

/-- Releasing the mutex takes it from no other call. -/
theorem release {lane : ReceiveLane} (held : before.holder = some lane) :
    ∀ other, other ≠ lane → before.holder = some other → none = some other := by
  intro other different owner
  exact absurd (Option.some.inj (owner.symm.trans held)) different

/-- The steps of a receive call keep the invariant. -/
theorem consumer_invariant {lane : ReceiveLane} {action : ReceiveAction} (holds : before.Invariant)
    (own : action = .load lane ∨ action = .read lane ∨ ∃ expired, action = .wait lane expired)
    (stepped : step before action = some after) : after.Invariant := by
  have calm := holds.calm lane
  rcases own with rfl | rfl | ⟨expired, rfl⟩
  · obtain ⟨checking, stepped⟩ := Option.ite_none_right_eq_some.mp stepped
    obtain ⟨held, empty⟩ := calm.locked (by simp [checking, Consumer.locks])
    split at stepped
    · obtain rfl := Option.some.inj stepped
      exact free_invariant holds (release held) (.inl rfl)
    · rename_i lowered
      obtain rfl := Option.some.inj stepped
      apply set_invariant holds (fun _ _ owner => owner)
      constructor <;> grind -ring -linarith -order
  · obtain ⟨reading, stepped⟩ := Option.ite_none_right_eq_some.mp stepped
    obtain ⟨held, empty⟩ := calm.locked (by simp [reading, Consumer.locks])
    split at stepped
    · obtain rfl := Option.some.inj stepped
      exact free_invariant holds (release held) (.inl rfl)
    · rename_i live
      have raised := calm.reading reading
      obtain rfl := Option.some.inj stepped
      apply set_invariant holds (fun _ _ owner => owner)
      constructor <;> grind -ring -linarith -order
  · obtain ⟨arming, stepped⟩ := Option.ite_none_right_eq_some.mp stepped
    obtain ⟨held, empty⟩ := calm.locked (by simp [arming, Consumer.locks])
    have raised := calm.stop (.inl arming)
    have ended := calm.ended (.inl arming)
    obtain rfl := Option.some.inj stepped
    apply set_invariant holds (release held)
    cases expired <;> constructor <;> grind -ring -linarith -order

/-- Every careful step keeps the invariant. -/
theorem step_invariant {action : ReceiveAction} (holds : before.Invariant)
    (stepped : (system.restrict careful).step before action = some after) : after.Invariant := by
  obtain ⟨careful, stepped⟩ := Option.ite_none_right_eq_some.mp stepped
  cases action with
  | endpoint action => exact endpoint_invariant holds careful stepped
  | push lane dropped =>
    obtain ⟨ready, stepped⟩ := Option.ite_none_right_eq_some.mp stepped
    obtain rfl := Option.some.inj stepped
    simp only [Bool.and_eq_true, decide_eq_true_eq] at ready
    obtain ⟨⟨_, unheld⟩, _⟩ := ready
    obtain ⟨locked, records, reading, stop, past⟩ := holds.calm lane
    apply set_invariant holds (by simp [unheld])
    constructor <;> grind -ring -linarith -order
  | notify lane =>
    obtain ⟨_, stepped⟩ := Option.ite_none_right_eq_some.mp stepped
    obtain rfl := Option.some.inj stepped
    obtain ⟨locked, records, reading, stop, past⟩ := holds.calm lane
    apply set_invariant holds (fun _ _ owner => owner)
    constructor <;> grind -ring -linarith -order [ReceiveSlot.notify]
  | call lane =>
    obtain ⟨_, stepped⟩ := Option.ite_none_right_eq_some.mp stepped
    obtain rfl := Option.some.inj stepped
    exact free_invariant holds (fun _ _ owner => owner) (.inr rfl)
  | look lane accepted =>
    obtain ⟨ready, stepped⟩ := Option.ite_none_right_eq_some.mp stepped
    simp only [Bool.and_eq_true, decide_eq_true_eq] at ready
    obtain ⟨_, unheld⟩ := ready
    split at stepped
    · rename_i empty
      obtain rfl := Option.some.inj stepped
      apply set_invariant holds (by simp [unheld])
      constructor <;> grind -ring -linarith -order
    · obtain rfl := Option.some.inj stepped
      exact free_invariant holds (by simp [unheld]) (.inl rfl)
  | load lane => exact consumer_invariant holds (.inl rfl) stepped
  | read lane => exact consumer_invariant holds (.inr (.inl rfl)) stepped
  | wait lane expired => exact consumer_invariant holds (.inr (.inr ⟨expired, rfl⟩)) stepped
  | wake lane =>
    obtain ⟨_, stepped⟩ := Option.ite_none_right_eq_some.mp stepped
    obtain rfl := Option.some.inj stepped
    exact free_invariant holds (fun _ _ owner => owner) (.inr rfl)
  | expire lane =>
    obtain ⟨_, stepped⟩ := Option.ite_none_right_eq_some.mp stepped
    obtain rfl := Option.some.inj stepped
    exact free_invariant holds (fun _ _ owner => owner) (.inl rfl)

/-- Every state that careful runs reach meets the invariant. -/
theorem reachable_invariant {receivers : Receivers}
    (reachable : (system.restrict careful).Reachable receivers) : receivers.Invariant := by
  apply Transition.System.Preserves.reachable _ _ reachable
  · intro before action after holds stepped
    exact step_invariant holds stepped
  · rintro _ rfl
    exact initial_invariant

/-- The thread that owes a notification can give it, and the call that waits then looks again. -/
theorem owed_wakes {receivers : Receivers} {lane : ReceiveLane}
    (waits : (receivers.lanes lane).consumer = .waiting) (owed : receivers.owed lane = true) :
    ∃ action after, receivers.notifies lane action = true ∧
      step receivers action = some after ∧ (after.lanes lane).consumer = .entering := by
  by_cases owes : (receivers.lanes lane).owes = true
  · refine ⟨.notify lane, _, by simp [notifies], if_pos owes, ?_⟩
    simp [set, ReceiveSlot.notify, waits]
  · have announces : receivers.endpoint.announces = true := by simpa [Receivers.owed, owes] using owed
    have some_step : ∃ action endpoint, receivers.endpoint.notifies action = true ∧
        Endpoint.step receivers.endpoint action = some endpoint := by
      simp only [Endpoint.announces, Bool.or_eq_true, decide_eq_true_eq] at announces
      rcases announces with (caller | caller) | worker
      · exact ⟨.caller none, _, by simp [Endpoint.notifies, caller],
          by simp only [Endpoint.step, Endpoint.callerStep, caller]; rfl⟩
      · exact ⟨.caller none, _, by simp [Endpoint.notifies, caller],
          by simp only [Endpoint.step, Endpoint.callerStep, caller]; rfl⟩
      · exact ⟨.worker, _, by simp [Endpoint.notifies, worker],
          by simp only [Endpoint.step, Endpoint.workerStep, worker]; rfl⟩
    obtain ⟨action, endpoint, told, moved⟩ := some_step
    refine ⟨.endpoint action, _, told, by simp only [step, moved]; rfl, ?_⟩
    simp [told, ReceiveSlot.notify, waits]

/-- In every careful run, no wake-up of a blocked receive call is lost. -/
theorem careful_served {receivers : Receivers}
    (reachable : (system.restrict careful).Reachable receivers) (lane : ReceiveLane) :
    receivers.Served lane where
  owed := by
    intro waits due
    have calm := (reachable_invariant reachable).calm lane
    simp only [Receivers.due, Bool.or_eq_true, decide_eq_true_eq] at due
    rcases due with (record | stop) | ended
    · simp [Receivers.owed, calm.records waits record]
    · simp [Receivers.owed, Endpoint.announces, calm.stop (.inr waits) stop]
    · simp [Receivers.owed, calm.ended (.inr waits) ended]
  woken := owed_wakes

/-- An endpoint starts. -/
def sampleStart : List ReceiveAction :=
  [.endpoint .start, .endpoint (.caller none), .endpoint (.caller none), .endpoint (.caller none),
    .endpoint (.progress .ready)]

/-- A receive call finds nothing to end for. -/
def sampleCall : List ReceiveAction := [.call .data, .look .data true, .load .data, .read .data]

/-- A receive call waits, a record is pushed, and a stop is under way. -/
def sampleCareful : List ReceiveAction :=
  sampleStart ++ sampleCall ++ [.wait .data false, .push .data 0, .endpoint .stop,
    .endpoint (.caller none), .endpoint (.caller none)]

/-- The state after that. -/
def sampleServed : Receivers := ((system.restrict careful).run {} sampleCareful).getD {}

/-- The call is about to be notified twice. -/
theorem sampleServed_served : (sampleServed.lanes .data).consumer = .waiting ∧
    sampleServed.due .data = true ∧ sampleServed.Served .data := by
  have evaluated : (system.restrict careful).run {} sampleCareful = some sampleServed := rfl
  exact ⟨rfl, rfl, careful_served (Transition.System.reachable_of_run rfl evaluated) .data⟩

/-- A stop notifies between the look of a call at the state and its wait. -/
def sampleStopped : List ReceiveAction :=
  sampleStart ++ sampleCall ++ [.endpoint .stop, .endpoint (.caller none),
    .endpoint (.caller none), .endpoint (.caller none), .wait .data false]

/-- A failure notifies between the look of a call at the state and its wait. -/
def sampleFailed : List ReceiveAction :=
  sampleStart ++ sampleCall ++ [.endpoint (.finish (some "closed")), .endpoint .worker,
    .endpoint .worker, .endpoint .worker, .wait .data false]

/-- An idle endpoint is stopped while a call waits. -/
def sampleClosed : List ReceiveAction :=
  sampleCall ++ [.wait .data false, .endpoint .stop, .endpoint (.caller none)]

/-- The run leaves a receive call waiting with nobody left to notify it. -/
def Strands (actions : List ReceiveAction) : Prop :=
  ∃ receivers, system.run {} actions = some receivers ∧ system.Reachable receivers ∧
    ¬receivers.Served .data

/-- A run strands a call that waits at its end although it is due and nobody owes it. -/
theorem strands_of_run {actions : List ReceiveAction}
    (found : ((system.run {} actions).map fun receivers =>
      ((receivers.lanes .data).consumer, receivers.due .data, receivers.owed .data)) =
      some (.waiting, true, false)) : Strands actions := by
  obtain ⟨receivers, evaluated, ending⟩ := Option.map_eq_some_iff.mp found
  refine ⟨receivers, evaluated, Transition.System.reachable_of_run rfl evaluated, ?_⟩
  intro served
  obtain ⟨waits, due, owed⟩ := by simpa only [Prod.mk.injEq] using ending
  simp [served.owed waits due] at owed

/-- A stop, a failure, or the stop of an idle endpoint may leave a receive call waiting with nobody
left to notify it. -/
theorem samples_unserved :
    Strands sampleStopped ∧ Strands sampleFailed ∧ Strands sampleClosed :=
  ⟨strands_of_run (by decide), strands_of_run (by decide), strands_of_run (by decide)⟩

end Receivers

end Plank.Native
