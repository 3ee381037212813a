import Plank.Transition.System

/-!
# The endpoint lifecycle

`native_ffi.rs` keeps the status of an endpoint behind one mutex and its worker's handle behind
another. Start and stop hold the handle's mutex for the whole call, so at most one of them is
under way; the worker runs beside it. Every acquisition of the status mutex, every access to
the stop flag and every `notify_all` is a step of its own, so a stop may fall between any two
steps of the worker. `set_state` and `fail` are called by these three and nobody else. The worker
here is any sequence of progress reports: what it reports, and when, is left to the models built
on this one. A worker that panics is not modelled.
-/

namespace Plank.Native

/-- `EndpointState`. -/
inductive EndpointState where
  /-- No endpoint. -/
  | invalid
  /-- Created, not started. -/
  | idle
  /-- The worker is connecting. -/
  | starting
  /-- The peer certificate awaits approval. -/
  | peerValidation
  /-- Setup data flows. -/
  | setupReady
  /-- Media flows. -/
  | ready
  /-- A stop is under way. -/
  | stopping
  /-- Stopped on request. -/
  | stopped
  /-- Ended by an error. -/
  | failed
  deriving DecidableEq, Repr

namespace EndpointState

/-- The states a worker is at work in, or asked to end. -/
@[grind]
def live (state : EndpointState) : Bool :=
  state = .starting || state = .peerValidation || state = .setupReady || state = .ready ||
    state = .stopping

/-- The states a worker reports while it makes progress. -/
@[grind]
def progress (state : EndpointState) : Bool :=
  state = .peerValidation || state = .setupReady || state = .ready

/-- The states no step leaves. -/
@[grind]
def terminal (state : EndpointState) : Bool := state = .stopped || state = .failed

end EndpointState

/-- `NativeStatus`. -/
structure NativeStatus where
  /-- State of the endpoint. -/
  state : EndpointState := .idle
  /-- Message of the failure. -/
  error : String := ""
  deriving DecidableEq, Repr

namespace NativeStatus

/-- The locked part of `set_state`. -/
def setState (status : NativeStatus) (state : EndpointState) : NativeStatus :=
  if (status.state = .stopped || status.state = .failed) ||
      (status.state = .stopping && state ≠ .stopped) then status
  else { status with state }

/-- The locked part of `fail`. -/
def fail (_ : NativeStatus) (error : String) : NativeStatus := { state := .failed, error }

/-- The state after `set_state`. -/
@[grind =]
theorem setState_state (status : NativeStatus) (state : EndpointState) :
    (status.setState state).state =
      if (status.state = .stopped || status.state = .failed) ||
        (status.state = .stopping && state ≠ .stopped) then status.state else state := by
  unfold setState
  split <;> simp_all

/-- `set_state` leaves the message of a failure alone. -/
@[simp, grind =]
theorem setState_error (status : NativeStatus) (state : EndpointState) :
    (status.setState state).error = status.error := by
  unfold setState
  split <;> rfl

/-- `set_state` leaves a status at its end alone. -/
theorem setState_of_terminal {status : NativeStatus} (ended : status.state.terminal = true)
    (state : EndpointState) : status.setState state = status := by
  have blocked : status.state = .stopped ∨ status.state = .failed := by
    simpa [EndpointState.terminal] using ended
  unfold setState
  rw [if_pos (by simp [blocked])]

/-- `set_state` leaves a stopping status alone, unless it reports `Stopped`. -/
theorem setState_of_stopping {status : NativeStatus} (stopping : status.state = .stopping)
    {state : EndpointState} (different : state ≠ .stopped) : status.setState state = status := by
  unfold setState
  rw [if_pos (by simp [stopping, different])]

end NativeStatus

/-- Where the start or stop call under way is. -/
inductive Caller where
  /-- No call is under way. -/
  | none
  /-- Start found the endpoint idle. -/
  | publishing
  /-- Start published `Starting`. -/
  | spawning
  /-- Start spawned the worker but has not stored its handle. -/
  | storing
  /-- Start could not spawn the worker. -/
  | reporting (error : String)
  /-- Start published that failure but has not notified. -/
  | announcing
  /-- Stop found the endpoint idle. -/
  | closing
  /-- Stop found the endpoint at work. -/
  | halting
  /-- Stop published `Stopping`. -/
  | raising
  /-- Stop raised the flag but has not notified. -/
  | notifying
  /-- Stop is about to join the worker. -/
  | joining
  /-- Stop joined the worker. -/
  | checking
  /-- Stop found that the worker had not failed. -/
  | settling
  deriving DecidableEq, Repr

/-- Whether a stop call is under way. -/
@[grind]
def Caller.isStop : Caller → Bool
  | .closing | .halting | .raising | .notifying | .joining | .checking | .settling => true
  | _ => false

/-- Whether a start call published `Starting` but has no worker yet. -/
@[grind]
def Caller.isStarting : Caller → Bool
  | .spawning | .reporting _ => true
  | _ => false

/-- Where the worker thread is. -/
inductive Worker where
  /-- Never spawned. -/
  | absent
  /-- Before `finish_worker`. -/
  | running
  /-- `finish_worker` found that nothing had failed; nothing in the result is an orderly end. -/
  | deciding (result : Option String)
  /-- `finish_worker` found the stop flag raised. -/
  | settling
  /-- The worker is about to fail. -/
  | failing (error : String)
  /-- The worker published its failure but has not notified. -/
  | announcing
  /-- The thread ended. -/
  | exited
  deriving DecidableEq, Repr

/-- Whether the worker may still write the status. -/
@[grind]
def Worker.live : Worker → Bool
  | .running | .deciding _ | .settling | .failing _ => true
  | _ => false

/-- The message of an orderly end the endpoint did not ask for. -/
def peerClosed : String := "native KyProto peer closed while the endpoint was active"

/-- An endpoint with its threads. -/
structure Endpoint where
  /-- The status behind its mutex. -/
  status : NativeStatus := {}
  /-- The stop flag. -/
  stop : Bool := false
  /-- Whether the worker's handle is stored. -/
  handle : Bool := false
  /-- The start or stop call under way. -/
  caller : Caller := .none
  /-- The worker. -/
  worker : Worker := .absent
  /-- Start calls that returned `OK`. -/
  starts : Nat := 0
  /-- Whether a stop was ever requested. -/
  stopRequested : Bool := false
  deriving DecidableEq, Repr

/-- The steps of an endpoint. -/
inductive Action where
  /-- A start call takes the handle's mutex and reads the state. -/
  | start
  /-- A stop call takes the handle's mutex and reads the state. -/
  | stop
  /-- The call under way takes its next step; the error is that of a failed spawn, if any. -/
  | caller (spawnError : Option String)
  /-- The worker reports progress. -/
  | progress (state : EndpointState)
  /-- The worker could not build its runtime. -/
  | runtimeError (error : String)
  /-- The worker's operation ended, with an error or in order. -/
  | finish (error : Option String)
  /-- The worker takes its next step in `finish_worker` or `fail`. -/
  | worker
  deriving DecidableEq, Repr

namespace Endpoint

/-- The next step of the start or stop call under way. -/
def callerStep (endpoint : Endpoint) (spawnError : Option String) : Option Endpoint :=
  match endpoint.caller with
  | .none => none
  | .publishing =>
    some { endpoint with status := endpoint.status.setState .starting, caller := .spawning }
  | .spawning =>
    match spawnError with
    | none => some { endpoint with worker := .running, caller := .storing }
    | some error => some { endpoint with caller := .reporting error }
  | .storing =>
    some { endpoint with handle := true, caller := .none, starts := endpoint.starts + 1 }
  | .reporting error =>
    some { endpoint with status := endpoint.status.fail error, caller := .announcing }
  | .announcing => some { endpoint with caller := .none }
  | .closing =>
    some { endpoint with status := endpoint.status.setState .stopped, caller := .joining }
  | .halting =>
    some { endpoint with status := endpoint.status.setState .stopping, caller := .raising }
  | .raising => some { endpoint with stop := true, caller := .notifying }
  | .notifying => some { endpoint with caller := .joining }
  | .joining =>
    if endpoint.handle then
      -- joining blocks until the thread ends
      if endpoint.worker = .exited then
        some { endpoint with handle := false, caller := .checking }
      else none
    else some { endpoint with caller := .checking }
  | .checking =>
    some { endpoint with
      caller := if endpoint.status.state ≠ .failed then .settling else .none }
  | .settling =>
    some { endpoint with status := endpoint.status.setState .stopped, caller := .none }

/-- The next step of the worker in `finish_worker` or `fail`. -/
def workerStep (endpoint : Endpoint) : Option Endpoint :=
  match endpoint.worker with
  | .deciding result =>
    some { endpoint with
      worker := if endpoint.stop then .settling else .failing (result.getD peerClosed) }
  | .settling =>
    some { endpoint with status := endpoint.status.setState .stopped, worker := .exited }
  | .failing error =>
    some { endpoint with status := endpoint.status.fail error, worker := .announcing }
  | .announcing => some { endpoint with worker := .exited }
  | _ => none

/-- One step of an endpoint. -/
def step (endpoint : Endpoint) : Action → Option Endpoint
  | .start =>
    if endpoint.caller ≠ .none then none
    else if endpoint.status.state ≠ .idle then some endpoint
    else some { endpoint with caller := .publishing }
  | .stop =>
    if endpoint.caller ≠ .none then none
    else
      some { endpoint with
        stopRequested := true
        caller :=
          if endpoint.status.state = .idle then .closing
          else if endpoint.status.state = .stopped || endpoint.status.state = .failed then .joining
          else .halting }
  | .caller spawnError => endpoint.callerStep spawnError
  | .progress state =>
    if endpoint.worker = .running && state.progress then
      some { endpoint with status := endpoint.status.setState state }
    else none
  | .runtimeError error =>
    if endpoint.worker = .running then
      some { endpoint with
        worker := .failing ("failed to create native KyProto runtime: " ++ error) }
    else none
  | .finish error =>
    if endpoint.worker = .running then
      some { endpoint with
        worker := if endpoint.status.state = .failed then .exited else .deciding error }
    else none
  | .worker => endpoint.workerStep

/-- All runs of an endpoint, from its creation. -/
def system : Transition.System Endpoint Action where
  initial endpoint := endpoint = {}
  step := step

/-- Whether the step is a `notify_all`: of a stop, or of a failure. -/
def notifies (endpoint : Endpoint) : Action → Bool
  | .caller _ => endpoint.caller = .notifying || endpoint.caller = .announcing
  | .worker => endpoint.worker = .announcing
  | _ => false

/-- What ties the threads of an endpoint to its status. -/
structure Invariant (endpoint : Endpoint) : Prop where
  /-- While the worker may write, the endpoint is at work or asked to end. -/
  live : endpoint.worker.live = true → endpoint.status.state.live = true
  /-- Once the worker may not write any more, the endpoint is at an end. -/
  ended : endpoint.worker = .announcing ∨ endpoint.worker = .exited →
    endpoint.status.state.terminal = true
  /-- Before the worker, no start call succeeded. -/
  before : endpoint.worker = .absent → endpoint.starts = 0 ∧ endpoint.caller ≠ .storing
  /-- A call that found the endpoint idle still finds it so. -/
  untouched : endpoint.caller = .publishing ∨ endpoint.caller = .closing →
    endpoint.status.state = .idle
  /-- A start call that published `Starting` has no worker yet. -/
  unspawned : endpoint.caller.isStarting = true →
    endpoint.status.state = .starting ∧ endpoint.worker = .absent
  /-- An idle endpoint has no worker. -/
  idle : endpoint.status.state = .idle → endpoint.worker = .absent
  /-- The handle of a worker that has not ended is stored, or about to be. -/
  joined : endpoint.worker ≠ .absent → endpoint.worker ≠ .exited →
    endpoint.handle = true ∨ endpoint.caller = .storing
  /-- A stop call past joining finds no worker at work. -/
  settling : endpoint.caller = .checking ∨ endpoint.caller = .settling →
    endpoint.worker = .absent ∨ endpoint.worker = .exited
  /-- The start call under way has not been counted. -/
  storing : endpoint.caller = .storing → endpoint.starts = 0
  /-- At most one start call succeeded. -/
  once : endpoint.starts ≤ 1
  /-- A stop call, the flag and `Stopped` all come from a request. -/
  requested : endpoint.caller.isStop = true ∨ endpoint.stop = true ∨
    endpoint.status.state = .stopped → endpoint.stopRequested = true
  /-- The worker settles only once the flag is raised. -/
  raised : endpoint.worker = .settling → endpoint.stop = true
  /-- A stop call notifies only once the flag is raised. -/
  sent : endpoint.caller = .notifying → endpoint.stop = true
  /-- A stop call that joins raised the flag, or found or brought the endpoint to an end. -/
  past : endpoint.caller = .joining ∨ endpoint.caller = .checking ∨ endpoint.caller = .settling →
    endpoint.stop = true ∨ endpoint.status.state.terminal = true
  /-- Only a failure records a message. -/
  silent : endpoint.status.state ≠ .failed → endpoint.status.error = ""

/-- A new endpoint satisfies the invariant. -/
theorem initial_invariant : Invariant {} where
  live := by decide
  ended := by decide
  before := by decide
  untouched := by decide
  unspawned := by decide
  idle := by decide
  joined := by decide
  settling := by decide
  storing := by decide
  once := by decide
  requested := by decide
  raised := by decide
  sent := by decide
  past := by decide
  silent := by decide

variable {before after : Endpoint}

/-- The call under way keeps the invariant. -/
theorem callerStep_invariant {spawnError : Option String} (holds : before.Invariant)
    (stepped : before.callerStep spawnError = some after) : after.Invariant := by
  obtain ⟨live, ended, unstarted, untouched, unspawned, idle, joined, settling, storing, once,
    requested, raised, sent, past, silent⟩ := holds
  simp only [callerStep] at stepped
  cases caller : before.caller <;> simp only [caller] at stepped
  case none => cases stepped
  case publishing | closing =>
    -- nothing else writes the status of an idle endpoint
    have absent : before.worker = .absent := idle (untouched (by simp [caller]))
    obtain rfl := Option.some.inj stepped
    constructor <;> grind -ring -linarith -order
  case spawning =>
    obtain ⟨starting, absent⟩ := unspawned (by simp [caller, Caller.isStarting])
    cases spawnError <;>
    · obtain rfl := Option.some.inj stepped
      constructor <;> grind -ring -linarith -order
  case reporting error =>
    obtain ⟨starting, absent⟩ := unspawned (by simp [caller, Caller.isStarting])
    obtain rfl := Option.some.inj stepped
    constructor <;> grind -ring -linarith -order [NativeStatus.fail]
  case storing =>
    have fresh : before.starts = 0 := storing caller
    obtain rfl := Option.some.inj stepped
    constructor <;> grind -ring -linarith -order
  case joining =>
    split at stepped
    · obtain ⟨exited, taken⟩ := Option.ite_none_right_eq_some.mp stepped
      obtain rfl := Option.some.inj taken
      constructor <;> grind -ring -linarith -order
    · obtain rfl := Option.some.inj stepped
      constructor <;> grind -ring -linarith -order
  case settling =>
    have gone : before.worker = .absent ∨ before.worker = .exited := settling (.inr caller)
    obtain rfl := Option.some.inj stepped
    constructor <;> grind -ring -linarith -order
  all_goals
    obtain rfl := Option.some.inj stepped
    constructor <;> grind -ring -linarith -order

/-- The end of the worker keeps the invariant. -/
theorem workerStep_invariant (holds : before.Invariant) (stepped : before.workerStep = some after) :
    after.Invariant := by
  obtain ⟨live, ended, unstarted, untouched, unspawned, idle, joined, settling, storing, once,
    requested, raised, sent, past, silent⟩ := holds
  simp only [workerStep] at stepped
  cases worker : before.worker <;> simp only [worker] at stepped
  case absent | running | exited => cases stepped
  all_goals
    obtain rfl := Option.some.inj stepped
    constructor <;> grind -ring -linarith -order [NativeStatus.fail]

/-- Every step keeps the invariant. -/
theorem step_invariant {action : Action} (holds : before.Invariant)
    (stepped : system.step before action = some after) : after.Invariant := by
  cases action with
  | caller spawnError => exact callerStep_invariant holds stepped
  | worker => exact workerStep_invariant holds stepped
  | _ =>
    obtain ⟨live, ended, unstarted, untouched, unspawned, idle, joined, settling, storing, once,
      requested, raised, sent, past, silent⟩ := holds
    simp only [system, step, Option.ite_none_right_eq_some, Option.ite_none_left_eq_some] at stepped
    constructor <;> grind -ring -linarith -order

/-- Every reachable endpoint satisfies the invariant. -/
theorem reachable_invariant {endpoint : Endpoint} (reachable : system.Reachable endpoint) :
    endpoint.Invariant :=
  Transition.System.Preserves.reachable (fun _ _ _ holds stepped => step_invariant holds stepped)
    (fun _ start => start ▸ initial_invariant) reachable

/-- What one step may do to the status: report a state, or record the failure of an endpoint that
is neither stopped nor failed. -/
inductive StatusEffect (before : NativeStatus) : NativeStatus → Prop where
  /-- Nothing. -/
  | kept : StatusEffect before before
  /-- `set_state`. -/
  | reported (state : EndpointState) : StatusEffect before (before.setState state)
  /-- `fail`. -/
  | failed (error : String) (live : before.state.live = true) :
      StatusEffect before (before.fail error)

/-- The effect of the call under way on the status. -/
theorem callerStep_status {spawnError : Option String} (holds : before.Invariant)
    (stepped : before.callerStep spawnError = some after) :
    StatusEffect before.status after.status := by
  simp only [callerStep] at stepped
  cases caller : before.caller <;> simp only [caller] at stepped
  case none => cases stepped
  case publishing | closing | halting | settling =>
    obtain rfl := Option.some.inj stepped
    exact .reported _
  case reporting error =>
    have starting := (holds.unspawned (by simp [caller, Caller.isStarting])).1
    obtain rfl := Option.some.inj stepped
    exact .failed error (by simp [starting, EndpointState.live])
  case spawning =>
    cases spawnError <;>
    · obtain rfl := Option.some.inj stepped
      exact .kept
  case joining =>
    have kept : after.status = before.status := by grind -ring -linarith -order
    rw [kept]
    exact .kept
  all_goals
    obtain rfl := Option.some.inj stepped
    exact .kept

/-- The effect of the worker's end on the status: it is still live when it fails. -/
theorem workerStep_status (holds : before.Invariant) (stepped : before.workerStep = some after) :
    StatusEffect before.status after.status := by
  simp only [workerStep] at stepped
  cases worker : before.worker <;> simp only [worker] at stepped
  case absent | running | exited => cases stepped
  case settling =>
    obtain rfl := Option.some.inj stepped
    exact .reported .stopped
  case failing error =>
    have live : before.status.state.live = true := holds.live (by simp [worker, Worker.live])
    obtain rfl := Option.some.inj stepped
    exact .failed error live
  all_goals
    obtain rfl := Option.some.inj stepped
    exact .kept

/-- The effect of any step on the status. -/
theorem step_status {action : Action} (holds : before.Invariant)
    (stepped : system.step before action = some after) :
    StatusEffect before.status after.status := by
  cases action with
  | caller spawnError => exact callerStep_status holds stepped
  | worker => exact workerStep_status holds stepped
  | progress state =>
    obtain ⟨_, taken⟩ := Option.ite_none_right_eq_some.mp stepped
    obtain rfl := Option.some.inj taken
    exact .reported state
  | _ =>
    have kept : after.status = before.status := by
      simp only [system, step, Option.ite_none_right_eq_some, Option.ite_none_left_eq_some]
        at stepped
      grind -ring -linarith -order
    rw [kept]
    exact .kept

end Endpoint

/-- What may follow a status: `Stopped` and `Failed` stay, a failure with its message, and
`Stopping` leads to no state of an endpoint at work. -/
structure NativeStatus.Leads (before after : NativeStatus) : Prop where
  /-- `Stopped` is absorbing. -/
  stopped : before.state = .stopped → after = before
  /-- `Failed` is absorbing, and keeps its first message. -/
  failed : before.state = .failed → after = before
  /-- `Stopping` leads to an end. -/
  stopping : before.state = .stopping →
    after.state = .stopping ∨ after.state = .stopped ∨ after.state = .failed

namespace NativeStatus.Leads

/-- A status follows itself. -/
theorem refl (status : NativeStatus) : status.Leads status where
  stopped _ := rfl
  failed _ := rfl
  stopping stopping := .inl stopping

/-- What follows a follower follows. -/
theorem trans {first second third : NativeStatus} (left : first.Leads second)
    (right : second.Leads third) : first.Leads third where
  stopped stopped := by
    obtain rfl := left.stopped stopped
    exact right.stopped stopped
  failed failed := by
    obtain rfl := left.failed failed
    exact right.failed failed
  stopping stopping := by
    rcases left.stopping stopping with stopping | stopped | failed
    · exact right.stopping stopping
    · rw [right.stopped stopped]
      exact .inr (.inl stopped)
    · rw [right.failed failed]
      exact .inr (.inr failed)

/-- The effect of a step leads on. -/
theorem of_effect {before after : NativeStatus} (effect : Endpoint.StatusEffect before after) :
    before.Leads after := by
  cases effect with
  | kept => exact refl before
  | reported state =>
    constructor
    · intro stopped
      exact setState_of_terminal (by simp [stopped, EndpointState.terminal]) state
    · intro failed
      exact setState_of_terminal (by simp [failed, EndpointState.terminal]) state
    · intro stopping
      by_cases last : state = .stopped
      · have reached : (before.setState state).state = .stopped := by
          simp [setState_state, stopping, last]
        exact .inr (.inl reached)
      · rw [setState_of_stopping stopping last]
        exact .inl stopping
  | failed error live =>
    constructor
    · intro stopped
      simp [stopped, EndpointState.live] at live
    · intro failed
      simp [failed, EndpointState.live] at live
    · intro _
      exact .inr (.inr rfl)

end NativeStatus.Leads

namespace Endpoint

/-- Along every run the status leads on. -/
theorem reachable_leads {endpoint later : Endpoint} (reachable : system.Reachable endpoint)
    (reaches : system.Reaches endpoint later) : endpoint.status.Leads later.status :=
  @Transition.System.Reachable.relation _ _ system
    (fun first second => first.status.Leads second.status) (fun _ => .refl _) (fun _ _ _ => .trans)
    (fun _ _ _ before stepped => .of_effect (step_status (reachable_invariant before) stepped))
    _ _ reachable reaches

/-- A progress report changes nothing of an endpoint that is stopping or at its end. -/
theorem progress_ignored {endpoint later : Endpoint} {state : EndpointState}
    (past : endpoint.status.state = .stopping ∨ endpoint.status.state.terminal = true)
    (stepped : system.step endpoint (.progress state) = some later) : later = endpoint := by
  obtain ⟨running, taken⟩ := Option.ite_none_right_eq_some.mp stepped
  obtain rfl := Option.some.inj taken
  have kept : endpoint.status.setState state = endpoint.status := by
    rcases past with stopping | ended
    · refine NativeStatus.setState_of_stopping stopping ?_
      rintro rfl
      simp [EndpointState.progress] at running
    · exact NativeStatus.setState_of_terminal ended state
  rw [kept]

/-- The laws of an endpoint's life. -/
structure Lawful (endpoint : Endpoint) : Prop where
  /-- At most one start call succeeded. -/
  once : endpoint.starts ≤ 1
  /-- `Stopped` follows a request to stop. -/
  requested : endpoint.status.state = .stopped → endpoint.stopRequested = true
  /-- Only a failure records a message. -/
  silent : endpoint.status.state ≠ .failed → endpoint.status.error = ""
  /-- The status leads on, whatever follows. -/
  leads : ∀ later, system.Reaches endpoint later → endpoint.status.Leads later.status
  /-- No late report brings back an endpoint that is stopping or at its end. -/
  ignored : ∀ state later, system.step endpoint (.progress state) = some later →
    endpoint.status.state = .stopping ∨ endpoint.status.state.terminal = true → later = endpoint

/-- Every interleaving of start, stop and the worker keeps to the laws. -/
theorem reachable_lawful {endpoint : Endpoint} (reachable : system.Reachable endpoint) :
    endpoint.Lawful := by
  have holds := reachable_invariant reachable
  constructor
  · exact holds.once
  · intro stopped
    exact holds.requested (.inr (.inr stopped))
  · exact holds.silent
  · intro later reaches
    exact reachable_leads reachable reaches
  · intro state later stepped past
    exact progress_ignored past stepped

/-- An endpoint is started and reports `Ready`; a stop overtakes a late report, and the worker
settles. -/
def sampleLife : List Action :=
  [.start, .caller none, .caller none, .caller none, .progress .ready, .stop, .caller none,
    .progress .ready, .finish none, .caller none, .worker, .worker, .caller none, .caller none,
    .caller none, .caller none]

/-- The endpoint after that life. -/
def sampleStopped : Endpoint := (system.run {} sampleLife).getD {}

/-- The sample endpoint was started once, stopped, and keeps to the laws. -/
theorem sampleStopped_lawful :
    sampleStopped.starts = 1 ∧ sampleStopped.status.state = .stopped ∧ sampleStopped.Lawful := by
  have evaluated : system.run {} sampleLife = some sampleStopped := by decide
  have reachable : system.Reachable sampleStopped :=
    Transition.System.reachable_of_run rfl evaluated
  exact ⟨by decide, by decide, reachable_lawful reachable⟩

end Endpoint

end Plank.Native
