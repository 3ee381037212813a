import Plank.Auth.Authority
import Plank.Preview.Lifecycle
import Plank.Trace.Law

/-!
# What every run of a preview session keeps

Each event of the log meets a law with what came before it: the states are entered in their order,
held input is released before the lease ends and the lease ends before the endpoint stops, and the
endpoint goes only after the capture has drained and the receiver has exited. The log and the
instance variables tell the same. A session waits in `stopping` only for one of the two, or for a
callback of theirs that the queue still holds.
-/

namespace Plank.Preview

open Program

/-! ### The law -/

/-- What holds of an event and what came before it. -/
def previewLaw (earlier : List PreviewEvent) : PreviewEvent → Prop
  | .entered state =>
    0 < state.rank ∧ ∀ before, .entered before ∈ earlier → before.rank < state.rank
  | .handled _ | .captureStarted | .receiverStarted => .entered .stopping ∉ earlier
  | .captureDrained => .captureStarted ∈ earlier
  | .receiverExited => .receiverStarted ∈ earlier
  | .inputStopped _ =>
    .entered .stopping ∈ earlier ∧ ∀ before, .inputStopped before ∉ earlier
  | .leaseEnded =>
    .leaseEnded ∉ earlier ∧ ∃ input, .inputStopped input ∈ earlier
  | .endpointStopped => .endpointStopped ∉ earlier ∧ .leaseEnded ∈ earlier
  | .endpointDestroyed =>
    .endpointDestroyed ∉ earlier ∧ .entered .stopping ∈ earlier ∧ .endpointStopped ∈ earlier ∧
      (.captureStarted ∈ earlier → .captureDrained ∈ earlier) ∧
      (.receiverStarted ∈ earlier → .receiverExited ∈ earlier)
  | .didStop => .didStop ∉ earlier ∧ .endpointDestroyed ∈ earlier
  | .registered request => ∀ stopped, .completed request stopped ∉ earlier
  | .completed request true =>
    .completed request true ∉ earlier ∧ .registered request ∈ earlier ∧
      .endpointDestroyed ∈ earlier
  | .completed request false =>
    .completed request false ∉ earlier ∧ .registered request ∉ earlier

/-- What is written down when the session has stopped. -/
def finalEvents (announces : Bool) : List PreviewEvent :=
  (if announces then [.didStop] else []) ++ [.entered .stopped, .endpointDestroyed]

/-- The log tells what the instance variables tell. -/
structure Marks (log : List PreviewEvent) (state : PreviewState) (started : Bool)
    (stop : CaptureStop) (receiver : ReceiverStage) (announces : Bool) : Prop where
  /-- No later state was entered. -/
  entered : ∀ before, .entered before ∈ log → before.rank ≤ state.rank
  /-- The state was entered, but for the first. -/
  current : state ≠ .prepared → .entered state ∈ log
  /-- The session stops or has stopped. -/
  stopping : .entered .stopping ∈ log ↔ 3 ≤ state.rank
  /-- The capture was started. -/
  captured : .captureStarted ∈ log ↔ started = true
  /-- It has drained. -/
  drained : .captureDrained ∈ log ↔ stop = .reported
  /-- The receiver was started. -/
  received : .receiverStarted ∈ log ↔ receiver ≠ .unborn
  /-- It has left its group. -/
  left : .receiverExited ∈ log ↔ receiver = .exited ∨ receiver = .notified
  /-- Held input was released. -/
  released : .inputStopped false ∈ log ∨ .inputStopped true ∈ log ↔ 3 ≤ state.rank
  /-- There was an input if the capture was started. -/
  held : .inputStopped false ∈ log → started = false
  /-- The lease was ended. -/
  ended : .leaseEnded ∈ log ↔ 3 ≤ state.rank
  /-- The endpoint was stopped. -/
  halted : .endpointStopped ∈ log ↔ 3 ≤ state.rank
  /-- It was destroyed. -/
  destroyed : .endpointDestroyed ∈ log ↔ state = .stopped
  /-- `didStop` was called. -/
  announced : .didStop ∈ log ↔ state = .stopped ∧ announces = true

/-- The completions that are kept. -/
structure Waiting (log : List PreviewEvent) (state : PreviewState) (callbacks : List Nat)
    (requests : Nat) : Prop where
  /-- A kept completion belongs to a request. -/
  registered : ∀ request, .registered request ∈ log → request < requests
  /-- So does one that was called. -/
  completed : ∀ request stopped, .completed request stopped ∈ log → request < requests
  /-- Those are kept that were registered and not called. -/
  held : ∀ request, request ∈ callbacks ↔
    .registered request ∈ log ∧ .completed request true ∉ log
  /-- None is kept twice. -/
  once : callbacks.Nodup
  /-- None was called before the session stopped. -/
  answered : ∀ request, .completed request true ∈ log → state = .stopped
  /-- None is kept after. -/
  done : state = .stopped → callbacks = []

/-- How the instance variables belong together. -/
structure Stages (state : PreviewState) (started drained : Bool) (stop : CaptureStop)
    (endpoint input didStop announces : Bool) (receiver : ReceiverStage) : Prop where
  /-- The endpoint is there until the session has stopped. -/
  endpoint : endpoint = true ↔ state ≠ .stopped
  /-- `didStop` is set until then. -/
  didStop : state ≠ .stopped → didStop = announces
  /-- There is an input while there is a capture. -/
  input : started = true → state ≠ .stopped → input = true
  /-- A capture that was not started is not stopped. -/
  idle : started = false → stop = .idle
  /-- One that was started is stopped when the session stops. -/
  asked : started = true → (stop = .idle ↔ state.rank < 3)
  /-- `_captureDrained`. -/
  flag : drained = true ↔ 3 ≤ state.rank ∧ (started = false ∨ stop = .reported)
  /-- There is no capture before the endpoint is started. -/
  begun : started = true → 1 ≤ state.rank
  /-- There is no receiver before the session streams. -/
  early : state.rank < 2 → receiver = .unborn
  /-- It goes on while it does. -/
  streaming : state = .streaming → receiver = .receiving ∨ ∃ received, receiver = .handing received
  /-- It ends only after. -/
  leaving : receiver = .leaving ∨ receiver = .exited ∨ receiver = .notified → 3 ≤ state.rank
  /-- The session has stopped only when both are through. -/
  stopped : state = .stopped → drained = true ∧ receiver.running = false

/-- The lease of the session among the authentication sessions. -/
structure Leased (sessions : Auth.Session) (lease : Nat) (state : PreviewState) : Prop where
  /-- They ran as they do. -/
  reachable : Auth.Session.system.Reachable sessions
  /-- The lease was claimed. -/
  claimed : ∃ claim ∈ sessions.history.claims, claim.lease = lease
  /-- It was ended by the time the session stops. -/
  ended : 3 ≤ state.rank → lease ∈ sessions.history.past

/-- What holds of a session at every time. -/
structure Life.Sound (floor : Nat) (life : Life) : Prop where
  /-- Every event meets the law. -/
  lawful : Trace.Each previewLaw life.log
  /-- The state is not before some state. -/
  above : floor ≤ life.state.rank
  /-- The log. -/
  marks : Marks life.log life.state life.captureStarted life.captureStop life.receiver
    life.announces
  /-- The completions. -/
  waiting : Waiting life.log life.state life.stopCallbacks life.requests
  /-- The stages. -/
  stages : Stages life.state life.captureStarted life.captureDrained life.captureStop life.endpoint
    life.input life.didStop life.announces life.receiver
  /-- The lease. -/
  leased : Leased life.sessions life.lease life.state

/-- What holds between two blocks. -/
structure Life.Kept (floor : Nat) (life : Life) : Prop extends Life.Sound floor life where
  /-- A session that stops waits for the capture, for the receiver or for its notification. -/
  awaited : life.state = .stopping → life.captureDrained = true →
    life.receiver.running = false → life.receiver = .exited

/-! ### Small facts -/

section

/-- The first state. -/
@[simp] theorem PreviewState.rank_prepared : PreviewState.prepared.rank = 0 := rfl

/-- The second state. -/
@[simp] theorem PreviewState.rank_connecting : PreviewState.connecting.rank = 1 := rfl

/-- The third state. -/
@[simp] theorem PreviewState.rank_streaming : PreviewState.streaming.rank = 2 := rfl

/-- The fourth state. -/
@[simp] theorem PreviewState.rank_stopping : PreviewState.stopping.rank = 3 := rfl

/-- The last state. -/
@[simp] theorem PreviewState.rank_stopped : PreviewState.stopped.rank = 4 := rfl

end

/-- The states after the second are these. -/
theorem PreviewState.halted_iff (state : PreviewState) :
    3 ≤ state.rank ↔ state = .stopping ∨ state = .stopped := by
  cases state <;> decide

/-- The states before them. -/
theorem PreviewState.running_iff (state : PreviewState) :
    state.rank < 3 ↔ ¬(state = .stopping ∨ state = .stopped) := by
  rw [← state.halted_iff]
  omega

/-- Others call the authentication sessions. -/
theorem Leased.step {sessions after : Auth.Session} {lease : Nat} {state : PreviewState}
    (leased : Leased sessions lease state) {action : Auth.Action}
    (stepped : sessions.step action = some after) : Leased after lease state := by
  have grows := Auth.Session.step_grows stepped
  obtain ⟨claim, member, same⟩ := leased.claimed
  exact ⟨leased.reachable.step stepped, ⟨claim, grows.claims claim member, same⟩,
    fun halted => grows.past lease (leased.ended halted)⟩

/-- The lease need not have ended while the session goes on. -/
theorem Leased.move {sessions : Auth.Session} {lease : Nat} {state next : PreviewState}
    (leased : Leased sessions lease state) (running : next.rank < 3) :
    Leased sessions lease next :=
  ⟨leased.reachable, leased.claimed, fun halted => absurd running (Nat.not_lt.mpr halted)⟩

section Marks

variable {log : List PreviewEvent} {state : PreviewState} {started announces : Bool}
  {stop : CaptureStop} {receiver : ReceiverStage}

/-- Writing down what no instance variable tells. -/
theorem Marks.aside (marks : Marks log state started stop receiver announces)
    {event : PreviewEvent} (plain : (∃ kind, event = .handled kind) ∨
      (∃ request, event = .registered request) ∨
      ∃ request stopped, event = .completed request stopped) :
    Marks (event :: log) state started stop receiver announces := by
  obtain ⟨entered, current, stopping, captured, drained, received, left, released, held, ended,
    halted, destroyed, announced⟩ := marks
  rcases plain with ⟨kind, rfl⟩ | ⟨request, rfl⟩ | ⟨request, stopped, rfl⟩ <;>
    constructor <;> simpa

/-- A later state is entered. -/
theorem entered_next (entered : ∀ before, .entered before ∈ log → before.rank ≤ state.rank)
    {next : PreviewState} (later : state.rank ≤ next.rank) (before : PreviewState)
    (member : .entered before ∈ PreviewEvent.entered next :: log) : before.rank ≤ next.rank := by
  rcases List.mem_cons.mp member with same | old
  · rw [PreviewEvent.entered.inj same]
  · exact (entered before old).trans later

/-- The endpoint is started. -/
theorem Marks.connecting (marks : Marks log .prepared started stop receiver announces) :
    Marks (.entered .connecting :: log) .connecting started stop receiver announces := by
  have later := entered_next marks.entered (show _ ≤ PreviewState.connecting.rank by decide)
  obtain ⟨_, _, stopping, captured, drained, received, left, released, held, ended,
    halted, destroyed, announced⟩ := marks
  constructor
  case entered => exact later
  all_goals simp_all

/-- The session streams. -/
theorem Marks.streaming (marks : Marks log .connecting started stop .unborn announces) :
    Marks (.receiverStarted :: .entered .streaming :: log) .streaming started stop .receiving
      announces := by
  have later := entered_next marks.entered (show _ ≤ PreviewState.streaming.rank by decide)
  obtain ⟨_, _, stopping, captured, drained, received, left, released, held, ended,
    halted, destroyed, announced⟩ := marks
  constructor
  case entered => exact fun before member => later before (by simpa using member)
  all_goals simp_all

/-- The capture is started. -/
theorem Marks.capturing (marks : Marks log state started stop receiver announces)
    (running : state.rank < 3) :
    Marks (.captureStarted :: log) state true stop receiver announces := by
  obtain ⟨entered, current, stopping, captured, drained, received, left, released, held, ended,
    halted, destroyed, announced⟩ := marks
  have early : ¬3 ≤ state.rank := Nat.not_le.mpr running
  constructor
  case held => exact fun before => absurd (released.mp (.inl (by simpa using before))) early
  all_goals simp_all

/-- The session stops. -/
theorem Marks.halting (marks : Marks log state started stop receiver announces)
    (running : state.rank < 3) {input : Bool} (present : started = true → input = true)
    {asked : CaptureStop} (unreported : stop ≠ .reported) (still : asked ≠ .reported) :
    Marks (.endpointStopped :: .leaseEnded :: .inputStopped input :: .entered .stopping :: log)
      .stopping started asked receiver announces := by
  have later := entered_next marks.entered
    (show _ ≤ PreviewState.stopping.rank from Nat.le_of_lt running)
  obtain ⟨_, _, stopping, captured, drained, received, left, released, held, ended,
    halted, destroyed, announced⟩ := marks
  have early : ¬3 ≤ state.rank := Nat.not_le.mpr running
  have standing : state ≠ .stopped := by
    rintro rfl
    exact early (by decide)
  constructor
  case entered => exact fun before member => later before (by simpa using member)
  case held =>
    intro missing
    have empty : input = false := by simp_all
    exact Bool.eq_false_iff.mpr fun began => absurd (empty.symm.trans (present began)) nofun
  all_goals simp_all

/-- The capture has drained. -/
theorem Marks.draining (marks : Marks log state started stop receiver announces) :
    Marks (.captureDrained :: log) state started .reported receiver announces := by
  obtain ⟨entered, current, stopping, captured, drained, received, left, released, held, ended,
    halted, destroyed, announced⟩ := marks
  constructor <;> simp_all

/-- The capture has drained, and its completion waits. -/
theorem Marks.drains (marks : Marks log state started .draining receiver announces) :
    Marks log state started .drained receiver announces :=
  { marks with drained := by simpa using marks.drained }

/-- The receiver leaves its group. -/
theorem Marks.leaving (marks : Marks log state started stop .leaving announces) :
    Marks (.receiverExited :: log) state started stop .exited announces := by
  obtain ⟨entered, current, stopping, captured, drained, received, left, released, held, ended,
    halted, destroyed, announced⟩ := marks
  constructor <;> simp_all

/-- The session has stopped. -/
theorem Marks.finishing (marks : Marks log .stopping started stop receiver announces) :
    Marks (finalEvents announces ++ log) .stopped started stop receiver announces := by
  have later := entered_next marks.entered (show _ ≤ PreviewState.stopped.rank by decide)
  obtain ⟨_, _, stopping, captured, drained, received, left, released, held, ended,
    halted, destroyed, announced⟩ := marks
  cases announces with
  | false =>
    show Marks (.entered .stopped :: .endpointDestroyed :: log) _ _ _ _ _
    constructor
    case entered => exact fun before member => later before (by simpa using member)
    all_goals simp_all
  | true =>
    show Marks (.didStop :: .entered .stopped :: .endpointDestroyed :: log) _ _ _ _ _
    constructor
    case entered => exact fun before member => later before (by simpa using member)
    all_goals simp_all

/-- The receiver goes from one stage to another, without leaving its group. -/
theorem Marks.receives (marks : Marks log state started stop receiver announces)
    {next : ReceiverStage} (born : receiver ≠ .unborn) (nextBorn : next ≠ .unborn)
    (same : (next = .exited ∨ next = .notified) ↔ (receiver = .exited ∨ receiver = .notified)) :
    Marks log state started stop next announces :=
  { marks with
    received := ⟨fun _ => nextBorn, fun _ => marks.received.mpr born⟩
    left := by rw [same]; exact marks.left }

end Marks

/-! ### The end -/

/-- The kept completions are called in order. -/
theorem lawful_completions {log : List PreviewEvent} {callbacks : List Nat}
    (lawful : Trace.Each previewLaw log) (destroyed : .endpointDestroyed ∈ log)
    (once : callbacks.Nodup)
    (registered : ∀ request ∈ callbacks, .registered request ∈ log)
    (uncalled : ∀ request ∈ callbacks, .completed request true ∉ log) :
    Trace.Each previewLaw
      ((callbacks.map fun request => .completed request true).reverse ++ log) := by
  induction callbacks generalizing log with
  | nil => exact lawful
  | cons request rest ih =>
    obtain ⟨apart, once⟩ := List.nodup_cons.mp once
    have called := lawful.cons (show previewLaw log (.completed request true) from
      ⟨uncalled request List.mem_cons_self, registered request List.mem_cons_self, destroyed⟩)
    rw [List.map_cons, List.reverse_cons, List.append_assoc]
    refine ih called (List.mem_cons_of_mem _ destroyed) once
      (fun other member => List.mem_cons_of_mem _
        (registered other (List.mem_cons_of_mem _ member))) fun other member again => ?_
    rcases List.mem_cons.mp again with same | old
    · obtain ⟨rfl, -⟩ := PreviewEvent.completed.inj same
      exact apart member
    · exact uncalled other (List.mem_cons_of_mem _ member) old

/-- Calling completions is nothing an instance variable tells. -/
theorem Marks.completions {log : List PreviewEvent} {state : PreviewState}
    {started announces : Bool} {stop : CaptureStop} {receiver : ReceiverStage}
    (marks : Marks log state started stop receiver announces) (callbacks : List Nat) :
    Marks ((callbacks.map fun request => .completed request true).reverse ++ log) state started stop
      receiver announces := by
  induction callbacks generalizing log with
  | nil => exact marks
  | cons request rest ih =>
    rw [List.map_cons, List.reverse_cons, List.append_assoc]
    exact ih (marks.aside (.inr (.inr ⟨request, true, rfl⟩)))

/-- What is written down when completions are called. -/
theorem mem_completions {callbacks : List Nat} {log : List PreviewEvent} {event : PreviewEvent} :
    event ∈ (callbacks.map fun request => PreviewEvent.completed request true).reverse ++ log ↔
      (∃ request ∈ callbacks, event = .completed request true) ∨ event ∈ log := by
  rw [List.mem_append, List.mem_reverse, List.mem_map]
  constructor
  · rintro (⟨request, member, rfl⟩ | old)
    · exact .inl ⟨request, member, rfl⟩
    · exact .inr old
  · rintro (⟨request, member, rfl⟩ | old)
    · exact .inl ⟨request, member, rfl⟩
    · exact .inr old

/-- Whether an event is about a completion. -/
def PreviewEvent.concerns : PreviewEvent → Bool
  | .registered _ | .completed _ _ => true
  | _ => false

section Waiting

variable {log : List PreviewEvent} {state next : PreviewState} {callbacks : List Nat}
  {requests : Nat}

/-- Something else is written down. -/
theorem Waiting.cons (waiting : Waiting log state callbacks requests) {event : PreviewEvent}
    (other : event.concerns = false) : Waiting (event :: log) state callbacks requests := by
  have registered {request : Nat} : .registered request ∈ event :: log ↔
      .registered request ∈ log := by
    cases event <;> simp_all [PreviewEvent.concerns]
  have completed {request : Nat} {stopped : Bool} : .completed request stopped ∈ event :: log ↔
      .completed request stopped ∈ log := by
    cases event <;> simp_all [PreviewEvent.concerns]
  exact ⟨fun request member => waiting.registered request (registered.mp member),
    fun request stopped member => waiting.completed request stopped (completed.mp member),
    fun request => by rw [registered, completed]; exact waiting.held request, waiting.once,
    fun request member => waiting.answered request (completed.mp member), waiting.done⟩

/-- The session moves on, but not to its end. -/
theorem Waiting.move (waiting : Waiting log state callbacks requests) (before : state ≠ .stopped)
    (after : next ≠ .stopped) : Waiting log next callbacks requests :=
  { waiting with
    answered := fun request member => absurd (waiting.answered request member) before
    done := fun ended => absurd ended after }

/-- All kept completions are called. -/
theorem Waiting.completions (waiting : Waiting log state callbacks requests) :
    Waiting ((callbacks.map fun request => .completed request true).reverse ++ log) .stopped []
      requests := by
  have registered {request : Nat} (member : .registered request ∈
      (callbacks.map fun request => PreviewEvent.completed request true).reverse ++ log) :
      .registered request ∈ log := by
    rcases mem_completions.mp member with ⟨_, _, other⟩ | old
    · cases other
    · exact old
  refine ⟨fun request member => waiting.registered request (registered member),
    fun request stopped member => ?_, fun request => ⟨fun member => absurd member List.not_mem_nil,
      fun ⟨kept, uncalled⟩ => ?_⟩, List.nodup_nil, fun _ _ => rfl, fun _ => rfl⟩
  · rcases mem_completions.mp member with ⟨named, kept, same⟩ | old
    · obtain ⟨rfl, -⟩ := PreviewEvent.completed.inj same
      exact waiting.registered request ((waiting.held request).mp kept).1
    · exact waiting.completed request stopped old
  · by_cases called : .completed request true ∈ log
    · exact absurd (mem_completions.mpr (.inr called)) uncalled
    · exact absurd (mem_completions.mpr
        (.inl ⟨request, (waiting.held request).mpr ⟨registered kept, called⟩, rfl⟩)) uncalled

/-- A request without a completion is counted. -/
theorem Waiting.count (waiting : Waiting log state callbacks requests) :
    Waiting log state callbacks (requests + 1) :=
  { waiting with
    registered := fun request member => Nat.lt_succ_of_lt (waiting.registered request member)
    completed := fun request stopped member =>
      Nat.lt_succ_of_lt (waiting.completed request stopped member) }

/-- The next request is not known. -/
theorem Waiting.fresh (waiting : Waiting log state callbacks requests) :
    .registered requests ∉ log ∧ ∀ stopped, .completed requests stopped ∉ log :=
  ⟨fun member => Nat.lt_irrefl _ (waiting.registered requests member),
    fun stopped member => Nat.lt_irrefl _ (waiting.completed requests stopped member)⟩

/-- A takeover is refused. -/
theorem Waiting.refuse (waiting : Waiting log state callbacks requests) :
    Waiting (.completed requests false :: log) state callbacks (requests + 1) where
  registered request member :=
    Nat.lt_succ_of_lt (waiting.registered request (by simpa using member))
  completed request stopped member := by
    rcases List.mem_cons.mp member with same | old
    · obtain ⟨rfl, -⟩ := PreviewEvent.completed.inj same
      exact Nat.lt_succ_self _
    · exact Nat.lt_succ_of_lt (waiting.completed request stopped old)
  held request := by simpa using waiting.held request
  once := waiting.once
  answered request member := waiting.answered request (by simpa using member)
  done := waiting.done

/-- A completion is kept. -/
theorem Waiting.keep (waiting : Waiting log state callbacks requests)
    (standing : state ≠ .stopped) :
    Waiting (.registered requests :: log) state (callbacks ++ [requests]) (requests + 1) where
  registered request member := by
    rcases List.mem_cons.mp member with same | old
    · rw [PreviewEvent.registered.inj same]
      exact Nat.lt_succ_self _
    · exact Nat.lt_succ_of_lt (waiting.registered request old)
  completed request stopped member :=
    Nat.lt_succ_of_lt (waiting.completed request stopped (by simpa using member))
  held request := by
    have fresh := waiting.fresh.2 true
    have held := waiting.held request
    rw [List.mem_append, List.mem_singleton]
    by_cases same : request = requests
    · subst same
      simp [fresh]
    · simp [same, held]
  once := by
    refine List.nodup_append.mpr ⟨waiting.once, List.nodup_singleton _, fun one member other new =>
      ?_⟩
    rintro rfl
    exact waiting.fresh.1 (List.mem_singleton.mp new ▸ ((waiting.held one).mp member).1)
  answered request member := waiting.answered request (by simpa using member)
  done ended := absurd ended standing

/-- A completion is called at once. -/
theorem Waiting.callAtOnce (waiting : Waiting log .stopped callbacks requests) :
    Waiting (.completed requests true :: .registered requests :: log) .stopped callbacks
      (requests + 1) where
  registered request member := by
    have kept : .registered request ∈ PreviewEvent.registered requests :: log := by
      simpa using member
    rcases List.mem_cons.mp kept with same | old
    · rw [PreviewEvent.registered.inj same]
      exact Nat.lt_succ_self _
    · exact Nat.lt_succ_of_lt (waiting.registered request old)
  completed request stopped member := by
    rcases List.mem_cons.mp member with same | old
    · obtain ⟨rfl, -⟩ := PreviewEvent.completed.inj same
      exact Nat.lt_succ_self _
    · exact Nat.lt_succ_of_lt (waiting.completed request stopped (by simpa using old))
  held request := by
    rw [waiting.done rfl]
    have held := waiting.held request
    rw [waiting.done rfl] at held
    by_cases same : request = requests
    · subst same
      simp
    · simpa [same] using held
  once := waiting.once
  answered _ _ := rfl
  done := waiting.done

end Waiting

/-- The session has stopped. -/
theorem Stages.finishing {started drained endpoint input didStop announces : Bool}
    {stop : CaptureStop} {receiver : ReceiverStage}
    (stages : Stages .stopping started drained stop endpoint input didStop announces receiver)
    (flagged : drained = true) (through : receiver.running = false) :
    Stages .stopped started drained stop false false false announces receiver where
  endpoint := by simp
  didStop other := absurd rfl other
  input _ other := absurd rfl other
  idle := stages.idle
  asked began := by simpa using stages.asked began
  flag := by simpa using stages.flag
  begun _ := by decide
  early early := absurd early (by decide)
  streaming := nofun
  leaving _ := by decide
  stopped _ := ⟨flagged, through⟩

section Halting

variable {state : PreviewState} {started drained endpoint input didStop announces : Bool}
  {stop : CaptureStop} {receiver : ReceiverStage}

/-- Before the session stops, the capture's stop has not been reported. -/
theorem Stages.unreported
    (stages : Stages state started drained stop endpoint input didStop announces receiver)
    (running : state.rank < 3) : stop = .idle := by
  cases began : started with
  | false => exact stages.idle began
  | true => exact (stages.asked began).mpr running

/-- Nor has the session stopped. -/
theorem PreviewState.standing (running : state.rank < 3) : state ≠ .stopped := by
  rintro rfl
  exact absurd running (by decide)

/-- The session stops while there is a capture. -/
theorem Stages.halting
    (stages : Stages state started drained stop endpoint input didStop announces receiver)
    (began : started = true) (running : state.rank < 3) :
    Stages .stopping started drained .draining endpoint input didStop announces receiver := by
  have standing := PreviewState.standing running
  have undrained : drained ≠ true := fun flag => Nat.not_le.mpr running (stages.flag.mp flag).1
  exact {
    endpoint := by simpa [standing] using stages.endpoint
    didStop := fun _ => stages.didStop standing
    input := fun _ _ => stages.input began standing
    idle := fun idle => absurd (began.symm.trans idle) nofun
    asked := fun _ => by simp
    flag := by simpa [began] using undrained
    begun := fun _ => by decide
    early := fun early => absurd early (by decide)
    streaming := nofun
    leaving := fun _ => by decide
    stopped := nofun }

/-- The session stops before there is one. -/
theorem Stages.quitting
    (stages : Stages state started drained stop endpoint input didStop announces receiver)
    (missing : started = false) (running : state.rank < 3) :
    Stages .stopping started true stop endpoint input didStop announces receiver := by
  have standing := PreviewState.standing running
  exact {
    endpoint := by simpa [standing] using stages.endpoint
    didStop := fun _ => stages.didStop standing
    input := fun began => absurd (missing.symm.trans began) nofun
    idle := stages.idle
    asked := fun began => absurd (missing.symm.trans began) nofun
    flag := by simp [missing]
    begun := fun _ => by decide
    early := fun early => absurd early (by decide)
    streaming := nofun
    leaving := fun _ => by decide
    stopped := nofun }

/-- The capture reports that it has drained. -/
theorem Stages.reported
    (stages : Stages state started drained stop endpoint input didStop announces receiver)
    (began : started = true) (asked : stop ≠ .idle) (standing : state ≠ .stopped) :
    Stages state started true .reported endpoint input didStop announces receiver := by
  have halted : 3 ≤ state.rank :=
    Nat.not_lt.mp fun running => asked ((stages.asked began).mpr running)
  exact { stages with
    idle := fun idle => absurd (began.symm.trans idle) nofun
    asked := fun _ => by simpa using halted
    flag := by simpa using halted
    stopped := fun ended => absurd ended standing }

/-- The endpoint is started. -/
theorem Stages.connecting
    (stages : Stages .prepared started drained stop endpoint input didStop announces receiver) :
    Stages .connecting started drained stop endpoint input didStop announces receiver where
  endpoint := by simpa using stages.endpoint
  didStop _ := stages.didStop nofun
  input began _ := stages.input began nofun
  idle := stages.idle
  asked began := by simpa using stages.asked began
  flag := by simpa using stages.flag
  begun _ := by decide
  early _ := stages.early (by decide)
  streaming := nofun
  leaving gone := absurd (stages.leaving gone) (by decide)
  stopped := nofun

/-- The session streams. -/
theorem Stages.begins
    (stages : Stages .connecting started drained stop endpoint input didStop announces receiver) :
    Stages .streaming started drained stop endpoint input didStop announces .receiving where
  endpoint := by simpa using stages.endpoint
  didStop _ := stages.didStop nofun
  input began _ := stages.input began nofun
  idle := stages.idle
  asked began := by simpa using stages.asked began
  flag := by simpa using stages.flag
  begun _ := by decide
  early early := absurd early (by decide)
  streaming _ := .inl rfl
  leaving := by simp
  stopped := nofun

/-- The capture is started. -/
theorem Stages.capturing
    (stages : Stages .connecting false drained stop endpoint input didStop announces receiver)
    (present : input = true) :
    Stages .connecting true drained stop endpoint input didStop announces receiver :=
  { stages with
    input := fun _ _ => present
    idle := nofun
    asked := fun _ => by simpa using stages.idle rfl
    flag := by simpa using stages.flag
    begun := fun _ => by decide }

/-- The capture has drained, and its completion waits. -/
theorem Stages.drains
    (stages : Stages state started drained .draining endpoint input didStop announces receiver) :
    Stages state started drained .drained endpoint input didStop announces receiver :=
  { stages with
    idle := fun missing => absurd (stages.idle missing) nofun
    asked := fun began => by simpa using stages.asked began
    flag := by simpa using stages.flag }

/-- The receiver goes from one stage to another. -/
theorem Stages.receives
    (stages : Stages state started drained stop endpoint input didStop announces receiver)
    {next : ReceiverStage} (born : receiver ≠ .unborn)
    (goes : state = .streaming → next = .receiving ∨ ∃ received, next = .handing received)
    (leaves : next = .leaving ∨ next = .exited ∨ next = .notified → 3 ≤ state.rank)
    (ends : receiver.running = true ∨ next.running = false) :
    Stages state started drained stop endpoint input didStop announces next :=
  { stages with
    early := fun early => absurd (stages.early early) born
    streaming := goes
    leaving := leaves
    stopped := fun ended => ⟨(stages.stopped ended).1, ends.resolve_left fun runs =>
      absurd ((stages.stopped ended).2.symm.trans runs) nofun⟩ }

end Halting

namespace PreviewSession

variable {floor : Nat} {session : PreviewSession}

/-- The completions are called one after another. -/
theorem foldl_completed (callbacks : List Nat) (session : PreviewSession) :
    (callbacks.foldl (fun session request => session.note (.completed request true))
      session).toLife = { session.toLife with
        log := (callbacks.map fun request => .completed request true).reverse ++ session.log } := by
  induction callbacks generalizing session with
  | nil => rfl
  | cons request rest ih =>
    rw [List.foldl_cons, ih, List.map_cons, List.reverse_cons, List.append_assoc]
    rfl

/-- All of them are. -/
theorem callBack_life : session.callBack.toLife = { session.toLife with
    stopCallbacks := []
    log := (session.stopCallbacks.map fun request => .completed request true).reverse ++
      session.log } := foldl_completed _ _

/-- `didStop` is not set any more. -/
theorem announce_life : session.announce.toLife = { session.toLife with
    didStop := false
    log := (if session.didStop then [.didStop] else []) ++ session.log } := by
  unfold announce
  cases told : session.didStop with
  | false =>
    rw [if_neg Bool.false_ne_true, if_neg Bool.false_ne_true, ← told]
    rfl
  | true => rfl

/-- The endpoint is not there any more. -/
theorem destroyEndpoint_life (endpoint : session.endpoint = true) :
    session.destroyEndpoint.toLife = { session.toLife with
      endpoint := false
      log := .endpointDestroyed :: session.log } := by
  rw [destroyEndpoint, if_pos endpoint]
  rfl

/-- A state is entered. -/
theorem enter_life (state : PreviewState) : (session.enter state).toLife =
    { session.toLife with state, log := .entered state :: session.log } := rfl

/-- The last events are lawful. -/
theorem lawful_final {log : List PreviewEvent} {started announces : Bool} {stop : CaptureStop}
    {receiver : ReceiverStage} (lawful : Trace.Each previewLaw log)
    (marks : Marks log .stopping started stop receiver announces)
    (captured : started = true → stop = .reported)
    (received : receiver ≠ .unborn → receiver = .exited ∨ receiver = .notified) :
    Trace.Each previewLaw (finalEvents announces ++ log) := by
  have destroyed := lawful.cons (show previewLaw log .endpointDestroyed from
    ⟨fun before => absurd (marks.destroyed.mp before) nofun, marks.stopping.mpr (by decide),
      marks.halted.mpr (by decide),
      fun capture => marks.drained.mpr (captured (marks.captured.mp capture)),
      fun receive => marks.left.mpr (received (marks.received.mp receive))⟩)
  have entered := destroyed.cons (show previewLaw _ (.entered .stopped) from
    ⟨by decide, fun before member =>
      Nat.lt_succ_of_le (marks.entered before (by simpa using member))⟩)
  cases announces with
  | false => exact entered
  | true =>
    refine Trace.Each.cons entered (show previewLaw _ .didStop from ⟨fun before => ?_, ?_⟩)
    · have old : PreviewEvent.didStop ∈ log := by simpa using before
      exact absurd (marks.announced.mp old).1 nofun
    · exact List.mem_cons_of_mem _ List.mem_cons_self

/-- The session as it is after `finishStop` has found it through. -/
theorem finishStop_through (stopping : session.state = .stopping)
    (drained : session.captureDrained = true) (through : session.receiver.running = false)
    (endpoint : session.endpoint = true) : session.finishStop.toLife = { session.toLife with
      state := .stopped
      input := false
      endpoint := false
      didStop := false
      stopCallbacks := []
      log := (session.stopCallbacks.map fun request => .completed request true).reverse ++
        (finalEvents session.didStop ++ session.log) } := by
  have on : ¬(session.state ≠ .stopping || !session.captureDrained ||
      session.receiver.running) = true := by
    rw [stopping, drained, through]
    decide
  have gone := @destroyEndpoint_life
    { session with input := false, inputDevice := false, clipboard := false } endpoint
  rw [finishStop, if_neg on, callBack_life, announce_life, enter_life, gone, finalEvents,
    List.append_assoc]
  rfl

/-- `finishStop` keeps what holds, and leaves nothing that could end the wait. -/
theorem finishStop_kept (sound : session.toLife.Sound floor) :
    session.finishStop.toLife.Kept floor := by
  by_cases early : session.state ≠ .stopping || !session.captureDrained ||
      session.receiver.running
  · rw [finishStop, if_pos early]
    refine ⟨sound, fun stopping drained through => ?_⟩
    simp [stopping, drained, through] at early
  · simp only [Bool.or_eq_true, decide_eq_true_eq, Bool.not_eq_true', not_or, not_not,
      Bool.not_eq_false, Bool.not_eq_true] at early
    obtain ⟨⟨stopping, drained⟩, through⟩ := early
    have standing : session.state ≠ .stopped := by rw [stopping]; decide
    have stages := sound.stages
    have marks := sound.marks
    rw [stopping] at marks
    have flag := (stages.flag.mp drained).2
    rw [finishStop_through stopping drained through (stages.endpoint.mpr standing),
      stages.didStop standing]
    have reported (started : session.captureStarted = true) : session.captureStop = .reported :=
      flag.resolve_left fun idle => absurd (started.symm.trans idle) nofun
    have out (born : session.receiver ≠ .unborn) :
        session.receiver = .exited ∨ session.receiver = .notified := by
      cases stage : session.receiver with
      | unborn => exact absurd stage born
      | receiving | handing | leaving =>
        rw [stage] at through
        cases through
      | exited => exact .inl rfl
      | notified => exact .inr rfl
    have uncalled (request : Nat) (member : request ∈ session.stopCallbacks) :=
      (sound.waiting.held request).mp member
    refine ⟨⟨?_, ?_, marks.finishing.completions _, ?_,
      Stages.finishing (stopping ▸ stages) drained through, ?_⟩, nofun⟩
    · refine lawful_completions (lawful_final sound.lawful marks reported out) ?_
        sound.waiting.once (fun request member => List.mem_append_right _
          (uncalled request member).1) fun request member again => ?_
      · exact List.mem_append_left _ (List.mem_append_right _ (by simp))
      · refine (uncalled request member).2 ?_
        unfold finalEvents at again
        split at again <;> simpa using again
    · have above := sound.above
      rw [stopping] at above
      exact above.trans (by decide : (3 : Nat) ≤ 4)
    · have gone : Waiting (.entered .stopped :: .endpointDestroyed :: session.log) session.state
          session.stopCallbacks session.requests := (sound.waiting.cons rfl).cons rfl
      cases announced : session.announces with
      | false => exact gone.completions
      | true => exact (Waiting.cons gone rfl).completions
    · have leased := sound.leased
      exact ⟨leased.reachable, leased.claimed, fun _ =>
        leased.ended ((PreviewState.halted_iff _).mpr (.inl stopping))⟩

/-- What a session is after it was revoked. -/
theorem revoke_life (reason : String) (endpoint : session.endpoint = true) :
    (session.revoke reason).toLife = { session.toLife with
      state := .stopping
      sessions := (session.call (.endStreamLease (some session.lease))).sessions
      log := .endpointStopped :: .leaseEnded :: .inputStopped session.input ::
        .entered .stopping :: session.log } := by
  rw [revoke]
  exact congrArg toLife (if_pos endpoint)

/-- The events of a revocation are lawful. -/
theorem lawful_revoke {log : List PreviewEvent} {state : PreviewState} {started announces : Bool}
    {stop : CaptureStop} {receiver : ReceiverStage} (lawful : Trace.Each previewLaw log)
    (marks : Marks log state started stop receiver announces) (running : state.rank < 3)
    (input : Bool) :
    Trace.Each previewLaw (.endpointStopped :: .leaseEnded :: .inputStopped input ::
      .entered .stopping :: log) := by
  have early : ¬3 ≤ state.rank := Nat.not_le.mpr running
  have entered := lawful.cons (show previewLaw log (.entered .stopping) from
    ⟨by decide, fun before member => Nat.lt_of_le_of_lt (marks.entered before member) running⟩)
  have released := entered.cons (show previewLaw _ (.inputStopped input) from
    ⟨List.mem_cons_self, fun before member => early (marks.released.mp (by
        cases before <;> simp_all))⟩)
  have ended := released.cons (show previewLaw _ .leaseEnded from
    ⟨fun before => early (marks.ended.mp (by simpa using before)), input, List.mem_cons_self⟩)
  exact ended.cons (show previewLaw _ .endpointStopped from
    ⟨fun before => early (marks.halted.mp (by simpa using before)), List.mem_cons_self⟩)

/-- The lease is ended for good. -/
theorem leased_revoke {state next : PreviewState}
    (leased : Leased session.sessions session.lease state) :
    Leased (session.call (.endStreamLease (some session.lease))).sessions session.lease next := by
  obtain ⟨claim, member, same⟩ := leased.claimed
  have issued : session.lease < session.sessions.state.issued :=
    same ▸ (Auth.Session.preserves_invariant.reachable (fun _ start => start ▸ .start)
      leased.reachable).issued claim member
  have stepped : Auth.Session.system.step session.sessions
      (.endStreamLease (some session.lease)) =
        some (session.call (.endStreamLease (some session.lease))).sessions := rfl
  refine ⟨leased.reachable.step stepped, ⟨claim, member, same⟩, fun _ => ?_⟩
  exact List.mem_append_left _ (by simp [issued])

/-- The capture reports that it has drained. -/
theorem captureReported_kept (sound : session.toLife.Sound floor)
    (started : session.captureStarted = true) (asked : session.captureStop ≠ .idle)
    (standing : session.state ≠ .stopped) : session.captureReported.toLife.Kept floor := by
  refine finishStop_kept ⟨?_, sound.above, sound.marks.draining, ?_, ?_, sound.leased⟩
  · exact sound.lawful.cons (show previewLaw _ .captureDrained from
      sound.marks.captured.mpr started)
  · exact sound.waiting.cons rfl
  · exact sound.stages.reported started asked standing

/-- A session is revoked, and the capture is told or was not started. -/
theorem revoke_sound (kept : session.toLife.Kept floor) (running : session.state.rank < 3)
    (reason : String) {drained : Bool} {asked : CaptureStop} (quiet : asked ≠ .reported)
    (stages : Stages .stopping session.captureStarted drained asked session.endpoint session.input
      session.didStop session.announces session.receiver) :
    ({ (session.revoke reason).toLife with captureDrained := drained, captureStop := asked } :
      Life).Sound floor := by
  have standing := PreviewState.standing running
  have idle := kept.stages.unreported running
  rw [revoke_life reason (kept.stages.endpoint.mpr standing)]
  refine ⟨lawful_revoke kept.lawful kept.marks running session.input,
    kept.above.trans (Nat.le_of_lt running), kept.marks.halting running
      (fun started => kept.stages.input started standing) (by rw [idle]; decide) quiet, ?_, stages,
    leased_revoke kept.leased⟩
  have told : Waiting (.endpointStopped :: .leaseEnded :: .inputStopped session.input ::
      .entered .stopping :: session.log) session.state session.stopCallbacks session.requests :=
    (((kept.waiting.cons rfl).cons rfl).cons rfl).cons rfl
  exact told.move standing nofun

/-- A stop keeps what holds. -/
theorem stopOnQueue_kept (kept : session.toLife.Kept floor) (reason : String) :
    (stopOnQueue reason session).toLife.Kept floor := by
  by_cases halted : session.state = .stopping || session.state = .stopped
  · rw [stopOnQueue, if_pos halted]
    exact kept
  · have running : session.state.rank < 3 :=
      (PreviewState.running_iff _).mpr (by simpa using halted)
    have life := revoke_life reason
      (kept.stages.endpoint.mpr (PreviewState.standing running))
    have same : (session.revoke reason).captureStarted = session.captureStarted :=
      (congrArg Life.captureStarted life :)
    have stops : (session.revoke reason).state = .stopping := (congrArg Life.state life :)
    rw [stopOnQueue, if_neg halted]
    dsimp only
    by_cases started : session.captureStarted = true
    · have sound := revoke_sound kept running reason (by decide)
        (kept.stages.halting started running)
      have undrained : (session.revoke reason).captureDrained = session.captureDrained :=
        (congrArg Life.captureDrained life :)
      rw [← undrained] at sound
      rw [if_pos (same.trans started)]
      split
      · exact captureReported_kept sound (same.trans started) nofun
          (fun ended => absurd (stops.symm.trans ended) nofun)
      · exact ⟨sound, fun _ drained => absurd (sound.stages.flag.mp drained).2 (by
          rintro (idle | reported)
          · exact absurd ((same.trans started).symm.trans idle) nofun
          · cases reported)⟩
    · have missing := Bool.eq_false_iff.mpr started
      have unasked : (session.revoke reason).captureStop = session.captureStop :=
        (congrArg Life.captureStop life :)
      have sound := revoke_sound kept running reason
        (by rw [kept.stages.unreported running]; decide) (kept.stages.quitting missing running)
      rw [← unasked] at sound
      rw [if_neg (by rw [same]; exact started)]
      exact finishStop_kept sound

/-- `finishStop` does not touch the receiver. -/
theorem finishStop_receiver : session.finishStop.receiver = session.receiver := by
  unfold finishStop
  split
  · rfl
  · show (callBack _).toLife.receiver = _
    rw [callBack_life, announce_life, enter_life]
    unfold destroyEndpoint
    split <;> rfl

/-- A session that stops goes on to do so. -/
theorem finishStop_halted (halted : 3 ≤ session.state.rank) :
    3 ≤ session.finishStop.state.rank := by
  unfold finishStop
  split
  · exact halted
  · show 3 ≤ (callBack _).toLife.state.rank
    rw [callBack_life, announce_life, enter_life]
    exact (by decide : 3 ≤ 4)

/-- Nor does a stop. -/
theorem stopOnQueue_receiver (reason : String) :
    (stopOnQueue reason session).receiver = session.receiver := by
  have revoked : (session.revoke reason).receiver = session.receiver := by
    unfold revoke
    dsimp only
    split <;> rfl
  unfold stopOnQueue
  split
  · rfl
  · dsimp only
    split
    · split
      · exact finishStop_receiver.trans revoked
      · exact revoked
    · exact finishStop_receiver.trans revoked

/-- After a stop the session stops or has stopped. -/
theorem stopOnQueue_halted (reason : String) :
    3 ≤ (stopOnQueue reason session).state.rank := by
  have revoked : (session.revoke reason).state = .stopping := by
    unfold revoke
    dsimp only
    split <;> rfl
  have halted : 3 ≤ (session.revoke reason).state.rank := by
    rw [revoked]
    decide
  unfold stopOnQueue
  split
  · next already => exact (PreviewState.halted_iff _).mpr (by simpa using already)
  · dsimp only
    split
    · split
      · exact finishStop_halted halted
      · exact halted
    · exact finishStop_halted halted

/-! ### Blocks -/

/-- What holds of a session between two blocks. -/
def Kept (floor : Nat) (session : PreviewSession) : Prop := session.toLife.Kept floor

/-- It holds, and the session is in a state. -/
def In (floor : Nat) (state : PreviewState) (session : PreviewSession) : Prop :=
  session.Kept floor ∧ session.state = state

section Rules

variable {pre : PreviewSession → Prop} {post : Unit → PreviewSession → Prop}
  {fail : Unit → PreviewSession → Prop} {next : Block} {condition : Bool} {reason : String}

/-- A return on a condition. -/
theorem triple_returnIf (early : condition = true → ∀ session, pre session → fail () session)
    (goes : condition = false → Triple pre next post fail) :
    Triple pre (returnIf condition >>= fun _ => next) post fail := by
  cases condition with
  | true => exact early rfl
  | false => exact goes rfl

/-- A stop and a return on a condition. -/
theorem triple_haltIf
    (early : ∀ session, pre session → fail () (stopOnQueue reason session))
    (goes : condition = false → Triple pre next post fail) :
    Triple pre (haltIf condition reason >>= fun _ => next) post fail := by
  cases condition with
  | true => exact early
  | false => exact goes rfl

/-- A stop and a return. -/
theorem triple_halt (early : ∀ session, pre session → fail () (stopOnQueue reason session)) :
    Triple pre (halt reason) post fail := early

/-- A stop and a return on a condition, at the end. -/
theorem triple_haltIf_end
    (early : ∀ session, pre session → fail () (stopOnQueue reason session))
    (goes : ∀ session, pre session → post () session) :
    Triple pre (haltIf condition reason) post fail := by
  cases condition with
  | true => exact early
  | false => exact goes

end Rules

/-- A stop on a condition keeps what holds. -/
theorem haltIf_kept (condition : Bool) (reason : String) :
    Keeps (Kept floor) (haltIf condition reason) :=
  triple_haltIf_end (fun _ kept => stopOnQueue_kept kept reason) fun _ kept => kept

/-- A change of what a bitrate uses keeps what holds. -/
theorem modify_kept {change : PreviewSession → PreviewSession}
    (same : ∀ session, (change session).toLife = session.toLife) :
    Keeps (Kept floor) (modify change : Block) :=
  triple_modify fun session kept => by
    show (change session).toLife.Kept floor
    rw [same session]
    exact kept

/-- `acknowledgeBitrate`. -/
theorem acknowledgeBitrate_kept (sendOk : Bool) :
    Keeps (Kept floor) (acknowledgeBitrate sendOk) := by
  unfold acknowledgeBitrate
  exact keeps_ite (keeps_pure ()) (triple_modify fun _ kept => stopOnQueue_kept kept _)

/-- A return on a condition keeps what holds. -/
theorem returnIf_kept (condition : Bool) : Keeps (Kept floor) (returnIf condition) :=
  keeps_ite (keeps_stop ()) (keeps_pure ())

/-- The completion block of `setBitrate`. -/
theorem bitrateChanged_kept (bitrate : Nat) (change : BitrateChange) :
    Keeps (Kept floor) (bitrateChanged bitrate change) :=
  keeps_bind keeps_read fun _ => keeps_bind (returnIf_kept _) fun _ =>
    keeps_bind (modify_kept fun _ => rfl) fun _ => keeps_bind (haltIf_kept _ _) fun _ =>
      keeps_bind (modify_kept fun _ => rfl) fun _ => acknowledgeBitrate_kept change.sendOk

/-- `setBitrate` of the capture. -/
theorem setBitrate_kept (bitrate : Nat) (atOnce : Option BitrateChange) :
    Keeps (Kept floor) (setBitrate bitrate atOnce) := by
  cases atOnce with
  | none => exact modify_kept fun _ => rfl
  | some change => exact keeps_method (bitrateChanged_kept bitrate change)

/-- The end of `applyPendingBitrate`. -/
theorem takeBitrate_kept (reading : BitrateReading) :
    Keeps (Kept floor) (takeBitrate reading) :=
  keeps_bind keeps_read fun _ => keeps_bind (modify_kept fun _ => rfl) fun _ =>
    keeps_ite (acknowledgeBitrate_kept _)
      (keeps_bind (modify_kept fun _ => rfl) fun _ => setBitrate_kept _ _)

/-- `applyPendingBitrate`. -/
theorem applyPendingBitrate_kept (reading : BitrateReading) :
    Keeps (Kept floor) (applyPendingBitrate reading) :=
  keeps_bind keeps_read fun _ => keeps_bind (returnIf_kept _) fun _ =>
    keeps_ite (haltIf_kept _ _) (keeps_ite (keeps_pure ()) (takeBitrate_kept reading))

/-- Something is handled while the session streams. -/
theorem handled_in (kind : Handled) (streaming : session.In floor .streaming) :
    (session.note (.handled kind)).In floor .streaming := by
  obtain ⟨kept, state⟩ := streaming
  have going : .entered .stopping ∉ session.log := fun stopping => by
    have halted := kept.marks.stopping.mp stopping
    rw [state] at halted
    exact absurd halted (by decide)
  exact ⟨⟨⟨kept.lawful.cons going, kept.above, kept.marks.aside (.inl ⟨kind, rfl⟩),
    kept.waiting.cons rfl, kept.stages, kept.leased⟩, kept.awaited⟩, state⟩

/-- A stop on a condition, while the session is in a state. -/
theorem haltIf_in (state : PreviewState) (condition : Bool) (reason : String) :
    Triple (In floor state) (haltIf condition reason) (fun _ => In floor state)
      (fun _ => Kept floor) :=
  triple_haltIf_end (fun _ inside => stopOnQueue_kept inside.1 reason) fun _ inside => inside

/-- A stop, while the session is in a state. -/
theorem halt_in (state : PreviewState) (reason : String) :
    Triple (In floor state) (halt reason) (fun _ => In floor state) (fun _ => Kept floor) :=
  triple_halt fun _ inside => stopOnQueue_kept inside.1 reason

/-- A request for a bitrate. -/
theorem requestBitrate_in (state : PreviewState) (bitrate now : Nat) :
    Triple (In floor state) (requestBitrate bitrate now) (fun _ => In floor state)
      (fun _ => Kept floor) :=
  triple_haltIf (fun _ inside => stopOnQueue_kept inside.1 _) fun _ =>
    triple_modify fun _ inside => inside

/-- A control packet. -/
theorem handleControl_in (packet : Transport.ShortPacket) (accepted : Bool) (now : Nat) :
    Triple (In floor .streaming) (handleControl packet accepted now)
      (fun _ => In floor .streaming) (fun _ => Kept floor) :=
  triple_bind _ (triple_read fun _ inside => inside) fun _ =>
    triple_ite (fun _ => halt_in _ _) fun _ =>
    triple_ite (fun _ => triple_pure fun _ inside => inside) fun _ =>
    triple_ite (fun _ => triple_pure fun _ inside => inside) fun _ =>
    triple_ite (fun _ => requestBitrate_in _ _ _) fun _ =>
    triple_ite (fun _ => haltIf_in _ _ _) fun _ =>
    triple_ite (fun _ => haltIf_in _ _ _) fun _ => halt_in _ _

/-- One round of `receiveControls`. -/
theorem receiveControl_in (received : ControlReceived) :
    Triple (In floor .streaming) (receiveControl received) (fun _ => In floor .streaming)
      (fun _ => Kept floor) := by
  cases received with
  | timeout => exact triple_stop fun _ inside => inside.1
  | failed result => exact halt_in _ _
  | packet decoded accepted now =>
    refine triple_change (In floor .streaming) (fun _ inside => handled_in .control inside) ?_
    cases decoded with
    | none => exact halt_in _ _
    | some packet => exact handleControl_in packet accepted now

/-- `receiveControls`. -/
theorem receiveControls_in (controls : List ControlReceived) :
    Triple (In floor .streaming) (receiveControls controls) (fun _ => In floor .streaming)
      (fun _ => Kept floor) :=
  triple_forEach (fun _ _ => In floor .streaming) (fun received _ _ => receiveControl_in received)
    (controls.take 8) ()

/-- Others call the authentication sessions. -/
theorem call_kept (kept : session.Kept floor) (action : Auth.Action) :
    (session.call action).Kept floor := by
  refine ⟨⟨kept.lawful, kept.above, kept.marks, kept.waiting, kept.stages, ?_⟩, kept.awaited⟩
  show Leased ((session.sessions.step action).getD session.sessions) session.lease session.state
  cases stepped : session.sessions.step action with
  | none => exact kept.leased
  | some after => exact kept.leased.step stepped

/-- Others call them often. -/
theorem others_in {state : PreviewState} (inside : session.In floor state)
    (actions : List Auth.Action) : (session.others actions).In floor state := by
  induction actions generalizing session with
  | nil => exact inside
  | cons action rest ih => exact ih ⟨call_kept inside.1 action, inside.2⟩

/-- The session begins to connect. -/
theorem connecting_kept (kept : session.Kept floor) (fresh : session.state = .prepared) :
    (session.enter .connecting).Kept floor := by
  have marks := kept.marks
  have stages := kept.stages
  rw [fresh] at marks stages
  refine ⟨⟨kept.lawful.cons (show previewLaw _ (.entered .connecting) from ⟨by decide,
    fun before member => Nat.lt_succ_of_le (marks.entered before member)⟩), ?_, marks.connecting,
    (kept.waiting.cons rfl).move (by rw [fresh]; decide) nofun, stages.connecting,
    kept.leased.move (by decide : (1 : Nat) < 3)⟩, nofun⟩
  have above := kept.above
  rw [fresh] at above
  exact above.trans (by decide : (0 : Nat) ≤ 1)

/-- The capture is started, and there is an input. -/
theorem capturing_in (inside : session.In floor .connecting)
    (missing : session.captureStarted = false) (input : session.input = true) (deadline : Nat) :
    In floor .connecting { session.note .captureStarted with
      captureStarted := true, captureDeadline := deadline } := by
  obtain ⟨kept, state⟩ := inside
  have marks := kept.marks
  have stages := kept.stages
  rw [state] at marks
  rw [state, missing] at stages
  refine ⟨⟨⟨kept.lawful.cons fun stopping => absurd (marks.stopping.mp stopping) (by decide),
    kept.above, kept.marks.capturing (by rw [state]; decide), kept.waiting.cons rfl, ?_,
    kept.leased⟩, kept.awaited⟩, state⟩
  have began := stages.capturing input
  rw [← state] at began
  exact began

/-- The session begins to stream. -/
theorem streaming_kept (inside : session.In floor .connecting) :
    ((session.enter .streaming).startClipboard.startMicrophone.startCamera.startInputReceiver).Kept
      floor := by
  obtain ⟨kept, state⟩ := inside
  have marks := kept.marks
  have stages := kept.stages
  have unborn := stages.early (by rw [state]; decide)
  rw [state] at marks stages
  rw [unborn] at marks
  have entered := kept.lawful.cons (show previewLaw _ (.entered .streaming) from ⟨by decide,
    fun before member => Nat.lt_succ_of_le (marks.entered before member)⟩)
  refine ⟨⟨entered.cons (show previewLaw _ .receiverStarted from fun stopping => ?_), ?_,
    marks.streaming, ((kept.waiting.cons rfl).cons rfl).move (by rw [state]; decide) nofun,
    stages.begins, kept.leased.move (by decide : (2 : Nat) < 3)⟩, nofun⟩
  · exact absurd (marks.stopping.mp (by simpa using stopping)) (by decide)
  · have above := kept.above
    rw [state] at above
    exact above.trans (by decide : (1 : Nat) ≤ 2)

/-- A call of the capture back to the session. -/
theorem captureCall_kept (call : CaptureCall) : Keeps (Kept floor) (captureCall call) := by
  cases call with
  | failed => exact triple_modify fun _ kept => stopOnQueue_kept kept _
  | started peak policyOk =>
    refine triple_fetch fun session kept => triple_returnIf (fun _ current same => same ▸ kept)
      fun connecting => ?_
    have state : session.state = .connecting := by simpa using connecting
    refine triple_haltIf (fun current same => stopOnQueue_kept (same ▸ kept) _) fun _ => ?_
    exact triple_modify fun current same => streaming_kept (same ▸ ⟨kept, state⟩)

/-- There is an input, or none, before the capture is started. -/
theorem equipped_kept (kept : session.Kept floor) (missing : session.captureStarted = false)
    (input : Bool) : Kept floor { session with input } :=
  ⟨⟨kept.lawful, kept.above, kept.marks, kept.waiting,
    { kept.stages with input := fun began => absurd (missing.symm.trans began) nofun },
    kept.leased⟩, kept.awaited⟩

/-- The part of a tick that starts the media. -/
theorem startMedia_kept (reading : MediaReading) {started : PreviewSession}
    (inside : started.In floor .connecting) (missing : started.captureStarted = false) :
    Triple (fun session => session = started) (startMedia reading) (fun _ => Kept floor)
      (fun _ => Kept floor) := by
  have unstarted {session : PreviewSession} (actions : List Auth.Action) :
      (session.others actions).captureStarted = session.captureStarted := by
    induction actions generalizing session with
    | nil => rfl
    | cons action rest ih => exact ih
  refine triple_change (fun session => session = started.others reading.meanwhile)
    (fun _ same => same ▸ rfl) ?_
  refine triple_fetch fun session same => ?_
  have calm : session.In floor .connecting ∧ session.captureStarted = false :=
    same ▸ ⟨others_in inside _, (unstarted _).trans missing⟩
  refine triple_change (fun after => after.In floor .connecting ∧ after.captureStarted = false)
    (fun current equal => equal ▸ ⟨⟨call_kept calm.1.1 _, calm.1.2⟩, calm.2⟩) ?_
  refine triple_haltIf (fun _ pre => stopOnQueue_kept pre.1.1 _) fun _ => ?_
  refine triple_change (fun after => (after.In floor .connecting ∧ after.captureStarted = false) ∧
    after.input = reading.inputMade)
    (fun _ pre => ⟨⟨⟨equipped_kept pre.1.1 pre.2 _, pre.1.2⟩, pre.2⟩, rfl⟩) ?_
  refine triple_haltIf (fun _ pre => stopOnQueue_kept pre.1.1.1 _) fun made => ?_
  have input : reading.inputMade = true := by simp_all
  refine triple_change (In floor .connecting)
    (fun current pre => capturing_in pre.1.1 pre.1.2 (pre.2.trans input) _) ?_
  exact (keeps_forEach (fun call _ => keeps_method (captureCall_kept call)) reading.calls ()).imp
    (fun _ after => after.1) (fun _ _ after => after) fun _ _ after => after

/-- The part of a tick that looks at the endpoint being ready. -/
theorem tickReady_kept (active : Bool) (reading : TickReading) :
    Keeps (Kept floor) (tickReady active reading) := by
  refine triple_fetch fun session kept => triple_ite (fun ready => ?_) fun _ => ?_
  · simp only [Bool.and_eq_true, decide_eq_true_eq, Bool.not_eq_true'] at ready
    exact startMedia_kept reading.media ⟨kept, ready.1.1⟩ ready.1.2
  · exact (haltIf_kept _ _).imp (fun _ same => same ▸ kept) (fun _ _ after => after)
      fun _ _ after => after

/-- The end of a tick. -/
theorem tickStreaming_kept (reading : TickReading) :
    Keeps (Kept floor) (tickStreaming reading) := by
  refine triple_fetch fun session kept => ?_
  refine triple_haltIf (fun _ same => stopOnQueue_kept (same ▸ kept) _) fun _ => ?_
  refine triple_haltIf (fun _ same => stopOnQueue_kept (same ▸ kept) _) fun _ => ?_
  refine triple_returnIf (fun _ _ same => same ▸ kept) fun streaming => ?_
  have state : session.state = .streaming := by simpa using streaming
  refine triple_change (Kept floor) (fun current same => ?_)
    (keeps_method (applyPendingBitrate_kept reading.bitrate))
  have received : Triple (In floor .streaming) (receiveControls reading.controls)
      (fun _ => Kept floor) (fun _ => Kept floor) :=
    (receiveControls_in reading.controls).imp (fun _ inside => inside)
      (fun _ _ inside => inside.1) fun _ _ after => after
  exact Triple.after received (fun _ _ => id) (fun _ _ => id) (same ▸ ⟨kept, state⟩)

/-- A tick. -/
theorem tick_kept (reading : TickReading) : Keeps (Kept floor) (tick reading) := by
  refine keeps_bind keeps_read fun _ => keeps_bind (returnIf_kept _) fun _ => ?_
  refine keeps_bind (triple_modify fun _ kept => call_kept kept _) fun _ => ?_
  refine keeps_bind (triple_modify fun session kept => (others_in ⟨kept, rfl⟩ _).1) fun _ => ?_
  exact keeps_bind keeps_read fun _ => keeps_bind (haltIf_kept _ _) fun _ =>
    keeps_bind (haltIf_kept _ _) fun _ => keeps_bind (haltIf_kept _ _) fun _ =>
      keeps_bind (tickReady_kept _ reading) fun _ => tickStreaming_kept reading

/-- The start. -/
theorem start_kept (started : Bool) : Keeps (Kept floor) (start started) := by
  refine triple_fetch fun session kept => triple_returnIf (fun _ _ same => same ▸ kept)
    fun fresh => ?_
  have state : session.state = .prepared := by simpa using fresh
  exact triple_change (Kept floor) (fun _ same => same ▸ connecting_kept kept state)
    (haltIf_kept _ _)

/-- A key repeat. -/
theorem keyRepeat_kept (result : Input.InputResult) : Keeps (Kept floor) (keyRepeat result) := by
  refine triple_fetch fun session kept => triple_returnIf (fun _ _ same => same ▸ kept)
    fun streaming => ?_
  have state : session.state = .streaming := by simpa using streaming
  exact triple_change (Kept floor) (fun _ same => same ▸ (handled_in .keyRepeat ⟨kept, state⟩).1)
    (haltIf_kept _ _)

/-! ### The receiver -/

/-- A session with a receiver that is at a stage. -/
def Waits (floor : Nat) (stage : ReceiverStage) (session : PreviewSession) : Prop :=
  session.Kept floor ∧ session.receiver = stage

/-- It streams. -/
def Streams (floor : Nat) (stage : ReceiverStage) (session : PreviewSession) : Prop :=
  session.In floor .streaming ∧ session.receiver = stage

/-- It stops or has stopped. -/
def Halts (floor : Nat) (stage : ReceiverStage) (session : PreviewSession) : Prop :=
  session.Waits floor stage ∧ 3 ≤ session.state.rank

/-- A stop in the block that a packet is handed over to. -/
theorem halts {stage : ReceiverStage} (streams : session.Streams floor stage) (reason : String) :
    (stopOnQueue reason session).Halts floor stage :=
  ⟨⟨stopOnQueue_kept streams.1.1 reason, (stopOnQueue_receiver reason).trans streams.2⟩,
    stopOnQueue_halted reason⟩

/-- A packet is handled while the session streams. -/
theorem handleInput_streams (reading : InputReading) (received : InputReceived)
    {stage : ReceiverStage} :
    Triple (Streams floor stage) (handleInput reading received) (fun _ => Streams floor stage)
      (fun _ => Halts floor stage) := by
  cases received with
  | timeout => exact triple_pure fun _ streams => streams
  | failed result => exact triple_halt fun _ streams => halts streams _
  | clipboardOffer =>
    refine triple_change (Streams floor stage)
      (fun _ streams => ⟨handled_in .input streams.1, streams.2⟩) ?_
    exact triple_bind _ (triple_read fun _ streams => streams) fun _ =>
      triple_haltIf_end (fun _ streams => halts streams _) fun _ streams => streams
  | packet type =>
    refine triple_change (Streams floor stage)
      (fun _ streams => ⟨handled_in .input streams.1, streams.2⟩) ?_
    exact triple_haltIf_end (fun _ streams => halts streams _) fun _ streams => streams

/-- A packet is handed over. -/
theorem handOver_streams (reading : InputReading) (received : InputReceived) :
    Triple (Waits floor (.handing received)) (handOver reading received)
      (fun _ => Streams floor (.handing received)) (fun _ => Halts floor (.handing received)) := by
  refine triple_fetch fun session waits => triple_returnIf (fun ends current same => ?_)
    fun streaming => ?_
  · rw [same]
    refine ⟨waits, Nat.not_lt.mp fun running => ?_⟩
    have early : ¬session.state.rank < 2 := fun early =>
      absurd (waits.2.symm.trans (waits.1.stages.early early)) nofun
    have other : session.state ≠ .streaming := by simpa using ends
    cases state : session.state <;> simp_all
  · have state : session.state = .streaming := by simpa using streaming
    exact (handleInput_streams reading received).imp (fun _ same => same ▸ ⟨⟨waits.1, state⟩,
      waits.2⟩) (fun _ _ after => after) fun _ _ after => after

/-- The receiver goes from one stage to another. -/
theorem receiver_kept (kept : session.Kept floor) {next : ReceiverStage}
    (runs : session.receiver.running = true) (again : next.running = true)
    (goes : session.state = .streaming →
      next = .receiving ∨ ∃ received, next = .handing received)
    (leaves : next = .leaving → 3 ≤ session.state.rank) :
    Kept floor { session with receiver := next } := by
  have born {stage : ReceiverStage} (running : stage.running = true) : stage ≠ .unborn ∧
      ¬(stage = .exited ∨ stage = .notified) := by
    cases stage <;> simp_all [ReceiverStage.running]
  refine ⟨⟨kept.lawful, kept.above, kept.marks.receives (born runs).1 (born again).1
    (iff_of_false (born again).2 (born runs).2), kept.waiting,
    kept.stages.receives (born runs).1 goes (fun ends => leaves (ends.resolve_right
      (born again).2)) (.inl runs), kept.leased⟩, fun _ _ through => ?_⟩
  exact absurd (again.symm.trans through) nofun

/-- The thread after the block that it handed a packet to. -/
theorem afterHandOver_kept (reading : InputReading) (received : InputReceived)
    (waits : session.Waits floor (.handing received)) :
    (session.afterHandOver reading received).Kept floor := by
  have ended := handOver_streams reading received session waits
  unfold afterHandOver
  cases outcome : handOver reading received session with
  | mk result after =>
    rw [outcome] at ended
    cases result with
    | ok value =>
      obtain ⟨inside, stage⟩ := ended
      exact receiver_kept inside.1 (by rw [stage]; rfl) rfl (fun _ => .inl rfl) nofun
    | error error =>
      obtain ⟨⟨kept, stage⟩, halted⟩ := ended
      refine receiver_kept kept (by rw [stage]; rfl) rfl (fun streaming => ?_) fun _ => halted
      rw [streaming] at halted
      exact absurd halted (by decide)

/-- The thread leaves its group. -/
theorem receiverExits_kept (waits : session.Waits floor .leaving) :
    Kept floor { session.note .receiverExited with receiver := .exited } := by
  obtain ⟨kept, stage⟩ := waits
  have marks := kept.marks
  have stages := kept.stages
  rw [stage] at marks stages
  have halted := stages.leaving (.inl rfl)
  refine ⟨⟨kept.lawful.cons (show previewLaw _ .receiverExited from marks.received.mpr nofun),
    kept.above, marks.leaving, kept.waiting.cons rfl, stages.receives nofun (fun streaming => ?_)
      (fun _ => halted) (.inl rfl), kept.leased⟩, fun _ _ _ => rfl⟩
  rw [streaming] at halted
  exact absurd halted (by decide)

/-- The notification of the group runs. -/
theorem receiverNotified_kept (waits : session.Waits floor .exited) :
    ({ session with receiver := .notified }.finishStop).Kept floor := by
  obtain ⟨kept, stage⟩ := waits
  have marks := kept.marks
  have stages := kept.stages
  rw [stage] at marks stages
  have halted := stages.leaving (.inr (.inl rfl))
  refine finishStop_kept ⟨kept.lawful, kept.above, marks.receives nofun nofun (by simp),
    kept.waiting, stages.receives nofun (fun streaming => ?_) (fun _ => halted) (.inr rfl),
    kept.leased⟩
  rw [streaming] at halted
  exact absurd halted (by decide)

/-! ### Requests -/

/-- A takeover is refused. -/
theorem refuse_kept (kept : session.Kept floor) :
    Kept floor ({ session with requests := session.requests + 1 }.note
      (.completed session.requests false)) := by
  have fresh := kept.waiting.fresh
  exact ⟨⟨kept.lawful.cons (show previewLaw _ (.completed session.requests false) from
    ⟨fresh.2 false, fresh.1⟩), kept.above,
    kept.marks.aside (.inr (.inr ⟨session.requests, false, rfl⟩)), kept.waiting.refuse,
    kept.stages, kept.leased⟩, kept.awaited⟩

/-- A request without a completion is counted. -/
theorem count_kept (kept : session.Kept floor) :
    Kept floor { session with requests := session.requests + 1 } :=
  ⟨⟨kept.lawful, kept.above, kept.marks, kept.waiting.count, kept.stages, kept.leased⟩,
    kept.awaited⟩

/-- The completion of a request is kept. -/
theorem keep_kept (kept : session.Kept floor) (standing : session.state ≠ .stopped)
    (delayed : Nat) :
    Kept floor { session with
      requests := session.requests + 1
      log := .registered session.requests :: session.log
      stopCallbacks := session.stopCallbacks ++ [session.requests]
      delayed } :=
  ⟨⟨kept.lawful.cons (show previewLaw _ (.registered session.requests) from
    kept.waiting.fresh.2), kept.above, kept.marks.aside (.inr (.inl ⟨session.requests, rfl⟩)),
    kept.waiting.keep standing, kept.stages, kept.leased⟩, kept.awaited⟩

/-- A takeover is granted only while the lease stands, so only before the session stops. -/
theorem granted_standing (kept : session.Kept floor) {token : Option Auth.Text}
    {peer : Option Auth.Peer} {wait : Nat} {current again : Auth.GraphicalIdentity}
    (granted : (session.sessions.state.authorizeTakeoverToken token peer (some session.lease)
      (session.sessions.clock + wait) current again).2.isSome) : session.state ≠ .stopped := by
  intro stopped
  have ended := kept.leased.ended ((PreviewState.halted_iff _).mpr (.inr stopped))
  have called := (call_kept kept (.authorizeTakeoverToken token peer (some session.lease) wait
    current again)).leased
  have invariant := Auth.Session.preserves_invariant.reachable (fun _ start => start ▸ .start)
    called.reachable
  have past := called.ended ((PreviewState.halted_iff _).mpr (.inr stopped))
  exact (invariant.past session.lease past).2 (Auth.State.authorizeTakeoverToken_current granted)

/-- The block of a takeover. -/
theorem takeOver_kept (kept : session.Kept floor) (reading : TakeoverReading) :
    (session.takeOver reading).Kept floor := by
  have called := call_kept kept (.authorizeTakeoverToken reading.token reading.peer
    (some session.lease) reading.wait reading.current reading.again)
  unfold takeOver
  dsimp only
  split
  · exact refuse_kept kept
  · split
    · exact refuse_kept called
    · next granted =>
      have standing := granted_standing kept
        (Option.isSome_iff_ne_none.mpr (by simpa using granted))
      exact keep_kept called standing (session.delayed + 1)

/-- The block of a stop. -/
theorem stopWithCompletion_kept (kept : session.Kept floor) (completion : Bool) :
    (session.stopWithCompletion completion).Kept floor := by
  unfold stopWithCompletion
  dsimp only
  split
  · next stopped =>
    cases completion with
    | false => exact count_kept kept
    | true =>
      have fresh := kept.waiting.fresh
      have waiting := kept.waiting
      rw [stopped] at waiting
      have asked := kept.lawful.cons (show previewLaw _ (.registered session.requests) from
        fresh.2)
      refine ⟨⟨asked.cons (show previewLaw _ (.completed session.requests true) from
        ⟨by simpa using fresh.2 true, List.mem_cons_self, List.mem_cons_of_mem _
          (kept.marks.destroyed.mpr stopped)⟩), kept.above,
        (kept.marks.aside (.inr (.inl ⟨session.requests, rfl⟩))).aside
          (.inr (.inr ⟨session.requests, true, rfl⟩)), ?_, kept.stages, kept.leased⟩, kept.awaited⟩
      show Waiting _ session.state _ _
      rw [stopped]
      exact waiting.callAtOnce
  · next standing =>
    cases completion with
    | false => exact stopOnQueue_kept (count_kept kept) _
    | true => exact stopOnQueue_kept (keep_kept kept standing session.delayed) _

/-! ### Runs -/

/-- Every step keeps what holds. -/
theorem step_kept {after : PreviewSession} (kept : session.Kept floor) {label : Label}
    (stepped : session.step label = some after) : after.Kept floor := by
  cases label with
  | others action =>
    obtain rfl := Option.some.inj stepped
    exact call_kept kept action
  | start started =>
    obtain rfl := Option.some.inj stepped
    exact (start_kept started).after kept
  | tick reading =>
    obtain rfl := Option.some.inj stepped
    exact (tick_kept reading).after kept
  | captureCall call =>
    obtain ⟨_, same⟩ := Option.ite_none_right_eq_some.mp stepped
    obtain rfl := Option.some.inj same
    exact (captureCall_kept call).after kept
  | bitrateChanged index change =>
    obtain ⟨bitrate, _, rfl⟩ := Option.map_eq_some_iff.mp stepped
    exact (bitrateChanged_kept bitrate change).after kept
  | inputReceived received =>
    obtain ⟨stage, same⟩ := Option.ite_none_right_eq_some.mp stepped
    obtain rfl := Option.some.inj same
    exact receiver_kept kept (by rw [stage]; rfl) rfl (fun _ => .inr ⟨received, rfl⟩) nofun
  | handOver reading =>
    cases stage : session.receiver with
    | handing received =>
      simp only [step, stage, Option.some.injEq] at stepped
      rw [← stepped]
      exact afterHandOver_kept reading received ⟨kept, stage⟩
    | _ => simp [step, stage] at stepped
  | receiverExits =>
    obtain ⟨stage, same⟩ := Option.ite_none_right_eq_some.mp stepped
    obtain rfl := Option.some.inj same
    exact receiverExits_kept ⟨kept, stage⟩
  | receiverNotified =>
    obtain ⟨stage, same⟩ := Option.ite_none_right_eq_some.mp stepped
    obtain rfl := Option.some.inj same
    exact receiverNotified_kept ⟨kept, stage⟩
  | keyRepeat result =>
    obtain rfl := Option.some.inj stepped
    exact (keyRepeat_kept result).after kept
  | captureDrains =>
    obtain ⟨draining, same⟩ := Option.ite_none_right_eq_some.mp stepped
    obtain rfl := Option.some.inj same
    have marks := kept.marks
    have stages := kept.stages
    rw [draining] at marks stages
    exact ⟨⟨kept.lawful, kept.above, marks.drains, kept.waiting, stages.drains, kept.leased⟩,
      kept.awaited⟩
  | captureReports =>
    obtain ⟨drained, same⟩ := Option.ite_none_right_eq_some.mp stepped
    obtain rfl := Option.some.inj same
    have stages := kept.stages
    rw [drained] at stages
    have began : session.captureStarted = true := by
      cases began : session.captureStarted with
      | false => exact absurd (stages.idle began) nofun
      | true => rfl
    refine captureReported_kept kept.toSound began (by rw [drained]; decide) fun stopped => ?_
    have flag := (stages.stopped stopped).1
    rcases (stages.flag.mp flag).2 with missing | reported
    · exact absurd (began.symm.trans missing) nofun
    · cases reported
  | takeOver reading =>
    obtain rfl := Option.some.inj stepped
    exact takeOver_kept kept reading
  | delayedStop =>
    obtain ⟨_, same⟩ := Option.ite_none_left_eq_some.mp stepped
    have late : Kept floor { session with delayed := session.delayed - 1 } := kept
    rw [← Option.some.inj same]
    exact stopOnQueue_kept late "session-taken-over"
  | stop completion =>
    obtain rfl := Option.some.inj stepped
    exact stopWithCompletion_kept kept completion

/-- It holds when the session was made. -/
theorem made_kept {sessions : Auth.Session} {lease : Nat} (options : Options)
    (reachable : Auth.Session.system.Reachable sessions)
    (claimed : ∃ claim ∈ sessions.history.claims, claim.lease = lease) :
    (made sessions lease options).Kept 0 := by
  have marks : Marks [] .prepared false .idle .unborn options.announces := by
    constructor <;> simp
  have waiting : Waiting [] .prepared [] 0 := by
    constructor <;> simp
  have stages : Stages .prepared false false .idle true false options.announces options.announces
      .unborn := by
    constructor <;> simp
  exact ⟨⟨.nil, Nat.le_refl _, marks, waiting, stages, reachable, claimed, fun halted =>
    absurd halted (by decide : ¬3 ≤ 0)⟩, nofun⟩

/-- It holds in every reachable state. -/
theorem reachable_kept (reachable : system.Reachable session) : session.Kept 0 := by
  have steps : system.Preserves (Kept 0) := fun _ _ _ kept stepped => step_kept kept stepped
  refine steps.reachable ?_ reachable
  rintro first ⟨sessions, lease, options, ran, claimed, rfl⟩
  exact made_kept options ran claimed

end PreviewSession

/-! ### What holds of every run -/

/-- The life of a session, as far as it has come. -/
structure PreviewSession.Lifecycle (session : PreviewSession) : Prop where
  /-- A state is entered only from an earlier one. -/
  forward : ∀ later state earlier, session.log = later ++ .entered state :: earlier →
    0 < state.rank ∧ ∀ before, .entered before ∈ earlier → before.rank < state.rank
  /-- The session is in the last state that was entered. -/
  current : (session.state = .prepared ∨ .entered session.state ∈ session.log) ∧
    ∀ before, .entered before ∈ session.log → before.rank ≤ session.state.rank
  /-- Held input is released when the session has stopped to run, before the lease is ended; there
  is an input if there is a capture. -/
  released : ∀ later earlier, session.log = later ++ .leaseEnded :: earlier →
    .leaseEnded ∉ earlier ∧ ∃ input, .inputStopped input ∈ earlier ∧
      (.captureStarted ∈ session.log → input = true)
  /-- The lease is ended before the endpoint is stopped. -/
  revoked : ∀ later earlier, session.log = later ++ .endpointStopped :: earlier →
    .endpointStopped ∉ earlier ∧ .leaseEnded ∈ earlier
  /-- Both are done when the session stops. -/
  halted : .entered .stopping ∈ session.log → .endpointStopped ∈ session.log
  /-- The endpoint is destroyed once, at the end. -/
  destroyedOnce : session.log.count .endpointDestroyed = if session.state = .stopped then 1 else 0
  /-- It is destroyed only after the capture has drained and the receiver has exited. -/
  destroyed : ∀ later earlier, session.log = later ++ .endpointDestroyed :: earlier →
    (.captureStarted ∈ session.log → .captureDrained ∈ earlier) ∧
      (.receiverStarted ∈ session.log → .receiverExited ∈ earlier)
  /-- The receiver never waits in an endpoint that is gone. -/
  guarded : session.receiver.running = true → session.endpoint = true
  /-- `didStop` is called once, at the end. -/
  announced : session.log.count .didStop =
    if session.state = .stopped ∧ session.announces = true then 1 else 0
  /-- So is every completion that was kept. -/
  completed : ∀ request, .registered request ∈ session.log →
    session.log.count (.completed request true) = if session.state = .stopped then 1 else 0
  /-- No other completion is told of a stop, and a refusal is told once, to nobody else. -/
  answered : ∀ request,
    (.completed request true ∈ session.log → .registered request ∈ session.log) ∧
    (.completed request false ∈ session.log → .registered request ∉ session.log ∧
      session.log.count (.completed request false) = 1)
  /-- Nothing is handled once the session stops. -/
  quiet : ∀ later earlier, session.log = later ++ .entered .stopping :: earlier →
    ∀ kind, .handled kind ∉ later
  /-- A session does not wait when the capture has drained, the receiver has exited and the
  callbacks of both have run. -/
  finishes : session.state = .stopping →
    (session.captureStarted = true →
      session.captureStop = .drained ∨ session.captureStop = .reported) →
    session.receiver.running = false →
    session.captureStop = .drained ∨ session.receiver = .exited

section Lifecycle

variable {log later earlier : List PreviewEvent}

/-- What is not lawful once the session stops does not happen after it. -/
theorem not_after_stopping (lawful : Trace.Each previewLaw log) {event : PreviewEvent}
    (runs : ∀ before, previewLaw before event → .entered .stopping ∉ before)
    (split : log = later ++ earlier) (stopping : .entered .stopping ∈ earlier) :
    event ∉ later := by
  intro member
  obtain ⟨newer, older, rfl⟩ := List.append_of_mem member
  refine runs _ (lawful newer event (older ++ earlier) ?_) (List.mem_append_right _ stopping)
  rw [split, List.append_assoc, List.cons_append]

/-- So it happened before. -/
theorem before_stopping (lawful : Trace.Each previewLaw log) {event last : PreviewEvent}
    (runs : ∀ before, previewLaw before event → .entered .stopping ∉ before)
    (split : log = later ++ last :: earlier) (stopping : .entered .stopping ∈ earlier)
    (other : event ≠ last) (member : event ∈ log) : event ∈ earlier := by
  rw [split] at member
  rcases List.mem_append.mp member with new | old
  · exact absurd new (not_after_stopping lawful runs split (List.mem_cons_of_mem _ stopping))
  · exact List.mem_of_ne_of_mem other old

/-- What happens at most once was counted once if it happened. -/
theorem count_eq (lawful : Trace.Each previewLaw log) {event : PreviewEvent}
    (once : ∀ before, previewLaw before event → event ∉ before) {condition : Prop}
    [Decidable condition] (happened : event ∈ log ↔ condition) :
    log.count event = if condition then 1 else 0 := by
  have most := lawful.count_le once
  split
  · next holds =>
    exact Nat.le_antisymm most (List.count_pos_iff.mpr (happened.mpr holds))
  · next fails =>
    exact List.count_eq_zero.mpr fun member => fails (happened.mp member)

end Lifecycle

namespace PreviewSession

variable {floor : Nat} {session : PreviewSession}

/-- What holds between two blocks says what the life of a session is. -/
theorem Kept.lifecycle (kept : session.Kept floor) : session.Lifecycle where
  forward later state earlier split := kept.lawful later _ earlier split
  current := by
    refine ⟨?_, kept.marks.entered⟩
    by_cases fresh : session.state = .prepared
    · exact .inl fresh
    · exact .inr (kept.marks.current fresh)
  released later earlier split := by
    obtain ⟨once, input, released⟩ := kept.lawful later _ earlier split
    refine ⟨once, input, released, fun captured => ?_⟩
    cases input with
    | true => rfl
    | false =>
      have member : .inputStopped false ∈ session.log := by
        rw [split]
        exact List.mem_append_right _ (List.mem_cons_of_mem _ released)
      exact absurd ((kept.marks.held member).symm.trans (kept.marks.captured.mp captured)) nofun
  revoked later earlier split := kept.lawful later _ earlier split
  halted stopping := kept.marks.halted.mpr (kept.marks.stopping.mp stopping)
  destroyedOnce :=
    @count_eq _ kept.lawful .endpointDestroyed (fun _ law => law.1) _ _ kept.marks.destroyed
  destroyed later earlier split := by
    obtain ⟨_, stopping, _, captured, received⟩ := kept.lawful later _ earlier split
    exact ⟨fun member => captured (@before_stopping _ later earlier kept.lawful .captureStarted _
      (fun _ law => law) split stopping nofun member),
      fun member => received (@before_stopping _ later earlier kept.lawful .receiverStarted _
      (fun _ law => law) split stopping nofun member)⟩
  guarded runs := kept.stages.endpoint.mpr fun stopped =>
    absurd ((kept.stages.stopped stopped).2.symm.trans runs) nofun
  announced := @count_eq _ kept.lawful .didStop (fun _ law => law.1) _ _ kept.marks.announced
  completed request registered := by
    refine @count_eq _ kept.lawful (.completed request true) (fun _ law => law.1) _ _
      ⟨kept.waiting.answered request, fun stopped => ?_⟩
    by_contra uncalled
    have held := (kept.waiting.held request).mpr ⟨registered, uncalled⟩
    rw [kept.waiting.done stopped] at held
    exact absurd held List.not_mem_nil
  answered request := by
    refine ⟨fun called => ?_, fun refused => ⟨?_, ?_⟩⟩
    · obtain ⟨earlier, law, before⟩ := kept.lawful.mem called
      exact before (.registered request) law.2.1
    · exact @Trace.Each.exclusive _ _ _ kept.lawful (.completed request false)
        (.registered request) nofun (fun _ law => law.2) (fun _ law => law false) refused
    · exact @count_eq _ kept.lawful (.completed request false) (fun _ law => law.1) True _
        (iff_true_intro refused)
  quiet later earlier split kind := by
    have again : session.log = later ++ ([.entered .stopping] ++ earlier) := split
    exact @not_after_stopping _ later _ kept.lawful (.handled kind) (fun _ law => law) again
      List.mem_cons_self
  finishes stopping drained through := by
    by_contra none
    obtain ⟨undrained, stays⟩ := not_or.mp none
    refine stays (kept.awaited stopping (kept.stages.flag.mpr ⟨?_, ?_⟩) through)
    · rw [stopping]
      decide
    · cases began : session.captureStarted with
      | false => exact .inl rfl
      | true => exact .inr ((drained began).resolve_left undrained)

/-- Every session keeps its life, and its state never goes back. -/
theorem preview_lifecycle : (∀ session, system.Reachable session → session.Lifecycle) ∧
    ∀ before after, system.Reachable before → system.Reaches before after →
      before.state.rank ≤ after.state.rank := by
  refine ⟨fun session reachable => (reachable_kept reachable).lifecycle,
    fun before after reachable reaches => ?_⟩
  have kept := reachable_kept reachable
  have here : before.Kept before.state.rank :=
    ⟨{ kept.toSound with above := Nat.le_refl _ }, kept.awaited⟩
  have steps : system.Preserves (Kept before.state.rank) :=
    fun _ _ _ kept stepped => step_kept kept stepped
  exact (steps.reaches here reaches).above

/-- The owner of a desktop logs in from one peer. -/
def sampleLogin (conversation token : UInt16) : List Auth.Action :=
  [.start (some [192, 0, 2, 1]) (some [97]) 1 Auth.sampleScope 0
      (some (.replicate 44 conversation)),
    .respond (some [192, 0, 2, 1]) (some (.replicate 44 conversation)) 1 Auth.sampleScope 0,
    .verified 0 .verified ⟨501, 7⟩ 2 Auth.sampleScope 0 (some (.replicate 44 token)),
    .respondFinally]

/-- The owner logs in and claims a lease. -/
def sampleCalls : List Auth.Action :=
  sampleLogin 65 66 ++ [.claimToken (some (.replicate 44 66)) (some [192, 0, 2, 1]) 1
    Auth.sampleScope 0 Auth.sampleScope Auth.sampleScope 0 (some [67])]

/-- The authentication sessions after that. -/
def sampleSessions : Auth.Session := (Auth.Session.system.run {} sampleCalls).getD {}

/-- The session of that lease. -/
def samplePreview : PreviewSession := made sampleSessions 0 ⟨true, true, false, false, false, 20000⟩

/-- A tick in which the endpoint is ready and the capture starts at once. -/
def sampleTick : TickReading where
  wait := 1
  current := Auth.sampleScope
  meanwhile := []
  topologySame := true
  transport := .ready
  media := ⟨[], 1, Auth.sampleScope, true, true, 0, [.started 40000 true]⟩
  available := true
  now := 0
  controls := [.packet (some ⟨3, []⟩) true 0]
  bitrate := ⟨0, true, none⟩

/-- The session streams, is taken over by another login of its owner, and ends. -/
def sampleLabels : List Label := List.flatten
  [[.start true, .tick sampleTick, .inputReceived (.packet 5), .handOver ⟨true, .event⟩],
    (sampleLogin 68 69).map .others,
    [.takeOver ⟨true, some (.replicate 44 69), some [192, 0, 2, 1], 1, Auth.sampleScope,
        Auth.sampleScope⟩, .stop true, .delayedStop, .keyRepeat .event, .inputReceived .timeout,
      .handOver ⟨true, .event⟩, .receiverExits, .receiverNotified, .captureDrains,
      .captureReports]]

/-- What an observer sees of it, newest first. -/
def sampleLog : List PreviewEvent :=
  [.completed 1 true, .completed 0 true, .didStop, .entered .stopped, .endpointDestroyed,
    .captureDrained, .receiverExited, .endpointStopped, .leaseEnded, .inputStopped true,
    .entered .stopping, .registered 1, .registered 0, .handled .input, .handled .control,
    .receiverStarted, .entered .streaming, .captureStarted, .entered .connecting]

/-- The life of that session. -/
theorem sample_lifecycle :
    ∃ session : PreviewSession, session.log = sampleLog ∧ session.Lifecycle := by
  obtain ⟨sessions, called⟩ := Option.isSome_iff_exists.mp
    (show (Auth.Session.system.run {} sampleCalls).isSome = true by decide +kernel)
  have same : sampleSessions = sessions := by rw [sampleSessions, called]; rfl
  have start : system.initial samplePreview :=
    ⟨sampleSessions, 0, _, same ▸ Transition.System.reachable_of_run rfl called,
      by decide +kernel, rfl⟩
  obtain ⟨session, ran, logged⟩ := Option.map_eq_some_iff.mp
    (show (system.run samplePreview sampleLabels).map (fun session => session.log) =
      some sampleLog by decide +kernel)
  exact ⟨session, logged,
    preview_lifecycle.1 session (Transition.System.reachable_of_run start ran)⟩

end PreviewSession

end Plank.Preview
