import Plank.Camera.Effect

/-!
# Key frames are requested while they are missing

While an activation is current the lane asks for a key frame exactly while it waits for one, so a
lane that discards dependent frames never does so silently. Whatever breaks the chain of frames
leaves both flags set, unless a key frame is the first that will be handed out afterwards.
-/

namespace Plank.Camera

open Plank.Transport (Availability Status Output)

/-- What the flags of a lane have to do with each other. -/
structure Keyed (lane : State) : Prop where
  /-- A current activation asks for what it waits for. -/
  matched : lane.generation ≠ 0 → lane.waitingForKey = lane.requestKey
  /-- The queue has the format of the activation. -/
  formats : ∀ entry ∈ lane.packets, lane.format = some entry.2.format
  /-- Only an agreed lane is available. -/
  agreed : lane.status ≠ .unavailable → lane.enabled = true
  /-- A failed lane is off. -/
  ended : lane.status = .failed → lane.generation = 0

namespace Keyed

variable {lane after : State} {now capacity : Nat}

/-- The untouched lane. -/
theorem start : Keyed {} where
  matched active := absurd rfl active
  formats := by simp
  agreed available := absurd rfl available
  ended _ := rfl

/-- A gap sets both flags or neither. -/
theorem gap (keyed : Keyed lane) : Keyed lane.gap := by
  rw [State.gap_eq]
  exact {
    matched := fun active => by
      dsimp only
      rw [keyed.matched active]
    formats := by simp
    agreed := keyed.agreed
    ended := keyed.ended }

/-- Pruning keeps the flags matched. -/
theorem pruned (keyed : Keyed lane) (pruned : State.Pruned now lane after) : Keyed after := by
  cases pruned with
  | kept young => exact keyed
  | emptied =>
    have empty : Keyed { lane with packets := [] } := { keyed with formats := by simp }
    exact empty.gap
  | cut lost arrival packet rest split young independent =>
    refine { keyed with formats := ?_ }
    have formats := keyed.formats
    rw [split] at formats
    intro entry member
    rcases List.mem_cons.mp member with rfl | behind
    · exact formats (arrival, packet) (by simp)
    · exact formats entry (by simp [behind])

/-- Taking a record out keeps the flags matched. -/
theorem taken (keyed : Keyed lane) {record : Option (Nat × Record)}
    (taken : State.Taken now lane after record) : Keyed after := by
  cases taken with
  | untouched => exact keyed
  | nothing after pruned => exact keyed.pruned pruned
  | front middle arrival packet rest pruned held =>
    have middle := keyed.pruned pruned
    refine { middle with formats := fun entry member => middle.formats entry ?_ }
    rw [held]
    exact List.mem_cons_of_mem _ member

/-- A push keeps the flags matched. -/
theorem pushed (keyed : Keyed lane) {packet : Record} {status : Status}
    (pushed : State.Pushed now packet capacity lane after status) : Keyed after := by
  cases pushed with
  | refused status refusal => exact keyed
  | discarded gap accepts dependent waiting =>
    have matched := keyed.matched accepts.active
    rw [State.arranged_eq] at waiting ⊢
    refine { keyed with matched := fun _ => waiting, formats := fun entry member => ?_ }
    cases gap with
    | true => exact absurd member (by simp)
    | false => exact congrArg some (accepts.format _ (keyed.formats entry member))
  | queued gap queued status accepts follows usable marked noted =>
    have matched := keyed.matched accepts.active
    rw [State.arranged_eq]
    refine { keyed with
      matched := fun _ => by
        dsimp only
        rw [matched]
      formats := fun entry member => ?_ }
    rcases List.mem_append.mp member with old | new
    · cases gap with
      | true => exact absurd old (by simp)
      | false => exact congrArg some (accepts.format _ (keyed.formats entry old))
    · obtain rfl := List.mem_singleton.mp new
      have format : queued.format = packet.format := by
        rw [marked]
        split <;> rfl
      exact congrArg some format.symm

/-- An activation waits for a key frame and asks for it. -/
theorem activated (keyed : Keyed lane) (generation : UInt64) (running : lane.status ≠ .failed) :
    Keyed (lane.activated generation) where
  matched active := (decide_eq_true active).symm
  formats := by simp [State.activated]
  agreed := keyed.agreed
  ended failed := absurd failed running

end Keyed

namespace State

variable {lane after : State} {now capacity : Nat} {packet : Record} {status : Status}

/-- The push goes through, and its record does not follow on. -/
structure Breaks (lane : State) (packet : Record) (capacity : Nat) : Prop where
  /-- No check refuses it. -/
  passed : lane.refuses packet = false
  /-- It has the format of the activation. -/
  format : lane.format.any (· ≠ packet.format) = false
  /-- Its codec has dependent frames. -/
  codec : (packet.format.codec == h264) = true
  /-- Records are missing before it, or it announces that, or the queue is full. -/
  broken : (lane.lastSequence.any fun last => packet.sequence ≠ last + 1) = true ∨
    packet.discontinuous = true ∨ lane.packets.length = capacity

/-- The push goes through, and its record follows on. -/
structure Continues (lane : State) (packet : Record) (capacity : Nat) : Prop where
  /-- No check refuses it. -/
  passed : lane.refuses packet = false
  /-- It has the format of the activation. -/
  format : lane.format.any (· ≠ packet.format) = false
  /-- No record is missing before it. -/
  follows : (lane.lastSequence.any fun last => packet.sequence ≠ last + 1) = false
  /-- It announces no discontinuity. -/
  continuous : packet.discontinuous = false
  /-- There is room. -/
  room : lane.packets.length ≠ capacity

/-- While the lane does not wait, a record that follows on is queued. -/
theorem Continues.push (continues : lane.Continues packet capacity)
    (ready : lane.waitingForKey = false) (now : Nat) :
    ∃ queued, (lane.push now packet capacity).1.packets = lane.packets ++ [(now, queued)] ∧
      (queued = packet ∨ queued = packet.mark) := by
  unfold State.push
  rw [if_neg (by rw [continues.passed]; simp), if_neg (by rw [continues.format]; simp)]
  dsimp only
  rw [continues.follows, continues.continuous, decide_eq_false continues.room]
  cases keyed : packet.key <;> cases lane.discontinuity <;> simp [keyed, ready]

/-- A break leaves a key frame alone in the queue, or both flags set. -/
theorem Breaks.push (breaks : lane.Breaks packet capacity) (now : Nat) :
    (packet.key = true →
      (lane.push now packet capacity).1.packets = [(now, packet.mark)]) ∧
    (packet.key = false → (lane.push now packet capacity).1.waitingForKey = true ∧
      (lane.push now packet capacity).1.requestKey = true) := by
  have gap : ((lane.lastSequence.any fun last => packet.sequence ≠ last + 1) ||
      packet.discontinuous || decide (lane.packets.length = capacity)) = true := by
    rcases breaks.broken with missing | announced | full
    · rw [missing]
      rfl
    · rw [announced, Bool.or_true, Bool.true_or]
    · rw [decide_eq_true full, Bool.or_true]
  unfold State.push
  rw [if_neg (by rw [breaks.passed]; simp), if_neg (by rw [breaks.format]; simp)]
  dsimp only
  rw [gap]
  refine ⟨fun key => ?_, fun delta => ?_⟩
  · simp [gap_eq, Record.dependent, key]
  · have codec : (packet.mark.format.codec == h264) = true := breaks.codec
    simp [gap_eq, Record.dependent, delta, breaks.codec, codec]

/-- A dependent record is not queued while the lane waits. -/
theorem Pushed.discards (pushed : Pushed now packet capacity lane after status)
    (waiting : lane.waitingForKey = true) (dependent : packet.dependent = true) :
    ∀ entry ∈ after.packets, entry ∈ lane.packets := by
  cases pushed with
  | refused status refusal => exact fun entry member => member
  | discarded gap accepts dependent waiting =>
    intro entry member
    rw [arranged_eq] at member
    cases gap with
    | true => exact absurd member (by simp)
    | false => exact member
  | queued gap queued status accepts follows usable marked noted =>
    have ready := usable dependent
    rw [arranged_eq] at ready
    simp [waiting] at ready

/-- An accepted key frame clears both flags. -/
theorem Pushed.clears (pushed : Pushed now packet capacity lane after status)
    (key : packet.key = true) (taken : status.taken = true) :
    after.waitingForKey = false ∧ after.requestKey = false := by
  cases pushed with
  | refused status refusal =>
    rw [taken] at refusal
    exact absurd refusal (by simp)
  | discarded gap accepts dependent waiting => simp [Record.dependent, key] at dependent
  | queued gap queued status accepts follows usable marked noted => simp [key]

/-- The front of the queue is too old. -/
def Aged (lane : State) (now : Nat) : Prop :=
  ∃ front, lane.packets.head? = some front ∧ expired now front.1 = true

/-- Pruning an aged H.264 queue leaves a marked key frame in front, or both flags set. -/
theorem Aged.pruned (aged : lane.Aged now) (pruned : Pruned now lane after)
    (keyed : Keyed lane) (codec : lane.format.all (·.codec == h264) = true) :
    (after.waitingForKey = true ∧ after.requestKey = true) ∨
      ∃ arrival key rest, after.packets = (arrival, key) :: rest ∧ key.key = true ∧
        key.discontinuous = true ∧ expired now arrival = false := by
  obtain ⟨front, found, old⟩ := aged
  cases pruned with
  | kept young => exact absurd (young front found) (by simp [old])
  | emptied =>
    left
    simp [gap_eq, codec]
  | cut lost arrival packet rest split young independent =>
    refine .inr ⟨arrival, packet.mark, rest, rfl, ?_, packet.mark_discontinuous, young⟩
    have format := keyed.formats (arrival, packet) (by rw [split]; simp)
    rw [format, Option.all_some] at codec
    rw [Record.mark_key]
    simpa [Record.dependent, codec] using independent

/-- A pop hands out the front of the pruned queue and leaves the rest. -/
theorem pop_line (lane : State) (now : Nat) :
    (lane.pop now).2.toList ++ (lane.pop now).1.packets = (lane.prune now).packets ∧
      (lane.pop now).1.waitingForKey = (lane.prune now).waitingForKey ∧
      (lane.pop now).1.requestKey = (lane.prune now).requestKey := by
  unfold pop
  dsimp only
  split
  · next held => exact ⟨by rw [held]; rfl, rfl, rfl⟩
  · next held => exact ⟨by rw [held]; rfl, rfl, rfl⟩

/-- So does a receive call that looks at the queue. -/
theorem receive_line (lane : State) (now : Nat) {output : Output} (sized : output.sizeOut = true) :
    ((lane.receive now true output).2.copied.map fun copied => (copied.1, copied.2.1)).toList ++
        (lane.receive now true output).1.packets = (lane.prune now).packets ∧
      (lane.receive now true output).1.waitingForKey = (lane.prune now).waitingForKey ∧
      (lane.receive now true output).1.requestKey = (lane.prune now).requestKey := by
  unfold receive
  simp only [Bool.not_true, Bool.false_eq_true, ↓reduceIte, sized]
  split
  · next held => exact ⟨rfl, rfl, rfl⟩
  · next arrival front rest held =>
    split
    · split
      · exact ⟨by rw [held]; rfl, rfl, rfl⟩
      · exact ⟨rfl, rfl, rfl⟩
    · exact ⟨rfl, rfl, rfl⟩

end State

namespace Session

variable {capacity : Nat} {session : Session}

/-- The records a step hands out. -/
def handed (session : Session) : Action → List (Nat × Record)
  | .pop => (session.lane.pop session.now).2.toList
  | .receive serving output =>
    ((session.lane.receive session.now serving output).2.copied.map fun copied =>
      (copied.1, copied.2.1)).toList
  | _ => []

/-- The step breaks the chain of H.264 frames: a hole, a record that does not follow on, or a front
that is too old. -/
def Breaks (capacity : Nat) (session : Session) : Action → Prop
  | .hole => True
  | .push packet => session.lane.Breaks packet capacity
  | .pop => session.lane.Aged session.now
  | .receive serving output =>
    serving = true ∧ output.sizeOut = true ∧ session.lane.Aged session.now
  | _ => False

/-- When a lane asks for a key frame. -/
structure KeyLaw (capacity : Nat) (session : Session) : Prop where
  /-- An activation that can stream asks for a key frame exactly while it waits for one. -/
  matched : session.lane.status = .ready → session.lane.generation ≠ 0 →
    session.lane.waitingForKey = session.lane.requestKey ∧
      session.lane.keyframeNeeded =
        if session.lane.waitingForKey then session.lane.generation else 0
  /-- While it waits no dependent record is queued. -/
  discards : session.lane.waitingForKey = true → ∀ packet : Record, packet.dependent = true →
    ∀ entry ∈ (session.lane.push session.now packet capacity).1.packets,
      entry ∈ session.lane.packets
  /-- While it does not, a record that follows on is queued. -/
  queues : session.lane.waitingForKey = false → ∀ packet : Record,
    session.lane.Continues packet capacity → ∃ queued,
      (session.lane.push session.now packet capacity).1.packets =
        session.lane.packets ++ [(session.now, queued)] ∧
      (queued = packet ∨ queued = packet.mark)
  /-- An accepted key frame ends the wait and the request. -/
  clears : ∀ packet : Record, packet.key = true →
    (session.lane.push session.now packet capacity).2.taken = true →
      (session.lane.push session.now packet capacity).1.waitingForKey = false ∧
        (session.lane.push session.now packet capacity).1.requestKey = false
  /-- A break sets both flags, or what follows it begins with a key frame that announces it. -/
  breaks : session.lane.status = .ready → session.lane.generation ≠ 0 →
    session.lane.format.all (·.codec == h264) = true →
    ∀ action after, session.Breaks capacity action →
      (system capacity).step session action = some after →
      (after.lane.waitingForKey = true ∧ after.lane.requestKey = true) ∨
        ∃ arrival key, (session.handed action ++ after.lane.packets).head? = some (arrival, key) ∧
          key.key = true ∧ key.discontinuous = true
  /-- A failed lane stays off. -/
  failed : session.lane.status = .failed → ∀ later, (system capacity).Reaches session later →
    later.lane.status = .failed ∧ later.lane.generation = 0 ∧
      (∀ generation, later.lane.activate generation = (later.lane, false)) ∧
      later.lane.keyframeNeeded = 0

/-- Every step keeps the flags matched. -/
theorem keyed_step (capacity : Nat) :
    (system capacity).Preserves fun session => Keyed session.lane := by
  intro before action after keyed stepped
  cases action with
  | enable microphoneNegotiated version opened microphone =>
    obtain rfl := Option.some.inj stepped
    obtain ⟨enabled, version, status, negotiated, effect, changed⟩ :=
      before.lane.enable_effect microphoneNegotiated version opened microphone
    dsimp only
    rw [effect]
    refine { keyed with agreed := ?_, ended := ?_ }
    · rcases changed with ⟨rfl, rfl⟩ | ⟨_, rfl, rfl⟩
      · exact keyed.agreed
      · exact fun _ => rfl
    · rcases changed with ⟨rfl, rfl⟩ | ⟨_, rfl, rfl⟩
      · exact keyed.ended
      · exact fun failed => absurd failed (by simp)
  | opened =>
    simp only [system, step, Option.ite_none_right_eq_some, Option.some.injEq] at stepped
    obtain ⟨opening, rfl⟩ := stepped
    exact { keyed with
      agreed := fun _ => keyed.agreed (by simp [opening])
      ended := fun failed => absurd failed (by simp [State.opened]) }
  | failed =>
    simp only [system, step, Option.ite_none_right_eq_some, Option.some.injEq] at stepped
    obtain ⟨available, rfl⟩ := stepped
    refine {
      matched := fun active => absurd rfl active
      formats := by simp [State.failed]
      agreed := fun _ => keyed.agreed ?_
      ended := fun _ => rfl }
    rcases available with opening | ready
    · simp [opening]
    · simp [ready]
  | activate generation =>
    simp only [system, step] at stepped
    rcases before.lane.activate_effect generation with rejected | ⟨running, _, accepted⟩
    · rw [rejected] at stepped
      obtain rfl := Option.some.inj stepped
      exact keyed
    · rw [accepted] at stepped
      obtain rfl := Option.some.inj stepped
      exact keyed.activated generation running
  | push packet =>
    obtain rfl := Option.some.inj stepped
    exact keyed.pushed (before.lane.push_effect before.now packet capacity)
  | pop =>
    obtain rfl := Option.some.inj stepped
    exact keyed.taken (State.pop_effect _ _)
  | receive serving output =>
    obtain rfl := Option.some.inj stepped
    exact keyed.taken (State.receive_effect _ _ _ _)
  | hole =>
    obtain rfl := Option.some.inj stepped
    exact keyed.gap
  | tick nanoseconds =>
    obtain rfl := Option.some.inj stepped
    exact keyed

/-- The flags are matched in every reachable session. -/
theorem reachable_keyed (reachable : (system capacity).Reachable session) : Keyed session.lane := by
  refine (keyed_step capacity).reachable ?_ reachable
  rintro session rfl
  exact Keyed.start

/-- The lane ended with an error. -/
structure Off (lane : State) : Prop where
  /-- It failed. -/
  status : lane.status = .failed
  /-- No activation is current. -/
  muted : lane.generation = 0
  /-- It was agreed. -/
  agreed : lane.enabled = true

/-- Taking a record out does not revive a lane. -/
theorem Off.taken {now : Nat} {lane after : State} {record : Option (Nat × Record)} (off : Off lane)
    (taken : State.Taken now lane after record) : Off after := by
  have pruned : ∀ {middle : State}, State.Pruned now lane middle → Off middle := by
    intro middle pruned
    obtain ⟨_, _, _, frame⟩ := pruned.frame
    rw [frame]
    exact ⟨off.status, off.muted, off.agreed⟩
  cases taken with
  | untouched => exact off
  | nothing after cleaned => exact pruned cleaned
  | front middle arrival packet rest cleaned held =>
    have middle := pruned cleaned
    exact ⟨middle.status, middle.muted, middle.agreed⟩

/-- A push is refused. -/
theorem Off.pushed {now capacity : Nat} {lane after : State} {packet : Record} {status : Status}
    (off : Off lane) (pushed : State.Pushed now packet capacity lane after status) : Off after := by
  cases pushed with
  | refused status refusal => exact off
  | discarded gap accepts dependent waiting => exact absurd off.muted accepts.active
  | queued gap queued status accepts follows usable marked noted =>
    exact absurd off.muted accepts.active

/-- No step revives a lane. -/
theorem off_step (capacity : Nat) : (system capacity).Preserves fun session => Off session.lane := by
  intro before action after off stepped
  cases action with
  | enable microphoneNegotiated version opened microphone =>
    obtain rfl := Option.some.inj stepped
    obtain ⟨enabled, version, status, negotiated, effect, changed⟩ :=
      before.lane.enable_effect microphoneNegotiated version opened microphone
    dsimp only
    rw [effect]
    rcases changed with ⟨rfl, rfl⟩ | ⟨never, _⟩
    · exact ⟨off.status, off.muted, off.agreed⟩
    · rw [off.agreed] at never
      exact absurd never (by simp)
  | opened =>
    simp only [system, step, Option.ite_none_right_eq_some] at stepped
    rw [off.status] at stepped
    exact absurd stepped.1 (by simp)
  | failed =>
    simp only [system, step, Option.ite_none_right_eq_some] at stepped
    rw [off.status] at stepped
    exact absurd stepped.1 (by simp)
  | activate generation =>
    simp only [system, step] at stepped
    rcases before.lane.activate_effect generation with rejected | ⟨running, _⟩
    · rw [rejected] at stepped
      obtain rfl := Option.some.inj stepped
      exact off
    · exact absurd off.status running
  | push packet =>
    obtain rfl := Option.some.inj stepped
    exact off.pushed (before.lane.push_effect before.now packet capacity)
  | pop =>
    obtain rfl := Option.some.inj stepped
    exact off.taken (State.pop_effect _ _)
  | receive serving output =>
    obtain rfl := Option.some.inj stepped
    exact off.taken (State.receive_effect _ _ _ _)
  | hole =>
    obtain rfl := Option.some.inj stepped
    dsimp only
    rw [State.gap_eq]
    exact ⟨off.status, off.muted, off.agreed⟩
  | tick nanoseconds =>
    obtain rfl := Option.some.inj stepped
    exact off

/-- A break of the chain is asked for or repaired in its own step. -/
theorem Breaks.repaired (keyed : Keyed session.lane)
    (codec : session.lane.format.all (·.codec == h264) = true) {action : Action} {after : Session}
    (breaks : session.Breaks capacity action)
    (stepped : (system capacity).step session action = some after) :
    (after.lane.waitingForKey = true ∧ after.lane.requestKey = true) ∨
      ∃ arrival key, (session.handed action ++ after.lane.packets).head? = some (arrival, key) ∧
        key.key = true ∧ key.discontinuous = true := by
  cases action with
  | hole =>
    obtain rfl := Option.some.inj stepped
    left
    simp [State.gap_eq, codec]
  | push packet =>
    obtain rfl := Option.some.inj stepped
    obtain ⟨repaired, asked⟩ := State.Breaks.push breaks session.now
    cases key : packet.key with
    | true =>
      refine .inr ⟨session.now, packet.mark, ?_, by rw [packet.mark_key, key],
        packet.mark_discontinuous⟩
      show (State.push session.lane session.now packet capacity).1.packets.head? = _
      rw [repaired key]
      rfl
    | false => exact .inl (asked key)
  | pop =>
    obtain rfl := Option.some.inj stepped
    obtain ⟨line, waiting, request⟩ := session.lane.pop_line session.now
    rcases State.Aged.pruned breaks (session.lane.prune_effect session.now) keyed codec with
      ⟨waits, requests⟩ | ⟨arrival, key, rest, front, isKey, announced, _⟩
    · exact .inl ⟨waiting.trans waits, request.trans requests⟩
    · refine .inr ⟨arrival, key, (congrArg List.head? line).trans ?_, isKey, announced⟩
      rw [front]
      rfl
  | receive serving output =>
    obtain rfl := Option.some.inj stepped
    obtain ⟨rfl, sized, aged⟩ := breaks
    obtain ⟨line, waiting, request⟩ := session.lane.receive_line session.now sized
    rcases aged.pruned (session.lane.prune_effect session.now) keyed codec with
      ⟨waits, requests⟩ | ⟨arrival, key, rest, front, isKey, announced, _⟩
    · exact .inl ⟨waiting.trans waits, request.trans requests⟩
    · refine .inr ⟨arrival, key, (congrArg List.head? line).trans ?_, isKey, announced⟩
      rw [front]
      rfl
  | enable microphoneNegotiated version opened microphone => exact breaks.elim
  | opened => exact breaks.elim
  | failed => exact breaks.elim
  | activate generation => exact breaks.elim
  | tick nanoseconds => exact breaks.elim

/-- In every reachable session a lane asks for key frames as it should. -/
theorem reachable_keyLaw {capacity : Nat} {session : Session}
    (reachable : (system capacity).Reachable session) : KeyLaw capacity session := by
  have keyed := reachable_keyed reachable
  refine ⟨?_, ?_, ?_, ?_, ?_, ?_⟩
  · intro ready active
    have matched := keyed.matched active
    refine ⟨matched, ?_⟩
    unfold State.keyframeNeeded
    rw [matched]
    simp [ready]
  · intro waiting packet dependent
    exact (session.lane.push_effect session.now packet capacity).discards waiting dependent
  · intro ready packet continues
    exact continues.push ready session.now
  · intro packet key taken
    exact (session.lane.push_effect session.now packet capacity).clears key taken
  · intro _ _ codec action after breaks stepped
    exact breaks.repaired keyed codec stepped
  · intro failed later reaches
    have off : Off session.lane :=
      ⟨failed, keyed.ended failed, keyed.agreed (by simp [failed])⟩
    have still := (off_step capacity).reaches off reaches
    refine ⟨still.status, still.muted, fun generation => ?_, ?_⟩
    · rcases later.lane.activate_effect generation with rejected | ⟨running, _⟩
      · exact rejected
      · exact absurd still.status running
    · simp [State.keyframeNeeded, still.status]

/-- A 720p H.264 frame of activation 1. -/
def keysFrame (flags : UInt8) (sequence : UInt64) : Record where
  format := .native ⟨h264, 1280, 720, 1, 1, 1, 1⟩
  flags
  generation := 1
  sequence
  captureTimeUs := 1000 * (sequence + 1)
  driverSequence := some 0
  payload := [0]

/-- A key frame is sent and the wire reports a hole. -/
def keysRun : List Action :=
  [.enable 0 1 true false, .opened, .activate 1, .push (keysFrame keyFrame 0), .pop, .hole]

/-- After the hole the lane asks for a key frame. -/
theorem sample_keyLaw : ∃ session : Session, session.lane.keyframeNeeded = 1 ∧
    KeyLaw receiveFrames session :=
  ⟨_, rfl, reachable_keyLaw (Transition.System.reachable_of_run rfl
    (show (system receiveFrames).run {} keysRun = some _ from rfl))⟩

end Session

end Plank.Camera
