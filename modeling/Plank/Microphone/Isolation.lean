import Plank.Microphone.Lane

/-!
# The microphone lane is a generation gate

One inversion lemma per operation, then the simulation: every action of a microphone session
is matched by at most one step of the gate. The lane never changes a record, so the gate
carries the records themselves.
-/

namespace Plank.Microphone

open Plank.Transport (Availability Status Output)

namespace State

/-- The lane accepts the record: the checks of `Microphone::push` all pass. -/
structure Accepts (state : State) (packet : Packet) : Prop where
  /-- The lane carries records. -/
  ready : state.status = .ready
  /-- An activation is current. -/
  active : state.generation ≠ 0
  /-- The record belongs to it. -/
  current : packet.generation = state.generation
  /-- A capture time is present exactly on a timed lane. -/
  envelope : packet.captureTimeNs ≠ 0 ↔ state.timed = true
  /-- On a timed lane the record was captured after the last accepted one. -/
  capture : state.timed = true →
    ∀ last, state.lastCapture = some last → last < packet.captureTimeNs
  /-- The record comes after the last accepted one. -/
  sample : ∀ last, state.lastSample = some last → last < packet.sampleTime

/-- A record no check refuses is accepted. -/
theorem accepts_of_checks {state : State} {packet : Packet}
    (passed : ¬ state.refuses packet = true) : state.Accepts packet := by
  simp only [refuses, Bool.not_eq_true, Bool.or_eq_false_iff, decide_eq_false_iff_not,
    not_not] at passed
  obtain ⟨⟨⟨⟨⟨ready, active⟩, current⟩, envelope⟩, capture⟩, sample⟩ := passed
  refine ⟨ready, active, current, ?_, fun timed last found => ?_, fun last found => ?_⟩
  · rw [← envelope, decide_eq_true_iff]
  · rw [timed, found, Bool.true_and, Option.any_some, decide_eq_false_iff_not] at capture
    exact UInt64.not_le.mp capture
  · rw [found, Option.any_some, decide_eq_false_iff_not] at sample
    exact UInt64.not_le.mp sample

/-- The effects of a push. -/
inductive Pushed (now : Nat) (packet : Packet) (before : State) : State → Status → Prop where
  /-- The record fails a check; nothing changes. -/
  | refused (status : Status) (refusal : status.taken = false) :
    Pushed now packet before before status
  /-- The record is queued behind what a full queue keeps. -/
  | queued (kept : List (Nat × Packet)) (status : Status) (accepts : before.Accepts packet)
    (keeps : kept.Sublist before.packets) (noted : status.taken = true) :
    Pushed now packet before
      { before with
        lastSample := some packet.sampleTime
        lastCapture := some packet.captureTimeNs
        packets := kept ++ [(now, packet)] } status

/-- A push has one of its effects. -/
theorem push_effect (state : State) (now : Nat) (packet : Packet) (capacity : Nat) :
    Pushed now packet state (state.push now packet capacity).1
      (state.push now packet capacity).2 := by
  unfold push
  split
  · exact .refused _ rfl
  · next passed =>
    extract_lets dropped kept
    refine .queued kept _ (accepts_of_checks passed) ?_ ?_
    · simp only [kept]
      split
      · exact List.tail_sublist _
      · exact .refl _
    · cases dropped <;> rfl

/-- The effects of taking a record out, by a pop or by a receive call. -/
inductive Taken (now : Nat) (before : State) : State → Option (Nat × Packet) → Prop where
  /-- Some records were lost and nothing was taken. -/
  | nothing (packets : List (Nat × Packet)) (lost : packets.Sublist before.packets) :
    Taken now before { before with packets } none
  /-- Some records were lost and the young one behind them was taken. -/
  | front (arrival : Nat) (packet : Packet) (rest : List (Nat × Packet))
    (held : ((arrival, packet) :: rest).Sublist before.packets)
    (young : expired now arrival = false) :
    Taken now before { before with packets := rest } (some (arrival, packet))

/-- The loop of a pop ends with an empty queue, or with a young record and all behind it. -/
theorem popLoop_effect (generation : UInt64) (now : Nat) (packets : List (Nat × Packet)) :
    (popLoop generation now packets).2 = none ∧ (popLoop generation now packets).1 = [] ∨
      ∃ arrival packet, (popLoop generation now packets).2 = some (arrival, packet) ∧
        ((arrival, packet) :: (popLoop generation now packets).1).Sublist packets ∧
        expired now arrival = false := by
  induction packets with
  | nil => exact .inl ⟨rfl, rfl⟩
  | cons front rest ih =>
    obtain ⟨arrival, packet⟩ := front
    by_cases usable : (generation ≠ 0 && packet.generation = generation &&
        !expired now arrival) = true
    · refine .inr ⟨arrival, packet, ?_, ?_, ?_⟩
      · simp only [popLoop, usable, ↓reduceIte]
      · simp only [popLoop, usable, ↓reduceIte]
        exact .refl _
      · simp only [Bool.and_eq_true, Bool.not_eq_true'] at usable
        exact usable.2
    · simp only [popLoop, usable]
      rcases ih with emptied | ⟨chosen, record, taken, held, young⟩
      · exact .inl emptied
      · exact .inr ⟨chosen, record, taken, held.cons _, young⟩

/-- A pop has one of the effects. -/
theorem pop_effect (state : State) (now : Nat) :
    Taken now state (state.pop now).1 (state.pop now).2 := by
  have effect := popLoop_effect state.generation now state.packets
  unfold pop
  generalize popLoop state.generation now state.packets = outcome at effect ⊢
  obtain ⟨packets, record⟩ := outcome
  rcases effect with ⟨rfl, rfl⟩ | ⟨arrival, packet, rfl, held, young⟩
  · exact .nothing [] (List.nil_sublist _)
  · exact .front arrival packet packets held young

/-- A receive call has one of the effects. -/
theorem receiveTimed_effect (state : State) (now : Nat) (serving fields capture : Bool)
    (output : Output) :
    Taken now state (state.receiveTimed now serving fields capture output).1
      (state.receiveTimed now serving fields capture output).2.copied := by
  have untouched : Taken now state state none := .nothing state.packets (.refl _)
  have aged := List.dropWhile_sublist (l := state.packets) fun front => expired now front.1
  have stop := List.head?_dropWhile_not (fun front => expired now front.1) state.packets
  unfold receiveTimed
  split
  · exact untouched
  · split
    · exact untouched
    · split
      · exact untouched
      · dsimp only
        split
        · exact .nothing _ aged
        · next front rest held =>
          rw [held] at aged stop
          split
          · exact .front front.1 front.2 rest aged stop
          · exact .nothing _ (by rw [held]; exact aged)

/-- The lane an accepted activation leaves. -/
def activated (state : State) (generation : UInt64) : State :=
  { state with
    generation
    lastGeneration := if generation ≠ 0 then generation else state.lastGeneration
    lastSample := none
    lastCapture := none
    packets := [] }

/-- An activation call changes nothing, or the lane is not failed and takes a generation that
mutes it or is strictly newer than every one before. -/
theorem activate_effect (state : State) (generation : UInt64) :
    state.activate generation = (state, false) ∨
      state.status ≠ .failed ∧ (generation = 0 ∨ state.lastGeneration < generation) ∧
        state.activate generation = (state.activated generation, true) := by
  unfold activate
  split
  · exact .inl rfl
  · next standing =>
    split
    · exact .inl rfl
    · next newer =>
      simp only [Bool.or_eq_true, decide_eq_true_eq, not_or] at standing
      simp only [not_and, UInt64.not_le] at newer
      refine .inr ⟨standing.2, ?_, rfl⟩
      by_cases mute : generation = 0
      · exact .inl mute
      · exact .inr (newer mute)

/-- The capability call does nothing, or it enables a lane that was not enabled, settles its
envelope and marks it as opening. -/
theorem enableVersion_effect (state : State) (version : UInt32) (opened camera : Bool) :
    (state.enableVersion version opened camera).1 = state ∨
      state.enabled = false ∧ (state.enableVersion version opened camera).1 =
        { state with enabled := true, timed := version == 3, status := .opening } := by
  unfold enableVersion
  split
  · exact .inl rfl
  · split
    · exact .inl rfl
    · split
      · exact .inl rfl
      · split
        · exact .inl rfl
        · next disabled => exact .inr ⟨by simpa using disabled, rfl⟩

end State

/-- The activation a record belongs to. -/
def generationOf (packet : Packet) : Nat := packet.generation.toNat

/-- Records of one activation are ordered by sample time and, where the envelope is timed, by
capture time. -/
def later (earlier packet : Packet) : Prop :=
  earlier.sampleTime < packet.sampleTime ∧
    (packet.captureTimeNs ≠ 0 → earlier.captureTimeNs < packet.captureTimeNs)

/-- The gate a session refines. -/
structure Gated (session : Session) (gate : Lane.Gate Nat Packet) : Prop where
  /-- Same activation. -/
  generation : gate.generation = session.lane.generation.toNat
  /-- Same greatest activation. -/
  newest : gate.newest = session.lane.lastGeneration.toNat
  /-- Failed together. -/
  failed : gate.failed = true ↔ session.lane.status = .failed
  /-- Same queue. -/
  queue : gate.queue = session.lane.packets.map Prod.snd
  /-- Same history. -/
  ledger : gate.ledger = session.ledger
  /-- The order fields bound what was accepted. -/
  bounded : ∀ packet ∈ session.ledger.current.pushed,
    (∃ last, session.lane.lastSample = some last ∧ packet.sampleTime ≤ last) ∧
      (session.lane.timed = true →
        ∃ last, session.lane.lastCapture = some last ∧ packet.captureTimeNs ≤ last)
  /-- A lane that was never enabled is unavailable and has accepted nothing. -/
  idle : session.lane.enabled = false →
    session.lane.status = .unavailable ∧ session.ledger.current.pushed = []

namespace Gated

variable {session : Session} {gate : Lane.Gate Nat Packet}

/-- The steps of the microphone's gate. -/
abbrev Step : Lane.Gate Nat Packet → Lane.Gate Nat Packet → Prop :=
  Lane.Gate.Step generationOf later maxAge

/-- Runs of the microphone's gate. -/
abbrev Steps : Lane.Gate Nat Packet → Lane.Gate Nat Packet → Prop := Relation.ReflTransGen Step

/-- The untouched session refines the untouched gate. -/
theorem start : Gated {} .start where
  generation := rfl
  newest := rfl
  failed := by simp [Lane.Gate.start]
  queue := rfl
  ledger := rfl
  bounded := by simp [Lane.Ledger.empty]
  idle _ := ⟨rfl, rfl⟩

/-- A lane that may still open or carry records has neither failed nor stayed disabled. -/
theorem live (related : Gated session gate)
    (live : session.lane.status = .opening ∨ session.lane.status = .ready) :
    gate.failed = false ∧ session.lane.enabled = true := by
  constructor
  · cases failed : gate.failed with
    | false => rfl
    | true => rcases live with status | status <;> simp [related.failed.mp failed] at status
  · cases enabled : session.lane.enabled with
    | true => rfl
    | false => rcases live with status | status <;> simp [related.idle enabled] at status

/-- Taking a record out refines a loss or a delivery. -/
theorem taken (related : Gated session gate) {lane : State} {record : Option (Nat × Packet)}
    (taken : State.Taken session.now session.lane lane record) :
    ∃ next, Steps gate next ∧
      Gated { session with lane, ledger := session.ledger.noteTaken session.now record } next := by
  cases taken with
  | nothing packets lost =>
    refine ⟨_, .single (.lose gate _ (related.queue ▸ lost.map Prod.snd)), ?_⟩
    exact ⟨related.generation, related.newest, related.failed, rfl, related.ledger,
      related.bounded, related.idle⟩
  | front arrival packet rest held young =>
    have fresh : session.now - arrival ≤ maxAge := by
      simpa [expired] using young
    refine ⟨_, .single (.deliver gate packet (session.now - arrival) _
      (related.queue ▸ held.map Prod.snd) fresh), ?_⟩
    exact ⟨related.generation, related.newest, related.failed, rfl, by rw [related.ledger]; rfl,
      related.bounded, related.idle⟩

/-- A push refines an acceptance, or nothing where it is refused. -/
theorem pushed (related : Gated session gate) {now : Nat} {packet : Packet} {lane : State}
    {status : Status} (pushed : State.Pushed now packet session.lane lane status) :
    ∃ next, Steps gate next ∧
      Gated { session with lane, ledger := session.ledger.notePushed status.taken packet } next := by
  cases pushed with
  | refused status refusal =>
    rw [refusal]
    exact ⟨gate, .refl, related⟩
  | queued kept status accepts keeps noted =>
    have current : generationOf packet = gate.generation := by
      rw [related.generation, ← accepts.current]
      rfl
    have unmuted : gate.generation ≠ ⊥ := by
      rw [related.generation]
      exact fun mute => accepts.active (UInt64.toNat_inj.mp mute)
    have before : ∀ earlier ∈ session.ledger.current.pushed, later earlier packet := by
      intro earlier member
      obtain ⟨⟨last, found, below⟩, captured⟩ := related.bounded earlier member
      have sample := accepts.sample last found
      refine ⟨by grind, fun stamped => ?_⟩
      have timed := accepts.envelope.mp stamped
      obtain ⟨time, known, before⟩ := captured timed
      have capture := accepts.capture timed time known
      grind
    have queue : ((kept ++ [(now, packet)]).map Prod.snd).Sublist (gate.queue ++ [packet]) := by
      rw [related.queue, List.map_append]
      exact (keeps.map Prod.snd).append (.refl _)
    have enabled := (related.live (.inr accepts.ready)).2
    rw [noted]
    refine ⟨_, .single (.accept gate packet _ current unmuted (related.ledger ▸ before) queue),
      related.generation, related.newest, related.failed, rfl, by rw [related.ledger]; rfl, ?_,
      fun disabled => absurd (enabled.symm.trans disabled) (by decide)⟩
    intro chosen member
    rcases List.mem_append.mp member with old | new
    · have order := before chosen old
      refine ⟨⟨packet.sampleTime, rfl, UInt64.le_of_lt order.1⟩, fun timed => ?_⟩
      exact ⟨packet.captureTimeNs, rfl,
        UInt64.le_of_lt (order.2 (accepts.envelope.mpr timed))⟩
    · rw [List.mem_singleton.mp new]
      exact ⟨⟨packet.sampleTime, rfl, UInt64.le_refl _⟩,
        fun _ => ⟨packet.captureTimeNs, rfl, UInt64.le_refl _⟩⟩

/-- An accepted activation refines an activation. -/
theorem activated (related : Gated session gate) {generation : UInt64}
    (live : session.lane.status ≠ .failed)
    (newer : generation = 0 ∨ session.lane.lastGeneration < generation) :
    ∃ next, Steps gate next ∧
      Gated { session with
        lane := session.lane.activated generation
        ledger := session.ledger.note (.activated generation.toNat) } next := by
  have standing : gate.failed = false := by
    cases failed : gate.failed with
    | false => rfl
    | true => exact absurd (related.failed.mp failed) live
  have above : generation.toNat = ⊥ ∨ gate.newest < generation.toNat := by
    rw [related.newest]
    exact newer.imp (congrArg UInt64.toNat) UInt64.lt_iff_toNat_lt.mp
  refine ⟨_, .single (.activate gate generation.toNat standing above), rfl, ?_, ?_, rfl,
    by rw [related.ledger], ?_, fun disabled => ⟨(related.idle disabled).1, rfl⟩⟩
  · by_cases mute : generation = 0
    · simp [State.activated, mute, related.newest]
    · have unmuted : generation.toNat ≠ 0 := fun zero => mute (UInt64.toNat_inj.mp zero)
      simp [State.activated, mute, unmuted]
  · simpa [State.activated] using live
  · simp [Lane.Ledger.note]

/-- A failure of the lane refines a failure of the gate. -/
theorem failure (related : Gated session gate)
    (live : session.lane.status = .opening ∨ session.lane.status = .ready) :
    ∃ next, Steps gate next ∧
      Gated { session with
        lane := session.lane.failed, ledger := session.ledger.note .failed } next := by
  obtain ⟨standing, enabled⟩ := related.live live
  refine ⟨_, .single (.fail gate standing), rfl, related.newest, by simp [State.failed], rfl,
    by rw [related.ledger], by simp [Lane.Ledger.note], ?_⟩
  exact fun disabled => absurd (enabled.symm.trans disabled) (by decide)

end Gated

namespace Session

/-- Every action of a session is matched by the gate. -/
theorem step_gated {capacity : Nat} {before after : Session} {action : Action}
    {gate : Lane.Gate Nat Packet} (related : Gated before gate)
    (stepped : (system capacity).step before action = some after) :
    ∃ next, Gated.Steps gate next ∧ Gated after next := by
  cases action with
  | enable version opened camera =>
    obtain rfl := Option.some.inj stepped
    rcases before.lane.enableVersion_effect version opened camera with same | ⟨disabled, effect⟩
    · rw [same]
      exact ⟨gate, .refl, related⟩
    · rw [effect]
      obtain ⟨unavailable, nothing⟩ := related.idle disabled
      refine ⟨gate, .refl, related.generation, related.newest, ?_, related.queue,
        related.ledger, by simp [nothing], by simp⟩
      simp [related.failed, unavailable]
  | opened =>
    simp only [system, step, Option.ite_none_right_eq_some, Option.some.injEq] at stepped
    obtain ⟨opening, rfl⟩ := stepped
    have enabled := (related.live (.inl opening)).2
    refine ⟨gate, .refl, related.generation, related.newest, ?_, related.queue, related.ledger,
      related.bounded, fun disabled => absurd (enabled.symm.trans disabled) (by decide)⟩
    simp [related.failed, opening, State.opened]
  | failed =>
    simp only [system, step, Option.ite_none_right_eq_some, Option.some.injEq] at stepped
    obtain ⟨live, rfl⟩ := stepped
    exact related.failure live
  | activate generation =>
    simp only [system, step] at stepped
    rcases before.lane.activate_effect generation with rejected | ⟨live, newer, accepted⟩
    · rw [rejected] at stepped
      obtain rfl := Option.some.inj stepped
      exact ⟨gate, .refl, related⟩
    · rw [accepted] at stepped
      obtain rfl := Option.some.inj stepped
      exact related.activated live newer
  | push packet =>
    obtain rfl := Option.some.inj stepped
    exact related.pushed (before.lane.push_effect before.now packet capacity)
  | pop =>
    obtain rfl := Option.some.inj stepped
    exact related.taken (State.pop_effect _ _)
  | receive serving fields capture output =>
    obtain rfl := Option.some.inj stepped
    exact related.taken (State.receiveTimed_effect _ _ _ _ _ _)
  | tick nanoseconds =>
    obtain rfl := Option.some.inj stepped
    exact ⟨gate, .refl, related.generation, related.newest, related.failed, related.queue,
      related.ledger, related.bounded, related.idle⟩

/-- The history of a reachable microphone session is mute safe, and its period in progress is
the lane's activation. -/
theorem reachable_mute_safe {capacity : Nat} {session : Session}
    (reachable : (system capacity).Reachable session) :
    Lane.MuteSafe generationOf later maxAge session.ledger ∧
      session.ledger.current.generation = session.lane.generation.toNat := by
  have simulated : ∃ first gate, first = .start ∧ Gated.Steps first gate ∧ Gated session gate :=
    Transition.System.simulation (by rintro _ rfl; exact ⟨.start, rfl, .start⟩)
      (fun _ _ _ _ related stepped => step_gated related stepped) reachable
  obtain ⟨first, gate, rfl, reaches, related⟩ := simulated
  have holds := Lane.Gate.reaches_invariant reaches
  rw [← related.ledger]
  refine ⟨holds.safe, ?_⟩
  rw [← related.generation, ← holds.inProgress]

end Session

end Plank.Microphone
