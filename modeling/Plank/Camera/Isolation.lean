import Plank.Camera.Effect

/-!
# The camera lane is a generation gate

The lane may set a record's discontinuity bit while it holds it and changes nothing else, so
the gate carries marked records. Every action of a camera session is matched by at most one
step of the gate.
-/

namespace Plank.Camera

open Plank.Transport (Availability Status Output)

/-- The activation a record belongs to. -/
def generationOf (record : Record) : Nat := record.generation.toNat

/-- Records of one activation are ordered by sequence and by capture time. -/
def later (earlier record : Record) : Prop :=
  earlier.sequence < record.sequence ∧ earlier.captureTimeUs < record.captureTimeUs

/-- The gate a session refines. -/
structure Gated (session : Session) (gate : Lane.Gate Nat Record) : Prop where
  /-- Same activation. -/
  generation : gate.generation = session.lane.generation.toNat
  /-- Same greatest activation. -/
  newest : gate.newest = session.lane.lastGeneration.toNat
  /-- Failed together. -/
  failed : gate.failed = true ↔ session.lane.status = .failed
  /-- Same queue, marked. -/
  queue : gate.queue = session.lane.packets.map fun entry => entry.2.mark
  /-- Same history, marked. -/
  ledger : gate.ledger = session.ledger.map Record.mark
  /-- The order fields bound what was accepted. -/
  bounded : ∀ record ∈ session.ledger.current.pushed,
    (∃ last, session.lane.lastSequence = some last ∧ record.sequence ≤ last) ∧
      record.captureTimeUs ≤ session.lane.lastCaptureTime
  /-- A lane that was never enabled is unavailable. -/
  idle : session.lane.enabled = false → session.lane.status = .unavailable

namespace Gated

variable {session : Session} {gate : Lane.Gate Nat Record}

/-- The steps of the camera's gate. -/
abbrev Step : Lane.Gate Nat Record → Lane.Gate Nat Record → Prop :=
  Lane.Gate.Step generationOf later maxAge

/-- Runs of the camera's gate. -/
abbrev Steps : Lane.Gate Nat Record → Lane.Gate Nat Record → Prop := Relation.ReflTransGen Step

/-- The untouched session refines the untouched gate. -/
theorem start : Gated {} .start where
  generation := rfl
  newest := rfl
  failed := by simp [Lane.Gate.start]
  queue := rfl
  ledger := rfl
  bounded := by simp [Lane.Ledger.empty]
  idle _ := rfl

/-- Pruning only loses records. -/
theorem pruned_sublist {now : Nat} {before after : State} (pruned : State.Pruned now before after) :
    (after.packets.map fun entry => entry.2.mark).Sublist
      (before.packets.map fun entry => entry.2.mark) := by
  cases pruned with
  | kept young => exact .refl _
  | emptied => simp [State.gap_eq]
  | cut lost arrival packet rest split young independent =>
    rw [split, List.map_append]
    simp only [List.map_cons, Record.mark_mark]
    exact List.sublist_append_right _ _

/-- A lane that lost records refines the gate that lost them. -/
theorem lost (related : Gated session gate) {packets : List (Nat × Record)}
    (waitingForKey requestKey discontinuity : Bool)
    (kept : (packets.map fun entry => entry.2.mark).Sublist
      (session.lane.packets.map fun entry => entry.2.mark)) :
    ∃ next, Steps gate next ∧
      Gated { session with
        lane := { session.lane with packets, waitingForKey, requestKey, discontinuity } } next := by
  refine ⟨_, .single (.lose gate _ (related.queue ▸ kept)), ?_⟩
  exact ⟨related.generation, related.newest, related.failed, rfl, related.ledger,
    related.bounded, related.idle⟩

/-- Pruning refines a loss. -/
theorem pruned (related : Gated session gate) {now : Nat} {lane : State}
    (pruned : State.Pruned now session.lane lane) :
    ∃ next, Steps gate next ∧ Gated { session with lane } next := by
  obtain ⟨waitingForKey, requestKey, discontinuity, frame⟩ := pruned.frame
  rw [frame]
  exact related.lost waitingForKey requestKey discontinuity (pruned_sublist pruned)

/-- Handing out a young front refines a delivery. -/
theorem handed (related : Gated session gate) {arrival : Nat} {packet : Record}
    {rest : List (Nat × Record)} (held : session.lane.packets = (arrival, packet) :: rest)
    (young : expired session.now arrival = false) :
    ∃ next, Steps gate next ∧
      Gated { session with
        lane := { session.lane with packets := rest }
        ledger := session.ledger.noteTaken session.now (some (arrival, packet)) } next := by
  have queue : gate.queue = packet.mark :: rest.map fun entry => entry.2.mark := by
    rw [related.queue, held, List.map_cons]
  have fresh : session.now - arrival ≤ maxAge := by
    simpa [expired] using young
  refine ⟨_, .single (.deliver gate packet.mark (session.now - arrival) _ (queue ▸ .refl _) fresh),
    related.generation, related.newest, related.failed, rfl, ?_, related.bounded, related.idle⟩
  simp [Lane.Ledger.noteTaken, related.ledger, Lane.Event.map]

/-- Taking a record out refines losses followed by at most one delivery. -/
theorem taken (related : Gated session gate) {lane : State} {record : Option (Nat × Record)}
    (taken : State.Taken session.now session.lane lane record) :
    ∃ next, Steps gate next ∧
      Gated { session with lane, ledger := session.ledger.noteTaken session.now record } next := by
  cases taken with
  | untouched => exact ⟨gate, .refl, related⟩
  | nothing after pruned => exact related.pruned pruned
  | front middle arrival packet rest pruned held =>
    obtain ⟨between, before, lost⟩ := related.pruned pruned
    obtain ⟨next, after, handed⟩ := lost.handed held (pruned.young held)
    exact ⟨next, before.trans after, handed⟩

/-- Taking a record in, whatever becomes of it and of the queue, refines an acceptance. -/
theorem accepted (related : Gated session gate) {packet : Record}
    (accepts : session.lane.Accepts packet) {packets : List (Nat × Record)}
    (format : Option Format) (waitingForKey requestKey discontinuity : Bool)
    (kept : (packets.map fun entry => entry.2.mark).Sublist
      ((session.lane.packets.map fun entry => entry.2.mark) ++ [packet.mark])) :
    ∃ next, Steps gate next ∧
      Gated { session with
        lane := { session.lane with
          format, lastSequence := some packet.sequence, lastCaptureTime := packet.captureTimeUs,
          packets, waitingForKey, requestKey, discontinuity }
        ledger := session.ledger.note (.pushed packet) } next := by
  have current : generationOf packet.mark = gate.generation := by
    rw [related.generation, ← accepts.current]
    rfl
  have unmuted : gate.generation ≠ ⊥ := by
    rw [related.generation]
    exact fun mute => accepts.active (UInt64.toNat_inj.mp mute)
  have before : ∀ record ∈ session.ledger.current.pushed, later record packet := by
    intro record member
    obtain ⟨⟨last, found, below⟩, captured⟩ := related.bounded record member
    have sequence := accepts.sequence last found
    have capture := accepts.capture
    exact ⟨by grind, by grind⟩
  have after : ∀ earlier ∈ gate.ledger.current.pushed, later earlier packet.mark := by
    rw [related.ledger]
    intro earlier member
    obtain ⟨record, present, rfl⟩ := List.mem_map.mp member
    exact before record present
  refine ⟨_, .single (.accept gate packet.mark _ current unmuted after (related.queue ▸ kept)),
    related.generation, related.newest, related.failed, rfl, ?_, ?_, related.idle⟩
  · simp [related.ledger, Lane.Event.map]
  · intro record member
    rcases List.mem_append.mp member with old | new
    · have order := before record old
      exact ⟨⟨packet.sequence, rfl, UInt64.le_of_lt order.1⟩, UInt64.le_of_lt order.2⟩
    · rw [List.mem_singleton.mp new]
      exact ⟨⟨packet.sequence, rfl, UInt64.le_refl _⟩, UInt64.le_refl _⟩

/-- A push refines an acceptance, or nothing where it is refused. -/
theorem pushed (related : Gated session gate) {now capacity : Nat} {packet : Record}
    {lane : State} {status : Status}
    (pushed : State.Pushed now packet capacity session.lane lane status) :
    ∃ next, Steps gate next ∧
      Gated { session with lane, ledger := session.ledger.notePushed status.taken packet } next := by
  have arranged : ∀ gap : Bool,
      ((session.lane.arranged packet gap).packets.map fun entry => entry.2.mark).Sublist
        (session.lane.packets.map fun entry => entry.2.mark) := by
    intro gap
    rw [State.arranged_eq]
    cases gap <;> simp
  cases pushed with
  | refused status refusal =>
    rw [refusal]
    exact ⟨gate, .refl, related⟩
  | discarded gap accepts dependent waiting =>
    have kept := (arranged gap).trans (List.sublist_append_left _ [packet.mark])
    rw [State.arranged_eq] at kept ⊢
    exact related.accepted accepts _ _ _ _ kept
  | queued gap queued status accepts follows usable marked noted =>
    have same : queued.mark = packet.mark := by
      rw [marked]
      split <;> simp
    have kept := (arranged gap).append (.refl [packet.mark])
    rw [noted]
    rw [State.arranged_eq] at kept ⊢
    refine related.accepted accepts _ _ _ _ ?_
    simpa [same] using kept

/-- An accepted activation refines an activation. -/
theorem activated (related : Gated session gate) {generation : UInt64}
    (live : session.lane.status ≠ .failed)
    (newer : generation = 0 ∨ session.lane.lastGeneration < generation) :
    ∃ next, Steps gate next ∧
      Gated { session with
        lane := session.lane.activated generation
        ledger := session.ledger.note (.activated generation.toNat) } next := by
  have standing : gate.failed = false := by
    cases failed : gate.failed with
    | false => rfl
    | true => exact absurd (related.failed.mp failed) live
  have above : generation.toNat = ⊥ ∨ gate.newest < generation.toNat := by
    rw [related.newest]
    exact newer.imp (congrArg UInt64.toNat) UInt64.lt_iff_toNat_lt.mp
  refine ⟨_, .single (.activate gate generation.toNat standing above), rfl, ?_, ?_, rfl, ?_, ?_,
    related.idle⟩
  · by_cases mute : generation = 0
    · simp [State.activated, mute, related.newest]
    · have unmuted : generation.toNat ≠ 0 := fun zero => mute (UInt64.toNat_inj.mp zero)
      simp [State.activated, mute, unmuted]
  · simpa [State.activated] using live
  · simp [related.ledger, Lane.Event.map]
  · simp [Lane.Ledger.note]

/-- A failure of the lane refines a failure of the gate. -/
theorem failure (related : Gated session gate)
    (live : session.lane.status = .opening ∨ session.lane.status = .ready) :
    ∃ next, Steps gate next ∧
      Gated { session with
        lane := session.lane.failed, ledger := session.ledger.note .failed } next := by
  have standing : gate.failed = false := by
    cases failed : gate.failed with
    | false => rfl
    | true =>
      have status := related.failed.mp failed
      rcases live with opening | ready
      · exact absurd (status.symm.trans opening) (by decide)
      · exact absurd (status.symm.trans ready) (by decide)
  refine ⟨_, .single (.fail gate standing), rfl, related.newest, by simp [State.failed], rfl, ?_,
    by simp [Lane.Ledger.note], ?_⟩
  · simp [related.ledger, Lane.Event.map]
  · intro disabled
    have unavailable := related.idle disabled
    rcases live with opening | ready
    · exact absurd (unavailable.symm.trans opening) (by decide)
    · exact absurd (unavailable.symm.trans ready) (by decide)

end Gated

namespace Session

/-- Every action of a session is matched by the gate. -/
theorem step_gated {capacity : Nat} {before after : Session} {action : Action}
    {gate : Lane.Gate Nat Record} (related : Gated before gate)
    (stepped : (system capacity).step before action = some after) :
    ∃ next, Gated.Steps gate next ∧ Gated after next := by
  cases action with
  | enable microphoneNegotiated version opened microphone =>
    obtain rfl := Option.some.inj stepped
    obtain ⟨enabled, agreed, status, negotiated, effect, labels⟩ :=
      before.lane.enable_effect microphoneNegotiated version opened microphone
    rw [effect]
    refine ⟨gate, .refl, related.generation, related.newest, ?_, related.queue, related.ledger,
      related.bounded, ?_⟩
    · rcases labels with ⟨_, rfl⟩ | ⟨disabled, _, rfl⟩
      · exact related.failed
      · simp [related.failed, related.idle disabled]
    · rcases labels with ⟨rfl, rfl⟩ | ⟨_, rfl, _⟩
      · exact related.idle
      · simp
  | opened =>
    simp only [system, step, Option.ite_none_right_eq_some, Option.some.injEq] at stepped
    obtain ⟨opening, rfl⟩ := stepped
    refine ⟨gate, .refl, related.generation, related.newest, ?_, related.queue, related.ledger,
      related.bounded, ?_⟩
    · simp [related.failed, opening, State.opened]
    · intro disabled
      exact absurd ((related.idle disabled).symm.trans opening) (by decide)
  | failed =>
    simp only [system, step, Option.ite_none_right_eq_some, Option.some.injEq] at stepped
    obtain ⟨live, rfl⟩ := stepped
    exact related.failure live
  | activate generation =>
    simp only [system, step] at stepped
    rcases before.lane.activate_effect generation with rejected | ⟨live, newer, accepted⟩
    · rw [rejected] at stepped
      obtain rfl := Option.some.inj stepped
      exact ⟨gate, .refl, related⟩
    · rw [accepted] at stepped
      obtain rfl := Option.some.inj stepped
      exact related.activated live newer
  | push packet =>
    obtain rfl := Option.some.inj stepped
    exact related.pushed (before.lane.push_effect before.now packet capacity)
  | pop =>
    obtain rfl := Option.some.inj stepped
    exact related.taken (State.pop_effect _ _)
  | receive serving output =>
    obtain rfl := Option.some.inj stepped
    exact related.taken (State.receive_effect _ _ _ _)
  | hole =>
    obtain rfl := Option.some.inj stepped
    rw [State.gap_eq]
    exact related.lost _ _ _ (by simp)
  | tick nanoseconds =>
    obtain rfl := Option.some.inj stepped
    exact ⟨gate, .refl, related.generation, related.newest, related.failed, related.queue,
      related.ledger, related.bounded, related.idle⟩

/-- The history of a reachable camera session, up to the discontinuity bit, is mute safe, and
its period in progress is the lane's activation. -/
theorem reachable_mute_safe {capacity : Nat} {session : Session}
    (reachable : (system capacity).Reachable session) :
    Lane.MuteSafe generationOf later maxAge (session.ledger.map Record.mark) ∧
      session.ledger.current.generation = session.lane.generation.toNat := by
  have simulated : ∃ first gate, first = .start ∧ Gated.Steps first gate ∧ Gated session gate :=
    Transition.System.simulation (by rintro _ rfl; exact ⟨.start, rfl, .start⟩)
      (fun _ _ _ _ related stepped => step_gated related stepped) reachable
  obtain ⟨first, gate, rfl, reaches, related⟩ := simulated
  have holds := Lane.Gate.reaches_invariant reaches
  rw [← related.ledger]
  refine ⟨holds.safe, ?_⟩
  rw [← related.generation, ← holds.inProgress, related.ledger]
  rfl

end Session

end Plank.Camera
