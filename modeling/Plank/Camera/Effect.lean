import Plank.Camera.Lane

/-!
# What one camera operation can do

One inversion lemma per operation of the lane: each lists everything the operation can do to
the lane, with the conditions it was done under. The invariants of the lane are derived from
these effects and never from the operations' own text.
-/

namespace Plank.Camera

open Plank.Transport (Availability Status Output)

namespace State

/-- The effects of pruning. -/
inductive Pruned (now : Nat) (before : State) : State → Prop where
  /-- The front is young, or there is none. -/
  | kept (young : ∀ front, before.packets.head? = some front → expired now front.1 = false) :
    Pruned now before before
  /-- Nothing usable is left behind the expired front. -/
  | emptied : Pruned now before { before with packets := [] }.gap
  /-- Everything before a young independent frame is lost, and that frame is marked. -/
  | cut (lost : List (Nat × Record)) (arrival : Nat) (packet : Record) (rest : List (Nat × Record))
    (split : before.packets = lost ++ (arrival, packet) :: rest)
    (young : expired now arrival = false) (independent : packet.dependent = false) :
    Pruned now before { before with packets := (arrival, packet.mark) :: rest }

/-- The loop drops a leading segment; what it stops at is young and, once anything was
dropped, independent. -/
theorem pruneLoop_split (now : Nat) (dropped : Bool) (packets : List (Nat × Record)) :
    ∃ lost, packets = lost ++ (pruneLoop now dropped packets).2 ∧
      (pruneLoop now dropped packets).1 = (dropped || !lost.isEmpty) ∧
      ∀ front, (pruneLoop now dropped packets).2.head? = some front →
        expired now front.1 = false ∧
          ((pruneLoop now dropped packets).1 = true → front.2.dependent = false) := by
  induction packets generalizing dropped with
  | nil => exact ⟨[], rfl, by simp [pruneLoop], by simp [pruneLoop]⟩
  | cons front rest ih =>
    obtain ⟨arrival, packet⟩ := front
    by_cases leaves : (expired now arrival || (dropped && packet.dependent)) = true
    · obtain ⟨lost, split, flag, stop⟩ := ih true
      refine ⟨(arrival, packet) :: lost, ?_, ?_, ?_⟩
      · simp only [pruneLoop, leaves, ↓reduceIte, List.cons_append, ← split]
      · simp only [pruneLoop, leaves, ↓reduceIte, flag, Bool.true_or, List.isEmpty_cons,
          Bool.not_false, Bool.or_true]
      · simpa only [pruneLoop, leaves, ↓reduceIte] using stop
    · refine ⟨[], by simp [pruneLoop, leaves], by simp [pruneLoop, leaves], ?_⟩
      simp only [Bool.or_eq_true, Bool.and_eq_true, not_or, not_and,
        Bool.not_eq_true] at leaves
      intro chosen found
      simp only [pruneLoop, leaves.1, Bool.false_or, Bool.and_eq_true] at found ⊢
      split at found
      · next stays =>
        exact absurd stays.2 (by simp [leaves.2 stays.1])
      · next stays =>
        obtain rfl := Option.some.inj found
        exact ⟨leaves.1, by simpa [stays] using leaves.2⟩

/-- Pruning has one of its effects. -/
theorem prune_effect (state : State) (now : Nat) : Pruned now state (state.prune now) := by
  unfold prune
  split
  · next aged =>
    obtain ⟨lost, split, flag, stop⟩ := pruneLoop_split now false state.packets
    generalize result : pruneLoop now false state.packets = outcome at split flag stop ⊢
    obtain ⟨dropped, packets⟩ := outcome
    cases packets with
    | nil => cases dropped <;> exact .emptied
    | cons front rest =>
      obtain ⟨arrival, packet⟩ := front
      have young := stop (arrival, packet) rfl
      cases dropped with
      | true => exact .cut lost arrival packet rest split young.1 (young.2 rfl)
      | false =>
        -- nothing was dropped, so the front the guard found expired is the one found young
        obtain rfl : lost = [] := by simpa using flag.symm
        rw [List.nil_append] at split
        simp [split, young.1] at aged
  · next fresh =>
    refine .kept fun front found => ?_
    simpa [found] using fresh

/-- Whatever is at the front after pruning is young. -/
theorem Pruned.young {now : Nat} {before after : State} (pruned : Pruned now before after)
    {arrival : Nat} {packet : Record} {rest : List (Nat × Record)}
    (front : after.packets = (arrival, packet) :: rest) : expired now arrival = false := by
  cases pruned with
  | kept young => exact young (arrival, packet) (by simp [front])
  | emptied => simp [gap_eq] at front
  | cut lost arrival packet rest split young independent =>
    simp only [List.cons.injEq, Prod.mk.injEq] at front
    rw [← front.1.1]
    exact young

/-- Pruning touches the queue and the three flags alone. -/
theorem Pruned.frame {now : Nat} {before after : State} (pruned : Pruned now before after) :
    ∃ waitingForKey requestKey discontinuity,
      after = { before with
        packets := after.packets, waitingForKey, requestKey, discontinuity } := by
  cases pruned with
  | kept young => exact ⟨_, _, _, rfl⟩
  | emptied => exact ⟨_, _, _, by rw [gap_eq]⟩
  | cut lost arrival packet rest split young independent => exact ⟨_, _, _, rfl⟩

/-- Pruning stays within the activation. -/
theorem Pruned.generation {now : Nat} {before after : State} (pruned : Pruned now before after) :
    after.generation = before.generation := by
  obtain ⟨_, _, _, frame⟩ := pruned.frame
  rw [frame]

/-- The effects of taking a record out, by a pop or by a receive call. -/
inductive Taken (now : Nat) (before : State) : State → Option (Nat × Record) → Prop where
  /-- The call was rejected before it looked at the queue. -/
  | untouched : Taken now before before none
  /-- The queue was pruned and nothing was taken. -/
  | nothing (after : State) (pruned : Pruned now before after) : Taken now before after none
  /-- The queue was pruned and its front was taken. -/
  | front (middle : State) (arrival : Nat) (packet : Record) (rest : List (Nat × Record))
    (pruned : Pruned now before middle) (held : middle.packets = (arrival, packet) :: rest) :
    Taken now before { middle with packets := rest } (some (arrival, packet))

/-- A pop takes the pruned queue's front, if it has one. -/
theorem pop_effect (state : State) (now : Nat) :
    Taken now state (state.pop now).1 (state.pop now).2 := by
  have pruned := prune_effect state now
  unfold pop
  dsimp only
  split
  · exact .nothing _ pruned
  · next front rest held => exact .front _ front.1 front.2 rest pruned held

/-- A receive call takes the pruned queue's front when it accepts the storage; in every other
case it takes nothing. -/
theorem receive_effect (state : State) (now : Nat) (serving : Bool) (output : Output) :
    Taken now state (state.receive now serving output).1
      ((state.receive now serving output).2.copied.map fun copied => (copied.1, copied.2.1)) := by
  have pruned := prune_effect state now
  unfold receive
  cases serving with
  | false => exact .untouched
  | true =>
    cases sized : output.sizeOut with
    | false => exact .untouched
    | true =>
      simp only [Bool.not_true, Bool.false_eq_true, ↓reduceIte]
      split
      · exact .nothing _ pruned
      · next arrival packet rest held =>
        split
        · split
          · exact .front _ arrival packet rest pruned held
          · exact .nothing _ pruned
        · exact .nothing _ pruned

/-- The lane accepts the record: the checks of `Camera::push` all pass. -/
structure Accepts (state : State) (packet : Record) : Prop where
  /-- An activation is current. -/
  active : state.generation ≠ 0
  /-- The record belongs to it. -/
  current : packet.generation = state.generation
  /-- The record comes after the last accepted one. -/
  sequence : ∀ last, state.lastSequence = some last → last < packet.sequence
  /-- The record was captured after the last accepted one. -/
  capture : state.lastCaptureTime < packet.captureTimeUs
  /-- The record has the format of the activation. -/
  format : ∀ format, state.format = some format → packet.format = format

/-- The lane after its order fields took the record in. -/
def noted (state : State) (packet : Record) : State :=
  { state with
    format := some packet.format
    lastSequence := some packet.sequence
    lastCaptureTime := packet.captureTimeUs }

/-- The lane after the order fields and, where the record does not follow on, the gap. -/
def arranged (state : State) (packet : Record) (gap : Bool) : State :=
  if gap then (state.noted packet).gap else state.noted packet

/-- Everything the arrangement changes. -/
theorem arranged_eq (state : State) (packet : Record) (gap : Bool) :
    state.arranged packet gap = { state with
      format := some packet.format
      lastSequence := some packet.sequence
      lastCaptureTime := packet.captureTimeUs
      packets := if gap then [] else state.packets
      discontinuity := gap || state.discontinuity
      waitingForKey := (gap && packet.format.codec == h264) || state.waitingForKey
      requestKey := (gap && packet.format.codec == h264) || state.requestKey } := by
  cases gap <;> simp [arranged, noted, gap_eq]

/-- The effects of a push. -/
inductive Pushed (now : Nat) (packet : Record) (capacity : Nat) (before : State) :
    State → Status → Prop where
  /-- The record fails a check; nothing changes. -/
  | refused (status : Status) (refusal : status.taken = false) :
    Pushed now packet capacity before before status
  /-- The record is accepted, but it is dependent and the lane waits for a key frame. -/
  | discarded (gap : Bool) (accepts : before.Accepts packet)
    (dependent : packet.dependent = true)
    (waiting : (before.arranged packet gap).waitingForKey = true) :
    Pushed now packet capacity before
      { before.arranged packet gap with requestKey := true } .dropped
  /-- The record is accepted and queued, marked where it does not follow on. -/
  | queued (gap : Bool) (queued : Record) (status : Status) (accepts : before.Accepts packet)
    (follows : gap = false →
      (∀ last, before.lastSequence = some last → packet.sequence = last + 1) ∧
        before.packets.length ≠ capacity)
    (usable : packet.dependent = true → (before.arranged packet gap).waitingForKey = false)
    (marked : queued =
      if gap || (before.arranged packet gap).discontinuity then packet.mark else packet)
    (noted : status.taken = true) :
    Pushed now packet capacity before
      { before.arranged packet gap with
        waitingForKey := (before.arranged packet gap).waitingForKey && !packet.key
        requestKey := (before.arranged packet gap).requestKey && !packet.key
        discontinuity := false
        packets := (before.arranged packet gap).packets ++ [(now, queued)] } status

/-- A push stays within the activation. -/
theorem Pushed.generation {now : Nat} {packet : Record} {capacity : Nat} {before after : State}
    {status : Status} (pushed : Pushed now packet capacity before after status) :
    after.generation = before.generation := by
  cases pushed with
  | refused status refusal => rfl
  | discarded gap accepts dependent waiting => rw [arranged_eq]
  | queued gap queued status accepts follows usable marked noted => rw [arranged_eq]

/-- A record no check refuses is accepted. -/
theorem accepts_of_checks {state : State} {packet : Record}
    (passed : ¬ state.refuses packet = true)
    (sameFormat : ¬ (state.format.any (· ≠ packet.format)) = true) : state.Accepts packet := by
  simp only [refuses, Bool.not_eq_true, Bool.or_eq_false_iff, decide_eq_false_iff_not,
    not_not] at passed
  obtain ⟨⟨⟨⟨⟨_, _⟩, active⟩, current⟩, sequence⟩, capture⟩ := passed
  refine ⟨active, current, fun last found => ?_, UInt64.not_le.mp capture,
    fun format found => ?_⟩
  · rw [found, Option.any_some, decide_eq_false_iff_not] at sequence
    exact UInt64.not_le.mp sequence
  · have same : format = packet.format := by simpa [found] using sameFormat
    exact same.symm

/-- A push has one of its effects. -/
theorem push_effect (state : State) (now : Nat) (packet : Record) (capacity : Nat) :
    Pushed now packet capacity state (state.push now packet capacity).1
      (state.push now packet capacity).2 := by
  unfold push
  split
  · exact .refused _ rfl
  · next passed =>
    split
    · exact .refused _ rfl
    · next sameFormat =>
      have accepts := accepts_of_checks passed sameFormat
      extract_lets missing overflow gap dropped noted middle arrived keyed final
      have follows : gap = false →
          (∀ last, state.lastSequence = some last → packet.sequence = last + 1) ∧
            state.packets.length ≠ capacity := by
        intro continues
        simp only [gap, missing, overflow, Bool.or_eq_false_iff,
          decide_eq_false_iff_not] at continues
        refine ⟨fun last found => ?_, continues.2⟩
        simpa [found] using continues.1.1
      have arrival : arrived = if gap then packet.mark else packet := rfl
      have dependency : arrived.dependent = packet.dependent := by
        rw [arrival]; split <;> simp
      have keys : arrived.key = packet.key := by
        rw [arrival]; split <;> simp
      have arranged : middle = state.arranged packet gap := rfl
      have keyed_eq : keyed = { middle with
          waitingForKey := middle.waitingForKey && !packet.key
          requestKey := middle.requestKey && !packet.key } := by
        simp only [keyed, keys]
        cases packet.key <;> simp
      have final_eq : final =
          if gap || middle.discontinuity then packet.mark else packet := by
        simp only [final, keyed_eq, arrival]
        cases gap <;> cases middle.discontinuity <;> simp
      clear_value gap keyed final arrived middle
      subst arranged keyed_eq
      rw [dependency]
      split
      · next useless =>
        simp only [Bool.and_eq_true] at useless
        exact .discarded gap accepts useless.1 useless.2
      · next usable =>
        simp only [Bool.and_eq_true, not_and, Bool.not_eq_true] at usable
        refine .queued gap final _ accepts follows usable final_eq ?_
        cases dropped <;> rfl

/-- The lane an accepted activation leaves. -/
def activated (state : State) (generation : UInt64) : State :=
  { state with
    generation
    lastGeneration := if generation ≠ 0 then generation else state.lastGeneration
    lastSequence := none
    lastCaptureTime := 0
    format := none
    packets := []
    waitingForKey := true
    requestKey := generation ≠ 0
    discontinuity := true }

/-- An activation call changes nothing, or the lane is not failed and takes a generation that
mutes it or is strictly newer than every one before. -/
theorem activate_effect (state : State) (generation : UInt64) :
    state.activate generation = (state, false) ∨
      state.status ≠ .failed ∧ (generation = 0 ∨ state.lastGeneration < generation) ∧
        state.activate generation = (state.activated generation, true) := by
  unfold activate
  split
  · exact .inl rfl
  · next passed =>
    simp only [Bool.or_eq_true, decide_eq_true_eq, not_or, not_and, UInt64.not_le] at passed
    refine .inr ⟨passed.1.2, ?_, rfl⟩
    by_cases mute : generation = 0
    · exact .inl mute
    · exact .inr (passed.2 mute)

/-- The capability call changes at most the labels of the lane: it does nothing, or it enables
a lane that was not enabled and marks it as opening. -/
theorem enable_effect (state : State) (microphoneNegotiated version : UInt32)
    (opened microphone : Bool) :
    ∃ (enabled : Bool) (agreed : UInt32) (status : Availability) (negotiated : Bool),
      (state.enable microphoneNegotiated version opened microphone).1 =
          { state with
            enabled, version := agreed, status, microphoneNegotiated := negotiated } ∧
        ((enabled = state.enabled ∧ status = state.status) ∨
          (state.enabled = false ∧ enabled = true ∧ status = .opening)) := by
  unfold enable
  split
  · exact ⟨state.enabled, state.version, state.status, state.microphoneNegotiated, rfl,
      .inl ⟨rfl, rfl⟩⟩
  · split
    · exact ⟨state.enabled, state.version, state.status, state.microphoneNegotiated, rfl,
        .inl ⟨rfl, rfl⟩⟩
    · next passed =>
      simp only [Bool.or_eq_true, not_or, Bool.not_eq_true] at passed
      exact ⟨_, _, _, _, rfl, .inr ⟨passed.2, rfl, rfl⟩⟩

end State

end Plank.Camera
