import Plank.Audio.Tap
import Plank.Queue.Counter
import Plank.Trace.Law

/-!
# The ring keeps its blocks apart

The two words count pushes and reads modulo a turn; the counts themselves stay within the ring. The
producer writes only the slot of the next push, so the blocks that are published and not yet read
hold what their pushes were given, and the drain delivers them in order.
-/

namespace Plank.Audio

open Trace (Each)

variable {Sample : Type} {arithmetic : Arithmetic Sample}

/-- The slot of a count. -/
def slot (count : Nat) : UInt32 := UInt32.ofNat count % tapSlots

/-- Counts less than a ring apart have different slots. -/
theorem slot_ne {low high : Nat} (order : low < high) (near : high < low + 16) :
    slot low ≠ slot high :=
  Queue.Counter.slot_ne (by decide : 16 ∣ 0x100000000) (by decide) order near

/-- The block that was replaced. -/
@[simp] theorem Tap.setBlock_same (tap : Tap Sample) (slot : UInt32) (block : TapBlock Sample) :
    (tap.setBlock slot block).blocks slot = block := if_pos rfl

/-- The other blocks. -/
theorem Tap.setBlock_other {tap : Tap Sample} {slot other : UInt32} {block : TapBlock Sample}
    (different : other ≠ slot) : (tap.setBlock slot block).blocks other = tap.blocks other :=
  if_neg different

/-- A record with each frame times the gains. -/
def TapRecord.amplified (arithmetic : Arithmetic Sample) (gains : Sample × Sample)
    (record : TapRecord Sample) : TapRecord Sample :=
  { record with samples := record.samples.map (arithmetic.amplify gains) }

/-- A block holds a record, of which so many frames are scaled. -/
structure TapBlock.Holds (arithmetic : Arithmetic Sample) (gains : Sample × Sample) (scaled : Nat)
    (block : TapBlock Sample) (serial : Nat) (record : TapRecord Sample) : Prop where
  /-- The push that wrote it. -/
  serial : block.serial = serial
  /-- Its time. -/
  hostTime : block.hostTime = record.hostTime
  /-- The time of its callback. -/
  callbackTime : block.callbackTime = record.callbackTime
  /-- Its position. -/
  sampleTime : block.sampleTime = record.sampleTime
  /-- Its frames. -/
  length : block.frames.toNat = record.samples.length
  /-- Its samples. -/
  samples : ∀ frame (inside : frame < record.samples.length), block.samples frame =
    if frame < scaled then arithmetic.amplify gains record.samples[frame] else record.samples[frame]

/-- A block that holds the first frames of an offer. -/
structure TapBlock.Copied (block : TapBlock Sample) (offer : TapOffer Sample)
    (left : Nat → Sample) (copied serial : Nat) : Prop where
  /-- The push that writes it. -/
  serial : block.serial = serial
  /-- Its time. -/
  hostTime : block.hostTime = offer.hostTime
  /-- The time of its callback. -/
  callbackTime : block.callbackTime = offer.callbackTime
  /-- Its position. -/
  sampleTime : block.sampleTime = offer.sampleTime
  /-- Its frames. -/
  frames : block.frames = offer.frames
  /-- Its samples. -/
  samples : ∀ frame < copied, block.samples frame = offer.sample left frame

variable {gains : Sample × Sample} {block : TapBlock Sample} {serial : Nat}
  {record : TapRecord Sample}

/-- A block that is copied whole holds the record of the offer. -/
theorem TapBlock.Copied.holds {offer : TapOffer Sample} {left : Nat → Sample} {frame : Nat}
    (copied : block.Copied offer left frame serial) (whole : offer.frames.toNat ≤ frame) :
    block.Holds arithmetic gains 0 serial (offer.record left) where
  serial := copied.serial
  hostTime := copied.hostTime
  callbackTime := copied.callbackTime
  sampleTime := copied.sampleTime
  length := by simp [TapOffer.record, copied.frames]
  samples other inside := by
    have bound : other < offer.frames.toNat := by simpa [TapOffer.record] using inside
    rw [copied.samples other (by omega)]
    simp [TapOffer.record]

/-- Before the first frame is scaled the gains do not matter. -/
theorem TapBlock.Holds.regain (holds : block.Holds arithmetic gains 0 serial record)
    (other : Sample × Sample) : block.Holds arithmetic other 0 serial record where
  serial := holds.serial
  hostTime := holds.hostTime
  callbackTime := holds.callbackTime
  sampleTime := holds.sampleTime
  length := holds.length
  samples frame inside := by
    rw [holds.samples frame inside]
    simp

/-- A block whose frames are all scaled is the record with the gains. -/
theorem TapBlock.Holds.amplified {scaled : Nat}
    (holds : block.Holds arithmetic gains scaled serial record)
    (whole : block.frames.toNat ≤ scaled) : block.record = record.amplified arithmetic gains := by
  have samples : (List.range block.frames.toNat).map block.samples =
      record.samples.map (arithmetic.amplify gains) := by
    apply List.ext_getElem
    · simp [holds.length]
    · intro frame left right
      have inside : frame < record.samples.length := by simpa using right
      rw [List.getElem_map, List.getElem_map, List.getElem_range, holds.samples frame inside,
        if_pos (by rw [holds.length] at whole; omega)]
  simp [TapBlock.record, TapRecord.amplified, samples, holds.hostTime, holds.callbackTime,
    holds.sampleTime]

/-- What the callback knows of the counts, and what its slot holds. -/
def TapProducer.Sound (blocks : UInt32 → TapBlock Sample) (read written : Nat) :
    TapProducer Sample → Prop
  | .written _ write => write = UInt32.ofNat written
  | .loaded _ write seen => write = UInt32.ofNat written ∧
      ∃ old ≤ read, written ≤ old + 16 ∧ seen = UInt32.ofNat old
  | .copying offer left write frame => write = UInt32.ofNat written ∧ written < read + 16 ∧
      (blocks (slot written)).Copied offer left frame written
  | _ => True

/-- What the drain knows of the counts. -/
def TapConsumer.Sound (read written : Nat) : TapConsumer → Prop
  | .dropping _ write => ∃ seen, read ≤ seen ∧ seen ≤ written ∧ write = UInt32.ofNat seen
  | .comparing _ seen => seen = UInt32.ofNat read
  | .holding _ held _ => read < written ∧ held = slot read
  | .popping _ _ => read < written
  | .leaving _ _ seen => read < written ∧ seen = UInt32.ofNat read
  | _ => True

/-- The first block that is still to be delivered. -/
def TapConsumer.kept (read : Nat) : TapConsumer → Nat
  | .popping _ _ | .leaving _ _ _ => read + 1
  | _ => read

/-- How many frames of the next block are scaled. -/
def TapConsumer.scaled : TapConsumer → Nat
  | .holding _ _ frame => frame
  | _ => 0

/-- The next block of a drain that looked at the overruns is among the first so many pushes. -/
def TapConsumer.Before (read counted : Nat) : TapConsumer → Prop
  | .discarding _ => False
  | .dropping _ write => ∀ seen, read ≤ seen → seen ≤ read + 16 → write = UInt32.ofNat seen →
      seen < counted
  | .peeking _ | .comparing _ _ | .holding _ _ _ => read < counted
  | _ => True

/-- What the pushes and deliveries of a trace follow. -/
def Delivers (arithmetic : Arithmetic Sample) (earlier : List (TapEvent Sample)) :
    TapEvent Sample → Prop
  | .pushed serial _ => serial = TapEvent.pushes earlier
  | .delivered serial gains record =>
    (∃ original, .pushed serial original ∈ earlier ∧
      record = original.amplified arithmetic gains) ∧
    ∀ other gains record, .delivered other gains record ∈ earlier → other < serial
  | _ => True

/-- What holds of a ring that has been read so often. -/
structure Ring (arithmetic : Arithmetic Sample) (tap : Tap Sample) (read : Nat) : Prop where
  /-- The word of the reads. -/
  readIndex : tap.readIndex = UInt32.ofNat read
  /-- The word of the pushes. -/
  writeIndex : tap.writeIndex = UInt32.ofNat (TapEvent.pushes tap.trace)
  /-- Only what was pushed is read. -/
  order : read ≤ TapEvent.pushes tap.trace
  /-- The blocks fit. -/
  room : TapEvent.pushes tap.trace ≤ read + 16
  /-- The callback. -/
  producing : tap.producer.Sound tap.blocks read (TapEvent.pushes tap.trace)
  /-- The drain. -/
  consuming : tap.consumer.Sound read (TapEvent.pushes tap.trace)
  /-- The blocks that are still to be delivered. -/
  stored : ∀ count, tap.consumer.kept read ≤ count → count < TapEvent.pushes tap.trace →
    ∃ record, .pushed count record ∈ tap.trace ∧ (tap.blocks (slot count)).Holds arithmetic
      tap.gains (if count = read then tap.consumer.scaled else 0) count record
  /-- The pushes and deliveries so far. -/
  history : Each (Delivers arithmetic) tap.trace
  /-- The deliveries so far. -/
  delivered : ∀ serial gains record, .delivered serial gains record ∈ tap.trace →
    serial < tap.consumer.kept read

/-- Some blocks are to be delivered, so the first is not past the reads. -/
theorem TapConsumer.le_kept (read : Nat) (consumer : TapConsumer) : read ≤ consumer.kept read := by
  unfold TapConsumer.kept
  split <;> omega

/-- Nothing is scaled while nothing is there. -/
theorem TapConsumer.Sound.scaled_eq {read : Nat} {consumer : TapConsumer}
    (sound : consumer.Sound read read) : consumer.scaled = 0 := by
  unfold TapConsumer.scaled
  split
  · exact absurd sound.1 (Nat.lt_irrefl read)
  · rfl

/-- More was read, and other blocks were touched than the one being written. -/
theorem TapProducer.Sound.mono {blocks others : UInt32 → TapBlock Sample}
    {read later written : Nat} {producer : TapProducer Sample}
    (sound : producer.Sound blocks read written) (further : read ≤ later)
    (same : written < read + 16 → others (slot written) = blocks (slot written)) :
    producer.Sound others later written := by
  cases producer with
  | loaded offer write known =>
    obtain ⟨counted, old, before, near, knows⟩ := sound
    exact ⟨counted, old, Nat.le_trans before further, near, knows⟩
  | copying offer left write frame =>
    obtain ⟨counted, near, copied⟩ := sound
    refine ⟨counted, by omega, ?_⟩
    rw [same near]
    exact copied
  | _ => exact sound

/-- One more push. -/
theorem TapConsumer.Sound.grow {read written : Nat} {consumer : TapConsumer}
    (sound : consumer.Sound read written) : consumer.Sound read (written + 1) := by
  cases consumer with
  | dropping handled write =>
    obtain ⟨seen, above, below, same⟩ := sound
    exact ⟨seen, above, Nat.le_succ_of_le below, same⟩
  | holding handled held frame => exact ⟨Nat.lt_succ_of_lt sound.1, sound.2⟩
  | popping handled delivered => exact Nat.lt_succ_of_lt sound
  | leaving handled delivered seen => exact ⟨Nat.lt_succ_of_lt sound.1, sound.2⟩
  | _ => exact sound

namespace Ring

variable {tap : Tap Sample} {read : Nat}

/-- The blocks to be delivered are not in the slot of the next push. -/
theorem stored_apart (ring : Ring arithmetic tap read)
    (near : TapEvent.pushes tap.trace < read + 16) (block : TapBlock Sample) :
    ∀ count, tap.consumer.kept read ≤ count → count < TapEvent.pushes tap.trace →
      ∃ record, .pushed count record ∈ tap.trace ∧
        ((tap.setBlock (slot (TapEvent.pushes tap.trace)) block).blocks (slot count)).Holds
          arithmetic tap.gains (if count = read then tap.consumer.scaled else 0) count record := by
  intro count above below
  obtain ⟨record, pushed, holds⟩ := ring.stored count above below
  have started := tap.consumer.le_kept read
  rw [Tap.setBlock_other (slot_ne below (by omega))]
  exact ⟨record, pushed, holds⟩

/-- The error, overrun or header step of the callback. -/
theorem decided (ring : Ring arithmetic tap read) {offer : TapOffer Sample} {write seen : UInt32}
    (phase : tap.producer = .loaded offer write seen) :
    Ring arithmetic (tap.decideStep offer write seen) read := by
  have producing := ring.producing
  rw [phase] at producing
  obtain ⟨rfl, old, before, near, rfl⟩ := producing
  unfold Tap.decideStep
  split
  · exact { ring with producing := trivial }
  · next left accepted =>
    have order := ring.order
    have distance : (UInt32.ofNat (TapEvent.pushes tap.trace) - UInt32.ofNat old).toNat =
        TapEvent.pushes tap.trace - old := Queue.Counter.toNat_sub (by omega) (by omega)
    split
    · exact { ring with
        producing := trivial
        stored := fun count above below => by
          obtain ⟨record, pushed, holds⟩ := ring.stored count above below
          exact ⟨record, List.mem_cons_of_mem _ pushed, holds⟩
        history := ring.history.cons trivial
        delivered := fun serial gains record member =>
          ring.delivered serial gains record (by simpa [Tap.note] using member) }
    · next room =>
      have near : TapEvent.pushes tap.trace < read + 16 := by
        rw [ge_iff_le, UInt32.le_iff_toNat_le, distance] at room
        have slots : tapSlots.toNat = 16 := rfl
        omega
      refine { ring with producing := ⟨rfl, near, ?_⟩, stored := ?_ }
      · show ((tap.setBlock (slot (TapEvent.pushes tap.trace)) _).blocks
          (slot (TapEvent.pushes tap.trace))).Copied offer left 0 (TapEvent.pushes tap.trace)
        rw [Tap.setBlock_same]
        exact ⟨rfl, rfl, rfl, rfl, rfl, fun frame inside => absurd inside (by omega)⟩
      · exact ring.stored_apart near _

/-- One turn of the copying loop, or the store that publishes the block. -/
theorem copied (ring : Ring arithmetic tap read) {offer : TapOffer Sample} {left : Nat → Sample}
    {write : UInt32} {frame : Nat} (phase : tap.producer = .copying offer left write frame) :
    Ring arithmetic (tap.copyStep arithmetic offer left write frame) read := by
  have producing := ring.producing
  rw [phase] at producing
  obtain ⟨rfl, near, copied⟩ := producing
  unfold Tap.copyStep
  dsimp only
  rw [show UInt32.ofNat (TapEvent.pushes tap.trace) % tapSlots =
    slot (TapEvent.pushes tap.trace) from rfl]
  split
  · split
    · exact { ring with producing := trivial }
    · refine { ring with producing := ⟨rfl, near, ?_⟩, stored := ring.stored_apart near _ }
      show ((tap.setBlock (slot (TapEvent.pushes tap.trace)) _).blocks
        (slot (TapEvent.pushes tap.trace))).Copied offer left (frame + 1)
          (TapEvent.pushes tap.trace)
      rw [Tap.setBlock_same]
      refine { copied with samples := ?_ }
      intro other inside
      dsimp only
      split
      · next same => rw [same]
      · next different => exact copied.samples other (by omega)
  · next whole =>
    have order := ring.order
    refine { ring with
      writeIndex := ?_
      order := Nat.le_succ_of_le order
      room := near
      producing := trivial
      consuming := ring.consuming.grow
      stored := ?_
      history := ring.history.cons copied.serial
      delivered := ?_ }
    · show UInt32.ofNat (TapEvent.pushes tap.trace) + 1 =
        UInt32.ofNat (TapEvent.pushes tap.trace + 1)
      rw [UInt32.ofNat_add]
      rfl
    · intro count above below
      by_cases last : count = TapEvent.pushes tap.trace
      · obtain rfl := last
        refine ⟨offer.record left, ?_, ?_⟩
        · exact List.mem_cons.mpr (.inl (by rw [copied.serial]))
        · have unscaled : (if TapEvent.pushes tap.trace = read then tap.consumer.scaled else 0) =
              0 := by
            split
            · next same =>
              have consuming := ring.consuming
              rw [same] at consuming
              exact consuming.scaled_eq
            · rfl
          show (tap.blocks (slot (TapEvent.pushes tap.trace))).Holds arithmetic tap.gains
            (if TapEvent.pushes tap.trace = read then tap.consumer.scaled else 0) _ _
          rw [unscaled]
          exact copied.holds (by omega)
      · obtain ⟨record, pushed, holds⟩ := ring.stored count above (by
          have : count < TapEvent.pushes tap.trace + 1 := below
          omega)
        exact ⟨record, List.mem_cons_of_mem _ pushed, holds⟩
    · intro serial gains record member
      exact ring.delivered serial gains record (by simpa [Tap.note] using member)

/-- The HAL calls back. -/
theorem called (ring : Ring arithmetic tap read) (offer : TapOffer Sample) :
    Ring arithmetic { tap with producer := if tap.stopped then .idle else .called offer } read := by
  refine { ring with producing := ?_ }
  dsimp only
  split <;> exact trivial

/-- Every step of the callback. -/
theorem produced (ring : Ring arithmetic tap read) {after : Tap Sample}
    (stepped : tap.produceStep arithmetic = some after) : Ring arithmetic after read := by
  unfold Tap.produceStep at stepped
  split at stepped
  · exact absurd stepped (by simp)
  · obtain rfl := Option.some.inj stepped
    refine { ring with producing := ?_ }
    dsimp only
    split <;> exact trivial
  · obtain rfl := Option.some.inj stepped
    exact { ring with producing := ring.writeIndex }
  · next offer write phase =>
    obtain rfl := Option.some.inj stepped
    have producing := ring.producing
    rw [phase] at producing
    exact { ring with
      producing := ⟨producing, read, Nat.le_refl _, ring.room, ring.readIndex⟩ }
  · next phase =>
    obtain rfl := Option.some.inj stepped
    exact ring.decided phase
  · next phase =>
    obtain rfl := Option.some.inj stepped
    exact ring.copied phase
  · obtain rfl := Option.some.inj stepped
    exact { ring with producing := trivial }

/-- The head of the loop. -/
theorem looped (ring : Ring arithmetic tap read) {handled : Nat}
    (phase : tap.consumer = .looping handled) : Ring arithmetic (tap.loopStep handled) read := by
  have stored := ring.stored
  have delivered := ring.delivered
  rw [phase] at stored delivered
  unfold Tap.loopStep
  split
  · exact { ring with
      consuming := trivial
      stored := stored
      delivered := delivered }
  · have kept : (if tap.overruns ≠ 0 then TapConsumer.discarding handled
        else .peeking handled).kept read = read := by split <;> rfl
    have scaled : (if tap.overruns ≠ 0 then TapConsumer.discarding handled
        else .peeking handled).scaled = 0 := by split <;> rfl
    refine { ring with
      consuming := ?_
      stored := ?_
      history := ring.history.cons trivial
      delivered := ?_ }
    · dsimp only
      split <;> exact trivial
    · intro count above below
      obtain ⟨record, pushed, holds⟩ := stored count (kept.symm.le.trans above) below
      refine ⟨record, List.mem_cons_of_mem _ pushed, ?_⟩
      dsimp only
      rw [scaled]
      exact holds
    · intro serial gains record member
      exact (delivered serial gains record (by simpa [Tap.note] using member)).trans_eq kept.symm

/-- A step that moves the drain on, over the same blocks. -/
theorem moved (ring : Ring arithmetic tap read) {consumer : TapConsumer}
    (sound : consumer.Sound read (TapEvent.pushes tap.trace))
    (kept : consumer.kept read = tap.consumer.kept read)
    (scaled : consumer.kept read = read → consumer.scaled = tap.consumer.scaled) :
    Ring arithmetic { tap with consumer } read := by
  refine { ring with consuming := sound, stored := ?_, delivered := ?_ }
  · intro count above below
    obtain ⟨record, pushed, holds⟩ := ring.stored count (kept.symm.le.trans above) below
    refine ⟨record, pushed, ?_⟩
    dsimp only
    split
    · next first =>
      have same := scaled (Nat.le_antisymm (above.trans_eq first) (consumer.le_kept read))
      rw [if_pos first] at holds
      rw [same]
      exact holds
    · next other =>
      rw [if_neg other] at holds
      exact holds
  · intro serial gains record member
    exact (ring.delivered serial gains record member).trans_eq kept.symm

/-- The backlog is dropped. -/
theorem dropped (ring : Ring arithmetic tap read) {handled seen : Nat}
    (phase : tap.consumer = .dropping handled (UInt32.ofNat seen)) (above : read ≤ seen)
    (below : seen ≤ TapEvent.pushes tap.trace) :
    Ring arithmetic { tap with readIndex := UInt32.ofNat seen, consumer := .peeking handled }
      seen := by
  obtain ⟨readIndex, writeIndex, order, room, producing, consuming, stored, history, delivered⟩ :=
    ring
  rw [phase] at stored delivered
  refine {
    readIndex := rfl
    writeIndex := writeIndex
    order := below
    room := by dsimp only; omega
    producing := producing.mono above fun _ => rfl
    consuming := trivial
    stored := ?_
    history := history
    delivered := fun serial gains record member =>
      Nat.lt_of_lt_of_le (delivered serial gains record member) above }
  intro count start last
  obtain ⟨record, pushed, holds⟩ := stored count (Nat.le_trans above start) last
  refine ⟨record, pushed, ?_⟩
  simpa [TapConsumer.scaled] using holds

/-- One frame is scaled. -/
theorem scaledOne (ring : Ring arithmetic tap read) {handled frame : Nat} {held : UInt32}
    {after : Tap Sample} (phase : tap.consumer = .holding handled held frame)
    (stepped : tap.scaleStep arithmetic handled held frame = some after) :
    Ring arithmetic after read := by
  have consuming := ring.consuming
  have stored := ring.stored
  have delivered := ring.delivered
  rw [phase] at consuming stored delivered
  obtain ⟨some, rfl⟩ := consuming
  unfold Tap.scaleStep at stepped
  dsimp only at stepped
  obtain ⟨unscaled, result⟩ := Option.ite_none_right_eq_some.mp stepped
  obtain rfl := Option.some.inj result
  have room := ring.room
  refine { ring with
    producing := ring.producing.mono (Nat.le_refl _) fun near =>
      Tap.setBlock_other (slot_ne some near).symm
    consuming := ⟨some, rfl⟩
    stored := ?_
    delivered := delivered }
  intro count above below
  obtain ⟨record, pushed, holds⟩ := stored count above below
  refine ⟨record, pushed, ?_⟩
  by_cases first : count = read
  · obtain rfl := first
    show ((tap.setBlock (slot count) _).blocks (slot count)).Holds arithmetic tap.gains
      (if count = count then frame + 1 else 0) count record
    rw [Tap.setBlock_same, if_pos rfl]
    rw [if_pos rfl] at holds
    refine { holds with samples := ?_ }
    intro other inside
    dsimp only
    have before := holds.samples other inside
    split
    · next same =>
      obtain rfl := same
      rw [if_neg (by simp [TapConsumer.scaled])] at before
      rw [if_pos (by omega), ← before]
    · next different =>
      rw [before]
      have same : other < frame ↔ other < frame + 1 := by omega
      simp only [TapConsumer.scaled, same]
  · have bound : count < TapEvent.pushes tap.trace := below
    have start : read ≤ count := above
    show ((tap.setBlock (slot read) _).blocks (slot count)).Holds arithmetic tap.gains
      (if count = read then frame + 1 else 0) count record
    have apart : slot read ≠ slot count := slot_ne (by omega) (by omega)
    rw [Tap.setBlock_other apart.symm]
    rw [if_neg first] at holds ⊢
    exact holds

/-- The block the drain holds is the next one. -/
theorem holding (ring : Ring arithmetic tap read) {handled frame : Nat} {held : UInt32}
    (phase : tap.consumer = .holding handled held frame) :
    read < TapEvent.pushes tap.trace ∧ held = slot read ∧ ∃ record,
      .pushed read record ∈ tap.trace ∧
        (tap.blocks (slot read)).Holds arithmetic tap.gains frame read record := by
  have consuming := ring.consuming
  have stored := ring.stored
  rw [phase] at consuming stored
  obtain ⟨record, pushed, holds⟩ := stored read (Nat.le_refl _) consuming.1
  rw [if_pos rfl] at holds
  exact ⟨consuming.1, consuming.2, record, pushed, holds⟩

/-- The block is handed over. -/
theorem handed (ring : Ring arithmetic tap read) {delivered : Bool} {after : Tap Sample}
    (stepped : tap.deliverStep delivered = some after) : Ring arithmetic after read := by
  unfold Tap.deliverStep at stepped
  split at stepped
  · next handled held frame phase =>
    dsimp only at stepped
    obtain ⟨whole, result⟩ := Option.ite_none_left_eq_some.mp stepped
    obtain rfl := Option.some.inj result
    obtain ⟨some, rfl, record, pushed, holds⟩ := ring.holding phase
    have stored := ring.stored
    have before := ring.delivered
    rw [phase] at stored before
    refine { ring with
      consuming := some
      stored := ?_
      history := ring.history.cons ⟨?_, ?_⟩
      delivered := ?_ }
    · intro count above below
      have start : read + 1 ≤ count := above
      obtain ⟨record, pushed, holds⟩ := stored count (Nat.le_of_succ_le start) below
      refine ⟨record, List.mem_cons_of_mem _ pushed, ?_⟩
      rw [if_neg (by omega)] at holds ⊢
      exact holds
    · exact ⟨record, holds.serial.symm ▸ pushed, holds.amplified (Nat.le_of_not_lt whole)⟩
    · intro other gains record member
      exact (before other gains record member).trans_eq holds.serial.symm
    · intro other gains record member
      show other < read + 1
      rcases List.mem_cons.mp member with same | earlier
      · obtain ⟨rfl, _⟩ := TapEvent.delivered.inj same
        rw [holds.serial]
        exact Nat.lt_succ_self read
      · exact Nat.lt_succ_of_lt (before other gains record earlier)
  · exact absurd stepped (by simp)

/-- The block is given back. -/
theorem popped (ring : Ring arithmetic tap read) {handled : Nat} {delivered : Bool} {seen : UInt32}
    (phase : tap.consumer = .leaving handled delivered seen) (consumer : TapConsumer)
    (sound : consumer.Sound (read + 1) (TapEvent.pushes tap.trace))
    (kept : consumer.kept (read + 1) = read + 1) (unscaled : consumer.scaled = 0) :
    Ring arithmetic { tap with readIndex := seen + 1, consumer } (read + 1) := by
  obtain ⟨readIndex, writeIndex, order, room, producing, consuming, stored, history, before⟩ := ring
  rw [phase] at consuming stored before
  obtain ⟨some, rfl⟩ := consuming
  refine {
    readIndex := ?_
    writeIndex := writeIndex
    order := some
    room := by dsimp only; omega
    producing := producing.mono (Nat.le_succ _) fun _ => rfl
    consuming := sound
    stored := ?_
    history := history
    delivered := fun serial gains record member =>
      (before serial gains record member).trans_eq kept.symm }
  · rw [UInt32.ofNat_add]
    rfl
  · intro count above below
    have start : read + 1 ≤ count := kept.symm.le.trans above
    obtain ⟨record, pushed, holds⟩ := stored count start below
    refine ⟨record, pushed, ?_⟩
    dsimp only
    rw [if_neg (by omega)] at holds
    rw [unscaled, ite_self]
    exact holds

/-- Every step of the drain; none but the head of the loop looks at the overruns. -/
theorem consumed (ring : Ring arithmetic tap read) {after : Tap Sample}
    (stepped : tap.consumeStep arithmetic = some after) :
    (∃ handled, tap.consumer = .looping handled ∧ after = tap.loopStep handled) ∨
      ∃ next, Ring arithmetic after next ∧ after.trace = tap.trace ∧
        after.overruns = tap.overruns ∧ ∀ counted,
          tap.consumer.Before read counted → after.consumer.Before next counted := by
  unfold Tap.consumeStep at stepped
  split at stepped
  · exact absurd stepped (by simp)
  · next handled phase => exact .inl ⟨handled, phase, (Option.some.inj stepped).symm⟩
  · next phase =>
    obtain rfl := Option.some.inj stepped
    refine .inr ⟨read, ring.moved ⟨_, ring.order, Nat.le_refl _, ring.writeIndex⟩
      (by rw [phase]; rfl) fun _ => by rw [phase]; rfl, rfl, rfl, ?_⟩
    rw [phase]
    exact fun _ before => before.elim
  · next phase =>
    obtain rfl := Option.some.inj stepped
    have consuming := ring.consuming
    have room := ring.room
    rw [phase] at consuming
    obtain ⟨seen, above, below, rfl⟩ := consuming
    refine .inr ⟨seen, ring.dropped phase above below, rfl, rfl, ?_⟩
    rw [phase]
    exact fun _ before => before seen above (by omega) rfl
  · next phase =>
    obtain rfl := Option.some.inj stepped
    refine .inr ⟨read, ring.moved ring.readIndex (by rw [phase]; rfl) fun _ => by rw [phase]; rfl,
      rfl, rfl, ?_⟩
    rw [phase]
    exact fun _ before => before
  · next handled seen phase =>
    obtain rfl := Option.some.inj stepped
    have consuming := ring.consuming
    rw [phase] at consuming
    obtain rfl := consuming
    refine .inr ⟨read, ring.moved ?_ ?_ fun _ => ?_, rfl, rfl, ?_⟩
    · split
      · exact trivial
      · next different =>
        rw [ring.writeIndex] at different
        refine ⟨Nat.lt_of_le_of_ne ring.order ?_, rfl⟩
        rintro same
        exact different (congrArg UInt32.ofNat same)
    · rw [phase]
      split <;> rfl
    · rw [phase]
      split <;> rfl
    · intro counted before
      rw [phase] at before
      dsimp only
      split
      · exact trivial
      · exact before
  · next handled held frame phase =>
    have scaled := ring.scaledOne phase stepped
    obtain ⟨_, result⟩ := Option.ite_none_right_eq_some.mp stepped
    obtain rfl := Option.some.inj result
    refine .inr ⟨read, scaled, rfl, rfl, ?_⟩
    rw [phase]
    exact fun _ before => before
  · next phase =>
    obtain rfl := Option.some.inj stepped
    have consuming := ring.consuming
    rw [phase] at consuming
    exact .inr ⟨read, ring.moved ⟨consuming, ring.readIndex⟩ (by rw [phase]; rfl)
      fun _ => by rw [phase]; rfl, rfl, rfl, fun _ _ => trivial⟩
  · next handled delivered seen phase =>
    obtain rfl := Option.some.inj stepped
    have left := ring.popped phase (if delivered then .looping (handled + 1) else .idle)
      (by split <;> exact trivial) (by split <;> rfl) (by split <;> rfl)
    refine .inr ⟨read + 1, { left with }, rfl, rfl, fun _ _ => ?_⟩
    dsimp only
    split <;> exact trivial
  · next phase =>
    obtain rfl := Option.some.inj stepped
    refine .inr ⟨read, ring.moved ?_ ?_ fun _ => ?_, rfl, rfl, fun _ _ => ?_⟩
    · split <;> exact trivial
    · rw [phase]
      split <;> rfl
    · rw [phase]
      split <;> rfl
    · dsimp only
      split <;> exact trivial
  · next phase =>
    obtain rfl := Option.some.inj stepped
    have closed : Ring arithmetic { tap with consumer := .idle } read :=
      ring.moved trivial (by rw [phase]; rfl) fun _ => by rw [phase]; rfl
    exact .inr ⟨read, { closed with }, rfl, rfl, fun _ _ => trivial⟩

/-- New gains arrive between drains. -/
theorem regained (ring : Ring arithmetic tap read) (idle : tap.consumer = .idle)
    (gains : Sample × Sample) : Ring arithmetic { tap with gains } read := by
  have unscaled : tap.consumer.scaled = 0 := by rw [idle]; rfl
  refine { ring with stored := ?_ }
  intro count above below
  obtain ⟨record, pushed, holds⟩ := ring.stored count above below
  rw [unscaled, ite_self] at holds
  refine ⟨record, pushed, ?_⟩
  dsimp only
  rw [unscaled, ite_self]
  exact holds.regain gains

/-- The drain is called. -/
theorem drained (ring : Ring arithmetic tap read) {after : Tap Sample}
    (stepped : tap.drainStep = some after) : Ring arithmetic after read := by
  unfold Tap.drainStep at stepped
  obtain ⟨⟨_, idle⟩, result⟩ := Option.ite_none_right_eq_some.mp stepped
  split at result
  · obtain rfl := Option.some.inj result
    exact { ring with }
  · split at result
    · obtain rfl := Option.some.inj result
      exact { ring with }
    · obtain rfl := Option.some.inj result
      have entered : Ring arithmetic { tap with consumer := .looping 0 } read :=
        ring.moved trivial (by rw [idle]; rfl) fun _ => by rw [idle]; rfl
      exact { entered with }

/-- Every step keeps the ring. -/
theorem step (arithmetic : Arithmetic Sample) :
    (Tap.system arithmetic).Preserves fun tap => ∃ read, Ring arithmetic tap read := by
  rintro tap label after ⟨read, ring⟩ stepped
  cases label with
  | push offer =>
    simp only [Tap.system, Tap.step] at stepped
    split at stepped
    · obtain rfl := Option.some.inj stepped
      exact ⟨read, ring.called offer⟩
    · exact absurd stepped (by simp)
  | fail code =>
    obtain rfl := Option.some.inj stepped
    exact ⟨read, { ring with }⟩
  | produce => exact ⟨read, ring.produced stepped⟩
  | drain => exact ⟨read, ring.drained stepped⟩
  | consume =>
    rcases ring.consumed stepped with ⟨handled, phase, rfl⟩ | ⟨next, kept, _⟩
    · exact ⟨read, ring.looped phase⟩
    · exact ⟨next, kept⟩
  | deliver delivered => exact ⟨read, ring.handed stepped⟩
  | gains gains =>
    obtain ⟨idle, result⟩ := Option.ite_none_right_eq_some.mp stepped
    obtain rfl := Option.some.inj result
    exact ⟨read, ring.regained idle gains⟩
  | stop =>
    obtain ⟨_, result⟩ := Option.ite_none_right_eq_some.mp stepped
    obtain rfl := Option.some.inj result
    exact ⟨read, { ring with }⟩

/-- A fresh ring. -/
theorem fresh (blocks : UInt32 → TapBlock Sample) (gains : Sample × Sample) :
    Ring arithmetic { blocks, gains } 0 where
  readIndex := rfl
  writeIndex := rfl
  order := Nat.le_refl _
  room := Nat.zero_le _
  producing := trivial
  consuming := trivial
  stored := fun count _ below => absurd below (Nat.not_lt_zero _)
  history := Each.nil
  delivered := fun serial gains record member => absurd member (by simp)

/-- Every reachable ring. -/
theorem reachable (reached : (Tap.system arithmetic).Reachable tap) :
    ∃ read, Ring arithmetic tap read := by
  refine (step arithmetic).reachable ?_ reached
  rintro tap ⟨blocks, gains, rfl⟩
  exact ⟨0, fresh blocks gains⟩

/-- The words are at most a ring apart. -/
theorem distance (ring : Ring arithmetic tap read) :
    (tap.writeIndex - tap.readIndex).toNat ≤ 16 := by
  have order := ring.order
  have room := ring.room
  rw [ring.writeIndex, ring.readIndex, Queue.Counter.toNat_sub order (by omega)]
  omega

/-- No step of the callback touches a block that the drain holds. -/
theorem untouched (ring : Ring arithmetic tap read) {held : UInt32} {after : Tap Sample}
    (peeked : tap.peeked = some held) (stepped : tap.produceStep arithmetic = some after) :
    after.blocks held = tap.blocks held := by
  have consuming := ring.consuming
  have producing := ring.producing
  have here : read < TapEvent.pushes tap.trace ∧ held = slot read := by
    unfold Tap.peeked at peeked
    split at peeked
    · next phase =>
      obtain rfl := Option.some.inj peeked
      rw [phase] at consuming
      exact consuming
    · next phase =>
      obtain rfl := Option.some.inj peeked
      rw [phase] at consuming
      exact ⟨consuming, by rw [ring.readIndex]; rfl⟩
    · next phase =>
      obtain rfl := Option.some.inj peeked
      rw [phase] at consuming
      exact ⟨consuming.1, by rw [ring.readIndex]; rfl⟩
    · exact absurd peeked (by simp)
  obtain ⟨some, rfl⟩ := here
  have apart : ∀ block, TapEvent.pushes tap.trace < read + 16 →
      (tap.setBlock (slot (TapEvent.pushes tap.trace)) block).blocks (slot read) =
        tap.blocks (slot read) := fun _ near => Tap.setBlock_other (slot_ne some near)
  unfold Tap.produceStep at stepped
  split at stepped
  · exact absurd stepped (by simp)
  · obtain rfl := Option.some.inj stepped
    rfl
  · obtain rfl := Option.some.inj stepped
    rfl
  · obtain rfl := Option.some.inj stepped
    rfl
  · next offer write seen phase =>
    obtain rfl := Option.some.inj stepped
    have after := (ring.decided phase).producing
    rw [phase] at producing
    obtain ⟨rfl, _⟩ := producing
    unfold Tap.decideStep at after ⊢
    split
    · rfl
    · next left accepted =>
      split
      · rfl
      · next room =>
        rw [accepted] at after
        dsimp only at after
        rw [if_neg room] at after
        exact apart _ after.2.1
  · next offer left write frame phase =>
    obtain rfl := Option.some.inj stepped
    rw [phase] at producing
    obtain ⟨rfl, near, _⟩ := producing
    unfold Tap.copyStep
    dsimp only
    split
    · split
      · rfl
      · exact apart _ near
    · rfl
  · obtain rfl := Option.some.inj stepped
    rfl

end Ring

end Plank.Audio
