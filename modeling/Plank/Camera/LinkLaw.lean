import Plank.Camera.LinkBounds
import Plank.Queue.Optimistic

/-!
# Reads of the shared camera memory give whole writes, in order

A slot is stamped with twice the serial of its write, and one more while the write goes on, so its
stamps only go up in the order of the writes. What a read copied is therefore a part of the write it
looked for as long as the slot still bears that stamp, and the last load asks for that.
-/

namespace Plank.Camera

open Queue (Seen stampOrder)

namespace LinkFrame

/-- The slot holds the whole record. -/
structure Held (frame : LinkFrame) (slot : LinkSlot) : Prop where
  /-- Its size. -/
  size : slot.size = frame.size
  /-- Its host time. -/
  hostTime : slot.hostTime = frame.hostTime
  /-- Its arrival. -/
  arrived : slot.arrived = frame.arrived
  /-- Its payload. -/
  words : ∀ index, 8 * index < frame.size.toNat → slot.words index = frame.word index

/-- What the slot holds before each store. -/
def Written (frame : LinkFrame) (slot : LinkSlot) : LinkStore → Prop
  | .begin | .size | .publish => True
  | .hostTime => slot.size = frame.size
  | .arrived => slot.size = frame.size ∧ slot.hostTime = frame.hostTime
  | .word index => slot.size = frame.size ∧ slot.hostTime = frame.hostTime ∧
      slot.arrived = frame.arrived ∧ ∀ other < index, slot.words other = frame.word other
  | .close => frame.Held slot

/-- What a read has copied before each load. -/
def Copied (frame : LinkFrame) (reading : LinkReading) : Prop :=
  match reading.place with
  | .published | .stamp | .size => True
  | .hostTime => reading.count = frame.size
  | .arrived => reading.count = frame.size ∧ reading.time = frame.hostTime
  | .word index => reading.count = frame.size ∧ reading.time = frame.hostTime ∧
      reading.arrived = frame.arrived ∧ reading.record = frame.bytes.take (8 * index)
  | .again => reading.count = frame.size ∧ reading.time = frame.hostTime ∧
      reading.arrived = frame.arrived ∧ reading.record = frame.bytes

/-- The bytes of a word come out as they went in. -/
theorem take_word (frame : LinkFrame) (index : Nat) :
    (Wire.writeLe 8 (frame.word index).toNat).take (wordLength frame.size.toNat index) =
      frame.wordBytes index := by
  have length : (frame.wordBytes index).length = wordLength frame.size.toNat index := by
    simp [wordBytes]
  have short : wordLength frame.size.toNat index ≤ 8 := by
    unfold wordLength
    split <;> omega
  have fits : Wire.readLe (frame.wordBytes index) < 256 ^ 8 :=
    Nat.lt_of_lt_of_le (Wire.readLe_lt _)
      (Nat.pow_le_pow_right (by decide) (by rw [length]; exact short))
  have whole : (frame.word index).toNat = Wire.readLe (frame.wordBytes index) := by
    rw [word, UInt64.toNat_ofNat']
    exact Nat.mod_eq_of_lt fits
  rw [Wire.take_writeLe short, whole, ← length, Wire.writeLe_readLe]

/-- The bytes of a word come behind those of the words before it. -/
theorem take_bytes (frame : LinkFrame) (index : Nat) (inside : 8 * index < frame.size.toNat) :
    frame.bytes.take (8 * index) ++ frame.wordBytes index = frame.bytes.take (8 * (index + 1)) := by
  have end_eq : min (8 * (index + 1)) frame.size.toNat =
      8 * index + wordLength frame.size.toNat index := by
    unfold wordLength
    split <;> omega
  unfold bytes wordBytes
  rw [← List.map_take, ← List.map_take, List.take_range, List.take_range, end_eq,
    Nat.min_eq_left (Nat.le_of_lt inside), List.range_add, List.map_append, List.map_map]
  rfl

end LinkFrame

/-- The slot of a serial, counted from zero. -/
theorem slotOf_eq {serial : UInt64} {index : Nat} (counted : serial.toNat = index + 1) :
    slotOf serial = index % 3 := by
  have one : (1 : UInt64) ≤ serial := UInt64.le_iff_toNat_le.mpr (by rw [counted]; simp)
  show ((serial - 1) % 3).toNat = _
  rw [UInt64.toNat_mod, UInt64.toNat_sub_of_le _ _ one, counted]
  rfl

/-- The stamp of a complete write. -/
theorem toNat_sealed {serial : UInt64} (small : serial.toNat < 0x8000000000000000) :
    (serial <<< 1).toNat = 2 * serial.toNat := by
  rw [UInt64.toNat_shiftLeft, show (1 : UInt64).toNat % 64 = 1 from rfl, Nat.shiftLeft_eq]
  omega

/-- The stamp of a write that goes on. -/
theorem toNat_open {serial : UInt64} (small : serial.toNat < 0x8000000000000000) :
    (serial <<< 1 ||| 1).toNat = 2 * serial.toNat + 1 := by
  have joined := Nat.two_pow_add_eq_or_of_lt (show 1 < 2 ^ 1 by decide) serial.toNat
  rw [UInt64.toNat_or, toNat_sealed small, show (1 : UInt64).toNat = 1 from rfl]
  rw [pow_one] at joined
  exact joined.symm

namespace SharedLink

/-- The slot a serial is looked for in. -/
def slot (link : SharedLink) (serial : UInt64) : LinkSlot := link.memory.slots (slotOf serial)

/-- How far the stamps go beyond the completed writes. -/
def height (link : SharedLink) : Nat :=
  match link.writer.map LinkWriting.place with
  | none | some .begin => 0
  | some .publish => 2
  | some _ => 1

/-- The producer's write and its slot. -/
structure Progress (link : SharedLink) (writing : LinkWriting) : Prop where
  /-- It is the last write. -/
  last : link.writes[link.completed]? = some writing.frame
  /-- Its slot is stamped for it. -/
  stamp : writing.place ≠ .begin → writing.place ≠ .publish →
    (link.slot link.serial).stamp.toNat = 2 * link.serial.toNat + 1
  /-- Its slot holds what was stored. -/
  written : writing.frame.Written (link.slot link.serial) writing.place

/-- What every step keeps of the producer and its slots. -/
structure Produced (link : SharedLink) : Prop where
  /-- The serial counts the writes. -/
  serial : link.serial.toNat = link.writes.length
  /-- It stays small. -/
  limit : link.serial.toNat < 0x7fffffffffffffff
  /-- What is published counts those that returned. -/
  published : link.memory.published.toNat = link.completed
  /-- Only the last one may still go on. -/
  completed : link.completed + (if link.writer.isSome then 1 else 0) = link.writes.length
  /-- A slot that is stamped for a complete write holds it. -/
  held : ∀ index frame, link.writes[index]? = some frame →
    (link.memory.slots (index % 3)).stamp.toNat = 2 * (index + 1) →
    frame.Held (link.memory.slots (index % 3))
  /-- No slot is stamped for a later write. -/
  order : ∀ slot, stampOrder (link.memory.slots slot).stamp.toNat ≤ 2 * link.completed + link.height
  /-- The write that goes on. -/
  writing : ∀ writing, link.writer = some writing → link.Progress writing

/-- What the consumer's read has of the write it looks for. -/
structure Consumed (link : SharedLink) (reading : LinkReading) : Prop where
  /-- It looks for the write after the last one. -/
  next : reading.next = link.cursor
  /-- There is one. -/
  positive : 0 < reading.next.toNat
  /-- It returned. -/
  returned : reading.next.toNat ≤ link.completed
  /-- What was copied is good while the slot bears its stamp. -/
  seen : reading.place ≠ .stamp → ∀ frame, link.writes[reading.next.toNat - 1]? = some frame →
    Seen (stampOrder (link.slot reading.next).stamp.toNat) (2 * reading.next.toNat)
      (frame.Copied reading)

/-- The stamps only go up. -/
def Rises (before after : SharedLink) : Prop :=
  ∀ slot, stampOrder (before.memory.slots slot).stamp.toNat ≤
    stampOrder (after.memory.slots slot).stamp.toNat

/-- The producer's slot, for a write that goes on. -/
theorem Produced.current {link : SharedLink} (produced : link.Produced) {writing : LinkWriting}
    (busy : link.writer = some writing) :
    link.serial.toNat = link.completed + 1 ∧ slotOf link.serial = link.completed % 3 := by
  have counted := produced.completed
  rw [busy] at counted
  have next : link.serial.toNat = link.completed + 1 := produced.serial.trans counted.symm
  exact ⟨next, slotOf_eq next⟩

/-- A store to the producer's slot. -/
theorem Produced.put {link : SharedLink} (produced : link.Produced) {writing : LinkWriting}
    (busy : link.writer = some writing) (change : LinkSlot → LinkSlot) (place : LinkStore)
    (height : Nat) (goes : height = SharedLink.height
      { link with writer := some ⟨writing.frame, place⟩ }) (higher : link.height ≤ height)
    (rises : stampOrder (link.slot link.serial).stamp.toNat ≤
      stampOrder (change (link.slot link.serial)).stamp.toNat)
    (bound : stampOrder (change (link.slot link.serial)).stamp.toNat ≤ 2 * link.completed + height)
    (held : (change (link.slot link.serial)).stamp.toNat = 2 * link.serial.toNat + 1 ∨
      (change (link.slot link.serial)).stamp.toNat = 2 * link.serial.toNat ∧
        writing.frame.Held (change (link.slot link.serial)))
    (stamp : place ≠ .begin → place ≠ .publish →
      (change (link.slot link.serial)).stamp.toNat = 2 * link.serial.toNat + 1)
    (written : writing.frame.Written (change (link.slot link.serial)) place) :
    Produced { link with
        memory := link.memory.update link.serial change
        writer := some ⟨writing.frame, place⟩ } ∧
      link.Rises { link with
        memory := link.memory.update link.serial change
        writer := some ⟨writing.frame, place⟩ } := by
  obtain ⟨next, here⟩ := produced.current busy
  have progress := produced.writing writing busy
  have put : (link.memory.update link.serial change).slots (slotOf link.serial) =
      change (link.slot link.serial) := if_pos rfl
  have other : ∀ slot ≠ slotOf link.serial,
      (link.memory.update link.serial change).slots slot = link.memory.slots slot :=
    fun slot differs => if_neg differs
  refine ⟨{
    serial := produced.serial
    limit := produced.limit
    published := produced.published
    completed := by
      have counted := produced.completed
      rw [busy] at counted
      exact counted
    held := ?_
    order := ?_
    writing := ?_ }, ?_⟩
  · intro index frame recorded stamped
    by_cases same : index % 3 = slotOf link.serial
    · rw [same] at stamped ⊢
      dsimp only at stamped ⊢
      rw [put] at stamped ⊢
      rcases held with going | ⟨sealed, whole⟩
      · omega
      · have found : index = link.completed := by omega
        subst found
        obtain rfl := Option.some.inj (recorded.symm.trans progress.last)
        exact whole
    · dsimp only at stamped ⊢
      rw [other _ same] at stamped ⊢
      exact produced.held index frame recorded stamped
  · intro slot
    show stampOrder ((link.memory.update link.serial change).slots slot).stamp.toNat ≤
      2 * link.completed + SharedLink.height { link with writer := some ⟨writing.frame, place⟩ }
    rw [← goes]
    by_cases same : slot = slotOf link.serial
    · rw [same, put]
      exact bound
    · rw [other _ same]
      have before := produced.order slot
      omega
  · rintro later ⟨⟩
    refine ⟨progress.last, ?_, ?_⟩
    · intro begun unpublished
      exact (congrArg (fun slot => slot.stamp.toNat) put).trans (stamp begun unpublished)
    · exact (congrArg (fun slot => writing.frame.Written slot place) put).mpr written
  · intro slot
    by_cases same : slot = slotOf link.serial
    · show _ ≤ stampOrder ((link.memory.update link.serial change).slots slot).stamp.toNat
      rw [same, put]
      exact rises
    · show _ ≤ stampOrder ((link.memory.update link.serial change).slots slot).stamp.toNat
      rw [other _ same]

/-- A store of the payload, between the two stamps. -/
theorem Produced.fill {link : SharedLink} (produced : link.Produced) {writing : LinkWriting}
    (busy : link.writer = some writing) (change : LinkSlot → LinkSlot) (place : LinkStore)
    (begun : writing.place ≠ .begin) (unpublished : writing.place ≠ .publish)
    (goes : SharedLink.height { link with writer := some ⟨writing.frame, place⟩ } = 1)
    (same : ∀ slot, (change slot).stamp = slot.stamp)
    (written : writing.frame.Written (change (link.slot link.serial)) place) :
    Produced { link with
        memory := link.memory.update link.serial change
        writer := some ⟨writing.frame, place⟩ } ∧
      link.Rises { link with
        memory := link.memory.update link.serial change
        writer := some ⟨writing.frame, place⟩ } := by
  have stamped := (produced.writing writing busy).stamp begun unpublished
  have height : link.height = 1 := by
    unfold SharedLink.height
    rw [busy, Option.map_some]
    split <;> simp_all
  have bound := produced.order (slotOf link.serial)
  refine produced.put busy change place 1 goes.symm (Nat.le_of_eq height) ?_ ?_ ?_ ?_ written
  · rw [same]
  · rw [same, ← height]
    exact bound
  · rw [same]
    exact .inl stamped
  · intro _ _
    rw [same]
    exact stamped

/-- Every store keeps the producer. -/
theorem Produced.storing {link : SharedLink} (produced : link.Produced) {writing : LinkWriting}
    (busy : link.writer = some writing) :
    (link.storing writing).Produced ∧ link.Rises (link.storing writing) := by
  obtain ⟨next, here⟩ := produced.current busy
  have progress := produced.writing writing busy
  have small : link.serial.toNat < 0x8000000000000000 := Nat.lt_trans produced.limit (by decide)
  have bound := produced.order (slotOf link.serial)
  have written := progress.written
  unfold SharedLink.storing
  unfold SharedLink.height at bound
  rw [busy, Option.map_some] at bound
  cases place : writing.place with
  | begin =>
    rw [place] at bound
    have opened : (link.serial <<< 1 ||| 1).toNat = 2 * link.serial.toNat + 1 := toNat_open small
    have order : stampOrder (link.serial <<< 1 ||| 1).toNat = 2 * link.completed + 1 := by
      rw [opened, Queue.stampOrder_open]
      omega
    refine produced.put busy (fun slot => { slot with stamp := link.serial <<< 1 ||| 1 }) .size 1
      rfl ?_ ?_ ?_ (.inl opened) (fun _ _ => opened) trivial
    · unfold SharedLink.height
      rw [busy, Option.map_some, place]
      exact Nat.zero_le 1
    · show _ ≤ stampOrder (link.serial <<< 1 ||| 1).toNat
      rw [order]
      exact Nat.le_succ_of_le bound
    · exact Nat.le_of_eq order
  | size =>
    exact produced.fill busy (fun slot => { slot with size := writing.frame.size }) .hostTime
      (by rw [place]; simp) (by rw [place]; simp) rfl (fun _ => rfl) rfl
  | hostTime =>
    rw [place] at written
    exact produced.fill busy (fun slot => { slot with hostTime := writing.frame.hostTime }) .arrived
      (by rw [place]; simp) (by rw [place]; simp) rfl (fun _ => rfl) ⟨written, rfl⟩
  | arrived =>
    rw [place] at written
    refine produced.fill busy (fun slot => { slot with arrived := writing.frame.arrived })
      (if 0 < writing.frame.size.toNat then .word 0 else .close)
      (by rw [place]; simp) (by rw [place]; simp) (by split <;> rfl) (fun _ => rfl) ?_
    split
    · exact ⟨written.1, written.2, rfl, fun other none => absurd none (Nat.not_lt_zero _)⟩
    · next empty =>
      exact ⟨written.1, written.2, rfl, fun index inside => absurd inside (by omega)⟩
  | word index =>
    rw [place] at written
    obtain ⟨size, hostTime, arrived, words⟩ := written
    have stored : ∀ other < index + 1, (if other = index then writing.frame.word index
        else (link.slot link.serial).words other) = writing.frame.word other := by
      intro other inside
      split
      · next same => rw [same]
      · next differs => exact words other (by omega)
    refine produced.fill busy (fun slot => { slot with
        words := fun other =>
          if other = index then writing.frame.word index else slot.words other })
      (if 8 * (index + 1) < writing.frame.size.toNat then .word (index + 1) else .close)
      (by rw [place]; simp) (by rw [place]; simp) (by split <;> rfl) (fun _ => rfl) ?_
    split
    · exact ⟨size, hostTime, arrived, stored⟩
    · exact ⟨size, hostTime, arrived, fun other inside => stored other (by omega)⟩
  | close =>
    rw [place] at written bound
    have sealed : (link.serial <<< 1).toNat = 2 * link.serial.toNat := toNat_sealed small
    have order : stampOrder (link.serial <<< 1).toNat = 2 * link.completed + 2 := by
      rw [sealed, (Queue.stampOrder_eq (by omega)).mpr rfl]
      omega
    refine produced.put busy (fun slot => { slot with stamp := link.serial <<< 1 }) .publish 2
      rfl ?_ ?_ ?_ (.inr ⟨sealed, ?_⟩) (fun _ published => absurd rfl published) trivial
    · unfold SharedLink.height
      rw [busy, Option.map_some, place]
      decide
    · show _ ≤ stampOrder (link.serial <<< 1).toNat
      rw [order]
      exact Nat.le_succ_of_le bound
    · exact Nat.le_of_eq order
    · exact ⟨written.size, written.hostTime, written.arrived, written.words⟩
  | publish =>
    rw [place] at bound
    refine ⟨{
      serial := produced.serial
      limit := produced.limit
      published := next
      completed := by
        have counted := produced.completed
        rw [busy] at counted
        exact counted
      held := produced.held
      order := ?_
      writing := fun later idle => absurd idle (by simp [LinkStore.next]) }, fun _ => Nat.le_refl _⟩
    intro slot
    have before := produced.order slot
    unfold SharedLink.height at before
    rw [busy, Option.map_some, place] at before
    exact before

/-- A slot that bears the stamp of a complete write holds it. -/
theorem Produced.held_slot {link : SharedLink} (produced : link.Produced) {serial : UInt64}
    (positive : 0 < serial.toNat) {frame : LinkFrame}
    (recorded : link.writes[serial.toNat - 1]? = some frame)
    (stamped : stampOrder (link.slot serial).stamp.toNat = 2 * serial.toNat) :
    frame.Held (link.slot serial) := by
  have here : slotOf serial = (serial.toNat - 1) % 3 := slotOf_eq (by omega)
  have sealed := (Queue.stampOrder_eq positive).mp stamped
  unfold slot at sealed ⊢
  rw [here] at sealed ⊢
  exact produced.held _ frame recorded (by omega)

/-- While the producer goes on, what was copied stays as good as it was. -/
theorem Consumed.rises {before after : SharedLink} {reading : LinkReading}
    (consumed : before.Consumed reading) (rises : before.Rises after)
    (cursor : after.cursor = before.cursor) (further : before.completed ≤ after.completed)
    (writes : ∀ index < before.completed, after.writes[index]? = before.writes[index]?) :
    after.Consumed reading where
  next := consumed.next.trans cursor.symm
  positive := consumed.positive
  returned := Nat.le_trans consumed.returned further
  seen unstamped frame recorded := by
    have returned := consumed.returned
    have positive := consumed.positive
    rw [writes _ (by omega)] at recorded
    exact (consumed.seen unstamped frame recorded).advance (rises (slotOf reading.next))

/-- The loads of a read that goes on. -/
theorem Produced.consumed {link : SharedLink} (produced : link.Produced)
    {reading later : LinkReading} {cursor : UInt64} (turned : LinkReading.GoesOn reading link.cursor
      (link.memory.load reading.next reading.place) cursor later)
    (within : reading.Within)
    (consumed : reading.place ≠ .published → link.Consumed reading) :
    SharedLink.Consumed { link with cursor, reader := some later } later := by
  cases turned with
  | published place newer limit =>
    rw [place] at newer limit
    have published : link.memory.published.toNat = link.completed := produced.published
    have less := UInt64.lt_iff_toNat_lt.mp newer
    have bound := UInt64.lt_iff_toNat_lt.mp limit
    replace less : link.cursor.toNat < link.memory.published.toNat := less
    have next : (link.cursor + 1).toNat = link.cursor.toNat + 1 := by
      have greatest := link.memory.published.toNat_lt
      rw [UInt64.toNat_add, show (1 : UInt64).toNat = 1 from rfl]
      omega
    refine ⟨rfl, ?_, ?_, fun other => absurd rfl other⟩
    · show 0 < (link.cursor + 1).toNat
      omega
    · show (link.cursor + 1).toNat ≤ link.completed
      omega
  | stamp place same =>
    have before := consumed (by rw [place]; simp)
    rw [place] at same
    have returned := before.returned
    have stamped : (link.slot reading.next).stamp.toNat = 2 * reading.next.toNat := by
      have small : reading.next.toNat < 0x8000000000000000 := by
        have limit := produced.limit
        have counted := produced.completed
        have serial := produced.serial
        omega
      exact (congrArg UInt64.toNat same).trans (toNat_sealed small)
    refine ⟨before.next, before.positive, returned, fun _ frame recorded => ?_⟩
    have order := (Queue.stampOrder_eq before.positive).mpr stamped
    exact ⟨Nat.le_of_eq order.symm, fun _ => trivial⟩
  | size place =>
    have before := consumed (by rw [place]; simp)
    refine ⟨before.next, before.positive, before.returned, fun _ frame recorded => ?_⟩
    refine (before.seen (by rw [place]; simp) frame recorded).copy fun stamped _ => ?_
    have held := produced.held_slot before.positive recorded stamped
    show link.memory.load reading.next reading.place = frame.size
    rw [place]
    exact held.size
  | hostTime place =>
    have before := consumed (by rw [place]; simp)
    refine ⟨before.next, before.positive, before.returned, fun _ frame recorded => ?_⟩
    refine (before.seen (by rw [place]; simp) frame recorded).copy fun stamped copied => ?_
    have held := produced.held_slot before.positive recorded stamped
    unfold LinkFrame.Copied at copied
    rw [place] at copied
    refine ⟨copied, ?_⟩
    show link.memory.load reading.next reading.place = frame.hostTime
    rw [place]
    exact held.hostTime
  | arrived place allowed =>
    have before := consumed (by rw [place]; simp)
    refine ⟨before.next, before.positive, before.returned, fun _ frame recorded => ?_⟩
    refine (before.seen (by rw [place]; simp) frame recorded).copy fun stamped copied => ?_
    have held := produced.held_slot before.positive recorded stamped
    unfold LinkFrame.Copied at copied
    unfold LinkReading.Within at within
    rw [place] at copied within
    refine ⟨copied.1, copied.2, ?_, within⟩
    show link.memory.load reading.next reading.place = frame.arrived
    rw [place]
    exact held.arrived
  | word index place =>
    have before := consumed (by rw [place]; simp)
    refine ⟨before.next, before.positive, before.returned, fun _ frame recorded => ?_⟩
    refine (before.seen (by rw [place]; simp) frame recorded).copy fun stamped copied => ?_
    have held := produced.held_slot before.positive recorded stamped
    unfold LinkFrame.Copied at copied
    unfold LinkReading.Within at within
    rw [place] at copied within
    obtain ⟨count, time, arrived, record⟩ := copied
    have inside : 8 * index < frame.size.toNat := count ▸ within.1
    have word : link.memory.load reading.next reading.place = frame.word index := by
      rw [place]
      exact held.words index inside
    have further : reading.record ++ (Wire.writeLe 8
        (link.memory.load reading.next reading.place).toNat).take
          (wordLength reading.count.toNat index) = frame.bytes.take (8 * (index + 1)) := by
      rw [word, count, frame.take_word, record, frame.take_bytes index inside]
    unfold LinkFrame.Copied
    by_cases more : 8 * (index + 1) < reading.count.toNat
    · simp only [if_pos more]
      exact ⟨count, time, arrived, further⟩
    · simp only [if_neg more]
      refine ⟨count, time, arrived, further.trans (List.take_of_length_le ?_)⟩
      rw [LinkFrame.bytes, List.length_map, List.length_range, ← count]
      omega

/-- A read that returned 1 gave one write that had returned, at its time. -/
structure Genuine (link : SharedLink) (taken : LinkTaken) : Prop where
  /-- It is the write of its serial, whole. -/
  written : ∃ frame, link.writes[taken.serial.toNat - 1]? = some frame ∧
    taken.record = frame.bytes ∧ taken.size = frame.size ∧ taken.hostTime = frame.hostTime ∧
    taken.arrivalTime = (if taken.call.timed then some frame.arrived else none) ∧
    Current frame.arrived frame.hostTime taken.call.now
  /-- That write had returned by then. -/
  returned : 0 < taken.serial.toNat ∧ taken.serial.toNat ≤ taken.completed
  /-- So many have returned. -/
  past : taken.completed ≤ link.completed

/-- What every step keeps. -/
structure Kept (link : SharedLink) : Prop where
  /-- The producer and its slots. -/
  produced : link.Produced
  /-- The read that goes on. -/
  consumed : ∀ reading, link.reader = some reading → reading.place ≠ .published →
    link.Consumed reading
  /-- The reads that returned 1. -/
  genuine : ∀ taken ∈ link.taken, link.Genuine taken
  /-- They are behind the cursor. -/
  behind : ∀ taken ∈ link.taken, taken.serial ≤ link.cursor
  /-- A read that goes on looks for a later write. -/
  fresh : ∀ reading, link.reader = some reading → reading.place ≠ .published →
    ∀ taken ∈ link.taken, taken.serial < link.cursor
  /-- Their serials go up. -/
  increasing : link.taken.Pairwise fun earlier later => earlier.serial < later.serial

/-- More writes leave what was read. -/
theorem Genuine.grows {before after : SharedLink} {taken : LinkTaken}
    (genuine : before.Genuine taken) (further : before.completed ≤ after.completed)
    (writes : ∀ index < before.completed, after.writes[index]? = before.writes[index]?) :
    after.Genuine taken := by
  obtain ⟨frame, recorded, rest⟩ := genuine.written
  have returned := genuine.returned
  have past := genuine.past
  refine ⟨⟨frame, ?_, rest⟩, returned, Nat.le_trans past further⟩
  rw [writes _ (by omega)]
  exact recorded

/-- The producer goes on while the consumer does nothing. -/
theorem Kept.produce {before after : SharedLink} (kept : before.Kept) (produced : after.Produced)
    (rises : before.Rises after) (further : before.completed ≤ after.completed)
    (writes : ∀ index < before.completed, after.writes[index]? = before.writes[index]?)
    (reader : after.reader = before.reader) (cursor : after.cursor = before.cursor)
    (taken : after.taken = before.taken) : after.Kept where
  produced := produced
  consumed reading busy begun := by
    rw [reader] at busy
    exact (kept.consumed reading busy begun).rises rises cursor further writes
  genuine := by
    rw [taken]
    exact fun taken member => (kept.genuine taken member).grows further writes
  behind := by
    rw [taken, cursor]
    exact kept.behind
  fresh := by
    rw [reader, taken, cursor]
    exact kept.fresh
  increasing := by
    rw [taken]
    exact kept.increasing

/-- A new write. -/
theorem Produced.write {link : SharedLink} (produced : link.Produced) (idle : link.writer = none)
    {frame : LinkFrame} (accepted : frame.accepted link.serial = true) :
    Produced { link with
      serial := link.serial + 1
      writer := some ⟨frame, .begin⟩
      writes := link.writes ++ [frame] } := by
  have room : link.serial < serialLimit - 1 :=
    of_decide_eq_true (Bool.and_eq_true_iff.mp accepted).2
  have bound : link.serial.toNat < 0x7ffffffffffffffe := UInt64.lt_iff_toNat_lt.mp room
  have next : (link.serial + 1).toNat = link.serial.toNat + 1 := by
    rw [UInt64.toNat_add, show (1 : UInt64).toNat = 1 from rfl]
    omega
  have counted := produced.completed
  rw [idle] at counted
  have height : link.height = 0 := by
    unfold SharedLink.height
    rw [idle]
    rfl
  exact {
    serial := by
      rw [next, List.length_append, produced.serial]
      rfl
    limit := by
      rw [next]
      omega
    published := produced.published
    completed := by
      rw [List.length_append, ← counted]
      rfl
    held := by
      intro index other recorded stamped
      have old : index < link.writes.length := by
        have bound := produced.order (index % 3)
        have positive : 0 < index + 1 := Nat.succ_pos index
        dsimp only at stamped
        rw [height, (Queue.stampOrder_eq positive).mpr stamped] at bound
        simp only [Option.isSome_none, Bool.false_eq_true, ↓reduceIte] at counted
        omega
      rw [List.getElem?_append_left old] at recorded
      exact produced.held index other recorded stamped
    order := by
      intro slot
      have bound := produced.order slot
      rw [height] at bound
      exact bound
    writing := by
      rintro writing ⟨⟩
      refine ⟨?_, fun other => absurd rfl other, trivial⟩
      have last : link.completed = link.writes.length := counted
      show (link.writes ++ [frame])[link.completed]? = some frame
      rw [last, List.getElem?_append_right (Nat.le_refl _), Nat.sub_self]
      rfl }

/-- A read never moves the cursor back. -/
theorem turn_cursor {reading : LinkReading} {cursor value after : UInt64} {answer : LinkAnswer}
    (turned : reading.turn cursor value = .done after answer) : cursor ≤ after := by
  unfold LinkReading.turn at turned
  dsimp only at turned
  split at turned
  · split at turned
    · cases turned
      exact UInt64.le_refl cursor
    · split at turned
      · cases turned
        exact UInt64.le_refl cursor
      · next fits =>
        split at turned
        · next far =>
          cases turned
          simp only [Bool.or_eq_true, decide_eq_true_eq, not_or, UInt64.not_lt] at fits
          have order := UInt64.le_iff_toNat_le.mp fits.1
          have apart := UInt64.lt_iff_toNat_lt.mp far
          have three : cameraSlots.toNat = 3 := rfl
          rw [UInt64.toNat_sub_of_le _ _ fits.1] at apart
          have one : (1 : UInt64).toNat = 1 := rfl
          have positive : 1 ≤ value := UInt64.le_iff_toNat_le.mpr (by omega)
          rw [UInt64.le_iff_toNat_le, UInt64.toNat_sub_of_le _ _ positive]
          omega
        · cases turned
  · split at turned <;> cases turned
    exact UInt64.le_refl cursor
  · cases turned
  · cases turned
  · split at turned <;> cases turned
    exact UInt64.le_refl cursor
  · cases turned
  · split at turned <;> cases turned <;> exact UInt64.le_refl cursor

/-- The consumer leaves the producer alone. -/
theorem Produced.aside {link : SharedLink} (produced : link.Produced) (cursor : UInt64)
    (reader : Option LinkReading) (taken : List LinkTaken) :
    Produced { link with cursor, reader, taken } where
  serial := produced.serial
  limit := produced.limit
  published := produced.published
  completed := produced.completed
  held := produced.held
  order := produced.order
  writing writing busy :=
    have progress := produced.writing writing busy
    ⟨progress.last, progress.stamp, progress.written⟩

/-- The end of a read that did not return 1. -/
theorem Kept.drop {link : SharedLink} (kept : link.Kept) {cursor : UInt64}
    (order : link.cursor ≤ cursor) : Kept { link with cursor, reader := none } where
  produced := kept.produced.aside _ _ _
  consumed _ idle := absurd idle (by simp)
  genuine taken member := { kept.genuine taken member with }
  behind taken member := UInt64.le_trans (kept.behind taken member) order
  fresh _ idle := absurd idle (by simp)
  increasing := kept.increasing

/-- The end of a read that returned 1. -/
theorem Kept.take {link : SharedLink} (kept : link.Kept) {reading : LinkReading}
    (busy : link.reader = some reading) (within : reading.Within) (last : reading.place = .again)
    (same : (link.slot reading.next).stamp = reading.next <<< 1) :
    Kept { link with
      reader := none
      taken := link.taken ++ [⟨reading.call, link.cursor, reading.record, reading.count,
        reading.time, if reading.call.timed then some reading.arrived else none,
        link.completed⟩] } := by
  have begun : reading.place ≠ .published := by
    rw [last]
    simp
  have consumed := kept.consumed reading busy begun
  have returned := consumed.returned
  have positive := consumed.positive
  have produced := kept.produced
  have counted := produced.completed
  have serial := produced.serial
  have limit := produced.limit
  have small : reading.next.toNat < 0x8000000000000000 := by omega
  have stamped : stampOrder (link.slot reading.next).stamp.toNat = 2 * reading.next.toNat :=
    (Queue.stampOrder_eq positive).mpr ((congrArg UInt64.toNat same).trans (toNat_sealed small))
  obtain ⟨frame, recorded⟩ : ∃ frame, link.writes[reading.next.toNat - 1]? = some frame :=
    ⟨_, List.getElem?_eq_getElem (by omega)⟩
  have seen := consumed.seen (by rw [last]; simp) frame recorded
  rw [stamped] at seen
  have copied := seen.valid
  unfold LinkFrame.Copied at copied
  unfold LinkReading.Within at within
  rw [last] at copied within
  obtain ⟨count, time, arrived, record⟩ := copied
  have current := within.2.current
  rw [time, arrived] at current
  have fresh := kept.fresh reading busy begun
  refine ⟨produced.aside _ _ _, fun _ idle => absurd idle (by simp), ?_, ?_,
    fun _ idle => absurd idle (by simp), ?_⟩
  · intro taken member
    rcases List.mem_append.mp member with earlier | new
    · exact { kept.genuine taken earlier with }
    · obtain rfl := List.mem_singleton.mp new
      rw [consumed.next] at recorded positive returned
      exact ⟨⟨frame, recorded, record, count, time, by rw [arrived], current⟩,
        ⟨positive, returned⟩, Nat.le_refl _⟩
  · intro taken member
    rcases List.mem_append.mp member with earlier | new
    · exact kept.behind taken earlier
    · obtain rfl := List.mem_singleton.mp new
      exact UInt64.le_refl _
  · refine List.pairwise_append.mpr ⟨kept.increasing, List.pairwise_singleton _ _, ?_⟩
    intro earlier old later new
    obtain rfl := List.mem_singleton.mp new
    exact fresh earlier old

/-- A load after which the read goes on. -/
theorem Kept.goOn {link : SharedLink} (kept : link.Kept) {reading later : LinkReading}
    {cursor : UInt64} (busy : link.reader = some reading) (within : reading.Within)
    (turned : LinkReading.GoesOn reading link.cursor
      (link.memory.load reading.next reading.place) cursor later) :
    Kept { link with cursor, reader := some later } := by
  have consumed := kept.produced.consumed turned within (kept.consumed reading busy)
  have moved : (reading.place = .published → link.cursor < cursor) ∧
      (reading.place ≠ .published → cursor = link.cursor) := by
    cases turned with
    | published place newer limit =>
      refine ⟨fun _ => ?_, fun other => absurd place other⟩
      have less := UInt64.lt_iff_toNat_lt.mp newer
      have greatest := (link.memory.load reading.next reading.place).toNat_lt
      rw [UInt64.lt_iff_toNat_lt, UInt64.toNat_add, show (1 : UInt64).toNat = 1 from rfl]
      omega
    | stamp place _ | size place | hostTime place | arrived place _ | word _ place =>
      exact ⟨fun other => absurd (place.symm.trans other) (by simp), fun _ => rfl⟩
  have less : ∀ taken ∈ link.taken, taken.serial < cursor := by
    intro taken member
    by_cases first : reading.place = .published
    · exact UInt64.lt_of_le_of_lt (kept.behind taken member) (moved.1 first)
    · rw [moved.2 first]
      exact kept.fresh reading busy first taken member
  refine ⟨kept.produced.aside _ _ _, ?_, fun taken member => { kept.genuine taken member with },
    fun taken member => UInt64.le_of_lt (less taken member), fun _ _ _ => less, kept.increasing⟩
  rintro other ⟨⟩ _
  exact consumed

/-- A load. -/
theorem Kept.load {link : SharedLink} (kept : link.Kept) {reading : LinkReading}
    (busy : link.reader = some reading) (within : reading.Within) :
    (link.loading reading).Kept := by
  unfold SharedLink.loading
  split
  · next cursor later turned => exact kept.goOn busy within (LinkReading.goesOn_of_turn turned)
  · next cursor answer turned =>
    cases answer with
    | frame record size hostTime arrivalTime =>
      obtain ⟨last, same, rfl, rfl, rfl, rfl, rfl⟩ := LinkReading.frame_turn turned
      rw [last] at same
      exact kept.take busy within last same
    | empty => exact kept.drop (turn_cursor turned)
    | gap => exact kept.drop (turn_cursor turned)

/-- Every step of the two ends keeps the link. -/
theorem kept_step {link after : SharedLink} {label : LinkLabel} (kept : link.Kept)
    (within : link.Within) (stepped : system.step link label = some after) : after.Kept := by
  obtain ⟨only, stepped⟩ := Option.ite_none_right_eq_some.mp stepped
  cases label with
  | write given frame =>
    replace stepped : link.step (.write given frame) = some after := stepped
    unfold step at stepped
    dsimp only at stepped
    split at stepped
    · cases stepped
    · next idle =>
      split at stepped <;> cases stepped
      · next accepted =>
        have produced := kept.produced.write idle (Bool.and_eq_true_iff.mp accepted).2
        refine kept.produce produced (fun _ => Nat.le_refl _) (Nat.le_refl _) ?_ rfl rfl rfl
        intro index inside
        have counted := kept.produced.completed
        exact List.getElem?_append_left (by omega)
      · exact kept
  | store =>
    obtain ⟨writing, busy, rfl⟩ := Option.map_eq_some_iff.mp stepped
    obtain ⟨produced, rises⟩ := kept.produced.storing busy
    refine kept.produce produced rises ?_ (fun _ _ => rfl) rfl rfl rfl
    show link.completed ≤ if writing.place = .publish then link.completed + 1 else link.completed
    split <;> omega
  | read given call =>
    replace stepped : link.step (.read given call) = some after := stepped
    unfold step at stepped
    dsimp only at stepped
    split at stepped
    · cases stepped
    · split at stepped <;> cases stepped
      · refine ⟨kept.produced.aside _ _ _, ?_, fun taken member =>
          { kept.genuine taken member with }, kept.behind, ?_, kept.increasing⟩
        · rintro reading ⟨⟩ begun
          exact absurd rfl begun
        · rintro reading ⟨⟩ begun
          exact absurd rfl begun
      · exact kept
  | load =>
    obtain ⟨reading, busy, rfl⟩ := Option.map_eq_some_iff.mp stepped
    exact kept.load busy (within.reader reading busy)
  | tamper memory => exact absurd only (by simp [honest])

/-- The link at the beginning. -/
theorem kept_initial (cursor : UInt64) : Kept { cursor } where
  produced := {
    serial := rfl
    limit := show (0 : UInt64).toNat < 0x7fffffffffffffff by decide
    published := rfl
    completed := rfl
    held := fun index frame none => absurd none (by simp)
    order := fun slot => Nat.le_refl _
    writing := fun writing idle => absurd idle (by simp) }
  consumed _ idle := absurd idle (by simp)
  genuine _ none := absurd none (by simp)
  behind _ none := absurd none (by simp)
  fresh _ idle := absurd idle (by simp)
  increasing := .nil

/-- The reads of one producer's memory. -/
structure Exchange (link : SharedLink) : Prop where
  /-- A read that returned 1 gave one whole write that had returned, at its time. -/
  genuine : ∀ taken ∈ link.taken, link.Genuine taken
  /-- Each gave a later write than the one before. -/
  increasing : link.taken.Pairwise fun earlier later => earlier.serial < later.serial

/-- The reads of any memory. -/
structure Confined (link : SharedLink) : Prop where
  /-- What a read returned fits its caller and a slot. -/
  returned : ∀ taken ∈ link.taken, taken.Within
  /-- So does what it has copied so far. -/
  copied : ∀ reading, link.reader = some reading →
    reading.record.length ≤ reading.call.capacity.toNat ∧ reading.record.length ≤ recordBytes
  /-- It loads the words of the slot alone. -/
  loads : ∀ reading index, link.reader = some reading → reading.place = .word index →
    index < recordWords

/-- Reads that stay inside are confined. -/
theorem Within.confined {link : SharedLink} (within : link.Within) : link.Confined where
  returned := within.taken
  copied reading busy := by
    have inside := within.reader reading busy
    unfold LinkReading.Within at inside
    split at inside
    · obtain ⟨less, length, allowed⟩ := inside
      have capacity := UInt64.le_iff_toNat_le.mp allowed.capacity
      have slot := allowed.slot
      omega
    · obtain ⟨length, allowed⟩ := inside
      have capacity := UInt64.le_iff_toNat_le.mp allowed.capacity
      have slot := allowed.slot
      omega
    · simp [inside]
  loads reading index busy place := by
    have inside := within.reader reading busy
    unfold LinkReading.Within at inside
    rw [place] at inside
    obtain ⟨less, _, allowed⟩ := inside
    have slot := allowed.slot
    unfold recordWords
    omega

/-- In every interleaving of the two ends the reads give whole writes in order, and over any memory
they stay inside their buffers. -/
theorem shared_link_safe : (∀ link, system.Reachable link → link.Exchange) ∧
    ∀ link, hostile.Reachable link → link.Confined := by
  refine ⟨fun link reachable => ?_, fun link reachable => (reachable_within reachable).confined⟩
  have kept : link.Kept := by
    refine Transition.System.Reachable.keeps ?_ ?_ reachable
    · intro before label after reached kept stepped
      exact kept_step kept (reachable_within reached.of_restrict) stepped
    · rintro link ⟨cursor, rfl⟩
      exact kept_initial cursor
  exact ⟨kept.genuine, kept.increasing⟩

/-- A frame is written, and read while the next one is being written. -/
def linkRun : List LinkLabel :=
  let frame : LinkFrame := ⟨fun byte => UInt8.ofNat byte, 67, 100, 90⟩
  List.flatten [[.write true frame], List.replicate 15 .store, [.write true frame, .store],
    [.read true ⟨4096, true, 120⟩], List.replicate 15 .load]

/-- The read gives the frame. -/
theorem sample_exchange : ∃ link, system.run {} linkRun = some link ∧
    link.taken.map (fun taken => (taken.serial, taken.size, taken.arrivalTime)) =
      [(1, 67, some 90)] ∧ link.Exchange ∧ link.Confined := by
  obtain ⟨link, evaluated, taken⟩ := Option.map_eq_some_iff.mp
    (show (system.run {} linkRun).map (fun link =>
      link.taken.map fun taken => (taken.serial, taken.size, taken.arrivalTime)) =
        some [(1, 67, some 90)] from by decide +kernel)
  have reached : system.Reachable link := Transition.System.reachable_of_run ⟨0, rfl⟩ evaluated
  exact ⟨link, evaluated, taken, shared_link_safe.1 link reached,
    shared_link_safe.2 link reached.of_restrict⟩

end SharedLink

end Plank.Camera
