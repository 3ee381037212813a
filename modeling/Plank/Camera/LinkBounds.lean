import Plank.Camera.SharedLink

/-!
# Reads of any memory stay inside their buffers

Whatever the memory of the link holds, and however it changes while a read goes on, the read copies
no more than its caller has room for and no more than a slot has words for.
-/

namespace Plank.Camera

/-- The clocks of a record that is read at this time. -/
structure Current (arrived hostTime now : UInt64) : Prop where
  /-- It did not arrive later. -/
  past : arrived ≤ now
  /-- It arrived not long ago. -/
  recent : now.toNat ≤ arrived.toNat + 150000000
  /-- It was captured not long ago. -/
  old : now.toNat ≤ hostTime.toNat + 150000000
  /-- It is not due much later. -/
  ahead : hostTime.toNat ≤ now.toNat + 100000000

namespace LinkReading

/-- What the checks of a slot allow. -/
structure Allowed (reading : LinkReading) : Prop where
  /-- The size fits the caller. -/
  capacity : reading.count ≤ reading.call.capacity
  /-- The size fits a slot. -/
  slot : reading.count.toNat ≤ recordBytes
  /-- There is a payload. -/
  payload : headerBytes < reading.count.toNat
  /-- The clocks agree. -/
  current : Current reading.arrived reading.time reading.call.now

/-- What is not refused is allowed. -/
theorem allowed_of_refused {reading : LinkReading} (passed : reading.refused = false) :
    reading.Allowed := by
  simp only [refused, Bool.or_eq_false_iff, decide_eq_false_iff_not, UInt64.not_lt,
    Nat.not_le, Nat.not_lt] at passed
  obtain ⟨⟨⟨⟨⟨⟨⟨⟨payload, slot⟩, capacity⟩, _⟩, _⟩, _⟩, past⟩, recent⟩, host⟩ := passed
  have before := UInt64.le_iff_toNat_le.mp past
  rw [UInt64.le_iff_toNat_le, UInt64.toNat_sub_of_le _ _ past] at recent
  have bound : linkMaxAge.toNat = 150000000 := rfl
  refine ⟨capacity, slot, payload, past, by omega, ?_, ?_⟩
  · split at host
    · next late =>
      have after := UInt64.lt_iff_toNat_lt.mp late
      omega
    · next early =>
      have order := UInt64.not_lt.mp early
      simp only [decide_eq_false_iff_not, UInt64.not_lt] at host
      rw [UInt64.le_iff_toNat_le, UInt64.toNat_sub_of_le _ _ order] at host
      have known := UInt64.le_iff_toNat_le.mp order
      omega
  · split at host
    · next late =>
      have order := UInt64.le_of_lt late
      simp only [decide_eq_false_iff_not, UInt64.not_lt] at host
      rw [UInt64.le_iff_toNat_le, UInt64.toNat_sub_of_le _ _ order] at host
      have ahead : (100000000 : UInt64).toNat = 100000000 := rfl
      have known := UInt64.le_iff_toNat_le.mp order
      omega
    · next early =>
      have order := UInt64.le_iff_toNat_le.mp (UInt64.not_lt.mp early)
      omega

/-- How far a read has come with its copy. -/
def Within (reading : LinkReading) : Prop :=
  match reading.place with
  | .word index => 8 * index < reading.count.toNat ∧ reading.record.length = 8 * index ∧
      reading.Allowed
  | .again => reading.record.length = reading.count.toNat ∧ reading.Allowed
  | _ => reading.record = []

/-- A word adds its bytes. -/
theorem length_word {size index : Nat} (inside : 8 * index < size) (value : Nat) :
    ((Wire.writeLe 8 value).take (wordLength size index)).length = min (8 * (index + 1)) size -
      8 * index := by
  rw [List.length_take, Wire.length_writeLe]
  unfold wordLength
  split <;> omega

/-- A load after which a read goes on. -/
inductive GoesOn (reading : LinkReading) (cursor value : UInt64) : UInt64 → LinkReading → Prop where
  /-- Something was published. -/
  | published (place : reading.place = .published) (newer : cursor < value)
    (limit : value < serialLimit) :
    GoesOn reading cursor value (cursor + 1) { reading with next := cursor + 1, place := .stamp }
  /-- The slot holds what the read looks for. -/
  | stamp (place : reading.place = .stamp) (same : value = reading.next <<< 1) :
    GoesOn reading cursor value cursor { reading with place := .size }
  /-- Its size. -/
  | size (place : reading.place = .size) :
    GoesOn reading cursor value cursor { reading with count := value, place := .hostTime }
  /-- Its host time. -/
  | hostTime (place : reading.place = .hostTime) :
    GoesOn reading cursor value cursor { reading with time := value, place := .arrived }
  /-- Its arrival, and the checks pass. -/
  | arrived (place : reading.place = .arrived)
    (allowed : ({ reading with arrived := value } : LinkReading).Allowed) :
    GoesOn reading cursor value cursor { reading with arrived := value, place := .word 0 }
  /-- One word of its payload. -/
  | word (index : Nat) (place : reading.place = .word index) :
    GoesOn reading cursor value cursor { reading with
      record := reading.record ++
        (Wire.writeLe 8 value.toNat).take (wordLength reading.count.toNat index)
      place := if 8 * (index + 1) < reading.count.toNat then .word (index + 1) else .again }

/-- These are all of them. -/
theorem goesOn_of_turn {reading later : LinkReading} {cursor value after : UInt64}
    (turned : reading.turn cursor value = .goOn after later) :
    GoesOn reading cursor value after later := by
  unfold turn at turned
  dsimp only at turned
  split at turned
  · next place =>
    split at turned
    · cases turned
    · next other =>
      split at turned
      · cases turned
      · next fits =>
        split at turned
        · cases turned
        · cases turned
          simp only [Bool.or_eq_true, decide_eq_true_eq, not_or, UInt64.not_lt, UInt64.not_le]
            at fits
          have newer : cursor < value :=
            UInt64.lt_of_le_of_ne fits.1 fun same => other same.symm
          exact .published place newer fits.2
  · next place =>
    split at turned
    · cases turned
    · next same =>
      cases turned
      exact .stamp place (not_not.mp same)
  · next place =>
    cases turned
    exact .size place
  · next place =>
    cases turned
    exact .hostTime place
  · next place =>
    split at turned
    · cases turned
    · next passed =>
      have allowed := allowed_of_refused (Bool.not_eq_true _ ▸ passed)
      have positive : 0 < reading.count.toNat := Nat.lt_of_le_of_lt (Nat.zero_le _) allowed.payload
      rw [if_pos positive] at turned
      cases turned
      exact .arrived place allowed
  · next index place =>
    cases turned
    exact .word index place
  · split at turned <;> cases turned

/-- A load that is followed by another one keeps the copy inside. -/
theorem within_turn {reading later : LinkReading} {cursor value after : UInt64}
    (within : reading.Within) (turned : GoesOn reading cursor value after later) :
    later.Within := by
  unfold Within at within
  cases turned with
  | published place | stamp place | size place | hostTime place =>
    rw [place] at within
    exact within
  | arrived place allowed =>
    rw [place] at within
    exact ⟨Nat.lt_of_le_of_lt (Nat.zero_le _) allowed.payload, congrArg List.length within,
      ⟨allowed.1, allowed.2, allowed.3, allowed.4⟩⟩
  | word index place =>
    rw [place] at within
    obtain ⟨inside, length, allowed⟩ := within
    have added := length_word inside value.toNat
    unfold Within
    by_cases further : 8 * (index + 1) < reading.count.toNat
    · rw [if_pos further]
      refine ⟨further, ?_, ⟨allowed.1, allowed.2, allowed.3, allowed.4⟩⟩
      rw [List.length_append, length, added]
      omega
    · rw [if_neg further]
      refine ⟨?_, ⟨allowed.1, allowed.2, allowed.3, allowed.4⟩⟩
      show _ = reading.count.toNat
      rw [List.length_append, length, added]
      omega

/-- The answer of a read is what was copied. -/
theorem frame_turn {reading : LinkReading} {cursor value after : UInt64} {record : List UInt8}
    {size hostTime : UInt64} {arrivalTime : Option UInt64}
    (turned : reading.turn cursor value = .done after (.frame record size hostTime arrivalTime)) :
    reading.place = .again ∧ value = reading.next <<< 1 ∧ after = cursor ∧
      record = reading.record ∧ size = reading.count ∧ hostTime = reading.time ∧
      arrivalTime = if reading.call.timed then some reading.arrived else none := by
  unfold turn at turned
  dsimp only at turned
  split at turned
  · split at turned
    · cases turned
    · split at turned
      · cases turned
      · split at turned <;> cases turned
  · split at turned <;> cases turned
  · cases turned
  · cases turned
  · split at turned <;> cases turned
  · cases turned
  · next last =>
    split at turned
    · cases turned
    · next same =>
      cases turned
      exact ⟨last, not_not.mp same, rfl, rfl, rfl, rfl, rfl⟩

end LinkReading

/-- What a read that returned 1 gave fits its buffer and its clocks. -/
structure LinkTaken.Within (taken : LinkTaken) : Prop where
  /-- The size fits the caller. -/
  capacity : taken.size ≤ taken.call.capacity
  /-- The size fits a slot. -/
  slot : taken.size.toNat ≤ recordBytes
  /-- So many bytes were copied. -/
  length : taken.record.length = taken.size.toNat

namespace SharedLink

/-- What holds of any memory. -/
structure Within (link : SharedLink) : Prop where
  /-- The read on its way stays inside. -/
  reader : ∀ reading, link.reader = some reading → reading.Within
  /-- So did those that returned 1. -/
  taken : ∀ taken ∈ link.taken, taken.Within

/-- Every step of either end, or of a hostile one, keeps the reads inside. -/
theorem within_step : hostile.Preserves Within := by
  intro link label after within stepped
  cases label with
  | write given frame =>
    replace stepped : link.step (.write given frame) = some after := stepped
    unfold step at stepped
    dsimp only at stepped
    split at stepped
    · cases stepped
    · split at stepped <;> cases stepped
      · exact ⟨within.reader, within.taken⟩
      · exact within
  | store =>
    obtain ⟨writing, _, rfl⟩ := Option.map_eq_some_iff.mp stepped
    exact ⟨within.reader, within.taken⟩
  | read given call =>
    replace stepped : link.step (.read given call) = some after := stepped
    unfold step at stepped
    dsimp only at stepped
    split at stepped
    · cases stepped
    · split at stepped <;> cases stepped
      · refine ⟨?_, within.taken⟩
        rintro reading ⟨⟩
        rfl
      · exact within
  | load =>
    obtain ⟨reading, busy, rfl⟩ := Option.map_eq_some_iff.mp stepped
    have inside := within.reader reading busy
    unfold loading
    split
    · next cursor later turned =>
      refine ⟨?_, within.taken⟩
      rintro reading ⟨⟩
      exact LinkReading.within_turn inside (LinkReading.goesOn_of_turn turned)
    · next cursor answer turned =>
      cases answer with
      | frame record size hostTime arrivalTime =>
        obtain ⟨last, _, _, rfl, rfl, rfl, _⟩ := LinkReading.frame_turn turned
        simp only [LinkReading.Within, last] at inside
        refine ⟨fun reading idle => absurd idle (by simp [answered]), ?_⟩
        intro taken member
        rcases List.mem_append.mp member with earlier | new
        · exact within.taken taken earlier
        · obtain rfl := List.mem_singleton.mp new
          exact ⟨inside.2.capacity, inside.2.slot, inside.1⟩
      | empty => exact ⟨fun reading idle => absurd idle (by simp [answered]), within.taken⟩
      | gap => exact ⟨fun reading idle => absurd idle (by simp [answered]), within.taken⟩
  | tamper memory =>
    cases stepped
    exact ⟨within.reader, within.taken⟩

/-- Reads of any memory stay inside their buffers. -/
theorem reachable_within {link : SharedLink} (reachable : hostile.Reachable link) :
    link.Within := by
  refine within_step.reachable ?_ reachable
  rintro link ⟨cursor, rfl⟩
  exact ⟨fun reading idle => absurd idle (by simp), fun taken none => absurd none (by simp)⟩

end SharedLink

end Plank.Camera
