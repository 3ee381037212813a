import Plank.Audio.SampleBuffer
import Plank.Queue.Optimistic

/-!
# Reads of the sample history give what was written for their frames

The frame whose sample a cell holds only goes up between two resets, so a reader that finds its
frame before and after has its sample. Every reset changes the generation twice, so a reader that
finds the generation it began with met no reset, unless the counter came all the way round.
-/

namespace Plank.Audio

open Queue (Seen)

variable {Sample : Type}

/-- A cell is one of so many. -/
theorem cellOf_lt (position : UInt64) : cellOf position < 8192 := by
  unfold cellOf
  rw [UInt64.toNat_mod]
  exact Nat.mod_lt _ (by decide)

/-- A frame of a call is at its distance. -/
theorem toNat_positionAt {frame : UInt64} {count : UInt32} {index : Nat}
    (fits : frame.toNat + count.toNat < 0x10000000000000000) (inside : index < count.toNat) :
    (positionAt frame index).toNat = frame.toNat + index ∧
      (positionAt frame index + 1).toNat = frame.toNat + index + 1 := by
  have small := count.toNat_lt
  have exact : (UInt64.ofNat index).toNat = index := UInt64.toNat_ofNat_of_lt' (by
    show index < 18446744073709551616
    omega)
  have position : (positionAt frame index).toNat = frame.toNat + index := by
    unfold positionAt
    rw [UInt64.toNat_add, exact]
    omega
  refine ⟨position, ?_⟩
  rw [UInt64.toNat_add, position, show (1 : UInt64).toNat = 1 from rfl]
  omega

/-- What the check of a call's arguments says. -/
theorem fits_of_check {frame : UInt64} {count : UInt32}
    (passed : ¬ (0xffffffffffffffff - count.toUInt64 < frame)) :
    frame.toNat + count.toNat < 0x10000000000000000 := by
  have widened : count.toUInt64.toNat = count.toNat := rfl
  have small := count.toNat_lt
  have greatest : (0xffffffffffffffff : UInt64).toNat = 0xffffffffffffffff := rfl
  have behind : count.toUInt64 ≤ 0xffffffffffffffff := by
    rw [UInt64.le_iff_toNat_le, widened]
    omega
  have bound := UInt64.le_iff_toNat_le.mp (UInt64.not_lt.mp passed)
  rw [UInt64.toNat_sub_of_le _ _ behind, widened] at bound
  omega

namespace SampleBuffer

/-- Whether a reset has begun and not completed. -/
def underway (buffer : SampleBuffer Sample) : Nat :=
  match buffer.writer with
  | .resetting _ .begin => 0
  | .resetting _ _ => 1
  | _ => 0

/-- How far the writer has come. -/
def Progress (buffer : SampleBuffer Sample) : Prop :=
  match buffer.writer with
  | .idle => True
  | .writing write place =>
    write.frame.toNat + write.count.toNat < 0x10000000000000000 ∧
    match place with
    | .check => 0 < write.count.toNat
    | .clear index => index < write.count.toNat
    | .bits index => index < write.count.toNat ∧
        (buffer.memory.samples (cellOf (positionAt write.frame index))).frame = 0
    | .stamp index => index < write.count.toNat ∧
        (buffer.memory.samples (cellOf (positionAt write.frame index))).frame = 0 ∧
        buffer.last (cellOf (positionAt write.frame index)) =
          (positionAt write.frame index).toNat + 1
  | .resetting _ place =>
    match place with
    | .clear cell => cell < 8192 ∧ ∀ other < cell, buffer.last other = 0
    | .finish => ∀ cell < 8192, buffer.last cell = 0
    | _ => True

/-- What every step keeps of the memory and its writer. -/
structure Stored (buffer : SampleBuffer Sample) : Prop where
  /-- At most one reset is under way. -/
  resets : buffer.opened = buffer.completed + buffer.underway
  /-- The generation counts both ends of every reset. -/
  generation : buffer.memory.generation.toNat =
    (2 + buffer.opened + buffer.completed) % 0x10000000000000000
  /-- A cell that bears a frame holds its sample. -/
  stamped : ∀ cell, (buffer.memory.samples cell).frame ≠ 0 →
    (buffer.memory.samples cell).frame.toNat = buffer.last cell
  /-- That sample was written for it, after the last reset. -/
  owned : ∀ cell, buffer.last cell ≠ 0 →
    ⟨buffer.completed, buffer.last cell - 1, (buffer.memory.samples cell).bits⟩ ∈ buffer.written
  /-- There are no other cells. -/
  beyond : ∀ cell, 8192 ≤ cell → buffer.last cell = 0
  /-- The writer. -/
  progress : buffer.Progress

/-- What only goes on. -/
structure Grows (before after : SampleBuffer Sample) : Prop where
  /-- Resets begin. -/
  opened : before.opened ≤ after.opened
  /-- Resets complete. -/
  completed : before.completed ≤ after.completed
  /-- Samples are written. -/
  written : ∀ entry ∈ before.written, entry ∈ after.written
  /-- Without a reset, the cells go on to later frames. -/
  last : after.opened = before.completed → ∀ cell, before.last cell ≤ after.last cell

/-- The frames of a read that were found so far. -/
def Found (pcm : Pcm Sample) (written : List (WrittenSample Sample)) (call : SampleRead)
    (began : Nat) (samples : List (Sample × Sample)) : Prop :=
  ∀ index sample, samples[index]? = some sample → sample ≠ (pcm.zero, pcm.zero) →
    ⟨began, call.frame.toNat + index, sample⟩ ∈ written

/-- How long the samples of a read are. -/
def Counted (reading : BufferReading Sample) : Prop :=
  match reading.place with
  | .generation | .first => reading.samples = []
  | .frame index => reading.samples.length = index ∧ index ≤ reading.call.count.toNat
  | .before index | .bits index | .after index =>
    reading.samples.length = index ∧ index < reading.call.count.toNat
  | .again => reading.samples.length = reading.call.count.toNat

/-- What a read knows of the cell it looks at. -/
def Looked (buffer : SampleBuffer Sample) (reading : BufferReading Sample) : Prop :=
  match reading.place with
  | .bits index =>
    let position := positionAt reading.call.frame index
    reading.before = position + 1 →
      Seen (buffer.last (cellOf position)) (position.toNat + 1) True
  | .after index =>
    let position := positionAt reading.call.frame index
    reading.before = position + 1 →
      Seen (buffer.last (cellOf position)) (position.toNat + 1)
        (⟨reading.began, position.toNat, reading.bits⟩ ∈ buffer.written)
  | _ => True

/-- What a read on its way has. -/
structure Sure (pcm : Pcm Sample) (buffer : SampleBuffer Sample) (reading : BufferReading Sample) :
    Prop where
  /-- Its frames are numbers. -/
  fits : reading.call.frame.toNat + reading.call.count.toNat < 0x10000000000000000
  /-- So many samples. -/
  counted : Counted reading
  /-- It began after so many resets. -/
  began : reading.place ≠ .generation → reading.began ≤ buffer.completed ∧
    reading.generation.toNat = (2 + 2 * reading.began) % 0x10000000000000000
  /-- If no reset began since, what it has is right. -/
  right : reading.place ≠ .generation → buffer.opened = reading.began →
    Found pcm buffer.written reading.call reading.began reading.samples ∧ buffer.Looked reading

/-- What a read returned is right, unless the generation came round while it went on. -/
structure Sound (pcm : Pcm Sample) (buffer : SampleBuffer Sample) (result : BufferResult Sample) :
    Prop where
  /-- A sample for every frame. -/
  length : result.samples.length = result.call.count.toNat
  /-- A sample that is not silence was written for its frame, after the last reset that had
  completed. -/
  found : result.opened < result.began + 0x8000000000000000 →
    Found pcm buffer.written result.call result.began result.samples
  /-- A read that met a reset is silent. -/
  met : result.began < result.opened → result.opened < result.began + 0x8000000000000000 →
    result.samples = silent pcm result.call

/-- What every step keeps. -/
structure Kept (pcm : Pcm Sample) (buffer : SampleBuffer Sample) : Prop where
  /-- The memory and its writer. -/
  stored : buffer.Stored
  /-- The reads on their way. -/
  sure : ∀ reader reading, buffer.readers reader = some reading → Sure pcm buffer reading
  /-- The reads that returned. -/
  sound : ∀ result ∈ buffer.returned, Sound pcm buffer result

variable {pcm : Pcm Sample} {before after buffer : SampleBuffer Sample}

/-- What was found stays found. -/
theorem Found.grows {written further : List (WrittenSample Sample)} {call : SampleRead}
    {began : Nat} {samples : List (Sample × Sample)} (found : Found pcm written call began samples)
    (more : ∀ entry ∈ written, entry ∈ further) : Found pcm further call began samples :=
  fun index sample here audible => more _ (found index sample here audible)

/-- The writer goes on while a read does nothing. -/
theorem Sure.grows {reading : BufferReading Sample} (sure : Sure pcm before reading)
    (stored : before.Stored) (grows : before.Grows after) : Sure pcm after reading where
  fits := sure.fits
  counted := sure.counted
  began placed :=
    ⟨Nat.le_trans (sure.began placed).1 grows.completed, (sure.began placed).2⟩
  right placed still := by
    obtain ⟨begun, _⟩ := sure.began placed
    have resets := stored.resets
    have opened := grows.opened
    obtain ⟨found, looked⟩ := sure.right placed (by omega)
    have last := grows.last (by omega)
    refine ⟨found.grows grows.written, ?_⟩
    unfold Looked at looked ⊢
    split at looked
    · exact fun same => (looked same).advance (last _)
    · exact fun same =>
        ((looked same).copy fun _ written => grows.written _ written).advance (last _)
    · trivial

/-- The writer goes on behind a read that returned. -/
theorem Sound.grows {result : BufferResult Sample} (sound : Sound pcm before result)
    (grows : before.Grows after) : Sound pcm after result where
  length := sound.length
  found few := (sound.found few).grows grows.written
  met := sound.met

/-- The writer turns to something else. -/
theorem Stored.move (stored : buffer.Stored) {writer : BufferWriter Sample}
    (still : underway { buffer with writer } = buffer.underway)
    (progress : Progress { buffer with writer }) : Stored { buffer with writer } where
  resets := by
    rw [still]
    exact stored.resets
  generation := stored.generation
  stamped := stored.stamped
  owned := stored.owned
  beyond := stored.beyond
  progress := progress

/-- The writer changes one cell. -/
theorem Stored.put (stored : buffer.Stored) {cell : Nat}
    {change : SampleCell Sample → SampleCell Sample} {writer : BufferWriter Sample}
    {last : Nat → Nat} {written : List (WrittenSample Sample)} (inside : cell < 8192)
    (still : underway { buffer with writer } = buffer.underway)
    (elsewhere : ∀ other, other ≠ cell → last other = buffer.last other)
    (more : ∀ entry ∈ buffer.written, entry ∈ written)
    (stamped : (change (buffer.memory.samples cell)).frame ≠ 0 →
      (change (buffer.memory.samples cell)).frame.toNat = last cell)
    (owned : last cell ≠ 0 →
      ⟨buffer.completed, last cell - 1, (change (buffer.memory.samples cell)).bits⟩ ∈ written)
    (progress : Progress
      { buffer with memory := buffer.memory.update cell change, writer, last, written }) :
    Stored { buffer with memory := buffer.memory.update cell change, writer, last, written } where
  resets := stored.resets.trans (congrArg (buffer.completed + ·) still.symm)
  generation := stored.generation
  stamped other := by
    show (if other = cell then change _ else _ : SampleCell Sample).frame ≠ 0 →
      (if other = cell then change _ else _ : SampleCell Sample).frame.toNat = last other
    by_cases here : other = cell
    · rw [if_pos here, here]
      exact stamped
    · rw [if_neg here, elsewhere other here]
      exact stored.stamped other
  owned other := by
    show last other ≠ 0 → ⟨buffer.completed, last other - 1,
      (if other = cell then change _ else _ : SampleCell Sample).bits⟩ ∈ written
    by_cases here : other = cell
    · rw [if_pos here, here]
      exact owned
    · rw [if_neg here, elsewhere other here]
      exact fun held => more _ (stored.owned other held)
  beyond other outside := by
    have differs : other ≠ cell := by omega
    exact (elsewhere other differs).trans (stored.beyond other outside)
  progress := progress

/-- What a changed cell holds. -/
theorem samples_update (memory : SampleMemory Sample) (cell : Nat)
    (change : SampleCell Sample → SampleCell Sample) :
    (memory.update cell change).samples cell = change (memory.samples cell) := if_pos rfl

/-- One access of a write. -/
theorem Stored.writing (stored : buffer.Stored) {write : SampleWrite Sample} {place : WritePlace}
    (busy : buffer.writer = .writing write place) (order : buffer.ordered .store = true) :
    (buffer.writing pcm write place).Stored ∧ buffer.Grows (buffer.writing pcm write place) := by
  have quiet : buffer.underway = 0 := by
    unfold underway
    rw [busy]
  have progress := stored.progress
  unfold Progress at progress
  rw [busy] at progress
  obtain ⟨fits, progress⟩ := progress
  have same : ∀ {memory : SampleMemory Sample} {writer : BufferWriter Sample},
      buffer.Grows { buffer with memory, writer } :=
    ⟨Nat.le_refl _, Nat.le_refl _, fun _ member => member, fun _ _ => Nat.le_refl _⟩
  cases place with
  | check =>
    unfold SampleBuffer.writing
    dsimp only
    split
    · exact ⟨stored.move quiet.symm ⟨fits, progress⟩, same⟩
    · exact ⟨stored.move quiet.symm trivial, same⟩
  | clear index =>
    refine ⟨stored.put (cellOf_lt _) quiet.symm (fun _ _ => rfl) (fun _ member => member)
      (fun stamped => absurd rfl stamped) (stored.owned _) ⟨fits, progress, ?_⟩, same⟩
    exact congrArg SampleCell.frame (samples_update buffer.memory _ fun cell =>
      { cell with frame := 0 })
  | bits index =>
    obtain ⟨inside, cleared⟩ := progress
    have later : buffer.last (cellOf (positionAt write.frame index)) ≤
        (positionAt write.frame index).toNat + 1 := by
      unfold ordered at order
      rw [busy] at order
      exact of_decide_eq_true order
    unfold SampleBuffer.writing
    dsimp only
    refine ⟨stored.put (cellOf_lt _) quiet.symm (fun _ differs => if_neg differs)
      (fun _ member => List.mem_append_left _ member) ?_ ?_ ⟨fits, inside, ?_, if_pos rfl⟩,
      ⟨Nat.le_refl _, Nat.le_refl _, fun _ member => List.mem_append_left _ member, ?_⟩⟩
    · exact fun stamped => absurd cleared stamped
    · intro _
      rw [if_pos rfl, Nat.add_sub_cancel]
      exact List.mem_append_right _ (List.mem_singleton.mpr rfl)
    · exact (congrArg SampleCell.frame (samples_update buffer.memory _ fun cell =>
        { cell with bits := clamped pcm write index })).trans cleared
    · intro _ cell
      dsimp only
      split
      · next here =>
        rw [here]
        exact later
      · exact Nat.le_refl _
  | stamp index =>
    obtain ⟨inside, cleared, held⟩ := progress
    obtain ⟨position, stamp⟩ := toNat_positionAt fits inside
    unfold SampleBuffer.writing
    dsimp only
    refine ⟨stored.put (cellOf_lt _) ?_ (fun _ _ => rfl) (fun _ member => member)
      (fun _ => stamp.trans (by rw [held, position])) (stored.owned _) ?_, same⟩
    · rw [quiet]
      by_cases further : index + 1 < write.count.toNat
      · rw [if_pos further]
        rfl
      · rw [if_neg further]
        rfl
    · by_cases further : index + 1 < write.count.toNat
      · rw [if_pos further]
        exact ⟨fits, further⟩
      · rw [if_neg further]
        trivial

/-- One access of a reset. -/
theorem Stored.resetting (stored : buffer.Stored) {firstFrame : UInt64} {place : ResetPlace}
    (busy : buffer.writer = .resetting firstFrame place) :
    (buffer.resetting firstFrame place).Stored ∧
      buffer.Grows (buffer.resetting firstFrame place) := by
  have resets := stored.resets
  have generation := stored.generation
  have progress := stored.progress
  have next : (buffer.memory.generation + 1).toNat =
      (2 + buffer.opened + buffer.completed + 1) % 0x10000000000000000 := by
    rw [UInt64.toNat_add, generation, show (1 : UInt64).toNat = 1 from rfl]
    omega
  unfold underway at resets
  unfold Progress at progress
  rw [busy] at resets progress
  cases place with
  | begin =>
    replace resets : buffer.opened = buffer.completed + 0 := resets
    refine ⟨⟨?_, ?_, stored.stamped, stored.owned, stored.beyond, trivial⟩,
      ⟨Nat.le_succ _, Nat.le_refl _, fun _ member => member, fun still => ?_⟩⟩
    · exact congrArg (· + 1) resets
    · refine next.trans (congrArg (· % 0x10000000000000000) ?_)
      show _ = 2 + (buffer.opened + 1) + buffer.completed
      omega
    · replace still : buffer.opened + 1 = buffer.completed := still
      omega
  | first =>
    replace resets : buffer.opened = buffer.completed + 1 := resets
    exact ⟨⟨resets, stored.generation, stored.stamped, stored.owned, stored.beyond,
      by decide, fun _ none => absurd none (Nat.not_lt_zero _)⟩,
      ⟨Nat.le_refl _, Nat.le_refl _, fun _ member => member, fun _ _ => Nat.le_refl _⟩⟩
  | clear cell =>
    replace resets : buffer.opened = buffer.completed + 1 := resets
    obtain ⟨inside, cleared⟩ := progress
    have further : ∀ other < cell + 1, (if other = cell then 0 else buffer.last other) = 0 := by
      intro other less
      split
      · rfl
      · exact cleared other (by omega)
    have count : micFrames.toNat = 8192 := rfl
    refine ⟨stored.put inside ?_ (fun _ differs => if_neg differs) (fun _ member => member)
      (fun stamped => absurd rfl stamped) (fun held => absurd (if_pos rfl) held) ?_,
      ⟨Nat.le_refl _, Nat.le_refl _, fun _ member => member, fun still => ?_⟩⟩
    · unfold underway
      rw [busy]
      by_cases more : cell + 1 < micFrames.toNat
      · rw [if_pos more]
      · rw [if_neg more]
    · by_cases more : cell + 1 < micFrames.toNat
      · rw [if_pos more]
        exact ⟨more, further⟩
      · rw [if_neg more]
        exact fun other less => further other (by omega)
    · replace still : buffer.opened = buffer.completed := still
      omega
  | finish =>
    replace resets : buffer.opened = buffer.completed + 1 := resets
    have cleared : ∀ cell, buffer.last cell = 0 := by
      intro cell
      by_cases inside : cell < 8192
      · exact progress cell inside
      · exact stored.beyond cell (Nat.le_of_not_lt inside)
    exact ⟨⟨resets, next, stored.stamped, fun cell held => absurd (cleared cell) held,
      stored.beyond, trivial⟩,
      ⟨Nat.le_refl _, Nat.le_succ _, fun _ member => member, fun _ _ => Nat.le_refl _⟩⟩

/-- Silence was found anywhere. -/
theorem found_silent (written : List (WrittenSample Sample)) (call : SampleRead) (began : Nat) :
    Found pcm written call began (silent pcm call) := by
  intro index sample here audible
  exact absurd (List.eq_of_mem_replicate (List.mem_of_getElem? here)) audible

/-- One more frame is found. -/
theorem Found.snoc {written : List (WrittenSample Sample)} {call : SampleRead} {began : Nat}
    {samples : List (Sample × Sample)} (found : Found pcm written call began samples)
    {sample : Sample × Sample} (next : sample ≠ (pcm.zero, pcm.zero) →
      ⟨began, call.frame.toNat + samples.length, sample⟩ ∈ written) :
    Found pcm written call began (samples ++ [sample]) := by
  intro index other here audible
  rcases Nat.lt_or_ge index samples.length with earlier | last
  · rw [List.getElem?_append_left earlier] at here
    exact found index other here audible
  · rw [List.getElem?_append_right last, List.getElem?_singleton] at here
    obtain ⟨first, same⟩ := Option.ite_none_right_eq_some.mp here
    obtain rfl := Option.some.inj same
    obtain rfl : index = samples.length := by omega
    exact next audible

/-- A read meets the generation it began with only if it met no reset. -/
theorem Stored.same_generation (stored : buffer.Stored) {reading : BufferReading Sample}
    (began : reading.began ≤ buffer.completed ∧
      reading.generation.toNat = (2 + 2 * reading.began) % 0x10000000000000000)
    (few : buffer.opened < reading.began + 0x8000000000000000) :
    reading.generation = buffer.memory.generation ↔ buffer.opened = reading.began := by
  have generation := stored.generation
  have resets := stored.resets
  obtain ⟨before, at_⟩ := began
  rw [← UInt64.toNat_inj, generation, at_]
  constructor
  · intro same
    omega
  · intro still
    have completed : buffer.completed = reading.began := by omega
    rw [still, completed]
    omega

/-- An access after which a read goes on. -/
theorem Kept.set (kept : Kept pcm buffer) (reader : Nat) {reading : BufferReading Sample}
    (sure : Sure pcm buffer reading) : Kept pcm (buffer.setReader reader (some reading)) where
  stored := { kept.stored with }
  sure other held busy := by
    have grows : buffer.Grows (buffer.setReader reader (some reading)) :=
      ⟨Nat.le_refl _, Nat.le_refl _, fun _ member => member, fun _ _ => Nat.le_refl _⟩
    replace busy : (if other = reader then some reading else buffer.readers other) = some held :=
      busy
    split at busy
    · obtain rfl := Option.some.inj busy
      exact sure.grows kept.stored grows
    · exact (kept.sure other held busy).grows kept.stored grows
  sound result member := (kept.sound result member).grows
    ⟨Nat.le_refl _, Nat.le_refl _, fun _ member => member, fun _ _ => Nat.le_refl _⟩

/-- The end of a read. -/
theorem Kept.finish (kept : Kept pcm buffer) (reader : Nat) {call : SampleRead} {began : Nat}
    {samples : List (Sample × Sample)}
    (sound : Sound pcm buffer ⟨call, samples, began, buffer.opened⟩) :
    Kept pcm (buffer.finish reader call began samples) where
  stored := { kept.stored with }
  sure other held busy := by
    replace busy : (if other = reader then none else buffer.readers other) = some held := busy
    split at busy
    · cases busy
    · exact (kept.sure other held busy).grows kept.stored
        ⟨Nat.le_refl _, Nat.le_refl _, fun _ member => member, fun _ _ => Nat.le_refl _⟩
  sound result member := by
    have grows : buffer.Grows (buffer.finish reader call began samples) :=
      ⟨Nat.le_refl _, Nat.le_refl _, fun _ member => member, fun _ _ => Nat.le_refl _⟩
    rcases List.mem_append.mp member with earlier | new
    · exact (kept.sound result earlier).grows grows
    · obtain rfl := List.mem_singleton.mp new
      exact sound.grows grows

/-- The first load of a read. -/
theorem Kept.loadGeneration (kept : Kept pcm buffer) {reader : Nat} {reading : BufferReading Sample}
    (busy : buffer.readers reader = some reading) (place : reading.place = .generation) :
    Kept pcm (buffer.loading pcm reader reading) := by
  have sure := kept.sure reader reading busy
  have counted := sure.counted
  unfold Counted at counted
  rw [place] at counted
  unfold SampleBuffer.loading
  rw [place]
  dsimp only
  split
  · refine kept.finish reader ⟨?_, fun _ => found_silent _ _ _, fun _ _ => rfl⟩
    exact List.length_replicate
  · next even =>
    have generation := kept.stored.generation
    have resets := kept.stored.resets
    have few : buffer.underway ≤ 1 := by
      unfold underway
      split <;> omega
    have settled : buffer.opened = buffer.completed := by
      have whole : buffer.memory.generation.toNat % 2 ≠ 1 := by
        intro odd
        exact even (UInt64.toNat_inj.mp (by rw [UInt64.toNat_mod]; exact odd))
      omega
    refine kept.set reader ⟨sure.fits, counted, fun _ => ⟨Nat.le_refl _, ?_⟩, fun _ _ => ⟨?_, ?_⟩⟩
    · show buffer.memory.generation.toNat = (2 + 2 * buffer.completed) % _
      rw [generation, settled]
      omega
    · show Found pcm _ _ _ reading.samples
      rw [counted]
      exact fun index sample none => absurd none (by simp)
    · trivial

/-- A cell that bears a frame holds its sample. -/
theorem Stored.held (stored : buffer.Stored) {position : UInt64}
    (fits : (position + 1).toNat = position.toNat + 1)
    (stamped : (buffer.memory.samples (cellOf position)).frame = position + 1) :
    buffer.last (cellOf position) = position.toNat + 1 := by
  have marked : (buffer.memory.samples (cellOf position)).frame ≠ 0 := by
    rw [stamped]
    intro zero
    rw [zero] at fits
    exact absurd fits (by simp)
  rw [← stored.stamped (cellOf position) marked, stamped, fits]

/-- Every access of a read. -/
theorem Kept.load (kept : Kept pcm buffer) {reader : Nat} {reading : BufferReading Sample}
    (busy : buffer.readers reader = some reading) :
    Kept pcm (buffer.loading pcm reader reading) := by
  have sure := kept.sure reader reading busy
  have counted := sure.counted
  have fits := sure.fits
  have stored := kept.stored
  cases place : reading.place with
  | generation => exact kept.loadGeneration busy place
  | first =>
    unfold Counted at counted
    rw [place] at counted
    unfold SampleBuffer.loading
    rw [place]
    refine kept.set reader ⟨fits, ⟨congrArg List.length counted, Nat.zero_le _⟩,
      fun _ => sure.began (by rw [place]; simp), fun _ still => ⟨?_, trivial⟩⟩
    exact (sure.right (by rw [place]; simp) still).1
  | frame index =>
    have began := sure.began (by rw [place]; simp)
    have right := sure.right (by rw [place]; simp)
    unfold Counted at counted
    rw [place] at counted
    obtain ⟨length, bound⟩ := counted
    unfold SampleBuffer.loading
    rw [place]
    dsimp only
    split
    · next inside =>
      split
      · refine kept.set reader ⟨fits, ⟨?_, inside⟩, fun _ => began, fun _ still => ⟨?_, trivial⟩⟩
        · rw [List.length_append, length]
          rfl
        · exact (right still).1.snoc fun audible => absurd rfl audible
      · exact kept.set reader ⟨fits, ⟨length, inside⟩, fun _ => began,
          fun _ still => ⟨(right still).1, trivial⟩⟩
    · next outside =>
      refine kept.set reader ⟨fits, ?_, fun _ => began, fun _ still => ⟨(right still).1, trivial⟩⟩
      show reading.samples.length = reading.call.count.toNat
      omega
  | before index =>
    have began := sure.began (by rw [place]; simp)
    have right := sure.right (by rw [place]; simp)
    unfold Counted at counted
    rw [place] at counted
    obtain ⟨position, next⟩ := toNat_positionAt fits counted.2
    unfold SampleBuffer.loading
    rw [place]
    refine kept.set reader ⟨fits, counted, fun _ => began,
      fun _ still => ⟨(right still).1, fun same => ?_⟩⟩
    exact ⟨Nat.le_of_eq (stored.held (next.trans (congrArg (· + 1) position.symm)) same).symm,
      fun _ => trivial⟩
  | bits index =>
    have began := sure.began (by rw [place]; simp)
    have right := sure.right (by rw [place]; simp)
    unfold Counted at counted
    rw [place] at counted
    unfold SampleBuffer.loading
    rw [place]
    refine kept.set reader ⟨fits, counted, fun _ => began,
      fun _ still => ⟨(right still).1, fun same => ?_⟩⟩
    have looked := (right still).2
    unfold Looked at looked
    rw [place] at looked
    refine (looked same).copy fun held _ => ?_
    replace still : buffer.opened = reading.began := still
    have resets := stored.resets
    have owned := stored.owned (cellOf (positionAt reading.call.frame index)) (by omega)
    have completed : buffer.completed = reading.began := by omega
    rw [held, completed, Nat.add_sub_cancel] at owned
    exact owned
  | after index =>
    have began := sure.began (by rw [place]; simp)
    have right := sure.right (by rw [place]; simp)
    unfold Counted at counted
    rw [place] at counted
    obtain ⟨position, next⟩ := toNat_positionAt fits counted.2
    unfold SampleBuffer.loading
    rw [place]
    refine kept.set reader ⟨fits, ⟨?_, counted.2⟩, fun _ => began,
      fun _ still => ⟨(right still).1.snoc fun audible => ?_, trivial⟩⟩
    · rw [List.length_append, counted.1]
      rfl
    · have looked := (right still).2
      unfold Looked at looked
      rw [place] at looked
      split at audible
      · next both =>
        obtain ⟨same, again⟩ := Bool.and_eq_true_iff.mp both
        have before := of_decide_eq_true same
        have held := stored.held (next.trans (congrArg (· + 1) position.symm))
          ((of_decide_eq_true again).trans before)
        have seen := looked before
        rw [held] at seen
        rw [if_pos both, counted.1, ← position]
        exact seen.valid
      · exact absurd rfl audible
  | again =>
    have began := sure.began (by rw [place]; simp)
    have right := sure.right (by rw [place]; simp)
    unfold Counted at counted
    rw [place] at counted
    unfold SampleBuffer.loading
    rw [place]
    dsimp only
    split
    · exact kept.finish reader ⟨List.length_replicate, fun _ => found_silent _ _ _, fun _ _ => rfl⟩
    · next same =>
      refine kept.finish reader ⟨counted, fun few => ?_, fun met few => ?_⟩
      · exact (right ((stored.same_generation began few).mp (not_not.mp same))).1
      · have still := (stored.same_generation began few).mp (not_not.mp same)
        replace met : reading.began < buffer.opened := met
        omega

/-- The writer goes on while the readers do nothing. -/
theorem Kept.write (kept : Kept pcm before) (stored : after.Stored) (grows : before.Grows after)
    (readers : after.readers = before.readers) (returned : after.returned = before.returned) :
    Kept pcm after where
  stored := stored
  sure reader reading busy := by
    rw [readers] at busy
    exact (kept.sure reader reading busy).grows kept.stored grows
  sound result member := by
    rw [returned] at member
    exact (kept.sound result member).grows grows

/-- Every step keeps the history. -/
theorem kept_step (pcm : Pcm Sample) : (system pcm).Preserves (Kept pcm) := by
  intro buffer label after kept stepped
  obtain ⟨order, stepped⟩ := Option.ite_none_right_eq_some.mp stepped
  have stored := kept.stored
  have same : ∀ {writer : BufferWriter Sample}, buffer.Grows { buffer with writer } :=
    ⟨Nat.le_refl _, Nat.le_refl _, fun _ member => member, fun _ _ => Nat.le_refl _⟩
  cases label with
  | write samples frame count =>
    replace stepped : step pcm buffer (.write samples frame count) = some after := stepped
    unfold step at stepped
    dsimp only at stepped
    split at stepped
    · next idle =>
      split at stepped
      · cases stepped
        exact kept
      · split at stepped
        · cases stepped
          exact kept
        · next given checked =>
          cases stepped
          simp only [Bool.or_eq_true, decide_eq_true_eq, not_or] at checked
          obtain ⟨⟨some_, _⟩, fits⟩ := checked
          refine kept.write (stored.move ?_ ⟨fits_of_check fits, ?_⟩) same rfl rfl
          · unfold underway
            rw [idle]
          · exact Nat.pos_of_ne_zero fun zero => some_ (UInt32.toNat_inj.mp zero)
    · cases stepped
  | reset firstFrame =>
    replace stepped : step pcm buffer (.reset firstFrame) = some after := stepped
    unfold step at stepped
    dsimp only at stepped
    split at stepped
    · next idle =>
      cases stepped
      refine kept.write (stored.move ?_ trivial) same rfl rfl
      unfold underway
      rw [idle]
    · cases stepped
  | store =>
    replace stepped : step pcm buffer .store = some after := stepped
    unfold step at stepped
    dsimp only at stepped
    split at stepped
    · cases stepped
    · next write place busy =>
      cases stepped
      obtain ⟨written, grows⟩ := stored.writing busy order
      refine kept.write written grows ?_ ?_
      · cases place <;> unfold SampleBuffer.writing <;> dsimp only
        split <;> rfl
      · cases place <;> unfold SampleBuffer.writing <;> dsimp only
        split <;> rfl
    · next firstFrame place busy =>
      cases stepped
      obtain ⟨reset, grows⟩ := stored.resetting busy
      refine kept.write reset grows ?_ ?_
      · cases place <;> rfl
      · cases place <;> rfl
  | read reader given frame count =>
    replace stepped : step pcm buffer (.read reader given frame count) = some after := stepped
    unfold step at stepped
    dsimp only at stepped
    split at stepped
    · cases stepped
    · split at stepped
      · cases stepped
        exact kept
      · split at stepped
        · cases stepped
          exact kept.finish reader ⟨List.length_replicate, fun _ => found_silent _ _ _,
            fun _ _ => rfl⟩
        · next checked =>
          cases stepped
          exact kept.set reader ⟨fits_of_check checked, rfl, fun other => absurd rfl other,
            fun other => absurd rfl other⟩
  | load reader =>
    obtain ⟨reading, busy, rfl⟩ := Option.map_eq_some_iff.mp stepped
    exact kept.load busy

/-- Every reachable history is kept. -/
theorem reachable_kept (reachable : (system pcm).Reachable buffer) : Kept pcm buffer := by
  refine (kept_step pcm).reachable ?_ reachable
  rintro buffer rfl
  exact ⟨⟨rfl, rfl, fun _ stamped => absurd rfl stamped, fun _ held => absurd rfl held,
    fun _ _ => rfl, trivial⟩, fun _ _ idle => absurd idle (by simp [fresh]),
    fun _ none => absurd none (by simp [fresh])⟩

/-- Every read that returned is sound. -/
theorem reachable_sound (pcm : Pcm Sample) (buffer : SampleBuffer Sample)
    (reachable : (system pcm).Reachable buffer) :
    ∀ result ∈ buffer.returned, Sound pcm buffer result := (reachable_kept reachable).sound

/-- Two frames are written, and a read that asks for one more begins in the middle. -/
def bufferRun : List (BufferLabel Int) :=
  List.flatten [[.write (some fun index => (index + 1, 0)) 5 2], List.replicate 4 .store,
    [.read 3 true 4 3], List.replicate 6 (.load 3), List.replicate 3 .store,
    List.replicate 10 (.load 3)]

/-- It gives both frames. -/
theorem sample_sound : ∃ buffer, (system wholePcm).run (fresh wholePcm) bufferRun = some buffer ∧
    buffer.returned.map BufferResult.samples = [[(0, 0), (1, 0), (1, 0)]] ∧
    ∀ result ∈ buffer.returned, Sound wholePcm buffer result := by
  obtain ⟨buffer, evaluated, returned⟩ := Option.map_eq_some_iff.mp
    (show ((system wholePcm).run (fresh wholePcm) bufferRun).map
      (fun buffer => buffer.returned.map BufferResult.samples) =
        some [[(0, 0), (1, 0), (1, 0)]] from by decide +kernel)
  exact ⟨buffer, evaluated, returned,
    reachable_sound wholePcm buffer (Transition.System.reachable_of_run rfl evaluated)⟩

end SampleBuffer

end Plank.Audio
