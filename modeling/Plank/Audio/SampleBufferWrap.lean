import Plank.Audio.SampleBufferLaw

/-!
# The generation can come all the way round

The generation has 64 bits, and every reset adds two to it. A read that stops between its two looks
at a cell while so many resets go by finds the generation it began with, and can find its frame
before and after although the sample between them was another frame's.
-/

namespace Plank.Audio

namespace SampleBuffer

open Transition (System)

variable {pcm : Pcm Int} {before after buffer : SampleBuffer Int}

/-- What a reset leaves. -/
structure Carried (before after : SampleBuffer Int) : Prop where
  /-- The readers. -/
  readers : after.readers = before.readers
  /-- What was written. -/
  written : after.written = before.written
  /-- What was returned. -/
  returned : after.returned = before.returned
  /-- The samples of the cells. -/
  bits : ∀ cell, (after.memory.samples cell).bits = (before.memory.samples cell).bits

/-- One reset after another. -/
theorem Carried.trans {middle : SampleBuffer Int} (first : Carried before middle)
    (second : Carried middle after) : Carried before after :=
  ⟨second.readers.trans first.readers, second.written.trans first.written,
    second.returned.trans first.returned, fun cell => (second.bits cell).trans (first.bits cell)⟩

/-- The next access of a reset. -/
theorem reaches_resetting {firstFrame : UInt64} {place : ResetPlace}
    (busy : buffer.writer = .resetting firstFrame place) :
    (system pcm).Reaches buffer (buffer.resetting firstFrame place) := by
  refine .single ⟨.store, ?_⟩
  show (if buffer.ordered .store then step pcm buffer .store else none) = _
  unfold ordered step
  rw [busy]
  rfl

/-- The next access of a write. -/
theorem reaches_writing {write : SampleWrite Int} {place : WritePlace}
    (busy : buffer.writer = .writing write place) (order : buffer.ordered .store = true) :
    (system pcm).Reaches buffer (buffer.writing pcm write place) := by
  refine .single ⟨.store, ?_⟩
  show (if buffer.ordered .store then step pcm buffer .store else none) = _
  rw [if_pos order]
  unfold step
  rw [busy]

/-- The next access of a read. -/
theorem reaches_loading {reader : Nat} {reading : BufferReading Int}
    (busy : buffer.readers reader = some reading) :
    (system pcm).Reaches buffer (buffer.loading pcm reader reading) := by
  refine .single ⟨.load reader, ?_⟩
  show (buffer.readers reader).map (buffer.loading pcm reader) = _
  rw [busy]
  rfl

/-- A reset clears a cell. -/
theorem carried_clear (buffer : SampleBuffer Int) (firstFrame : UInt64) (cell : Nat) :
    Carried buffer (buffer.resetting firstFrame (.clear cell)) := by
  refine ⟨rfl, rfl, rfl, fun other => ?_⟩
  show (if other = cell then _ else _ : SampleCell Int).bits = _
  split <;> rfl

/-- A reset clears the cells one by one. -/
theorem reaches_finish {firstFrame : UInt64} {cell : Nat} (left : Nat) (rest : cell + left = 8191)
    (busy : buffer.writer = .resetting firstFrame (.clear cell)) :
    ∃ after, (system pcm).Reaches buffer after ∧ Carried buffer after ∧
      after.writer = .resetting firstFrame .finish ∧
      after.memory.generation = buffer.memory.generation ∧
      after.memory.firstFrame = buffer.memory.firstFrame := by
  have count : micFrames.toNat = 8192 := rfl
  induction left generalizing buffer cell with
  | zero =>
    have turned : (buffer.resetting firstFrame (.clear cell)).writer = .resetting firstFrame
        (if cell + 1 < micFrames.toNat then .clear (cell + 1) else .finish) := rfl
    rw [if_neg (by omega)] at turned
    exact ⟨_, reaches_resetting busy, carried_clear _ _ _, turned, rfl, rfl⟩
  | succ left ih =>
    have turned : (buffer.resetting firstFrame (.clear cell)).writer = .resetting firstFrame
        (if cell + 1 < micFrames.toNat then .clear (cell + 1) else .finish) := rfl
    rw [if_pos (by omega)] at turned
    obtain ⟨after, reaches, carried, writer, generation, first⟩ := ih (by omega) turned
    exact ⟨after, .trans (reaches_resetting busy) reaches, (carried_clear _ _ _).trans carried,
      writer, generation, first⟩

/-- A reset, up to its first cell. -/
def opening (buffer : SampleBuffer Int) : SampleBuffer Int :=
  (({ buffer with writer := .resetting 0 .begin } : SampleBuffer Int).resetting 0 .begin).resetting
    0 .first

/-- A whole reset. -/
theorem reset_whole (reachable : (system pcm).Reachable buffer) (idle : buffer.writer = .idle) :
    ∃ after, (system pcm).Reachable after ∧ Carried buffer after ∧ after.writer = .idle ∧
      after.memory.generation = buffer.memory.generation + 1 + 1 ∧
      after.memory.firstFrame = 0 ∧ ∀ cell, after.last cell = 0 := by
  have begins : (system pcm).Reaches buffer { buffer with writer := .resetting 0 .begin } := by
    refine .single ⟨.reset 0, ?_⟩
    show step pcm buffer (.reset 0) = _
    unfold step
    rw [idle]
  have opens : (system pcm).Reachable buffer.opening :=
    ((reachable.trans begins).trans (reaches_resetting rfl)).trans (reaches_resetting rfl)
  have started : Carried buffer buffer.opening := ⟨rfl, rfl, rfl, fun _ => rfl⟩
  have clearing : buffer.opening.writer = .resetting 0 (.clear 0) := rfl
  obtain ⟨last, reaches, carried, busy, generation, zero⟩ := reaches_finish 8191 rfl clearing
  have ends := opens.trans reaches
  have stored := (reachable_kept ends).stored
  have cleared := stored.progress
  unfold Progress at cleared
  rw [busy] at cleared
  refine ⟨_, ends.trans (reaches_resetting busy), ?_, rfl, ?_, zero, ?_⟩
  · exact started.trans (carried.trans ⟨rfl, rfl, rfl, fun _ => rfl⟩)
  · exact congrArg (· + 1) generation
  · intro cell
    by_cases inside : cell < 8192
    · exact cleared cell inside
    · exact stored.beyond cell (Nat.le_of_not_lt inside)

/-- So many resets, one after the other. -/
theorem reset_often (reachable : (system pcm).Reachable buffer) (idle : buffer.writer = .idle)
    (resets : Nat) :
    ∃ after, (system pcm).Reachable after ∧ Carried buffer after ∧ after.writer = .idle ∧
      after.memory.generation = buffer.memory.generation + UInt64.ofNat (2 * (resets + 1)) ∧
      after.memory.firstFrame = 0 ∧ ∀ cell, after.last cell = 0 := by
  induction resets with
  | zero =>
    obtain ⟨after, later, carried, writer, generation, rest⟩ := reset_whole reachable idle
    refine ⟨after, later, carried, writer, ?_, rest⟩
    rw [generation, UInt64.add_assoc]
    rfl
  | succ resets ih =>
    obtain ⟨middle, reached, first, waits, between, _⟩ := ih
    obtain ⟨after, later, second, writer, generation, rest⟩ := reset_whole reached waits
    refine ⟨after, later, first.trans second, writer, ?_, rest⟩
    rw [generation, between, UInt64.add_assoc, UInt64.add_assoc]
    congr 1
    apply UInt64.toNat_inj.mp
    rw [UInt64.toNat_add, UInt64.toNat_add, UInt64.toNat_ofNat', UInt64.toNat_ofNat',
      show (1 : UInt64).toNat = 1 from rfl]
    omega

/-- One frame, at the beginning. -/
def firstSample : SampleWrite Int := ⟨fun _ => (1, 0), 0, 1⟩

/-- The frame is written whole. -/
theorem write_whole (reachable : (system wholePcm).Reachable buffer) (idle : buffer.writer = .idle)
    (first : buffer.memory.firstFrame = 0) (last : ∀ cell, buffer.last cell = 0) :
    ∃ after, (system wholePcm).Reachable after ∧ after.readers = buffer.readers ∧
      after.written = buffer.written ++ [⟨buffer.completed, 0, (1, 0)⟩] ∧
      after.memory.generation = buffer.memory.generation ∧
      (after.memory.samples 0).frame = 1 := by
  have begins : (system wholePcm).Reaches buffer
      { buffer with writer := .writing firstSample .check } := by
    refine .single ⟨.write (some firstSample.samples) 0 1, ?_⟩
    show step wholePcm buffer (.write (some firstSample.samples) 0 1) = _
    unfold step
    rw [idle]
    rfl
  have checked := (reachable.trans begins).trans (reaches_writing rfl rfl)
  have passes : SampleBuffer.writing wholePcm { buffer with writer := .writing firstSample .check }
      firstSample .check = { buffer with writer := .writing firstSample (.clear 0) } := by
    unfold writing
    dsimp only
    rw [first]
    exact if_pos (by decide)
  rw [passes] at checked
  have cleared := checked.trans (reaches_writing rfl rfl)
  have stored := cleared.trans (reaches_writing rfl (by
    refine decide_eq_true ?_
    show buffer.last _ ≤ _
    rw [last]
    exact Nat.zero_le _))
  have stamped := stored.trans (reaches_writing rfl rfl)
  exact ⟨_, stamped, rfl, rfl, rfl, rfl⟩

/-- A read that has another frame's sample between its two looks at a cell. -/
def mistaken : BufferReading Int := ⟨⟨0, 1⟩, .after 0, 2, 0, 1, (0, 1), [], 0⟩

/-- It returns that sample, when the cell and the generation look the same again. -/
theorem read_ends (reachable : (system wholePcm).Reachable buffer)
    (busy : buffer.readers 0 = some mistaken)
    (stamped : (buffer.memory.samples 0).frame = 1) (generation : buffer.memory.generation = 2) :
    ∃ after, (system wholePcm).Reachable after ∧ after.written = buffer.written ∧
      ⟨⟨0, 1⟩, [(0, 1)], 0, buffer.opened⟩ ∈ after.returned := by
  have looked : buffer.loading wholePcm 0 mistaken = buffer.setReader 0 (some
      { mistaken with place := .frame 1, samples := [(0, 1)] }) := by
    have same : (buffer.memory.samples (cellOf (positionAt 0 0))).frame = 1 := stamped
    simp only [loading, mistaken, same]
    rfl
  have turned := reachable.trans (reaches_loading busy)
  rw [looked] at turned
  have passed := (turned.trans (reaches_loading (if_pos rfl))).trans (reaches_loading (if_pos rfl))
  refine ⟨_, passed, rfl, List.mem_append_right _ (List.mem_singleton.mpr ?_)⟩
  show _ = BufferResult.mk _ (if (2 : UInt64) ≠ buffer.memory.generation then _ else [(0, 1)]) _ _
  rw [generation]
  rfl

/-- A frame is written and looked at, another one takes its cell, and its sample is loaded. -/
def wrapRun : List (BufferLabel Int) :=
  List.flatten [[.write (some fun _ => (1, 0)) 0 1], List.replicate 4 .store,
    [.read 0 true 0 1], List.replicate 4 (.load 0),
    [.write (some fun _ => (0, 1)) 8192 1], List.replicate 4 .store, [.load 0]]

/-- Whether the writer does nothing. -/
def waits (buffer : SampleBuffer Int) : Bool :=
  match buffer.writer with
  | .idle => true
  | _ => false

/-- A read that so many resets go by returns the sample of another frame. -/
theorem generation_wraps : ¬ ∀ buffer, (system wholePcm).Reachable buffer →
    ∀ result ∈ buffer.returned, ∀ index sample, result.samples[index]? = some sample →
      sample ≠ (0, 0) → ∃ entry ∈ buffer.written,
        entry.frame = result.call.frame.toNat + index ∧ entry.bits = sample := by
  intro genuine
  obtain ⟨first, evaluated, facts⟩ := Option.map_eq_some_iff.mp
    (show ((system wholePcm).run (fresh wholePcm) wrapRun).map (fun buffer =>
      (buffer.waits, buffer.readers 0, buffer.memory.generation, buffer.written)) =
        some (true, some mistaken, 2, [⟨0, 0, (1, 0)⟩, ⟨0, 8192, (0, 1)⟩]) from by decide +kernel)
  simp only [Prod.mk.injEq] at facts
  obtain ⟨waits, busy, started, stored⟩ := facts
  have idle : first.writer = .idle := by
    unfold SampleBuffer.waits at waits
    split at waits
    · assumption
    · cases waits
  obtain ⟨second, later, carried, still, round, zero, cleared⟩ :=
    reset_often (System.reachable_of_run rfl evaluated) idle 0x7fffffffffffffff
  obtain ⟨third, written, readers, entries, same, stamped⟩ := write_whole later still zero cleared
  obtain ⟨last, ended, log, returned⟩ := read_ends written
    (by rw [readers, carried.readers]; exact busy) stamped (by rw [same, round, started]; rfl)
  obtain ⟨entry, member, frame, sample⟩ := genuine last ended _ returned 0 (0, 1) rfl (by decide)
  rw [log, entries, carried.written, stored] at member
  simp only [List.cons_append, List.nil_append, List.mem_cons, List.not_mem_nil, or_false]
    at member
  rcases member with rfl | rfl | rfl
  · exact absurd sample (by decide)
  · exact absurd (show 8192 = 0 from frame) (by decide)
  · exact absurd (show ((1, 0) : Int × Int) = (0, 1) from sample) (by decide)

end SampleBuffer

end Plank.Audio
