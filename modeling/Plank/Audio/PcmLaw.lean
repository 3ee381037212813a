import Plank.Audio.Pcm

/-!
# Microphone PCM leaves in order, once, and on time

Frames leave from the front alone, so those that left followed by those that are queued are those
that were put in. A call that looks at the clock first drops what is too old for it, which leaves
frames that are younger than the bound, and in the order of their arrival.
-/

namespace Plank.Audio

open Queue (Circular)

variable {Sample : Type} {pcm : Pcm Sample}

namespace Fate

/-- Removed by age or by a clock that moved back. -/
def expired : Fate → Bool
  | .aged _ | .backwards _ => true
  | _ => false

/-- Removed for capacity. -/
def discard : Fate → Bool
  | .discarded => true
  | _ => false

/-- A frame that is rendered is younger than the bound at that clock, and one that aged is not. -/
def Timely (frame : PcmFrame Sample) : Fate → Prop
  | .rendered now => frame.arrived ≤ now ∧ now.toNat < frame.arrived.toNat + pcmMaxAge.toNat
  | .aged now => frame.arrived.toNat + pcmMaxAge.toNat ≤ now.toNat
  | _ => True

end Fate

namespace MicrophoneQueue

/-- How many of the frames that left had such a fate. -/
def departures (queue : MicrophoneQueue Sample) (kind : Fate → Bool) : Nat :=
  queue.departed.countP fun entry => kind entry.2

/-- What every call keeps. -/
structure Kept (pcm : Pcm Sample) (queue : MicrophoneQueue Sample) : Prop where
  /-- The window fits, and nothing is left outside it. -/
  tidy : queue.ring.Tidy queueFrames pcm.blank
  /-- The window is in the order of arrival. -/
  sorted : queue.window.Pairwise fun earlier later => earlier.arrived ≤ later.arrived
  /-- What left and what is queued was put in, in this order. -/
  conserved : queue.accepted = queue.departed.map Prod.fst ++ queue.window
  /-- What left for its age was old, and what was rendered was not. -/
  timely : ∀ entry ∈ queue.departed, Fate.Timely entry.1 entry.2
  /-- `expiredFrames` counts what expired. -/
  expired : queue.expiredFrames = UInt64.ofNat (queue.departures Fate.expired)
  /-- `discardedFrames` counts what was discarded. -/
  discarded : queue.discardedFrames = UInt64.ofNat (queue.departures Fate.discard)
  /-- The average is one of so many frames. -/
  average : 0 ≤ queue.averageFrames256 ∧ queue.averageFrames256 ≤ 737280
  /-- Everything fits. -/
  exact : queue.exact = true

/-- Nothing is queued after a flush. -/
theorem window_flush (queue : MicrophoneQueue Sample) (fate : Fate) :
    (queue.flush pcm fate).window = [] := by
  apply List.eq_nil_of_length_eq_zero
  rw [window, Circular.length_window]
  exact Nat.sub_self _

/-- The loop counts the frames before the first fresh one. -/
theorem expireLoop_eq (queue : MicrophoneQueue Sample) (now : UInt64) (remaining expired : Nat)
    (rest : expired + remaining = queue.ring.count) :
    queue.expireLoop now remaining expired =
      expired + ((queue.window.drop expired).takeWhile fun frame => !fresh now frame).length := by
  have length : queue.window.length = queue.ring.count := Circular.length_window _
  induction remaining generalizing expired with
  | zero => rw [List.drop_eq_nil_of_le (by omega)]; rfl
  | succ remaining ih =>
    have inside : expired < queue.window.length := by omega
    rw [List.drop_eq_getElem_cons inside, expireLoop,
      show queue.window[expired] = queue.get expired from Circular.getElem_window inside]
    cases young : fresh now (queue.get expired) with
    | true => simp [young]
    | false =>
      rw [if_neg (by simp), ih (expired + 1) (by omega)]
      simp only [List.takeWhile_cons, young, Bool.not_false, ↓reduceIte, List.length_cons]
      omega

/-- A fresh frame arrived within the bound. -/
theorem fresh_iff {now : UInt64} {frame : PcmFrame Sample} : fresh now frame = true ↔
    frame.arrived ≤ now ∧ now.toNat < frame.arrived.toNat + pcmMaxAge.toNat := by
  simp only [fresh, Bool.and_eq_true, decide_eq_true_eq]
  refine and_congr_right fun before => ?_
  rw [UInt64.lt_iff_toNat_lt, UInt64.toNat_sub_of_le _ _ before]
  have order := UInt64.le_iff_toNat_le.mp before
  omega

/-- Behind the first fresh frame of a window in order, every frame is fresh. -/
theorem fresh_of_dropWhile {now : UInt64} {frames : List (PcmFrame Sample)}
    (sorted : frames.Pairwise fun earlier later => earlier.arrived ≤ later.arrived)
    (arrived : ∀ frame ∈ frames, frame.arrived ≤ now) :
    ∀ frame ∈ frames.dropWhile fun frame => !fresh now frame, fresh now frame = true := by
  induction frames with
  | nil => exact fun frame member => absurd member (by simp)
  | cons first rest ih =>
    obtain ⟨least, behind⟩ := List.pairwise_cons.mp sorted
    cases young : fresh now first with
    | false =>
      rw [List.dropWhile_cons_of_pos (by simp [young])]
      exact ih behind fun frame member => arrived frame (List.mem_cons_of_mem _ member)
    | true =>
      rw [List.dropWhile_cons_of_neg (by simp [young])]
      intro frame member
      rcases List.mem_cons.mp member with rfl | later
      · exact young
      · obtain ⟨_, bound⟩ := fresh_iff.mp young
        have order := UInt64.le_iff_toNat_le.mp (least frame later)
        exact fresh_iff.mpr ⟨arrived frame member, by omega⟩

namespace Kept

variable {queue : MicrophoneQueue Sample}

/-- A fresh queue. -/
theorem empty : Kept pcm (MicrophoneQueue.empty pcm) where
  tidy := .fresh (by decide)
  sorted := .nil
  conserved := rfl
  timely _ member := absurd member (by simp [MicrophoneQueue.empty])
  expired := rfl
  discarded := rfl
  average := ⟨Int.le_refl 0, by simp [MicrophoneQueue.empty]⟩
  exact := rfl

/-- The last computation fits. -/
theorem require (kept : Kept pcm queue) {fits : Bool} (holds : fits = true) :
    Kept pcm (queue.require fits) :=
  { kept with exact := by rw [MicrophoneQueue.require, kept.exact, holds]; rfl }

/-- The sums over the ring fit. -/
theorem fits (kept : Kept pcm queue) {added : Nat} (small : added ≤ queueFrames) :
    fits32 (queue.ring.head + added) = true := by
  have head := kept.tidy.head
  unfold queueFrames at head small
  simp only [fits32, decide_eq_true_eq]
  omega

/-- So many frames leave from the front. -/
theorem leave (kept : Kept pcm queue) {after : MicrophoneQueue Sample} {count : Nat} (fate : Fate)
    (available : count ≤ queue.ring.count)
    (timely : ∀ frame ∈ queue.window.take count, Fate.Timely frame fate)
    (tidy : after.ring.Tidy queueFrames pcm.blank)
    (window : after.window = queue.window.drop count)
    (accepted : after.accepted = queue.accepted)
    (departed : after.departed =
      queue.departed ++ (queue.window.take count).map fun frame => (frame, fate))
    (expired : after.expiredFrames =
      queue.expiredFrames + if fate.expired then UInt64.ofNat count else 0)
    (discarded : after.discardedFrames =
      queue.discardedFrames + if fate.discard then UInt64.ofNat count else 0)
    (average : 0 ≤ after.averageFrames256 ∧ after.averageFrames256 ≤ 737280)
    (exact : after.exact = true) : Kept pcm after := by
  have counted : ∀ kind : Fate → Bool, UInt64.ofNat (after.departures kind) =
      UInt64.ofNat (queue.departures kind) + if kind fate then UInt64.ofNat count else 0 := by
    intro kind
    have length : (queue.window.take count).length = count := by
      rw [List.length_take, MicrophoneQueue.window, Circular.length_window]
      exact Nat.min_eq_left available
    unfold departures
    rw [departed, List.countP_append, List.countP_map]
    cases same : kind fate with
    | true => simp [Function.comp_def, same, length]
    | false => simp [Function.comp_def, same]
  exact {
    tidy := tidy
    sorted := by
      rw [window]
      exact kept.sorted.drop
    conserved := by
      rw [accepted, departed, window, kept.conserved, List.map_append, List.map_map,
        List.append_assoc]
      simp [Function.comp_def]
    timely := by
      rw [departed]
      intro entry member
      rcases List.mem_append.mp member with earlier | new
      · exact kept.timely entry earlier
      · obtain ⟨frame, taken, rfl⟩ := List.mem_map.mp new
        exact timely frame taken
    expired := by rw [expired, counted, kept.expired]
    discarded := by rw [discarded, counted, kept.discarded]
    average := average
    exact := exact }

/-- What a discard computes fits. -/
theorem discard_exact (kept : Kept pcm queue) {count : Nat} (available : count ≤ queue.ring.count)
    (fate : Fate) : (queue.discard pcm count fate).exact = true := by
  have room := kept.tidy.count
  show (queue.exact && (fits32 (queue.ring.head + count) && decide (count ≤ queue.ring.count))) = _
  rw [kept.exact, kept.fits (by omega), decide_eq_true available]
  rfl

/-- A flush for a reason that nothing counts. -/
theorem flush (kept : Kept pcm queue) {after : MicrophoneQueue Sample} (fate : Fate)
    (timely : ∀ frame : PcmFrame Sample, Fate.Timely frame fate)
    (ring : after.ring = (queue.flush pcm fate).ring) (accepted : after.accepted = queue.accepted)
    (departed : after.departed = (queue.flush pcm fate).departed)
    (expired : after.expiredFrames =
      queue.expiredFrames + if fate.expired then UInt64.ofNat queue.ring.count else 0)
    (discarded : after.discardedFrames =
      queue.discardedFrames + if fate.discard then UInt64.ofNat queue.ring.count else 0)
    (average : after.averageFrames256 = 0) (exact : after.exact = (queue.flush pcm fate).exact) :
    Kept pcm after := by
  have all : queue.ring.count ≤ queue.ring.count := Nat.le_refl _
  have dropped := kept.tidy.drop all
  have none : (queue.ring.drop queueFrames pcm.blank queue.ring.count).count = 0 :=
    Nat.sub_self _
  refine kept.leave fate all (fun frame _ => timely frame) ?_ ?_ accepted departed expired discarded
    ⟨by rw [average], by rw [average]; decide⟩ (exact.trans (kept.discard_exact all fate))
  · rw [ring]
    exact dropped.rewind none
  · have short : queue.window.length ≤ queue.ring.count := by
      rw [MicrophoneQueue.window, Circular.length_window]
    rw [List.drop_eq_nil_of_le short, MicrophoneQueue.window, ring]
    exact queue.window_flush fate

/-- Unless the clock moved back, every frame arrived before it. -/
theorem arrived (kept : Kept pcm queue) {now : UInt64}
    (forwards : ¬ (queue.ring.count ≠ 0 &&
      decide (now < (queue.get (queue.ring.count - 1)).arrived)) = true) :
    ∀ frame ∈ queue.window, frame.arrived ≤ now := by
  intro frame member
  obtain ⟨index, inside, rfl⟩ := List.mem_iff_getElem.mp member
  have length : queue.window.length = queue.ring.count := Circular.length_window _
  have last : queue.ring.count - 1 < queue.window.length := by omega
  simp only [Bool.and_eq_true, decide_eq_true_eq, not_and, UInt64.not_lt] at forwards
  have newest : queue.window[queue.ring.count - 1].arrived ≤ now := by
    rw [show queue.window[queue.ring.count - 1] = queue.get (queue.ring.count - 1) from
      Circular.getElem_window last]
    exact forwards (by omega)
  rcases Nat.lt_or_ge index (queue.ring.count - 1) with earlier | latest
  · exact UInt64.le_trans (List.pairwise_iff_getElem.mp kept.sorted _ _ inside last earlier) newest
  · have same : index = queue.ring.count - 1 := by omega
    subst same
    exact newest

/-- What a look at the clock leaves: frames that arrived within the bound. -/
structure Expired (pcm : Pcm Sample) (before after : MicrophoneQueue Sample) (now : UInt64) :
    Prop where
  /-- The queue is kept. -/
  kept : Kept pcm after
  /-- Every frame is fresh. -/
  young : ∀ frame ∈ after.window, fresh now frame = true
  /-- The position stays. -/
  position : after.hasSample = before.hasSample ∧ after.nextSample = before.nextSample

/-- Unless the clock moved back, the loop takes the frames before the first fresh one. -/
theorem aged (kept : Kept pcm queue) {now : UInt64}
    (arrived : ∀ frame ∈ queue.window, frame.arrived ≤ now) :
    Expired pcm queue
      (if queue.expireLoop now queue.ring.count 0 ≠ 0 then
        { queue.discard pcm (queue.expireLoop now queue.ring.count 0) (.aged now) with
          expiredFrames := queue.expiredFrames +
            UInt64.ofNat (queue.expireLoop now queue.ring.count 0)
          primed := false }
      else queue) now := by
  have loop := queue.expireLoop_eq now queue.ring.count 0 (Nat.zero_add _)
  rw [List.drop_zero, Nat.zero_add] at loop
  obtain ⟨old, rest, parts, stale, young, length⟩ : ∃ old rest, old ++ rest = queue.window ∧
      (∀ frame ∈ old, fresh now frame = false) ∧ (∀ frame ∈ rest, fresh now frame = true) ∧
      queue.expireLoop now queue.ring.count 0 = old.length := by
    refine ⟨_, _, List.takeWhile_append_dropWhile (p := fun frame => !fresh now frame), ?_,
      fresh_of_dropWhile kept.sorted arrived, loop⟩
    intro frame member
    simpa using List.mem_takeWhile_imp member
  rw [length]
  have available : old.length ≤ queue.ring.count := by
    have whole := congrArg List.length parts
    rw [List.length_append, MicrophoneQueue.window, Circular.length_window] at whole
    omega
  have taken : queue.window.take old.length = old := by rw [← parts, List.take_left]
  have left : queue.window.drop old.length = rest := by rw [← parts, List.drop_left]
  have window : (queue.discard pcm old.length (.aged now)).window = rest :=
    (kept.tidy.window_drop available).trans left
  split
  · refine ⟨?_, ?_, rfl, rfl⟩
    · refine kept.leave (.aged now) available ?_ (kept.tidy.drop available)
        (kept.tidy.window_drop available) rfl rfl rfl (UInt64.add_zero _).symm kept.average
        (kept.discard_exact available (.aged now))
      intro frame member
      have before := arrived frame (List.mem_of_mem_take member)
      rw [taken] at member
      have unfresh : ¬ fresh now frame = true := by rw [stale frame member]; simp
      rw [fresh_iff, not_and, Nat.not_lt] at unfresh
      exact unfresh before
    · intro frame member
      exact young frame (window ▸ member)
  · next none =>
    have empty : old = [] := List.eq_nil_of_length_eq_zero (by simpa using none)
    refine ⟨kept, ?_, rfl, rfl⟩
    intro frame member
    rw [← parts, empty] at member
    exact young frame member

/-- `PLANKMicQueueExpire` leaves fresh frames. -/
theorem expire (kept : Kept pcm queue) (now : UInt64) :
    Expired pcm queue (queue.expire pcm now) now := by
  have required : Kept pcm
      (queue.require (fits32 (queue.ring.head + queue.ring.count))) :=
    kept.require (kept.fits kept.tidy.count)
  unfold MicrophoneQueue.expire
  dsimp only
  split
  · refine ⟨?_, ?_, rfl, rfl⟩
    · exact required.flush (.backwards now) (fun _ => trivial) rfl rfl rfl rfl
        (UInt64.add_zero _).symm rfl rfl
    · intro frame member
      rw [window_flush] at member
      exact absurd member (by simp)
  · next forwards =>
    have aged := required.aged (required.arrived forwards)
    exact ⟨aged.kept, aged.young, aged.position⟩

/-- Frames of one arrival are put behind the others. -/
theorem append (kept : Kept pcm queue) (frames : Nat → PcmFrame Sample) {count : Nat} (now : UInt64)
    (room : queue.ring.count + count ≤ queueFrames)
    (same : ∀ index < count, (frames index).arrived = now)
    (arrived : ∀ frame ∈ queue.window, frame.arrived ≤ now) :
    Kept pcm (queue.append frames count) ∧
      ∀ frame ∈ (queue.append frames count).window, frame.arrived ≤ now := by
  obtain ⟨tidy, window⟩ := kept.tidy.putAll frames room
  have added : ∀ frame ∈ (List.range count).map frames, frame.arrived = now := by
    intro frame member
    obtain ⟨index, inside, rfl⟩ := List.mem_map.mp member
    exact same index (List.mem_range.mp inside)
  have whole : (queue.append frames count).window = queue.window ++ (List.range count).map frames :=
    window
  refine ⟨{
    tidy := tidy
    sorted := ?_
    conserved := ?_
    timely := kept.timely
    expired := kept.expired
    discarded := kept.discarded
    average := kept.average
    exact := ?_ }, ?_⟩
  · rw [whole]
    refine List.pairwise_append.mpr ⟨kept.sorted, ?_, ?_⟩
    · refine List.pairwise_of_forall_mem_list fun earlier left later right => ?_
      rw [added earlier left, added later right]
      exact UInt64.le_refl now
    · intro earlier left later right
      rw [added later right]
      exact arrived earlier left
  · rw [whole, ← List.append_assoc]
    exact congrArg (· ++ (List.range count).map frames) kept.conserved
  · show (queue.exact && fits32 (queue.ring.head + queue.ring.count + count)) = true
    rw [kept.exact, Nat.add_assoc, kept.fits room]
    rfl
  · rw [whole]
    intro frame member
    rcases List.mem_append.mp member with old | new
    · exact arrived frame old
    · rw [added frame new]
      exact UInt64.le_refl now

/-- A gap keeps the queue. -/
theorem bridge (kept : Kept pcm queue) (sampleTime : UInt64) {now : UInt64}
    (order : queue.hasSample = true → queue.nextSample ≤ sampleTime)
    (arrived : ∀ frame ∈ queue.window, frame.arrived ≤ now) :
    Kept pcm (queue.bridge pcm sampleTime now) ∧
      ∀ frame ∈ (queue.bridge pcm sampleTime now).window, frame.arrived ≤ now := by
  unfold MicrophoneQueue.bridge
  split
  · next behind =>
    have begun : queue.hasSample = true := (Bool.and_eq_true_iff.mp behind).1
    have required : Kept pcm (queue.require (queue.nextSample ≤ sampleTime)) :=
      kept.require (decide_eq_true (order begun))
    dsimp only
    split
    · next room =>
      have fits := of_decide_eq_true (Bool.and_eq_true_iff.mp room).2
      exact required.append _ now (Nat.le_of_add_right_le fits) (fun _ _ => rfl) arrived
    · refine ⟨required.flush .flushed (fun _ => trivial) rfl rfl rfl (UInt64.add_zero _).symm
        (UInt64.add_zero _).symm rfl rfl, ?_⟩
      intro frame member
      rw [window_flush] at member
      exact absurd member (by simp)
  · exact ⟨kept, arrived⟩

/-- Making room for a packet keeps the queue, and the frames that stay. -/
theorem makeRoom (kept : Kept pcm queue) : Kept pcm (queue.makeRoom pcm) ∧
    (queue.makeRoom pcm).ring.count + packetFrames ≤ queueFrames ∧
    ∀ frame ∈ (queue.makeRoom pcm).window, frame ∈ queue.window := by
  have room := kept.tidy.count
  have small : packetFrames ≤ queueFrames := by decide
  unfold MicrophoneQueue.makeRoom
  dsimp only
  split
  · next full =>
    have available : queue.ring.count + packetFrames - queueFrames ≤ queue.ring.count := by omega
    have space : queue.ring.count - (queue.ring.count + packetFrames - queueFrames) +
        packetFrames ≤ queueFrames := by omega
    generalize queue.ring.count + packetFrames - queueFrames = discarded at available space ⊢
    have window : (queue.discard pcm discarded .discarded).window = queue.window.drop discarded :=
      kept.tidy.window_drop available
    refine ⟨?_, space, ?_⟩
    · exact kept.leave .discarded available (fun _ _ => trivial) (kept.tidy.drop available) window
        rfl rfl (UInt64.add_zero _).symm rfl kept.average (kept.discard_exact available .discarded)
    · intro frame member
      exact List.mem_of_mem_drop (window ▸ member)
  · next space => exact ⟨kept, Nat.le_of_not_lt space, fun frame member => member⟩

/-- The position behind a packet fits. -/
theorem advance (kept : Kept pcm queue) {sampleTime captureTime : UInt64}
    (counted : sampleTime.toNat + packetFrames < 0x10000000000000000)
    (captured : captureTime.toNat + 10000000 < 0x8000000000000000) :
    Kept pcm (queue.advance sampleTime captureTime) ∧
      (queue.advance sampleTime captureTime).window = queue.window := by
  have offsets : ((List.range packetFrames).all fun index =>
      fits64 (captureTime.toNat + index * 1000000000 / 48000)) = true := by
    rw [List.all_eq_true]
    intro index inside
    have bound : index < 480 := List.mem_range.mp inside
    exact decide_eq_true (by omega)
  have fits : fits64 (sampleTime.toNat + packetFrames) = true := decide_eq_true counted
  unfold MicrophoneQueue.advance
  rw [fits, offsets]
  generalize sampleTime + UInt64.ofNat packetFrames = next
  exact ⟨{ kept.require (show (true && true) = true from rfl) with }, rfl⟩

/-- A packet keeps the queue. -/
theorem store (kept : Kept pcm queue) (samples : Nat → Sample × Sample)
    (captureTime : UInt64) {now : UInt64}
    (arrived : ∀ frame ∈ queue.window, frame.arrived ≤ now) :
    Kept pcm (queue.store pcm samples captureTime now) := by
  obtain ⟨ready, space, stays⟩ := kept.makeRoom
  exact (ready.append _ now space (fun _ _ => rfl) fun frame member =>
    arrived frame (stays frame member)).1

/-- The count of the ring, in units of the average. -/
theorem scaled (kept : Kept pcm queue) : (0 : Int) ≤ queue.ring.count * 256 ∧
    (queue.ring.count * 256 : Int) ≤ 737280 := by
  have room := kept.tidy.count
  unfold queueFrames at room
  omega

/-- Priming keeps the queue. -/
theorem prime (kept : Kept pcm queue) : Kept pcm queue.prime := by
  have scaled := kept.scaled
  unfold MicrophoneQueue.prime
  split
  · have fits : fitsInt (queue.ring.count * 256) = true := by
      simp only [fitsInt, Bool.and_eq_true, decide_eq_true_eq]
      omega
    have required := kept.require fits
    exact { required with average := scaled }
  · exact kept

/-- The average moves towards the count, by a part of the way. -/
theorem smooth (kept : Kept pcm queue) : Kept pcm queue.smooth := by
  have scaled := kept.scaled
  have average := kept.average
  have moved : 0 ≤ queue.averageFrames256 +
        (queue.ring.count * 256 - queue.averageFrames256 : Int).tdiv 32 ∧
      queue.averageFrames256 +
        (queue.ring.count * 256 - queue.averageFrames256 : Int).tdiv 32 ≤ 737280 := by
    rw [Int.tdiv_eq_ediv, show Int.sign 32 = 1 from rfl]
    split <;> omega
  have fits : (fitsInt (queue.ring.count * 256) &&
      fitsInt (queue.ring.count * 256 - queue.averageFrames256) &&
      fitsInt (queue.averageFrames256 +
        (queue.ring.count * 256 - queue.averageFrames256 : Int).tdiv 32)) = true := by
    simp only [fitsInt, Bool.and_eq_true, decide_eq_true_eq]
    omega
  have required := kept.require fits
  exact { required with average := moved }

end Kept

/-- A block takes at most what is queued. -/
theorem consumption_le (average : Int) (count : Nat) : consumption average count ≤ count := by
  unfold consumption
  dsimp only
  generalize (if average > _ then 481 else _ : Nat) = consume
  split <;> omega

/-- What a render leaves, and where its block comes from. -/
structure Rendered (pcm : Pcm Sample) (queue : MicrophoneQueue Sample) (now : UInt64) : Prop where
  /-- The queue is kept. -/
  kept : Kept pcm (queue.render pcm now).1
  /-- The block is mixed from frames that leave with it, or it is silent. -/
  block : (∃ consume frames, (queue.render pcm now).1.departed =
        (queue.expire pcm now).departed ++
          ((List.range consume).map frames).map (fun frame => (frame, .rendered now)) ∧
      (queue.render pcm now).2.output = (List.range packetFrames).map (blend pcm frames consume)) ∨
    (queue.render pcm now).2 = silence pcm ∧
      (queue.render pcm now).1.departed = (queue.expire pcm now).departed

/-- Priming moves no frame. -/
theorem prime_frames (queue : MicrophoneQueue Sample) :
    queue.prime.window = queue.window ∧ queue.prime.departed = queue.departed := by
  unfold prime
  split <;> exact ⟨rfl, rfl⟩

/-- The first frames of the window. -/
theorem take_window (queue : MicrophoneQueue Sample) {count : Nat}
    (available : count ≤ queue.ring.count) :
    queue.window.take count = (List.range count).map queue.get := by
  unfold window Circular.window
  rw [← List.map_take, List.take_range, Nat.min_eq_left available]
  rfl

/-- Fresh frames leave with a render. -/
theorem Kept.consume {queue : MicrophoneQueue Sample} (kept : Kept pcm queue) {consume : Nat}
    {now : UInt64} (available : consume ≤ queue.ring.count)
    (young : ∀ frame ∈ queue.window, fresh now frame = true) :
    Kept pcm (queue.discard pcm consume (.rendered now)) ∧
      (queue.discard pcm consume (.rendered now)).departed = queue.departed ++
        ((List.range consume).map queue.get).map (fun frame => (frame, .rendered now)) := by
  refine ⟨?_, ?_⟩
  · refine kept.leave (.rendered now) available ?_ (kept.tidy.drop available)
      (kept.tidy.window_drop available) rfl rfl (UInt64.add_zero _).symm
      (UInt64.add_zero _).symm kept.average (kept.discard_exact available (.rendered now))
    intro frame member
    exact fresh_iff.mp (young frame (List.mem_of_mem_take member))
  · rw [← queue.take_window available]
    rfl

/-- Smoothing moves no frame. -/
theorem smooth_frames (queue : MicrophoneQueue Sample) : queue.smooth.get = queue.get ∧
    queue.smooth.window = queue.window ∧ queue.smooth.departed = queue.departed :=
  ⟨rfl, rfl, rfl⟩

/-- A block of fresh frames. -/
theorem Kept.play {queue : MicrophoneQueue Sample} (kept : Kept pcm queue) {now : UInt64}
    (young : ∀ frame ∈ queue.window, fresh now frame = true) :
    Kept pcm (queue.play pcm now).1 ∧ ∃ consume,
      (queue.play pcm now).1.departed = queue.departed ++
        ((List.range consume).map queue.get).map (fun frame => (frame, .rendered now)) ∧
      (queue.play pcm now).2.output =
        (List.range packetFrames).map (blend pcm queue.get consume) := by
  obtain ⟨frames, window, departed⟩ := queue.smooth_frames
  obtain ⟨left, took⟩ := kept.smooth.consume
    (consumption_le queue.smooth.averageFrames256 queue.smooth.ring.count) (window ▸ young)
  rw [frames, departed] at took
  unfold MicrophoneQueue.play
  dsimp only
  exact ⟨left, _, took, by rw [frames]⟩

/-- Every render. -/
theorem Kept.render {queue : MicrophoneQueue Sample} (kept : Kept pcm queue) (now : UInt64) :
    Rendered pcm queue now := by
  obtain ⟨expired, young, _⟩ := kept.expire now
  have primed := expired.prime
  obtain ⟨window, departed⟩ := (queue.expire pcm now).prime_frames
  by_cases starved : (!(queue.expire pcm now).prime.primed ||
      (queue.expire pcm now).prime.ring.count < 479) = true
  · have result : queue.render pcm now =
        ({ (queue.expire pcm now).prime with primed := false }, silence pcm) := if_pos starved
    refine ⟨?_, .inr ?_⟩
    · rw [result]
      exact { primed with }
    · rw [result]
      exact ⟨rfl, departed⟩
  · have result : queue.render pcm now = (queue.expire pcm now).prime.play pcm now :=
      if_neg starved
    obtain ⟨left, consume, took, output⟩ := primed.play (window ▸ young)
    refine ⟨?_, .inl ⟨consume, (queue.expire pcm now).prime.get, ?_, ?_⟩⟩
    · rw [result]
      exact left
    · rw [result, took, departed]
    · rw [result]
      exact output

/-- The checks leave room for every computation that follows. -/
theorem submitted_some {queue : MicrophoneQueue Sample} {samples : Option (Nat → Sample × Sample)}
    {count : UInt32} {sampleTime captureTime : UInt64} {given : Nat → Sample × Sample}
    (passed : queue.submitted pcm samples count sampleTime captureTime = some given) :
    samples = some given ∧ captureTime.toNat + 10000000 < 0x8000000000000000 ∧
      sampleTime.toNat + packetFrames < 0x10000000000000000 ∧
      (queue.hasSample = true → queue.nextSample ≤ sampleTime) := by
  unfold submitted at passed
  obtain ⟨early, rest⟩ := Option.ite_none_left_eq_some.mp passed
  cases samples with
  | none => exact absurd rest (by simp)
  | some samples =>
    obtain ⟨accepted, finite⟩ := Option.ite_none_left_eq_some.mp rest
    obtain ⟨_, same⟩ := Option.ite_none_right_eq_some.mp finite
    simp only [Bool.or_eq_true, decide_eq_true_eq, not_or, Bool.and_eq_true, not_and, not_not,
      UInt64.not_lt, gt_iff_lt] at accepted
    obtain ⟨⟨⟨whole, _⟩, last⟩, order⟩ := accepted
    have bound : captureTime.toNat ≤ 0x7fffffffffffffff - 10000000 :=
      UInt64.le_iff_toNat_le.mp (UInt64.not_lt.mp early)
    have widened : count.toUInt64.toNat = packetFrames := whole
    have packet : packetFrames = 480 := rfl
    have behind : count.toUInt64 ≤ 0xffffffffffffffff := by
      rw [UInt64.le_iff_toNat_le, widened]
      decide
    have final := UInt64.le_iff_toNat_le.mp last
    rw [UInt64.toNat_sub_of_le _ _ behind, widened] at final
    have greatest : (0xffffffffffffffff : UInt64).toNat = 0xffffffffffffffff := rfl
    exact ⟨same, by omega, by omega, order⟩

/-- Every call keeps the queue. -/
theorem kept_step (pcm : Pcm Sample) : (system pcm).Preserves (Kept pcm) := by
  intro queue call after kept stepped
  obtain rfl := Option.some.inj stepped
  cases call with
  | submit samples count sampleTime captureTime now =>
    show Kept pcm (queue.submit pcm samples count sampleTime captureTime now).1
    unfold submit
    split
    · exact kept
    · next given passed =>
      obtain ⟨_, captured, counted, order⟩ := submitted_some passed
      obtain ⟨expired, young, sample, next⟩ := kept.expire now
      obtain ⟨bridged, arrived⟩ := expired.bridge sampleTime (by rw [sample, next]; exact order)
        fun frame member => (fresh_iff.mp (young frame member)).1
      obtain ⟨advanced, window⟩ := bridged.advance counted captured
      exact advanced.store given captureTime (by rw [window]; exact arrived)
  | render now => exact (kept.render now).kept
  | expire now => exact (kept.expire now).kept
  | flush =>
    exact kept.flush .flushed (fun _ => trivial) rfl rfl rfl (UInt64.add_zero _).symm
      (UInt64.add_zero _).symm rfl rfl
  | clear =>
    have flushed : Kept pcm (queue.flush pcm .flushed) :=
      kept.flush .flushed (fun _ => trivial) rfl rfl rfl (UInt64.add_zero _).symm
        (UInt64.add_zero _).symm rfl rfl
    exact { flushed with }

/-- A look at the clock puts nothing in. -/
theorem expire_accepted (pcm : Pcm Sample) (queue : MicrophoneQueue Sample) (now : UInt64) :
    (queue.expire pcm now).accepted = queue.accepted := by
  unfold expire
  dsimp only
  split
  · rfl
  · split <;> rfl

/-- A gap puts silence in. -/
theorem bridge_accepted (pcm : Pcm Sample) (queue : MicrophoneQueue Sample)
    (sampleTime now : UInt64) :
    ∃ gap ≤ 2 * packetFrames, (queue.bridge pcm sampleTime now).accepted =
      queue.accepted ++ List.replicate gap (gapFrame pcm now) := by
  unfold bridge
  split
  · dsimp only
    split
    · next room =>
      have few := of_decide_eq_true (Bool.and_eq_true_iff.mp room).1
      refine ⟨(sampleTime - queue.nextSample).toNat, UInt64.le_iff_toNat_le.mp few, ?_⟩
      show queue.accepted ++ (List.range _).map _ = _
      rw [List.map_const', List.length_range]
    · exact ⟨0, Nat.zero_le _, (List.append_nil _).symm⟩
  · exact ⟨0, Nat.zero_le _, (List.append_nil _).symm⟩

/-- Making room puts nothing in. -/
theorem makeRoom_accepted (pcm : Pcm Sample) (queue : MicrophoneQueue Sample) :
    (queue.makeRoom pcm).accepted = queue.accepted := by
  unfold makeRoom
  dsimp only
  generalize queue.ring.count + packetFrames - queueFrames = discarded
  split <;> rfl

/-- The position puts nothing in. -/
theorem advance_accepted (queue : MicrophoneQueue Sample) (sampleTime captureTime : UInt64) :
    (queue.advance sampleTime captureTime).accepted = queue.accepted := by
  unfold advance
  generalize (fits64 _ && _) = fits
  generalize sampleTime + UInt64.ofNat packetFrames = next
  rfl

/-- The packet is put in. -/
theorem store_accepted (pcm : Pcm Sample) (queue : MicrophoneQueue Sample)
    (samples : Nat → Sample × Sample) (captureTime now : UInt64) :
    (queue.store pcm samples captureTime now).accepted = queue.accepted ++
      (List.range packetFrames).map (packetFrame pcm samples captureTime now) := by
  rw [← makeRoom_accepted pcm queue]
  rfl

/-- A block puts nothing in. -/
theorem render_accepted (pcm : Pcm Sample) (queue : MicrophoneQueue Sample) (now : UInt64) :
    (queue.render pcm now).1.accepted = queue.accepted := by
  have primed : (queue.expire pcm now).prime.accepted = queue.accepted := by
    rw [← expire_accepted pcm queue now]
    unfold prime
    split <;> rfl
  rw [← primed]
  unfold render
  dsimp only
  split <;> rfl

/-- The frames a call puts in. -/
inductive Puts (pcm : Pcm Sample) (queue : MicrophoneQueue Sample) :
    PcmCall Sample → List (PcmFrame Sample) → Prop where
  /-- None. -/
  | nothing (call : PcmCall Sample) : Puts pcm queue call []
  /-- A packet, behind the silence of a gap. -/
  | packet (samples : Nat → Sample × Sample) (count : UInt32) (sampleTime captureTime now : UInt64)
    (gap : Nat) (few : gap ≤ 2 * packetFrames)
    (passed : queue.submitted pcm (some samples) count sampleTime captureTime = some samples) :
    Puts pcm queue (.submit (some samples) count sampleTime captureTime now)
      (List.replicate gap (gapFrame pcm now) ++
        (List.range packetFrames).map (packetFrame pcm samples captureTime now))

/-- Only a packet that passes every check is put in. -/
theorem step_puts (queue : MicrophoneQueue Sample) (call : PcmCall Sample) :
    ∃ frames, (queue.step pcm call).accepted = queue.accepted ++ frames ∧
      Puts pcm queue call frames := by
  cases call with
  | submit samples count sampleTime captureTime now =>
    show ∃ frames, (queue.submit pcm samples count sampleTime captureTime now).1.accepted = _ ∧ _
    unfold submit
    split
    · exact ⟨[], (List.append_nil _).symm, .nothing _⟩
    · next given passed =>
      obtain ⟨rfl, _⟩ := submitted_some passed
      obtain ⟨gap, few, bridged⟩ := bridge_accepted pcm (queue.expire pcm now) sampleTime now
      refine ⟨_, ?_, .packet given count sampleTime captureTime now gap few passed⟩
      rw [store_accepted, advance_accepted, bridged, expire_accepted, List.append_assoc]
  | render now =>
    exact ⟨[], by rw [List.append_nil]; exact render_accepted pcm queue now, .nothing _⟩
  | expire now =>
    exact ⟨[], by rw [List.append_nil]; exact expire_accepted pcm queue now, .nothing _⟩
  | flush => exact ⟨[], (List.append_nil _).symm, .nothing _⟩
  | clear => exact ⟨[], (List.append_nil _).symm, .nothing _⟩

/-- What holds of a microphone queue after any calls. -/
structure QueueLaw (pcm : Pcm Sample) (queue : MicrophoneQueue Sample) : Prop where
  /-- The window is inside the arrays. -/
  bounded : queue.ring.head < 2880 ∧ queue.ring.count ≤ 2880
  /-- Outside it everything is cleared. -/
  cleared : ∀ cell < 2880, (∀ index < queue.ring.count, (queue.ring.head + index) % 2880 ≠ cell) →
    queue.ring.cells cell = pcm.blank
  /-- It is in the order of arrival. -/
  sorted : queue.window.Pairwise fun earlier later => earlier.arrived ≤ later.arrived
  /-- Each frame put in leaves once, in order, or is still queued. -/
  conserved : queue.accepted = queue.departed.map Prod.fst ++ queue.window
  /-- Only submitted frames and the silence of gaps are put in. -/
  puts : ∀ call, ∃ frames, (queue.step pcm call).accepted = queue.accepted ++ frames ∧
    Puts pcm queue call frames
  /-- A frame that was rendered was younger than the bound, and one that aged was not. -/
  timely : ∀ entry ∈ queue.departed, Fate.Timely entry.1 entry.2
  /-- A render mixes its block from the frames that leave with it, or gives silence. -/
  renders : ∀ now, Rendered pcm queue now
  /-- `expiredFrames` counts the frames removed by age or by a clock that moved back. -/
  expired : queue.expiredFrames.toNat = queue.departures Fate.expired % 0x10000000000000000
  /-- `discardedFrames` counts the frames removed for capacity. -/
  discarded : queue.discardedFrames.toNat = queue.departures Fate.discard % 0x10000000000000000
  /-- Every count, sample time and clock was exact. -/
  exact : queue.exact = true

/-- Any calls leave the queue lawful. -/
theorem reachable_queueLaw (pcm : Pcm Sample) (queue : MicrophoneQueue Sample)
    (reachable : (system pcm).Reachable queue) : QueueLaw pcm queue := by
  have kept : Kept pcm queue := by
    refine (kept_step pcm).reachable ?_ reachable
    rintro queue rfl
    exact Kept.empty
  exact {
    bounded := ⟨kept.tidy.head, kept.tidy.count⟩
    cleared := kept.tidy.blank
    sorted := kept.sorted
    conserved := kept.conserved
    puts := queue.step_puts
    timely := kept.timely
    renders := kept.render
    expired := by rw [kept.expired, UInt64.toNat_ofNat']
    discarded := by rw [kept.discarded, UInt64.toNat_ofNat']
    exact := kept.exact }

/-- A look at the clock removes frames for no other reason. -/
theorem expire_departed (pcm : Pcm Sample) (queue : MicrophoneQueue Sample) (now : UInt64) :
    ∃ (frames : List (PcmFrame Sample)) (fate : Fate), Fate.expired fate = true ∧
      (queue.expire pcm now).departed =
        queue.departed ++ frames.map fun frame => (frame, fate) := by
  unfold expire
  dsimp only
  split
  · exact ⟨_, .backwards now, rfl, rfl⟩
  · split
    · exact ⟨_, .aged now, rfl, rfl⟩
    · exact ⟨[], .aged now, rfl, (List.append_nil _).symm⟩

/-- There is nothing to expire in an empty queue. -/
theorem expire_empty {queue : MicrophoneQueue Sample} (none : queue.ring.count = 0)
    (now : UInt64) :
    queue.expire pcm now = queue.require (fits32 (queue.ring.head + queue.ring.count)) := by
  have loop : expireLoop (queue.require (fits32 (queue.ring.head + queue.ring.count))) now
      queue.ring.count 0 = 0 := by
    rw [none]
    rfl
  unfold expire
  dsimp only
  rw [if_neg (by simp [require, none]), if_neg (by rw [not_not]; exact loop)]

/-- The position moves no frame. -/
theorem advance_frames (queue : MicrophoneQueue Sample) (sampleTime captureTime : UInt64) :
    (queue.advance sampleTime captureTime).ring = queue.ring ∧
      (queue.advance sampleTime captureTime).departed = queue.departed := by
  unfold advance
  generalize (fits64 _ && _) = fits
  generalize sampleTime + UInt64.ofNat packetFrames = next
  exact ⟨rfl, rfl⟩

/-- An empty queue has room for a packet. -/
theorem store_empty (pcm : Pcm Sample) (queue : MicrophoneQueue Sample)
    (none : queue.ring.count = 0) (samples : Nat → Sample × Sample) (captureTime now : UInt64) :
    (queue.store pcm samples captureTime now).departed = queue.departed ∧
      (queue.store pcm samples captureTime now).ring = queue.ring.putAll queueFrames
        (packetFrame pcm samples captureTime now) packetFrames := by
  have room : queue.makeRoom pcm = queue := if_neg (by rw [none]; decide)
  unfold store
  rw [room]
  exact ⟨rfl, rfl⟩

/-- A packet of silence at the beginning of time. -/
def earlyPacket : PcmCall Int := .submit (some fun _ => (0, 0)) 480 0 0 0

/-- Into an empty queue without a position, the packet is put whole. -/
theorem step_earlyPacket {queue : MicrophoneQueue Int} (none : queue.ring.count = 0)
    (unplaced : queue.hasSample = false) :
    (queue.step wholePcm earlyPacket).departed = queue.departed ∧
      (queue.step wholePcm earlyPacket).ring = queue.ring.putAll queueFrames
        (packetFrame wholePcm (fun _ => (0, 0)) 0 0) packetFrames := by
  have passed : queue.submitted wholePcm (some fun _ => (0, 0)) 480 0 0 =
      some fun _ => (0, 0) := by
    simp [submitted, wholePcm, unplaced, packetFrames]
  have bridged : (queue.expire wholePcm 0).bridge wholePcm 0 0 =
      queue.require (fits32 (queue.ring.head + queue.ring.count)) := by
    rw [expire_empty none]
    exact if_neg (by simp [require, unplaced])
  obtain ⟨ring, departed⟩ :=
    (queue.require (fits32 (queue.ring.head + queue.ring.count))).advance_frames 0 0
  obtain ⟨left, put⟩ := store_empty wholePcm
    ((queue.require (fits32 (queue.ring.head + queue.ring.count))).advance 0 0)
    (by rw [ring]; exact none) (fun _ => (0, 0)) 0 0
  rw [departed] at left
  rw [ring] at put
  have result : queue.step wholePcm earlyPacket =
      ((queue.require (fits32 (queue.ring.head + queue.ring.count))).advance 0 0).store wholePcm
        (fun _ => (0, 0)) 0 0 := by
    show (queue.submit wholePcm (some fun _ => (0, 0)) 480 0 0 0).1 = _
    unfold submit
    rw [passed]
    dsimp only
    rw [bridged]
  rw [result]
  exact ⟨left, put⟩

/-- A packet that is left to age expires whole, and nothing of it stays. -/
theorem expires_packet {queue : MicrophoneQueue Int} (reachable : (system wholePcm).Reachable queue)
    (none : queue.ring.count = 0) (unplaced : queue.hasSample = false) :
    ∃ after, (system wholePcm).Reachable after ∧ after.ring.count = 0 ∧ after.hasSample = false ∧
      after.departures Fate.expired = queue.departures Fate.expired + 480 := by
  have start : ∀ queue, (system wholePcm).initial queue → Kept wholePcm queue := by
    rintro queue rfl
    exact Kept.empty
  have submitted : (system wholePcm).Reachable (queue.step wholePcm earlyPacket) :=
    reachable.step (show (system wholePcm).step queue earlyPacket = some _ from rfl)
  obtain ⟨stayed, put⟩ := step_earlyPacket none unplaced
  have before := (kept_step wholePcm).reachable start reachable
  have kept := (kept_step wholePcm).reachable start submitted
  generalize queue.step wholePcm earlyPacket = first at submitted stayed put kept
  have window : first.window =
      (List.range packetFrames).map (packetFrame wholePcm (fun _ => (0, 0)) 0 0) := by
    have room : queue.ring.count + packetFrames ≤ queueFrames := by
      rw [none]
      decide
    have nothing : queue.ring.window queueFrames = [] :=
      List.eq_nil_of_length_eq_zero (by rw [Circular.length_window, none])
    rw [MicrophoneQueue.window, put, (before.tidy.putAll _ room).2, nothing, List.nil_append]
  have looked : (system wholePcm).Reachable (first.expire wholePcm 100000000) :=
    submitted.step (show (system wholePcm).step first (.expire 100000000) = some _ from rfl)
  obtain ⟨after, young, _⟩ := kept.expire 100000000
  obtain ⟨frames, fate, reason, departed⟩ := expire_departed wholePcm first 100000000
  have accepted := expire_accepted wholePcm first 100000000
  generalize first.expire wholePcm 100000000 = second at looked after young departed accepted
  have parts : first.window = frames ++ second.window := by
    have whole := after.conserved
    rw [accepted, kept.conserved, departed, List.map_append, List.append_assoc] at whole
    simpa [Function.comp_def] using List.append_cancel_left whole
  -- Every frame of the packet arrived at zero, and at this clock none of them is fresh.
  have none_stays : second.window = [] := by
    rw [List.eq_nil_iff_forall_not_mem]
    intro frame member
    have packet : frame ∈ first.window := by
      rw [parts]
      exact List.mem_append_right _ member
    rw [window] at packet
    obtain ⟨index, _, rfl⟩ := List.mem_map.mp packet
    have bound : (100000000 : UInt64).toNat < (0 : UInt64).toNat + pcmMaxAge.toNat :=
      (fresh_iff.mp (young _ member)).2
    exact absurd bound (by decide)
  have all : frames.length = 480 := by
    have length := congrArg List.length parts
    rw [none_stays, List.append_nil, window, List.length_map, List.length_range] at length
    exact length.symm
  have counted : second.departures Fate.expired = queue.departures Fate.expired + 480 := by
    unfold departures
    rw [departed, stayed, List.countP_append, List.countP_map]
    simp [Function.comp_def, reason, all]
  refine ⟨second.clear wholePcm,
    looked.step (show (system wholePcm).step second .clear = some _ from rfl), Nat.sub_self _, rfl,
    ?_⟩
  have still : (second.clear wholePcm).departed = second.departed := by
    show second.departed ++ (second.window.take second.ring.count).map _ = _
    rw [none_stays]
    simp
  rw [← counted]
  unfold departures
  rw [still]

/-- So many packets expire, one after the other. -/
theorem expires_packets (packets : Nat) :
    ∃ queue, (system wholePcm).Reachable queue ∧ queue.ring.count = 0 ∧ queue.hasSample = false ∧
      queue.departures Fate.expired = 480 * packets := by
  induction packets with
  | zero => exact ⟨empty wholePcm, ⟨_, rfl, .refl⟩, rfl, rfl, rfl⟩
  | succ packets ih =>
    obtain ⟨queue, reachable, none, unplaced, counted⟩ := ih
    obtain ⟨after, later, rest⟩ := expires_packet reachable none unplaced
    exact ⟨after, later, by rw [counted] at rest; exact rest⟩

/-- In the end the counter of expired frames starts again. -/
theorem expired_wraps : ¬ ∀ (pcm : Pcm Int) (queue : MicrophoneQueue Int),
    (system pcm).Reachable queue → queue.expiredFrames.toNat = queue.departures Fate.expired := by
  intro counts
  obtain ⟨queue, reachable, _, _, many⟩ := expires_packets 0x10000000000000000
  have exact := counts wholePcm queue reachable
  have bound := queue.expiredFrames.toNat_lt
  omega

/-- Two packets are queued, and one block is rendered. -/
def pcmRun : List (PcmCall Int) :=
  [.submit (some fun _ => (1, 0)) 480 0 1000000 5,
    .submit (some fun _ => (0, 2)) 480 480 11000000 10000005,
    .render 20000000]

/-- A block is rendered and the other stays. -/
theorem sample_queueLaw : ∃ queue, (system wholePcm).run (empty wholePcm) pcmRun = some queue ∧
    queue.ring.count = 481 ∧ QueueLaw wholePcm queue := by
  obtain ⟨queue, evaluated, count⟩ := Option.map_eq_some_iff.mp
    (show ((system wholePcm).run (empty wholePcm) pcmRun).map (fun queue => queue.ring.count) =
      some 481 from by decide +kernel)
  exact ⟨queue, evaluated, count,
    reachable_queueLaw wholePcm queue (Transition.System.reachable_of_run rfl evaluated)⟩

end MicrophoneQueue

end Plank.Audio
