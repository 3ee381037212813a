import Plank.Media.CameraSample

/-!
# Presentation times of camera records

`camera-session.m` presents a record at the host time that the media clock maps its capture time to,
or at its arrival while that clock is not active. The times of one activation increase exactly where
the clock comes, goes and is anchored again without turning back.
-/

namespace Plank.Media

open ReverseMediaClock

/-- A record that was presented. -/
structure Presented where
  /-- `capture_time_us`. -/
  captureTimeUs : UInt64
  /-- The host time at which it arrived. -/
  arrival : UInt64
  /-- The media clock, if it was active. -/
  anchor : Option ReverseMediaClock
  /-- The time that was submitted. -/
  time : UInt64
  deriving DecidableEq

/-- What happens while a camera is active. -/
inductive CameraEvent where
  /-- The media clock is cleared. -/
  | clear
  /-- An anchor is offered to the media clock. -/
  | observe (source host now : UInt64)
  /-- A record arrives at a host time, and the producer takes it or not. -/
  | record (captureTimeUs now : UInt64) (taken : Bool)

/-- A run of one activation. -/
structure CameraRun where
  /-- `_mediaClock`, if the session has one. -/
  clock : Option ReverseMediaClock
  /-- The producer has taken every record that was submitted. -/
  live : Bool
  /-- The records that it has taken, the latest first. -/
  presented : List Presented
  deriving DecidableEq

/-- The presentation time of a record that arrives: none where an active clock does not map it. -/
def cameraPresentation (clock : Option ReverseMediaClock) (captureTimeUs now : UInt64) :
    Option (Option UInt64) :=
  match clock with
  | none => some (some now)
  | some clock => do
    if ← clock.active now then
      let mapped ← clock.map (captureTimeUs * 1000) now
      some (if mapped = 0 then none else some mapped)
    else some (some now)

/-- The media clock, where it is active. -/
def anchorOf (clock : Option ReverseMediaClock) (now : UInt64) : Option ReverseMediaClock :=
  clock.filter fun clock => clock.Active now

/-- An event of a run: a record that the producer does not take ends the activation. -/
def CameraRun.perform (run : CameraRun) : CameraEvent → Option CameraRun
  | .clear => some { run with clock := run.clock.map fun _ => ReverseMediaClock.clear }
  | .observe source host now =>
    match run.clock with
    | none => some run
    | some clock => do
      let (_, after) ← clock.observe source host now
      some { run with clock := some after }
  | .record captureTimeUs now taken =>
    if !run.live then some run
    else do
      match ← cameraPresentation run.clock captureTimeUs now with
      | none => some run
      | some time =>
        if taken then
          some
            { run with
              presented := ⟨captureTimeUs, now, anchorOf run.clock now, time⟩ :: run.presented }
        else some { run with live := false }

/-- Events in order. -/
def CameraRun.performAll (run : CameraRun) : List CameraEvent → Option CameraRun
  | [] => some run
  | event :: events => do (← run.perform event).performAll events

/-- The start of an activation, with a media clock or without one. -/
def CameraRun.start (clocked : Bool) : CameraRun :=
  { clock := if clocked then some ReverseMediaClock.clear else none, live := true, presented := [] }

/-- The capture times and the arrival times of the records in order. -/
def recordTimes : List CameraEvent → List (UInt64 × UInt64)
  | [] => []
  | .record captureTimeUs now _ :: events => (captureTimeUs, now) :: recordTimes events
  | .clear :: events => recordTimes events
  | .observe _ _ _ :: events => recordTimes events

/-- A record is captured and arrives before another one, whose capture time is a valid one. -/
def TimedBefore (earlier later : UInt64 × UInt64) : Prop :=
  earlier.1.toNat < later.1.toNat ∧ earlier.2.toNat < later.2.toNat ∧
    later.1.toNat ≤ Camera.maxCaptureTime.toNat

instance (earlier later : UInt64 × UInt64) : Decidable (TimedBefore earlier later) :=
  inferInstanceAs (Decidable (_ ∧ _ ∧ _))

/-- The presented times increase, the latest first. -/
def Increasing (presented : List Presented) : Prop :=
  presented.Pairwise fun later earlier => earlier.time.toNat < later.time.toNat

/-- The clock does not turn back from one record to the next: nothing is asked of two records that
are presented at their arrival; between a mapped record and one presented at its arrival, the
arrival is on its side of the time that the anchor stands for; and from one anchor to another, the
host time does not fall behind the source time by as much as the records are apart. -/
def Steady (earlier later : Presented) : Prop :=
  match earlier.anchor, later.anchor with
  | none, none => True
  | none, some clock => (earlier.arrival.toNat : Int) <
    clock.host.toNat + (1000 * (later.captureTimeUs.toNat : Int) - clock.source.toNat)
  | some clock, none => (clock.host.toNat : Int) +
    (1000 * (earlier.captureTimeUs.toNat : Int) - clock.source.toNat) < later.arrival.toNat
  | some clock, some clock' =>
    ((clock.host.toNat : Int) - clock.source.toNat) - (clock'.host.toNat - clock'.source.toNat) <
      1000 * ((later.captureTimeUs.toNat : Int) - earlier.captureTimeUs.toNat)

/-- What a record is presented at: what its anchor maps its capture time to, or its arrival. -/
def Presented.Stamped (record : Presented) : Prop :=
  match record.anchor with
  | none => record.time = record.arrival
  | some clock => clock.Maps (record.captureTimeUs * 1000) record.arrival record.time

/-- The capture time and the arrival time of a record. -/
def Presented.times (record : Presented) : UInt64 × UInt64 := (record.captureTimeUs, record.arrival)

/-- What holds of a run before further events. -/
structure CameraRun.Kept (run : CameraRun) (events : List CameraEvent) : Prop where
  /-- The clock is sound. -/
  sound : ∀ clock, run.clock = some clock → clock.Sound
  /-- The records are presented as they are to be. -/
  stamped : ∀ record ∈ run.presented, record.Stamped
  /-- The records and those to come are in order. -/
  ordered : ((run.presented.map Presented.times).reverse ++ recordTimes events).Pairwise TimedBefore

/-- A capture time in nanoseconds does not wrap. -/
theorem toNat_nanos {captureTimeUs : UInt64}
    (valid : captureTimeUs.toNat ≤ Camera.maxCaptureTime.toNat) :
    (captureTimeUs * 1000).toNat = 1000 * captureTimeUs.toNat := by
  have top : Camera.maxCaptureTime.toNat = 9223372036854775 := rfl
  rw [UInt64.toNat_mul, show (1000 : UInt64).toNat = 1000 from rfl, Nat.mul_comm]
  exact Nat.mod_eq_of_lt (by omega)

/-- A presentation time is computed without an overflow, and is what it is to be. -/
theorem cameraPresentation_spec {clock : Option ReverseMediaClock}
    (sound : ∀ present, clock = some present → present.Sound) (captureTimeUs now : UInt64) :
    ∃ answer, cameraPresentation clock captureTimeUs now = some answer ∧
      ∀ time, answer = some time →
        Presented.Stamped ⟨captureTimeUs, now, anchorOf clock now, time⟩ := by
  unfold cameraPresentation anchorOf Presented.Stamped
  cases clock with
  | none =>
    refine ⟨_, rfl, fun time same => ?_⟩
    exact (Option.some.inj same).symm
  | some clock =>
    obtain ⟨mapped, computed, maps⟩ := map_spec (sound clock rfl) (captureTimeUs * 1000) now
    simp only [active_eq, computed, Option.bind_eq_bind, Option.bind_some, Option.filter_some]
    by_cases active : clock.Active now
    · rw [decide_eq_true active, if_pos rfl, if_pos rfl]
      refine ⟨_, rfl, fun time same => ?_⟩
      obtain ⟨nonzero, here⟩ := Option.ite_none_left_eq_some.mp same
      exact Option.some.inj here ▸ maps nonzero
    · rw [decide_eq_false active, if_neg Bool.false_ne_true, if_neg Bool.false_ne_true]
      refine ⟨_, rfl, fun time same => ?_⟩
      exact (Option.some.inj same).symm

/-- An event is carried out without an overflow and keeps the invariant. -/
theorem CameraRun.Kept.perform {run : CameraRun} {event : CameraEvent} {events : List CameraEvent}
    (kept : run.Kept (event :: events)) :
    ∃ after, run.perform event = some after ∧ after.Kept events := by
  have dropped (captureTimeUs now : UInt64) (taken : Bool)
      (is_record : event = .record captureTimeUs now taken) : run.Kept events := by
    subst is_record
    refine ⟨kept.sound, kept.stamped, kept.ordered.sublist ?_⟩
    exact List.Sublist.append_left (List.sublist_cons_self _ _) _
  cases event with
  | clear =>
    refine ⟨_, rfl, fun clock same => ?_, kept.stamped, kept.ordered⟩
    obtain ⟨-, -, rfl⟩ := Option.map_eq_some_iff.mp same
    exact sound_clear
  | observe source host now =>
    unfold CameraRun.perform
    cases present : run.clock with
    | none => exact ⟨run, rfl, kept.sound, kept.stamped, kept.ordered⟩
    | some clock =>
      dsimp only
      rw [observe_eq, Option.bind_eq_bind, Option.bind_some]
      refine ⟨_, rfl, fun after same => ?_, kept.stamped, kept.ordered⟩
      obtain rfl := Option.some.inj same
      by_cases accepted : ReverseMediaClock.Fitting source host now ∧
          (clock.Active now → clock.Later source host)
      · rw [if_pos accepted]
        obtain ⟨⟨-, source_fits, host_some, host_fits, -⟩, -⟩ := accepted
        exact ⟨source_fits, host_fits, fun _ => host_some⟩
      · rw [if_neg accepted]
        exact sound_clear
  | record captureTimeUs now taken =>
    have skipped := dropped captureTimeUs now taken rfl
    unfold CameraRun.perform
    dsimp only
    by_cases dead : (!run.live) = true
    · exact ⟨run, if_pos dead, skipped⟩
    rw [if_neg dead]
    obtain ⟨answer, computed, stamps⟩ := cameraPresentation_spec kept.sound captureTimeUs now
    rw [computed, Option.bind_eq_bind, Option.bind_some]
    cases answer with
    | none => exact ⟨run, rfl, skipped⟩
    | some time =>
      dsimp only
      by_cases takes : taken = true
      · rw [if_pos takes]
        refine ⟨_, rfl, kept.sound, ?_, ?_⟩
        · rintro record (_ | ⟨_, member⟩)
          · exact stamps time rfl
          · exact kept.stamped record member
        · have ordered := kept.ordered
          show ((List.map Presented.times (_ :: run.presented)).reverse ++ _).Pairwise TimedBefore
          rw [List.map_cons, List.reverse_cons, List.append_assoc]
          exact ordered
      · rw [if_neg takes]
        exact ⟨_, rfl, skipped.sound, skipped.stamped, skipped.ordered⟩

/-- Events in order are carried out without an overflow and keep the invariant. -/
theorem CameraRun.Kept.performAll {run : CameraRun} {events : List CameraEvent}
    (kept : run.Kept events) : ∃ after, run.performAll events = some after ∧ after.Kept [] := by
  induction events generalizing run with
  | nil => exact ⟨run, rfl, kept⟩
  | cons event events ih =>
    obtain ⟨next, done, kept_next⟩ := kept.perform
    obtain ⟨after, rest, kept_after⟩ := ih kept_next
    refine ⟨after, ?_, kept_after⟩
    unfold CameraRun.performAll
    rw [done, Option.bind_eq_bind, Option.bind_some, rest]

/-- A record is presented before a later one exactly where the clock does not turn back. -/
theorem time_lt_iff {earlier later : Presented} (ordered : TimedBefore earlier.times later.times)
    (stamped : earlier.Stamped) (stamped' : later.Stamped) :
    earlier.time.toNat < later.time.toNat ↔ Steady earlier later := by
  obtain ⟨captured, arrived, valid⟩ := ordered
  obtain ⟨capture, arrival, anchor, time⟩ := earlier
  obtain ⟨capture', arrival', anchor', time'⟩ := later
  simp only [Presented.times] at captured arrived valid
  have nanos := @toNat_nanos capture (by omega)
  have nanos' := toNat_nanos valid
  unfold Presented.Stamped at stamped stamped'
  unfold Steady
  cases anchor with
  | none =>
    obtain rfl : time = arrival := stamped
    cases anchor' with
    | none =>
      obtain rfl : time' = arrival' := stamped'
      exact iff_true_intro arrived
    | some clock' =>
      have moved : (time'.toNat : Int) =
        clock'.host.toNat + ((capture' * 1000).toNat - clock'.source.toNat) := Maps.moved stamped'
      rw [nanos'] at moved
      dsimp only
      omega
  | some clock =>
    have moved : (time.toNat : Int) =
      clock.host.toNat + ((capture * 1000).toNat - clock.source.toNat) := Maps.moved stamped
    rw [nanos] at moved
    cases anchor' with
    | none =>
      obtain rfl : time' = arrival' := stamped'
      dsimp only
      omega
    | some clock' =>
      have moved' : (time'.toNat : Int) =
        clock'.host.toNat + ((capture' * 1000).toNat - clock'.source.toNat) := Maps.moved stamped'
      rw [nanos'] at moved'
      dsimp only
      omega

/-- Records in order are presented at increasing times exactly where the clock does not turn back
from any of them to the next. -/
theorem increasing_iff {presented : List Presented}
    (ordered : (presented.map Presented.times).reverse.Pairwise TimedBefore)
    (stamped : ∀ record ∈ presented, record.Stamped) :
    Increasing presented ↔ presented.IsChain fun later earlier => Steady earlier later := by
  have transitive : IsTrans Presented fun later earlier =>
      earlier.time.toNat < later.time.toNat := ⟨fun _ _ _ first second => Nat.lt_trans second first⟩
  unfold Increasing
  rw [← List.isChain_iff_pairwise]
  rw [List.pairwise_reverse, List.pairwise_map] at ordered
  induction presented with
  | nil => exact ⟨fun _ => .nil, fun _ => .nil⟩
  | cons record rest ih =>
    cases rest with
    | nil => exact ⟨fun _ => .singleton _, fun _ => .singleton _⟩
    | cons next rest =>
      have here := List.rel_of_pairwise_cons ordered List.mem_cons_self
      have step := time_lt_iff here (stamped next (by simp)) (stamped record (by simp))
      have behind := ih (List.Pairwise.of_cons ordered)
        fun other member => stamped other (List.mem_cons_of_mem _ member)
      rw [List.isChain_cons_cons, List.isChain_cons_cons]
      exact and_congr step behind

/-- In every run of an activation whose records are captured and arrive in order, whatever is done
with the media clock, the times are computed without an overflow, and they increase exactly where
the clock does not turn back from any record that is taken to the next. -/
theorem presentations_increase (clocked : Bool) (events : List CameraEvent)
    (ordered : (recordTimes events).Pairwise TimedBefore) :
    ∃ run, (CameraRun.start clocked).performAll events = some run ∧
      (Increasing run.presented ↔
        run.presented.IsChain fun later earlier => Steady earlier later) := by
  have kept : (CameraRun.start clocked).Kept events := by
    refine ⟨fun clock same => ?_, nofun, ordered⟩
    cases clocked with
    | false => exact nomatch same
    | true =>
      obtain rfl := Option.some.inj same
      exact sound_clear
  obtain ⟨run, done, kept⟩ := kept.performAll
  have times := kept.ordered
  rw [show recordTimes [] = [] from rfl, List.append_nil] at times
  exact ⟨run, done, increasing_iff times kept.stamped⟩

/-- Two records around the loss of an anchor whose host time is ahead, in order, are taken at times
that turn back. -/
def anchorLost : List CameraEvent :=
  [.observe 1000000000 1090000000 1000000000, .record 1000000 1000000000 true, .clear,
    .record 1033333 1033000000 true]

/-- The case of a run whose media clock takes another anchor between its records. -/
theorem presentations_increase_anchored :
    (recordTimes [.observe 1000000000 1010000000 1000000000, .record 1000000 1000000000 true,
      .observe 1010000000 1020000000 1010000000, .record 1033333 1033000000 true]).Pairwise
        TimedBefore ∧
    ∃ run, (CameraRun.start true).performAll
        [.observe 1000000000 1010000000 1000000000, .record 1000000 1000000000 true,
          .observe 1010000000 1020000000 1010000000, .record 1033333 1033000000 true] =
        some run ∧
      (Increasing run.presented ↔
        run.presented.IsChain fun later earlier => Steady earlier later) := by
  refine ⟨by decide +kernel, presentations_increase true _ (by decide +kernel)⟩

/-- An anchor that is ahead and then lost lets the times turn back, though the records are captured
and arrive in order, and a builder that took the first one finds the second one stale. -/
theorem lost_anchor_turns_back :
    (recordTimes anchorLost).Pairwise TimedBefore ∧
    ∃ earlier later, ((CameraRun.start true).performAll anchorLost).map CameraRun.presented =
        some [later, earlier] ∧
      ¬Increasing [later, earlier] ∧
      ∀ builder : SampleBuilder, builder.hasFrame = true → builder.hostTime = earlier.time →
        ∀ header, builder.stale header later.time = true := by
  refine ⟨by decide +kernel,
    ⟨1000000, 1000000000, some ⟨1000000000, 1090000000, 1000000000⟩, 1090000000⟩,
    ⟨1033333, 1033000000, none, 1033000000⟩, by decide +kernel, ?_, ?_⟩
  · intro increasing
    exact absurd (List.rel_of_pairwise_cons increasing (List.mem_singleton_self _)) (by decide)
  · intro builder framed taken header
    have early : decide ((1033000000 : UInt64) ≤ builder.hostTime) = true := by
      rw [taken]
      decide
    simp only [SampleBuilder.stale, framed, early, Bool.or_true, Bool.true_and]

end Plank.Media
