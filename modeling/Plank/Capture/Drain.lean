import Plank.Capture.Screen

/-!
# The stop of a capture drains once

Between two steps every tap is in one place: it is current, its route is being stopped, or it is
being stopped itself. Within a step a tap can be in transit from one place to the next, which the
number `transit` counts. The stop completion is tried whenever the last of its conditions may have
become true, so none of them can hold with the completion still to be called.
-/

namespace Plank.Capture

/-- Events that must not follow the stop. -/
def Event.active : Event → Bool
  | .started | .failed | .streamCreated | .audioEncoderCreated | .tapCreated _ | .routeStarted _ _
  | .encoderInstalled => true
  | .stop | .drained | .replaced _ | .streamStopped | .routeStopped _ | .tapStop _ | .tapStopped _
  | .encoderDisposed => false

/-- Events that no flag of the capture stands for. -/
def Event.plain : Event → Bool
  | .stop | .drained | .streamCreated => false
  | _ => true

/-- Events that may follow the stop completion. -/
def Event.late : Event → Bool
  | .replaced _ => true
  | _ => false

namespace Screen

/-- Taps that are current or being stopped. -/
def live (screen : Screen) : Nat :=
  (if screen.audioTap.isSome then 1 else 0) + screen.routeStopping.length +
    screen.tapStopping.length

/-- Every call issued to a framework has completed. -/
structure Idle (screen : Screen) : Prop where
  /-- The display discovery. -/
  discovering : screen.discovering = false
  /-- The start of the stream. -/
  startingStream : screen.startingStream = false
  /-- The stop of the stream. -/
  stoppingStream : screen.stoppingStream = false
  /-- The frames at the encoder. -/
  encodes : screen.pipeline.encodes = []
  /-- The replacement encoder. -/
  builds : screen.pipeline.builds = 0
  /-- The stops of routes. -/
  routeStopping : screen.routeStopping = []
  /-- The stops of taps. -/
  tapStopping : screen.tapStopping = []

/-- What holds throughout a step. -/
structure Core (transit : Nat) (screen : Screen) : Prop where
  /-- Nothing happened before the start. -/
  fresh : screen.begun = false → screen = { desktopAudioTap := screen.desktopAudioTap }
  /-- The flag stands for the discovery and the start of the stream. -/
  starting : screen.starting = (screen.discovering || screen.startingStream)
  /-- These are not outstanding together. -/
  apart : screen.discovering = true → screen.startingStream = false
  /-- Meanwhile no tap was started. -/
  early : screen.starting = true → screen.startingTap = false ∧ screen.outputSelection = none ∧
    screen.audioReady = false ∧ screen.audioRestartPending = false ∧ screen.restartTimers = 0
  /-- The flag stands while no tap is left. -/
  audio : screen.audioStopped = true ↔ screen.live + transit = 0
  /-- There is one tap at a time. -/
  single : screen.live + transit + screen.restartTimers ≤ 1
  /-- A route is selected for the current tap. -/
  selected : screen.audioTap = none → screen.outputSelection = none
  /-- A tap being started has no route yet. -/
  unrouted : screen.startingTap = true → screen.outputSelection = none
  /-- The stream is stopped for good only by a stop. -/
  captured : screen.captureStopped = true →
    screen.stopping = true ∧ screen.starting = false ∧ screen.stoppingStream = false
  /-- A stream being stopped was started. -/
  stream : screen.stoppingStream = true → screen.starting = false ∧ screen.stopping = true
  /-- A stream that was created is there until it is stopped. -/
  created : .streamCreated ∈ screen.trace →
    screen.discovering = false ∧ (screen.stream = true ∨ screen.captureStopped = true)
  /-- The stream never existed, or its stop completed. -/
  ended : screen.captureStopped = true →
    .streamCreated ∉ screen.trace ∨ .streamStopped ∈ screen.trace
  /-- The stop completion is kept until it is called. -/
  called : screen.trace.count .drained + (if screen.drained then 1 else 0) =
    if screen.stopping then 1 else 0
  /-- The flag says whether the stop was called. -/
  asked : .stop ∈ screen.trace ↔ screen.stopping = true
  /-- The completion was called only once everything was stopped. -/
  done : .drained ∈ screen.trace → screen.captureStopped = true ∧ screen.audioStopped = true ∧
    screen.pipeline.inFlight = 0 ∧ screen.pipeline.buildingEncoder = false
  /-- Nothing active follows the stop. -/
  quiet : screen.trace.Pairwise fun later earlier => earlier = .stop → later.active = false
  /-- Nothing but the answer to a change of bitrate follows the completion. -/
  last : screen.trace.Pairwise fun later earlier => earlier = .drained → later.late = true
  /-- The audio was restarted three times at most. -/
  restarts : screen.audioRestarts ≤ 3
  /-- The flags of the encoder say what is outstanding. -/
  accounted : screen.pipeline.Accounted

/-- The stop completion was tried since its last condition became true. -/
def Ready (screen : Screen) : Prop :=
  screen.stopping = true → screen.captureStopped = true → screen.audioStopped = true →
    screen.pipeline.inFlight = 0 → screen.pipeline.buildingEncoder = false →
      screen.drained = false

/-- A stop waits for a call that is outstanding. -/
def Waiting (screen : Screen) : Prop :=
  screen.stopping = true → screen.captureStopped = false →
    screen.discovering = true ∨ screen.startingStream = true ∨ screen.stoppingStream = true

/-- What holds between two steps. -/
structure Settled (screen : Screen) : Prop where
  /-- What holds throughout. -/
  core : Core 0 screen
  /-- The completion was tried. -/
  ready : Ready screen
  /-- The stop waits for a call. -/
  waiting : Waiting screen
  /-- A stop leaves no current tap and plans no restart. -/
  silent : screen.stopping = true → screen.audioTap = none ∧ screen.audioRestartPending = false

/-- What an operation on the audio leaves alone. -/
structure Kept (before after : Screen) : Prop where
  /-- `_queue`. -/
  begun : after.begun = before.begun
  /-- `_stopping`. -/
  stopping : after.stopping = before.stopping
  /-- `_captureStopped`. -/
  captureStopped : after.captureStopped = before.captureStopped
  /-- `_starting`. -/
  starting : after.starting = before.starting
  /-- The display discovery. -/
  discovering : after.discovering = before.discovering
  /-- The start of the stream. -/
  startingStream : after.startingStream = before.startingStream
  /-- The stop of the stream. -/
  stoppingStream : after.stoppingStream = before.stoppingStream
  /-- `_audioRestartPending`. -/
  audioRestartPending : after.audioRestartPending = before.audioRestartPending

/-- The stop completion changes nothing else. -/
theorem finishStop_kept (screen : Screen) : Kept screen screen.finishStop := by
  unfold finishStop
  split <;> exact ⟨rfl, rfl, rfl, rfl, rfl, rfl, rfl, rfl⟩

/-- Nor does it touch the taps. -/
theorem finishStop_audio (screen : Screen) :
    screen.finishStop.audioTap = screen.audioTap ∧ screen.finishStop.live = screen.live ∧
      screen.finishStop.restartTimers = screen.restartTimers := by
  unfold finishStop
  split <;> exact ⟨rfl, rfl, rfl⟩

/-- The completion of the stop of a tap concerns the audio alone. -/
theorem tapStopped_kept (screen : Screen) (tap : Nat) : Kept screen (screen.tapStopped tap) := by
  obtain ⟨begun, stopping, captured, starting, discovering, startingStream, stoppingStream,
    pending⟩ := finishStop_kept { screen.note (.tapStopped tap) with audioStopped := true }
  unfold tapStopped
  dsimp only
  split <;> exact ⟨begun, stopping, captured, starting, discovering, startingStream,
    stoppingStream, pending⟩

/-- It leaves no tap behind that was not there. -/
theorem tapStopped_audioTap (screen : Screen) (tap : Nat) :
    (screen.tapStopped tap).audioTap = screen.audioTap := by
  have kept := finishStop_audio { screen.note (.tapStopped tap) with audioStopped := true }
  unfold tapStopped
  dsimp only
  split <;> exact kept.1

/-- The stop of a tap concerns the audio alone. -/
theorem stopTap_kept (screen : Screen) (tap : Nat) (reaction : Reaction) :
    Kept screen (screen.stopTap tap reaction) := by
  unfold stopTap
  dsimp only
  split
  · obtain ⟨begun, stopping, captured, starting, discovering, startingStream, stoppingStream,
      pending⟩ := tapStopped_kept (screen.note (.tapStop tap)) tap
    exact ⟨begun, stopping, captured, starting, discovering, startingStream, stoppingStream,
      pending⟩
  · exact ⟨rfl, rfl, rfl, rfl, rfl, rfl, rfl, rfl⟩

/-- It makes no tap current. -/
theorem stopTap_audioTap (screen : Screen) (tap : Nat) (reaction : Reaction) :
    (screen.stopTap tap reaction).audioTap = screen.audioTap := by
  unfold stopTap
  dsimp only
  split
  · exact tapStopped_audioTap _ tap
  · rfl

/-- The stop of the audio concerns the audio alone, and leaves no current tap. -/
theorem stopDesktopAudio_kept (screen : Screen) (reaction : Reaction) :
    Kept screen (screen.stopDesktopAudio reaction) ∧
      (screen.stopDesktopAudio reaction).audioTap = none := by
  unfold stopDesktopAudio
  cases current : screen.audioTap with
  | none => exact ⟨⟨rfl, rfl, rfl, rfl, rfl, rfl, rfl, rfl⟩, current⟩
  | some tap =>
    dsimp only
    cases screen.outputSelection with
    | none =>
      obtain ⟨begun, stopping, captured, starting, discovering, startingStream, stoppingStream,
        pending⟩ := stopTap_kept { screen with
          audioTap := none, startingTap := false, outputSelection := none } tap reaction
      exact ⟨⟨begun, stopping, captured, starting, discovering, startingStream, stoppingStream,
        pending⟩, stopTap_audioTap _ tap reaction⟩
    | some route =>
      dsimp only
      split
      · obtain ⟨begun, stopping, captured, starting, discovering, startingStream, stoppingStream,
          pending⟩ := stopTap_kept ({ screen with
            audioTap := none, startingTap := false, outputSelection := none }.note
              (.routeStopped route)) tap reaction
        exact ⟨⟨begun, stopping, captured, starting, discovering, startingStream, stoppingStream,
          pending⟩, stopTap_audioTap _ tap reaction⟩
      · exact ⟨⟨rfl, rfl, rfl, rfl, rfl, rfl, rfl, rfl⟩, rfl⟩

/-- The stop of the stream leaves the audio alone. -/
theorem stopCapture_audio (screen : Screen) : screen.stopCapture.audioTap = screen.audioTap ∧
    screen.stopCapture.audioRestartPending = screen.audioRestartPending := by
  unfold stopCapture
  split
  · exact ⟨(finishStop_audio _).1, (finishStop_kept _).audioRestartPending⟩
  · exact ⟨rfl, rfl⟩

/-- A capture that runs waits for no stop. -/
theorem Core.running {screen : Screen} (core : Core 0 screen) (running : screen.stopping = false) :
    Settled screen where
  core := core
  ready stopping := by
    rw [running] at stopping
    exact absurd stopping (by simp)
  waiting stopping := by
    rw [running] at stopping
    exact absurd stopping (by simp)
  silent stopping := by
    rw [running] at stopping
    exact absurd stopping (by simp)

/-- Nothing is asked of the fresh state once the capture has begun. -/
theorem unfresh {screen : Screen} (begun : screen.begun = true) (unbegun : screen.begun = false) :
    screen = { desktopAudioTap := screen.desktopAudioTap } := by
  rw [begun] at unbegun
  exact absurd unbegun (by simp)

namespace Core

variable {transit : Nat} {screen : Screen}

/-- Once the completion was called the capture is stopping. -/
theorem stoppingOf (core : Core transit screen) (drained : .drained ∈ screen.trace) :
    screen.stopping = true := (core.captured (core.done drained).1).1

/-- The completion was not called while the capture runs. -/
theorem undrained (core : Core transit screen) (running : screen.stopping = false) :
    .drained ∉ screen.trace := by
  intro drained
  have stopping := core.stoppingOf drained
  rw [running] at stopping
  exact absurd stopping (by simp)

/-- Nor while a tap is in transit. -/
theorem undrained_transit (core : Core 1 screen) : .drained ∉ screen.trace := by
  intro drained
  have silent := core.audio.mp (core.done drained).2.1
  omega

/-- Writing down a plain event that may happen now. -/
theorem note (core : Core transit screen) (begun : screen.begun = true) (event : Event)
    (plain : event.plain = true) (allowed : event.active = true → screen.stopping = false)
    (early : .drained ∈ screen.trace → event.late = true) : Core transit (screen.note event) := by
  have earlier : ∀ {other : Event}, other.plain = false → other ∈ (screen.note event).trace →
      other ∈ screen.trace := by
    intro other special member
    rcases List.mem_cons.mp member with rfl | earlier
    · rw [plain] at special
      exact absurd special (by simp)
    · exact earlier
  have count : (screen.note event).trace.count .drained = screen.trace.count .drained := by
    refine List.count_cons_of_ne ?_
    rintro rfl
    exact absurd plain (by simp [Event.plain])
  exact { core with
    fresh := unfresh begun
    created := fun member => core.created (earlier rfl member)
    ended := fun stopped => (core.ended stopped).imp (fun never member => never (earlier rfl member))
      (List.mem_cons_of_mem _)
    called := by
      rw [count]
      exact core.called
    asked := ⟨fun member => core.asked.mp (earlier rfl member),
      fun stopping => List.mem_cons_of_mem _ (core.asked.mpr stopping)⟩
    done := fun member => core.done (earlier rfl member)
    quiet := by
      refine List.pairwise_cons.mpr ⟨?_, core.quiet⟩
      rintro earlier member rfl
      have stopping := core.asked.mp member
      cases active : event.active with
      | false => rfl
      | true =>
        rw [allowed active] at stopping
        exact absurd stopping (by simp)
    last := by
      refine List.pairwise_cons.mpr ⟨?_, core.last⟩
      rintro earlier member rfl
      exact early member }

/-- The stop completion is called when everything is stopped, and is tried. -/
theorem finishStop (core : Core transit screen) (begun : screen.begun = true) :
    Core transit screen.finishStop ∧ Ready screen.finishStop := by
  unfold Screen.finishStop
  split
  · next left =>
    refine ⟨core, ?_⟩
    intro stopping captured silent encodes building
    simp [stopping, captured, silent, encodes, building] at left
  · next all =>
    simp only [Bool.or_eq_true, Bool.not_eq_true', decide_eq_true_eq, not_or,
      Bool.not_eq_false, Bool.not_eq_true, not_not] at all
    obtain ⟨⟨⟨⟨stopping, captured⟩, silent⟩, encodes⟩, building⟩ := all
    refine ⟨?_, fun _ _ _ _ _ => rfl⟩
    cases waits : screen.drained with
    | false =>
      simp only [Bool.false_eq_true, if_false]
      exact { core with
        fresh := unfresh begun
        created := fun member => ⟨(core.created member).1, .inr captured⟩
        called := by simpa [waits] using core.called
        accounted := ⟨core.accounted.flying, core.accounted.building⟩ }
    | true =>
      simp only [if_true]
      have once : screen.trace.count .drained = 0 := by
        have called := core.called
        simp only [waits, if_true, stopping] at called
        omega
      exact { core with
        fresh := unfresh begun
        created := by
          intro member
          rcases List.mem_cons.mp member with same | earlier
          · exact absurd same (by simp)
          · exact ⟨(core.created earlier).1, .inr captured⟩
        ended := fun _ => (core.ended captured).imp (fun never => by simp [never])
          (List.mem_cons_of_mem _)
        called := by simp [once, stopping]
        asked := by simpa using core.asked
        done := fun _ => ⟨captured, silent, encodes, building⟩
        quiet := List.pairwise_cons.mpr ⟨fun _ _ _ => rfl, core.quiet⟩
        last := by
          refine List.pairwise_cons.mpr ⟨?_, core.last⟩
          rintro earlier member rfl
          exact absurd once (Nat.ne_of_gt (List.count_pos_iff.mpr member))
        accounted := ⟨core.accounted.flying, core.accounted.building⟩ }

/-- A restart of the audio may be planned once no tap is left. -/
theorem plan (core : Core 0 screen) (begun : screen.begun = true)
    (pending : screen.audioRestartPending = true) (idle : screen.live + screen.restartTimers = 0) :
    Core 0 { screen with restartTimers := screen.restartTimers + 1 } :=
  { core with
    fresh := unfresh begun
    early := fun starting => by
      obtain ⟨_, _, _, unplanned, _⟩ := core.early starting
      rw [pending] at unplanned
      exact absurd unplanned (by simp)
    single := by
      show screen.live + 0 + (screen.restartTimers + 1) ≤ 1
      omega }

/-- The tap in transit has been stopped. -/
theorem tapStopped (core : Core 1 screen) (begun : screen.begun = true) (tap : Nat) :
    Core 0 (screen.tapStopped tap) ∧ Ready (screen.tapStopped tap) := by
  have single := core.single
  have noted := core.note begun (.tapStopped tap) rfl (by simp [Event.active])
    (fun drained => absurd drained core.undrained_transit)
  have stopped : Core 0 { screen.note (.tapStopped tap) with audioStopped := true } :=
    { noted with
      fresh := unfresh begun
      audio := by
        have gone : screen.live = 0 := by omega
        exact iff_of_true rfl gone
      single := by
        show screen.live + 0 + screen.restartTimers ≤ 1
        omega
      done := fun member => by
        obtain ⟨captured, _, encodes, building⟩ := noted.done member
        exact ⟨captured, rfl, encodes, building⟩ }
  obtain ⟨finished, ready⟩ := stopped.finishStop begun
  have kept := finishStop_kept { screen.note (.tapStopped tap) with audioStopped := true }
  have audio := finishStop_audio { screen.note (.tapStopped tap) with audioStopped := true }
  unfold Screen.tapStopped
  dsimp only
  split
  · exact ⟨finished, ready⟩
  · next restarts =>
    simp only [Bool.or_eq_true, Bool.not_eq_true', not_or, Bool.not_eq_false,
      Bool.not_eq_true] at restarts
    have planned := finished.plan (kept.begun.trans begun) restarts.2 (by
        rw [audio.2.1, audio.2.2]
        show screen.live + screen.restartTimers = 0
        omega)
    exact ⟨planned, ready⟩

/-- The tap in transit is stopped. -/
theorem stopTap (core : Core 1 screen) (begun : screen.begun = true) (tap : Nat)
    (reaction : Reaction) :
    Core 0 (screen.stopTap tap reaction) ∧ Ready (screen.stopTap tap reaction) := by
  have noted := core.note begun (.tapStop tap) rfl (by simp [Event.active])
    (fun drained => absurd drained core.undrained_transit)
  unfold Screen.stopTap
  dsimp only
  split
  · exact noted.tapStopped begun tap
  · have sounding : screen.audioStopped ≠ true := by
      intro silent
      have gone := core.audio.mp silent
      omega
    have one : Screen.live { screen.note (.tapStop tap) with
        tapStopping := screen.tapStopping ++ [tap] } = screen.live + 1 := by
      simp only [live, List.length_append, List.length_singleton]
      rfl
    exact ⟨{ noted with
      fresh := unfresh begun
      audio := core.audio.trans (iff_of_eq (congrArg (· = 0) one.symm))
      single := Nat.le_trans (Nat.le_of_eq (congrArg (· + screen.restartTimers) one))
        core.single }, fun _ _ silent => absurd silent sounding⟩

/-- The current tap is released, to be stopped. -/
theorem release (core : Core 0 screen) (begun : screen.begun = true) {tap : Nat}
    (current : screen.audioTap = some tap) :
    Core 1 { screen with audioTap := none, startingTap := false, outputSelection := none } := by
  have one : screen.live = Screen.live { screen with
      audioTap := none, startingTap := false, outputSelection := none } + 1 := by
    simp only [live, current, Option.isSome_some, Option.isSome_none, if_true, if_false,
      Bool.false_eq_true]
    omega
  exact { core with
    fresh := unfresh begun
    early := fun starting => ⟨rfl, rfl, (core.early starting).2.2⟩
    audio := core.audio.trans (iff_of_eq (congrArg (· = 0) one))
    single := Nat.le_trans (Nat.le_of_eq (congrArg (· + screen.restartTimers) one.symm)) core.single
    selected := fun _ => rfl
    unrouted := fun starting => absurd starting (by simp) }

/-- The current tap is stopped, after its route. -/
theorem stopDesktopAudio (core : Core 0 screen) (begun : screen.begun = true)
    (reaction : Reaction) : Core 0 (screen.stopDesktopAudio reaction) := by
  unfold Screen.stopDesktopAudio
  cases current : screen.audioTap with
  | none => exact core
  | some tap =>
    have released := core.release begun current
    dsimp only
    cases screen.outputSelection with
    | none => exact (released.stopTap begun tap reaction).1
    | some route =>
      dsimp only
      split
      · have noted := released.note begun (.routeStopped route) rfl
          (by simp [Event.active]) (fun drained => absurd drained released.undrained_transit)
        exact (noted.stopTap begun tap reaction).1
      · have one : Screen.live { screen with
            audioTap := none
            startingTap := false
            outputSelection := none
            routeStopping := screen.routeStopping ++ [(route, tap)] } = screen.live := by
          simp only [live, current, List.length_append, List.length_singleton,
            Option.isSome_some, Option.isSome_none, if_true, if_false, Bool.false_eq_true]
          omega
        exact { released with
          fresh := unfresh begun
          audio := core.audio.trans (iff_of_eq (congrArg (· = 0) one.symm))
          single := Nat.le_trans (Nat.le_of_eq (congrArg (· + screen.restartTimers) one))
            core.single }

/-- The stream is stopped for good. -/
theorem captureEnded (core : Core 0 screen) (begun : screen.begun = true)
    (stopping : screen.stopping = true) (started : screen.starting = false)
    (stays : screen.stoppingStream = false)
    (ended : .streamCreated ∉ screen.trace ∨ .streamStopped ∈ screen.trace) :
    Core 0 { screen with captureStopped := true } :=
  { core with
    fresh := unfresh begun
    captured := fun _ => ⟨stopping, started, stays⟩
    created := fun member => ⟨(core.created member).1, .inr rfl⟩
    ended := fun _ => ended
    done := fun member => ⟨rfl, (core.done member).2⟩ }

/-- The stream is stopped, or there is none. -/
theorem stopCapture (core : Core 0 screen) (begun : screen.begun = true)
    (stopping : screen.stopping = true) (started : screen.starting = false)
    (running : screen.captureStopped = false) (stays : screen.stoppingStream = false) :
    Core 0 screen.stopCapture ∧ Ready screen.stopCapture ∧ Waiting screen.stopCapture := by
  unfold Screen.stopCapture
  split
  · next none =>
    have never : .streamCreated ∉ screen.trace := by
      intro member
      obtain ⟨_, stream | stopped⟩ := core.created member
      · simp [stream] at none
      · rw [running] at stopped
        exact absurd stopped (by simp)
    have stopped := core.captureEnded begun stopping started stays (.inl never)
    obtain ⟨finished, ready⟩ := stopped.finishStop begun
    refine ⟨finished, ready, ?_⟩
    intro _ running
    rw [(finishStop_kept _).captureStopped] at running
    exact absurd running (by simp)
  · refine ⟨{ core with
      fresh := unfresh begun
      captured := fun stopped => ?_
      stream := fun _ => ⟨started, stopping⟩ }, ?_, fun _ _ => .inr (.inr rfl)⟩
    · rw [show screen.captureStopped = true from stopped] at running
      exact absurd running (by simp)
    · intro _ stopped
      rw [show screen.captureStopped = true from stopped] at running
      exact absurd running (by simp)

/-- A running capture is stopped. -/
theorem stopWithCompletion (core : Core 0 screen) (begun : screen.begun = true)
    (running : screen.stopping = false) (reaction : Reaction) :
    Settled (screen.stopWithCompletion reaction) := by
  have captured : screen.captureStopped = false := by
    by_contra stopped
    have stopping := (core.captured (by simpa using stopped)).1
    rw [running] at stopping
    exact absurd stopping (by simp)
  have stays : screen.stoppingStream = false := by
    by_contra leaving
    have stopping := (core.stream (by simpa using leaving)).2
    rw [running] at stopping
    exact absurd stopping (by simp)
  have unasked : .stop ∉ screen.trace := by
    intro member
    have stopping := core.asked.mp member
    rw [running] at stopping
    exact absurd stopping (by simp)
  have none : screen.trace.count .drained = 0 := by
    have called := core.called
    rw [running] at called
    simp only [Bool.false_eq_true, if_false] at called
    omega
  unfold Screen.stopWithCompletion
  rw [if_neg (by simp [running])]
  generalize asked : { screen.note .stop with
    stopping := true
    drained := true
    audioRestartPending := false
    pipeline := { screen.pipeline with replacementCompletion := false }
    audioEncoder := false } = stopped
  have start : Core 0 stopped := by
    subst asked
    exact { core with
      fresh := unfresh begun
      early := fun starting => by
        obtain ⟨tap, selection, ready, _, timers⟩ := core.early starting
        exact ⟨tap, selection, ready, rfl, timers⟩
      captured := fun stopped => by
        rw [show screen.captureStopped = true from stopped] at captured
        exact absurd captured (by simp)
      stream := fun leaving => by
        rw [show screen.stoppingStream = true from leaving] at stays
        exact absurd stays (by simp)
      created := fun member => core.created (by simpa [Screen.note] using member)
      ended := fun stopped => by
        rw [show screen.captureStopped = true from stopped] at captured
        exact absurd captured (by simp)
      called := by simp [Screen.note, none]
      asked := iff_of_true List.mem_cons_self rfl
      done := fun member => by
        have earlier : .drained ∈ screen.trace := by simpa [Screen.note] using member
        exact absurd none (Nat.ne_of_gt (List.count_pos_iff.mpr earlier))
      quiet := by
        refine List.pairwise_cons.mpr ⟨?_, core.quiet⟩
        rintro earlier member rfl
        exact absurd member unasked
      last := by
        refine List.pairwise_cons.mpr ⟨?_, core.last⟩
        rintro earlier member rfl
        exact absurd none (Nat.ne_of_gt (List.count_pos_iff.mpr member))
      accounted := ⟨core.accounted.flying, core.accounted.building⟩ }
  have stopping : stopped.stopping = true := by subst asked; rfl
  have begunS : stopped.begun = true := by subst asked; exact begun
  have capturedS : stopped.captureStopped = false := by subst asked; exact captured
  have staysS : stopped.stoppingStream = false := by subst asked; exact stays
  have pendingS : stopped.audioRestartPending = false := by subst asked; rfl
  have silent := start.stopDesktopAudio begunS reaction
  obtain ⟨kept, tap⟩ := stopDesktopAudio_kept stopped reaction
  dsimp only
  cases starting : (stopped.stopDesktopAudio reaction).starting with
  | true =>
    rw [if_pos rfl]
    refine ⟨silent, ?_, ?_, fun _ => ⟨tap, kept.audioRestartPending.trans pendingS⟩⟩
    · intro _ stopped
      rw [kept.captureStopped, capturedS] at stopped
      exact absurd stopped (by simp)
    · intro _ _
      have either := silent.starting
      rw [starting] at either
      rcases Bool.or_eq_true_iff.mp either.symm with discovering | startingStream
      · exact .inl discovering
      · exact .inr (.inl startingStream)
  | false =>
    rw [if_neg (by simp)]
    obtain ⟨final, ready, waiting⟩ := silent.stopCapture (kept.begun.trans begunS)
      (kept.stopping.trans stopping) starting (kept.captureStopped.trans capturedS)
      (kept.stoppingStream.trans staysS)
    refine ⟨final, ready, waiting, fun _ => ?_⟩
    obtain ⟨tapC, pendingC⟩ := stopCapture_audio (stopped.stopDesktopAudio reaction)
    exact ⟨tapC.trans tap, pendingC.trans (kept.audioRestartPending.trans pendingS)⟩

/-- A callback into the owner of a running capture. -/
theorem callback (core : Core 0 screen) (begun : screen.begun = true)
    (running : screen.stopping = false) (event : Event) (plain : event.plain = true)
    (reaction : Reaction) : Settled (screen.callback event reaction) := by
  have noted := core.note begun event plain (fun _ => running)
    (fun drained => absurd drained (core.undrained running))
  unfold Screen.callback
  dsimp only
  split
  · exact noted.stopWithCompletion begun running reaction
  · exact noted.running running

/-- The encoder works freely before the completion was called. -/
theorem encode (core : Core transit screen) (begun : screen.begun = true)
    (undrained : .drained ∉ screen.trace) {pipeline : Pipeline} (accounted : pipeline.Accounted) :
    Core transit { screen with pipeline } :=
  { core with
    fresh := unfresh begun
    accounted := accounted
    done := fun drained => absurd drained undrained }

/-- The tap of a running capture is given up. -/
theorem disableDesktopAudio (core : Core 0 screen) (begun : screen.begun = true)
    (running : screen.stopping = false) (reaction : Reaction) :
    Settled (screen.disableDesktopAudio reaction) := by
  unfold Screen.disableDesktopAudio
  split
  · exact core.running running
  · dsimp only
    generalize given : (screen.audioReady && !screen.stopping &&
      decide (screen.audioRestarts < 3)) = pending
    have early : screen.starting = true → screen.startingTap = false ∧
        screen.outputSelection = none ∧ false = false ∧ pending = false ∧
          screen.restartTimers = 0 := by
      intro starting
      obtain ⟨tap, selection, unready, _, timers⟩ := core.early starting
      refine ⟨tap, selection, rfl, ?_, timers⟩
      rw [← given, unready]
      rfl
    have within : (if pending then screen.audioRestarts + 1 else screen.audioRestarts) ≤ 3 := by
      have before := core.restarts
      split
      · next restarts =>
        rw [restarts, Bool.and_eq_true, decide_eq_true_eq] at given
        omega
      · exact before
    generalize counted : (if pending then screen.audioRestarts + 1 else screen.audioRestarts) =
      restarts at within ⊢
    have silent : Core 0 { screen with
        audioRestartPending := pending
        audioRestarts := restarts
        audioReady := false
        audioEncoder := false } := { core with
      fresh := unfresh begun
      early := early
      restarts := within }
    obtain ⟨kept, _⟩ := stopDesktopAudio_kept { screen with
        audioRestartPending := pending
        audioRestarts := restarts
        audioReady := false
        audioEncoder := false } reaction
    exact (silent.stopDesktopAudio begun reaction).running (kept.stopping.trans running)

/-- An audio encoder is created while the capture runs. -/
theorem createAudioEncoder (core : Core transit screen) (begun : screen.begun = true)
    (running : screen.stopping = false) : Core transit screen.createAudioEncoder :=
  { core.note begun .audioEncoderCreated rfl (fun _ => running)
      (fun drained => absurd drained (core.undrained running)) with
    fresh := unfresh begun }

/-- A tap is created while the capture runs and there is none. -/
theorem createDesktopAudioTap (core : Core 0 screen) (begun : screen.begun = true)
    (running : screen.stopping = false) (idle : screen.live + screen.restartTimers = 0)
    (made : Bool) : Core 0 (screen.createDesktopAudioTap made) := by
  have none : screen.audioTap = none := by
    by_contra some
    have present : screen.audioTap.isSome = true := Option.isSome_iff_ne_none.mpr some
    simp [live, present] at idle
  simp only [live, none, Option.isSome_none, Bool.false_eq_true, if_false] at idle
  unfold Screen.createDesktopAudioTap
  split
  · have noted := core.note begun (.tapCreated screen.taps) rfl (fun _ => running)
      (fun drained => absurd drained (core.undrained running))
    exact { noted with
      fresh := unfresh begun
      early := fun starting => by
        obtain ⟨tap, selection, _, pending, timers⟩ := core.early starting
        exact ⟨tap, selection, rfl, pending, timers⟩
      audio := iff_of_false (by simp) (by simp [live])
      single := by
        show (if (some screen.taps).isSome then 1 else 0) + screen.routeStopping.length +
          screen.tapStopping.length + 0 + screen.restartTimers ≤ 1
        simp only [Option.isSome_some, if_true]
        omega
      selected := fun absent => absurd absent (by simp)
      done := fun drained => absurd drained (noted.undrained running) }
  · exact { core with
      fresh := unfresh begun
      early := fun starting => by
        obtain ⟨tap, selection, _, pending, timers⟩ := core.early starting
        exact ⟨tap, selection, rfl, pending, timers⟩
      audio := by
        refine iff_of_true rfl ?_
        simp only [live, Option.isSome_none, Bool.false_eq_true, if_false]
        omega
      single := by
        simp only [live, Option.isSome_none, Bool.false_eq_true, if_false]
        omega
      selected := fun _ => core.selected none
      done := fun drained => absurd drained (core.undrained running) }

end Core

end Screen

end Plank.Capture
