import Plank.Capture.Drain

/-!
# Every step of a capture settles

One lemma for each label: what holds between two steps holds after it. The labels that run while
the capture is stopping end with `finishStop`; all others leave what a stop waits for alone.
-/

namespace Plank.Capture

namespace Screen

/-- A stop that is asked for twice changes nothing. -/
theorem stopWithCompletion_stopping {screen : Screen} (stopping : screen.stopping = true)
    (reaction : Reaction) : screen.stopWithCompletion reaction = screen := by
  rw [stopWithCompletion, if_pos stopping]

/-- After a stop the capture is stopping. -/
theorem stopWithCompletion_stops (screen : Screen) (reaction : Reaction) :
    (screen.stopWithCompletion reaction).stopping = true := by
  unfold stopWithCompletion
  split
  · next stopping => exact stopping
  · dsimp only
    obtain ⟨kept, _⟩ := stopDesktopAudio_kept { screen.note .stop with
      stopping := true
      drained := true
      audioRestartPending := false
      pipeline := { screen.pipeline with replacementCompletion := false }
      audioEncoder := false } reaction
    split
    · exact kept.stopping
    · unfold stopCapture
      split
      · exact (finishStop_kept _).stopping.trans kept.stopping
      · exact kept.stopping

/-- A stop changes neither whether the capture has begun nor whether it is starting. -/
theorem stopWithCompletion_begun (screen : Screen) (reaction : Reaction) :
    (screen.stopWithCompletion reaction).begun = screen.begun ∧
      (screen.stopWithCompletion reaction).starting = screen.starting := by
  unfold stopWithCompletion
  split
  · exact ⟨rfl, rfl⟩
  · dsimp only
    obtain ⟨kept, _⟩ := stopDesktopAudio_kept { screen.note .stop with
      stopping := true
      drained := true
      audioRestartPending := false
      pipeline := { screen.pipeline with replacementCompletion := false }
      audioEncoder := false } reaction
    split
    · exact ⟨kept.begun, kept.starting⟩
    · unfold stopCapture
      split
      · exact ⟨(finishStop_kept _).begun.trans kept.begun,
          (finishStop_kept _).starting.trans kept.starting⟩
      · exact ⟨kept.begun, kept.starting⟩

/-- A callback changes neither whether the capture has begun nor whether it is starting. -/
theorem callback_begun (screen : Screen) (event : Event) (reaction : Reaction) :
    (screen.callback event reaction).begun = screen.begun ∧
      (screen.callback event reaction).starting = screen.starting := by
  unfold callback
  dsimp only
  split
  · exact stopWithCompletion_begun _ reaction
  · exact ⟨rfl, rfl⟩

/-- A callback that leaves the capture running only writes itself down. -/
theorem callback_running {screen : Screen} {event : Event} {reaction : Reaction}
    (running : (screen.callback event reaction).stopping = false) :
    screen.callback event reaction = screen.note event := by
  unfold callback at running ⊢
  dsimp only at running ⊢
  split
  · next stops =>
    rw [if_pos stops, stopWithCompletion_stops] at running
    exact absurd running (by simp)
  · rfl

/-- The end of a frame builds nothing while the capture is stopping. -/
theorem finish_stopping (pipeline : Pipeline) (encode : Encode) :
    (pipeline.finish encode true).inFlight = pipeline.inFlight ∧
      (pipeline.finish encode true).buildingEncoder = pipeline.buildingEncoder := by
  simp [Pipeline.finish, Pipeline.replaceEncoderWhenDrained]

namespace Settled

variable {screen : Screen}

/-- What may change while a stop waits. -/
theorem update (settled : Settled screen) {changed : Screen} (kept : Kept screen changed)
    (core : Core 0 changed) (ready : Ready changed)
    (tap : changed.audioTap = screen.audioTap) : Settled changed where
  core := core
  ready := ready
  waiting stopping captured := by
    rw [kept.stopping] at stopping
    rw [kept.captureStopped] at captured
    rw [kept.discovering, kept.startingStream, kept.stoppingStream]
    exact settled.waiting stopping captured
  silent stopping := by
    rw [kept.stopping] at stopping
    rw [tap, kept.audioRestartPending]
    exact settled.silent stopping

/-- The stop completion is tried after a change. -/
theorem finishStop (settled : Settled screen) (begun : screen.begun = true) {changed : Screen}
    (kept : Kept screen changed) (core : Core 0 changed)
    (tap : changed.audioTap = screen.audioTap) : Settled changed.finishStop := by
  obtain ⟨finished, ready⟩ := core.finishStop (kept.begun.trans begun)
  have after := finishStop_kept changed
  exact settled.update ⟨after.begun.trans kept.begun, after.stopping.trans kept.stopping,
    after.captureStopped.trans kept.captureStopped, after.starting.trans kept.starting,
    after.discovering.trans kept.discovering, after.startingStream.trans kept.startingStream,
    after.stoppingStream.trans kept.stoppingStream,
    after.audioRestartPending.trans kept.audioRestartPending⟩ finished ready
    ((finishStop_audio changed).1.trans tap)

/-- A callback into the owner. -/
theorem callback (settled : Settled screen) (begun : screen.begun = true) (event : Event)
    (plain : event.plain = true) (allowed : event.active = true → screen.stopping = false)
    (early : .drained ∈ screen.trace → event.late = true) (reaction : Reaction) :
    Settled (screen.callback event reaction) := by
  cases running : screen.stopping with
  | false => exact settled.core.callback begun running event plain reaction
  | true =>
    have noted := settled.core.note begun event plain allowed early
    have same : screen.callback event reaction = screen.note event := by
      unfold Screen.callback
      dsimp only
      split
      · exact stopWithCompletion_stopping (show (screen.note event).stopping = true from running)
          reaction
      · rfl
    rw [same]
    exact settled.update ⟨rfl, rfl, rfl, rfl, rfl, rfl, rfl, rfl⟩ noted settled.ready rfl

/-- `startDesktopAudio`. -/
theorem startDesktopAudio (settled : Settled screen) (begun : screen.begun = true)
    (started : screen.starting = false)
    (unrouted : screen.stopping = false → screen.outputSelection = none) (reaction : Reaction) :
    Settled (screen.startDesktopAudio reaction) := by
  unfold Screen.startDesktopAudio
  split
  · exact settled
  · next present =>
    simp only [Bool.or_eq_true, not_or, Bool.not_eq_true] at present
    split
    · have silent : Core 0 { screen with audioReady := false } :=
        { settled.core with
          fresh := unfresh begun
          early := fun starting => by
            obtain ⟨tap, selection, _, pending, timers⟩ := settled.core.early starting
            exact ⟨tap, selection, rfl, pending, timers⟩ }
      exact silent.disableDesktopAudio begun present.1 reaction
    · refine Core.running { settled.core with
        fresh := unfresh begun
        early := fun starting => ?_
        unrouted := fun _ => unrouted present.1 } present.1
      rw [show screen.starting = true from starting] at started
      exact absurd started (by simp)

/-- `start`. -/
theorem start (settled : Settled screen) (unbegun : screen.begun = false) (bitrate : Nat)
    (tapMade valid : Bool) (reaction : Reaction) :
    Settled (screen.start bitrate tapMade valid reaction) := by
  have fresh := settled.core.fresh unbegun
  generalize screen.desktopAudioTap = desktop at fresh
  subst fresh
  have first : Core 0 ({ desktopAudioTap := desktop, begun := true, bitrate } : Screen) := {
    fresh := unfresh rfl
    starting := rfl
    apart := fun _ => rfl
    early := fun _ => ⟨rfl, rfl, rfl, rfl, rfl⟩
    audio := iff_of_true rfl rfl
    single := Nat.zero_le 1
    selected := fun _ => rfl
    unrouted := fun _ => rfl
    captured := fun captured => absurd captured (by simp)
    stream := fun stream => absurd stream (by simp)
    created := fun created => absurd created (by simp)
    ended := fun _ => .inl (by simp)
    called := rfl
    asked := iff_of_false (by simp) (by simp)
    done := fun drained => absurd drained (by simp)
    quiet := .nil
    last := .nil
    restarts := Nat.zero_le 3
    accounted := ⟨rfl, rfl⟩ }
  have encoder := first.createAudioEncoder rfl rfl
  have tap : Core 0 (if desktop then Screen.createDesktopAudioTap (Screen.createAudioEncoder
      { desktopAudioTap := desktop, begun := true, bitrate }) tapMade else
      Screen.createAudioEncoder { desktopAudioTap := desktop, begun := true, bitrate }) := by
    split
    · exact encoder.createDesktopAudioTap rfl rfl rfl tapMade
    · exact encoder
  unfold Screen.start
  dsimp only [Screen.createAudioEncoder, Screen.note] at tap ⊢
  generalize made : (if desktop then Screen.createDesktopAudioTap _ tapMade else _) = current
    at tap ⊢
  have begun : current.begun = true := by
    subst made
    cases desktop <;> cases tapMade <;> rfl
  have running : current.stopping = false := by
    subst made
    cases desktop <;> cases tapMade <;> rfl
  split
  · exact tap.callback begun running _ rfl reaction
  · have unstarted : current.startingStream = false ∧ current.startingTap = false ∧
        current.outputSelection = none ∧ current.audioReady = false ∧
          current.audioRestartPending = false ∧ current.restartTimers = 0 ∧
            .streamCreated ∉ current.trace := by
      subst made
      cases desktop <;> cases tapMade <;>
        exact ⟨rfl, rfl, rfl, rfl, rfl, rfl, by
          simp [Screen.createDesktopAudioTap, Screen.note]⟩
    obtain ⟨stream, unstarted⟩ := unstarted
    exact Core.running { tap with
      fresh := unfresh begun
      starting := rfl
      apart := fun _ => stream
      early := fun _ => ⟨unstarted.1, unstarted.2.1, unstarted.2.2.1, unstarted.2.2.2.1,
        unstarted.2.2.2.2.1⟩
      captured := fun captured => by
        have stopping := (tap.captured captured).1
        rw [running] at stopping
        exact absurd stopping (by simp)
      stream := fun leaving => by
        have stopping := (tap.stream leaving).2
        rw [running] at stopping
        exact absurd stopping (by simp)
      created := fun created => absurd created unstarted.2.2.2.2.2 } running

/-- The display discovery completes. -/
theorem discovered (settled : Settled screen) (discovering : screen.discovering = true)
    (begun : screen.begun = true) (discovery : Discovery) (reaction : Reaction) :
    Settled (screen.discovered discovery reaction) := by
  have core := settled.core
  have starting : screen.starting = true := by rw [core.starting, discovering, Bool.true_or]
  have alone := core.apart discovering
  have never : .streamCreated ∉ screen.trace := by
    intro created
    have ended := (core.created created).1
    rw [discovering] at ended
    exact absurd ended (by simp)
  have stays : screen.stoppingStream = false := by
    by_contra leaving
    have started := (core.stream (by simpa using leaving)).1
    rw [starting] at started
    exact absurd started (by simp)
  have running : screen.captureStopped = false := by
    by_contra stopped
    have started := (core.captured (by simpa using stopped)).2.1
    rw [starting] at started
    exact absurd started (by simp)
  have done : Core 0 { screen with discovering := false, starting := false } := { core with
    fresh := unfresh begun
    starting := alone.symm
    apart := fun discovering => absurd discovering (by simp)
    early := fun starting => absurd starting (by simp)
    captured := fun stopped => by
      rw [show screen.captureStopped = true from stopped] at running
      exact absurd running (by simp)
    stream := fun leaving => by
      rw [show screen.stoppingStream = true from leaving] at stays
      exact absurd stays (by simp)
    created := fun created => absurd created never }
  unfold Screen.discovered
  dsimp only
  split
  · next stopping =>
    have ended := done.captureEnded begun stopping rfl stays (.inl never)
    obtain ⟨finished, ready⟩ := ended.finishStop begun
    have kept := finishStop_kept { screen with
      discovering := false, starting := false, captureStopped := true }
    refine ⟨finished, ready, ?_, ?_⟩
    · intro _ running
      rw [kept.captureStopped] at running
      exact absurd running (by simp)
    · intro _
      rw [kept.audioRestartPending, (finishStop_audio _).1]
      exact settled.silent stopping
  · next runs =>
    have runs : screen.stopping = false := by simpa using runs
    have unasked : .stop ∉ screen.trace := by
      intro stop
      have stopping := core.asked.mp stop
      rw [runs] at stopping
      exact absurd stopping (by simp)
    have created : Core 0 { screen.note .streamCreated with
        discovering := false
        starting := false
        pipeline := screen.pipeline.create screen.bitrate
        stream := true } := { done with
      fresh := unfresh begun
      created := fun _ => ⟨rfl, .inl rfl⟩
      ended := fun stopped => by
        rw [show screen.captureStopped = true from stopped] at running
        exact absurd running (by simp)
      called := by
        rw [show (Screen.trace _).count Event.drained = screen.trace.count .drained from
          List.count_cons_of_ne (by simp)]
        exact core.called
      asked := iff_of_false (by simpa [Screen.note] using unasked) (by simp [Screen.note, runs])
      done := fun drained => absurd
        (show .drained ∈ screen.trace by simpa [Screen.note] using drained) (core.undrained runs)
      quiet := by
        refine List.pairwise_cons.mpr ⟨?_, core.quiet⟩
        rintro earlier member rfl
        exact absurd member unasked
      last := by
        refine List.pairwise_cons.mpr ⟨?_, core.last⟩
        rintro earlier member rfl
        exact absurd member (core.undrained runs)
      accounted := core.accounted.create screen.bitrate }
    cases discovery with
    | unavailable => exact done.callback begun runs _ rfl reaction
    | outputRefused => exact created.callback begun runs _ rfl reaction
    | ready =>
      exact Core.running { created with
        fresh := unfresh begun
        starting := rfl
        apart := fun discovering => absurd (show false = true from discovering) (by simp)
        early := fun _ => core.early starting
        captured := fun stopped => by
          rw [show screen.captureStopped = true from stopped] at running
          exact absurd running (by simp)
        stream := fun leaving => by
          rw [show screen.stoppingStream = true from leaving] at stays
          exact absurd stays (by simp) } runs

/-- The start of the stream completes. -/
theorem streamStarted (settled : Settled screen) (starting : screen.startingStream = true)
    (begun : screen.begun = true) (error : Bool) (reaction : Reaction) :
    Settled (screen.streamStarted error reaction) := by
  have core := settled.core
  have before : screen.starting = true := by rw [core.starting, starting, Bool.or_true]
  have alone : screen.discovering = false := by
    by_contra discovering
    have apart := core.apart (by simpa using discovering)
    rw [starting] at apart
    exact absurd apart (by simp)
  have stays : screen.stoppingStream = false := by
    by_contra leaving
    have started := (core.stream (by simpa using leaving)).1
    rw [before] at started
    exact absurd started (by simp)
  have running : screen.captureStopped = false := by
    by_contra stopped
    have started := (core.captured (by simpa using stopped)).2.1
    rw [before] at started
    exact absurd started (by simp)
  have done : Core 0 { screen with startingStream := false, starting := false } := { core with
    fresh := unfresh begun
    starting := by rw [show Screen.discovering _ = false from alone]; rfl
    apart := fun _ => rfl
    early := fun starting => absurd starting (by simp)
    captured := fun stopped => by
      rw [show screen.captureStopped = true from stopped] at running
      exact absurd running (by simp)
    stream := fun leaving => by
      rw [show screen.stoppingStream = true from leaving] at stays
      exact absurd stays (by simp) }
  unfold Screen.streamStarted
  dsimp only
  split
  · next stopping =>
    obtain ⟨stopped, ready, waiting⟩ := done.stopCapture begun stopping rfl running stays
    refine ⟨stopped, ready, waiting, fun _ => ?_⟩
    obtain ⟨tap, pending⟩ := stopCapture_audio
      { screen with startingStream := false, starting := false }
    rw [tap, pending]
    exact settled.silent stopping
  · next runs =>
    have runs : screen.stopping = false := by simpa using runs
    split
    · exact done.callback begun runs _ rfl reaction
    · have called := done.callback begun runs .started rfl reaction
      obtain ⟨begunC, startingC⟩ := callback_begun
        { screen with startingStream := false, starting := false } .started reaction
      refine called.startDesktopAudio (begunC.trans begun) startingC ?_ reaction
      intro running
      rw [callback_running running]
      exact (core.early before).2.1

/-- A complete screen sample. -/
theorem screenSample (settled : Settled screen) (begun : screen.begun = true)
    (valid failed : Bool) (reaction : Reaction) :
    Settled (screen.screenSample valid failed reaction) := by
  unfold Screen.screenSample
  split
  · exact settled
  · next runs =>
    have runs : screen.stopping = false := by simpa using runs
    have undrained := settled.core.undrained runs
    split
    · exact settled.core.callback begun runs _ rfl reaction
    · split
      · exact settled
      · have submitted := settled.core.encode begun undrained (settled.core.accounted.submit failed)
        dsimp only
        split
        · exact submitted.callback begun runs _ rfl reaction
        · exact submitted.running runs

/-- The encoder completes a frame. -/
theorem encoded (settled : Settled screen) (begun : screen.begun = true) {index : Nat}
    {encode : Encode} (present : screen.pipeline.encodes[index]? = some encode)
    (outcome : Encoded) (reaction : Reaction) :
    Settled (screen.encoded index encode outcome reaction) := by
  have undrained : .drained ∉ screen.trace := by
    intro drained
    have none := settled.core.accounted.flying
    rw [(settled.core.done drained).2.2.1] at none
    rw [List.length_eq_zero_iff.mp none.symm] at present
    exact absurd present (by simp)
  have completed := settled.core.encode begun undrained (settled.core.accounted.complete present)
  unfold Screen.encoded
  dsimp only
  generalize delivered : (if screen.stopping then { screen with
      pipeline := screen.pipeline.complete index } else _) = after
  have step : Core 0 after ∧ after.begun = true ∧ Waiting after ∧
      (after.stopping = true → after.audioTap = none ∧ after.audioRestartPending = false) := by
    subst delivered
    split
    · exact ⟨completed, begun, settled.waiting, settled.silent⟩
    · next runs =>
      have runs : screen.stopping = false := by simpa using runs
      have sent := settled.core.encode begun undrained
        ((settled.core.accounted.complete present).deliver outcome)
      split
      · have called := sent.callback begun runs .failed rfl reaction
        exact ⟨called.core, (callback_begun _ .failed reaction).1.trans begun, called.waiting,
          called.silent⟩
      · have called := sent.running runs
        exact ⟨called.core, begun, called.waiting, called.silent⟩
  obtain ⟨core, begun, waiting, silent⟩ := step
  have finish : Core 0 { after with pipeline := after.pipeline.finish encode after.stopping } :=
    { core with
      fresh := unfresh begun
      done := fun drained => by
        have kept := finish_stopping after.pipeline encode
        rw [core.stoppingOf drained]
        obtain ⟨captured, audio, none, building⟩ := core.done drained
        exact ⟨captured, audio, kept.1.trans none, kept.2.trans building⟩
      accounted := core.accounted.finish encode after.stopping }
  obtain ⟨finished, ready⟩ := finish.finishStop begun
  have kept := finishStop_kept
    { after with pipeline := after.pipeline.finish encode after.stopping }
  refine ⟨finished, ready, ?_, ?_⟩
  · intro stopping captured
    rw [kept.stopping] at stopping
    rw [kept.captureStopped] at captured
    rw [kept.discovering, kept.startingStream, kept.stoppingStream]
    exact waiting stopping captured
  · intro stopping
    rw [kept.stopping] at stopping
    rw [kept.audioRestartPending, (finishStop_audio _).1]
    exact silent stopping

/-- The replacement encoder was built, or failed. -/
theorem built (settled : Settled screen) (begun : screen.begun = true)
    (building : screen.pipeline.builds ≠ 0) (succeeded : Bool)
    (reaction : Reaction) : Settled (screen.built succeeded reaction) := by
  have undrained : .drained ∉ screen.trace := by
    intro drained
    have none := settled.core.accounted.building
    rw [(settled.core.done drained).2.2.2] at none
    exact building none
  unfold Screen.built
  dsimp only
  split
  · next stopping =>
    have built := settled.core.encode begun undrained settled.core.accounted.built
    have noted := built.note begun .encoderDisposed rfl (by simp [Event.active])
      (fun drained => absurd drained undrained)
    split
    · exact settled.finishStop begun ⟨rfl, rfl, rfl, rfl, rfl, rfl, rfl, rfl⟩ noted rfl
    · exact settled.finishStop begun ⟨rfl, rfl, rfl, rfl, rfl, rfl, rfl, rfl⟩ built rfl
  · next runs =>
    have runs : screen.stopping = false := by simpa using runs
    have installed := settled.core.encode begun undrained
      (settled.core.accounted.built.install succeeded)
    have noted := installed.note begun .encoderInstalled rfl (fun _ => runs)
      (fun drained => absurd drained undrained)
    cases succeeded with
    | true =>
      simp only [if_true]
      split
      · exact noted.callback begun runs _ rfl reaction
      · exact noted.running runs
    | false =>
      simp only [Bool.false_eq_true, if_false]
      split
      · exact installed.callback begun runs _ rfl reaction
      · exact installed.running runs

/-- `setBitrate`. -/
theorem setBitrate (settled : Settled screen) (begun : screen.begun = true) (bitrate : Nat)
    (reaction : Reaction) : Settled (screen.setBitrate bitrate reaction) := by
  have changed : Settled { screen with
      pipeline := (screen.pipeline.setBitrate screen.stopping bitrate).1 } := by
    by_cases stopping : screen.stopping = true
    · have same : (screen.pipeline.setBitrate screen.stopping bitrate).1 = screen.pipeline := by
        rw [Pipeline.setBitrate, if_pos (by simp [stopping])]
      rw [same]
      exact settled
    · have running : screen.stopping = false := by simpa using stopping
      exact (settled.core.encode begun (settled.core.undrained running)
        (settled.core.accounted.setBitrate screen.stopping bitrate)).running running
  unfold Screen.setBitrate
  dsimp only
  split
  · exact changed.callback begun _ rfl (by simp [Event.active]) (fun _ => rfl) reaction
  · exact changed

/-- The start of the current tap completes. -/
theorem tapStarted (settled : Settled screen) (begun : screen.begun = true)
    (starting : screen.startingTap = true) {tap : Nat} (current : screen.audioTap = some tap)
    (ready route : Bool) (reaction : Reaction) :
    Settled (screen.tapStarted tap ready route reaction) := by
  have core := settled.core
  have started : screen.starting = false := by
    by_contra early
    have unstarted := (core.early (by simpa using early)).1
    rw [starting] at unstarted
    exact absurd unstarted (by simp)
  have late : ∀ {property : Prop}, screen.starting = true → property := by
    intro property starting
    rw [started] at starting
    exact absurd starting (by simp)
  have done : Core 0 { screen with startingTap := false } := { core with
    fresh := unfresh begun
    early := late
    unrouted := fun starting => absurd starting (by simp) }
  unfold Screen.tapStarted
  dsimp only
  split
  · exact settled.update ⟨rfl, rfl, rfl, rfl, rfl, rfl, rfl, rfl⟩ done settled.ready rfl
  · next runs =>
    have runs : screen.stopping = false := by simpa using runs
    have answered : Core 0 { screen with startingTap := false, audioReady := ready } :=
      { done with
        fresh := unfresh begun
        early := late }
    split
    · exact answered.disableDesktopAudio begun runs reaction
    · split
      · have noted := answered.note begun (.routeStarted screen.routes tap) rfl
          (fun _ => runs) (fun drained => absurd drained (core.undrained runs))
        exact Core.running { noted with
          fresh := unfresh begun
          early := late
          selected := fun none => by
            rw [show screen.audioTap = Option.none from none] at current
            exact absurd current (by simp)
          unrouted := fun starting => absurd (show false = true from starting) (by simp) } runs
      · exact answered.running runs

/-- The stop of a route completes. -/
theorem routeStopped (settled : Settled screen) (begun : screen.begun = true) {index : Nat}
    {route tap : Nat} (present : screen.routeStopping[index]? = some (route, tap))
    (reaction : Reaction) :
    Settled ({ screen.note (.routeStopped route) with
      routeStopping := screen.routeStopping.eraseIdx index }.stopTap tap reaction) := by
  have noted := settled.core.note begun (.routeStopped route) rfl (by simp [Event.active])
    (fun drained => by
      have silent := settled.core.audio.mp (settled.core.done drained).2.1
      obtain ⟨inside, _⟩ := List.getElem?_eq_some_iff.mp present
      simp only [live] at silent
      omega)
  have one : screen.live = Screen.live { screen.note (.routeStopped route) with
      routeStopping := screen.routeStopping.eraseIdx index } + 1 := by
    obtain ⟨inside, _⟩ := List.getElem?_eq_some_iff.mp present
    have erased := List.length_eraseIdx_add_one inside
    show (if screen.audioTap.isSome then 1 else 0) + screen.routeStopping.length +
      screen.tapStopping.length = (if screen.audioTap.isSome then 1 else 0) +
        (screen.routeStopping.eraseIdx index).length + screen.tapStopping.length + 1
    omega
  have taken : Core 1 { screen.note (.routeStopped route) with
      routeStopping := screen.routeStopping.eraseIdx index } := { noted with
    fresh := unfresh begun
    audio := settled.core.audio.trans (iff_of_eq (congrArg (· = 0) one))
    single := Nat.le_trans (Nat.le_of_eq (congrArg (· + screen.restartTimers) one.symm))
      settled.core.single }
  obtain ⟨stopped, ready⟩ := taken.stopTap begun tap reaction
  obtain ⟨begunK, stoppingK, captured, starting, discovering, startingStream, stoppingStream,
    pending⟩ := stopTap_kept { screen.note (.routeStopped route) with
      routeStopping := screen.routeStopping.eraseIdx index } tap reaction
  exact settled.update ⟨begunK, stoppingK, captured, starting, discovering, startingStream,
    stoppingStream, pending⟩ stopped ready (stopTap_audioTap _ tap reaction)

/-- The stop of a tap completes. -/
theorem tapStopped (settled : Settled screen) (begun : screen.begun = true) {index : Nat}
    {tap : Nat} (present : screen.tapStopping[index]? = some tap) :
    Settled ({ screen with
      tapStopping := screen.tapStopping.eraseIdx index }.tapStopped tap) := by
  have one : screen.live = Screen.live { screen with
      tapStopping := screen.tapStopping.eraseIdx index } + 1 := by
    obtain ⟨inside, _⟩ := List.getElem?_eq_some_iff.mp present
    have erased := List.length_eraseIdx_add_one inside
    show (if screen.audioTap.isSome then 1 else 0) + screen.routeStopping.length +
      screen.tapStopping.length = (if screen.audioTap.isSome then 1 else 0) +
        screen.routeStopping.length + (screen.tapStopping.eraseIdx index).length + 1
    omega
  have taken : Core 1 { screen with
      tapStopping := screen.tapStopping.eraseIdx index } := { settled.core with
    fresh := unfresh begun
    audio := settled.core.audio.trans (iff_of_eq (congrArg (· = 0) one))
    single := Nat.le_trans (Nat.le_of_eq (congrArg (· + screen.restartTimers) one.symm))
      settled.core.single }
  obtain ⟨stopped, ready⟩ := taken.tapStopped begun tap
  obtain ⟨begunK, stoppingK, captured, starting, discovering, startingStream, stoppingStream,
    pending⟩ := tapStopped_kept { screen with
      tapStopping := screen.tapStopping.eraseIdx index } tap
  exact settled.update ⟨begunK, stoppingK, captured, starting, discovering, startingStream,
    stoppingStream, pending⟩ stopped ready (tapStopped_audioTap _ tap)

/-- The delay of a restart is over. -/
theorem restart (settled : Settled screen) (begun : screen.begun = true)
    (planned : screen.restartTimers ≠ 0) (tapMade : Bool) (reaction : Reaction) :
    Settled (screen.restart tapMade reaction) := by
  have core := settled.core
  have single := core.single
  have late : ∀ {property : Prop}, screen.starting = true → property := by
    intro property starting
    exact absurd (core.early starting).2.2.2.2 planned
  have fired : Core 0 { screen with restartTimers := screen.restartTimers - 1 } := { core with
    fresh := unfresh begun
    early := late
    single := by
      show screen.live + 0 + (screen.restartTimers - 1) ≤ 1
      omega }
  unfold Screen.restart
  dsimp only
  split
  · exact settled.update ⟨rfl, rfl, rfl, rfl, rfl, rfl, rfl, rfl⟩ fired settled.ready rfl
  · next runs =>
    simp only [Bool.or_eq_true, Bool.not_eq_true', not_or, Bool.not_eq_true] at runs
    have begins : Core 0 { screen with
        restartTimers := screen.restartTimers - 1
        audioRestartPending := false
        audioDiscontinuity := true } := { fired with
      fresh := unfresh begun
      early := late }
    have encoder := begins.createAudioEncoder begun runs.1
    have idle : screen.live + (screen.restartTimers - 1) = 0 := by omega
    have tap := encoder.createDesktopAudioTap begun runs.1 idle tapMade
    have absent : screen.audioTap = none := by
      by_contra some
      have present : screen.audioTap.isSome = true := Option.isSome_iff_ne_none.mpr some
      simp [live, present] at idle
    have unrouted := core.selected absent
    refine (tap.running ?_).startDesktopAudio ?_ ?_ ?_ reaction
    · unfold Screen.createDesktopAudioTap
      split <;> exact runs.1
    · unfold Screen.createDesktopAudioTap
      split <;> exact begun
    · have started : screen.starting = false := by
        by_contra starting
        exact late (by simpa using starting)
      unfold Screen.createDesktopAudioTap
      split <;> exact started
    · intro _
      unfold Screen.createDesktopAudioTap
      split <;> exact unrouted

/-- The stop of the stream completes. -/
theorem streamStopped (settled : Settled screen) (begun : screen.begun = true)
    (leaving : screen.stoppingStream = true) :
    Settled { screen.note .streamStopped with
      stoppingStream := false, captureStopped := true }.finishStop := by
  obtain ⟨started, stopping⟩ := settled.core.stream leaving
  have noted := settled.core.note begun .streamStopped rfl (by simp [Event.active])
    (fun drained => by
      have gone := (settled.core.captured (settled.core.done drained).1).2.2
      rw [leaving] at gone
      exact absurd gone (by simp))
  have stopped : Core 0 { screen.note .streamStopped with
      stoppingStream := false, captureStopped := true } := { noted with
    fresh := unfresh begun
    captured := fun _ => ⟨stopping, started, rfl⟩
    stream := fun leaving => absurd (show false = true from leaving) (by simp)
    created := fun created => ⟨(noted.created created).1, .inr rfl⟩
    ended := fun _ => .inr List.mem_cons_self
    done := fun drained => ⟨rfl, (noted.done drained).2⟩ }
  obtain ⟨finished, ready⟩ := stopped.finishStop begun
  have kept := finishStop_kept { screen.note .streamStopped with
    stoppingStream := false, captureStopped := true }
  refine ⟨finished, ready, ?_, ?_⟩
  · intro _ running
    rw [kept.captureStopped] at running
    exact absurd running (by simp)
  · intro _
    rw [kept.audioRestartPending, (finishStop_audio _).1]
    exact settled.silent stopping

end Settled

/-- Before the start nothing is outstanding. -/
theorem Settled.begunOf {screen : Screen} (settled : Settled screen)
    (other : screen ≠ { desktopAudioTap := screen.desktopAudioTap }) : screen.begun = true := by
  by_contra unbegun
  exact other (settled.core.fresh (by simpa using unbegun))

/-- Every step keeps what holds between two steps. -/
theorem settled_step : system.Preserves Settled := by
  intro screen label after settled stepped
  cases label with
  | start bitrate tapMade valid reaction =>
    obtain ⟨unbegun, result⟩ := Option.ite_none_left_eq_some.mp stepped
    obtain rfl := Option.some.inj result
    exact settled.start (by simpa using unbegun) bitrate tapMade valid reaction
  | discovered discovery reaction =>
    obtain ⟨discovering, result⟩ := Option.ite_none_right_eq_some.mp stepped
    obtain rfl := Option.some.inj result
    have begun := settled.begunOf (by
      intro same
      rw [same] at discovering
      exact absurd discovering (by simp))
    exact settled.discovered discovering begun discovery reaction
  | streamStarted error reaction =>
    obtain ⟨starting, result⟩ := Option.ite_none_right_eq_some.mp stepped
    obtain rfl := Option.some.inj result
    have begun := settled.begunOf (by
      intro same
      rw [same] at starting
      exact absurd starting (by simp))
    exact settled.streamStarted starting begun error reaction
  | streamStopped =>
    obtain ⟨leaving, result⟩ := Option.ite_none_right_eq_some.mp stepped
    obtain rfl := Option.some.inj result
    have begun := settled.begunOf (by
      intro same
      rw [same] at leaving
      exact absurd leaving (by simp))
    exact settled.streamStopped begun leaving
  | streamError reaction =>
    obtain ⟨stream, result⟩ := Option.ite_none_left_eq_some.mp stepped
    obtain rfl := Option.some.inj result
    have begun := settled.begunOf (by
      intro same
      rw [same] at stream
      exact absurd stream (by simp))
    split
    · exact settled
    · next runs => exact settled.core.callback begun (by simpa using runs) _ rfl reaction
  | screenSample valid failed reaction =>
    obtain ⟨stream, result⟩ := Option.ite_none_right_eq_some.mp stepped
    obtain rfl := Option.some.inj result
    have begun := settled.begunOf (by
      intro same
      rw [same] at stream
      exact absurd stream (by simp))
    exact settled.screenSample begun valid failed reaction
  | audioSample encoded reaction =>
    obtain ⟨stream, result⟩ := Option.ite_none_right_eq_some.mp stepped
    obtain rfl := Option.some.inj result
    have begun := settled.begunOf (by
      intro same
      rw [same] at stream
      exact absurd stream (by simp))
    split
    · exact settled
    · next runs =>
      simp only [Bool.or_eq_true, not_or, Bool.not_eq_true] at runs
      exact settled.core.callback begun runs.1 _ rfl reaction
  | encoded index outcome reaction =>
    obtain ⟨encode, present, rfl⟩ := Option.map_eq_some_iff.mp stepped
    have begun := settled.begunOf (by
      intro same
      rw [same] at present
      exact absurd present (by simp))
    exact settled.encoded begun present outcome reaction
  | built succeeded reaction =>
    obtain ⟨building, result⟩ := Option.ite_none_left_eq_some.mp stepped
    obtain rfl := Option.some.inj result
    have begun := settled.begunOf (by
      intro same
      rw [same] at building
      exact absurd building (by simp))
    exact settled.built begun building succeeded reaction
  | setBitrate bitrate reaction =>
    obtain ⟨begun, result⟩ := Option.ite_none_right_eq_some.mp stepped
    obtain rfl := Option.some.inj result
    exact settled.setBitrate begun bitrate reaction
  | requestKeyFrame =>
    obtain ⟨begun, result⟩ := Option.ite_none_right_eq_some.mp stepped
    obtain rfl := Option.some.inj result
    exact settled.update ⟨rfl, rfl, rfl, rfl, rfl, rfl, rfl, rfl⟩
      { settled.core with
        fresh := unfresh begun
        accounted := ⟨settled.core.accounted.flying, settled.core.accounted.building⟩ }
      settled.ready rfl
  | tapStarted ready route reaction =>
    obtain ⟨starting, result⟩ := Option.ite_none_right_eq_some.mp stepped
    obtain ⟨tap, current, rfl⟩ := Option.map_eq_some_iff.mp result
    have begun := settled.begunOf (by
      intro same
      rw [same] at starting
      exact absurd starting (by simp))
    exact settled.tapStarted begun starting current ready route reaction
  | tapFailed reaction =>
    obtain ⟨tap, current, rfl⟩ := Option.map_eq_some_iff.mp stepped
    have begun := settled.begunOf (by
      intro same
      rw [same] at current
      exact absurd current (by simp))
    split
    · exact settled
    · next runs => exact settled.core.disableDesktopAudio begun (by simpa using runs) reaction
  | routeStopped index reaction =>
    obtain ⟨⟨route, tap⟩, present, rfl⟩ := Option.map_eq_some_iff.mp stepped
    have begun := settled.begunOf (by
      intro same
      rw [same] at present
      exact absurd present (by simp))
    exact settled.routeStopped begun present reaction
  | tapStopped index =>
    obtain ⟨tap, present, rfl⟩ := Option.map_eq_some_iff.mp stepped
    have begun := settled.begunOf (by
      intro same
      rw [same] at present
      exact absurd present (by simp))
    exact settled.tapStopped begun present
  | restart tapMade reaction =>
    obtain ⟨planned, result⟩ := Option.ite_none_left_eq_some.mp stepped
    obtain rfl := Option.some.inj result
    have begun := settled.begunOf (by
      intro same
      rw [same] at planned
      exact absurd planned (by simp))
    exact settled.restart begun planned tapMade reaction
  | stop reaction =>
    obtain ⟨begun, result⟩ := Option.ite_none_right_eq_some.mp stepped
    obtain rfl := Option.some.inj result
    cases running : screen.stopping with
    | true =>
      rw [stopWithCompletion_stopping running]
      exact settled
    | false => exact settled.core.stopWithCompletion begun running reaction

/-- What holds between two steps holds of every reachable state. -/
theorem reachable_settled {screen : Screen} (reachable : system.Reachable screen) :
    Settled screen := by
  refine Transition.System.Preserves.reachable settled_step ?_ reachable
  rintro screen ⟨desktop, rfl⟩
  exact Core.running {
    fresh := fun _ => rfl
    starting := rfl
    apart := fun _ => rfl
    early := fun _ => ⟨rfl, rfl, rfl, rfl, rfl⟩
    audio := iff_of_true rfl rfl
    single := Nat.zero_le 1
    selected := fun _ => rfl
    unrouted := fun _ => rfl
    captured := fun captured => absurd captured (by simp)
    stream := fun stream => absurd stream (by simp)
    created := fun created => absurd created (by simp)
    ended := fun _ => .inl (by simp)
    called := rfl
    asked := iff_of_false (by simp) (by simp)
    done := fun drained => absurd drained (by simp)
    quiet := .nil
    last := .nil
    restarts := Nat.zero_le 3
    accounted := ⟨rfl, rfl⟩ } rfl

end Screen

end Plank.Capture
