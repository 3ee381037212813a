import Plank.Capture.Route

/-!
# A stop of the capture drains

The order of events and the flags together: what the stop completion means when it is called, and
that it is called.
-/

namespace Plank.Capture

namespace Screen

/-- What a capture promises its owner about a stop. -/
structure Drains (screen : Screen) : Prop where
  /-- The completion is called once, and only after a stop. -/
  once : screen.trace.count .drained ≤ if .stop ∈ screen.trace then 1 else 0
  /-- It is called once the stream is stopped or never was, and every tap is stopped. -/
  stopped : ∀ later earlier, screen.trace = later ++ .drained :: earlier →
    (.streamCreated ∉ earlier ∨ .streamStopped ∈ earlier) ∧
      ∀ tap, .tapCreated tap ∈ earlier → .tapStopped tap ∈ earlier
  /-- By then no tap is left, no frame is in flight and no encoder is being built. -/
  idle : .drained ∈ screen.trace → screen.live = 0 ∧ screen.pipeline.encodes = [] ∧
    screen.pipeline.builds = 0
  /-- After the stop nothing is started, created, installed or reported. -/
  quiet : ∀ later earlier, screen.trace = later ++ .stop :: earlier →
    ∀ event ∈ later, event.active = false
  /-- A route of a tap is stopped before the tap. -/
  routes : ∀ later tap earlier, screen.trace = later ++ .tapStop tap :: earlier →
    ∀ route, .routeStarted route tap ∈ screen.trace → .routeStopped route ∈ earlier
  /-- The audio is restarted three times at most. -/
  restarts : screen.audioRestarts ≤ 3
  /-- A replacement that completes after the stop is disposed of. -/
  disposed : ∀ reaction after, .stop ∈ screen.trace →
    screen.step (.built true reaction) = some after →
      after.trace = .encoderDisposed :: screen.trace ∨
        after.trace = .drained :: .encoderDisposed :: screen.trace
  /-- With every call completed the stop has completed. -/
  completes : .stop ∈ screen.trace → Idle screen → screen.trace.count .drained = 1

/-- What follows the completion answers changes of bitrate. -/
theorem Core.after_drained {transit : Nat} {screen : Screen} (core : Core transit screen)
    {later earlier : List Event} (split : screen.trace = later ++ .drained :: earlier)
    {event : Event} (member : event ∈ screen.trace) (other : event ≠ .drained)
    (timely : event.late = false) : event ∈ earlier := by
  rw [split] at member
  rcases List.mem_append.mp member with after | before
  · have last := core.last
    rw [split] at last
    have late := (List.pairwise_append.mp last).2.2 event after .drained List.mem_cons_self rfl
    rw [timely] at late
    exact absurd late (by simp)
  · rcases List.mem_cons.mp before with same | before
    · exact absurd same other
    · exact before

/-- Desktop audio with a route, a change of bitrate, a stop while the replacement is built, and
every completion. -/
def sampleLabels : List Label :=
  [.start 20000 true true {}, .discovered .ready {}, .streamStarted false {},
    .tapStarted true true {}, .screenSample true false {}, .setBitrate 30000 {},
    .encoded 0 (.sample ⟨true, true, true, some (true, 1), true, true, .ok⟩) {},
    .stop {}, .routeStopped 0 {}, .tapStopped 0, .streamStopped, .built true {}]

end Screen

end Plank.Capture
