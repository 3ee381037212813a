import Plank.Camera.Isolation
import Plank.Microphone.Isolation

/-!
# Both reverse lanes

The microphone and the camera lane are two separate implementations of one gate. The privacy
statement of the product is about both of them at once.
-/

namespace Plank.Lane

/-- In every reachable session of either reverse lane: each activation hands out, in order and
young enough, only records accepted under that very activation and carrying its generation;
activations strictly increase; a muted or failed lane hands nothing out, and no activation
follows a failure. The camera's records are compared up to the discontinuity bit its queue may
set. -/
theorem reverse_lanes_mute_safe {microphoneCapacity cameraCapacity : Nat} :
    (∀ {session : Microphone.Session},
      (Microphone.Session.system microphoneCapacity).Reachable session →
        MuteSafe Microphone.generationOf Microphone.later Microphone.maxAge session.ledger ∧
          session.ledger.current.generation = session.lane.generation.toNat) ∧
      ∀ {session : Camera.Session}, (Camera.Session.system cameraCapacity).Reachable session →
        MuteSafe Camera.generationOf Camera.later Camera.maxAge
            (session.ledger.map Camera.Record.mark) ∧
          session.ledger.current.generation = session.lane.generation.toNat :=
  ⟨Microphone.Session.reachable_mute_safe, Camera.Session.reachable_mute_safe⟩

/-- One record before and one after a mute: the first is queued when the lane is muted. -/
def microphoneRun : List Microphone.Action :=
  [.enable 3 true false, .opened, .activate 1, .push ⟨1, 480, 5, [0]⟩, .activate 0, .pop,
    .activate 2, .push ⟨2, 480, 9, [0]⟩, .receive true true true ⟨true, 8, true⟩]

/-- The microphone session after its run. -/
def sampleMicrophone : Microphone.Session :=
  ((Microphone.Session.system Microphone.receivePackets).run {} microphoneRun).getD {}

/-- The same order of events on a camera lane that carries MJPEG frames. -/
def cameraRun : List Camera.Action :=
  [.enable 0 1 true false, .opened, .activate 1, .push (frame 1), .activate 0, .pop,
    .activate 2, .push (frame 2), .receive true ⟨true, 100, true⟩]
where
  /-- A small MJPEG frame of an activation. -/
  frame (generation : UInt64) : Camera.Record :=
    ⟨.native ⟨Camera.mjpeg, 1280, 720, 1, 1, 1, 1⟩, Camera.keyFrame, generation, 0, 5, some 0, [0]⟩

/-- The camera session after its run. -/
def sampleCamera : Camera.Session :=
  ((Camera.Session.system Camera.receiveFrames).run {} cameraRun).getD {}

/-- Both sample sessions hand out the second record alone, and are mute safe. -/
theorem samples_mute_safe :
    (sampleMicrophone.ledger.periods.map fun period => period.delivered.length) = [1, 0, 0, 0] ∧
      MuteSafe Microphone.generationOf Microphone.later Microphone.maxAge
        sampleMicrophone.ledger ∧
      (sampleCamera.ledger.periods.map fun period => period.delivered.length) = [1, 0, 0, 0] ∧
      MuteSafe Camera.generationOf Camera.later Camera.maxAge
        (sampleCamera.ledger.map Camera.Record.mark) := by
  have microphone : (Microphone.Session.system Microphone.receivePackets).run {} microphoneRun =
      some sampleMicrophone := rfl
  have camera : (Camera.Session.system Camera.receiveFrames).run {} cameraRun =
      some sampleCamera := rfl
  have safe := @reverse_lanes_mute_safe Microphone.receivePackets Camera.receiveFrames
  exact ⟨rfl, (safe.1 (Transition.System.reachable_of_run rfl microphone)).1, rfl,
    (safe.2 (Transition.System.reachable_of_run rfl camera)).1⟩

end Plank.Lane
