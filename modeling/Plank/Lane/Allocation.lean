import Plank.Camera.Lane
import Plank.Microphone.Lane

/-!
# Endpoints of the reverse lanes

The client's microphone and camera lanes open endpoints of their own, and the host connects to the
endpoints it expects. `native_microphone.rs` and `native_camera.rs` agree on them by two means: a
lane is enabled under the mutex `reverse_allocation`, where it looks at the other one, and the
camera's task waits until the microphone's has its endpoint. The connection hands out odd IDs in the
order in which endpoints are registered.
-/

namespace Plank.Lane.Allocation

open Plank.Transport (Status)

/-- A lane from the client to the host. -/
inductive ReverseLane where
  /-- The microphone. -/
  | microphone
  /-- The camera. -/
  | camera
  deriving DecidableEq, Repr

/-- A side of the connection. -/
inductive Side where
  /-- The source of both lanes. -/
  | client
  /-- The sink of both lanes. -/
  | host
  deriving DecidableEq, Repr

/-- `microphone::ENDPOINT_ID`. -/
def microphoneId : UInt16 := 1

/-- `camera::endpoint_id`. -/
def endpointId (microphoneNegotiated : Bool) : UInt16 := if microphoneNegotiated then 3 else 1

/-- A call that enables a lane. -/
inductive EnableCall where
  /-- `plank_transport_native_microphone_enable_version`. -/
  | microphone (version : UInt32)
  /-- `plank_transport_native_camera_enable_version`. -/
  | camera (microphoneNegotiated version : UInt32)
  deriving DecidableEq, Repr

/-- A call that holds `reverse_allocation`. -/
structure Enabling where
  /-- The call. -/
  call : EnableCall
  /-- What `negotiated` said of the other lane. -/
  other : Option Bool := none
  /-- Whether the endpoint was in state `SetupReady` or `Ready`. -/
  opened : Option Bool := none
  deriving DecidableEq, Repr

/-- Both lanes of one side. -/
structure Lanes where
  /-- `shared.microphone.state`. -/
  microphone : Microphone.State := {}
  /-- `shared.camera.state`. -/
  camera : Camera.State := {}

/-- What a call that enables a lane did. -/
structure EnableResult where
  /-- The call. -/
  call : EnableCall
  /-- What it returned. -/
  status : Status
  /-- The lanes when it took effect. -/
  before : Lanes
  /-- The lanes it left. -/
  after : Lanes

/-- How far the task of a lane is. -/
inductive TaskStage where
  /-- It waits until the lane is enabled. -/
  | waiting
  /-- The camera's task has loaded `microphone_negotiated`. -/
  | flagged (negotiated : Bool)
  /-- It has asked the connection for an endpoint. -/
  | asked (expected : UInt16)
  /-- The connection has given it an endpoint. -/
  | handed (expected id : UInt16)
  /-- The microphone's task has its endpoint and has not said so. -/
  | held (id : UInt16)
  /-- It has its endpoint. -/
  | obtained (id : UInt16)
  /-- It is connected to an endpoint of the other side. -/
  | connected (id : UInt16)
  /-- It ended, because of an unexpected endpoint or for another reason. -/
  | failed (unexpected : Bool)
  deriving DecidableEq, Repr

/-- What a side shares between its calls and its tasks. -/
structure Shared where
  /-- The lanes. -/
  lanes : Lanes := {}
  /-- Who holds `reverse_allocation`. -/
  enabling : Option Enabling := none
  /-- What the calls returned, oldest first. -/
  results : List EnableResult := []
  /-- `shared.microphone.allocated`. -/
  allocated : Bool := false
  /-- The microphone's task. -/
  microphone : TaskStage := .waiting
  /-- The camera's task. -/
  camera : TaskStage := .waiting

/-- Both sides and the connection between them. -/
structure Session where
  /-- The client. -/
  client : Shared := {}
  /-- The host. -/
  host : Shared := {}
  /-- Registrations that wait for the connection, oldest first. -/
  pending : List ReverseLane := []
  /-- Registrations of the client with their IDs, oldest first. -/
  registered : List (ReverseLane × UInt16) := []

/-- What happens next. -/
inductive Action where
  /-- A call takes `reverse_allocation`. -/
  | enable (side : Side) (call : EnableCall)
  /-- It looks whether the other lane is enabled. -/
  | look (side : Side)
  /-- It looks at the state of the endpoint. -/
  | inspect (side : Side) (opened : Bool)
  /-- It enables the lane, or does not, and returns. -/
  | conclude (side : Side)
  /-- The task of a lane goes on. -/
  | task (side : Side) (lane : ReverseLane)
  /-- The connection gives out the next endpoint. -/
  | handOut
  /-- A task fails or runs out of time; a registration of it may be taken back. -/
  | fail (side : Side) (lane : ReverseLane) (withdrawn : Bool)
  /-- The endpoint of a lane is ready. -/
  | ready (side : Side) (lane : ReverseLane)
  deriving DecidableEq, Repr

namespace Session

/-- What a side shares. -/
def shared (session : Session) : Side → Shared
  | .client => session.client
  | .host => session.host

/-- Change what a side shares. -/
def setShared (session : Session) (shared : Shared) : Side → Session
  | .client => { session with client := shared }
  | .host => { session with host := shared }

end Session

/-- The effect of a call on the lanes. -/
def EnableCall.effect (call : EnableCall) (lanes : Lanes) (other opened : Bool) : Lanes × Status :=
  match call with
  | .microphone version =>
    let result := lanes.microphone.enableVersion version opened other
    ({ lanes with microphone := result.1 }, result.2)
  | .camera microphoneNegotiated version =>
    let result := lanes.camera.enable microphoneNegotiated version opened other
    ({ lanes with camera := result.1 }, result.2)

namespace Shared

/-- Whether the lane that a call does not enable is enabled. -/
def negotiated (shared : Shared) : EnableCall → Bool
  | .microphone _ => shared.lanes.camera.enabled
  | .camera _ _ => shared.lanes.microphone.enabled

/-- A call ends. -/
def conclude (shared : Shared) (call : EnableCall) (other opened : Bool) : Shared :=
  let (lanes, status) := call.effect shared.lanes other opened
  { shared with
    lanes
    enabling := none
    results := shared.results ++ [⟨call, status, shared.lanes, lanes⟩] }

/-- How far the task of a lane is. -/
def task (shared : Shared) : ReverseLane → TaskStage
  | .microphone => shared.microphone
  | .camera => shared.camera

/-- The task of a lane goes on. -/
def setTask (shared : Shared) (stage : TaskStage) : ReverseLane → Shared
  | .microphone => { shared with microphone := stage }
  | .camera => { shared with camera := stage }

/-- The error branch of `run`. -/
def failTask (shared : Shared) (unexpected : Bool) : ReverseLane → Shared
  | .microphone => { shared with
      microphone := .failed unexpected
      lanes := { shared.lanes with microphone := shared.lanes.microphone.failed } }
  | .camera => { shared with
      camera := .failed unexpected
      lanes := { shared.lanes with camera := shared.lanes.camera.failed } }

/-- `status = 2`. -/
def ready (shared : Shared) : ReverseLane → Shared
  | .microphone => { shared with
      lanes := { shared.lanes with microphone := shared.lanes.microphone.opened } }
  | .camera => { shared with
      lanes := { shared.lanes with camera := shared.lanes.camera.opened } }

end Shared

namespace Session

/-- A task of the client asks for an endpoint. -/
def ask (session : Session) (lane : ReverseLane) (expected : UInt16) : Session :=
  { session with
    client := session.client.setTask (.asked expected) lane
    pending := session.pending ++ [lane] }

/-- `source` of `native_microphone.rs`, with `microphone::register_source`. -/
def microphoneSource (session : Session) : Option Session :=
  match session.client.microphone with
  | .waiting =>
    if session.client.lanes.microphone.enabled then some (session.ask .microphone microphoneId)
    else none
  | .handed expected id =>
    if id ≠ expected then some { session with client := session.client.failTask true .microphone }
    else some { session with client := session.client.setTask (.held id) .microphone }
  | .held id =>
    some { session with
      client := { session.client.setTask (.obtained id) .microphone with allocated := true } }
  | _ => none

/-- `source` of `native_camera.rs`, with `camera::open_source`. -/
def cameraSource (session : Session) : Option Session :=
  match session.client.camera with
  | .waiting =>
    let lane := session.client.lanes.camera
    if lane.enabled then
      some { session with
        client := session.client.setTask (.flagged lane.microphoneNegotiated) .camera }
    else none
  | .flagged negotiated =>
    if negotiated && !session.client.allocated then none
    else some (session.ask .camera (endpointId negotiated))
  | .handed expected id =>
    if id ≠ expected then some { session with client := session.client.failTask true .camera }
    else some { session with client := session.client.setTask (.obtained id) .camera }
  | _ => none

/-- `sink` of `native_microphone.rs`. -/
def microphoneSink (session : Session) : Option Session :=
  match session.host.microphone with
  | .waiting =>
    if session.host.lanes.microphone.enabled then
      some { session with host := session.host.setTask (.connected microphoneId) .microphone }
    else none
  | _ => none

/-- `sink` of `native_camera.rs`. -/
def cameraSink (session : Session) : Option Session :=
  match session.host.camera with
  | .waiting =>
    let lane := session.host.lanes.camera
    if lane.enabled then
      some { session with
        host := session.host.setTask (.flagged lane.microphoneNegotiated) .camera }
    else none
  | .flagged negotiated =>
    some { session with host := session.host.setTask (.connected (endpointId negotiated)) .camera }
  | _ => none

/-- The connection gives out the next endpoint; a task that still waits for it gets it. -/
def handOut (session : Session) : Option Session :=
  match session.pending with
  | [] => none
  | lane :: rest =>
    let id := UInt16.ofNat (2 * session.registered.length + 1)
    some { session with
      pending := rest
      registered := session.registered ++ [(lane, id)]
      client := match session.client.task lane with
        | .asked expected => session.client.setTask (.handed expected id) lane
        | _ => session.client }

/-- Whether a task has begun and not ended. -/
def running : TaskStage → Bool
  | .waiting | .failed _ => false
  | _ => true

/-- One step of either side or of the connection. -/
def step (session : Session) : Action → Option Session
  | .enable side call =>
    let shared := session.shared side
    if shared.enabling.isSome then none
    else some (session.setShared { shared with enabling := some { call } } side)
  | .look side =>
    let shared := session.shared side
    shared.enabling.map fun enabling => session.setShared { shared with
      enabling := some { enabling with other := some (shared.negotiated enabling.call) } } side
  | .inspect side opened =>
    let shared := session.shared side
    shared.enabling.map fun enabling => session.setShared { shared with
      enabling := some { enabling with opened := some opened } } side
  | .conclude side =>
    match (session.shared side).enabling with
    | some ⟨call, some other, some opened⟩ =>
      some (session.setShared ((session.shared side).conclude call other opened) side)
    | _ => none
  | .task .client .microphone => session.microphoneSource
  | .task .client .camera => session.cameraSource
  | .task .host .microphone => session.microphoneSink
  | .task .host .camera => session.cameraSink
  | .handOut => session.handOut
  | .fail side lane withdrawn =>
    let shared := session.shared side
    if running (shared.task lane) then
      let session := session.setShared (shared.failTask false lane) side
      some (if side = .client && withdrawn then
        { session with pending := session.pending.erase lane } else session)
    else none
  | .ready side lane =>
    match (session.shared side).task lane with
    | .obtained _ | .connected _ =>
      some (session.setShared ((session.shared side).ready lane) side)
    | _ => none

/-- Every interleaving, from two sides that did nothing yet. -/
def system : Transition.System Session Action where
  initial session := session = {}
  step := step

end Session

end Plank.Lane.Allocation
