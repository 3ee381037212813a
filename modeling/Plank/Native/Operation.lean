import Mathlib.Logic.Function.Basic
import Plank.Native.Config
import Plank.Native.Lifecycle
import Plank.Transport.Result

/-!
# The operation of an endpoint

The worker of an endpoint connects, passes the gates its configuration asks for and then serves
the lanes. This module follows `connect_raw_client` and the four functions `hold_server`,
`hold_client`, `hold_setup_server` and `hold_setup_client` from one access of shared state to the
next, beside the entry points of the C interface, any number of which may be under way. How much
a queue holds is left to the models of the queues: a lane counts what passes it.
-/

namespace Plank.Native

open Transport (Status)

/-- The lanes of a session. -/
inductive Lane where
  /-- Video, from the server. -/
  | video
  /-- Audio, from the server. -/
  | audio
  /-- Input, from the client. -/
  | input
  /-- Reliable data, both ways. -/
  | data
  /-- Microphone, from the client. -/
  | microphone
  /-- Camera, from the client. -/
  | camera
  deriving DecidableEq, Repr

namespace Lane

/-- Whether the send call of the lane belongs to the mode. -/
def sends (lane : Lane) (mode : Nat) : Bool :=
  match lane with
  | .video | .audio => mode = 1
  | .input | .microphone | .camera => mode = 2
  | .data => true

/-- Whether the receive call of the lane belongs to the mode. -/
def receives (lane : Lane) (mode : Nat) : Bool :=
  match lane with
  | .video | .audio => mode = 2
  | .input | .microphone | .camera => mode = 1
  | .data => true

/-- The verdict of the checks a send call makes before it takes a queue: on the mode, on its
arguments and on the state it read. -/
def sendCheck (lane : Lane) (mode : Nat) (arguments : Bool) (state : EndpointState) : Status :=
  match lane with
  | .video | .audio | .input =>
    if !lane.sends mode || !arguments then .invalidArgument
    else if state ≠ .ready then .invalidState
    else .ok
  | .data =>
    if !arguments then .invalidArgument
    else if state ≠ .setupReady && state ≠ .ready then .invalidState
    else .ok
  | .microphone | .camera =>
    if !lane.sends mode || state ≠ .ready then .invalidState
    else if !arguments then .invalidArgument
    else .ok

/-- The verdict of the checks a receive call makes before it takes a queue. -/
def receiveCheck (lane : Lane) (mode : Nat) (arguments : Bool) (state : EndpointState) : Status :=
  match lane with
  | .video | .audio | .input | .data =>
    if !lane.receives mode || !arguments then .invalidArgument else .ok
  | .microphone | .camera =>
    if !lane.receives mode || state ≠ .ready then .invalidState
    else if !arguments then .invalidArgument
    else .ok

end Lane

/-- Where the operation of the worker is. -/
inductive Phase where
  /-- Before a connection. -/
  | connecting
  /-- A client connected to a peer with this certificate and is about to record it. -/
  | recording (der : List UInt8)
  /-- About to publish `PeerValidation`. -/
  | validating
  /-- About to look whether the certificate is approved. -/
  | checking
  /-- Waiting for that approval. -/
  | parked
  /-- About to publish `SetupReady`. -/
  | opening
  /-- About to look whether the session is authorized. -/
  | authorizing
  /-- Serving the data lane while waiting for that authorization. -/
  | waiting
  /-- Registering the media endpoints. -/
  | promoting
  /-- About to publish `Ready`. -/
  | readying
  /-- Serving every lane. -/
  | active
  deriving DecidableEq, Repr

namespace Phase

/-- Whether the operation is past the check of the peer. -/
@[grind]
def gated : Phase → Bool
  | .opening | .authorizing | .waiting | .promoting | .readying | .active => true
  | _ => false

/-- Whether the operation is past the authorization of the session. -/
@[grind]
def promoted : Phase → Bool
  | .promoting | .readying | .active => true
  | _ => false

/-- Whether the operation serves the lane. -/
@[grind]
def serves (phase : Phase) (lane : Lane) : Bool :=
  phase = .active || (phase = .waiting && lane = .data)

end Phase

/-- Where an entry point that reads or moves a gate or a lane is. -/
inductive Call where
  /-- Not called, or returned with a result. -/
  | returned (result : Status)
  /-- `approve_peer_certificate` found `PeerValidation`. -/
  | approveCertificate
  /-- It found this certificate. -/
  | approveSwap (der : List UInt8)
  /-- It raised the flag. -/
  | approveNotify
  /-- `authorize_session` found this state. -/
  | authorizeSwap (seen : EndpointState)
  /-- It raised the flag. -/
  | authorizeNotify
  /-- A send call passed its checks. -/
  | sending (lane : Lane)
  /-- A receive call passed its checks. -/
  | receiving (lane : Lane)
  deriving DecidableEq, Repr

/-- An endpoint with the operation of its worker and the calls under way. -/
structure Operation where
  /-- The endpoint. -/
  endpoint : Endpoint := {}
  /-- The operation of the worker. -/
  phase : Phase := .connecting
  /-- `peer_certificate`. -/
  certificate : List UInt8 := []
  /-- `peer_certificate_approved`. -/
  approved : Bool := false
  /-- The permit of `peer_certificate_approved_notify`. -/
  approvedPermit : Bool := false
  /-- `session_authorized`. -/
  authorized : Bool := false
  /-- The permit of `session_authorized_notify`. -/
  authorizedPermit : Bool := false
  /-- The calls under way, by caller. -/
  calls : Nat → Call := fun _ => .returned .ok
  /-- Records a send call accepted. -/
  accepted : Lane → Nat := fun _ => 0
  /-- Records that left for the peer. -/
  departed : Lane → Nat := fun _ => 0
  /-- Records that arrived from the peer. -/
  arrived : Lane → Nat := fun _ => 0
  /-- Records a receive call delivered. -/
  delivered : Lane → Nat := fun _ => 0
  /-- The certificate the peer of the connection presented. -/
  connection : Option (List UInt8) := none
  /-- The certificate that was recorded when its approval succeeded. -/
  approvedFor : Option (List UInt8) := none
  /-- The state in which the authorization succeeded. -/
  authorizedIn : Option EndpointState := none

/-- The steps of an operation and its callers. -/
inductive OperationAction where
  /-- A step of the endpoint that is none of the operation's. -/
  | endpoint (action : Action)
  /-- The connection is up; the peer presented this certificate. -/
  | connected (der : List UInt8)
  /-- The operation takes its next step. -/
  | operate
  /-- The peer's record arrives on a lane. -/
  | arrive (lane : Lane)
  /-- A record leaves for the peer. -/
  | depart (lane : Lane)
  /-- A call of `approve_peer_certificate` begins. -/
  | approve (caller : Nat)
  /-- A call of `authorize_session` begins. -/
  | authorize (caller : Nat)
  /-- A send call begins. -/
  | send (caller : Nat) (lane : Lane) (arguments : Bool)
  /-- A receive call begins. -/
  | receive (caller : Nat) (lane : Lane) (arguments : Bool)
  /-- A call takes its next step; a lane's queue decides on the result. -/
  | call (caller : Nat) (verdict : Status)
  deriving DecidableEq, Repr

section Connect

variable {Address : Type} (externals : Externals Address)

/-- `connect_raw_client` with the verifier of `RecordingCertificateVerifier`: the certificate
recorded for a peer that presented it. -/
def connectRawClient (certificateSha256 : Option String) (der : List UInt8) :
    Except String (List UInt8) :=
  match certificateSha256 with
  | none => .ok der
  | some text =>
    match externals.hexDecode text with
    | none => .error "certificate SHA-256 is not valid hexadecimal"
    | some expected =>
      if externals.sha256 der = expected then .ok der
      else .error "PLANK certificate fingerprint mismatch"

/-- `connect_setup_client` names no fingerprint, `connect_client` the configured one. -/
def connectClient (config : EndpointConfig Address) (der : List UInt8) :
    Except String (List UInt8) :=
  if config.setupMode then connectRawClient externals none der
  else connectRawClient externals config.pin der

end Connect

namespace Operation

variable {Address : Type} (externals : Externals Address) (config : EndpointConfig Address)

/-- The operation once its connection is up. -/
def connect (operation : Operation) (der : List UInt8) : Option Operation :=
  if operation.endpoint.worker = .running && operation.phase = .connecting then
    match config with
    | .server .. =>
      some { operation with phase := if config.setupMode then .opening else .readying }
    | .client .. =>
      match connectClient externals config der with
      | .error _ => none
      | .ok recorded =>
        some { operation with phase := .recording recorded, connection := some recorded }
  else none

/-- Publish a state, then go on. -/
def publish (operation : Operation) (state : EndpointState) (next : Phase) : Option Operation :=
  (operation.endpoint.step (.progress state)).map fun endpoint =>
    { operation with endpoint, phase := next }

/-- The next step of the operation. -/
def operate (operation : Operation) : Option Operation :=
  if operation.endpoint.worker ≠ .running then none
  else
    match operation.phase with
    | .connecting => none
    | .recording der =>
      some { operation with
        certificate := der
        phase := if config.setupMode || config.approvalRequired then .validating else .readying }
    | .validating => operation.publish .peerValidation .checking
    | .checking =>
      some { operation with
        phase :=
          if operation.approved then if config.setupMode then .opening else .readying
          else .parked }
    | .parked =>
      if operation.approvedPermit then
        some { operation with approvedPermit := false, phase := .checking }
      else none
    | .opening => operation.publish .setupReady .authorizing
    | .authorizing =>
      some { operation with phase := if operation.authorized then .promoting else .waiting }
    | .waiting =>
      if operation.authorizedPermit then
        some { operation with authorizedPermit := false, phase := .authorizing }
      else none
    | .promoting => some { operation with phase := .readying }
    | .readying => operation.publish .ready .active
    | .active => none

/-- Where a `notify_all` sends an operation that waits. -/
def woken : Phase → Phase
  | .parked => .checking
  | .waiting => .authorizing
  | phase => phase

/-- A step of the endpoint that is none of the operation's; the runtime fails before it
connects, if at all. -/
def endpointStep (operation : Operation) (action : Action) : Option Operation :=
  match action with
  | .progress _ => none
  | .runtimeError _ =>
    if operation.phase = .connecting then
      (operation.endpoint.step action).map fun endpoint => { operation with endpoint }
    else none
  | _ =>
    (operation.endpoint.step action).map fun endpoint =>
      { operation with
        endpoint
        phase := if operation.endpoint.notifies action then woken operation.phase
          else operation.phase }

/-- A caller stands at a new place. -/
def withCall (operation : Operation) (caller : Nat) (call : Call) : Operation :=
  { operation with calls := Function.update operation.calls caller call }

/-- One more on a lane. -/
def count (counts : Lane → Nat) (lane : Lane) : Lane → Nat :=
  Function.update counts lane (counts lane + 1)

/-- The first step of a call of `approve_peer_certificate`. -/
def beginApprove (operation : Operation) (caller : Nat) : Operation :=
  operation.withCall caller
    (if config.mode ≠ 2 || !config.approvalRequired ||
      operation.endpoint.status.state ≠ .peerValidation then .returned .invalidState
    else .approveCertificate)

/-- The first step of a call of `authorize_session`. -/
def beginAuthorize (operation : Operation) (caller : Nat) : Operation :=
  operation.withCall caller
    (if !config.setupMode || operation.endpoint.status.state ≠ .setupReady then
      .returned .invalidState
    else .authorizeSwap operation.endpoint.status.state)

/-- The first step of a send call. -/
def beginSend (operation : Operation) (caller : Nat) (lane : Lane) (arguments : Bool) :
    Operation :=
  let verdict := lane.sendCheck config.mode arguments operation.endpoint.status.state
  operation.withCall caller (if verdict = .ok then .sending lane else .returned verdict)

/-- The first step of a receive call. -/
def beginReceive (operation : Operation) (caller : Nat) (lane : Lane) (arguments : Bool) :
    Operation :=
  let verdict := lane.receiveCheck config.mode arguments operation.endpoint.status.state
  operation.withCall caller (if verdict = .ok then .receiving lane else .returned verdict)

/-- The next step of a call. A queue takes a record where the verdict says so, and hands one out
only where one arrived. -/
def callStep (operation : Operation) (caller : Nat) (verdict : Status) : Option Operation :=
  match operation.calls caller with
  | .returned _ => none
  | .approveCertificate =>
    some <| operation.withCall caller
      (if operation.certificate = [] then .returned .invalidState
      else .approveSwap operation.certificate)
  | .approveSwap der =>
    if operation.approved then some <| operation.withCall caller (.returned .invalidState)
    else
      some <| { operation with approved := true, approvedFor := some der }.withCall caller
        .approveNotify
  | .approveNotify =>
    some <| { operation with approvedPermit := true }.withCall caller (.returned .ok)
  | .authorizeSwap seen =>
    if operation.authorized then some <| operation.withCall caller (.returned .invalidState)
    else
      some <| { operation with authorized := true, authorizedIn := some seen }.withCall caller
        .authorizeNotify
  | .authorizeNotify =>
    some <| { operation with authorizedPermit := true }.withCall caller (.returned .ok)
  | .sending lane =>
    if verdict.taken then
      some <| { operation with accepted := count operation.accepted lane }.withCall caller
        (.returned verdict)
    else some <| operation.withCall caller (.returned verdict)
  | .receiving lane =>
    if verdict = .ok then
      if operation.delivered lane < operation.arrived lane then
        some <| { operation with delivered := count operation.delivered lane }.withCall caller
          (.returned .ok)
      else none
    else some <| operation.withCall caller (.returned verdict)

/-- One step of the operation or of a caller. -/
def step (operation : Operation) : OperationAction → Option Operation
  | .endpoint action => operation.endpointStep action
  | .connected der => operation.connect externals config der
  | .operate => operation.operate config
  | .arrive lane =>
    if operation.endpoint.worker = .running && operation.phase.serves lane &&
        lane.receives config.mode then
      some { operation with arrived := count operation.arrived lane }
    else none
  | .depart lane =>
    if operation.endpoint.worker = .running && operation.phase.serves lane &&
        operation.departed lane < operation.accepted lane then
      some { operation with departed := count operation.departed lane }
    else none
  | .approve caller =>
    if operation.calls caller matches .returned _ then some (operation.beginApprove config caller)
    else none
  | .authorize caller =>
    if operation.calls caller matches .returned _ then
      some (operation.beginAuthorize config caller)
    else none
  | .send caller lane arguments =>
    if operation.calls caller matches .returned _ then
      some (operation.beginSend config caller lane arguments)
    else none
  | .receive caller lane arguments =>
    if operation.calls caller matches .returned _ then
      some (operation.beginReceive config caller lane arguments)
    else none
  | .call caller verdict => operation.callStep caller verdict

/-- All runs of an endpoint with this configuration. -/
def system : Transition.System Operation OperationAction where
  initial operation := operation = {}
  step := step externals config

end Operation

end Plank.Native
