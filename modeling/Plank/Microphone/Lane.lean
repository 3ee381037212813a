import Mathlib.Order.Nat
import Plank.Transition.System
import Plank.Transport.Result
import Plank.Lane.Gate

/-!
# The microphone lane

`native_microphone.rs` is written separately from the camera lane and differs from it in every
operation: a full queue evicts its oldest record, a pop checks generation and age of each record
it passes, a receive call checks the age alone, and a timed lane also orders capture times.
Time is read once per critical section, in nanoseconds. The lane session at the end lists every
way the program changes a lane, as the camera's does.
-/

namespace Plank.Microphone

open Plank.Transport (Availability Status Output validateBytesOut)

/-- `SEND_PACKETS`: records a sending lane queues. -/
def sendPackets : Nat := 6
/-- `RECEIVE_PACKETS`: records a receiving lane queues. -/
def receivePackets : Nat := 8
/-- `MAX_AGE`: 100 milliseconds, in nanoseconds. -/
def maxAge : Nat := 100000000

/-- `microphone::Packet`. -/
structure Packet where
  /-- Activation the record belongs to. -/
  generation : UInt64
  /-- First 48 kHz sample relative to the activation. -/
  sampleTime : UInt64
  /-- Capture time in nanoseconds; zero selects the untimed envelope. -/
  captureTimeNs : UInt64
  /-- Encoded audio. -/
  opus : List UInt8
  deriving DecidableEq, Repr

/-- `State` of the microphone lane. -/
structure State where
  /-- Whether the capability was agreed. -/
  enabled : Bool := false
  /-- Whether the timed envelope was agreed. -/
  timed : Bool := false
  /-- Availability of the lane. -/
  status : Availability := .unavailable
  /-- Current activation; zero while muted. -/
  generation : UInt64 := 0
  /-- Greatest activation ever accepted. -/
  lastGeneration : UInt64 := 0
  /-- Sample time of the last accepted record of the activation. -/
  lastSample : Option UInt64 := none
  /-- Capture time of the last accepted record of the activation. -/
  lastCapture : Option UInt64 := none
  /-- Queued records with their arrival times, oldest first. -/
  packets : List (Nat × Packet) := []
  deriving DecidableEq, Repr

/-- `when.elapsed() > MAX_AGE`. -/
def expired (now when : Nat) : Bool := now - when > maxAge

namespace State

/-- `Microphone::activate`. -/
def activate (state : State) (generation : UInt64) : State × Bool :=
  if !state.enabled || state.status = .failed then (state, false)
  else if generation ≠ 0 ∧ generation ≤ state.lastGeneration then (state, false)
  else
    ({ state with
      generation
      lastGeneration := if generation ≠ 0 then generation else state.lastGeneration
      lastSample := none
      lastCapture := none
      packets := [] }, true)

/-- The checks of `Microphone::push`. -/
def refuses (state : State) (packet : Packet) : Bool :=
  state.status ≠ .ready || state.generation = 0 || packet.generation ≠ state.generation ||
    (packet.captureTimeNs ≠ 0 : Bool) ≠ state.timed ||
    (state.timed && state.lastCapture.any (fun last => packet.captureTimeNs ≤ last)) ||
    state.lastSample.any (fun last => packet.sampleTime ≤ last)

/-- `Microphone::push`: a full queue loses its oldest record. -/
def push (state : State) (now : Nat) (packet : Packet) (capacity : Nat) : State × Status :=
  if state.refuses packet then (state, .invalidState)
  else
    let dropped : Bool := state.packets.length = capacity
    let kept := if dropped then state.packets.tail else state.packets
    ({ state with
      lastSample := some packet.sampleTime
      lastCapture := some packet.captureTimeNs
      packets := kept ++ [(now, packet)] },
      if dropped then .dropped else .ok)

/-- The loop of `Microphone::pop`: discard records until one is current and young. -/
def popLoop (generation : UInt64) (now : Nat) :
    List (Nat × Packet) → List (Nat × Packet) × Option (Nat × Packet)
  | [] => ([], none)
  | (arrival, packet) :: rest =>
    if generation ≠ 0 && packet.generation = generation && !expired now arrival then
      (rest, some (arrival, packet))
    else popLoop generation now rest

/-- `Microphone::pop`: the record taken, with its arrival time. -/
def pop (state : State) (now : Nat) : State × Option (Nat × Packet) :=
  let (packets, taken) := popLoop state.generation now state.packets
  ({ state with packets }, taken)

/-- What `plank_transport_native_microphone_receive_timed` hands back: the code, what `*length`
is set to, and the record copied out with its arrival time; the capture time is copied only
where its pointer is not null. -/
structure Receipt where
  /-- Result code. -/
  status : Status
  /-- Value written to `*length`. -/
  length : Option Nat
  /-- Record removed, with its arrival time. -/
  copied : Option (Nat × Packet)

/-- `plank_transport_native_microphone_receive_timed`; `serving` is whether the endpoint is a
server in state `Ready`, `fields` whether the generation and sample pointers are not null,
`capture` whether the capture time pointer is not null. -/
def receiveTimed (state : State) (now : Nat) (serving fields capture : Bool) (output : Output) :
    State × Receipt :=
  if !serving then (state, ⟨.invalidState, none, none⟩)
  else if !fields || !output.sizeOut then (state, ⟨.invalidArgument, none, none⟩)
  else if state.timed && !capture then (state, ⟨.invalidArgument, none, none⟩)
  else
    let state := { state with packets := state.packets.dropWhile fun front => expired now front.1 }
    match state.packets with
    | [] => (state, ⟨.timeout, some 0, none⟩)
    | front :: rest =>
      match validateBytesOut front.2.opus.length output with
      | (.ok, size) => ({ state with packets := rest }, ⟨.ok, size, some front⟩)
      | (status, size) => (state, ⟨status, size, none⟩)

/-- The locked part of `plank_transport_native_microphone_enable_version`; `open` is whether the
endpoint is in state `SetupReady` or `Ready`, `camera` whether its camera lane was enabled
before. -/
def enableVersion (state : State) (version : UInt32) (opened camera : Bool) : State × Status :=
  if !(version == 2 || version == 3) then (state, .invalidArgument)
  else if camera then (state, .invalidState)
  else if !opened then (state, .invalidState)
  else if state.enabled then (state, .invalidState)
  else ({ state with enabled := true, timed := version == 3, status := .opening }, .ok)

/-- `status = 2`: the lane task has opened its endpoint. -/
def opened (state : State) : State := { state with status := .ready }

/-- The error branch of `run`. -/
def failed (state : State) : State :=
  { state with status := .failed, generation := 0, packets := [] }

end State

/-- A lane with the clock and the history an observer keeps of it. -/
structure Session where
  /-- The lane state behind its mutex. -/
  lane : State := {}
  /-- The monotonic clock. -/
  now : Nat := 0
  /-- Activations, accepted pushes and deliveries so far. -/
  ledger : Lane.Ledger Nat Packet := .empty

/-- Everything the program does to a microphone lane. -/
inductive Action where
  /-- The capability call of the C interface. -/
  | enable (version : UInt32) (opened camera : Bool)
  /-- The lane task opened its endpoint. -/
  | opened
  /-- The lane task ended with an error. -/
  | failed
  /-- An activation call; the result may be false. -/
  | activate (generation : UInt64)
  /-- A push, by the send call of a client or by the receiving task of a server. -/
  | push (packet : Packet)
  /-- A pop by the sending task. -/
  | pop
  /-- A receive call. -/
  | receive (serving fields capture : Bool) (output : Output)
  /-- Time passes. -/
  | tick (nanoseconds : Nat)

namespace Session

/-- One action on a lane whose queue holds `capacity` records. The lane task opens its endpoint
once and fails at most once. -/
def step (capacity : Nat) (session : Session) : Action → Option Session
  | .enable version opened camera =>
    some { session with lane := (session.lane.enableVersion version opened camera).1 }
  | .opened =>
    if session.lane.status = .opening then some { session with lane := session.lane.opened }
    else none
  | .failed =>
    if session.lane.status = .opening ∨ session.lane.status = .ready then
      some { session with lane := session.lane.failed, ledger := session.ledger.note .failed }
    else none
  | .activate generation =>
    let (lane, accepted) := session.lane.activate generation
    some { session with
      lane
      ledger := if accepted then session.ledger.note (.activated generation.toNat)
        else session.ledger }
  | .push packet =>
    let (lane, status) := session.lane.push session.now packet capacity
    some { session with lane, ledger := session.ledger.notePushed status.taken packet }
  | .pop =>
    let (lane, taken) := session.lane.pop session.now
    some { session with lane, ledger := session.ledger.noteTaken session.now taken }
  | .receive serving fields capture output =>
    let (lane, receipt) := session.lane.receiveTimed session.now serving fields capture output
    some { session with lane, ledger := session.ledger.noteTaken session.now receipt.copied }
  | .tick nanoseconds => some { session with now := session.now + nanoseconds }

/-- All sessions of a lane, from the untouched one. -/
def system (capacity : Nat) : Transition.System Session Action where
  initial session := session = {}
  step := step capacity

end Session

end Plank.Microphone
