import Plank.Agent.Registry
import Plank.Wire.Xpc

/-!
# The device brokers

`camera-broker.m` and `microphone-broker.m` lend one virtual device to one producer at a time: a
producer is given a lease with a mapping of its own, the driver is asked to attach the mapping, and
only then is the mapping sent to the producer. The two brokers are one program but for what a
producer passes, who may be the driver, and the default input that the microphone's selects on a
serial queue of its own. Every block on the broker's queue is one step, and so is every block on the
queue of the selections. What an observer keeps is a trace, newest first.
-/

namespace Plank.Device

open Wire (XpcValue XpcFields)

/-- `PLANKCameraLinkVersion` and `PLANKMicLinkVersion`. -/
def linkVersion : UInt64 := 2

/-- The two brokers. -/
inductive Kind where
  /-- `PLANKMacCameraBroker`. -/
  | camera
  /-- `PLANKMacMicrophoneBroker`, with its `_audioUID`. -/
  | microphone (audioUID : UInt32)
  deriving DecidableEq, Repr

namespace Kind

/-- What a producer passes besides its generation. -/
def detail : Kind → String
  | camera => "activation"
  | microphone _ => "automatic_input"

/-- Whether a producer may pass it. -/
def accepts : Kind → XpcValue → Bool
  | camera, .uint64 activation => activation ≠ 0
  | microphone _, .bool _ => true
  | _, _ => false

/-- Whether a process of this user may be the driver. -/
def trusts : Kind → UInt32 → Bool
  | camera, _ => true
  | microphone audioUID, uid => uid = audioUID

/-- Whether the default input is selected. -/
def selects : Kind → Bool
  | camera => false
  | microphone _ => true

end Kind

/-- `PLANKCameraPeer` and `PLANKMicPeer`. -/
structure Peer where
  /-- `extension` or `driver`: whether it connected to the service of the driver. -/
  driver : Bool := false
  /-- `created`. -/
  created : UInt64 := 0
  /-- `identity`. -/
  identity : Agent.Peer := ⟨0, 0, 0⟩
  /-- `registered`. -/
  registered : Bool := false
  /-- `ready`. -/
  ready : Bool := false
  /-- `closed`. -/
  closed : Bool := false
  /-- `pending`. -/
  pending : Bool := false
  /-- `generation`. -/
  generation : UInt64 := 0
  /-- `lease`. -/
  lease : UInt64 := 0
  /-- `lastRenew`. -/
  lastRenew : UInt64 := 0
  /-- `activation` or `automaticInput`. -/
  detail : XpcValue := .other
  /-- `memory`: the mapping it is. -/
  memory : Option Nat := none
  /-- `selection`: whether there is one. -/
  selection : Bool := false
  deriving DecidableEq, Repr

/-- What the driver is asked for. -/
inductive Operation where
  /-- 1: to attach the mapping of a lease. -/
  | attach
  /-- 2: to go on with a lease. -/
  | renew
  /-- 3: to detach the mapping of a lease. -/
  | detach
  deriving DecidableEq, Repr

/-- `operation`. -/
def Operation.code : Operation → UInt64
  | attach => 1
  | renew => 2
  | detach => 3

/-- A message to the driver. -/
structure Request where
  /-- `version`. -/
  version : UInt64
  /-- `operation`. -/
  operation : UInt64
  /-- `lease`. -/
  lease : UInt64
  /-- `activation`. -/
  activation : Option UInt64
  /-- `memory`. -/
  memory : Option Nat
  deriving DecidableEq, Repr

/-- A message to the driver whose completion is not forgotten. -/
structure Ask where
  /-- What it asks for. -/
  operation : Operation
  /-- The producer whose lease it is about. -/
  peer : Nat
  /-- The driver that it was sent to. -/
  driver : Nat
  /-- `finished`. -/
  finished : Bool := false
  deriving DecidableEq, Repr

/-- A block on the queue of the selections, and whether it has a selection to work on. -/
inductive Choice where
  /-- `select` of a producer. -/
  | select (peer : Nat) (held : Bool)
  /-- `restore` of a producer. -/
  | restore (peer : Nat) (held : Bool)
  deriving DecidableEq, Repr

/-- What an observer of the broker sees. -/
inductive Event where
  /-- A peer is the driver now. -/
  | attached (driver : Nat)
  /-- A peer is the producer now, with a lease and a mapping. -/
  | leased (peer : Nat) (generation lease : UInt64) (memory : Nat)
  /-- The driver was sent a message about a producer. -/
  | asked (peer driver : Nat) (request : Request)
  /-- It accepted what it was asked for about a producer. -/
  | accepted (operation : Operation) (peer driver : Nat)
  /-- `_authorize` was asked about a producer. -/
  | authorized (peer : Nat) (generation : UInt64) (answer : Bool)
  /-- A producer was sent its lease, and its mapping the first time. -/
  | replied (peer : Nat) (lease : UInt64) (memory : Option Nat)
  /-- A peer was closed. -/
  | closed (peer : Nat)
  /-- The default input was selected for a producer, or was not. -/
  | selected (peer : Nat) (done : Bool)
  /-- The selection of a producer was restored. -/
  | restored (peer : Nat)
  deriving DecidableEq, Repr

/-- What a block finds when it runs. -/
structure Moment where
  /-- The clock. -/
  now : UInt64 := 0
  /-- `_authorize`. -/
  authorize : Agent.Peer → UInt64 → Bool := fun _ _ => true
  /-- `arc4random_buf`. -/
  random : UInt64 := 0
  /-- Whether memory can be mapped and shared. -/
  mapping : Bool := true
  /-- Whether the message can be answered. -/
  answerable : Bool := true

/-- `PLANKMacCameraBroker` and `PLANKMacMicrophoneBroker`. -/
structure Broker where
  /-- Every peer there ever was. -/
  peer : Nat → Peer := fun _ => {}
  /-- How many. -/
  count : Nat := 0
  /-- `_peers`. -/
  peers : List Nat := []
  /-- `_extension` or `_driver`. -/
  driver : Option Nat := none
  /-- `_producer`. -/
  producer : Option Nat := none
  /-- `_stopped`. -/
  stopped : Bool := false
  /-- How many mappings were made. -/
  mapped : Nat := 0
  /-- Every message to a driver that asks for an answer. -/
  asks : Nat → Option Ask := fun _ => none
  /-- How many. -/
  asked : Nat := 0
  /-- What waits on the queue of the selections. -/
  choices : List Choice := []
  /-- The blocks behind selections that wait on the broker's queue. -/
  chosen : List (Nat × Bool) := []
  /-- What has been seen, newest first. -/
  trace : List Event := []

namespace Broker

/-- The broker with one more event. -/
def note (broker : Broker) (event : Event) : Broker :=
  { broker with trace := event :: broker.trace }

/-- The broker with a peer changed. -/
def setPeer (broker : Broker) (index : Nat) (change : Peer → Peer) : Broker :=
  { broker with peer := Function.update broker.peer index (change (broker.peer index)) }

/-- What `_authorize` answers about a peer. -/
def answer (broker : Broker) (moment : Moment) (index : Nat) (generation : UInt64) : Bool :=
  moment.authorize (broker.peer index).identity generation

/-- `_authorize` is asked about a peer. -/
def consult (broker : Broker) (moment : Moment) (index : Nat) (generation : UInt64) : Broker :=
  broker.note (.authorized index generation (broker.answer moment index generation))

variable (kind : Kind)

/-- The message of an operation. -/
def request (broker : Broker) (operation : Operation) (index : Nat) (memory : Option Nat) :
    Request where
  version := linkVersion
  operation := operation.code
  lease := (broker.peer index).lease
  activation := match memory, (broker.peer index).detail with
    | some _, .uint64 activation => some activation
    | _, _ => none
  memory

/-- `extensionOperation` and `driverOperation`; none where they complete at once. -/
def send (broker : Broker) (operation : Operation) (index : Nat) (memory : Option Nat) :
    Option Broker :=
  match broker.driver with
  | none => none
  | some driver =>
    if (broker.peer index).lease = 0 then none
    else some ({ broker with
        asks := Function.update broker.asks broker.asked (some { operation, peer := index, driver })
        asked := broker.asked + 1 }.note
      (.asked index driver (broker.request operation index memory)))

/-- A peer is closed and forgotten, and the selection made for a producer is to be restored. -/
def forget (broker : Broker) (index : Nat) : Broker :=
  let peer := broker.peer index
  let restoring := broker.producer = some index && kind.selects
  { broker with
    peer := Function.update broker.peer index
      { peer with closed := true, memory := none, selection := peer.selection && !restoring }
    peers := broker.peers.erase index
    producer := if broker.producer = some index then none else broker.producer
    choices := if restoring then broker.choices ++ [.restore index peer.selection]
      else broker.choices
    trace := .closed index :: broker.trace }

/-- `close`, but for what follows from a lost driver. -/
def leave (broker : Broker) (index : Nat) : Broker :=
  if (broker.peer index).closed then broker
  else
    let gone := broker.forget kind index
    -- Nothing happens when the driver has answered.
    if broker.producer = some index then (gone.send .detach index none).getD gone else gone

/-- `close`. -/
def close (broker : Broker) (index : Nat) : Broker :=
  let left := broker.leave kind index
  if !(broker.peer index).closed && left.driver = some index then
    let left := { left with driver := none }
    match left.producer with
    | none => left
    | some producer => left.leave kind producer
  else left

/-- The mapping is sent to the producer. -/
def grant (broker : Broker) (index : Nat) : Broker :=
  let peer := broker.peer index
  (broker.setPeer index fun peer => { peer with ready := true }).note
    (.replied index peer.lease peer.memory)

/-- The block behind a selection; without one, the end of the completion. -/
def settle (broker : Broker) (moment : Moment) (index : Nat) (selected : Bool) : Broker :=
  let peer := broker.peer index
  if peer.closed then broker
  else if !selected || broker.stopped || broker.producer ≠ some index then broker.close kind index
  else
    let consulted := broker.consult moment index peer.generation
    if !broker.answer moment index peer.generation then consulted.close kind index
    else consulted.grant index

/-- The completion of operation 1. -/
def attach (broker : Broker) (moment : Moment) (index : Nat) (ok : Bool) : Broker :=
  let peer := broker.peer index
  if peer.closed then broker
  else if !ok || broker.producer ≠ some index then broker.close kind index
  else
    let consulted := broker.consult moment index peer.generation
    if !broker.answer moment index peer.generation then consulted.close kind index
    else if kind.selects then
      let held : Bool := peer.detail = .bool true
      { consulted.setPeer index fun peer => { peer with selection := held } with
        choices := consulted.choices ++ [.select index held] }
    else consulted.grant index

/-- The completion of operation 2. -/
def renewed (broker : Broker) (index : Nat) (ok : Bool) : Broker :=
  let broker := broker.setPeer index fun peer => { peer with pending := false }
  if ok then broker else broker.close kind index

/-- `finish`. -/
def finish (broker : Broker) (moment : Moment) (id : Nat) (ok : Bool) : Broker :=
  match broker.asks id with
  | none => broker
  | some ask =>
    if ask.finished then broker
    else
      let broker := { broker with
        asks := Function.update broker.asks id (some { ask with finished := true }) }
      let broker := if ok then broker.note (.accepted ask.operation ask.peer ask.driver) else broker
      match ask.operation with
      | .attach => broker.attach kind moment ask.peer ok
      | .renew => broker.renewed kind ask.peer ok
      | .detach => broker

/-- Whether the driver's answer to a message accepts it. -/
def accepting (broker : Broker) (id : Nat) (reply : Option XpcFields) : Bool :=
  match broker.asks id, reply with
  | some ask, some fields => !broker.stopped && broker.driver = some ask.driver &&
      !(broker.peer ask.driver).closed && fields.length = 1 && fields.boolean "accepted" = some true
  | _, _ => false

/-- A producer is given a lease with a fresh mapping. -/
def register (broker : Broker) (now : UInt64) (index : Nat) (generation lease : UInt64)
    (detail : XpcValue) : Broker :=
  { broker with
    peer := Function.update broker.peer index { broker.peer index with
      memory := some broker.mapped, registered := true, generation, lease, detail,
      lastRenew := now }
    mapped := broker.mapped + 1
    producer := some index
    trace := .leased index generation lease broker.mapped :: broker.trace }

/-- The driver is asked to attach the mapping of a new lease. -/
def lend (broker : Broker) (moment : Moment) (index : Nat) (generation : UInt64)
    (detail : XpcValue) : Broker :=
  let lease := if moment.random = 0 then 1 else moment.random
  let registered := broker.register moment.now index generation lease detail
  match registered.send .attach index (some broker.mapped) with
  | some sent => sent
  | none => registered.attach kind moment index false

/-- A registered producer goes on with its lease. -/
def goOn (broker : Broker) (moment : Moment) (index : Nat) (generation : UInt64)
    (detail : XpcValue) : Broker :=
  let peer := broker.peer index
  if broker.producer ≠ some index || generation ≠ peer.generation || !peer.ready ||
      peer.detail ≠ detail then broker.close kind index
  else (broker.setPeer index fun peer => { peer with lastRenew := moment.now }).note
    (.replied index peer.lease none)

/-- What `receive` does with the message of a producer. -/
def produce (broker : Broker) (moment : Moment) (index : Nat) (fields : XpcFields) : Broker :=
  match fields.lookup kind.detail, fields.number "generation" with
  | some detail, some generation =>
    if !moment.answerable || fields.length ≠ 3 || !kind.accepts detail || generation = 0 then
      broker.close kind index
    else
      let consulted := broker.consult moment index generation
      if !broker.answer moment index generation || broker.driver.isNone then
        consulted.close kind index
      else if (broker.peer index).registered then
        consulted.goOn kind moment index generation detail
      else if broker.producer.isSome || !moment.mapping then consulted.close kind index
      else consulted.lend kind moment index generation detail
  | _, _ => broker.close kind index

/-- A peer becomes the driver. -/
def adopt (broker : Broker) (index : Nat) : Broker :=
  { broker with
    peer := Function.update broker.peer index { broker.peer index with registered := true }
    driver := some index
    trace := .attached index :: broker.trace }

/-- `receive`; none is an event that is not a dictionary. -/
def receive (broker : Broker) (moment : Moment) (index : Nat) (message : Option XpcFields) :
    Broker :=
  let peer := broker.peer index
  if peer.closed || broker.stopped then broker
  else match message with
    | none => broker.close kind index
    | some fields =>
      if fields.number "version" ≠ some linkVersion then broker.close kind index
      else if peer.driver then
        if broker.driver.isSome || peer.registered || fields.length ≠ 1 ||
            !kind.trusts peer.identity.uid then broker.close kind index
        else ({ broker.setPeer index fun peer => { peer with registered := true } with
          driver := some index }).note (.attached index)
      else broker.produce kind moment index fields

/-- `accept`. -/
def accept (broker : Broker) (driver trusted : Bool) (now : UInt64) : Broker :=
  if broker.stopped || broker.peers.length ≥ 8 || !trusted then broker
  else { broker with
    peer := Function.update broker.peer broker.count { driver, created := now }
    count := broker.count + 1
    peers := broker.peers ++ [broker.count] }

/-- Two seconds, in nanoseconds. -/
def patience : UInt64 := 2000000000

/-- The timer closes peers that never registered. -/
def sweep (broker : Broker) (now : UInt64) (peers : List Nat) : Broker :=
  peers.foldl (fun broker index =>
    if !(broker.peer index).registered && now - (broker.peer index).created ≥ patience then
      broker.close kind index else broker) broker

/-- The timer looks after the producer. -/
def watch (broker : Broker) (moment : Moment) : Broker :=
  match broker.producer with
  | none => broker
  | some index =>
    let peer := broker.peer index
    if moment.now - peer.lastRenew ≥ patience then broker.close kind index
    else
      let consulted := broker.consult moment index peer.generation
      if !broker.answer moment index peer.generation then consulted.close kind index
      else if !peer.ready || peer.pending then consulted
      else
        let pending := consulted.setPeer index fun peer => { peer with pending := true }
        match pending.send .renew index none with
        | some sent => sent
        | none => pending.renewed kind index false

/-- The handler of `_watch`. -/
def tick (broker : Broker) (moment : Moment) : Broker :=
  (broker.sweep kind moment.now broker.peers).watch kind moment

/-- `stop`. -/
def stop (broker : Broker) : Broker :=
  if broker.stopped then broker
  else broker.peers.foldl (fun broker index => broker.close kind index)
    { broker with stopped := true }

/-- A block on the queue of the selections runs. -/
def choose (broker : Broker) (done : Bool) : Broker :=
  match broker.choices with
  | [] => broker
  | .select index held :: rest =>
    let broker := { broker with
      choices := rest, chosen := broker.chosen ++ [(index, !held || done)] }
    if held then broker.note (.selected index done) else broker
  | .restore index held :: rest =>
    let broker := { broker with choices := rest }
    if held then broker.note (.restored index) else broker

/-- A block behind a selection runs. -/
def resume (broker : Broker) (moment : Moment) : Broker :=
  match broker.chosen with
  | [] => broker
  | (index, selected) :: rest =>
    { broker with chosen := rest }.settle kind moment index selected

end Broker

/-- What may happen next. -/
inductive Action where
  /-- A peer connects to the driver's service or the producers'. -/
  | connect (driver trusted : Bool) (now : UInt64)
  /-- An event of a connection, with the identity of its process. -/
  | message (peer : Nat) (identity : Agent.Peer) (message : Option XpcFields) (moment : Moment)
  /-- The driver answers. -/
  | reply (ask : Nat) (reply : Option XpcFields) (moment : Moment)
  /-- The second for an answer is over. -/
  | expire (ask : Nat) (moment : Moment)
  /-- The timer. -/
  | tick (moment : Moment)
  /-- The next block on the queue of the selections. -/
  | choose (done : Bool)
  /-- The next block behind a selection. -/
  | resume (moment : Moment)
  /-- `stop`. -/
  | stop

/-- A broker, and what its peers, the driver and the queues may do. -/
def system (kind : Kind) : Transition.System Broker Action where
  initial broker := broker = {}
  step broker
    | .connect driver trusted now => some (broker.accept driver trusted now)
    | .message index identity message moment =>
      if index < broker.count then
        some ((broker.setPeer index fun peer => { peer with identity }).receive kind moment index
          message)
      else none
    | .reply ask reply moment =>
      some (broker.finish kind moment ask (broker.accepting ask reply))
    | .expire ask moment => some (broker.finish kind moment ask false)
    | .tick moment => some (broker.tick kind moment)
    | .choose done => some (broker.choose done)
    | .resume moment => some (broker.resume kind moment)
    | .stop => some (broker.stop kind)

end Plank.Device
