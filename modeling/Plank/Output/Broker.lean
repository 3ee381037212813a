import Plank.Output.Selection
import Plank.Transition.System
import Plank.Wire.Xpc

/-!
# The broker of the output

`output-broker.m` lends the route to the PLANK device to one owner at a time. What it decides on its
own queue is carried out in order on a serial queue, where every block runs one program of the
selection. A crash loses all but the outputs and what of the journal has reached the disk.
-/

namespace Plank.Output

open Wire (XpcFields)

/-- `PLANKOutputRoutingVersion`. -/
def routingVersion : UInt64 := 1

/-- `PLANKOutputPeer`. -/
structure Peer where
  /-- `generation`. -/
  generation : UInt64 := 0
  /-- `lastRenew`. -/
  lastRenew : UInt64 := 0
  /-- `closed`. -/
  closed : Bool := false
  /-- `ready`. -/
  ready : Bool := false
  deriving DecidableEq, Repr

/-- A block on the serial queue. -/
inductive Job where
  /-- The selection for an owner. -/
  | select (peer : Nat)
  /-- What follows a peer that is closed, who may be the owner and may be owed an answer. -/
  | close (peer : Nat) (owned answered : Bool)
  /-- The recovery of a tick. -/
  | recover
  /-- The recovery of a stop. -/
  | stop
  deriving DecidableEq, Repr

/-- What a block on the serial queue does, with what is to be restored before it. -/
def Job.program (previous : Routes) : Job → Program (Bool × Routes)
  | select _ => Output.select previous
  | close _ owned _ => if owned then restore previous else .done (true, previous)
  | recover | stop => Output.recover previous

/-- What a block finds when it runs. -/
structure Moment where
  /-- `outputNow`. -/
  now : UInt64 := 0
  /-- `_authorize`, of a peer. -/
  authorize : Nat → Bool := fun _ => true
  /-- Whether the message can be answered. -/
  answerable : Bool := true
  /-- Whether a connection can be made to meet the requirement. -/
  required : Bool := true

/-- `PLANKMacOutputBroker`. -/
structure Broker where
  /-- Every peer there ever was. -/
  peer : Nat → Peer := fun _ => {}
  /-- How many. -/
  count : Nat := 0
  /-- `_peers`. -/
  peers : List Nat := []
  /-- `_owner`. -/
  owner : Option Nat := none
  /-- `_stopped`. -/
  stopped : Bool := false
  /-- `_maintenance`. -/
  maintenance : Bool := false
  /-- Every block that was put on the serial queue. -/
  submitted : List Job := []
  /-- Every answer that was sent, and whether it accepts. -/
  sent : List (Nat × Bool) := []

namespace Broker

/-- The broker with a peer changed. -/
def setPeer (broker : Broker) (index : Nat) (change : Peer → Peer) : Broker :=
  { broker with peer := Function.update broker.peer index (change (broker.peer index)) }

/-- `close`. -/
def close (broker : Broker) (index : Nat) (answered : Bool) : Broker :=
  if (broker.peer index).closed then broker
  else { broker.setPeer index fun peer => { peer with closed := true } with
    peers := broker.peers.erase index
    owner := if broker.owner = some index then none else broker.owner
    submitted := broker.submitted ++ [.close index (broker.owner = some index) answered] }

/-- What a peer asks for: a generation, and whether the route is to be active. -/
def request (fields : XpcFields) : Option (UInt64 × Bool) :=
  match fields.number "version", fields.number "generation", fields.boolean "active" with
  | some version, some generation, some active =>
    if version ≠ routingVersion || generation = 0 || fields.length ≠ 3 then none
    else some (generation, active)
  | _, _, _ => none

/-- A peer goes on with the route, or has it now. -/
def grant (broker : Broker) (index : Nat) (now : UInt64) : Broker :=
  { broker.setPeer index fun peer => { peer with ready := true, lastRenew := now } with
    sent := broker.sent ++ [(index, true)] }

/-- `receive`; a message that is no dictionary is none. -/
def receive (broker : Broker) (index : Nat) (moment : Moment) (message : Option XpcFields) :
    Broker :=
  let peer := broker.peer index
  if peer.closed || broker.stopped then broker
  else
    match message.bind request with
    | none => broker.close index false
    | some (value, active) =>
      if !moment.authorize index || (peer.generation ≠ 0 && peer.generation ≠ value) then
        broker.close index false
      else if !moment.answerable then broker.close index false
      else if !active then broker.close index true
      else if peer.generation ≠ 0 then
        if broker.owner ≠ some index || !peer.ready then broker.close index false
        else broker.grant index moment.now
      else if broker.owner.isSome then broker.close index false
      else { broker.setPeer index fun peer =>
          { peer with generation := value, lastRenew := moment.now } with
        owner := some index
        submitted := broker.submitted ++ [.select index] }

/-- The block behind one on the serial queue. -/
def settle (broker : Broker) (moment : Moment) (result : Bool) : Job → Broker
  | .select index =>
    if (broker.peer index).closed then broker
    else if !result || broker.stopped || broker.owner ≠ some index ||
        !moment.authorize index then
      broker.close index false
    else broker.grant index moment.now
  | .close index _ answered =>
    if answered then { broker with sent := broker.sent ++ [(index, result)] } else broker
  | .recover => { broker with maintenance := false }
  | .stop => broker

/-- `accept`. -/
def accept (broker : Broker) (moment : Moment) : Broker :=
  if broker.stopped || 8 ≤ broker.peers.length || !moment.required then broker
  else { broker with
    peer := Function.update broker.peer broker.count { lastRenew := moment.now }
    count := broker.count + 1
    peers := broker.peers ++ [broker.count] }

/-- A peer has not been heard of for three seconds, or is not authorized any more. -/
def expired (broker : Broker) (moment : Moment) (index : Nat) : Bool :=
  3000000000 ≤ moment.now - (broker.peer index).lastRenew ||
    ((broker.peer index).generation ≠ 0 && !moment.authorize index)

/-- `tick`. -/
def tick (broker : Broker) (moment : Moment) : Broker :=
  if broker.stopped then broker
  else
    let broker := broker.peers.foldl (fun broker index =>
      if broker.expired moment index then broker.close index false else broker) broker
    if broker.owner.isNone && !broker.maintenance then
      { broker with maintenance := true, submitted := broker.submitted ++ [.recover] }
    else broker

/-- `stopWithCompletion`. -/
def stop (broker : Broker) : Broker :=
  let broker := { broker with stopped := true }
  let broker := broker.peers.foldl (fun broker index => broker.close index false) broker
  { broker with submitted := broker.submitted ++ [.stop] }

end Broker

/-- The coordinator and the outputs. -/
structure Routing where
  /-- The outputs. -/
  outputs : Outputs
  /-- The broker. -/
  broker : Broker := {}
  /-- `_previous`. -/
  previous : Routes := .empty
  /-- How many blocks of the serial queue have begun. -/
  begun : Nat := 0
  /-- The one that has not ended, and what it still has to do. -/
  running : Option (Job × Program (Bool × Routes)) := none
  /-- The blocks behind those that have ended, on the broker's queue. -/
  settled : List (Job × Bool) := []

/-- What can happen. -/
inductive Action where
  /-- Someone else changes a default. -/
  | choose (slot : Slot) (device : Option String)
  /-- The journal is written back to the disk. -/
  | flush
  /-- The coordinator crashes, and starts anew. -/
  | crash
  /-- A peer connects. -/
  | accept (moment : Moment)
  /-- A peer sends a message. -/
  | receive (index : Nat) (moment : Moment) (message : Option XpcFields)
  /-- The timer fires. -/
  | tick (moment : Moment)
  /-- The broker is stopped. -/
  | stop
  /-- The next block on the serial queue begins. -/
  | start
  /-- What it asks is answered. -/
  | answer (reply : (query : Query) → query.Answer)
  /-- It ends. -/
  | finish
  /-- The block behind one that has ended runs. -/
  | settle (moment : Moment)

namespace Routing

/-- What is left by a crash. -/
def crashed (state : Routing) : Routing where
  outputs := { state.outputs with journal := state.outputs.durable, loaded := false }

/-- What happens. -/
def step (state : Routing) : Action → Option Routing
  | .choose slot device => some { state with outputs := state.outputs.choose slot device }
  | .flush => some { state with
      outputs := { state.outputs with durable := state.outputs.journal } }
  | .crash => some state.crashed
  | .accept moment => some { state with broker := state.broker.accept moment }
  | .receive index moment message =>
    if index < state.broker.count then
      some { state with broker := state.broker.receive index moment message }
    else none
  | .tick moment => some { state with broker := state.broker.tick moment }
  | .stop => some { state with broker := state.broker.stop }
  | .start =>
    match state.running, state.broker.submitted[state.begun]? with
    | none, some job => some { state with
        begun := state.begun + 1
        running := some (job, job.program state.previous) }
    | _, _ => none
  | .answer reply =>
    match state.running with
    | some (job, .ask query next) => do
      let outputs ← state.outputs.respond query (reply query)
      some { state with outputs, running := some (job, next (reply query)) }
    | _ => none
  | .finish =>
    match state.running with
    | some (job, .done (result, previous)) => some { state with
        running := none
        previous
        settled := state.settled ++ [(job, result)] }
    | _ => none
  | .settle moment =>
    match state.settled with
    | (job, result) :: rest => some { state with
        broker := state.broker.settle moment result job
        settled := rest }
    | [] => none

/-- The coordinator starts while no default is switched, whatever the journal is. -/
def system : Transition.System Routing Action where
  initial state := ∃ outputs : Outputs, state = { outputs } ∧ outputs.loaded = false ∧
    ∀ slot, (outputs.setting slot).replaced = none ∧ (outputs.setting slot).seen = none
  step := step

end Routing

end Plank.Output
