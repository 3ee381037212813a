import Plank.Transition.System
import Plank.Auth.Policy
import Plank.Agent.Registry

/-!
# The connection of an agent

`agent-connection.m`: the graphical agent registers with the machine service, renews its lease with
one request at a time and keeps, under a lock, what it may admit. The handlers on its serial queue
are one step each, except that a handler that finds the admission over leaves the lock before it
stops; `bindGraphicalScope` is called from any thread in between. A clock runs along, and what an
observer keeps is a trace, newest first.
-/

namespace Plank.Agent

open Auth (GraphicalIdentity GraphicalPhase sameScope)

/-- `PLANKMacAgentConnectionState`. -/
inductive ConnectionState where
  /-- `PLANKMacAgentConnecting`. -/
  | connecting
  /-- `PLANKMacAgentReady`. -/
  | ready
  /-- `PLANKMacAgentRetiring`. -/
  | retiring
  /-- `PLANKMacAgentFinished`. -/
  | finished
  /-- `PLANKMacAgentDisconnected`. -/
  | disconnected
  deriving DecidableEq, Repr

/-- What an agent may ask for. -/
inductive Operation where
  /-- Operation 1. -/
  | register
  /-- Operation 2. -/
  | renew
  /-- Operation 3. -/
  | retire
  deriving DecidableEq, Repr

/-- The number of an operation. -/
def Operation.word : Operation → UInt64
  | .register => 1
  | .renew => 2
  | .retire => 3

/-- The number of a phase. -/
def Phase.word : Phase → UInt64
  | .unavailable => 0
  | .loginWindow => 1
  | .desktop => 2

/-- A request of `send`, with the time it was sent at. -/
structure Request where
  /-- `operation`. -/
  operation : Operation
  /-- `generation`, unless the agent registers. -/
  generation : UInt64 := 0
  /-- `sequence`, unless the agent registers. -/
  sequence : UInt64 := 0
  /-- When it was sent. -/
  time : UInt64
  deriving DecidableEq, Repr

/-- The message that carries a request. -/
def Request.message (request : Request) (phase : Phase) : Message :=
  let message : Message :=
    { dictionary := true, answerable := true, count := 3, version := some 1,
      operation := some request.operation.word }
  match request.operation with
  | .register => { message with phase := some phase.word }
  | .renew | .retire =>
    { message with count := 4, generation := some request.generation,
                   sequence := some request.sequence }

/-- What the handlers read of a reply. -/
structure Reply where
  /-- The user the peer runs as. -/
  euid : UInt32
  /-- Whether it is a dictionary. -/
  dictionary : Bool := true
  /-- How many entries it has. -/
  count : Nat
  /-- `version`. -/
  version : Option UInt64 := some 1
  /-- `status`. -/
  status : Option UInt64
  /-- `generation`. -/
  generation : Option UInt64
  deriving DecidableEq, Repr

/-- The status and the generation of a well-formed reply. -/
def Reply.read (reply : Reply) (serverUID : UInt32) : Option (UInt64 × UInt64) :=
  if reply.euid ≠ serverUID || !reply.dictionary || reply.version ≠ some 1 then none
  else
    match reply.status with
    | none => none
    | some status =>
      if reply.count ≠ (if status = 0 then 3 else 2) then none
      else if status ≠ 0 then some (status, 0)
      else
        match reply.generation with
        | none => none
        | some generation => if generation = 0 then none else some (status, generation)

/-- What the handler of a message without a request reads of it. -/
structure Push where
  /-- The user the peer runs as. -/
  euid : UInt32
  /-- Whether it is a dictionary. -/
  dictionary : Bool := true
  /-- How many entries it has. -/
  count : Nat := 3
  /-- `version`. -/
  version : Option UInt64 := some 1
  /-- `operation`. -/
  operation : Option UInt64 := some 4
  /-- `generation`. -/
  generation : Option UInt64
  deriving DecidableEq, Repr

/-- What an observer of the connection sees. -/
inductive Happening where
  /-- A request was sent. -/
  | sent (request : Request)
  /-- A reply was taken for the request that was outstanding. -/
  | answered (operation : Operation) (status generation time : UInt64)
  /-- The revocation of the lease was received. -/
  | pushed
  /-- The local scope was found invalid. -/
  | invalid
  /-- The state changed. -/
  | moved (state : ConnectionState)
  /-- A scope was refused, for good. -/
  | refused (scope : GraphicalIdentity)
  /-- A scope was bound; what the call returned, and when. -/
  | bound (scope identity : GraphicalIdentity) (time : UInt64)
  deriving DecidableEq, Repr

/-- Whether a request of this kind was sent. -/
def Happening.asks (operation : Operation) : Happening → Bool
  | .sent request => request.operation = operation
  | _ => false

/-- `PLANKMacAgentConnection`. -/
structure Connection where
  /-- `_serverUID`. -/
  serverUID : UInt32
  /-- `_phase`. -/
  phase : Phase
  /-- `_state`. -/
  state : ConnectionState := .connecting
  /-- `_generation`. -/
  generation : UInt64 := 0
  /-- `_sequence`. -/
  sequence : UInt64 := 0
  /-- `_pending`. -/
  pending : Option Operation := none
  /-- `_sentAt`. -/
  sentAt : UInt64 := 0
  /-- `_ackAt`. -/
  ackAt : UInt64 := 0
  /-- `_started`. -/
  started : Bool := false
  /-- `_retireRequested`. -/
  retireRequested : Bool := false
  /-- `_admissionGeneration`. -/
  admissionGeneration : UInt64 := 0
  /-- `_admissionDeadline`. -/
  admissionDeadline : UInt64 := 0
  /-- `_admissionClosed`. -/
  admissionClosed : Bool := false
  /-- `_boundScope`. -/
  boundScope : GraphicalIdentity := {}
  /-- A handler has left the lock and is about to stop. -/
  halting : Bool := false
  /-- The clock. -/
  clock : UInt64 := 0
  /-- Everything that was seen, newest first. -/
  trace : List Happening := []
  deriving DecidableEq, Repr

/-- How long a reply may take, and how long it admits. -/
def freshTime : UInt64 := 2000000000

/-- How long a lease is left alone. -/
def renewTime : UInt64 := 500000000

namespace Connection

/-- See something. -/
def see (connection : Connection) (happening : Happening) : Connection :=
  { connection with trace := happening :: connection.trace }

/-- Whether the connection is over. -/
def ended (connection : Connection) : Bool :=
  connection.state = .finished || connection.state = .disconnected

/-- `transition`. -/
def transition (connection : Connection) (state : ConnectionState) : Connection :=
  if connection.state = state || connection.ended then connection
  else
    let moved := { connection with state }.see (.moved state)
    if state = .ready then moved
    else { moved with admissionClosed := true, admissionGeneration := 0 }

/-- `stop`. -/
def stop (connection : Connection) : Connection := connection.transition .disconnected

/-- `revoke`. -/
def revoke (connection : Connection) : Connection :=
  if connection.state = .connecting then connection.stop
  else if connection.state = .ready then connection.transition .retiring
  else connection

/-- A request is sent. -/
def post (connection : Connection) (request : Request) : Connection :=
  { connection with pending := some request.operation, sentAt := request.time }.see
    (.sent request)

/-- `send`. -/
def send (connection : Connection) (operation : Operation) (now : UInt64) : Connection :=
  if connection.pending.isSome || connection.ended then connection
  else if operation = .register then connection.post { operation, time := now }
  else if connection.generation = 0 || connection.sequence = 0xffffffffffffffff then
    connection.stop
  else
    let sequence := connection.sequence + 1
    { connection with sequence }.post
      { operation, generation := connection.generation, sequence, time := now }

/-- `start`; whether the local scope is valid. -/
def start (connection : Connection) (valid : Bool) (now : UInt64) : Connection :=
  if connection.started || connection.state ≠ .connecting then connection
  else
    let connection := { connection with started := true }
    if valid then connection.send .register now else (connection.see .invalid).stop

/-- An admission that is looked at under the lock ends at its deadline. -/
def expire (connection : Connection) (looked : Bool) (now : UInt64) : Connection :=
  if looked && connection.admissionDeadline ≤ now then
    { connection with admissionClosed := true }
  else connection

/-- `authorized`, with what it returns. -/
def authorized (connection : Connection) (valid : Bool) (now : UInt64) : Connection × Bool :=
  if connection.state ≠ .ready then (connection, false)
  else if !valid then ((connection.see .invalid).revoke, false)
  else
    let connection := connection.expire true now
    if !connection.admissionClosed && connection.admissionGeneration ≠ 0 then (connection, true)
    else ({ connection with halting := true }, false)

/-- The handler of the watch. -/
def tick (connection : Connection) (valid : Bool) (now : UInt64) : Connection :=
  if connection.pending.isSome && freshTime ≤ now - connection.sentAt then connection.stop
  else if connection.state = .ready then
    match connection.authorized valid now with
    | (connection, true) =>
      if connection.pending.isNone && renewTime ≤ now - connection.ackAt then
        connection.send .renew now
      else connection
    | (connection, false) => connection
  else connection

/-- What a good reply does under the lock, and after it. -/
def admits (connection : Connection) (now : UInt64) : Connection :=
  let connection := connection.expire (connection.admissionGeneration ≠ 0) now
  if !connection.admissionClosed && now < connection.ackAt + freshTime then
    let connection := { connection with
      admissionGeneration := connection.generation
      admissionDeadline := connection.ackAt + freshTime }
    if connection.state = .connecting then connection.transition .ready else connection
  else { connection with halting := true }

/-- The end of `reply`. -/
def goOn (connection : Connection) (now : UInt64) : Connection :=
  if connection.retireRequested && connection.state = .retiring then connection.send .retire now
  else connection

/-- The rest of `reply`, for a request that is answered by a lease or the loss of it. -/
def settle (connection : Connection) (operation : Operation) (status generation : UInt64)
    (valid : Bool) (now : UInt64) : Connection :=
  if status ≠ 0 && status ≠ 2 then connection.stop
  else if status = 0 && operation ≠ .register && generation ≠ connection.generation then
    connection.stop
  else
    let connection := { connection with
      generation := if status = 0 then generation else connection.generation
      ackAt := now }
    if status = 2 then connection.revoke.goOn now
    else if !valid then (connection.see .invalid).revoke.goOn now
    else if connection.state = .connecting || connection.state = .ready then
      let connection := connection.admits now
      if connection.halting then connection else connection.goOn now
    else connection.goOn now

/-- `reply`; whether the local scope is valid. -/
def reply (connection : Connection) (operation : Operation) (reply : Reply) (valid : Bool)
    (now : UInt64) : Connection :=
  if connection.ended then connection
  else if connection.pending ≠ some operation || freshTime ≤ now - connection.sentAt then
    connection.stop
  else
    match reply.read connection.serverUID with
    | none => connection.stop
    | some (status, generation) =>
      let connection := { connection with pending := none }.see
        (.answered operation status generation now)
      if operation = .retire then
        if status ≠ 2 || connection.state ≠ .retiring then connection.stop
        else connection.transition .finished
      else connection.settle operation status generation valid now

/-- `receive`. -/
def receive (connection : Connection) (push : Push) : Connection :=
  if connection.ended then connection
  else if push.euid ≠ connection.serverUID || !push.dictionary || push.count ≠ 3 ||
      push.version ≠ some 1 || push.operation ≠ some 4 || connection.generation = 0 ||
      push.generation ≠ some connection.generation then connection.stop
  else (connection.see .pushed).revoke

/-- `retire`. -/
def retire (connection : Connection) (now : UInt64) : Connection :=
  let connection := connection.revoke
  if connection.state ≠ .retiring then connection
  else
    let connection := { connection with retireRequested := true }
    if connection.pending.isNone then connection.send .retire now else connection

/-- Whether a scope is of the kind the agent is for. -/
def suits (connection : Connection) (scope : GraphicalIdentity) : Bool :=
  (connection.phase = .desktop && scope.phase = .desktop) ||
    (connection.phase = .loginWindow && scope.phase = .signIn)

/-- `bindGraphicalScope`, with what it returns. -/
def bindGraphicalScope (connection : Connection) (scope : GraphicalIdentity) (now : UInt64) :
    Connection × GraphicalIdentity :=
  if connection.admissionClosed || connection.admissionGeneration = 0 then (connection, {})
  else if connection.admissionDeadline ≤ now || !connection.suits scope || !scope.valid ||
      (connection.boundScope.active && !sameScope connection.boundScope scope) then
    ({ connection with admissionClosed := true, admissionGeneration := 0 }.see (.refused scope), {})
  else
    let identity := { scope with generation := connection.admissionGeneration }
    ({ connection with boundScope := scope }.see (.bound scope identity now), identity)

end Connection

/-- What is called next. -/
inductive Call where
  /-- `start`. -/
  | start (valid : Bool)
  /-- The watch fires. -/
  | tick (valid : Bool)
  /-- A request is answered. -/
  | reply (operation : Operation) (reply : Reply) (valid : Bool)
  /-- The peer sends something, or the connection has an error. -/
  | receive (push : Push)
  /-- `authorized`. -/
  | authorized (valid : Bool)
  /-- `revoke`. -/
  | revoke
  /-- `retire`. -/
  | retire
  /-- `stop`. -/
  | stop
  /-- A handler that found the admission over stops. -/
  | halt
  /-- `bindGraphicalScope`, on any thread. -/
  | bindGraphicalScope (scope : GraphicalIdentity)
  deriving DecidableEq, Repr

namespace Connection

/-- Whether a request of this kind was ever sent. -/
def asked (connection : Connection) (operation : Operation) : Bool :=
  connection.trace.any (Happening.asks operation)

/-- Whether a call can be made: a handler waits for the one before it. -/
def allows (connection : Connection) : Call → Bool
  | .tick _ => !connection.halting && connection.started && !connection.ended
  | .reply operation _ _ => !connection.halting && connection.asked operation
  | .start _ | .receive _ | .authorized _ | .revoke | .retire | .stop => !connection.halting
  | .halt => connection.halting
  | .bindGraphicalScope _ => true

/-- A call. -/
def perform (connection : Connection) (now : UInt64) : Call → Connection
  | .start valid => connection.start valid now
  | .tick valid => connection.tick valid now
  | .reply operation reply valid => connection.reply operation reply valid now
  | .receive push => connection.receive push
  | .authorized valid => (connection.authorized valid now).1
  | .revoke => connection.revoke
  | .retire => connection.retire now
  | .stop => connection.stop
  | .halt => { connection.stop with halting := false }
  | .bindGraphicalScope scope => (connection.bindGraphicalScope scope now).1

/-- A call at a time. The clock does not go back, and stands while a handler runs. -/
def step (connection : Connection) (call : Call × UInt64) : Option Connection :=
  if connection.clock ≤ call.2 && connection.allows call.1 then
    some { connection.perform call.2 call.1 with clock := call.2 }
  else none

/-- Every interleaving. -/
def system (serverUID : UInt32) (phase : Phase) : Transition.System Connection (Call × UInt64) where
  initial connection := connection = { serverUID, phase }
  step := step

end Connection

end Plank.Agent
