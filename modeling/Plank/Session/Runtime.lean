import Plank.Program.Dialogue
import Plank.Transition.System

/-!
# The runtime of the host

`host-runtime.m` prepares a display for a stream and restores it afterwards, one operation at a
time. An operation is a dialogue with the runtime, whose locked regions are single queries, and with
the display, the streams and the sessions. A stream is known by whether it has stopped and by the
block that is to run when it has.
-/

namespace Plank.Session

/-- A token and the certificate of a peer, who reserved what a stream leaves behind. -/
structure Reservation where
  /-- `_takeoverToken`. -/
  token : String
  /-- `_takeoverPeer`. -/
  peer : List UInt8
  /-- `_takeoverDeadline`. -/
  deadline : UInt64
  deriving DecidableEq, Repr

/-- What is found when a reservation is looked at. -/
structure Moment where
  /-- The monotonic clock. -/
  now : UInt64 := 0
  /-- The token that has the reservation is still authorized. -/
  authorized : Bool := true
  deriving DecidableEq, Repr

/-- A reservation is live. -/
def Reservation.live (reservation : Reservation) (moment : Moment) : Bool :=
  moment.now < reservation.deadline && moment.authorized

/-- A generation of the display, and how many restorations had been made when it was read. -/
structure Ticket where
  /-- The generation. -/
  generation : UInt64
  /-- The restorations. -/
  issued : Nat
  deriving DecidableEq, Repr

/-- A stream, as far as the runtime looks at it. -/
structure Stream where
  /-- `sessionID`. -/
  sessionID : String := ""
  /-- Its `state` is `PLANKMacPreviewStopped`. -/
  stopped : Bool := true
  /-- The generation that its `didStop` releases, until that has run. -/
  didStop : Option Ticket := none
  deriving DecidableEq, Repr

/-- A release of the display that is to be tried. -/
structure Release where
  /-- Its generation. -/
  ticket : Ticket
  /-- It is the one of a shutdown, with a completion and for every generation. -/
  shutdown : Bool := false
  deriving DecidableEq, Repr

/-- How far a shutdown has come, before its release. -/
inductive Shutdown where
  /-- It has been asked for. -/
  | requested
  /-- It waits for a stream, if there is one. -/
  | draining (stream : Option Nat)
  deriving DecidableEq, Repr

/-- `PLANKMacHostRuntime`. -/
structure Runtime where
  /-- `_started`. -/
  started : Bool := false
  /-- `_stopping`. -/
  stopping : Bool := false
  /-- `_displayPrepared`. -/
  displayPrepared : Bool := false
  /-- `_displayRestorationFailed`. -/
  displayRestorationFailed : Bool := false
  /-- `_displayOperation`, by a number. -/
  displayOperation : Option Nat := none
  /-- `_displayGeneration`. -/
  displayGeneration : UInt64 := 0
  /-- The takeover that is reserved. -/
  takeover : Option Reservation := none
  /-- `_stream`. -/
  stream : Option Nat := none
  /-- Every stream there ever was. -/
  streams : Nat → Stream := fun _ => {}
  /-- How many. -/
  count : Nat := 0
  /-- The timers and blocks that are to release the display. -/
  releases : List Release := []
  /-- The shutdowns that have not come to their release. -/
  shutdowns : List Shutdown := []
  /-- A shutdown has been completed. -/
  completed : Bool := false
  /-- How many operations there were. -/
  operations : Nat := 0
  /-- How many restorations were begun. -/
  restorations : Nat := 0

/-- What the runtime was given to work on displays with. -/
structure Setup where
  /-- `prepareDisplay`. -/
  prepares : Bool := true
  /-- `recoverDisplay`. -/
  recovers : Bool := true
  /-- `releaseDisplay`. -/
  releases : Bool := true
  deriving DecidableEq, Repr

namespace Runtime

/-- `_stream` has not stopped. -/
def active (runtime : Runtime) : Bool :=
  runtime.stream.any fun index => !(runtime.streams index).stopped

/-- The generation now. -/
def ticket (runtime : Runtime) : Ticket := ⟨runtime.displayGeneration, runtime.restorations⟩

/-- A stream is changed. -/
def setStream (runtime : Runtime) (index : Nat) (stream : Stream) : Runtime :=
  { runtime with streams := Function.update runtime.streams index stream }

/-- A reservation that is not live is dropped. -/
def expire (runtime : Runtime) (moment : Moment) : Runtime :=
  if runtime.takeover.any fun reservation => !reservation.live moment then
    { runtime with takeover := none }
  else runtime

/-- Someone else has the reservation. -/
def reservedForAnother (runtime : Runtime) (token : String) (peer : List UInt8) : Bool :=
  runtime.takeover.any fun reservation => reservation.token ≠ token || reservation.peer ≠ peer

end Runtime

/-- What a request to prepare a display is told at first. -/
inductive Verdict where
  /-- The session to be taken over is another one. -/
  | changed
  /-- A session is active, or reserved for another peer. -/
  | conflict
  /-- It goes on with the stream there is, which may first have to be taken over. -/
  | admitted (stream : Option Nat) (needsTakeover : Bool)
  deriving DecidableEq, Repr

/-- The first locked region of `-prepareDisplayRequest:`. -/
def Runtime.verdict (runtime : Runtime) (token : String) (peer : List UInt8)
    (takeover : Option String) : Verdict :=
  let sessionID := runtime.stream.map fun index => (runtime.streams index).sessionID
  if takeover ≠ none ∧ takeover ≠ sessionID then .changed
  else if runtime.reservedForAnother token peer ||
      (runtime.active && (takeover = none || takeover ≠ sessionID)) then .conflict
  else .admitted runtime.stream (runtime.active && runtime.takeover.isNone)

/-- A step of an operation. -/
inductive Query where
  /-- Whether `_stream` has not stopped. -/
  | streamActive
  /-- The first locked region of `-prepareDisplayRequest:`. -/
  | check (token : String) (peer : List UInt8) (takeover : Option String)
  /-- `valid`. -/
  | valid
  /-- `-permissionError:`. -/
  | permitted
  /-- `-reserveTakeoverWithToken:peer:`. -/
  | reserveTakeover (stream : Option Nat)
  /-- The reservation is kept for fifteen seconds. -/
  | keepReservation (token : String) (peer : List UInt8)
  /-- `-takeOverWithToken:peer:valid:completion:`, waited for. -/
  | takeOver (stream : Option Nat)
  /-- The reservation is dropped. -/
  | dropReservation
  /-- Whether a stream has stopped, or there is none. -/
  | drained (stream : Option Nat)
  /-- The first locked region of `-restoreReservedDisplay`. -/
  | restoreBegins
  /-- `releaseDisplay`. -/
  | releaseDisplay
  /-- The second locked region of `-restoreReservedDisplay`. -/
  | restoreEnds (restored : Bool)
  /-- The display is about to be prepared. -/
  | markPrepared
  /-- `prepareDisplay`, for a peer. -/
  | prepareDisplay (token : String) (peer : List UInt8)
  /-- The topology is the one that was asked for, which is still valid. -/
  | topologyMatches
  /-- The generation is read, and whether the display is prepared. -/
  | readGeneration
  /-- The timer of a generation is set. -/
  | schedule (ticket : Ticket)
  /-- `recoverDisplay`. -/
  | recoverDisplay
  deriving DecidableEq, Repr

/-- What a step answers. -/
abbrev Query.Answer : Query → Type
  | check _ _ _ => Moment × Verdict
  | keepReservation _ _ => UInt64
  | takeOver _ => Option Bool
  | readGeneration => Ticket × Bool
  | dropReservation | restoreEnds _ | markPrepared | schedule _ => Unit
  | _ => Bool

/-- An operation on the display. -/
abbrev Program := Dialogue Query Query.Answer

section

variable (setup : Setup)

/-- What a step makes of the runtime, where it can be answered so. -/
def Runtime.respond (runtime : Runtime) : (query : Query) → query.Answer → Option Runtime
  | .streamActive, answer => if answer = runtime.active then some runtime else none
  | .check token peer takeover, (moment, verdict) =>
    -- An expired reservation is dropped only where the session is not another one.
    if runtime.verdict token peer takeover = .changed then
      if verdict = .changed then some runtime else none
    else if verdict = (runtime.expire moment).verdict token peer takeover then
      some (runtime.expire moment)
    else none
  | .keepReservation token peer, now =>
    some { runtime with takeover := some ⟨token, peer, now + 15000000000⟩ }
  | .dropReservation, _ => some { runtime with takeover := none }
  | .drained stream, answer =>
    if answer = stream.all fun index => (runtime.streams index).stopped then some runtime else none
  | .restoreBegins, prepared =>
    if prepared = runtime.displayPrepared then
      some { runtime with
        displayGeneration := runtime.displayGeneration + 1
        restorations := runtime.restorations + 1 }
    else none
  | .restoreEnds restored, _ => some { runtime with
      displayRestorationFailed := !restored
      displayPrepared := if restored then false else runtime.displayPrepared }
  | .markPrepared, _ => some { runtime with displayPrepared := setup.releases }
  | .readGeneration, answer =>
    if answer = (runtime.ticket, runtime.displayPrepared) then some runtime else none
  | .schedule ticket, _ => some { runtime with releases := runtime.releases ++ [{ ticket }] }
  | .valid, _ | .permitted, _ | .reserveTakeover _, _ | .takeOver _, _ | .releaseDisplay, _
  | .prepareDisplay _ _, _ | .topologyMatches, _ | .recoverDisplay, _ => some runtime

open Dialogue (done ask)

/-- `-restoreReservedDisplay`. -/
def restoreReservedDisplay : Program Bool :=
  ask .restoreBegins fun prepared =>
    if prepared && setup.releases then
      ask .releaseDisplay fun restored => ask (.restoreEnds restored) fun _ => done restored
    else ask (.restoreEnds true) fun _ => done true

/-- The stream there is, is taken over: a status where that does not end well. -/
def takeOver (token : String) (peer : List UInt8) (stream : Option Nat) : Program (Option Nat) :=
  ask .valid fun valid =>
    if !valid then done (some 403)
    else
      ask (.reserveTakeover stream) fun reserved =>
        if !reserved then done (some 403)
        else
          ask (.keepReservation token peer) fun _ =>
            ask (.takeOver stream) fun
              | none => done (some 503)
              | some accepted =>
                ask .valid fun valid =>
                  if !accepted || !valid then ask .dropReservation fun _ => done (some 403)
                  else done none

/-- The display is restored behind a preparation that failed. -/
def abandon : Program Nat := (restoreReservedDisplay setup).bind fun _ => done 503

/-- The display is prepared behind a restoration. -/
def prepareRestored (token : String) (peer : List UInt8) : Program Nat :=
  ask .markPrepared fun _ =>
    ask (.prepareDisplay token peer) fun prepared =>
      ask .valid fun valid =>
        if !prepared || !valid then abandon setup
        else
          ask .topologyMatches fun same =>
            if !same then abandon setup
            else
              ask .readGeneration fun (ticket, prepared) =>
                if prepared then ask (.schedule ticket) fun _ => done 200 else done 200

/-- `-prepareDisplayRequest:token:peer:valid:status:` behind its reservation, with its status. -/
def prepareReserved (token : String) (peer : List UInt8) (takeover : Option String) :
    Program Nat :=
  ask (.check token peer takeover) fun
    | (_, .changed) | (_, .conflict) => done 409
    | (_, .admitted stream needsTakeover) =>
      (if needsTakeover then takeOver token peer stream else done none).bind fun
        | some status => done status
        | none =>
          ask (.drained stream) fun drained =>
            if !drained then done 503
            else
              ask .valid fun valid =>
                if !valid then done 503
                else
                  (restoreReservedDisplay setup).bind fun restored =>
                    if !restored then done 503 else prepareRestored setup token peer

/-- `-recoverTopologyAuthorized:` behind its reservation. -/
def recoverReserved : Program Bool :=
  ask .streamActive fun active =>
    if active then done false
    else
      ask .valid fun valid =>
        if !valid then done false
        else
          ask .permitted fun permitted =>
            if !permitted then done false
            else
              (restoreReservedDisplay setup).bind fun restored =>
                if !restored then done false
                else
                  ask .recoverDisplay fun recovered =>
                    if !recovered then done false else ask .valid done

end

/-- An operation that has reserved the display. -/
inductive Operation where
  /-- It prepares the display for a peer. -/
  | prepare (token : String) (peer : List UInt8) (takeover : Option String)
  /-- It recovers the topology. -/
  | recover
  /-- It releases the display, as the shutdown may ask for. -/
  | release (shutdown : Bool)
  deriving DecidableEq, Repr

/-- What an operation does. -/
def Operation.program (setup : Setup) : Operation → Program Unit
  | prepare token peer takeover =>
    (prepareReserved setup token peer takeover).bind fun _ => .done ()
  | recover => (recoverReserved setup).bind fun _ => .done ()
  | release _ => (restoreReservedDisplay setup).bind fun _ => .done ()

/-- A thread that carries out an operation. -/
structure Worker where
  /-- The number of the operation. -/
  number : Nat
  /-- The operation. -/
  operation : Operation
  /-- What it still has to do. -/
  program : Program Unit

/-- What becomes of a stream that is launched. -/
inductive Launched where
  /-- It cannot be made. -/
  | unbuilt
  /-- It lacks a feature that is required, and is stopped. -/
  | incompatible
  /-- It is too late, and is stopped. -/
  | late
  /-- It is started. -/
  | started
  deriving DecidableEq, Repr

/-- A request to launch a stream, and what it finds. -/
structure Launch where
  /-- Its token. -/
  token : String
  /-- Its peer. -/
  peer : List UInt8
  /-- What is found when the reservation is looked at. -/
  moment : Moment := {}
  /-- The graphical session is valid. -/
  inScope : Bool := true
  /-- The request matches the topology. -/
  matching : Bool := true
  /-- `-permissionError:` has none. -/
  permitted : Bool := true
  /-- What becomes of the stream. -/
  outcome : Launched := .started
  /-- Its `sessionID`. -/
  sessionID : String := ""
  deriving DecidableEq, Repr

/-- `-launch:token:peer:port:status:`, which holds the lock all the time. -/
def Runtime.launch (runtime : Runtime) (request : Launch) : Runtime :=
  if runtime.stopping || !runtime.started || runtime.displayOperation.isSome ||
      runtime.displayRestorationFailed || !request.inScope then runtime
  else
    let runtime := runtime.expire request.moment
    if runtime.reservedForAnother request.token request.peer || !request.matching ||
        runtime.active || !request.permitted then runtime
    else if request.outcome = .unbuilt then
      { runtime with
        stream := none
        releases := runtime.releases ++ [{ ticket := runtime.ticket }] }
    else
      let stream : Stream := {
        sessionID := request.sessionID
        stopped := false
        didStop := if runtime.displayPrepared then some runtime.ticket else none }
      { runtime.setStream runtime.count stream with
        stream := some runtime.count
        count := runtime.count + 1
        takeover := if request.outcome = .incompatible then runtime.takeover else none }

/-- The runtime and the threads that work on the display. -/
structure Host where
  /-- The runtime. -/
  runtime : Runtime := {}
  /-- The threads. -/
  workers : List Worker := []

/-- What can happen. -/
inductive Action where
  /-- `-startOnPort:`. -/
  | start
  /-- A request to prepare a display that is valid. -/
  | prepare (token : String) (peer : List UInt8) (takeover : Option String)
  /-- `-recoverTopologyAuthorized:`. -/
  | recover
  /-- A release of the display is tried. -/
  | release (index : Nat)
  /-- `-launch:`. -/
  | launch (request : Launch)
  /-- A stream has stopped. -/
  | streamStops (index : Nat)
  /-- Its `didStop` runs. -/
  | didStop (index : Nat)
  /-- `-stopWithCompletion:`. -/
  | stop
  /-- A shutdown looks for the stream. -/
  | shutdownLooks (index : Nat)
  /-- The stream that it waits for has stopped. -/
  | shutdownDrained (index : Nat)
  /-- A thread takes a step. -/
  | answer (worker : Nat) (reply : (query : Query) → query.Answer)
  /-- It has finished its operation. -/
  | finish (worker : Nat)

namespace Host

variable (setup : Setup)

/-- `UINT64_MAX`. -/
def everyGeneration : UInt64 := 0xffffffffffffffff

/-- The display is reserved for an operation. -/
def reserve (host : Host) (operation : Operation) : Host where
  runtime := { host.runtime with
    displayOperation := some host.runtime.operations
    operations := host.runtime.operations + 1 }
  workers := host.workers ++ [⟨host.runtime.operations, operation, operation.program setup⟩]

/-- `-reserveDisplayOperation`. -/
def reserveDisplayOperation (host : Host) (operation : Operation) : Option Host :=
  if host.runtime.displayOperation.isSome || !host.runtime.started || host.runtime.stopping then
    none
  else some (host.reserve setup operation)

/-- `-releaseDisplayGeneration:completion:`; it is tried again where an operation is pending. -/
def releaseDisplayGeneration (host : Host) (index : Nat) (release : Release) : Host :=
  let runtime := host.runtime
  let tried := { runtime with releases := runtime.releases.eraseIdx index }
  if runtime.displayOperation.isSome then host
  else if (release.ticket.generation ≠ everyGeneration &&
      release.ticket.generation ≠ runtime.displayGeneration) || runtime.active then
    { host with runtime := { tried with completed := tried.completed || release.shutdown } }
  else ({ host with runtime := tried } : Host).reserve setup (.release release.shutdown)

/-- What happens. -/
def step (host : Host) : Action → Option Host
  | .start => some { host with runtime := { host.runtime with
      started := host.runtime.started || !host.runtime.stopping } }
  | .prepare token peer takeover =>
    if setup.prepares then host.reserveDisplayOperation setup (.prepare token peer takeover)
    else none
  | .recover =>
    if setup.recovers then host.reserveDisplayOperation setup .recover else none
  | .release index =>
    host.runtime.releases[index]?.map fun release =>
      host.releaseDisplayGeneration setup index release
  | .launch request => some { host with runtime := host.runtime.launch request }
  | .streamStops index =>
    if index < host.runtime.count then
      let stream := { host.runtime.streams index with stopped := true }
      some { host with runtime := host.runtime.setStream index stream }
    else none
  | .didStop index =>
    let stream := host.runtime.streams index
    match stream.didStop with
    | some ticket =>
      if stream.stopped then
        let runtime := host.runtime.setStream index { stream with didStop := none }
        some { host with runtime := { runtime with
          releases := runtime.releases ++ [{ ticket }] } }
      else none
    | none => none
  | .stop => some { host with runtime := { host.runtime with
      stopping := true
      shutdowns := host.runtime.shutdowns ++ [.requested] } }
  | .shutdownLooks index =>
    if host.runtime.shutdowns[index]? = some .requested then
      some { host with runtime := { host.runtime with
        shutdowns := host.runtime.shutdowns.set index (.draining host.runtime.stream) } }
    else none
  | .shutdownDrained index =>
    match host.runtime.shutdowns[index]? with
    | some (.draining stream) =>
      if stream.all fun index => (host.runtime.streams index).stopped then
        some { host with runtime := { host.runtime with
          shutdowns := host.runtime.shutdowns.eraseIdx index
          releases := host.runtime.releases ++
            [⟨⟨everyGeneration, host.runtime.restorations⟩, true⟩] } }
      else none
    | _ => none
  | .answer index reply =>
    match host.workers[index]? with
    | some ⟨number, operation, .ask query next⟩ => do
      let runtime ← host.runtime.respond setup query (reply query)
      some ⟨runtime, host.workers.set index ⟨number, operation, next (reply query)⟩⟩
    | _ => none
  | .finish index =>
    match host.workers[index]? with
    | some ⟨_, operation, .done _⟩ => some {
        runtime := { host.runtime with
          displayOperation := none
          completed := host.runtime.completed || operation = .release true }
        workers := host.workers.eraseIdx index }
    | _ => none

/-- The runtime starts with nothing prepared and no stream. -/
def system : Transition.System Host Action where
  initial host := host = {}
  step := step setup

end Host

end Plank.Session
