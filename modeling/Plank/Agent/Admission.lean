import Plank.Agent.ConnectionLaw
import Plank.Agent.Answer

/-!
# An agent and the registry

The connection of one agent and the registry at the other end of it, on one clock. The requests of
the connection reach the registry in order, and so do the answers; either may be delayed for any
time. A revocation that the registry sends may reach the connection or be lost. Other links send
what they like.
-/

namespace Plank.Agent

open Auth (GraphicalIdentity)

/-- The two ends of a link. -/
structure Admission where
  /-- The connection of the agent. -/
  connection : Connection
  /-- The registry. -/
  registry : Registry := {}
  /-- How many requests have reached the registry. -/
  taken : Nat := 0
  /-- How many answers have reached the connection. -/
  delivered : Nat := 0
  /-- When the registry revoked the lease of the link. -/
  revokedAt : Option UInt64 := none
  /-- The clock. -/
  clock : UInt64 := 0
  deriving DecidableEq, Repr

/-- The message of an answer. -/
def answer (euid : UInt32) (status : UInt64) (generation : Option UInt64) : Reply :=
  { euid, count := if generation.isSome then 3 else 2, status := some status, generation }

/-- The time a block of the registry reads. -/
def Action.time : Action → Option UInt64
  | .accept _ now | .receive _ _ _ _ _ _ now _ | .issued _ _ _ now _ | .watch _ now _ => some now
  | .revoke _ | .refresh _ _ | .complete _ | .stop _ => none

/-- What happens next at either end. -/
inductive Move where
  /-- The connection is called, but no answer is delivered. -/
  | call (call : Call)
  /-- An answer of the registry is delivered; whether the local scope is valid. -/
  | deliver (euid : UInt32) (valid : Bool)
  /-- The registry runs a block, but takes no request of this link. -/
  | registry (action : Action)
  /-- The registry takes a request of this link. -/
  | take (peer : Peer) (scope : Phase) (random : Option UInt64) (issuer : Bool)
    (controller : Event → Reaction)

namespace Admission

/-- Whether a call can be made: an answer that was not delivered is an error, and so is a push that
the registry has not sent. -/
def carries (admission : Admission) (link : Nat) : Call → Bool
  | .reply _ reply _ => !reply.dictionary
  | .receive push => !push.dictionary || admission.registry.trace.any fun notice =>
      push.generation.any fun generation => notice = .pushed link generation
  | _ => true

/-- Whether a block of the registry takes nothing from a link: the link may have an error. -/
def spares (link : Nat) : Action → Bool
  | .receive index message _ _ _ _ _ _ => index ≠ link || !message.dictionary
  | _ => true

/-- The connection is called at a time. -/
def calls (admission : Admission) (call : Call) (now : UInt64) : Option Admission :=
  (admission.connection.step (call, now)).map fun connection =>
    { admission with connection, clock := now }

/-- The registry runs a block at a time. -/
def runs (admission : Admission) (link : Nat) (action : Action) (now : UInt64) : Option Admission :=
  if action.time.all fun time => time = now then
    (admission.registry.step action).map fun registry =>
      { admission with
        registry
        clock := now
        revokedAt :=
          if admission.revokedAt.isNone && registry.trace.contains (.event link .revoked) then
            some now
          else admission.revokedAt }
  else none

/-- What happens next, at a time. -/
def step (link : Nat) (admission : Admission) (move : Move × UInt64) : Option Admission :=
  if admission.clock ≤ move.2 then
    match move.1 with
    | .call call => if admission.carries link call then admission.calls call move.2 else none
    | .deliver euid valid =>
      match (repliesOf link admission.registry.trace)[admission.delivered]?,
          (requests admission.connection.trace)[admission.delivered]? with
      | some (status, generation), some request =>
        { admission with delivered := admission.delivered + 1 }.calls
          (.reply request.operation (answer euid status generation) valid) move.2
      | _, _ => none
    | .registry action => if spares link action then admission.runs link action move.2 else none
    | .take peer scope random issuer controller =>
      match (requests admission.connection.trace)[admission.taken]? with
      | some request =>
        { admission with taken := admission.taken + 1 }.runs link
          (.receive link (request.message admission.connection.phase) peer scope random issuer
            move.2 controller) move.2
      | none => none
  else none

/-- Every interleaving, for the link that the connection gets. -/
def system (serverUID : UInt32) (phase : Phase) (link : Nat) :
    Transition.System Admission (Move × UInt64) where
  initial admission := admission = { connection := { serverUID, phase } }
  step := step link

end Admission

end Plank.Agent
