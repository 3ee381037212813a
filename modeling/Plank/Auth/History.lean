import Plank.Transition.System
import Plank.Auth.Session

/-!
# Runs of the authentication session

Any number of peers and threads call the session in any order. A run keeps the clock, which
only moves forward, the responses whose verification is in flight, and the history an observer
writes down: what was consumed, what the verifier confirmed, which leases were claimed, which
of them were ended or revoked, and every authority the session granted.
-/

namespace Plank.Auth

/-- A response between its two blocks. -/
structure Running where
  /-- Peer that responded. -/
  peer : Peer
  /-- Record of the consumed conversation. -/
  record : Record
  /-- Revocation generation read when the conversation was consumed. -/
  generation : Nat
  deriving DecidableEq, Repr

/-- The verifier confirmed an account. -/
structure Verified where
  /-- Record of the conversation. -/
  serial : Nat
  /-- Peer that responded. -/
  peer : Peer
  /-- Confirmed account. -/
  account : AccountIdentity
  /-- Scope the conversation was bound to. -/
  scope : GraphicalIdentity
  deriving DecidableEq, Repr

/-- A token was claimed. -/
structure Claim where
  /-- Lease issued. -/
  lease : Nat
  /-- Record of the token. -/
  serial : Nat
  /-- The token. -/
  token : Text
  /-- Peer that claimed it. -/
  peer : Peer
  deriving DecidableEq, Repr

/-- What can be granted. -/
inductive Operation where
  /-- A setup token was issued. -/
  | respond
  /-- A token was accepted. -/
  | authorizeToken
  /-- A lease was issued. -/
  | claimToken
  /-- A lease was activated. -/
  | activateStreamLease
  /-- A lease was accepted. -/
  | authorizeStreamLease
  /-- An action ran under a lease. -/
  | performWithStreamLease
  /-- A token was accepted for a takeover. -/
  | authorizeTakeoverToken
  /-- A token was reserved for a takeover. -/
  | reserveTakeoverToken
  deriving DecidableEq, Repr

/-- One authority granted. -/
structure Grant where
  /-- What was granted. -/
  operation : Operation
  /-- The record it was granted for. -/
  record : Option Record
  /-- The graphical scope that was current. -/
  scope : GraphicalIdentity
  /-- The calling peer, where the call names one. -/
  peer : Option Peer
  /-- The lease used or issued. -/
  lease : Option Nat
  /-- Whether that lease was active. -/
  active : Bool
  /-- Conversations begun before everything was last revoked. -/
  watermark : Nat
  /-- Leases ended or revoked by a call before. -/
  past : List Nat

/-- The serials of the records of a table. -/
def serials (table : List (Text × Record)) : List Nat := table.map fun entry => entry.2.serial

/-- What an observer writes down. -/
structure History where
  /-- Conversations consumed by a response. -/
  consumed : List Nat := []
  /-- Accounts the verifier confirmed. -/
  verified : List Verified := []
  /-- Tokens claimed. -/
  claims : List Claim := []
  /-- Leases ended or revoked by a call. -/
  past : List Nat := []
  /-- Conversations begun before everything was last revoked. -/
  watermark : Nat := 0
  /-- Authorities granted, newest first. -/
  grants : List Grant := []

/-- The session with its threads and its history. -/
structure Session where
  /-- The session state behind its lock. -/
  state : State := {}
  /-- The last second read. -/
  clock : Nat := 0
  /-- Responses being verified. -/
  running : List Running := []
  /-- Responses decided whose last block is still to come. -/
  closing : Nat := 0
  /-- The history so far. -/
  history : History := {}

/-- Every call, with the seconds that pass before each of its clock readings, the snapshots it
reads and the randomness it draws. -/
inductive Action where
  /-- `startForPeer`. -/
  | start (peer : Option Peer) (username : Option (List UInt8)) (wait : Nat)
    (current : GraphicalIdentity) (pause : Nat) (random : Option Text)
  /-- First block of `respondForPeer`. -/
  | respond (peer : Option Peer) (conversation : Option Text) (wait : Nat)
    (current : GraphicalIdentity) (pause : Nat)
  /-- The verifier answers one of the responses in flight: second block of `respondForPeer`. -/
  | verified (index : Nat) (verdict : Verdict) (account : AccountIdentity) (wait : Nat)
    (current : GraphicalIdentity) (pause : Nat) (random : Option Text)
  /-- The verifier raises an exception: no second block. -/
  | raised (index : Nat)
  /-- Last block of `respondForPeer`. -/
  | respondFinally
  /-- `authorizeToken`. -/
  | authorizeToken (token : Option Text) (peer : Option Peer) (identity : Bool) (wait : Nat)
    (current again : GraphicalIdentity)
  /-- `claimToken`. -/
  | claimToken (token : Option Text) (peer : Option Peer) (wait : Nat)
    (current : GraphicalIdentity) (pause : Nat) (second again : GraphicalIdentity) (rest : Nat)
    (random : Option Text)
  /-- `activateStreamLease`. -/
  | activateStreamLease (lease : Option Nat) (wait : Nat) (current : GraphicalIdentity)
  /-- `authorizeStreamLease`. -/
  | authorizeStreamLease (lease : Option Nat) (identity : Bool) (wait : Nat)
    (current : GraphicalIdentity)
  /-- `performWithStreamLease`. -/
  | performWithStreamLease (lease : Option Nat) (action : Bool) (wait : Nat)
    (current : GraphicalIdentity)
  /-- `authorizeTakeoverToken`. -/
  | authorizeTakeoverToken (token : Option Text) (peer : Option Peer) (lease : Option Nat)
    (wait : Nat) (current again : GraphicalIdentity)
  /-- `reserveTakeoverToken`. -/
  | reserveTakeoverToken (token : Option Text) (peer : Option Peer) (lease : Option Nat)
    (wait : Nat) (current again : GraphicalIdentity) (pause : Nat)
  /-- `endStreamLease`. -/
  | endStreamLease (lease : Option Nat)
  /-- `revokeToken`. -/
  | revokeToken (token : Option Text)
  /-- `revokeAll`. -/
  | revokeAll

namespace History

/-- Write a grant down. -/
def grant (history : History) (operation : Operation) (record : Option Record)
    (scope : GraphicalIdentity) (peer : Option Peer) (lease : Option Nat) (active : Bool) :
    History :=
  { history with
    grants := {
      operation, record, scope, peer, lease, active
      watermark := history.watermark
      past := history.past } :: history.grants }

/-- Write a grant for a token down, if the call succeeded. -/
def grantToken (history : History) (operation : Operation) (record : Option Record)
    (scope : GraphicalIdentity) (peer : Option Peer) : History :=
  if record.isSome then history.grant operation record scope peer none false else history

/-- Write a grant for a lease down, if the call succeeded. -/
def grantLease (history : History) (operation : Operation) (state : State) (lease : Option Nat)
    (succeeded : Bool) (scope : GraphicalIdentity) : History :=
  if succeeded then
    history.grant operation (lease.bind fun lease => (state.leases lease).record) scope none lease
      (lease.any fun lease => (state.leases lease).active)
  else history

/-- Write the verifier's confirmation of a response down, if it is one. -/
def confirm (history : History) (response : Running) (verdict : Verdict)
    (account : AccountIdentity) : History :=
  if verdict = .verified then
    { history with
      verified := ⟨response.record.serial, response.peer, account, response.record.scope⟩ ::
        history.verified }
  else history

/-- Write the answer to a response down, if it grants a token. -/
def answer (history : History) (answer : Response) (state : State) (scope : GraphicalIdentity)
    (peer : Peer) : History :=
  match answer with
  | .authenticated token _ =>
    history.grant .respond (state.tokens.lookup token) scope (some peer) none false
  | _ => history

/-- An answer that issues no token is not written down. -/
theorem answer_refused (history : History) {answer : Response}
    (refusal : ∀ token greeter, answer ≠ .authenticated token greeter) (state : State)
    (scope : GraphicalIdentity) (peer : Peer) :
    history.answer answer state scope peer = history := by
  cases answer with
  | authenticated token greeter => exact absurd rfl (refusal token greeter)
  | denied => rfl
  | busy => rfl
  | challenge conversation => rfl

/-- Write a claim down, if a lease was issued. -/
def claim (history : History) (issued : Option Nat) (state : State) (token : Option Text)
    (peer : Option Peer) : History :=
  match issued, token, peer with
  | some lease, some token, some peer =>
    { history with
      claims := ⟨lease, ((state.leases lease).record.map Record.serial).getD 0, token, peer⟩ ::
        history.claims }
  | _, _, _ => history

end History

/-- The response a first block leaves in flight. -/
def Running.begun (opening : State.Opening) (peer : Option Peer) : List Running :=
  match opening, peer with
  | .verify record generation, some peer => [⟨peer, record, generation⟩]
  | _, _ => []

/-- An answered response is not in flight. -/
@[simp] theorem Running.begun_answered (response : Response) (peer : Option Peer) :
    Running.begun (.answered response) peer = [] := by
  cases peer <;> rfl

namespace Session

/-- One call or one block of a call. -/
def step (session : Session) : Action → Option Session
  | .start peer username wait current pause random =>
    let now := session.clock + wait
    let (state, _) := session.state.start peer username now current (now + pause) random
    some { session with state, clock := now + pause }
  | .respond peer conversation wait current pause =>
    let now := session.clock + wait
    let before := session.state.prune now current
    let (state, opening) := session.state.respond peer conversation now current (now + pause)
    -- a conversation is consumed when it leaves the table after the pruning
    let consumed := serials (before.pending.filter fun entry => !state.pending.contains entry)
    some { session with
      state
      clock := now + pause
      running := session.running ++ Running.begun opening peer
      history := { session.history with consumed := consumed ++ session.history.consumed } }
  | .verified index verdict account wait current pause random =>
    session.running[index]?.map fun response =>
      let now := session.clock + wait
      let (state, answer) := session.state.respondVerified response.peer response.record
        response.generation verdict account now current (now + pause) random
      { session with
        state
        clock := now + pause
        running := session.running.eraseIdx index
        closing := session.closing + 1
        history := (session.history.confirm response verdict account).answer answer state current
          response.peer }
  | .raised index =>
    session.running[index]?.map fun _ =>
      { session with
        running := session.running.eraseIdx index
        closing := session.closing + 1 }
  | .respondFinally =>
    if session.closing = 0 then none
    else some { session with
      state := session.state.respondFinally, closing := session.closing - 1 }
  | .authorizeToken token peer identity wait current again =>
    let now := session.clock + wait
    let (state, record) := session.state.authorizeToken token peer identity now current again
    some { session with
      state
      clock := now
      history := session.history.grantToken .authorizeToken record again peer }
  | .claimToken token peer wait current pause second again rest random =>
    let now := session.clock + wait
    let inner := now + pause
    let (state, issued) := session.state.claimToken token peer now current inner second again
      (inner + rest) random
    some { session with
      state
      clock := inner + rest
      history := (session.history.claim issued state token peer).grantLease .claimToken state
        issued issued.isSome again }
  | .activateStreamLease lease wait current =>
    let now := session.clock + wait
    let (state, activated) := session.state.activateStreamLease lease now current
    some { session with
      state
      clock := now
      history := session.history.grantLease .activateStreamLease state lease activated current }
  | .authorizeStreamLease lease identity wait current =>
    let now := session.clock + wait
    let (state, authorized) := session.state.authorizeStreamLease lease identity now current
    some { session with
      state
      clock := now
      history := session.history.grantLease .authorizeStreamLease state lease authorized current }
  | .performWithStreamLease lease action wait current =>
    let now := session.clock + wait
    let (state, performed) := session.state.performWithStreamLease lease action now current
    some { session with
      state
      clock := now
      history := session.history.grantLease .performWithStreamLease state lease performed current }
  | .authorizeTakeoverToken token peer lease wait current again =>
    let now := session.clock + wait
    let (state, record) := session.state.authorizeTakeoverToken token peer lease now current again
    some { session with
      state
      clock := now
      history := session.history.grantToken .authorizeTakeoverToken record again peer }
  | .reserveTakeoverToken token peer lease wait current again pause =>
    let now := session.clock + wait
    let (state, record) := session.state.reserveTakeoverToken token peer lease now current again
      (now + pause)
    some { session with
      state
      clock := now + pause
      history := session.history.grantToken .reserveTakeoverToken record again peer }
  | .endStreamLease lease =>
    some { session with
      state := session.state.endStreamLease lease
      history := { session.history with
        past := (lease.filter (· < session.state.issued)).toList ++ session.history.past } }
  | .revokeToken token =>
    some { session with
      state := session.state.revokeToken token
      history := { session.history with
        past := (session.history.claims.filter fun claim => some claim.token = token).map
          Claim.lease ++ session.history.past } }
  | .revokeAll =>
    some { session with
      state := session.state.revokeAll
      history := { session.history with
        past := session.history.claims.map Claim.lease ++ session.history.past
        watermark := session.state.records } }

/-- All runs, from the session as it is created. -/
def system : Transition.System Session Action where
  initial session := session = {}
  step := step

end Session

/-! ### What a history keeps -/

/-- A history tells of every ended lease and every claim that an earlier one tells of. -/
structure History.Grows (before after : History) : Prop where
  /-- Ended leases stay ended. -/
  past : ∀ lease ∈ before.past, lease ∈ after.past
  /-- Claims stay. -/
  claims : ∀ claim ∈ before.claims, claim ∈ after.claims

/-- Nothing is forgotten where neither list changes. -/
theorem History.Grows.of_same {before after : History} (past : after.past = before.past)
    (claims : after.claims = before.claims) : before.Grows after :=
  ⟨fun _ member => past ▸ member, fun _ member => claims ▸ member⟩

/-- Writing a grant for a token down forgets nothing. -/
theorem History.grows_grantToken (history : History) (operation : Operation)
    (record : Option Record) (scope : GraphicalIdentity) (peer : Option Peer) :
    history.Grows (history.grantToken operation record scope peer) := by
  unfold grantToken
  split
  · exact .of_same rfl rfl
  · exact .of_same rfl rfl

/-- Writing a grant for a lease down forgets nothing. -/
theorem History.grows_grantLease (history : History) (operation : Operation) (state : State)
    (lease : Option Nat) (succeeded : Bool) (scope : GraphicalIdentity) :
    history.Grows (history.grantLease operation state lease succeeded scope) := by
  unfold grantLease
  split
  · exact .of_same rfl rfl
  · exact .of_same rfl rfl

/-- Writing a claim down forgets nothing. -/
theorem History.grows_claim (history : History) (issued : Option Nat) (state : State)
    (token : Option Text) (peer : Option Peer) :
    history.Grows (history.claim issued state token peer) := by
  unfold claim
  split
  · exact ⟨fun _ member => member, fun _ member => List.mem_cons_of_mem _ member⟩
  · exact .of_same rfl rfl

/-- Writing what became of a response down forgets nothing. -/
theorem History.grows_answer (history : History) (response : Running) (verdict : Verdict)
    (account : AccountIdentity) (answer : Response) (state : State) (scope : GraphicalIdentity) :
    history.Grows ((history.confirm response verdict account).answer answer state scope
      response.peer) := by
  unfold History.answer confirm
  split <;> split <;> exact .of_same rfl rfl

/-- One history after another. -/
theorem History.Grows.trans {first second third : History} (before : first.Grows second)
    (after : second.Grows third) : first.Grows third :=
  ⟨fun lease member => after.past lease (before.past lease member),
    fun claim member => after.claims claim (before.claims claim member)⟩

namespace Session

/-- No call makes a history forget. -/
theorem step_grows {before after : Session} {action : Action}
    (stepped : before.step action = some after) : before.history.Grows after.history := by
  cases action with
  | start | respond =>
    obtain rfl := Option.some.inj stepped
    exact .of_same rfl rfl
  | verified index verdict account wait current pause random =>
    obtain ⟨response, _, rfl⟩ := Option.map_eq_some_iff.mp stepped
    exact before.history.grows_answer response verdict account _ _ current
  | raised index =>
    obtain ⟨response, _, rfl⟩ := Option.map_eq_some_iff.mp stepped
    exact .of_same rfl rfl
  | respondFinally =>
    obtain ⟨_, same⟩ := Option.ite_none_left_eq_some.mp stepped
    obtain rfl := Option.some.inj same
    exact .of_same rfl rfl
  | authorizeToken | authorizeTakeoverToken | reserveTakeoverToken =>
    obtain rfl := Option.some.inj stepped
    exact before.history.grows_grantToken _ _ _ _
  | claimToken =>
    obtain rfl := Option.some.inj stepped
    exact (before.history.grows_claim _ _ _ _).trans (History.grows_grantLease _ _ _ _ _ _)
  | activateStreamLease | authorizeStreamLease | performWithStreamLease =>
    obtain rfl := Option.some.inj stepped
    exact before.history.grows_grantLease _ _ _ _ _
  | endStreamLease | revokeToken | revokeAll =>
    obtain rfl := Option.some.inj stepped
    exact ⟨fun _ member => List.mem_append_right _ member, fun _ member => member⟩

end Session

end Plank.Auth
