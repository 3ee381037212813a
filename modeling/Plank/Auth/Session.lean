import Plank.Auth.Policy

/-!
# The authentication session

`authentication-session.m`: conversations, setup tokens and the one stream lease of a host. Every
definition below is one `@synchronized` block; verification of a password runs between the two
blocks of `respondForPeer` and outside the lock. A block reads the clock (in seconds) and the
graphical snapshot as often as the source does, and takes each reading as an argument. Random
tokens are arguments too. A record or a lease object is identified by the number it was
allocated with; an object the session no longer points at keeps its fields, as in the source.
-/

namespace Plank.Auth

/-- A string, as its UTF-16 units. -/
abbrev Text := List UInt16

/-- Canonical address bytes of a peer. -/
abbrev Peer := List UInt8

/-- `MaximumPendingChallenges`. -/
def maximumPendingChallenges : Nat := 16
/-- `MaximumSetupTokens`. -/
def maximumSetupTokens : Nat := 4

/-- `PLANKMacAuthRecord`. -/
structure Record where
  /-- Identity of the object. -/
  serial : Nat
  /-- Peer that opened the conversation. -/
  peer : Peer
  /-- Name to verify; cleared once verified. -/
  username : Option (List UInt8)
  /-- Second from which the record is expired. -/
  expires : Nat
  /-- Graphical scope the record is bound to. -/
  scope : GraphicalIdentity
  /-- Verified account; zero before verification. -/
  account : AccountIdentity := {}
  deriving DecidableEq, Repr

/-- `PLANKMacStreamLease`. -/
structure Lease where
  /-- Key of the transport endpoint. -/
  transportToken : Option Text := none
  /-- Record of the claimed token. -/
  record : Option Record := none
  /-- Token the lease was claimed with. -/
  claimedToken : Option Text := none
  /-- Second from which a lease that is not active is over. -/
  activateBefore : Nat := 0
  /-- Whether the lease was activated. -/
  active : Bool := false
  deriving DecidableEq, Repr

/-- The instance variables of `PLANKMacAuthenticationSession`, with its objects. -/
structure State where
  /-- Open conversations. -/
  pending : List (Text × Record) := []
  /-- Setup tokens that were not claimed yet. -/
  tokens : List (Text × Record) := []
  /-- The current lease. -/
  lease : Option Nat := none
  /-- Every lease object; one that was never issued is blank. -/
  leases : Nat → Lease := fun _ => {}
  /-- The lock-free flag. -/
  hasStreamLease : Bool := false
  /-- Number of revocations of everything; a 64-bit counter in the source. -/
  revocationGeneration : Nat := 0
  /-- Whether a verification is in flight. -/
  verifying : Bool := false
  /-- Token reserved for a takeover. -/
  takeoverToken : Option Text := none
  /-- Second from which the reservation is over. -/
  takeoverDeadline : Nat := 0
  /-- Number of records allocated. -/
  records : Nat := 0
  /-- Number of leases issued. -/
  issued : Nat := 0

/-- What `start` and `respond` answer. -/
inductive Response where
  /-- Terminal rejection. -/
  | denied
  /-- Temporary unavailability, also while the desktop is handed over. -/
  | busy
  /-- A conversation was opened. -/
  | challenge (conversation : Text)
  /-- A setup token was issued; `greeter` is whether the scope is the sign-in screen. -/
  | authenticated (token : Text) (greeter : Bool)
  deriving DecidableEq, Repr

/-- `PLANKMacAuthenticationResult`. -/
inductive Verdict where
  /-- The password was rejected. -/
  | denied
  /-- The password is right. -/
  | verified
  /-- The verifier could not answer. -/
  | unavailable
  deriving DecidableEq, Repr

/-- `validPeer`; nothing stands for an object that is not data. -/
def validPeer (peer : Option Peer) : Bool :=
  peer.any fun bytes => bytes.length = 4 || bytes.length = 16

namespace State

/-- `endStreamLease`. -/
def endStreamLease (state : State) (lease : Option Nat) : State :=
  match lease with
  | none => state
  | some lease =>
    if state.lease ≠ some lease then state
    else
      { state with
        lease := none
        leases := fun other =>
          if other = lease then
            { state.leases lease with
              active := false, transportToken := none, claimedToken := none, record := none }
          else state.leases other
        hasStreamLease := false }

/-- Whether `prune` keeps an entry of either table. -/
def keeps (now : Nat) (current : GraphicalIdentity) (entry : Text × Record) : Bool :=
  !(entry.2.expires ≤ now || !sameScope entry.2.scope current)

/-- Whether `prune` ends a lease. -/
def leaseOver (now : Nat) (current : GraphicalIdentity) (lease : Lease) : Bool :=
  (!lease.active && lease.activateBefore ≤ now) ||
    !(lease.record.any fun record => mayAttach record.account record.scope current)

/-- `prune`, at one reading of the clock and of the snapshot. -/
def prune (state : State) (now : Nat) (current : GraphicalIdentity) : State :=
  let tokens := state.tokens.filter (keeps now current)
  let state := { state with
    pending := state.pending.filter (keeps now current)
    tokens
    takeoverToken := state.takeoverToken.filter fun token =>
      !(now ≥ state.takeoverDeadline || (tokens.lookup token).isNone) }
  if state.lease.any fun lease => leaseOver now current (state.leases lease) then
    state.endStreamLease state.lease
  else state

/-- `startForPeer`. -/
def start (state : State) (peer : Option Peer) (username : Option (List UInt8)) (now : Nat)
    (current : GraphicalIdentity) (later : Nat) (random : Option Text) : State × Response :=
  match peer, username with
  | some peer, some name =>
    if !validPeer peer || name = [] || name.length > 255 || name.contains 0 then (state, .denied)
    else
      let state := state.prune now current
      if state.pending.length ≥ maximumPendingChallenges then (state, .busy)
      else if !current.valid then (state, .busy)
      else
        match random with
        | none => (state, .denied)
        | some conversation =>
          if (state.pending.lookup conversation).isSome then (state, .denied)
          else
            ({ state with
              records := state.records + 1
              pending := (conversation, {
                serial := state.records
                peer
                username := some name
                expires := later + 120
                scope := current }) :: state.pending }, .challenge conversation)
  | _, _ => (state, .denied)

/-- Outcome of the first block of `respondForPeer`. -/
inductive Opening where
  /-- The response is answered at once. -/
  | answered (response : Response)
  /-- The account of this record is to be verified; with the revocation generation read. -/
  | verify (record : Record) (generation : Nat)
  deriving DecidableEq, Repr

/-- The first block of `respondForPeer`: the conversation is consumed before verification. -/
def respond (state : State) (peer : Option Peer) (conversation : Option Text) (now : Nat)
    (current : GraphicalIdentity) (later : Nat) : State × Opening :=
  match peer, conversation with
  | some peer, some conversation =>
    if !validPeer peer || conversation.length ≠ 44 then (state, .answered .denied)
    else
      -- the record is looked up before pruning, to tell a scope change from a denial
      let found := state.pending.lookup conversation
      let state := state.prune now current
      if found.any fun record => record.peer ≠ peer then (state, .answered .denied)
      else if !current.valid then (state, .answered .busy)
      else
        match found with
        | none => (state, .answered .denied)
        | some record =>
          if record.expires ≤ later then (state, .answered .denied)
          else if !sameScope record.scope current then (state, .answered .busy)
          else
            let state := { state with pending := state.pending.filter (·.1 ≠ conversation) }
            if state.verifying then (state, .answered .busy)
            else
              ({ state with verifying := true }, .verify record state.revocationGeneration)
  | _, _ => (state, .answered .denied)

/-- Whether a token is unused setup of the same verified account and peer, and not reserved. -/
def superseded (state : State) (peer : Peer) (account : AccountIdentity)
    (entry : Text × Record) : Bool :=
  some entry.1 ≠ state.takeoverToken && entry.2.peer = peer &&
    entry.2.account.uid = account.uid && entry.2.account.uuid = account.uuid

/-- The second block of `respondForPeer`, after the verifier answered. -/
def respondVerified (state : State) (peer : Peer) (record : Record) (generation : Nat)
    (verdict : Verdict) (account : AccountIdentity) (now : Nat) (current : GraphicalIdentity)
    (later : Nat) (random : Option Text) : State × Response :=
  let state := state.prune now current
  if verdict ≠ .verified ∧ verdict ≠ .unavailable then (state, .denied)
  else if !sameScope record.scope current then (state, .busy)
  else if generation ≠ state.revocationGeneration then (state, .denied)
  else if verdict = .unavailable then (state, .busy)
  else if !mayAttach account record.scope current then (state, .denied)
  else
    let replaced := state.tokens.filter (state.superseded peer account)
    if state.tokens.length - replaced.length ≥ maximumSetupTokens then (state, .busy)
    else
      match random with
      | none => (state, .denied)
      | some token =>
        if (state.tokens.lookup token).isSome then (state, .denied)
        else
          ({ state with
            tokens := (token, { record with account, username := none, expires := later + 300 }) ::
              state.tokens.filter fun entry => !state.superseded peer account entry },
            .authenticated token (record.scope.phase = .signIn))

/-- The `@finally` block of `respondForPeer`. -/
def respondFinally (state : State) : State := { state with verifying := false }

/-- `authorizeToken`; `identity` is whether the output pointer is not null, `again` the snapshot
read after pruning. -/
def authorizeToken (state : State) (token : Option Text) (peer : Option Peer) (identity : Bool)
    (now : Nat) (current again : GraphicalIdentity) : State × Option Record :=
  match token, peer with
  | some token, some peer =>
    if !identity || !validPeer peer || token.length ≠ 44 then (state, none)
    else
      let state := state.prune now current
      match state.tokens.lookup token with
      | none => (state, none)
      | some record =>
        if record.peer ≠ peer || !mayAttach record.account record.scope again then (state, none)
        else (state, some record)
  | _, _ => (state, none)

/-- `revokeAll`. -/
def revokeAll (state : State) : State :=
  let state := { state with
    revocationGeneration := state.revocationGeneration + 1
    pending := []
    tokens := []
    takeoverToken := none }
  state.endStreamLease state.lease

/-- `revokeToken`. -/
def revokeToken (state : State) (token : Option Text) : State :=
  match token with
  | none => state
  | some token =>
    let state := { state with
      takeoverToken := state.takeoverToken.filter (· ≠ token)
      tokens := state.tokens.filter (·.1 ≠ token) }
    if state.lease.any fun lease => (state.leases lease).claimedToken = some token then
      state.endStreamLease state.lease
    else state

/-- `claimToken`: the lease issued, if any. The token is authorized under its own pruning. -/
def claimToken (state : State) (token : Option Text) (peer : Option Peer) (now : Nat)
    (current : GraphicalIdentity) (inner : Nat) (second again : GraphicalIdentity) (later : Nat)
    (random : Option Text) : State × Option Nat :=
  let state := state.prune now current
  if state.lease.isSome then (state, none)
  else
    let (state, authorized) := state.authorizeToken token peer true inner second again
    match authorized, token, random with
    | some record, some token, some transportToken =>
      if transportToken = token then (state, none)
      else
        ({ state with
          issued := state.issued + 1
          leases := fun other =>
            if other = state.issued then {
              record := some record
              claimedToken := some token
              transportToken := some transportToken
              activateBefore := later + 15 }
            else state.leases other
          tokens := state.tokens.filter (·.1 ≠ token)
          lease := some state.issued
          hasStreamLease := true }, some state.issued)
    | _, _, _ => (state, none)

/-- `activateStreamLease`. -/
def activateStreamLease (state : State) (lease : Option Nat) (now : Nat)
    (current : GraphicalIdentity) : State × Bool :=
  let state := state.prune now current
  match lease with
  | none => (state, false)
  | some lease =>
    if state.lease ≠ some lease || (state.leases lease).active then (state, false)
    else
      ({ state with
        leases := fun other =>
          if other = lease then { state.leases lease with active := true }
          else state.leases other }, true)

/-- The guard `authorizeStreamLease` and `performWithStreamLease` share: the lease is the current
one and it is active. `wanted` is whether the output pointer or the action is not null. -/
def authorizeStreamLease (state : State) (lease : Option Nat) (wanted : Bool) (now : Nat)
    (current : GraphicalIdentity) : State × Bool :=
  let state := state.prune now current
  (state, wanted && lease.any fun lease => state.lease = some lease && (state.leases lease).active)

/-- `performWithStreamLease`: whether the action runs. -/
def performWithStreamLease (state : State) (lease : Option Nat) (action : Bool) (now : Nat)
    (current : GraphicalIdentity) : State × Bool :=
  state.authorizeStreamLease lease action now current

/-- `authorizeTakeoverToken`: the token must name the account of this very lease. -/
def authorizeTakeoverToken (state : State) (token : Option Text) (peer : Option Peer)
    (lease : Option Nat) (now : Nat) (current again : GraphicalIdentity) :
    State × Option Record :=
  let (state, authorized) := state.authorizeToken token peer true now current again
  (state, authorized.filter fun record => lease.any fun lease =>
    state.lease = some lease && (state.leases lease).record.any fun held =>
      record.account.uid = held.account.uid && record.account.uuid = held.account.uuid)

/-- `reserveTakeoverToken`. -/
def reserveTakeoverToken (state : State) (token : Option Text) (peer : Option Peer)
    (lease : Option Nat) (now : Nat) (current again : GraphicalIdentity) (later : Nat) :
    State × Option Record :=
  let (state, authorized) := state.authorizeTakeoverToken token peer lease now current again
  if authorized.isNone || (state.takeoverToken.isSome && state.takeoverToken ≠ token) then
    (state, none)
  else ({ state with takeoverToken := token, takeoverDeadline := later + 15 }, authorized)

end State

end Plank.Auth
