import Mathlib.Data.List.Basic
import Plank.Auth.Session

/-!
# What one call of the authentication session can do

One inversion lemma per call. Every call that looks at the tables prunes first, so each effect
is stated from the pruned session.
-/

namespace Plank.Auth

namespace State

/-- Ending a lease leaves everything but the lease. -/
theorem endStreamLease_frame (state : State) (lease : Option Nat) :
    ∃ current leases hasStreamLease, state.endStreamLease lease = { state with
      lease := current, leases, hasStreamLease } := by
  unfold endStreamLease
  split
  · exact ⟨_, _, _, rfl⟩
  · split
    · exact ⟨_, _, _, rfl⟩
    · exact ⟨_, _, _, rfl⟩

/-- Ending the current lease leaves none. -/
theorem endStreamLease_current (state : State) :
    (state.endStreamLease state.lease).lease = none := by
  cases held : state.lease with
  | none => simp [endStreamLease, held]
  | some lease => simp [endStreamLease, held]

/-- Revoking everything empties both tables and ends the lease. -/
theorem revokeAll_effect (state : State) :
    ∃ leases hasStreamLease, state.revokeAll = { state with
      revocationGeneration := state.revocationGeneration + 1
      pending := []
      tokens := []
      takeoverToken := none
      lease := none, leases, hasStreamLease } ∧
      ({ state with
        pending := []
        tokens := []
        takeoverToken := none } : State).endStreamLease state.lease =
        { state with
          pending := []
          tokens := []
          takeoverToken := none
          lease := none, leases, hasStreamLease } := by
  unfold revokeAll endStreamLease
  cases held : state.lease with
  | none => exact ⟨_, _, rfl, rfl⟩
  | some lease =>
    let object := state.leases lease
    refine ⟨fun other => if other = lease then { object with
      active := false, transportToken := none, claimedToken := none, record := none }
      else state.leases other, false, ?_, ?_⟩
    · simp [object]
    · simp [object]

/-- The tables, the reservation and the counters after pruning. -/
theorem prune_frame (state : State) (now : Nat) (current : GraphicalIdentity) :
    ∃ lease leases hasStreamLease, state.prune now current = { state with
      pending := state.pending.filter (keeps now current)
      tokens := state.tokens.filter (keeps now current)
      takeoverToken := state.takeoverToken.filter fun token =>
        !(now ≥ state.takeoverDeadline ||
          ((state.tokens.filter (keeps now current)).lookup token).isNone)
      lease, leases, hasStreamLease } := by
  unfold prune
  dsimp only
  split
  · obtain ⟨lease, leases, hasStreamLease, frame⟩ := endStreamLease_frame { state with
      pending := state.pending.filter (keeps now current)
      tokens := state.tokens.filter (keeps now current)
      takeoverToken := state.takeoverToken.filter fun token =>
        !(now ≥ state.takeoverDeadline ||
          ((state.tokens.filter (keeps now current)).lookup token).isNone) } state.lease
    exact ⟨lease, leases, hasStreamLease, frame⟩
  · exact ⟨_, _, _, rfl⟩

/-- A lease that survived pruning is neither late nor without a record that may attach. -/
theorem prune_lease {state : State} {now : Nat} {current : GraphicalIdentity} {lease : Nat}
    (standing : (state.prune now current).lease = some lease) :
    leaseOver now current ((state.prune now current).leases lease) = false := by
  unfold prune at standing ⊢
  dsimp only at standing ⊢
  split
  · next past =>
    rw [if_pos past] at standing
    cases held : state.lease with
    | none => simp [held] at past
    | some held' => simp [endStreamLease, held] at standing
  · next kept =>
    rw [if_neg kept] at standing
    have same : state.lease = some lease := standing
    rw [same] at kept
    simpa using kept

/-- The effects of `startForPeer`. -/
inductive Started (before pruned : State) (current : GraphicalIdentity) : State → Prop where
  /-- The request is malformed. -/
  | malformed : Started before pruned current before
  /-- No conversation was opened. -/
  | refused : Started before pruned current pruned
  /-- A conversation was opened in the current scope. -/
  | opened (conversation : Text) (record : Record)
    (room : pruned.pending.length < maximumPendingChallenges)
    (fresh : record.serial = pruned.records) (scope : record.scope = current) :
    Started before pruned current
      { pruned with
        records := pruned.records + 1, pending := (conversation, record) :: pruned.pending }

/-- `startForPeer` has one of its effects. -/
theorem start_effect (state : State) (peer : Option Peer) (username : Option (List UInt8))
    (now : Nat) (current : GraphicalIdentity) (later : Nat) (random : Option Text) :
    Started state (state.prune now current) current
      (state.start peer username now current later random).1 := by
  unfold start
  split
  · split
    · exact .malformed
    · dsimp only
      split
      · exact .refused
      · next room =>
        split
        · exact .refused
        · split
          · exact .refused
          · split
            · exact .refused
            · exact .opened _ _ (by omega) rfl rfl
  · exact .malformed

/-- The effects of the first block of `respondForPeer`. -/
inductive Responded (before pruned : State) (peer : Option Peer) : State → Opening → Prop where
  /-- The request is malformed. -/
  | malformed (response : Response) : Responded before pruned peer before (.answered response)
  /-- The conversation is not consumed. -/
  | refused (response : Response) : Responded before pruned peer pruned (.answered response)
  /-- The conversation is consumed while another response is verified. -/
  | wasted (conversation : Text) (response : Response) (busy : pruned.verifying = true) :
    Responded before pruned peer
      { pruned with pending := pruned.pending.filter (·.1 ≠ conversation) }
      (.answered response)
  /-- The conversation is consumed and its account is to be verified. -/
  | verifying (conversation : Text) (record : Record)
    (member : (conversation, record) ∈ pruned.pending) (same : peer = some record.peer)
    (free : pruned.verifying = false) :
    Responded before pruned peer
      { pruned with pending := pruned.pending.filter (·.1 ≠ conversation), verifying := true }
      (.verify record pruned.revocationGeneration)

/-- A table entry found by its key is an entry. -/
theorem mem_of_lookup {table : List (Text × Record)} {key : Text} {record : Record}
    (found : table.lookup key = some record) : (key, record) ∈ table := by
  obtain ⟨before, after, split, _⟩ := List.lookup_eq_some_iff.mp found
  rw [split]
  exact List.mem_append_right _ List.mem_cons_self

/-- An entry the two readings of the clock and the snapshot find usable is kept by pruning. -/
theorem mem_pruned_pending {state : State} {now later : Nat} {current : GraphicalIdentity}
    {conversation : Text} {record : Record}
    (found : state.pending.lookup conversation = some record)
    (forward : now ≤ later) (unexpired : ¬ record.expires ≤ later)
    (inScope : sameScope record.scope current = true) :
    (conversation, record) ∈ (state.prune now current).pending := by
  have kept : keeps now current (conversation, record) = true := by
    have young : ¬ record.expires ≤ now := by omega
    simp [keeps, inScope, young]
  obtain ⟨_, _, _, frame⟩ := state.prune_frame now current
  rw [frame]
  exact List.mem_filter.mpr ⟨mem_of_lookup found, kept⟩

/-- The first block of `respondForPeer` has one of its effects. -/
theorem respond_effect (state : State) (peer : Option Peer) (conversation : Option Text)
    (now : Nat) (current : GraphicalIdentity) (later : Nat) (forward : now ≤ later) :
    Responded state (state.prune now current) peer
      (state.respond peer conversation now current later).1
      (state.respond peer conversation now current later).2 := by
  unfold respond
  split
  · next peer conversation =>
    split
    · exact .malformed _
    · dsimp only
      split
      · exact .refused _
      · next same =>
        split
        · exact .refused _
        · split
          · exact .refused _
          · next record found =>
            split
            · exact .refused _
            · next unexpired =>
              split
              · exact .refused _
              · next inScope =>
                have known : sameScope record.scope current = true := by simpa using inScope
                have member := mem_pruned_pending found forward unexpired known
                have caller : record.peer = peer := by simpa [found] using same
                split
                · next busy => exact .wasted conversation _ busy
                · next free =>
                  exact .verifying conversation record member (by rw [caller]) (by simpa using free)
  · exact .malformed _

/-- The effects of the second block of `respondForPeer`. -/
inductive Decided (pruned : State) (peer : Peer) (record : Record) (generation : Nat)
    (verdict : Verdict) (account : AccountIdentity) (current : GraphicalIdentity) :
    State → Response → Prop where
  /-- No token is issued. -/
  | refused (response : Response)
    (refusal : ∀ token greeter, response ≠ .authenticated token greeter) :
    Decided pruned peer record generation verdict account current pruned response
  /-- A token is issued, and may replace others of the same account and peer. -/
  | issued (token : Text) (expires : Nat) (greeter : Bool) (confirmed : verdict = .verified)
    (unrevoked : generation = pruned.revocationGeneration)
    (attaches : mayAttach account record.scope current = true)
    (room : (pruned.tokens.filter fun entry => !pruned.superseded peer account entry).length <
      maximumSetupTokens)
    (fresh : pruned.tokens.lookup token = none) :
    Decided pruned peer record generation verdict account current
      { pruned with
        tokens := (token, { record with account, username := none, expires }) ::
          pruned.tokens.filter fun entry => !pruned.superseded peer account entry }
      (.authenticated token greeter)

/-- The second block of `respondForPeer` has one of its effects. -/
theorem respondVerified_effect (state : State) (peer : Peer) (record : Record) (generation : Nat)
    (verdict : Verdict) (account : AccountIdentity) (now : Nat) (current : GraphicalIdentity)
    (later : Nat) (random : Option Text) :
    Decided (state.prune now current) peer record generation verdict account current
      (state.respondVerified peer record generation verdict account now current later random).1
      (state.respondVerified peer record generation verdict account now current later
        random).2 := by
  unfold respondVerified
  dsimp only
  split
  · exact .refused _ (by simp)
  · next answered =>
    split
    · exact .refused _ (by simp)
    · split
      · exact .refused _ (by simp)
      · next unrevoked =>
        split
        · exact .refused _ (by simp)
        · next available =>
          split
          · exact .refused _ (by simp)
          · next attaches =>
            split
            · exact .refused _ (by simp)
            · next room =>
              split
              · exact .refused _ (by simp)
              · next token =>
                split
                · exact .refused _ (by simp)
                · next fresh =>
                  have confirmed : verdict = .verified := by
                    cases verdict <;> simp_all
                  have counted := List.length_eq_length_filter_add
                    (l := (state.prune now current).tokens)
                    ((state.prune now current).superseded peer account)
                  refine .issued token _ _ confirmed (by simpa using unrevoked)
                    (by simpa using attaches) ?_ (Option.not_isSome_iff_eq_none.mp fresh)
                  omega

/-- The effects of a call that presents a token. -/
inductive Authorized (before pruned : State) (token : Option Text) (peer : Option Peer)
    (again : GraphicalIdentity) : State → Option Record → Prop where
  /-- The request is malformed. -/
  | malformed : Authorized before pruned token peer again before none
  /-- The token is not accepted. -/
  | refused : Authorized before pruned token peer again pruned none
  /-- The token is accepted. -/
  | accepted (text : Text) (record : Record) (named : token = some text)
    (caller : peer = some record.peer) (member : (text, record) ∈ pruned.tokens)
    (attaches : mayAttach record.account record.scope again = true) :
    Authorized before pruned token peer again pruned (some record)

/-- `authorizeToken` has one of these effects. -/
theorem authorizeToken_effect (state : State) (token : Option Text) (peer : Option Peer)
    (identity : Bool) (now : Nat) (current again : GraphicalIdentity) :
    Authorized state (state.prune now current) token peer again
      (state.authorizeToken token peer identity now current again).1
      (state.authorizeToken token peer identity now current again).2 := by
  unfold authorizeToken
  split
  · next text peer =>
    split
    · exact .malformed
    · dsimp only
      split
      · exact .refused
      · next record found =>
        split
        · exact .refused
        · next passed =>
          simp only [Bool.or_eq_true, decide_eq_true_eq, not_or, not_not, Bool.not_eq_true',
            Bool.not_eq_false] at passed
          exact .accepted text record rfl (by rw [passed.1]) (mem_of_lookup found) passed.2
  · exact .malformed

/-- A successful authorization may still be withheld. -/
theorem Authorized.withheld {before pruned after : State} {token : Option Text}
    {peer : Option Peer} {again : GraphicalIdentity} {record : Option Record}
    (authorized : Authorized before pruned token peer again after record) :
    Authorized before pruned token peer again after none := by
  cases authorized with
  | malformed => exact .malformed
  | refused => exact .refused
  | accepted text record named caller member attaches => exact .refused

/-- `authorizeTakeoverToken` has one of these effects. -/
theorem authorizeTakeoverToken_effect (state : State) (token : Option Text) (peer : Option Peer)
    (lease : Option Nat) (now : Nat) (current again : GraphicalIdentity) :
    Authorized state (state.prune now current) token peer again
      (state.authorizeTakeoverToken token peer lease now current again).1
      (state.authorizeTakeoverToken token peer lease now current again).2 := by
  have authorized := state.authorizeToken_effect token peer true now current again
  unfold authorizeTakeoverToken
  dsimp only
  cases found : (state.authorizeToken token peer true now current again).2 with
  | none =>
    rw [found] at authorized
    exact authorized
  | some record =>
    rw [found] at authorized
    rw [Option.filter_some]
    split
    · exact authorized
    · exact authorized.withheld

/-- A takeover is authorized only while its lease is the current one. -/
theorem authorizeTakeoverToken_current {state : State} {token : Option Text} {peer : Option Peer}
    {lease now : Nat} {current again : GraphicalIdentity}
    (authorized : (state.authorizeTakeoverToken token peer (some lease) now current
      again).2.isSome) :
    (state.authorizeTakeoverToken token peer (some lease) now current again).1.lease =
      some lease := by
  unfold authorizeTakeoverToken at authorized ⊢
  dsimp only at authorized ⊢
  obtain ⟨record, kept⟩ := Option.isSome_iff_exists.mp authorized
  have standing := (Option.filter_eq_some_iff.mp kept).2
  rw [Option.any_some, Bool.and_eq_true, decide_eq_true_eq] at standing
  exact standing.1

/-- The effects of `reserveTakeoverToken`. -/
inductive Reserved (before pruned : State) (token : Option Text) (peer : Option Peer)
    (again : GraphicalIdentity) : State → Option Record → Prop where
  /-- Nothing is reserved. -/
  | refused (after : State) (authorized : Authorized before pruned token peer again after none) :
    Reserved before pruned token peer again after none
  /-- An accepted token is reserved. -/
  | reserved (record : Record) (deadline : Nat)
    (authorized : Authorized before pruned token peer again pruned (some record)) :
    Reserved before pruned token peer again
      { pruned with takeoverToken := token, takeoverDeadline := deadline } (some record)

/-- `reserveTakeoverToken` has one of its effects. -/
theorem reserveTakeoverToken_effect (state : State) (token : Option Text) (peer : Option Peer)
    (lease : Option Nat) (now : Nat) (current again : GraphicalIdentity) (later : Nat) :
    Reserved state (state.prune now current) token peer again
      (state.reserveTakeoverToken token peer lease now current again later).1
      (state.reserveTakeoverToken token peer lease now current again later).2 := by
  have authorized := state.authorizeTakeoverToken_effect token peer lease now current again
  unfold reserveTakeoverToken
  generalize state.authorizeTakeoverToken token peer lease now current again = outcome
    at authorized ⊢
  obtain ⟨after, record⟩ := outcome
  dsimp only at authorized ⊢
  split
  · exact .refused after authorized.withheld
  · next passed =>
    simp only [Bool.or_eq_true, not_or, Option.isNone_iff_eq_none] at passed
    obtain ⟨record, rfl⟩ := Option.ne_none_iff_exists'.mp passed.1
    cases authorized with
    | accepted text _ named caller member attaches =>
      exact .reserved record _ (.accepted text record named caller member attaches)

/-- The effects of `claimToken`, after both prunings. -/
inductive Claimed (first second : State) (token : Option Text) (peer : Option Peer)
    (again : GraphicalIdentity) : State → Option Nat → Prop where
  /-- No lease is issued. -/
  | refused (after : State) (looked : after = first ∨ after = second) :
    Claimed first second token peer again after none
  /-- The token becomes a lease. -/
  | issued (text : Text) (record : Record) (transportToken : Text) (activateBefore : Nat)
    (free : second.lease = none) (named : token = some text) (caller : peer = some record.peer)
    (member : (text, record) ∈ second.tokens)
    (attaches : mayAttach record.account record.scope again = true) :
    Claimed first second token peer again
      { second with
        issued := second.issued + 1
        leases := fun other =>
          if other = second.issued then {
            record := some record
            claimedToken := some text
            transportToken := some transportToken
            activateBefore }
          else second.leases other
        tokens := second.tokens.filter (·.1 ≠ text)
        lease := some second.issued
        hasStreamLease := true } (some second.issued)

/-- Pruning never finds a lease. -/
theorem prune_no_lease {state : State} (free : state.lease = none) (now : Nat)
    (current : GraphicalIdentity) : (state.prune now current).lease = none := by
  unfold prune
  simp [free]

/-- `claimToken` has one of its effects. -/
theorem claimToken_effect (state : State) (token : Option Text) (peer : Option Peer) (now : Nat)
    (current : GraphicalIdentity) (inner : Nat) (second again : GraphicalIdentity) (later : Nat)
    (random : Option Text) :
    Claimed (state.prune now current) ((state.prune now current).prune inner second) token peer
      again (state.claimToken token peer now current inner second again later random).1
      (state.claimToken token peer now current inner second again later random).2 := by
  have authorized := (state.prune now current).authorizeToken_effect token peer true inner second
    again
  unfold claimToken
  dsimp only
  split
  · exact .refused _ (.inl rfl)
  · next free =>
    generalize (state.prune now current).authorizeToken token peer true inner second again =
      outcome at authorized ⊢
    obtain ⟨after, record⟩ := outcome
    dsimp only at authorized ⊢
    have looked : after = state.prune now current ∨
        after = (state.prune now current).prune inner second := by
      cases authorized with
      | malformed => exact .inl rfl
      | refused => exact .inr rfl
      | accepted text record named caller member attaches => exact .inr rfl
    split
    · next record text transportToken =>
      split
      · exact .refused _ looked
      · cases authorized with
        | accepted _ _ named caller member attaches =>
          obtain rfl := Option.some.inj named
          have empty := prune_no_lease (Option.not_isSome_iff_eq_none.mp free) inner second
          exact .issued text record transportToken _ empty rfl caller member attaches
    · exact .refused _ looked

/-- `activateStreamLease` prunes, and activates the current lease if it is the one named. -/
theorem activateStreamLease_effect (state : State) (lease : Option Nat) (now : Nat)
    (current : GraphicalIdentity) :
    state.activateStreamLease lease now current = (state.prune now current, false) ∨
      ∃ named, lease = some named ∧ (state.prune now current).lease = some named ∧
        state.activateStreamLease lease now current =
          ({ state.prune now current with
            leases := fun other =>
              if other = named then
                { (state.prune now current).leases named with active := true }
              else (state.prune now current).leases other }, true) := by
  unfold activateStreamLease
  cases lease with
  | none => exact .inl rfl
  | some named =>
    dsimp only
    split
    · exact .inl rfl
    · next passed =>
      simp only [Bool.or_eq_true, decide_eq_true_eq, not_or, not_not] at passed
      exact .inr ⟨named, rfl, passed.1, rfl⟩

/-- A lease is accepted only while it is the current one and active. -/
theorem authorizeStreamLease_effect {state : State} {lease : Option Nat} {wanted : Bool}
    {now : Nat} {current : GraphicalIdentity}
    (accepted : (state.authorizeStreamLease lease wanted now current).2 = true) :
    ∃ named, lease = some named ∧ (state.prune now current).lease = some named ∧
      ((state.prune now current).leases named).active = true := by
  cases lease with
  | none => simp [authorizeStreamLease] at accepted
  | some named =>
    simp only [authorizeStreamLease, Option.any_some, Bool.and_eq_true,
      decide_eq_true_eq] at accepted
    exact ⟨named, rfl, accepted.2.1, accepted.2.2⟩

end State

end Plank.Auth
