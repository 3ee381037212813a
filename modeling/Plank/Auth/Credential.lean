import Plank.Auth.Authority

/-!
# Where a token can still be found

A token is issued for one conversation, so the conversation tells two tokens of the same text
apart and no assumption on the randomness is needed. While the session lives, a token is in the
table under its own text or is the lease that was claimed with that text. Once both are gone no
later call brings the token back.
-/

namespace Plank.Auth

/-- A token and the conversation it was issued for. -/
structure Credential where
  /-- Text of the token. -/
  token : Text
  /-- Serial of the conversation's record. -/
  serial : Nat
  deriving DecidableEq, Repr

namespace State

/-- The session holds a conversation's token under this text, as a token or as a lease. -/
def Holds (state : State) (token : Text) (serial : Nat) : Prop :=
  (∃ record, (token, record) ∈ state.tokens ∧ record.serial = serial) ∨
    ∃ lease record, state.lease = some lease ∧ (state.leases lease).record = some record ∧
      record.serial = serial ∧ (state.leases lease).claimedToken = some token

/-- No conversation, no token and no lease. -/
structure Empty (state : State) : Prop where
  /-- No conversation is pending. -/
  pending : state.pending = []
  /-- No token is outstanding. -/
  tokens : state.tokens = []
  /-- No lease is current. -/
  lease : state.lease = none

/-- Fewer tokens and no lease but the former one hold nothing more. -/
theorem Holds.of_frame {before after : State} {token : Text} {serial : Nat}
    (held : after.Holds token serial) (tokens : ∀ entry ∈ after.tokens, entry ∈ before.tokens)
    (lease : ∀ lease, after.lease = some lease → before.lease = some lease ∧
      (after.leases lease).record = (before.leases lease).record ∧
      (after.leases lease).claimedToken = (before.leases lease).claimedToken) :
    before.Holds token serial := by
  rcases held with ⟨record, member, same⟩ | ⟨current, record, standing, held, same, claimed⟩
  · exact .inl ⟨record, tokens _ member, same⟩
  · obtain ⟨former, records, texts⟩ := lease current standing
    exact .inr ⟨current, record, former, records ▸ held, same, texts ▸ claimed⟩

/-- A lease that stands after another was ended stood before, and is unchanged. -/
theorem endStreamLease_standing {state : State} {ended : Option Nat} {lease : Nat}
    (standing : (state.endStreamLease ended).lease = some lease) :
    state.endStreamLease ended = state := by
  unfold endStreamLease at standing ⊢
  split at standing
  · rfl
  · split at standing
    · next other => rw [if_pos other]
    · simp at standing

/-- Ending a lease brings no token back. -/
theorem Holds.of_endStreamLease {state : State} {ended : Option Nat} {token : Text} {serial : Nat}
    (held : (state.endStreamLease ended).Holds token serial) : state.Holds token serial := by
  obtain ⟨_, _, _, frame⟩ := state.endStreamLease_frame ended
  refine held.of_frame ?_ ?_
  · rw [frame]
    exact fun entry member => member
  · intro lease standing
    have unchanged := endStreamLease_standing standing
    rw [unchanged] at standing ⊢
    exact ⟨standing, rfl, rfl⟩

/-- Pruning brings no token back. -/
theorem Holds.of_prune {state : State} {now : Nat} {current : GraphicalIdentity} {token : Text}
    {serial : Nat} (held : (state.prune now current).Holds token serial) :
    state.Holds token serial := by
  unfold prune at held
  dsimp only at held
  split at held
  · exact (Holds.of_endStreamLease held).of_frame
      (fun entry member => (List.mem_filter.mp member).1) fun lease standing =>
        ⟨standing, rfl, rfl⟩
  · exact held.of_frame (fun entry member => (List.mem_filter.mp member).1)
      fun lease standing => ⟨standing, rfl, rfl⟩

/-- Nothing empty is filled by pruning. -/
theorem Empty.prune {state : State} (empty : state.Empty) (now : Nat)
    (current : GraphicalIdentity) : (state.prune now current).Empty := by
  have released := prune_no_lease empty.lease now current
  obtain ⟨_, _, _, frame⟩ := state.prune_frame now current
  refine ⟨?_, ?_, released⟩
  · rw [frame]
    simp [empty.pending]
  · rw [frame]
    simp [empty.tokens]

/-- Nothing empty is filled by ending a lease. -/
theorem Empty.endStreamLease {state : State} (empty : state.Empty) (lease : Option Nat) :
    (state.endStreamLease lease).Empty := by
  unfold State.endStreamLease
  split
  · exact empty
  · split
    · exact empty
    · exact ⟨empty.pending, empty.tokens, rfl⟩

/-- Revoking everything leaves the session empty. -/
theorem revokeAll_empty (state : State) : state.revokeAll.Empty := by
  obtain ⟨_, _, revoked, _⟩ := state.revokeAll_effect
  rw [revoked]
  exact ⟨rfl, rfl, rfl⟩

/-- Nothing empty is filled by revoking a token. -/
theorem Empty.revokeToken {state : State} (empty : state.Empty) (token : Option Text) :
    (state.revokeToken token).Empty := by
  unfold State.revokeToken
  split
  · exact empty
  · next token =>
    have dropped : Empty { state with
        takeoverToken := state.takeoverToken.filter (· ≠ token)
        tokens := state.tokens.filter (·.1 ≠ token) } :=
      ⟨empty.pending, by simp [empty.tokens], empty.lease⟩
    dsimp only
    split
    · exact dropped.endStreamLease _
    · exact dropped

/-- Revoking a token brings none back. -/
theorem Holds.of_revokeToken {state : State} {revoked : Option Text} {token : Text} {serial : Nat}
    (held : (state.revokeToken revoked).Holds token serial) : state.Holds token serial := by
  unfold State.revokeToken at held
  split at held
  · exact held
  · dsimp only at held
    split at held
    · exact (Holds.of_endStreamLease held).of_frame
        (fun entry member => (List.mem_filter.mp member).1) fun lease standing =>
          ⟨standing, rfl, rfl⟩
    · exact held.of_frame (fun entry member => (List.mem_filter.mp member).1)
        fun lease standing => ⟨standing, rfl, rfl⟩

/-- The token revoked is gone, as a token and as a lease. -/
theorem revokeToken_holds (state : State) (token : Text) (serial : Nat) :
    ¬ (state.revokeToken (some token)).Holds token serial := by
  intro held
  unfold State.revokeToken at held
  dsimp only at held
  split at held
  · rcases held with ⟨record, member, same⟩ | ⟨lease, record, standing, _⟩
    · obtain ⟨_, _, _, frame⟩ := State.endStreamLease_frame { state with
        takeoverToken := state.takeoverToken.filter (· ≠ token)
        tokens := state.tokens.filter (·.1 ≠ token) } state.lease
      rw [frame] at member
      simp at member
    · have cleared := State.endStreamLease_current { state with
        takeoverToken := state.takeoverToken.filter (· ≠ token)
        tokens := state.tokens.filter (·.1 ≠ token) }
      rw [cleared] at standing
      exact absurd standing (by simp)
  · next other =>
    rcases held with ⟨record, member, same⟩ | ⟨lease, record, standing, _, _, claimed⟩
    · simp at member
    · apply other
      have current : state.lease = some lease := standing
      have named : (state.leases lease).claimedToken = some token := claimed
      simp [current, named]

/-- Opening a conversation issues nothing. -/
theorem Started.holds {before pruned after : State} {current : GraphicalIdentity} {token : Text}
    {serial : Nat} (started : Started before pruned current after)
    (earlier : pruned.Holds token serial → before.Holds token serial)
    (held : after.Holds token serial) : before.Holds token serial := by
  cases started with
  | malformed => exact held
  | refused => exact earlier held
  | opened conversation record room fresh scope => exact earlier held

/-- Consuming a conversation issues nothing. -/
theorem Responded.holds {before pruned after : State} {peer : Option Peer} {opening : Opening}
    {token : Text} {serial : Nat} (responded : Responded before pruned peer after opening)
    (earlier : pruned.Holds token serial → before.Holds token serial)
    (held : after.Holds token serial) : before.Holds token serial := by
  cases responded with
  | malformed response => exact held
  | refused response => exact earlier held
  | wasted conversation response busy => exact earlier held
  | verifying conversation record member same free => exact earlier held

/-- A decided response issues at most a token of its own conversation. -/
theorem Decided.holds {pruned after : State} {peer : Peer} {record : Record} {generation : Nat}
    {verdict : Verdict} {account : AccountIdentity} {current : GraphicalIdentity}
    {answer : Response} {token : Text} {serial : Nat}
    (decided : Decided pruned peer record generation verdict account current after answer)
    (held : after.Holds token serial) :
    pruned.Holds token serial ∨ record.serial = serial := by
  cases decided with
  | refused response refusal => exact .inl held
  | issued fresh expires greeter confirmed unrevoked attaches room unused =>
    rcases held with ⟨found, member, same⟩ | leased
    · rcases List.mem_cons.mp member with new | old
      · obtain ⟨_, rfl⟩ := Prod.mk.inj new
        exact .inr same
      · exact .inl (.inl ⟨found, (List.mem_filter.mp old).1, same⟩)
    · exact .inl (.inr leased)

/-- Presenting a token issues nothing. -/
theorem Authorized.holds {before pruned after : State} {presented : Option Text}
    {peer : Option Peer} {again : GraphicalIdentity} {found : Option Record} {token : Text}
    {serial : Nat} (authorized : Authorized before pruned presented peer again after found)
    (earlier : pruned.Holds token serial → before.Holds token serial)
    (held : after.Holds token serial) : before.Holds token serial := by
  cases authorized with
  | malformed => exact held
  | refused => exact earlier held
  | accepted text record named caller member attaches => exact earlier held

/-- Reserving a token issues nothing. -/
theorem Reserved.holds {before pruned after : State} {presented : Option Text}
    {peer : Option Peer} {again : GraphicalIdentity} {found : Option Record} {token : Text}
    {serial : Nat} (reserved : Reserved before pruned presented peer again after found)
    (earlier : pruned.Holds token serial → before.Holds token serial)
    (held : after.Holds token serial) : before.Holds token serial := by
  cases reserved with
  | refused after authorized => exact authorized.holds earlier held
  | reserved record deadline authorized => exact earlier held

/-- A claim turns a token into the lease of the same conversation, under the same text. -/
theorem Claimed.holds {first second after : State} {presented : Option Text} {peer : Option Peer}
    {again : GraphicalIdentity} {issued : Option Nat} {token : Text} {serial : Nat}
    (claimed : Claimed first second presented peer again after issued)
    (held : after.Holds token serial) :
    first.Holds token serial ∨ second.Holds token serial := by
  cases claimed with
  | refused after looked =>
    rcases looked with rfl | rfl
    · exact .inl held
    · exact .inr held
  | issued text record transportToken activateBefore free named caller member attaches =>
    rcases held with ⟨found, kept, same⟩ | ⟨lease, found, standing, holds, same, texts⟩
    · exact .inr (.inl ⟨found, (List.mem_filter.mp kept).1, same⟩)
    · obtain rfl := Option.some.inj standing
      simp only [if_true, Option.some.injEq] at holds texts
      obtain rfl := holds
      obtain rfl := texts
      exact .inr (.inl ⟨record, member, same⟩)

/-- Presenting a token to an empty session fills nothing. -/
theorem Authorized.empty {before after : State} {presented : Option Text} {peer : Option Peer}
    {now : Nat} {current again : GraphicalIdentity} {found : Option Record}
    (authorized : Authorized before (before.prune now current) presented peer again after found)
    (empty : before.Empty) : after.Empty := by
  cases authorized with
  | malformed => exact empty
  | refused => exact empty.prune now current
  | accepted text record named caller member attaches => exact empty.prune now current

/-- Nor does reserving one. -/
theorem Reserved.empty {before after : State} {presented : Option Text} {peer : Option Peer}
    {now : Nat} {current again : GraphicalIdentity} {found : Option Record}
    (reserved : Reserved before (before.prune now current) presented peer again after found)
    (empty : before.Empty) : after.Empty := by
  cases reserved with
  | refused after authorized => exact authorized.empty empty
  | reserved record deadline authorized =>
    have pruned := empty.prune now current
    exact ⟨pruned.pending, pruned.tokens, pruned.lease⟩

/-- An empty session has no lease to activate. -/
theorem activateStreamLease_empty {state : State} (empty : state.Empty) (lease : Option Nat)
    (now : Nat) (current : GraphicalIdentity) :
    (state.activateStreamLease lease now current).1.Empty := by
  have pruned := empty.prune now current
  rcases state.activateStreamLease_effect lease now current with
    rejected | ⟨named, rfl, standing, accepted⟩
  · rw [rejected]
    exact pruned
  · exact absurd (pruned.lease.symm.trans standing) (by simp)

/-- Activating a lease issues nothing. -/
theorem activateStreamLease_holds {state : State} {lease : Option Nat} {now : Nat}
    {current : GraphicalIdentity} {token : Text} {serial : Nat}
    (held : (state.activateStreamLease lease now current).1.Holds token serial) :
    state.Holds token serial := by
  rcases state.activateStreamLease_effect lease now current with
    rejected | ⟨named, rfl, standing, accepted⟩
  · rw [rejected] at held
    exact held.of_prune
  · rw [accepted] at held
    have earlier : (state.prune now current).Holds token serial := by
      refine held.of_frame (fun entry member => member) ?_
      intro lease former
      refine ⟨former, ?_, ?_⟩
      · by_cases same : lease = named
        · simp [same]
        · simp [same]
      · by_cases same : lease = named
        · simp [same]
        · simp [same]
    exact earlier.of_prune

end State

namespace History

/-- A grant for a token consumes nothing. -/
@[simp] theorem grantToken_consumed (history : History) (operation : Operation)
    (record : Option Record) (scope : GraphicalIdentity) (peer : Option Peer) :
    (history.grantToken operation record scope peer).consumed = history.consumed := by
  unfold grantToken
  split
  · rfl
  · rfl

/-- A grant for a lease consumes nothing. -/
@[simp] theorem grantLease_consumed (history : History) (operation : Operation) (state : State)
    (lease : Option Nat) (succeeded : Bool) (scope : GraphicalIdentity) :
    (history.grantLease operation state lease succeeded scope).consumed = history.consumed := by
  unfold grantLease
  split
  · rfl
  · rfl

/-- A verdict consumes nothing. -/
@[simp] theorem confirm_consumed (history : History) (response : Running) (verdict : Verdict)
    (account : AccountIdentity) :
    (history.confirm response verdict account).consumed = history.consumed := by
  unfold confirm
  split
  · rfl
  · rfl

/-- An answer consumes nothing. -/
@[simp] theorem answer_consumed (history : History) (answer : Response) (state : State)
    (scope : GraphicalIdentity) (peer : Peer) :
    (history.answer answer state scope peer).consumed = history.consumed := by
  cases answer with
  | authenticated token greeter => rfl
  | denied => rfl
  | busy => rfl
  | challenge conversation => rfl

/-- A claim consumes no conversation. -/
@[simp] theorem claim_consumed (history : History) (issued : Option Nat) (state : State)
    (token : Option Text) (peer : Option Peer) :
    (history.claim issued state token peer).consumed = history.consumed := by
  unfold claim
  split
  · rfl
  · rfl

end History

namespace Session

/-- A call holds a token only if the session did, or as that of a response it decides. -/
theorem step_holds {before after : Session} {action : Action} {token : Text} {serial : Nat}
    (stepped : before.step action = some after) (held : after.state.Holds token serial) :
    before.state.Holds token serial ∨
      ∃ response ∈ before.running, response.record.serial = serial := by
  cases action with
  | start peer username wait current pause random =>
    obtain rfl := Option.some.inj stepped
    exact .inl ((before.state.start_effect peer username (before.clock + wait) current
      (before.clock + wait + pause) random).holds State.Holds.of_prune held)
  | respond peer conversation wait current pause =>
    obtain rfl := Option.some.inj stepped
    exact .inl ((before.state.respond_effect peer conversation (before.clock + wait) current
      (before.clock + wait + pause) (Nat.le_add_right _ _)).holds State.Holds.of_prune held)
  | verified index verdict account wait current pause random =>
    obtain ⟨response, chosen, rfl⟩ := Option.map_eq_some_iff.mp stepped
    rcases (before.state.respondVerified_effect response.peer response.record response.generation
      verdict account (before.clock + wait) current (before.clock + wait + pause) random).holds held
      with earlier | same
    · exact .inl earlier.of_prune
    · exact .inr ⟨response, List.mem_of_getElem? chosen, same⟩
  | raised index =>
    obtain ⟨response, chosen, rfl⟩ := Option.map_eq_some_iff.mp stepped
    exact .inl held
  | respondFinally =>
    simp only [step, Option.ite_none_left_eq_some, Option.some.injEq] at stepped
    obtain ⟨unfinished, rfl⟩ := stepped
    exact .inl held
  | authorizeToken presented peer identity wait current again =>
    obtain rfl := Option.some.inj stepped
    exact .inl ((before.state.authorizeToken_effect presented peer identity (before.clock + wait)
      current again).holds State.Holds.of_prune held)
  | claimToken presented peer wait current pause second again rest random =>
    obtain rfl := Option.some.inj stepped
    rcases (before.state.claimToken_effect presented peer (before.clock + wait) current
      (before.clock + wait + pause) second again (before.clock + wait + pause + rest)
      random).holds held with first | later
    · exact .inl first.of_prune
    · exact .inl later.of_prune.of_prune
  | activateStreamLease lease wait current =>
    obtain rfl := Option.some.inj stepped
    exact .inl (State.activateStreamLease_holds held)
  | authorizeStreamLease lease identity wait current =>
    obtain rfl := Option.some.inj stepped
    exact .inl (State.Holds.of_prune held)
  | performWithStreamLease lease action wait current =>
    obtain rfl := Option.some.inj stepped
    exact .inl (State.Holds.of_prune held)
  | authorizeTakeoverToken presented peer lease wait current again =>
    obtain rfl := Option.some.inj stepped
    exact .inl ((before.state.authorizeTakeoverToken_effect presented peer lease
      (before.clock + wait) current again).holds State.Holds.of_prune held)
  | reserveTakeoverToken presented peer lease wait current again pause =>
    obtain rfl := Option.some.inj stepped
    exact .inl ((before.state.reserveTakeoverToken_effect presented peer lease
      (before.clock + wait) current again (before.clock + wait + pause)).holds
      State.Holds.of_prune held)
  | endStreamLease lease =>
    obtain rfl := Option.some.inj stepped
    exact .inl (State.Holds.of_endStreamLease held)
  | revokeToken presented =>
    obtain rfl := Option.some.inj stepped
    exact .inl (State.Holds.of_revokeToken held)
  | revokeAll =>
    obtain rfl := Option.some.inj stepped
    have empty := before.state.revokeAll_empty
    rcases held with ⟨record, member, same⟩ | ⟨lease, record, standing, _⟩
    · simp [empty.tokens] at member
    · simp [empty.lease] at standing

/-- A consumed conversation stays consumed. -/
theorem step_consumed {before after : Session} {action : Action} {serial : Nat}
    (stepped : before.step action = some after) (consumed : serial ∈ before.history.consumed) :
    serial ∈ after.history.consumed := by
  cases action with
  | respond peer conversation wait current pause =>
    obtain rfl := Option.some.inj stepped
    exact List.mem_append_right _ consumed
  | verified index verdict account wait current pause random =>
    obtain ⟨response, chosen, rfl⟩ := Option.map_eq_some_iff.mp stepped
    simpa using consumed
  | raised index =>
    obtain ⟨response, chosen, rfl⟩ := Option.map_eq_some_iff.mp stepped
    exact consumed
  | respondFinally =>
    simp only [step, Option.ite_none_left_eq_some, Option.some.injEq] at stepped
    obtain ⟨unfinished, rfl⟩ := stepped
    exact consumed
  | authorizeToken => obtain rfl := Option.some.inj stepped; simpa using consumed
  | claimToken => obtain rfl := Option.some.inj stepped; simpa using consumed
  | activateStreamLease => obtain rfl := Option.some.inj stepped; simpa using consumed
  | authorizeStreamLease => obtain rfl := Option.some.inj stepped; simpa using consumed
  | performWithStreamLease => obtain rfl := Option.some.inj stepped; simpa using consumed
  | authorizeTakeoverToken => obtain rfl := Option.some.inj stepped; simpa using consumed
  | reserveTakeoverToken => obtain rfl := Option.some.inj stepped; simpa using consumed
  | start => obtain rfl := Option.some.inj stepped; exact consumed
  | endStreamLease => obtain rfl := Option.some.inj stepped; exact consumed
  | revokeToken => obtain rfl := Option.some.inj stepped; exact consumed
  | revokeAll => obtain rfl := Option.some.inj stepped; exact consumed

/-- A response in flight was in flight before, or its conversation was pending. -/
theorem step_running {before after : Session} {action : Action} {response : Running}
    (stepped : before.step action = some after) (flight : response ∈ after.running) :
    response ∈ before.running ∨ response.record.serial ∈ serials before.state.pending := by
  cases action with
  | respond peer conversation wait current pause =>
    obtain rfl := Option.some.inj stepped
    rcases List.mem_append.mp flight with earlier | begun
    · exact .inl earlier
    · have effect := before.state.respond_effect peer conversation (before.clock + wait) current
        (before.clock + wait + pause) (Nat.le_add_right _ _)
      change response ∈ Running.begun (before.state.respond peer conversation (before.clock + wait)
        current (before.clock + wait + pause)).2 peer at begun
      generalize before.state.respond peer conversation (before.clock + wait) current
        (before.clock + wait + pause) = outcome at effect begun
      obtain ⟨state, opening⟩ := outcome
      cases effect with
      | malformed answer => simp at begun
      | refused answer => simp at begun
      | wasted conversation answer busy => simp at begun
      | verifying conversation record member same free =>
        subst same
        obtain rfl := List.mem_singleton.mp begun
        obtain ⟨_, _, _, frame⟩ := before.state.prune_frame (before.clock + wait) current
        rw [frame] at member
        exact .inr (List.mem_map.mpr ⟨_, (List.mem_filter.mp member).1, rfl⟩)
  | verified index verdict account wait current pause random =>
    obtain ⟨other, chosen, rfl⟩ := Option.map_eq_some_iff.mp stepped
    exact .inl (List.mem_of_mem_eraseIdx flight)
  | raised index =>
    obtain ⟨other, chosen, rfl⟩ := Option.map_eq_some_iff.mp stepped
    exact .inl (List.mem_of_mem_eraseIdx flight)
  | respondFinally =>
    simp only [step, Option.ite_none_left_eq_some, Option.some.injEq] at stepped
    obtain ⟨unfinished, rfl⟩ := stepped
    exact .inl flight
  | start => obtain rfl := Option.some.inj stepped; exact .inl flight
  | authorizeToken => obtain rfl := Option.some.inj stepped; exact .inl flight
  | claimToken => obtain rfl := Option.some.inj stepped; exact .inl flight
  | activateStreamLease => obtain rfl := Option.some.inj stepped; exact .inl flight
  | authorizeStreamLease => obtain rfl := Option.some.inj stepped; exact .inl flight
  | performWithStreamLease => obtain rfl := Option.some.inj stepped; exact .inl flight
  | authorizeTakeoverToken => obtain rfl := Option.some.inj stepped; exact .inl flight
  | reserveTakeoverToken => obtain rfl := Option.some.inj stepped; exact .inl flight
  | endStreamLease => obtain rfl := Option.some.inj stepped; exact .inl flight
  | revokeToken => obtain rfl := Option.some.inj stepped; exact .inl flight
  | revokeAll => obtain rfl := Option.some.inj stepped; exact .inl flight

/-- The token of a decided conversation is held under no text but the allowed ones. -/
structure Confined (session : Session) (serial : Nat) (allowed : Text → Prop) : Prop where
  /-- The conversation was consumed. -/
  consumed : serial ∈ session.history.consumed
  /-- Its response is decided. -/
  decided : ∀ response ∈ session.running, response.record.serial ≠ serial
  /-- The session holds its token only so. -/
  held : ∀ token, session.state.Holds token serial → allowed token

/-- The token was issued, and is held under its own text if at all. -/
def Issued (session : Session) (credential : Credential) : Prop :=
  session.Confined credential.serial (· = credential.token)

/-- The token was issued, and is neither a token nor a lease any more. -/
def Retired (session : Session) (credential : Credential) : Prop :=
  session.Confined credential.serial fun _ => False

/-- Every call keeps a token confined. -/
theorem Confined.step {before after : Session} {action : Action} {serial : Nat}
    {allowed : Text → Prop} (confined : before.Confined serial allowed)
    (invariant : Invariant before) (stepped : before.step action = some after) :
    after.Confined serial allowed where
  consumed := step_consumed stepped confined.consumed
  decided := by
    intro response flight
    rcases step_running stepped flight with earlier | pending
    · exact confined.decided response earlier
    · intro same
      rw [same] at pending
      exact (List.nodup_append.mp invariant.conversations).2.2 _ pending _ confined.consumed rfl
  held := by
    intro token held
    rcases step_holds stepped held with earlier | ⟨response, flight, same⟩
    · exact confined.held token earlier
    · exact absurd same (confined.decided response flight)

/-- A token of the table is held under its own text alone. -/
theorem issued_of_member {session : Session} (invariant : Invariant session) {token : Text}
    {record : Record} (member : (token, record) ∈ session.state.tokens) :
    session.Issued ⟨token, record.serial⟩ where
  consumed := invariant.consumed _ (List.mem_append_right _
    (List.mem_append_left _ (List.mem_map.mpr ⟨_, member, rfl⟩)))
  decided := by
    intro response flight same
    refine (List.nodup_append.mp invariant.records).2.2 _ (List.mem_map.mpr ⟨_, flight, same⟩) _
      (List.mem_append_left _ (List.mem_map.mpr ⟨_, member, rfl⟩)) rfl
  held := by
    have apart := List.nodup_append.mp (List.nodup_append.mp invariant.records).2.1
    intro text held
    rcases held with ⟨other, found, same⟩ | ⟨lease, other, standing, holds, same, claimed⟩
    · exact congrArg Prod.fst (List.inj_on_of_nodup_map apart.1 found member same)
    · obtain ⟨owner, leased⟩ := invariant.lease lease standing
      obtain ⟨claim, claims, _, serial, _⟩ := leased.claimed
      obtain rfl := Option.some.inj (leased.holds.symm.trans holds)
      refine absurd ?_ (apart.2.2 _ (List.mem_map.mpr ⟨_, member, rfl⟩) _
        (List.mem_map.mpr ⟨claim, claims, rfl⟩))
      rw [serial]
      exact same.symm

/-- A token that is accepted is in the table. -/
theorem authorizeToken_member {before after : Session} {token : Option Text} {peer : Option Peer}
    {identity : Bool} {wait : Nat} {current again : GraphicalIdentity} {record : Record}
    (stepped : before.step (.authorizeToken token peer identity wait current again) = some after)
    (found : (before.state.authorizeToken token peer identity (before.clock + wait) current
      again).2 = some record) :
    ∃ text, token = some text ∧ (text, record) ∈ after.state.tokens := by
  have state : after.state = (before.state.authorizeToken token peer identity
      (before.clock + wait) current again).1 := by
    obtain rfl := Option.some.inj stepped
    rfl
  have effect := before.state.authorizeToken_effect token peer identity (before.clock + wait)
    current again
  rw [found, ← state] at effect
  generalize after.state = reached at effect ⊢
  cases effect with
  | accepted text _ named caller member attaches => exact ⟨text, named, member⟩

/-- A token that is issued is in the table, for the conversation decided. -/
theorem verified_member {before after : Session} {index : Nat} {verdict : Verdict}
    {account : AccountIdentity} {wait : Nat} {current : GraphicalIdentity} {pause : Nat}
    {random : Option Text} {response : Running} {token : Text} {greeter : Bool}
    (stepped : before.step (.verified index verdict account wait current pause random) =
      some after)
    (chosen : before.running[index]? = some response)
    (answered : (before.state.respondVerified response.peer response.record response.generation
      verdict account (before.clock + wait) current (before.clock + wait + pause) random).2 =
        .authenticated token greeter) :
    ∃ record, (token, record) ∈ after.state.tokens ∧ record.serial = response.record.serial := by
  have state : after.state = (before.state.respondVerified response.peer response.record
      response.generation verdict account (before.clock + wait) current
      (before.clock + wait + pause) random).1 := by
    obtain ⟨other, same, rfl⟩ := Option.map_eq_some_iff.mp stepped
    obtain rfl := Option.some.inj (chosen.symm.trans same)
    rfl
  have effect := before.state.respondVerified_effect response.peer response.record
    response.generation verdict account (before.clock + wait) current
    (before.clock + wait + pause) random
  rw [answered, ← state] at effect
  generalize after.state = reached at effect ⊢
  cases effect with
  | refused _ refusal => exact absurd rfl (refusal token greeter)
  | issued _ expires _ confirmed unrevoked attaches room fresh =>
    exact ⟨_, List.mem_cons_self, rfl⟩

/-- Revoking an issued token by its text retires it. -/
theorem Issued.revoked {before after : Session} {credential : Credential}
    (issued : before.Issued credential) (invariant : Invariant before)
    (stepped : before.step (.revokeToken (some credential.token)) = some after) :
    after.Retired credential where
  consumed := (issued.step invariant stepped).consumed
  decided := (issued.step invariant stepped).decided
  held := by
    intro token held
    obtain rfl := (issued.step invariant stepped).held token held
    obtain rfl := Option.some.inj stepped
    exact before.state.revokeToken_holds _ _ held

/-- The token is in no table, and the current lease was not claimed with it. -/
structure Revoked (session : Session) (credential : Credential) : Prop where
  /-- No entry of the table is the token. -/
  token : ∀ entry ∈ session.state.tokens, entry.2.serial ≠ credential.serial
  /-- No lease was claimed with it. -/
  lease : ∀ lease record, session.state.lease = some lease →
    (session.state.leases lease).record = some record → record.serial ≠ credential.serial

/-- A retired token is revoked. -/
theorem Retired.gone {session : Session} {credential : Credential}
    (retired : session.Retired credential) (invariant : Invariant session) :
    session.Revoked credential := by
  constructor
  · rintro ⟨token, record⟩ member same
    exact retired.held token (.inl ⟨record, member, same⟩)
  · intro lease record standing holds same
    obtain ⟨owner, leased⟩ := invariant.lease lease standing
    obtain ⟨claim, claims, named, _⟩ := leased.claimed
    exact retired.held _ (.inr ⟨lease, record, standing, holds, same,
      leased.token claim claims named⟩)

/-- A call that opens, decides or claims nothing. -/
def quiet : Action → Bool
  | .start .. | .respond .. | .verified .. | .raised .. | .respondFinally | .claimToken .. => false
  | _ => true

/-- An empty session stays empty under calls that open, decide and claim nothing. -/
theorem quiet_empty {before after : Session} {action : Action} (empty : before.state.Empty)
    (quiet : quiet action = true) (stepped : before.step action = some after) :
    after.state.Empty := by
  cases action with
  | start | respond | verified | raised | respondFinally | claimToken =>
    exact absurd quiet (by simp [Session.quiet])
  | authorizeToken presented peer identity wait current again =>
    obtain rfl := Option.some.inj stepped
    have authorized := before.state.authorizeToken_effect presented peer identity
      (before.clock + wait) current again
    exact authorized.empty empty
  | activateStreamLease lease wait current =>
    obtain rfl := Option.some.inj stepped
    exact State.activateStreamLease_empty empty lease (before.clock + wait) current
  | authorizeStreamLease lease identity wait current =>
    obtain rfl := Option.some.inj stepped
    exact empty.prune _ _
  | performWithStreamLease lease action wait current =>
    obtain rfl := Option.some.inj stepped
    exact empty.prune _ _
  | authorizeTakeoverToken presented peer lease wait current again =>
    obtain rfl := Option.some.inj stepped
    have authorized := before.state.authorizeTakeoverToken_effect presented peer lease
      (before.clock + wait) current again
    exact authorized.empty empty
  | reserveTakeoverToken presented peer lease wait current again pause =>
    obtain rfl := Option.some.inj stepped
    have reserved := before.state.reserveTakeoverToken_effect presented peer lease
      (before.clock + wait) current again (before.clock + wait + pause)
    exact reserved.empty empty
  | endStreamLease lease =>
    obtain rfl := Option.some.inj stepped
    exact empty.endStreamLease lease
  | revokeToken presented =>
    obtain rfl := Option.some.inj stepped
    exact empty.revokeToken presented
  | revokeAll =>
    obtain rfl := Option.some.inj stepped
    exact before.state.revokeAll_empty

end Session

end Plank.Auth
