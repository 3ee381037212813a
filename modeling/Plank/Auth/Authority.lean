import Mathlib.Data.List.Nodup
import Plank.Auth.Effect
import Plank.Auth.History

/-!
# Authority is never granted twice, to another peer, or after it was revoked

`Grant.Sound` says what must be true of an authority at the moment it is granted. The invariant
follows each record from its conversation through verification and the token table to a lease;
pruning, ending a lease and dropping table entries keep it by themselves, so every call is one
of these followed by one change.
-/

namespace Plank.Auth

/-- What must hold of every authority granted. -/
structure Grant.Sound (history : History) (grant : Grant) (record : Record) : Prop where
  /-- The grant is for this record. -/
  held : grant.record = some record
  /-- The verifier confirmed its account to its own peer, in its own scope. -/
  verified : ⟨record.serial, record.peer, record.account, record.scope⟩ ∈ history.verified
  /-- That scope is still current, and a desktop is the account's own. -/
  attaches : mayAttach record.account record.scope grant.scope = true
  /-- A caller that names a peer is that peer. -/
  caller : grant.peer.all (· = record.peer) = true
  /-- The conversation began after everything was last revoked. -/
  recent : grant.watermark ≤ record.serial
  /-- A lease was claimed by that peer with that record's token, and neither ended nor revoked
  since. -/
  leased : ∀ lease, grant.lease = some lease → lease ∉ grant.past ∧
    ∃ claim ∈ history.claims, claim.lease = lease ∧ claim.serial = record.serial ∧
      claim.peer = record.peer
  /-- An action runs under an active lease. -/
  performed : grant.operation = .performWithStreamLease →
    grant.lease.isSome = true ∧ grant.active = true

/-- A grant stays sound as the history grows. -/
theorem Grant.Sound.mono {history grown : History} {grant : Grant} {record : Record}
    (sound : grant.Sound history record)
    (verified : ∀ entry ∈ history.verified, entry ∈ grown.verified)
    (claims : ∀ claim ∈ history.claims, claim ∈ grown.claims) : grant.Sound grown record where
  held := sound.held
  verified := verified _ sound.verified
  attaches := sound.attaches
  caller := sound.caller
  recent := sound.recent
  leased := by
    intro lease used
    obtain ⟨standing, claim, member, same⟩ := sound.leased lease used
    exact ⟨standing, claim, claims claim member, same⟩
  performed := sound.performed

/-- A record that carries authority: verified, and begun after the last revocation. -/
structure Authoritative (history : History) (record : Record) : Prop where
  /-- The verifier confirmed its account to its own peer, in its own scope. -/
  verified : ⟨record.serial, record.peer, record.account, record.scope⟩ ∈ history.verified
  /-- Its conversation began after everything was last revoked. -/
  recent : history.watermark ≤ record.serial

/-- What holds of a lease object while the session points at it. -/
structure Held (history : History) (lease : Nat) (object : Lease) (record : Record) : Prop where
  /-- Its record. -/
  holds : object.record = some record
  /-- The record carries authority. -/
  authoritative : Authoritative history record
  /-- It was claimed by the record's peer. -/
  claimed : ∃ claim ∈ history.claims, claim.lease = lease ∧ claim.serial = record.serial ∧
    claim.peer = record.peer
  /-- It keeps the token it was claimed with. -/
  token : ∀ claim ∈ history.claims, claim.lease = lease →
    object.claimedToken = some claim.token

/-- A history that confirms at least as much, and claims and revokes the same, keeps authority. -/
theorem Authoritative.mono {history grown : History} {record : Record}
    (carried : Authoritative history record)
    (verified : ∀ entry ∈ history.verified, entry ∈ grown.verified)
    (watermark : grown.watermark = history.watermark) : Authoritative grown record where
  verified := verified _ carried.verified
  recent := watermark ▸ carried.recent

/-- So does a lease. -/
theorem Held.mono {history grown : History} {lease : Nat} {object : Lease} {record : Record}
    (held : Held history lease object record)
    (verified : ∀ entry ∈ history.verified, entry ∈ grown.verified)
    (claims : grown.claims = history.claims) (watermark : grown.watermark = history.watermark) :
    Held grown lease object record where
  holds := held.holds
  authoritative := held.authoritative.mono verified watermark
  claimed := claims ▸ held.claimed
  token := claims ▸ held.token

/-- The invariant of a run. -/
structure Invariant (session : Session) : Prop where
  /-- At most 16 conversations are pending. -/
  pendingBound : session.state.pending.length ≤ maximumPendingChallenges
  /-- At most 4 tokens are outstanding. -/
  tokensBound : session.state.tokens.length ≤ maximumSetupTokens
  /-- At most one response is between its blocks, and the flag says whether one is. -/
  single : session.running.length + session.closing = if session.state.verifying then 1 else 0
  /-- No conversation is pending again after a response consumed it, or was consumed twice. -/
  conversations : (serials session.state.pending ++ session.history.consumed).Nodup
  /-- No record is at two places at once, or claimed twice. -/
  records : ((session.running.map fun response => response.record.serial) ++
    (serials session.state.tokens ++ session.history.claims.map Claim.serial)).Nodup
  /-- Records get to those places by consuming their conversation. -/
  consumed : ∀ serial ∈ (session.running.map fun response => response.record.serial) ++
    (serials session.state.tokens ++ session.history.claims.map Claim.serial),
    serial ∈ session.history.consumed
  /-- Every record was allocated. -/
  allocated : ∀ serial ∈ serials session.state.pending ++ session.history.consumed,
    serial < session.state.records
  /-- So were those counted by the last revocation. -/
  watermark : session.history.watermark ≤ session.state.records
  /-- What is pending began after the last revocation. -/
  pending : ∀ entry ∈ session.state.pending, session.history.watermark ≤ entry.2.serial
  /-- A response is verified for the peer of its record; if its generation is current, it began
  after the last revocation. -/
  running : ∀ response ∈ session.running, response.record.peer = response.peer ∧
    response.generation ≤ session.state.revocationGeneration ∧
    (response.generation = session.state.revocationGeneration →
      session.history.watermark ≤ response.record.serial)
  /-- Every token carries authority. -/
  tokens : ∀ entry ∈ session.state.tokens, Authoritative session.history entry.2
  /-- So does the lease. -/
  lease : ∀ lease, session.state.lease = some lease →
    ∃ record, Held session.history lease (session.state.leases lease) record
  /-- Any other lease object holds no record and is not active. -/
  others : ∀ lease, session.state.lease ≠ some lease →
    (session.state.leases lease).record = none ∧ (session.state.leases lease).active = false
  /-- The flag says whether there is a lease. -/
  flag : session.state.hasStreamLease = session.state.lease.isSome
  /-- Every lease was issued. -/
  issued : ∀ claim ∈ session.history.claims, claim.lease < session.state.issued
  /-- No lease that was ended or revoked is current. -/
  past : ∀ lease ∈ session.history.past,
    lease < session.state.issued ∧ session.state.lease ≠ some lease
  /-- Every authority granted so far was sound. -/
  grants : ∀ grant ∈ session.history.grants, ∃ record, grant.Sound session.history record

namespace Invariant

variable {session : Session}

/-- The session as it is created. -/
theorem start : Invariant {} where
  pendingBound := Nat.zero_le _
  tokensBound := Nat.zero_le _
  single := rfl
  conversations := .nil
  records := .nil
  consumed := by simp [serials]
  allocated := by simp [serials]
  watermark := Nat.le_refl _
  pending := by simp
  running := by simp
  tokens := by simp
  lease := by simp
  others _ _ := ⟨rfl, rfl⟩
  flag := rfl
  issued := by simp
  past := by simp
  grants := by simp

/-- Dropping table entries and setting the reservation keeps the invariant. -/
theorem dropped (holds : Invariant session) {pending tokens : List (Text × Record)}
    (takeoverToken : Option Text) (takeoverDeadline : Nat)
    (fewer : pending.Sublist session.state.pending)
    (less : tokens.Sublist session.state.tokens) :
    Invariant { session with
      state := { session.state with pending, tokens, takeoverToken, takeoverDeadline } } := by
  have pendingSerials : (serials pending).Sublist (serials session.state.pending) := fewer.map _
  have tokenSerials : (serials tokens).Sublist (serials session.state.tokens) := less.map _
  have places := (List.Sublist.refl
    (session.running.map fun response => response.record.serial)).append
    (tokenSerials.append (.refl (session.history.claims.map Claim.serial)))
  exact { holds with
    pendingBound := Nat.le_trans fewer.length_le holds.pendingBound
    tokensBound := Nat.le_trans less.length_le holds.tokensBound
    conversations := holds.conversations.sublist (pendingSerials.append (.refl _))
    records := holds.records.sublist places
    consumed := fun serial member => holds.consumed serial (places.subset member)
    allocated := fun serial member =>
      holds.allocated serial ((pendingSerials.append (.refl _)).subset member)
    pending := fun entry member => holds.pending entry (fewer.subset member)
    tokens := fun entry member => holds.tokens entry (less.subset member) }

/-- Ending a lease, current or not, keeps the invariant. -/
theorem ended (holds : Invariant session) (lease : Option Nat) :
    Invariant { session with state := session.state.endStreamLease lease } := by
  unfold State.endStreamLease
  cases lease with
  | none => exact holds
  | some lease =>
    dsimp only
    split
    · exact holds
    · next current =>
      rw [not_not] at current
      exact { holds with
        lease := by simp
        others := by
          intro other _
          by_cases same : other = lease
          · simp [same]
          · have elsewhere : session.state.lease ≠ some other := by
              rw [current]
              exact fun equal => same (Option.some.inj equal).symm
            simpa [same] using holds.others other elsewhere
        flag := rfl
        past := fun other member => ⟨(holds.past other member).1, by simp⟩ }

/-- Pruning keeps the invariant. -/
theorem prune (holds : Invariant session) (now : Nat) (current : GraphicalIdentity) :
    Invariant { session with state := session.state.prune now current } := by
  have fewer := holds.dropped (session.state.takeoverToken.filter fun token =>
      !(now ≥ session.state.takeoverDeadline ||
        ((session.state.tokens.filter (State.keeps now current)).lookup token).isNone))
    session.state.takeoverDeadline
    (List.filter_sublist (p := State.keeps now current))
    (List.filter_sublist (p := State.keeps now current))
  unfold State.prune
  dsimp only
  split
  · exact fewer.ended _
  · exact fewer

/-- The clock plays no part in the invariant. -/
theorem timed (holds : Invariant session) (clock : Nat) : Invariant { session with clock } :=
  { holds with }

/-- A conversation opened in a table with room keeps the invariant. -/
theorem opened (holds : Invariant session) (conversation : Text) {record : Record}
    (room : session.state.pending.length < maximumPendingChallenges)
    (fresh : record.serial = session.state.records) :
    Invariant { session with
      state := { session.state with
        records := session.state.records + 1
        pending := (conversation, record) :: session.state.pending } } := by
  have unused : record.serial ∉ serials session.state.pending ++ session.history.consumed := by
    intro member
    have below := holds.allocated record.serial member
    omega
  exact { holds with
    pendingBound := room
    conversations := List.nodup_cons.mpr ⟨unused, holds.conversations⟩
    allocated := by
      intro serial member
      rcases List.mem_cons.mp member with rfl | old
      · exact Nat.lt_succ_of_le (Nat.le_of_eq fresh)
      · exact Nat.lt_succ_of_lt (holds.allocated serial old)
    watermark := Nat.le_succ_of_le holds.watermark
    pending := by
      intro entry member
      rcases List.mem_cons.mp member with rfl | old
      · rw [fresh]
        exact holds.watermark
      · exact holds.pending entry old }

/-- Moving conversations from the table to the consumed ones keeps the invariant. -/
theorem consumption (holds : Invariant session) (keep : Text × Record → Bool) :
    Invariant { session with
      state := { session.state with pending := session.state.pending.filter keep }
      history := { session.history with
        consumed := serials (session.state.pending.filter fun entry => !keep entry) ++
          session.history.consumed } } := by
  have moved : (serials (session.state.pending.filter keep) ++
      (serials (session.state.pending.filter fun entry => !keep entry) ++
        session.history.consumed)).Perm
      (serials session.state.pending ++ session.history.consumed) := by
    rw [← List.append_assoc]
    refine List.Perm.append_right _ ?_
    have parts := (List.filter_append_perm keep session.state.pending).map
      fun entry => entry.2.serial
    rwa [List.map_append] at parts
  exact { holds with
    pendingBound := Nat.le_trans (List.length_filter_le _ _) holds.pendingBound
    conversations := moved.nodup_iff.mpr holds.conversations
    consumed := fun serial member => List.mem_append_right _ (holds.consumed serial member)
    allocated := fun serial member => holds.allocated serial (moved.subset member)
    pending := fun entry member => holds.pending entry (List.mem_of_mem_filter member)
    tokens := fun entry member => (holds.tokens entry member).mono (fun _ => id) rfl
    lease := by
      intro lease current
      obtain ⟨record, held⟩ := holds.lease lease current
      exact ⟨record, held.mono (fun _ => id) rfl rfl⟩
    grants := by
      intro grant member
      obtain ⟨record, sound⟩ := holds.grants grant member
      exact ⟨record, sound.mono (fun _ => id) fun _ => id⟩ }

/-- A consumed conversation that is at no place yet may be verified. -/
theorem verifying (holds : Invariant session) {record : Record} {peer : Peer}
    (free : session.state.verifying = false) (same : record.peer = peer)
    (consumed : record.serial ∈ session.history.consumed)
    (nowhere : record.serial ∉ (session.running.map fun response => response.record.serial) ++
      (serials session.state.tokens ++ session.history.claims.map Claim.serial))
    (recent : session.history.watermark ≤ record.serial) :
    Invariant { session with
      state := { session.state with verifying := true }
      running := session.running ++ [⟨peer, record, session.state.revocationGeneration⟩] } := by
  have idle := holds.single
  rw [free, if_neg (by decide)] at idle
  have moved : (((session.running ++
      [(⟨peer, record, session.state.revocationGeneration⟩ : Running)]).map
        fun response => response.record.serial) ++
      (serials session.state.tokens ++ session.history.claims.map Claim.serial)).Perm
      (record.serial :: ((session.running.map fun response => response.record.serial) ++
        (serials session.state.tokens ++ session.history.claims.map Claim.serial))) := by
    simp only [List.map_append, List.map_cons, List.map_nil, List.append_assoc,
      List.singleton_append]
    exact List.perm_middle
  exact { holds with
    single := by
      simp only [List.length_append, List.length_singleton, ↓reduceIte]
      omega
    records := moved.nodup_iff.mpr (List.nodup_cons.mpr ⟨nowhere, holds.records⟩)
    consumed := by
      intro serial member
      rcases List.mem_cons.mp (moved.subset member) with rfl | old
      · exact consumed
      · exact holds.consumed serial old
    running := by
      intro response member
      rcases List.mem_append.mp member with old | new
      · exact holds.running response old
      · rw [List.mem_singleton.mp new]
        exact ⟨same, Nat.le_refl _, fun _ => recent⟩ }

/-- A record still in the conversation table is at no other place. -/
theorem pending_nowhere (holds : Invariant session) {entry : Text × Record}
    (member : entry ∈ session.state.pending) :
    entry.2.serial ∉ (session.running.map fun response => response.record.serial) ++
      (serials session.state.tokens ++ session.history.claims.map Claim.serial) := by
  intro elsewhere
  have apart := (List.nodup_append.mp holds.conversations).2.2
  exact apart entry.2.serial (List.mem_map_of_mem member) entry.2.serial
    (holds.consumed _ elsewhere) rfl

/-- A response leaves the running ones when it is decided. -/
theorem decided (holds : Invariant session) {index : Nat} {response : Running}
    (chosen : session.running[index]? = some response) :
    Invariant { session with
      running := session.running.eraseIdx index, closing := session.closing + 1 } := by
  have fewer := List.eraseIdx_sublist session.running index
  have places := (fewer.map fun response => response.record.serial).append
    (.refl (serials session.state.tokens ++ session.history.claims.map Claim.serial))
  obtain ⟨inside, _⟩ := List.getElem?_eq_some_iff.mp chosen
  exact { holds with
    single := by
      have counted := List.length_eraseIdx_add_one inside
      have before := holds.single
      dsimp only
      omega
    records := holds.records.sublist places
    consumed := fun serial member => holds.consumed serial (places.subset member)
    running := fun other member => holds.running other (fewer.subset member) }

/-- The verifier's confirmations may be written down at any time. -/
theorem confirmed (holds : Invariant session) (entry : Verified) :
    Invariant { session with
      history := { session.history with verified := entry :: session.history.verified } } := by
  exact { holds with
    tokens := fun chosen member =>
      (holds.tokens chosen member).mono (fun _ => List.mem_cons_of_mem _) rfl
    lease := by
      intro lease current
      obtain ⟨record, held⟩ := holds.lease lease current
      exact ⟨record, held.mono (fun _ => List.mem_cons_of_mem _) rfl rfl⟩
    grants := by
      intro grant member
      obtain ⟨record, sound⟩ := holds.grants grant member
      exact ⟨record, sound.mono (fun _ => List.mem_cons_of_mem _) fun _ => id⟩ }

/-- A sound grant may be written down. -/
theorem granted (holds : Invariant session) {grant : Grant} {record : Record}
    (sound : grant.Sound session.history record) :
    Invariant { session with
      history := { session.history with grants := grant :: session.history.grants } } := by
  exact { holds with
    tokens := fun entry member => (holds.tokens entry member).mono (fun _ => id) rfl
    lease := by
      intro lease current
      obtain ⟨record, held⟩ := holds.lease lease current
      exact ⟨record, held.mono (fun _ => id) rfl rfl⟩
    grants := by
      intro chosen member
      rcases List.mem_cons.mp member with rfl | old
      · exact ⟨record, sound.mono (fun _ => id) fun _ => id⟩
      · obtain ⟨record, sound⟩ := holds.grants chosen old
        exact ⟨record, sound.mono (fun _ => id) fun _ => id⟩ }

/-- The last block of a response clears the flag. -/
theorem finished (holds : Invariant session) (unfinished : session.closing ≠ 0) :
    Invariant { session with
      state := session.state.respondFinally, closing := session.closing - 1 } := by
  have before := holds.single
  exact { holds with
    single := by
      simp only [State.respondFinally, Bool.false_eq_true, ↓reduceIte]
      split at before
      · omega
      · omega }

/-- A record at no place, verified and recent, may become a token in a table with room. -/
theorem tokenIssued (holds : Invariant session) (token : Text) {record : Record}
    {keep : Text × Record → Bool}
    (room : (session.state.tokens.filter keep).length < maximumSetupTokens)
    (consumed : record.serial ∈ session.history.consumed)
    (nowhere : record.serial ∉ (session.running.map fun response => response.record.serial) ++
      (serials session.state.tokens ++ session.history.claims.map Claim.serial))
    (authoritative : Authoritative session.history record) :
    Invariant { session with
      state := { session.state with
        tokens := (token, record) :: session.state.tokens.filter keep } } := by
  have fewer : (serials (session.state.tokens.filter keep)).Sublist
      (serials session.state.tokens) := (List.filter_sublist (p := keep)).map _
  have places := (List.Sublist.refl
    (session.running.map fun response => response.record.serial)).append
    (fewer.append (.refl (session.history.claims.map Claim.serial)))
  have moved : ((session.running.map fun response => response.record.serial) ++
      (serials ((token, record) :: session.state.tokens.filter keep) ++
        session.history.claims.map Claim.serial)).Perm
      (record.serial :: ((session.running.map fun response => response.record.serial) ++
        (serials (session.state.tokens.filter keep) ++
          session.history.claims.map Claim.serial))) := List.perm_middle
  exact { holds with
    tokensBound := room
    records := moved.nodup_iff.mpr (List.nodup_cons.mpr
      ⟨fun member => nowhere (places.subset member), holds.records.sublist places⟩)
    consumed := by
      intro serial member
      rcases List.mem_cons.mp (moved.subset member) with rfl | old
      · exact consumed
      · exact holds.consumed serial (places.subset old)
    tokens := by
      intro entry member
      rcases List.mem_cons.mp member with rfl | old
      · exact authoritative
      · exact holds.tokens entry (List.mem_of_mem_filter old) }

/-- A token may become the lease where there is none. -/
theorem claimed (holds : Invariant session) {text : Text} {record : Record}
    (transportToken : Text) (activateBefore : Nat) (free : session.state.lease = none)
    (member : (text, record) ∈ session.state.tokens) :
    Invariant { session with
      state := { session.state with
        issued := session.state.issued + 1
        leases := fun other =>
          if other = session.state.issued then {
            record := some record
            claimedToken := some text
            transportToken := some transportToken
            activateBefore }
          else session.state.leases other
        tokens := session.state.tokens.filter (·.1 ≠ text)
        lease := some session.state.issued
        hasStreamLease := true }
      history := { session.history with
        claims := ⟨session.state.issued, record.serial, text, record.peer⟩ ::
          session.history.claims } } := by
  -- the filter drops at least the claimed entry, which moves to the claims
  obtain ⟨before, after, split⟩ := List.append_of_mem member
  have dropped : (session.state.tokens.filter (·.1 ≠ text)).Sublist (before ++ after) := by
    rw [split, List.filter_append, List.filter_cons_of_neg (by simp)]
    exact List.filter_sublist.append List.filter_sublist
  have places : ((session.running.map fun response => response.record.serial) ++
      (serials (session.state.tokens.filter (·.1 ≠ text)) ++
        record.serial :: session.history.claims.map Claim.serial)).Sublist
      ((session.running.map fun response => response.record.serial) ++
        (serials (before ++ after) ++
          record.serial :: session.history.claims.map Claim.serial)) :=
    (List.Sublist.refl _).append ((dropped.map _).append (.refl _))
  have moved : ((session.running.map fun response => response.record.serial) ++
      (serials (before ++ after) ++
        record.serial :: session.history.claims.map Claim.serial)).Perm
      ((session.running.map fun response => response.record.serial) ++
        (serials session.state.tokens ++ session.history.claims.map Claim.serial)) := by
    refine List.Perm.append_left _ ?_
    rw [split]
    simp only [serials, List.map_append, List.map_cons, List.append_assoc, List.cons_append]
    refine List.Perm.append_left _ ?_
    exact List.perm_middle
  have authoritative := holds.tokens _ member
  exact { holds with
    tokensBound := Nat.le_trans (List.length_filter_le _ _) holds.tokensBound
    records := (moved.nodup_iff.mpr holds.records).sublist places
    consumed := fun serial present =>
      holds.consumed serial (moved.subset (places.subset present))
    tokens := fun entry present =>
      (holds.tokens entry (List.mem_of_mem_filter present)).mono (fun _ => id) rfl
    lease := by
      intro lease current
      obtain rfl := Option.some.inj current
      refine ⟨record, by simp, authoritative.mono (fun _ => id) rfl,
        ⟨_, List.mem_cons_self, rfl, rfl, rfl⟩, ?_⟩
      intro claim present same
      rcases List.mem_cons.mp present with rfl | old
      · simp
      · exact absurd same (Nat.ne_of_lt (holds.issued claim old))
    others := by
      intro lease elsewhere
      have distinct : lease ≠ session.state.issued := fun same => elsewhere (by rw [same])
      simpa [distinct] using holds.others lease (by simp [free])
    flag := rfl
    issued := by
      intro claim present
      rcases List.mem_cons.mp present with rfl | old
      · exact Nat.lt_succ_self _
      · exact Nat.lt_succ_of_lt (holds.issued claim old)
    past := by
      intro lease present
      have below := (holds.past lease present).1
      refine ⟨Nat.lt_succ_of_lt below, fun current => ?_⟩
      have same := Option.some.inj current
      omega
    grants := by
      intro grant present
      obtain ⟨record, sound⟩ := holds.grants grant present
      exact ⟨record, sound.mono (fun _ => id) fun _ => List.mem_cons_of_mem _⟩ }

/-- The current lease may be activated. -/
theorem activated (holds : Invariant session) {lease : Nat}
    (current : session.state.lease = some lease) :
    Invariant { session with
      state := { session.state with
        leases := fun other =>
          if other = lease then { session.state.leases lease with active := true }
          else session.state.leases other } } := by
  exact { holds with
    lease := by
      intro other chosen
      obtain rfl := Option.some.inj (current.symm.trans chosen)
      obtain ⟨record, held⟩ := holds.lease lease current
      exact ⟨record, by simp [held.holds], held.authoritative, held.claimed,
        fun claim member same => by simpa using held.token claim member same⟩
    others := by
      intro other elsewhere
      have distinct : other ≠ lease := fun same => elsewhere (by rw [same]; exact current)
      simpa [distinct] using holds.others other elsewhere }

/-- Issued leases that are not current may be counted as over. -/
theorem counted (holds : Invariant session) (leases : List Nat)
    (gone : ∀ lease ∈ leases, lease < session.state.issued ∧
      session.state.lease ≠ some lease) :
    Invariant { session with
      history := { session.history with past := leases ++ session.history.past } } := by
  exact { holds with
    tokens := fun entry member => (holds.tokens entry member).mono (fun _ => id) rfl
    lease := by
      intro lease current
      obtain ⟨record, held⟩ := holds.lease lease current
      exact ⟨record, held.mono (fun _ => id) rfl rfl⟩
    past := by
      intro lease member
      rcases List.mem_append.mp member with new | old
      · exact gone lease new
      · exact holds.past lease old
    grants := by
      intro grant member
      obtain ⟨record, sound⟩ := holds.grants grant member
      exact ⟨record, sound.mono (fun _ => id) fun _ => id⟩ }

/-- A token that was accepted may be granted. -/
theorem grantedToken (holds : Invariant session) {pruned after : State}
    (kept : Invariant { session with state := pruned }) {token : Option Text}
    {peer : Option Peer} {again : GraphicalIdentity} {record : Option Record}
    {operation : Operation} (plain : operation ≠ .performWithStreamLease)
    (authorized : State.Authorized session.state pruned token peer again after record) :
    Invariant { session with
      state := after
      history := session.history.grantToken operation record again peer } := by
  cases authorized with
  | malformed => exact holds
  | refused => exact kept
  | accepted text record named caller member attaches =>
    have authoritative := kept.tokens _ member
    refine kept.granted ⟨rfl, authoritative.verified, attaches, ?_,
      authoritative.recent, by simp, fun performed => absurd performed plain⟩
    simp [caller]

/-- The current lease may be granted in a scope its record may attach to. -/
theorem grantedLease (holds : Invariant session) (operation : Operation)
    {scope : GraphicalIdentity} {lease : Nat} (current : session.state.lease = some lease)
    (attaches : ∀ record, (session.state.leases lease).record = some record →
      mayAttach record.account record.scope scope = true)
    (performed : operation = .performWithStreamLease →
      (session.state.leases lease).active = true) :
    Invariant { session with
      history := session.history.grantLease operation session.state (some lease) true scope } := by
  obtain ⟨record, held⟩ := holds.lease lease current
  refine holds.granted ⟨held.holds, held.authoritative.verified,
    attaches record held.holds, rfl, held.authoritative.recent, ?_,
    fun action => ⟨rfl, by simpa using performed action⟩⟩
  intro used same
  obtain rfl := Option.some.inj same
  exact ⟨fun member => (holds.past lease member).2 current, held.claimed⟩

/-- Pruning leaves a lease only in a scope its record may attach to. -/
theorem pruned_attaches {state : State} {now : Nat} {current : GraphicalIdentity} {lease : Nat}
    (standing : (state.prune now current).lease = some lease) :
    ∀ record, ((state.prune now current).leases lease).record = some record →
      mayAttach record.account record.scope current = true := by
  intro record held
  have past := State.prune_lease standing
  simp only [State.leaseOver, held, Option.any_some, Bool.or_eq_false_iff] at past
  simpa using past.2

/-- Ending a lease by a call counts it as over. -/
theorem endedByCall (holds : Invariant session) (lease : Option Nat) :
    Invariant { session with
      state := session.state.endStreamLease lease
      history := { session.history with
        past := (lease.filter (· < session.state.issued)).toList ++ session.history.past } } := by
  have after := holds.ended lease
  refine after.counted _ fun chosen member => ?_
  simp only [Option.mem_toList, Option.filter_eq_some_iff, decide_eq_true_eq] at member
  obtain ⟨rfl, below⟩ := member
  unfold State.endStreamLease
  dsimp only
  split
  · next elsewhere => exact ⟨below, elsewhere⟩
  · exact ⟨below, by simp⟩

/-- Revoking a token ends the lease claimed with it. -/
theorem revokedToken (holds : Invariant session) (token : Option Text) :
    Invariant { session with
      state := session.state.revokeToken token
      history := { session.history with
        past := (session.history.claims.filter fun claim => some claim.token = token).map
          Claim.lease ++ session.history.past } } := by
  cases token with
  | none => exact holds.counted _ (by simp)
  | some token =>
    have fewer := holds.dropped (session.state.takeoverToken.filter (· ≠ token))
      session.state.takeoverDeadline (.refl session.state.pending)
      (List.filter_sublist (p := (·.1 ≠ token)))
    have claimed : ∀ lease ∈ (session.history.claims.filter
        fun claim => some claim.token = some token).map Claim.lease,
        ∃ claim ∈ session.history.claims, claim.lease = lease ∧ claim.token = token := by
      intro lease member
      obtain ⟨claim, chosen, same⟩ := List.mem_map.mp member
      obtain ⟨present, named⟩ := List.mem_filter.mp chosen
      exact ⟨claim, present, same, by simpa using named⟩
    unfold State.revokeToken
    dsimp only
    split
    · next used =>
      refine (fewer.ended _).counted _ fun lease member => ?_
      obtain ⟨claim, present, rfl, _⟩ := claimed lease member
      refine ⟨?_, ?_⟩
      · obtain ⟨_, _, _, frame⟩ := State.endStreamLease_frame { session.state with
          takeoverToken := session.state.takeoverToken.filter (· ≠ token)
          tokens := session.state.tokens.filter (·.1 ≠ token) } session.state.lease
        rw [frame]
        exact holds.issued claim present
      · cases held : session.state.lease with
        | none => simp [held] at used
        | some current => simp [State.endStreamLease, held]
    · next unused =>
      refine fewer.counted _ fun lease member => ?_
      obtain ⟨claim, present, rfl, rfl⟩ := claimed lease member
      refine ⟨holds.issued claim present, fun current => unused ?_⟩
      obtain ⟨record, held⟩ := holds.lease claim.lease current
      have same : session.state.lease = some claim.lease := current
      rw [same]
      simpa using held.token claim present rfl

/-- Revoking everything leaves nothing that began before. -/
theorem revokedAll (holds : Invariant session) :
    Invariant { session with
      state := session.state.revokeAll
      history := { session.history with
        past := session.history.claims.map Claim.lease ++ session.history.past
        watermark := session.state.records } } := by
  have empty := (holds.dropped none session.state.takeoverDeadline
    (List.nil_sublist _) (List.nil_sublist _)).ended session.state.lease
  obtain ⟨leases, hasStreamLease, revoked, ended⟩ := session.state.revokeAll_effect
  rw [ended] at empty
  rw [revoked]
  exact { empty with
    watermark := Nat.le_refl _
    pending := by simp
    running := by
      intro response member
      have before := (holds.running response member).2.1
      refine ⟨(holds.running response member).1, Nat.le_succ_of_le before, fun same => ?_⟩
      -- a response that began before was given an older generation
      have current : response.generation = session.state.revocationGeneration + 1 := same
      omega
    tokens := by simp
    lease := by simp
    past := by
      intro lease member
      refine ⟨?_, by simp⟩
      rcases List.mem_append.mp member with claimed | old
      · obtain ⟨claim, present, rfl⟩ := List.mem_map.mp claimed
        exact holds.issued claim present
      · exact (holds.past lease old).1
    grants := by
      intro grant member
      obtain ⟨record, sound⟩ := holds.grants grant member
      exact ⟨record, sound.mono (fun _ => id) fun _ => id⟩ }

/-- The first block of a response keeps the invariant. -/
theorem responded (holds : Invariant session) {now : Nat} {current : GraphicalIdentity}
    {peer : Option Peer} {after : State} {opening : State.Opening}
    (responded : State.Responded session.state (session.state.prune now current) peer after
      opening) :
    Invariant { session with
      state := after
      running := session.running ++ Running.begun opening peer
      history := { session.history with
        consumed := serials ((session.state.prune now current).pending.filter fun entry =>
          !after.pending.contains entry) ++ session.history.consumed } } := by
  have pruned := holds.prune now current
  have fewer : (session.state.prune now current).pending.Sublist session.state.pending := by
    obtain ⟨_, _, _, frame⟩ := session.state.prune_frame now current
    rw [frame]
    exact List.filter_sublist
  -- an entry left the table exactly when the filter did not keep it
  have left : ∀ conversation : Text,
      ((session.state.prune now current).pending.filter fun entry =>
        !((session.state.prune now current).pending.filter (·.1 ≠ conversation)).contains entry) =
      (session.state.prune now current).pending.filter fun entry =>
        !(decide (entry.1 ≠ conversation)) := by
    intro conversation
    refine List.filter_congr fun entry member => ?_
    by_cases same : entry.1 = conversation <;> simp [same, member]
  cases responded with
  | malformed response =>
    have nothing : ((session.state.prune now current).pending.filter fun entry =>
        !session.state.pending.contains entry) = [] := by
      refine List.filter_eq_nil_iff.mpr fun entry member => ?_
      simpa using fewer.subset member
    rw [nothing, Running.begun_answered, List.append_nil]
    exact holds
  | refused response =>
    have nothing : ((session.state.prune now current).pending.filter fun entry =>
        !(session.state.prune now current).pending.contains entry) = [] := by
      refine List.filter_eq_nil_iff.mpr fun entry member => ?_
      simpa using member
    rw [nothing, Running.begun_answered, List.append_nil]
    exact pruned
  | wasted conversation response busy =>
    rw [left conversation, Running.begun_answered, List.append_nil]
    exact pruned.consumption (·.1 ≠ conversation)
  | verifying conversation record member same free =>
    subst same
    rw [left conversation]
    have entry : (conversation, record).2.serial ∈ serials
        ((session.state.prune now current).pending.filter fun entry =>
          !(decide (entry.1 ≠ conversation))) :=
      List.mem_map_of_mem (List.mem_filter.mpr ⟨member, by simp⟩)
    exact (pruned.consumption (·.1 ≠ conversation)).verifying free rfl
      (List.mem_append_left _ entry) (pruned.pending_nowhere member) (pruned.pending _ member)

/-- The record of a running response is at no other place, and stays consumed. -/
theorem running_nowhere (holds : Invariant session) {index : Nat} {response : Running}
    (chosen : session.running[index]? = some response) :
    response.record.serial ∈ session.history.consumed ∧
      response.record.serial ∉
        ((session.running.eraseIdx index).map fun response => response.record.serial) ++
          (serials session.state.tokens ++ session.history.claims.map Claim.serial) := by
  obtain ⟨inside, rfl⟩ := List.getElem?_eq_some_iff.mp chosen
  have apart : (session.running[index] :: session.running.eraseIdx index).Perm
      session.running := by
    rw [List.eraseIdx_eq_take_drop_succ]
    have joined : session.running.take index ++
        session.running[index] :: session.running.drop (index + 1) = session.running := by
      rw [List.getElem_cons_drop inside, List.take_append_drop]
    exact List.perm_middle.symm.trans (.of_eq joined)
  have moved := (apart.map fun response => response.record.serial).append_right
    (serials session.state.tokens ++ session.history.claims.map Claim.serial)
  rw [List.map_cons, List.cons_append] at moved
  refine ⟨holds.consumed _ (moved.subset List.mem_cons_self), ?_⟩
  exact (List.nodup_cons.mp (moved.nodup_iff.mpr holds.records)).1

/-- The second block of a response keeps the invariant. -/
theorem verifiedBy (holds : Invariant session) {index : Nat} {response : Running}
    (chosen : session.running[index]? = some response) {verdict : Verdict}
    {account : AccountIdentity} {now : Nat} {current : GraphicalIdentity} {after : State}
    {answer : Response}
    (decided : State.Decided (session.state.prune now current) response.peer response.record
      response.generation verdict account current after answer) :
    Invariant { session with
      state := after
      running := session.running.eraseIdx index
      closing := session.closing + 1
      history := (session.history.confirm response verdict account).answer answer after current
        response.peer } := by
  have pruned := holds.prune now current
  have without : Invariant { session with
      state := session.state.prune now current
      running := session.running.eraseIdx index
      closing := session.closing + 1 } := pruned.decided chosen
  cases decided with
  | refused answer refusal =>
    rw [History.answer_refused _ refusal, History.confirm]
    split
    · exact without.confirmed _
    · exact without
  | issued token expires greeter confirmed unrevoked attaches room fresh =>
    obtain ⟨consumed, nowhere⟩ := pruned.running_nowhere chosen
    obtain ⟨same, _, recent⟩ := pruned.running response (List.mem_of_getElem? chosen)
    rw [History.confirm, if_pos confirmed]
    let record : Record := { response.record with account, username := none, expires }
    let history : History := { session.history with
      verified := ⟨response.record.serial, response.peer, account, response.record.scope⟩ ::
        session.history.verified }
    have noted : Invariant { session with
        state := session.state.prune now current
        running := session.running.eraseIdx index
        closing := session.closing + 1
        history } := without.confirmed _
    have authoritative : Authoritative history record :=
      ⟨by rw [show record.peer = response.peer from same]; exact List.mem_cons_self,
        recent unrevoked⟩
    have issued := noted.tokenIssued token room (show record.serial ∈ _ from consumed)
      (show record.serial ∉ _ from nowhere) authoritative
    have sound : Grant.Sound history {
        operation := .respond
        record := some record
        scope := current
        peer := some response.peer
        lease := none
        active := false
        watermark := history.watermark
        past := history.past } record := {
      held := rfl
      verified := authoritative.verified
      attaches
      caller := by simp [show record.peer = response.peer from same]
      recent := authoritative.recent
      leased := by simp
      performed := by simp }
    rw [History.answer, List.lookup_cons_self]
    exact issued.granted sound

/-- A call that opens a conversation keeps the invariant. -/
theorem startedBy (holds : Invariant session) {now : Nat} {current : GraphicalIdentity}
    {after : State}
    (started : State.Started session.state (session.state.prune now current) current after) :
    Invariant { session with state := after } := by
  have pruned := holds.prune now current
  cases started with
  | malformed => exact holds
  | refused => exact pruned
  | opened conversation record room fresh scope => exact pruned.opened conversation room fresh

/-- A call that reserves a token keeps the invariant. -/
theorem reservedBy (holds : Invariant session) {now : Nat} {current again : GraphicalIdentity}
    {token : Option Text} {peer : Option Peer} {after : State} {record : Option Record}
    (reserved : State.Reserved session.state (session.state.prune now current) token peer again
      after record) :
    Invariant { session with
      state := after
      history := session.history.grantToken .reserveTakeoverToken record again peer } := by
  have pruned := holds.prune now current
  have plain : Operation.reserveTakeoverToken ≠ .performWithStreamLease := by decide
  cases reserved with
  | refused after authorized => exact holds.grantedToken pruned plain authorized
  | reserved record deadline authorized =>
    exact (holds.grantedToken pruned plain authorized).dropped token deadline (.refl _) (.refl _)

/-- A call that claims a token keeps the invariant. -/
theorem claimedBy (holds : Invariant session) {token : Option Text} {peer : Option Peer}
    {now inner : Nat} {current second again : GraphicalIdentity} {after : State}
    {issued : Option Nat}
    (claimed : State.Claimed (session.state.prune now current)
      ((session.state.prune now current).prune inner second) token peer again after issued) :
    Invariant { session with
      state := after
      history := (session.history.claim issued after token peer).grantLease .claimToken after
        issued issued.isSome again } := by
  have first := holds.prune now current
  have again := first.prune inner second
  cases claimed with
  | refused after looked =>
    rcases looked with rfl | rfl
    · exact first
    · exact again
  | issued text record transportToken activateBefore free named caller member attaches =>
    subst named caller
    have leased := again.claimed transportToken activateBefore free member
    have granted := leased.grantedLease .claimToken rfl (by
      intro held same
      simp only [↓reduceIte, Option.some.injEq] at same
      rw [← same]
      exact attaches) (by simp)
    simpa [History.claim] using granted

/-- A call that presents a lease keeps the invariant. -/
theorem authorizedBy (holds : Invariant session) (operation : Operation) (lease : Option Nat)
    (wanted : Bool) (now : Nat) (current : GraphicalIdentity) :
    Invariant { session with
      state := (session.state.authorizeStreamLease lease wanted now current).1
      history := session.history.grantLease operation
        (session.state.authorizeStreamLease lease wanted now current).1 lease
        (session.state.authorizeStreamLease lease wanted now current).2 current } := by
  have pruned := holds.prune now current
  cases accepted : (session.state.authorizeStreamLease lease wanted now current).2 with
  | false => exact pruned
  | true =>
    obtain ⟨named, rfl, standing, active⟩ := State.authorizeStreamLease_effect accepted
    exact pruned.grantedLease operation standing (pruned_attaches standing) fun _ => active

end Invariant

namespace Session

/-- Every call and every block of a call keeps the invariant. -/
theorem preserves_invariant : system.Preserves Invariant := by
  intro before action after holds stepped
  cases action with
  | start peer username wait current pause random =>
    obtain rfl := Option.some.inj stepped
    exact (holds.startedBy (before.state.start_effect peer username (before.clock + wait) current
      (before.clock + wait + pause) random)).timed _
  | respond peer conversation wait current pause =>
    obtain rfl := Option.some.inj stepped
    exact (holds.responded (before.state.respond_effect peer conversation (before.clock + wait)
      current (before.clock + wait + pause) (Nat.le_add_right _ _))).timed _
  | verified index verdict account wait current pause random =>
    obtain ⟨response, chosen, rfl⟩ := Option.map_eq_some_iff.mp stepped
    exact (holds.verifiedBy chosen (before.state.respondVerified_effect response.peer
      response.record response.generation verdict account (before.clock + wait) current
      (before.clock + wait + pause) random)).timed _
  | raised index =>
    obtain ⟨response, chosen, rfl⟩ := Option.map_eq_some_iff.mp stepped
    exact holds.decided chosen
  | respondFinally =>
    simp only [system, step, Option.ite_none_left_eq_some, Option.some.injEq] at stepped
    obtain ⟨unfinished, rfl⟩ := stepped
    exact holds.finished unfinished
  | authorizeToken token peer identity wait current again =>
    obtain rfl := Option.some.inj stepped
    exact (holds.grantedToken (holds.prune (before.clock + wait) current) (by simp)
      (before.state.authorizeToken_effect token peer identity _ current again)).timed _
  | claimToken token peer wait current pause second again rest random =>
    obtain rfl := Option.some.inj stepped
    exact (holds.claimedBy (before.state.claimToken_effect token peer (before.clock + wait)
      current (before.clock + wait + pause) second again (before.clock + wait + pause + rest)
      random)).timed _
  | activateStreamLease lease wait current =>
    have pruned := holds.prune (before.clock + wait) current
    simp only [system, step] at stepped
    rcases before.state.activateStreamLease_effect lease (before.clock + wait) current with
      rejected | ⟨named, rfl, standing, accepted⟩
    · rw [rejected] at stepped
      obtain rfl := Option.some.inj stepped
      exact pruned.timed _
    · rw [accepted] at stepped
      obtain rfl := Option.some.inj stepped
      refine Invariant.timed ((pruned.activated standing).grantedLease .activateStreamLease
        standing ?_ (by simp)) _
      intro record held
      exact Invariant.pruned_attaches standing record (by simpa using held)
  | authorizeStreamLease lease identity wait current =>
    obtain rfl := Option.some.inj stepped
    exact (holds.authorizedBy .authorizeStreamLease lease identity _ current).timed _
  | performWithStreamLease lease action wait current =>
    obtain rfl := Option.some.inj stepped
    exact (holds.authorizedBy .performWithStreamLease lease action _ current).timed _
  | authorizeTakeoverToken token peer lease wait current again =>
    obtain rfl := Option.some.inj stepped
    exact (holds.grantedToken (holds.prune (before.clock + wait) current) (by simp)
      (before.state.authorizeTakeoverToken_effect token peer lease _ current again)).timed _
  | reserveTakeoverToken token peer lease wait current again pause =>
    obtain rfl := Option.some.inj stepped
    exact (holds.reservedBy (before.state.reserveTakeoverToken_effect token peer lease
      (before.clock + wait) current again (before.clock + wait + pause))).timed _
  | endStreamLease lease =>
    obtain rfl := Option.some.inj stepped
    exact holds.endedByCall lease
  | revokeToken token =>
    obtain rfl := Option.some.inj stepped
    exact holds.revokedToken token
  | revokeAll =>
    obtain rfl := Option.some.inj stepped
    exact holds.revokedAll

/-- Filtering a table keeps what a lookup finds and the filter keeps. -/
theorem lookup_filter {table : List (Text × Record)} {key : Text} {record : Record}
    (found : table.lookup key = some record) {keep : Text × Record → Bool}
    (kept : keep (key, record) = true) : (table.filter keep).lookup key = some record := by
  obtain ⟨before, after, rfl, others⟩ := List.lookup_eq_some_iff.mp found
  rw [List.filter_append, List.filter_cons_of_pos kept]
  refine List.lookup_eq_some_iff.mpr ⟨before.filter keep, after.filter keep, rfl, ?_⟩
  exact fun entry member => others entry (List.mem_of_mem_filter member)

/-- While a reservation is live, no response supersedes its token. -/
theorem reserved_token_kept {session after : Session} {index : Nat} {verdict : Verdict}
    {account : AccountIdentity} {wait : Nat} {current : GraphicalIdentity} {pause : Nat}
    {random : Option Text}
    (stepped : system.step session (.verified index verdict account wait current pause random) =
      some after) {token : Text} {record : Record}
    (reserved : session.state.takeoverToken = some token)
    (held : session.state.tokens.lookup token = some record)
    (live : session.clock + wait < session.state.takeoverDeadline)
    (unexpired : session.clock + wait < record.expires)
    (inScope : sameScope record.scope current = true) :
    after.state.tokens.lookup token = some record := by
  obtain ⟨response, chosen, rfl⟩ := Option.map_eq_some_iff.mp stepped
  have effect := session.state.respondVerified_effect response.peer response.record
    response.generation verdict account (session.clock + wait) current
    (session.clock + wait + pause) random
  have kept : State.keeps (session.clock + wait) current (token, record) = true := by
    have young : ¬ record.expires ≤ session.clock + wait := by omega
    simp [State.keeps, inScope, young]
  have pruned := lookup_filter held kept
  have standing : (session.state.prune (session.clock + wait) current).tokens.lookup token =
      some record ∧
      (session.state.prune (session.clock + wait) current).takeoverToken = some token := by
    obtain ⟨_, _, _, frame⟩ := session.state.prune_frame (session.clock + wait) current
    have early : ¬ session.clock + wait ≥ session.state.takeoverDeadline := by omega
    rw [frame]
    refine ⟨pruned, ?_⟩
    simp [reserved, pruned, early]
  show (session.state.respondVerified response.peer response.record response.generation verdict
    account (session.clock + wait) current (session.clock + wait + pause)
    random).1.tokens.lookup token = some record
  generalize session.state.respondVerified response.peer response.record response.generation
    verdict account (session.clock + wait) current (session.clock + wait + pause) random =
    outcome at effect ⊢
  obtain ⟨decided, answer⟩ := outcome
  dsimp only at effect ⊢
  cases effect with
  | refused answer refusal => exact standing.1
  | issued newer expires greeter confirmed unrevoked attaches room fresh =>
    have other : (token == newer) = false := by
      by_contra same
      obtain rfl : token = newer := by simpa using same
      rw [fresh] at standing
      exact absurd standing.1 (by simp)
    rw [List.lookup_cons, other]
    exact lookup_filter standing.1 (by simp [State.superseded, standing.2])

end Session

/-- What the session guarantees of every run. -/
structure Session.Authority (session : Session) : Prop where
  /-- No conversation is consumed twice. -/
  conversationsOnce : session.history.consumed.Nodup
  /-- No token is claimed twice. -/
  tokensOnce : (session.history.claims.map Claim.serial).Nodup
  /-- At most one verification runs. -/
  oneVerification : session.running.length + session.closing ≤ 1
  /-- At most 16 conversations are pending. -/
  conversations : session.state.pending.length ≤ 16
  /-- At most 4 tokens are outstanding. -/
  tokens : session.state.tokens.length ≤ 4
  /-- At most one lease object holds a record or is active. -/
  oneLease : ∀ first second : Nat,
    ((session.state.leases first).record.isSome ∨ (session.state.leases first).active) →
    ((session.state.leases second).record.isSome ∨ (session.state.leases second).active) →
    first = second
  /-- The flag says exactly whether one does. -/
  flag : session.state.hasStreamLease = true ↔
    ∃ lease, (session.state.leases lease).record.isSome = true
  /-- A response never supersedes the token of a live reservation. -/
  reservation : ∀ index verdict account wait current pause random after,
    system.step session (.verified index verdict account wait current pause random) = some after →
    ∀ token record, session.state.takeoverToken = some token →
      session.state.tokens.lookup token = some record →
      session.clock + wait < session.state.takeoverDeadline →
      session.clock + wait < record.expires → sameScope record.scope current = true →
      after.state.tokens.lookup token = some record
  /-- Every authority was sound when it was granted: for a verified account, its peer, the
  current scope and a lease still standing, and for nothing that began before everything was
  last revoked. -/
  grants : ∀ grant ∈ session.history.grants, ∃ record, grant.Sound session.history record

/-- A lease object holds a record or is active exactly if the session points at it. -/
theorem Invariant.current {session : Session} (holds : Invariant session) {lease : Nat}
    (used : (session.state.leases lease).record.isSome ∨ (session.state.leases lease).active) :
    session.state.lease = some lease := by
  by_contra elsewhere
  have blank := holds.others lease elsewhere
  simp [blank] at used

/-- Every run of the authentication session keeps its guarantees. -/
theorem Session.reachable_authority {session : Session} (reachable : system.Reachable session) :
    session.Authority := by
  have holds : Invariant session := by
    refine preserves_invariant.reachable ?_ reachable
    rintro first rfl
    exact .start
  exact {
    conversationsOnce := (List.nodup_append.mp holds.conversations).2.1
    tokensOnce :=
      (List.nodup_append.mp (List.nodup_append.mp holds.records).2.1).2.1
    oneVerification := by
      have counted := holds.single
      split at counted
      · omega
      · omega
    conversations := holds.pendingBound
    tokens := holds.tokensBound
    oneLease := by
      intro first second used other
      exact Option.some.inj ((holds.current used).symm.trans (holds.current other))
    flag := by
      rw [holds.flag]
      constructor
      · intro present
        obtain ⟨lease, current⟩ := Option.isSome_iff_exists.mp present
        obtain ⟨record, held⟩ := holds.lease lease current
        exact ⟨lease, by rw [held.holds]; rfl⟩
      · rintro ⟨lease, used⟩
        rw [holds.current (.inl used)]
        rfl
    reservation := fun _ _ _ _ _ _ _ _ stepped _ _ reserved held live unexpired inScope =>
      reserved_token_kept stepped reserved held live unexpired inScope
    grants := holds.grants }

/-- One host desktop, in the scope of its owner. -/
def sampleScope : GraphicalIdentity := ⟨true, 1, ⟨501, 7⟩, .desktop⟩

/-- The owner logs in from one peer and sends one frame; then everything is revoked, and the
lease is tried again. -/
def sampleCalls : List Action :=
  let peer : Option Peer := some [192, 0, 2, 1]
  let conversation : Text := .replicate 44 65
  let token : Text := .replicate 44 66
  [.start peer (some [97]) 1 sampleScope 0 (some conversation),
    .respond peer (some conversation) 1 sampleScope 0,
    .verified 0 .verified ⟨501, 7⟩ 2 sampleScope 0 (some token), .respondFinally,
    .claimToken (some token) peer 1 sampleScope 0 sampleScope sampleScope 0 (some [67]),
    .activateStreamLease (some 0) 1 sampleScope,
    .performWithStreamLease (some 0) true 1 sampleScope, .revokeAll,
    .performWithStreamLease (some 0) true 1 sampleScope]

/-- The session after those calls. -/
def sampleSession : Session := (Session.system.run {} sampleCalls).getD {}

/-- The sample run grants a token, a lease, its activation and one action, and nothing after
the revocation. -/
theorem sampleSession_authority :
    sampleSession.history.grants.map Grant.operation =
        [.performWithStreamLease, .activateStreamLease, .claimToken, .respond] ∧
      sampleSession.Authority := by
  have evaluated : Session.system.run {} sampleCalls = some sampleSession := rfl
  exact ⟨rfl, Session.reachable_authority (Transition.System.reachable_of_run rfl evaluated)⟩

end Plank.Auth
