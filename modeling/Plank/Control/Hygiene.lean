import Plank.Control.Accounting

/-!
# No token outlives its client

The invariant follows each token that a response created or an operation was authorized with:
through the stages of the operation, the reply that carries it, and the loss of that reply. A
token counts as revoked when it is in no table and no lease was claimed with it.
-/

namespace Plank.Control

open Plank.Auth (Credential Response)

/-- An operation that must not leave its token alive: it was cancelled, late, raised an exception
or was rejected for good. A display that is not ready and a missing topology may be asked for
again. -/
def Ended.failed (ended : Ended) : Bool :=
  ended.cancelled || ended.late ||
    match ended.outcome with
    | .handled path status active =>
      !(status = 200 || (path = .display && (status = 503 || (status = 409 && active))))
    | .read status => !(status = 200 || status = 503)
    | .threw => true

/-- The reply a block of the network queue hands over. -/
def NetworkBlock.answer : NetworkBlock → Option Answer
  | .reply answer | .served answer => some answer
  | .clearBusy | .stop => none

/-- The token a reply stands for is issued, and revoked if the reply does not carry it. -/
def Answer.Backed (session : Auth.Session) (answer : Answer) : Prop :=
  ∀ credential, answer.origin = some credential → session.Issued credential ∧
    (answer.token = some credential.token ∨ session.Retired credential)

/-- What is known of the token of an operation at each stage. -/
def Stage.Sound (session : Auth.Session) : Stage → Prop
  | .decided (some (response, origin)) => ∀ credential, origin = some credential →
    session.Issued credential ∧ ∃ greeter, response = .authenticated credential.token greeter
  | .operating _ credential | .handled _ credential _ _ => session.Issued credential
  | .looking _ setupToken _ _ => ∀ credential, setupToken = some credential →
    session.Issued credential
  | .looked _ setupToken status authorized threw =>
    (∀ credential, setupToken = some credential → session.Issued credential) ∧
      (threw = true → status = 503 ∧ authorized = false)
  | _ => True

/-- A stage stays sound while issued tokens stay issued. -/
theorem Stage.Sound.mono {before after : Auth.Session} {stage : Stage}
    (sound : stage.Sound before)
    (issued : ∀ credential, before.Issued credential → after.Issued credential) :
    stage.Sound after := by
  cases stage with
  | handling path value authorization => trivial
  | verifying => trivial
  | decided answer =>
    cases answer with
    | none => trivial
    | some pair =>
      intro credential same
      obtain ⟨held, named⟩ := sound credential same
      exact ⟨issued credential held, named⟩
  | operating path credential => exact issued credential sound
  | handled path credential status reply => exact issued credential sound
  | leaving => trivial
  | reading target authorization => trivial
  | looking target setupToken token before =>
    exact fun credential same => issued credential (sound credential same)
  | looked target setupToken status authorized threw =>
    exact ⟨fun credential same => issued credential (sound.1 credential same), sound.2⟩

namespace Server

/-- Replies waiting on the network queue or being sent. -/
def answers (server : Server) : List Answer :=
  server.network.filterMap NetworkBlock.answer ++ server.sending

/-- The invariant of the tokens. -/
structure Hygienic (server : Server) : Prop where
  /-- The session keeps its own invariant. -/
  session : Auth.Invariant server.session
  /-- After the `revokeAll` of a stop the session is empty. -/
  empty : server.revoked = true → server.session.state.Empty
  /-- The token of the running operation. -/
  stage : ∀ running, server.running = some running → running.stage.Sound server.session
  /-- The tokens of the replies on their way. -/
  answers : ∀ answer ∈ server.answers, answer.Backed server.session
  /-- A token whose reply was lost is revoked, or about to be. -/
  lost : ∀ credential ∈ server.lost, server.session.Issued credential ∧
    (.revokeToken credential.token ∈ server.lane ∨ server.session.Retired credential)
  /-- The token of a failed operation is revoked. -/
  ended : ∀ ended ∈ server.ended, ended.failed = true → server.session.Retired ended.credential

namespace Hygienic

variable {server : Server}

/-- The server as it is created. -/
theorem start : Hygienic {} where
  session := .start
  empty := by simp
  stage := by simp
  answers := by simp [Server.answers]
  lost := by simp
  ended := by simp

/-- A call of the session keeps every token where it is known to be. -/
theorem call (holds : Hygienic server) {action : Auth.Action} {after : Server}
    (called : server.call action = some after)
    (quiet : server.revoked = true → Auth.Session.quiet action = true) : Hygienic after := by
  obtain ⟨session, stepped, rfl⟩ := Option.map_eq_some_iff.mp called
  have issued : ∀ credential, server.session.Issued credential → session.Issued credential :=
    fun credential held => held.step holds.session stepped
  have retired : ∀ credential, server.session.Retired credential → session.Retired credential :=
    fun credential gone => gone.step holds.session stepped
  exact {
    session := Auth.Session.preserves_invariant _ action _ holds.session stepped
    empty := fun revoked => Auth.Session.quiet_empty (holds.empty revoked) (quiet revoked) stepped
    stage := fun running busy => (holds.stage running busy).mono issued
    answers := by
      intro answer member credential origin
      obtain ⟨held, carried⟩ := holds.answers answer member credential origin
      exact ⟨issued credential held, carried.imp_right (retired credential)⟩
    lost := by
      intro credential member
      obtain ⟨held, coming⟩ := holds.lost credential member
      exact ⟨issued credential held, coming.imp_right (retired credential)⟩
    ended := fun ended member failed => retired _ (holds.ended ended member failed) }

/-- A lost reply queues the revocation of its token. -/
theorem undeliverable (holds : Hygienic server) {answer : Answer}
    (backed : answer.Backed server.session) : Hygienic (server.undeliverable answer) :=
  { holds with
    lost := by
      intro credential member
      rcases List.mem_append.mp member with new | old
      · have origin : answer.origin = some credential := by simpa using new
        obtain ⟨held, carried⟩ := backed credential origin
        refine ⟨held, carried.imp_left ?_⟩
        intro token
        simp [Server.undeliverable, token]
      · obtain ⟨held, coming⟩ := holds.lost credential old
        exact ⟨held, coming.imp_left (List.mem_append_left _)⟩ }

/-- A reply is sent or lost. -/
theorem replyBytes (holds : Hygienic server) {answer : Answer}
    (backed : answer.Backed server.session) : Hygienic (server.replyBytes answer) := by
  unfold Server.replyBytes
  split
  · exact holds.undeliverable backed
  · exact { holds with
      answers := by
        intro other member
        simp only [Server.answers, List.mem_append, List.mem_singleton] at member
        rcases member with queued | sending | rfl
        · exact holds.answers other (List.mem_append_left _ queued)
        · exact holds.answers other (List.mem_append_right _ sending)
        · exact backed }

/-- A reply without a token is backed. -/
theorem plain {session : Auth.Session} {id status : Nat} :
    Answer.Backed session { request := id, status } := by
  intro credential origin
  exact absurd origin (by simp)

/-- The running operation goes on. -/
theorem proceed (holds : Hygienic server) {id : Nat} {stage : Stage}
    (sound : stage.Sound server.session) : Hygienic (server.proceed id stage) :=
  { holds with
    stage := by
      intro running busy
      obtain rfl := Option.some.inj busy
      exact sound }

/-- The running operation dispatches its reply. -/
theorem answerLater (holds : Hygienic server) {answer : Answer}
    (backed : answer.Backed server.session) : Hygienic (server.answerLater answer) :=
  { holds with
    stage := by
      intro running busy
      obtain rfl := Option.some.inj busy
      trivial
    answers := by
      intro other member
      simp only [Server.answers, Server.answerLater, List.filterMap_append, List.mem_append] at member
      rcases member with (queued | new) | sending
      · exact holds.answers other (List.mem_append_left _ queued)
      · obtain rfl : other = answer := by simpa [NetworkBlock.answer] using new
        exact backed
      · exact holds.answers other (List.mem_append_right _ sending) }

/-- A send completes. -/
theorem sent (holds : Hygienic server) {answer : Answer} (backed : answer.Backed server.session)
    (error : Bool) : Hygienic (server.sent answer error) := by
  unfold Server.sent
  cases error with
  | false =>
    simp only [Bool.false_eq_true, if_false]
    split
    · exact holds
    · exact { holds with }
  | true =>
    have lost := holds.undeliverable backed
    simp only [if_true]
    split
    · exact lost
    · exact { lost with }

/-- Writing down how an operation ended, its token being revoked if it failed. -/
theorem record (holds : Hygienic server) {id : Nat} {credential : Option Credential}
    {outcome : Outcome}
    (retired : ∀ named, credential = some named →
      Ended.failed ⟨named, outcome, (server.requests id).cancelled,
        (server.requests id).deadline ≤ server.clock⟩ = true → server.session.Retired named) :
    Hygienic (server.record id credential outcome) :=
  { holds with
    ended := by
      intro ended member failed
      rcases List.mem_append.mp member with new | old
      · obtain ⟨named, present, rfl⟩ := List.mem_map.mp new
        exact retired named (by simpa using present) failed
      · exact holds.ended ended old failed }

/-- Revoking an issued token under a condition. -/
theorem revokeIf (holds : Hygienic server) {condition : Bool} {credential : Credential}
    (issued : server.session.Issued credential) {after : Server}
    (called : server.revokeIf condition credential.token = some after) :
    Hygienic after ∧ after.session.Issued credential ∧
      (condition = true → after.session.Retired credential) ∧
      after.requests = server.requests ∧ after.clock = server.clock := by
  unfold Server.revokeIf at called
  split at called
  · have kept := holds.call called fun _ => rfl
    obtain ⟨session, stepped, rfl⟩ := Option.map_eq_some_iff.mp called
    exact ⟨kept, issued.step holds.session stepped,
      fun _ => issued.revoked holds.session stepped, rfl, rfl⟩
  · next spared =>
    obtain rfl := Option.some.inj called
    exact ⟨holds, issued, fun condition => absurd condition spared, rfl, rfl⟩

/-- An authorization by an operation, and the token it accepts. -/
theorem authorize (holds : Hygienic server) {id : Nat} {token : Auth.Text} {reading : Reading}
    {after : Server × Option Auth.Record}
    (called : server.authorize id token reading = some after) :
    Hygienic after.1 ∧ (∀ credential, server.session.Issued credential →
      after.1.session.Issued credential) ∧
      ∀ record, after.2 = some record → after.1.session.Issued ⟨token, record.serial⟩ := by
  unfold Server.authorize at called
  obtain ⟨next, accepted, rfl⟩ := Option.map_eq_some_iff.mp called
  have kept := holds.call accepted fun _ => rfl
  obtain ⟨session, stepped, rfl⟩ := Option.map_eq_some_iff.mp accepted
  refine ⟨kept, fun credential held => held.step holds.session stepped, ?_⟩
  intro record found
  obtain ⟨text, named, member⟩ := Auth.Session.authorizeToken_member stepped found
  obtain rfl := Option.some.inj named
  exact Auth.Session.issued_of_member kept.session member

/-- The token a decided response creates. -/
theorem verified (holds : Hygienic server) (live : server.revoked = false) {id : Nat}
    {verdict : Auth.Verdict} {account : Auth.AccountIdentity} {reading : Reading} {after : Server}
    (stepped : server.verified id verdict account reading = some after) : Hygienic after := by
  obtain ⟨response, chosen, decided⟩ := Option.bind_eq_some_iff.mp stepped
  obtain ⟨next, called, rfl⟩ := Option.map_eq_some_iff.mp decided
  have kept := holds.call called fun revoked => by simp [live] at revoked
  refine kept.proceed ?_
  obtain ⟨session, moved, rfl⟩ : ∃ session, server.session.step (.verified 0 verdict account
      reading.wait reading.current reading.pause reading.random) = some session ∧
      { server with session } = next := Option.map_eq_some_iff.mp called
  intro credential origin
  split at origin
  · next token greeter answered =>
    obtain rfl := Option.some.inj origin
    obtain ⟨record, member, same⟩ := Auth.Session.verified_member moved chosen answered
    have issued := Auth.Session.issued_of_member kept.session member
    rw [same] at issued
    exact ⟨issued, greeter, answered⟩
  · exact absurd origin (by simp)

/-- The end of `respondForPeer`: a token created is the token of the reply. -/
theorem responded (holds : Hygienic server) (live : server.revoked = false) {id : Nat}
    {answer : Option (Response × Option Credential)}
    (sound : (Stage.decided answer).Sound server.session) {after : Server}
    (stepped : server.responded id answer = some after) : Hygienic after := by
  obtain ⟨next, called, rfl⟩ := Option.map_eq_some_iff.mp stepped
  have kept := holds.call called fun revoked => by simp [live] at revoked
  obtain ⟨session, moved, rfl⟩ : ∃ session, server.session.step .respondFinally = some session ∧
      { server with session } = next := Option.map_eq_some_iff.mp called
  cases answer with
  | none => exact kept.answerLater plain
  | some pair =>
    obtain ⟨response, origin⟩ := pair
    refine kept.answerLater ?_
    intro credential same
    obtain ⟨issued, greeter, rfl⟩ := sound credential same
    exact ⟨issued.step holds.session moved, .inl rfl⟩

/-- `handlePath` up to its handler: a token is accepted before the handler runs. -/
theorem enterHandle (holds : Hygienic server) (live : server.revoked = false)
    {handlers : Handlers} {id : Nat} {path : Path} {value : Value} {authorization : Auth.Text}
    {reading : Reading} {after : Server}
    (stepped : Server.enterHandle handlers server id path value authorization reading =
      some after) : Hygienic after := by
  have unrevoked : ∀ action, server.revoked = true → Auth.Session.quiet action = true :=
    fun _ revoked => by simp [live] at revoked
  unfold Server.enterHandle at stepped
  dsimp only at stepped
  split at stepped
  · obtain rfl := Option.some.inj stepped
    exact holds.proceed trivial
  · split at stepped
    · obtain ⟨next, called, rfl⟩ := Option.map_eq_some_iff.mp stepped
      exact (holds.call called (unrevoked _)).answerLater plain
    · obtain ⟨next, called, rfl⟩ := Option.map_eq_some_iff.mp stepped
      have kept := holds.call called (unrevoked _)
      split
      · exact kept.answerLater plain
      · exact kept.proceed trivial
    · obtain rfl := Option.some.inj stepped
      exact holds.answerLater plain
    · obtain rfl := Option.some.inj stepped
      exact holds.answerLater plain
    · obtain rfl := Option.some.inj stepped
      exact holds.answerLater plain
    · split at stepped
      · unfold Server.enterHandler at stepped
        split at stepped
        · obtain rfl := Option.some.inj stepped
          exact holds.answerLater plain
        · obtain ⟨⟨next, record⟩, called, rfl⟩ := Option.map_eq_some_iff.mp stepped
          obtain ⟨kept, _, accepted⟩ := holds.authorize called
          cases record with
          | none => exact kept.answerLater plain
          | some record => exact kept.proceed (accepted record rfl)
      · obtain rfl := Option.some.inj stepped
        exact holds.answerLater plain

/-- The block of a `GET` request up to the topology. -/
theorem enterRead (holds : Hygienic server) {id : Nat} {target : Target}
    {authorization : Auth.Text} {reading : Reading} {after : Server}
    (stepped : server.enterRead id target authorization reading = some after) :
    Hygienic after := by
  have nothing : ∀ session status authorized,
      (Stage.looked target none status authorized false).Sound session :=
    fun _ _ _ => ⟨fun _ absent => absurd absent (by simp), by simp⟩
  unfold Server.enterRead at stepped
  split at stepped
  · obtain rfl := Option.some.inj stepped
    exact holds.proceed (nothing _ _ _)
  · obtain ⟨⟨next, record⟩, called, rfl⟩ := Option.map_eq_some_iff.mp stepped
    obtain ⟨kept, _, accepted⟩ := holds.authorize called
    cases record with
    | none => exact kept.proceed (nothing _ _ _)
    | some record =>
      refine kept.proceed ?_
      intro credential setup
      obtain ⟨_, same⟩ := Option.ite_none_right_eq_some.mp setup
      obtain rfl := Option.some.inj same
      exact accepted record rfl

/-- The handler of a path returned. -/
theorem handled (holds : Hygienic server) {id : Nat} {path : Path} {credential : Credential}
    (issued : server.session.Issued credential) {status : Nat} {reply : Option HandlerReply}
    {reading : Reading} {after : Server}
    (stepped : server.handled id path credential status reply reading = some after) :
    Hygienic after := by
  unfold Server.handled at stepped
  split at stepped
  · obtain rfl := Option.some.inj stepped
    exact holds.proceed issued
  · obtain ⟨⟨next, record⟩, called, rfl⟩ := Option.map_eq_some_iff.mp stepped
    obtain ⟨kept, still, _⟩ := holds.authorize called
    cases record with
    | none => exact kept.proceed (still credential issued)
    | some record => exact kept.proceed (still credential issued)

/-- The topology was looked up. -/
theorem looked (holds : Hygienic server) {id : Nat} {target : Target}
    {setupToken : Option Credential} {token : Auth.Text} {before : Auth.AccountIdentity}
    (sound : (Stage.looking target setupToken token before).Sound server.session)
    {topology : Bool} {reading : Reading} {after : Server}
    (stepped : server.looked id target setupToken token before topology reading = some after) :
    Hygienic after := by
  obtain ⟨⟨next, record⟩, called, rfl⟩ := Option.map_eq_some_iff.mp stepped
  obtain ⟨kept, still, _⟩ := holds.authorize called
  have issued : ∀ credential, setupToken = some credential → next.session.Issued credential :=
    fun credential same => still credential (sound credential same)
  dsimp only
  split
  · exact kept.proceed ⟨issued, by simp⟩
  · exact kept.proceed ⟨issued, by simp⟩

/-- The end of `handlePath` for a path with a handler: a failed operation revokes its token, and
the reply of any other carries it. -/
theorem concludeHandled (holds : Hygienic server) {id : Nat} {path : Path}
    {credential : Credential} (issued : server.session.Issued credential) {status : Nat}
    {reply : HandlerReply} {after : Server}
    (stepped : server.concludeHandled id path credential status reply = some after) :
    Hygienic after := by
  obtain ⟨next, called, rfl⟩ := Option.map_eq_some_iff.mp stepped
  obtain ⟨kept, still, retired, requests, clock⟩ := holds.revokeIf issued called
  have recorded : Hygienic (next.record id (some credential)
      (.handled path status reply.active)) := by
    refine kept.record ?_
    rintro named same failed
    obtain rfl := Option.some.inj same
    apply retired
    rw [requests, clock] at failed
    simp only [Ended.failed, Bool.or_eq_true] at failed
    rcases failed with (cancelled | late) | rejected
    · simp [expired, cancelled]
    · simp only [decide_eq_true_eq] at late
      simp [expired, late]
    · have final : (status ≠ 200 && !readinessPending path status reply) = true := by
        simp only [readinessPending]
        simpa only [Bool.not_or, Bool.and_eq_true, decide_not] using rejected
      rw [final, Bool.true_or]
  refine recorded.answerLater ?_
  intro named same
  obtain rfl := Option.some.inj same
  refine ⟨still, ?_⟩
  by_cases claimed : (if path = .launch then decide (status = 200) else
      decide (status = 200) || readinessPending path status reply) = true
  · exact .inl (by simp only [claimed, if_true])
  · refine .inr (retired ?_)
    by_cases launch : path = .launch
    · simp only [launch, if_true, decide_eq_true_eq] at claimed
      simp [launch, readinessPending, claimed]
    · simp only [launch, if_false, Bool.or_eq_true, decide_eq_true_eq, not_or,
        Bool.not_eq_true] at claimed
      simp [claimed.1, claimed.2]

/-- The end of the block of a `GET` request. -/
theorem concludeLooked (holds : Hygienic server) {id : Nat} {target : Target}
    {setupToken : Option Credential} {status : Nat} {authorized threw : Bool}
    (sound : (Stage.looked target setupToken status authorized threw).Sound server.session)
    {after : Server}
    (stepped : server.concludeLooked id target setupToken status authorized threw = some after) :
    Hygienic after := by
  obtain ⟨next, called, rfl⟩ := Option.map_eq_some_iff.mp stepped
  have known : Hygienic (next.record id setupToken (if threw then .threw else .read status)) ∧
      ∀ credential, setupToken = some credential → next.session.Issued credential := by
    cases setupToken with
    | none =>
      obtain rfl := Option.some.inj called
      exact ⟨holds.record (by simp), by simp⟩
    | some credential =>
      obtain ⟨kept, still, retired, requests, clock⟩ :=
        holds.revokeIf (sound.1 credential rfl) called
      refine ⟨kept.record ?_, ?_⟩
      · rintro named same failed
        obtain rfl := Option.some.inj same
        apply retired
        rw [requests, clock] at failed
        simp only [Ended.failed, Bool.or_eq_true] at failed
        rcases failed with (cancelled | late) | rejected
        · simp [expired, cancelled]
        · simp only [decide_eq_true_eq] at late
          simp [expired, late]
        · cases threw with
          | true =>
            obtain ⟨rfl, rfl⟩ := sound.2 rfl
            simp
          | false =>
            simp only [Bool.false_eq_true, if_false, Bool.not_or, Bool.and_eq_true,
              Bool.not_eq_true', decide_eq_false_iff_not] at rejected
            simp [rejected.1, rejected.2]
      · rintro named same
        obtain rfl := Option.some.inj same
        exact still
  obtain ⟨recorded, issued⟩ := known
  exact { recorded with
    stage := by simp
    answers := by
      intro other member
      simp only [Server.answers, List.filterMap_append, List.mem_append] at member
      rcases member with (queued | new) | sending
      · exact recorded.answers other (List.mem_append_left _ queued)
      · simp only [List.filterMap_cons, List.filterMap_nil, NetworkBlock.answer,
          List.mem_singleton] at new
        obtain rfl := new
        intro credential origin
        have setup : setupToken = some credential := origin
        exact ⟨issued credential setup, .inl (by rw [setup]; rfl)⟩
      · exact recorded.answers other (List.mem_append_right _ sending) }

/-- The `@catch` block of `handlePath` revokes the token. -/
theorem caught (holds : Hygienic server) {id : Nat} {credential : Credential}
    (issued : server.session.Issued credential) {after : Server}
    (stepped : server.caught id credential = some after) : Hygienic after := by
  obtain ⟨next, called, rfl⟩ := Option.map_eq_some_iff.mp stepped
  obtain ⟨kept, still, retired, _⟩ :=
    holds.revokeIf issued (show server.revokeIf true credential.token = some next by
      simpa [Server.revokeIf] using called)
  have recorded : Hygienic (next.record id (some credential) .threw) := by
    refine kept.record ?_
    rintro named same _
    obtain rfl := Option.some.inj same
    exact retired rfl
  refine recorded.answerLater ?_
  intro named same
  obtain rfl := Option.some.inj same
  exact ⟨still, .inr (retired rfl)⟩

/-- An exception in the running operation. -/
theorem raise (holds : Hygienic server) {id : Nat} {stage : Stage}
    (sound : stage.Sound server.session) {after : Server}
    (stepped : server.raise ⟨id, stage⟩ = some after) : Hygienic after := by
  cases stage with
  | handling path value authorization =>
    obtain ⟨_, answered⟩ := Option.ite_none_left_eq_some.mp stepped
    obtain rfl := Option.some.inj answered
    exact holds.answerLater plain
  | operating path credential => exact holds.caught sound stepped
  | handled path credential status reply => exact holds.caught sound stepped
  | reading target authorization =>
    obtain rfl := Option.some.inj stepped
    exact holds.proceed ⟨by simp, by simp⟩
  | looking target setupToken token before =>
    obtain rfl := Option.some.inj stepped
    exact holds.proceed ⟨sound, by simp⟩
  | verifying => exact absurd stepped (by simp [Server.raise])
  | decided answer => exact absurd stepped (by simp [Server.raise])
  | leaving => exact absurd stepped (by simp [Server.raise])
  | looked target setupToken status authorized threw =>
    exact absurd stepped (by simp [Server.raise])

/-- Every stage of the running operation. -/
theorem advance (holds : Hygienic server) (live : server.revoked = false) {handlers : Handlers}
    {running : Running} (busy : server.running = some running) {label : Label} {after : Server}
    (stepped : Server.advance handlers server running.request running.stage label = some after) :
    Hygienic after := by
  have sound := holds.stage running busy
  have unrevoked : ∀ action, server.revoked = true → Auth.Session.quiet action = true :=
    fun _ revoked => by simp [live] at revoked
  obtain ⟨id, stage⟩ := running
  dsimp only at sound stepped
  clear busy
  unfold Server.advance at stepped
  split at stepped
  · exact holds.enterHandle live stepped
  · exact holds.enterRead stepped
  · exact holds.verified live stepped
  · obtain ⟨next, called, rfl⟩ := Option.map_eq_some_iff.mp stepped
    exact (holds.call called (unrevoked _)).proceed trivial
  · exact holds.responded live sound stepped
  · exact holds.call stepped (unrevoked _)
  · exact holds.handled sound stepped
  · exact holds.looked sound stepped
  · exact holds.concludeHandled sound stepped
  · exact holds.concludeLooked sound stepped
  · obtain rfl := Option.some.inj stepped
    exact { holds with
      stage := by simp
      answers := by
        intro other member
        exact holds.answers other (by simpa [Server.answers, NetworkBlock.answer] using member) }
  · exact holds.raise sound stepped
  · exact absurd stepped (by simp)

/-- A receive callback touches no token. -/
theorem received (holds : Hygienic server) (handlers : Handlers) (id : Nat) (event : Received) :
    Hygienic (Server.received handlers server id event) := by
  have dispatched : ∀ {requests block}, Hygienic
      ({ server with requests }.dispatchAuth block) := by
    intro requests block
    exact { holds with
      lost := by
        intro credential member
        obtain ⟨held, coming⟩ := holds.lost credential member
        exact ⟨held, coming.imp_left (List.mem_append_left _)⟩ }
  have replied : ∀ {requests status}, Hygienic ({ server with requests }.replyPlain id status) := by
    intro requests status
    have changed : Hygienic { server with requests } := { holds with }
    exact changed.replyBytes plain
  unfold Server.received
  split
  · exact holds
  · cases event with
    | error => exact { holds with }
    | invalid => exact holds.replyBytes plain
    | incomplete complete =>
      cases complete with
      | false =>
        show Hygienic (server.receive id)
        unfold Server.receive
        dsimp only
        split
        · exact holds
        · exact { holds with }
      | true => exact { holds with }
    | get target authorization =>
      show Hygienic (Server.receivedGet _ _ _ _ _)
      unfold Server.receivedGet
      split
      · exact replied
      · split
        · exact replied
        · split
          · exact replied
          · split
            · exact replied
            · exact dispatched
    | post path value authorization =>
      show Hygienic (Server.receivedPost _ _ _ _ _ _)
      unfold Server.receivedPost
      split
      · exact replied
      · split
        · exact replied
        · split
          · exact replied
          · dsimp only
            split
            · exact dispatched
            · exact dispatched

/-- The next block of the network queue. -/
theorem runNetwork (holds : Hygienic server) {block : NetworkBlock} {rest : List NetworkBlock}
    (queued : server.network = block :: rest) :
    Hygienic ({ server with network := rest }.runNetwork block) := by
  have popped : Hygienic { server with network := rest } :=
    { holds with
      answers := by
        intro other member
        refine holds.answers other ?_
        simp only [Server.answers, queued, List.filterMap_cons, List.mem_append] at member ⊢
        split
        · exact member
        · exact member.imp_left (List.mem_cons_of_mem _) }
  have carried : ∀ answer, block.answer = some answer → answer.Backed server.session := by
    intro answer carries
    refine holds.answers answer (List.mem_append_left _ ?_)
    rw [queued]
    exact List.mem_filterMap.mpr ⟨block, List.mem_cons_self, carries⟩
  cases block with
  | reply answer => exact popped.replyBytes (carried answer rfl)
  | served answer =>
    have replied := popped.replyBytes (carried answer rfl)
    exact { replied with }
  | clearBusy => exact { popped with }
  | stop =>
    exact { popped with
      lost := by
        intro credential member
        obtain ⟨held, coming⟩ := popped.lost credential member
        exact ⟨held, coming.imp_left (List.mem_append_left _)⟩ }

/-- The idle lane takes its next block; a revocation it takes is done. -/
theorem runLane (holds : Hygienic server) {block : LaneBlock} {rest : List LaneBlock}
    (queued : server.lane = block :: rest) {after : Server}
    (stepped : { server with lane := rest }.runLane block = some after) : Hygienic after := by
  have popped : ∀ {session : Auth.Session}, Hygienic { server with session } →
      (∀ credential, block = .revokeToken credential.token → server.session.Issued credential →
        session.Retired credential) →
      (∀ credential, server.session.Issued credential → session.Issued credential) →
      (∀ credential, server.session.Retired credential → session.Retired credential) →
      Hygienic { server with session, lane := rest } := by
    intro session kept done issued retired
    exact { kept with
      lost := by
        intro credential member
        obtain ⟨held, coming⟩ := holds.lost credential member
        refine ⟨issued credential held, ?_⟩
        rcases coming with waiting | gone
        · rw [queued] at waiting
          rcases List.mem_cons.mp waiting with now | later
          · exact .inr (done credential now.symm held)
          · exact .inl later
        · exact .inr (retired credential gone) }
  have unchanged : (∀ token, block ≠ .revokeToken token) →
      Hygienic { server with lane := rest } := by
    intro other
    exact popped holds (fun credential same _ => absurd same (other _)) (fun _ held => held)
      (fun _ gone => gone)
  have called : ∀ {action : Auth.Action} {session : Auth.Session},
      server.session.step action = some session → Auth.Session.quiet action = true →
      (∀ credential, block = .revokeToken credential.token → server.session.Issued credential →
        session.Retired credential) → Hygienic { server with session, lane := rest } := by
    intro action session moved quiet done
    have kept : Hygienic { server with session } :=
      holds.call (show server.call action = some { server with session } by
        simp [Server.call, moved]) (fun _ => quiet)
    exact popped kept done (fun credential held => held.step holds.session moved)
      (fun credential gone => gone.step holds.session moved)
  cases block with
  | read id target authorization =>
    obtain rfl := Option.some.inj stepped
    exact (unchanged (by simp)).proceed trivial
  | handle id path value authorization =>
    obtain rfl := Option.some.inj stepped
    exact (unchanged (by simp)).proceed trivial
  | revokeToken token =>
    obtain ⟨session, moved, rfl⟩ : ∃ session,
        server.session.step (.revokeToken (some token)) = some session ∧
        { server with session, lane := rest } = after := Option.map_eq_some_iff.mp stepped
    refine called moved rfl ?_
    intro credential same held
    obtain rfl := LaneBlock.revokeToken.inj same
    exact held.revoked holds.session moved
  | revokeAll =>
    unfold Server.runLane at stepped
    obtain ⟨next, called', rfl⟩ := Option.map_eq_some_iff.mp stepped
    obtain ⟨session, moved, rfl⟩ : ∃ session, server.session.step .revokeAll = some session ∧
        { server with session, lane := rest } = next := Option.map_eq_some_iff.mp called'
    have kept := called moved rfl (by simp)
    exact { kept with
      empty := by
        intro _
        obtain rfl := Option.some.inj moved
        exact server.session.state.revokeAll_empty }

/-- Every step keeps the tokens clean. -/
theorem step (holds : Hygienic server) (accounting : server.Accounting) {handlers : Handlers}
    {label : Label} {after : Server} (stepped : Server.step handlers server label = some after) :
    Hygienic after := by
  unfold Server.step at stepped
  split at stepped
  · obtain rfl := Option.some.inj stepped
    exact { holds with }
  · obtain rfl := Option.some.inj stepped
    unfold Server.accept
    dsimp only
    split
    · exact holds
    · split
      · exact holds
      · exact { holds with }
  · obtain ⟨_, received⟩ := Option.ite_none_left_eq_some.mp stepped
    obtain rfl := Option.some.inj received
    split
    · exact holds
    · unfold Server.receive
      dsimp only
      split
      · exact holds
      · exact { holds with }
  · next id event =>
    obtain ⟨_, received⟩ := Option.ite_none_right_eq_some.mp stepped
    obtain rfl := Option.some.inj received
    have taken : Hygienic (server.update id fun request => { request with receiving := false }) :=
      { holds with }
    exact taken.received handlers id event
  · next index error =>
    obtain ⟨answer, chosen, rfl⟩ := Option.map_eq_some_iff.mp stepped
    have popped : Hygienic { server with sending := server.sending.eraseIdx index } :=
      { holds with
        answers := by
          intro other member
          rcases List.mem_append.mp member with queued | sending
          · exact holds.answers other (List.mem_append_left _ queued)
          · exact holds.answers other
              (List.mem_append_right _ (List.mem_of_mem_eraseIdx sending)) }
    exact popped.sent (holds.answers answer
      (List.mem_append_right _ (List.mem_of_getElem? chosen))) error
  · obtain ⟨_, finished⟩ := Option.ite_none_right_eq_some.mp stepped
    obtain rfl := Option.some.inj finished
    exact { holds with }
  · obtain ⟨_, finished⟩ := Option.ite_none_left_eq_some.mp stepped
    obtain rfl := Option.some.inj finished
    exact { holds with }
  · obtain ⟨_, removed⟩ := Option.ite_none_right_eq_some.mp stepped
    obtain rfl := Option.some.inj removed
    exact { holds with }
  · obtain ⟨_, finished⟩ := Option.ite_none_left_eq_some.mp stepped
    obtain rfl := Option.some.inj finished
    exact { holds with }
  · obtain rfl := Option.some.inj stepped
    exact { holds with
      answers := by
        intro other member
        exact holds.answers other (by simpa [Server.answers, NetworkBlock.answer] using member) }
  · split at stepped
    · exact absurd stepped (by simp)
    · next queued =>
      obtain rfl := Option.some.inj stepped
      exact holds.runNetwork queued
  · split at stepped
    · next idle queued => exact holds.runLane queued stepped
    · exact absurd stepped (by simp)
  · obtain ⟨quiet, called⟩ := Option.ite_none_right_eq_some.mp stepped
    exact holds.call called fun _ => quiet
  · obtain ⟨running, busy, advanced⟩ := Option.bind_eq_some_iff.mp stepped
    refine holds.advance ?_ busy advanced
    -- an operation runs, so the `revokeAll` of a stop has not run yet
    by_contra revoked
    have none := (accounting.revoked (by simpa using revoked)).2
    simp [Server.operations, busy] at none

end Hygienic

/-- What the server guarantees in every state. -/
structure Hygiene (server : Server) : Prop where
  /-- At most one operation is queued or running on the lane. -/
  single : server.operations ≤ 1
  /-- The busy flag stands while an operation, or the block that clears it, is left; no longer. -/
  busy : server.authBusy = true ↔ server.operations = 1 ∨ 0 < server.clears
  /-- A token whose reply could not be handed over is revoked, with any lease claimed from it, or
  the lane is about to revoke it. -/
  lost : ∀ credential ∈ server.lost, .revokeToken credential.token ∈ server.lane ∨
    server.session.Revoked credential
  /-- The token of an operation that was cancelled, late, rejected for good or raised an
  exception is revoked. -/
  failed : ∀ ended ∈ server.ended, ended.failed = true → server.session.Revoked ended.credential
  /-- After a stop, everything was revoked or the lane is about to do so. -/
  stopped : server.stopped = true → server.revoked = true ∨ .revokeAll ∈ server.lane
  /-- After everything was revoked there is no challenge, no token, no lease, and no operation
  left that could create one. -/
  revoked : server.revoked = true → server.session.state.Empty ∧ server.operations = 0

/-- Every run of the control server keeps its guarantees. -/
theorem reachable_hygiene (handlers : Handlers) {server : Server}
    (reachable : (system handlers).Reachable server) : server.Hygiene := by
  have accounts : ∀ {state : Server}, (system handlers).Reachable state → state.Accounting := by
    intro state reachable
    refine Transition.System.Preserves.reachable ?_ ?_ reachable
    · intro before label after holds stepped
      exact holds.step stepped
    · rintro first rfl
      exact .start
  have accounting := accounts reachable
  have hygienic : server.Hygienic := by
    refine Transition.System.Reachable.keeps ?_ ?_ reachable
    · intro before label after reachable holds stepped
      exact holds.step (accounts reachable) stepped
    · rintro first rfl
      exact .start
  have counted := accounting.counted
  exact {
    single := by
      split at counted
      · omega
      · omega
    busy := by
      cases busy : server.authBusy with
      | true =>
        simp only [busy, if_true] at counted
        exact iff_of_true rfl (by omega)
      | false =>
        simp only [busy, Bool.false_eq_true, if_false] at counted
        exact iff_of_false (by simp) (by omega)
    lost := by
      intro credential member
      exact (hygienic.lost credential member).2.imp_right (·.gone hygienic.session)
    failed := fun ended member failed =>
      (hygienic.ended ended member failed).gone hygienic.session
    stopped := accounting.stopping
    revoked := fun revoked => ⟨hygienic.empty revoked, (accounting.revoked revoked).2⟩ }

end Server

/-- A server with every handler. -/
def sampleHandlers : Handlers := ⟨true, true, true, true⟩

/-- The token of the sample run. -/
def sampleToken : Auth.Text := .replicate 44 66

/-- One peer opens a conversation, responds and launches; its connection fails before the reply
of the launch is handed over, and the server stops. -/
def sampleLabels : List Label :=
  let peer : Option Auth.Peer := some [192, 0, 2, 1]
  let conversation : Auth.Text := .replicate 44 65
  let scope := Auth.sampleScope
  let reading : Reading := { wait := 1, current := scope, again := scope, third := scope }
  [.accept peer, .ready 0, .received 0 (.post (some .start) (.username [97]) []), .dequeue,
    .enter { reading with random := some conversation }, .leave, .network, .network, .sent 0 false,
    .accept peer, .ready 1, .received 1 (.post (some .respond) (.responses conversation) []),
    .dequeue, .enter reading, .verified .verified ⟨501, 7⟩ { reading with random := some sampleToken },
    .respondFinally, .leave, .network, .network, .sent 0 false, .closed 1,
    .accept peer, .ready 2, .received 2 (.post (some .launch) .dictionary (bearer ++ sampleToken)),
    .dequeue, .enter reading, .claim { reading with random := some [67] }, .handled 200 none reading,
    .conclude, .failed 2, .leave, .network, .network, .dequeue, .stop, .network, .dequeue]

/-- The server after that run. -/
def sampleServer : Server := ((Server.system sampleHandlers).run {} sampleLabels).getD {}

/-- The sample run loses the reply of an authorized launch, and keeps the guarantees. -/
theorem sampleServer_hygiene :
    sampleServer.lost = [⟨sampleToken, 0⟩] ∧ sampleServer.session.state.issued = 1 ∧
      sampleServer.revoked = true ∧ sampleServer.Hygiene := by
  have evaluated : (Server.system sampleHandlers).run {} sampleLabels = some sampleServer := rfl
  exact ⟨rfl, rfl, rfl,
    Server.reachable_hygiene sampleHandlers (Transition.System.reachable_of_run rfl evaluated)⟩

end Plank.Control
