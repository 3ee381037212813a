import Plank.Control.Server

/-!
# The busy flag, the lane and stop

At most one operation is queued or running on the lane, and the busy flag stands from its
dispatch until the block that clears it ran. The lane is first in, first out: what a stop leaves
behind its `revokeAll` are revocations only, because every request is finished by then.
-/

namespace Plank.Control

/-- Whether a block of the lane is an operation of a request. -/
def LaneBlock.operation : LaneBlock → Bool
  | .read .. | .handle .. => true
  | .revokeToken _ | .revokeAll => false

/-- Whether a block of the network queue clears the busy flag. -/
def NetworkBlock.clears : NetworkBlock → Bool
  | .served _ | .clearBusy => true
  | .reply _ | .stop => false

namespace Server

/-- Operations queued or running on the lane. -/
def operations (server : Server) : Nat :=
  server.lane.countP LaneBlock.operation + if server.running.isSome then 1 else 0

/-- Blocks on the network queue that will clear the busy flag. -/
def clears (server : Server) : Nat := server.network.countP NetworkBlock.clears

/-- The invariant of the queues. -/
structure Accounting (server : Server) : Prop where
  /-- The busy flag stands exactly while an operation, or the block that clears it, is left. -/
  counted : server.operations + server.clears = if server.authBusy then 1 else 0
  /-- No operation is queued behind a `revokeAll`. -/
  ordered : server.lane.Pairwise fun earlier later =>
    earlier = .revokeAll → later.operation = false
  /-- After `revokeAll` no operation is left. -/
  revoked : server.revoked = true → server.stopped = true ∧ server.operations = 0
  /-- A request is in the table until it is finished. -/
  admitted : ∀ id, id < server.accepted →
    (server.requests id).finished = true ∨ (server.requests id).admitted = true
  /-- After the stop every request is finished. -/
  closed : server.stopped = true → ∀ id, id < server.accepted →
    (server.requests id).finished = true
  /-- Only a stop queues `revokeAll`. -/
  running : server.stopped = false → .revokeAll ∉ server.lane
  /-- After the stop `revokeAll` ran or is queued. -/
  stopping : server.stopped = true → server.revoked = true ∨ .revokeAll ∈ server.lane
  /-- No connection that was not accepted receives anything. -/
  blank : ∀ id, server.accepted ≤ id → (server.requests id).receiving = false

/-- What a step leaves alone that touches no queue but to revoke a token. -/
structure Frame (before after : Server) : Prop where
  /-- The busy flag. -/
  authBusy : after.authBusy = before.authBusy
  /-- The network queue. -/
  network : after.network = before.network
  /-- The running operation. -/
  running : after.running = before.running
  /-- Whether the server stopped. -/
  stopped : after.stopped = before.stopped
  /-- Whether everything was revoked. -/
  revoked : after.revoked = before.revoked
  /-- The number of connections. -/
  accepted : after.accepted = before.accepted
  /-- The lane, but for tokens to revoke. -/
  lane : ∃ tokens : List Auth.Text, after.lane = before.lane ++ tokens.map LaneBlock.revokeToken
  /-- A finished request stays finished. -/
  finished : ∀ id, (before.requests id).finished = true → (after.requests id).finished = true
  /-- A request stays in the table until it is finished. -/
  admitted : ∀ id, (before.requests id).admitted = true →
    (after.requests id).finished = true ∨ (after.requests id).admitted = true
  /-- No connection that was not accepted begins to receive. -/
  blank : ∀ id, before.accepted ≤ id → (before.requests id).receiving = false →
    (after.requests id).receiving = false

namespace Frame

/-- Nothing happens. -/
theorem refl (server : Server) : Frame server server where
  authBusy := rfl
  network := rfl
  running := rfl
  stopped := rfl
  revoked := rfl
  accepted := rfl
  lane := ⟨[], by simp⟩
  finished _ done := done
  admitted _ listed := .inr listed
  blank _ _ idle := idle

/-- One step after the other. -/
theorem trans {first second third : Server} (left : Frame first second)
    (right : Frame second third) : Frame first third where
  authBusy := right.authBusy.trans left.authBusy
  network := right.network.trans left.network
  running := right.running.trans left.running
  stopped := right.stopped.trans left.stopped
  revoked := right.revoked.trans left.revoked
  accepted := right.accepted.trans left.accepted
  lane := by
    obtain ⟨early, first⟩ := left.lane
    obtain ⟨late, second⟩ := right.lane
    exact ⟨early ++ late, by rw [second, first]; simp⟩
  finished id done := right.finished id (left.finished id done)
  admitted id listed := by
    rcases left.admitted id listed with done | listed
    · exact .inl (right.finished id done)
    · exact right.admitted id listed
  blank id beyond idle :=
    right.blank id (by rw [left.accepted]; exact beyond) (left.blank id beyond idle)

/-- A change of one request that finishes it or leaves it where it was. -/
theorem update (server : Server) (id : Nat) (change : Request → Request)
    (finished : (server.requests id).finished = true → (change (server.requests id)).finished = true)
    (admitted : (server.requests id).admitted = true →
      (change (server.requests id)).finished = true ∨ (change (server.requests id)).admitted = true)
    (blank : server.accepted ≤ id → (server.requests id).receiving = false →
      (change (server.requests id)).receiving = false) : Frame server (server.update id change) where
  authBusy := rfl
  network := rfl
  running := rfl
  stopped := rfl
  revoked := rfl
  accepted := rfl
  lane := ⟨[], by simp [Server.update]⟩
  finished other done := by
    by_cases same : other = id
    · subst same
      simpa [Server.update] using finished done
    · simpa [Server.update, same] using done
  admitted other listed := by
    by_cases same : other = id
    · subst same
      simpa [Server.update] using admitted listed
    · simpa [Server.update, same] using Or.inr listed
  blank other beyond idle := by
    by_cases same : other = id
    · subst same
      simpa [Server.update] using blank beyond idle
    · simpa [Server.update, same] using idle

/-- Finishing a request. -/
theorem finish (server : Server) (id : Nat) : Frame server (server.finish id) := by
  refine update server id Request.finish ?_ ?_ ?_
  · intro done
    simp [Request.finish, done]
  · intro listed
    by_cases done : (server.requests id).finished = true
    · simp [Request.finish, done]
    · simp [Request.finish, done]
  · intro beyond idle
    by_cases done : (server.requests id).finished = true
    · simp [Request.finish, done, idle]
    · simp [Request.finish, done, idle]

/-- Finishing several requests. -/
theorem finishAll (server : Server) (selected : Request → Bool) :
    Frame server (server.finishAll selected) where
  authBusy := rfl
  network := rfl
  running := rfl
  stopped := rfl
  revoked := rfl
  accepted := rfl
  lane := ⟨[], by simp [Server.finishAll]⟩
  finished id done := by
    simp only [Server.finishAll]
    split
    · simp [Request.finish, done]
    · exact done
  admitted id listed := by
    simp only [Server.finishAll]
    split
    · by_cases done : (server.requests id).finished = true
      · simp [Request.finish, done]
      · simp [Request.finish, done]
    · exact .inr listed
  blank id beyond idle := by
    simp only [Server.finishAll]
    split
    · by_cases done : (server.requests id).finished = true
      · simp [Request.finish, done, idle]
      · simp [Request.finish, done, idle]
    · exact idle

/-- A reply that is lost only queues a revocation. -/
theorem undeliverable (server : Server) (answer : Answer) :
    Frame server (server.undeliverable answer) :=
  { refl server with
    lane := ⟨answer.token.toList, by cases same : answer.token <;> simp [Server.undeliverable, same]⟩ }

/-- A reply is sent or lost. -/
theorem replyBytes (server : Server) (answer : Answer) :
    Frame server (server.replyBytes answer) := by
  unfold Server.replyBytes
  split
  · exact undeliverable server answer
  · exact { refl server with lane := ⟨[], by simp⟩ }

/-- A request waits for the end of its connection. -/
theorem awaits (server : Server) (id : Nat) :
    Frame server (server.update id fun request => { request with awaiting := true }) :=
  update server id _ (fun done => done) (fun listed => .inr listed) (fun _ idle => idle)

/-- A send completes. -/
theorem sent (server : Server) (answer : Answer) (error : Bool) :
    Frame server (server.sent answer error) := by
  unfold Server.sent
  cases error with
  | false =>
    simp only [Bool.false_eq_true, if_false]
    split
    · exact refl server
    · exact awaits server answer.request
  | true =>
    simp only [if_true]
    split
    · exact undeliverable server answer
    · exact (undeliverable server answer).trans (finish _ answer.request)

/-- A receive begins on an accepted connection. -/
theorem receive (server : Server) (id : Nat) (within : id < server.accepted) :
    Frame server (server.receive id) := by
  unfold Server.receive
  dsimp only
  split
  · exact refl server
  · exact update server id _ (fun done => done) (fun listed => .inr listed)
      (fun beyond _ => absurd within (by omega))

/-- A call of the session touches no queue. -/
theorem call {before after : Server} {action : Auth.Action}
    (called : before.call action = some after) : Frame before after := by
  obtain ⟨session, stepped, rfl⟩ := Option.map_eq_some_iff.mp called
  exact { refl before with lane := ⟨[], by simp⟩ }

/-- A revocation under a condition touches no queue. -/
theorem revokeIf {before after : Server} {condition : Bool} {token : Auth.Text}
    (called : before.revokeIf condition token = some after) : Frame before after := by
  unfold Server.revokeIf at called
  split at called
  · exact call called
  · obtain rfl := Option.some.inj called
    exact refl before

/-- An authorization touches no queue. -/
theorem authorize {before after : Server} {id : Nat} {token : Auth.Text} {reading : Reading}
    {record : Option Auth.Record}
    (called : before.authorize id token reading = some (after, record)) : Frame before after := by
  unfold Server.authorize at called
  obtain ⟨next, stepped, same⟩ := Option.map_eq_some_iff.mp called
  obtain ⟨rfl, _⟩ := Prod.mk.inj same
  exact call stepped

end Frame

namespace Accounting

variable {server : Server}

/-- The server as it is created. -/
theorem start : Accounting {} where
  counted := rfl
  ordered := .nil
  revoked := by simp
  admitted := by simp
  closed := by simp
  running := by simp
  stopping := by simp
  blank _ _ := rfl

/-- A step that only revokes tokens keeps the queues. -/
theorem frame (holds : Accounting server) {after : Server} (framed : Frame server after) :
    Accounting after := by
  obtain ⟨tokens, lane⟩ := framed.lane
  have none : (tokens.map LaneBlock.revokeToken).countP LaneBlock.operation = 0 := by
    rw [List.countP_eq_zero]
    intro block member
    obtain ⟨token, _, rfl⟩ := List.mem_map.mp member
    simp [LaneBlock.operation]
  have operations : after.operations = server.operations := by
    simp [Server.operations, lane, framed.running, none]
  have clears : after.clears = server.clears := by simp [Server.clears, framed.network]
  exact {
    counted := by rw [operations, clears, framed.authBusy]; exact holds.counted
    ordered := by
      rw [lane, List.pairwise_append]
      refine ⟨holds.ordered, ?_, ?_⟩
      · refine List.pairwise_of_forall_mem_list ?_
        intro first member second others
        obtain ⟨token, _, rfl⟩ := List.mem_map.mp others
        exact fun _ => rfl
      · intro first member second others
        obtain ⟨token, _, rfl⟩ := List.mem_map.mp others
        exact fun _ => rfl
    revoked := by rw [framed.revoked, framed.stopped, operations]; exact holds.revoked
    admitted := by
      intro id within
      rw [framed.accepted] at within
      rcases holds.admitted id within with done | listed
      · exact .inl (framed.finished id done)
      · exact framed.admitted id listed
    closed := by
      intro stopped id within
      rw [framed.stopped] at stopped
      rw [framed.accepted] at within
      exact framed.finished id (holds.closed stopped id within)
    running := by
      rw [framed.stopped, lane]
      intro serving member
      rcases List.mem_append.mp member with queued | extra
      · exact holds.running serving queued
      · obtain ⟨token, _, same⟩ := List.mem_map.mp extra
        exact absurd same (by simp)
    stopping := by
      rw [framed.stopped, framed.revoked, lane]
      intro stopped
      rcases holds.stopping stopped with done | queued
      · exact .inl done
      · exact .inr (List.mem_append_left _ queued)
    blank := by
      intro id beyond
      rw [framed.accepted] at beyond
      exact framed.blank id beyond (holds.blank id beyond) }

/-- The running operation goes on. -/
theorem proceed (holds : Accounting server) {id : Nat} {stage : Stage}
    (busy : server.running.isSome = true) : Accounting (server.proceed id stage) := by
  have operations : (server.proceed id stage).operations = server.operations := by
    simp [Server.operations, Server.proceed, busy]
  exact { holds with
    counted := by rw [operations]; exact holds.counted
    revoked := by rw [operations]; exact holds.revoked }

/-- The running operation dispatches its reply. -/
theorem answerLater (holds : Accounting server) {answer : Answer}
    (busy : server.running.isSome = true) : Accounting (server.answerLater answer) := by
  have operations : (server.answerLater answer).operations = server.operations := by
    simp [Server.operations, Server.answerLater, busy]
  have clears : (server.answerLater answer).clears = server.clears := by
    simp [Server.clears, Server.answerLater, NetworkBlock.clears]
  exact { holds with
    counted := by rw [operations, clears]; exact holds.counted
    revoked := by rw [operations]; exact holds.revoked }

/-- The running operation ends and dispatches the block that clears the busy flag. -/
theorem finished (holds : Accounting server) (busy : server.running.isSome = true)
    {block : NetworkBlock} (clearing : block.clears = true) :
    Accounting { server with network := server.network ++ [block], running := none } := by
  have counted := holds.counted
  simp only [Server.operations, busy, if_true, Server.clears] at counted
  exact { holds with
    counted := by
      simp only [Server.operations, Server.clears, Option.isSome_none, Bool.false_eq_true,
        if_false, List.countP_append, List.countP_singleton, clearing, if_true]
      omega
    revoked := by
      intro done
      obtain ⟨stopped, none⟩ := holds.revoked done
      simp only [Server.operations, busy, if_true] at none
      omega }

/-- Writing down how an operation ended changes no queue. -/
theorem record (holds : Accounting server) (id : Nat) (credential : Option Auth.Credential)
    (outcome : Outcome) : Accounting (server.record id credential outcome) := { holds with }

/-- A request that is not finished goes to the idle lane. -/
theorem dispatchAuth (holds : Accounting server) {id : Nat} {block : LaneBlock}
    (within : id < server.accepted) (unfinished : (server.requests id).finished = false)
    (idle : server.authBusy = false) (operation : block.operation = true) :
    Accounting (server.dispatchAuth block) := by
  have serving : server.stopped = false := by
    by_contra stopped
    have done := holds.closed (by simpa using stopped) id within
    rw [unfinished] at done
    exact absurd done (by simp)
  have counted := holds.counted
  rw [idle] at counted
  have operations : (server.dispatchAuth block).operations = server.operations + 1 := by
    simp only [Server.operations, Server.dispatchAuth, List.countP_append, List.countP_singleton,
      operation, if_true]
    exact Nat.add_right_comm _ _ _
  have clears : (server.dispatchAuth block).clears = server.clears := rfl
  exact { holds with
    counted := by
      rw [operations, clears]
      simp only [Bool.false_eq_true, if_false] at counted
      show server.operations + 1 + server.clears = 1
      omega
    ordered := by
      simp only [Server.dispatchAuth, List.pairwise_append]
      refine ⟨holds.ordered, by simp, ?_⟩
      rintro first member second others rfl
      exact absurd member (holds.running serving)
    revoked := by
      intro done
      have stopped := (holds.revoked done).1
      rw [serving] at stopped
      exact absurd stopped (by simp)
    running := by
      intro _ member
      rcases List.mem_append.mp member with queued | added
      · exact holds.running serving queued
      · obtain rfl := List.mem_singleton.mp added
        exact absurd operation (by simp [LaneBlock.operation])
    stopping := by
      intro stopped
      have stopped : server.stopped = true := stopped
      rw [serving] at stopped
      exact absurd stopped (by simp) }

/-- A connection is accepted while the server runs. -/
theorem accept (holds : Accounting server) (peer : Option Auth.Peer) :
    Accounting (server.accept peer) := by
  unfold Server.accept
  dsimp only
  split
  · exact holds
  · next refused =>
    have serving : server.stopped = false := by
      simp only [Bool.or_eq_true, not_or, Bool.not_eq_true] at refused
      exact refused.1
    split
    · exact holds
    · exact { holds with
        admitted := by
          intro id within
          by_cases same : id = server.accepted
          · simp [Server.update, same]
          · simpa [Server.update, same] using
              holds.admitted id (by have : id < server.accepted + 1 := within; omega)
        closed := by
          intro stopped
          have stopped : server.stopped = true := stopped
          rw [serving] at stopped
          exact absurd stopped (by simp)
        blank := by
          intro id beyond
          have beyond : server.accepted + 1 ≤ id := beyond
          have other : id ≠ server.accepted := by omega
          simpa [Server.update, other] using holds.blank id (by omega) }

/-- A complete `GET` request of an unfinished connection. -/
theorem receivedGet (holds : Accounting server) (handlers : Handlers) {id : Nat}
    (within : id < server.accepted) (unfinished : (server.requests id).finished = false)
    (target : Option Target) (authorization : Auth.Text) :
    Accounting (Server.receivedGet handlers server id target authorization) := by
  have plain := fun status => holds.frame (Frame.replyBytes server { request := id, status })
  unfold Server.receivedGet
  split
  · exact plain 404
  · split
    · exact plain 404
    · split
      · exact plain 200
      · split
        · exact plain 503
        · next idle => exact holds.dispatchAuth within unfinished (by simpa using idle) rfl

/-- A complete request with a body of an unfinished connection. -/
theorem receivedPost (holds : Accounting server) (handlers : Handlers) {id : Nat}
    (within : id < server.accepted) (unfinished : (server.requests id).finished = false)
    (path : Option Path) (value : Value) (authorization : Auth.Text) :
    Accounting (Server.receivedPost handlers server id path value authorization) := by
  have plain := fun status => holds.frame (Frame.replyBytes server { request := id, status })
  unfold Server.receivedPost
  split
  · exact plain 503
  · next busy =>
    have idle : server.authBusy = false := by simpa using busy
    split
    · exact plain 404
    · split
      · exact plain 404
      · dsimp only
        split
        · have extended := Frame.update server id
            (fun request => { request with deadline := server.clock + 10000000000 })
            (fun done => done) (fun listed => .inr listed) (fun _ waiting => waiting)
          exact (holds.frame extended).dispatchAuth within
            (by simpa [Server.update] using unfinished) idle rfl
        · exact holds.dispatchAuth within unfinished idle rfl

/-- A receive callback of an accepted connection. -/
theorem received (holds : Accounting server) (handlers : Handlers) {id : Nat}
    (within : id < server.accepted) (event : Received) :
    Accounting (Server.received handlers server id event) := by
  have taken := holds.frame (Frame.update server id
    (fun request => { request with dispatched := true }) (fun done => done)
    (fun listed => .inr listed) (fun _ idle => idle))
  unfold Server.received
  split
  · exact holds
  · next open_ =>
    have unfinished : (server.requests id).finished = false := by simpa using open_
    cases event with
    | error => exact holds.frame (Frame.finish server id)
    | invalid => exact holds.frame (Frame.replyBytes server { request := id, status := 400 })
    | incomplete complete =>
      cases complete with
      | false => exact holds.frame (Frame.receive server id within)
      | true => exact holds.frame (Frame.finish server id)
    | get target authorization =>
      exact taken.receivedGet handlers within (by simpa [Server.update] using unfinished)
        target authorization
    | post path value authorization =>
      exact taken.receivedPost handlers within (by simpa [Server.update] using unfinished)
        path value authorization

/-- The stop finishes every request and queues `revokeAll` behind what is queued. -/
theorem stop (holds : Accounting server) : Accounting server.stop := by
  have finished := holds.frame (Frame.finishAll server fun _ => true)
  have operations : server.stop.operations = server.operations := by
    simp [Server.operations, Server.stop, Server.finishAll, LaneBlock.operation]
  have done : ∀ id, id < server.accepted → (server.stop.requests id).finished = true := by
    intro id within
    simp only [Server.stop, Server.finishAll, Bool.and_true]
    rcases holds.admitted id within with done | listed
    · by_cases listed : (server.requests id).admitted = true
      · simp [listed, Request.finish, done]
      · simp [listed, done]
    · by_cases done : (server.requests id).finished = true
      · simp [listed, Request.finish, done]
      · simp [listed, Request.finish, done]
  exact {
    counted := by rw [operations]; exact holds.counted
    ordered := by
      simp only [Server.stop, List.pairwise_append]
      refine ⟨holds.ordered, by simp, ?_⟩
      intro first member second others _
      obtain rfl := List.mem_singleton.mp others
      rfl
    revoked := by
      intro everything
      exact ⟨rfl, by rw [operations]; exact (holds.revoked everything).2⟩
    admitted := fun id within => .inl (done id within)
    closed := fun _ => done
    running := by simp [Server.stop]
    stopping := by simp [Server.stop]
    blank := finished.blank }

/-- The next block of the network queue. -/
theorem runNetwork (holds : Accounting server) {block : NetworkBlock} {rest : List NetworkBlock}
    (queued : server.network = block :: rest) :
    Accounting ({ server with network := rest }.runNetwork block) := by
  have counted := holds.counted
  simp only [Server.clears, queued, List.countP_cons] at counted
  cases block with
  | reply answer =>
    have remaining : server.operations + rest.countP NetworkBlock.clears =
        if server.authBusy then 1 else 0 := by simpa [NetworkBlock.clears] using counted
    have popped : Accounting { server with network := rest } :=
      { holds with counted := remaining }
    exact popped.frame (Frame.replyBytes _ answer)
  | served answer =>
    have framed := Frame.replyBytes { server with network := rest, authBusy := false } answer
    have popped : Accounting { server with network := rest, authBusy := false } :=
      { holds with
        counted := by
          simp only [NetworkBlock.clears, if_true] at counted
          show server.operations + rest.countP NetworkBlock.clears = 0
          split at counted
          · omega
          · omega }
    have same : ({ server with network := rest }.runNetwork (.served answer)) =
        { server with network := rest, authBusy := false }.replyBytes answer := by
      simp only [Server.runNetwork, Server.replyBytes]
      split
      · rfl
      · rfl
    rw [same]
    exact popped.frame framed
  | clearBusy =>
    exact { holds with
      counted := by
        simp only [NetworkBlock.clears, if_true] at counted
        show server.operations + rest.countP NetworkBlock.clears = 0
        split at counted
        · omega
        · omega }
  | stop =>
    have remaining : server.operations + rest.countP NetworkBlock.clears =
        if server.authBusy then 1 else 0 := by simpa [NetworkBlock.clears] using counted
    have popped : Accounting { server with network := rest } :=
      { holds with counted := remaining }
    exact popped.stop

/-- The idle lane takes its next block. -/
theorem runLane (holds : Accounting server) (idle : server.running = none) {block : LaneBlock}
    {rest : List LaneBlock} (queued : server.lane = block :: rest) {after : Server}
    (stepped : { server with lane := rest }.runLane block = some after) : Accounting after := by
  have counted := holds.counted
  have ordered := holds.ordered
  rw [queued, List.pairwise_cons] at ordered
  have revoked := holds.revoked
  simp only [Server.operations, queued, idle, Option.isSome_none, Bool.false_eq_true, if_false,
    List.countP_cons] at counted revoked
  have running : server.stopped = false → .revokeAll ∉ rest := by
    intro serving member
    exact holds.running serving (by rw [queued]; exact List.mem_cons_of_mem _ member)
  have started : block.operation = true → ∀ id stage,
      Accounting ({ server with lane := rest }.proceed id stage) := by
    intro operation id stage
    exact { holds with
      counted := by
        simp only [operation, if_true] at counted
        show rest.countP LaneBlock.operation + 1 + server.clears = if server.authBusy then 1 else 0
        omega
      ordered := ordered.2
      revoked := by
        intro done
        have none := (revoked done).2
        simp only [operation, if_true] at none
        omega
      running
      stopping := by
        intro stopped
        rcases holds.stopping stopped with done | member
        · exact .inl done
        · rw [queued] at member
          rcases List.mem_cons.mp member with rfl | later
          · exact absurd operation (by simp [LaneBlock.operation])
          · exact .inr later }
  cases block with
  | read id target authorization =>
    obtain rfl := Option.some.inj stepped
    exact started rfl id _
  | handle id path value authorization =>
    obtain rfl := Option.some.inj stepped
    exact started rfl id _
  | revokeToken token =>
    have popped : Accounting { server with lane := rest } :=
      { holds with
        counted := by
          simp only [LaneBlock.operation, Bool.false_eq_true, if_false] at counted
          simpa [Server.operations, Server.clears, idle] using counted
        ordered := ordered.2
        revoked := by
          intro done
          have none := revoked done
          simp only [LaneBlock.operation, Bool.false_eq_true, if_false] at none
          simpa [Server.operations, idle] using none
        running
        stopping := by
          intro stopped
          rcases holds.stopping stopped with done | member
          · exact .inl done
          · rw [queued] at member
            rcases List.mem_cons.mp member with same | later
            · exact absurd same (by simp)
            · exact .inr later }
    exact popped.frame (Frame.call stepped)
  | revokeAll =>
    unfold Server.runLane at stepped
    obtain ⟨next, called, rfl⟩ := Option.map_eq_some_iff.mp stepped
    obtain ⟨session, _, rfl⟩ := Option.map_eq_some_iff.mp called
    have stopped : server.stopped = true := by
      by_contra serving
      exact holds.running (by simpa using serving) (by rw [queued]; exact List.mem_cons_self)
    have empty : rest.countP LaneBlock.operation = 0 := by
      rw [List.countP_eq_zero]
      intro later member
      simp [ordered.1 later member rfl]
    exact { holds with
      counted := by
        simp only [LaneBlock.operation, Bool.false_eq_true, if_false] at counted
        simpa [Server.operations, Server.clears, idle] using counted
      ordered := ordered.2
      revoked := fun _ => ⟨stopped, by simp [Server.operations, idle, empty]⟩
      running := by
        intro serving
        have serving : server.stopped = false := serving
        rw [stopped] at serving
        exact absurd serving (by simp)
      stopping := fun _ => .inl rfl }

/-- Every stage of the running operation. -/
theorem advance (holds : Accounting server) {handlers : Handlers} {running : Running}
    (busy : server.running = some running) {label : Label} {after : Server}
    (stepped : Server.advance handlers server running.request running.stage label = some after) :
    Accounting after := by
  obtain ⟨id, stage⟩ := running
  have occupied : server.running.isSome = true := by rw [busy]; rfl
  have framed : ∀ {next : Server}, Frame server next →
      Accounting next ∧ next.running.isSome = true := by
    intro next frame
    exact ⟨holds.frame frame, by rw [frame.running]; exact occupied⟩
  have authorized : ∀ {token : Auth.Text} {reading : Reading}
      {next : Server × Option Auth.Record}, server.authorize id token reading = some next →
      Accounting next.1 ∧ next.1.running.isSome = true := by
    intro token reading next called
    exact framed (Frame.authorize called)
  unfold Server.advance at stepped
  split at stepped
  · unfold Server.enterHandle at stepped
    dsimp only at stepped
    split at stepped
    · obtain rfl := Option.some.inj stepped
      exact holds.proceed occupied
    · split at stepped
      · obtain ⟨next, called, rfl⟩ := Option.map_eq_some_iff.mp stepped
        have kept := framed (Frame.call called)
        exact kept.1.answerLater kept.2
      · obtain ⟨next, called, rfl⟩ := Option.map_eq_some_iff.mp stepped
        have kept := framed (Frame.call called)
        split
        · exact kept.1.answerLater kept.2
        · exact kept.1.proceed kept.2
      · obtain rfl := Option.some.inj stepped
        exact holds.answerLater occupied
      · obtain rfl := Option.some.inj stepped
        exact holds.answerLater occupied
      · obtain rfl := Option.some.inj stepped
        exact holds.answerLater occupied
      · split at stepped
        · unfold Server.enterHandler at stepped
          split at stepped
          · obtain rfl := Option.some.inj stepped
            exact holds.answerLater occupied
          · obtain ⟨next, called, rfl⟩ := Option.map_eq_some_iff.mp stepped
            have kept := authorized called
            dsimp only
            split
            · exact kept.1.answerLater kept.2
            · exact kept.1.proceed kept.2
        · obtain rfl := Option.some.inj stepped
          exact holds.answerLater occupied
  · unfold Server.enterRead at stepped
    split at stepped
    · obtain rfl := Option.some.inj stepped
      exact holds.proceed occupied
    · obtain ⟨next, called, rfl⟩ := Option.map_eq_some_iff.mp stepped
      have kept := authorized called
      dsimp only
      split
      · exact kept.1.proceed kept.2
      · exact kept.1.proceed kept.2
  · obtain ⟨response, _, decided⟩ := Option.bind_eq_some_iff.mp stepped
    obtain ⟨next, called, rfl⟩ := Option.map_eq_some_iff.mp decided
    have kept := framed (Frame.call called)
    exact kept.1.proceed kept.2
  · obtain ⟨next, called, rfl⟩ := Option.map_eq_some_iff.mp stepped
    have kept := framed (Frame.call called)
    exact kept.1.proceed kept.2
  · obtain ⟨next, called, rfl⟩ := Option.map_eq_some_iff.mp stepped
    have kept := framed (Frame.call called)
    split
    · exact kept.1.answerLater kept.2
    · exact kept.1.answerLater kept.2
  · exact (framed (Frame.call stepped)).1
  · unfold Server.handled at stepped
    split at stepped
    · obtain rfl := Option.some.inj stepped
      exact holds.proceed occupied
    · obtain ⟨next, called, rfl⟩ := Option.map_eq_some_iff.mp stepped
      have kept := authorized called
      dsimp only
      split
      · exact kept.1.proceed kept.2
      · exact kept.1.proceed kept.2
  · obtain ⟨next, called, rfl⟩ := Option.map_eq_some_iff.mp stepped
    have kept := authorized called
    dsimp only
    split
    · exact kept.1.proceed kept.2
    · exact kept.1.proceed kept.2
  · obtain ⟨next, called, rfl⟩ := Option.map_eq_some_iff.mp stepped
    have kept := framed (Frame.revokeIf called)
    exact (kept.1.record _ _ _).answerLater kept.2
  · obtain ⟨next, called, rfl⟩ := Option.map_eq_some_iff.mp stepped
    have kept : Accounting next ∧ next.running.isSome = true := by
      split at called
      · obtain rfl := Option.some.inj called
        exact ⟨holds, occupied⟩
      · exact framed (Frame.revokeIf called)
    exact (kept.1.record _ _ _).finished kept.2 rfl
  · obtain rfl := Option.some.inj stepped
    exact holds.finished occupied rfl
  · unfold Server.raise at stepped
    split at stepped
    · split at stepped
      · exact absurd stepped (by simp)
      · obtain rfl := Option.some.inj stepped
        exact holds.answerLater occupied
    · obtain ⟨next, called, rfl⟩ := Option.map_eq_some_iff.mp stepped
      have kept := framed (Frame.call called)
      exact (kept.1.record _ _ _).answerLater kept.2
    · obtain ⟨next, called, rfl⟩ := Option.map_eq_some_iff.mp stepped
      have kept := framed (Frame.call called)
      exact (kept.1.record _ _ _).answerLater kept.2
    · obtain rfl := Option.some.inj stepped
      exact holds.proceed occupied
    · obtain rfl := Option.some.inj stepped
      exact holds.proceed occupied
    · exact absurd stepped (by simp)
  · exact absurd stepped (by simp)

/-- Every step keeps the queues. -/
theorem step (holds : Accounting server) {handlers : Handlers} {label : Label} {after : Server}
    (stepped : Server.step handlers server label = some after) : Accounting after := by
  unfold Server.step at stepped
  split at stepped
  · obtain rfl := Option.some.inj stepped
    exact { holds with }
  · obtain rfl := Option.some.inj stepped
    exact holds.accept _
  · obtain ⟨within, received⟩ := Option.ite_none_left_eq_some.mp stepped
    obtain rfl := Option.some.inj received
    split
    · exact holds
    · exact holds.frame (Frame.receive server _ (by omega))
  · next id event =>
    obtain ⟨waiting, received⟩ := Option.ite_none_right_eq_some.mp stepped
    obtain rfl := Option.some.inj received
    have within : id < server.accepted := by
      by_contra beyond
      rw [holds.blank id (by omega)] at waiting
      exact absurd waiting (by simp)
    have taken := holds.frame (Frame.update server id
      (fun request => { request with receiving := false }) (fun done => done)
      (fun listed => .inr listed) (fun _ _ => rfl))
    exact taken.received handlers within event
  · next index error =>
    obtain ⟨answer, _, rfl⟩ := Option.map_eq_some_iff.mp stepped
    have popped : Accounting { server with sending := server.sending.eraseIdx index } :=
      { holds with }
    exact popped.frame (Frame.sent _ answer error)
  · obtain ⟨_, finished⟩ := Option.ite_none_right_eq_some.mp stepped
    obtain rfl := Option.some.inj finished
    exact holds.frame (Frame.finish server _)
  · obtain ⟨_, finished⟩ := Option.ite_none_left_eq_some.mp stepped
    obtain rfl := Option.some.inj finished
    exact holds.frame (Frame.finish server _)
  · next id =>
    obtain ⟨done, removed⟩ := Option.ite_none_right_eq_some.mp stepped
    obtain rfl := Option.some.inj removed
    exact holds.frame (Frame.update server id (fun request => { request with admitted := false })
      (fun done => done) (fun _ => .inl done) (fun _ idle => idle))
  · obtain ⟨_, finished⟩ := Option.ite_none_left_eq_some.mp stepped
    obtain rfl := Option.some.inj finished
    exact holds.frame (Frame.finishAll server _)
  · obtain rfl := Option.some.inj stepped
    exact { holds with
      counted := by
        have counted := holds.counted
        simpa [Server.operations, Server.clears, NetworkBlock.clears] using counted }
  · split at stepped
    · exact absurd stepped (by simp)
    · next queued =>
      obtain rfl := Option.some.inj stepped
      exact holds.runNetwork queued
  · split at stepped
    · next idle queued => exact holds.runLane idle queued stepped
    · exact absurd stepped (by simp)
  · obtain ⟨_, called⟩ := Option.ite_none_right_eq_some.mp stepped
    exact holds.frame (Frame.call called)
  · obtain ⟨running, busy, advanced⟩ := Option.bind_eq_some_iff.mp stepped
    exact holds.advance busy advanced

end Accounting

end Server

end Plank.Control
