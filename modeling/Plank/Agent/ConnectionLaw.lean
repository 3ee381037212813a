import Plank.Agent.Connection
import Plank.Trace.Law

/-!
# What the connection admits is fresh

A scope is bound only within two seconds of a reply that gave the lease, and never again after
anything that ends the admission. At most one request is outstanding, and the requests that follow
the first are numbered.
-/

namespace Plank.Agent

open Trace (Each)
open Auth (GraphicalIdentity sameScope sameScope_iff)

/-- The request that was sent. -/
def Happening.request : Happening → Option Request
  | .sent request => some request
  | _ => none

/-- Whether a reply was taken. -/
def Happening.answers : Happening → Bool
  | .answered _ _ _ _ => true
  | _ => false

/-- The requests, in order. -/
def requests (trace : List Happening) : List Request :=
  (trace.filterMap Happening.request).reverse

/-- How many replies were taken. -/
def answersOf (trace : List Happening) : Nat := trace.countP Happening.answers

/-- How many requests were numbered. -/
def numberedOf (trace : List Happening) : Nat :=
  (requests trace).countP fun request => request.operation ≠ .register

/-- What ends the admission. -/
def Happening.Closes : Happening → Prop
  | .answered _ status _ _ => status = 2
  | .moved state => state ≠ .ready
  | .pushed | .invalid | .refused _ => True
  | .sent _ | .bound _ _ _ => False

/-- Whether a scope is of the kind a phase is for. -/
def Phase.Suits (phase : Phase) (scope : GraphicalIdentity) : Prop :=
  (phase = .desktop ∧ scope.phase = .desktop) ∨ (phase = .loginWindow ∧ scope.phase = .signIn)

/-- What a happening has to do with those before it. -/
def Admits (phase : Phase) (past : List Happening) : Happening → Prop
  | .sent request => (requests past).length = answersOf past ∧
      (request.operation = .register → requests past = []) ∧
      (request.operation ≠ .register → request.sequence.toNat = numberedOf past + 1 ∧
        ∃ time, .answered .register 0 request.generation time ∈ past)
  | .answered operation _ _ time => (requests past).length = answersOf past + 1 ∧
      ∃ request, (requests past).getLast? = some request ∧ request.operation = operation ∧
        request.time ≤ time ∧ time.toNat < request.time.toNat + 2000000000
  | .bound scope identity time => identity = { scope with generation := identity.generation } ∧
      (∃ operation received, .answered operation 0 identity.generation received ∈ past ∧
        received ≤ time ∧ time.toNat < received.toNat + 2000000000) ∧
      (∀ happening ∈ past, ¬ happening.Closes) ∧ scope.valid = true ∧ phase.Suits scope ∧
      ∀ other returned time, .bound other returned time ∈ past → other = scope
  | .pushed | .invalid | .moved _ | .refused _ => True

namespace Connection

/-- What holds at a time, whether or not the admission is about to be closed. -/
structure Core (connection : Connection) (now : UInt64) : Prop where
  /-- The happenings are lawful. -/
  lawful : Each (Admits connection.phase) connection.trace
  /-- At most one request is outstanding. -/
  asked : (requests connection.trace).length =
    answersOf connection.trace + if connection.pending.isSome then 1 else 0
  /-- It is the last one. -/
  last : ∀ operation, connection.pending = some operation →
    ∃ request, (requests connection.trace).getLast? = some request ∧
      request.operation = operation ∧ request.time = connection.sentAt
  /-- The requests are numbered. -/
  numbered : connection.sequence.toNat = numberedOf connection.trace
  /-- Nothing is asked before the start. -/
  unstarted : connection.started = false → requests connection.trace = []
  /-- The generation was received. -/
  known : connection.generation ≠ 0 →
    ∃ time, .answered .register 0 connection.generation time ∈ connection.trace
  /-- Nothing was sent in the future. -/
  sent : ∀ request ∈ requests connection.trace, request.time ≤ now
  /-- Nothing was received in the future. -/
  received : ∀ operation status generation time,
    .answered operation status generation time ∈ connection.trace → time ≤ now
  /-- What is admitted was received, and ends two seconds later. -/
  admitted : connection.admissionGeneration ≠ 0 → ∃ operation time,
    .answered operation 0 connection.admissionGeneration time ∈ connection.trace ∧
      connection.admissionDeadline.toNat = time.toNat + 2000000000
  /-- A connection that is neither new nor ready admits nothing. -/
  left : connection.state = .connecting ∨ connection.state = .ready ∨
    connection.admissionClosed = true
  /-- The bound scope is the one that was bound. -/
  bound : ∀ scope identity time, .bound scope identity time ∈ connection.trace →
    connection.boundScope = scope ∧ scope.active = true

/-- What every call keeps. -/
structure Kept (connection : Connection) (now : UInt64) : Prop extends Core connection now where
  /-- Nothing has ended an open admission. -/
  opened : connection.admissionClosed = false →
    ∀ happening ∈ connection.trace, ¬ happening.Closes

/-- How a connection goes on without a reply. -/
structure Goes (before after : Connection) : Prop where
  /-- Something happens, but no reply is taken. -/
  trace : ∃ fresh, after.trace = fresh ++ before.trace ∧ ∀ happening ∈ fresh,
    happening.answers = false
  /-- The admission is not opened again. -/
  closed : before.admissionClosed = true → after.admissionClosed = true
  /-- What is over stays over. -/
  ended : before.ended = true → after.ended = true
  /-- The phase stays. -/
  phase : after.phase = before.phase
  /-- The server stays. -/
  server : after.serverUID = before.serverUID

variable {connection before after : Connection} {now : UInt64}

/-- Nothing happens. -/
theorem Goes.refl (connection : Connection) : Goes connection connection where
  trace := ⟨[], rfl, by simp⟩
  closed := id
  ended := id
  phase := rfl
  server := rfl

/-- One thing after another. -/
theorem Goes.trans {middle : Connection} (first : Goes before middle)
    (second : Goes middle after) : Goes before after where
  trace := by
    obtain ⟨early, begun, quiet⟩ := first.trace
    obtain ⟨late, grown, silent⟩ := second.trace
    refine ⟨late ++ early, by rw [grown, begun, List.append_assoc], ?_⟩
    intro happening member
    rcases List.mem_append.mp member with new | old
    · exact silent happening new
    · exact quiet happening old
  closed shut := second.closed (first.closed shut)
  ended over_ := second.ended (first.ended over_)
  phase := second.phase.trans first.phase
  server := second.server.trans first.server

/-- One more request. -/
theorem requests_sent (request : Request) (trace : List Happening) :
    requests (.sent request :: trace) = requests trace ++ [request] := by
  unfold requests
  rw [List.filterMap_cons_some (rfl : Happening.request (.sent request) = some request),
    List.reverse_cons]

/-- Anything else is no request. -/
theorem requests_cons {happening : Happening} (other : happening.request = none)
    (trace : List Happening) : requests (happening :: trace) = requests trace := by
  unfold requests
  rw [List.filterMap_cons_none other]

/-- Anything but a reply counts no reply. -/
theorem answersOf_cons {happening : Happening} (other : happening.answers = false)
    (trace : List Happening) : answersOf (happening :: trace) = answersOf trace := by
  unfold answersOf
  rw [List.countP_cons_of_neg (by rw [other]; exact Bool.false_ne_true)]

/-- A closed admission is kept. -/
theorem Core.kept (core : Core connection now) (closed : connection.admissionClosed = true) :
    Kept connection now where
  toCore := core
  opened open_ := absurd (closed.symm.trans open_) Bool.false_ne_true.symm

/-- See something that is neither a request, nor a reply, nor a bound scope. -/
theorem Core.see (core : Core connection now) (happening : Happening)
    (lawful : Admits connection.phase connection.trace happening)
    (request : happening.request = none) (answers : happening.answers = false)
    (unbound : ∀ scope identity time, happening ≠ .bound scope identity time) :
    Core (connection.see happening) now := by
  have asked : requests (connection.see happening).trace = requests connection.trace :=
    requests_cons request _
  have answered : answersOf (connection.see happening).trace = answersOf connection.trace :=
    answersOf_cons answers _
  exact {
    lawful := core.lawful.cons lawful
    asked := by
      rw [asked, answered]
      exact core.asked
    last := by
      rw [asked]
      exact core.last
    numbered := by
      unfold numberedOf
      rw [asked]
      exact core.numbered
    unstarted := by
      rw [asked]
      exact core.unstarted
    known := fun given => by
      obtain ⟨time, seen⟩ := core.known given
      exact ⟨time, List.mem_cons_of_mem _ seen⟩
    sent := by
      rw [asked]
      exact core.sent
    received := fun operation status generation time seen => by
      rcases List.mem_cons.mp seen with rfl | old
      · exact absurd answers Bool.false_ne_true.symm
      · exact core.received operation status generation time old
    admitted := fun given => by
      obtain ⟨operation, time, seen, deadline⟩ := core.admitted given
      exact ⟨operation, time, List.mem_cons_of_mem _ seen, deadline⟩
    left := core.left
    bound := fun scope identity time seen => by
      rcases List.mem_cons.mp seen with same | old
      · exact absurd same.symm (unbound scope identity time)
      · exact core.bound scope identity time old }

/-- It goes on when something is seen that is no reply. -/
theorem goes_see {happening : Happening} (answers : happening.answers = false) :
    Goes connection (connection.see happening) where
  trace := ⟨[happening], rfl, by simpa using answers⟩
  closed := id
  ended := id
  phase := rfl
  server := rfl

/-- A connection that is over is not new or ready. -/
theorem Core.over (core : Core connection now) (over_ : connection.ended = true) :
    connection.admissionClosed = true := by
  rcases core.left with same | same | closed
  · simp [ended, same] at over_
  · simp [ended, same] at over_
  · exact closed

/-- Leave for a state in which nothing is admitted. -/
theorem Core.transition (core : Core connection now) (state : ConnectionState)
    (leaves : state ≠ .connecting ∧ state ≠ .ready) :
    Kept (connection.transition state) now ∧ Goes connection (connection.transition state) := by
  unfold Connection.transition
  split
  · next stays =>
    refine ⟨core.kept ?_, .refl connection⟩
    rcases Bool.or_eq_true_iff.mp stays with same | over_
    · obtain rfl := of_decide_eq_true same
      rcases core.left with new | ready | closed
      · exact absurd new leaves.1
      · exact absurd ready leaves.2
      · exact closed
    · exact core.over over_
  · next moves =>
    have live : connection.ended = false := by
      simp only [Bool.or_eq_true, not_or, Bool.not_eq_true] at moves
      exact moves.2
    dsimp only
    rw [if_neg leaves.2]
    have seen : Core (connection.see (.moved state)) now :=
      core.see _ trivial rfl rfl (by intro _ _ _; exact nofun)
    refine ⟨Core.kept ?_ rfl, ?_⟩
    · exact { seen with
        admitted := fun given => absurd rfl given
        left := .inr (.inr rfl) }
    · exact {
        trace := ⟨[.moved state], rfl, by simp [Happening.answers]⟩
        closed := fun _ => rfl
        ended := fun over_ => absurd (live.symm.trans over_) Bool.false_ne_true
        phase := rfl
        server := rfl }

/-- `stop`. -/
theorem Core.stop (core : Core connection now) :
    Kept connection.stop now ∧ Goes connection connection.stop :=
  core.transition .disconnected ⟨nofun, nofun⟩

/-- `revoke`. -/
theorem Core.revoke (core : Core connection now) :
    Kept connection.revoke now ∧ Goes connection connection.revoke := by
  unfold Connection.revoke
  split
  · exact core.stop
  · next old =>
    split
    · exact core.transition .retiring ⟨nofun, nofun⟩
    · next idle =>
      refine ⟨core.kept ?_, .refl connection⟩
      rcases core.left with new | ready | closed
      · exact absurd new old
      · exact absurd ready idle
      · exact closed

/-- A reply that was taken is counted. -/
theorem answersOf_pos {operation : Operation} {status generation time : UInt64}
    {trace : List Happening} (seen : .answered operation status generation time ∈ trace) :
    0 < answersOf trace := List.countP_pos_iff.mpr ⟨_, seen, rfl⟩

/-- A request is sent while none is outstanding. -/
theorem Kept.post (kept : Kept connection now) (request : Request) (sequence : UInt64)
    (idle : connection.pending = none) (started : connection.started = true)
    (lawful : Admits connection.phase connection.trace (.sent request))
    (number : sequence.toNat =
      numberedOf connection.trace + if request.operation = .register then 0 else 1)
    (time : request.time = now) :
    Kept ({ connection with sequence }.post request) now ∧
      Goes connection ({ connection with sequence }.post request) := by
  have asked : requests ({ connection with sequence }.post request).trace =
      requests connection.trace ++ [request] := requests_sent request _
  have answered : answersOf ({ connection with sequence }.post request).trace =
      answersOf connection.trace := answersOf_cons rfl _
  have before := kept.asked
  rw [idle] at before
  refine ⟨{
    lawful := kept.lawful.cons lawful
    asked := ?_
    last := fun operation here => ?_
    numbered := ?_
    unstarted := fun new => absurd (started.symm.trans new) Bool.false_ne_true.symm
    known := fun given => ?_
    sent := fun other member => ?_
    received := fun operation status generation time seen => ?_
    admitted := fun given => ?_
    left := kept.left
    bound := fun scope identity time seen => ?_
    opened := fun open_ happening member => ?_ }, {
    trace := ⟨[.sent request], rfl, by simp [Happening.answers]⟩
    closed := id
    ended := id
    phase := rfl
    server := rfl }⟩
  · rw [asked, answered, List.length_append, before]
    rfl
  · rw [asked]
    exact ⟨request, List.getLast?_concat, Option.some.inj here, rfl⟩
  · unfold numberedOf
    rw [asked, List.countP_append]
    show sequence.toNat = _
    rw [number]
    by_cases first : request.operation = .register
    · simp [numberedOf, first]
    · simp [numberedOf, first]
  · obtain ⟨time, seen⟩ := kept.known given
    exact ⟨time, List.mem_cons_of_mem _ seen⟩
  · rw [asked] at member
    rcases List.mem_append.mp member with old | new
    · exact kept.sent other old
    · rw [List.mem_singleton.mp new, time]
      exact UInt64.le_refl now
  · rcases List.mem_cons.mp seen with same | old
    · exact nomatch same
    · exact kept.received operation status generation time old
  · obtain ⟨operation, time, seen, deadline⟩ := kept.admitted given
    exact ⟨operation, time, List.mem_cons_of_mem _ seen, deadline⟩
  · rcases List.mem_cons.mp seen with same | old
    · exact nomatch same
    · exact kept.bound scope identity time old
  · rcases List.mem_cons.mp member with rfl | old
    · exact id
    · exact kept.opened open_ happening old

/-- A connection that knows its generation was started. -/
theorem Core.started (core : Core connection now) (given : connection.generation ≠ 0) :
    connection.started = true := by
  by_contra new
  obtain ⟨time, seen⟩ := core.known given
  have none := core.unstarted (Bool.eq_false_iff.mpr new)
  have count := core.asked
  have taken := answersOf_pos seen
  rw [none] at count
  simp only [List.length_nil] at count
  omega

/-- `send`; a connection registers only when it has asked for nothing. -/
theorem Kept.send (kept : Kept connection now) (operation : Operation)
    (first : operation = .register → requests connection.trace = [] ∧
      connection.started = true) :
    Kept (connection.send operation now) now ∧ Goes connection (connection.send operation now) := by
  unfold Connection.send
  split
  · exact ⟨kept, .refl connection⟩
  · next may =>
    have idle : connection.pending = none := by
      simp only [Bool.or_eq_true, not_or, Bool.not_eq_true, Option.isSome_eq_false_iff,
        Option.isNone_iff_eq_none] at may
      exact may.1
    have count : (requests connection.trace).length = answersOf connection.trace := by
      have asked := kept.asked
      rwa [idle] at asked
    split
    · next register =>
      obtain ⟨none, started⟩ := first register
      subst register
      exact kept.post { operation := .register, time := now } connection.sequence idle started
        ⟨count, fun _ => none, fun other => absurd rfl other⟩ kept.numbered rfl
    · next other =>
      split
      · exact kept.toCore.stop
      · next known =>
        simp only [Bool.or_eq_true, not_or, decide_eq_true_eq] at known
        obtain ⟨given, room⟩ := known
        have number : (connection.sequence + 1).toNat = numberedOf connection.trace + 1 := by
          rw [← kept.numbered, UInt64.toNat_add]
          have bound := connection.sequence.toNat_lt
          have fits : connection.sequence.toNat ≠ 0xffffffffffffffff := fun same =>
            room (UInt64.toNat_inj.mp same)
          have one : (1 : UInt64).toNat = 1 := rfl
          omega
        obtain ⟨time, seen⟩ := kept.known given
        exact kept.post _ _ idle (kept.started given)
          ⟨count, fun register => absurd register other, fun _ => ⟨number, time, seen⟩⟩
          (by rw [if_neg other]; exact number) rfl

/-- `start`. -/
theorem Kept.start (kept : Kept connection now) (valid : Bool) :
    Kept (connection.start valid now) now ∧ Goes connection (connection.start valid now) := by
  unfold Connection.start
  split
  · exact ⟨kept, .refl connection⟩
  · next may =>
    have new : connection.started = false := by
      simp only [Bool.or_eq_true, not_or, Bool.not_eq_true] at may
      exact may.1
    have none := kept.unstarted new
    have begun : Kept { connection with started := true } now :=
      { kept with unstarted := fun _ => none }
    dsimp only
    split
    · obtain ⟨sent, goes⟩ := begun.send .register fun _ => ⟨none, rfl⟩
      exact ⟨sent, { goes with }⟩
    · obtain ⟨stopped, goes⟩ :=
        (begun.toCore.see .invalid trivial rfl rfl (by intro _ _ _; exact nofun)).stop
      exact ⟨stopped, (goes_see rfl).trans { goes with }⟩

/-- The local scope is found invalid. -/
theorem Core.lost (core : Core connection now) :
    Kept (connection.see .invalid).revoke now ∧
      Goes connection (connection.see .invalid).revoke := by
  have seen : Core (connection.see .invalid) now :=
    core.see _ trivial rfl rfl (by intro _ _ _; exact nofun)
  obtain ⟨revoked, goes⟩ := seen.revoke
  exact ⟨revoked, (goes_see rfl).trans goes⟩

/-- The deadline is looked at. -/
theorem Kept.expire (kept : Kept connection now) (looked : Bool) :
    Kept (connection.expire looked now) now ∧ Goes connection (connection.expire looked now) := by
  unfold Connection.expire
  split
  · exact ⟨Core.kept { kept.toCore with left := .inr (.inr rfl) } rfl,
      { Goes.refl connection with closed := fun _ => rfl }⟩
  · exact ⟨kept, .refl connection⟩

/-- `authorized`. -/
theorem Kept.authorized (kept : Kept connection now) (valid : Bool) :
    Kept (connection.authorized valid now).1 now ∧
      Goes connection (connection.authorized valid now).1 := by
  unfold Connection.authorized
  split
  · exact ⟨kept, .refl connection⟩
  · split
    · exact kept.toCore.lost
    · obtain ⟨expired, goes⟩ := kept.expire true
      dsimp only
      split
      · exact ⟨expired, goes⟩
      · exact ⟨{ expired with }, { goes with }⟩

/-- The watch. -/
theorem Kept.tick (kept : Kept connection now) (valid : Bool) :
    Kept (connection.tick valid now) now ∧ Goes connection (connection.tick valid now) := by
  unfold Connection.tick
  split
  · exact kept.toCore.stop
  · split
    · obtain ⟨looked, first⟩ := kept.authorized valid
      split
      · next held same =>
        rw [same] at looked first
        split
        · obtain ⟨sent, second⟩ := looked.send .renew nofun
          exact ⟨sent, first.trans second⟩
        · exact ⟨looked, first⟩
      · next held same =>
        rw [same] at looked first
        exact ⟨looked, first⟩
    · exact ⟨kept, .refl connection⟩

/-- A new connection is ready. -/
theorem Kept.ready (kept : Kept connection now) (new : connection.state = .connecting) :
    Kept (connection.transition .ready) now ∧ Goes connection (connection.transition .ready) := by
  have live : connection.ended = false := by
    unfold ended
    rw [new]
    rfl
  have result : connection.transition .ready =
      { connection with state := .ready }.see (.moved .ready) := by
    unfold Connection.transition
    rw [live, new]
    rfl
  have seen : Core (connection.see (.moved .ready)) now :=
    kept.toCore.see _ trivial rfl rfl (by intro _ _ _; exact nofun)
  rw [result]
  refine ⟨{ seen with left := .inr (.inl rfl), opened := fun open_ happening member => ?_ }, {
    trace := ⟨[.moved .ready], rfl, by simp [Happening.answers]⟩
    closed := id
    ended := fun over_ => absurd (live.symm.trans over_) Bool.false_ne_true
    phase := rfl
    server := rfl }⟩
  rcases List.mem_cons.mp member with rfl | old
  · exact fun left => left rfl
  · exact kept.opened open_ happening old

/-- A deadline that is later than now does not wrap. -/
theorem deadline_toNat (later : now < now + freshTime) :
    (now + freshTime).toNat = now.toNat + 2000000000 := by
  have small := UInt64.lt_iff_toNat_lt.mp later
  have span : freshTime.toNat = 2000000000 := rfl
  rw [UInt64.toNat_add, span] at small ⊢
  have bound := now.toNat_lt
  omega

/-- A good reply renews the admission, unless it was closed or ran out. -/
theorem Kept.admits (kept : Kept connection now) {operation : Operation}
    (received : .answered operation 0 connection.generation now ∈ connection.trace)
    (time : connection.ackAt = now) :
    Kept (connection.admits now) now ∧ Goes connection (connection.admits now) := by
  unfold Connection.admits
  obtain ⟨looked, first⟩ := kept.expire (connection.admissionGeneration ≠ 0)
  have same : (connection.expire (connection.admissionGeneration ≠ 0) now).ackAt = now ∧
      .answered operation 0 (connection.expire (connection.admissionGeneration ≠ 0) now).generation
        now ∈ (connection.expire (connection.admissionGeneration ≠ 0) now).trace := by
    unfold Connection.expire
    split
    · exact ⟨time, received⟩
    · exact ⟨time, received⟩
  revert looked first same
  generalize connection.expire (connection.admissionGeneration ≠ 0) now = middle
  intro looked first ⟨time, received⟩
  dsimp only
  split
  · next may =>
    have later : now < now + freshTime := by
      simp only [Bool.and_eq_true, decide_eq_true_eq, time] at may
      exact may.2
    have renewed : Kept { middle with
        admissionGeneration := middle.generation,
        admissionDeadline := middle.ackAt + freshTime } now :=
      { looked with
        admitted := fun _ => ⟨operation, now, received, by
          show (middle.ackAt + freshTime).toNat = _
          rw [time]
          exact deadline_toNat later⟩ }
    split
    · next new =>
      obtain ⟨ready, second⟩ := renewed.ready new
      exact ⟨ready, first.trans { second with }⟩
    · exact ⟨renewed, { first with }⟩
  · exact ⟨{ looked with }, { first with }⟩

/-- The end of `reply`. -/
theorem Kept.goOn (kept : Kept connection now) :
    Kept (connection.goOn now) now ∧ Goes connection (connection.goOn now) := by
  unfold Connection.goOn
  split
  · exact kept.send .retire nofun
  · exact ⟨kept, .refl connection⟩

/-- A reply is taken for the request that is outstanding. -/
theorem Kept.answer (kept : Kept connection now) {operation : Operation}
    (status generation : UInt64) (pending : connection.pending = some operation)
    (soon : ¬ freshTime ≤ now - connection.sentAt) :
    Core ({ connection with pending := none }.see
        (.answered operation status generation now)) now ∧
      (status ≠ 2 → Kept ({ connection with pending := none }.see
        (.answered operation status generation now)) now) := by
  obtain ⟨request, last, same, time⟩ := kept.last operation pending
  have asked := kept.asked
  rw [pending] at asked
  have past : request.time ≤ now := kept.sent request (List.mem_of_getLast? last)
  have early : now.toNat < request.time.toNat + 2000000000 := by
    have order := UInt64.le_iff_toNat_le.mp past
    have difference := UInt64.toNat_sub_of_le now request.time past
    have span : freshTime.toNat = 2000000000 := rfl
    rw [← time, UInt64.le_iff_toNat_le, difference, span] at soon
    omega
  have core : Core ({ connection with pending := none }.see
      (.answered operation status generation now)) now := {
    lawful := kept.lawful.cons ⟨asked, request, last, same, past, early⟩
    asked := by
      show (requests (_ :: connection.trace)).length = answersOf (_ :: connection.trace) + 0
      rw [requests_cons rfl, asked]
      unfold answersOf
      rw [List.countP_cons_of_pos rfl]
      rfl
    last := nofun
    numbered := by
      unfold numberedOf
      show connection.sequence.toNat = (requests (_ :: connection.trace)).countP _
      rw [requests_cons rfl]
      exact kept.numbered
    unstarted := fun new => by
      show requests (_ :: connection.trace) = []
      rw [requests_cons rfl]
      exact kept.unstarted new
    known := fun given => by
      obtain ⟨time, seen⟩ := kept.known given
      exact ⟨time, List.mem_cons_of_mem _ seen⟩
    sent := fun other member => kept.sent other (by
      have inside : other ∈ requests (_ :: connection.trace) := member
      rwa [requests_cons rfl] at inside)
    received := fun other before given at_ seen => by
      rcases List.mem_cons.mp seen with new | old
      · cases new
        exact UInt64.le_refl _
      · exact kept.received other before given at_ old
    admitted := fun given => by
      obtain ⟨other, time, seen, deadline⟩ := kept.admitted given
      exact ⟨other, time, List.mem_cons_of_mem _ seen, deadline⟩
    left := kept.left
    bound := fun scope identity time seen => by
      rcases List.mem_cons.mp seen with new | old
      · exact nomatch new
      · exact kept.bound scope identity time old }
  refine ⟨core, fun grants => { core with opened := fun open_ happening member => ?_ }⟩
  rcases List.mem_cons.mp member with rfl | old
  · exact grants
  · exact kept.opened open_ happening old

/-- The rest of `reply`. -/
theorem Core.settle (core : Core connection now) {operation : Operation}
    {status generation : UInt64} (received : .answered operation status generation now ∈ connection.trace)
    (opened : status ≠ 2 → Kept connection now) (valid : Bool) :
    Kept (connection.settle operation status generation valid now) now ∧
      Goes connection (connection.settle operation status generation valid now) := by
  unfold Connection.settle
  split
  · exact core.stop
  · next answer =>
    split
    · exact core.stop
    · next agrees =>
      obtain ⟨held, holds⟩ : ∃ held, held = if status = 0 then generation else
          connection.generation := ⟨_, rfl⟩
      rw [← holds]
      have known : held ≠ 0 → ∃ time, .answered .register 0 held time ∈ connection.trace := by
        intro given
        by_cases grants : status = 0
        · subst grants
          rw [if_pos rfl] at holds
          subst holds
          by_cases register : operation = .register
          · subst register
            exact ⟨now, received⟩
          · have same : held = connection.generation := by
              simpa [register] using agrees
            rw [same] at given ⊢
            exact core.known given
        · rw [if_neg grants] at holds
          rw [holds] at given ⊢
          exact core.known given
      have middle : Core { connection with generation := held, ackAt := now } now :=
        { core with known }
      have same : Goes connection { connection with generation := held, ackAt := now } :=
        { Goes.refl connection with }
      dsimp only
      split
      · obtain ⟨revoked, first⟩ := middle.revoke
        obtain ⟨done, second⟩ := revoked.goOn
        exact ⟨done, (same.trans first).trans second⟩
      · next renews =>
        have grants : status = 0 := by
          simp only [Bool.and_eq_true, decide_eq_true_eq, ne_eq, not_and, not_not] at answer
          by_contra other
          exact renews (answer other)
        have kept : Kept { connection with generation := held, ackAt := now } now :=
          { middle with opened := (opened renews).opened }
        split
        · obtain ⟨revoked, first⟩ := middle.lost
          obtain ⟨done, second⟩ := revoked.goOn
          exact ⟨done, (same.trans first).trans second⟩
        · split
          · have granted : .answered operation 0 held now ∈ connection.trace := by
              rw [if_pos grants] at holds
              rw [grants, ← holds] at received
              exact received
            obtain ⟨renewed, first⟩ := kept.admits granted rfl
            split
            · exact ⟨renewed, same.trans first⟩
            · obtain ⟨done, second⟩ := renewed.goOn
              exact ⟨done, (same.trans first).trans second⟩
          · obtain ⟨done, second⟩ := kept.goOn
            exact ⟨done, same.trans second⟩

/-- What `reply` does: it stops, or it takes the reply for the request that is outstanding. -/
theorem reply_cases (connection : Connection) (operation : Operation) (reply : Reply)
    (valid : Bool) (now : UInt64) :
    (connection.ended = true ∧ connection.reply operation reply valid now = connection) ∨
    connection.reply operation reply valid now = connection.stop ∨
    ∃ status generation, connection.ended = false ∧
      reply.read connection.serverUID = some (status, generation) ∧
      connection.pending = some operation ∧ ¬ freshTime ≤ now - connection.sentAt ∧
      (connection.reply operation reply valid now =
          ({ connection with pending := none }.see
            (.answered operation status generation now)).stop ∨
        connection.reply operation reply valid now =
          ({ connection with pending := none }.see
            (.answered operation status generation now)).transition .finished ∨
        connection.reply operation reply valid now =
          ({ connection with pending := none }.see
            (.answered operation status generation now)).settle operation status generation
              valid now) := by
  unfold Connection.reply
  split
  · next over_ => exact .inl ⟨over_, rfl⟩
  · next live =>
    refine .inr ?_
    split
    · exact .inl rfl
    · next waits =>
      simp only [Bool.or_eq_true, not_or, decide_eq_true_eq, ne_eq, not_not] at waits
      split
      · exact .inl rfl
      · next status generation read =>
        refine .inr ⟨status, generation, Bool.eq_false_iff.mpr live, read, waits.1, waits.2, ?_⟩
        dsimp only
        split
        · split
          · exact .inl rfl
          · exact .inr (.inl rfl)
        · exact .inr (.inr rfl)

/-- `reply`. -/
theorem Kept.reply (kept : Kept connection now) (operation : Operation) (reply : Reply)
    (valid : Bool) : Kept (connection.reply operation reply valid now) now := by
  rcases reply_cases connection operation reply valid now with ⟨_, same⟩ | same |
    ⟨status, generation, _, _, pending, soon, taken⟩
  · rw [same]
    exact kept
  · rw [same]
    exact kept.toCore.stop.1
  · obtain ⟨core, opened⟩ := kept.answer status generation pending soon
    rcases taken with same | same | same
    · rw [same]
      exact core.stop.1
    · rw [same]
      exact (core.transition .finished ⟨nofun, nofun⟩).1
    · rw [same]
      exact (core.settle (List.mem_cons_self ..) opened valid).1

/-- `receive`. -/
theorem Kept.receive (kept : Kept connection now) (push : Push) :
    Kept (connection.receive push) now ∧ Goes connection (connection.receive push) := by
  unfold Connection.receive
  split
  · exact ⟨kept, .refl connection⟩
  · split
    · exact kept.toCore.stop
    · have seen : Core (connection.see .pushed) now :=
        kept.toCore.see _ trivial rfl rfl (by intro _ _ _; exact nofun)
      obtain ⟨revoked, goes⟩ := seen.revoke
      exact ⟨revoked, (goes_see rfl).trans goes⟩

/-- `retire`. -/
theorem Kept.retire (kept : Kept connection now) :
    Kept (connection.retire now) now ∧ Goes connection (connection.retire now) := by
  unfold Connection.retire
  obtain ⟨revoked, first⟩ := kept.toCore.revoke
  dsimp only
  split
  · exact ⟨revoked, first⟩
  · have requested : Kept { connection.revoke with retireRequested := true } now :=
      { revoked with }
    split
    · obtain ⟨sent, second⟩ := requested.send .retire nofun
      exact ⟨sent, first.trans { second with }⟩
    · exact ⟨requested, { first with }⟩

/-- A scope that suits the connection suits its phase. -/
theorem suits_iff (scope : GraphicalIdentity) :
    connection.suits scope = true ↔ connection.phase.Suits scope := by
  simp [suits, Phase.Suits]

/-- `bindGraphicalScope`. -/
theorem Kept.bindGraphicalScope (kept : Kept connection now) (scope : GraphicalIdentity) :
    Kept (connection.bindGraphicalScope scope now).1 now ∧
      Goes connection (connection.bindGraphicalScope scope now).1 := by
  unfold Connection.bindGraphicalScope
  split
  · exact ⟨kept, .refl connection⟩
  · next admits =>
    simp only [Bool.or_eq_true, not_or, Bool.not_eq_true, decide_eq_true_eq] at admits
    obtain ⟨open_, given⟩ := admits
    split
    · have seen : Core (connection.see (.refused scope)) now :=
        kept.toCore.see _ trivial rfl rfl (by intro _ _ _; exact nofun)
      exact ⟨Core.kept { seen with
          admitted := fun none => absurd rfl none
          left := .inr (.inr rfl) } rfl, {
        trace := ⟨[.refused scope], rfl, by simp [Happening.answers]⟩
        closed := fun _ => rfl
        ended := id
        phase := rfl
        server := rfl }⟩
    · next fits =>
      simp only [Bool.or_eq_true, not_or, Bool.not_eq_true, Bool.not_eq_false',
        decide_eq_true_eq, Bool.and_eq_true, not_and] at fits
      obtain ⟨⟨⟨early, suits⟩, valid⟩, same⟩ := fits
      have active : scope.active = true := ((GraphicalIdentity.valid_iff scope).mp valid).1
      obtain ⟨operation, received, seen, deadline⟩ := kept.admitted given
      have order := kept.received operation 0 _ received seen
      have soon : now.toNat < received.toNat + 2000000000 := by
        rw [UInt64.le_iff_toNat_le, deadline] at early
        omega
      have first : ∀ other returned time, .bound other returned time ∈ connection.trace →
          other = scope := by
        intro other returned time member
        obtain ⟨rfl, was⟩ := kept.bound other returned time member
        exact ((sameScope_iff _ _).mp (by simpa using same was)).1
      have lawful : Admits connection.phase connection.trace
          (.bound scope { scope with generation := connection.admissionGeneration } now) :=
        ⟨rfl, ⟨operation, received, seen, order, soon⟩, kept.opened open_, valid,
          (suits_iff scope).mp suits, first⟩
      refine ⟨{
        lawful := kept.lawful.cons lawful
        asked := kept.asked
        last := kept.last
        numbered := kept.numbered
        unstarted := kept.unstarted
        known := fun given => ?_
        sent := kept.sent
        received := fun other status generation time member => ?_
        admitted := fun _ => ⟨operation, received, List.mem_cons_of_mem _ seen, deadline⟩
        left := kept.left
        bound := fun other returned time member => ?_
        opened := fun _ happening member => ?_ }, {
        trace := ⟨[.bound scope _ now], rfl, by simp [Happening.answers]⟩
        closed := id
        ended := id
        phase := rfl
        server := rfl }⟩
      · obtain ⟨time, member⟩ := kept.known given
        exact ⟨time, List.mem_cons_of_mem _ member⟩
      · rcases List.mem_cons.mp member with same | old
        · exact nomatch same
        · exact kept.received other status generation time old
      · rcases List.mem_cons.mp member with same | old
        · cases same
          exact ⟨rfl, active⟩
        · obtain rfl := first other returned time old
          exact ⟨rfl, active⟩
      · rcases List.mem_cons.mp member with rfl | old
        · exact id
        · exact kept.opened open_ happening old

/-- Time passes. -/
theorem Kept.later (kept : Kept connection now) {later : UInt64} (order : now ≤ later) :
    Kept connection later :=
  { kept with
    sent := fun request member => UInt64.le_trans (kept.sent request member) order
    received := fun operation status generation time member =>
      UInt64.le_trans (kept.received operation status generation time member) order }

/-- Every call. -/
theorem Kept.perform (kept : Kept connection now) (call : Call) :
    Kept (connection.perform now call) now := by
  cases call with
  | start valid => exact (kept.start valid).1
  | tick valid => exact (kept.tick valid).1
  | reply operation reply valid => exact kept.reply operation reply valid
  | receive push => exact (kept.receive push).1
  | authorized valid => exact (kept.authorized valid).1
  | revoke => exact kept.toCore.revoke.1
  | retire => exact kept.retire.1
  | stop => exact kept.toCore.stop.1
  | halt => exact { kept.toCore.stop.1 with }
  | bindGraphicalScope scope => exact (kept.bindGraphicalScope scope).1

/-- A call that is not a reply takes no reply. -/
theorem Kept.goes (kept : Kept connection now) {call : Call}
    (other : ∀ operation reply valid, call ≠ .reply operation reply valid) :
    Goes connection (connection.perform now call) := by
  cases call with
  | start valid => exact (kept.start valid).2
  | tick valid => exact (kept.tick valid).2
  | reply operation reply valid => exact absurd rfl (other operation reply valid)
  | receive push => exact (kept.receive push).2
  | authorized valid => exact (kept.authorized valid).2
  | revoke => exact kept.toCore.revoke.2
  | retire => exact kept.retire.2
  | stop => exact kept.toCore.stop.2
  | halt => exact { kept.toCore.stop.2 with }
  | bindGraphicalScope scope => exact (kept.bindGraphicalScope scope).2

/-- What a call that answers a request does: it takes no reply and the connection is over, or it
takes one. -/
theorem Kept.replies (kept : Kept connection now) (operation : Operation) (reply : Reply)
    (valid : Bool) :
    (Goes connection (connection.reply operation reply valid now) ∧
      (connection.reply operation reply valid now).ended = true) ∨
    ∃ status generation, connection.ended = false ∧
      reply.read connection.serverUID = some (status, generation) ∧
      connection.pending = some operation ∧
      Goes ({ connection with pending := none }.see (.answered operation status generation now))
        (connection.reply operation reply valid now) := by
  rcases reply_cases connection operation reply valid now with ⟨over_, same⟩ | same |
    ⟨status, generation, live, read, pending, soon, taken⟩
  · rw [same]
    exact .inl ⟨.refl connection, over_⟩
  · rw [same]
    refine .inl ⟨kept.toCore.stop.2, ?_⟩
    unfold Connection.stop Connection.transition
    split
    · next stays =>
      rcases Bool.or_eq_true_iff.mp stays with there | over_
      · simp [ended, of_decide_eq_true there]
      · exact over_
    · simp [ended, see]
  · obtain ⟨core, opened⟩ := kept.answer status generation pending soon
    refine .inr ⟨status, generation, live, read, pending, ?_⟩
    rcases taken with same | same | same
    · rw [same]
      exact core.stop.2
    · rw [same]
      exact (core.transition .finished ⟨nofun, nofun⟩).2
    · rw [same]
      exact (core.settle (List.mem_cons_self ..) opened valid).2

/-- A step is a call at its time. -/
theorem step_some {call : Call × UInt64} (stepped : connection.step call = some after) :
    connection.clock ≤ call.2 ∧ connection.allows call.1 = true ∧
      after = { connection.perform call.2 call.1 with clock := call.2 } := by
  obtain ⟨allowed, same⟩ := Option.ite_none_right_eq_some.mp stepped
  simp only [Bool.and_eq_true, decide_eq_true_eq] at allowed
  exact ⟨allowed.1, allowed.2, (Option.some.inj same).symm⟩

/-- The admission is kept at the time of the clock. -/
def Holds (connection : Connection) : Prop := Kept connection connection.clock

/-- Every step keeps it. -/
theorem holds_step {call : Call × UInt64} (holds : connection.Holds)
    (stepped : connection.step call = some after) : after.Holds := by
  obtain ⟨order, _, rfl⟩ := step_some stepped
  exact { (Kept.later holds order).perform call.1 with }

/-- A new connection. -/
theorem holds_initial (serverUID : UInt32) (phase : Phase) :
    Holds { serverUID, phase } :=
  { lawful := .nil
    asked := rfl
    last := nofun
    numbered := rfl
    unstarted := fun _ => rfl
    known := fun given => absurd rfl given
    sent := nofun
    received := nofun
    admitted := fun given => absurd rfl given
    left := .inl rfl
    bound := nofun
    opened := nofun }

variable {serverUID : UInt32} {phase : Phase}

/-- Every reachable connection is kept. -/
theorem reachable_holds (reachable : (system serverUID phase).Reachable connection) :
    connection.Holds := by
  have preserves : (system serverUID phase).Preserves Holds := fun _ _ _ holds stepped =>
    holds_step holds stepped
  refine preserves.reachable ?_ reachable
  rintro connection rfl
  exact holds_initial serverUID phase

/-- A call that returns a scope binds it. -/
theorem Kept.binds (kept : Kept connection now) {scope : GraphicalIdentity}
    (returned : (connection.bindGraphicalScope scope now).2 ≠ {}) :
    Admits connection.phase connection.trace
      (.bound scope (connection.bindGraphicalScope scope now).2 now) := by
  obtain ⟨after, goes⟩ := kept.bindGraphicalScope scope
  have lawful := after.lawful
  rw [goes.phase] at lawful
  revert lawful returned
  unfold Connection.bindGraphicalScope
  split
  · exact fun none => absurd rfl none
  · split
    · exact fun none => absurd rfl none
    · exact fun _ lawful => lawful.head

/-- A closed admission stays closed. -/
theorem closed_step {call : Call × UInt64} (holds : connection.Holds)
    (closed : connection.admissionClosed = true) (stepped : connection.step call = some after) :
    after.admissionClosed = true := by
  obtain ⟨order, _, rfl⟩ := step_some stepped
  have kept := Kept.later holds order
  obtain ⟨call, now⟩ := call
  show (connection.perform now call).admissionClosed = true
  by_cases replies : ∃ operation reply valid, call = .reply operation reply valid
  · obtain ⟨operation, reply, valid, rfl⟩ := replies
    rcases kept.replies operation reply valid with ⟨goes, _⟩ | ⟨_, _, _, _, _, goes⟩
    · exact goes.closed closed
    · exact goes.closed closed
  · exact (kept.goes fun operation reply valid same =>
      replies ⟨operation, reply, valid, same⟩).closed closed

/-- What holds of a connection after any calls. -/
structure FreshLaw (serverUID : UInt32) (phase : Phase) (connection : Connection) : Prop where
  /-- A call that returns a scope returns the generation of a fresh reply, after nothing that ends
  the admission, for a scope of the right phase that is the first one bound. -/
  bound : ∀ scope now, connection.clock ≤ now →
    (connection.bindGraphicalScope scope now).2 ≠ {} → Admits connection.phase connection.trace
      (.bound scope (connection.bindGraphicalScope scope now).2 now)
  /-- Every happening has the place that the law gives it: one request is outstanding at most, and
  they are numbered. -/
  lawful : Each (Admits connection.phase) connection.trace
  /-- A closed admission is not opened again, and returns nothing. -/
  closed : connection.admissionClosed = true → ∀ later,
    (system serverUID phase).Reaches connection later →
      later.admissionClosed = true ∧ ∀ scope now, (later.bindGraphicalScope scope now).2 = {}

/-- The connection admits what is fresh. -/
theorem Holds.fresh (holds : connection.Holds) : FreshLaw serverUID phase connection where
  bound scope now order returned := (Kept.later holds order).binds returned
  lawful := (Kept.toCore holds).lawful
  closed shut later reaches := by
    have preserves : (system serverUID phase).Preserves fun connection =>
        connection.Holds ∧ connection.admissionClosed = true :=
      fun _ _ _ ⟨holds, closed⟩ stepped =>
        ⟨holds_step holds stepped, closed_step holds closed stepped⟩
    obtain ⟨_, closed⟩ := preserves.reaches ⟨holds, shut⟩ reaches
    refine ⟨closed, fun scope now => ?_⟩
    unfold Connection.bindGraphicalScope
    rw [closed]
    rfl

end Connection

end Plank.Agent
