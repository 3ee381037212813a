import Plank.Agent.Admission

/-!
# No admission outlives a revoked lease by four seconds

An answer that grants is given before the revocation, for a request that was sent before it. It is
taken within two seconds of the request, and it admits for two seconds more.
-/

namespace Plank.Agent

open Trace (Each)
open Auth (GraphicalIdentity)

/-- Happenings after others. -/
theorem requests_append (fresh trace : List Happening) :
    requests (fresh ++ trace) = requests trace ++ requests fresh := by
  simp [requests]

/-- A numbered request of a lawful trace has its number, and its generation was received. -/
theorem request_numbered {phase : Phase} {trace : List Happening}
    (lawful : Each (Admits phase) trace) {place : Nat} {request : Request} (here : (requests trace)[place]? = some request)
    (numbered : request.operation ≠ .register) :
    request.sequence.toNat =
        ((requests trace).take place).countP (fun request => request.operation ≠ .register) + 1 ∧
      ∃ time, .answered .register 0 request.generation time ∈ trace := by
  induction trace with
  | nil => exact absurd here (by simp [requests])
  | cons happening past ih =>
    have before : Each (Admits phase) past := fun later event earlier split =>
      lawful (happening :: later) event earlier (by rw [split]; rfl)
    cases sent : happening.request with
    | none =>
      rw [Connection.requests_cons sent] at here ⊢
      obtain ⟨number, time, seen⟩ := ih before here
      exact ⟨number, time, List.mem_cons_of_mem _ seen⟩
    | some last =>
      have same : happening = .sent last := by
        cases happening <;> first
          | exact congrArg Happening.sent (Option.some.inj sent)
          | exact absurd sent (by simp [Happening.request])
      subst same
      rw [Connection.requests_sent] at here ⊢
      rcases Nat.lt_or_ge place (requests past).length with old | new
      · rw [List.getElem?_append_left old] at here
        obtain ⟨number, time, seen⟩ := ih before here
        rw [List.take_append_of_le_length (Nat.le_of_lt old)]
        exact ⟨number, time, List.mem_cons_of_mem _ seen⟩
      · rw [List.getElem?_append_right new] at here
        have only : place - (requests past).length = 0 := by
          by_contra positive
          rw [List.getElem?_eq_none (by simp; omega)] at here
          exact nomatch here
        rw [only] at here
        obtain rfl := Option.some.inj here
        have place_eq : place = (requests past).length := by omega
        obtain ⟨_, _, law⟩ := lawful.head
        obtain ⟨number, time, seen⟩ := law numbered
        rw [place_eq, List.take_left']
        · exact ⟨number, time, List.mem_cons_of_mem _ seen⟩
        · rfl

namespace Admission

/-- What holds at both ends. -/
structure Sane (link : Nat) (admission : Admission) : Prop where
  /-- The connection is kept. -/
  connection : admission.connection.Holds
  /-- Its clock is not ahead. -/
  clock : admission.connection.clock ≤ admission.clock
  /-- The registry is kept. -/
  registry : admission.registry.Kept
  /-- The registry takes what was sent. -/
  taken : admission.taken ≤ (requests admission.connection.trace).length
  /-- It answers what it took. -/
  replied : (repliesOf link admission.registry.trace).length ≤ admission.taken
  /-- What it answered is delivered. -/
  given : admission.delivered ≤ (repliesOf link admission.registry.trace).length
  /-- What is delivered is taken. -/
  delivered : admission.connection.ended = false →
    answersOf admission.connection.trace = admission.delivered
  /-- What it took is accepted, if it is numbered. -/
  accepted : (admission.registry.link link).closed = false → admission.registry.stopped = false →
    acceptedOf link admission.registry.trace =
      ((requests admission.connection.trace).take admission.taken).countP
        fun request => request.operation ≠ .register
  /-- What the connection received was granted. -/
  granted : ∀ operation generation time,
    .answered operation 0 generation time ∈ admission.connection.trace →
      .granted link generation ∈ admission.registry.trace
  /-- The time of the revocation is known once it is told of. -/
  revoked : admission.revokedAt.isSome = true ↔
    .event link .revoked ∈ admission.registry.trace
  /-- A request that was granted was sent before the revocation. -/
  timely : ∀ revoked, admission.revokedAt = some revoked →
    ∀ (place : Nat) (request : Request) (generation : Option UInt64),
      (requests admission.connection.trace)[place]? = some request →
        (repliesOf link admission.registry.trace)[place]? = some (0, generation) →
          request.time ≤ revoked
  /-- A grant is received within two seconds of the revocation. -/
  soon : ∀ revoked, admission.revokedAt = some revoked → ∀ operation generation time,
    .answered operation 0 generation time ∈ admission.connection.trace →
      time.toNat < revoked.toNat + 2000000000

variable {link : Nat} {admission after : Admission}

/-- The connection goes on. -/
theorem Sane.goes (sane : Sane link admission) {connection : Connection} {fresh : List Happening}
    {delivered : Nat} {now : UInt64}
    (trace : connection.trace = fresh ++ admission.connection.trace) (holds : connection.Holds) (clock : connection.clock ≤ now)
    (given : delivered ≤ (repliesOf link admission.registry.trace).length)
    (counted : connection.ended = false → answersOf connection.trace = delivered)
    (new : ∀ operation generation time, .answered operation 0 generation time ∈ fresh →
      .granted link generation ∈ admission.registry.trace ∧ ∀ revoked,
        admission.revokedAt = some revoked → time.toNat < revoked.toNat + 2000000000) :
    Sane link { admission with connection, delivered, clock := now } where
  connection := holds
  clock := clock
  registry := sane.registry
  taken := by
    show _ ≤ (requests connection.trace).length
    rw [trace, requests_append, List.length_append]
    exact Nat.le_add_right_of_le sane.taken
  replied := sane.replied
  given := given
  delivered := counted
  accepted open_ running := by
    show _ = List.countP _ ((requests connection.trace).take _)
    rw [trace, requests_append, List.take_append_of_le_length sane.taken]
    exact sane.accepted open_ running
  granted operation generation time seen := by
    rcases List.mem_append.mp (trace ▸ seen) with recent | old
    · exact (new operation generation time recent).1
    · exact sane.granted operation generation time old
  revoked := sane.revoked
  timely revoked known place request generation sent replied := by
    have inside : place < (requests admission.connection.trace).length := by
      have answered := (List.getElem?_eq_some_iff.mp replied).1
      exact Nat.lt_of_lt_of_le answered (Nat.le_trans sane.replied sane.taken)
    have before : (requests admission.connection.trace)[place]? = some request := by
      have there : (requests connection.trace)[place]? = some request := sent
      rwa [trace, requests_append, List.getElem?_append_left inside] at there
    exact sane.timely revoked known place request generation before replied
  soon revoked known operation generation time seen := by
    rcases List.mem_append.mp (trace ▸ seen) with recent | old
    · exact (new operation generation time recent).2 revoked known
    · exact sane.soon revoked known operation generation time old

/-- Happenings that are no replies count none. -/
theorem answersOf_quiet {fresh : List Happening} (trace : List Happening)
    (quiet : ∀ happening ∈ fresh, happening.answers = false) :
    answersOf (fresh ++ trace) = answersOf trace := by
  unfold answersOf
  rw [List.countP_append, List.countP_eq_zero.mpr, Nat.zero_add]
  intro happening member answers
  exact absurd ((quiet happening member).symm.trans answers) Bool.false_ne_true

/-- The connection goes on without a reply. -/
theorem Sane.quiet (sane : Sane link admission) {connection : Connection} {delivered : Nat}
    {now : UInt64} (goes : Connection.Goes admission.connection connection)
    (holds : connection.Holds) (clock : connection.clock ≤ now)
    (given : delivered ≤ (repliesOf link admission.registry.trace).length)
    (same : connection.ended = false → delivered = admission.delivered) :
    Sane link { admission with connection, delivered, clock := now } := by
  obtain ⟨fresh, trace, quiet⟩ := goes.trace
  refine sane.goes trace holds clock given (fun live => ?_) fun operation generation time seen =>
    absurd (quiet _ seen) Bool.false_ne_true.symm
  have before : admission.connection.ended = false := by
    by_contra over_
    exact absurd (live.symm.trans (goes.ended (Bool.not_eq_false _ ▸ over_))) Bool.false_ne_true
  rw [trace, answersOf_quiet _ quiet, same live]
  exact sane.delivered before

/-- An error is no answer. -/
theorem read_error {reply : Reply} (error : reply.dictionary = false) (serverUID : UInt32) :
    reply.read serverUID = none := by
  unfold Reply.read
  rw [if_pos (by rw [error]; simp)]

/-- The connection is called. -/
theorem Sane.calls (sane : Sane link admission) {call : Call} {now : UInt64}
    (carries : admission.carries link call = true)
    (called : admission.calls call now = some after) : Sane link after := by
  obtain ⟨connection, stepped, rfl⟩ := Option.map_eq_some_iff.mp called
  obtain ⟨order, _, rfl⟩ := Connection.step_some stepped
  have holds := Connection.holds_step sane.connection stepped
  have kept := Connection.Kept.later sane.connection order
  have goes : Connection.Goes admission.connection
      { admission.connection.perform now call with clock := now } := by
    by_cases replies : ∃ operation reply valid, call = .reply operation reply valid
    · obtain ⟨operation, reply, valid, rfl⟩ := replies
      have error : reply.dictionary = false := by simpa [Admission.carries] using carries
      rcases kept.replies operation reply valid with ⟨goes, _⟩ | ⟨_, _, _, read, _⟩
      · exact { goes with }
      · rw [read_error error] at read
        exact nomatch read
    · exact { kept.goes fun operation reply valid same => replies ⟨operation, reply, valid, same⟩
        with }
  exact sane.quiet goes holds (UInt64.le_refl now) sane.given fun _ => rfl

/-- The status and the generation of an answer. -/
theorem read_answer {euid serverUID : UInt32} {status generation : UInt64} {given : Option UInt64}
    {word : UInt64} (read : (answer euid status given).read serverUID = some (word, generation)) :
    word = status ∧ (status = 0 → given = some generation) := by
  unfold Reply.read at read
  split at read
  · exact nomatch read
  · have known : (answer euid status given).status = some status := rfl
    rw [known] at read
    have same : (answer euid status given).generation = given := rfl
    rw [same] at read
    dsimp only at read
    by_cases counted : (answer euid status given).count = if status = 0 then 3 else 2
    · rw [if_neg (fun other => other counted)] at read
      by_cases zero : status = 0
      · rw [if_neg (fun other => other zero)] at read
        cases given with
        | none => exact nomatch read
        | some held =>
          obtain ⟨_, same⟩ := Option.ite_none_left_eq_some.mp read
          obtain ⟨rfl, rfl⟩ := Prod.mk.inj (Option.some.inj same)
          exact ⟨rfl, fun _ => rfl⟩
      · rw [if_pos zero] at read
        obtain ⟨rfl, _⟩ := Prod.mk.inj (Option.some.inj read)
        exact ⟨rfl, fun other => absurd other zero⟩
    · rw [if_pos counted] at read
      exact nomatch read

/-- What a link was answered is a notice. -/
theorem mem_repliesOf {trace : List Notice} {status : UInt64} {generation : Option UInt64}
    (answered : (status, generation) ∈ repliesOf link trace) :
    .replied link status generation ∈ trace := by
  obtain ⟨notice, member, same⟩ := List.mem_filterMap.mp (List.mem_reverse.mp answered)
  cases notice with
  | replied other state given =>
    obtain ⟨here, same⟩ := Option.ite_none_right_eq_some.mp same
    obtain ⟨rfl, rfl⟩ := Prod.mk.inj (Option.some.inj same)
    exact here ▸ member
  | _ => exact absurd same (by simp [Notice.reply])

/-- An answer is delivered. -/
theorem Sane.deliver (sane : Sane link admission) {euid : UInt32} {valid : Bool} {now : UInt64}
    {status : UInt64} {generation : Option UInt64} {request : Request}
    (replied : (repliesOf link admission.registry.trace)[admission.delivered]? =
      some (status, generation))
    (sent : (requests admission.connection.trace)[admission.delivered]? = some request)
    (called : { admission with delivered := admission.delivered + 1 }.calls
      (.reply request.operation (answer euid status generation) valid) now = some after) :
    Sane link after := by
  obtain ⟨connection, stepped, rfl⟩ := Option.map_eq_some_iff.mp called
  obtain ⟨order, _, rfl⟩ := Connection.step_some stepped
  have holds := Connection.holds_step sane.connection stepped
  have kept := Connection.Kept.later sane.connection order
  have given : admission.delivered + 1 ≤ (repliesOf link admission.registry.trace).length :=
    (List.getElem?_eq_some_iff.mp replied).1
  rcases kept.replies request.operation (answer euid status generation) valid with
    ⟨goes, over_⟩ | ⟨word, held, live, read, pending, goes⟩
  · exact sane.quiet { goes with } holds (UInt64.le_refl now) given fun still =>
      absurd (still.symm.trans over_) Bool.false_ne_true
  · obtain ⟨fresh, trace, quiet⟩ := goes.trace
    obtain ⟨rfl, grants⟩ := read_answer read
    have count := sane.delivered live
    -- the request that is answered is the last one, and the one the answer is for
    have asked := kept.asked
    rw [pending, count] at asked
    obtain ⟨last, ends, _, _⟩ := kept.last request.operation pending
    have same : last = request := by
      rw [List.getLast?_eq_getElem?, asked] at ends
      exact Option.some.inj (ends.symm.trans sent)
    subst same
    have whole : (admission.connection.perform now (.reply last.operation
        (answer euid word generation) valid)).trace =
          (fresh ++ [.answered last.operation word held now]) ++ admission.connection.trace := by
      rw [List.append_assoc]
      exact trace
    refine sane.goes whole holds (UInt64.le_refl now) given (fun _ => ?_) ?_
    · show answersOf (admission.connection.perform now _).trace = _
      rw [whole, List.append_assoc, answersOf_quiet _ quiet, ← count]
      exact List.countP_cons_of_pos rfl
    · intro operation granted time seen
      rcases List.mem_append.mp seen with other | this
      · exact absurd (quiet _ other) Bool.false_ne_true.symm
      · obtain ⟨rfl, rfl, rfl, rfl⟩ : operation = last.operation ∧ 0 = word ∧ granted = held ∧
            time = now := by
          have same := List.mem_singleton.mp this
          injection same with a b c d
          exact ⟨a, b, c, d⟩
        have member := List.mem_of_getElem? replied
        obtain ⟨past, law, within⟩ := sane.registry.lawful.mem (mem_repliesOf member)
        obtain ⟨lease, named, leased, _⟩ := law rfl
        obtain rfl : lease = granted := Option.some.inj (named.symm.trans (grants rfl))
        refine ⟨within _ leased, fun revoked known => ?_⟩
        have early := sane.timely revoked known admission.delivered last _ sent replied
        obtain ⟨_, _, sentAt⟩ : _ ∧ _ ∧ time.toNat < last.time.toNat + 2000000000 := by
          have lawful := (Connection.Core.lawful (Connection.Kept.toCore holds))
          have law := lawful fresh _ _ (by rw [whole, List.append_assoc]; rfl)
          obtain ⟨_, asks, ends', _, past, soon⟩ := law
          obtain rfl := Option.some.inj (ends'.symm.trans ends)
          exact ⟨trivial, trivial, soon⟩
        have bound := UInt64.le_iff_toNat_le.mp early
        omega

/-- The registry goes on. -/
theorem Sane.runs (sane : Sane link admission) {registry : Registry} {accepted taken : Nat}
    {replies : List (UInt64 × Option UInt64)} {now : UInt64} (order : admission.clock ≤ now)
    (kept : registry.Kept) (follows : Registry.Follows admission.registry registry)
    (tells : Registry.Tells link accepted replies admission.registry registry)
    (most : taken ≤ (requests admission.connection.trace).length)
    (few : admission.taken + replies.length ≤ taken)
    (counted : (registry.link link).closed = false → registry.stopped = false →
      ((requests admission.connection.trace).take admission.taken).countP
          (fun request => request.operation ≠ .register) + accepted =
        ((requests admission.connection.trace).take taken).countP
          fun request => request.operation ≠ .register) :
    Sane link { admission with
      registry
      taken
      clock := now
      revokedAt :=
        if admission.revokedAt.isNone && registry.trace.contains (.event link .revoked) then
          some now
        else admission.revokedAt } := by
  obtain ⟨fresh, trace⟩ := follows.trace
  have within {notice : Notice} (old : notice ∈ admission.registry.trace) :
      notice ∈ registry.trace := trace ▸ List.mem_append_right fresh old
  have past := UInt64.le_trans sane.clock order
  have core := Connection.Kept.toCore sane.connection
  exact {
    connection := sane.connection
    clock := past
    registry := kept
    taken := most
    replied := by
      show (repliesOf link registry.trace).length ≤ taken
      rw [tells.replies, List.length_append]
      have before := sane.replied
      omega
    given := by
      show _ ≤ (repliesOf link registry.trace).length
      rw [tells.replies, List.length_append]
      exact Nat.le_add_right_of_le sane.given
    delivered := sane.delivered
    accepted := fun open_ running => by
      have before : (admission.registry.link link).closed = false := by
        by_contra shut
        exact absurd (open_.symm.trans (tells.closed (Bool.not_eq_false _ ▸ shut)))
          Bool.false_ne_true
      have ran : admission.registry.stopped = false := by
        by_contra over_
        exact absurd (running.symm.trans (tells.stopped (Bool.not_eq_false _ ▸ over_)))
          Bool.false_ne_true
      show acceptedOf link registry.trace = _
      rw [tells.accepted, sane.accepted before ran]
      exact counted open_ running
    granted := fun operation generation time seen =>
      within (sane.granted operation generation time seen)
    revoked := by
      dsimp only
      split
      · next new =>
        simp only [Bool.and_eq_true, List.contains_iff_mem] at new
        exact ⟨fun _ => new.2, fun _ => rfl⟩
      · next old =>
        simp only [Bool.and_eq_true, List.contains_iff_mem, not_and] at old
        refine ⟨fun known => within (sane.revoked.mp known), fun seen => ?_⟩
        by_contra unknown
        exact old (by simpa using unknown) seen
    timely := fun revoked known place request generation sent answered => by
      dsimp only at known
      split at known
      · obtain rfl := Option.some.inj known
        exact UInt64.le_trans (core.sent request (List.mem_of_getElem? sent)) past
      · have told := sane.revoked.mp (by rw [known]; rfl)
        have replied : (repliesOf link registry.trace)[place]? = some (0, generation) := answered
        rw [tells.replies] at replied
        rcases Nat.lt_or_ge place (repliesOf link admission.registry.trace).length with early | late
        · rw [List.getElem?_append_left early] at replied
          exact sane.timely revoked known place request generation sent replied
        · rw [List.getElem?_append_right late] at replied
          -- an answer that is new grants, so nothing was revoked before it
          have same : replies = repliesOf link fresh := by
            have whole := tells.replies
            rw [← trace, repliesOf_append] at whole
            exact (List.append_cancel_left whole).symm
          have member := List.mem_of_getElem? replied
          rw [same] at member
          obtain ⟨later, earlier, split⟩ := List.append_of_mem (mem_repliesOf member)
          have law : Law (earlier ++ admission.registry.trace) (.replied link 0 generation) :=
            kept.lawful later _ _ (by rw [← trace, split, List.append_assoc]; rfl)
          obtain ⟨_, _, _, unrevoked⟩ := law rfl
          exact absurd (List.mem_append_right earlier told) unrevoked
    soon := fun revoked known operation generation time seen => by
      dsimp only at known
      split at known
      · obtain rfl := Option.some.inj known
        have before := UInt64.le_iff_toNat_le.mp
          (UInt64.le_trans (core.received operation 0 generation time seen) past)
        omega
      · exact sane.soon revoked known operation generation time seen }

/-- A block that takes nothing of the link tells it nothing. -/
theorem spares_tells {registry after : Registry} {action : Action}
    (free : spares link action = true) (stepped : registry.step action = some after) :
    Registry.Tells link 0 [] registry after := by
  cases action with
  | accept required now =>
    cases stepped
    exact Registry.tells_accept registry required now
  | receive index message peer scope random issuer now controller =>
    obtain ⟨_, same⟩ := Option.ite_none_right_eq_some.mp stepped
    cases same
    simp only [spares, Bool.or_eq_true, decide_eq_true_eq, Bool.not_eq_true'] at free
    rcases free with other | error
    · exact Registry.tells_receive registry other message peer scope random issuer now controller
    · exact Registry.tells_error registry index error peer scope random issuer now controller
  | issued index valid scope now controller =>
    obtain ⟨_, same⟩ := Option.ite_none_right_eq_some.mp stepped
    cases same
    exact Registry.tells_issued registry index valid scope now controller
  | watch scope now controller =>
    obtain ⟨_, same⟩ := Option.ite_none_left_eq_some.mp stepped
    cases same
    exact Registry.tells_watch registry scope now controller
  | revoke reaction =>
    cases stepped
    exact Registry.tells_revoke registry reaction
  | refresh scope reaction =>
    cases stepped
    exact Registry.tells_refresh registry scope reaction
  | complete index =>
    cases stepped
    exact Registry.tells_complete registry index
  | stop controller =>
    cases stepped
    exact Registry.tells_stop registry controller

/-- A block of the registry is run. -/
theorem Sane.block (sane : Sane link admission) {action : Action} {now : UInt64}
    (order : admission.clock ≤ now) (free : spares link action = true)
    (ran : admission.runs link action now = some after) : Sane link after := by
  obtain ⟨_, same⟩ := Option.ite_none_right_eq_some.mp ran
  obtain ⟨registry, stepped, rfl⟩ := Option.map_eq_some_iff.mp same
  obtain ⟨kept, follows⟩ := Registry.kept_step sane.registry stepped
  exact sane.runs order kept follows (spares_tells free stepped) sane.taken
    (Nat.le_refl _) fun _ _ => rfl

/-- A request of the link is taken. -/
theorem Sane.take (sane : Sane link admission) {request : Request} {peer : Peer} {scope : Phase}
    {random : Option UInt64} {issuer : Bool} {controller : Event → Reaction} {now : UInt64}
    (order : admission.clock ≤ now)
    (sent : (requests admission.connection.trace)[admission.taken]? = some request)
    (ran : { admission with taken := admission.taken + 1 }.runs link (.receive link
      (request.message admission.connection.phase) peer scope random issuer now controller) now =
        some after) : Sane link after := by
  obtain ⟨_, same⟩ := Option.ite_none_right_eq_some.mp ran
  obtain ⟨registry, stepped, rfl⟩ := Option.map_eq_some_iff.mp same
  have received : Registry.system.step admission.registry (.receive link
      (request.message admission.connection.phase) peer scope random issuer now controller) =
    some registry := stepped
  obtain ⟨kept, follows⟩ := Registry.kept_step sane.registry received
  obtain ⟨inside, result⟩ := Option.ite_none_right_eq_some.mp received
  cases result
  obtain ⟨accepted, ⟨replies, tells, few, _⟩, counted⟩ := Registry.Kept.takes sane.registry inside
    request admission.connection.phase peer scope random issuer now controller
  have most : admission.taken + 1 ≤ (requests admission.connection.trace).length :=
    (List.getElem?_eq_some_iff.mp sent).1
  refine sane.runs order kept follows tells most (Nat.add_le_add_left few _)
    fun open_ running => ?_
  rcases counted with number | shut | over_
  · rw [List.take_add_one, sent, List.countP_append, number]
    by_cases register : request.operation = .register
    · simp [register]
    · simp [register]
  · exact absurd (open_.symm.trans shut) Bool.false_ne_true
  · exact absurd (running.symm.trans over_) Bool.false_ne_true

/-- Every step keeps both ends. -/
theorem sane_step {move : Move × UInt64} (sane : Sane link admission)
    (stepped : admission.step link move = some after) : Sane link after := by
  obtain ⟨order, moved⟩ := Option.ite_none_right_eq_some.mp stepped
  obtain ⟨move, now⟩ := move
  cases move with
  | call call =>
    obtain ⟨carries, called⟩ := Option.ite_none_right_eq_some.mp moved
    exact sane.calls carries called
  | deliver euid valid =>
    dsimp only at moved
    split at moved
    · next status generation request replied sent => exact sane.deliver replied sent moved
    · exact nomatch moved
  | registry action =>
    obtain ⟨free, ran⟩ := Option.ite_none_right_eq_some.mp moved
    exact sane.block order free ran
  | take peer scope random issuer controller =>
    dsimp only at moved
    split at moved
    · next request sent => exact sane.take order sent moved
    · exact nomatch moved

variable {serverUID : UInt32} {phase : Phase}

/-- Both ends are kept in every reachable state. -/
theorem reachable_sane (reachable : (system serverUID phase link).Reachable admission) :
    Sane link admission := by
  have preserves : (system serverUID phase link).Preserves (Sane link) :=
    fun _ _ _ sane stepped => sane_step sane stepped
  refine preserves.reachable ?_ reachable
  rintro admission rfl
  exact {
    connection := Connection.holds_initial serverUID phase
    clock := UInt64.le_refl 0
    registry := Registry.reachable_kept ⟨{}, rfl, .refl⟩
    taken := Nat.le_refl 0
    replied := Nat.le_refl 0
    given := Nat.le_refl 0
    delivered := fun _ => rfl
    accepted := fun _ _ => rfl
    granted := nofun
    revoked := ⟨nofun, nofun⟩
    timely := nofun
    soon := nofun }

/-- What holds of both ends in any run. -/
structure AdmissionLaw (link : Nat) (admission : Admission) : Prop where
  /-- A call returns a generation that the registry gave the link, and none four seconds after it
  revoked the lease. -/
  bound : ∀ scope now, admission.clock ≤ now →
    (admission.connection.bindGraphicalScope scope now).2 ≠ {} →
      .granted link (admission.connection.bindGraphicalScope scope now).2.generation ∈
        admission.registry.trace ∧ ∀ revoked, admission.revokedAt = some revoked →
          now.toNat < revoked.toNat + 4000000000
  /-- The time of the revocation is that of the block in which the registry tells of it. -/
  revoked : admission.revokedAt.isSome = true ↔ .event link .revoked ∈ admission.registry.trace
  /-- While the link is open, the next request to reach the registry has the number it requires. -/
  next : ∀ request, (requests admission.connection.trace)[admission.taken]? = some request →
    request.operation ≠ .register → (admission.registry.link link).closed = false →
      admission.registry.stopped = false →
        request.sequence.toNat = (admission.registry.link link).sequence.toNat + 1 ∧
          .granted link request.generation ∈ admission.registry.trace

/-- The law of both ends. -/
theorem Sane.law (sane : Sane link admission) : AdmissionLaw link admission where
  bound scope now order returned := by
    have kept := Connection.Kept.later sane.connection (UInt64.le_trans sane.clock order)
    obtain ⟨_, ⟨operation, received, seen, _, soon⟩, _⟩ := kept.binds returned
    refine ⟨sane.granted operation _ received seen, fun revoked known => ?_⟩
    have early := sane.soon revoked known operation _ received seen
    omega
  revoked := sane.revoked
  next request sent numbered open_ running := by
    obtain ⟨number, time, seen⟩ := request_numbered
      (Connection.Kept.toCore sane.connection).lawful sent numbered
    refine ⟨?_, sane.granted .register _ time seen⟩
    rw [number, (sane.registry.sound link).sequence, sane.accepted open_ running]

/-- What an agent admits is fresh, and no lease is admitted four seconds after the registry revoked
it. -/
theorem reachable_admission (serverUID : UInt32) (phase : Phase) (link : Nat)
    (connection : Connection) (alone : (Connection.system serverUID phase).Reachable connection)
    (admission : Admission) (together : (system serverUID phase link).Reachable admission) :
    Connection.FreshLaw serverUID phase connection ∧ AdmissionLaw link admission :=
  ⟨(Connection.reachable_holds alone).fresh, (reachable_sane together).law⟩

/-- The desktop of a sample. -/
def sampleScope : GraphicalIdentity :=
  { active := true, generation := 3, account := { uid := 501, uuid := 9 }, phase := .desktop }

/-- An agent registers, binds its desktop and renews its lease; then the registry revokes it, and
the push is lost. -/
def admissionRun : List (Move × UInt64) :=
  let peer : Peer := ⟨501, 100, 7⟩
  let quiet : Event → Reaction := fun _ => .quiet
  [(.registry (.accept true 10), 10), (.call (.start true), 20),
    (.take peer .desktop (some 40) true quiet, 30), (.deliver 0 true, 40),
    (.call (.bindGraphicalScope sampleScope), 50), (.call (.tick true), 600000000),
    (.take peer .desktop none true quiet, 700000000), (.deliver 0 true, 800000000),
    (.registry (.revoke .quiet), 900000000)]

/-- The calls of the connection in the same run. -/
def connectionRun : List (Call × UInt64) :=
  [(.start true, 20), (.reply .register (answer 0 0 (some 40)) true, 40),
    (.bindGraphicalScope sampleScope, 50), (.tick true, 600000000),
    (.reply .renew (answer 0 0 (some 40)) true, 800000000)]

/-- Without the push, the desktop is bound for some time after the revocation. -/
theorem sample_admission : ∃ connection admission,
    (Connection.system 0 .desktop).run { serverUID := 0, phase := .desktop } connectionRun =
      some connection ∧
    (system 0 .desktop 0).run { connection := { serverUID := 0, phase := .desktop } }
      admissionRun = some admission ∧
    admission.revokedAt = some 900000000 ∧
    (admission.connection.bindGraphicalScope sampleScope 2700000000).2.generation = 40 ∧
    Connection.FreshLaw 0 .desktop connection ∧ AdmissionLaw 0 admission := by
  obtain ⟨connection, alone, _⟩ := Option.map_eq_some_iff.mp
    (show ((Connection.system 0 .desktop).run { serverUID := 0, phase := .desktop }
      connectionRun).map Connection.generation = some 40 from by decide +kernel)
  obtain ⟨admission, together, results⟩ := Option.map_eq_some_iff.mp
    (show ((system 0 .desktop 0).run { connection := { serverUID := 0, phase := .desktop } }
      admissionRun).map (fun admission => (admission.revokedAt,
        (admission.connection.bindGraphicalScope sampleScope 2700000000).2.generation)) =
          some (some 900000000, 40) from by decide +kernel)
  obtain ⟨revoked, bound⟩ := Prod.mk.inj results
  exact ⟨connection, admission, alone, together, revoked, bound,
    reachable_admission 0 .desktop 0 connection (Transition.System.reachable_of_run rfl alone)
      admission (Transition.System.reachable_of_run rfl together)⟩

end Admission

end Plank.Agent
