import Plank.Agent.Registry
import Plank.Trace.Law

/-!
# Leases follow one another, and each is told of in order

The lease of a link that is no longer active is not active again, the slot is free only after the
controller has completed its retirement, and what the controller is told of a lease is told once and
in order, whatever it calls while it is told.
-/

namespace Plank.Agent

open Trace (Each)

/-- The link a notice is about. -/
def Notice.link : Notice → Nat
  | .granted link _ | .event link _ | .completed link _ | .accepted link _ _ _ | .replied link _ _
  | .pushed link _ => link

/-- Whether a notice tells something of a lease. -/
def Notice.Tells : Notice → Prop
  | .granted _ _ | .event _ _ | .completed _ _ => True
  | .accepted _ _ _ _ | .replied _ _ _ | .pushed _ _ => False

/-- Whether a message of a link was accepted. -/
def Notice.accepts (index : Nat) : Notice → Bool
  | .accepted link _ _ _ => link = index
  | _ => false

/-- How many messages of a link were accepted. -/
def acceptedOf (index : Nat) (trace : List Notice) : Nat := trace.countP (Notice.accepts index)

/-- What a notice has to do with those before it. -/
def Law (past : List Notice) : Notice → Prop
  | .granted index generation => generation ≠ 0 ∧ ∀ other given, .granted other given ∈ past →
      other ≠ index ∧ ∃ ended, .completed other ended ∈ past
  | .event index .attached => (∃ generation, .granted index generation ∈ past) ∧
      ∀ event, .event index event ∉ past
  | .event index .revoked => .event index .attached ∈ past ∧ .event index .revoked ∉ past ∧
      .event index .retired ∉ past ∧ .event index .lost ∉ past
  | .event index .retired | .event index .lost => .event index .revoked ∈ past ∧
      .event index .retired ∉ past ∧ .event index .lost ∉ past
  | .completed index ended => .event index .revoked ∈ past ∧
      (∀ other, .completed index other ∉ past) ∧
      (ended = true → .event index .retired ∈ past ∨ .event index .lost ∈ past)
  | .accepted index _ generation sequence => .granted index generation ∈ past ∧
      (∀ ended, .completed index ended ∉ past) ∧
      sequence.toNat = acceptedOf index past + 1
  | .replied index status generation => status = 0 →
      ∃ given, generation = some given ∧ .granted index given ∈ past ∧
        .event index .revoked ∉ past
  | .pushed index generation => .granted index generation ∈ past ∧ .event index .revoked ∈ past

/-- What a link has to do with its notices; whether it is the current one. -/
structure Sound (trace : List Notice) (current : Prop) (index : Nat) (link : Link) : Prop where
  /-- Without a lease there is nothing to tell. -/
  untold : link.lease = none →
    ¬ current ∧ (∀ generation, .granted index generation ∉ trace) ∧
      ∀ event, .event index event ∉ trace
  /-- The lease was given, and told of. -/
  given : ∀ lease, link.lease = some lease →
    .granted index lease.generation ∈ trace ∧ .event index .attached ∈ trace
  /-- It is active until it is revoked. -/
  active : ∀ lease, link.lease = some lease →
    (lease.active = true ↔ .event index .revoked ∉ trace)
  /-- It is current as long as it is active, and until it is completed. -/
  held : ∀ lease, link.lease = some lease → (lease.active = true → current) ∧
    (current ∨ ∃ ended, .completed index ended ∈ trace)
  /-- It is completed once. -/
  once : current → ∀ ended, .completed index ended ∉ trace
  /-- A retired link was told of. -/
  retired : .event index .retired ∈ trace ↔ link.retired = true
  /-- A lost link is closed. -/
  lost : .event index .lost ∈ trace → link.closed = true
  /-- A closed link was told of, unless it was completed before. -/
  closed : link.lease.isSome = true → link.closed = true → .event index .retired ∈ trace ∨
    .event index .lost ∈ trace ∨ .completed index false ∈ trace
  /-- The sequence counts the messages that were accepted. -/
  sequence : link.sequence.toNat = acceptedOf index trace

/-- A link agrees with any trace that tells the same of it. -/
theorem Sound.congr {trace later : List Notice} {current now : Prop} {index : Nat}
    {link changed : Link} (sound : Sound trace current index link) (same : now ↔ current)
    (agree : ∀ notice, notice.link = index → notice.Tells → (notice ∈ later ↔ notice ∈ trace))
    (lease : changed.lease = link.lease) (retired : changed.retired = link.retired)
    (closed : changed.closed = link.closed)
    (count : changed.sequence.toNat = acceptedOf index later) : Sound later now index changed := by
  have granted (generation : UInt64) := agree (.granted index generation) rfl trivial
  have told (event : Event) := agree (.event index event) rfl trivial
  have done (ended : Bool) := agree (.completed index ended) rfl trivial
  exact {
    untold := fun none => by
      rw [lease] at none
      obtain ⟨free, ungranted, untold⟩ := sound.untold none
      exact ⟨fun here => free (same.mp here),
        fun generation seen => ungranted generation ((granted generation).mp seen),
        fun event seen => untold event ((told event).mp seen)⟩
    given := fun held here => by
      rw [granted, told]
      exact sound.given held (lease.symm.trans here)
    active := fun held here => by
      rw [told]
      exact sound.active held (lease.symm.trans here)
    held := fun held here => by
      obtain ⟨on, either⟩ := sound.held held (lease.symm.trans here)
      refine ⟨fun active => same.mpr (on active), ?_⟩
      rcases either with now | ⟨ended, completed⟩
      · exact .inl (same.mpr now)
      · exact .inr ⟨ended, (done ended).mpr completed⟩
    once := fun here ended seen => sound.once (same.mp here) ended ((done ended).mp seen)
    retired := by
      rw [told, retired]
      exact sound.retired
    lost := fun seen => closed.trans (sound.lost ((told .lost).mp seen))
    closed := fun held shut => by
      rw [told, told, done]
      exact sound.closed (by rw [← lease]; exact held) (closed.symm.trans shut)
    sequence := count }

namespace Registry

/-- What every call of the registry keeps. -/
structure Kept (registry : Registry) : Prop where
  /-- The notices are lawful. -/
  lawful : Each Law registry.trace
  /-- Every link agrees with them. -/
  sound : ∀ index, Sound registry.trace (registry.current = some index) index
    (registry.link index)
  /-- The current link is one. -/
  inside : ∀ index, registry.current = some index → index < registry.table.length

/-- How the registry goes on. -/
structure Follows (before after : Registry) : Prop where
  /-- Notices are added. -/
  trace : before.trace <:+ after.trace
  /-- No link is forgotten. -/
  table : before.table.length ≤ after.table.length
  /-- A lease stays, and is not activated again. -/
  lease : ∀ index lease, (before.link index).lease = some lease →
    ∃ active, (after.link index).lease = some { lease with active } ∧
      (active = true → lease.active = true)

/-- How it goes on while the controller reacts. -/
structure Aside (before after : Registry) : Prop extends Follows before after where
  /-- The slot stays, or is freed. -/
  current : after.current = before.current ∨ after.current = none
  /-- No link is retired or lost. -/
  retired : ∀ index, (after.link index).retired = (before.link index).retired
  /-- No link gets a lease. -/
  leases : ∀ index, (after.link index).lease.isSome = (before.link index).lease.isSome
  /-- The controller is told of nothing else. -/
  told : ∀ index, ∀ event ∈ [Event.retired, Event.lost],
    .event index event ∈ after.trace → .event index event ∈ before.trace
  /-- Nothing is stopped. -/
  stopped : after.stopped = before.stopped

variable {registry before after : Registry}

/-- Nothing happens. -/
theorem Follows.refl (registry : Registry) : Follows registry registry where
  trace := List.suffix_refl _
  table := Nat.le_refl _
  lease _ lease held := ⟨lease.active, held, id⟩

/-- One thing after another. -/
theorem Follows.trans {middle : Registry} (first : Follows before middle)
    (second : Follows middle after) : Follows before after where
  trace := first.trace.trans second.trace
  table := Nat.le_trans first.table second.table
  lease index lease held := by
    obtain ⟨between, here, stays⟩ := first.lease index lease held
    obtain ⟨active, there, still⟩ := second.lease index _ here
    exact ⟨active, there, fun on => stays (still on)⟩

/-- Nothing happens. -/
theorem Aside.refl (registry : Registry) : Aside registry registry where
  toFollows := .refl registry
  current := .inl rfl
  retired _ := rfl
  leases _ := rfl
  told _ _ _ seen := seen
  stopped := rfl

/-- One thing after another. -/
theorem Aside.trans {middle : Registry} (first : Aside before middle)
    (second : Aside middle after) : Aside before after where
  toFollows := first.toFollows.trans second.toFollows
  current := by
    rcases second.current with same | freed
    · rw [same]
      exact first.current
    · exact .inr freed
  retired index := (second.retired index).trans (first.retired index)
  leases index := (second.leases index).trans (first.leases index)
  told index event member seen :=
    first.told index event member (second.told index event member seen)
  stopped := second.stopped.trans first.stopped

/-- The links after one of them changed. -/
theorem link_setLink {index : Nat} (inside : index < registry.table.length) (change : Link → Link)
    (other : Nat) : (registry.setLink index change).link other =
      if other = index then change (registry.link index) else registry.link other := by
  unfold link setLink
  dsimp only
  rw [List.getD_eq_getElem?_getD, List.getElem?_modify]
  split
  · next same =>
    subst same
    rw [if_pos rfl, List.getD_eq_getElem?_getD, List.getElem?_eq_getElem inside]
    rfl
  · next differs =>
    rw [if_neg fun same => differs same.symm, List.getD_eq_getElem?_getD]
    cases registry.table[other]? <;> rfl

/-- A changed link. -/
theorem link_setLink_same {index : Nat} (inside : index < registry.table.length)
    (change : Link → Link) :
    (registry.setLink index change).link index = change (registry.link index) := by
  rw [link_setLink inside, if_pos rfl]

/-- Changing a link keeps how many there are. -/
@[simp] theorem length_setLink (registry : Registry) (index : Nat) (change : Link → Link) :
    (registry.setLink index change).table.length = registry.table.length :=
  List.length_modify _ _ _

/-- Notices about one link leave the others as they are. -/
theorem Kept.add (kept : Kept registry) {index : Nat} (notices : List Notice)
    (about : ∀ notice ∈ notices, notice.link = index)
    (trace : after.trace = notices ++ registry.trace) (lawful : Each Law after.trace)
    (others : ∀ other, other ≠ index → after.link other = registry.link other)
    (current : ∀ other, other ≠ index →
      (after.current = some other ↔ registry.current = some other))
    (inside : ∀ other, after.current = some other → other < after.table.length)
    (sound : Sound after.trace (after.current = some index) index (after.link index)) :
    Kept after where
  lawful := lawful
  inside := inside
  sound other := by
    by_cases same : other = index
    · rw [same]
      exact sound
    · rw [others other same, trace]
      refine (kept.sound other).congr (current other same) ?_ rfl rfl rfl
        ((kept.sound other).sequence.trans (Eq.symm ?_))
      · intro notice belongs _
        rw [List.mem_append]
        refine ⟨fun seen => seen.resolve_left fun new => same ?_, .inr⟩
        rw [← belongs, about notice new]
      · unfold acceptedOf
        rw [List.countP_append, Nat.add_eq_right, List.countP_eq_zero]
        intro notice new accepted
        cases notice with
        | accepted link operation generation sequence =>
          exact same ((of_decide_eq_true accepted).symm.trans (about _ new))
        | _ => exact absurd accepted (by simp [Notice.accepts])

/-- Only an active lease is current and active. -/
theorem active_iff : registry.active = true ↔ ∃ index lease, registry.current = some index ∧
    (registry.link index).lease = some lease ∧ lease.active = true := by
  unfold active lease
  rw [Option.any_eq_true]
  constructor
  · rintro ⟨lease, held, on⟩
    obtain ⟨index, current, given⟩ := Option.bind_eq_some_iff.mp held
    exact ⟨index, lease, current, given, on⟩
  · rintro ⟨index, lease, current, given, on⟩
    exact ⟨lease, Option.bind_eq_some_iff.mpr ⟨index, current, given⟩, on⟩

/-- The current link has a lease. -/
theorem Kept.current_lease (kept : Kept registry) {index : Nat}
    (current : registry.current = some index) :
    ∃ lease, (registry.link index).lease = some lease := by
  cases held : (registry.link index).lease with
  | none => exact absurd current ((kept.sound index).untold held).1
  | some lease => exact ⟨lease, rfl⟩

/-- A lease is lost or retired after it was revoked. -/
theorem Kept.revoked_of_ended (kept : Kept registry) {index : Nat}
    (ended : .event index .retired ∈ registry.trace ∨ .event index .lost ∈ registry.trace) :
    .event index .revoked ∈ registry.trace := by
  rcases ended with seen | seen
  · obtain ⟨earlier, ⟨revoked, _⟩, past⟩ := kept.lawful.mem seen
    exact past _ revoked
  · obtain ⟨earlier, ⟨revoked, _⟩, past⟩ := kept.lawful.mem seen
    exact past _ revoked

/-- A notice that is not accepted is not counted. -/
theorem acceptedOf_cons {notice : Notice} {index : Nat} {trace : List Notice}
    (other : ∀ operation generation sequence,
      notice ≠ .accepted index operation generation sequence) :
    acceptedOf index (notice :: trace) = acceptedOf index trace := by
  unfold acceptedOf
  rw [List.countP_cons_of_neg]
  cases notice with
  | accepted link operation generation sequence =>
    intro same
    obtain rfl := of_decide_eq_true same
    exact other operation generation sequence rfl
  | _ => simp [Notice.accepts]

/-- The lease of the current agent is revoked. -/
theorem Kept.beginRevoke (kept : Kept registry) (on : registry.active = true) :
    Kept registry.beginRevoke ∧ Aside registry registry.beginRevoke ∧
      registry.beginRevoke.active = false := by
  obtain ⟨index, lease, current, held, active⟩ := active_iff.mp on
  have inside := kept.inside index current
  have sound := kept.sound index
  have unrevoked := (sound.active lease held).mp active
  have unended : .event index .retired ∉ registry.trace ∧ .event index .lost ∉ registry.trace :=
    ⟨fun seen => unrevoked (kept.revoked_of_ended (.inl seen)),
      fun seen => unrevoked (kept.revoked_of_ended (.inr seen))⟩
  have result : registry.beginRevoke = (registry.setLink index fun link =>
      { link with lease := link.lease.map fun lease => { lease with active := false } }).notice
        (.event index .revoked) := by
    unfold Registry.beginRevoke
    rw [current]
  have changed : registry.beginRevoke.link index =
      { registry.link index with lease := some { lease with active := false } } := by
    rw [result]
    refine (link_setLink_same inside _).trans ?_
    rw [held]
    rfl
  have others : ∀ other, other ≠ index →
      registry.beginRevoke.link other = registry.link other := by
    intro other differs
    rw [result]
    exact (link_setLink inside _ other).trans (if_neg differs)
  have trace : registry.beginRevoke.trace = [.event index .revoked] ++ registry.trace := by
    rw [result]
    rfl
  have slot : registry.beginRevoke.current = registry.current := by
    rw [result]
    rfl
  have length : registry.beginRevoke.table.length = registry.table.length := by
    rw [result]
    exact length_setLink _ _ _
  refine ⟨?_, ?_, ?_⟩
  · refine kept.add [.event index .revoked] (fun _ new => by rw [List.mem_singleton.mp new]; rfl)
      trace ?_ others (fun other _ => by rw [slot]) ?_ ?_
    · rw [trace]
      exact kept.lawful.cons ⟨(sound.given lease held).2, unrevoked, unended⟩
    · rw [slot, length]
      exact kept.inside
    · rw [slot, changed, trace]
      exact {
        untold := fun none => absurd none (by simp)
        given := by
          rintro _ ⟨⟩
          obtain ⟨granted, attached⟩ := sound.given lease held
          exact ⟨List.mem_cons_of_mem _ granted, List.mem_cons_of_mem _ attached⟩
        active := by
          rintro _ ⟨⟩
          simp
        held := by
          rintro _ ⟨⟩
          exact ⟨fun off => absurd off (by simp), .inl current⟩
        once := fun here ended seen => by
          rcases List.mem_cons.mp seen with same | earlier
          · cases same
          · exact sound.once here ended earlier
        retired := by
          rw [← sound.retired]
          simp
        lost := fun seen => by
          rcases List.mem_cons.mp seen with same | earlier
          · cases same
          · exact sound.lost earlier
        closed := fun _ shut => by
          have told := sound.closed (by rw [held]; rfl) shut
          simpa using told
        sequence := by
          rw [List.singleton_append, acceptedOf_cons (by simp)]
          exact sound.sequence }
  · refine ⟨⟨?_, Nat.le_of_eq length.symm, ?_⟩, .inl slot, ?_, ?_, ?_, ?_⟩
    · rw [trace]
      exact List.suffix_append _ _
    · intro other given here
      by_cases same : other = index
      · subst same
        obtain rfl := Option.some.inj (held.symm.trans here)
        exact ⟨false, congrArg Link.lease changed, fun off => absurd off (by simp)⟩
      · exact ⟨given.active, by rw [others other same]; exact here, id⟩
    · intro other
      by_cases same : other = index
      · rw [same, changed]
      · rw [others other same]
    · intro other
      by_cases same : other = index
      · rw [same, changed, held]
        rfl
      · rw [others other same]
    · intro other event member seen
      rw [trace] at seen
      rcases List.mem_cons.mp seen with same | earlier
      · cases same
        exact absurd member (by simp)
      · exact earlier
    · rw [result]
      rfl
  · unfold Registry.active Registry.lease
    rw [slot, current]
    simp [changed]

/-- A notice that tells nothing. -/
theorem Kept.say (kept : Kept registry) {notice : Notice} (silent : ¬ notice.Tells)
    (unaccepted : ∀ link operation generation sequence,
      notice ≠ .accepted link operation generation sequence)
    (lawful : Law registry.trace notice) :
    Kept (registry.notice notice) ∧ Aside registry (registry.notice notice) := by
  refine ⟨⟨kept.lawful.cons lawful, fun index => ?_, kept.inside⟩, ?_⟩
  · refine (kept.sound index).congr Iff.rfl ?_ rfl rfl rfl
      ((kept.sound index).sequence.trans (acceptedOf_cons (unaccepted index)).symm)
    intro other _ tells
    refine List.mem_cons.trans ⟨fun seen => seen.resolve_left ?_, .inr⟩
    rintro rfl
    exact silent tells
  · refine ⟨⟨List.suffix_cons _ _, Nat.le_refl _, fun _ lease held => ⟨lease.active, held, id⟩⟩,
      .inl rfl, fun _ => rfl, fun _ => rfl, fun index event _ seen => ?_, rfl⟩
    rcases List.mem_cons.mp seen with rfl | earlier
    · exact absurd trivial silent
    · exact earlier

/-- The agent is sent the revocation. -/
theorem Kept.endRevoke (kept : Kept registry) (off : registry.active = false) :
    Kept registry.endRevoke ∧ Aside registry registry.endRevoke := by
  unfold Registry.endRevoke
  split
  · exact ⟨kept, .refl registry⟩
  · next index current =>
    split
    · exact ⟨kept, .refl registry⟩
    · next lease held =>
      split
      · exact ⟨kept, .refl registry⟩
      · have inactive : ¬ lease.active = true := by
          intro on
          exact absurd (active_iff.mpr ⟨index, lease, current, held, on⟩) (by rw [off]; simp)
        have revoked : .event index .revoked ∈ registry.trace := by
          by_contra unseen
          exact inactive (((kept.sound index).active lease held).mpr unseen)
        exact kept.say id (by simp) ⟨((kept.sound index).given lease held).1, revoked⟩

/-- A closed or retired link was told of, while it is current. -/
theorem Kept.ended (kept : Kept registry) {index : Nat} (current : registry.current = some index)
    (ended : (registry.link index).closed = true ∨ (registry.link index).retired = true) :
    .event index .retired ∈ registry.trace ∨ .event index .lost ∈ registry.trace := by
  have sound := kept.sound index
  obtain ⟨lease, held⟩ := kept.current_lease current
  rcases ended with closed | retired
  · rcases sound.closed (by rw [held]; rfl) closed with told | told | completed
    · exact .inl told
    · exact .inr told
    · exact absurd completed (sound.once current false)
  · exact .inl (sound.retired.mpr retired)

/-- A lease that is not active was revoked. -/
theorem Kept.revoked (kept : Kept registry) {index : Nat} {lease : Lease}
    (held : (registry.link index).lease = some lease) (off : lease.active ≠ true) :
    .event index .revoked ∈ registry.trace := by
  by_contra unseen
  exact off (((kept.sound index).active lease held).mpr unseen)

/-- The slot is freed. -/
theorem Kept.freed (kept : Kept registry) {index : Nat} {lease : Lease}
    (current : registry.current = some index) (held : (registry.link index).lease = some lease)
    (off : lease.active ≠ true) (trace : after.trace = .completed index
      ((registry.link index).closed || (registry.link index).retired) :: registry.trace)
    (free : after.current = none) (same : after.stopped = registry.stopped)
    (length : after.table.length = registry.table.length)
    (shut : after.link index = { registry.link index with closed := true })
    (others : ∀ other, other ≠ index → after.link other = registry.link other) :
    Kept after ∧ Aside registry after := by
  have sound := kept.sound index
  have revoked := kept.revoked held off
  obtain ⟨granted, attached⟩ := sound.given lease held
  refine ⟨?_, ?_⟩
  · refine kept.add [_] (fun _ new => by rw [List.mem_singleton.mp new]; rfl) trace ?_ others
      ?_ ?_ ?_
    · rw [trace]
      refine kept.lawful.cons ⟨revoked, sound.once current, fun ended => ?_⟩
      exact kept.ended current (by simpa using ended)
    · intro other differs
      rw [free, current]
      simp [Ne.symm differs]
    · intro other here
      rw [free] at here
      cases here
    · rw [free, shut, trace]
      exact {
        untold := fun none => absurd (held.symm.trans none) (by simp)
        given := fun other here => by
          obtain rfl := Option.some.inj (held.symm.trans here)
          exact ⟨List.mem_cons_of_mem _ granted, List.mem_cons_of_mem _ attached⟩
        active := fun other here => by
          obtain rfl := Option.some.inj (held.symm.trans here)
          exact ⟨fun on => absurd on off,
            fun unseen => absurd (List.mem_cons_of_mem _ revoked) unseen⟩
        held := fun other here => by
          obtain rfl := Option.some.inj (held.symm.trans here)
          exact ⟨fun on => absurd on off, .inr ⟨_, List.mem_cons_self⟩⟩
        once := fun here => absurd here (by simp)
        retired := by
          rw [← sound.retired]
          simp
        lost := fun _ => rfl
        closed := fun _ _ => by
          by_cases ended : ((registry.link index).closed || (registry.link index).retired) = true
          · rcases kept.ended current (by simpa using ended) with told | told
            · exact .inl (List.mem_cons_of_mem _ told)
            · exact .inr (.inl (List.mem_cons_of_mem _ told))
          · rw [Bool.not_eq_true] at ended
            rw [ended]
            exact .inr (.inr List.mem_cons_self)
        sequence := by
          rw [acceptedOf_cons (by simp)]
          exact sound.sequence }
  · refine ⟨⟨?_, Nat.le_of_eq length.symm, ?_⟩, .inr free, ?_, ?_, ?_, same⟩
    · rw [trace]
      exact List.suffix_cons _ _
    · intro other given here
      by_cases same : other = index
      · subst same
        exact ⟨given.active, by rw [shut]; exact here, id⟩
      · exact ⟨given.active, by rw [others other same]; exact here, id⟩
    · intro other
      by_cases same : other = index
      · rw [same, shut]
      · rw [others other same]
    · intro other
      by_cases same : other = index
      · rw [same, shut]
      · rw [others other same]
    · intro other event _ seen
      rw [trace] at seen
      rcases List.mem_cons.mp seen with same | earlier
      · cases same
      · exact earlier

/-- `completeRetirement`. -/
theorem Kept.complete (kept : Kept registry) (index : Nat) :
    Kept (registry.completeRetirement index) ∧
      Aside registry (registry.completeRetirement index) := by
  unfold Registry.completeRetirement
  split
  · next free =>
    simp only [Bool.and_eq_true, decide_eq_true_eq, Bool.not_eq_true'] at free
    obtain ⟨⟨current, _⟩, inactive⟩ := free
    obtain ⟨lease, held⟩ := kept.current_lease current
    have off : lease.active ≠ true := by
      intro on
      exact absurd (active_iff.mpr ⟨index, lease, current, held, on⟩) (by rw [inactive]; simp)
    have inside := kept.inside index current
    dsimp only
    split
    · next closed =>
      refine kept.freed current held off rfl rfl rfl rfl ?_ (fun _ _ => rfl)
      show registry.link index = { registry.link index with closed := true }
      rw [← closed]
    · refine kept.freed current held off rfl rfl rfl (length_setLink _ _ _) ?_ ?_
      · exact link_setLink_same inside _
      · intro other differs
        exact (link_setLink inside _ other).trans (if_neg differs)
  · exact ⟨kept, .refl registry⟩

/-- A reaction activates nothing. -/
theorem Aside.inactive (aside : Aside before after) (off : before.active = false) :
    after.active = false := by
  rw [Bool.eq_false_iff] at off ⊢
  intro on
  obtain ⟨index, lease, current, held, active⟩ := active_iff.mp on
  rcases aside.current with same | free
  · rw [same] at current
    obtain ⟨given, here⟩ := Option.isSome_iff_exists.mp
      ((aside.leases index).symm.trans (by rw [held]; rfl))
    obtain ⟨still, there, stays⟩ := aside.lease index given here
    obtain rfl := Option.some.inj (held.symm.trans there)
    exact off (active_iff.mpr ⟨index, given, current, here, stays active⟩)
  · rw [free] at current
    cases current

/-- A whole `revoke`, when the reaction inside is known to keep the registry. -/
theorem Kept.revoking (kept : Kept registry) (on : registry.active = true) {reaction : Reaction}
    (inner : ∀ {registry : Registry}, Kept registry →
      Kept (registry.react reaction) ∧ Aside registry (registry.react reaction)) :
    Kept (registry.beginRevoke.react reaction).endRevoke ∧
      Aside registry (registry.beginRevoke.react reaction).endRevoke := by
  obtain ⟨begun, first, off⟩ := kept.beginRevoke on
  obtain ⟨reacted, second⟩ := inner begun
  obtain ⟨ended, third⟩ := reacted.endRevoke (second.inactive off)
  exact ⟨ended, (first.trans second).trans third⟩

/-- Whatever the controller calls inside an event. -/
theorem Kept.react (kept : Kept registry) (reaction : Reaction) :
    Kept (registry.react reaction) ∧ Aside registry (registry.react reaction) := by
  induction reaction generalizing registry with
  | quiet => exact ⟨kept, .refl registry⟩
  | complete index rest ih =>
    obtain ⟨completed, first⟩ := kept.complete index
    obtain ⟨reacted, second⟩ := ih completed
    exact ⟨reacted, first.trans second⟩
  | revoke inner rest within ih =>
    unfold Registry.react
    split
    · next on =>
      obtain ⟨revoked, first⟩ := kept.revoking on within
      obtain ⟨reacted, second⟩ := ih revoked
      exact ⟨reacted, first.trans second⟩
    · exact ih kept
  | refresh scope inner rest within ih =>
    unfold Registry.react
    split
    · next changed =>
      obtain ⟨revoked, first⟩ := kept.revoking (Bool.and_eq_true_iff.mp changed).1 within
      obtain ⟨reacted, second⟩ := ih revoked
      exact ⟨reacted, first.trans second⟩
    · exact ih kept

/-- `revoke`. -/
theorem Kept.revoke (kept : Kept registry) (reaction : Reaction) :
    Kept (registry.revoke reaction) ∧ Aside registry (registry.revoke reaction) ∧
      (registry.revoke reaction).active = false := by
  unfold Registry.revoke
  split
  · next on =>
    obtain ⟨begun, first, off⟩ := kept.beginRevoke on
    obtain ⟨reacted, second⟩ := begun.react reaction
    obtain ⟨ended, third⟩ := reacted.endRevoke (second.inactive off)
    exact ⟨ended, (first.trans second).trans third, third.inactive (second.inactive off)⟩
  · next off => exact ⟨kept, .refl registry, Bool.eq_false_iff.mpr off⟩

/-- `refresh`. -/
theorem Kept.refresh (kept : Kept registry) (scope : Phase) (reaction : Reaction) :
    Kept (registry.refresh scope reaction) ∧ Aside registry (registry.refresh scope reaction) := by
  unfold Registry.refresh
  split
  · obtain ⟨revoked, aside, _⟩ := kept.revoke reaction
    exact ⟨revoked, aside⟩
  · exact ⟨kept, .refl registry⟩

end Registry

end Plank.Agent
