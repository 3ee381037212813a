import Plank.Agent.RegistryLaw

/-!
# The lease of the agent registry

Closing, registering and operating keep the registry whatever the controller calls back inside, so
every interleaving does.
-/

namespace Plank.Agent

open Trace (Each)

namespace Registry

variable {registry before after : Registry}

/-- A link that is no longer current was told of, or completed before. -/
theorem Kept.left (kept : Kept registry) {index : Nat}
    (held : (registry.link index).lease.isSome = true) (gone : registry.current ≠ some index) :
    .event index .retired ∈ registry.trace ∨ .event index .lost ∈ registry.trace ∨
      .completed index false ∈ registry.trace := by
  obtain ⟨lease, here⟩ := Option.isSome_iff_exists.mp held
  obtain ⟨ended, completed⟩ := ((kept.sound index).held lease here).2.resolve_left gone
  cases ended with
  | false => exact .inr (.inr completed)
  | true =>
    obtain ⟨earlier, ⟨_, _, told⟩, past⟩ := kept.lawful.mem completed
    rcases told rfl with retired | lost
    · exact .inl (past _ retired)
    · exact .inr (.inl (past _ lost))

/-- A link is closed, and told of where it was lost. -/
theorem Kept.shut (kept : Kept registry) {index : Nat} (inside : index < registry.table.length)
    (notices : List Notice) (about : ∀ notice ∈ notices, notice = .event index .lost)
    (trace : after.trace = notices ++ registry.trace) (lawful : Each Law after.trace)
    (slot : after.current = registry.current)
    (table : after.table = (registry.shut index).table)
    (told : (registry.link index).lease.isSome = true → .event index .retired ∈ after.trace ∨
      .event index .lost ∈ after.trace ∨ .completed index false ∈ after.trace)
    (leased : notices ≠ [] → (registry.link index).lease.isSome = true) :
    Kept after ∧ Follows registry after := by
  have sound := kept.sound index
  have links : ∀ other, after.link other =
      if other = index then { registry.link index with closed := true }
      else registry.link other := by
    intro other
    unfold Registry.link
    rw [table]
    exact link_setLink inside _ other
  have here : after.link index = { registry.link index with closed := true } :=
    (links index).trans (if_pos rfl)
  have length : after.table.length = registry.table.length := by
    rw [table]
    exact length_setLink _ _ _
  have same : ∀ notice : Notice, notice ≠ .event index .lost →
      (notice ∈ after.trace ↔ notice ∈ registry.trace) := by
    intro notice differs
    rw [trace, List.mem_append]
    exact ⟨fun seen => seen.resolve_left fun new => differs (about notice new), .inr⟩
  refine ⟨?_, ⟨?_, Nat.le_of_eq length.symm, ?_⟩⟩
  · refine kept.add notices (fun _ new => by rw [about _ new]; rfl) trace lawful
      (fun other differs => (links other).trans (if_neg differs)) (fun _ _ => by rw [slot]) ?_ ?_
    · rw [slot, length]
      exact kept.inside
    · rw [slot, here]
      exact {
        untold := fun none => by
          obtain ⟨free, ungranted, untold⟩ := sound.untold none
          have bare : notices = [] := by
            by_contra some
            exact absurd (leased some) (by rw [none]; simp)
          rw [trace, bare]
          exact ⟨free, ungranted, untold⟩
        given := fun lease held => by
          rw [same _ (by simp), same _ (by simp)]
          exact sound.given lease held
        active := fun lease held => by
          rw [same _ (by simp)]
          exact sound.active lease held
        held := fun lease held => by
          obtain ⟨on, either⟩ := sound.held lease held
          refine ⟨on, either.imp_right fun ⟨ended, completed⟩ => ⟨ended, ?_⟩⟩
          exact (same _ (by simp)).mpr completed
        once := fun current ended seen => sound.once current ended ((same _ (by simp)).mp seen)
        retired := by
          rw [same _ (by simp)]
          exact sound.retired
        lost := fun _ => rfl
        closed := fun held _ => told held
        sequence := by
          have none : notices.countP (Notice.accepts index) = 0 := by
            rw [List.countP_eq_zero]
            intro notice new
            rw [about notice new]
            simp [Notice.accepts]
          rw [trace, acceptedOf, List.countP_append, none, Nat.zero_add]
          exact sound.sequence }
  · rw [trace]
    exact List.suffix_append _ _
  · intro other lease held
    refine ⟨lease.active, ?_, id⟩
    rw [links other]
    split
    · next same =>
      rw [← same]
      exact held
    · exact held

/-- `close`. -/
theorem Kept.close (kept : Kept registry) {index : Nat} (inside : index < registry.table.length)
    (controller : Event → Reaction) :
    Kept (registry.close index controller) ∧
      Follows registry (registry.close index controller) := by
  unfold Registry.close
  split
  · exact ⟨kept, .refl registry⟩
  · next opened =>
    dsimp only
    obtain ⟨middle, result, stays, aside, inactive⟩ : ∃ middle,
        (if registry.current = some index && registry.active then
          registry.revoke (controller .revoked) else registry) = middle ∧
        Kept middle ∧ Aside registry middle ∧
        (middle.current = some index → middle.active = false) := by
      split
      · obtain ⟨revoked, aside, off⟩ := kept.revoke (controller .revoked)
        exact ⟨_, rfl, revoked, aside, fun _ => off⟩
      · next other =>
        refine ⟨_, rfl, kept, .refl registry, fun current => ?_⟩
        simpa [current] using other
    rw [result]
    have within : index < middle.table.length := Nat.lt_of_lt_of_le inside aside.table
    have same : (middle.shut index).link index = { middle.link index with closed := true } :=
      link_setLink_same within _
    split
    · next lost =>
      simp only [Bool.and_eq_true, decide_eq_true_eq, Bool.not_eq_true', same] at lost
      obtain ⟨current, unretired⟩ := lost
      replace current : middle.current = some index := current
      obtain ⟨lease, held⟩ := stays.current_lease current
      have off : lease.active ≠ true := by
        intro on
        exact absurd (active_iff.mpr ⟨index, lease, current, held, on⟩)
          (by rw [inactive current]; simp)
      have untold : .event index .retired ∉ middle.trace := by
        intro seen
        rw [(stays.sound index).retired.mp seen] at unretired
        cases unretired
      have unlost : .event index .lost ∉ middle.trace := by
        intro seen
        exact opened ((kept.sound index).lost (aside.told index .lost (by simp) seen))
      have lost : Kept ((middle.shut index).notice (.event index .lost)) ∧
          Follows middle ((middle.shut index).notice (.event index .lost)) :=
        stays.shut within [.event index .lost] (fun _ new => List.mem_singleton.mp new) rfl
          (stays.lawful.cons ⟨stays.revoked held off, untold, unlost⟩) rfl rfl
          (fun _ => .inr (.inl List.mem_cons_self)) (fun _ => by rw [held]; rfl)
      obtain ⟨shut, follows⟩ := lost
      obtain ⟨reacted, later⟩ := shut.react (controller .lost)
      exact ⟨reacted, (aside.toFollows.trans follows).trans later.toFollows⟩
    · next other =>
      have closed : Kept (middle.shut index) ∧ Follows middle (middle.shut index) := by
        refine stays.shut within [] (fun _ none => absurd none (by simp)) rfl stays.lawful rfl rfl
          (fun held => ?_) (fun some => absurd rfl some)
        by_cases current : middle.current = some index
        · refine .inl ((stays.sound index).retired.mpr ?_)
          by_contra unretired
          refine other ?_
          rw [same]
          simp only [Bool.and_eq_true, decide_eq_true_eq]
          exact ⟨current, by simpa using unretired⟩
        · exact stays.left held current
      exact ⟨closed.1, aside.toFollows.trans closed.2⟩

/-- An answer; a status of 0 goes to an active lease. -/
theorem Kept.reply (kept : Kept registry) (index : Nat) (status : UInt64)
    (honest : status = 0 → ∃ lease, (registry.link index).lease = some lease ∧
      lease.active = true) :
    Kept (registry.reply index status) ∧ Aside registry (registry.reply index status) := by
  refine kept.say id (by simp) fun zero => ?_
  obtain ⟨lease, held, on⟩ := honest zero
  refine ⟨lease.generation, ?_, ((kept.sound index).given lease held).1,
    ((kept.sound index).active lease held).mp on⟩
  rw [if_pos zero, held]
  rfl

/-- A link that was given a lease has one. -/
theorem Kept.leased (kept : Kept registry) {index : Nat} {generation : UInt64}
    (granted : .granted index generation ∈ registry.trace) :
    ∃ lease, (registry.link index).lease = some lease := by
  cases held : (registry.link index).lease with
  | none => exact absurd granted (((kept.sound index).untold held).2.1 generation)
  | some lease => exact ⟨lease, rfl⟩

/-- A lease is given while the slot is free. -/
theorem Kept.grant (kept : Kept registry) {index : Nat} (inside : index < registry.table.length)
    (free : registry.current = none) (bare : (registry.link index).lease = none)
    (opened : (registry.link index).closed = false) {lease : Lease} (on : lease.active = true)
    (positive : lease.generation ≠ 0) (controller : Event → Reaction) :
    Kept (registry.grant index lease controller) ∧
      Follows registry (registry.grant index lease controller) := by
  have sound := kept.sound index
  obtain ⟨_, ungranted, untold⟩ := sound.untold bare
  have uncompleted : ∀ ended, .completed index ended ∉ registry.trace := by
    intro ended seen
    obtain ⟨earlier, ⟨revoked, _⟩, past⟩ := kept.lawful.mem seen
    exact untold _ (past _ revoked)
  obtain ⟨attached, result, trace, slot, table, stopped⟩ : ∃ attached : Registry,
      registry.grant index lease controller = attached.react (controller .attached) ∧
      attached.trace = [.event index .attached, .replied index 0 (some lease.generation),
        .granted index lease.generation] ++ registry.trace ∧
      attached.current = some index ∧
      attached.table =
        (registry.setLink index fun link => { link with lease := some lease }).table ∧
      attached.stopped = registry.stopped := by
    have given : (registry.setLink index fun link => { link with lease := some lease }).link index =
        { registry.link index with lease := some lease } := link_setLink_same inside _
    have active : ((registry.setLink index fun link => { link with lease := some lease }).link
        index).lease.any Lease.active = true := by
      rw [given]
      exact on
    refine ⟨_, if_pos active, ?_, rfl, rfl, rfl⟩
    show _ :: Notice.replied index 0 (if (0 : UInt64) = 0 then Option.map Lease.generation
      ((registry.setLink index fun link => { link with lease := some lease }).link index).lease
        else none) :: _ :: _ = _
    rw [given]
    rfl
  have links : ∀ other, attached.link other =
      if other = index then { registry.link index with lease := some lease }
      else registry.link other := by
    intro other
    unfold Registry.link
    rw [table]
    exact link_setLink inside _ other
  have here : attached.link index = { registry.link index with lease := some lease } :=
    (links index).trans (if_pos rfl)
  have length : attached.table.length = registry.table.length := by
    rw [table]
    exact length_setLink _ _ _
  have given : Kept attached := by
    refine kept.add _ ?_ trace ?_ (fun other differs => (links other).trans (if_neg differs))
      ?_ ?_ ?_
    · intro notice new
      simp only [List.mem_cons, List.not_mem_nil, or_false] at new
      rcases new with rfl | rfl | rfl <;> rfl
    · rw [trace]
      have first : Law registry.trace (.granted index lease.generation) := by
        refine ⟨positive, fun other generation granted => ?_⟩
        have differs : other ≠ index := by
          rintro rfl
          exact ungranted _ granted
        obtain ⟨held, old⟩ := kept.leased granted
        exact ⟨differs, ((kept.sound other).held held old).2.resolve_left (by rw [free]; simp)⟩
      have second : Law (.granted index lease.generation :: registry.trace)
          (.replied index 0 (some lease.generation)) :=
        fun _ => ⟨_, rfl, List.mem_cons_self, by simp [untold]⟩
      have third : Law (.replied index 0 (some lease.generation) ::
          .granted index lease.generation :: registry.trace) (.event index .attached) :=
        ⟨⟨_, List.mem_cons_of_mem _ List.mem_cons_self⟩, by simp [untold]⟩
      exact ((kept.lawful.cons first).cons second).cons third
    · intro other differs
      rw [slot, free]
      simp [Ne.symm differs]
    · intro other current
      rw [slot] at current
      obtain rfl := Option.some.inj current
      rw [length]
      exact inside
    · rw [slot, here, trace]
      exact {
        untold := fun none => absurd none (by simp)
        given := by
          rintro _ ⟨⟩
          simp
        active := by
          rintro _ ⟨⟩
          simp [on, untold]
        held := by
          rintro _ ⟨⟩
          exact ⟨fun _ => rfl, .inl rfl⟩
        once := fun _ ended => by simp [uncompleted]
        retired := by
          rw [← sound.retired]
          simp
        lost := by simp [untold]
        closed := fun _ shut => absurd (opened.symm.trans shut) (by simp)
        sequence := by
          show _ = acceptedOf index (_ :: _ :: _ :: registry.trace)
          rw [acceptedOf_cons (by simp), acceptedOf_cons (by simp), acceptedOf_cons (by simp)]
          exact sound.sequence }
  have follows : Follows registry attached := by
    refine ⟨?_, Nat.le_of_eq length.symm, ?_⟩
    · rw [trace]
      exact List.suffix_append _ _
    · intro other old held
      have differs : other ≠ index := by
        rintro rfl
        exact absurd (bare.symm.trans held) (by simp)
      exact ⟨old.active, by rw [links other, if_neg differs]; exact held, id⟩
  obtain ⟨reacted, later⟩ := given.react (controller .attached)
  rw [result]
  exact ⟨reacted, follows.trans later.toFollows⟩

/-- What the checks of a message say. -/
theorem checked_some {index : Nat} {message : Message} {generation sequence : UInt64}
    (passed : registry.checked index message = some (generation, sequence)) :
    ∃ lease, (registry.link index).lease = some lease ∧ registry.current = some index ∧
      generation = lease.generation ∧
      sequence.toNat = (registry.link index).sequence.toNat + 1 := by
  unfold checked at passed
  split at passed
  · next lease generation' sequence' held _ _ =>
    obtain ⟨checks, same⟩ := Option.ite_none_left_eq_some.mp passed
    obtain ⟨rfl, rfl⟩ := Prod.mk.inj (Option.some.inj same)
    simp only [Bool.or_eq_true, decide_eq_true_eq, not_or, not_not] at checks
    obtain ⟨⟨⟨⟨current, _⟩, generation⟩, last⟩, next⟩ := checks
    refine ⟨lease, held, current, generation, ?_⟩
    have below := (registry.link index).sequence.toNat_lt
    have bound : (registry.link index).sequence.toNat ≠ 0xffffffffffffffff :=
      fun same => last (UInt64.toNat_inj.mp same)
    rw [next, UInt64.toNat_add, show (1 : UInt64).toNat = 1 from rfl]
    omega
  · cases passed

/-- A message of the current agent is accepted. -/
theorem Kept.accepted (kept : Kept registry) {index : Nat} {message : Message}
    {generation sequence : UInt64}
    (passed : registry.checked index message = some (generation, sequence)) (operation : UInt64) :
    Kept ((registry.setLink index fun link => { link with sequence }).notice
        (.accepted index operation generation sequence)) ∧
      Follows registry ((registry.setLink index fun link => { link with sequence }).notice
        (.accepted index operation generation sequence)) := by
  obtain ⟨lease, held, current, rfl, next⟩ := checked_some passed
  have inside := kept.inside index current
  have sound := kept.sound index
  have here : ((registry.setLink index fun link => { link with sequence }).notice
      (.accepted index operation lease.generation sequence)).link index =
        { registry.link index with sequence } := link_setLink_same inside _
  have others : ∀ other, other ≠ index →
      ((registry.setLink index fun link => { link with sequence }).notice
        (.accepted index operation lease.generation sequence)).link other =
          registry.link other :=
    fun other differs => (link_setLink inside _ other).trans (if_neg differs)
  refine ⟨?_, List.suffix_cons _ _, Nat.le_of_eq (length_setLink _ _ _).symm, ?_⟩
  · refine kept.add [_] (fun _ new => by rw [List.mem_singleton.mp new]; rfl) rfl ?_ others
      (fun _ _ => Iff.rfl) ?_ ?_
    · exact kept.lawful.cons ⟨(sound.given lease held).1, sound.once current,
        by rw [next, sound.sequence]⟩
    · intro other slot
      show other < (registry.setLink index _).table.length
      rw [length_setLink]
      exact kept.inside other slot
    · rw [here]
      have count : acceptedOf index (.accepted index operation lease.generation sequence ::
          registry.trace) = acceptedOf index registry.trace + 1 := by
        unfold acceptedOf
        rw [List.countP_cons_of_pos (by simp [Notice.accepts])]
      refine sound.congr Iff.rfl ?_ rfl rfl rfl ?_
      · intro notice _ tells
        refine List.mem_cons.trans ⟨fun seen => seen.resolve_left ?_, .inr⟩
        rintro rfl
        exact tells
      · rw [next, sound.sequence]
        exact count.symm
  · intro other given old
    by_cases same : other = index
    · subst same
      exact ⟨given.active, by rw [here]; exact old, id⟩
    · exact ⟨given.active, by rw [others other same]; exact old, id⟩

/-- The current agent retires. -/
theorem Kept.retire (kept : Kept registry) {index : Nat} (current : registry.current = some index)
    (opened : (registry.link index).closed = false)
    (unretired : (registry.link index).retired = false) (controller : Event → Reaction) :
    Kept ((((registry.revoke (controller .revoked)).setLink index fun link =>
        { link with retired := true }).reply index 2).notice (.event index .retired)) ∧
      Follows registry ((((registry.revoke (controller .revoked)).setLink index fun link =>
        { link with retired := true }).reply index 2).notice (.event index .retired)) := by
  obtain ⟨_, held⟩ := kept.current_lease current
  obtain ⟨stays, aside, inactive⟩ := kept.revoke (controller .revoked)
  have inside : index < (registry.revoke (controller .revoked)).table.length :=
    Nat.lt_of_lt_of_le (kept.inside index current) aside.table
  have unlost : .event index .lost ∉ (registry.revoke (controller .revoked)).trace := by
    intro seen
    exact absurd ((kept.sound index).lost (aside.told index .lost (by simp) seen))
      (by rw [opened]; simp)
  have still := (aside.retired index).trans unretired
  obtain ⟨lease, given⟩ := Option.isSome_iff_exists.mp
    ((aside.leases index).trans (by rw [held]; rfl))
  generalize registry.revoke (controller .revoked) = middle at *
  have sound := stays.sound index
  have off : lease.active ≠ true := by
    intro on
    have slot := (sound.held lease given).1 on
    exact absurd (active_iff.mpr ⟨index, lease, slot, given, on⟩) (by rw [inactive]; simp)
  have untold : .event index .retired ∉ middle.trace := by
    intro seen
    rw [sound.retired.mp seen] at still
    cases still
  have trace : (((middle.setLink index fun link => { link with retired := true }).reply index
      2).notice (.event index .retired)).trace =
        [.event index .retired, .replied index 2 none] ++ middle.trace := rfl
  have here : (((middle.setLink index fun link => { link with retired := true }).reply index
      2).notice (.event index .retired)).link index = { middle.link index with retired := true } :=
    link_setLink_same inside _
  have others : ∀ other, other ≠ index →
      (((middle.setLink index fun link => { link with retired := true }).reply index 2).notice
        (.event index .retired)).link other = middle.link other :=
    fun other differs => (link_setLink inside _ other).trans (if_neg differs)
  refine ⟨?_, aside.toFollows.trans ⟨?_, Nat.le_of_eq (length_setLink _ _ _).symm, ?_⟩⟩
  · refine stays.add _ ?_ trace ?_ others (fun _ _ => Iff.rfl) ?_ ?_
    · intro notice new
      simp only [List.mem_cons, List.not_mem_nil, or_false] at new
      rcases new with rfl | rfl <;> rfl
    · rw [trace]
      have first : Law middle.trace (.replied index 2 none) := fun zero => absurd zero (by decide)
      have second : Law (.replied index 2 none :: middle.trace) (.event index .retired) :=
        ⟨List.mem_cons_of_mem _ (stays.revoked given off), by simp [untold], by simp [unlost]⟩
      exact (stays.lawful.cons first).cons second
    · intro other slot
      show other < (middle.setLink index _).table.length
      rw [length_setLink]
      exact stays.inside other slot
    · rw [here, trace]
      obtain ⟨granted, attached⟩ := sound.given lease given
      exact {
        untold := fun none => absurd (given.symm.trans none) (by simp)
        given := fun other same => by
          obtain rfl := Option.some.inj (given.symm.trans same)
          simp [granted, attached]
        active := fun other same => by
          obtain rfl := Option.some.inj (given.symm.trans same)
          simpa using sound.active lease given
        held := fun other same => by
          obtain rfl := Option.some.inj (given.symm.trans same)
          obtain ⟨on, either⟩ := sound.held lease given
          exact ⟨on, either.imp_right fun ⟨ended, done⟩ => ⟨ended, by simp [done]⟩⟩
        once := fun slot ended => by simpa using sound.once slot ended
        retired := by simp
        lost := by simp [unlost]
        closed := fun _ _ => .inl List.mem_cons_self
        sequence := by
          show _ = acceptedOf index (_ :: _ :: middle.trace)
          rw [acceptedOf_cons (by simp), acceptedOf_cons (by simp)]
          exact sound.sequence }
  · rw [trace]
    exact List.suffix_append _ _
  · intro other old same
    by_cases this : other = index
    · subst this
      exact ⟨old.active, by rw [here]; exact same, id⟩
    · exact ⟨old.active, by rw [others other this]; exact same, id⟩

/-- An accepted message. -/
theorem Kept.operate (kept : Kept registry) {index : Nat} (current : registry.current = some index)
    (opened : (registry.link index).closed = false) (operation : UInt64) (scope : Phase)
    (controller : Event → Reaction) :
    Kept (registry.operate index operation scope controller) ∧
      Follows registry (registry.operate index operation scope controller) := by
  unfold Registry.operate
  split
  · obtain ⟨stays, first⟩ := kept.refresh scope (controller .revoked)
    have honest : (if ((registry.refresh scope (controller .revoked)).link index).lease.any
        Lease.active then (0 : UInt64) else 2) = 0 →
          ∃ lease, ((registry.refresh scope (controller .revoked)).link index).lease = some lease ∧
            lease.active = true := by
      intro zero
      split at zero
      · next on =>
        rw [Option.any_eq_true] at on
        exact on
      · cases zero
    obtain ⟨replied, second⟩ := stays.reply index _ honest
    exact ⟨replied, first.toFollows.trans second.toFollows⟩
  · split
    · next last =>
      have unretired : (registry.link index).retired = false := by
        simpa using (Bool.and_eq_true_iff.mp last).2
      obtain ⟨retired, first⟩ := kept.retire current opened unretired controller
      obtain ⟨reacted, second⟩ := retired.react (controller .retired)
      exact ⟨reacted, first.trans second.toFollows⟩
    · exact kept.close (kept.inside index current) controller

/-- Nothing that the law is about changes. -/
theorem Kept.same (kept : Kept registry) (trace : after.trace = registry.trace)
    (slot : after.current = registry.current) (length : registry.table.length ≤ after.table.length)
    (lease : ∀ index, (after.link index).lease = (registry.link index).lease)
    (retired : ∀ index, (after.link index).retired = (registry.link index).retired)
    (closed : ∀ index, (after.link index).closed = (registry.link index).closed)
    (sequence : ∀ index, (after.link index).sequence = (registry.link index).sequence) :
    Kept after ∧ Follows registry after := by
  refine ⟨⟨?_, fun index => ?_, ?_⟩, ?_, length, ?_⟩
  · rw [trace]
    exact kept.lawful
  · rw [trace, slot]
    exact (kept.sound index).congr Iff.rfl (fun _ _ _ => Iff.rfl) (lease index) (retired index)
      (closed index) (by rw [sequence]; exact (kept.sound index).sequence)
  · rw [slot]
    exact fun index current => Nat.lt_of_lt_of_le (kept.inside index current) length
  · rw [trace]
  · intro index given held
    exact ⟨given.active, (lease index).trans held, id⟩

/-- `close`, of any link. -/
theorem Kept.closes (kept : Kept registry) (index : Nat) (controller : Event → Reaction) :
    Kept (registry.close index controller) ∧
      Follows registry (registry.close index controller) := by
  by_cases inside : index < registry.table.length
  · exact kept.close inside controller
  · have elsewhere : registry.current ≠ some index := fun current =>
      inside (kept.inside index current)
    have nowhere : registry.link index = { created := 0 } := by
      rw [link, List.getD_eq_getElem?_getD, List.getElem?_eq_none (Nat.le_of_not_lt inside)]
      rfl
    have result : registry.close index controller = registry.shut index := by
      have slot : (registry.shut index).current = registry.current := rfl
      unfold Registry.close
      simp only [nowhere, elsewhere, slot, decide_false, Bool.false_and, Bool.false_eq_true,
        ↓reduceIte]
    have same : (registry.shut index).table = registry.table :=
      List.modify_eq_self (Nat.le_of_not_lt inside)
    rw [result]
    have links : ∀ other, (registry.shut index).link other = registry.link other := by
      intro other
      unfold Registry.link
      rw [same]
    exact kept.same rfl rfl (Nat.le_of_eq (by rw [same])) (fun other => by rw [links])
      (fun other => by rw [links]) (fun other => by rw [links]) (fun other => by rw [links])

/-- Operation 1. -/
theorem Kept.register (kept : Kept registry) {index : Nat} (inside : index < registry.table.length)
    (opened : (registry.link index).closed = false) (message : Message) (peer : Peer)
    (scope : Phase) (random : Option UInt64) (controller : Event → Reaction) :
    Kept (registry.register index message peer scope random controller) ∧
      Follows registry (registry.register index message peer scope random controller) := by
  have closes := kept.close inside controller
  unfold Registry.register
  split
  · exact closes
  · next fresh =>
    split
    · exact closes
    · split
      · exact closes
      · split
        · obtain ⟨replied, aside⟩ := kept.reply index 1 fun zero => absurd zero (by decide)
          exact ⟨replied, aside.toFollows⟩
        · next free =>
          split
          · exact closes
          · split
            · exact closes
            · next phase _ _ generation _ positive =>
              simp only [Bool.or_eq_true, decide_eq_true_eq, not_or, Bool.not_eq_true,
                Option.isSome_eq_false_iff, Option.isNone_iff_eq_none] at fresh free
              exact kept.grant inside free fresh.1 opened rfl positive controller

/-- Operation 5. -/
theorem Kept.certify (kept : Kept registry) {index : Nat} (inside : index < registry.table.length)
    (message : Message) (peer : Peer) (scope : Phase) (issuer : Bool) (now : UInt64)
    (controller : Event → Reaction) :
    Kept (registry.certify index message peer scope issuer now controller) ∧
      Follows registry (registry.certify index message peer scope issuer now controller) := by
  unfold Registry.certify
  split
  · exact kept.close inside controller
  · have links : ∀ other, (registry.setLink index fun link => { link with
        identityRequested := true, identityDeadline := now + identityLinkTime }).link other =
          if other = index then { registry.link index with
            identityRequested := true, identityDeadline := now + identityLinkTime }
          else registry.link other := link_setLink inside _
    refine kept.same rfl rfl (Nat.le_of_eq (length_setLink _ _ _).symm) ?_ ?_ ?_ ?_ <;> intro other
    · refine (congrArg Link.lease (links other)).trans ?_
      split
      · next same => rw [same]
      · rfl
    · refine (congrArg Link.retired (links other)).trans ?_
      split
      · next same => rw [same]
      · rfl
    · refine (congrArg Link.closed (links other)).trans ?_
      split
      · next same => rw [same]
      · rfl
    · refine (congrArg Link.sequence (links other)).trans ?_
      split
      · next same => rw [same]
      · rfl

/-- `receive`. -/
theorem Kept.receive (kept : Kept registry) {index : Nat} (inside : index < registry.table.length)
    (message : Message) (peer : Peer) (scope : Phase) (random : Option UInt64) (issuer : Bool)
    (now : UInt64) (controller : Event → Reaction) :
    Kept (registry.receive index message peer scope random issuer now controller) ∧
      Follows registry
        (registry.receive index message peer scope random issuer now controller) := by
  have closes := kept.close inside controller
  unfold Registry.receive
  split
  · exact ⟨kept, .refl registry⟩
  · next live =>
    have opened : (registry.link index).closed = false := by
      simp only [Bool.or_eq_true, not_or, Bool.not_eq_true] at live
      exact live.1
    split
    · exact closes
    · split
      · exact closes
      · next operation _ =>
        split
        · exact kept.certify inside message peer scope issuer now controller
        · split
          · exact kept.register inside opened message peer scope random controller
          · split
            · exact closes
            · next generation sequence passed =>
              obtain ⟨_, _, current, _⟩ := checked_some passed
              obtain ⟨accepted, first⟩ := kept.accepted passed operation
              have still : (((registry.setLink index fun link => { link with sequence }).notice
                  (.accepted index operation generation sequence)).link index).closed = false :=
                (congrArg Link.closed (link_setLink_same inside _)).trans opened
              obtain ⟨operated, second⟩ := accepted.operate current still operation scope controller
              exact ⟨operated, first.trans second⟩

/-- One link after another. -/
theorem Kept.fold (kept : Kept registry) (links : List Nat) (visit : Registry → Nat → Registry)
    (keeps : ∀ {registry : Registry} (index : Nat), Kept registry →
      Kept (visit registry index) ∧ Follows registry (visit registry index)) :
    Kept (links.foldl visit registry) ∧ Follows registry (links.foldl visit registry) := by
  induction links generalizing registry with
  | nil => exact ⟨kept, .refl registry⟩
  | cons index rest ih =>
    obtain ⟨visited, first⟩ := keeps index kept
    obtain ⟨folded, second⟩ := ih visited
    exact ⟨folded, first.trans second⟩

/-- The end of an issuance. -/
theorem Kept.issued (kept : Kept registry) (index : Nat) (valid : Bool) (scope : Phase)
    (now : UInt64) (controller : Event → Reaction) :
    Kept (registry.issued index valid scope now controller) ∧
      Follows registry (registry.issued index valid scope now controller) := by
  have idle : Kept { registry with issuing := false } ∧
      Follows registry { registry with issuing := false } :=
    kept.same rfl rfl (Nat.le_refl _) (fun _ => rfl) (fun _ => rfl) (fun _ => rfl) (fun _ => rfl)
  unfold Registry.issued
  dsimp only
  split
  · exact idle
  · split
    · obtain ⟨closed, second⟩ := idle.1.closes index controller
      exact ⟨closed, idle.2.trans second⟩
    · exact idle

/-- The watch. -/
theorem Kept.watch (kept : Kept registry) (scope : Phase) (now : UInt64)
    (controller : Event → Reaction) :
    Kept (registry.watch scope now controller) ∧
      Follows registry (registry.watch scope now controller) := by
  obtain ⟨refreshed, first⟩ := kept.refresh scope (controller .revoked)
  obtain ⟨watched, second⟩ := refreshed.fold (registry.refresh scope (controller .revoked)).links
    (fun registry index =>
      if registry.stale now index then registry.close index controller else registry)
    fun index kept => by
      split
      · exact kept.closes index controller
      · exact ⟨kept, .refl _⟩
  exact ⟨watched, first.toFollows.trans second⟩

/-- `stop`. -/
theorem Kept.stop (kept : Kept registry) (controller : Event → Reaction) :
    Kept (registry.stop controller) ∧ Follows registry (registry.stop controller) := by
  unfold Registry.stop
  split
  · exact ⟨kept, .refl registry⟩
  · obtain ⟨stopped, first⟩ : Kept { registry with stopped := true } ∧
        Follows registry { registry with stopped := true } :=
      kept.same rfl rfl (Nat.le_refl _) (fun _ => rfl) (fun _ => rfl) (fun _ => rfl) (fun _ => rfl)
    obtain ⟨revoked, second, _⟩ := stopped.revoke (controller .revoked)
    obtain ⟨closed, third⟩ := revoked.fold
      (Registry.revoke { registry with stopped := true } (controller .revoked)).links
      (fun registry index => registry.close index controller)
      fun index kept => kept.closes index controller
    exact ⟨closed, (first.trans second.toFollows).trans third⟩

/-- A new link is like one that is not there yet. -/
theorem link_append (registry : Registry) (now : UInt64) (links : List Nat) (index : Nat) :
    Registry.link { registry with links, table := registry.table ++ [{ created := now }] } index =
      { registry.link index with
        created :=
          if index = registry.table.length then now else (registry.link index).created } := by
  unfold Registry.link
  simp only [List.getD_eq_getElem?_getD]
  rcases Nat.lt_trichotomy index registry.table.length with inside | rfl | outside
  · rw [List.getElem?_append_left inside, if_neg (by omega)]
  · rw [List.getElem?_append_right (Nat.le_refl _), Nat.sub_self, if_pos rfl,
      List.getElem?_eq_none (Nat.le_refl _)]
    rfl
  · rw [if_neg (by omega), List.getElem?_eq_none (by simp; omega),
      List.getElem?_eq_none (by omega)]

/-- `accept`. -/
theorem Kept.accept (kept : Kept registry) (required : Bool) (now : UInt64) :
    Kept (registry.accept required now) ∧ Follows registry (registry.accept required now) := by
  unfold Registry.accept
  split
  · exact ⟨kept, .refl registry⟩
  · refine kept.same rfl rfl (by simp) ?_ ?_ ?_ ?_ <;> intro other <;> rw [link_append]

/-- Every block on the queue. -/
theorem kept_step {action : Action} (kept : Kept registry)
    (stepped : system.step registry action = some after) : Kept after ∧ Follows registry after := by
  cases action with
  | accept required now =>
    cases stepped
    exact kept.accept required now
  | receive index message peer scope random issuer now controller =>
    obtain ⟨inside, same⟩ := Option.ite_none_right_eq_some.mp stepped
    cases same
    exact kept.receive inside message peer scope random issuer now controller
  | issued index valid scope now controller =>
    obtain ⟨_, same⟩ := Option.ite_none_right_eq_some.mp stepped
    cases same
    exact kept.issued index valid scope now controller
  | watch scope now controller =>
    obtain ⟨_, same⟩ := Option.ite_none_left_eq_some.mp stepped
    cases same
    exact kept.watch scope now controller
  | revoke reaction =>
    cases stepped
    obtain ⟨revoked, aside, _⟩ := kept.revoke reaction
    exact ⟨revoked, aside.toFollows⟩
  | refresh scope reaction =>
    cases stepped
    obtain ⟨refreshed, aside⟩ := kept.refresh scope reaction
    exact ⟨refreshed, aside.toFollows⟩
  | complete index =>
    cases stepped
    obtain ⟨completed, aside⟩ := kept.complete index
    exact ⟨completed, aside.toFollows⟩
  | stop controller =>
    cases stepped
    exact kept.stop controller

/-- Every reachable registry is kept. -/
theorem reachable_kept (reachable : system.Reachable registry) : Kept registry := by
  refine Transition.System.Preserves.reachable
    (fun _ _ _ kept stepped => (kept_step kept stepped).1) ?_ reachable
  rintro registry rfl
  refine ⟨.nil, fun index => ?_, fun _ none => absurd none (by simp)⟩
  have bare : Registry.link {} index = { created := 0 } := by simp [Registry.link]
  rw [bare]
  exact ⟨fun _ => by simp, by simp, by simp, by simp, by simp, by simp, by simp, by simp, rfl⟩

/-- What holds of the registry after any blocks. -/
structure LeaseLaw (registry : Registry) : Prop where
  /-- Every notice has the place that the law gives it. -/
  lawful : Each Law registry.trace
  /-- An active lease belongs to the current agent. -/
  one : ∀ index lease, (registry.link index).lease = some lease → lease.active = true →
    registry.current = some index
  /-- A link that was closed or retired was lost or retired for the controller, unless the
  controller had completed its retirement before. -/
  ended : ∀ index, (registry.link index).lease.isSome = true →
    (registry.link index).closed = true ∨ (registry.link index).retired = true →
      .event index .retired ∈ registry.trace ∨ .event index .lost ∈ registry.trace ∨
        .completed index false ∈ registry.trace
  /-- A lease that is not active is not activated by anything that follows. -/
  latched : ∀ after, system.Reaches registry after → ∀ index lease,
    (registry.link index).lease = some lease → lease.active = false →
      (after.link index).lease = some lease

/-- The registry keeps the law in every interleaving. -/
theorem reachable_leaseLaw (registry : Registry) (reachable : system.Reachable registry) :
    LeaseLaw registry := by
  have kept := reachable_kept reachable
  refine ⟨kept.lawful, fun index lease held on => ((kept.sound index).held lease held).1 on,
    fun index held ended => ?_, fun later reaches index lease held off => ?_⟩
  · rcases ended with closed | retired
    · exact (kept.sound index).closed held closed
    · exact .inl ((kept.sound index).retired.mpr retired)
  · have follows : Follows registry later := by
      refine reachable.relation Follows.refl (fun _ _ _ => Follows.trans) ?_ reaches
      intro before action after reached stepped
      exact (kept_step (reachable_kept reached) stepped).2
    obtain ⟨active, still, stays⟩ := follows.lease index lease held
    cases active with
    | true => exact absurd (stays rfl) (by rw [off]; simp)
    | false =>
      rw [still, ← off]

/-- An agent registers, is asked for its health, and retires; the controller completes its
retirement inside the event, and another agent registers. -/
def registryRun : List Action :=
  let register : Message := ⟨true, true, 3, some 1, some 1, some 2, none, none, none⟩
  let operate (operation generation sequence : UInt64) : Message :=
    ⟨true, true, 4, some 1, some operation, none, some generation, some sequence, none⟩
  let peer : Peer := ⟨501, 100, 7⟩
  let quiet : Event → Reaction := fun _ => .quiet
  let completing : Event → Reaction := fun event =>
    if event = .retired then .complete 0 .quiet else .quiet
  [.accept true 1, .accept true 2,
    .receive 0 register peer .desktop (some 40) true 3 quiet,
    .receive 0 (operate 2 40 1) peer .desktop none true 5 quiet,
    .receive 0 (operate 3 40 2) peer .desktop none true 6 completing,
    .receive 1 register peer .desktop (some 42) true 7 quiet]

/-- The second agent has the slot. -/
theorem sample_leaseLaw : ∃ registry, system.run {} registryRun = some registry ∧
    registry.current = some 1 ∧ LeaseLaw registry := by
  obtain ⟨registry, evaluated, current⟩ := Option.map_eq_some_iff.mp
    (show (system.run {} registryRun).map Registry.current = some (some 1) from by decide +kernel)
  exact ⟨registry, evaluated, current,
    reachable_leaseLaw registry (Transition.System.reachable_of_run rfl evaluated)⟩

end Registry

end Plank.Agent
