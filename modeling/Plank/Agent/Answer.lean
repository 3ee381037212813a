import Plank.Agent.RegistryLease
import Plank.Agent.Connection

/-!
# What the registry answers a link

A message of a link is answered once at most, and is accepted once at most; nothing else the
registry does accepts or answers for the link.
-/

namespace Plank.Agent

/-- What a link was answered: the status, and the generation. -/
def Notice.reply (index : Nat) : Notice → Option (UInt64 × Option UInt64)
  | .replied link status generation => if link = index then some (status, generation) else none
  | _ => none

/-- What a link was answered, in order. -/
def repliesOf (index : Nat) (trace : List Notice) : List (UInt64 × Option UInt64) :=
  (trace.filterMap (Notice.reply index)).reverse

/-- Notices after others. -/
theorem repliesOf_append (index : Nat) (fresh trace : List Notice) :
    repliesOf index (fresh ++ trace) = repliesOf index trace ++ repliesOf index fresh := by
  simp [repliesOf]

namespace Registry

/-- How many messages of a link are accepted and what it is answered, from one registry to the
next. -/
structure Tells (index accepted : Nat) (replies : List (UInt64 × Option UInt64))
    (before after : Registry) : Prop where
  /-- The answers. -/
  replies : repliesOf index after.trace = repliesOf index before.trace ++ replies
  /-- The messages. -/
  accepted : acceptedOf index after.trace = acceptedOf index before.trace + accepted
  /-- A closed link stays closed. -/
  closed : (before.link index).closed = true → (after.link index).closed = true
  /-- A stopped registry stays stopped. -/
  stopped : before.stopped = true → after.stopped = true

variable {registry before after : Registry} {index accepted : Nat}
  {replies : List (UInt64 × Option UInt64)}

/-- Nothing happens. -/
theorem Tells.refl (index : Nat) (registry : Registry) : Tells index 0 [] registry registry where
  replies := (List.append_nil _).symm
  accepted := rfl
  closed := id
  stopped := id

/-- Something after something else was said, or before. -/
theorem Tells.trans {middle : Registry} {more : Nat} {others : List (UInt64 × Option UInt64)}
    (first : Tells index accepted replies before middle)
    (second : Tells index more others middle after) :
    Tells index (accepted + more) (replies ++ others) before after where
  replies := by rw [second.replies, first.replies, List.append_assoc]
  accepted := by rw [second.accepted, first.accepted, Nat.add_assoc]
  closed shut := second.closed (first.closed shut)
  stopped over_ := second.stopped (first.stopped over_)

/-- Silence after something. -/
theorem Tells.hush {middle : Registry} (first : Tells index accepted replies before middle)
    (second : Tells index 0 [] middle after) : Tells index accepted replies before after := by
  simpa using first.trans second

/-- Nothing is said when the notices stay and no link opens. -/
theorem tells_same (trace : after.trace = before.trace)
    (closed : (before.link index).closed = true → (after.link index).closed = true)
    (stopped : before.stopped = true → after.stopped = true) : Tells index 0 [] before after where
  replies := by rw [trace, List.append_nil]
  accepted := by rw [trace, Nat.add_zero]
  closed := closed
  stopped := stopped

/-- A notice that neither accepts nor answers. -/
theorem tells_notice (registry : Registry) (notice : Notice) (reply : notice.reply index = none)
    (accepts : notice.accepts index = false) :
    Tells index 0 [] registry (registry.notice notice) where
  replies := by
    show (List.filterMap _ (notice :: registry.trace)).reverse = _
    rw [List.filterMap_cons_none reply, List.append_nil]
    rfl
  accepted := by
    show List.countP _ (notice :: registry.trace) = _
    rw [List.countP_cons_of_neg (by rw [accepts]; exact Bool.false_ne_true)]
    rfl
  closed := id
  stopped := id

/-- A change of a link that does not open it. -/
theorem tells_setLink (registry : Registry) (changed : Nat) (change : Link → Link)
    (shuts : ∀ link : Link, link.closed = true → (change link).closed = true) :
    Tells index 0 [] registry (registry.setLink changed change) := by
  refine tells_same rfl (fun shut => ?_) id
  unfold link setLink at *
  rw [List.getD_eq_getElem?_getD] at shut ⊢
  rw [List.getElem?_modify]
  cases here : registry.table[index]? with
  | none =>
    rw [here] at shut
    exact absurd shut Bool.false_ne_true
  | some link =>
    rw [here] at shut
    by_cases same : changed = index
    · simpa [same] using shuts link shut
    · simpa [same] using shut

/-- A link is left. -/
theorem tells_shut (registry : Registry) (left : Nat) :
    Tells index 0 [] registry (registry.shut left) := by
  have set : Tells index 0 [] registry
      (registry.setLink left fun link => { link with closed := true }) :=
    tells_setLink registry left _ fun _ _ => rfl
  exact { set with }

/-- `completeRetirement`. -/
theorem tells_complete (registry : Registry) (completed : Nat) :
    Tells index 0 [] registry (registry.completeRetirement completed) := by
  unfold completeRetirement
  split
  · have free : Tells index 0 [] registry { registry with current := none } :=
      tells_same rfl id id
    have freed := free.hush (tells_notice { registry with current := none }
      (.completed completed ((registry.link completed).closed ||
        (registry.link completed).retired)) rfl rfl)
    dsimp only
    split
    · exact freed
    · exact freed.hush (tells_shut _ completed)
  · exact .refl index registry

/-- The first part of `revoke`. -/
theorem tells_beginRevoke (registry : Registry) :
    Tells index 0 [] registry registry.beginRevoke := by
  unfold beginRevoke
  split
  · exact .refl index registry
  · refine Tells.hush (tells_setLink registry _ (fun link => { link with
      lease := link.lease.map fun lease => { lease with active := false } }) ?_)
      (tells_notice _ _ rfl rfl)
    exact fun _ shut => shut

/-- The last part of `revoke`. -/
theorem tells_endRevoke (registry : Registry) : Tells index 0 [] registry registry.endRevoke := by
  unfold endRevoke
  split
  · exact .refl index registry
  · split
    · exact .refl index registry
    · split
      · exact .refl index registry
      · exact tells_notice registry _ rfl rfl

/-- Whatever the controller calls inside an event. -/
theorem tells_react (registry : Registry) (reaction : Reaction) :
    Tells index 0 [] registry (registry.react reaction) := by
  induction reaction generalizing registry with
  | quiet => exact .refl index registry
  | complete completed rest ih => exact (tells_complete registry completed).hush (ih _)
  | revoke inner rest within ih =>
    unfold Registry.react
    split
    · exact (((tells_beginRevoke registry).hush (within _)).hush (tells_endRevoke _)).hush (ih _)
    · exact ih registry
  | refresh scope inner rest within ih =>
    unfold Registry.react
    split
    · exact (((tells_beginRevoke registry).hush (within _)).hush (tells_endRevoke _)).hush (ih _)
    · exact ih registry

/-- `revoke`. -/
theorem tells_revoke (registry : Registry) (reaction : Reaction) :
    Tells index 0 [] registry (registry.revoke reaction) := by
  unfold Registry.revoke
  split
  · exact ((tells_beginRevoke registry).hush (tells_react _ reaction)).hush (tells_endRevoke _)
  · exact .refl index registry

/-- `refresh`. -/
theorem tells_refresh (registry : Registry) (scope : Phase) (reaction : Reaction) :
    Tells index 0 [] registry (registry.refresh scope reaction) := by
  unfold Registry.refresh
  split
  · exact tells_revoke registry reaction
  · exact .refl index registry

/-- `close`. -/
theorem tells_close (registry : Registry) (left : Nat) (controller : Event → Reaction) :
    Tells index 0 [] registry (registry.close left controller) := by
  unfold Registry.close
  split
  · exact .refl index registry
  · have first : Tells index 0 [] registry (if registry.current = some left && registry.active then
        registry.revoke (controller .revoked) else registry) := by
      split
      · exact tells_revoke registry _
      · exact .refl index registry
    dsimp only
    revert first
    generalize (if registry.current = some left && registry.active then
      registry.revoke (controller .revoked) else registry) = middle
    intro first
    have second := first.hush (tells_shut middle left)
    split
    · exact (second.hush (tells_notice _ (.event left .lost) rfl rfl)).hush (tells_react _ _)
    · exact second

/-- A link is answered once at most, and no other link is. -/
def Answers (index link accepted : Nat) (before after : Registry) : Prop :=
  ∃ replies, Tells index accepted replies before after ∧ replies.length ≤ 1 ∧
    (link ≠ index → replies = [])

/-- Silence. -/
theorem Tells.answers (tells : Tells index accepted [] before after) (link : Nat) :
    Answers index link accepted before after := ⟨[], tells, Nat.zero_le 1, fun _ => rfl⟩

/-- Silence after an answer. -/
theorem Answers.hush {link : Nat} {middle : Registry}
    (first : Answers index link accepted before middle) (second : Tells index 0 [] middle after) : Answers index link accepted before after := by
  obtain ⟨replies, tells, few, other⟩ := first
  exact ⟨replies, tells.hush second, few, other⟩

/-- Silence, or a message, before an answer. -/
theorem Tells.then_ {link : Nat} {middle : Registry} (first : Tells index accepted [] before middle)
    (second : Answers index link 0 middle after) : Answers index link accepted before after := by
  obtain ⟨replies, tells, few, other⟩ := second
  exact ⟨replies, first.trans tells, few, other⟩

/-- `reply`. -/
theorem answers_reply (registry : Registry) (link : Nat) (status : UInt64) :
    Answers index link 0 registry (registry.reply link status) := by
  by_cases same : link = index
  · refine ⟨[(status,
        if status = 0 then (registry.link link).lease.map Lease.generation else none)],
      ⟨?_, ?_, id, id⟩, Nat.le_refl 1, fun other => absurd same other⟩
    · show (List.filterMap _ (_ :: registry.trace)).reverse = _
      rw [List.filterMap_cons_some (by rw [Notice.reply, if_pos same]), List.reverse_cons]
      rfl
    · show List.countP _ (_ :: registry.trace) = _
      rw [List.countP_cons_of_neg (by simp [Notice.accepts])]
      rfl
  · exact (tells_notice registry (.replied link status _) (if_neg same) rfl).answers link

/-- A lease is given. -/
theorem answers_grant (registry : Registry) (link : Nat) (lease : Lease)
    (controller : Event → Reaction) :
    Answers index link 0 registry (registry.grant link lease controller) := by
  have given : Tells index 0 [] registry ({ registry.setLink link fun link =>
      { link with lease := some lease } with current := some link }.notice
        (.granted link lease.generation)) := by
    have set : Tells index 0 [] registry
        (registry.setLink link fun link => { link with lease := some lease }) :=
      tells_setLink registry link _ fun _ shut => shut
    have current : Tells index 0 [] registry { registry.setLink link fun link =>
        { link with lease := some lease } with current := some link } := { set with }
    exact current.hush (tells_notice _ _ rfl rfl)
  have replied := given.then_ (answers_reply _ link 0)
  unfold grant
  dsimp only
  split
  · exact (replied.hush (tells_notice _ _ rfl rfl)).hush (tells_react _ _)
  · exact replied

/-- Operation 1. -/
theorem answers_register (registry : Registry) (link : Nat) (message : Message) (peer : Peer)
    (scope : Phase) (random : Option UInt64) (controller : Event → Reaction) :
    Answers index link 0 registry
      (registry.register link message peer scope random controller) := by
  have closes : Answers index link 0 registry (registry.close link controller) :=
    (tells_close registry link controller).answers link
  unfold Registry.register
  split
  · exact closes
  · split
    · exact closes
    · split
      · exact closes
      · split
        · exact answers_reply registry link 1
        · split
          · exact closes
          · split
            · exact closes
            · exact answers_grant registry link _ controller

/-- Operations 2 and 3. -/
theorem answers_operate (registry : Registry) (link : Nat) (operation : UInt64) (scope : Phase)
    (controller : Event → Reaction) :
    Answers index link 0 registry (registry.operate link operation scope controller) := by
  unfold operate
  split
  · exact (tells_refresh registry scope _).then_ (answers_reply _ link _)
  · split
    · have revoked : Tells index 0 [] registry (registry.revoke (controller .revoked)) :=
        tells_revoke registry _
      have retired := revoked.hush
        (tells_setLink _ link (fun link => { link with retired := true }) fun _ shut => shut)
      exact ((retired.then_ (answers_reply _ link 2)).hush
        (tells_notice _ (.event link .retired) rfl rfl)).hush (tells_react _ _)
    · exact (tells_close registry link controller).answers link

/-- Operation 5. -/
theorem tells_certify (registry : Registry) (link : Nat) (message : Message) (peer : Peer)
    (scope : Phase) (issuer : Bool) (now : UInt64) (controller : Event → Reaction) :
    Tells index 0 [] registry
      (registry.certify link message peer scope issuer now controller) := by
  unfold certify
  split
  · exact tells_close registry link controller
  · have set : Tells index 0 [] registry (registry.setLink link fun link =>
        { link with identityRequested := true, identityDeadline := now + identityLinkTime }) :=
      tells_setLink registry link _ fun _ shut => shut
    exact { set with }

/-- A message is accepted. -/
theorem tells_accepted (index : Nat) (registry : Registry) (link : Nat)
    (operation generation sequence : UInt64) :
    Tells index (if link = index then 1 else 0) [] registry
      ((registry.setLink link fun link => { link with sequence }).notice
        (.accepted link operation generation sequence)) := by
  have set : Tells index 0 [] registry (registry.setLink link fun link => { link with sequence }) :=
    tells_setLink registry link _ fun _ shut => shut
  by_cases same : link = index
  · rw [if_pos same]
    have noticed : Tells index 1 [] (registry.setLink link fun link => { link with sequence })
        ((registry.setLink link fun link => { link with sequence }).notice
          (.accepted link operation generation sequence)) := {
      replies := by
        show (List.filterMap _ (_ :: registry.trace)).reverse = _
        rw [List.filterMap_cons_none rfl, List.append_nil]
        rfl
      accepted := by
        show List.countP _ (_ :: registry.trace) = _
        rw [List.countP_cons_of_pos (by simp [Notice.accepts, same])]
        rfl
      closed := id
      stopped := id }
    simpa using set.trans noticed
  · rw [if_neg same]
    exact set.hush (tells_notice _ _ rfl (by simp [Notice.accepts, same]))

/-- A message of another link. -/
theorem tells_receive (registry : Registry) {link : Nat} (other : link ≠ index) (message : Message)
    (peer : Peer) (scope : Phase) (random : Option UInt64) (issuer : Bool) (now : UInt64)
    (controller : Event → Reaction) :
    Tells index 0 [] registry
      (registry.receive link message peer scope random issuer now controller) := by
  have silent {middle after : Registry} (answers : Answers index link 0 middle after) :
      Tells index 0 [] middle after := by
    obtain ⟨replies, tells, _, none⟩ := answers
    rw [none other] at tells
    exact tells
  have closes : Tells index 0 [] registry (registry.close link controller) :=
    tells_close registry link controller
  unfold Registry.receive
  split
  · exact .refl index registry
  · split
    · exact closes
    · split
      · exact closes
      · next operation _ =>
        split
        · exact tells_certify registry link message peer scope issuer now controller
        · split
          · exact silent (answers_register registry link message peer scope random controller)
          · split
            · exact closes
            · next generation sequence _ =>
              have accepted := tells_accepted index registry link operation generation sequence
              rw [if_neg other] at accepted
              exact accepted.hush (silent (answers_operate _ link operation scope controller))

/-- An error of a connection. -/
theorem tells_error (registry : Registry) (link : Nat) {message : Message}
    (error : message.dictionary = false) (peer : Peer) (scope : Phase) (random : Option UInt64)
    (issuer : Bool) (now : UInt64) (controller : Event → Reaction) :
    Tells index 0 [] registry
      (registry.receive link message peer scope random issuer now controller) := by
  unfold Registry.receive
  split
  · exact .refl index registry
  · rw [if_pos (by rw [error]; simp)]
    exact tells_close registry link controller

/-- A new link. -/
theorem tells_accept (registry : Registry) (required : Bool) (now : UInt64) :
    Tells index 0 [] registry (registry.accept required now) := by
  unfold accept
  split
  · exact .refl index registry
  · exact tells_same rfl (fun shut => by rw [link_append]; exact shut) id

/-- One link after another. -/
theorem tells_fold (registry : Registry) (links : List Nat) (visit : Registry → Nat → Registry)
    (silent : ∀ registry link, Tells index 0 [] registry (visit registry link)) :
    Tells index 0 [] registry (links.foldl visit registry) := by
  induction links generalizing registry with
  | nil => exact .refl index registry
  | cons link rest ih => exact (silent registry link).hush (ih _)

/-- The end of an issuance. -/
theorem tells_issued (registry : Registry) (link : Nat) (valid : Bool) (scope : Phase)
    (now : UInt64) (controller : Event → Reaction) :
    Tells index 0 [] registry (registry.issued link valid scope now controller) := by
  have idle : Tells index 0 [] registry { registry with issuing := false } := tells_same rfl id id
  unfold issued
  dsimp only
  split
  · exact idle
  · split
    · exact idle.hush (tells_close _ link controller)
    · exact idle

/-- The watch. -/
theorem tells_watch (registry : Registry) (scope : Phase) (now : UInt64)
    (controller : Event → Reaction) :
    Tells index 0 [] registry (registry.watch scope now controller) := by
  refine (tells_refresh registry scope (controller .revoked)).hush (tells_fold _ _ _ ?_)
  intro registry link
  split
  · exact tells_close registry link controller
  · exact .refl index registry

/-- `stop`. -/
theorem tells_stop (registry : Registry) (controller : Event → Reaction) :
    Tells index 0 [] registry (registry.stop controller) := by
  have stopped : Tells index 0 [] registry { registry with stopped := true } :=
    tells_same rfl id fun _ => rfl
  unfold Registry.stop
  split
  · exact .refl index registry
  · exact (stopped.hush (tells_revoke _ _)).hush
      (tells_fold _ _ _ fun registry link => tells_close registry link controller)

/-- The links after one was left. -/
theorem link_shut {left : Nat} (inside : left < registry.table.length) :
    ((registry.shut left).link left).closed = true :=
  congrArg Link.closed (link_setLink_same inside fun link => { link with closed := true })

/-- A link that is closed is closed. -/
theorem Kept.close_closed (kept : Kept registry) {left : Nat}
    (inside : left < registry.table.length) (controller : Event → Reaction) :
    ((registry.close left controller).link left).closed = true := by
  unfold Registry.close
  split
  · next shut => exact shut
  · have first : left < (if registry.current = some left && registry.active then
        registry.revoke (controller .revoked) else registry).table.length := by
      split
      · exact Nat.lt_of_lt_of_le inside (kept.revoke _).2.1.table
      · exact inside
    dsimp only
    revert first
    generalize (if registry.current = some left && registry.active then
      registry.revoke (controller .revoked) else registry) = middle
    intro first
    have shut : ((middle.shut left).link left).closed = true := link_shut first
    split
    · have told : Tells left 0 [] (middle.shut left)
          (((middle.shut left).notice (.event left .lost)).react (controller .lost)) :=
        (tells_notice _ (.event left .lost) rfl rfl).hush (tells_react _ _)
      exact told.closed shut
    · exact shut

/-- A request of the agent: unless its link is closed or the registry is stopped, it is accepted
if it is numbered. -/
theorem Kept.takes (kept : Kept registry) (inside : index < registry.table.length)
    (request : Request) (phase : Phase) (peer : Peer) (scope : Phase) (random : Option UInt64)
    (issuer : Bool) (now : UInt64) (controller : Event → Reaction) :
    ∃ accepted, Answers index index accepted registry (registry.receive index
        (request.message phase) peer scope random issuer now controller) ∧
      (accepted = (if request.operation = .register then 0 else 1) ∨
        ((registry.receive index (request.message phase) peer scope random issuer now
          controller).link index).closed = true ∨
        (registry.receive index (request.message phase) peer scope random issuer now
          controller).stopped = true) := by
  have closes : Tells index 0 [] registry (registry.close index controller) :=
    tells_close registry index controller
  have closed := kept.close_closed inside controller
  obtain ⟨operation, asks, word⟩ : ∃ operation, (request.message phase).operation = some operation ∧
      operation = request.operation.word :=
    ⟨_, by cases request; rename_i kind _ _ _; cases kind <;> rfl, rfl⟩
  unfold Registry.receive
  split
  · next over_ =>
    refine ⟨0, (Tells.refl index registry).answers index, .inr ?_⟩
    exact Bool.or_eq_true_iff.mp over_
  · split
    · exact ⟨0, closes.answers index, .inr (.inl closed)⟩
    · rw [asks]
      dsimp only
      split
      · next five =>
        subst word
        cases kind : request.operation <;> rw [kind] at five <;> exact absurd five (by decide)
      · split
        · next one =>
          refine ⟨0, answers_register registry index _ peer scope random controller, .inl ?_⟩
          cases kind : request.operation with
          | register => rfl
          | renew =>
            rw [word, kind] at one
            exact absurd one (by decide)
          | retire =>
            rw [word, kind] at one
            exact absurd one (by decide)
        · next other =>
          have numbered : request.operation ≠ .register := by
            intro register
            rw [word, register] at other
            exact other rfl
          rw [if_neg numbered]
          split
          · exact ⟨0, closes.answers index, .inr (.inl closed)⟩
          · next generation sequence _ =>
            have accepted := tells_accepted index registry index operation generation sequence
            rw [if_pos rfl] at accepted
            exact ⟨1, accepted.then_ (answers_operate _ index operation scope controller), .inl rfl⟩

end Registry

end Plank.Agent
