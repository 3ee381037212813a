import Plank.Agent.RegistryLease

/-!
# The machine service

`machine` of `host-main.m`: the registry with the watch of one process. A lease is not given back
when its agent says that it retires, but when the kernel has seen its process exit, so that display,
capture and input of one agent are gone before another has the lease. The desktop start is told of
each exit of a desktop agent, and the device brokers ask whether a peer is the current one.
-/

namespace Plank.Agent

/-- What happens on the queue of the registry, without what the service does about it. -/
inductive MachineCall where
  /-- A peer connects. -/
  | accept (required : Bool) (now : UInt64)
  /-- A link has a message, or its connection an error. -/
  | receive (index : Nat) (message : Message) (peer : Peer) (scope : Phase)
    (random : Option UInt64) (now : UInt64)
  /-- An issuance ends. -/
  | issued (index : Nat) (valid : Bool) (scope : Phase) (now : UInt64)
  /-- The watch of the registry fires. -/
  | watch (scope : Phase) (now : UInt64)
  /-- A broker asks, and the registry looks at the scope. -/
  | refresh (scope : Phase)
  /-- A signal stops the service. -/
  | stop
  deriving DecidableEq, Repr

/-- The block that the registry calls; whether `dispatch_source_create` makes a source. -/
def machineController (created : Bool) : Event → Reaction
  | .attached => if created then .quiet else .revoke .quiet .quiet
  | .revoked | .retired | .lost => .quiet

/-- The block of the registry. -/
def MachineCall.action (created : Bool) : MachineCall → Action
  | .accept required now => .accept required now
  | .receive index message peer scope random now =>
    .receive index message peer scope random true now (machineController created)
  | .issued index valid scope now => .issued index valid scope now (machineController created)
  | .watch scope now => .watch scope now (machineController created)
  | .refresh scope => .refresh scope .quiet
  | .stop => .stop (machineController created)

/-- The variables of `machine`. -/
structure Machine where
  /-- `registry`. -/
  registry : Registry := {}
  /-- `exitWatch`: the link whose process it watches. -/
  exitWatch : Option Nat := none
  /-- The links whose process has exited. -/
  exited : List Nat := []
  /-- What `desktopStart` was told: user and audit session, newest first. -/
  told : List (UInt32 × UInt32) := []
  deriving DecidableEq, Repr

/-- What happens next on the main queue, or in the kernel. -/
inductive MachineLabel where
  /-- A block of the registry; whether a source can be made in it. -/
  | call (call : MachineCall) (created : Bool)
  /-- The process of a link exits. -/
  | exits (index : Nat)
  /-- The handler of `exitWatch`. -/
  | watched
  deriving DecidableEq, Repr

/-- The link of which `PLANKMacAgentAttached` was told between two registries: the current one,
where its lease is new. -/
def attachedBetween (before after : Registry) : Option Nat :=
  after.current.filter fun index => (before.link index).lease.isNone

/-- The session of a desktop lease. -/
def Lease.desktopSession (lease : Lease) : Option (UInt32 × UInt32) :=
  if lease.phase = .desktop then some (lease.peer.uid, lease.peer.auditSession) else none

namespace Machine

/-- The handler of `exitWatch`. -/
def watched (machine : Machine) (index : Nat) : Machine :=
  let revoked := machine.registry.revoke .quiet
  let registry := revoked.completeRetirement index
  let removed : Bool := revoked.current = some index && registry.current.isNone
  let session := (revoked.link index).lease.bind Lease.desktopSession
  { machine with
    registry, exitWatch := none
    told := if removed then session.toList ++ machine.told else machine.told }

end Machine

/-- The machine service, in every interleaving. -/
def machineSystem : Transition.System Machine MachineLabel where
  initial machine := machine = {}
  step machine
    | .call call created => (machine.registry.step (call.action created)).map fun registry =>
      { machine with
        registry
        exitWatch := match attachedBetween machine.registry registry with
          | some index => if created then some index else none
          | none => machine.exitWatch }
    | .exits index =>
      if index < machine.registry.table.length then
        some { machine with exited := index :: machine.exited }
      else none
    | .watched =>
      match machine.exitWatch with
      | some index => if index ∈ machine.exited then some (machine.watched index) else none
      | none => none

/-- `admitsDesktopPeer`, behind its look at the scope. -/
def Registry.admitsDesktopPeer (registry : Registry) (peer : Peer) (generation : UInt64) : Bool :=
  !registry.stopped && registry.lease.any fun lease =>
    lease.active && lease.phase = .desktop && generation ≠ 0 && lease.generation = generation &&
      peer.uid ≠ 0 && lease.peer = peer

/-! ### The law -/

/-- The completion that a notice is. -/
def Notice.completes : Notice → Option Nat
  | .completed index _ => some index
  | _ => none

/-- The links that were completed, newest first. -/
def Registry.completions (registry : Registry) : List Nat :=
  registry.trace.filterMap Notice.completes

/-- What holds of the service after anything. -/
structure MachineLaw (machine : Machine) : Prop where
  /-- The process of every agent that had the lease has exited, but for the current one. -/
  alone : ∀ index generation, .granted index generation ∈ machine.registry.trace →
    machine.registry.current = some index ∨ index ∈ machine.exited
  /-- The process of the current agent is watched, or its lease is revoked for good. -/
  watches : ∀ index, machine.registry.current = some index →
    machine.exitWatch = some index ∨ machine.registry.active = false
  /-- Its exit frees the lease. -/
  frees : ∀ index, machine.exitWatch = some index → index ∈ machine.exited → ∃ after,
    machineSystem.step machine .watched = some after ∧ after.registry.current = none
  /-- The desktop start is told of the desktop agents whose lease was given back, of each once. -/
  told : machine.told = machine.registry.completions.filterMap fun index =>
    (machine.registry.link index).lease.bind Lease.desktopSession
  /-- No lease is given back twice. -/
  once : machine.registry.completions.Nodup
  /-- A broker admits the current agent alone, under its generation. -/
  admits : ∀ peer generation, machine.registry.admitsDesktopPeer peer generation = true →
    ∃ index lease, machine.exitWatch = some index ∧
      (machine.registry.link index).lease = some lease ∧
      lease = ⟨peer, .desktop, generation, true⟩ ∧
      ∀ other given, .granted other given ∈ machine.registry.trace → other ≠ index →
        other ∈ machine.exited

/-! ### What the registry keeps while the service does not complete a lease -/

namespace Registry

variable {registry before after : Registry}

/-- No lease is given, or given back. -/
structure Holds (before after : Registry) : Prop where
  /-- None is given back. -/
  completions : after.completions = before.completions
  /-- The agent stays the current one. -/
  current : after.current = before.current

/-- A lease is given, and revoked where no source can be made. -/
structure Grants (created : Bool) (before after : Registry) : Prop where
  /-- None is given back. -/
  completions : after.completions = before.completions
  /-- The slot was free. -/
  free : before.current = none
  /-- It is revoked. -/
  revoked : created = false → after.active = false

/-- Nothing happens. -/
theorem Holds.refl (registry : Registry) : Holds registry registry := ⟨rfl, rfl⟩

/-- One after the other. -/
theorem Holds.trans {middle : Registry} (first : Holds before middle)
    (second : Holds middle after) : Holds before after :=
  ⟨second.completions.trans first.completions, second.current.trans first.current⟩

/-- A change that neither tells nor moves anything. -/
theorem Holds.same (trace : after.trace = before.trace) (current : after.current = before.current) :
    Holds before after := ⟨by unfold Registry.completions; rw [trace], current⟩

/-- One more notice, of something else. -/
theorem Holds.notice {seen : Notice} (other : seen.completes = none)
    (trace : after.trace = seen :: before.trace) (current : after.current = before.current) :
    Holds before after := by
  refine ⟨?_, current⟩
  unfold Registry.completions
  rw [trace]
  exact List.filterMap_cons_none other

/-- A reaction that completes nothing. -/
theorem Holds.revoked (registry : Registry) :
    Holds registry (registry.beginRevoke.react .quiet).endRevoke := by
  have begun : Holds registry registry.beginRevoke := by
    unfold Registry.beginRevoke
    split
    · exact .refl registry
    · exact .notice rfl rfl rfl
  apply begun.trans
  unfold Registry.endRevoke Registry.react
  split
  · exact .refl _
  · split
    · exact .refl _
    · split
      · exact .refl _
      · exact .notice rfl rfl rfl

/-- `revoke`. -/
theorem Holds.revoke (registry : Registry) : Holds registry (registry.revoke .quiet) := by
  unfold Registry.revoke
  split
  · exact .revoked registry
  · exact .refl registry

/-- `refresh`. -/
theorem Holds.refresh (registry : Registry) (scope : Phase) :
    Holds registry (registry.refresh scope .quiet) := by
  unfold Registry.refresh
  split
  · exact .revoke registry
  · exact .refl registry

variable (created : Bool)

/-- `close`. -/
theorem Holds.close (registry : Registry) (index : Nat) :
    Holds registry (registry.close index (machineController created)) := by
  unfold Registry.close
  split
  · exact .refl registry
  · have revoked : Holds registry (if registry.current = some index && registry.active then
        registry.revoke .quiet else registry) := by
      split
      · exact .revoke registry
      · exact .refl registry
    have shuts : ∀ middle : Registry, Holds middle
        (if (middle.shut index).current = some index && !((middle.shut index).link index).retired then
          (middle.shut index).notice (.event index .lost) else middle.shut index) := by
      intro middle
      split
      · exact .notice rfl rfl rfl
      · exact .same rfl rfl
    exact revoked.trans (shuts _)

/-- Links are closed one after another. -/
theorem Holds.fold (registry : Registry) (links : List Nat) (closes : Registry → Nat → Bool) :
    Holds registry (links.foldl (fun registry index =>
      if closes registry index then registry.close index (machineController created)
      else registry) registry) := by
  refine List.foldlRecOn links _ (.refl registry) fun middle holds index _ => ?_
  split
  · exact holds.trans (.close created middle index)
  · exact holds

/-- A lease is given. -/
theorem Kept.grants (kept : Kept registry) {index : Nat} (inside : index < registry.table.length)
    (free : registry.current = none) (bare : (registry.link index).lease = none)
    (opened : (registry.link index).closed = false) {lease : Lease} (on : lease.active = true)
    (positive : lease.generation ≠ 0) :
    Grants created registry (registry.grant index lease (machineController created)) := by
  have given := (kept.grant inside free bare opened on positive fun _ => .quiet).1
  have quiet : (registry.grant index lease fun _ => .quiet).completions = registry.completions := by
    unfold Registry.grant
    dsimp only
    split <;> rfl
  cases created with
  | true => exact ⟨quiet, free, nofun⟩
  | false =>
    have same : registry.grant index lease (machineController false) =
        (registry.grant index lease fun _ => .quiet).revoke .quiet := by
      have active : ((registry.setLink index fun link => { link with lease := some lease }).link
          index).lease.any Lease.active = true := by
        rw [link_setLink_same inside]
        exact on
      exact (if_pos active).trans (congrArg (Registry.revoke · .quiet) (if_pos active).symm)
    rw [same]
    exact ⟨(Holds.revoke _).completions.trans quiet, free, fun _ => (given.revoke .quiet).2.2⟩

/-- Operation 1. -/
theorem Kept.registers (kept : Kept registry) {index : Nat}
    (inside : index < registry.table.length) (opened : (registry.link index).closed = false)
    (message : Message) (peer : Peer) (scope : Phase) (random : Option UInt64) :
    Holds registry
        (registry.register index message peer scope random (machineController created)) ∨
      Grants created registry
        (registry.register index message peer scope random (machineController created)) := by
  have closes := Holds.close created registry index
  unfold Registry.register
  split
  · exact .inl closes
  · next fresh =>
    have bare : (registry.link index).lease = none := by
      simp only [Bool.or_eq_true, not_or, Option.not_isSome_iff_eq_none] at fresh
      exact fresh.1
    split
    · exact .inl closes
    · split
      · exact .inl closes
      · split
        · exact .inl (.notice rfl rfl rfl)
        · next free =>
          split
          · exact .inl closes
          · split
            · exact .inl closes
            · next positive =>
              exact .inr (kept.grants created inside (Option.not_isSome_iff_eq_none.mp free) bare
                opened rfl positive)

/-- Operations 2 and 3, and any other. -/
theorem Holds.operate (registry : Registry) (index : Nat) (operation : UInt64) (scope : Phase) :
    Holds registry (registry.operate index operation scope (machineController created)) := by
  unfold Registry.operate
  split
  · exact (Holds.refresh registry scope).trans (.notice rfl rfl rfl)
  · split
    · have replied : Holds (registry.revoke .quiet) (((registry.revoke .quiet).setLink index
          fun link => { link with retired := true }).reply index 2) := .notice rfl rfl rfl
      exact ((Holds.revoke registry).trans replied).trans (.notice rfl rfl rfl)
    · exact .close created registry index

/-- `receive`. -/
theorem Kept.receives (kept : Kept registry) {index : Nat} (inside : index < registry.table.length)
    (message : Message) (peer : Peer) (scope : Phase) (random : Option UInt64) (now : UInt64) :
    Holds registry
        (registry.receive index message peer scope random true now (machineController created)) ∨
      Grants created registry
        (registry.receive index message peer scope random true now (machineController created)) := by
  have closes := Holds.close created registry index
  unfold Registry.receive
  split
  · exact .inl (.refl registry)
  · next live =>
    split
    · exact .inl closes
    · split
      · exact .inl closes
      · next operation _ =>
        split
        · unfold Registry.certify
          split
          · exact .inl closes
          · exact .inl (.same rfl rfl)
        · split
          · have opened : (registry.link index).closed = false := by
              simp only [Bool.or_eq_true, not_or, Bool.not_eq_true] at live
              exact live.1
            exact kept.registers created inside opened message peer scope random
          · split
            · exact .inl closes
            · next generation sequence _ =>
              have accepted : Holds registry ((registry.setLink index fun link =>
                  { link with sequence }).notice (.accepted index operation generation sequence)) :=
                .notice rfl rfl rfl
              exact .inl (accepted.trans (.operate created _ index operation scope))

/-- Every block. -/
theorem Kept.steps (kept : Kept registry) {call : MachineCall}
    (stepped : registry.step (call.action created) = some after) :
    Holds registry after ∨ Grants created registry after := by
  cases call with
  | accept required now =>
    cases stepped
    unfold Registry.accept
    split
    · exact .inl (.refl registry)
    · exact .inl (.same rfl rfl)
  | receive index message peer scope random now =>
    obtain ⟨inside, same⟩ := Option.ite_none_right_eq_some.mp stepped
    cases same
    exact kept.receives created inside message peer scope random now
  | issued index valid scope now =>
    obtain ⟨-, same⟩ := Option.ite_none_right_eq_some.mp stepped
    cases same
    have idle : Holds registry { registry with issuing := false } := .same rfl rfl
    unfold Registry.issued
    dsimp only
    split
    · exact .inl idle
    · split
      · exact .inl (idle.trans (.close created _ index))
      · exact .inl idle
  | watch scope now =>
    obtain ⟨-, same⟩ := Option.ite_none_left_eq_some.mp stepped
    cases same
    exact .inl ((Holds.refresh registry scope).trans
      (.fold created _ _ fun registry index => registry.stale now index))
  | refresh scope =>
    cases stepped
    exact .inl (.refresh registry scope)
  | stop =>
    cases stepped
    unfold Registry.stop
    split
    · exact .inl (.refl registry)
    · have stopped : Holds registry { registry with stopped := true } := .same rfl rfl
      refine .inl ((stopped.trans (.revoke _)).trans ?_)
      exact (Holds.fold created _ _ fun _ _ => true :)

end Registry

/-! ### The service -/

namespace Machine

variable {machine after : Machine}

/-- What every step of the service keeps. -/
structure Kept (machine : Machine) : Prop where
  /-- The registry is kept. -/
  registry : machine.registry.Kept
  /-- The process of an agent whose lease was given back has exited. -/
  freed : ∀ index ∈ machine.registry.completions, index ∈ machine.exited
  /-- The process of the current agent is watched, and of no other. -/
  only : ∀ index, machine.exitWatch = some index → machine.registry.current = some index
  /-- Or its lease is revoked for good. -/
  watches : ∀ index, machine.registry.current = some index →
    machine.exitWatch = some index ∨ machine.registry.active = false
  /-- The desktop start was told. -/
  told : machine.told = machine.registry.completions.filterMap fun index =>
    (machine.registry.link index).lease.bind Lease.desktopSession

/-- What a completion comes after. -/
theorem completed {registry : Registry} (kept : registry.Kept) {index : Nat}
    (member : index ∈ registry.completions) :
    registry.current ≠ some index ∧ .event index .attached ∈ registry.trace := by
  obtain ⟨notice, seen, completes⟩ := List.mem_filterMap.mp member
  cases notice with
  | completed other ended =>
    obtain rfl := Option.some.inj completes
    obtain ⟨_, ⟨revoked, _⟩, past⟩ := kept.lawful.mem seen
    obtain ⟨_, ⟨attached, _⟩, before⟩ := kept.lawful.mem (past _ revoked)
    exact ⟨fun current => (kept.sound other).once current ended seen, before _ attached⟩
  | _ => exact absurd completes nofun

/-- An agent that was attached is the current one, or its lease was given back. -/
theorem attached {registry : Registry} (kept : registry.Kept) {index : Nat}
    (told : .event index .attached ∈ registry.trace) :
    ∃ lease, (registry.link index).lease = some lease ∧
      (registry.current = some index ∨ index ∈ registry.completions) := by
  cases held : (registry.link index).lease with
  | none => exact absurd told (((kept.sound index).untold held).2.2 _)
  | some lease =>
    refine ⟨lease, rfl, ((kept.sound index).held lease held).2.imp_right ?_⟩
    exact fun ⟨ended, seen⟩ => List.mem_filterMap.mpr ⟨_, seen, rfl⟩

/-- No lease is given back twice. -/
theorem completions_nodup {trace : List Notice} (lawful : Trace.Each Law trace) :
    (trace.filterMap Notice.completes).Nodup := by
  induction trace with
  | nil => exact List.nodup_nil
  | cons notice rest ih =>
    cases notice with
    | completed index ended =>
      refine List.nodup_cons.mpr ⟨fun member => ?_, ih lawful.tail⟩
      obtain ⟨other, seen, completes⟩ := List.mem_filterMap.mp member
      cases other with
      | completed same earlier =>
        obtain rfl := Option.some.inj completes
        exact lawful.head.2.1 earlier seen
      | _ => exact absurd completes nofun
    | _ => exact ih lawful.tail

/-- The sessions of the agents whose lease was given back stay. -/
theorem sessions {before after : Registry} (kept : before.Kept) (follows : before.Follows after) :
    before.completions.filterMap (fun index => (after.link index).lease.bind Lease.desktopSession) =
      before.completions.filterMap fun index =>
        (before.link index).lease.bind Lease.desktopSession := by
  refine List.filterMap_congr fun index member => ?_
  obtain ⟨lease, held, -⟩ := attached kept (completed kept member).2
  obtain ⟨active, still, -⟩ := follows.lease index lease held
  rw [held, still]
  rfl

/-- A block of the registry. -/
theorem Kept.call (kept : Kept machine) {registry : Registry} {call : MachineCall} {created : Bool}
    (stepped : machine.registry.step (call.action created) = some registry) :
    Kept { machine with
      registry
      exitWatch := match attachedBetween machine.registry registry with
        | some index => if created then some index else none
        | none => machine.exitWatch } ∧ machine.registry.Follows registry := by
  obtain ⟨stays, follows⟩ := Registry.kept_step kept.registry stepped
  have either := kept.registry.steps created stepped
  have completions : registry.completions = machine.registry.completions :=
    either.elim (·.completions) (·.completions)
  refine ⟨⟨stays, fun index member => kept.freed index (completions ▸ member), ?_, ?_, ?_⟩, follows⟩
  · intro index watched
    dsimp only at watched
    split at watched
    · next other found =>
      split at watched
      · obtain rfl := Option.some.inj watched
        exact (Option.filter_eq_some_iff.mp found).1
      · exact absurd watched nofun
    · have current := kept.only index watched
      rcases either with holds | grants
      · exact holds.current.trans current
      · exact absurd (grants.free.symm.trans current) nofun
  · intro index current
    dsimp only
    cases found : attachedBetween machine.registry registry with
    | none =>
      have old := Option.filter_eq_none_iff.mp found index current
      obtain ⟨lease, had⟩ := Option.ne_none_iff_exists'.mp (by simpa using old)
      have told := ((kept.registry.sound index).given lease had).2
      obtain ⟨_, _, before | member⟩ := attached kept.registry told
      · refine (kept.watches index before).imp_right fun revoked => ?_
        refine Bool.eq_false_iff.mpr fun active => ?_
        obtain ⟨_, lease, same, held, on⟩ := Registry.active_iff.mp active
        obtain rfl := Option.some.inj (current.symm.trans same)
        obtain ⟨old, was⟩ := kept.registry.current_lease before
        obtain ⟨_, still, back⟩ := follows.lease index old was
        obtain rfl := Option.some.inj (held.symm.trans still)
        exact absurd (Registry.active_iff.mpr ⟨index, old, before, was, back on⟩)
          (Bool.eq_false_iff.mp revoked)
      · exact absurd current (completed stays (completions.symm ▸ member)).1
    | some other =>
      obtain ⟨same, fresh⟩ := Option.filter_eq_some_iff.mp found
      obtain rfl := Option.some.inj (current.symm.trans same)
      cases created with
      | true => exact .inl rfl
      | false =>
        rcases either with holds | grants
        · obtain ⟨_, had⟩ := kept.registry.current_lease (holds.current.symm.trans current)
          rw [had] at fresh
          exact absurd fresh nofun
        · exact .inr (grants.revoked rfl)
  · dsimp only
    rw [completions, sessions kept.registry follows]
    exact kept.told

/-- The handler of `exitWatch`. -/
theorem Kept.watched (kept : Kept machine) {index : Nat} (watches : machine.exitWatch = some index)
    (gone : index ∈ machine.exited) :
    Kept (machine.watched index) ∧ machine.registry.Follows (machine.watched index).registry ∧
      (machine.watched index).registry.current = none := by
  obtain ⟨revoked, aside, off⟩ := kept.registry.revoke .quiet
  have holds := Registry.Holds.revoke machine.registry
  have current := holds.current.trans (kept.only index watches)
  obtain ⟨lease, held⟩ := revoked.current_lease current
  obtain ⟨freed, after⟩ := revoked.complete index
  have frees : (machine.registry.revoke .quiet).current = some index &&
      (machine.registry.revoke .quiet).lease.isSome &&
      !(machine.registry.revoke .quiet).active := by
    unfold Registry.lease
    rw [off, current]
    simp [held]
  have slot : ((machine.registry.revoke .quiet).completeRetirement index).current = none := by
    unfold Registry.completeRetirement
    rw [if_pos frees]
    dsimp only
    split <;> rfl
  have more : ((machine.registry.revoke .quiet).completeRetirement index).completions =
      index :: machine.registry.completions := by
    rw [← holds.completions]
    unfold Registry.completeRetirement
    rw [if_pos frees]
    dsimp only
    split <;> rfl
  have follows := aside.toFollows.trans after.toFollows
  refine ⟨⟨freed, ?_, nofun, fun other here => absurd (slot.symm.trans here) nofun, ?_⟩, follows,
    slot⟩
  · intro other member
    rcases List.mem_cons.mp (more ▸ member) with rfl | old
    · exact gone
    · exact kept.freed other old
  · obtain ⟨active, still, -⟩ := after.lease index lease held
    have session : (((machine.registry.revoke .quiet).completeRetirement index).link index).lease.bind
        Lease.desktopSession = lease.desktopSession := by
      rw [still]
      rfl
    have told : (machine.watched index).told = lease.desktopSession.toList ++ machine.told := by
      unfold Machine.watched
      simp [current, slot, held]
    have earlier := sessions kept.registry follows
    show (machine.watched index).told = List.filterMap _
      ((machine.registry.revoke .quiet).completeRetirement index).completions
    rw [more, told, kept.told, ← earlier, List.filterMap_cons]
    simp only [Machine.watched, session]
    cases lease.desktopSession <;> rfl

/-- Every step. -/
theorem Kept.step (kept : Kept machine) {label : MachineLabel}
    (stepped : machineSystem.step machine label = some after) :
    Kept after ∧ machine.registry.Follows after.registry := by
  cases label with
  | call call created =>
    obtain ⟨registry, step, rfl⟩ := Option.map_eq_some_iff.mp stepped
    exact kept.call step
  | exits index =>
    obtain ⟨-, same⟩ := Option.ite_none_right_eq_some.mp stepped
    cases same
    have freed (other : Nat) (member : other ∈ machine.registry.completions) :
        other ∈ index :: machine.exited := List.mem_cons_of_mem _ (kept.freed other member)
    exact ⟨{ kept with freed }, .refl _⟩
  | watched =>
    dsimp only [machineSystem] at stepped
    split at stepped
    · next index watches =>
      obtain ⟨gone, same⟩ := Option.ite_none_right_eq_some.mp stepped
      cases same
      have ⟨stays, follows, _⟩ := kept.watched watches gone
      exact ⟨stays, follows⟩
    · exact absurd stepped nofun

/-- What holds between the steps is lawful. -/
theorem Kept.lawful (kept : Kept machine) : MachineLaw machine where
  alone index generation granted := by
    obtain ⟨lease, held⟩ := kept.registry.leased granted
    have told := ((kept.registry.sound index).given lease held).2
    obtain ⟨_, _, either⟩ := attached kept.registry told
    exact either.imp_right (kept.freed index)
  watches := kept.watches
  frees index watches gone := by
    refine ⟨machine.watched index, ?_, (kept.watched watches gone).2.2⟩
    dsimp only [machineSystem]
    rw [watches]
    exact if_pos gone
  told := kept.told
  once := completions_nodup kept.registry.lawful
  admits peer generation admitted := by
    unfold Registry.admitsDesktopPeer at admitted
    obtain ⟨-, any⟩ := Bool.and_eq_true_iff.mp admitted
    obtain ⟨lease, found, fits⟩ := (Option.any_eq_true _ _).mp any
    obtain ⟨index, current, held⟩ := Option.bind_eq_some_iff.mp found
    simp only [Bool.and_eq_true, decide_eq_true_eq] at fits
    obtain ⟨⟨⟨⟨⟨on, desktop⟩, _⟩, same⟩, _⟩, mine⟩ := fits
    have active := Registry.active_iff.mpr ⟨index, lease, current, held, on⟩
    refine ⟨index, lease, (kept.watches index current).resolve_right ?_, held, ?_, ?_⟩
    · rw [active]
      exact nofun
    · rw [← on, ← same, ← desktop, ← mine]
    · intro other given granted differs
      obtain ⟨old, had⟩ := kept.registry.leased granted
      obtain ⟨_, _, here | freed⟩ :=
        attached kept.registry ((kept.registry.sound other).given old had).2
      · exact absurd (Option.some.inj (here.symm.trans current)) differs
      · exact kept.freed other freed

/-- What holds between the steps holds in every interleaving. -/
theorem reachable_kept (reachable : machineSystem.Reachable machine) : Kept machine :=
  Transition.System.Preserves.reachable (fun _ _ _ kept stepped => (Kept.step kept stepped).1)
    (fun machine initial => by
      obtain rfl : machine = {} := initial
      exact ⟨Registry.reachable_kept ⟨{}, rfl, .refl⟩, nofun, nofun, nofun, rfl⟩) reachable

end Machine

/-- The law holds in every interleaving. -/
theorem reachable_machine {machine : Machine} (reachable : machineSystem.Reachable machine) :
    MachineLaw machine := (Machine.reachable_kept reachable).lawful

/-- A desktop agent has the lease, says that it retires, and keeps another waiting until its process
has exited. -/
def sampleMachine : List MachineLabel :=
  let register : Message := ⟨true, true, 3, some 1, some 1, some 2, none, none, none⟩
  let retire : Message := ⟨true, true, 4, some 1, some 3, none, some 40, some 1, none⟩
  [.call (.accept true 1) true, .call (.accept true 1) true,
    .call (.receive 0 register ⟨501, 100, 7⟩ .desktop (some 40) 2) true,
    .call (.receive 0 retire ⟨501, 100, 7⟩ .desktop none 3) true,
    .call (.receive 1 register ⟨502, 101, 8⟩ .desktop (some 41) 4) true, .exits 0, .watched,
    .call (.receive 1 register ⟨502, 101, 8⟩ .desktop (some 42) 5) true]

/-- The law holds at the end of that run. -/
theorem sample_machine : ∃ machine, machineSystem.Reachable machine ∧
    machine.exitWatch = some 1 ∧ machine.told = [(501, 7)] ∧ MachineLaw machine := by
  obtain ⟨machine, run, ends⟩ := Option.map_eq_some_iff.mp
    (show (machineSystem.run {} sampleMachine).map (fun machine =>
      decide (machine.exitWatch = some 1 ∧ machine.told = [(501, 7)])) = some true from by
        decide +kernel)
  have reachable : machineSystem.Reachable machine := Transition.System.reachable_of_run rfl run
  obtain ⟨watches, told⟩ := of_decide_eq_true ends
  exact ⟨machine, reachable, watches, told, reachable_machine reachable⟩

end Plank.Agent
