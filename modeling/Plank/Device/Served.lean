import Plank.Agent.Machine
import Plank.Device.BrokerRun

/-!
# The device brokers of the machine service

The camera and microphone brokers that `machine` makes run on the queue of the registry, and their
`authorize` block asks the registry whether a peer is the current desktop agent. Each of the two
sides is a run of its own system; together they lend a device to one live process only.
-/

namespace Plank.Device

open Agent (Machine MachineLabel machineSystem)

/-- What the connections and the `authorize` block add to a block of a broker. -/
def Action.served (process : Nat → Agent.Peer) (authorize : Agent.Peer → UInt64 → Bool) :
    Action → Action
  | .connect driver trusted now => .connect driver trusted now
  | .message peer _ fields moment => .message peer (process peer) fields { moment with authorize }
  | .reply ask answer moment => .reply ask answer { moment with authorize }
  | .expire ask moment => .expire ask { moment with authorize }
  | .tick moment => .tick { moment with authorize }
  | .choose done => .choose done
  | .resume moment => .resume { moment with authorize }
  | .stop => .stop

/-- What happens next on the main queue. -/
inductive ServedLabel where
  /-- A step of the service. -/
  | machine (label : MachineLabel)
  /-- A block of the broker; the scope that the registry observes when it is asked. -/
  | broker (scope : Agent.Phase) (action : Action)

/-- The service with one of its brokers. Each connection is one of a process. -/
def servedSystem (kind : Kind) (process : Nat → Agent.Peer) :
    Transition.System (Machine × Broker) ServedLabel where
  initial state := state = ({}, {})
  step state
    | .machine label => (machineSystem.step state.1 label).map (·, state.2)
    | .broker scope action =>
      (machineSystem.step state.1 (.call (.refresh scope) true)).bind fun machine =>
        ((system kind).step state.2
          (action.served process machine.registry.admitsDesktopPeer)).map (machine, ·)

/-- Whether a process was given a desktop lease of this generation. -/
def Holder (machine : Machine) (process : Agent.Peer) (generation : UInt64) (link : Nat) : Prop :=
  ∃ lease, (machine.registry.link link).lease = some lease ∧
    { lease with active := true } = ⟨process, .desktop, generation, true⟩

/-- What holds of the service and a broker after anything. -/
structure ServedLaw (kind : Kind) (process : Nat → Agent.Peer) (state : Machine × Broker) :
    Prop where
  /-- The service is as it can be by itself. -/
  machine : machineSystem.Reachable state.1
  /-- The broker is as it can be by itself. -/
  broker : (system kind).Reachable state.2
  /-- Whoever was lent the device, sent its mapping or renewed had the desktop lease of that
  generation, and is the current agent or has exited. -/
  lent : ∀ index generation, .authorized index generation true ∈ state.2.trace ∨
      (∃ lease memory, .leased index generation lease memory ∈ state.2.trace) →
    ∃ link, Holder state.1 (process index) generation link ∧
      (state.1.registry.current = some link ∨ link ∈ state.1.exited)
  /-- Of two processes that were sent a mapping one has exited. -/
  apart : ∀ one other lease memory otherLease otherMemory, process one ≠ process other →
    .replied one lease (some memory) ∈ state.2.trace →
    .replied other otherLease (some otherMemory) ∈ state.2.trace →
    ∃ link ∈ state.1.exited, ∃ generation, Holder state.1 (process one) generation link ∨
      Holder state.1 (process other) generation link

/-! ### What a broker does under an authority -/

/-- A broker goes on: connections stay those of their processes, and whoever is newly authorized is
so by the block. -/
structure Under (authorize : Agent.Peer → UInt64 → Bool) (before after : Broker) : Prop where
  /-- The processes stay. -/
  identity : ∀ index, (after.peer index).identity = (before.peer index).identity
  /-- The block was asked. -/
  authorized : ∀ index generation, .authorized index generation true ∈ after.trace →
    .authorized index generation true ∈ before.trace ∨
      authorize (before.peer index).identity generation = true

namespace Under

variable {authorize : Agent.Peer → UInt64 → Bool} {before after broker : Broker} {kind : Kind}
  {moment : Moment}

/-- Nothing happens. -/
theorem refl (broker : Broker) : Under authorize broker broker := ⟨fun _ => rfl, fun _ _ => .inl⟩

/-- One after the other. -/
theorem trans {middle : Broker} (first : Under authorize before middle)
    (second : Under authorize middle after) : Under authorize before after where
  identity index := (second.identity index).trans (first.identity index)
  authorized index generation seen := by
    rcases second.authorized index generation seen with old | new
    · exact first.authorized index generation old
    · rw [first.identity index] at new
      exact .inr new

/-- A change that nothing is seen of. -/
theorem quiet (trace : after.trace = before.trace)
    (identity : ∀ index, (after.peer index).identity = (before.peer index).identity) :
    Under authorize before after :=
  ⟨identity, fun _ _ seen => .inl (trace ▸ seen)⟩

/-- A change of which something else is seen. -/
theorem seen {event : Event} (trace : after.trace = event :: before.trace)
    (other : ∀ index generation, event ≠ .authorized index generation true)
    (identity : ∀ index, (after.peer index).identity = (before.peer index).identity) :
    Under authorize before after := by
  refine ⟨identity, fun index generation seen => ?_⟩
  rw [trace] at seen
  exact .inl ((List.mem_cons.mp seen).resolve_left fun same => other index generation same.symm)

/-- A peer changes, but for its process. -/
theorem update {index : Nat} {peer : Peer} (same : peer.identity = (broker.peer index).identity)
    (other : Nat) : (Function.update broker.peer index peer other).identity =
      (broker.peer other).identity := by
  by_cases mine : other = index
  · rw [mine, Function.update_self, same]
  · rw [Function.update_of_ne mine]

/-- The block is asked. -/
theorem consult (index : Nat) (generation : UInt64) :
    Under moment.authorize broker (broker.consult moment index generation) := by
  refine ⟨fun _ => rfl, fun other given seen => ?_⟩
  rcases List.mem_cons.mp seen with same | old
  · obtain ⟨rfl, rfl, yes⟩ := Event.authorized.inj same
    exact .inr yes.symm
  · exact .inl old

/-- The driver is sent a message. -/
theorem send {operation : Operation} {index : Nat} {memory : Option Nat} {sent : Broker}
    (sending : broker.send operation index memory = some sent) : Under authorize broker sent := by
  obtain ⟨driver, -, rfl⟩ := send_eq sending
  exact seen rfl nofun fun _ => rfl

/-- `close`, but for what follows from a lost driver. -/
theorem leave (index : Nat) : Under authorize broker (broker.leave kind index) := by
  have forgets : Under authorize broker (broker.forget kind index) :=
    seen rfl nofun (update rfl)
  unfold Broker.leave
  split
  · exact refl broker
  · dsimp only
    split
    · cases sending : (broker.forget kind index).send .detach index none with
      | none => exact forgets
      | some sent => exact forgets.trans (send sending)
    · exact forgets

/-- `close`. -/
theorem close (index : Nat) : Under authorize broker (broker.close kind index) := by
  have left : Under authorize broker (broker.leave kind index) := leave index
  unfold Broker.close
  dsimp only
  split
  · refine left.trans ?_
    have lost : Under authorize (broker.leave kind index)
        { broker.leave kind index with driver := none } := quiet rfl fun _ => rfl
    split
    · exact lost
    · exact lost.trans (leave _)
  · exact left

/-- The mapping is sent to the producer. -/
theorem grant (index : Nat) : Under authorize broker (broker.grant index) :=
  seen rfl nofun (update rfl)

/-- The block behind a selection. -/
theorem settle (index : Nat) (selected : Bool) :
    Under moment.authorize broker (broker.settle kind moment index selected) := by
  unfold Broker.settle
  dsimp only
  split
  · exact refl broker
  · split
    · exact close index
    · split
      · exact (consult _ _).trans (close index)
      · exact (consult _ _).trans (grant index)

/-- The completion of operation 1. -/
theorem attach (index : Nat) (ok : Bool) :
    Under moment.authorize broker (broker.attach kind moment index ok) := by
  unfold Broker.attach
  dsimp only
  split
  · exact refl broker
  · split
    · exact close index
    · refine (consult index (broker.peer index).generation).trans ?_
      split
      · exact close index
      · split
        · exact quiet rfl (update rfl)
        · exact grant index

/-- The completion of operation 2. -/
theorem renewed (index : Nat) (ok : Bool) :
    Under authorize broker (broker.renewed kind index ok) := by
  have waits : Under authorize broker (broker.setPeer index fun peer =>
      { peer with pending := false }) := quiet rfl (update rfl)
  unfold Broker.renewed
  dsimp only
  split
  · exact waits
  · exact waits.trans (close index)

/-- `finish`. -/
theorem finish (moment : Moment) (id : Nat) (ok : Bool) :
    Under moment.authorize broker (broker.finish kind moment id ok) := by
  unfold Broker.finish
  split
  · exact refl broker
  · next ask _ =>
    split
    · exact refl broker
    · dsimp only
      obtain ⟨middle, same, first⟩ : ∃ middle, (if ok then
          ({ broker with asks := Function.update broker.asks id (some { ask with finished := true })
            } : Broker).note (.accepted ask.operation ask.peer ask.driver)
          else { broker with
            asks := Function.update broker.asks id (some { ask with finished := true }) }) = middle ∧
          Under moment.authorize broker middle := by
        refine ⟨_, rfl, ?_⟩
        split
        · exact seen rfl nofun fun _ => rfl
        · exact quiet rfl fun _ => rfl
      rw [same]
      split
      · exact first.trans (attach _ ok)
      · exact first.trans (renewed _ ok)
      · exact first

/-- A producer is given a lease. -/
theorem lend (index : Nat) (generation : UInt64) (detail : Wire.XpcValue) :
    Under moment.authorize broker (broker.lend kind moment index generation detail) := by
  have registered (lease : UInt64) : Under moment.authorize broker
      (broker.register moment.now index generation lease detail) := seen rfl nofun (update rfl)
  unfold Broker.lend
  generalize (if moment.random = 0 then 1 else moment.random) = lease
  refine (registered lease).trans ?_
  dsimp only
  split
  · next sent sending => exact send sending
  · exact attach index false

/-- The message of a producer. -/
theorem produce (index : Nat) (fields : Wire.XpcFields) :
    Under moment.authorize broker (broker.produce kind moment index fields) := by
  unfold Broker.produce
  split
  · next detail generation _ _ =>
    split
    · exact close index
    · dsimp only
      refine (consult index generation).trans ?_
      split
      · exact close index
      · split
        · unfold Broker.goOn
          dsimp only
          split
          · exact close index
          · exact seen rfl nofun (update rfl)
        · split
          · exact close index
          · exact lend index generation detail
  · exact close index

/-- `receive`. -/
theorem receive (moment : Moment) (index : Nat) (message : Option Wire.XpcFields) :
    Under moment.authorize broker (broker.receive kind moment index message) := by
  unfold Broker.receive
  dsimp only
  split
  · exact refl broker
  · split
    · exact close index
    · split
      · exact close index
      · split
        · split
          · exact close index
          · exact seen rfl nofun (update rfl)
        · exact produce index _

/-- Peers are closed one after another. -/
theorem closing (peers : List Nat) (ends : Broker → Nat → Bool) :
    Under authorize broker (peers.foldl (fun broker index =>
      if ends broker index then broker.close kind index else broker) broker) := by
  refine List.foldlRecOn peers _ (refl broker) fun middle under index _ => ?_
  split
  · exact under.trans (close index)
  · exact under

/-- The timer looks after the producer. -/
theorem watch : Under moment.authorize broker (broker.watch kind moment) := by
  unfold Broker.watch
  split
  · exact refl broker
  · next index _ =>
    dsimp only
    split
    · exact close index
    · refine (consult index (broker.peer index).generation).trans ?_
      split
      · exact close index
      · split
        · exact refl _
        · have pending (broker : Broker) : Under moment.authorize broker
              (broker.setPeer index fun peer => { peer with pending := true }) :=
            quiet rfl (update rfl)
          refine (pending _).trans ?_
          split
          · next sent sending => exact send sending
          · exact renewed index false

/-- The handler of `_watch`. -/
theorem tick (moment : Moment) : Under moment.authorize broker (broker.tick kind moment) := by
  have swept : Under moment.authorize broker (broker.sweep kind moment.now broker.peers) :=
    closing broker.peers fun broker index => !(broker.peer index).registered &&
      moment.now - (broker.peer index).created ≥ Broker.patience
  exact swept.trans watch

/-- `stop`. -/
theorem stop : Under authorize broker (broker.stop kind) := by
  unfold Broker.stop
  split
  · exact refl broker
  · have stopped : Under authorize broker { broker with stopped := true } :=
      quiet rfl fun _ => rfl
    exact stopped.trans (closing _ fun _ _ => true)

/-- A block behind a selection. -/
theorem resume (moment : Moment) : Under moment.authorize broker (broker.resume kind moment) := by
  unfold Broker.resume
  split
  · exact refl broker
  · next index selected rest _ =>
    have popped : Under moment.authorize broker { broker with chosen := rest } :=
      quiet rfl fun _ => rfl
    exact popped.trans (settle index selected)

/-- A block on the queue of the selections. -/
theorem choose (done : Bool) : Under authorize broker (broker.choose done) := by
  unfold Broker.choose
  split
  · exact refl broker
  all_goals
    dsimp only
    split
    · exact seen rfl nofun fun _ => rfl
    · exact quiet rfl fun _ => rfl

end Under

/-! ### The two together -/

/-- What every step of the two keeps. -/
structure ServedKept (process : Nat → Agent.Peer) (state : Machine × Broker) : Prop where
  /-- A connection is one of its process, once it was heard of. -/
  identity : ∀ index, (state.2.peer index).identity = process index ∨
    (state.2.peer index).identity = ⟨0, 0, 0⟩
  /-- Whoever was authorized had the lease. -/
  authorized : ∀ index generation, .authorized index generation true ∈ state.2.trace →
    ∃ link, Holder state.1 (process index) generation link

variable {kind : Kind} {process : Nat → Agent.Peer} {state after : Machine × Broker}

/-- A lease stays one of its process whatever happens to the service. -/
theorem Holder.step {machine next : Machine} (kept : machine.Kept) {label : MachineLabel}
    (stepped : machineSystem.step machine label = some next) {peer : Agent.Peer}
    {generation : UInt64} {link : Nat} (holds : Holder machine peer generation link) :
    Holder next peer generation link := by
  obtain ⟨lease, held, same⟩ := holds
  obtain ⟨active, still, -⟩ := (kept.step stepped).2.lease link lease held
  exact ⟨_, still, same⟩

/-- A step of the service. -/
theorem ServedKept.machine {machine next : Machine} {broker : Broker}
    (kept : ServedKept process (machine, broker)) (reachable : machineSystem.Reachable machine)
    {label : MachineLabel} (stepped : machineSystem.step machine label = some next) :
    ServedKept process (next, broker) := by
  refine ⟨kept.identity, fun index generation seen => ?_⟩
  obtain ⟨link, holds⟩ := kept.authorized index generation seen
  exact ⟨link, holds.step (Machine.reachable_kept reachable) stepped⟩

/-- A block of the broker under the authority of the registry. -/
theorem ServedKept.block {machine : Machine} {broker next : Broker}
    (kept : ServedKept process (machine, broker)) (reachable : machineSystem.Reachable machine)
    (under : Under machine.registry.admitsDesktopPeer broker next) :
    ServedKept process (machine, next) := by
  refine ⟨fun index => ?_, fun index generation seen => ?_⟩
  · rw [under.identity index]
    exact kept.identity index
  · rcases under.authorized index generation seen with old | admitted
    · exact kept.authorized index generation old
    · rcases kept.identity index with mine | unheard
      · rw [mine] at admitted
        obtain ⟨link, lease, -, held, same, -⟩ :=
          (Machine.reachable_kept reachable).lawful.admits _ _ admitted
        exact ⟨link, lease, held, by rw [same]⟩
      · -- A process without a user is never the desktop agent.
        rw [unheard] at admitted
        simp [Agent.Registry.admitsDesktopPeer] at admitted

/-- A connection is made, or heard of. -/
theorem ServedKept.connection {machine : Machine} {broker next : Broker}
    (kept : ServedKept process (machine, broker)) {index : Nat} {peer : Peer}
    (trace : next.trace = broker.trace) (peers : next.peer = Function.update broker.peer index peer)
    (named : peer.identity = process index ∨ peer.identity = ⟨0, 0, 0⟩) :
    ServedKept process (machine, next) := by
  refine ⟨fun other => ?_, fun other generation seen => kept.authorized other generation ?_⟩
  · show (next.peer other).identity = _ ∨ (next.peer other).identity = _
    rw [peers]
    by_cases mine : other = index
    · rw [mine, Function.update_self]
      exact named
    · rw [Function.update_of_ne mine]
      exact kept.identity other
  · exact trace ▸ seen

/-- Every block of a broker. -/
theorem ServedKept.act {machine : Machine} {broker next : Broker}
    (kept : ServedKept process (machine, broker)) (reachable : machineSystem.Reachable machine)
    {action : Action} (stepped : (system kind).step broker
      (action.served process machine.registry.admitsDesktopPeer) = some next) :
    ServedKept process (machine, next) := by
  cases action with
  | connect driver trusted now =>
    cases stepped
    unfold Broker.accept
    split
    · exact kept
    · exact kept.connection rfl rfl (.inr rfl)
  | message index identity fields moment =>
    obtain ⟨-, same⟩ := Option.ite_none_right_eq_some.mp stepped
    cases same
    have named : ServedKept process
        (machine, broker.setPeer index fun peer => { peer with identity := process index }) :=
      kept.connection rfl rfl (.inl rfl)
    exact named.block reachable (Under.receive { moment with authorize := _ } index fields)
  | reply ask answer moment =>
    cases stepped
    exact kept.block reachable (Under.finish { moment with authorize := _ } ask _)
  | expire ask moment =>
    cases stepped
    exact kept.block reachable (Under.finish { moment with authorize := _ } ask false)
  | tick moment =>
    cases stepped
    exact kept.block reachable (Under.tick { moment with authorize := _ })
  | choose done =>
    cases stepped
    exact kept.block reachable (Under.choose done)
  | resume moment =>
    cases stepped
    exact kept.block reachable (Under.resume { moment with authorize := _ })
  | stop =>
    cases stepped
    exact kept.block reachable Under.stop

/-- Both sides of a reachable state are reachable by themselves, and keep what ties them. -/
theorem reachable_sides (reachable : (servedSystem kind process).Reachable state) :
    machineSystem.Reachable state.1 ∧ (system kind).Reachable state.2 ∧
      ServedKept process state := by
  refine Transition.System.Preserves.reachable
    (show (servedSystem kind process).Preserves fun state => machineSystem.Reachable state.1 ∧
      (system kind).Reachable state.2 ∧ ServedKept process state from ?_) ?_ reachable
  · rintro ⟨machine, broker⟩ label after ⟨served, lends, kept⟩ stepped
    cases label with
    | machine label =>
      obtain ⟨next, step, rfl⟩ := Option.map_eq_some_iff.mp stepped
      exact ⟨served.step step, lends, kept.machine served step⟩
    | broker scope action =>
      dsimp only [servedSystem] at stepped
      obtain ⟨next, step, rest⟩ := Option.bind_eq_some_iff.mp stepped
      obtain ⟨lent, block, rfl⟩ := Option.map_eq_some_iff.mp rest
      exact ⟨served.step step, lends.step block, (kept.machine served step).act (served.step step)
        block⟩
  · rintro _ rfl
    exact ⟨⟨{}, rfl, .refl⟩, ⟨{}, rfl, .refl⟩, fun _ => .inr rfl,
      fun _ _ seen => absurd seen List.not_mem_nil⟩

/-- The law holds in every interleaving of the service and a broker. -/
theorem reachable_served (reachable : (servedSystem kind process).Reachable state) :
    ServedLaw kind process state := by
  obtain ⟨served, lends, kept⟩ := reachable_sides reachable
  have machine := Machine.reachable_kept served
  have broker : Kept kind state.2 := (kept_preserved kind).reachable
    (fun _ start => by rw [start]; exact kept_initial kind) lends
  have admitted : ∀ index generation earlier, Admitted earlier index generation →
      (∀ event ∈ earlier, event ∈ state.2.trace) →
      .authorized index generation true ∈ state.2.trace :=
    fun _ _ _ head past => past _ (List.mem_of_mem_head? head)
  have lent : ∀ index generation, .authorized index generation true ∈ state.2.trace →
      ∃ link, Holder state.1 (process index) generation link ∧
        (state.1.registry.current = some link ∨ link ∈ state.1.exited) := by
    intro index generation seen
    obtain ⟨link, lease, held, same⟩ := kept.authorized index generation seen
    obtain ⟨granted, -⟩ := (machine.registry.sound link).given lease held
    exact ⟨link, ⟨lease, held, same⟩, machine.lawful.alone link _ granted⟩
  have sent : ∀ index lease memory, .replied index lease (some memory) ∈ state.2.trace →
      ∃ generation, .authorized index generation true ∈ state.2.trace := by
    intro index lease memory seen
    obtain ⟨_, ⟨_, _, generation, _, head⟩, past⟩ := broker.lawful.mem seen
    exact ⟨generation, admitted index generation _ head past⟩
  refine ⟨served, lends, fun index generation either => ?_, ?_⟩
  · rcases either with seen | ⟨lease, memory, leased⟩
    · exact lent index generation seen
    · obtain ⟨_, ⟨_, _, head, _⟩, past⟩ := broker.lawful.mem leased
      exact lent index generation (admitted index generation _ head past)
  · intro one other lease memory otherLease otherMemory differ mine theirs
    obtain ⟨given, seen⟩ := sent one lease memory mine
    obtain ⟨later, also⟩ := sent other otherLease otherMemory theirs
    obtain ⟨link, holds, current | gone⟩ := lent one given seen
    · obtain ⟨second, held, too | past⟩ := lent other later also
      · -- One link has one process.
        obtain rfl := Option.some.inj (current.symm.trans too)
        obtain ⟨_, first, same⟩ := holds
        obtain ⟨_, again, alike⟩ := held
        obtain rfl := Option.some.inj (first.symm.trans again)
        exact absurd (congrArg Agent.Lease.peer (same.symm.trans alike)) differ
      · exact ⟨second, past, later, .inr held⟩
    · exact ⟨link, gone, given, .inl holds⟩

/-- A desktop agent is lent the camera, retires and exits; the next is lent it with a lease of its
own. -/
def sampleServed : List ServedLabel :=
  let register : Agent.Message := ⟨true, true, 3, some 1, some 1, some 2, none, none, none⟩
  let lend (generation : UInt64) : Wire.XpcFields :=
    [("version", .uint64 2), ("generation", .uint64 generation), ("activation", .uint64 9)]
  let accepts : Option Wire.XpcFields := some [("accepted", .bool true)]
  [.machine (.call (.accept true 1) true), .machine (.call (.accept true 1) true),
    .machine (.call (.receive 0 register ⟨501, 100, 7⟩ .desktop (some 40) 2) true),
    .broker .desktop (.connect true true 0), .broker .desktop (.connect false true 0),
    .broker .desktop (.connect false true 0),
    .broker .desktop (.message 0 ⟨0, 0, 0⟩ (some [("version", .uint64 2)]) {}),
    .broker .desktop (.message 1 ⟨0, 0, 0⟩ (some (lend 40)) { random := 77 }),
    .broker .desktop (.reply 0 accepts {}), .machine (.exits 0), .machine .watched,
    .broker .desktop (.tick {}),
    .machine (.call (.receive 1 register ⟨502, 101, 8⟩ .desktop (some 42) 5) true),
    .broker .desktop (.message 2 ⟨0, 0, 0⟩ (some (lend 42)) { random := 78 }),
    .broker .desktop (.reply 2 accepts {})]

/-- Whose connection each is. -/
def sampleProcess (index : Nat) : Agent.Peer :=
  if index = 1 then ⟨501, 100, 7⟩ else if index = 2 then ⟨502, 101, 8⟩ else ⟨1, 1, 1⟩

/-- The law holds at the end of that run. -/
theorem sample_served : ∃ state, (servedSystem .camera sampleProcess).Reachable state ∧
    .replied 1 77 (some 0) ∈ state.2.trace ∧ .replied 2 78 (some 1) ∈ state.2.trace ∧
    ServedLaw .camera sampleProcess state := by
  obtain ⟨state, run, ends⟩ := Option.map_eq_some_iff.mp
    (show ((servedSystem .camera sampleProcess).run ({}, {}) sampleServed).map (fun state =>
      decide (.replied 1 77 (some 0) ∈ state.2.trace ∧ .replied 2 78 (some 1) ∈ state.2.trace)) =
        some true from by decide +kernel)
  have reachable : (servedSystem .camera sampleProcess).Reachable state :=
    Transition.System.reachable_of_run rfl run
  obtain ⟨first, second⟩ := of_decide_eq_true ends
  exact ⟨state, reachable, first, second, reachable_served reachable⟩

end Plank.Device
