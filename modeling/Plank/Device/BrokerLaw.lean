import Plank.Device.Broker
import Plank.Trace.Law

/-!
# A lease has one holder and one mapping

The peer that is the producer is the one that was given a lease and is not closed, so a lease is
named by its peer. What the driver answers to a message is about the peer that the message was
about, and completes nothing for a peer that is closed. Every selection is queued before its
restoration on one serial queue.
-/

namespace Plank.Device

open Trace (Each)
open Wire (XpcValue XpcFields)

/-- The peer an event is about. -/
def Event.peer : Event → Nat
  | .attached peer | .leased peer _ _ _ | .asked peer _ _ | .accepted _ peer _
  | .authorized peer _ _ | .replied peer _ _ | .closed peer | .selected peer _
  | .restored peer => peer

/-- Whether a peer was given a lease. -/
def Leased (trace : List Event) (peer : Nat) : Prop :=
  ∃ generation lease memory, .leased peer generation lease memory ∈ trace

/-- Whether a peer is the driver. -/
def Attached (trace : List Event) (driver : Nat) : Prop :=
  .attached driver ∈ trace ∧ .closed driver ∉ trace

/-- Whether the driver accepted the mapping of a producer. -/
def Accepted (trace : List Event) (peer : Nat) : Prop :=
  ∃ driver, .accepted .attach peer driver ∈ trace

/-- Whether the last thing that happened is that a producer was authorized. -/
def Admitted (trace : List Event) (peer : Nat) (generation : UInt64) : Prop :=
  trace.head? = some (.authorized peer generation true)

/-- What an event has to do with those before it. -/
def Law (past : List Event) : Event → Prop
  | .attached _ => ∀ other, .attached other ∈ past → .closed other ∈ past
  | .leased peer generation lease memory => lease ≠ 0 ∧ .closed peer ∉ past ∧
      Admitted past peer generation ∧
      ∀ other otherGeneration otherLease otherMemory,
        .leased other otherGeneration otherLease otherMemory ∈ past →
          other ≠ peer ∧ otherMemory ≠ memory ∧ .closed other ∈ past
  | .asked peer _ request => ∃ generation memory,
      .leased peer generation request.lease memory ∈ past ∧
        ((request.operation = Operation.attach.code ∧ request.memory = some memory ∧
            .closed peer ∉ past) ∨
          (request.operation = Operation.renew.code ∧ request.memory = none ∧
            .closed peer ∉ past) ∨
          (request.operation = Operation.detach.code ∧ request.memory = none ∧
            past.head? = some (.closed peer)))
  | .accepted operation peer driver => Attached past driver ∧
      ∃ request, .asked peer driver request ∈ past ∧ request.operation = operation.code
  | .authorized _ _ _ => True
  | .replied peer lease (some memory) => .closed peer ∉ past ∧ Accepted past peer ∧
      ∃ generation, .leased peer generation lease memory ∈ past ∧ Admitted past peer generation
  | .replied peer lease none => .closed peer ∉ past ∧
      (∃ memory, .replied peer lease (some memory) ∈ past) ∧
      ∃ generation memory, .leased peer generation lease memory ∈ past ∧
        Admitted past peer generation
  | .closed peer => .closed peer ∉ past
  | .selected peer _ => Accepted past peer ∧ .restored peer ∉ past
  | .restored peer => .closed peer ∈ past

/-- Whenever a producer is closed while there is a driver, the next thing is that the driver is told
to detach its lease. -/
def Detaches (trace : List Event) : Prop :=
  ∀ later earlier peer generation lease memory driver, trace = later ++ .closed peer :: earlier →
    .leased peer generation lease memory ∈ earlier → Attached earlier driver →
    ∃ rest request, later = rest ++ [.asked peer driver request] ∧
      request.operation = Operation.detach.code ∧ request.lease = lease

/-- What a peer is, but for what nothing depends on. -/
def Peer.core (peer : Peer) : Peer :=
  { peer with identity := ⟨0, 0, 0⟩, lastRenew := 0, pending := false, created := 0 }

/-- What a peer has to do with the broker and what was seen of it. -/
structure Sound (kind : Kind) (broker : Broker) (index : Nat) : Prop where
  /-- A producer is registered when it was given a lease. -/
  leased : Leased broker.trace index ↔
    (broker.peer index).driver = false ∧ (broker.peer index).registered = true
  /-- The lease is the one it was given. -/
  lease : ∀ generation lease memory, .leased index generation lease memory ∈ broker.trace →
    generation = (broker.peer index).generation ∧ lease = (broker.peer index).lease ∧
      lease ≠ 0 ∧ memory < broker.mapped ∧
      ((broker.peer index).closed = false → (broker.peer index).memory = some memory)
  /-- A driver is registered when it was the driver. -/
  attached : .attached index ∈ broker.trace ↔
    (broker.peer index).driver = true ∧ (broker.peer index).registered = true
  /-- A closed peer was closed. -/
  closed : .closed index ∈ broker.trace ↔ (broker.peer index).closed = true
  /-- The producer is the one that is not closed. -/
  producer : broker.producer = some index ↔ (broker.peer index).driver = false ∧
    (broker.peer index).registered = true ∧ (broker.peer index).closed = false
  /-- A driver that is not closed is the driver. -/
  stays : (broker.peer index).driver = true → (broker.peer index).registered = true →
    (broker.peer index).closed = false → broker.driver = some index
  /-- The driver was registered. -/
  driver : broker.driver = some index →
    (broker.peer index).driver = true ∧ (broker.peer index).registered = true
  /-- A ready producer was sent its mapping. -/
  ready : (broker.peer index).ready = true → ∃ memory,
    .replied index (broker.peer index).lease (some memory) ∈ broker.trace
  /-- A peer with a selection is a producer that asked for one. -/
  selection : (broker.peer index).selection = true → kind.selects = true ∧
    (broker.peer index).driver = false ∧ (broker.peer index).registered = true ∧
    (broker.peer index).closed = false ∧ (broker.peer index).detail = .bool true
  /-- Nothing is restored for a peer that is not closed. -/
  unrestored : (broker.peer index).closed = false →
    .restore index true ∉ broker.choices ∧ .restored index ∉ broker.trace
  /-- Nothing is selected for it without a selection. -/
  unselected : (broker.peer index).closed = false → (broker.peer index).selection = false →
    .select index true ∉ broker.choices ∧ ∀ done, .selected index done ∉ broker.trace
  /-- Once it is closed, what is selected is restored. -/
  restores : (broker.peer index).closed = true →
    (.select index true ∈ broker.choices ∨ ∃ done, .selected index done ∈ broker.trace) →
    .restored index ∈ broker.trace ∨ .restore index true ∈ broker.choices
  /-- It is not selected again. -/
  settled : .restored index ∈ broker.trace → .select index true ∉ broker.choices

/-- Whether what a peer has to do with the broker depends on an event. -/
def Event.Marks : Event → Prop
  | .asked _ _ _ | .accepted _ _ _ | .authorized _ _ _ | .replied _ _ _ => False
  | _ => True

/-- Two brokers agree on a peer. -/
structure Agrees (before after : Broker) (index : Nat) : Prop where
  /-- The peer is the same. -/
  peer : (after.peer index).core = (before.peer index).core
  /-- The same was seen of it. -/
  marks : ∀ event : Event, event.peer = index → event.Marks →
    (event ∈ after.trace ↔ event ∈ before.trace)
  /-- Nothing is forgotten. -/
  past : ∀ event ∈ before.trace, event ∈ after.trace
  /-- It is the producer in both, or in none. -/
  producer : after.producer = some index ↔ before.producer = some index
  /-- So it is the driver. -/
  driver : after.driver = some index ↔ before.driver = some index
  /-- No mapping is forgotten. -/
  mapped : before.mapped ≤ after.mapped
  /-- The same selection waits. -/
  select : .select index true ∈ after.choices ↔ .select index true ∈ before.choices
  /-- And the same restoration. -/
  restore : .restore index true ∈ after.choices ↔ .restore index true ∈ before.choices

variable {kind : Kind} {broker before after : Broker} {index : Nat}

/-- What a peer has to do with the broker is the same where they agree on it. -/
theorem Sound.congr (sound : Sound kind before index) (agrees : Agrees before after index) :
    Sound kind after index := by
  have driver : (after.peer index).driver = (before.peer index).driver :=
    (congrArg Peer.driver agrees.peer :)
  have registered : (after.peer index).registered = (before.peer index).registered :=
    (congrArg Peer.registered agrees.peer :)
  have closed : (after.peer index).closed = (before.peer index).closed :=
    (congrArg Peer.closed agrees.peer :)
  have generation : (after.peer index).generation = (before.peer index).generation :=
    (congrArg Peer.generation agrees.peer :)
  have lease : (after.peer index).lease = (before.peer index).lease :=
    (congrArg Peer.lease agrees.peer :)
  have memory : (after.peer index).memory = (before.peer index).memory :=
    (congrArg Peer.memory agrees.peer :)
  have ready : (after.peer index).ready = (before.peer index).ready :=
    (congrArg Peer.ready agrees.peer :)
  have selection : (after.peer index).selection = (before.peer index).selection :=
    (congrArg Peer.selection agrees.peer :)
  have detail : (after.peer index).detail = (before.peer index).detail :=
    (congrArg Peer.detail agrees.peer :)
  have given (generation lease memory) := agrees.marks (.leased index generation lease memory)
    rfl trivial
  have attached := agrees.marks (.attached index) rfl trivial
  have shut := agrees.marks (.closed index) rfl trivial
  have chosen (done) := agrees.marks (.selected index done) rfl trivial
  have restored := agrees.marks (.restored index) rfl trivial
  refine ⟨?_, ?_, ?_, ?_, ?_, ?_, ?_, ?_, ?_, ?_, ?_, ?_, ?_⟩
  · rw [driver, registered, ← sound.leased]
    simp only [Leased, given]
  · intro generation' lease' memory' seen
    rw [generation, lease, closed, memory]
    obtain ⟨same, also, nonzero, below, held⟩ :=
      sound.lease _ _ _ ((given generation' lease' memory').mp seen)
    exact ⟨same, also, nonzero, Nat.lt_of_lt_of_le below agrees.mapped, held⟩
  · rw [attached, driver, registered]
    exact sound.attached
  · rw [shut, closed]
    exact sound.closed
  · rw [agrees.producer, driver, registered, closed]
    exact sound.producer
  · rw [driver, registered, closed, agrees.driver]
    exact sound.stays
  · rw [driver, registered, agrees.driver]
    exact sound.driver
  · rw [ready, lease]
    intro on
    obtain ⟨memory, sent⟩ := sound.ready on
    exact ⟨memory, agrees.past _ sent⟩
  · rw [selection, driver, registered, closed, detail]
    exact sound.selection
  · rw [closed, agrees.restore, restored]
    exact sound.unrestored
  · rw [closed, selection, agrees.select]
    simp only [chosen]
    exact sound.unselected
  · rw [closed, agrees.select, agrees.restore, restored]
    simp only [chosen]
    exact sound.restores
  · rw [restored, agrees.select]
    exact sound.settled

/-- What a peer has to do with the broker is the same in a broker that looks the same to it. -/
theorem Sound.same (sound : Sound kind before index)
    (peer : (after.peer index).core = (before.peer index).core)
    (trace : after.trace = before.trace) (producer : after.producer = before.producer)
    (driver : after.driver = before.driver) (mapped : after.mapped = before.mapped)
    (choices : after.choices = before.choices) : Sound kind after index :=
  sound.congr {
    peer := peer
    marks := fun _ _ _ => by rw [trace]
    past := fun _ seen => trace ▸ seen
    producer := by rw [producer]
    driver := by rw [driver]
    mapped := mapped.ge
    select := by rw [choices]
    restore := by rw [choices] }

/-- It is the same after an event that does not matter to it. -/
theorem Sound.noted (sound : Sound kind broker index) {event : Event} (plain : ¬ event.Marks) :
    Sound kind (broker.note event) index :=
  sound.congr {
    peer := rfl
    marks := fun other _ marks => by
      refine ⟨fun seen => (List.mem_cons.mp seen).resolve_left ?_, List.mem_cons_of_mem _⟩
      rintro rfl
      exact plain marks
    past := fun _ => List.mem_cons_of_mem _
    producer := Iff.rfl
    driver := Iff.rfl
    mapped := Nat.le_refl _
    select := Iff.rfl
    restore := Iff.rfl }

/-- What every block keeps. -/
structure Kept (kind : Kind) (broker : Broker) : Prop where
  /-- The events are lawful. -/
  lawful : Each Law broker.trace
  /-- The driver is told of every producer that goes away. -/
  detaches : Detaches broker.trace
  /-- Every peer agrees with them. -/
  sound : ∀ index, Sound kind broker index
  /-- What was asked was asked. -/
  asks : ∀ id ask, broker.asks id = some ask → ∃ request,
    .asked ask.peer ask.driver request ∈ broker.trace ∧ request.operation = ask.operation.code
  /-- A selection waits for a mapping that was accepted. -/
  choices : ∀ peer held, .select peer held ∈ broker.choices → Accepted broker.trace peer
  /-- So does what is behind it. -/
  chosen : ∀ entry ∈ broker.chosen, Accepted broker.trace entry.1
  /-- Nothing is selected behind its restoration. -/
  ordered : broker.choices.Pairwise fun earlier later =>
    ∀ index, earlier = .restore index true → later ≠ .select index true
  /-- A peer that is yet to come has nothing. -/
  unborn : ∀ index, broker.count ≤ index → broker.peer index = {}
  /-- Nobody but those who came is in the list. -/
  inside : ∀ index ∈ broker.peers, index < broker.count

/-- What was accepted stays accepted. -/
theorem Accepted.mono {earlier later : List Event} {peer : Nat} (accepted : Accepted earlier peer)
    (past : ∀ event ∈ earlier, event ∈ later) : Accepted later peer := by
  obtain ⟨driver, seen⟩ := accepted
  exact ⟨driver, past _ seen⟩

/-- An event that closes nobody. -/
theorem Detaches.cons {trace : List Event} (detaches : Detaches trace) {event : Event}
    (open' : ∀ peer, event ≠ .closed peer) : Detaches (event :: trace) := by
  intro later earlier peer generation lease memory driver split given attached
  cases later with
  | nil => exact absurd (List.cons.inj split).1 (open' peer)
  | cons head later =>
    obtain ⟨rfl, tail⟩ := List.cons.inj split
    obtain ⟨rest, request, rfl, told⟩ :=
      detaches later earlier peer generation lease memory driver tail given attached
    exact ⟨event :: rest, request, rfl, told⟩

/-- A peer that nobody has to be told about. -/
theorem Detaches.closed {trace : List Event} (detaches : Detaches trace) {index : Nat}
    (free : ∀ driver, ¬ (Leased trace index ∧ Attached trace driver)) :
    Detaches (.closed index :: trace) := by
  intro later earlier peer generation lease memory driver split given attached
  cases later with
  | nil =>
    obtain ⟨same, rfl⟩ := List.cons.inj split
    obtain rfl := Event.closed.inj same
    exact absurd ⟨⟨generation, lease, memory, given⟩, attached⟩ (free driver)
  | cons head later =>
    obtain ⟨rfl, tail⟩ := List.cons.inj split
    obtain ⟨rest, request, rfl, told⟩ :=
      detaches later earlier peer generation lease memory driver tail given attached
    exact ⟨.closed index :: rest, request, rfl, told⟩

/-- The driver is told about the producer. -/
theorem Detaches.told {trace : List Event} (detaches : Detaches trace) {index driver : Nat}
    {request : Request} (detach : request.operation = Operation.detach.code)
    (only : ∀ other, Attached trace other → other = driver)
    (same : ∀ generation lease memory, .leased index generation lease memory ∈ trace →
      request.lease = lease) :
    Detaches (.asked index driver request :: .closed index :: trace) := by
  intro later earlier peer generation lease memory other split given attached
  cases later with
  | nil => exact absurd (List.cons.inj split).1 nofun
  | cons first later =>
    obtain ⟨rfl, tail⟩ := List.cons.inj split
    cases later with
    | nil =>
      obtain ⟨closing, rfl⟩ := List.cons.inj tail
      obtain rfl := Event.closed.inj closing
      obtain rfl := only other attached
      exact ⟨[], request, rfl, detach, same generation lease memory given⟩
    | cons second later =>
      obtain ⟨rfl, deeper⟩ := List.cons.inj tail
      obtain ⟨rest, asked, rfl, told⟩ :=
        detaches later earlier peer generation lease memory other deeper given attached
      exact ⟨_ :: _ :: rest, asked, rfl, told⟩

/-- Where only one peer changes, the others agree. -/
theorem Sound.others (sound : ∀ index, Sound kind before index) {added : List Event}
    (trace : after.trace = added ++ before.trace) (about : ∀ event ∈ added, event.peer = index)
    (peers : ∀ other, other ≠ index → after.peer other = before.peer other)
    (producer : ∀ other, other ≠ index →
      (after.producer = some other ↔ before.producer = some other))
    (driver : ∀ other, other ≠ index → (after.driver = some other ↔ before.driver = some other))
    (mapped : before.mapped ≤ after.mapped)
    (select : ∀ other, other ≠ index →
      (.select other true ∈ after.choices ↔ .select other true ∈ before.choices))
    (restore : ∀ other, other ≠ index →
      (.restore other true ∈ after.choices ↔ .restore other true ∈ before.choices))
    (this : Sound kind after index) (other : Nat) : Sound kind after other := by
  by_cases same : other = index
  · rw [same]
    exact this
  · refine (sound other).congr ⟨by rw [peers other same], ?_, ?_, producer other same,
      driver other same, mapped, select other same, restore other same⟩
    · intro event belongs _
      rw [trace, List.mem_append]
      refine ⟨fun seen => seen.resolve_left fun new => same ?_, .inr⟩
      rw [← belongs, about event new]
    · intro event seen
      rw [trace]
      exact List.mem_append_right _ seen

namespace Kept

/-- A registered peer was born. -/
theorem born (kept : Kept kind broker) (registered : (broker.peer index).registered = true) :
    index < broker.count := by
  by_contra unborn
  rw [kept.unborn index (Nat.le_of_not_lt unborn)] at registered
  exact absurd registered Bool.false_ne_true

/-- A change of one peer leaves those that are yet to come. -/
theorem still (kept : Kept kind broker) (inside : index < broker.count) (changed : Peer)
    (other : Nat) (beyond : broker.count ≤ other) :
    Function.update broker.peer index changed other = {} := by
  have apart : other ≠ index := by omega
  rw [Function.update_of_ne apart]
  exact kept.unborn other beyond

/-- What was asked was asked, whatever comes later. -/
theorem asked_mono (kept : Kept kind broker) {later : List Event}
    (past : ∀ event ∈ broker.trace, event ∈ later) {id : Nat} {ask : Ask}
    (there : broker.asks id = some ask) : ∃ request,
      .asked ask.peer ask.driver request ∈ later ∧ request.operation = ask.operation.code := by
  obtain ⟨request, seen, operation⟩ := kept.asks id ask there
  exact ⟨request, past _ seen, operation⟩

/-- Only one peer is the driver. -/
theorem only (kept : Kept kind broker) {driver : Nat} (attached : Attached broker.trace driver) :
    broker.driver = some driver := by
  obtain ⟨isDriver, registered⟩ := (kept.sound driver).attached.mp attached.1
  refine (kept.sound driver).stays isDriver registered ?_
  rw [← Bool.not_eq_true, ← (kept.sound driver).closed]
  exact attached.2

/-- The producer was given a lease. -/
theorem given (kept : Kept kind broker) (producer : broker.producer = some index) :
    ∃ memory, .leased index (broker.peer index).generation (broker.peer index).lease memory ∈
      broker.trace ∧ (broker.peer index).lease ≠ 0 ∧ (broker.peer index).memory = some memory := by
  obtain ⟨worker, registered, open'⟩ := (kept.sound index).producer.mp producer
  obtain ⟨generation, lease, memory, seen⟩ := (kept.sound index).leased.mpr ⟨worker, registered⟩
  obtain ⟨rfl, rfl, nonzero, -, held⟩ := (kept.sound index).lease _ _ _ seen
  exact ⟨memory, seen, nonzero, held open'⟩

/-- The producer is not closed. -/
theorem unclosed (kept : Kept kind broker) (producer : broker.producer = some index) :
    .closed index ∉ broker.trace := by
  rw [(kept.sound index).closed, ((kept.sound index).producer.mp producer).2.2]
  exact Bool.false_ne_true

/-- An event that nothing depends on. -/
theorem note (kept : Kept kind broker) {event : Event} (plain : ¬ event.Marks)
    (law : Law broker.trace event) : Kept kind (broker.note event) where
  lawful := kept.lawful.cons law
  detaches := kept.detaches.cons (by rintro peer rfl; exact plain trivial)
  sound index := (kept.sound index).noted plain
  asks id ask here := kept.asked_mono (fun _ => List.mem_cons_of_mem _) here
  choices peer held here := (kept.choices peer held here).mono fun _ => List.mem_cons_of_mem _
  chosen entry here := (kept.chosen entry here).mono fun _ => List.mem_cons_of_mem _
  ordered := kept.ordered
  unborn := kept.unborn
  inside := kept.inside

/-- `_authorize` is asked. -/
theorem consult (kept : Kept kind broker) (moment : Moment) (index : Nat) (generation : UInt64) :
    Kept kind (broker.consult moment index generation) := kept.note id trivial

/-- A peer changes where nothing depends on it. -/
theorem touch (kept : Kept kind broker) (inside : index < broker.count) {change : Peer → Peer}
    (same : (change (broker.peer index)).core = (broker.peer index).core) :
    Kept kind (broker.setPeer index change) where
  lawful := kept.lawful
  detaches := kept.detaches
  sound other := by
    refine (kept.sound other).same ?_ rfl rfl rfl rfl rfl
    by_cases here : other = index
    · subst here
      exact (congrArg Peer.core (Function.update_self ..)).trans same
    · exact congrArg Peer.core (Function.update_of_ne here ..)
  asks := kept.asks
  choices := kept.choices
  chosen := kept.chosen
  ordered := kept.ordered
  unborn := kept.still inside _
  inside := kept.inside

end Kept

/-- A message to the driver. -/
theorem send_eq {operation : Operation} {memory : Option Nat} {sent : Broker}
    (sending : broker.send operation index memory = some sent) :
    ∃ driver, broker.driver = some driver ∧ sent = { broker with
      asks := Function.update broker.asks broker.asked (some { operation, peer := index, driver })
      asked := broker.asked + 1
      trace := .asked index driver (broker.request operation index memory) :: broker.trace } := by
  unfold Broker.send at sending
  split at sending
  · exact absurd sending nofun
  · next driver attached =>
    obtain ⟨-, sending⟩ := Option.ite_none_left_eq_some.mp sending
    exact ⟨driver, attached, (Option.some.inj sending).symm⟩

/-- It is sent when there is a driver and a lease. -/
theorem send_isSome {operation : Operation} {memory : Option Nat}
    (driver : broker.driver.isSome = true) (lease : (broker.peer index).lease ≠ 0) :
    ∃ sent, broker.send operation index memory = some sent := by
  obtain ⟨driver, attached⟩ := Option.isSome_iff_exists.mp driver
  unfold Broker.send
  rw [attached]
  dsimp only
  rw [if_neg lease]
  exact ⟨_, rfl⟩

namespace Kept

/-- A message to the driver. -/
theorem send (kept : Kept kind broker) {operation : Operation} {memory : Option Nat}
    {sent : Broker} (sending : broker.send operation index memory = some sent)
    (law : ∀ driver, Law broker.trace
      (.asked index driver (broker.request operation index memory))) : Kept kind sent := by
  obtain ⟨driver, -, rfl⟩ := send_eq sending
  have noted : Kept kind (broker.note (.asked index driver
      (broker.request operation index memory))) := kept.note id (law driver)
  refine { noted with
    sound := fun other => (noted.sound other).same rfl rfl rfl rfl rfl rfl
    asks := ?_ }
  intro id ask here
  by_cases fresh : id = broker.asked
  · subst fresh
    dsimp only at here
    rw [Function.update_self] at here
    obtain rfl := Option.some.inj here
    exact ⟨_, List.mem_cons_self, rfl⟩
  · dsimp only at here
    rw [Function.update_of_ne fresh] at here
    exact noted.asks id ask here

/-- What is left when a peer is forgotten; nobody was told yet. -/
theorem forget (kept : Kept kind broker) (open' : (broker.peer index).closed = false)
    (other : Nat) : Sound kind (broker.forget kind index) other := by
  have sound := kept.sound index
  have here : (broker.forget kind index).peer index = { broker.peer index with
      closed := true, memory := none,
      selection := (broker.peer index).selection &&
        !(decide (broker.producer = some index) && kind.selects) } := Function.update_self ..
  have restore : ∀ peer held, .restore peer held ∈ (broker.forget kind index).choices →
      .restore peer held ∈ broker.choices ∨
        (peer = index ∧ held = (broker.peer index).selection) := by
    intro peer held member
    unfold Broker.forget at member
    dsimp only at member
    split at member
    · cases List.mem_append.mp member with
      | inl old => exact .inl old
      | inr new =>
        obtain ⟨rfl, rfl⟩ := Choice.restore.inj (List.mem_singleton.mp new)
        exact .inr ⟨rfl, rfl⟩
    · exact .inl member
  have select : ∀ peer held, .select peer held ∈ (broker.forget kind index).choices ↔
      .select peer held ∈ broker.choices := by
    intro peer held
    unfold Broker.forget
    dsimp only
    split
    · rw [List.mem_append]
      exact ⟨fun member => member.resolve_right (by simp), .inl⟩
    · exact Iff.rfl
  have keeps : ∀ choice ∈ broker.choices, choice ∈ (broker.forget kind index).choices := by
    intro choice member
    unfold Broker.forget
    dsimp only
    split
    · exact List.mem_append_left _ member
    · exact member
  have trace : (broker.forget kind index).trace = [.closed index] ++ broker.trace := rfl
  have producer : (broker.peer index).selection = true → broker.producer = some index := by
    intro held
    obtain ⟨-, worker, registered, closed, -⟩ := sound.selection held
    exact sound.producer.mpr ⟨worker, registered, closed⟩
  have about : ∀ event ∈ [Event.closed index], event.peer = index := by
    intro event member
    rw [List.mem_singleton.mp member]
    rfl
  refine Sound.others kept.sound trace about ?_ ?_ ?_ (Nat.le_refl _) ?_ ?_ ?_ other
  · exact fun other apart => Function.update_of_ne apart ..
  · intro other apart
    unfold Broker.forget
    dsimp only
    split
    · next producer =>
      rw [producer]
      exact ⟨nofun, fun same => absurd (Option.some.inj same).symm apart⟩
    · exact Iff.rfl
  · exact fun other _ => Iff.rfl
  · exact fun other _ => select other true
  · intro other apart
    exact ⟨fun member => (restore other true member).resolve_right fun new => apart new.1,
      keeps _⟩
  · obtain ⟨unrestored, unseen⟩ := sound.unrestored open'
    have seen : ∀ event : Event, event ≠ .closed index →
        (event ∈ (broker.forget kind index).trace ↔ event ∈ broker.trace) := by
      intro event apart
      exact ⟨fun member => (List.mem_cons.mp member).resolve_left apart, List.mem_cons_of_mem _⟩
    refine ⟨?_, ?_, ?_, ?_, ?_, ?_, ?_, ?_, ?_, ?_, ?_, ?_, ?_⟩
    · rw [here, ← sound.leased]
      have given (generation lease memory) := seen (.leased index generation lease memory) nofun
      simp only [Leased, given]
    · intro generation lease memory given
      obtain ⟨rfl, rfl, nonzero, below, -⟩ := sound.lease generation lease memory
        ((seen (.leased index generation lease memory) nofun).mp given)
      rw [here]
      exact ⟨rfl, rfl, nonzero, below, nofun⟩
    · rw [here, seen (.attached index) nofun]
      exact sound.attached
    · rw [here]
      exact ⟨fun _ => rfl, fun _ => List.mem_cons_self⟩
    · rw [here]
      refine ⟨fun same => ?_, fun ⟨_, _, closed⟩ => absurd closed.symm Bool.false_ne_true⟩
      unfold Broker.forget at same
      dsimp only at same
      split at same
      · exact absurd same nofun
      · next apart => exact absurd same apart
    · rw [here]
      exact fun _ _ closed => absurd closed.symm Bool.false_ne_true
    · rw [here]
      exact sound.driver
    · rw [here]
      intro ready
      obtain ⟨memory, sent⟩ := sound.ready ready
      exact ⟨memory, List.mem_cons_of_mem _ sent⟩
    · rw [here]
      intro held
      obtain ⟨was, keeps⟩ := Bool.and_eq_true_iff.mp held
      obtain ⟨selects, -⟩ := sound.selection was
      rw [producer was, selects] at keeps
      exact absurd keeps (by simp)
    · rw [here]
      exact fun closed => absurd closed.symm Bool.false_ne_true
    · rw [here]
      exact fun closed => absurd closed.symm Bool.false_ne_true
    · intro _ chosen
      right
      have held : (broker.peer index).selection = true := by
        by_contra unheld
        obtain ⟨unqueued, unchosen⟩ :=
          sound.unselected open' (Bool.not_eq_true _ ▸ unheld)
        rcases chosen with queued | ⟨done, chosen⟩
        · exact unqueued ((select index true).mp queued)
        · exact unchosen done ((seen (.selected index done) nofun).mp chosen)
      obtain ⟨selects, -⟩ := sound.selection held
      unfold Broker.forget
      dsimp only
      rw [producer held, selects, held, if_pos (by simp)]
      exact List.mem_append_right _ List.mem_cons_self
    · intro restored
      exact absurd ((seen (.restored index) nofun).mp restored) unseen

/-- What waits when a peer is forgotten. -/
theorem waiting (kept : Kept kind broker) (index : Nat) :
    (∀ peer held, .select peer held ∈ (broker.forget kind index).choices →
      Accepted broker.trace peer) ∧
    (broker.forget kind index).choices.Pairwise fun earlier later =>
      ∀ index, earlier = .restore index true → later ≠ .select index true := by
  unfold Broker.forget
  dsimp only
  split
  · constructor
    · intro peer held member
      cases List.mem_append.mp member with
      | inl old => exact kept.choices peer held old
      | inr new => exact absurd (List.mem_singleton.mp new) nofun
    · refine List.pairwise_append.mpr ⟨kept.ordered, List.pairwise_singleton _ _, ?_⟩
      intro earlier _ later member other _
      rw [List.mem_singleton.mp member]
      exact nofun
  · exact ⟨kept.choices, kept.ordered⟩

/-- `leave`. -/
theorem leave (kept : Kept kind broker) (inside : index < broker.count) :
    Kept kind (broker.leave kind index) := by
  unfold Broker.leave
  split
  · exact kept
  · next open' =>
    have open' : (broker.peer index).closed = false := Bool.not_eq_true _ ▸ open'
    have law : Law broker.trace (.closed index) := by
      show .closed index ∉ broker.trace
      rw [(kept.sound index).closed, open']
      exact Bool.false_ne_true
    have lawful : Each Law (.closed index :: broker.trace) := kept.lawful.cons law
    obtain ⟨choices, ordered⟩ := kept.waiting index
    have producer {driver : Nat} (both : Leased broker.trace index ∧ Attached broker.trace driver) :
        broker.producer = some index := by
      obtain ⟨worker, registered⟩ := (kept.sound index).leased.mp both.1
      exact (kept.sound index).producer.mpr ⟨worker, registered, open'⟩
    have gone (told : Detaches (broker.forget kind index).trace) :
        Kept kind (broker.forget kind index) := {
      lawful := lawful
      detaches := told
      sound := kept.forget open'
      asks := fun _ _ => kept.asked_mono fun _ => List.mem_cons_of_mem _
      choices := fun peer held here => (choices peer held here).mono fun _ =>
        List.mem_cons_of_mem _
      chosen := fun entry here => (kept.chosen entry here).mono fun _ => List.mem_cons_of_mem _
      ordered := ordered
      unborn := kept.still inside _
      inside := fun other member => kept.inside other (List.mem_of_mem_erase member) }
    dsimp only
    split
    · next held =>
      cases attached : broker.driver with
      | none =>
        have nobody : (broker.forget kind index).driver = none := attached
        have unsent : (broker.forget kind index).send .detach index none = none := by
          unfold Broker.send
          rw [nobody]
        rw [unsent]
        refine gone (kept.detaches.closed fun driver both => ?_)
        exact absurd (attached.symm.trans (kept.only both.2)) nofun
      | some driver =>
        obtain ⟨memory, given, nonzero, -⟩ := kept.given held
        have same : ((broker.forget kind index).peer index).lease = (broker.peer index).lease := by
          have here : (broker.forget kind index).peer index = { broker.peer index with
              closed := true, memory := none,
              selection := (broker.peer index).selection &&
                !(decide (broker.producer = some index) && kind.selects) } :=
            Function.update_self ..
          rw [here]
        have there : (broker.forget kind index).driver.isSome = true := by
          show broker.driver.isSome = true
          rw [attached]
          rfl
        obtain ⟨sent, sending⟩ := send_isSome there (same ▸ nonzero)
        rw [sending, Option.getD_some]
        obtain ⟨other, also, rfl⟩ := send_eq sending
        obtain rfl := Option.some.inj (attached.symm.trans also)
        have lease : ((broker.forget kind index).request .detach index none).lease =
            (broker.peer index).lease := same
        have detaches : Detaches (.asked index driver
            ((broker.forget kind index).request .detach index none) ::
              .closed index :: broker.trace) := by
          refine kept.detaches.told rfl ?_ ?_
          · exact fun other on => Option.some.inj ((kept.only on).symm.trans attached)
          · intro generation lease' memory' seen
            rw [lease]
            exact ((kept.sound index).lease _ _ _ seen).2.1.symm
        have asked : Law (.closed index :: broker.trace) (.asked index driver
            ((broker.forget kind index).request .detach index none)) := by
          refine ⟨_, memory, List.mem_cons_of_mem _ (lease ▸ given), .inr (.inr ⟨rfl, rfl, rfl⟩)⟩
        exact {
          lawful := lawful.cons asked
          detaches := detaches
          sound := fun other => ((kept.forget open' other).noted id).same rfl rfl rfl rfl rfl rfl
          asks := fun id ask here => by
            dsimp only at here
            by_cases fresh : id = (broker.forget kind index).asked
            · rw [fresh, Function.update_self] at here
              obtain rfl := Option.some.inj here
              exact ⟨_, List.mem_cons_self, rfl⟩
            · rw [Function.update_of_ne fresh] at here
              obtain ⟨request, seen, operation⟩ := kept.asks id ask here
              exact ⟨request, List.mem_cons_of_mem _ (List.mem_cons_of_mem _ seen), operation⟩
          choices := fun peer waits here => (choices peer waits here).mono fun _ seen =>
            List.mem_cons_of_mem _ (List.mem_cons_of_mem _ seen)
          chosen := fun entry here => (kept.chosen entry here).mono fun _ seen =>
            List.mem_cons_of_mem _ (List.mem_cons_of_mem _ seen)
          ordered := ordered
          unborn := kept.still inside _
          inside := fun other member => kept.inside other (List.mem_of_mem_erase member) }
    · next free =>
      exact gone (kept.detaches.closed fun driver both => free (producer both))

end Kept

/-- What a block that is about one lease leaves as it is. -/
structure Apart (subject : Nat) (before after : Broker) : Prop where
  /-- Every other peer. -/
  peers : ∀ other, other ≠ subject → after.peer other = before.peer other
  /-- A producer that is another one. -/
  producer : ∀ other, other ≠ subject →
    (after.producer = some other ↔ before.producer = some other)
  /-- The driver. -/
  driver : after.driver = before.driver
  /-- Nothing else is seen. -/
  trace : ∃ added, after.trace = added ++ before.trace ∧ ∀ event ∈ added, event.peer = subject
  /-- The selections of the others. -/
  choices : ∀ other, other ≠ subject → ∀ held,
    (.select other held ∈ after.choices ↔ .select other held ∈ before.choices) ∧
      (.restore other held ∈ after.choices ↔ .restore other held ∈ before.choices)
  /-- Nobody comes. -/
  count : after.count = before.count

namespace Apart

/-- Nothing happens. -/
theorem refl (subject : Nat) (broker : Broker) : Apart subject broker broker where
  peers _ _ := rfl
  producer _ _ := Iff.rfl
  driver := rfl
  trace := ⟨[], rfl, fun _ member => absurd member List.not_mem_nil⟩
  choices _ _ _ := ⟨Iff.rfl, Iff.rfl⟩
  count := rfl

/-- One thing after the other. -/
theorem trans {subject : Nat} {middle : Broker} (first : Apart subject before middle)
    (second : Apart subject middle after) : Apart subject before after where
  peers other apart := (second.peers other apart).trans (first.peers other apart)
  producer other apart := (second.producer other apart).trans (first.producer other apart)
  driver := second.driver.trans first.driver
  trace := by
    obtain ⟨old, was, about⟩ := first.trace
    obtain ⟨new, is, also⟩ := second.trace
    refine ⟨new ++ old, by rw [is, was, List.append_assoc], ?_⟩
    intro event member
    cases List.mem_append.mp member with
    | inl later => exact also event later
    | inr earlier => exact about event earlier
  choices other apart held :=
    ⟨(second.choices other apart held).1.trans (first.choices other apart held).1,
      (second.choices other apart held).2.trans (first.choices other apart held).2⟩
  count := second.count.trans first.count

/-- An event about the lease. -/
theorem note (broker : Broker) {subject : Nat} {event : Event} (about : event.peer = subject) :
    Apart subject broker (broker.note event) where
  peers _ _ := rfl
  producer _ _ := Iff.rfl
  driver := rfl
  trace := ⟨[event], rfl, fun _ member => by rw [List.mem_singleton.mp member, about]⟩
  choices _ _ _ := ⟨Iff.rfl, Iff.rfl⟩
  count := rfl

/-- The peer of the lease changes. -/
theorem setPeer (broker : Broker) (index : Nat) (change : Peer → Peer) :
    Apart index broker (broker.setPeer index change) where
  peers _ apart := Function.update_of_ne apart ..
  producer _ _ := Iff.rfl
  driver := rfl
  trace := ⟨[], rfl, fun _ member => absurd member List.not_mem_nil⟩
  choices _ _ _ := ⟨Iff.rfl, Iff.rfl⟩
  count := rfl

/-- A message to the driver about the lease. -/
theorem send {operation : Operation} {memory : Option Nat} {sent : Broker}
    (sending : broker.send operation index memory = some sent) : Apart index broker sent := by
  obtain ⟨driver, -, rfl⟩ := send_eq sending
  exact ⟨fun _ _ => rfl, fun _ _ => Iff.rfl, rfl,
    ⟨[_], rfl, fun _ member => by rw [List.mem_singleton.mp member]; rfl⟩,
    fun _ _ _ => ⟨Iff.rfl, Iff.rfl⟩, rfl⟩

/-- The peer of the lease is forgotten. -/
theorem forget (kind : Kind) (broker : Broker) (index : Nat) :
    Apart index broker (broker.forget kind index) where
  peers _ apart := Function.update_of_ne apart ..
  producer other apart := by
    unfold Broker.forget
    dsimp only
    split
    · next producer =>
      rw [producer]
      exact ⟨nofun, fun same => absurd (Option.some.inj same).symm apart⟩
    · exact Iff.rfl
  driver := rfl
  trace := ⟨[.closed index], rfl, fun _ member => by rw [List.mem_singleton.mp member]; rfl⟩
  choices other apart held := by
    unfold Broker.forget
    dsimp only
    split
    · have new : ∀ choice ∈ [Choice.restore index (broker.peer index).selection],
          choice ≠ .select other held ∧ choice ≠ .restore other held := by
        intro choice member
        rw [List.mem_singleton.mp member]
        exact ⟨nofun, fun same => apart (Choice.restore.inj same).1.symm⟩
      rw [List.mem_append, List.mem_append]
      exact ⟨⟨fun member => member.resolve_right fun fresh => (new _ fresh).1 rfl, .inl⟩,
        ⟨fun member => member.resolve_right fun fresh => (new _ fresh).2 rfl, .inl⟩⟩
    · exact ⟨Iff.rfl, Iff.rfl⟩
  count := rfl

/-- `leave`. -/
theorem leave (kind : Kind) (broker : Broker) (index : Nat) :
    Apart index broker (broker.leave kind index) := by
  unfold Broker.leave
  split
  · exact refl index broker
  · dsimp only
    split
    · cases sending : (broker.forget kind index).send .detach index none with
      | none => exact forget kind broker index
      | some sent => exact (forget kind broker index).trans (send sending)
    · exact forget kind broker index

/-- `close` of a peer that is not the driver. -/
theorem close (kind : Kind) (broker : Broker) {index : Nat} (apart : broker.driver ≠ some index) :
    Apart index broker (broker.close kind index) := by
  have left := leave kind broker index
  unfold Broker.close
  dsimp only
  rw [if_neg]
  · exact left
  · rw [left.driver]
    simp [apart]

end Apart

/-- A peer is closed in the end. -/
theorem leave_closed (kind : Kind) (broker : Broker) (index : Nat) :
    ((broker.leave kind index).peer index).closed = true := by
  unfold Broker.leave
  split
  · next closed => exact closed
  · have gone : ((broker.forget kind index).peer index).closed = true :=
      by
        unfold Broker.forget
        dsimp only
        rw [Function.update_self]
    dsimp only
    split
    · cases sending : (broker.forget kind index).send .detach index none with
      | none => exact gone
      | some sent =>
        obtain ⟨driver, -, rfl⟩ := send_eq sending
        exact gone
    · exact gone

/-- Closing a peer brings nobody. -/
theorem close_count (kind : Kind) (broker : Broker) (index : Nat) :
    (broker.close kind index).count = broker.count := by
  have left := (Apart.leave kind broker index).count
  unfold Broker.close
  dsimp only
  split
  · split
    · exact left
    · next producer _ => exact ((Apart.leave kind _ producer).count).trans left
  · exact left

namespace Kept

/-- The driver is lost. -/
theorem lost (kept : Kept kind broker) (closed : ∀ driver, broker.driver = some driver →
    (broker.peer driver).closed = true) : Kept kind { broker with driver := none } where
  lawful := kept.lawful
  detaches := kept.detaches
  sound index := { kept.sound index with
    stays := fun isDriver registered open' => by
      have attached := (kept.sound index).stays isDriver registered open'
      exact absurd (open'.symm.trans (closed index attached)) Bool.false_ne_true
    driver := nofun }
  asks := kept.asks
  choices := kept.choices
  chosen := kept.chosen
  ordered := kept.ordered
  unborn := kept.unborn
  inside := kept.inside

/-- `close`. -/
theorem close (kept : Kept kind broker) (inside : index < broker.count) :
    Kept kind (broker.close kind index) := by
  have left := kept.leave inside
  unfold Broker.close
  dsimp only
  split
  · next driver =>
    obtain ⟨-, attached⟩ := Bool.and_eq_true_iff.mp driver
    have attached := of_decide_eq_true attached
    have lost : Kept kind { broker.leave kind index with driver := none } := by
      refine left.lost fun driver is => ?_
      obtain rfl := Option.some.inj (attached.symm.trans is)
      exact leave_closed kind broker index
    split
    · exact lost
    · next producer held =>
      have registered : ((broker.leave kind index).peer producer).registered = true :=
        ((left.sound producer).producer.mp held).2.1
      exact lost.leave (lost.born registered)
  · exact left

end Kept

namespace Kept

/-- A producer that was sent its mapping is ready. -/
theorem setReady (kept : Kept kind broker) (inside : index < broker.count) {memory : Nat}
    (sent : .replied index (broker.peer index).lease (some memory) ∈ broker.trace) :
    Kept kind (broker.setPeer index fun peer => { peer with ready := true }) where
  lawful := kept.lawful
  detaches := kept.detaches
  sound other := by
    by_cases here : other = index
    · subst here
      have same : (broker.setPeer other fun peer => { peer with ready := true }).peer other =
          { broker.peer other with ready := true } := Function.update_self ..
      have sound := kept.sound other
      refine ⟨?_, ?_, ?_, ?_, ?_, ?_, ?_, ?_, ?_, ?_, ?_, ?_, ?_⟩
      · rw [same]
        exact sound.leased
      · rw [same]
        exact sound.lease
      · rw [same]
        exact sound.attached
      · rw [same]
        exact sound.closed
      · rw [same]
        exact sound.producer
      · rw [same]
        exact sound.stays
      · rw [same]
        exact sound.driver
      · rw [same]
        exact fun _ => ⟨memory, sent⟩
      · rw [same]
        exact sound.selection
      · rw [same]
        exact sound.unrestored
      · rw [same]
        exact sound.unselected
      · rw [same]
        exact sound.restores
      · exact sound.settled
    · exact (kept.sound other).same (congrArg Peer.core (Function.update_of_ne here ..)) rfl rfl rfl
        rfl rfl
  asks := kept.asks
  choices := kept.choices
  chosen := kept.chosen
  ordered := kept.ordered
  unborn := kept.still inside _
  inside := kept.inside

/-- The mapping is sent to the producer. -/
theorem grant (kept : Kept kind broker) (producer : broker.producer = some index)
    (accepted : Accepted broker.trace index)
    (admitted : Admitted broker.trace index (broker.peer index).generation) :
    Kept kind (broker.grant index) := by
  obtain ⟨memory, given, -, held⟩ := kept.given producer
  have law : Law broker.trace (.replied index (broker.peer index).lease (some memory)) :=
    ⟨kept.unclosed producer, accepted, _, given, admitted⟩
  have sent := kept.note id law
  have inside : index < broker.count :=
    kept.born ((kept.sound index).producer.mp producer).2.1
  unfold Broker.grant
  dsimp only
  rw [held]
  exact sent.setReady inside List.mem_cons_self

/-- What is known once a producer was authorized again. -/
theorem again (kept : Kept kind broker) {moment : Moment}
    (producer : broker.producer = some index) (accepted : Accepted broker.trace index)
    (allowed : broker.answer moment index (broker.peer index).generation = true) :
    Kept kind ((broker.consult moment index (broker.peer index).generation).grant index) := by
  have consulted := kept.consult moment index (broker.peer index).generation
  refine consulted.grant producer (accepted.mono fun _ => List.mem_cons_of_mem _) ?_
  unfold Broker.consult
  rw [allowed]
  rfl

/-- The block behind a selection. -/
theorem settle (kept : Kept kind broker) (accepted : Accepted broker.trace index)
    (inside : index < broker.count) (moment : Moment) (selected : Bool) :
    Kept kind (broker.settle kind moment index selected) := by
  unfold Broker.settle
  dsimp only
  split
  · exact kept
  · split
    · exact kept.close inside
    · next going =>
      have producer : broker.producer = some index := by
        simp only [Bool.or_eq_true, decide_eq_true_eq, not_or, ne_eq, not_not] at going
        exact going.2
      split
      · exact (kept.consult moment index _).close inside
      · next allowed => exact kept.again producer accepted (by simpa using allowed)

end Kept

namespace Kept

/-- The selection of a producer is queued. -/
theorem enqueue (kept : Kept kind broker) (selects : kind.selects = true)
    (producer : broker.producer = some index) (accepted : Accepted broker.trace index) {held : Bool}
    (wanted : held = decide ((broker.peer index).detail = .bool true)) :
    Kept kind { broker.setPeer index fun peer => { peer with selection := held } with
      choices := broker.choices ++ [.select index held] } := by
  obtain ⟨worker, registered, open'⟩ := (kept.sound index).producer.mp producer
  have inside := kept.born registered
  obtain ⟨unqueued, unrestored⟩ := (kept.sound index).unrestored open'
  have select : ∀ other given, .select other given ∈ broker.choices ++ [.select index held] →
      .select other given ∈ broker.choices ∨ (other = index ∧ given = held) := by
    intro other given member
    cases List.mem_append.mp member with
    | inl old => exact .inl old
    | inr new =>
      obtain ⟨rfl, rfl⟩ := Choice.select.inj (List.mem_singleton.mp new)
      exact .inr ⟨rfl, rfl⟩
  have restore : ∀ other, .restore other true ∈ broker.choices ++ [.select index held] ↔
      .restore other true ∈ broker.choices := by
    intro other
    rw [List.mem_append]
    exact ⟨fun member => member.resolve_right (by simp), .inl⟩
  refine {
    lawful := kept.lawful
    detaches := kept.detaches
    sound := ?_
    asks := kept.asks
    choices := ?_
    chosen := kept.chosen
    ordered := ?_
    unborn := kept.still inside _
    inside := kept.inside }
  · intro other
    by_cases here : other = index
    · subst here
      have same : (broker.setPeer other fun peer => { peer with selection := held }).peer other =
          { broker.peer other with selection := held } := Function.update_self ..
      have sound := kept.sound other
      refine ⟨?_, ?_, ?_, ?_, ?_, ?_, ?_, ?_, ?_, ?_, ?_, ?_, ?_⟩
      · rw [same]
        exact sound.leased
      · rw [same]
        exact sound.lease
      · rw [same]
        exact sound.attached
      · rw [same]
        exact sound.closed
      · rw [same]
        exact sound.producer
      · rw [same]
        exact sound.stays
      · rw [same]
        exact sound.driver
      · rw [same]
        exact sound.ready
      · rw [same]
        intro on
        exact ⟨selects, worker, registered, open', of_decide_eq_true (wanted.symm.trans on)⟩
      · intro _
        exact ⟨fun member => unqueued ((restore other).mp member), unrestored⟩
      · rw [same]
        intro _ unheld
        have before : (broker.peer other).selection = false := by
          by_contra was
          obtain ⟨-, -, -, -, asked⟩ := sound.selection (Bool.not_eq_false _ ▸ was)
          have on : held = true := wanted.trans (decide_eq_true asked)
          exact absurd (on.symm.trans unheld) nofun
        obtain ⟨fresh, unseen⟩ := sound.unselected open' before
        refine ⟨fun member => ?_, unseen⟩
        cases select other true member with
        | inl old => exact fresh old
        | inr new => exact absurd (new.2.trans unheld) nofun
      · rw [same]
        exact fun closed => absurd (open'.symm.trans closed) Bool.false_ne_true
      · exact fun restored => absurd restored unrestored
    · refine (kept.sound other).congr ⟨congrArg Peer.core (Function.update_of_ne here ..),
        fun _ _ _ => Iff.rfl, fun _ seen => seen, Iff.rfl, Iff.rfl, Nat.le_refl _, ?_,
        restore other⟩
      exact ⟨fun member => (select other true member).resolve_right fun new => here new.1,
        fun member => List.mem_append_left _ member⟩
  · intro other given member
    cases select other given member with
    | inl old => exact kept.choices other given old
    | inr new => exact new.1 ▸ accepted
  · refine List.pairwise_append.mpr ⟨kept.ordered, List.pairwise_singleton _ _, ?_⟩
    rintro earlier member later new other rfl
    rw [List.mem_singleton.mp new]
    intro same
    obtain ⟨rfl, -⟩ := Choice.select.inj same
    exact unqueued member

/-- The completion of operation 1. -/
theorem attach (kept : Kept kind broker) (inside : index < broker.count) (moment : Moment)
    {ok : Bool} (accepted : ok = true → Accepted broker.trace index) :
    Kept kind (broker.attach kind moment index ok) := by
  unfold Broker.attach
  dsimp only
  split
  · exact kept
  · split
    · exact kept.close inside
    · next going =>
      simp only [Bool.or_eq_true, Bool.not_eq_true', decide_eq_true_eq, not_or, ne_eq, not_not,
        Bool.not_eq_false] at going
      obtain ⟨accepts, producer⟩ := going
      have accepted := accepted accepts
      have consulted := kept.consult moment index (broker.peer index).generation
      split
      · exact consulted.close inside
      · next allowed =>
        split
        · next selects =>
          exact consulted.enqueue selects producer
            (accepted.mono fun _ => List.mem_cons_of_mem _) rfl
        · exact kept.again producer accepted (by simpa using allowed)

/-- The completion of operation 2. -/
theorem renewed (kept : Kept kind broker) (inside : index < broker.count) (ok : Bool) :
    Kept kind (broker.renewed kind index ok) := by
  have touched : Kept kind (broker.setPeer index fun peer => { peer with pending := false }) :=
    kept.touch inside rfl
  unfold Broker.renewed
  dsimp only
  split
  · exact touched
  · exact touched.close inside

/-- A peer that was given a lease was born. -/
theorem asked (kept : Kept kind broker) {driver : Nat} {request : Request}
    (seen : .asked index driver request ∈ broker.trace) :
    Leased broker.trace index ∧ index < broker.count := by
  obtain ⟨earlier, ⟨generation, memory, given, -⟩, past⟩ := kept.lawful.mem seen
  have leased : Leased broker.trace index := ⟨generation, request.lease, memory, past _ given⟩
  exact ⟨leased, kept.born ((kept.sound index).leased.mp leased).2⟩

/-- `finish`. -/
theorem finish (kept : Kept kind broker) (moment : Moment) (id : Nat) {ok : Bool}
    (attached : ok = true → ∀ ask, broker.asks id = some ask →
      Attached broker.trace ask.driver) :
    Kept kind (broker.finish kind moment id ok) := by
  unfold Broker.finish
  split
  · exact kept
  · next ask there =>
    split
    · exact kept
    · obtain ⟨request, seen, operation⟩ := kept.asks id ask there
      obtain ⟨-, inside⟩ := kept.asked seen
      have finished : Kept kind { broker with
          asks := Function.update broker.asks id (some { ask with finished := true }) } := {
        kept with
        sound := fun other => (kept.sound other).same rfl rfl rfl rfl rfl rfl
        asks := fun other held here => by
          dsimp only at here
          by_cases same : other = id
          · rw [same, Function.update_self] at here
            obtain rfl := Option.some.inj here
            exact ⟨request, seen, operation⟩
          · rw [Function.update_of_ne same] at here
            exact kept.asks other held here }
      have law (on : ok = true) : Law broker.trace (.accepted ask.operation ask.peer ask.driver) :=
        ⟨attached on ask there, request, seen, operation⟩
      dsimp only
      cases ok with
      | false =>
        rw [if_neg Bool.false_ne_true]
        split
        · exact finished.attach inside moment nofun
        · exact finished.renewed inside false
        · exact finished
      | true =>
        rw [if_pos rfl]
        have plain : ¬ (Event.accepted ask.operation ask.peer ask.driver).Marks :=
          fun marks => marks
        have noted := finished.note plain (law rfl)
        split
        · next attach =>
          exact noted.attach inside moment fun _ => ⟨ask.driver, attach ▸ List.mem_cons_self⟩
        · exact noted.renewed inside true
        · exact noted

end Kept

namespace Kept

/-- A peer that is not registered has no lease and is not the driver. -/
theorem unregistered (kept : Kept kind broker) (free : (broker.peer index).registered = false) :
    ¬ Leased broker.trace index ∧ .attached index ∉ broker.trace ∧
      (broker.peer index).ready = false ∧ (broker.peer index).selection = false := by
  have sound := kept.sound index
  have unleased : ¬ Leased broker.trace index := by
    rw [sound.leased, free]
    exact fun both => absurd both.2 Bool.false_ne_true
  refine ⟨unleased, ?_, ?_, ?_⟩
  · rw [sound.attached, free]
    exact fun both => absurd both.2 Bool.false_ne_true
  · by_contra ready
    obtain ⟨memory, sent⟩ := sound.ready (Bool.not_eq_false _ ▸ ready)
    obtain ⟨earlier, ⟨-, -, generation, given, -⟩, past⟩ := kept.lawful.mem sent
    exact unleased ⟨generation, _, memory, past _ given⟩
  · by_contra selection
    obtain ⟨-, -, registered, -⟩ := sound.selection (Bool.not_eq_false _ ▸ selection)
    exact absurd (free.symm.trans registered) Bool.false_ne_true

/-- A producer with a fresh lease. -/
theorem register (kept : Kept kind broker) (inside : index < broker.count)
    (worker : (broker.peer index).driver = false) (free : (broker.peer index).registered = false)
    (open' : (broker.peer index).closed = false) (nobody : broker.producer = none)
    {generation lease : UInt64} (nonzero : lease ≠ 0)
    (admitted : Admitted broker.trace index generation) (detail : XpcValue) (now : UInt64) :
    Kept kind (broker.register now index generation lease detail) := by
  obtain ⟨unleased, unattached, unready, unselected⟩ := kept.unregistered free
  have sound := kept.sound index
  have unclosed : .closed index ∉ broker.trace := by
    rw [sound.closed, open']
    exact Bool.false_ne_true
  have law : Law broker.trace (.leased index generation lease broker.mapped) := by
    refine ⟨nonzero, unclosed, admitted, ?_⟩
    intro other otherGeneration otherLease otherMemory seen
    have given : Leased broker.trace other := ⟨otherGeneration, otherLease, otherMemory, seen⟩
    obtain ⟨-, -, -, below, -⟩ := (kept.sound other).lease _ _ _ seen
    refine ⟨?_, Nat.ne_of_lt below, ?_⟩
    · rintro rfl
      exact unleased given
    · rw [(kept.sound other).closed]
      by_contra unclosed
      obtain ⟨worker, registered⟩ := (kept.sound other).leased.mp given
      have holds := (kept.sound other).producer.mpr
        ⟨worker, registered, Bool.not_eq_true _ ▸ unclosed⟩
      exact absurd (nobody.symm.trans holds) nofun
  have here : (broker.register now index generation lease detail).peer index =
      { broker.peer index with
        memory := some broker.mapped, registered := true, generation, lease, detail,
        lastRenew := now } := Function.update_self ..
  have trace : (broker.register now index generation lease detail).trace =
      [.leased index generation lease broker.mapped] ++ broker.trace := rfl
  have past : ∀ event ∈ broker.trace,
      event ∈ (broker.register now index generation lease detail).trace :=
    fun _ => List.mem_cons_of_mem _
  have seen : ∀ event : Event, event ≠ .leased index generation lease broker.mapped →
      (event ∈ (broker.register now index generation lease detail).trace ↔
        event ∈ broker.trace) := by
    intro event apart
    exact ⟨fun member => (List.mem_cons.mp member).resolve_left apart, List.mem_cons_of_mem _⟩
  have peers : ∀ other, other ≠ index →
      (broker.register now index generation lease detail).peer other = broker.peer other :=
    fun other apart => Function.update_of_ne apart ..
  have about : ∀ event ∈ [Event.leased index generation lease broker.mapped],
      event.peer = index := by
    intro event member
    rw [List.mem_singleton.mp member]
    rfl
  have this : Sound kind (broker.register now index generation lease detail) index := by
    refine ⟨?_, ?_, ?_, ?_, ?_, ?_, ?_, ?_, ?_, ?_, ?_, ?_, ?_⟩
    · rw [here, trace]
      exact ⟨fun _ => ⟨worker, rfl⟩,
        fun _ => ⟨generation, lease, broker.mapped, List.mem_cons_self⟩⟩
    · intro generation' lease' memory' given
      rw [here]
      cases List.mem_cons.mp given with
      | inl same =>
        obtain ⟨-, rfl, rfl, rfl⟩ := Event.leased.inj same
        exact ⟨rfl, rfl, nonzero, Nat.lt_succ_self _, fun _ => rfl⟩
      | inr old => exact absurd ⟨generation', lease', memory', old⟩ unleased
    · rw [here, seen (.attached index) nofun]
      refine ⟨fun attached => absurd attached unattached, fun both => ?_⟩
      exact absurd (worker.symm.trans both.1) Bool.false_ne_true
    · rw [here, seen (.closed index) nofun]
      exact sound.closed
    · rw [here]
      exact ⟨fun _ => ⟨worker, rfl, open'⟩, fun _ => rfl⟩
    · rw [here]
      exact fun isDriver => absurd (worker.symm.trans isDriver) Bool.false_ne_true
    · intro is
      exact absurd (worker.symm.trans (sound.driver is).1) Bool.false_ne_true
    · rw [here]
      exact fun ready => absurd (unready.symm.trans ready) Bool.false_ne_true
    · rw [here]
      exact fun held => absurd (unselected.symm.trans held) Bool.false_ne_true
    · rw [here, seen (.restored index) nofun]
      exact sound.unrestored
    · rw [here]
      intro closed held
      obtain ⟨unqueued, unseen⟩ := sound.unselected closed held
      exact ⟨unqueued, fun done member => unseen done
        ((seen (.selected index done) nofun).mp member)⟩
    · rw [here]
      exact fun closed => absurd (open'.symm.trans closed) Bool.false_ne_true
    · rw [seen (.restored index) nofun]
      exact sound.settled
  exact {
    lawful := kept.lawful.cons law
    detaches := kept.detaches.cons nofun
    sound := Sound.others kept.sound trace about peers
      (fun other apart => by
        rw [nobody]
        exact ⟨fun same => absurd (Option.some.inj same).symm apart, nofun⟩)
      (fun _ _ => Iff.rfl) (Nat.le_succ _) (fun _ _ => Iff.rfl) (fun _ _ => Iff.rfl) this
    asks := fun _ _ => kept.asked_mono past
    choices := fun peer held member => (kept.choices peer held member).mono past
    chosen := fun entry member => (kept.chosen entry member).mono past
    ordered := kept.ordered
    unborn := kept.still inside _
    inside := kept.inside }

end Kept

end Plank.Device
