import Plank.Device.BrokerLaw

/-!
# Runs of a device broker

Every block of the broker keeps what `Kept` says, whatever its peers, the driver and `_authorize`
do, and a block that is about one lease leaves the others alone.
-/

namespace Plank.Device

open Trace (Each)
open Wire (XpcValue XpcFields)

variable {kind : Kind} {broker before after : Broker} {index : Nat}

namespace Kept

/-- A new lease, and the message to the driver. -/
theorem lend (kept : Kept kind broker) (inside : index < broker.count)
    (worker : (broker.peer index).driver = false) (free : (broker.peer index).registered = false)
    (open' : (broker.peer index).closed = false) (nobody : broker.producer = none)
    {generation : UInt64} (admitted : Admitted broker.trace index generation) (detail : XpcValue)
    (moment : Moment) : Kept kind (broker.lend kind moment index generation detail) := by
  have nonzero : (if moment.random = 0 then 1 else moment.random) ≠ 0 := by
    split
    · decide
    · next random => exact random
  have unclosed : .closed index ∉ broker.trace := by
    rw [(kept.sound index).closed, open']
    exact Bool.false_ne_true
  unfold Broker.lend
  dsimp only
  generalize (if moment.random = 0 then 1 else moment.random) = lease at nonzero ⊢
  have registered :=
    kept.register inside worker free open' nobody nonzero admitted detail moment.now
  split
  · next sent sending =>
    refine registered.send sending fun driver => ?_
    have same : ((broker.register moment.now index generation lease detail).peer index).lease =
        lease := by
      unfold Broker.register
      dsimp only
      rw [Function.update_self]
    refine ⟨generation, broker.mapped, ?_, .inl ⟨rfl, rfl, ?_⟩⟩
    · show Event.leased index generation _ broker.mapped ∈ _
      unfold Broker.request
      dsimp only
      rw [same]
      exact List.mem_cons_self
    · exact fun member => (List.mem_cons.mp member).elim nofun unclosed
  · exact registered.attach inside moment nofun

/-- A registered producer. -/
theorem goOn (kept : Kept kind broker) (inside : index < broker.count) {generation : UInt64}
    (admitted : Admitted broker.trace index generation) (detail : XpcValue) (moment : Moment) :
    Kept kind (broker.goOn kind moment index generation detail) := by
  unfold Broker.goOn
  dsimp only
  split
  · exact kept.close inside
  · next going =>
    simp only [Bool.or_eq_true, Bool.not_eq_true', decide_eq_true_eq, not_or, ne_eq, not_not,
      Bool.not_eq_false] at going
    obtain ⟨⟨⟨producer, same⟩, ready⟩, -⟩ := going
    obtain ⟨memory, given, -⟩ := kept.given producer
    have law : Law broker.trace (.replied index (broker.peer index).lease none) :=
      ⟨kept.unclosed producer, (kept.sound index).ready ready, _, memory, given, same ▸ admitted⟩
    have touched : Kept kind (broker.setPeer index fun peer =>
      { peer with lastRenew := moment.now }) := kept.touch inside rfl
    exact touched.note id law

/-- The message of a producer. -/
theorem produce (kept : Kept kind broker) (inside : index < broker.count)
    (worker : (broker.peer index).driver = false) (open' : (broker.peer index).closed = false)
    (moment : Moment) (fields : XpcFields) :
    Kept kind (broker.produce kind moment index fields) := by
  unfold Broker.produce
  split
  · next detail generation _ _ =>
    split
    · exact kept.close inside
    · have consulted := kept.consult moment index generation
      dsimp only
      split
      · exact consulted.close inside
      · next allowed =>
        have allowed : broker.answer moment index generation = true := by
          simp only [Bool.or_eq_true, Bool.not_eq_true', not_or, Bool.not_eq_false] at allowed
          exact allowed.1
        have admitted : Admitted (broker.consult moment index generation).trace index
            generation := by
          unfold Broker.consult
          rw [allowed]
          rfl
        split
        · exact consulted.goOn inside admitted detail moment
        · next free =>
          split
          · exact consulted.close inside
          · next nobody =>
            simp only [Bool.or_eq_true, Bool.not_eq_true', not_or, Bool.not_eq_true,
              Option.isSome_eq_false_iff, Option.isNone_iff_eq_none] at nobody
            exact consulted.lend inside worker (Bool.not_eq_true _ ▸ free) open' nobody.1 admitted
              detail moment
  · exact kept.close inside

/-- A peer becomes the driver. -/
theorem adopt (kept : Kept kind broker) (inside : index < broker.count)
    (isDriver : (broker.peer index).driver = true) (free : (broker.peer index).registered = false)
    (nobody : broker.driver = none) :
    Kept kind (broker.adopt index) := by
  obtain ⟨unleased, unattached, -, unselected⟩ := kept.unregistered free
  have sound := kept.sound index
  have law : Law broker.trace (.attached index) := by
    intro other seen
    obtain ⟨isDriver, registered⟩ := (kept.sound other).attached.mp seen
    rw [(kept.sound other).closed]
    by_contra unclosed
    have attached := (kept.sound other).stays isDriver registered (Bool.not_eq_true _ ▸ unclosed)
    exact absurd (nobody.symm.trans attached) nofun
  have here : (broker.adopt index).peer index = { broker.peer index with registered := true } :=
    Function.update_self ..
  have trace : (broker.adopt index).trace = [.attached index] ++ broker.trace := rfl
  have past : ∀ event ∈ broker.trace, event ∈ (broker.adopt index).trace :=
    fun _ => List.mem_cons_of_mem _
  have about : ∀ event ∈ [Event.attached index], event.peer = index := by
    intro event member
    rw [List.mem_singleton.mp member]
    rfl
  have peers : ∀ other, other ≠ index → (broker.adopt index).peer other = broker.peer other :=
    fun other apart => Function.update_of_ne apart ..
  have seen : ∀ event : Event, event ≠ .attached index →
      (event ∈ (broker.adopt index).trace ↔ event ∈ broker.trace) := by
    intro event apart
    exact ⟨fun member => (List.mem_cons.mp member).resolve_left apart, List.mem_cons_of_mem _⟩
  have this : Sound kind (broker.adopt index) index := by
    refine ⟨?_, ?_, ?_, ?_, ?_, ?_, ?_, ?_, ?_, ?_, ?_, ?_, ?_⟩
    · rw [here, isDriver]
      refine ⟨fun ⟨generation, lease, memory, given⟩ => ?_, fun both => absurd both.1 nofun⟩
      exact absurd ⟨generation, lease, memory,
        (seen (.leased index generation lease memory) nofun).mp given⟩ unleased
    · intro generation lease memory given
      exact absurd ⟨generation, lease, memory,
        (seen (.leased index generation lease memory) nofun).mp given⟩ unleased
    · rw [here]
      exact ⟨fun _ => ⟨isDriver, rfl⟩, fun _ => List.mem_cons_self⟩
    · rw [here, seen (.closed index) nofun]
      exact sound.closed
    · rw [here, isDriver]
      refine ⟨fun held => ?_, fun both => absurd both.1 nofun⟩
      exact absurd ((sound.producer.mp held).1.symm.trans isDriver) Bool.false_ne_true
    · exact fun _ _ _ => rfl
    · rw [here]
      exact fun _ => ⟨isDriver, rfl⟩
    · rw [here]
      intro ready
      obtain ⟨memory, sent⟩ := sound.ready ready
      exact ⟨memory, past _ sent⟩
    · rw [here]
      exact fun held => absurd (unselected.symm.trans held) Bool.false_ne_true
    · rw [here, seen (.restored index) nofun]
      exact sound.unrestored
    · rw [here]
      intro closed held
      obtain ⟨unqueued, unseen⟩ := sound.unselected closed held
      exact ⟨unqueued, fun done member => unseen done
        ((seen (.selected index done) nofun).mp member)⟩
    · rw [here, seen (.restored index) nofun]
      rintro closed (queued | ⟨done, chosen⟩)
      · exact sound.restores closed (.inl queued)
      · exact sound.restores closed (.inr ⟨done, (seen (.selected index done) nofun).mp chosen⟩)
    · rw [seen (.restored index) nofun]
      exact sound.settled
  exact {
    lawful := kept.lawful.cons law
    detaches := kept.detaches.cons nofun
    sound := Sound.others kept.sound trace about peers (fun _ _ => Iff.rfl)
      (fun other apart => by
        rw [nobody]
        exact ⟨fun same => absurd (Option.some.inj same).symm apart, nofun⟩)
      (Nat.le_refl _) (fun _ _ => Iff.rfl) (fun _ _ => Iff.rfl) this
    asks := fun _ _ => kept.asked_mono past
    choices := fun peer held member => (kept.choices peer held member).mono past
    chosen := fun entry member => (kept.chosen entry member).mono past
    ordered := kept.ordered
    unborn := kept.still inside _
    inside := kept.inside }

/-- `receive`. -/
theorem receive (kept : Kept kind broker) (inside : index < broker.count) (moment : Moment)
    (message : Option XpcFields) : Kept kind (broker.receive kind moment index message) := by
  unfold Broker.receive
  dsimp only
  split
  · exact kept
  · next here =>
    simp only [Bool.or_eq_true, not_or, Bool.not_eq_true] at here
    split
    · exact kept.close inside
    · next fields =>
      split
      · exact kept.close inside
      · split
        · next isDriver =>
          split
          · exact kept.close inside
          · next free =>
            simp only [Bool.or_eq_true, not_or, Bool.not_eq_true, Option.isSome_eq_false_iff,
              Option.isNone_iff_eq_none] at free
            exact kept.adopt inside isDriver free.1.1.2 free.1.1.1
        · next worker =>
          exact kept.produce inside (Bool.not_eq_true _ ▸ worker) here.1 moment fields

/-- `accept`. -/
theorem accept (kept : Kept kind broker) (driver trusted : Bool) (now : UInt64) :
    Kept kind (broker.accept driver trusted now) := by
  unfold Broker.accept
  split
  · exact kept
  · have fresh : broker.peer broker.count = {} := kept.unborn _ (Nat.le_refl _)
    have unregistered := congrArg Peer.registered fresh
    obtain ⟨unleased, unattached, -, -⟩ := kept.unregistered unregistered
    have sound := kept.sound broker.count
    have unclosed : .closed broker.count ∉ broker.trace := by
      rw [sound.closed, fresh]
      exact Bool.false_ne_true
    have here : ({ broker with
        peer := Function.update broker.peer broker.count { driver, created := now }
        count := broker.count + 1
        peers := broker.peers ++ [broker.count] } : Broker).peer broker.count =
        { driver, created := now } := Function.update_self ..
    exact {
      lawful := kept.lawful
      detaches := kept.detaches
      sound := fun other => by
        by_cases new : other = broker.count
        · subst new
          refine ⟨?_, ?_, ?_, ?_, ?_, ?_, ?_, ?_, ?_, ?_, ?_, ?_, ?_⟩
          · rw [here]
            exact ⟨fun leased => absurd leased unleased,
              fun both => absurd both.2 Bool.false_ne_true⟩
          · exact fun generation lease memory given =>
              absurd ⟨generation, lease, memory, given⟩ unleased
          · rw [here]
            exact ⟨fun attached => absurd attached unattached,
              fun both => absurd both.2 Bool.false_ne_true⟩
          · rw [here]
            exact ⟨fun closed => absurd closed unclosed,
              fun closed => absurd closed Bool.false_ne_true⟩
          · rw [here]
            refine ⟨fun held => ?_, fun both => absurd both.2.1 Bool.false_ne_true⟩
            exact absurd (unregistered.symm.trans (sound.producer.mp held).2.1) Bool.false_ne_true
          · rw [here]
            exact fun _ registered => absurd registered Bool.false_ne_true
          · exact fun is => absurd (unregistered.symm.trans (sound.driver is).2)
              Bool.false_ne_true
          · rw [here]
            exact fun ready => absurd ready Bool.false_ne_true
          · rw [here]
            exact fun held => absurd held Bool.false_ne_true
          · exact fun _ => sound.unrestored (congrArg Peer.closed fresh)
          · exact fun _ _ => sound.unselected (congrArg Peer.closed fresh)
              (congrArg Peer.selection fresh)
          · rw [here]
            exact fun closed => absurd closed Bool.false_ne_true
          · exact sound.settled
        · exact (kept.sound other).same (congrArg Peer.core (Function.update_of_ne new ..)) rfl rfl
            rfl rfl rfl
      asks := kept.asks
      choices := kept.choices
      chosen := kept.chosen
      ordered := kept.ordered
      unborn := fun other beyond => by
        have beyond : broker.count + 1 ≤ other := beyond
        have apart : other ≠ broker.count := by omega
        exact (Function.update_of_ne apart ..).trans (kept.unborn other (by omega))
      inside := fun other member => by
        have below : other < broker.count ∨ other = broker.count := by
          cases List.mem_append.mp member with
          | inl old => exact .inl (kept.inside other old)
          | inr new => exact .inr (List.mem_singleton.mp new)
        show other < broker.count + 1
        omega }

/-- Closing peers one after the other. -/
theorem closing (kept : Kept kind broker) {peers : List Nat}
    (inside : ∀ index ∈ peers, index < broker.count) (ends : Broker → Nat → Bool) :
    Kept kind (peers.foldl (fun broker index =>
      if ends broker index then broker.close kind index else broker) broker) := by
  induction peers generalizing broker with
  | nil => exact kept
  | cons index peers ih =>
    rw [List.foldl_cons]
    split
    · refine ih (kept.close (inside index List.mem_cons_self)) fun other member => ?_
      rw [close_count]
      exact inside other (List.mem_cons_of_mem _ member)
    · exact ih kept fun other member => inside other (List.mem_cons_of_mem _ member)

/-- The timer looks after the producer. -/
theorem watch (kept : Kept kind broker) (moment : Moment) :
    Kept kind (broker.watch kind moment) := by
  unfold Broker.watch
  split
  · exact kept
  · next index producer =>
    have inside : index < broker.count :=
      kept.born ((kept.sound index).producer.mp producer).2.1
    obtain ⟨memory, given, -⟩ := kept.given producer
    dsimp only
    split
    · exact kept.close inside
    · have consulted := kept.consult moment index (broker.peer index).generation
      split
      · exact consulted.close inside
      · split
        · exact consulted
        · have pending : Kept kind ((broker.consult moment index
              (broker.peer index).generation).setPeer index fun peer =>
                { peer with pending := true }) := consulted.touch inside rfl
          split
          · next sent sending =>
            refine pending.send sending fun driver => ?_
            have lease : ((broker.consult moment index (broker.peer index).generation).setPeer index
                fun peer => { peer with pending := true }).request .renew index none =
                ⟨linkVersion, Operation.renew.code, (broker.peer index).lease, none, none⟩ := by
              unfold Broker.request Broker.setPeer
              dsimp only
              rw [Function.update_self]
              rfl
            rw [lease]
            exact ⟨_, memory, List.mem_cons_of_mem _ given, .inr (.inl ⟨rfl, rfl, fun member =>
              (List.mem_cons.mp member).elim nofun (kept.unclosed producer)⟩)⟩
          · exact pending.renewed inside false

end Kept

/-- Another event gives nobody a lease. -/
theorem leased_cons {trace : List Event} {event : Event}
    (apart : ∀ generation lease memory, event ≠ .leased index generation lease memory) :
    Leased (event :: trace) index ↔ Leased trace index := by
  constructor
  · rintro ⟨generation, lease, memory, given⟩
    exact ⟨generation, lease, memory,
      (List.mem_cons.mp given).resolve_left (apart generation lease memory).symm⟩
  · rintro ⟨generation, lease, memory, given⟩
    exact ⟨generation, lease, memory, List.mem_cons_of_mem _ given⟩

namespace Kept

/-- A selection runs. -/
theorem select (kept : Kept kind broker) {held : Bool} {rest : List Choice}
    (queue : broker.choices = .select index held :: rest) (done : Bool) :
    Kept kind (broker.choose done) := by
  have member : Choice.select index held ∈ broker.choices := by
    rw [queue]
    exact List.mem_cons_self
  have accepted := kept.choices index held member
  have restore : ∀ other, .restore other true ∈ rest ↔ .restore other true ∈ broker.choices := by
    intro other
    rw [queue]
    exact ⟨List.mem_cons_of_mem _, fun here => (List.mem_cons.mp here).resolve_left nofun⟩
  have later : ∀ choice ∈ rest, choice ∈ broker.choices := by
    intro choice here
    rw [queue]
    exact List.mem_cons_of_mem _ here
  have ordered := kept.ordered
  rw [queue] at ordered
  have entry : ∀ next ∈ broker.chosen ++ [(index, !held || done)],
      Accepted broker.trace next.1 := by
    intro next here
    cases List.mem_append.mp here with
    | inl old => exact kept.chosen next old
    | inr new =>
      rw [List.mem_singleton.mp new]
      exact accepted
  unfold Broker.choose
  rw [queue]
  dsimp only
  cases held with
  | false =>
    rw [if_neg Bool.false_ne_true]
    have same : ∀ other, .select other true ∈ rest ↔ .select other true ∈ broker.choices := by
      intro other
      rw [queue]
      exact ⟨List.mem_cons_of_mem _, fun here => (List.mem_cons.mp here).resolve_left nofun⟩
    exact { kept with
      sound := fun other => (kept.sound other).congr ⟨rfl, fun _ _ _ => Iff.rfl,
        fun _ seen => seen, Iff.rfl, Iff.rfl, Nat.le_refl _, same other, restore other⟩
      choices := fun peer held here => kept.choices peer held (later _ here)
      chosen := entry
      ordered := ordered.tail }
  | true =>
    rw [if_pos rfl]
    have law : Law broker.trace (.selected index done) :=
      ⟨accepted, fun restored => (kept.sound index).settled restored member⟩
    have seen : ∀ event : Event, event ≠ .selected index done →
        (event ∈ Event.selected index done :: broker.trace ↔ event ∈ broker.trace) := by
      intro event apart
      exact ⟨fun here => (List.mem_cons.mp here).resolve_left apart, List.mem_cons_of_mem _⟩
    have apart : ∀ generation lease memory,
        Event.selected index done ≠ .leased index generation lease memory := fun _ _ _ => nofun
    have about : ∀ event ∈ [Event.selected index done], event.peer = index := by
      intro event here
      rw [List.mem_singleton.mp here]
      rfl
    have sound := kept.sound index
    have this : Sound kind ({ broker with
        choices := rest, chosen := broker.chosen ++ [(index, !true || done)] }.note
          (.selected index done)) index := {
      leased := (leased_cons apart).trans sound.leased
      lease := fun generation lease memory given => sound.lease generation lease memory
        ((seen (.leased index generation lease memory) nofun).mp given)
      attached := (seen (.attached index) nofun).trans sound.attached
      closed := (seen (.closed index) nofun).trans sound.closed
      producer := sound.producer
      stays := sound.stays
      driver := sound.driver
      ready := fun ready => by
        obtain ⟨memory, sent⟩ := sound.ready ready
        exact ⟨memory, List.mem_cons_of_mem _ sent⟩
      selection := sound.selection
      unrestored := fun open' => by
        obtain ⟨unqueued, unrestored⟩ := sound.unrestored open'
        exact ⟨fun here => unqueued ((restore index).mp here),
          fun here => unrestored ((seen (.restored index) nofun).mp here)⟩
      unselected := fun open' unheld => absurd member (sound.unselected open' unheld).1
      restores := fun closed _ => by
        rcases sound.restores closed (.inl member) with past | queued
        · exact .inl (List.mem_cons_of_mem _ past)
        · exact .inr ((restore index).mpr queued)
      settled := fun restored here =>
        sound.settled ((seen (.restored index) nofun).mp restored) (later _ here) }
    exact {
      lawful := kept.lawful.cons law
      detaches := kept.detaches.cons nofun
      sound := Sound.others kept.sound rfl about (fun _ _ => rfl) (fun _ _ => Iff.rfl)
        (fun _ _ => Iff.rfl) (Nat.le_refl _) (fun other apart => by
          rw [queue]
          refine ⟨List.mem_cons_of_mem _, fun here => (List.mem_cons.mp here).resolve_left ?_⟩
          exact fun same => apart (Choice.select.inj same).1) (fun other _ => restore other) this
      asks := fun _ _ => kept.asked_mono fun _ => List.mem_cons_of_mem _
      choices := fun peer held here => (kept.choices peer held (later _ here)).mono
        fun _ => List.mem_cons_of_mem _
      chosen := fun next here => (entry next here).mono fun _ => List.mem_cons_of_mem _
      ordered := ordered.tail
      unborn := kept.unborn
      inside := kept.inside }

/-- A restoration runs. -/
theorem restore (kept : Kept kind broker) {held : Bool} {rest : List Choice}
    (queue : broker.choices = .restore index held :: rest) (done : Bool) :
    Kept kind (broker.choose done) := by
  have select : ∀ other, .select other true ∈ rest ↔ .select other true ∈ broker.choices := by
    intro other
    rw [queue]
    exact ⟨List.mem_cons_of_mem _, fun here => (List.mem_cons.mp here).resolve_left nofun⟩
  have later : ∀ choice ∈ rest, choice ∈ broker.choices := by
    intro choice here
    rw [queue]
    exact List.mem_cons_of_mem _ here
  have ordered := kept.ordered
  rw [queue] at ordered
  unfold Broker.choose
  rw [queue]
  dsimp only
  cases held with
  | false =>
    rw [if_neg Bool.false_ne_true]
    have same : ∀ other, .restore other true ∈ rest ↔ .restore other true ∈ broker.choices := by
      intro other
      rw [queue]
      exact ⟨List.mem_cons_of_mem _, fun here => (List.mem_cons.mp here).resolve_left nofun⟩
    exact { kept with
      sound := fun other => (kept.sound other).congr ⟨rfl, fun _ _ _ => Iff.rfl,
        fun _ seen => seen, Iff.rfl, Iff.rfl, Nat.le_refl _, select other, same other⟩
      choices := fun peer held here => kept.choices peer held (later _ here)
      ordered := ordered.tail }
  | true =>
    rw [if_pos rfl]
    have sound := kept.sound index
    have member : Choice.restore index true ∈ broker.choices := by
      rw [queue]
      exact List.mem_cons_self
    have closed : (broker.peer index).closed = true := by
      by_contra open'
      exact (sound.unrestored (Bool.not_eq_true _ ▸ open')).1 member
    have law : Law broker.trace (.restored index) := sound.closed.mpr closed
    have seen : ∀ event : Event, event ≠ .restored index →
        (event ∈ Event.restored index :: broker.trace ↔ event ∈ broker.trace) := by
      intro event apart
      exact ⟨fun here => (List.mem_cons.mp here).resolve_left apart, List.mem_cons_of_mem _⟩
    have apart : ∀ generation lease memory,
        Event.restored index ≠ .leased index generation lease memory := fun _ _ _ => nofun
    have about : ∀ event ∈ [Event.restored index], event.peer = index := by
      intro event here
      rw [List.mem_singleton.mp here]
      rfl
    have this : Sound kind ({ broker with choices := rest }.note (.restored index)) index := {
      leased := (leased_cons apart).trans sound.leased
      lease := fun generation lease memory given => sound.lease generation lease memory
        ((seen (.leased index generation lease memory) nofun).mp given)
      attached := (seen (.attached index) nofun).trans sound.attached
      closed := (seen (.closed index) nofun).trans sound.closed
      producer := sound.producer
      stays := sound.stays
      driver := sound.driver
      ready := fun ready => by
        obtain ⟨memory, sent⟩ := sound.ready ready
        exact ⟨memory, List.mem_cons_of_mem _ sent⟩
      selection := sound.selection
      unrestored := fun open' => absurd (closed.symm.trans open') nofun
      unselected := fun open' => absurd (closed.symm.trans open') nofun
      restores := fun _ _ => .inl List.mem_cons_self
      settled := fun _ here =>
        (List.pairwise_cons.mp ordered).1 _ here index rfl rfl }
    exact {
      lawful := kept.lawful.cons law
      detaches := kept.detaches.cons nofun
      sound := Sound.others kept.sound rfl about (fun _ _ => rfl) (fun _ _ => Iff.rfl)
        (fun _ _ => Iff.rfl) (Nat.le_refl _) (fun other _ => select other) (fun other apart => by
          rw [queue]
          refine ⟨List.mem_cons_of_mem _, fun here => (List.mem_cons.mp here).resolve_left ?_⟩
          exact fun same => apart (Choice.restore.inj same).1) this
      asks := fun _ _ => kept.asked_mono fun _ => List.mem_cons_of_mem _
      choices := fun peer held here => (kept.choices peer held (later _ here)).mono
        fun _ => List.mem_cons_of_mem _
      chosen := fun next here => (kept.chosen next here).mono fun _ => List.mem_cons_of_mem _
      ordered := ordered.tail
      unborn := kept.unborn
      inside := kept.inside }

/-- The next block on the queue of the selections. -/
theorem choose (kept : Kept kind broker) (done : Bool) : Kept kind (broker.choose done) := by
  cases queue : broker.choices with
  | nil =>
    unfold Broker.choose
    rw [queue]
    exact kept
  | cons choice rest =>
    cases choice with
    | select index held => exact kept.select queue done
    | restore index held => exact kept.restore queue done

/-- A peer whose mapping was accepted was born. -/
theorem acceptedBorn (kept : Kept kind broker) (accepted : Accepted broker.trace index) :
    index < broker.count := by
  obtain ⟨driver, seen⟩ := accepted
  obtain ⟨earlier, ⟨-, request, asked, -⟩, past⟩ := kept.lawful.mem seen
  exact (kept.asked (past _ asked)).2

/-- The next block behind a selection. -/
theorem resume (kept : Kept kind broker) (moment : Moment) :
    Kept kind (broker.resume kind moment) := by
  unfold Broker.resume
  split
  · exact kept
  · next index selected rest queue =>
    have accepted : Accepted broker.trace index :=
      kept.chosen (index, selected) (by rw [queue]; exact List.mem_cons_self)
    have taken : Kept kind { broker with chosen := rest } := { kept with
      sound := fun other => (kept.sound other).same rfl rfl rfl rfl rfl rfl
      chosen := fun entry here => kept.chosen entry (by
        rw [queue]
        exact List.mem_cons_of_mem _ here) }
    exact taken.settle accepted (kept.acceptedBorn accepted) moment selected

/-- The driver that accepts is the one that was asked. -/
theorem accepting (kept : Kept kind broker) {id : Nat} {reply : Option XpcFields}
    (ok : broker.accepting id reply = true) {ask : Ask} (there : broker.asks id = some ask) :
    Attached broker.trace ask.driver := by
  unfold Broker.accepting at ok
  rw [there] at ok
  split at ok
  · next held fields same =>
    obtain rfl := Option.some.inj same
    simp only [Bool.and_eq_true, decide_eq_true_eq, Bool.not_eq_true'] at ok
    obtain ⟨⟨⟨⟨-, driver⟩, open'⟩, -⟩, -⟩ := ok
    refine ⟨(kept.sound _).attached.mpr ((kept.sound _).driver driver), ?_⟩
    rw [(kept.sound _).closed, open']
    exact Bool.false_ne_true
  · exact absurd ok Bool.false_ne_true

end Kept

/-- Every block keeps it. -/
theorem kept_preserved (kind : Kind) : (system kind).Preserves (Kept kind) := by
  intro before action after kept stepped
  cases action with
  | connect driver trusted now =>
    obtain rfl := Option.some.inj stepped
    exact kept.accept driver trusted now
  | message index identity message moment =>
    obtain ⟨inside, stepped⟩ := Option.ite_none_right_eq_some.mp stepped
    obtain rfl := Option.some.inj stepped
    have touched : Kept kind (before.setPeer index fun peer => { peer with identity }) :=
      kept.touch inside rfl
    exact touched.receive inside moment message
  | reply ask reply moment =>
    obtain rfl := Option.some.inj stepped
    exact kept.finish moment ask fun ok _ there => kept.accepting ok there
  | expire ask moment =>
    obtain rfl := Option.some.inj stepped
    exact kept.finish moment ask nofun
  | tick moment =>
    obtain rfl := Option.some.inj stepped
    exact (kept.closing kept.inside fun broker index =>
      !(broker.peer index).registered &&
        moment.now - (broker.peer index).created ≥ Broker.patience).watch moment
  | choose done =>
    obtain rfl := Option.some.inj stepped
    exact kept.choose done
  | resume moment =>
    obtain rfl := Option.some.inj stepped
    exact kept.resume moment
  | stop =>
    obtain rfl := Option.some.inj stepped
    unfold Broker.stop
    split
    · exact kept
    · have stopped : Kept kind { before with stopped := true } := { kept with
        sound := fun other => (kept.sound other).same rfl rfl rfl rfl rfl rfl }
      exact stopped.closing kept.inside fun _ _ => true

/-- Nobody has come. -/
theorem kept_initial (kind : Kind) : Kept kind {} where
  lawful := .nil
  detaches := fun _ _ _ _ _ _ _ split => absurd split (by simp)
  sound _ := {
    leased := ⟨fun ⟨_, _, _, given⟩ => absurd given List.not_mem_nil,
      fun both => absurd both.2 nofun⟩
    lease := fun _ _ _ given => absurd given List.not_mem_nil
    attached := ⟨fun seen => absurd seen List.not_mem_nil, fun both => absurd both.2 nofun⟩
    closed := ⟨fun seen => absurd seen List.not_mem_nil, fun closed => absurd closed nofun⟩
    producer := ⟨nofun, fun both => absurd both.2.1 nofun⟩
    stays := fun _ registered => absurd registered nofun
    driver := nofun
    ready := fun ready => absurd ready nofun
    selection := fun held => absurd held nofun
    unrestored := fun _ => ⟨List.not_mem_nil, List.not_mem_nil⟩
    unselected := fun _ _ => ⟨List.not_mem_nil, fun _ => List.not_mem_nil⟩
    restores := fun closed => absurd closed nofun
    settled := fun restored => absurd restored List.not_mem_nil }
  asks _ _ there := absurd there nofun
  choices _ _ there := absurd there List.not_mem_nil
  chosen _ there := absurd there List.not_mem_nil
  ordered := .nil
  unborn _ _ := rfl
  inside _ there := absurd there List.not_mem_nil

namespace Apart

/-- The same lease, with the peers and the queues of a state that agrees on them. -/
theorem of_eq {subject : Nat} (peer : after.peer = before.peer)
    (producer : after.producer = before.producer) (driver : after.driver = before.driver)
    (trace : after.trace = before.trace) (choices : after.choices = before.choices)
    (count : after.count = before.count) : Apart subject before after where
  peers _ _ := by rw [peer]
  producer _ _ := by rw [producer]
  driver := driver
  trace := ⟨[], trace, fun _ member => absurd member List.not_mem_nil⟩
  choices _ _ _ := by rw [choices]; exact ⟨Iff.rfl, Iff.rfl⟩
  count := count

/-- `_authorize` is asked. -/
theorem consult (broker : Broker) (moment : Moment) (index : Nat) (generation : UInt64) :
    Apart index broker (broker.consult moment index generation) := note broker rfl

/-- The mapping is sent. -/
theorem grant (broker : Broker) (index : Nat) : Apart index broker (broker.grant index) :=
  (setPeer broker index _).trans (note _ rfl)

/-- A producer that was authorized again, or not. -/
theorem again (kind : Kind) {broker : Broker} {index : Nat} (apart : broker.driver ≠ some index)
    (moment : Moment) (generation : UInt64) :
    Apart index broker ((broker.consult moment index generation).close kind index) ∧
      Apart index broker ((broker.consult moment index generation).grant index) :=
  ⟨(consult broker moment index generation).trans (close kind _ apart),
    (consult broker moment index generation).trans (grant _ index)⟩

/-- The block behind a selection. -/
theorem settle (kind : Kind) (broker : Broker) {index : Nat} (apart : broker.driver ≠ some index)
    (moment : Moment) (selected : Bool) :
    Apart index broker (broker.settle kind moment index selected) := by
  unfold Broker.settle
  dsimp only
  split
  · exact refl index broker
  · split
    · exact close kind broker apart
    · split
      · exact (again kind apart moment _).1
      · exact (again kind apart moment _).2

/-- The completion of operation 1. -/
theorem attach (kind : Kind) (broker : Broker) {index : Nat} (apart : broker.driver ≠ some index)
    (moment : Moment) (ok : Bool) : Apart index broker (broker.attach kind moment index ok) := by
  unfold Broker.attach
  dsimp only
  split
  · exact refl index broker
  · split
    · exact close kind broker apart
    · split
      · exact (again kind apart moment _).1
      · split
        · refine (consult broker moment index (broker.peer index).generation).trans
            ⟨fun _ other => Function.update_of_ne other .., fun _ _ => Iff.rfl, rfl,
              ⟨[], rfl, fun _ member => absurd member List.not_mem_nil⟩, ?_, rfl⟩
          intro other different held
          rw [List.mem_append, List.mem_append]
          refine ⟨⟨fun member => member.resolve_right fun new => ?_, .inl⟩,
            ⟨fun member => member.resolve_right fun new => ?_, .inl⟩⟩
          · exact different (Choice.select.inj (List.mem_singleton.mp new)).1
          · exact absurd (List.mem_singleton.mp new) nofun
        · exact (again kind apart moment _).2

/-- The completion of operation 2. -/
theorem renewed (kind : Kind) (broker : Broker) {index : Nat}
    (apart : broker.driver ≠ some index) (ok : Bool) :
    Apart index broker (broker.renewed kind index ok) := by
  unfold Broker.renewed
  dsimp only
  split
  · exact setPeer broker index _
  · exact (setPeer broker index _).trans (close kind _ apart)

/-- `finish`. -/
theorem finish (kind : Kind) {broker : Broker} {id : Nat} {ask : Ask}
    (there : broker.asks id = some ask) (apart : broker.driver ≠ some ask.peer) (moment : Moment)
    (ok : Bool) : Apart ask.peer broker (broker.finish kind moment id ok) := by
  unfold Broker.finish
  rw [there]
  dsimp only
  split
  · exact refl ask.peer broker
  · have finished : Apart ask.peer broker { broker with
        asks := Function.update broker.asks id (some { ask with finished := true }) } :=
      of_eq rfl rfl rfl rfl rfl rfl
    have noted : Apart ask.peer broker ({ broker with
        asks := Function.update broker.asks id (some { ask with finished := true }) }.note
          (.accepted ask.operation ask.peer ask.driver)) := finished.trans (note _ rfl)
    cases ok with
    | false =>
      rw [if_neg Bool.false_ne_true]
      split
      · refine finished.trans (attach kind _ ?_ moment false)
        exact apart
      · refine finished.trans (renewed kind _ ?_ false)
        exact apart
      · exact finished
    | true =>
      rw [if_pos rfl]
      split
      · refine noted.trans (attach kind _ ?_ moment true)
        exact apart
      · refine noted.trans (renewed kind _ ?_ true)
        exact apart
      · exact noted

end Apart

/-- The lease that a block is about, where it belongs to one: an answer of the driver, the end of
the wait for it, and the block behind a selection. -/
def Action.lease (broker : Broker) : Action → Option Nat
  | .reply ask _ _ | .expire ask _ => (broker.asks ask).map Ask.peer
  | .resume _ => broker.chosen.head?.map Prod.fst
  | _ => none

/-- A block that belongs to a lease leaves the others as they are. -/
theorem Kept.apart (kept : Kept kind before) {action : Action}
    (stepped : (system kind).step before action = some after)
    (about : action.lease before = some index) :
    Leased before.trace index ∧ Apart index before after := by
  have foreign (leased : Leased before.trace index) : before.driver ≠ some index := by
    intro driver
    have worker := ((kept.sound index).leased.mp leased).1
    exact absurd (((kept.sound index).driver driver).1.symm.trans worker) nofun
  have answered {id : Nat} {ask : Ask} (there : before.asks id = some ask) :
      Leased before.trace ask.peer := by
    obtain ⟨request, seen, -⟩ := kept.asks id ask there
    exact (kept.asked seen).1
  cases action with
  | reply id reply moment =>
    obtain rfl := Option.some.inj stepped
    obtain ⟨ask, there, rfl⟩ := Option.map_eq_some_iff.mp about
    exact ⟨answered there, .finish kind there (foreign (answered there)) moment _⟩
  | expire id moment =>
    obtain rfl := Option.some.inj stepped
    obtain ⟨ask, there, rfl⟩ := Option.map_eq_some_iff.mp about
    exact ⟨answered there, .finish kind there (foreign (answered there)) moment _⟩
  | resume moment =>
    obtain rfl := Option.some.inj stepped
    obtain ⟨entry, first, rfl⟩ := Option.map_eq_some_iff.mp about
    have member : entry ∈ before.chosen := List.mem_of_mem_head? first
    obtain ⟨driver, seen⟩ := kept.chosen entry member
    obtain ⟨earlier, ⟨-, request, asked, -⟩, past⟩ := kept.lawful.mem seen
    have leased := (kept.asked (past _ asked)).1
    refine ⟨leased, ?_⟩
    unfold Broker.resume
    cases queue : before.chosen with
    | nil =>
      rw [queue] at member
      exact absurd member List.not_mem_nil
    | cons head rest =>
      rw [queue] at first
      obtain rfl := Option.some.inj first
      have taken : Apart head.1 before { before with chosen := rest } :=
        .of_eq rfl rfl rfl rfl rfl rfl
      refine taken.trans (.settle kind _ ?_ moment head.2)
      exact foreign leased
  | _ => exact absurd about nofun

/-- The restorations that wait are made when the queue has run. -/
theorem drained (kind : Kind) (broker : Broker) {results : List Bool}
    (enough : results.length = broker.choices.length) : ∃ after,
      (system kind).run broker (results.map .choose) = some after ∧
        (∀ event ∈ broker.trace, event ∈ after.trace) ∧
        ∀ index, .restore index true ∈ broker.choices → .restored index ∈ after.trace := by
  induction results generalizing broker with
  | nil =>
    refine ⟨broker, rfl, fun _ => id, fun index member => ?_⟩
    rw [List.eq_nil_of_length_eq_zero enough.symm] at member
    exact absurd member List.not_mem_nil
  | cons done results ih =>
    cases queue : broker.choices with
    | nil =>
      rw [queue] at enough
      exact absurd enough nofun
    | cons choice rest =>
      rw [queue] at enough
      have next : (broker.choose done).choices = rest ∧
          (∀ event ∈ broker.trace, event ∈ (broker.choose done).trace) ∧
          ∀ index, choice = .restore index true → .restored index ∈ (broker.choose done).trace := by
        unfold Broker.choose
        rw [queue]
        cases choice with
        | select index held =>
          dsimp only
          split
          · exact ⟨rfl, fun _ => List.mem_cons_of_mem _, nofun⟩
          · exact ⟨rfl, fun _ => id, nofun⟩
        | restore index held =>
          dsimp only
          split
          · refine ⟨rfl, fun _ => List.mem_cons_of_mem _, fun other same => ?_⟩
            obtain ⟨rfl, -⟩ := Choice.restore.inj same
            exact List.mem_cons_self
          · next unheld =>
            refine ⟨rfl, fun _ => id, fun other same => ?_⟩
            exact absurd (Choice.restore.inj same).2 unheld
      obtain ⟨choices, past, made⟩ := next
      obtain ⟨after, run, kept, restored⟩ :=
        ih (broker.choose done) (by rw [choices]; exact Nat.succ.inj enough)
      refine ⟨after, run, fun event seen => kept _ (past _ seen), fun index member => ?_⟩
      cases List.mem_cons.mp member with
      | inl same => exact kept _ (made index same.symm)
      | inr later => exact restored index (choices ▸ later)

/-- What holds of the leases of a broker. -/
structure LeaseLaw (kind : Kind) (broker : Broker) : Prop where
  /-- Every event is lawful. -/
  lawful : Each Law broker.trace
  /-- The driver is told of every producer that goes away. -/
  detaches : Detaches broker.trace
  /-- The producer is the peer that was given a lease and is not closed. -/
  holder : ∀ index, broker.producer = some index ↔
    Leased broker.trace index ∧ .closed index ∉ broker.trace
  /-- At most one is. -/
  single : ∀ one other, Leased broker.trace one → .closed one ∉ broker.trace →
    Leased broker.trace other → .closed other ∉ broker.trace → one = other
  /-- A selection of a producer that is gone was restored, or its restoration waits. -/
  restored : ∀ index done, .selected index done ∈ broker.trace → .closed index ∈ broker.trace →
    .restored index ∈ broker.trace ∨ .restore index true ∈ broker.choices
  /-- It is made when the queue has run what it holds. -/
  drains : ∀ index done, .selected index done ∈ broker.trace → .closed index ∈ broker.trace →
    ∀ results : List Bool, results.length = broker.choices.length → ∃ after,
      (system kind).run broker (results.map .choose) = some after ∧
        .restored index ∈ after.trace
  /-- An answer of the driver, a timeout or a selection belongs to one lease, and leaves every other
  one as it is. -/
  apart : ∀ action after index, (system kind).step broker action = some after →
    action.lease broker = some index → Leased broker.trace index ∧ Apart index broker after

/-- A microphone is leased, selected, renewed and taken back; a late answer comes after that. -/
def sampleActions : List Action :=
  [.connect true true 0,
    .message 0 ⟨202, 1, 1⟩ (some [("version", .uint64 2)]) {},
    .connect false true 0,
    .message 1 ⟨501, 7, 9⟩ (some [("version", .uint64 2), ("generation", .uint64 5),
      ("automatic_input", .bool true)]) { random := 77 },
    .reply 0 (some [("accepted", .bool true)]) {},
    .choose true, .resume {}, .tick {}, .message 1 ⟨501, 7, 9⟩ none {},
    .reply 1 (some [("accepted", .bool true)]) {}, .choose true]

end Plank.Device
