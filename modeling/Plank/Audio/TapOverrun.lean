import Plank.Audio.TapRing

/-!
# Overruns are observed

A push that finds the ring full counts an overrun, and the drain takes the count before each peek. A
block pushed after an overrun waits for that, unless the overrun is counted between the drain's look
at the count and its peek, when no earlier block is left for the peek to find.
-/

namespace Plank.Audio

open Trace (Each)

variable {Sample : Type} {arithmetic : Arithmetic Sample}

namespace Tap

/-- Whether the next step of the callback records an overrun. -/
def recording (tap : Tap Sample) : Bool :=
  match tap.producer with
  | .loaded offer write read => offer.accepted.isSome && write - read ≥ tapSlots
  | _ => false

/-- Whether the drain has looked at the overruns, and its peek will find no block that is pushed
already. -/
def exposed (tap : Tap Sample) : Bool :=
  match tap.consumer with
  | .discarding _ => true
  | .dropping _ write => write = tap.writeIndex
  | .peeking _ | .comparing _ _ => tap.readIndex = tap.writeIndex
  | _ => false

/-- Steps that record no overrun while the drain is exposed, nor more than the word counts. -/
def careful (tap : Tap Sample) : TapLabel Sample → Bool
  | .produce => !tap.recording || (!tap.exposed && tap.overruns ≠ 0xffffffff)
  | _ => true

end Tap

namespace TapEvent

/-- The overruns since the last time some were observed. -/
def pending : List (TapEvent Sample) → Nat
  | [] => 0
  | .refused :: trace => pending trace + 1
  | .observed count :: trace => if count = 0 then pending trace else 0
  | _ :: trace => pending trace

/-- Nothing in this part of a trace observes an overrun. -/
def Silent (between : List (TapEvent Sample)) : Prop :=
  ∀ count, count ≠ 0 → .observed count ∉ between

/-- No block pushed after an overrun is delivered before the overrun is observed. -/
def Heard (earlier : List (TapEvent Sample)) : TapEvent Sample → Prop
  | .delivered serial _ _ => ∀ between before, earlier = between ++ .refused :: before →
      (∃ record, .pushed serial record ∈ between) → ¬ Silent between
  | _ => True

/-- An overrun after so many pushes is not observed yet. -/
def Unheard (trace : List (TapEvent Sample)) (counted : Nat) : Prop :=
  ∃ between before, trace = between ++ .refused :: before ∧ Silent between ∧
    pushes before = counted

variable {trace : List (TapEvent Sample)} {counted : Nat}

/-- The last event observes nothing, so the overrun is not observed before it either. -/
theorem Unheard.tail {event : TapEvent Sample} (unheard : Unheard (event :: trace) counted) :
    event = .refused ∧ counted = pushes trace ∨
      Unheard trace counted ∧ ∀ count, count ≠ 0 → event ≠ .observed count := by
  obtain ⟨between, before, split, silent, rfl⟩ := unheard
  cases between with
  | nil =>
    obtain ⟨rfl, rfl⟩ := List.cons.inj split
    exact .inl ⟨rfl, rfl⟩
  | cons head rest =>
    obtain ⟨rfl, rfl⟩ := List.cons.inj split
    refine .inr ⟨⟨rest, before, rfl, fun count some member => ?_, rfl⟩, ?_⟩
    · exact silent count some (List.mem_cons_of_mem _ member)
    · rintro count some rfl
      exact silent count some List.mem_cons_self

/-- An overrun that is not observed is pending. -/
theorem Unheard.pending (unheard : Unheard trace counted) : 0 < pending trace := by
  induction trace with
  | nil =>
    obtain ⟨between, before, split, _⟩ := unheard
    exact absurd split (by simp)
  | cons event trace ih =>
    rcases unheard.tail with ⟨rfl, _⟩ | ⟨earlier, other⟩
    · exact Nat.succ_pos _
    · have before := ih earlier
      cases event with
      | pushed serial record => exact before
      | refused => exact Nat.succ_pos _
      | observed count =>
        have zero : count = 0 := by
          by_contra some
          exact other count some rfl
        simpa [TapEvent.pending, zero] using before
      | delivered serial gains record => exact before

/-- The pushes of a later part have later numbers. -/
theorem pushes_le {between before : List (TapEvent Sample)} {serial : Nat}
    {record : TapRecord Sample} (each : Each (Delivers arithmetic) (between ++ before))
    (member : .pushed serial record ∈ between) : pushes before ≤ serial := by
  obtain ⟨later, earlier, rfl⟩ := List.append_of_mem member
  have numbered : serial = pushes (earlier ++ before) :=
    each later (.pushed serial record) (earlier ++ before) (by simp)
  rw [numbered]
  clear each member numbered
  induction earlier with
  | nil => exact Nat.le_refl _
  | cons event rest ih => cases event <;> simp only [List.cons_append, pushes] <;> omega

end TapEvent

open TapEvent

/-- What careful steps keep of a ring that has been read so often. -/
structure Heeds (tap : Tap Sample) (read : Nat) : Prop where
  /-- The word counts what is pending. -/
  counted : tap.overruns.toNat = pending tap.trace
  /-- The next block comes before any overrun that is not observed. -/
  before : ∀ counted, Unheard tap.trace counted → tap.consumer.Before read counted
  /-- The deliveries so far. -/
  heard : Each Heard tap.trace

variable {tap : Tap Sample} {read : Nat}

/-- While the drain is not exposed, its next block is pushed already. -/
theorem Ring.before_of_unexposed (ring : Ring arithmetic tap read)
    (unexposed : tap.exposed = false) : tap.consumer.Before read (pushes tap.trace) := by
  have consuming := ring.consuming
  have order := ring.order
  have room := ring.room
  have next : tap.readIndex ≠ tap.writeIndex → read < pushes tap.trace := by
    intro different
    refine Nat.lt_of_le_of_ne order fun same => different ?_
    rw [ring.readIndex, ring.writeIndex, same]
  unfold Tap.exposed at unexposed
  cases phase : tap.consumer with
  | discarding handled => simp [phase] at unexposed
  | dropping handled write =>
    rw [phase] at consuming unexposed
    obtain ⟨seen, above, below, rfl⟩ := consuming
    have different : seen ≠ pushes tap.trace := by
      rintro rfl
      exact absurd ring.writeIndex.symm (of_decide_eq_false unexposed)
    intro other start bound same
    have equal : other = seen := by
      rcases Nat.le_total other seen with le | le
      · exact Queue.Counter.ofNat_inj le (by omega) same.symm
      · exact (Queue.Counter.ofNat_inj le (by omega) same).symm
    omega
  | peeking handled =>
    rw [phase] at unexposed
    exact next (of_decide_eq_false unexposed)
  | comparing handled seen =>
    rw [phase] at unexposed
    exact next (of_decide_eq_false unexposed)
  | holding handled held frame =>
    rw [phase] at consuming
    exact consuming.1
  | _ => exact trivial

/-- What a step of the callback adds to the trace and to the overruns. -/
theorem Tap.produce_cases {after : Tap Sample} (stepped : tap.produceStep arithmetic = some after) :
    after.consumer = tap.consumer ∧
      (after.trace = tap.trace ∧ after.overruns = tap.overruns ∨
      (∃ serial record, after.trace = .pushed serial record :: tap.trace ∧
        after.overruns = tap.overruns) ∨
      after.trace = .refused :: tap.trace ∧ after.overruns = tap.overruns + 1 ∧
        tap.recording = true) := by
  unfold Tap.produceStep at stepped
  split at stepped
  · exact absurd stepped (by simp)
  · obtain rfl := Option.some.inj stepped
    exact ⟨rfl, .inl ⟨rfl, rfl⟩⟩
  · obtain rfl := Option.some.inj stepped
    exact ⟨rfl, .inl ⟨rfl, rfl⟩⟩
  · obtain rfl := Option.some.inj stepped
    exact ⟨rfl, .inl ⟨rfl, rfl⟩⟩
  · next offer write seen phase =>
    obtain rfl := Option.some.inj stepped
    unfold Tap.decideStep Tap.recording
    rw [phase]
    split
    · exact ⟨rfl, .inl ⟨rfl, rfl⟩⟩
    · next left accepted =>
      split
      · next full => exact ⟨rfl, .inr (.inr ⟨rfl, rfl, by simp [accepted, full]⟩)⟩
      · exact ⟨rfl, .inl ⟨rfl, rfl⟩⟩
  · obtain rfl := Option.some.inj stepped
    unfold Tap.copyStep
    dsimp only
    split
    · split <;> exact ⟨rfl, .inl ⟨rfl, rfl⟩⟩
    · exact ⟨rfl, .inr (.inl ⟨_, _, rfl, rfl⟩)⟩
  · obtain rfl := Option.some.inj stepped
    exact ⟨rfl, .inl ⟨rfl, rfl⟩⟩

namespace Heeds

/-- An event other than an overrun or an observation. -/
theorem plain (heeds : Heeds tap read) {event : TapEvent Sample} {consumer : TapConsumer}
    (same : pending (event :: tap.trace) = pending tap.trace) (other : event ≠ .refused)
    (heard : Heard tap.trace event)
    (before : ∀ counted, tap.consumer.Before read counted → consumer.Before read counted) :
    Heeds { tap.note event with consumer } read where
  counted := heeds.counted.trans same.symm
  before counted unheard := by
    rcases unheard.tail with ⟨refused, _⟩ | ⟨earlier, _⟩
    · exact absurd refused other
    · exact before counted (heeds.before counted earlier)
  heard := heeds.heard.cons heard

/-- A careful step of the callback. -/
theorem produced (heeds : Heeds tap read) (ring : Ring arithmetic tap read) {after : Tap Sample}
    (careful : tap.careful (.produce : TapLabel Sample) = true)
    (stepped : tap.produceStep arithmetic = some after) : Heeds after read := by
  obtain ⟨consumer, ⟨trace, overruns⟩ | ⟨serial, record, trace, overruns⟩ |
    ⟨trace, overruns, recording⟩⟩ := Tap.produce_cases stepped
  · refine ⟨?_, ?_, ?_⟩
    · rw [overruns, trace]
      exact heeds.counted
    · rw [consumer, trace]
      exact heeds.before
    · rw [trace]
      exact heeds.heard
  · have noted : Heeds (tap.note (.pushed serial record)) read :=
      heeds.plain rfl (by simp) trivial fun _ before => before
    refine ⟨?_, ?_, ?_⟩
    · rw [overruns, trace]
      exact noted.counted
    · rw [consumer, trace]
      exact noted.before
    · rw [trace]
      exact noted.heard
  · simp only [Tap.careful, recording, Bool.not_true, Bool.false_or, Bool.and_eq_true,
      Bool.not_eq_true', decide_eq_true_eq] at careful
    refine ⟨?_, ?_, ?_⟩
    · rw [overruns, trace]
      show (tap.overruns + 1).toNat = pending tap.trace + 1
      have room := tap.overruns.toNat_lt
      have some : tap.overruns.toNat ≠ 0xffffffff := fun same =>
        careful.2 (UInt32.toNat_inj.mp same)
      rw [UInt32.toNat_add, UInt32.toNat_one, heeds.counted]
      rw [heeds.counted] at room some
      exact Nat.mod_eq_of_lt (by omega)
    · rw [consumer, trace]
      intro counted unheard
      rcases unheard.tail with ⟨_, rfl⟩ | ⟨earlier, _⟩
      · exact ring.before_of_unexposed careful.1
      · exact heeds.before counted earlier
    · rw [trace]
      exact heeds.heard.cons trivial

/-- A step of the drain over the same counts. -/
theorem moved (heeds : Heeds tap read) {consumer : TapConsumer} {next : Nat}
    (before : ∀ counted, tap.consumer.Before read counted → consumer.Before next counted) :
    Heeds { tap with consumer } next where
  counted := heeds.counted
  before counted unheard := before counted (heeds.before counted unheard)
  heard := heeds.heard

/-- The head of the loop. -/
theorem looped (heeds : Heeds tap read) {handled : Nat} : Heeds (tap.loopStep handled) read := by
  unfold Tap.loopStep
  split
  · exact heeds.moved fun _ _ => trivial
  · have unheard : ∀ counted, ¬ Unheard (.observed tap.overruns :: tap.trace) counted := by
      intro counted unheard
      rcases unheard.tail with ⟨same, _⟩ | ⟨earlier, none⟩
      · exact absurd same (by simp)
      · have zero : tap.overruns = 0 := by
          by_contra some
          exact none _ some rfl
        have pending := earlier.pending
        rw [← heeds.counted, zero] at pending
        exact absurd pending (by decide)
    exact {
      counted := by
        show (0 : UInt32).toNat = if tap.overruns = 0 then pending tap.trace else 0
        split
        · next zero => rw [← heeds.counted, zero]
        · rfl
      before := fun counted standing => absurd standing (unheard counted)
      heard := heeds.heard.cons trivial }

/-- The block is handed over. -/
theorem handed (heeds : Heeds tap read) (ring : Ring arithmetic tap read) {delivered : Bool}
    {after : Tap Sample} (stepped : tap.deliverStep delivered = some after) :
    Heeds after read := by
  unfold Tap.deliverStep at stepped
  split at stepped
  · next handled held frame phase =>
    obtain ⟨_, result⟩ := Option.ite_none_left_eq_some.mp stepped
    obtain rfl := Option.some.inj result
    obtain ⟨_, rfl, record, pushed, holds⟩ := ring.holding phase
    refine heeds.plain rfl (by simp) ?_ fun _ _ => trivial
    rintro between before split ⟨other, later⟩ silent
    rw [holds.serial] at later
    have first := heeds.before _ ⟨between, before, split, silent, rfl⟩
    rw [phase] at first
    have history := ring.history
    rw [split] at history
    have last : pushes (.refused :: before) ≤ read := pushes_le history later
    exact absurd first (Nat.not_lt.mpr last)
  · exact absurd stepped (by simp)

/-- Every step of the drain. -/
theorem consumed (heeds : Heeds tap read) (ring : Ring arithmetic tap read) {after : Tap Sample}
    (stepped : tap.consumeStep arithmetic = some after) :
    ∃ next, Ring arithmetic after next ∧ Heeds after next := by
  rcases ring.consumed stepped with ⟨handled, phase, rfl⟩ | ⟨next, kept, trace, overruns, before⟩
  · exact ⟨read, ring.looped phase, heeds.looped⟩
  · refine ⟨next, kept, {
      counted := by rw [overruns, trace]; exact heeds.counted
      before := fun counted unheard => ?_
      heard := by rw [trace]; exact heeds.heard }⟩
    rw [trace] at unheard
    exact before counted (heeds.before counted unheard)

end Heeds

/-- The overruns that were observed and those that are counted were all recorded. -/
def Tap.Once (tap : Tap Sample) : Prop :=
  observations tap.trace + tap.overruns.toNat ≤ refusals tap.trace

/-- What the two sides of a ring can rely on. -/
structure Orderly (arithmetic : Arithmetic Sample) (tap : Tap Sample) : Prop where
  /-- The words are at most a ring apart. -/
  bounded : (tap.writeIndex - tap.readIndex).toNat ≤ 16
  /-- No step of the callback touches a block that is peeked and not given back. -/
  untouched : ∀ held after, tap.peeked = some held → tap.produceStep arithmetic = some after →
    after.blocks held = tap.blocks held
  /-- Each delivery is a later push than the one before it, with its samples scaled. -/
  ordered : Each (Delivers arithmetic) tap.trace
  /-- No overrun is observed twice. -/
  once : tap.Once

/-- No step observes an overrun twice. -/
theorem reachable_once (reached : (Tap.system arithmetic).Reachable tap) : tap.Once := by
  refine reached.keeps ?_ ?_
  · intro tap label after reached once stepped
    have plain : ∀ {after : Tap Sample}, after.trace = tap.trace →
        after.overruns = tap.overruns → after.Once := by
      intro after trace overruns
      unfold Tap.Once
      rw [trace, overruns]
      exact once
    cases label with
    | push offer =>
      simp only [Tap.system, Tap.step] at stepped
      split at stepped
      · obtain rfl := Option.some.inj stepped
        exact plain rfl rfl
      · exact absurd stepped (by simp)
    | fail code =>
      obtain rfl := Option.some.inj stepped
      exact plain rfl rfl
    | produce =>
      obtain ⟨_, ⟨trace, overruns⟩ | ⟨serial, record, trace, overruns⟩ |
        ⟨trace, overruns, _⟩⟩ := Tap.produce_cases stepped
      · exact plain trace overruns
      · unfold Tap.Once
        rw [trace, overruns]
        exact once
      · unfold Tap.Once at once ⊢
        rw [trace, overruns]
        show observations tap.trace + (tap.overruns + 1).toNat ≤ refusals tap.trace + 1
        have less : (tap.overruns + 1).toNat ≤ tap.overruns.toNat + 1 := by
          rw [UInt32.toNat_add, UInt32.toNat_one]
          exact Nat.mod_le _ _
        omega
    | drain =>
      obtain ⟨_, result⟩ := Option.ite_none_right_eq_some.mp stepped
      split at result
      · obtain rfl := Option.some.inj result
        exact plain rfl rfl
      · split at result
        · obtain rfl := Option.some.inj result
          exact plain rfl rfl
        · obtain rfl := Option.some.inj result
          exact plain rfl rfl
    | consume =>
      obtain ⟨read, ring⟩ := Ring.reachable reached
      rcases ring.consumed stepped with ⟨handled, phase, rfl⟩ | ⟨_, _, trace, overruns, _⟩
      · unfold Tap.loopStep
        split
        · exact plain rfl rfl
        · exact once
      · exact plain trace overruns
    | deliver delivered =>
      simp only [Tap.system, Tap.step, Tap.deliverStep] at stepped
      split at stepped
      · obtain ⟨_, result⟩ := Option.ite_none_left_eq_some.mp stepped
        obtain rfl := Option.some.inj result
        exact once
      · exact absurd stepped (by simp)
    | gains gains =>
      obtain ⟨_, result⟩ := Option.ite_none_right_eq_some.mp stepped
      obtain rfl := Option.some.inj result
      exact plain rfl rfl
    | stop =>
      obtain ⟨_, result⟩ := Option.ite_none_right_eq_some.mp stepped
      obtain rfl := Option.some.inj result
      exact plain rfl rfl
  · rintro tap ⟨blocks, gains, rfl⟩
    exact Nat.le_refl _

/-- Every careful step keeps the overruns counted. -/
theorem heeds_step (arithmetic : Arithmetic Sample) :
    ((Tap.system arithmetic).restrict Tap.careful).Preserves fun tap =>
      ∃ read, Ring arithmetic tap read ∧ Heeds tap read := by
  rintro tap label after ⟨read, ring, heeds⟩ restricted
  obtain ⟨careful, stepped⟩ := Option.ite_none_right_eq_some.mp restricted
  cases label with
  | push offer =>
    simp only [Tap.system, Tap.step] at stepped
    split at stepped
    · obtain rfl := Option.some.inj stepped
      exact ⟨read, ring.called offer, { heeds with }⟩
    · exact absurd stepped (by simp)
  | fail code =>
    obtain rfl := Option.some.inj stepped
    exact ⟨read, { ring with }, { heeds with }⟩
  | produce => exact ⟨read, ring.produced stepped, heeds.produced ring careful stepped⟩
  | drain =>
    refine ⟨read, ring.drained stepped, ?_⟩
    obtain ⟨_, result⟩ := Option.ite_none_right_eq_some.mp stepped
    split at result
    · obtain rfl := Option.some.inj result
      exact { heeds with }
    · split at result
      · obtain rfl := Option.some.inj result
        exact { heeds with }
      · obtain rfl := Option.some.inj result
        have entered : Heeds { tap with consumer := .looping 0 } read :=
          heeds.moved fun _ _ => trivial
        exact { entered with }
  | consume => exact heeds.consumed ring stepped
  | deliver delivered => exact ⟨read, ring.handed stepped, heeds.handed ring stepped⟩
  | gains gains =>
    obtain ⟨idle, result⟩ := Option.ite_none_right_eq_some.mp stepped
    obtain rfl := Option.some.inj result
    exact ⟨read, ring.regained idle gains, { heeds with }⟩
  | stop =>
    obtain ⟨_, result⟩ := Option.ite_none_right_eq_some.mp stepped
    obtain rfl := Option.some.inj result
    exact ⟨read, { ring with }, { heeds with }⟩

/-- Every run is orderly, and in careful runs no block pushed after an overrun is delivered before
the overrun is observed. -/
theorem ring_orderly (arithmetic : Arithmetic Sample) :
    (∀ tap, (Tap.system arithmetic).Reachable tap → Orderly arithmetic tap) ∧
      ∀ tap, ((Tap.system arithmetic).restrict Tap.careful).Reachable tap →
        Each Heard tap.trace := by
  refine ⟨fun tap reached => ?_, fun tap reached => ?_⟩
  · obtain ⟨read, ring⟩ := Ring.reachable reached
    exact ⟨ring.distance, fun held after => ring.untouched, ring.history, reachable_once reached⟩
  · have kept := (heeds_step arithmetic).reachable ?_ reached
    · obtain ⟨_, _, heeds⟩ := kept
      exact heeds.heard
    · rintro tap ⟨blocks, gains, rfl⟩
      refine ⟨0, Ring.fresh blocks gains, {
        counted := rfl
        before := fun counted unheard => ?_
        heard := Each.nil }⟩
      exact absurd unheard.pending (Nat.lt_irrefl 0)

namespace Tap

/-- Samples that are whole numbers. -/
def wholeArithmetic : Arithmetic Int := ⟨fun _ => true, fun sample gain => sample * gain⟩

/-- A ring over zeroed memory, with the gains at one. -/
def sampleTap : Tap Int :=
  { blocks := fun _ => ⟨0, 0, 0, 0, fun _ => (0, 0), 0⟩, gains := (1, 1) }

/-- One frame. -/
def sampleOffer (sample : Int) : TapOffer Int :=
  ⟨some fun _ => sample, none, 1, 100, 0, 200⟩

/-- A whole callback. -/
def pushing (sample : Int) : List (TapLabel Int) :=
  .push (sampleOffer sample) :: List.replicate 7 .produce

/-- A turn of the drain that delivers a block. -/
def delivering : List (TapLabel Int) :=
  List.replicate 4 .consume ++ .deliver true :: List.replicate 2 .consume

/-- The ring fills while the drain is at the head of its loop; the seventeenth callback finds it
full. The drain delivers everything and is called again; it finds no overrun, then the callback
counts it, and the next one publishes its block before the peek. -/
def missing : List (TapLabel Int) :=
  List.flatten [pushing 0, [.drain], (List.replicate 15 (pushing 1)).flatten,
    .push (sampleOffer 2) :: List.replicate 3 .produce,
    (List.replicate 16 delivering).flatten, List.replicate 3 .consume,
    [.drain, .consume, .produce, .produce], pushing 3,
    [.consume, .consume, .consume, .deliver true]]

/-- The block pushed after the overrun is delivered, and the overrun is still counted. -/
theorem missing_joins : ((system wholeArithmetic).run sampleTap missing).map
    (fun tap => (tap.overruns, tap.trace.take 3)) = some (1,
      [.delivered 16 (1, 1) ⟨100, 200, 0, [(3, 3)]⟩, .pushed 16 ⟨100, 200, 0, [(3, 3)]⟩,
        .refused]) := by
  decide +kernel

/-- A reachable ring whose drain delivered a block past an overrun it has not observed. -/
theorem overrun_unheard : ∃ tap, (system wholeArithmetic).Reachable tap ∧
    ¬ Each Heard tap.trace := by
  obtain ⟨tap, evaluated, shown⟩ := Option.map_eq_some_iff.mp missing_joins
  refine ⟨tap, Transition.System.reachable_of_run ⟨_, _, rfl⟩ evaluated, fun each => ?_⟩
  have trace := List.take_append_drop 3 tap.trace
  rw [(Prod.mk.inj shown).2] at trace
  rw [← trace] at each
  exact each.head [.pushed 16 ⟨100, 200, 0, [(3, 3)]⟩] (tap.trace.drop 3) rfl
    ⟨_, List.mem_singleton_self _⟩ fun count _ member => absurd member (by simp)

/-- The ring fills and a push is refused; the drain observes that, and delivers a later block. -/
def observing : List (TapLabel Int) :=
  List.flatten [(List.replicate 16 (pushing 1)).flatten,
    .push (sampleOffer 1) :: List.replicate 5 .produce,
    [.drain, .consume, .consume, .consume], pushing 2,
    [.consume, .consume, .consume, .deliver true]]

/-- That run is careful, so its delivery is heard. -/
theorem sample_orderly : ∃ tap : Tap Int, tap.trace.length = 20 ∧
    Orderly wholeArithmetic tap ∧ Each Heard tap.trace := by
  have shown : (((system wholeArithmetic).restrict careful).run sampleTap observing).map
      (fun tap => tap.trace.length) = some 20 := by decide +kernel
  obtain ⟨tap, evaluated, length⟩ := Option.map_eq_some_iff.mp shown
  have reached : ((system wholeArithmetic).restrict careful).Reachable tap :=
    Transition.System.reachable_of_run ⟨_, _, rfl⟩ evaluated
  exact ⟨tap, length, (ring_orderly wholeArithmetic).1 tap reached.of_restrict,
    (ring_orderly wholeArithmetic).2 tap reached⟩

end Tap

end Plank.Audio
