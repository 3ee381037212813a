import Plank.Input.Held

/-!
# Refusal, stop, and the trace of keys and mouse buttons

A refused event changes nothing, a mapper that has stopped delivers nothing, and the stop releases
each key and button that is down once. With what is held these are the law of the delivered key and
mouse events.
-/

namespace Plank.Input

open Trace

variable {Point : Type} {setup : Setup Point}

/-! ### Refusal and stop -/

/-- A key or mouse packet, or a tick. -/
def Arrival.keyOrMouse : Arrival → Bool
  | .packet data => data.type ≠ 7
  | .tick _ => true

/-- A refused event changes nothing and is not delivered. -/
theorem Mapper.offer_denied {mapper : Mapper Point} {made : Event Point × InputState Point}
    (denied : (mapper.offer made).1 = .denied) :
    (mapper.offer made).2.state = mapper.state ∧ (mapper.offer made).2.trace = mapper.trace := by
  unfold Mapper.offer at denied ⊢
  cases given : mapper.answer with
  | failed => rw [given] at denied; cases denied
  | denied => exact ⟨rfl, rfl⟩
  | accepted => rw [given] at denied; cases denied

/-- A key or mouse packet whose event is refused changes nothing. -/
theorem consume_denied {mapper : Mapper Point} {arrival : Arrival}
    (ours : arrival.keyOrMouse = true) (denied : (consume setup mapper arrival).1 = .denied) :
    (consume setup mapper arrival).2.state = mapper.state ∧
      (consume setup mapper arrival).2.trace = mapper.trace := by
  cases arrival with
  | tick time =>
    simp only [consume, repeatAtTime] at denied ⊢
    split_ifs at denied ⊢
    exact Mapper.offer_denied denied
  | packet data =>
    have type : data.type ≠ 7 := by simpa [Arrival.keyOrMouse] using ours
    simp only [consume, consumeType, if_neg type, consumeKeyOrMouse] at denied ⊢
    split at denied
    · exact ⟨rfl, rfl⟩
    · exact Mapper.offer_denied denied

/-- A mapper that has stopped takes no pen packet. -/
theorem consumePen_stopped {mapper : Mapper Point} (packet : Packet)
    (stopped : mapper.state.stopped = true) :
    consumePen setup packet mapper = (.error .stopped, mapper) := by
  unfold consumePen
  rw [Program.read_bind, if_pos stopped]
  rfl

/-- A mapper that has stopped delivers nothing more and stays stopped. -/
theorem consume_stopped {mapper : Mapper Point} (arrival : Arrival)
    (stopped : mapper.state.stopped = true) : (consume setup mapper arrival).2 = mapper := by
  cases arrival with
  | tick time => simp [consume, repeatAtTime, stopped]
  | packet data =>
    by_cases pen : data.type = 7
    · simp only [consume, consumeType, if_pos pen, Mapping.result,
        consumePen_stopped data stopped]
    · simp [consume, consumeType, pen, consumeKeyOrMouse, createType, stopped]

/-- No run delivers anything once the mapper has stopped. -/
theorem run_stopped {mapper after : Mapper Point} {arrivals : List Arrival}
    (stopped : mapper.state.stopped = true)
    (run : (system setup).run mapper arrivals = some after) : after = mapper := by
  induction arrivals with
  | nil => exact (Option.some.inj run).symm
  | cons arrival rest ih =>
    obtain ⟨next, stepped, remaining⟩ := Option.bind_eq_some_iff.mp run
    have same : next = mapper := by
      rw [← Option.some.inj stepped]
      exact consume_stopped arrival stopped
    exact ih (same ▸ remaining)

section Stop

open Program

/-- Nothing of the answers to come is a failure. -/
def Constructs (mapper : Mapper Point) : Prop := ∀ answer ∈ mapper.answers, answer ≠ .failed

/-- What the stop has released so far: with the keys and buttons it still has to look at, this is
what was held before. -/
structure Releases (before : InputState Point) (keys : List UInt8) (buttons : List (Fin 5))
    (events : List (Event Point)) (mapper : Mapper Point) : Prop where
  /-- Every event can be constructed. -/
  constructs : Constructs mapper
  /-- The mapper has stopped. -/
  stopped : mapper.state.stopped = true
  /-- The keys released, with those still to come. -/
  keysReleased : events.filterMap keyPress ++ (keys.filter mapper.state.keys).map (.up · ()) =
    (allKeys.filter before.keys).map (.up · ())
  /-- The buttons released, with those still to come. -/
  buttonsReleased : events.filterMap buttonPress ++ (buttons.filter mapper.state.buttons).map
      (fun index => .up index (before.mouseEventNumber index)) =
    ((List.finRange 5).filter before.buttons).map
      fun index => .up index (before.mouseEventNumber index)
  /-- The event numbers stay. -/
  numbers : mapper.state.mouseEventNumber = before.mouseEventNumber
  /-- A key that is down is still to come. -/
  keysHeld : ∀ key, mapper.state.keys key = true → key ∈ keys
  /-- A button that is down is still to come. -/
  buttonsHeld : ∀ index, mapper.state.buttons index = true → index ∈ buttons

/-- The next event can be constructed. -/
theorem Constructs.made {mapper : Mapper Point} (constructs : Constructs mapper) :
    mapper.answer ≠ .failed := by
  unfold Mapper.answer
  cases given : mapper.answers with
  | nil => decide
  | cons answer rest => exact constructs answer (given ▸ List.mem_cons_self)

/-- After one construction the others still succeed. -/
theorem Constructs.tail {mapper : Mapper Point} (constructs : Constructs mapper) :
    ∀ answer ∈ mapper.answers.tail, answer ≠ .failed :=
  fun answer member => constructs answer (List.mem_of_mem_tail member)

/-- An event that can be constructed is one more event of the stop. -/
theorem construct_triple (post : List (Event Point) → Mapper Point → Prop) {event : Event Point}
    {events : List (Event Point)} {released : Mapper Point} (made : released.answer ≠ .failed)
    (holds : post (events ++ [event]) { released with answers := released.answers.tail }) :
    match construct event events released with
    | (.ok value, after) => post value after
    | (.error _, _) => False := by
  unfold construct
  rw [if_neg made]
  exact holds

variable {before : InputState Point} {keys : List UInt8} {buttons : List (Fin 5)}

/-- A release of the pen touches no key and no mouse button. -/
theorem Releases.pen {events : List (Event Point)} {mapper : Mapper Point}
    (releases : Releases before keys buttons events mapper) (event : PenEvent Point)
    (pen : PenState Point) : Releases before keys buttons (events ++ [.pen event])
      { mapper with pen := pen, answers := mapper.answers.tail } where
  constructs := releases.constructs.tail
  stopped := releases.stopped
  keysReleased := by
    rw [Press.filterMap_snoc, show keyPress (.pen event : Event Point) = none from rfl]
    simpa using releases.keysReleased
  buttonsReleased := by
    rw [Press.filterMap_snoc, show buttonPress (.pen event : Event Point) = none from rfl]
    simpa using releases.buttonsReleased
  numbers := releases.numbers
  keysHeld := releases.keysHeld
  buttonsHeld := releases.buttonsHeld

/-- The release of a key. -/
theorem Releases.key {events : List (Event Point)} {mapper : Mapper Point} {key : UInt8}
    (releases : Releases before (key :: keys) buttons events mapper) (event : KeyEvent)
    (press : keyPress (.keyboard event : Event Point) = some (.up key ()))
    (later : key ∉ keys) (down : mapper.state.keys key = true) :
    Releases before keys buttons (events ++ [.keyboard event])
      { mapper with state := stopKeyState mapper.state key, answers := mapper.answers.tail } where
  constructs := releases.constructs.tail
  stopped := releases.stopped
  keysReleased := by
    have rest : keys.filter (stopKeyState mapper.state key).keys =
        keys.filter mapper.state.keys := by
      refine List.filter_congr fun other member => ?_
      have differs : other ≠ key := fun same => later (same ▸ member)
      simp [stopKeyState, differs]
    rw [Press.filterMap_snoc, press, rest, ← releases.keysReleased, List.filter_cons_of_pos down]
    simp
  buttonsReleased := by
    rw [Press.filterMap_snoc, show buttonPress (.keyboard event : Event Point) = none from rfl]
    simpa [stopKeyState] using releases.buttonsReleased
  numbers := releases.numbers
  keysHeld := by
    intro other held
    by_cases same : other = key
    · simp [stopKeyState, same] at held
    · have held : mapper.state.keys other = true := by simpa [stopKeyState, same] using held
      exact (List.mem_cons.mp (releases.keysHeld other held)).resolve_left same
  buttonsHeld := releases.buttonsHeld

/-- The release of a mouse button. -/
theorem Releases.button {events : List (Event Point)} {mapper : Mapper Point} {index : Fin 5}
    (releases : Releases before keys (index :: buttons) events mapper) (event : MouseEvent Point)
    (press : buttonPress (.mouse event) = some (.up index (before.mouseEventNumber index)))
    (later : index ∉ buttons) (down : mapper.state.buttons index = true) :
    Releases before keys buttons (events ++ [.mouse event])
      { mapper with
        state :=
          { mapper.state with buttons := Function.update mapper.state.buttons index false }
        answers := mapper.answers.tail } where
  constructs := releases.constructs.tail
  stopped := releases.stopped
  keysReleased := by
    rw [Press.filterMap_snoc, show keyPress (.mouse event) = none from rfl]
    simpa using releases.keysReleased
  buttonsReleased := by
    have rest : buttons.filter (Function.update mapper.state.buttons index false) =
        buttons.filter mapper.state.buttons := by
      refine List.filter_congr fun other member => ?_
      have differs : other ≠ index := fun same => later (same ▸ member)
      simp [differs]
    rw [Press.filterMap_snoc, press, rest, ← releases.buttonsReleased,
      List.filter_cons_of_pos down]
    simp
  numbers := releases.numbers
  keysHeld := releases.keysHeld
  buttonsHeld := by
    intro other held
    by_cases same : other = index
    · simp [same] at held
    · have held : mapper.state.buttons other = true := by simpa [same] using held
      exact (List.mem_cons.mp (releases.buttonsHeld other held)).resolve_left same

/-- A key that is up needs no release. -/
theorem Releases.keyUp {events : List (Event Point)} {mapper : Mapper Point} {key : UInt8}
    (releases : Releases before (key :: keys) buttons events mapper)
    (up : ¬mapper.state.keys key = true) : Releases before keys buttons events mapper :=
  { releases with
    keysReleased := by
      rw [← releases.keysReleased, List.filter_cons_of_neg up]
    keysHeld := fun other held =>
      (List.mem_cons.mp (releases.keysHeld other held)).resolve_left fun same => up (same ▸ held) }

/-- A button that is up needs no release. -/
theorem Releases.buttonUp {events : List (Event Point)} {mapper : Mapper Point} {index : Fin 5}
    (releases : Releases before keys (index :: buttons) events mapper)
    (up : ¬mapper.state.buttons index = true) : Releases before keys buttons events mapper :=
  { releases with
    buttonsReleased := by
      rw [← releases.buttonsReleased, List.filter_cons_of_neg up]
    buttonsHeld := fun other held =>
      (List.mem_cons.mp (releases.buttonsHeld other held)).resolve_left
        fun same => up (same ▸ held) }

/-- The release of a pen button. -/
theorem stopPenButton_releases (index : Fin 3) (events : List (Event Point)) :
    Triple (Releases before keys buttons events) (stopPenButton index events)
      (Releases before keys buttons) (fun _ _ => False) := by
  intro mapper releases
  unfold stopPenButton
  split_ifs with down
  · exact construct_triple _ releases.constructs.made (releases.pen _ _)
  · exact releases

/-- The release of the tip of the pen. -/
theorem stopTip_releases (events : List (Event Point)) :
    Triple (Releases before keys buttons events) (stopTip events)
      (Releases before keys buttons) (fun _ _ => False) := by
  intro mapper releases
  unfold stopTip
  split_ifs with down
  · exact construct_triple _ releases.constructs.made (releases.pen _ _)
  · exact releases

/-- The end of the proximity of the pen. -/
theorem stopProximity_releases (events : List (Event Point)) :
    Triple (Releases before keys buttons events) (stopProximity events)
      (Releases before keys buttons) (fun _ _ => False) := by
  intro mapper releases
  unfold stopProximity
  split_ifs with near
  · exact construct_triple _ releases.constructs.made (releases.pen _ _)
  · exact releases

/-- The release of one key of those still to come. -/
theorem stopKey_releases {key : UInt8} (later : key ∉ keys) (events : List (Event Point)) :
    Triple (Releases before (key :: keys) buttons events) (stopKey key events)
      (Releases before keys buttons) (fun _ _ => False) := by
  intro mapper releases
  unfold stopKey
  split_ifs with down
  · exact construct_triple _ releases.constructs.made (releases.key _ rfl later down)
  · exact releases.keyUp down

/-- The release of one mouse button of those still to come. -/
theorem stopButton_releases {index : Fin 5} (later : index ∉ buttons)
    (events : List (Event Point)) :
    Triple (Releases before keys (index :: buttons) events) (stopButton index events)
      (Releases before keys buttons) (fun _ _ => False) := by
  intro mapper releases
  unfold stopButton
  split_ifs with down
  · refine construct_triple _ releases.constructs.made (releases.button _ ?_ later down)
    obtain ⟨notDown, up⟩ := buttonType_isDown index false
    simp [buttonPress, notDown, up, releases.numbers]
  · exact releases.buttonUp down

/-- The keys of the wire are listed once each. -/
theorem allKeys_nodup : allKeys.Nodup := by
  refine List.Nodup.map_on ?_ List.nodup_range
  intro left first right second same
  have small := List.mem_range.mp first
  have smaller := List.mem_range.mp second
  have numbers := congrArg UInt8.toNat same
  simp only [UInt8.toNat_ofNat'] at numbers
  omega

/-- Every key of the wire is listed. -/
theorem mem_allKeys (key : UInt8) : key ∈ allKeys :=
  List.mem_map.mpr ⟨key.toNat, List.mem_range.mpr key.toNat_lt, by simp⟩

/-- The release of all keys. -/
theorem stopKeys_releases (events : List (Event Point)) :
    Triple (Releases before allKeys buttons events) (forEach stopKey allKeys events)
      (Releases before [] buttons) (fun _ _ => False) := by
  let invariant (rest : List UInt8) (events : List (Event Point)) (mapper : Mapper Point) :=
    rest.Nodup ∧ Releases before rest buttons events mapper
  have loop : Triple (invariant allKeys events) (forEach stopKey allKeys events)
      (invariant []) (fun _ _ => False) := by
    refine triple_forEach invariant ?_ allKeys events
    rintro key rest events mapper ⟨nodup, releases⟩
    obtain ⟨later, remaining⟩ := List.nodup_cons.mp nodup
    have round : Triple (Releases before (key :: rest) buttons events) (stopKey key events)
        (invariant rest) (fun _ _ => False) :=
      (stopKey_releases later events).imp (fun _ holds => holds)
        (fun _ _ ends => ⟨remaining, ends⟩) fun _ _ fails => fails
    exact round mapper releases
  exact loop.imp (fun _ releases => ⟨allKeys_nodup, releases⟩) (fun _ _ ends => ends.2)
    fun _ _ fails => fails

/-- The release of all mouse buttons. -/
theorem stopButtons_releases (events : List (Event Point)) :
    Triple (Releases before [] (List.finRange 5) events)
      (forEach stopButton (List.finRange 5) events) (Releases before [] []) (fun _ _ => False) := by
  let invariant (rest : List (Fin 5)) (events : List (Event Point)) (mapper : Mapper Point) :=
    rest.Nodup ∧ Releases before [] rest events mapper
  have loop : Triple (invariant (List.finRange 5) events)
      (forEach stopButton (List.finRange 5) events) (invariant []) (fun _ _ => False) := by
    refine triple_forEach invariant ?_ (List.finRange 5) events
    rintro index rest events mapper ⟨nodup, releases⟩
    obtain ⟨later, remaining⟩ := List.nodup_cons.mp nodup
    have round : Triple (Releases before [] (index :: rest) events) (stopButton index events)
        (invariant rest) (fun _ _ => False) :=
      (stopButton_releases later events).imp (fun _ holds => holds)
        (fun _ _ ends => ⟨remaining, ends⟩) fun _ _ fails => fails
    exact round mapper releases
  exact loop.imp (fun _ releases => ⟨List.nodup_finRange 5, releases⟩) (fun _ _ ends => ends.2)
    fun _ _ fails => fails

/-- The stop releases each key and button that is down once, and none that is up. -/
theorem stopAndCopyReleaseEvents_releases :
    Triple (fun mapper => Constructs mapper ∧ mapper.state = before)
      (stopAndCopyReleaseEvents : Mapping Point _) (Releases before [] []) (fun _ _ => False) := by
  let whole : List (Event Point) → Mapper Point → Prop :=
    Releases before allKeys (List.finRange 5)
  refine triple_bind (fun _ => whole []) (triple_modify ?_) fun _ => ?_
  · rintro mapper ⟨constructs, rfl⟩
    exact ⟨constructs, rfl, rfl, rfl, rfl, fun key _ => mem_allKeys key,
      fun index _ => List.mem_finRange index⟩
  refine triple_bind whole ?_ fun events => ?_
  · exact triple_forEach (fun _ => whole) (fun index _ events => stopPenButton_releases index events)
      _ _
  refine triple_bind _ (stopTip_releases events) fun events => ?_
  refine triple_bind _ (stopProximity_releases events) fun events => ?_
  refine triple_bind _ (stopKeys_releases events) fun events => ?_
  refine triple_bind (fun _ => Releases before [] (List.finRange 5) events)
    (triple_modify fun mapper releases => ?_) fun _ => stopButtons_releases events
  exact { releases with }

end Stop

/-! ### The trace of keys and mouse buttons -/

/-- What the stop returns and leaves: one release of each key and button that is down, each release
of a button with the number of its press, and a mapper that holds nothing and takes nothing. -/
structure StopReleases (setup : Setup Point) (mapper : Mapper Point) (events : List (Event Point))
    (after : Mapper Point) : Prop where
  /-- The stop returns these events. -/
  returned : stopAndCopyReleaseEvents mapper = (.ok events, after)
  /-- One release of each key that is down. -/
  keys : events.filterMap keyPress = (allKeys.filter mapper.state.keys).map (.up · ())
  /-- One release of each button that is down. -/
  buttons : events.filterMap buttonPress = ((List.finRange 5).filter mapper.state.buttons).map
    fun index => .up index (mapper.state.mouseEventNumber index)
  /-- No key is down any more. -/
  keysUp : ∀ key, after.state.keys key = false
  /-- No button is down any more. -/
  buttonsUp : ∀ index, after.state.buttons index = false
  /-- Nothing more is delivered. -/
  silent : ∀ arrivals final, (system setup).run after arrivals = some final → final = after

/-- The stop ends with everything it releases. -/
theorem stop_ends {mapper : Mapper Point} (constructs : Constructs mapper) :
    ∃ events after, stopAndCopyReleaseEvents mapper = (.ok events, after) ∧
      Releases mapper.state [] [] events after := by
  have ended := stopAndCopyReleaseEvents_releases mapper ⟨constructs, rfl⟩
  cases returned : stopAndCopyReleaseEvents mapper with
  | mk result after =>
    rw [returned] at ended
    cases result with
    | error => exact ended.elim
    | ok events => exact ⟨events, after, rfl, ended⟩

/-- When its events can be constructed, the stop releases what is held, and a second stop
nothing. -/
theorem stop_releases (setup : Setup Point) {mapper : Mapper Point}
    (constructs : Constructs mapper) : ∃ events after, StopReleases setup mapper events after ∧
      ∃ more last, StopReleases setup after more last ∧
        more.filterMap keyPress = [] ∧ more.filterMap buttonPress = [] := by
  have once {mapper : Mapper Point} (constructs : Constructs mapper) : ∃ events after,
      StopReleases setup mapper events after ∧ Constructs after := by
    obtain ⟨events, after, returned, releases⟩ := stop_ends constructs
    have keysUp (key : UInt8) : after.state.keys key = false :=
      Bool.eq_false_of_not_eq_true fun down => List.not_mem_nil (releases.keysHeld key down)
    have buttonsUp (index : Fin 5) : after.state.buttons index = false :=
      Bool.eq_false_of_not_eq_true fun down => List.not_mem_nil (releases.buttonsHeld index down)
    refine ⟨events, after, ⟨returned, ?_, ?_, keysUp, buttonsUp,
      fun arrivals final run => run_stopped releases.stopped run⟩, releases.constructs⟩
    · simpa using releases.keysReleased
    · simpa using releases.buttonsReleased
  obtain ⟨events, after, first, again⟩ := once constructs
  obtain ⟨more, last, second, _⟩ := once again
  refine ⟨events, after, first, more, last, second, ?_, ?_⟩
  · rw [second.keys]
    simp [first.keysUp]
  · rw [second.buttons]
    simp [first.buttonsUp]

/-- What holds of the delivered key and mouse events. -/
structure HeldTrace (setup : Setup Point) (mapper : Mapper Point) : Prop where
  /-- The presses and releases of each key alternate, and a press left over is of a key that is
  down. -/
  keysAlternate : ∀ key, ∃ tags : List Unit,
    (mapper.trace.filterMap keyPress).filterMap (Press.edge key) =
      tags.flatMap Press.pair ++ Press.pending (heldKeys mapper.state key)
  /-- So do those of each button, each release with the number of its press. -/
  buttonsAlternate : ∀ index, ∃ numbers : List Nat,
    (mapper.trace.filterMap buttonPress).filterMap (Press.edge index) =
      numbers.flatMap Press.pair ++ Press.pending (heldButtons mapper.state index)
  /-- The keys delivered and not released are those the state holds. -/
  keysHeld : Press.system.run (fun _ => none) (mapper.trace.filterMap keyPress) =
    some (heldKeys mapper.state)
  /-- The buttons delivered and not released are those the state holds, with their numbers; each
  drag carries the number of a button that is down. -/
  buttonsHeld : Press.system.run (fun _ => none) (mapper.trace.filterMap buttonPress) =
    some (heldButtons mapper.state)
  /-- The key that repeats is down. -/
  armed : Armed mapper.state
  /-- A refused packet leaves the state and the trace as they were. -/
  denied : ∀ arrival, arrival.keyOrMouse = true → (consume setup mapper arrival).1 = .denied →
    (consume setup mapper arrival).2.state = mapper.state ∧
      (consume setup mapper arrival).2.trace = mapper.trace
  /-- Nothing is delivered once the mapper has stopped. -/
  silent : mapper.state.stopped = true → ∀ arrivals final,
    (system setup).run mapper arrivals = some final → final.trace = mapper.trace
  /-- A stop whose events can be constructed releases each key and button that is down once; a
  second stop releases none. -/
  stop : Constructs mapper → ∃ events after, StopReleases setup mapper events after ∧
    ∃ more last, StopReleases setup after more last ∧
      more.filterMap keyPress = [] ∧ more.filterMap buttonPress = []

/-- In every run of packets and ticks, with any answers of the sink. -/
theorem reachable_heldTrace {mapper : Mapper Point}
    (reachable : (system setup).Reachable mapper) : HeldTrace setup mapper where
  keysAlternate key := by
    obtain ⟨tags, edges⟩ := Press.run_edges (follows reachable).keys key
    exact ⟨tags, by simpa [Press.pending] using edges⟩
  buttonsAlternate index := by
    obtain ⟨numbers, edges⟩ := Press.run_edges (follows reachable).buttons index
    exact ⟨numbers, by simpa [Press.pending] using edges⟩
  keysHeld := (follows reachable).keys
  buttonsHeld := (follows reachable).buttons
  armed := (follows reachable).armed
  denied _ := consume_denied
  silent stopped arrivals final run := by rw [run_stopped stopped run]
  stop := stop_releases setup

/-- A screen of whole points. -/
def sampleSetup : Setup (Nat × Nat) where
  position := (0, 0)
  zero := (0, 0)
  alphaShift := false
  doubleClick := 500000000
  absolute x y _ _ := (x, y)
  normalized x y := (x.toNat, y.toNat)
  close left right := left = right

/-- A key and a button go down, the mouse drags, and the release of the key is refused. -/
def sampleArrivals : List Arrival :=
  [.packet ⟨5, [0, 0x41, 1, 0, 0], 1, none⟩, .packet ⟨2, [1, 1], 2, none⟩,
    .packet ⟨1, [0, 5, 0, 5, 0, 9, 0, 9], 3, none⟩, .packet ⟨5, [0, 0x41, 0, 0, 0], 4, none⟩]

/-- The mapper after these packets. -/
def sampleMapper : Mapper (Nat × Nat) :=
  sampleArrivals.foldl (fun mapper arrival => (consume sampleSetup mapper arrival).2)
    (start sampleSetup [.accepted, .accepted, .accepted, .denied])

/-- The key and the button are down after the refused release, and the law of the trace holds. -/
theorem sampleMapper_heldTrace : sampleMapper.state.keys 0x41 = true ∧
    sampleMapper.state.buttons 0 = true ∧ HeldTrace sampleSetup sampleMapper :=
  ⟨by decide, by decide, reachable_heldTrace
    (Transition.System.reachable_of_run ⟨[.accepted, .accepted, .accepted, .denied], rfl⟩
      (show (system sampleSetup).run _ sampleArrivals = some sampleMapper from rfl))⟩

end Plank.Input
