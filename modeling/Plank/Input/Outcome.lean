import Plank.Input.Release

/-!
# What the result of a packet says

The result of a packet or a tick against what the sink was offered: an event was delivered, the sink
refused one, or nothing was offered. The counts of the offered events are carried through the
programs of a pen packet. One way out of such a packet does not report what was delivered before it:
the change of the buttons of another tool than the one that is near takes that tool away, and says
that nothing happened.
-/

namespace Plank.Input

open Program

variable {Point : Type} {setup : Setup Point}

/-- What the sink was offered between two states: the events it took, and whether it refused the
one behind them. -/
structure Offered (before after : Mapper Point) (delivered : List (Event Point)) (denied : Bool) :
    Prop where
  /-- The events it took. -/
  trace : after.trace = before.trace ++ delivered
  /-- It took them. -/
  taken : ∀ index < delivered.length, before.answers.getD index .accepted = .accepted
  /-- It answered these, and the one behind them if it refused it. -/
  answers : after.answers = before.answers.drop (delivered.length + denied.toNat)
  /-- It refused that one. -/
  refused : denied = true → before.answers[delivered.length]? = some .denied

/-- The result of a packet or tick says what was delivered. -/
structure Truthful (result : InputResult) (delivered : List (Event Point)) (denied : Bool) :
    Prop where
  /-- At least one event was delivered, and none was denied. -/
  event : result = .event ↔ delivered ≠ [] ∧ denied = false
  /-- The sink denied an event. -/
  refused : result = .denied ↔ denied = true
  /-- No event was offered. -/
  nothing : result = .noEvent ∨ result = .malformed ∨ result = .unsupported →
    delivered = [] ∧ denied = false

/-- How many of the buttons are down. -/
def downCount (indices : List (Fin 3)) (buttons : BitVec 3) : Nat :=
  indices.countP fun index => decide (buttons &&& penBit index ≠ 0)

/-- How many events it takes to release all that a pen holds and take it away. -/
def withdrawals (pen : PenState Point) : Nat :=
  downCount (List.finRange 3) pen.buttons + pen.down.toNat + pen.near.toNat

/-- A packet changes the buttons of another tool than the one that is near, and the sink takes all
that takes this one away. -/
def Unreported (mapper : Mapper Point) : Arrival → Prop
  | .packet packet =>
    packet.type = 7 ∧ mapper.state.stopped = false ∧ packet.payload.length = penSize ∧
      ¬packet.time < mapper.state.lastTime ∧ penWellFormed packet = true ∧ packet.byte 0 = 5 ∧
      mapper.pen.near = true ∧ mapper.pen.tool ≠ packet.byte 1 ∧
      ∀ index < withdrawals mapper.pen, mapper.answers.getD index .accepted = .accepted
  | .tick _ => False

/-! ### One event -/

/-- Nothing was offered. -/
theorem Offered.none (mapper : Mapper Point) : Offered mapper mapper [] false :=
  ⟨(List.append_nil _).symm, nofun, rfl, nofun⟩

/-- So many events were offered so far, and taken. -/
def Handing (first : Mapper Point) (count : Nat) (mapper : Mapper Point) : Prop :=
  mapper.state.stopped = false ∧
    ∃ delivered, delivered.length = count ∧ Offered first mapper delivered false

/-- The sink refused an event before so many were offered. -/
def Refusing (first : Mapper Point) (limit : Nat) (error : InputResult) (mapper : Mapper Point) :
    Prop :=
  error = .denied ∧ ∃ delivered, delivered.length < limit ∧ Offered first mapper delivered true

/-- The answer to the next event. -/
theorem answer_of_offered {first mapper : Mapper Point} {delivered : List (Event Point)}
    (offered : Offered first mapper delivered false) :
    mapper.answer = first.answers.getD delivered.length .accepted := by
  unfold Mapper.answer
  rw [offered.answers, List.headD_eq_head?_getD, List.head?_drop, List.getD_eq_getElem?_getD]
  rfl

/-- One more answer is used. -/
theorem Offered.tail {first mapper : Mapper Point} {delivered : List (Event Point)}
    (offered : Offered first mapper delivered false) :
    mapper.answers.tail = first.answers.drop (delivered.length + 1) := by
  rw [offered.answers, List.tail_drop]
  rfl

/-- The sink takes one more event. -/
theorem Offered.accept {first mapper after : Mapper Point} {delivered : List (Event Point)}
    (offered : Offered first mapper delivered false) (accepted : mapper.answer = .accepted)
    {event : Event Point} (trace : after.trace = mapper.trace ++ [event])
    (answers : after.answers = mapper.answers.tail) :
    Offered first after (delivered ++ [event]) false := by
  refine ⟨?_, fun index inside => ?_, ?_, nofun⟩
  · rw [trace, offered.trace, List.append_assoc]
  · rw [List.length_append, List.length_singleton] at inside
    by_cases last : index = delivered.length
    · rw [last, ← answer_of_offered offered, accepted]
    · exact offered.taken index (by omega)
  · rw [answers, offered.tail, List.length_append]
    rfl

/-- The sink refuses one more event. -/
theorem Offered.refuse {first mapper after : Mapper Point} {delivered : List (Event Point)}
    (offered : Offered first mapper delivered false) (denied : mapper.answer = .denied)
    (trace : after.trace = mapper.trace) (answers : after.answers = mapper.answers.tail) :
    Offered first after delivered true := by
  refine ⟨trace.trans offered.trace, offered.taken, answers.trans offered.tail, fun _ => ?_⟩
  have refused : first.answers.getD delivered.length .accepted = .denied :=
    (answer_of_offered offered).symm.trans denied
  rw [List.getD_eq_getElem?_getD] at refused
  cases there : first.answers[delivered.length]? with
  | none =>
    rw [there] at refused
    cases refused
  | some answer =>
    rw [there] at refused
    exact congrArg some refused

/-- An event can be constructed. -/
theorem answer_constructs {first mapper : Mapper Point} {delivered : List (Event Point)}
    (constructs : ∀ answer ∈ first.answers, answer ≠ .failed)
    (offered : Offered first mapper delivered false) : mapper.answer ≠ .failed := by
  intro failed
  have next : first.answers.getD delivered.length .accepted = .failed :=
    (answer_of_offered offered).symm.trans failed
  rw [List.getD_eq_getElem?_getD] at next
  cases there : first.answers[delivered.length]? with
  | none =>
    rw [there] at next
    cases next
  | some answer =>
    rw [there] at next
    exact constructs answer (List.mem_of_getElem? there) next

/-- A change of the pen does not stop the mapper. -/
theorem changeState_stopped (mapper : Mapper Point) (next : PenState Point) (kind : EventType)
    (time : UInt64) : (changeState mapper next kind time).stopped = mapper.state.stopped := by
  unfold changeState
  dsimp only
  split
  · split <;> rfl
  · rfl

/-- One tablet event is offered: it is taken and the pen is the one it was made from, or the packet
ends with the refusal. -/
theorem deliverOrEnd_hands {first : Mapper Point}
    (constructs : ∀ answer ∈ first.answers, answer ≠ .failed) {count limit : Nat}
    (below : count < limit) (next : PenState Point) (kind : EventType) (time : UInt64) :
    Triple (Handing first count) (deliverOrEnd next kind time)
      (fun _ mapper => Handing first (count + 1) mapper ∧ mapper.pen = next)
      (Refusing first limit) := by
  refine triple_bind (fun delivered mapper =>
    if delivered = true then Handing first (count + 1) mapper ∧ mapper.pen = next
    else mapper.state.stopped = false ∧ Refusing first limit .denied mapper) ?_ fun delivered => ?_
  · rintro mapper ⟨running, delivered, length, offered⟩
    unfold deliverPen
    cases answered : mapper.answer with
    | failed => exact absurd answered (answer_constructs constructs offered)
    | denied =>
      exact ⟨running, rfl, delivered, length ▸ below, offered.refuse answered rfl rfl⟩
    | accepted =>
      refine ⟨⟨(changeState_stopped mapper next kind time).trans running, _, ?_,
        offered.accept answered rfl rfl⟩, rfl⟩
      rw [List.length_append, length]
      rfl
  · cases delivered with
    | true => exact triple_pure fun _ holds => holds
    | false =>
      rintro mapper ⟨running, refusing⟩
      show Refusing first limit (if mapper.state.stopped then .stopped else .denied) mapper
      rw [running]
      exact refusing

/-- One tablet event is offered, and the pen it was made from is passed on. -/
theorem deliver_hands {first : Mapper Point}
    (constructs : ∀ answer ∈ first.answers, answer ≠ .failed) {count limit : Nat}
    (below : count < limit) (next : PenState Point) (kind : EventType) (time : UInt64) :
    Triple (Handing first count) (do deliverOrEnd next kind time; pure next)
      (fun pen mapper => pen = next ∧ Handing first (count + 1) mapper ∧ mapper.pen = next)
      (Refusing first limit) :=
  triple_bind _ (deliverOrEnd_hands constructs below next kind time) fun _ =>
    triple_pure fun _ holds => ⟨rfl, holds⟩

/-! ### The release of the pen -/

/-- The first of the buttons is down. -/
theorem downCount_down {index : Fin 3} {rest : List (Fin 3)} {buttons : BitVec 3}
    (down : buttons &&& penBit index ≠ 0) :
    downCount (index :: rest) buttons = downCount rest buttons + 1 :=
  List.countP_cons_of_pos (decide_eq_true down)

/-- The first of the buttons is up. -/
theorem downCount_up {index : Fin 3} {rest : List (Fin 3)} {buttons : BitVec 3}
    (up : ¬buttons &&& penBit index ≠ 0) :
    downCount (index :: rest) buttons = downCount rest buttons :=
  List.countP_cons_of_neg (by rwa [decide_eq_true_iff])

/-- To clear a button leaves the others. -/
theorem clear_and_penBit (buttons : BitVec 3) {index other : Fin 3} (differs : other ≠ index) :
    (buttons &&& ~~~penBit index) &&& penBit other = buttons &&& penBit other := by
  decide +revert

/-- To clear a button leaves the count of the others. -/
theorem downCount_clear {index : Fin 3} {rest : List (Fin 3)} (outside : index ∉ rest)
    (buttons : BitVec 3) :
    downCount rest (buttons &&& ~~~penBit index) = downCount rest buttons := by
  refine List.countP_congr fun other member => ?_
  have differs : other ≠ index := fun same => outside (same ▸ member)
  rw [clear_and_penBit buttons differs]

/-- The buttons still to come, against the pen that is taken away. -/
structure Clearing (pen : PenState Point) (rest : List (Fin 3)) (next : PenState Point) : Prop where
  /-- They are at most those that were down. -/
  below : downCount rest next.buttons ≤ downCount (List.finRange 3) pen.buttons
  /-- Each comes once. -/
  nodup : rest.Nodup
  /-- The tip is as it was. -/
  down : next.down = pen.down
  /-- The pen is as near as it was. -/
  near : next.near = pen.near

/-- The release of one button. -/
theorem releasePenButton_hands {first : Mapper Point}
    (constructs : ∀ answer ∈ first.answers, answer ≠ .failed) (time : UInt64)
    (pen : PenState Point) (index : Fin 3) (rest : List (Fin 3)) (next : PenState Point) :
    Triple (fun mapper => Clearing pen (index :: rest) next ∧ Handing first
        (downCount (List.finRange 3) pen.buttons - downCount (index :: rest) next.buttons) mapper)
      (releasePenButton time index next)
      (fun next mapper => Clearing pen rest next ∧
        Handing first
          (downCount (List.finRange 3) pen.buttons - downCount rest next.buttons) mapper)
      (Refusing first (withdrawals pen)) := by
  refine triple_given fun clearing => ?_
  obtain ⟨outside, nodup⟩ := List.nodup_cons.mp clearing.nodup
  have below := clearing.below
  have total : downCount (List.finRange 3) pen.buttons ≤ withdrawals pen := by
    unfold withdrawals
    omega
  unfold releasePenButton
  refine triple_ite (fun down => ?_) fun up => ?_
  · rw [downCount_down down] at below ⊢
    have rests : downCount rest (next.buttons &&& ~~~penBit index) = downCount rest next.buttons :=
      downCount_clear outside next.buttons
    refine (deliver_hands constructs (by omega) _ _ time).imp (fun _ holds => holds) ?_
      fun _ _ refusing => refusing
    rintro _ mapper ⟨rfl, handing, -⟩
    refine ⟨⟨rests.le.trans (by omega), nodup, clearing.down, clearing.near⟩, ?_⟩
    show Handing first (_ - downCount rest (next.buttons &&& ~~~penBit index)) mapper
    rw [rests]
    rwa [show downCount (List.finRange 3) pen.buttons - (downCount rest next.buttons + 1) + 1 =
      downCount (List.finRange 3) pen.buttons - downCount rest next.buttons by omega] at handing
  · rw [downCount_up up] at below ⊢
    exact triple_pure fun _ handing => ⟨⟨below, nodup, clearing.down, clearing.near⟩, handing⟩

/-- The release of the tip. -/
theorem releaseTip_hands {first : Mapper Point}
    (constructs : ∀ answer ∈ first.answers, answer ≠ .failed) (time : UInt64) {count limit : Nat}
    (next : PenState Point) (below : count + next.down.toNat ≤ limit) :
    Triple (Handing first count) (releaseTip time next)
      (fun after mapper => after.near = next.near ∧ Handing first (count + next.down.toNat) mapper)
      (Refusing first limit) := by
  unfold releaseTip
  refine triple_ite (fun down => ?_) fun up => ?_
  · rw [down] at below ⊢
    refine (deliver_hands constructs below _ _ time).imp (fun _ holds => holds) ?_
      fun _ _ refusing => refusing
    rintro _ mapper ⟨rfl, handing, -⟩
    exact ⟨rfl, handing⟩
  · rw [Bool.eq_false_of_not_eq_true up]
    exact triple_pure fun _ handing => ⟨rfl, handing⟩

/-- The end of the proximity. -/
theorem leaveProximity_hands {first : Mapper Point}
    (constructs : ∀ answer ∈ first.answers, answer ≠ .failed) (time : UInt64) {count limit : Nat}
    (next : PenState Point) (below : count + next.near.toNat ≤ limit) :
    Triple (Handing first count) (leaveProximity time next)
      (fun _ mapper => Handing first (count + next.near.toNat) mapper ∧
        (next.near = true → mapper.pen.near = false))
      (Refusing first limit) := by
  unfold leaveProximity
  refine triple_ite (fun near => ?_) fun away => ?_
  · rw [near] at below ⊢
    refine (deliver_hands constructs below _ _ time).imp (fun _ holds => holds) ?_
      fun _ _ refusing => refusing
    rintro _ mapper ⟨rfl, handing, stored⟩
    exact ⟨handing, fun _ => congrArg PenState.near stored⟩
  · rw [Bool.eq_false_of_not_eq_true away]
    exact triple_pure fun _ handing => ⟨handing, nofun⟩

/-- Everything the pen holds is released, and it is taken away. -/
theorem releasePen_hands {first : Mapper Point}
    (constructs : ∀ answer ∈ first.answers, answer ≠ .failed) (time : UInt64)
    (pen : PenState Point) :
    Triple (Handing first 0) (releasePen time pen)
      (fun _ mapper => Handing first (withdrawals pen) mapper ∧
        (pen.near = true → mapper.pen.near = false))
      (Refusing first (withdrawals pen)) := by
  refine triple_bind (fun next mapper => Clearing pen [] next ∧
    Handing first (downCount (List.finRange 3) pen.buttons) mapper) ?_ fun next => ?_
  · refine (triple_forEach (fun rest next mapper => Clearing pen rest next ∧ Handing first
      (downCount (List.finRange 3) pen.buttons - downCount rest next.buttons) mapper)
      (releasePenButton_hands constructs time pen) (List.finRange 3) pen).imp ?_
      (fun _ _ holds => holds) fun _ _ refusing => refusing
    intro mapper handing
    rw [Nat.sub_self]
    exact ⟨⟨Nat.le_refl _, List.nodup_finRange 3, rfl, rfl⟩, handing⟩
  refine triple_given fun clearing => ?_
  have tip : downCount (List.finRange 3) pen.buttons + next.down.toNat ≤ withdrawals pen := by
    rw [clearing.down]
    exact Nat.le_add_right _ _
  refine triple_bind _ (releaseTip_hands constructs time next tip) fun last => ?_
  refine triple_given fun near => ?_
  have same : last.near = pen.near := near.trans clearing.near
  have all : downCount (List.finRange 3) pen.buttons + next.down.toNat + last.near.toNat =
      withdrawals pen := by
    rw [clearing.down, same]
    rfl
  refine (leaveProximity_hands constructs time last all.le).imp (fun _ holds => holds) ?_
    fun _ _ refusing => refusing
  rw [all, same]
  exact fun _ _ holds => holds

/-! ### The result of a pen packet -/

/-- The result says what the sink was offered since the packet began. -/
def Reported (first : Mapper Point) (result : InputResult) (mapper : Mapper Point) : Prop :=
  ∃ delivered denied, Offered first mapper delivered denied ∧ Truthful result delivered denied

/-- Nothing was offered, and the result says so. -/
theorem reported_nothing (first : Mapper Point) {result : InputResult} (quiet : result ≠ .event)
    (allowed : result ≠ .denied) : Reported first result first :=
  ⟨[], false, .none first, ⟨fun event => absurd event quiet, fun both => absurd rfl both.1⟩,
    ⟨fun denied => absurd denied allowed, nofun⟩, fun _ => ⟨rfl, rfl⟩⟩

/-- What was offered was taken. -/
theorem Handing.reported {first mapper : Mapper Point} {count : Nat}
    (handing : Handing first count mapper) :
    Reported first (if count ≠ 0 then .event else .noEvent) mapper := by
  obtain ⟨-, delivered, length, offered⟩ := handing
  refine ⟨delivered, false, offered, ?_⟩
  by_cases empty : delivered = []
  · have zero : count = 0 := by rw [← length, empty, List.length_nil]
    rw [if_neg (not_not.mpr zero)]
    exact ⟨⟨nofun, fun some => absurd empty some.1⟩, ⟨nofun, nofun⟩, fun _ => ⟨empty, rfl⟩⟩
  · have some : count ≠ 0 := by
      rw [← length]
      exact List.length_pos_iff.mpr empty |>.ne'
    rw [if_pos some]
    refine ⟨⟨fun _ => ⟨empty, rfl⟩, fun _ => rfl⟩, ⟨nofun, nofun⟩, ?_⟩
    rintro (no | no | no) <;> cases no

/-- What was offered last was refused. -/
theorem Refusing.reported {first mapper : Mapper Point} {limit : Nat} {error : InputResult}
    (refusing : Refusing first limit error mapper) : Reported first error mapper := by
  obtain ⟨rfl, delivered, -, offered⟩ := refusing
  refine ⟨delivered, true, offered, ⟨nofun, fun both => absurd both.2 nofun⟩, ⟨fun _ => rfl,
    fun _ => rfl⟩, ?_⟩
  rintro (no | no | no) <;> cases no

/-- A tool comes near. -/
theorem enterProximity_hands {first : Mapper Point}
    (constructs : ∀ answer ∈ first.answers, answer ≠ .failed) (time : UInt64) (tool : UInt8)
    (count : Nat) (next : PenState Point) :
    Triple (Handing first count) (enterProximity time tool next)
      (fun _ => Handing first (count + (!next.near).toNat)) (Reported first) := by
  unfold enterProximity
  refine triple_ite (fun near => ?_) fun away => ?_
  · rw [near]
    exact triple_pure fun _ handing => handing
  · rw [Bool.eq_false_of_not_eq_true away]
    exact (deliver_hands constructs count.lt_succ_self _ _ time).imp (fun _ holds => holds)
      (fun _ _ ends => ends.2.1) fun _ _ refusing => refusing.reported

/-- The buttons that have changed, against those still to come. -/
structure Changing (start : PenState Point) (rest : List (Fin 3)) (next : PenState Point) :
    Prop where
  /-- A button still to come is as it was. -/
  same : ∀ index ∈ rest, (next.buttons ^^^ start.buttons) &&& penBit index = 0
  /-- Each comes once. -/
  nodup : rest.Nodup

/-- How many buttons have changed. -/
def changeCount (start next : PenState Point) : Nat :=
  downCount (List.finRange 3) (next.buttons ^^^ start.buttons)

/-- One more button has changed. -/
theorem downCount_xor (buttons start : BitVec 3) (index : Fin 3)
    (same : (buttons ^^^ start) &&& penBit index = 0) :
    downCount (List.finRange 3) ((buttons ^^^ penBit index) ^^^ start) =
      downCount (List.finRange 3) (buttons ^^^ start) + 1 := by
  decide +revert

/-- A button that changes leaves the others. -/
theorem xor_and_penBit (buttons start : BitVec 3) {index other : Fin 3}
    (differs : other ≠ index) : ((buttons ^^^ penBit index) ^^^ start) &&& penBit other =
      (buttons ^^^ start) &&& penBit other := by
  decide +revert

/-- No button has changed when the buttons are as they were. -/
theorem changeCount_ne_zero (start next : PenState Point) :
    changeCount start next ≠ 0 ↔ next.buttons ≠ start.buttons := by
  have masks : ∀ buttons start : BitVec 3,
      downCount (List.finRange 3) (buttons ^^^ start) ≠ 0 ↔ buttons ≠ start := by decide
  exact masks next.buttons start.buttons

/-- A button of the pen changes as the packet says. -/
theorem changePenButton_hands {first : Mapper Point}
    (constructs : ∀ answer ∈ first.answers, answer ≠ .failed) (packet : Packet) (count : Nat)
    (start : PenState Point) (index : Fin 3) (rest : List (Fin 3)) (next : PenState Point) :
    Triple (fun mapper => Changing start (index :: rest) next ∧
        Handing first (count + changeCount start next) mapper)
      (changePenButton packet index next)
      (fun next mapper => Changing start rest next ∧
        Handing first (count + changeCount start next) mapper)
      (Reported first) := by
  refine triple_given fun changing => ?_
  obtain ⟨outside, nodup⟩ := List.nodup_cons.mp changing.nodup
  unfold changePenButton
  refine triple_ite (fun _ => ?_) fun _ => triple_pure fun _ handing => ⟨⟨fun other member =>
    changing.same other (List.mem_cons_of_mem _ member), nodup⟩, handing⟩
  refine (deliver_hands constructs (Nat.lt_succ_self _) _ _ packet.time).imp (fun _ holds => holds)
    ?_ fun _ _ refusing => refusing.reported
  rintro _ mapper ⟨rfl, handing, -⟩
  refine ⟨⟨fun other member => ?_, nodup⟩, ?_⟩
  · have differs : other ≠ index := fun same => outside (same ▸ member)
    rw [xor_and_penBit next.buttons start.buttons differs]
    exact changing.same other (List.mem_cons_of_mem _ member)
  · have one := downCount_xor next.buttons start.buttons index
      (changing.same index List.mem_cons_self)
    show Handing first (count + downCount (List.finRange 3) _) mapper
    rw [one]
    exact handing

/-- The buttons of the pen change as the packet says. -/
theorem changePenButtons_hands {first : Mapper Point}
    (constructs : ∀ answer ∈ first.answers, answer ≠ .failed) (packet : Packet) (count : Nat)
    (start : PenState Point) :
    Triple (Handing first count) (forEach (changePenButton packet) (List.finRange 3) start)
      (fun last => Handing first (count + changeCount start last)) (Reported first) := by
  refine (triple_forEach (fun rest next mapper => Changing start rest next ∧
    Handing first (count + changeCount start next) mapper)
    (changePenButton_hands constructs packet count start) (List.finRange 3) start).imp ?_
    (fun _ _ holds => holds.2) fun _ _ reported => reported
  intro mapper handing
  have none : changeCount start start = 0 := not_not.mp fun some =>
    (changeCount_ne_zero start start).mp some rfl
  rw [none]
  refine ⟨⟨fun index _ => ?_, List.nodup_finRange 3⟩, handing⟩
  rw [BitVec.xor_self]
  exact BitVec.zero_and

/-- The part of a packet that the pen is near for. -/
theorem placePen_hands {first : Mapper Point}
    (constructs : ∀ answer ∈ first.answers, answer ≠ .failed) (packet : Packet) (count : Nat)
    (hovers : packet.byte 0 = 5 → count = 0) :
    Triple (fun mapper => (packet.byte 0 = 5 → mapper.pen.near = true) ∧ Handing first count mapper)
      (placePen setup packet) (Reported first) (Reported first) := by
  refine triple_bind (fun stored mapper => (packet.byte 0 = 5 → stored.pen.near = true) ∧
    Handing first count mapper) (triple_read fun _ holds => holds) fun stored => ?_
  refine triple_given fun near => ?_
  refine triple_bind _ (enterProximity_hands constructs packet.time (packet.byte 1) count _)
    fun next => ?_
  refine triple_bind _ (triple_read fun _ holds => holds) fun again => ?_
  refine triple_ite (fun hovering => ?_) fun _ => ?_
  · have five : packet.byte 0 = 5 := of_decide_eq_true hovering
    rw [if_pos hovering, near five, hovers five]
    refine triple_bind _ (changePenButtons_hands constructs packet 0 next) fun last => ?_
    refine triple_pure fun mapper handing => ?_
    have reported := handing.reported
    rw [Nat.zero_add] at reported
    by_cases changed : last.buttons ≠ next.buttons
    · rw [if_pos ((changeCount_ne_zero next last).mpr changed)] at reported
      rwa [if_pos changed]
    · rw [if_neg fun some => changed ((changeCount_ne_zero next last).mp some)] at reported
      rwa [if_neg changed]
  · refine triple_bind _ ((deliverOrEnd_hands constructs (Nat.lt_succ_self _) _ _ packet.time).imp
      (fun _ holds => holds) (fun _ _ ends => ends.1) fun _ _ refusing => refusing.reported)
      fun _ => ?_
    refine triple_bind _ (changePenButtons_hands constructs packet _ _) fun last => ?_
    refine triple_pure fun mapper handing => ?_
    have reported := handing.reported
    rwa [if_pos (by omega)] at reported

/-- A pen that holds something or is near takes some event to be taken away. -/
theorem withdrawals_ne_zero (pen : PenState Point) :
    withdrawals pen ≠ 0 ↔ pen.buttons ≠ 0 ∨ pen.down = true ∨ pen.near = true := by
  have masks : ∀ (buttons : BitVec 3) (down near : Bool),
      downCount (List.finRange 3) buttons + down.toNat + near.toNat ≠ 0 ↔
        buttons ≠ 0 ∨ down = true ∨ near = true := by decide
  exact masks pen.buttons pen.down pen.near

/-- A pen packet that does not change the buttons of another tool than the one that is near. -/
theorem consumePen_reported {first : Mapper Point}
    (constructs : ∀ answer ∈ first.answers, answer ≠ .failed) {packet : Packet}
    (pen : packet.type = 7) (reports : ¬Unreported first (.packet packet)) :
    Triple (fun mapper => mapper = first) (consumePen setup packet) (Reported first)
      (Reported first) := by
  refine triple_bind (fun stored mapper => stored = first ∧ mapper = first)
    (triple_read fun _ same => ⟨same, same⟩) fun stored => triple_given fun same => ?_
  rw [same]
  have quiet {result : InputResult} (event : result ≠ .event) (denied : result ≠ .denied) :
      Triple (fun mapper => mapper = first) (Program.stop result : Mapping Point InputResult)
        (Reported first) (Reported first) :=
    triple_stop fun _ same => same ▸ reported_nothing first event denied
  refine triple_ite (fun _ => quiet nofun nofun) fun running => ?_
  refine triple_ite (fun _ => quiet nofun nofun) fun bounds => ?_
  refine triple_ite (fun _ => quiet nofun nofun) fun formed => ?_
  have begins (mapper : Mapper Point) (same : mapper = first) : Handing first 0 mapper := by
    rw [same]
    exact ⟨Bool.eq_false_of_not_eq_true running, [], rfl, .none first⟩
  have released := releasePen_hands constructs packet.time first.pen
  refine triple_ite (fun _ => ?_) fun _ => ?_
  · refine triple_bind _ (released.imp begins (fun _ _ holds => holds.1)
      fun _ _ refusing => refusing.reported) fun _ => triple_pure fun mapper handing => ?_
    have reported := handing.reported
    by_cases some : first.pen.buttons ≠ 0 ∨ first.pen.down = true ∨ first.pen.near = true
    · rw [if_pos ((withdrawals_ne_zero _).mpr some)] at reported
      rwa [if_pos some]
    · rw [if_neg fun counted => some ((withdrawals_ne_zero _).mp counted)] at reported
      rwa [if_neg some]
  have rest (count : Nat) (hovers : packet.byte 0 = 5 → count = 0) :
      Triple (Handing first count) (do
        let released ← Program.read
        if packet.byte 0 = 5 ∧ !released.pen.near then pure .noEvent
        else placePen setup packet) (Reported first) (Reported first) := by
    refine triple_bind (fun stored mapper => stored = mapper ∧ Handing first count mapper)
      (triple_read fun _ handing => ⟨rfl, handing⟩) fun stored => ?_
    refine triple_ite (fun away => ?_) fun near => ?_
    · refine triple_pure fun mapper holds => ?_
      have reported := holds.2.reported
      rwa [if_neg (not_not.mpr (hovers away.1))] at reported
    · refine (placePen_hands constructs packet count hovers).imp ?_ (fun _ _ holds => holds)
        fun _ _ holds => holds
      rintro mapper ⟨rfl, handing⟩
      exact ⟨fun five => by simpa [five] using near, handing⟩
  refine triple_ite (fun switches => ?_) fun _ => (rest 0 fun _ => rfl).imp begins
    (fun _ _ holds => holds) fun _ _ holds => holds
  refine triple_bind _ (released.imp begins (fun _ _ holds => holds.1)
    fun _ _ refusing => refusing.reported) fun _ => ?_
  by_cases five : packet.byte 0 = 5
  · intro mapper handing
    obtain ⟨-, delivered, length, offered⟩ := handing
    have every : ∀ index < withdrawals first.pen, first.answers.getD index .accepted = .accepted :=
      length ▸ offered.taken
    obtain ⟨size, time⟩ := not_or.mp bounds
    exact absurd ⟨pen, Bool.eq_false_of_not_eq_true running, not_not.mp size, time,
      Bool.eq_true_of_not_eq_false formed, five, switches.1, switches.2, every⟩ reports
  · exact rest _ fun same => absurd same five

/-- A change of the buttons of another tool than the one that is near. -/
theorem consumePen_unreported {first : Mapper Point}
    (constructs : ∀ answer ∈ first.answers, answer ≠ .failed) {packet : Packet}
    (unreported : Unreported first (.packet packet)) :
    Triple (fun mapper => mapper = first) (consumePen setup packet)
      (fun result mapper => result = .noEvent ∧ Handing first (withdrawals first.pen) mapper)
      (fun _ _ => False) := by
  obtain ⟨-, running, size, time, formed, five, near, other, taken⟩ := unreported
  refine triple_bind (fun stored mapper => stored = first ∧ mapper = first)
    (triple_read fun _ same => ⟨same, same⟩) fun stored => triple_given fun same => ?_
  rw [same]
  refine triple_ite (fun stopped => absurd (running.symm.trans stopped) nofun) fun _ => ?_
  refine triple_ite (fun bounds => absurd bounds (not_or.mpr ⟨not_not.mpr size, time⟩)) fun _ => ?_
  refine triple_ite (fun bad => absurd (formed.symm.trans bad) nofun) fun _ => ?_
  have stays : leaving packet = false := by
    unfold leaving
    rw [five]
    rfl
  refine triple_ite (fun leaves => absurd (stays.symm.trans leaves) nofun) fun _ => ?_
  refine triple_ite (fun _ => ?_) fun same => absurd ⟨near, other⟩ same
  refine triple_bind _ ((releasePen_hands constructs packet.time first.pen).imp ?_
    (fun _ _ holds => holds) ?_) fun _ => ?_
  · rintro mapper rfl
    exact ⟨running, [], rfl, .none _⟩
  · rintro error mapper ⟨-, delivered, short, offered⟩
    have accepted := taken delivered.length short
    rw [List.getD_eq_getElem?_getD, offered.refused rfl] at accepted
    cases accepted
  refine triple_bind (fun stored mapper => stored.pen.near = false ∧
    Handing first (withdrawals first.pen) mapper) (triple_read fun _ holds =>
      ⟨holds.2 near, holds.1⟩) fun stored => triple_given fun away => ?_
  refine triple_ite (fun _ => triple_pure fun _ handing => ⟨rfl, handing⟩) fun here => ?_
  exact absurd ⟨five, by rw [away]; rfl⟩ here

/-! ### Every packet and tick -/

/-- An event of a key or of the mouse is offered. -/
theorem offer_reported {mapper : Mapper Point}
    (constructs : ∀ answer ∈ mapper.answers, answer ≠ .failed)
    (made : Event Point × InputState Point) :
    Reported mapper (mapper.offer made).1 (mapper.offer made).2 := by
  have none := Offered.none mapper
  unfold Mapper.offer
  cases answered : mapper.answer with
  | failed => exact absurd answered (answer_constructs constructs none)
  | denied =>
    refine ⟨[], true, none.refuse answered rfl rfl, ⟨nofun, fun both => absurd rfl both.1⟩,
      ⟨fun _ => rfl, fun _ => rfl⟩, ?_⟩
    rintro (no | no | no) <;> cases no
  | accepted =>
    refine ⟨[made.1], false, none.accept answered rfl rfl, ⟨fun _ => ⟨nofun, rfl⟩, fun _ => rfl⟩,
      ⟨nofun, nofun⟩, ?_⟩
    rintro (no | no | no) <;> cases no

/-- The result of a packet for which no event is made. -/
def Unmade (result : InputResult) : Prop := result ≠ .event ∧ result ≠ .denied

/-- A key packet for which no event is made. -/
theorem keyboard_unmade {state : InputState Point} {packet : Packet} {result : InputResult}
    (refused : keyboard state packet = .error result) : Unmade result := by
  unfold keyboard at refused
  simp only at refused
  split_ifs at refused
  all_goals
    obtain rfl := Except.error.inj refused
    exact ⟨nofun, nofun⟩

/-- A turn of the wheel for which no event is made. -/
theorem scroll_unmade {horizontal : Bool} {state : InputState Point} {packet : Packet}
    {result : InputResult} (refused : scroll horizontal state packet = .error result) :
    Unmade result := by
  unfold scroll at refused
  simp only at refused
  split_ifs at refused
  all_goals
    obtain rfl := Except.error.inj refused
    exact ⟨nofun, nofun⟩

/-- A key or mouse packet for which no event is made. -/
theorem createEvent_unmade {state : InputState Point} {packet : Packet} {result : InputResult}
    (refused : createEvent setup state packet = .error result) : Unmade result := by
  unfold createEvent at refused
  split at refused
  · unfold absoluteMouse at refused
    simp only at refused
    split_ifs at refused
    all_goals
      obtain rfl := Except.error.inj refused
      exact ⟨nofun, nofun⟩
  · unfold mouseButton at refused
    simp only at refused
    split_ifs at refused
    all_goals
      obtain rfl := Except.error.inj refused
      exact ⟨nofun, nofun⟩
  · exact scroll_unmade refused
  · exact scroll_unmade refused
  · exact keyboard_unmade refused
  · obtain rfl := Except.error.inj refused
    exact ⟨nofun, nofun⟩

/-- A key or mouse packet, at its time, for which no event is made. -/
theorem createType_unmade {state : InputState Point} {packet : Packet} {result : InputResult}
    (refused : createType setup state packet = .error result) : Unmade result := by
  unfold createType at refused
  split_ifs at refused
  · obtain rfl := Except.error.inj refused
    exact ⟨nofun, nofun⟩
  · obtain rfl := Except.error.inj refused
    exact ⟨nofun, nofun⟩
  · split at refused
    · cases refused
    · rename_i error created
      obtain rfl := Except.error.inj refused
      exact createEvent_unmade created

/-- What a triple says of the result of a program. -/
theorem result_of_triple {program : Mapping Point InputResult} {mapper : Mapper Point}
    {post : InputResult → Mapper Point → Prop}
    (triple : Triple (fun state => state = mapper) program post post) :
    post (Mapping.result program mapper).1 (Mapping.result program mapper).2 := by
  have ends := triple mapper rfl
  unfold Mapping.result
  cases outcome : program mapper with
  | mk result after =>
    rw [outcome] at ends
    cases result with
    | ok value => exact ends
    | error error => exact ends

/-- A packet or a tick is reported as it should be. -/
theorem consume_reported {mapper : Mapper Point}
    (constructs : ∀ answer ∈ mapper.answers, answer ≠ .failed) {arrival : Arrival}
    (reports : ¬Unreported mapper arrival) :
    Reported mapper (consume setup mapper arrival).1 (consume setup mapper arrival).2 := by
  cases arrival with
  | tick time =>
    show Reported mapper (repeatAtTime mapper time).1 (repeatAtTime mapper time).2
    unfold repeatAtTime
    split_ifs
    · exact reported_nothing mapper nofun nofun
    · exact reported_nothing mapper nofun nofun
    · exact reported_nothing mapper nofun nofun
    · exact offer_reported constructs _
  | packet packet =>
    show Reported mapper (consumeType setup mapper packet).1 (consumeType setup mapper packet).2
    unfold consumeType consumeKeyOrMouse
    by_cases pen : packet.type = 7
    · rw [if_pos pen]
      exact result_of_triple (consumePen_reported constructs pen reports)
    · rw [if_neg pen]
      cases created : createType setup mapper.state packet with
      | error result =>
        have unmade := createType_unmade created
        exact reported_nothing mapper unmade.1 unmade.2
      | ok made => exact offer_reported constructs made

/-- A change of the buttons of another tool takes the one that is near away and says nothing. -/
theorem consume_unreported {mapper : Mapper Point}
    (constructs : ∀ answer ∈ mapper.answers, answer ≠ .failed) {arrival : Arrival}
    (unreported : Unreported mapper arrival) : (consume setup mapper arrival).1 = .noEvent ∧
      Handing mapper (withdrawals mapper.pen) (consume setup mapper arrival).2 := by
  cases arrival with
  | tick time => exact unreported.elim
  | packet packet =>
    show (consumeType setup mapper packet).1 = _ ∧
      Handing mapper _ (consumeType setup mapper packet).2
    unfold consumeType
    rw [if_pos unreported.1]
    exact @result_of_triple _ _ mapper (fun result after =>
      result = .noEvent ∧ Handing mapper (withdrawals mapper.pen) after)
      ((consumePen_unreported constructs unreported).imp (fun _ holds => holds)
        (fun _ _ holds => holds) fun _ _ impossible => impossible.elim)

/-- Where events can be constructed, the result of a packet or a tick says what was delivered,
unless the packet changes the buttons of another tool than the one that is near. -/
theorem result_truthful_iff {mapper : Mapper Point} {arrival : Arrival}
    (constructs : ∀ answer ∈ mapper.answers, answer ≠ .failed) :
    (∃ delivered denied, Offered mapper (consume setup mapper arrival).2 delivered denied ∧
      Truthful (consume setup mapper arrival).1 delivered denied) ↔
      ¬Unreported mapper arrival := by
  refine ⟨?_, consume_reported constructs⟩
  rintro ⟨delivered, denied, offered, truthful⟩ unreported
  obtain ⟨nothing, -, released, length, taken⟩ :=
    @consume_unreported _ setup mapper constructs arrival unreported
  obtain ⟨empty, -⟩ := truthful.nothing (.inl nothing)
  have same : released = [] := by
    have traces := taken.trace.symm.trans offered.trace
    rw [empty] at traces
    exact List.append_cancel_left traces
  have none : withdrawals mapper.pen = 0 := by rw [← length, same, List.length_nil]
  cases arrival with
  | tick time => exact unreported.elim
  | packet packet =>
    have near : mapper.pen.near = true := unreported.2.2.2.2.2.2.1
    exact (withdrawals_ne_zero mapper.pen).mpr (.inr (.inr near)) none

/-- A pen packet with an action and a tool, and zeros. -/
def samplePen (action tool : UInt8) (time : UInt64) : Arrival :=
  .packet ⟨7, action :: tool :: List.replicate 30 0, time, none⟩

/-- The mapper after a pen has come near. -/
def hoveringMapper : Mapper (Nat × Nat) :=
  (consume sampleSetup (start sampleSetup []) (samplePen 0 1 1)).2

/-- The pen leaves, and the result says so. -/
theorem leaving_truthful : ∃ delivered denied,
    Offered hoveringMapper (consume sampleSetup hoveringMapper (samplePen 4 1 2)).2 delivered
        denied ∧
      Truthful (consume sampleSetup hoveringMapper (samplePen 4 1 2)).1 delivered denied :=
  (result_truthful_iff (by decide)).mpr fun unreported =>
    absurd unreported.2.2.2.2.2.1 (by decide)

/-- The buttons of the other tool change: the one that is near leaves, and the result is that
nothing happened. -/
theorem other_tool_unreported : (∀ answer ∈ hoveringMapper.answers, answer ≠ .failed) ∧
    ¬∃ delivered denied,
      Offered hoveringMapper (consume sampleSetup hoveringMapper (samplePen 5 2 2)).2 delivered
          denied ∧
        Truthful (consume sampleSetup hoveringMapper (samplePen 5 2 2)).1 delivered denied := by
  refine ⟨by decide, ?_⟩
  rintro ⟨delivered, denied, offered, truthful⟩
  obtain ⟨rfl, -⟩ := truthful.nothing (.inl (by decide))
  have longer : (consume sampleSetup hoveringMapper (samplePen 5 2 2)).2.trace.length =
      hoveringMapper.trace.length + 1 := by decide
  rw [offered.trace, List.append_nil] at longer
  omega

end Plank.Input
