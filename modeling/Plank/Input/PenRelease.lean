import Plank.Input.Pen
import Plank.Input.Release

/-!
# The release of the pen, and the trace of the tablet

The stop releases the buttons of the pen that are down, then its tip, then its proximity, which
takes the law of the trace to a pen that is away. With the stored pen this is the law of the
delivered tablet events.
-/

namespace Plank.Input

open Trace

variable {Point : Type} {setup : Setup Point}

/-! ### Stop -/

/-- The releases of the pen buttons of a list that are down, of the tip if it is down, and of the
proximity of the pen if it is near, in this order. -/
def penReleases (rest : List (Fin 3)) (pen : PenState Point) (state : InputState Point) :
    List PenChange :=
  (rest.filter (pressed pen.buttons)).map
      (fun index => .button pen.tool (.up index (state.penEventNumber index.succ))) ++
    (if pen.down then [.tip pen.tool (.up () (state.penEventNumber 0))] else []) ++
    (if pen.near then [.leave pen.tool] else [])

section Stop

open Program

/-- What the stop has released of the pen so far: with the buttons it still has to look at, the tip
and the proximity, this is what was held before. -/
structure PenReleasing (target : List PenChange) (rest : List (Fin 3)) (events : List (Event Point))
    (mapper : Mapper Point) : Prop where
  /-- Every event can be constructed. -/
  constructs : Constructs mapper
  /-- The releases, with those still to come. -/
  released : events.filterMap penChange ++ penReleases rest mapper.pen mapper.state = target
  /-- The tool that is near is one of the two. -/
  tool : mapper.pen.near = true → mapper.pen.tool = 1 ∨ mapper.pen.tool = 2
  /-- A button that is down is still to come. -/
  buttons : ∀ index, pressed mapper.pen.buttons index = true → index ∈ rest

variable {target : List PenChange}

/-- One more tablet event of the stop. -/
theorem filterMap_pen (events : List (Event Point)) (event : PenEvent Point) :
    (events ++ [Event.pen event]).filterMap penChange =
      events.filterMap penChange ++ [penEventChange event] := by
  simp [penChange]

/-- The release of one pen button of those still to come. -/
theorem stopPenButton_triple {index : Fin 3} {rest : List (Fin 3)} (later : index ∉ rest)
    (events : List (Event Point)) :
    Triple (PenReleasing target (index :: rest) events) (stopPenButton index events)
      (PenReleasing target rest) (fun _ _ => False) := by
  intro mapper releasing
  unfold stopPenButton
  split_ifs with held
  · have down := (and_penBit_ne_zero _ _).mp held
    refine construct_triple _ releasing.constructs.made
      ⟨releasing.constructs.tail, ?_, releasing.tool, fun other otherDown => ?_⟩
    · have kept : rest.filter (pressed (mapper.pen.buttons &&& ~~~penBit index)) =
          rest.filter (pressed mapper.pen.buttons) := by
        refine List.filter_congr fun other member => ?_
        have differs : other ≠ index := fun same => later (same ▸ member)
        rw [and_not_penBit _ _ down, pressed_xor_penBit, if_neg differs]
      rw [filterMap_pen, penEventChange_button rfl rfl
        (by rw [penEventIndex_button]; rfl), ← releasing.released]
      simp only [penReleases, List.filter_cons_of_pos down, List.map_cons, List.append_assoc, kept]
      rfl
    · have changed : pressed (mapper.pen.buttons ^^^ penBit index) other = true :=
        and_not_penBit _ _ down ▸ otherDown
      rw [pressed_xor_penBit] at changed
      by_cases same : other = index
      · rw [if_pos same, same, down] at changed
        cases changed
      · rw [if_neg same] at changed
        exact (List.mem_cons.mp (releasing.buttons other changed)).resolve_left same
  · have up : ¬pressed mapper.pen.buttons index = true := fun down =>
      held ((and_penBit_ne_zero _ _).mpr down)
    refine ⟨releasing.constructs, ?_, releasing.tool, fun other otherDown => ?_⟩
    · rw [← releasing.released]
      simp only [penReleases, List.filter_cons_of_neg up]
    · have differs : other ≠ index := by
        rintro rfl
        exact up otherDown
      exact (List.mem_cons.mp (releasing.buttons other otherDown)).resolve_left differs

/-- The release of the tip. -/
theorem stopTip_triple (events : List (Event Point)) :
    Triple (PenReleasing target [] events) (stopTip events)
      (fun events mapper => PenReleasing target [] events mapper ∧ mapper.pen.down = false)
      (fun _ _ => False) := by
  intro mapper releasing
  unfold stopTip
  split_ifs with down
  · refine construct_triple
      (fun events mapper => PenReleasing target [] events mapper ∧ mapper.pen.down = false)
      releasing.constructs.made ?_
    refine ⟨⟨releasing.constructs.tail, ?_, releasing.tool, fun index held => ?_⟩, rfl⟩
    · rw [filterMap_pen, ← releasing.released]
      simp only [penReleases, down, List.append_assoc]
      rfl
    · exact Bool.noConfusion ((pressed_zero index).symm.trans held)
  · exact ⟨releasing, Bool.eq_false_of_not_eq_true down⟩

/-- What is left of the pen after its stop. -/
structure PenStopped (target : List PenChange) (events : List (Event Point))
    (mapper : Mapper Point) : Prop where
  /-- Every event can be constructed. -/
  constructs : Constructs mapper
  /-- Everything was released. -/
  released : events.filterMap penChange = target
  /-- The pen is away. -/
  near : mapper.pen.near = false
  /-- Its tip is up. -/
  down : mapper.pen.down = false
  /-- Its buttons are up. -/
  buttons : mapper.pen.buttons = 0

/-- The end of the proximity. -/
theorem stopProximity_triple (events : List (Event Point)) :
    Triple (fun mapper => PenReleasing target [] events mapper ∧ mapper.pen.down = false)
      (stopProximity events) (PenStopped target) (fun _ _ => False) := by
  rintro mapper ⟨releasing, up⟩
  unfold stopProximity
  split_ifs with near
  · refine construct_triple _ releasing.constructs.made ⟨releasing.constructs.tail, ?_, rfl, up, rfl⟩
    have known := toolOf_pointerType (releasing.tool near)
    have change : penEventChange (penEvent mapper.state.flags
        { mapper.pen with near := false, buttons := 0 } .tabletProximity) =
        .leave mapper.pen.tool := congrArg PenChange.leave known
    rw [filterMap_pen, change, ← releasing.released]
    simp [penReleases, near, up]
  · refine ⟨releasing.constructs, ?_, Bool.eq_false_of_not_eq_true near, up, ?_⟩
    · rw [← releasing.released]
      simp [penReleases, up, near]
    · exact buttons_eq_zero fun index => Bool.eq_false_of_not_eq_true fun down =>
        List.not_mem_nil (releasing.buttons index down)

/-- The release of a key or mouse button leaves the pen alone. -/
theorem PenStopped.other {events : List (Event Point)} {mapper after : Mapper Point}
    (stopped : PenStopped target events mapper) {event : Event Point}
    (none : penChange event = none) (pen : after.pen = mapper.pen)
    (answers : after.answers = mapper.answers.tail) :
    PenStopped target (events ++ [event]) after := by
  refine ⟨?_, ?_, pen ▸ stopped.near, pen ▸ stopped.down, pen ▸ stopped.buttons⟩
  · intro answer member
    exact stopped.constructs.tail answer (answers ▸ member)
  · rw [← stopped.released]
    simp [none]

/-- The release of a key. -/
theorem stopKey_penStopped (key : UInt8) (events : List (Event Point)) :
    Triple (PenStopped target events) (stopKey key events) (PenStopped target)
      (fun _ _ => False) := by
  intro mapper stopped
  unfold stopKey
  split_ifs
  · exact construct_triple _ stopped.constructs.made (stopped.other rfl rfl rfl)
  · exact stopped

/-- The release of a mouse button. -/
theorem stopButton_penStopped (index : Fin 5) (events : List (Event Point)) :
    Triple (PenStopped target events) (stopButton index events) (PenStopped target)
      (fun _ _ => False) := by
  intro mapper stopped
  unfold stopButton
  split_ifs
  · exact construct_triple _ stopped.constructs.made (stopped.other rfl rfl rfl)
  · exact stopped

/-- The stop releases what the pen holds: its buttons, then its tip, then its proximity. -/
theorem stopAndCopyReleaseEvents_penStopped :
    Triple (fun mapper => Constructs mapper ∧
        (mapper.pen.near = true → mapper.pen.tool = 1 ∨ mapper.pen.tool = 2) ∧
        target = penReleases (List.finRange 3) mapper.pen mapper.state)
      (stopAndCopyReleaseEvents : Mapping Point _) (PenStopped target) (fun _ _ => False) := by
  let invariant (rest : List (Fin 3)) (events : List (Event Point)) (mapper : Mapper Point) :=
    rest.Nodup ∧ PenReleasing target rest events mapper
  refine triple_bind (fun _ => invariant (List.finRange 3) []) (triple_modify ?_) fun _ => ?_
  · rintro mapper ⟨constructs, tool, rfl⟩
    exact ⟨List.nodup_finRange 3, constructs, rfl, tool, fun index _ => List.mem_finRange index⟩
  refine triple_bind (invariant []) ?_ fun events => ?_
  · refine triple_forEach invariant ?_ (List.finRange 3) []
    rintro index rest events mapper ⟨nodup, releasing⟩
    obtain ⟨later, remaining⟩ := List.nodup_cons.mp nodup
    have round : Triple (PenReleasing target (index :: rest) events) (stopPenButton index events)
        (invariant rest) (fun _ _ => False) :=
      (stopPenButton_triple later events).imp (fun _ holds => holds)
        (fun _ _ ends => ⟨remaining, ends⟩) fun _ _ fails => fails
    exact round mapper releasing
  refine triple_bind (fun events mapper => PenReleasing target [] events mapper ∧
    mapper.pen.down = false) ?_ fun events => ?_
  · exact (stopTip_triple events).imp (fun _ holds => holds.2) (fun _ _ holds => holds)
      fun _ _ fails => fails
  refine triple_bind _ (stopProximity_triple events) fun events => ?_
  refine triple_bind (PenStopped target) ?_ fun events => ?_
  · exact triple_forEach (fun _ => PenStopped target)
      (fun key _ events => stopKey_penStopped key events) _ _
  refine triple_bind (fun _ => PenStopped target events)
    (triple_modify fun mapper stopped => ?_) fun _ => ?_
  · exact ⟨stopped.constructs, stopped.released, stopped.near, stopped.down, stopped.buttons⟩
  · exact triple_forEach (fun _ => PenStopped target)
      (fun index _ events => stopButton_penStopped index events) _ _

end Stop

/-! ### The trace of the pen -/

/-- The releases of the buttons that are down go by the law of the trace. -/
theorem run_buttonReleases {held : PenHeld} {down : Fin 3 → Bool} {numbers : Fin 3 → Nat}
    {rest : List (Fin 3)} (nodup : rest.Nodup) (near : held.near = true)
    (holds : ∀ index ∈ rest, held.buttons index = if down index then some (numbers index) else none) :
    ∃ after, PenHeld.system.run held ((rest.filter down).map
        fun index => .button held.tool (.up index (numbers index))) = some after ∧
      (after.near = true ∧ after.tool = held.tool ∧ after.tip = held.tip) ∧
      ∀ index, after.buttons index = if index ∈ rest then none else held.buttons index := by
  induction rest generalizing held with
  | nil => exact ⟨held, rfl, ⟨near, rfl, rfl⟩, fun index => rfl⟩
  | cons index rest ih =>
    obtain ⟨later, nodup⟩ := List.nodup_cons.mp nodup
    have first := holds index List.mem_cons_self
    cases pressed : down index with
    | false =>
      rw [pressed] at first
      obtain ⟨after, run, same, buttons⟩ :=
        ih nodup near fun other member => holds other (List.mem_cons_of_mem _ member)
      refine ⟨after, by rwa [List.filter_cons_of_neg (by simp [pressed])], same, fun other => ?_⟩
      rw [buttons other]
      by_cases this : other = index
      · simp [this, later, first]
      · simp [this]
    | true =>
      rw [pressed] at first
      let next : PenHeld := { held with buttons := Function.update held.buttons index none }
      have step : PenHeld.system.step held
          (.button held.tool (.up index (numbers index))) = some next :=
        PenHeld.step_button near (Press.step_up first) ⟨rfl, rfl, rfl⟩
      have remains (other : Fin 3) (member : other ∈ rest) : next.buttons other =
          if down other then some (numbers other) else none := by
        have differs : other ≠ index := fun same => later (same ▸ member)
        simp [next, differs, holds other (List.mem_cons_of_mem _ member)]
      obtain ⟨after, run, same, buttons⟩ := ih nodup (show next.near = true from near) remains
      refine ⟨after, ?_, same, fun other => ?_⟩
      · rw [List.filter_cons_of_pos pressed]
        exact Option.bind_eq_some_iff.mpr ⟨next, step, run⟩
      · rw [buttons other]
        by_cases this : other = index
        · simp [this, next]
        · simp [this, next]

/-- The release of the tip, if it is down, goes by the law of the trace. -/
theorem run_tipRelease {held : PenHeld} {down : Bool} {number : Nat} (near : held.near = true)
    (holds : held.tip () = if down then some number else none) :
    ∃ after, PenHeld.system.run held (if down then [.tip held.tool (.up () number)] else []) =
        some after ∧
      after.near = true ∧ after.tool = held.tool ∧ after.tip () = none ∧
      after.buttons = held.buttons := by
  cases down with
  | false => exact ⟨held, rfl, near, rfl, holds, rfl⟩
  | true =>
    let next : PenHeld := { held with tip := Function.update held.tip () none }
    have step : PenHeld.system.step held (.tip held.tool (.up () number)) = some next :=
      PenHeld.step_tip near (Press.step_up holds) ⟨rfl, rfl, rfl⟩
    exact ⟨next, Option.bind_eq_some_iff.mpr ⟨next, step, rfl⟩, near, rfl, rfl, rfl⟩

/-- What the stop releases of the pen goes by the law of the trace, and nothing is left. -/
theorem run_penReleases {pen : PenState Point} (state : InputState Point)
    (away : pen.near = false → pen.down = false ∧ pen.buttons = 0) :
    ∃ held, PenHeld.system.run (penHeld pen state) (penReleases (List.finRange 3) pen state) =
      some held ∧ held.near = false ∧ held.Released := by
  cases near : pen.near with
  | false =>
    obtain ⟨up, released⟩ := away near
    have none : penReleases (List.finRange 3) pen state = [] := by
      simpa [penReleases, near, up, released] using pressed_zero
    exact ⟨penHeld pen state, by rw [none]; rfl, near, penHeld_released up released⟩
  | true =>
    obtain ⟨middle, buttons, ⟨middleNear, middleTool, middleTip⟩, off⟩ := run_buttonReleases
      (List.nodup_finRange 3) (show (penHeld pen state).near = true from near) (fun _ _ => rfl)
    obtain ⟨last, tip, lastNear, lastTool, lastTip, lastButtons⟩ := run_tipRelease
      middleNear (show middle.tip () = if pen.down then some (state.penEventNumber 0) else none by
        rw [middleTip]; rfl)
    have released : last.Released := ⟨lastTip, fun index => by
      rw [lastButtons, off index, if_pos (List.mem_finRange index)]⟩
    have leave : PenHeld.system.step last (.leave pen.tool) = some { last with near := false } :=
      if_pos ⟨lastNear, lastTool.trans middleTool, released⟩
    refine ⟨{ last with near := false }, ?_, rfl, released⟩
    rw [middleTool] at tip
    rw [penReleases, if_pos near, Transition.System.run_append, Transition.System.run_append]
    exact Option.bind_eq_some_iff.mpr ⟨last, Option.bind_eq_some_iff.mpr ⟨middle, buttons, tip⟩,
      Option.bind_eq_some_iff.mpr ⟨_, leave, rfl⟩⟩

/-- The changes of the pen that were delivered. -/
def Mapper.penChanges (mapper : Mapper Point) : List PenChange := mapper.trace.filterMap penChange

/-- What the stop returns of the pen, and leaves of it. -/
structure PenStop (mapper : Mapper Point) (events : List (Event Point)) (after : Mapper Point) :
    Prop where
  /-- The stop returns these events. -/
  returned : stopAndCopyReleaseEvents mapper = (.ok events, after)
  /-- They release the buttons that are down, then the tip, then the proximity. -/
  released : events.filterMap penChange =
    penReleases (List.finRange 3) mapper.pen mapper.state
  /-- After them, by the law of the trace, nothing is left. -/
  law : ∃ held, PenHeld.system.run .away (mapper.penChanges ++ events.filterMap penChange) =
    some held ∧ held.near = false ∧ held.Released
  /-- A second stop returns nothing of the pen. -/
  again : ∃ more last, stopAndCopyReleaseEvents after = (.ok more, last) ∧
    more.filterMap penChange = []

/-- What holds of the delivered tablet events. -/
structure PenTrace (mapper : Mapper Point) : Prop where
  /-- They go by the law of the trace, and the pen they show is the stored one. -/
  law : PenHeld.system.run .away mapper.penChanges = some (penHeld mapper.pen mapper.state)
  /-- Every change but an entry comes after the entry of its tool, with no leave in between. -/
  entered : ∀ before change after, mapper.penChanges = before ++ change :: after →
    (∀ tool, change ≠ .enter tool) → ∃ earlier later,
      before = earlier ++ .enter change.tool :: later ∧ ∀ tool, .leave tool ∉ later
  /-- The presses and releases of the tip alternate, each release with the number of its press. -/
  tip : ∃ numbers : List Nat,
    (mapper.penChanges.filterMap PenChange.tipPress).filterMap (Press.edge ()) =
      numbers.flatMap Press.pair ++ Press.pending ((penHeld mapper.pen mapper.state).tip ())
  /-- So do those of each button. -/
  buttons : ∀ index, ∃ numbers : List Nat,
    (mapper.penChanges.filterMap PenChange.buttonPress).filterMap (Press.edge index) =
      numbers.flatMap Press.pair ++
        Press.pending ((penHeld mapper.pen mapper.state).buttons index)
  /-- A stop whose events can be constructed releases what the pen holds. -/
  stop : Constructs mapper → ∃ events after, PenStop mapper events after

/-- The stop ends with everything it releases of the pen. -/
theorem penStop_ends {mapper : Mapper Point} (constructs : Constructs mapper)
    (tool : mapper.pen.near = true → mapper.pen.tool = 1 ∨ mapper.pen.tool = 2) :
    ∃ events after, stopAndCopyReleaseEvents mapper = (.ok events, after) ∧
      PenStopped (penReleases (List.finRange 3) mapper.pen mapper.state) events after := by
  have ended := stopAndCopyReleaseEvents_penStopped mapper ⟨constructs, tool, rfl⟩
  cases returned : stopAndCopyReleaseEvents mapper with
  | mk result after =>
    rw [returned] at ended
    cases result with
    | error => exact ended.elim
    | ok events => exact ⟨events, after, rfl, ended⟩

/-- The stop of a pen that goes by the law of the trace. -/
theorem pen_stop {mapper : Mapper Point} (follows : PenFollows mapper)
    (constructs : Constructs mapper) : ∃ events after, PenStop mapper events after := by
  obtain ⟨events, after, returned, stopped⟩ := penStop_ends constructs follows.tool
  obtain ⟨more, last, again, stoppedAgain⟩ := penStop_ends stopped.constructs
    fun near => Bool.noConfusion (stopped.near.symm.trans near)
  have none : penReleases (List.finRange 3) after.pen after.state = [] := by
    simpa [penReleases, stopped.near, stopped.down, stopped.buttons] using pressed_zero
  refine ⟨events, after, returned, stopped.released, ?_, more, last, again,
    stoppedAgain.released.trans none⟩
  obtain ⟨held, run, away, released⟩ := run_penReleases mapper.state follows.away
  refine ⟨held, ?_, away, released⟩
  rw [stopped.released, Transition.System.run_append]
  exact Option.bind_eq_some_iff.mpr ⟨_, follows.trace, run⟩

/-- In every run of packets and ticks, with any answers of the sink. -/
theorem reachable_penTrace {mapper : Mapper Point}
    (reachable : (system setup).Reachable mapper) : PenTrace mapper where
  law := (penFollows reachable).trace
  entered before change after split other := by
    have law := (penFollows reachable).trace
    rw [show mapper.trace.filterMap penChange = before ++ change :: after from split,
      Transition.System.run_append] at law
    obtain ⟨middle, running, rest⟩ := Option.bind_eq_some_iff.mp law
    obtain ⟨next, stepped, _⟩ := Option.bind_eq_some_iff.mp rest
    obtain ⟨near, tool⟩ := PenHeld.step_tool stepped other
    exact tool ▸ PenHeld.run_entered running near
  tip := by
    have moves := Press.Moves.project (fun _ _ _ stepped => (PenHeld.step_presses stepped).1)
      (penFollows reachable).trace
    obtain ⟨numbers, edges⟩ := Press.run_edges moves ()
    exact ⟨numbers, edges⟩
  buttons index := by
    have moves := Press.Moves.project (fun _ _ _ stepped => (PenHeld.step_presses stepped).2)
      (penFollows reachable).trace
    obtain ⟨numbers, edges⟩ := Press.run_edges moves index
    exact ⟨numbers, edges⟩
  stop := pen_stop (penFollows reachable)

/-- A pen touches the tablet with a button down, and the end of its proximity is refused. -/
def samplePenArrivals : List Arrival :=
  [.packet ⟨7, [1, 1, 1, 0, 0, 0, 0, 0] ++ List.replicate 24 0, 1, none⟩,
    .packet ⟨7, [4, 0, 0, 0, 0, 0, 0, 0] ++ List.replicate 24 0, 2, none⟩]

/-- The mapper after these packets: the button and the tip were released, the proximity was not. -/
def samplePenMapper : Mapper (Nat × Nat) :=
  samplePenArrivals.foldl (fun mapper arrival => (consume sampleSetup mapper arrival).2)
    (start sampleSetup (List.replicate 5 .accepted ++ [.denied]))

/-- The pen is still near, and the law of the trace holds. -/
theorem samplePenMapper_penTrace : samplePenMapper.pen.near = true ∧
    samplePenMapper.pen.down = false ∧ PenTrace samplePenMapper :=
  ⟨by decide, by decide, reachable_penTrace
    (Transition.System.reachable_of_run ⟨List.replicate 5 .accepted ++ [.denied], rfl⟩
      (show (system sampleSetup).run _ samplePenArrivals = some samplePenMapper from rfl))⟩

end Plank.Input
