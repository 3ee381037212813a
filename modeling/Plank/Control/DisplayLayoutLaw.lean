import Plank.Control.DisplayLayout

/-!
# Every run of a display layout

A snapshot stays until a restoration succeeds; only displays that are still the saved ones and the
adopted target are configured; every transaction that is begun ends once; and a restoration succeeds
only where it has seen the displays as they were.
-/

namespace Plank.Control

/-- A display is one of a snapshot, online and still the one that was saved. -/
def SavedAs (saved : List SavedDisplay) (online : List UInt32)
    (identity : UInt32 → Option String) (display : UInt32) : Prop :=
  ∃ entry ∈ saved, entry.id = display ∧ display ∈ online ∧ identity display = some entry.uuid

/-- The displays of a snapshot that are present were seen as they were saved. -/
structure SeenRestored (saved : List SavedDisplay) (online : List UInt32)
    (answers : RestoreAnswers) : Prop where
  /-- Each is in its mode. -/
  mode : ∀ entry ∈ saved, entry.present online answers.identity = true →
    answers.mode entry.id = some entry.mode
  /-- Each mirrors its master, where that is a saved display that is present. -/
  mirrors : ∀ entry ∈ saved, entry.present online answers.identity = true →
    ∀ master ∈ saved, master.present online answers.identity = true →
      master.id = entry.mirror → answers.mirrors entry.id = entry.mirror
  /-- Where all are present, each that mirrors none of them is at its origin. -/
  origin : (∀ entry ∈ saved, entry.present online answers.identity = true) →
    ∀ entry ∈ saved, (entry.mirror = 0 ∨ ∀ master ∈ saved, master.id ≠ entry.mirror) →
      answers.origin entry.id = entry.origin

/-- What is known of an operation on a layout. -/
structure OperationLaw (before : DisplayLayout) (operation : LayoutOperation)
    (outcome : LayoutOutcome) : Prop where
  /-- A snapshot is kept, or forgotten by a restoration that succeeds. -/
  keeps : ∀ saved, before.saved = some saved → outcome.layout.saved = some saved ∨
    ((∃ answers, operation = .restore answers) ∧ outcome.returned = true ∧
      outcome.layout.saved = none)
  /-- Every transaction that is begun ends once. -/
  settled : Settled outcome.events
  /-- An activation configures displays of the snapshot that are still the saved ones, and the
  display that it has adopted. -/
  activates : ∀ display answers, operation = .activate display answers →
    ∀ call, .call call ∈ outcome.events → ∀ named ∈ call.displays,
      (∃ saved online, before.saved = some saved ∧ onlineDisplays answers.online = some online ∧
        SavedAs saved online answers.identity named) ∨
      (named = display ∧ outcome.layout.target = display ∧
        outcome.layout.targetIdentity = answers.adopted ∧ answers.adopted ≠ none)
  /-- A restoration configures displays of the snapshot that are still the saved ones, and the
  target, where it is still the one that was adopted. -/
  restores : ∀ answers, operation = .restore answers →
    ∀ call, .call call ∈ outcome.events → ∀ named ∈ call.displays,
      ∃ saved online, before.saved = some saved ∧ onlineDisplays answers.online = some online ∧
        (SavedAs saved online answers.identity named ∨
          (named = before.target ∧ named ∈ online ∧ before.targetIdentity ≠ none ∧
            before.targetIdentity = answers.targetIdentity))
  /-- A restoration that succeeds has seen the displays restored, and forgets the snapshot. -/
  succeeds : ∀ answers saved, operation = .restore answers → before.saved = some saved →
    outcome.returned = true → outcome.layout.saved = none ∧
      ∃ online, onlineDisplays answers.online = some online ∧ SeenRestored saved online answers
  /-- One that does not leaves the layout as it is, to be retried. -/
  fails : ∀ answers, operation = .restore answers → outcome.returned = false →
    outcome.layout = before

/-! ### The pieces of an operation -/

/-- A transaction makes no other calls than those that were to be made. -/
theorem TransactionAnswers.transact_mem {answers : TransactionAnswers} {calls : List DisplayCall}
    {call : DisplayCall} (made : .call call ∈ (answers.transact calls).2) : call ∈ calls := by
  obtain ⟨succeeds, member⟩ := Plank.transact_mem made
  obtain ⟨other, inside, same⟩ := List.mem_map.mp member
  rwa [← (Prod.mk.inj same).1]

/-- A display that is present is one of the snapshot that is still the saved one. -/
theorem savedAs_of_present {saved : List SavedDisplay} {online : List UInt32}
    {identity : UInt32 → Option String} {entry : SavedDisplay} (member : entry ∈ saved)
    (present : entry.present online identity = true) :
    SavedAs saved online identity entry.id := by
  unfold SavedDisplay.present at present
  rw [Bool.and_eq_true, List.contains_iff_mem, decide_eq_true_eq] at present
  exact ⟨entry, member, rfl, present.1, present.2⟩

/-- The last main display is one that is present, or the one to start with. -/
theorem main_mem (present : List SavedDisplay) (start : UInt32) :
    present.foldl (fun primary entry => if entry.main then entry.id else primary) start = start ∨
      ∃ entry ∈ present, entry.id =
        present.foldl (fun primary entry => if entry.main then entry.id else primary) start := by
  induction present generalizing start with
  | nil => exact .inl rfl
  | cons first rest ih =>
    rw [List.foldl_cons]
    obtain same | ⟨entry, member, same⟩ := ih (if first.main then first.id else start)
    · by_cases main : first.main = true
      · refine .inr ⟨first, List.mem_cons_self, ?_⟩
        rw [same, if_pos main]
      · refine .inl ?_
        rw [same, if_neg main]
    · exact .inr ⟨entry, List.mem_cons_of_mem _ member, same⟩

/-- The main display of a restoration is none, or one that is present. -/
theorem primaryOf_mem (present : List SavedDisplay) (exists_primary : primaryOf present ≠ 0) :
    ∃ entry ∈ present, entry.id = primaryOf present := by
  unfold primaryOf at exists_primary ⊢
  have found := main_mem present 0
  dsimp only at exists_primary ⊢
  generalize present.foldl (fun primary entry => if entry.main then entry.id else primary) 0 =
    primary at exists_primary found ⊢
  by_cases none : primary = 0
  · rw [if_pos none] at exists_primary ⊢
    cases present with
    | nil => exact absurd rfl exists_primary
    | cons first rest => exact ⟨first, List.mem_cons_self, rfl⟩
  · rw [if_neg none]
    obtain same | present := found
    · exact absurd same none
    · exact present

/-- The calls of a restoration name displays that are present, and the target. -/
theorem restoring_displays {layout : DisplayLayout} {present : List SavedDisplay} {ownTarget : Bool}
    {call : DisplayCall} (made : call ∈ layout.restoring present ownTarget) {named : UInt32}
    (names : named ∈ call.displays) :
    (∃ entry ∈ present, entry.id = named) ∨ (ownTarget = true ∧ named = layout.target) := by
  unfold DisplayLayout.restoring at made
  rw [List.mem_append, List.mem_append] at made
  obtain (alone | mirrored) | parked := made
  · obtain ⟨entry, member, restores⟩ := List.mem_flatMap.mp alone
    refine .inl ⟨entry, member, ?_⟩
    simp only [SavedDisplay.restoring, List.mem_cons, List.not_mem_nil, or_false] at restores
    obtain rfl | rfl | rfl := restores
    · rw [DisplayCall.displays, if_pos rfl] at names
      exact (List.mem_singleton.mp names).symm
    · exact (List.mem_singleton.mp names).symm
    · exact (List.mem_singleton.mp names).symm
  · obtain ⟨entry, member, rfl⟩ := List.mem_map.mp mirrored
    obtain ⟨member, masters⟩ := List.mem_filter.mp member
    rw [Bool.and_eq_true, decide_eq_true_eq, List.contains_iff_mem] at masters
    rw [DisplayCall.displays, if_neg masters.1] at names
    obtain rfl | names := List.mem_cons.mp names
    · exact .inl ⟨entry, member, rfl⟩
    · obtain ⟨master, inside, same⟩ := List.mem_map.mp masters.2
      exact .inl ⟨master, inside, same.trans (List.mem_singleton.mp names).symm⟩
  · by_cases own : primaryOf present ≠ 0 ∧ ownTarget = true
    · rw [if_pos own] at parked
      obtain rfl := List.mem_singleton.mp parked
      rw [DisplayCall.displays, if_neg own.1] at names
      obtain rfl | names := List.mem_cons.mp names
      · exact .inr ⟨own.2, rfl⟩
      · obtain ⟨entry, member, same⟩ := primaryOf_mem present own.1
        exact .inl ⟨entry, member, same.trans (List.mem_singleton.mp names).symm⟩
    · rw [if_neg own] at parked
      exact nomatch parked

/-- What was seen of each display that is present is what was saved. -/
theorem seenRestored_of_all {saved : List SavedDisplay} {online : List UInt32}
    {answers : RestoreAnswers}
    (restored : ∀ entry ∈ saved.filter (SavedDisplay.present online answers.identity),
      entry.restored saved (saved.filter (SavedDisplay.present online answers.identity)) answers =
        true) :
    SeenRestored saved online answers := by
  have seen (entry) (member : entry ∈ saved)
      (present : entry.present online answers.identity = true) :=
    restored entry (List.mem_filter.mpr ⟨member, present⟩)
  simp only [SavedDisplay.restored, Bool.and_eq_true, Bool.or_eq_true, Bool.not_eq_true',
    decide_eq_true_eq, Bool.and_eq_false_iff, decide_eq_false_iff_not] at seen
  refine ⟨fun entry member present => (seen entry member present).1.1, ?_, ?_⟩
  · intro entry member present master inside master_present same
    have mirrors := (seen entry member present).1.2
    unfold SavedDisplay.expected at mirrors
    rw [if_pos] at mirrors
    · exact mirrors
    · rw [List.contains_iff_mem, ← same]
      exact List.mem_map_of_mem (List.mem_filter.mpr ⟨inside, master_present⟩)
  · intro all entry member alone
    have whole : saved.filter (SavedDisplay.present online answers.identity) = saved :=
      List.filter_eq_self.mpr all
    have last := (seen entry member (all entry member)).2
    rw [whole] at last
    obtain (fewer | expected) | same := last
    · exact absurd rfl fewer
    · refine absurd ?_ expected
      unfold SavedDisplay.expected
      obtain none | other := alone
      · rw [none, ite_self]
      · rw [if_neg]
        intro among
        rw [List.contains_iff_mem] at among
        obtain ⟨master, inside, same⟩ := List.mem_map.mp among
        exact other master inside same
    · exact same

/-! ### Every operation -/

/-- What is known of an operation that makes no transaction. -/
theorem operationLaw_quiet {before : DisplayLayout} {operation : LayoutOperation} {returned : Bool}
    {layout : DisplayLayout}
    (keeps : ∀ saved, before.saved = some saved → layout.saved = some saved)
    (unrestored : ∀ answers, operation = .restore answers →
      layout = before ∧ (returned = true → before.saved = none)) :
    OperationLaw before operation ⟨returned, layout, []⟩ := by
  refine ⟨fun saved pending => .inl (keeps saved pending), .nil, nofun, nofun, ?_,
    fun answers same _ => (unrestored answers same).1⟩
  intro answers saved same pending succeeded
  exact nomatch pending.symm.trans ((unrestored answers same).2 succeeded)

/-- An adoption leaves the snapshot. -/
theorem adoptDisplay_saved (layout : DisplayLayout) (display : UInt32) (identity : Option String) :
    (layout.adoptDisplay display identity).2.saved = layout.saved := by
  unfold DisplayLayout.adoptDisplay
  split <;> rfl

/-- A display that is adopted is the target, with its identity. -/
theorem adoptDisplay_target {layout : DisplayLayout} {display : UInt32} {identity : Option String}
    (adopted : (layout.adoptDisplay display identity).1 = true) :
    (layout.adoptDisplay display identity).2.target = display ∧
      (layout.adoptDisplay display identity).2.targetIdentity = identity ∧ identity ≠ none := by
  unfold DisplayLayout.adoptDisplay at adopted ⊢
  by_cases refused : display = 0 ∨ identity = none ∨ (layout.target = display ∧
      layout.targetIdentity ≠ none ∧ layout.targetIdentity ≠ identity)
  · rw [if_pos refused] at adopted
    exact nomatch adopted
  · rw [if_neg refused]
    exact ⟨rfl, rfl, fun none => refused (.inr (.inl none))⟩

/-- What is known of taking a snapshot. -/
theorem beginExcludingDisplay_law (layout : DisplayLayout) (display : UInt32)
    (answers : BeginAnswers) :
    OperationLaw layout (.start display answers)
      (layout.beginExcludingDisplay display answers) := by
  unfold DisplayLayout.beginExcludingDisplay
  by_cases pending : layout.saved ≠ none
  · rw [if_pos pending]
    exact operationLaw_quiet (fun _ saved => saved) nofun
  rw [if_neg pending]
  have nothing {saved : List SavedDisplay} {Conclusion : Prop}
      (some_saved : layout.saved = some saved) : Conclusion :=
    (pending (by rw [some_saved]; nofun)).elim
  generalize (if display ≠ 0 then layout.adoptDisplay display answers.adopted
    else (true, layout)) = adoption
  obtain ⟨adopted, adopting⟩ := adoption
  dsimp only
  by_cases unadopted : (!adopted) = true
  · rw [if_pos unadopted]
    exact operationLaw_quiet (fun _ => nothing) nofun
  rw [if_neg unadopted]
  cases (onlineDisplays answers.online).bind (saveDisplays display answers) with
  | none => exact operationLaw_quiet (fun _ => nothing) nofun
  | some saved =>
    dsimp only
    by_cases parked : display ≠ 0 ∧ answers.parked = true
    · rw [if_pos parked]
      exact ⟨fun _ => nothing, transact_settled _ _ _, nofun, nofun, nofun, nofun⟩
    · rw [if_neg parked]
      exact operationLaw_quiet (fun _ => nothing) nofun

/-- What is known of an activation. -/
theorem activateDisplay_law (layout : DisplayLayout) (display : UInt32)
    (answers : ActivateAnswers) :
    OperationLaw layout (.activate display answers) (layout.activateDisplay display answers) := by
  unfold DisplayLayout.activateDisplay
  cases pending : layout.saved with
  | none => exact operationLaw_quiet (fun _ saved => saved) nofun
  | some saved =>
    dsimp only
    by_cases offline : display = 0 ∨ (!answers.isOnline) = true
    · rw [if_pos offline]
      exact operationLaw_quiet (fun _ saved => saved) nofun
    rw [if_neg offline]
    have kept := adoptDisplay_saved layout display answers.adopted
    have targeted := @adoptDisplay_target layout display answers.adopted
    generalize layout.adoptDisplay display answers.adopted = adoption at kept targeted ⊢
    obtain ⟨adopted, adopting⟩ := adoption
    dsimp only at kept targeted ⊢
    have keeps (other : List SavedDisplay) (same : layout.saved = some other) :
        adopting.saved = some other := kept.trans same
    by_cases unadopted : (!adopted) = true
    · rw [if_pos unadopted]
      exact operationLaw_quiet keeps nofun
    rw [if_neg unadopted]
    cases listed : onlineDisplays answers.online with
    | none => exact operationLaw_quiet keeps nofun
    | some online =>
      dsimp only
      by_cases changed : online.length ≠ saved.length + 1 ∨
          (!saved.all (SavedDisplay.present online answers.identity)) = true
      · rw [if_pos changed]
        exact operationLaw_quiet keeps nofun
      rw [if_neg changed]
      simp only [not_or, Bool.not_eq_true', Bool.not_eq_false, List.all_eq_true] at changed
      obtain ⟨target, identity, identified⟩ := targeted (by simpa using unadopted)
      refine ⟨fun other same => .inl (keeps other same), transact_settled _ _ _, ?_, nofun, nofun,
        nofun⟩
      rintro _ _ ⟨⟩ call made named names
      have among := TransactionAnswers.transact_mem made
      have mine (same : named = display) : (∃ saved online, layout.saved = some saved ∧
          onlineDisplays answers.online = some online ∧
            SavedAs saved online answers.identity named) ∨
          (named = display ∧ adopting.target = display ∧
            adopting.targetIdentity = answers.adopted ∧ answers.adopted ≠ none) :=
        .inr ⟨same, target, identity, identified⟩
      obtain _ | ⟨_, among⟩ := among
      · rw [DisplayCall.displays, if_pos rfl] at names
        exact mine (List.mem_singleton.mp names)
      obtain _ | ⟨_, among⟩ := among
      · exact mine (List.mem_singleton.mp names)
      obtain ⟨entry, member, rfl⟩ := List.mem_map.mp among
      rw [DisplayCall.displays, if_neg (not_or.mp offline).1] at names
      obtain rfl | names := List.mem_cons.mp names
      · exact .inl ⟨saved, online, pending, listed,
          savedAs_of_present member (changed.2 entry member)⟩
      · exact mine (List.mem_singleton.mp names)

/-- What is known of a restoration. -/
theorem restore_law (layout : DisplayLayout) (answers : RestoreAnswers) :
    OperationLaw layout (.restore answers) (layout.restore answers) := by
  unfold DisplayLayout.restore
  cases pending : layout.saved with
  | none => exact operationLaw_quiet (fun _ saved => saved) fun _ _ => ⟨rfl, fun _ => pending⟩
  | some saved =>
    dsimp only
    cases listed : onlineDisplays answers.online with
    | none => exact operationLaw_quiet (fun _ saved => saved) fun _ _ => ⟨rfl, nofun⟩
    | some online =>
      dsimp only
      generalize present_eq :
        saved.filter (SavedDisplay.present online answers.identity) = present
      generalize own_eq : (decide (layout.target ≠ 0) && online.contains layout.target &&
        decide (layout.targetIdentity ≠ none) &&
        decide (layout.targetIdentity = answers.targetIdentity)) = ownTarget
      have configured (call : DisplayCall) (made : .call call ∈
            (answers.transaction.transact (layout.restoring present ownTarget)).2)
          (named : UInt32) (names : named ∈ call.displays) :
          ∃ saved online, layout.saved = some saved ∧
            onlineDisplays answers.online = some online ∧
            (SavedAs saved online answers.identity named ∨
              (named = layout.target ∧ named ∈ online ∧ layout.targetIdentity ≠ none ∧
                layout.targetIdentity = answers.targetIdentity)) := by
        refine ⟨saved, online, pending, listed, ?_⟩
        obtain ⟨entry, member, rfl⟩ | ⟨own, rfl⟩ :=
          restoring_displays (TransactionAnswers.transact_mem made) names
        · rw [← present_eq] at member
          obtain ⟨member, present⟩ := List.mem_filter.mp member
          exact .inl (savedAs_of_present member present)
        · rw [own] at own_eq
          simp only [Bool.and_eq_true, decide_eq_true_eq, List.contains_iff_mem] at own_eq
          exact .inr ⟨rfl, own_eq.1.1.2, own_eq.1.2, own_eq.2⟩
      have settled := transact_settled answers.transaction.begins
        ((layout.restoring present ownTarget).map fun call =>
          (call, answers.transaction.succeeds call)) answers.transaction.completes
      change Settled (answers.transaction.transact (layout.restoring present ownTarget)).2
        at settled
      generalize answers.transaction.transact (layout.restoring present ownTarget) = attempted
        at configured settled ⊢
      obtain ⟨completed, events⟩ := attempted
      dsimp only at configured settled ⊢
      -- A restoration that does not succeed keeps the layout.
      have refused : OperationLaw layout (.restore answers) ⟨false, layout, events⟩ := by
        refine ⟨fun _ same => .inl same, settled, nofun, ?_, fun _ _ _ _ => nofun, fun _ _ _ => rfl⟩
        rintro _ ⟨⟩
        exact configured
      by_cases failed : (!completed) = true
      · rw [if_pos failed]
        exact refused
      rw [if_neg failed]
      by_cases differs : (!present.all fun entry => entry.restored saved present answers) = true
      · rw [if_pos differs]
        exact refused
      rw [if_neg differs]
      by_cases unparked : primaryOf present ≠ 0 ∧ ownTarget = true ∧
          answers.targetMirrors ≠ primaryOf present
      · rw [if_pos unparked]
        exact refused
      rw [if_neg unparked]
      simp only [Bool.not_eq_true', Bool.not_eq_false, List.all_eq_true] at differs
      refine ⟨fun _ _ => .inr ⟨⟨answers, rfl⟩, rfl, rfl⟩, settled, nofun, ?_, ?_, ?_⟩
      · rintro _ ⟨⟩
        exact configured
      · rintro _ other ⟨⟩ same -
        obtain rfl := Option.some.inj (pending.symm.trans same)
        subst present_eq
        exact ⟨rfl, online, listed, seenRestored_of_all differs⟩
      · rintro _ - unreturned
        exact nomatch unreturned

/-- What is known of an operation. -/
theorem operation_law (layout : DisplayLayout) (operation : LayoutOperation) :
    OperationLaw layout operation (layout.perform operation) := by
  cases operation with
  | adopt display identity =>
    have kept := adoptDisplay_saved layout display identity
    have adopting : layout.perform (.adopt display identity) =
        ⟨(layout.adoptDisplay display identity).1, (layout.adoptDisplay display identity).2, []⟩ :=
      rfl
    rw [adopting]
    exact operationLaw_quiet (fun _ pending => kept.trans pending) nofun
  | start display answers => exact beginExcludingDisplay_law layout display answers
  | activate display answers => exact activateDisplay_law layout display answers
  | restore answers => exact restore_law layout answers

/-! ### Every run -/

/-- An operation is a restoration that succeeds. -/
def Restores (step : DisplayLayout × LayoutOperation × LayoutOutcome) : Prop :=
  (∃ answers, step.2.1 = .restore answers) ∧ step.2.2.returned = true

/-- What is known of a run of a layout. -/
structure LayoutLaw (layout : DisplayLayout) (operations : List LayoutOperation) : Prop where
  /-- Every operation obeys its law. -/
  each : ∀ step ∈ layout.performAll operations, OperationLaw step.1 step.2.1 step.2.2
  /-- Every transaction that is begun ends once, before the next one. -/
  settled : Settled ((layout.performAll operations).flatMap fun step => step.2.2.events)
  /-- A snapshot stays the same until a restoration succeeds. -/
  pending : ∀ saved, layout.saved = some saved →
    (∀ step ∈ layout.performAll operations, ¬Restores step) →
      ∀ step ∈ layout.performAll operations, step.2.2.layout.saved = some saved

/-- From every layout, every run of operations with any answers of the display system obeys its
law. -/
theorem reachable_layouts (layout : DisplayLayout) (operations : List LayoutOperation) :
    LayoutLaw layout operations := by
  induction operations generalizing layout with
  | nil =>
    have steps : layout.performAll [] = [] := rfl
    refine ⟨?_, ?_, fun saved _ _ => ?_⟩ <;> rw [steps]
    · exact List.forall_mem_nil _
    · exact .nil
    · exact List.forall_mem_nil _
  | cons operation operations ih =>
    have law := operation_law layout operation
    obtain ⟨each, settled, pending⟩ := ih (layout.perform operation).layout
    have steps : layout.performAll (operation :: operations) =
        (layout, operation, layout.perform operation) ::
          (layout.perform operation).layout.performAll operations := rfl
    generalize layout.perform operation = outcome at law each settled pending steps
    refine ⟨?_, ?_, fun saved here unrestored => ?_⟩
    · rw [steps]
      exact List.forall_mem_cons.mpr ⟨law, each⟩
    · rw [steps, List.flatMap_cons]
      exact law.settled.append settled
    · rw [steps] at unrestored ⊢
      obtain ⟨first, rest⟩ := List.forall_mem_cons.mp unrestored
      have kept : outcome.layout.saved = some saved := by
        obtain kept | ⟨restores, returned, -⟩ := law.keeps saved here
        · exact kept
        · exact (first ⟨restores, returned⟩).elim
      exact List.forall_mem_cons.mpr ⟨kept, pending saved kept rest⟩

/-- A transaction of which every call succeeds. -/
def allSucceed : TransactionAnswers := ⟨true, fun _ => true, true⟩

/-- The display of one other is adopted while that one mirrors it. -/
def mirroringStart : BeginAnswers where
  adopted := some "desk"
  online := ⟨some 2, some [1, 9]⟩
  identity _ := some "wall"
  mode _ := some 5
  alwaysMirrored _ := false
  origin _ := (0, 0)
  mirrors _ := 9
  main _ := true
  parked := false
  transaction := allSucceed

/-- Both displays are still online and still themselves; the other one mirrors none. -/
def unmirroredRestore : RestoreAnswers where
  online := ⟨some 2, some [1, 9]⟩
  identity _ := some "wall"
  targetIdentity := some "desk"
  transaction := allSucceed
  mode _ := some 5
  mirrors _ := 0
  origin _ := (0, 0)
  targetMirrors := 1

/-- A display that mirrored the one that is excluded is restored without its master: the
restoration succeeds, though the master is online, still itself and still the target. -/
theorem excluded_master_not_mirrored :
    let run := DisplayLayout.performAll {} [.start 9 mirroringStart, .restore unmirroredRestore]
    ∃ saved online entry,
      run.map (fun step => (step.1.saved, step.2.2.returned)) =
          [(none, true), (some saved, true)] ∧
        onlineDisplays unmirroredRestore.online = some online ∧ entry ∈ saved ∧
        entry.present online unmirroredRestore.identity = true ∧
        entry.mirror ∈ online ∧ entry.mirror = 9 ∧
        unmirroredRestore.targetIdentity = mirroringStart.adopted ∧
        unmirroredRestore.mirrors entry.id ≠ entry.mirror := by
  refine ⟨[⟨1, "wall", 5, (0, 0), 9, true⟩], [1, 9], ⟨1, "wall", 5, (0, 0), 9, true⟩, ?_⟩
  decide

end Plank.Control
