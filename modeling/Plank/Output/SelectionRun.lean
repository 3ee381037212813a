import Plank.Output.SelectionLaw

/-!
# Every program of the selection obeys

A selection, a restoration and a recovery ask nothing but what the journal allows. A restoration
that succeeds leaves no default switched, as far as the process knows of those that are.
-/

namespace Plank.Output

open Dialogue (Obeys Stable obeys_ask obeys_done)

/-! ### What a call leaves -/

/-- What looking at a default leaves. -/
structure Looked (outputs : Outputs) (slot : Slot) (uid : Option String) (after : Outputs) :
    Prop where
  /-- What was seen is what is there, if anything was. -/
  found : uid = none ∨ uid = (outputs.setting slot).device
  /-- It is remembered. -/
  seen : (after.setting slot).seen = uid
  /-- Nothing is switched or switched back. -/
  replaced : ∀ other, (after.setting other).replaced = (outputs.setting other).replaced
  /-- What was read stays read. -/
  loaded : after.loaded = outputs.loaded
  /-- The journal stays. -/
  journal : after.journal = outputs.journal
  /-- It stays on the disk. -/
  durable : after.durable = outputs.durable

/-- What looking at a default answers. -/
theorem look_responds {outputs after : Outputs} {slot : Slot} {uid : Option String}
    (responds : outputs.respond (.look slot) uid = some after) : Looked outputs slot uid after := by
  unfold Outputs.respond at responds
  dsimp only at responds
  split at responds
  case isFalse => exact nomatch responds
  case isTrue found =>
    obtain rfl := Option.some.inj responds
    refine ⟨found, ?_, fun other => ?_, rfl, rfl, rfl⟩
    · rw [Outputs.change_self]
    · by_cases same : other = slot
      · subst same
        rw [Outputs.change_self]
      · rw [Outputs.change_of_ne outputs _ same]

/-- What setting a default leaves. -/
structure SetTo (outputs : Outputs) (slot : Slot) (uid : String) (succeeds : Bool)
    (after : Outputs) : Prop where
  /-- Nothing is switched but this one, from what was seen to the PLANK device. -/
  replaced : ∀ other replaced, (after.setting other).replaced = some replaced →
    (outputs.setting other).replaced = some replaced ∨
      (other = slot ∧ uid = plankUID ∧ (outputs.setting slot).seen = some replaced.seen)
  /-- It is not switched to another device. -/
  restored : succeeds = true → uid ≠ plankUID → (after.setting slot).replaced = none
  /-- What was read stays read. -/
  loaded : after.loaded = outputs.loaded
  /-- The journal stays. -/
  journal : after.journal = outputs.journal
  /-- It stays on the disk. -/
  durable : after.durable = outputs.durable

/-- What setting a default answers. -/
theorem setCurrent_responds {outputs after : Outputs} {slot : Slot} {uid : String}
    {answer : (Query.setCurrent slot uid).Answer}
    (responds : outputs.respond (.setCurrent slot uid) answer = some after) :
    SetTo outputs slot uid answer.1.1 after := by
  obtain ⟨⟨succeeds, effective⟩, valid⟩ := answer
  obtain rfl := Option.some.inj responds
  cases effective with
  | false =>
    refine ⟨fun _ _ put => .inl put, fun succeeded => ?_, rfl, rfl, rfl⟩
    exact nomatch valid succeeded
  | true =>
    rw [if_pos rfl]
    unfold Outputs.set
    refine ⟨fun other replaced put => ?_, fun _ elsewhere => ?_, rfl, rfl, rfl⟩
    · by_cases same : other = slot
      · subst same
        rw [Outputs.change_self] at put
        dsimp only at put
        split at put
        case isFalse => exact nomatch put
        case isTrue plank =>
          obtain ⟨seen, looked, rfl⟩ := Option.map_eq_some_iff.mp put
          exact .inr ⟨rfl, plank, looked⟩
      · rw [Outputs.change_of_ne outputs _ same] at put
        exact .inl put
    · rw [Outputs.change_self]
      exact if_neg elsewhere

/-! ### What every program leaves -/

/-- The journal is saved while what is switched is covered. -/
theorem save_obeys {previous : Routes} {property : Outputs → Prop} (proper : Proper previous)
    (stable : ∀ outputs after, Disturbed outputs after → property outputs → property after)
    (covers : ∀ outputs, property outputs → Covered previous outputs)
    (frame : ∀ outputs journal durable, property outputs →
      property { outputs with journal, durable }) {outputs : Outputs} (holds : property outputs) :
    (save previous).Obeys discipline (fun saved found => property found ∧
      (saved = true → previous.isEmpty = false →
        found.journal = some previous.propertyList ∧
          found.durable = some previous.propertyList)) outputs := by
  have refused {found : Outputs} (holds : property found) :
      (Dialogue.done false : Program Bool).Obeys discipline (fun saved found => property found ∧
        (saved = true → previous.isEmpty = false →
          found.journal = some previous.propertyList ∧
            found.durable = some previous.propertyList)) found :=
    obeys_done (stable_of_disturbed stable) holds
      fun found _ holds => ⟨holds, fun saved => nomatch saved⟩
  unfold save
  refine obeys_ask (stable_of_disturbed stable) holds (fun _ _ _ => trivial) ?_
  intro found opened after _ holds responds
  obtain rfl := Option.some.inj responds
  cases opened with
  | false => exact refused holds
  | true =>
    by_cases empty : previous.isEmpty = true
    · show Obeys _ _ (if previous.isEmpty then _ else _) _
      rw [if_pos empty]
      refine obeys_ask (stable_of_disturbed stable) holds
        (fun found _ holds => (covers found holds).unswitched empty) ?_
      intro found removed after _ holds responds
      obtain rfl := Option.some.inj responds
      cases removed with
      | false => exact refused holds
      | true =>
        refine obeys_ask (stable_of_disturbed stable) (frame found none found.durable holds)
          (fun _ _ _ => trivial) ?_
        intro found synced after _ holds responds
        obtain rfl := Option.some.inj responds
        refine obeys_done (stable_of_disturbed stable) ?_
          (fun found _ holds => ⟨holds, fun _ nonempty => nomatch empty.symm.trans nonempty⟩)
        cases synced with
        | false => exact holds
        | true => exact frame found found.journal found.journal holds
    · show Obeys _ _ (if previous.isEmpty then _ else _) _
      rw [if_neg empty]
      refine obeys_ask (stable_of_disturbed stable) holds (fun _ _ _ => trivial) ?_
      intro found written after _ holds responds
      obtain rfl := Option.some.inj responds
      cases written with
      | false => exact refused holds
      | true =>
        refine obeys_ask (stable_of_disturbed stable) holds (fun found _ holds slot replaced put =>
          ⟨_, _, rfl, propertyList_routes proper (by simpa using empty),
            covers found holds slot replaced put⟩) ?_
        intro found renamed after _ holds responds
        obtain rfl := Option.some.inj responds
        cases renamed with
        | false => exact refused holds
        | true =>
          have written_stable : ∀ outputs after, Disturbed outputs after →
              (property outputs ∧ outputs.journal = some previous.propertyList) →
              (property after ∧ after.journal = some previous.propertyList) :=
            fun outputs after disturbed known => ⟨stable outputs after disturbed known.1,
              disturbed.journal.trans known.2⟩
          refine obeys_ask (stable_of_disturbed written_stable)
            ⟨frame found _ found.durable holds, rfl⟩ (fun _ _ _ => trivial) ?_
          intro found synced after _ known responds
          obtain rfl := Option.some.inj responds
          cases synced with
          | false => exact refused known.1
          | true =>
            have saved_stable : ∀ outputs after, Disturbed outputs after →
                (property outputs ∧ outputs.journal = some previous.propertyList ∧
                  outputs.durable = some previous.propertyList) →
                (property after ∧ after.journal = some previous.propertyList ∧
                  after.durable = some previous.propertyList) :=
              fun outputs after disturbed known => ⟨stable outputs after disturbed known.1,
                disturbed.journal.trans known.2.1,
                disturbed.durable.elim (fun same => same.trans known.2.2)
                  fun same => same.trans known.2.1⟩
            exact obeys_done (stable_of_disturbed saved_stable)
              ⟨frame found _ _ known.1, known.2, known.2⟩
              fun _ _ known => ⟨known.1, fun _ _ => known.2⟩

/-- A process has read the journal, and what is switched is to be restored. -/
structure Known (previous : Routes) (outputs : Outputs) : Prop where
  /-- It has read the journal. -/
  loaded : outputs.loaded = true
  /-- What is switched is to be restored. -/
  covered : Covered previous outputs

/-- What is known stays known. -/
theorem Known.disturbed {previous : Routes} (outputs after : Outputs)
    (disturbed : Disturbed outputs after) (known : Known previous outputs) :
    Known previous after :=
  ⟨disturbed.loaded.trans known.loaded, known.covered.disturbed disturbed⟩

/-- What is known is known of other settings that switch no more. -/
theorem Known.of_replaced {previous : Routes} {outputs after : Outputs}
    (known : Known previous outputs) (loaded : after.loaded = outputs.loaded)
    (replaced : ∀ slot replaced, (after.setting slot).replaced = some replaced →
      (outputs.setting slot).replaced = some replaced) : Known previous after :=
  ⟨loaded.trans known.loaded, fun slot other put =>
    known.covered slot other (replaced slot other put)⟩

/-- What is not switched need not be restored. -/
theorem Known.remove {previous : Routes} {outputs : Outputs} {slot : Slot}
    (known : Known previous outputs) (restored : (outputs.setting slot).replaced = none) :
    Known (previous.remove slot) outputs := by
  refine ⟨known.loaded, fun other replaced put => ?_⟩
  have differs : other ≠ slot := by
    rintro rfl
    exact nomatch restored.symm.trans put
  exact (Function.update_of_ne differs none previous).trans (known.covered other replaced put)

/-- What is left to restore is proper. -/
theorem Proper.remove {previous : Routes} (proper : Proper previous) (slot : Slot) :
    Proper (previous.remove slot) := by
  intro other uid there
  unfold Routes.remove at there
  by_cases same : other = slot
  · subst same
    rw [Function.update_self] at there
    exact nomatch there
  · rw [Function.update_of_ne same] at there
    exact proper other uid there

/-- The device that a default is restored to is not the PLANK device. -/
theorem replacement_obeys {property : Outputs → Prop} {uid : String} {outputs : Outputs}
    (stable : ∀ outputs after, Disturbed outputs after → property outputs → property after)
    (elsewhere : uid ≠ plankUID) (holds : property outputs) :
    (replacement uid).Obeys discipline
      (fun device found => property found ∧ device ≠ some plankUID) outputs := by
  unfold replacement
  refine obeys_ask (stable_of_disturbed stable) holds (fun _ _ _ => trivial) ?_
  intro found usable after _ holds responds
  obtain rfl := Option.some.inj responds
  cases usable with
  | true =>
    exact obeys_done (stable_of_disturbed stable) holds
      fun _ _ holds => ⟨holds, fun same => elsewhere (Option.some.inj same)⟩
  | false =>
    refine obeys_ask (stable_of_disturbed stable) holds (fun _ _ _ => trivial) ?_
    intro found device after _ holds responds
    obtain rfl := Option.some.inj responds
    exact obeys_done (stable_of_disturbed stable) holds fun _ _ holds => ⟨holds, device.2⟩

/-- A default is restored only from the PLANK device. -/
theorem restoreSlot_obeys {previous : Routes} {slot : Slot} {uid : String} {outputs : Outputs}
    (proper : Proper previous) (there : previous slot = some uid)
    (known : Known previous outputs) :
    (restoreSlot previous slot uid).Obeys discipline
      (fun left found => Proper left ∧ Known left found) outputs := by
  have kept {found : Outputs} (known : Known previous found) :
      (Dialogue.done previous : Program Routes).Obeys discipline
        (fun left found => Proper left ∧ Known left found) found :=
    obeys_done (stable_of_disturbed Known.disturbed) known fun _ _ known => ⟨proper, known⟩
  have removed {found : Outputs} (known : Known (previous.remove slot) found) :
      (Dialogue.done (previous.remove slot) : Program Routes).Obeys discipline
        (fun left found => Proper left ∧ Known left found) found :=
    obeys_done (stable_of_disturbed Known.disturbed) known
      fun _ _ known => ⟨proper.remove slot, known⟩
  unfold restoreSlot
  refine obeys_ask (stable_of_disturbed Known.disturbed) known (fun _ _ _ => trivial) ?_
  intro found current after journalled known responds
  have looked := look_responds responds
  have still : Known previous after :=
    known.of_replaced looked.loaded fun other _ put => (looked.replaced other).symm.trans put
  cases current with
  | none => exact kept still
  | some current =>
    by_cases plank : current = plankUID
    · show Obeys _ _ (if current = plankUID then _ else _) _
      rw [if_pos plank]
      have seen_stable : ∀ outputs after, Disturbed outputs after →
          (Known previous outputs ∧ (outputs.setting slot).seen = some plankUID) →
          (Known previous after ∧ (after.setting slot).seen = some plankUID) :=
        fun outputs after disturbed known => ⟨known.1.disturbed outputs after disturbed,
          (disturbed.seen slot).trans known.2⟩
      have after_keeps : discipline.keeps after :=
        discipline.keeps_respond found (.look slot) _ after journalled trivial responds
      refine (replacement_obeys seen_stable (proper slot uid there).2
        ⟨still, looked.seen.trans (congrArg some plank)⟩).bind after_keeps ?_
      rintro device found - ⟨known, other⟩
      cases device with
      | none => exact kept known.1
      | some device =>
        have elsewhere : device ≠ plankUID := fun same => other (congrArg some same)
        refine obeys_ask (stable_of_disturbed seen_stable) known
          (fun _ _ known => allowed_restore elsewhere known.2) ?_
        intro found answer after _ known responds
        have set := setCurrent_responds responds
        have still : Known previous after :=
          known.1.of_replaced set.loaded fun other replaced put =>
            (set.replaced other replaced put).elim id fun switched =>
              (elsewhere switched.2.1).elim
        by_cases succeeds : answer.1.1 = true
        · rw [if_pos succeeds]
          exact removed (still.remove (set.restored succeeds elsewhere))
        · rw [if_neg succeeds]
          exact kept still
    · show Obeys _ _ (if current = plankUID then _ else _) _
      rw [if_neg plank]
      refine removed (still.remove ?_)
      -- A default that is not the PLANK device has been changed since it was switched.
      rw [looked.replaced]
      cases put : (found.setting slot).replaced with
      | none => rfl
      | some replaced =>
        have device := (journalled slot).switched replaced put
        obtain none | same := looked.found
        · exact nomatch none
        · exact (plank (Option.some.inj (same.trans device))).elim

/-- So are all of them. -/
theorem restoreSlots_obeys {previous : Routes} {outputs : Outputs} (proper : Proper previous)
    (known : Known previous outputs) (keeps : discipline.keeps outputs) (rest : List Slot) :
    (restoreSlots previous rest).Obeys discipline
      (fun left found => Proper left ∧ Known left found) outputs := by
  induction rest generalizing previous outputs with
  | nil =>
    exact obeys_done (stable_of_disturbed Known.disturbed) known fun _ _ known => ⟨proper, known⟩
  | cons slot rest ih =>
    unfold restoreSlots
    cases there : previous slot with
    | none => exact ih proper known keeps
    | some uid =>
      exact (restoreSlot_obeys proper there known).bind keeps
        fun left found kept left_known => ih left_known.1 left_known.2 kept

/-- A restoration by a process that has read the journal leaves no default switched if it
succeeds. -/
theorem restore_known {previous : Routes} {outputs : Outputs} (proper : Proper previous)
    (known : Known previous outputs) (keeps : discipline.keeps outputs) :
    (restore previous).Obeys discipline (fun result found => Proper result.2 ∧
      Known result.2 found ∧ (result.1 = true → Unswitched found)) outputs := by
  unfold restore
  by_cases empty : previous.isEmpty = true
  · rw [if_pos empty]
    exact obeys_done (stable_of_disturbed Known.disturbed) known
      fun _ _ known => ⟨proper, known, fun _ => known.covered.unswitched empty⟩
  · rw [if_neg empty]
    refine (restoreSlots_obeys proper known keeps slots).bind keeps ?_
    rintro left found keeps ⟨proper, known⟩
    refine (save_obeys proper Known.disturbed (fun _ known => known.covered)
      (fun _ _ _ known => ⟨known.loaded, known.covered⟩) known).bind keeps ?_
    rintro saved found - ⟨known, -⟩
    refine obeys_done (stable_of_disturbed Known.disturbed) known fun found _ known => ?_
    exact ⟨proper, known, fun succeeds =>
      known.covered.unswitched (Bool.and_eq_true_iff.mp succeeds).2⟩

/-- What a process that has read the journal knows it keeps. -/
theorem Known.kept {previous : Routes} {outputs : Outputs} (known : Known previous outputs)
    (proper : Proper previous) : Kept previous outputs :=
  ⟨proper, fun _ => known.loaded, fun _ => known.covered⟩

/-- What a process keeps stays so. -/
theorem stable_kept (previous : Routes) : Stable discipline (Kept previous) :=
  stable_of_disturbed fun _ _ disturbed kept => kept.disturbed disturbed

/-- What a restoration leaves. -/
def Restored (result : Bool × Routes) (outputs : Outputs) : Prop :=
  Kept result.2 outputs ∧ (result.1 = true → outputs.loaded = true → Unswitched outputs)

/-- A restoration that succeeds leaves no default switched, if the process has read the journal. -/
theorem restore_obeys {previous : Routes} {outputs : Outputs} (kept : Kept previous outputs)
    (keeps : discipline.keeps outputs) :
    (restore previous).Obeys discipline Restored outputs := by
  by_cases loaded : outputs.loaded = true
  · refine (restore_known kept.proper ⟨loaded, kept.covers loaded⟩ keeps).weaken ?_
    rintro result found - ⟨proper, known, unswitched⟩
    exact ⟨known.kept proper, fun succeeds _ => unswitched succeeds⟩
  · have empty : previous.isEmpty = true :=
      (Bool.not_eq_false _).mp fun nonempty => loaded (kept.loaded nonempty)
    unfold restore
    rw [if_pos empty]
    exact obeys_done (stable_kept previous) kept
      fun found _ kept => ⟨kept, fun _ loaded => (kept.covers loaded).unswitched empty⟩

/-- What a recovery leaves. -/
def Recovered (result : Bool × Routes) (outputs : Outputs) : Prop :=
  Kept result.2 outputs ∧ (result.1 = true → outputs.loaded = true ∧ Unswitched outputs)

/-- A process that has read the journal recovers by a restoration. -/
theorem restore_recovers {previous : Routes} {outputs : Outputs} (proper : Proper previous)
    (known : Known previous outputs) (keeps : discipline.keeps outputs) :
    (restore previous).Obeys discipline Recovered outputs := by
  refine (restore_known proper known keeps).weaken ?_
  rintro result found - ⟨proper, known, unswitched⟩
  exact ⟨known.kept proper, fun succeeds => ⟨known.loaded, unswitched succeeds⟩⟩

/-- A recovery that succeeds leaves no default switched. -/
theorem recover_obeys {previous : Routes} {outputs : Outputs} (kept : Kept previous outputs)
    (keeps : discipline.keeps outputs) :
    (recover previous).Obeys discipline Recovered outputs := by
  unfold recover
  cases empty : previous.isEmpty with
  | false =>
    have loaded := kept.loaded empty
    exact restore_recovers kept.proper ⟨loaded, kept.covers loaded⟩ keeps
  | true =>
    have refused {found : Outputs} (kept : Kept previous found) :
        (Dialogue.done (false, previous) : Program (Bool × Routes)).Obeys discipline Recovered
          found :=
      obeys_done (stable_kept previous) kept fun _ _ kept =>
        ⟨kept, fun succeeds => nomatch succeeds⟩
    refine obeys_ask (stable_kept previous) kept (fun _ _ _ => trivial) ?_
    intro found opened after _ kept responds
    obtain rfl := Option.some.inj responds
    cases opened with
    | false => exact refused kept
    | true =>
      refine obeys_ask (stable_kept previous) kept (fun _ _ _ => trivial) ?_
      intro found read after journalled kept responds
      have after_keeps : discipline.keeps after :=
        discipline.keeps_respond found .read _ after journalled trivial responds
      unfold discipline Outputs.respond at responds
      cases read with
      | unreadable =>
        obtain rfl := Option.some.inj responds
        exact refused kept
      | missing =>
        dsimp only at responds
        split at responds
        case isFalse => exact nomatch responds
        case isTrue none =>
          obtain rfl := Option.some.inj responds
          have covered : Covered previous found := by
            intro slot replaced put
            obtain ⟨list, routes, there, -⟩ := (journalled slot).journal replaced put
            exact nomatch none.symm.trans there
          refine obeys_done (stable_of_disturbed Known.disturbed)
            (show Known previous { found with loaded := true } from ⟨rfl, covered⟩)
            fun found _ known => ?_
          exact ⟨known.kept kept.proper, fun _ =>
            ⟨known.loaded, known.covered.unswitched empty⟩⟩
      | content list =>
        dsimp only at responds
        split at responds
        case isFalse => exact nomatch responds
        case isTrue there =>
          obtain rfl := Option.some.inj responds
          dsimp only
          cases decoded : list.routes with
          | none =>
            rw [Option.isSome_none, Bool.or_false]
            exact refused kept
          | some routes =>
            rw [decoded, Option.isSome_some, Bool.or_true] at after_keeps
            rw [Option.isSome_some, Bool.or_true]
            refine restore_recovers (routes_proper decoded) ⟨rfl, ?_⟩ after_keeps
            intro slot replaced put
            obtain ⟨found_list, named, same, read, names⟩ :=
              (journalled slot).journal replaced put
            obtain rfl := Option.some.inj (there.symm.trans same)
            obtain rfl := Option.some.inj (decoded.symm.trans read)
            exact names

/-- A process has read the journal and no default is switched. -/
structure Quiet (outputs : Outputs) : Prop where
  /-- It has read the journal. -/
  loaded : outputs.loaded = true
  /-- No default is switched. -/
  unswitched : Unswitched outputs

/-- Others leave it so. -/
theorem Quiet.disturbed (outputs after : Outputs) (disturbed : Disturbed outputs after)
    (quiet : Quiet outputs) : Quiet after :=
  ⟨disturbed.loaded.trans quiet.loaded, quiet.unswitched.disturbed disturbed⟩

/-- Anything may be what is to be restored then. -/
theorem Quiet.known {outputs : Outputs} (quiet : Quiet outputs) (previous : Routes) :
    Known previous outputs := ⟨quiet.loaded, quiet.unswitched.covered⟩

/-- A device that is put where it can be recorded. -/
theorem Proper.put {previous : Routes} {slot : Slot} {uid : String} (proper : Proper previous)
    (recorded : recordable uid = true) (elsewhere : uid ≠ plankUID) :
    Proper (previous.put slot uid) := by
  intro other found there
  unfold Routes.put at there
  by_cases same : other = slot
  · subst same
    rw [Function.update_self] at there
    obtain rfl := Option.some.inj there
    exact ⟨recorded, elsewhere⟩
  · rw [Function.update_of_ne same] at there
    exact proper other found there

/-- What is looked at to be switched is no PLANK device. -/
theorem lookSlots_obeys {previous : Routes} {outputs : Outputs} (proper : Proper previous)
    (quiet : Quiet outputs) (rest : List Slot) :
    (lookSlots previous rest).Obeys discipline
      (fun result found => Quiet found ∧ ∀ routes, result = some routes → Proper routes)
      outputs := by
  have stable := stable_of_disturbed Quiet.disturbed
  induction rest generalizing previous outputs with
  | nil =>
    refine obeys_done stable quiet fun _ _ quiet => ⟨quiet, ?_⟩
    rintro _ ⟨⟩
    exact proper
  | cons slot rest ih =>
    refine obeys_ask stable quiet (fun _ _ _ => trivial) ?_
    intro found uid after _ quiet responds
    have looked := look_responds responds
    have still : Quiet after :=
      ⟨looked.loaded.trans quiet.loaded,
        fun other => (looked.replaced other).trans (quiet.unswitched other)⟩
    have refused : (Dialogue.done none : Program (Option Routes)).Obeys discipline
        (fun result found => Quiet found ∧ ∀ routes, result = some routes → Proper routes) after :=
      obeys_done stable still fun _ _ quiet => ⟨quiet, fun _ same => nomatch same⟩
    show Obeys _ _ (if uid = some plankUID then _ else _) _
    by_cases plank : uid = some plankUID
    · rw [if_pos plank]
      exact ih proper still
    · rw [if_neg plank]
      cases uid with
      | none => exact refused
      | some uid =>
        show Obeys _ _ (if recordable uid then _ else _) _
        by_cases recorded : recordable uid = true
        · rw [if_pos recorded]
          exact ih (proper.put recorded fun same => plank (congrArg some same)) still
        · rw [if_neg recorded]
          exact refused

/-- The volume is taken over while nothing is switched. -/
theorem inheritVolume_obeys {previous : Routes} {outputs : Outputs} (quiet : Quiet outputs) :
    (inheritVolume previous).Obeys discipline (fun _ found => Quiet found) outputs := by
  have stable := stable_of_disturbed Quiet.disturbed
  unfold inheritVolume
  split
  · refine obeys_ask stable quiet (fun _ _ _ => trivial) ?_
    intro found inherited after _ quiet responds
    obtain rfl := Option.some.inj responds
    exact obeys_done stable quiet fun _ _ quiet => quiet
  · exact obeys_done stable quiet fun _ _ quiet => quiet

/-- What is to be switched is in the journal. -/
structure Armed (previous : Routes) (outputs : Outputs) : Prop where
  /-- What is switched is to be restored. -/
  known : Known previous outputs
  /-- It is in the journal. -/
  journal : previous.isEmpty = false → outputs.journal = some previous.propertyList
  /-- It is on the disk. -/
  durable : previous.isEmpty = false → outputs.durable = some previous.propertyList

/-- Others leave it so. -/
theorem Armed.disturbed {previous : Routes} (outputs after : Outputs)
    (disturbed : Disturbed outputs after) (armed : Armed previous outputs) :
    Armed previous after where
  known := armed.known.disturbed outputs after disturbed
  journal nonempty := disturbed.journal.trans (armed.journal nonempty)
  durable nonempty := disturbed.durable.elim
    (fun same => same.trans (armed.durable nonempty))
    fun same => same.trans (armed.journal nonempty)

/-- A default is switched once it is in the journal as it was seen. -/
theorem switchSlots_obeys {previous : Routes} {outputs : Outputs} (proper : Proper previous)
    (armed : Armed previous outputs) (rest : List Slot) :
    (switchSlots previous rest).Obeys discipline (fun _ found => Known previous found)
      outputs := by
  have ended {result : Bool} {found : Outputs} (armed : Armed previous found) :
      (Dialogue.done result : Program Bool).Obeys discipline
        (fun _ found => Known previous found) found :=
    obeys_done (stable_of_disturbed Armed.disturbed) armed fun _ _ armed => armed.known
  induction rest generalizing outputs with
  | nil => exact ended armed
  | cons slot rest ih =>
    unfold switchSlots
    cases there : previous slot with
    | none => exact ih armed
    | some uid =>
      have nonempty : previous.isEmpty = false := by
        unfold Routes.isEmpty
        cases slot <;> rw [there] <;> simp
      refine obeys_ask (stable_of_disturbed Armed.disturbed) armed (fun _ _ _ => trivial) ?_
      intro found current after _ armed responds
      have looked := look_responds responds
      have still : Armed previous after :=
        ⟨armed.known.of_replaced looked.loaded
            fun other _ put => (looked.replaced other).symm.trans put,
          fun nonempty => looked.journal.trans (armed.journal nonempty),
          fun nonempty => looked.durable.trans (armed.durable nonempty)⟩
      show Obeys _ _ (if current = some uid then _ else _) _
      by_cases same : current = some uid
      · rw [if_pos same]
        have seen_stable : ∀ outputs after, Disturbed outputs after →
            (Armed previous outputs ∧ (outputs.setting slot).seen = some uid) →
            (Armed previous after ∧ (after.setting slot).seen = some uid) :=
          fun outputs after disturbed known => ⟨known.1.disturbed outputs after disturbed,
            (disturbed.seen slot).trans known.2⟩
        have read := propertyList_routes proper nonempty
        refine obeys_ask (stable_of_disturbed seen_stable) ⟨still, looked.seen.trans same⟩
          (fun found _ known => allowed_switch known.2
            ⟨_, _, known.1.journal nonempty, read, there⟩
            ⟨_, _, known.1.durable nonempty, read, there⟩) ?_
        intro found answer after _ known responds
        have set := setCurrent_responds responds
        have switched : Armed previous after := by
          refine ⟨⟨set.loaded.trans known.1.known.loaded, fun other replaced put => ?_⟩,
            fun nonempty => set.journal.trans (known.1.journal nonempty),
            fun nonempty => set.durable.trans (known.1.durable nonempty)⟩
          obtain before | ⟨rfl, -, seen⟩ := set.replaced other replaced put
          · exact known.1.known.covered other replaced before
          · rw [there, ← known.2, seen]
        by_cases succeeds : answer.1.1 = true
        · rw [if_pos succeeds]
          exact ih switched
        · rw [if_neg succeeds]
          exact ended switched
      · rw [if_neg same]
        exact ended still

/-- A selection switches what it has saved, and keeps what it has switched. -/
theorem select_obeys {previous : Routes} {outputs : Outputs} (kept : Kept previous outputs)
    (keeps : discipline.keeps outputs) :
    (select previous).Obeys discipline (fun result found => Kept result.2 found) outputs := by
  have quiet_stable := stable_of_disturbed Quiet.disturbed
  have proper_empty : Proper .empty := fun _ _ there => nomatch there
  have nothing {found : Outputs} (quiet : Quiet found) :
      (Dialogue.done (false, .empty) : Program (Bool × Routes)).Obeys discipline
        (fun result found => Kept result.2 found) found :=
    obeys_done quiet_stable quiet fun _ _ quiet => (quiet.known .empty).kept proper_empty
  refine (recover_obeys kept keeps).bind keeps ?_
  rintro ⟨recovered, previous⟩ found keeps ⟨kept, unswitched⟩
  have refused {found : Outputs} (kept : Kept previous found) :
      (Dialogue.done (false, previous) : Program (Bool × Routes)).Obeys discipline
        (fun result found => Kept result.2 found) found :=
    obeys_done (stable_kept previous) kept fun _ _ kept => kept
  cases recovered with
  | false => exact refused kept
  | true =>
    have quiet : Quiet found := ⟨(unswitched rfl).1, (unswitched rfl).2⟩
    refine obeys_ask quiet_stable quiet (fun _ _ _ => trivial) ?_
    intro found compatible after journalled quiet responds
    obtain rfl := Option.some.inj responds
    cases compatible with
    | false => exact refused ((quiet.known previous).kept kept.proper)
    | true =>
      refine (lookSlots_obeys proper_empty quiet slots).bind journalled ?_
      rintro looked found keeps ⟨quiet, proper⟩
      cases looked with
      | none => exact nothing quiet
      | some previous =>
        have proper := proper previous rfl
        refine (inheritVolume_obeys quiet).bind keeps ?_
        intro inherited found keeps quiet
        cases inherited with
        | false => exact nothing quiet
        | true =>
          refine (save_obeys proper Quiet.disturbed (fun _ quiet => quiet.unswitched.covered)
            (fun _ _ _ quiet => ⟨quiet.loaded, quiet.unswitched⟩) quiet).bind keeps ?_
          rintro saved found keeps ⟨quiet, written⟩
          cases saved with
          | false => exact nothing quiet
          | true =>
            have armed : Armed previous found := ⟨quiet.known previous,
              fun nonempty => (written rfl nonempty).1, fun nonempty => (written rfl nonempty).2⟩
            refine (switchSlots_obeys proper armed slots).bind keeps ?_
            intro switched found keeps known
            cases switched with
            | true =>
              exact obeys_done (stable_of_disturbed Known.disturbed) known
                fun _ _ known => known.kept proper
            | false =>
              refine (restore_known proper known keeps).bind keeps ?_
              rintro ⟨restored, left⟩ found - ⟨proper, known, -⟩
              exact obeys_done (stable_of_disturbed Known.disturbed) known
                fun _ _ known => known.kept proper

end Plank.Output
