import Plank.Output.Selection
import Mathlib.Tactic.Common

/-!
# What the journal is good for

A default that the program has switched is named by the journal, as it was seen before, until it is
changed again; and only a default that was seen on the PLANK device is changed back. Every program
obeys this discipline, whatever it is answered and whatever others do in between.
-/

namespace Plank.Output

open Dialogue (Obeys Stable obeys_ask obeys_done)

/-- A journal names the device of a default. -/
def Names (journal : Option PropertyList) (slot : Slot) (uid : String) : Prop :=
  ∃ list routes, journal = some list ∧ list.routes = some routes ∧ routes slot = some uid

/-- A default is named by the journal where the program has switched it. -/
structure Journalled (outputs : Outputs) (slot : Slot) : Prop where
  /-- The journal names what was seen. -/
  journal : ∀ replaced, (outputs.setting slot).replaced = some replaced →
    Names outputs.journal slot replaced.seen
  /-- So does what is left of it when the machine stops. -/
  durable : ∀ replaced, (outputs.setting slot).replaced = some replaced →
    Names outputs.durable slot replaced.seen
  /-- The default is the PLANK device. -/
  switched : ∀ replaced, (outputs.setting slot).replaced = some replaced →
    (outputs.setting slot).device = some plankUID
  /-- What was seen is what was replaced, unless it was changed in between. -/
  replaced : ∀ replaced, (outputs.setting slot).replaced = some replaced →
    replaced.changed = false → replaced.was = some replaced.seen
  /-- What is seen is there, until it is changed. -/
  seen : ∀ uid, (outputs.setting slot).changed = false →
    (outputs.setting slot).seen = some uid → (outputs.setting slot).device = some uid

/-- What a program may ask. -/
def Allowed : Query → Outputs → Prop
  | .setCurrent slot uid, outputs =>
    if uid = plankUID then
      ∃ seen, (outputs.setting slot).seen = some seen ∧ Names outputs.journal slot seen ∧
        Names outputs.durable slot seen
    else (outputs.setting slot).seen = some plankUID
  | .unlink, outputs => ∀ slot, (outputs.setting slot).replaced = none
  | .rename list, outputs => ∀ slot replaced,
      (outputs.setting slot).replaced = some replaced → Names (some list) slot replaced.seen
  | _, _ => True

/-- A default may be switched when the journal names what was seen. -/
theorem allowed_switch {outputs : Outputs} {slot : Slot} {seen : String}
    (looked : (outputs.setting slot).seen = some seen)
    (journal : Names outputs.journal slot seen) (durable : Names outputs.durable slot seen) :
    Allowed (.setCurrent slot plankUID) outputs := by
  unfold Allowed
  dsimp only
  rw [if_pos rfl]
  exact ⟨seen, looked, journal, durable⟩

/-- It may be set to another device when it was seen to be the PLANK device. -/
theorem allowed_restore {outputs : Outputs} {slot : Slot} {uid : String}
    (elsewhere : uid ≠ plankUID) (looked : (outputs.setting slot).seen = some plankUID) :
    Allowed (.setCurrent slot uid) outputs := by
  unfold Allowed
  dsimp only
  rw [if_neg elsewhere]
  exact looked

/-! ### The discipline -/

/-- A default that is changed has its new setting. -/
theorem Outputs.change_self (outputs : Outputs) (slot : Slot) (setting : Setting) :
    (outputs.change slot setting).setting slot = setting := by
  unfold Outputs.change
  exact Function.update_self slot setting outputs.setting

/-- The other one is as it was. -/
theorem Outputs.change_of_ne (outputs : Outputs) {slot other : Slot} (setting : Setting)
    (differs : other ≠ slot) :
    (outputs.change slot setting).setting other = outputs.setting other := by
  unfold Outputs.change
  exact Function.update_of_ne differs setting outputs.setting

/-- A default may be changed to a setting that fits the journal. -/
theorem journalled_change {outputs : Outputs} {slot : Slot} {setting : Setting}
    (journalled : ∀ slot, Journalled outputs slot)
    (switched : ∀ replaced, setting.replaced = some replaced →
      Names outputs.journal slot replaced.seen ∧ Names outputs.durable slot replaced.seen ∧
        setting.device = some plankUID ∧
        (replaced.changed = false → replaced.was = some replaced.seen))
    (seen : ∀ uid, setting.changed = false → setting.seen = some uid →
      setting.device = some uid) (other : Slot) :
    Journalled (outputs.change slot setting) other := by
  by_cases same : other = slot
  · subst same
    constructor <;> rw [Outputs.change_self]
    · exact fun replaced put => (switched replaced put).1
    · exact fun replaced put => (switched replaced put).2.1
    · exact fun replaced put => (switched replaced put).2.2.1
    · exact fun replaced put => (switched replaced put).2.2.2
    · exact seen
  · obtain ⟨journal, durable, device, replaced, found⟩ := journalled other
    constructor <;> rw [Outputs.change_of_ne outputs setting same] <;> assumption

/-- What the program has switched is still so where the journal is another that names it. -/
theorem journalled_write {outputs : Outputs} (journalled : ∀ slot, Journalled outputs slot)
    {journal durable : Option PropertyList} {loaded : Bool}
    (names : ∀ slot replaced, (outputs.setting slot).replaced = some replaced →
      Names journal slot replaced.seen ∧ Names durable slot replaced.seen) (slot : Slot) :
    Journalled ⟨outputs.setting, journal, durable, loaded⟩ slot where
  journal replaced put := (names slot replaced put).1
  durable replaced put := (names slot replaced put).2
  switched := (journalled slot).switched
  replaced := (journalled slot).replaced
  seen := (journalled slot).seen

/-- An answer to what may be asked leaves every switched default named. -/
theorem journalled_respond {outputs after : Outputs} {query : Query} {answer : query.Answer}
    (journalled : ∀ slot, Journalled outputs slot) (allowed : Allowed query outputs)
    (responds : outputs.respond query answer = some after) (slot : Slot) :
    Journalled after slot := by
  have same (loaded : Bool) (slot : Slot) :
      Journalled ⟨outputs.setting, outputs.journal, outputs.durable, loaded⟩ slot :=
    journalled_write journalled (fun slot replaced put =>
      ⟨(journalled slot).journal replaced put, (journalled slot).durable replaced put⟩) slot
  cases query with
  | look looked =>
    unfold Outputs.respond at responds
    dsimp only at responds
    split at responds
    case isFalse => exact nomatch responds
    case isTrue found =>
      obtain rfl := Option.some.inj responds
      obtain ⟨journal, durable, device, replaced, -⟩ := journalled looked
      refine @journalled_change _ looked
        { outputs.setting looked with seen := answer, changed := false } journalled
        (fun put same => ⟨journal put same, durable put same, device put same, replaced put same⟩)
        (fun uid _ seen => ?_) slot
      obtain none | there := found
      · exact nomatch none.symm.trans seen
      · exact there.symm.trans seen
  | setCurrent set uid =>
    obtain ⟨⟨ok, effective⟩, valid⟩ := answer
    unfold Outputs.respond at responds
    dsimp only at responds
    obtain rfl := Option.some.inj responds
    cases effective with
    | false => exact journalled slot
    | true =>
      rw [if_pos rfl]
      refine journalled_change journalled (fun put => ?_) ?_ slot
      case refine_2 => exact fun _ changed => nomatch changed
      change if uid = plankUID then _ else _ at allowed
      by_cases plank : uid = plankUID
      · rw [if_pos plank] at allowed
        obtain ⟨seen, looked, journal, durable⟩ := allowed
        dsimp only
        rw [if_pos plank, looked]
        rintro ⟨⟩
        refine ⟨journal, durable, congrArg some plank, fun unchanged => ?_⟩
        exact (journalled set).seen seen unchanged looked
      · dsimp only
        rw [if_neg plank]
        nofun
  | read =>
    unfold Outputs.respond at responds
    cases answer with
    | missing =>
      dsimp only at responds
      split at responds
      · obtain rfl := Option.some.inj responds
        exact same true slot
      · exact nomatch responds
    | unreadable =>
      obtain rfl := Option.some.inj responds
      exact journalled slot
    | content list =>
      dsimp only at responds
      split at responds
      · obtain rfl := Option.some.inj responds
        exact same _ slot
      · exact nomatch responds
  | unlink =>
    obtain rfl := Option.some.inj responds
    cases answer with
    | false => exact journalled slot
    | true =>
      exact journalled_write journalled
        (fun slot replaced put => nomatch (allowed slot).symm.trans put) slot
  | rename list =>
    obtain rfl := Option.some.inj responds
    cases answer with
    | false => exact journalled slot
    | true =>
      exact journalled_write journalled (fun slot replaced put =>
        ⟨allowed slot replaced put, (journalled slot).durable replaced put⟩) slot
  | sync =>
    obtain rfl := Option.some.inj responds
    cases answer with
    | false => exact journalled slot
    | true =>
      exact journalled_write journalled (fun slot replaced put =>
        ⟨(journalled slot).journal replaced put, (journalled slot).journal replaced put⟩) slot
  | compatible | inheritVolume | usable | builtInFallback | openDirectory | write =>
    obtain rfl := Option.some.inj responds
    exact journalled slot

/-- So does what others do. -/
theorem journalled_disturbs {outputs after : Outputs} (disturbs : outputs.Disturbs after)
    (journalled : ∀ slot, Journalled outputs slot) (slot : Slot) : Journalled after slot := by
  cases disturbs with
  | choose chosen device =>
    refine journalled_change journalled ?_ ?_ slot
    · exact fun _ put => nomatch put
    · exact fun _ changed => nomatch changed
  | flush =>
    exact journalled_write journalled (fun slot replaced put =>
      ⟨(journalled slot).journal replaced put, (journalled slot).journal replaced put⟩) slot

/-- The discipline of the journal. -/
def discipline : Discipline Query Query.Answer Outputs where
  respond := Outputs.respond
  disturbs := Outputs.Disturbs
  keeps outputs := ∀ slot, Journalled outputs slot
  allowed := Allowed
  keeps_respond _ _ _ _ keeps allowed responds := journalled_respond keeps allowed responds
  keeps_disturbs _ _ disturbs keeps := journalled_disturbs disturbs keeps

/-! ### What is known between two calls -/

/-- No default is switched. -/
def Unswitched (outputs : Outputs) : Prop := ∀ slot, (outputs.setting slot).replaced = none

/-- Every default that is switched is among those that are to be restored. -/
def Covered (previous : Routes) (outputs : Outputs) : Prop :=
  ∀ slot replaced, (outputs.setting slot).replaced = some replaced →
    previous slot = some replaced.seen

/-- Devices that the journal can have, none of them the PLANK device. -/
def Proper (previous : Routes) : Prop :=
  ∀ slot uid, previous slot = some uid → recordable uid = true ∧ uid ≠ plankUID

/-- What a process knows of the defaults that are switched. -/
structure Kept (previous : Routes) (outputs : Outputs) : Prop where
  /-- Only what the journal can have is to be restored. -/
  proper : Proper previous
  /-- A process that has something to restore has read the journal. -/
  loaded : previous.isEmpty = false → outputs.loaded = true
  /-- One that has knows every default that is switched. -/
  covers : outputs.loaded = true → Covered previous outputs

/-- What a disturbance leaves of the outputs. -/
structure Disturbed (outputs after : Outputs) : Prop where
  /-- What was read stays read. -/
  loaded : after.loaded = outputs.loaded
  /-- The journal stays. -/
  journal : after.journal = outputs.journal
  /-- It may reach the disk. -/
  durable : after.durable = outputs.durable ∨ after.durable = outputs.journal
  /-- What was seen was seen. -/
  seen : ∀ slot, (after.setting slot).seen = (outputs.setting slot).seen
  /-- Nothing is switched. -/
  replaced : ∀ slot replaced, (after.setting slot).replaced = some replaced →
    (outputs.setting slot).replaced = some replaced

/-- What others do leaves it so. -/
theorem disturbed {outputs after : Outputs} (disturbs : outputs.Disturbs after) :
    Disturbed outputs after := by
  cases disturbs with
  | flush => exact ⟨rfl, rfl, .inr rfl, fun _ => rfl, fun _ _ => id⟩
  | choose chosen device =>
    refine ⟨rfl, rfl, .inl rfl, fun slot => ?_, fun slot replaced => ?_⟩ <;>
      unfold Outputs.choose <;> by_cases same : slot = chosen
    · subst same
      rw [Outputs.change_self]
    · rw [Outputs.change_of_ne outputs _ same]
    · subst same
      rw [Outputs.change_self]
      exact fun put => nomatch put
    · rw [Outputs.change_of_ne outputs _ same]
      exact id

/-- What a disturbance leaves is stable. -/
theorem stable_of_disturbed {property : Outputs → Prop}
    (keeps : ∀ outputs after, Disturbed outputs after → property outputs → property after) :
    Stable discipline property :=
  fun outputs after disturbs => keeps outputs after (disturbed disturbs)

/-- A default that is covered stays so. -/
theorem Covered.disturbed {previous : Routes} {outputs after : Outputs}
    (covered : Covered previous outputs) (disturbed : Disturbed outputs after) :
    Covered previous after :=
  fun slot replaced put => covered slot replaced (disturbed.replaced slot replaced put)

/-- Nothing is switched by others. -/
theorem Unswitched.disturbed {outputs after : Outputs} (unswitched : Unswitched outputs)
    (disturbed : Disturbed outputs after) : Unswitched after := by
  intro slot
  cases put : (after.setting slot).replaced with
  | none => rfl
  | some replaced => exact nomatch (unswitched slot).symm.trans (disturbed.replaced slot _ put)

/-- What a process knows it goes on knowing. -/
theorem Kept.disturbed {previous : Routes} {outputs after : Outputs} (kept : Kept previous outputs)
    (disturbed : Disturbed outputs after) : Kept previous after where
  proper := kept.proper
  loaded nonempty := disturbed.loaded.trans (kept.loaded nonempty)
  covers loaded := (kept.covers (disturbed.loaded.symm.trans loaded)).disturbed disturbed

/-- Nothing to restore is nothing that is switched. -/
theorem Covered.unswitched {previous : Routes} {outputs : Outputs}
    (covered : Covered previous outputs) (empty : previous.isEmpty = true) :
    Unswitched outputs := by
  intro slot
  cases put : (outputs.setting slot).replaced with
  | none => rfl
  | some replaced =>
    have there := covered slot replaced put
    unfold Routes.isEmpty at empty
    rw [Bool.and_eq_true, Option.isNone_iff_eq_none, Option.isNone_iff_eq_none] at empty
    cases slot with
    | output => exact nomatch empty.1.symm.trans there
    | alerts => exact nomatch empty.2.symm.trans there

/-- Nothing that is switched is covered by anything. -/
theorem Unswitched.covered {previous : Routes} {outputs : Outputs}
    (unswitched : Unswitched outputs) : Covered previous outputs :=
  fun slot _ put => nomatch (unswitched slot).symm.trans put

/-! ### The journal -/

/-- What is recovered from a journal is proper. -/
theorem routes_proper {list : PropertyList} {routes : Routes} (read : list.routes = some routes) :
    Proper routes := by
  cases list with
  | other => exact nomatch read
  | dictionary entries =>
    unfold PropertyList.routes at read
    dsimp only at read
    split at read
    · exact nomatch read
    split at read
    case isFalse => exact nomatch read
    case isTrue valid =>
      obtain rfl := Option.some.inj read
      intro slot uid found
      dsimp only at found
      obtain ⟨before, after, rfl, -⟩ :=
        List.lookup_eq_some_iff.mp (Option.join_eq_some_iff.mp found)
      have here := List.all_eq_true.mp valid (slot.key, some uid)
        (List.mem_append_right _ List.mem_cons_self)
      simp only [Option.any_some, Bool.and_eq_true, decide_eq_true_eq] at here
      exact here.2

/-- What is saved is recovered. -/
theorem propertyList_routes {previous : Routes} (proper : Proper previous)
    (nonempty : previous.isEmpty = false) : previous.propertyList.routes = some previous := by
  unfold Routes.propertyList PropertyList.routes slots
  unfold Routes.isEmpty at nonempty
  cases output : previous .output with
  | none =>
    cases alerts : previous .alerts with
    | none =>
      rw [output, alerts] at nonempty
      exact nomatch nonempty
    | some uid =>
      simp [output, alerts, Slot.key]
      refine ⟨proper .alerts uid alerts, funext fun slot => ?_⟩
      cases slot
      · exact output.symm
      · exact alerts.symm
  | some uid =>
    cases alerts : previous .alerts with
    | none =>
      simp [output, alerts, Slot.key]
      refine ⟨proper .output uid output, funext fun slot => ?_⟩
      cases slot
      · exact output.symm
      · exact alerts.symm
    | some other =>
      simp [output, alerts, Slot.key]
      refine ⟨⟨proper .output uid output, proper .alerts other alerts⟩, funext fun slot => ?_⟩
      cases slot
      · exact output.symm
      · exact alerts.symm

end Plank.Output
