import Plank.Output.SelectionRun

/-!
# The restoration can be completed

Where the audio system and the file system do what they are asked and every default has a device, a
recovery restores what the journal names.
-/

namespace Plank.Output

open Dialogue (answered_ask answered_bind)

/-- Every call is answered with success, and looking finds what is there. -/
structure Cooperates (chosen : Outputs → (query : Query) → query.Answer) : Prop where
  /-- The device of a default is found. -/
  look : ∀ outputs slot, chosen outputs (.look slot) = (outputs.setting slot).device
  /-- A device is still usable, or there is one that is built in. -/
  usable : ∀ outputs uid, chosen outputs (.usable uid) = true ∨
    (chosen outputs .builtInFallback).1 ≠ none
  /-- A default is set. -/
  setCurrent : ∀ outputs slot uid, (chosen outputs (.setCurrent slot uid)).1.1 = true
  /-- The directory is opened. -/
  openDirectory : ∀ outputs, chosen outputs .openDirectory = true
  /-- The journal is read, if there is one. -/
  read : ∀ outputs, chosen outputs .read = match outputs.journal with
    | none => .missing
    | some list => .content list
  /-- It is removed. -/
  unlink : ∀ outputs, chosen outputs .unlink = true
  /-- A file is written. -/
  write : ∀ outputs list, chosen outputs (.write list) = true
  /-- It becomes the journal. -/
  rename : ∀ outputs list, chosen outputs (.rename list) = true
  /-- The directory is synced. -/
  sync : ∀ outputs, chosen outputs .sync = true

/-- Every default has a device. -/
def Present (outputs : Outputs) : Prop := ∀ slot, (outputs.setting slot).device ≠ none

variable {chosen : Outputs → (query : Query) → query.Answer}

/-- Every default has a device where one is changed to a device. -/
theorem Present.change {outputs : Outputs} (present : Present outputs) (slot : Slot)
    {setting : Setting} (device : setting.device ≠ none) :
    Present (outputs.change slot setting) := by
  intro other
  by_cases same : other = slot
  · subst same
    rw [Outputs.change_self]
    exact device
  · rw [Outputs.change_of_ne outputs _ same]
    exact present other

/-- A journal is saved. -/
theorem save_completes (cooperates : Cooperates chosen) (previous : Routes) (outputs : Outputs) :
    ∃ after, (save previous).answered Outputs.respond chosen outputs = some (true, after) := by
  unfold save
  rw [answered_ask (cooperates.openDirectory outputs) rfl]
  cases empty : previous.isEmpty with
  | true =>
    exact ⟨_, (answered_ask (cooperates.unlink outputs) rfl).trans
      ((answered_ask (cooperates.sync _) rfl).trans rfl)⟩
  | false =>
    exact ⟨_, (answered_ask (cooperates.write outputs _) rfl).trans
      ((answered_ask (cooperates.rename outputs _) rfl).trans
        ((answered_ask (cooperates.sync _) rfl).trans rfl))⟩

/-- A device is found to restore a default to. -/
theorem replacement_completes (cooperates : Cooperates chosen) (uid : String) (outputs : Outputs) :
    ∃ device, (replacement uid).answered Outputs.respond chosen outputs =
      some (some device, outputs) := by
  unfold replacement
  obtain usable | built_in := cooperates.usable outputs uid
  · exact ⟨uid, (answered_ask usable rfl).trans rfl⟩
  · obtain ⟨device, found⟩ := Option.ne_none_iff_exists'.mp built_in
    cases usable : chosen outputs (.usable uid) with
    | true => exact ⟨uid, (answered_ask usable rfl).trans rfl⟩
    | false =>
      refine ⟨device, (answered_ask usable rfl).trans ?_⟩
      refine (answered_ask rfl rfl).trans ?_
      show some ((chosen outputs .builtInFallback).1, outputs) = _
      rw [found]

/-- A default is set. -/
theorem setCurrent_completes (cooperates : Cooperates chosen) (slot : Slot) (uid : String)
    {outputs : Outputs} (present : Present outputs) :
    ∃ after, outputs.respond (.setCurrent slot uid) (chosen outputs (.setCurrent slot uid)) =
      some after ∧ Present after := by
  have succeeds := cooperates.setCurrent outputs slot uid
  generalize chosen outputs (.setCurrent slot uid) = answer at succeeds
  obtain ⟨⟨done, effective⟩, valid⟩ := answer
  obtain rfl := valid succeeds
  exact ⟨outputs.set slot uid, rfl, present.change slot nofun⟩

/-- A default is restored, or no longer has to be. -/
theorem restoreSlot_completes (cooperates : Cooperates chosen) (previous : Routes) (slot : Slot)
    (uid : String) {outputs : Outputs} (present : Present outputs) :
    ∃ after, (restoreSlot previous slot uid).answered Outputs.respond chosen outputs =
      some (previous.remove slot, after) ∧ Present after := by
  obtain ⟨current, device⟩ := Option.ne_none_iff_exists'.mp (present slot)
  have looks : outputs.respond (.look slot) (some current) = some (outputs.change slot
      { outputs.setting slot with seen := some current, changed := false }) :=
    if_pos (.inr device.symm)
  have looked_present := @Present.change outputs present slot
    { outputs.setting slot with seen := some current, changed := false } (present slot)
  unfold restoreSlot
  rw [answered_ask ((cooperates.look outputs slot).trans device) looks]
  generalize outputs.change slot _ = found at looked_present ⊢
  dsimp only
  by_cases plank : current = plankUID
  · rw [if_pos plank, answered_bind]
    obtain ⟨device, replaced⟩ := replacement_completes cooperates uid found
    rw [replaced, Option.bind_some]
    dsimp only
    obtain ⟨after, set, after_present⟩ :=
      setCurrent_completes cooperates slot device looked_present
    refine ⟨after, (answered_ask rfl set).trans ?_, after_present⟩
    rw [if_pos (cooperates.setCurrent found slot device)]
    rfl
  · rw [if_neg plank]
    exact ⟨found, rfl, looked_present⟩

/-- So are all of them. -/
theorem restoreSlots_completes (cooperates : Cooperates chosen) (previous : Routes)
    (rest : List Slot) {outputs : Outputs} (present : Present outputs) :
    ∃ left after, (restoreSlots previous rest).answered Outputs.respond chosen outputs =
      some (left, after) ∧ ∀ slot, slot ∈ rest ∨ previous slot = none → left slot = none := by
  induction rest generalizing previous outputs with
  | nil => exact ⟨previous, outputs, rfl, fun slot gone => gone.resolve_left nofun⟩
  | cons slot rest ih =>
    unfold restoreSlots
    cases there : previous slot with
    | none =>
      obtain ⟨left, after, answered, gone⟩ := ih previous present
      refine ⟨left, after, answered, fun other other_gone => gone other ?_⟩
      obtain member | none := other_gone
      · obtain rfl | member := List.mem_cons.mp member
        · exact .inr there
        · exact .inl member
      · exact .inr none
    | some uid =>
      obtain ⟨between, restored, present⟩ :=
        restoreSlot_completes cooperates previous slot uid present
      obtain ⟨left, after, answered, gone⟩ := ih (previous.remove slot) present
      refine ⟨left, after, ?_, fun other other_gone => gone other ?_⟩
      · dsimp only
        rw [answered_bind, restored]
        exact answered
      · unfold Routes.remove
        by_cases same : other = slot
        · subst same
          exact .inr (Function.update_self other none previous)
        · rw [Function.update_of_ne same]
          exact other_gone.imp_left fun member => (List.mem_cons.mp member).resolve_left same

/-- A restoration succeeds. -/
theorem restore_completes (cooperates : Cooperates chosen) (previous : Routes) {outputs : Outputs}
    (present : Present outputs) :
    ∃ left after, (restore previous).answered Outputs.respond chosen outputs =
      some ((true, left), after) := by
  unfold restore
  cases empty : previous.isEmpty with
  | true => exact ⟨previous, outputs, rfl⟩
  | false =>
    obtain ⟨left, between, restored, gone⟩ :=
      restoreSlots_completes cooperates previous slots present
    obtain ⟨after, saved⟩ := save_completes cooperates left between
    have nothing : left.isEmpty = true := by
      unfold Routes.isEmpty
      rw [gone .output (.inl List.mem_cons_self), gone .alerts (.inl (by decide))]
      rfl
    refine ⟨left, after, ?_⟩
    rw [if_neg Bool.false_ne_true, answered_bind, restored, Option.bind_some,
      answered_bind, saved, Option.bind_some, nothing]
    rfl

/-- A recovery succeeds where there is something to restore, or a journal that can be read. -/
theorem recover_completes (cooperates : Cooperates chosen) {previous : Routes} {outputs : Outputs}
    (present : Present outputs)
    (readable : previous.isEmpty = false ∨ ∀ list, outputs.journal = some list →
      list.routes.isSome = true) :
    ∃ left after, (recover previous).answered Outputs.respond chosen outputs =
      some ((true, left), after) := by
  unfold recover
  cases empty : previous.isEmpty with
  | false => exact restore_completes cooperates previous present
  | true =>
    have read := cooperates.read outputs
    have opened : ∀ next : Bool → Program (Bool × Routes),
        (Dialogue.ask .openDirectory next : Program (Bool × Routes)).answered Outputs.respond
            chosen outputs = (next true).answered Outputs.respond chosen outputs :=
      fun next => answered_ask (cooperates.openDirectory outputs) rfl
    rw [Bool.not_true, if_neg Bool.false_ne_true, opened, Bool.not_true,
      if_neg Bool.false_ne_true]
    cases there : outputs.journal with
    | none =>
      rw [there] at read
      have responds : outputs.respond .read .missing = some { outputs with loaded := true } :=
        if_pos there
      rw [answered_ask read responds]
      exact ⟨previous, _, rfl⟩
    | some list =>
      rw [there] at read
      have valid := (readable.resolve_left (by rw [empty]; nofun)) list there
      obtain ⟨routes, decoded⟩ := Option.isSome_iff_exists.mp valid
      have responds : outputs.respond .read (.content list) =
          some { outputs with loaded := outputs.loaded || list.routes.isSome } := if_pos there
      rw [answered_ask read responds]
      dsimp only
      rw [decoded]
      exact restore_completes cooperates routes present

end Plank.Output
