import Mathlib.Data.List.Basic

/-!
# Laws of a trace

A trace is kept newest first. A law relates an event to what came before it; a trace is lawful when
each of its events is, so a lawful trace grows one lawful event at a time.
-/

namespace Plank.Trace

variable {Event : Type} {law : List Event → Event → Prop} {trace : List Event}

/-- Every event meets the law with what came before it. -/
def Each (law : List Event → Event → Prop) (trace : List Event) : Prop :=
  ∀ later event earlier, trace = later ++ event :: earlier → law earlier event

/-- Nothing happened. -/
theorem Each.nil : Each law [] := by
  intro later event earlier split
  exact absurd split (by simp)

/-- One more event. -/
theorem Each.cons (each : Each law trace) {event : Event} (holds : law trace event) :
    Each law (event :: trace) := by
  intro later happened earlier split
  cases later with
  | nil =>
    obtain ⟨rfl, rfl⟩ := List.cons.inj split
    exact holds
  | cons head rest => exact each rest happened earlier (List.cons.inj split).2

/-- Any event, with what came before it. -/
theorem Each.mem (each : Each law trace) {event : Event} (happened : event ∈ trace) :
    ∃ earlier, law earlier event ∧ ∀ other ∈ earlier, other ∈ trace := by
  obtain ⟨later, earlier, rfl⟩ := List.append_of_mem happened
  exact ⟨earlier, each later event earlier rfl, fun other member =>
    List.mem_append_right _ (List.mem_cons_of_mem _ member)⟩

/-- All but the last event. -/
theorem Each.tail {event : Event} (each : Each law (event :: trace)) : Each law trace :=
  fun later happened earlier split =>
    each (event :: later) happened earlier (by rw [split]; rfl)

/-- An event that never follows itself happened at most once. -/
theorem Each.count_le [DecidableEq Event] (each : Each law trace) {event : Event}
    (once : ∀ earlier, law earlier event → event ∉ earlier) : trace.count event ≤ 1 := by
  induction trace with
  | nil => exact Nat.zero_le _
  | cons last trace ih =>
    rw [List.count_cons]
    by_cases same : last = event
    · subst same
      have absent : trace.count last = 0 :=
        List.count_eq_zero.mpr (once trace (each [] last trace rfl))
      exact Nat.le_of_eq (by rw [absent, if_pos (beq_self_eq_true _)])
    · rw [if_neg (by rwa [beq_iff_eq])]
      exact ih each.tail

/-- Two events of which neither follows the other do not both happen. -/
theorem Each.exclusive (each : Each law trace) {one other : Event} (apart : one ≠ other)
    (first : ∀ earlier, law earlier one → other ∉ earlier)
    (second : ∀ earlier, law earlier other → one ∉ earlier) (happened : one ∈ trace) :
    other ∉ trace := by
  induction trace with
  | nil => exact absurd happened List.not_mem_nil
  | cons last trace ih =>
    have now : law trace last := each [] last trace rfl
    intro member
    rcases List.mem_cons.mp happened with rfl | old
    · exact first trace now (List.mem_of_ne_of_mem apart.symm member)
    · rcases List.mem_cons.mp member with rfl | before
      · exact second trace now old
      · exact ih each.tail old before

/-- The last event. -/
theorem Each.head {event : Event} (each : Each law (event :: trace)) : law trace event :=
  each [] event trace rfl

end Plank.Trace
