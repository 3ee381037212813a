import Mathlib.Order.BoundedOrder.Basic
import Mathlib.Data.List.Pairwise
import Mathlib.Logic.Relation

/-!
# Generation gates

A gated lane carries records only while a generation is current. An activation replaces the
generation and empties the lane; the bottom generation mutes it, and a failure mutes it for
good. The ledger of a lane is its history: one period per activation (or failure), with the
records accepted and the records handed out, each with its age, while that period was current.
The gate below is the abstract lane: it may lose queued records at any time, but it never
hands out what it did not accept in the current period. `MuteSafe` states what every ledger
of such a gate satisfies.
-/

namespace Plank.Lane

/-- What an observer of a lane sees. -/
inductive Event (Generation Record : Type*) where
  /-- An activation was accepted. -/
  | activated (generation : Generation)
  /-- A record was accepted. -/
  | pushed (record : Record)
  /-- A record was handed out, at this age. -/
  | delivered (record : Record) (age : Nat)
  /-- The lane failed. -/
  | failed

/-- The history of a lane between two activations. -/
structure Period (Generation Record : Type*) where
  /-- Generation that was current. -/
  generation : Generation
  /-- Whether a failure, rather than an activation, began the period. -/
  failure : Bool
  /-- Records accepted, oldest first. -/
  pushed : List Record
  /-- Records handed out with their ages, oldest first. -/
  delivered : List (Record × Nat)

/-- The periods of a lane. -/
structure Ledger (Generation Record : Type*) where
  /-- The period in progress. -/
  current : Period Generation Record
  /-- The closed periods, newest first. -/
  earlier : List (Period Generation Record)

namespace Ledger

variable {Generation Record Content : Type*}

/-- Every period, newest first. -/
def periods (ledger : Ledger Generation Record) : List (Period Generation Record) :=
  ledger.current :: ledger.earlier

variable [Bot Generation]

/-- Nothing has happened: the lane begins muted. -/
def empty : Ledger Generation Record := ⟨⟨⊥, false, [], []⟩, []⟩

/-- Write one event down. -/
def note (ledger : Ledger Generation Record) : Event Generation Record → Ledger Generation Record
  | .activated generation => ⟨⟨generation, false, [], []⟩, ledger.periods⟩
  | .failed => ⟨⟨⊥, true, [], []⟩, ledger.periods⟩
  | .pushed record =>
    { ledger with current := { ledger.current with pushed := ledger.current.pushed ++ [record] } }
  | .delivered record age =>
    { ledger with
      current := { ledger.current with delivered := ledger.current.delivered ++ [(record, age)] } }

/-- Write a record down if it was accepted. -/
def notePushed (ledger : Ledger Generation Record) (accepted : Bool) (record : Record) :
    Ledger Generation Record :=
  if accepted then ledger.note (.pushed record) else ledger

/-- Write a record that was taken out down with its age; it comes with its arrival time. -/
def noteTaken (ledger : Ledger Generation Record) (now : Nat) :
    Option (Nat × Record) → Ledger Generation Record
  | none => ledger
  | some (arrival, record) => ledger.note (.delivered record (now - arrival))

end Ledger

section Contents

variable {Generation Record Content : Type*}

/-- The same event, seen through a view of its record. -/
def Event.map (view : Record → Content) : Event Generation Record → Event Generation Content
  | .activated generation => .activated generation
  | .pushed record => .pushed (view record)
  | .delivered record age => .delivered (view record) age
  | .failed => .failed

/-- The same period, seen through a view of its records. -/
def Period.map (view : Record → Content) (period : Period Generation Record) :
    Period Generation Content where
  generation := period.generation
  failure := period.failure
  pushed := period.pushed.map view
  delivered := period.delivered.map fun handed => (view handed.1, handed.2)

/-- The same ledger, seen through a view of its records. -/
def Ledger.map (view : Record → Content) (ledger : Ledger Generation Record) :
    Ledger Generation Content where
  current := ledger.current.map view
  earlier := ledger.earlier.map (Period.map view)

/-- Writing an event down commutes with viewing the records. -/
@[simp] theorem Ledger.map_note [Bot Generation] (view : Record → Content)
    (ledger : Ledger Generation Record) (event : Event Generation Record) :
    (ledger.note event).map view = (ledger.map view).note (event.map view) := by
  cases event <;> simp [Ledger.note, Ledger.map, Event.map, Period.map, Ledger.periods]

end Contents

section Safety

variable {Generation Record : Type*} [PartialOrder Generation] [OrderBot Generation]
variable (generationOf : Record → Generation) (later : Record → Record → Prop) (maxAge : Nat)

/-- Nothing crosses into this period from another one, nothing stale leaves it, and what
leaves it is in order. -/
structure Period.Isolated (period : Period Generation Record) : Prop where
  /-- Handed out, in order, from what this very period accepted. -/
  within : (period.delivered.map Prod.fst).Sublist period.pushed
  /-- Every record handed out carries the period's own generation. -/
  own : ∀ handed ∈ period.delivered, generationOf handed.1 = period.generation
  /-- A muted period hands nothing out. -/
  muted : period.generation = ⊥ → period.delivered = []
  /-- Nothing is handed out above the maximum age. -/
  fresh : ∀ handed ∈ period.delivered, handed.2 ≤ maxAge
  /-- Records leave in strictly increasing order. -/
  ordered : (period.delivered.map Prod.fst).Pairwise later

/-- What every ledger of a gated lane satisfies. -/
structure MuteSafe (ledger : Ledger Generation Record) : Prop where
  /-- Each period stands alone. -/
  isolated : ∀ period ∈ ledger.periods, period.Isolated generationOf later maxAge
  /-- Generations that are not mute strictly increase over the lane's life. -/
  increasing : ledger.periods.Pairwise fun newer older =>
    newer.generation ≠ ⊥ → older.generation < newer.generation
  /-- A failure begins a muted period. -/
  failureMutes : ∀ period ∈ ledger.periods, period.failure = true → period.generation = ⊥
  /-- No period follows a failure. -/
  failureLast : ∀ period ∈ ledger.earlier, period.failure = false

variable {generationOf later maxAge}

/-- A period in which nothing was handed out is isolated. -/
theorem Period.isolated_of_quiet (period : Period Generation Record) (quiet : period.delivered = []) :
    period.Isolated generationOf later maxAge where
  within := by simp [quiet]
  own := by simp [quiet]
  muted _ := quiet
  fresh := by simp [quiet]
  ordered := by simp [quiet]

/-- Opening a period above every earlier one, or a muted one, keeps a ledger safe. -/
theorem MuteSafe.opened {ledger : Ledger Generation Record} {newest : Generation}
    (safe : MuteSafe generationOf later maxAge ledger)
    (bounded : ∀ period ∈ ledger.periods, period.generation ≤ newest)
    (live : ledger.current.failure = false) (period : Period Generation Record)
    (quiet : period.delivered = []) (newer : period.generation = ⊥ ∨ newest < period.generation)
    (mutes : period.failure = true → period.generation = ⊥) :
    MuteSafe generationOf later maxAge ⟨period, ledger.periods⟩ where
  isolated := by
    intro chosen member
    rcases List.mem_cons.mp member with rfl | older
    · exact Period.isolated_of_quiet _ quiet
    · exact safe.isolated chosen older
  increasing := by
    refine List.Pairwise.cons (fun older member unmuted => ?_) safe.increasing
    rcases newer with mute | above
    · exact absurd mute unmuted
    · exact lt_of_le_of_lt (bounded older member) above
  failureMutes := by
    intro chosen member
    rcases List.mem_cons.mp member with rfl | older
    · exact mutes
    · exact safe.failureMutes chosen older
  failureLast := by
    intro chosen member
    rcases List.mem_cons.mp member with rfl | older
    · exact live
    · exact safe.failureLast chosen older

/-- Replacing the period in progress by an isolated one of the same generation keeps a ledger
safe. -/
theorem MuteSafe.continued {ledger : Ledger Generation Record}
    (safe : MuteSafe generationOf later maxAge ledger) (period : Period Generation Record)
    (same : period.generation = ledger.current.generation)
    (failure : period.failure = ledger.current.failure)
    (isolated : period.Isolated generationOf later maxAge) :
    MuteSafe generationOf later maxAge { ledger with current := period } where
  isolated := by
    intro chosen member
    rcases List.mem_cons.mp member with rfl | older
    · exact isolated
    · exact safe.isolated chosen (List.mem_cons_of_mem _ older)
  increasing := by
    have before := List.pairwise_cons.mp safe.increasing
    refine List.Pairwise.cons (fun older member unmuted => ?_) before.2
    rw [same] at unmuted ⊢
    exact before.1 older member unmuted
  failureMutes := by
    intro chosen member
    rcases List.mem_cons.mp member with rfl | older
    · rw [failure, same]
      exact safe.failureMutes ledger.current List.mem_cons_self
    · exact safe.failureMutes chosen (List.mem_cons_of_mem _ older)
  failureLast := safe.failureLast

/-- The period in progress is isolated whenever the queue and its history fit together. -/
theorem Period.isolated_of_within {period : Period Generation Record} {queue : List Record}
    (within : (period.delivered.map Prod.fst ++ queue).Sublist period.pushed)
    (own : ∀ record ∈ period.pushed, generationOf record = period.generation)
    (muted : period.generation = ⊥ → period.pushed = [])
    (ordered : period.pushed.Pairwise later)
    (fresh : ∀ handed ∈ period.delivered, handed.2 ≤ maxAge) :
    period.Isolated generationOf later maxAge where
  within := (List.sublist_append_left _ _).trans within
  own := by
    intro handed member
    apply own
    exact ((List.sublist_append_left _ _).trans within).subset (List.mem_map_of_mem member)
  muted := by
    intro mute
    rw [muted mute, List.sublist_nil, List.append_eq_nil_iff] at within
    exact List.map_eq_nil_iff.mp within.1
  fresh := fresh
  ordered := ordered.sublist ((List.sublist_append_left _ _).trans within)

end Safety

/-- The abstract lane: what a generation gate remembers. -/
structure Gate (Generation Record : Type*) where
  /-- Current generation; bottom while muted. -/
  generation : Generation
  /-- Greatest generation ever activated. -/
  newest : Generation
  /-- Whether the lane failed. -/
  failed : Bool
  /-- Records accepted and not yet handed out or lost. -/
  queue : List Record
  /-- History so far. -/
  ledger : Ledger Generation Record

namespace Gate

variable {Generation Record : Type*} [PartialOrder Generation] [OrderBot Generation]
variable (generationOf : Record → Generation) (later : Record → Record → Prop) (maxAge : Nat)

/-- A lane nobody has activated. -/
def start : Gate Generation Record := ⟨⊥, ⊥, false, [], .empty⟩

/-- What the abstract lane may do. -/
inductive Step [DecidableEq Generation] :
    Gate Generation Record → Gate Generation Record → Prop where
  /-- A live lane takes a mute or a strictly newer generation and forgets its queue. -/
  | activate (gate : Gate Generation Record) (generation : Generation)
      (live : gate.failed = false) (newer : generation = ⊥ ∨ gate.newest < generation) :
      Step gate ⟨generation, if generation = ⊥ then gate.newest else generation, false, [],
        gate.ledger.note (.activated generation)⟩
  /-- A record of the current generation, later than all before it, may be queued; queued
  records may be lost at the same time. -/
  | accept (gate : Gate Generation Record) (record : Record) (queue : List Record)
      (current : generationOf record = gate.generation) (unmuted : gate.generation ≠ ⊥)
      (after : ∀ earlier ∈ gate.ledger.current.pushed, later earlier record)
      (kept : queue.Sublist (gate.queue ++ [record])) :
      Step gate { gate with queue, ledger := gate.ledger.note (.pushed record) }
  /-- Queued records may be lost at any time. -/
  | lose (gate : Gate Generation Record) (queue : List Record)
      (kept : queue.Sublist gate.queue) : Step gate { gate with queue }
  /-- A queued record young enough may be handed out, with everything before it lost. -/
  | deliver (gate : Gate Generation Record) (record : Record) (age : Nat) (queue : List Record)
      (held : (record :: queue).Sublist gate.queue) (fresh : age ≤ maxAge) :
      Step gate { gate with queue, ledger := gate.ledger.note (.delivered record age) }
  /-- A live lane may fail. -/
  | fail (gate : Gate Generation Record) (live : gate.failed = false) :
      Step gate { gate with
        generation := ⊥, failed := true, queue := [], ledger := gate.ledger.note .failed }

/-- What ties the queue and the flags of a gate to its ledger. -/
structure Invariant (gate : Gate Generation Record) : Prop where
  /-- The period in progress is of the current generation. -/
  inProgress : gate.ledger.current.generation = gate.generation
  /-- What was handed out, then what is queued, was accepted in this order. -/
  within : (gate.ledger.current.delivered.map Prod.fst ++ gate.queue).Sublist
    gate.ledger.current.pushed
  /-- Everything accepted carries the current generation. -/
  own : ∀ record ∈ gate.ledger.current.pushed, generationOf record = gate.generation
  /-- A muted lane has accepted nothing. -/
  muted : gate.generation = ⊥ → gate.ledger.current.pushed = []
  /-- Records were accepted in strictly increasing order. -/
  ordered : gate.ledger.current.pushed.Pairwise later
  /-- The newest generation bounds every generation of the ledger. -/
  bounded : ∀ period ∈ gate.ledger.periods, period.generation ≤ gate.newest
  /-- The period in progress began with a failure exactly when the lane failed. -/
  failure : gate.ledger.current.failure = gate.failed
  /-- The ledger so far is safe. -/
  safe : MuteSafe generationOf later maxAge gate.ledger

variable {generationOf later maxAge}

/-- The untouched lane satisfies the invariant. -/
theorem invariant_start : (start : Gate Generation Record).Invariant generationOf later maxAge where
  inProgress := rfl
  within := .slnil
  own := by simp [start, Ledger.empty]
  muted _ := rfl
  ordered := .nil
  bounded := by simp [start, Ledger.empty, Ledger.periods]
  failure := rfl
  safe := {
    isolated := by
      intro period member
      obtain rfl := List.mem_singleton.mp member
      exact Period.isolated_of_quiet _ rfl
    increasing := List.pairwise_singleton _ _
    failureMutes := by simp [start, Ledger.empty, Ledger.periods]
    failureLast := by simp [start, Ledger.empty] }

variable [DecidableEq Generation]

/-- Every step of the abstract lane keeps the invariant. -/
theorem Step.preserves {before after : Gate Generation Record}
    (step : Step generationOf later maxAge before after)
    (holds : before.Invariant generationOf later maxAge) :
    after.Invariant generationOf later maxAge := by
  have current := holds.safe.isolated before.ledger.current List.mem_cons_self
  cases step with
  | activate generation live newer =>
    have closed : before.ledger.current.failure = false := holds.failure.trans live
    have above : before.newest ≤ if generation = ⊥ then before.newest else generation := by
      split
      · exact le_rfl
      · next unmuted => exact (newer.resolve_left unmuted).le
    exact {
      inProgress := rfl
      within := .slnil
      own := by simp [Ledger.note]
      muted _ := rfl
      ordered := .nil
      bounded := by
        intro period member
        rcases List.mem_cons.mp member with rfl | older
        · simp only [Ledger.note]
          split
          · next mute => simp [mute]
          · exact le_rfl
        · exact (holds.bounded period older).trans above
      failure := rfl
      safe := .opened holds.safe holds.bounded closed _ rfl newer (by simp) }
  | accept record queue same unmuted after kept =>
    have within : (before.ledger.current.delivered.map Prod.fst ++ queue).Sublist
        (before.ledger.current.pushed ++ [record]) := by
      have grown := holds.within.append (List.Sublist.refl [record])
      rw [List.append_assoc] at grown
      exact ((List.Sublist.refl _).append kept).trans grown
    have own : ∀ chosen ∈ before.ledger.current.pushed ++ [record],
        generationOf chosen = before.generation := by
      intro chosen member
      rcases List.mem_append.mp member with old | new
      · exact holds.own chosen old
      · rw [List.mem_singleton.mp new, same]
    have ordered : (before.ledger.current.pushed ++ [record]).Pairwise later :=
      List.pairwise_append.mpr ⟨holds.ordered, List.pairwise_singleton _ _, by
        intro earlier member chosen new
        rw [List.mem_singleton.mp new]
        exact after earlier member⟩
    exact {
      inProgress := holds.inProgress
      within := within
      own := own
      muted mute := absurd mute unmuted
      ordered := ordered
      bounded := by
        intro period member
        rcases List.mem_cons.mp member with rfl | older
        · exact holds.bounded before.ledger.current List.mem_cons_self
        · exact holds.bounded period (List.mem_cons_of_mem _ older)
      failure := holds.failure
      safe := .continued holds.safe _ rfl rfl (Period.isolated_of_within within
        (fun chosen member => (own chosen member).trans holds.inProgress.symm)
        (fun mute => absurd (holds.inProgress.symm.trans mute) unmuted) ordered current.fresh) }
  | lose queue kept =>
    exact { holds with within := ((List.Sublist.refl _).append kept).trans holds.within }
  | deliver record age queue held fresh =>
    have within : ((before.ledger.current.delivered ++ [(record, age)]).map Prod.fst ++
        queue).Sublist before.ledger.current.pushed := by
      have grown := ((List.Sublist.refl (before.ledger.current.delivered.map Prod.fst)).append
        held).trans holds.within
      simpa using grown
    have young : ∀ handed ∈ before.ledger.current.delivered ++ [(record, age)],
        handed.2 ≤ maxAge := by
      intro handed member
      rcases List.mem_append.mp member with old | new
      · exact current.fresh handed old
      · rw [List.mem_singleton.mp new]
        exact fresh
    exact {
      inProgress := holds.inProgress
      within := within
      own := holds.own
      muted := holds.muted
      ordered := holds.ordered
      bounded := by
        intro period member
        rcases List.mem_cons.mp member with rfl | older
        · exact holds.bounded before.ledger.current List.mem_cons_self
        · exact holds.bounded period (List.mem_cons_of_mem _ older)
      failure := holds.failure
      safe := .continued holds.safe _ rfl rfl (Period.isolated_of_within within
        (fun chosen member => (holds.own chosen member).trans holds.inProgress.symm)
        (fun mute => holds.muted (holds.inProgress.symm.trans mute)) holds.ordered young) }
  | fail live =>
    exact {
      inProgress := rfl
      within := .slnil
      own := by simp [Ledger.note]
      muted _ := rfl
      ordered := .nil
      bounded := by
        intro period member
        rcases List.mem_cons.mp member with rfl | older
        · exact bot_le
        · exact holds.bounded period older
      failure := rfl
      safe := .opened holds.safe holds.bounded (holds.failure.trans live) _ rfl (.inl rfl)
        (fun _ => rfl) }

/-- Every run of the abstract lane keeps the invariant. -/
theorem reaches_invariant {gate : Gate Generation Record}
    (reaches : Relation.ReflTransGen (Step generationOf later maxAge) start gate) :
    gate.Invariant generationOf later maxAge := by
  induction reaches with
  | refl => exact invariant_start
  | tail _ step ih => exact step.preserves ih

end Gate

end Plank.Lane
