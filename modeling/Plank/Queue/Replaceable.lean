import Mathlib.Data.List.Range
import Mathlib.Data.List.Nodup
import Plank.Queue.Reliable

/-!
# Bounded queues that replace their oldest records

A push never waits: it drops the oldest records until the new one has room. The records dropped
are counted afterwards, by a counter of 64 bits. A consumer takes the oldest record, or claims it
into a copy of its own and hands that out later. Whatever queue this is, once a push drops no more
than it must and a consumer removes from the front, what is queued is always the end of what was
accepted, and every other record was taken or dropped, once.

Each record carries its number in the order of arrival, which no operation reads.
-/

namespace Plank.Queue

/-- A record with its number in the order of arrival. -/
abbrev Item (Record : Type) := Nat × Record

/-- How a record left its queue. -/
inductive Fate where
  /-- A push dropped it. -/
  | dropped
  /-- A consumer took it. -/
  | taken
  deriving DecidableEq, Repr

/-- Records that leave with one fate. -/
def Fate.mark {Record : Type} (fate : Fate) (items : List (Item Record)) :
    List (Fate × Item Record) := items.map fun item => (fate, item)

/-- The records among these that left with this fate. -/
def Fate.among {Record : Type} (fate : Fate) (removed : List (Fate × Item Record)) :
    List (Item Record) := (removed.filter fun entry => entry.1 = fate).map Prod.snd

section Marks

variable {Record : Type} {fate other : Fate} {items : List (Item Record)} {item : Item Record}

/-- The records marked are the records. -/
@[simp]
theorem map_snd_mark : (fate.mark items).map Prod.snd = items := by
  simp [Fate.mark, Function.comp_def]

/-- A marked record has the mark. -/
@[simp]
theorem mem_mark : (other, item) ∈ fate.mark items ↔ other = fate ∧ item ∈ items := by
  simp only [Fate.mark, List.mem_map, Prod.mk.injEq]
  constructor
  · rintro ⟨_, member, rfl, rfl⟩
    exact ⟨rfl, member⟩
  · rintro ⟨rfl, member⟩
    exact ⟨item, member, rfl, rfl⟩

/-- Marked records are found under their mark. -/
@[simp]
theorem among_mark : fate.among (fate.mark items) = items := by
  have all : (fate.mark items).filter (fun entry => entry.1 = fate) = fate.mark items := by
    rw [List.filter_eq_self]
    rintro ⟨other, item⟩ member
    simpa using (mem_mark.mp member).1
  rw [Fate.among, all, map_snd_mark]

/-- Marked records are not found under the other mark. -/
theorem among_mark_of_ne (different : other ≠ fate) : fate.among (other.mark items) = [] := by
  have nothing : (other.mark items).filter (fun entry => entry.1 = fate) = [] := by
    rw [List.filter_eq_nil_iff]
    rintro ⟨found, item⟩ member
    simpa [(mem_mark.mp member).1] using different
  rw [Fate.among, nothing, List.map_nil]

/-- The fates of two lists of records in order. -/
@[simp]
theorem among_append (left right : List (Fate × Item Record)) :
    fate.among (left ++ right) = fate.among left ++ fate.among right := by
  simp [Fate.among]

end Marks

/-- The operations of a queue that replaces its oldest records. -/
structure Replacing (Fault Queue Record Demand : Type) where
  /-- The queue before the first record. -/
  empty : Queue
  /-- What a queue holds, oldest first. -/
  items : Queue → List (Item Record)
  /-- Whether a record is one the callers push. -/
  fits : Record → Bool
  /-- Whether a record has room behind these. -/
  room : List (Item Record) → Record → Bool
  /-- A push, with the number of records it dropped. -/
  push : Item Record → Queue → Except Fault (Nat × Queue)
  /-- A consumer takes the oldest record. -/
  pop : Queue → Except Fault (Option (Item Record) × Queue)
  /-- A consumer claims the oldest record, unless the demand refuses it. -/
  claim : Demand → Queue → Except Fault (Option (Item Record) × Queue)
  /-- Whether the copy of a claimed record succeeds. -/
  copies : Demand → Record → Bool

namespace Replacing

variable {Fault Queue Record Demand : Type}

/-- The push drops the fewest records that make room, from the front, and stores behind the
rest. -/
def Evicts (replacing : Replacing Fault Queue Record Demand) (valid : Queue → Prop)
    (item : Item Record) (before : Queue) (dropped : Nat) (after : Queue) : Prop :=
  valid after ∧ dropped ≤ (replacing.items before).length ∧
    replacing.items after = (replacing.items before).drop dropped ++ [item] ∧
    replacing.room ((replacing.items before).drop dropped) item.2 = true ∧
    ∀ fewer < dropped, replacing.room ((replacing.items before).drop fewer) item.2 = false

/-- What the operations keep to, on the queues that are valid. -/
structure Lawful (replacing : Replacing Fault Queue Record Demand) (valid : Queue → Prop) :
    Prop where
  /-- The first queue is valid. -/
  empty : valid replacing.empty
  /-- It holds nothing. -/
  nothing : replacing.items replacing.empty = []
  /-- A push of a record that fits evicts. -/
  push : ∀ item queue, valid queue → replacing.fits item.2 = true → ∃ dropped after,
    replacing.push item queue = .ok (dropped, after) ∧
    replacing.Evicts valid item queue dropped after
  /-- A consumer removes from the front. -/
  pop : ∀ queue, valid queue →
    Discipline.Removes replacing.items valid queue (replacing.pop queue)
  /-- A claim removes from the front. -/
  claim : ∀ demand queue, valid queue →
    Discipline.Removes replacing.items valid queue (replacing.claim demand queue)
  /-- A refused claim leaves the queue. -/
  refused : ∀ demand queue after, valid queue →
    replacing.claim demand queue = .ok (none, after) → after = queue
  /-- The copy of a claimed record succeeds. -/
  claimed : ∀ demand queue item after, valid queue →
    replacing.claim demand queue = .ok (some item, after) → replacing.copies demand item.2 = true

end Replacing

/-- A queue with its consumers and its counter. -/
structure Lane (Fault Queue Record Demand : Type) where
  /-- The queue. -/
  queue : Queue
  /-- Records claimed and not yet handed out, by caller. -/
  copying : Nat → Option (Item Record × Demand) := fun _ => none
  /-- Drops not yet counted, one entry for each push under way. -/
  owed : List Nat := []
  /-- Drops counted. -/
  counter : UInt64 := 0
  /-- What went wrong. -/
  fault : Option Fault := none
  /-- Records accepted, oldest first. -/
  accepted : List (Item Record) := []
  /-- Records that left the queue, oldest first. -/
  removed : List (Fate × Item Record) := []
  /-- Records handed out to their consumers. -/
  delivered : List (Item Record) := []
  /-- Records claimed that could not be handed out. -/
  lost : List (Item Record) := []

/-- The steps of a queue. -/
inductive LaneAction (Record Demand : Type) where
  /-- A record is pushed. -/
  | push (record : Record)
  /-- A push counts what it dropped. -/
  | count (index : Nat)
  /-- A consumer takes a record. -/
  | take
  /-- A consumer claims a record. -/
  | claim (caller : Nat) (demand : Demand)
  /-- A consumer copies the record it claimed. -/
  | copy (caller : Nat)
  deriving DecidableEq, Repr

namespace Lane

variable {Fault Queue Record Demand : Type} (replacing : Replacing Fault Queue Record Demand)

/-- One step of a queue that has not faulted. -/
def step (lane : Lane Fault Queue Record Demand) :
    LaneAction Record Demand → Option (Lane Fault Queue Record Demand)
  | .push record =>
    if lane.fault.isSome || !replacing.fits record then none
    else
      let item := (lane.accepted.length, record)
      match replacing.push item lane.queue with
      | .error fault => some { lane with fault := some fault }
      | .ok (dropped, queue) =>
        some { lane with
          queue
          owed := lane.owed ++ [dropped]
          accepted := lane.accepted ++ [item]
          removed := lane.removed ++
            Fate.dropped.mark ((replacing.items lane.queue).take dropped) }
  | .count index =>
    match lane.owed[index]? with
    | none => none
    | some dropped =>
      some { lane with
        owed := lane.owed.eraseIdx index
        counter := lane.counter + UInt64.ofNat dropped }
  | .take =>
    if lane.fault.isSome then none
    else
      match replacing.pop lane.queue with
      | .error fault => some { lane with fault := some fault }
      | .ok (moved, queue) =>
        some { lane with
          queue
          removed := lane.removed ++ Fate.taken.mark moved.toList
          delivered := lane.delivered ++ moved.toList }
  | .claim caller demand =>
    if lane.fault.isSome || (lane.copying caller).isSome then none
    else
      match replacing.claim demand lane.queue with
      | .error fault => some { lane with fault := some fault }
      | .ok (moved, queue) =>
        some { lane with
          queue
          copying := Function.update lane.copying caller (moved.map fun item => (item, demand))
          removed := lane.removed ++ Fate.taken.mark moved.toList }
  | .copy caller =>
    match lane.copying caller with
    | none => none
    | some (item, demand) =>
      let lane := { lane with copying := Function.update lane.copying caller none }
      some (if replacing.copies demand item.2 then
          { lane with delivered := lane.delivered ++ [item] }
        else { lane with lost := lane.lost ++ [item] })

/-- All runs of a queue, from an empty one. -/
def system : Transition.System (Lane Fault Queue Record Demand) (LaneAction Record Demand) where
  initial lane := lane = { queue := replacing.empty }
  step := step replacing

/-- What the steps of a queue keep. -/
structure Invariant (valid : Queue → Prop) (lane : Lane Fault Queue Record Demand) : Prop where
  /-- Nothing went wrong. -/
  sound : lane.fault = none
  /-- The queue is valid. -/
  queue : valid lane.queue
  /-- Records are numbered as they arrive. -/
  numbered : lane.accepted.map Prod.fst = List.range lane.accepted.length
  /-- What was accepted is what left, and then what is queued. -/
  split : lane.accepted = lane.removed.map Prod.snd ++ replacing.items lane.queue
  /-- Every drop is counted, or about to be. -/
  counted : (lane.counter.toNat + lane.owed.sum) % 2 ^ 64 =
    (Fate.dropped.among lane.removed).length % 2 ^ 64
  /-- A record being copied was taken, is not handed out yet, and can be. -/
  copying : ∀ caller item demand, lane.copying caller = some (item, demand) →
    (.taken, item) ∈ lane.removed ∧ item ∉ lane.delivered ∧
      replacing.copies demand item.2 = true
  /-- No two callers copy one record. -/
  apart : ∀ caller other item demand demand', lane.copying caller = some (item, demand) →
    lane.copying other = some (item, demand') → caller = other
  /-- A record handed out was taken. -/
  delivered : ∀ item ∈ lane.delivered, (.taken, item) ∈ lane.removed
  /-- It is handed out once. -/
  once : lane.delivered.Nodup
  /-- A record taken was handed out, or is being copied. -/
  held : ∀ item, (.taken, item) ∈ lane.removed →
    item ∈ lane.delivered ∨ ∃ caller demand, lane.copying caller = some (item, demand)
  /-- No record claimed is lost. -/
  kept : lane.lost = []

variable {replacing} {valid : Queue → Prop} {lane before after : Lane Fault Queue Record Demand}

/-- No record is accepted twice. -/
theorem Invariant.accepted_nodup (holds : lane.Invariant replacing valid) :
    (lane.removed.map Prod.snd ++ replacing.items lane.queue).Nodup := by
  rw [← holds.split]
  apply List.Nodup.of_map Prod.fst
  rw [holds.numbered]
  exact List.nodup_range

/-- A record leaves the queue in one way. -/
theorem Invariant.fate_unique (holds : lane.Invariant replacing valid) {fate other : Fate}
    {item : Item Record} (left : (fate, item) ∈ lane.removed)
    (again : (other, item) ∈ lane.removed) : fate = other := by
  have once := (List.nodup_append.mp holds.accepted_nodup).1
  exact congrArg Prod.fst (List.inj_on_of_nodup_map once left again rfl)

/-- A queued record has not left the queue. -/
theorem Invariant.queued_fresh (holds : lane.Invariant replacing valid) {item : Item Record}
    (queued : item ∈ replacing.items lane.queue) (fate : Fate) : (fate, item) ∉ lane.removed := by
  intro left
  have apart := (List.nodup_append.mp holds.accepted_nodup).2.2
  exact apart item (List.mem_map.mpr ⟨(fate, item), left, rfl⟩) item queued rfl

/-- A queued record is not handed out, and nobody copies it. -/
theorem Invariant.queued_unclaimed (holds : lane.Invariant replacing valid) {item : Item Record}
    (queued : item ∈ replacing.items lane.queue) :
    item ∉ lane.delivered ∧ ∀ caller demand, lane.copying caller ≠ some (item, demand) := by
  have fresh := holds.queued_fresh queued .taken
  constructor
  · intro delivered
    exact fresh (holds.delivered item delivered)
  · intro caller demand copying
    exact fresh (holds.copying caller item demand copying).1

/-- A new queue satisfies the invariant. -/
theorem initial_invariant (lawful : replacing.Lawful valid) :
    Invariant replacing valid
      ({ queue := replacing.empty } : Lane Fault Queue Record Demand) where
  sound := rfl
  queue := lawful.empty
  numbered := rfl
  split := by simp [lawful.nothing]
  counted := rfl
  copying := by simp
  apart := by simp
  delivered := by simp
  once := List.nodup_nil
  held := by simp
  kept := rfl

/-- A push keeps the invariant. -/
theorem push_invariant (lawful : replacing.Lawful valid) (holds : before.Invariant replacing valid)
    {record : Record} (stepped : before.step replacing (.push record) = some after) :
    after.Invariant replacing valid := by
  obtain ⟨free, stepped⟩ := Option.ite_none_left_eq_some.mp stepped
  have fits : replacing.fits record = true := by
    simp only [Bool.or_eq_true, not_or] at free
    simpa using free.2
  obtain ⟨dropped, queue, pushed, kept, within, stored, -, -⟩ :=
    lawful.push (before.accepted.length, record) before.queue holds.queue fits
  simp only [pushed] at stepped
  obtain rfl := Option.some.inj stepped
  exact { holds with
    queue := kept
    numbered := by simp [holds.numbered, List.range_succ]
    split := by
      have whole := List.take_append_drop dropped (replacing.items before.queue)
      rw [stored, List.map_append, map_snd_mark, List.append_assoc,
        ← List.append_assoc (List.take _ _), whole, ← List.append_assoc, ← holds.split]
    counted := by
      have counted := holds.counted
      show (before.counter.toNat + (before.owed ++ [dropped]).sum) % 2 ^ 64 = _
      rw [among_append, among_mark, List.length_append, List.length_take, List.sum_append,
        List.sum_singleton]
      omega
    copying := by
      intro caller item demand copying
      obtain ⟨taken, fresh, copies⟩ := holds.copying caller item demand copying
      exact ⟨List.mem_append_left _ taken, fresh, copies⟩
    delivered := by
      intro item delivered
      exact List.mem_append_left _ (holds.delivered item delivered)
    held := by
      intro item taken
      rcases List.mem_append.mp taken with old | new
      · exact holds.held item old
      · simp at new }

/-- The sum without one entry. -/
theorem sum_eraseIdx {amounts : List Nat} {index amount : Nat}
    (found : amounts[index]? = some amount) :
    (amounts.eraseIdx index).sum + amount = amounts.sum := by
  induction amounts generalizing index with
  | nil => simp at found
  | cons first rest ih =>
    cases index with
    | zero =>
      obtain rfl : first = amount := by simpa using found
      simp only [List.eraseIdx_cons_zero, List.sum_cons]
      omega
    | succ index =>
      have remaining := ih (by simpa using found)
      simp only [List.eraseIdx_cons_succ, List.sum_cons]
      omega

/-- A count keeps the invariant. -/
theorem count_invariant (holds : before.Invariant replacing valid) {index : Nat}
    (stepped : before.step replacing (.count index) = some after) :
    after.Invariant replacing valid := by
  simp only [step] at stepped
  cases found : before.owed[index]? with
  | none => simp [found] at stepped
  | some dropped =>
    simp only [found] at stepped
    obtain rfl := Option.some.inj stepped
    exact { holds with
      counted := by
        have counted := holds.counted
        have total := sum_eraseIdx found
        show ((before.counter + UInt64.ofNat dropped).toNat +
          (before.owed.eraseIdx index).sum) % 2 ^ 64 =
          (Fate.dropped.among before.removed).length % 2 ^ 64
        rw [UInt64.toNat_add, UInt64.toNat_ofNat']
        omega }

/-- What taking the oldest record does to the record of removals. -/
theorem taken_split (holds : before.Invariant replacing valid) {moved : Option (Item Record)}
    {queue : Queue} (removed : replacing.items before.queue = moved.toList ++ replacing.items queue) :
    before.accepted =
        (before.removed ++ Fate.taken.mark moved.toList).map Prod.snd ++ replacing.items queue ∧
      Fate.dropped.among (before.removed ++ Fate.taken.mark moved.toList) =
        Fate.dropped.among before.removed := by
  constructor
  · rw [List.map_append, map_snd_mark, List.append_assoc, ← removed]
    exact holds.split
  · rw [among_append, among_mark_of_ne (by decide), List.append_nil]

/-- A consumer that takes a record keeps the invariant. -/
theorem take_invariant (lawful : replacing.Lawful valid) (holds : before.Invariant replacing valid)
    (stepped : before.step replacing .take = some after) : after.Invariant replacing valid := by
  obtain ⟨-, stepped⟩ := Option.ite_none_left_eq_some.mp stepped
  obtain ⟨moved, queue, popped, kept, removed⟩ := lawful.pop before.queue holds.queue
  simp only [popped] at stepped
  obtain rfl := Option.some.inj stepped
  obtain ⟨split, same⟩ := taken_split holds removed
  have fresh : ∀ item ∈ moved.toList, (∀ fate, (fate, item) ∉ before.removed) ∧
      item ∉ before.delivered := by
    intro item member
    have queued : item ∈ replacing.items before.queue := by
      rw [removed]
      exact List.mem_append_left _ member
    exact ⟨holds.queued_fresh queued, (holds.queued_unclaimed queued).1⟩
  exact { holds with
    queue := kept
    split := split
    counted := by
      rw [same]
      exact holds.counted
    copying := by
      intro caller item demand copying
      obtain ⟨taken, unseen, copies⟩ := holds.copying caller item demand copying
      refine ⟨List.mem_append_left _ taken, ?_, copies⟩
      intro delivered
      rcases List.mem_append.mp delivered with old | new
      · exact unseen old
      · exact (fresh item new).1 .taken taken
    delivered := by
      intro item delivered
      rcases List.mem_append.mp delivered with old | new
      · exact List.mem_append_left _ (holds.delivered item old)
      · exact List.mem_append_right _ (mem_mark.mpr ⟨rfl, new⟩)
    once := by
      rw [List.nodup_append]
      refine ⟨holds.once, by cases moved <;> simp, ?_⟩
      rintro item old _ new rfl
      exact (fresh item new).2 old
    held := by
      intro item taken
      rcases List.mem_append.mp taken with old | new
      · rcases holds.held item old with delivered | copying
        · exact .inl (List.mem_append_left _ delivered)
        · exact .inr copying
      · exact .inl (List.mem_append_right _ (mem_mark.mp new).2) }

/-- A consumer that claims a record keeps the invariant. -/
theorem claim_invariant (lawful : replacing.Lawful valid)
    (holds : before.Invariant replacing valid) {caller : Nat} {demand : Demand}
    (stepped : before.step replacing (.claim caller demand) = some after) :
    after.Invariant replacing valid := by
  obtain ⟨free, stepped⟩ := Option.ite_none_left_eq_some.mp stepped
  have idle : before.copying caller = none := by
    simp only [Bool.or_eq_true, not_or] at free
    simpa using free.2
  obtain ⟨moved, queue, claimed, kept, removed⟩ := lawful.claim demand before.queue holds.queue
  simp only [claimed] at stepped
  obtain rfl := Option.some.inj stepped
  obtain ⟨split, same⟩ := taken_split holds removed
  cases moved with
  | none =>
    have unchanged : Function.update before.copying caller none = before.copying := by
      rw [← idle]
      exact Function.update_eq_self caller before.copying
    exact { holds with
      queue := kept
      split := split
      counted := by
        rw [same]
        exact holds.counted
      copying := by simpa [unchanged, Fate.mark] using holds.copying
      apart := by simpa [unchanged] using holds.apart
      delivered := by simpa [Fate.mark] using holds.delivered
      held := by simpa [unchanged, Fate.mark] using holds.held }
  | some claim =>
    have queued : claim ∈ replacing.items before.queue := by
      rw [removed]
      exact List.mem_append_left _ (by simp)
    obtain ⟨undelivered, unclaimed⟩ := holds.queued_unclaimed queued
    have copies := lawful.claimed demand before.queue claim queue holds.queue claimed
    exact { holds with
      queue := kept
      split := split
      counted := by
        rw [same]
        exact holds.counted
      copying := by
        intro other item given copying
        by_cases here : other = caller
        · subst here
          obtain ⟨rfl, rfl⟩ : claim = item ∧ demand = given := by simpa using copying
          exact ⟨List.mem_append_right _ (mem_mark.mpr ⟨rfl, by simp⟩), undelivered, copies⟩
        · have old : before.copying other = some (item, given) := by simpa [here] using copying
          obtain ⟨taken, unseen, copies⟩ := holds.copying other item given old
          exact ⟨List.mem_append_left _ taken, unseen, copies⟩
      apart := by
        intro first second item given given' one two
        by_cases here : first = caller <;> by_cases there : second = caller
        · rw [here, there]
        · subst here
          obtain ⟨rfl, rfl⟩ : claim = item ∧ demand = given := by simpa using one
          exact absurd (by simpa [there] using two) (unclaimed second given')
        · subst there
          obtain ⟨rfl, rfl⟩ : claim = item ∧ demand = given' := by simpa using two
          exact absurd (by simpa [here] using one) (unclaimed first given)
        · exact holds.apart first second item given given' (by simpa [here] using one)
            (by simpa [there] using two)
      delivered := by
        intro item delivered
        exact List.mem_append_left _ (holds.delivered item delivered)
      held := by
        intro item taken
        rcases List.mem_append.mp taken with old | new
        · rcases holds.held item old with delivered | ⟨other, given, copying⟩
          · exact .inl delivered
          · have elsewhere : other ≠ caller := by
              rintro rfl
              simp [idle] at copying
            exact .inr ⟨other, given, by simpa [elsewhere] using copying⟩
        · obtain rfl : item = claim := by simpa using (mem_mark.mp new).2
          exact .inr ⟨caller, demand, by simp⟩ }

/-- A copy keeps the invariant. -/
theorem copy_invariant (holds : before.Invariant replacing valid) {caller : Nat}
    (stepped : before.step replacing (.copy caller) = some after) :
    after.Invariant replacing valid := by
  simp only [step] at stepped
  cases copying : before.copying caller with
  | none => simp [copying] at stepped
  | some claim =>
    obtain ⟨item, demand⟩ := claim
    obtain ⟨taken, unseen, copies⟩ := holds.copying caller item demand copying
    simp only [copying, copies, if_true] at stepped
    obtain rfl := Option.some.inj stepped
    exact { holds with
      copying := by
        intro other record given holding
        have elsewhere : other ≠ caller := by
          rintro rfl
          simp at holding
        have old : before.copying other = some (record, given) := by
          simpa [elsewhere] using holding
        obtain ⟨took, fresh, good⟩ := holds.copying other record given old
        refine ⟨took, ?_, good⟩
        intro delivered
        rcases List.mem_append.mp delivered with before_ | new
        · exact fresh before_
        · obtain rfl : record = item := by simpa using new
          exact elsewhere (holds.apart other caller record given demand old copying)
      apart := by
        intro first second record given given' one two
        have here : first ≠ caller := by
          rintro rfl
          simp at one
        have there : second ≠ caller := by
          rintro rfl
          simp at two
        exact holds.apart first second record given given' (by simpa [here] using one)
          (by simpa [there] using two)
      delivered := by
        intro record delivered
        rcases List.mem_append.mp delivered with old | new
        · exact holds.delivered record old
        · obtain rfl : record = item := by simpa using new
          exact taken
      once := by
        rw [List.nodup_append]
        refine ⟨holds.once, by simp, ?_⟩
        rintro record old _ new rfl
        obtain rfl : record = item := by simpa using new
        exact unseen old
      held := by
        intro record took
        rcases holds.held record took with delivered | ⟨other, given, holding⟩
        · exact .inl (List.mem_append_left _ delivered)
        · by_cases here : other = caller
          · subst here
            obtain ⟨rfl, rfl⟩ : item = record ∧ demand = given := by
              simpa using copying.symm.trans holding
            exact .inl (List.mem_append_right _ (by simp))
          · exact .inr ⟨other, given, by simpa [here] using holding⟩ }

/-- Every reachable queue satisfies the invariant. -/
theorem reachable_invariant (lawful : replacing.Lawful valid)
    (reachable : (system replacing).Reachable lane) : lane.Invariant replacing valid := by
  refine Transition.System.Preserves.reachable ?_ ?_ reachable
  · intro before action after holds stepped
    cases action with
    | push record => exact push_invariant lawful holds stepped
    | count index => exact count_invariant holds stepped
    | take => exact take_invariant lawful holds stepped
    | claim caller demand => exact claim_invariant lawful holds stepped
    | copy caller => exact copy_invariant holds stepped
  · rintro _ rfl
    exact initial_invariant lawful

/-- A queue that conserves and orders its records. -/
structure Conserving (replacing : Replacing Fault Queue Record Demand) (valid : Queue → Prop)
    (lane : Lane Fault Queue Record Demand) : Prop where
  /-- Nothing went wrong. -/
  sound : lane.fault = none
  /-- The queue is valid. -/
  queue : valid lane.queue
  /-- What is queued is the end of what was accepted, in order. -/
  suffix : replacing.items lane.queue <:+ lane.accepted
  /-- Every record accepted was taken, was dropped or is queued. -/
  conserved : lane.accepted.length = (Fate.taken.among lane.removed).length +
    (Fate.dropped.among lane.removed).length + (replacing.items lane.queue).length
  /-- The counter and the pushes under way account for every drop. -/
  counted : (lane.counter.toNat + lane.owed.sum) % 2 ^ 64 =
    (Fate.dropped.among lane.removed).length % 2 ^ 64
  /-- Between pushes the counter is the number of drops, until it wraps. -/
  balance : lane.owed = [] → lane.accepted.length < 2 ^ 64 →
    lane.accepted.length = (Fate.taken.among lane.removed).length + lane.counter.toNat +
      (replacing.items lane.queue).length
  /-- The next push drops the fewest records that make room. -/
  evicts : ∀ record, replacing.fits record = true → ∃ dropped after,
    replacing.push (lane.accepted.length, record) lane.queue = .ok (dropped, after) ∧
    replacing.Evicts valid (lane.accepted.length, record) lane.queue dropped after
  /-- A record being copied is not queued, not dropped, not handed out, and copied once. -/
  copying : ∀ caller item demand, lane.copying caller = some (item, demand) →
    item ∉ replacing.items lane.queue ∧ (.dropped, item) ∉ lane.removed ∧
      item ∉ lane.delivered ∧ replacing.copies demand item.2 = true ∧
      ∀ other demand', lane.copying other = some (item, demand') → other = caller
  /-- A record handed out was taken, once. -/
  delivered : lane.delivered.Nodup ∧ ∀ item ∈ lane.delivered, (.taken, item) ∈ lane.removed
  /-- A claim that is refused changes nothing. -/
  refused : ∀ caller demand queue after, replacing.claim demand lane.queue = .ok (none, queue) →
    lane.step replacing (.claim caller demand) = some after → after = lane

/-- Every record that left the queue has one of the two fates. -/
theorem length_removed (removed : List (Fate × Item Record)) : removed.length =
    (Fate.taken.among removed).length + (Fate.dropped.among removed).length := by
  induction removed with
  | nil => rfl
  | cons entry rest ih =>
    obtain ⟨fate, item⟩ := entry
    simp only [Fate.among, List.length_map] at ih ⊢
    cases fate with
    | taken =>
      simp only [List.filter_cons, decide_true, if_true, List.length_cons]
      simp only [reduceCtorEq, decide_false, Bool.false_eq_true, if_false]
      omega
    | dropped =>
      simp only [List.filter_cons, decide_true, if_true, List.length_cons]
      simp only [reduceCtorEq, decide_false, Bool.false_eq_true, if_false]
      omega

/-- A refused claim changes nothing. -/
theorem refused_unchanged (lawful : replacing.Lawful valid) (usable : valid lane.queue)
    {caller : Nat} {demand : Demand} {queue : Queue}
    (refused : replacing.claim demand lane.queue = .ok (none, queue))
    (stepped : lane.step replacing (.claim caller demand) = some after) : after = lane := by
  obtain ⟨free, stepped⟩ := Option.ite_none_left_eq_some.mp stepped
  have idle : lane.copying caller = none := by
    simp only [Bool.or_eq_true, not_or] at free
    simpa using free.2
  have unchanged : Function.update lane.copying caller none = lane.copying := by
    rw [← idle]
    exact Function.update_eq_self caller lane.copying
  obtain rfl := lawful.refused demand lane.queue queue usable refused
  simp only [refused, Option.map_none, unchanged, Option.toList_none, Fate.mark, List.map_nil,
    List.append_nil] at stepped
  exact (Option.some.inj stepped).symm

/-- Every reachable queue conserves and orders its records. -/
theorem reachable_conserving (lawful : replacing.Lawful valid)
    (reachable : (system replacing).Reachable lane) : lane.Conserving replacing valid := by
  have holds := reachable_invariant lawful reachable
  have conserved : lane.accepted.length = (Fate.taken.among lane.removed).length +
      (Fate.dropped.among lane.removed).length + (replacing.items lane.queue).length := by
    rw [← length_removed, holds.split, List.length_append, List.length_map]
  exact {
    sound := holds.sound
    queue := holds.queue
    suffix := ⟨_, holds.split.symm⟩
    conserved := conserved
    counted := holds.counted
    balance := by
      intro idle short
      have counted := holds.counted
      have bounded := lane.counter.toNat_lt
      rw [idle, List.sum_nil] at counted
      omega
    evicts := fun record fits => lawful.push (lane.accepted.length, record) lane.queue
      holds.queue fits
    copying := by
      intro caller item demand copying
      obtain ⟨taken, unseen, copies⟩ := holds.copying caller item demand copying
      refine ⟨?_, ?_, unseen, copies, ?_⟩
      · intro queued
        exact holds.queued_fresh queued .taken taken
      · intro dropped
        cases holds.fate_unique taken dropped
      · intro other demand' holding
        exact holds.apart other caller item demand' demand holding copying
    delivered := ⟨holds.once, holds.delivered⟩
    refused := fun _ _ _ _ refused stepped =>
      refused_unchanged lawful holds.queue refused stepped }

end Lane

end Plank.Queue
