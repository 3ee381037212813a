import Plank.Transition.System

/-!
# Reliable lanes over bounded queues

A lane has a queue at either end and a wire between them that loses and reorders nothing. Callers
offer records to the outgoing queue and demand records from the incoming one, and may be refused;
a worker at each end moves records between its queue and the wire, one at a time, and may end.
Every operation on a queue may fault. Whatever queues these are, once each operation only appends
or only removes at its end, nothing is lost, duplicated, altered or reordered, and nothing faults.
-/

namespace Plank.Queue

/-- The operations of the queues of a lane, each with the record it moved. -/
structure Discipline (Fault Queue Record Offer Demand : Type) where
  /-- The queue before the first record. -/
  empty : Queue
  /-- What a queue holds, oldest first. -/
  records : Queue → List Record
  /-- A caller offers a record. -/
  send : Offer → Queue → Except Fault (Option Record × Queue)
  /-- The sending worker takes the oldest record. -/
  take : Queue → Except Fault (Option Record × Queue)
  /-- Whether the receiving worker goes on after this record. -/
  allowed : Record → Bool
  /-- The receiving worker tries to store a record. -/
  push : Record → Queue → Except Fault (Option Record × Queue)
  /-- A caller demands a record. -/
  receive : Demand → Queue → Except Fault (Option Record × Queue)

namespace Discipline

variable {Fault Queue Record Offer Demand : Type}

/-- The outcome stores at most one record, behind all others. -/
def Appends (records : Queue → List Record) (valid : Queue → Prop) (before : Queue)
    (outcome : Except Fault (Option Record × Queue)) : Prop :=
  ∃ moved after, outcome = .ok (moved, after) ∧ valid after ∧
    records after = records before ++ moved.toList

/-- The outcome takes at most one record, from the front. -/
def Removes (records : Queue → List Record) (valid : Queue → Prop) (before : Queue)
    (outcome : Except Fault (Option Record × Queue)) : Prop :=
  ∃ moved after, outcome = .ok (moved, after) ∧ valid after ∧
    records before = moved.toList ++ records after

/-- What the operations of a lane keep to, on the queues that are valid. -/
structure Lawful (discipline : Discipline Fault Queue Record Offer Demand)
    (valid : Queue → Prop) : Prop where
  /-- The first queue is valid. -/
  empty : valid discipline.empty
  /-- It holds nothing. -/
  nothing : discipline.records discipline.empty = []
  /-- An offer appends. -/
  send : ∀ offer queue, valid queue →
    Appends discipline.records valid queue (discipline.send offer queue)
  /-- The sending worker removes. -/
  take : ∀ queue, valid queue → Removes discipline.records valid queue (discipline.take queue)
  /-- The receiving worker appends. -/
  push : ∀ record queue, valid queue → discipline.allowed record = true →
    Appends discipline.records valid queue (discipline.push record queue)
  /-- It stores the record it holds, if any. -/
  pushed : ∀ record queue other next,
    discipline.push record queue = .ok (some other, next) → other = record
  /-- A demand removes. -/
  receive : ∀ demand queue, valid queue →
    Removes discipline.records valid queue (discipline.receive demand queue)

end Discipline

/-- A lane. -/
structure Link (Fault Queue Record : Type) where
  /-- The queue of the sending side. -/
  outgoing : Queue
  /-- The record the sending worker took. -/
  sending : Option Record := none
  /-- Records between the two sides. -/
  wire : List Record := []
  /-- The record the receiving worker holds. -/
  receiving : Option Record := none
  /-- The queue of the receiving side. -/
  incoming : Queue
  /-- Whether the sending worker is at work. -/
  sender : Bool := true
  /-- Whether the receiving worker is at work. -/
  receiver : Bool := true
  /-- What went wrong. -/
  fault : Option Fault := none
  /-- Records accepted from callers, oldest first. -/
  accepted : List Record := []
  /-- Records delivered to callers, oldest first. -/
  delivered : List Record := []

/-- The steps of a lane. -/
inductive LinkAction (Offer Demand : Type) where
  /-- A caller offers a record. -/
  | send (offer : Offer)
  /-- The sending worker takes a record. -/
  | take
  /-- The sending worker passes it on. -/
  | transmit
  /-- The receiving worker reads a record. -/
  | arrive
  /-- The receiving worker tries to store it. -/
  | push
  /-- A caller demands a record. -/
  | receive (demand : Demand)
  /-- The sending worker ends. -/
  | endSender
  /-- The receiving worker ends. -/
  | endReceiver
  deriving DecidableEq, Repr

namespace Link

variable {Fault Queue Record Offer Demand : Type}
variable (discipline : Discipline Fault Queue Record Offer Demand)

/-- The outcome of an operation, or its fault. -/
def settle (link : Link Fault Queue Record) (outcome : Except Fault (Option Record × Queue))
    (next : Option Record → Queue → Link Fault Queue Record) : Link Fault Queue Record :=
  match outcome with
  | .error fault => { link with fault := some fault }
  | .ok (moved, queue) => next moved queue

/-- One step of a lane that has not faulted. -/
def step (link : Link Fault Queue Record) :
    LinkAction Offer Demand → Option (Link Fault Queue Record)
  | .send offer =>
    if link.fault.isSome then none
    else
      some <| link.settle (discipline.send offer link.outgoing) fun moved outgoing =>
        { link with outgoing, accepted := link.accepted ++ moved.toList }
  | .take =>
    if link.fault.isSome || !link.sender || link.sending.isSome then none
    else
      some <| link.settle (discipline.take link.outgoing) fun moved outgoing =>
        { link with outgoing, sending := moved }
  | .transmit =>
    match link.sending with
    | none => none
    | some record =>
      if link.sender then some { link with sending := none, wire := link.wire ++ [record] }
      else none
  | .arrive =>
    match link.wire with
    | [] => none
    | record :: wire =>
      if link.receiver && link.receiving.isNone then
        some { link with
          receiving := some record
          wire
          receiver := discipline.allowed record }
      else none
  | .push =>
    match link.receiving with
    | none => none
    | some record =>
      if link.fault.isSome || !link.receiver then none
      else
        some <| link.settle (discipline.push record link.incoming) fun moved incoming =>
          { link with incoming, receiving := if moved.isSome then none else some record }
  | .receive demand =>
    if link.fault.isSome then none
    else
      some <| link.settle (discipline.receive demand link.incoming) fun moved incoming =>
        { link with incoming, delivered := link.delivered ++ moved.toList }
  | .endSender => some { link with sender := false }
  | .endReceiver => some { link with receiver := false }

/-- All runs of a lane, from empty queues. -/
def system : Transition.System (Link Fault Queue Record) (LinkAction Offer Demand) where
  initial link := link = { outgoing := discipline.empty, incoming := discipline.empty }
  step := step discipline

/-- Everything accepted and not yet delivered, oldest first; what a worker held when it ended
stays where it was. -/
def pending (link : Link Fault Queue Record) : List Record :=
  discipline.records link.incoming ++ link.receiving.toList ++ link.wire ++ link.sending.toList ++
    discipline.records link.outgoing

/-- What the steps of a lane keep. -/
structure Invariant (valid : Queue → Prop) (link : Link Fault Queue Record) : Prop where
  /-- Nothing went wrong. -/
  sound : link.fault = none
  /-- The outgoing queue is valid. -/
  outgoing : valid link.outgoing
  /-- The incoming queue is valid. -/
  incoming : valid link.incoming
  /-- A worker that goes on holds a record it may store. -/
  holding : link.receiver = true → ∀ record, link.receiving = some record →
    discipline.allowed record = true
  /-- What was accepted is what was delivered, and then what is on its way. -/
  conserved : link.accepted = link.delivered ++ link.pending discipline

variable {discipline} {valid : Queue → Prop}

/-- A new lane satisfies the invariant. -/
theorem initial_invariant (lawful : discipline.Lawful valid) :
    Invariant discipline valid { outgoing := discipline.empty, incoming := discipline.empty } where
  sound := rfl
  outgoing := lawful.empty
  incoming := lawful.empty
  holding := by simp
  conserved := by simp [pending, lawful.nothing]

/-- Every step keeps the invariant. -/
theorem step_invariant (lawful : discipline.Lawful valid) {before after : Link Fault Queue Record}
    {action : LinkAction Offer Demand} (holds : before.Invariant discipline valid)
    (stepped : (system discipline).step before action = some after) :
    after.Invariant discipline valid := by
  have conserved := holds.conserved
  cases action <;> simp only [system, step] at stepped
  case send offer =>
    obtain ⟨moved, next, outcome, kept, appended⟩ :=
      lawful.send offer before.outgoing holds.outgoing
    rw [if_neg (by simp [holds.sound]), outcome] at stepped
    obtain rfl := Option.some.inj stepped
    exact { holds with
      outgoing := kept
      conserved := by simp [settle, pending, conserved, appended] }
  case take =>
    obtain ⟨moved, next, outcome, kept, removed⟩ := lawful.take before.outgoing holds.outgoing
    obtain ⟨free, stepped⟩ := Option.ite_none_left_eq_some.mp stepped
    have idle : before.sending = none := by
      simp only [Bool.or_eq_true, not_or] at free
      simpa using free.2
    rw [outcome] at stepped
    obtain rfl := Option.some.inj stepped
    exact { holds with
      outgoing := kept
      conserved := by simp [settle, pending, conserved, removed, idle] }
  case transmit =>
    cases held : before.sending with
    | none => simp [held] at stepped
    | some record =>
      simp only [held] at stepped
      obtain ⟨_, taken⟩ := Option.ite_none_right_eq_some.mp stepped
      obtain rfl := Option.some.inj taken
      exact { holds with conserved := by simp [pending, conserved, held] }
  case arrive =>
    cases waiting : before.wire with
    | nil => simp [waiting] at stepped
    | cons record wire =>
      simp only [waiting] at stepped
      obtain ⟨free, taken⟩ := Option.ite_none_right_eq_some.mp stepped
      have idle : before.receiving = none := by
        simp only [Bool.and_eq_true] at free
        simpa using free.2
      obtain rfl := Option.some.inj taken
      exact { holds with
        holding := by
          intro allowed other same
          obtain rfl := Option.some.inj same
          exact allowed
        conserved := by simp [pending, conserved, waiting, idle] }
  case push =>
    cases held : before.receiving with
    | none => simp [held] at stepped
    | some record =>
      simp only [held] at stepped
      obtain ⟨free, stepped⟩ := Option.ite_none_left_eq_some.mp stepped
      have going : before.receiver = true := by
        simp only [Bool.or_eq_true, not_or] at free
        simpa using free.2
      obtain ⟨moved, next, outcome, kept, appended⟩ :=
        lawful.push record before.incoming holds.incoming (holds.holding going record held)
      rw [outcome] at stepped
      obtain rfl := Option.some.inj stepped
      cases moved with
      | none =>
        exact { holds with
          incoming := kept
          holding := by
            rintro _ other same
            exact holds.holding going other (held.trans same)
          conserved := by simp [settle, pending, conserved, held, appended] }
      | some stored =>
        obtain rfl := lawful.pushed record before.incoming stored next outcome
        exact { holds with
          incoming := kept
          holding := by simp [settle]
          conserved := by simp [settle, pending, conserved, held, appended] }
  case receive demand =>
    obtain ⟨moved, next, outcome, kept, removed⟩ :=
      lawful.receive demand before.incoming holds.incoming
    rw [if_neg (by simp [holds.sound]), outcome] at stepped
    obtain rfl := Option.some.inj stepped
    exact { holds with
      incoming := kept
      conserved := by simp [settle, pending, conserved, removed] }
  case endSender =>
    obtain rfl := Option.some.inj stepped
    exact { holds with }
  case endReceiver =>
    obtain rfl := Option.some.inj stepped
    exact { holds with holding := by simp }

/-- Every reachable lane satisfies the invariant. -/
theorem reachable_invariant (lawful : discipline.Lawful valid) {link : Link Fault Queue Record}
    (reachable : (system discipline).Reachable link) : link.Invariant discipline valid :=
  Transition.System.Preserves.reachable
    (fun _ _ _ holds stepped => step_invariant lawful holds stepped)
    (fun _ start => start ▸ initial_invariant lawful) reachable

end Link

end Plank.Queue
