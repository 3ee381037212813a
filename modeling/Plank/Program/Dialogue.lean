import Mathlib.Logic.Relation

/-!
# Dialogues

A program that asks its surroundings one query after the other, and may be disturbed between any two
of them. A discipline says what may be asked where, such that an invariant is kept; a dialogue that
obeys it asks nothing else, whatever it is answered and however it is disturbed.
-/

namespace Plank

/-- A program that asks queries, or is done. -/
inductive Dialogue (Query : Type) (Answer : Query → Type) (Result : Type) where
  /-- It is done, with a result. -/
  | done (result : Result)
  /-- It asks a query and goes on as it is answered. -/
  | ask (query : Query) (next : Answer query → Dialogue Query Answer Result)

/-- Surroundings that answer and disturb, and what keeps them in order. -/
structure Discipline (Query : Type) (Answer : Query → Type) (State : Type) where
  /-- What an answer makes of a state, where it is possible. -/
  respond : State → (query : Query) → Answer query → Option State
  /-- What others can make of a state. -/
  disturbs : State → State → Prop
  /-- The invariant. -/
  keeps : State → Prop
  /-- What may be asked in a state. -/
  allowed : Query → State → Prop
  /-- An answer to what may be asked keeps the invariant. -/
  keeps_respond : ∀ state query answer after, keeps state → allowed query state →
    respond state query answer = some after → keeps after
  /-- So do the others. -/
  keeps_disturbs : ∀ state after, disturbs state after → keeps state → keeps after

namespace Dialogue

variable {Query : Type} {Answer : Query → Type} {Result Other State : Type}

/-- One dialogue and then another, which depends on the result. -/
def bind : Dialogue Query Answer Result → (Result → Dialogue Query Answer Other) →
    Dialogue Query Answer Other
  | done result, next => next result
  | ask query answered, next => ask query fun answer => (answered answer).bind next

/-- The query that a dialogue asks next. -/
def asks : Dialogue Query Answer Result → Option Query
  | done _ => none
  | ask query _ => some query

/-- A dialogue that is answered as is chosen, and not disturbed. -/
def answered (respond : State → (query : Query) → Answer query → Option State)
    (chosen : State → (query : Query) → Answer query) :
    Dialogue Query Answer Result → State → Option (Result × State)
  | done result, state => some (result, state)
  | ask query next, state => do
    let after ← respond state query (chosen state query)
    (next (chosen state query)).answered respond chosen after

/-- A query is answered as is chosen. -/
theorem answered_ask {respond : State → (query : Query) → Answer query → Option State}
    {chosen : State → (query : Query) → Answer query} {query : Query}
    {next : Answer query → Dialogue Query Answer Result} {state after : State}
    {answer : Answer query} (choice : chosen state query = answer)
    (responds : respond state query answer = some after) :
    (ask query next).answered respond chosen state =
      (next answer).answered respond chosen after := by
  subst choice
  show Option.bind _ _ = _
  rw [responds, Option.bind_some]

/-- Dialogues in order are answered in order. -/
theorem answered_bind {respond : State → (query : Query) → Answer query → Option State}
    {chosen : State → (query : Query) → Answer query} (first : Dialogue Query Answer Result)
    (next : Result → Dialogue Query Answer Other) (state : State) :
    (first.bind next).answered respond chosen state = (first.answered respond chosen state).bind
      fun result => (next result.1).answered respond chosen result.2 := by
  induction first generalizing state with
  | done result => rfl
  | ask query rest ih =>
    simp only [bind, answered, Option.bind_eq_bind, Option.bind_assoc]
    congr 1
    funext after
    exact ih _ after

variable (discipline : Discipline Query Answer State)

/-- A property that no disturbance ends. -/
def Stable (property : State → Prop) : Prop :=
  ∀ state after, discipline.disturbs state after → property state → property after

/-- A dialogue asks what is allowed wherever it comes to, and ends with a property. -/
def Obeys (ensures : Result → State → Prop) : Dialogue Query Answer Result → State → Prop
  | done result, state =>
    ∀ found, Relation.ReflTransGen discipline.disturbs state found → discipline.keeps found →
      ensures result found
  | ask query next, state =>
    ∀ found, Relation.ReflTransGen discipline.disturbs state found → discipline.keeps found →
      discipline.allowed query found ∧ ∀ answer after,
        discipline.respond found query answer = some after → (next answer).Obeys ensures after

variable {discipline}

/-- A stable property outlasts any number of disturbances. -/
theorem Stable.reaches {property : State → Prop} (stable : Stable discipline property)
    {state found : State} (reaches : Relation.ReflTransGen discipline.disturbs state found)
    (holds : property state) : property found := by
  induction reaches with
  | refl => exact holds
  | tail _ disturbs ih => exact stable _ _ disturbs ih

variable {ensures : Result → State → Prop}

/-- A dialogue still obeys when it has been disturbed. -/
theorem Obeys.disturbed {dialogue : Dialogue Query Answer Result} {state after : State}
    (obeys : dialogue.Obeys discipline ensures state)
    (disturbs : discipline.disturbs state after) : dialogue.Obeys discipline ensures after := by
  cases dialogue with
  | done result => exact fun found reaches => obeys found (.head disturbs reaches)
  | ask query next => exact fun found reaches => obeys found (.head disturbs reaches)

/-- What an obeying dialogue asks is allowed. -/
theorem Obeys.allowed {query : Query} {next : Answer query → Dialogue Query Answer Result}
    {state : State} (obeys : (ask query next).Obeys discipline ensures state)
    (keeps : discipline.keeps state) : discipline.allowed query state :=
  (obeys state .refl keeps).1

/-- An obeying dialogue obeys further when it has been answered. -/
theorem Obeys.answers {query : Query} {next : Answer query → Dialogue Query Answer Result}
    {state after : State} {answer : Answer query}
    (obeys : (ask query next).Obeys discipline ensures state) (keeps : discipline.keeps state)
    (responds : discipline.respond state query answer = some after) :
    (next answer).Obeys discipline ensures after :=
  (obeys state .refl keeps).2 answer after responds

/-- An obeying dialogue that is done has the property. -/
theorem Obeys.ends {result : Result} {state : State}
    (obeys : (done result : Dialogue Query Answer Result).Obeys discipline ensures state)
    (keeps : discipline.keeps state) : ensures result state :=
  obeys state .refl keeps

/-- An obeying dialogue that is answered as is chosen ends with the property. -/
theorem Obeys.of_answered {chosen : State → (query : Query) → Answer query}
    {dialogue : Dialogue Query Answer Result} {result : Result} {state after : State}
    (obeys : dialogue.Obeys discipline ensures state) (keeps : discipline.keeps state)
    (answered : dialogue.answered discipline.respond chosen state = some (result, after)) :
    ensures result after := by
  induction dialogue generalizing state with
  | done other =>
    obtain ⟨rfl, rfl⟩ := Prod.mk.inj (Option.some.inj answered)
    exact obeys.ends keeps
  | ask query next ih =>
    obtain ⟨found, responds, rest⟩ := Option.bind_eq_some_iff.mp answered
    exact ih _ (obeys.answers keeps responds)
      (discipline.keeps_respond state query _ found keeps (obeys.allowed keeps) responds) rest

/-- The rule for a dialogue that is done. -/
theorem obeys_done {property : State → Prop} {result : Result} {state : State}
    (stable : Stable discipline property) (holds : property state)
    (suffices_end : ∀ found, discipline.keeps found → property found → ensures result found) :
    (done result : Dialogue Query Answer Result).Obeys discipline ensures state :=
  fun found reaches keeps => suffices_end found keeps (stable.reaches reaches holds)

/-- The rule for a query: what is known is stable, and lets it be asked. -/
theorem obeys_ask {property : State → Prop} {query : Query}
    {next : Answer query → Dialogue Query Answer Result} {state : State}
    (stable : Stable discipline property) (holds : property state)
    (allows : ∀ found, discipline.keeps found → property found → discipline.allowed query found)
    (goes : ∀ found answer after, discipline.keeps found → property found →
      discipline.respond found query answer = some after →
        (next answer).Obeys discipline ensures after) :
    (ask query next).Obeys discipline ensures state :=
  fun found reaches keeps => ⟨allows found keeps (stable.reaches reaches holds),
    fun answer after => goes found answer after keeps (stable.reaches reaches holds)⟩

/-- A dialogue that ends with a property ends with a weaker one. -/
theorem Obeys.weaken {weaker : Result → State → Prop} {dialogue : Dialogue Query Answer Result}
    {state : State} (obeys : dialogue.Obeys discipline ensures state)
    (suffices_end : ∀ result found, discipline.keeps found → ensures result found →
      weaker result found) : dialogue.Obeys discipline weaker state := by
  induction dialogue generalizing state with
  | done result =>
    exact fun found reaches keeps => suffices_end result found keeps (obeys found reaches keeps)
  | ask query next ih =>
    intro found reaches keeps
    obtain ⟨allowed, answers⟩ := obeys found reaches keeps
    exact ⟨allowed, fun answer after responds => ih answer (answers answer after responds)⟩

/-- The rule for dialogues in order. -/
theorem Obeys.bind {first : Dialogue Query Answer Other}
    {next : Other → Dialogue Query Answer Result} {between : Other → State → Prop} {state : State}
    (obeys : first.Obeys discipline between state) (keeps : discipline.keeps state)
    (goes : ∀ result found, discipline.keeps found → between result found →
      (next result).Obeys discipline ensures found) :
    (first.bind next).Obeys discipline ensures state := by
  induction first generalizing state with
  | done result => exact goes result state keeps (obeys.ends keeps)
  | ask query rest ih =>
    intro found reaches kept
    obtain ⟨allowed, answers⟩ := obeys found reaches kept
    exact ⟨allowed, fun answer after responds => ih answer (answers answer after responds)
      (discipline.keeps_respond found query answer after kept allowed responds)⟩

end Dialogue

end Plank
