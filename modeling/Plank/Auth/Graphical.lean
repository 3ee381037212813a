import Plank.Auth.Policy
import Plank.Transition.System

/-!
# Graphical authority

`graphical-authority.m`: a process holds authority over its graphical session while observations of
it are fresh. The observation runs outside the lock, so a refresh is three steps: the clock is read,
the lock is taken to check, and the lock is taken again with the reply. Any number of refreshes
overlap. Times are nanoseconds of the monotonic clock. An observer keeps a trace, newest first.
-/

namespace Plank.Auth

/-- `MaximumObservationAge`. -/
def maximumObservationAge : Nat := 1000000000

/-- What a positive `readGraphical` reports. -/
structure Observation where
  /-- The account, zero at the sign-in screen. -/
  account : AccountIdentity
  /-- The security session. -/
  session : Nat
  deriving DecidableEq, Repr

/-- What an observer of the authority sees. -/
inductive AuthorityEvent where
  /-- `revoke`. -/
  | revoked
  /-- The reply of an observation begun at this time; whether it shows the initial scope. -/
  | completed (began : Nat) (matched : Bool)
  /-- `snapshot` at this time; whether it is active. -/
  | snapshot (now : Nat) (active : Bool)
  deriving DecidableEq, Repr

/-- Where the initialiser is. -/
inductive Initialiser where
  /-- Subscribed to the notifications. -/
  | subscribed
  /-- Observing since this time. -/
  | observing (began : Nat)
  /-- The authority is handed out. -/
  | done
  deriving DecidableEq, Repr

/-- Where a refresh is. -/
structure Refresh where
  /-- When it read the clock. -/
  began : Nat
  /-- Whether it has passed the first check. -/
  observing : Bool
  deriving DecidableEq, Repr

/-- `PLANKMacGraphicalAuthority` with the calls in progress. -/
structure GraphicalAuthority where
  /-- `_initial`. -/
  initial : GraphicalIdentity
  /-- `_sessionID`. -/
  sessionID : Nat := 0
  /-- `_revoked`. -/
  revoked : Bool := true
  /-- `_notified`. -/
  notified : Bool := false
  /-- `_checkedAt`. -/
  checkedAt : Nat := 0
  /-- `authorityNow`. -/
  clock : Nat := 0
  /-- The initialiser. -/
  initialiser : Initialiser := .subscribed
  /-- Refreshes in progress. -/
  refreshes : List Refresh := []
  /-- What an observer saw, newest first. -/
  trace : List AuthorityEvent := []
  deriving DecidableEq, Repr

/-- Everything that can happen next. -/
inductive AuthorityLabel where
  /-- Time passes. -/
  | advance (duration : Nat)
  /-- The initialiser reads the clock. -/
  | initBegin
  /-- The reply of its observation, and the generation it draws. -/
  | initEnd (observation : Option Observation) (generation : Option UInt64)
  /-- `refresh` reads the clock. -/
  | refreshBegin
  /-- The first check of a refresh. -/
  | refreshCheck (index : Nat)
  /-- The reply of the observation of a refresh. -/
  | refreshEnd (index : Nat) (observation : Option Observation)
  /-- `snapshot`. -/
  | snapshot
  /-- `revoke`. -/
  | revoke
  deriving DecidableEq, Repr

namespace GraphicalAuthority

/-- Write an event down. -/
def note (authority : GraphicalAuthority) (event : AuthorityEvent) : GraphicalAuthority :=
  { authority with trace := event :: authority.trace }

/-- Whether the last observation is too old, or was begun in the future. -/
def expired (authority : GraphicalAuthority) (now : Nat) : Bool :=
  now < authority.checkedAt || now - authority.checkedAt ≥ maximumObservationAge

/-- Whether an observation shows the initial scope. -/
def matched (authority : GraphicalAuthority) : Option Observation → Bool
  | none => false
  | some observation => observation.session = authority.sessionID &&
      observation.account.uid = authority.initial.account.uid &&
      observation.account.uuid = authority.initial.account.uuid

/-- The end of `initWithPhase`. -/
def initEnd (authority : GraphicalAuthority) (began : Nat) (observation : Option Observation)
    (generation : Option UInt64) : GraphicalAuthority :=
  let authority := { authority.note (.completed began observation.isSome) with
    initialiser := .done }
  match observation, generation with
  | some observation, some generation =>
    let drawn := { authority with initial := { authority.initial with generation } }
    if authority.notified || authority.clock - began ≥ maximumObservationAge then authority
    else if generation = 0 then drawn
    else
      { drawn with
        initial := { drawn.initial with account := observation.account, active := true }
        sessionID := observation.session
        checkedAt := began
        revoked := false }
  | _, _ => authority

/-- The first check of `refresh`. -/
def refreshCheck (authority : GraphicalAuthority) (index began : Nat) : GraphicalAuthority :=
  if authority.revoked || authority.expired began then
    { authority with revoked := true, refreshes := authority.refreshes.eraseIdx index }
  else { authority with refreshes := authority.refreshes.set index ⟨began, true⟩ }

/-- The second check of `refresh`. -/
def refreshEnd (authority : GraphicalAuthority) (index began : Nat)
    (observation : Option Observation) : GraphicalAuthority :=
  let matched := authority.matched observation
  let authority := { authority.note (.completed began matched) with
    refreshes := authority.refreshes.eraseIdx index }
  if authority.revoked || authority.expired authority.clock || !matched then
    { authority with revoked := true }
  else { authority with checkedAt := began }

/-- `snapshot`. -/
def snapshot (authority : GraphicalAuthority) : GraphicalAuthority × GraphicalIdentity :=
  if authority.revoked || authority.expired authority.clock then
    ({ authority.note (.snapshot authority.clock false) with revoked := true }, {})
  else (authority.note (.snapshot authority.clock authority.initial.active), authority.initial)

/-- `revoke`. -/
def revoke (authority : GraphicalAuthority) : GraphicalAuthority :=
  { authority.note .revoked with notified := true, revoked := true }

/-- The effect of one label. -/
def step (authority : GraphicalAuthority) : AuthorityLabel → Option GraphicalAuthority
  | .advance duration => some { authority with clock := authority.clock + duration }
  | .initBegin =>
    match authority.initialiser with
    | .subscribed => some { authority with initialiser := .observing authority.clock }
    | _ => none
  | .initEnd observation generation =>
    match authority.initialiser with
    | .observing began => some (authority.initEnd began observation generation)
    | _ => none
  | .refreshBegin =>
    if authority.initialiser = .done then
      some { authority with refreshes := authority.refreshes ++ [⟨authority.clock, false⟩] }
    else none
  | .refreshCheck index =>
    match authority.refreshes[index]? with
    | some ⟨began, false⟩ => some (authority.refreshCheck index began)
    | _ => none
  | .refreshEnd index observation =>
    match authority.refreshes[index]? with
    | some ⟨began, true⟩ => some (authority.refreshEnd index began observation)
    | _ => none
  | .snapshot => if authority.initialiser = .done then some authority.snapshot.1 else none
  | .revoke => some authority.revoke

/-- Every run of an authority over a phase. -/
def system : Transition.System GraphicalAuthority AuthorityLabel where
  initial authority := ∃ phase, (phase = .desktop ∨ phase = .signIn) ∧
    authority = { initial := { phase } }
  step := step

/-- A snapshot at this time would be active. -/
def ActiveAt (authority : GraphicalAuthority) (now : Nat) : Prop :=
  authority.revoked = false ∧ authority.expired now = false

end GraphicalAuthority

end Plank.Auth
