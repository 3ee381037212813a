import Mathlib
import Plank.Transition.System

/-!
# The start of the desktop worker

`desktop-start.m` asks launchd for the desktop worker of the session that the console record names,
again after a worker has exited, ten times at most. All of it runs on the main queue: the
notifications that the record changed, the completions of launchctl, the exits of workers and the
retry timers follow one another there in any order, and each of them first looks at the record as it
is by then. An observer counts the changes that are seen, and keeps the launches and the exits.
-/

namespace Plank.Session

/-! ### The console record -/

/-- A property list, as far as the record is read. -/
inductive ConsoleValue where
  /-- `NSString`. -/
  | string (text : String)
  /-- `NSNumber`, if it is finite. -/
  | number (value : Option ℚ)
  /-- `kCFBooleanTrue` or `kCFBooleanFalse`. -/
  | bool (value : Bool)
  /-- `NSArray`. -/
  | array (values : List ConsoleValue)
  /-- `NSDictionary`. -/
  | dictionary (fields : List (String × ConsoleValue))
  /-- Anything else. -/
  | other

/-- The entries of a dictionary. -/
abbrev ConsoleFields := List (String × ConsoleValue)

/-- `PLANKMacScopeNumber`. -/
def scopeNumber : Option ConsoleValue → Option UInt32
  | some (.number (some value)) =>
    if value.den = 1 ∧ 0 ≤ value.num ∧ value.num ≤ 4294967295 then
      some (UInt32.ofNat value.num.toNat)
    else none
  | _ => none

/-- Whether a value is `kCFBooleanTrue`. -/
def isTrue : Option ConsoleValue → Bool
  | some (.bool value) => value
  | _ => false

/-- The search for the one record of `SessionInfo` that is on the console. -/
def activeRecord : List ConsoleValue → Option ConsoleFields → Option ConsoleFields
  | [], active => active
  | .dictionary fields :: rest, active =>
    if isTrue (fields.lookup "kCGSSessionOnConsoleKey") then
      match active with
      | some _ => none
      | none => activeRecord rest (some fields)
    else activeRecord rest active
  | _ :: _, _ => none

/-- `active`. -/
def activeOf : Option ConsoleValue → Option ConsoleFields
  | some (.array sessions) => if sessions.length ≤ 32 then activeRecord sessions none else none
  | _ => none

/-- The audit session of a user in `SessionInfo`. -/
def auditOf (uid : UInt32) (sessions : Option ConsoleValue) : Option UInt32 :=
  match activeOf sessions with
  | some active =>
    match scopeNumber (active.lookup "kCGSSessionUserIDKey"),
      scopeNumber (active.lookup "kCGSSessionAuditIDKey") with
    | some sessionUid, some audit =>
      if isTrue (active.lookup "kCGSessionLoginDoneKey") ∧ sessionUid = uid ∧ audit ≠ 0 ∧
          audit ≠ 0xffffffff then some audit
      else none
    | _, _ => none
  | none => none

/-- The user that a console record names, if one may be logged in. -/
def consoleUser (fields : ConsoleFields) : Option UInt32 :=
  match fields.lookup "Name", scopeNumber (fields.lookup "UID") with
  | some (.string name), some uid =>
    if name ≠ "" ∧ name ≠ "loginwindow" ∧ uid ≠ 0 ∧ uid ≠ 0xffffffff then some uid else none
  | _, _ => none

/-- `uid` and `audit` as `PLANKMacDesktopStartObserve` reads them. -/
def sessionOf : Option ConsoleValue → UInt32 × UInt32
  | some (.dictionary fields) =>
    match consoleUser fields with
    | some uid =>
      match auditOf uid (fields.lookup "SessionInfo") with
      | some audit => (uid, audit)
      | none => (0, 0)
    | none => (0, 0)
  | _ => (0, 0)

/-! ### The state -/

/-- `PLANKMacDesktopStartState`. -/
structure DesktopStartState where
  /-- `uid` and `audit`. -/
  session : UInt32 × UInt32 := (0, 0)
  /-- `attempts`. -/
  attempts : Nat := 0
  /-- `finished`. -/
  finished : Bool := false
  /-- `workerExited`. -/
  workerExited : Bool := false
  deriving DecidableEq, Repr

namespace DesktopStartState

/-- `PLANKMacDesktopStartObserve`. -/
def observe (state : DesktopStartState) (console : Option ConsoleValue) :
    Bool × DesktopStartState :=
  if state.session ≠ sessionOf console then (true, { session := sessionOf console })
  else (false, state)

/-- Whether there is a session to start a worker for, and budget left. -/
def wanted (state : DesktopStartState) : Bool :=
  state.session.1 != 0 && state.session.2 != 0 && !state.finished && state.attempts < 10

/-- `PLANKMacDesktopStartNext`, where it returns `YES`. -/
def next (state : DesktopStartState) : Option DesktopStartState :=
  if state.wanted then some { state with attempts := state.attempts + 1, workerExited := false }
  else none

/-- `PLANKMacDesktopStartComplete`. -/
def complete (state : DesktopStartState) (session : UInt32 × UInt32) (success : Bool) :
    DesktopStartState :=
  if state.session ≠ session then state
  else { state with finished := success && !state.workerExited }

/-- `PLANKMacDesktopStartExited`, where it returns `YES`. -/
def exited (state : DesktopStartState) (session : UInt32 × UInt32) : Option DesktopStartState :=
  if session.1 = 0 ∨ session.2 = 0 ∨ state.session ≠ session then none
  else some { state with workerExited := true, finished := false }

/-- `PLANKMacDesktopStartRetrySeconds`. -/
def retrySeconds (state : DesktopStartState) : Nat :=
  if state.wanted then 1 <<< min (state.attempts - 1) 4 else 0

end DesktopStartState

/-! ### The starter -/

/-- A launch of launchctl. -/
structure StartTask where
  /-- The session it was launched for. -/
  session : UInt32 × UInt32
  /-- The changes that had been seen by then. -/
  epoch : Nat
  /-- Which launch it is, from one. -/
  serial : Nat
  deriving DecidableEq, Repr

/-- A retry timer. -/
structure RetryTimer where
  /-- `delay`. -/
  delay : Nat
  /-- `generation`. -/
  generation : UInt64
  /-- How often the generation had been changed, without wrapping. -/
  issued : Nat
  deriving DecidableEq, Repr

/-- An exit of the worker of the current session. -/
structure WorkerExit where
  /-- The session. -/
  session : UInt32 × UInt32
  /-- The launches up to then. -/
  launches : Nat
  deriving DecidableEq, Repr

/-- `PLANKMacDesktopStart`, what it waits for, and what an observer keeps. -/
structure DesktopStart where
  /-- Whether there is a `_store`. -/
  store : Bool := false
  /-- `_state`. -/
  state : DesktopStartState := {}
  /-- `_task`. -/
  task : Option StartTask := none
  /-- `_stopped`. -/
  stopped : Bool := false
  /-- `_retryPending`. -/
  retryPending : Bool := false
  /-- `_retryGeneration`. -/
  retryGeneration : UInt64 := 0
  /-- The console record. -/
  console : Option ConsoleValue := none
  /-- The record has changed, and the notification of it waits. -/
  notify : Bool := false
  /-- The tasks that run. -/
  running : List StartTask := []
  /-- The completions that wait, with whether they succeeded. -/
  ended : List (StartTask × Bool) := []
  /-- The retry timers that wait. -/
  timers : List RetryTimer := []
  /-- The changes that have been seen. -/
  epoch : Nat := 0
  /-- How often the generation was changed. -/
  generations : Nat := 0
  /-- All launches, oldest first. -/
  launched : List StartTask := []
  /-- The exits for the session that was current, oldest first. -/
  exits : List WorkerExit := []
  /-- The launch whose completion set `finished`. -/
  finishedBy : Option StartTask := none

namespace DesktopStart

/-- `-observeConsole`. -/
def observeConsole (start : DesktopStart) : DesktopStart :=
  match start.state.observe start.console with
  | (true, state) =>
    { start with
      state, retryGeneration := start.retryGeneration + 1, retryPending := false
      epoch := start.epoch + 1, generations := start.generations + 1 }
  | (false, _) => start

/-- `-retry`. -/
def retry (start : DesktopStart) : DesktopStart :=
  let delay := start.state.retrySeconds
  if start.stopped ∨ start.task.isSome ∨ start.retryPending ∨ delay = 0 then start
  else
    { start with
      retryPending := true, retryGeneration := start.retryGeneration + 1
      generations := start.generations + 1
      timers := start.timers ++ [⟨delay, start.retryGeneration + 1, start.generations + 1⟩] }

/-- The launch of a task; `launches` tells whether launchctl can be invoked. -/
def launch (start : DesktopStart) (state : DesktopStartState) (launches : Bool) : DesktopStart :=
  let task : StartTask := ⟨state.session, start.epoch, start.launched.length + 1⟩
  let attempted : DesktopStart := { start with state, launched := start.launched ++ [task] }
  if launches then { attempted with task := some task, running := start.running ++ [task] }
  else attempted.retry

/-- `-refresh`. -/
def refresh (start : DesktopStart) (launches : Bool) : DesktopStart :=
  if start.stopped then start
  else
    let seen := start.observeConsole
    if seen.task.isSome ∨ seen.retryPending then seen
    else
      match seen.state.next with
      | some state => seen.launch state launches
      | none => seen

/-- The completion of a task, once the record has been looked at. -/
def complete (seen : DesktopStart) (task : StartTask) (success : Bool) : DesktopStart :=
  if seen.state.session = task.session then
    let state := seen.state.complete task.session success
    { seen with
      state, finishedBy := if state.finished then some task else seen.finishedBy }.retry
  else seen.retry

/-- The completion of a task, on the main queue. -/
def completed (start : DesktopStart) (task : StartTask) (success : Bool) : DesktopStart :=
  if start.stopped ∨ start.task ≠ some task then start
  else { start with task := none }.observeConsole.complete task success

/-- `-desktopProcessExitedForUID:audit:`. -/
def desktopProcessExited (start : DesktopStart) (session : UInt32 × UInt32) : DesktopStart :=
  if start.stopped ∨ !start.store then start
  else
    let seen := start.observeConsole
    match seen.state.exited session with
    | some state =>
      { seen with state, exits := seen.exits ++ [WorkerExit.mk session seen.launched.length] }.retry
    | none => seen

/-- A retry timer fires. -/
def fire (start : DesktopStart) (timer : RetryTimer) (launches : Bool) : DesktopStart :=
  if start.stopped ∨ start.retryGeneration ≠ timer.generation then start
  else { start with retryPending := false }.refresh launches

/-- `-stop`. -/
def stop (start : DesktopStart) : DesktopStart :=
  { start with
    stopped := true, retryGeneration := start.retryGeneration + 1
    generations := start.generations + 1, retryPending := false, store := false, task := none }

/-- `-start`; `registers` tells whether the record can be observed. -/
def start (start : DesktopStart) (root registers launches : Bool) : DesktopStart :=
  if !root ∨ start.store ∨ start.stopped then start
  else if registers then { start with store := true }.refresh launches
  else start.stop

/-- What happens next. -/
inductive Label where
  /-- `-start`. -/
  | start (root registers launches : Bool)
  /-- The console record changes. -/
  | change (console : Option ConsoleValue)
  /-- The notification of a change. -/
  | notification (launches : Bool)
  /-- A task that runs ends. -/
  | ends (index : Nat) (success : Bool)
  /-- The completion of a task. -/
  | completes (index : Nat)
  /-- The worker of a session has exited. -/
  | exits (session : UInt32 × UInt32)
  /-- A retry timer fires. -/
  | fires (index : Nat) (launches : Bool)
  /-- `-stop`. -/
  | stop

/-- One step. -/
def step (start : DesktopStart) : Label → Option DesktopStart
  | .start root registers launches => some (start.start root registers launches)
  -- Every change is followed by a notification, once the record is observed.
  | .change console => some { start with console, notify := start.notify || start.store }
  | .notification launches =>
    if start.store then some { start.refresh launches with notify := false } else none
  | .ends index success =>
    start.running[index]?.map fun task =>
      { start with
        running := start.running.eraseIdx index, ended := start.ended ++ [(task, success)] }
  | .completes index =>
    start.ended[index]?.map fun ended =>
      { start with ended := start.ended.eraseIdx index }.completed ended.1 ended.2
  | .exits session => some (start.desktopProcessExited session)
  | .fires index launches =>
    start.timers[index]?.map fun timer =>
      { start with timers := start.timers.eraseIdx index }.fire timer launches
  | .stop => some start.stop

/-- Every order of changes, notifications, completions, exits and timers. -/
def system : Transition.System DesktopStart Label where
  initial start := ∃ console, start = { console }
  step := step

end DesktopStart

end Plank.Session
