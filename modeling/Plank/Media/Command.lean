import Plank.Trace.Law
import Plank.Transport.Bytes

/-!
# Commands for a reverse device

The client numbers its commands for a device, and the session of the device acknowledges the last
one with the state the device is in. `camera-session.m` and `microphone-session.m` share this desk:
the last command, the activation that frames are taken for, the state, and whether an
acknowledgement is due. The log, newest first, is what an observer sees.
-/

namespace Plank.Media

/-- `PLANK_TRANSPORT_CAMERA_*` and `PLANK_TRANSPORT_MICROPHONE_*`. -/
inductive DeviceState where
  /-- 0: off. -/
  | off
  /-- 1: being switched on. -/
  | pending
  /-- 2: taking frames. -/
  | active
  /-- 3: failed. -/
  | unavailable
  deriving DecidableEq, Repr

/-- The number of a state. -/
def DeviceState.code : DeviceState → UInt32
  | .off => 0
  | .pending => 1
  | .active => 2
  | .unavailable => 3

/-- What an observer sees of a session. -/
inductive CommandEvent where
  /-- A command is accepted. -/
  | accepted (command : UInt64)
  /-- The device enters a state. -/
  | entered (state : DeviceState)
  /-- An acknowledgement of these words is sent. -/
  | acknowledged (words : List UInt32)
  /-- The transport lane is activated. -/
  | activated (generation : UInt64)
  /-- The transport lane is deactivated. -/
  | deactivated
  /-- The session fails. -/
  | failed
  /-- A frame of a generation is handed to the device. -/
  | handed (generation : UInt64)
  /-- A key frame of a generation is requested. -/
  | requested (generation : UInt64)
  deriving DecidableEq, Repr

/-- The words of an acknowledgement. -/
def ackWords (command : UInt64) (state : UInt32) : List UInt32 :=
  [(command >>> 32).toUInt32, command.toUInt32, state]

/-- The command and the state of an acknowledgement. -/
def readWords : List UInt32 → Option (UInt64 × UInt32)
  | [high, low, state] => some (high.toUInt64 <<< 32 ||| low.toUInt64, state)
  | _ => none

/-- The last accepted command. -/
def commandOf : List CommandEvent → UInt64
  | [] => 0
  | .accepted command :: _ => command
  | _ :: earlier => commandOf earlier

/-- The state of the device. -/
def stateOf : List CommandEvent → DeviceState
  | [] => .off
  | .entered state :: _ => state
  | _ :: earlier => stateOf earlier

/-- The last acknowledgement. -/
def acknowledgedOf : List CommandEvent → Option (UInt64 × UInt32)
  | [] => none
  | .acknowledged words :: _ => readWords words
  | _ :: earlier => acknowledgedOf earlier

/-- The generation that the lane is activated for. -/
def activeOf : List CommandEvent → UInt64
  | [] => 0
  | .activated generation :: _ => generation
  | .accepted _ :: _ | .failed :: _ | .deactivated :: _ => 0
  | _ :: earlier => activeOf earlier

/-- The command that may be activated: the last one, unless the session failed after it. -/
def permitted : List CommandEvent → Option UInt64
  | [] => none
  | .accepted command :: _ => some command
  | .failed :: _ => none
  | _ :: earlier => permitted earlier

/-- Whether the lane was deactivated after the last command and the last failure. -/
def closed : List CommandEvent → Bool
  | [] => true
  | .deactivated :: _ => true
  | .accepted _ :: _ | .failed :: _ => false
  | _ :: earlier => closed earlier

/-- What holds of an event and what came before it. -/
def commandLaw (earlier : List CommandEvent) : CommandEvent → Prop
  | .accepted command => commandOf earlier < command
  | .acknowledged words => readWords words = some (commandOf earlier, (stateOf earlier).code)
  | .activated generation => permitted earlier = some generation ∧ closed earlier = true
  | .handed generation | .requested generation =>
    generation ≠ 0 ∧ generation = activeOf earlier
  | _ => True

/-- Whether an event ends an activation. -/
def CommandEvent.Stops : CommandEvent → Prop
  | .accepted _ | .failed => True
  | _ => False

section Log

variable {log middle earlier : List CommandEvent} {stop : CommandEvent} {generation : UInt64}

/-- Every accepted command is at most the last one. -/
theorem accepted_le (lawful : Trace.Each commandLaw log) {command : UInt64}
    (accepted : CommandEvent.accepted command ∈ log) : command ≤ commandOf log := by
  induction log with
  | nil => exact absurd accepted List.not_mem_nil
  | cons event log ih =>
    have rest : Trace.Each commandLaw log := fun later happened before split =>
      lawful (event :: later) happened before (by rw [split]; rfl)
    have head := lawful.head
    cases List.mem_cons.mp accepted with
    | inl same =>
      rw [← same]
      exact UInt64.le_refl _
    | inr old =>
      have below := ih rest old
      cases event with
      | accepted next => exact UInt64.le_of_lt (UInt64.lt_of_le_of_lt below head)
      | _ => exact below

/-- A lane that is active was activated after the last stop. -/
theorem activated_of_active (stops : stop.Stops) (nonzero : generation ≠ 0)
    (active : activeOf (middle ++ stop :: earlier) = generation) :
    ∃ later before, middle = later ++ .activated generation :: before := by
  induction middle with
  | nil =>
    cases stop with
    | accepted | failed => exact absurd active.symm nonzero
    | _ => exact absurd stops not_false
  | cons event middle ih =>
    cases event with
    | activated now =>
      obtain rfl : now = generation := active
      exact ⟨[], middle, rfl⟩
    | accepted | failed | deactivated => exact absurd active.symm nonzero
    | _ =>
      obtain ⟨later, before, rfl⟩ := ih active
      exact ⟨_ :: later, before, rfl⟩

/-- A lane that is closed was deactivated after the last stop. -/
theorem deactivated_of_closed (stops : stop.Stops)
    (shut : closed (middle ++ stop :: earlier) = true) : CommandEvent.deactivated ∈ middle := by
  induction middle with
  | nil =>
    cases stop with
    | accepted | failed => exact absurd shut Bool.false_ne_true
    | _ => exact absurd stops not_false
  | cons event middle ih =>
    cases event with
    | deactivated => exact List.mem_cons_self
    | accepted | failed => exact absurd shut Bool.false_ne_true
    | _ => exact List.mem_cons_of_mem _ (ih shut)

/-- What may be activated after a failure was accepted after it. -/
theorem accepted_of_permitted
    (may : permitted (middle ++ .failed :: earlier) = some generation) :
    CommandEvent.accepted generation ∈ middle := by
  induction middle with
  | nil => exact absurd may nofun
  | cons event middle ih =>
    cases event with
    | accepted command =>
      obtain rfl := Option.some.inj may
      exact List.mem_cons_self
    | failed => exact absurd may nofun
    | _ => exact List.mem_cons_of_mem _ (ih may)

/-- Between a stop and the next frame the lane is deactivated and then activated for the frame's
generation, and after a failure that generation is a new command. -/
theorem handed_after (lawful : Trace.Each commandLaw log) {later : List CommandEvent}
    (split : log = later ++ .handed generation :: (middle ++ stop :: earlier))
    (stops : stop.Stops) : ∃ after before, middle = after ++ .activated generation :: before ∧
      .deactivated ∈ before ∧ (stop = .failed → .accepted generation ∈ before) := by
  obtain ⟨nonzero, active⟩ := lawful later _ _ split
  obtain ⟨after, before, rfl⟩ := activated_of_active stops nonzero active.symm
  have again : log = (later ++ .handed generation :: after) ++
      .activated generation :: (before ++ stop :: earlier) := by
    rw [split]
    simp only [List.append_assoc, List.cons_append]
  obtain ⟨may, shut⟩ := lawful _ _ _ again
  refine ⟨after, before, rfl, deactivated_of_closed stops shut, ?_⟩
  rintro rfl
  exact accepted_of_permitted may

end Log

/-- An acknowledgement is read as it was written. -/
theorem readWords_ackWords (command : UInt64) (state : UInt32) :
    readWords (ackWords command state) = some (command, state) := by
  have small : command.toNat < 2 ^ 64 := command.toNat_lt
  have high : ((command >>> 32).toUInt32.toUInt64 <<< 32).toNat =
      command.toNat / 2 ^ 32 * 2 ^ 32 := by
    rw [UInt64.toNat_shiftLeft, UInt32.toNat_toUInt64, UInt64.toNat_toUInt32,
      UInt64.toNat_shiftRight]
    show ((command.toNat >>> 32 % 2 ^ 32) <<< 32) % 2 ^ 64 = _
    rw [Nat.shiftLeft_eq, Nat.shiftRight_eq_div_pow]
    omega
  have low : command.toUInt32.toUInt64.toNat = command.toNat % 2 ^ 32 := by
    rw [UInt32.toNat_toUInt64, UInt64.toNat_toUInt32]
  have whole : (command >>> 32).toUInt32.toUInt64 <<< 32 ||| command.toUInt32.toUInt64 =
      command := by
    apply UInt64.toNat.inj
    rw [UInt64.toNat_or, high, low, Transport.or_shifted 32 (Nat.mod_lt _ (by decide))]
    omega
  show some (_, state) = some (command, state)
  rw [whole]

/-- What both sessions keep of their commands. -/
structure Desk where
  /-- `_command`. -/
  command : UInt64 := 0
  /-- `_activation`. -/
  activation : UInt64 := 0
  /-- `_state`. -/
  state : DeviceState := .off
  /-- `_ackPending`. -/
  ackPending : Bool := false
  /-- What happened, newest first. -/
  log : List CommandEvent := []
  deriving DecidableEq, Repr

namespace Desk

/-- An observer sees an event. -/
def note (desk : Desk) (event : CommandEvent) : Desk := { desk with log := event :: desk.log }

/-- `-state:`. -/
def enter (desk : Desk) (state : DeviceState) : Desk :=
  { desk.note (.entered state) with state, ackPending := desk.command ≠ 0 }

/-- `_activation = 0`, and the call that deactivates the lane. -/
def shut (desk : Desk) : Desk := { desk.note .deactivated with activation := 0 }

/-- `-fail`, as far as the desk goes. -/
def fail (desk : Desk) : Desk := (desk.note .failed).shut.enter .unavailable

/-- A command is accepted: the device is shut, and `_command` is set. -/
def accept (desk : Desk) (command : UInt64) : Desk :=
  { (desk.note (.accepted command)).shut with command }

/-- An acknowledgement is due: it is sent, or the control lane does not take it. -/
def acknowledge (desk : Desk) (sent : Bool) : Desk :=
  if desk.ackPending && sent then
    { desk.note (.acknowledged (ackWords desk.command desk.state.code)) with ackPending := false }
  else desk

/-- What every operation keeps, also between a command and the state it leads to. -/
structure Mid (desk : Desk) : Prop where
  /-- The log is lawful. -/
  lawful : Trace.Each commandLaw desk.log
  /-- The command is the last accepted one. -/
  command : commandOf desk.log = desk.command
  /-- The state is the one entered last. -/
  state : stateOf desk.log = desk.state
  /-- An activation is for the last command, and the session did not fail since. -/
  activation : desk.activation ≠ 0 → desk.activation = desk.command ∧
    permitted desk.log = some desk.command ∧ closed desk.log = true

/-- What every operation keeps. -/
structure Kept (desk : Desk) : Prop extends Mid desk where
  /-- An acknowledgement is due, or the last one was of this command and state. -/
  pending : desk.command ≠ 0 → desk.ackPending = true ∨
    acknowledgedOf desk.log = some (desk.command, desk.state.code)

/-- Nothing happened. -/
theorem Kept.start : Kept {} where
  lawful := .nil
  command := rfl
  state := rfl
  activation nonzero := absurd rfl nonzero
  pending nonzero := absurd rfl nonzero

variable {desk : Desk}

/-- The device enters a state. -/
theorem Mid.enter (mid : Mid desk) (state : DeviceState) : Kept (desk.enter state) where
  lawful := mid.lawful.cons trivial
  command := mid.command
  state := rfl
  activation := mid.activation
  pending nonzero := .inl (decide_eq_true nonzero)

/-- The session fails. -/
theorem Mid.fail (mid : Mid desk) : Kept desk.fail :=
  have failed : commandLaw desk.log .failed := trivial
  have shut : Mid (desk.note .failed).shut :=
    { lawful := (mid.lawful.cons failed).cons trivial
      command := mid.command
      state := mid.state
      activation := fun nonzero => absurd rfl nonzero }
  shut.enter _

/-- A command is accepted. -/
theorem Mid.accept (mid : Mid desk) {command : UInt64} (newer : desk.command < command) :
    Mid (desk.accept command) where
  lawful := by
    have accepted : commandLaw desk.log (.accepted command) := by
      show commandOf desk.log < command
      rw [mid.command]
      exact newer
    exact (mid.lawful.cons accepted).cons trivial
  command := rfl
  state := mid.state
  activation nonzero := absurd rfl nonzero

/-- The device is shut. -/
theorem Kept.shut (kept : Kept desk) : Kept desk.shut where
  lawful := kept.lawful.cons trivial
  command := kept.command
  state := kept.state
  activation nonzero := absurd rfl nonzero
  pending := kept.pending

/-- An acknowledgement is due. -/
theorem Kept.acknowledge (kept : Kept desk) (sent : Bool) : Kept (desk.acknowledge sent) := by
  unfold Desk.acknowledge
  split
  · have read := readWords_ackWords desk.command desk.state.code
    refine ⟨⟨kept.lawful.cons ?_, kept.command, kept.state, kept.activation⟩, fun _ => .inr read⟩
    show readWords _ = some (commandOf desk.log, (stateOf desk.log).code)
    rw [kept.command, kept.state]
    exact read
  · exact kept

/-- A frame of the activation is handed over, or a key frame of it is asked for. -/
theorem Kept.use (kept : Kept desk) (nonzero : desk.activation ≠ 0)
    (active : activeOf desk.log = desk.activation) :
    Kept (desk.note (.handed desk.activation)) ∧ Kept (desk.note (.requested desk.activation)) :=
  ⟨⟨⟨kept.lawful.cons ⟨nonzero, active.symm⟩, kept.command, kept.state, kept.activation⟩,
    kept.pending⟩, ⟨⟨kept.lawful.cons ⟨nonzero, active.symm⟩, kept.command, kept.state,
    kept.activation⟩, kept.pending⟩⟩

end Desk

/-- What holds of the desk of a session and its log. -/
structure CommandLaw (desk : Desk) : Prop where
  /-- Every command is accepted above all before it. -/
  increasing : ∀ later command earlier, desk.log = later ++ .accepted command :: earlier →
    ∀ other, .accepted other ∈ earlier → other < command
  /-- An acknowledgement carries the last accepted command and the state of that moment. -/
  acknowledged : ∀ later words earlier, desk.log = later ++ .acknowledged words :: earlier →
    readWords words = some (commandOf earlier, (stateOf earlier).code)
  /-- The session is at the last accepted command and in the state it entered last. -/
  current : commandOf desk.log = desk.command ∧ stateOf desk.log = desk.state
  /-- An acknowledgement is due whenever the last one differs, or there is none. -/
  pending : desk.command ≠ 0 →
    acknowledgedOf desk.log ≠ some (desk.command, desk.state.code) → desk.ackPending = true
  /-- Frames are handed over only for the activation of that moment. -/
  handed : ∀ later generation earlier, desk.log = later ++ .handed generation :: earlier →
    generation ≠ 0 ∧ generation = activeOf earlier
  /-- Between a command or failure and the next frame the lane is deactivated, and then activated
  for the frame's generation; after a failure that is a new command. -/
  stopped : ∀ later generation middle stop earlier,
    desk.log = later ++ .handed generation :: (middle ++ stop :: earlier) → stop.Stops →
      ∃ after before, middle = after ++ .activated generation :: before ∧
        .deactivated ∈ before ∧ (stop = .failed → .accepted generation ∈ before)
  /-- After a failure there is no activation until a command is accepted. -/
  activation : desk.activation ≠ 0 → permitted desk.log = some desk.activation

/-- What every operation keeps is what holds. -/
theorem Desk.Kept.law {desk : Desk} (kept : Kept desk) : CommandLaw desk where
  increasing later command earlier split other member := by
    have before : Trace.Each commandLaw earlier := fun after event past parts =>
      kept.lawful (later ++ .accepted command :: after) event past (by rw [split, parts]; simp)
    exact UInt64.lt_of_le_of_lt (accepted_le before member) (kept.lawful later _ earlier split)
  acknowledged later words earlier split := kept.lawful later _ earlier split
  current := ⟨kept.command, kept.state⟩
  pending nonzero differs := (kept.pending nonzero).resolve_right differs
  handed later generation earlier split := kept.lawful later _ earlier split
  stopped _ _ _ _ _ split stops := handed_after kept.lawful split stops
  activation nonzero := by
    obtain ⟨same, may, -⟩ := kept.activation nonzero
    rw [same]
    exact may

end Plank.Media
