import Plank.Audio.Driver

/-!
# What the driver hands to its readers

A deadline that readers see is bounded by two clocks, neither of which the producer writes: the last
root message and the last tick that found the producer alive. Whatever the shared memory holds, only
clamped samples enter the history.
-/

namespace Plank.Audio

/-- A float: finite ones are the numbers they are. -/
inductive FloatSample where
  /-- Not a number. -/
  | nan
  /-- An infinity. -/
  | infinity (negative : Bool)
  /-- A number. -/
  | finite (value : ℚ)
  deriving DecidableEq

namespace FloatSample

/-- `<=`. -/
def le : FloatSample → FloatSample → Bool
  | .nan, _ | _, .nan => false
  | .infinity true, _ | _, .infinity false => true
  | .finite left, .finite right => left ≤ right
  | _, _ => false

/-- `fmaxf`. -/
def fmaxf (left right : FloatSample) : FloatSample :=
  if left = .nan then right else if right = .nan then left
  else if left.le right then right else left

/-- `fminf`. -/
def fminf (left right : FloatSample) : FloatSample :=
  if left = .nan then right else if right = .nan then left
  else if left.le right then left else right

/-- `isfinite`. -/
def isFinite : FloatSample → Bool
  | .finite _ => true
  | _ => false

/-- A number of at most one, either way. -/
def Within (sample : FloatSample) : Prop := ∃ value, sample = .finite value ∧ -1 ≤ value ∧ value ≤ 1

end FloatSample

/-- Float samples; how they are mixed is left open. -/
def floatPcm (mix : Nat → Nat → FloatSample → FloatSample → FloatSample) : Pcm FloatSample :=
  ⟨.finite 0, FloatSample.isFinite, fun sample => .fminf (.finite 1) (.fmaxf (.finite (-1)) sample), mix⟩

/-- A clamped sample is within one. -/
theorem clamp_within (mix : Nat → Nat → FloatSample → FloatSample → FloatSample)
    (sample : FloatSample) : ((floatPcm mix).clamp sample).Within := by
  show (FloatSample.fminf (.finite 1) (.fmaxf (.finite (-1)) sample)).Within
  cases sample with
  | nan => exact ⟨-1, by decide +kernel, by norm_num, by norm_num⟩
  | infinity negative =>
    cases negative with
    | true => exact ⟨-1, by decide +kernel, by norm_num, by norm_num⟩
    | false => exact ⟨1, by decide +kernel, by norm_num, by norm_num⟩
  | finite value =>
    by_cases low : -1 ≤ value
    · have raised : FloatSample.fmaxf (.finite (-1)) (.finite value) = .finite value := by
        simp [FloatSample.fmaxf, FloatSample.le, low]
      rw [raised]
      by_cases high : 1 ≤ value
      · exact ⟨1, by simp [FloatSample.fminf, FloatSample.le, high], by norm_num, by norm_num⟩
      · refine ⟨value, by simp [FloatSample.fminf, FloatSample.le, high], low, ?_⟩
        exact le_of_lt (not_le.mp high)
    · have raised : FloatSample.fmaxf (.finite (-1)) (.finite value) = .finite (-1) := by
        simp [FloatSample.fmaxf, FloatSample.le, low]
      rw [raised]
      exact ⟨-1, by decide +kernel, by norm_num, by norm_num⟩

variable {Sample : Type} {pcm : Pcm Sample} {good : Sample → Prop}

/-- Both channels of a frame are good. -/
def Both (good : Sample → Prop) (frame : Sample × Sample) : Prop := good frame.1 ∧ good frame.2

/-- All samples of a history, and all that were read of it, are good. -/
structure SampleBuffer.All (good : Sample → Prop) (buffer : SampleBuffer Sample) : Prop where
  /-- The cells. -/
  held : ∀ cell, Both good (buffer.memory.samples cell).bits
  /-- The frame that a reader loaded. -/
  loaded : ∀ reader reading, buffer.readers reader = some reading → Both good reading.bits
  /-- The frames that a reader has. -/
  read : ∀ reader reading, buffer.readers reader = some reading →
    ∀ frame ∈ reading.samples, Both good frame
  /-- The frames that were returned. -/
  returned : ∀ result ∈ buffer.returned, ∀ frame ∈ result.samples, Both good frame

namespace SampleBuffer.All

variable {buffer : SampleBuffer Sample}

/-- A history that only its writer changed, with good samples. -/
theorem stored (all : buffer.All good) {after : SampleBuffer Sample}
    (held : ∀ cell, Both good (after.memory.samples cell).bits)
    (readers : after.readers = buffer.readers) (returned : after.returned = buffer.returned) :
    after.All good where
  held := held
  loaded := by
    rw [readers]
    exact all.loaded
  read := by
    rw [readers]
    exact all.read
  returned := by
    rw [returned]
    exact all.returned

/-- A changed cell, where the others stay. -/
theorem update (all : buffer.All good) (cell : Nat) (change : SampleCell Sample → SampleCell Sample)
    (keeps : ∀ old, Both good old.bits → Both good (change old).bits) :
    ∀ other, Both good ((buffer.memory.update cell change).samples other).bits := by
  intro other
  show Both good (if other = cell then change (buffer.memory.samples other)
    else buffer.memory.samples other).bits
  split
  · exact keeps _ (all.held other)
  · exact all.held other

/-- A reader that goes on with good samples. -/
theorem setReader (all : buffer.All good) (reader : Nat) {reading : BufferReading Sample}
    (loaded : Both good reading.bits) (read : ∀ frame ∈ reading.samples, Both good frame) :
    (buffer.setReader reader (some reading)).All good where
  held := all.held
  loaded other found here := by
    by_cases same : other = reader
    · obtain rfl := Option.some.inj ((if_pos same).symm.trans here)
      exact loaded
    · exact all.loaded other found ((if_neg same).symm.trans here)
  read other found here := by
    by_cases same : other = reader
    · obtain rfl := Option.some.inj ((if_pos same).symm.trans here)
      exact read
    · exact all.read other found ((if_neg same).symm.trans here)
  returned := all.returned

/-- A reader that returns good samples. -/
theorem finish (all : buffer.All good) (reader : Nat) (call : SampleRead) (began : Nat)
    {samples : List (Sample × Sample)} (read : ∀ frame ∈ samples, Both good frame) :
    (buffer.finish reader call began samples).All good where
  held := all.held
  loaded other found here := by
    by_cases same : other = reader
    · cases (if_pos same).symm.trans here
    · exact all.loaded other found ((if_neg same).symm.trans here)
  read other found here := by
    by_cases same : other = reader
    · cases (if_pos same).symm.trans here
    · exact all.read other found ((if_neg same).symm.trans here)
  returned result member := by
    cases List.mem_append.mp member with
    | inl old => exact all.returned result old
    | inr new =>
      obtain rfl := List.mem_singleton.mp new
      exact read

/-- The writer's accesses keep good samples, as it clamps what it stores. -/
theorem writing (all : buffer.All good) (clamps : ∀ sample, good (pcm.clamp sample))
    (write : SampleWrite Sample) (place : WritePlace) : (buffer.writing pcm write place).All good := by
  cases place with
  | check =>
    unfold SampleBuffer.writing
    dsimp only
    split <;> exact all.stored all.held rfl rfl
  | clear index =>
    have held := all.update (cellOf (positionAt write.frame index))
      (fun cell => { cell with frame := 0 }) fun _ old => old
    exact all.stored held rfl rfl
  | bits index =>
    have held := all.update (cellOf (positionAt write.frame index))
      (fun cell => { cell with bits := clamped pcm write index }) fun _ _ => ⟨clamps _, clamps _⟩
    exact all.stored held rfl rfl
  | stamp index =>
    have held := all.update (cellOf (positionAt write.frame index))
      (fun cell => { cell with frame := positionAt write.frame index + 1 }) fun _ old => old
    exact all.stored held rfl rfl

/-- A reset stores no samples. -/
theorem resetting (all : buffer.All good) (firstFrame : UInt64) (place : ResetPlace) :
    (buffer.resetting firstFrame place).All good := by
  cases place with
  | begin => exact all.stored all.held rfl rfl
  | first => exact all.stored all.held rfl rfl
  | clear cell =>
    have held := all.update cell (fun cell => { cell with frame := 0 }) fun _ old => old
    exact all.stored held rfl rfl
  | finish => exact all.stored all.held rfl rfl

/-- Silence is good. -/
theorem silent (zero : good pcm.zero) (call : SampleRead) :
    ∀ frame ∈ SampleBuffer.silent pcm call, Both good frame := by
  intro frame member
  rw [List.eq_of_mem_replicate member]
  exact ⟨zero, zero⟩

/-- A reader's accesses give good samples. -/
theorem loading (all : buffer.All good) (zero : good pcm.zero) {reader : Nat}
    {reading : BufferReading Sample} (here : buffer.readers reader = some reading) :
    (buffer.loading pcm reader reading).All good := by
  have loaded := all.loaded reader reading here
  have read := all.read reader reading here
  have blank : Both good (pcm.zero, pcm.zero) := ⟨zero, zero⟩
  have longer {frame : Sample × Sample} (last : Both good frame) :
      ∀ other ∈ reading.samples ++ [frame], Both good other := by
    intro other member
    cases List.mem_append.mp member with
    | inl old => exact read other old
    | inr new => exact List.mem_singleton.mp new ▸ last
  unfold SampleBuffer.loading
  split
  case h_1 =>
    split
    · exact all.finish reader _ _ (silent zero _)
    · exact all.setReader reader loaded read
  case h_2 => exact all.setReader reader loaded read
  case h_3 index _ =>
    apply all.setReader reader
    · split
      · split <;> exact loaded
      · exact loaded
    · split
      · split
        · exact longer blank
        · exact read
      · exact read
  case h_4 => exact all.setReader reader loaded read
  case h_5 => exact all.setReader reader (all.held _) read
  case h_6 =>
    refine all.setReader reader ?_ (longer ?_)
    · exact loaded
    split
    · exact loaded
    · exact blank
  case h_7 =>
    apply all.finish
    split
    · exact silent zero _
    · exact read

/-- Every step of the history keeps good samples good. -/
theorem step (all : buffer.All good) (zero : good pcm.zero)
    (clamps : ∀ sample, good (pcm.clamp sample)) {label : BufferLabel Sample}
    {after : SampleBuffer Sample} (stepped : buffer.step pcm label = some after) :
    after.All good := by
  cases label with
  | write samples frame count =>
    dsimp only [SampleBuffer.step] at stepped
    split at stepped
    case h_1 =>
      cases samples with
      | none => exact Option.some.inj stepped ▸ all
      | some samples =>
        dsimp only at stepped
        split at stepped
        · exact Option.some.inj stepped ▸ all
        · exact Option.some.inj stepped ▸ all.stored all.held rfl rfl
    case h_2 => cases stepped
  | reset firstFrame =>
    dsimp only [SampleBuffer.step] at stepped
    split at stepped
    case h_1 => exact Option.some.inj stepped ▸ all.stored all.held rfl rfl
    case h_2 => cases stepped
  | store =>
    dsimp only [SampleBuffer.step] at stepped
    split at stepped
    case h_1 => cases stepped
    case h_2 write place _ => exact Option.some.inj stepped ▸ all.writing clamps write place
    case h_3 firstFrame place _ => exact Option.some.inj stepped ▸ all.resetting firstFrame place
  | read reader given frame count =>
    dsimp only [SampleBuffer.step] at stepped
    split at stepped
    case h_1 => cases stepped
    case h_2 =>
      split at stepped
      case isTrue => exact Option.some.inj stepped ▸ all
      case isFalse =>
        split at stepped
        case isTrue => exact Option.some.inj stepped ▸ all.finish reader _ _ (silent zero _)
        case isFalse =>
          exact Option.some.inj stepped ▸ all.setReader reader ⟨zero, zero⟩ (by simp)
  | load reader =>
    obtain ⟨reading, here, rfl⟩ := Option.map_eq_some_iff.mp stepped
    exact all.loading zero here

end SampleBuffer.All

/-- What bounds a deadline that a read loads. -/
structure Gate.Fair (ticks : MicTicks) (gate : Gate) : Prop where
  /-- A lease is installed. -/
  installed : gate.deadline ≠ 0 → gate.installed ≠ 0
  /-- It is at most two seconds after the last attach or renewal. -/
  root : gate.deadline.toNat ≤ gate.root.toNat + ticks.twoSeconds.toNat
  /-- It is at most half a second after the last tick that found the producer's in the future. -/
  admitted : gate.deadline.toNat ≤ gate.admitted.toNat + ticks.halfSecond.toNat

/-- The lease of an attach that waits for the drop. -/
def AfterDrop.Leased : AfterDrop → Prop
  | .attach lease => lease ≠ 0
  | _ => True

/-- Whether a tick found the producer's deadline in the future. -/
def TickPlace.Admitting : TickPlace → Prop
  | .producerSeed | .block _ | .write _ | .enter => True
  | _ => False

/-- What a comparison knows. -/
def Comparison.Fair (ticks : MicTicks) : Comparison → Prop
  | .loaded gate => gate.Fair ticks
  | _ => True

/-- What a read knows. -/
def MicReading.Sound (ticks : MicTicks) (ended : Nat) (reading : MicReading Sample) : Prop :=
  let observing := reading.lease ≠ 0 ∧ reading.ended < reading.observed
  match reading.place with
  | .lease => reading.ended ≤ ended
  | .gate comparison => observing ∧ comparison.Fair ticks
  | .copy => observing
  | .leaseAgain _ => observing
  | .gateAgain comparison _ => observing ∧ comparison.Fair ticks

/-- What a read that was not refused went by. -/
structure Judgement.Sound (ticks : MicTicks) (judgement : Judgement) : Prop where
  /-- There was a lease. -/
  lease : judgement.lease ≠ 0
  /-- It was before the deadline. -/
  early : judgement.now < judgement.gate.deadline
  /-- The deadline is bounded. -/
  gate : judgement.gate.Fair ticks
  /-- The lease was attached after the last one that had ended when the read began. -/
  later : judgement.ended < judgement.observed

/-- What a read returned. -/
def MicResult.Sound (pcm : Pcm Sample) (ticks : MicTicks) (result : MicResult Sample) : Prop :=
  match result.judgement with
  | none => result.samples = SampleBuffer.silent pcm result.call
  | some judgement => judgement.Sound ticks

namespace MicDriver

/-- The gates while the link stays as it is. -/
structure Steady (driver : MicDriver Sample) : Prop where
  /-- With a link its lease is the one that readers see. -/
  linked : driver.linked = true → driver.inputLease = driver.lease ∧ driver.lease ≠ 0
  /-- Without a link both gates are shut. -/
  unlinked : driver.linked = false → driver.inputLease = 0 ∧ driver.inputDeadline = 0

/-- What is known at each stage of the control queue. -/
def InControl (driver : MicDriver Sample) : ControlStage → Prop
  | .idle => driver.Steady
  | .drop .deadline next => driver.Steady ∧ next.Leased
  | .drop .lease next => driver.Steady ∧ driver.inputDeadline = 0 ∧ next.Leased
  | .drop .lock next | .drop .reset next =>
    driver.inputLease = 0 ∧ driver.inputDeadline = 0 ∧ next.Leased
  | .install lease =>
    driver.linked = false ∧ driver.inputLease = 0 ∧ driver.inputDeadline = 0 ∧ lease ≠ 0
  | .publish lease =>
    driver.linked = true ∧ driver.lease = lease ∧ driver.inputDeadline = 0 ∧ lease ≠ 0
  | .tick place tick =>
    driver.Steady ∧ driver.linked = true ∧ tick.now ≤ driver.now ∧ driver.admitted ≤ tick.now ∧
      (place.Admitting → driver.admitted = tick.now)

/-- What is known stays known while the gates stay and time passes. -/
theorem InControl.move {before after : MicDriver Sample} {stage : ControlStage}
    (known : before.InControl stage) (linked : after.linked = before.linked)
    (lease : after.lease = before.lease) (inputLease : after.inputLease = before.inputLease)
    (inputDeadline : after.inputDeadline = before.inputDeadline)
    (admitted : after.admitted = before.admitted) (now : before.now ≤ after.now) :
    after.InControl stage := by
  have steady (was : before.Steady) : after.Steady := by
    constructor
    · rw [linked, inputLease, lease]
      exact was.linked
    · rw [linked, inputLease, inputDeadline]
      exact was.unlinked
  unfold InControl at known ⊢
  rw [linked, lease, inputLease, inputDeadline, admitted]
  split at known
  case h_1 => exact steady known
  case h_2 => exact ⟨steady known.1, known.2⟩
  case h_3 => exact ⟨steady known.1, known.2⟩
  case h_4 => exact known
  case h_5 => exact known
  case h_6 => exact known
  case h_7 => exact known
  case h_8 =>
    obtain ⟨was, there, past, order, admitting⟩ := known
    exact ⟨steady was, there, UInt64.le_trans past now, order, admitting⟩

/-- What every step keeps. -/
structure Kept (pcm : Pcm Sample) (ticks : MicTicks) (driver : MicDriver Sample) : Prop where
  /-- The deadline that a read would load is bounded. -/
  gate : driver.gate.Fair ticks
  /-- The broker's deadline is at most two seconds after its last message. -/
  broker : driver.brokerDeadline.toNat ≤ driver.root.toNat + ticks.twoSeconds.toNat
  /-- The last attach or renewal is in the past. -/
  root : driver.root ≤ driver.now
  /-- The last admitting tick is in the past. -/
  admitted : driver.admitted ≤ driver.now
  /-- Leases end after they are attached. -/
  ended : driver.ended ≤ driver.attaches
  /-- After the last one ended, readers see no lease. -/
  closed : driver.ended = driver.attaches → driver.inputLease = 0
  /-- The control queue. -/
  control : driver.InControl driver.control
  /-- The reads. -/
  reads : ∀ reader reading, driver.reads reader = some reading →
    reading.Sound ticks driver.ended
  /-- What was returned. -/
  returned : ∀ result ∈ driver.returned, result.Sound pcm ticks

variable {ticks : MicTicks} {driver : MicDriver Sample}

/-- A clock plus a duration is at most their sum, also where it wraps. -/
theorem toNat_add_le (time duration : UInt64) :
    (time + duration).toNat ≤ time.toNat + duration.toNat := by
  rw [UInt64.toNat_add]
  exact Nat.mod_le _ _

/-- A tick admits neither past its cap nor past the broker's deadline. -/
theorem admittedDeadline_le (ticks : MicTicks) (driver : MicDriver Sample) (tick : Tick) :
    driver.admittedDeadline ticks tick ≤ tick.now + ticks.halfSecond ∧
      driver.admittedDeadline ticks tick ≤ driver.brokerDeadline := by
  have capped : (if tick.now + ticks.halfSecond < tick.deadline then tick.now + ticks.halfSecond
      else tick.deadline) ≤ tick.now + ticks.halfSecond := by
    split
    · exact UInt64.le_refl _
    · next small => exact UInt64.not_lt.mp small
  unfold admittedDeadline
  dsimp only
  revert capped
  generalize (if tick.now + ticks.halfSecond < tick.deadline then tick.now + ticks.halfSecond
    else tick.deadline) = deadline
  intro capped
  split
  · next less => exact ⟨UInt64.le_trans (UInt64.le_of_lt less) capped, UInt64.le_refl _⟩
  · next small => exact ⟨capped, UInt64.not_lt.mp small⟩

/-- A shut gate is fair. -/
theorem fair_zero (installed root admitted : UInt64) :
    (Gate.mk 0 installed root admitted).Fair ticks :=
  ⟨fun some_ => absurd rfl some_, Nat.zero_le _, Nat.zero_le _⟩

namespace Kept

/-- A root message now only moves the bound away. -/
theorem renewed (kept : Kept pcm ticks driver) :
    (Gate.mk driver.inputDeadline driver.lease driver.now driver.admitted).Fair ticks where
  installed := kept.gate.installed
  root := by
    have bound := kept.gate.root
    have order := UInt64.le_iff_toNat_le.mp kept.root
    show driver.inputDeadline.toNat ≤ driver.now.toNat + _
    change driver.inputDeadline.toNat ≤ driver.root.toNat + _ at bound
    omega
  admitted := kept.gate.admitted

/-- The broker's messages. -/
theorem handle (kept : Kept pcm ticks driver) (idle : driver.control = .idle) (peer : Nat)
    (event : BrokerEvent) : Kept pcm ticks (driver.handle ticks peer event) := by
  have steady : driver.Steady := by
    have control := kept.control
    rw [idle] at control
    exact control
  cases event with
  | error =>
    dsimp only [MicDriver.handle]
    split
    · exact kept
    · exact { kept with control := ⟨{ steady with }, trivial⟩ }
  | message message =>
    dsimp only [MicDriver.handle]
    split
    · exact kept
    · split
      · exact { kept with control := ⟨{ steady with }, trivial⟩ }
      · next checks =>
        have some_ : message.lease.getD 0 ≠ 0 := by
          simp only [MicDriver.valid, Bool.or_eq_true, not_or,
            Bool.not_eq_eq_eq_not, Bool.not_true, Bool.not_eq_false, Bool.and_eq_true,
            bne_iff_ne] at checks
          obtain ⟨⟨⟨-, present⟩, differs⟩, -⟩ := checks
          obtain ⟨lease, held⟩ := Option.isSome_iff_exists.mp present
          rw [held] at differs ⊢
          exact fun zero => differs (congrArg some zero)
        have answered (accepted : Bool) : Kept pcm ticks (driver.answer accepted) :=
          { kept with control := kept.control.move rfl rfl rfl rfl rfl (UInt64.le_refl _) }
        split
        · split
          · split
            · exact { kept with control := ⟨{ steady with }, some_⟩ }
            · exact answered _
          · exact answered _
        · split
          · exact { kept with
              gate := kept.renewed
              broker := toNat_add_le _ _
              root := UInt64.le_refl _
              control := kept.control.move rfl rfl rfl rfl rfl (UInt64.le_refl _) }
          · exact answered _
        · split
          · split
            · exact { kept with control := ⟨{ steady with }, trivial⟩ }
            · exact answered _
          · exact answered _
        · exact answered _

/-- The timer fires. -/
theorem beginTick (kept : Kept pcm ticks driver) (idle : driver.control = .idle) :
    Kept pcm ticks (driver.beginTick ticks) := by
  have steady : driver.Steady := by
    have control := kept.control
    rw [idle] at control
    exact control
  obtain ⟨connectAt, peer, peers, connected⟩ : ∃ connectAt peer peers,
      (if driver.peer.isNone && driver.connectAt ≤ driver.now then
        { driver with
          connectAt := driver.now + ticks.second
          peer := some driver.peers
          peers := driver.peers + 1 }
      else driver) = { driver with connectAt, peer, peers } := by
    split
    · exact ⟨_, _, _, rfl⟩
    · exact ⟨_, _, _, rfl⟩
  unfold MicDriver.beginTick
  rw [connected]
  dsimp only
  split
  · exact { kept with control := kept.control.move rfl rfl rfl rfl rfl (UInt64.le_refl _) }
  · next unlike =>
    have linked : driver.linked = true := by simpa using unlike
    split
    · exact { kept with control := ⟨{ steady with }, trivial⟩ }
    · exact { kept with
        control := ⟨{ steady with }, linked, UInt64.le_refl _, kept.admitted, False.elim⟩ }

/-- A read that began before a lease ended still began before. -/
theorem reads_mono (kept : Kept pcm ticks driver) {ended : Nat} (later : driver.ended ≤ ended) :
    ∀ reader reading, driver.reads reader = some reading → reading.Sound ticks ended := by
  intro reader reading here
  have sound := kept.reads reader reading here
  unfold MicReading.Sound at sound ⊢
  dsimp only at sound ⊢
  split at sound
  · exact Nat.le_trans sound later
  · exact sound
  · exact sound
  · exact sound
  · exact sound

/-- The end of a drop. -/
theorem dropped (kept : Kept pcm ticks driver) {next : AfterDrop} (closed : driver.inputLease = 0)
    (shut : driver.inputDeadline = 0) (leased : next.Leased) :
    Kept pcm ticks (driver.dropped next) := by
  have gate : (Gate.mk driver.inputDeadline 0 driver.root driver.admitted).Fair ticks := by
    rw [shut]
    exact fair_zero _ _ _
  have bound : (0 : UInt64).toNat ≤ driver.root.toNat + ticks.twoSeconds.toNat := Nat.zero_le _
  cases next with
  | done => exact { kept with
      gate := gate
      broker := bound
      control := ⟨nofun, fun _ => ⟨closed, shut⟩⟩ }
  | lost => exact { kept with
      gate := gate
      broker := bound
      ended := Nat.le_refl _
      closed := fun _ => closed
      control := ⟨nofun, fun _ => ⟨closed, shut⟩⟩
      reads := kept.reads_mono kept.ended }
  | detached => exact { kept with
      gate := gate
      broker := bound
      ended := Nat.le_refl _
      closed := fun _ => closed
      control := ⟨nofun, fun _ => ⟨closed, shut⟩⟩
      reads := kept.reads_mono kept.ended }
  | attach lease => exact { kept with
      gate := gate
      broker := bound
      control := ⟨rfl, closed, shut, leased⟩ }

/-- `micDropLink`. -/
theorem dropping (kept : Kept pcm ticks driver) {next : AfterDrop} {place : DropPlace}
    (stage : driver.control = .drop place next) {after : MicDriver Sample}
    (stepped : driver.dropping pcm next place = some after) : Kept pcm ticks after := by
  have control := kept.control
  rw [stage] at control
  cases place with
  | deadline =>
    obtain rfl := Option.some.inj stepped
    obtain ⟨steady, leased⟩ := control
    exact { kept with
      gate := fair_zero _ _ _
      control := ⟨⟨steady.linked, fun unlinked => ⟨(steady.unlinked unlinked).1, rfl⟩⟩, rfl, leased⟩ }
  | lease =>
    obtain rfl := Option.some.inj stepped
    obtain ⟨-, shut, leased⟩ := control
    exact { kept with
      closed := fun _ => rfl
      control := ⟨rfl, shut, leased⟩ }
  | lock =>
    obtain ⟨-, begun⟩ := Option.ite_none_left_eq_some.mp stepped
    obtain ⟨buffer, -, rfl⟩ := Option.map_eq_some_iff.mp begun
    exact { kept with control := control }
  | reset =>
    dsimp only [MicDriver.dropping] at stepped
    split at stepped
    · obtain rfl := Option.some.inj stepped
      exact kept.dropped control.1 control.2.1 control.2.2
    · obtain ⟨buffer, -, rfl⟩ := Option.map_eq_some_iff.mp stepped
      exact { kept with control := kept.control.move rfl rfl rfl rfl rfl (UInt64.le_refl _) }

/-- `micIPCTick` behind its beginning. -/
theorem ticking (kept : Kept pcm ticks driver) {tick : Tick} {place : TickPlace}
    (stage : driver.control = .tick place tick) {link : LinkWords} {samples : Nat → Sample × Sample}
    {after : MicDriver Sample}
    (stepped : driver.ticking pcm ticks link samples tick place = some after) :
    Kept pcm ticks after := by
  have control := kept.control
  rw [stage] at control
  obtain ⟨steady, linked, past, order, admitting⟩ := control
  have goesOn {place : TickPlace} {tick' : Tick} (now : tick'.now = tick.now)
      (admits : place.Admitting → driver.admitted = tick.now) :
      Kept pcm ticks { driver with control := .tick place tick' } :=
    { kept with control := ⟨{ steady with }, linked, now ▸ past, now ▸ order, now ▸ admits⟩ }
  have buffered {buffer : SampleBuffer Sample} : Kept pcm ticks { driver with buffer } :=
    { kept with control := kept.control.move rfl rfl rfl rfl rfl (UInt64.le_refl _) }
  have shut : Gate.Fair ticks ⟨0, driver.lease, driver.root, driver.admitted⟩ := fair_zero _ _ _
  have closing : driver.linked = false → driver.inputLease = 0 ∧ (0 : UInt64) = 0 :=
    fun unlinked => absurd (linked.symm.trans unlinked) (by decide)
  cases place with
  | lock =>
    obtain ⟨-, locked⟩ := Option.ite_none_left_eq_some.mp stepped
    obtain rfl := Option.some.inj locked
    exact { kept with control := ⟨{ steady with }, linked, past, order, False.elim⟩ }
  | sequence => exact Option.some.inj stepped ▸ goesOn rfl False.elim
  | anchor => exact Option.some.inj stepped ▸ goesOn rfl False.elim
  | seed => exact Option.some.inj stepped ▸ goesOn rfl False.elim
  | running => exact Option.some.inj stepped ▸ goesOn rfl False.elim
  | sequenceAgain => exact Option.some.inj stepped ▸ goesOn rfl False.elim
  | generation =>
    dsimp only [MicDriver.ticking] at stepped
    split at stepped
    · exact Option.some.inj stepped ▸ goesOn rfl False.elim
    · exact Option.some.inj stepped ▸ goesOn rfl False.elim
  | close =>
    obtain ⟨buffer, -, rfl⟩ := Option.map_eq_some_iff.mp stepped
    exact { kept with
      gate := shut
      control := ⟨⟨steady.linked, closing⟩, linked, past, order, False.elim⟩ }
  | reset =>
    dsimp only [MicDriver.ticking] at stepped
    split at stepped
    · obtain rfl := Option.some.inj stepped
      exact { kept with control := ⟨{ steady with }, linked, past, order, False.elim⟩ }
    · obtain ⟨buffer, -, rfl⟩ := Option.map_eq_some_iff.mp stepped
      exact buffered
  | deadline =>
    dsimp only [MicDriver.ticking] at stepped
    by_cases future : tick.now < link.deadline
    · rw [if_pos future] at stepped
      have gate : Gate.Fair ticks ⟨driver.inputDeadline, driver.lease, driver.root, tick.now⟩ := {
        installed := kept.gate.installed
        root := kept.gate.root
        admitted := by
          have bound := kept.gate.admitted
          have earlier := UInt64.le_iff_toNat_le.mp order
          change driver.inputDeadline.toNat ≤ driver.admitted.toNat + _ at bound
          show driver.inputDeadline.toNat ≤ tick.now.toNat + _
          omega }
      have seen : Kept pcm ticks { driver with
          admitted := tick.now
          control := .tick .refuse { tick with deadline := link.deadline } } := { kept with
        gate := gate
        admitted := past
        control := ⟨{ steady with }, linked, past, UInt64.le_refl _, False.elim⟩ }
      split at stepped
      · exact Option.some.inj stepped ▸ seen
      · obtain rfl := Option.some.inj stepped
        exact { seen with
          control := ⟨{ steady with }, linked, past, UInt64.le_refl _, fun _ => rfl⟩ }
    · rw [if_neg future] at stepped
      have refused : link.deadline ≤ tick.now := UInt64.not_lt.mp future
      rw [decide_eq_true refused, Bool.or_true, if_pos rfl] at stepped
      exact Option.some.inj stepped ▸ goesOn rfl False.elim
  | producerSeed =>
    dsimp only [MicDriver.ticking] at stepped
    split at stepped
    · exact Option.some.inj stepped ▸ goesOn rfl False.elim
    · exact Option.some.inj stepped ▸ goesOn rfl fun _ => admitting trivial
  | refuse =>
    obtain rfl := Option.some.inj stepped
    exact { kept with
      gate := shut
      control := ⟨steady.linked, closing⟩ }
  | block index =>
    obtain ⟨buffer, -, rfl⟩ := Option.map_eq_some_iff.mp stepped
    exact { kept with
      control := ⟨{ steady with }, linked, past, order, fun _ => admitting trivial⟩ }
  | write index =>
    dsimp only [MicDriver.ticking] at stepped
    split at stepped
    · exact Option.some.inj stepped ▸ goesOn rfl fun _ => admitting trivial
    · obtain ⟨buffer, -, rfl⟩ := Option.map_eq_some_iff.mp stepped
      exact buffered
  | enter =>
    obtain rfl := Option.some.inj stepped
    obtain ⟨capped, broken⟩ := admittedDeadline_le ticks driver tick
    have deadline : Gate.Fair ticks
        ⟨driver.admittedDeadline ticks tick, driver.lease, driver.root, driver.admitted⟩ := {
      installed := fun _ => (steady.linked linked).2
      root := Nat.le_trans (UInt64.le_iff_toNat_le.mp broken) kept.broker
      admitted := by
        rw [show driver.admitted = tick.now from admitting trivial]
        exact Nat.le_trans (UInt64.le_iff_toNat_le.mp capped) (toNat_add_le _ _) }
    exact { kept with
      gate := deadline
      control := ⟨steady.linked, fun unlinked => absurd (linked.symm.trans unlinked) (by decide)⟩ }

/-- The next access of the control queue. -/
theorem controlling (kept : Kept pcm ticks driver) {link : LinkWords}
    {samples : Nat → Sample × Sample} {after : MicDriver Sample}
    (stepped : driver.controlling pcm ticks link samples = some after) : Kept pcm ticks after := by
  have control := kept.control
  unfold MicDriver.controlling at stepped
  split at stepped
  case h_1 => cases stepped
  case h_2 place next stage => exact kept.dropping stage stepped
  case h_3 lease stage =>
    rw [stage] at control
    obtain ⟨-, closed, shut, some_⟩ := control
    obtain rfl := Option.some.inj stepped
    have gate : Gate.Fair ticks ⟨driver.inputDeadline, lease, driver.now, driver.admitted⟩ := by
      rw [shut]
      exact fair_zero _ _ _
    exact { kept with
      gate := gate
      broker := toNat_add_le _ _
      root := UInt64.le_refl _
      control := ⟨rfl, rfl, shut, some_⟩ }
  case h_4 lease stage =>
    rw [stage] at control
    obtain ⟨linked, same, shut, some_⟩ := control
    obtain rfl := Option.some.inj stepped
    have grows := kept.ended
    exact { kept with
      ended := Nat.le_succ_of_le grows
      closed := fun all => by
        change driver.ended = driver.attaches + 1 at all
        omega
      control := ⟨fun _ => ⟨same.symm, fun zero => some_ (same.symm.trans zero)⟩,
        fun unlinked => absurd (linked.symm.trans unlinked) (by decide)⟩ }
  case h_5 place tick stage => exact kept.ticking stage stepped

/-- A start of IO. -/
theorem starting (kept : Kept pcm ticks driver) {place : IoPlace} {after : MicDriver Sample}
    (stepped : driver.starting pcm place = some after) : Kept pcm ticks after := by
  have control := kept.control
  cases place with
  | reset =>
    dsimp only [MicDriver.starting] at stepped
    split at stepped
    · obtain rfl := Option.some.inj stepped
      exact { kept with control := control.move rfl rfl rfl rfl rfl (UInt64.le_refl _) }
    · obtain ⟨buffer, -, rfl⟩ := Option.map_eq_some_iff.mp stepped
      exact { kept with control := control.move rfl rfl rfl rfl rfl (UInt64.le_refl _) }
  | anchor =>
    obtain rfl := Option.some.inj stepped
    exact { kept with control := control.move rfl rfl rfl rfl rfl (UInt64.le_refl _) }
  | seed =>
    obtain rfl := Option.some.inj stepped
    exact { kept with control := control.move rfl rfl rfl rfl rfl (UInt64.le_refl _) }
  | running =>
    obtain rfl := Option.some.inj stepped
    exact { kept with control := control.move rfl rfl rfl rfl rfl (UInt64.le_refl _) }

/-- A read that goes on. -/
theorem setRead (kept : Kept pcm ticks driver) (reader : Nat) {reading : MicReading Sample}
    (sound : reading.Sound ticks driver.ended) :
    Kept pcm ticks (driver.setRead reader (some reading)) :=
  { kept with
    control := kept.control.move rfl rfl rfl rfl rfl (UInt64.le_refl _)
    reads := by
      intro other found here
      by_cases same : other = reader
      · obtain rfl := Option.some.inj ((if_pos same).symm.trans here)
        exact sound
      · exact kept.reads other found ((if_neg same).symm.trans here) }

/-- A read that returns. -/
theorem finish (kept : Kept pcm ticks driver) (reader : Nat) {result : MicResult Sample}
    (sound : result.Sound pcm ticks) : Kept pcm ticks (driver.finish reader result) :=
  { kept with
    control := kept.control.move rfl rfl rfl rfl rfl (UInt64.le_refl _)
    reads := by
      intro other found here
      by_cases same : other = reader
      · cases (if_pos same).symm.trans here
      · exact kept.reads other found ((if_neg same).symm.trans here)
    returned := by
      intro other member
      cases List.mem_append.mp member with
      | inl old => exact kept.returned other old
      | inr new => exact List.mem_singleton.mp new ▸ sound }

/-- A refused read. -/
theorem silence (kept : Kept pcm ticks driver) (reader : Nat) (reading : MicReading Sample) :
    Kept pcm ticks (driver.silence pcm reader reading) := kept.finish reader rfl

/-- The history alone changes. -/
theorem buffered (kept : Kept pcm ticks driver) (buffer : SampleBuffer Sample) :
    Kept pcm ticks { driver with buffer } :=
  { kept with control := kept.control.move rfl rfl rfl rfl rfl (UInt64.le_refl _) }

/-- The first comparison. -/
theorem compared (kept : Kept pcm ticks driver) {reader : Nat} {reading : MicReading Sample}
    {now : UInt64} {gate : Gate} (observing : reading.lease ≠ 0 ∧ reading.ended < reading.observed)
    {after : MicDriver Sample}
    (stepped : driver.compared pcm reader reading now gate = some after) :
    Kept pcm ticks after := by
  unfold MicDriver.compared at stepped
  split at stepped
  · exact Option.some.inj stepped ▸ kept.silence reader reading
  · obtain ⟨buffer, -, rfl⟩ := Option.map_eq_some_iff.mp stepped
    apply (kept.buffered buffer).setRead reader
    unfold MicReading.Sound
    dsimp only
    split
    · next place => split at place <;> cases place
    · next place => split at place <;> cases place
    · exact observing
    · exact observing
    · next place => split at place <;> cases place

/-- The second comparison. -/
theorem comparedAgain (kept : Kept pcm ticks driver) (reader : Nat) {reading : MicReading Sample}
    (samples : List (Sample × Sample)) {now : UInt64} {gate : Gate}
    (observing : reading.lease ≠ 0 ∧ reading.ended < reading.observed) (fair : gate.Fair ticks) :
    Kept pcm ticks (driver.comparedAgain pcm reader reading samples now gate) := by
  unfold MicDriver.comparedAgain
  split
  · exact kept.silence reader reading
  · next early =>
    exact kept.finish reader ⟨observing.1, UInt64.not_le.mp early, fair, observing.2⟩

/-- The clock is read. -/
theorem clocking (kept : Kept pcm ticks driver) {reader : Nat} {reading : MicReading Sample}
    (here : driver.reads reader = some reading) {after : MicDriver Sample}
    (stepped : driver.clocking pcm reader reading = some after) : Kept pcm ticks after := by
  have sound := kept.reads reader reading here
  unfold MicReading.Sound at sound
  unfold MicDriver.clocking at stepped
  split at stepped
  case h_1 place =>
    rw [place] at sound
    exact Option.some.inj stepped ▸ kept.setRead reader ⟨sound.1, trivial⟩
  case h_2 gate place =>
    rw [place] at sound
    exact kept.compared sound.1 stepped
  case h_3 samples place =>
    rw [place] at sound
    exact Option.some.inj stepped ▸ kept.setRead reader ⟨sound.1, trivial⟩
  case h_4 gate samples place =>
    rw [place] at sound
    exact Option.some.inj stepped ▸ kept.comparedAgain reader samples sound.1 sound.2
  case h_5 => cases stepped

/-- A read's next load. -/
theorem loading (kept : Kept pcm ticks driver) {reader : Nat} {reading : MicReading Sample}
    (here : driver.reads reader = some reading) {after : MicDriver Sample}
    (stepped : driver.loading pcm reader reading = some after) : Kept pcm ticks after := by
  have sound := kept.reads reader reading here
  unfold MicReading.Sound at sound
  unfold MicDriver.loading at stepped
  split at stepped
  case h_1 place =>
    rw [place] at sound
    split at stepped
    · exact Option.some.inj stepped ▸ kept.silence reader reading
    · next some_ =>
      have grows := kept.ended
      have differs : driver.ended ≠ driver.attaches := fun all => some_ (kept.closed all)
      have later : reading.ended < driver.attaches := by omega
      exact Option.some.inj stepped ▸ kept.setRead reader ⟨⟨some_, later⟩, trivial⟩
  case h_2 place =>
    rw [place] at sound
    exact Option.some.inj stepped ▸ kept.setRead reader ⟨sound.1, kept.gate⟩
  case h_3 now place =>
    rw [place] at sound
    exact kept.compared sound.1 stepped
  case h_4 => cases stepped
  case h_5 place =>
    rw [place] at sound
    obtain ⟨buffer, -, rfl⟩ := Option.map_eq_some_iff.mp stepped
    apply (kept.buffered buffer).setRead reader
    unfold MicReading.Sound
    dsimp only
    split
    · next place => split at place <;> cases place
    · next place => split at place <;> cases place
    · exact sound
    · exact sound
    · next place => split at place <;> cases place
  case h_6 samples place =>
    rw [place] at sound
    split at stepped
    · exact Option.some.inj stepped ▸ kept.silence reader reading
    · exact Option.some.inj stepped ▸ kept.setRead reader ⟨sound, trivial⟩
  case h_7 samples place =>
    rw [place] at sound
    exact Option.some.inj stepped ▸ kept.setRead reader ⟨sound.1, kept.gate⟩
  case h_8 now samples place =>
    rw [place] at sound
    exact Option.some.inj stepped ▸ kept.comparedAgain reader samples sound.1 kept.gate
  case h_9 => cases stepped

end Kept

/-- Every step of every thread keeps the bounds. -/
theorem kept_step (pcm : Pcm Sample) (ticks : MicTicks) :
    (system pcm ticks).Preserves (Kept pcm ticks) := by
  intro before label after kept stepped
  have aside := kept.control
  cases label with
  | pass later =>
    obtain ⟨order, passed⟩ := Option.ite_none_right_eq_some.mp stepped
    obtain rfl := Option.some.inj passed
    exact { kept with
      root := UInt64.le_trans kept.root order
      admitted := UInt64.le_trans kept.admitted order
      control := aside.move rfl rfl rfl rfl rfl order }
  | event peer event =>
    dsimp only [system, MicDriver.step] at stepped
    split at stepped
    case h_1 idle => exact Option.some.inj stepped ▸ kept.handle idle peer event
    case h_2 => cases stepped
  | tick =>
    dsimp only [system, MicDriver.step] at stepped
    split at stepped
    case h_1 idle => exact Option.some.inj stepped ▸ kept.beginTick idle
    case h_2 => cases stepped
  | control link samples => exact kept.controlling stepped
  | addClient client =>
    obtain ⟨-, added⟩ := Option.ite_none_left_eq_some.mp stepped
    obtain rfl := Option.some.inj added
    unfold MicDriver.addClient
    split
    · exact kept
    · exact { kept with control := aside.move rfl rfl rfl rfl rfl (UInt64.le_refl _) }
  | removeClient client =>
    obtain ⟨-, removed⟩ := Option.ite_none_left_eq_some.mp stepped
    obtain rfl := Option.some.inj removed
    exact { kept with control := aside.move rfl rfl rfl rfl rfl (UInt64.le_refl _) }
  | startIo client =>
    obtain ⟨-, started⟩ := Option.ite_none_left_eq_some.mp stepped
    unfold MicDriver.startIo at started
    split at started
    · split at started
      · obtain ⟨buffer, -, rfl⟩ := Option.map_eq_some_iff.mp started
        exact { kept with control := aside.move rfl rfl rfl rfl rfl (UInt64.le_refl _) }
      · obtain rfl := Option.some.inj started
        exact { kept with control := aside.move rfl rfl rfl rfl rfl (UInt64.le_refl _) }
    · exact Option.some.inj started ▸ kept
  | stopIo client =>
    obtain ⟨-, stopped⟩ := Option.ite_none_left_eq_some.mp stepped
    obtain rfl := Option.some.inj stopped
    unfold MicDriver.stopIo
    split
    · exact { kept with control := aside.move rfl rfl rfl rfl rfl (UInt64.le_refl _) }
    · exact kept
  | io =>
    dsimp only [system, MicDriver.step] at stepped
    split at stepped
    case h_1 place holder => exact kept.starting stepped
    case h_2 => cases stepped
  | read reader call =>
    dsimp only [system, MicDriver.step] at stepped
    split at stepped
    case h_1 => exact Option.some.inj stepped ▸ kept.setRead reader (Nat.le_refl _)
    case h_2 => cases stepped
  | clock reader =>
    obtain ⟨reading, here, read⟩ := Option.bind_eq_some_iff.mp stepped
    exact kept.clocking here read
  | load reader =>
    obtain ⟨reading, here, read⟩ := Option.bind_eq_some_iff.mp stepped
    exact kept.loading here read

/-- The bounds hold in every reachable state. -/
theorem reachable_kept {pcm : Pcm Sample} {ticks : MicTicks} {driver : MicDriver Sample}
    (reachable : (system pcm ticks).Reachable driver) : Kept pcm ticks driver := by
  apply (kept_step pcm ticks).reachable _ reachable
  rintro first ⟨now, rfl⟩
  exact {
    gate := fair_zero _ _ _
    broker := Nat.zero_le _
    root := UInt64.zero_le
    admitted := UInt64.zero_le
    ended := Nat.le_refl _
    closed := fun _ => rfl
    control := ⟨nofun, fun _ => ⟨rfl, rfl⟩⟩
    reads := fun _ _ here => nomatch here
    returned := fun _ member => nomatch member }

/-- What the other threads do to the history and to the reads. -/
structure Touches (pcm : Pcm Sample) (before after : MicDriver Sample) : Prop where
  /-- The history is as it was, or one step on. -/
  buffer : after.buffer = before.buffer ∨
    ∃ access, before.buffer.step pcm access = some after.buffer
  /-- The reads stay. -/
  reads : after.reads = before.reads
  /-- So does what was returned. -/
  returned : after.returned = before.returned

/-- A step of a tick is at most a step of the history. -/
theorem ticking_touches {before after : MicDriver Sample} {link : LinkWords}
    {samples : Nat → Sample × Sample} {tick : Tick} {place : TickPlace}
    (stepped : before.ticking pcm ticks link samples tick place = some after) :
    Touches pcm before after := by
  cases place with
  | lock =>
    obtain ⟨-, locked⟩ := Option.ite_none_left_eq_some.mp stepped
    exact Option.some.inj locked ▸ ⟨.inl rfl, rfl, rfl⟩
  | close =>
    obtain ⟨buffer, access, rfl⟩ := Option.map_eq_some_iff.mp stepped
    exact ⟨.inr ⟨_, access⟩, rfl, rfl⟩
  | block index =>
    obtain ⟨buffer, access, rfl⟩ := Option.map_eq_some_iff.mp stepped
    exact ⟨.inr ⟨_, access⟩, rfl, rfl⟩
  | reset =>
    dsimp only [MicDriver.ticking] at stepped
    split at stepped
    · exact Option.some.inj stepped ▸ ⟨.inl rfl, rfl, rfl⟩
    · obtain ⟨buffer, access, rfl⟩ := Option.map_eq_some_iff.mp stepped
      exact ⟨.inr ⟨_, access⟩, rfl, rfl⟩
  | write index =>
    dsimp only [MicDriver.ticking] at stepped
    split at stepped
    · exact Option.some.inj stepped ▸ ⟨.inl rfl, rfl, rfl⟩
    · obtain ⟨buffer, access, rfl⟩ := Option.map_eq_some_iff.mp stepped
      exact ⟨.inr ⟨_, access⟩, rfl, rfl⟩
  | generation =>
    dsimp only [MicDriver.ticking] at stepped
    split at stepped <;> exact Option.some.inj stepped ▸ ⟨.inl rfl, rfl, rfl⟩
  | producerSeed =>
    dsimp only [MicDriver.ticking] at stepped
    split at stepped <;> exact Option.some.inj stepped ▸ ⟨.inl rfl, rfl, rfl⟩
  | deadline =>
    dsimp only [MicDriver.ticking] at stepped
    split at stepped
    · obtain rfl := Option.some.inj stepped
      split <;> exact ⟨.inl rfl, rfl, rfl⟩
    · obtain rfl := Option.some.inj stepped
      split <;> exact ⟨.inl rfl, rfl, rfl⟩
  | sequence => exact Option.some.inj stepped ▸ ⟨.inl rfl, rfl, rfl⟩
  | anchor => exact Option.some.inj stepped ▸ ⟨.inl rfl, rfl, rfl⟩
  | seed => exact Option.some.inj stepped ▸ ⟨.inl rfl, rfl, rfl⟩
  | running => exact Option.some.inj stepped ▸ ⟨.inl rfl, rfl, rfl⟩
  | sequenceAgain => exact Option.some.inj stepped ▸ ⟨.inl rfl, rfl, rfl⟩
  | refuse => exact Option.some.inj stepped ▸ ⟨.inl rfl, rfl, rfl⟩
  | enter => exact Option.some.inj stepped ▸ ⟨.inl rfl, rfl, rfl⟩

/-- Whether a label is of a read. -/
def ofReads : DriverLabel Sample → Bool
  | .read _ _ | .clock _ | .load _ => true
  | _ => false

/-- A step of another thread is at most a step of the history. -/
theorem step_touches {before after : MicDriver Sample} {label : DriverLabel Sample}
    (other : ofReads label = false) (stepped : before.step pcm ticks label = some after) :
    Touches pcm before after := by
  cases label with
  | pass later =>
    obtain ⟨-, passed⟩ := Option.ite_none_right_eq_some.mp stepped
    exact Option.some.inj passed ▸ ⟨.inl rfl, rfl, rfl⟩
  | event peer event =>
    dsimp only [MicDriver.step] at stepped
    split at stepped
    case h_1 =>
      obtain rfl := Option.some.inj stepped
      cases event with
      | error =>
        dsimp only [MicDriver.handle]
        split <;> exact ⟨.inl rfl, rfl, rfl⟩
      | message message =>
        dsimp only [MicDriver.handle]
        repeat' split
        all_goals exact ⟨.inl rfl, rfl, rfl⟩
    case h_2 => cases stepped
  | tick =>
    dsimp only [MicDriver.step] at stepped
    split at stepped
    case h_1 =>
      obtain rfl := Option.some.inj stepped
      unfold MicDriver.beginTick
      dsimp only
      repeat' split
      all_goals exact ⟨.inl rfl, rfl, rfl⟩
    case h_2 => cases stepped
  | control link samples =>
    dsimp only [MicDriver.step] at stepped
    unfold MicDriver.controlling at stepped
    split at stepped
    case h_1 => cases stepped
    case h_2 place next _ =>
      cases place with
      | deadline => exact Option.some.inj stepped ▸ ⟨.inl rfl, rfl, rfl⟩
      | lease => exact Option.some.inj stepped ▸ ⟨.inl rfl, rfl, rfl⟩
      | lock =>
        obtain ⟨-, begun⟩ := Option.ite_none_left_eq_some.mp stepped
        obtain ⟨buffer, access, rfl⟩ := Option.map_eq_some_iff.mp begun
        exact ⟨.inr ⟨_, access⟩, rfl, rfl⟩
      | reset =>
        dsimp only [MicDriver.dropping] at stepped
        split at stepped
        · obtain rfl := Option.some.inj stepped
          cases next <;> exact ⟨.inl rfl, rfl, rfl⟩
        · obtain ⟨buffer, access, rfl⟩ := Option.map_eq_some_iff.mp stepped
          exact ⟨.inr ⟨_, access⟩, rfl, rfl⟩
    case h_3 => exact Option.some.inj stepped ▸ ⟨.inl rfl, rfl, rfl⟩
    case h_4 => exact Option.some.inj stepped ▸ ⟨.inl rfl, rfl, rfl⟩
    case h_5 => exact ticking_touches stepped
  | addClient client =>
    obtain ⟨-, added⟩ := Option.ite_none_left_eq_some.mp stepped
    obtain rfl := Option.some.inj added
    unfold MicDriver.addClient
    split <;> exact ⟨.inl rfl, rfl, rfl⟩
  | removeClient client =>
    obtain ⟨-, removed⟩ := Option.ite_none_left_eq_some.mp stepped
    exact Option.some.inj removed ▸ ⟨.inl rfl, rfl, rfl⟩
  | startIo client =>
    obtain ⟨-, started⟩ := Option.ite_none_left_eq_some.mp stepped
    unfold MicDriver.startIo at started
    split at started
    · split at started
      · obtain ⟨buffer, access, rfl⟩ := Option.map_eq_some_iff.mp started
        exact ⟨.inr ⟨_, access⟩, rfl, rfl⟩
      · exact Option.some.inj started ▸ ⟨.inl rfl, rfl, rfl⟩
    · exact Option.some.inj started ▸ ⟨.inl rfl, rfl, rfl⟩
  | stopIo client =>
    obtain ⟨-, stopped⟩ := Option.ite_none_left_eq_some.mp stepped
    obtain rfl := Option.some.inj stopped
    unfold MicDriver.stopIo
    split <;> exact ⟨.inl rfl, rfl, rfl⟩
  | io =>
    dsimp only [MicDriver.step] at stepped
    split at stepped
    case h_1 place _ =>
      cases place with
      | reset =>
        dsimp only [MicDriver.starting] at stepped
        split at stepped
        · exact Option.some.inj stepped ▸ ⟨.inl rfl, rfl, rfl⟩
        · obtain ⟨buffer, access, rfl⟩ := Option.map_eq_some_iff.mp stepped
          exact ⟨.inr ⟨_, access⟩, rfl, rfl⟩
      | anchor => exact Option.some.inj stepped ▸ ⟨.inl rfl, rfl, rfl⟩
      | seed => exact Option.some.inj stepped ▸ ⟨.inl rfl, rfl, rfl⟩
      | running => exact Option.some.inj stepped ▸ ⟨.inl rfl, rfl, rfl⟩
    case h_2 => cases stepped
  | read => cases other
  | clock => cases other
  | load => cases other

/-- The frames that a read carries. -/
def carried (reading : MicReading Sample) : List (Sample × Sample) :=
  match reading.place with
  | .leaseAgain samples | .gateAgain _ samples => samples
  | _ => []

/-- All samples in the driver are good. -/
structure All (good : Sample → Prop) (driver : MicDriver Sample) : Prop where
  /-- The history. -/
  buffer : driver.buffer.All good
  /-- The reads. -/
  reads : ∀ reader reading, driver.reads reader = some reading →
    ∀ frame ∈ carried reading, Both good frame
  /-- What was returned. -/
  returned : ∀ result ∈ driver.returned, ∀ frame ∈ result.samples, Both good frame

namespace All

/-- A read that goes on with good frames. -/
theorem setRead (all : driver.All good) (reader : Nat) {reading : MicReading Sample}
    (frames : ∀ frame ∈ carried reading, Both good frame) :
    (driver.setRead reader (some reading)).All good where
  buffer := all.buffer
  reads other found here := by
    by_cases same : other = reader
    · obtain rfl := Option.some.inj ((if_pos same).symm.trans here)
      exact frames
    · exact all.reads other found ((if_neg same).symm.trans here)
  returned := all.returned

/-- A read that returns good frames. -/
theorem finish (all : driver.All good) (reader : Nat) {result : MicResult Sample}
    (frames : ∀ frame ∈ result.samples, Both good frame) : (driver.finish reader result).All good where
  buffer := all.buffer
  reads other found here := by
    by_cases same : other = reader
    · cases (if_pos same).symm.trans here
    · exact all.reads other found ((if_neg same).symm.trans here)
  returned other member := by
    cases List.mem_append.mp member with
    | inl old => exact all.returned other old
    | inr new => exact List.mem_singleton.mp new ▸ frames

/-- A refused read. -/
theorem silence (all : driver.All good) (zero : good pcm.zero) (reader : Nat)
    (reading : MicReading Sample) : (driver.silence pcm reader reading).All good :=
  all.finish reader (SampleBuffer.All.silent zero _)

/-- The first comparison. -/
theorem compared (all : driver.All good) (zero : good pcm.zero)
    (clamps : ∀ sample, good (pcm.clamp sample)) {reader : Nat} {reading : MicReading Sample}
    {now : UInt64} {gate : Gate} {after : MicDriver Sample}
    (stepped : driver.compared pcm reader reading now gate = some after) : after.All good := by
  unfold MicDriver.compared at stepped
  split at stepped
  · exact Option.some.inj stepped ▸ all.silence zero reader reading
  · obtain ⟨buffer, access, rfl⟩ := Option.map_eq_some_iff.mp stepped
    have begun : MicDriver.All good { driver with buffer } :=
      { all with buffer := all.buffer.step zero clamps access }
    apply begun.setRead reader
    unfold carried
    dsimp only
    split
    · next place =>
      split at place
      · cases place
      · obtain rfl := MicReadPlace.leaseAgain.inj place
        exact SampleBuffer.All.silent zero _
    · next place => split at place <;> cases place
    · exact fun _ member => nomatch member

/-- The second comparison. -/
theorem comparedAgain (all : driver.All good) (zero : good pcm.zero) (reader : Nat)
    (reading : MicReading Sample) {samples : List (Sample × Sample)}
    (frames : ∀ frame ∈ samples, Both good frame) (now : UInt64) (gate : Gate) :
    (driver.comparedAgain pcm reader reading samples now gate).All good := by
  unfold MicDriver.comparedAgain
  split
  · exact all.silence zero reader reading
  · exact all.finish reader frames

/-- The last finished read of the history. -/
theorem lastRead {buffer : SampleBuffer Sample} (all : buffer.All good) :
    ∀ frame ∈ MicDriver.lastRead buffer, Both good frame := by
  intro frame member
  unfold MicDriver.lastRead at member
  cases last : buffer.returned.getLast? with
  | none =>
    rw [last] at member
    cases member
  | some result =>
    rw [last] at member
    exact all.returned result (List.mem_of_getLast? last) frame member

/-- Every step of every thread keeps good samples good. -/
theorem step (all : driver.All good) (zero : good pcm.zero)
    (clamps : ∀ sample, good (pcm.clamp sample)) {label : DriverLabel Sample}
    {after : MicDriver Sample} (stepped : driver.step pcm ticks label = some after) :
    after.All good := by
  by_cases other : ofReads label = false
  · obtain ⟨buffer, reads, returned⟩ := step_touches other stepped
    have held : after.buffer.All good := by
      cases buffer with
      | inl same => exact same ▸ all.buffer
      | inr access => exact all.buffer.step zero clamps access.choose_spec
    exact ⟨held, reads ▸ all.reads, returned ▸ all.returned⟩
  · cases label with
    | read reader call =>
      dsimp only [MicDriver.step] at stepped
      split at stepped
      case h_1 => exact Option.some.inj stepped ▸ all.setRead reader fun _ member => nomatch member
      case h_2 => cases stepped
    | clock reader =>
      obtain ⟨reading, here, read⟩ := Option.bind_eq_some_iff.mp stepped
      have frames := all.reads reader reading here
      unfold carried at frames
      unfold MicDriver.clocking at read
      split at read
      case h_1 => exact Option.some.inj read ▸ all.setRead reader fun _ member => nomatch member
      case h_2 => exact all.compared zero clamps read
      case h_3 samples place =>
        rw [place] at frames
        exact Option.some.inj read ▸ all.setRead reader frames
      case h_4 gate samples place =>
        rw [place] at frames
        exact Option.some.inj read ▸ all.comparedAgain zero reader reading frames _ _
      case h_5 => cases read
    | load reader =>
      obtain ⟨reading, here, read⟩ := Option.bind_eq_some_iff.mp stepped
      have frames := all.reads reader reading here
      unfold carried at frames
      unfold MicDriver.loading at read
      split at read
      case h_1 =>
        split at read
        · exact Option.some.inj read ▸ all.silence zero reader reading
        · exact Option.some.inj read ▸ all.setRead reader fun _ member => nomatch member
      case h_2 => exact Option.some.inj read ▸ all.setRead reader fun _ member => nomatch member
      case h_3 => exact all.compared zero clamps read
      case h_4 => cases read
      case h_5 =>
        obtain ⟨buffer, access, rfl⟩ := Option.map_eq_some_iff.mp read
        have held := all.buffer.step zero clamps access
        have loaded : MicDriver.All good { driver with buffer } := { all with buffer := held }
        apply loaded.setRead reader
        unfold carried
        dsimp only
        split
        · next place =>
          split at place
          · cases place
          · obtain rfl := MicReadPlace.leaseAgain.inj place
            exact lastRead held
        · next place => split at place <;> cases place
        · exact fun _ member => nomatch member
      case h_6 samples place =>
        rw [place] at frames
        split at read
        · exact Option.some.inj read ▸ all.silence zero reader reading
        · exact Option.some.inj read ▸ all.setRead reader frames
      case h_7 samples place =>
        rw [place] at frames
        exact Option.some.inj read ▸ all.setRead reader frames
      case h_8 now samples place =>
        rw [place] at frames
        exact Option.some.inj read ▸ all.comparedAgain zero reader reading frames _ _
      case h_9 => cases read
    | _ => exact absurd rfl other

end All

/-- What a reader is given. -/
structure Delivery (ticks : MicTicks) (result : MicResult FloatSample) : Prop where
  /-- Every sample is a number of at most one, either way. -/
  within : ∀ frame ∈ result.samples, frame.1.Within ∧ frame.2.Within
  /-- Anything but silence is given under a lease, and before a deadline that is set by the last
  admitting tick and the last root message; the lease was attached after the last detach or loss of
  the connection that was handled before the read began. -/
  admitted : (∃ frame ∈ result.samples, frame ≠ (.finite 0, .finite 0)) →
    ∃ judgement, result.judgement = some judgement ∧ judgement.lease ≠ 0 ∧
      judgement.gate.installed ≠ 0 ∧ judgement.now < judgement.gate.deadline ∧
      judgement.gate.deadline.toNat ≤ judgement.gate.admitted.toNat + ticks.halfSecond.toNat ∧
      judgement.gate.deadline.toNat ≤ judgement.gate.root.toNat + ticks.twoSeconds.toNat ∧
      judgement.ended < judgement.observed

/-- Samples that are mixed by taking the left one. -/
def leftMix : Nat → Nat → FloatSample → FloatSample → FloatSample := fun _ _ left _ => left

/-- A clock of a hundred ticks a second. -/
def plainTicks : MicTicks := ⟨100, 200, 50, fun elapsed => elapsed * 480, 0x30000⟩

/-- The timer makes a connection, the broker detaches a lease that is not installed, and a thread
reads. -/
def detachedRun : List (DriverLabel FloatSample) :=
  [.pass 5, .tick, .event 0 (.message ⟨true, true, some 2, some 3, some 9, 3, none, true⟩),
    .read 0 ⟨0, 2⟩, .load 0]

end MicDriver

end Plank.Audio
