import Mathlib
import Plank.Audio.SampleBuffer
import Plank.Transition.System

/-!
# The client table of the two HAL drivers

`output-driver.c` and `microphone-driver.c` keep the same table of clients with the same functions;
the microphone also clears its sample history. Calls take `stateLock`, so they follow one another;
`timestamp` does not, so its loads fall between any two stores of a start. What an observer keeps
beside the driver: the clock that `initialize` stored, the clock of every rise of the running count
from zero to one, and what every `timestamp` returned.
-/

namespace Plank.Audio

/-- An entry of `clients`. -/
structure ClientSlot where
  /-- `id`. -/
  id : UInt32 := 0
  /-- `used`. -/
  used : Bool := false
  /-- `running`. -/
  running : Bool := false
  deriving DecidableEq, Repr

/-- The results of the calls. -/
inductive HalStatus where
  /-- `noErr`. -/
  | noErr
  /-- `kAudioHardwareIllegalOperationError`. -/
  | illegalOperation
  /-- `kAudioHardwareBadObjectError`. -/
  | badObject
  deriving DecidableEq, Repr

/-- What one driver has of its own. -/
structure HalKind (History : Type) where
  /-- Its device. -/
  device : UInt32
  /-- How many clients its table holds. -/
  maxClients : Nat
  /-- What is initialized with the clock. -/
  initialHistory : History
  /-- What the first start of IO resets. -/
  reset : History → History

/-- What `timestamp` computes from `ticksPerFrame`. -/
structure HalTicks where
  /-- `floor(elapsed / (ticksPerFrame * PLANKAudioZeroTimeStampPeriod))`. -/
  periods : UInt64 → Nat
  /-- `(UInt64)(sample * ticksPerFrame)`. -/
  ofSample : Nat → UInt64

/-- The stores of a start that takes the running count from zero to one. -/
inductive StartPlace where
  /-- `anchor`. -/
  | anchor
  /-- `clockSeed`. -/
  | seed
  /-- `running`, and the lock is left. -/
  | running
  deriving DecidableEq, Repr

/-- A `timestamp` on its way. -/
structure Stamping where
  /-- `base`. -/
  base : UInt64
  /-- `now`, once the clock is read. -/
  now : Option UInt64 := none
  /-- Whether a client ran ever since `base` was loaded. -/
  ran : Bool
  deriving DecidableEq, Repr

/-- What a `timestamp` returned. -/
structure Stamp where
  /-- `sample`. -/
  sample : Nat
  /-- `time`. -/
  time : UInt64
  /-- `seed`. -/
  seed : UInt64
  /-- `base`. -/
  base : UInt64
  /-- Whether a client ran all the while. -/
  ran : Bool
  deriving DecidableEq, Repr

/-- A driver. -/
structure HalDriver (History : Type) where
  /-- Whether there is a `host`. -/
  host : Bool := false
  /-- `clients`. -/
  clients : List ClientSlot
  /-- `running`. -/
  running : UInt32 := 0
  /-- `anchor`. -/
  anchor : UInt64 := 0
  /-- `clockSeed`. -/
  clockSeed : UInt64 := 0
  /-- What the first start of IO resets. -/
  history : History
  /-- The start that holds `stateLock`, at its next store. -/
  lock : Option StartPlace := none
  /-- The clock. -/
  now : UInt64 := 0
  /-- The calls of `timestamp`. -/
  stampings : Nat → Option Stamping := fun _ => none
  /-- `anchor` and `clockSeed` as `initialize` stored them. -/
  first : UInt64 × UInt64 := (0, 0)
  /-- `anchor` and `clockSeed` at every rise of `running` from zero to one, oldest first. -/
  starts : List (UInt64 × UInt64) := []
  /-- What every `timestamp` returned, oldest first. -/
  stamps : List Stamp := []

/-- The calls that take `stateLock`; `driver` tells whether the reference is the driver's own. -/
inductive HalCall where
  /-- `initialize`, with an owner or without. -/
  | initializeDriver (driver owner : Bool)
  /-- `addClient`, with the client's identity or without. -/
  | addClient (driver : Bool) (device : UInt32) (info : Option UInt32)
  /-- `removeClient`. -/
  | removeClient (driver : Bool) (device : UInt32) (info : Option UInt32)
  /-- `startIO`. -/
  | startIO (driver : Bool) (device client : UInt32)
  /-- `stopIO`. -/
  | stopIO (driver : Bool) (device client : UInt32)
  deriving DecidableEq, Repr

namespace HalDriver

variable {History : Type} (kind : HalKind History)

/-- Whether an entry is a client's. -/
def ownedBy (client : UInt32) (slot : ClientSlot) : Bool := slot.used && slot.id == client

/-- The index of a client's entry. -/
def indexOf (driver : HalDriver History) (client : UInt32) : Option Nat :=
  driver.clients.findIdx? (ownedBy client)

/-- `initialize`. -/
def initializeDriver (driver : HalDriver History) (reference owner : Bool) :
    HalStatus × HalDriver History :=
  if !reference || !owner then (.illegalOperation, driver)
  else if !driver.host then
    (.noErr, { driver with
      anchor := driver.now, clockSeed := 1, host := true, history := kind.initialHistory
      first := (driver.now, 1) })
  else (.noErr, driver)

/-- `addClient`. -/
def addClient (driver : HalDriver History) (reference : Bool) (device : UInt32)
    (info : Option UInt32) : HalStatus × HalDriver History :=
  match info with
  | some client =>
    if !reference || device != kind.device then (.badObject, driver)
    else
      match driver.indexOf client with
      | some _ => (.noErr, driver)
      | none =>
        match driver.clients.findIdx? fun slot => !slot.used with
        | some index =>
          (.noErr, { driver with clients := driver.clients.set index ⟨client, true, false⟩ })
        | none => (.illegalOperation, driver)
  | none => (.badObject, driver)

/-- `removeClient`; the identity stays in the entry. -/
def removeClient (driver : HalDriver History) (reference : Bool) (device : UInt32)
    (info : Option UInt32) : HalStatus × HalDriver History :=
  match info with
  | some client =>
    if !reference || device != kind.device then (.badObject, driver)
    else
      match driver.indexOf client with
      | some index =>
        let slot := driver.clients.getD index {}
        (.noErr, { driver with
          running := if slot.running then driver.running - 1 else driver.running
          clients := driver.clients.set index { slot with used := false, running := false } })
      | none => (.noErr, driver)
  | none => (.badObject, driver)

/-- `changeIO`, up to the stores of a start from zero that others can see. -/
def changeIO (driver : HalDriver History) (reference : Bool) (device client : UInt32)
    (start : Bool) : HalStatus × HalDriver History :=
  if !reference || device != kind.device || !driver.host then (.badObject, driver)
  else
    match driver.indexOf client with
    | some index =>
      let slot := driver.clients.getD index {}
      if slot.running != start then
        let marked : HalDriver History :=
          { driver with clients := driver.clients.set index { slot with running := start } }
        if start then
          if driver.running = 0 then
            (.noErr, { marked with history := kind.reset driver.history, lock := some .anchor })
          else (.noErr, { marked with running := driver.running + 1 })
        else (.noErr, { marked with running := driver.running - 1 })
      else (.noErr, driver)
    | none => (.illegalOperation, driver)

/-- `startIO`. -/
def startIO (driver : HalDriver History) (reference : Bool) (device client : UInt32) :
    HalStatus × HalDriver History := driver.changeIO kind reference device client true

/-- `stopIO`. -/
def stopIO (driver : HalDriver History) (reference : Bool) (device client : UInt32) :
    HalStatus × HalDriver History := driver.changeIO kind reference device client false

/-- A call that takes `stateLock`. -/
def call (driver : HalDriver History) : HalCall → HalStatus × HalDriver History
  | .initializeDriver reference owner => driver.initializeDriver kind reference owner
  | .addClient reference device info => driver.addClient kind reference device info
  | .removeClient reference device info => driver.removeClient kind reference device info
  | HalCall.startIO reference device client => driver.startIO kind reference device client
  | HalCall.stopIO reference device client => driver.stopIO kind reference device client

/-- The next store of a start from zero. -/
def storing (driver : HalDriver History) : StartPlace → HalDriver History
  | .anchor => { driver with anchor := driver.now, lock := some .seed }
  | .seed => { driver with clockSeed := driver.clockSeed + 1, lock := some .running }
  | .running => { driver with running := driver.running + 1, lock := none }

/-- Change one call of `timestamp`. -/
def setStamping (driver : HalDriver History) (reader : Nat) (stamping : Option Stamping) :
    HalDriver History :=
  { driver with
    stampings := fun other => if other = reader then stamping else driver.stampings other }

/-- `timestamp` up to its first load; `given` tells whether its arguments pass. -/
def timestamp (driver : HalDriver History) (reader : Nat) (given : Bool) : HalDriver History :=
  if !given || !driver.host then driver
  else driver.setStamping reader (some { base := driver.anchor, ran := driver.running ≠ 0 })

/-- The next access of a `timestamp`: the clock, then the seed. -/
def stamping (ticks : HalTicks) (driver : HalDriver History) (reader : Nat) (stamping : Stamping) :
    HalDriver History :=
  match stamping.now with
  | none => driver.setStamping reader (some { stamping with now := some driver.now })
  | some now =>
    let sample := ticks.periods (now - stamping.base) * 15840
    { driver.setStamping reader none with
      stamps := driver.stamps ++
        [⟨sample, stamping.base + ticks.ofSample sample, driver.clockSeed, stamping.base,
          stamping.ran⟩] }

/-- What happens next. -/
inductive Label where
  /-- Time passes. -/
  | pass (later : UInt64)
  /-- A call that takes `stateLock`. -/
  | call (call : HalCall)
  /-- The next store of a start from zero. -/
  | store
  /-- A reader calls `timestamp`. -/
  | timestamp (reader : Nat) (given : Bool)
  /-- Its next access. -/
  | stamp (reader : Nat)
  deriving DecidableEq, Repr

/-- What the threads do. -/
def act (ticks : HalTicks) (driver : HalDriver History) : Label → Option (HalDriver History)
  | .pass later => if driver.now ≤ later then some { driver with now := later } else none
  | .call call => if driver.lock.isSome then none else some (driver.call kind call).2
  | .store => driver.lock.map driver.storing
  | .timestamp reader given =>
    match driver.stampings reader with
    | none => some (driver.timestamp reader given)
    | some _ => none
  | .stamp reader => (driver.stampings reader).map (driver.stamping ticks reader)

/-- What the observer notes of a step: a rise of the running count, and where no client runs. -/
def observe (before after : HalDriver History) : HalDriver History :=
  { after with
    starts := if before.running = 0 ∧ after.running = 1 then
        after.starts ++ [(after.anchor, after.clockSeed)] else after.starts
    stampings := fun reader => (after.stampings reader).map fun stamping =>
      { stamping with ran := stamping.ran && after.running ≠ 0 } }

/-- One step. -/
def step (ticks : HalTicks) (driver : HalDriver History) (label : Label) :
    Option (HalDriver History) :=
  (driver.act kind ticks label).map driver.observe

/-- As it is loaded. -/
def fresh : HalDriver History :=
  { clients := List.replicate kind.maxClients {}, history := kind.initialHistory }

/-- Every order of calls, stores and loads. -/
def system (ticks : HalTicks) : Transition.System (HalDriver History) Label where
  initial driver := ∃ now, driver = { fresh kind with now }
  step := step kind ticks

end HalDriver

/-- `output-driver.c`. -/
def outputDriver : HalKind Unit where
  device := 2
  maxClients := 64
  initialHistory := ()
  reset := id

variable {Sample : Type}

/-- The whole of `PLANKMicBufferReset(&micBuffer, 0)`. -/
def SampleMemory.cleared (memory : SampleMemory Sample) : SampleMemory Sample where
  generation := memory.generation + 2
  firstFrame := 0
  samples cell :=
    if cell < micFrames.toNat then { memory.samples cell with frame := 0 } else memory.samples cell

/-- `microphone-driver.c`. -/
def microphoneDriver (pcm : Pcm Sample) : HalKind (SampleMemory Sample) where
  device := 2
  maxClients := 64
  initialHistory := (SampleBuffer.fresh pcm).memory
  reset := SampleMemory.cleared

end Plank.Audio
