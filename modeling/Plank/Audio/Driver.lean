import Plank.Audio.SampleBuffer

/-!
# The virtual microphone driver

`microphone-driver-ipc.h` with what `microphone-driver.c` does to the same variables. Messages of the
root broker and the timer run on one control queue; IO starts and stops on threads of the HAL; reads
on any number of real-time threads. Every access to a variable that another of them sees is a step
of its own. The memory shared with the producer is not part of the state: what it holds comes with
each step that looks at it. What an observer keeps beside the driver: when the last root message and
the last tick that admitted the producer were, how many leases were attached and ended, and what
every read returned.
-/

namespace Plank.Audio

/-- `PLANKMicLinkVersion`. -/
def micLinkVersion : UInt64 := 2

/-- `MicMaxClients`. -/
def micMaxClients : Nat := 64

/-- What is computed from `ticksPerFrame` and the page size. -/
structure MicTicks where
  /-- `(uint64_t)(ticksPerFrame * PLANKMicRate)`. -/
  second : UInt64
  /-- `(uint64_t)(ticksPerFrame * PLANKMicRate * 2)`. -/
  twoSeconds : UInt64
  /-- `(uint64_t)(ticksPerFrame * PLANKMicRate / 2)`. -/
  halfSecond : UInt64
  /-- `(uint64_t)(elapsed / ticksPerFrame)`. -/
  frames : UInt64 → UInt64
  /-- `micLinkBytes`. -/
  linkBytes : UInt64

/-- The words of `PLANKMicLink` apart from its samples, and their generation. -/
structure LinkWords where
  /-- `clockSequence`. -/
  clockSequence : UInt64
  /-- `anchor`. -/
  anchor : UInt64
  /-- `seed`. -/
  seed : UInt64
  /-- `running`. -/
  running : UInt32
  /-- `producerSeed`. -/
  producerSeed : UInt64
  /-- `deadline`. -/
  deadline : UInt64
  /-- `samples.generation`. -/
  generation : UInt64
  deriving DecidableEq, Repr

/-- The memory of a message, as it is mapped; without a size it was not mapped. -/
structure SharedMemory where
  /-- The size of the mapping. -/
  size : UInt64
  /-- `version`. -/
  version : UInt64
  deriving DecidableEq, Repr

/-- A message of the broker. -/
structure BrokerMessage where
  /-- Whether the peer's effective user is root. -/
  root : Bool
  /-- Whether it is a dictionary. -/
  dictionary : Bool
  /-- The word `version`. -/
  version : Option UInt64
  /-- The word `operation`. -/
  operation : Option UInt64
  /-- The word `lease`. -/
  lease : Option UInt64
  /-- How many entries it has. -/
  count : Nat
  /-- The entry `memory`. -/
  memory : Option SharedMemory
  /-- Whether a reply can be made. -/
  reply : Bool
  deriving DecidableEq, Repr

/-- What the connection to the broker tells. -/
inductive BrokerEvent where
  /-- The connection is gone. -/
  | error
  /-- A message. -/
  | message (message : BrokerMessage)
  deriving DecidableEq, Repr

/-- What comes after `micDropLink`. -/
inductive AfterDrop where
  /-- The tick or the refused message returns. -/
  | done
  /-- The connection is given up. -/
  | lost
  /-- The detach is answered. -/
  | detached
  /-- The new memory is installed. -/
  | attach (lease : UInt64)
  deriving DecidableEq, Repr

/-- The accesses of `micDropLink`. -/
inductive DropPlace where
  /-- `micInputDeadline` is cleared. -/
  | deadline
  /-- `micInputLease` is cleared. -/
  | lease
  /-- `stateLock` is taken and the reset begins. -/
  | lock
  /-- The history is reset, then the lock is left and the link forgotten. -/
  | reset
  deriving DecidableEq, Repr

/-- The accesses of `micIPCTick`. -/
inductive TickPlace where
  /-- `stateLock` is taken, and `anchor`, `clockSeed` and `running` are loaded. -/
  | lock
  /-- `clockSequence` is counted up. -/
  | sequence
  /-- `anchor` is stored. -/
  | anchor
  /-- `seed` is stored. -/
  | seed
  /-- `running` is stored. -/
  | running
  /-- `clockSequence` is counted up again. -/
  | sequenceAgain
  /-- `samples.generation` is loaded. -/
  | generation
  /-- `micInputDeadline` is cleared for a new seed or generation. -/
  | close
  /-- The history is reset. -/
  | reset
  /-- `deadline` is loaded. -/
  | deadline
  /-- `producerSeed` is loaded. -/
  | producerSeed
  /-- `micInputDeadline` is cleared and the lock is left. -/
  | refuse
  /-- A block is read from the link and its write begins. -/
  | block (index : Nat)
  /-- The block is written to the history. -/
  | write (index : Nat)
  /-- `micInputDeadline` is stored and the lock is left. -/
  | enter
  deriving DecidableEq, Repr

/-- The variables of a tick. -/
structure Tick where
  /-- `now`. -/
  now : UInt64
  /-- `base`. -/
  base : UInt64 := 0
  /-- `seed`. -/
  seed : UInt64 := 0
  /-- `active`. -/
  active : UInt32 := 0
  /-- `generation`. -/
  generation : UInt64 := 0
  /-- `deadline`. -/
  deadline : UInt64 := 0
  /-- `frame`. -/
  frame : UInt64 := 0
  deriving DecidableEq, Repr

/-- What the control queue is doing. -/
inductive ControlStage where
  /-- Nothing. -/
  | idle
  /-- `micDropLink`. -/
  | drop (place : DropPlace) (next : AfterDrop)
  /-- An attach fills in the link. -/
  | install (lease : UInt64)
  /-- An attach stores `micInputLease`. -/
  | publish (lease : UInt64)
  /-- `micIPCTick`. -/
  | tick (place : TickPlace) (tick : Tick)
  deriving DecidableEq, Repr

/-- The accesses of the first start of IO. -/
inductive IoPlace where
  /-- The history is reset. -/
  | reset
  /-- `anchor` is stored. -/
  | anchor
  /-- `clockSeed` is counted up. -/
  | seed
  /-- `running` is counted up and the lock is left. -/
  | running
  deriving DecidableEq, Repr

/-- Who holds `stateLock` over several steps. -/
inductive LockHolder where
  /-- The control queue. -/
  | control
  /-- A start of IO. -/
  | io (place : IoPlace)
  deriving DecidableEq, Repr

/-- What a read learns when it loads `micInputDeadline`. -/
structure Gate where
  /-- `micInputDeadline`. -/
  deadline : UInt64
  /-- `micLease`. -/
  installed : UInt64
  /-- When the last attach or renewal was. -/
  root : UInt64
  /-- When the last tick that found the producer's deadline in the future was. -/
  admitted : UInt64
  deriving DecidableEq, Repr

/-- How far a comparison of the clock with `micInputDeadline` is; the order is not fixed. -/
inductive Comparison where
  /-- Neither is read. -/
  | open_
  /-- The clock is read. -/
  | clocked (now : UInt64)
  /-- `micInputDeadline` is loaded. -/
  | loaded (gate : Gate)
  deriving DecidableEq, Repr

/-- The accesses of `micIPCRead`. -/
inductive MicReadPlace (Sample : Type) where
  /-- `micInputLease` is loaded. -/
  | lease
  /-- The first comparison. -/
  | gate (comparison : Comparison)
  /-- `PLANKMicBufferRead`. -/
  | copy
  /-- `micInputLease` is loaded again. -/
  | leaseAgain (samples : List (Sample × Sample))
  /-- The second comparison. -/
  | gateAgain (comparison : Comparison) (samples : List (Sample × Sample))
  deriving DecidableEq, Repr

/-- A call of `micIPCRead`. -/
structure MicReading (Sample : Type) where
  /-- Its arguments. -/
  call : SampleRead
  /-- What comes next. -/
  place : MicReadPlace Sample
  /-- `lease`. -/
  lease : UInt64 := 0
  /-- How many leases had been attached when the last lease ended before it began. -/
  ended : Nat
  /-- How many leases had been attached when it loaded `micInputLease`. -/
  observed : Nat := 0
  deriving DecidableEq, Repr

/-- What a read that passed both comparisons went by. -/
structure Judgement where
  /-- The lease it found twice. -/
  lease : UInt64
  /-- The clock of the second comparison. -/
  now : UInt64
  /-- The deadline of the second comparison. -/
  gate : Gate
  /-- How many leases had been attached when the last lease ended before it began. -/
  ended : Nat
  /-- How many leases had been attached when it first loaded `micInputLease`. -/
  observed : Nat
  deriving DecidableEq, Repr

/-- What a read returned. -/
structure MicResult (Sample : Type) where
  /-- Its arguments. -/
  call : SampleRead
  /-- `samples`. -/
  samples : List (Sample × Sample)
  /-- What it went by; nothing where it was refused. -/
  judgement : Option Judgement
  deriving DecidableEq, Repr

/-- The driver. -/
structure MicDriver (Sample : Type) where
  /-- The clock. -/
  now : UInt64 := 0
  /-- `micInputDeadline`. -/
  inputDeadline : UInt64 := 0
  /-- `micInputLease`. -/
  inputLease : UInt64 := 0
  /-- Whether there is a `micLink`. -/
  linked : Bool := false
  /-- `micLease`. -/
  lease : UInt64 := 0
  /-- `micBrokerDeadline`. -/
  brokerDeadline : UInt64 := 0
  /-- `micConnectAt`. -/
  connectAt : UInt64 := 0
  /-- `micCopiedSeed`. -/
  copiedSeed : UInt64 := 0
  /-- `micCopiedGeneration`. -/
  copiedGeneration : UInt64 := 0
  /-- `micControlPeer`, numbered. -/
  peer : Option Nat := none
  /-- How many connections were made. -/
  peers : Nat := 0
  /-- The `accepted` of every reply. -/
  replies : List Bool := []
  /-- `anchor`. -/
  anchor : UInt64 := 0
  /-- `clockSeed`. -/
  clockSeed : UInt64 := 1
  /-- `running`. -/
  running : UInt32 := 0
  /-- `clients` that are used, and whether each is running. -/
  clients : List (UInt32 × Bool) := []
  /-- `stateLock`. -/
  lock : Option LockHolder := none
  /-- The control queue. -/
  control : ControlStage := .idle
  /-- `micBuffer`, with its writer and its readers. -/
  buffer : SampleBuffer Sample
  /-- The reads. -/
  reads : Nat → Option (MicReading Sample) := fun _ => none
  /-- When the last attach or renewal was. -/
  root : UInt64 := 0
  /-- When the last tick that found the producer's deadline in the future was. -/
  admitted : UInt64 := 0
  /-- How many leases were attached. -/
  attaches : Nat := 0
  /-- How many had been attached when the last detach or loss of the connection was handled. -/
  ended : Nat := 0
  /-- What every read returned, oldest first. -/
  returned : List (MicResult Sample) := []

/-- What happens next. -/
inductive DriverLabel (Sample : Type) where
  /-- Time passes. -/
  | pass (later : UInt64)
  /-- The connection to the broker tells something. -/
  | event (peer : Nat) (event : BrokerEvent)
  /-- The timer fires. -/
  | tick
  /-- The next access of the control queue: what the link holds, and what is read of its samples. -/
  | control (link : LinkWords) (samples : Nat → Sample × Sample)
  /-- `addClient`. -/
  | addClient (client : UInt32)
  /-- `removeClient`. -/
  | removeClient (client : UInt32)
  /-- `startIo`. -/
  | startIo (client : UInt32)
  /-- `stopIo`. -/
  | stopIo (client : UInt32)
  /-- The next access of a start of IO. -/
  | io
  /-- A thread calls `micIPCRead`. -/
  | read (reader : Nat) (call : SampleRead)
  /-- It reads the clock. -/
  | clock (reader : Nat)
  /-- Its next load. -/
  | load (reader : Nat)

variable {Sample : Type}

namespace MicDriver

/-- Whether nothing is written to the history. -/
def quiet (driver : MicDriver Sample) : Bool :=
  match driver.buffer.writer with
  | .idle => true
  | _ => false

/-- Whether a message is valid. -/
def valid (message : BrokerMessage) : Bool :=
  message.root && message.dictionary && message.version == some micLinkVersion &&
    message.operation.isSome && message.lease.isSome && message.lease != some 0

/-- Whether the memory of a message can be the link. -/
def fits (ticks : MicTicks) (memory : SharedMemory) : Bool :=
  memory.size != 0 && memory.size == ticks.linkBytes && memory.version == micLinkVersion

/-- The reply to a message. -/
def answer (driver : MicDriver Sample) (accepted : Bool) : MicDriver Sample :=
  { driver with replies := driver.replies ++ [accepted] }

/-- The event handler of the connection. -/
def handle (ticks : MicTicks) (driver : MicDriver Sample) (peer : Nat) :
    BrokerEvent → MicDriver Sample
  | .error =>
    if driver.peer ≠ some peer then driver
    else { driver with control := .drop .deadline .lost }
  | .message message =>
    if driver.peer ≠ some peer then driver
    else if !valid message || !message.reply then { driver with control := .drop .deadline .done }
    else
      let lease := message.lease.getD 0
      match message.operation with
      | some 1 =>
        match message.memory with
        | some memory =>
          if message.count = 4 && fits ticks memory then
            { driver with control := .drop .deadline (.attach lease) }
          else driver.answer false
        | none => driver.answer false
      | some 2 =>
        if message.count = 3 && lease = driver.lease then
          { driver.answer true with
            brokerDeadline := driver.now + ticks.twoSeconds
            root := driver.now }
        else driver.answer false
      | some 3 =>
        if message.count = 3 then
          if lease = driver.lease then { driver with control := .drop .deadline .detached }
          else driver.answer true
        else driver.answer false
      | _ => driver.answer false

/-- The beginning of `micIPCTick`, up to where it takes the lock. -/
def beginTick (ticks : MicTicks) (driver : MicDriver Sample) : MicDriver Sample :=
  let driver :=
    if driver.peer.isNone && driver.connectAt ≤ driver.now then
      { driver with
        connectAt := driver.now + ticks.second
        peer := some driver.peers
        peers := driver.peers + 1 }
    else driver
  if !driver.linked then driver
  else if driver.brokerDeadline ≤ driver.now then { driver with control := .drop .deadline .done }
  else { driver with control := .tick .lock { now := driver.now } }

/-- The end of `micDropLink`, and what comes after it. -/
def dropped (driver : MicDriver Sample) (next : AfterDrop) : MicDriver Sample :=
  let driver := { driver with
    lock := none
    linked := false
    lease := 0
    brokerDeadline := 0
    copiedSeed := 0
    copiedGeneration := 0 }
  match next with
  | .done => { driver with control := .idle }
  | .lost => { driver with control := .idle, peer := none, ended := driver.attaches }
  | .detached => { driver.answer true with control := .idle, ended := driver.attaches }
  | .attach lease => { driver with control := .install lease }

/-- One access of `micDropLink`. -/
def dropping (pcm : Pcm Sample) (driver : MicDriver Sample) (next : AfterDrop) :
    DropPlace → Option (MicDriver Sample)
  | .deadline => some { driver with inputDeadline := 0, control := .drop .lease next }
  | .lease => some { driver with inputLease := 0, control := .drop .lock next }
  | .lock =>
    if driver.lock.isSome then none
    else (driver.buffer.step pcm (.reset 0)).map fun buffer =>
      { driver with buffer, lock := some .control, control := .drop .reset next }
  | .reset =>
    if driver.quiet then some (driver.dropped next)
    else (driver.buffer.step pcm .store).map fun buffer => { driver with buffer }

/-- The clean sample of a channel. -/
def sanitized (pcm : Pcm Sample) (sample : Sample) : Sample :=
  if pcm.finite sample then pcm.clamp sample else pcm.zero

/-- The first frame that a tick copies. -/
def firstFrame (ticks : MicTicks) (tick : Tick) : UInt64 :=
  let frame := ticks.frames (tick.now - tick.base) / 480 * 480
  if 480 ≤ frame then frame - 480 else frame

/-- The deadline that a tick admits. -/
def admittedDeadline (ticks : MicTicks) (driver : MicDriver Sample) (tick : Tick) : UInt64 :=
  let cap := tick.now + ticks.halfSecond
  let deadline := if cap < tick.deadline then cap else tick.deadline
  if driver.brokerDeadline < deadline then driver.brokerDeadline else deadline

/-- One access of `micIPCTick`. -/
def ticking (pcm : Pcm Sample) (ticks : MicTicks) (driver : MicDriver Sample) (link : LinkWords)
    (samples : Nat → Sample × Sample) (tick : Tick) : TickPlace → Option (MicDriver Sample)
  | .lock =>
    if driver.lock.isSome then none
    else some { driver with
      lock := some .control
      control := .tick .sequence { tick with
        base := driver.anchor, seed := driver.clockSeed, active := driver.running } }
  | .sequence => some { driver with control := .tick .anchor tick }
  | .anchor => some { driver with control := .tick .seed tick }
  | .seed => some { driver with control := .tick .running tick }
  | .running => some { driver with control := .tick .sequenceAgain tick }
  | .sequenceAgain => some { driver with control := .tick .generation tick }
  | .generation =>
    let tick := { tick with generation := link.generation }
    if tick.seed ≠ driver.copiedSeed || tick.generation ≠ driver.copiedGeneration then
      some { driver with control := .tick .close tick }
    else some { driver with control := .tick .deadline tick }
  | .close =>
    (driver.buffer.step pcm (.reset 0)).map fun buffer =>
      { driver with buffer, inputDeadline := 0, control := .tick .reset tick }
  | .reset =>
    if driver.quiet then
      some { driver with
        copiedSeed := tick.seed, copiedGeneration := tick.generation
        control := .tick .deadline tick }
    else (driver.buffer.step pcm .store).map fun buffer => { driver with buffer }
  | .deadline =>
    let tick := { tick with deadline := link.deadline }
    let driver :=
      if tick.now < tick.deadline then { driver with admitted := tick.now } else driver
    if tick.active = 0 || tick.now < tick.base || tick.deadline ≤ tick.now then
      some { driver with control := .tick .refuse tick }
    else some { driver with control := .tick .producerSeed tick }
  | .producerSeed =>
    if link.producerSeed ≠ tick.seed then some { driver with control := .tick .refuse tick }
    else some { driver with
      control := .tick (.block 0) { tick with frame := firstFrame ticks tick } }
  | .refuse => some { driver with inputDeadline := 0, lock := none, control := .idle }
  | .block index =>
    let clean (frame : Nat) := (sanitized pcm (samples frame).1, sanitized pcm (samples frame).2)
    (driver.buffer.step pcm (.write (some clean) tick.frame 480)).map fun buffer =>
      { driver with buffer, control := .tick (.write index) tick }
  | .write index =>
    if driver.quiet then
      some { driver with
        control := .tick (if index + 1 < 5 then .block (index + 1) else .enter)
          { tick with frame := tick.frame + 480 } }
    else (driver.buffer.step pcm .store).map fun buffer => { driver with buffer }
  | .enter =>
    some { driver with
      inputDeadline := driver.admittedDeadline ticks tick, lock := none, control := .idle }

/-- The next access of the control queue. -/
def controlling (pcm : Pcm Sample) (ticks : MicTicks) (driver : MicDriver Sample) (link : LinkWords)
    (samples : Nat → Sample × Sample) : Option (MicDriver Sample) :=
  match driver.control with
  | .idle => none
  | .drop place next => driver.dropping pcm next place
  | .install lease =>
    some { driver with
      linked := true
      lease
      brokerDeadline := driver.now + ticks.twoSeconds
      root := driver.now
      control := .publish lease }
  | .publish lease =>
    some { driver.answer true with
      inputLease := lease, attaches := driver.attaches + 1, control := .idle }
  | .tick place tick => driver.ticking pcm ticks link samples tick place

/-- `addClient`. -/
def addClient (driver : MicDriver Sample) (client : UInt32) : MicDriver Sample :=
  if (driver.clients.lookup client).isSome || micMaxClients ≤ driver.clients.length then driver
  else { driver with clients := driver.clients ++ [(client, false)] }

/-- `removeClient`. -/
def removeClient (driver : MicDriver Sample) (client : UInt32) : MicDriver Sample :=
  { driver with
    running := if driver.clients.lookup client = some true then driver.running - 1
      else driver.running
    clients := driver.clients.filter fun entry => entry.1 != client }

/-- Whether a client runs IO is changed. -/
def mark (driver : MicDriver Sample) (client : UInt32) (start : Bool) : MicDriver Sample :=
  { driver with
    clients := driver.clients.map fun entry =>
      if entry.1 = client then (client, start) else entry }

/-- `changeIO` for a start, up to where others can see it. -/
def startIo (pcm : Pcm Sample) (driver : MicDriver Sample) (client : UInt32) :
    Option (MicDriver Sample) :=
  if driver.clients.lookup client = some false then
    if driver.running = 0 then
      (driver.buffer.step pcm (.reset 0)).map fun buffer =>
        { driver.mark client true with buffer, lock := some (.io .reset) }
    else some { driver.mark client true with running := driver.running + 1 }
  else some driver

/-- `changeIO` for a stop. -/
def stopIo (driver : MicDriver Sample) (client : UInt32) : MicDriver Sample :=
  if driver.clients.lookup client = some true then
    { driver.mark client false with running := driver.running - 1 }
  else driver

/-- The next access of a start of IO. -/
def starting (pcm : Pcm Sample) (driver : MicDriver Sample) :
    IoPlace → Option (MicDriver Sample)
  | .reset =>
    if driver.quiet then some { driver with lock := some (.io .anchor) }
    else (driver.buffer.step pcm .store).map fun buffer => { driver with buffer }
  | .anchor => some { driver with anchor := driver.now, lock := some (.io .seed) }
  | .seed => some { driver with clockSeed := driver.clockSeed + 1, lock := some (.io .running) }
  | .running => some { driver with running := driver.running + 1, lock := none }

/-- Change one read. -/
def setRead (driver : MicDriver Sample) (reader : Nat) (reading : Option (MicReading Sample)) :
    MicDriver Sample :=
  { driver with reads := fun other => if other = reader then reading else driver.reads other }

/-- A read returns. -/
def finish (driver : MicDriver Sample) (reader : Nat) (result : MicResult Sample) :
    MicDriver Sample :=
  { driver.setRead reader none with returned := driver.returned ++ [result] }

/-- A read is refused. -/
def silence (pcm : Pcm Sample) (driver : MicDriver Sample) (reader : Nat)
    (reading : MicReading Sample) : MicDriver Sample :=
  driver.finish reader ⟨reading.call, SampleBuffer.silent pcm reading.call, none⟩

/-- What a load of `micInputDeadline` tells. -/
def gate (driver : MicDriver Sample) : Gate :=
  ⟨driver.inputDeadline, driver.lease, driver.root, driver.admitted⟩

/-- What the history's last finished read returned. -/
def lastRead (buffer : SampleBuffer Sample) : List (Sample × Sample) :=
  (buffer.returned.getLast?.map BufferResult.samples).getD []

/-- The first comparison is made; past it the history is read. -/
def compared (pcm : Pcm Sample) (driver : MicDriver Sample) (reader : Nat)
    (reading : MicReading Sample) (now : UInt64) (gate : Gate) : Option (MicDriver Sample) :=
  if gate.deadline ≤ now then some (driver.silence pcm reader reading)
  else (driver.buffer.step pcm (.read reader true reading.call.frame reading.call.count)).map
    fun buffer =>
      { driver with buffer }.setRead reader (some { reading with
        place := if (buffer.readers reader).isSome then .copy
          else .leaseAgain (SampleBuffer.silent pcm reading.call) })

/-- The second comparison is made. -/
def comparedAgain (pcm : Pcm Sample) (driver : MicDriver Sample) (reader : Nat)
    (reading : MicReading Sample) (samples : List (Sample × Sample)) (now : UInt64) (gate : Gate) :
    MicDriver Sample :=
  if gate.deadline ≤ now then driver.silence pcm reader reading
  else driver.finish reader ⟨reading.call, samples,
    some ⟨reading.lease, now, gate, reading.ended, reading.observed⟩⟩

/-- The clock is read in a comparison. -/
def clocking (pcm : Pcm Sample) (driver : MicDriver Sample) (reader : Nat)
    (reading : MicReading Sample) : Option (MicDriver Sample) :=
  match reading.place with
  | .gate .open_ =>
    some (driver.setRead reader (some { reading with place := .gate (.clocked driver.now) }))
  | .gate (.loaded gate) => driver.compared pcm reader reading driver.now gate
  | .gateAgain .open_ samples =>
    some (driver.setRead reader
      (some { reading with place := .gateAgain (.clocked driver.now) samples }))
  | .gateAgain (.loaded gate) samples =>
    some (driver.comparedAgain pcm reader reading samples driver.now gate)
  | _ => none

/-- The next load of a read. -/
def loading (pcm : Pcm Sample) (driver : MicDriver Sample) (reader : Nat)
    (reading : MicReading Sample) : Option (MicDriver Sample) :=
  match reading.place with
  | .lease =>
    if driver.inputLease = 0 then some (driver.silence pcm reader reading)
    else some (driver.setRead reader (some { reading with
      place := .gate .open_, lease := driver.inputLease, observed := driver.attaches }))
  | .gate .open_ =>
    some (driver.setRead reader (some { reading with place := .gate (.loaded driver.gate) }))
  | .gate (.clocked now) => driver.compared pcm reader reading now driver.gate
  | .gate (.loaded _) => none
  | .copy =>
    (driver.buffer.step pcm (.load reader)).map fun buffer =>
      { driver with buffer }.setRead reader (some { reading with
        place := if (buffer.readers reader).isSome then .copy
          else .leaseAgain (lastRead buffer) })
  | .leaseAgain samples =>
    if driver.inputLease ≠ reading.lease then some (driver.silence pcm reader reading)
    else some (driver.setRead reader (some { reading with place := .gateAgain .open_ samples }))
  | .gateAgain .open_ samples =>
    some (driver.setRead reader
      (some { reading with place := .gateAgain (.loaded driver.gate) samples }))
  | .gateAgain (.clocked now) samples =>
    some (driver.comparedAgain pcm reader reading samples now driver.gate)
  | .gateAgain (.loaded _) _ => none

/-- One step of any thread. -/
def step (pcm : Pcm Sample) (ticks : MicTicks) (driver : MicDriver Sample) :
    DriverLabel Sample → Option (MicDriver Sample)
  | .pass later => if driver.now ≤ later then some { driver with now := later } else none
  | .event peer event =>
    match driver.control with
    | .idle => some (driver.handle ticks peer event)
    | _ => none
  | .tick =>
    match driver.control with
    | .idle => some (driver.beginTick ticks)
    | _ => none
  | .control link samples => driver.controlling pcm ticks link samples
  | .addClient client => if driver.lock.isSome then none else some (driver.addClient client)
  | .removeClient client => if driver.lock.isSome then none else some (driver.removeClient client)
  | .startIo client => if driver.lock.isSome then none else driver.startIo pcm client
  | .stopIo client => if driver.lock.isSome then none else some (driver.stopIo client)
  | .io =>
    match driver.lock with
    | some (.io place) => driver.starting pcm place
    | _ => none
  | .read reader call =>
    match driver.reads reader with
    | none => some (driver.setRead reader (some { call, place := .lease, ended := driver.ended }))
    | some _ => none
  | .clock reader => (driver.reads reader).bind (driver.clocking pcm reader)
  | .load reader => (driver.reads reader).bind (driver.loading pcm reader)

/-- After `initialize`. -/
def fresh (pcm : Pcm Sample) : MicDriver Sample := { buffer := SampleBuffer.fresh pcm }

/-- Every interleaving, with every content of the shared memory. -/
def system (pcm : Pcm Sample) (ticks : MicTicks) :
    Transition.System (MicDriver Sample) (DriverLabel Sample) where
  initial driver := ∃ now, driver = { fresh pcm with now, anchor := now }
  step := step pcm ticks

end MicDriver

end Plank.Audio
