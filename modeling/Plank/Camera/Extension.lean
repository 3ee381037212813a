import Plank.Camera.SharedLink
import Plank.Media.CameraOutput
import Plank.Wire.Xpc

/-!
# The camera extension

`camera-extension.m` with `camera-consumer.m`: records are read from the memory that a lease gives,
turned into samples on a queue of their own, and sent to the stream of a virtual camera. The blocks
on the main queue run one at a time, and so do those on the media queue; what a block captured is
what held when it was made. The counters of 64 bits are natural numbers. What the framework answers
and what the shared memory holds comes with each block. An observer keeps a log, newest first.
-/

namespace Plank.Camera

open Media (SampleBuilder SampleAnswers CameraSample CameraOutput OutputAnswers OutputSample)
open Wire (XpcFields)

/-! ### The stream -/

/-- The most clients of a stream. -/
def maxClients : Nat := 2 ^ 64 - 1

/-- How many formats a stream has. -/
def streamFormats : Nat := 2

/-- `PLANKCameraStream`. -/
structure CameraStream where
  /-- `_active`. -/
  active : Nat := 0
  /-- `_clients`. -/
  clients : Nat := 0
  /-- `_retired`. -/
  retired : Bool := false
  /-- `_changed` and `_readerJoined` are set. -/
  connected : Bool := true
  deriving DecidableEq, Repr

/-- What a stream calls. -/
inductive StreamSignal where
  /-- `_changed`. -/
  | changed
  /-- `_readerJoined`. -/
  | readerJoined
  deriving DecidableEq, Repr

/-- A call of a stream, or its block behind a change of the clients. -/
inductive StreamCall where
  /-- `-startStreamAndReturnError:`. -/
  | start
  /-- `-stopStreamAndReturnError:`. -/
  | stop
  /-- `-setStreamProperties:error:`: `activeFormatIndex`, and whether each duration that is given is
  that of one frame in 30. -/
  | setProperties (index : Option Int) (frameDuration maxFrameDuration : Option Bool)
  /-- The block of `-observeValueForKeyPath:…` for a client that was not there before. -/
  | joined
  deriving DecidableEq, Repr

/-- What a call comes to: whether it is granted, and what is called. -/
structure StreamReply where
  /-- The stream. -/
  stream : CameraStream
  /-- What it called. -/
  signals : List StreamSignal := []
  /-- `YES`. -/
  granted : Bool := true
  deriving DecidableEq, Repr

namespace CameraStream

/-- A call of one of the blocks, if they are set. -/
def signal (stream : CameraStream) (one : StreamSignal) : List StreamSignal :=
  if stream.connected then [one] else []

/-- `-startStreamAndReturnError:`. -/
def start (stream : CameraStream) : StreamReply :=
  if stream.retired || stream.clients = maxClients then { stream, granted := false }
  else
    { stream := { stream with clients := stream.clients + 1 }
      signals := (if stream.clients = 0 then stream.signal .changed else []) ++
        stream.signal .readerJoined }

/-- `-stopStreamAndReturnError:`. -/
def stop (stream : CameraStream) : StreamReply :=
  if stream.clients = 0 then { stream }
  else
    { stream := { stream with clients := stream.clients - 1 }
      signals := if stream.clients = 1 then stream.signal .changed else [] }

/-- `-setStreamProperties:error:`. -/
def setProperties (stream : CameraStream) (index : Option Int)
    (frameDuration maxFrameDuration : Option Bool) : StreamReply :=
  if stream.retired || index.any (fun index => index < 0 || (streamFormats : Int) ≤ index) ||
      frameDuration = some false || maxFrameDuration = some false then
    { stream, granted := false }
  else match index with
    | none => { stream }
    | some index =>
      if stream.active = index.toNat then { stream }
      else
        { stream := { stream with active := index.toNat }, signals := stream.signal .changed }

/-- The block for a client that was not there before. -/
def joined (stream : CameraStream) : StreamReply :=
  { stream, signals := if stream.retired then [] else stream.signal .readerJoined }

/-- `-retire`. -/
def retire (stream : CameraStream) : CameraStream :=
  { stream with retired := true, clients := 0, connected := false }

/-- A call. -/
def call (stream : CameraStream) : StreamCall → StreamReply
  | .start => stream.start
  | .stop => stream.stop
  | .setProperties index frameDuration maxFrameDuration =>
    stream.setProperties index frameDuration maxFrameDuration
  | .joined => stream.joined

end CameraStream

/-! ### What is on its way -/

/-- What the block of a record captured. -/
structure ExtensionFrame where
  /-- `data`. -/
  record : List UInt8
  /-- `time`. -/
  time : UInt64
  /-- `arrived`. -/
  arrived : UInt64
  /-- `epoch`. -/
  epoch : Nat
  /-- `revision`. -/
  revision : Nat
  /-- `activation`. -/
  activation : UInt64
  /-- `joinRevision`. -/
  joinRevision : Nat
  /-- `gap`. -/
  gap : Bool
  /-- `running`. -/
  running : Bool
  /-- `pixels`. -/
  pixels : Bool
  deriving DecidableEq

/-- A block on the media queue. -/
inductive MediaTask where
  /-- That of an admission. -/
  | reset (epoch : Nat)
  /-- That of a record. -/
  | frame (frame : ExtensionFrame)
  deriving DecidableEq

/-- What the block behind a record captured. -/
structure MediaDone where
  /-- The block of the record. -/
  frame : ExtensionFrame
  /-- `native`. -/
  native : Option CameraSample
  /-- `output`. -/
  output : Option OutputSample
  /-- `needsKey`. -/
  needsKey : Bool
  /-- `independent`. -/
  independent : Bool
  deriving DecidableEq

/-- What the framework answers on the media queue. -/
structure MediaAnswers where
  /-- To the builder. -/
  sample : SampleAnswers
  /-- `width` of the dimensions of the format of a new output. -/
  width : Int
  /-- `height` of the dimensions of that format. -/
  height : Int
  /-- To the output. -/
  output : OutputAnswers
  /-- The sample has an array with attachments for its one frame. -/
  attached : Bool

/-- What only the media queue uses. -/
structure CameraMedia where
  /-- `_mediaEpoch`. -/
  epoch : Nat := 0
  /-- `_builder`. -/
  builder : Option SampleBuilder := none
  /-- `_output`. -/
  output : Option CameraOutput := none
  deriving DecidableEq

namespace CameraMedia

/-- The builder and the output of an epoch. -/
def enter (media : CameraMedia) (epoch : Nat) : CameraMedia :=
  if media.epoch ≠ epoch then { epoch } else media

/-- The output for a sample, if there is one. -/
def outputFor (media : CameraMedia) (native : Option CameraSample) (answers : MediaAnswers) :
    Option CameraOutput :=
  match native, media.output with
  | some sample, none => CameraOutput.initWithFormat sample.format answers.width answers.height
  | _, output => output

/-- The output before a sample: after a gap, and with what the reader wants. -/
def prepare (output : Option CameraOutput) (frame : ExtensionFrame) : Option CameraOutput :=
  let output := if frame.gap then output.map CameraOutput.discontinuity else output
  output.map (·.setPixelOutput frame.pixels)

/-- What is handed on, if somebody reads, and the output. -/
def copy (output : Option CameraOutput) (native : Option CameraSample) (running : Bool)
    (answers : OutputAnswers) : Option OutputSample × Option CameraOutput :=
  match running, native, output with
  | true, some sample, some output =>
    let (copied, output) := output.copyOutput sample answers
    (copied, some output)
  | _, _, output => (none, output)

/-- The block of a record on the media queue. -/
def run (media : CameraMedia) (frame : ExtensionFrame) (answers : MediaAnswers) :
    Option (MediaDone × CameraMedia) := do
  let media := media.enter frame.epoch
  let builder := media.builder.getD (.initWithGeneration frame.activation)
  let (native, builder) ← builder.copySample ⟨frame.record, frame.time, answers.sample⟩
  let output := prepare (media.outputFor native answers) frame
  let (copied, output) := copy output native frame.running answers.output
  let needsKey := builder.needsKeyframe || (frame.running && output.any (·.needsKeyframe))
  let independent := native.any fun sample => answers.attached && sample.sync
  some (⟨frame, native, copied, needsKey, independent⟩,
    { media with builder := some builder, output })

end CameraMedia

/-! ### The consumer and the provider -/

/-- The readings of the clocks in one block on the main queue. -/
structure Moment where
  /-- `CLOCK_MONOTONIC`, the first time. -/
  now : UInt64
  /-- `CLOCK_MONOTONIC`, after that. -/
  later : UInt64
  /-- `PLANKCameraHostTimeNanos`. -/
  host : UInt64
  deriving DecidableEq, Repr

/-- `PLANKMacCameraConsumer`. -/
structure CameraConsumer where
  /-- `_bytes`. -/
  bytes : Nat := 0
  /-- `_peer`: which of the connections. -/
  peer : Option Nat := none
  /-- `_link`: how often a key frame was asked for in it. -/
  link : Option Nat := none
  /-- `_lease`. -/
  lease : UInt64 := 0
  /-- `_deadline`. -/
  deadline : UInt64 := 0
  /-- `_connectAt`. -/
  connectAt : UInt64 := 0
  /-- `_keyAt`. -/
  keyAt : UInt64 := 0
  /-- `_started`. -/
  started : Bool := false
  /-- `_stopped`. -/
  stopped : Bool := false
  deriving DecidableEq, Repr

/-- `-available`. -/
def CameraConsumer.available (consumer : CameraConsumer) (now : UInt64) : Bool :=
  consumer.lease ≠ 0 && !consumer.stopped && now < consumer.deadline

/-- `PLANKCameraProvider`, but for what only the media queue uses. -/
structure CameraProvider where
  /-- `_device`: its stream. -/
  device : Option CameraStream := none
  /-- `_activation`. -/
  activation : UInt64 := 0
  /-- `_epoch`. -/
  epoch : Nat := 0
  /-- `_revision`. -/
  revision : Nat := 0
  /-- `_lastGoodAt`. -/
  lastGoodAt : UInt64 := 0
  /-- `_joinRevision`. -/
  joinRevision : Nat := 0
  /-- `_busy`. -/
  busy : Bool := false
  /-- `_gap`. -/
  gap : Bool := false
  /-- `_joinPending`. -/
  joinPending : Bool := false
  deriving DecidableEq, Repr

/-- `_device.source.clients`. -/
def CameraProvider.clients (provider : CameraProvider) : Nat :=
  (provider.device.map (·.clients)).getD 0

/-- `_device.source.active`. -/
def CameraProvider.active (provider : CameraProvider) : Nat :=
  (provider.device.map (·.active)).getD 0

/-- What `sendSampleBuffer` is called with, and what the provider holds then. -/
structure Delivery where
  /-- The block of the record. -/
  frame : ExtensionFrame
  /-- The sample. -/
  sample : OutputSample
  /-- `CMIOExtensionStreamDiscontinuityFlagUnknown`. -/
  discontinuity : Bool
  /-- `_epoch`. -/
  epoch : Nat
  /-- `_revision`. -/
  revision : Nat
  /-- `_activation`. -/
  activation : UInt64
  /-- The consumer. -/
  consumer : CameraConsumer
  /-- `CLOCK_MONOTONIC`. -/
  now : UInt64
  /-- `PLANKCameraHostTimeNanos`. -/
  host : UInt64
  deriving DecidableEq

/-- What an observer sees. -/
inductive ExtensionEvent where
  /-- `admitted:`: the epoch and its activation, which is zero when a lease ends. -/
  | admitted (epoch : Nat) (activation : UInt64)
  /-- `changed`: the revision. -/
  | changed (revision : Nat)
  /-- A record was read and not submitted. -/
  | lost
  /-- A record was submitted. -/
  | submitted (frame : ExtensionFrame)
  /-- The sample of a record was sent. -/
  | sent (delivery : Delivery)
  /-- What became of a record was not sent. -/
  | refused (frame : ExtensionFrame)
  deriving DecidableEq

/-- What a peer is sent. -/
inductive Posted where
  /-- The first message, with a version. -/
  | hello (version : UInt64)
  /-- An answer. -/
  | accepted (accepted : Bool)
  deriving DecidableEq, Repr

/-- What `xpc_shmem_map` maps. -/
structure LinkMapping where
  /-- Its bytes. -/
  bytes : Nat
  /-- `version`. -/
  version : UInt64
  deriving DecidableEq, Repr

/-- A message of a peer. -/
structure LinkMessage where
  /-- It is a dictionary. -/
  dictionary : Bool := true
  /-- Its values. -/
  fields : XpcFields
  /-- `xpc_connection_get_euid`. -/
  euid : UInt32 := 0
  /-- It can be answered. -/
  answerable : Bool := true
  /-- What is mapped of the value under `memory`, when it is shared memory. -/
  memory : Option LinkMapping := none
  deriving DecidableEq, Repr

namespace LinkMessage

/-- `PLANKCameraLinkVersion`. -/
def linkVersion : UInt64 := 2

/-- `operation` and `lease` of a message that is answered. -/
def valid (message : LinkMessage) : Option (UInt64 × UInt64) := do
  let version ← message.fields.number "version"
  let operation ← message.fields.number "operation"
  let lease ← message.fields.number "lease"
  if message.dictionary && message.euid = 0 && version = linkVersion && lease ≠ 0 &&
      message.answerable then some (operation, lease)
  else none

/-- `activation` of a message that offers memory of so many bytes. -/
def offered (message : LinkMessage) (bytes : Nat) : Option UInt64 := do
  let activation ← message.fields.number "activation"
  let memory ← message.memory
  if activation ≠ 0 ∧ memory.bytes = bytes ∧ memory.version = linkVersion then some activation
  else none

end LinkMessage

/-- What a connection comes to. -/
structure ConnectAnswers where
  /-- `xpc_connection_create_mach_service`. -/
  created : Bool
  /-- The requirement of the peer's signature is set. -/
  required : Bool
  deriving DecidableEq, Repr

/-- What the framework answers behind a record. -/
structure DeviceAnswers where
  /-- `-initWithFormat:` of a device. -/
  created : Bool
  /-- `addDevice:error:`. -/
  added : Bool
  deriving DecidableEq, Repr

/-! ### The extension -/

/-- The provider with its consumer, its queues and what an observer saw. -/
structure CameraExtension where
  /-- `_consumer`. -/
  consumer : CameraConsumer := {}
  /-- The provider. -/
  provider : CameraProvider := {}
  /-- What only the media queue uses. -/
  media : CameraMedia := {}
  /-- What waits on the media queue. -/
  tasks : List MediaTask := []
  /-- The blocks behind records that wait on the main queue. -/
  finished : List MediaDone := []
  /-- The streams that were retired. -/
  former : List CameraStream := []
  /-- How many connections were made. -/
  connections : Nat := 0
  /-- What was sent to peers, newest first. -/
  posted : List (Nat × Posted) := []
  /-- `CLOCK_MONOTONIC`, as it was read last. -/
  clock : UInt64 := 0
  /-- What was seen, newest first. -/
  log : List ExtensionEvent := []
  deriving DecidableEq

namespace CameraExtension

/-- Nanoseconds of a second. -/
def second : UInt64 := 1000000000

/-- Nanoseconds between two requests of a key frame. -/
def keyInterval : UInt64 := 200000000

/-- The extension with one more event. -/
def note (extension : CameraExtension) (event : ExtensionEvent) : CameraExtension :=
  { extension with log := event :: extension.log }

/-- `-requestKeyframe`. -/
def requestKeyframe (extension : CameraExtension) (now : UInt64) : CameraExtension :=
  match extension.consumer.link with
  | none => extension
  | some asked =>
    if extension.consumer.deadline ≤ now ∨ now < extension.consumer.keyAt then extension
    else { extension with consumer := { extension.consumer with
        link := some (asked + 1), keyAt := now + keyInterval } }

/-- `-changed`. -/
def changed (extension : CameraExtension) (moment : Moment) : CameraExtension :=
  let provider := { extension.provider with
    revision := extension.provider.revision + 1, gap := true }
  ({ extension with provider }.note (.changed provider.revision)).requestKeyframe moment.later

/-- `-readerJoined`. -/
def readerJoined (extension : CameraExtension) (moment : Moment) : CameraExtension :=
  let provider := { extension.provider with
    joinRevision := extension.provider.joinRevision + 1, joinPending := true }
  { extension with provider }.requestKeyframe moment.later

/-- The block of `-admitted:` about the device. -/
def removeDevice (extension : CameraExtension) : CameraExtension :=
  match extension.provider.device with
  | none => extension
  | some stream =>
    { extension with
      provider := { extension.provider with device := none }
      former := extension.former ++ [stream.retire] }

/-- `-admitted:`. -/
def admitted (extension : CameraExtension) (activation : UInt64) (moment : Moment) :
    CameraExtension :=
  let provider := { extension.provider with
    epoch := extension.provider.epoch + 1
    activation
    joinPending := false
    lastGoodAt := moment.host }
  let extension :=
    ({ extension with provider }.note (.admitted provider.epoch activation)).changed moment
  let extension := extension.removeDevice
  { extension with tasks := extension.tasks ++ [.reset extension.provider.epoch] }

/-- `-drop`. -/
def drop (extension : CameraExtension) (moment : Moment) : CameraExtension :=
  let extension := if extension.consumer.lease ≠ 0 then extension.admitted 0 moment else extension
  { extension with consumer := { extension.consumer with
      link := none, lease := 0, deadline := 0, keyAt := 0 } }

/-- `-disconnect`. -/
def disconnect (extension : CameraExtension) (moment : Moment) : CameraExtension :=
  let extension := extension.drop moment
  { extension with consumer := { extension.consumer with peer := none } }

/-- A lease is given, with its memory. -/
def attach (extension : CameraExtension) (lease activation : UInt64) (moment : Moment) :
    CameraExtension :=
  let extension := extension.drop moment
  let consumer := { extension.consumer with
    link := some 0, lease, deadline := moment.later + 2 * second }
  ({ extension with consumer }.admitted activation moment).requestKeyframe moment.later

/-- A lease goes on. -/
def renew (extension : CameraExtension) (moment : Moment) : CameraExtension :=
  { extension with consumer := { extension.consumer with deadline := moment.later + 2 * second } }

/-- What the operation of a message comes to, and whether it is accepted. -/
def operate (extension : CameraExtension) (operation lease : UInt64) (message : LinkMessage)
    (moment : Moment) : Bool × CameraExtension :=
  if operation = 1 ∧ message.fields.length = 5 then
    match message.offered extension.consumer.bytes with
    | some activation => (true, extension.attach lease activation moment)
    | none => (false, extension)
  else if operation = 2 ∧ message.fields.length = 3 ∧ lease = extension.consumer.lease ∧
      moment.now < extension.consumer.deadline then
    (true, extension.renew moment)
  else if operation = 3 ∧ message.fields.length = 3 then
    (true, if lease = extension.consumer.lease then extension.drop moment else extension)
  else (false, extension)

/-- `-receive:peer:`. -/
def receiveMessage (extension : CameraExtension) (peer : Nat) (message : LinkMessage)
    (moment : Moment) : CameraExtension :=
  if extension.consumer.peer ≠ some peer ∨ extension.consumer.stopped then extension
  else match message.valid with
    | none => extension.disconnect moment
    | some (operation, lease) =>
      let (accepted, extension) := extension.operate operation lease message moment
      let extension := { extension with posted := (peer, .accepted accepted) :: extension.posted }
      if accepted then extension else extension.disconnect moment

/-- `-connect`. -/
def connect (extension : CameraExtension) (answers : ConnectAnswers) : CameraExtension :=
  if !answers.created then extension
  else
    let peer := extension.connections
    let extension := { extension with connections := peer + 1 }
    if !answers.required then extension
    else { extension with
      consumer := { extension.consumer with peer := some peer }
      posted := (peer, .hello LinkMessage.linkVersion) :: extension.posted }

/-- What a record captures. -/
def frameOf (provider : CameraProvider) (record : List UInt8) (time arrived : UInt64) :
    ExtensionFrame where
  record
  time
  arrived
  epoch := provider.epoch
  revision := provider.revision
  activation := provider.activation
  joinRevision := provider.joinRevision
  gap := provider.gap
  running := decide (0 < provider.clients)
  pixels := decide (provider.active = 1)

/-- A record is submitted to the media queue. -/
def submit (extension : CameraExtension) (frame : ExtensionFrame) : CameraExtension :=
  let provider := { extension.provider with busy := true, gap := false }
  let tasks := extension.tasks ++ [MediaTask.frame frame]
  { extension with provider, tasks }.note (.submitted frame)

/-- `-receive:size:time:arrived:`. -/
def receiveRecord (extension : CameraExtension) (record : List UInt8) (time arrived : UInt64)
    (moment : Moment) : CameraExtension :=
  if extension.provider.activation = 0 ∨ recordBytes < record.length then extension.note .lost
  else if 3 * second ≤ moment.host - extension.provider.lastGoodAt then
    (extension.note .lost).disconnect moment
  else if extension.provider.busy then (extension.note .lost).changed moment
  else extension.submit (frameOf extension.provider record time arrived)

/-- The end of `-tick`: what was read of the memory. -/
def take (extension : CameraExtension) (answer : LinkAnswer) (moment : Moment) : CameraExtension :=
  match answer with
  | .frame record _ time arrived =>
    extension.receiveRecord record time (arrived.getD 0) moment
  | .empty => extension
  | .gap => (extension.changed moment).requestKeyframe moment.later

/-- `-tick`. -/
def tick (extension : CameraExtension) (answers : ConnectAnswers) (answer : LinkAnswer)
    (moment : Moment) : CameraExtension :=
  if extension.consumer.stopped then extension
  else
    let extension :=
      if extension.consumer.peer = none ∧ extension.consumer.connectAt ≤ moment.now then
        { extension with consumer := { extension.consumer with
            connectAt := moment.now + second } }.connect answers
      else extension
    if extension.consumer.link = none then extension
    else if extension.consumer.deadline ≤ moment.now then extension.disconnect moment
    else extension.take answer moment

/-- `-start`. -/
def start (extension : CameraExtension) : CameraExtension :=
  if extension.consumer.started || extension.consumer.stopped then extension
  else { extension with consumer := { extension.consumer with started := true } }

/-- `-stop`, of the provider with its consumer. -/
def stop (extension : CameraExtension) (moment : Moment) : CameraExtension :=
  let extension :=
    if extension.consumer.stopped then extension
    else
      let consumer := { extension.consumer with stopped := true }
      { extension with consumer }.disconnect moment
  extension.admitted 0 moment

/-- What a stream called. -/
def handle (extension : CameraExtension) (moment : Moment) : StreamSignal → CameraExtension
  | .changed =>
    { extension with provider := { extension.provider with
        lastGoodAt := moment.host } }.changed moment
  | .readerJoined => extension.readerJoined moment

/-- A call of the stream of the device. -/
def callStream (extension : CameraExtension) (call : StreamCall) (moment : Moment) :
    Option CameraExtension := do
  let reply := (← extension.provider.device).call call
  let extension := { extension with
    provider := { extension.provider with device := some reply.stream } }
  some (reply.signals.foldl (fun extension signal => extension.handle moment signal) extension)

/-- A call of a stream that was retired. -/
def callFormer (extension : CameraExtension) (index : Nat) (call : StreamCall) (moment : Moment) :
    Option CameraExtension := do
  let reply := (← extension.former[index]?).call call
  let extension := { extension with former := extension.former.set index reply.stream }
  some (reply.signals.foldl (fun extension signal => extension.handle moment signal) extension)

/-- The device of the first sample. -/
def publish (extension : CameraExtension) (done : MediaDone) (answers : DeviceAnswers) :
    CameraExtension :=
  if done.native.isSome ∧ extension.provider.device = none ∧ answers.created ∧ answers.added then
    { extension with provider := { extension.provider with device := some {} } }
  else extension

/-- A record is not too old now, nor due too late. -/
def recent (frame : ExtensionFrame) (host : UInt64) : Bool :=
  frame.arrived ≤ host && host - frame.arrived ≤ linkMaxAge &&
    if host < frame.time then frame.time - host ≤ 100000000 else host - frame.time ≤ linkMaxAge

/-- What is sent of a record. -/
def deliveryOf (extension : CameraExtension) (frame : ExtensionFrame) (sample : OutputSample)
    (moment : Moment) : Delivery where
  frame
  sample
  discontinuity := frame.gap
  epoch := extension.provider.epoch
  revision := extension.provider.revision
  activation := extension.provider.activation
  consumer := extension.consumer
  now := moment.now
  host := moment.host

/-- A sample is sent. -/
def send (extension : CameraExtension) (done : MediaDone) (sample : OutputSample)
    (moment : Moment) : CameraExtension :=
  let extension := extension.note (.sent (extension.deliveryOf done.frame sample moment))
  if done.independent ∧ extension.provider.joinRevision = done.frame.joinRevision then
    { extension with provider := { extension.provider with joinPending := false } }
  else extension

/-- Nothing is sent. -/
def refuse (extension : CameraExtension) (done : MediaDone) (moment : Moment) : CameraExtension :=
  let extension := extension.note (.refused done.frame)
  if done.frame.running then
    { extension with provider := { extension.provider with
        gap := true } }.requestKeyframe moment.later
  else extension

/-- A sample is sent, or not. -/
def deliver (extension : CameraExtension) (done : MediaDone) (moment : Moment) :
    CameraExtension :=
  match done.output with
  | some sample =>
    if extension.provider.revision = done.frame.revision ∧ extension.provider.clients ≠ 0 ∧
        recent done.frame moment.host then
      extension.send done sample moment
    else extension.refuse done moment
  | none => extension.refuse done moment

/-- The block behind a record, in its own epoch. -/
def settle (extension : CameraExtension) (done : MediaDone) (answers : DeviceAnswers)
    (moment : Moment) : CameraExtension :=
  let extension := extension.publish done answers
  let extension :=
    if done.native.isSome ∧ (!done.frame.running ∨ done.output.isSome) then
      { extension with provider := { extension.provider with lastGoodAt := moment.host } }
    else extension
  let extension := extension.deliver done moment
  if done.needsKey ∨ extension.provider.joinPending then extension.requestKeyframe moment.later
  else extension

/-- The block behind a record. -/
def complete (extension : CameraExtension) (done : MediaDone) (answers : DeviceAnswers)
    (moment : Moment) : CameraExtension :=
  let extension := { extension with provider := { extension.provider with busy := false } }
  if extension.provider.epoch = done.frame.epoch ∧
      extension.provider.activation = done.frame.activation ∧
      extension.consumer.available moment.now then
    extension.settle done answers moment
  else extension.note (.refused done.frame)

/-! ### Its steps -/

/-- A block on the main queue. -/
inductive MainBlock where
  /-- `-start`. -/
  | start
  /-- `-stop`. -/
  | stop
  /-- `-tick` of the timer. -/
  | tick (answers : ConnectAnswers) (answer : LinkAnswer)
  /-- A message of a peer. -/
  | message (peer : Nat) (message : LinkMessage)
  /-- A call of the stream of the device. -/
  | stream (call : StreamCall)
  /-- A call of a stream that was retired. -/
  | formerStream (index : Nat) (call : StreamCall)
  /-- The next block behind a record. -/
  | completion (answers : DeviceAnswers)

/-- What happens next. -/
inductive Action where
  /-- The main queue runs a block. -/
  | main (block : MainBlock) (moment : Moment)
  /-- The media queue runs its next block. -/
  | media (answers : MediaAnswers)

/-- A read of the memory copies no more than a record may have. -/
def fits : LinkAnswer → Bool
  | .frame record _ _ _ => record.length ≤ recordBytes
  | .empty | .gap => true

/-- A block on the main queue. -/
def runMain (extension : CameraExtension) (moment : Moment) : MainBlock → Option CameraExtension
  | .start => some extension.start
  | .stop => some (extension.stop moment)
  | .tick answers answer =>
    if extension.consumer.started ∧ fits answer then some (extension.tick answers answer moment)
    else none
  | .message peer message => some (extension.receiveMessage peer message moment)
  | .stream call => extension.callStream call moment
  | .formerStream index call => extension.callFormer index call moment
  | .completion answers =>
    match extension.finished with
    | [] => none
    | done :: rest => some ({ extension with finished := rest }.complete done answers moment)

/-- The next block on the media queue. -/
def runMedia (extension : CameraExtension) (answers : MediaAnswers) : Option CameraExtension :=
  match extension.tasks with
  | [] => none
  | .reset epoch :: rest => some { extension with media := { epoch }, tasks := rest }
  | .frame frame :: rest => do
    let (done, media) ← extension.media.run frame answers
    some { extension with media, tasks := rest, finished := extension.finished ++ [done] }

/-- One block; the monotonic clock never goes back. -/
def step (extension : CameraExtension) : Action → Option CameraExtension
  | .main block moment =>
    if extension.clock ≤ moment.now ∧ moment.now ≤ moment.later then
      (extension.runMain moment block).map fun after => { after with clock := moment.later }
    else none
  | .media answers => extension.runMedia answers

end CameraExtension

/-- Every order of the blocks, from an extension with any size of the memory. -/
def cameraExtension : Transition.System CameraExtension CameraExtension.Action where
  initial extension := ∃ bytes, extension = { consumer := { bytes } }
  step := CameraExtension.step

end Plank.Camera
