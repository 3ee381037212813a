import Plank.Native.Media
import Plank.Sync.Inbox
import Plank.Sync.Outbox

/-!
# The notifications between calls and workers

`native_ffi.rs` notifies its asynchronous workers through one cell for each queue: a send call once
it stored its record, a receive call once it removed one, and a stop or a failure all senders at
once. The operations under the lock are those of the queues themselves, with whether the call
goes on to notify. A receiving worker is dropped when its endpoint shuts down, or when its consumer
stalled for too long; a sending worker when its session ends.
-/

namespace Plank.Native

open Transport (Fault subtract_of_le)
open Sync (Sending Receiving Inbox Outbox)

/-- `send_video` and `plank_transport_native_video_send`. -/
def videoSending : Sending Fault (VideoQueue VideoSubmission) VideoOffer where
  empty := {}
  isEmpty queue := queue.frames.isEmpty
  put offer queue :=
    match videoSubmission offer with
    | .error _ => .ok (false, queue)
    | .ok submission =>
      (queue.pushBack submission submission.record.length videoSendCapacity).map
        fun (_, after) => (true, after)
  get queue := queue.popFront.map fun (frame, after) => (frame.isSome, after)

/-- `send_audio` and `plank_transport_native_audio_send`. -/
def audioSending : Sending Fault (List AudioPacket) AudioOffer where
  empty := []
  isEmpty := List.isEmpty
  put offer queue :=
    match audioSubmission offer with
    | .error _ => .ok (false, queue)
    | .ok packet => .ok (true, (enqueueReplaceable queue audioSendCapacity packet).2)
  get queue := .ok (queue.head?.isSome, queue.tail)

/-- `send_input` and `plank_transport_native_input_send`. -/
def inputSending : Sending Fault (List InputPacket) InputOffer where
  empty := []
  isEmpty := List.isEmpty
  put offer queue :=
    let (status, after) := inputSend offer queue
    .ok (status = .ok, after)
  get queue := .ok (queue.head?.isSome, queue.tail)

/-- `send_data` and `plank_transport_native_data_send`. -/
def dataSending (maxDataPacketSize : Nat) : Sending Fault DataQueue DataOffer where
  empty := {}
  isEmpty queue := queue.packets.isEmpty
  put offer queue :=
    (dataSend maxDataPacketSize offer queue).map fun (status, after) => (status = .ok, after)
  get queue := queue.popFront.map fun (packet, after) => (packet.isSome, after)

/-- `push_input_receive` and `plank_transport_native_input_receive`. -/
def inputReceiving : Receiving Fault (List InputPacket) InputPacket Demand where
  empty := []
  size := List.length
  allowed _ := true
  put packet queue :=
    let (stored, after) := pushInputReceive packet queue
    .ok (stored.isSome, after)
  take demand queue :=
    let (reply, after) := inputReceive 1 demand queue
    .ok (reply.record.isSome, after)

/-- `push_data_receive` and `plank_transport_native_data_receive`. -/
def dataReceiving (maxDataPacketSize : Nat) :
    Receiving Fault DataQueue (List UInt8) Demand where
  empty := {}
  size queue := queue.packets.length
  allowed payload := 1 ≤ payload.length && payload.length ≤ maxDataPacketSize
  put payload queue :=
    (pushDataReceive maxDataPacketSize payload queue).map
      fun (stored, after) => (stored.isSome, after)
  take demand queue :=
    (dataReceive demand queue).map fun (reply, after) => (reply.status = .ok, after)

/-- The worker that sends a list of records finds nothing only in an empty one. -/
theorem head_isEmpty {Record : Type} (queue : List Record) :
    (queue.head?.isSome, queue.tail) = (false, queue) ∧ queue.isEmpty = true ∨
      (queue.head?.isSome, queue.tail) = (true, queue.tail) := by
  cases queue with
  | nil => exact .inl ⟨rfl, rfl⟩
  | cons record rest => exact .inr rfl

/-- The queue of video to send never faults. -/
theorem videoSending_lawful : videoSending.Lawful
    (VideoQueue.Charged (fun submission => submission.record.length) videoSendCapacity) where
  empty := VideoQueue.empty_charged _ _
  put offer queue charged := by
    cases passed : videoSubmission offer with
    | error status => exact .inl (by simp [videoSending, passed])
    | ok submission =>
      have fits : submission.record.length ≤ videoQueueByteCapacity := by
        simpa [videoSendQueue, videoReplacing] using videoSubmission_fits passed
      obtain ⟨dropped, after, pushed, kept, _⟩ :=
        VideoQueue.pushBack_of_charged charged (by decide) submission fits
      exact .inr ⟨after, by simp [videoSending, passed, pushed, Except.map], kept⟩
  get queue charged := by
    rcases VideoQueue.popFront_of_charged charged with
      ⟨empty, popped⟩ | ⟨frame, after, _, popped, kept⟩
    · exact .inl ⟨by simp [videoSending, popped, Except.map], by simp [videoSending, empty]⟩
    · exact .inr ⟨after, by simp [videoSending, popped, Except.map], kept⟩

/-- The queue of audio to send never faults. -/
theorem audioSending_lawful : audioSending.Lawful fun _ => True where
  empty := trivial
  put offer queue _ := by
    cases passed : audioSubmission offer with
    | error status => exact .inl (by simp [audioSending, passed])
    | ok packet =>
      exact .inr ⟨(enqueueReplaceable queue audioSendCapacity packet).2,
        by simp only [audioSending, passed], trivial⟩
  get queue _ := by
    rcases head_isEmpty queue with ⟨nothing, empty⟩ | taken
    · exact .inl ⟨congrArg Except.ok nothing, empty⟩
    · exact .inr ⟨queue.tail, congrArg Except.ok taken, trivial⟩

/-- The queue of input to send never faults. -/
theorem inputSending_lawful : inputSending.Lawful fun _ => True where
  empty := trivial
  put offer queue _ := by
    rcases inputSend_effect offer queue with ⟨status, refused, called⟩ | ⟨packet, _, _, called⟩
    · exact .inl (by simp [inputSending, called, refused])
    · exact .inr ⟨_, by simp only [inputSending, called]; rfl, trivial⟩
  get queue _ := by
    rcases head_isEmpty queue with ⟨nothing, empty⟩ | taken
    · exact .inl ⟨congrArg Except.ok nothing, empty⟩
    · exact .inr ⟨queue.tail, congrArg Except.ok taken, trivial⟩

/-- The queue of data to send never faults. -/
theorem dataSending_lawful (maxDataPacketSize : Nat) :
    (dataSending maxDataPacketSize).Lawful (DataQueue.Charged maxDataPacketSize) where
  empty := DataQueue.empty_charged maxDataPacketSize
  put offer queue charged := by
    rcases dataSend_of_charged charged offer with
      ⟨status, refused, called⟩ | ⟨payload, after, _, called, _, kept⟩
    · exact .inl (by simp [dataSending, called, refused, Except.map])
    · exact .inr ⟨after, by simp [dataSending, called, Except.map], kept⟩
  get queue charged := by
    rcases DataQueue.popFront_of_charged charged with
      ⟨empty, popped⟩ | ⟨payload, packets, bytes, _, popped, kept⟩
    · exact .inl ⟨by simp [dataSending, popped, Except.map], by simp [dataSending, empty]⟩
    · exact .inr ⟨⟨packets, bytes⟩, by simp [dataSending, popped, Except.map], kept⟩

/-- Storage that takes any record of this size. -/
def Demand.ample (size : Nat) : Demand where
  output := { destination := true, capacity := size, sizeOut := true }

/-- Ample storage takes the whole payload. -/
theorem Demand.copyBytesOut_ample (payload : List UInt8) :
    Transport.copyBytesOut payload (Demand.ample payload.length).output =
      (.ok, some payload.length, some payload) := by
  simp [Transport.copyBytesOut, Transport.validateBytesOut, Demand.ample]

/-- A receive call with ample storage takes the oldest packet. -/
theorem inputReceive_ample (packet : InputPacket) (rest : List InputPacket) :
    inputReceive 1 (Demand.ample packet.payload.length) (packet :: rest) =
      (⟨.ok, some packet.payload.length, some packet⟩, rest) := by
  simp [inputReceive, Transport.claimReceiveFront, Transport.copyBytesOut,
    Transport.validateBytesOut, Demand.ample]

/-- A receive call with ample storage takes the oldest record. -/
theorem dataReceive_ample {maxDataPacketSize : Nat} {queue : DataQueue}
    (charged : queue.Charged maxDataPacketSize) {packet : List UInt8} {packets : List (List UInt8)}
    (held : queue.packets = packet :: packets) : ∃ reply after, reply.status = .ok ∧
      dataReceive (Demand.ample packet.length) queue = .ok (reply, after) := by
  rcases DataQueue.popFront_of_charged charged with
    ⟨empty, _⟩ | ⟨front, rest, bytes, _, popped, _⟩
  · simp [empty] at held
  · refine ⟨⟨.ok, some packet.length, some packet⟩, ⟨rest, bytes⟩, rfl, ?_⟩
    simp only [dataReceive, held, Demand.copyBytesOut_ample, popped]
    rfl

/-- The queue of received input never faults, has room for any packet when it is empty, and gives
its packets to callers with enough storage. -/
theorem inputReceiving_lawful : inputReceiving.Lawful fun _ => True where
  empty := trivial
  put packet queue _ _ := by
    by_cases room : queue.length < inputReceiveCapacity
    · exact .inr ⟨queue ++ [packet], by simp [inputReceiving, pushInputReceive, room], trivial⟩
    · exact .inl (by simp [inputReceiving, pushInputReceive, room])
  take demand queue _ := by
    rcases inputReceive_effect demand queue with
      ⟨reply, _, nothing, called⟩ | ⟨packet, rest, held, _, called⟩
    · exact .inl (by simp [inputReceiving, called, nothing])
    · exact .inr ⟨rest, by simp [inputReceiving, called], trivial, by simp [inputReceiving, held]⟩
  space packet queue _ _ empty := by
    have room : queue.length < inputReceiveCapacity := by
      rw [show queue.length = 0 from empty]
      decide
    exact ⟨queue ++ [packet], by simp [inputReceiving, pushInputReceive, room]⟩
  enough queue _ some := by
    cases queue with
    | nil => simp [inputReceiving] at some
    | cons packet rest =>
      have taken := inputReceive_ample packet rest
      exact ⟨Demand.ample packet.payload.length, rest, by simp [inputReceiving, taken]⟩

/-- The queue of received data never faults, has room for any record the transport carries when it
is empty, and gives its records to callers with enough storage. -/
theorem dataReceiving_lawful {maxDataPacketSize : Nat}
    (documented : maxDataPacketSize ≤ 1048576) :
    (dataReceiving maxDataPacketSize).Lawful (DataQueue.Charged maxDataPacketSize) where
  empty := DataQueue.empty_charged maxDataPacketSize
  put payload queue charged _ := by
    rcases pushDataReceive_of_charged charged payload with full | ⟨after, stored, _, kept⟩
    · exact .inl (by simp [dataReceiving, full, Except.map])
    · exact .inr ⟨after, by simp [dataReceiving, stored, Except.map], kept⟩
  take demand queue charged := by
    rcases dataReceive_of_charged charged demand with
      ⟨reply, failed, _, called⟩ | ⟨packet, after, held, _, called, kept⟩
    · exact .inl (by simp [dataReceiving, called, failed, Except.map])
    · exact .inr ⟨after, by simp [dataReceiving, called, Except.map], kept,
        by simp [dataReceiving, held]⟩
  space payload queue charged allowed empty := by
    have packets : queue.packets = [] := List.eq_nil_of_length_eq_zero empty
    have bytes : queue.bytes = 0 := by rw [charged.bytes, packets]; rfl
    have sized : 1 ≤ payload.length ∧ payload.length ≤ maxDataPacketSize := by
      simpa [dataReceiving] using allowed
    have room : 1 ≤ payload.length ∧ payload.length ≤ maxDataPacketSize ∧
        queue.packets.length < dataQueuePacketCapacity ∧
        queue.bytes + payload.length ≤ dataQueueByteCapacity := by
      simp only [packets, bytes, dataQueuePacketCapacity, dataQueueByteCapacity,
        List.length_nil]
      omega
    have admitted := DataQueue.canPush_of_charged charged payload.length
    rw [decide_eq_true room] at admitted
    rcases DataQueue.pushBack_of_charged charged payload with ⟨_, pushed, _⟩ | ⟨refused, _⟩
    · exact ⟨_, by simp [dataReceiving, pushDataReceive, admitted, pushed, Except.map,
        bind, Except.bind, pure, Except.pure]; rfl⟩
    · cases refused.symm.trans admitted
  enough queue charged some := by
    cases held : queue.packets with
    | nil => simp [dataReceiving, held] at some
    | cons packet packets =>
      obtain ⟨reply, after, succeeded, called⟩ := dataReceive_ample charged held
      exact ⟨Demand.ample packet.length, after,
        by simp [dataReceiving, called, succeeded, Except.map]⟩

/-- In every run of a queue between calls and its worker, no notification the worker waits for is
lost: a receiving worker that waits has no space or is about to be told, callers can always free it,
and a sending worker that waits has nothing to send or is about to be told, of a record or of a
stop. -/
theorem workers_awake {maxDataPacketSize : Nat} (documented : maxDataPacketSize ≤ 1048576) :
    (∀ inbox, (Inbox.system inputReceiving).Reachable inbox → inbox.Awake inputReceiving) ∧
    (∀ inbox, (Inbox.system (dataReceiving maxDataPacketSize)).Reachable inbox →
      inbox.Awake (dataReceiving maxDataPacketSize)) ∧
    (∀ outbox, (Outbox.system videoSending).Reachable outbox → outbox.Awake videoSending) ∧
    (∀ outbox, (Outbox.system audioSending).Reachable outbox → outbox.Awake audioSending) ∧
    (∀ outbox, (Outbox.system inputSending).Reachable outbox → outbox.Awake inputSending) ∧
    ∀ outbox, (Outbox.system (dataSending maxDataPacketSize)).Reachable outbox →
      outbox.Awake (dataSending maxDataPacketSize) :=
  ⟨fun _ => Inbox.reachable_awake inputReceiving_lawful,
    fun _ => Inbox.reachable_awake (dataReceiving_lawful documented),
    fun _ => Outbox.reachable_awake videoSending_lawful,
    fun _ => Outbox.reachable_awake audioSending_lawful,
    fun _ => Outbox.reachable_awake inputSending_lawful,
    fun _ => Outbox.reachable_awake (dataSending_lawful maxDataPacketSize)⟩

/-- The worker stores records until its queue is full and waits with the next; a caller removes one
and has not notified. -/
def sampleInboxRun : List (Sync.InboxAction (List UInt8) Demand) :=
  (List.replicate dataQueuePacketCapacity [.arrive [7], .worker, .worker]).flatten ++
    [.arrive [8], .worker, .worker, .worker, .take 0 (Demand.ample 1)]

/-- The queue after that. -/
def sampleInbox : Inbox DataQueue (List UInt8) :=
  ((Inbox.system (dataReceiving 1048576)).run { queue := {} } sampleInboxRun).getD { queue := {} }

set_option maxRecDepth 8192 in
/-- The worker waits although its queue would take its record, and a caller owes the
notification. -/
theorem sampleInbox_awake : sampleInbox.Waits [8] ∧ sampleInbox.owes 0 = true ∧
    Inbox.Admits (dataReceiving 1048576) sampleInbox.queue [8] ∧
    sampleInbox.Awake (dataReceiving 1048576) := by
  have evaluated : (Inbox.system (dataReceiving 1048576)).run { queue := {} } sampleInboxRun =
      some sampleInbox := rfl
  exact ⟨⟨rfl, rfl⟩, rfl, ⟨_, rfl⟩, (workers_awake (Nat.le_refl _)).2.1 _
    (Transition.System.reachable_of_run rfl evaluated)⟩

end Plank.Native
