import Plank.Camera.Record
import Plank.Native.Reliable
import Plank.Queue.Replaceable

/-!
# Video and audio queues

`native_ffi.rs` keeps video in queues that charge bytes and count records, and audio in queues that
count packets. Neither makes a sender wait: a push drops the oldest until the new record has room,
and counts what it dropped after it left the queue. A receive call claims a record under the lock
and copies it out afterwards, while other calls go on.
-/

namespace Plank.Native

open Transport (Status Output Reply Fault subtract copyBytesOut claimReceiveFront
  ite_error_ok)
open Camera (bigEndian)

/-- `VIDEO_SEND_CAPACITY`. -/
def videoSendCapacity : Nat := 4
/-- `VIDEO_RECEIVE_CAPACITY`. -/
def videoReceiveCapacity : Nat := 16
/-- `AUDIO_SEND_CAPACITY`. -/
def audioSendCapacity : Nat := 16
/-- `AUDIO_RECEIVE_CAPACITY`. -/
def audioReceiveCapacity : Nat := 64
/-- `MAX_VIDEO_FRAME_SIZE`. -/
def maxVideoFrameSize : Nat := 64 * 1024 * 1024
/-- `MAX_AUDIO_PACKET_SIZE`. -/
def maxAudioPacketSize : Nat := 64 * 1024
/-- `VIDEO_METADATA_SIZE`. -/
def videoMetadataSize : Nat := 16
/-- `VIDEO_QUEUE_BYTE_CAPACITY`. -/
def videoQueueByteCapacity : Nat := maxVideoFrameSize + videoMetadataSize
/-- `VIDEO_FLAG_KEY`. -/
def videoFlagKey : UInt32 := 1
/-- `VIDEO_CODEC_H264`. -/
def videoCodecH264 : UInt32 := 0x48323634
/-- `VIDEO_CODEC_HEVC`. -/
def videoCodecHevc : UInt32 := 0x48455643

/-- `VideoQueue`. -/
structure VideoQueue (T : Type) where
  /-- The records with their charges, oldest first. -/
  frames : List (Nat × T) := []
  /-- Their charge. -/
  bytes : Nat := 0
  deriving DecidableEq, Repr

namespace VideoQueue

variable {T : Type}

/-- The condition of the loop in `VideoQueue::push_back`. -/
def full (queue : VideoQueue T) (bytes countLimit : Nat) : Except Fault Bool :=
  if countLimit ≤ queue.frames.length then .ok true
  else do
    let free ← subtract videoQueueByteCapacity queue.bytes
    return free < bytes

/-- `VideoQueue::pop_front`. -/
def popFront (queue : VideoQueue T) : Except Fault (Option T × VideoQueue T) :=
  match queue.frames with
  | [] => .ok (none, queue)
  | (charge, value) :: frames => do
    let bytes ← subtract queue.bytes charge
    return (some value, { frames, bytes })

/-- The loop of `VideoQueue::push_back` on these frames: the number it drops, and the queue it
leaves. -/
def evict (bytes countLimit : Nat) : List (Nat × T) → Nat → Except Fault (Nat × VideoQueue T)
  | [], charge => do
    let blocked ← full ({ frames := [], bytes := charge } : VideoQueue T) bytes countLimit
    if blocked then .error .expected else return (0, { frames := [], bytes := charge })
  | frame :: frames, charge => do
    let blocked ← full { frames := frame :: frames, bytes := charge } bytes countLimit
    if blocked then do
      let charge ← subtract charge frame.1
      let (dropped, queue) ← evict bytes countLimit frames charge
      return (dropped + 1, queue)
    else return (0, { frames := frame :: frames, bytes := charge })

/-- `VideoQueue::push_back`. -/
def pushBack (queue : VideoQueue T) (value : T) (bytes countLimit : Nat) :
    Except Fault (Nat × VideoQueue T) :=
  if bytes ≤ videoQueueByteCapacity && 0 < countLimit then do
    let (dropped, queue) ← evict bytes countLimit queue.frames queue.bytes
    return (dropped,
      { frames := queue.frames ++ [(bytes, value)], bytes := queue.bytes + bytes })
  else .error .assertion

/-- The charge of these frames. -/
def charge (frames : List (Nat × T)) : Nat := (frames.map Prod.fst).sum

/-- What a video queue keeps to: every frame is charged its size, and the charge of the queue is
that of its frames, within both limits. -/
structure Charged (size : T → Nat) (countLimit : Nat) (queue : VideoQueue T) : Prop where
  /-- The charge is that of the frames. -/
  bytes : queue.bytes = charge queue.frames
  /-- It is within its limit. -/
  within : queue.bytes ≤ videoQueueByteCapacity
  /-- The number of frames is within its limit. -/
  count : queue.frames.length ≤ countLimit
  /-- Every frame is charged its size. -/
  sized : ∀ frame ∈ queue.frames, frame.1 = size frame.2

/-- The frames leave room for one more of this size. -/
def Room (bytes countLimit : Nat) (frames : List (Nat × T)) : Prop :=
  frames.length < countLimit ∧ charge frames + bytes ≤ videoQueueByteCapacity

instance (bytes countLimit : Nat) (frames : List (Nat × T)) :
    Decidable (Room bytes countLimit frames) := inferInstanceAs (Decidable (_ ∧ _))

/-- Frames within the byte limit are full exactly when they leave no room. -/
theorem full_eq {bytes countLimit : Nat} {frames : List (Nat × T)}
    (within : charge frames ≤ videoQueueByteCapacity) :
    full { frames, bytes := charge frames } bytes countLimit =
      .ok (decide (¬Room bytes countLimit frames)) := by
  unfold full
  split
  · rename_i many
    have refused : ¬Room bytes countLimit frames := fun room => Nat.not_le_of_lt room.1 many
    rw [decide_eq_true refused]
  · rename_i few
    rw [Transport.subtract_of_le within]
    show Except.ok (decide (videoQueueByteCapacity - charge frames < bytes)) = _
    congr 1
    rw [decide_eq_decide]
    constructor
    · rintro short ⟨-, fits⟩
      omega
    · intro refused
      by_contra free
      exact refused ⟨Nat.lt_of_not_le few, by omega⟩

/-- The loop drops the fewest of the oldest frames that leave room, and faults on none. -/
theorem evict_spec {bytes countLimit : Nat} (small : bytes ≤ videoQueueByteCapacity)
    (positive : 0 < countLimit) (frames : List (Nat × T))
    (within : charge frames ≤ videoQueueByteCapacity) : ∃ dropped,
      evict bytes countLimit frames (charge frames) =
        .ok (dropped, ⟨frames.drop dropped, charge (frames.drop dropped)⟩) ∧
      dropped ≤ frames.length ∧ Room bytes countLimit (frames.drop dropped) ∧
      ∀ fewer < dropped, ¬Room bytes countLimit (frames.drop fewer) := by
  induction frames with
  | nil =>
    have room : Room bytes countLimit ([] : List (Nat × T)) := ⟨positive, by simpa [charge]⟩
    refine ⟨0, ?_, Nat.le_refl _, room, by simp⟩
    rw [evict, full_eq within, decide_eq_false (not_not.mpr room)]
    rfl
  | cons frame frames ih =>
    have total : charge (frame :: frames) = frame.1 + charge frames := by simp [charge]
    by_cases room : Room bytes countLimit (frame :: frames)
    · refine ⟨0, ?_, Nat.zero_le _, room, by simp⟩
      rw [evict, full_eq within, decide_eq_false (not_not.mpr room)]
      rfl
    · obtain ⟨dropped, outcome, most, enough, fewest⟩ := ih (by omega)
      refine ⟨dropped + 1, ?_, by simpa using most, enough, ?_⟩
      · rw [evict, full_eq within, decide_eq_true room]
        show (do
          let charge ← subtract (charge (frame :: frames)) frame.1
          let (dropped, queue) ← evict bytes countLimit frames charge
          return (dropped + 1, queue)) = _
        rw [Transport.subtract_of_le (by omega),
          show charge (frame :: frames) - frame.1 = charge frames by omega]
        show (do
          let (dropped, queue) ← evict bytes countLimit frames (charge frames)
          return (dropped + 1, queue)) = _
        rw [outcome]
        rfl
      · intro fewer less
        cases fewer with
        | zero => exact room
        | succ fewer => exact fewest fewer (by omega)

variable {size : T → Nat} {countLimit : Nat} {queue : VideoQueue T}

/-- The charge of an empty queue. -/
theorem empty_charged (size : T → Nat) (countLimit : Nat) : Charged size countLimit {} :=
  ⟨rfl, Nat.zero_le _, Nat.zero_le _, by simp⟩

/-- A push into a charged queue drops the fewest of the oldest frames that leave room, and keeps
it charged. -/
theorem pushBack_of_charged (charged : queue.Charged size countLimit) (positive : 0 < countLimit)
    (value : T) (small : size value ≤ videoQueueByteCapacity) : ∃ dropped after,
      queue.pushBack value (size value) countLimit = .ok (dropped, after) ∧
      after.Charged size countLimit ∧ dropped ≤ queue.frames.length ∧
      after.frames = queue.frames.drop dropped ++ [(size value, value)] ∧
      Room (size value) countLimit (queue.frames.drop dropped) ∧
      ∀ fewer < dropped, ¬Room (size value) countLimit (queue.frames.drop fewer) := by
  have within : charge queue.frames ≤ videoQueueByteCapacity := charged.bytes ▸ charged.within
  obtain ⟨dropped, evicted, most, room, fewest⟩ := evict_spec small positive queue.frames within
  refine ⟨dropped, ⟨queue.frames.drop dropped ++ [(size value, value)],
    charge (queue.frames.drop dropped) + size value⟩, ?_, ?_, most, rfl, room, fewest⟩
  · have allowed : (decide (size value ≤ videoQueueByteCapacity) && decide (0 < countLimit)) =
        true := by simp [small, positive]
    rw [pushBack, if_pos allowed, charged.bytes, evicted]
    rfl
  · obtain ⟨few, fits⟩ := room
    constructor
    · show charge (queue.frames.drop dropped) + size value = charge (_ ++ _)
      simp [charge]
    · exact fits
    · show (queue.frames.drop dropped ++ [(size value, value)]).length ≤ countLimit
      rw [List.length_append, List.length_singleton]
      omega
    · intro frame member
      rcases List.mem_append.mp member with old | new
      · exact charged.sized frame (List.mem_of_mem_drop old)
      · rw [List.mem_singleton.mp new]

/-- Removing the oldest frame of a charged queue never underflows and keeps it charged. -/
theorem popFront_of_charged (charged : queue.Charged size countLimit) :
    (queue.frames = [] ∧ queue.popFront = .ok (none, queue)) ∨
    ∃ frame after, queue.frames = frame :: after.frames ∧
      queue.popFront = .ok (some frame.2, after) ∧ after.Charged size countLimit := by
  cases held : queue.frames with
  | nil => exact .inl ⟨rfl, by simp [popFront, held]⟩
  | cons frame frames =>
    have bytes : queue.bytes = frame.1 + charge frames := by
      simpa [held, charge] using charged.bytes
    have within := charged.within
    have count := charged.count
    rw [held, List.length_cons] at count
    refine .inr ⟨frame, ⟨frames, charge frames⟩, rfl, ?_, ?_⟩
    · simp only [popFront, held]
      rw [Transport.subtract_of_le (by omega),
        show queue.bytes - frame.1 = charge frames by omega]
      rfl
    · constructor
      · rfl
      · show charge frames ≤ videoQueueByteCapacity
        omega
      · show frames.length ≤ countLimit
        omega
      · intro other member
        exact charged.sized other (by simp [held, member])

end VideoQueue

/-- `NativeVideoSubmission`. -/
structure VideoSubmission where
  /-- Codec of the frame. -/
  codec : UInt32
  /-- Whether it is a key frame. -/
  flags : UInt32
  /-- Presentation time. -/
  pts : UInt64
  /-- Metadata and payload. -/
  record : List UInt8
  deriving DecidableEq, Repr

/-- `NativeVideoFrame`. -/
structure VideoFrame where
  /-- Codec of the frame. -/
  codec : UInt32
  /-- Whether it is a key frame. -/
  flags : UInt32
  /-- Number of the frame. -/
  frameNumber : UInt64
  /-- Presentation time. -/
  pts : UInt64
  /-- Time the host spent on the frame. -/
  hostProcessingLatency : UInt16
  /-- The encoded frame. -/
  payload : List UInt8
  deriving DecidableEq, Repr

/-- `NativeAudioPacket`. -/
structure AudioPacket where
  /-- Presentation time. -/
  pts : UInt64
  /-- Samples of the frame. -/
  frameSamples : UInt16
  /-- Samples lost in its place. -/
  missingSamples : UInt32
  /-- The encoded samples. -/
  payload : List UInt8
  deriving DecidableEq, Repr

/-- What `plank_transport_native_video_send` reads of its arguments and the state. -/
structure VideoOffer where
  /-- Mode of the endpoint. -/
  mode : Nat
  /-- `struct_size`. -/
  structSize : UInt32
  /-- Codec of the frame. -/
  codec : UInt32
  /-- Whether it is a key frame. -/
  flags : UInt32
  /-- Number of the frame. -/
  frameNumber : UInt64
  /-- Presentation time. -/
  pts : UInt64
  /-- Time the host spent on the frame. -/
  hostProcessingLatency : UInt16
  /-- The payload; nothing for a null pointer. -/
  payload : Option (List UInt8)
  /-- The state of the endpoint. -/
  state : EndpointState
  deriving DecidableEq, Repr

/-- What `plank_transport_native_audio_send` reads of its arguments and the state. -/
structure AudioOffer where
  /-- Mode of the endpoint. -/
  mode : Nat
  /-- `struct_size`. -/
  structSize : UInt32
  /-- Samples of the frame. -/
  frameSamples : UInt16
  /-- Samples lost in its place; none may be. -/
  missingSamples : UInt32
  /-- Presentation time. -/
  pts : UInt64
  /-- The payload; nothing for a null pointer. -/
  payload : Option (List UInt8)
  /-- The state of the endpoint. -/
  state : EndpointState
  deriving DecidableEq, Repr

/-- `video_record`. -/
def videoRecord (number : UInt64) (latency : UInt16) (payload : List UInt8) : List UInt8 :=
  bigEndian 8 number.toNat ++ bigEndian 2 latency.toNat ++
    List.replicate (videoMetadataSize - 10) 0 ++ payload

/-- The checks of `plank_transport_native_video_send`, and what it pushes. -/
def videoSubmission (offer : VideoOffer) : Except Status VideoSubmission :=
  match offer.payload with
  | none => .error .invalidArgument
  | some payload =>
    if offer.mode ≠ 1 || offer.structSize ≠ 40 ||
        !(offer.codec = videoCodecH264 || offer.codec = videoCodecHevc) ||
        offer.flags &&& ~~~videoFlagKey ≠ 0 ||
        !(1 ≤ payload.length && payload.length ≤ maxVideoFrameSize) then .error .invalidArgument
    else if offer.state ≠ .ready then .error .invalidState
    else
      .ok {
        codec := offer.codec
        flags := offer.flags
        pts := offer.pts
        record := videoRecord offer.frameNumber offer.hostProcessingLatency payload }

/-- The checks of `plank_transport_native_audio_send`, and what it pushes. -/
def audioSubmission (offer : AudioOffer) : Except Status AudioPacket :=
  match offer.payload with
  | none => .error .invalidArgument
  | some payload =>
    if offer.mode ≠ 1 || offer.structSize ≠ 24 || offer.frameSamples = 0 ||
        offer.missingSamples ≠ 0 ||
        !(1 ≤ payload.length && payload.length ≤ maxAudioPacketSize) then .error .invalidArgument
    else if offer.state ≠ .ready then .error .invalidState
    else
      .ok { pts := offer.pts, frameSamples := offer.frameSamples, missingSamples := 0, payload }

/-- The result of a send call that dropped so many records. -/
def droppedStatus (dropped : Nat) : Status := if dropped ≠ 0 then .dropped else .ok

/-- `enqueue_replaceable`: whether it dropped the oldest value, and the queue after. -/
def enqueueReplaceable {T : Type} (queue : List T) (capacity : Nat) (value : T) : Bool × List T :=
  if queue.length = capacity then (true, queue.tail ++ [value]) else (false, queue ++ [value])

/-- The part of `plank_transport_native_video_receive` that runs under the lock. -/
def videoClaim {T : Type} (payload : T → List UInt8) (demand : Demand) (queue : VideoQueue T) :
    Except Fault (Reply T × VideoQueue T) :=
  if !demand.pointers || !demand.output.sizeOut then .ok ({ status := .invalidArgument }, queue)
  else
    match queue.frames with
    | [] => .ok ({ status := demand.missed }, queue)
    | (_, front) :: _ =>
      let (status, sizeOut) := Transport.validateBytesOut (payload front).length demand.output
      if status = .ok then do
        let (popped, queue) ← queue.popFront
        match popped with
        | none => .error .expected
        | some frame => return ({ status, sizeOut, record := some frame }, queue)
      else .ok ({ status, sizeOut }, queue)

/-- The part of `plank_transport_native_audio_receive` that runs under the lock. -/
def audioClaim {T : Type} (payload : T → List UInt8) (demand : Demand) (queue : List T) :
    Reply T × List T :=
  if !demand.pointers || !demand.output.sizeOut then ({ status := .invalidArgument }, queue)
  else
    match claimReceiveFront queue (fun packet => (payload packet).length) demand.output with
    | none => ({ status := demand.missed }, queue)
    | some (status, sizeOut, record, queue) => ({ status, sizeOut, record }, queue)

section Claims

variable {T : Type} {payload : T → List UInt8}

/-- A claim takes the oldest frame for storage that takes it, or leaves the queue as it was. -/
theorem videoClaim_of_charged {size : T → Nat} {countLimit : Nat} {queue : VideoQueue T}
    (charged : queue.Charged size countLimit) (demand : Demand) :
    (∃ reply, reply.status ≠ .ok ∧ reply.record = none ∧
      videoClaim payload demand queue = .ok (reply, queue)) ∨
    ∃ frame after, queue.frames = frame :: after.frames ∧
      (Transport.validateBytesOut (payload frame.2).length demand.output).1 = .ok ∧
      videoClaim payload demand queue =
        .ok (⟨.ok, (Transport.validateBytesOut (payload frame.2).length demand.output).2,
          some frame.2⟩, after) ∧
      after.Charged size countLimit := by
  unfold videoClaim
  split
  · exact .inl ⟨{ status := .invalidArgument }, by simp, rfl, rfl⟩
  · rcases VideoQueue.popFront_of_charged charged with
      ⟨empty, _⟩ | ⟨frame, after, held, popped, kept⟩
    · exact .inl ⟨{ status := demand.missed }, demand.missed_ne_ok, rfl, by rw [empty]⟩
    · by_cases validated :
          (Transport.validateBytesOut (payload frame.2).length demand.output).1 = .ok
      · refine .inr ⟨frame, after, held, validated, ?_, kept⟩
        rw [held]
        simp only [validated, popped]
        rfl
      · refine .inl ⟨⟨(Transport.validateBytesOut (payload frame.2).length demand.output).1,
          (Transport.validateBytesOut (payload frame.2).length demand.output).2, none⟩, validated,
          rfl, ?_⟩
        rw [held]
        simp [validated]

/-- A claim takes the oldest packet for storage that takes it, or leaves the queue as it was. -/
theorem audioClaim_effect (demand : Demand) (queue : List T) :
    (∃ reply, reply.status ≠ .ok ∧ reply.record = none ∧
      audioClaim payload demand queue = (reply, queue)) ∨
    ∃ packet rest, queue = packet :: rest ∧
      (Transport.validateBytesOut (payload packet).length demand.output).1 = .ok ∧
      audioClaim payload demand queue =
        (⟨.ok, (Transport.validateBytesOut (payload packet).length demand.output).2,
          some packet⟩, rest) := by
  unfold audioClaim
  split
  · exact .inl ⟨{ status := .invalidArgument }, by simp, rfl, rfl⟩
  · cases queue with
    | nil => exact .inl ⟨_, demand.missed_ne_ok, rfl, rfl⟩
    | cons packet rest =>
      by_cases validated :
          (Transport.validateBytesOut (payload packet).length demand.output).1 = .ok
      · exact .inr ⟨packet, rest, rfl, validated, by simp [claimReceiveFront, validated]⟩
      · refine .inl ⟨⟨(Transport.validateBytesOut (payload packet).length demand.output).1,
          (Transport.validateBytesOut (payload packet).length demand.output).2, none⟩, validated,
          rfl, ?_⟩
        simp [claimReceiveFront, validated]

end Claims

/-- A video queue of records of this size and payload. -/
def videoReplacing {Record : Type} (size : Record → Nat) (payload : Record → List UInt8)
    (countLimit : Nat) :
    Queue.Replacing Fault (VideoQueue (Queue.Item Record)) Record Demand where
  empty := {}
  items queue := queue.frames.map Prod.snd
  fits record := size record ≤ videoQueueByteCapacity
  room items record := VideoQueue.Room (size record) countLimit
    (items.map fun item => (size item.2, item))
  push item queue := queue.pushBack item (size item.2) countLimit
  pop := VideoQueue.popFront
  claim demand queue :=
    (videoClaim (fun item => payload item.2) demand queue).map fun (reply, after) =>
      (reply.record, after)
  copies demand record := (copyBytesOut (payload record) demand.output).1 = .ok

/-- An audio queue of packets. -/
def audioReplacing (capacity : Nat) :
    Queue.Replacing Fault (List (Queue.Item AudioPacket)) AudioPacket Demand where
  empty := []
  items := id
  fits _ := true
  room items _ := items.length < capacity
  push item queue :=
    let (dropped, after) := enqueueReplaceable queue capacity item
    .ok (if dropped then 1 else 0, after)
  pop queue := .ok (queue.head?, queue.tail)
  claim demand queue :=
    let (reply, after) := audioClaim (fun item => item.2.payload) demand queue
    .ok (reply.record, after)
  copies demand packet := (copyBytesOut packet.payload demand.output).1 = .ok

/-- Frames charged their size are the records with their size. -/
theorem VideoQueue.Charged.frames_eq {Record : Type} {size : Record → Nat} {countLimit : Nat}
    {queue : VideoQueue (Queue.Item Record)}
    (charged : queue.Charged (fun item => size item.2) countLimit) (skipped : Nat) :
    ((queue.frames.map Prod.snd).drop skipped).map (fun item => (size item.2, item)) =
      queue.frames.drop skipped := by
  rw [← List.map_drop, List.map_map]
  have same : ∀ frame ∈ queue.frames.drop skipped,
      ((fun item : Queue.Item Record => (size item.2, item)) ∘ Prod.snd) frame = id frame := by
    intro frame member
    have sized := charged.sized frame (List.mem_of_mem_drop member)
    exact Prod.ext sized.symm rfl
  rw [List.map_congr_left same, List.map_id]

/-- A copy of what was validated succeeds. -/
theorem copies_of_validated {payload : List UInt8} {output : Output}
    (validated : (Transport.validateBytesOut payload.length output).1 = .ok) :
    (copyBytesOut payload output).1 = .ok := by
  rw [Transport.copyBytesOut_of_validated validated]

/-- A video queue keeps to the rules of a queue that replaces its oldest records. -/
theorem videoReplacing_lawful {Record : Type} (size : Record → Nat)
    (payload : Record → List UInt8) {countLimit : Nat} (positive : 0 < countLimit) :
    (videoReplacing size payload countLimit).Lawful
      (VideoQueue.Charged (fun item => size item.2) countLimit) where
  empty := VideoQueue.empty_charged _ countLimit
  nothing := rfl
  push item queue charged fits := by
    obtain ⟨dropped, after, pushed, kept, most, stored, room, fewest⟩ :=
      VideoQueue.pushBack_of_charged charged positive item (by simpa [videoReplacing] using fits)
    refine ⟨dropped, after, pushed, kept, by simpa [videoReplacing] using most, ?_, ?_, ?_⟩
    · show after.frames.map Prod.snd = (queue.frames.map Prod.snd).drop dropped ++ [item]
      rw [stored, List.map_append, List.map_drop]
      rfl
    · show decide (VideoQueue.Room (size item.2) countLimit
        (((queue.frames.map Prod.snd).drop dropped).map fun item => (size item.2, item))) = true
      rw [charged.frames_eq dropped]
      exact decide_eq_true room
    · intro fewer less
      show decide (VideoQueue.Room (size item.2) countLimit
        (((queue.frames.map Prod.snd).drop fewer).map fun item => (size item.2, item))) = false
      rw [charged.frames_eq fewer]
      exact decide_eq_false (fewest fewer less)
  pop queue charged := by
    rcases VideoQueue.popFront_of_charged charged with
      ⟨empty, popped⟩ | ⟨frame, after, held, popped, kept⟩
    · exact ⟨none, queue, popped, charged, rfl⟩
    · exact ⟨some frame.2, after, popped, kept, by simp [videoReplacing, held]⟩
  claim demand queue charged := by
    rcases @videoClaim_of_charged _ (fun item => payload item.2) _ _ _ charged demand with
      ⟨reply, _, nothing, called⟩ | ⟨frame, after, held, _, called, kept⟩
    · exact ⟨none, queue, by simp [videoReplacing, called, nothing, Except.map], charged, rfl⟩
    · exact ⟨some frame.2, after, by simp [videoReplacing, called, Except.map], kept,
        by simp [videoReplacing, held]⟩
  refused demand queue after charged claimed := by
    rcases @videoClaim_of_charged _ (fun item => payload item.2) _ _ _ charged demand with
      ⟨reply, _, _, called⟩ | ⟨frame, _, _, _, called, _⟩
    · simp only [videoReplacing, called, Except.map] at claimed
      exact (congrArg Prod.snd (Except.ok.inj claimed)).symm
    · simp only [videoReplacing, called, Except.map] at claimed
      cases congrArg Prod.fst (Except.ok.inj claimed)
  claimed demand queue item after charged claimed := by
    rcases @videoClaim_of_charged _ (fun item => payload item.2) _ _ _ charged demand with
      ⟨reply, _, nothing, called⟩ | ⟨frame, _, _, validated, called, _⟩
    · simp only [videoReplacing, called, Except.map] at claimed
      exact absurd (nothing.symm.trans (congrArg Prod.fst (Except.ok.inj claimed))) (by simp)
    · simp only [videoReplacing, called, Except.map] at claimed
      obtain rfl : frame.2 = item := Option.some.inj (congrArg Prod.fst (Except.ok.inj claimed))
      exact decide_eq_true (copies_of_validated validated)

/-- An audio queue keeps to the rules of a queue that replaces its oldest records. -/
theorem audioReplacing_lawful {capacity : Nat} (positive : 0 < capacity) :
    (audioReplacing capacity).Lawful fun queue => queue.length ≤ capacity where
  empty := Nat.zero_le _
  nothing := rfl
  push item queue counted _ := by
    by_cases many : queue.length = capacity
    · refine ⟨1, queue.tail ++ [item], by simp [audioReplacing, enqueueReplaceable, many], ?_, ?_,
        ?_, ?_, ?_⟩
      · show (queue.tail ++ [item]).length ≤ capacity
        rw [List.length_append, List.length_tail, List.length_singleton]
        omega
      · show 1 ≤ queue.length
        omega
      · simp [audioReplacing]
      · show decide ((queue.drop 1).length < capacity) = true
        rw [List.length_drop]
        exact decide_eq_true (by omega)
      · intro fewer less
        obtain rfl : fewer = 0 := by omega
        exact decide_eq_false (by simp [audioReplacing, many])
    · refine ⟨0, queue ++ [item], by simp [audioReplacing, enqueueReplaceable, many], ?_,
        Nat.zero_le _, rfl, ?_, by simp⟩
      · show (queue ++ [item]).length ≤ capacity
        rw [List.length_append, List.length_singleton]
        have below : queue.length < capacity := Nat.lt_of_le_of_ne counted many
        omega
      · exact decide_eq_true (Nat.lt_of_le_of_ne counted many)
  pop queue counted := by
    refine ⟨queue.head?, queue.tail, rfl, ?_, ?_⟩
    · show queue.tail.length ≤ capacity
      rw [List.length_tail]
      have counted : queue.length ≤ capacity := counted
      omega
    · show queue = queue.head?.toList ++ queue.tail
      cases queue <;> rfl
  claim demand queue counted := by
    rcases @audioClaim_effect _ (fun item : Queue.Item AudioPacket => item.2.payload) demand queue
      with ⟨reply, _, nothing, called⟩ | ⟨packet, rest, rfl, _, called⟩
    · exact ⟨none, queue, by simp [audioReplacing, called, nothing], counted, rfl⟩
    · have shorter : rest.length ≤ capacity := Nat.le_of_succ_le counted
      exact ⟨some packet, rest, by simp [audioReplacing, called], shorter, rfl⟩
  refused demand queue after _ claimed := by
    rcases @audioClaim_effect _ (fun item : Queue.Item AudioPacket => item.2.payload) demand queue
      with ⟨reply, _, _, called⟩ | ⟨packet, rest, _, _, called⟩
    · simp only [audioReplacing, called] at claimed
      exact (congrArg Prod.snd (Except.ok.inj claimed)).symm
    · simp only [audioReplacing, called] at claimed
      cases congrArg Prod.fst (Except.ok.inj claimed)
  claimed demand queue item after _ claimed := by
    rcases @audioClaim_effect _ (fun item : Queue.Item AudioPacket => item.2.payload) demand queue
      with ⟨reply, _, nothing, called⟩ | ⟨packet, rest, _, validated, called⟩
    · simp only [audioReplacing, called] at claimed
      exact absurd (nothing.symm.trans (congrArg Prod.fst (Except.ok.inj claimed))) (by simp)
    · simp only [audioReplacing, called] at claimed
      obtain rfl : packet = item := Option.some.inj (congrArg Prod.fst (Except.ok.inj claimed))
      exact decide_eq_true (copies_of_validated validated)

/-- `video_send`. -/
def videoSendQueue := videoReplacing (fun submission => submission.record.length)
  VideoSubmission.record videoSendCapacity
/-- `video_receive`. -/
def videoReceiveQueue := videoReplacing (fun frame => frame.payload.length + videoMetadataSize)
  VideoFrame.payload videoReceiveCapacity
/-- `audio_send`. -/
def audioSendQueue := audioReplacing audioSendCapacity
/-- `audio_receive`. -/
def audioReceiveQueue := audioReplacing audioReceiveCapacity

/-- What a video send call pushes fits the queue. -/
theorem videoSubmission_fits {offer : VideoOffer} {submission : VideoSubmission}
    (passed : videoSubmission offer = .ok submission) :
    videoSendQueue.fits submission = true := by
  unfold videoSubmission at passed
  cases given : offer.payload with
  | none => simp [given] at passed
  | some payload =>
    rw [given] at passed
    obtain ⟨checked, passed⟩ := ite_error_ok passed
    obtain ⟨_, passed⟩ := ite_error_ok passed
    obtain rfl := Except.ok.inj passed
    have small : payload.length ≤ maxVideoFrameSize := by
      simp only [Bool.or_eq_true, not_or, Bool.not_eq_true', Bool.and_eq_false_iff,
        decide_eq_false_iff_not] at checked
      omega
    show decide ((videoRecord _ _ payload).length ≤ videoQueueByteCapacity) = true
    apply decide_eq_true
    simp only [videoRecord, List.length_append, Camera.bigEndian_length, List.length_replicate,
      videoQueueByteCapacity, videoMetadataSize]
    omega

/-- A receive call that does not return `OK` claims nothing. -/
theorem videoClaim_refused {T : Type} {payload : T → List UInt8} {size : T → Nat}
    {countLimit : Nat} {queue after : VideoQueue T} (charged : queue.Charged size countLimit)
    {demand : Demand} {reply : Reply T}
    (called : videoClaim payload demand queue = .ok (reply, after)) (failed : reply.status ≠ .ok) :
    reply.record = none ∧ after = queue := by
  rcases @videoClaim_of_charged _ payload _ _ _ charged demand with
    ⟨other, _, nothing, refused⟩ | ⟨_, _, _, _, taken, _⟩
  · obtain ⟨rfl, rfl⟩ : other = reply ∧ queue = after := by simpa [refused] using called
    exact ⟨nothing, rfl⟩
  · rw [taken] at called
    have same := congrArg Prod.fst (Except.ok.inj called)
    exact absurd (congrArg Reply.status same).symm failed

/-- A receive call that does not return `OK` claims nothing. -/
theorem audioClaim_refused {T : Type} {payload : T → List UInt8} {queue : List T}
    {demand : Demand} (failed : (audioClaim payload demand queue).1.status ≠ .ok) :
    (audioClaim payload demand queue).1.record = none ∧
      (audioClaim payload demand queue).2 = queue := by
  rcases @audioClaim_effect _ payload demand queue with
    ⟨reply, _, nothing, refused⟩ | ⟨_, _, _, _, taken⟩
  · rw [refused]
    exact ⟨nothing, rfl⟩
  · rw [taken] at failed
    exact absurd rfl failed

/-- In every run each media queue conserves and orders its records; the video queues are charged
for what they hold, send calls push what fits, and a receive call that is refused claims
nothing. -/
theorem media_queues_conserve :
    (∀ lane, (Queue.Lane.system videoSendQueue).Reachable lane →
      lane.Conserving videoSendQueue
        (VideoQueue.Charged (fun item => item.2.record.length) videoSendCapacity)) ∧
    (∀ offer submission, videoSubmission offer = .ok submission →
      videoSendQueue.fits submission = true) ∧
    (∀ lane, (Queue.Lane.system videoReceiveQueue).Reachable lane →
      lane.Conserving videoReceiveQueue
        (VideoQueue.Charged (fun item => item.2.payload.length + videoMetadataSize)
          videoReceiveCapacity) ∧
      ∀ demand reply after,
        videoClaim (fun item : Queue.Item VideoFrame => item.2.payload) demand lane.queue =
          .ok (reply, after) →
        reply.status ≠ .ok → reply.record = none ∧ after = lane.queue) ∧
    (∀ lane, (Queue.Lane.system audioSendQueue).Reachable lane →
      lane.Conserving audioSendQueue fun queue => queue.length ≤ audioSendCapacity) ∧
    (∀ lane, (Queue.Lane.system audioReceiveQueue).Reachable lane →
      lane.Conserving audioReceiveQueue (fun queue => queue.length ≤ audioReceiveCapacity) ∧
      ∀ demand,
        (audioClaim (fun item : Queue.Item AudioPacket => item.2.payload) demand
          lane.queue).1.status ≠ .ok →
        (audioClaim (fun item : Queue.Item AudioPacket => item.2.payload) demand
          lane.queue).1.record = none ∧
        (audioClaim (fun item : Queue.Item AudioPacket => item.2.payload) demand
          lane.queue).2 = lane.queue) := by
  have send := videoReplacing_lawful (fun submission : VideoSubmission => submission.record.length)
    VideoSubmission.record (show 0 < videoSendCapacity by decide)
  have receive := videoReplacing_lawful
    (fun frame : VideoFrame => frame.payload.length + videoMetadataSize) VideoFrame.payload
    (show 0 < videoReceiveCapacity by decide)
  refine ⟨?_, ?_, ?_, ?_, ?_⟩
  · intro lane reachable
    exact Queue.Lane.reachable_conserving send reachable
  · intro offer submission passed
    exact videoSubmission_fits passed
  · intro lane reachable
    have conserving := Queue.Lane.reachable_conserving receive reachable
    exact ⟨conserving, fun _ _ _ called failed =>
      videoClaim_refused conserving.queue called failed⟩
  · intro lane reachable
    exact Queue.Lane.reachable_conserving (audioReplacing_lawful (by decide)) reachable
  · intro lane reachable
    exact ⟨Queue.Lane.reachable_conserving (audioReplacing_lawful (by decide)) reachable,
      fun _ failed => audioClaim_refused failed⟩

/-- A frame of one byte. -/
def sampleVideoFrame (number : UInt64) : VideoFrame where
  codec := videoCodecH264
  flags := 0
  frameNumber := number
  pts := number
  hostProcessingLatency := 0
  payload := [7]

/-- Seventeen frames arrive while one is being copied out, after it was refused to short storage. -/
def sampleVideoRun : List (Queue.LaneAction VideoFrame Demand) :=
  [.push (sampleVideoFrame 0), .count 0, .claim 0 (sampleDemand true 0),
    .claim 0 (sampleDemand true 1)] ++
  (List.range 17).flatMap (fun number => [.push (sampleVideoFrame (.ofNat (number + 1))), .count 0])
    ++ [.copy 0]

/-- The receive queue after that. -/
def sampleVideoLane : Queue.Lane Fault (VideoQueue (Queue.Item VideoFrame)) VideoFrame Demand :=
  ((Queue.Lane.system videoReceiveQueue).run { queue := {} } sampleVideoRun).getD { queue := {} }

/-- The sample queue handed out its first frame, dropped its second, and conserves the rest. -/
theorem sampleVideoLane_conserves :
    sampleVideoLane.delivered.map Prod.fst = [0] ∧ sampleVideoLane.counter = 1 ∧
      sampleVideoLane.Conserving videoReceiveQueue
        (VideoQueue.Charged (fun item => item.2.payload.length + videoMetadataSize)
          videoReceiveCapacity) := by
  have evaluated : (Queue.Lane.system videoReceiveQueue).run { queue := {} } sampleVideoRun =
      some sampleVideoLane := rfl
  exact ⟨rfl, rfl, (media_queues_conserve.2.2.1 sampleVideoLane
    (Transition.System.reachable_of_run rfl evaluated)).1⟩

end Plank.Native
