import Plank.Camera.Codec
import Plank.Native.VideoStream

/-!
# Video arrives as it was sent

Whatever the receiver's codec is, the packets of an accepted frame bring it back: the codec packet
comes before the first frame and whenever the codec changes, so the receiver's codec is the sender's
last one whenever a frame arrives.
-/

namespace Plank.Native

open Transport (Fault ite_error_ok)
open Wire (readBe writeBe)

/-- The record of a frame as the caller gave it. -/
def VideoOffer.frame (offer : VideoOffer) : VideoFrame where
  codec := offer.codec
  flags := offer.flags
  frameNumber := offer.frameNumber
  pts := offer.pts
  hostProcessingLatency := offer.hostProcessingLatency
  payload := offer.payload.getD []

/-- A call was accepted with what it pushed. -/
def SentVideo.Accepted (sent : SentVideo) : Prop := videoSubmission sent.1 = .ok sent.2

/-- The receiver's codec is the one that was sent last. -/
def CodecsAgree (active : Option UInt32) (codec : UInt32) : Prop :=
  ∀ sent, active = some sent → codec = sent

/-- What an accepted call pushed. -/
theorem SentVideo.Accepted.facts {sent : SentVideo} (accepted : sent.Accepted) :
    ∃ payload, sent.1.payload = some payload ∧ 1 ≤ payload.length ∧
      payload.length ≤ maxVideoFrameSize ∧ sent.1.flags &&& ~~~videoFlagKey = 0 ∧
      sent.2 = {
        codec := sent.1.codec
        flags := sent.1.flags
        pts := sent.1.pts
        record := videoRecord sent.1.frameNumber sent.1.hostProcessingLatency payload } := by
  unfold Accepted videoSubmission at accepted
  cases given : sent.1.payload with
  | none =>
    rw [given] at accepted
    exact absurd accepted nofun
  | some payload =>
    rw [given] at accepted
    obtain ⟨checked, accepted⟩ := ite_error_ok accepted
    obtain ⟨-, accepted⟩ := ite_error_ok accepted
    simp only [Bool.or_eq_true, not_or, Bool.not_eq_true', decide_eq_true_eq, not_not,
      Bool.and_eq_true, ne_eq, Bool.not_eq_false] at checked
    obtain ⟨⟨-, flags⟩, ⟨some, most⟩⟩ := checked
    exact ⟨payload, rfl, some, most, flags, (Except.ok.inj accepted).symm⟩

/-- The length of a record. -/
theorem length_videoRecord (number : UInt64) (latency : UInt16) (payload : List UInt8) :
    (videoRecord number latency payload).length = payload.length + videoMetadataSize := by
  simp only [videoRecord, List.length_append, Camera.bigEndian_length, List.length_replicate,
    videoMetadataSize]
  omega

/-- A record is read as it was written. -/
theorem read_videoRecord (number : UInt64) (latency : UInt16) (payload : List UInt8) :
    let record := videoRecord number latency payload
    UInt64.ofNat (readBe (record.take 8)) = number ∧
      UInt16.ofNat (readBe ((record.drop 8).take 2)) = latency ∧
      record.drop videoMetadataSize = payload := by
  have first : (writeBe 8 number.toNat).length = 8 := Wire.length_writeBe _ _
  have second : (writeBe 2 latency.toNat).length = 2 := Wire.length_writeBe _ _
  have whole : videoRecord number latency payload = writeBe 8 number.toNat ++
      (writeBe 2 latency.toNat ++ (List.replicate (videoMetadataSize - 10) 0 ++ payload)) := by
    simp only [videoRecord, Camera.bigEndian_eq, List.append_assoc]
  refine ⟨?_, ?_, ?_⟩
  · rw [whole, List.take_left' first, Wire.readBe_writeBe number.toNat_lt, UInt64.ofNat_toNat]
  · rw [whole, List.drop_left' first, List.take_left' second,
      Wire.readBe_writeBe latency.toNat_lt, UInt16.ofNat_toNat]
  · have metadata : (writeBe 8 number.toNat ++ writeBe 2 latency.toNat ++
        List.replicate (videoMetadataSize - 10) (0 : UInt8)).length = videoMetadataSize := by
      rw [List.length_append, List.length_append, first, second, List.length_replicate]
      rfl
    simp only [videoRecord, Camera.bigEndian_eq]
    exact List.drop_left' metadata

/-- A flag that may be set is the key flag or none. -/
theorem keyFlag (flags : UInt32) (allowed : flags &&& ~~~videoFlagKey = 0) :
    (if decide (flags &&& videoFlagKey ≠ 0) then videoFlagKey else 0) = flags := by
  have split : flags = (flags &&& videoFlagKey) ||| (flags &&& ~~~videoFlagKey) := by
    apply UInt32.toBitVec_inj.mp
    ext place
    simp only [UInt32.toBitVec_or, UInt32.toBitVec_and, UInt32.toBitVec_not, BitVec.getElem_or,
      BitVec.getElem_and, BitVec.getElem_not]
    cases flags.toBitVec[place] <;> cases videoFlagKey.toBitVec[place] <;> rfl
  have own : flags = flags &&& videoFlagKey := by simpa [allowed] using split
  have low : (flags &&& videoFlagKey).toNat = flags.toNat % 2 := by
    rw [UInt32.toNat_and]
    exact Nat.and_one_is_mod _
  by_cases key : flags &&& videoFlagKey = 0
  · rw [key, decide_eq_false (not_not.mpr rfl), own, key]
    rfl
  · rw [decide_eq_true key, if_pos rfl]
    have odd : flags.toNat % 2 = 1 := by
      have nonzero : (flags &&& videoFlagKey).toNat ≠ 0 := fun zero => key (UInt32.toNat.inj zero)
      omega
    rw [own]
    apply UInt32.toNat.inj
    rw [low, odd]
    rfl

/-- A codec packet, or none when the codec is the same, leaves the receiver with the codec of the
frame. -/
theorem receive_codec {active : Option UInt32} {codec : UInt32} (agree : CodecsAgree active codec)
    (next : UInt32) :
    videoStream.receiveAll codec (if active ≠ some next then
      [AVPacket.codec { codec := next, rotation := 0, frameSize := 0 }] else []) =
      .ok (next, []) := by
  by_cases same : active = some next
  · rw [if_neg (not_not.mpr same), agree next same]
    rfl
  · rw [if_pos same]
    rfl

/-- The record of an accepted frame brings it back. -/
theorem receive_record {sent : SentVideo} (accepted : sent.Accepted) :
    videoStream.receiveAll sent.2.codec
      [.media ⟨false, decide (sent.2.flags &&& videoFlagKey ≠ 0), sent.2.pts,
        .ofNat sent.2.record.length⟩ sent.2.record] = .ok (sent.2.codec, [sent.1.frame]) := by
  obtain ⟨payload, given, some, most, flags, pushed⟩ := accepted.facts
  obtain ⟨number, latency, rest⟩ :=
    read_videoRecord sent.1.frameNumber sent.1.hostProcessingLatency payload
  have long : (videoRecord sent.1.frameNumber sent.1.hostProcessingLatency payload).length =
    payload.length + videoMetadataSize := length_videoRecord _ _ _
  have size : (decide (videoMetadataSize + 1 ≤ payload.length + videoMetadataSize) &&
      decide (payload.length + videoMetadataSize ≤ videoQueueByteCapacity)) = true := by
    unfold videoQueueByteCapacity
    rw [Bool.and_eq_true, decide_eq_true_eq, decide_eq_true_eq]
    omega
  have received : videoStream.receive sent.2.codec
      (.media ⟨false, decide (sent.2.flags &&& videoFlagKey ≠ 0), sent.2.pts,
        .ofNat sent.2.record.length⟩ sent.2.record) =
        .ok (sent.2.codec, Option.some sent.1.frame) := by
    rw [pushed]
    dsimp only [videoStream, receiveVideo]
    rw [long, size, number, latency, rest, keyFlag _ flags]
    unfold VideoOffer.frame
    rw [given]
    rfl
  exact videoStream.receiveAll_cons received rfl

/-- The packets of an accepted frame bring it back. -/
theorem video_roundTrip :
    videoStream.RoundTrip CodecsAgree SentVideo.Accepted fun sent => sent.1.frame := by
  intro active codec sent agree accepted
  refine ⟨sent.2.codec, ?_, fun _ same => Option.some.inj same⟩
  have config : videoStream.receiveAll sent.2.codec
      (if decide (sent.2.flags &&& videoFlagKey ≠ 0) then
        [AVPacket.media { isConfig := true, isKey := true, pts := sent.2.pts, size := 0 } []]
      else []) = .ok (sent.2.codec, []) := by
    split <;> rfl
  have opening := videoStream.receiveAll_append (receive_codec agree sent.2.codec) config
  exact videoStream.receiveAll_append opening (receive_record accepted)

/-- A frame that is received fits the receive queue. -/
theorem received_fits {codec next : UInt32} {packet : AVPacket} {frame : VideoFrame}
    (received : receiveVideo codec packet = .ok (next, some frame)) :
    frame.payload.length + videoMetadataSize ≤ videoQueueByteCapacity := by
  cases packet with
  | codec header => exact absurd (Prod.mk.inj (Except.ok.inj received)).2 nofun
  | hole => exact absurd (Prod.mk.inj (Except.ok.inj received)).2 nofun
  | media header payload =>
    dsimp only [receiveVideo] at received
    split at received
    · obtain ⟨checked, received⟩ := ite_error_ok received
      obtain ⟨-, same⟩ := Prod.mk.inj (Except.ok.inj received)
      obtain rfl := Option.some.inj same
      simp only [Bool.not_eq_true', Bool.not_eq_false, Bool.and_eq_true, decide_eq_true_eq]
        at checked
      show (payload.drop videoMetadataSize).length + videoMetadataSize ≤ videoQueueByteCapacity
      rw [List.length_drop]
      omega
    · exact absurd (Prod.mk.inj (Except.ok.inj received)).2 nofun

namespace VideoRoute

/-- What every step keeps. -/
structure Kept (route : VideoRoute) : Prop where
  /-- No side panics. -/
  panicked : route.panicked = none
  /-- The receiver does not fail. -/
  failed : route.failed = none
  /-- The send queue is charged for its submissions. -/
  sendQueue : route.sendQueue.Charged (fun sent => sent.2.record.length) videoSendCapacity
  /-- The receive queue is charged for its frames. -/
  receiveQueue : route.receiveQueue.Charged
    (fun frame => frame.payload.length + videoMetadataSize) videoReceiveCapacity
  /-- Calls that pushed a submission were accepted with it. -/
  accepted : ∀ sent ∈ route.accepted, sent.Accepted
  /-- What was taken and what is queued was accepted, in this order. -/
  ordered : (route.taken ++ route.sendQueue.frames.map Prod.snd).Sublist route.accepted
  /-- What was received, and what the packets still say, is what was taken. -/
  flowing : videoStream.Flowing CodecsAgree (fun sent => sent.1.frame) route.activeCodec
    route.codec route.taken (route.wire ++ route.outgoing) route.received

/-- Every step keeps the invariant. -/
theorem Kept.step {route : VideoRoute} (kept : Kept route) {action : VideoAction}
    {after : VideoRoute} (stepped : route.step action = some after) : Kept after := by
  cases action with
  | send offer =>
    dsimp only [VideoRoute.step] at stepped
    cases checked : videoSubmission offer with
    | error status =>
      rw [checked] at stepped
      obtain rfl := Option.some.inj stepped
      exact kept
    | ok submission =>
      have accepted : SentVideo.Accepted (offer, submission) := checked
      obtain ⟨payload, given, some, most, flags, pushed⟩ := accepted.facts
      have small : submission.record.length ≤ videoQueueByteCapacity := by
        have same : submission.record.length = payload.length + videoMetadataSize := by
          have := congrArg (fun pushed : VideoSubmission => pushed.record.length) pushed
          exact this.trans (length_videoRecord _ _ _)
        rw [same]
        exact Nat.add_le_add_right most _
      obtain ⟨dropped, queue, stored, charged, -, frames, -, -⟩ :=
        VideoQueue.pushBack_of_charged kept.sendQueue (by decide) (offer, submission) small
      rw [checked] at stepped
      dsimp only at stepped
      rw [stored] at stepped
      obtain rfl := Option.some.inj stepped
      exact { kept with
        sendQueue := charged
        accepted := by
          intro sent member
          cases List.mem_append.mp member with
          | inl old => exact kept.accepted sent old
          | inr new =>
            obtain rfl := List.mem_singleton.mp new
            exact accepted
        ordered := by
          show (route.taken ++ queue.frames.map Prod.snd).Sublist
            (route.accepted ++ [(offer, submission)])
          rw [frames, List.map_append, List.map_drop, ← List.append_assoc]
          have fewer : (route.taken ++ (route.sendQueue.frames.map Prod.snd).drop dropped).Sublist
              route.accepted :=
            ((List.Sublist.refl _).append (List.drop_sublist _ _)).trans kept.ordered
          exact fewer.append (List.Sublist.refl _) }
  | take =>
    dsimp only [VideoRoute.step] at stepped
    split at stepped
    · exact absurd stepped nofun
    · next idle =>
      obtain ⟨-, popped⟩ | ⟨frame, queue, frames, popped, charged⟩ :=
        VideoQueue.popFront_of_charged kept.sendQueue
      · rw [popped] at stepped
        exact absurd stepped nofun
      · rw [popped] at stepped
        obtain rfl := Option.some.inj stepped
        have ordered := kept.ordered
        rw [frames, List.map_cons] at ordered
        have good : frame.2.Accepted := kept.accepted _ (ordered.subset (by simp))
        have flowing := kept.flowing.send video_roundTrip good
        rw [idle, List.append_nil] at flowing
        exact { kept with
          sendQueue := charged
          ordered := by
            show (route.taken ++ [frame.2] ++ queue.frames.map Prod.snd).Sublist route.accepted
            rw [List.append_assoc]
            exact ordered
          flowing := flowing }
  | transmit =>
    dsimp only [VideoRoute.step] at stepped
    split at stepped
    · exact absurd stepped nofun
    · next packet outgoing ready =>
      obtain rfl := Option.some.inj stepped
      have flowing := kept.flowing
      rw [ready] at flowing
      rw [List.append_cons] at flowing
      exact { kept with flowing := flowing }
  | deliver =>
    dsimp only [VideoRoute.step] at stepped
    split at stepped
    · next packet wire _ waits =>
      have flowing := kept.flowing
      rw [waits, List.cons_append] at flowing
      obtain ⟨codec, value, received, flowing⟩ := flowing.arrive
      rw [received] at stepped
      cases value with
      | none =>
        obtain rfl := Option.some.inj stepped
        exact { kept with flowing := by simpa using flowing }
      | some frame =>
        obtain ⟨dropped, queue, stored, charged, -⟩ :=
          VideoQueue.pushBack_of_charged kept.receiveQueue (by decide) frame
            (received_fits received)
        dsimp only [pushVideoReceive] at stepped
        rw [stored] at stepped
        obtain rfl := Option.some.inj stepped
        exact { kept with receiveQueue := charged, flowing := flowing }
    · exact absurd stepped nofun
  | claim demand =>
    dsimp only [VideoRoute.step] at stepped
    obtain ⟨reply, -, -, called⟩ | ⟨frame, queue, -, -, called, charged⟩ :=
      @videoClaim_of_charged _ VideoFrame.payload _ _ _ kept.receiveQueue demand
    · rw [called] at stepped
      obtain rfl := Option.some.inj stepped
      exact kept
    · rw [called] at stepped
      obtain rfl := Option.some.inj stepped
      exact { kept with receiveQueue := charged }

/-- What holds between what was sent and what was received. -/
structure VideoLaw (route : VideoRoute) : Prop where
  /-- The receiver never fails. -/
  failed : route.failed = none
  /-- Neither side panics. -/
  panicked : route.panicked = none
  /-- What was taken from the send queue was accepted, in this order. -/
  taken : (route.taken).Sublist route.accepted ∧ ∀ sent ∈ route.taken, sent.Accepted
  /-- What was received is the beginning of what was taken. -/
  begins : route.received <+: route.taken.map fun sent => sent.1.frame
  /-- Once every packet is delivered it is all of it. -/
  settled : route.outgoing = [] → route.wire = [] →
    route.received = route.taken.map fun sent => sent.1.frame

/-- In every run the frames taken from the send queue arrive as they were given, in order. -/
theorem reachable_video (route : VideoRoute) (reachable : system.Reachable route) :
    VideoLaw route := by
  have preserves : system.Preserves Kept := fun _ _ _ kept stepped => kept.step stepped
  have kept : Kept route := by
    apply preserves.reachable _ reachable
    rintro first rfl
    exact ⟨rfl, rfl, VideoQueue.empty_charged _ _, VideoQueue.empty_charged _ _,
      fun _ member => (nomatch member), List.Sublist.refl _, 0, [], rfl, nofun, rfl⟩
  have taken : route.taken.Sublist route.accepted :=
    (List.sublist_append_left _ _).trans kept.ordered
  refine ⟨kept.failed, kept.panicked,
    ⟨taken, fun sent member => kept.accepted sent (taken.subset member)⟩, kept.flowing.begins, ?_⟩
  intro outgoing wire
  have flowing := kept.flowing
  rw [outgoing, wire] at flowing
  exact flowing.settled

/-- A call with a payload of two bytes. -/
def sampleOffer (codec flags : UInt32) (number : UInt64) : VideoOffer where
  mode := 1
  structSize := 40
  codec := codec
  flags := flags
  frameNumber := number
  pts := number * 3
  hostProcessingLatency := 700
  payload := some [8, 9]
  state := .ready

/-- A key frame, and a frame of the other codec behind it. -/
def switchRun : List VideoAction :=
  [.send (sampleOffer videoCodecH264 1 4), .take, .send (sampleOffer videoCodecHevc 0 5),
    .transmit, .transmit, .deliver, .transmit, .take, .transmit, .transmit, .deliver, .deliver,
    .deliver, .deliver]

/-- Both arrive. -/
theorem switch_video : ∃ route, system.run {} switchRun = some route ∧
    route.received.map VideoFrame.codec = [videoCodecH264, videoCodecHevc] ∧
    VideoLaw route := by
  obtain ⟨route, evaluated, facts⟩ := Option.map_eq_some_iff.mp
    (show (system.run {} switchRun).map (fun route => route.received.map VideoFrame.codec) =
      some [videoCodecH264, videoCodecHevc] from by decide +kernel)
  exact ⟨route, evaluated, facts, reachable_video route
    (Transition.System.reachable_of_run rfl evaluated)⟩

end VideoRoute

end Plank.Native
