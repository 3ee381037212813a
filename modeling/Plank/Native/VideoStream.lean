import Plank.Native.Media
import Plank.Wire.BigEndian
import Plank.Wire.Stream

/-!
# Video between two endpoints

`send_video` turns each submission that it takes from the send queue into packets of the media
protocol: a codec packet when the codec changes, an empty configuration packet in front of a key
frame, and the record. `receive_video` puts the frames together again and pushes them into the
receive queue. The media protocol itself is taken to deliver packets unchanged, in order and without
loss.
-/

namespace Plank.Native

open Transport (Fault)

/-- `CodecPacketHeader`. -/
structure CodecPacketHeader where
  /-- Codec of the media that follows. -/
  codec : UInt32
  /-- Rotation; always 0 here. -/
  rotation : Nat
  /-- Samples of an audio frame; 0 for video. -/
  frameSize : UInt16
  deriving DecidableEq, Repr

/-- `MediaPacketHeader`. -/
structure MediaPacketHeader where
  /-- Whether it is a configuration. -/
  isConfig : Bool
  /-- Whether it is a key frame. -/
  isKey : Bool
  /-- Presentation time. -/
  pts : UInt64
  /-- Size of the payload. -/
  size : UInt32
  deriving DecidableEq, Repr

/-- `AVPacket`. -/
inductive AVPacket where
  /-- A codec packet. -/
  | codec (header : CodecPacketHeader)
  /-- A media packet. -/
  | media (header : MediaPacketHeader) (payload : List UInt8)
  /-- A frame that could not be recovered. -/
  | hole
  deriving DecidableEq, Repr

/-- What `send_video` sends for a submission, with the codec it has sent last. -/
def sendVideo (activeCodec : Option UInt32) (frame : VideoSubmission) :
    Option UInt32 × List AVPacket :=
  let key := decide (frame.flags &&& videoFlagKey ≠ 0)
  let codec := if activeCodec ≠ some frame.codec then
    [AVPacket.codec { codec := frame.codec, rotation := 0, frameSize := 0 }] else []
  let config := if key then
    [AVPacket.media { isConfig := true, isKey := true, pts := frame.pts, size := 0 } []] else []
  let size := UInt32.ofNat frame.record.length
  (some frame.codec, codec ++ config ++
    [.media { isConfig := false, isKey := key, pts := frame.pts, size } frame.record])

/-- What `receive_video` does with a packet: the codec after it, and the frame it pushes. -/
def receiveVideo (codec : UInt32) : AVPacket → Except String (UInt32 × Option VideoFrame)
  | .codec header => .ok (header.codec, none)
  | .media header payload =>
    if !header.isConfig then
      if !(videoMetadataSize + 1 ≤ payload.length && payload.length ≤ videoQueueByteCapacity) then
        .error "native video frame size is invalid"
      else
        .ok (codec, some {
          codec
          flags := if header.isKey then videoFlagKey else 0
          frameNumber := .ofNat (Wire.readBe (payload.take 8))
          pts := header.pts
          hostProcessingLatency := .ofNat (Wire.readBe ((payload.drop 8).take 2))
          payload := payload.drop videoMetadataSize })
    else .ok (codec, none)
  | .hole => .ok (codec, none)

/-- `push_video_receive`. -/
def pushVideoReceive (queue : VideoQueue VideoFrame) (frame : VideoFrame) :
    Except Fault (Nat × VideoQueue VideoFrame) :=
  queue.pushBack frame (frame.payload.length + videoMetadataSize) videoReceiveCapacity

/-- `plank_transport_native_video_send` with what it pushes. -/
abbrev SentVideo := VideoOffer × VideoSubmission

/-- `send_video` and `receive_video`. -/
def videoStream : Wire.Stream (Option UInt32) UInt32 SentVideo AVPacket VideoFrame String where
  send active sent := sendVideo active sent.2
  receive := receiveVideo

/-- Both endpoints of a connection and the packets between them. -/
structure VideoRoute where
  /-- `video_send`; each submission with the call that pushed it. -/
  sendQueue : VideoQueue SentVideo := {}
  /-- Calls that pushed a submission, oldest first. -/
  accepted : List SentVideo := []
  /-- What `send_video` took from the queue, oldest first. -/
  taken : List SentVideo := []
  /-- `active_codec`. -/
  activeCodec : Option UInt32 := none
  /-- What `send_video` has still to send of the submission it took. -/
  outgoing : List AVPacket := []
  /-- Packets under way, oldest first. -/
  wire : List AVPacket := []
  /-- `codec` of `receive_video`. -/
  codec : UInt32 := 0
  /-- Frames that `receive_video` pushed, oldest first. -/
  received : List VideoFrame := []
  /-- `video_receive`. -/
  receiveQueue : VideoQueue VideoFrame := {}
  /-- A panic on either side. -/
  panicked : Option Fault := none
  /-- The error that `receive_video` returned. -/
  failed : Option String := none

/-- The steps of both endpoints. -/
inductive VideoAction where
  /-- `plank_transport_native_video_send` is called. -/
  | send (offer : VideoOffer)
  /-- `send_video` takes the oldest submission. -/
  | take
  /-- `send_video` sends a packet. -/
  | transmit
  /-- `receive_video` handles the next packet. -/
  | deliver
  /-- `plank_transport_native_video_receive` is called. -/
  | claim (demand : Demand)

namespace VideoRoute

/-- One step of either endpoint. -/
def step (route : VideoRoute) : VideoAction → Option VideoRoute
  | .send offer =>
    match videoSubmission offer with
    | .error _ => some route
    | .ok submission =>
      let sent := (offer, submission)
      match route.sendQueue.pushBack sent submission.record.length videoSendCapacity with
      | .error fault => some { route with panicked := some fault }
      | .ok (_, queue) =>
        some { route with sendQueue := queue, accepted := route.accepted ++ [sent] }
  | .take =>
    match route.outgoing with
    | _ :: _ => none
    | [] =>
      match route.sendQueue.popFront with
      | .error fault => some { route with panicked := some fault }
      | .ok (none, _) => none
      | .ok (some sent, queue) =>
        let (activeCodec, outgoing) := videoStream.send route.activeCodec sent
        some { route with
          sendQueue := queue
          taken := route.taken ++ [sent]
          activeCodec
          outgoing }
  | .transmit =>
    match route.outgoing with
    | [] => none
    | packet :: outgoing => some { route with outgoing, wire := route.wire ++ [packet] }
  | .deliver =>
    match route.failed, route.wire with
    | none, packet :: wire =>
      match videoStream.receive route.codec packet with
      | .error error => some { route with wire, failed := some error }
      | .ok (codec, none) => some { route with wire, codec }
      | .ok (codec, some frame) =>
        match pushVideoReceive route.receiveQueue frame with
        | .error fault => some { route with wire, panicked := some fault }
        | .ok (_, queue) =>
          some { route with
            wire
            codec
            received := route.received ++ [frame]
            receiveQueue := queue }
    | _, _ => none
  | .claim demand =>
    match videoClaim VideoFrame.payload demand route.receiveQueue with
    | .error fault => some { route with panicked := some fault }
    | .ok (_, queue) => some { route with receiveQueue := queue }

/-- Every interleaving of calls and tasks of two endpoints that did nothing yet. -/
def system : Transition.System VideoRoute VideoAction where
  initial route := route = {}
  step := step

end VideoRoute

end Plank.Native
