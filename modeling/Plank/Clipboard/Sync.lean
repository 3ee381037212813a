import Plank.Clipboard.Receiver
import Plank.Transition.System

/-!
# Clipboard synchronisation

The two directions of one session's clipboard: `receive` takes the frames of the peer, and `tick`
sends the chunks of the local text and polls the pasteboard, through a block on the main queue and
one back on the session's queue. A link joins it with a receiver at the far end of its lane, which
loses and reorders nothing.
-/

namespace Plank.Clipboard

/-- What the lane answers to a frame. -/
inductive SendResult where
  /-- The frame is on the lane. -/
  | ok
  /-- The lane is full. -/
  | timeout
  /-- The lane has failed. -/
  | failed
  deriving DecidableEq

/-- Nanoseconds between polls of the pasteboard. -/
def pollInterval : Nat := 250000000

/-- A block that was queued, with the text it carries and the revision it was made at. -/
structure Block where
  /-- The text. -/
  text : Option (List UInt8)
  /-- The revision. -/
  revision : Nat

/-- The clipboard of one session, with the history of its sender. -/
structure Sync where
  /-- It has stopped. -/
  stopped : Bool := false
  /-- A poll of the pasteboard is under way. -/
  mainPending : Bool := false
  /-- When the pasteboard is polled next. -/
  nextPoll : Nat := 0
  /-- The assembly of the peer's texts. -/
  receiver : Receiver := {}
  /-- The generation of the outgoing text. -/
  outGeneration : Nat := 0
  /-- Counts the texts adopted. -/
  revision : Nat := 0
  /-- How much of the outgoing text was sent. -/
  outOffset : Nat := 0
  /-- The peer's text that the pasteboard does not have yet. -/
  pendingRemote : Option (List UInt8) := none
  /-- The outgoing text. -/
  outgoing : Option (List UInt8) := none
  /-- The block on the main queue, with the peer's text for the pasteboard. -/
  main : Option Block := none
  /-- The block on the session's queue, with the text read from the pasteboard. -/
  back : Option Block := none
  /-- The time of the last tick. -/
  clock : Nat := 0
  /-- The chunks of the frames received. -/
  received : List Chunk := []
  /-- The frames put on the lane. -/
  sent : List (List UInt8) := []
  /-- The outgoing texts so far, in order of their generations. -/
  copied : List (List UInt8) := []
  /-- The generations sent as a whole. -/
  completed : List Nat := []
  /-- The generations given up before they were sent as a whole. -/
  dropped : List Nat := []

namespace Sync

/-- The generation given up with the outgoing text. -/
def giveUp (sync : Sync) : List Nat :=
  match sync.outgoing with
  | some _ => [sync.outGeneration]
  | none => []

/-- Stop, and forget the texts in transfer. -/
def stop (sync : Sync) : Sync :=
  if sync.stopped then sync
  else
    { sync with
      stopped := true
      receiver := { sync.receiver with assembly := none }
      pendingRemote := none
      outgoing := none
      dropped := sync.dropped ++ sync.giveUp }

/-- The frame of the next chunk of an outgoing text. -/
def frame (sync : Sync) (text : List UInt8) : List UInt8 :=
  let count := min eventBytes (text.length - sync.outOffset)
  header sync.outGeneration text.length sync.outOffset count ++
    (text.drop sync.outOffset).take count

/-- The clipboard after the next chunk of an outgoing text went on the lane. -/
def sentChunk (sync : Sync) (text : List UInt8) : Sync :=
  let sent := sync.sent ++ [sync.frame text]
  let offset := sync.outOffset + min eventBytes (text.length - sync.outOffset)
  if offset = text.length then
    { sync with
      sent := sent
      outgoing := none
      outOffset := 0
      completed := sync.completed ++ [sync.outGeneration] }
  else { sync with sent := sent, outOffset := offset }

/-- Send at most the given count of chunks; the result tells whether the lane is sound. -/
def sendChunks : Nat → List SendResult → Sync → Bool × Sync
  | 0, _, sync => (true, sync)
  | count + 1, results, sync =>
    match sync.outgoing with
    | none => (true, sync)
    | some text =>
      match results.headD .ok with
      | .timeout => (true, sync)
      | .failed => (false, sync)
      | .ok => sendChunks count results.tail (sync.sentChunk text)

/-- Queue a poll of the pasteboard, if it is time for one or the peer has sent a text. -/
def poll (sync : Sync) (now : Nat) : Sync :=
  if sync.mainPending ∨ sync.pendingRemote = none ∧ now < sync.nextPoll then sync
  else
    { sync with
      nextPoll := now + pollInterval
      mainPending := true
      main := some ⟨sync.pendingRemote, sync.revision⟩
      pendingRemote := none }

/-- Send what the lane takes, and poll the pasteboard. -/
def tick (sync : Sync) (allowed : Bool) (results : List SendResult) (now : Nat) : Sync :=
  if sync.stopped ∨ !allowed then sync.stop
  else
    match sync.sendChunks 2 results with
    | (false, after) => after.stop
    | (true, after) => after.poll now

/-- Take a frame of the peer; a text it completes gives up the outgoing one. -/
def receive (sync : Sync) (frame : List UInt8) (allowed tickAllowed : Bool) (now : Nat) : Sync :=
  if sync.stopped ∨ !allowed then sync
  else
    let received := sync.received ++ (decode inputBytes frame).toList
    match sync.receiver.receive inputBytes frame with
    | (.adopted text, receiver) =>
      let sync :=
        { sync with
          receiver := receiver
          received := received
          pendingRemote := some text
          revision := sync.revision + 1
          outgoing := none
          outOffset := 0
          dropped := sync.dropped ++ sync.giveUp }
      sync.tick tickAllowed [] now
    | (_, receiver) => { sync with receiver := receiver, received := received }

/-- The block on the main queue: it writes the peer's text to the pasteboard, or reads a text from
it that may be offered. -/
def mainRun (sync : Sync) (allowed : Bool) (board : Option (List UInt8)) : Option Sync :=
  sync.main.map fun block =>
    let text := if sync.stopped ∨ !allowed ∨ block.text ≠ none then none else board.filter validText
    { sync with main := none, back := some ⟨text, block.revision⟩ }

/-- The block back on the session's queue: the text read is the outgoing one, unless a text was
adopted in between. -/
def backRun (sync : Sync) (allowed : Bool) : Option Sync :=
  sync.back.map fun block =>
    let sync := { sync with back := none, mainPending := false }
    if sync.stopped ∨ !allowed then sync
    else
      match block.text with
      | none => sync
      | some text =>
        if block.revision = sync.revision then
          { sync with
            outgoing := some text
            outOffset := 0
            outGeneration := sync.outGeneration + 1
            copied := sync.copied ++ [text]
            dropped := sync.dropped ++ sync.giveUp }
        else sync

end Sync

/-- A clipboard with the receiver at the far end of its lane. -/
structure Link where
  /-- The clipboard. -/
  sync : Sync := {}
  /-- The receiver. -/
  peer : Receiver := {}
  /-- How many frames have arrived. -/
  delivered : Nat := 0

/-- What happens next. -/
inductive LinkAction where
  /-- The session ticks. -/
  | tick (allowed : Bool) (results : List SendResult) (now : UInt64)
  /-- A frame of the peer arrives. -/
  | receive (frame : List UInt8) (allowed tickAllowed : Bool) (now : UInt64)
  /-- The block on the main queue runs. -/
  | mainRun (allowed : Bool) (board : Option (List UInt8))
  /-- The block on the session's queue runs. -/
  | backRun (allowed : Bool)
  /-- The session stops. -/
  | stop
  /-- The next frame on the lane arrives at its far end. -/
  | deliver

namespace Link

/-- A clipboard and its far end, in any order of ticks, blocks and arrivals. The clock never goes
back. -/
def system : Transition.System Link LinkAction where
  initial link := link = {}
  step link
    | .tick allowed results now =>
      if now.toNat < link.sync.clock then none
      else
        let sync := { link.sync with clock := now.toNat }
        some { link with sync := sync.tick allowed results now.toNat }
    | .receive frame allowed tickAllowed now =>
      if now.toNat < link.sync.clock then none
      else
        let sync := { link.sync with clock := now.toNat }
        some { link with sync := sync.receive frame allowed tickAllowed now.toNat }
    | .mainRun allowed board => (link.sync.mainRun allowed board).map fun sync => { link with sync }
    | .backRun allowed => (link.sync.backRun allowed).map fun sync => { link with sync }
    | .stop => some { link with sync := link.sync.stop }
    | .deliver =>
      link.sync.sent[link.delivered]?.map fun frame =>
        { link with
          peer := (link.peer.receive eventBytes frame).2
          delivered := link.delivered + 1 }

end Link

end Plank.Clipboard
