import Plank.Transport.Bytes

/-!
# Envelopes of the native transport

`plank_transport_setup.h`, `plank_transport_control.h` and `plank_transport_event.h`: three headers
with a magic and a length, written and read in storage that the caller gives. Lengths are of 64 bits
(`size_t`) where the caller gives them, and of 32 or 16 bits in the headers.
-/

namespace Plank.Transport

open Wire

/-- A pointer to bytes that may be read, with their number; a null pointer may come with any. -/
structure Span where
  /-- How many bytes there are. -/
  size : UInt64
  /-- The bytes, unless the pointer is null. -/
  bytes : Option (List UInt8)
  /-- All of them may be read. -/
  readable : ∀ held ∈ bytes, held.length = size.toNat

/-- A pointer to storage for bytes and a pointer to a length, as the caller gives them. -/
structure Storage where
  /-- The memory that the first pointer points to, unless it is null. -/
  bytes : Option (List UInt8)
  /-- What the second pointer points to, unless it is null. -/
  length : Option UInt64
  /-- How many bytes may be written. -/
  capacity : UInt64
  /-- So many may be. -/
  writable : ∀ held ∈ bytes, capacity.toNat ≤ held.length

/-- What an encoder returns, and what is then in the storage. -/
structure Written where
  /-- Whether it returns 0. -/
  done : Bool
  /-- The memory. -/
  bytes : Option (List UInt8)
  /-- The length. -/
  length : Option UInt64
  deriving DecidableEq, Repr

namespace Storage

/-- Nothing is written. -/
def refuse (storage : Storage) : Written := ⟨false, storage.bytes, storage.length⟩

/-- A packet is written at the front of the memory, and its length. -/
def fill (storage : Storage) (packet : List UInt8) (length : UInt64) : Written :=
  ⟨true, storage.bytes.map fun held => packet ++ held.drop packet.length,
    storage.length.map fun _ => length⟩

end Storage

/-- The bytes of a span that `memcpy` copies. -/
def Span.copied (span : Span) : List UInt8 := span.bytes.getD []

namespace Setup

/-- `PLANK_TRANSPORT_SETUP_HEADER_SIZE`. -/
def headerSize : UInt64 := 20
/-- `PLANK_TRANSPORT_SETUP_MAX_PACKET_SIZE`. -/
def maxPacketSize : UInt64 := 65536
/-- `PLANK_TRANSPORT_SETUP_MAX_PAYLOAD_SIZE`. -/
def maxPayloadSize : UInt64 := maxPacketSize - headerSize
/-- `PLANK_TRANSPORT_SETUP_MAGIC`. -/
def magic : UInt32 := 0x504c5331
/-- `PLANK_TRANSPORT_SETUP_VERSION`. -/
def version : UInt16 := 1
/-- `PLANK_TRANSPORT_SETUP_FLAG_RESPONSE` and `PLANK_TRANSPORT_SETUP_FLAG_SENSITIVE`. -/
def knownFlags : UInt16 := 3

/-- `PlankTransportSetupPacket`, with the bytes of its payload. -/
structure Packet where
  /-- `type`. -/
  type : UInt16
  /-- `flags`. -/
  flags : UInt16
  /-- `status`. -/
  status : UInt16
  /-- `request_id`. -/
  requestId : UInt32
  /-- `payload`. -/
  payload : List UInt8
  deriving DecidableEq, Repr

/-- `plank_transport_setup_encode`. -/
def encode (type flags status : UInt16) (requestId : UInt32) (payload : Span) (output : Storage) :
    Written :=
  let packetSize := headerSize + payload.size
  if type = 0 || requestId = 0 || output.bytes.isNone || output.length.isNone ||
      flags &&& ~~~knownFlags ≠ 0 || (payload.size ≠ 0 && payload.bytes.isNone) ||
      maxPayloadSize < payload.size || output.capacity < packetSize then output.refuse
  else
    output.fill (List.flatten [writeU32 magic, writeU16 version, writeU16 type, writeU16 flags,
      writeU16 status, writeU32 requestId, writeU32 payload.size.toUInt32, payload.copied])
      packetSize

/-- `plank_transport_setup_decode`; whether there is a place for the result. -/
def decode (packet : Span) (place : Bool) : Option Packet :=
  match packet.bytes with
  | none => none
  | some bytes =>
    let flags := readU16 bytes 8
    let payloadSize := readU32 bytes 16
    if !place || packet.size < headerSize || maxPacketSize < packet.size ||
        readU32 bytes 0 ≠ magic || readU16 bytes 4 ≠ version || readU16 bytes 6 = 0 ||
        readU32 bytes 12 = 0 then none
    else if flags &&& ~~~knownFlags ≠ 0 then none
    else if maxPayloadSize < payloadSize.toUInt64 ||
        packet.size ≠ (20 + payloadSize).toUInt64 then none
    else some ⟨readU16 bytes 6, flags, readU16 bytes 10, readU32 bytes 12, bytes.drop 20⟩

end Setup

/-- `PlankTransportControlPacket` and `PlankTransportEventPacket`, with the bytes of the payload. -/
structure ShortPacket where
  /-- `type`. -/
  type : UInt16
  /-- `payload`. -/
  payload : List UInt8
  deriving DecidableEq, Repr

/-- The decoder of the two headers of eight bytes, with their magic; whether there is a place for
the result. -/
def decodeShort (magic : UInt32) (packet : Span) (place : Bool) : Option ShortPacket :=
  match packet.bytes with
  | none => none
  | some bytes =>
    let payloadSize := readU16 bytes 6
    if !place || packet.size < 8 || readU32 bytes 0 ≠ magic then none
    else if packet.size ≠ (8 + payloadSize.toUInt32).toUInt64 then none
    else some ⟨readU16 bytes 4, bytes.drop 8⟩

namespace Control

/-- `PLANK_TRANSPORT_CONTROL_HEADER_SIZE`. -/
def headerSize : UInt64 := 8
/-- `PLANK_TRANSPORT_CONTROL_MAX_PACKET_SIZE`. -/
def maxPacketSize : UInt64 := 20
/-- `PLANK_TRANSPORT_CONTROL_MAGIC`. -/
def magic : UInt32 := 0x504c4431

/-- A pointer to words that may be read, with their number; a null pointer may come with any. -/
structure Words where
  /-- `value_count`. -/
  count : UInt64
  /-- `values`, unless the pointer is null. -/
  values : Option (List UInt32)
  /-- All of them may be read. -/
  readable : ∀ held ∈ values, held.length = count.toNat

/-- `plank_transport_control_encode`. -/
def encode (type : UInt16) (words : Words) (output : Storage) : Written :=
  if output.bytes.isNone || output.length.isNone || 3 < words.count ||
      (words.count ≠ 0 && words.values.isNone) then output.refuse
  else
    let payloadSize := words.count * 4
    let packetSize := headerSize + payloadSize
    if output.capacity < packetSize then output.refuse
    else
      output.fill (List.flatten [writeU32 magic, writeU16 type, writeU16 payloadSize.toUInt16,
        (words.values.getD []).flatMap writeU32]) packetSize

/-- `plank_transport_control_decode`. -/
def decode (packet : Span) (place : Bool) : Option ShortPacket := decodeShort magic packet place

end Control

namespace Event

/-- `PLANK_TRANSPORT_EVENT_HEADER_SIZE`. -/
def headerSize : UInt64 := 8
/-- `PLANK_TRANSPORT_EVENT_MAX_PACKET_SIZE`. -/
def maxPacketSize : UInt64 := 65535
/-- `PLANK_TRANSPORT_EVENT_MAGIC`. -/
def magic : UInt32 := 0x504c4531

/-- `plank_transport_event_encode`. -/
def encode (type : UInt16) (payload : Span) (output : Storage) : Written :=
  let packetSize := headerSize + payload.size
  if output.bytes.isNone || output.length.isNone ||
      (payload.size ≠ 0 && payload.bytes.isNone) || 65535 < payload.size ||
      output.capacity < packetSize then output.refuse
  else
    output.fill (List.flatten [writeU32 magic, writeU16 type, writeU16 payload.size.toUInt16,
      payload.copied]) packetSize

/-- `plank_transport_event_decode`. -/
def decode (packet : Span) (place : Bool) : Option ShortPacket := decodeShort magic packet place

end Event

end Plank.Transport
