import Mathlib.Algebra.BigOperators.Group.List.Basic
import Plank.Native.Lifecycle
import Plank.Queue.Reliable
import Plank.Transport.Result

/-!
# Reliable data and input

`native_ffi.rs` carries reliable data both ways and input from the client, each between two
bounded queues. A data queue charges its records against a byte limit; an input queue only counts
them. A sender is refused while the queue is full, a receiving worker waits, and a receive call
takes a record only once its storage is accepted. The copy of an input record out of its claim
touches nothing shared, so a receive call is one step here.
-/

namespace Plank.Native

open Transport (Status Output Reply Fault subtract copyBytesOut claimReceiveFront bind_ok)

/-- `DATA_QUEUE_PACKET_CAPACITY`. -/
def dataQueuePacketCapacity : Nat := 64
/-- `DATA_QUEUE_BYTE_CAPACITY`. -/
def dataQueueByteCapacity : Nat := 8 * 1024 * 1024
/-- `INPUT_SEND_CAPACITY`. -/
def inputSendCapacity : Nat := 128
/-- `INPUT_RECEIVE_CAPACITY`. -/
def inputReceiveCapacity : Nat := 128
/-- `MAX_INPUT_PACKET_SIZE`. -/
def maxInputPacketSize : Nat := 65535

/-- `NativeDataQueue`. -/
structure DataQueue where
  /-- The records, oldest first. -/
  packets : List (List UInt8) := []
  /-- Their charge. -/
  bytes : Nat := 0
  deriving DecidableEq, Repr

namespace DataQueue

/-- `NativeDataQueue::can_push`, with the largest record of the transport. -/
def canPush (maxDataPacketSize : Nat) (queue : DataQueue) (size : Nat) : Except Fault Bool :=
  if 1 ≤ size && size ≤ maxDataPacketSize && queue.packets.length < dataQueuePacketCapacity then do
    let free ← subtract dataQueueByteCapacity queue.bytes
    return size ≤ free
  else .ok false

/-- `NativeDataQueue::push_back`. -/
def pushBack (maxDataPacketSize : Nat) (queue : DataQueue) (payload : List UInt8) :
    Except Fault (Bool × DataQueue) := do
  let admitted ← queue.canPush maxDataPacketSize payload.length
  if admitted then
    return (true, { packets := queue.packets ++ [payload], bytes := queue.bytes + payload.length })
  else return (false, queue)

/-- `NativeDataQueue::pop_front`. -/
def popFront (queue : DataQueue) : Except Fault (Option (List UInt8) × DataQueue) :=
  match queue.packets with
  | [] => .ok (none, queue)
  | payload :: packets => do
    let bytes ← subtract queue.bytes payload.length
    return (some payload, { packets, bytes })

/-- What a data queue keeps to: the charge is that of its records, within both limits, and every
record is one the transport carries. -/
structure Charged (maxDataPacketSize : Nat) (queue : DataQueue) : Prop where
  /-- The charge is that of the records. -/
  bytes : queue.bytes = (queue.packets.map List.length).sum
  /-- It is within its limit. -/
  within : queue.bytes ≤ dataQueueByteCapacity
  /-- The number of records is within its limit. -/
  count : queue.packets.length ≤ dataQueuePacketCapacity
  /-- Every record is one the transport carries. -/
  sized : ∀ payload ∈ queue.packets, 1 ≤ payload.length ∧ payload.length ≤ maxDataPacketSize

/-- The charge of an empty queue. -/
theorem empty_charged (maxDataPacketSize : Nat) : Charged maxDataPacketSize {} :=
  ⟨rfl, Nat.zero_le _, Nat.zero_le _, by simp⟩

variable {maxDataPacketSize : Nat} {queue : DataQueue}

/-- A charged queue admits exactly the records that keep it charged. -/
theorem canPush_of_charged (charged : queue.Charged maxDataPacketSize) (size : Nat) :
    queue.canPush maxDataPacketSize size = .ok (decide (1 ≤ size ∧ size ≤ maxDataPacketSize ∧
      queue.packets.length < dataQueuePacketCapacity ∧
      queue.bytes + size ≤ dataQueueByteCapacity)) := by
  have within := charged.within
  unfold canPush
  split
  · rename_i sized
    simp only [Bool.and_eq_true, decide_eq_true_eq] at sized
    obtain ⟨⟨positive, small⟩, room⟩ := sized
    rw [Transport.subtract_of_le within]
    show Except.ok (decide (size ≤ dataQueueByteCapacity - queue.bytes)) = _
    congr 1
    rw [decide_eq_decide]
    constructor
    · intro fits
      exact ⟨positive, small, room, by omega⟩
    · rintro ⟨-, -, -, fits⟩
      omega
  · rename_i refused
    simp only [Bool.and_eq_true, decide_eq_true_eq] at refused
    congr 1
    symm
    rw [decide_eq_false_iff_not]
    rintro ⟨positive, small, room, -⟩
    exact refused ⟨⟨positive, small⟩, room⟩

/-- What a charged queue stores stays charged. -/
theorem pushBack_of_charged (charged : queue.Charged maxDataPacketSize) (payload : List UInt8) :
    (queue.canPush maxDataPacketSize payload.length = .ok true ∧
      queue.pushBack maxDataPacketSize payload =
        .ok (true, ⟨queue.packets ++ [payload], queue.bytes + payload.length⟩) ∧
      Charged maxDataPacketSize ⟨queue.packets ++ [payload], queue.bytes + payload.length⟩) ∨
    (queue.canPush maxDataPacketSize payload.length = .ok false ∧
      queue.pushBack maxDataPacketSize payload = .ok (false, queue)) := by
  have admitted := canPush_of_charged charged payload.length
  by_cases fits : 1 ≤ payload.length ∧ payload.length ≤ maxDataPacketSize ∧
      queue.packets.length < dataQueuePacketCapacity ∧
      queue.bytes + payload.length ≤ dataQueueByteCapacity
  · rw [decide_eq_true fits] at admitted
    obtain ⟨positive, small, room, total⟩ := fits
    refine .inl ⟨admitted, by simp only [pushBack, admitted]; rfl, ?_⟩
    constructor
    · show queue.bytes + payload.length = _
      rw [charged.bytes, List.map_append, List.sum_append]
      rfl
    · exact total
    · show (queue.packets ++ [payload]).length ≤ _
      rw [List.length_append, List.length_singleton]
      omega
    · intro other member
      rcases List.mem_append.mp member with old | new
      · exact charged.sized other old
      · rw [List.mem_singleton.mp new]
        exact ⟨positive, small⟩
  · rw [decide_eq_false fits] at admitted
    exact .inr ⟨admitted, by simp only [pushBack, admitted]; rfl⟩

/-- Removing the oldest record of a charged queue never underflows and stays charged. -/
theorem popFront_of_charged (charged : queue.Charged maxDataPacketSize) :
    (queue.packets = [] ∧ queue.popFront = .ok (none, queue)) ∨
    ∃ payload packets bytes, queue.packets = payload :: packets ∧
      queue.popFront = .ok (some payload, ⟨packets, bytes⟩) ∧
      Charged maxDataPacketSize ⟨packets, bytes⟩ := by
  cases held : queue.packets with
  | nil => exact .inl ⟨rfl, by simp [popFront, held]⟩
  | cons payload packets =>
    have bytes : queue.bytes = payload.length + (packets.map List.length).sum := by
      simpa [held] using charged.bytes
    have within := charged.within
    have count := charged.count
    rw [held, List.length_cons] at count
    refine .inr ⟨payload, packets, queue.bytes - payload.length, rfl, ?_, ?_⟩
    · simp only [popFront, held]
      rw [Transport.subtract_of_le (by omega)]
      rfl
    · constructor
      · show queue.bytes - payload.length = (packets.map List.length).sum
        omega
      · show queue.bytes - payload.length ≤ _
        omega
      · show packets.length ≤ _
        omega
      · intro other member
        exact charged.sized other (by simp [held, member])

end DataQueue

/-- Arguments of `plank_transport_native_data_send`, with the state it read. -/
structure DataOffer where
  /-- The payload; nothing for a null pointer. -/
  payload : Option (List UInt8)
  /-- The state of the endpoint. -/
  state : EndpointState
  deriving DecidableEq, Repr

/-- Arguments of a receive call, with the state it finds when there is nothing to receive. -/
structure Demand where
  /-- The caller's storage. -/
  output : Output
  /-- Whether every other pointer is given. -/
  pointers : Bool := true
  /-- Whether the endpoint failed. -/
  failed : Bool := false
  deriving DecidableEq, Repr

/-- The result of a receive call that found nothing. -/
def Demand.missed (demand : Demand) : Status := if demand.failed then .runtime else .timeout

/-- A receive call that found nothing did not succeed. -/
theorem Demand.missed_ne_ok (demand : Demand) : demand.missed ≠ .ok := by
  unfold Demand.missed
  split <;> decide

section Data

variable (maxDataPacketSize : Nat)

/-- `plank_transport_native_data_send`. -/
def dataSend (offer : DataOffer) (queue : DataQueue) : Except Fault (Status × DataQueue) :=
  match offer.payload with
  | none => .ok (.invalidArgument, queue)
  | some payload =>
    if !(1 ≤ payload.length && payload.length ≤ maxDataPacketSize) then
      .ok (.invalidArgument, queue)
    else if offer.state ≠ .setupReady && offer.state ≠ .ready then .ok (.invalidState, queue)
    else do
      let admitted ← queue.canPush maxDataPacketSize payload.length
      if !admitted then return (.timeout, queue)
      else do
        let (inserted, queue) ← queue.pushBack maxDataPacketSize payload
        if inserted then return (.ok, queue) else .error .assertion

/-- One look of `push_data_receive` at the queue: the record it stored, if there was room. -/
def pushDataReceive (payload : List UInt8) (queue : DataQueue) :
    Except Fault (Option (List UInt8) × DataQueue) := do
  let admitted ← queue.canPush maxDataPacketSize payload.length
  if admitted then do
    let (inserted, queue) ← queue.pushBack maxDataPacketSize payload
    if inserted then return (some payload, queue) else .error .assertion
  else return (none, queue)

/-- `plank_transport_native_data_receive`. -/
def dataReceive (demand : Demand) (queue : DataQueue) :
    Except Fault (Reply (List UInt8) × DataQueue) :=
  if !demand.output.sizeOut then .ok ({ status := .invalidArgument }, queue)
  else
    match queue.packets with
    | [] => .ok ({ status := demand.missed }, queue)
    | packet :: _ =>
      let (status, sizeOut, record) := copyBytesOut packet demand.output
      if status = .ok then do
        let (_, queue) ← queue.popFront
        return ({ status, sizeOut, record }, queue)
      else .ok ({ status, sizeOut }, queue)

/-- The queues of a data lane. -/
def dataDiscipline : Queue.Discipline Fault DataQueue (List UInt8) DataOffer Demand where
  empty := {}
  records := DataQueue.packets
  send offer queue :=
    (dataSend maxDataPacketSize offer queue).map fun (status, after) =>
      (if status = .ok then offer.payload else none, after)
  take := DataQueue.popFront
  allowed payload := 1 ≤ payload.length && payload.length ≤ maxDataPacketSize
  push := pushDataReceive maxDataPacketSize
  receive demand queue :=
    (dataReceive demand queue).map fun (reply, after) => (reply.record, after)

end Data

/-- `NativeInputPacket`. -/
structure InputPacket where
  /-- Kind of the input. -/
  type : UInt8
  /-- Its bytes. -/
  payload : List UInt8
  deriving DecidableEq, Repr

/-- Arguments of `plank_transport_native_input_send`, with the state it read. -/
structure InputOffer where
  /-- Mode of the endpoint. -/
  mode : Nat
  /-- Kind of the input. -/
  type : UInt8
  /-- The payload; nothing for a null pointer. -/
  payload : Option (List UInt8)
  /-- The state of the endpoint. -/
  state : EndpointState
  deriving DecidableEq, Repr

/-- The record an offer is about. -/
def InputOffer.packet (offer : InputOffer) : Option InputPacket :=
  offer.payload.map fun payload => ⟨offer.type, payload⟩

/-- `plank_transport_native_input_send`. -/
def inputSend (offer : InputOffer) (queue : List InputPacket) : Status × List InputPacket :=
  match offer.packet with
  | none => (.invalidArgument, queue)
  | some packet =>
    if offer.mode ≠ 2 || maxInputPacketSize < packet.payload.length then (.invalidArgument, queue)
    else if offer.state ≠ .ready then (.invalidState, queue)
    else if queue.length = inputSendCapacity then (.timeout, queue)
    else (.ok, queue ++ [packet])

/-- One look of `push_input_receive` at the queue. -/
def pushInputReceive (packet : InputPacket) (queue : List InputPacket) :
    Option InputPacket × List InputPacket :=
  if queue.length < inputReceiveCapacity then (some packet, queue ++ [packet]) else (none, queue)

/-- `plank_transport_native_input_receive`: the claim under the lock, then the copy. -/
def inputReceive (mode : Nat) (demand : Demand) (queue : List InputPacket) :
    Reply InputPacket × List InputPacket :=
  if mode ≠ 1 || !demand.pointers || !demand.output.sizeOut then
    ({ status := .invalidArgument }, queue)
  else
    match claimReceiveFront queue (fun packet => packet.payload.length) demand.output with
    | none => ({ status := demand.missed }, queue)
    | some (status, sizeOut, none, queue) => ({ status, sizeOut }, queue)
    | some (_, _, some packet, queue) =>
      let (status, sizeOut, copied) := copyBytesOut packet.payload demand.output
      ({ status, sizeOut, record := copied.map fun payload => ⟨packet.type, payload⟩ }, queue)

/-- The queues of the input lane, from a client to a server. -/
def inputDiscipline : Queue.Discipline Fault (List InputPacket) InputPacket InputOffer Demand where
  empty := []
  records := id
  send offer queue :=
    let (status, after) := inputSend offer queue
    .ok (if status = .ok then offer.packet else none, after)
  take queue := .ok (queue.head?, queue.tail)
  allowed _ := true
  push packet queue := .ok (pushInputReceive packet queue)
  receive demand queue :=
    let (reply, after) := inputReceive 1 demand queue
    .ok (reply.record, after)

section Charged

variable {maxDataPacketSize : Nat} {queue : DataQueue}

/-- A send call stores its payload, or refuses it and leaves the queue as it was. -/
theorem dataSend_of_charged (charged : queue.Charged maxDataPacketSize) (offer : DataOffer) :
    (∃ status, status ≠ .ok ∧ dataSend maxDataPacketSize offer queue = .ok (status, queue)) ∨
    ∃ payload after, offer.payload = some payload ∧
      dataSend maxDataPacketSize offer queue = .ok (.ok, after) ∧
      after.packets = queue.packets ++ [payload] ∧ after.Charged maxDataPacketSize := by
  unfold dataSend
  cases offer.payload with
  | none => exact .inl ⟨.invalidArgument, by decide, rfl⟩
  | some payload =>
    dsimp only
    split
    · exact .inl ⟨.invalidArgument, by decide, rfl⟩
    · split
      · exact .inl ⟨.invalidState, by decide, rfl⟩
      · rcases DataQueue.pushBack_of_charged charged payload with
          ⟨admitted, pushed, kept⟩ | ⟨refused, _⟩
        · exact .inr ⟨payload, _, rfl, by rw [admitted]; simp only [pushed]; rfl, rfl, kept⟩
        · exact .inl ⟨.timeout, by decide, by rw [refused]; rfl⟩

/-- The receiving worker stores the record it holds, or finds no room. -/
theorem pushDataReceive_of_charged (charged : queue.Charged maxDataPacketSize)
    (payload : List UInt8) :
    pushDataReceive maxDataPacketSize payload queue = .ok (none, queue) ∨
    ∃ after, pushDataReceive maxDataPacketSize payload queue = .ok (some payload, after) ∧
      after.packets = queue.packets ++ [payload] ∧ after.Charged maxDataPacketSize := by
  unfold pushDataReceive
  rcases DataQueue.pushBack_of_charged charged payload with
    ⟨admitted, pushed, kept⟩ | ⟨refused, _⟩
  · exact .inr ⟨_, by rw [admitted]; simp only [pushed]; rfl, rfl, kept⟩
  · exact .inl (by rw [refused]; rfl)

/-- A receive call hands out the oldest record to storage that takes it, or leaves the queue as it
was. -/
theorem dataReceive_of_charged (charged : queue.Charged maxDataPacketSize) (demand : Demand) :
    (∃ reply, reply.status ≠ .ok ∧ reply.record = none ∧
      dataReceive demand queue = .ok (reply, queue)) ∨
    ∃ packet after, queue.packets = packet :: after.packets ∧
      (Transport.validateBytesOut packet.length demand.output).1 = .ok ∧
      dataReceive demand queue =
        .ok (⟨.ok, (Transport.validateBytesOut packet.length demand.output).2, some packet⟩,
          after) ∧
      after.Charged maxDataPacketSize := by
  unfold dataReceive
  split
  · exact .inl ⟨_, by decide, rfl, rfl⟩
  · rcases DataQueue.popFront_of_charged charged with
      ⟨empty, _⟩ | ⟨packet, packets, bytes, held, popped, kept⟩
    · exact .inl ⟨{ status := demand.missed }, demand.missed_ne_ok, rfl, by rw [empty]⟩
    · by_cases validated : (Transport.validateBytesOut packet.length demand.output).1 = .ok
      · refine .inr ⟨packet, ⟨packets, bytes⟩, held, validated, ?_, kept⟩
        rw [held]
        simp only [Transport.copyBytesOut_of_validated validated, popped]
        rfl
      · refine .inl ⟨⟨(Transport.validateBytesOut packet.length demand.output).1,
          (Transport.validateBytesOut packet.length demand.output).2, none⟩, validated, rfl, ?_⟩
        rw [held]
        simp [copyBytesOut, validated]

/-- The queues of a data lane keep to the rules of a reliable lane. -/
theorem dataDiscipline_lawful (maxDataPacketSize : Nat) :
    (dataDiscipline maxDataPacketSize).Lawful (DataQueue.Charged maxDataPacketSize) where
  empty := DataQueue.empty_charged maxDataPacketSize
  nothing := rfl
  send offer queue charged := by
    rcases dataSend_of_charged charged offer with
      ⟨status, refused, called⟩ | ⟨payload, after, offered, called, stored, kept⟩
    · exact ⟨none, queue, by simp [dataDiscipline, called, refused, Except.map], charged,
        by simp⟩
    · exact ⟨some payload, after, by simp [dataDiscipline, called, offered, Except.map], kept,
        stored⟩
  take queue charged := by
    rcases DataQueue.popFront_of_charged charged with
      ⟨empty, popped⟩ | ⟨payload, packets, bytes, held, popped, kept⟩
    · exact ⟨none, queue, popped, charged, rfl⟩
    · exact ⟨some payload, ⟨packets, bytes⟩, popped, kept, held⟩
  push payload queue charged _ := by
    rcases pushDataReceive_of_charged charged payload with full | ⟨after, stored, held, kept⟩
    · exact ⟨none, queue, full, charged, by simp⟩
    · exact ⟨some payload, after, stored, kept, held⟩
  pushed payload queue other next stored := by
    obtain ⟨admitted, _, stored⟩ := bind_ok stored
    cases admitted with
    | false => cases stored
    | true =>
      obtain ⟨⟨inserted, queue⟩, _, stored⟩ := bind_ok stored
      cases inserted with
      | false => cases stored
      | true => exact (Option.some.inj (congrArg Prod.fst (Except.ok.inj stored))).symm
  receive demand queue charged := by
    rcases dataReceive_of_charged charged demand with
      ⟨reply, _, nothing, called⟩ | ⟨packet, after, held, _, called, kept⟩
    · exact ⟨none, queue, by simp [dataDiscipline, called, nothing, Except.map], charged, rfl⟩
    · exact ⟨some packet, after, by simp [dataDiscipline, called, Except.map], kept, held⟩

end Charged

section Counted

variable {queue : List InputPacket}

/-- A send call stores its packet, or refuses it and leaves the queue as it was. -/
theorem inputSend_effect (offer : InputOffer) (queue : List InputPacket) :
    (∃ status, status ≠ .ok ∧ inputSend offer queue = (status, queue)) ∨
    ∃ packet, offer.packet = some packet ∧ queue.length ≠ inputSendCapacity ∧
      inputSend offer queue = (.ok, queue ++ [packet]) := by
  unfold inputSend
  cases offer.packet with
  | none => exact .inl ⟨.invalidArgument, by decide, rfl⟩
  | some packet =>
    dsimp only
    split
    · exact .inl ⟨.invalidArgument, by decide, rfl⟩
    · split
      · exact .inl ⟨.invalidState, by decide, rfl⟩
      · split
        · exact .inl ⟨.timeout, by decide, rfl⟩
        · rename_i room
          exact .inr ⟨packet, rfl, room, rfl⟩

/-- A receive call hands out the oldest packet to storage that takes it, or leaves the queue as it
was. -/
theorem inputReceive_effect (demand : Demand) (queue : List InputPacket) :
    (∃ reply, reply.status ≠ .ok ∧ reply.record = none ∧
      inputReceive 1 demand queue = (reply, queue)) ∨
    ∃ packet rest, queue = packet :: rest ∧
      (Transport.validateBytesOut packet.payload.length demand.output).1 = .ok ∧
      inputReceive 1 demand queue =
        (⟨.ok, (Transport.validateBytesOut packet.payload.length demand.output).2, some packet⟩,
          rest) := by
  unfold inputReceive
  split
  · exact .inl ⟨_, by decide, rfl, rfl⟩
  · cases queue with
    | nil => exact .inl ⟨_, demand.missed_ne_ok, rfl, rfl⟩
    | cons packet rest =>
      by_cases validated :
          (Transport.validateBytesOut packet.payload.length demand.output).1 = .ok
      · refine .inr ⟨packet, rest, rfl, validated, ?_⟩
        simp [claimReceiveFront, validated, Transport.copyBytesOut_of_validated validated]
      · refine .inl ⟨⟨(Transport.validateBytesOut packet.payload.length demand.output).1,
          (Transport.validateBytesOut packet.payload.length demand.output).2, none⟩, validated,
          rfl, ?_⟩
        simp [claimReceiveFront, validated]

/-- The queues of the input lane keep to the rules of a reliable lane. -/
theorem inputDiscipline_lawful :
    inputDiscipline.Lawful fun queue => queue.length ≤ inputReceiveCapacity where
  empty := Nat.zero_le _
  nothing := rfl
  send offer queue counted := by
    rcases inputSend_effect offer queue with
      ⟨status, refused, called⟩ | ⟨packet, offered, room, called⟩
    · exact ⟨none, queue, by simp [inputDiscipline, called, refused], counted, by simp⟩
    · have below : queue.length < inputReceiveCapacity := Nat.lt_of_le_of_ne counted room
      refine ⟨some packet, queue ++ [packet], by simp [inputDiscipline, called, offered], ?_, rfl⟩
      show (queue ++ [packet]).length ≤ inputReceiveCapacity
      rw [List.length_append, List.length_singleton]
      omega
  take queue counted := by
    refine ⟨queue.head?, queue.tail, rfl, ?_, ?_⟩
    · show queue.tail.length ≤ inputReceiveCapacity
      rw [List.length_tail]
      omega
    · show queue = queue.head?.toList ++ queue.tail
      cases queue <;> rfl
  push packet queue counted _ := by
    by_cases room : queue.length < inputReceiveCapacity
    · refine ⟨some packet, queue ++ [packet], by simp [inputDiscipline, pushInputReceive, room], ?_,
        rfl⟩
      show (queue ++ [packet]).length ≤ inputReceiveCapacity
      rw [List.length_append, List.length_singleton]
      omega
    · exact ⟨none, queue, by simp [inputDiscipline, pushInputReceive, room], counted, by simp⟩
  pushed packet queue other next stored := by
    have outcome := Except.ok.inj stored
    unfold pushInputReceive at outcome
    split at outcome
    · exact (Option.some.inj (congrArg Prod.fst outcome)).symm
    · cases congrArg Prod.fst outcome
  receive demand queue counted := by
    rcases inputReceive_effect demand queue with
      ⟨reply, _, nothing, called⟩ | ⟨packet, rest, rfl, _, called⟩
    · exact ⟨none, queue, by simp [inputDiscipline, called, nothing], counted, rfl⟩
    · have shorter : rest.length ≤ inputReceiveCapacity := Nat.le_of_succ_le counted
      exact ⟨some packet, rest, by simp [inputDiscipline, called], shorter, rfl⟩

end Counted

/-- A data lane. -/
abbrev DataLink := Queue.Link Fault DataQueue (List UInt8)

/-- The input lane. -/
abbrev InputLink := Queue.Link Fault (List InputPacket) InputPacket

/-- The storage of a demand does not take a payload of this size. -/
def Demand.Short (demand : Demand) (size : Nat) : Prop :=
  demand.output.sizeOut = false ∨ demand.output.capacity < size ∨
    (demand.output.destination = false ∧ size ≠ 0)

/-- Short storage is not accepted. -/
theorem Demand.Short.rejected {demand : Demand} {size : Nat} (short : demand.Short size) :
    (Transport.validateBytesOut size demand.output).1 ≠ .ok := by
  intro accepted
  obtain ⟨sizeOut, fits, given⟩ := (Transport.validateBytesOut_ok size demand.output).mp accepted
  rcases short with absent | small | ⟨null, some⟩
  · simp [sizeOut] at absent
  · omega
  · rcases given with empty | given
    · exact some empty
    · simp [null] at given

/-- A bounded lossless data lane. -/
structure DataLink.Fifo (maxDataPacketSize : Nat) (link : DataLink) : Prop where
  /-- No subtraction underflowed and no assertion failed. -/
  sound : link.fault = none
  /-- The outgoing queue is charged for its records, within its limits. -/
  outgoing : link.outgoing.Charged maxDataPacketSize
  /-- The incoming queue is charged for its records, within its limits. -/
  incoming : link.incoming.Charged maxDataPacketSize
  /-- A send call that does not return `OK` leaves the queue and its charge. -/
  rejected : ∀ offer status after,
    dataSend maxDataPacketSize offer link.outgoing = .ok (status, after) → status ≠ .ok →
    after = link.outgoing
  /-- A receive call with no storage, or too little, leaves the record and its charge. -/
  refused : ∀ demand packet packets, link.incoming.packets = packet :: packets →
    demand.output.destination = false ∨ demand.Short packet.length →
    ∃ reply, dataReceive demand link.incoming = .ok (reply, link.incoming) ∧
      reply.status ≠ .ok ∧ reply.record = none
  /-- Too little storage is told the size it needs. -/
  sized : ∀ demand packet packets, link.incoming.packets = packet :: packets →
    demand.output.sizeOut = true → demand.output.capacity < packet.length →
    dataReceive demand link.incoming =
      .ok (⟨.bufferTooSmall, some packet.length, none⟩, link.incoming)
  /-- What was accepted is what was delivered, and then what is on its way. -/
  conserved : link.accepted = link.delivered ++ link.pending (dataDiscipline maxDataPacketSize)

/-- A bounded lossless input lane. -/
structure InputLink.Fifo (link : InputLink) : Prop where
  /-- Nothing went wrong. -/
  sound : link.fault = none
  /-- The outgoing queue is within its limit. -/
  outgoing : link.outgoing.length ≤ inputSendCapacity
  /-- The incoming queue is within its limit. -/
  incoming : link.incoming.length ≤ inputReceiveCapacity
  /-- A send call that does not return `OK` leaves the queue. -/
  rejected : ∀ offer, (inputSend offer link.outgoing).1 ≠ .ok →
    (inputSend offer link.outgoing).2 = link.outgoing
  /-- A receive call with too little storage, or none for a packet that is not empty, leaves the
  packet. -/
  refused : ∀ demand packet packets, link.incoming = packet :: packets →
    demand.Short packet.payload.length →
    ∃ reply, inputReceive 1 demand link.incoming = (reply, link.incoming) ∧
      reply.status ≠ .ok ∧ reply.record = none
  /-- Too little storage is told the size it needs. -/
  sized : ∀ demand packet packets, link.incoming = packet :: packets → demand.pointers = true →
    demand.output.sizeOut = true → demand.output.capacity < packet.payload.length →
    inputReceive 1 demand link.incoming =
      (⟨.bufferTooSmall, some packet.payload.length, none⟩, link.incoming)
  /-- What was accepted is what was delivered, and then what is on its way. -/
  conserved : link.accepted = link.delivered ++ link.pending inputDiscipline

/-- Every reachable data lane is bounded and lossless. -/
theorem dataLink_fifo {maxDataPacketSize : Nat} {link : DataLink}
    (reachable : (Queue.Link.system (dataDiscipline maxDataPacketSize)).Reachable link) :
    link.Fifo maxDataPacketSize := by
  have holds := Queue.Link.reachable_invariant (dataDiscipline_lawful maxDataPacketSize) reachable
  constructor
  · exact holds.sound
  · exact holds.outgoing
  · exact holds.incoming
  · intro offer status after called failed
    rcases dataSend_of_charged holds.outgoing offer with
      ⟨_, _, same⟩ | ⟨_, _, _, stored, _⟩
    · rw [same] at called
      exact (congrArg Prod.snd (Except.ok.inj called)).symm
    · rw [stored] at called
      exact absurd (congrArg Prod.fst (Except.ok.inj called)).symm failed
  · intro demand packet packets held short
    have size : 1 ≤ packet.length := (holds.incoming.sized packet (by simp [held])).1
    have rejected : (Transport.validateBytesOut packet.length demand.output).1 ≠ .ok := by
      apply Demand.Short.rejected
      rcases short with null | short
      · exact .inr (.inr ⟨null, by omega⟩)
      · exact short
    rcases dataReceive_of_charged holds.incoming demand with
      ⟨reply, failed, nothing, called⟩ | ⟨other, after, front, accepted, _⟩
    · exact ⟨reply, called, failed, nothing⟩
    · obtain rfl : packet = other := (List.cons.inj (held.symm.trans front)).1
      exact absurd accepted rejected
  · intro demand packet packets held given small
    simp [dataReceive, held, given, copyBytesOut, Transport.validateBytesOut, small]
  · exact holds.conserved

/-- Every reachable input lane is bounded and lossless. -/
theorem inputLink_fifo {link : InputLink}
    (reachable : (Queue.Link.system inputDiscipline).Reachable link) : link.Fifo := by
  have holds := Queue.Link.reachable_invariant inputDiscipline_lawful reachable
  constructor
  · exact holds.sound
  · exact holds.outgoing
  · exact holds.incoming
  · intro offer failed
    rcases inputSend_effect offer link.outgoing with ⟨_, _, same⟩ | ⟨_, _, _, stored⟩
    · rw [same]
    · rw [stored] at failed
      exact absurd rfl failed
  · intro demand packet packets held short
    rcases inputReceive_effect demand link.incoming with
      ⟨reply, failed, nothing, called⟩ | ⟨other, rest, front, accepted, _⟩
    · exact ⟨reply, called, failed, nothing⟩
    · obtain rfl : packet = other := (List.cons.inj (held.symm.trans front)).1
      exact absurd accepted short.rejected
  · intro demand packet packets held pointers given small
    simp [inputReceive, held, pointers, given, claimReceiveFront, Transport.validateBytesOut, small]
  · exact holds.conserved

/-- In every run of the reliable lanes, each lane is bounded and loses, doubles, alters and
reorders nothing: what it delivered begins what it accepted. -/
theorem reliable_lanes_fifo :
    (∀ maxDataPacketSize (link : DataLink),
      (Queue.Link.system (dataDiscipline maxDataPacketSize)).Reachable link →
      link.Fifo maxDataPacketSize ∧ link.delivered <+: link.accepted) ∧
    ∀ link : InputLink, (Queue.Link.system inputDiscipline).Reachable link →
      link.Fifo ∧ link.delivered <+: link.accepted := by
  constructor
  · intro maxDataPacketSize link reachable
    have fifo := dataLink_fifo reachable
    exact ⟨fifo, ⟨_, fifo.conserved.symm⟩⟩
  · intro link reachable
    have fifo := inputLink_fifo reachable
    exact ⟨fifo, ⟨_, fifo.conserved.symm⟩⟩

/-- Storage for this many bytes. -/
def sampleDemand (destination : Bool) (capacity : Nat) : Demand where
  output := { destination, capacity, sizeOut := true }

/-- A record crosses a data lane; it is refused to storage that is too small. -/
def sampleDataRun : List (Queue.LinkAction DataOffer Demand) :=
  [.send ⟨some [1, 2], .ready⟩, .send ⟨some [], .ready⟩, .take, .transmit, .arrive, .push,
    .receive (sampleDemand true 1), .receive (sampleDemand true 2)]

/-- The data lane after that. -/
def sampleDataLink : DataLink :=
  ((Queue.Link.system (dataDiscipline 1048576)).run { outgoing := {}, incoming := {} }
    sampleDataRun).getD { outgoing := {}, incoming := {} }

/-- An empty packet and a full one cross the input lane; storage is null for both. -/
def sampleInputRun : List (Queue.LinkAction InputOffer Demand) :=
  [.send ⟨2, 5, some [], .ready⟩, .send ⟨2, 6, some [9], .ready⟩, .take, .transmit, .take,
    .transmit, .arrive, .push, .arrive, .push]

/-- The input lane after that. -/
def sampleInputLink : InputLink :=
  ((Queue.Link.system inputDiscipline).run { outgoing := [], incoming := [] }
    sampleInputRun).getD { outgoing := [], incoming := [] }

/-- Both sample lanes are reachable, bounded and lossless. -/
theorem sampleLinks_fifo :
    sampleDataLink.delivered = [[1, 2]] ∧ sampleDataLink.Fifo 1048576 ∧
      sampleInputLink.incoming = [⟨5, []⟩, ⟨6, [9]⟩] ∧ sampleInputLink.Fifo := by
  have data : (Queue.Link.system (dataDiscipline 1048576)).run { outgoing := {}, incoming := {} }
      sampleDataRun = some sampleDataLink := rfl
  have input : (Queue.Link.system inputDiscipline).run { outgoing := [], incoming := [] }
      sampleInputRun = some sampleInputLink := rfl
  have lanes := reliable_lanes_fifo
  exact ⟨rfl, (lanes.1 _ _ (Transition.System.reachable_of_run rfl data)).1, rfl,
    (lanes.2 _ (Transition.System.reachable_of_run rfl input)).1⟩

/-- A receive call without storage takes an empty packet from a reachable input lane. -/
theorem sampleInputLink_takes_empty :
    (Queue.Link.system inputDiscipline).Reachable sampleInputLink ∧
      inputReceive 1 (sampleDemand false 0) sampleInputLink.incoming =
        (⟨.ok, some 0, some ⟨5, []⟩⟩, [⟨6, [9]⟩]) := by
  have input : (Queue.Link.system inputDiscipline).run { outgoing := [], incoming := [] }
      sampleInputRun = some sampleInputLink := rfl
  exact ⟨Transition.System.reachable_of_run rfl input, rfl⟩

end Plank.Native
