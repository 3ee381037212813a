/-!
# Results of the C interface

Every entry point returns one of the codes below. A receive call names its output storage by
raw pointers and a capacity; the model keeps which pointers are null and the capacity, which
is all the checks read. `validate_bytes_out` is the one check every receive shares: it writes
the required size whenever it can, also when the storage is too small.
-/

namespace Plank.Transport

/-- The result codes of the C interface. -/
inductive Status where
  /-- `PLANK_TRANSPORT_OK`. -/
  | ok
  /-- `PLANK_TRANSPORT_TIMEOUT`. -/
  | timeout
  /-- `PLANK_TRANSPORT_DROPPED`. -/
  | dropped
  /-- `PLANK_TRANSPORT_ERROR_INVALID_ARGUMENT`. -/
  | invalidArgument
  /-- `PLANK_TRANSPORT_ERROR_INVALID_STATE`. -/
  | invalidState
  /-- `PLANK_TRANSPORT_ERROR_RUNTIME`. -/
  | runtime
  /-- `PLANK_TRANSPORT_ERROR_BUFFER_TOO_SMALL`. -/
  | bufferTooSmall
  deriving DecidableEq, Repr

/-- The status word of a reverse lane: 0 to 3. -/
inductive Availability where
  /-- 0: not negotiated. -/
  | unavailable
  /-- 1: negotiated, the lane task is opening. -/
  | opening
  /-- 2: carrying records. -/
  | ready
  /-- 3: the lane task ended with an error. -/
  | failed
  deriving DecidableEq, Repr

/-- Whether a send call took the record: `OK`, or `DROPPED` where something was lost for it. -/
def Status.taken (status : Status) : Bool := status = .ok || status = .dropped

/-- Output storage of a receive call. -/
structure Output where
  /-- Whether the payload pointer is not null. -/
  destination : Bool
  /-- Bytes the payload storage holds. -/
  capacity : Nat
  /-- Whether the size pointer is not null. -/
  sizeOut : Bool
  deriving DecidableEq, Repr

/-- `validate_bytes_out`: the verdict on the storage, and what `*size_out` is set to. -/
def validateBytesOut (size : Nat) (output : Output) : Status × Option Nat :=
  if !output.sizeOut then (.invalidArgument, none)
  else if size > output.capacity then (.bufferTooSmall, some size)
  else if size ≠ 0 ∧ output.destination = false then (.invalidArgument, some size)
  else (.ok, some size)

/-- Storage is accepted exactly when the size can be reported and the bytes fit. -/
theorem validateBytesOut_ok (size : Nat) (output : Output) :
    (validateBytesOut size output).1 = .ok ↔
      output.sizeOut = true ∧ size ≤ output.capacity ∧
        (size = 0 ∨ output.destination = true) := by
  obtain ⟨destination, capacity, sizeOut⟩ := output
  cases sizeOut with
  | false => simp [validateBytesOut]
  | true =>
    by_cases short : size > capacity
    · have : ¬ size ≤ capacity := by omega
      simp [validateBytesOut, short, this]
    · have fits : size ≤ capacity := by omega
      cases destination <;> simp [validateBytesOut, short, fits]
      by_cases empty : size = 0 <;> simp [empty]

/-- `copy_bytes_out`: the verdict, what `*size_out` is set to and the bytes written. -/
def copyBytesOut (payload : List UInt8) (output : Output) :
    Status × Option Nat × Option (List UInt8) :=
  let (status, size) := validateBytesOut payload.length output
  if status ≠ .ok then (status, size, none) else (.ok, size, some payload)

/-- Storage that was accepted takes the whole payload. -/
theorem copyBytesOut_of_validated {payload : List UInt8} {output : Output}
    (validated : (validateBytesOut payload.length output).1 = .ok) :
    copyBytesOut payload output =
      (.ok, (validateBytesOut payload.length output).2, some payload) := by
  simp [copyBytesOut, validated]

/-- `claim_receive_front`: nothing for an empty queue, else the verdict on the storage, what
`*size_out` is set to, the claimed item and the queue after. -/
def claimReceiveFront {Item : Type} (queue : List Item) (payloadLen : Item → Nat)
    (output : Output) : Option (Status × Option Nat × Option Item × List Item) :=
  match queue with
  | [] => none
  | front :: rest =>
    let (status, size) := validateBytesOut (payloadLen front) output
    some (if status = .ok then (.ok, size, some front, rest) else (status, size, none, queue))

/-- What stops a call or a worker that the source says cannot be stopped there. -/
inductive Fault where
  /-- A subtraction of sizes below zero. -/
  | underflow
  /-- A failed assertion. -/
  | assertion
  /-- An absent value that was expected. -/
  | expected
  deriving DecidableEq, Repr

/-- A sequence succeeds when both parts do. -/
theorem bind_ok {Error α β : Type} {first : Except Error α} {rest : α → Except Error β} {result : β}
    (succeeded : first >>= rest = .ok result) :
    ∃ value, first = .ok value ∧ rest value = .ok result := by
  cases first with
  | error _ => cases succeeded
  | ok value => exact ⟨value, rfl, succeeded⟩

/-- A guarded error that did not occur. -/
theorem ite_error_ok {Error α : Type} {condition : Prop} [Decidable condition] {error : Error}
    {rest : Except Error α} {result : α}
    (succeeded : (if condition then .error error else rest) = .ok result) :
    ¬condition ∧ rest = .ok result := by
  by_cases failed : condition
  · rw [if_pos failed] at succeeded
    cases succeeded
  · rw [if_neg failed] at succeeded
    exact ⟨failed, succeeded⟩

/-- Subtraction of sizes. -/
def subtract (left right : Nat) : Except Fault Nat :=
  if right ≤ left then .ok (left - right) else .error .underflow

/-- Subtraction in range. -/
theorem subtract_of_le {left right : Nat} (within : right ≤ left) :
    subtract left right = .ok (left - right) := if_pos within

/-- What a receive call tells its caller. -/
structure Reply (Record : Type) where
  /-- The result code. -/
  status : Status
  /-- What `*size_out` is set to. -/
  sizeOut : Option Nat := none
  /-- The record in the caller's storage. -/
  record : Option Record := none
  deriving DecidableEq, Repr

end Plank.Transport
