import Mathlib.Data.List.Basic

/-!
# A sender and a receiver over an ordered stream

A sender turns each value into packets and keeps a state from one value to the next; a receiver
turns packets into values again, with a state of its own. When the packets of one value bring back
that value and keep the two states in step, any sequence arrives as it was sent. While it is under
way, what has arrived and what the packets in flight still say are together what was sent.
-/

namespace Plank.Wire

/-- A sender and a receiver. -/
structure Stream (Sender Receiver Value Packet Result Fault : Type) where
  /-- The packets of a value. -/
  send : Sender → Value → Sender × List Packet
  /-- What a packet brings. -/
  receive : Receiver → Packet → Except Fault (Receiver × Option Result)

namespace Stream

variable {Sender Receiver Value Packet Result Fault : Type}
  (stream : Stream Sender Receiver Value Packet Result Fault)

/-- What some packets bring. -/
def receiveAll (receiver : Receiver) : List Packet → Except Fault (Receiver × List Result)
  | [] => .ok (receiver, [])
  | packet :: packets => do
    let (receiver, first) ← stream.receive receiver packet
    let (receiver, rest) ← receiveAll receiver packets
    return (receiver, first.toList ++ rest)

/-- The first of some packets that are received whole is received. -/
theorem receive_of_cons {receiver last : Receiver} {packet : Packet} {packets : List Packet}
    {values : List Result}
    (received : stream.receiveAll receiver (packet :: packets) = .ok (last, values)) :
    ∃ next value rest, stream.receive receiver packet = .ok (next, value) ∧
      stream.receiveAll next packets = .ok (last, rest) ∧ values = value.toList ++ rest := by
  unfold receiveAll at received
  cases taken : stream.receive receiver packet with
  | error fault =>
    rw [taken] at received
    exact absurd received nofun
  | ok result =>
    obtain ⟨next, value⟩ := result
    rw [taken] at received
    change (do
      let (receiver, rest) ← stream.receiveAll next packets
      return (receiver, value.toList ++ rest)) = Except.ok (last, values) at received
    cases others : stream.receiveAll next packets with
    | error fault =>
      rw [others] at received
      exact absurd received nofun
    | ok result =>
      obtain ⟨reached, rest⟩ := result
      rw [others] at received
      obtain ⟨rfl, rfl⟩ := Prod.mk.inj (Except.ok.inj received)
      exact ⟨next, value, rest, rfl, others, rfl⟩

/-- A packet and the packets behind it. -/
theorem receiveAll_cons {receiver next last : Receiver} {packet : Packet} {packets : List Packet}
    {value : Option Result} {rest : List Result}
    (first : stream.receive receiver packet = .ok (next, value))
    (others : stream.receiveAll next packets = .ok (last, rest)) :
    stream.receiveAll receiver (packet :: packets) = .ok (last, value.toList ++ rest) := by
  unfold receiveAll
  rw [first]
  show (do
    let (receiver, rest) ← stream.receiveAll next packets
    return (receiver, value.toList ++ rest)) = _
  rw [others]
  rfl

/-- Packets one after the other. -/
theorem receiveAll_append {receiver middle : Receiver} {packets : List Packet}
    {before : List Result} (first : stream.receiveAll receiver packets = .ok (middle, before))
    {last : Receiver} {others : List Packet} {after : List Result}
    (second : stream.receiveAll middle others = .ok (last, after)) :
    stream.receiveAll receiver (packets ++ others) = .ok (last, before ++ after) := by
  induction packets generalizing receiver before with
  | nil =>
    obtain ⟨rfl, rfl⟩ := Prod.mk.inj (Except.ok.inj first)
    exact second
  | cons packet packets ih =>
    obtain ⟨next, value, rest, taken, received, rfl⟩ := stream.receive_of_cons first
    rw [List.append_assoc]
    exact stream.receiveAll_cons taken (ih received)

/-- The packets of a value bring it back, and keep the states in step. -/
def RoundTrip (related : Sender → Receiver → Prop) (valid : Value → Prop)
    (image : Value → Result) : Prop :=
  ∀ sender receiver value, related sender receiver → valid value →
    ∃ next, stream.receiveAll receiver (stream.send sender value).2 = .ok (next, [image value]) ∧
      related (stream.send sender value).1 next

/-- What arrived, and what the packets in flight say, is what was sent. -/
def Flowing (related : Sender → Receiver → Prop) (image : Value → Result) (sender : Sender)
    (receiver : Receiver) (sent : List Value) (packets : List Packet) (arrived : List Result) :
    Prop :=
  ∃ last missing, stream.receiveAll receiver packets = .ok (last, missing) ∧
    related sender last ∧ arrived ++ missing = sent.map image

namespace Flowing

variable {stream} {related : Sender → Receiver → Prop} {valid : Value → Prop}
  {image : Value → Result} {sender : Sender} {receiver : Receiver} {sent : List Value}
  {packets : List Packet} {arrived : List Result}

/-- A value is sent. -/
theorem send (flowing : stream.Flowing related image sender receiver sent packets arrived)
    (roundTrip : stream.RoundTrip related valid image) {value : Value} (good : valid value) :
    stream.Flowing related image (stream.send sender value).1 receiver (sent ++ [value])
      (packets ++ (stream.send sender value).2) arrived := by
  obtain ⟨last, missing, received, inStep, whole⟩ := flowing
  obtain ⟨next, value', inStep'⟩ := roundTrip sender last value inStep good
  refine ⟨next, missing ++ [image value], stream.receiveAll_append received value', inStep', ?_⟩
  rw [← List.append_assoc, whole, List.map_append]
  rfl

/-- The first packet in flight arrives. -/
theorem arrive {packet : Packet}
    (flowing : stream.Flowing related image sender receiver sent (packet :: packets) arrived) :
    ∃ next value, stream.receive receiver packet = .ok (next, value) ∧
      stream.Flowing related image sender next sent packets (arrived ++ value.toList) := by
  obtain ⟨last, missing, received, inStep, whole⟩ := flowing
  obtain ⟨next, value, rest, taken, others, rfl⟩ := stream.receive_of_cons received
  exact ⟨next, value, taken, last, rest, others, inStep, by rw [List.append_assoc, whole]⟩

/-- What arrived is the beginning of what was sent. -/
theorem begins (flowing : stream.Flowing related image sender receiver sent packets arrived) :
    arrived <+: sent.map image := by
  obtain ⟨_, missing, _, _, whole⟩ := flowing
  exact ⟨missing, whole⟩

/-- With no packet in flight it is all of it. -/
theorem settled (flowing : stream.Flowing related image sender receiver sent [] arrived) :
    arrived = sent.map image := by
  obtain ⟨_, missing, received, _, whole⟩ := flowing
  obtain ⟨-, rfl⟩ := Prod.mk.inj (Except.ok.inj received)
  rw [← whole, List.append_nil]

end Flowing

end Stream

end Plank.Wire
