import Mathlib.Data.List.Chain
import Mathlib.Data.List.Pairwise
import Plank.Camera.Effect

/-!
# Dependent frames never lose their reference

A dependent frame can only be decoded right after the frame numbered one below it. Frames
disappear from the lane for five reasons: age, a full queue, a hole on the wire, a jump in the
sequence and a new activation. The invariant relates the frames handed out in the current
activation, the queue behind them and the lane's flags; each reason for loss leaves them in a
state from which no dependent frame can follow a loss.
-/

namespace Plank.Camera

open Plank.Transport (Availability Status Output)

/-- How a record must relate to the one handed out just before it. -/
structure Follows (previous record : Record) : Prop where
  /-- A record that is not the next one announces the loss. -/
  announced : record.sequence.toNat ≠ previous.sequence.toNat + 1 → record.discontinuous = true
  /-- A dependent record comes right after its reference. -/
  reference : record.dependent = true → record.sequence.toNat = previous.sequence.toNat + 1

/-- What the records of one activation, in the order they are handed out, must satisfy. -/
structure DependencySafe (generation : Nat) (records : List Record) : Prop where
  /-- They carry the activation's generation. -/
  own : ∀ record ∈ records, record.generation.toNat = generation
  /-- They all have one format. -/
  uniform : ∀ record ∈ records, ∀ other ∈ records, record.format = other.format
  /-- Sequences strictly increase. -/
  sequences : records.Pairwise fun earlier later => earlier.sequence < later.sequence
  /-- Capture times strictly increase. -/
  captures : records.Pairwise fun earlier later => earlier.captureTimeUs < later.captureTimeUs
  /-- The first record announces a discontinuity and needs no reference. -/
  first : ∀ record, records.head? = some record →
    record.discontinuous = true ∧ record.dependent = false
  /-- Neighbours relate as they must. -/
  linked : records.IsChain Follows

namespace DependencySafe

variable {generation : Nat} {records : List Record}

/-- Nothing handed out is safe. -/
theorem nil : DependencySafe generation [] where
  own := by simp
  uniform := by simp
  sequences := .nil
  captures := .nil
  first := by simp
  linked := .nil

/-- What was handed out before is safe. -/
theorem left {left right : List Record} (safe : DependencySafe generation (left ++ right)) :
    DependencySafe generation left where
  own record member := safe.own record (List.mem_append_left _ member)
  uniform record member other present :=
    safe.uniform record (List.mem_append_left _ member) other (List.mem_append_left _ present)
  sequences := (List.pairwise_append.mp safe.sequences).1
  captures := (List.pairwise_append.mp safe.captures).1
  first record found := safe.first record (by simp [List.head?_append, found])
  linked := safe.linked.left_of_append

/-- A record that is later than every other and follows the last of them may be appended. -/
theorem snoc {record : Record} (safe : DependencySafe generation records)
    (own : record.generation.toNat = generation)
    (format : ∀ other ∈ records, other.format = record.format)
    (sequence : ∀ other ∈ records, other.sequence < record.sequence)
    (capture : ∀ other ∈ records, other.captureTimeUs < record.captureTimeUs)
    (opening : records = [] → record.discontinuous = true ∧ record.dependent = false)
    (follows : ∀ last, records.getLast? = some last → Follows last record) :
    DependencySafe generation (records ++ [record]) where
  own := by
    intro chosen member
    rcases List.mem_append.mp member with old | new
    · exact safe.own chosen old
    · rwa [List.mem_singleton.mp new]
  uniform := by
    intro chosen member other present
    rcases List.mem_append.mp member with old | new <;>
      rcases List.mem_append.mp present with before | latest
    · exact safe.uniform chosen old other before
    · rw [List.mem_singleton.mp latest, format chosen old]
    · rw [List.mem_singleton.mp new, format other before]
    · rw [List.mem_singleton.mp new, List.mem_singleton.mp latest]
  sequences := by
    refine List.pairwise_append.mpr ⟨safe.sequences, List.pairwise_singleton _ _, ?_⟩
    intro other member chosen new
    rw [List.mem_singleton.mp new]
    exact sequence other member
  captures := by
    refine List.pairwise_append.mpr ⟨safe.captures, List.pairwise_singleton _ _, ?_⟩
    intro other member chosen new
    rw [List.mem_singleton.mp new]
    exact capture other member
  first := by
    intro chosen found
    cases records with
    | nil =>
      obtain rfl := Option.some.inj found
      exact opening rfl
    | cons head rest => exact safe.first chosen found
  linked := by
    refine List.isChain_append.mpr ⟨safe.linked, List.isChain_singleton _, ?_⟩
    intro last found chosen new
    obtain rfl := Option.some.inj new
    exact follows last found

/-- An independent record may be moved up over lost ones once it announces the loss. -/
theorem cut {before lost rest : List Record} {record : Record}
    (safe : DependencySafe generation (before ++ (lost ++ record :: rest)))
    (independent : record.dependent = false) :
    DependencySafe generation (before ++ record.mark :: rest) := by
  -- without the mark the remaining records are a sublist of what was safe
  have kept : (before ++ record :: rest).Sublist (before ++ (lost ++ record :: rest)) :=
    (List.Sublist.refl _).append (List.sublist_append_right _ _)
  have image : ∀ chosen ∈ before ++ record.mark :: rest, ∃ original ∈ before ++ record :: rest,
      chosen.generation = original.generation ∧ chosen.format = original.format := by
    intro chosen member
    rcases List.mem_append.mp member with old | new
    · exact ⟨chosen, List.mem_append_left _ old, rfl, rfl⟩
    · rcases List.mem_cons.mp new with rfl | behind
      · exact ⟨record, by simp, rfl, rfl⟩
      · exact ⟨chosen, by simp [behind], rfl, rfl⟩
  have tail := (List.isChain_append.mp (List.isChain_append.mp safe.linked).2.1).2.1
  refine ⟨?_, ?_, ?_, ?_, ?_, ?_⟩
  · intro chosen member
    obtain ⟨original, present, generation, _⟩ := image chosen member
    rw [generation]
    exact safe.own original (kept.subset present)
  · intro chosen member other present
    obtain ⟨original, before, _, format⟩ := image chosen member
    obtain ⟨second, behind, _, same⟩ := image other present
    rw [format, same]
    exact safe.uniform original (kept.subset before) second (kept.subset behind)
  · have ordered := safe.sequences.sublist kept
    rw [List.pairwise_append, List.pairwise_cons] at ordered ⊢
    simpa [Record.mark] using ordered
  · have ordered := safe.captures.sublist kept
    rw [List.pairwise_append, List.pairwise_cons] at ordered ⊢
    simpa [Record.mark] using ordered
  · intro chosen found
    cases before with
    | nil =>
      obtain rfl := Option.some.inj found
      exact ⟨record.mark_discontinuous, by rw [Record.mark_dependent, independent]⟩
    | cons head others => exact safe.first chosen found
  · refine List.isChain_append.mpr ⟨(List.isChain_append.mp safe.linked).1, ?_, ?_⟩
    · rw [List.isChain_cons] at tail ⊢
      exact ⟨fun next found => ⟨(tail.1 next found).announced, (tail.1 next found).reference⟩, tail.2⟩
    · intro last _ chosen found
      obtain rfl := Option.some.inj found
      exact ⟨fun _ => record.mark_discontinuous, by simp [independent]⟩

end DependencySafe

/-- The records of the current activation that were handed out, then those still queued. -/
def line (delivered : List Record) (lane : State) : List Record :=
  delivered ++ lane.packets.map Prod.snd

/-- What ties a lane to the records of the current activation it has handed out. -/
structure Dependable (capacity : Nat) (delivered : List Record) (lane : State) : Prop where
  /-- A muted lane has handed nothing out and holds nothing. -/
  muted : lane.generation = 0 → line delivered lane = []
  /-- What was and will be handed out is safe. -/
  safe : DependencySafe lane.generation.toNat (line delivered lane)
  /-- Every record has the format of the activation. -/
  formats : ∀ record ∈ line delivered lane, lane.format = some record.format
  /-- No record is numbered above the last accepted one. -/
  sequences : ∀ record ∈ line delivered lane,
    ∃ last, lane.lastSequence = some last ∧ record.sequence ≤ last
  /-- No record was captured after the last accepted one. -/
  captures : ∀ record ∈ line delivered lane, record.captureTimeUs ≤ lane.lastCaptureTime
  /-- Unless a discontinuity is pending, the newest record is the last accepted one. -/
  following : lane.generation ≠ 0 → lane.discontinuity = false →
    ∃ record, (line delivered lane).getLast? = some record ∧
      lane.lastSequence = some record.sequence
  /-- An H.264 lane waits for a key frame exactly while a discontinuity is pending. -/
  waiting : lane.format.all (·.codec == h264) = true → lane.waitingForKey = lane.discontinuity
  /-- The queue is within its capacity. -/
  bounded : lane.packets.length ≤ capacity

namespace Dependable

variable {capacity : Nat} {delivered : List Record} {lane : State}

/-- The untouched lane satisfies the invariant. -/
theorem start : Dependable capacity [] {} where
  muted _ := rfl
  safe := .nil
  formats := by simp [line]
  sequences := by simp [line]
  captures := by simp [line]
  following active := absurd rfl active
  waiting _ := rfl
  bounded := Nat.zero_le _

/-- A gap keeps the invariant. -/
theorem gap (holds : Dependable capacity delivered lane) :
    Dependable capacity delivered lane.gap := by
  have within : ∀ record ∈ delivered, record ∈ line delivered lane :=
    fun record member => List.mem_append_left _ member
  have emptied : line delivered lane.gap = delivered := by simp [line, State.gap_eq]
  refine ⟨?_, ?_, ?_, ?_, ?_, ?_, ?_, ?_⟩
  · rw [emptied, State.gap_eq]
    exact fun mute => (List.append_eq_nil_iff.mp (holds.muted mute)).1
  · rw [emptied, State.gap_eq]
    exact holds.safe.left
  · rw [emptied, State.gap_eq]
    exact fun record member => holds.formats record (within record member)
  · rw [emptied, State.gap_eq]
    exact fun record member => holds.sequences record (within record member)
  · rw [emptied, State.gap_eq]
    exact fun record member => holds.captures record (within record member)
  · simp [State.gap_eq]
  · simp only [State.gap_eq]
    intro isH264
    simp [isH264]
  · simp [State.gap_eq]

/-- Pruning keeps the invariant. -/
theorem pruned {now : Nat} {after : State} (holds : Dependable capacity delivered lane)
    (pruned : State.Pruned now lane after) : Dependable capacity delivered after := by
  cases pruned with
  | kept young => exact holds
  | emptied =>
    -- emptying the queue first changes nothing that the gap does not change again
    have same : ({ lane with packets := [] } : State).gap = lane.gap := by
      simp only [State.gap_eq]
    rw [same]
    exact holds.gap
  | cut lost arrival packet rest split young independent =>
    have before : line delivered lane =
        delivered ++ (lost.map Prod.snd ++ packet :: rest.map Prod.snd) := by
      simp [line, split]
    have after : line delivered { lane with packets := (arrival, packet.mark) :: rest } =
        delivered ++ packet.mark :: rest.map Prod.snd := by
      simp [line]
    have image : ∀ record ∈ delivered ++ packet.mark :: rest.map Prod.snd,
        ∃ original ∈ line delivered lane, record.format = original.format ∧
          record.sequence = original.sequence ∧
          record.captureTimeUs = original.captureTimeUs := by
      intro record member
      rw [before]
      rcases List.mem_append.mp member with old | new
      · exact ⟨record, by simp [old], rfl, rfl, rfl⟩
      · rcases List.mem_cons.mp new with rfl | behind
        · exact ⟨packet, by simp, rfl, rfl, rfl⟩
        · exact ⟨record, by simp [behind], rfl, rfl, rfl⟩
    refine ⟨?_, ?_, ?_, ?_, ?_, ?_, ?_, ?_⟩
    · intro mute
      have nothing := holds.muted mute
      simp [before] at nothing
    · rw [after]
      have safe := holds.safe
      rw [before] at safe
      exact safe.cut independent
    · rw [after]
      intro record member
      obtain ⟨original, present, format, _, _⟩ := image record member
      rw [format]
      exact holds.formats original present
    · rw [after]
      intro record member
      obtain ⟨original, present, _, sequence, _⟩ := image record member
      rw [sequence]
      exact holds.sequences original present
    · rw [after]
      intro record member
      obtain ⟨original, present, _, _, capture⟩ := image record member
      rw [capture]
      exact holds.captures original present
    · intro active continuous
      obtain ⟨last, found, noted⟩ := holds.following active continuous
      rw [before] at found
      rw [after]
      cases rest with
      | nil =>
        obtain rfl : packet = last := by simpa using found
        exact ⟨packet.mark, by simp, noted⟩
      | cons next others =>
        refine ⟨last, ?_, noted⟩
        simpa using found
    · exact holds.waiting
    · have bounded := holds.bounded
      rw [split, List.length_append] at bounded
      simp only [List.length_cons] at bounded ⊢
      omega

/-- Handing out the front keeps the invariant. -/
theorem handed {arrival : Nat} {packet : Record} {rest : List (Nat × Record)}
    (holds : Dependable capacity delivered lane)
    (held : lane.packets = (arrival, packet) :: rest) :
    Dependable capacity (delivered ++ [packet]) { lane with packets := rest } := by
  have same : line (delivered ++ [packet]) { lane with packets := rest } =
      line delivered lane := by
    simp [line, held]
  have bounded := holds.bounded
  rw [held, List.length_cons] at bounded
  refine ⟨?_, ?_, ?_, ?_, ?_, ?_, ?_, ?_⟩
  · rw [same]
    exact holds.muted
  · rw [same]
    exact holds.safe
  · rw [same]
    exact holds.formats
  · rw [same]
    exact holds.sequences
  · rw [same]
    exact holds.captures
  · rw [same]
    exact holds.following
  · exact holds.waiting
  · exact (Nat.le_succ _).trans bounded

/-- Taking a record out keeps the invariant. -/
theorem taken {now : Nat} {after : State} {record : Option (Nat × Record)}
    (holds : Dependable capacity delivered lane)
    (taken : State.Taken now lane after record) :
    Dependable capacity (delivered ++ (record.map Prod.snd).toList) after := by
  cases taken with
  | untouched => simpa using holds
  | nothing after pruned => simpa using holds.pruned pruned
  | front middle arrival packet rest pruned held =>
    exact (holds.pruned pruned).handed held

/-- Once an accepted record is arranged, everything still in line precedes it. -/
theorem precedes (holds : Dependable capacity delivered lane) {packet : Record}
    (accepts : lane.Accepts packet) (gap : Bool) :
    ∀ record ∈ line delivered (lane.arranged packet gap),
      record.format = packet.format ∧ record.sequence < packet.sequence ∧
        record.captureTimeUs < packet.captureTimeUs := by
  intro record member
  have present : record ∈ line delivered lane := by
    rcases List.mem_append.mp member with old | new
    · exact List.mem_append_left _ old
    · cases gap with
      | true => simp [State.arranged_eq] at new
      | false => exact List.mem_append_right _ (by simpa [State.arranged_eq] using new)
  obtain ⟨last, found, below⟩ := holds.sequences record present
  have sequence := accepts.sequence last found
  have capture := holds.captures record present
  exact ⟨(accepts.format _ (holds.formats record present)).symm, by grind,
    by grind [accepts.capture]⟩

/-- The line of an arranged lane is safe. -/
theorem arranged_safe (holds : Dependable capacity delivered lane) (packet : Record) (gap : Bool) :
    DependencySafe lane.generation.toNat (line delivered (lane.arranged packet gap)) := by
  cases gap with
  | true =>
    have emptied : line delivered (lane.arranged packet true) = delivered := by
      simp [line, State.arranged_eq]
    rw [emptied]
    exact holds.safe.left
  | false => simpa [line, State.arranged_eq] using holds.safe

/-- A dependent record is usable only while nothing is pending. -/
theorem waits (holds : Dependable capacity delivered lane) {packet : Record}
    (accepts : lane.Accepts packet) (gap : Bool)
    (isH264 : (packet.format.codec == h264) = true) :
    (lane.arranged packet gap).waitingForKey = (gap || lane.discontinuity) := by
  have same : lane.waitingForKey = lane.discontinuity := by
    apply holds.waiting
    cases found : lane.format with
    | none => rfl
    | some format => rw [← accepts.format format found]; exact isH264
  simp [State.arranged_eq, isH264, same]

/-- A record pushed while nothing is pending is numbered right after the newest one. -/
theorem continuous (holds : Dependable capacity delivered lane) {packet : Record}
    (accepts : lane.Accepts packet) {gap : Bool}
    (follows : gap = false →
      ∀ last, lane.lastSequence = some last → packet.sequence = last + 1)
    (nothing : (gap || lane.discontinuity) = false) :
    ∃ last, (line delivered (lane.arranged packet gap)).getLast? = some last ∧
      packet.sequence.toNat = last.sequence.toNat + 1 := by
  obtain ⟨rfl, settled⟩ := Bool.or_eq_false_iff.mp nothing
  obtain ⟨last, newest, found⟩ := holds.following accepts.active settled
  refine ⟨last, by simpa [line, State.arranged_eq] using newest, ?_⟩
  have above := UInt64.lt_iff_toNat_lt.mp (accepts.sequence _ found)
  have next := congrArg UInt64.toNat (follows rfl _ found)
  rw [UInt64.toNat_add] at next
  simp only [UInt64.toNat_one] at next
  omega

/-- Whatever the push decides, the order fields it has written bound the line. -/
theorem pushed {now : Nat} {packet : Record} {after : State} {status : Status}
    (positive : 1 ≤ capacity) (holds : Dependable capacity delivered lane)
    (pushed : State.Pushed now packet capacity lane after status) :
    Dependable capacity delivered after := by
  cases pushed with
  | refused status refusal => exact holds
  | discarded gap accepts dependent waiting =>
    have precedes := holds.precedes accepts gap
    have isH264 : (packet.format.codec == h264) = true := (Bool.and_eq_true_iff.mp dependent).1
    have pending := (holds.waits accepts gap isH264).symm.trans waiting
    have active : (lane.arranged packet gap).generation = lane.generation := by
      rw [State.arranged_eq]
    refine ⟨?_, ?_, ?_, ?_, ?_, ?_, ?_, ?_⟩
    · exact fun mute => absurd (active.symm.trans mute) accepts.active
    · rw [active]
      exact holds.arranged_safe packet gap
    · intro record member
      rw [(precedes record member).1, State.arranged_eq]
    · intro record member
      exact ⟨packet.sequence, by rw [State.arranged_eq],
        UInt64.le_of_lt (precedes record member).2.1⟩
    · intro record member
      have before := (precedes record member).2.2
      rw [State.arranged_eq]
      exact UInt64.le_of_lt before
    · intro _ settled
      rw [State.arranged_eq] at settled
      exact absurd (pending.symm.trans settled) (by simp)
    · intro _
      rw [waiting, State.arranged_eq]
      exact pending.symm
    · have bounded := holds.bounded
      rw [State.arranged_eq]
      split
      · exact Nat.zero_le _
      · exact bounded
  | queued gap queued status accepts follows usable marked noted =>
    have precedes := holds.precedes accepts gap
    have active : (lane.arranged packet gap).generation = lane.generation := by
      rw [State.arranged_eq]
    have pending : (gap || (lane.arranged packet gap).discontinuity) =
        (gap || lane.discontinuity) := by
      simp [State.arranged_eq]
    rw [pending] at marked
    have copies : queued.format = packet.format ∧ queued.generation = packet.generation ∧
        queued.sequence = packet.sequence ∧ queued.captureTimeUs = packet.captureTimeUs ∧
        queued.dependent = packet.dependent := by
      rw [marked]
      split
      · exact ⟨rfl, rfl, rfl, rfl, packet.mark_dependent⟩
      · exact ⟨rfl, rfl, rfl, rfl, rfl⟩
    obtain ⟨format, generation, sequence, capture, dependency⟩ := copies
    have announced : (gap || lane.discontinuity) = true → queued.discontinuous = true := by
      intro loss
      rw [marked, if_pos loss]
      exact packet.mark_discontinuous
    have settled : queued.dependent = true → (gap || lane.discontinuity) = false := by
      intro dependent
      rw [dependency] at dependent
      rw [← holds.waits accepts gap (Bool.and_eq_true_iff.mp dependent).1]
      exact usable dependent
    have continuous := holds.continuous accepts fun unbroken => (follows unbroken).1
    have safe : DependencySafe lane.generation.toNat
        (line delivered (lane.arranged packet gap) ++ [queued]) := by
      refine (holds.arranged_safe packet gap).snoc ?_ ?_ ?_ ?_ ?_ ?_
      · rw [generation, accepts.current]
      · exact fun other member => (precedes other member).1.trans format.symm
      · rw [sequence]
        exact fun other member => (precedes other member).2.1
      · rw [capture]
        exact fun other member => (precedes other member).2.2
      · intro opening
        -- with nothing pending there would be a newest record in the empty line
        have loss : (gap || lane.discontinuity) = true := by
          by_contra nothing
          obtain ⟨last, newest, _⟩ := continuous (by simpa using nothing)
          simp [opening] at newest
        refine ⟨announced loss, ?_⟩
        by_contra dependent
        rw [settled (by simpa using dependent)] at loss
        contradiction
      · intro last newest
        have adjacent : (gap || lane.discontinuity) = false →
            queued.sequence.toNat = last.sequence.toNat + 1 := by
          intro nothing
          obtain ⟨same, found, next⟩ := continuous nothing
          obtain rfl := Option.some.inj (newest.symm.trans found)
          rw [sequence, next]
        refine ⟨fun jump => announced ?_, fun dependent => adjacent (settled dependent)⟩
        by_contra nothing
        exact jump (adjacent (by simpa using nothing))
    have longer : line delivered { lane.arranged packet gap with
        waitingForKey := (lane.arranged packet gap).waitingForKey && !packet.key
        requestKey := (lane.arranged packet gap).requestKey && !packet.key
        discontinuity := false
        packets := (lane.arranged packet gap).packets ++ [(now, queued)] } =
        line delivered (lane.arranged packet gap) ++ [queued] := by
      simp [line]
    have upTo : ∀ record ∈ line delivered (lane.arranged packet gap) ++ [queued],
        record.format = packet.format ∧ record.sequence ≤ packet.sequence ∧
          record.captureTimeUs ≤ packet.captureTimeUs := by
      intro record member
      rcases List.mem_append.mp member with old | new
      · have before := precedes record old
        exact ⟨before.1, UInt64.le_of_lt before.2.1, UInt64.le_of_lt before.2.2⟩
      · rw [List.mem_singleton.mp new, format, sequence, capture]
        exact ⟨rfl, UInt64.le_refl _, UInt64.le_refl _⟩
    refine ⟨?_, ?_, ?_, ?_, ?_, ?_, ?_, ?_⟩
    · exact fun mute => absurd (active.symm.trans mute) accepts.active
    · rw [longer, active]
      exact safe
    · rw [longer]
      intro record member
      rw [(upTo record member).1, State.arranged_eq]
    · rw [longer]
      intro record member
      exact ⟨packet.sequence, by rw [State.arranged_eq], (upTo record member).2.1⟩
    · rw [longer]
      intro record member
      have before := (upTo record member).2.2
      rw [State.arranged_eq]
      exact before
    · intro _ _
      exact ⟨queued, by rw [longer]; simp, by rw [sequence, State.arranged_eq]⟩
    · intro known
      rw [State.arranged_eq] at known
      have isH264 : (packet.format.codec == h264) = true := by simpa using known
      cases key : packet.key with
      | true => simp
      | false => simpa using usable (by simp [Record.dependent, isH264, key])
    · have bounded := holds.bounded
      rw [State.arranged_eq]
      cases gap with
      | true => simpa using positive
      | false =>
        have room := (follows rfl).2
        simp only [Bool.false_eq_true, ↓reduceIte, List.length_append, List.length_singleton]
        omega

/-- An accepted activation starts an empty line. -/
theorem activated (generation : UInt64) :
    Dependable capacity [] (lane.activated generation) := by
  refine ⟨fun _ => rfl, .nil, ?_, ?_, ?_, ?_, fun _ => rfl, Nat.zero_le _⟩
  · simp [line, State.activated]
  · simp [line, State.activated]
  · simp [line, State.activated]
  · simp [State.activated]

/-- The labels of the lane play no part in the invariant. -/
theorem relabelled (holds : Dependable capacity delivered lane) (enabled : Bool)
    (version : UInt32) (status : Availability) (microphoneNegotiated : Bool) :
    Dependable capacity delivered
      { lane with enabled, version, status, microphoneNegotiated } :=
  ⟨holds.muted, holds.safe, holds.formats, holds.sequences, holds.captures, holds.following,
    holds.waiting, holds.bounded⟩

/-- A failure starts an empty line. -/
theorem failed (holds : Dependable capacity delivered lane) :
    Dependable capacity [] lane.failed := by
  refine ⟨fun _ => rfl, .nil, ?_, ?_, ?_, ?_, holds.waiting, Nat.zero_le _⟩
  · simp [line, State.failed]
  · simp [line, State.failed]
  · simp [line, State.failed]
  · simp [State.failed]

end Dependable

namespace Session

/-- The records handed out so far in a period. -/
def records (period : Lane.Period Nat Record) : List Record := period.delivered.map Prod.fst

/-- The invariant of a session. -/
structure Dependable (capacity : Nat) (session : Session) : Prop where
  /-- The lane and what it has handed out in this activation fit together. -/
  current : Camera.Dependable capacity (records session.ledger.current) session.lane
  /-- The period in progress is the one of the lane's generation. -/
  inProgress : session.ledger.current.generation = session.lane.generation.toNat
  /-- Every closed period is safe. -/
  earlier : ∀ period ∈ session.ledger.earlier, DependencySafe period.generation (records period)

/-- The period in progress is as safe as the closed ones. -/
theorem Dependable.periods {capacity : Nat} {session : Session}
    (holds : session.Dependable capacity) :
    ∀ period ∈ session.ledger.periods, DependencySafe period.generation (records period) := by
  intro period member
  rcases List.mem_cons.mp member with rfl | older
  · rw [holds.inProgress]
    exact holds.current.safe.left
  · exact holds.earlier period older

/-- Taking a record out of the lane and noting it keeps the invariant. -/
theorem Dependable.taken {capacity now : Nat} {session : Session} {lane : State}
    {record : Option (Nat × Record)} (holds : session.Dependable capacity)
    (taken : State.Taken now session.lane lane record) :
    ({ session with lane, ledger := session.ledger.noteTaken session.now record } :
      Session).Dependable capacity := by
  have line := holds.current.taken taken
  have generation : lane.generation = session.lane.generation := by
    cases taken with
    | untouched => rfl
    | nothing after pruned => exact pruned.generation
    | front middle arrival packet rest pruned held => exact pruned.generation
  refine ⟨?_, ?_, ?_⟩
  · cases record with
    | none => simpa [Lane.Ledger.noteTaken] using line
    | some handed => simpa [Lane.Ledger.noteTaken, Lane.Ledger.note, records] using line
  · rw [generation, ← holds.inProgress]
    cases record <;> rfl
  · cases record <;> exact holds.earlier

/-- Pushing a record and noting it keeps the invariant. -/
theorem Dependable.pushed {capacity now : Nat} {session : Session} {lane : State}
    {packet : Record} {status : Status} (positive : 1 ≤ capacity)
    (holds : session.Dependable capacity)
    (pushed : State.Pushed now packet capacity session.lane lane status) :
    ({ session with lane, ledger := session.ledger.notePushed status.taken packet } :
      Session).Dependable capacity := by
  have current := holds.current.pushed positive pushed
  have inProgress : session.ledger.current.generation = lane.generation.toNat := by
    rw [pushed.generation, holds.inProgress]
  unfold Lane.Ledger.notePushed
  split
  · exact ⟨current, inProgress, holds.earlier⟩
  · exact ⟨current, inProgress, holds.earlier⟩

/-- Every action keeps the invariant. -/
theorem preserves_dependable {capacity : Nat} (positive : 1 ≤ capacity) :
    (system capacity).Preserves (Dependable capacity) := by
  intro before action after holds stepped
  cases action with
  | enable microphoneNegotiated version opened microphone =>
    obtain rfl := Option.some.inj stepped
    obtain ⟨enabled, version, status, negotiated, effect, _⟩ :=
      before.lane.enable_effect microphoneNegotiated version opened microphone
    refine ⟨?_, ?_, holds.earlier⟩
    · rw [effect]
      exact holds.current.relabelled enabled version status negotiated
    · rw [effect]
      exact holds.inProgress
  | opened =>
    simp only [system, step, Option.ite_none_right_eq_some, Option.some.injEq] at stepped
    obtain ⟨_, rfl⟩ := stepped
    exact ⟨holds.current.relabelled _ _ _ _, holds.inProgress, holds.earlier⟩
  | failed =>
    simp only [system, step, Option.ite_none_right_eq_some, Option.some.injEq] at stepped
    obtain ⟨_, rfl⟩ := stepped
    exact ⟨holds.current.failed, rfl, holds.periods⟩
  | activate generation =>
    simp only [system, step] at stepped
    rcases before.lane.activate_effect generation with rejected | ⟨_, _, accepted⟩
    · rw [rejected] at stepped
      obtain rfl := Option.some.inj stepped
      exact ⟨holds.current, holds.inProgress, holds.earlier⟩
    · rw [accepted] at stepped
      obtain rfl := Option.some.inj stepped
      exact ⟨.activated generation, rfl, holds.periods⟩
  | push packet =>
    obtain rfl := Option.some.inj stepped
    exact holds.pushed positive (before.lane.push_effect before.now packet capacity)
  | pop =>
    obtain rfl := Option.some.inj stepped
    exact holds.taken (State.pop_effect _ _)
  | receive serving output =>
    obtain rfl := Option.some.inj stepped
    exact holds.taken (State.receive_effect _ _ _ _)
  | hole =>
    obtain rfl := Option.some.inj stepped
    refine ⟨holds.current.gap, ?_, holds.earlier⟩
    rw [holds.inProgress, State.gap_eq]
  | tick nanoseconds =>
    obtain rfl := Option.some.inj stepped
    exact ⟨holds.current, holds.inProgress, holds.earlier⟩

/-- In every reachable session, whatever was pushed, lost, aged or reactivated: the queue is
within its capacity, what was handed out in each activation is dependency safe and carries that
activation's generation, and in the current activation it has the lane's format. -/
theorem reachable_dependency_safe {capacity : Nat} (positive : 1 ≤ capacity) {session : Session}
    (reachable : (system capacity).Reachable session) :
    session.lane.packets.length ≤ capacity ∧
      (∀ period ∈ session.ledger.periods, DependencySafe period.generation (records period)) ∧
      session.ledger.current.generation = session.lane.generation.toNat ∧
      ∀ record ∈ records session.ledger.current, session.lane.format = some record.format := by
  have holds : session.Dependable capacity := by
    refine (preserves_dependable positive).reachable ?_ reachable
    rintro first rfl
    exact ⟨.start, rfl, by simp [Lane.Ledger.empty]⟩
  exact ⟨holds.current.bounded, holds.periods, holds.inProgress, fun record member =>
    holds.current.formats record (List.mem_append_left _ member)⟩

/-- A small 720p H.264 frame of activation 1. -/
def sampleFrame (flags : UInt8) (sequence : UInt64) : Record where
  format := .native ⟨h264, 1280, 720, 1, 1, 1, 1⟩
  flags
  generation := 1
  sequence
  captureTimeUs := 1000 * (sequence + 1)
  driverSequence := some 0
  payload := [0]

/-- Two frames arrive in order, the third is lost, the fourth depends on it, the fifth is a key
frame. -/
def sampleRun : List Action :=
  [.enable 0 1 true false, .opened, .activate 1, .push (sampleFrame keyFrame 0), .pop,
    .push (sampleFrame 0 1), .pop, .push (sampleFrame 0 3), .pop,
    .push (sampleFrame keyFrame 4), .pop]

/-- The session after the sample run. -/
def sampleSession : Session := ((system receiveFrames).run {} sampleRun).getD {}

/-- The sample run hands out three frames; the dependent frame behind the loss is not among
them. -/
theorem sampleSession_dependency_safe :
    (records sampleSession.ledger.current).map Record.sequence = [0, 1, 4] ∧
      DependencySafe 1 (records sampleSession.ledger.current) := by
  have evaluated : (system receiveFrames).run {} sampleRun = some sampleSession := rfl
  have safe := reachable_dependency_safe (by decide)
    (Transition.System.reachable_of_run rfl evaluated)
  exact ⟨rfl, safe.2.1 sampleSession.ledger.current List.mem_cons_self⟩

end Session

end Plank.Camera
