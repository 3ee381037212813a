import Plank.Clipboard.Sync
import Plank.Clipboard.Text

/-!
# Whole texts arrive

A receiver that has taken every frame on the lane has adopted exactly texts that were sent as a
whole, in order, and has assembled the part of the outgoing text that was sent. From this every text
adopted at the far end is one snapshot of the sender, and one that was given up half-way never is.
-/

namespace Plank.Clipboard

/-- The receiver once every frame on the lane has arrived. -/
def Sync.far (sync : Sync) : Receiver := Receiver.receiveAll eventBytes sync.sent

/-- How the receiver stands to the text that is being sent. -/
structure Current (sync : Sync) (text : List UInt8) : Prop where
  /-- It is the text of its generation. -/
  known : sync.copied[sync.outGeneration - 1]? = some text
  /-- It has a generation. -/
  positive : 0 < sync.outGeneration
  /-- It may be offered. -/
  valid : validText text = true
  /-- Some of it is still to be sent. -/
  unfinished : sync.outOffset < text.length
  /-- The receiver has adopted no text of its generation. -/
  later : sync.far.lastGeneration < sync.outGeneration
  /-- The receiver has assembled the part that was sent. -/
  assembling : sync.outOffset = 0 ∨ sync.far.assembly = some (text.take sync.outOffset) ∧
    sync.far.inGeneration = sync.outGeneration ∧ sync.far.inTotal = text.length

/-- How the receiver stands to the sender. -/
structure Agrees (sync : Sync) : Prop where
  /-- Every frame on the lane passes the checks of its receiver. -/
  accepted : ∀ frame ∈ sync.sent, (decode eventBytes frame).isSome = true
  /-- Each generation has its text. -/
  copied : sync.copied.length = sync.outGeneration
  /-- The text that is being sent. -/
  current : ∀ text, sync.outgoing = some text → Current sync text
  /-- Every text adopted is the text of its generation, sent as a whole. -/
  adopted : ∀ generation text, (generation, text) ∈ sync.far.adopted →
    0 < generation ∧ sync.copied[generation - 1]? = some text ∧ generation ∈ sync.completed
  /-- No later generation was adopted. -/
  last : sync.far.lastGeneration ≤ sync.outGeneration
  /-- A text sent as a whole was not given up, and is not being sent. -/
  completed : ∀ generation ∈ sync.completed, generation ≤ sync.outGeneration ∧
    generation ∉ sync.dropped ∧ (sync.outgoing.isSome → generation < sync.outGeneration)
  /-- A text that was given up is not being sent. -/
  dropped : ∀ generation ∈ sync.dropped, generation ≤ sync.outGeneration ∧
    (sync.outgoing.isSome → generation < sync.outGeneration)

/-- How often the pasteboard was polled: each new generation has waited for the interval, so there
are never as many as the 64 bits of a generation on the wire. -/
structure Paced (sync : Sync) : Prop where
  /-- Without a poll under way no block is queued. -/
  pending : sync.mainPending = false → sync.main = none ∧ sync.back = none
  /-- At most one block is queued. -/
  single : sync.main ≠ none → sync.back = none
  /-- Each generation, and a poll that may bring one, has waited for the interval. -/
  budget : (sync.outGeneration +
      if sync.main.any (·.text = none) ∨ sync.back.any (·.text ≠ none) then 1 else 0) *
    pollInterval ≤ sync.nextPoll
  /-- The next poll is at most an interval away. -/
  clock : sync.nextPoll ≤ sync.clock + pollInterval
  /-- The clock has 64 bits. -/
  fits : sync.clock < 2 ^ 64
  /-- A text read from the pasteboard may be offered. -/
  valid : ∀ block, sync.back = some block → ∀ text, block.text = some text → validText text = true

/-- A generation fits its field on the wire. -/
theorem Paced.generation_fits {sync : Sync} (paced : Paced sync) : sync.outGeneration < 2 ^ 64 := by
  have budget := paced.budget
  have clock := paced.clock
  have fits := paced.fits
  have least : sync.outGeneration * pollInterval ≤ sync.nextPoll :=
    (Nat.mul_le_mul_right _ (Nat.le_add_right _ _)).trans budget
  unfold pollInterval at least clock
  omega

/-! ### One chunk -/

namespace Receiver

/-- A chunk that continues the assembly, or begins one, is appended. -/
theorem receive_next {limit : Nat} {receiver : Receiver} {frame assembly : List UInt8}
    {chunk : Chunk} (decoded : decode limit frame = some chunk)
    (later : receiver.lastGeneration < chunk.generation)
    (begun : (receiver.begin chunk).assembly = some assembly)
    (generation : (receiver.begin chunk).inGeneration = chunk.generation)
    (total : (receiver.begin chunk).inTotal = chunk.total)
    (follows : chunk.offset = assembly.length) :
    receiver.receive limit frame = (receiver.begin chunk).append chunk assembly := by
  have fresh : ¬chunk.generation ≤ receiver.lastGeneration := by omega
  simp only [receive, decoded, if_neg fresh, begun]
  rw [if_neg (by simp [generation, total, follows])]

end Receiver

/-- The chunk that is sent next. -/
def Sync.chunk (sync : Sync) (text : List UInt8) : Chunk :=
  let count := min eventBytes (text.length - sync.outOffset)
  ⟨sync.outGeneration, text.length, sync.outOffset, sync.outOffset = 0,
    sync.outOffset + count = text.length, (text.drop sync.outOffset).take count⟩

/-- The frame that is sent next is read as its chunk. -/
theorem Current.frame_decoded {sync : Sync} {text : List UInt8} (current : Current sync text)
    (fits : sync.outGeneration < 2 ^ 64) :
    decode eventBytes (sync.frame text) = some (sync.chunk text) := by
  have unfinished := current.unfinished
  have positive : 0 < eventBytes := by decide
  have valid := current.valid
  simp only [validText, Bool.and_eq_true, decide_eq_true_eq] at valid
  generalize count_eq : min eventBytes (text.length - sync.outOffset) = count
  have length : ((text.drop sync.outOffset).take count).length = count := by
    rw [List.length_take, List.length_drop]
    omega
  have decoded : decode eventBytes (header sync.outGeneration text.length sync.outOffset
      ((text.drop sync.outOffset).take count).length ++ (text.drop sync.outOffset).take count) =
        some _ :=
    decode_frame current.positive fits valid.1.2 (by omega) (by omega) (by omega)
  rw [length] at decoded
  rw [Sync.frame, Sync.chunk, count_eq]
  exact decoded

/-- The receiver appends the chunk to what it has assembled. -/
theorem Current.received {sync : Sync} {text : List UInt8} (current : Current sync text)
    (fits : sync.outGeneration < 2 ^ 64) :
    sync.far.receive eventBytes (sync.frame text) =
      (sync.far.begin (sync.chunk text)).append (sync.chunk text) (text.take sync.outOffset) := by
  have unfinished := current.unfinished
  have length : sync.outOffset = (text.take sync.outOffset).length := by
    rw [List.length_take]
    omega
  have decoded := current.frame_decoded fits
  by_cases start : sync.outOffset = 0
  · have begun : sync.far.begin (sync.chunk text) =
        { sync.far with
          assembly := some []
          inGeneration := sync.outGeneration
          inTotal := text.length } := by
      simp [Receiver.begin, Sync.chunk, start]
    refine Receiver.receive_next decoded current.later ?_ ?_ ?_ length
    · simp [begun, start]
    · rw [begun]
      rfl
    · rw [begun]
      rfl
  · obtain ⟨assembly, generation, total⟩ := current.assembling.resolve_left start
    have kept : sync.far.begin (sync.chunk text) = sync.far := by
      simp [Receiver.begin, Sync.chunk, start]
    refine Receiver.receive_next decoded current.later ?_ ?_ ?_ length
    · rw [kept, assembly]
    · rw [kept, generation]
      rfl
    · rw [kept, total]
      rfl

/-- The beginning of an assembly adopts nothing. -/
theorem Receiver.begin_adopted (receiver : Receiver) (chunk : Chunk) :
    (receiver.begin chunk).adopted = receiver.adopted ∧
      (receiver.begin chunk).lastGeneration = receiver.lastGeneration := by
  unfold Receiver.begin
  split <;> exact ⟨rfl, rfl⟩

/-- The assembly of the receiver is of the text that is being sent. -/
theorem Current.begun {sync : Sync} {text : List UInt8} (current : Current sync text) :
    (sync.far.begin (sync.chunk text)).inGeneration = sync.outGeneration ∧
      (sync.far.begin (sync.chunk text)).inTotal = text.length := by
  by_cases start : sync.outOffset = 0
  · simp [Receiver.begin, Sync.chunk, start]
  · obtain ⟨_, generation, total⟩ := current.assembling.resolve_left start
    simp [Receiver.begin, Sync.chunk, start, generation, total]

/-- What has been sent of a text, with its next chunk. -/
theorem take_append_chunk (text : List UInt8) (offset count : Nat) :
    text.take offset ++ (text.drop offset).take count = text.take (offset + count) := by
  rw [List.take_add]

/-- One more chunk on the lane. -/
theorem Agrees.sentChunk {sync : Sync} {text : List UInt8} (agrees : Agrees sync)
    (fits : sync.outGeneration < 2 ^ 64) (outgoing : sync.outgoing = some text) :
    Agrees (sync.sentChunk text) := by
  have current := agrees.current text outgoing
  have unfinished := current.unfinished
  have decoded := current.frame_decoded fits
  have received := current.received fits
  obtain ⟨sameAdopted, sameLast⟩ := Receiver.begin_adopted sync.far (sync.chunk text)
  obtain ⟨generation, total⟩ := current.begun
  have join : text.take sync.outOffset ++ (sync.chunk text).bytes =
      text.take (sync.outOffset + min eventBytes (text.length - sync.outOffset)) :=
    take_append_chunk text _ _
  have accepted (frame : List UInt8) (member : frame ∈ sync.sent ++ [sync.frame text]) :
      (decode eventBytes frame).isSome = true := by
    obtain member | member := List.mem_append.mp member
    · exact agrees.accepted frame member
    · rw [List.mem_singleton.mp member, decoded]
      rfl
  have far (after : Sync) (sent : after.sent = sync.sent ++ [sync.frame text]) :
      after.far = ((sync.far.begin (sync.chunk text)).append (sync.chunk text)
        (text.take sync.outOffset)).2 := by
    rw [Sync.far, sent, Receiver.receiveAll_snoc, ← received]
    rfl
  unfold Sync.sentChunk
  simp only
  split_ifs with ends
  · have last : (sync.chunk text).last = true := by simp [Sync.chunk, ends]
    have appended : ((sync.far.begin (sync.chunk text)).append (sync.chunk text)
        (text.take sync.outOffset)).2 =
        { sync.far.begin (sync.chunk text) with
          lastGeneration := sync.outGeneration
          assembly := none
          adopted := sync.far.adopted ++ [(sync.outGeneration, text)] } := by
      simp only [Receiver.append, join, ends, List.take_length, last, current.valid, sameAdopted]
      rfl
    refine ⟨accepted, agrees.copied, nofun, fun g other member => ?_, ?_, fun g member => ?_,
      fun g member => ⟨(agrees.dropped g member).1, nofun⟩⟩
    · rw [far _ rfl, appended] at member
      obtain member | member := List.mem_append.mp member
      · obtain ⟨positive, known, completed⟩ := agrees.adopted g other member
        exact ⟨positive, known, List.mem_append_left _ completed⟩
      · obtain ⟨rfl, rfl⟩ := Prod.mk.inj (List.mem_singleton.mp member)
        exact ⟨current.positive, current.known, List.mem_append_right _ List.mem_cons_self⟩
    · rw [far _ rfl, appended]
    · obtain member | member := List.mem_append.mp member
      · obtain ⟨earlier, kept, _⟩ := agrees.completed g member
        exact ⟨earlier, kept, nofun⟩
      · obtain rfl := List.mem_singleton.mp member
        refine ⟨le_rfl, fun given => ?_, nofun⟩
        have earlier := (agrees.dropped _ given).2 (by rw [outgoing]; rfl)
        omega
  · have last : (sync.chunk text).last = false := by simp [Sync.chunk, ends]
    have appended : ((sync.far.begin (sync.chunk text)).append (sync.chunk text)
        (text.take sync.outOffset)).2 =
        { sync.far.begin (sync.chunk text) with
          assembly := some (text.take
            (sync.outOffset + min eventBytes (text.length - sync.outOffset))) } := by
      simp only [Receiver.append, join, last]
      rfl
    refine ⟨accepted, agrees.copied, fun other same => ?_, fun g other member => ?_, ?_,
      agrees.completed, agrees.dropped⟩
    · obtain rfl := Option.some.inj (outgoing.symm.trans same)
      refine ⟨current.known, current.positive, current.valid, ?_, ?_, .inr ?_⟩
      · show sync.outOffset + min eventBytes (text.length - sync.outOffset) < text.length
        omega
      · rw [far _ rfl, appended]
        exact sameLast.trans_lt current.later
      · rw [far _ rfl, appended]
        exact ⟨rfl, generation, total⟩
    · rw [far _ rfl, appended] at member
      exact agrees.adopted g other (sameAdopted ▸ member)
    · rw [far _ rfl, appended]
      exact sameLast.trans_le agrees.last

/-! ### One step -/

/-- A change that gives up the outgoing text, and sends nothing. -/
theorem Agrees.give_up {sync after : Sync} (agrees : Agrees sync) (sent : after.sent = sync.sent)
    (copied : after.copied = sync.copied) (generation : after.outGeneration = sync.outGeneration)
    (completed : after.completed = sync.completed) (outgoing : after.outgoing = none)
    (dropped : after.dropped = sync.dropped ++ sync.giveUp) : Agrees after := by
  have far : after.far = sync.far := by rw [Sync.far, sent, Sync.far]
  have given (g : Nat) (member : g ∈ sync.giveUp) :
      g = sync.outGeneration ∧ sync.outgoing.isSome = true := by
    unfold Sync.giveUp at member
    cases text : sync.outgoing with
    | none => simp [text] at member
    | some text => simpa [text] using member
  refine ⟨sent ▸ agrees.accepted, ?_, ?_, ?_, ?_, ?_, ?_⟩
  · rw [copied, generation, agrees.copied]
  · rw [outgoing]
    exact nofun
  · rw [far, copied, completed]
    exact agrees.adopted
  · rw [far, generation]
    exact agrees.last
  · rw [completed, dropped, outgoing, generation]
    intro g member
    obtain ⟨earlier, kept, sending⟩ := agrees.completed g member
    refine ⟨earlier, fun among => ?_, nofun⟩
    obtain among | among := List.mem_append.mp among
    · exact kept among
    · obtain ⟨rfl, some⟩ := given g among
      exact absurd (sending some) (lt_irrefl _)
  · rw [dropped, outgoing, generation]
    intro g member
    refine ⟨?_, nofun⟩
    obtain member | member := List.mem_append.mp member
    · exact (agrees.dropped g member).1
    · exact (given g member).1.le

/-- A change that leaves the sender alone. -/
theorem Agrees.keep {sync after : Sync} (agrees : Agrees sync) (sent : after.sent = sync.sent)
    (copied : after.copied = sync.copied) (generation : after.outGeneration = sync.outGeneration)
    (completed : after.completed = sync.completed) (outgoing : after.outgoing = sync.outgoing)
    (offset : after.outOffset = sync.outOffset) (dropped : after.dropped = sync.dropped) :
    Agrees after := by
  have far : after.far = sync.far := by rw [Sync.far, sent, Sync.far]
  refine ⟨sent ▸ agrees.accepted, ?_, fun text same => ?_, ?_, ?_, ?_, ?_⟩
  · rw [copied, generation, agrees.copied]
  · have current := agrees.current text (outgoing ▸ same)
    refine ⟨?_, ?_, current.valid, ?_, ?_, ?_⟩
    · rw [copied, generation]
      exact current.known
    · rw [generation]
      exact current.positive
    · rw [offset]
      exact current.unfinished
    · rw [far, generation]
      exact current.later
    · rw [far, generation, offset]
      exact current.assembling
  · rw [far, copied, completed]
    exact agrees.adopted
  · rw [far, generation]
    exact agrees.last
  · rw [completed, dropped, outgoing, generation]
    exact agrees.completed
  · rw [dropped, outgoing, generation]
    exact agrees.dropped

/-- The stop gives up the outgoing text. -/
theorem Agrees.stop {sync : Sync} (agrees : Agrees sync) : Agrees sync.stop := by
  unfold Sync.stop
  split
  · exact agrees
  · exact agrees.give_up rfl rfl rfl rfl rfl rfl

/-- The chunks of a tick. -/
theorem Agrees.sendChunks {sync : Sync} (agrees : Agrees sync) (fits : sync.outGeneration < 2 ^ 64)
    (count : Nat) (results : List SendResult) : Agrees (sync.sendChunks count results).2 := by
  induction count generalizing sync results with
  | zero => exact agrees
  | succ count ih =>
    unfold Sync.sendChunks
    cases outgoing : sync.outgoing with
    | none => exact agrees
    | some text =>
      simp only
      cases results.headD .ok with
      | timeout => exact agrees
      | failed => exact agrees
      | ok =>
        refine ih (agrees.sentChunk fits outgoing) ?_ _
        unfold Sync.sentChunk
        simp only
        split <;> exact fits

/-- A new text is read from the pasteboard. -/
theorem Agrees.offer {sync : Sync} (agrees : Agrees sync) {text : List UInt8}
    (valid : validText text = true) :
    Agrees
      { sync with
        back := none
        mainPending := false
        outgoing := some text
        outOffset := 0
        outGeneration := sync.outGeneration + 1
        copied := sync.copied ++ [text]
        dropped := sync.dropped ++ sync.giveUp } := by
  have here : (sync.copied ++ [text])[sync.outGeneration]? = some text := by
    rw [← agrees.copied, List.getElem?_concat_length]
  have given (g : Nat) (member : g ∈ sync.giveUp) :
      g = sync.outGeneration ∧ sync.outgoing.isSome = true := by
    unfold Sync.giveUp at member
    cases outgoing : sync.outgoing with
    | none => simp [outgoing] at member
    | some text => simpa [outgoing] using member
  refine ⟨agrees.accepted, ?_, fun other same => ?_, fun g other member => ?_,
    agrees.last.trans (Nat.le_succ _), fun g member => ?_, fun g member => ?_⟩
  · simp [agrees.copied]
  · obtain rfl := Option.some.inj same
    have nonempty : 0 < text.length := by
      simp only [validText, Bool.and_eq_true, decide_eq_true_eq] at valid
      exact List.length_pos_of_ne_nil valid.1.1
    exact ⟨here, Nat.succ_pos _, valid, nonempty, Nat.lt_succ_of_le agrees.last, .inl rfl⟩
  · obtain ⟨positive, known, completed⟩ := agrees.adopted g other member
    have inside := (List.getElem?_eq_some_iff.mp known).1
    exact ⟨positive, (List.getElem?_append_left inside).trans known, completed⟩
  · obtain ⟨earlier, kept, sending⟩ := agrees.completed g member
    refine ⟨earlier.trans (Nat.le_succ _), fun among => ?_, fun _ => Nat.lt_succ_of_le earlier⟩
    obtain among | among := List.mem_append.mp among
    · exact kept among
    · obtain ⟨rfl, some⟩ := given g among
      exact absurd (sending some) (lt_irrefl _)
  · have earlier : g ≤ sync.outGeneration := by
      obtain member | member := List.mem_append.mp member
      · exact (agrees.dropped g member).1
      · exact (given g member).1.le
    exact ⟨earlier.trans (Nat.le_succ _), fun _ => Nat.lt_succ_of_le earlier⟩

/-! ### The pace of the polls -/

/-- Two states between which nothing was polled. -/
structure SamePace (sync after : Sync) : Prop where
  /-- The poll under way. -/
  pending : after.mainPending = sync.mainPending
  /-- The block on the main queue. -/
  main : after.main = sync.main
  /-- The block on the session's queue. -/
  back : after.back = sync.back
  /-- The generation. -/
  generation : after.outGeneration = sync.outGeneration
  /-- The next poll. -/
  nextPoll : after.nextPoll = sync.nextPoll
  /-- The clock. -/
  clock : after.clock = sync.clock

/-- The pace stays. -/
theorem Paced.same {sync after : Sync} (paced : Paced sync) (same : SamePace sync after) :
    Paced after := by
  obtain ⟨pending, main, back, generation, nextPoll, clock⟩ := same
  refine ⟨?_, ?_, ?_, ?_, ?_, ?_⟩
  · rw [pending, main, back]
    exact paced.pending
  · rw [main, back]
    exact paced.single
  · rw [main, back, generation, nextPoll]
    exact paced.budget
  · rw [nextPoll, clock]
    exact paced.clock
  · rw [clock]
    exact paced.fits
  · rw [back]
    exact paced.valid

/-- The stop polls nothing. -/
theorem stop_samePace (sync : Sync) : SamePace sync sync.stop := by
  unfold Sync.stop
  split <;> exact ⟨rfl, rfl, rfl, rfl, rfl, rfl⟩

/-- The chunks of a tick poll nothing. -/
theorem sendChunks_samePace (sync : Sync) (count : Nat) (results : List SendResult) :
    SamePace sync (sync.sendChunks count results).2 := by
  induction count generalizing sync results with
  | zero => exact ⟨rfl, rfl, rfl, rfl, rfl, rfl⟩
  | succ count ih =>
    unfold Sync.sendChunks
    cases sync.outgoing with
    | none => exact ⟨rfl, rfl, rfl, rfl, rfl, rfl⟩
    | some text =>
      simp only
      cases results.headD .ok with
      | timeout => exact ⟨rfl, rfl, rfl, rfl, rfl, rfl⟩
      | failed => exact ⟨rfl, rfl, rfl, rfl, rfl, rfl⟩
      | ok =>
        have one : SamePace sync (sync.sentChunk text) := by
          unfold Sync.sentChunk
          simp only
          split <;> exact ⟨rfl, rfl, rfl, rfl, rfl, rfl⟩
        obtain ⟨pending, main, back, generation, nextPoll, clock⟩ := ih (sync.sentChunk text) results.tail
        exact ⟨pending.trans one.pending, main.trans one.main, back.trans one.back,
          generation.trans one.generation, nextPoll.trans one.nextPoll, clock.trans one.clock⟩

/-- A poll waits for the interval, unless it brings a text of the peer. -/
theorem Paced.poll {sync : Sync} (paced : Paced sync) : Paced (sync.poll sync.clock) := by
  unfold Sync.poll
  split
  · exact paced
  · rename_i due
    obtain ⟨idle, waited⟩ := not_or.mp due
    obtain ⟨main, back⟩ := paced.pending (Bool.eq_false_of_not_eq_true idle)
    have budget := paced.budget
    have clock := paced.clock
    simp only [main, back, Option.any_none, Bool.false_eq_true, or_self, if_false, add_zero]
      at budget
    refine ⟨nofun, fun _ => back, ?_, le_rfl, paced.fits, by simp [back]⟩
    simp only [back, Option.any_some, Option.any_none, Bool.false_eq_true, or_false,
      decide_eq_true_eq]
    split
    · rename_i local_poll
      have late : sync.nextPoll ≤ sync.clock := by
        by_contra early
        exact waited ⟨local_poll, by omega⟩
      rw [Nat.add_mul, Nat.one_mul]
      omega
    · rw [Nat.add_zero]
      omega

/-! ### Runs -/

/-- What holds of a clipboard between steps. -/
structure Sound (sync : Sync) : Prop where
  /-- The receiver agrees with the sender. -/
  agrees : Agrees sync
  /-- The polls are paced. -/
  paced : Paced sync
  /-- What was assembled and adopted of the peer's texts. -/
  collected : sync.receiver.Collected sync.received

/-- The stop. -/
theorem Sound.stop {sync : Sync} (sound : Sound sync) : Sound sync.stop := by
  refine ⟨sound.agrees.stop, sound.paced.same (stop_samePace sync), ?_⟩
  unfold Sync.stop
  split
  · exact sound.collected
  · exact ⟨nofun, sound.collected.adopted, sound.collected.increasing, sound.collected.last⟩

/-- The chunks of a tick leave the receiving side alone. -/
theorem sendChunks_receiver (sync : Sync) (count : Nat) (results : List SendResult) :
    (sync.sendChunks count results).2.receiver = sync.receiver ∧
      (sync.sendChunks count results).2.received = sync.received := by
  induction count generalizing sync results with
  | zero => exact ⟨rfl, rfl⟩
  | succ count ih =>
    unfold Sync.sendChunks
    cases sync.outgoing with
    | none => exact ⟨rfl, rfl⟩
    | some text =>
      simp only
      cases results.headD .ok with
      | timeout => exact ⟨rfl, rfl⟩
      | failed => exact ⟨rfl, rfl⟩
      | ok =>
        obtain ⟨receiver, received⟩ := ih (sync.sentChunk text) results.tail
        have one : (sync.sentChunk text).receiver = sync.receiver ∧
            (sync.sentChunk text).received = sync.received := by
          unfold Sync.sentChunk
          simp only
          split <;> exact ⟨rfl, rfl⟩
        exact ⟨receiver.trans one.1, received.trans one.2⟩

/-- The chunks of a tick. -/
theorem Sound.sendChunks {sync : Sync} (sound : Sound sync) (count : Nat)
    (results : List SendResult) : Sound (sync.sendChunks count results).2 := by
  obtain ⟨receiver, received⟩ := sendChunks_receiver sync count results
  refine ⟨sound.agrees.sendChunks sound.paced.generation_fits count results,
    sound.paced.same (sendChunks_samePace sync count results), ?_⟩
  rw [receiver, received]
  exact sound.collected

/-- A poll. -/
theorem Sound.poll {sync : Sync} (sound : Sound sync) : Sound (sync.poll sync.clock) := by
  refine ⟨?_, sound.paced.poll, ?_⟩
  · unfold Sync.poll
    split
    · exact sound.agrees
    · exact sound.agrees.keep rfl rfl rfl rfl rfl rfl rfl
  · unfold Sync.poll
    split <;> exact sound.collected

/-- A tick. -/
theorem Sound.tick {sync : Sync} (sound : Sound sync) (allowed : Bool)
    (results : List SendResult) : Sound (sync.tick allowed results sync.clock) := by
  unfold Sync.tick
  split
  · exact sound.stop
  · have sent := sound.sendChunks 2 results
    have clock := (sendChunks_samePace sync 2 results).clock
    cases outcome : sync.sendChunks 2 results with
    | mk result after =>
      rw [outcome] at sent clock
      cases result with
      | false => exact sent.stop
      | true =>
        show Sound (after.poll sync.clock)
        rw [← clock]
        exact sent.poll

/-- A frame of the peer. -/
theorem Sound.receive {sync : Sync} (sound : Sound sync) (frame : List UInt8)
    (allowed tickAllowed : Bool) : Sound (sync.receive frame allowed tickAllowed sync.clock) := by
  have collected := sound.collected.receive inputBytes frame
  unfold Sync.receive
  split
  · exact sound
  · cases outcome : sync.receiver.receive inputBytes frame with
    | mk result receiver =>
      rw [outcome] at collected
      have paced (after : Sync) (same : SamePace sync after) := sound.paced.same same
      cases result with
      | refused =>
        exact ⟨sound.agrees.keep rfl rfl rfl rfl rfl rfl rfl,
          paced _ ⟨rfl, rfl, rfl, rfl, rfl, rfl⟩, collected⟩
      | taken =>
        exact ⟨sound.agrees.keep rfl rfl rfl rfl rfl rfl rfl,
          paced _ ⟨rfl, rfl, rfl, rfl, rfl, rfl⟩, collected⟩
      | adopted text =>
        have adopted : Sound
            { sync with
              receiver := receiver
              received := sync.received ++ (decode inputBytes frame).toList
              pendingRemote := some text
              revision := sync.revision + 1
              outgoing := none
              outOffset := 0
              dropped := sync.dropped ++ sync.giveUp } :=
          ⟨sound.agrees.give_up rfl rfl rfl rfl rfl rfl,
            paced _ ⟨rfl, rfl, rfl, rfl, rfl, rfl⟩, collected⟩
        exact adopted.tick tickAllowed []

/-- The block on the main queue. -/
theorem Sound.mainRun {sync after : Sync} (sound : Sound sync) {allowed : Bool}
    {board : Option (List UInt8)} (ran : sync.mainRun allowed board = some after) :
    Sound after := by
  obtain ⟨block, queued, rfl⟩ := Option.map_eq_some_iff.mp ran
  refine ⟨sound.agrees.keep rfl rfl rfl rfl rfl rfl rfl, ?_, sound.collected⟩
  have single := sound.paced.single (by simp [queued])
  have busy : sync.mainPending = true := by
    by_contra idle
    have none := (sound.paced.pending (Bool.eq_false_of_not_eq_true idle)).1
    simp [queued] at none
  have budget := sound.paced.budget
  simp only [queued, single, Option.any_some, Option.any_none, Bool.false_eq_true, or_false,
    decide_eq_true_eq] at budget
  refine ⟨fun idle => ?_, fun given => absurd rfl given, ?_, sound.paced.clock, sound.paced.fits, ?_⟩
  · simp [busy] at idle
  · simp only [Option.any_some, Option.any_none, Bool.false_eq_true, false_or, decide_eq_true_eq]
    by_cases read : block.text = none
    · rw [if_pos read] at budget
      refine le_trans (Nat.mul_le_mul_right _ (Nat.add_le_add_left ?_ _)) budget
      split_ifs <;> omega
    · rw [if_neg read] at budget
      rw [if_neg (by simp [read])]
      exact budget
  · intro other same text found
    obtain rfl := Option.some.inj same
    simp only at found
    split_ifs at found
    exact (Option.filter_eq_some_iff.mp found).2

/-- The block on the session's queue. -/
theorem Sound.backRun {sync after : Sync} (sound : Sound sync) {allowed : Bool}
    (ran : sync.backRun allowed = some after) : Sound after := by
  obtain ⟨block, queued, rfl⟩ := Option.map_eq_some_iff.mp ran
  have main : sync.main = none := by
    by_contra running
    simpa [queued] using sound.paced.single running
  have budget := sound.paced.budget
  simp only [queued, main, Option.any_some, Option.any_none, Bool.false_eq_true, false_or,
    decide_eq_true_eq] at budget
  have ended : Sound { sync with back := none, mainPending := false } := by
    refine ⟨sound.agrees.keep rfl rfl rfl rfl rfl rfl rfl, ?_, sound.collected⟩
    refine ⟨fun _ => ⟨main, rfl⟩, fun _ => rfl, ?_, sound.paced.clock, sound.paced.fits, nofun⟩
    simp only [main, Option.any_none, Bool.false_eq_true, or_self, if_false, add_zero]
    exact (Nat.mul_le_mul_right _ (Nat.le_add_right _ _)).trans budget
  simp only
  split
  · exact ended
  · cases text : block.text with
    | none => exact ended
    | some text_read =>
      simp only
      split
      · have valid := sound.paced.valid block queued text_read text
        refine ⟨sound.agrees.offer valid, ?_, sound.collected⟩
        refine ⟨fun _ => ⟨main, rfl⟩, fun _ => rfl, ?_, sound.paced.clock, sound.paced.fits, nofun⟩
        simp only [main, Option.any_none, Bool.false_eq_true, or_self, if_false, add_zero]
        rw [if_pos (by simp [text])] at budget
        exact budget
      · exact ended

/-! ### The lane -/

/-- More frames on the lane. -/
def Grows (sync after : Sync) : Prop := ∃ more, after.sent = sync.sent ++ more

/-- The stop sends nothing. -/
theorem stop_sent (sync : Sync) : sync.stop.sent = sync.sent := by
  unfold Sync.stop
  split <;> rfl

/-- The chunks of a tick go on the lane. -/
theorem sendChunks_grows (sync : Sync) (count : Nat) (results : List SendResult) :
    Grows sync (sync.sendChunks count results).2 := by
  induction count generalizing sync results with
  | zero => exact ⟨[], (List.append_nil _).symm⟩
  | succ count ih =>
    unfold Sync.sendChunks
    cases sync.outgoing with
    | none => exact ⟨[], (List.append_nil _).symm⟩
    | some text =>
      simp only
      cases results.headD .ok with
      | timeout => exact ⟨[], (List.append_nil _).symm⟩
      | failed => exact ⟨[], (List.append_nil _).symm⟩
      | ok =>
        obtain ⟨more, grown⟩ := ih (sync.sentChunk text) results.tail
        have one : (sync.sentChunk text).sent = sync.sent ++ [sync.frame text] := by
          unfold Sync.sentChunk
          simp only
          split <;> rfl
        exact ⟨[sync.frame text] ++ more, by rw [grown, one, List.append_assoc]⟩

/-- A tick only adds to the lane. -/
theorem tick_grows (sync : Sync) (allowed : Bool) (results : List SendResult) (now : Nat) :
    Grows sync (sync.tick allowed results now) := by
  unfold Sync.tick
  split
  · exact ⟨[], by rw [stop_sent, List.append_nil]⟩
  · have grows := sendChunks_grows sync 2 results
    cases outcome : sync.sendChunks 2 results with
    | mk result after =>
      rw [outcome] at grows
      obtain ⟨more, grown⟩ := grows
      cases result with
      | false => exact ⟨more, by rw [stop_sent, grown]⟩
      | true =>
        refine ⟨more, ?_⟩
        show (after.poll now).sent = _
        unfold Sync.poll
        split <;> exact grown

/-- A frame of the peer puts nothing on the lane. -/
theorem receive_grows (sync : Sync) (frame : List UInt8) (allowed tickAllowed : Bool) (now : Nat) :
    Grows sync (sync.receive frame allowed tickAllowed now) := by
  unfold Sync.receive
  split
  · exact ⟨[], (List.append_nil _).symm⟩
  · cases outcome : sync.receiver.receive inputBytes frame with
    | mk result receiver =>
      cases result with
      | refused => exact ⟨[], (List.append_nil _).symm⟩
      | taken => exact ⟨[], (List.append_nil _).symm⟩
      | adopted text => exact tick_grows _ tickAllowed [] now

/-- A receiver never takes back what it has adopted. -/
theorem Receiver.receive_adopted (limit : Nat) (receiver : Receiver) (frame : List UInt8) :
    ∃ more, (receiver.receive limit frame).2.adopted = receiver.adopted ++ more := by
  unfold Receiver.receive
  cases decode limit frame with
  | none => exact ⟨[], (List.append_nil _).symm⟩
  | some chunk =>
    simp only
    split_ifs
    · exact ⟨[], (List.append_nil _).symm⟩
    · obtain ⟨same, _⟩ := receiver.begin_adopted chunk
      cases (receiver.begin chunk).assembly with
      | none => exact ⟨[], by rw [same, List.append_nil]⟩
      | some assembly =>
        simp only
        split_ifs
        · exact ⟨[], by rw [same, List.append_nil]⟩
        · unfold Receiver.append
          simp only
          split_ifs
          · exact ⟨[], by rw [same, List.append_nil]⟩
          · exact ⟨[], by rw [same, List.append_nil]⟩
          · exact ⟨[_], by rw [same]⟩

/-- More frames adopt more texts. -/
theorem Receiver.receiveAll_adopted (limit : Nat) (frames more : List (List UInt8)) :
    ∃ texts, (receiveAll limit (frames ++ more)).adopted =
      (receiveAll limit frames).adopted ++ texts := by
  induction more using List.reverseRecOn with
  | nil => exact ⟨[], by rw [List.append_nil, List.append_nil]⟩
  | append_singleton rest frame ih =>
    obtain ⟨texts, adopted⟩ := ih
    obtain ⟨one, again⟩ := (receiveAll limit (frames ++ rest)).receive_adopted limit frame
    exact ⟨texts ++ one, by
      rw [← List.append_assoc, receiveAll_snoc, again, adopted, List.append_assoc]⟩

namespace Link

/-- What holds of a link between steps. -/
structure Sound (link : Link) : Prop where
  /-- The clipboard. -/
  sync : Clipboard.Sound link.sync
  /-- The far end has taken the frames that have arrived. -/
  peer : link.peer = Receiver.receiveAll eventBytes (link.sync.sent.take link.delivered)
  /-- No more arrive than were sent. -/
  delivered : link.delivered ≤ link.sync.sent.length

/-- A step of the clipboard. -/
theorem Sound.sync_step {link : Link} (sound : link.Sound) {after : Sync}
    (next : Clipboard.Sound after) (grows : Grows link.sync after) :
    Sound { link with sync := after } := by
  obtain ⟨more, grown⟩ := grows
  refine ⟨next, ?_, ?_⟩
  · show link.peer = Receiver.receiveAll eventBytes (after.sent.take link.delivered)
    rw [grown, List.take_append_of_le_length sound.delivered]
    exact sound.peer
  · show link.delivered ≤ after.sent.length
    rw [grown, List.length_append]
    exact sound.delivered.trans (Nat.le_add_right _ _)

/-- The clock of a clipboard goes on. -/
theorem clock_goes_on {sync : Sync} (sound : Clipboard.Sound sync) {now : UInt64}
    (later : ¬now.toNat < sync.clock) : Clipboard.Sound { sync with clock := now.toNat } := by
  have clock := sound.paced.clock
  refine ⟨sound.agrees.keep rfl rfl rfl rfl rfl rfl rfl, ?_, sound.collected⟩
  refine ⟨sound.paced.pending, sound.paced.single, sound.paced.budget, ?_, now.toNat_lt,
    sound.paced.valid⟩
  show sync.nextPoll ≤ now.toNat + pollInterval
  omega

/-- Every step. -/
theorem sound_preserved : system.Preserves Sound := by
  intro before action after sound stepped
  cases action with
  | tick allowed results now =>
    obtain ⟨later, stepped⟩ := Option.ite_none_left_eq_some.mp stepped
    obtain rfl := Option.some.inj stepped
    exact sound.sync_step ((clock_goes_on sound.sync later).tick allowed results)
      (tick_grows { before.sync with clock := now.toNat } allowed results now.toNat)
  | receive frame allowed tickAllowed now =>
    obtain ⟨later, stepped⟩ := Option.ite_none_left_eq_some.mp stepped
    obtain rfl := Option.some.inj stepped
    exact sound.sync_step ((clock_goes_on sound.sync later).receive frame allowed tickAllowed)
      (receive_grows { before.sync with clock := now.toNat } frame allowed tickAllowed now.toNat)
  | mainRun allowed board =>
    obtain ⟨sync, ran, rfl⟩ := Option.map_eq_some_iff.mp stepped
    refine sound.sync_step (sound.sync.mainRun ran) ⟨[], ?_⟩
    obtain ⟨block, _, rfl⟩ := Option.map_eq_some_iff.mp ran
    exact (List.append_nil _).symm
  | backRun allowed =>
    obtain ⟨sync, ran, rfl⟩ := Option.map_eq_some_iff.mp stepped
    refine sound.sync_step (sound.sync.backRun ran) ⟨[], ?_⟩
    obtain ⟨block, _, rfl⟩ := Option.map_eq_some_iff.mp ran
    rw [List.append_nil]
    simp only
    split
    · rfl
    · cases block.text with
      | none => rfl
      | some text =>
        simp only
        split <;> rfl
  | stop =>
    obtain rfl := Option.some.inj stepped
    exact sound.sync_step sound.sync.stop ⟨[], by rw [stop_sent, List.append_nil]⟩
  | deliver =>
    obtain ⟨frame, there, rfl⟩ := Option.map_eq_some_iff.mp stepped
    obtain ⟨inside, here⟩ := List.getElem?_eq_some_iff.mp there
    refine ⟨sound.sync, ?_, inside⟩
    show (before.peer.receive eventBytes frame).2 =
      Receiver.receiveAll eventBytes (before.sync.sent.take (before.delivered + 1))
    rw [List.take_succ_eq_append_getElem inside, here, Receiver.receiveAll_snoc, sound.peer]

/-- Every reachable link. -/
theorem sound {link : Link} (reachable : system.Reachable link) : link.Sound := by
  refine sound_preserved.reachable ?_ reachable
  rintro state rfl
  refine ⟨⟨⟨nofun, rfl, nofun, nofun, le_rfl, nofun, nofun⟩, ?_, Receiver.collected_start⟩, rfl,
    le_rfl⟩
  exact ⟨fun _ => ⟨rfl, rfl⟩, fun _ => rfl, by decide, by decide, by decide, nofun⟩

/-- What holds of the texts that were adopted, at either end. -/
structure Integrity (link : Link) : Prop where
  /-- Every frame on the lane passes the checks of its receiver. -/
  accepted : ∀ frame ∈ link.sync.sent, ∃ chunk, decode eventBytes frame = some chunk
  /-- Every text adopted at the far end is one snapshot of the sender, whole and valid. -/
  snapshots : ∀ generation text, (generation, text) ∈ link.peer.adopted →
    0 < generation ∧ link.sync.copied[generation - 1]? = some text ∧
      (validText text = true ∧ Utf8 text) ∧
      Receiver.Joined (link.sync.sent.filterMap (decode eventBytes)) generation text.length text
  /-- Their generations increase. -/
  increasing : (link.peer.adopted.map Prod.fst).Pairwise (· < ·)
  /-- A snapshot given up half-way is never adopted. -/
  dropped : ∀ generation ∈ link.sync.dropped, ∀ text, (generation, text) ∉ link.peer.adopted
  /-- Whatever frames the peer sends, every text adopted of them is the contiguous join of chunks of
  one generation, from offset 0 to their total, and valid text. -/
  adversarial : ∀ generation text, (generation, text) ∈ link.sync.receiver.adopted →
    Receiver.Joined link.sync.received generation text.length text ∧
      validText text = true ∧ Utf8 text
  /-- Their generations increase too. -/
  adversarialIncreasing : (link.sync.receiver.adopted.map Prod.fst).Pairwise (· < ·)

/-- In every order of ticks, blocks, frames of the peer and arrivals. -/
theorem reachable_integrity {link : Link} (reachable : system.Reachable link) :
    link.Integrity := by
  have sound := sound reachable
  obtain ⟨agrees, paced, collected⟩ := sound.sync
  have far : ∃ texts, link.sync.far.adopted = link.peer.adopted ++ texts := by
    have grown := Receiver.receiveAll_adopted eventBytes (link.sync.sent.take link.delivered)
      (link.sync.sent.drop link.delivered)
    rwa [List.take_append_drop, ← sound.peer] at grown
  obtain ⟨texts, grown⟩ := far
  have among (generation : Nat) (text : List UInt8) (member : (generation, text) ∈ link.peer.adopted) :
      (generation, text) ∈ link.sync.far.adopted := by
    rw [grown]
    exact List.mem_append_left texts member
  have whole := Receiver.receiveAll_collected eventBytes link.sync.sent
  have arrived := Receiver.receiveAll_collected eventBytes (link.sync.sent.take link.delivered)
  rw [← sound.peer] at arrived
  refine ⟨fun frame member => ?_, fun generation text member => ?_, arrived.increasing,
    fun generation given text member => ?_, fun generation text member => ?_, collected.increasing⟩
  · exact Option.isSome_iff_exists.mp (agrees.accepted frame member)
  · obtain ⟨positive, known, _⟩ := agrees.adopted generation text (among generation text member)
    obtain ⟨joined, valid⟩ := whole.adopted generation text (among generation text member)
    exact ⟨positive, known, ⟨valid, utf8_of_validText valid⟩, joined⟩
  · have completed := (agrees.adopted generation text (among generation text member)).2.2
    exact (agrees.completed generation completed).2.1 given
  · obtain ⟨joined, valid⟩ := collected.adopted generation text member
    exact ⟨joined, valid, utf8_of_validText valid⟩

/-- A text is read from the pasteboard, waits for the lane once, and arrives. -/
def sampleActions : List LinkAction :=
  [.tick true [] 250000000, .mainRun true (some [0x68, 0x69]), .backRun true,
    .tick true [.timeout] 250000001, .tick true [.ok] 500000000, .deliver]

/-- The link after these steps. -/
def sampleLink : Link := (system.run {} sampleActions).getD {}

/-- The text has arrived as it was sent, and the law of the link holds. -/
theorem sampleLink_integrity :
    sampleLink.peer.adopted = [(1, [0x68, 0x69])] ∧ sampleLink.Integrity := by
  have ran : system.run {} sampleActions = some sampleLink := by rfl
  exact ⟨by rfl, reachable_integrity (Transition.System.reachable_of_run rfl ran)⟩

end Link

end Plank.Clipboard
