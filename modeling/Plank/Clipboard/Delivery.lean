import Plank.Clipboard.Transfer

/-!
# The delivery of clipboard texts

Nothing that goes on the lane is lost, so an outgoing text arrives once the lane has taken the
eleven chunks of the longest one, unless it is given up.
-/

namespace Plank.Clipboard

/-- The far end has adopted a text, or is owed at most this many chunks of it, unless the text was
given up. -/
def Owed (sync : Sync) (generation : Nat) (text : List UInt8) (chunks : Nat) : Prop :=
  generation ∈ sync.dropped ∨ (generation, text) ∈ sync.far.adopted ∨
    sync.stopped = false ∧ sync.outgoing = some text ∧ sync.outGeneration = generation ∧
      text.length - sync.outOffset ≤ chunks * eventBytes

variable {sync after : Sync} {generation chunks left : Nat} {text : List UInt8}

/-- What does not touch the text. -/
theorem Owed.keep (owed : Owed sync generation text chunks) (dropped : after.dropped = sync.dropped)
    (sent : after.sent = sync.sent) (stopped : after.stopped = sync.stopped)
    (outgoing : after.outgoing = sync.outgoing) (same : after.outGeneration = sync.outGeneration)
    (offset : after.outOffset = sync.outOffset) : Owed after generation text chunks := by
  unfold Owed Sync.far
  rw [dropped, sent, stopped, outgoing, same, offset]
  exact owed

/-- What gives the outgoing text up. -/
theorem Owed.give_up (owed : Owed sync generation text chunks) (sent : after.sent = sync.sent)
    (dropped : after.dropped = sync.dropped ++ sync.giveUp) :
    Owed after generation text left := by
  unfold Owed Sync.far
  rw [sent, dropped]
  rcases owed with given | adopted | ⟨-, mine, rfl, -⟩
  · exact .inl (List.mem_append_left _ given)
  · exact .inr (.inl adopted)
  · apply Or.inl
    apply List.mem_append_right
    simp [Sync.giveUp, mine]

/-- The stop. -/
theorem Owed.stop (owed : Owed sync generation text chunks) :
    Owed sync.stop generation text left := by
  unfold Sync.stop
  split
  · next stopped =>
      refine owed.imp_right (.imp_right fun pending => ?_)
      have runs := stopped.symm.trans pending.1
      contradiction
  · exact owed.give_up rfl rfl

/-- The last chunk of a text is adopted with the whole of it. -/
theorem Current.adopts (current : Current sync text) (fits : sync.outGeneration < 2 ^ 64)
    (ends : sync.outOffset + min eventBytes (text.length - sync.outOffset) = text.length) :
    (sync.outGeneration, text) ∈ (sync.sentChunk text).far.adopted := by
  have sent : (sync.sentChunk text).sent = sync.sent ++ [sync.frame text] := by
    unfold Sync.sentChunk
    simp only
    split <;> rfl
  have last : (sync.chunk text).last = true := by simp [Sync.chunk, ends]
  have whole : text.take sync.outOffset ++ (sync.chunk text).bytes = text := by
    apply (take_append_chunk text _ _).trans
    rw [ends, List.take_length]
  have far : (sync.sentChunk text).far = (sync.far.receive eventBytes (sync.frame text)).2 := by
    rw [Sync.far, sent, Receiver.receiveAll_snoc]
    rfl
  rw [far, current.received fits]
  simp only [Receiver.append, whole, last, current.valid]
  exact List.mem_append_right _ List.mem_cons_self

/-- What was adopted stays so while more goes on the lane. -/
theorem adopted_grows (grows : Grows sync after) (member : (generation, text) ∈ sync.far.adopted) :
    (generation, text) ∈ after.far.adopted := by
  obtain ⟨more, grown⟩ := grows
  obtain ⟨texts, adopted⟩ := Receiver.receiveAll_adopted eventBytes sync.sent more
  rw [Sync.far, grown, adopted]
  exact List.mem_append_left texts member

/-- One chunk less is owed. -/
theorem Owed.sentChunk (owed : Owed sync generation text (chunks + 1)) (agrees : Agrees sync)
    (fits : sync.outGeneration < 2 ^ 64) {current : List UInt8}
    (outgoing : sync.outgoing = some current) :
    Owed (sync.sentChunk current) generation text chunks := by
  have sent : (sync.sentChunk current).sent = sync.sent ++ [sync.frame current] ∧
      (sync.sentChunk current).dropped = sync.dropped := by
    unfold Sync.sentChunk
    simp only
    split <;> exact ⟨rfl, rfl⟩
  rcases owed with given | adopted | ⟨runs, mine, rfl, left⟩
  · exact .inl (sent.2 ▸ given)
  · exact .inr (.inl (adopted_grows ⟨_, sent.1⟩ adopted))
  · obtain rfl := Option.some.inj (outgoing.symm.trans mine)
    have standing := agrees.current current outgoing
    by_cases ends : sync.outOffset + min eventBytes (current.length - sync.outOffset) =
        current.length
    · exact .inr (.inl (standing.adopts fits ends))
    · have unfinished := standing.unfinished
      rw [Nat.add_mul, Nat.one_mul] at left
      have same : sync.sentChunk current = { sync with
          sent := sync.sent ++ [sync.frame current]
          outOffset := sync.outOffset + min eventBytes (current.length - sync.outOffset) } := by
        unfold Sync.sentChunk
        exact if_neg ends
      rw [same]
      refine .inr (.inr ⟨runs, outgoing, rfl, ?_⟩)
      show current.length - (sync.outOffset + min eventBytes (current.length - sync.outOffset)) ≤ _
      omega

/-- How many of a tick's chunks the lane would take. -/
def taken : Nat → List SendResult → Nat
  | 0, _ => 0
  | count + 1, results => if results.headD .ok = .ok then taken count results.tail + 1 else 0

/-- The chunks of a tick. -/
theorem Owed.sendChunks (count : Nat) {results : List SendResult}
    (owed : Owed sync generation text (chunks + taken count results)) (agrees : Agrees sync)
    (fits : sync.outGeneration < 2 ^ 64) :
    Owed (sync.sendChunks count results).2 generation text chunks := by
  induction count generalizing sync results with
  | zero => exact owed
  | succ count ih =>
    unfold Sync.sendChunks
    unfold taken at owed
    cases outgoing : sync.outgoing with
    | none =>
      refine owed.imp_right (.imp_right fun pending => ?_)
      have mine := outgoing.symm.trans pending.2.1
      contradiction
    | some current =>
      simp only
      cases head : results.headD .ok with
      | timeout => rwa [head, if_neg (by decide)] at owed
      | failed => rwa [head, if_neg (by decide)] at owed
      | ok =>
        rw [if_pos head] at owed
        have same : (sync.sentChunk current).outGeneration = sync.outGeneration := by
          unfold Sync.sentChunk
          simp only
          split <;> rfl
        exact ih (owed.sentChunk agrees fits outgoing) (agrees.sentChunk fits outgoing)
          (by rw [same]; exact fits)

/-- A tick. -/
theorem Owed.tick {results : List SendResult}
    (owed : Owed sync generation text (chunks + taken 2 results)) (agrees : Agrees sync)
    (fits : sync.outGeneration < 2 ^ 64) (allowed : Bool) (now : Nat) :
    Owed (sync.tick allowed results now) generation text chunks := by
  have later := owed.sendChunks 2 agrees fits
  unfold Sync.tick
  split
  · exact owed.stop
  · cases outcome : sync.sendChunks 2 results with
    | mk result next =>
      rw [outcome] at later
      cases result with
      | false => exact later.stop
      | true =>
        show Owed (next.poll now) generation text chunks
        unfold Sync.poll
        split
        · exact later
        · exact later.keep rfl rfl rfl rfl rfl rfl

/-- A frame of the peer. -/
theorem Owed.receive (owed : Owed sync generation text chunks) (agrees : Agrees sync)
    (fits : sync.outGeneration < 2 ^ 64) (frame : List UInt8) (allowed tickAllowed : Bool)
    (now : Nat) : Owed (sync.receive frame allowed tickAllowed now) generation text chunks := by
  unfold Sync.receive
  split
  · exact owed
  · cases sync.receiver.receive inputBytes frame with
    | mk result receiver =>
      cases result with
      | adopted other =>
        apply Owed.tick
        · exact owed.give_up rfl rfl
        · exact agrees.give_up rfl rfl rfl rfl rfl rfl
        · exact fits
      | _ => exact owed.keep rfl rfl rfl rfl rfl rfl

/-- The block on the session's queue. -/
theorem Owed.backRun (owed : Owed sync generation text chunks) {allowed : Bool}
    (ran : sync.backRun allowed = some after) : Owed after generation text chunks := by
  obtain ⟨block, -, rfl⟩ := Option.map_eq_some_iff.mp ran
  simp only
  split
  · exact owed.keep rfl rfl rfl rfl rfl rfl
  · cases block.text with
    | none => exact owed.keep rfl rfl rfl rfl rfl rfl
    | some read =>
      simp only
      split
      · exact owed.give_up rfl rfl
      · exact owed.keep rfl rfl rfl rfl rfl rfl

namespace Link

/-- How many chunks the lane would take of a step. -/
def room : LinkAction → Nat
  | .tick _ results _ => taken 2 results
  | _ => 0

/-- Steps in any order. -/
theorem owed_run {link after : Link} {actions : List LinkAction} (sound : link.Sound)
    (owed : Owed link.sync generation text (chunks + (actions.map room).sum))
    (ran : system.run link actions = some after) : Owed after.sync generation text chunks := by
  induction actions generalizing link with
  | nil =>
    obtain rfl := Option.some.inj ran
    exact owed
  | cons action rest ih =>
    obtain ⟨next, stepped, remaining⟩ := Option.bind_eq_some_iff.mp ran
    refine ih (sound_preserved _ _ _ sound stepped) ?_ remaining
    have agrees := sound.sync.agrees
    have fits := sound.sync.paced.generation_fits
    rw [List.map_cons, List.sum_cons, Nat.add_comm (room action), ← Nat.add_assoc] at owed
    cases action with
    | tick allowed results now =>
      obtain ⟨-, same⟩ := Option.ite_none_left_eq_some.mp stepped
      obtain rfl := Option.some.inj same
      have kept : Owed { link.sync with clock := now.toNat } generation text _ :=
        owed.keep rfl rfl rfl rfl rfl rfl
      exact kept.tick (agrees.keep rfl rfl rfl rfl rfl rfl rfl) fits allowed _
    | receive frame allowed tickAllowed now =>
      obtain ⟨-, same⟩ := Option.ite_none_left_eq_some.mp stepped
      obtain rfl := Option.some.inj same
      have kept : Owed { link.sync with clock := now.toNat } generation text _ :=
        owed.keep rfl rfl rfl rfl rfl rfl
      exact kept.receive (agrees.keep rfl rfl rfl rfl rfl rfl rfl) fits frame allowed _ _
    | mainRun allowed board =>
      obtain ⟨sync, ran, rfl⟩ := Option.map_eq_some_iff.mp stepped
      obtain ⟨block, -, rfl⟩ := Option.map_eq_some_iff.mp ran
      exact owed.keep rfl rfl rfl rfl rfl rfl
    | backRun allowed =>
      obtain ⟨sync, ran, rfl⟩ := Option.map_eq_some_iff.mp stepped
      exact owed.backRun ran
    | stop =>
      obtain rfl := Option.some.inj stepped
      exact owed.stop
    | deliver =>
      obtain ⟨frame, -, rfl⟩ := Option.map_eq_some_iff.mp stepped
      exact owed

/-- Once the lane has taken eleven chunks and they have arrived, so has an outgoing text, unless it
was given up, in every order of steps. -/
theorem text_arrives {link after : Link} {actions : List LinkAction}
    (reachable : system.Reachable link) (runs : link.sync.stopped = false)
    (outgoing : link.sync.outgoing = some text) (ran : system.run link actions = some after)
    (enough : 11 ≤ (actions.map room).sum) (arrived : after.delivered = after.sync.sent.length) :
    link.sync.outGeneration ∈ after.sync.dropped ∨
      (link.sync.outGeneration, text) ∈ after.peer.adopted := by
  have sound := sound reachable
  have valid := (sound.sync.agrees.current text outgoing).valid
  have short : text.length ≤ textLimit := by
    simp only [validText, Bool.and_eq_true, decide_eq_true_eq] at valid
    exact valid.1.2
  have owed : Owed link.sync link.sync.outGeneration text (0 + (actions.map room).sum) := by
    refine .inr (.inr ⟨runs, outgoing, rfl, ?_⟩)
    unfold textLimit at short
    unfold eventBytes
    omega
  have ends := Link.sound (reachable.trans (Transition.System.reaches_of_run ran))
  have far : after.peer = after.sync.far := by
    rw [ends.peer, arrived, List.take_length]
    rfl
  rw [far]
  rcases owed_run sound owed ran with given | adopted | ⟨-, mine, -, left⟩
  · exact .inl given
  · exact .inr adopted
  · -- Of an outgoing text something is always left.
    have unfinished := (ends.sync.agrees.current text mine).unfinished
    omega

/-- A text is read from the pasteboard. -/
def sampleRead : List LinkAction :=
  [.tick true [] 250000000, .mainRun true (some [0x68, 0x69]), .backRun true]

/-- The link then. -/
def sampleOffer : Link := (system.run {} sampleRead).getD {}

/-- The lane takes it the second time. -/
def sampleTaken : List LinkAction := .tick true [.timeout] 250000001 ::
  List.replicate 6 (.tick true [.ok] 250000001) ++ [.deliver]

/-- The link at last. -/
def sampleArrived : Link := (system.run sampleOffer sampleTaken).getD {}

/-- It arrives, and was not given up. -/
theorem sample_arrives : (1, [0x68, 0x69]) ∈ sampleArrived.peer.adopted := by
  have read : system.run {} sampleRead = some sampleOffer := by rfl
  have ran : system.run sampleOffer sampleTaken = some sampleArrived := by rfl
  have kept : sampleArrived.sync.dropped = [] := by rfl
  have either := text_arrives (Transition.System.reachable_of_run rfl read) rfl rfl ran
    (by decide) (by rfl)
  exact either.resolve_left (kept ▸ List.not_mem_nil)

end Link

end Plank.Clipboard
