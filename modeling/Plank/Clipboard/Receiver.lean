import Plank.Clipboard.Wire

/-!
# The receiver of clipboard frames

The assembly of one text at a time from the frames that arrive. Whatever frames arrive, a text is
adopted only when it is the contiguous join of frames of one generation, from offset 0 to the
announced total, and valid text; and each text adopted is of a later generation than the one
before.
-/

namespace Plank.Clipboard

/-- The assembly of incoming texts, with the texts adopted so far. -/
structure Receiver where
  /-- The text under assembly. -/
  assembly : Option (List UInt8) := none
  /-- Its generation. -/
  inGeneration : Nat := 0
  /-- Its announced total. -/
  inTotal : Nat := 0
  /-- The generation of the last text adopted. -/
  lastGeneration : Nat := 0
  /-- The texts adopted, each with its generation. -/
  adopted : List (Nat × List UInt8) := []

/-- What became of a frame. -/
inductive Received where
  /-- It was refused. -/
  | refused
  /-- It was taken. -/
  | taken
  /-- It completed a text, which was adopted. -/
  | adopted (text : List UInt8)
  deriving DecidableEq

namespace Receiver

/-- The receiver after the first chunk of a text began a new assembly. -/
def begin (receiver : Receiver) (chunk : Chunk) : Receiver :=
  if chunk.first then
    { receiver with
      assembly := some []
      inGeneration := chunk.generation
      inTotal := chunk.total }
  else receiver

/-- Append a chunk that continues the assembly, and adopt the text it completes. -/
def append (receiver : Receiver) (chunk : Chunk) (assembly : List UInt8) : Received × Receiver :=
  let text := assembly ++ chunk.bytes
  let receiver := { receiver with assembly := some text }
  if !chunk.last then (.taken, receiver)
  else if !validText text then (.refused, receiver)
  else
    (.adopted text,
      { receiver with
        lastGeneration := chunk.generation
        assembly := none
        adopted := receiver.adopted ++ [(chunk.generation, text)] })

/-- Take a frame, on a lane with a limit on chunks. -/
def receive (limit : Nat) (receiver : Receiver) (frame : List UInt8) : Received × Receiver :=
  match decode limit frame with
  | none => (.refused, receiver)
  | some chunk =>
    if chunk.generation ≤ receiver.lastGeneration then (.taken, receiver)
    else
      let receiver := receiver.begin chunk
      match receiver.assembly with
      | none => (.refused, receiver)
      | some assembly =>
        if chunk.generation ≠ receiver.inGeneration ∨ chunk.total ≠ receiver.inTotal ∨
            chunk.offset ≠ assembly.length then (.refused, receiver)
        else receiver.append chunk assembly

/-- The receiver after a list of frames. -/
def receiveAll (limit : Nat) (frames : List (List UInt8)) : Receiver :=
  frames.foldl (fun receiver frame => (receiver.receive limit frame).2) {}

/-- One more frame. -/
theorem receiveAll_snoc (limit : Nat) (frames : List (List UInt8)) (frame : List UInt8) :
    receiveAll limit (frames ++ [frame]) = ((receiveAll limit frames).receive limit frame).2 := by
  simp [receiveAll]

/-! ### Any frames -/

/-- Chunks that follow each other without gap or overlap from an offset on. -/
def Contiguous : Nat → List Chunk → Prop
  | _, [] => True
  | start, chunk :: rest => chunk.offset = start ∧ Contiguous (start + chunk.bytes.length) rest

/-- One more chunk where the others end. -/
theorem Contiguous.snoc {start : Nat} {parts : List Chunk} {chunk : Chunk}
    (contiguous : Contiguous start parts)
    (follows : chunk.offset = start + (parts.flatMap Chunk.bytes).length) :
    Contiguous start (parts ++ [chunk]) := by
  induction parts generalizing start with
  | nil => exact ⟨follows, trivial⟩
  | cons part rest ih =>
    refine ⟨contiguous.1, ih contiguous.2 ?_⟩
    rw [follows, List.flatMap_cons, List.length_append]
    omega

/-- The bytes are the contiguous join, from offset 0, of some of the chunks received, all of one
generation and with one announced total. -/
def Joined (chunks : List Chunk) (generation total : Nat) (bytes : List UInt8) : Prop :=
  ∃ parts, List.Sublist parts chunks ∧
    (∀ part ∈ parts, part.generation = generation ∧ part.total = total) ∧
    Contiguous 0 parts ∧ parts.flatMap Chunk.bytes = bytes

/-- A join stays one when more chunks are received. -/
theorem Joined.mono {chunks : List Chunk} {generation total : Nat} {bytes : List UInt8}
    (joined : Joined chunks generation total bytes) (more : List Chunk) :
    Joined (chunks ++ more) generation total bytes := by
  obtain ⟨parts, among, same, contiguous, join⟩ := joined
  exact ⟨parts, among.trans (List.sublist_append_left chunks more), same, contiguous, join⟩

/-- A join with the chunk that follows it. -/
theorem Joined.snoc {chunks : List Chunk} {bytes : List UInt8} {chunk : Chunk}
    (joined : Joined chunks chunk.generation chunk.total bytes)
    (follows : chunk.offset = bytes.length) :
    Joined (chunks ++ [chunk]) chunk.generation chunk.total (bytes ++ chunk.bytes) := by
  obtain ⟨parts, among, same, contiguous, rfl⟩ := joined
  refine ⟨parts ++ [chunk], among.append (List.Sublist.refl _), ?_, ?_, by simp⟩
  · intro part member
    obtain member | member := List.mem_append.mp member
    · exact same part member
    · obtain rfl := List.mem_singleton.mp member
      exact ⟨rfl, rfl⟩
  · exact contiguous.snoc (by rw [follows, Nat.zero_add])

/-- What a receiver has assembled and adopted of the chunks it received. -/
structure Collected (chunks : List Chunk) (receiver : Receiver) : Prop where
  /-- The assembly is a join of chunks. -/
  assembly : ∀ bytes, receiver.assembly = some bytes →
    Joined chunks receiver.inGeneration receiver.inTotal bytes
  /-- So is every text adopted, of its announced length, and it is valid text. -/
  adopted : ∀ generation text, (generation, text) ∈ receiver.adopted →
    Joined chunks generation text.length text ∧ validText text = true
  /-- The generations adopted increase. -/
  increasing : (receiver.adopted.map Prod.fst).Pairwise (· < ·)
  /-- None is later than the last. -/
  last : ∀ generation text, (generation, text) ∈ receiver.adopted →
    generation ≤ receiver.lastGeneration

/-- Nothing was received. -/
theorem collected_start : Collected [] {} :=
  ⟨nofun, fun _ _ member => absurd member List.not_mem_nil, List.Pairwise.nil,
    fun _ _ member => absurd member List.not_mem_nil⟩

/-- More chunks were received, and none of them was used. -/
theorem Collected.mono {chunks : List Chunk} {receiver : Receiver}
    (collected : Collected chunks receiver) (more : List Chunk) :
    Collected (chunks ++ more) receiver where
  assembly bytes assembled := (collected.assembly bytes assembled).mono more
  adopted generation text member :=
    ⟨(collected.adopted generation text member).1.mono more,
      (collected.adopted generation text member).2⟩
  increasing := collected.increasing
  last := collected.last

/-- A first chunk begins an empty assembly. -/
theorem Collected.begin {chunks : List Chunk} {receiver : Receiver}
    (collected : Collected chunks receiver) (chunk : Chunk) :
    Collected chunks (receiver.begin chunk) := by
  unfold Receiver.begin
  split
  · refine ⟨fun bytes assembled => ?_, collected.adopted, collected.increasing, collected.last⟩
    obtain rfl := Option.some.inj assembled
    exact ⟨[], List.nil_sublist _, fun _ member => absurd member List.not_mem_nil, trivial, rfl⟩
  · exact collected

/-- A chunk that continues the assembly. -/
theorem Collected.append {chunks : List Chunk} {limit : Nat} {receiver : Receiver} {chunk : Chunk}
    {assembly : List UInt8} (collected : Collected chunks receiver) (checked : chunk.Checked limit)
    (assembled : receiver.assembly = some assembly) (later : receiver.lastGeneration < chunk.generation)
    (generation : chunk.generation = receiver.inGeneration)
    (total : chunk.total = receiver.inTotal) (follows : chunk.offset = assembly.length) :
    Collected (chunks ++ [chunk]) (receiver.append chunk assembly).2 := by
  have joined : Joined (chunks ++ [chunk]) chunk.generation chunk.total
      (assembly ++ chunk.bytes) := by
    refine Joined.snoc ?_ follows
    rw [generation, total]
    exact collected.assembly assembly assembled
  have more := collected.mono [chunk]
  have kept : Collected (chunks ++ [chunk])
      { receiver with assembly := some (assembly ++ chunk.bytes) } := by
    refine ⟨fun bytes same => ?_, more.adopted, more.increasing, more.last⟩
    obtain rfl := Option.some.inj same
    show Joined _ receiver.inGeneration receiver.inTotal _
    rw [← generation, ← total]
    exact joined
  unfold Receiver.append
  simp only
  split_ifs with unfinished invalid
  · exact kept
  · exact kept
  · have ends := checked.last.mp (by simpa using unfinished)
    have length : (assembly ++ chunk.bytes).length = chunk.total := by
      rw [List.length_append]
      omega
    refine ⟨nofun, fun g text member => ?_, ?_, fun g text member => ?_⟩
    · obtain member | member := List.mem_append.mp member
      · exact more.adopted g text member
      · obtain ⟨rfl, rfl⟩ := Prod.mk.inj (List.mem_singleton.mp member)
        exact ⟨length ▸ joined, by simpa using invalid⟩
    · rw [List.map_append, List.pairwise_append]
      refine ⟨more.increasing, List.pairwise_singleton _ _, fun earlier member other single => ?_⟩
      obtain ⟨⟨g, text⟩, among, rfl⟩ := List.mem_map.mp member
      obtain rfl := List.mem_singleton.mp single
      exact (more.last g text among).trans_lt later
    · obtain member | member := List.mem_append.mp member
      · exact (more.last g text member).trans later.le
      · obtain ⟨rfl, rfl⟩ := Prod.mk.inj (List.mem_singleton.mp member)
        exact le_rfl

/-- Any frame. -/
theorem Collected.receive {chunks : List Chunk} {receiver : Receiver} (limit : Nat)
    (collected : Collected chunks receiver) (frame : List UInt8) :
    Collected (chunks ++ (decode limit frame).toList) (receiver.receive limit frame).2 := by
  unfold Receiver.receive
  cases decoded : decode limit frame with
  | none => simpa using collected
  | some chunk =>
    have more := collected.mono [chunk]
    simp only [Option.toList_some]
    split_ifs with old
    · exact more
    · have started := collected.begin chunk
      have same : (receiver.begin chunk).lastGeneration = receiver.lastGeneration := by
        unfold Receiver.begin
        split <;> rfl
      cases assembled : (receiver.begin chunk).assembly with
      | none => exact started.mono [chunk]
      | some assembly =>
        simp only
        split_ifs with mismatch
        · exact started.mono [chunk]
        · obtain ⟨generation, total, follows⟩ := by simpa only [not_or, not_ne_iff] using mismatch
          exact started.append (decode_checked decoded) assembled (by rw [same]; omega) generation
            total follows

/-- Any frames, from the start. -/
theorem receiveAll_collected (limit : Nat) (frames : List (List UInt8)) :
    Collected (frames.filterMap (decode limit)) (receiveAll limit frames) := by
  induction frames using List.reverseRecOn with
  | nil => exact collected_start
  | append_singleton frames frame ih =>
    have split : (frames ++ [frame]).filterMap (decode limit) =
        frames.filterMap (decode limit) ++ (decode limit frame).toList := by
      cases decoded : decode limit frame <;> simp [decoded]
    rw [split, receiveAll_snoc]
    exact ih.receive limit frame

end Receiver

end Plank.Clipboard
