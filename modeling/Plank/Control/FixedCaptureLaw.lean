import Plank.Control.FixedCapture

/-!
# One generation, one topology

Half of the revision is the number of callbacks so far, so a revision that is loaded twice the same
stands for no callback in between. A generation is made for one fingerprint and dropped with every
change of what is selected; what is cached goes with it.
-/

namespace Plank.Control

namespace CaptureRun

variable {Number : Type} {doubles : Doubles Number} {run : CaptureRun Number}

/-- What the revision and the snapshots obey. -/
structure CaptureLaw (doubles : Doubles Number) (run : CaptureRun Number) : Prop where
  /-- Every callback that is not under way has stored a revision of its own. -/
  counted : run.called = run.callbacks.length + run.revisions.length
  /-- Each is higher than all before. -/
  increasing : (0 :: run.revisions).Pairwise (· < ·)
  /-- The last is the revision. -/
  current : run.revision = run.revisions.getLastD 0
  /-- What is returned describes what was read. -/
  described : ∀ snapshot ∈ run.returned, FixedCapture.describe doubles
    (some snapshot.description.generation) snapshot.fingerprint = some snapshot.description
  /-- Under one generation, one display, mode, size in pixels, bounds and encoding were read. -/
  same : ∀ first ∈ run.returned, ∀ second ∈ run.returned,
    first.description.generation = second.description.generation →
      first.fingerprint = second.fingerprint ∧ first.description = second.description
  /-- A callback, or a change of what is selected, parts the generations before it from those
  after it. -/
  apart : ∀ first ∈ run.returned, ∀ second ∈ run.returned,
    first.call.settled ≠ second.call.settled ∨ first.changes ≠ second.changes →
      first.description.generation ≠ second.description.generation
  /-- No revision that was loaded is one in progress; it is that of the reading too. -/
  even : ∀ snapshot ∈ run.returned,
    snapshot.revision &&& 1 = 0 ∧ snapshot.fingerprint.revision = snapshot.revision
  /-- No callback fell between the first load of the reading and the last of the call. -/
  undisturbed : ∀ snapshot ∈ run.returned, snapshot.reading.opened = snapshot.reading.settled ∧
    snapshot.call.opened = snapshot.call.settled ∧
      snapshot.reading.settled = snapshot.call.settled
  /-- What is cached is returned within the lifetime of its reading only. -/
  recent : ∀ snapshot ∈ run.returned, snapshot.cached = true →
    snapshot.reading.now ≤ snapshot.call.now ∧
      snapshot.call.now - snapshot.reading.now < snapshotLifetimeNs

/-! ### The revision -/

/-- A revision after so many callbacks. -/
def Marks (revision : UInt64) (count : Nat) : Prop := revision.toNat / 2 = count % 2 ^ 63

/-- The low bit does not count. -/
theorem half_or (revision flag : UInt64) (bit : flag.toNat / 2 = 0) :
    ((revision &&& ~~~1) ||| flag).toNat / 2 = revision.toNat / 2 := by
  have below := revision.toNat_lt
  rw [UInt64.toNat_or, UInt64.toNat_and, Nat.or_div_two, Nat.and_div_two, bit, Nat.or_zero,
    show (~~~1 : UInt64).toNat / 2 = 2 ^ 63 - 1 from rfl, Nat.and_two_pow_sub_one_eq_mod]
  omega

/-- A callback counts. -/
theorem Marks.next {callback : RevisionCallback} {count : Nat}
    (marks : Marks callback.previous count) : Marks callback.next (count + 1) := by
  have flag : (if callback.begins then (1 : UInt64) else 0).toNat / 2 = 0 := by
    cases callback.begins <;> rfl
  unfold Marks RevisionCallback.next at *
  rw [half_or _ _ flag, UInt64.toNat_add]
  show (callback.previous.toNat + 2) % 2 ^ 64 / 2 = _
  omega

/-- Short of so many callbacks the revision tells how many there were. -/
theorem Marks.unique {revision : UInt64} {left right : Nat} (first : Marks revision left)
    (second : Marks revision right) (low : left < 2 ^ 63) (high : right < 2 ^ 63) :
    left = right := by
  unfold Marks at first second
  omega

/-- The revision and those before it. -/
structure Counted (called callbacks : Nat) (revision : UInt64) (revisions : List UInt64) :
    Prop where
  /-- Every callback is under way or has stored a revision. -/
  counted : called = callbacks + revisions.length
  /-- The last is the revision. -/
  current : revision = revisions.getLastD 0
  /-- Each has its place. -/
  marks : ∀ index earlier, revisions[index]? = some earlier → Marks earlier (index + 1)

/-- The revision has its place. -/
theorem Counted.marked {called callbacks : Nat} {revision : UInt64} {revisions : List UInt64}
    (counted : Counted called callbacks revision revisions) :
    Marks revision revisions.length := by
  rw [counted.current]
  by_cases empty : revisions = []
  · rw [empty]
    rfl
  · have positive := List.length_pos_iff.mpr empty
    have last := counted.marks (revisions.length - 1) (revisions.getLast empty)
      (by rw [← List.getLast?_eq_getElem?, List.getLast?_eq_getLast_of_ne_nil empty])
    rw [Nat.sub_add_cancel positive] at last
    rwa [List.getLastD_eq_getLast?, List.getLast?_eq_getLast_of_ne_nil empty]

/-- One callback takes effect. -/
theorem Counted.store {called callbacks : Nat} {revisions : List UInt64}
    {callback : RevisionCallback}
    (counted : Counted called (callbacks + 1) callback.previous revisions) :
    Counted called callbacks callback.next (revisions ++ [callback.next]) := by
  refine ⟨?_, ?_, fun index earlier there => ?_⟩
  · rw [List.length_append, List.length_singleton, counted.counted]
    omega
  · rw [List.getLastD_concat]
  · by_cases before : index < revisions.length
    · rw [List.getElem?_append_left before] at there
      exact counted.marks index earlier there
    · rw [List.getElem?_append_right (Nat.le_of_not_lt before)] at there
      obtain ⟨inside, same⟩ := List.getElem?_eq_some_iff.mp there
      rw [List.length_singleton] at inside
      rw [List.getElem_singleton] at same
      rw [← same, show index = revisions.length by omega]
      exact counted.marked.next

/-- Short of so many callbacks, the revisions increase. -/
theorem Counted.increasing {called callbacks : Nat} {revision : UInt64} {revisions : List UInt64}
    (counted : Counted called callbacks revision revisions) (few : revisions.length < 2 ^ 63) :
    (0 :: revisions).Pairwise (· < ·) := by
  have place (index : Nat) (inside : index < revisions.length) :
      (revisions[index]).toNat / 2 = index + 1 := by
    have marks := counted.marks index _ (List.getElem?_eq_getElem inside)
    unfold Marks at marks
    omega
  refine List.pairwise_cons.mpr ⟨fun later member => ?_, ?_⟩
  · obtain ⟨index, inside, rfl⟩ := List.mem_iff_getElem.mp member
    have half := place index inside
    rw [UInt64.lt_iff_toNat_lt]
    show 0 < _
    omega
  · rw [List.pairwise_iff_getElem]
    intro first second first_inside second_inside before
    have low := place first first_inside
    have high := place second second_inside
    rw [UInt64.lt_iff_toNat_lt]
    omega

/-! ### The object -/

/-- A reading under one revision, with its callbacks counted. -/
structure Settled (revision : UInt64) (reading : SnapshotReading) (count : Nat) : Prop where
  /-- At the first load. -/
  opened : Marks revision reading.opened
  /-- At the last load. -/
  settled : Marks revision reading.settled
  /-- They came so far. -/
  within : reading.opened ≤ count ∧ reading.settled ≤ count

/-- What is cached. -/
structure CachedBy (doubles : Doubles Number) (capture : FixedCapture Number)
    (reading : SnapshotReading) (count : Nat) (fingerprint : Fingerprint Number)
    (description : CaptureDescription Number) : Prop where
  /-- It is what the last fingerprint describes. -/
  previous : capture.previous = some fingerprint
  /-- It has the generation of that. -/
  generation : capture.generation = some description.generation
  /-- It describes it. -/
  described : FixedCapture.describe doubles (some description.generation) fingerprint =
    some description
  /-- It is of its revision. -/
  revision : capture.cachedRevision = fingerprint.revision
  /-- When it was read. -/
  now : reading.now = capture.cachedAt
  /-- It was read under that revision. -/
  settled : Settled fingerprint.revision reading count

/-- The object and its generations. -/
structure Held (doubles : Doubles Number) (capture : FixedCapture Number)
    (reading : SnapshotReading) (made : List (MadeGeneration Number)) (changes count : Nat) :
    Prop where
  /-- The last fingerprint has a generation, made since what is selected changed. -/
  previous : ∀ fingerprint, capture.previous = some fingerprint →
    ∃ uuid, capture.generation = some uuid ∧ ⟨uuid, fingerprint, changes⟩ ∈ made
  /-- What is cached. -/
  cached : ∀ description, capture.cached = some description →
    ∃ fingerprint, CachedBy doubles capture reading count fingerprint description
  /-- No generation was made twice. -/
  distinct : made.Pairwise fun left right => left.uuid ≠ right.uuid

/-- Where a snapshot is. -/
def Staged (capture : FixedCapture Number) (count : Nat) : SnapshotStage Number → Prop
  | .idle => True
  | .entered => True
  | .loaded revision opened | .reading revision _ opened =>
    revision &&& 1 = 0 ∧ Marks revision opened ∧ opened ≤ count
  | .rechecking revision now opened =>
    (revision &&& 1 = 0 ∧ Marks revision opened ∧ opened ≤ count) ∧
      fresh capture revision now = true
  | .settling fingerprint _ opened =>
    fingerprint.revision &&& 1 = 0 ∧ Marks fingerprint.revision opened ∧ opened ≤ count

/-- What was returned. -/
structure Good (doubles : Doubles Number) (made : List (MadeGeneration Number)) (count : Nat)
    (snapshot : Snapshot Number) : Prop where
  /-- Its generation was made for it. -/
  made : ⟨snapshot.description.generation, snapshot.fingerprint, snapshot.changes⟩ ∈ made
  /-- It describes what was read. -/
  described : FixedCapture.describe doubles (some snapshot.description.generation)
    snapshot.fingerprint = some snapshot.description
  /-- Its revision. -/
  even : snapshot.revision &&& 1 = 0 ∧ snapshot.fingerprint.revision = snapshot.revision
  /-- The call. -/
  call : Settled snapshot.revision snapshot.call count
  /-- The reading. -/
  reading : Settled snapshot.revision snapshot.reading count
  /-- What is cached is recent. -/
  recent : snapshot.cached = true → snapshot.reading.now ≤ snapshot.call.now ∧
    snapshot.call.now - snapshot.reading.now < snapshotLifetimeNs

/-- What every step keeps. -/
structure Kept (doubles : Doubles Number) (run : CaptureRun Number) : Prop where
  /-- The revision. -/
  counted : Counted run.called run.callbacks.length run.revision run.revisions
  /-- The object. -/
  held : Held doubles run.capture run.reading run.made run.changes run.revisions.length
  /-- The snapshot under way. -/
  staged : Staged run.capture run.revisions.length run.stage
  /-- What was returned. -/
  good : ∀ snapshot ∈ run.returned, Good doubles run.made run.revisions.length snapshot

/-! ### One step -/

/-- Time goes on. -/
theorem Settled.mono {revision : UInt64} {reading : SnapshotReading} {count later : Nat}
    (settled : Settled revision reading count) (after : count ≤ later) :
    Settled revision reading later :=
  ⟨settled.opened, settled.settled, settled.within.1.trans after, settled.within.2.trans after⟩

/-- Time goes on. -/
theorem Held.mono {capture : FixedCapture Number} {reading : SnapshotReading}
    {made : List (MadeGeneration Number)} {changes count later : Nat}
    (held : Held doubles capture reading made changes count) (after : count ≤ later) :
    Held doubles capture reading made changes later := by
  refine ⟨held.previous, fun description cached => ?_, held.distinct⟩
  obtain ⟨fingerprint, by_it⟩ := held.cached description cached
  exact ⟨fingerprint, by_it.previous, by_it.generation, by_it.described, by_it.revision, by_it.now,
    by_it.settled.mono after⟩

/-- Time goes on. -/
theorem Staged.mono {capture : FixedCapture Number} {stage : SnapshotStage Number}
    {count later : Nat} (staged : Staged capture count stage) (after : count ≤ later) :
    Staged capture later stage := by
  cases stage with
  | idle => trivial
  | entered => trivial
  | loaded revision opened => exact ⟨staged.1, staged.2.1, staged.2.2.trans after⟩
  | reading revision now opened => exact ⟨staged.1, staged.2.1, staged.2.2.trans after⟩
  | rechecking revision now opened =>
    exact ⟨⟨staged.1.1, staged.1.2.1, staged.1.2.2.trans after⟩, staged.2⟩
  | settling fingerprint now opened => exact ⟨staged.1, staged.2.1, staged.2.2.trans after⟩

/-- Time goes on, and generations are made. -/
theorem Good.mono {made more : List (MadeGeneration Number)} {count later : Nat}
    {snapshot : Snapshot Number} (good : Good doubles made count snapshot)
    (all : ∀ entry ∈ made, entry ∈ more) (after : count ≤ later) :
    Good doubles more later snapshot :=
  ⟨all _ good.made, good.described, good.even, good.call.mono after, good.reading.mono after,
    good.recent⟩

/-- The object forgets what it read. -/
theorem Held.forget {capture : FixedCapture Number} {reading : SnapshotReading}
    {made : List (MadeGeneration Number)} {changes count : Nat}
    (held : Held doubles capture reading made changes count) {after : FixedCapture Number}
    (previous : after.previous = none) (cached : after.cached = none) (later : Nat) :
    Held doubles after reading made later count := by
  refine ⟨fun fingerprint some => ?_, fun description some => ?_, held.distinct⟩
  · rw [previous] at some
    cases some
  · rw [cached] at some
    cases some

/-- A snapshot returns nothing. -/
theorem Kept.refuse (kept : Kept doubles run) (reason : String) :
    Kept doubles (run.refuse reason) :=
  ⟨kept.counted, kept.held.forget rfl rfl run.changes, trivial, kept.good⟩

/-- A snapshot goes on. -/
theorem Kept.stage (kept : Kept doubles run) {stage : SnapshotStage Number}
    (staged : Staged run.capture run.revisions.length stage) :
    Kept doubles { run with stage := stage } := ⟨kept.counted, kept.held, staged, kept.good⟩

/-- A callback begins. -/
theorem Kept.callback (kept : Kept doubles run) (begins : Bool) :
    Kept doubles { run with
      callbacks := run.callbacks ++ [⟨run.revision, begins⟩], called := run.called + 1 } := by
  refine ⟨⟨?_, kept.counted.current, kept.counted.marks⟩, kept.held, kept.staged, kept.good⟩
  have before := kept.counted.counted
  show run.called + 1 =
    (run.callbacks ++ [RevisionCallback.mk run.revision begins]).length + run.revisions.length
  rw [List.length_append, List.length_singleton]
  omega

/-- A callback tries to take effect. -/
theorem Kept.exchange (kept : Kept doubles run) {index : Nat} (spurious : Bool)
    {callback : RevisionCallback} (there : run.callbacks[index]? = some callback) :
    Kept doubles (run.exchange index spurious callback) := by
  obtain ⟨inside, -⟩ := List.getElem?_eq_some_iff.mp there
  unfold CaptureRun.exchange
  by_cases exchanged : run.revision = callback.previous ∧ spurious = false
  · rw [if_pos exchanged]
    have counted := kept.counted
    rw [exchanged.1, show run.callbacks.length = (run.callbacks.eraseIdx index).length + 1 by
      rw [List.length_eraseIdx_of_lt inside]; omega] at counted
    have after : run.revisions.length ≤ (run.revisions ++ [callback.next]).length := by
      rw [List.length_append]
      exact Nat.le_add_right _ _
    exact ⟨counted.store, kept.held.mono after, kept.staged.mono after, fun snapshot member =>
      (kept.good snapshot member).mono (fun _ here => here) after⟩
  · rw [if_neg exchanged]
    refine ⟨⟨?_, kept.counted.current, kept.counted.marks⟩, kept.held, kept.staged, kept.good⟩
    rw [List.length_set]
    exact kept.counted.counted

/-- The end of a snapshot whose description is cached. -/
theorem Kept.recheck (kept : Kept doubles run) {revision now : UInt64} {opened : Nat}
    (at_recheck : run.stage = .rechecking revision now opened) :
    Kept doubles (run.recheck revision now opened) := by
  have staged := kept.staged
  rw [at_recheck] at staged
  obtain ⟨⟨even, marks, before⟩, recent⟩ := staged
  unfold CaptureRun.recheck
  by_cases changed : revision ≠ run.revision
  · rw [if_pos changed]
    exact kept.refuse _
  rw [if_neg changed]
  cases cached : run.capture.cached with
  | none => exact kept.stage trivial
  | some description =>
    obtain ⟨fingerprint, by_it⟩ := kept.held.cached description cached
    obtain ⟨uuid, generation, made⟩ := kept.held.previous fingerprint by_it.previous
    rw [by_it.previous]
    obtain rfl := Option.some.inj (by_it.generation.symm.trans generation)
    simp only [fresh, Bool.and_eq_true, beq_iff_eq, decide_eq_true_eq] at recent
    obtain ⟨⟨⟨-, same⟩, low⟩, short⟩ := recent
    have one : fingerprint.revision = revision := by_it.revision.symm.trans same.symm
    refine ⟨kept.counted, kept.held, trivial, fun snapshot member => ?_⟩
    rcases List.mem_append.mp member with earlier | latest
    · exact kept.good snapshot earlier
    obtain rfl := List.mem_singleton.mp latest
    have settled : Marks revision run.revisions.length := by
      rw [not_not.mp changed]
      exact kept.counted.marked
    refine ⟨made, by_it.described, ⟨even, one⟩, ⟨marks, settled, before, Nat.le_refl _⟩,
      one ▸ by_it.settled, fun _ => ?_⟩
    show run.reading.now ≤ now ∧ now - run.reading.now < snapshotLifetimeNs
    rw [by_it.now]
    exact ⟨low, short⟩

/-- What is described has the generation that was given. -/
theorem describe_generation {generation : Option (BitVec 128)} {fingerprint : Fingerprint Number}
    {description : CaptureDescription Number}
    (described : FixedCapture.describe doubles generation fingerprint = some description) :
    generation = some description.generation := by
  unfold FixedCapture.describe fixedCaptureDescription at described
  cases profile : macEncodingProfile fingerprint.encodingMode with
  | none => simp only [profile, reduceCtorEq] at described
  | some found =>
    cases generation with
    | none => simp only [profile, reduceCtorEq] at described
    | some uuid =>
      simp only [profile] at described
      obtain ⟨-, described⟩ := Option.ite_none_left_eq_some.mp described
      rw [← Option.some.inj described]

section Settle

variable [DecidableEq Number]

/-- The generations after a stable reading. -/
structure Identified (run : CaptureRun Number) (fingerprint : Fingerprint Number)
    (after : FixedCapture Number) (made : List (MadeGeneration Number)) : Prop where
  /-- The reading is the last. -/
  previous : after.previous = some fingerprint
  /-- It has a generation. -/
  generation : ∃ uuid, after.generation = some uuid ∧ ⟨uuid, fingerprint, run.changes⟩ ∈ made
  /-- No generation was made twice. -/
  distinct : made.Pairwise fun left right => left.uuid ≠ right.uuid
  /-- None is lost. -/
  all : ∀ entry ∈ run.made, entry ∈ made

/-- A stable reading keeps its generation, or makes one. -/
theorem Kept.identified (kept : Kept doubles run) {fingerprint : Fingerprint Number}
    {uuid : BitVec 128}
    (new : ¬(run.capture.previous ≠ some fingerprint ∧ (!run.isNew uuid) = true)) :
    Identified run fingerprint (run.capture.identified fingerprint uuid)
      (if run.capture.previous = some fingerprint then run.made
        else run.made ++ [⟨uuid, fingerprint, run.changes⟩]) := by
  unfold FixedCapture.identified
  by_cases same : run.capture.previous = some fingerprint
  · rw [if_pos same, if_pos same]
    exact ⟨same, kept.held.previous fingerprint same, kept.held.distinct, fun _ here => here⟩
  · rw [if_neg same, if_neg same]
    refine ⟨rfl, ⟨uuid, rfl, List.mem_append_right _ (List.mem_singleton_self _)⟩, ?_,
      fun _ here => List.mem_append_left _ here⟩
    have unused : run.isNew uuid = true := by
      by_contra used
      exact new ⟨same, by rw [Bool.eq_false_of_not_eq_true used]; rfl⟩
    refine List.pairwise_append.mpr ⟨kept.held.distinct, List.pairwise_singleton _ _, ?_⟩
    intro earlier member latest here
    obtain rfl := List.mem_singleton.mp here
    have every := List.all_eq_true.mp ((Bool.and_eq_true _ _).mp unused).2 earlier member
    exact bne_iff_ne.mp every

/-- The end of a snapshot that read the display. -/
theorem Kept.settle (kept : Kept doubles run) {fingerprint : Fingerprint Number} {now : UInt64}
    {opened : Nat} {uuid : BitVec 128} {after : CaptureRun Number}
    (at_settle : run.stage = .settling fingerprint now opened)
    (settled : run.settle doubles fingerprint now opened uuid = some after) :
    Kept doubles after := by
  have staged := kept.staged
  rw [at_settle] at staged
  obtain ⟨even, marks, before⟩ := staged
  unfold CaptureRun.settle at settled
  by_cases changed : fingerprint.revision ≠ run.revision
  · rw [if_pos changed] at settled
    obtain rfl := Option.some.inj settled
    exact kept.refuse _
  rw [if_neg changed] at settled
  obtain ⟨new, settled⟩ := Option.ite_none_left_eq_some.mp settled
  have identified := kept.identified new
  dsimp only at settled
  generalize (if run.capture.previous = some fingerprint then run.made
    else run.made ++ [⟨uuid, fingerprint, run.changes⟩]) = made at identified settled
  have good := fun snapshot member =>
    (kept.good snapshot member).mono identified.all (Nat.le_refl run.revisions.length)
  unfold FixedCapture.describing at settled
  dsimp only at settled
  obtain ⟨token, generation, here⟩ := identified.generation
  generalize run.capture.identified fingerprint uuid = capture at identified generation settled
  rw [generation] at settled
  cases described : FixedCapture.describe doubles (some token) fingerprint with
  | none =>
    rw [described] at settled
    obtain rfl := Option.some.inj settled
    exact ⟨kept.counted, ⟨nofun, nofun, identified.distinct⟩, trivial, good⟩
  | some description =>
    rw [described] at settled
    obtain rfl := Option.some.inj settled
    obtain rfl : token = description.generation :=
      Option.some.inj (describe_generation described)
    have last : Marks fingerprint.revision run.revisions.length := by
      rw [not_not.mp changed]
      exact kept.counted.marked
    have reading : Settled fingerprint.revision ⟨opened, run.revisions.length, now⟩
      run.revisions.length := ⟨marks, last, before, Nat.le_refl _⟩
    refine ⟨kept.counted, ⟨fun other some => ?_, fun other some => ?_, identified.distinct⟩,
      trivial, fun snapshot member => ?_⟩
    · obtain rfl := Option.some.inj (identified.previous.symm.trans some)
      exact ⟨_, rfl, here⟩
    · obtain rfl := Option.some.inj some
      exact ⟨fingerprint, identified.previous, rfl, described, rfl, rfl, reading⟩
    · rcases List.mem_append.mp member with earlier | latest
      · exact good snapshot earlier
      · obtain rfl := List.mem_singleton.mp latest
        exact ⟨here, described, ⟨even, rfl⟩, reading, reading, nofun⟩

/-- A reading of the display is of the revision that was loaded. -/
theorem readDisplay_revision {capture : FixedCapture Number} {revision : UInt64}
    {first second : DisplayAnswers Number} {fingerprint : Fingerprint Number}
    (read : capture.readDisplay doubles revision first second = .ok fingerprint) :
    fingerprint.revision = revision := by
  unfold FixedCapture.readDisplay at read
  dsimp only at read
  split_ifs at read
  split at read
  · cases read
  · split_ifs at read
    obtain rfl := Except.ok.inj read
    rfl
  · cases read

/-- Every step keeps the invariant. -/
theorem kept_step : (system doubles).Preserves (Kept doubles) := by
  intro run label after kept stepped
  change run.step doubles label = some after at stepped
  cases label with
  | callback begins =>
    obtain rfl := Option.some.inj stepped
    exact kept.callback begins
  | exchange index spurious =>
    obtain ⟨callback, there, rfl⟩ := Option.map_eq_some_iff.mp stepped
    exact kept.exchange spurious there
  | select display =>
    cases at_stage : run.stage with
    | idle =>
      simp only [step, at_stage, Option.some.injEq] at stepped
      subst stepped
      refine ⟨kept.counted, ?_, ?_, kept.good⟩
      · unfold FixedCapture.setSelectedDisplay
        by_cases same : run.capture.selectedDisplay = display
        · rw [if_pos same, if_pos same]
          exact kept.held
        · rw [if_neg same, if_neg same]
          exact kept.held.forget rfl rfl _
      · trivial
    | _ => simp only [step, at_stage, reduceCtorEq] at stepped
  | encode mode =>
    cases at_stage : run.stage with
    | idle =>
      simp only [step, at_stage, Option.some.injEq] at stepped
      subst stepped
      refine ⟨kept.counted, ?_, ?_, kept.good⟩
      · unfold FixedCapture.setEncodingMode
        by_cases same : FixedCapture.isEqualMode run.capture.encodingMode mode = true
        · rw [if_pos same, if_pos same]
          exact kept.held
        · rw [if_neg same, if_neg same]
          exact kept.held.forget rfl rfl _
      · trivial
    | _ => simp only [step, at_stage, reduceCtorEq] at stepped
  | snapshot =>
    cases at_stage : run.stage with
    | idle =>
      simp only [step, at_stage, Option.some.injEq] at stepped
      subst stepped
      exact kept.stage trivial
    | _ => simp only [step, at_stage, reduceCtorEq] at stepped
  | load =>
    cases at_stage : run.stage with
    | entered =>
      simp only [step, at_stage] at stepped
      by_cases odd : run.revision &&& 1 ≠ 0
      · rw [if_pos odd] at stepped
        obtain rfl := Option.some.inj stepped
        exact kept.refuse _
      · rw [if_neg odd] at stepped
        obtain rfl := Option.some.inj stepped
        exact kept.stage ⟨not_not.mp odd, kept.counted.marked, Nat.le_refl _⟩
    | _ => simp only [step, at_stage, reduceCtorEq] at stepped
  | clock now =>
    cases at_stage : run.stage with
    | loaded revision opened =>
      have staged := kept.staged
      rw [at_stage] at staged
      simp only [step, at_stage] at stepped
      by_cases recent : fresh run.capture revision now = true
      · rw [if_pos recent] at stepped
        obtain rfl := Option.some.inj stepped
        exact kept.stage ⟨staged, recent⟩
      · rw [if_neg recent] at stepped
        obtain rfl := Option.some.inj stepped
        exact kept.stage staged
    | _ => simp only [step, at_stage, reduceCtorEq] at stepped
  | read first second =>
    cases at_stage : run.stage with
    | reading revision now opened =>
      have staged := kept.staged
      rw [at_stage] at staged
      simp only [step, at_stage] at stepped
      cases read : run.capture.readDisplay doubles revision first second with
      | error reason =>
        rw [read] at stepped
        obtain rfl := Option.some.inj stepped
        exact kept.refuse reason
      | ok fingerprint =>
        rw [read] at stepped
        obtain rfl := Option.some.inj stepped
        refine kept.stage ?_
        show fingerprint.revision &&& 1 = 0 ∧ _
        rw [readDisplay_revision read]
        exact staged
    | _ => simp only [step, at_stage, reduceCtorEq] at stepped
  | settle uuid =>
    cases at_stage : run.stage with
    | rechecking revision now opened =>
      simp only [step, at_stage, Option.some.injEq] at stepped
      subst stepped
      exact kept.recheck at_stage
    | settling fingerprint now opened =>
      simp only [step, at_stage] at stepped
      exact kept.settle at_stage stepped
    | _ => simp only [step, at_stage, reduceCtorEq] at stepped

/-- In every state that is reached, the invariant holds. -/
theorem reachable_kept (reachable : (system doubles).Reachable run) : Kept doubles run := by
  refine kept_step.reachable ?_ reachable
  rintro _ rfl
  exact ⟨⟨rfl, rfl, nofun⟩, ⟨nofun, nofun, .nil⟩, trivial, nofun⟩

end Settle

/-- Two snapshots of one generation were made from one fingerprint, between the same changes. -/
theorem Kept.agree (kept : Kept doubles run) {first second : Snapshot Number}
    (one : first ∈ run.returned) (other : second ∈ run.returned)
    (same : first.description.generation = second.description.generation) :
    first.fingerprint = second.fingerprint ∧ first.changes = second.changes := by
  have left := (kept.good first one).made
  have right := (kept.good second other).made
  have entries : (⟨first.description.generation, first.fingerprint, first.changes⟩ :
      MadeGeneration Number) = ⟨second.description.generation, second.fingerprint,
        second.changes⟩ := by
    have symmetric : Std.Symm fun left right : MadeGeneration Number => left.uuid ≠ right.uuid :=
      ⟨fun _ _ differs => differs.symm⟩
    by_contra differ
    exact kept.held.distinct.forall left right differ same
  obtain ⟨-, fingerprint, changes⟩ := MadeGeneration.mk.inj entries
  exact ⟨fingerprint, changes⟩

end CaptureRun

/-- The revision and the snapshots, whatever the order of callbacks, changes and accesses. -/
theorem reachable_captures {Number : Type} [DecidableEq Number] (doubles : Doubles Number)
    {run : CaptureRun Number} (reachable : (CaptureRun.system doubles).Reachable run)
    (few : run.revisions.length < 2 ^ 63) : CaptureRun.CaptureLaw doubles run := by
  have kept := CaptureRun.reachable_kept reachable
  have low {count : Nat} (within : count ≤ run.revisions.length) : count < 2 ^ 63 :=
    Nat.lt_of_le_of_lt within few
  refine ⟨kept.counted.counted, kept.counted.increasing few, kept.counted.current,
    fun snapshot member => (kept.good snapshot member).described,
    fun first one second other same => ?_, fun first one second other differ same => ?_,
    fun snapshot member => (kept.good snapshot member).even, fun snapshot member => ?_,
    fun snapshot member => (kept.good snapshot member).recent⟩
  · obtain ⟨fingerprint, -⟩ := kept.agree one other same
    have left := (kept.good first one).described
    rw [same, fingerprint] at left
    exact ⟨fingerprint, Option.some.inj (left.symm.trans (kept.good second other).described)⟩
  · obtain ⟨fingerprint, changes⟩ := kept.agree one other same
    have left := kept.good first one
    have right := kept.good second other
    have revision : first.revision = second.revision := by
      rw [← left.even.2, ← right.even.2, fingerprint]
    rcases differ with counts | selections
    · exact counts (left.call.settled.unique (revision ▸ right.call.settled)
        (low left.call.within.2) (low right.call.within.2))
    · exact selections changes
  · have good := kept.good snapshot member
    exact ⟨good.reading.opened.unique good.reading.settled (low good.reading.within.1)
        (low good.reading.within.2),
      good.call.opened.unique good.call.settled (low good.call.within.1)
        (low good.call.within.2),
      good.reading.settled.unique good.call.settled (low good.reading.within.2)
        (low good.call.within.2)⟩

/-- Whole numbers for the bounds. -/
def wholeDoubles : Doubles Int where
  equal left right := left == right
  finite _ := true
  far number := number < -65536 || 65536 < number
  nonpositive number := number ≤ 0
  large number := 65536 < number

/-- A display that does not change. -/
def sampleAnswers : DisplayAnswers Int :=
  ⟨1, true, some ⟨3840, 2160, 7⟩, ⟨0, 0, 1920, 1080⟩⟩

/-- A snapshot reads the display, a second one is cached, a reconfiguration begins and ends, and a
third one reads the display again. -/
def sampleCapture : List (CaptureLabel Int) :=
  [.snapshot, .load, .clock 100, .read sampleAnswers sampleAnswers, .settle 5,
    .snapshot, .load, .clock 19999000, .settle 0,
    .callback true, .callback false, .exchange 0 false, .snapshot, .load, .exchange 0 false,
    .exchange 0 false,
    .snapshot, .load, .clock 19999500, .read sampleAnswers sampleAnswers, .settle 6]

/-- The law holds at the end of that run. -/
theorem sample_captures : ∃ run : CaptureRun Int,
    run.returned.map (fun snapshot => (snapshot.description.generation, snapshot.cached)) =
      [(5, false), (5, true), (6, false)] ∧ CaptureRun.CaptureLaw wholeDoubles run := by
  obtain ⟨run, ran, facts⟩ := Option.map_eq_some_iff.mp
    (show ((CaptureRun.system wholeDoubles).run {} sampleCapture).map (fun run =>
      (run.returned.map (fun snapshot => (snapshot.description.generation, snapshot.cached)),
        run.revisions.length)) = some ([(5, false), (5, true), (6, false)], 2) from by
          decide +kernel)
  obtain ⟨returned, few⟩ := Prod.mk.inj facts
  exact ⟨run, returned, reachable_captures wholeDoubles
    (Transition.System.reachable_of_run rfl ran) (by rw [few]; decide)⟩

end Plank.Control
