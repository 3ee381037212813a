import Plank.Program.Checked

/-!
# The reverse media clock

The clock that maps source times of the client to host times: anchored to the last sample that the
microphone renderer consumed, and stale after a tenth of a second. Every difference and sum of its
functions is checked: one without a result has left the range of its type.
-/

namespace Plank.Media

/-- The anchor of the clock: a source time of zero where it has none. -/
structure ReverseMediaClock where
  /-- The source time of the anchor. -/
  source : UInt64
  /-- The host time at which the anchor is rendered. -/
  host : UInt64
  /-- The host time at which the anchor was taken. -/
  observed : UInt64
  deriving DecidableEq

namespace ReverseMediaClock

/-- The largest time. -/
def int64Max : Nat := 2 ^ 63 - 1

/-- The clock without an anchor. -/
def clear : ReverseMediaClock := ⟨0, 0, 0⟩

/-- A word as an integer. -/
def number (word : UInt64) : Int := word.toNat

/-- The clock has an anchor that is not stale. -/
def active (clock : ReverseMediaClock) (now : UInt64) : Option Bool :=
  if clock.source ≠ 0 ∧ clock.observed ≤ now then do
    let age ← unsigned (number now - number clock.observed)
    some (age < 100000000)
  else some false

/-- The distance of two times. -/
def distance (host now : UInt64) : Option Int :=
  if now ≤ host then unsigned (number host - number now) else unsigned (number now - number host)

/-- Take an anchor: the clock after it, and whether the anchor was accepted. -/
def observe (clock : ReverseMediaClock) (source host now : UInt64) :
    Option (Bool × ReverseMediaClock) :=
  if source = 0 ∨ int64Max < source.toNat ∨ host = 0 ∨ int64Max < host.toNat ∨ now = 0 then
    some (false, clear)
  else do
    if 100000000 < (← distance host now) then some (false, clear)
    else if (← clock.active now) ∧ (source ≤ clock.source ∨ host ≤ clock.host) then
      some (false, clear)
    else some (true, ⟨source, host, now⟩)

/-- The host time that an anchor moved by a difference stands for is out of range. -/
def beyond (clock : ReverseMediaClock) (delta : Int) : Option Bool :=
  if 0 < delta then do
    let room ← signed (int64Max - delta) >>= unsigned
    some (room < number clock.host)
  else if delta < 0 then do
    let back ← signed (-delta) >>= unsigned
    some (number clock.host ≤ back)
  else some false

/-- A mapped time is too far from the present. -/
def remote (mapped : Int) (now : UInt64) : Option Bool :=
  if number now < mapped then do
    let ahead ← unsigned (mapped - number now)
    some (100000000 < ahead)
  else do
    let behind ← unsigned (number now - mapped)
    some (150000000 < behind)

/-- Map a source time to a host time: zero where it is not mapped. -/
def map (clock : ReverseMediaClock) (source now : UInt64) : Option UInt64 := do
  if !(← clock.active now) ∨ source = 0 ∨ int64Max < source.toNat then some 0
  else
    let here ← signed (number source)
    let anchor ← signed (number clock.source)
    let delta ← signed (here - anchor)
    if delta < -150000000 ∨ 150000000 < delta then some 0
    else if ← clock.beyond delta then some 0
    else
      let host ← signed (number clock.host)
      let mapped ← signed (host + delta) >>= unsigned
      if ← remote mapped now then some 0 else some (UInt64.ofNat mapped.toNat)

/-! ### What the functions compute -/

/-- The clock has an anchor and is not stale. -/
def Active (clock : ReverseMediaClock) (now : UInt64) : Prop :=
  clock.source ≠ 0 ∧ clock.observed.toNat ≤ now.toNat ∧
    now.toNat < clock.observed.toNat + 100000000

instance (clock : ReverseMediaClock) (now : UInt64) : Decidable (clock.Active now) :=
  inferInstanceAs (Decidable (_ ∧ _ ∧ _))

/-- An anchor has times in range and a host time near the present. -/
def Fitting (source host now : UInt64) : Prop :=
  source ≠ 0 ∧ source.toNat ≤ int64Max ∧ host ≠ 0 ∧ host.toNat ≤ int64Max ∧ now ≠ 0 ∧
    host.toNat ≤ now.toNat + 100000000 ∧ now.toNat ≤ host.toNat + 100000000

instance (source host now : UInt64) : Decidable (Fitting source host now) :=
  inferInstanceAs (Decidable (_ ∧ _ ∧ _ ∧ _ ∧ _ ∧ _ ∧ _))

/-- An anchor comes after the one of the clock. -/
def Later (clock : ReverseMediaClock) (source host : UInt64) : Prop :=
  clock.source.toNat < source.toNat ∧ clock.host.toNat < host.toNat

instance (clock : ReverseMediaClock) (source host : UInt64) : Decidable (clock.Later source host) :=
  inferInstanceAs (Decidable (_ ∧ _))

/-- The difference of two words does not wrap the way round in which it is taken. -/
theorem unsigned_difference {more less : UInt64} (ordered : less.toNat ≤ more.toNat) :
    unsigned (number more - number less) = some ((more.toNat - less.toNat : Nat) : Int) := by
  have fits := more.toNat_lt
  have exact' : number more - number less = ((more.toNat - less.toNat : Nat) : Int) := by
    unfold number
    omega
  rw [exact']
  exact unsigned_eq (by omega) (by omega)

/-- Whether the clock is active is computed without an overflow. -/
theorem active_eq (clock : ReverseMediaClock) (now : UInt64) :
    clock.active now = some (decide (clock.Active now)) := by
  unfold active
  by_cases anchored : clock.source ≠ 0 ∧ clock.observed ≤ now
  · have ordered : clock.observed.toNat ≤ now.toNat := UInt64.le_iff_toNat_le.mp anchored.2
    have same : ((now.toNat - clock.observed.toNat : Nat) : Int) < 100000000 ↔
        clock.Active now := by
      unfold Active
      exact ⟨fun young => ⟨anchored.1, ordered, by omega⟩, fun active => by omega⟩
    rw [if_pos anchored, unsigned_difference ordered]
    exact congrArg some (decide_eq_decide.mpr same)
  · have stale : ¬clock.Active now := fun active =>
      anchored ⟨active.1, UInt64.le_iff_toNat_le.mpr active.2.1⟩
    rw [if_neg anchored, decide_eq_false stale]

/-- The distance of two times is computed without an overflow. -/
theorem distance_eq (host now : UInt64) :
    ∃ apart, distance host now = some apart ∧
      (apart ≤ 100000000 ↔
        host.toNat ≤ now.toNat + 100000000 ∧ now.toNat ≤ host.toNat + 100000000) := by
  unfold distance
  by_cases ahead : now ≤ host
  · have ordered : now.toNat ≤ host.toNat := UInt64.le_iff_toNat_le.mp ahead
    rw [if_pos ahead, unsigned_difference ordered]
    exact ⟨_, rfl, by omega⟩
  · have ordered : host.toNat < now.toNat :=
      Nat.lt_of_not_le fun less => ahead (UInt64.le_iff_toNat_le.mpr less)
    rw [if_neg ahead, unsigned_difference (Nat.le_of_lt ordered)]
    exact ⟨_, rfl, by omega⟩

/-- An observation is taken without an overflow: a fitting one is the new anchor, unless the clock
is active and the observation does not come after its anchor, and any other clears the clock. -/
theorem observe_eq (clock : ReverseMediaClock) (source host now : UInt64) :
    clock.observe source host now = some
      (if Fitting source host now ∧ (clock.Active now → clock.Later source host) then
        (true, ⟨source, host, now⟩)
      else (false, clear)) := by
  unfold observe
  by_cases bad : source = 0 ∨ int64Max < source.toNat ∨ host = 0 ∨ int64Max < host.toNat ∨ now = 0
  · have unfit : ¬(Fitting source host now ∧ (clock.Active now → clock.Later source host)) := by
      rintro ⟨⟨source_some, source_fits, host_some, host_fits, now_some, -⟩, -⟩
      obtain none | large | none | large | none := bad
      · exact source_some none
      · omega
      · exact host_some none
      · omega
      · exact now_some none
    rw [if_pos bad, if_neg unfit]
  obtain ⟨apart, computed, near⟩ := distance_eq host now
  rw [if_neg bad]
  simp only [computed, active_eq, Option.bind_eq_bind, Option.bind_some]
  by_cases far : 100000000 < apart
  · have unfit : ¬(Fitting source host now ∧ (clock.Active now → clock.Later source host)) := by
      rintro ⟨⟨-, -, -, -, -, close⟩, -⟩
      exact absurd (near.mpr close) (Int.not_le.mpr far)
    rw [if_pos far, if_neg unfit]
  have close := near.mp (Int.not_lt.mp far)
  have fitting : Fitting source host now := by
    simp only [not_or, Nat.not_lt] at bad
    obtain ⟨source_some, source_fits, host_some, host_fits, now_some⟩ := bad
    exact ⟨source_some, source_fits, host_some, host_fits, now_some, close⟩
  have backwards : source ≤ clock.source ∨ host ≤ clock.host ↔ ¬clock.Later source host := by
    simp only [Later, UInt64.le_iff_toNat_le]
    omega
  rw [if_neg far]
  by_cases refused : clock.Active now ∧ ¬clock.Later source host
  · have unfit : ¬(Fitting source host now ∧ (clock.Active now → clock.Later source host)) :=
      fun accepted => refused.2 (accepted.2 refused.1)
    rw [if_neg unfit, if_pos]
    exact ⟨decide_eq_true refused.1, backwards.mpr refused.2⟩
  · have accepted : Fitting source host now ∧ (clock.Active now → clock.Later source host) :=
      ⟨fitting, fun active => Classical.not_not.mp fun not_later => refused ⟨active, not_later⟩⟩
    rw [if_pos accepted, if_neg]
    exact fun also => refused ⟨of_decide_eq_true also.1, backwards.mp also.2⟩

/-- A clock as the observations leave it: its times are in range, and both are zero or neither. -/
structure Sound (clock : ReverseMediaClock) : Prop where
  /-- The source time is in range. -/
  source_fits : clock.source.toNat ≤ int64Max
  /-- The host time is in range. -/
  host_fits : clock.host.toNat ≤ int64Max
  /-- The host time of an anchor is not zero. -/
  host_some : clock.source ≠ 0 → clock.host ≠ 0

/-- A mapped time of an anchor: the source time moved to the host, in range and near the present. -/
structure Maps (clock : ReverseMediaClock) (source now mapped : UInt64) : Prop where
  /-- The clock has an anchor that is not stale. -/
  active : clock.Active now
  /-- The time is positive. -/
  positive : 0 < mapped.toNat
  /-- The time is in range. -/
  fits : mapped.toNat ≤ int64Max
  /-- The time is as far from the anchor as the source time is. -/
  moved : (mapped.toNat : Int) = clock.host.toNat + ((source.toNat : Int) - clock.source.toNat)
  /-- The time is at most 150 ms past. -/
  past : now.toNat ≤ mapped.toNat + 150000000
  /-- The time is at most 100 ms ahead. -/
  ahead : mapped.toNat ≤ now.toNat + 100000000

/-- Whether a moved anchor is out of range is computed without an overflow. -/
theorem beyond_eq {clock : ReverseMediaClock} (sound : clock.Sound) (anchored : clock.source ≠ 0)
    {delta : Int} (low : -150000000 ≤ delta) (high : delta ≤ 150000000) :
    clock.beyond delta =
      some (decide (¬(0 < number clock.host + delta ∧ number clock.host + delta ≤ int64Max))) := by
  have top : int64Max = 9223372036854775807 := rfl
  have host_fits : number clock.host ≤ int64Max := Int.ofNat_le.mpr sound.host_fits
  have host_positive : 0 < number clock.host := by
    have nonzero : clock.host.toNat ≠ 0 := fun none =>
      sound.host_some anchored (UInt64.toNat_inj.mp none)
    unfold number
    omega
  unfold beyond
  by_cases forward : 0 < delta
  · rw [if_pos forward, signed_eq (by omega) (by omega)]
    simp only [Option.bind_eq_bind, Option.bind_some]
    rw [unsigned_eq (by omega) (by omega)]
    exact congrArg some (decide_eq_decide.mpr (by omega))
  by_cases backward : delta < 0
  · rw [if_neg forward, if_pos backward, signed_eq (by omega) (by omega)]
    simp only [Option.bind_eq_bind, Option.bind_some]
    rw [unsigned_eq (by omega) (by omega)]
    exact congrArg some (decide_eq_decide.mpr (by omega))
  · rw [if_neg forward, if_neg backward, decide_eq_false (by omega)]

/-- Whether a mapped time is remote is computed without an overflow. -/
theorem remote_eq {mapped : Int} (low : 0 ≤ mapped) (high : mapped < 2 ^ 64) (now : UInt64) :
    remote mapped now =
      some (decide (¬(number now ≤ mapped + 150000000 ∧ mapped ≤ number now + 100000000))) := by
  have now_fits := now.toNat_lt
  have now_range : 0 ≤ number now ∧ number now < 2 ^ 64 := by
    unfold number
    omega
  unfold remote
  by_cases ahead : number now < mapped
  · rw [if_pos ahead, unsigned_eq (by omega) (by omega)]
    exact congrArg some (decide_eq_decide.mpr (by omega))
  · rw [if_neg ahead, unsigned_eq (by omega) (by omega)]
    exact congrArg some (decide_eq_decide.mpr (by omega))

/-- A mapping is computed without an overflow, and is zero or a mapped time. -/
theorem map_spec {clock : ReverseMediaClock} (sound : clock.Sound) (source now : UInt64) :
    ∃ mapped, clock.map source now = some mapped ∧
      (mapped ≠ 0 → clock.Maps source now mapped) := by
  have top : int64Max = 9223372036854775807 := rfl
  unfold map
  simp only [active_eq, Option.bind_eq_bind, Option.bind_some]
  by_cases refused : (!decide (clock.Active now)) = true ∨ source = 0 ∨ int64Max < source.toNat
  · exact ⟨0, if_pos refused, fun nonzero => absurd rfl nonzero⟩
  rw [if_neg refused]
  simp only [not_or, Bool.not_eq_true', Bool.not_eq_false, decide_eq_true_eq, Nat.not_lt] at refused
  obtain ⟨active, -, source_fits⟩ := refused
  have here : 0 ≤ number source ∧ number source ≤ int64Max := by
    unfold number
    omega
  have anchor : 0 ≤ number clock.source ∧ number clock.source ≤ int64Max := by
    have fits := sound.source_fits
    unfold number
    omega
  have host : 0 ≤ number clock.host ∧ number clock.host ≤ int64Max := by
    have fits := sound.host_fits
    unfold number
    omega
  rw [@signed_eq (number source) (by omega) (by omega), Option.bind_some,
    @signed_eq (number clock.source) (by omega) (by omega), Option.bind_some]
  generalize delta_eq : number source - number clock.source = delta
  rw [@signed_eq delta (by omega) (by omega), Option.bind_some]
  by_cases wide : delta < -150000000 ∨ 150000000 < delta
  · exact ⟨0, if_pos wide, fun nonzero => absurd rfl nonzero⟩
  rw [if_neg wide, beyond_eq sound active.1 (by omega) (by omega), Option.bind_some]
  by_cases inside : 0 < number clock.host + delta ∧ number clock.host + delta ≤ int64Max
  · rw [if_neg fun out => absurd inside (of_decide_eq_true out),
      @signed_eq (number clock.host) (by omega) (by omega), Option.bind_some,
      @signed_eq (number clock.host + delta) (by omega) (by omega), Option.bind_some,
      unsigned_eq (by omega) (by omega), Option.bind_some]
    generalize mapped_eq : number clock.host + delta = mapped at inside ⊢
    rw [remote_eq (by omega) (by omega), Option.bind_some]
    by_cases near : number now ≤ mapped + 150000000 ∧ mapped ≤ number now + 100000000
    · have exact' : (UInt64.ofNat mapped.toNat).toNat = mapped.toNat := Nat.mod_eq_of_lt (by omega)
      refine ⟨UInt64.ofNat mapped.toNat, if_neg fun far => absurd near (of_decide_eq_true far),
        fun _ => ?_⟩
      unfold number at delta_eq mapped_eq near
      exact ⟨active, by omega, by omega, by omega, by omega, by omega⟩
    · exact ⟨0, if_pos (decide_eq_true near), fun nonzero => absurd rfl nonzero⟩
  · exact ⟨0, if_pos (decide_eq_true inside), fun nonzero => absurd rfl nonzero⟩

/-! ### Every run of the clock -/

/-- What is done with the clock of a session. -/
inductive Call where
  /-- The clock is cleared. -/
  | clear
  /-- An anchor is offered. -/
  | observe (source host now : UInt64)
  /-- A source time is mapped. -/
  | map (source now : UInt64)

/-- What a call came to. -/
inductive Entry where
  /-- The clock was cleared, by a call or by an observation that it refused. -/
  | cleared
  /-- An anchor was accepted, by a clock that was active or by one that was not. -/
  | anchored (source host : UInt64) (active : Bool)
  /-- A source time was mapped. -/
  | mapped (source now mapped : UInt64)
  deriving DecidableEq

/-- A call, with what it came to noted in front of a log. -/
def perform (state : ReverseMediaClock × List Entry) :
    Call → Option (ReverseMediaClock × List Entry)
  | .clear => some (clear, .cleared :: state.2)
  | .observe source host now => do
    let active ← state.1.active now
    let (accepted, after) ← state.1.observe source host now
    some (after, (if accepted then .anchored source host active else .cleared) :: state.2)
  | .map source now => do
    let mapped ← state.1.map source now
    some (state.1, .mapped source now mapped :: state.2)

/-- Calls in order, from a state. -/
def performAll (state : ReverseMediaClock × List Entry) :
    List Call → Option (ReverseMediaClock × List Entry)
  | [] => some state
  | call :: calls => do performAll (← perform state call) calls

/-- The anchors accepted since the clock was last cleared, the latest first. -/
def sinceCleared : List Entry → List (UInt64 × UInt64)
  | [] => []
  | .cleared :: _ => []
  | .anchored source host _ :: before => (source, host) :: sinceCleared before
  | .mapped _ _ _ :: before => sinceCleared before

/-- The anchors accepted since the clock was last cleared or found inactive, the latest first. -/
def sinceActive : List Entry → List (UInt64 × UInt64)
  | [] => []
  | .cleared :: _ => []
  | .anchored source host active :: before =>
    (source, host) :: if active then sinceActive before else []
  | .mapped _ _ _ :: before => sinceActive before

/-- Anchors with strictly increasing source and host times, the latest first. -/
def Increasing (anchors : List (UInt64 × UInt64)) : Prop :=
  anchors.Pairwise fun later earlier =>
    earlier.1.toNat < later.1.toNat ∧ earlier.2.toNat < later.2.toNat

/-- What holds of the clock and its log after every call. -/
structure Kept (state : ReverseMediaClock × List Entry) : Prop where
  /-- The clock is sound. -/
  sound : state.1.Sound
  /-- The anchors of the clock increase. -/
  increasing : Increasing (sinceActive state.2)
  /-- The clock has the latest anchor, or none. -/
  latest : (sinceActive state.2 = [] ∧ state.1 = clear) ∨
    (state.1.source ≠ 0 ∧ ∃ before, sinceActive state.2 = (state.1.source, state.1.host) :: before)

/-- The clock without an anchor is sound. -/
theorem sound_clear : clear.Sound :=
  ⟨Nat.zero_le _, Nat.zero_le _, fun anchored => absurd rfl anchored⟩

/-- A call is carried out without an overflow and keeps the invariant. -/
theorem Kept.perform {state : ReverseMediaClock × List Entry} (kept : Kept state) (call : Call) :
    ∃ after, ReverseMediaClock.perform state call = some after ∧ Kept after := by
  obtain ⟨clock, log⟩ := state
  cases call with
  | clear =>
    exact ⟨(clear, .cleared :: log), rfl, sound_clear, List.Pairwise.nil, .inl ⟨rfl, rfl⟩⟩
  | map source now =>
    obtain ⟨mapped, computed, -⟩ := map_spec kept.sound source now
    refine ⟨(clock, .mapped source now mapped :: log), ?_, kept.sound, kept.increasing, kept.latest⟩
    simp only [ReverseMediaClock.perform, computed, Option.bind_eq_bind, Option.bind_some]
  | observe source host now =>
    simp only [ReverseMediaClock.perform, active_eq, observe_eq, Option.bind_eq_bind,
      Option.bind_some]
    by_cases accepted : Fitting source host now ∧ (clock.Active now → clock.Later source host)
    · rw [if_pos accepted]
      obtain ⟨⟨source_some, source_fits, host_some, host_fits, -⟩, later⟩ := accepted
      refine ⟨(⟨source, host, now⟩, .anchored source host (decide (clock.Active now)) :: log), rfl,
        ⟨source_fits, host_fits, fun _ => host_some⟩, ?_, .inr ⟨source_some, _, rfl⟩⟩
      by_cases active : clock.Active now
      · have after : clock.Later source host := later active
        obtain ⟨-, none⟩ | ⟨-, before, anchors⟩ := kept.latest
        · exact absurd (congrArg ReverseMediaClock.source none) active.1
        have chain : Increasing ((clock.source, clock.host) :: before) := by
          rw [← anchors]
          exact kept.increasing
        have passed (anchor : UInt64 × UInt64) (member : anchor ∈ sinceActive log) :
            anchor.1.toNat < source.toNat ∧ anchor.2.toNat < host.toNat := by
          rw [show sinceActive log = _ from anchors] at member
          obtain rfl | earlier := List.mem_cons.mp member
          · exact after
          · obtain ⟨source_before, host_before⟩ := List.rel_of_pairwise_cons chain earlier
            exact ⟨Nat.lt_trans source_before after.1, Nat.lt_trans host_before after.2⟩
        show Increasing (_ :: if decide (clock.Active now) = true then sinceActive log else [])
        rw [if_pos (decide_eq_true active)]
        exact List.Pairwise.cons passed kept.increasing
      · show Increasing (_ :: if decide (clock.Active now) = true then sinceActive log else [])
        rw [if_neg fun yes => absurd (of_decide_eq_true yes) active]
        exact List.pairwise_singleton _ _
    · rw [if_neg accepted]
      exact ⟨(clear, .cleared :: log), rfl, sound_clear, List.Pairwise.nil, .inl ⟨rfl, rfl⟩⟩

/-- Calls in order are carried out without an overflow and keep the invariant. -/
theorem Kept.performAll {state : ReverseMediaClock × List Entry} (kept : Kept state)
    (calls : List Call) :
    ∃ after, ReverseMediaClock.performAll state calls = some after ∧ Kept after := by
  induction calls generalizing state with
  | nil => exact ⟨state, rfl, kept⟩
  | cons call calls ih =>
    obtain ⟨next, done, kept_next⟩ := kept.perform call
    obtain ⟨after, rest, kept_after⟩ := ih kept_next
    exact ⟨after, by simp only [ReverseMediaClock.performAll, done, Option.bind_eq_bind,
      Option.bind_some, rest], kept_after⟩

/-- What holds of a clock and its log after a run of calls. -/
structure Law (clock : ReverseMediaClock) (log : List Entry) : Prop where
  /-- A source time is mapped without an overflow: to zero, or to a time in range that is as far
  from the anchor as the source time and near the present. -/
  maps : ∀ source now, ∃ mapped, clock.map source now = some mapped ∧
    (mapped ≠ 0 → clock.Maps source now mapped)
  /-- For a fixed anchor, a later source time is mapped to a later time. -/
  monotone : ∀ earlier later now now' mapped mapped', clock.map earlier now = some mapped →
    clock.map later now' = some mapped' → mapped ≠ 0 → mapped' ≠ 0 →
      earlier.toNat < later.toNat → mapped.toNat < mapped'.toNat
  /-- An observation is taken without an overflow: it is the new anchor if it fits and, where the
  clock is active, comes after its anchor, and otherwise the clock is cleared. -/
  observes : ∀ source host now, clock.observe source host now = some
    (if Fitting source host now ∧ (clock.Active now → clock.Later source host) then
      (true, ⟨source, host, now⟩)
    else (false, ReverseMediaClock.clear))
  /-- The clock is active only with the last of the anchors accepted since it was cleared or found
  inactive, and these have strictly increasing source and host times. -/
  anchors : ∀ now, clock.Active now →
    Increasing (sinceActive log) ∧
      ∃ before, sinceActive log = (clock.source, clock.host) :: before
  /-- A clock without such an anchor is cleared. -/
  cleared : sinceActive log = [] → clock = ReverseMediaClock.clear

/-- After every run of calls with any times, none of which overflows, the clock obeys its law. -/
theorem reachable_clock (calls : List Call) :
    ∃ clock log, performAll (clear, []) calls = some (clock, log) ∧ Law clock log := by
  have start : Kept (clear, []) := ⟨sound_clear, List.Pairwise.nil, .inl ⟨rfl, rfl⟩⟩
  obtain ⟨⟨clock, log⟩, done, kept⟩ := start.performAll calls
  have mapped_of {source now mapped} (computed : clock.map source now = some mapped)
      (nonzero : mapped ≠ 0) : clock.Maps source now mapped := by
    obtain ⟨other, same, good⟩ := map_spec kept.sound source now
    obtain rfl := Option.some.inj (computed.symm.trans same)
    exact good nonzero
  refine ⟨clock, log, done, fun source now => map_spec kept.sound source now, ?_,
    fun source host now => observe_eq clock source host now, ?_, ?_⟩
  · intro earlier later now now' mapped mapped' computed computed' nonzero nonzero' ordered
    have first := (mapped_of computed nonzero).moved
    have second := (mapped_of computed' nonzero').moved
    omega
  · intro now active
    obtain ⟨-, none⟩ | ⟨-, latest⟩ := kept.latest
    · exact absurd (congrArg ReverseMediaClock.source none) active.1
    · exact ⟨kept.increasing, latest⟩
  · intro empty
    obtain ⟨-, none⟩ | ⟨-, before, latest⟩ := kept.latest
    · exact none
    · rw [empty] at latest
      exact absurd latest (List.cons_ne_nil _ _).symm

/-- A clock that has become stale accepts an anchor with earlier times without having been cleared:
the clock is then active, and the anchors since it was last cleared do not increase. -/
theorem stale_clock_turns_back :
    ∃ clock log, performAll (clear, [])
        [.observe 2000000000 2000000000 2000000000, .observe 1000000000 2500000000 2500000000] =
          some (clock, log) ∧
      clock.Active 2500000000 ∧ ¬Increasing (sinceCleared log) := by
  refine ⟨⟨1000000000, 2500000000, 2500000000⟩,
    [.anchored 1000000000 2500000000 false, .anchored 2000000000 2000000000 false], ?_, ?_, ?_⟩
  · decide +kernel
  · decide
  · intro increasing
    have backwards := (List.rel_of_pairwise_cons increasing (List.mem_singleton_self _)).1
    exact absurd backwards (by decide)

end ReverseMediaClock

end Plank.Media
