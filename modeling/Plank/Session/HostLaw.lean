import Plank.Session.Operations

/-!
# Displays and streams in every run

One operation works on the display at a time, and only while every stream has stopped. What is
prepared is released behind the stream or by a timer, unless its restoration failed, and behind a
shutdown nothing is prepared any more. A timer of an older generation has no effect until the
generations have all been used.
-/

namespace Plank.Session

open Dialogue (Obeys)

variable {setup : Setup}

/-- The operation that has the display, if there is one, obeys. -/
structure Ordered (setup : Setup) (host : Host) : Prop where
  /-- The runtime is sound. -/
  sound : Sound host.runtime
  /-- There is no worker, or the one that has the display. -/
  workers : (host.workers = [] ∧ host.runtime.displayOperation = none ∧ Arranged host.runtime) ∨
    ∃ worker, host.workers = [worker] ∧
      host.runtime.displayOperation = some worker.number ∧
      (worker.operation = .release true → host.runtime.stopping = true) ∧
      worker.program.Obeys (discipline setup) (fun _ found => worker.operation.Ensures found)
        host.runtime

/-- Others leave it so. -/
theorem Ordered.disturb {host : Host} (ordered : Ordered setup host) {runtime : Runtime}
    (disturbs : Disturbs host.runtime runtime) : Ordered setup { host with runtime } := by
  have steadily := steady disturbs
  refine ⟨sound_disturbs disturbs ordered.sound, ?_⟩
  obtain ⟨idle, free, arranged⟩ | ⟨worker, only, pending, stopping, obeys⟩ := ordered.workers
  · exact .inl ⟨idle, steadily.operation.trans free, arranged.steady _ _ steadily⟩
  · exact .inr ⟨worker, only, steadily.operation.trans pending,
      fun last => steadily.stopping (stopping last), obeys.disturbed disturbs⟩

/-- What is reserved is for one worker. -/
theorem Ordered.reserve {host : Host} (sound : Sound host.runtime) (idle : host.workers = [])
    {operation : Operation} (begins : operation.Begins host.runtime)
    (stopping : operation = .release true → host.runtime.stopping = true) :
    Ordered setup (host.reserve setup operation) := by
  have reserved : Sound (host.reserve setup operation).runtime :=
    ⟨sound.current, sound.hooked, sound.generation, sound.hooks, sound.releases, sound.shutdowns,
      sound.draining, sound.shutdown, sound.completed⟩
  refine ⟨reserved, .inr ⟨⟨host.runtime.operations, operation, operation.program setup⟩, ?_, rfl,
    stopping, operation.obeys reserved ?_⟩⟩
  · unfold Host.reserve
    rw [idle, List.nil_append]
  · cases operation with
    | prepare token peer takeover => exact ⟨begins.arranged, begins.running⟩
    | recover => exact begins
    | release shutdown => exact begins

/-- An operation may begin while the runtime is not stopping. -/
theorem Ordered.reserveDisplayOperation {host after : Host} (ordered : Ordered setup host)
    {operation : Operation} (ordinary : ∀ shutdown, operation ≠ .release shutdown)
    (reserves : host.reserveDisplayOperation setup operation = some after) :
    Ordered setup after := by
  unfold Host.reserveDisplayOperation at reserves
  split at reserves
  · exact nomatch reserves
  case isFalse admits =>
    obtain rfl := Option.some.inj reserves
    simp only [Bool.or_eq_true, not_or, Bool.not_eq_true, Option.isSome_eq_false_iff,
      Option.isNone_iff_eq_none] at admits
    obtain ⟨⟨free, -⟩, running⟩ := admits
    obtain ⟨idle, -, arranged⟩ | ⟨worker, -, pending, -⟩ := ordered.workers
    · refine Ordered.reserve ordered.sound idle ?_ fun same => (ordinary true same).elim
      cases operation with
      | prepare token peer takeover =>
        refine ⟨arranged, ?_⟩
        cases completed : host.runtime.completed with
        | false => rfl
        | true => exact nomatch running.symm.trans (ordered.sound.completed completed).1
      | recover => exact arranged
      | release shutdown => exact (ordinary shutdown rfl).elim
    · exact nomatch free.symm.trans pending

/-- Every stream has stopped where none is active. -/
theorem allStopped_of_inactive {runtime : Runtime} (sound : Sound runtime)
    (inactive : runtime.active = false) : AllStopped runtime := by
  refine allStopped_of_stream sound ?_
  unfold Runtime.active at inactive
  cases stream : runtime.stream with
  | none => rfl
  | some index =>
    rw [stream, Option.any_some] at inactive
    simpa using inactive

/-- Nothing is active where every stream has stopped. -/
theorem inactive_of_allStopped {runtime : Runtime} (all : AllStopped runtime) :
    runtime.active = false := by
  unfold Runtime.active
  cases runtime.stream with
  | none => rfl
  | some index => rw [Option.any_some, all index, Bool.not_true]

/-- What is sound stays so where a release is taken from those that are to be tried. -/
theorem Sound.erase {runtime : Runtime} (sound : Sound runtime) (index : Nat) :
    Sound { runtime with releases := runtime.releases.eraseIdx index } :=
  ⟨sound.current, sound.hooked, sound.generation, sound.hooks,
    fun release member => sound.releases release (List.mem_of_mem_eraseIdx member),
    sound.shutdowns, sound.draining,
    fun release member => sound.shutdown release (List.mem_of_mem_eraseIdx member),
    sound.completed⟩

/-- A release that is not the one that is taken is still to be tried. -/
theorem mem_eraseIdx_of_ne {releases : List Release} {index : Nat} {release other : Release}
    (there : releases[index]? = some release) (member : other ∈ releases)
    (differs : other ≠ release) : other ∈ releases.eraseIdx index := by
  obtain ⟨position, same⟩ := List.getElem?_of_mem member
  refine List.mem_eraseIdx_iff_getElem?.mpr ⟨position, ?_, same⟩
  rintro rfl
  exact differs (Option.some.inj (same.symm.trans there))

/-- A release that is dropped is not the one that what is prepared waits for. -/
theorem Ordered.drop {host : Host} (ordered : Ordered setup host) (idle : host.workers = [])
    (free : host.runtime.displayOperation = none) (arranged : Arranged host.runtime) {index : Nat}
    {release : Release} (there : host.runtime.releases[index]? = some release)
    (dropped : ((release.ticket.generation ≠ Host.everyGeneration &&
      release.ticket.generation ≠ host.runtime.displayGeneration) || host.runtime.active) = true) :
    Ordered setup { host with runtime := { host.runtime with
      releases := host.runtime.releases.eraseIdx index
      completed := host.runtime.completed || release.shutdown } } := by
  have sound := ordered.sound
  have ordinary : release.shutdown = false := by
    by_contra last
    obtain ⟨-, all, every⟩ := sound.shutdown release (List.mem_of_getElem? there)
      ((Bool.not_eq_false _).mp last)
    rw [inactive_of_allStopped all, every] at dropped
    exact nomatch dropped
  rw [ordinary, Bool.or_false]
  refine ⟨sound.erase index, .inl ⟨idle, free, fun prepared => ?_⟩⟩
  obtain failed | ⟨other, member, same⟩ | hook := arranged prepared
  · exact .inl failed
  · by_cases taken : other = release
    · -- The release is of the generation now, so it is a stream that it is dropped for.
      subst taken
      have active : host.runtime.active = true := by
        rw [Bool.or_eq_true] at dropped
        refine dropped.resolve_left fun stale => ?_
        rw [Bool.and_eq_true, decide_eq_true_eq, decide_eq_true_eq] at stale
        exact stale.2 (congrArg Ticket.generation same)
      unfold Runtime.active at active
      cases stream : host.runtime.stream with
      | none =>
        rw [stream] at active
        exact nomatch active
      | some current =>
        rw [stream, Option.any_some, Bool.not_eq_true'] at active
        exact .inr (.inr ⟨current, sound.hooked prepared current active⟩)
    · exact .inr (.inl ⟨other, mem_eraseIdx_of_ne there member taken, same⟩)
  · exact .inr (.inr hook)

/-- A release that is tried is dropped, waits, or becomes the operation. -/
theorem Ordered.releaseDisplayGeneration {host : Host} (ordered : Ordered setup host) {index : Nat}
    {release : Release} (there : host.runtime.releases[index]? = some release) :
    Ordered setup (host.releaseDisplayGeneration setup index release) := by
  unfold Host.releaseDisplayGeneration
  dsimp only
  by_cases pending : host.runtime.displayOperation.isSome = true
  · rw [if_pos pending]
    exact ordered
  rw [if_neg pending]
  rw [Option.not_isSome_iff_eq_none] at pending
  obtain ⟨idle, free, arranged⟩ | ⟨worker, -, busy, -⟩ := ordered.workers
  · by_cases dropped : ((release.ticket.generation ≠ Host.everyGeneration &&
        release.ticket.generation ≠ host.runtime.displayGeneration) ||
          host.runtime.active) = true
    · rw [if_pos dropped]
      exact ordered.drop idle free arranged there dropped
    · rw [if_neg dropped]
      have inactive := (Bool.or_eq_false_iff.mp (Bool.eq_false_iff.mpr dropped)).2
      refine @Ordered.reserve setup { host with runtime := { host.runtime with
        releases := host.runtime.releases.eraseIdx index } } (ordered.sound.erase index) idle
        (.release release.shutdown)
        (show AllStopped host.runtime from allStopped_of_inactive ordered.sound inactive)
        fun same => ?_
      have last := Operation.release.inj same
      exact (ordered.sound.shutdown release (List.mem_of_getElem? there) last).1
  · exact nomatch pending.symm.trans busy

/-- Only the reservation expires. -/
theorem expire_eq (runtime : Runtime) (moment : Moment) :
    ∃ takeover, runtime.expire moment = { runtime with takeover } := by
  unfold Runtime.expire
  split
  · exact ⟨none, rfl⟩
  · exact ⟨runtime.takeover, rfl⟩

/-- What is sound stays so where a stream is launched that releases what is prepared. -/
theorem Sound.build {runtime : Runtime} (sound : Sound runtime) (running : runtime.stopping = false)
    (inactive : runtime.active = false) (takeover : Option Reservation) {stream : Stream}
    (hook : stream.didStop = if runtime.displayPrepared then some runtime.ticket else none) :
    Sound { runtime.setStream runtime.count stream with
      stream := some runtime.count
      count := runtime.count + 1
      takeover } := by
  have all := allStopped_of_inactive sound inactive
  have unasked : runtime.shutdowns = [] := by
    by_contra asked
    exact nomatch running.symm.trans (sound.shutdowns asked)
  refine ⟨fun index active => ?_, fun prepared index active => ?_, sound.generation,
    fun index ticket pending => ?_, sound.releases, fun asked => (asked unasked).elim,
    fun other member => ?_, fun release member last => ?_, fun done => ?_⟩ <;> dsimp only at *
  · by_cases same : index = runtime.count
    · rw [same]
    · rw [setStream_of_ne runtime _ same, all index] at active
      exact nomatch active
  · by_cases same : index = runtime.count
    · subst same
      rw [setStream_self, hook]
      exact if_pos prepared
    · rw [setStream_of_ne runtime _ same, all index] at active
      exact nomatch active
  · by_cases same : index = runtime.count
    · subst same
      rw [setStream_self, hook] at pending
      split at pending
      · obtain rfl := Option.some.inj pending
        exact ⟨Nat.le_refl _, sound.generation⟩
      · exact nomatch pending
    · rw [setStream_of_ne runtime _ same] at pending
      exact sound.hooks index ticket pending
  · exact nomatch (unasked ▸ member : Shutdown.draining other ∈ [])
  · exact nomatch running.symm.trans (sound.shutdown release member last).1
  · exact nomatch running.symm.trans (sound.completed done).1

/-- What is sound stays so where no stream can be made. -/
theorem Sound.unbuild {runtime : Runtime} (sound : Sound runtime)
    (running : runtime.stopping = false) (inactive : runtime.active = false) :
    Sound { runtime with
      stream := none
      releases := runtime.releases ++ [{ ticket := runtime.ticket }] } := by
  have all := allStopped_of_inactive sound inactive
  have unasked : runtime.shutdowns = [] := by
    by_contra asked
    exact nomatch running.symm.trans (sound.shutdowns asked)
  refine ⟨fun index active => ?_, sound.hooked, sound.generation, sound.hooks,
    fun release member ordinary => ?_, sound.shutdowns, fun other member => ?_,
    fun release member last => ?_, sound.completed⟩
  · exact nomatch (all index).symm.trans active
  · obtain before | new := List.mem_append.mp member
    · exact sound.releases release before ordinary
    · obtain rfl := List.mem_singleton.mp new
      exact ⟨Nat.le_refl _, sound.generation⟩
  · exact nomatch (unasked ▸ member : Shutdown.draining other ∈ [])
  · obtain before | new := List.mem_append.mp member
    · exact sound.shutdown release before last
    · rw [List.mem_singleton.mp new] at last
      exact nomatch last

/-- A launch makes a stream that releases what is prepared. -/
theorem Ordered.launch {host : Host} (ordered : Ordered setup host) (request : Launch) :
    Ordered setup { host with runtime := host.runtime.launch request } := by
  unfold Runtime.launch
  by_cases closed : (host.runtime.stopping || !host.runtime.started ||
      host.runtime.displayOperation.isSome || host.runtime.displayRestorationFailed ||
      !request.inScope) = true
  · rw [if_pos closed]
    exact ordered
  rw [if_neg closed]
  simp only [Bool.or_eq_true, not_or, Bool.not_eq_true, Option.isSome_eq_false_iff,
    Option.isNone_iff_eq_none] at closed
  obtain ⟨⟨⟨⟨running, -⟩, free⟩, -⟩, -⟩ := closed
  obtain ⟨idle, -, arranged⟩ | ⟨worker, -, busy, -⟩ := ordered.workers
  case inr => exact nomatch free.symm.trans busy
  obtain ⟨takeover, expired⟩ := expire_eq host.runtime request.moment
  have sound := ordered.sound.reserve takeover
  rw [expired]
  dsimp only
  split
  · exact ⟨sound, .inl ⟨idle, free, arranged⟩⟩
  case isFalse admitted =>
    simp only [Bool.or_eq_true, not_or, Bool.not_eq_true] at admitted
    have inactive := admitted.1.2
    split
    · refine ⟨sound.unbuild running inactive, .inl ⟨idle, free, fun _ => .inr (.inl ?_)⟩⟩
      exact ⟨_, List.mem_append_right _ List.mem_cons_self, rfl⟩
    · refine ⟨sound.build running inactive _ rfl,
        .inl ⟨idle, free, fun prepared => .inr (.inr ⟨host.runtime.count, ?_⟩)⟩⟩
      exact (congrArg Stream.didStop (setStream_self _ host.runtime.count _)).trans
        (if_pos prepared)

/-- What the steps of an operation leave of the runtime. -/
structure Pending (runtime after : Runtime) : Prop where
  /-- A shutdown has begun, or has not. -/
  stopping : after.stopping = runtime.stopping
  /-- The operation is pending. -/
  operation : after.displayOperation = runtime.displayOperation
  /-- There are no other streams. -/
  count : after.count = runtime.count

/-- A step of an operation leaves it so. -/
theorem pending_respond {runtime after : Runtime} {query : Query} {answer : query.Answer}
    (responds : runtime.respond setup query answer = some after) : Pending runtime after := by
  have unchanged : Pending runtime runtime := ⟨rfl, rfl, rfl⟩
  cases query with
  | valid | permitted | reserveTakeover | takeOver | releaseDisplay | prepareDisplay
  | topologyMatches | recoverDisplay =>
    obtain rfl := Option.some.inj responds
    exact unchanged
  | keepReservation | dropReservation | restoreEnds | markPrepared | schedule =>
    obtain rfl := Option.some.inj responds
    exact ⟨rfl, rfl, rfl⟩
  | streamActive | drained | readGeneration | restoreBegins =>
    unfold Runtime.respond at responds
    dsimp only at responds
    split at responds
    · obtain rfl := Option.some.inj responds
      exact ⟨rfl, rfl, rfl⟩
    · exact nomatch responds
  | check token peer takeover =>
    obtain ⟨moment, verdict⟩ := answer
    obtain ⟨reservation, expired⟩ := expire_eq runtime moment
    unfold Runtime.respond at responds
    dsimp only at responds
    split at responds <;> split at responds
    · obtain rfl := Option.some.inj responds
      exact unchanged
    · exact nomatch responds
    · obtain rfl := Option.some.inj responds
      rw [expired]
      exact ⟨rfl, rfl, rfl⟩
    · exact nomatch responds

/-- A worker takes a step, and leaves it so. -/
theorem Ordered.answer {host after : Host} (ordered : Ordered setup host) {index : Nat}
    {reply : (query : Query) → query.Answer}
    (stepped : host.step setup (.answer index reply) = some after) : Ordered setup after := by
  unfold Host.step at stepped
  dsimp only at stepped
  split at stepped
  case h_2 => exact nomatch stepped
  case h_1 number operation query next there =>
    obtain ⟨runtime, responds, same⟩ := Option.bind_eq_some_iff.mp stepped
    obtain rfl := Option.some.inj same
    obtain ⟨idle, -⟩ | ⟨worker, only, pending, stopping, obeys⟩ := ordered.workers
    · rw [idle] at there
      exact nomatch there
    · rw [only] at there ⊢
      cases index with
      | succ index => exact nomatch there
      | zero =>
        obtain rfl := Option.some.inj there
        have still := pending_respond responds
        exact ⟨sound_respond ordered.sound (obeys.allowed ordered.sound) responds,
          .inr ⟨_, rfl, still.operation.trans pending,
            fun last => still.stopping.trans (stopping last),
            obeys.answers ordered.sound responds⟩⟩

/-- A worker finishes, and leaves nothing prepared that is not known. -/
theorem Ordered.finish {host after : Host} (ordered : Ordered setup host) {index : Nat}
    (stepped : host.step setup (.finish index) = some after) : Ordered setup after := by
  unfold Host.step at stepped
  dsimp only at stepped
  split at stepped
  case h_2 => exact nomatch stepped
  case h_1 number operation result there =>
    obtain rfl := Option.some.inj stepped
    obtain ⟨idle, -⟩ | ⟨worker, only, pending, stopping, obeys⟩ := ordered.workers
    · rw [idle] at there
      exact nomatch there
    · rw [only] at there ⊢
      cases index with
      | succ index => exact nomatch there
      | zero =>
        obtain rfl := Option.some.inj there
        obtain ⟨arranged, released⟩ := obeys.ends ordered.sound
        have sound := ordered.sound
        refine ⟨⟨sound.current, sound.hooked, sound.generation, sound.hooks, sound.releases,
          sound.shutdowns, sound.draining, sound.shutdown, fun done => ?_⟩,
          .inl ⟨rfl, rfl, arranged⟩⟩
        obtain before | last := Bool.or_eq_true_iff.mp done
        · exact sound.completed before
        · have last := of_decide_eq_true last
          obtain ⟨all, failed⟩ := released true last
          exact ⟨stopping last, all, failed⟩

/-- Every step keeps it so. -/
theorem ordered_step {host after : Host} {action : Action} (ordered : Ordered setup host)
    (stepped : host.step setup action = some after) : Ordered setup after := by
  cases action with
  | answer index reply => exact ordered.answer stepped
  | finish index => exact ordered.finish stepped
  | start =>
    obtain rfl := Option.some.inj stepped
    exact ordered.disturb (.start _)
  | stop =>
    obtain rfl := Option.some.inj stepped
    exact ordered.disturb (.stop _)
  | launch request =>
    obtain rfl := Option.some.inj stepped
    exact ordered.launch request
  | prepare token peer takeover | recover =>
    unfold Host.step at stepped
    dsimp only at stepped
    split at stepped
    · refine ordered.reserveDisplayOperation ?_ stepped
      exact fun _ same => nomatch same
    · exact nomatch stepped
  | release index =>
    obtain ⟨release, there, rfl⟩ := Option.map_eq_some_iff.mp stepped
    exact ordered.releaseDisplayGeneration there
  | streamStops index =>
    unfold Host.step at stepped
    dsimp only at stepped
    split at stepped
    · obtain rfl := Option.some.inj stepped
      exact ordered.disturb (.streamStops _ index)
    · exact nomatch stepped
  | didStop index =>
    unfold Host.step at stepped
    dsimp only at stepped
    split at stepped
    case h_2 => exact nomatch stepped
    case h_1 ticket pending =>
      split at stepped
      case isFalse => exact nomatch stepped
      case isTrue stopped =>
        obtain rfl := Option.some.inj stepped
        exact ordered.disturb (.didStop _ index ticket pending stopped)
  | shutdownLooks index =>
    unfold Host.step at stepped
    dsimp only at stepped
    split at stepped
    case isFalse => exact nomatch stepped
    case isTrue requested =>
      obtain rfl := Option.some.inj stepped
      exact ordered.disturb (.shutdownLooks _ index requested)
  | shutdownDrained index =>
    unfold Host.step at stepped
    dsimp only at stepped
    split at stepped
    case h_2 => exact nomatch stepped
    case h_1 stream draining =>
      split at stepped
      case isFalse => exact nomatch stepped
      case isTrue stopped =>
        obtain rfl := Option.some.inj stepped
        refine ordered.disturb (.shutdownDrained _ index stream draining fun other same => ?_)
        rw [same, Option.all_some] at stopped
        exact stopped

/-- In every state that is reached it is so. -/
theorem reachable_ordered {host : Host} (reachable : (Host.system setup).Reachable host) :
    Ordered setup host := by
  refine @Transition.System.Reachable.keeps _ _ _ (Ordered setup)
    (fun _ _ _ _ ordered stepped => ordered_step ordered stepped) ?_ _ reachable
  rintro _ rfl
  refine ⟨?_, .inl ⟨rfl, rfl, nofun⟩⟩
  constructor
  case current => exact fun _ active => nomatch active
  case hooked => exact fun none => nomatch none
  case generation => rfl
  case hooks => exact fun _ _ none => nomatch none
  case shutdowns => exact fun asked => (asked rfl).elim
  case completed => exact fun none => nomatch none
  all_goals exact fun _ member => nomatch member

end Plank.Session
