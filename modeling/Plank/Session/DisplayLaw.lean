import Plank.Session.HostLaw

/-!
# What is promised of the display

The law of every state that the host reaches, and the one thing that ends it: when all generations
have been used, a timer of the last one is taken for a shutdown.
-/

namespace Plank.Session

open Dialogue (Obeys)

variable {setup : Setup}

/-- A step that changes the display. -/
def Query.changesDisplay : Query → Bool
  | .releaseDisplay | .prepareDisplay _ _ | .recoverDisplay => true
  | _ => false

/-- What is promised of every state that is reached. -/
structure DisplayLaw (setup : Setup) (host : Host) : Prop where
  /-- No two operations overlap. -/
  alone : host.workers.length ≤ 1
  /-- One is pending while there is a worker. -/
  pending : host.runtime.displayOperation = none ↔ host.workers = []
  /-- The display is changed only while every stream has stopped. -/
  stopped : ∀ worker ∈ host.workers, ∀ query, worker.program.asks = some query →
    query.changesDisplay = true → AllStopped host.runtime
  /-- It is prepared only for the peer that has the reservation, if there is one. -/
  mine : ∀ worker ∈ host.workers, ∀ token peer,
    worker.program.asks = some (.prepareDisplay token peer) → Mine token peer host.runtime
  /-- A release of an older generation has no effect, while not all generations have been used. -/
  stale : host.runtime.restorations < 2 ^ 64 → ∀ index release after,
    host.runtime.releases[index]? = some release → release.shutdown = false →
      release.ticket.issued < host.runtime.restorations →
        host.step setup (.release index) = some after →
          after = host ∨ after = { host with runtime := { host.runtime with
            releases := host.runtime.releases.eraseIdx index } }
  /-- A stream is launched while no operation is pending and every stream has stopped, not behind a
  restoration that failed, and only for the peer that has a reservation that is live. -/
  launches : ∀ action after, host.step setup action = some after →
    after.runtime.count ≠ host.runtime.count → ∃ request, action = .launch request ∧
      host.workers = [] ∧ host.runtime.displayRestorationFailed = false ∧
        AllStopped host.runtime ∧ ∀ reservation, host.runtime.takeover = some reservation →
          reservation.live request.moment = true →
            reservation.token = request.token ∧ reservation.peer = request.peer
  /-- What is prepared while no operation is pending is released behind a stream or by a timer of
  its generation, unless its restoration has failed. -/
  due : host.runtime.displayPrepared = true → host.workers = [] → Due host.runtime
  /-- Behind a shutdown nothing is prepared, unless its restoration has failed. -/
  completed : host.runtime.completed = true → host.runtime.displayPrepared = true →
    host.runtime.displayRestorationFailed = true

/-- An old generation that is not the last one is neither the one now nor every one. -/
theorem generation_stale {ticket : Ticket} {runtime : Runtime} (issued : ticket.Issued runtime)
    (generation : runtime.displayGeneration = UInt64.ofNat runtime.restorations)
    (fewer : runtime.restorations < 2 ^ 64) (older : ticket.issued < runtime.restorations) :
    ticket.generation ≠ Host.everyGeneration ∧
      ticket.generation ≠ runtime.displayGeneration := by
  have value (number : Nat) (small : number < 2 ^ 64) : (UInt64.ofNat number).toNat = number :=
    UInt64.toNat_ofNat_of_lt' small
  rw [issued.2, generation]
  refine ⟨fun same => ?_, fun same => ?_⟩
  · have same := congrArg UInt64.toNat same
    rw [value _ (by omega)] at same
    have every : Host.everyGeneration.toNat = 2 ^ 64 - 1 := rfl
    omega
  · have same := congrArg UInt64.toNat same
    rw [value _ (by omega), value _ fewer] at same
    omega

/-- A stream is there behind a launch that made one. -/
theorem launch_admits {runtime : Runtime} {request : Launch}
    (launched : (runtime.launch request).count ≠ runtime.count) :
    runtime.displayOperation = none ∧ runtime.displayRestorationFailed = false ∧
      runtime.active = false ∧ ∀ reservation, runtime.takeover = some reservation →
        reservation.live request.moment = true →
          reservation.token = request.token ∧ reservation.peer = request.peer := by
  unfold Runtime.launch at launched
  split at launched
  · exact (launched rfl).elim
  case isFalse closed =>
    simp only [Bool.or_eq_true, not_or, Bool.not_eq_true, Option.isSome_eq_false_iff,
      Option.isNone_iff_eq_none] at closed
    obtain ⟨⟨⟨⟨-, -⟩, free⟩, restored⟩, -⟩ := closed
    have expired := expire_eq runtime request.moment
    have live (reservation : Reservation) (reserved : runtime.takeover = some reservation)
        (live : reservation.live request.moment = true) :
        runtime.expire request.moment = runtime := by
      unfold Runtime.expire
      rw [reserved, Option.any_some, live]
      rfl
    obtain ⟨takeover, same⟩ := expired
    rw [same] at live
    rw [same] at launched
    dsimp only at launched
    split at launched
    · exact (launched rfl).elim
    case isFalse admitted =>
      simp only [Bool.or_eq_true, not_or, Bool.not_eq_true] at admitted
      refine ⟨free, restored, admitted.1.2, fun reservation reserved lively => ?_⟩
      have still := live reservation reserved lively
      rw [still] at admitted
      have mine := admitted.1.1.1
      rw [Runtime.reservedForAnother, reserved, Option.any_some] at mine
      simpa using mine

/-- A step that is no launch makes no stream. -/
theorem step_count {host after : Host} {action : Action}
    (stepped : host.step setup action = some after)
    (other : ∀ request, action ≠ .launch request) :
    after.runtime.count = host.runtime.count := by
  cases action with
  | launch request => exact (other request rfl).elim
  | start | stop =>
    obtain rfl := Option.some.inj stepped
    rfl
  | prepare | recover =>
    unfold Host.step Host.reserveDisplayOperation at stepped
    dsimp only at stepped
    split at stepped
    case isFalse => exact nomatch stepped
    split at stepped
    · exact nomatch stepped
    · obtain rfl := Option.some.inj stepped
      rfl
  | release index =>
    obtain ⟨release, -, rfl⟩ := Option.map_eq_some_iff.mp stepped
    unfold Host.releaseDisplayGeneration
    dsimp only
    split
    · rfl
    · split <;> rfl
  | answer index reply =>
    unfold Host.step at stepped
    dsimp only at stepped
    split at stepped
    case h_2 => exact nomatch stepped
    case h_1 =>
      obtain ⟨runtime, responds, same⟩ := Option.bind_eq_some_iff.mp stepped
      obtain rfl := Option.some.inj same
      exact (pending_respond responds).count
  | finish index =>
    unfold Host.step at stepped
    dsimp only at stepped
    split at stepped
    · obtain rfl := Option.some.inj stepped
      rfl
    · exact nomatch stepped
  | streamStops | shutdownLooks =>
    unfold Host.step at stepped
    dsimp only at stepped
    split at stepped
    · obtain rfl := Option.some.inj stepped
      rfl
    · exact nomatch stepped
  | didStop | shutdownDrained =>
    unfold Host.step at stepped
    dsimp only at stepped
    split at stepped
    case h_2 => exact nomatch stepped
    split at stepped
    · obtain rfl := Option.some.inj stepped
      rfl
    · exact nomatch stepped

/-- Every state that is reached keeps the promise. -/
theorem reachable_displays (setup : Setup) (host : Host)
    (reachable : (Host.system setup).Reachable host) : DisplayLaw setup host := by
  have ordered := reachable_ordered reachable
  have sound := ordered.sound
  have allowed (worker : Worker) (member : worker ∈ host.workers) (query : Query)
      (asks : worker.program.asks = some query) : Allowed query host.runtime := by
    obtain ⟨idle, -⟩ | ⟨only, alone, -, -, obeys⟩ := ordered.workers
    · rw [idle] at member
      exact nomatch member
    · rw [alone] at member
      obtain rfl := List.mem_singleton.mp member
      cases program : worker.program with
      | done result =>
        rw [program] at asks
        exact nomatch asks
      | ask asked next =>
        rw [program] at asks obeys
        obtain rfl := Option.some.inj asks
        exact obeys.allowed sound
  refine ⟨?_, ?_, fun worker member query asks changes => ?_,
    fun worker member token peer asks => (allowed worker member _ asks).2,
    fun fewer index release after there ordinary older stepped => ?_,
    fun action after stepped launched => ?_, fun prepared idle => ?_,
    fun completed => (sound.completed completed).2.2⟩
  · obtain ⟨idle, -⟩ | ⟨worker, only, -⟩ := ordered.workers
    · rw [idle]
      exact Nat.zero_le 1
    · rw [only]
      exact Nat.le_refl 1
  · obtain ⟨idle, free, -⟩ | ⟨worker, only, pending, -⟩ := ordered.workers
    · exact ⟨fun _ => idle, fun _ => free⟩
    · rw [only, pending]
      exact ⟨nofun, nofun⟩
  · have may := allowed worker member query asks
    cases query with
    | releaseDisplay | recoverDisplay => exact may
    | prepareDisplay token peer => exact may.1
    | _ => exact nomatch changes
  · obtain ⟨found, same, rfl⟩ := Option.map_eq_some_iff.mp stepped
    obtain rfl := Option.some.inj (there.symm.trans same)
    have issued := sound.releases release (List.mem_of_getElem? there) ordinary
    obtain ⟨last, other⟩ := generation_stale issued sound.generation fewer older
    unfold Host.releaseDisplayGeneration
    dsimp only
    by_cases pending : host.runtime.displayOperation.isSome = true
    · rw [if_pos pending]
      exact .inl rfl
    · rw [if_neg pending, decide_eq_true last, decide_eq_true other, ordinary]
      exact .inr (by simp)
  · cases action with
    | launch request =>
      obtain rfl := Option.some.inj stepped
      obtain ⟨free, restored, inactive, mine⟩ := launch_admits launched
      refine ⟨request, rfl, ?_, restored, allStopped_of_inactive sound inactive, mine⟩
      obtain ⟨idle, -⟩ | ⟨worker, -, pending, -⟩ := ordered.workers
      · exact idle
      · exact nomatch free.symm.trans pending
    | _ => exact (launched (step_count stepped fun _ same => nomatch same)).elim
  · obtain ⟨-, -, arranged⟩ | ⟨worker, only, -⟩ := ordered.workers
    · exact arranged prepared
    · exact nomatch idle.symm.trans only

/-! ### The last generation -/

/-- The runtime behind a number of restorations, with nothing prepared. -/
def resting (restorations : Nat) : Host where
  runtime := {
    started := true
    displayGeneration := UInt64.ofNat restorations
    operations := restorations
    restorations }

/-- What a worker is answered where nothing goes wrong, but for a recovery that has nothing to
recover. -/
def smoothly (ticket : Ticket) (prepared : Bool) : (query : Query) → query.Answer
  | .check _ _ _ => ({}, .admitted none false)
  | .keepReservation _ _ => 0
  | .takeOver _ => none
  | .readGeneration => (ticket, true)
  | .dropReservation | .restoreEnds _ | .markPrepared | .schedule _ => ()
  | .restoreBegins => prepared
  | .streamActive | .recoverDisplay => false
  | .valid | .permitted | .reserveTakeover _ | .drained _ | .releaseDisplay
  | .prepareDisplay _ _ | .topologyMatches => true

/-- A recovery, step by step. -/
def recovering : List Action :=
  .recover :: List.replicate 6 (.answer 0 (smoothly ⟨0, 0⟩ false)) ++ [.finish 0]

/-- A preparation, step by step. -/
def preparing (ticket : Ticket) (prepared : Bool) : List Action :=
  .prepare "token" [1] none ::
    List.replicate (if prepared then 12 else 11) (.answer 0 (smoothly ticket prepared)) ++
      [.finish 0]

/-- A recovery is one more restoration. -/
theorem recovering_rests (restorations : Nat) :
    (Host.system {}).run (resting restorations) recovering = some (resting (restorations + 1)) := by
  have next : UInt64.ofNat (restorations + 1) = UInt64.ofNat restorations + 1 := by
    rw [UInt64.ofNat_add]
    rfl
  unfold resting
  rw [next]
  rfl

/-- Any number of restorations can be made. -/
theorem resting_reachable (restorations : Nat) :
    (Host.system {}).Reachable (resting restorations) := by
  induction restorations with
  | zero => exact @Transition.System.reachable_of_run _ _ (Host.system {}) {} _ [.start] rfl rfl
  | succ restorations ih =>
    exact ih.trans (Transition.System.reaches_of_run (recovering_rests restorations))

/-- Behind the last generation, whose timer is still pending, the display is prepared again. -/
def preparedTwice : List Action :=
  preparing ⟨Host.everyGeneration, 2 ^ 64 - 1⟩ false ++ preparing ⟨0, 2 ^ 64⟩ true

/-- A release, step by step. -/
def releasing : List Action :=
  .release 0 :: List.replicate 3 (.answer 0 (smoothly ⟨0, 0⟩ true)) ++ [.finish 0]

/-- The timer of the last generation releases a display that was prepared in the one behind it. -/
theorem last_generation_releases :
    ∃ host release after, (Host.system {}).Reachable host ∧
      host.runtime.releases[0]? = some release ∧ release.shutdown = false ∧
      release.ticket.issued < host.runtime.restorations ∧
      release.ticket.generation ≠ host.runtime.displayGeneration ∧
      host.runtime.displayPrepared = true ∧
      (Host.system {}).run host releasing = some after ∧
      after.runtime.displayPrepared = false := by
  obtain ⟨host, prepared, seen⟩ := Option.map_eq_some_iff.mp
    (show ((Host.system {}).run (resting (2 ^ 64 - 2)) preparedTwice).map (fun host =>
      (host.runtime.releases[0]?, host.runtime.restorations, host.runtime.displayGeneration,
        host.runtime.displayPrepared)) =
      some (some ⟨⟨Host.everyGeneration, 2 ^ 64 - 1⟩, false⟩, 2 ^ 64, 0, true) by decide)
  obtain ⟨after, released, left⟩ := Option.map_eq_some_iff.mp
    (show ((Host.system {}).run (resting (2 ^ 64 - 2)) (preparedTwice ++ releasing)).map
      (fun host => host.runtime.displayPrepared) = some false by decide)
  rw [Transition.System.run_append, prepared, Option.bind_some] at released
  simp only [Prod.mk.injEq] at seen
  obtain ⟨there, restorations, generation, display⟩ := seen
  refine ⟨host, _, after, ?_, there, rfl, ?_, ?_, display, released, left⟩
  · exact (resting_reachable _).trans (Transition.System.reaches_of_run prepared)
  · rw [restorations]
    decide
  · rw [generation]
    decide

/-- In the run in which a display is prepared, the promise is kept. -/
theorem prepared_display : ∃ host, (Host.system {}).run (resting 0)
      (preparing ⟨1, 1⟩ false) = some host ∧ host.runtime.displayPrepared = true ∧
    DisplayLaw {} host := by
  obtain ⟨host, prepared, seen⟩ := Option.map_eq_some_iff.mp
    (show ((Host.system {}).run (resting 0) (preparing ⟨1, 1⟩ false)).map (fun host =>
      host.runtime.displayPrepared) = some true by decide)
  exact ⟨host, prepared, seen, reachable_displays {} host
    ((resting_reachable 0).trans (Transition.System.reaches_of_run prepared))⟩

end Plank.Session
