import Plank.Session.Runtime
import Mathlib.Tactic.Common

/-!
# What an operation may do

The display is changed only while every stream has stopped, and what is prepared is known to be
released: by the stream that is not stopped, by a timer, or by no one where a restoration has
failed. Every operation obeys, whatever the streams and a shutdown do meanwhile.
-/

namespace Plank.Session

open Dialogue (Obeys Stable obeys_ask obeys_done)

/-- Every stream there ever was has stopped. -/
def AllStopped (runtime : Runtime) : Prop := ∀ index, (runtime.streams index).stopped = true

/-- What is prepared is to be released, or its restoration has failed. -/
def Due (runtime : Runtime) : Prop :=
  runtime.displayRestorationFailed = true ∨
    (∃ release ∈ runtime.releases, release.ticket = runtime.ticket) ∨
    ∃ index, (runtime.streams index).didStop = some runtime.ticket

/-- A ticket is one of a generation there was. -/
def Ticket.Issued (ticket : Ticket) (runtime : Runtime) : Prop :=
  ticket.issued ≤ runtime.restorations ∧ ticket.generation = UInt64.ofNat ticket.issued

/-- What is known of the runtime at any time. -/
structure Sound (runtime : Runtime) : Prop where
  /-- A stream that has not stopped is the one there is. -/
  current : ∀ index, (runtime.streams index).stopped = false → runtime.stream = some index
  /-- It releases what is prepared. -/
  hooked : runtime.displayPrepared = true → ∀ index,
    (runtime.streams index).stopped = false →
      (runtime.streams index).didStop = some runtime.ticket
  /-- The generation counts the restorations. -/
  generation : runtime.displayGeneration = UInt64.ofNat runtime.restorations
  /-- What a stream releases is a generation there was. -/
  hooks : ∀ index ticket, (runtime.streams index).didStop = some ticket → ticket.Issued runtime
  /-- So is what is to be released otherwise, but for the shutdown. -/
  releases : ∀ release ∈ runtime.releases, release.shutdown = false →
    release.ticket.Issued runtime
  /-- A shutdown has closed admission. -/
  shutdowns : runtime.shutdowns ≠ [] → runtime.stopping = true
  /-- It waits for the stream there is. -/
  draining : ∀ stream, .draining stream ∈ runtime.shutdowns → stream = runtime.stream
  /-- It releases when every stream has stopped. -/
  shutdown : ∀ release ∈ runtime.releases, release.shutdown = true →
    runtime.stopping = true ∧ AllStopped runtime ∧
      release.ticket.generation = Host.everyGeneration
  /-- When it is completed nothing is prepared, unless its restoration failed. -/
  completed : runtime.completed = true → runtime.stopping = true ∧ AllStopped runtime ∧
    (runtime.displayPrepared = true → runtime.displayRestorationFailed = true)

/-- The reservation, if there is one, is of this peer. -/
def Mine (token : String) (peer : List UInt8) (runtime : Runtime) : Prop :=
  ∀ reservation, runtime.takeover = some reservation →
    reservation.token = token ∧ reservation.peer = peer

/-- What an operation may do. -/
def Allowed : Query → Runtime → Prop
  | .restoreBegins, runtime | .releaseDisplay, runtime | .recoverDisplay, runtime =>
    AllStopped runtime
  | .markPrepared, runtime => AllStopped runtime ∧ runtime.completed = false
  | .prepareDisplay token peer, runtime => AllStopped runtime ∧ Mine token peer runtime
  | .schedule ticket, runtime => ticket = runtime.ticket
  | _, _ => True

/-- What others do while an operation is pending. -/
inductive Disturbs : Runtime → Runtime → Prop where
  /-- The runtime starts. -/
  | start (runtime : Runtime) :
    Disturbs runtime { runtime with started := runtime.started || !runtime.stopping }
  /-- A stream stops. -/
  | streamStops (runtime : Runtime) (index : Nat) :
    Disturbs runtime
      (runtime.setStream index { runtime.streams index with stopped := true })
  /-- What it is to release is to be released. -/
  | didStop (runtime : Runtime) (index : Nat) (ticket : Ticket)
    (pending : (runtime.streams index).didStop = some ticket)
    (stopped : (runtime.streams index).stopped = true) :
    Disturbs runtime { runtime.setStream index { runtime.streams index with didStop := none } with
      releases := runtime.releases ++ [{ ticket }] }
  /-- A shutdown begins. -/
  | stop (runtime : Runtime) :
    Disturbs runtime { runtime with
      stopping := true
      shutdowns := runtime.shutdowns ++ [.requested] }
  /-- It looks for the stream. -/
  | shutdownLooks (runtime : Runtime) (index : Nat)
    (requested : runtime.shutdowns[index]? = some .requested) :
    Disturbs runtime { runtime with
      shutdowns := runtime.shutdowns.set index (.draining runtime.stream) }
  /-- The stream has stopped. -/
  | shutdownDrained (runtime : Runtime) (index : Nat) (stream : Option Nat)
    (draining : runtime.shutdowns[index]? = some (.draining stream))
    (stopped : ∀ index, stream = some index → (runtime.streams index).stopped = true) :
    Disturbs runtime { runtime with
      shutdowns := runtime.shutdowns.eraseIdx index
      releases := runtime.releases ++
        [⟨⟨Host.everyGeneration, runtime.restorations⟩, true⟩] }

/-! ### The streams -/

/-- A stream that is changed is the one that it is changed to. -/
theorem setStream_self (runtime : Runtime) (index : Nat) (stream : Stream) :
    (runtime.setStream index stream).streams index = stream := by
  unfold Runtime.setStream
  exact Function.update_self index stream runtime.streams

/-- The others are as they were. -/
theorem setStream_of_ne (runtime : Runtime) {index other : Nat} (stream : Stream)
    (differs : other ≠ index) :
    (runtime.setStream index stream).streams other = runtime.streams other := by
  unfold Runtime.setStream
  exact Function.update_of_ne differs stream runtime.streams

/-- What others leave of the runtime. -/
structure Steady (runtime after : Runtime) : Prop where
  /-- What is prepared stays so. -/
  prepared : after.displayPrepared = runtime.displayPrepared
  /-- A restoration that failed has failed. -/
  failed : after.displayRestorationFailed = runtime.displayRestorationFailed
  /-- The generation stays. -/
  ticket : after.ticket = runtime.ticket
  /-- So does the reservation. -/
  takeover : after.takeover = runtime.takeover
  /-- So does the stream there is. -/
  stream : after.stream = runtime.stream
  /-- No shutdown is completed. -/
  completed : after.completed = runtime.completed
  /-- The operation is pending. -/
  operation : after.displayOperation = runtime.displayOperation
  /-- A shutdown has begun. -/
  stopping : runtime.stopping = true → after.stopping = true
  /-- A stream that has stopped has stopped. -/
  stopped : ∀ index, (runtime.streams index).stopped = true →
    (after.streams index).stopped = true
  /-- What a stream is to release it is still to release, or it is to be released. -/
  didStop : ∀ index ticket, (runtime.streams index).didStop = some ticket →
    (after.streams index).didStop = some ticket ∨
      ∃ release ∈ after.releases, release.ticket = ticket
  /-- What is to be released is still to be. -/
  releases : ∀ release ∈ runtime.releases, release ∈ after.releases

/-- What others do leaves it so. -/
theorem steady {runtime after : Runtime} (disturbs : Disturbs runtime after) :
    Steady runtime after := by
  cases disturbs with
  | start | shutdownLooks =>
    exact ⟨rfl, rfl, rfl, rfl, rfl, rfl, rfl, id, fun _ => id, fun _ _ => .inl, fun _ => id⟩
  | stop =>
    exact ⟨rfl, rfl, rfl, rfl, rfl, rfl, rfl, fun _ => rfl, fun _ => id, fun _ _ => .inl,
      fun _ => id⟩
  | shutdownDrained =>
    exact ⟨rfl, rfl, rfl, rfl, rfl, rfl, rfl, id, fun _ => id, fun _ _ => .inl,
      fun _ => List.mem_append_left _⟩
  | streamStops index =>
    refine ⟨rfl, rfl, rfl, rfl, rfl, rfl, rfl, id, fun other stopped => ?_,
      fun other ticket pending => .inl ?_, fun _ => id⟩ <;> by_cases same : other = index
    · subst same
      rw [setStream_self]
    · rw [setStream_of_ne runtime _ same]
      exact stopped
    · subst same
      rw [setStream_self]
      exact pending
    · rw [setStream_of_ne runtime _ same]
      exact pending
  | didStop index ticket pending stopped =>
    refine ⟨rfl, rfl, rfl, rfl, rfl, rfl, rfl, id, fun other other_stopped => ?_,
      fun other ticket other_pending => ?_, fun _ => List.mem_append_left _⟩ <;>
      dsimp only <;> by_cases same : other = index
    · subst same
      rw [setStream_self]
      exact other_stopped
    · rw [setStream_of_ne runtime _ same]
      exact other_stopped
    · subst same
      obtain rfl := Option.some.inj (pending.symm.trans other_pending)
      exact .inr ⟨_, List.mem_append_right _ List.mem_cons_self, rfl⟩
    · rw [setStream_of_ne runtime _ same]
      exact .inl other_pending

/-- Streams stay stopped. -/
theorem AllStopped.steady {runtime after : Runtime} (all : AllStopped runtime)
    (steady : Steady runtime after) : AllStopped after :=
  fun index => steady.stopped index (all index)

/-- What is to be released stays so. -/
theorem Due.steady {runtime after : Runtime} (due : Due runtime) (steady : Steady runtime after) :
    Due after := by
  obtain failed | ⟨release, member, same⟩ | ⟨index, pending⟩ := due
  · exact .inl (steady.failed.trans failed)
  · exact .inr (.inl ⟨release, steady.releases release member, same.trans steady.ticket.symm⟩)
  · obtain still | ⟨release, member, same⟩ := steady.didStop index _ pending
    · exact .inr (.inr ⟨index, still.trans (congrArg some steady.ticket.symm)⟩)
    · exact .inr (.inl ⟨release, member, same.trans steady.ticket.symm⟩)

/-! ### The discipline -/

/-- Others leave what is known. -/
theorem sound_disturbs {runtime after : Runtime} (disturbs : Disturbs runtime after)
    (sound : Sound runtime) : Sound after := by
  have steadily := steady disturbs
  have completed : after.completed = true → runtime.stopping = true ∧ AllStopped after ∧
      (after.displayPrepared = true → after.displayRestorationFailed = true) := by
    intro done
    rw [steadily.completed] at done
    obtain ⟨stopping, all, failed⟩ := sound.completed done
    rw [steadily.prepared, steadily.failed]
    exact ⟨stopping, all.steady steadily, failed⟩
  have shutdown (release : Release) (member : release ∈ runtime.releases)
      (last : release.shutdown = true) : runtime.stopping = true ∧ AllStopped after ∧
        release.ticket.generation = Host.everyGeneration := by
    obtain ⟨stopping, all, every⟩ := sound.shutdown release member last
    exact ⟨stopping, all.steady steadily, every⟩
  cases disturbs with
  | start =>
    exact ⟨sound.current, sound.hooked, sound.generation, sound.hooks, sound.releases,
      sound.shutdowns, sound.draining, shutdown, completed⟩
  | stop =>
    refine ⟨sound.current, sound.hooked, sound.generation, sound.hooks, sound.releases,
      fun _ => rfl, fun stream member => ?_,
      fun release member last => ⟨rfl, (shutdown release member last).2⟩,
      fun done => ⟨rfl, (completed done).2⟩⟩
    obtain before | last := List.mem_append.mp member
    · exact sound.draining stream before
    · exact nomatch List.mem_singleton.mp last
  | shutdownLooks index requested =>
    have some_shutdown : runtime.shutdowns ≠ [] := by
      intro none
      rw [none] at requested
      exact nomatch requested
    refine ⟨sound.current, sound.hooked, sound.generation, sound.hooks, sound.releases,
      fun _ => sound.shutdowns some_shutdown, fun stream member => ?_, shutdown, completed⟩
    obtain before | same := List.mem_or_eq_of_mem_set member
    · exact sound.draining stream before
    · exact Shutdown.draining.inj same
  | shutdownDrained index stream draining stopped =>
    have member := List.mem_of_getElem? draining
    have stopping : runtime.stopping = true := sound.shutdowns (List.ne_nil_of_mem member)
    have all : AllStopped runtime := by
      intro other
      by_contra active
      have same := sound.current other (Bool.eq_false_iff.mpr active)
      exact active (stopped other ((sound.draining stream member).trans same))
    refine ⟨sound.current, sound.hooked, sound.generation, sound.hooks, ?_,
      fun _ => stopping, fun stream member => sound.draining stream
        (List.mem_of_mem_eraseIdx member), ?_, completed⟩
    · intro release member ordinary
      obtain before | last := List.mem_append.mp member
      · exact sound.releases release before ordinary
      · rw [List.mem_singleton.mp last] at ordinary
        exact nomatch ordinary
    · intro release member last
      obtain before | new := List.mem_append.mp member
      · exact shutdown release before last
      · rw [List.mem_singleton.mp new]
        exact ⟨stopping, all, rfl⟩
  | streamStops index =>
    refine ⟨fun other active => ?_, fun prepared other active => ?_,
      sound.generation, fun other ticket pending => ?_, sound.releases, sound.shutdowns,
      sound.draining, shutdown, completed⟩ <;> by_cases same : other = index
    · subst same
      rw [setStream_self] at active
      exact nomatch active
    · rw [setStream_of_ne runtime _ same] at active
      exact sound.current other active
    · subst same
      rw [setStream_self] at active
      exact nomatch active
    · rw [setStream_of_ne runtime _ same] at active ⊢
      exact sound.hooked prepared other active
    · subst same
      rw [setStream_self] at pending
      exact sound.hooks other ticket pending
    · rw [setStream_of_ne runtime _ same] at pending
      exact sound.hooks other ticket pending
  | didStop index ticket pending stopped =>
    refine ⟨fun other active => ?_, fun prepared other active => ?_,
      sound.generation, fun other ticket pending => ?_, fun release member ordinary => ?_,
      sound.shutdowns, sound.draining, fun release member last => ?_, completed⟩ <;> dsimp only at *
    · by_cases same : other = index
      · subst same
        rw [setStream_self] at active
        exact sound.current other active
      · rw [setStream_of_ne runtime _ same] at active
        exact sound.current other active
    · by_cases same : other = index
      · subst same
        rw [setStream_self] at active
        exact nomatch stopped.symm.trans active
      · rw [setStream_of_ne runtime _ same] at active ⊢
        exact sound.hooked prepared other active
    · by_cases same : other = index
      · subst same
        rw [setStream_self] at pending
        exact nomatch pending
      · rw [setStream_of_ne runtime _ same] at pending
        exact sound.hooks other ticket pending
    · obtain before | last := List.mem_append.mp member
      · exact sound.releases release before ordinary
      · obtain rfl := List.mem_singleton.mp last
        exact sound.hooks index ticket pending
    · obtain before | new := List.mem_append.mp member
      · exact shutdown release before last
      · rw [List.mem_singleton.mp new] at last
        exact nomatch last

/-- A reservation is nothing that is known. -/
theorem Sound.reserve {runtime : Runtime} (sound : Sound runtime)
    (takeover : Option Reservation) : Sound { runtime with takeover } :=
  ⟨sound.current, sound.hooked, sound.generation, sound.hooks, sound.releases, sound.shutdowns,
    sound.draining, sound.shutdown, sound.completed⟩

/-- Nor is one that has expired. -/
theorem Sound.expire {runtime : Runtime} (sound : Sound runtime) (moment : Moment) :
    Sound (runtime.expire moment) := by
  unfold Runtime.expire
  split
  · exact sound.reserve none
  · exact sound

/-- A step that is allowed leaves what is known. -/
theorem sound_respond {setup : Setup} {runtime after : Runtime} {query : Query}
    {answer : query.Answer} (sound : Sound runtime) (allowed : Allowed query runtime)
    (responds : runtime.respond setup query answer = some after) : Sound after := by
  cases query with
  | valid | permitted | reserveTakeover | takeOver | releaseDisplay | prepareDisplay
  | topologyMatches | recoverDisplay =>
    obtain rfl := Option.some.inj responds
    exact sound
  | streamActive | drained | readGeneration =>
    unfold Runtime.respond at responds
    dsimp only at responds
    split at responds
    · obtain rfl := Option.some.inj responds
      exact sound
    · exact nomatch responds
  | check token peer takeover =>
    obtain ⟨moment, verdict⟩ := answer
    unfold Runtime.respond at responds
    dsimp only at responds
    split at responds <;> split at responds
    · obtain rfl := Option.some.inj responds
      exact sound
    · exact nomatch responds
    · obtain rfl := Option.some.inj responds
      exact sound.expire moment
    · exact nomatch responds
  | keepReservation | dropReservation =>
    obtain rfl := Option.some.inj responds
    exact sound.reserve _
  | restoreBegins =>
    unfold Runtime.respond at responds
    dsimp only at responds
    split at responds
    case isFalse => exact nomatch responds
    case isTrue =>
      obtain rfl := Option.some.inj responds
      refine ⟨sound.current, fun _ index active => ?_, ?_, fun index ticket pending => ?_,
        fun release member ordinary => ?_, sound.shutdowns, sound.draining, sound.shutdown,
        sound.completed⟩
      · exact nomatch (allowed index).symm.trans active
      · dsimp only
        rw [sound.generation, UInt64.ofNat_add]
        rfl
      · obtain ⟨issued, same⟩ := sound.hooks index ticket pending
        exact ⟨Nat.le_succ_of_le issued, same⟩
      · obtain ⟨issued, same⟩ := sound.releases release member ordinary
        exact ⟨Nat.le_succ_of_le issued, same⟩
  | restoreEnds restored =>
    obtain rfl := Option.some.inj responds
    cases restored with
    | true =>
      exact ⟨sound.current, (fun none => nomatch none), sound.generation, sound.hooks,
        sound.releases, sound.shutdowns, sound.draining, sound.shutdown, fun done =>
          ⟨(sound.completed done).1, (sound.completed done).2.1, fun none => nomatch none⟩⟩
    | false =>
      exact ⟨sound.current, sound.hooked, sound.generation, sound.hooks, sound.releases,
        sound.shutdowns, sound.draining, sound.shutdown, fun done =>
          ⟨(sound.completed done).1, (sound.completed done).2.1, fun _ => rfl⟩⟩
  | markPrepared =>
    obtain rfl := Option.some.inj responds
    obtain ⟨all, running⟩ := allowed
    refine ⟨sound.current, fun _ index active => ?_, sound.generation, sound.hooks,
      sound.releases, sound.shutdowns, sound.draining, sound.shutdown, fun done => ?_⟩
    · exact nomatch (all index).symm.trans active
    · exact nomatch running.symm.trans done
  | schedule ticket =>
    obtain rfl := Option.some.inj responds
    refine ⟨sound.current, sound.hooked, sound.generation, sound.hooks,
      fun release member ordinary => ?_, sound.shutdowns, sound.draining,
      fun release member last => ?_, sound.completed⟩
    · obtain before | new := List.mem_append.mp member
      · exact sound.releases release before ordinary
      · obtain rfl := List.mem_singleton.mp new
        rw [show ticket = runtime.ticket from allowed]
        exact ⟨Nat.le_refl _, sound.generation⟩
    · obtain before | new := List.mem_append.mp member
      · exact sound.shutdown release before last
      · rw [List.mem_singleton.mp new] at last
        exact nomatch last

/-- The discipline of the display. -/
def discipline (setup : Setup) : Discipline Query Query.Answer Runtime where
  respond := Runtime.respond setup
  disturbs := Disturbs
  keeps := Sound
  allowed := Allowed
  keeps_respond _ _ _ _ keeps allowed responds := sound_respond keeps allowed responds
  keeps_disturbs _ _ disturbs keeps := sound_disturbs disturbs keeps

end Plank.Session
