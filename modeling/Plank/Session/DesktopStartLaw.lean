import Plank.Session.DesktopStart

/-!
# The desktop worker is started again

A launch, a retry timer and a waiting notification hand the duty to start the worker on to one
another, so one of them is there while a session has no worker and budget left. An exit is told from
an earlier launch by `workerExited`, which lasts as long as the session is observed: when the
console leaves the session and comes back while the launch still runs, its late success stands for a
worker that has exited before.
-/

namespace Plank.Session

namespace DesktopStart

variable {start : DesktopStart}

/-- A success is about to be taken for the session of the console though the worker has exited since
the launch, and the console has left the session and come back since. -/
def erased (start : DesktopStart) (task : StartTask) (success : Bool) : Bool :=
  success && !start.stopped && start.task == some task &&
    start.observeConsole.state.session == task.session &&
      start.observeConsole.epoch != task.epoch &&
        start.exits.any fun exit => exit.session == task.session && task.serial ≤ exit.launches

/-- The steps that are allowed: no success is taken for a worker that has exited before, and no
timer meets the generation it was made with again after it has been changed. -/
def meets (start : DesktopStart) : Label → Bool
  | .completes index =>
    match start.ended[index]? with
    | some ended => !start.erased ended.1 ended.2
    | none => true
  | .fires index _ =>
    match start.timers[index]? with
    | some timer =>
      timer.generation != start.retryGeneration || timer.issued == start.generations
    | none => true
  | _ => true

/-- The step is a completion or an exit of another session than the one that is seen, or a timer
that was superseded. -/
def foreign (start : DesktopStart) : Label → Bool
  | .completes index =>
    match start.ended[index]? with
    | some ended => ended.1.session != start.observeConsole.state.session
    | none => false
  | .exits session => session != start.observeConsole.state.session
  | .fires index _ =>
    match start.timers[index]? with
    | some timer => timer.issued != start.generations
    | none => false
  | _ => false

/-- What the launches, the retries and the state of the session obey. -/
structure StartLaw (start : DesktopStart) : Prop where
  /-- Between two changes that are seen there are ten launches at most. -/
  budget : ∀ epoch, (start.launched.filter fun task => task.epoch = epoch).length ≤ 10
  /-- They are for one session. -/
  sessions : ∀ first ∈ start.launched, ∀ second ∈ start.launched, first.epoch = second.epoch →
    first.session = second.session
  /-- One task runs at most. -/
  oneTask : start.running.length ≤ 1
  /-- One retry is pending at most, and it is when it is said to be. -/
  oneRetry : (start.timers.filter fun timer => timer.issued = start.generations).length =
    start.retryPending.toNat
  /-- What belongs to another or an older session changes nothing of the state but what is seen. -/
  foreign : ∀ label after, start.step label = some after → start.meets label = true →
    start.foreign label = true →
      after.state = start.state ∨ after.state = start.observeConsole.state
  /-- The session is finished by a launch that came after all exits of it. -/
  finished : start.state.finished = true → ∃ task, start.finishedBy = some task ∧
    task.session = start.state.session ∧
      ∀ exit ∈ start.exits, exit.session = start.state.session → exit.launches < task.serial
  /-- While a worker is wanted, a notification waits, a retry is pending, or a task runs or its
  completion waits. -/
  driven : start.state.wanted = true → start.stopped = false → start.notify = true ∨
    start.retryPending = true ∨ ∃ task, start.task = some task ∧
      (task ∈ start.running ∨ ∃ success, (task, success) ∈ start.ended)

/-! ### What every step keeps -/

/-- The launches. -/
structure Launches (epoch : Nat) (state : DesktopStartState) (launched : List StartTask) :
    Prop where
  /-- Those since the last change are counted. -/
  counted : (launched.filter fun task => task.epoch = epoch).length = state.attempts
  /-- Between two changes there are ten at most. -/
  most : ∀ earlier, (launched.filter fun task => task.epoch = earlier).length ≤ 10
  /-- Each came so far. -/
  past : ∀ task ∈ launched, task.epoch ≤ epoch ∧ task.serial ≤ launched.length
  /-- Those since the last change are for the session. -/
  current : ∀ task ∈ launched, task.epoch = epoch → task.session = state.session
  /-- Between two changes they are for one session. -/
  sessions : ∀ first ∈ launched, ∀ second ∈ launched, first.epoch = second.epoch →
    first.session = second.session

/-- The tasks. -/
structure Tasks (task : Option StartTask) (stopped : Bool) (running : List StartTask)
    (ended : List (StartTask × Bool)) (launched : List StartTask) : Prop where
  /-- One runs at most. -/
  one : running.length ≤ 1
  /-- It is the one that is kept. -/
  mine : stopped = false → ∀ other ∈ running, task = some other
  /-- The one that is kept runs, or its completion waits. -/
  real : ∀ mine, task = some mine → mine ∈ running ∨ ∃ success, (mine, success) ∈ ended
  /-- It was launched. -/
  made : ∀ mine, task = some mine → mine ∈ launched
  /-- What runs was launched. -/
  begun : ∀ other ∈ running, other ∈ launched
  /-- What has ended was launched, and does not run. -/
  past : ∀ done ∈ ended, done.1 ∈ launched ∧ done.1 ∉ running

/-- The retry timers. -/
structure Timers (timers : List RetryTimer) (generation : UInt64) (generations : Nat)
    (pending : Bool) : Prop where
  /-- The one that is pending. -/
  pending : (timers.filter fun timer => timer.issued = generations).length = pending.toNat
  /-- Each was made before. -/
  past : ∀ timer ∈ timers, timer.issued ≤ generations
  /-- The generation is the number of its changes. -/
  generation : generation = UInt64.ofNat generations
  /-- Each has its own. -/
  own : ∀ timer ∈ timers, timer.generation = UInt64.ofNat timer.issued

/-- The exits. -/
structure Exits (state : DesktopStartState) (epoch : Nat) (task : Option StartTask)
    (exits : List WorkerExit) (launched : Nat) (finishedBy : Option StartTask) : Prop where
  /-- Each came so far. -/
  past : ∀ exit ∈ exits, exit.launches ≤ launched
  /-- While `workerExited` is unset, none came since the launch that is kept. -/
  clear : ∀ mine, task = some mine → mine.epoch = epoch → state.workerExited = false →
    ∀ exit ∈ exits, exit.session = mine.session → exit.launches < mine.serial
  /-- The session is finished by a launch after all of its exits. -/
  finished : state.finished = true → ∃ task, finishedBy = some task ∧
    task.session = state.session ∧
      ∀ exit ∈ exits, exit.session = state.session → exit.launches < task.serial

/-- What every step keeps. -/
structure Sound (start : DesktopStart) : Prop where
  /-- The launches. -/
  launches : Launches start.epoch start.state start.launched
  /-- The tasks. -/
  tasks : Tasks start.task start.stopped start.running start.ended start.launched
  /-- The timers. -/
  timers : Timers start.timers start.retryGeneration start.generations start.retryPending
  /-- The exits. -/
  exits : Exits start.state start.epoch start.task start.exits start.launched.length
    start.finishedBy
  /-- Nothing is kept once it has stopped. -/
  quiet : start.stopped = true → start.task = none ∧ start.retryPending = false

/-- The record was seen, but for a change whose notification waits. -/
def Aware (start : DesktopStart) : Prop :=
  start.store = true → start.stopped = false → start.notify = false →
    start.state.session = sessionOf start.console

/-- A worker that is wanted is being started. -/
def Driving (start : DesktopStart) : Prop :=
  start.state.wanted = true → start.stopped = false →
    start.retryPending = true ∨ start.task.isSome = true

/-! ### One look at the record -/

/-- What a look at the record does. -/
theorem observeConsole_cases (start : DesktopStart) :
    (start.state.session = sessionOf start.console ∧ start.observeConsole = start) ∨
      (start.state.session ≠ sessionOf start.console ∧ start.observeConsole = { start with
        state := { session := sessionOf start.console }
        retryGeneration := start.retryGeneration + 1, retryPending := false
        epoch := start.epoch + 1, generations := start.generations + 1 }) := by
  unfold observeConsole DesktopStartState.observe
  by_cases changed : start.state.session ≠ sessionOf start.console
  · rw [if_pos changed]
    exact .inr ⟨changed, rfl⟩
  · rw [if_neg changed]
    exact .inl ⟨not_not.mp changed, rfl⟩

/-- The session that is seen is the one of the record. -/
theorem observeConsole_session (start : DesktopStart) :
    start.observeConsole.state.session = sessionOf start.console := by
  rcases start.observeConsole_cases with ⟨same, seen⟩ | ⟨-, seen⟩
  · rw [seen]
    exact same
  · rw [seen]

/-- The generation changes. -/
theorem Timers.change {timers : List RetryTimer} {generation : UInt64} {generations : Nat}
    {pending : Bool} (sound : Timers timers generation generations pending) :
    Timers timers (generation + 1) (generations + 1) false := by
  refine ⟨?_, fun timer member => (sound.past timer member).trans (Nat.le_succ _), ?_, sound.own⟩
  · have none : timers.filter (fun timer => timer.issued = generations + 1) = [] := by
      refine List.filter_eq_nil_iff.mpr fun timer member same => ?_
      have before := sound.past timer member
      have after := of_decide_eq_true same
      omega
    rw [none]
    rfl
  · rw [sound.generation]
    exact (UInt64.ofNat_add generations 1).symm

/-- A look at the record. -/
theorem Sound.observe (sound : Sound start) : Sound start.observeConsole := by
  rcases start.observeConsole_cases with ⟨-, seen⟩ | ⟨-, seen⟩
  · rw [seen]
    exact sound
  rw [seen]
  have later {task : StartTask} (member : task ∈ start.launched) :
      task.epoch ≠ start.epoch + 1 := by
    have past := (sound.launches.past task member).1
    omega
  refine ⟨⟨?_, sound.launches.most, fun task member => ?_, fun task member same =>
    absurd same (later member), sound.launches.sessions⟩, sound.tasks, sound.timers.change,
    ⟨sound.exits.past, fun mine kept same => absurd same (later (sound.tasks.made mine kept)),
      nofun⟩, fun stopped => ⟨(sound.quiet stopped).1, rfl⟩⟩
  · show (start.launched.filter fun task => task.epoch = start.epoch + 1).length = 0
    rw [List.filter_eq_nil_iff.mpr fun task member same =>
      later member (of_decide_eq_true same), List.length_nil]
  · have past := sound.launches.past task member
    exact ⟨past.1.trans (Nat.le_succ _), past.2⟩

/-! ### The retry -/

/-- What a retry does. -/
theorem retry_cases (start : DesktopStart) :
    ((start.stopped = true ∨ start.task.isSome = true ∨ start.retryPending = true ∨
        start.state.retrySeconds = 0) ∧ start.retry = start) ∨
      (start.stopped = false ∧ start.task = none ∧ start.retryPending = false ∧
        start.retry = { start with
          retryPending := true, retryGeneration := start.retryGeneration + 1
          generations := start.generations + 1
          timers := start.timers ++ [⟨start.state.retrySeconds, start.retryGeneration + 1,
            start.generations + 1⟩] }) := by
  unfold retry
  by_cases refused : start.stopped = true ∨ start.task.isSome = true ∨
    start.retryPending = true ∨ start.state.retrySeconds = 0
  · exact .inl ⟨refused, if_pos refused⟩
  · obtain ⟨running, others⟩ := not_or.mp refused
    obtain ⟨idle, others⟩ := not_or.mp others
    exact .inr ⟨Bool.eq_false_of_not_eq_true running, Option.not_isSome_iff_eq_none.mp idle,
      Bool.eq_false_of_not_eq_true (not_or.mp others).1, if_neg refused⟩

/-- A wanted worker is retried after some seconds. -/
theorem retrySeconds_ne_zero {state : DesktopStartState} (wanted : state.wanted = true) :
    state.retrySeconds ≠ 0 := by
  unfold DesktopStartState.retrySeconds
  rw [if_pos wanted, Nat.one_shiftLeft]
  exact (Nat.two_pow_pos _).ne'

/-- After a retry a worker that is wanted is being started. -/
theorem retry_driving (start : DesktopStart) : Driving start.retry := by
  rcases start.retry_cases with ⟨refused, same⟩ | ⟨-, -, -, same⟩
  · rw [same]
    intro wanted running
    rcases refused with stopped | task | pending | zero
    · exact absurd (running.symm.trans stopped) nofun
    · exact .inr task
    · exact .inl pending
    · exact absurd zero (retrySeconds_ne_zero wanted)
  · rw [same]
    exact fun _ _ => .inl rfl

/-- A retry. -/
theorem Sound.retry (sound : Sound start) : Sound start.retry := by
  rcases start.retry_cases with ⟨-, same⟩ | ⟨running, idle, -, same⟩
  · rw [same]
    exact sound
  rw [same]
  have changed := sound.timers.change
  refine ⟨sound.launches, sound.tasks, ⟨?_, fun timer member => ?_, changed.generation,
    fun timer member => ?_⟩, sound.exits, fun stopped => absurd (running.symm.trans stopped) nofun⟩
  · rw [List.filter_append, List.length_append, changed.pending]
    simp only [List.filter_cons, decide_true, if_true, List.filter_nil]
    rfl
  · rcases List.mem_append.mp member with earlier | latest
    · exact changed.past timer earlier
    · obtain rfl := List.mem_singleton.mp latest
      exact Nat.le_refl _
  · rcases List.mem_append.mp member with earlier | latest
    · exact changed.own timer earlier
    · obtain rfl := List.mem_singleton.mp latest
      exact changed.generation

/-- A retry leaves the session, the record and the store. -/
theorem retry_state (start : DesktopStart) : start.retry.state = start.state := by
  rcases start.retry_cases with ⟨-, same⟩ | ⟨-, -, -, same⟩ <;> rw [same]

/-- What tells whether the record was seen. -/
structure Frame (start after : DesktopStart) : Prop where
  /-- The record. -/
  console : after.console = start.console
  /-- The notification. -/
  notify : after.notify = start.notify
  /-- The store. -/
  store : after.store = start.store
  /-- Whether it has stopped. -/
  stopped : after.stopped = start.stopped

/-- One after the other. -/
theorem Frame.trans {middle after : DesktopStart} (first : Frame start middle)
    (second : Frame middle after) : Frame start after :=
  ⟨second.console.trans first.console, second.notify.trans first.notify,
    second.store.trans first.store, second.stopped.trans first.stopped⟩

/-- A retry tells nothing else. -/
theorem Frame.retry {after : DesktopStart} (frame : Frame start after) :
    Frame start after.retry := by
  rcases after.retry_cases with ⟨-, same⟩ | ⟨-, -, -, same⟩ <;> rw [same] <;>
    exact ⟨frame.console, frame.notify, frame.store, frame.stopped⟩

/-- A look at the record tells nothing else. -/
theorem Frame.observe {after : DesktopStart} (frame : Frame start after) :
    Frame start after.observeConsole := by
  rcases after.observeConsole_cases with ⟨-, seen⟩ | ⟨-, seen⟩ <;> rw [seen] <;>
    exact ⟨frame.console, frame.notify, frame.store, frame.stopped⟩

/-- What was seen is still so. -/
theorem Frame.aware {after : DesktopStart} (frame : Frame start after)
    (seen : after.state.session = sessionOf start.console) : Aware after :=
  fun _ _ _ => seen.trans (congrArg sessionOf frame.console.symm)

/-! ### A launch -/

/-- What the next attempt does to the state. -/
theorem next_some {state after : DesktopStartState} (next : state.next = some after) :
    state.wanted = true ∧
      after = { state with attempts := state.attempts + 1, workerExited := false } := by
  obtain ⟨wanted, same⟩ := Option.ite_none_right_eq_some.mp next
  exact ⟨wanted, (Option.some.inj same).symm⟩

/-- A worker that is wanted has budget left, and is not finished. -/
theorem wanted_iff (state : DesktopStartState) : state.wanted = true ↔
    ((state.session.1 ≠ 0 ∧ state.session.2 ≠ 0) ∧ state.finished = false) ∧
      state.attempts < 10 := by
  unfold DesktopStartState.wanted
  rw [Bool.and_eq_true, Bool.and_eq_true, Bool.and_eq_true, bne_iff_ne, bne_iff_ne,
    Bool.not_eq_true', decide_eq_true_iff]

/-- One more launch is counted. -/
theorem Launches.attempt {epoch : Nat} {state after : DesktopStartState}
    {launched : List StartTask} (launches : Launches epoch state launched)
    (next : state.next = some after) :
    Launches epoch after (launched ++ [⟨after.session, epoch, launched.length + 1⟩]) := by
  obtain ⟨wanted, rfl⟩ := next_some next
  have budget := ((wanted_iff state).mp wanted).2
  have one : ([⟨state.session, epoch, launched.length + 1⟩] : List StartTask).filter
      (fun task => task.epoch = epoch) = [⟨state.session, epoch, launched.length + 1⟩] :=
    List.filter_cons_of_pos (decide_eq_true rfl)
  refine ⟨?_, fun earlier => ?_, fun task member => ?_, fun task member same => ?_, ?_⟩
  · rw [List.filter_append, List.length_append, launches.counted, one]
    rfl
  · rw [List.filter_append, List.length_append]
    by_cases now : epoch = earlier
    · rw [← now, launches.counted, one]
      exact budget
    · have other : ([⟨state.session, epoch, launched.length + 1⟩] : List StartTask).filter
          (fun task => task.epoch = earlier) = [] :=
        List.filter_cons_of_neg (by rw [decide_eq_true_iff]; exact now)
      rw [other]
      exact launches.most earlier
  · rw [List.length_append, List.length_singleton]
    rcases List.mem_append.mp member with old | new
    · have past := launches.past task old
      exact ⟨past.1, past.2.trans (Nat.le_succ _)⟩
    · obtain rfl := List.mem_singleton.mp new
      exact ⟨Nat.le_refl _, Nat.le_refl _⟩
  · rcases List.mem_append.mp member with old | new
    · exact launches.current task old same
    · obtain rfl := List.mem_singleton.mp new
      rfl
  · intro first one second other same
    rcases List.mem_append.mp one with old | new <;> rcases List.mem_append.mp other with was | is
    · exact launches.sessions first old second was same
    · obtain rfl := List.mem_singleton.mp is
      exact launches.current first old same
    · obtain rfl := List.mem_singleton.mp new
      exact (launches.current second was same.symm).symm
    · obtain rfl := List.mem_singleton.mp new
      obtain rfl := List.mem_singleton.mp is
      rfl

/-- A launch. -/
theorem Sound.launch (sound : Sound start) (running : start.stopped = false)
    (idle : start.task = none) {state : DesktopStartState} (next : start.state.next = some state)
    (launches : Bool) : Sound (start.launch state launches) := by
  have attempted := sound.launches.attempt next
  obtain ⟨wanted, same⟩ := next_some next
  have unfinished : state.finished = false := by
    rw [same]
    exact ((wanted_iff start.state).mp wanted).1.2
  have before {exit : WorkerExit} (member : exit ∈ start.exits) :
      exit.launches < start.launched.length + 1 :=
    Nat.lt_succ_of_le (sound.exits.past exit member)
  have more : (start.launched ++ [(⟨state.session, start.epoch, start.launched.length + 1⟩ :
      StartTask)]).length = start.launched.length + 1 := List.length_append
  have none_runs : start.running = [] := by
    cases runs : start.running with
    | nil => rfl
    | cons other rest =>
      have mine := sound.tasks.mine running other (by rw [runs]; exact List.mem_cons_self)
      rw [idle] at mine
      cases mine
  unfold DesktopStart.launch
  dsimp only
  by_cases begun : launches = true
  · rw [if_pos begun]
    refine ⟨attempted, ⟨?_, fun _ other member => ?_, fun mine kept => ?_, fun mine kept => ?_,
      fun other member => ?_, fun done member => ?_⟩, sound.timers, ⟨fun exit member => ?_,
        fun mine kept _ _ exit member _ => ?_, fun finished =>
          absurd (unfinished.symm.trans finished) nofun⟩, fun stopped =>
            absurd (running.symm.trans stopped) nofun⟩
    · show (start.running ++ [_]).length ≤ 1
      rw [none_runs]
      exact Nat.le_refl _
    · rw [none_runs] at member
      exact congrArg some (List.mem_singleton.mp member).symm
    · obtain rfl := Option.some.inj kept
      exact .inl (List.mem_append_right _ (List.mem_singleton_self _))
    · obtain rfl := Option.some.inj kept
      exact List.mem_append_right _ (List.mem_singleton_self _)
    · rw [none_runs] at member
      exact List.mem_append_right _ member
    · have past := (sound.tasks.past done member).1
      refine ⟨List.mem_append_left _ past, fun runs => ?_⟩
      rw [none_runs] at runs
      have serial := (sound.launches.past done.1 past).2
      rw [List.mem_singleton.mp runs] at serial
      exact Nat.lt_irrefl _ serial
    · exact (before member).le.trans more.ge
    · obtain rfl := Option.some.inj kept
      exact before member
  · rw [if_neg begun]
    refine Sound.retry ⟨attempted, ⟨sound.tasks.one, sound.tasks.mine, sound.tasks.real,
      fun mine kept => ?_, fun other member =>
        List.mem_append_left _ (sound.tasks.begun other member), fun done member => ?_⟩,
      sound.timers, ⟨fun exit member => (before member).le.trans more.ge, fun mine kept => ?_,
        fun finished => absurd (unfinished.symm.trans finished) nofun⟩, sound.quiet⟩
    · exact List.mem_append_left _ (sound.tasks.made mine kept)
    · have past := sound.tasks.past done member
      exact ⟨List.mem_append_left _ past.1, past.2⟩
    · exact absurd (idle.symm.trans kept) nofun

/-- A launch starts the worker, and tells nothing else. -/
theorem launch_facts {state : DesktopStartState} (next : start.state.next = some state)
    (launches : Bool) : Driving (start.launch state launches) ∧
      Frame start (start.launch state launches) ∧
        (start.launch state launches).state.session = start.state.session := by
  obtain ⟨-, rfl⟩ := next_some next
  unfold DesktopStart.launch
  dsimp only
  by_cases begun : launches = true
  · rw [if_pos begun]
    exact ⟨fun _ _ => .inr rfl, ⟨rfl, rfl, rfl, rfl⟩, rfl⟩
  · rw [if_neg begun]
    exact ⟨retry_driving _, .retry ⟨rfl, rfl, rfl, rfl⟩, by rw [retry_state]⟩

/-! ### A refresh -/

/-- What a refresh leaves. -/
structure Refreshed (start after : DesktopStart) : Prop where
  /-- It is sound. -/
  sound : Sound after
  /-- A worker that is wanted is being started. -/
  driving : Driving after
  /-- The record is as it was. -/
  frame : Frame start after
  /-- It was seen, unless it has stopped. -/
  seen : start.stopped = false → after.state.session = sessionOf start.console

/-- A refresh. -/
theorem Sound.refresh (sound : Sound start) (launches : Bool) :
    Refreshed start (start.refresh launches) := by
  unfold DesktopStart.refresh
  by_cases stopped : start.stopped = true
  · rw [if_pos stopped]
    exact ⟨sound, fun _ running => absurd (running.symm.trans stopped) nofun, ⟨rfl, rfl, rfl, rfl⟩,
      fun running => absurd (running.symm.trans stopped) nofun⟩
  rw [if_neg stopped]
  have frame : Frame start start.observeConsole := Frame.observe ⟨rfl, rfl, rfl, rfl⟩
  have session := start.observeConsole_session
  have running := frame.stopped.trans (Bool.eq_false_of_not_eq_true stopped)
  have observed := sound.observe
  generalize start.observeConsole = seen at frame session running observed
  dsimp only
  by_cases busy : seen.task.isSome = true ∨ seen.retryPending = true
  · rw [if_pos busy]
    exact ⟨observed, fun _ _ => busy.symm, frame, fun _ => session⟩
  rw [if_neg busy]
  cases next : seen.state.next with
  | none =>
    refine ⟨observed, fun wanted _ => ?_, frame, fun _ => session⟩
    have some : seen.state.next = some _ := if_pos wanted
    rw [next] at some
    cases some
  | some state =>
    have idle := Option.not_isSome_iff_eq_none.mp (not_or.mp busy).1
    obtain ⟨driving, further, same⟩ := launch_facts next launches
    exact ⟨observed.launch running idle next launches, driving, frame.trans further,
      fun _ => same.trans session⟩

/-! ### Completions, exits and timers -/

/-- Ten launches at most, whatever the state is but for its session and its attempts. -/
theorem Launches.state {epoch : Nat} {state after : DesktopStartState} {launched : List StartTask}
    (launches : Launches epoch state launched) (session : after.session = state.session)
    (attempts : after.attempts = state.attempts) : Launches epoch after launched :=
  ⟨launches.counted.trans attempts.symm, launches.most, launches.past, fun task member same =>
    (launches.current task member same).trans session.symm, launches.sessions⟩

/-- What the completion of a task does to the state. -/
theorem complete_same {state : DesktopStartState} {session : UInt32 × UInt32} (success : Bool)
    (same : state.session = session) :
    state.complete session success =
      { state with finished := success && !state.workerExited } :=
  if_neg (not_not.mpr same)

/-- The completion that was handled no longer waits. -/
theorem Tasks.eraseEnded {task : Option StartTask} {stopped : Bool} {running : List StartTask}
    {ended : List (StartTask × Bool)} {launched : List StartTask}
    (tasks : Tasks task stopped running ended launched) {index : Nat} {done : StartTask × Bool}
    (there : ended[index]? = some done) (other : task ≠ some done.1) :
    Tasks task stopped running (ended.eraseIdx index) launched := by
  refine ⟨tasks.one, tasks.mine, fun mine kept => ?_, tasks.made, tasks.begun, fun other member =>
    tasks.past other (List.mem_of_mem_eraseIdx member)⟩
  rcases tasks.real mine kept with runs | ⟨success, waits⟩
  · exact .inl runs
  · refine .inr ⟨success, List.mem_eraseIdx_iff_getElem?.mpr ?_⟩
    obtain ⟨place, at_place⟩ := List.mem_iff_getElem?.mp waits
    refine ⟨place, fun same => other ?_, at_place⟩
    rw [same, there] at at_place
    rw [kept, Option.some.inj at_place]

/-- What a look at the record sees depends on the record and the state. -/
theorem observeConsole_same {after : DesktopStart} (state : after.state = start.state)
    (console : after.console = start.console) :
    after.observeConsole.state = start.observeConsole.state := by
  unfold observeConsole
  rw [state, console]
  rcases start.state.observe start.console with ⟨changed, seen⟩
  cases changed with
  | true => rfl
  | false => exact state

/-- A look at the record adds no exit. -/
theorem observeConsole_exits (start : DesktopStart) :
    start.observeConsole.exits = start.exits := by
  rcases start.observeConsole_cases with ⟨-, seen⟩ | ⟨-, seen⟩ <;> rw [seen]

/-- What a step leaves. -/
structure Left (start after : DesktopStart) : Prop where
  /-- It is sound. -/
  sound : Sound after
  /-- A worker that is wanted is being started, or nothing has changed, or the record had, and its
  notification waits. -/
  driving : Driving after ∨
    (after.state = start.state ∧ after.task = start.task ∧
      after.retryPending = start.retryPending) ∨
    start.state.session ≠ sessionOf start.console ∧ start.store = true ∧ start.stopped = false
  /-- The record is as it was. -/
  frame : Frame start after
  /-- It was seen, or nothing has changed. -/
  seen : after.state.session = sessionOf start.console ∨ after.state = start.state

/-- The success of a launch that is taken came after all exits of the session. -/
theorem Sound.after_exits (sound : Sound start) {task : StartTask} {success : Bool}
    (mine : start.task = some task) (running : start.stopped = false)
    (allowed : start.erased task success = false)
    (same : start.observeConsole.state.session = task.session) (succeeds : success = true)
    (stays : start.observeConsole.state.workerExited = false) :
    ∀ exit ∈ start.exits, exit.session = task.session → exit.launches < task.serial := by
  intro exit member session
  by_cases epoch : start.observeConsole.epoch = task.epoch
  · rcases start.observeConsole_cases with ⟨-, seen⟩ | ⟨-, seen⟩
    · rw [seen] at epoch stays
      exact sound.exits.clear task mine epoch.symm stays exit member session
    · rw [seen] at epoch
      have past := (sound.launches.past task (sound.tasks.made task mine)).1
      exact absurd epoch.symm (Nat.ne_of_lt (Nat.lt_succ_of_le past))
  · by_contra early
    have found : start.exits.any (fun exit => exit.session == task.session &&
        task.serial ≤ exit.launches) = true :=
      List.any_eq_true.mpr ⟨exit, member, by
        rw [session, beq_self_eq_true, Bool.true_and]
        exact decide_eq_true (Nat.le_of_not_lt early)⟩
    unfold erased at allowed
    rw [succeeds, running, mine, same, found, bne_iff_ne.mpr epoch, beq_self_eq_true,
      beq_self_eq_true] at allowed
    cases allowed

/-- A completion, once the record has been looked at. -/
theorem Sound.complete {seen : DesktopStart} (sound : Sound seen) {task : StartTask}
    {success : Bool} (session : seen.state.session = sessionOf seen.console)
    (after_exits : seen.state.session = task.session → success = true →
      seen.state.workerExited = false →
        ∀ exit ∈ seen.exits, exit.session = task.session → exit.launches < task.serial) :
    Sound (seen.complete task success) ∧ Driving (seen.complete task success) ∧
      Frame seen (seen.complete task success) ∧
        (seen.complete task success).state.session = sessionOf seen.console := by
  unfold DesktopStart.complete
  by_cases same : seen.state.session = task.session
  · rw [if_pos same, complete_same success same]
    refine ⟨Sound.retry ⟨sound.launches.state rfl rfl, sound.tasks, sound.timers,
      ⟨sound.exits.past, sound.exits.clear, fun finished => ?_⟩, sound.quiet⟩,
      retry_driving _, .retry ⟨rfl, rfl, rfl, rfl⟩, by rw [retry_state]; exact session⟩
    obtain ⟨succeeds, stays⟩ := (Bool.and_eq_true _ _).mp finished
    exact ⟨task, if_pos finished, same.symm, fun exit member about => after_exits same succeeds
      ((Bool.not_eq_true' _).mp stays) exit member (about.trans same)⟩
  · rw [if_neg same]
    exact ⟨sound.retry, retry_driving _, .retry ⟨rfl, rfl, rfl, rfl⟩,
      by rw [retry_state]; exact session⟩

/-- The completion of a task. -/
theorem Sound.completes (sound : Sound start) {index : Nat} {done : StartTask × Bool}
    (there : start.ended[index]? = some done) (allowed : start.erased done.1 done.2 = false) :
    Left start ({ start with ended := start.ended.eraseIdx index }.completed done.1 done.2) := by
  unfold completed
  by_cases refused : start.stopped = true ∨ start.task ≠ some done.1
  · rw [if_pos refused]
    refine ⟨⟨sound.launches, ?_, sound.timers, sound.exits, sound.quiet⟩, .inr (.inl
      ⟨rfl, rfl, rfl⟩), ⟨rfl, rfl, rfl, rfl⟩, .inr rfl⟩
    refine sound.tasks.eraseEnded there ?_
    rcases refused with stopped | other
    · rw [(sound.quiet stopped).1]
      nofun
    · exact other
  rw [if_neg refused]
  obtain ⟨running, mine⟩ := not_or.mp refused
  have running := Bool.eq_false_of_not_eq_true running
  have mine : start.task = some done.1 := not_not.mp mine
  have waits := List.mem_of_getElem? there
  have cleared : Sound { start with ended := start.ended.eraseIdx index, task := none } := by
    refine ⟨sound.launches, ⟨sound.tasks.one, fun _ other member => ?_, nofun, nofun,
      sound.tasks.begun, fun other member =>
        sound.tasks.past other (List.mem_of_mem_eraseIdx member)⟩,
      sound.timers, ⟨sound.exits.past, nofun, sound.exits.finished⟩,
      fun stopped => absurd (running.symm.trans stopped) nofun⟩
    have same := Option.some.inj (mine.symm.trans (sound.tasks.mine running other member))
    exact absurd (same ▸ member) (sound.tasks.past done waits).2
  generalize is : ({ start with
    ended := start.ended.eraseIdx index, task := none } : DesktopStart) = waiting at cleared ⊢
  have frame : Frame start waiting.observeConsole :=
    Frame.observe (by rw [← is]; exact ⟨rfl, rfl, rfl, rfl⟩)
  have alike : waiting.observeConsole.state = start.observeConsole.state :=
    observeConsole_same (by rw [← is]) (by rw [← is])
  have exits : waiting.observeConsole.exits = start.exits :=
    waiting.observeConsole_exits.trans (by rw [← is])
  have session : waiting.observeConsole.state.session = sessionOf start.console :=
    waiting.observeConsole_session.trans (by rw [← is])
  have observed := cleared.observe
  generalize waiting.observeConsole = seen at frame session alike exits observed
  have after_exits : seen.state.session = done.1.session → done.2 = true →
      seen.state.workerExited = false → ∀ exit ∈ seen.exits,
        exit.session = done.1.session → exit.launches < done.1.serial := by
    rw [alike, exits]
    exact sound.after_exits mine running allowed
  obtain ⟨after, driving, further, same⟩ := observed.complete
    (session.trans (congrArg sessionOf frame.console.symm)) after_exits
  exact ⟨after, .inl driving, frame.trans further,
    .inl (same.trans (congrArg sessionOf frame.console))⟩

/-- The worker of a session has exited. -/
theorem Sound.exited (sound : Sound start) (session : UInt32 × UInt32) :
    Left start (start.desktopProcessExited session) := by
  unfold desktopProcessExited
  by_cases refused : start.stopped = true ∨ (!start.store) = true
  · rw [if_pos refused]
    exact ⟨sound, .inr (.inl ⟨rfl, rfl, rfl⟩), ⟨rfl, rfl, rfl, rfl⟩, .inr rfl⟩
  rw [if_neg refused]
  obtain ⟨running, stored⟩ := not_or.mp refused
  have frame : Frame start start.observeConsole := Frame.observe ⟨rfl, rfl, rfl, rfl⟩
  have seen := start.observeConsole_session
  have observed := sound.observe
  dsimp only
  cases exits : start.observeConsole.state.exited session with
  | none =>
    refine ⟨observed, ?_, frame, .inl seen⟩
    rcases start.observeConsole_cases with ⟨-, same⟩ | ⟨changed, -⟩
    · rw [same]
      exact .inr (.inl ⟨rfl, rfl, rfl⟩)
    · exact .inr (.inr ⟨changed, by simpa using stored, Bool.eq_false_of_not_eq_true running⟩)
  | some state =>
    obtain ⟨-, same⟩ := Option.ite_none_left_eq_some.mp exits
    obtain rfl := Option.some.inj same
    generalize start.observeConsole = after at frame seen observed
    refine ⟨Sound.retry ⟨observed.launches.state rfl rfl, observed.tasks, observed.timers,
      ⟨fun exit member => ?_, fun mine kept epoch stays => absurd stays nofun, nofun⟩,
      observed.quiet⟩, .inl (retry_driving _), .retry ⟨frame.console, frame.notify, frame.store,
        frame.stopped⟩, .inl (by rw [retry_state]; exact seen)⟩
    rcases List.mem_append.mp member with earlier | latest
    · exact observed.exits.past exit earlier
    · obtain rfl := List.mem_singleton.mp latest
      exact Nat.le_refl _

/-- A timer that fired waits no more. -/
theorem Timers.erase {timers : List RetryTimer} {generation : UInt64} {generations : Nat}
    {pending : Bool} (sound : Timers timers generation generations pending) {index : Nat}
    {timer : RetryTimer} (there : timers[index]? = some timer) :
    Timers (timers.eraseIdx index) generation generations
      (if timer.issued = generations then false else pending) := by
  obtain ⟨inside, at_index⟩ := List.getElem?_eq_some_iff.mp there
  have parts := List.take_append_drop index timers
  have whole := sound.pending
  rw [← parts, List.drop_eq_getElem_cons inside, at_index, List.filter_append, List.length_append]
    at whole
  refine ⟨?_, fun other member => sound.past other (List.mem_of_mem_eraseIdx member),
    sound.generation, fun other member => sound.own other (List.mem_of_mem_eraseIdx member)⟩
  rw [List.eraseIdx_eq_take_drop_succ, List.filter_append, List.length_append]
  by_cases current : timer.issued = generations
  · rw [if_pos current]
    rw [@List.filter_cons_of_pos _ (fun timer : RetryTimer => timer.issued = generations) timer _
      (decide_eq_true current), List.length_cons] at whole
    have one : pending.toNat ≤ 1 := Bool.toNat_le pending
    show _ = 0
    omega
  · rw [if_neg current]
    rwa [@List.filter_cons_of_neg _ (fun timer : RetryTimer => timer.issued = generations) timer _
      (by rwa [decide_eq_true_iff])] at whole

/-- A retry timer fires. -/
theorem Sound.fires (sound : Sound start) {index : Nat} {timer : RetryTimer}
    (there : start.timers[index]? = some timer)
    (allowed : timer.generation = start.retryGeneration → timer.issued = start.generations)
    (launches : Bool) :
    Left start ({ start with timers := start.timers.eraseIdx index }.fire timer launches) := by
  have erased := sound.timers.erase there
  unfold fire
  by_cases refused : start.stopped = true ∨ start.retryGeneration ≠ timer.generation
  · rw [if_pos refused]
    refine ⟨⟨sound.launches, sound.tasks, ?_, sound.exits, sound.quiet⟩, .inr (.inl
      ⟨rfl, rfl, rfl⟩), ⟨rfl, rfl, rfl, rfl⟩, .inr rfl⟩
    show Timers _ _ _ start.retryPending
    by_cases current : timer.issued = start.generations
    · rw [if_pos current] at erased
      rcases refused with stopped | other
      · rwa [(sound.quiet stopped).2]
      · have own := sound.timers.own timer (List.mem_of_getElem? there)
        rw [current, ← sound.timers.generation] at own
        exact absurd own.symm other
    · rwa [if_neg current] at erased
  rw [if_neg refused]
  have current := allowed (not_not.mp (not_or.mp refused).2).symm
  rw [if_pos current] at erased
  have ready : Sound { start with
      timers := start.timers.eraseIdx index, retryPending := false } :=
    ⟨sound.launches, sound.tasks, erased, sound.exits, fun stopped =>
      ⟨(sound.quiet stopped).1, rfl⟩⟩
  have refreshed := ready.refresh launches
  exact ⟨refreshed.sound, .inl refreshed.driving, ⟨refreshed.frame.console,
    refreshed.frame.notify, refreshed.frame.store, refreshed.frame.stopped⟩,
    .inl (refreshed.seen (Bool.eq_false_of_not_eq_true (not_or.mp refused).1))⟩

/-- The end. -/
theorem Sound.stop (sound : Sound start) : Sound start.stop :=
  ⟨sound.launches, ⟨sound.tasks.one, nofun, nofun, nofun, sound.tasks.begun, sound.tasks.past⟩,
    sound.timers.change, ⟨sound.exits.past, nofun, sound.exits.finished⟩, fun _ => ⟨rfl, rfl⟩⟩

/-! ### Runs -/

/-- What every step keeps, with the record that is seen and the duty that is handed on. -/
structure Kept (start : DesktopStart) : Prop where
  /-- It is sound. -/
  sound : Sound start
  /-- The record was seen, but for a change whose notification waits. -/
  aware : Aware start
  /-- A worker that is wanted is being started, but for such a change. -/
  driving : start.notify = false → Driving start

/-- A step that looks at the record or changes nothing. -/
theorem Left.kept {after : DesktopStart} (left : Left start after) (kept : Kept start) :
    Kept after := by
  refine ⟨left.sound, fun store running quiet => ?_, fun quiet wanted running => ?_⟩
  · rcases left.seen with seen | same
    · rw [seen, left.frame.console]
    · rw [same, left.frame.console]
      exact kept.aware (left.frame.store.symm.trans store) (left.frame.stopped.symm.trans running)
        (left.frame.notify.symm.trans quiet)
  · rcases left.driving with driving | ⟨state, task, pending⟩ | ⟨changed, store, going⟩
    · exact driving wanted running
    · rw [task, pending]
      exact kept.driving (left.frame.notify.symm.trans quiet) (state ▸ wanted)
        (left.frame.stopped.symm.trans running)
    · exact absurd (kept.aware store going (left.frame.notify.symm.trans quiet)) changed

/-- Every step that is allowed keeps the invariant. -/
theorem kept_step : (system.restrict meets).Preserves Kept := by
  intro start label after kept stepped
  obtain ⟨allowed, stepped⟩ := Option.ite_none_right_eq_some.mp stepped
  have sound := kept.sound
  cases label with
  | start root registers launches =>
    obtain rfl := Option.some.inj stepped
    show Kept (start.start root registers launches)
    unfold DesktopStart.start
    by_cases refused : (!root) = true ∨ start.store = true ∨ start.stopped = true
    · rw [if_pos refused]
      exact kept
    rw [if_neg refused]
    by_cases observed : registers = true
    · rw [if_pos observed]
      have stored : Sound { start with store := true } :=
        ⟨sound.launches, sound.tasks, sound.timers, sound.exits, sound.quiet⟩
      have refreshed := stored.refresh launches
      have running := Bool.eq_false_of_not_eq_true (not_or.mp (not_or.mp refused).2).2
      exact ⟨refreshed.sound, refreshed.frame.aware (refreshed.seen running),
        fun _ => refreshed.driving⟩
    · rw [if_neg observed]
      exact ⟨sound.stop, nofun, fun _ _ => nofun⟩
  | change console =>
    obtain rfl := Option.some.inj stepped
    refine ⟨⟨sound.launches, sound.tasks, sound.timers, sound.exits, sound.quiet⟩,
      fun store _ quiet => ?_, fun quiet => kept.driving (Bool.or_eq_false_iff.mp quiet).1⟩
    exact absurd ((Bool.or_eq_false_iff.mp quiet).2.symm.trans store) nofun
  | notification launches =>
    obtain ⟨-, stepped⟩ := Option.ite_none_right_eq_some.mp stepped
    obtain rfl := Option.some.inj stepped
    have refreshed := sound.refresh launches
    have left := refreshed.sound
    refine ⟨⟨left.launches, left.tasks, left.timers, left.exits, left.quiet⟩,
      fun _ running _ => ?_, fun _ => refreshed.driving⟩
    rw [refreshed.seen (refreshed.frame.stopped.symm.trans running)]
    exact congrArg sessionOf refreshed.frame.console.symm
  | ends index success =>
    obtain ⟨task, there, rfl⟩ := Option.map_eq_some_iff.mp stepped
    obtain ⟨inside, at_index⟩ := List.getElem?_eq_some_iff.mp there
    have one := sound.tasks.one
    have single : start.running = [task] := by
      cases runs : start.running with
      | nil => simp [runs] at inside
      | cons first rest =>
        simp only [runs, List.length_cons] at one inside at_index
        have empty : rest = [] := List.eq_nil_of_length_eq_zero (by omega)
        obtain rfl : index = 0 := by omega
        rw [empty, ← at_index]
        rfl
    have zero : index = 0 := by
      rw [single] at inside
      exact Nat.lt_one_iff.mp inside
    refine ⟨⟨sound.launches, ?_, sound.timers, sound.exits, sound.quiet⟩, kept.aware,
      kept.driving⟩
    show Tasks start.task start.stopped (start.running.eraseIdx index)
      (start.ended ++ [(task, success)]) start.launched
    rw [single, zero]
    refine ⟨Nat.zero_le _, fun _ _ => nofun, fun mine is_kept => .inr ?_, sound.tasks.made,
      fun _ => nofun, fun done member => ?_⟩
    · rcases sound.tasks.real mine is_kept with runs | ⟨earlier, waits⟩
      · rw [single] at runs
        obtain rfl := List.mem_singleton.mp runs
        exact ⟨success, List.mem_append_right _ (List.mem_singleton_self _)⟩
      · exact ⟨earlier, List.mem_append_left _ waits⟩
    · rcases List.mem_append.mp member with earlier | latest
      · exact ⟨(sound.tasks.past done earlier).1, nofun⟩
      · obtain rfl := List.mem_singleton.mp latest
        exact ⟨sound.tasks.begun task (by rw [single]; exact List.mem_singleton_self _), nofun⟩
  | completes index =>
    obtain ⟨done, there, rfl⟩ := Option.map_eq_some_iff.mp stepped
    have fine : start.erased done.1 done.2 = false := by
      simp only [meets, there, Bool.not_eq_true'] at allowed
      exact allowed
    exact (sound.completes there fine).kept kept
  | exits session =>
    obtain rfl := Option.some.inj stepped
    exact (sound.exited session).kept kept
  | fires index launches =>
    obtain ⟨timer, there, rfl⟩ := Option.map_eq_some_iff.mp stepped
    refine (sound.fires there (fun same => ?_) launches).kept kept
    simp only [meets, there, same, bne_self_eq_false, Bool.false_or, beq_iff_eq] at allowed
    exact allowed
  | stop =>
    obtain rfl := Option.some.inj stepped
    exact ⟨sound.stop, nofun, fun _ _ => nofun⟩

/-- In every state that allowed steps reach, the invariant holds. -/
theorem reachable_kept (reachable : (system.restrict meets).Reachable start) : Kept start := by
  refine kept_step.reachable ?_ reachable
  rintro _ ⟨console, rfl⟩
  exact ⟨⟨⟨rfl, fun _ => Nat.zero_le _, nofun, nofun, nofun⟩,
      ⟨Nat.zero_le _, nofun, nofun, nofun, nofun, nofun⟩, ⟨rfl, nofun, rfl, nofun⟩,
      ⟨nofun, nofun, nofun⟩, nofun⟩, nofun, fun _ => nofun⟩

/-- What belongs to another or an older session changes nothing of the state but what is seen. -/
theorem foreign_step {label : Label} {after : DesktopStart}
    (stepped : start.step label = some after) (allowed : start.meets label = true)
    (other : start.foreign label = true) :
    after.state = start.state ∨ after.state = start.observeConsole.state := by
  cases label with
  | completes index =>
    obtain ⟨done, there, rfl⟩ := Option.map_eq_some_iff.mp stepped
    simp only [foreign, there, bne_iff_ne] at other
    unfold completed
    by_cases refused : start.stopped = true ∨ start.task ≠ some done.1
    · rw [if_pos refused]
      exact .inl rfl
    rw [if_neg refused]
    have alike := @observeConsole_same start { start with
      ended := start.ended.eraseIdx index, task := none } rfl rfl
    dsimp only
    unfold DesktopStart.complete
    rw [if_neg fun same => other (by rw [← alike, same]), retry_state, alike]
    exact .inr rfl
  | exits session =>
    obtain rfl := Option.some.inj stepped
    simp only [foreign, bne_iff_ne] at other
    show (start.desktopProcessExited session).state = _ ∨ _
    unfold desktopProcessExited
    by_cases refused : start.stopped = true ∨ (!start.store) = true
    · rw [if_pos refused]
      exact .inl rfl
    rw [if_neg refused]
    have none : start.observeConsole.state.exited session = none :=
      if_pos (.inr (.inr fun same => other same.symm))
    dsimp only
    rw [none]
    exact .inr rfl
  | fires index launches =>
    obtain ⟨timer, there, rfl⟩ := Option.map_eq_some_iff.mp stepped
    simp only [foreign, there, bne_iff_ne] at other
    simp only [meets, there, Bool.or_eq_true, bne_iff_ne, beq_iff_eq] at allowed
    have superseded := allowed.resolve_right other
    unfold fire
    rw [if_pos (.inr fun same => superseded same.symm)]
    exact .inl rfl
  | _ => cases other

/-- In every state that is reached, the law holds. -/
theorem Kept.law (kept : Kept start) : StartLaw start := by
  have sound := kept.sound
  refine ⟨sound.launches.most, sound.launches.sessions, sound.tasks.one, sound.timers.pending,
    fun _ _ => foreign_step, sound.exits.finished, fun wanted running => ?_⟩
  by_cases waits : start.notify = true
  · exact .inl waits
  rcases kept.driving (Bool.eq_false_of_not_eq_true waits) wanted running with pending | some
  · exact .inr (.inl pending)
  · obtain ⟨task, mine⟩ := Option.isSome_iff_exists.mp some
    exact .inr (.inr ⟨task, mine, sound.tasks.real task mine⟩)

end DesktopStart

/-- In every run whose steps are all allowed, the law holds in every state that is reached. -/
theorem reachable_starts {start : DesktopStart}
    (reachable : (DesktopStart.system.restrict DesktopStart.meets).Reachable start) :
    DesktopStart.StartLaw start := (DesktopStart.reachable_kept reachable).law

/-- The console record of a user who is logged in. -/
def sampleConsole (uid audit : ℚ) : Option ConsoleValue :=
  some (.dictionary [("Name", .string "example"), ("UID", .number (some uid)),
    ("SessionInfo", .array [.dictionary [("kCGSSessionOnConsoleKey", .bool true),
      ("kCGSessionLoginDoneKey", .bool true), ("kCGSSessionUserIDKey", .number (some uid)),
      ("kCGSSessionAuditIDKey", .number (some audit))]])])

/-- The worker exits before launchctl succeeds, and is started again. -/
def sampleStarts : List DesktopStart.Label :=
  [.start true true true, .exits (901, 100009), .ends 0 true, .completes 0, .fires 0 true,
    .ends 0 true, .completes 0]

/-- The law holds at the end of that run. -/
theorem sample_starts : ∃ start : DesktopStart,
    start.state = ⟨(901, 100009), 2, true, false⟩ ∧ DesktopStart.StartLaw start := by
  obtain ⟨start, run, state⟩ := Option.map_eq_some_iff.mp
    (show ((DesktopStart.system.restrict DesktopStart.meets).run
      { console := sampleConsole 901 100009 } sampleStarts).map (fun start => start.state) =
        some ⟨(901, 100009), 2, true, false⟩ from by decide +kernel)
  exact ⟨start, state, reachable_starts (Transition.System.reachable_of_run ⟨_, rfl⟩ run)⟩

/-- The worker exits before launchctl succeeds, and the console is taken by another user and comes
back meanwhile. -/
def switchedStarts : List DesktopStart.Label :=
  [.start true true true, .exits (901, 100009), .change (sampleConsole 902 100010),
    .notification true, .change (sampleConsole 901 100009), .notification true, .ends 0 true,
    .completes 0]

/-- The session is finished by the launch whose worker has exited, and nothing is left to start
another. -/
theorem switched_strands : ∃ start : DesktopStart, DesktopStart.system.Reachable start ∧
    start.state.finished = true ∧ start.task = none ∧ start.timers = [] ∧ start.notify = false ∧
      ¬DesktopStart.StartLaw start := by
  obtain ⟨start, run, facts⟩ := Option.map_eq_some_iff.mp
    (show (DesktopStart.system.run { console := sampleConsole 901 100009 } switchedStarts).map
      (fun start => (start.state, start.task, start.timers, start.notify, start.exits,
        start.finishedBy)) =
        some (⟨(901, 100009), 0, true, false⟩, none, [], false, [⟨(901, 100009), 1⟩],
          some ⟨(901, 100009), 1, 1⟩) from rfl)
  simp only [Prod.mk.injEq] at facts
  obtain ⟨state, task, timers, notify, exits, by_it⟩ := facts
  refine ⟨start, Transition.System.reachable_of_run ⟨_, rfl⟩ run, by rw [state], task, timers,
    notify, fun law => ?_⟩
  obtain ⟨finisher, is, -, after⟩ := law.finished (by rw [state])
  obtain rfl := Option.some.inj (by_it.symm.trans is)
  have late := after ⟨(901, 100009), 1⟩ (by rw [exits]; exact List.mem_singleton_self _)
    (by rw [state])
  exact Nat.lt_irrefl 1 late

end Plank.Session
