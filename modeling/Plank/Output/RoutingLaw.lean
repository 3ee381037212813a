import Plank.Output.BrokerLaw

/-!
# The journal in every run

In every state that the coordinator and the outputs reach, through any crashes, failures and changes
by others, the journal names what the program has switched and can complete its restoration, only
defaults that were seen on the PLANK device are restored, and the route has one owner at a time.
-/

namespace Plank.Output

open Dialogue (Obeys obeys_done)
open Wire (XpcFields)

/-- What a block on the serial queue leaves. -/
def Job.Ensures (job : Job) (result : Bool × Routes) (outputs : Outputs) : Prop :=
  Kept result.2 outputs ∧
    match job with
    | select _ => True
    | close _ owned _ => owned = true → result.1 = true → outputs.loaded = true →
        Unswitched outputs
    | recover | stop => result.1 = true → Unswitched outputs

/-- Every block obeys. -/
theorem Job.obeys (job : Job) {previous : Routes} {outputs : Outputs}
    (kept : Kept previous outputs) (keeps : discipline.keeps outputs) :
    (job.program previous).Obeys discipline job.Ensures outputs := by
  cases job with
  | select peer =>
    exact (select_obeys kept keeps).weaken fun _ _ _ kept => ⟨kept, trivial⟩
  | close peer owned answered =>
    cases owned with
    | true =>
      exact (restore_obeys kept keeps).weaken
        fun _ _ _ restored => ⟨restored.1, fun _ => restored.2⟩
    | false =>
      exact obeys_done (stable_kept previous) kept
        fun _ _ kept => ⟨kept, fun owned => nomatch owned⟩
  | recover | stop =>
    exact (recover_obeys kept keeps).weaken
      fun _ _ _ recovered => ⟨recovered.1, fun succeeds => (recovered.2 succeeds).2⟩

/-- What is known of the coordinator and the outputs. -/
structure Ordered (state : Routing) : Prop where
  /-- Every default that is switched is named by the journal. -/
  journalled : ∀ slot, Journalled state.outputs slot
  /-- The owner is the one of the serial queue. -/
  lent : Lent state.broker
  /-- Between two blocks the process keeps what is switched. -/
  idle : state.running = none → Kept state.previous state.outputs
  /-- A block that runs obeys. -/
  running : ∀ job program, state.running = some (job, program) →
    program.Obeys discipline job.Ensures state.outputs

/-- Others leave it so. -/
theorem Ordered.disturb {state : Routing} (ordered : Ordered state) {outputs : Outputs}
    (disturbs : state.outputs.Disturbs outputs) : Ordered { state with outputs } where
  journalled := journalled_disturbs disturbs ordered.journalled
  lent := ordered.lent
  idle idle := (ordered.idle idle).disturbed (disturbed disturbs)
  running job program runs := (ordered.running job program runs).disturbed disturbs

/-- So does the broker. -/
theorem Ordered.broker {state : Routing} (ordered : Ordered state) {broker : Broker}
    (lent : Lent broker) : Ordered { state with broker } :=
  ⟨ordered.journalled, lent, ordered.idle, ordered.running⟩

/-- A process that has not read the journal keeps nothing. -/
theorem kept_empty {outputs : Outputs} (unread : outputs.loaded = false) :
    Kept .empty outputs where
  proper _ _ there := nomatch there
  loaded nonempty := nomatch nonempty
  covers loaded := nomatch unread.symm.trans loaded

/-- A process that starts over outputs that the journal on the disk names is in order. -/
theorem Ordered.crashed {state : Routing} (ordered : Ordered state) : Ordered state.crashed where
  journalled := journalled_write ordered.journalled fun slot replaced put =>
    ⟨(ordered.journalled slot).durable replaced put,
      (ordered.journalled slot).durable replaced put⟩
  lent := ⟨.start, nofun, nofun⟩
  idle _ := kept_empty rfl
  running _ _ runs := nomatch runs

/-- Every step keeps it so. -/
theorem ordered_step {state after : Routing} {action : Action} (ordered : Ordered state)
    (stepped : state.step action = some after) : Ordered after := by
  cases action with
  | choose slot device =>
    obtain rfl := Option.some.inj stepped
    exact ordered.disturb (.choose _ slot device)
  | flush =>
    obtain rfl := Option.some.inj stepped
    exact ordered.disturb (.flush _)
  | crash =>
    obtain rfl := Option.some.inj stepped
    exact ordered.crashed
  | accept moment =>
    obtain rfl := Option.some.inj stepped
    exact ordered.broker (ordered.lent.accept moment)
  | receive index moment message =>
    unfold Routing.step at stepped
    dsimp only at stepped
    split at stepped
    case isFalse => exact nomatch stepped
    case isTrue known =>
      obtain rfl := Option.some.inj stepped
      exact ordered.broker (ordered.lent.receive moment message known)
  | tick moment =>
    obtain rfl := Option.some.inj stepped
    exact ordered.broker (ordered.lent.tick moment)
  | stop =>
    obtain rfl := Option.some.inj stepped
    exact ordered.broker ordered.lent.stop
  | start =>
    unfold Routing.step at stepped
    dsimp only at stepped
    split at stepped
    case h_1 job idle next =>
      obtain rfl := Option.some.inj stepped
      refine ⟨ordered.journalled, ordered.lent, (fun none => nomatch none), ?_⟩
      rintro _ _ ⟨⟩
      exact job.obeys (ordered.idle idle) ordered.journalled
    case h_2 => exact nomatch stepped
  | answer reply =>
    unfold Routing.step at stepped
    dsimp only at stepped
    split at stepped
    case h_1 job query next runs =>
      obtain ⟨outputs, responds, same⟩ := Option.bind_eq_some_iff.mp stepped
      obtain rfl := Option.some.inj same
      have obeys := ordered.running job _ runs
      refine ⟨journalled_respond ordered.journalled (obeys.allowed ordered.journalled) responds,
        ordered.lent, (fun none => nomatch none), ?_⟩
      rintro _ _ ⟨⟩
      exact obeys.answers ordered.journalled responds
    case h_2 => exact nomatch stepped
  | finish =>
    unfold Routing.step at stepped
    dsimp only at stepped
    split at stepped
    case h_1 job result previous runs =>
      obtain rfl := Option.some.inj stepped
      have ended := (ordered.running job _ runs).ends ordered.journalled
      exact ⟨ordered.journalled, ordered.lent, fun _ => ended.1, fun _ _ none => nomatch none⟩
    case h_2 => exact nomatch stepped
  | settle moment =>
    unfold Routing.step at stepped
    dsimp only at stepped
    split at stepped
    case h_1 job result rest settled =>
      obtain rfl := Option.some.inj stepped
      have behind := ordered.broker (ordered.lent.settle moment result job)
      exact ⟨behind.journalled, behind.lent, behind.idle, behind.running⟩
    case h_2 => exact nomatch stepped

/-- In every state that is reached it is so. -/
theorem reachable_ordered {state : Routing} (reachable : Routing.system.Reachable state) :
    Ordered state := by
  refine @Transition.System.Reachable.keeps _ _ _ Ordered
    (fun _ _ _ _ ordered stepped => ordered_step ordered stepped) ?_ _ reachable
  rintro _ ⟨outputs, rfl, unread, unswitched⟩
  refine ⟨fun slot => ?_, ⟨.start, nofun, nofun⟩, fun _ => kept_empty unread, nofun⟩
  obtain ⟨replaced, seen⟩ := unswitched slot
  constructor
  case seen => exact fun _ _ put => nomatch seen.symm.trans put
  all_goals exact fun _ put => nomatch replaced.symm.trans put

/-! ### The law -/

/-- The program of a block is about to ask a query. -/
def Routing.Asks (state : Routing) (query : Query) : Prop :=
  ∃ job next, state.running = some (job, .ask query next)

/-- A block has ended with success. -/
def Routing.Succeeds (state : Routing) (job : Job) : Prop :=
  ∃ previous, state.running = some (job, .done (true, previous))

/-- What is known of every state that is reached. -/
structure RoutingLaw (state : Routing) : Prop where
  /-- The journal names what was seen of a default that the program has switched, which is the
  device it replaced unless that was changed in between. -/
  journal : ∀ slot replaced, (state.outputs.setting slot).replaced = some replaced →
    Names state.outputs.journal slot replaced.seen ∧
      (replaced.changed = false → replaced.was = some replaced.seen)
  /-- A default is switched when the journal names what was seen of it. -/
  switches : ∀ slot, state.Asks (.setCurrent slot plankUID) → ∃ seen,
    (state.outputs.setting slot).seen = some seen ∧ Names state.outputs.journal slot seen
  /-- A default is restored when it was seen to be the PLANK device, which it is unless it was
  changed in between. -/
  restores : ∀ slot uid, uid ≠ plankUID → state.Asks (.setCurrent slot uid) →
    (state.outputs.setting slot).seen = some plankUID ∧
      ((state.outputs.setting slot).changed = false →
        (state.outputs.setting slot).device = some plankUID)
  /-- A recovery that succeeds leaves no default switched. -/
  recovered : state.Succeeds .recover ∨ state.Succeeds .stop →
    ∀ slot, (state.outputs.setting slot).replaced = none
  /-- Nor does the restoration behind an owner, if the process has read the journal. -/
  restored : ∀ peer answered, state.Succeeds (.close peer true answered) →
    state.outputs.loaded = true → ∀ slot, (state.outputs.setting slot).replaced = none
  /-- While a default is switched, the next recovery of the process completes the restoration if
  it is let. -/
  completes : ∀ chosen, Cooperates chosen → Present state.outputs → state.running = none →
    (∃ slot, (state.outputs.setting slot).replaced ≠ none) → ∃ left after,
      (recover state.previous).answered Outputs.respond chosen state.outputs =
        some ((true, left), after) ∧ ∀ slot, (after.setting slot).replaced = none
  /-- So does the first recovery behind a crash. -/
  crashes : ∀ chosen, Cooperates chosen → Present state.outputs →
    (∃ slot, (state.outputs.setting slot).replaced ≠ none) → ∃ left after,
      (recover .empty).answered Outputs.respond chosen state.crashed.outputs =
        some ((true, left), after) ∧ ∀ slot, (after.setting slot).replaced = none
  /-- Between the selections for two owners is the restoration behind the first. -/
  alone : ∀ before between after first second,
    state.broker.submitted = before ++ .select first :: (between ++ .select second :: after) →
      ∃ answered, .close first true answered ∈ between
  /-- A selection is followed by the restoration behind its owner, or that is not closed and no
  other block touches the outputs. -/
  followed : ∀ before after peer, state.broker.submitted = before ++ .select peer :: after →
    (∃ answered, .close peer true answered ∈ after) ∨
      (state.broker.owner = some peer ∧ (state.broker.peer peer).closed = false ∧
        ∀ job ∈ after, ∃ other answered, job = .close other false answered ∧ other ≠ peer)

/-- A recovery that is let completes the restoration of what is switched. -/
theorem completes_restoration {chosen : Outputs → (query : Query) → query.Answer}
    (cooperates : Cooperates chosen) {previous : Routes} {outputs : Outputs}
    (present : Present outputs) (journalled : ∀ slot, Journalled outputs slot)
    (kept : Kept previous outputs) (switched : ∃ slot, (outputs.setting slot).replaced ≠ none) :
    ∃ left after, (recover previous).answered Outputs.respond chosen outputs =
      some ((true, left), after) ∧ ∀ slot, (after.setting slot).replaced = none := by
  obtain ⟨slot, put⟩ := switched
  obtain ⟨replaced, put⟩ := Option.ne_none_iff_exists'.mp put
  obtain ⟨list, routes, there, read, -⟩ := (journalled slot).journal replaced put
  obtain ⟨left, after, answered⟩ := recover_completes cooperates present (.inr
    fun found same => by rw [← Option.some.inj (there.symm.trans same), read]; rfl)
  have recovered := (recover_obeys kept journalled).of_answered journalled answered
  exact ⟨left, after, answered, (recovered.2 rfl).2⟩

/-- Calls that are answered with success, but that there is no journal and that the directory may
not be opened. -/
def agreeable (device : Option String) (opened : Bool) : (query : Query) → query.Answer
  | .look _ => device
  | .builtInFallback => ⟨none, nofun⟩
  | .setCurrent _ _ => ⟨(true, true), id⟩
  | .read => .missing
  | .openDirectory => opened
  | .compatible | .inheritVolume _ | .usable _ | .unlink | .write _ | .rename _ | .sync => true

/-- A message of a peer. -/
def routeMessage (active : Bool) : Option XpcFields :=
  some [("version", .uint64 1), ("generation", .uint64 7), ("active", .bool active)]

/-- Both defaults are one device. -/
def ordinary : Routing where
  outputs := { setting := fun _ => { device := some "A" } }

/-- The selection for a peer comes to where it switches the first default. -/
def selecting : List Action :=
  [.accept {}, .receive 0 {} (routeMessage true), .start] ++
    List.replicate 11 (.answer (agreeable (some "A") true))

/-- It ends, with both defaults switched. -/
def selected : List Action :=
  selecting ++ List.replicate 3 (.answer (agreeable (some "A") true)) ++ [.finish, .settle {}]

end Plank.Output
