import Plank.Session.RuntimeLaw

/-!
# Every operation on the display obeys

A restoration leaves nothing prepared or is known to have failed. A preparation prepares nothing
before every stream has stopped and while another peer has the reservation, and leaves a timer
behind what it has prepared.
-/

namespace Plank.Session

open Dialogue (Obeys Stable obeys_ask obeys_done)

variable {setup : Setup}

/-- What the others leave is stable. -/
theorem stable_of_steady {property : Runtime → Prop}
    (keeps : ∀ runtime after, Steady runtime after → property runtime → property after) :
    Stable (discipline setup) property :=
  fun runtime after disturbs => keeps runtime after (steady disturbs)

/-- What is prepared is to be released, or its restoration has failed. -/
def Arranged (runtime : Runtime) : Prop := runtime.displayPrepared = true → Due runtime

/-- It stays so. -/
theorem Arranged.steady (runtime after : Runtime) (steady : Steady runtime after)
    (arranged : Arranged runtime) : Arranged after :=
  fun prepared => (arranged (steady.prepared.symm.trans prepared)).steady steady

/-- What a restoration leaves. -/
def Restored (restored : Bool) (runtime : Runtime) : Prop :=
  if restored then runtime.displayPrepared = false else runtime.displayRestorationFailed = true

/-- It stays so. -/
theorem Restored.steady {restored : Bool} (runtime after : Runtime) (steady : Steady runtime after)
    (left : Restored restored runtime) : Restored restored after := by
  cases restored with
  | true => exact steady.prepared.trans left
  | false => exact steady.failed.trans left

/-- Nothing is left prepared that is not known. -/
theorem Restored.arranged {restored : Bool} {runtime : Runtime}
    (left : Restored restored runtime) : Arranged runtime := by
  intro prepared
  cases restored with
  | true => exact nomatch (show runtime.displayPrepared = false from left).symm.trans prepared
  | false => exact .inl left

/-- A restoration that every stream has stopped for. -/
theorem restoreReservedDisplay_obeys {property : Runtime → Prop} {runtime : Runtime}
    (stable : ∀ runtime after, Steady runtime after → property runtime → property after)
    (stopped : ∀ runtime, property runtime → AllStopped runtime)
    (frame : ∀ runtime displayGeneration restorations displayRestorationFailed displayPrepared,
      property runtime → property { runtime with
        displayGeneration, restorations, displayRestorationFailed, displayPrepared })
    (holds : property runtime) :
    (restoreReservedDisplay setup).Obeys (discipline setup)
      (fun restored found => property found ∧ Restored restored found) runtime := by
  have steady_both (restored : Bool) : ∀ runtime after, Steady runtime after →
      (property runtime ∧ Restored restored runtime) →
      (property after ∧ Restored restored after) :=
    fun runtime after steady known => ⟨stable runtime after steady known.1,
      known.2.steady runtime after steady⟩
  have ends (restored : Bool) {found : Runtime} (holds : property found) :
      (Dialogue.ask (.restoreEnds restored) fun _ => .done restored : Program Bool).Obeys
        (discipline setup) (fun restored found => property found ∧ Restored restored found)
        found := by
    refine obeys_ask (stable_of_steady stable) holds (fun _ _ _ => trivial) ?_
    intro found answer after _ holds responds
    obtain rfl := Option.some.inj responds
    refine obeys_done (stable_of_steady (steady_both restored)) ⟨?_, ?_⟩ fun _ _ known => known
    · exact frame found _ _ _ _ holds
    · cases restored with
      | true => exact rfl
      | false => exact rfl
  unfold restoreReservedDisplay
  refine obeys_ask (stable_of_steady stable) holds (fun found _ holds => stopped found holds) ?_
  intro found prepared after _ holds responds
  have begun : property after := by
    unfold discipline Runtime.respond at responds
    dsimp only at responds
    split at responds
    case isFalse => exact nomatch responds
    case isTrue =>
      obtain rfl := Option.some.inj responds
      exact frame found _ _ _ _ holds
  by_cases releases : (prepared && setup.releases) = true
  · show Obeys _ _ (if (prepared && setup.releases) = true then _ else _) _
    rw [if_pos releases]
    refine obeys_ask (stable_of_steady stable) begun (fun found _ holds => stopped found holds) ?_
    intro found restored after _ holds responds
    obtain rfl := Option.some.inj responds
    exact ends restored holds
  · show Obeys _ _ (if (prepared && setup.releases) = true then _ else _) _
    rw [if_neg releases]
    exact ends true begun

/-- What an operation holds while it changes the display for a peer. -/
structure Held (token : String) (peer : List UInt8) (runtime : Runtime) : Prop where
  /-- Every stream has stopped. -/
  stopped : AllStopped runtime
  /-- The reservation is of the peer. -/
  mine : Mine token peer runtime
  /-- No shutdown is completed. -/
  running : runtime.completed = false

/-- It stays so. -/
theorem Held.steady {token : String} {peer : List UInt8} (runtime after : Runtime)
    (steady : Steady runtime after) (held : Held token peer runtime) : Held token peer after where
  stopped := held.stopped.steady steady
  mine reservation reserved := held.mine reservation (steady.takeover.symm.trans reserved)
  running := steady.completed.trans held.running

/-- A preparation that is given up leaves nothing prepared that is not known. -/
theorem abandon_obeys {token : String} {peer : List UInt8} {runtime : Runtime}
    (keeps : (discipline setup).keeps runtime) (held : Held token peer runtime) :
    (abandon setup).Obeys (discipline setup) (fun _ found => Arranged found) runtime := by
  refine (restoreReservedDisplay_obeys Held.steady (fun _ held => held.stopped)
    (fun _ _ _ _ _ held => ⟨held.stopped, held.mine, held.running⟩) held).bind keeps ?_
  rintro restored found - ⟨-, left⟩
  exact obeys_done (stable_of_steady Restored.steady) left fun _ _ left => left.arranged

/-- What is prepared is released by a timer. -/
theorem prepareRestored_obeys {token : String} {peer : List UInt8} {runtime : Runtime}
    (held : Held token peer runtime) :
    (prepareRestored setup token peer).Obeys (discipline setup) (fun _ found => Arranged found)
      runtime := by
  have stable := @stable_of_steady setup _ (@Held.steady token peer)
  refine obeys_ask stable held (fun _ _ held => ⟨held.stopped, held.running⟩) ?_
  intro found marked after _ held responds
  obtain rfl := Option.some.inj responds
  have marked : Held token peer { found with displayPrepared := setup.releases } :=
    ⟨held.stopped, held.mine, held.running⟩
  refine obeys_ask stable marked (fun _ _ held => ⟨held.stopped, held.mine⟩) ?_
  intro found prepared after _ held responds
  obtain rfl := Option.some.inj responds
  refine obeys_ask stable held (fun _ _ _ => trivial) ?_
  intro found valid after keeps held responds
  obtain rfl := Option.some.inj responds
  show Obeys _ _ (if (!prepared || !valid) = true then _ else _) _
  by_cases failed : (!prepared || !valid) = true
  · rw [if_pos failed]
    exact abandon_obeys keeps held
  rw [if_neg failed]
  refine obeys_ask stable held (fun _ _ _ => trivial) ?_
  intro found same after keeps held responds
  obtain rfl := Option.some.inj responds
  cases same with
  | false => exact abandon_obeys keeps held
  | true =>
    refine obeys_ask stable held (fun _ _ _ => trivial) ?_
    intro found answer after keeps held responds
    obtain ⟨ticket, prepared⟩ := answer
    unfold discipline Runtime.respond at responds
    dsimp only at responds
    split at responds
    case isFalse => exact nomatch responds
    case isTrue read =>
      obtain rfl := Option.some.inj responds
      obtain ⟨same, prepared_same⟩ := Prod.mk.inj read
      have read_stable : ∀ runtime after, Steady runtime after →
          (runtime.ticket = ticket ∧ runtime.displayPrepared = prepared) →
          (after.ticket = ticket ∧ after.displayPrepared = prepared) :=
        fun runtime after steady known => ⟨steady.ticket.trans known.1,
          steady.prepared.trans known.2⟩
      cases prepared with
      | false =>
        exact obeys_done (stable_of_steady read_stable) ⟨same.symm, prepared_same.symm⟩
          fun _ _ known prepared => nomatch known.2.symm.trans prepared
      | true =>
        refine obeys_ask (stable_of_steady read_stable) ⟨same.symm, prepared_same.symm⟩
          (fun _ _ known => known.1.symm) ?_
        intro found scheduled after _ known responds
        obtain rfl := Option.some.inj responds
        refine obeys_done (stable_of_steady Arranged.steady) (fun _ => .inr (.inl ?_))
          fun _ _ arranged => arranged
        exact ⟨_, List.mem_append_right _ List.mem_cons_self, known.1.symm⟩

/-- What an operation holds when it has been admitted for a peer. -/
structure Admitted (token : String) (peer : List UInt8) (stream : Option Nat) (runtime : Runtime) :
    Prop where
  /-- What is prepared is to be released. -/
  arranged : Arranged runtime
  /-- The reservation is of the peer. -/
  mine : Mine token peer runtime
  /-- The stream there is, is the one that was there. -/
  stream : runtime.stream = stream
  /-- No shutdown is completed. -/
  running : runtime.completed = false

/-- It stays so. -/
theorem Admitted.steady {token : String} {peer : List UInt8} {stream : Option Nat}
    (runtime after : Runtime) (steady : Steady runtime after)
    (admitted : Admitted token peer stream runtime) : Admitted token peer stream after where
  arranged := admitted.arranged.steady runtime after steady
  mine reservation reserved := admitted.mine reservation (steady.takeover.symm.trans reserved)
  stream := steady.stream.trans admitted.stream
  running := steady.completed.trans admitted.running

/-- A takeover leaves the reservation to the peer. -/
theorem takeOver_obeys {token : String} {peer : List UInt8} {stream : Option Nat}
    {runtime : Runtime} (admitted : Admitted token peer stream runtime) :
    (takeOver token peer stream).Obeys (discipline setup)
      (fun _ found => Admitted token peer stream found) runtime := by
  have stable := @stable_of_steady setup _ (@Admitted.steady token peer stream)
  have ended {status : Option Nat} {found : Runtime}
      (admitted : Admitted token peer stream found) :
      (Dialogue.done status : Program (Option Nat)).Obeys (discipline setup)
        (fun _ found => Admitted token peer stream found) found :=
    obeys_done stable admitted fun _ _ admitted => admitted
  refine obeys_ask stable admitted (fun _ _ _ => trivial) ?_
  intro found valid after _ admitted responds
  obtain rfl := Option.some.inj responds
  cases valid with
  | false => exact ended admitted
  | true =>
    refine obeys_ask stable admitted (fun _ _ _ => trivial) ?_
    intro found reserved after _ admitted responds
    obtain rfl := Option.some.inj responds
    cases reserved with
    | false => exact ended admitted
    | true =>
      refine obeys_ask stable admitted (fun _ _ _ => trivial) ?_
      intro found now after _ admitted responds
      obtain rfl := Option.some.inj responds
      have kept : Admitted token peer stream { found with
          takeover := some ⟨token, peer, now + 15000000000⟩ } := by
        refine ⟨admitted.arranged, ?_, admitted.stream, admitted.running⟩
        rintro _ ⟨⟩
        exact ⟨rfl, rfl⟩
      refine obeys_ask stable kept (fun _ _ _ => trivial) ?_
      intro found answered after _ admitted responds
      obtain rfl := Option.some.inj responds
      cases answered with
      | none => exact ended admitted
      | some accepted =>
        refine obeys_ask stable admitted (fun _ _ _ => trivial) ?_
        intro found valid after _ admitted responds
        obtain rfl := Option.some.inj responds
        show Obeys _ _ (if (!accepted || !valid) = true then _ else _) _
        by_cases refused : (!accepted || !valid) = true
        · rw [if_pos refused]
          refine obeys_ask stable admitted (fun _ _ _ => trivial) ?_
          intro found dropped after _ admitted responds
          obtain rfl := Option.some.inj responds
          exact ended ⟨admitted.arranged, (fun _ none => nomatch none), admitted.stream,
            admitted.running⟩
        · rw [if_neg refused]
          exact ended admitted

/-- Every stream has stopped where the one there is has. -/
theorem allStopped_of_stream {runtime : Runtime} (sound : Sound runtime)
    (drained : runtime.stream.all fun index => (runtime.streams index).stopped) :
    AllStopped runtime := by
  intro index
  by_contra active
  rw [sound.current index (Bool.eq_false_iff.mpr active)] at drained
  exact active drained

/-- An operation that begins. -/
structure Begun (runtime : Runtime) : Prop where
  /-- What is prepared is to be released. -/
  arranged : Arranged runtime
  /-- No shutdown is completed. -/
  running : runtime.completed = false

/-- It stays so. -/
theorem Begun.steady (runtime after : Runtime) (steady : Steady runtime after)
    (begun : Begun runtime) : Begun after :=
  ⟨begun.arranged.steady runtime after steady, steady.completed.trans begun.running⟩

/-- A peer that is admitted has the reservation, if there is one. -/
theorem mine_of_verdict {runtime : Runtime} {token : String} {peer : List UInt8}
    {takeover : Option String} {stream : Option Nat} {needsTakeover : Bool}
    (verdict : runtime.verdict token peer takeover = .admitted stream needsTakeover) :
    Mine token peer runtime ∧ runtime.stream = stream := by
  unfold Runtime.verdict at verdict
  dsimp only at verdict
  split at verdict
  · exact nomatch verdict
  split at verdict
  · exact nomatch verdict
  case isFalse free =>
    refine ⟨fun reservation reserved => ?_, (Verdict.admitted.inj verdict).1⟩
    simp only [Runtime.reservedForAnother, reserved, Option.any_some, Bool.or_eq_true,
      decide_eq_true_eq, not_or, not_not] at free
    exact free.1

/-- A preparation leaves nothing prepared that is not to be released. -/
theorem prepareReserved_obeys {token : String} {peer : List UInt8} {takeover : Option String}
    {runtime : Runtime} (begun : Begun runtime) :
    (prepareReserved setup token peer takeover).Obeys (discipline setup)
      (fun _ found => Arranged found) runtime := by
  refine obeys_ask (stable_of_steady Begun.steady) begun (fun _ _ _ => trivial) ?_
  intro found answer after keeps begun responds
  obtain ⟨moment, verdict⟩ := answer
  have after_keeps := (discipline setup).keeps_respond found (.check token peer takeover) _ after
    keeps trivial responds
  have ended {status : Nat} {found : Runtime} (arranged : Arranged found) :
      (Dialogue.done status : Program Nat).Obeys (discipline setup)
        (fun _ found => Arranged found) found :=
    obeys_done (stable_of_steady Arranged.steady) arranged fun _ _ arranged => arranged
  have begun_after : Begun after ∧ ∀ stream needsTakeover,
      verdict = .admitted stream needsTakeover → Mine token peer after ∧ after.stream = stream := by
    unfold discipline Runtime.respond at responds
    dsimp only at responds
    split at responds <;> split at responds
    case isTrue.isTrue changed =>
      obtain rfl := Option.some.inj responds
      exact ⟨begun, fun _ _ admitted => nomatch changed.symm.trans admitted⟩
    case isFalse.isTrue same =>
      obtain rfl := Option.some.inj responds
      refine ⟨?_, fun _ _ admitted => mine_of_verdict (same.symm.trans admitted)⟩
      unfold Runtime.expire
      split
      · exact ⟨begun.arranged, begun.running⟩
      · exact begun
    all_goals exact nomatch responds
  obtain ⟨begun, admits⟩ := begun_after
  cases verdict with
  | changed | conflict => exact ended begun.arranged
  | admitted stream needsTakeover =>
    obtain ⟨mine, same⟩ := admits stream needsTakeover rfl
    have admitted : Admitted token peer stream after := ⟨begun.arranged, mine, same, begun.running⟩
    have stable := @stable_of_steady setup _ (@Admitted.steady token peer stream)
    have first : ((if needsTakeover then takeOver token peer stream else .done none) :
        Program (Option Nat)).Obeys (discipline setup)
          (fun _ found => Admitted token peer stream found) after := by
      cases needsTakeover with
      | true => exact takeOver_obeys admitted
      | false => exact obeys_done stable admitted fun _ _ admitted => admitted
    refine first.bind after_keeps ?_
    intro status found _ admitted
    cases status with
    | some status => exact ended admitted.arranged
    | none =>
      refine obeys_ask stable admitted (fun _ _ _ => trivial) ?_
      intro found drained after keeps admitted responds
      unfold discipline Runtime.respond at responds
      dsimp only at responds
      split at responds
      case isFalse => exact nomatch responds
      case isTrue same =>
        obtain rfl := Option.some.inj responds
        cases drained with
        | false => exact ended admitted.arranged
        | true =>
          rw [← admitted.stream] at same
          have all := allStopped_of_stream keeps same.symm
          have stopped_stable : ∀ runtime after, Steady runtime after →
              (Arranged runtime ∧ Held token peer runtime) →
              (Arranged after ∧ Held token peer after) :=
            fun runtime after steady known => ⟨known.1.steady runtime after steady,
              known.2.steady runtime after steady⟩
          refine obeys_ask (stable_of_steady stopped_stable)
            ⟨admitted.arranged, all, admitted.mine, admitted.running⟩ (fun _ _ _ => trivial) ?_
          intro found valid after found_keeps known responds
          obtain rfl := Option.some.inj responds
          cases valid with
          | false => exact ended known.1
          | true =>
            refine (restoreReservedDisplay_obeys Held.steady (fun _ held => held.stopped)
              (fun _ _ _ _ _ held => ⟨held.stopped, held.mine, held.running⟩) known.2).bind
              found_keeps ?_
            rintro restored found - ⟨held, left⟩
            cases restored with
            | false => exact ended left.arranged
            | true => exact prepareRestored_obeys held

/-- A recovery of the topology leaves nothing prepared that is not known. -/
theorem recoverReserved_obeys {runtime : Runtime} (arranged : Arranged runtime) :
    (recoverReserved setup).Obeys (discipline setup) (fun _ found => Arranged found) runtime := by
  have ended {recovered : Bool} {found : Runtime} (arranged : Arranged found) :
      (Dialogue.done recovered : Program Bool).Obeys (discipline setup)
        (fun _ found => Arranged found) found :=
    obeys_done (stable_of_steady Arranged.steady) arranged fun _ _ arranged => arranged
  refine obeys_ask (stable_of_steady Arranged.steady) arranged (fun _ _ _ => trivial) ?_
  intro found active after keeps arranged responds
  unfold discipline Runtime.respond at responds
  dsimp only at responds
  split at responds
  case isFalse => exact nomatch responds
  case isTrue same =>
    obtain rfl := Option.some.inj responds
    cases active with
    | true => exact ended arranged
    | false =>
      have all : AllStopped found := by
        refine allStopped_of_stream keeps ?_
        unfold Runtime.active at same
        cases stream : found.stream with
        | none => rfl
        | some index =>
          rw [stream, Option.any_some] at same
          simpa using same
      have known_stable : ∀ runtime after, Steady runtime after →
          (Arranged runtime ∧ AllStopped runtime) → (Arranged after ∧ AllStopped after) :=
        fun runtime after steady known => ⟨known.1.steady runtime after steady,
          known.2.steady steady⟩
      have stable := @stable_of_steady setup _ known_stable
      refine obeys_ask stable ⟨arranged, all⟩ (fun _ _ _ => trivial) ?_
      intro found valid after _ known responds
      obtain rfl := Option.some.inj responds
      cases valid with
      | false => exact ended known.1
      | true =>
        refine obeys_ask stable known (fun _ _ _ => trivial) ?_
        intro found permitted after keeps known responds
        obtain rfl := Option.some.inj responds
        cases permitted with
        | false => exact ended known.1
        | true =>
          refine (restoreReservedDisplay_obeys (fun _ _ steady all => all.steady steady)
            (fun _ all => all) (fun _ _ _ _ _ all => all) known.2).bind keeps ?_
          rintro restored found - ⟨all, left⟩
          cases restored with
          | false => exact ended left.arranged
          | true =>
            refine obeys_ask stable ⟨left.arranged, all⟩ (fun _ _ known => known.2) ?_
            intro found recovered after _ known responds
            obtain rfl := Option.some.inj responds
            cases recovered with
            | false => exact ended known.1
            | true =>
              refine obeys_ask stable known (fun _ _ _ => trivial) ?_
              intro found valid after _ known responds
              obtain rfl := Option.some.inj responds
              exact ended known.1

/-- What is known where an operation begins. -/
def Operation.Begins : Operation → Runtime → Prop
  | prepare _ _ _, runtime => Begun runtime
  | recover, runtime => Arranged runtime
  | release _, runtime => AllStopped runtime

/-- What an operation leaves. -/
def Operation.Ensures (operation : Operation) (runtime : Runtime) : Prop :=
  Arranged runtime ∧ ∀ shutdown, operation = release shutdown → AllStopped runtime ∧
    (runtime.displayPrepared = true → runtime.displayRestorationFailed = true)

/-- Every operation leaves nothing prepared that is not known. -/
theorem Operation.obeys (operation : Operation) {runtime : Runtime}
    (keeps : (discipline setup).keeps runtime) (begins : operation.Begins runtime) :
    (operation.program setup).Obeys (discipline setup) (fun _ found => operation.Ensures found)
      runtime := by
  have ended {found : Runtime} {operation : Operation} (arranged : Arranged found)
      (other : ∀ shutdown, operation ≠ release shutdown) :
      (Dialogue.done () : Program Unit).Obeys (discipline setup)
        (fun _ found => operation.Ensures found) found :=
    obeys_done (stable_of_steady Arranged.steady) arranged
      fun _ _ arranged => ⟨arranged, fun shutdown same => (other shutdown same).elim⟩
  cases operation with
  | prepare token peer takeover =>
    exact (prepareReserved_obeys begins).bind keeps
      fun _ _ _ arranged => ended arranged nofun
  | recover =>
    exact (recoverReserved_obeys begins).bind keeps fun _ _ _ arranged => ended arranged nofun
  | release shutdown =>
    refine (restoreReservedDisplay_obeys (fun _ _ steady all => all.steady steady)
      (fun _ all => all) (fun _ _ _ _ _ all => all) begins).bind keeps ?_
    intro restored found _ known
    have known_stable : ∀ runtime after, Steady runtime after →
        (AllStopped runtime ∧ Restored restored runtime) →
        (AllStopped after ∧ Restored restored after) :=
      fun runtime after steady known => ⟨known.1.steady steady,
        known.2.steady runtime after steady⟩
    refine obeys_done (stable_of_steady known_stable) known fun found _ known => ?_
    refine ⟨known.2.arranged, fun _ _ => ⟨known.1, fun prepared => ?_⟩⟩
    cases restored with
    | true => exact nomatch (show found.displayPrepared = false from known.2).symm.trans prepared
    | false => exact known.2

end Plank.Session
