import Plank.Auth.Graphical

/-!
# Graphical authority is fresh

While the authority is not revoked the trace is clean: no revocation, no reply that shows another
scope, and no snapshot that found it expired. The time it counts from is the begin of a reply that
showed the initial scope.
-/

namespace Plank.Auth

/-- Nothing in the trace ends the authority. -/
structure Clean (trace : List AuthorityEvent) : Prop where
  /-- It was not revoked. -/
  unrevoked : .revoked ∉ trace
  /-- No reply showed another scope. -/
  matching : ∀ began, .completed began false ∉ trace
  /-- No snapshot found it ended. -/
  standing : ∀ now, .snapshot now false ∉ trace

/-- A matching reply and an active snapshot end nothing. -/
theorem Clean.cons {trace : List AuthorityEvent} (clean : Clean trace) {event : AuthorityEvent}
    (revoked : event ≠ .revoked) (completed : ∀ began, event ≠ .completed began false)
    (snapshot : ∀ now, event ≠ .snapshot now false) : Clean (event :: trace) where
  unrevoked member := by
    rcases List.mem_cons.mp member with same | earlier
    · exact revoked same.symm
    · exact clean.unrevoked earlier
  matching began member := by
    rcases List.mem_cons.mp member with same | earlier
    · exact completed began same.symm
    · exact clean.matching began earlier
  standing now member := by
    rcases List.mem_cons.mp member with same | earlier
    · exact snapshot now same.symm
    · exact clean.standing now earlier

/-- Every active snapshot follows a matching reply begun within the last second, and nothing that
ends the authority. -/
def Authorised (trace : List AuthorityEvent) : Prop :=
  ∀ later now earlier, trace = later ++ .snapshot now true :: earlier → Clean earlier ∧
    ∃ began, .completed began true ∈ earlier ∧ began ≤ now ∧ now < began + maximumObservationAge

/-- Any other event. -/
theorem Authorised.cons {trace : List AuthorityEvent} (authorised : Authorised trace)
    {event : AuthorityEvent} (other : ∀ now, event = .snapshot now true → Clean trace ∧
      ∃ began, .completed began true ∈ trace ∧ began ≤ now ∧
        now < began + maximumObservationAge) : Authorised (event :: trace) := by
  intro later now earlier split
  cases later with
  | nil =>
    obtain ⟨rfl, rfl⟩ := List.cons.inj split
    exact other now rfl
  | cons head rest => exact authorised rest now earlier (List.cons.inj split).2

namespace GraphicalAuthority

/-- What holds of an authority at every moment. -/
structure Fresh (authority : GraphicalAuthority) : Prop where
  /-- The last observation was begun before now. -/
  checked : authority.checkedAt ≤ authority.clock
  /-- So was the one of the initialiser. -/
  observing : ∀ began, authority.initialiser = .observing began → began ≤ authority.clock
  /-- So was every refresh in progress. -/
  begun : ∀ refresh ∈ authority.refreshes, refresh.began ≤ authority.clock
  /-- Nobody has the authority before it is handed out. -/
  early : authority.initialiser ≠ .done → authority.revoked = true ∧
    (∀ now active, .snapshot now active ∉ authority.trace) ∧
      ∀ began matched, .completed began matched ∉ authority.trace
  /-- The flag says whether it was revoked. -/
  told : authority.notified = true ↔ .revoked ∈ authority.trace
  /-- An authority that is not revoked was observed and nothing ended it. -/
  live : authority.revoked = false → .completed authority.checkedAt true ∈ authority.trace ∧
    Clean authority.trace ∧ authority.initial.active = true
  /-- So every active snapshot was fresh. -/
  authorised : Authorised authority.trace

variable {authority : GraphicalAuthority}

/-- An authority that is revoked needs nothing more than its past. -/
theorem Fresh.ended (fresh : Fresh authority) {event : AuthorityEvent}
    (inactive : ∀ now, event ≠ .snapshot now true) :
    Authorised (event :: authority.trace) :=
  fresh.authorised.cons fun now same => absurd same (inactive now)

/-- The end of the initialiser. -/
theorem Fresh.initEnd (fresh : Fresh authority) {began : Nat}
    (observing : authority.initialiser = .observing began) (observation : Option Observation)
    (generation : Option UInt64) : Fresh (authority.initEnd began observation generation) := by
  obtain ⟨revoked, unseen, uncompleted⟩ := fresh.early (by simp [observing])
  have before := fresh.observing began observing
  have told : authority.notified = true ↔
      .revoked ∈ AuthorityEvent.completed began observation.isSome :: authority.trace :=
    fresh.told.trans (by simp)
  have quiet : Fresh { authority.note (.completed began observation.isSome) with
      initialiser := .done } := {
    checked := fresh.checked
    observing := fun _ same => absurd same (by simp)
    begun := fresh.begun
    early := fun early => absurd rfl early
    told := told
    live := fun active => by
      rw [show authority.revoked = false from active] at revoked
      exact absurd revoked (by simp)
    authorised := fresh.ended (by simp) }
  unfold GraphicalAuthority.initEnd
  dsimp only
  split
  · next observation generation =>
    split
    · exact quiet
    · next unnotified =>
      simp only [Bool.or_eq_true, not_or, Bool.not_eq_true] at unnotified
      split
      · exact {
          checked := quiet.checked
          observing := quiet.observing
          begun := quiet.begun
          early := quiet.early
          told := told
          live := fun active => by
            rw [show authority.revoked = false from active] at revoked
            exact absurd revoked (by simp)
          authorised := quiet.authorised }
      · exact {
          checked := before
          observing := quiet.observing
          begun := quiet.begun
          early := fun early => absurd rfl early
          told := told
          live := fun _ => by
            refine ⟨List.mem_cons_self, ⟨?_, ?_, ?_⟩, rfl⟩
            · intro member
              have notified := told.mpr member
              rw [show authority.notified = false from unnotified.1] at notified
              exact absurd notified (by simp)
            · intro other member
              rcases List.mem_cons.mp member with same | earlier
              · exact absurd same (by simp)
              · exact uncompleted other false earlier
            · intro now member
              exact unseen now false (by simpa [note] using member)
          authorised := quiet.authorised }
  · exact quiet

/-- The first check of a refresh. -/
theorem Fresh.refreshCheck (fresh : Fresh authority) {index began : Nat} {observing : Bool}
    (present : authority.refreshes[index]? = some ⟨began, observing⟩) :
    Fresh (authority.refreshCheck index began) := by
  have member := fresh.begun _ (List.mem_of_getElem? present)
  unfold GraphicalAuthority.refreshCheck
  split
  · exact { fresh with
      begun := fun refresh inside => fresh.begun refresh (List.mem_of_mem_eraseIdx inside)
      early := fun early => ⟨rfl, (fresh.early early).2⟩
      live := fun active => absurd active (by simp) }
  · refine { fresh with begun := ?_ }
    intro refresh inside
    rcases List.mem_or_eq_of_mem_set inside with earlier | rfl
    · exact fresh.begun refresh earlier
    · exact member

/-- The second check of a refresh. -/
theorem Fresh.refreshEnd (fresh : Fresh authority) (handed : authority.initialiser = .done)
    {index began : Nat} {observing : Bool}
    (present : authority.refreshes[index]? = some ⟨began, observing⟩)
    (observation : Option Observation) : Fresh (authority.refreshEnd index began observation) := by
  have before := fresh.begun _ (List.mem_of_getElem? present)
  have told : authority.notified = true ↔ .revoked ∈
      AuthorityEvent.completed began (authority.matched observation) :: authority.trace :=
    fresh.told.trans (by simp)
  have authorised : Authorised
      (.completed began (authority.matched observation) :: authority.trace) :=
    fresh.ended (by simp)
  have begun : ∀ refresh ∈ authority.refreshes.eraseIdx index,
      refresh.began ≤ authority.clock := fun refresh inside =>
    fresh.begun refresh (List.mem_of_mem_eraseIdx inside)
  unfold GraphicalAuthority.refreshEnd
  dsimp only
  split
  · exact {
      checked := fresh.checked
      observing := fresh.observing
      begun := begun
      early := fun early => absurd handed early
      told := told
      live := fun active => absurd active (by simp)
      authorised := authorised }
  · next renews =>
    simp only [Bool.or_eq_true, not_or, Bool.not_eq_true, Bool.not_eq_true',
      Bool.not_eq_false] at renews
    obtain ⟨⟨live, _⟩, matched⟩ := renews
    obtain ⟨_, clean, active⟩ := fresh.live live
    exact {
      checked := before
      observing := fresh.observing
      begun := begun
      early := fun early => absurd handed early
      told := told
      live := fun _ => by
        refine ⟨?_, clean.cons (by simp) ?_ (by simp), active⟩
        · rw [matched]
          exact List.mem_cons_self
        · intro other same
          obtain ⟨_, mismatch⟩ := AuthorityEvent.completed.inj same
          rw [matched] at mismatch
          exact absurd mismatch (by simp)
      authorised := authorised }

/-- A snapshot. -/
theorem Fresh.snapshot (fresh : Fresh authority) (handed : authority.initialiser = .done) :
    Fresh authority.snapshot.1 := by
  unfold GraphicalAuthority.snapshot
  split
  · exact { fresh with
      early := fun early => absurd handed early
      told := fresh.told.trans (by simp [note])
      live := fun active => absurd active (by simp)
      authorised := fresh.ended (by simp) }
  · next standing =>
    simp only [Bool.or_eq_true, not_or, Bool.not_eq_true] at standing
    obtain ⟨live, young⟩ := standing
    obtain ⟨checked, clean, active⟩ := fresh.live live
    simp only [expired, Bool.or_eq_false_iff, decide_eq_false_iff_not, Nat.not_lt,
      Nat.not_le] at young
    have later : Clean (.snapshot authority.clock authority.initial.active :: authority.trace) :=
      clean.cons (by simp) (by simp) (by simp [active])
    exact { fresh with
      early := fun early => absurd handed early
      told := fresh.told.trans (by simp [note])
      live := fun _ => ⟨List.mem_cons_of_mem _ checked, later, active⟩
      authorised := by
        refine fresh.authorised.cons ?_
        rintro now same
        obtain ⟨rfl, _⟩ := AuthorityEvent.snapshot.inj same
        exact ⟨clean, authority.checkedAt, checked, young.1, by omega⟩ }

/-- A revocation. -/
theorem Fresh.revoke (fresh : Fresh authority) : Fresh authority.revoke := by
  refine { fresh with
    early := fun early => ?_
    told := iff_of_true rfl List.mem_cons_self
    live := fun active => absurd active (by simp [GraphicalAuthority.revoke])
    authorised := fresh.ended (by simp) }
  obtain ⟨_, unseen, uncompleted⟩ := fresh.early early
  exact ⟨rfl, fun now active => by simpa [GraphicalAuthority.revoke, note] using unseen now active,
    fun began matched => by
      simpa [GraphicalAuthority.revoke, note] using uncompleted began matched⟩

/-- Every step keeps an authority fresh; refreshes begin once it is handed out. -/
theorem fresh_step : system.Preserves fun authority => Fresh authority ∧
    (authority.initialiser ≠ .done → authority.refreshes = []) := by
  rintro authority label after ⟨fresh, none⟩ stepped
  have handed : ∀ {index : Nat} {refresh : Refresh},
      authority.refreshes[index]? = some refresh → authority.initialiser = .done := by
    intro index refresh present
    by_contra early
    rw [none early] at present
    exact absurd present (by simp)
  cases label with
  | advance duration =>
    obtain rfl := Option.some.inj stepped
    exact ⟨{ fresh with
      checked := Nat.le_trans fresh.checked (Nat.le_add_right _ _)
      observing := fun began same =>
        Nat.le_trans (fresh.observing began same) (Nat.le_add_right _ _)
      begun := fun refresh inside =>
        Nat.le_trans (fresh.begun refresh inside) (Nat.le_add_right _ _) }, none⟩
  | initBegin =>
    simp only [system, step] at stepped
    split at stepped
    · next subscribed =>
      obtain rfl := Option.some.inj stepped
      exact ⟨{ fresh with
        observing := fun began same => by
          obtain rfl := Initialiser.observing.inj same
          exact Nat.le_refl _
        early := fun _ => fresh.early (by simp [subscribed]) },
        fun _ => none (by simp [subscribed])⟩
    · exact absurd stepped (by simp)
  | initEnd observation generation =>
    simp only [system, step] at stepped
    split at stepped
    · next began observing =>
      obtain rfl := Option.some.inj stepped
      refine ⟨fresh.initEnd observing observation generation, fun early => absurd ?_ early⟩
      unfold GraphicalAuthority.initEnd
      dsimp only
      split
      · split
        · rfl
        · split <;> rfl
      · rfl
    · exact absurd stepped (by simp)
  | refreshBegin =>
    obtain ⟨done, result⟩ := Option.ite_none_right_eq_some.mp stepped
    obtain rfl := Option.some.inj result
    refine ⟨{ fresh with begun := ?_ }, fun early => absurd done early⟩
    intro refresh inside
    rcases List.mem_append.mp inside with earlier | new
    · exact fresh.begun refresh earlier
    · obtain rfl := List.mem_singleton.mp new
      exact Nat.le_refl _
  | refreshCheck index =>
    simp only [system, step] at stepped
    split at stepped
    · next began present =>
      obtain rfl := Option.some.inj stepped
      refine ⟨fresh.refreshCheck present, fun early => absurd ?_ early⟩
      unfold GraphicalAuthority.refreshCheck
      split <;> exact handed present
    · exact absurd stepped (by simp)
  | refreshEnd index observation =>
    simp only [system, step] at stepped
    split at stepped
    · next began present =>
      obtain rfl := Option.some.inj stepped
      refine ⟨fresh.refreshEnd (handed present) present observation, fun early => absurd ?_ early⟩
      unfold GraphicalAuthority.refreshEnd
      dsimp only
      split <;> exact handed present
    · exact absurd stepped (by simp)
  | snapshot =>
    obtain ⟨done, result⟩ := Option.ite_none_right_eq_some.mp stepped
    obtain rfl := Option.some.inj result
    refine ⟨fresh.snapshot done, fun early => absurd ?_ early⟩
    unfold GraphicalAuthority.snapshot
    split <;> exact done
  | revoke =>
    obtain rfl := Option.some.inj stepped
    exact ⟨fresh.revoke, none⟩

/-- An authority is fresh in every reachable state. -/
theorem reachable_fresh (reachable : system.Reachable authority) : Fresh authority := by
  have both := fresh_step.reachable ?_ reachable
  · exact both.1
  · rintro authority ⟨phase, _, rfl⟩
    exact ⟨{
      checked := Nat.le_refl _
      observing := fun _ same => absurd same (by simp)
      begun := fun _ inside => absurd inside (by simp)
      early := fun _ => ⟨rfl, by simp, by simp⟩
      told := iff_of_false (by simp) (by simp)
      live := fun active => absurd active (by simp)
      authorised := fun later now earlier split => absurd split (by simp) }, fun _ => rfl⟩

/-- It is over: no step hands the authority out again. -/
structure Ended (authority : GraphicalAuthority) : Prop where
  /-- It is revoked. -/
  revoked : authority.revoked = true
  /-- The initialiser will not lift it. -/
  lasting : authority.notified = true ∨ authority.initialiser = .done

/-- An authority that is over stays over. -/
theorem ended_step : system.Preserves Ended := by
  rintro authority label after ended stepped
  cases label with
  | advance duration =>
    obtain rfl := Option.some.inj stepped
    exact ⟨ended.revoked, ended.lasting⟩
  | initBegin =>
    simp only [system, step] at stepped
    split at stepped
    · next subscribed =>
      obtain rfl := Option.some.inj stepped
      exact ⟨ended.revoked, .inl (ended.lasting.resolve_right (by simp [subscribed]))⟩
    · exact absurd stepped (by simp)
  | initEnd observation generation =>
    simp only [system, step] at stepped
    split at stepped
    · next began observing =>
      obtain rfl := Option.some.inj stepped
      have notified := ended.lasting.resolve_right (by simp [observing])
      unfold GraphicalAuthority.initEnd
      dsimp only
      split
      · rw [if_pos (by simp [note, notified])]
        exact ⟨ended.revoked, .inr rfl⟩
      · exact ⟨ended.revoked, .inr rfl⟩
    · exact absurd stepped (by simp)
  | refreshBegin =>
    obtain ⟨_, result⟩ := Option.ite_none_right_eq_some.mp stepped
    obtain rfl := Option.some.inj result
    exact ⟨ended.revoked, ended.lasting⟩
  | refreshCheck index =>
    simp only [system, step] at stepped
    split at stepped
    · obtain rfl := Option.some.inj stepped
      unfold GraphicalAuthority.refreshCheck
      rw [if_pos (by simp [ended.revoked])]
      exact ⟨rfl, ended.lasting⟩
    · exact absurd stepped (by simp)
  | refreshEnd index observation =>
    simp only [system, step] at stepped
    split at stepped
    · obtain rfl := Option.some.inj stepped
      unfold GraphicalAuthority.refreshEnd
      dsimp only
      rw [if_pos (by simp [note, ended.revoked])]
      exact ⟨rfl, ended.lasting⟩
    · exact absurd stepped (by simp)
  | snapshot =>
    obtain ⟨_, result⟩ := Option.ite_none_right_eq_some.mp stepped
    obtain rfl := Option.some.inj result
    unfold GraphicalAuthority.snapshot
    rw [if_pos (by simp [ended.revoked])]
    exact ⟨rfl, ended.lasting⟩
  | revoke =>
    obtain rfl := Option.some.inj stepped
    exact ⟨rfl, .inl rfl⟩

/-- A revocation is remembered. -/
theorem Fresh.ended_of_revoked (fresh : Fresh authority) (revoked : .revoked ∈ authority.trace) :
    Ended authority := by
  refine ⟨?_, .inl (fresh.told.mpr revoked)⟩
  by_contra live
  exact (fresh.live (Bool.eq_false_iff.mpr live)).2.1.unrevoked revoked

/-- A reply that leaves an authority active found it active, and the authority counts from the
begin of its refresh. -/
theorem refreshEnd_active {index began now : Nat} {observation : Option Observation}
    (active : (authority.refreshEnd index began observation).ActiveAt now) :
    authority.ActiveAt authority.clock ∧ began ≤ now ∧ now < began + maximumObservationAge := by
  obtain ⟨live, young⟩ := active
  unfold GraphicalAuthority.refreshEnd at live young
  dsimp only at live young
  split at young
  · next ends =>
    rw [if_pos ends] at live
    exact absurd live (by simp)
  · next renews =>
    simp only [Bool.or_eq_true, not_or, Bool.not_eq_true] at renews
    refine ⟨⟨renews.1.1, renews.1.2⟩, ?_⟩
    simp only [expired, Bool.or_eq_false_iff, decide_eq_false_iff_not, Nat.not_lt,
      Nat.not_le] at young
    omega

/-- How an authority answers for its session. -/
structure Freshness (authority : GraphicalAuthority) : Prop where
  /-- An active snapshot is fresh, and nothing before it ended the authority. -/
  authorised : Authorised authority.trace
  /-- Once revoked, by a notification or by the authority itself, it is never active again. -/
  ended : .revoked ∈ authority.trace ∨
    (authority.initialiser = .done ∧ authority.revoked = true) →
    ∀ later, system.Reaches authority later → ∀ now, ¬ later.ActiveAt now
  /-- A reply renews no authority that has ended, and none past the second of a newer refresh
  that has completed. -/
  late : ∀ index began observation after,
    authority.refreshes[index]? = some ⟨began, true⟩ →
    system.step authority (.refreshEnd index observation) = some after →
    ∀ now, after.ActiveAt now → authority.ActiveAt authority.clock ∧
      ∀ newer matched, .completed newer matched ∈ authority.trace → began < newer →
        now < newer + maximumObservationAge
  /-- A reply of a refresh no newer than the observation the authority counts from extends
  nothing. -/
  shortens : ∀ index began observation after,
    authority.refreshes[index]? = some ⟨began, true⟩ → began ≤ authority.checkedAt →
    system.step authority (.refreshEnd index observation) = some after →
    ∀ now, authority.clock ≤ now → after.ActiveAt now → authority.ActiveAt now

/-- The freshness of a graphical authority. -/
theorem reachable_freshness (authority : GraphicalAuthority)
    (reachable : system.Reachable authority) : Freshness authority := by
  have fresh := reachable_fresh reachable
  have replied : ∀ {index began : Nat} {observation : Option Observation}
      {after : GraphicalAuthority}, authority.refreshes[index]? = some ⟨began, true⟩ →
      system.step authority (.refreshEnd index observation) = some after →
      after = authority.refreshEnd index began observation := by
    intro index began observation after present stepped
    simp only [system, step, present] at stepped
    exact (Option.some.inj stepped).symm
  refine ⟨fresh.authorised, ?_, ?_, ?_⟩
  · intro outcome later reaches now active
    have ended : Ended authority := by
      rcases outcome with revoked | ⟨handed, revoked⟩
      · exact fresh.ended_of_revoked revoked
      · exact ⟨revoked, .inr handed⟩
    have still := (ended_step.reaches ended reaches).revoked
    rw [active.1] at still
    exact absurd still (by simp)
  · intro index began observation after present stepped now active
    obtain rfl := replied present stepped
    obtain ⟨found, -, young⟩ := refreshEnd_active active
    exact ⟨found, fun newer matched _ older => by omega⟩
  · intro index began observation after present older stepped now later active
    obtain rfl := replied present stepped
    obtain ⟨⟨live, _⟩, -, young⟩ := refreshEnd_active active
    have checked := fresh.checked
    refine ⟨live, ?_⟩
    simp only [expired, Bool.or_eq_false_iff, decide_eq_false_iff_not, Nat.not_lt, Nat.not_le]
    omega

/-- Three refreshes overlap; the newest completes, then the oldest. -/
def overlapping : List AuthorityLabel :=
  let shown := some ⟨⟨501, 7⟩, 3⟩
  [.initBegin, .initEnd shown (some 1),
    .advance 10000000, .refreshBegin, .refreshCheck 0,
    .advance 10000000, .refreshBegin, .refreshCheck 1,
    .advance 10000000, .refreshBegin, .refreshCheck 2,
    .refreshEnd 2 shown, .refreshEnd 0 shown]

/-- The authority then counts from the oldest; the middle one's reply moves it on again. -/
theorem late_reply_extends : ∃ before after : GraphicalAuthority, system.Reachable before ∧
    before.refreshes[0]? = some ⟨20000000, true⟩ ∧ .completed 30000000 true ∈ before.trace ∧
    system.step before (.refreshEnd 0 (some ⟨⟨501, 7⟩, 3⟩)) = some after ∧
    before.clock ≤ 1015000000 ∧ ¬ before.ActiveAt 1015000000 ∧ after.ActiveAt 1015000000 := by
  refine ⟨_, _, Transition.System.reachable_of_run ⟨.desktop, .inl rfl, rfl⟩
    (show system.run { initial := { phase := .desktop } } overlapping = some _ from rfl),
    rfl, by decide, rfl, by decide, ?_, ⟨rfl, rfl⟩⟩
  intro active
  exact absurd active.2 (by decide)

/-- The same refreshes, with every reply, a snapshot and a revocation. -/
theorem sample_freshness : ∃ authority : GraphicalAuthority,
    authority.trace.length = 6 ∧ Freshness authority :=
  ⟨_, rfl, reachable_freshness _ (Transition.System.reachable_of_run
    ⟨.desktop, .inl rfl, rfl⟩ (show system.run { initial := { phase := .desktop } }
      (overlapping ++ [.refreshEnd 0 (some ⟨⟨501, 7⟩, 3⟩), .snapshot, .revoke]) =
        some _ from rfl))⟩

end GraphicalAuthority

end Plank.Auth
