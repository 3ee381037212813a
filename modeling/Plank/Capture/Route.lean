import Plank.Capture.Settle

/-!
# Routes are stopped before their taps

A route is started for the current tap only. When the tap is released its route is stopped first,
and the tap is stopped by the completion of that.
-/

namespace Plank.Capture

/-- Events that change where a tap or a route is. -/
def Event.routing : Event → Bool
  | .routeStarted _ _ | .tapStop _ | .tapCreated _ => true
  | _ => false

namespace Screen

/-- Where the taps and their routes are, while a tap may be in transit. -/
structure Routes (transit : Option Nat) (screen : Screen) : Prop where
  /-- A tap that was created is current, being stopped, or stopped. -/
  located : ∀ tap, .tapCreated tap ∈ screen.trace → transit = some tap ∨
    screen.audioTap = some tap ∨ (∃ route, (route, tap) ∈ screen.routeStopping) ∨
      tap ∈ screen.tapStopping ∨ .tapStopped tap ∈ screen.trace
  /-- A route that was started is selected, being stopped, or stopped. -/
  routed : ∀ route tap, .routeStarted route tap ∈ screen.trace →
    (screen.outputSelection = some route ∧ screen.audioTap = some tap) ∨
      (route, tap) ∈ screen.routeStopping ∨ .routeStopped route ∈ screen.trace
  /-- The current tap was not stopped. -/
  current : ∀ tap, screen.audioTap = some tap → tap < screen.taps ∧ .tapStop tap ∉ screen.trace
  /-- Nor was a tap whose route is being stopped. -/
  leaving : ∀ route tap, (route, tap) ∈ screen.routeStopping →
    tap < screen.taps ∧ .tapStop tap ∉ screen.trace
  /-- Only taps that were created are stopped. -/
  known : ∀ tap, .tapStop tap ∈ screen.trace → tap < screen.taps
  /-- Every route of a tap is stopped before the tap. -/
  ordered : ∀ later tap earlier, screen.trace = later ++ .tapStop tap :: earlier →
    ∀ route, .routeStarted route tap ∈ screen.trace → .routeStopped route ∈ earlier

/-- While there is a current tap no route is being stopped. -/
def Alone (screen : Screen) : Prop := screen.audioTap ≠ none → screen.routeStopping = []

/-- There is one tap at a time. -/
theorem Core.alone {screen : Screen} (core : Core 0 screen) : Alone screen := by
  intro some
  have present : screen.audioTap.isSome = true := Option.isSome_iff_ne_none.mpr some
  have single := core.single
  simp only [live, present, if_true] at single
  exact List.length_eq_zero_iff.mp (by omega)

namespace Routes

variable {transit : Option Nat} {screen : Screen}

/-- Nothing that concerns a route changed. -/
theorem same (routes : Routes transit screen) {changed : Screen}
    (selection : changed.outputSelection = screen.outputSelection)
    (tap : changed.audioTap = screen.audioTap) (taps : changed.taps = screen.taps)
    (stopping : changed.routeStopping = screen.routeStopping)
    (leaving : changed.tapStopping = screen.tapStopping)
    (trace : changed.trace = screen.trace) : Routes transit changed := by
  constructor
  · rw [tap, stopping, leaving, trace]
    exact routes.located
  · rw [selection, tap, stopping, trace]
    exact routes.routed
  · rw [tap, taps, trace]
    exact routes.current
  · rw [stopping, taps, trace]
    exact routes.leaving
  · rw [taps, trace]
    exact routes.known
  · rw [trace]
    exact routes.ordered

/-- Any other event changes no route. -/
theorem note (routes : Routes transit screen) (event : Event) (plain : event.routing = false) :
    Routes transit (screen.note event) where
  located tap member := by
    rcases List.mem_cons.mp member with rfl | earlier
    · exact absurd plain (by simp [Event.routing])
    · exact (routes.located tap earlier).imp_right
        (·.imp_right (·.imp_right (·.imp_right (List.mem_cons_of_mem _))))
  routed route tap member := by
    rcases List.mem_cons.mp member with rfl | earlier
    · exact absurd plain (by simp [Event.routing])
    · exact (routes.routed route tap earlier).imp_right (·.imp_right (List.mem_cons_of_mem _))
  current tap current := by
    obtain ⟨known, unstopped⟩ := routes.current tap current
    refine ⟨known, ?_⟩
    intro member
    rcases List.mem_cons.mp member with rfl | earlier
    · exact absurd plain (by simp [Event.routing])
    · exact unstopped earlier
  leaving route tap leaving := by
    obtain ⟨known, unstopped⟩ := routes.leaving route tap leaving
    refine ⟨known, ?_⟩
    intro member
    rcases List.mem_cons.mp member with rfl | earlier
    · exact absurd plain (by simp [Event.routing])
    · exact unstopped earlier
  known tap member := by
    rcases List.mem_cons.mp member with rfl | earlier
    · exact absurd plain (by simp [Event.routing])
    · exact routes.known tap earlier
  ordered later tap earlier split route started := by
    have before : .routeStarted route tap ∈ screen.trace := by
      rcases List.mem_cons.mp started with rfl | before
      · exact absurd plain (by simp [Event.routing])
      · exact before
    cases later with
    | nil =>
      obtain ⟨rfl, _⟩ := List.cons.inj split
      exact absurd plain (by simp [Event.routing])
    | cons head rest => exact routes.ordered rest tap earlier (List.cons.inj split).2 route before

/-- The stop completion changes no route. -/
theorem finishStop (routes : Routes transit screen) : Routes transit screen.finishStop := by
  unfold Screen.finishStop
  split
  · exact routes
  · cases screen.drained with
    | true => exact (routes.note (.drained) rfl).same rfl rfl rfl rfl rfl rfl
    | false => exact routes.same rfl rfl rfl rfl rfl rfl

/-- The stop of the tap in transit completes. -/
theorem tapStopped {tap : Nat} (routes : Routes (some tap) screen) :
    Routes none (screen.tapStopped tap) := by
  have noted := routes.note (.tapStopped tap) rfl
  have stopped : Routes none { screen.note (.tapStopped tap) with audioStopped := true } := {
    located := by
      intro other created
      obtain same | elsewhere := noted.located other created
      · obtain rfl := Option.some.inj same
        exact .inr (.inr (.inr (.inr List.mem_cons_self)))
      · exact .inr elsewhere
    routed := noted.routed
    current := noted.current
    leaving := noted.leaving
    known := noted.known
    ordered := noted.ordered }
  have finished := stopped.finishStop
  unfold Screen.tapStopped
  dsimp only
  split
  · exact finished
  · exact finished.same rfl rfl rfl rfl rfl rfl

/-- A tap whose routes are stopped is stopped. -/
theorem stopTap {tap : Nat} (routes : Routes (some tap) screen) (none : screen.audioTap = none)
    (left : screen.routeStopping = []) (known : tap < screen.taps)
    (stopped : ∀ route, .routeStarted route tap ∈ screen.trace →
      .routeStopped route ∈ screen.trace) (reaction : Reaction) :
    Routes Option.none (screen.stopTap tap reaction) := by
  have noted : Routes (some tap) (screen.note (.tapStop tap)) := {
    located := by
      intro other created
      have earlier : .tapCreated other ∈ screen.trace := by simpa [Screen.note] using created
      exact (routes.located other earlier).imp_right
        (·.imp_right (·.imp_right (·.imp_right (List.mem_cons_of_mem _))))
    routed := by
      intro route other member
      have earlier : .routeStarted route other ∈ screen.trace := by
        simpa [Screen.note] using member
      exact (routes.routed route other earlier).imp_right
        (·.imp_right (List.mem_cons_of_mem _))
    current := by
      intro other current
      rw [show screen.audioTap = some other from current] at none
      exact absurd none (by simp)
    leaving := by
      intro route other leaving
      rw [show (screen.note (.tapStop tap)).routeStopping = [] from left] at leaving
      exact absurd leaving (by simp)
    known := by
      intro other member
      rcases List.mem_cons.mp member with same | earlier
      · obtain rfl := Event.tapStop.inj same
        exact known
      · exact routes.known other earlier
    ordered := by
      intro later other earlier split route started
      have before : .routeStarted route other ∈ screen.trace := by
        simpa [Screen.note] using started
      cases later with
      | nil =>
        obtain ⟨same, rfl⟩ := List.cons.inj split
        obtain rfl := Event.tapStop.inj same
        exact stopped route before
      | cons head rest => exact routes.ordered rest other earlier (List.cons.inj split).2 route before }
  unfold Screen.stopTap
  dsimp only
  split
  · exact noted.tapStopped
  · exact {
      located := by
        intro other created
        obtain same | current | leaving | stopping | stopped := noted.located other created
        · obtain rfl := Option.some.inj same
          exact .inr (.inr (.inr (.inl (List.mem_append_right _ (List.mem_singleton_self _)))))
        · exact .inr (.inl current)
        · exact .inr (.inr (.inl leaving))
        · exact .inr (.inr (.inr (.inl (List.mem_append_left _ stopping))))
        · exact .inr (.inr (.inr (.inr stopped)))
      routed := noted.routed
      current := noted.current
      leaving := noted.leaving
      known := noted.known
      ordered := noted.ordered }

/-- A tap is released with its route stopped first. -/
theorem stopDesktopAudio (routes : Routes none screen) (alone : Alone screen)
    (reaction : Reaction) : Routes none (screen.stopDesktopAudio reaction) := by
  unfold Screen.stopDesktopAudio
  cases current : screen.audioTap with
  | none => exact routes
  | some tap =>
    have left : screen.routeStopping = [] := alone (by simp [current])
    obtain ⟨known, unstopped⟩ := routes.current tap current
    have located : ∀ other, .tapCreated other ∈ screen.trace → some tap = some other ∨
        other ∈ screen.tapStopping ∨ .tapStopped other ∈ screen.trace := by
      intro other created
      obtain none | held | ⟨route, leaving⟩ | elsewhere := routes.located other created
      · exact absurd none (by simp)
      · exact .inl (current.symm.trans held)
      · rw [left] at leaving
        exact absurd leaving (by simp)
      · exact .inr elsewhere
    dsimp only
    cases selected : screen.outputSelection with
    | none =>
      have stopped : ∀ route other, .routeStarted route other ∈ screen.trace →
          .routeStopped route ∈ screen.trace := by
        intro route other started
        obtain ⟨some, _⟩ | leaving | stopped := routes.routed route other started
        · rw [selected] at some
          exact absurd some (by simp)
        · rw [left] at leaving
          exact absurd leaving (by simp)
        · exact stopped
      have released : Routes (some tap) { screen with
          audioTap := none, startingTap := false, outputSelection := none } := {
        located := fun other created => (located other created).imp_right (.inr ∘ .inr)
        routed := fun route other started => .inr (.inr (stopped route other started))
        current := fun other some => absurd some (by simp)
        leaving := routes.leaving
        known := routes.known
        ordered := routes.ordered }
      exact released.stopTap rfl left known (fun route => stopped route tap) reaction
    | some route =>
      have stopped : ∀ other tap, .routeStarted other tap ∈ screen.trace →
          other = route ∨ .routeStopped other ∈ screen.trace := by
        intro other tap started
        obtain ⟨same, _⟩ | leaving | stopped := routes.routed other tap started
        · rw [selected] at same
          exact .inl (Option.some.inj same).symm
        · rw [left] at leaving
          exact absurd leaving (by simp)
        · exact .inr stopped
      dsimp only
      split
      · have started : ∀ other tap, .routeStarted other tap ∈
            (Event.routeStopped route :: screen.trace) →
              .routeStopped other ∈ Event.routeStopped route :: screen.trace := by
          intro other tap started
          rcases stopped other tap (by simpa using started) with rfl | stopped
          · exact List.mem_cons_self
          · exact List.mem_cons_of_mem _ stopped
        have released : Routes (some tap) ({ screen with
            audioTap := none
            startingTap := false
            outputSelection := none }.note (.routeStopped route)) := {
          located := fun other created =>
            (located other (by simpa [Screen.note] using created)).imp_right
              (.inr ∘ .inr ∘ Or.imp_right (List.mem_cons_of_mem _))
          routed := fun other tap member => .inr (.inr (started other tap member))
          current := fun other some => absurd (show none = Option.some other from some) nofun
          leaving := by
            intro other tap leaving
            have leaving : (other, tap) ∈ screen.routeStopping := leaving
            rw [left] at leaving
            exact absurd leaving (by simp)
          known := fun tap member => routes.known tap (by simpa [Screen.note] using member)
          ordered := by
            intro later tap earlier split other member
            cases later with
            | nil => exact absurd (List.cons.inj split).1 (by simp)
            | cons head rest =>
              exact routes.ordered rest tap earlier (List.cons.inj split).2 other
                (by simpa [Screen.note] using member) }
        exact released.stopTap rfl left known (fun other => started other tap) reaction
      · exact {
          located := by
            intro other created
            obtain same | elsewhere := located other created
            · obtain rfl := Option.some.inj same
              exact .inr (.inr (.inl ⟨route,
                List.mem_append_right _ (List.mem_singleton_self _)⟩))
            · exact .inr (.inr (.inr elsewhere))
          routed := by
            intro other tap started
            obtain ⟨same, held⟩ | leaving | stopped := routes.routed other tap started
            · rw [selected] at same
              rw [current] at held
              obtain rfl := Option.some.inj same
              obtain rfl := Option.some.inj held
              exact .inr (.inl (List.mem_append_right _ (List.mem_singleton_self _)))
            · exact .inr (.inl (List.mem_append_left _ leaving))
            · exact .inr (.inr stopped)
          current := fun other some => absurd some (by simp)
          leaving := by
            intro other tap leaving
            rcases List.mem_append.mp leaving with before | new
            · exact routes.leaving other tap before
            · obtain ⟨rfl, rfl⟩ := Prod.mk.inj (List.mem_singleton.mp new)
              exact ⟨known, unstopped⟩
          known := routes.known
          ordered := routes.ordered }

/-- A stop changes no route but the current one. -/
theorem stopWithCompletion (routes : Routes none screen) (alone : Alone screen)
    (reaction : Reaction) : Routes none (screen.stopWithCompletion reaction) := by
  unfold Screen.stopWithCompletion
  split
  · exact routes
  · have asked : Routes none { screen.note .stop with
        stopping := true
        drained := true
        audioRestartPending := false
        pipeline := { screen.pipeline with replacementCompletion := false }
        audioEncoder := false } :=
      (routes.note (.stop) rfl).same rfl rfl rfl rfl rfl rfl
    have silent := asked.stopDesktopAudio alone reaction
    dsimp only
    split
    · exact silent
    · unfold Screen.stopCapture
      split
      · exact Routes.finishStop (silent.same rfl rfl rfl rfl rfl rfl)
      · exact silent.same rfl rfl rfl rfl rfl rfl

/-- A callback changes no route but the current one. -/
theorem callback (routes : Routes none screen) (alone : Alone screen) (event : Event)
    (plain : event.routing = false) (reaction : Reaction) :
    Routes none (screen.callback event reaction) := by
  have noted := routes.note event plain
  unfold Screen.callback
  dsimp only
  split
  · exact noted.stopWithCompletion alone reaction
  · exact noted

/-- Nor does giving up the tap. -/
theorem disableDesktopAudio (routes : Routes none screen) (alone : Alone screen)
    (reaction : Reaction) : Routes none (screen.disableDesktopAudio reaction) := by
  unfold Screen.disableDesktopAudio
  split
  · exact routes
  · apply Routes.stopDesktopAudio
    · exact routes.same rfl rfl rfl rfl rfl rfl
    · exact alone

/-- A new tap has no route and was not stopped. -/
theorem createDesktopAudioTap (routes : Routes none screen) (none : screen.audioTap = none)
    (made : Bool) : Routes Option.none (screen.createDesktopAudioTap made) := by
  unfold Screen.createDesktopAudioTap
  split
  · exact {
      located := by
        intro tap created
        rcases List.mem_cons.mp created with same | earlier
        · obtain rfl := Event.tapCreated.inj same
          exact .inr (.inl rfl)
        · obtain none' | held | elsewhere := routes.located tap earlier
          · exact absurd none' (by simp)
          · rw [none] at held
            exact absurd held (by simp)
          · exact .inr (.inr (elsewhere.imp_right (·.imp_right (List.mem_cons_of_mem _))))
      routed := by
        intro route tap started
        obtain ⟨_, held⟩ | elsewhere :=
          routes.routed route tap (by simpa [Screen.note] using started)
        · rw [none] at held
          exact absurd held (by simp)
        · exact .inr (elsewhere.imp_right (List.mem_cons_of_mem _))
      current := by
        intro tap current
        obtain rfl := Option.some.inj current
        refine ⟨Nat.lt_succ_self _, fun stopped => ?_⟩
        exact absurd (routes.known _ (by simpa [Screen.note] using stopped)) (Nat.lt_irrefl _)
      leaving := fun route tap leaving =>
        ⟨Nat.lt_succ_of_lt (routes.leaving route tap leaving).1, by
          simpa [Screen.note] using (routes.leaving route tap leaving).2⟩
      known := fun tap stopped =>
        Nat.lt_succ_of_lt (routes.known tap (by simpa [Screen.note] using stopped))
      ordered := by
        intro later tap earlier split route started
        cases later with
        | nil => exact absurd (List.cons.inj split).1 (by simp)
        | cons head rest =>
          exact routes.ordered rest tap earlier (List.cons.inj split).2 route
            (by simpa [Screen.note] using started) }
  · exact routes.same rfl none.symm rfl rfl rfl rfl

/-- `startDesktopAudio`. -/
theorem startDesktopAudio (routes : Routes none screen) (alone : Alone screen)
    (reaction : Reaction) : Routes none (screen.startDesktopAudio reaction) := by
  unfold Screen.startDesktopAudio
  split
  · exact routes
  · split
    · apply Routes.disableDesktopAudio
      · exact routes.same rfl rfl rfl rfl rfl rfl
      · exact alone
    · exact routes.same rfl rfl rfl rfl rfl rfl

/-- A route is started for the current tap. -/
theorem tapStarted (routes : Routes none screen) (alone : Alone screen) {tap : Nat}
    (current : screen.audioTap = some tap) (unrouted : screen.outputSelection = none)
    (ready route : Bool) (reaction : Reaction) :
    Routes none (screen.tapStarted tap ready route reaction) := by
  obtain ⟨known, unstopped⟩ := routes.current tap current
  unfold Screen.tapStarted
  dsimp only
  split
  · exact routes.same rfl rfl rfl rfl rfl rfl
  · split
    · apply Routes.disableDesktopAudio
      · exact routes.same rfl rfl rfl rfl rfl rfl
      · exact alone
    · split
      · exact {
          located := fun other created =>
            (routes.located other (by simpa [Screen.note] using created)).imp_right
              (·.imp_right (·.imp_right (·.imp_right (List.mem_cons_of_mem _))))
          routed := by
            intro route other started
            rcases List.mem_cons.mp started with same | earlier
            · obtain ⟨rfl, rfl⟩ := Event.routeStarted.inj same
              exact .inl ⟨rfl, current⟩
            · obtain ⟨some, _⟩ | elsewhere := routes.routed route other earlier
              · rw [unrouted] at some
                exact absurd some (by simp)
              · exact .inr (elsewhere.imp_right (List.mem_cons_of_mem _))
          current := fun other held =>
            ⟨(routes.current other held).1, by
              simpa [Screen.note] using (routes.current other held).2⟩
          leaving := fun route other leaving =>
            ⟨(routes.leaving route other leaving).1, by
              simpa [Screen.note] using (routes.leaving route other leaving).2⟩
          known := fun other stopped => routes.known other (by simpa [Screen.note] using stopped)
          ordered := by
            intro later other earlier split route started
            cases later with
            | nil => exact absurd (List.cons.inj split).1 (by simp)
            | cons head rest =>
              have before := (List.cons.inj split).2
              rcases List.mem_cons.mp started with same | old
              · obtain ⟨_, rfl⟩ := Event.routeStarted.inj same
                -- a current tap was not stopped
                refine absurd ?_ unstopped
                rw [show screen.trace = _ from before]
                exact List.mem_append_right _ List.mem_cons_self
              · exact routes.ordered rest other earlier before route old }
      · exact routes.same rfl rfl rfl rfl rfl rfl

/-- The stop of a route completes. -/
theorem routeStopped (routes : Routes none screen) (none : screen.audioTap = none) {index : Nat}
    {route tap : Nat} (present : screen.routeStopping[index]? = some (route, tap))
    (single : screen.routeStopping.length ≤ 1) (reaction : Reaction) :
    Routes Option.none ({ screen.note (.routeStopped route) with
      routeStopping := screen.routeStopping.eraseIdx index }.stopTap tap reaction) := by
  have only : index = 0 ∧ screen.routeStopping = [(route, tap)] := by
    obtain ⟨inside, entry⟩ := List.getElem?_eq_some_iff.mp present
    have first : index = 0 := by omega
    subst first
    obtain ⟨head, whole⟩ := List.length_eq_one_iff.mp (show screen.routeStopping.length = 1 by omega)
    simp only [whole, List.getElem_cons_zero] at entry
    exact ⟨rfl, by rw [whole, entry]⟩
  obtain ⟨rfl, only⟩ := only
  have noted := routes.note (.routeStopped route) rfl
  obtain ⟨known, unstopped⟩ := routes.leaving route tap (by simp [only])
  have stopped : ∀ other held, .routeStarted other held ∈ screen.trace →
      .routeStopped other ∈ (screen.note (.routeStopped route)).trace := by
    intro other held started
    obtain ⟨_, some⟩ | leaving | stopped := routes.routed other held started
    · rw [none] at some
      exact absurd some (by simp)
    · rw [only] at leaving
      obtain ⟨rfl, _⟩ := Prod.mk.inj (List.mem_singleton.mp leaving)
      exact List.mem_cons_self
    · exact List.mem_cons_of_mem _ stopped
  have left : screen.routeStopping.eraseIdx 0 = [] := by rw [only]; rfl
  have taken : Routes (some tap) { screen.note (.routeStopped route) with
      routeStopping := screen.routeStopping.eraseIdx 0 } := {
    located := by
      intro other created
      obtain none' | current | ⟨route', leaving⟩ | elsewhere := noted.located other created
      · exact absurd none' (by simp)
      · exact .inr (.inl current)
      · have leaving : (route', other) ∈ screen.routeStopping := leaving
        rw [only] at leaving
        obtain ⟨_, rfl⟩ := Prod.mk.inj (List.mem_singleton.mp leaving)
        exact .inl rfl
      · exact .inr (.inr (.inr elsewhere))
    routed := fun other held started =>
      .inr (.inr (stopped other held (by simpa [Screen.note] using started)))
    current := noted.current
    leaving := by
      intro other held leaving
      have leaving : (other, held) ∈ screen.routeStopping.eraseIdx 0 := leaving
      rw [left] at leaving
      exact absurd leaving (by simp)
    known := noted.known
    ordered := noted.ordered }
  exact taken.stopTap none left known
    (fun other started => stopped other tap (by simpa [Screen.note] using started)) reaction

end Routes

/-- Every step of a capture keeps the routes before their taps. -/
theorem routes_step {screen after : Screen} {label : Label} (settled : Settled screen)
    (routes : Routes none screen) (stepped : screen.step label = some after) : Routes none after := by
  have core := settled.core
  have alone := core.alone
  cases label with
  | start bitrate tapMade valid reaction =>
    obtain ⟨unbegun, result⟩ := Option.ite_none_left_eq_some.mp stepped
    obtain rfl := Option.some.inj result
    have fresh := core.fresh (by simpa using unbegun)
    generalize screen.desktopAudioTap = desktop at fresh
    subst fresh
    have created : Routes none (Screen.createAudioEncoder
        { desktopAudioTap := desktop, begun := true, bitrate }) := by
      exact (routes.note .audioEncoderCreated rfl).same rfl rfl rfl rfl rfl rfl
    have tap : Routes none (if desktop then Screen.createDesktopAudioTap (Screen.createAudioEncoder
        { desktopAudioTap := desktop, begun := true, bitrate }) tapMade else
        Screen.createAudioEncoder { desktopAudioTap := desktop, begun := true, bitrate }) := by
      split
      · exact created.createDesktopAudioTap rfl tapMade
      · exact created
    have left : Alone (if desktop then Screen.createDesktopAudioTap (Screen.createAudioEncoder
        { desktopAudioTap := desktop, begun := true, bitrate }) tapMade else
        Screen.createAudioEncoder { desktopAudioTap := desktop, begun := true, bitrate }) := by
      intro _
      cases desktop <;> cases tapMade <;> rfl
    unfold Screen.start
    dsimp only [Screen.createAudioEncoder, Screen.note] at tap left ⊢
    split
    · exact tap.callback left .failed rfl reaction
    · exact tap.same rfl rfl rfl rfl rfl rfl
  | discovered discovery reaction =>
    obtain ⟨discovering, result⟩ := Option.ite_none_right_eq_some.mp stepped
    obtain rfl := Option.some.inj result
    have done : Routes none { screen with discovering := false, starting := false } :=
      routes.same rfl rfl rfl rfl rfl rfl
    have created : Routes none { screen.note .streamCreated with
        discovering := false
        starting := false
        pipeline := screen.pipeline.create screen.bitrate
        stream := true } := (routes.note .streamCreated rfl).same rfl rfl rfl rfl rfl rfl
    unfold Screen.discovered
    dsimp only
    split
    · exact Routes.finishStop (done.same rfl rfl rfl rfl rfl rfl)
    · cases discovery with
      | unavailable => exact done.callback alone .failed rfl reaction
      | outputRefused => exact created.callback alone .failed rfl reaction
      | ready => exact created.same rfl rfl rfl rfl rfl rfl
  | streamStarted error reaction =>
    obtain ⟨starting, result⟩ := Option.ite_none_right_eq_some.mp stepped
    obtain rfl := Option.some.inj result
    have done : Routes none { screen with startingStream := false, starting := false } :=
      routes.same rfl rfl rfl rfl rfl rfl
    unfold Screen.streamStarted
    dsimp only
    split
    · unfold Screen.stopCapture
      split
      · exact Routes.finishStop (done.same rfl rfl rfl rfl rfl rfl)
      · exact done.same rfl rfl rfl rfl rfl rfl
    · split
      · exact done.callback alone .failed rfl reaction
      · have called := done.callback alone .started rfl reaction
        by_cases running : (Screen.callback { screen with
            startingStream := false, starting := false } .started reaction).stopping = true
        · rw [startDesktopAudio, if_pos (by simp [running])]
          exact called
        · refine called.startDesktopAudio ?_ reaction
          rw [callback_running (by simpa using running)]
          exact alone
  | streamStopped =>
    obtain ⟨leaving, result⟩ := Option.ite_none_right_eq_some.mp stepped
    obtain rfl := Option.some.inj result
    exact Routes.finishStop ((routes.note .streamStopped rfl).same rfl rfl rfl rfl rfl rfl)
  | streamError reaction =>
    obtain ⟨stream, result⟩ := Option.ite_none_left_eq_some.mp stepped
    obtain rfl := Option.some.inj result
    split
    · exact routes
    · exact routes.callback alone .failed rfl reaction
  | screenSample valid failed reaction =>
    obtain ⟨stream, result⟩ := Option.ite_none_right_eq_some.mp stepped
    obtain rfl := Option.some.inj result
    have submitted : Routes none { screen with pipeline := screen.pipeline.submit failed } :=
      routes.same rfl rfl rfl rfl rfl rfl
    unfold Screen.screenSample
    dsimp only
    split
    · exact routes
    · split
      · exact routes.callback alone .failed rfl reaction
      · split
        · exact routes
        · split
          · exact submitted.callback alone .failed rfl reaction
          · exact submitted
  | audioSample encoded reaction =>
    obtain ⟨stream, result⟩ := Option.ite_none_right_eq_some.mp stepped
    obtain rfl := Option.some.inj result
    split
    · exact routes
    · exact routes.callback alone .failed rfl reaction
  | encoded index outcome reaction =>
    obtain ⟨encode, present, rfl⟩ := Option.map_eq_some_iff.mp stepped
    have completed : Routes none { screen with pipeline := screen.pipeline.complete index } :=
      routes.same rfl rfl rfl rfl rfl rfl
    have sent : Routes none { screen with
        pipeline := ((screen.pipeline.complete index).deliver outcome).1 } :=
      routes.same rfl rfl rfl rfl rfl rfl
    unfold Screen.encoded
    dsimp only
    refine Routes.finishStop ?_
    split
    · exact completed.same rfl rfl rfl rfl rfl rfl
    · split
      · exact (sent.callback alone .failed rfl reaction).same rfl rfl rfl rfl rfl rfl
      · exact sent.same rfl rfl rfl rfl rfl rfl
  | built succeeded reaction =>
    obtain ⟨building, result⟩ := Option.ite_none_left_eq_some.mp stepped
    obtain rfl := Option.some.inj result
    have disposed := routes.note .encoderDisposed rfl
    have installed := routes.note .encoderInstalled rfl
    unfold Screen.built
    dsimp only
    cases succeeded with
    | true =>
      simp only [if_true]
      split
      · exact Routes.finishStop (disposed.same rfl rfl rfl rfl rfl rfl)
      · split
        · apply Routes.callback
          · exact installed.same rfl rfl rfl rfl rfl rfl
          · exact alone
          · rfl
        · exact installed.same rfl rfl rfl rfl rfl rfl
    | false =>
      simp only [Bool.false_eq_true, if_false]
      split
      · exact Routes.finishStop (routes.same rfl rfl rfl rfl rfl rfl)
      · split
        · apply Routes.callback
          · exact routes.same rfl rfl rfl rfl rfl rfl
          · exact alone
          · rfl
        · exact routes.same rfl rfl rfl rfl rfl rfl
  | setBitrate bitrate reaction =>
    obtain ⟨begun, result⟩ := Option.ite_none_right_eq_some.mp stepped
    obtain rfl := Option.some.inj result
    have changed : Routes none { screen with
        pipeline := (screen.pipeline.setBitrate screen.stopping bitrate).1 } :=
      routes.same rfl rfl rfl rfl rfl rfl
    unfold Screen.setBitrate
    dsimp only
    split
    · exact changed.callback alone (.replaced 0) rfl reaction
    · exact changed
  | requestKeyFrame =>
    obtain ⟨begun, result⟩ := Option.ite_none_right_eq_some.mp stepped
    obtain rfl := Option.some.inj result
    exact routes.same rfl rfl rfl rfl rfl rfl
  | tapStarted ready route reaction =>
    obtain ⟨starting, result⟩ := Option.ite_none_right_eq_some.mp stepped
    obtain ⟨tap, current, rfl⟩ := Option.map_eq_some_iff.mp result
    exact routes.tapStarted alone current (core.unrouted starting) ready route reaction
  | tapFailed reaction =>
    obtain ⟨tap, current, rfl⟩ := Option.map_eq_some_iff.mp stepped
    split
    · exact routes
    · exact routes.disableDesktopAudio alone reaction
  | routeStopped index reaction =>
    obtain ⟨⟨route, tap⟩, present, rfl⟩ := Option.map_eq_some_iff.mp stepped
    have single := core.single
    obtain ⟨inside, _⟩ := List.getElem?_eq_some_iff.mp present
    have none : screen.audioTap = none := by
      by_contra some
      have empty := alone some
      rw [empty] at inside
      exact absurd inside (by simp)
    refine routes.routeStopped none present ?_ reaction
    simp only [live] at single
    omega
  | tapStopped index =>
    obtain ⟨tap, present, rfl⟩ := Option.map_eq_some_iff.mp stepped
    apply Routes.tapStopped
    exact {
      located := by
        intro other created
        obtain none | current | leaving | stopping | stopped := routes.located other created
        · exact absurd none (by simp)
        · exact .inr (.inl current)
        · exact .inr (.inr (.inl leaving))
        · have single := core.single
          obtain ⟨inside, entry⟩ := List.getElem?_eq_some_iff.mp present
          have one : screen.tapStopping.length = 1 := by
            simp only [live] at single
            omega
          obtain ⟨head, whole⟩ := List.length_eq_one_iff.mp one
          obtain rfl : index = 0 := by omega
          simp only [whole, List.getElem_cons_zero] at entry
          rw [whole, entry] at stopping
          exact .inl (congrArg some (List.mem_singleton.mp stopping).symm)
        · exact .inr (.inr (.inr (.inr stopped)))
      routed := routes.routed
      current := routes.current
      leaving := routes.leaving
      known := routes.known
      ordered := routes.ordered }
  | restart tapMade reaction =>
    obtain ⟨planned, result⟩ := Option.ite_none_left_eq_some.mp stepped
    obtain rfl := Option.some.inj result
    have single := core.single
    have idle : screen.live = 0 := by omega
    have absent : screen.audioTap = none := by
      by_contra some
      have present : screen.audioTap.isSome = true := Option.isSome_iff_ne_none.mpr some
      simp [live, present] at idle
    have left : screen.routeStopping = [] := by
      simp only [live] at idle
      exact List.length_eq_zero_iff.mp (by omega)
    unfold Screen.restart
    dsimp only
    split
    · exact routes.same rfl rfl rfl rfl rfl rfl
    · have encoder : Routes none (Screen.createAudioEncoder { screen with
          restartTimers := screen.restartTimers - 1
          audioRestartPending := false
          audioDiscontinuity := true }) :=
        (routes.note .audioEncoderCreated rfl).same rfl rfl rfl rfl rfl rfl
      refine (encoder.createDesktopAudioTap absent tapMade).startDesktopAudio ?_ reaction
      intro _
      unfold Screen.createDesktopAudioTap
      split <;> exact left
  | stop reaction =>
    obtain ⟨begun, result⟩ := Option.ite_none_right_eq_some.mp stepped
    obtain rfl := Option.some.inj result
    exact routes.stopWithCompletion alone reaction

/-- In every reachable state the routes are where they belong. -/
theorem reachable_routes {screen : Screen} (reachable : system.Reachable screen) :
    Routes none screen := by
  refine Transition.System.Reachable.keeps ?_ ?_ reachable
  · intro before label after reachable routes stepped
    exact routes_step (reachable_settled reachable) routes stepped
  · rintro screen ⟨desktop, rfl⟩
    exact {
      located := fun tap created => absurd created (by simp)
      routed := fun route tap started => absurd started (by simp)
      current := fun tap current => absurd current (by simp)
      leaving := fun route tap leaving => absurd leaving (by simp)
      known := fun tap stopped => absurd stopped (by simp)
      ordered := fun later tap earlier split => absurd split (by simp) }

end Screen

end Plank.Capture
