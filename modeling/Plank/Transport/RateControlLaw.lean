import Plank.Transport.RateControl

/-!
# The window of every run

The window of a path is, after any events, the window for the values of the latest acknowledgement
or packet size of the path, and the budget on the wire stays above its floor and above what the peak
rate needs.
-/

namespace Plank.Transport

/-- Most that a rate can be configured to. -/
def mostVideoBps : Nat := (2 ^ 32 - 1) * 1000

/-- The window for the values that it was last computed from. -/
def WindowBasis.window (basis : WindowBasis) : Nat :=
  Id.run (windowForRate saturating basis.wire basis.rtt basis.mtu)

/-- The rates of a policy are in order and admitted by the configuration. -/
structure TransportRatePolicy.Admitted (policy : TransportRatePolicy) : Prop where
  /-- The rate in force is at least the least. -/
  least : minVideoBitrateBps ≤ policy.activeVideoBps
  /-- The peak is at least the rate. -/
  peak : policy.activeVideoBps ≤ policy.activePeakVideoBps
  /-- The peak is a configured one. -/
  most : policy.activePeakVideoBps ≤ mostVideoBps

/-- The budget of an admitted policy is the exact one, or the floor. -/
theorem TransportRatePolicy.Admitted.wire {policy : TransportRatePolicy}
    (admitted : policy.Admitted) :
    policy.activeWireBps = max (exactWireBps policy.activePeakVideoBps) sendBudgetFloorBps := by
  have most := admitted.most
  have small : policy.activePeakVideoBps ≤ 2 ^ 59 := by
    unfold mostVideoBps at most
    omega
  unfold TransportRatePolicy.activeWireBps
  rw [videoToWireBps_of_fits saturating_fits small]
  rfl

/-- The budget of an admitted policy is a rate of 64 bits. -/
theorem TransportRatePolicy.Admitted.wire_fits {policy : TransportRatePolicy}
    (admitted : policy.Admitted) : policy.activeWireBps < 2 ^ 64 := by
  have most := admitted.most
  have quotient : divCeil (policy.activePeakVideoBps * fecAndPacketScaleNumerator)
      fecAndPacketScaleDenominator ≤ 2 ^ 60 := by
    apply (divCeil_le_iff _ _ (by decide)).mpr
    unfold mostVideoBps at most
    unfold fecAndPacketScaleNumerator fecAndPacketScaleDenominator
    omega
  rw [admitted.wire]
  unfold exactWireBps audioAndControlReserveBps sendBudgetFloorBps
  omega

/-- The policy a connection starts with is admitted. -/
theorem admitted_start (initialVideoBitrateKbps : UInt32) :
    (RateState.start initialVideoBitrateKbps).policy.Admitted := by
  have small := initialVideoBitrateKbps.toNat_lt
  have same : Id.run (saturating 64 (initialVideoBitrateKbps.toNat * 1000)) =
      initialVideoBitrateKbps.toNat * 1000 := saturating_fits 64 _ (by omega)
  have least : minVideoBitrateBps ≤ mostVideoBps := by decide
  unfold RateState.start TransportRatePolicy.new
  rw [same]
  refine ⟨Nat.le_max_right _ _, Nat.le_refl _, ?_⟩
  show max (initialVideoBitrateKbps.toNat * 1000) minVideoBitrateBps ≤ mostVideoBps
  unfold mostVideoBps at least ⊢
  omega

/-- A rate that is set is admitted. -/
theorem admitted_set {server : Bool} {policy after : TransportRatePolicy}
    {bitrateKbps peakBitrateKbps : UInt32}
    (set : setVideoBitrate server policy bitrateKbps peakBitrateKbps = some after) :
    after.Admitted := by
  unfold setVideoBitrate at set
  split_ifs at set with refused
  simp only [not_or, not_not] at refused
  obtain ⟨-, ⟨least, most⟩, ordered, peak_most⟩ := refused
  have ordered := UInt32.le_iff_toNat_le.mp ordered
  have rate_same : Id.run (saturating 64 (bitrateKbps.toNat * 1000)) = bitrateKbps.toNat * 1000 :=
    saturating_fits 64 _ (by omega)
  have peak_same : Id.run (saturating 64 (peakBitrateKbps.toNat * 1000)) =
      peakBitrateKbps.toNat * 1000 := saturating_fits 64 _ (by omega)
  obtain rfl := Option.some.inj set
  rw [rate_same, peak_same]
  refine ⟨Nat.le_max_right _ _, Nat.le_max_right _ _, ?_⟩
  show max (peakBitrateKbps.toNat * 1000) (max (bitrateKbps.toNat * 1000) minVideoBitrateBps) ≤
    mostVideoBps
  unfold mostVideoBps minVideoBitrateBps
  omega

/-- A controller has the window of what it was last computed from. -/
structure PlankRateController.Follows (controller : PlankRateController) (basis : WindowBasis) :
    Prop where
  /-- The window is the one for the values. -/
  window : controller.window = basis.window
  /-- The controller remembers the round trip. -/
  rtt : controller.lastRtt = basis.rtt
  /-- The controller remembers the packet size. -/
  mtu : controller.currentMtu = basis.mtu

/-- What holds of a connection and the log of its events. -/
structure RateKept (state : RateState) (log : List (RateEvent × Nat)) : Prop where
  /-- The policy is admitted. -/
  admitted : state.policy.Admitted
  /-- There is a controller for each path that was built. -/
  built : state.controllers.length = builtPaths log
  /-- Each controller follows the latest values of its path. -/
  follows : ∀ path (controller : PlankRateController),
    state.controllers[path]? = some controller → controller.Follows (latestBasis path log)

/-- The window that a controller computes is the one for the budget of an admitted policy. -/
theorem windowFor_eq {policy : TransportRatePolicy} (admitted : policy.Admitted) (rtt : Nat)
    (mtu : UInt16) :
    PlankRateController.windowFor policy rtt mtu = exactWindow policy.activeWireBps rtt mtu :=
  windowForRate_exact admitted.wire_fits rtt mtu

/-- A congestion event leaves the rates as they are. -/
theorem congestion_rates (policy : TransportRatePolicy) (persistent : Bool) :
    (PlankRateController.onCongestionEvent policy persistent).activeVideoBps =
        policy.activeVideoBps ∧
      (PlankRateController.onCongestionEvent policy persistent).activePeakVideoBps =
        policy.activePeakVideoBps := by
  cases persistent <;> exact ⟨rfl, rfl⟩

/-- An acknowledgement measures the round trip and computes the window for it. -/
theorem onAck_effect (controller : PlankRateController) (policy : TransportRatePolicy)
    (now sent : Nat) (bytes : UInt64) (rtt : Nat) :
    (controller.onAck policy now sent bytes rtt).window =
        PlankRateController.windowFor policy rtt controller.currentMtu ∧
      (controller.onAck policy now sent bytes rtt).lastRtt = rtt ∧
      (controller.onAck policy now sent bytes rtt).currentMtu = controller.currentMtu := by
  unfold PlankRateController.onAck
  dsimp only
  split_ifs <;> exact ⟨rfl, rfl, rfl⟩

/-- An event is followed. -/
theorem RateKept.step {state : RateState} {log : List (RateEvent × Nat)} (kept : RateKept state log)
    (event : RateEvent) :
    RateKept (state.step event) ((event, state.policy.activeWireBps) :: log) := by
  cases event with
  | build mtu =>
    refine ⟨kept.admitted, ?_, fun path controller found => ?_⟩
    · show (state.controllers ++ [_]).length = builtPaths log + 1
      rw [List.length_append, kept.built]
      rfl
    · replace found : (state.controllers ++ [PlankRateController.new state.policy mtu])[path]? =
        some controller := found
      show controller.Follows (if path = builtPaths log then _ else _)
      by_cases fresh : path = builtPaths log
      · rw [if_pos fresh]
        rw [fresh, ← kept.built, List.getElem?_concat_length] at found
        obtain rfl := Option.some.inj found
        exact ⟨rfl, rfl, rfl⟩
      · rw [if_neg fresh]
        have inside := (List.getElem?_eq_some_iff.mp found).1
        rw [List.length_append, List.length_singleton, kept.built] at inside
        rw [List.getElem?_append_left (by rw [kept.built]; omega)] at found
        exact kept.follows path controller found
  | ack acknowledged now sent bytes rtt =>
    refine ⟨kept.admitted, ?_, fun path controller found => ?_⟩
    · exact (List.length_modify _ _ _).trans kept.built
    · replace found : (state.controllers.modify acknowledged
        (·.onAck state.policy now sent bytes rtt))[path]? = some controller := found
      show controller.Follows (if path = acknowledged then _ else _)
      by_cases same : path = acknowledged
      · subst same
        rw [if_pos rfl]
        rw [List.getElem?_modify_eq] at found
        obtain ⟨before, present, rfl⟩ := Option.map_eq_some_iff.mp found
        have follows := kept.follows path before present
        obtain ⟨window, measured, mtu⟩ := onAck_effect before state.policy now sent bytes rtt
        rw [follows.mtu] at window
        exact ⟨window, measured, mtu.trans follows.mtu⟩
      · rw [if_neg same]
        rw [List.getElem?_modify_ne _ _ (Ne.symm same)] at found
        exact kept.follows path controller found
  | congestion path persistent =>
    show RateKept (if path < state.controllers.length then _ else state) _
    by_cases present : path < state.controllers.length
    · rw [if_pos present]
      obtain ⟨rate, peak⟩ := congestion_rates state.policy persistent
      exact ⟨⟨rate ▸ kept.admitted.least, rate ▸ peak ▸ kept.admitted.peak,
        peak ▸ kept.admitted.most⟩, kept.built, kept.follows⟩
    · rw [if_neg present]
      exact ⟨kept.admitted, kept.built, kept.follows⟩
  | mtuUpdate resized mtu =>
    refine ⟨kept.admitted, ?_, fun path controller found => ?_⟩
    · exact (List.length_modify _ _ _).trans kept.built
    · replace found : (state.controllers.modify resized (·.onMtuUpdate state.policy mtu))[path]? =
        some controller := found
      show controller.Follows (if path = resized then _ else _)
      by_cases same : path = resized
      · subst same
        rw [if_pos rfl]
        rw [List.getElem?_modify_eq] at found
        obtain ⟨before, present, rfl⟩ := Option.map_eq_some_iff.mp found
        have follows := kept.follows path before present
        have window : (before.onMtuUpdate state.policy mtu).window =
            PlankRateController.windowFor state.policy before.lastRtt mtu := rfl
        rw [follows.rtt] at window
        exact ⟨window, follows.rtt, rfl⟩
      · rw [if_neg same]
        rw [List.getElem?_modify_ne _ _ (Ne.symm same)] at found
        exact kept.follows path controller found
  | setBitrate server bitrateKbps peakBitrateKbps =>
    unfold RateState.step
    dsimp only
    cases set : setVideoBitrate server state.policy bitrateKbps peakBitrateKbps with
    | some policy => exact ⟨admitted_set set, kept.built, kept.follows⟩
    | none => exact ⟨kept.admitted, kept.built, kept.follows⟩

/-- Events in order are followed. -/
theorem RateKept.trace {state : RateState} {log : List (RateEvent × Nat)}
    (kept : RateKept state log) (events : List RateEvent) :
    RateKept (RateState.trace (state, log) events).1 (RateState.trace (state, log) events).2 := by
  induction events generalizing state log with
  | nil => exact kept
  | cons event events ih => exact ih (kept.step event)

/-- What holds of the rates of a connection after the events of a log. -/
structure RateLaw (state : RateState) (log : List (RateEvent × Nat)) : Prop where
  /-- No result saturates or overflows on the way to the budget. -/
  wire_fits : videoToWireBps fitting state.policy.activePeakVideoBps =
    some (Id.run (videoToWireBps saturating state.policy.activePeakVideoBps))
  /-- The budget is above its floor. -/
  wire_floor : sendBudgetFloorBps ≤ state.policy.activeWireBps
  /-- The budget is above 27/20 of the peak rate and 1 Mbps. -/
  wire_peak : 27 * state.policy.activePeakVideoBps + 20 * 1000000 ≤ 20 * state.policy.activeWireBps
  /-- No result saturates or overflows on the way to a window for the budget. -/
  window_fits : ∀ rtt mtu, windowForRate fitting state.policy.activeWireBps rtt mtu =
    some (PlankRateController.windowFor state.policy rtt mtu)
  /-- A window for the budget is at least 2 MiB and 64 packets. -/
  window_least : ∀ rtt mtu, max (2 * 1024 * 1024) (64 * mtu.toNat) ≤
    PlankRateController.windowFor state.policy rtt mtu
  /-- A window grows with the rate and the round trip. -/
  window_mono : ∀ rate rate' rtt rtt' mtu, rate ≤ rate' → rate' < 2 ^ 64 → rtt ≤ rtt' →
    Id.run (windowForRate saturating rate rtt mtu) ≤
      Id.run (windowForRate saturating rate' rtt' mtu)
  /-- A window is the same for every round trip from 100 ms on. -/
  window_bounded : ∀ rate rtt mtu, 100000000 ≤ rtt →
    Id.run (windowForRate saturating rate rtt mtu) =
      Id.run (windowForRate saturating rate 100000000 mtu)
  /-- A window for the budget is at least 1.5 times the bandwidth-delay product, in bits and
  nanoseconds, of a round trip up to 100 ms. -/
  window_covers : ∀ rtt mtu, 3 * (state.policy.activeWireBps * min rtt 100000000) ≤
    2 * (8000000000 * PlankRateController.windowFor state.policy rtt mtu)
  /-- The window of each path is the one for the latest values of the path. -/
  controllers : ∀ path (controller : PlankRateController),
    state.controllers[path]? = some controller →
      controller.window = Id.run (windowForRate saturating (latestBasis path log).wire
        (latestBasis path log).rtt (latestBasis path log).mtu)
  /-- A congestion event changes no window. -/
  congestion : ∀ path persistent,
    (state.step (.congestion path persistent)).controllers = state.controllers

/-- A higher rate and a longer round trip have no smaller window. -/
theorem windowForRate_mono {rate rate' rtt rtt' : Nat} (rates : rate ≤ rate')
    (fits : rate' < 2 ^ 64) (rtts : rtt ≤ rtt') (mtu : UInt16) :
    Id.run (windowForRate saturating rate rtt mtu) ≤
      Id.run (windowForRate saturating rate' rtt' mtu) := by
  rw [windowForRate_exact fits, windowForRate_exact (Nat.lt_of_le_of_lt rates fits)]
  exact exactWindow_mono rates rtts mtu

/-- After every run of events from every configured rate, the rates of a connection obey their
law. -/
theorem reachable_rates (initialVideoBitrateKbps : UInt32) (events : List RateEvent) :
    RateLaw (RateState.trace (.start initialVideoBitrateKbps, []) events).1
      (RateState.trace (.start initialVideoBitrateKbps, []) events).2 := by
  have start : RateKept (.start initialVideoBitrateKbps) [] :=
    ⟨admitted_start initialVideoBitrateKbps, rfl, fun _ _ found => nomatch found⟩
  have kept := start.trace events
  generalize RateState.trace (.start initialVideoBitrateKbps, []) events = found at kept ⊢
  obtain ⟨state, log⟩ := found
  dsimp only at kept ⊢
  have most := kept.admitted.most
  have small : state.policy.activePeakVideoBps ≤ 2 ^ 59 := by
    unfold mostVideoBps at most
    omega
  have wire := kept.admitted.wire
  refine
    { wire_fits := ?_
      wire_floor := ?_
      wire_peak := ?_
      window_fits := fun rtt mtu => ?_
      window_least := fun rtt mtu => ?_
      window_mono := fun rate rate' rtt rtt' mtu rates fits rtts =>
        windowForRate_mono rates fits rtts mtu
      window_bounded := fun rate rtt mtu long => ?_
      window_covers := fun rtt mtu => ?_
      controllers := fun path controller found => (kept.follows path controller found).window
      congestion := fun path persistent => ?_ }
  · rw [videoToWireBps_of_fits fitting_fits small, videoToWireBps_of_fits saturating_fits small]
    rfl
  · rw [wire]
    exact Nat.le_max_right _ _
  · have covered := @le_divCeil_mul (state.policy.activePeakVideoBps * fecAndPacketScaleNumerator)
      fecAndPacketScaleDenominator (by decide)
    rw [wire]
    unfold exactWireBps audioAndControlReserveBps
    unfold fecAndPacketScaleNumerator fecAndPacketScaleDenominator at covered ⊢
    omega
  · rw [windowFor_eq kept.admitted, windowForRate_of_fits fitting_fits kept.admitted.wire_fits]
    rfl
  · rw [windowFor_eq kept.admitted]
    unfold exactWindow minWindowBytes minWindowPackets
    omega
  · have same : min rtt maxWindowRtt = min 100000000 maxWindowRtt := by
      unfold maxWindowRtt
      omega
    unfold windowForRate
    rw [same]
  · rw [windowFor_eq kept.admitted]
    exact exactWindow_covers _ rtt mtu
  · show (if path < state.controllers.length then _ else state).controllers = _
    split_ifs <;> rfl

/-- For a round trip of a second, the window is smaller than the bandwidth-delay product. -/
theorem long_round_trip_uncovered :
    let policy := (RateState.start 150000).policy
    2 * (8000000000 * PlankRateController.windowFor policy 1000000000 1344) <
      3 * (policy.activeWireBps * 1000000000) := by
  decide

end Plank.Transport
