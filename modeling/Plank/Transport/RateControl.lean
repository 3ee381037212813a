import Mathlib

/-!
# The rate policy and the congestion window

The requested video rate becomes a budget on the wire, and the budget with the round trip time and
the packet size becomes the window of the controller. The arithmetic is over a way to fit a result
into its type: saturating, as the transport computes it, or refusing what does not fit, to say that
nothing saturates.
-/

namespace Plank.Transport

/-- Least video bitrate. -/
def minVideoBitrateBps : Nat := 10000000

/-- Numerator of what a video bit costs on the wire. -/
def fecAndPacketScaleNumerator : Nat := 27

/-- Denominator of what a video bit costs on the wire. -/
def fecAndPacketScaleDenominator : Nat := 20

/-- What audio and control are given on the wire. -/
def audioAndControlReserveBps : Nat := 1000000

/-- Least window in packets. -/
def minWindowPackets : Nat := 64

/-- Least window in bytes. -/
def minWindowBytes : Nat := 2 * 1024 * 1024

/-- Numerator of the window over the bandwidth-delay product. -/
def steadyWindowNumerator : Nat := 3

/-- Denominator of the window over the bandwidth-delay product. -/
def steadyWindowDenominator : Nat := 2

/-- Longest round trip that widens the window, in nanoseconds. -/
def maxWindowRtt : Nat := 100000000

/-- The round trip before one is measured, in nanoseconds. -/
def initialWindowRtt : Nat := 200000000

/-- Least budget on the wire. -/
def sendBudgetFloorBps : Nat := 1000000000

/-- The quotient rounded up. -/
def divCeil (value divisor : Nat) : Nat :=
  value / divisor + if 0 < value % divisor then 1 else 0

/-- A result that saturates at the largest number of a width. -/
def saturating (width value : Nat) : Id Nat := pure (min value (2 ^ width - 1))

/-- A result that is refused where it does not fit in a width. -/
def fitting (width value : Nat) : Option Nat := if value < 2 ^ width then some value else none

section Budget

variable {m : Type → Type} [Monad m] (fit : Nat → Nat → m Nat)

/-- What video of a rate needs on the wire. -/
def videoToWireBps (video : Nat) : m Nat := do
  let scaled ← fit 64 (video * fecAndPacketScaleNumerator)
  fit 64 (divCeil scaled fecAndPacketScaleDenominator + audioAndControlReserveBps)

/-- The window for a rate on the wire, a round trip in nanoseconds and a packet size. -/
def windowForRate (rate rtt : Nat) (mtu : UInt16) : m Nat := do
  let nanos := max (min rtt maxWindowRtt) 1
  let product ← fit 128 (rate * nanos)
  let steady ← fit 128 (divCeil product 8000000000 * steadyWindowNumerator)
  let target ← fit 64 (divCeil steady steadyWindowDenominator)
  let packets ← fit 64 (minWindowPackets * mtu.toNat)
  pure (max (max target minWindowBytes) packets)

end Budget

/-- The rates that a connection and its controllers share. -/
structure TransportRatePolicy where
  /-- The video rate that was asked for. -/
  requestedVideoBps : Nat
  /-- The video rate in force. -/
  activeVideoBps : Nat
  /-- The peak of the video rate in force. -/
  activePeakVideoBps : Nat
  /-- Congestion events that the coding repairs. -/
  repairableCongestionEvents : UInt64
  /-- Congestion events that persist. -/
  persistentCongestionEvents : UInt64

namespace TransportRatePolicy

/-- The policy for the rate a connection starts with. -/
def new (requestedVideoBps : Nat) : TransportRatePolicy :=
  let requested := max requestedVideoBps minVideoBitrateBps
  ⟨requested, requested, requested, 0, 0⟩

/-- The budget on the wire. -/
def activeWireBps (policy : TransportRatePolicy) : Nat :=
  max (Id.run (videoToWireBps saturating policy.activePeakVideoBps)) sendBudgetFloorBps

/-- Ask for a rate with a peak. -/
def setRequestedVideoBps (policy : TransportRatePolicy) (requestedVideoBps peakVideoBps : Nat) :
    TransportRatePolicy :=
  let requested := max requestedVideoBps minVideoBitrateBps
  { policy with
    requestedVideoBps := requested
    activeVideoBps := requested
    activePeakVideoBps := max peakVideoBps requested }

end TransportRatePolicy

/-- The congestion controller of a path. -/
structure PlankRateController where
  /-- The packet size of the path. -/
  currentMtu : UInt16
  /-- The round trip that was last measured, in nanoseconds. -/
  lastRtt : Nat
  /-- The window. -/
  window : Nat
  /-- The delivery rate that was last measured. -/
  bandwidthEstimateBps : Nat

namespace PlankRateController

/-- The window for a policy, as the controller computes it. -/
def windowFor (policy : TransportRatePolicy) (rtt : Nat) (mtu : UInt16) : Nat :=
  Id.run (windowForRate saturating policy.activeWireBps rtt mtu)

/-- The controller of a new path. -/
def new (policy : TransportRatePolicy) (currentMtu : UInt16) : PlankRateController :=
  ⟨currentMtu, initialWindowRtt, windowFor policy initialWindowRtt currentMtu, 0⟩

/-- Compute the window for a round trip. -/
def updateWindow (controller : PlankRateController) (policy : TransportRatePolicy) (rtt : Nat) :
    PlankRateController :=
  { controller with
    lastRtt := rtt
    window := windowFor policy rtt controller.currentMtu }

/-- An acknowledgement of bytes, sent and acknowledged at times in nanoseconds. -/
def onAck (controller : PlankRateController) (policy : TransportRatePolicy) (now sent : Nat)
    (bytes : UInt64) (rtt : Nat) : PlankRateController :=
  let deliveryTime := now - sent
  let measured :=
    if deliveryTime ≠ 0 then
      { controller with
        bandwidthEstimateBps := min (Id.run (saturating 128 (bytes.toNat * 8000000000)) /
          deliveryTime) (2 ^ 64 - 1) }
    else controller
  measured.updateWindow policy rtt

/-- A congestion event: it is only counted. -/
def onCongestionEvent (policy : TransportRatePolicy) (isPersistentCongestion : Bool) :
    TransportRatePolicy :=
  if isPersistentCongestion then
    { policy with persistentCongestionEvents := policy.persistentCongestionEvents + 1 }
  else { policy with repairableCongestionEvents := policy.repairableCongestionEvents + 1 }

/-- A new packet size of the path. -/
def onMtuUpdate (controller : PlankRateController) (policy : TransportRatePolicy)
    (newMtu : UInt16) : PlankRateController :=
  let resized := { controller with currentMtu := newMtu }
  resized.updateWindow policy resized.lastRtt

end PlankRateController

/-- Set the rate of a server endpoint: the policy after it, unless an argument is invalid. -/
def setVideoBitrate (server : Bool) (policy : TransportRatePolicy)
    (bitrateKbps peakBitrateKbps : UInt32) : Option TransportRatePolicy :=
  if !server ∨ ¬(10000 ≤ bitrateKbps.toNat ∧ bitrateKbps.toNat ≤ 500000) ∨
      ¬(bitrateKbps ≤ peakBitrateKbps ∧ peakBitrateKbps.toNat ≤ 1000000) then
    none
  else
    some (policy.setRequestedVideoBps (Id.run (saturating 64 (bitrateKbps.toNat * 1000)))
      (Id.run (saturating 64 (peakBitrateKbps.toNat * 1000))))

/-! ### A connection with its paths -/

/-- A connection: its policy and the controllers of its paths. -/
structure RateState where
  /-- The policy. -/
  policy : TransportRatePolicy
  /-- The controllers, each at the number of its path. -/
  controllers : List PlankRateController

/-- What happens to the rates of a connection. -/
inductive RateEvent where
  /-- A controller is built for a new path. -/
  | build (mtu : UInt16)
  /-- Bytes are acknowledged on a path. -/
  | ack (path now sent : Nat) (bytes : UInt64) (rtt : Nat)
  /-- A congestion event on a path. -/
  | congestion (path : Nat) (persistent : Bool)
  /-- A path has a new packet size. -/
  | mtuUpdate (path : Nat) (mtu : UInt16)
  /-- The rate is set. -/
  | setBitrate (server : Bool) (bitrateKbps peakBitrateKbps : UInt32)

/-- A connection whose rates are those it was configured with. -/
def RateState.start (initialVideoBitrateKbps : UInt32) : RateState :=
  ⟨.new (Id.run (saturating 64 (initialVideoBitrateKbps.toNat * 1000))), []⟩

/-- A connection after an event. -/
def RateState.step (state : RateState) : RateEvent → RateState
  | .build mtu => { state with controllers := state.controllers ++ [.new state.policy mtu] }
  | .ack path now sent bytes rtt =>
    { state with
      controllers := state.controllers.modify path (·.onAck state.policy now sent bytes rtt) }
  | .congestion path persistent =>
    if path < state.controllers.length then
      { state with policy := PlankRateController.onCongestionEvent state.policy persistent }
    else state
  | .mtuUpdate path mtu =>
    { state with controllers := state.controllers.modify path (·.onMtuUpdate state.policy mtu) }
  | .setBitrate server bitrateKbps peakBitrateKbps =>
    match setVideoBitrate server state.policy bitrateKbps peakBitrateKbps with
    | some policy => { state with policy }
    | none => state

/-- Events in order, each noted in front of a log with the budget on the wire at the event. -/
def RateState.trace : RateState × List (RateEvent × Nat) → List RateEvent →
    RateState × List (RateEvent × Nat)
  | found, [] => found
  | (state, log), event :: events =>
    RateState.trace (state.step event, (event, state.policy.activeWireBps) :: log) events

/-- What a window is computed from. -/
structure WindowBasis where
  /-- The budget on the wire. -/
  wire : Nat
  /-- The round trip. -/
  rtt : Nat
  /-- The packet size. -/
  mtu : UInt16

/-- The paths that have been built in a log. -/
def builtPaths : List (RateEvent × Nat) → Nat
  | [] => 0
  | (.build _, _) :: before => builtPaths before + 1
  | _ :: before => builtPaths before

/-- The values of the latest acknowledgement or packet size of a path in a log, latest first: the
round trip is that of the latest acknowledgement, the packet size the latest one, and the budget the
one at the later of the two. -/
def latestBasis (path : Nat) : List (RateEvent × Nat) → WindowBasis
  | [] => ⟨0, 0, 0⟩
  | (.build mtu, wire) :: before =>
    if path = builtPaths before then ⟨wire, initialWindowRtt, mtu⟩ else latestBasis path before
  | (.ack acknowledged _ _ _ rtt, wire) :: before =>
    if path = acknowledged then { latestBasis path before with wire, rtt }
    else latestBasis path before
  | (.mtuUpdate resized mtu, wire) :: before =>
    if path = resized then { latestBasis path before with wire, mtu } else latestBasis path before
  | (.congestion _ _, _) :: before => latestBasis path before
  | (.setBitrate _ _ _, _) :: before => latestBasis path before

/-! ### The arithmetic -/

/-- The quotient rounded up is the least that covers the value. -/
theorem divCeil_le_iff (value bound : Nat) {divisor : Nat} (positive : 0 < divisor) :
    divCeil value divisor ≤ bound ↔ value ≤ bound * divisor := by
  unfold divCeil
  have parts := Nat.div_add_mod value divisor
  by_cases remains : 0 < value % divisor
  · have uneven : value ≠ bound * divisor := by
      intro same
      rw [same, Nat.mul_mod_left] at remains
      exact Nat.lt_irrefl 0 remains
    have below := @Nat.div_lt_iff_lt_mul divisor value bound positive
    rw [if_pos remains]
    omega
  · have even : divisor * (value / divisor) = value := by omega
    have scaled := @Nat.mul_le_mul_left_iff (value / divisor) bound divisor positive
    rw [even, Nat.mul_comm divisor bound] at scaled
    rw [if_neg remains, Nat.add_zero]
    exact scaled.symm

/-- The quotient rounded up covers the value. -/
theorem le_divCeil_mul (value : Nat) {divisor : Nat} (positive : 0 < divisor) :
    value ≤ divCeil value divisor * divisor :=
  (divCeil_le_iff value (divCeil value divisor) positive).mp (Nat.le_refl _)

/-- A larger value has no smaller quotient. -/
theorem divCeil_mono {less more divisor : Nat} (positive : 0 < divisor) (ordered : less ≤ more) :
    divCeil less divisor ≤ divCeil more divisor :=
  (divCeil_le_iff less _ positive).mpr (Nat.le_trans ordered (le_divCeil_mul more positive))

/-- The window, in integers without a bound. -/
def exactWindow (rate rtt : Nat) (mtu : UInt16) : Nat :=
  max (max (divCeil (divCeil (rate * max (min rtt maxWindowRtt) 1) 8000000000 *
    steadyWindowNumerator) steadyWindowDenominator) minWindowBytes) (minWindowPackets * mtu.toNat)

/-- What a video rate needs on the wire, in integers without a bound. -/
def exactWireBps (video : Nat) : Nat :=
  divCeil (video * fecAndPacketScaleNumerator) fecAndPacketScaleDenominator +
    audioAndControlReserveBps

section Exact

variable {m : Type → Type} [Monad m] [LawfulMonad m] {fit : Nat → Nat → m Nat}

/-- Every result of a window fits for a rate of 64 bits. -/
theorem windowForRate_of_fits
    (fits : ∀ width value, value < 2 ^ width → fit width value = pure value) {rate : Nat}
    (rate_fits : rate < 2 ^ 64) (rtt : Nat) (mtu : UInt16) :
    windowForRate fit rate rtt mtu = pure (exactWindow rate rtt mtu) := by
  have nanos_most : max (min rtt maxWindowRtt) 1 ≤ 100000000 := by
    unfold maxWindowRtt
    omega
  unfold windowForRate exactWindow
  dsimp only
  generalize max (min rtt maxWindowRtt) 1 = nanos at nanos_most ⊢
  have product_most : rate * nanos ≤ 2 ^ 64 * 100000000 :=
    Nat.mul_le_mul (Nat.le_of_lt rate_fits) nanos_most
  rw [fits 128 _ (by omega), pure_bind]
  generalize rate * nanos = product at product_most ⊢
  have bdp_most : divCeil product 8000000000 ≤ 2 ^ 64 / 80 + 1 :=
    (divCeil_le_iff product _ (by decide)).mpr (by omega)
  have steady_most : divCeil product 8000000000 * steadyWindowNumerator < 2 ^ 64 := by
    unfold steadyWindowNumerator
    omega
  rw [fits 128 _ (by omega), pure_bind]
  generalize divCeil product 8000000000 * steadyWindowNumerator = steady at steady_most ⊢
  have target_most : divCeil steady steadyWindowDenominator ≤ 2 ^ 63 :=
    (divCeil_le_iff steady _ (by decide)).mpr (by unfold steadyWindowDenominator; omega)
  have packets_most : minWindowPackets * mtu.toNat < 2 ^ 64 := by
    have small := mtu.toNat_lt
    unfold minWindowPackets
    omega
  rw [fits 64 _ (by omega), pure_bind, fits 64 _ packets_most, pure_bind]

/-- Every result of a budget on the wire fits for a video rate up to an eighth of a billion
gigabits. -/
theorem videoToWireBps_of_fits
    (fits : ∀ width value, value < 2 ^ width → fit width value = pure value) {video : Nat}
    (small : video ≤ 2 ^ 59) : videoToWireBps fit video = pure (exactWireBps video) := by
  have scaled_most : video * fecAndPacketScaleNumerator < 2 ^ 64 := by
    unfold fecAndPacketScaleNumerator
    omega
  unfold videoToWireBps exactWireBps
  rw [fits 64 _ scaled_most, pure_bind]
  have quotient_most : divCeil (video * fecAndPacketScaleNumerator) fecAndPacketScaleDenominator ≤
      2 ^ 63 := by
    apply (divCeil_le_iff _ _ (by decide)).mpr
    unfold fecAndPacketScaleDenominator
    omega
  exact fits 64 _ (by unfold audioAndControlReserveBps; omega)

end Exact

/-- A result that fits is not refused. -/
theorem fitting_fits (width value : Nat) (fits : value < 2 ^ width) :
    fitting width value = pure value := if_pos fits

/-- A result that fits does not saturate. -/
theorem saturating_fits (width value : Nat) (fits : value < 2 ^ width) :
    saturating width value = pure value := by
  have below : value ≤ 2 ^ width - 1 := by omega
  exact congrArg pure (Nat.min_eq_left below)

/-- The window of the controller is the exact one. -/
theorem windowForRate_exact {rate : Nat} (fits : rate < 2 ^ 64) (rtt : Nat) (mtu : UInt16) :
    Id.run (windowForRate saturating rate rtt mtu) = exactWindow rate rtt mtu :=
  windowForRate_of_fits saturating_fits fits rtt mtu

/-- A higher rate and a longer round trip have no smaller window. -/
theorem exactWindow_mono {rate rate' rtt rtt' : Nat} (rates : rate ≤ rate') (rtts : rtt ≤ rtt')
    (mtu : UInt16) : exactWindow rate rtt mtu ≤ exactWindow rate' rtt' mtu := by
  have nanos : max (min rtt maxWindowRtt) 1 ≤ max (min rtt' maxWindowRtt) 1 := by omega
  have bdp := @divCeil_mono _ _ 8000000000 (by decide) (Nat.mul_le_mul rates nanos)
  have target := @divCeil_mono _ _ steadyWindowDenominator (by decide)
    (Nat.mul_le_mul_right steadyWindowNumerator bdp)
  unfold exactWindow
  omega

/-- Three times the bandwidth-delay product of a round trip up to 100 ms is at most twice the
window. -/
theorem exactWindow_covers (rate rtt : Nat) (mtu : UInt16) :
    3 * (rate * min rtt maxWindowRtt) ≤ 2 * (8000000000 * exactWindow rate rtt mtu) := by
  have wide : rate * min rtt maxWindowRtt ≤ rate * max (min rtt maxWindowRtt) 1 :=
    Nat.mul_le_mul_left rate (Nat.le_max_left _ _)
  have bdp := @le_divCeil_mul (rate * max (min rtt maxWindowRtt) 1) 8000000000 (by decide)
  have target := @le_divCeil_mul (divCeil (rate * max (min rtt maxWindowRtt) 1) 8000000000 *
    steadyWindowNumerator) steadyWindowDenominator (by decide)
  have most : divCeil (divCeil (rate * max (min rtt maxWindowRtt) 1) 8000000000 *
      steadyWindowNumerator) steadyWindowDenominator ≤ exactWindow rate rtt mtu := by
    unfold exactWindow
    omega
  unfold steadyWindowNumerator steadyWindowDenominator at target most
  omega

end Plank.Transport
