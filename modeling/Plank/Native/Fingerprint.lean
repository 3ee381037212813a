import Plank.Native.Authorization

/-!
# Clients that pin a fingerprint

A client may name the fingerprint of its peer, and may begin its session with setup. The first
turns the approval of the certificate off; the second waits for it whatever was configured, and
connects without naming the fingerprint. A client that does both never leaves `PeerValidation`.
-/

namespace Plank.Native

open Transport (Status)

namespace Operation

variable {Address : Type}

/-- What a caller of a client relies on. -/
structure Usable (externals : Externals Address) (config : EndpointConfig Address) : Prop where
  /-- No record passes between the client and a peer other than the one it pins. -/
  enforced : ∀ operation, (system externals config).Reachable operation →
    (∃ lane, 0 < operation.departed lane ∨ 0 < operation.arrived lane) →
    ∀ text, config.pin = some text → ∃ der fingerprint, operation.connection = some der ∧
      externals.hexDecode text = some fingerprint ∧ fingerprint.length = 32 ∧
      externals.sha256 der = fingerprint
  /-- Whoever finds a recorded certificate in `PeerValidation` can approve it: the call returns
  `OK` and the operation goes on, unless it is over. -/
  approvable : ∀ operation, (system externals config).Reachable operation →
    operation.endpoint.status.state = .peerValidation → operation.certificate ≠ [] →
    operation.approved = false →
    ∀ caller result verdict, operation.calls caller = .returned result →
      ∃ approved, (system externals config).run operation
          [.approve caller, .call caller verdict, .call caller verdict, .call caller verdict] =
            some approved ∧
        approved.calls caller = .returned .ok ∧
        (operation.endpoint.worker = .running → ∃ steps last,
          (system externals config).run approved (.replicate steps .operate) = some last ∧
          last.phase.gated = true)

variable {externals : Externals Address} {config : EndpointConfig Address}

/-- No record passes between a client and an untrusted peer. -/
theorem passed_trusted {operation : Operation}
    (reachable : (system externals config).Reachable operation) (client : config.mode = 2)
    (passed : ∃ lane, 0 < operation.departed lane ∨ 0 < operation.arrived lane) :
    Trusted externals config operation.connection operation.approvedFor := by
  have holds := reachable_invariant reachable
  obtain ⟨lane, passed⟩ := passed
  have opened : operation.phase.open lane = true := by
    rcases passed with departed | arrived
    · exact holds.departed lane departed
    · exact holds.arrived lane arrived
  exact holds.trusted client (by grind -ring -linarith -order)

/-- A pinned client without setup passes records only with the peer it pins. -/
theorem enforced_of_direct {operation : Operation}
    (reachable : (system externals config).Reachable operation) (client : config.mode = 2)
    (direct : config.setupMode = false)
    (passed : ∃ lane, 0 < operation.departed lane ∨ 0 < operation.arrived lane) {text : String}
    (pinned : config.pin = some text) : ∃ der fingerprint, operation.connection = some der ∧
      externals.hexDecode text = some fingerprint ∧ externals.sha256 der = fingerprint := by
  obtain ⟨der, presented, _⟩ := passed_trusted reachable client passed
  have holds := reachable_invariant reachable
  obtain ⟨named, fingerprint, configured, decoded, same⟩ :=
    holds.verified direct der presented text pinned
  obtain rfl : named = text := Option.some.inj (configured.symm.trans pinned)
  exact ⟨der, fingerprint, presented, decoded, same⟩

/-- The call that approves the recorded certificate. -/
def afterApproval (operation : Operation) (caller : Nat) : Operation :=
  { operation with
    approved := true
    approvedPermit := true
    approvedFor := some operation.certificate
    calls := Function.update operation.calls caller (.returned .ok) }

/-- An approval that nothing stands against goes through. -/
theorem approve_run {operation : Operation} {caller : Nat} {result verdict : Status}
    (free : operation.calls caller = .returned result) (client : config.mode = 2)
    (asks : config.approvalRequired = true)
    (waiting : operation.endpoint.status.state = .peerValidation)
    (recorded : operation.certificate ≠ []) (unapproved : operation.approved = false) :
    (system externals config).run operation
        [.approve caller, .call caller verdict, .call caller verdict, .call caller verdict] =
      some (operation.afterApproval caller) := by
  have begun : (system externals config).step operation (.approve caller) =
      some (operation.withCall caller .approveCertificate) := by
    simp [-EndpointConfig.mode, -EndpointConfig.approvalRequired, system, step, free, beginApprove,
      client, asks, waiting]
  rw [Transition.System.run, begun]
  simp [Transition.System.run, system, step, withCall, callStep, recorded, unapproved,
    afterApproval]

/-- An approved operation that looks at the approval passes the check of the peer. -/
theorem operate_approved {operation : Operation} (running : operation.endpoint.worker = .running)
    (approved : operation.approved = true) (checking : operation.phase = .checking) :
    ∃ last, (system externals config).step operation .operate = some last ∧
      last.phase.gated = true := by
  refine ⟨{ operation with phase := if config.setupMode then .opening else .readying }, ?_, ?_⟩
  · simp [system, step, operate, running, checking, approved]
  · show (if config.setupMode then Phase.opening else Phase.readying).gated = true
    split <;> rfl

/-- An approved operation that waits goes on. -/
theorem approved_goes_on {operation : Operation} (running : operation.endpoint.worker = .running)
    (approved : operation.approved = true) (permit : operation.approvedPermit = true)
    (waits : operation.phase = .checking ∨ operation.phase = .parked) : ∃ steps last,
      (system externals config).run operation (.replicate steps .operate) = some last ∧
      last.phase.gated = true := by
  rcases waits with checking | parked
  · obtain ⟨last, stepped, gated⟩ := @operate_approved _ externals config _ running approved checking
    exact ⟨1, last, by simp [Transition.System.run, stepped], gated⟩
  · have woken : (system externals config).step operation .operate =
        some { operation with approvedPermit := false, phase := .checking } := by
      simp [system, step, operate, running, parked, permit]
    obtain ⟨last, stepped, gated⟩ := @operate_approved _ externals config
      { operation with approvedPermit := false, phase := .checking } running approved rfl
    exact ⟨2, last, by simp [List.replicate, Transition.System.run, woken, stepped], gated⟩

/-- A client that asks for approval whenever it waits for it is usable. -/
theorem usable_of_consistent {raw : Option Config}
    (accepted : parseConfig externals raw = .ok config) (client : config.mode = 2)
    (consistent : ¬(config.setupMode = true ∧ config.pin.isSome = true)) :
    Usable externals config := by
  constructor
  · intro operation reachable passed text pinned
    have direct : config.setupMode = false := by grind -ring -linarith -order
    obtain ⟨der, fingerprint, presented, decoded, same⟩ :=
      enforced_of_direct reachable client direct passed pinned
    obtain ⟨other, again, length⟩ := (parseConfig_valid accepted).2 text pinned
    obtain rfl : other = fingerprint := Option.some.inj (again.symm.trans decoded)
    exact ⟨der, other, presented, decoded, length, same⟩
  · intro operation reachable waiting recorded unapproved caller result verdict free
    have holds := reachable_invariant reachable
    obtain ⟨asks, place⟩ := holds.validation waiting
    have required : config.approvalRequired = true := by
      rcases asks with setup | required
      · have open_ : config.pin.isSome = false := by grind -ring -linarith -order
        cases config <;> simp_all
      · exact required
    refine ⟨operation.afterApproval caller,
      approve_run free client required waiting recorded unapproved, by simp [afterApproval], ?_⟩
    intro running
    have waits : operation.phase = .checking ∨ operation.phase = .parked := by
      rcases place with checking | parked | gated
      · exact .inl checking
      · exact .inr parked
      · have approved := holds.asked client (.inr required) gated
        simp [unapproved] at approved
    exact approved_goes_on running rfl rfl waits

/-- The client starts and records the certificate of its peer. -/
def stuckOperations : List OperationAction :=
  [.endpoint .start, .endpoint (.caller none), .endpoint (.caller none), .endpoint (.caller none),
    .connected [97], .operate, .operate]

/-- A client of a setup session that pins a fingerprint is not usable: nothing approves the
certificate it waits for. -/
theorem not_usable_of_pinned_setup (client : config.mode = 2) (setup : config.setupMode = true)
    (pinned : config.pin.isSome = true) : ¬Usable externals config := by
  intro usable
  cases config with
  | server => simp at client
  | client address name pin token setupMode options =>
    obtain rfl : setupMode = true := setup
    obtain ⟨text, rfl⟩ : ∃ text, pin = some text := Option.isSome_iff_exists.mp pinned
    have evaluated : ∃ stuck,
        (system externals (.client address name (some text) token true options)).run {}
          stuckOperations = some stuck ∧ stuck.endpoint.status.state = .peerValidation ∧
        stuck.certificate ≠ [] ∧ stuck.approved = false ∧ stuck.calls 0 = .returned .ok :=
      ⟨_, rfl, rfl, by simp, rfl, rfl⟩
    obtain ⟨stuck, run, waiting, recorded, unapproved, free⟩ := evaluated
    have reachable := Transition.System.reachable_of_run rfl run
    obtain ⟨approved, called, _, _⟩ :=
      usable.approvable stuck reachable waiting recorded unapproved 0 .ok .ok free
    simp [Transition.System.run, system, step, free, beginApprove, withCall, callStep] at called

/-- An accepted client is usable exactly when it does not both begin with setup and pin a
fingerprint. -/
theorem usable_iff_consistent {raw : Option Config}
    (accepted : parseConfig externals raw = .ok config) (client : config.mode = 2) :
    Usable externals config ↔ ¬(config.setupMode = true ∧ config.pin.isSome = true) := by
  constructor
  · intro usable both
    exact not_usable_of_pinned_setup client both.1 both.2 usable
  · exact usable_of_consistent accepted client

/-- The bytes of a C string. -/
def sampleText (text : String) : CString := some text.toUTF8.data.toList

/-- A client that pins a fingerprint, in either session mode. -/
def sampleConfig (sessionMode : UInt32) : Config where
  structSize := 96
  abiVersion := 13
  mode := 2
  sessionMode := sessionMode
  remoteAddress := sampleText "127.0.0.1:47984"
  serverName := sampleText "host"
  certificateSha256 := sampleText sampleFingerprintText
  sessionToken := sampleText "token"

/-- What that configuration means. -/
def samplePinned (setupMode : Bool) : EndpointConfig String :=
  .client "127.0.0.1:47984" "host" (some sampleFingerprintText) "token" setupMode
    ⟨10000, 10000, 2000, none, 0⟩

/-- The sample configuration is accepted without setup, and usable. -/
theorem samplePinned_direct_usable :
    parseConfig sampleExternals (some (sampleConfig 0)) = .ok (samplePinned false) ∧
      Usable sampleExternals (samplePinned false) := by
  have accepted : parseConfig sampleExternals (some (sampleConfig 0)) = .ok (samplePinned false) :=
    rfl
  exact ⟨accepted, (usable_iff_consistent accepted rfl).mpr (by decide)⟩

/-- The sample configuration is accepted with setup, and not usable. -/
theorem samplePinned_setup_unusable :
    parseConfig sampleExternals (some (sampleConfig 1)) = .ok (samplePinned true) ∧
      ¬Usable sampleExternals (samplePinned true) :=
  ⟨rfl, not_usable_of_pinned_setup rfl rfl rfl⟩

end Operation

end Plank.Native
