import Plank.Native.Operation

/-!
# The authorization gate

A client serves no lane before its peer is trusted, and no endpoint of a setup session serves
media before its own authorization. The gate is spread over the verifier, the approval the
operation waits for, the state it publishes and the state each entry point reads; one invariant
ties them together, and every step keeps it.
-/

namespace Plank.Native

open Transport (Status)

/-- Whether the operation may have passed a record of the lane: setup data once the peer is
checked, all else only at last. -/
@[grind]
def Phase.open (phase : Phase) (lane : Lane) : Bool :=
  if lane = .data then phase.gated else phase = .active

/-- Whether the operation waits for an approval, or is about to. -/
@[grind]
def Phase.asks : Phase → Bool
  | .validating | .checking | .parked => true
  | _ => false

namespace Operation

variable {Address : Type} (externals : Externals Address) (config : EndpointConfig Address)

/-- The certificate matches the fingerprint the client pins. -/
def Pinned (der : List UInt8) : Prop :=
  ∃ text fingerprint, config.pin = some text ∧ externals.hexDecode text = some fingerprint ∧
    externals.sha256 der = fingerprint

/-- The peer of the connection presented the pinned certificate, or its certificate was approved
once it had been recorded. -/
def Trusted (connection approvedFor : Option (List UInt8)) : Prop :=
  ∃ der, connection = some der ∧ (Pinned externals config der ∨ approvedFor = some der)

/-- What a call found when it took its place: the certificate it is about to approve is that of
the connection, the state in which it authorizes is `SetupReady`, the lane it serves is open. -/
def Admissible (connection : Option (List UInt8)) (phase : Phase) (call : Call) : Prop :=
  match call with
  | .approveCertificate => config.approvalRequired = true
  | .approveSwap der => connection = some der ∧ config.approvalRequired = true
  | .authorizeSwap seen => seen = .setupReady
  | .sending lane => phase.open lane = true
  | _ => True

/-- A call stays where it is while the connection stays and no lane closes. -/
theorem Admissible.mono {config : EndpointConfig Address} {connection later : Option (List UInt8)}
    {phase next : Phase} {call : Call} (holds : Admissible config connection phase call)
    (stays : ∀ der, connection = some der → later = some der)
    (opens : ∀ lane, phase.open lane = true → next.open lane = true) :
    Admissible config later next call := by
  cases call with
  | approveSwap der => exact ⟨stays der holds.1, holds.2⟩
  | sending lane => exact opens lane holds
  | _ => exact holds

/-- What the steps of the gate keep. -/
structure Invariant (operation : Operation) : Prop where
  /-- Before the connection nothing is recorded. -/
  connecting : operation.phase = .connecting →
    operation.connection = none ∧ operation.certificate = []
  /-- The certificate a client is about to record is that of the connection. -/
  recording : ∀ der, operation.phase = .recording der →
    config.mode = 2 ∧ operation.connection = some der
  /-- The recorded certificate is that of the connection. -/
  recorded : operation.certificate ≠ [] → operation.connection = some operation.certificate
  /-- Every call under way may stand where it does. -/
  calls : ∀ caller,
    Admissible config operation.connection operation.phase (operation.calls caller)
  /-- An approval that went through was of that certificate. -/
  approved : operation.approved = true → config.approvalRequired = true ∧
    ∃ der, operation.connection = some der ∧ operation.approvedFor = some der
  /-- A connection that names a fingerprint goes to the peer that has it. -/
  verified : config.setupMode = false → ∀ der, operation.connection = some der →
    ∀ text, config.pin = some text → Pinned externals config der
  /-- Past the check of the peer, the peer is trusted. -/
  trusted : config.mode = 2 → operation.phase.gated = true →
    Trusted externals config operation.connection operation.approvedFor
  /-- An operation that waits for an approval is one that asks for it. -/
  asking : operation.phase.asks = true →
    config.mode = 2 ∧ (config.setupMode = true ∨ config.approvalRequired = true)
  /-- Past the check of the peer, what was asked for was given. -/
  asked : config.mode = 2 → config.setupMode = true ∨ config.approvalRequired = true →
    operation.phase.gated = true → operation.approved = true
  /-- `PeerValidation` is published before the operation waits. -/
  validation : operation.endpoint.status.state = .peerValidation →
    (config.setupMode = true ∨ config.approvalRequired = true) ∧
      (operation.phase = .checking ∨ operation.phase = .parked ∨ operation.phase.gated = true)
  /-- Past the authorization, the session is authorized. -/
  promoted : config.setupMode = true → operation.phase.promoted = true →
    operation.authorized = true
  /-- An authorization that went through found `SetupReady`. -/
  authorized : operation.authorized = true → operation.authorizedIn = some .setupReady
  /-- `SetupReady` is published past the check of the peer. -/
  setupReady : operation.endpoint.status.state = .setupReady → operation.phase.gated = true
  /-- `Ready` is published at last. -/
  ready : operation.endpoint.status.state = .ready → operation.phase = .active
  /-- A lane that accepted a record is open. -/
  accepted : ∀ lane, 0 < operation.accepted lane → operation.phase.open lane = true
  /-- A lane that a record left by is open. -/
  departed : ∀ lane, 0 < operation.departed lane → operation.phase.open lane = true
  /-- A lane that a record arrived on is open. -/
  arrived : ∀ lane, 0 < operation.arrived lane → operation.phase.open lane = true
  /-- A record is delivered once it arrived. -/
  delivered : ∀ lane, operation.delivered lane ≤ operation.arrived lane

variable {externals config} {before after : Operation}

/-- A connection with a fingerprint is one to the peer that has it. -/
theorem connectRawClient_pinned {pin : Option String} {der recorded : List UInt8}
    (connected : connectRawClient externals pin der = .ok recorded) :
    recorded = der ∧ ∀ text, pin = some text → ∃ fingerprint,
      externals.hexDecode text = some fingerprint ∧ externals.sha256 der = fingerprint := by
  cases pin with
  | none =>
    obtain rfl := Except.ok.inj connected
    exact ⟨rfl, by simp⟩
  | some text =>
    simp only [connectRawClient] at connected
    cases decoded : externals.hexDecode text with
    | none => simp [decoded] at connected
    | some expected =>
      simp only [decoded] at connected
      by_cases same : externals.sha256 der = expected
      · rw [if_pos same] at connected
        obtain rfl := Except.ok.inj connected
        refine ⟨rfl, ?_⟩
        rintro _ ⟨⟩
        exact ⟨expected, decoded, same⟩
      · rw [if_neg same] at connected
        cases connected

/-- The connection of a session without setup is one to the pinned peer. -/
theorem connectClient_pinned {der recorded : List UInt8}
    (connected : connectClient externals config der = .ok recorded)
    (direct : config.setupMode = false) (text : String) (pinned : config.pin = some text) :
    Pinned externals config recorded := by
  simp only [connectClient, direct] at connected
  obtain ⟨rfl, matched⟩ := connectRawClient_pinned connected
  obtain ⟨fingerprint, decoded, same⟩ := matched text pinned
  exact ⟨text, fingerprint, pinned, decoded, same⟩

/-- A client that asks for no approval pins a fingerprint. -/
theorem pinned_of_automatic (client : config.mode = 2) (automatic : config.approvalRequired = false) :
    ∃ text, config.pin = some text := by
  cases config with
  | server => simp at client
  | client =>
    simp only [EndpointConfig.approvalRequired, Option.isNone_eq_false_iff] at automatic
    exact Option.isSome_iff_exists.mp automatic

/-- What publishing a state does. -/
theorem publish_eq_some {state : EndpointState} {next : Phase}
    (published : before.publish state next = some after) :
    ∃ endpoint, endpoint = { before.endpoint with
        status := before.endpoint.status.setState state } ∧
      after = { before with endpoint, phase := next } := by
  obtain ⟨endpoint, stepped, rfl⟩ := Option.map_eq_some_iff.mp published
  obtain ⟨_, taken⟩ := Option.ite_none_right_eq_some.mp stepped
  exact ⟨endpoint, (Option.some.inj taken).symm, rfl⟩

/-- Connecting keeps the invariant. -/
theorem connect_invariant {der : List UInt8} (holds : before.Invariant externals config)
    (stepped : before.connect externals config der = some after) :
    after.Invariant externals config := by
  obtain ⟨connecting, recording, recorded, calls, approved, verified, trusted, asking, asked,
    validation, promoted, authorized, setupReady, ready, accepted, departed, arrived,
    delivered⟩ := holds
  obtain ⟨⟨running, start⟩, stepped⟩ : (before.endpoint.worker = .running ∧
      before.phase = .connecting) ∧ _ := by
    simpa only [connect, Option.ite_none_right_eq_some, Bool.and_eq_true, decide_eq_true_eq]
      using stepped
  cases config with
  | server =>
    obtain rfl := Option.some.inj stepped
    constructor
    case calls => exact fun caller => (calls caller).mono (by grind -ring -linarith -order) (by grind -ring -linarith -order)
    all_goals grind -ring -linarith -order [EndpointConfig.mode, EndpointConfig.setupMode]
  | client =>
    dsimp only at stepped
    split at stepped
    · cases stepped
    · rename_i recorded connected
      obtain rfl := Option.some.inj stepped
      have pinned := connectClient_pinned connected
      constructor
      case calls => exact fun caller => (calls caller).mono (by grind -ring -linarith -order) (by grind -ring -linarith -order)
      all_goals grind -ring -linarith -order [EndpointConfig.mode]

/-- The operation's own steps keep the invariant. -/
theorem operate_invariant (holds : before.Invariant externals config)
    (stepped : before.operate config = some after) :
    after.Invariant externals config := by
  obtain ⟨connecting, recording, recorded, calls, approved, verified, trusted, asking, asked,
    validation, promoted, authorized, setupReady, ready, accepted, departed, arrived,
    delivered⟩ := holds
  simp only [operate, Option.ite_none_left_eq_some] at stepped
  obtain ⟨running, stepped⟩ := stepped
  cases phase : before.phase <;> simp only [phase] at stepped
  case connecting | active => cases stepped
  case recording der =>
    obtain ⟨client, presented⟩ := recording der phase
    by_cases asks : config.setupMode = true ∨ config.approvalRequired = true
    · rw [if_pos (by simpa using asks)] at stepped
      obtain rfl := Option.some.inj stepped
      constructor
      case calls => exact fun caller => (calls caller).mono (by grind -ring -linarith -order) (by grind -ring -linarith -order)
      all_goals grind -ring -linarith -order
    · have direct : config.setupMode = false := by grind -ring -linarith -order
      have matched : config.mode = 2 →
          Trusted externals config before.connection before.approvedFor := by
        intro client
        obtain ⟨text, pinned⟩ := pinned_of_automatic client (by grind -ring -linarith -order)
        exact ⟨der, presented, .inl (verified direct der presented text pinned)⟩
      rw [if_neg (by simpa using asks)] at stepped
      obtain rfl := Option.some.inj stepped
      constructor
      case calls => exact fun caller => (calls caller).mono (by grind -ring -linarith -order) (by grind -ring -linarith -order)
      all_goals grind -ring -linarith -order
  case validating | opening | readying =>
    obtain ⟨endpoint, published, rfl⟩ := publish_eq_some stepped
    constructor
    case calls => exact fun caller => (calls caller).mono (by grind -ring -linarith -order) (by grind -ring -linarith -order)
    all_goals grind -ring -linarith -order
  case parked | waiting =>
    obtain ⟨permitted, taken⟩ := Option.ite_none_right_eq_some.mp stepped
    obtain rfl := Option.some.inj taken
    constructor
    case calls => exact fun caller => (calls caller).mono (by grind -ring -linarith -order) (by grind -ring -linarith -order)
    all_goals grind -ring -linarith -order
  case checking =>
    by_cases passed : before.approved = true
    · obtain ⟨der, presented, granted⟩ := (approved passed).2
      have trusted : Trusted externals config before.connection before.approvedFor :=
        ⟨der, presented, .inr granted⟩
      rw [if_pos passed] at stepped
      obtain rfl := Option.some.inj stepped
      constructor
      case calls => exact fun caller => (calls caller).mono (by grind -ring -linarith -order) (by grind -ring -linarith -order)
      all_goals grind -ring -linarith -order
    · rw [if_neg passed] at stepped
      obtain rfl := Option.some.inj stepped
      constructor
      case calls => exact fun caller => (calls caller).mono (by grind -ring -linarith -order) (by grind -ring -linarith -order)
      all_goals grind -ring -linarith -order
  case authorizing | promoting =>
    obtain rfl := Option.some.inj stepped
    constructor
    case calls => exact fun caller => (calls caller).mono (by grind -ring -linarith -order) (by grind -ring -linarith -order)
    all_goals grind -ring -linarith -order

/-- Only the operation publishes progress: every other step of the endpoint finds the state it
leaves, where that is a state of progress. -/
theorem endpoint_progress {first last : Endpoint} {action : Action}
    (other : ∀ state, action ≠ .progress state) (stepped : first.step action = some last)
    (progress : last.status.state.progress = true) :
    last.status.state = first.status.state := by
  cases action with
  | progress state => exact absurd rfl (other state)
  | caller spawnError =>
    simp only [Endpoint.step, Endpoint.callerStep] at stepped
    cases caller : first.caller <;> simp only [caller] at stepped <;>
      grind -ring -linarith -order [NativeStatus.fail]
  | worker =>
    simp only [Endpoint.step, Endpoint.workerStep] at stepped
    cases worker : first.worker <;> simp only [worker] at stepped <;>
      grind -ring -linarith -order [NativeStatus.fail]
  | _ =>
    simp only [Endpoint.step, Option.ite_none_right_eq_some, Option.ite_none_left_eq_some]
      at stepped
    grind -ring -linarith -order

/-- What a step of the endpoint does to the operation. -/
theorem endpointStep_eq_some {action : Action} (stepped : before.endpointStep action = some after) :
    ∃ endpoint phase, after = { before with endpoint, phase } ∧
      (phase = before.phase ∨ (before.phase = .parked ∧ phase = .checking) ∨
        (before.phase = .waiting ∧ phase = .authorizing)) ∧
      (endpoint.status.state.progress = true →
        endpoint.status.state = before.endpoint.status.state) := by
  have other : ∀ state, action ≠ .progress state := by
    rintro state rfl
    cases stepped
  cases action with
  | progress state => exact absurd rfl (other state)
  | runtimeError error =>
    obtain ⟨_, stepped⟩ := Option.ite_none_right_eq_some.mp stepped
    obtain ⟨endpoint, moved, rfl⟩ := Option.map_eq_some_iff.mp stepped
    exact ⟨endpoint, before.phase, rfl, .inl rfl, endpoint_progress other moved⟩
  | _ =>
    obtain ⟨endpoint, moved, rfl⟩ := Option.map_eq_some_iff.mp stepped
    refine ⟨endpoint, _, rfl, ?_, endpoint_progress other moved⟩
    split
    · cases place : before.phase <;> simp [woken]
    · exact .inl rfl

/-- The other steps of the endpoint keep the invariant. -/
theorem endpointStep_invariant {action : Action} (holds : before.Invariant externals config)
    (stepped : before.endpointStep action = some after) : after.Invariant externals config := by
  obtain ⟨connecting, recording, recorded, calls, approved, verified, trusted, asking, asked,
    validation, promoted, authorized, setupReady, ready, accepted, departed, arrived,
    delivered⟩ := holds
  obtain ⟨endpoint, phase, rfl, moved, progress⟩ := endpointStep_eq_some stepped
  obtain rfl | ⟨place, rfl⟩ | ⟨place, rfl⟩ := moved <;>
  · constructor
    case calls => exact fun caller => (calls caller).mono (by grind -ring -linarith -order) (by grind -ring -linarith -order)
    all_goals grind -ring -linarith -order

/-- A call that stands at a new place keeps the invariant, where that place is admissible. -/
theorem withCall_invariant {caller : Nat} {call : Call} (holds : before.Invariant externals config)
    (admissible : Admissible config before.connection before.phase call) :
    (before.withCall caller call).Invariant externals config :=
  { holds with
    calls := by
      intro other
      by_cases same : other = caller
      · subst same
        simpa [withCall] using admissible
      · simpa [withCall, same] using holds.calls other }

/-- A send call passes its checks only on an open lane. -/
theorem sendCheck_open {lane : Lane} {mode : Nat} {arguments : Bool}
    (holds : before.Invariant externals config)
    (passed : lane.sendCheck mode arguments before.endpoint.status.state = .ok) :
    before.phase.open lane = true := by
  have setupReady := holds.setupReady
  have ready := holds.ready
  cases lane <;> grind -ring -linarith -order [Lane.sendCheck]

/-- The first step of a call keeps the invariant. -/
theorem begin_invariant {caller : Nat} {lane : Lane} {arguments : Bool}
    (holds : before.Invariant externals config) :
    (before.beginApprove config caller).Invariant externals config ∧
    (before.beginAuthorize config caller).Invariant externals config ∧
    (before.beginSend config caller lane arguments).Invariant externals config ∧
    (before.beginReceive config caller lane arguments).Invariant externals config := by
  refine ⟨?_, ?_, ?_, ?_⟩ <;> apply withCall_invariant holds
  · grind -ring -linarith -order [Admissible]
  · grind -ring -linarith -order [Admissible]
  · by_cases passed :
        lane.sendCheck config.mode arguments before.endpoint.status.state = .ok
    · rw [if_pos passed]
      exact sendCheck_open holds passed
    · rw [if_neg passed]
      trivial
  · grind -ring -linarith -order [Admissible]

/-- A lane that counts one more record keeps to what holds of the lanes. -/
theorem count_open {counts : Lane → Nat} {lane : Lane} {phase : Phase}
    (holds : ∀ lane, 0 < counts lane → phase.open lane = true) (here : phase.open lane = true) :
    ∀ other, 0 < count counts lane other → phase.open other = true := by
  intro other counted
  by_cases same : other = lane
  · exact same ▸ here
  · exact holds other (by simpa [count, same] using counted)

/-- The next step of a call keeps the invariant. -/
theorem callStep_invariant {caller : Nat} {verdict : Status}
    (holds : before.Invariant externals config)
    (stepped : before.callStep caller verdict = some after) :
    after.Invariant externals config := by
  have admissible := holds.calls caller
  simp only [callStep] at stepped
  cases call : before.calls caller <;> simp only [call] at stepped
  case returned => cases stepped
  case approveCertificate =>
    have asks : config.approvalRequired = true := by simpa [call, Admissible] using admissible
    obtain rfl := Option.some.inj stepped
    apply withCall_invariant holds
    split
    · trivial
    · rename_i present
      exact ⟨holds.recorded present, asks⟩
  case approveSwap der =>
    obtain ⟨presented, asks⟩ : before.connection = some der ∧ config.approvalRequired = true := by
      simpa [call, Admissible] using admissible
    split at stepped <;> obtain rfl := Option.some.inj stepped
    · exact withCall_invariant holds trivial
    · have granted : ({ before with approved := true, approvedFor := some der } :
          Operation).Invariant externals config :=
        { holds with
          approved := fun _ => ⟨asks, der, presented, rfl⟩
          asked := fun _ _ _ => rfl
          trusted := by
            intro client gated
            exact ⟨der, presented, .inr rfl⟩ }
      exact withCall_invariant granted trivial
  case authorizeSwap seen =>
    obtain rfl : seen = .setupReady := by simpa [call, Admissible] using admissible
    split at stepped <;> obtain rfl := Option.some.inj stepped
    · exact withCall_invariant holds trivial
    · have granted : ({ before with authorized := true, authorizedIn := some .setupReady } :
          Operation).Invariant externals config :=
        { holds with
          promoted := fun _ _ => rfl
          authorized := fun _ => rfl }
      exact withCall_invariant granted trivial
  case approveNotify | authorizeNotify =>
    obtain rfl := Option.some.inj stepped
    exact withCall_invariant { holds with } trivial
  case sending lane =>
    have here : before.phase.open lane = true := by simpa [call, Admissible] using admissible
    split at stepped <;> obtain rfl := Option.some.inj stepped
    · have counted : ({ before with accepted := count before.accepted lane } :
          Operation).Invariant externals config :=
        { holds with accepted := count_open holds.accepted here }
      exact withCall_invariant counted trivial
    · exact withCall_invariant holds trivial
  case receiving lane =>
    split at stepped
    · obtain ⟨arrived, taken⟩ := Option.ite_none_right_eq_some.mp stepped
      obtain rfl := Option.some.inj taken
      have counted : ({ before with delivered := count before.delivered lane } :
          Operation).Invariant externals config :=
        { holds with
          delivered := by
            intro other
            have within := holds.delivered other
            by_cases same : other = lane
            · subst same
              simp only [count, Function.update_self]
              omega
            · simpa [count, same] using within }
      exact withCall_invariant counted trivial
    · obtain rfl := Option.some.inj stepped
      exact withCall_invariant holds trivial

/-- A lane that is served is open. -/
theorem serves_open {phase : Phase} {lane : Lane} (served : phase.serves lane = true) :
    phase.open lane = true := by
  cases phase <;> cases lane <;> first | rfl | simp [Phase.serves] at served

/-- Every step keeps the invariant. -/
theorem step_invariant {action : OperationAction} (holds : before.Invariant externals config)
    (stepped : (system externals config).step before action = some after) :
    after.Invariant externals config := by
  cases action with
  | endpoint action => exact endpointStep_invariant holds stepped
  | connected der => exact connect_invariant holds stepped
  | operate => exact operate_invariant holds stepped
  | call caller verdict => exact callStep_invariant holds stepped
  | arrive lane =>
    obtain ⟨⟨⟨running, served⟩, ours⟩, taken⟩ : ((_ ∧ before.phase.serves lane = true) ∧ _) ∧ _ := by
      simpa only [system, step, Option.ite_none_right_eq_some, Bool.and_eq_true] using stepped
    obtain rfl := Option.some.inj taken
    exact { holds with
      arrived := count_open holds.arrived (serves_open served)
      delivered := by
        intro other
        have within := holds.delivered other
        by_cases same : other = lane
        · subst same
          simp only [count, Function.update_self]
          omega
        · simpa [count, same] using within }
  | depart lane =>
    obtain ⟨⟨⟨running, served⟩, held⟩, taken⟩ : ((_ ∧ before.phase.serves lane = true) ∧ _) ∧ _ := by
      simpa only [system, step, Option.ite_none_right_eq_some, Bool.and_eq_true] using stepped
    obtain rfl := Option.some.inj taken
    exact { holds with departed := count_open holds.departed (serves_open served) }
  | approve caller =>
    obtain ⟨_, taken⟩ := Option.ite_none_right_eq_some.mp stepped
    obtain rfl := Option.some.inj taken
    exact (@begin_invariant _ externals config before caller .data true holds).1
  | authorize caller =>
    obtain ⟨_, taken⟩ := Option.ite_none_right_eq_some.mp stepped
    obtain rfl := Option.some.inj taken
    exact (@begin_invariant _ externals config before caller .data true holds).2.1
  | send caller lane arguments =>
    obtain ⟨_, taken⟩ := Option.ite_none_right_eq_some.mp stepped
    obtain rfl := Option.some.inj taken
    exact (begin_invariant holds).2.2.1
  | receive caller lane arguments =>
    obtain ⟨_, taken⟩ := Option.ite_none_right_eq_some.mp stepped
    obtain rfl := Option.some.inj taken
    exact (begin_invariant holds).2.2.2

/-- Every reachable operation satisfies the invariant. -/
theorem reachable_invariant {operation : Operation}
    (reachable : (system externals config).Reachable operation) :
    operation.Invariant externals config := by
  refine Transition.System.Preserves.reachable (fun _ _ _ holds stepped =>
    step_invariant holds stepped) ?_ reachable
  rintro _ rfl
  constructor <;> simp [Admissible, Phase.gated, Phase.promoted, Phase.asks]

/-- The authorization gate: a client is at work, accepts or delivers only with a trusted peer, and
an endpoint of a setup session is ready, accepts or delivers media only once it was authorized in
`SetupReady`. -/
structure Authorized (externals : Externals Address) (config : EndpointConfig Address)
    (operation : Operation) : Prop where
  /-- The peer of a client. -/
  peer : config.mode = 2 →
    (operation.endpoint.status.state = .setupReady ∨ operation.endpoint.status.state = .ready ∨
      ∃ lane, 0 < operation.accepted lane ∨ 0 < operation.delivered lane) →
    Trusted externals config operation.connection operation.approvedFor
  /-- The session of either side. -/
  session : config.setupMode = true →
    (operation.endpoint.status.state = .ready ∨
      ∃ lane, lane ≠ .data ∧ (0 < operation.accepted lane ∨ 0 < operation.delivered lane)) →
    operation.authorizedIn = some .setupReady

/-- A lane that accepted or delivered a record is open. -/
theorem Invariant.used (holds : before.Invariant externals config) {lane : Lane}
    (used : 0 < before.accepted lane ∨ 0 < before.delivered lane) :
    before.phase.open lane = true := by
  rcases used with accepted | delivered
  · exact holds.accepted lane accepted
  · have within := holds.delivered lane
    exact holds.arrived lane (by omega)

/-- Every interleaving of the workers, the calls and the failures keeps the gate. -/
theorem reachable_authorized {operation : Operation}
    (reachable : (system externals config).Reachable operation) :
    operation.Authorized externals config := by
  have holds := reachable_invariant reachable
  constructor
  · intro client working
    apply holds.trusted client
    rcases working with setup | ready | ⟨lane, used⟩
    · exact holds.setupReady setup
    · simp [holds.ready ready, Phase.gated]
    · have opened := holds.used used
      grind -ring -linarith -order
  · intro setup media
    apply holds.authorized
    apply holds.promoted setup
    have active : operation.phase = .active := by
      rcases media with ready | ⟨lane, other, used⟩
      · exact holds.ready ready
      · have opened := holds.used used
        simpa [Phase.open, other] using opened
    simp [active, Phase.promoted]

/-- The SHA-256 of the three bytes of `abc`. -/
def sampleFingerprint : List UInt8 :=
  [0xba, 0x78, 0x16, 0xbf, 0x8f, 0x01, 0xcf, 0xea, 0x41, 0x41, 0x40, 0xde, 0x5d, 0xae, 0x22, 0x23,
    0xb0, 0x03, 0x61, 0xa3, 0x96, 0x17, 0x7a, 0x9c, 0xb4, 0x10, 0xff, 0x61, 0xf2, 0x00, 0x15, 0xad]

/-- That fingerprint in hexadecimal. -/
def sampleFingerprintText : String :=
  "ba7816bf8f01cfea414140de5dae2223b00361a396177a9cb410ff61f20015ad"

/-- Externals that know one address and one certificate. -/
def sampleExternals : Externals String where
  parseAddress text := if text = "127.0.0.1:47984" then some text else none
  hexDecode text := if text = sampleFingerprintText then some sampleFingerprint else none
  sha256 der := if der = [97, 98, 99] then sampleFingerprint else []

/-- A client of a setup session that pins no fingerprint. -/
def sampleClient : EndpointConfig String :=
  .client "127.0.0.1:47984" "host" none "token" true ⟨10000, 10000, 2000, none, 0⟩

/-- The client starts, records the certificate of its peer, is approved and authorized, and sends
one input record. -/
def sampleOperations : List OperationAction :=
  [.endpoint .start, .endpoint (.caller none), .endpoint (.caller none), .endpoint (.caller none),
    .connected [97, 98, 99], .operate, .operate, .operate, .approve 0, .call 0 .ok, .call 0 .ok,
    .call 0 .ok, .operate, .operate, .operate, .operate, .authorize 1, .call 1 .ok, .call 1 .ok,
    .operate, .operate, .operate, .operate, .send 0 .input true, .call 0 .ok, .depart .input]

/-- The client after that. -/
def sampleOperation : Operation :=
  ((system sampleExternals sampleClient).run {} sampleOperations).getD {}

/-- The sample client is ready, has sent one input record, and kept the gate. -/
theorem sampleOperation_authorized :
    sampleOperation.endpoint.status.state = .ready ∧ sampleOperation.departed .input = 1 ∧
      sampleOperation.Authorized sampleExternals sampleClient := by
  have evaluated : (system sampleExternals sampleClient).run {} sampleOperations =
      some sampleOperation := rfl
  exact ⟨rfl, rfl, reachable_authorized (Transition.System.reachable_of_run rfl evaluated)⟩

end Operation

end Plank.Native
