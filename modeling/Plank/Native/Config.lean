import Plank.Transport.Result

/-!
# Endpoint configuration

`config.rs` validates the configuration of an endpoint before it is created. A C string is
nothing where the pointer is null, else its bytes without the terminator. The standard library's
parser of socket addresses and the `hex` crate stand as parameters; the rest is the source's.
-/

namespace Plank.Native

open Transport (bind_ok ite_error_ok)

/-- `ABI_VERSION`. -/
def abiVersion : UInt32 := 13
/-- Size of `PlankTransportConfig` where pointers have eight bytes. -/
def configSize : UInt32 := 96
/-- `DEFAULT_HANDSHAKE_TIMEOUT_MS`. -/
def defaultHandshakeTimeoutMs : UInt32 := 10000
/-- `DEFAULT_IDLE_TIMEOUT_MS`. -/
def defaultIdleTimeoutMs : UInt32 := 10000
/-- `DEFAULT_KEEP_ALIVE_INTERVAL_MS`. -/
def defaultKeepAliveIntervalMs : UInt32 := 2000
/-- `MAX_ADDRESS_LENGTH`. -/
def maxAddressLength : Nat := 512
/-- `MAX_SERVER_NAME_LENGTH`. -/
def maxServerNameLength : Nat := 253
/-- `MAX_PATH_LENGTH`. -/
def maxPathLength : Nat := 4096
/-- `MAX_TOKEN_LENGTH`. -/
def maxTokenLength : Nat := 1024

/-- A C string: nothing for a null pointer. -/
abbrev CString := Option (List UInt8)

/-- `PlankTransportConfig`. -/
structure Config where
  /-- Size the caller compiled with. -/
  structSize : UInt32
  /-- Version the caller compiled with. -/
  abiVersion : UInt32
  /-- One for a server, two for a client. -/
  mode : UInt32
  /-- Zero selects the default. -/
  handshakeTimeoutMs : UInt32 := 0
  /-- Zero selects the default. -/
  idleTimeoutMs : UInt32 := 0
  /-- Zero selects the default. -/
  keepAliveIntervalMs : UInt32 := 0
  /-- One for a setup session. -/
  sessionMode : UInt32 := 0
  /-- Zero leaves the size to the transport. -/
  maxUdpPayloadSize : UInt32 := 0
  /-- Bit rate before the first request. -/
  initialVideoBitrateKbps : UInt32 := 0
  /-- Address of a server. -/
  bindAddress : CString := none
  /-- Address a client connects to. -/
  remoteAddress : CString := none
  /-- Name of the server a client connects to. -/
  serverName : CString := none
  /-- Certificate of a server. -/
  certificatePath : CString := none
  /-- Private key of a server. -/
  privateKeyPath : CString := none
  /-- Fingerprint a client pins, in hexadecimal. -/
  certificateSha256 : CString := none
  /-- Token of the session. -/
  sessionToken : CString := none

/-- `RuntimeOptions`, with durations in milliseconds. -/
structure RuntimeOptions where
  /-- Longest handshake. -/
  handshakeTimeout : Nat
  /-- Longest silence. -/
  idleTimeout : Nat
  /-- Time between two keep-alive packets. -/
  keepAliveInterval : Nat
  /-- Largest payload of a datagram. -/
  maxUdpPayloadSize : Option UInt16
  /-- Bit rate before the first request. -/
  initialVideoBitrateBps : UInt64
  deriving DecidableEq, Repr

/-- `EndpointConfig`, over the type of socket addresses. -/
inductive EndpointConfig (Address : Type) where
  /-- A server. -/
  | server (bindAddress : Address) (certificatePath privateKeyPath sessionToken : String)
      (setupMode : Bool) (options : RuntimeOptions)
  /-- A client. -/
  | client (remoteAddress : Address) (serverName : String) (certificateSha256 : Option String)
      (sessionToken : String) (setupMode : Bool) (options : RuntimeOptions)
  deriving DecidableEq, Repr

/-- Code outside the repository that a configuration passes through. -/
structure Externals (Address : Type) where
  /-- The parser of socket addresses. -/
  parseAddress : String → Option Address
  /-- `hex::decode`. -/
  hexDecode : String → Option (List UInt8)
  /-- The SHA-256 of a certificate. -/
  sha256 : List UInt8 → List UInt8

/-- `required_string`. -/
def requiredString (value : CString) (field : String) (maximum : Nat) : Except String String :=
  match value with
  | none => .error (field ++ " is required")
  | some bytes =>
    if bytes = [] || maximum < bytes.length then .error (field ++ " length is invalid")
    else
      match String.fromUTF8? ⟨bytes.toArray⟩ with
      | none => .error (field ++ " is not UTF-8")
      | some text => .ok text

/-- `configured_duration`. -/
def configuredDuration (valueMs defaultMs : UInt32) (field : String) : Except String Nat :=
  let valueMs := if valueMs = 0 then defaultMs else valueMs
  if 100 ≤ valueMs.toNat && valueMs.toNat ≤ 120000 then .ok valueMs.toNat
  else .error (field ++ " must be between 100 and 120000 milliseconds")

/-- `configured_max_udp_payload_size`. -/
def configuredMaxUdpPayloadSize (value : UInt32) : Except String (Option UInt16) :=
  if value = 0 then .ok none
  else if 1200 ≤ value.toNat && value.toNat ≤ 65527 then .ok (some value.toUInt16)
  else .error "max_udp_payload_size must be zero or between 1200 and 65527 bytes"

/-- An option with the error for its absence. -/
def orError {α : Type} (value : Option α) (error : String) : Except String α :=
  match value with
  | none => .error error
  | some value => .ok value

section Parse

variable {Address : Type} (externals : Externals Address)

/-- The options part of `parse_config`. -/
def parseOptions (config : Config) : Except String RuntimeOptions := do
  let handshakeTimeout ← configuredDuration config.handshakeTimeoutMs defaultHandshakeTimeoutMs
    "handshake_timeout_ms"
  let idleTimeout ← configuredDuration config.idleTimeoutMs defaultIdleTimeoutMs "idle_timeout_ms"
  let keepAliveInterval ← configuredDuration config.keepAliveIntervalMs defaultKeepAliveIntervalMs
    "keep_alive_interval_ms"
  let maxUdpPayloadSize ← configuredMaxUdpPayloadSize config.maxUdpPayloadSize
  -- a thousand times a value of 32 bits fits 64, so the multiplication never saturates
  let initialVideoBitrateBps := config.initialVideoBitrateKbps.toUInt64 * 1000
  return ⟨handshakeTimeout, idleTimeout, keepAliveInterval, maxUdpPayloadSize,
    initialVideoBitrateBps⟩

/-- The fingerprint part of `parse_config`. -/
def parseFingerprint (value : CString) : Except String (Option String) :=
  if value = none then .ok none
  else do
    let text ← requiredString value "certificate_sha256" 64
    let decoded ← orError (externals.hexDecode text) "certificate_sha256 is not valid hexadecimal"
    if decoded.length ≠ 32 then .error "certificate_sha256 must contain exactly 32 bytes"
    else .ok (some text)

/-- The server part of `parse_config`. -/
def parseServer (config : Config) (setupMode : Bool) (options : RuntimeOptions) :
    Except String (EndpointConfig Address) := do
  let address ← requiredString config.bindAddress "bind_address" maxAddressLength
  let bindAddress ← orError (externals.parseAddress address) "bind_address is not a socket address"
  let certificatePath ← requiredString config.certificatePath "certificate_path" maxPathLength
  let privateKeyPath ← requiredString config.privateKeyPath "private_key_path" maxPathLength
  let sessionToken ← requiredString config.sessionToken "session_token" maxTokenLength
  return .server bindAddress certificatePath privateKeyPath sessionToken setupMode options

/-- The client part of `parse_config`. -/
def parseClient (config : Config) (setupMode : Bool) (options : RuntimeOptions) :
    Except String (EndpointConfig Address) := do
  let address ← requiredString config.remoteAddress "remote_address" maxAddressLength
  let remoteAddress ←
    orError (externals.parseAddress address) "remote_address is not a socket address"
  let serverName ← requiredString config.serverName "server_name" maxServerNameLength
  let certificateSha256 ← parseFingerprint externals config.certificateSha256
  let sessionToken ← requiredString config.sessionToken "session_token" maxTokenLength
  return .client remoteAddress serverName certificateSha256 sessionToken setupMode options

/-- `parse_config`. -/
def parseConfig (config : Option Config) : Except String (EndpointConfig Address) :=
  match config with
  | none => .error "config is required"
  | some config =>
    if config.structSize ≠ configSize then .error "config structure size mismatch"
    else if config.abiVersion ≠ abiVersion then
      .error ("unsupported ABI version " ++ toString config.abiVersion)
    else do
      let options ← parseOptions config
      if 1 < config.sessionMode then
        .error ("unsupported session_mode " ++ toString config.sessionMode)
      else if options.idleTimeout ≤ options.keepAliveInterval then
        .error "keep_alive_interval_ms must be less than idle_timeout_ms"
      else if config.mode = 1 then parseServer externals config (config.sessionMode = 1) options
      else if config.mode = 2 then parseClient externals config (config.sessionMode = 1) options
      else .error ("unsupported endpoint mode " ++ toString config.mode)

end Parse

namespace EndpointConfig

variable {Address : Type}

/-- The options of either side. -/
def options : EndpointConfig Address → RuntimeOptions
  | .server _ _ _ _ _ options => options
  | .client _ _ _ _ _ options => options

/-- The mode that `plank_transport_native_endpoint_create` stores. -/
@[simp]
def mode : EndpointConfig Address → Nat
  | .server .. => 1
  | .client .. => 2

/-- The approval flag that `plank_transport_native_endpoint_create` stores. -/
@[simp]
def approvalRequired : EndpointConfig Address → Bool
  | .server .. => false
  | .client _ _ certificateSha256 _ _ _ => certificateSha256.isNone

/-- Whether the session begins with setup. -/
@[simp]
def setupMode : EndpointConfig Address → Bool
  | .server _ _ _ _ setupMode _ => setupMode
  | .client _ _ _ _ setupMode _ => setupMode

/-- The fingerprint a client pins. -/
@[simp]
def pin : EndpointConfig Address → Option String
  | .server .. => none
  | .client _ _ certificateSha256 _ _ _ => certificateSha256

end EndpointConfig

/-- What the runtime relies on. -/
structure RuntimeOptions.Valid (options : RuntimeOptions) : Prop where
  /-- The handshake ends. -/
  handshake : 100 ≤ options.handshakeTimeout ∧ options.handshakeTimeout ≤ 120000
  /-- Silence ends the session. -/
  idle : 100 ≤ options.idleTimeout ∧ options.idleTimeout ≤ 120000
  /-- Keep-alive packets are sent before that. -/
  keepAlive : 100 ≤ options.keepAliveInterval ∧ options.keepAliveInterval < options.idleTimeout
  /-- A configured datagram size is one a path can carry. -/
  payload : ∀ size, options.maxUdpPayloadSize = some size →
    1200 ≤ size.toNat ∧ size.toNat ≤ 65527

section Accepted

variable {Address : Type} {externals : Externals Address}

/-- An accepted duration is between a tenth of a second and two minutes. -/
theorem configuredDuration_bounds {valueMs defaultMs : UInt32} {field : String} {duration : Nat}
    (accepted : configuredDuration valueMs defaultMs field = .ok duration) :
    100 ≤ duration ∧ duration ≤ 120000 := by
  unfold configuredDuration at accepted
  dsimp only at accepted
  generalize (if valueMs = 0 then defaultMs else valueMs) = chosen at accepted
  split at accepted
  · rename_i bounds
    obtain rfl := Except.ok.inj accepted
    simpa using bounds
  · cases accepted

/-- An accepted datagram size is left to the transport or in its range. -/
theorem configuredMaxUdpPayloadSize_bounds {value : UInt32} {size : UInt16}
    (accepted : configuredMaxUdpPayloadSize value = .ok (some size)) :
    1200 ≤ size.toNat ∧ size.toNat ≤ 65527 := by
  unfold configuredMaxUdpPayloadSize at accepted
  split at accepted
  · cases accepted
  · split at accepted
    · rename_i bounds
      have same : value.toUInt16 = size := Option.some.inj (Except.ok.inj accepted)
      have bounded : 1200 ≤ value.toNat ∧ value.toNat ≤ 65527 := by simpa using bounds
      have kept : size.toNat = value.toNat := by
        rw [← same, UInt32.toNat_toUInt16]
        omega
      omega
    · cases accepted

/-- A configured fingerprint is kept as written, and decodes to 32 bytes. -/
theorem parseFingerprint_decodes {value : CString} {pin : Option String}
    (accepted : parseFingerprint externals value = .ok pin) :
    (value = none ↔ pin = none) ∧ ∀ text, pin = some text →
      ∃ fingerprint, externals.hexDecode text = some fingerprint ∧ fingerprint.length = 32 := by
  unfold parseFingerprint at accepted
  split at accepted
  · rename_i absent
    obtain rfl := Except.ok.inj accepted
    simp [absent]
  · rename_i present
    obtain ⟨text, read, accepted⟩ := bind_ok accepted
    obtain ⟨fingerprint, decoded, accepted⟩ := bind_ok accepted
    obtain ⟨length, accepted⟩ := ite_error_ok accepted
    obtain rfl := Except.ok.inj accepted
    refine ⟨by simp [present], ?_⟩
    intro other same
    obtain rfl := Option.some.inj same
    refine ⟨fingerprint, ?_, by omega⟩
    cases found : externals.hexDecode text with
    | none => rw [found] at decoded; cases decoded
    | some bytes =>
      rw [found] at decoded
      exact congrArg some (Except.ok.inj decoded)

/-- Parsed options satisfy all but the order of the two intervals. -/
theorem parseOptions_bounds {config : Config} {options : RuntimeOptions}
    (accepted : parseOptions config = .ok options)
    (ordered : options.keepAliveInterval < options.idleTimeout) : options.Valid := by
  obtain ⟨handshake, first, accepted⟩ := bind_ok accepted
  obtain ⟨idle, second, accepted⟩ := bind_ok accepted
  obtain ⟨keepAlive, third, accepted⟩ := bind_ok accepted
  obtain ⟨payload, fourth, accepted⟩ := bind_ok accepted
  obtain rfl := Except.ok.inj accepted
  constructor
  · exact configuredDuration_bounds first
  · exact configuredDuration_bounds second
  · exact ⟨(configuredDuration_bounds third).1, ordered⟩
  · rintro size rfl
    exact configuredMaxUdpPayloadSize_bounds fourth

/-- What `parse_config` accepts has valid options and, where it pins a certificate, a fingerprint
of 32 bytes. -/
theorem parseConfig_valid {config : Option Config} {parsed : EndpointConfig Address}
    (accepted : parseConfig externals config = .ok parsed) :
    parsed.options.Valid ∧ ∀ text, parsed.pin = some text →
      ∃ fingerprint, externals.hexDecode text = some fingerprint ∧ fingerprint.length = 32 := by
  cases config with
  | none => cases accepted
  | some config =>
    obtain ⟨_, accepted⟩ := ite_error_ok accepted
    obtain ⟨_, accepted⟩ := ite_error_ok accepted
    obtain ⟨options, parsedOptions, accepted⟩ := bind_ok accepted
    obtain ⟨_, accepted⟩ := ite_error_ok accepted
    obtain ⟨ordered, accepted⟩ := ite_error_ok accepted
    have valid : options.Valid := parseOptions_bounds parsedOptions (by omega)
    split at accepted
    · obtain ⟨_, _, accepted⟩ := bind_ok accepted
      obtain ⟨_, _, accepted⟩ := bind_ok accepted
      obtain ⟨_, _, accepted⟩ := bind_ok accepted
      obtain ⟨_, _, accepted⟩ := bind_ok accepted
      obtain ⟨_, _, accepted⟩ := bind_ok accepted
      obtain rfl := Except.ok.inj accepted
      exact ⟨valid, by simp⟩
    · split at accepted
      · obtain ⟨_, _, accepted⟩ := bind_ok accepted
        obtain ⟨_, _, accepted⟩ := bind_ok accepted
        obtain ⟨_, _, accepted⟩ := bind_ok accepted
        obtain ⟨pin, fingerprint, accepted⟩ := bind_ok accepted
        obtain ⟨_, _, accepted⟩ := bind_ok accepted
        obtain rfl := Except.ok.inj accepted
        exact ⟨valid, (parseFingerprint_decodes fingerprint).2⟩
      · cases accepted

end Accepted

end Plank.Native
