import Plank.Transition.System

/-!
# The agent registry

`agent-registry.m`: the machine service keeps one exclusive lease among the graphical agents that
connect to it. Every block on its serial queue is one step. A controller is told of each event and
may call back into the registry inside it, so a step carries what the controller does in each of
them. What an observer keeps is a trace, newest first.
-/

namespace Plank.Agent

/-- `PLANKMacAgentPhase`. -/
inductive Phase where
  /-- `PLANKMacAgentUnavailable`. -/
  | unavailable
  /-- `PLANKMacAgentLoginWindow`. -/
  | loginWindow
  /-- `PLANKMacAgentDesktop`. -/
  | desktop
  deriving DecidableEq, Repr

/-- The phase an agent may register. -/
def Phase.ofWord (word : UInt64) : Option Phase :=
  if word = 1 then some .loginWindow else if word = 2 then some .desktop else none

/-- `PLANKMacAgentPeer`. -/
structure Peer where
  /-- `uid`. -/
  uid : UInt32
  /-- `pid`. -/
  pid : UInt32
  /-- `auditSession`. -/
  auditSession : UInt32
  deriving DecidableEq, Repr

/-- `PLANKMacAgentLease`. -/
structure Lease where
  /-- `peer`. -/
  peer : Peer
  /-- `phase`. -/
  phase : Phase
  /-- `generation`. -/
  generation : UInt64
  /-- `active`. -/
  active : Bool
  deriving DecidableEq, Repr

/-- `PLANKMacAgentLink`. A link has one lease at most, so the link names it. -/
structure Link where
  /-- `lease`. -/
  lease : Option Lease := none
  /-- `sequence`. -/
  sequence : UInt64 := 0
  /-- `created`. -/
  created : UInt64
  /-- `closed`. -/
  closed : Bool := false
  /-- `retired`. -/
  retired : Bool := false
  /-- `identityRequested`. -/
  identityRequested : Bool := false
  /-- `identityDeadline`. -/
  identityDeadline : UInt64 := 0
  deriving DecidableEq, Repr

/-- `PLANKMacAgentEvent`. -/
inductive Event where
  /-- `PLANKMacAgentAttached`. -/
  | attached
  /-- `PLANKMacAgentRevoked`. -/
  | revoked
  /-- `PLANKMacAgentRetired`. -/
  | retired
  /-- `PLANKMacAgentLost`. -/
  | lost
  deriving DecidableEq, Repr

/-- What an observer of the registry sees. -/
inductive Notice where
  /-- A link was given a lease of this generation. -/
  | granted (link : Nat) (generation : UInt64)
  /-- The controller was told of an event of a link's lease. -/
  | event (link : Nat) (event : Event)
  /-- `completeRetirement` freed the slot; whether the link was closed or retired before. -/
  | completed (link : Nat) (ended : Bool)
  /-- A link's message was accepted. -/
  | accepted (link : Nat) (operation generation sequence : UInt64)
  /-- A link was answered, with its generation where the status is 0. -/
  | replied (link : Nat) (status : UInt64) (generation : Option UInt64)
  /-- A link was sent the revocation of its lease. -/
  | pushed (link : Nat) (generation : UInt64)
  deriving DecidableEq, Repr

/-- What the controller calls inside an event, and inside the event that comes of it. -/
inductive Reaction where
  /-- Nothing more. -/
  | quiet
  /-- `completeRetirement` of a link's lease. -/
  | complete (link : Nat) (rest : Reaction)
  /-- `revoke`. -/
  | revoke (inner rest : Reaction)
  /-- `refresh`, with the scope it observes. -/
  | refresh (scope : Phase) (inner rest : Reaction)
  deriving DecidableEq, Repr

/-- A message of an agent, as far as the registry reads it. -/
structure Message where
  /-- Whether it is a dictionary. -/
  dictionary : Bool
  /-- Whether it can be answered. -/
  answerable : Bool
  /-- How many entries it has. -/
  count : Nat
  /-- `version`. -/
  version : Option UInt64 := none
  /-- `operation`. -/
  operation : Option UInt64 := none
  /-- `phase`. -/
  phase : Option UInt64 := none
  /-- `generation`. -/
  generation : Option UInt64 := none
  /-- `sequence`. -/
  sequence : Option UInt64 := none
  /-- The length of `csr`. -/
  csr : Option Nat := none
  deriving DecidableEq, Repr

/-- `PLANKMacAgentRegistry`. -/
structure Registry where
  /-- `_links`. -/
  links : List Nat := []
  /-- Every link there ever was. -/
  table : List Link := []
  /-- `_current`. -/
  current : Option Nat := none
  /-- `_stopped`. -/
  stopped : Bool := false
  /-- `_issuing`. -/
  issuing : Bool := false
  /-- Everything that was seen, newest first. -/
  trace : List Notice := []
  deriving DecidableEq, Repr

/-- `PLANK_MAC_IDENTITY_LINK_NS`. -/
def identityLinkTime : UInt64 := 15000000000

/-- How long a link may wait before it registers. -/
def registerTime : UInt64 := 5000000000

namespace Registry

/-- A link. -/
def link (registry : Registry) (index : Nat) : Link := registry.table.getD index { created := 0 }

/-- Change a link. -/
def setLink (registry : Registry) (index : Nat) (change : Link → Link) : Registry :=
  { registry with table := registry.table.modify index change }

/-- See something. -/
def notice (registry : Registry) (seen : Notice) : Registry :=
  { registry with trace := seen :: registry.trace }

/-- `_current.lease`. -/
def lease (registry : Registry) : Option Lease :=
  registry.current.bind fun index => (registry.link index).lease

/-- `_current.lease.active`. -/
def active (registry : Registry) : Bool := registry.lease.any Lease.active

/-- A link is closed and left. -/
def shut (registry : Registry) (index : Nat) : Registry :=
  { registry.setLink index fun link => { link with closed := true } with
    links := registry.links.erase index }

/-- `completeRetirement`. -/
def completeRetirement (registry : Registry) (index : Nat) : Registry :=
  if registry.current = some index && registry.lease.isSome && !registry.active then
    let link := registry.link index
    let freed := { registry with current := none }.notice
      (.completed index (link.closed || link.retired))
    if link.closed then freed else freed.shut index
  else registry

/-- The first part of `revoke`. -/
def beginRevoke (registry : Registry) : Registry :=
  match registry.current with
  | none => registry
  | some index =>
    (registry.setLink index fun link =>
      { link with lease := link.lease.map fun lease => { lease with active := false } }).notice
        (.event index .revoked)

/-- The last part of `revoke`. -/
def endRevoke (registry : Registry) : Registry :=
  match registry.current with
  | none => registry
  | some index =>
    match (registry.link index).lease with
    | none => registry
    | some lease =>
      if (registry.link index).closed then registry
      else registry.notice (.pushed index lease.generation)

/-- What the controller calls inside an event. -/
def react (registry : Registry) : Reaction → Registry
  | .quiet => registry
  | .complete index rest => (registry.completeRetirement index).react rest
  | .revoke inner rest =>
    (if registry.active then (registry.beginRevoke.react inner).endRevoke else registry).react rest
  | .refresh scope inner rest =>
    (if registry.active && registry.lease.any fun lease => scope ≠ lease.phase then
      (registry.beginRevoke.react inner).endRevoke
    else registry).react rest

/-- `revoke`. -/
def revoke (registry : Registry) (reaction : Reaction) : Registry :=
  if registry.active then (registry.beginRevoke.react reaction).endRevoke else registry

/-- `refresh`. -/
def refresh (registry : Registry) (scope : Phase) (reaction : Reaction) : Registry :=
  if registry.active && registry.lease.any fun lease => scope ≠ lease.phase then
    registry.revoke reaction
  else registry

/-- `close`. -/
def close (registry : Registry) (index : Nat) (controller : Event → Reaction) : Registry :=
  if (registry.link index).closed then registry
  else
    let registry := if registry.current = some index && registry.active then
      registry.revoke (controller .revoked) else registry
    let registry := registry.shut index
    if registry.current = some index && !(registry.link index).retired then
      (registry.notice (.event index .lost)).react (controller .lost)
    else registry

/-- `reply`. -/
def reply (registry : Registry) (index : Nat) (status : UInt64) : Registry :=
  registry.notice (.replied index status
    (if status = 0 then (registry.link index).lease.map Lease.generation else none))

/-- A lease is given. -/
def grant (registry : Registry) (index : Nat) (lease : Lease) (controller : Event → Reaction) :
    Registry :=
  let registry := ({ registry.setLink index fun link => { link with lease := some lease } with
    current := some index }.notice (.granted index lease.generation)).reply index 0
  if (registry.link index).lease.any Lease.active then
    (registry.notice (.event index .attached)).react (controller .attached)
  else registry

/-- Operation 1. -/
def register (registry : Registry) (index : Nat) (message : Message) (peer : Peer) (scope : Phase)
    (random : Option UInt64) (controller : Event → Reaction) : Registry :=
  if (registry.link index).lease.isSome || message.count ≠ 3 then registry.close index controller
  else
    match message.phase.bind Phase.ofWord with
    | none => registry.close index controller
    | some phase =>
      if scope ≠ phase then registry.close index controller
      else if registry.current.isSome then registry.reply index 1
      else
        match random with
        | none => registry.close index controller
        | some generation =>
          if generation = 0 then registry.close index controller
          else registry.grant index ⟨peer, phase, generation, true⟩ controller

/-- Operation 5. -/
def certify (registry : Registry) (index : Nat) (message : Message) (peer : Peer) (scope : Phase)
    (issuer : Bool) (now : UInt64) (controller : Event → Reaction) : Registry :=
  if (registry.link index).lease.isSome || registry.issuing || !issuer || message.count ≠ 3 ||
      !(message.csr.any fun length => 0 < length && length ≤ 16384) || peer.uid = 0 ||
      scope ≠ .desktop then registry.close index controller
  else
    { registry.setLink index fun link =>
        { link with identityRequested := true, identityDeadline := now + identityLinkTime } with
      issuing := true }

/-- Operations 2 and 3, and any other. -/
def operate (registry : Registry) (index : Nat) (operation : UInt64) (scope : Phase)
    (controller : Event → Reaction) : Registry :=
  if operation = 2 then
    let registry := registry.refresh scope (controller .revoked)
    registry.reply index (if (registry.link index).lease.any Lease.active then 0 else 2)
  else if operation = 3 && !(registry.link index).retired then
    let registry := (registry.revoke (controller .revoked)).setLink index fun link =>
      { link with retired := true }
    ((registry.reply index 2).notice (.event index .retired)).react (controller .retired)
  else registry.close index controller

/-- The checks of a message that needs a lease: its generation and sequence. -/
def checked (registry : Registry) (index : Nat) (message : Message) : Option (UInt64 × UInt64) :=
  match (registry.link index).lease, message.generation, message.sequence with
  | some lease, some generation, some sequence =>
    if registry.current ≠ some index || message.count ≠ 4 || generation ≠ lease.generation ||
        (registry.link index).sequence = 0xffffffffffffffff ||
        sequence ≠ (registry.link index).sequence + 1 then none
    else some (generation, sequence)
  | _, _, _ => none

/-- `receive`. -/
def receive (registry : Registry) (index : Nat) (message : Message) (peer : Peer) (scope : Phase)
    (random : Option UInt64) (issuer : Bool) (now : UInt64) (controller : Event → Reaction) :
    Registry :=
  if (registry.link index).closed || registry.stopped then registry
  else if (registry.link index).identityRequested || !message.dictionary || !message.answerable ||
      message.version ≠ some 1 then registry.close index controller
  else
    match message.operation with
    | none => registry.close index controller
    | some operation =>
      if operation = 5 then registry.certify index message peer scope issuer now controller
      else if operation = 1 then registry.register index message peer scope random controller
      else
        match registry.checked index message with
        | none => registry.close index controller
        | some (generation, sequence) =>
          let registry := (registry.setLink index fun link => { link with sequence }).notice
            (.accepted index operation generation sequence)
          registry.operate index operation scope controller

/-- The end of an issuance. -/
def issued (registry : Registry) (index : Nat) (valid : Bool) (scope : Phase) (now : UInt64)
    (controller : Event → Reaction) : Registry :=
  let registry := { registry with issuing := false }
  if (registry.link index).closed || registry.stopped then registry
  else if (registry.link index).identityDeadline ≤ now || scope ≠ .desktop || !valid then
    registry.close index controller
  else registry

/-- Whether the watch closes a link. -/
def stale (registry : Registry) (now : UInt64) (index : Nat) : Bool :=
  let link := registry.link index
  link.lease.isNone &&
    if link.identityRequested then link.identityDeadline ≤ now
    else registerTime ≤ now - link.created

/-- The watch. -/
def watch (registry : Registry) (scope : Phase) (now : UInt64) (controller : Event → Reaction) :
    Registry :=
  let registry := registry.refresh scope (controller .revoked)
  registry.links.foldl (fun registry index =>
    if registry.stale now index then registry.close index controller else registry) registry

/-- `accept`; whether the signing requirement could be set. -/
def accept (registry : Registry) (required : Bool) (now : UInt64) : Registry :=
  if registry.stopped || 4 ≤ registry.links.length || !required then registry
  else
    { registry with
      links := registry.links ++ [registry.table.length]
      table := registry.table ++ [{ created := now }] }

/-- `stop`. -/
def stop (registry : Registry) (controller : Event → Reaction) : Registry :=
  if registry.stopped then registry
  else
    let registry := { registry with stopped := true }.revoke (controller .revoked)
    registry.links.foldl (fun registry index => registry.close index controller) registry

end Registry

/-- What happens next on the queue of the registry. -/
inductive Action where
  /-- A peer connects. -/
  | accept (required : Bool) (now : UInt64)
  /-- A link has a message, or its connection an error. -/
  | receive (index : Nat) (message : Message) (peer : Peer) (scope : Phase)
    (random : Option UInt64) (issuer : Bool) (now : UInt64) (controller : Event → Reaction)
  /-- An issuance ends. -/
  | issued (index : Nat) (valid : Bool) (scope : Phase) (now : UInt64)
    (controller : Event → Reaction)
  /-- The watch fires. -/
  | watch (scope : Phase) (now : UInt64) (controller : Event → Reaction)
  /-- The controller calls `revoke`. -/
  | revoke (reaction : Reaction)
  /-- The controller calls `refresh`. -/
  | refresh (scope : Phase) (reaction : Reaction)
  /-- The controller calls `completeRetirement`. -/
  | complete (index : Nat)
  /-- The controller calls `stop`. -/
  | stop (controller : Event → Reaction)

namespace Registry

/-- One block on the queue. -/
def step (registry : Registry) : Action → Option Registry
  | .accept required now => some (registry.accept required now)
  | .receive index message peer scope random issuer now controller =>
    if index < registry.table.length then
      some (registry.receive index message peer scope random issuer now controller)
    else none
  | .issued index valid scope now controller =>
    if registry.issuing && (registry.link index).identityRequested then
      some (registry.issued index valid scope now controller)
    else none
  | .watch scope now controller =>
    if registry.stopped then none else some (registry.watch scope now controller)
  | .revoke reaction => some (registry.revoke reaction)
  | .refresh scope reaction => some (registry.refresh scope reaction)
  | .complete index => some (registry.completeRetirement index)
  | .stop controller => some (registry.stop controller)

/-- Every interleaving. -/
def system : Transition.System Registry Action where
  initial registry := registry = {}
  step := step

end Registry

end Plank.Agent
