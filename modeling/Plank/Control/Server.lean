import Plank.Auth.Credential

/-!
# The control server

`https-auth-server.m`: HTTPS requests are received and answered on a serial network queue, and
operations on the authentication session run on a serial authentication lane. A block that is
dispatched waits in the list of its queue; a block of the lane runs in stages, one for each
locked call of the session and each call of a handler, so that the network queue and the other
users of the session can run in between. What a handler, the verifier, the network or the parser
answers is chosen by the label of a step, as are the clock readings, snapshots and random bytes
of the session.
-/

namespace Plank.Control

open Plank.Auth (Text Peer GraphicalIdentity AccountIdentity Verdict Response Credential)

/-- Which optional parts of the server are present. -/
structure Handlers where
  /-- `_launch`. -/
  launch : Bool
  /-- `prepareDisplay`. -/
  prepareDisplay : Bool
  /-- `negotiateMedia`. -/
  negotiateMedia : Bool
  /-- `_serverInformationXML`. -/
  serverInformation : Bool
  deriving DecidableEq, Repr

/-- The targets of a `GET` request that the server knows. -/
inductive Target where
  /-- `PLANKMacIsServerInformationTarget`. -/
  | information
  /-- `PLANKMacIsTopologyTarget`. -/
  | topology
  /-- `PLANKMacIsDesktopTarget`. -/
  | desktop
  deriving DecidableEq, Repr

/-- The paths of a request with a body that the server knows. -/
inductive Path where
  /-- `/plank/auth/start`. -/
  | start
  /-- `/plank/auth/respond`. -/
  | respond
  /-- `/plank/launch`. -/
  | launch
  /-- `/plank/display`. -/
  | display
  /-- `/plank/negotiate`. -/
  | negotiate
  deriving DecidableEq, Repr

/-- A decoded body, as far as `handlePath` distinguishes it. -/
inductive Value where
  /-- Not a dictionary. -/
  | other
  /-- A dictionary of one string `username`. -/
  | username (name : List UInt8)
  /-- A dictionary of a string `conversation_id` and one string in `responses`. -/
  | responses (conversation : Text)
  /-- Any other dictionary. -/
  | dictionary
  deriving DecidableEq, Repr

/-- What a receive callback finds. -/
inductive Received where
  /-- The receive failed. -/
  | error
  /-- `PLANKMacHTTPInvalid`. -/
  | invalid
  /-- More bytes are needed; `complete` is whether the peer sends no more. -/
  | incomplete (complete : Bool)
  /-- A complete `GET` request. -/
  | get (target : Option Target) (authorization : Text)
  /-- A complete request with a body. -/
  | post (path : Option Path) (value : Value) (authorization : Text)
  deriving DecidableEq, Repr

/-- `PLANKMacHTTPSRequest`. -/
structure Request where
  /-- Address of the peer. -/
  peer : Peer := []
  /-- Whether the request is in `_requests`. -/
  admitted : Bool := false
  /-- Whether a receive of request bytes is outstanding. -/
  receiving : Bool := false
  /-- Whether the end of the connection is awaited after a reply. -/
  awaiting : Bool := false
  /-- Whether the request is finished. -/
  finished : Bool := false
  /-- The flag the lane reads; stored with `finished`. -/
  cancelled : Bool := false
  /-- Whether a complete request was taken. -/
  dispatched : Bool := false
  /-- Nanosecond from which the request is late. -/
  deadline : Nat := 0
  deriving DecidableEq, Repr

/-- `finish`. -/
def Request.finish (request : Request) : Request :=
  if request.finished then request else { request with finished := true, cancelled := true }

/-- A reply, with the token that is revoked when it cannot be handed over. `origin` is no data
of the source: it names the token a response created or an authorized operation used. -/
structure Answer where
  /-- Request answered. -/
  request : Nat
  /-- HTTP status. -/
  status : Nat
  /-- Argument `token` of `replyBytes`. -/
  token : Option Text := none
  /-- Token created or used by the operation answered. -/
  origin : Option Credential := none
  deriving DecidableEq, Repr

/-- A block waiting on the network queue. -/
inductive NetworkBlock where
  /-- Reply to a request with a body. -/
  | reply (answer : Answer)
  /-- Reply to a `GET` request and clear `_authBusy`. -/
  | served (answer : Answer)
  /-- Clear `_authBusy`. -/
  | clearBusy
  /-- The block of `stopWithCompletion`. -/
  | stop
  deriving DecidableEq, Repr

/-- A block waiting on the authentication lane. -/
inductive LaneBlock where
  /-- The block of a `GET` request. -/
  | read (request : Nat) (target : Target) (authorization : Text)
  /-- `handlePath`. -/
  | handle (request : Nat) (path : Path) (value : Value) (authorization : Text)
  /-- `revokeToken` after a reply that could not be handed over. -/
  | revokeToken (token : Text)
  /-- `revokeAll` of `stopWithCompletion`. -/
  | revokeAll
  deriving DecidableEq, Repr

/-- What the reply of a handler says, as far as the server reads it. -/
structure HandlerReply where
  /-- Whether `error` is `session_active`. -/
  active : Bool := false
  /-- The entry `session_token`, which no handler sets. -/
  sessionToken : Option Text := none
  deriving DecidableEq, Repr

/-- Where the operation running on the lane stands. -/
inductive Stage where
  /-- `handlePath` begins. -/
  | handling (path : Path) (value : Value) (authorization : Text)
  /-- `respondForPeer` waits for the verifier. -/
  | verifying
  /-- `respondForPeer` decided, or raised; its last block is to come. -/
  | decided (answer : Option (Response × Option Credential))
  /-- The handler runs for an authorized token. -/
  | operating (path : Path) (credential : Credential)
  /-- The handler returned. -/
  | handled (path : Path) (credential : Credential) (status : Nat) (reply : HandlerReply)
  /-- The `@finally` block of `handlePath` is to come. -/
  | leaving
  /-- The block of a `GET` request begins. -/
  | reading (target : Target) (authorization : Text)
  /-- The topology is looked up for an authorized token. -/
  | looking (target : Target) (setupToken : Option Credential) (token : Text)
    (before : AccountIdentity)
  /-- The `@finally` block of a `GET` request is to come. `threw` is no data of the source. -/
  | looked (target : Target) (setupToken : Option Credential) (status : Nat) (authorized : Bool)
    (threw : Bool)
  deriving DecidableEq, Repr

/-- The operation running on the lane. -/
structure Running where
  /-- Its request. -/
  request : Nat
  /-- Where it stands. -/
  stage : Stage
  deriving DecidableEq, Repr

/-- How an authorized operation ended; written down by an observer. -/
inductive Outcome where
  /-- The handler of the path returned. -/
  | handled (path : Path) (status : Nat) (active : Bool)
  /-- A topology was looked up. -/
  | read (status : Nat)
  /-- An exception was raised. -/
  | threw
  deriving DecidableEq, Repr

/-- An authorized operation that ended; written down by an observer. -/
structure Ended where
  /-- The token it was authorized with. -/
  credential : Credential
  /-- How it ended. -/
  outcome : Outcome
  /-- Whether its request was cancelled. -/
  cancelled : Bool
  /-- Whether its request was past the deadline. -/
  late : Bool
  deriving DecidableEq, Repr

/-- The server with its queues and its session. The last three fields are an observer's. -/
structure Server where
  /-- `_sessions`. -/
  session : Auth.Session := {}
  /-- `CLOCK_MONOTONIC`, in nanoseconds. -/
  clock : Nat := 0
  /-- Number of connections accepted. -/
  accepted : Nat := 0
  /-- Every request object. -/
  requests : Nat → Request := fun _ => {}
  /-- `_stopped`. -/
  stopped : Bool := false
  /-- `_authBusy`. -/
  authBusy : Bool := false
  /-- Blocks waiting on the network queue, first first. -/
  network : List NetworkBlock := []
  /-- Blocks waiting on the authentication lane, first first. -/
  lane : List LaneBlock := []
  /-- Operation running on the lane. -/
  running : Option Running := none
  /-- Replies being sent. -/
  sending : List Answer := []
  /-- Whether the `revokeAll` of a stop ran. -/
  revoked : Bool := false
  /-- Tokens whose reply could not be handed over. -/
  lost : List Credential := []
  /-- Authorized operations that ended. -/
  ended : List Ended := []

/-- What one call of the session reads of the clock, the snapshot and the random bytes. -/
structure Reading where
  /-- Seconds before the first clock reading. -/
  wait : Nat := 0
  /-- Seconds before the second. -/
  pause : Nat := 0
  /-- Seconds before the third. -/
  rest : Nat := 0
  /-- Snapshot read first. -/
  current : GraphicalIdentity := {}
  /-- Snapshot read second. -/
  again : GraphicalIdentity := {}
  /-- Snapshot read third. -/
  third : GraphicalIdentity := {}
  /-- Random token drawn. -/
  random : Option Text := none
  deriving DecidableEq, Repr

/-- Everything that can happen next. -/
inductive Label where
  /-- Time passes. -/
  | wait (elapsed : Nat)
  /-- A connection arrives; `peer` is its address, if it has one. -/
  | accept (peer : Option Peer)
  /-- A connection is ready. -/
  | ready (request : Nat)
  /-- A receive callback runs. -/
  | received (request : Nat) (event : Received)
  /-- A send completes. -/
  | sent (index : Nat) (error : Bool)
  /-- The connection of an answered request ends. -/
  | closed (request : Nat)
  /-- A connection fails. -/
  | failed (request : Nat)
  /-- The cancellation of a connection is confirmed. -/
  | cancelled (request : Nat)
  /-- The watchdog fires. -/
  | expire
  /-- `stop` is called. -/
  | stop
  /-- The network queue runs its next block. -/
  | network
  /-- The lane takes its next block. -/
  | dequeue
  /-- An operation runs up to its handler or its verifier. -/
  | enter (reading : Reading)
  /-- The verifier answers and the response is decided. -/
  | verified (verdict : Verdict) (account : AccountIdentity) (reading : Reading)
  /-- The verifier raises an exception. -/
  | verifierRaised
  /-- The last block of `respondForPeer`. -/
  | respondFinally
  /-- The launch handler claims the token it was given. -/
  | claim (reading : Reading)
  /-- The handler of a path returns. -/
  | handled (status : Nat) (reply : Option HandlerReply) (reading : Reading)
  /-- The topology was looked up; `topology` is whether there is one. -/
  | looked (topology : Bool) (reading : Reading)
  /-- An operation raises an exception. -/
  | raise
  /-- An operation ends: it may be revoked, and its reply is dispatched. -/
  | conclude
  /-- The `@finally` block of `handlePath`. -/
  | leave
  /-- Another thread calls the session. -/
  | session (action : Auth.Action)

/-- `Bearer `. -/
def bearer : Text := [66, 101, 97, 114, 101, 114, 32]

/-- The token of an authorization header. -/
def bearerToken (authorization : Text) : Option Text :=
  if authorization.take 7 = bearer ∧ authorization.length = 51 then some (authorization.drop 7)
  else none

/-- Whether the server handles a path. -/
def Handlers.handle (handlers : Handlers) : Path → Bool
  | .start | .respond => true
  | .launch => handlers.launch
  | .display => handlers.prepareDisplay
  | .negotiate => handlers.negotiateMedia

/-- `readinessPending`: an authorized display that may be polled again. -/
def readinessPending (path : Path) (status : Nat) (reply : HandlerReply) : Bool :=
  path = .display && (status = 503 || (status = 409 && reply.active))

namespace Server

/-- Change one request. -/
def update (server : Server) (id : Nat) (change : Request → Request) : Server :=
  { server with
    requests := fun other =>
      if other = id then change (server.requests id) else server.requests other }

/-- `finish`. -/
def finish (server : Server) (id : Nat) : Server := server.update id Request.finish

/-- `finish` for each request of `_requests` that a test selects. -/
def finishAll (server : Server) (selected : Request → Bool) : Server :=
  { server with
    requests := fun id =>
      let request := server.requests id
      if request.admitted && selected request then request.finish else request }

/-- A reply was not handed over: its token goes to the lane to be revoked. -/
def undeliverable (server : Server) (answer : Answer) : Server :=
  { server with
    lane := server.lane ++ (answer.token.map LaneBlock.revokeToken).toList
    lost := answer.origin.toList ++ server.lost }

/-- `replyBytes`. -/
def replyBytes (server : Server) (answer : Answer) : Server :=
  if (server.requests answer.request).finished then server.undeliverable answer
  else { server with sending := server.sending ++ [answer] }

/-- `reply` with a denial or the public server information, which carry no token. -/
def replyPlain (server : Server) (id status : Nat) : Server :=
  server.replyBytes { request := id, status }

/-- The completion of a send. -/
def sent (server : Server) (answer : Answer) (error : Bool) : Server :=
  let server := if error then server.undeliverable answer else server
  if (server.requests answer.request).finished then server
  else if error then server.finish answer.request
  else server.update answer.request fun request => { request with awaiting := true }

/-- `accept`. -/
def accept (server : Server) (peer : Option Peer) : Server :=
  let admitted := (List.range server.accepted).filter fun id => (server.requests id).admitted
  if server.stopped || admitted.length ≥ 8 then server
  else
    match peer with
    | none => server
    | some peer =>
      { server.update server.accepted fun _ =>
          { peer, admitted := true, deadline := server.clock + 5000000000 } with
        accepted := server.accepted + 1 }

/-- `receive`. -/
def receive (server : Server) (id : Nat) : Server :=
  let request := server.requests id
  if request.finished || request.dispatched then server
  else server.update id fun request => { request with receiving := true }

/-- A complete request goes to the lane. -/
def dispatchAuth (server : Server) (block : LaneBlock) : Server :=
  { server with authBusy := true, lane := server.lane ++ [block] }

/-- A complete `GET` request. -/
def receivedGet (handlers : Handlers) (server : Server) (id : Nat) (target : Option Target)
    (authorization : Text) : Server :=
  match target with
  | none => server.replyPlain id 404
  | some target =>
    if target = .information && !handlers.serverInformation then server.replyPlain id 404
    else if target = .information && authorization = [] then server.replyPlain id 200
    else if server.authBusy then server.replyPlain id 503
    else server.dispatchAuth (.read id target authorization)

/-- A complete request with a body. -/
def receivedPost (handlers : Handlers) (server : Server) (id : Nat) (path : Option Path)
    (value : Value) (authorization : Text) : Server :=
  if server.authBusy then server.replyPlain id 503
  else
    match path with
    | none => server.replyPlain id 404
    | some path =>
      if !handlers.handle path then server.replyPlain id 404
      else
        -- only a complete display operation gets time for the display to change
        let server := if path = .display then
          server.update id fun request => { request with deadline := server.clock + 10000000000 }
          else server
        server.dispatchAuth (.handle id path value authorization)

/-- The receive callback. -/
def received (handlers : Handlers) (server : Server) (id : Nat) (event : Received) : Server :=
  if (server.requests id).finished then server
  else
    match event with
    | .error => server.finish id
    | .invalid => server.replyPlain id 400
    | .incomplete true => server.finish id
    | .incomplete false => server.receive id
    | .get target authorization =>
      receivedGet handlers (server.update id fun request => { request with dispatched := true })
        id target authorization
    | .post path value authorization =>
      receivedPost handlers (server.update id fun request => { request with dispatched := true })
        id path value authorization

/-- The block of `stopWithCompletion`. -/
def stop (server : Server) : Server :=
  { server.finishAll fun _ => true with
    stopped := true, lane := server.lane ++ [.revokeAll] }

/-- One block of the network queue. -/
def runNetwork (server : Server) : NetworkBlock → Server
  | .reply answer => server.replyBytes answer
  | .served answer => { server.replyBytes answer with authBusy := false }
  | .clearBusy => { server with authBusy := false }
  | .stop => server.stop

/-- One call of the session. -/
def call (server : Server) (action : Auth.Action) : Option Server :=
  (server.session.step action).map fun session => { server with session }

/-- The running operation goes on. -/
def proceed (server : Server) (id : Nat) (stage : Stage) : Server :=
  { server with running := some ⟨id, stage⟩ }

/-- The lane takes a block; the two revocations are done at once. -/
def runLane (server : Server) : LaneBlock → Option Server
  | .read id target authorization => some (server.proceed id (.reading target authorization))
  | .handle id path value authorization =>
    some (server.proceed id (.handling path value authorization))
  | .revokeToken token => server.call (.revokeToken (some token))
  | .revokeAll => (server.call .revokeAll).map fun next => { next with revoked := true }

/-- `handlePath` dispatches a reply; its `@finally` block is to come. -/
def answerLater (server : Server) (answer : Answer) : Server :=
  { server with
    network := server.network ++ [.reply answer]
    running := some ⟨answer.request, .leaving⟩ }

/-- `authorizeToken` on the lane: the record accepted. -/
def authorize (server : Server) (id : Nat) (token : Text) (reading : Reading) :
    Option (Server × Option Auth.Record) :=
  let peer := some (server.requests id).peer
  (server.call (.authorizeToken (some token) peer true reading.wait reading.current
    reading.again)).map fun next =>
      (next, (server.session.state.authorizeToken (some token) peer true
        (server.session.clock + reading.wait) reading.current reading.again).2)

/-- `handlePath` for a path with a handler, up to the handler. -/
def enterHandler (server : Server) (id : Nat) (path : Path) (authorization : Text)
    (reading : Reading) : Option Server :=
  match bearerToken authorization with
  | none => some (server.answerLater { request := id, status := 401 })
  | some token =>
    (server.authorize id token reading).map fun (next, record) =>
      match record with
      | none => next.answerLater { request := id, status := 401 }
      | some record => next.proceed id (.operating path ⟨token, record.serial⟩)

/-- `handlePath`, up to its handler or its verifier. -/
def enterHandle (handlers : Handlers) (server : Server) (id : Nat) (path : Path) (value : Value)
    (authorization : Text) (reading : Reading) : Option Server :=
  let peer := some (server.requests id).peer
  if (server.requests id).finished then some (server.proceed id .leaving)
  else
    match path, value with
    | .start, .username name =>
      (server.call (.start peer (some name) reading.wait reading.current reading.pause
        reading.random)).map fun next => next.answerLater { request := id, status := 200 }
    | .respond, .responses conversation =>
      let now := server.session.clock + reading.wait
      (server.call (.respond peer (some conversation) reading.wait reading.current
        reading.pause)).map fun next =>
          match (server.session.state.respond peer (some conversation) now reading.current
            (now + reading.pause)).2 with
          | .answered _ => next.answerLater { request := id, status := 200 }
          | .verify _ _ => next.proceed id .verifying
    | .start, _ | .respond, _ | _, .other =>
      some (server.answerLater { request := id, status := 400 })
    | path, _ =>
      if handlers.handle path then server.enterHandler id path authorization reading
      else some (server.answerLater { request := id, status := 400 })

/-- The block of a `GET` request, up to the topology. -/
def enterRead (server : Server) (id : Nat) (target : Target) (authorization : Text)
    (reading : Reading) : Option Server :=
  match bearerToken authorization with
  | none => some (server.proceed id (.looked target none 401 false false))
  | some token =>
    (server.authorize id token reading).map fun (next, record) =>
      match record with
      | none => next.proceed id (.looked target none 401 false false)
      | some record =>
        next.proceed id (.looking target
          (if target = .topology then some ⟨token, record.serial⟩ else none) token record.account)

/-- Second block of `respondForPeer`. -/
def verified (server : Server) (id : Nat) (verdict : Verdict) (account : AccountIdentity)
    (reading : Reading) : Option Server :=
  server.session.running[0]?.bind fun response =>
    let now := server.session.clock + reading.wait
    let answer := (server.session.state.respondVerified response.peer response.record
      response.generation verdict account now reading.current (now + reading.pause)
      reading.random).2
    (server.call (.verified 0 verdict account reading.wait reading.current reading.pause
      reading.random)).map fun next =>
        next.proceed id (.decided (some (answer, match answer with
          | .authenticated token _ => some ⟨token, response.record.serial⟩
          | _ => none)))

/-- The end of `respondForPeer`, and the reply. -/
def responded (server : Server) (id : Nat) (answer : Option (Response × Option Credential)) :
    Option Server :=
  (server.call .respondFinally).map fun next =>
    match answer with
    | none => next.answerLater { request := id, status := 400 }
    | some (answer, origin) =>
      next.answerLater {
        request := id
        status := 200
        token := match answer with
          | .authenticated token _ => some token
          | _ => none
        origin }

/-- The handler of a path returned; display and negotiate authorize the token again. -/
def handled (server : Server) (id : Nat) (path : Path) (credential : Credential) (status : Nat)
    (reply : Option HandlerReply) (reading : Reading) : Option Server :=
  if path = .launch then
    some (server.proceed id (.handled path credential status (reply.getD {})))
  else
    (server.authorize id credential.token reading).map fun (next, record) =>
      match record with
      | none => next.proceed id (.handled path credential 401 {})
      | some _ => next.proceed id (.handled path credential status (reply.getD {}))

/-- The topology was looked up; the token is authorized again and must be of the same account. -/
def looked (server : Server) (id : Nat) (target : Target) (setupToken : Option Credential)
    (token : Text) (before : AccountIdentity) (topology : Bool) (reading : Reading) :
    Option Server :=
  (server.authorize id token reading).map fun (next, record) =>
    if record.any fun record => before = record.account then
      next.proceed id (.looked target setupToken
        (if target = .information || topology then 200 else 503) true false)
    else next.proceed id (.looked target setupToken 401 false false)

/-- Whether the request was cancelled or is late when its operation ends. -/
def expired (server : Server) (id : Nat) : Bool :=
  (server.requests id).cancelled || (server.requests id).deadline ≤ server.clock

/-- Write down how an operation with a token ended. -/
def record (server : Server) (id : Nat) (credential : Option Credential) (outcome : Outcome) :
    Server :=
  { server with
    ended := credential.toList.map (fun credential => {
      credential
      outcome
      cancelled := (server.requests id).cancelled
      late := (server.requests id).deadline ≤ server.clock }) ++ server.ended }

/-- `revokeToken` on the lane, under a condition. -/
def revokeIf (server : Server) (condition : Bool) (token : Text) : Option Server :=
  if condition then server.call (.revokeToken (some token)) else some server

/-- The end of `handlePath` for a path with a handler. -/
def concludeHandled (server : Server) (id : Nat) (path : Path) (credential : Credential)
    (status : Nat) (reply : HandlerReply) : Option Server :=
  let pending := readinessPending path status reply
  let claimed := if path = .launch then decide (status = 200) else status = 200 || pending
  (server.revokeIf ((status ≠ 200 && !pending) || server.expired id) credential.token).map
    fun next =>
      (next.record id (some credential) (.handled path status reply.active)).answerLater {
        request := id
        status
        token := if claimed then some credential.token else reply.sessionToken
        origin := some credential }

/-- The end of the block of a `GET` request. -/
def concludeLooked (server : Server) (id : Nat) (target : Target) (setupToken : Option Credential)
    (status : Nat) (authorized threw : Bool) : Option Server :=
  let rejected := (status ≠ 200 && !(status = 503 && authorized)) || server.expired id
  let revoked := match setupToken with
    | none => some server
    | some credential => server.revokeIf rejected credential.token
  revoked.map fun next =>
    { next.record id setupToken (if threw then .threw else .read status) with
      network := next.network ++ [.served {
        request := id
        status := if target = .information then 200 else status
        token := setupToken.map Credential.token
        origin := setupToken }]
      running := none }

/-- The `@catch` block of `handlePath` after a token was authorized. -/
def caught (server : Server) (id : Nat) (credential : Credential) : Option Server :=
  (server.call (.revokeToken (some credential.token))).map fun next =>
    (next.record id (some credential) .threw).answerLater {
      request := id, status := 400, origin := some credential }

/-- An exception in the running operation. -/
def raise (server : Server) : Running → Option Server
  | ⟨id, .handling ..⟩ =>
    if (server.requests id).finished then none
    else some (server.answerLater { request := id, status := 400 })
  | ⟨id, .operating _ credential⟩ | ⟨id, .handled _ credential _ _⟩ => server.caught id credential
  | ⟨id, .reading target _⟩ => some (server.proceed id (.looked target none 503 false true))
  | ⟨id, .looking target setupToken _ _⟩ =>
    some (server.proceed id (.looked target setupToken 503 false true))
  | _ => none

/-- A stage of the running operation that calls the session or a handler. -/
def advance (handlers : Handlers) (server : Server) (id : Nat) : Stage → Label → Option Server
  | .handling path value authorization, .enter reading =>
    enterHandle handlers server id path value authorization reading
  | .reading target authorization, .enter reading =>
    server.enterRead id target authorization reading
  | .verifying, .verified verdict account reading => server.verified id verdict account reading
  | .verifying, .verifierRaised =>
    (server.call (.raised 0)).map fun next => next.proceed id (.decided none)
  | .decided answer, .respondFinally => server.responded id answer
  | .operating .launch credential, .claim reading =>
    server.call (.claimToken (some credential.token) (some (server.requests id).peer)
      reading.wait reading.current reading.pause reading.again reading.third reading.rest
      reading.random)
  | .operating path credential, .handled status reply reading =>
    server.handled id path credential status reply reading
  | .looking target setupToken token before, .looked topology reading =>
    server.looked id target setupToken token before topology reading
  | .handled path credential status reply, .conclude =>
    server.concludeHandled id path credential status reply
  | .looked target setupToken status authorized threw, .conclude =>
    server.concludeLooked id target setupToken status authorized threw
  | .leaving, .leave =>
    some { server with network := server.network ++ [.clearBusy], running := none }
  | stage, .raise => server.raise ⟨id, stage⟩
  | _, _ => none

/-- The effect of one label. -/
def step (handlers : Handlers) (server : Server) : Label → Option Server
  | .wait elapsed => some { server with clock := server.clock + elapsed }
  | .accept peer => some (server.accept peer)
  | .ready id =>
    if server.accepted ≤ id then none
    else some (if (server.requests id).finished then server else server.receive id)
  | .received id event =>
    if (server.requests id).receiving then
      some (received handlers
        (server.update id fun request => { request with receiving := false }) id event)
    else none
  | .sent index error =>
    server.sending[index]?.map fun answer =>
      { server with sending := server.sending.eraseIdx index }.sent answer error
  | .closed id => if (server.requests id).awaiting then some (server.finish id) else none
  | .failed id => if server.accepted ≤ id then none else some (server.finish id)
  | .cancelled id =>
    if (server.requests id).finished then
      some (server.update id fun request => { request with admitted := false })
    else none
  | .expire =>
    if server.stopped then none
    else some (server.finishAll fun request => request.deadline ≤ server.clock)
  | .stop => some { server with network := server.network ++ [.stop] }
  | .network =>
    match server.network with
    | [] => none
    | block :: rest => some ({ server with network := rest }.runNetwork block)
  | .dequeue =>
    match server.running, server.lane with
    | none, block :: rest => { server with lane := rest }.runLane block
    | _, _ => none
  | .session action => if Auth.Session.quiet action then server.call action else none
  | label => server.running.bind fun running =>
    advance handlers server running.request running.stage label

/-- Every run of a server with these handlers. -/
def system (handlers : Handlers) : Transition.System Server Label where
  initial server := server = {}
  step := step handlers

end Server

end Plank.Control
