import SimpleDoip.Messages.Message

/-!
# The client's inner task

`Inner` is the task behind a client: it takes requests from a control channel, talks to the socket
and answers each request through the oneshot channel that came with it. One turn of its loop selects
a branch (the deadline, a control message or a socket event), processes a received message, and
handles the active request.

A request is known by its number, and so is its oneshot channel. What the task does to the outside
is written down as `Effect`s. What it finds outside is an `Env`, and a panic keeps the effects
before it. Tracing and the `run` flag, which nothing reads, are left out.
-/

namespace SimpleDoip

/-- Errors surfaced by the client, with the variants the modelled functions produce. The first three
come from establishing a connection. -/
inductive Error where
  | networkError
  | connectionTimeout
  | invalidPort (port : UInt16)
  | connectionClosed
  | invalidClientLogicalAddress (address : LogicalAddress)
  | unexpectedMessageType (payloadType : PayloadType)
  | socketNotBound
  | socketClosedUnexpectedly
  | responseTimeoutExceeded
  | requestSuperseded
  | diagnosticMessageNack (code : DiagnosticAckCode)
  | bindFailed (reason : String)
  | routingActivationFailed
  | routingActivationDenied (code : RoutingActivationResponseCode)
deriving DecidableEq

/-- A socket address. The model looks at its port only, which a bind returns; the host is a matter
of what `Env.connect` comes to. -/
structure SocketAddr where
  port : UInt16
deriving DecidableEq

/-- `ClientOptions` of `client.rs`: the addresses and the protocol version that go into messages,
and how long a send waits for its acknowledgement. Durations are in nanoseconds throughout. -/
structure ClientOptions where
  serverLogicalAddress : LogicalAddress
  serverPhysicalAddress : LogicalAddress
  clientLogicalAddress : LogicalAddress
  protocolVersion : ProtocolVersion
  diagnosticMessageTimeout : Nat
deriving DecidableEq

/-- How long a routing activation may go unanswered: 2 s (`lib.rs`). Both the inner task and
`Client::bind_socket` time it, each with a clock of its own. -/
def TCP_TIMEOUT_INITIAL_INACTIVITY : Nat := 2 * 10 ^ 9

/-! ## Requests and answers -/

/-- What a oneshot channel carries: the result of a bind, of a request without a value, or of one
that waits for a message. -/
inductive Answer where
  | port (result : Except Error UInt16)
  | done (result : Except Error Unit)
  | message (result : Except Error OwnedMessage)
deriving DecidableEq

/-- Messages used to control the client. `response` is the number of the request whose oneshot
channel the message holds. -/
inductive ControlMessage where
  | bindSocket (gatewayAddress : SocketAddr) (response : Nat)
  | unbindSocket (response : Nat)
  | routingActivation (message : OwnedMessage) (response : Nat)
  | awaitResponse (request : OwnedMessage) (response : Nat)
  | sendDiagnosticMessage (message : OwnedMessage) (response : Nat)
  | receiveDiagnosticResponse (timeout : Nat) (response : Nat)
  | awaitAck (response : Nat)
deriving DecidableEq

namespace ControlMessage

/-- The number of the request whose oneshot channel a control message holds. A message that waits in
the task's state still holds the channel of the request it came from. -/
def response : ControlMessage → Nat
  | .bindSocket _ response | .unbindSocket response | .routingActivation _ response
  | .awaitResponse _ response | .sendDiagnosticMessage _ response
  | .receiveDiagnosticResponse _ response | .awaitAck response => response

/-- The answer that fails a control message. It has the type that the message's channel carries, so
that each request is failed in its own kind of `Answer`. -/
def failure (e : Error) : ControlMessage → Answer
  | .bindSocket _ _ => .port (.error e)
  | .unbindSocket _ | .sendDiagnosticMessage _ _ | .awaitAck _ => .done (.error e)
  | .routingActivation _ _ | .awaitResponse _ _ | .receiveDiagnosticResponse _ _ =>
    .message (.error e)

end ControlMessage

/-- A request as its user makes it. `AwaitResponse` and `AwaitAck` are not among them: the task
makes these itself, from a request that it has sent. -/
inductive Request where
  | bindSocket (gatewayAddress : SocketAddr)
  | unbindSocket
  | routingActivation (message : OwnedMessage)
  | sendDiagnosticMessage (message : OwnedMessage)
  | receiveDiagnosticResponse (timeout : Nat)
deriving DecidableEq

/-- The control message for a request, as the constructor functions of `ControlMessage` make it,
with a fresh oneshot channel. The number of the request stands for that channel. -/
def Request.create (response : Nat) : Request → ControlMessage
  | .bindSocket gatewayAddress => .bindSocket gatewayAddress response
  | .unbindSocket => .unbindSocket response
  | .routingActivation message => .routingActivation message response
  | .sendDiagnosticMessage message => .sendDiagnosticMessage message response
  | .receiveDiagnosticResponse timeout => .receiveDiagnosticResponse timeout response

/-! ## The task -/

/-- The socket manager as its owner sees it: the port and the session counter. Its two channels lead
to the socket task, and are part of `Stack`, where that task is. -/
structure SocketManager where
  localPort : UInt16
  sessionId : UInt16
deriving DecidableEq

/-- The state of the inner task, with the fields of `Inner` that its code reads. The channels to its
users are in `World`. -/
structure Inner where
  clientOptions : ClientOptions
  activeRequest : Option ControlMessage
  awaitResponseDeadline : Option Nat
  tcpDataSocket : Option SocketManager
  pendingDiagnosticResponse : Option OwnedMessage
deriving DecidableEq

/-- What the task does to the outside: complete a oneshot channel, or hand a message to the socket,
for a request or on its own account. -/
inductive Effect where
  | completed (request : Nat) (answer : Answer)
  | handed (request : Option Nat) (message : OwnedMessage)
deriving DecidableEq

/-- The running task: its state, and what it has done to the outside since the turn began, oldest
first. -/
structure Task where
  inner : Inner
  effects : List Effect

/-- The build the task runs in: whether an integer overflow panics, and the last instant the clock
can represent, past which adding a duration panics. -/
structure Target where
  overflowChecks : Bool
  maxInstant : Nat

/-- What the task finds outside during one turn: the time, whether the socket still takes messages,
what establishing a connection comes to, and which callers have dropped their receivers. -/
structure Env where
  now : Nat
  socketOpen : Bool
  connect : Except Error Unit
  dropped : Nat → Bool

/-- Why the task can panic: an `unwrap` of `None`, an overflow of the session counter in a build
that checks for it, or a deadline past the last instant the clock can represent. -/
inductive Panic where
  | unwrapNone
  | overflow
  | instant
deriving DecidableEq

/-- Code of the task. A panic ends the code but keeps the state and the effects there were, as what
was sent before a panic has been sent. -/
abbrev TaskM := EStateM Panic Task

section
variable (target : Target) (env : Env)

/-- Read the task's state, where the source reads a field of `self`. -/
def getInner : TaskM Inner := do return (← get).inner

/-- Change the task's state, where the source assigns to a field of `self`. -/
def modifyInner (f : Inner → Inner) : TaskM Unit := modify fun t => { t with inner := f t.inner }

/-- `oneshot::Sender::send`, which completes the request. The result says whether it failed, which
it does exactly if the caller has dropped its receiver. -/
def sendResponse (response : Nat) (answer : Answer) : TaskM Bool := do
  modify fun t => { t with effects := t.effects ++ [.completed response answer] }
  return env.dropped response

/-- `tokio::time::Instant::now() + duration`, which panics if the sum cannot be represented. -/
def deadlineAfter (duration : Nat) : TaskM Nat :=
  if env.now + duration ≤ target.maxInstant then return env.now + duration else throw .instant

/-- `SocketManager::send`: the message goes to the socket task, and the session counter goes up.
Nothing reads the counter, but in a build with overflow checks it panics at its maximum. -/
def SocketManager.send (socket : SocketManager) (request : Option Nat) (message : OwnedMessage) :
    TaskM (Except Error Unit) := do
  if env.socketOpen then
    modify fun t => { t with effects := t.effects ++ [.handed request message] }
    if target.overflowChecks ∧ socket.sessionId = 0xFFFF then throw .overflow
    modifyInner fun i => { i with
      tcpDataSocket := some { socket with sessionId := socket.sessionId + 1 } }
    return .ok ()
  else return .error .connectionClosed

/-- `SocketManager::bind`: the client's address is checked first, then a connection is established.
The session counter of the new socket starts at zero. -/
def SocketManager.bind (options : ClientOptions) (gatewayAddress : SocketAddr) :
    Except Error SocketManager :=
  if ¬ options.clientLogicalAddress.isValidClientAddress then
    .error (.invalidClientLogicalAddress options.clientLogicalAddress)
  else match env.connect with
    | .error e => .error e
    | .ok () => .ok { localPort := gatewayAddress.port, sessionId := 0 }

/-- `Inner::bind_socket`: the socket there is, if any, is given up first, and it stays given up
where the new connection fails. -/
def bindSocket (gatewayAddress : SocketAddr) : TaskM (Except Error UInt16) := do
  modifyInner fun i => { i with tcpDataSocket := none }
  match SocketManager.bind env (← getInner).clientOptions gatewayAddress with
  | .error e => return .error e
  | .ok socketManager =>
    modifyInner fun i => { i with tcpDataSocket := some socketManager }
    return .ok socketManager.localPort

/-- `Inner::unbind_socket`, which fails if there is no socket. The buffered response is left where
it is. -/
def unbindSocket : TaskM (Except Error Unit) := do
  match (← getInner).tcpDataSocket with
  | some _ =>
    modifyInner fun i => { i with tcpDataSocket := none }
    return .ok ()
  | none => return .error .socketNotBound

/-- `Inner::send_to_socket`: send a message to the socket manager, or fail with `SocketNotBound`
where there is none. -/
def sendToSocket (request : Option Nat) (message : OwnedMessage) : TaskM (Except Error Unit) := do
  match (← getInner).tcpDataSocket with
  | some socket => socket.send target env request message
  | none => return .error .socketNotBound

/-- `self.active_request.take()`: what was active is returned, and nothing is active any more. -/
def takeActiveRequest : TaskM (Option ControlMessage) := do
  let active := (← getInner).activeRequest
  modifyInner fun i => { i with activeRequest := none }
  return active

/-- Leave a request waiting, under a fresh deadline: the source sets `active_request` to one of the
two waiting states and `await_response_deadline` with it. -/
def awaitUntil (deadline : Nat) (request : ControlMessage) : TaskM Unit :=
  modifyInner fun i => { i with
    awaitResponseDeadline := some deadline, activeRequest := some request }

/-- `Inner::handle_control_message`: handle the active request that the loop has just set. A request
that waits already is put back unchanged, so that a turn without a new request does nothing here. -/
def handleControlMessage : TaskM Unit := do
  match ← takeActiveRequest with
  | none => return
  | some (.bindSocket gatewayAddress response) =>
    let _ ← sendResponse env response (.port (← bindSocket env gatewayAddress))
  | some (.unbindSocket response) =>
    let _ ← sendResponse env response (.done (← unbindSocket))
  | some (.routingActivation message response) =>
    match ← sendToSocket target env (some response) message with
    | .ok () =>
      let deadline ← deadlineAfter target env TCP_TIMEOUT_INITIAL_INACTIVITY
      awaitUntil deadline (.awaitResponse message response)
    | .error e => let _ ← sendResponse env response (.message (.error e))
  | some (.awaitResponse message response) =>
    modifyInner fun i => { i with activeRequest := some (.awaitResponse message response) }
  | some (.sendDiagnosticMessage message response) =>
    if (← getInner).tcpDataSocket.isNone then
      let _ ← sendResponse env response (.done (.error .socketNotBound))
    else
      match ← sendToSocket target env (some response) message with
      | .ok () =>
        let deadline ← deadlineAfter target env
          (← getInner).clientOptions.diagnosticMessageTimeout
        awaitUntil deadline (.awaitAck response)
      | .error e => let _ ← sendResponse env response (.done (.error e))
  | some (.receiveDiagnosticResponse timeout response) =>
    match (← getInner).pendingDiagnosticResponse with
    | some buffered =>
      modifyInner fun i => { i with pendingDiagnosticResponse := none }
      let _ ← sendResponse env response (.message (.ok buffered))
    | none =>
      if (← getInner).tcpDataSocket.isNone then
        let _ ← sendResponse env response (.message (.error .socketNotBound))
      else
        let deadline ← deadlineAfter target env timeout
        awaitUntil deadline (.awaitResponse OwnedMessage.default response)
  | some (.awaitAck response) =>
    modifyInner fun i => { i with activeRequest := some (.awaitAck response) }

/-- `Inner::take_await_ack`: take the active request only if it awaits an acknowledgement; any other
stays where it is. -/
def takeAwaitAck : TaskM (Option Nat) := do
  match ← takeActiveRequest with
  | some (.awaitAck response) => return some response
  | other =>
    modifyInner fun i => { i with activeRequest := other }
    return none

/-- `Inner::take_await_response`: take the active request only if it awaits a response, with the
message it is a response to; any other stays where it is. -/
def takeAwaitResponse : TaskM (Option (OwnedMessage × Nat)) := do
  match ← takeActiveRequest with
  | some (.awaitResponse request response) => return some (request, response)
  | other =>
    modifyInner fun i => { i with activeRequest := other }
    return none

/-- `Inner::supersede_active_request`: complete any request still pending with `RequestSuperseded`,
so that a new control message can take its place without losing a caller. -/
def supersedeActiveRequest : TaskM Unit := do
  match ← takeActiveRequest with
  | none => pure ()
  | some request => let _ ← sendResponse env request.response (request.failure .requestSuperseded)
  modifyInner fun i => { i with awaitResponseDeadline := none }

/-- How processing a message ends: the loop goes on, or is left, or first has to send the message to
the update channel. -/
inductive Processed where
  | stay
  | exit
  | update (message : OwnedMessage)
deriving DecidableEq

/-- The part of `process_received_message` behind the match on the payload: a request that awaits a
response gets the message, or else it is kept, passed on or dropped. -/
def completeAwaitResponse (received : OwnedMessage) : TaskM Processed := do
  match ← takeAwaitResponse with
  | some (request, response) =>
    -- a caller that is gone ends the loop
    let isErr ←
      if request.isResponse received.header.payloadType then
        sendResponse env response (.message (.ok received))
      else
        sendResponse env response
          (.message (.error (.unexpectedMessageType received.header.payloadType)))
    return if isErr then .exit else .stay
  | none =>
    if (← getInner).activeRequest.isNone then
      match received.payload with
      | .diagnosticMessage _ =>
        modifyInner fun i => { i with pendingDiagnosticResponse := some received }
        return .stay
      | _ => return .update received
    else return .stay

/-- `Inner::process_received_message`: an alive check is answered and an acknowledgement completes
a send before anything else is done with the message; an error closes the socket and fails what
waits. -/
def processReceivedMessage (message : Except Error OwnedMessage) : TaskM Processed := do
  match message with
  | .ok received =>
    match received.payload with
    | .aliveCheckRequest =>
      match (← getInner).tcpDataSocket with
      | none => throw .unwrapNone
      | some socket =>
        let options := (← getInner).clientOptions
        let _ ← socket.send target env none
          (OwnedMessage.aliveCheckResponse options.protocolVersion options.clientLogicalAddress)
        completeAwaitResponse env received
    | .diagnosticMessageAck ack =>
      match ← takeAwaitAck with
      | some response =>
        modifyInner fun i => { i with awaitResponseDeadline := none }
        let _ ← sendResponse env response (.done (
          if ack.ackCode.isPositiveAck then .ok ()
          else .error (.diagnosticMessageNack ack.ackCode)))
        return .stay
      | none =>
        if ack.ackCode.isPositiveAck then return .stay else completeAwaitResponse env received
    | _ => completeAwaitResponse env received
  | .error e =>
    modifyInner fun i => { i with tcpDataSocket := none, awaitResponseDeadline := none }
    match ← takeActiveRequest with
    | some (.awaitResponse request response) =>
      let _ ← sendResponse env response ((ControlMessage.awaitResponse request response).failure e)
    | some (.awaitAck response) =>
      let _ ← sendResponse env response ((ControlMessage.awaitAck response).failure e)
    | _ => pure ()
    return .stay

/-- The deadline branch of the loop. It fails a request that waits, with `ResponseTimeoutExceeded`,
and puts back any other, which does not occur. -/
def deadlineReached : TaskM Unit := do
  match ← takeActiveRequest with
  | some (.awaitResponse request response) =>
    let _ ← sendResponse env response
      ((ControlMessage.awaitResponse request response).failure .responseTimeoutExceeded)
  | some (.awaitAck response) =>
    let _ ← sendResponse env response
      ((ControlMessage.awaitAck response).failure .responseTimeoutExceeded)
  | other => modifyInner fun i => { i with activeRequest := other }
  modifyInner fun i => { i with awaitResponseDeadline := none }

/-- The branch that `select!` found ready, with what it yields: a control message that was received,
or what the socket delivered. -/
inductive Select where
  | deadline
  | control (message : ControlMessage)
  | socket (message : Except Error OwnedMessage)

/-- One turn of the loop from the selected branch on: the branch is dealt with, and then
`handle_control_message` is called, in every turn that does not leave the loop. -/
def turn : Select → TaskM Processed
  | .deadline => do
    deadlineReached env
    handleControlMessage target env
    return .stay
  | .control message => do
    supersedeActiveRequest env
    modifyInner fun i => { i with activeRequest := some message }
    handleControlMessage target env
    return .stay
  | .socket message => do
    match ← processReceivedMessage target env message with
    | .stay =>
      handleControlMessage target env
      return .stay
    | other => return other

end

end SimpleDoip
