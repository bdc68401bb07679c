import SimpleDoip.Client.Inner

/-!
# What one turn of the loop does

At the head of the loop the active request is one that waits, or there is none (`Waiting`). From
there `turn_spec` says what a turn comes to, by the branch selected and the state it meets: `Turned`
has one constructor per outcome, with the state and the effects it leaves. Everything the client
guarantees over whole runs is derived from it.
-/

namespace SimpleDoip

/-! ## Vocabulary -/

/-- The active request at the head of the loop: none, or one in a waiting state.
`handle_control_message` leaves no other. -/
inductive Waiting : Option ControlMessage → Prop where
  | none : Waiting none
  | ack (response : Nat) : Waiting (some (.awaitAck response))
  | response (request : OwnedMessage) (response : Nat) :
      Waiting (some (.awaitResponse request response))

namespace ControlMessage

/-- The message a request hands to the socket. A bind, an unbind and a receive hand over none. -/
def outgoing : ControlMessage → Option OwnedMessage
  | .routingActivation message _ | .sendDiagnosticMessage message _ => some message
  | _ => none

/-- What a request waits as, once its message is out. A receive waits as one whose request message
is the default one, which has the payload type of a diagnostic message. -/
def awaiting : ControlMessage → ControlMessage
  | .routingActivation message response => .awaitResponse message response
  | .sendDiagnosticMessage _ response => .awaitAck response
  | .receiveDiagnosticResponse _ response => .awaitResponse OwnedMessage.default response
  | other => other

/-- Whether a request can be refused for want of a socket. A bind needs none, and an unbind without
one fails in its own way. -/
def needsSocket : ControlMessage → Bool
  | .bindSocket _ _ | .unbindSocket _ => false
  | _ => true

/-- How long a request waits before its deadline: the routing activation by a constant, a send by
the client's options, a receive by what its caller asked for. -/
def patience (options : ClientOptions) : ControlMessage → Nat
  | .routingActivation _ _ => TCP_TIMEOUT_INITIAL_INACTIVITY
  | .sendDiagnosticMessage _ _ => options.diagnosticMessageTimeout
  | .receiveDiagnosticResponse timeout _ => timeout
  | _ => 0

end ControlMessage

/-- Whether a message is a positive acknowledgement of a diagnostic message, by its code. Such a
message is never passed on. -/
def Message.isPositiveAck (m : Message) : Bool :=
  match m.payload with
  | .diagnosticMessageAck ack => ack.ackCode.isPositiveAck
  | _ => false

/-- What an acknowledgement makes of the send it answers: success for the positive code, and an
error with the code otherwise. -/
def DiagnosticMessageAck.result (ack : DiagnosticMessageAck) : Except Error Unit :=
  if ack.ackCode.isPositiveAck then .ok () else .error (.diagnosticMessageNack ack.ackCode)

/-- What a received message makes of the request that waits for a response: the message itself if
`is_response` accepts its payload type, and `UnexpectedMessageType` otherwise. -/
def Message.reply (request received : Message) : Except Error OwnedMessage :=
  if request.isResponse received.header.payloadType then .ok received
  else .error (.unexpectedMessageType received.header.payloadType)

/-- The socket after one more message, its counter having gone up or started again at zero. -/
def SocketManager.next (s : SocketManager) : SocketManager :=
  { s with sessionId := s.sessionId + 1 }

/-- One more message would overflow the session counter of a build with overflow checks. In other
builds no counter is full. -/
def SocketManager.Full (target : Target) (s : SocketManager) : Prop :=
  target.overflowChecks = true ∧ s.sessionId = 0xFFFF

namespace Inner

/-- The state with no request active any more, and no deadline. Most turns on the control branch
come through it, as the old request is superseded first. -/
def cleared (i : Inner) : Inner := { i with activeRequest := none, awaitResponseDeadline := none }

/-- The effect of failing the active request, if there is one: its channel is completed with the
error, in the kind of answer it carries. -/
def failActive (i : Inner) (e : Error) : List Effect :=
  match i.activeRequest with
  | none => []
  | some request => [.completed request.response (request.failure e)]

/-- The answer to an alive check: an alive check response with the client's own logical address, in
the protocol version of its options. -/
def aliveResponse (i : Inner) : OwnedMessage :=
  OwnedMessage.aliveCheckResponse i.clientOptions.protocolVersion
    i.clientOptions.clientLogicalAddress

/-- The state after an alive check was answered, where `m` is one and the socket is open. -/
def afterAlive (env : Env) (i : Inner) (m : OwnedMessage) : Inner :=
  if m.payload = .aliveCheckRequest ∧ env.socketOpen = true then
    { i with tcpDataSocket := i.tcpDataSocket.map SocketManager.next }
  else i

/-- The message handed to the socket on account of a received one: the answer to an alive check, if
the socket still takes it, and otherwise none. -/
def aliveEffects (env : Env) (i : Inner) (m : OwnedMessage) : List Effect :=
  if m.payload = .aliveCheckRequest ∧ env.socketOpen = true then [.handed none i.aliveResponse]
  else []

@[simp] theorem afterAlive_activeRequest (env : Env) (i : Inner) (m : OwnedMessage) :
    (i.afterAlive env m).activeRequest = i.activeRequest := by
  rw [afterAlive]
  split <;> rfl

@[simp] theorem afterAlive_pendingDiagnosticResponse (env : Env) (i : Inner) (m : OwnedMessage) :
    (i.afterAlive env m).pendingDiagnosticResponse = i.pendingDiagnosticResponse := by
  rw [afterAlive]
  split <;> rfl

end Inner

/-! ## The outcomes of a turn -/

section
variable (target : Target) (env : Env) (i : Inner)

/-- Everything a turn can come to, by the branch it was made on. The turn is made from the head of
the loop, on a branch that is ready (`turn_spec`); what holds of a turn is read off these cases. -/
inductive Turned : Select → EStateM.Result Panic Task Processed → Prop where
  /-- The deadline fails the request that waits, with `ResponseTimeoutExceeded`. -/
  | expired {request : ControlMessage} (hactive : i.activeRequest = some request) :
      Turned .deadline (.ok .stay ⟨i.cleared, i.failActive .responseTimeoutExceeded⟩)
  /-- A bind is answered at once, and leaves the new socket, or none where the connection failed.
  What waited is superseded. -/
  | bound (gatewayAddress : SocketAddr) (response : Nat) :
      Turned (.control (.bindSocket gatewayAddress response)) (.ok .stay
        ⟨{ i.cleared with
            tcpDataSocket := (SocketManager.bind env i.clientOptions gatewayAddress).toOption },
          i.failActive .requestSuperseded ++ [.completed response (.port
            ((SocketManager.bind env i.clientOptions gatewayAddress).map (·.localPort)))]⟩)
  /-- An unbind is answered at once, with an error if there was no socket. What waited is
  superseded. -/
  | unbound (response : Nat) :
      Turned (.control (.unbindSocket response)) (.ok .stay
        ⟨{ i.cleared with tcpDataSocket := none },
          i.failActive .requestSuperseded ++ [.completed response (.done
            (if i.tcpDataSocket.isSome then .ok () else .error .socketNotBound))]⟩)
  /-- A request that needs a socket is refused without one, unless it is a receive that the buffer
  answers. -/
  | refused {request : ControlMessage} (e : Error)
      (hsocket : i.tcpDataSocket = none ∨ env.socketOpen = false ∧ request.outgoing ≠ none)
      (hbuffer : ∀ timeout response, request = .receiveDiagnosticResponse timeout response →
        i.pendingDiagnosticResponse = none) (hneeds : request.needsSocket = true)
      (he : e = if i.tcpDataSocket.isNone then .socketNotBound else .connectionClosed) :
      Turned (.control request) (.ok .stay ⟨i.cleared,
        i.failActive .requestSuperseded ++ [.completed request.response (request.failure e)]⟩)
  /-- A receive is answered from the buffer, which is empty afterwards. No socket is needed for
  that. -/
  | drained {timeout response : Nat} {m : OwnedMessage}
      (hpending : i.pendingDiagnosticResponse = some m) :
      Turned (.control (.receiveDiagnosticResponse timeout response)) (.ok .stay
        ⟨{ i.cleared with pendingDiagnosticResponse := none },
          i.failActive .requestSuperseded ++ [.completed response (.message (.ok m))]⟩)
  /-- A receive waits, under a deadline of its own, where the buffer is empty and there is a
  socket. -/
  | listening {timeout response : Nat} (hpending : i.pendingDiagnosticResponse = none)
      (hsocket : i.tcpDataSocket ≠ none) (htime : env.now + timeout ≤ target.maxInstant) :
      Turned (.control (.receiveDiagnosticResponse timeout response)) (.ok .stay
        ⟨{ i with
            activeRequest := some (.awaitResponse OwnedMessage.default response)
            awaitResponseDeadline := some (env.now + timeout) },
          i.failActive .requestSuperseded⟩)
  /-- A request with a message hands it to the socket and waits, under the deadline of its kind. -/
  | sent {request : ControlMessage} {message : OwnedMessage} {s : SocketManager}
      (hmessage : request.outgoing = some message) (hsocket : i.tcpDataSocket = some s)
      (hopen : env.socketOpen = true) (hroom : ¬ s.Full target)
      (htime : env.now + request.patience i.clientOptions ≤ target.maxInstant) :
      Turned (.control request) (.ok .stay
        ⟨{ i with
            activeRequest := some request.awaiting
            awaitResponseDeadline := some (env.now + request.patience i.clientOptions)
            tcpDataSocket := some s.next },
          i.failActive .requestSuperseded ++ [.handed (some request.response) message]⟩)
  /-- The session counter overflows: the message is in the channel already, the old request is
  superseded, and the task panics before the new one waits. -/
  | overflowed {request : ControlMessage} {message : OwnedMessage} {s : SocketManager}
      (hmessage : request.outgoing = some message) (hsocket : i.tcpDataSocket = some s)
      (hopen : env.socketOpen = true) (hfull : s.Full target) :
      Turned (.control request) (.error .overflow ⟨i.cleared,
        i.failActive .requestSuperseded ++ [.handed (some request.response) message]⟩)
  /-- The deadline of a request that is out cannot be represented: the message is sent and counted,
  and the task panics when it adds the timeout to the time. -/
  | late {request : ControlMessage} {message : OwnedMessage} {s : SocketManager}
      (hmessage : request.outgoing = some message) (hsocket : i.tcpDataSocket = some s)
      (hopen : env.socketOpen = true) (hroom : ¬ s.Full target)
      (htime : ¬ env.now + request.patience i.clientOptions ≤ target.maxInstant) :
      Turned (.control request) (.error .instant ⟨{ i.cleared with tcpDataSocket := some s.next },
        i.failActive .requestSuperseded ++ [.handed (some request.response) message]⟩)
  /-- The deadline of a receive cannot be represented, so that the task panics instead of
  waiting. -/
  | lateListening {timeout response : Nat} (hpending : i.pendingDiagnosticResponse = none)
      (hsocket : i.tcpDataSocket ≠ none) (htime : ¬ env.now + timeout ≤ target.maxInstant) :
      Turned (.control (.receiveDiagnosticResponse timeout response))
        (.error .instant ⟨i.cleared, i.failActive .requestSuperseded⟩)
  /-- An acknowledgement completes the send that waits for it, with success or with the code it
  carries, and clears the deadline. -/
  | acked {m : OwnedMessage} {ack : DiagnosticMessageAck} {response : Nat}
      (hm : m.payload = .diagnosticMessageAck ack)
      (hactive : i.activeRequest = some (.awaitAck response)) :
      Turned (.socket (.ok m)) (.ok .stay ⟨i.cleared, [.completed response (.done ack.result)]⟩)
  /-- A positive acknowledgement that no send waits for is dropped, also while a response is
  awaited. -/
  | ackDropped {m : OwnedMessage} (hm : m.isPositiveAck = true)
      (hactive : ∀ response, i.activeRequest ≠ some (.awaitAck response)) :
      Turned (.socket (.ok m)) (.ok .stay ⟨i, []⟩)
  /-- Any other message completes the request that waits for a response, and ends the loop if its
  caller is gone. -/
  | replied {m request : OwnedMessage} {response : Nat} (hm : m.isPositiveAck = false)
      (hactive : i.activeRequest = some (.awaitResponse request response))
      (hroom : m.payload = .aliveCheckRequest → env.socketOpen = true →
        ∀ s, i.tcpDataSocket = some s → ¬ s.Full target) :
      Turned (.socket (.ok m)) (.ok (if env.dropped response then .exit else .stay)
        ⟨{ i.afterAlive env m with activeRequest := none },
          i.aliveEffects env m ++ [.completed response (.message (request.reply m))]⟩)
  /-- A diagnostic message nobody waits for goes to the buffer, over whatever was there. -/
  | stored {m : OwnedMessage} {dm : DiagnosticMessage} (hm : m.payload = .diagnosticMessage dm)
      (hactive : i.activeRequest = none) :
      Turned (.socket (.ok m)) (.ok .stay ⟨{ i with pendingDiagnosticResponse := some m }, []⟩)
  /-- Any other message nobody waits for goes to the update channel, an alive check after it was
  answered. -/
  | passed {m : OwnedMessage} (hm : m.isPositiveAck = false)
      (hdm : ∀ dm, m.payload ≠ .diagnosticMessage dm) (hactive : i.activeRequest = none)
      (hroom : m.payload = .aliveCheckRequest → env.socketOpen = true →
        ∀ s, i.tcpDataSocket = some s → ¬ s.Full target) :
      Turned (.socket (.ok m)) (.ok (.update m) ⟨i.afterAlive env m, i.aliveEffects env m⟩)
  /-- A send that waits for its acknowledgement lets any other message go by. It is neither kept nor
  passed on; only an alive check is answered. -/
  | unheeded {m : OwnedMessage} {response : Nat} (hm : ∀ ack, m.payload ≠ .diagnosticMessageAck ack)
      (hactive : i.activeRequest = some (.awaitAck response))
      (hroom : m.payload = .aliveCheckRequest → env.socketOpen = true →
        ∀ s, i.tcpDataSocket = some s → ¬ s.Full target) :
      Turned (.socket (.ok m)) (.ok .stay ⟨i.afterAlive env m, i.aliveEffects env m⟩)
  /-- The session counter overflows on the answer to an alive check, and the task panics. -/
  | aliveOverflowed {m : OwnedMessage} {s : SocketManager} (hm : m.payload = .aliveCheckRequest)
      (hsocket : i.tcpDataSocket = some s) (hopen : env.socketOpen = true)
      (hfull : s.Full target) :
      Turned (.socket (.ok m)) (.error .overflow ⟨i, i.aliveEffects env m⟩)
  /-- An error of the socket closes it and fails the request that waits with that error. The task
  stays in its loop, so that a new bind is possible. -/
  | broken (e : Error) :
      Turned (.socket (.error e)) (.ok .stay
        ⟨{ i.cleared with tcpDataSocket := none }, i.failActive e⟩)

end

/-! ## Running the task's code -/

section
variable {target : Target} {env : Env} {i : Inner} {es : List Effect}

theorem bind_ok {α β : Type} {x : TaskM α} {f : α → TaskM β} {t t' : Task} {a : α}
    (h : x t = .ok a t') : (x >>= f) t = f a t' := by
  change EStateM.bind x f t = _
  rw [EStateM.bind, h]

theorem bind_error {α β : Type} {x : TaskM α} {f : α → TaskM β} {t t' : Task} {p : Panic}
    (h : x t = .error p t') : (x >>= f) t = .error p t' := by
  change EStateM.bind x f t = _
  rw [EStateM.bind, h]

namespace SocketManager
variable (s : SocketManager) (request : Option Nat) (message : OwnedMessage)

theorem send_closed (hopen : env.socketOpen = false) :
    s.send target env request message ⟨i, es⟩ = .ok (.error .connectionClosed) ⟨i, es⟩ := by
  simp only [send, hopen]
  rfl

theorem send_full (hopen : env.socketOpen = true) (hfull : s.Full target) :
    s.send target env request message ⟨i, es⟩ =
      .error .overflow ⟨i, es ++ [.handed request message]⟩ := by
  have hfull' : target.overflowChecks = true ∧ s.sessionId = 0xFFFF := hfull
  simp only [send, hopen, hfull', if_true]
  rfl

theorem send_room (hopen : env.socketOpen = true) (hroom : ¬ s.Full target) :
    s.send target env request message ⟨i, es⟩ =
      .ok (.ok ()) ⟨{ i with tcpDataSocket := some s.next }, es ++ [.handed request message]⟩ := by
  have hroom' : ¬ (target.overflowChecks = true ∧ s.sessionId = 0xFFFF) := hroom
  simp only [send, hopen, hroom', if_true, if_false]
  rfl

end SocketManager

theorem deadlineAfter_ok {duration : Nat} (h : env.now + duration ≤ target.maxInstant) :
    deadlineAfter target env duration ⟨i, es⟩ = .ok (env.now + duration) ⟨i, es⟩ := by
  rw [deadlineAfter, if_pos h]
  rfl

theorem deadlineAfter_late {duration : Nat} (h : ¬ env.now + duration ≤ target.maxInstant) :
    deadlineAfter target env duration ⟨i, es⟩ = .error .instant ⟨i, es⟩ := by
  rw [deadlineAfter, if_neg h]
  rfl

theorem bindSocket_spec (gatewayAddress : SocketAddr) :
    bindSocket env gatewayAddress ⟨i, es⟩ =
      .ok ((SocketManager.bind env i.clientOptions gatewayAddress).map (·.localPort))
        ⟨{ i with
            tcpDataSocket := (SocketManager.bind env i.clientOptions gatewayAddress).toOption },
          es⟩ := by
  refine (bind_ok rfl).trans ((bind_ok rfl).trans ?_)
  cases SocketManager.bind env i.clientOptions gatewayAddress <;> rfl

theorem supersedeActiveRequest_spec :
    supersedeActiveRequest env ⟨i, es⟩ =
      .ok () ⟨i.cleared, es ++ i.failActive .requestSuperseded⟩ := by
  obtain ⟨options, active, deadline, socket, pending⟩ := i
  cases active with
  | none => simp only [Inner.failActive, List.append_nil]; rfl
  | some request => rfl

/-- A request that waits is put back, and nothing else happens. So `handle_control_message` does
nothing in a turn that took no request. -/
theorem handleControlMessage_waiting (h : Waiting i.activeRequest) :
    handleControlMessage target env ⟨i, es⟩ = .ok () ⟨i, es⟩ := by
  obtain ⟨options, active, deadline, socket, pending⟩ := i
  cases h <;> rfl

/-- A turn on a control message supersedes what waits, and then handles the message from a cleared
state. -/
theorem turn_control_eq (request : ControlMessage) :
    turn target env (.control request) ⟨i, []⟩ =
      (handleControlMessage target env >>= fun _ => pure .stay)
        ⟨{ i.cleared with activeRequest := some request },
          i.failActive .requestSuperseded⟩ :=
  (bind_ok supersedeActiveRequest_spec).trans (bind_ok rfl)

/-- Handing over the message of a routing activation: what is left of `handle_control_message`, in
terms of `send_to_socket`. -/
theorem handle_routingActivation (message : OwnedMessage) (response : Nat) :
    handleControlMessage target env
        ⟨{ i.cleared with activeRequest := some (.routingActivation message response) }, es⟩ =
      (sendToSocket target env (some response) message >>= fun
        | .ok () => do
          let deadline ← deadlineAfter target env TCP_TIMEOUT_INITIAL_INACTIVITY
          awaitUntil deadline (.awaitResponse message response)
        | .error e => do
          let _ ← sendResponse env response (.message (.error e))) ⟨i.cleared, es⟩ :=
  bind_ok rfl

/-- Handing over a diagnostic message, where there is a socket: what is left of
`handle_control_message`, in terms of `SocketManager::send`. -/
theorem handle_sendDiagnosticMessage (message : OwnedMessage) (response : Nat) {s : SocketManager}
    (hsocket : i.tcpDataSocket = some s) :
    handleControlMessage target env
        ⟨{ i.cleared with activeRequest := some (.sendDiagnosticMessage message response) }, es⟩ =
      (sendToSocket target env (some response) message >>= fun
        | .ok () => do
          let deadline ← deadlineAfter target env
            (← getInner).clientOptions.diagnosticMessageTimeout
          awaitUntil deadline (.awaitAck response)
        | .error e => do
          let _ ← sendResponse env response (.done (.error e))) ⟨i.cleared, es⟩ := by
  refine (bind_ok rfl).trans ((bind_ok rfl).trans ?_)
  have hsome : i.cleared.tcpDataSocket.isNone = false := by
    change i.tcpDataSocket.isNone = false
    rw [hsocket]
    rfl
  simp only [hsome]
  rfl

theorem sendToSocket_some {s : SocketManager} (hsocket : i.tcpDataSocket = some s)
    (request : Option Nat) (message : OwnedMessage) :
    sendToSocket target env request message ⟨i, es⟩ =
      s.send target env request message ⟨i, es⟩ := by
  refine (bind_ok rfl).trans ?_
  simp only [hsocket]

/-- The outcomes of a request that hands a message to a socket, whatever its kind: `k` is what it
does with the result. -/
theorem turned_handing {request : ControlMessage} {message : OwnedMessage} {s : SocketManager}
    {k : Except Error Unit → TaskM Unit} (hmessage : request.outgoing = some message)
    (hsocket : i.tcpDataSocket = some s)
    (hhandle : ∀ es, handleControlMessage target env
      ⟨{ i.cleared with activeRequest := some request }, es⟩ =
        (sendToSocket target env (some request.response) message >>= k) ⟨i.cleared, es⟩)
    (herror : ∀ e es, k (.error e) ⟨i.cleared, es⟩ =
      .ok () ⟨i.cleared, es ++ [.completed request.response (request.failure e)]⟩)
    (hok : ∀ socket es, k (.ok ()) ⟨{ i.cleared with tcpDataSocket := socket }, es⟩ =
      (deadlineAfter target env (request.patience i.clientOptions) >>= fun deadline =>
        awaitUntil deadline request.awaiting) ⟨{ i.cleared with tcpDataSocket := socket }, es⟩) :
    Turned target env i (.control request) (turn target env (.control request) ⟨i, []⟩) := by
  rw [turn_control_eq]
  have hsend := hhandle (i.failActive .requestSuperseded)
  have hcleared : i.cleared.tcpDataSocket = some s := hsocket
  by_cases hopen : env.socketOpen = true
  · by_cases hfull : s.Full target
    · have h := hsend.trans (bind_error ((sendToSocket_some hcleared _ _).trans
        (s.send_full _ _ hopen hfull)))
      rw [bind_error h]
      exact .overflowed hmessage hsocket hopen hfull
    · have h := hsend.trans (bind_ok ((sendToSocket_some hcleared _ _).trans
        (s.send_room _ _ hopen hfull)))
      by_cases htime : env.now + request.patience i.clientOptions ≤ target.maxInstant
      · rw [bind_ok (h.trans ((hok _ _).trans (bind_ok (deadlineAfter_ok htime))))]
        exact .sent hmessage hsocket hopen hfull htime
      · rw [bind_error (h.trans ((hok _ _).trans (bind_error (deadlineAfter_late htime))))]
        exact .late hmessage hsocket hopen hfull htime
  · have hclosed : env.socketOpen = false := by simpa using hopen
    have h := hsend.trans (bind_ok ((sendToSocket_some hcleared _ _).trans
      (s.send_closed _ _ hclosed)))
    rw [bind_ok (h.trans (herror _ _))]
    refine .refused _ (.inr ⟨hclosed, by rw [hmessage]; nofun⟩)
      (fun timeout response hreceive => by rw [hreceive] at hmessage; cases hmessage) ?_ ?_
    · cases request <;> first | rfl | cases hmessage
    · rw [hsocket]
      rfl

/-- **A turn on a request**, by the kind of request, comes to one of the outcomes of `Turned`. -/
theorem turned_control (request : Request) (response : Nat) :
    Turned target env i (.control (request.create response))
      (turn target env (.control (request.create response)) ⟨i, []⟩) := by
  cases request with
  | bindSocket gatewayAddress =>
    have h : handleControlMessage target env
        ⟨{ i.cleared with activeRequest := some (.bindSocket gatewayAddress response) },
          i.failActive .requestSuperseded⟩ = _ :=
      (bind_ok rfl).trans (bind_ok (bindSocket_spec gatewayAddress))
    rw [turn_control_eq]
    exact (bind_ok h) ▸ .bound gatewayAddress response
  | unbindSocket =>
    rw [turn_control_eq]
    obtain ⟨options, active, deadline, socket, pending⟩ := i
    cases socket <;> exact .unbound response
  | routingActivation message =>
    cases hsocket : i.tcpDataSocket with
    | none =>
      rw [turn_control_eq]
      obtain ⟨options, active, deadline, socket, pending⟩ := i
      cases hsocket
      exact .refused .socketNotBound (.inl rfl) nofun rfl rfl
    | some s =>
      exact turned_handing rfl hsocket (fun es => handle_routingActivation message response)
        (fun e es => rfl) (fun socket es => rfl)
  | sendDiagnosticMessage message =>
    cases hsocket : i.tcpDataSocket with
    | none =>
      rw [turn_control_eq]
      obtain ⟨options, active, deadline, socket, pending⟩ := i
      cases hsocket
      exact .refused .socketNotBound (.inl rfl) nofun rfl rfl
    | some s =>
      exact turned_handing rfl hsocket
        (fun es => handle_sendDiagnosticMessage message response hsocket)
        (fun e es => rfl) (fun socket es => rfl)
  | receiveDiagnosticResponse timeout =>
    rw [turn_control_eq]
    obtain ⟨options, active, deadline, socket, pending⟩ := i
    cases pending with
    | some m => exact .drained rfl
    | none =>
      cases socket with
      | none => exact .refused .socketNotBound (.inl rfl) (fun _ _ _ => rfl) rfl rfl
      | some s =>
        have h : handleControlMessage target env
            ⟨⟨options, some (.receiveDiagnosticResponse timeout response), none, some s, none⟩,
              Inner.failActive ⟨options, active, deadline, some s, none⟩ .requestSuperseded⟩ =
            (deadlineAfter target env timeout >>= fun deadline =>
              awaitUntil deadline (.awaitResponse OwnedMessage.default response)) _ := rfl
        by_cases htime : env.now + timeout ≤ target.maxInstant
        · exact (bind_ok (h.trans (bind_ok (deadlineAfter_ok htime)))) ▸ .listening rfl nofun htime
        · exact (bind_error (h.trans (bind_error (deadlineAfter_late htime)))) ▸
            .lateListening rfl nofun htime

/-! ## Received messages -/

/-- The part behind the match on the payload, where a response is awaited: the request is completed,
and the loop is left if the caller is gone. -/
theorem completeAwaitResponse_waiting {m request : OwnedMessage} {response : Nat}
    (hactive : i.activeRequest = some (.awaitResponse request response)) :
    completeAwaitResponse env m ⟨i, es⟩ = .ok (if env.dropped response then .exit else .stay)
      ⟨{ i with activeRequest := none },
        es ++ [.completed response (.message (request.reply m))]⟩ := by
  obtain ⟨options, active, deadline, socket, pending⟩ := i
  cases hactive
  refine (bind_ok rfl).trans ?_
  by_cases h : request.isResponse m.header.payloadType = true
  · simp only [h, if_true, Message.reply]
    rfl
  · simp only [h, Message.reply]
    rfl

theorem completeAwaitResponse_ack {m : OwnedMessage} {response : Nat}
    (hactive : i.activeRequest = some (.awaitAck response)) :
    completeAwaitResponse env m ⟨i, es⟩ = .ok .stay ⟨i, es⟩ := by
  obtain ⟨options, active, deadline, socket, pending⟩ := i
  cases hactive
  rfl

theorem completeAwaitResponse_stored {m : OwnedMessage} {dm : DiagnosticMessage}
    (hm : m.payload = .diagnosticMessage dm) (hactive : i.activeRequest = none) :
    completeAwaitResponse env m ⟨i, es⟩ =
      .ok .stay ⟨{ i with pendingDiagnosticResponse := some m }, es⟩ := by
  obtain ⟨options, active, deadline, socket, pending⟩ := i
  obtain ⟨header, payload⟩ := m
  cases hactive
  cases hm
  rfl

theorem completeAwaitResponse_passed {m : OwnedMessage}
    (hdm : ∀ dm, m.payload ≠ .diagnosticMessage dm) (hactive : i.activeRequest = none) :
    completeAwaitResponse env m ⟨i, es⟩ = .ok (.update m) ⟨i, es⟩ := by
  obtain ⟨options, active, deadline, socket, pending⟩ := i
  obtain ⟨header, payload⟩ := m
  cases hactive
  cases payload <;> first | rfl | exact absurd rfl (hdm _)

section
variable {message : Except Error OwnedMessage} {j : Inner}

theorem turn_socket_stay
    (h : processReceivedMessage target env message ⟨i, []⟩ = .ok .stay ⟨j, es⟩)
    (hwaiting : Waiting j.activeRequest) :
    turn target env (.socket message) ⟨i, []⟩ = .ok .stay ⟨j, es⟩ :=
  (bind_ok h).trans (bind_ok (handleControlMessage_waiting hwaiting))

theorem turn_socket_leave {r : Processed} (hr : r ≠ .stay)
    (h : processReceivedMessage target env message ⟨i, []⟩ = .ok r ⟨j, es⟩) :
    turn target env (.socket message) ⟨i, []⟩ = .ok r ⟨j, es⟩ := by
  refine (bind_ok h).trans ?_
  cases r with
  | stay => exact absurd rfl hr
  | exit => rfl
  | update m => rfl

theorem turn_socket_error {p : Panic}
    (h : processReceivedMessage target env message ⟨i, []⟩ = .error p ⟨j, es⟩) :
    turn target env (.socket message) ⟨i, []⟩ = .error p ⟨j, es⟩ :=
  bind_error h

end

/-- The outcomes of a message that is not an acknowledgement somebody waits for, once an alive check
has been answered. -/
theorem turned_complete {m : OwnedMessage} (hwaiting : Waiting i.activeRequest)
    (hpositive : m.isPositiveAck = false)
    (hack : ∀ response, i.activeRequest = some (.awaitAck response) →
      ∀ ack, m.payload ≠ .diagnosticMessageAck ack)
    (hroom : m.payload = .aliveCheckRequest → env.socketOpen = true →
      ∀ s, i.tcpDataSocket = some s → ¬ s.Full target)
    (hprocess : processReceivedMessage target env (.ok m) ⟨i, []⟩ =
      completeAwaitResponse env m ⟨i.afterAlive env m, i.aliveEffects env m⟩) :
    Turned target env i (.socket (.ok m)) (turn target env (.socket (.ok m)) ⟨i, []⟩) := by
  have hactive' := i.afterAlive_activeRequest env m
  generalize hactive : i.activeRequest = active at hwaiting
  rw [hactive] at hactive'
  cases hwaiting with
  | none =>
    by_cases hdm : ∃ dm, m.payload = .diagnosticMessage dm
    · obtain ⟨dm, hdm⟩ := hdm
      have halive : ¬ (m.payload = .aliveCheckRequest ∧ env.socketOpen = true) := by
        rw [hdm]
        exact fun h => nomatch h.1
      have hsame : i.afterAlive env m = i := if_neg halive
      have hno : i.aliveEffects env m = [] := if_neg halive
      rw [hsame, hno] at hprocess
      have h := hprocess.trans (completeAwaitResponse_stored hdm hactive)
      have hstay : Waiting { i with pendingDiagnosticResponse := some m }.activeRequest := by
        change Waiting i.activeRequest
        rw [hactive]
        exact .none
      rw [turn_socket_stay h hstay]
      exact .stored hdm hactive
    · have hdm' : ∀ dm, m.payload ≠ .diagnosticMessage dm := fun dm h => hdm ⟨dm, h⟩
      have h := hprocess.trans (completeAwaitResponse_passed hdm' hactive')
      rw [turn_socket_leave (r := .update m) nofun h]
      exact .passed hpositive hdm' hactive hroom
  | ack response =>
    have h := hprocess.trans (completeAwaitResponse_ack hactive')
    rw [turn_socket_stay h (hactive' ▸ .ack response)]
    exact .unheeded (hack response hactive) hactive hroom
  | response request response =>
    have h := hprocess.trans (completeAwaitResponse_waiting hactive')
    have hturn : turn target env (.socket (.ok m)) ⟨i, []⟩ =
        .ok (if env.dropped response then .exit else .stay)
          ⟨{ i.afterAlive env m with activeRequest := none },
            i.aliveEffects env m ++ [.completed response (.message (request.reply m))]⟩ := by
      cases hdropped : env.dropped response with
      | true =>
        rw [hdropped] at h
        exact turn_socket_leave nofun h
      | false =>
        rw [hdropped] at h
        exact turn_socket_stay h .none
    rw [hturn]
    exact .replied hpositive hactive hroom

variable (target env) in
/-- An alive check is answered, and then processed like any other message. That it goes on is what
makes it fail a pending receive. -/
theorem processReceivedMessage_alive {m : OwnedMessage} {s : SocketManager}
    (hsocket : i.tcpDataSocket = some s) (hm : m.payload = .aliveCheckRequest) :
    processReceivedMessage target env (.ok m) ⟨i, []⟩ =
      (s.send target env none i.aliveResponse >>= fun _ => completeAwaitResponse env m)
        ⟨i, []⟩ := by
  simp only [processReceivedMessage, hm]
  refine (bind_ok rfl).trans ?_
  simp only [hsocket]
  exact bind_ok rfl

/-- The outcomes of an alive check. It is answered if the socket is open, and then meets a request
that waits for a response, one that waits for an acknowledgement, or none. -/
theorem turned_alive {m : OwnedMessage} {s : SocketManager} (hwaiting : Waiting i.activeRequest)
    (hsocket : i.tcpDataSocket = some s) (hm : m.payload = .aliveCheckRequest) :
    Turned target env i (.socket (.ok m)) (turn target env (.socket (.ok m)) ⟨i, []⟩) := by
  have hpositive : m.isPositiveAck = false := by rw [Message.isPositiveAck, hm]
  have hack : ∀ ack, m.payload ≠ .diagnosticMessageAck ack := by
    rw [hm]
    exact fun ack => nofun
  have hprocess := processReceivedMessage_alive target env hsocket hm
  by_cases hopen : env.socketOpen = true
  · have hafter : i.afterAlive env m = { i with tcpDataSocket := some s.next } := by
      rw [Inner.afterAlive, if_pos ⟨hm, hopen⟩, hsocket]
      rfl
    have heffects : i.aliveEffects env m = [.handed none i.aliveResponse] := if_pos ⟨hm, hopen⟩
    by_cases hfull : s.Full target
    · have h := hprocess.trans (bind_error (s.send_full _ _ hopen hfull))
      rw [turn_socket_error h, List.nil_append, ← heffects]
      exact .aliveOverflowed hm hsocket hopen hfull
    · refine turned_complete hwaiting hpositive (fun _ _ => hack) ?_ ?_
      · intro _ _ s' hs'
        rw [hsocket] at hs'
        cases hs'
        exact hfull
      · rw [hafter, heffects]
        exact hprocess.trans (bind_ok (s.send_room _ _ hopen hfull))
  · have hclosed : env.socketOpen = false := by simpa using hopen
    refine turned_complete hwaiting hpositive (fun _ _ => hack) (fun _ h => absurd h hopen) ?_
    have hno : ¬ (m.payload = .aliveCheckRequest ∧ env.socketOpen = true) := fun h => hopen h.2
    rw [Inner.afterAlive, Inner.aliveEffects, if_neg hno, if_neg hno]
    exact hprocess.trans (bind_ok (s.send_closed _ _ hclosed))

/-- The outcomes of a message that is no alive check and no acknowledgement of use: nothing is
handed to the socket, and the message goes where what waits sends it. -/
theorem turned_plain {m : OwnedMessage} (hwaiting : Waiting i.activeRequest)
    (hm : m.payload ≠ .aliveCheckRequest) (hpositive : m.isPositiveAck = false)
    (hack : ∀ response, i.activeRequest = some (.awaitAck response) →
      ∀ ack, m.payload ≠ .diagnosticMessageAck ack)
    (hprocess : processReceivedMessage target env (.ok m) ⟨i, []⟩ =
      completeAwaitResponse env m ⟨i, []⟩) :
    Turned target env i (.socket (.ok m)) (turn target env (.socket (.ok m)) ⟨i, []⟩) := by
  refine turned_complete hwaiting hpositive hack (fun h => absurd h hm) ?_
  have hno : ¬ (m.payload = .aliveCheckRequest ∧ env.socketOpen = true) := fun h => hm h.1
  rw [Inner.afterAlive, Inner.aliveEffects, if_neg hno, if_neg hno]
  exact hprocess

/-- The outcomes of an acknowledgement: it completes a send, or is dropped, or goes on as any other
message if it is a negative one. -/
theorem turned_ack {m : OwnedMessage} {ack : DiagnosticMessageAck}
    (hwaiting : Waiting i.activeRequest) (hm : m.payload = .diagnosticMessageAck ack) :
    Turned target env i (.socket (.ok m)) (turn target env (.socket (.ok m)) ⟨i, []⟩) := by
  by_cases hactive : ∃ response, i.activeRequest = some (.awaitAck response)
  · obtain ⟨response, hactive⟩ := hactive
    have h : processReceivedMessage target env (.ok m) ⟨i, []⟩ =
        .ok .stay ⟨i.cleared, [.completed response (.done ack.result)]⟩ := by
      obtain ⟨options, active, deadline, socket, pending⟩ := i
      cases hactive
      simp only [processReceivedMessage, hm]
      rfl
    rw [turn_socket_stay h .none]
    exact .acked hm hactive
  · have hactive' : ∀ response, i.activeRequest ≠ some (.awaitAck response) :=
      fun response h => hactive ⟨response, h⟩
    have hprocess : processReceivedMessage target env (.ok m) ⟨i, []⟩ =
        (if ack.ackCode.isPositiveAck then pure .stay else completeAwaitResponse env m)
          ⟨i, []⟩ := by
      simp only [processReceivedMessage, hm]
      obtain ⟨options, active, deadline, socket, pending⟩ := i
      cases hwaiting with
      | none => rfl
      | ack response => exact absurd rfl (hactive' response)
      | response request response => rfl
    by_cases hpositive : ack.ackCode.isPositiveAck = true
    · rw [if_pos hpositive] at hprocess
      rw [turn_socket_stay hprocess hwaiting]
      exact .ackDropped (by rw [Message.isPositiveAck, hm]; exact hpositive) hactive'
    · rw [if_neg hpositive] at hprocess
      refine turned_plain hwaiting (by rw [hm]; nofun) ?_ ?_ hprocess
      · rw [Message.isPositiveAck, hm]
        simpa using hpositive
      · exact fun response h => absurd h (hactive' response)

/-- **A turn on a received message** comes to one of the outcomes of `Turned`. There is a socket to
receive it from, which is what the `unwrap` in the answer to an alive check relies on. -/
theorem turned_received {m : OwnedMessage} {s : SocketManager} (hwaiting : Waiting i.activeRequest)
    (hsocket : i.tcpDataSocket = some s) :
    Turned target env i (.socket (.ok m)) (turn target env (.socket (.ok m)) ⟨i, []⟩) := by
  by_cases hack : ∃ ack, m.payload = .diagnosticMessageAck ack
  · obtain ⟨ack, hack⟩ := hack
    exact turned_ack hwaiting hack
  · by_cases halive : m.payload = .aliveCheckRequest
    · exact turned_alive hwaiting hsocket halive
    · obtain ⟨header, payload⟩ := m
      have hack' : ∀ ack, payload ≠ .diagnosticMessageAck ack := fun ack h => hack ⟨ack, h⟩
      refine turned_plain hwaiting halive ?_ (fun _ _ => hack') ?_
      · cases payload <;> first | rfl | exact absurd rfl (hack' _)
      · cases payload <;> first | rfl | exact absurd rfl (hack' _) | exact absurd rfl halive

/-! ## Every turn -/

/-- What a branch needs to be ready: a deadline needs a request that waits, a control message comes
from a request of a user, and what is received needs a socket. -/
def Select.Ready (i : Inner) : Select → Prop
  | .deadline => i.activeRequest ≠ none
  | .control message => ∃ (request : Request) (response : Nat), message = request.create response
  | .socket _ => i.tcpDataSocket ≠ none

variable (target env) in
/-- **What a turn does**: from the head of the loop, on a branch that is ready, it comes to one of
the outcomes of `Turned`. Everything else about turns follows from this one specification. -/
theorem turn_spec {select : Select} (hwaiting : Waiting i.activeRequest) (hready : select.Ready i) :
    Turned target env i select (turn target env select ⟨i, []⟩) := by
  cases select with
  | deadline =>
    obtain ⟨options, active, deadline, socket, pending⟩ := i
    cases hwaiting with
    | none => exact absurd rfl hready
    | ack response => exact .expired rfl
    | response request response => exact .expired rfl
  | control message =>
    obtain ⟨request, response, rfl⟩ := hready
    exact turned_control request response
  | socket message =>
    cases message with
    | ok m =>
      obtain ⟨s, hsocket⟩ := Option.ne_none_iff_exists'.mp hready
      exact turned_received hwaiting hsocket
    | error e =>
      obtain ⟨options, active, deadline, socket, pending⟩ := i
      cases hwaiting with
      | none => exact .broken e
      | ack response => exact .broken e
      | response request response => exact .broken e

/-- A turn that ends in the loop ends with a request that waits, or none, so that the next turn can
be described in the same way. -/
theorem Turned.waiting {select : Select} {r : Processed} {t : Task}
    (hwaiting : Waiting i.activeRequest)
    (h : Turned target env i select (.ok r t)) : Waiting t.inner.activeRequest := by
  cases h with
  | expired | bound | unbound | refused | drained | acked | replied | broken => exact .none
  | listening => exact .response _ _
  | @sent request message s hmessage =>
    cases request with
    | routingActivation message response => exact .response _ _
    | sendDiagnosticMessage message response => exact .ack _
    | _ => cases hmessage
  | ackDropped | stored => exact hwaiting
  | passed | unheeded =>
    change Waiting (Inner.afterAlive env i _).activeRequest
    rw [Inner.afterAlive_activeRequest]
    exact hwaiting

end

end SimpleDoip
