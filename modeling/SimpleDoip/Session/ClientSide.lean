import SimpleDoip.Session.Network

/-!
# The client during a session

What each turn of a session does to the client. `Setting.ClientAt` is the client at the head of its
loop with a given active request, buffer and control channel, and there is one lemma for each thing
that can happen to it: a request is issued and taken, an acknowledgement or a response arrives.
-/

namespace SimpleDoip

/-! ## Turns -/

section
variable {target : Target} {env : Env} {i : Inner}

theorem Inner.failActive_of_none (h : i.activeRequest = none) (e : Error) :
    i.failActive e = [] := by
  rw [failActive, h]

/-- A send that finds the socket open and room in the counter is handed over, and waits for its
acknowledgement until its timeout is over. -/
theorem turn_send {s : SocketManager} (m : OwnedMessage) (r : Nat)
    (hactive : i.activeRequest = none) (hsocket : i.tcpDataSocket = some s)
    (hopen : env.socketOpen = true) (hroom : ¬ s.Full target)
    (htime : env.now + i.clientOptions.diagnosticMessageTimeout ≤ target.maxInstant) :
    turn target env (.control (.sendDiagnosticMessage m r)) ⟨i, []⟩ = .ok .stay
      ⟨{ i with
          activeRequest := some (.awaitAck r)
          awaitResponseDeadline := some (env.now + i.clientOptions.diagnosticMessageTimeout)
          tcpDataSocket := some s.next },
        [.handed (some r) m]⟩ := by
  have h : Turned target env i (.control (.sendDiagnosticMessage m r))
      (turn target env (.control (.sendDiagnosticMessage m r)) ⟨i, []⟩) :=
    turned_control (.sendDiagnosticMessage m) r
  generalize turn target env (.control (.sendDiagnosticMessage m r)) ⟨i, []⟩ = out at h ⊢
  cases h with
  | refused e hrefused =>
    rcases hrefused with hnone | ⟨hclosed, -⟩
    · rw [hsocket] at hnone
      cases hnone
    · rw [hopen] at hclosed
      cases hclosed
  | sent hmessage hsocket' =>
    rw [hsocket] at hsocket'
    cases hsocket'
    cases hmessage
    rw [i.failActive_of_none hactive]
    rfl
  | overflowed hmessage hsocket' hopen' hfull =>
    rw [hsocket] at hsocket'
    cases hsocket'
    exact absurd hfull hroom
  | late hmessage hsocket' hopen' hroom' hlate => exact absurd htime hlate

/-- A send that meets a full counter panics after its message was put into the channel. The message
is sent, and nobody is left to await its acknowledgement. -/
theorem turn_send_full {s : SocketManager} (m : OwnedMessage) (r : Nat)
    (hactive : i.activeRequest = none) (hsocket : i.tcpDataSocket = some s)
    (hopen : env.socketOpen = true) (hfull : s.Full target) :
    turn target env (.control (.sendDiagnosticMessage m r)) ⟨i, []⟩ =
      .error .overflow ⟨i.cleared, [.handed (some r) m]⟩ := by
  have h : Turned target env i (.control (.sendDiagnosticMessage m r))
      (turn target env (.control (.sendDiagnosticMessage m r)) ⟨i, []⟩) :=
    turned_control (.sendDiagnosticMessage m) r
  generalize turn target env (.control (.sendDiagnosticMessage m r)) ⟨i, []⟩ = out at h ⊢
  cases h with
  | refused e hrefused =>
    rcases hrefused with hnone | ⟨hclosed, -⟩
    · rw [hsocket] at hnone
      cases hnone
    · rw [hopen] at hclosed
      cases hclosed
  | sent hmessage hsocket' hopen' hroom | late hmessage hsocket' hopen' hroom =>
    rw [hsocket] at hsocket'
    cases hsocket'
    exact absurd hfull hroom
  | overflowed hmessage =>
    cases hmessage
    rw [i.failActive_of_none hactive]
    rfl

/-- A receive that finds the buffer empty waits for a response. It records the default message as
its own, of which a diagnostic message counts as a response. -/
theorem turn_listen (t r : Nat) (hactive : i.activeRequest = none)
    (hpending : i.pendingDiagnosticResponse = none) (hsocket : i.tcpDataSocket ≠ none)
    (htime : env.now + t ≤ target.maxInstant) :
    turn target env (.control (.receiveDiagnosticResponse t r)) ⟨i, []⟩ = .ok .stay
      ⟨{ i with
          activeRequest := some (.awaitResponse OwnedMessage.default r)
          awaitResponseDeadline := some (env.now + t) }, []⟩ := by
  have h : Turned target env i (.control (.receiveDiagnosticResponse t r))
      (turn target env (.control (.receiveDiagnosticResponse t r)) ⟨i, []⟩) :=
    turned_control (.receiveDiagnosticResponse t) r
  generalize turn target env (.control (.receiveDiagnosticResponse t r)) ⟨i, []⟩ = out at h ⊢
  cases h with
  | refused e hrefused =>
    rcases hrefused with hnone | ⟨-, hout⟩
    · exact absurd hnone hsocket
    · exact absurd rfl hout
  | drained hsome =>
    rw [hpending] at hsome
    cases hsome
  | listening => rw [i.failActive_of_none hactive]
  | sent hmessage => cases hmessage
  | overflowed hmessage => cases hmessage
  | late hmessage => cases hmessage
  | lateListening _ _ hlate => exact absurd htime hlate

/-- A receive that finds a response in the buffer returns it at once, and the buffer is empty
again. -/
theorem turn_drain {m : OwnedMessage} (t r : Nat) (hactive : i.activeRequest = none)
    (hpending : i.pendingDiagnosticResponse = some m) (hsocket : i.tcpDataSocket ≠ none) :
    turn target env (.control (.receiveDiagnosticResponse t r)) ⟨i, []⟩ = .ok .stay
      ⟨{ i.cleared with pendingDiagnosticResponse := none },
        [.completed r (.message (.ok m))]⟩ := by
  have h : Turned target env i (.control (.receiveDiagnosticResponse t r))
      (turn target env (.control (.receiveDiagnosticResponse t r)) ⟨i, []⟩) :=
    turned_control (.receiveDiagnosticResponse t) r
  generalize turn target env (.control (.receiveDiagnosticResponse t r)) ⟨i, []⟩ = out at h ⊢
  cases h with
  | refused e hrefused =>
    rcases hrefused with hnone | ⟨-, hout⟩
    · exact absurd hnone hsocket
    · exact absurd rfl hout
  | drained hsome =>
    rw [hpending] at hsome
    cases hsome
    rw [i.failActive_of_none hactive]
    rfl
  | listening hnone =>
    rw [hpending] at hnone
    cases hnone
  | sent hmessage => cases hmessage
  | overflowed hmessage => cases hmessage
  | late hmessage => cases hmessage
  | lateListening hnone =>
    rw [hpending] at hnone
    cases hnone

/-- A positive acknowledgement completes the send that waits for one, whatever message it
acknowledges. -/
theorem turn_ack {m : OwnedMessage} {ack : DiagnosticMessageAck} {r : Nat}
    (hm : m.payload = .diagnosticMessageAck ack) (hpositive : ack.ackCode.isPositiveAck = true)
    (hactive : i.activeRequest = some (.awaitAck r)) :
    turn target env (.socket (.ok m)) ⟨i, []⟩ =
      .ok .stay ⟨i.cleared, [.completed r (.done (.ok ()))]⟩ := by
  have hwaiting : Waiting i.activeRequest := by
    rw [hactive]
    exact .ack r
  have h : Turned target env i (.socket (.ok m)) (turn target env (.socket (.ok m)) ⟨i, []⟩) :=
    turned_ack hwaiting hm
  generalize turn target env (.socket (.ok m)) ⟨i, []⟩ = out at h ⊢
  have hpos : m.isPositiveAck = true := by
    rw [Message.isPositiveAck, hm]
    exact hpositive
  cases h with
  | acked hm' hactive' =>
    rw [hm] at hm'
    rw [hactive] at hactive'
    cases hm'
    cases hactive'
    rw [DiagnosticMessageAck.result, if_pos hpositive]
  | ackDropped _ hnone => exact absurd hactive (hnone r)
  | replied _ hactive' =>
    rw [hactive] at hactive'
    cases hactive'
  | stored hm' =>
    rw [hm] at hm'
    cases hm'
  | passed hnot =>
    rw [hpos] at hnot
    cases hnot
  | unheeded hnot => exact absurd hm (hnot ack)
  | aliveOverflowed hm' =>
    rw [hm] at hm'
    cases hm'

section
variable {m : OwnedMessage} {dm : DiagnosticMessage}

theorem processReceivedMessage_response (hm : m.payload = .diagnosticMessage dm) :
    processReceivedMessage target env (.ok m) ⟨i, []⟩ = completeAwaitResponse env m ⟨i, []⟩ := by
  simp only [processReceivedMessage, hm]

/-- A response that arrives while nothing is active goes to the buffer, over what is in it. -/
theorem turn_store (hm : m.payload = .diagnosticMessage dm) (hactive : i.activeRequest = none) :
    turn target env (.socket (.ok m)) ⟨i, []⟩ =
      .ok .stay ⟨{ i with pendingDiagnosticResponse := some m }, []⟩ := by
  refine turn_socket_stay ((processReceivedMessage_response hm).trans
    (completeAwaitResponse_stored hm hactive)) ?_
  change Waiting i.activeRequest
  rw [hactive]
  exact .none

/-- A response completes the receive that waits for it, as long as its caller has not given it
up. -/
theorem turn_respond {r : Nat} (hm : m.payload = .diagnosticMessage dm)
    (htype : m.header.payloadType = .diagnosticMessage) (hdropped : env.dropped r = false)
    (hactive : i.activeRequest = some (.awaitResponse OwnedMessage.default r)) :
    turn target env (.socket (.ok m)) ⟨i, []⟩ =
      .ok .stay ⟨{ i with activeRequest := none }, [.completed r (.message (.ok m))]⟩ := by
  have hreply : OwnedMessage.default.reply m = .ok m := by
    rw [Message.reply, htype]
    rfl
  have h : processReceivedMessage target env (.ok m) ⟨i, []⟩ = _ :=
    (processReceivedMessage_response hm).trans (completeAwaitResponse_waiting hactive)
  rw [hdropped, hreply] at h
  exact turn_socket_stay h .none

end

end

/-! ## The client between turns -/

/-- What is fixed during a session: the build, the latest time, the client's options, and the number
of the session's first request. -/
structure Setting where
  target : Target
  horizon : Nat
  options : ClientOptions
  first : Nat

/-- The client at the head of its loop: `taken` requests were taken and `queue` waits in the control
channel, the given request is active, the given message is in the buffer, and `room` more messages
fit the session counter. No caller of the session has gone away. -/
structure Setting.ClientAt (c : Setting) (w : World) (active : Option ControlMessage)
    (pending : Option OwnedMessage) (queue : List Request) (taken room : Nat) : Prop where
  head : w.phase = .loopHead
  options : w.inner.clientOptions = c.options
  activeRequest : w.inner.activeRequest = active
  pendingResponse : w.inner.pendingDiagnosticResponse = pending
  socket : ∃ s, w.inner.tcpDataSocket = some s ∧
    (c.target.overflowChecks = true → s.sessionId.toNat + room ≤ 0xFFFF)
  takenRequests : w.taken = taken
  issued : w.requests.length = taken + queue.length
  waiting : w.requests.drop taken = queue
  dropped : ∀ r ∈ w.dropped, r < c.first
  control : w.controlOpen = true
  clock : w.clock ≤ c.horizon

section
variable {c : Setting} {w : World} {active : Option ControlMessage}
  {pending : Option OwnedMessage} {queue : List Request} {request : Request} {taken room : Nat}

/-- A turn that stays in the loop leaves what it records: the task at the head of its loop, and the
log with the turn's entries. -/
theorem World.step_stay {target : Target} {branch : Branch} {select : Select} {t : Task}
    {connect : Except Error Unit} (hhead : w.phase = .loopHead)
    (hselect : w.select branch = some select)
    (hturn : turn target (w.env true connect) select ⟨w.inner, []⟩ = .ok .stay t) :
    w.step target (.turn branch true connect) = some (w.record select t) := by
  rw [World.step_turn target hhead hselect, hturn]
  rfl

namespace Setting.ClientAt

theorem select_control (h : c.ClientAt w active pending (request :: queue) taken room) :
    w.select .control = some (.control (request.create taken)) := by
  have hget : w.requests[taken]? = some request := by
    rw [← List.head?_drop, h.waiting]
    rfl
  rw [World.select, h.takenRequests, hget]
  rfl

/-- How many requests wait in the control channel: those of `queue` and no others. -/
theorem backlog (h : c.ClientAt w active pending queue taken room) :
    w.requests.length - w.taken = queue.length := by
  rw [h.takenRequests, h.issued]
  exact Nat.add_sub_cancel_left _ _

/-- With nothing in the control channel there is nothing to take, and no turn on its branch. -/
theorem step_control_none (h : c.ClientAt w active pending [] taken room)
    (connect : Except Error Unit) : w.step c.target (.turn .control true connect) = none := by
  have hget : w.requests[taken]? = none := by
    rw [← List.head?_drop, h.waiting]
    rfl
  have hselect : w.select .control = none := by
    rw [World.select, h.takenRequests, hget]
    rfl
  simp only [World.step, h.head, hselect, h.control, if_true, not_true_eq_false, and_false,
    if_false]

theorem select_socket (h : c.ClientAt w active pending queue taken room) (m : OwnedMessage) :
    w.select (.socket (.message m)) = some (.socket (.ok m)) := by
  obtain ⟨s, hs, -⟩ := h.socket
  rw [World.select, hs]
  rfl

/-- A request of the session has its caller: nobody gave up a request from `first` on. -/
theorem not_dropped (h : c.ClientAt w active pending queue taken room) {r : Nat}
    (hr : c.first ≤ r) (connect : Except Error Unit) :
    (w.env true connect).dropped r = false := by
  refine decide_eq_false fun hmem => ?_
  have := h.dropped r hmem
  omega

/-- The record of a turn on a message. It takes no request, so the queue and the room in the counter
are as they were. -/
theorem record_socket (h : c.ClientAt w active pending queue taken room) (m : OwnedMessage)
    {t : Task} (hoptions : t.inner.clientOptions = w.inner.clientOptions)
    (hsocket : t.inner.tcpDataSocket = w.inner.tcpDataSocket) :
    c.ClientAt (w.record (.socket (.ok m)) t) t.inner.activeRequest
      t.inner.pendingDiagnosticResponse queue taken room where
  head := h.head
  options := hoptions.trans h.options
  activeRequest := rfl
  pendingResponse := rfl
  socket := by
    obtain ⟨s, hs, hcount⟩ := h.socket
    exact ⟨s, hsocket.trans hs, hcount⟩
  takenRequests := h.takenRequests
  issued := h.issued
  waiting := h.waiting
  dropped := h.dropped
  control := h.control
  clock := h.clock

/-- The record of a turn on the next request. It leaves the queue, and the counter has as much room
as the turn leaves it. -/
theorem record_control {room' : Nat}
    (h : c.ClientAt w active pending (request :: queue) taken room) {t : Task}
    (hoptions : t.inner.clientOptions = w.inner.clientOptions)
    (hsocket : ∃ s, t.inner.tcpDataSocket = some s ∧
      (c.target.overflowChecks = true → s.sessionId.toNat + room' ≤ 0xFFFF)) :
    c.ClientAt (w.record (.control (request.create taken)) t) t.inner.activeRequest
      t.inner.pendingDiagnosticResponse queue (taken + 1) room' where
  head := h.head
  options := hoptions.trans h.options
  activeRequest := rfl
  pendingResponse := rfl
  socket := hsocket
  takenRequests := congrArg (· + 1) h.takenRequests
  issued := by
    have hlen := h.issued
    rw [List.length_cons] at hlen
    change w.requests.length = _
    omega
  waiting := by
    change w.requests.drop (taken + 1) = queue
    rw [← List.drop_drop, h.waiting, List.drop_one, List.tail_cons]
  dropped := h.dropped
  control := h.control
  clock := h.clock

/-- The user issues a request. The channel was empty, so there is room, and the request has the
number of those taken. -/
theorem issue (h : c.ClientAt w active pending [] taken room) (request : Request) :
    ∃ w', w.step c.target (.issue request) = some w' ∧ w.requests.length = taken ∧
      c.ClientAt w' active pending [request] taken room ∧ w'.log = w.log := by
  have hlen := h.issued
  have hguard : w.InLoop ∧ w.controlOpen ∧ w.requests.length - w.taken < CHANNEL_CAP := by
    refine ⟨.inl h.head, h.control, ?_⟩
    rw [h.takenRequests, hlen, List.length_nil, Nat.add_zero, Nat.sub_self]
    decide
  refine ⟨{ w with requests := w.requests ++ [request] }, ?_, hlen, ?_, rfl⟩
  · rw [World.step, if_pos hguard]
  · have hdrop : (w.requests ++ [request]).drop taken = [request] := List.drop_left' hlen
    exact {
      head := h.head, options := h.options, activeRequest := h.activeRequest
      pendingResponse := h.pendingResponse, socket := h.socket, takenRequests := h.takenRequests
      dropped := h.dropped, control := h.control, clock := h.clock, waiting := hdrop
      issued := by
        change (w.requests ++ [request]).length = _
        rw [List.length_append, hlen]
        rfl }

/-- Time passes, within the horizon. The description has no deadline in it, so only the clock is to
be checked. -/
theorem wait (h : c.ClientAt w active pending queue taken room) {d : Nat}
    (hd : w.clock + d ≤ c.horizon) :
    c.ClientAt { w with clock := w.clock + d } active pending queue taken room :=
  { h with clock := hd }

/-- The client takes a send: it hands the message to the socket and waits for the acknowledgement,
and the counter has room for one message less. -/
theorem takeSend {m : OwnedMessage}
    (h : c.ClientAt w none pending (.sendDiagnosticMessage m :: queue) taken (room + 1))
    (htime : c.horizon + c.options.diagnosticMessageTimeout ≤ c.target.maxInstant)
    (connect : Except Error Unit) :
    ∃ w', w.step c.target (.turn .control true connect) = some w' ∧
      c.ClientAt w' (some (.awaitAck taken)) pending queue (taken + 1) room ∧
      w'.log = w.log ++ [.taken taken, .did (.handed (some taken) m)] := by
  obtain ⟨s, hs, hcount⟩ := h.socket
  have hclock := h.clock
  have hroom : ¬ s.Full c.target := by
    rintro ⟨hchecks, hfull⟩
    have := hcount hchecks
    rw [hfull] at this
    have h16 : (0xFFFF : UInt16).toNat = 0xFFFF := rfl
    omega
  have hnow : (w.env true connect).now + w.inner.clientOptions.diagnosticMessageTimeout ≤
      c.target.maxInstant := by
    rw [h.options]
    change w.clock + _ ≤ _
    omega
  have hturn := turn_send m taken h.activeRequest hs rfl hroom hnow
  refine ⟨_, World.step_stay h.head h.select_control hturn, ?_, rfl⟩
  have hnext : ∃ s', some s.next = some s' ∧
      (c.target.overflowChecks = true → s'.sessionId.toNat + room ≤ 0xFFFF) := by
    refine ⟨s.next, rfl, fun hchecks => ?_⟩
    have hle := hcount hchecks
    have hadd : (s.sessionId + 1).toNat = s.sessionId.toNat + 1 := by
      rw [UInt16.toNat_add]
      change (s.sessionId.toNat + 1) % 2 ^ 16 = _
      omega
    change (s.sessionId + 1).toNat + room ≤ _
    omega
  rw [← h.pendingResponse]
  exact h.record_control rfl hnext

/-- The client takes a send that the session counter has no room for, and panics. The message has
been handed to the socket by then. -/
theorem takeSend_full {m : OwnedMessage} {s : SocketManager}
    (h : c.ClientAt w none pending (.sendDiagnosticMessage m :: queue) taken room)
    (hs : w.inner.tcpDataSocket = some s) (hfull : s.Full c.target)
    (connect : Except Error Unit) :
    ∃ w', w.step c.target (.turn .control true connect) = some w' ∧
      w'.phase = .panicked .overflow ∧
      w'.log = w.log ++ [.taken taken, .did (.handed (some taken) m)] := by
  have hturn : turn c.target (w.env true connect) (.control (.sendDiagnosticMessage m taken))
      ⟨w.inner, []⟩ = _ := turn_send_full m taken h.activeRequest hs rfl hfull
  refine ⟨_, World.step_turn c.target h.head h.select_control true connect, ?_, ?_⟩
  · rw [Request.create, hturn]
    rfl
  · rw [World.finish_log, Request.create, hturn]
    rfl

/-- The same for a send that the user has yet to issue: there is room for it in the control channel,
and the turn that takes it panics. -/
theorem issueSend_full {s : SocketManager} (h : c.ClientAt w none pending [] taken room)
    (hs : w.inner.tcpDataSocket = some s) (hfull : s.Full c.target) (m : OwnedMessage)
    (connect : Except Error Unit) :
    ∃ w₁ w₂, w.step c.target (.issue (.sendDiagnosticMessage m)) = some w₁ ∧
      w₁.step c.target (.turn .control true connect) = some w₂ ∧
      w.requests.length = taken ∧ w₂.phase = .panicked .overflow ∧ w₁.log = w.log ∧
      w₂.log = w₁.log ++ [.taken taken, .did (.handed (some taken) m)] := by
  obtain ⟨w₁, hissue, hid, hissued, hlog₁⟩ := h.issue (.sendDiagnosticMessage m)
  have hs₁ : w₁.inner.tcpDataSocket = some s := by
    cases World.moved_of_step hissue with
    | issued => exact hs
  obtain ⟨w₂, hturn, hpanicked, hlog₂⟩ := hissued.takeSend_full hs₁ hfull connect
  exact ⟨w₁, w₂, hissue, hturn, hid, hpanicked, hlog₁, hlog₂⟩

/-- The client takes a receive while its buffer is empty, and waits for the response. -/
theorem takeReceive {t : Nat}
    (h : c.ClientAt w none none (.receiveDiagnosticResponse t :: queue) taken room)
    (htime : c.horizon + t ≤ c.target.maxInstant) (connect : Except Error Unit) :
    ∃ w', w.step c.target (.turn .control true connect) = some w' ∧
      c.ClientAt w' (some (.awaitResponse OwnedMessage.default taken)) none queue (taken + 1)
        room ∧
      w'.log = w.log ++ [.taken taken] := by
  obtain ⟨s, hs, hcount⟩ := h.socket
  have hclock := h.clock
  have hnow : (w.env true connect).now + t ≤ c.target.maxInstant := by
    change w.clock + t ≤ _
    omega
  have hsome : w.inner.tcpDataSocket ≠ none := by
    rw [hs]
    nofun
  have hturn := turn_listen t taken h.activeRequest h.pendingResponse hsome hnow
  refine ⟨_, World.step_stay h.head h.select_control hturn, ?_, rfl⟩
  rw [← h.pendingResponse]
  exact h.record_control rfl ⟨s, hs, hcount⟩

/-- The client takes a receive while a response is in its buffer, and completes it with that
response. -/
theorem takeReceiveStored {t : Nat} {m : OwnedMessage}
    (h : c.ClientAt w none (some m) (.receiveDiagnosticResponse t :: queue) taken room)
    (connect : Except Error Unit) :
    ∃ w', w.step c.target (.turn .control true connect) = some w' ∧
      c.ClientAt w' none none queue (taken + 1) room ∧
      w'.log = w.log ++ [.taken taken, .did (.completed taken (.message (.ok m)))] := by
  obtain ⟨s, hs, hcount⟩ := h.socket
  have hsome : w.inner.tcpDataSocket ≠ none := by
    rw [hs]
    nofun
  refine ⟨_, World.step_stay h.head h.select_control
    (turn_drain t taken h.activeRequest h.pendingResponse hsome), ?_, rfl⟩
  exact h.record_control rfl ⟨s, hs, hcount⟩

section
variable {m : OwnedMessage}

/-- The acknowledgement of the send arrives and completes it. What is in the buffer stays there. -/
theorem takeAck {ack : DiagnosticMessageAck} {r : Nat}
    (h : c.ClientAt w (some (.awaitAck r)) pending queue taken room)
    (hm : m.payload = .diagnosticMessageAck ack) (hpositive : ack.ackCode.isPositiveAck = true)
    (connect : Except Error Unit) :
    ∃ w', w.step c.target (.turn (.socket (.message m)) true connect) = some w' ∧
      c.ClientAt w' none pending queue taken room ∧
      w'.log = w.log ++ [.received (.ok m), .did (.completed r (.done (.ok ())))] := by
  refine ⟨_, World.step_stay h.head (h.select_socket m)
    (turn_ack hm hpositive h.activeRequest), ?_, rfl⟩
  rw [← h.pendingResponse]
  exact h.record_socket m rfl rfl

variable {dm : DiagnosticMessage}

/-- A response arrives before its receive is taken, and the client keeps it in its buffer. -/
theorem takeResponseEarly (h : c.ClientAt w none pending queue taken room)
    (hm : m.payload = .diagnosticMessage dm) (connect : Except Error Unit) :
    ∃ w', w.step c.target (.turn (.socket (.message m)) true connect) = some w' ∧
      c.ClientAt w' none (some m) queue taken room ∧
      w'.log = w.log ++ [.received (.ok m)] := by
  refine ⟨_, World.step_stay h.head (h.select_socket m)
    (turn_store hm h.activeRequest), ?_, rfl⟩
  have hrecord := h.record_socket m
    (t := ⟨{ w.inner with pendingDiagnosticResponse := some m }, []⟩) rfl rfl
  rwa [show Inner.activeRequest { w.inner with pendingDiagnosticResponse := some m } = none from
    h.activeRequest] at hrecord

/-- A response arrives while its receive waits, and completes it. -/
theorem takeResponse {r : Nat}
    (h : c.ClientAt w (some (.awaitResponse OwnedMessage.default r)) pending queue taken room)
    (hr : c.first ≤ r) (hm : m.payload = .diagnosticMessage dm)
    (htype : m.header.payloadType = .diagnosticMessage) (connect : Except Error Unit) :
    ∃ w', w.step c.target (.turn (.socket (.message m)) true connect) = some w' ∧
      c.ClientAt w' none pending queue taken room ∧
      w'.log = w.log ++ [.received (.ok m), .did (.completed r (.message (.ok m)))] := by
  refine ⟨_, World.step_stay h.head (h.select_socket m)
    (turn_respond hm htype (h.not_dropped hr connect) h.activeRequest), ?_, rfl⟩
  rw [← h.pendingResponse]
  exact h.record_socket m rfl rfl

end

end Setting.ClientAt

end

end SimpleDoip
