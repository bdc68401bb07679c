import SimpleDoip.Lib.Transition
import SimpleDoip.Server.Model

/-!
# Routing activation at the async server

The server remembers the tester that activated routing, but hands every diagnostic message to the
handler, whoever sent it and whether or not anybody activated routing. `Server.Gated` is the gate
that the bare-metal entity has; `diagnostic_gate_iff` says when a connection keeps to it, which is
up to the tester.
-/

namespace SimpleDoip

open Transition

/-- The address that a routing activation granted, if the handler answered it with a success
code. -/
def HandlerCall.granted {ι : Type} : HandlerCall ι → Option LogicalAddress
  | .routingActivation request (.ok response) =>
    match response.payload with
    | .routingActivationResponse activationResponse =>
      if activationResponse.routingActivationResponseCode.isSuccess then some request.sourceAddress
      else none
    | _ => none
  | _ => none

/-- The diagnostic message that was read, if it is one. -/
def Read.diagnostic : Read → Option DiagnosticMessage
  | .message m =>
    match m.payload with
    | .diagnosticMessage dm => some dm
    | _ => none
  | _ => none

/-- The request that was read, if it is one the handler is called with. -/
def Read.request : Read → Option Payload
  | .message m =>
    match m.payload with
    | .aliveCheckRequest => some .aliveCheckRequest
    | .diagnosticMessage dm => some (.diagnosticMessage dm)
    | .routingActivationRequest request => some (.routingActivationRequest request)
    | _ => none
  | _ => none

/-- The request a call of the handler is about, as it was read. -/
def HandlerCall.request {ι : Type} : HandlerCall ι → Payload
  | .routingActivation request _ => .routingActivationRequest request
  | .diagnosticMessage dm => .diagnosticMessage dm
  | .aliveCheck _ => .aliveCheckRequest

namespace Server

section
variable {ι η : Type}

/-- The tester whose routing activation was granted last, by the calls of the handler alone. -/
def activeTester (calls : List (HandlerCall ι)) : Option LogicalAddress :=
  (calls.filterMap HandlerCall.granted).getLast?

/-- The handler gets a diagnostic message only after it granted a routing activation, and only from
the tester it granted the last one to. -/
def Gated (calls : List (HandlerCall ι)) : Prop :=
  ∀ before message after, calls = before ++ .diagnosticMessage message :: after →
    activeTester before = some message.sourceAddress

/-! ## The gate of a log -/

theorem activeTester_snoc (calls : List (HandlerCall ι)) (call : HandlerCall ι) :
    activeTester (calls ++ [call]) = call.granted.or (activeTester calls) := by
  rw [activeTester, List.filterMap_append]
  cases hgranted : call.granted with
  | none => simp [activeTester, hgranted]
  | some address => simp [hgranted]

theorem gated_nil : Gated ([] : List (HandlerCall ι)) := by
  intro before message after h
  cases before <;> cases h

/-- One more call keeps to the gate if it is not a diagnostic message, or one from the active
tester. -/
theorem gated_snoc_iff (calls : List (HandlerCall ι)) (call : HandlerCall ι) :
    Gated (calls ++ [call]) ↔ Gated calls ∧
      ∀ message, call = .diagnosticMessage message →
        activeTester calls = some message.sourceAddress := by
  constructor
  · intro h
    refine ⟨fun before message after heq => ?_, ?_⟩
    · refine h before message (after ++ [call]) ?_
      rw [heq, List.append_assoc]
      rfl
    · rintro message rfl
      exact h calls message [] rfl
  · rintro ⟨hcalls, hcall⟩ before message after heq
    rcases split_snoc heq with ⟨rfl, hnew⟩ | ⟨after', heq⟩
    · exact hcall message hnew
    · exact hcalls before message after' heq

/-! ## What a read does -/

variable [WireCodec ι] [Framed ι]

/-- A diagnostic message arrives from the tester that the server remembers. -/
def ArrivesActivated (s : Serving ι η) (read : Read) : Prop :=
  ∀ message, read.diagnostic = some message →
    s.connection.testerLogicalAddress = some message.sourceAddress

/-- The connection that code leaves, whether it ended with an error or not. -/
def resultConnection {α : Type} : EStateM.Result (ServerError ι) (Connection ι η) α →
    Connection ι η
  | .ok _ c => c
  | .error _ c => c

/-- One call of the handler, or none: the log gets the call, and the tester is the one it granted,
or else the one before. -/
structure Handled (c c' : Connection ι η) (call : Option (HandlerCall ι)) : Prop where
  calls : c'.calls = c.calls ++ call.toList
  tester : c'.testerLogicalAddress = (call.bind HandlerCall.granted).or c.testerLogicalAddress

/-- Nothing but the sink and the handler's state has changed: neither the calls nor the tester. -/
structure SameCalls (c c' : Connection ι η) : Prop where
  calls : c'.calls = c.calls
  tester : c'.testerLogicalAddress = c.testerLogicalAddress

theorem SameCalls.trans {c c' c'' : Connection ι η} (h : SameCalls c c')
    (h' : SameCalls c' c'') : SameCalls c c'' :=
  ⟨h'.calls.trans h.calls, h'.tester.trans h.tester⟩

theorem Handled.trans_same {c c' c'' : Connection ι η} {call : Option (HandlerCall ι)}
    (h : Handled c c' call) (hsame : SameCalls c' c'') : Handled c c'' call :=
  ⟨hsame.calls.trans h.calls, hsame.tester.trans h.tester⟩

theorem Handled.none (c : Connection ι η) : Handled c c none :=
  ⟨(List.append_nil _).symm, rfl⟩

/-- What the server tells the handler about the tester with a message, by what it remembers at that
moment. -/
def connectionInfo (peer : Peer) (c : Connection ι η) : ClientConnectionInfo where
  ipAddress := peer.ipAddress
  logicalAddress := c.testerLogicalAddress.getD ⟨0x0000⟩

/-- A call is made for what was read, and an alive check with what is known of the tester. -/
structure Prompted (peer : Peer) (c : Connection ι η) (read : Read)
    (call : Option (HandlerCall ι)) : Prop where
  request : call.map HandlerCall.request = read.request
  info : ∀ info, call = some (.aliveCheck info) → info = connectionInfo peer c

theorem Prompted.diagnostic_iff {peer : Peer} {c : Connection ι η} {read : Read}
    {call : Option (HandlerCall ι)} (h : Prompted peer c read call)
    (message : DiagnosticMessage) :
    call = some (.diagnosticMessage message) ↔ read.diagnostic = some message := by
  have hcall : call = some (.diagnosticMessage message) ↔
      call.map HandlerCall.request = some (.diagnosticMessage message) := by
    rcases call with _ | ⟨_, _⟩ | _ | _ <;> simp [HandlerCall.request]
  have hread : read.diagnostic = some message ↔
      read.request = some (.diagnosticMessage message) := by
    rcases read with ⟨_, payload⟩ | _ | _
    · cases payload <;> simp [Read.diagnostic, Read.request]
    · simp [Read.diagnostic, Read.request]
    · simp [Read.diagnostic, Read.request]
  rw [hcall, hread, h.request]

/-- Code that goes on after an attempt, or ends with its error, leaves the connection of the one or
the other. -/
theorem resultConnection_attempt {α β : Type} {f : α → ServerM ι η β}
    (g : Connection ι η → Except (ServerError ι) α × Connection ι η) (c : Connection ι η) :
    resultConnection ((attempt g >>= f) c) =
      match (g c).1 with
      | .ok a => resultConnection (f a (g c).2)
      | .error _ => (g c).2 := by
  change resultConnection (EStateM.bind (attempt g) f c) = _
  rw [EStateM.bind, attempt]
  rcases g c with ⟨a | a, c'⟩ <;> rfl

/-- What every step of writing does to a connection, one after the other does. -/
theorem andThen_rel {R : Connection ι η → Connection ι η → Prop}
    {f g : Connection ι η → Except (ServerError ι) Unit × Connection ι η}
    (htrans : ∀ {c c' c''}, R c c' → R c' c'' → R c c'') (hf : ∀ c, R c (f c).2)
    (hg : ∀ c, R c (g c).2) (c : Connection ι η) : R c (andThen f g c).2 := by
  have hfirst := hf c
  rw [andThen]
  generalize f c = r at hfirst
  rcases r with ⟨e | _, c'⟩
  · exact hfirst
  · exact htrans hfirst (hg c')

/-- The server remembers the tester whose routing activation was granted last. -/
def Serving.Remembers (s : Serving ι η) : Prop :=
  s.connection.testerLogicalAddress = activeTester s.connection.calls

theorem Handled.remembers {c c' : Connection ι η} {call : Option (HandlerCall ι)}
    (h : Handled c c' call) (hc : c.testerLogicalAddress = activeTester c.calls) :
    c'.testerLogicalAddress = activeTester c'.calls := by
  rw [h.calls, h.tester, hc]
  cases call with
  | none => exact (congrArg activeTester (List.append_nil _)).symm
  | some call => exact (activeTester_snoc _ call).symm

/-- A read keeps the calls gated exactly when it is no diagnostic message, or one from the tester
that the server remembers. -/
theorem Handled.gated_iff {c c' : Connection ι η} {call : Option (HandlerCall ι)}
    (h : Handled c c' call) (hc : c.testerLogicalAddress = activeTester c.calls) :
    Gated c'.calls ↔ Gated c.calls ∧ ∀ message, call = some (.diagnosticMessage message) →
      c.testerLogicalAddress = some message.sourceAddress := by
  rw [h.calls, hc]
  cases call with
  | none =>
    rw [Option.toList_none, List.append_nil]
    exact ⟨fun hgated => ⟨hgated, nofun⟩, And.left⟩
  | some call =>
    rw [Option.toList_some, gated_snoc_iff]
    simp only [Option.some.injEq]

variable (handler : ServerConnectionHandler ι η) (peer : Peer)

theorem flush_same (c : Connection ι η) : SameCalls c (flush peer c).2 := by
  rw [flush]
  split <;> exact ⟨rfl, rfl⟩

theorem ready_same (c : Connection ι η) : SameCalls c (ready peer c).2 := by
  rw [ready]
  split
  · exact ⟨rfl, rfl⟩
  · exact flush_same peer c

theorem startSend_same (m : OwnedMessage) (c : Connection ι η) :
    SameCalls c (startSend m c).2 := by
  rw [startSend]
  split <;> exact ⟨rfl, rfl⟩

theorem send_same (m : OwnedMessage) (c : Connection ι η) : SameCalls c (send peer m c).2 :=
  andThen_rel (R := SameCalls) SameCalls.trans (ready_same peer)
    (andThen_rel (R := SameCalls) SameCalls.trans (startSend_same m) (flush_same peer)) c

theorem respond_same (r : Responding ι η) (c : Connection ι η) :
    SameCalls c (respond peer r c).2 := by
  induction r generalizing c with
  | done result state => exact ⟨rfl, rfl⟩
  | send m next ih =>
    exact (send_same peer m c).trans (ih (send peer m c).1 (send peer m c).2)

/-- **What handling a message does**: at most one call of the handler, for the request that was
read. -/
theorem handleClientMessage_spec (m : OwnedMessage) (c : Connection ι η) :
    ∃ call, Handled c (resultConnection (handleClientMessage handler peer m c)) call ∧
      Prompted peer c (.message m) call := by
  have hnone : ∀ info : ClientConnectionInfo, (none : Option (HandlerCall ι)) =
      some (.aliveCheck info) → info = connectionInfo peer c := fun info h => by cases h
  obtain ⟨header, payload⟩ := m
  cases payload with
  | aliveCheckRequest =>
    let info := connectionInfo peer c
    refine ⟨some (.aliveCheck info), ?_, rfl, fun info' h => by cases h; rfl⟩
    have hcall : Handled c (aliveCheck handler info c).2 (some (.aliveCheck info)) := ⟨rfl, rfl⟩
    change Handled c (resultConnection ((attempt (aliveCheck handler info) >>= _) c)) _
    rw [resultConnection_attempt]
    split <;> exact hcall
  | diagnosticMessage message =>
    refine ⟨some (.diagnosticMessage message), ?_, rfl, fun info h => by cases h⟩
    have hcall : Handled c { c with calls := c.calls ++ [.diagnosticMessage message] }
        (some (.diagnosticMessage message)) := ⟨rfl, rfl⟩
    change Handled c (resultConnection ((attempt (diagnosticMessage handler peer message) >>= _)
      c)) _
    rw [resultConnection_attempt]
    split <;> exact hcall.trans_same (respond_same peer _ _)
  | routingActivationRequest request =>
    refine ⟨some (.routingActivation request (handler.routingActivation request c.handlerState).1),
      ?_, rfl, fun info h => by cases h⟩
    change Handled c (resultConnection ((attempt (routingActivation handler request) >>= _) c)) _
    rw [resultConnection_attempt, routingActivation]
    rcases handler.routingActivation request c.handlerState with ⟨e | ⟨header, payload⟩, state⟩
    · exact ⟨rfl, rfl⟩
    · cases payload with
      | routingActivationResponse response =>
        cases hcode : response.routingActivationResponseCode.isSuccess with
        | true =>
          simp only [hcode]
          exact ⟨rfl, by simp [HandlerCall.granted, hcode]; rfl⟩
        | false =>
          simp only [hcode]
          exact ⟨rfl, by simp [HandlerCall.granted, hcode]; rfl⟩
      | _ => exact ⟨rfl, rfl⟩
  | entityStatusRequest | vehicleIdentificationRequest =>
    exact ⟨none, Handled.none c, rfl, hnone⟩
  | _ => exact ⟨none, Handled.none c, rfl, hnone⟩

/-- **What one round of the loop does.** Writing the answer changes neither the calls nor the
tester. -/
theorem handleRead_spec (read : Read) (c : Connection ι η) :
    ∃ call, Handled c (resultConnection (handleRead handler peer read c)) call ∧
      Prompted peer c read call := by
  cases read with
  | message m =>
    obtain ⟨call, hhandled, hprompted⟩ := handleClientMessage_spec handler peer m c
    refine ⟨call, ?_, hprompted⟩
    have hbind : handleRead handler peer (.message m) c =
        match handleClientMessage handler peer m c with
        | .ok (some response) c' => (attempt (send peer response) >>= fun _ => pure false) c'
        | .ok none c' => .ok false c'
        | .error e c' => .error e c' := by
      change EStateM.bind (handleClientMessage handler peer m) _ c = _
      rw [EStateM.bind]
      rcases handleClientMessage handler peer m c with ⟨_ | response, c'⟩ | ⟨e, c'⟩ <;> rfl
    rw [hbind]
    generalize handleClientMessage handler peer m c = r at hhandled
    rcases r with ⟨_ | response, c'⟩ | ⟨e, c'⟩
    · exact hhandled
    · simp only [resultConnection_attempt]
      split <;> exact hhandled.trans_same (send_same peer response c')
    · exact hhandled
  | codecError | closed => exact ⟨none, Handled.none c, rfl, fun info h => by cases h⟩

variable {handler peer}

theorem handleClientConnection_spec {s s' : Serving ι η} {read : Read}
    (h : handleClientConnection handler peer s read = some s') :
    ∃ call, Handled s.connection s'.connection call ∧ Prompted peer s.connection read call := by
  obtain ⟨call, hhandled, hprompted⟩ := handleRead_spec handler peer read s.connection
  refine ⟨call, ?_, hprompted⟩
  rw [handleClientConnection] at h
  split at h
  · cases h
  · generalize handleRead handler peer read s.connection = r at h hhandled
    rcases r with ⟨_ | _, c'⟩ | ⟨e, c'⟩ <;> (cases h; exact hhandled)

/-- **Routing activation at the async server.** Whatever the handler does, whatever is read and
whichever writes succeed, the calls of a connection are gated exactly when every diagnostic message
arrived from the tester that the server remembers at that moment, and that is the tester whose
routing activation was granted last. -/
theorem diagnostic_gate_iff {state : η} {reads : List Read} {s : Serving ι η}
    (hrun : run (handleClientConnection handler peer) (Serving.start ι state) reads = some s) :
    (Gated s.connection.calls ↔
      Along (handleClientConnection handler peer) ArrivesActivated (Serving.start ι state) reads) ∧
    s.Remembers := by
  have hstep : ∀ s read s', handleClientConnection handler peer s read = some s' → s.Remembers →
      s'.Remembers ∧
      (Gated s'.connection.calls ↔ Gated s.connection.calls ∧ ArrivesActivated s read) := by
    intro s read s' h hs
    obtain ⟨call, hhandled, hprompted⟩ := handleClientConnection_spec h
    refine ⟨hhandled.remembers hs, (hhandled.gated_iff hs).trans ?_⟩
    simp only [hprompted.diagnostic_iff]
    rfl
  refine ⟨?_, run_invariant (fun s read s' h hs => (hstep s read s' h hs).1) hrun rfl⟩
  refine run_stays_iff (Q := fun s => Gated s.connection.calls) (A := fun _ _ => True)
    (fun s read s' _ h hs => (hstep s read s' h hs).1)
    (fun s read s' _ h hs hgated => ((hstep s read s' h hs).2.mp hgated).1)
    (fun s read s' _ h hs hgated => (hstep s read s' h hs).2.trans (and_iff_right hgated))
    (along_true _ _) hrun rfl gated_nil

end

/-- A handler that grants every routing activation and acknowledges every diagnostic message. -/
def grantingHandler (ι : Type) : ServerConnectionHandler ι Unit where
  routingActivation request state :=
    (.ok {
      header := Header.new .v2012 .routingActivationResponse 9
      payload := .routingActivationResponse {
        logicalAddressTester := request.sourceAddress
        logicalAddressOfDoipEntity := ⟨0x0001⟩
        routingActivationResponseCode := .routingSuccessfullyActivated
        reservedOem := filledArray 4 0
        oemSpecific := none } }, state)
  diagnosticMessage message state :=
    .send {
      header := Header.new .v2012 .diagnosticMessagePositiveAcknowledge 5
      payload := .diagnosticMessageAck {
        sourceAddress := message.targetAddress
        targetAddress := message.sourceAddress
        ackCode := .routingConfirmationAck
        previousMessageData := [] } } fun result => .done result state
  aliveCheck := ServerConnectionHandler.defaultAliveCheck .v2012

/-- A tester whose end takes every write, at the loopback address. -/
def localPeer : Peer where
  ipAddress := .v4 0x7F000001
  takes := fun _ => none

/-- A diagnostic message of the given tester is read. -/
def readDiagnostic (source : UInt16) : Read :=
  .message {
    header := Header.new .v2012 .diagnosticMessage 6
    payload := .diagnosticMessage {
      sourceAddress := ⟨source⟩, targetAddress := ⟨0x0001⟩, userData := [0x3E, 0x00] } }

/-- A routing activation request of the given tester is read. -/
def readActivation (source : UInt16) : Read :=
  .message {
    header := Header.new .v2012 .routingActivationRequest 7
    payload := .routingActivationRequest {
      sourceAddress := ⟨source⟩
      activationType := .default
      reserved := filledArray 4 0
      reservedVehicleManufacturer := none } }

/-- A connection on which a tester activates routing and sends a diagnostic message. -/
theorem diagnostic_gate_iff_activated :
    letI := plainWire
    letI := plainFramed Incomplete
    ∃ s, run (handleClientConnection (grantingHandler Incomplete) localPeer) (Serving.start _ ())
        [readActivation 0x0E00, readDiagnostic 0x0E00] = some s ∧
      s.connection.calls.length = 2 ∧ Gated s.connection.calls := by
  let := plainWire
  let := plainFramed Incomplete
  have h : ∃ s, run (handleClientConnection (grantingHandler Incomplete) localPeer)
      (Serving.start _ ()) [readActivation 0x0E00, readDiagnostic 0x0E00] = some s ∧
      s.connection.calls.length = 2 := ⟨_, rfl, rfl⟩
  obtain ⟨s, hrun, hcalls⟩ := h
  refine ⟨s, hrun, hcalls, (diagnostic_gate_iff hrun).1.mpr ?_⟩
  refine along_cons (fun message h => (nomatch h)) rfl ?_
  refine along_cons (fun message h => ?_) rfl trivial
  cases h
  rfl

/-- Without any routing activation, the handler is called with a diagnostic message all the same. -/
theorem unactivated_tester_reaches_handler :
    letI := plainWire
    letI := plainFramed Incomplete
    ∃ s, run (handleClientConnection (grantingHandler Incomplete) localPeer) (Serving.start _ ())
        [readDiagnostic 0x0E00] = some s ∧
      s.connection.calls = [.diagnosticMessage {
        sourceAddress := ⟨0x0E00⟩, targetAddress := ⟨0x0001⟩, userData := [0x3E, 0x00] }] ∧
      ¬ Gated s.connection.calls := by
  let := plainWire
  let := plainFramed Incomplete
  refine ⟨_, rfl, rfl, fun hgated => ?_⟩
  cases hgated [] _ [] rfl

end Server

end SimpleDoip
