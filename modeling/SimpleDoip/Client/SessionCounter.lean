import SimpleDoip.Client.Turn
import SimpleDoip.Lib.Relational

/-!
# The session counter is not observed

The socket counts the messages handed to it, and nothing reads the count. `turn_related` says what
follows for two tasks that differ in it: a turn does the same in both, unless the second counter
overflows in a build with overflow checks. The argument goes through the code of a turn, one lemma
for each function.
-/

namespace SimpleDoip

open Relational

/-! ## Tasks that differ in their session counter -/

section
variable (target : Target)

/-- Two sockets, or none; in a build with overflow checks the second counter is no less than the
first. -/
inductive SocketsAlike : Option SocketManager → Option SocketManager → Prop where
  | unbound : SocketsAlike none none
  | bound {s s' : SocketManager}
      (hcounter : target.overflowChecks = true → s.sessionId ≤ s'.sessionId) :
      SocketsAlike (some s) (some s')

/-- Two states of the task that differ in the session counter only, where the second counter is
ahead if overflows are checked. -/
structure Inner.Alike (i j : Inner) : Prop where
  clientOptions : j.clientOptions = i.clientOptions
  activeRequest : j.activeRequest = i.activeRequest
  awaitResponseDeadline : j.awaitResponseDeadline = i.awaitResponseDeadline
  tcpDataSocket : SocketsAlike target i.tcpDataSocket j.tcpDataSocket
  pendingDiagnosticResponse : j.pendingDiagnosticResponse = i.pendingDiagnosticResponse

/-- Two tasks that differ in the session counter only. Their effects are the same, so their users
see no difference. -/
structure Task.Alike (t u : Task) : Prop where
  inner : t.inner.Alike target u.inner
  effects : u.effects = t.effects

/-- The code does the same in two tasks that differ in the session counter, unless the second
counter overflows. -/
def TasksRelated {α β : Type} (V : α → β → Prop) (x : TaskM α) (y : TaskM β) : Prop :=
  Related (Task.Alike target) (fun p => p = Panic.overflow) V x y

end

section
variable {target : Target} {env : Env}

theorem SocketsAlike.refl (s : Option SocketManager) : SocketsAlike target s s := by
  cases s with
  | none => exact .unbound
  | some s => exact .bound fun _ => Nat.le_refl _

theorem SocketsAlike.isNone_eq {s s' : Option SocketManager} (h : SocketsAlike target s s') :
    s'.isNone = s.isNone := by
  cases h <;> rfl

/-- Code that looks at the socket is run without one twice, or with two alike. This is the case
split all the lemmas below begin with. -/
@[elab_as_elim]
theorem SocketsAlike.elim {motive : Option SocketManager → Option SocketManager → Prop}
    {s s' : Option SocketManager} (h : SocketsAlike target s s') (hnone : motive none none)
    (hsome : ∀ s s' : SocketManager,
      (target.overflowChecks = true → s.sessionId ≤ s'.sessionId) → motive (some s) (some s')) :
    motive s s' := by
  cases h with
  | unbound => exact hnone
  | bound hcounter => exact hsome _ _ hcounter

theorem getInner_related : TasksRelated target (Inner.Alike target) getInner getInner :=
  related_get.bind fun _ _ h => related_pure h.inner

theorem modifyInner_related {f g : Inner → Inner}
    (h : ∀ i j, i.Alike target j → (f i).Alike target (g j)) :
    TasksRelated target Eq (modifyInner f) (modifyInner g) :=
  related_modify fun _ _ ht => ⟨h _ _ ht.inner, ht.effects⟩

theorem sendResponse_related (response : Nat) (answer : Answer) :
    TasksRelated target Eq (sendResponse env response answer) (sendResponse env response answer) :=
  (related_modify fun _ _ h => ⟨h.inner, congrArg (· ++ _) h.effects⟩).bind
    fun _ _ _ => related_pure rfl

theorem deadlineAfter_related (duration : Nat) :
    TasksRelated target Eq (deadlineAfter target env duration)
      (deadlineAfter target env duration) := by
  rw [deadlineAfter]
  split
  · exact related_pure rfl
  · exact related_throw _

/-- Putting a request back, or setting one, does not look at the counter. -/
theorem setActiveRequest_related (request : Option ControlMessage) :
    TasksRelated target Eq (modifyInner fun i => { i with activeRequest := request })
      (modifyInner fun i => { i with activeRequest := request }) :=
  modifyInner_related fun _ _ h => ⟨h.1, rfl, h.3, h.4, h.5⟩

theorem takeActiveRequest_related : TasksRelated target Eq takeActiveRequest takeActiveRequest :=
  getInner_related.bind fun _ _ hi =>
    (setActiveRequest_related none).bind fun _ _ _ => related_pure hi.activeRequest.symm

theorem awaitUntil_related (deadline : Nat) (request : ControlMessage) :
    TasksRelated target Eq (awaitUntil deadline request) (awaitUntil deadline request) :=
  modifyInner_related fun _ _ h => ⟨h.1, rfl, rfl, h.4, h.5⟩

theorem SocketManager.send_related {s s' : SocketManager}
    (hcounter : target.overflowChecks = true → s.sessionId ≤ s'.sessionId) (request : Option Nat)
    (message : OwnedMessage) :
    TasksRelated target Eq (s.send target env request message)
      (s'.send target env request message) := by
  rintro ⟨i, es⟩ ⟨j, es'⟩ ⟨hinner, heffects⟩
  obtain rfl : es' = es := heffects
  cases hopen : env.socketOpen with
  | false =>
    rw [s.send_closed _ _ hopen, s'.send_closed _ _ hopen]
    exact .ok rfl ⟨hinner, rfl⟩
  | true =>
    by_cases hfull : s'.Full target
    · rw [s'.send_full _ _ hopen hfull]
      exact .excused rfl
    · have hroom : ¬ s.Full target := by
        rintro ⟨hchecks, hlast⟩
        have hle := hcounter hchecks
        rw [hlast] at hle
        exact hfull ⟨hchecks, by grind⟩
      rw [s.send_room _ _ hopen hroom, s'.send_room _ _ hopen hfull]
      refine .ok rfl ⟨⟨hinner.1, hinner.2, hinner.3, .bound fun hchecks => ?_, hinner.5⟩, rfl⟩
      have hle := hcounter hchecks
      have hne : s'.sessionId ≠ 0xFFFF := fun hlast => hfull ⟨hchecks, hlast⟩
      change s.sessionId + 1 ≤ s'.sessionId + 1
      grind

theorem sendToSocket_related (request : Option Nat) (message : OwnedMessage) :
    TasksRelated target Eq (sendToSocket target env request message)
      (sendToSocket target env request message) := by
  refine getInner_related.bind fun i j h => ?_
  refine SocketsAlike.elim h.tcpDataSocket ?_ fun s s' hcounter => ?_
  · exact related_pure rfl
  · exact SocketManager.send_related hcounter request message

theorem bindSocket_related (gatewayAddress : SocketAddr) :
    TasksRelated target Eq (bindSocket env gatewayAddress) (bindSocket env gatewayAddress) := by
  rintro ⟨i, es⟩ ⟨j, es'⟩ ⟨hinner, heffects⟩
  obtain rfl : es' = es := heffects
  rw [bindSocket_spec, bindSocket_spec, hinner.clientOptions]
  exact .ok rfl ⟨⟨rfl, hinner.2, hinner.3, .refl _, hinner.5⟩, rfl⟩

theorem unbindSocket_related : TasksRelated target Eq unbindSocket unbindSocket := by
  refine getInner_related.bind fun i j h => ?_
  refine SocketsAlike.elim h.tcpDataSocket ?_ fun s s' _ => ?_
  · exact related_pure rfl
  · refine Related.bind (V := Eq) (modifyInner_related ?_) fun _ _ _ => related_pure rfl
    exact fun _ _ h => ⟨h.1, h.2, h.3, .unbound, h.5⟩

theorem handleControlMessage_related :
    TasksRelated target Eq (handleControlMessage target env) (handleControlMessage target env) := by
  refine takeActiveRequest_related.bind fun active active' h => ?_
  cases h
  cases active with
  | none => exact related_pure rfl
  | some request =>
    cases request with
    | bindSocket gatewayAddress response =>
      refine (bindSocket_related gatewayAddress).bind fun r r' h => ?_
      cases h
      exact (sendResponse_related response _).bind fun _ _ _ => related_pure rfl
    | unbindSocket response =>
      refine unbindSocket_related.bind fun r r' h => ?_
      cases h
      exact (sendResponse_related response _).bind fun _ _ _ => related_pure rfl
    | routingActivation message response =>
      refine (sendToSocket_related _ _).bind fun r r' h => ?_
      cases h
      cases r with
      | ok =>
        refine (deadlineAfter_related _).bind fun deadline _ h => ?_
        cases h
        exact awaitUntil_related _ _
      | error e => exact (sendResponse_related response _).bind fun _ _ _ => related_pure rfl
    | awaitResponse message response => exact setActiveRequest_related _
    | sendDiagnosticMessage message response =>
      refine getInner_related.bind fun i j h => ?_
      rw [h.tcpDataSocket.isNone_eq]
      split
      · exact (sendResponse_related response _).bind fun _ _ _ => related_pure rfl
      · refine (sendToSocket_related _ _).bind fun r r' h => ?_
        cases h
        cases r with
        | ok =>
          refine getInner_related.bind fun i j h => ?_
          rw [h.clientOptions]
          refine (deadlineAfter_related _).bind fun deadline _ h => ?_
          cases h
          exact awaitUntil_related _ _
        | error e => exact (sendResponse_related response _).bind fun _ _ _ => related_pure rfl
    | receiveDiagnosticResponse timeout response =>
      refine getInner_related.bind fun i j h => ?_
      rw [h.pendingDiagnosticResponse]
      cases i.pendingDiagnosticResponse with
      | some buffered =>
        refine Related.bind (V := Eq) (modifyInner_related ?_) fun _ _ _ => ?_
        · exact fun _ _ h => ⟨h.1, h.2, h.3, h.4, rfl⟩
        · exact (sendResponse_related response _).bind fun _ _ _ => related_pure rfl
      | none =>
        refine getInner_related.bind fun i j h => ?_
        rw [h.tcpDataSocket.isNone_eq]
        split
        · exact (sendResponse_related response _).bind fun _ _ _ => related_pure rfl
        · refine (deadlineAfter_related _).bind fun deadline _ h => ?_
          cases h
          exact awaitUntil_related _ _
    | awaitAck response => exact setActiveRequest_related _

/-- Code that only takes the active request if it is of one kind does not look at the counter. -/
theorem takeAwaitAck_related : TasksRelated target Eq takeAwaitAck takeAwaitAck := by
  refine takeActiveRequest_related.bind fun active active' h => ?_
  cases h
  split
  · exact related_pure rfl
  · exact (setActiveRequest_related _).bind fun _ _ _ => related_pure rfl

theorem takeAwaitResponse_related :
    TasksRelated target Eq takeAwaitResponse takeAwaitResponse := by
  refine takeActiveRequest_related.bind fun active active' h => ?_
  cases h
  split
  · exact related_pure rfl
  · exact (setActiveRequest_related _).bind fun _ _ _ => related_pure rfl

/-- Dropping the deadline does not look at the counter. -/
theorem clearDeadline_related :
    TasksRelated target Eq (modifyInner fun i => { i with awaitResponseDeadline := none })
      (modifyInner fun i => { i with awaitResponseDeadline := none }) :=
  modifyInner_related fun _ _ h => ⟨h.1, h.2, rfl, h.4, h.5⟩

theorem supersedeActiveRequest_related :
    TasksRelated target Eq (supersedeActiveRequest env) (supersedeActiveRequest env) := by
  refine takeActiveRequest_related.bind fun active active' h => ?_
  cases h
  cases active with
  | none => exact clearDeadline_related
  | some request => exact (sendResponse_related _ _).bind fun _ _ _ => clearDeadline_related

theorem completeAwaitResponse_related (received : OwnedMessage) :
    TasksRelated target Eq (completeAwaitResponse env received)
      (completeAwaitResponse env received) := by
  refine takeAwaitResponse_related.bind fun taken taken' h => ?_
  cases h
  cases taken with
  | some pair =>
    obtain ⟨request, response⟩ := pair
    simp only
    split
    · refine (sendResponse_related _ _).bind fun isErr _ h => ?_
      cases h
      exact related_pure rfl
    · refine (sendResponse_related _ _).bind fun isErr _ h => ?_
      cases h
      exact related_pure rfl
  | none =>
    refine getInner_related.bind fun i j h => ?_
    rw [h.activeRequest]
    split
    · cases received.payload with
      | diagnosticMessage dm =>
        refine Related.bind (V := Eq) (modifyInner_related ?_) fun _ _ _ => related_pure rfl
        exact fun _ _ h => ⟨h.1, h.2, h.3, h.4, rfl⟩
      | _ => exact related_pure rfl
    · exact related_pure rfl

theorem processReceivedMessage_related (message : Except Error OwnedMessage) :
    TasksRelated target Eq (processReceivedMessage target env message)
      (processReceivedMessage target env message) := by
  cases message with
  | error e =>
    refine Related.bind (V := Eq) (modifyInner_related ?_) fun _ _ _ => ?_
    · exact fun _ _ h => ⟨h.1, h.2, rfl, .unbound, h.5⟩
    · refine takeActiveRequest_related.bind fun active active' h => ?_
      cases h
      split
      · exact (sendResponse_related _ _).bind fun _ _ _ => related_pure rfl
      · exact (sendResponse_related _ _).bind fun _ _ _ => related_pure rfl
      · exact related_pure rfl
  | ok received =>
    rw [processReceivedMessage]
    split
    · refine getInner_related.bind fun i j h => ?_
      refine SocketsAlike.elim h.tcpDataSocket ?_ fun s s' hcounter => ?_
      · exact related_throw _
      · refine getInner_related.bind fun i j h => ?_
        rw [h.clientOptions]
        exact (SocketManager.send_related hcounter _ _).bind
          fun _ _ _ => completeAwaitResponse_related received
    · refine takeAwaitAck_related.bind fun taken taken' h => ?_
      cases h
      cases taken with
      | some response =>
        exact clearDeadline_related.bind fun _ _ _ =>
          (sendResponse_related response _).bind fun _ _ _ => related_pure rfl
      | none =>
        simp only
        split
        · exact related_pure rfl
        · exact completeAwaitResponse_related received
    · exact completeAwaitResponse_related received

theorem deadlineReached_related :
    TasksRelated target Eq (deadlineReached env) (deadlineReached env) := by
  refine takeActiveRequest_related.bind fun active active' h => ?_
  cases h
  split
  · exact (sendResponse_related _ _).bind fun _ _ _ => clearDeadline_related
  · exact (sendResponse_related _ _).bind fun _ _ _ => clearDeadline_related
  · exact (setActiveRequest_related _).bind fun _ _ _ => clearDeadline_related

/-- **A turn does the same** in two tasks that differ in the session counter, unless the second
counter overflows. -/
theorem turn_related (select : Select) :
    TasksRelated target Eq (turn target env select) (turn target env select) := by
  cases select with
  | deadline =>
    exact deadlineReached_related.bind fun _ _ _ =>
      handleControlMessage_related.bind fun _ _ _ => related_pure rfl
  | control message =>
    exact supersedeActiveRequest_related.bind fun _ _ _ =>
      (setActiveRequest_related _).bind fun _ _ _ =>
        handleControlMessage_related.bind fun _ _ _ => related_pure rfl
  | socket message =>
    refine (processReceivedMessage_related message).bind fun r r' h => ?_
    cases h
    cases r with
    | stay => exact handleControlMessage_related.bind fun _ _ _ => related_pure rfl
    | exit | update => exact related_pure rfl

/-- Answering an alive check leaves the second state alike: its counter goes up, and has room to. -/
theorem Inner.Alike.afterAlive {i j : Inner} {m : OwnedMessage} (h : i.Alike target j)
    (hroom : ∀ s, j.tcpDataSocket = some s → ¬ s.Full target) :
    i.Alike target (j.afterAlive env m) := by
  rw [Inner.afterAlive]
  split
  · refine ⟨h.1, h.2, h.3, ?_, h.5⟩
    change SocketsAlike target i.tcpDataSocket (j.tcpDataSocket.map SocketManager.next)
    have hsocket := h.tcpDataSocket
    revert hroom
    refine SocketsAlike.elim hsocket (fun _ => .unbound) fun s s' hcounter hroom => .bound ?_
    intro hchecks
    have hle := hcounter hchecks
    have hne : s'.sessionId ≠ 0xFFFF := fun hlast => hroom s' rfl ⟨hchecks, hlast⟩
    change s.sessionId ≤ s'.sessionId + 1
    grind
  · exact h

end

end SimpleDoip
