import SimpleDoip.Client.Requests
import SimpleDoip.Session.Transport

/-!
# A rejection does not reach the client

The entity answers a diagnostic message it rejects with payload type `0x8003` and a body that
carries the reason. The codec decodes that type to a variant without a body, and the client
completes a send only on the variant with one. So the send goes on waiting, whatever the reason was.
-/

namespace SimpleDoip

open Transition

section
variable {ι : Type} [WireCodec ι] {π : Type}

/-- What the client's codec makes of a negative acknowledgement: the payload type decodes to a
variant without a body, so that the code is lost. -/
def rejectionMessage (own tester : UInt16) (code : DiagnosticAckCode) : OwnedMessage where
  header := entityHeader .diagnosticMessageNegativeAcknowledge
    (.diagnosticMessageAck ⟨⟨own⟩, ⟨tester⟩, code, []⟩)
  payload := .diagnosticMessageNack

theorem decode_negativeAck (own tester : UInt16) (code : DiagnosticAckCode) (rest : List UInt8) :
    MessageCodec.decode (ι := ι)
        (ackFrame .diagnosticMessageNegativeAcknowledge own tester code ++ rest) =
      some (.ok (some (rejectionMessage own tester code)), rest) := by
  have h5 : (bytes (Payload.diagnosticMessageAck ⟨⟨own⟩, ⟨tester⟩, code, []⟩)).length = 5 := rfl
  exact decode_entityFrame ⟨0x8003, rfl⟩ (by omega) rfl rest

/-- A send that waits for its acknowledgement lets the variant without a body go by. -/
theorem turn_rejection {i : Inner} {response : Nat} {m : OwnedMessage}
    (hactive : i.activeRequest = some (.awaitAck response))
    (hm : m.payload = .diagnosticMessageNack) (target : Target) (env : Env) :
    turn target env (.socket (.ok m)) ⟨i, []⟩ = .ok .stay ⟨i, []⟩ := by
  have hprocess : processReceivedMessage target env (.ok m) ⟨i, []⟩ =
      completeAwaitResponse env m ⟨i, []⟩ := by
    simp only [processReceivedMessage, hm]
  have hwaiting : Waiting i.activeRequest := by
    rw [hactive]
    exact .ack response
  exact turn_socket_stay (hprocess.trans (completeAwaitResponse_ack hactive)) hwaiting

/-- **A rejection is lost on the client.** Whatever state an entity is in and whichever diagnostic
message it rejects, it sends one negative acknowledgement with a reason. The client's codec decodes
it to one message, and a client with a send that waits for its acknowledgement does nothing about
that message: it completes no request, and the send waits as before. -/
theorem rejection_never_completes_send {i : Inner} {response : Nat}
    (hactive : i.activeRequest = some (.awaitAck response)) (target : Target) (env : Env)
    {s : Session π} {dm : DiagnosticMessage}
    (hrejected : ¬ (s.activeTester = some dm.sourceAddress.value ∧
      dm.targetAddress.value = s.ownAddress)) (p : Platform π) :
    ∃ verdict s' p' tester code m,
      handleDiagnosticMessage (ι := ι) s dm p = some (verdict, s', p') ∧
      code ≠ .routingConfirmationAck ∧
      p'.calls = p.calls ++ [.sendTcp
        (ackFrame .diagnosticMessageNegativeAcknowledge s.ownAddress tester code)] ∧
      (∀ rest, MessageCodec.decode (ι := ι)
        (ackFrame .diagnosticMessageNegativeAcknowledge s.ownAddress tester code ++ rest) =
          some (.ok (some m), rest)) ∧
      turn target env (.socket (.ok m)) ⟨i, []⟩ = .ok .stay ⟨i, []⟩ := by
  obtain ⟨verdict, tester, code, hcode, hhandle⟩ :=
    handleDiagnosticMessage_rejected (ι := ι) hrejected p
  exact ⟨verdict, _, _, tester, code, rejectionMessage s.ownAddress tester code, hhandle, hcode,
    rfl, decode_negativeAck _ _ _, turn_rejection hactive rfl target env⟩

end

/-- An entity that serves the tester at `0x0E00`, which has its routing activated. -/
def activatedSession : Session Unit :=
  { blankEntity.session silentCallbacks with activeTester := some 0x0E00 }

/-- Bind, and send a message to an address the entity does not have, which then waits for its
acknowledgement. -/
def misaddressedRun : List Action :=
  issueAndTake (.bindSocket ⟨13400⟩) ++
    issueAndTake (.sendDiagnosticMessage (diagnosticFrom 0x0E00 0x2000 [0x3E, 0x00]))

/-- The entity rejects the message for its target, and the send goes on waiting, as if nothing had
been sent back. -/
theorem rejected_send_waits :
    letI := plainWire
    ∃ w w' s' m,
      run (World.step releaseTarget) (World.start testerOptions) misaddressedRun = some w ∧
      w.inner.activeRequest = some (.awaitAck 1) ∧
      handleDiagnosticMessage activatedSession ⟨⟨0x0E00⟩, ⟨0x2000⟩, [0x3E, 0x00]⟩ ⟨(), []⟩ =
        some (.keepOpen, s', ⟨(), [.sendTcp (ackFrame .diagnosticMessageNegativeAcknowledge 0x1000
          0x0E00 .unknownTargetAddress)]⟩) ∧
      MessageCodec.decode (ackFrame .diagnosticMessageNegativeAcknowledge 0x1000 0x0E00
        .unknownTargetAddress) = some (.ok (some m), []) ∧
      w.step releaseTarget (.turn (.socket (.message m)) true (.ok ())) = some w' ∧
      w'.inner.activeRequest = some (.awaitAck 1) ∧ completions w'.log 1 = 0 := by
  let := plainWire
  have hdecode := decode_negativeAck (ι := Incomplete) 0x1000 0x0E00 .unknownTargetAddress []
  rw [List.append_nil] at hdecode
  have hrun : ∃ w w', run (World.step releaseTarget) (World.start testerOptions) misaddressedRun =
      some w ∧ w.inner.activeRequest = some (.awaitAck 1) ∧
      w.step releaseTarget (.turn (.socket (.message
        (rejectionMessage 0x1000 0x0E00 .unknownTargetAddress))) true (.ok ())) = some w' ∧
      w'.inner.activeRequest = some (.awaitAck 1) ∧ completions w'.log 1 = 0 :=
    ⟨_, _, rfl, rfl, rfl, rfl, rfl⟩
  obtain ⟨w, w', hrun, hactive, hstep, hactive', hcount⟩ := hrun
  refine ⟨w, w', (transmit (ackFrame .diagnosticMessageNegativeAcknowledge 0x1000 0x0E00
    .unknownTargetAddress) (activatedSession, ⟨(), []⟩)).1, _, hrun, hactive, ?_, hdecode, hstep,
    hactive', hcount⟩
  have htester : activatedSession.activeTester = some 0x0E00 := rfl
  have hown : activatedSession.ownAddress = 0x1000 := rfl
  have hack := sendDiagAck_eq (ι := Incomplete) activatedSession
    .diagnosticMessageNegativeAcknowledge 0x0E00 .unknownTargetAddress ⟨(), []⟩
  rw [hown] at hack
  simp only [handleDiagnosticMessage, htester, hown, hack, ne_eq, not_true_eq_false, if_false]
  rfl

/-- An entity without an activation rejects the message for its source, with the same effect. -/
theorem rejection_never_completes_send_unactivated :
    letI := plainWire
    ∃ w s' p' code m,
      run (World.step releaseTarget) (World.start testerOptions) misaddressedRun = some w ∧
      handleDiagnosticMessage (blankEntity.session silentCallbacks)
        ⟨⟨0x0E00⟩, ⟨0x1000⟩, [0x3E, 0x00]⟩ ⟨(), []⟩ = some (TcpVerdict.close, s', p') ∧
      code ≠ DiagnosticAckCode.routingConfirmationAck ∧
      turn releaseTarget (w.env true (.ok ())) (.socket (.ok m)) ⟨w.inner, []⟩ =
        .ok .stay ⟨w.inner, []⟩ := by
  let := plainWire
  have h : ∃ w, run (World.step releaseTarget) (World.start testerOptions) misaddressedRun =
      some w ∧ w.inner.activeRequest = some (.awaitAck 1) := ⟨_, rfl, rfl⟩
  obtain ⟨w, hrun, hactive⟩ := h
  have hrejected : ¬ ((blankEntity.session silentCallbacks).activeTester =
      some (⟨⟨0x0E00⟩, ⟨0x1000⟩, [0x3E, 0x00]⟩ : DiagnosticMessage).sourceAddress.value ∧
      (⟨⟨0x0E00⟩, ⟨0x1000⟩, [0x3E, 0x00]⟩ : DiagnosticMessage).targetAddress.value =
        (blankEntity.session silentCallbacks).ownAddress) := fun h => nomatch h.1
  obtain ⟨verdict, s', p', tester, code, m, hhandle, hcode, -, -, hturn⟩ :=
    rejection_never_completes_send (ι := Incomplete) hactive releaseTarget (w.env true (.ok ()))
      hrejected ⟨(), []⟩
  have hclose : verdict = .close := by
    have hnone : (blankEntity.session silentCallbacks).activeTester = none := rfl
    simp only [handleDiagnosticMessage, hnone, sendDiagAck_eq] at hhandle
    cases hhandle
    rfl
  rw [hclose] at hhandle
  exact ⟨w, s', p', code, m, hrun, hhandle, hcode, hturn⟩

end SimpleDoip
