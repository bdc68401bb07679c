import SimpleDoip.Entity.Isolation
import SimpleDoip.Messages.Grammar

/-!
# What the entity answers with

`FrameReply` is what the platform sees of one handled frame, by the messages sent and the request
dispatched, and `FrameReply.Due` says which reply is due to which frame. `handleTcpFrame_reply`
connects them to the code. `entity_reply_discipline` is the whole discipline, over TCP and UDP:
every message the entity builds fits its transmit buffer, so it is sent, and what is sent is one
whole frame.

`nacks_as_documented_iff` holds the codes of its negative acknowledgements against the meaning their
type documents.
-/

namespace SimpleDoip

open Framing Transition

/-- What the entity answers one frame with: one message, or the messages of a dispatch. -/
inductive FrameReply where
  /-- A routing activation response, whichever way the request was decided. -/
  | activation (source : UInt16) (code : RoutingActivationResponseCode)
  /-- A negative acknowledgement of a diagnostic message, which is not dispatched. -/
  | refusal (tester : UInt16) (code : DiagnosticAckCode)
  /-- A positive acknowledgement, the dispatch of the request, and its response if there is one. -/
  | service (tester : UInt16) (request : List UInt8) (response : Option (List UInt8))
  /-- A generic negative acknowledgement, which names no tester. -/
  | nack (code : NackCode)

section
variable {ι : Type} [WireCodec ι] {π : Type}

/-! ## Whole frames -/

variable (ι) in
/-- A call that sends something sends one whole frame that fits the transmit buffer. -/
def PlatformCall.SendsFrame : PlatformCall → Prop
  | .sendUdp _ _ data | .sendTcp data =>
    data.length ≤ TX_CAP ∧ ∃ frame, tryFrame (ι := ι) data = .ok (some (frame, data.length)) ∧
      frame.header.payloadLength.toNat = frame.payload.length
  | .onUdsRequest _ => True

/-- The framer cuts a frame of the entity as a whole, so that a receiver with the same framer sees
the message. -/
theorem tryFrame_entityFrame (t : PayloadType) {payload : Payload}
    (h : (bytes payload).length < 2 ^ 32) :
    tryFrame (ι := ι) (entityFrame t payload) =
      .ok (some (⟨headerOf 0x02 0xFD t.toU16 (UInt32.ofNat (bytes payload).length),
        bytes payload⟩, (entityFrame t payload).length)) := by
  have hn : (bytes payload).length = (UInt32.ofNat (bytes payload).length).toNat :=
    (UInt32.toNat_ofNat_of_lt' h).symm
  have hframe := tryFrame_of_parts (ι := ι) 0x02 t.toU16 hn
  rw [← hn] at hframe
  rw [length_entityFrame]
  exact hframe

/-- Sending a frame of the entity that fits is sending one whole frame, no more and no less. -/
theorem sendsFrame_entityFrame (t : PayloadType) {payload : Payload}
    (h : 8 + (bytes payload).length ≤ TX_CAP) :
    (PlatformCall.sendTcp (entityFrame t payload)).SendsFrame ι := by
  have hcap : TX_CAP = 1036 := rfl
  have hlt : (bytes payload).length < 2 ^ 32 := by omega
  refine ⟨by rwa [length_entityFrame], _, tryFrame_entityFrame t hlt, ?_⟩
  exact UInt32.toNat_ofNat_of_lt' hlt

namespace FrameReply

/-- The calls a reply is made of, for an entity with address `own`, in the order in which they are
made. -/
def calls (own : UInt16) : FrameReply → List PlatformCall
  | .activation source code => [.sendTcp (activationFrame (ι := ι) source own code)]
  | .refusal tester code =>
    [.sendTcp (ackFrame (ι := ι) .diagnosticMessageNegativeAcknowledge own tester code)]
  | .service tester request response =>
    .sendTcp (ackFrame (ι := ι) .diagnosticMessagePositiveAcknowledge own tester
      .routingConfirmationAck) :: .onUdsRequest request ::
    response.toList.map fun data => .sendTcp (diagnosticFrame (ι := ι) own tester data)
  | .nack code => [.sendTcp (nackFrame (ι := ι) code)]

/-- The type of the message a reply starts with. No two kinds of replies have the same, so that it
tells them apart. -/
def payloadType : FrameReply → PayloadType
  | .activation _ _ => .routingActivationResponse
  | .refusal _ _ => .diagnosticMessageNegativeAcknowledge
  | .service _ _ _ => .diagnosticMessagePositiveAcknowledge
  | .nack _ => .negativeAcknowledge

theorem calls_head (reply : FrameReply) (own : UInt16) :
    ∃ payload rest, reply.calls (ι := ι) own =
      .sendTcp (entityFrame (ι := ι) reply.payloadType payload) :: rest := by
  cases reply <;> exact ⟨_, _, rfl⟩

/-- Replies that make the same calls are of the same kind, so that the kind can be seen by the
platform. -/
theorem payloadType_eq_of_calls {reply other : FrameReply} {own : UInt16}
    (h : reply.calls (ι := ι) own = other.calls (ι := ι) own) :
    reply.payloadType = other.payloadType := by
  obtain ⟨payload, rest, hr⟩ := reply.calls_head (ι := ι) own
  obtain ⟨payload', rest', ho⟩ := other.calls_head (ι := ι) own
  rw [hr, ho] at h
  have hcode := toU16_eq_of_entityFrame (PlatformCall.sendTcp.inj (List.cons.inj h).1)
  cases reply <;> cases other <;> simp only [payloadType] at hcode ⊢ <;>
    exact absurd hcode (by decide)

/-- A reply whose response is one the response buffer can hold. Every reply of the entity is. -/
def Bounded : FrameReply → Prop
  | .service _ _ (some response) => response.length ≤ UDS_RESP_CAP
  | _ => True

/-- Every call of a reply that sends something sends one whole frame. -/
theorem Bounded.sendsFrame {reply : FrameReply} (h : reply.Bounded) {own : UInt16}
    {call : PlatformCall} (hcall : call ∈ reply.calls (ι := ι) own) : call.SendsFrame ι := by
  have hack : ∀ t tester code, (PlatformCall.sendTcp (ackFrame t own tester code)).SendsFrame ι :=
    fun t tester code => sendsFrame_entityFrame t (show 8 + 5 ≤ 1036 by omega)
  cases reply with
  | activation source code =>
    rw [List.mem_singleton.mp hcall]
    exact sendsFrame_entityFrame _ (show 8 + 9 ≤ 1036 by omega)
  | refusal tester code =>
    rw [List.mem_singleton.mp hcall]
    exact hack _ _ _
  | nack code =>
    rw [List.mem_singleton.mp hcall]
    exact sendsFrame_entityFrame _ (show 8 + 1 ≤ 1036 by omega)
  | service tester request response =>
    rcases List.mem_cons.mp hcall with rfl | hcall
    · exact hack _ _ _
    rcases List.mem_cons.mp hcall with rfl | hcall
    · trivial
    obtain ⟨data, hdata, rfl⟩ := List.mem_map.mp hcall
    cases Option.mem_toList.mp hdata
    -- the largest response fills the transmit buffer to its last byte
    have hlen : data.length ≤ 1024 := h
    refine sendsFrame_entityFrame _ ?_
    rw [length_bytes_diagnosticMessage]
    show 8 + (4 + data.length) ≤ 1036
    omega

/-! ## Which reply is due -/

/-- The response a dispatch has to send: the first bytes the callback wrote, if it reported any. -/
def responseOf (reported : Int32) (responseOut : U8Array UDS_RESP_CAP) : Option (List UInt8) :=
  if 0 < reported.toInt then some (responseOut.toList.take (min reported.toInt.toNat UDS_RESP_CAP))
  else none

/-- Which reply is due to a frame, with its verdict, by what the frame decodes to and who is
active. -/
inductive Due (s : Session π) (p : Platform π) (header : Header) (payload : List UInt8) :
    TcpVerdict → FrameReply → Prop where
  /-- A routing activation request gets a response to its source, and the connection stays open if
  the code is a success. -/
  | activation {req : RoutingActivationRequest} {code : RoutingActivationResponseCode}
      {verdict : TcpVerdict}
      (hdecode : Payload.decode (ι := ι) payload header.payloadType =
        .ok (.routingActivationRequest req))
      (hverdict : verdict = .keepOpen ↔ code.toU8 = 0x10) :
      Due s p header payload verdict (.activation req.sourceAddress.value code)
  /-- A diagnostic message before any activation is refused and closes the connection. -/
  | inactive {dm : DiagnosticMessage}
      (hdecode : Payload.decode (ι := ι) payload header.payloadType = .ok (.diagnosticMessage dm))
      (hactive : s.activeTester = none) :
      Due s p header payload .close (.refusal dm.sourceAddress.value .invalidSourceAddress)
  /-- A diagnostic message of another tester than the active one is refused, too. The refusal is
  addressed to the active one. -/
  | foreignSource {dm : DiagnosticMessage} {tester : UInt16}
      (hdecode : Payload.decode (ι := ι) payload header.payloadType = .ok (.diagnosticMessage dm))
      (hactive : s.activeTester = some tester) (hsource : dm.sourceAddress.value ≠ tester) :
      Due s p header payload .close (.refusal tester .invalidSourceAddress)
  /-- A diagnostic message to another entity is refused, which leaves the connection open. -/
  | foreignTarget {dm : DiagnosticMessage} {tester : UInt16}
      (hdecode : Payload.decode (ι := ι) payload header.payloadType = .ok (.diagnosticMessage dm))
      (hactive : s.activeTester = some tester) (hsource : dm.sourceAddress.value = tester)
      (htarget : dm.targetAddress.value ≠ s.ownAddress) :
      Due s p header payload .keepOpen (.refusal tester .unknownTargetAddress)
  /-- Any other diagnostic message is acknowledged and dispatched, and what the callback answers in
  the state the acknowledgement left is sent. -/
  | served {dm : DiagnosticMessage} {tester : UInt16} {reported : Int32}
      {responseOut : U8Array UDS_RESP_CAP} {state : π}
      (hdecode : Payload.decode (ι := ι) payload header.payloadType = .ok (.diagnosticMessage dm))
      (hactive : s.activeTester = some tester) (hsource : dm.sourceAddress.value = tester)
      (htarget : dm.targetAddress.value = s.ownAddress)
      (hasked : s.cb.onUdsRequest dm.userData s.udsRespBuf (s.cb.sendTcp (ackFrame (ι := ι)
        .diagnosticMessagePositiveAcknowledge s.ownAddress tester .routingConfirmationAck)
        p.state).2 = (reported, responseOut, state)) :
      Due s p header payload .keepOpen
        (.service tester dm.userData (responseOf reported responseOut))
  /-- Everything else gets a generic negative acknowledgement and leaves the connection open. -/
  | unserved (hactivation : ∀ req, Payload.decode (ι := ι) payload header.payloadType ≠
        .ok (.routingActivationRequest req))
      (hdiagnostic : ∀ dm, Payload.decode (ι := ι) payload header.payloadType ≠
        .ok (.diagnosticMessage dm)) :
      Due s p header payload .keepOpen (.nack .unknownPayloadType)

omit [WireCodec ι] in
theorem bounded_service (tester : UInt16) (request : List UInt8) (reported : Int32)
    (responseOut : U8Array UDS_RESP_CAP) :
    (service tester request (responseOf reported responseOut)).Bounded := by
  unfold responseOf
  split
  · exact length_udsResponse_le reported responseOut
  · trivial

end FrameReply

/-- The calls of a dispatch are those of a service, with the response that the platform left. -/
theorem calls_dispatch (tester : UInt16) (request : List UInt8) (x : Session π × Platform π) :
    let x₁ := transmit (ackFrame (ι := ι) .diagnosticMessagePositiveAcknowledge x.1.ownAddress
      tester .routingConfirmationAck) x
    (dispatch (ι := ι) tester request x).2.calls = x.2.calls ++
      (FrameReply.service tester request (FrameReply.responseOf (reportedLength request x₁)
        (asked request x₁).1.udsRespBuf)).calls (ι := ι) x.1.ownAddress := by
  intro x₁
  have hasked : (asked request x₁).2.calls = x₁.2.calls ++ [.onUdsRequest request] := rfl
  rw [dispatch_eq, FrameReply.responseOf]
  by_cases hpos : 0 < (reportedLength request x₁).toInt
  · rw [if_pos (show (reportedLength request x₁).toInt.toNat > 0 by omega), if_pos hpos,
      transmit_calls, hasked, transmit_calls, List.append_assoc, List.append_assoc]
    rfl
  · rw [if_neg (show ¬ (reportedLength request x₁).toInt.toNat > 0 by omega), if_neg hpos,
      hasked, transmit_calls, List.append_assoc]
    rfl

/-- A routing activation keeps the connection open if and only if it is a success. -/
theorem decideActivation_verdict (active : Option UInt16) (req : RoutingActivationRequest) :
    (decideActivation active req).2.1 = .keepOpen ↔
      (decideActivation active req).1.toU8 = 0x10 := by
  unfold decideActivation
  split
  · show TcpVerdict.close = .keepOpen ↔
      RoutingActivationResponseCode.deniedUnknownSourceAddress.toU8 = 0x10
    decide
  · split
    · show TcpVerdict.close = .keepOpen ↔
        RoutingActivationResponseCode.deniedUnsupportedRoutingActivationType.toU8 = 0x10
      decide
    · split
      · show TcpVerdict.close = .keepOpen ↔
          RoutingActivationResponseCode.deniedSourceAddressAlreadyActivated.toU8 = 0x10
        decide
      · exact ⟨fun _ => rfl, fun _ => rfl⟩

/-- Handling a diagnostic message makes the calls of the reply that is due, whichever of the four it
is. -/
theorem decideDiagnostic_reply {s : Session π} {header : Header} {payload : List UInt8}
    {dm : DiagnosticMessage}
    (hdecode : Payload.decode (ι := ι) payload header.payloadType = .ok (.diagnosticMessage dm))
    (p : Platform π) :
    ∃ verdict reply s' p',
      (decideDiagnostic (ι := ι) s.ownAddress s.activeTester dm).carryOut (ι := ι) (s, p) =
        (verdict, s', p') ∧
      FrameReply.Due (ι := ι) s p header payload verdict reply ∧
      p'.calls = p.calls ++ reply.calls (ι := ι) s.ownAddress := by
  unfold decideDiagnostic
  cases hactive : s.activeTester with
  | none => exact ⟨_, _, _, _, rfl, .inactive hdecode hactive, transmit_calls _ _⟩
  | some tester =>
    by_cases hsource : dm.sourceAddress.value = tester
    · by_cases htarget : dm.targetAddress.value = s.ownAddress
      · simp only [hsource, htarget, ne_eq, not_true_eq_false, if_false]
        exact ⟨_, _, _, _, rfl, .served hdecode hactive hsource htarget rfl,
          calls_dispatch tester dm.userData (s, p)⟩
      · simp only [hsource, htarget, ne_eq, not_true_eq_false, not_false_eq_true, if_false,
          if_true]
        exact ⟨_, _, _, _, rfl, .foreignTarget hdecode hactive hsource htarget,
          transmit_calls _ _⟩
    · simp only [hsource, ne_eq, not_false_eq_true, if_true]
      exact ⟨_, _, _, _, rfl, .foreignSource hdecode hactive hsource, transmit_calls _ _⟩

/-- **Handling a frame** makes the calls of the reply that is due, and no others. -/
theorem handleTcpFrame_reply (s : Session π) (header : Header) (payload : List UInt8)
    (p : Platform π) :
    ∃ verdict reply s' p', handleTcpFrame (ι := ι) s header payload p = some (verdict, s', p') ∧
      FrameReply.Due (ι := ι) s p header payload verdict reply ∧
      p'.calls = p.calls ++ reply.calls (ι := ι) s.ownAddress := by
  rw [handleTcpFrame_eq, decideFrame]
  cases hdecode : Payload.decode (ι := ι) payload header.payloadType with
  | error e =>
    exact ⟨_, _, _, _, rfl, .unserved (by simp [hdecode]) (by simp [hdecode]), transmit_calls _ _⟩
  | ok body =>
    cases body with
    | routingActivationRequest req =>
      exact ⟨_, _, _, _, rfl, .activation hdecode (decideActivation_verdict _ req),
        transmit_calls _ _⟩
    | diagnosticMessage dm =>
      obtain ⟨verdict, reply, s', p', hcarry, hdue, hcalls⟩ := decideDiagnostic_reply hdecode p
      exact ⟨verdict, reply, s', p', congrArg some hcarry, hdue, hcalls⟩
    | _ =>
      exact ⟨_, _, _, _, rfl, .unserved (by simp [hdecode]) (by simp [hdecode]),
        transmit_calls _ _⟩

/-! ## Datagrams -/

/-- A datagram that is no request and no error is the only one without an answer. -/
theorem Entity.udpReply_eq_none_iff (e : Entity π) (data : List UInt8) :
    e.udpReply (ι := ι) data = none ↔ tryFrame (ι := ι) data = .ok none ∨
      ∃ frame consumed payload, tryFrame (ι := ι) data = .ok (some (frame, consumed)) ∧
        Payload.decode (ι := ι) frame.payload frame.header.payloadType = .ok payload ∧
        payload ≠ .vehicleIdentificationRequest ∧ payload ≠ .entityStatusRequest := by
  have hnack : ∀ code, framed (ι := ι) .negativeAcknowledge (.doIPNack code) ≠ none :=
    fun code => by rw [framed_eq (by rw [length_bytes_nack]; omega)]; simp
  have hannouncement : e.vehicleAnnouncement (ι := ι) ≠ none := by
    rw [Entity.vehicleAnnouncement, framed_eq (by rw [length_bytes_announcement]; omega)]
    simp
  have hstatus : e.entityStatus (ι := ι) ≠ none := by
    rw [Entity.entityStatus, framed_eq (by rw [length_bytes_status]; omega)]
    simp
  unfold Entity.udpReply
  cases htry : tryFrame (ι := ι) data with
  | error error => simp [hnack]
  | ok item =>
    cases item with
    | none => simp
    | some item =>
      obtain ⟨frame, consumed⟩ := item
      cases hdecode : Payload.decode (ι := ι) frame.payload frame.header.payloadType with
      | error error => simp [hdecode, hnack]
      | ok payload => cases payload <;> simp [hdecode, hannouncement, hstatus]

/-- The answer to a datagram is one whole frame that fits the transmit buffer. -/
theorem Entity.udpAnswer_sendsFrame {e : Entity π} {data frame : List UInt8}
    (h : e.udpAnswer (ι := ι) data = some frame) (dstAddr : UInt32) (dstPort : UInt16) :
    (PlatformCall.sendUdp dstAddr dstPort frame).SendsFrame ι := by
  unfold Entity.udpAnswer at h
  split at h
  · obtain ⟨msg, hreply, rfl⟩ := Option.map_eq_some_iff.mp h
    obtain ⟨t, n, payload, rfl, hlen⟩ := Entity.udpReply_fits hreply
    exact sendsFrame_entityFrame t hlen
  · cases h

/-! ## Whole streams -/

/-- Calls added to those made before, each sending a whole frame if it sends anything. -/
def AddsFrames (ι : Type) [WireCodec ι] (p p' : Platform π) : Prop :=
  ∃ calls, p'.calls = p.calls ++ calls ∧ ∀ call ∈ calls, call.SendsFrame ι

theorem AddsFrames.refl (p : Platform π) : AddsFrames ι p p :=
  ⟨[], (List.append_nil _).symm, by simp⟩

theorem AddsFrames.trans {p₁ p₂ p₃ : Platform π} (h : AddsFrames ι p₁ p₂)
    (h' : AddsFrames ι p₂ p₃) : AddsFrames ι p₁ p₃ := by
  obtain ⟨calls, hcalls, hframes⟩ := h
  obtain ⟨calls', hcalls', hframes'⟩ := h'
  refine ⟨calls ++ calls', by rw [hcalls', hcalls, List.append_assoc], fun call hcall => ?_⟩
  rcases List.mem_append.mp hcall with hcall | hcall
  · exact hframes call hcall
  · exact hframes' call hcall

/-- A reply adds whole frames, if its response is one the response buffer can hold. -/
theorem AddsFrames.of_reply {p p' : Platform π} (own : UInt16) (reply : FrameReply)
    (h : reply.Bounded) (hcalls : p'.calls = p.calls ++ reply.calls (ι := ι) own) :
    AddsFrames ι p p' :=
  ⟨_, hcalls, fun _ hcall => h.sendsFrame hcall⟩

/-- A negative acknowledgement adds a whole frame, whatever its code. -/
theorem AddsFrames.nack (code : NackCode) (x : Session π × Platform π) :
    AddsFrames ι x.2 (transmit (nackFrame (ι := ι) code) x).2 :=
  .of_reply 0 (.nack code) trivial (transmit_calls _ _)

/-- Handling a frame adds whole frames, whatever the frame was. -/
theorem Handled.addsFrames {s : Session π} {p : Platform π} {header : Header}
    {payload : List UInt8} {verdict : TcpVerdict} {x : Session π × Platform π}
    (h : Handled (ι := ι) s p header payload verdict x) : AddsFrames ι p x.2 := by
  cases h with
  | granted req =>
    exact .of_reply s.ownAddress (.activation _ _) trivial (transmit_calls _ _)
  | denied tester code =>
    exact .of_reply s.ownAddress (.activation _ _) trivial (transmit_calls _ _)
  | dispatched dm =>
    exact .of_reply _ _ (FrameReply.bounded_service _ _ _ _) (calls_dispatch _ _ (s, p))
  | rejected _ tester code =>
    exact .of_reply s.ownAddress (.refusal _ _) trivial (transmit_calls _ _)
  | unserved => exact .nack _ (s, p)

/-- Receiving a chunk adds whole frames, also where the chunk is refused or the connection
closed. -/
theorem Entity.Fed.addsFrames {e e' : Entity π} {data : List UInt8} {p p' : Platform π}
    {verdict : TcpVerdict} (h : e.Fed (ι := ι) data p verdict e' p') : AddsFrames ι p p' := by
  cases h with
  | unserved | empty => exact .refl p
  | @overflow cb _ _ => exact .nack .outOfMemory (e.session cb, p)
  | @drained cb _ =>
    have hdrain : AddsFrames ι p (e.drainOf ι cb data p).1.2 := by
      refine drain_frames_invariant (P := fun x _ => AddsFrames ι p x.2) ?_ (.refl p)
      intro x x' s frame n verdict _ hh hx
      exact ⟨hx.trans hh.addsFrames, hx.trans hh.addsFrames⟩
    rcases conclude_cases (ι := ι) (e.drainOf ι cb data p) with hc | ⟨code, hc⟩
    · rw [hc]
      exact hdrain
    · rw [hc]
      exact hdrain.trans (.nack code _)

/-- **The entity's replies.** An initialised entity answers every frame with the one reply that is
due to it, whose calls no reply of another kind makes. It builds an answer to every datagram but a
short one and one that is neither a request nor an error, and sends every answer and every negative
acknowledgement it builds. Whatever it receives on TCP or UDP, each of its sends is one whole frame
that fits its transmit buffer. -/
theorem entity_reply_discipline {e : Entity π} {cb : Callbacks π} (hcb : e.callbacks = some cb) :
    (∀ header payload p, ∃ verdict reply s' p',
      handleTcpFrame (ι := ι) (e.session cb) header payload p = some (verdict, s', p') ∧
      FrameReply.Due (ι := ι) (e.session cb) p header payload verdict reply ∧
      p'.calls = p.calls ++ reply.calls (ι := ι) e.logicalAddress ∧
      ∀ other : FrameReply, p'.calls = p.calls ++ other.calls (ι := ι) e.logicalAddress →
        reply.payloadType = other.payloadType) ∧
    (∀ tx code p, ∃ tx' p', sendTcpNack (ι := ι) cb tx code p = some (tx', p') ∧
      p'.calls = p.calls ++ (FrameReply.nack code).calls (ι := ι) e.logicalAddress) ∧
    (∀ data, e.udpReply (ι := ι) data = none ↔ tryFrame (ι := ι) data = .ok none ∨
      ∃ frame consumed payload, tryFrame (ι := ι) data = .ok (some (frame, consumed)) ∧
        Payload.decode (ι := ι) frame.payload frame.header.payloadType = .ok payload ∧
        payload ≠ .vehicleIdentificationRequest ∧ payload ≠ .entityStatusRequest) ∧
    (∀ srcAddr srcPort data p, data ≠ [] → ∃ e' p',
      e.onUdpRx (ι := ι) srcAddr srcPort data p = some (e', p') ∧
      p'.calls = p.calls ++ (e.udpReply (ι := ι) data).toList.map
        fun msg => .sendUdp srcAddr srcPort msg.frame) ∧
    (∀ data p, ∃ verdict e' p', e.onTcpRx (ι := ι) data p = some (verdict, e', p') ∧
      AddsFrames ι p p') ∧
    ∀ srcAddr srcPort data p, ∃ e' p', e.onUdpRx (ι := ι) srcAddr srcPort data p = some (e', p') ∧
      AddsFrames ι p p' := by
  refine ⟨fun header payload p => ?_, fun tx code p => ?_, e.udpReply_eq_none_iff, ?_, ?_, ?_⟩
  · obtain ⟨verdict, reply, s', p', hframe, hdue, hcalls⟩ :=
      handleTcpFrame_reply (e.session cb) header payload p
    refine ⟨verdict, reply, s', p', hframe, hdue, hcalls, fun other hother => ?_⟩
    exact FrameReply.payloadType_eq_of_calls (List.append_cancel_left (hcalls.symm.trans hother))
  · exact ⟨_, _, sendTcpNack_eq cb tx code p, rfl⟩
  · intro srcAddr srcPort data p hdata
    obtain ⟨e', p', hrx, hcalls⟩ := e.onUdpRx_calls (ι := ι) srcAddr srcPort data p
    refine ⟨e', p', hrx, ?_⟩
    rw [hcalls, Entity.udpAnswer, if_pos ⟨by rw [hcb]; rfl, hdata⟩]
    cases e.udpReply (ι := ι) data <;> rfl
  · intro data p
    obtain ⟨verdict, e', p', hrx, hfed⟩ := e.onTcpRx_fed (ι := ι) data p
    exact ⟨verdict, e', p', hrx, hfed.addsFrames⟩
  · intro srcAddr srcPort data p
    obtain ⟨e', p', hrx, hcalls⟩ := e.onUdpRx_calls (ι := ι) srcAddr srcPort data p
    refine ⟨e', p', hrx, _, hcalls, fun call hcall => ?_⟩
    obtain ⟨frame, hframe, rfl⟩ := List.mem_map.mp hcall
    exact Entity.udpAnswer_sendsFrame (Option.mem_toList.mp hframe) srcAddr srcPort

end

/-- An alive check request, which the entity does not serve, gets one negative acknowledgement. -/
theorem entity_reply_discipline_alive_check :
    letI := plainWire
    ∃ s' p', handleTcpFrame (countingEntity.session countingCallbacks)
        (Header.new .v2012 .aliveCheckRequest 0) [] ⟨(0, 0), []⟩ = some (.keepOpen, s', p') ∧
      p'.calls = [.sendTcp (nackFrame .unknownPayloadType)] := by
  let := plainWire
  have hcb : countingEntity.callbacks = some countingCallbacks := rfl
  obtain ⟨verdict, reply, s', p', hframe, hdue, hcalls, -⟩ :=
    (entity_reply_discipline hcb).1
      (Header.new .v2012 .aliveCheckRequest 0) [] ⟨(0, 0), []⟩
  cases hdue with
  | unserved => exact ⟨s', p', hframe, hcalls⟩
  | activation hdecode | inactive hdecode | foreignSource hdecode | foreignTarget hdecode
  | served hdecode => cases hdecode

section
variable {ι : Type} [WireCodec ι] {π : Type}

/-! ## The codes of the negative acknowledgements -/

/-- The payload types the entity serves on its data socket. It knows the others, too, but does not
serve them there. -/
def PayloadType.ServedOnTcp (t : PayloadType) : Prop :=
  t = .routingActivationRequest ∨ t = .diagnosticMessage

/-- A frame of a served type whose body is shorter than the least that type has. -/
def RawFrame.Stunted (frame : RawFrame) : Prop :=
  frame.header.payloadType.ServedOnTcp ∧
    frame.payload.length < frame.header.payloadType.minimum

/-- What the negative acknowledgements document, of one frame: an unknown payload type is one the
entity does not serve, and a served type with too short a body is an invalid payload length, which
closes the connection and leaves the active tester alone. -/
def NacksAsDocumented (ι : Type) [WireCodec ι] (s : Session π) (p : Platform π)
    (frame : RawFrame) : Prop :=
  ∃ verdict s' p' calls,
    handleTcpFrame (ι := ι) s frame.header frame.payload p = some (verdict, s', p') ∧
    p'.calls = p.calls ++ calls ∧
    (.sendTcp (nackFrame (ι := ι) .unknownPayloadType) ∈ calls →
      ¬ frame.header.payloadType.ServedOnTcp) ∧
    (frame.Stunted → calls = [.sendTcp (nackFrame (ι := ι) .invalidPayloadLength)] ∧
      verdict = .close ∧ s'.activeTester = s.activeTester)

theorem PayloadType.ServedOnTcp.supported {t : PayloadType} (h : t.ServedOnTcp) :
    t.supported = true := by
  rcases h with rfl | rfl <;> rfl

/-- A stunted frame is answered as if its type were unknown, and the connection stays open. -/
theorem handleTcpFrame_stunted (s : Session π) {frame : RawFrame} (h : frame.Stunted)
    (p : Platform π) :
    handleTcpFrame (ι := ι) s frame.header frame.payload p =
      some (.keepOpen, transmit (nackFrame (ι := ι) .unknownPayloadType) (s, p)) := by
  obtain ⟨e, he⟩ := (Payload.decode_incomplete_iff (ι := ι) _ _).mpr ⟨h.1.supported, h.2⟩
  rw [handleTcpFrame_eq, decideFrame, he]
  rfl

/-- A frame of a served type that is not stunted is one of the two requests. -/
theorem decode_of_served {frame : RawFrame} (ht : frame.header.payloadType.ServedOnTcp)
    (h : ¬ frame.Stunted) :
    (∃ req, Payload.decode (ι := ι) frame.payload frame.header.payloadType =
      .ok (.routingActivationRequest req)) ∨
    ∃ dm, Payload.decode (ι := ι) frame.payload frame.header.payloadType =
      .ok (.diagnosticMessage dm) := by
  have hmin : frame.header.payloadType.minimum ≤ frame.payload.length :=
    Nat.le_of_not_lt fun hlt => h ⟨ht, hlt⟩
  obtain ⟨payload, hdecode⟩ := (Payload.decode_ok_iff (ι := ι) _ _).mpr ⟨ht.supported, hmin⟩
  have hcarries := PayloadType.carries_of_decode hdecode
  rcases ht with ht | ht
  · rw [ht] at hcarries
    cases payload with
    | routingActivationRequest req => exact .inl ⟨req, hdecode⟩
    | _ => cases hcarries
  · rw [ht] at hcarries
    cases payload with
    | diagnosticMessage dm => exact .inr ⟨dm, hdecode⟩
    | _ => cases hcarries

/-- Only a generic negative acknowledgement sends one, as the replies differ in the type they start
with. -/
theorem FrameReply.payloadType_of_nack_mem {reply : FrameReply} {own : UInt16} {code : NackCode}
    (h : .sendTcp (nackFrame (ι := ι) code) ∈ reply.calls (ι := ι) own) :
    reply.payloadType = .negativeAcknowledge := by
  have htype : ∀ {t : PayloadType} {payload : Payload},
      PlatformCall.sendTcp (nackFrame (ι := ι) code) = .sendTcp (entityFrame (ι := ι) t payload) →
      t.toU16 = 0x0000 := fun heq =>
    (toU16_eq_of_entityFrame (PlatformCall.sendTcp.inj heq)).symm
  cases reply with
  | activation => exact absurd (htype (List.mem_singleton.mp h)) (by decide)
  | refusal => exact absurd (htype (List.mem_singleton.mp h)) (by decide)
  | nack => rfl
  | service =>
    rcases List.mem_cons.mp h with h | h
    · exact absurd (htype h) (by decide)
    rcases List.mem_cons.mp h with h | h
    · cases h
    obtain ⟨data, -, heq⟩ := List.mem_map.mp h
    exact absurd (htype heq.symm) (by decide)

/-- **The negative acknowledgements mean what they document, except for stunted frames**: an
initialised entity treats a frame as documented if and only if it is not of a served type with too
short a body. -/
theorem nacks_as_documented_iff (e : Entity π) (cb : Callbacks π) (frame : RawFrame)
    (p : Platform π) :
    NacksAsDocumented ι (e.session cb) p frame ↔ ¬ frame.Stunted := by
  constructor
  · rintro ⟨verdict, s', p', calls, hframe, hcalls, hunknown, -⟩ hstunted
    rw [handleTcpFrame_stunted _ hstunted] at hframe
    cases hframe
    obtain rfl := List.append_cancel_left hcalls
    exact hunknown (List.mem_singleton.mpr rfl) hstunted.1
  · intro hstunted
    obtain ⟨verdict, reply, s', p', hframe, hdue, hcalls⟩ :=
      handleTcpFrame_reply (ι := ι) (e.session cb) frame.header frame.payload p
    refine ⟨verdict, s', p', _, hframe, hcalls, fun hnack hserved => ?_, fun h => absurd h hstunted⟩
    have hkind := FrameReply.payloadType_of_nack_mem hnack
    cases hdue with
    | unserved hactivation hdiagnostic =>
      rcases decode_of_served (ι := ι) hserved hstunted with ⟨req, hdecode⟩ | ⟨dm, hdecode⟩
      · exact hactivation req hdecode
      · exact hdiagnostic dm hdecode
    | activation | inactive | foreignSource | foreignTarget | served => cases hkind

end

/-- A diagnostic message of three bytes, to an entity just initialised: its type is called unknown,
and the connection stays open. -/
theorem stunted_diagnostic_message :
    letI := plainWire
    let received : List UInt8 := [0x02, 0xFD, 0x80, 0x01, 0, 0, 0, 3, 0x0E, 0x00, 0x10]
    ∃ s frame s' p', run Service.perform (Service.start (0, 0)) [initCounting] = some s ∧
      s.entity.callbacks = some countingCallbacks ∧
      tryFrame received = .ok (some (frame, received.length)) ∧
      frame.header.payloadType = .diagnosticMessage ∧
      handleTcpFrame (s.entity.session countingCallbacks) frame.header frame.payload
        ⟨s.state, []⟩ = some (.keepOpen, s', p') ∧
      p'.calls = [.sendTcp (nackFrame .unknownPayloadType)] ∧
      ¬ NacksAsDocumented _ (s.entity.session countingCallbacks) ⟨s.state, []⟩ frame := by
  let := plainWire
  have hstunted : RawFrame.Stunted ⟨headerOf 0x02 0xFD 0x8001 3, [0x0E, 0x00, 0x10]⟩ :=
    ⟨.inr rfl, by decide⟩
  have hframe := handleTcpFrame_stunted (countingEntity.session countingCallbacks) hstunted
    ⟨(0, 0), []⟩
  refine ⟨_, _, _, _, rfl, rfl, rfl, rfl, hframe, rfl, ?_⟩
  rintro ⟨verdict, s', p', calls, hframe', -, -, hlength⟩
  cases hframe.symm.trans hframe'
  cases (hlength hstunted).2.1

end SimpleDoip
