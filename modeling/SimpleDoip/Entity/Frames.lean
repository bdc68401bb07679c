import SimpleDoip.Entity.Model

/-!
# What the entity does with one frame

Every answer of the entity is one whole frame, sent with one `send_tcp`: `transmit` is that effect
on a session and its platform. `handleTcpFrame_spec` says that handling a frame never panics, and
`Handled` lists everything it can do, one constructor per outcome.
-/

namespace SimpleDoip

section
variable {ι : Type} [WireCodec ι] {π : Type}

/-! ## Sending a frame -/

/-- The bytes of a message the entity sends: a header of version 2 with its inverse, and the
payload. -/
def entityFrame (payloadType : PayloadType) (payload : Payload) : List UInt8 :=
  rawHeader 0x02 0xFD payloadType.toU16 (UInt32.ofNat (bytes payload).length) ++ bytes payload

@[simp] theorem length_entityFrame (t : PayloadType) (p : Payload) :
    (entityFrame t p).length = 8 + (bytes p).length := by
  simp [entityFrame]

/-- A message of the entity's version is written as its frame, whatever length its header has. -/
theorem frame_eq_entityFrame (t : PayloadType) (n : UInt32) (p : Payload) :
    Message.frame ⟨Header.new PROTOCOL_VERSION t n, p⟩ = entityFrame t p := rfl

theorem framed_eq {t : PayloadType} {p : Payload} (h : (bytes p).length < 2 ^ 32) :
    framed t p =
      some ⟨Header.new PROTOCOL_VERSION t (UInt32.ofNat (bytes p).length), p⟩ := by
  simp only [framed, WireForm.encodedSize_eq, Except.toOption, Option.bind_eq_bind,
    Option.bind_some, u32TryFrom_of_lt h]
  rfl

/-- The transmit buffer after a frame was staged in it: the frame, and what was there behind it. -/
def txAfter {n : Nat} (tx : U8Array n) (frame : List UInt8) : U8Array n :=
  ((SliceWriter.start tx).fill frame).buffer

/-- A staged frame is the front of the buffer, from where it is sliced to be sent. -/
theorem take_txAfter {n : Nat} (tx : U8Array n) {frame : List UInt8} (h : frame.length ≤ n) :
    (txAfter tx frame).toList.take frame.length = frame := by
  have hfree : frame.take tx.toList.length = frame :=
    List.take_of_length_le (by rw [tx.toList_length]; exact h)
  change (([] ++ frame.take tx.toList.length) ++ _).take frame.length = frame
  rw [hfree, List.nil_append, List.take_left]

/-- A message that fits is staged as its frame, and its length is that of the frame. -/
theorem encodeInto_eq {n : Nat} (buf : U8Array n) {m : Message} (hn : m.frame.length ≤ n)
    (hfit : (bytes m.payload).length < 2 ^ 32) :
    encodeInto buf m = (some m.frame.length, txAfter buf m.frame) := by
  simp only [encodeInto, Message.encode_slice hfit buf hn, txAfter]

/-- The effect of sending one frame on the TCP connection: it is staged, and the platform is called
with it. -/
def transmit (frame : List UInt8) (x : Session π × Platform π) : Session π × Platform π :=
  ({ x.1 with txBuf := txAfter x.1.txBuf frame }, x.2.sendTcp x.1.cb frame)

@[simp] theorem transmit_activeTester (frame : List UInt8) (x : Session π × Platform π) :
    (transmit frame x).1.activeTester = x.1.activeTester := rfl
@[simp] theorem transmit_ownAddress (frame : List UInt8) (x : Session π × Platform π) :
    (transmit frame x).1.ownAddress = x.1.ownAddress := rfl
@[simp] theorem transmit_cb (frame : List UInt8) (x : Session π × Platform π) :
    (transmit frame x).1.cb = x.1.cb := rfl
@[simp] theorem transmit_calls (frame : List UInt8) (x : Session π × Platform π) :
    (transmit frame x).2.calls = x.2.calls ++ [.sendTcp frame] := rfl

/-- A message of the entity that fits the transmit buffer is staged as its frame, and sliced back
out of the buffer. -/
theorem encodeInto_entityFrame (tx : U8Array TX_CAP) {t : PayloadType} {n : UInt32}
    {payload : Payload} (h : 8 + (bytes payload).length ≤ TX_CAP) :
    encodeInto tx ⟨Header.new PROTOCOL_VERSION t n, payload⟩ =
        (some (entityFrame t payload).length, txAfter tx (entityFrame t payload)) ∧
      sliceTo (txAfter tx (entityFrame t payload)).toList (entityFrame t payload).length =
        some (entityFrame t payload) := by
  have hcap : TX_CAP = 1036 := rfl
  have hlen : (entityFrame t payload).length ≤ TX_CAP := by rwa [length_entityFrame]
  constructor
  · have henc := encodeInto_eq tx (m := ⟨Header.new PROTOCOL_VERSION t n, payload⟩) hlen
      (show (bytes payload).length < 2 ^ 32 by omega)
    rwa [frame_eq_entityFrame] at henc
  · rw [sliceTo, if_pos (by rw [List.Vector.toList_length]; exact hlen), take_txAfter tx hlen]

/-- A message that fits the transmit buffer is sent as its frame, with one call to the platform. -/
theorem sendTcpMsg_eq (cb : Callbacks π) (tx : U8Array TX_CAP) {t : PayloadType} {n : UInt32}
    {payload : Payload} (h : 8 + (bytes payload).length ≤ TX_CAP) (p : Platform π) :
    sendTcpMsg cb tx ⟨Header.new PROTOCOL_VERSION t n, payload⟩ p =
      some (txAfter tx (entityFrame t payload), p.sendTcp cb (entityFrame t payload)) := by
  obtain ⟨henc, hslice⟩ := encodeInto_entityFrame (n := n) tx (t := t) h
  simp only [sendTcpMsg, henc, hslice]
  rfl

/-- The frame of a generic negative acknowledgement, which has the code as its body. -/
def nackFrame (code : NackCode) : List UInt8 :=
  entityFrame .negativeAcknowledge (.doIPNack code)

/-- The frame of an acknowledgement of a diagnostic message, from the entity to the tester and
without data. -/
def ackFrame (payloadType : PayloadType) (own tester : UInt16) (code : DiagnosticAckCode) :
    List UInt8 :=
  entityFrame payloadType (.diagnosticMessageAck ⟨⟨own⟩, ⟨tester⟩, code, []⟩)

/-- The frame of a routing activation response, with zeros in the reserved field and nothing behind
it. -/
def activationFrame (tester own : UInt16) (code : RoutingActivationResponseCode) : List UInt8 :=
  entityFrame .routingActivationResponse
    (.routingActivationResponse ⟨⟨tester⟩, ⟨own⟩, code, filledArray 4 0, none⟩)

/-- The frame of a diagnostic message, which is how a UDS response is sent. -/
def diagnosticFrame (source target : UInt16) (userData : List UInt8) : List UInt8 :=
  entityFrame .diagnosticMessage (.diagnosticMessage ⟨⟨source⟩, ⟨target⟩, userData⟩)

/-- Frames of different payload types differ, as the type stands in the header. -/
theorem toU16_eq_of_entityFrame {t t' : PayloadType} {q q' : Payload}
    (h : entityFrame (ι := ι) t q = entityFrame t' q') : t.toU16 = t'.toU16 := by
  have hhead := (List.append_inj h rfl).1
  simp only [rawHeader, List.cons.injEq, true_and] at hhead
  exact u16Be_injective (List.append_inj hhead rfl).1

/-- Frames with different acknowledgement codes differ, as the code is the last byte. -/
theorem nackFrame_ne {code code' : NackCode} (h : code.toU8 ≠ code'.toU8) :
    nackFrame (ι := ι) code ≠ nackFrame code' := by
  intro heq
  have hlast : [code.toU8] = [code'.toU8] := List.append_cancel_left heq
  exact h (List.cons.inj hlast).1

/-- An activation response names its tester and its code, so that it can be told from the frame
which request it answers and how. -/
theorem activationFrame_inj {tester tester' own : UInt16}
    {code code' : RoutingActivationResponseCode}
    (h : activationFrame (ι := ι) tester own code = activationFrame tester' own code') :
    tester = tester' ∧ code.toU8 = code'.toU8 := by
  have hbody : u16Be tester ++ (u16Be own ++ code.toU8 :: (List.replicate 4 0 ++ [])) =
      u16Be tester' ++ (u16Be own ++ code'.toU8 :: (List.replicate 4 0 ++ [])) :=
    List.append_cancel_left h
  obtain ⟨htester, hrest⟩ := List.append_inj hbody rfl
  exact ⟨u16Be_injective htester, (List.cons.inj (List.append_cancel_left hrest)).1⟩

theorem sendTcpNack_eq (cb : Callbacks π) (tx : U8Array TX_CAP) (code : NackCode)
    (p : Platform π) :
    sendTcpNack cb tx code p =
      some (txAfter tx (nackFrame code), p.sendTcp cb (nackFrame code)) := by
  have h1 : (bytes (Payload.doIPNack code)).length = 1 := rfl
  rw [sendTcpNack, framed_eq (by omega)]
  exact sendTcpMsg_eq cb tx (by rw [h1]; decide) p

theorem sendDiagAck_eq (s : Session π) (t : PayloadType) (tester : UInt16)
    (code : DiagnosticAckCode) (p : Platform π) :
    sendDiagAck s t tester code p =
      some (transmit (ackFrame t s.ownAddress tester code) (s, p)) := by
  have h5 : (bytes (Payload.diagnosticMessageAck
      ⟨⟨s.ownAddress⟩, ⟨tester⟩, code, []⟩)).length = 5 := rfl
  rw [sendDiagAck, framed_eq (by omega)]
  change (sendTcpMsg _ _ _ _ >>= _) = _
  rw [sendTcpMsg_eq s.cb s.txBuf (by rw [h5]; decide) p]
  rfl

/-! ## Routing activation -/

/-- The answer to a routing activation request is one frame: its constructor does not panic. -/
theorem routingActivationResponse_eq (own : UInt16) (source : LogicalAddress)
    (code : RoutingActivationResponseCode) :
    ∃ n, Message.routingActivationResponse PROTOCOL_VERSION source ⟨own⟩ code (filledArray 4 0)
      none = some ⟨Header.new PROTOCOL_VERSION .routingActivationResponse n,
        .routingActivationResponse ⟨source, ⟨own⟩, code, filledArray 4 0, none⟩⟩ :=
  ⟨_, rfl⟩

theorem sendTcpMsg_activation (cb : Callbacks π) (tx : U8Array TX_CAP) (n : UInt32)
    (source : LogicalAddress) (own : UInt16) (code : RoutingActivationResponseCode)
    (p : Platform π) :
    sendTcpMsg cb tx ⟨Header.new PROTOCOL_VERSION .routingActivationResponse n,
        .routingActivationResponse ⟨source, ⟨own⟩, code, filledArray 4 0, none⟩⟩ p =
      some (txAfter tx (activationFrame source.value own code),
        p.sendTcp cb (activationFrame source.value own code)) := by
  have h9 : (bytes (Payload.routingActivationResponse
      ⟨source, ⟨own⟩, code, filledArray 4 0, none⟩)).length = 9 := rfl
  exact sendTcpMsg_eq cb tx (by rw [h9]; decide) p

/-- A request is granted when it comes from a tester address, asks for a served activation type,
and no other tester is active. -/
def Grants (s : Session π) (req : RoutingActivationRequest) : Prop :=
  req.sourceAddress.isValidClientAddress = true ∧
  (req.activationType = .default ∨ req.activationType = .regulationRequired) ∧
  (s.activeTester = none ∨ s.activeTester = some req.sourceAddress.value)

theorem any_ne_iff {a : Option UInt16} {x : UInt16} :
    a.any (· ≠ x) = false ↔ a = none ∨ a = some x := by
  cases a <;> simp

/-- A granted request registers its tester, keeps the connection open, and is answered with
success. -/
theorem handleRoutingActivation_granted {s : Session π} {req : RoutingActivationRequest}
    (h : Grants s req) (p : Platform π) :
    handleRoutingActivation s req p = some (.keepOpen,
      transmit (activationFrame req.sourceAddress.value s.ownAddress .routingSuccessfullyActivated)
        ({ s with activeTester := some req.sourceAddress.value }, p)) := by
  obtain ⟨hv, ht, ha⟩ := h
  obtain ⟨n, hn⟩ := routingActivationResponse_eq (ι := ι) s.ownAddress req.sourceAddress
    .routingSuccessfullyActivated
  have ha' := any_ne_iff.mpr ha
  simp only [handleRoutingActivation, hv, ht, ha', not_true_eq_false, if_false, Bool.false_eq_true,
    hn, Option.bind_eq_bind, Option.bind_some, sendTcpMsg_activation]
  rfl

/-- Any other request is denied, closes the connection and registers nobody. -/
theorem handleRoutingActivation_denied {s : Session π} {req : RoutingActivationRequest}
    (h : ¬ Grants s req) (p : Platform π) :
    ∃ code, code.toU8 ≠ RoutingActivationResponseCode.routingSuccessfullyActivated.toU8 ∧
      handleRoutingActivation s req p = some (.close,
        transmit (activationFrame req.sourceAddress.value s.ownAddress code) (s, p)) := by
  have key : ∀ code, (do
      let msg ← Message.routingActivationResponse PROTOCOL_VERSION req.sourceAddress
        ⟨s.ownAddress⟩ code (filledArray 4 0) none
      let sent ← sendTcpMsg s.cb s.txBuf msg p
      return (TcpVerdict.close, ({ s with txBuf := sent.1 } : Session π), sent.2)) = some (.close,
        transmit (activationFrame req.sourceAddress.value s.ownAddress code) (s, p)) := by
    intro code
    obtain ⟨n, hn⟩ := routingActivationResponse_eq (ι := ι) s.ownAddress req.sourceAddress code
    rw [hn, Option.bind_eq_bind, Option.bind_some, sendTcpMsg_activation]
    rfl
  by_cases hv : req.sourceAddress.isValidClientAddress = true
  · by_cases ht : req.activationType = .default ∨ req.activationType = .regulationRequired
    · have ha : s.activeTester.any (· ≠ req.sourceAddress.value) = true := by
        rw [← Bool.not_eq_false, any_ne_iff]
        exact fun ha => h ⟨hv, ht, ha⟩
      refine ⟨.deniedSourceAddressAlreadyActivated, by decide, ?_⟩
      simp only [handleRoutingActivation, hv, ht, ha, not_true_eq_false, if_false, if_true]
      exact key _
    · refine ⟨.deniedUnsupportedRoutingActivationType, by decide, ?_⟩
      simp only [handleRoutingActivation, hv, ht, not_true_eq_false, not_false_eq_true, if_false,
        if_true]
      exact key _
  · refine ⟨.deniedUnknownSourceAddress, by decide, ?_⟩
    simp only [handleRoutingActivation, hv]
    exact key _

/-! ## Diagnostic messages -/

/-- The response a dispatch produced: what it reported of the buffer it left, at most all of it. -/
def udsResponse (reported : Int32) (responseOut : U8Array UDS_RESP_CAP) : List UInt8 :=
  responseOut.toList.take (min reported.toInt.toNat UDS_RESP_CAP)

/-- Acknowledge a request, dispatch it, and send the response if there is one. -/
def dispatch (tester : UInt16) (request : List UInt8) (x : Session π × Platform π) :
    Session π × Platform π :=
  let (s, p) := transmit (ackFrame .diagnosticMessagePositiveAcknowledge x.1.ownAddress tester
    .routingConfirmationAck) x
  let (reported, udsRespBuf, p) := p.onUdsRequest s.cb request s.udsRespBuf
  let s := { s with udsRespBuf }
  if reported.toInt.toNat > 0 then
    transmit (diagnosticFrame s.ownAddress tester (udsResponse reported udsRespBuf)) (s, p)
  else (s, p)

@[simp] theorem dispatch_activeTester (tester : UInt16) (request : List UInt8)
    (x : Session π × Platform π) :
    (dispatch tester request x).1.activeTester = x.1.activeTester := by
  simp only [dispatch]
  split <;> rfl

@[simp] theorem dispatch_ownAddress (tester : UInt16) (request : List UInt8)
    (x : Session π × Platform π) :
    (dispatch tester request x).1.ownAddress = x.1.ownAddress := by
  simp only [dispatch]
  split <;> rfl

@[simp] theorem dispatch_cb (tester : UInt16) (request : List UInt8)
    (x : Session π × Platform π) : (dispatch tester request x).1.cb = x.1.cb := by
  simp only [dispatch]
  split <;> rfl

/-- A dispatch calls for the acknowledgement, the request and at most one response. -/
theorem dispatch_calls (tester : UInt16) (request : List UInt8) (x : Session π × Platform π) :
    ∃ responses : List (List UInt8), responses.length ≤ 1 ∧
      (dispatch tester request x).2.calls = x.2.calls ++
        .sendTcp (ackFrame .diagnosticMessagePositiveAcknowledge x.1.ownAddress tester
          .routingConfirmationAck) :: .onUdsRequest request ::
        responses.map fun data =>
          .sendTcp (diagnosticFrame x.1.ownAddress tester data) := by
  simp only [dispatch]
  split
  · exact ⟨[_], Nat.le_refl 1, by simp [Platform.onUdsRequest]; rfl⟩
  · exact ⟨[], Nat.zero_le 1, by simp [Platform.onUdsRequest]⟩

theorem length_udsResponse_le (reported : Int32) (responseOut : U8Array UDS_RESP_CAP) :
    (udsResponse reported responseOut).length ≤ UDS_RESP_CAP := by
  rw [udsResponse, List.length_take]
  omega

/-- A diagnostic message that fits the length field can be constructed, and its header says its
length. -/
theorem diagnosticMessage_eq (v : ProtocolVersion) (source target : LogicalAddress)
    {data : List UInt8} (h : 4 + data.length < 2 ^ 32) :
    Message.diagnosticMessage (ι := ι) v source target data =
      some ⟨Header.new v .diagnosticMessage (UInt32.ofNat (4 + data.length)),
        .diagnosticMessage ⟨source, target, data⟩⟩ := by
  have hsize : payloadLen (ι := ι) (⟨source, target, data⟩ : DiagnosticMessage) =
      some (UInt32.ofNat (4 + data.length)) := u32TryFrom_of_lt h
  rw [Message.diagnosticMessage, hsize]
  rfl

theorem length_bytes_diagnosticMessage (m : DiagnosticMessage) :
    (bytes (Payload.diagnosticMessage m)).length = 4 + m.userData.length := by
  change (u16Be _ ++ (u16Be _ ++ m.userData)).length = _
  simp only [List.length_append, length_u16Be]
  omega

/-- Sending the response of a dispatch never fails: it fits the buffer it is sliced from, the
length field and the transmit buffer. -/
theorem sendResponse_eq (s : Session π) (tester : UInt16) (reported : Int32) (p : Platform π) :
    (do
      let data ← sliceTo s.udsRespBuf.toList (min reported.toInt.toNat UDS_RESP_CAP)
      let msg ← Message.diagnosticMessage PROTOCOL_VERSION ⟨s.ownAddress⟩ ⟨tester⟩ data
      let (txBuf, p) ← sendTcpMsg s.cb s.txBuf msg p
      return (TcpVerdict.keepOpen, ({ s with txBuf } : Session π), p)) =
      some (.keepOpen, transmit (diagnosticFrame s.ownAddress tester
        (udsResponse reported s.udsRespBuf)) (s, p)) := by
  have hslice : sliceTo s.udsRespBuf.toList (min reported.toInt.toNat UDS_RESP_CAP) =
      some (udsResponse reported s.udsRespBuf) := by
    rw [sliceTo, if_pos (by rw [List.Vector.toList_length]; omega), udsResponse]
  have hlen := length_udsResponse_le reported s.udsRespBuf
  have hcap : UDS_RESP_CAP = 1024 := rfl
  have htx : TX_CAP = 1036 := rfl
  have hsize : 4 + (udsResponse reported s.udsRespBuf).length < 2 ^ 32 := by omega
  have hn := diagnosticMessage_eq (ι := ι) PROTOCOL_VERSION ⟨s.ownAddress⟩ ⟨tester⟩ hsize
  simp only [hslice, hn, Option.bind_eq_bind, Option.bind_some]
  rw [sendTcpMsg_eq s.cb s.txBuf (by rw [length_bytes_diagnosticMessage]; simp only; omega) p]
  rfl

/-- A message to the entity from its active tester is dispatched, and the connection stays open. -/
theorem handleDiagnosticMessage_dispatched {s : Session π} {dm : DiagnosticMessage}
    (ha : s.activeTester = some dm.sourceAddress.value)
    (ht : dm.targetAddress.value = s.ownAddress) (p : Platform π) :
    handleDiagnosticMessage s dm p =
      some (.keepOpen, dispatch dm.sourceAddress.value dm.userData (s, p)) := by
  simp only [handleDiagnosticMessage, ha, ht, ne_eq, not_true_eq_false, if_false, sendDiagAck_eq,
    Option.bind_eq_bind, Option.bind_some, dispatch]
  split
  · exact sendResponse_eq { (transmit _ (s, p)).1 with udsRespBuf := _ } _ _ _
  · rfl

/-- Any other message is answered with a negative acknowledgement. It closes the connection unless
only its target is wrong. -/
theorem handleDiagnosticMessage_rejected {s : Session π} {dm : DiagnosticMessage}
    (h : ¬ (s.activeTester = some dm.sourceAddress.value ∧
      dm.targetAddress.value = s.ownAddress)) (p : Platform π) :
    ∃ verdict tester code, code ≠ .routingConfirmationAck ∧
      handleDiagnosticMessage s dm p = some (verdict,
        transmit (ackFrame .diagnosticMessageNegativeAcknowledge s.ownAddress tester code)
          (s, p)) := by
  cases ha : s.activeTester with
  | none =>
    refine ⟨.close, dm.sourceAddress.value, .invalidSourceAddress, nofun, ?_⟩
    simp only [handleDiagnosticMessage, ha, sendDiagAck_eq]
    rfl
  | some tester =>
    by_cases hs : dm.sourceAddress.value = tester
    · have ht : dm.targetAddress.value ≠ s.ownAddress := fun ht => h ⟨by rw [ha, hs], ht⟩
      refine ⟨.keepOpen, tester, .unknownTargetAddress, nofun, ?_⟩
      simp only [handleDiagnosticMessage, ha, hs, ht, ne_eq, not_true_eq_false, not_false_eq_true,
        if_false, if_true, sendDiagAck_eq]
      rfl
    · refine ⟨.close, tester, .invalidSourceAddress, nofun, ?_⟩
      simp only [handleDiagnosticMessage, ha, hs, ne_eq, not_false_eq_true, if_true,
        sendDiagAck_eq]
      rfl

/-! ## One frame -/

/-- Everything the entity can do with a frame, by what the frame decodes to. -/
inductive Handled (s : Session π) (p : Platform π) (header : Header) (payload : List UInt8) :
    TcpVerdict → Session π × Platform π → Prop where
  /-- A granted activation registers its tester and is confirmed. The connection stays open. -/
  | granted (req : RoutingActivationRequest)
      (hdecode : Payload.decode (ι := ι) payload header.payloadType =
        .ok (.routingActivationRequest req)) (hgrant : Grants s req) :
      Handled s p header payload .keepOpen
        (transmit (activationFrame req.sourceAddress.value s.ownAddress
          .routingSuccessfullyActivated)
          ({ s with activeTester := some req.sourceAddress.value }, p))
  /-- A denied activation is answered with its reason and closes the connection. -/
  | denied (tester : UInt16) (code : RoutingActivationResponseCode)
      (hcode : code.toU8 ≠ RoutingActivationResponseCode.routingSuccessfullyActivated.toU8) :
      Handled s p header payload .close
        (transmit (activationFrame tester s.ownAddress code) (s, p))
  /-- A diagnostic message from the active tester to this entity is dispatched. -/
  | dispatched (dm : DiagnosticMessage)
      (hdecode : Payload.decode (ι := ι) payload header.payloadType = .ok (.diagnosticMessage dm))
      (hactive : s.activeTester = some dm.sourceAddress.value)
      (htarget : dm.targetAddress.value = s.ownAddress) :
      Handled s p header payload .keepOpen
        (dispatch dm.sourceAddress.value dm.userData (s, p))
  /-- Any other diagnostic message gets a negative acknowledgement. The connection stays open only
  if its target was the problem. -/
  | rejected (verdict : TcpVerdict) (tester : UInt16) (code : DiagnosticAckCode)
      (hcode : code ≠ .routingConfirmationAck) :
      Handled s p header payload verdict
        (transmit (ackFrame .diagnosticMessageNegativeAcknowledge s.ownAddress tester code) (s, p))
  /-- Any other frame gets a generic negative acknowledgement and keeps the connection open. -/
  | unserved :
      Handled s p header payload .keepOpen (transmit (nackFrame .unknownPayloadType) (s, p))

/-- **Handling a frame** ends in one of its outcomes, and never panics. -/
theorem handleTcpFrame_spec (s : Session π) (header : Header) (payload : List UInt8)
    (p : Platform π) :
    ∃ verdict x, handleTcpFrame s header payload p = some (verdict, x) ∧
      Handled (ι := ι) s p header payload verdict x := by
  have hnack : (do
      let (txBuf, p) ← sendTcpNack s.cb s.txBuf .unknownPayloadType p
      return (TcpVerdict.keepOpen, ({ s with txBuf } : Session π), p)) =
      some (.keepOpen, transmit (nackFrame .unknownPayloadType) (s, p)) := by
    rw [sendTcpNack_eq]
    rfl
  rw [handleTcpFrame]
  split
  · next req hdecode =>
    by_cases hg : Grants s req
    · exact ⟨_, _, handleRoutingActivation_granted hg p, .granted req hdecode hg⟩
    · obtain ⟨code, hcode, h⟩ := handleRoutingActivation_denied (ι := ι) hg p
      exact ⟨_, _, h, .denied _ code hcode⟩
  · next dm hdecode =>
    by_cases hd : s.activeTester = some dm.sourceAddress.value ∧
        dm.targetAddress.value = s.ownAddress
    · exact ⟨_, _, handleDiagnosticMessage_dispatched hd.1 hd.2 p,
        .dispatched dm hdecode hd.1 hd.2⟩
    · obtain ⟨verdict, tester, code, hcode, h⟩ := handleDiagnosticMessage_rejected (ι := ι) hd p
      exact ⟨_, _, h, .rejected verdict tester code hcode⟩
  · exact ⟨_, _, hnack, .unserved⟩
  · exact ⟨_, _, hnack, .unserved⟩

/-! ## The decision and its effect -/

/-- What the entity decides to do with a frame: answer it with one frame, leaving `activeTester`
behind, or serve a request by dispatching it. -/
inductive Decision where
  | answer (verdict : TcpVerdict) (activeTester : Option UInt16) (frame : List UInt8)
  | serve (tester : UInt16) (request : List UInt8)

/-- The effect of a decision: one frame is sent, or the request is acknowledged and dispatched. -/
def Decision.carryOut (x : Session π × Platform π) :
    Decision → TcpVerdict × Session π × Platform π
  | .answer verdict activeTester frame =>
    (verdict, transmit frame ({ x.1 with activeTester }, x.2))
  | .serve tester request => (.keepOpen, dispatch tester request x)

/-- The code, the verdict and the active tester a routing activation request comes to. -/
def decideActivation (active : Option UInt16) (req : RoutingActivationRequest) :
    RoutingActivationResponseCode × TcpVerdict × Option UInt16 :=
  if ¬ req.sourceAddress.isValidClientAddress then
    (.deniedUnknownSourceAddress, .close, active)
  else if ¬ (req.activationType = .default ∨ req.activationType = .regulationRequired) then
    (.deniedUnsupportedRoutingActivationType, .close, active)
  else if active.any (· ≠ req.sourceAddress.value) then
    (.deniedSourceAddressAlreadyActivated, .close, active)
  else
    (.routingSuccessfullyActivated, .keepOpen, some req.sourceAddress.value)

/-- What is decided about a diagnostic message: the tester is checked first, and then the target
address. -/
def decideDiagnostic (own : UInt16) (active : Option UInt16) (dm : DiagnosticMessage) : Decision :=
  let nack := ackFrame (ι := ι) .diagnosticMessageNegativeAcknowledge own
  match active with
  | none => .answer .close active (nack dm.sourceAddress.value .invalidSourceAddress)
  | some tester =>
    if dm.sourceAddress.value ≠ tester then
      .answer .close active (nack tester .invalidSourceAddress)
    else if dm.targetAddress.value ≠ own then
      .answer .keepOpen active (nack tester .unknownTargetAddress)
    else .serve tester dm.userData

/-- What is decided about a frame: it depends on the entity's address, the active tester and the
frame, and on nothing else. -/
def decideFrame (own : UInt16) (active : Option UInt16) (header : Header) (payload : List UInt8) :
    Decision :=
  match Payload.decode (ι := ι) payload header.payloadType with
  | .ok (.routingActivationRequest req) =>
    .answer (decideActivation active req).2.1 (decideActivation active req).2.2
      (activationFrame (ι := ι) req.sourceAddress.value own (decideActivation active req).1)
  | .ok (.diagnosticMessage dm) => decideDiagnostic (ι := ι) own active dm
  | _ => .answer .keepOpen active (nackFrame (ι := ι) .unknownPayloadType)

theorem handleRoutingActivation_eq (s : Session π) (req : RoutingActivationRequest)
    (p : Platform π) :
    handleRoutingActivation s req p = some ((decideActivation s.activeTester req).2.1,
      transmit (activationFrame req.sourceAddress.value s.ownAddress
        (decideActivation s.activeTester req).1)
        ({ s with activeTester := (decideActivation s.activeTester req).2.2 }, p)) := by
  rw [handleRoutingActivation]
  change (Message.routingActivationResponse PROTOCOL_VERSION req.sourceAddress ⟨s.ownAddress⟩
    (decideActivation s.activeTester req).1 (filledArray 4 0) none >>= _) = _
  obtain ⟨n, hn⟩ := routingActivationResponse_eq (ι := ι) s.ownAddress req.sourceAddress
    (decideActivation s.activeTester req).1
  rw [hn, Option.bind_eq_bind, Option.bind_some, sendTcpMsg_activation]
  rfl

theorem handleDiagnosticMessage_eq (s : Session π) (dm : DiagnosticMessage) (p : Platform π) :
    handleDiagnosticMessage s dm p =
      some ((decideDiagnostic (ι := ι) s.ownAddress s.activeTester dm).carryOut (s, p)) := by
  obtain ⟨cb, own, active, txBuf, udsRespBuf⟩ := s
  cases active with
  | none =>
    simp only [handleDiagnosticMessage, sendDiagAck_eq]
    rfl
  | some tester =>
    by_cases hs : dm.sourceAddress.value = tester
    · by_cases ht : dm.targetAddress.value = own
      · rw [handleDiagnosticMessage_dispatched (congrArg some hs.symm) ht]
        simp only [decideDiagnostic, hs, ht, ne_eq, not_true_eq_false, if_false]
        rfl
      · simp only [handleDiagnosticMessage, decideDiagnostic, hs, ht, ne_eq, not_true_eq_false,
          not_false_eq_true, if_false, if_true, sendDiagAck_eq]
        rfl
    · simp only [handleDiagnosticMessage, decideDiagnostic, hs, ne_eq, not_false_eq_true, if_true,
        sendDiagAck_eq]
      rfl

/-- **Handling a frame** is carrying out what was decided about it. The decision depends on the
session's addresses and the frame only. -/
theorem handleTcpFrame_eq (s : Session π) (header : Header) (payload : List UInt8)
    (p : Platform π) :
    handleTcpFrame s header payload p =
      some ((decideFrame (ι := ι) s.ownAddress s.activeTester header payload).carryOut (s, p)) := by
  have hnack : (do
      let (txBuf, p) ← sendTcpNack s.cb s.txBuf .unknownPayloadType p
      return (TcpVerdict.keepOpen, ({ s with txBuf } : Session π), p)) =
      some (.keepOpen, transmit (nackFrame .unknownPayloadType) (s, p)) := by
    rw [sendTcpNack_eq]
    rfl
  rw [handleTcpFrame, decideFrame]
  cases Payload.decode (ι := ι) payload header.payloadType with
  | error e => exact hnack
  | ok body =>
    cases body with
    | routingActivationRequest req => exact handleRoutingActivation_eq s req p
    | diagnosticMessage dm => exact handleDiagnosticMessage_eq s dm p
    | _ => exact hnack

end

end SimpleDoip
