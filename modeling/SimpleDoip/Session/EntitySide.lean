import SimpleDoip.Session.Network

/-!
# The entity during a session

The message of an exchange, as the client constructs and writes it, is one frame to the entity,
which dispatches it and sends two frames: an acknowledgement and the response. `Answers` says what
the platform is asked to do, and `EntityAt.arrive` what a chunk of the request does to the entity.
-/

namespace SimpleDoip

open Framing

section
variable {ι : Type} [WireCodec ι] {π : Type}

/-! ## The request -/

namespace Exchange

/-- The request fits the reassembly buffer of the entity, with the two addresses before it. A longer
one would be refused by the entity's framer, whatever the client makes of it. -/
def Fits (x : Exchange) : Prop := DIAG_ADDR_LEN + x.userData.length ≤ MAX_RX_PAYLOAD

variable (options : ClientOptions) (x : Exchange)

/-- The diagnostic message of an exchange: from the client's own address to the server's physical or
functional one, as the call says. -/
def diagnostic : DiagnosticMessage where
  sourceAddress := options.clientLogicalAddress
  targetAddress := options.serverAddress x.addressType
  userData := x.userData

/-- The message the client constructs for it. The header's length counts the two addresses and the
request. -/
def message : OwnedMessage where
  header := Header.new options.protocolVersion .diagnosticMessage
    (UInt32.ofNat (4 + x.userData.length))
  payload := .diagnosticMessage (x.diagnostic options)

/-- The same message as the entity reads it: a header with the version byte and its complement, and
the bytes of the payload, not decoded yet. -/
def rawFrame : RawFrame where
  header := headerOf options.protocolVersion.toU8 (~~~options.protocolVersion.toU8) 0x8001
    (UInt32.ofNat (4 + x.userData.length))
  payload := bytes (Payload.diagnosticMessage (x.diagnostic options))

theorem length_payload :
    (bytes (Payload.diagnosticMessage (x.diagnostic options))).length = 4 + x.userData.length :=
  length_bytes_diagnosticMessage _

variable {options x}

theorem Fits.lt (h : x.Fits) : 4 + x.userData.length < 2 ^ 32 := by
  have hmax : MAX_RX_PAYLOAD = 2040 := rfl
  have haddr : DIAG_ADDR_LEN = 4 := rfl
  have hle : DIAG_ADDR_LEN + x.userData.length ≤ MAX_RX_PAYLOAD := h
  omega

/-- The call constructs this message, and makes its request with it: a request that fits the
entity's buffer does not overrun the length field. -/
theorem request_eq (h : x.Fits) :
    (Call.sendDiagnosticMessage x.addressType x.userData).request ι options =
      some (.sendDiagnosticMessage (x.message options)) := by
  have hmessage : OwnedMessage.diagnosticMessage (ι := ι) options.protocolVersion
      options.clientLogicalAddress (options.serverAddress x.addressType) x.userData =
      some (x.message options) := diagnosticMessage_eq _ _ _ h.lt
  rw [Call.request, hmessage]
  rfl

/-- The client's codec writes what the entity reads as `rawFrame`, behind what is in its buffer
already. -/
theorem encode_message (h : x.Fits) (dst : List UInt8) :
    MessageCodec.encode (ι := ι) (x.message options) dst =
      (.ok (), dst ++ (x.rawFrame options).wire) := by
  have hlen : (bytes (x.message options).payload).length < 2 ^ 32 := by
    change (bytes (Payload.diagnosticMessage (x.diagnostic options))).length < _
    rw [length_payload]
    exact h.lt
  have hframe : (x.message options).frame = (x.rawFrame options).wire := by
    rw [RawFrame.wire, rawFrame, bytes_headerOf, ← ProtocolVersion.inverse_eq,
      ← length_payload options x]
    rfl
  have hsize : Encode.encodedSize (ι := ι) (x.message options) =
      .ok (Header.SIZE + (bytes (x.message options).payload).length) := by
    change (do return Header.SIZE + (← Encode.encodedSize (x.message options).payload)) = _
    rw [WireForm.encodedSize_eq]
    rfl
  rw [MessageCodec.encode, hsize]
  simp only [Message.encode_vec hlen, List.nil_append, hframe]

theorem rawFrame_acceptable (h : x.Fits) : (x.rawFrame options).Acceptable := by
  have hlt : (UInt32.ofNat (4 + x.userData.length)).toNat = 4 + x.userData.length :=
    UInt32.toNat_ofNat_of_lt' h.lt
  refine ⟨⟨_, _, _, rfl⟩, ?_, ?_⟩
  · exact (length_payload options x).trans hlt.symm
  · exact hlt.le.trans h

theorem size_rawFrame : (x.rawFrame options).size = 12 + x.userData.length := by
  have hlen := length_payload options x
  rw [RawFrame.size]
  change 8 + (bytes (Payload.diagnosticMessage (x.diagnostic options))).length = _
  omega

/-- The entity dispatches the frame to its platform, where the client is the tester it has activated
and the message goes to the entity's own address. -/
theorem frameStep_rawFrame {y : Session π × Platform π}
    (htester : y.1.activeTester = some options.clientLogicalAddress.value)
    (hown : options.serverAddress x.addressType = ⟨y.1.ownAddress⟩) :
    frameStep (ι := ι) y (x.rawFrame options) =
      .next (dispatch options.clientLogicalAddress.value x.userData y) := by
  have hdecode : Payload.decode (ι := ι) (x.rawFrame options).payload
      (x.rawFrame options).header.payloadType = .ok (.diagnosticMessage (x.diagnostic options)) :=
    Payload.decode_bytes rfl trivial
  have htarget : (x.diagnostic options).targetAddress.value = y.1.ownAddress := by
    change (options.serverAddress x.addressType).value = _
    rw [hown]
  have hsource : y.1.activeTester = some (x.diagnostic options).sourceAddress.value := htester
  have hhandle := handleDiagnosticMessage_dispatched (ι := ι) hsource htarget y.2
  simp only [frameStep, handleTcpFrame, hdecode, hhandle]
  rfl

end Exchange

/-! ## The two replies -/

/-- What the entity sends during an exchange: the positive acknowledgement of the request, and the
response of its platform to it. -/
inductive Reply where
  | ack
  | response (userData : List UInt8)

namespace Reply

/-- A response is one that `on_uds_request` can give: it is handed over in a buffer of this size. -/
def Fits : Reply → Prop
  | .ack => True
  | .response userData => userData.length ≤ UDS_RESP_CAP

variable (own tester : UInt16)

/-- The payload type of a reply. The response travels as a diagnostic message, like the request. -/
def payloadType : Reply → PayloadType
  | .ack => .diagnosticMessagePositiveAcknowledge
  | .response _ => .diagnosticMessage

/-- The payload of a reply, from the entity's address `own` to the `tester`. The acknowledgement
repeats none of the request. -/
def payload : Reply → Payload
  | .ack => .diagnosticMessageAck ⟨⟨own⟩, ⟨tester⟩, .routingConfirmationAck, []⟩
  | .response userData => .diagnosticMessage ⟨⟨own⟩, ⟨tester⟩, userData⟩

/-- The frame of a reply, as the entity hands it to its platform to be sent. -/
def frame (reply : Reply) : List UInt8 := entityFrame reply.payloadType (reply.payload own tester)

/-- What the client's codec makes of the frame: the header as the entity fills it in, and the same
payload. -/
def message (reply : Reply) : OwnedMessage where
  header := entityHeader reply.payloadType (reply.payload own tester)
  payload := reply.payload own tester

variable {reply : Reply}

theorem length_payload_le (h : reply.Fits) :
    (bytes (reply.payload own tester)).length ≤ 4 + UDS_RESP_CAP := by
  have hcap : UDS_RESP_CAP = 1024 := rfl
  cases reply with
  | ack => exact (show 5 ≤ 4 + UDS_RESP_CAP by decide)
  | response userData =>
    have hlen : (bytes ((response userData).payload own tester)).length = 4 + userData.length :=
      length_bytes_diagnosticMessage _
    have hle : userData.length ≤ UDS_RESP_CAP := h
    omega

variable {own tester}

theorem length_frame : (reply.frame own tester).length =
    8 + (bytes (reply.payload own tester)).length := length_entityFrame _ _

/-- A whole reply in the read buffer is handed out as its message, and what follows it stays in the
buffer. -/
theorem decode_frame (h : reply.Fits) (rest : List UInt8) :
    MessageCodec.decode (ι := ι) (reply.frame own tester ++ rest) =
      some (.ok (some (reply.message own tester)), rest) := by
  have hlen := length_payload_le own tester h
  have hcap : UDS_RESP_CAP = 1024 := rfl
  refine decode_entityFrame ?_ (by omega) (Payload.decode_bytes ?_ ?_) rest
  · cases reply with
    | ack => exact ⟨0x8002, rfl⟩
    | response userData => exact ⟨0x8001, rfl⟩
  · cases reply <;> rfl
  · cases reply with
    | ack => exact ⟨0x00, rfl⟩
    | response userData => trivial

/-- Part of a reply is no message yet, and no error: the codec leaves it in the read buffer for
later. -/
theorem decode_take (h : reply.Fits) {k : Nat} (hk : k < (reply.frame own tester).length) :
    MessageCodec.decode (ι := ι) ((reply.frame own tester).take k) =
      some (.ok none, (reply.frame own tester).take k) := by
  have hlen := length_payload_le own tester h
  have hcap : UDS_RESP_CAP = 1024 := rfl
  exact decode_entityFrame_take (by omega) hk

end Reply

/-! ## The platform -/

/-- What `on_uds_request` makes of a request that is dispatched: the length it reports and the
response buffer it leaves. -/
def udsCall (tester : UInt16) (request : List UInt8) (y : Session π × Platform π) :
    Int32 × U8Array UDS_RESP_CAP × π :=
  let y := transmit (ackFrame .diagnosticMessagePositiveAcknowledge y.1.ownAddress tester
    .routingConfirmationAck) y
  y.1.cb.onUdsRequest request y.1.udsRespBuf y.2.state

/-- `on_uds_request` answers the request with the response: the length it reports is the response's,
which is not empty, and the response is what it leaves at the front of its buffer. -/
structure AnswersWith (tester : UInt16) (request response : List UInt8)
    (y : Session π × Platform π) : Prop where
  pos : 0 < response.length
  cap : response.length ≤ UDS_RESP_CAP
  reported : (udsCall (ι := ι) tester request y).1.toInt = response.length
  buffer : (udsCall (ι := ι) tester request y).2.1.toList.take response.length = response

/-- `on_uds_request` answers the requests with the responses, when they are dispatched in order. -/
def Answers (tester : UInt16) : Session π × Platform π → List (List UInt8) → List (List UInt8) →
    Prop
  | _, [], [] => True
  | y, request :: requests, response :: responses =>
    AnswersWith (ι := ι) tester request response y ∧
      Answers tester (dispatch (ι := ι) tester request y) requests responses
  | _, _, _ => False

/-- A request that is answered makes three calls of the platform: its acknowledgement is sent, then
it is dispatched, then the response is sent. -/
theorem AnswersWith.calls {tester : UInt16} {request response : List UInt8}
    {y : Session π × Platform π} (h : AnswersWith (ι := ι) tester request response y) :
    (dispatch (ι := ι) tester request y).2.calls = y.2.calls ++
      [.sendTcp (Reply.frame (ι := ι) y.1.ownAddress tester .ack), .onUdsRequest request,
        .sendTcp (Reply.frame (ι := ι) y.1.ownAddress tester (.response response))] := by
  have hpos := h.pos
  have hcap := h.cap
  have hnat : (udsCall (ι := ι) tester request y).1.toInt.toNat = response.length := by
    rw [h.reported]
    rfl
  have hdata : udsResponse (udsCall (ι := ι) tester request y).1
      (udsCall (ι := ι) tester request y).2.1 = response := by
    rw [udsResponse, hnat, Nat.min_eq_left hcap, h.buffer]
  have hgt : (udsCall (ι := ι) tester request y).1.toInt.toNat > 0 := by omega
  have hdispatch : dispatch (ι := ι) tester request y =
      if (udsCall (ι := ι) tester request y).1.toInt.toNat > 0 then
        transmit (diagnosticFrame y.1.ownAddress tester
          (udsResponse (udsCall (ι := ι) tester request y).1
            (udsCall (ι := ι) tester request y).2.1))
          (_, ⟨_, y.2.calls ++ [.sendTcp (Reply.frame (ι := ι) y.1.ownAddress tester .ack)] ++
            [.onUdsRequest request]⟩)
      else _ := rfl
  rw [hdispatch, if_pos hgt, hdata, transmit_calls]
  simp only [List.append_assoc, List.cons_append, List.nil_append]
  rfl

/-! ## The entity between chunks -/

/-- The entity is initialised with the callbacks `cb`, and together with its platform it has the
session `y`. What it has buffered is within its buffer. -/
structure EntityAt (cb : Callbacks π) (e : Entity π) (p : Platform π)
    (y : Session π × Platform π) : Prop where
  callbacks : e.callbacks = some cb
  session : (e.session cb, p) = y
  cap : e.rxLen ≤ TCP_RX_CAP

section
variable {cb : Callbacks π} {e : Entity π} {p : Platform π} {y y' : Session π × Platform π}
  {chunk left : List UInt8}

/-- A chunk that fits behind the residue, and that the framer drains without an error, leaves the
connection open and the entity with the session the frames lead to. -/
theorem EntityAt.drain (h : EntityAt cb e p y) (hchunk : chunk ≠ [])
    (hfit : e.residue.length + chunk.length ≤ TCP_RX_CAP)
    (hdrain : Framing.drain (frameCutter tcpCheck) (frameStep (ι := ι)) y (e.residue ++ chunk) =
      (y', .waiting, left)) :
    ∃ e', e.onTcpRx (ι := ι) chunk p = some (.keepOpen, e', y'.2) ∧ EntityAt cb e' y'.2 y' ∧
      e'.residue = left := by
  have hlen := e.length_residue h.cap
  obtain ⟨e', hrx, hsession, hcb, -, hcap, hres⟩ :=
    Entity.onTcpRx_spec (ι := ι) (p := p) h.callbacks hchunk (by omega)
  have hd : e.drainOf ι cb chunk p = (y', .waiting, left) := by
    rw [Entity.drainOf, h.session]
    exact hdrain
  rw [hd] at hrx hsession hres
  exact ⟨e', hrx, ⟨hcb, Prod.ext hsession rfl, hcap⟩, hres⟩

variable {options : ClientOptions} {x : Exchange} {uplink : List UInt8}

/-- **A chunk of the request.** A part of it is kept for later; what completes it has it dispatched,
and the buffer is empty again. -/
theorem EntityAt.arrive (h : EntityAt cb e p y) (hfits : x.Fits)
    (htester : y.1.activeTester = some options.clientLogicalAddress.value)
    (hown : options.serverAddress x.addressType = ⟨y.1.ownAddress⟩)
    (huplink : e.residue ++ uplink = (x.rawFrame options).wire (ι := ι)) {n : Nat} (hpos : 0 < n)
    (hn : n ≤ uplink.length) :
    (n < uplink.length ∧ ∃ e', e.onTcpRx (ι := ι) (uplink.take n) p = some (.keepOpen, e', p) ∧
      EntityAt cb e' p y ∧ e'.residue = e.residue ++ uplink.take n) ∨
    (n = uplink.length ∧ ∃ e' p', e.onTcpRx (ι := ι) (uplink.take n) p = some (.keepOpen, e', p') ∧
      EntityAt cb e' p' (dispatch (ι := ι) options.clientLogicalAddress.value x.userData y) ∧
      e'.residue = []) := by
  have hok : (x.rawFrame options).Acceptable := Exchange.rawFrame_acceptable hfits
  have htotal := congrArg List.length huplink
  rw [List.length_append, RawFrame.length_wire] at htotal
  have hbound : (x.rawFrame options).size ≤ TCP_RX_CAP := by
    have hfits' : DIAG_ADDR_LEN + x.userData.length ≤ MAX_RX_PAYLOAD := hfits
    have h1 : MAX_RX_PAYLOAD = 2040 := rfl
    have h2 : DIAG_ADDR_LEN = 4 := rfl
    have h3 : TCP_RX_CAP = 2048 := rfl
    rw [Exchange.size_rawFrame]
    omega
  have htake : (uplink.take n).length = n := List.length_take_of_le hn
  have hne : uplink.take n ≠ [] := by
    intro hnil
    rw [hnil] at htake
    exact absurd htake.symm (Nat.ne_of_gt hpos)
  have hfit : e.residue.length + (uplink.take n).length ≤ TCP_RX_CAP := by omega
  rcases Nat.lt_or_eq_of_le hn with hlt | heq
  · refine .inl ⟨hlt, ?_⟩
    have hprefix : e.residue ++ uplink.take n =
        ((x.rawFrame options).wire (ι := ι)).take (e.residue.length + n) := by
      rw [← huplink, List.take_length_add_append]
    have hmore := readFrame_take_wire (ι := ι) hok (k := e.residue.length + n) (by omega)
    rw [← hprefix] at hmore
    have hp : y.2 = p := by rw [← h.session]
    have := h.drain (ι := ι) hne hfit (drain_more (c := frameCutter tcpCheck) hmore)
    rwa [hp] at this
  · refine .inr ⟨heq, ?_⟩
    have hwhole : e.residue ++ uplink.take n = (x.rawFrame options).wire (ι := ι) := by
      rw [heq, List.take_length, huplink]
    have hstep := Exchange.frameStep_rawFrame (ι := ι) htester hown
    have hread : (frameCutter tcpCheck).read ((x.rawFrame options).wire (ι := ι) ++ []) =
        .item (x.rawFrame options) (x.rawFrame options).size := readFrame_wire hok []
    have hdrain := drain_next hread hstep
    rw [List.append_nil, List.drop_of_length_le (by rw [RawFrame.length_wire]), ← hwhole] at hdrain
    obtain ⟨e', hrx, hat⟩ := h.drain (ι := ι) hne hfit
      (hdrain.trans (drain_more (c := frameCutter tcpCheck) rfl))
    exact ⟨e', _, hrx, hat⟩

end

end

end SimpleDoip
