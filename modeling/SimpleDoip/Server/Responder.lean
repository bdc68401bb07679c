import SimpleDoip.Server.Model

/-!
# The UDP responder

`run_udp_responder` answers vehicle identification requests on a socket of the caller. Every
failure costs the datagram it concerns and nothing else: the loop goes on with the next one. The
answer comes from the handler, which is code of the user; it is sent back to where the request came
from.
-/

namespace SimpleDoip

/-- A datagram, with the address on its other end: where it came from, or where it goes. -/
structure Datagram where
  ipAddress : IpAddr
  port : UInt16
  data : List UInt8
deriving DecidableEq

/-- `ServerConnectionHandler`, by the functions that answering a datagram calls. -/
structure IdentificationHandler (ι η : Type) where
  receivedVehicleIdentificationRequest :
    ClientConnectionInfo → η → Except (ServerError ι) VehicleIdentificationResponse × η
  protocolVersion : η → ProtocolVersion × η

/-- The default implementation of `received_vehicle_identification_request`, for a handler with the
given identity. -/
def IdentificationHandler.defaultIdentification {ι η : Type} (vin : U8Array 17)
    (logicalAddress : LogicalAddress) (entityId : U8Array 6) (groupId : Option (U8Array 6))
    (_clientInfo : ClientConnectionInfo) (state : η) :
    Except (ServerError ι) VehicleIdentificationResponse × η :=
  (.ok {
    vin, logicalAddress, entityId, groupId
    furtherAction := .noFurtherActionRequired
    vinGidSyncStatus := .synchronized }, state)

/-- A handler that identifies itself as the default implementation does, for runs on fixed bytes. -/
def identifyingHandler : IdentificationHandler Incomplete Unit where
  receivedVehicleIdentificationRequest :=
    IdentificationHandler.defaultIdentification (filledArray 17 0x56) ⟨0x0001⟩ (filledArray 6 0)
      none
  protocolVersion state := (.v2012, state)

/-- What `recv_from` comes to: a datagram, or an error of the socket. -/
inductive Received where
  | datagram (d : Datagram)
  | failed

namespace Server

/-- Length of the receive buffer; a longer datagram is cut by the socket, and the rest of it is
lost. -/
def UDP_BUF_LEN : Nat := 1024

section
variable {ι η : Type} [WireCodec ι]

/-- The message a datagram starts with. What follows the first frame is not looked at. -/
def decodeDatagram (received : List UInt8) : Option Message :=
  match Message.decode received with
  | .ok decoded => some decoded.1
  | .error _ => none

variable (η) in
/-- The responder between two datagrams: the state of its handler, and what it sent so far. -/
structure Responder where
  handlerState : η
  sent : List Datagram

variable (handler : IdentificationHandler ι η)

/-- Have the handler identify the vehicle, and send its answer. `none` is a panic. -/
def identify (s : Responder η) (d : Datagram) : Option (Responder η) :=
  let clientInfo : ClientConnectionInfo := {
    ipAddress := d.ipAddress
    logicalAddress := ⟨0x0000⟩ }
  match handler.receivedVehicleIdentificationRequest clientInfo s.handlerState with
  | (.error _, state) => some { s with handlerState := state }
  | (.ok response, state) => do
    let version := handler.protocolVersion state
    let s := { s with handlerState := version.2 }
    let reply ← OwnedMessage.vehicleIdentificationResponse version.1 response
    match Encode.encodedSize reply with
    | .error _ => return s
    | .ok _ =>
      match Encode.encode reply ([] : List UInt8) with
      | .error _ _ => return s
      | .ok _ encoded => return { s with sent := s.sent ++ [{ d with data := encoded }] }

/-- One round of the loop of `run_udp_responder`. Datagrams that cannot be decoded and other
requests get no answer. -/
def runUdpResponder (s : Responder η) : Received → Option (Responder η)
  | .failed => some s
  | .datagram d =>
    match decodeDatagram (d.data.take UDP_BUF_LEN) with
    | none => some s
    | some message =>
      if message.payload ≠ .vehicleIdentificationRequest then some s
      -- the directed forms name an entity, but decoding has dropped which
      else if message.header.payloadType ≠ .vehicleIdentificationRequest then some s
      else identify handler s d

/-! ## What the responder does -/

/-- The bytes of an answer: an announcement of 33 bytes, with the version of the handler. -/
def announcementFrame (version : ProtocolVersion) (response : VehicleIdentificationResponse) :
    List UInt8 :=
  rawHeader version.toU8 version.inverse PayloadType.vehicleAnnouncement.toU16 33 ++ bytes response

/-- Everything a round can come to, with the responder after it. -/
inductive Responded (s : Responder η) : Received → Responder η → Prop where
  /-- Nothing is sent, though the handler may have been asked and its state have changed. -/
  | silent {received : Received} (state : η) :
      Responded s received { s with handlerState := state }
  /-- A request is answered to where it came from, with one announcement. -/
  | answered {d : Datagram} (state : η) (version : ProtocolVersion)
      (response : VehicleIdentificationResponse) {message : Message}
      (hdecode : decodeDatagram (d.data.take UDP_BUF_LEN) = some message)
      (hrequest : message.payload = .vehicleIdentificationRequest) :
      Responded s (.datagram d) ⟨state, s.sent ++ [{ d with
        data := announcementFrame version response }]⟩

theorem length_bytes_response (r : VehicleIdentificationResponse) : (bytes r).length = 33 := by
  change (r.vin.toList ++ (u16Be _ ++ (r.entityId.toList ++ (_ ++ _)))).length = _
  simp only [List.length_append, List.Vector.toList_length, length_u16Be]
  rfl

/-- An answer is always constructed and sized, and encoded as its frame, so that the error branches
of the source are not reached. -/
theorem encode_vehicleIdentificationResponse (version : ProtocolVersion)
    (response : VehicleIdentificationResponse) :
    ∃ reply size, OwnedMessage.vehicleIdentificationResponse version response = some reply ∧
      Encode.encodedSize reply = .ok size ∧
      Encode.encode reply ([] : List UInt8) =
        .ok (announcementFrame version response).length (announcementFrame version response) := by
  have hlen : (bytes (Payload.vehicleIdentificationResponse response)).length = 33 :=
    length_bytes_response response
  refine ⟨⟨Header.new version .vehicleAnnouncement 33, .vehicleIdentificationResponse response⟩,
    _, rfl, rfl, ?_⟩
  have henc := Message.encode_vec (ι := ι)
    (m := ⟨Header.new version .vehicleAnnouncement 33, .vehicleIdentificationResponse response⟩)
    (by simp only [hlen]; decide) []
  have hframe : Message.frame ⟨Header.new version .vehicleAnnouncement 33,
      .vehicleIdentificationResponse response⟩ = announcementFrame version response := by
    simp only [Message.frame, Message.sized, hlen]
    rfl
  rwa [hframe] at henc

/-- **A round of the responder** never panics, and comes to one of these. -/
theorem runUdpResponder_spec (s : Responder η) (received : Received) :
    ∃ s', runUdpResponder handler s received = some s' ∧ Responded s received s' := by
  cases received with
  | failed => exact ⟨s, rfl, .silent s.handlerState⟩
  | datagram d =>
    rw [runUdpResponder]
    cases hdecode : decodeDatagram (d.data.take UDP_BUF_LEN) with
    | none => exact ⟨s, rfl, .silent s.handlerState⟩
    | some message =>
      by_cases hpayload : message.payload = .vehicleIdentificationRequest
      · by_cases htype : message.header.payloadType = .vehicleIdentificationRequest
        · simp only [hpayload, htype, ne_eq, not_true_eq_false, if_false, identify]
          rcases handler.receivedVehicleIdentificationRequest ⟨d.ipAddress, ⟨0x0000⟩⟩
            s.handlerState with ⟨e | response, state⟩
          · exact ⟨_, rfl, .silent state⟩
          · obtain ⟨reply, size, hreply, hsize, hencode⟩ :=
              encode_vehicleIdentificationResponse (ι := ι) (handler.protocolVersion state).1
                response
            refine ⟨_, ?_, .answered (handler.protocolVersion state).2
              (handler.protocolVersion state).1 response hdecode hpayload⟩
            simp only [hreply, hsize, hencode, Option.bind_eq_bind, Option.bind_some]
            rfl
        · simp only [hpayload, htype, ne_eq, not_true_eq_false, not_false_eq_true, if_false,
            if_true]
          exact ⟨s, rfl, .silent s.handlerState⟩
      · simp only [hpayload, ne_eq, not_false_eq_true, if_true]
        exact ⟨s, rfl, .silent s.handlerState⟩

end

end Server

end SimpleDoip
