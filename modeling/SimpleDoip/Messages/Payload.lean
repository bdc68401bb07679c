import SimpleDoip.Messages.Bodies

/-!
# Payloads

The payload of a message is one of fourteen variants, and the header's payload type picks the one
to decode. `PayloadType.carries` is that choice as a table; `carries_of_decode` says that the
decoder follows it, and `Payload.decode_bytes` that what the encoder writes decodes again.
-/

namespace SimpleDoip

/-- The payload of a `DoIP` message. A negative acknowledgement of a diagnostic message has no data:
its body is never looked at. -/
inductive Payload where
  | doIPNack (code : NackCode)
  | aliveCheckRequest
  | aliveCheckResponse (response : AliveCheckResponse)
  | diagnosticMessage (message : DiagnosticMessage)
  | diagnosticMessageAck (ack : DiagnosticMessageAck)
  | diagnosticMessageNack
  | entityStatusRequest
  | entityStatusResponse (response : EntityStatusResponse)
  | powerModeInfoResponse (code : DiagnosticPowerModeCode)
  | routingActivationRequest (request : RoutingActivationRequest)
  | routingActivationResponse (response : RoutingActivationResponse)
  | vehicleAnnouncement (response : VehicleIdentificationResponse)
  | vehicleIdentificationRequest
  | vehicleIdentificationResponse (response : VehicleIdentificationResponse)
deriving DecidableEq

section
variable {ι : Type} [WireCodec ι]

/-- Decode a payload of the given type from exactly the payload bytes of one message. -/
def Payload.decode (buf : List UInt8) (payloadType : PayloadType) :
    Except (MessageError ι) Payload :=
  match payloadType with
  | .aliveCheckResponse => do
    return .aliveCheckResponse (← AliveCheckResponse.decode buf).1
  | .negativeAcknowledge => do
    return .doIPNack (← NackCode.decode buf).1
  | .vehicleIdentificationRequest
  | .vehicleIdentificationRequestWithEID
  | .vehicleIdentificationRequestWithVIN => .ok .vehicleIdentificationRequest
  | .vehicleAnnouncement => do
    return .vehicleAnnouncement (← VehicleIdentificationResponse.decode buf).1
  | .routingActivationRequest => do
    return .routingActivationRequest (← RoutingActivationRequest.decode buf).1
  | .routingActivationResponse => do
    return .routingActivationResponse (← RoutingActivationResponse.decode buf).1
  | .aliveCheckRequest => .ok .aliveCheckRequest
  | .doIPEntityStatusRequest => .ok .entityStatusRequest
  | .doIPEntityStatusResponse => do
    return .entityStatusResponse (← EntityStatusResponse.decode buf).1
  | .diagnosticPowerModeInfoResponse => do
    return .powerModeInfoResponse (← DiagnosticPowerModeCode.decode buf).1
  | .diagnosticMessage => do
    return .diagnosticMessage (← DiagnosticMessage.decode buf).1
  | .diagnosticMessagePositiveAcknowledge => do
    return .diagnosticMessageAck (← DiagnosticMessageAck.decode buf).1
  -- the body of a negative acknowledgement is never looked at
  | .diagnosticMessageNegativeAcknowledge => .ok .diagnosticMessageNack
  | .diagnosticPowerModeInfoRequest
  | .reserved _
  | .reservedVehicleManufacturer _ => .error (.unsupportedPayloadType payloadType)

/-- `Encode for Payload`: the encoder of the body, or nothing for a variant without one. -/
instance : Encode ι Payload where
  encodedSize
    | .doIPNack code => Encode.encodedSize code
    | .aliveCheckRequest | .diagnosticMessageNack | .entityStatusRequest
    | .vehicleIdentificationRequest => .ok 0
    | .aliveCheckResponse response => Encode.encodedSize response
    | .diagnosticMessage message => Encode.encodedSize message
    | .diagnosticMessageAck ack => Encode.encodedSize ack
    | .entityStatusResponse response => Encode.encodedSize response
    | .powerModeInfoResponse code => Encode.encodedSize code
    | .routingActivationRequest request => Encode.encodedSize request
    | .routingActivationResponse response => Encode.encodedSize response
    | .vehicleIdentificationResponse response
    | .vehicleAnnouncement response => Encode.encodedSize response
  encode
    | .doIPNack code => Encode.encode code
    | .aliveCheckRequest | .diagnosticMessageNack | .entityStatusRequest
    | .vehicleIdentificationRequest => pure 0
    | .aliveCheckResponse response => Encode.encode response
    | .diagnosticMessage message => Encode.encode message
    | .diagnosticMessageAck ack => Encode.encode ack
    | .entityStatusResponse response => Encode.encode response
    | .powerModeInfoResponse code => Encode.encode code
    | .routingActivationRequest request => Encode.encode request
    | .routingActivationResponse response => Encode.encode response
    | .vehicleIdentificationResponse response
    | .vehicleAnnouncement response => Encode.encode response

instance : WireForm ι Payload where
  bytes
    | .doIPNack code => bytes code
    | .aliveCheckRequest | .diagnosticMessageNack | .entityStatusRequest
    | .vehicleIdentificationRequest => []
    | .aliveCheckResponse response => bytes response
    | .diagnosticMessage message => bytes message
    | .diagnosticMessageAck ack => bytes ack
    | .entityStatusResponse response => bytes response
    | .powerModeInfoResponse code => bytes code
    | .routingActivationRequest request => bytes request
    | .routingActivationResponse response => bytes response
    | .vehicleIdentificationResponse response
    | .vehicleAnnouncement response => bytes response
  encodedSize_eq
    | .doIPNack code => WireForm.encodedSize_eq code
    | .aliveCheckRequest | .diagnosticMessageNack | .entityStatusRequest
    | .vehicleIdentificationRequest => rfl
    | .aliveCheckResponse response => WireForm.encodedSize_eq response
    | .diagnosticMessage message => WireForm.encodedSize_eq message
    | .diagnosticMessageAck ack => WireForm.encodedSize_eq ack
    | .entityStatusResponse response => WireForm.encodedSize_eq response
    | .powerModeInfoResponse code => WireForm.encodedSize_eq code
    | .routingActivationRequest request => WireForm.encodedSize_eq request
    | .routingActivationResponse response => WireForm.encodedSize_eq response
    | .vehicleIdentificationResponse response
    | .vehicleAnnouncement response => WireForm.encodedSize_eq response
  encode_emits
    | .doIPNack code => WireForm.encode_emits code
    | .aliveCheckRequest | .diagnosticMessageNack | .entityStatusRequest
    | .vehicleIdentificationRequest => .done 0
    | .aliveCheckResponse response => WireForm.encode_emits response
    | .diagnosticMessage message => WireForm.encode_emits message
    | .diagnosticMessageAck ack => WireForm.encode_emits ack
    | .entityStatusResponse response => WireForm.encode_emits response
    | .powerModeInfoResponse code => WireForm.encode_emits code
    | .routingActivationRequest request => WireForm.encode_emits request
    | .routingActivationResponse response => WireForm.encode_emits response
    | .vehicleIdentificationResponse response
    | .vehicleAnnouncement response => WireForm.encode_emits response

/-! ## Which variant belongs to which payload type -/

/-- The variants a payload type is decoded to. `vehicle_identification_response` is none of them: it
is decoded as an announcement. -/
def PayloadType.carries : PayloadType → Payload → Bool
  | .negativeAcknowledge, .doIPNack _ => true
  | .vehicleIdentificationRequest, .vehicleIdentificationRequest => true
  | .vehicleIdentificationRequestWithEID, .vehicleIdentificationRequest => true
  | .vehicleIdentificationRequestWithVIN, .vehicleIdentificationRequest => true
  | .vehicleAnnouncement, .vehicleAnnouncement _ => true
  | .routingActivationRequest, .routingActivationRequest _ => true
  | .routingActivationResponse, .routingActivationResponse _ => true
  | .aliveCheckRequest, .aliveCheckRequest => true
  | .aliveCheckResponse, .aliveCheckResponse _ => true
  | .doIPEntityStatusRequest, .entityStatusRequest => true
  | .doIPEntityStatusResponse, .entityStatusResponse _ => true
  | .diagnosticPowerModeInfoResponse, .powerModeInfoResponse _ => true
  | .diagnosticMessage, .diagnosticMessage _ => true
  | .diagnosticMessagePositiveAcknowledge, .diagnosticMessageAck _ => true
  | .diagnosticMessageNegativeAcknowledge, .diagnosticMessageNack => true
  | _, _ => false

/-- What a bound computation in `Except` came from: both of its parts succeeded. -/
theorem exists_of_bind_eq_ok {ε α β : Type} {x : Except ε α} {f : α → Except ε β} {b : β}
    (h : x >>= f = .ok b) : ∃ a, x = .ok a ∧ f a = .ok b := by
  cases x with
  | error e => cases h
  | ok a => exact ⟨a, rfl, h⟩

/-- The decoder produces a variant its payload type carries, so that a decoded message is never of a
type its header does not say. -/
theorem PayloadType.carries_of_decode {buf : List UInt8} {t : PayloadType} {p : Payload}
    (h : Payload.decode (ι := ι) buf t = .ok p) : t.carries p = true := by
  unfold Payload.decode at h
  split at h
  all_goals first
    | cases h; rfl
    | (obtain ⟨a, -, h⟩ := exists_of_bind_eq_ok h; cases h; rfl)
    | cases h

/-- Every code field of a payload is one the decoder can produce. Only then can the payload come
back from its bytes. -/
def Payload.WellFormed : Payload → Prop
  | .doIPNack code => InImage code
  | .diagnosticMessageAck ack => InImage ack.ackCode
  | .entityStatusResponse response => InImage response.nodeType
  | .powerModeInfoResponse code => InImage code
  | .routingActivationRequest request => InImage request.activationType
  | .routingActivationResponse response => InImage response.routingActivationResponseCode
  | .vehicleAnnouncement response => response.WellFormed
  | .vehicleIdentificationResponse response => response.WellFormed
  | _ => True

/-- A body that leaves everything behind it alone decodes to itself on its own. -/
theorem decode_whole {ε α : Type} {decode : List UInt8 → Except ε (α × List UInt8)}
    {bs : List UInt8} {a : α} (h : ∀ rest, decode (bs ++ rest) = .ok (a, rest)) :
    decode bs = .ok (a, []) := by
  have := h []
  rwa [List.append_nil] at this

/-- **Payload round trip.** A well-formed payload comes back from its bytes under any payload type
that carries it. -/
theorem Payload.decode_bytes {p : Payload} {t : PayloadType} (ht : t.carries p = true)
    (hp : p.WellFormed) : Payload.decode (bytes p) t = .ok p := by
  unfold PayloadType.carries at ht
  split at ht
  -- the types with a body, each by the round trip of that body
  case h_1 => exact congrArg (· >>= _) (decode_whole (NackCode.decode_bytes hp))
  case h_5 =>
    exact congrArg (· >>= _) (decode_whole (VehicleIdentificationResponse.decode_bytes hp))
  case h_6 => exact congrArg (· >>= _) (RoutingActivationRequest.decode_bytes hp)
  case h_7 => exact congrArg (· >>= _) (RoutingActivationResponse.decode_bytes hp)
  case h_9 r => exact congrArg (· >>= _) (decode_whole (AliveCheckResponse.decode_bytes r))
  case h_11 => exact congrArg (· >>= _) (decode_whole (EntityStatusResponse.decode_bytes hp))
  case h_12 => exact congrArg (· >>= _) (decode_whole (DiagnosticPowerModeCode.decode_bytes hp))
  case h_13 m => exact congrArg (· >>= _) (DiagnosticMessage.decode_bytes m)
  case h_14 => exact congrArg (· >>= _) (DiagnosticMessageAck.decode_bytes hp)
  -- no other pair is carried
  case h_16 => cases ht
  -- the types without one
  all_goals rfl

end

end SimpleDoip
