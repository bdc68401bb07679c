import SimpleDoip.Messages.Payload

/-!
# Messages

A message is a header and a payload. Encoding derives the header's length from the payload and its
inverse byte from the version, so a message is written in its own consistent form whatever its
header says; decoding reads the header, takes as many bytes as it declares and decodes those.

`Message` borrows its data from a receive buffer and `OwnedMessage` owns it. Both are the same
value here, and the conversions between them are the identity. A constructor that sizes its payload
can panic, and returns an `Option`.
-/

namespace SimpleDoip

/-- A `DoIP` message: a header, and a payload that is of the type the header says if the message was
decoded. -/
structure Message where
  header : Header
  payload : Payload
deriving DecidableEq

/-- `u32::try_from` on a `usize`, which fails where the value does not fit. -/
def u32TryFrom (n : Nat) : Option UInt32 :=
  if n < 2 ^ 32 then some (UInt32.ofNat n) else none

/-- Whether a message of the given type answers this one. Only the types are compared, not the
addresses or the data. -/
def Message.isResponse (m : Message) (payloadType : PayloadType) : Bool :=
  match m.header.payloadType with
  | .routingActivationRequest => payloadType = .routingActivationResponse
  | .aliveCheckRequest => payloadType = .aliveCheckResponse
  | .diagnosticMessage =>
    payloadType = .diagnosticMessageNegativeAcknowledge
      || payloadType = .diagnosticMessagePositiveAcknowledge
      || payloadType = .diagnosticMessage
  | .doIPEntityStatusRequest => payloadType = .doIPEntityStatusResponse
  | .diagnosticPowerModeInfoRequest => payloadType = .diagnosticPowerModeInfoResponse
  | .vehicleIdentificationRequest
  | .vehicleIdentificationRequestWithEID
  | .vehicleIdentificationRequestWithVIN => payloadType = .vehicleAnnouncement
  | _ => false

section
variable {ι : Type} [WireCodec ι]

/-- `Decode for Message`: the header, and then the payload from as many bytes as the header
declares. What the payload does not use of these is dropped. -/
def Message.decode (buf : List UInt8) : Except (MessageError ι) (Message × List UInt8) := do
  let (header, rest) ← Header.decode buf
  let (payloadBytes, rest) ← incomplete (WireCodec.take rest header.payloadLength.toNat)
  let payload ← Payload.decode payloadBytes header.payloadType
  return ({ header, payload }, rest)

/-- `Encode for Message`: the written length is the payload's, not the header's, and the inverse
byte is that of the version. -/
instance : Encode ι Message where
  encodedSize m := do
    return Header.SIZE + (← Encode.encodedSize m.payload)
  encode m := do
    let payloadLength ← MonadExcept.ofExcept (Encode.encodedSize m.payload)
    match u32TryFrom payloadLength with
    | none => throw (.payloadTooLarge payloadLength)
    | some length =>
      let header := Header.new m.header.protocolVersion m.header.payloadType length
      let written ← Encode.encode header
      return written + (← Encode.encode m.payload)

/-- `payload_len`; `none` is its panic, where the size of the payload does not fit into the length
field. -/
def payloadLen {α : Type} [Encode ι α] (value : α) : Option UInt32 :=
  match Encode.encodedSize value with
  | .ok size => u32TryFrom size
  | .error _ => none

/-! ## Constructors -/

namespace Message

/-- Construct an alive check request message, which has no body. -/
def aliveCheckRequest (protocolVersion : ProtocolVersion) : Message where
  header := Header.new protocolVersion .aliveCheckRequest 0
  payload := .aliveCheckRequest

/-- Construct an alive check response message, with the address of the tester that is there. -/
def aliveCheckResponse (protocolVersion : ProtocolVersion) (sourceAddress : LogicalAddress) :
    Message where
  header := Header.new protocolVersion .aliveCheckResponse 2
  payload := .aliveCheckResponse { sourceAddress }

/-- Construct a diagnostic message carrying opaque user data. It panics on more data than the length
field can say. -/
def diagnosticMessage (protocolVersion : ProtocolVersion)
    (sourceAddress targetAddress : LogicalAddress) (userData : List UInt8) : Option Message := do
  let message : DiagnosticMessage := { sourceAddress, targetAddress, userData }
  let payloadSize ← payloadLen message
  return { header := Header.new protocolVersion .diagnosticMessage payloadSize
           payload := .diagnosticMessage message }

/-- Construct a diagnostic message acknowledgement, stamped as positive whatever its code. -/
def diagnosticMessageAck (protocolVersion : ProtocolVersion)
    (sourceAddress targetAddress : LogicalAddress) (ackCode : DiagnosticAckCode)
    (previousMessageData : List UInt8) : Option Message := do
  let ack : DiagnosticMessageAck := { sourceAddress, targetAddress, ackCode, previousMessageData }
  let payloadSize ← payloadLen ack
  return { header := Header.new protocolVersion .diagnosticMessagePositiveAcknowledge payloadSize
           payload := .diagnosticMessageAck ack }

/-- Construct a routing activation request message, whose reserved bytes are zero. -/
def routingActivationRequest (protocolVersion : ProtocolVersion) (sourceAddress : LogicalAddress)
    (activationType : ActivationTypeCode) (reservedVehicleManufacturer : Option (U8Array 4)) :
    Option Message := do
  let request : RoutingActivationRequest :=
    { sourceAddress, activationType, reserved := filledArray 4 0, reservedVehicleManufacturer }
  let payloadSize ← payloadLen request
  return { header := Header.new protocolVersion .routingActivationRequest payloadSize
           payload := .routingActivationRequest request }

/-- Construct a routing activation response message, with the reserved bytes as given. -/
def routingActivationResponse (protocolVersion : ProtocolVersion)
    (logicalAddressTester logicalAddressOfDoipEntity : LogicalAddress)
    (routingActivationResponseCode : RoutingActivationResponseCode) (reservedOem : U8Array 4)
    (oemSpecific : Option (U8Array 4)) : Option Message := do
  let response : RoutingActivationResponse :=
    { logicalAddressTester, logicalAddressOfDoipEntity, routingActivationResponseCode, reservedOem,
      oemSpecific }
  let payloadSize ← payloadLen response
  return { header := Header.new protocolVersion .routingActivationResponse payloadSize
           payload := .routingActivationResponse response }

end Message

/-- A message that owns its data. Ownership does not show in a value, so that it is the same type
here. -/
abbrev OwnedMessage := Message

namespace OwnedMessage

/-- Construct an alive check request message, by the constructor of the borrowed type. -/
def aliveCheckRequest (protocolVersion : ProtocolVersion) : OwnedMessage :=
  Message.aliveCheckRequest protocolVersion

/-- Construct an alive check response message, by the constructor of the borrowed type. -/
def aliveCheckResponse (protocolVersion : ProtocolVersion) (sourceAddress : LogicalAddress) :
    OwnedMessage :=
  Message.aliveCheckResponse protocolVersion sourceAddress

/-- Construct a routing activation request message, by the constructor of the borrowed type. -/
def routingActivationRequest (protocolVersion : ProtocolVersion) (sourceAddress : LogicalAddress)
    (activationType : ActivationTypeCode) (reservedVehicleManufacturer : Option (U8Array 4)) :
    Option OwnedMessage :=
  Message.routingActivationRequest protocolVersion sourceAddress activationType
    reservedVehicleManufacturer

/-- Construct a routing activation response message, by the constructor of the borrowed type. -/
def routingActivationResponse (protocolVersion : ProtocolVersion)
    (logicalAddressTester logicalAddressOfDoipEntity : LogicalAddress)
    (routingActivationResponseCode : RoutingActivationResponseCode) (reservedOem : U8Array 4)
    (oemSpecific : Option (U8Array 4)) : Option OwnedMessage :=
  Message.routingActivationResponse protocolVersion logicalAddressTester logicalAddressOfDoipEntity
    routingActivationResponseCode reservedOem oemSpecific

/-- Construct a diagnostic message carrying owned user data: the borrowed constructor's body over
an owned vector. -/
def diagnosticMessage (protocolVersion : ProtocolVersion)
    (sourceAddress targetAddress : LogicalAddress) (userData : List UInt8) : Option OwnedMessage :=
  Message.diagnosticMessage protocolVersion sourceAddress targetAddress userData

/-- Construct a diagnostic message acknowledgement carrying owned data: the borrowed constructor's
body over an owned vector. -/
def diagnosticMessageAck (protocolVersion : ProtocolVersion)
    (sourceAddress targetAddress : LogicalAddress) (ackCode : DiagnosticAckCode)
    (previousMessageData : List UInt8) : Option OwnedMessage :=
  Message.diagnosticMessageAck protocolVersion sourceAddress targetAddress ackCode
    previousMessageData

/-- Construct a directed reply to a vehicle identification request, which shares the payload type
of the announcement. -/
def vehicleIdentificationResponse (protocolVersion : ProtocolVersion)
    (response : VehicleIdentificationResponse) : Option OwnedMessage := do
  let payloadSize ← payloadLen (Payload.vehicleIdentificationResponse response)
  return { header := Header.new protocolVersion .vehicleAnnouncement payloadSize
           payload := .vehicleIdentificationResponse response }

/-- `Default for OwnedMessage`: the placeholder of a request that waits for any response. -/
def default : OwnedMessage where
  header := Header.new .v2012 .diagnosticMessage 0
  payload := .diagnosticMessage { sourceAddress := ⟨0⟩, targetAddress := ⟨0⟩, userData := [] }

end OwnedMessage

end

end SimpleDoip
