import SimpleDoip.Wire
import Mathlib.Tactic.SplitIfs

/-!
# The code fields of the format

Every code of ISO 13400-2 is an enumeration whose catch-all variants keep the value they were
decoded from, converted by a `From` pair: nine one-byte codes and the two-byte payload type.
`WireCode` is that pair of conversions with the fact that no wire value is lost. The catch-alls
make the other direction partial: `Reserved(0x00)` is a value nothing decodes to, and `InImage`
names the values something does.
-/

namespace SimpleDoip

/-- The `From` pair of a code whose wire form is a `ρ`. Going from the wire to the code and back
loses nothing, which is the law of every such pair of the crate. -/
class WireCode (κ : Type) (ρ : outParam Type) where
  ofWire : ρ → κ
  toWire : κ → ρ
  toWire_ofWire : ∀ b, toWire (ofWire b) = b

section
variable {κ ρ : Type} [WireCode κ ρ]

/-- A code some wire value decodes to. A constructed code need not be one: `Reserved(0x00)` goes to
a byte that decodes to something else. -/
def InImage (k : κ) : Prop := ∃ b : ρ, WireCode.ofWire b = k

/-- A code in the image comes back from its wire value, and these are the only codes that do. -/
theorem InImage.ofWire_toWire {k : κ} (h : InImage k) :
    WireCode.ofWire (WireCode.toWire k : ρ) = k := by
  obtain ⟨b, rfl⟩ := h
  rw [WireCode.toWire_ofWire]

/-- Whether a code is in the image is decided by one conversion to the wire and back. -/
instance [DecidableEq κ] (k : κ) : Decidable (InImage k) :=
  decidable_of_iff (WireCode.ofWire (WireCode.toWire k : ρ) = k)
    ⟨fun h => ⟨_, h⟩, InImage.ofWire_toWire⟩

end

/-- A conversion table, one value at a time: the arm of `c` goes back to `c`, and the other arms
go back to where they came from. -/
theorem eq_arm {κ ρ : Type} {f : κ → ρ} [DecidableEq ρ] {b c : ρ} {k x : κ}
    (hk : f k = c) (h : f x = b) : f (if b = c then k else x) = b := by
  by_cases hb : b = c
  · rw [if_pos hb, hk, hb]
  · rw [if_neg hb, h]

/-- The arm of a range of values, whose variant keeps the value, so that it goes back to where it
came from. -/
theorem range_arm {κ ρ : Type} {f : κ → ρ} {p : Prop} [Decidable p] {b : ρ} {k x : κ}
    (hk : f k = b) (h : f x = b) : f (if p then k else x) = b := by
  rw [apply_ite f, hk, h, ite_self]

/-! ## Header codes -/

/-- `DoIP` protocol version, the first byte of a header. Every byte is one of these, as the
unassigned ones are kept. -/
inductive ProtocolVersion where
  | reserved
  | v2010
  | v2012
  | v2019
  | reservedFuture (value : UInt8)
  | vehicleIdentificationRequest
deriving DecidableEq, Repr

/-- `From<u8> for ProtocolVersion`. -/
def ProtocolVersion.ofU8 (value : UInt8) : ProtocolVersion :=
  if value = 0x00 then .reserved
  else if value = 0x01 then .v2010
  else if value = 0x02 then .v2012
  else if value = 0x03 then .v2019
  else if value ≤ 0xFE then .reservedFuture value
  else .vehicleIdentificationRequest

/-- `From<ProtocolVersion> for u8`. -/
def ProtocolVersion.toU8 : ProtocolVersion → UInt8
  | .reserved => 0x00
  | .v2010 => 0x01
  | .v2012 => 0x02
  | .v2019 => 0x03
  | .reservedFuture value => value
  | .vehicleIdentificationRequest => 0xFF

/-- The expected inverse byte of a protocol version, as the table of the source has it. -/
def ProtocolVersion.inverse : ProtocolVersion → UInt8
  | .reserved => 0xFF
  | .v2010 => 0xFE
  | .v2012 => 0xFD
  | .v2019 => 0xFC
  | .reservedFuture value => ~~~value
  | .vehicleIdentificationRequest => 0x00

/-- The inverse is the complement of the version byte, whichever variant spells it. -/
theorem ProtocolVersion.inverse_eq (v : ProtocolVersion) : v.inverse = ~~~v.toU8 := by
  cases v <;> rfl

/-- A byte above every lower bound but `0xFF` is `0xFF`, which is the last arm of the version
table. -/
theorem eq_0xFF_of_not_le {b : UInt8} (h : ¬ b ≤ 0xFE) : b = 0xFF := by
  have := b.toNat_lt
  apply UInt8.toNat_inj.mp
  rw [UInt8.le_iff_toNat_le] at h
  simp only [UInt8.reduceToNat] at h ⊢
  omega

instance : WireCode ProtocolVersion UInt8 where
  ofWire := ProtocolVersion.ofU8
  toWire := ProtocolVersion.toU8
  toWire_ofWire b := by
    unfold ProtocolVersion.ofU8
    split_ifs with h0 h1 h2 h3 h4
    exacts [h0.symm, h1.symm, h2.symm, h3.symm, rfl, (eq_0xFF_of_not_le h4).symm]

/-- The inverse a version byte demands is its complement, for all 256 of them. -/
theorem ProtocolVersion.inverse_ofU8 (v : UInt8) : (ProtocolVersion.ofU8 v).inverse = ~~~v := by
  rw [ProtocolVersion.inverse_eq]
  exact congrArg _ (WireCode.toWire_ofWire (κ := ProtocolVersion) v)

/-- `DoIP` message payload type, which says how the payload of a message is to be read. Both
catch-alls keep their value. -/
inductive PayloadType where
  | negativeAcknowledge
  | vehicleIdentificationRequest
  | vehicleIdentificationRequestWithEID
  | vehicleIdentificationRequestWithVIN
  | vehicleAnnouncement
  | routingActivationRequest
  | routingActivationResponse
  | aliveCheckRequest
  | aliveCheckResponse
  | doIPEntityStatusRequest
  | doIPEntityStatusResponse
  | diagnosticPowerModeInfoRequest
  | diagnosticPowerModeInfoResponse
  | diagnosticMessage
  | diagnosticMessagePositiveAcknowledge
  | diagnosticMessageNegativeAcknowledge
  | reserved (value : UInt16)
  | reservedVehicleManufacturer (value : UInt16)
deriving DecidableEq, Repr

/-- `From<u16> for PayloadType`: from `0xF000` on a value belongs to the manufacturer, and every
other unassigned one is reserved. -/
def PayloadType.ofU16 (value : UInt16) : PayloadType :=
  if value = 0x0000 then .negativeAcknowledge
  else if value = 0x0001 then .vehicleIdentificationRequest
  else if value = 0x0002 then .vehicleIdentificationRequestWithEID
  else if value = 0x0003 then .vehicleIdentificationRequestWithVIN
  else if value = 0x0004 then .vehicleAnnouncement
  else if value = 0x0005 then .routingActivationRequest
  else if value = 0x0006 then .routingActivationResponse
  else if value = 0x0007 then .aliveCheckRequest
  else if value = 0x0008 then .aliveCheckResponse
  else if value = 0x4001 then .doIPEntityStatusRequest
  else if value = 0x4002 then .doIPEntityStatusResponse
  else if value = 0x4003 then .diagnosticPowerModeInfoRequest
  else if value = 0x4004 then .diagnosticPowerModeInfoResponse
  else if value = 0x8001 then .diagnosticMessage
  else if value = 0x8002 then .diagnosticMessagePositiveAcknowledge
  else if value = 0x8003 then .diagnosticMessageNegativeAcknowledge
  else if 0xF000 ≤ value then .reservedVehicleManufacturer value
  else .reserved value

/-- `From<PayloadType> for u16`. -/
def PayloadType.toU16 : PayloadType → UInt16
  | .negativeAcknowledge => 0x0000
  | .vehicleIdentificationRequest => 0x0001
  | .vehicleIdentificationRequestWithEID => 0x0002
  | .vehicleIdentificationRequestWithVIN => 0x0003
  | .vehicleAnnouncement => 0x0004
  | .routingActivationRequest => 0x0005
  | .routingActivationResponse => 0x0006
  | .aliveCheckRequest => 0x0007
  | .aliveCheckResponse => 0x0008
  | .doIPEntityStatusRequest => 0x4001
  | .doIPEntityStatusResponse => 0x4002
  | .diagnosticPowerModeInfoRequest => 0x4003
  | .diagnosticPowerModeInfoResponse => 0x4004
  | .diagnosticMessage => 0x8001
  | .diagnosticMessagePositiveAcknowledge => 0x8002
  | .diagnosticMessageNegativeAcknowledge => 0x8003
  | .reserved value => value
  | .reservedVehicleManufacturer value => value

instance : WireCode PayloadType UInt16 where
  ofWire := PayloadType.ofU16
  toWire := PayloadType.toU16
  toWire_ofWire b := by
    unfold PayloadType.ofU16
    iterate 16 refine eq_arm rfl ?_
    exact range_arm rfl rfl

/-! ## Body codes -/

/-- Generic negative acknowledgement: the error condition of a received message, as the body of a
nack. -/
inductive NackCode where
  | incorrectPatternFormat
  | unknownPayloadType
  | messageTooLarge
  | outOfMemory
  | invalidPayloadLength
  | reserved (value : UInt8)
deriving DecidableEq, Repr

/-- `From<u8> for NackCode`. -/
def NackCode.ofU8 (value : UInt8) : NackCode :=
  if value = 0x00 then .incorrectPatternFormat
  else if value = 0x01 then .unknownPayloadType
  else if value = 0x02 then .messageTooLarge
  else if value = 0x03 then .outOfMemory
  else if value = 0x04 then .invalidPayloadLength
  else .reserved value

/-- `From<NackCode> for u8`. -/
def NackCode.toU8 : NackCode → UInt8
  | .incorrectPatternFormat => 0x00
  | .unknownPayloadType => 0x01
  | .messageTooLarge => 0x02
  | .outOfMemory => 0x03
  | .invalidPayloadLength => 0x04
  | .reserved value => value

instance : WireCode NackCode UInt8 where
  ofWire := NackCode.ofU8
  toWire := NackCode.toU8
  toWire_ofWire b := by
    unfold NackCode.ofU8
    iterate 5 refine eq_arm rfl ?_
    rfl

/-- Acknowledgement codes of a diagnostic message, positive and negative. One type serves both
messages. -/
inductive DiagnosticAckCode where
  | routingConfirmationAck
  | reserved (value : UInt8)
  | invalidSourceAddress
  | unknownTargetAddress
  | diagnosticMessageTooLarge
  | outOfMemory
  | targetUnreachable
  | unknownNetwork
  | transportProtocolError
deriving DecidableEq, Repr

/-- `From<u8> for DiagnosticAckCode`. -/
def DiagnosticAckCode.ofU8 (value : UInt8) : DiagnosticAckCode :=
  if value = 0x00 then .routingConfirmationAck
  else if value = 0x02 then .invalidSourceAddress
  else if value = 0x03 then .unknownTargetAddress
  else if value = 0x04 then .diagnosticMessageTooLarge
  else if value = 0x05 then .outOfMemory
  else if value = 0x06 then .targetUnreachable
  else if value = 0x07 then .unknownNetwork
  else if value = 0x08 then .transportProtocolError
  else .reserved value

/-- `From<DiagnosticAckCode> for u8`. -/
def DiagnosticAckCode.toU8 : DiagnosticAckCode → UInt8
  | .routingConfirmationAck => 0x00
  | .reserved value => value
  | .invalidSourceAddress => 0x02
  | .unknownTargetAddress => 0x03
  | .diagnosticMessageTooLarge => 0x04
  | .outOfMemory => 0x05
  | .targetUnreachable => 0x06
  | .unknownNetwork => 0x07
  | .transportProtocolError => 0x08

instance : WireCode DiagnosticAckCode UInt8 where
  ofWire := DiagnosticAckCode.ofU8
  toWire := DiagnosticAckCode.toU8
  toWire_ofWire b := by
    unfold DiagnosticAckCode.ofU8
    iterate 8 refine eq_arm rfl ?_
    rfl

/-- Whether the code is the positive acknowledgement, of which there is one. -/
def DiagnosticAckCode.isPositiveAck : DiagnosticAckCode → Bool
  | .routingConfirmationAck => true
  | _ => false

/-- Why a tester asks for routing activation: the default, for a regulation, for security, or for
the manufacturer. -/
inductive ActivationTypeCode where
  | default
  | regulationRequired
  | reserved (value : UInt8)
  | centralSecurity
  | vehicleManufacturerSpecific (value : UInt8)
deriving DecidableEq, Repr

/-- `From<u8> for ActivationTypeCode`: reserved up to `0xDF`, and the manufacturer's behind
`0xE0`. -/
def ActivationTypeCode.ofU8 (value : UInt8) : ActivationTypeCode :=
  if value = 0x00 then .default
  else if value = 0x01 then .regulationRequired
  else if value ≤ 0xDF then .reserved value
  else if value = 0xE0 then .centralSecurity
  else .vehicleManufacturerSpecific value

/-- `From<ActivationTypeCode> for u8`. -/
def ActivationTypeCode.toU8 : ActivationTypeCode → UInt8
  | .default => 0x00
  | .regulationRequired => 0x01
  | .reserved value => value
  | .centralSecurity => 0xE0
  | .vehicleManufacturerSpecific value => value

instance : WireCode ActivationTypeCode UInt8 where
  ofWire := ActivationTypeCode.ofU8
  toWire := ActivationTypeCode.toU8
  toWire_ofWire b := by
    unfold ActivationTypeCode.ofU8
    exact eq_arm rfl (eq_arm rfl (range_arm rfl (eq_arm rfl rfl)))

/-- Whether routing activation was granted, and if not, why. Two of the codes grant it. -/
inductive RoutingActivationResponseCode where
  | deniedUnknownSourceAddress
  | deniedAllTcpSocketsRegisteredAndActive
  | deniedSourceAddressAlreadyActivated
  | deniedSourceAddressAlreadyRegistered
  | deniedMissingAuthentication
  | deniedRejectedConfirmation
  | deniedUnsupportedRoutingActivationType
  | deniedEncryptedConnectionViaTLSRequired
  | reserved (value : UInt8)
  | routingSuccessfullyActivated
  | routingSuccessfullyActivatedConfirmationRequired
  | vehicleManufacturerSpecific (value : UInt8)
deriving DecidableEq, Repr

/-- `From<u8> for RoutingActivationResponseCode`: the range of the manufacturer ends before `0xFF`,
which is reserved again. -/
def RoutingActivationResponseCode.ofU8 (value : UInt8) : RoutingActivationResponseCode :=
  if value = 0x00 then .deniedUnknownSourceAddress
  else if value = 0x01 then .deniedAllTcpSocketsRegisteredAndActive
  else if value = 0x02 then .deniedSourceAddressAlreadyActivated
  else if value = 0x03 then .deniedSourceAddressAlreadyRegistered
  else if value = 0x04 then .deniedMissingAuthentication
  else if value = 0x05 then .deniedRejectedConfirmation
  else if value = 0x06 then .deniedUnsupportedRoutingActivationType
  else if value = 0x07 then .deniedEncryptedConnectionViaTLSRequired
  else if value = 0x10 then .routingSuccessfullyActivated
  else if value = 0x11 then .routingSuccessfullyActivatedConfirmationRequired
  else if 0xE0 ≤ value ∧ value ≤ 0xFE then .vehicleManufacturerSpecific value
  else .reserved value

/-- `From<RoutingActivationResponseCode> for u8`. -/
def RoutingActivationResponseCode.toU8 : RoutingActivationResponseCode → UInt8
  | .deniedUnknownSourceAddress => 0x00
  | .deniedAllTcpSocketsRegisteredAndActive => 0x01
  | .deniedSourceAddressAlreadyActivated => 0x02
  | .deniedSourceAddressAlreadyRegistered => 0x03
  | .deniedMissingAuthentication => 0x04
  | .deniedRejectedConfirmation => 0x05
  | .deniedUnsupportedRoutingActivationType => 0x06
  | .deniedEncryptedConnectionViaTLSRequired => 0x07
  | .reserved value => value
  | .routingSuccessfullyActivated => 0x10
  | .routingSuccessfullyActivatedConfirmationRequired => 0x11
  | .vehicleManufacturerSpecific value => value

/-- Whether a code is one of the two success codes. The second of them asks for a confirmation,
which the crate does not look at. -/
def RoutingActivationResponseCode.isSuccess : RoutingActivationResponseCode → Bool
  | .routingSuccessfullyActivated | .routingSuccessfullyActivatedConfirmationRequired => true
  | _ => false

theorem RoutingActivationResponseCode.isSuccess_iff (code : RoutingActivationResponseCode) :
    code.isSuccess = true ↔ code = .routingSuccessfullyActivated ∨
      code = .routingSuccessfullyActivatedConfirmationRequired := by
  cases code <;> simp [isSuccess]

instance : WireCode RoutingActivationResponseCode UInt8 where
  ofWire := RoutingActivationResponseCode.ofU8
  toWire := RoutingActivationResponseCode.toU8
  toWire_ofWire b := by
    unfold RoutingActivationResponseCode.ofU8
    iterate 10 refine eq_arm rfl ?_
    exact range_arm rfl rfl

/-- The further-action byte of a vehicle announcement: whether the tester has to activate routing
for security first. -/
inductive FurtherActionRequired where
  | noFurtherActionRequired
  | reserved (value : UInt8)
  | routingActivationRequiredToInitiateCentralSecurity
  | vehicleManufacturerSpecific (value : UInt8)
deriving DecidableEq, Repr

/-- `From<u8> for FurtherActionRequired`. -/
def FurtherActionRequired.ofU8 (value : UInt8) : FurtherActionRequired :=
  if value = 0x00 then .noFurtherActionRequired
  else if value ≤ 0x0F then .reserved value
  else if value = 0x10 then .routingActivationRequiredToInitiateCentralSecurity
  else .vehicleManufacturerSpecific value

/-- `From<FurtherActionRequired> for u8`. -/
def FurtherActionRequired.toU8 : FurtherActionRequired → UInt8
  | .noFurtherActionRequired => 0x00
  | .reserved value => value
  | .routingActivationRequiredToInitiateCentralSecurity => 0x10
  | .vehicleManufacturerSpecific value => value

instance : WireCode FurtherActionRequired UInt8 where
  ofWire := FurtherActionRequired.ofU8
  toWire := FurtherActionRequired.toU8
  toWire_ofWire b := by
    unfold FurtherActionRequired.ofU8
    exact eq_arm rfl (range_arm rfl (eq_arm rfl rfl))

/-- Whether VIN and GID are synchronized across the entities of a vehicle, as its announcement
says. -/
inductive VinGidSyncStatus where
  | synchronized
  | reserved (value : UInt8)
  | incomplete
deriving DecidableEq, Repr

/-- `From<u8> for VinGidSyncStatus`. -/
def VinGidSyncStatus.ofU8 (value : UInt8) : VinGidSyncStatus :=
  if value = 0x00 then .synchronized
  else if value = 0x10 then .incomplete
  else .reserved value

/-- `From<VinGidSyncStatus> for u8`. -/
def VinGidSyncStatus.toU8 : VinGidSyncStatus → UInt8
  | .synchronized => 0x00
  | .reserved value => value
  | .incomplete => 0x10

instance : WireCode VinGidSyncStatus UInt8 where
  ofWire := VinGidSyncStatus.ofU8
  toWire := VinGidSyncStatus.toU8
  toWire_ofWire b := by
    unfold VinGidSyncStatus.ofU8
    exact eq_arm rfl (eq_arm rfl rfl)

/-- The kind of node that reports its status: a gateway to other ECUs, or a node for itself. -/
inductive EntityStatusNodeType where
  | doIPGateway
  | doIPNode
  | reserved (value : UInt8)
deriving DecidableEq, Repr

/-- `From<u8> for EntityStatusNodeType`. -/
def EntityStatusNodeType.ofU8 (value : UInt8) : EntityStatusNodeType :=
  if value = 0x00 then .doIPGateway
  else if value = 0x01 then .doIPNode
  else .reserved value

/-- `From<EntityStatusNodeType> for u8`. -/
def EntityStatusNodeType.toU8 : EntityStatusNodeType → UInt8
  | .doIPGateway => 0x00
  | .doIPNode => 0x01
  | .reserved value => value

instance : WireCode EntityStatusNodeType UInt8 where
  ofWire := EntityStatusNodeType.ofU8
  toWire := EntityStatusNodeType.toU8
  toWire_ofWire b := by
    unfold EntityStatusNodeType.ofU8
    exact eq_arm rfl (eq_arm rfl rfl)

/-- Whether the vehicle is ready for reliable diagnostics, as the body of a power mode response. -/
inductive DiagnosticPowerModeCode where
  | notReady
  | ready
  | notSupported
  | reserved (value : UInt8)
deriving DecidableEq, Repr

/-- `From<u8> for DiagnosticPowerModeCode`. -/
def DiagnosticPowerModeCode.ofU8 (value : UInt8) : DiagnosticPowerModeCode :=
  if value = 0x00 then .notReady
  else if value = 0x01 then .ready
  else if value = 0x02 then .notSupported
  else .reserved value

/-- `From<DiagnosticPowerModeCode> for u8`. -/
def DiagnosticPowerModeCode.toU8 : DiagnosticPowerModeCode → UInt8
  | .notReady => 0x00
  | .ready => 0x01
  | .notSupported => 0x02
  | .reserved value => value

instance : WireCode DiagnosticPowerModeCode UInt8 where
  ofWire := DiagnosticPowerModeCode.ofU8
  toWire := DiagnosticPowerModeCode.toU8
  toWire_ofWire b := by
    unfold DiagnosticPowerModeCode.ofU8
    exact eq_arm rfl (eq_arm rfl (eq_arm rfl rfl))

end SimpleDoip
