import SimpleDoip.Messages.Header

/-!
# The message bodies

The body types of the format, each with its decoder, its encoder and the bytes the encoder writes.
A body with a fixed tail hands back what it did not read; the two data-carrying bodies swallow the
rest of the buffer. Each `decode_bytes` is the round trip of one body, for any bytes behind it that
the decoder is meant to leave alone.
-/

namespace SimpleDoip

/-- A `DoIP` logical address: which tester or ECU a message comes from or goes to. All 16-bit values
are addresses. -/
structure LogicalAddress where
  value : UInt16
deriving DecidableEq, Repr

namespace LogicalAddress

/-- First address of external test equipment, by the address ranges of ISO 13400-2. -/
def MIN_CLIENT_ADDRESS : LogicalAddress := ⟨0x0E00⟩
/-- Last address of external test equipment, by the address ranges of ISO 13400-2. -/
def MAX_CLIENT_ADDRESS : LogicalAddress := ⟨0x0FFF⟩

/-- Whether the address belongs to external test equipment. The client asks it about its own address
when it binds. -/
def isValidClientAddress (a : LogicalAddress) : Bool :=
  decide (MIN_CLIENT_ADDRESS.value ≤ a.value) && decide (a.value ≤ MAX_CLIENT_ADDRESS.value)

end LogicalAddress

section
variable {ι : Type} [WireCodec ι]

/-! ## One-byte bodies -/

/-- `Decode for NackCode`. Every byte is a code, so that only a missing one is an error. -/
def NackCode.decode (buf : List UInt8) : Except (MessageError ι) (NackCode × List UInt8) := do
  let (value, rest) ← incomplete (WireCodec.readU8 buf)
  return (.ofU8 value, rest)

/-- `Encode for NackCode`. -/
instance : Encode ι NackCode where
  encodedSize _ := .ok 1
  encode code := do
    io (WireCodec.writeU8 code.toU8)
    return 1

instance : WireForm ι NackCode where
  bytes code := [code.toU8]
  encodedSize_eq _ := rfl
  encode_emits code := by
    simp only [Encode.encode, io_writeU8]
    exact .last _ _

theorem NackCode.decode_bytes {code : NackCode} (h : InImage code) (rest : List UInt8) :
    NackCode.decode (bytes code ++ rest) = .ok (code, rest) := by
  have hc : NackCode.ofU8 code.toU8 = code := h.ofWire_toWire
  simp only [NackCode.decode, bytes, List.cons_append, List.nil_append, WireCodec.readU8_cons,
    incomplete_ok, ok_bind, hc]
  rfl

/-- `Decode for DiagnosticPowerModeCode`. Every byte is a code, so that only a missing one is an
error. -/
def DiagnosticPowerModeCode.decode (buf : List UInt8) :
    Except (MessageError ι) (DiagnosticPowerModeCode × List UInt8) := do
  let (value, rest) ← incomplete (WireCodec.readU8 buf)
  return (.ofU8 value, rest)

/-- `Encode for DiagnosticPowerModeCode`. -/
instance : Encode ι DiagnosticPowerModeCode where
  encodedSize _ := .ok 1
  encode code := do
    io (WireCodec.writeU8 code.toU8)
    return 1

instance : WireForm ι DiagnosticPowerModeCode where
  bytes code := [code.toU8]
  encodedSize_eq _ := rfl
  encode_emits code := by
    simp only [Encode.encode, io_writeU8]
    exact .last _ _

theorem DiagnosticPowerModeCode.decode_bytes {code : DiagnosticPowerModeCode} (h : InImage code)
    (rest : List UInt8) :
    DiagnosticPowerModeCode.decode (bytes code ++ rest) = .ok (code, rest) := by
  have hc : DiagnosticPowerModeCode.ofU8 code.toU8 = code := h.ofWire_toWire
  simp only [DiagnosticPowerModeCode.decode, bytes, List.cons_append, List.nil_append,
    WireCodec.readU8_cons, incomplete_ok, ok_bind, hc]
  rfl

/-! ## Alive check -/

/-- The answer to an alive check: the tester that is still there. -/
structure AliveCheckResponse where
  sourceAddress : LogicalAddress
deriving DecidableEq, Repr

/-- `Decode for AliveCheckResponse`. -/
def AliveCheckResponse.decode (buf : List UInt8) :
    Except (MessageError ι) (AliveCheckResponse × List UInt8) := do
  let (sourceAddress, rest) ← incomplete (WireCodec.readU16Be buf)
  return (⟨⟨sourceAddress⟩⟩, rest)

/-- `Encode for AliveCheckResponse`. -/
instance : Encode ι AliveCheckResponse where
  encodedSize _ := .ok 2
  encode r := do
    io (WireCodec.writeU16Be r.sourceAddress.value)
    return 2

instance : WireForm ι AliveCheckResponse where
  bytes r := u16Be r.sourceAddress.value
  encodedSize_eq _ := rfl
  encode_emits r := by
    simp only [Encode.encode, io_writeU16Be]
    exact .last _ _

theorem AliveCheckResponse.decode_bytes (r : AliveCheckResponse) (rest : List UInt8) :
    AliveCheckResponse.decode (bytes r ++ rest) = .ok (r, rest) := by
  simp only [AliveCheckResponse.decode, bytes, WireCodec.readU16Be_append, incomplete_ok, ok_bind]
  rfl

/-! ## Diagnostic messages -/

/-- A UDS message between a tester and an ECU. The crate does not look into the user data. -/
structure DiagnosticMessage where
  sourceAddress : LogicalAddress
  targetAddress : LogicalAddress
  userData : List UInt8
deriving DecidableEq, Repr

/-- `Decode for DiagnosticMessage`: the user data is everything behind the two addresses. -/
def DiagnosticMessage.decode (buf : List UInt8) :
    Except (MessageError ι) (DiagnosticMessage × List UInt8) := do
  let (sourceAddress, rest) ← incomplete (WireCodec.readU16Be buf)
  let (targetAddress, rest) ← incomplete (WireCodec.readU16Be rest)
  let userData := rest
  return ({ sourceAddress := ⟨sourceAddress⟩, targetAddress := ⟨targetAddress⟩, userData }, [])

/-- `Encode for DiagnosticMessage`. -/
instance : Encode ι DiagnosticMessage where
  encodedSize m := .ok (4 + m.userData.length)
  encode m := do
    io (WireCodec.writeU16Be m.sourceAddress.value)
    io (WireCodec.writeU16Be m.targetAddress.value)
    io (WireCodec.writeAll m.userData)
    return 4 + m.userData.length

instance : WireForm ι DiagnosticMessage where
  bytes m := u16Be m.sourceAddress.value ++ (u16Be m.targetAddress.value ++ m.userData)
  encodedSize_eq m := by
    simp only [Encode.encodedSize, List.length_append, length_u16Be, ← Nat.add_assoc]
  encode_emits m := by
    simp only [Encode.encode, io_writeU16Be, io_writeAll, List.length_append, length_u16Be,
      ← Nat.add_assoc]
    exact .write _ (.write _ (.last _ _))

theorem DiagnosticMessage.decode_bytes (m : DiagnosticMessage) :
    DiagnosticMessage.decode (bytes m) = .ok (m, []) := by
  simp only [DiagnosticMessage.decode, bytes, WireCodec.readU16Be_append, incomplete_ok, ok_bind]
  rfl

/-- The acknowledgement of a diagnostic message. It may repeat the data it acknowledges, or the
beginning of it. -/
structure DiagnosticMessageAck where
  sourceAddress : LogicalAddress
  targetAddress : LogicalAddress
  ackCode : DiagnosticAckCode
  previousMessageData : List UInt8
deriving DecidableEq, Repr

/-- `Decode for DiagnosticMessageAck`: the previous message data is everything behind the code. -/
def DiagnosticMessageAck.decode (buf : List UInt8) :
    Except (MessageError ι) (DiagnosticMessageAck × List UInt8) := do
  let (sourceAddress, rest) ← incomplete (WireCodec.readU16Be buf)
  let (targetAddress, rest) ← incomplete (WireCodec.readU16Be rest)
  let (ackCode, rest) ← incomplete (WireCodec.readU8 rest)
  let previousMessageData := rest
  return ({ sourceAddress := ⟨sourceAddress⟩, targetAddress := ⟨targetAddress⟩,
            ackCode := .ofU8 ackCode, previousMessageData }, [])

/-- `Encode for DiagnosticMessageAck`. -/
instance : Encode ι DiagnosticMessageAck where
  encodedSize a := .ok (5 + a.previousMessageData.length)
  encode a := do
    io (WireCodec.writeU16Be a.sourceAddress.value)
    io (WireCodec.writeU16Be a.targetAddress.value)
    io (WireCodec.writeU8 a.ackCode.toU8)
    io (WireCodec.writeAll a.previousMessageData)
    return 5 + a.previousMessageData.length

instance : WireForm ι DiagnosticMessageAck where
  bytes a := u16Be a.sourceAddress.value ++ (u16Be a.targetAddress.value ++
    a.ackCode.toU8 :: a.previousMessageData)
  encodedSize_eq a := by
    simp only [Encode.encodedSize, List.length_append, length_u16Be, List.length_cons,
      Except.ok.injEq]
    omega
  encode_emits a := by
    have hlen : 5 + a.previousMessageData.length =
        2 + (2 + (a.previousMessageData.length + 1)) := by omega
    simp only [Encode.encode, io_writeU16Be, io_writeU8, io_writeAll, List.length_append,
      length_u16Be, List.length_cons, hlen]
    exact .write _ (.write _ (.write _ (.last _ _)))

theorem DiagnosticMessageAck.decode_bytes {a : DiagnosticMessageAck} (h : InImage a.ackCode) :
    DiagnosticMessageAck.decode (bytes a) = .ok (a, []) := by
  have hc : DiagnosticAckCode.ofU8 a.ackCode.toU8 = a.ackCode := h.ofWire_toWire
  simp only [DiagnosticMessageAck.decode, bytes, WireCodec.readU16Be_append, WireCodec.readU8_cons,
    incomplete_ok, ok_bind, hc]
  rfl

/-! ## Entity status -/

/-- The status of a `DoIP` entity: its kind, how many connections it can have and has, and how much
data it takes at once. -/
structure EntityStatusResponse where
  nodeType : EntityStatusNodeType
  maxConcurrentTcpSockets : UInt8
  openTcpSockets : UInt8
  maxDataSize : UInt32
deriving DecidableEq, Repr

/-- `Decode for EntityStatusResponse`. -/
def EntityStatusResponse.decode (buf : List UInt8) :
    Except (MessageError ι) (EntityStatusResponse × List UInt8) := do
  let (nodeType, rest) ← incomplete (WireCodec.readU8 buf)
  let (maxConcurrentTcpSockets, rest) ← incomplete (WireCodec.readU8 rest)
  let (openTcpSockets, rest) ← incomplete (WireCodec.readU8 rest)
  let (maxDataSize, rest) ← incomplete (WireCodec.readU32Be rest)
  return ({ nodeType := .ofU8 nodeType, maxConcurrentTcpSockets, openTcpSockets, maxDataSize },
    rest)

/-- `Encode for EntityStatusResponse`. -/
instance : Encode ι EntityStatusResponse where
  encodedSize _ := .ok 7
  encode r := do
    io (WireCodec.writeU8 r.nodeType.toU8)
    io (WireCodec.writeU8 r.maxConcurrentTcpSockets)
    io (WireCodec.writeU8 r.openTcpSockets)
    io (WireCodec.writeU32Be r.maxDataSize)
    return 7

instance : WireForm ι EntityStatusResponse where
  bytes r := r.nodeType.toU8 :: r.maxConcurrentTcpSockets :: r.openTcpSockets ::
    u32Be r.maxDataSize
  encodedSize_eq _ := rfl
  encode_emits r := by
    simp only [Encode.encode, io_writeU8, io_writeU32Be]
    exact .write _ (.write _ (.write _ (.last _ _)))

theorem EntityStatusResponse.decode_bytes {r : EntityStatusResponse} (h : InImage r.nodeType)
    (rest : List UInt8) : EntityStatusResponse.decode (bytes r ++ rest) = .ok (r, rest) := by
  have hn : EntityStatusNodeType.ofU8 r.nodeType.toU8 = r.nodeType := h.ofWire_toWire
  simp only [EntityStatusResponse.decode, bytes, List.cons_append, WireCodec.readU8_cons,
    WireCodec.readU32Be_append, incomplete_ok, ok_bind, hn]
  rfl

/-! ## Routing activation -/

/-- A tester's request to have its connection activated. The last field is optional on the wire,
too, and is there if there are bytes for it. -/
structure RoutingActivationRequest where
  sourceAddress : LogicalAddress
  activationType : ActivationTypeCode
  reserved : U8Array 4
  reservedVehicleManufacturer : Option (U8Array 4)
deriving DecidableEq

/-- `Decode for RoutingActivationRequest`: fewer than four bytes behind the reserved field are no
manufacturer field, and are not an error. -/
def RoutingActivationRequest.decode (buf : List UInt8) :
    Except (MessageError ι) (RoutingActivationRequest × List UInt8) := do
  let (sourceAddress, rest) ← incomplete (WireCodec.readU16Be buf)
  let (activationType, rest) ← incomplete (WireCodec.readU8 rest)
  let (reserved, rest) ← incomplete (WireCodec.readArray 4 rest)
  let (reservedVehicleManufacturer, rest) := WireCodec.readOptionalArray 4 rest
  return ({ sourceAddress := ⟨sourceAddress⟩, activationType := .ofU8 activationType, reserved,
            reservedVehicleManufacturer }, rest)

/-- `Encode for RoutingActivationRequest`: the optional field is written if there is one. -/
instance : Encode ι RoutingActivationRequest where
  encodedSize r := .ok (if r.reservedVehicleManufacturer.isSome then 11 else 7)
  encode r := do
    io (WireCodec.writeU16Be r.sourceAddress.value)
    io (WireCodec.writeU8 r.activationType.toU8)
    io (WireCodec.writeAll r.reserved.toList)
    if let some reservedVehicleManufacturer := r.reservedVehicleManufacturer then
      io (WireCodec.writeAll reservedVehicleManufacturer.toList)
      return 11
    return 7

/-- The bytes of an optional trailing array: none of them if it is not there. -/
def optionalBytes {n : Nat} : Option (U8Array n) → List UInt8
  | some v => v.toList
  | none => []

/-- An optional trailing array comes back when it ends the buffer. Behind an absent one, other bytes
would be taken for it. -/
theorem readOptionalArray_optionalBytes {n : Nat} (hn : 0 < n) (o : Option (U8Array n)) :
    WireCodec.readOptionalArray n (optionalBytes o) = (o, []) := by
  cases o with
  | none => exact WireCodec.readOptionalArray_short n [] hn
  | some v =>
    have h := WireCodec.readOptionalArray_append n v []
    rwa [List.append_nil] at h

instance : WireForm ι RoutingActivationRequest where
  bytes r := u16Be r.sourceAddress.value ++ (r.activationType.toU8 :: (r.reserved.toList ++
    optionalBytes r.reservedVehicleManufacturer))
  encodedSize_eq r := by
    cases h : r.reservedVehicleManufacturer <;>
      simp [Encode.encodedSize, h, optionalBytes]
  encode_emits r := by
    cases h : r.reservedVehicleManufacturer with
    | none =>
      simp only [Encode.encode, h, io_writeU16Be, io_writeU8, io_writeAll, List.length_append,
        length_u16Be, List.length_cons, List.Vector.toList_length, optionalBytes]
      exact .write _ (.write _ (.write _ (.done _)))
    | some manufacturer =>
      simp only [Encode.encode, h, io_writeU16Be, io_writeU8, io_writeAll, List.length_append,
        length_u16Be, List.length_cons, List.Vector.toList_length, optionalBytes]
      exact .write _ (.write _ (.write _ (.last _ _)))

theorem RoutingActivationRequest.decode_bytes {r : RoutingActivationRequest}
    (h : InImage r.activationType) :
    RoutingActivationRequest.decode (bytes r) = .ok (r, []) := by
  have ha : ActivationTypeCode.ofU8 r.activationType.toU8 = r.activationType := h.ofWire_toWire
  simp only [RoutingActivationRequest.decode, bytes, WireCodec.readU16Be_append,
    WireCodec.readU8_cons, WireCodec.readArray_append,
    readOptionalArray_optionalBytes (Nat.succ_pos 3), incomplete_ok, ok_bind, ha]
  rfl

/-- The entity's answer to a routing activation request, with the addresses of both sides and the
code of the decision. -/
structure RoutingActivationResponse where
  logicalAddressTester : LogicalAddress
  logicalAddressOfDoipEntity : LogicalAddress
  routingActivationResponseCode : RoutingActivationResponseCode
  reservedOem : U8Array 4
  oemSpecific : Option (U8Array 4)
deriving DecidableEq

/-- `Decode for RoutingActivationResponse`, with an optional last field, like that of the
request. -/
def RoutingActivationResponse.decode (buf : List UInt8) :
    Except (MessageError ι) (RoutingActivationResponse × List UInt8) := do
  let (logicalAddressTester, rest) ← incomplete (WireCodec.readU16Be buf)
  let (logicalAddressOfDoipEntity, rest) ← incomplete (WireCodec.readU16Be rest)
  let (routingActivationResponseCode, rest) ← incomplete (WireCodec.readU8 rest)
  let (reservedOem, rest) ← incomplete (WireCodec.readArray 4 rest)
  let (oemSpecific, rest) := WireCodec.readOptionalArray 4 rest
  return ({ logicalAddressTester := ⟨logicalAddressTester⟩,
            logicalAddressOfDoipEntity := ⟨logicalAddressOfDoipEntity⟩,
            routingActivationResponseCode := .ofU8 routingActivationResponseCode,
            reservedOem, oemSpecific }, rest)

/-- `Encode for RoutingActivationResponse`: the optional field is written if there is one. -/
instance : Encode ι RoutingActivationResponse where
  encodedSize r := .ok (9 + r.oemSpecific.elim 0 fun _ => 4)
  encode r := do
    io (WireCodec.writeU16Be r.logicalAddressTester.value)
    io (WireCodec.writeU16Be r.logicalAddressOfDoipEntity.value)
    io (WireCodec.writeU8 r.routingActivationResponseCode.toU8)
    io (WireCodec.writeAll r.reservedOem.toList)
    if let some oemSpecific := r.oemSpecific then
      io (WireCodec.writeAll oemSpecific.toList)
    return 9 + r.oemSpecific.elim 0 fun _ => 4

instance : WireForm ι RoutingActivationResponse where
  bytes r := u16Be r.logicalAddressTester.value ++ (u16Be r.logicalAddressOfDoipEntity.value ++
    (r.routingActivationResponseCode.toU8 :: (r.reservedOem.toList ++
      optionalBytes r.oemSpecific)))
  encodedSize_eq r := by
    cases h : r.oemSpecific <;> simp [Encode.encodedSize, h, optionalBytes]
  encode_emits r := by
    cases h : r.oemSpecific with
    | none =>
      simp only [Encode.encode, h, io_writeU16Be, io_writeU8, io_writeAll, List.length_append,
        length_u16Be, List.length_cons, List.Vector.toList_length, optionalBytes]
      exact .write _ (.write _ (.write _ (.write _ (.done _))))
    | some oemSpecific =>
      simp only [Encode.encode, h, io_writeU16Be, io_writeU8, io_writeAll, List.length_append,
        length_u16Be, List.length_cons, List.Vector.toList_length, optionalBytes]
      exact .write _ (.write _ (.write _ (.write _ (.last _ _))))

theorem RoutingActivationResponse.decode_bytes {r : RoutingActivationResponse}
    (h : InImage r.routingActivationResponseCode) :
    RoutingActivationResponse.decode (bytes r) = .ok (r, []) := by
  have hc : RoutingActivationResponseCode.ofU8 r.routingActivationResponseCode.toU8 =
      r.routingActivationResponseCode := h.ofWire_toWire
  simp only [RoutingActivationResponse.decode, bytes, WireCodec.readU16Be_append,
    WireCodec.readU8_cons, WireCodec.readArray_append,
    readOptionalArray_optionalBytes (Nat.succ_pos 3), incomplete_ok, ok_bind, hc]
  rfl

/-! ## Vehicle identification -/

/-- A vehicle announcement, or the answer to a vehicle identification request. The two share their
body. -/
structure VehicleIdentificationResponse where
  vin : U8Array 17
  logicalAddress : LogicalAddress
  entityId : U8Array 6
  groupId : Option (U8Array 6)
  furtherAction : FurtherActionRequired
  vinGidSyncStatus : VinGidSyncStatus
deriving DecidableEq

/-- `[b; n]`: the array with the same byte everywhere. -/
def filledArray (n : Nat) (b : UInt8) : U8Array n := List.Vector.replicate n b

/-- `Decode for VehicleIdentificationResponse`: an all-zero or all-ones group id is no group id. -/
def VehicleIdentificationResponse.decode (buf : List UInt8) :
    Except (MessageError ι) (VehicleIdentificationResponse × List UInt8) := do
  let (vin, rest) ← incomplete (WireCodec.readArray 17 buf)
  let (logicalAddress, rest) ← incomplete (WireCodec.readU16Be rest)
  let (entityId, rest) ← incomplete (WireCodec.readArray 6 rest)
  let (groupId, rest) ← incomplete (WireCodec.readArray 6 rest)
  let groupId :=
    if groupId = filledArray 6 0x00 ∨ groupId = filledArray 6 0xFF then none else some groupId
  let (furtherAction, rest) ← incomplete (WireCodec.readU8 rest)
  let (vinGidSyncStatus, rest) ← incomplete (WireCodec.readU8 rest)
  return ({ vin, logicalAddress := ⟨logicalAddress⟩, entityId, groupId,
            furtherAction := .ofU8 furtherAction, vinGidSyncStatus := .ofU8 vinGidSyncStatus },
    rest)

/-- `Encode for VehicleIdentificationResponse`. -/
instance : Encode ι VehicleIdentificationResponse where
  encodedSize _ := .ok 33
  encode r := do
    io (WireCodec.writeAll r.vin.toList)
    io (WireCodec.writeU16Be r.logicalAddress.value)
    io (WireCodec.writeAll r.entityId.toList)
    if let some groupId := r.groupId then
      io (WireCodec.writeAll groupId.toList)
    else
      io (WireCodec.writeAll (filledArray 6 0x00).toList)
    io (WireCodec.writeU8 r.furtherAction.toU8)
    io (WireCodec.writeU8 r.vinGidSyncStatus.toU8)
    return 33

/-- The six group-id bytes on the wire, where a missing group id is all zeros. -/
def VehicleIdentificationResponse.wireGroupId (r : VehicleIdentificationResponse) : U8Array 6 :=
  r.groupId.getD (filledArray 6 0x00)

instance : WireForm ι VehicleIdentificationResponse where
  bytes r := r.vin.toList ++ (u16Be r.logicalAddress.value ++ (r.entityId.toList ++
    (r.wireGroupId.toList ++ [r.furtherAction.toU8, r.vinGidSyncStatus.toU8])))
  encodedSize_eq r := by simp [Encode.encodedSize]
  encode_emits r := by
    cases h : r.groupId <;>
      simp only [Encode.encode, h, VehicleIdentificationResponse.wireGroupId, io_writeU16Be,
        io_writeU8, io_writeAll, List.length_append, length_u16Be, List.length_cons,
        List.Vector.toList_length] <;>
      exact .write _ (.write _ (.write _ (.write _ (.write _ (.last _ _)))))

/-- A response whose fields the decoder can produce: codes in the image, and no group id that stands
for a missing one. -/
structure VehicleIdentificationResponse.WellFormed (r : VehicleIdentificationResponse) : Prop where
  furtherAction : InImage r.furtherAction
  vinGidSyncStatus : InImage r.vinGidSyncStatus
  groupId : r.groupId ≠ some (filledArray 6 0x00) ∧ r.groupId ≠ some (filledArray 6 0xFF)

/-- Decoding takes the group id on the wire back to the option it came from. -/
theorem VehicleIdentificationResponse.groupId_of_wire {r : VehicleIdentificationResponse}
    (h : r.groupId ≠ some (filledArray 6 0x00) ∧ r.groupId ≠ some (filledArray 6 0xFF)) :
    (if r.wireGroupId = filledArray 6 0x00 ∨ r.wireGroupId = filledArray 6 0xFF then none
      else some r.wireGroupId) = r.groupId := by
  cases hg : r.groupId with
  | none => simp [wireGroupId, hg]
  | some g => simp_all [wireGroupId]

theorem VehicleIdentificationResponse.decode_bytes {r : VehicleIdentificationResponse}
    (h : r.WellFormed) (rest : List UInt8) :
    VehicleIdentificationResponse.decode (bytes r ++ rest) = .ok (r, rest) := by
  have hf : FurtherActionRequired.ofU8 r.furtherAction.toU8 = r.furtherAction :=
    h.furtherAction.ofWire_toWire
  have hs : VinGidSyncStatus.ofU8 r.vinGidSyncStatus.toU8 = r.vinGidSyncStatus :=
    h.vinGidSyncStatus.ofWire_toWire
  simp only [VehicleIdentificationResponse.decode, bytes, List.append_assoc, List.cons_append,
    List.nil_append, WireCodec.readArray_append, WireCodec.readU16Be_append, WireCodec.readU8_cons,
    incomplete_ok, ok_bind, hf, hs, groupId_of_wire h.groupId]
  rfl

end

end SimpleDoip
