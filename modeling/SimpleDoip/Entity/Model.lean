import SimpleDoip.Framer

/-!
# The bare-metal entity

`Entity` is the `no_std` server: it owns its session state and its buffers, and reaches the outside
only through the platform's callbacks. The callbacks are functions over a platform state of any
type, and `Platform` logs the calls made to them.

A slice out of range, a failed subtraction and a failed `expect` are panics; every function that
can reach one returns an `Option`, and so does the receive loop, which is run with fuel.
-/

namespace SimpleDoip

/-- Version stamped into every response header, whatever version the request had. -/
def PROTOCOL_VERSION : ProtocolVersion := .v2012
def VIN_LEN : Nat := 17
def EID_LEN : Nat := 6
def GID_LEN : Nat := 6
/-- Largest UDS response the dispatch may produce, and the size of the buffer it gets for it. -/
def UDS_RESP_CAP : Nat := 1024
/-- Source and target address in front of a diagnostic message's data, in bytes. -/
def DIAG_ADDR_LEN : Nat := 4
/-- TCP reassembly capacity: the bytes that can wait for the rest of their frame. -/
def TCP_RX_CAP : Nat := 2048
/-- Largest inbound payload that can complete reassembly. A frame that declares more is rejected as
soon as its header is there. -/
def MAX_RX_PAYLOAD : Nat := TCP_RX_CAP - Header.SIZE
/-- Transmit staging capacity, which is the largest response with its header and addresses. -/
def TX_CAP : Nat := Header.SIZE + DIAG_ADDR_LEN + UDS_RESP_CAP

/-! ## Slices -/

/-- `&xs[..n]`, which panics out of range. -/
def sliceTo (xs : List UInt8) (n : Nat) : Option (List UInt8) :=
  if n ≤ xs.length then some (xs.take n) else none

/-- `buf[start..start + data.len()].copy_from_slice(data)`, which panics out of range. -/
def copyFromSlice {n : Nat} (buf : U8Array n) (start : Nat) (data : List UInt8) :
    Option (U8Array n) :=
  if h : start + data.length ≤ n then
    some ⟨buf.toList.take start ++ (data ++ buf.toList.drop (start + data.length)), by
      simp only [List.length_append, List.length_take, List.length_drop, buf.toList_length]
      omega⟩
  else none

/-- `buf.copy_within(a..b, 0)`, which panics out of range. What lies behind the moved bytes stays as
it was. -/
def copyWithin {n : Nat} (buf : U8Array n) (a b : Nat) : Option (U8Array n) :=
  if h : a ≤ b ∧ b ≤ n then
    some ⟨(buf.toList.take b).drop a ++ buf.toList.drop (b - a), by
      simp only [List.length_append, List.length_take, List.length_drop, buf.toList_length]
      omega⟩
  else none

/-- `a - b` on `usize`, which panics where it underflows. -/
def checkedSub (a b : Nat) : Option Nat := if b ≤ a then some (a - b) else none

/-! ## The platform -/

/-- A call the entity makes to its platform, with its arguments. This is all that can be seen of an
entity from outside, apart from its verdicts. -/
inductive PlatformCall where
  | sendUdp (dstAddr : UInt32) (dstPort : UInt16) (data : List UInt8)
  | sendTcp (data : List UInt8)
  | onUdsRequest (request : List UInt8)
deriving DecidableEq

/-- Platform callbacks the entity drives its I/O and dispatch through, over a platform state `π`. -/
structure Callbacks (π : Type) where
  sendUdp : UInt32 → UInt16 → List UInt8 → π → Int32 × π
  sendTcp : List UInt8 → π → Int32 × π
  onUdsRequest : List UInt8 → U8Array UDS_RESP_CAP → π → Int32 × U8Array UDS_RESP_CAP × π

/-- The state behind the callbacks, and the calls made to them so far, oldest first. -/
structure Platform (π : Type) where
  state : π
  calls : List PlatformCall

/-- What the platform must do with the TCP connection after a byte feed. -/
inductive TcpVerdict where
  | keepOpen
  | close
deriving DecidableEq, Repr

section
variable {π : Type}

namespace Platform

/-- A call to `send_udp`; its result is ignored, as the source ignores it. -/
def sendUdp (cb : Callbacks π) (dstAddr : UInt32) (dstPort : UInt16) (data : List UInt8)
    (p : Platform π) : Platform π where
  state := (cb.sendUdp dstAddr dstPort data p.state).2
  calls := p.calls ++ [.sendUdp dstAddr dstPort data]

/-- A call to `send_tcp`; its result is ignored, as the source ignores it. -/
def sendTcp (cb : Callbacks π) (data : List UInt8) (p : Platform π) : Platform π where
  state := (cb.sendTcp data p.state).2
  calls := p.calls ++ [.sendTcp data]

/-- A call to `on_uds_request`: the length it reports and the response buffer it leaves. -/
def onUdsRequest (cb : Callbacks π) (request : List UInt8) (responseOut : U8Array UDS_RESP_CAP)
    (p : Platform π) : Int32 × U8Array UDS_RESP_CAP × Platform π :=
  let (reported, responseOut', state') := cb.onUdsRequest request responseOut p.state
  (reported, responseOut', { state := state', calls := p.calls ++ [.onUdsRequest request] })

end Platform

/-- Identity and addressing the entity announces and answers with, as `init` is given them. -/
structure EntityConfig where
  vin : U8Array VIN_LEN
  eid : U8Array EID_LEN
  gid : U8Array GID_LEN
  logicalAddress : UInt16

variable (π) in
/-- The `DoIP` entity: identity, session state and all buffers. It serves while it has callbacks. -/
structure Entity where
  vin : U8Array VIN_LEN
  eid : U8Array EID_LEN
  gid : U8Array GID_LEN
  logicalAddress : UInt16
  callbacks : Option (Callbacks π)
  activeTester : Option UInt16
  rxLen : Nat
  rxBuf : U8Array TCP_RX_CAP
  txBuf : U8Array TX_CAP
  udsRespBuf : U8Array UDS_RESP_CAP

variable (π) in
/-- What a TCP handler needs except the reassembly stream, which the receive loop borrows at the
same time. -/
structure Session where
  cb : Callbacks π
  ownAddress : UInt16
  activeTester : Option UInt16
  txBuf : U8Array TX_CAP
  udsRespBuf : U8Array UDS_RESP_CAP

/-! ## Sending -/

section
variable {ι : Type} [WireCodec ι]

/-- Wrap `payload` in a header of the matching type and of the entity's version. There is no message
where the payload cannot be sized. -/
def framed (payloadType : PayloadType) (payload : Payload) : Option Message := do
  let size ← (Encode.encodedSize payload).toOption
  let size ← u32TryFrom size
  return { header := Header.new PROTOCOL_VERSION payloadType size, payload }

/-- Encode into a buffer: the length if the message fit, and the buffer either way. -/
def encodeInto {n : Nat} (buf : U8Array n) (msg : Message) : Option Nat × U8Array n :=
  match Encode.encode msg (SliceWriter.start buf) with
  | .ok len w => (some len, w.buffer)
  | .error _ w => (none, w.buffer)

/-- Send one message as a UDP datagram. A message that does not fit the transmit buffer is not sent,
and nobody is told. -/
def sendUdpMsg (cb : Callbacks π) (tx : U8Array TX_CAP) (dstAddr : UInt32) (dstPort : UInt16)
    (msg : Message) (p : Platform π) : Option (U8Array TX_CAP × Platform π) :=
  match encodeInto tx msg with
  | (none, tx) => some (tx, p)
  | (some len, tx) => do
    let data ← sliceTo tx.toList len
    return (tx, p.sendUdp cb dstAddr dstPort data)

/-- Send one message on the TCP connection. A message that does not fit the transmit buffer is not
sent, and nobody is told. -/
def sendTcpMsg (cb : Callbacks π) (tx : U8Array TX_CAP) (msg : Message) (p : Platform π) :
    Option (U8Array TX_CAP × Platform π) :=
  match encodeInto tx msg with
  | (none, tx) => some (tx, p)
  | (some len, tx) => do
    let data ← sliceTo tx.toList len
    return (tx, p.sendTcp cb data)

/-- Send a generic negative acknowledgement on the TCP connection. -/
def sendTcpNack (cb : Callbacks π) (tx : U8Array TX_CAP) (code : NackCode) (p : Platform π) :
    Option (U8Array TX_CAP × Platform π) :=
  match framed .negativeAcknowledge (.doIPNack code) with
  | none => some (tx, p)
  | some msg => sendTcpMsg cb tx msg p

/-- Acknowledge a diagnostic message, positively or negatively by the payload type. The data is not
repeated. -/
def sendDiagAck (s : Session π) (payloadType : PayloadType) (tester : UInt16)
    (code : DiagnosticAckCode) (p : Platform π) : Option (Session π × Platform π) :=
  let ack : DiagnosticMessageAck :=
    { sourceAddress := ⟨s.ownAddress⟩, targetAddress := ⟨tester⟩, ackCode := code,
      previousMessageData := [] }
  match framed payloadType (.diagnosticMessageAck ack) with
  | none => some (s, p)
  | some msg => do
    let (txBuf, p) ← sendTcpMsg s.cb s.txBuf msg p
    return ({ s with txBuf }, p)

/-! ## Handling frames -/

/-- Decide a routing activation request, and answer it. The checks come in this order: the address,
the type, and who is active. -/
def handleRoutingActivation (s : Session π) (req : RoutingActivationRequest) (p : Platform π) :
    Option (TcpVerdict × Session π × Platform π) := do
  let source := req.sourceAddress
  let (code, verdict, activeTester) : RoutingActivationResponseCode × TcpVerdict × Option UInt16 :=
    if ¬ source.isValidClientAddress then
      (.deniedUnknownSourceAddress, .close, s.activeTester)
    else if ¬ (req.activationType = .default ∨ req.activationType = .regulationRequired) then
      (.deniedUnsupportedRoutingActivationType, .close, s.activeTester)
    else if s.activeTester.any (· ≠ source.value) then
      (.deniedSourceAddressAlreadyActivated, .close, s.activeTester)
    else
      (.routingSuccessfullyActivated, .keepOpen, some source.value)
  let msg ← Message.routingActivationResponse PROTOCOL_VERSION source ⟨s.ownAddress⟩ code
    (filledArray 4 0) none
  let (txBuf, p) ← sendTcpMsg s.cb s.txBuf msg p
  return (verdict, { s with activeTester, txBuf }, p)

/-- Check a diagnostic message against the activated tester and the entity's address, acknowledge
it, and dispatch its data. -/
def handleDiagnosticMessage (s : Session π) (dm : DiagnosticMessage) (p : Platform π) :
    Option (TcpVerdict × Session π × Platform π) :=
  match s.activeTester with
  | none => do
    let (s, p) ← sendDiagAck s .diagnosticMessageNegativeAcknowledge dm.sourceAddress.value
      .invalidSourceAddress p
    return (.close, s, p)
  | some tester =>
    if dm.sourceAddress.value ≠ tester then do
      let (s, p) ← sendDiagAck s .diagnosticMessageNegativeAcknowledge tester
        .invalidSourceAddress p
      return (.close, s, p)
    else if dm.targetAddress.value ≠ s.ownAddress then do
      let (s, p) ← sendDiagAck s .diagnosticMessageNegativeAcknowledge tester
        .unknownTargetAddress p
      return (.keepOpen, s, p)
    else do
      let (s, p) ← sendDiagAck s .diagnosticMessagePositiveAcknowledge tester
        .routingConfirmationAck p
      let (reported, udsRespBuf, p) := p.onUdsRequest s.cb dm.userData s.udsRespBuf
      let s := { s with udsRespBuf }
      -- a negative length is no response
      let written := reported.toInt.toNat
      if written > 0 then
        let len := min written UDS_RESP_CAP
        let data ← sliceTo s.udsRespBuf.toList len
        let msg ← Message.diagnosticMessage PROTOCOL_VERSION ⟨s.ownAddress⟩ ⟨tester⟩ data
        let (txBuf, p) ← sendTcpMsg s.cb s.txBuf msg p
        return (.keepOpen, { s with txBuf }, p)
      else
        return (.keepOpen, s, p)

/-- Handle one frame of the TCP stream. Anything but a routing activation or a diagnostic message is
refused and keeps the connection. -/
def handleTcpFrame (s : Session π) (header : Header) (payloadBytes : List UInt8)
    (p : Platform π) : Option (TcpVerdict × Session π × Platform π) :=
  match Payload.decode payloadBytes header.payloadType with
  | .ok (.routingActivationRequest req) => handleRoutingActivation s req p
  | .ok (.diagnosticMessage dm) => handleDiagnosticMessage s dm p
  | .ok _ | .error _ => do
    let (txBuf, p) ← sendTcpNack s.cb s.txBuf .unknownPayloadType p
    return (.keepOpen, { s with txBuf }, p)

/-! ## Reassembly -/

variable (π) in
/-- What the receive loop works on: the session, the reassembly buffer, and the platform. -/
structure TcpState where
  session : Session π
  rxLen : Nat
  rxBuf : U8Array TCP_RX_CAP
  platform : Platform π

/-- Send a negative acknowledgement and close the connection. The buffer keeps its bytes. -/
def rejectWith (code : NackCode) (st : TcpState π) : Option (TcpVerdict × TcpState π) := do
  let (txBuf, platform) ← sendTcpNack st.session.cb st.session.txBuf code st.platform
  return (.close, { st with session := { st.session with txBuf }, platform })

/-- Whether the buffer starts with a sound header that declares more than can ever be
reassembled. -/
def declaresTooLarge (st : TcpState π) : Option Bool :=
  if st.rxLen ≥ Header.SIZE then do
    let head ← sliceTo st.rxBuf.toList Header.SIZE
    match Header.decode head with
    | .ok (header, _) => return decide (header.payloadLength.toNat > MAX_RX_PAYLOAD)
    | .error _ => return false
  else some false

/-- The loop of `handle_tcp_bytes`, for at most `fuel` frames. A frame that closes the connection is
not removed from the buffer. -/
def handleTcpLoop : Nat → TcpState π → Option (TcpVerdict × TcpState π)
  | 0, _ => none
  | fuel + 1, st => do
    if ← declaresTooLarge st then
      rejectWith .messageTooLarge st
    else
      let received ← sliceTo st.rxBuf.toList st.rxLen
      match tryFrame received with
      | .ok none => return (.keepOpen, st)
      | .error _ => rejectWith .incorrectPatternFormat st
      | .ok (some (frame, consumed)) =>
        let (verdict, session, platform) ←
          handleTcpFrame st.session frame.header frame.payload st.platform
        let st := { st with session, platform }
        if verdict ≠ .keepOpen then
          return (verdict, st)
        else
          let rxBuf ← copyWithin st.rxBuf consumed st.rxLen
          let rxLen ← checkedSub st.rxLen consumed
          handleTcpLoop fuel { st with rxBuf, rxLen }

/-- Take a chunk into the reassembly buffer and handle the frames it completes. A chunk that does
not fit closes the connection and is lost. -/
def handleTcpBytes (st : TcpState π) (data : List UInt8) : Option (TcpVerdict × TcpState π) :=
  if st.rxLen + data.length > TCP_RX_CAP then
    rejectWith .outOfMemory st
  else do
    let rxBuf ← copyFromSlice st.rxBuf st.rxLen data
    let rxLen := st.rxLen + data.length
    handleTcpLoop (rxLen + 1) { st with rxBuf, rxLen }

/-! ## The entity's interface -/

namespace Entity

/-- An uninitialised entity: no identity, no callbacks, and zeros in all buffers. -/
def new : Entity π where
  vin := filledArray VIN_LEN 0
  eid := filledArray EID_LEN 0
  gid := filledArray GID_LEN 0
  logicalAddress := 0
  callbacks := none
  activeTester := none
  rxLen := 0
  rxBuf := filledArray TCP_RX_CAP 0
  txBuf := filledArray TX_CAP 0
  udsRespBuf := filledArray UDS_RESP_CAP 0

/-- The diagnostic TCP connection went away: the tester and the residue are forgotten, and the
buffers keep their bytes. -/
def onTcpDisconnect (e : Entity π) : Entity π :=
  { e with activeTester := none, rxLen := 0 }

/-- Adopt an identity and platform callbacks and start serving, with no tester active. -/
def init (e : Entity π) (config : EntityConfig) (callbacks : Callbacks π) : Entity π :=
  onTcpDisconnect { e with
    vin := config.vin, eid := config.eid, gid := config.gid,
    logicalAddress := config.logicalAddress, callbacks := some callbacks }

/-- Stop serving. The identity stays, and the session is reset. -/
def deinit (e : Entity π) : Entity π := onTcpDisconnect { e with callbacks := none }

/-- The announcement of this entity. A group id of zeros is none, which is written as zeros
again. -/
def vehicleAnnouncement (e : Entity π) : Option Message :=
  let groupId := if e.gid = filledArray GID_LEN 0 then none else some e.gid
  framed .vehicleAnnouncement (.vehicleAnnouncement
    { vin := e.vin, logicalAddress := ⟨e.logicalAddress⟩, entityId := e.eid, groupId,
      furtherAction := .noFurtherActionRequired, vinGidSyncStatus := .synchronized })

/-- The single-socket status of this entity: a connection counts as open while a tester is active on
it. -/
def entityStatus (e : Entity π) : Option Message :=
  framed .doIPEntityStatusResponse (.entityStatusResponse
    { nodeType := .doIPNode, maxConcurrentTcpSockets := 1,
      openTcpSockets := if e.activeTester.isSome then 1 else 0,
      maxDataSize := (u32TryFrom MAX_RX_PAYLOAD).getD (UInt32.ofNat (2 ^ 32 - 1)) })

/-- The reply of `on_udp_rx` to a datagram. A short datagram gets none. -/
def udpReply (e : Entity π) (data : List UInt8) : Option Message :=
  match tryFrame data with
  | .ok none => none
  | .error _ => framed .negativeAcknowledge (.doIPNack .incorrectPatternFormat)
  | .ok (some (frame, _)) =>
    match Payload.decode frame.payload frame.header.payloadType with
    | .ok .vehicleIdentificationRequest => e.vehicleAnnouncement
    | .ok .entityStatusRequest => e.entityStatus
    | .ok _ => none
    | .error _ => framed .negativeAcknowledge (.doIPNack .unknownPayloadType)

/-- One UDP datagram from the discovery socket. An entity that was not initialised does not
answer. -/
def onUdpRx (e : Entity π) (srcAddr : UInt32) (srcPort : UInt16) (data : List UInt8)
    (p : Platform π) : Option (Entity π × Platform π) :=
  match e.callbacks with
  | none => some (e, p)
  | some cb =>
    if data.isEmpty then some (e, p)
    else
      match e.udpReply data with
      | none => some (e, p)
      | some msg => do
        let (txBuf, p) ← sendUdpMsg cb e.txBuf srcAddr srcPort msg p
        return ({ e with txBuf }, p)

/-- The session of an initialised entity, as a TCP handler borrows it. -/
def session (e : Entity π) (cb : Callbacks π) : Session π where
  cb := cb
  ownAddress := e.logicalAddress
  activeTester := e.activeTester
  txBuf := e.txBuf
  udsRespBuf := e.udsRespBuf

/-- A chunk of the diagnostic TCP stream. An entity that was not initialised tells its platform to
close the connection. -/
def onTcpRx (e : Entity π) (data : List UInt8) (p : Platform π) :
    Option (TcpVerdict × Entity π × Platform π) :=
  match e.callbacks with
  | none => some (.close, e, p)
  | some cb =>
    if data.isEmpty then some (.keepOpen, e, p)
    else do
      let (verdict, st) ← handleTcpBytes
        { session := e.session cb, rxLen := e.rxLen, rxBuf := e.rxBuf, platform := p } data
      return (verdict,
        { e with
          activeTester := st.session.activeTester, txBuf := st.session.txBuf,
          udsRespBuf := st.session.udsRespBuf, rxLen := st.rxLen, rxBuf := st.rxBuf },
        st.platform)

end Entity

end

end

end SimpleDoip
