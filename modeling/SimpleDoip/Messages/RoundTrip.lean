import SimpleDoip.Messages.Message

/-!
# Decoding undoes encoding

`Message.frame` is the byte string a message is written as and `Message.sized` the message it is
read back as: the same one with the length and the inverse byte its encoder puts into the header.
`Constructed` are the messages the public constructors return, which carry both already.
-/

namespace SimpleDoip

section
variable {ι : Type} [WireCodec ι]

/-- The message with its header's length and inverse byte derived, as the encoder does. -/
def Message.sized (m : Message) : Message where
  header := { m.header with
    inverseProtocolVersion := m.header.protocolVersion.inverse
    payloadLength := UInt32.ofNat (bytes m.payload).length }
  payload := m.payload

/-- The bytes a message is written as: a header with the version and type of its own, the length of
the payload, and the payload. -/
def Message.frame (m : Message) : List UInt8 := bytes m.sized.header ++ bytes m.payload

@[simp] theorem Message.length_frame (m : Message) :
    m.frame.length = 8 + (bytes m.payload).length := by
  simp only [frame, List.length_append]
  rfl

theorem u32TryFrom_of_lt {n : Nat} (h : n < 2 ^ 32) : u32TryFrom n = some (UInt32.ofNat n) :=
  if_pos h

omit [WireCodec ι] in
/-- An encoder that asks a body for its size gets the length of its bytes. -/
theorem ofExcept_encodedSize {ω α : Type} [WireForm ι α] (x : α) :
    MonadExcept.ofExcept (Encode.encodedSize x) = (pure (bytes x).length : Encoder ι ω Nat) := by
  rw [WireForm.encodedSize_eq]
  rfl

/-- **Encoding a message** that fits the length field writes its frame, whatever the writer. -/
theorem Message.encode_emits {ω : Type} [Write ω] {m : Message}
    (hfit : (bytes m.payload).length < 2 ^ 32) :
    Emits (Encode.encode m : Encoder ι ω Nat) m.frame m.frame.length := by
  have hheader : Emits (Encode.encode m.sized.header : Encoder ι ω Nat) (bytes m.sized.header) 8 :=
    WireForm.encode_emits m.sized.header
  have hpayload : Emits (do return 8 + (← Encode.encode m.payload) : Encoder ι ω Nat)
      (bytes m.payload) (8 + (bytes m.payload).length) :=
    (WireForm.encode_emits m.payload).map (8 + ·)
  change Emits (MonadExcept.ofExcept _ >>= _) _ _
  rw [ofExcept_encodedSize, pure_bind, u32TryFrom_of_lt hfit, length_frame]
  exact hheader.bind hpayload

/-- A vector takes everything an encoder writes, behind what it has. -/
theorem Emits.vec {enc : Encoder ι (List UInt8) Nat} {bs : List UInt8} {n : Nat}
    (h : Emits enc bs n) (v : List UInt8) : enc v = .ok n (v ++ bs) := by
  induction h generalizing v with
  | done n => exact congrArg (EStateM.Result.ok n) (List.append_nil v).symm
  | write as _ ih =>
    change EStateM.bind _ _ v = _
    simp only [EStateM.bind, emit, io, EStateM.adaptExcept, Write.writeAll,
      WireCodec.vecWriteAll_eq, ih, List.append_assoc]

/-- A slice with room for everything an encoder writes is filled with it, and the encoder returns
its size. -/
theorem Emits.slice_fits {n size : Nat} {enc : Encoder ι (SliceWriter n) Nat} {bs : List UInt8}
    (h : Emits enc bs size) {w : SliceWriter n} (hroom : bs.length ≤ w.free.length) :
    enc w = .ok size (w.fill bs) := by
  induction h generalizing w with
  | done size => exact congrArg (EStateM.Result.ok size) w.fill_nil.symm
  | @write enc bs size as _ ih =>
    rw [List.length_append] at hroom
    have has : as.length ≤ w.free.length := by omega
    have hbs : bs.length ≤ (w.fill as).free.length := by
      rw [SliceWriter.length_free_fill]
      omega
    change EStateM.bind _ _ w = _
    simp only [EStateM.bind, emit, io, EStateM.adaptExcept, Write.writeAll,
      WireCodec.sliceWriteAll_fits has, ih hbs, SliceWriter.fill_fill has]

/-- A slice without room for everything an encoder writes makes it fail with an I/O error: at the
first write that does not fit. -/
theorem Emits.slice_short {n size : Nat} {enc : Encoder ι (SliceWriter n) Nat} {bs : List UInt8}
    (h : Emits enc bs size) {w : SliceWriter n} (hshort : w.free.length < bs.length) :
    ∃ kind w', enc w = .error (.io kind) w' := by
  induction h generalizing w with
  | done size => cases hshort
  | @write enc bs size as _ ih =>
    rw [List.length_append] at hshort
    rcases Nat.lt_or_ge w.free.length as.length with has | has
    · obtain ⟨kind, w', hwrite⟩ := WireCodec.sliceWriteAll_short (ι := ι) has
      refine ⟨kind, w', ?_⟩
      change EStateM.bind _ _ w = _
      simp only [EStateM.bind, emit, io, EStateM.adaptExcept, Write.writeAll, hwrite]
    · have hbs : (w.fill as).free.length < bs.length := by
        rw [SliceWriter.length_free_fill]
        omega
      obtain ⟨kind, w', henc⟩ := ih hbs
      refine ⟨kind, w', ?_⟩
      change EStateM.bind _ _ w = _
      simp only [EStateM.bind, emit, io, EStateM.adaptExcept, Write.writeAll,
        WireCodec.sliceWriteAll_fits has, henc]

/-- Encoding into a vector appends the frame and returns its length. -/
theorem Message.encode_vec {m : Message} (hfit : (bytes m.payload).length < 2 ^ 32)
    (w : List UInt8) : Encode.encode m w = .ok m.frame.length (w ++ m.frame) :=
  (Message.encode_emits hfit).vec w

/-- Encoding into a slice that holds the frame fills it with the frame, and leaves the slice alone
behind it. -/
theorem Message.encode_slice {n : Nat} {m : Message} (hfit : (bytes m.payload).length < 2 ^ 32)
    (buf : U8Array n) (hn : m.frame.length ≤ n) :
    (Encode.encode m : Encoder ι (SliceWriter n) Nat) (.start buf) =
      .ok m.frame.length ((SliceWriter.start buf).fill m.frame) := by
  have hroom : m.frame.length ≤ (SliceWriter.start buf).free.length := by
    rwa [show (SliceWriter.start buf).free.length = n from buf.toList_length]
  exact (Message.encode_emits hfit).slice_fits hroom

/-- A message whose payload overruns the length field is refused before a byte is written. -/
theorem Message.encode_tooLarge {ω : Type} [Write ω] {m : Message}
    (h : 2 ^ 32 ≤ (bytes m.payload).length) (w : ω) :
    (Encode.encode m : Encoder ι ω Nat) w =
      .error (.payloadTooLarge (bytes m.payload).length) w := by
  have hnone : u32TryFrom (bytes m.payload).length = none := if_neg (Nat.not_lt.mpr h)
  show (MonadExcept.ofExcept _ >>= _ : Encoder ι ω Nat) w = _
  rw [ofExcept_encodedSize, pure_bind, hnone]
  rfl

/-! ## Well-formed messages -/

/-- A message whose payload belongs to its type, whose codes are ones a decoder can produce, and
whose payload fits the length field. -/
structure Message.WellFormed (m : Message) : Prop where
  carries : m.header.payloadType.carries m.payload = true
  version : InImage m.header.protocolVersion
  payloadType : InImage m.header.payloadType
  payload : m.payload.WellFormed
  fits : (bytes m.payload).length < 2 ^ 32

/-- Decoding a frame gives the sized message and leaves what follows alone. Sizing is what encoding
does to a header. -/
theorem Message.decode_frame {m : Message} (h : m.WellFormed) (tail : List UInt8) :
    Message.decode (m.frame ++ tail) = .ok (m.sized, tail) := by
  have hhead := Header.decode_bytes (h := m.sized.header) h.version h.payloadType rfl
    (bytes m.payload ++ tail)
  have hlen : m.sized.header.payloadLength.toNat = (bytes m.payload).length :=
    UInt32.toNat_ofNat_of_lt' h.fits
  have hbody : Payload.decode (bytes m.payload) m.sized.header.payloadType = .ok m.payload :=
    Payload.decode_bytes h.carries h.payload
  simp only [Message.decode, frame, List.append_assoc, hhead, ok_bind, hlen,
    WireCodec.take_append, incomplete_ok, hbody]
  rfl

/-! ## The public constructors -/

/-- What a payload decodes as: the directed vehicle identification reply has no payload type of its
own and comes back as the announcement with the same fields. -/
def Payload.asDecoded : Payload → Payload
  | .vehicleIdentificationResponse response => .vehicleAnnouncement response
  | p => p

theorem Payload.bytes_asDecoded (p : Payload) : bytes p.asDecoded = bytes p := by
  cases p <;> rfl

/-- The message with the payload it decodes as, which is another variant for a vehicle
identification response. -/
def Message.asDecoded (m : Message) : Message := { m with payload := m.payload.asDecoded }

/-- A message returned by one of the public constructors of `Message` and `OwnedMessage`, with
every code argument one a decoder can produce. -/
inductive Message.Constructed : Message → Prop where
  | aliveCheckRequest {v} (hv : InImage v) : Constructed (Message.aliveCheckRequest v)
  | aliveCheckResponse {v a} (hv : InImage v) : Constructed (Message.aliveCheckResponse v a)
  | diagnosticMessage {v s t data m} (hv : InImage v)
      (h : Message.diagnosticMessage v s t data = some m) : Constructed m
  | diagnosticMessageAck {v s t code data m} (hv : InImage v) (hc : InImage code)
      (h : Message.diagnosticMessageAck v s t code data = some m) : Constructed m
  | routingActivationRequest {v s type oem m} (hv : InImage v) (ht : InImage type)
      (h : Message.routingActivationRequest v s type oem = some m) : Constructed m
  | routingActivationResponse {v t e code reserved oem m} (hv : InImage v) (hc : InImage code)
      (h : Message.routingActivationResponse v t e code reserved oem = some m) : Constructed m
  | ownedAliveCheckRequest {v} (hv : InImage v) : Constructed (OwnedMessage.aliveCheckRequest v)
  | ownedAliveCheckResponse {v a} (hv : InImage v) :
      Constructed (OwnedMessage.aliveCheckResponse v a)
  | ownedDiagnosticMessage {v s t data m} (hv : InImage v)
      (h : OwnedMessage.diagnosticMessage v s t data = some m) : Constructed m
  | ownedDiagnosticMessageAck {v s t code data m} (hv : InImage v) (hc : InImage code)
      (h : OwnedMessage.diagnosticMessageAck v s t code data = some m) : Constructed m
  | ownedRoutingActivationRequest {v s type oem m} (hv : InImage v) (ht : InImage type)
      (h : OwnedMessage.routingActivationRequest v s type oem = some m) : Constructed m
  | ownedRoutingActivationResponse {v t e code reserved oem m} (hv : InImage v)
      (hc : InImage code)
      (h : OwnedMessage.routingActivationResponse v t e code reserved oem = some m) : Constructed m
  | vehicleIdentificationResponse {v r m} (hv : InImage v) (hr : r.WellFormed)
      (h : OwnedMessage.vehicleIdentificationResponse v r = some m) : Constructed m

omit [WireCodec ι] in
/-- A body that can be sized has its length as payload length, and fits the length field. -/
theorem payloadLen_eq_some {α : Type} [WireForm ι α] {x : α} {n : UInt32}
    (h : payloadLen x = some n) :
    (bytes x).length < 2 ^ 32 ∧ n = UInt32.ofNat (bytes x).length := by
  simp only [payloadLen, WireForm.encodedSize_eq, u32TryFrom] at h
  split at h
  · next hlt => exact ⟨hlt, (Option.some.inj h).symm⟩
  · cases h

/-- What the constructors establish, and all the round trip needs of them: codes in the image, and a
header that fits the payload. -/
structure Message.Consistent (m : Message) : Prop where
  wellFormed : m.asDecoded.WellFormed
  sized : m.sized = m

/-- A constructor that sizes its body builds a consistent message, if its own codes are in the
image. -/
theorem Message.consistent_of_payloadLen {α : Type} [WireForm ι α] {x : α} {n : UInt32}
    {v : ProtocolVersion} {t : PayloadType} {p : Payload} (hn : payloadLen x = some n)
    (hx : bytes x = bytes p) (hv : InImage v) (ht : InImage t)
    (hc : t.carries p.asDecoded = true) (hp : p.asDecoded.WellFormed) :
    Message.Consistent ⟨Header.new v t n, p⟩ := by
  obtain ⟨hlt, rfl⟩ := payloadLen_eq_some hn
  refine ⟨⟨hc, hv, ht, hp, ?_⟩, ?_⟩
  · change (bytes p.asDecoded).length < _
    rwa [Payload.bytes_asDecoded, ← hx]
  · rw [hx]
    rfl

/-- Every constructor builds a consistent message. The codes it is given have to be in the image,
which `Constructed` asks for. -/
theorem Message.Constructed.consistent {m : Message} (h : m.Constructed) : m.Consistent := by
  cases h with
  | aliveCheckRequest hv | ownedAliveCheckRequest hv =>
    exact ⟨⟨rfl, hv, ⟨0x0007, rfl⟩, trivial, show 0 < 2 ^ 32 by decide⟩, rfl⟩
  | aliveCheckResponse hv | ownedAliveCheckResponse hv =>
    exact ⟨⟨rfl, hv, ⟨0x0008, rfl⟩, trivial, show 2 < 2 ^ 32 by decide⟩, rfl⟩
  | diagnosticMessage hv h | ownedDiagnosticMessage hv h =>
    obtain ⟨n, hn, ⟨⟩⟩ := Option.bind_eq_some_iff.mp h
    exact consistent_of_payloadLen hn rfl hv ⟨0x8001, rfl⟩ rfl trivial
  | diagnosticMessageAck hv hc h | ownedDiagnosticMessageAck hv hc h =>
    obtain ⟨n, hn, ⟨⟩⟩ := Option.bind_eq_some_iff.mp h
    exact consistent_of_payloadLen hn rfl hv ⟨0x8002, rfl⟩ rfl hc
  | routingActivationRequest hv ht h | ownedRoutingActivationRequest hv ht h =>
    obtain ⟨n, hn, ⟨⟩⟩ := Option.bind_eq_some_iff.mp h
    exact consistent_of_payloadLen hn rfl hv ⟨0x0005, rfl⟩ rfl ht
  | routingActivationResponse hv hc h | ownedRoutingActivationResponse hv hc h =>
    obtain ⟨n, hn, ⟨⟩⟩ := Option.bind_eq_some_iff.mp h
    exact consistent_of_payloadLen hn rfl hv ⟨0x0006, rfl⟩ rfl hc
  | vehicleIdentificationResponse hv hr h =>
    unfold OwnedMessage.vehicleIdentificationResponse at h
    obtain ⟨n, hn, ⟨⟩⟩ := Option.bind_eq_some_iff.mp h
    exact consistent_of_payloadLen hn rfl hv ⟨0x0004, rfl⟩ rfl hr

/-! ## The round trip -/

/-- Encoding `m` succeeds, and what it appends to a vector is `e`, whatever the vector had
before. -/
def Message.EncodesAs (m : Message) (e : List UInt8) : Prop :=
  ∀ w : List UInt8, Encode.encode m w = .ok e.length (w ++ e)

/-- **Decode undoes encode.** A well-formed message is encoded to bytes that decode, whatever
follows them, to the message with its length and inverse byte made consistent. A constructed
message is consistent already and comes back as it is, the directed vehicle identification reply
as an announcement. -/
theorem message_round_trip :
    (∀ m : Message, m.WellFormed → ∃ size e,
      Encode.encodedSize m.payload = .ok size ∧ size < 2 ^ 32 ∧ m.EncodesAs e ∧
      ∀ tail, Message.decode (e ++ tail) =
        .ok ({ m with header := { m.header with
                 inverseProtocolVersion := m.header.protocolVersion.inverse
                 payloadLength := UInt32.ofNat size } }, tail)) ∧
    (∀ m : Message, m.Constructed → ∃ size e,
      Encode.encodedSize m.payload = .ok size ∧ m.header.payloadLength.toNat = size ∧
      m.header.inverseProtocolVersion = m.header.protocolVersion.inverse ∧ m.EncodesAs e ∧
      ∀ tail, Message.decode (e ++ tail) = .ok (m.asDecoded, tail)) := by
  refine ⟨fun m h => ?_, fun m h => ?_⟩
  · exact ⟨_, m.frame, WireForm.encodedSize_eq _, h.fits, Message.encode_vec h.fits,
      Message.decode_frame h⟩
  · obtain ⟨hw, hs⟩ := h.consistent
    have hbytes : bytes m.asDecoded.payload = bytes m.payload := Payload.bytes_asDecoded _
    have hfits : (bytes m.payload).length < 2 ^ 32 := hbytes ▸ hw.fits
    have hlen : m.header.payloadLength.toNat = (bytes m.payload).length := by
      rw [← hs]
      exact UInt32.toNat_ofNat_of_lt' hfits
    -- the decoded variant has the same frame and is already sized
    have hframe : m.asDecoded.frame = m.frame := by
      simp only [Message.frame, Message.sized, hbytes]
      rfl
    have hsized : m.asDecoded.sized = m.asDecoded := by
      have := congrArg Message.header hs
      simp only [Message.sized, hbytes] at this ⊢
      simp only [Message.asDecoded, this]
    have hinv : m.header.inverseProtocolVersion = m.header.protocolVersion.inverse := by
      conv_lhs => rw [← hs]
      rfl
    refine ⟨_, m.frame, WireForm.encodedSize_eq _, hlen, hinv, Message.encode_vec hfits,
      fun tail => ?_⟩
    rw [← hframe, Message.decode_frame hw, hsized]

end

/-- A diagnostic message with a wrong length and inverse byte comes back with both repaired, and a
constructed alive check response as it is. -/
theorem message_round_trip_diagnostic :
    letI := plainWire
    let payload : Payload := .diagnosticMessage ⟨⟨0x0E00⟩, ⟨0x1000⟩, [0x22, 0xF1, 0x90]⟩
    let alive : Message := Message.aliveCheckResponse .v2012 ⟨0x0E00⟩
    (∃ e, Message.EncodesAs ⟨⟨.v2012, 0x00, .diagnosticMessage, 0⟩, payload⟩ e ∧
      Message.decode (e ++ [0x02]) =
        .ok (⟨⟨.v2012, 0xFD, .diagnosticMessage, 7⟩, payload⟩, [0x02])) ∧
    ∃ e, alive.EncodesAs e ∧ Message.decode (e ++ [0x02]) = .ok (alive, [0x02]) := by
  let := plainWire
  constructor
  · obtain ⟨size, e, hsize, -, he, hd⟩ := message_round_trip.1
      ⟨⟨.v2012, 0x00, .diagnosticMessage, 0⟩,
        .diagnosticMessage ⟨⟨0x0E00⟩, ⟨0x1000⟩, [0x22, 0xF1, 0x90]⟩⟩
      ⟨rfl, ⟨0x02, rfl⟩, ⟨0x8001, rfl⟩, trivial, by decide⟩
    cases hsize
    exact ⟨e, he, hd _⟩
  · obtain ⟨size, e, -, -, -, he, hd⟩ := message_round_trip.2
      (Message.aliveCheckResponse .v2012 ⟨0x0E00⟩) (.aliveCheckResponse ⟨0x02, rfl⟩)
    exact ⟨e, he, hd _⟩

end SimpleDoip
