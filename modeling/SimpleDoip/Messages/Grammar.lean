import SimpleDoip.Lib.Reader
import SimpleDoip.Messages.Reencode

/-!
# The grammar of payloads

A payload type fixes how many bytes its body needs, and whether it can be decoded at all. Each field
reader needs as many bytes as the field has, so each body decoder needs the sum of its fields
(`Reader.Needs`), and `Payload.decode_needs` puts them together: a payload is decoded exactly if
its type is supported and its body is long enough. What a body has behind its fixed part does not
matter.
-/

namespace SimpleDoip

open Reader

/-- Whether payloads of this type are decoded: there is no variant for the power mode request, and
none for the reserved values. -/
def PayloadType.supported : PayloadType → Bool
  | .diagnosticPowerModeInfoRequest | .reserved _ | .reservedVehicleManufacturer _ => false
  | _ => true

/-- The number of bytes the body of a payload type has at least: the sum of its fields that are not
optional. -/
def PayloadType.minimum : PayloadType → Nat
  | .negativeAcknowledge => 1
  | .vehicleAnnouncement => 33
  | .routingActivationRequest => 7
  | .routingActivationResponse => 9
  | .aliveCheckResponse => 2
  | .doIPEntityStatusResponse => 7
  | .diagnosticPowerModeInfoResponse => 1
  | .diagnosticMessage => 4
  | .diagnosticMessagePositiveAcknowledge => 5
  | _ => 0

section
variable {ι : Type}

/-- The error of a decoder that ran out of input, which is framing-fatal. -/
def MessageError.IsIncomplete (e : MessageError ι) : Prop := ∃ i, e = .incomplete i

/-- A reader behind `?`, by what it does on short and on long input. This is what the fields of a
body are put together from. -/
theorem takes_incomplete {α : Type} {n : Nat} {buf : List UInt8}
    {read : Except ι (α × List UInt8)}
    (hshort : buf.length < n → ∃ e, read = .error e)
    (hlong : n ≤ buf.length → ∃ a rest, read = .ok (a, rest) ∧ rest.length + n = buf.length) :
    Takes MessageError.IsIncomplete n buf.length (incomplete read) where
  short hlen := by
    obtain ⟨e, he⟩ := hshort hlen
    exact ⟨_, ⟨e, rfl⟩, by rw [he]; rfl⟩
  long hlen := by
    obtain ⟨a, rest, hread, hrest⟩ := hlong hlen
    exact ⟨(a, rest), hrest, by rw [hread]; rfl⟩

variable [WireCodec ι]

/-! ## The fields -/

theorem takes_readU8 (buf : List UInt8) :
    Takes (MessageError.IsIncomplete (ι := ι)) 1 buf.length
      (incomplete (WireCodec.readU8 buf)) := by
  cases buf with
  | nil => exact takes_incomplete (fun _ => WireCodec.readU8_short) (fun h => absurd h (by simp))
  | cons b rest =>
    refine takes_incomplete (fun h => absurd h (by simp)) fun _ => ?_
    exact ⟨b, rest, WireCodec.readU8_cons b rest, rfl⟩

theorem takes_readU16Be (buf : List UInt8) :
    Takes (MessageError.IsIncomplete (ι := ι)) 2 buf.length
      (incomplete (WireCodec.readU16Be buf)) := by
  refine takes_incomplete (WireCodec.readU16Be_short buf) fun hlen => ?_
  obtain ⟨x, rest, rfl⟩ := exists_u16Be_append hlen
  exact ⟨x, rest, WireCodec.readU16Be_append x rest, by simp; omega⟩

theorem takes_readU32Be (buf : List UInt8) :
    Takes (MessageError.IsIncomplete (ι := ι)) 4 buf.length
      (incomplete (WireCodec.readU32Be buf)) := by
  refine takes_incomplete (WireCodec.readU32Be_short buf) fun hlen => ?_
  obtain ⟨x, rest, rfl⟩ := exists_u32Be_append hlen
  exact ⟨x, rest, WireCodec.readU32Be_append x rest, by simp [u32Be]⟩

theorem takes_readArray (n : Nat) (buf : List UInt8) :
    Takes (MessageError.IsIncomplete (ι := ι)) n buf.length
      (incomplete (WireCodec.readArray n buf)) := by
  refine takes_incomplete (WireCodec.readArray_short n buf) fun hlen => ?_
  obtain ⟨v, rest, rfl⟩ := exists_array_append hlen
  exact ⟨v, rest, WireCodec.readArray_append n v rest, by simp; omega⟩

theorem takes_take (n : Nat) (buf : List UInt8) :
    Takes (MessageError.IsIncomplete (ι := ι)) n buf.length
      (incomplete (WireCodec.take buf n)) := by
  refine takes_incomplete (WireCodec.take_short buf n) fun hlen => ?_
  have htake := WireCodec.take_append (ι := ι) (buf.take n) (buf.drop n)
  rw [List.take_append_drop, List.length_take_of_le hlen] at htake
  exact ⟨_, _, htake, by rw [List.length_drop]; omega⟩

/-- Fewer than eight bytes are no header, whatever they say about the version. -/
theorem Header.decode_short {buf : List UInt8} (h : buf.length < 8) :
    ∃ e, MessageError.IsIncomplete (ι := ι) e ∧ Header.decode buf = .error e := by
  refine (takes_readU8 buf).bind_short (m := 7) (fun _ rest => ?_) h
  refine (takes_readU8 rest).bind_short (m := 6) fun _ rest => ?_
  refine (takes_readU16Be rest).bind_short (m := 4) fun _ rest => ?_
  exact (takes_readU32Be rest).bind_short (m := 0) fun _ _ h => absurd h (Nat.not_lt_zero _)

/-! ## The bodies -/

/-- A body decoder that needs `n` bytes: it fails as incomplete on fewer, and succeeds on any
others. -/
def BodyNeeds {α : Type} (n : Nat)
    (decode : List UInt8 → Except (MessageError ι) (α × List UInt8)) : Prop :=
  ∀ buf, Needs MessageError.IsIncomplete (fun _ => True) n buf.length (decode buf)

theorem NackCode.needs : BodyNeeds (ι := ι) 1 NackCode.decode := by
  intro buf
  refine (takes_readU8 buf).bind (m := 0) fun _ _ => ?_
  exact .ok trivial

theorem DiagnosticPowerModeCode.needs :
    BodyNeeds (ι := ι) 1 DiagnosticPowerModeCode.decode := by
  intro buf
  refine (takes_readU8 buf).bind (m := 0) fun _ _ => ?_
  exact .ok trivial

theorem AliveCheckResponse.needs : BodyNeeds (ι := ι) 2 AliveCheckResponse.decode := by
  intro buf
  refine (takes_readU16Be buf).bind (m := 0) fun _ _ => ?_
  exact .ok trivial

theorem DiagnosticMessage.needs : BodyNeeds (ι := ι) 4 DiagnosticMessage.decode := by
  intro buf
  refine (takes_readU16Be buf).bind (m := 2) fun _ rest => ?_
  refine (takes_readU16Be rest).bind (m := 0) fun _ _ => ?_
  exact .ok trivial

theorem DiagnosticMessageAck.needs : BodyNeeds (ι := ι) 5 DiagnosticMessageAck.decode := by
  intro buf
  refine (takes_readU16Be buf).bind (m := 3) fun _ rest => ?_
  refine (takes_readU16Be rest).bind (m := 1) fun _ rest => ?_
  refine (takes_readU8 rest).bind (m := 0) fun _ _ => ?_
  exact .ok trivial

theorem EntityStatusResponse.needs : BodyNeeds (ι := ι) 7 EntityStatusResponse.decode := by
  intro buf
  refine (takes_readU8 buf).bind (m := 6) fun _ rest => ?_
  refine (takes_readU8 rest).bind (m := 5) fun _ rest => ?_
  refine (takes_readU8 rest).bind (m := 4) fun _ rest => ?_
  refine (takes_readU32Be rest).bind (m := 0) fun _ _ => ?_
  exact .ok trivial

/-- The optional tail of a routing activation is not needed, and what there is of it is not an
error. -/
theorem RoutingActivationRequest.needs :
    BodyNeeds (ι := ι) 7 RoutingActivationRequest.decode := by
  intro buf
  refine (takes_readU16Be buf).bind (m := 5) fun _ rest => ?_
  refine (takes_readU8 rest).bind (m := 4) fun _ rest => ?_
  refine (takes_readArray 4 rest).bind (m := 0) fun _ _ => ?_
  exact .ok trivial

theorem RoutingActivationResponse.needs :
    BodyNeeds (ι := ι) 9 RoutingActivationResponse.decode := by
  intro buf
  refine (takes_readU16Be buf).bind (m := 7) fun _ rest => ?_
  refine (takes_readU16Be rest).bind (m := 5) fun _ rest => ?_
  refine (takes_readU8 rest).bind (m := 4) fun _ rest => ?_
  refine (takes_readArray 4 rest).bind (m := 0) fun _ _ => ?_
  exact .ok trivial

theorem VehicleIdentificationResponse.needs :
    BodyNeeds (ι := ι) 33 VehicleIdentificationResponse.decode := by
  intro buf
  refine (takes_readArray 17 buf).bind (m := 16) fun _ rest => ?_
  refine (takes_readU16Be rest).bind (m := 14) fun _ rest => ?_
  refine (takes_readArray 6 rest).bind (m := 8) fun _ rest => ?_
  refine (takes_readArray 6 rest).bind (m := 2) fun _ rest => ?_
  refine (takes_readU8 rest).bind (m := 1) fun _ rest => ?_
  refine (takes_readU8 rest).bind (m := 0) fun _ _ => ?_
  exact .ok trivial

/-! ## The payload -/

/-- **The grammar**: a supported payload needs the minimum of its type, and nothing else can be
wrong with it. -/
theorem Payload.decode_needs {t : PayloadType} (ht : t.supported = true) (buf : List UInt8) :
    Needs (MessageError.IsIncomplete (ι := ι)) (fun _ => True) t.minimum buf.length
      (Payload.decode buf t) := by
  cases t with
  | diagnosticPowerModeInfoRequest | reserved | reservedVehicleManufacturer =>
    cases ht
  | negativeAcknowledge => exact (NackCode.needs buf).map _
  | vehicleAnnouncement => exact (VehicleIdentificationResponse.needs buf).map _
  | routingActivationRequest => exact (RoutingActivationRequest.needs buf).map _
  | routingActivationResponse => exact (RoutingActivationResponse.needs buf).map _
  | aliveCheckResponse => exact (AliveCheckResponse.needs buf).map _
  | doIPEntityStatusResponse => exact (EntityStatusResponse.needs buf).map _
  | diagnosticPowerModeInfoResponse => exact (DiagnosticPowerModeCode.needs buf).map _
  | diagnosticMessage => exact (DiagnosticMessage.needs buf).map _
  | diagnosticMessagePositiveAcknowledge => exact (DiagnosticMessageAck.needs buf).map _
  -- the types without a body
  | _ => exact .ok trivial

example : ([0x0000, 0x0004, 0x0005, 0x0006, 0x0008, 0x4002, 0x4004, 0x8001, 0x8002, 0x8003].map
    fun code => (PayloadType.ofU16 code).minimum) = [1, 33, 7, 9, 2, 7, 1, 4, 5, 0] := by
  decide

theorem Payload.decode_unsupported {t : PayloadType} (ht : t.supported = false) (buf : List UInt8) :
    Payload.decode (ι := ι) buf t = .error (.unsupportedPayloadType t) := by
  cases t with
  | diagnosticPowerModeInfoRequest | reserved | reservedVehicleManufacturer => rfl
  | _ => cases ht

theorem Payload.decode_ok_iff (t : PayloadType) (p : List UInt8) :
    (∃ payload, Payload.decode (ι := ι) p t = .ok payload) ↔
      t.supported = true ∧ t.minimum ≤ p.length := by
  cases ht : t.supported with
  | true => simp [(Payload.decode_needs (ι := ι) ht p).ok_iff]
  | false => simp [Payload.decode_unsupported (ι := ι) ht p]

/-- There are two ways to fail: the type is not supported, or the body is shorter than the minimum
of its type. -/
theorem Payload.decode_error_cases {t : PayloadType} {p : List UInt8} {e : MessageError ι}
    (h : Payload.decode p t = .error e) :
    t.supported = false ∧ e = .unsupportedPayloadType t ∨ t.supported = true ∧ e.IsIncomplete := by
  cases ht : t.supported with
  | true =>
    have hneeds := Payload.decode_needs (ι := ι) ht p
    obtain ⟨e', he', hresult⟩ := hneeds.short (hneeds.error_iff.mp ⟨e, h⟩)
    cases h.symm.trans hresult
    exact .inr ⟨rfl, he'⟩
  | false =>
    cases h.symm.trans (Payload.decode_unsupported ht p)
    exact .inl ⟨rfl, rfl⟩

theorem Payload.decode_incomplete_iff (t : PayloadType) (p : List UInt8) :
    (∃ e, Payload.decode (ι := ι) p t = .error (.incomplete e)) ↔
      t.supported = true ∧ p.length < t.minimum := by
  cases ht : t.supported with
  | true =>
    have hneeds := Payload.decode_needs (ι := ι) ht p
    constructor
    · rintro ⟨e, herror⟩
      exact ⟨rfl, hneeds.error_iff.mp ⟨_, herror⟩⟩
    · rintro ⟨-, hlen⟩
      obtain ⟨e, ⟨i, rfl⟩, he⟩ := hneeds.short hlen
      exact ⟨i, he⟩
  | false => simp [Payload.decode_unsupported (ι := ι) ht p]

theorem Payload.decode_unsupported_iff (t : PayloadType) (p : List UInt8) :
    (∃ t', Payload.decode (ι := ι) p t = .error (.unsupportedPayloadType t')) ↔
      t.supported = false := by
  constructor
  · rintro ⟨t', herror⟩
    rcases Payload.decode_error_cases herror with ⟨ht, -⟩ | ⟨-, i, hi⟩
    · exact ht
    · cases hi
  · exact fun ht => ⟨t, Payload.decode_unsupported ht p⟩

end

end SimpleDoip
