import SimpleDoip.Messages.RoundTrip

/-!
# Re-encoding a decoded frame

A decoder may read less than a frame declares, so encoding what it returned need not give the frame
back. Each reader and each body decoder is inverted here: what it returned stands at the front of
what it was given. The one field a decoder does not keep is the all-ones group id of a vehicle
announcement. `reencoding_normalises` puts this together: re-encoding drops what no decoder reads,
makes the length agree, and changes nothing else.
-/

namespace SimpleDoip

section
variable {ι : Type} [WireCodec ι]

/-! ## What a reader accepted -/

omit [WireCodec ι] in
/-- A field read behind `?`, with what was done with it: the decoder succeeded, so that the field
was there. -/
theorem exists_of_incomplete_bind {α β : Type} {r : Except ι α} {f : α → Except (MessageError ι) β}
    {b : β} (h : incomplete r >>= f = .ok b) : ∃ a, r = .ok a ∧ f a = .ok b := by
  cases r with
  | error e => cases h
  | ok a => exact ⟨a, rfl, h⟩

theorem readU8_inv {buf rest : List UInt8} {x : UInt8}
    (h : WireCodec.readU8 (ι := ι) buf = .ok (x, rest)) : buf = x :: rest := by
  cases buf with
  | nil =>
    obtain ⟨e, he⟩ := WireCodec.readU8_short (ι := ι)
    rw [he] at h
    cases h
  | cons y ys =>
    rw [WireCodec.readU8_cons] at h
    cases h
    rfl

/-- Two bytes are always those of a `u16`, so that a field can be named after it was read. -/
theorem exists_u16Be_append {buf : List UInt8} (h : 2 ≤ buf.length) :
    ∃ x rest, buf = u16Be x ++ rest := by
  match buf, h with
  | hi :: lo :: rest, _ => exact ⟨ofU16Be hi lo, rest, by rw [u16Be_ofU16Be]; rfl⟩

theorem readU16Be_inv {buf rest : List UInt8} {x : UInt16}
    (h : WireCodec.readU16Be (ι := ι) buf = .ok (x, rest)) : buf = u16Be x ++ rest := by
  by_cases hs : buf.length < 2
  · obtain ⟨e, he⟩ := WireCodec.readU16Be_short (ι := ι) buf hs
    rw [he] at h
    cases h
  · obtain ⟨y, tail, rfl⟩ := exists_u16Be_append (Nat.le_of_not_lt hs)
    rw [WireCodec.readU16Be_append] at h
    cases h
    rfl

/-- Four bytes are always those of a `u32`, so that a field can be named after it was read. -/
theorem exists_u32Be_append {buf : List UInt8} (h : 4 ≤ buf.length) :
    ∃ x rest, buf = u32Be x ++ rest := by
  match buf, h with
  | a :: b :: c :: d :: rest, _ => exact ⟨ofU32Be a b c d, rest, by rw [u32Be_ofU32Be]; rfl⟩

theorem readU32Be_inv {buf rest : List UInt8} {x : UInt32}
    (h : WireCodec.readU32Be (ι := ι) buf = .ok (x, rest)) : buf = u32Be x ++ rest := by
  by_cases hs : buf.length < 4
  · obtain ⟨e, he⟩ := WireCodec.readU32Be_short (ι := ι) buf hs
    rw [he] at h
    cases h
  · obtain ⟨y, tail, rfl⟩ := exists_u32Be_append (Nat.le_of_not_lt hs)
    rw [WireCodec.readU32Be_append] at h
    cases h
    rfl

/-- A list that is long enough starts with an array, so that a field can be named after it was
read. -/
theorem exists_array_append {n : Nat} {buf : List UInt8} (h : n ≤ buf.length) :
    ∃ (v : U8Array n) (rest : List UInt8), buf = v.toList ++ rest :=
  ⟨takeArray n buf h, buf.drop n, (List.take_append_drop n buf).symm⟩

theorem readArray_inv {n : Nat} {buf rest : List UInt8} {v : U8Array n}
    (h : WireCodec.readArray (ι := ι) n buf = .ok (v, rest)) : buf = v.toList ++ rest := by
  by_cases hs : buf.length < n
  · obtain ⟨e, he⟩ := WireCodec.readArray_short (ι := ι) n buf hs
    rw [he] at h
    cases h
  · obtain ⟨w, tail, rfl⟩ := exists_array_append (Nat.le_of_not_lt hs)
    rw [WireCodec.readArray_append] at h
    cases h
    rfl

theorem readOptionalArray_inv {n : Nat} {buf rest : List UInt8} {o : Option (U8Array n)}
    (h : WireCodec.readOptionalArray (ι := ι) n buf = (o, rest)) :
    buf = optionalBytes o ++ rest := by
  by_cases hs : buf.length < n
  · rw [WireCodec.readOptionalArray_short n buf hs] at h
    cases h
    rfl
  · obtain ⟨w, tail, rfl⟩ := exists_array_append (Nat.le_of_not_lt hs)
    rw [WireCodec.readOptionalArray_append] at h
    cases h
    rfl

theorem take_inv {n : Nat} {buf xs rest : List UInt8}
    (h : WireCodec.take (ι := ι) buf n = .ok (xs, rest)) : buf = xs ++ rest ∧ xs.length = n := by
  by_cases hs : buf.length < n
  · obtain ⟨e, he⟩ := WireCodec.take_short (ι := ι) buf n hs
    rw [he] at h
    cases h
  · have hlen : (buf.take n).length = n := List.length_take_of_le (Nat.le_of_not_lt hs)
    have ht := WireCodec.take_append (ι := ι) (buf.take n) (buf.drop n)
    rw [List.take_append_drop, hlen, h] at ht
    cases ht
    exact ⟨(List.take_append_drop n buf).symm, hlen⟩

/-! ## What a body decoder accepted -/

theorem NackCode.decode_inv {buf rest : List UInt8} {code : NackCode}
    (h : NackCode.decode (ι := ι) buf = .ok (code, rest)) :
    InImage code ∧ buf = bytes code ++ rest := by
  obtain ⟨⟨value, tail⟩, hv, h⟩ := exists_of_incomplete_bind h
  cases h
  refine ⟨⟨value, rfl⟩, ?_⟩
  rw [readU8_inv hv]
  exact congrArg (· :: rest) (WireCode.toWire_ofWire (κ := NackCode) value).symm

theorem DiagnosticPowerModeCode.decode_inv {buf rest : List UInt8}
    {code : DiagnosticPowerModeCode}
    (h : DiagnosticPowerModeCode.decode (ι := ι) buf = .ok (code, rest)) :
    InImage code ∧ buf = bytes code ++ rest := by
  obtain ⟨⟨value, tail⟩, hv, h⟩ := exists_of_incomplete_bind h
  cases h
  refine ⟨⟨value, rfl⟩, ?_⟩
  rw [readU8_inv hv]
  exact congrArg (· :: rest) (WireCode.toWire_ofWire (κ := DiagnosticPowerModeCode) value).symm

theorem AliveCheckResponse.decode_inv {buf rest : List UInt8} {r : AliveCheckResponse}
    (h : AliveCheckResponse.decode (ι := ι) buf = .ok (r, rest)) : buf = bytes r ++ rest := by
  obtain ⟨⟨source, tail⟩, hs, h⟩ := exists_of_incomplete_bind h
  cases h
  exact readU16Be_inv hs

theorem DiagnosticMessage.decode_inv {buf rest : List UInt8} {m : DiagnosticMessage}
    (h : DiagnosticMessage.decode (ι := ι) buf = .ok (m, rest)) : buf = bytes m := by
  obtain ⟨⟨source, r₁⟩, hs, h⟩ := exists_of_incomplete_bind h
  obtain ⟨⟨target, r₂⟩, ht, h⟩ := exists_of_incomplete_bind h
  cases h
  rw [readU16Be_inv hs, readU16Be_inv ht]
  rfl

theorem DiagnosticMessageAck.decode_inv {buf rest : List UInt8} {a : DiagnosticMessageAck}
    (h : DiagnosticMessageAck.decode (ι := ι) buf = .ok (a, rest)) :
    InImage a.ackCode ∧ buf = bytes a := by
  obtain ⟨⟨source, r₁⟩, hs, h⟩ := exists_of_incomplete_bind h
  obtain ⟨⟨target, r₂⟩, ht, h⟩ := exists_of_incomplete_bind h
  obtain ⟨⟨code, r₃⟩, hc, h⟩ := exists_of_incomplete_bind h
  cases h
  refine ⟨⟨code, rfl⟩, ?_⟩
  have hcode : (DiagnosticAckCode.ofU8 code).toU8 = code :=
    WireCode.toWire_ofWire (κ := DiagnosticAckCode) code
  rw [readU16Be_inv hs, readU16Be_inv ht, readU8_inv hc]
  simp only [bytes, hcode]

theorem EntityStatusResponse.decode_inv {buf rest : List UInt8} {r : EntityStatusResponse}
    (h : EntityStatusResponse.decode (ι := ι) buf = .ok (r, rest)) :
    InImage r.nodeType ∧ buf = bytes r ++ rest := by
  obtain ⟨⟨node, r₁⟩, h₁, h⟩ := exists_of_incomplete_bind h
  obtain ⟨⟨max, r₂⟩, h₂, h⟩ := exists_of_incomplete_bind h
  obtain ⟨⟨opened, r₃⟩, h₃, h⟩ := exists_of_incomplete_bind h
  obtain ⟨⟨size, r₄⟩, h₄, h⟩ := exists_of_incomplete_bind h
  cases h
  refine ⟨⟨node, rfl⟩, ?_⟩
  have hnode : (EntityStatusNodeType.ofU8 node).toU8 = node :=
    WireCode.toWire_ofWire (κ := EntityStatusNodeType) node
  rw [readU8_inv h₁, readU8_inv h₂, readU8_inv h₃, readU32Be_inv h₄]
  simp only [bytes, hnode, List.cons_append]

theorem RoutingActivationRequest.decode_inv {buf rest : List UInt8} {r : RoutingActivationRequest}
    (h : RoutingActivationRequest.decode (ι := ι) buf = .ok (r, rest)) :
    InImage r.activationType ∧ buf = bytes r ++ rest := by
  obtain ⟨⟨source, r₁⟩, h₁, h⟩ := exists_of_incomplete_bind h
  obtain ⟨⟨type, r₂⟩, h₂, h⟩ := exists_of_incomplete_bind h
  obtain ⟨⟨reserved, r₃⟩, h₃, h⟩ := exists_of_incomplete_bind h
  rcases h₄ : WireCodec.readOptionalArray (ι := ι) 4 r₃ with ⟨oem, r₄⟩
  simp only [h₄] at h
  cases h
  refine ⟨⟨type, rfl⟩, ?_⟩
  have htype : (ActivationTypeCode.ofU8 type).toU8 = type :=
    WireCode.toWire_ofWire (κ := ActivationTypeCode) type
  rw [readU16Be_inv h₁, readU8_inv h₂, readArray_inv h₃, readOptionalArray_inv h₄]
  simp only [bytes, htype, List.append_assoc, List.cons_append]

theorem RoutingActivationResponse.decode_inv {buf rest : List UInt8}
    {r : RoutingActivationResponse}
    (h : RoutingActivationResponse.decode (ι := ι) buf = .ok (r, rest)) :
    InImage r.routingActivationResponseCode ∧ buf = bytes r ++ rest := by
  obtain ⟨⟨tester, r₁⟩, h₁, h⟩ := exists_of_incomplete_bind h
  obtain ⟨⟨entity, r₂⟩, h₂, h⟩ := exists_of_incomplete_bind h
  obtain ⟨⟨code, r₃⟩, h₃, h⟩ := exists_of_incomplete_bind h
  obtain ⟨⟨reserved, r₄⟩, h₄, h⟩ := exists_of_incomplete_bind h
  rcases h₅ : WireCodec.readOptionalArray (ι := ι) 4 r₄ with ⟨oem, r₅⟩
  simp only [h₅] at h
  cases h
  refine ⟨⟨code, rfl⟩, ?_⟩
  have hcode : (RoutingActivationResponseCode.ofU8 code).toU8 = code :=
    WireCode.toWire_ofWire (κ := RoutingActivationResponseCode) code
  rw [readU16Be_inv h₁, readU16Be_inv h₂, readU8_inv h₃, readArray_inv h₄,
    readOptionalArray_inv h₅]
  simp only [bytes, hcode, List.append_assoc, List.cons_append]

/-- What the decoder keeps of the group id on the wire: nothing, if it is one of the two that stand
for none. -/
def keptGroupId (gid : U8Array 6) : Option (U8Array 6) :=
  if gid = filledArray 6 0x00 ∨ gid = filledArray 6 0xFF then none else some gid

/-- No kept group id is one of the two that mean none, so that it survives another round trip. -/
theorem keptGroupId_ne (gid : U8Array 6) :
    keptGroupId gid ≠ some (filledArray 6 0x00) ∧ keptGroupId gid ≠ some (filledArray 6 0xFF) := by
  unfold keptGroupId
  split
  · exact ⟨nofun, nofun⟩
  · next h =>
    rw [not_or] at h
    exact ⟨fun heq => h.1 (Option.some.inj heq), fun heq => h.2 (Option.some.inj heq)⟩

/-- The group id written for a kept one is the one it was kept from, unless that was all ones. -/
theorem keptGroupId_getD (gid : U8Array 6) :
    (keptGroupId gid).getD (filledArray 6 0x00) = gid ↔ gid ≠ filledArray 6 0xFF := by
  unfold keptGroupId
  by_cases hones : gid = filledArray 6 0xFF
  · subst hones
    exact ⟨fun h => absurd h (by decide), fun h => absurd rfl h⟩
  · by_cases hzero : gid = filledArray 6 0x00
    · rw [if_pos (.inl hzero)]
      exact ⟨fun _ => hones, fun _ => hzero.symm⟩
    · rw [if_neg (by rw [not_or]; exact ⟨hzero, hones⟩)]
      exact ⟨fun _ => hones, fun _ => rfl⟩

/-- The group id bytes in the body of a vehicle announcement: six, behind the VIN, the logical
address and the entity id. -/
def groupIdBytes (body : List UInt8) : List UInt8 := (body.drop 25).take 6

/-- The group id that stands for none, besides the all-zero one the encoder writes. -/
def sentinelGroupId : List UInt8 := List.replicate 6 0xFF

theorem toList_ne_sentinelGroupId {gid : U8Array 6} :
    gid.toList ≠ sentinelGroupId ↔ gid ≠ filledArray 6 0xFF :=
  not_congr ⟨fun h => Subtype.ext h, fun h => by rw [h]; rfl⟩

/-- A vehicle identification response was read off a body that differs from its bytes in the group
id at most, and only if that was all ones. -/
theorem VehicleIdentificationResponse.decode_inv {buf rest : List UInt8}
    {r : VehicleIdentificationResponse}
    (h : VehicleIdentificationResponse.decode (ι := ι) buf = .ok (r, rest)) :
    r.WellFormed ∧ ∃ body, buf = body ++ rest ∧ body.length = (bytes r).length ∧
      (body = bytes r ↔ groupIdBytes buf ≠ sentinelGroupId) := by
  obtain ⟨⟨vin, r₁⟩, h₁, h⟩ := exists_of_incomplete_bind h
  obtain ⟨⟨address, r₂⟩, h₂, h⟩ := exists_of_incomplete_bind h
  obtain ⟨⟨entityId, r₃⟩, h₃, h⟩ := exists_of_incomplete_bind h
  obtain ⟨⟨gid, r₄⟩, h₄, h⟩ := exists_of_incomplete_bind h
  obtain ⟨⟨action, r₅⟩, h₅, h⟩ := exists_of_incomplete_bind h
  obtain ⟨⟨sync, r₆⟩, h₆, h⟩ := exists_of_incomplete_bind h
  cases h
  have haction : (FurtherActionRequired.ofU8 action).toU8 = action :=
    WireCode.toWire_ofWire (κ := FurtherActionRequired) action
  have hsync : (VinGidSyncStatus.ofU8 sync).toU8 = sync :=
    WireCode.toWire_ofWire (κ := VinGidSyncStatus) sync
  -- the body up to the group id, the group id, and what is behind it
  have hbuf : buf = (vin.toList ++ u16Be address ++ entityId.toList) ++
      (gid.toList ++ (action :: sync :: rest)) := by
    rw [readArray_inv h₁, readU16Be_inv h₂, readArray_inv h₃, readArray_inv h₄, readU8_inv h₅,
      readU8_inv h₆]
    simp only [List.append_assoc]
  have hgid : groupIdBytes buf = gid.toList := by
    rw [groupIdBytes, hbuf, List.drop_left' (by simp), List.take_left' gid.toList_length]
  refine ⟨⟨⟨action, rfl⟩, ⟨sync, rfl⟩, keptGroupId_ne gid⟩,
    (vin.toList ++ u16Be address ++ entityId.toList) ++ (gid.toList ++ [action, sync]), ?_, ?_, ?_⟩
  · rw [hbuf]
    simp only [List.append_assoc, List.cons_append, List.nil_append]
  · simp [bytes]
  · rw [hgid, toList_ne_sentinelGroupId, ← keptGroupId_getD]
    simp only [bytes, haction, hsync, List.append_assoc, List.append_cancel_left_eq,
      List.append_cancel_right_eq]
    exact ⟨fun h => Subtype.ext h.symm, fun h => congrArg List.Vector.toList h.symm⟩

/-! ## What a payload decoder accepted -/

/-- A vehicle announcement whose group id is the all-ones sentinel. It is the one body that is
written differently from how it was read. -/
def SentinelAnnouncement (t : PayloadType) (body : List UInt8) : Prop :=
  t = .vehicleAnnouncement ∧ groupIdBytes body = sentinelGroupId

/-- The bytes of a payload as the front of what it was decoded from, `body`. -/
structure Payload.DecodedFrom (p : Payload) (t : PayloadType) (buf : List UInt8) : Prop where
  wellFormed : p.WellFormed
  front : ∃ body tail, buf = body ++ tail ∧ body.length = (bytes p).length ∧
    (body = bytes p ↔ ¬ SentinelAnnouncement t buf)

namespace Payload.DecodedFrom

variable {p : Payload} {t : PayloadType} {buf : List UInt8}

/-- A payload of any other type stands as it is at the front of the bytes it was decoded from. -/
theorem of_eq (ht : t ≠ .vehicleAnnouncement) (hp : p.WellFormed) {tail : List UInt8}
    (h : buf = bytes p ++ tail) : p.DecodedFrom t buf :=
  ⟨hp, bytes p, tail, h, rfl, fun _ hs => ht hs.1, fun _ => rfl⟩

/-- A payload with a body, by the inversion of the body's decoder: what it says of the body holds of
the payload. -/
theorem of_body {α : Type} {body : Except (MessageError ι) (α × List UInt8)} {mk : α → Payload}
    (ht : t ≠ .vehicleAnnouncement) (h : (body >>= fun x => pure (mk x.1)) = .ok p)
    (hbody : ∀ a rest, body = .ok (a, rest) →
      (mk a).WellFormed ∧ ∃ tail, buf = bytes (mk a) ++ tail) : p.DecodedFrom t buf := by
  obtain ⟨⟨a, rest⟩, ha, h⟩ := exists_of_bind_eq_ok h
  cases h
  obtain ⟨hp, tail, hbuf⟩ := hbody a rest ha
  exact of_eq ht hp hbuf

/-- A body that swallows the buffer leaves nothing behind it, so that there is no tail to lose. -/
theorem whole {xs : List UInt8} (h : buf = xs) : ∃ tail, buf = xs ++ tail :=
  ⟨[], by rw [List.append_nil, h]⟩

end Payload.DecodedFrom

/-- **What the payload decoder accepted** is the payload's bytes and whatever no decoder reads,
but for an all-ones group id. -/
theorem Payload.decodedFrom_of_decode {buf : List UInt8} {t : PayloadType} {p : Payload}
    (h : Payload.decode (ι := ι) buf t = .ok p) : p.DecodedFrom t buf := by
  unfold Payload.decode at h
  split at h
  -- the types with a body
  case h_1 =>
    exact .of_body nofun h fun r rest hr => ⟨trivial, rest, AliveCheckResponse.decode_inv hr⟩
  case h_2 =>
    refine .of_body nofun h fun code rest hr => ?_
    obtain ⟨hc, hbuf⟩ := NackCode.decode_inv hr
    exact ⟨hc, rest, hbuf⟩
  case h_6 =>
    obtain ⟨⟨r, rest⟩, hr, h⟩ := exists_of_bind_eq_ok h
    cases h
    obtain ⟨hw, body, hbuf, hlen, hiff⟩ := VehicleIdentificationResponse.decode_inv hr
    exact ⟨hw, body, rest, hbuf, hlen, hiff.trans ⟨fun hne hs => hne hs.2, fun hs hg =>
      hs ⟨rfl, hg⟩⟩⟩
  case h_7 =>
    refine .of_body nofun h fun r rest hr => ?_
    obtain ⟨hc, hbuf⟩ := RoutingActivationRequest.decode_inv hr
    exact ⟨hc, rest, hbuf⟩
  case h_8 =>
    refine .of_body nofun h fun r rest hr => ?_
    obtain ⟨hc, hbuf⟩ := RoutingActivationResponse.decode_inv hr
    exact ⟨hc, rest, hbuf⟩
  case h_11 =>
    refine .of_body nofun h fun r rest hr => ?_
    obtain ⟨hc, hbuf⟩ := EntityStatusResponse.decode_inv hr
    exact ⟨hc, rest, hbuf⟩
  case h_12 =>
    refine .of_body nofun h fun code rest hr => ?_
    obtain ⟨hc, hbuf⟩ := DiagnosticPowerModeCode.decode_inv hr
    exact ⟨hc, rest, hbuf⟩
  case h_13 =>
    exact .of_body nofun h fun m rest hr =>
      ⟨trivial, DecodedFrom.whole (DiagnosticMessage.decode_inv hr)⟩
  case h_14 =>
    refine .of_body nofun h fun a rest hr => ?_
    obtain ⟨hc, hbuf⟩ := DiagnosticMessageAck.decode_inv hr
    exact ⟨hc, DecodedFrom.whole hbuf⟩
  -- the types without one, whose body is never looked at, and those that are refused
  all_goals first
    | (cases h; exact .of_eq nofun trivial (List.nil_append buf).symm)
    | cases h

/-! ## What a message decoder accepted -/

theorem Header.decode_inv {b rest : List UInt8} {header : Header}
    (h : Header.decode (ι := ι) b = .ok (header, rest)) :
    ∃ v t n, b = rawHeader v (~~~v) t n ++ rest ∧ header = headerOf v (~~~v) t n := by
  have hlen : 8 ≤ b.length := by
    obtain ⟨⟨v, r₁⟩, h₁, h⟩ := exists_of_incomplete_bind h
    obtain ⟨⟨i, r₂⟩, h₂, h⟩ := exists_of_incomplete_bind h
    obtain ⟨⟨t, r₃⟩, h₃, h⟩ := exists_of_incomplete_bind h
    obtain ⟨⟨n, r₄⟩, h₄, h⟩ := exists_of_incomplete_bind h
    rw [readU8_inv h₁, readU8_inv h₂, readU16Be_inv h₃, readU32Be_inv h₄]
    exact Nat.le_add_left 8 r₄.length
  obtain ⟨v, i, t, n, tail, rfl⟩ := exists_rawHeader hlen
  rw [Header.decode_raw] at h
  split at h
  · next hi =>
    cases h
    exact ⟨v, t, n, by rw [hi], by rw [hi]⟩
  · cases h

/-- What a message was decoded from: its header bytes, the payload bytes they declare and what the
decoder left. -/
theorem Message.decode_inv {b rest : List UInt8} {m : Message}
    (h : Message.decode (ι := ι) b = .ok (m, rest)) :
    ∃ v t n body, b = rawHeader v (~~~v) t n ++ (body ++ rest) ∧
      m.header = headerOf v (~~~v) t n ∧ body.length = n.toNat ∧
      Payload.decode (ι := ι) body (.ofU16 t) = .ok m.payload := by
  obtain ⟨⟨header, r₁⟩, hh, h⟩ := exists_of_bind_eq_ok h
  obtain ⟨⟨body, r₂⟩, hb, h⟩ := exists_of_incomplete_bind h
  obtain ⟨p, hp, h⟩ := exists_of_bind_eq_ok h
  cases h
  obtain ⟨v, t, n, rfl, rfl⟩ := Header.decode_inv hh
  obtain ⟨rfl, hlen⟩ := take_inv hb
  exact ⟨v, t, n, body, rfl, rfl, hlen, hp⟩

/-- The frame of a decoded message, field by field: the header's own inverse byte and length are not
used. -/
theorem Message.frame_of_header {m : Message} {v i : UInt8} {t : UInt16} {n : UInt32}
    (h : m.header = headerOf v i t n) : m.frame =
      rawHeader v (~~~v) t (UInt32.ofNat (bytes m.payload).length) ++ bytes m.payload := by
  have hversion : m.header.protocolVersion.toU8 = v := by
    rw [h]
    exact WireCode.toWire_ofWire (κ := ProtocolVersion) v
  have htype : m.header.payloadType.toU16 = t := by
    rw [h]
    exact WireCode.toWire_ofWire (κ := PayloadType) t
  rw [← hversion, ← htype, ← ProtocolVersion.inverse_eq]
  rfl

/-- A frame written for the front `xs` of a body is the frame that was read exactly when nothing
followed in the body and the front is what was read. -/
theorem frame_eq_iff {v i : UInt8} {t : UInt16} {n : UInt32} {xs front tail rest : List UInt8}
    (hfront : front.length = xs.length) (hn : xs.length + tail.length = n.toNat) :
    (rawHeader v i t (UInt32.ofNat xs.length) ++ xs) ++ rest =
        rawHeader v i t n ++ ((front ++ tail) ++ rest) ↔
      n.toNat = xs.length ∧ front = xs := by
  constructor
  · intro h
    have hlen := congrArg List.length h
    simp only [List.length_append, length_rawHeader, hfront] at hlen
    have htail : tail = [] := List.length_eq_zero_iff.mp (by omega)
    subst htail
    rw [List.append_assoc, List.append_nil] at h
    have hbody := (List.append_inj h rfl).2
    exact ⟨by simpa using hn.symm, ((List.append_inj hbody hfront.symm).1).symm⟩
  · rintro ⟨hlen, rfl⟩
    have htail : tail = [] := List.length_eq_zero_iff.mp (by omega)
    subst htail
    rw [← hlen, UInt32.ofNat_toNat, List.append_nil, List.append_assoc]

/-- **Re-encoding a decoded frame normalises it and nothing else.** Whatever decodes to `m` from
the front of `b` encodes again, to bytes `e` no longer than the frame they came from. They decode,
with nothing left, to the same payload, payload type and version under the payload's own length,
and encoding that gives `e` again. They are the frame itself exactly when it declared that length
and was no vehicle announcement with the all-ones group id. -/
theorem reencoding_normalises {b rest : List UInt8} {m : Message}
    (h : Message.decode (ι := ι) b = .ok (m, rest)) :
    ∃ frame size e m', b = frame ++ rest ∧
      frame.length = Header.SIZE + m.header.payloadLength.toNat ∧
      Encode.encodedSize m.payload = .ok size ∧ m.EncodesAs e ∧ e.length ≤ frame.length ∧
      Message.decode e = .ok (m', []) ∧ m'.payload = m.payload ∧
      m'.header.payloadType = m.header.payloadType ∧
      m'.header.protocolVersion = m.header.protocolVersion ∧
      m'.header.payloadLength.toNat = size ∧ m'.EncodesAs e ∧
      (e ++ rest = b ↔ m.header.payloadLength.toNat = size ∧
        ¬ SentinelAnnouncement m.header.payloadType (frame.drop Header.SIZE)) := by
  obtain ⟨v, t, n, body, rfl, hheader, hlen, hp⟩ := Message.decode_inv h
  obtain ⟨hw, front, tail, rfl, hfront, hiff⟩ := Payload.decodedFrom_of_decode hp
  rw [List.length_append, hfront] at hlen
  have hpl : m.header.payloadLength = n := by rw [hheader]; rfl
  have htype : m.header.payloadType = .ofU16 t := by rw [hheader]; rfl
  have hwell : m.WellFormed := by
    have hn := n.toNat_lt
    refine ⟨?_, by rw [hheader]; exact ⟨v, rfl⟩, by rw [hheader]; exact ⟨t, rfl⟩, hw, by omega⟩
    rw [htype]
    exact PayloadType.carries_of_decode hp
  have hdecode := Message.decode_frame hwell []
  rw [List.append_nil] at hdecode
  refine ⟨rawHeader v (~~~v) t n ++ (front ++ tail), (bytes m.payload).length, m.frame, m.sized,
    (List.append_assoc _ _ _).symm, ?_, WireForm.encodedSize_eq _, Message.encode_vec hwell.fits,
    ?_, hdecode, rfl, rfl, rfl, UInt32.toNat_ofNat_of_lt' hwell.fits,
    Message.encode_vec (m := m.sized) hwell.fits, ?_⟩
  · rw [hpl, List.length_append, length_rawHeader, List.length_append, hfront, hlen]
    rfl
  · rw [Message.length_frame, List.length_append, length_rawHeader, List.length_append, hfront]
    omega
  · have hbody : (rawHeader v (~~~v) t n ++ (front ++ tail)).drop Header.SIZE = front ++ tail :=
      List.drop_left' (length_rawHeader _ _ _ _)
    rw [hbody, htype, ← hiff, hpl, Message.frame_of_header hheader]
    exact frame_eq_iff hfront hlen

end

/-- A frame of an alive check response that declares a byte too many. It is decoded, and the byte is
lost. -/
def overlongFrame : List UInt8 := [0x02, 0xFD, 0x00, 0x08, 0, 0, 0, 3, 0x0E, 0x00, 0xAA]

/-- A vehicle announcement with the all-ones group id, in a frame of the right length. -/
def sentinelFrame : List UInt8 :=
  [0x02, 0xFD, 0x00, 0x04, 0, 0, 0, 33] ++ List.replicate 25 0x41 ++ sentinelGroupId ++ [0, 0]

/-- Re-encoding drops the byte the first frame has too many, and the group id of the second. -/
theorem reencoding_normalises_overlong :
    letI := plainWire
    (∃ m e, Message.decode (overlongFrame ++ [0x02]) = .ok (m, [0x02]) ∧ m.EncodesAs e ∧
      e ++ [0x02] ≠ overlongFrame ++ [0x02]) ∧
    ∃ m e, Message.decode sentinelFrame = .ok (m, []) ∧ m.EncodesAs e ∧
      e ++ [] ≠ sentinelFrame := by
  let := plainWire
  constructor
  · have hd : ∃ m, Message.decode (overlongFrame ++ [0x02]) = .ok (m, [0x02]) ∧
        m.header.payloadLength = 3 ∧ Encode.encodedSize m.payload = .ok 2 := ⟨_, rfl, rfl, rfl⟩
    obtain ⟨m, hd, hlen, hsize⟩ := hd
    obtain ⟨frame, size, e, m', -, -, hs, he, -, -, -, -, -, -, -, hiff⟩ :=
      reencoding_normalises hd
    refine ⟨m, e, hd, he, fun heq => ?_⟩
    have hdeclared := (hiff.mp heq).1
    rw [hsize] at hs
    cases hs
    rw [hlen] at hdeclared
    cases hdeclared
  · have hd : ∃ m, Message.decode sentinelFrame = .ok (m, []) ∧
        m.header.payloadType = .vehicleAnnouncement := ⟨_, rfl, rfl⟩
    obtain ⟨m, hd, htype⟩ := hd
    obtain ⟨frame, size, e, m', hframe, -, -, he, -, -, -, -, -, -, -, hiff⟩ :=
      reencoding_normalises hd
    refine ⟨m, e, hd, he, fun heq => (hiff.mp heq).2 ⟨htype, ?_⟩⟩
    rw [List.append_nil] at hframe
    rw [← hframe]
    rfl

end SimpleDoip
