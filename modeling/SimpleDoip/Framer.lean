import SimpleDoip.Lib.Framing
import SimpleDoip.Messages.RoundTrip

/-!
# Framing

`tryFrame` is the crate's framer: it validates the eight-byte header at the front of a buffer and
delimits one frame. `readFrame` says the same about the bytes alone, for any check of the header,
and is a `Framing.Cutter`: what it decides about a buffer stands whatever follows. The codec checks
the inverse byte only; the entity also bounds the declared length.
-/

namespace SimpleDoip

open Framing

/-- A delimited frame whose payload is not interpreted yet, as `try_frame` returns it. -/
structure RawFrame where
  header : Header
  payload : List UInt8
deriving DecidableEq

section
variable {ι : Type} [WireCodec ι]

/-- Validate the header and delimit one frame from the front of `buf`; `ok none` asks for more
bytes. -/
def tryFrame (buf : List UInt8) : Except (MessageError ι) (Option (RawFrame × Nat)) :=
  if buf.length < Header.SIZE then
    .ok none
  else do
    let (header, _) ← Header.decode (buf.take Header.SIZE)
    let payloadLen := header.payloadLength.toNat
    if buf.length - Header.SIZE < payloadLen then
      return none
    let total := Header.SIZE + payloadLen
    return some ({ header, payload := (buf.take total).drop Header.SIZE }, total)

end

/-! ## Frames on the wire -/

section
variable {ε : Type} (check : Header → Option ε)

/-- The front of a buffer as a frame: eight header bytes that pass `check`, then as many payload
bytes as they declare. -/
def readFrame : List UInt8 → Reading ε RawFrame
  | v :: i :: t₁ :: t₀ :: n₃ :: n₂ :: n₁ :: n₀ :: rest =>
    let header := headerOf v i (ofU16Be t₁ t₀) (ofU32Be n₃ n₂ n₁ n₀)
    match check header with
    | some e => .fail e
    | none =>
      if rest.length < header.payloadLength.toNat then .more
      else .item { header, payload := rest.take header.payloadLength.toNat }
        (8 + header.payloadLength.toNat)
  | _ => .more

/-- Fewer than eight bytes decide nothing, whatever they are: a header is not looked at before it is
complete. -/
theorem readFrame_short {buf : List UInt8} (h : buf.length < 8) : readFrame check buf = .more := by
  match buf, h with
  | [], _ | [_], _ | [_, _], _ | [_, _, _], _ | [_, _, _, _], _ | [_, _, _, _, _], _
  | [_, _, _, _, _, _], _ | [_, _, _, _, _, _, _], _ => rfl

/-- Eight bytes and more, by their fields: the header is checked first, and then the body it
declares is waited for. -/
theorem readFrame_raw (v i : UInt8) (t : UInt16) (n : UInt32) (rest : List UInt8) :
    readFrame check (rawHeader v i t n ++ rest) =
      match check (headerOf v i t n) with
      | some e => .fail e
      | none =>
        if rest.length < n.toNat then .more
        else .item ⟨headerOf v i t n, rest.take n.toNat⟩ (8 + n.toNat) := by
  simp only [rawHeader, u16Be, u32Be, List.cons_append, List.nil_append, readFrame, ofU16Be_u16Be,
    ofU32Be_u32Be]
  rfl

variable {check}

/-- What a frame was read from: its header, the declared payload, and a rest that is not looked
at. -/
theorem readFrame_eq_item {buf : List UInt8} {f : RawFrame} {k : Nat}
    (h : readFrame check buf = .item f k) :
    ∃ v i t n rest, buf = rawHeader v i t n ++ (f.payload ++ rest) ∧ f.header = headerOf v i t n ∧
      f.payload.length = n.toNat ∧ k = 8 + n.toNat ∧ check f.header = none := by
  by_cases hs : buf.length < 8
  · rw [readFrame_short check hs] at h
    cases h
  obtain ⟨v, i, t, n, rest, rfl⟩ := exists_rawHeader (Nat.le_of_not_lt hs)
  rw [readFrame_raw] at h
  split at h
  · cases h
  · next hc =>
    split at h
    · cases h
    · next hn =>
      cases h
      exact ⟨v, i, t, n, rest.drop n.toNat, by rw [List.take_append_drop], rfl,
        List.length_take_of_le (Nat.le_of_not_lt hn), rfl, hc⟩

/-- What a failure was read from: a header that does not pass the check, whatever follows it. -/
theorem readFrame_eq_fail {buf : List UInt8} {e : ε} (h : readFrame check buf = .fail e) :
    ∃ v i t n rest, buf = rawHeader v i t n ++ rest ∧ check (headerOf v i t n) = some e := by
  by_cases hs : buf.length < 8
  · rw [readFrame_short check hs] at h
    cases h
  obtain ⟨v, i, t, n, rest, rfl⟩ := exists_rawHeader (Nat.le_of_not_lt hs)
  rw [readFrame_raw] at h
  split at h
  · next e' hc =>
    cases h
    exact ⟨v, i, t, n, rest, rfl, hc⟩
  · split at h <;> cases h

/-- A frame is read off the bytes it takes up, whatever follows them. -/
theorem readFrame_of_parts {v i : UInt8} {t : UInt16} {n : UInt32} {payload : List UInt8}
    (hc : check (headerOf v i t n) = none) (hn : payload.length = n.toNat) (rest : List UInt8) :
    readFrame check (rawHeader v i t n ++ (payload ++ rest)) =
      .item ⟨headerOf v i t n, payload⟩ (8 + n.toNat) := by
  rw [readFrame_raw]
  simp only [hc]
  rw [if_neg (by rw [List.length_append]; omega), ← hn, List.take_left]

/-- A proper prefix of the bytes of a frame needs more: it is neither a frame nor an error. -/
theorem readFrame_take_of_parts {v i : UInt8} {t : UInt16} {n : UInt32} {payload : List UInt8}
    (hc : check (headerOf v i t n) = none) (hn : payload.length = n.toNat) {k : Nat}
    (hk : k < 8 + n.toNat) : readFrame check ((rawHeader v i t n ++ payload).take k) = .more := by
  by_cases h8 : k < 8
  · exact readFrame_short _ (by rw [List.length_take]; omega)
  · have htake : (rawHeader v i t n ++ payload).take k =
        rawHeader v i t n ++ payload.take (k - 8) := by
      rw [List.take_append, List.take_of_length_le (by rw [length_rawHeader]; omega),
        length_rawHeader]
    rw [htake, readFrame_raw]
    simp only [hc]
    rw [if_pos (by rw [List.length_take]; omega)]

variable (check) in
/-- **The framer as a cutter**: no further input revokes a frame or a rejected header. -/
def frameCutter : Cutter UInt8 ε RawFrame where
  read := readFrame check
  item_pos h := by
    obtain ⟨v, i, t, n, rest, -, -, -, rfl, -⟩ := readFrame_eq_item h
    omega
  item_le h := by
    obtain ⟨v, i, t, n, rest, rfl, -, hlen, rfl, -⟩ := readFrame_eq_item h
    simp only [List.length_append, length_rawHeader, hlen]
    omega
  item_append {s f k} h tail := by
    obtain ⟨v, i, t, n, rest, rfl, hh, hlen, rfl, hc⟩ := readFrame_eq_item h
    obtain ⟨header, payload⟩ := f
    obtain rfl : header = headerOf v i t n := hh
    rw [List.append_assoc, List.append_assoc]
    exact readFrame_of_parts hc hlen _
  fail_append h tail := by
    obtain ⟨v, i, t, n, rest, rfl, hc⟩ := readFrame_eq_fail h
    rw [List.append_assoc, readFrame_raw]
    simp only [hc]

end

/-! ## The framer reads frames -/

section
variable {ι : Type} [WireCodec ι]

/-- The framer's check: the inverse byte is the complement of the version byte. -/
def inverseCheck (h : Header) : Option (MessageError ι) :=
  if h.protocolVersion.inverse = h.inverseProtocolVersion then none
  else some (.versionInverseIncorrect h.protocolVersion.inverse h.inverseProtocolVersion)

/-- The result of a framer as a reading: `None` asks for more, and `Some` comes with what was
consumed. -/
def readingOf :
    Except (MessageError ι) (Option (RawFrame × Nat)) → Reading (MessageError ι) RawFrame
  | .ok none => .more
  | .ok (some (frame, consumed)) => .item frame consumed
  | .error e => .fail e

omit [WireCodec ι] in
theorem readingOf_injective : Function.Injective (readingOf (ι := ι)) := by
  rintro (_ | _ | ⟨_, _⟩) (_ | _ | ⟨_, _⟩) h <;> cases h <;> rfl

omit [WireCodec ι] in
theorem inverseCheck_headerOf (v i : UInt8) (t : UInt16) (n : UInt32) :
    inverseCheck (ι := ι) (headerOf v i t n) =
      if ~~~v = i then none else some (.versionInverseIncorrect (~~~v) i) := by
  have hv : (headerOf v i t n).protocolVersion.inverse = ~~~v := ProtocolVersion.inverse_ofU8 v
  rw [inverseCheck, hv]
  rfl

/-- **The framer** reads frames with a correct inverse byte, and checks nothing else of the
header. -/
theorem readingOf_tryFrame (buf : List UInt8) :
    readingOf (tryFrame buf) = readFrame (inverseCheck (ι := ι)) buf := by
  by_cases hs : buf.length < 8
  · rw [readFrame_short _ hs, tryFrame, if_pos (by exact hs)]
    rfl
  obtain ⟨v, i, t, n, rest, rfl⟩ := exists_rawHeader (Nat.le_of_not_lt hs)
  have hhead : (rawHeader v i t n ++ rest).take Header.SIZE = rawHeader v i t n ++ [] := by
    rw [List.append_nil, Header.SIZE, List.take_left' (length_rawHeader v i t n)]
  have hlen : (rawHeader v i t n ++ rest).length - Header.SIZE = rest.length := by
    simp [Header.SIZE]
  rw [tryFrame, if_neg (by exact hs), hhead, Header.decode_raw, readFrame_raw,
    inverseCheck_headerOf]
  by_cases hi : ~~~v = i
  · rw [if_pos hi, if_pos hi, ok_bind, hlen]
    change readingOf (if rest.length < n.toNat then _ else _) = _
    split
    · rfl
    · simp [readingOf, Header.SIZE, headerOf, pure, Except.pure, List.take_append]
  · rw [if_neg hi, if_neg hi, error_bind]
    rfl

/-- What the framer has decided, no further input revokes: a frame or an error stays what it is when
more bytes arrive. -/
theorem tryFrame_append {b : List UInt8} (h : tryFrame (ι := ι) b ≠ .ok none) (x : List UInt8) :
    tryFrame (ι := ι) (b ++ x) = tryFrame b := by
  refine readingOf_injective ?_
  cases hb : tryFrame (ι := ι) b with
  | error e =>
    have hread := (readingOf_tryFrame b).symm.trans (congrArg readingOf hb)
    rw [readingOf_tryFrame]
    exact (frameCutter inverseCheck).fail_append hread x
  | ok decided =>
    cases decided with
    | none => exact absurd hb h
    | some item =>
      have hread := (readingOf_tryFrame b).symm.trans (congrArg readingOf hb)
      rw [readingOf_tryFrame]
      exact (frameCutter inverseCheck).item_append hread x

/-- A header with a correct inverse byte and the body it declares are one frame, which takes up
exactly these bytes. -/
theorem tryFrame_of_parts (v : UInt8) (t : UInt16) {n : UInt32} {body : List UInt8}
    (hn : body.length = n.toNat) :
    tryFrame (ι := ι) (rawHeader v (~~~v) t n ++ body) =
      .ok (some (⟨headerOf v (~~~v) t n, body⟩, 8 + n.toNat)) := by
  have hcheck : inverseCheck (ι := ι) (headerOf v (~~~v) t n) = none := by
    rw [inverseCheck_headerOf, if_pos rfl]
  have hread := readFrame_of_parts hcheck hn []
  rw [List.append_nil, ← readingOf_tryFrame] at hread
  exact readingOf_injective hread

end

end SimpleDoip
