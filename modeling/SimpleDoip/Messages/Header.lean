import SimpleDoip.Messages.Codes

/-!
# Errors, encoders and the message header

`MessageError` is the error of every encoder and decoder. `Encode` is the crate's trait of things
that write themselves; `WireForm` adds the byte string an encoder stands for, so that a caller
reasons about bytes and never about the writer. The eight-byte header comes first in every message,
and `Header.decode_raw` says what decoding makes of any eight bytes.
-/

namespace SimpleDoip

/-- Wire-level encode and decode failures, with the variants the crate produces. `TrailingBytes` is
not among them: no decoder of the crate checks for these. -/
inductive MessageError (ι : Type) where
  | versionInverseIncorrect (expected value : UInt8)
  | payloadTooLarge (size : Nat)
  | unsupportedPayloadType (payloadType : PayloadType)
  | incomplete (e : ι)
  | io (kind : ErrorKind)
deriving DecidableEq, Repr

/-- Framing-fatal errors mean that stream sync is lost: where the next frame begins is not known any
more. -/
def MessageError.isFramingFatal {ι : Type} : MessageError ι → Bool
  | .versionInverseIncorrect _ _ => true
  | .incomplete _ => true
  | _ => false

section
variable {ι : Type}

/-- `?` on a reader: `From<Incomplete> for MessageError`, which keeps the error of the reader. -/
def incomplete {α : Type} (r : Except ι α) : Except (MessageError ι) α :=
  r.mapError .incomplete

@[simp] theorem incomplete_ok {α : Type} (a : α) :
    incomplete (.ok a : Except ι α) = .ok a := rfl

@[simp] theorem ok_bind {ε α β : Type} (a : α) (f : α → Except ε β) :
    ((Except.ok a : Except ε α) >>= f) = f a := rfl

@[simp] theorem error_bind {ε α β : Type} (e : ε) (f : α → Except ε β) :
    ((Except.error e : Except ε α) >>= f) = .error e := rfl

/-! ## Encoders -/

/-- A program that writes to `ω`, and that may fail with part of its bytes written. -/
abbrev Encoder (ι ω α : Type) := EStateM (MessageError ι) ω α

section
variable {ω : Type}

/-- `?` on a writer: `From<embedded_io::ErrorKind> for MessageError`, which keeps the kind. -/
def io {α : Type} (w : EStateM ErrorKind ω α) : Encoder ι ω α :=
  EStateM.adaptExcept .io w

variable [Write ω]

/-- Write `bs`, as one `write_all`, with the error of the crate. -/
def emit (bs : List UInt8) : Encoder ι ω Unit := io (Write.writeAll bs)

/-- `Emits enc bs n`: the encoder writes the bytes `bs`, one `write_all` after the other, and
returns `n`. How the bytes are cut into writes is left open, which is what the proofs about a
particular writer need to know. -/
inductive Emits : Encoder ι ω Nat → List UInt8 → Nat → Prop where
  | done (n : Nat) : Emits (pure n) [] n
  | write {enc : Encoder ι ω Nat} {bs : List UInt8} {n : Nat} (as : List UInt8)
      (rest : Emits enc bs n) : Emits (emit as >>= fun _ => enc) (as ++ bs) n

namespace Emits
variable {enc : Encoder ι ω Nat} {as bs : List UInt8} {m n : Nat}

/-- The last write of an encoder, behind which it returns its size. -/
theorem last (bs : List UInt8) (n : Nat) :
    Emits (emit bs >>= fun _ => pure n : Encoder ι ω Nat) bs n := by
  have h : Emits (emit bs >>= fun _ => pure n : Encoder ι ω Nat) (bs ++ []) n := .write bs (.done n)
  rwa [List.append_nil] at h

/-- One encoder after the other: the second may depend on the size that the first returned. -/
theorem bind (h : Emits enc as m) {k : Nat → Encoder ι ω Nat} (hk : Emits (k m) bs n) :
    Emits (enc >>= k) (as ++ bs) n := by
  induction h with
  | done m => rwa [pure_bind]
  | write as _ ih =>
    rw [bind_assoc, List.append_assoc]
    exact .write as (ih hk)

/-- An encoder that works on the size another one returns, and writes nothing itself. -/
theorem map (f : Nat → Nat) (h : Emits enc bs n) :
    Emits (enc >>= fun n => pure (f n)) bs (f n) := by
  have hbind : Emits (enc >>= fun n => pure (f n)) (bs ++ []) (f n) := h.bind (.done (f n))
  rwa [List.append_nil] at hbind

end Emits

variable [WireCodec ι]

theorem io_writeU8 (b : UInt8) :
    io (WireCodec.writeU8 b) = (emit [b] : Encoder ι ω Unit) := by
  rw [emit, WireCodec.writeU8_eq]

theorem io_writeU16Be (x : UInt16) :
    io (WireCodec.writeU16Be x) = (emit (u16Be x) : Encoder ι ω Unit) := by
  rw [emit, WireCodec.writeU16Be_eq]

theorem io_writeU32Be (x : UInt32) :
    io (WireCodec.writeU32Be x) = (emit (u32Be x) : Encoder ι ω Unit) := by
  rw [emit, WireCodec.writeU32Be_eq]

theorem io_writeAll (bs : List UInt8) :
    io (WireCodec.writeAll bs) = (emit bs : Encoder ι ω Unit) := by
  rw [emit, WireCodec.writeAll_eq]

end

/-- The `Encode` trait: the size of a value, and a program that writes it to any writer and returns
how much that was. -/
class Encode (ι : outParam Type) (α : Type) where
  encodedSize : α → Except (MessageError ι) Nat
  encode : {ω : Type} → [Write ω] → α → Encoder ι ω Nat

/-- A type whose encoder writes one byte string, whatever the writer. Its size is the length of that
string. -/
class WireForm (ι : outParam Type) (α : Type) extends Encode ι α where
  bytes : α → List UInt8
  encodedSize_eq : ∀ x, encodedSize x = .ok (bytes x).length
  encode_emits : ∀ {ω : Type} [Write ω] x,
    Emits (encode x : Encoder ι ω Nat) (bytes x) (bytes x).length

export WireForm (bytes)

/-! ## Header -/

/-- `DoIP` message header. Nothing keeps the fields consistent: the inverse byte and the length are
what was decoded or set. -/
structure Header where
  protocolVersion : ProtocolVersion
  inverseProtocolVersion : UInt8
  payloadType : PayloadType
  payloadLength : UInt32
deriving DecidableEq, Repr

/-- Size in bytes of an encoded header, for every message. -/
def Header.SIZE : Nat := 8

/-- A header whose inverse byte belongs to its version, as the constructors of messages make it. -/
def Header.new (protocolVersion : ProtocolVersion) (payloadType : PayloadType)
    (payloadLength : UInt32) : Header :=
  ⟨protocolVersion, protocolVersion.inverse, payloadType, payloadLength⟩

/-- Check the inverse byte against the version, and report both bytes if they do not match. -/
def Header.versionInverseCorrect (h : Header) : Except (MessageError ι) Unit :=
  let expected := h.protocolVersion.inverse
  if expected = h.inverseProtocolVersion then .ok ()
  else .error (.versionInverseIncorrect expected h.inverseProtocolVersion)

variable [WireCodec ι]

/-- `Decode for Header`: the inverse byte is checked last, so that a short header is incomplete
whatever it says. -/
def Header.decode (buf : List UInt8) : Except (MessageError ι) (Header × List UInt8) := do
  let (protocolVersion, rest) ← incomplete (WireCodec.readU8 buf)
  let (inverseProtocolVersion, rest) ← incomplete (WireCodec.readU8 rest)
  let (payloadType, rest) ← incomplete (WireCodec.readU16Be rest)
  let (payloadLength, rest) ← incomplete (WireCodec.readU32Be rest)
  let header : Header := {
    protocolVersion := .ofU8 protocolVersion
    inverseProtocolVersion
    payloadType := .ofU16 payloadType
    payloadLength }
  header.versionInverseCorrect
  return (header, rest)

/-- `Encode for Header`: the fields as they are, also if the inverse byte is wrong. -/
instance : Encode ι Header where
  encodedSize _ := .ok Header.SIZE
  encode h := do
    io (WireCodec.writeU8 h.protocolVersion.toU8)
    io (WireCodec.writeU8 h.inverseProtocolVersion)
    io (WireCodec.writeU16Be h.payloadType.toU16)
    io (WireCodec.writeU32Be h.payloadLength)
    return Header.SIZE

/-- The eight bytes of a header, field by field, whether or not they are consistent. -/
def rawHeader (version inverse : UInt8) (payloadType : UInt16) (payloadLength : UInt32) :
    List UInt8 :=
  version :: inverse :: (u16Be payloadType ++ u32Be payloadLength)

@[simp] theorem length_rawHeader (v i : UInt8) (t : UInt16) (n : UInt32) :
    (rawHeader v i t n).length = 8 := rfl

/-- Eight bytes are always a header's fields, so that every long enough buffer begins with a
`rawHeader`. -/
theorem exists_rawHeader {buf : List UInt8} (h : 8 ≤ buf.length) :
    ∃ v i t n rest, buf = rawHeader v i t n ++ rest := by
  match buf, h with
  | v :: i :: t₁ :: t₀ :: n₃ :: n₂ :: n₁ :: n₀ :: rest, _ =>
    refine ⟨v, i, ofU16Be t₁ t₀, ofU32Be n₃ n₂ n₁ n₀, rest, ?_⟩
    simp [rawHeader, u16Be_ofU16Be, u32Be_ofU32Be]

/-- The header eight bytes spell, whether or not its inverse byte is right: what decoding makes of
them if it succeeds. -/
def headerOf (version inverse : UInt8) (payloadType : UInt16) (payloadLength : UInt32) : Header :=
  ⟨.ofU8 version, inverse, .ofU16 payloadType, payloadLength⟩

/-- **Decoding a header.** The fields are read off, and the only thing that can go wrong is the
inverse byte, which must be the complement of the version byte. -/
theorem Header.decode_raw (v i : UInt8) (t : UInt16) (n : UInt32) (rest : List UInt8) :
    Header.decode (rawHeader v i t n ++ rest) =
      if ~~~v = i then .ok (headerOf v i t n, rest)
      else .error (.versionInverseIncorrect (~~~v) i) := by
  simp only [Header.decode, rawHeader, List.cons_append, List.append_assoc, WireCodec.readU8_cons,
    WireCodec.readU16Be_append, WireCodec.readU32Be_append, incomplete_ok, ok_bind,
    Header.versionInverseCorrect, ProtocolVersion.inverse_ofU8]
  split <;> rfl

/-- A header as it stands on the wire, with the inverse byte that it has. -/
instance : WireForm ι Header where
  bytes h := rawHeader h.protocolVersion.toU8 h.inverseProtocolVersion h.payloadType.toU16
    h.payloadLength
  encodedSize_eq _ := rfl
  encode_emits h := by
    simp only [Encode.encode, io_writeU8, io_writeU16Be, io_writeU32Be]
    exact .write _ (.write _ (.write _ (.last _ _)))

/-- A header with valid codes and the right inverse comes back from its bytes, and what follows them
is left alone. -/
theorem Header.decode_bytes {h : Header} (hv : InImage h.protocolVersion)
    (ht : InImage h.payloadType) (hi : h.inverseProtocolVersion = h.protocolVersion.inverse)
    (rest : List UInt8) : Header.decode (bytes h ++ rest) = .ok (h, rest) := by
  obtain ⟨version, inverse, payloadType, payloadLength⟩ := h
  have h1 : ProtocolVersion.ofU8 version.toU8 = version := hv.ofWire_toWire
  have h2 : PayloadType.ofU16 payloadType.toU16 = payloadType := ht.ofWire_toWire
  have h3 : ~~~version.toU8 = inverse := by rw [← ProtocolVersion.inverse_eq]; exact hi.symm
  change Header.decode (rawHeader _ _ _ _ ++ rest) = _
  rw [Header.decode_raw, if_pos h3]
  simp only [headerOf, h1, h2]

end

end SimpleDoip
