import SimpleDoip.Client.World
import SimpleDoip.Entity.Capacity
import SimpleDoip.MessageCodec

/-!
# From one end to the other

The client and the entity of this crate talk through each other's codec. What the entity sends is
read back by the client's `MessageCodec`, and what the client's `MessageCodec` writes is reassembled
by the entity. This module says both for single frames, whole and in part.
-/

namespace SimpleDoip

open Framing

section
variable {ι : Type} [WireCodec ι]

/-! ## From the entity to the client -/

/-- The header of a message the entity sends, as the client's codec decodes it. -/
def entityHeader (payloadType : PayloadType) (payload : Payload) : Header :=
  Header.new PROTOCOL_VERSION payloadType (UInt32.ofNat (bytes payload).length)

variable {t : PayloadType} {p : Payload}

theorem headerOf_entity (ht : InImage t) :
    headerOf 0x02 0xFD t.toU16 (UInt32.ofNat (bytes p).length) = entityHeader t p := by
  have h : PayloadType.ofU16 t.toU16 = t := ht.ofWire_toWire
  rw [headerOf, h]
  rfl

omit [WireCodec ι] in
/-- The entity's headers pass the client's check, as their inverse byte is the complement of the
version. -/
theorem inverseCheck_entity (n : UInt32) :
    inverseCheck (ι := ι) (headerOf 0x02 0xFD t.toU16 n) = none := by
  rw [inverseCheck_headerOf]
  rfl

/-- A frame of the entity is one message to the client's codec, whatever follows it. -/
theorem decode_entityFrame {q : Payload} (ht : InImage t) (hfit : (bytes p).length < 2 ^ 32)
    (hq : Payload.decode (ι := ι) (bytes p) t = .ok q) (rest : List UInt8) :
    MessageCodec.decode (ι := ι) (entityFrame t p ++ rest) =
      some (.ok (some ⟨entityHeader t p, q⟩), rest) := by
  have hlen : (bytes p).length = (UInt32.ofNat (bytes p).length).toNat :=
    (UInt32.toNat_ofNat_of_lt' hfit).symm
  have hread := readFrame_of_parts (inverseCheck_entity (ι := ι) (t := t) _) hlen rest
  rw [headerOf_entity ht] at hread
  have hdrop : (entityFrame t p ++ rest).drop (8 + (UInt32.ofNat (bytes p).length).toNat) =
      rest := by
    rw [← hlen]
    exact List.drop_left' (length_entityFrame t p)
  have h := MessageCodec.decode_item hread hq
  rw [← List.append_assoc, ← entityFrame, hdrop] at h
  exact h

/-- Part of a frame of the entity is left in the codec's buffer until the rest arrives. -/
theorem decode_entityFrame_take (hfit : (bytes p).length < 2 ^ 32) {k : Nat}
    (hk : k < (entityFrame t p).length) :
    MessageCodec.decode (ι := ι) ((entityFrame t p).take k) =
      some (.ok none, (entityFrame t p).take k) := by
  have hlen : (bytes p).length = (UInt32.ofNat (bytes p).length).toNat :=
    (UInt32.toNat_ofNat_of_lt' hfit).symm
  rw [length_entityFrame, hlen] at hk
  exact MessageCodec.decode_more
    (readFrame_take_of_parts (inverseCheck_entity (ι := ι) (t := t) _) hlen hk)

end

end SimpleDoip
