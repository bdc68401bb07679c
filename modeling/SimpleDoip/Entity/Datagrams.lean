import SimpleDoip.Entity.Frames

/-!
# What the entity does with a datagram

`Entity.udpReply` is the answer to a datagram. Every answer fits the transmit buffer
(`Entity.udpReply_fits`), so `Entity.onUdpRx_spec` can say that receiving a datagram sends it as one
frame to where the datagram came from, or sends nothing, and touches nothing but the transmit
buffer.
-/

namespace SimpleDoip

section
variable {ι : Type} [WireCodec ι] {π : Type}

/-- A message that fits the transmit buffer is sent as its frame, to the address the datagram came
from. -/
theorem sendUdpMsg_eq (cb : Callbacks π) (tx : U8Array TX_CAP) (dstAddr : UInt32)
    (dstPort : UInt16) {t : PayloadType} {n : UInt32} {payload : Payload}
    (h : 8 + (bytes payload).length ≤ TX_CAP) (p : Platform π) :
    sendUdpMsg cb tx dstAddr dstPort ⟨Header.new PROTOCOL_VERSION t n, payload⟩ p =
      some (txAfter tx (entityFrame t payload),
        p.sendUdp cb dstAddr dstPort (entityFrame t payload)) := by
  obtain ⟨henc, hslice⟩ := encodeInto_entityFrame (n := n) tx (t := t) h
  simp only [sendUdpMsg, henc, hslice]
  rfl

/-- A message of the entity's version that fits the transmit buffer, so that sending it cannot
fail. -/
def Fits (msg : Message) : Prop :=
  ∃ t n payload, msg = ⟨Header.new PROTOCOL_VERSION t n, payload⟩ ∧
    8 + (bytes payload).length ≤ TX_CAP

/-- A framed payload fits if its bytes do, with the header before them. -/
theorem fits_of_framed {t : PayloadType} {payload : Payload} {msg : Message}
    (h : framed t payload = some msg) (hlen : 8 + (bytes payload).length ≤ TX_CAP) : Fits msg := by
  have hcap : TX_CAP = 1036 := rfl
  rw [framed_eq (by omega)] at h
  cases h
  exact ⟨t, _, payload, rfl, hlen⟩

theorem length_bytes_nack (code : NackCode) : (bytes (Payload.doIPNack code)).length = 1 := rfl

theorem length_bytes_status (r : EntityStatusResponse) :
    (bytes (Payload.entityStatusResponse r)).length = 7 := rfl

theorem length_bytes_announcement (r : VehicleIdentificationResponse) :
    (bytes (Payload.vehicleAnnouncement r)).length = 33 := by
  change (r.vin.toList ++ (u16Be _ ++ (r.entityId.toList ++ (_ ++ _)))).length = _
  simp only [List.length_append, List.Vector.toList_length, length_u16Be]
  rfl

namespace Entity

/-- Every answer to a datagram fits the transmit buffer: the longest is the announcement. -/
theorem udpReply_fits {e : Entity π} {data : List UInt8} {msg : Message}
    (h : e.udpReply data = some msg) : Fits msg := by
  rw [udpReply] at h
  split at h
  · cases h
  · exact fits_of_framed h (by rw [length_bytes_nack]; decide)
  · split at h
    · exact fits_of_framed h (by rw [length_bytes_announcement]; decide)
    · exact fits_of_framed h (by rw [length_bytes_status]; decide)
    · cases h
    · exact fits_of_framed h (by rw [length_bytes_nack]; decide)

/-- **Receiving a datagram** sends one frame back, or nothing, and changes nothing else of the
entity than its transmit buffer. -/
theorem onUdpRx_spec (e : Entity π) (srcAddr : UInt32) (srcPort : UInt16) (data : List UInt8)
    (p : Platform π) :
    e.onUdpRx srcAddr srcPort data p = some (e, p) ∨
    ∃ cb frame, e.callbacks = some cb ∧ e.onUdpRx srcAddr srcPort data p =
      some ({ e with txBuf := txAfter e.txBuf frame }, p.sendUdp cb srcAddr srcPort frame) := by
  cases hcb : e.callbacks with
  | none => exact .inl (by rw [onUdpRx, hcb])
  | some cb =>
    by_cases hdata : data.isEmpty = true
    · exact .inl (by rw [onUdpRx, hcb]; exact if_pos hdata)
    · cases hreply : e.udpReply data with
      | none =>
        refine .inl ?_
        simp only [onUdpRx, hcb, hdata, hreply]
        rfl
      | some msg =>
        obtain ⟨t, n, payload, rfl, hlen⟩ := udpReply_fits hreply
        refine .inr ⟨cb, entityFrame t payload, rfl, ?_⟩
        simp only [onUdpRx, hcb, hdata, hreply, sendUdpMsg_eq cb e.txBuf srcAddr srcPort hlen p]
        rfl

end Entity

end

end SimpleDoip
