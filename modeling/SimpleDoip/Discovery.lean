import SimpleDoip.Acceptance
import SimpleDoip.Entity.Replies
import SimpleDoip.Lib.Reflection

/-!
# Discovery on one network

The bare-metal entity and the responder of the async server listen on the same port, and a datagram
can claim to come from either. `Node` is one of the two in any state, and `Node.receive` what it
answers a datagram with. Every answer is a whole frame that decodes to something which is no request
(`Unrequesting`), and no node answers one of those, neither with a reply nor with a negative
acknowledgement: so `replies_never_provoke_replies`.
-/

namespace SimpleDoip

open Transition Reflection

/-- Somebody who answers datagrams: an entity with the state of its platform, or a responder with
its handler and the handler's state. -/
inductive Node (ι π η : Type) where
  | entity (e : Entity π) (state : π)
  | responder (handler : IdentificationHandler ι η) (state : η)

/-- Where a datagram claims to come from: as an address of the entity's platform, and as one of the
server's. -/
structure Origin where
  srcAddr : UInt32
  ipAddress : IpAddr
  port : UInt16

section
variable {ι : Type} [WireCodec ι] {π η : Type}

/-- The datagram a call sends, if it sends one. -/
def PlatformCall.datagram : PlatformCall → Option (List UInt8)
  | .sendUdp _ _ data => some data
  | _ => none

/-- Receive a datagram: what the node becomes, and the datagrams it sends. `none` is a panic. -/
def Node.receive (node : Node ι π η) (origin : Origin) (data : List UInt8) :
    Option (Node ι π η × List (List UInt8)) :=
  match node with
  | .entity e state => do
    let received ← e.onUdpRx (ι := ι) origin.srcAddr origin.port data ⟨state, []⟩
    return (.entity received.1 received.2.state, received.2.calls.filterMap PlatformCall.datagram)
  | .responder handler state => do
    let s ← Server.runUdpResponder handler ⟨state, []⟩
      (.datagram ⟨origin.ipAddress, origin.port, data⟩)
    return (.responder handler s.handlerState, s.sent.map Datagram.data)

/-! ## What the answers are -/

variable (ι) in
/-- A whole frame within the responder's buffer that decodes to something which is no request. -/
def Unrequesting (data : List UInt8) : Prop :=
  data.length ≤ Server.UDP_BUF_LEN ∧ ∃ frame consumed payload,
    tryFrame (ι := ι) data = .ok (some (frame, consumed)) ∧
    Payload.decode (ι := ι) frame.payload frame.header.payloadType = .ok payload ∧
    payload ≠ .vehicleIdentificationRequest ∧ payload ≠ .entityStatusRequest

/-- The types answers have: announcements, status responses and negative acknowledgements. -/
def PayloadType.IsAnswer (t : PayloadType) : Prop :=
  t = .negativeAcknowledge ∨ t = .vehicleAnnouncement ∨ t = .doIPEntityStatusResponse

/-- A frame with an answer's type, a sound header and a body that is long enough is no request. -/
theorem unrequesting_of_parts (v : UInt8) {t : PayloadType} (ht : t.IsAnswer) {n : UInt32}
    {body : List UInt8} (hn : body.length = n.toNat) (hmin : t.minimum ≤ body.length)
    (hmax : body.length ≤ 1016) : Unrequesting ι (rawHeader v (~~~v) t.toU16 n ++ body) := by
  have htype : (headerOf v (~~~v) t.toU16 n).payloadType = t := by
    rcases ht with rfl | rfl | rfl <;> rfl
  have hsupported : t.supported = true := by
    rcases ht with rfl | rfl | rfl <;> rfl
  obtain ⟨payload, hdecode⟩ := (Payload.decode_ok_iff (ι := ι) t body).mpr ⟨hsupported, hmin⟩
  have hcarries := PayloadType.carries_of_decode hdecode
  refine ⟨?_, _, _, payload, tryFrame_of_parts v _ hn, by rw [htype]; exact hdecode, ?_, ?_⟩
  · rw [List.length_append, length_rawHeader]
    show 8 + body.length ≤ 1024
    omega
  · rintro rfl
    rcases ht with rfl | rfl | rfl <;> cases hcarries
  · rintro rfl
    rcases ht with rfl | rfl | rfl <;> cases hcarries

/-- A frame of the entity with an answer's type is no request: it decodes to nothing that anybody
answers. -/
theorem unrequesting_of_framed {t : PayloadType} (ht : t.IsAnswer) {payload : Payload}
    {msg : Message} (hmsg : framed (ι := ι) t payload = some msg)
    (hmin : t.minimum ≤ (bytes payload).length) (hmax : (bytes payload).length ≤ 1016) :
    Unrequesting ι msg.frame := by
  have hlt : (bytes payload).length < 2 ^ 32 := by omega
  rw [framed_eq hlt] at hmsg
  cases hmsg
  exact unrequesting_of_parts 0x02 ht (UInt32.toNat_ofNat_of_lt' hlt).symm hmin hmax

/-- What the entity answers a datagram with is no request, whatever the datagram was. -/
theorem unrequesting_of_udpReply {e : Entity π} {data : List UInt8} {msg : Message}
    (h : e.udpReply (ι := ι) data = some msg) : Unrequesting ι msg.frame := by
  have hnack : ∀ {code : NackCode}, framed (ι := ι) .negativeAcknowledge (.doIPNack code) =
      some msg → Unrequesting ι msg.frame := fun hmsg =>
    unrequesting_of_framed (.inl rfl) hmsg (Nat.le_refl 1) (show 1 ≤ 1016 by omega)
  unfold Entity.udpReply at h
  split at h
  · cases h
  · exact hnack h
  · split at h
    · refine unrequesting_of_framed (.inr (.inl rfl)) h ?_ ?_
      · exact Nat.le_of_eq (length_bytes_announcement _).symm
      · rw [length_bytes_announcement]
        omega
    · exact unrequesting_of_framed (.inr (.inr rfl)) h (Nat.le_refl 7) (show 7 ≤ 1016 by omega)
    · cases h
    · exact hnack h

/-- What the responder answers a datagram with is no request, whatever its handler says. -/
theorem unrequesting_announcementFrame (version : ProtocolVersion)
    (response : VehicleIdentificationResponse) :
    Unrequesting ι (Server.announcementFrame version response) := by
  rw [Server.announcementFrame, ProtocolVersion.inverse_eq]
  have hlen := Server.length_bytes_response response
  refine unrequesting_of_parts _ (.inr (.inl rfl)) hlen ?_ ?_
  · rw [hlen]
    decide
  · rw [hlen]
    decide

/-! ## Nobody answers them -/

theorem udpAnswer_of_unrequesting (e : Entity π) {data : List UInt8} (h : Unrequesting ι data) :
    e.udpAnswer (ι := ι) data = none := by
  obtain ⟨-, frame, consumed, payload, hrest⟩ := h
  have hreply : e.udpReply (ι := ι) data = none :=
    (e.udpReply_eq_none_iff data).mpr (.inr ⟨frame, consumed, payload, hrest⟩)
  simp [Entity.udpAnswer, hreply]

theorem runUdpResponder_of_unrequesting (handler : IdentificationHandler ι η)
    (s : Server.Responder η) {d : Datagram} (h : Unrequesting ι d.data) :
    Server.runUdpResponder handler s (.datagram d) = some s := by
  obtain ⟨hlen, frame, consumed, payload, hframe, hdecode, hrequest, -⟩ := h
  have hmessage : Server.decodeDatagram (ι := ι) (d.data.take Server.UDP_BUF_LEN) =
      some ⟨frame.header, payload⟩ := by
    rw [List.take_of_length_le hlen, decodeDatagram_eq_some_iff hframe]
    exact ⟨payload, hdecode, rfl⟩
  simp only [Server.runUdpResponder, hmessage, hrequest, ne_eq, not_false_eq_true, if_true]

/-! ## Nodes -/

/-- **Receiving a datagram** never panics. A node sends at most one datagram, which is no request,
and nothing if it was sent none. -/
theorem Node.receive_spec (node : Node ι π η) (origin : Origin) (data : List UInt8) :
    ∃ node' replies, node.receive origin data = some (node', replies) ∧ replies.length ≤ 1 ∧
      (∀ r ∈ replies, Unrequesting ι r) ∧ (Unrequesting ι data → replies = []) := by
  cases node with
  | entity e state =>
    obtain ⟨e', p', hrx, hcalls⟩ :=
      e.onUdpRx_calls (ι := ι) origin.srcAddr origin.port data ⟨state, []⟩
    have hreplies : p'.calls.filterMap PlatformCall.datagram =
        (e.udpAnswer (ι := ι) data).toList := by
      rw [hcalls]
      cases e.udpAnswer (ι := ι) data <;> rfl
    refine ⟨.entity e' p'.state, (e.udpAnswer (ι := ι) data).toList, ?_, ?_, ?_, ?_⟩
    · simp only [receive, hrx, Option.bind_eq_bind, Option.bind_some, hreplies]
      rfl
    · cases e.udpAnswer (ι := ι) data with
      | none => exact Nat.zero_le 1
      | some frame => exact Nat.le_refl 1
    · intro r hr
      have hanswer := Option.mem_toList.mp hr
      unfold Entity.udpAnswer at hanswer
      split at hanswer
      · obtain ⟨msg, hreply, rfl⟩ := Option.map_eq_some_iff.mp hanswer
        exact unrequesting_of_udpReply hreply
      · cases hanswer
    · intro h
      rw [udpAnswer_of_unrequesting e h]
      rfl
  | responder handler state =>
    obtain ⟨s', hround, hresponded⟩ := Server.runUdpResponder_spec handler ⟨state, []⟩
      (.datagram ⟨origin.ipAddress, origin.port, data⟩)
    refine ⟨.responder handler s'.handlerState, s'.sent.map Datagram.data, ?_, ?_, ?_, ?_⟩
    · simp only [receive, hround, Option.bind_eq_bind, Option.bind_some]
      rfl
    · cases hresponded with
      | silent => exact Nat.zero_le 1
      | answered => exact Nat.le_refl 1
    · cases hresponded with
      | silent =>
        intro r hr
        cases hr
      | answered _ version response =>
        intro r hr
        rw [List.mem_singleton.mp hr]
        exact unrequesting_announcementFrame version response
    · intro h
      rw [runUdpResponder_of_unrequesting handler _ h] at hround
      cases hround
      rfl

/-- **Replies never provoke replies.** Whatever datagram a node is sent, an entity in any state with
any identity or a responder with any handler, no node answers its reply. And on a network of such
nodes, which may change in any way at any time, where anybody injects datagrams and each is
delivered to any node any number of times, every datagram a node sent answers an injected one. -/
theorem replies_never_provoke_replies {π' η' : Type} :
    (∀ (a : Node ι π η) origin data a' replies, a.receive origin data = some (a', replies) →
      ∀ r ∈ replies, ∀ (b : Node ι π' η') origin', ∃ b', b.receive origin' r = some (b', [])) ∧
    ∀ (nodes : List (Node ι π η)) events network,
      run (step Node.receive) ⟨nodes, []⟩ events = some network →
      ∀ packet ∈ network.packets, packet.generation ≤ 1 := by
  constructor
  · intro a origin data a' replies hreceive r hr b origin'
    obtain ⟨a'', replies', hreceive', -, hunrequesting, -⟩ := a.receive_spec origin data
    rw [hreceive] at hreceive'
    cases hreceive'
    obtain ⟨b', replies, hb, -, -, hsilent⟩ := b.receive_spec origin' r
    rw [hsilent (hunrequesting r hr)] at hb
    exact ⟨b', hb⟩
  · intro nodes events network hrun packet hpacket
    refine (run_generation_le_one (A := Unrequesting ι) ?_ hrun packet hpacket).1
    intro node origin data node' replies hreceive
    obtain ⟨node'', replies', hreceive', -, hunrequesting, hsilent⟩ :=
      node.receive_spec origin data
    rw [hreceive] at hreceive'
    cases hreceive'
    exact ⟨hunrequesting, hsilent⟩

end

/-- A request that claims to come from an entity is answered to it, and there it ends. -/
theorem replies_never_provoke_replies_spoofed :
    letI := plainWire
    let spoofed : Origin := ⟨0x7F000001, .v4 0x7F000001, 13400⟩
    let request : List UInt8 := [0x02, 0xFD, 0x00, 0x01, 0, 0, 0, 0]
    ∃ a' reply b',
      (Node.responder identifyingHandler () : Node Incomplete Unit Unit).receive spoofed request =
        some (a', [reply]) ∧
      (Node.entity countingEntity (0, 0) : Node Incomplete (Nat × Nat) Unit).receive spoofed reply =
        some (b', []) := by
  let := plainWire
  have h : ∃ a' reply, (Node.responder identifyingHandler () : Node Incomplete Unit Unit).receive
      ⟨0x7F000001, .v4 0x7F000001, 13400⟩ [0x02, 0xFD, 0x00, 0x01, 0, 0, 0, 0] =
      some (a', [reply]) := ⟨_, _, rfl⟩
  obtain ⟨a', reply, hreceive⟩ := h
  obtain ⟨b', hb⟩ := replies_never_provoke_replies.1 _ _ _ a' [reply] hreceive reply
    (List.mem_singleton.mpr rfl) (.entity countingEntity (0, 0) : Node Incomplete (Nat × Nat) Unit)
    ⟨0x7F000001, .v4 0x7F000001, 13400⟩
  exact ⟨a', reply, b', hreceive, hb⟩

end SimpleDoip
