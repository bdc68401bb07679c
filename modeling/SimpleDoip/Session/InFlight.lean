import SimpleDoip.Session.EntitySide

/-!
# What is in flight

Where the messages of a session are between the two ends: nothing, a message that waits to be
written, a frame on its way to the entity, or replies on their way to the client. Each stretch of
the way has a lemma that says what moving along it does.
-/

namespace SimpleDoip

open Framing

section
variable {ι : Type} [WireCodec ι] {π : Type}

/-- Nothing is on its way to the entity, and `replies` are on their way to the client: the first of
them decoded and in the channel from the socket, the rest as bytes. -/
structure Inbound (ι : Type) [WireCodec ι] (own tester : UInt16) (net : Network π)
    (replies : List Reply) : Prop where
  toSocket : net.toSocket = []
  uplink : net.uplink = []
  residue : net.entity.residue = []
  stream : ∃ here there, replies = here ++ there ∧
    net.fromSocket = here.map (Reply.message (ι := ι) own tester) ∧
    net.readBuffer ++ net.downlink = there.flatMap (Reply.frame (ι := ι) own tester)

/-- Nothing is on its way to the client: no bytes, and no messages. -/
structure NothingInbound (net : Network π) : Prop where
  downlink : net.downlink = []
  readBuffer : net.readBuffer = []
  fromSocket : net.fromSocket = []

/-- A message waits to be written, and nothing else is on its way in either direction. -/
structure Outbound (net : Network π) (m : OwnedMessage) : Prop extends NothingInbound net where
  toSocket : net.toSocket = [m]
  uplink : net.uplink = []
  residue : net.entity.residue = []

/-- The bytes of a frame arrive at the entity: some are in its buffer, the rest is on its way. -/
structure Arriving (net : Network π) (wire : List UInt8) : Prop extends NothingInbound net where
  toSocket : net.toSocket = []
  uplink : net.uplink ≠ []
  wire : net.entity.residue ++ net.uplink = wire

section
variable {own tester : UInt16} {net : Network π} {replies : List Reply}

theorem Inbound.nothing (h : Inbound ι own tester net []) : NothingInbound net := by
  obtain ⟨here, there, hsplit, hfrom, hbytes⟩ := h.stream
  obtain ⟨rfl, rfl⟩ := List.append_eq_nil_iff.mp hsplit.symm
  obtain ⟨hread, hdown⟩ := List.append_eq_nil_iff.mp hbytes
  exact ⟨hdown, hread, hfrom⟩

/-- What is in flight does not depend on the user and the client, but on what lies between the two
ends. -/
theorem Inbound.ofEnds (h : Inbound ι own tester net replies) (user : User) (client : World) :
    Inbound ι own tester { net with user, client } replies :=
  ⟨h.toSocket, h.uplink, h.residue, h.stream⟩

/-- The next message in the channel is the next reply, and the rest of the replies stay in
flight. -/
theorem Inbound.next (h : Inbound ι own tester net replies) {m : OwnedMessage}
    {rest : List OwnedMessage} (hfrom : net.fromSocket = m :: rest) :
    ∃ reply replies', replies = reply :: replies' ∧ m = reply.message (ι := ι) own tester ∧
      Inbound ι own tester { net with fromSocket := rest } replies' := by
  obtain ⟨here, there, rfl, hhere, hbytes⟩ := h.stream
  rw [hfrom] at hhere
  cases here with
  | nil => cases hhere
  | cons reply here =>
    obtain ⟨rfl, rfl⟩ := List.cons.inj hhere
    exact ⟨reply, here ++ there, rfl, rfl, h.toSocket, h.uplink, h.residue, here, there, rfl, rfl,
      hbytes⟩

/-- Bytes move to the decoder's buffer, and the replies stay what they are. -/
theorem Inbound.read (h : Inbound ι own tester net replies) (n : Nat) :
    Inbound ι own tester { net with
      readBuffer := net.readBuffer ++ net.downlink.take n, downlink := net.downlink.drop n }
      replies where
  toSocket := h.toSocket
  uplink := h.uplink
  residue := h.residue
  stream := by
    obtain ⟨here, there, hsplit, hfrom, hbytes⟩ := h.stream
    refine ⟨here, there, hsplit, hfrom, ?_⟩
    change net.readBuffer ++ net.downlink.take n ++ net.downlink.drop n = _
    rw [List.append_assoc, List.take_append_drop, hbytes]

/-- What the decoder finds in its buffer: part of a reply, or a reply and what follows it. -/
theorem Inbound.decode (h : Inbound ι own tester net replies)
    (hfits : ∀ reply ∈ replies, reply.Fits) :
    MessageCodec.decode (ι := ι) net.readBuffer = some (.ok none, net.readBuffer) ∨
    ∃ (reply : Reply) (rest : List UInt8), reply.Fits ∧
      net.readBuffer = reply.frame (ι := ι) own tester ++ rest ∧
      MessageCodec.decode (ι := ι) net.readBuffer =
        some (.ok (some (reply.message (ι := ι) own tester)), rest) ∧
      Inbound ι own tester { net with
        readBuffer := rest
        fromSocket := net.fromSocket ++ [reply.message (ι := ι) own tester] } replies := by
  obtain ⟨here, there, rfl, hfrom, hbytes⟩ := h.stream
  cases there with
  | nil =>
    obtain ⟨hread, -⟩ := List.append_eq_nil_iff.mp hbytes
    rw [hread]
    exact .inl (MessageCodec.decode_more rfl)
  | cons reply there =>
    have hfit := hfits reply (List.mem_append_right _ List.mem_cons_self)
    rw [List.flatMap_cons] at hbytes
    by_cases hlt : net.readBuffer.length < (reply.frame (ι := ι) own tester).length
    · have hprefix : net.readBuffer =
          (reply.frame (ι := ι) own tester).take net.readBuffer.length := by
        have := congrArg (List.take net.readBuffer.length) hbytes
        rwa [List.take_left, List.take_append_of_le_length hlt.le] at this
      refine .inl ?_
      have hdecode := Reply.decode_take (ι := ι) hfit hlt
      rwa [← hprefix] at hdecode
    · have hsplit : net.readBuffer = reply.frame (ι := ι) own tester ++
          net.readBuffer.drop (reply.frame (ι := ι) own tester).length := by
        have := congrArg (List.take (reply.frame (ι := ι) own tester).length) hbytes
        rw [List.take_left, List.take_append_of_le_length (Nat.le_of_not_lt hlt)] at this
        conv_lhs => rw [← List.take_append_drop (reply.frame (ι := ι) own tester).length
          net.readBuffer, this]
      generalize net.readBuffer.drop (reply.frame (ι := ι) own tester).length = rest at hsplit
      refine .inr ⟨reply, rest, hfit, hsplit, ?_, h.toSocket, h.uplink, h.residue, here ++ [reply],
        there, ?_, ?_, ?_⟩
      · rw [hsplit]
        exact Reply.decode_frame hfit rest
      · rw [List.append_assoc, List.cons_append, List.nil_append]
      · rw [hfrom, List.map_append]
        rfl
      · rw [hsplit, List.append_assoc] at hbytes
        exact List.append_cancel_left hbytes

/-- While a reply is on its way as bytes, the decoder or the network can go on. -/
theorem Inbound.progress (h : Inbound ι own tester net replies) (hreplies : replies ≠ [])
    (hfrom : net.fromSocket = []) (hfits : ∀ reply ∈ replies, reply.Fits) (target : Target)
    (horizon : Nat) :
    ∃ move net', (move = .decode ∨ move = .read 1) ∧
      net.step ι target horizon move = some net' := by
  rcases h.decode hfits with hnone | ⟨reply, rest, -, -, hdecode, -⟩
  · -- the buffer holds less than a reply, so there are bytes to read
    have hdown : net.downlink ≠ [] := by
      intro hnil
      obtain ⟨here, there, rfl, hhere, hbytes⟩ := h.stream
      rw [hfrom] at hhere
      obtain rfl := List.map_eq_nil_iff.mp hhere.symm
      cases there with
      | nil => exact hreplies rfl
      | cons reply there =>
        rw [hnil, List.append_nil, List.flatMap_cons] at hbytes
        rw [hbytes, Reply.decode_frame (hfits reply List.mem_cons_self)] at hnone
        cases hnone
    have hpos := List.length_pos_of_ne_nil hdown
    exact ⟨.read 1, _, .inr rfl, Network.step_read ⟨Nat.one_pos, hpos⟩⟩
  · have hroom : net.fromSocket.length < SOCKET_CHANNEL_CAP := by
      rw [hfrom]
      decide
    exact ⟨.decode, _, .inl rfl, Network.step_decode hroom hdecode⟩

end

end

end SimpleDoip
