import SimpleDoip.Discovery
import SimpleDoip.Framer.Usize

/-!
# Two answers to one question

The crate answers vehicle identification requests in two places: `Entity::on_udp_rx` and
`run_udp_responder`. Here the two are compared, for an entity and a handler of the same identity.
Both announce the same bytes to a plain request that fits the responder's buffer. To everything else
the responder is silent, where the entity answers the directed requests as well, reports its status
and refuses what it cannot decode. `responder_within_entity` says so for any sequence of datagrams.
-/

namespace SimpleDoip

open Transition

section
variable {ι : Type} [WireCodec ι] {π η : Type}

/-! ## The requests both answer -/

variable (ι) in
/-- A whole vehicle identification request that names no entity and fits the responder's buffer. -/
def PlainRequest (data : List UInt8) : Prop :=
  ∃ frame consumed, tryFrame (ι := ι) data = .ok (some (frame, consumed)) ∧
    frame.header.payloadType = .vehicleIdentificationRequest ∧ consumed ≤ Server.UDP_BUF_LEN

/-- The identity of an entity, as it announces it. A group id of zeros is none. -/
def Entity.identity (e : Entity π) : VehicleIdentificationResponse where
  vin := e.vin
  logicalAddress := ⟨e.logicalAddress⟩
  entityId := e.eid
  groupId := if e.gid = filledArray GID_LEN 0 then none else some e.gid
  furtherAction := .noFurtherActionRequired
  vinGidSyncStatus := .synchronized

/-- A handler that identifies itself as the entity does, whenever it is asked. -/
structure IdentificationHandler.Mirrors (handler : IdentificationHandler ι η) (e : Entity π) :
    Prop where
  identity : ∀ info state, handler.receivedVehicleIdentificationRequest info state =
    (.ok e.identity, state)
  version : ∀ state, handler.protocolVersion state = (PROTOCOL_VERSION, state)

/-- The bytes that both announce, which are those of the entity. -/
def Entity.announcement (e : Entity π) : List UInt8 :=
  Server.announcementFrame PROTOCOL_VERSION e.identity

/-! ## The responder -/

/-- The message that a plain request is for the responder: one of the plain type, in the part of the
datagram that it sees. -/
theorem plainRequest_iff {data : List UInt8} :
    PlainRequest ι data ↔ ∃ m, Server.decodeDatagram (ι := ι) (data.take Server.UDP_BUF_LEN) =
      some m ∧ m.payload = .vehicleIdentificationRequest ∧
      m.header.payloadType = .vehicleIdentificationRequest := by
  constructor
  · rintro ⟨frame, consumed, hframe, htype, hfit⟩
    have hdecode : Payload.decode (ι := ι) frame.payload frame.header.payloadType =
        .ok .vehicleIdentificationRequest := by
      rw [htype]
      rfl
    exact ⟨_, (decodeDatagram_eq_some_iff (tryFrame_take_of_le hframe hfit) _).mpr
      ⟨_, hdecode, rfl⟩, rfl, htype⟩
  · rintro ⟨m, hdecode, -, htype⟩
    cases hframe : tryFrame (ι := ι) (data.take Server.UDP_BUF_LEN) with
    | error e =>
      rw [decodeDatagram_of_error hframe] at hdecode
      cases hdecode
    | ok found =>
      rcases found with _ | ⟨frame, consumed⟩
      · rw [decodeDatagram_of_more hframe] at hdecode
        cases hdecode
      · obtain ⟨payload, -, rfl⟩ := (decodeDatagram_eq_some_iff hframe m).mp hdecode
        obtain ⟨hwhole, hfit⟩ := tryFrame_of_take hframe
        exact ⟨frame, consumed, hwhole, htype, hfit⟩

variable {e : Entity π} {handler : IdentificationHandler ι η}

/-- A responder announces its identity to a plain request, with the bytes of the entity. -/
theorem receive_responder_plain (hmirrors : handler.Mirrors e) (state : η) (origin : Origin)
    {data : List UInt8} (h : PlainRequest ι data) :
    (Node.responder handler state : Node ι π η).receive origin data =
      some (.responder handler state, [e.announcement]) := by
  obtain ⟨m, hdecode, hpayload, htype⟩ := plainRequest_iff.mp h
  obtain ⟨reply, size, hreply, hsize, hencode⟩ :=
    Server.encode_vehicleIdentificationResponse (ι := ι) PROTOCOL_VERSION e.identity
  simp only [Node.receive, Server.runUdpResponder, hdecode, hpayload, htype, ne_eq,
    not_true_eq_false, if_false, Server.identify, hmirrors.identity, hmirrors.version, hreply,
    hsize, hencode, Option.bind_eq_bind, Option.bind_some]
  rfl

/-- To anything but a plain request the responder is silent. -/
theorem receive_responder_other (state : η) (origin : Origin) {data : List UInt8}
    (h : ¬ PlainRequest ι data) :
    (Node.responder handler state : Node ι π η).receive origin data =
      some (.responder handler state, []) := by
  have hround : Server.runUdpResponder handler ⟨state, []⟩
      (.datagram ⟨origin.ipAddress, origin.port, data⟩) = some ⟨state, []⟩ := by
    rw [Server.runUdpResponder]
    split
    · rfl
    · next m hdecode =>
      split
      · rfl
      · next hpayload =>
        split
        · rfl
        · next htype =>
          exact absurd (plainRequest_iff.mpr ⟨m, hdecode, not_not.mp hpayload, not_not.mp htype⟩) h
  rw [Node.receive, hround]
  rfl

/-! ## The entity -/

/-- An entity that serves announces the same to a plain request, with the same bytes. -/
theorem udpAnswer_plain (hserving : e.callbacks.isSome = true) {data : List UInt8}
    (h : PlainRequest ι data) : e.udpAnswer (ι := ι) data = some e.announcement := by
  obtain ⟨frame, consumed, hframe, htype, -⟩ := h
  have hdata : data ≠ [] := by
    rintro rfl
    cases hframe
  have hlen : (bytes (Payload.vehicleAnnouncement e.identity)).length < 2 ^ 32 := by
    rw [length_bytes_announcement]
    decide
  have hdecode : Payload.decode (ι := ι) frame.payload frame.header.payloadType =
      .ok .vehicleIdentificationRequest := by
    rw [htype]
    rfl
  have hreply : e.udpReply (ι := ι) data = framed .vehicleAnnouncement
      (.vehicleAnnouncement e.identity) := by
    simp only [Entity.udpReply, hframe, hdecode]
    rfl
  rw [Entity.udpAnswer, if_pos ⟨hserving, hdata⟩, hreply, framed_eq hlen, Option.map_some,
    frame_eq_entityFrame, entityFrame, length_bytes_announcement]
  rfl

/-- What an entity receives changes nothing but its transmit buffer. -/
theorem receive_entity (state : π) (origin : Origin) (data : List UInt8) :
    ∃ txBuf state', (Node.entity e state : Node ι π η).receive origin data =
      some (.entity { e with txBuf } state', (e.udpAnswer (ι := ι) data).toList) := by
  obtain ⟨e', p', hrx, hcalls⟩ :=
    e.onUdpRx_calls (ι := ι) origin.srcAddr origin.port data ⟨state, []⟩
  have hreplies : p'.calls.filterMap PlatformCall.datagram =
      (e.udpAnswer (ι := ι) data).toList := by
    rw [hcalls]
    cases e.udpAnswer (ι := ι) data <;> rfl
  have hkept : ∃ txBuf, e' = { e with txBuf } := by
    rcases e.onUdpRx_spec (ι := ι) origin.srcAddr origin.port data ⟨state, []⟩ with h | h
    · cases h.symm.trans hrx
      exact ⟨e.txBuf, rfl⟩
    · obtain ⟨cb, frame, -, h⟩ := h
      cases h.symm.trans hrx
      exact ⟨_, rfl⟩
  obtain ⟨txBuf, rfl⟩ := hkept
  refine ⟨txBuf, p'.state, ?_⟩
  simp only [Node.receive, hrx, Option.bind_eq_bind, Option.bind_some, hreplies]
  rfl

/-! ## Any sequence of datagrams -/

/-- A node receives a datagram, and its answers add to those before. -/
def Node.listen (s : Node ι π η × List (List UInt8)) (d : Origin × List UInt8) :
    Option (Node ι π η × List (List UInt8)) :=
  (s.1.receive d.1 d.2).map fun received => (received.1, s.2 ++ received.2)

/-- A responder's answers to datagrams beside an entity's: announcements, some of what the entity
answers, and all of it if that is announcements to plain requests only. -/
structure Within (ι : Type) [WireCodec ι] (e : Entity π) (ds : List (Origin × List UInt8))
    (answers answers' : List (List UInt8)) : Prop where
  sublist : answers'.Sublist answers
  equal_iff : answers' = answers ↔
    ∀ d ∈ ds, PlainRequest ι d.2 ∨ e.udpAnswer (ι := ι) d.2 = none
  announced : ∀ r ∈ answers', r = e.announcement

/-- One datagram is answered by the responder as by the entity, by the entity alone, or not at
all. -/
theorem within_single (hserving : e.callbacks.isSome = true) (hmirrors : handler.Mirrors e)
    (state : η) (d : Origin × List UInt8) :
    ∃ answers', (Node.responder handler state : Node ι π η).receive d.1 d.2 =
        some (.responder handler state, answers') ∧
      Within ι e [d] (e.udpAnswer (ι := ι) d.2).toList answers' := by
  by_cases h : PlainRequest ι d.2
  · refine ⟨[e.announcement], receive_responder_plain hmirrors state d.1 h, ?_⟩
    rw [udpAnswer_plain hserving h]
    refine ⟨List.Sublist.refl _, ⟨fun _ d' hd' => ?_, fun _ => rfl⟩, fun r hr => ?_⟩
    · rw [List.mem_singleton.mp hd']
      exact .inl h
    · exact List.mem_singleton.mp hr
  · refine ⟨[], receive_responder_other state d.1 h, List.nil_sublist _, ?_, fun r hr => ?_⟩
    · constructor
      · intro heq d' hd'
        rw [List.mem_singleton.mp hd']
        exact .inr (Option.toList_eq_nil_iff.mp heq.symm)
      · intro hall
        rcases hall d (List.mem_singleton.mpr rfl) with hplain | hnone
        · exact absurd hplain h
        · rw [hnone, Option.toList_none]
    · cases hr

/-- Sublists of two parts make up the whole only if each is its part. -/
theorem append_eq_append_iff_of_sublist {α : Type} {xs xs' ys ys' : List α}
    (hxs : xs'.Sublist xs) (hys : ys'.Sublist ys) :
    xs' ++ ys' = xs ++ ys ↔ xs' = xs ∧ ys' = ys := by
  constructor
  · intro h
    have hlen := congrArg List.length h
    rw [List.length_append, List.length_append] at hlen
    have hxs_le := hxs.length_le
    have hys_le := hys.length_le
    exact ⟨hxs.eq_of_length (by omega), hys.eq_of_length (by omega)⟩
  · rintro ⟨rfl, rfl⟩
    rfl

/-- One datagram and the rest: the answers to each part are within those of the entity. -/
theorem Within.cons {d : Origin × List UInt8} {ds : List (Origin × List UInt8)}
    {xs xs' ys ys' : List (List UInt8)} (h : Within ι e [d] xs xs') (hrest : Within ι e ds ys ys') :
    Within ι e (d :: ds) (xs ++ ys) (xs' ++ ys') := by
  refine ⟨h.sublist.append hrest.sublist, ?_, fun r hr => ?_⟩
  · rw [append_eq_append_iff_of_sublist h.sublist hrest.sublist, h.equal_iff, hrest.equal_iff,
      List.forall_mem_singleton, List.forall_mem_cons]
  · rcases List.mem_append.mp hr with hr | hr
    · exact h.announced r hr
    · exact hrest.announced r hr

/-- Any datagrams, from whatever was sent before: by induction on the datagrams. -/
theorem within_of_run (state' : η) (ds : List (Origin × List UInt8)) (state : π)
    (before before' : List (List UInt8)) (hserving : e.callbacks.isSome = true)
    (hmirrors : handler.Mirrors e) :
    ∃ a b answers answers',
      run Node.listen ((.entity e state : Node ι π η), before) ds = some (a, before ++ answers) ∧
      run Node.listen ((.responder handler state' : Node ι π η), before') ds =
        some (b, before' ++ answers') ∧ Within ι e ds answers answers' := by
  induction ds generalizing e state before before' with
  | nil =>
    refine ⟨.entity e state, .responder handler state', [], [], ?_, ?_, List.Sublist.refl _,
      ⟨fun _ d hd => ?_, fun _ => rfl⟩, fun r hr => ?_⟩
    · rw [List.append_nil]
      rfl
    · rw [List.append_nil]
      rfl
    · cases hd
    · cases hr
  | cons d ds ih =>
    obtain ⟨txBuf, state₁, hentity⟩ := receive_entity (ι := ι) (η := η) (e := e) state d.1 d.2
    obtain ⟨xs', hresponder, hwithin⟩ := within_single hserving hmirrors state' d
    -- the entity's identity and what it answers are as before
    obtain ⟨a, b, ys, ys', hrun, hrun', hrest⟩ := ih (e := { e with txBuf }) state₁
      (before ++ (e.udpAnswer (ι := ι) d.2).toList) (before' ++ xs') hserving
      ⟨hmirrors.identity, hmirrors.version⟩
    have hrest : Within ι e ds ys ys' := ⟨hrest.sublist, hrest.equal_iff, hrest.announced⟩
    refine ⟨a, b, _, _, ?_, ?_, hwithin.cons hrest⟩
    · rw [run_cons, Node.listen, hentity, ← List.append_assoc]
      exact hrun
    · rw [run_cons, Node.listen, hresponder, ← List.append_assoc]
      exact hrun'

/-- **The responder answers within the entity.** An entity that serves, in any state, and a
responder whose handler has the same identity receive the same datagrams: none makes one of them
panic; what the responder sends are announcements of that identity, and the entity sends the same
and in the same order, among others; and both send the same bytes exactly if the entity answers
plain requests only. -/
theorem responder_within_entity (hserving : e.callbacks.isSome = true)
    (hmirrors : handler.Mirrors e) (state : π) (state' : η) (ds : List (Origin × List UInt8)) :
    ∃ a b answers answers',
      run Node.listen ((.entity e state : Node ι π η), []) ds = some (a, answers) ∧
      run Node.listen ((.responder handler state' : Node ι π η), []) ds = some (b, answers') ∧
      answers'.Sublist answers ∧
      (answers' = answers ↔ ∀ d ∈ ds, PlainRequest ι d.2 ∨ e.udpAnswer (ι := ι) d.2 = none) ∧
      ∀ r ∈ answers', r = e.announcement := by
  obtain ⟨a, b, answers, answers', hrun, hrun', hwithin⟩ :=
    within_of_run (ι := ι) state' ds state [] [] hserving hmirrors
  exact ⟨a, b, answers, answers', hrun, hrun', hwithin.sublist, hwithin.equal_iff,
    hwithin.announced⟩

end

/-- A handler with the identity of `countingEntity`, for the comparison of the two. -/
def countingHandler : IdentificationHandler Incomplete Unit where
  receivedVehicleIdentificationRequest _ state := (.ok countingEntity.identity, state)
  protocolVersion state := (PROTOCOL_VERSION, state)

/-- A vehicle identification request by EID, which names the entity it is for. -/
def directedRequest : List UInt8 := [0x02, 0xFD, 0x00, 0x02, 0, 0, 0, 6, 0, 0, 0, 0, 0, 0]

/-- A plain request, and one by EID, from the same address. -/
def plainAndDirected : List (Origin × List UInt8) :=
  [(⟨0x7F000001, .v4 0x7F000001, 13400⟩, [0x02, 0xFD, 0x00, 0x01, 0, 0, 0, 0]),
    (⟨0x7F000001, .v4 0x7F000001, 13400⟩, directedRequest)]

/-- The responder answers one of the two requests, the entity that one and the other. -/
theorem responder_within_entity_directed :
    letI := plainWire
    ∃ (a b : Node Incomplete (Nat × Nat) Unit) (answers answers' : List (List UInt8)),
      run Node.listen (.entity countingEntity (0, 0), []) plainAndDirected = some (a, answers) ∧
      run Node.listen (.responder countingHandler (), []) plainAndDirected = some (b, answers') ∧
      answers'.length = 1 ∧ answers'.Sublist answers ∧ answers' ≠ answers := by
  let := plainWire
  have hmirrors : countingHandler.Mirrors countingEntity := ⟨fun _ _ => rfl, fun _ => rfl⟩
  obtain ⟨a, b, answers, answers', hrun, hrun', hsublist, hequal, -⟩ :=
    responder_within_entity rfl hmirrors (0, 0) () plainAndDirected
  have hcount : (run Node.listen ((.responder countingHandler () :
      Node Incomplete (Nat × Nat) Unit), []) plainAndDirected).map (·.2.length) = some 1 := rfl
  rw [hrun'] at hcount
  have hdirected : ¬ PlainRequest Incomplete directedRequest := by
    rintro ⟨frame, consumed, hframe, htype, -⟩
    cases hframe
    cases htype
  have hanswered : (countingEntity.udpAnswer (ι := Incomplete) directedRequest).isSome = true := rfl
  refine ⟨a, b, answers, answers', hrun, hrun', Option.some.inj hcount, hsublist, fun h => ?_⟩
  rcases hequal.mp h _ (List.mem_cons_of_mem _ (List.mem_singleton.mpr rfl)) with hplain | hnone
  · exact hdirected hplain
  · rw [hnone] at hanswered
    cases hanswered

end SimpleDoip
