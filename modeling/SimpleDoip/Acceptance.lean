import SimpleDoip.Messages.Grammar
import SimpleDoip.Server.Responder

/-!
# What is accepted

A frame can be decoded in two ways. `Message::decode` reads header and payload in one go and is what
the UDP responder uses; the codec has the framer delimit the frame first and decodes its payload
then. `fused_and_split_agree` says that both fail alike and accept the same frames, up to the 1024
bytes of the responder's buffer.
`payload_grammar` says which frames these are, and which of the others end a connection.
-/

namespace SimpleDoip

open Reader

section
variable {ι : Type} [WireCodec ι]

/-! ## Framed buffers -/

/-- What the framer delimits is what the reader of the library reads. -/
theorem tryFrame_eq_item {src : List UInt8} {frame : RawFrame} {consumed : Nat}
    (h : tryFrame (ι := ι) src = .ok (some (frame, consumed))) :
    readFrame (inverseCheck (ι := ι)) src = .item frame consumed := by
  rw [← readingOf_tryFrame, h]
  rfl

/-- A frame takes up some of the buffer, and no more than all of it, so that taking it off leaves
less. -/
theorem tryFrame_consumed {src : List UInt8} {frame : RawFrame} {consumed : Nat}
    (h : tryFrame (ι := ι) src = .ok (some (frame, consumed))) :
    (src.drop consumed).length < src.length :=
  (frameCutter (inverseCheck (ι := ι))).drop_lt (tryFrame_eq_item h)

/-! ## The codec on one frame -/

namespace MessageCodec

/-- What a `decode` call leaves is the end of what it got: bytes are consumed from the front
only. -/
theorem decodeLoop_suffix {fuel : Nat} {src : List UInt8}
    {out : Except (MessageError ι) (Option OwnedMessage) × List UInt8}
    (h : decodeLoop fuel src = some out) : out.2 <:+ src := by
  induction fuel generalizing src with
  | zero => cases h
  | succ fuel ih =>
    rw [decodeLoop] at h
    cases ht : tryFrame (ι := ι) src with
    | error e =>
      rw [ht] at h
      cases h
      exact List.suffix_rfl
    | ok o =>
      rw [ht] at h
      rcases o with _ | ⟨frame, consumed⟩
      · cases h
        exact List.suffix_rfl
      · dsimp only at h
        cases hp : Payload.decode (ι := ι) frame.payload frame.header.payloadType with
        | ok payload =>
          rw [hp] at h
          cases h
          exact List.drop_suffix consumed src
        | error e =>
          rw [hp] at h
          dsimp only at h
          split at h
          · cases h
            exact List.suffix_rfl
          · exact (ih h).trans (List.drop_suffix consumed src)

/-- A frame whose body is too short fails the connection and stays in the buffer. -/
theorem decode_fatal {src : List UInt8} {frame : RawFrame} {consumed : Nat} {e : MessageError ι}
    (ht : tryFrame src = .ok (some (frame, consumed)))
    (hp : Payload.decode frame.payload frame.header.payloadType = .error e)
    (hfatal : e.isFramingFatal = true) : decode src = some (.error e, src) := by
  simp only [decode, decodeLoop, ht, hp, hfatal, if_true]

/-- A frame that cannot be decoded for another reason is skipped, and decoding goes on behind it. -/
theorem decode_skip {src : List UInt8} {frame : RawFrame} {consumed : Nat} {e : MessageError ι}
    (ht : tryFrame src = .ok (some (frame, consumed)))
    (hp : Payload.decode frame.payload frame.header.payloadType = .error e)
    (hskip : e.isFramingFatal = false) :
    decode (ι := ι) src = decodeLoop src.length (src.drop consumed) := by
  simp [decode, decodeLoop, ht, hp, hskip]

/-- Skipping a frame leaves less than there was, so that it is not the result of failing on it. -/
theorem length_lt_of_decodeLoop {src : List UInt8} {frame : RawFrame} {consumed fuel : Nat}
    {out : Except (MessageError ι) (Option OwnedMessage) × List UInt8}
    (ht : tryFrame (ι := ι) src = .ok (some (frame, consumed)))
    (h : decodeLoop fuel (src.drop consumed) = some out) : out.2.length < src.length :=
  (decodeLoop_suffix h).length_le.trans_lt (tryFrame_consumed ht)

/-- The codec fails on a frame, and leaves it where it is, exactly if the frame's type is supported
and its body too short. -/
theorem decode_error_iff {src : List UInt8} {frame : RawFrame} {consumed : Nat}
    (ht : tryFrame (ι := ι) src = .ok (some (frame, consumed))) :
    (∃ e, decode (ι := ι) src = some (.error e, src)) ↔
      frame.header.payloadType.supported = true ∧
        frame.payload.length < frame.header.payloadType.minimum := by
  rw [← Payload.decode_incomplete_iff (ι := ι)]
  constructor
  · rintro ⟨e, herror⟩
    cases hp : Payload.decode (ι := ι) frame.payload frame.header.payloadType with
    | ok payload =>
      rw [decode_item (tryFrame_eq_item ht) hp] at herror
      cases herror
    | error e' =>
      rcases Payload.decode_error_cases hp with ⟨-, rfl⟩ | ⟨-, i, rfl⟩
      · rw [decode_skip ht hp rfl] at herror
        exact absurd (length_lt_of_decodeLoop ht herror) (Nat.lt_irrefl _)
      · exact ⟨i, rfl⟩
  · rintro ⟨i, hp⟩
    exact ⟨_, decode_fatal ht hp rfl⟩

end MessageCodec

/-- **The grammar of payloads.** A payload is decoded exactly if its type is supported and its bytes
are at least as many as the type needs. It fails with `UnsupportedPayloadType` exactly if the type
is not supported, whatever the bytes, and with `Incomplete` in every other case. So the codec fails
on a complete frame with a sound header exactly if its type is supported and its body too short. -/
theorem payload_grammar (t : PayloadType) (p : List UInt8) :
    ((∃ payload, Payload.decode (ι := ι) p t = .ok payload) ↔
      t.supported = true ∧ t.minimum ≤ p.length) ∧
    ((∃ t', Payload.decode (ι := ι) p t = .error (.unsupportedPayloadType t')) ↔
      t.supported = false) ∧
    ((∃ e, Payload.decode (ι := ι) p t = .error (.incomplete e)) ↔
      t.supported = true ∧ p.length < t.minimum) ∧
    ∀ src frame consumed, tryFrame (ι := ι) src = .ok (some (frame, consumed)) →
      ((∃ e, MessageCodec.decode (ι := ι) src = some (.error e, src)) ↔
        frame.header.payloadType.supported = true ∧
          frame.payload.length < frame.header.payloadType.minimum) := by
  refine ⟨Payload.decode_ok_iff t p, Payload.decode_unsupported_iff t p,
    Payload.decode_incomplete_iff t p, ?_⟩
  intro src frame consumed hframe
  exact MessageCodec.decode_error_iff hframe

end

/-- A negative acknowledgement without a code fails the connection, though its frame is complete. -/
theorem payload_grammar_empty_nack :
    letI := plainWire
    let frame : List UInt8 := [0x02, 0xFD, 0x00, 0x00, 0, 0, 0, 0]
    tryFrame frame = .ok (some (⟨headerOf 0x02 0xFD 0x0000 0, []⟩, 8)) ∧
    ∃ e, MessageCodec.decode frame = some (.error e, frame) := by
  let := plainWire
  have hframe : tryFrame [0x02, 0xFD, 0x00, 0x00, 0, 0, 0, 0] =
      .ok (some (⟨headerOf 0x02 0xFD 0x0000 0, []⟩, 8)) := rfl
  refine ⟨hframe, ?_⟩
  exact ((payload_grammar .negativeAcknowledge []).2.2.2 _ _ _ hframe).mpr ⟨rfl, by decide⟩

section
variable {ι : Type} [WireCodec ι]

/-! ## Decoding in one go -/

/-- A frame is delimited by the bytes it takes up, whatever follows them. -/
theorem tryFrame_take {src : List UInt8} {frame : RawFrame} {consumed : Nat}
    (h : tryFrame (ι := ι) src = .ok (some (frame, consumed))) :
    tryFrame (ι := ι) (src.take consumed) = .ok (some (frame, consumed)) := by
  obtain ⟨v, i, t, n, rest, rfl, hheader, hlen, rfl, hcheck⟩ :=
    readFrame_eq_item (tryFrame_eq_item h)
  obtain ⟨header, payload⟩ := frame
  obtain rfl : header = headerOf v i t n := hheader
  have htake : (rawHeader v i t n ++ (payload ++ rest)).take (8 + n.toNat) =
      rawHeader v i t n ++ (payload ++ []) := by
    rw [← List.append_assoc, List.take_left' (by simp [← hlen]), List.append_nil]
  rw [htake]
  exact readingOf_injective ((readingOf_tryFrame _).trans (readFrame_of_parts hcheck hlen []))

/-- A frame in the responder's buffer is the one in the datagram, and ends within the buffer. -/
theorem tryFrame_of_take {data : List UInt8} {n : Nat} {frame : RawFrame} {consumed : Nat}
    (h : tryFrame (ι := ι) (data.take n) = .ok (some (frame, consumed))) :
    tryFrame (ι := ι) data = .ok (some (frame, consumed)) ∧ consumed ≤ n := by
  have hdecided : tryFrame (ι := ι) (data.take n) ≠ .ok none := by
    rw [h]
    rintro ⟨⟩
  have happend := tryFrame_append hdecided (data.drop n)
  rw [List.take_append_drop, h] at happend
  obtain ⟨v, i, t, len, rest, heq, -, hlen, rfl, -⟩ := readFrame_eq_item (tryFrame_eq_item h)
  refine ⟨happend, ?_⟩
  have htotal := congrArg List.length heq
  rw [List.length_take, List.length_append, List.length_append, length_rawHeader] at htotal
  omega

/-- A frame that ends within the responder's buffer is in the buffer as it is in the datagram. -/
theorem tryFrame_take_of_le {data : List UInt8} {n : Nat} {frame : RawFrame} {consumed : Nat}
    (h : tryFrame (ι := ι) data = .ok (some (frame, consumed))) (hfit : consumed ≤ n) :
    tryFrame (ι := ι) (data.take n) = .ok (some (frame, consumed)) := by
  have hframe := tryFrame_take h
  have hdecided : tryFrame (ι := ι) (data.take consumed) ≠ .ok none := by
    rw [hframe]
    rintro ⟨⟩
  have hsplit : data.take consumed ++ (data.take n).drop consumed = data.take n := by
    have htake : data.take consumed = (data.take n).take consumed := by
      rw [List.take_take, Nat.min_eq_left hfit]
    rw [htake, List.take_append_drop]
  rw [← hsplit, tryFrame_append hdecided, hframe]

/-- Bytes that still need more are too few for a message, and decoding them in one go says so. -/
theorem Message.decode_of_more {b : List UInt8} (h : tryFrame (ι := ι) b = .ok none) :
    ∃ e, Message.decode (ι := ι) b = .error (.incomplete e) := by
  have hread : readFrame (inverseCheck (ι := ι)) b = .more := by
    rw [← readingOf_tryFrame, h]
    rfl
  by_cases hs : b.length < 8
  · obtain ⟨e, ⟨i, rfl⟩, he⟩ := Header.decode_short (ι := ι) hs
    exact ⟨i, by rw [Message.decode, he]; rfl⟩
  obtain ⟨v, i, t, n, rest, rfl⟩ := exists_rawHeader (Nat.le_of_not_lt hs)
  rw [readFrame_raw, inverseCheck_headerOf] at hread
  by_cases hi : ~~~v = i
  · -- the header is sound, so the payload is cut off
    by_cases hrest : rest.length < n.toNat
    · obtain ⟨e, ⟨j, rfl⟩, he⟩ := (takes_take (ι := ι) n.toNat rest).short hrest
      refine ⟨j, ?_⟩
      rw [Message.decode, Header.decode_raw, if_pos hi, ok_bind]
      change (incomplete (WireCodec.take rest n.toNat) >>= _) = _
      rw [he]
      rfl
    · simp [hi, hrest] at hread
  · simp [hi] at hread

/-- A rejected header is rejected in one go as well, for the same reason. -/
theorem Message.decode_of_error {b : List UInt8} {e : MessageError ι} (h : tryFrame b = .error e) :
    ∃ expected value, e = .versionInverseIncorrect expected value ∧
      Message.decode (ι := ι) b = .error e := by
  have hread : readFrame (inverseCheck (ι := ι)) b = .fail e := by
    rw [← readingOf_tryFrame, h]
    rfl
  obtain ⟨v, i, t, n, rest, rfl, hcheck⟩ := readFrame_eq_fail hread
  rw [inverseCheck_headerOf] at hcheck
  by_cases hi : ~~~v = i
  · simp [hi] at hcheck
  · rw [if_neg hi] at hcheck
    cases hcheck
    refine ⟨~~~v, i, rfl, ?_⟩
    rw [Message.decode, Header.decode_raw, if_neg hi]
    rfl

/-- A delimited frame is decoded by its payload, and what follows it is left alone. -/
theorem Message.decode_of_item {b : List UInt8} {frame : RawFrame} {consumed : Nat}
    (h : tryFrame (ι := ι) b = .ok (some (frame, consumed))) :
    Message.decode (ι := ι) b =
      Payload.decode frame.payload frame.header.payloadType >>= fun payload =>
        .ok (⟨frame.header, payload⟩, b.drop consumed) := by
  obtain ⟨v, i, t, n, rest, rfl, hheader, hlen, rfl, hcheck⟩ :=
    readFrame_eq_item (tryFrame_eq_item h)
  obtain ⟨header, payload⟩ := frame
  obtain rfl : header = headerOf v i t n := hheader
  rw [inverseCheck_headerOf] at hcheck
  have hi : ~~~v = i := by
    by_contra hi
    simp [hi] at hcheck
  have hdrop : (rawHeader v i t n ++ (payload ++ rest)).drop (8 + n.toNat) = rest := by
    rw [← List.append_assoc, List.drop_left' (by simp [← hlen])]
  rw [hdrop, Message.decode, Header.decode_raw, if_pos hi, ok_bind]
  change (incomplete (WireCodec.take (payload ++ rest) n.toNat) >>= _) = _
  rw [← hlen, WireCodec.take_append]
  rfl

/-- A buffer that asks for more holds no message for the responder. -/
theorem decodeDatagram_of_more {b : List UInt8} (h : tryFrame (ι := ι) b = .ok none) :
    Server.decodeDatagram (ι := ι) b = none := by
  obtain ⟨e, he⟩ := Message.decode_of_more h
  rw [Server.decodeDatagram, he]

theorem decodeDatagram_of_error {b : List UInt8} {e : MessageError ι}
    (h : tryFrame (ι := ι) b = .error e) : Server.decodeDatagram (ι := ι) b = none := by
  obtain ⟨-, -, -, he⟩ := Message.decode_of_error h
  rw [Server.decodeDatagram, he]

/-- The responder accepts what a delimited frame decodes to, and nothing else. -/
theorem decodeDatagram_eq_some_iff {b : List UInt8} {frame : RawFrame} {consumed : Nat}
    (h : tryFrame (ι := ι) b = .ok (some (frame, consumed))) (m : Message) :
    Server.decodeDatagram (ι := ι) b = some m ↔ ∃ payload,
      Payload.decode (ι := ι) frame.payload frame.header.payloadType = .ok payload ∧
        m = ⟨frame.header, payload⟩ := by
  rw [Server.decodeDatagram, Message.decode_of_item h]
  cases Payload.decode (ι := ι) frame.payload frame.header.payloadType with
  | ok payload => simp [eq_comm]
  | error e => simp

/-- The codec accepts what a delimited frame decodes to as well, on a buffer that is one frame. -/
theorem MessageCodec.decode_frame_iff {b : List UInt8} {frame : RawFrame}
    (h : tryFrame (ι := ι) b = .ok (some (frame, b.length))) (m : OwnedMessage) :
    decode (ι := ι) b = some (.ok (some m), []) ↔ ∃ payload,
      Payload.decode (ι := ι) frame.payload frame.header.payloadType = .ok payload ∧
        m = ⟨frame.header, payload⟩ := by
  cases hp : Payload.decode (ι := ι) frame.payload frame.header.payloadType with
  | ok payload =>
    rw [decode_item (tryFrame_eq_item h) hp, List.drop_length]
    simp [eq_comm]
  | error e =>
    have hnot : decode (ι := ι) b ≠ some (.ok (some m), []) := by
      rcases Payload.decode_error_cases hp with ⟨-, rfl⟩ | ⟨-, i, rfl⟩
      · -- the frame is skipped and nothing is behind it
        have hpos : 0 < b.length := Nat.zero_lt_of_lt (tryFrame_consumed h)
        obtain ⟨fuel, hfuel⟩ := Nat.exists_eq_succ_of_ne_zero (Nat.ne_of_gt hpos)
        have hnil : tryFrame (ι := ι) [] = .ok none := rfl
        rw [decode_skip h hp rfl, List.drop_length, hfuel, decodeLoop, hnil]
        simp
      · rw [decode_fatal h hp rfl]
        simp
    simp [hnot]

/-- What the responder's buffer decodes to is in a frame of the datagram that ends within the
buffer. -/
theorem exists_frame_of_decodeDatagram {b : List UInt8} {m : Message}
    (h : Server.decodeDatagram (ι := ι) (b.take Server.UDP_BUF_LEN) = some m) :
    ∃ frame consumed, tryFrame (ι := ι) b = .ok (some (frame, consumed)) ∧
      consumed ≤ Server.UDP_BUF_LEN := by
  cases hframe : tryFrame (ι := ι) (b.take Server.UDP_BUF_LEN) with
  | error e =>
    rw [decodeDatagram_of_error hframe] at h
    cases h
  | ok found =>
    rcases found with _ | ⟨frame, consumed⟩
    · rw [decodeDatagram_of_more hframe] at h
      cases h
    · exact ⟨frame, consumed, tryFrame_of_take hframe⟩

/-- **The fused and the split decoder agree.** Where the framer needs more bytes, decoding a message
fails with `Incomplete`; where it rejects the header, decoding fails with the same error; where it
delimits a frame, decoding fails as the payload does and otherwise gives header, payload and
what follows the frame.

The responder decodes what of a datagram fits its buffer. So it accepts a frame of at most 1024
bytes exactly if the codec does, and no longer one; where the framer finds no frame, neither of them
accepts anything. -/
theorem fused_and_split_agree (b : List UInt8) :
    (tryFrame (ι := ι) b = .ok none → ∃ e, Message.decode (ι := ι) b = .error (.incomplete e)) ∧
    (∀ e, tryFrame (ι := ι) b = .error e → ∃ expected value,
      e = .versionInverseIncorrect expected value ∧ Message.decode b = .error e) ∧
    (∀ frame consumed, tryFrame (ι := ι) b = .ok (some (frame, consumed)) →
      (∀ e, Message.decode (ι := ι) b = .error e ↔
        Payload.decode frame.payload frame.header.payloadType = .error e) ∧
      ∀ payload, Payload.decode (ι := ι) frame.payload frame.header.payloadType = .ok payload →
        Message.decode (ι := ι) b = .ok (⟨frame.header, payload⟩, b.drop consumed)) ∧
    (∀ frame consumed, tryFrame (ι := ι) b = .ok (some (frame, consumed)) →
      (consumed ≤ Server.UDP_BUF_LEN →
        ∀ m, Server.decodeDatagram (ι := ι) (b.take Server.UDP_BUF_LEN) = some m ↔
          MessageCodec.decode (ι := ι) (b.take consumed) = some (.ok (some m), [])) ∧
      (Server.UDP_BUF_LEN < consumed →
        Server.decodeDatagram (ι := ι) (b.take Server.UDP_BUF_LEN) = none)) ∧
    ((∀ frame consumed, tryFrame (ι := ι) b ≠ .ok (some (frame, consumed))) →
      Server.decodeDatagram (ι := ι) (b.take Server.UDP_BUF_LEN) = none ∧
      ∀ m rest, MessageCodec.decode (ι := ι) b ≠ some (.ok (some m), rest)) := by
  refine ⟨Message.decode_of_more, fun e => Message.decode_of_error, ?_, ?_, ?_⟩
  · intro frame consumed hframe
    rw [Message.decode_of_item hframe]
    cases hp : Payload.decode (ι := ι) frame.payload frame.header.payloadType with
    | ok payload => simp
    | error e' => simp
  · intro frame consumed hframe
    constructor
    · intro hfit m
      have hlen : (b.take consumed).length = consumed := by
        obtain ⟨v, i, t, n, rest, rfl, -, hpayload, rfl, -⟩ :=
          readFrame_eq_item (tryFrame_eq_item hframe)
        simp [hpayload]
      have halone := tryFrame_take hframe
      rw [decodeDatagram_eq_some_iff (tryFrame_take_of_le hframe hfit)]
      refine (MessageCodec.decode_frame_iff ?_ m).symm
      rwa [hlen]
    · intro hlong
      rw [Option.eq_none_iff_forall_ne_some]
      intro m hdecode
      obtain ⟨frame', consumed', hframe', hfit⟩ := exists_frame_of_decodeDatagram hdecode
      rw [hframe] at hframe'
      cases hframe'
      exact absurd hfit (Nat.not_le.mpr hlong)
  · intro hnone
    constructor
    · rw [Option.eq_none_iff_forall_ne_some]
      intro m hdecode
      obtain ⟨frame, consumed, hframe, -⟩ := exists_frame_of_decodeDatagram hdecode
      exact hnone frame consumed hframe
    · cases ht : tryFrame (ι := ι) b with
      | error e => simp [MessageCodec.decode, MessageCodec.decodeLoop, ht]
      | ok o =>
        cases o with
        | none => simp [MessageCodec.decode, MessageCodec.decodeLoop, ht]
        | some x => exact absurd ht (hnone x.1 x.2)

end

/-- An alive check response with a byte behind it, decoded in one go and frame by frame. -/
theorem fused_and_split_agree_alive :
    letI := plainWire
    let buf : List UInt8 := [0x02, 0xFD, 0x00, 0x08, 0, 0, 0, 2, 0x0E, 0x00, 0xAA]
    let message : Message := Message.aliveCheckResponse .v2012 ⟨0x0E00⟩
    tryFrame buf = .ok (some (⟨message.header, [0x0E, 0x00]⟩, 10)) ∧
    Message.decode buf = .ok (message, [0xAA]) := by
  let := plainWire
  have hframe : tryFrame [0x02, 0xFD, 0x00, 0x08, 0, 0, 0, 2, 0x0E, 0x00, 0xAA] =
      .ok (some (⟨(Message.aliveCheckResponse .v2012 ⟨0x0E00⟩).header, [0x0E, 0x00]⟩, 10)) := rfl
  refine ⟨hframe, ?_⟩
  exact ((fused_and_split_agree _).2.2.1 _ _ hframe).2 (.aliveCheckResponse ⟨⟨0x0E00⟩⟩) rfl

/-- A vehicle identification request with so many bytes behind its header, which the decoder passes
over. -/
def paddedRequest (padding : UInt32) : List UInt8 :=
  rawHeader 0x02 0xFD 0x0001 padding ++ List.replicate padding.toNat 0

/-- A request of 1025 bytes is one message for the codec. The responder finds it cut in its buffer
and leaves it unanswered, where it answers the same request with one byte less. -/
theorem long_request_unanswered :
    letI := plainWire
    let request : OwnedMessage := ⟨headerOf 0x02 0xFD 0x0001 1017, .vehicleIdentificationRequest⟩
    let respond (data : List UInt8) := Server.runUdpResponder identifyingHandler ⟨(), []⟩
      (.datagram ⟨.v4 0x7F000001, 13400, data⟩)
    (paddedRequest 1017).length = 1025 ∧
    MessageCodec.decode (paddedRequest 1017) = some (.ok (some request), []) ∧
    (respond (paddedRequest 1017)).map (·.sent.length) = some 0 ∧
    (respond (paddedRequest 1016)).map (·.sent.length) = some 1 := by
  let := plainWire
  refine ⟨?_, ?_, ?_, ?_⟩
  · rw [paddedRequest, List.length_append, length_rawHeader, List.length_replicate]
    rfl
  · decide +kernel
  · decide +kernel
  · decide +kernel

end SimpleDoip
