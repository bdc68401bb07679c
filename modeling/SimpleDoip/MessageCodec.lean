import SimpleDoip.Framer

/-!
# The message codec

`MessageCodec` turns the bytes of a TCP stream into messages. One `decode` call looks for the next
message in the buffer: it skips frames whose body cannot be decoded but whose header was sound,
fails on a bad header or a truncated body without consuming it, and otherwise hands out a message
or asks for more.

`codec_chunk_independent` compares a connection that feeds the buffer chunk by chunk, decoding
after each, with `referenceDecode`, which splits the whole stream by its headers and decodes the
frames in order.
-/

namespace SimpleDoip

open Framing

section
variable {ι : Type} [WireCodec ι]

namespace MessageCodec

/-- The loop of `Decoder::decode`, for at most `fuel` frames: the result and the bytes it left in
`src`. -/
def decodeLoop : Nat → List UInt8 →
    Option (Except (MessageError ι) (Option OwnedMessage) × List UInt8)
  | 0, _ => none
  | fuel + 1, src =>
    match tryFrame src with
    | .error e => some (.error e, src)
    | .ok none => some (.ok none, src)
    | .ok (some (frame, consumed)) =>
      match Payload.decode frame.payload frame.header.payloadType with
      | .ok payload => some (.ok (some { header := frame.header, payload }), src.drop consumed)
      | .error e =>
        if e.isFramingFatal then some (.error e, src)
        -- recoverable: the frame is dropped and decoding resyncs on the next one
        else decodeLoop fuel (src.drop consumed)

/-- `Decoder::decode`. Every round but the last consumes a frame, so the loop has at most as many
rounds as `src` has bytes, and one. -/
def decode (src : List UInt8) :
    Option (Except (MessageError ι) (Option OwnedMessage) × List UInt8) :=
  decodeLoop (src.length + 1) src

/-- `Encoder::encode`: the message's bytes go to `dst` once they are complete, so that a failed
encoding leaves nothing behind. -/
def encode (message : OwnedMessage) (dst : List UInt8) :
    Except (MessageError ι) Unit × List UInt8 :=
  match Encode.encodedSize message with
  | .error e => (.error e, dst)
  | .ok _ =>
    match Encode.encode message ([] : List UInt8) with
    | .error e _ => (.error e, dst)
    | .ok _ out => (.ok (), dst ++ out)

/-! ## Driving the decoder -/

/-- What a connection has after decoding: the messages in order, the error that ended it if any,
and the bytes left in the buffer. -/
structure Decoded (ι : Type) where
  messages : List OwnedMessage
  status : Option (MessageError ι)
  buffer : List UInt8

/-- Call `decode` until it asks for more or fails, as a stream does with one buffer. -/
def decodeAll : Nat → List OwnedMessage → List UInt8 → Option (Decoded ι)
  | 0, _, _ => none
  | fuel + 1, messages, src =>
    match decode src with
    | none => none
    | some (.ok (some m), src') => decodeAll fuel (messages ++ [m]) src'
    | some (.ok none, src') => some ⟨messages, none, src'⟩
    | some (.error e, src') => some ⟨messages, some e, src'⟩

/-- Append the chunks one by one, decoding after each, and feed nothing after an error. The second
component is what was never fed. -/
def feedChunks (st : Decoded ι) : List (List UInt8) → Option (Decoded ι × List (List UInt8))
  | [] => some (st, [])
  | chunk :: rest => do
    let src := st.buffer ++ chunk
    let st' ← decodeAll (src.length + 1) st.messages src
    match st'.status with
    | none => feedChunks st' rest
    | some _ => return (st', rest)

/-! ## The reference -/

/-- Decode the frames of a split stream in order: drop a frame whose body fails recoverably, stop
at one whose body fails fatally and leave it with all that follows. -/
def decodeFrames : List (RawFrame × List UInt8) × Option (MessageError ι) × List UInt8 →
    Decoded ι
  | ([], e, rest) => ⟨[], e, rest⟩
  | ((frame, stream) :: frames, e, rest) =>
    match Payload.decode frame.payload frame.header.payloadType with
    | .ok payload =>
      let tail := decodeFrames (frames, e, rest)
      { tail with messages := { header := frame.header, payload } :: tail.messages }
    | .error err =>
      if err.isFramingFatal then ⟨[], some err, stream⟩ else decodeFrames (frames, e, rest)
termination_by x => x.1.length
decreasing_by all_goals exact Nat.lt_succ_self _

/-- Split the stream into consecutive frames by their headers, up to the first wrong inverse byte,
and decode them. -/
def referenceDecode (s : List UInt8) : Decoded ι :=
  decodeFrames (cut (frameCutter inverseCheck) s)

/-! ## Decoding as a drain -/

/-- What decoding one frame does to the messages so far: it adds one, is skipped where the error is
recoverable, or halts. -/
def decodeFrame (messages : List OwnedMessage) (frame : RawFrame) :
    Step (List OwnedMessage) (MessageError ι) :=
  match Payload.decode frame.payload frame.header.payloadType with
  | .ok payload => .next (messages ++ [{ header := frame.header, payload }])
  | .error e => if e.isFramingFatal then .halt messages e else .next messages

/-- The status a drain ends with: a bad header and a fatal body are both reported as errors. -/
def statusOf : Stop (MessageError ι) (MessageError ι) → Option (MessageError ι)
  | .waiting => none
  | .failed e => some e
  | .halted e => some e

omit [WireCodec ι] in
theorem eq_waiting_of_statusOf {stop : Stop (MessageError ι) (MessageError ι)}
    (h : statusOf stop = none) : stop = .waiting := by
  cases stop with
  | waiting => rfl
  | failed e => cases h
  | halted e => cases h

/-- What draining `s` with `messages` decoded so far ends in: the messages, the error if there is
one, and the bytes that are left. -/
def drained (messages : List OwnedMessage) (s : List UInt8) : Decoded ι :=
  let d := drain (frameCutter inverseCheck) decodeFrame messages s
  ⟨d.1, statusOf d.2.1, d.2.2⟩

/-- The three outcomes of a `decode` call, as steps of the drain. A message or a request for more
says how the drain goes on from there. -/
def Outcome (messages : List OwnedMessage) (src : List UInt8) :
    Except (MessageError ι) (Option OwnedMessage) × List UInt8 → Prop
  | (.ok (some m), src') =>
    src'.length < src.length ∧ drained (ι := ι) messages src = drained (messages ++ [m]) src'
  | (.ok none, src') => drained (ι := ι) messages src = ⟨messages, none, src'⟩
  | (.error e, src') => drained messages src = ⟨messages, some e, src'⟩

/-- The reader of the drain is the framer of the crate. -/
theorem read_eq_readingOf (src : List UInt8) :
    (frameCutter (inverseCheck (ι := ι))).read src = readingOf (tryFrame src) :=
  (readingOf_tryFrame src).symm

/-- A frame whose body decodes is handed out as a message, and is consumed. -/
theorem decode_item {src : List UInt8} {frame : RawFrame} {consumed : Nat} {payload : Payload}
    (h : readFrame (inverseCheck (ι := ι)) src = .item frame consumed)
    (hpayload : Payload.decode (ι := ι) frame.payload frame.header.payloadType = .ok payload) :
    decode (ι := ι) src =
      some (.ok (some ⟨frame.header, payload⟩), src.drop consumed) := by
  have ht : tryFrame (ι := ι) src = .ok (some (frame, consumed)) :=
    readingOf_injective ((readingOf_tryFrame src).trans h)
  simp only [decode, decodeLoop, ht, hpayload]

/-- An incomplete frame is left for later, and `decode` asks for more. -/
theorem decode_more {src : List UInt8} (h : readFrame (inverseCheck (ι := ι)) src = .more) :
    decode (ι := ι) src = some (.ok none, src) := by
  have ht : tryFrame (ι := ι) src = .ok none :=
    readingOf_injective ((readingOf_tryFrame src).trans h)
  simp only [decode, decodeLoop, ht]

/-- **One `decode` call** ends, and does what the drain does up to the next message. The fuel counts
skipped frames, which take up bytes. -/
theorem decodeLoop_spec (messages : List OwnedMessage) {fuel : Nat} {src : List UInt8}
    (hfuel : src.length < fuel) :
    ∃ out, decodeLoop (ι := ι) fuel src = some out ∧ Outcome messages src out := by
  induction fuel generalizing src with
  | zero => omega
  | succ fuel ih =>
    have hread := read_eq_readingOf (ι := ι) src
    rw [decodeLoop]
    cases ht : tryFrame (ι := ι) src with
    | error e =>
      rw [ht] at hread
      exact ⟨_, rfl, by rw [Outcome, drained, drain_fail hread]; rfl⟩
    | ok o =>
      rw [ht] at hread
      rcases o with _ | ⟨frame, consumed⟩
      · exact ⟨_, rfl, by rw [Outcome, drained, drain_more hread]; rfl⟩
      have hlt := (frameCutter (inverseCheck (ι := ι))).drop_lt hread
      dsimp only
      cases hp : Payload.decode (ι := ι) frame.payload frame.header.payloadType with
      | ok payload =>
        have hf : decodeFrame (ι := ι) messages frame =
            .next (messages ++ [⟨frame.header, payload⟩]) := by simp only [decodeFrame, hp]
        exact ⟨_, rfl, hlt, by simp only [drained, drain_next hread hf]⟩
      | error e =>
        by_cases hfatal : e.isFramingFatal
        · have hf : decodeFrame messages frame = .halt messages e := by
            simp only [decodeFrame, hp, hfatal, if_true]
          exact ⟨_, if_pos hfatal, by rw [Outcome, drained, drain_halt hread hf]; rfl⟩
        · -- a skipped frame is one silent step of the drain
          have hf : decodeFrame (ι := ι) messages frame = .next messages := by
            simp only [decodeFrame, hp, hfatal]
            rfl
          obtain ⟨out, hout, hspec⟩ := @ih (src.drop consumed) (by omega)
          refine ⟨out, (if_neg hfatal).trans hout, ?_⟩
          have hskip : drained (ι := ι) messages src = drained messages (src.drop consumed) := by
            simp only [drained, drain_next hread hf]
          rcases out with ⟨(_ | _ | m), src'⟩
          · exact hskip.trans hspec
          · exact hskip.trans hspec
          · exact ⟨hspec.1.trans hlt, hskip.trans hspec.2⟩

/-- Calling `decode` until it stops drains the buffer, for any fuel that exceeds its length. -/
theorem decodeAll_eq (messages : List OwnedMessage) {fuel : Nat} {src : List UInt8}
    (hfuel : src.length < fuel) :
    decodeAll fuel messages src = some (drained (ι := ι) messages src) := by
  induction fuel generalizing messages src with
  | zero => omega
  | succ fuel ih =>
    obtain ⟨out, hout, hspec⟩ := decodeLoop_spec (ι := ι) messages (Nat.lt_succ_self src.length)
    rw [decodeAll, decode, hout]
    rcases out with ⟨(e | _ | m), src'⟩
    · exact congrArg some hspec.symm
    · exact congrArg some hspec.symm
    · have hlt := hspec.1
      exact (ih (messages ++ [m]) (by omega)).trans (congrArg some hspec.2.symm)

/-- Feeding chunks to the codec is feeding them to the drain, of which the chunking lemmas of the
library speak. -/
theorem feedChunks_eq (messages : List OwnedMessage) (r : List UInt8)
    (chunks : List (List UInt8)) :
    feedChunks (ι := ι) ⟨messages, none, r⟩ chunks =
      let d := feedAll (frameCutter inverseCheck) decodeFrame messages r chunks
      some (⟨d.1, statusOf d.2.1, d.2.2.1⟩, d.2.2.2) := by
  induction chunks generalizing messages r with
  | nil => rfl
  | cons chunk rest ih =>
    rw [feedChunks, feedAll, decodeAll_eq messages (Nat.lt_succ_self _), drained]
    rcases drain (frameCutter (inverseCheck (ι := ι))) decodeFrame messages (r ++ chunk)
      with ⟨messages', stop, r'⟩
    cases stop with
    | waiting => exact ih messages' r'
    | failed e => rfl
    | halted e => rfl

/-- Folding the frames of a split stream appends what the reference decodes, as decoding a frame
does not look at the messages before it. -/
theorem walk_decodeFrame (messages : List OwnedMessage)
    (x : List (RawFrame × List UInt8) × Option (MessageError ι) × List UInt8) :
    let w := walk decodeFrame messages x
    (⟨w.1, statusOf w.2.1, w.2.2⟩ : Decoded ι) =
      { decodeFrames x with messages := messages ++ (decodeFrames x).messages } := by
  obtain ⟨frames, e, rest⟩ := x
  induction frames generalizing messages with
  | nil => cases e <;> simp [walk, decodeFrames, Stop.ofEnd, statusOf]
  | cons item frames ih =>
    obtain ⟨frame, stream⟩ := item
    cases hp : Payload.decode (ι := ι) frame.payload frame.header.payloadType with
    | ok payload =>
      have := ih (messages ++ [⟨frame.header, payload⟩])
      simp_all [walk, decodeFrames, decodeFrame]
    | error err =>
      by_cases hfatal : err.isFramingFatal
      · simp [walk, decodeFrames, decodeFrame, hp, hfatal, statusOf]
      · have := ih messages
        simp_all [walk, decodeFrames, decodeFrame]

/-- Draining a stream from the start is the reference, which splits it into frames first and decodes
each on its own. -/
theorem drained_nil (s : List UInt8) : drained [] s = referenceDecode (ι := ι) s := by
  rw [drained, drain_eq_walk]
  exact walk_decodeFrame [] _

/-- **Chunk independence of the codec.** Every `decode` call ends. Whatever the chunks, a
connection decodes the messages of the reference, ends in its status, and holds the bytes the
reference leaves, apart from the chunks behind an error, which were never fed. -/
theorem codec_chunk_independent (chunks : List (List UInt8)) :
    (∀ src, (decode (ι := ι) src).isSome = true) ∧
    ∃ (st : Decoded ι) (fed unfed : List (List UInt8)),
      feedChunks ⟨[], none, []⟩ chunks = some (st, unfed) ∧ chunks = fed ++ unfed ∧
      (st.status = none → unfed = []) ∧
      st.messages = (referenceDecode (ι := ι) chunks.flatten).messages ∧
      st.status = (referenceDecode chunks.flatten).status ∧
      st.buffer ++ unfed.flatten = (referenceDecode (ι := ι) chunks.flatten).buffer ∧
      st = referenceDecode fed.flatten := by
  constructor
  · intro src
    obtain ⟨out, hout, -⟩ := decodeLoop_spec (ι := ι) [] (Nat.lt_succ_self src.length)
    rw [decode, hout]
    rfl
  have hnil : (frameCutter (inverseCheck (ι := ι))).read [] = .more := rfl
  have hwhole := feedAll_eq_drain (f := decodeFrame) [] hnil chunks
  obtain ⟨fed, hfed, hwait, hdrain⟩ := feedAll_fed (f := decodeFrame) [] hnil chunks
  rw [List.nil_append] at hwhole hdrain
  refine ⟨_, fed, _, feedChunks_eq [] [] chunks, hfed, ?_, ?_, ?_, ?_, ?_⟩
  · exact fun hnone => hwait (eq_waiting_of_statusOf hnone)
  · rw [← drained_nil, drained, hwhole]
  · rw [← drained_nil, drained, hwhole]
  · rw [← drained_nil, drained, hwhole]
  · rw [← drained_nil, drained, hdrain]

end MessageCodec

end

end SimpleDoip
