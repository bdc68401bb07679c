import SimpleDoip.Messages.RoundTrip
import SimpleDoip.MessageCodec

/-!
# Sizes, written bytes and buffer limits

A message states its size (`encoded_size`), its header states its payload's, and its encoder
returns how many bytes it wrote. `encode_sizes_agree` says that these are one number, for a vector,
a slice and the codec's buffer, and that a slice too short for the bytes reports an error.
-/

namespace SimpleDoip

section
variable {ι : Type} [WireCodec ι]

/-- The size of a message is the length of its frame. -/
theorem Message.encodedSize_eq (m : Message) :
    Encode.encodedSize (ι := ι) m = .ok m.frame.length := by
  show (do return Header.SIZE + (← Encode.encodedSize m.payload)) = _
  rw [WireForm.encodedSize_eq, Message.length_frame]
  rfl

omit [WireCodec ι] in
/-- Filling a slice with what fits it overwrites its front and leaves the rest. -/
theorem SliceWriter.toList_buffer_fill {n : Nat} (buf : U8Array n) {bs : List UInt8}
    (h : bs.length ≤ n) :
    ((SliceWriter.start buf).fill bs).buffer.toList = bs ++ buf.toList.drop bs.length := by
  show [] ++ bs.take buf.toList.length ++ buf.toList.drop bs.length = _
  rw [List.nil_append, buf.toList_length, List.take_of_length_le h]

/-- The codec appends the frame of a message that fits the length field. -/
theorem MessageCodec.encode_eq {m : OwnedMessage} (hfit : (bytes m.payload).length < 2 ^ 32)
    (dst : List UInt8) :
    MessageCodec.encode (ι := ι) m dst = (.ok (), dst ++ m.frame) := by
  simp only [MessageCodec.encode, Message.encodedSize_eq, Message.encode_vec hfit, List.nil_append]

/-- The codec refuses a message that overruns the length field and leaves its buffer alone. -/
theorem MessageCodec.encode_tooLarge {m : OwnedMessage} (h : 2 ^ 32 ≤ (bytes m.payload).length)
    (dst : List UInt8) :
    MessageCodec.encode (ι := ι) m dst =
      (.error (.payloadTooLarge (bytes m.payload).length), dst) := by
  simp only [MessageCodec.encode, Message.encodedSize_eq, Message.encode_tooLarge h]

/-- **Sizes, written bytes and buffer limits agree.** A payload that overruns `u32` is refused by
every writer before a byte is written. Every other message has one byte string whose length is its
size and what its encoder returns: a vector gets it appended, a slice gets it written over its front
if and only if it is long enough and reports an I/O error that is no framing error otherwise, and
the codec appends it to its buffer. -/
theorem encode_sizes_agree (m : Message) :
    ∃ payloadSize, Encode.encodedSize (ι := ι) m.payload = .ok payloadSize ∧
      (2 ^ 32 ≤ payloadSize →
        (∀ {ω : Type} [Write ω] (w : ω),
          Encode.encode (ι := ι) m w = .error (.payloadTooLarge payloadSize) w) ∧
        ∀ dst, MessageCodec.encode (ι := ι) m dst = (.error (.payloadTooLarge payloadSize), dst)) ∧
      (payloadSize < 2 ^ 32 → ∃ written : List UInt8,
        Encode.encodedSize (ι := ι) m = .ok written.length ∧
        (∀ v : List UInt8, Encode.encode (ι := ι) m v = .ok written.length (v ++ written)) ∧
        (∀ {n : Nat} (buf : U8Array n),
          (written.length ≤ n → ∃ w : SliceWriter n,
            Encode.encode (ι := ι) m (SliceWriter.start buf) = .ok written.length w ∧
            w.buffer.toList = written ++ buf.toList.drop written.length) ∧
          (n < written.length → ∃ (w : SliceWriter n) (kind : ErrorKind),
            Encode.encode (ι := ι) m (SliceWriter.start buf) = .error (.io kind) w ∧
            (MessageError.io kind : MessageError ι).isFramingFatal = false)) ∧
        ∀ dst, MessageCodec.encode (ι := ι) m dst = (.ok (), dst ++ written)) := by
  refine ⟨_, WireForm.encodedSize_eq _, fun hlarge => ?_, fun hfit => ?_⟩
  · exact ⟨Message.encode_tooLarge hlarge, MessageCodec.encode_tooLarge hlarge⟩
  · refine ⟨m.frame, Message.encodedSize_eq m, Message.encode_vec hfit, fun buf => ⟨?_, ?_⟩,
      MessageCodec.encode_eq hfit⟩
    · intro hn
      exact ⟨_, Message.encode_slice hfit buf hn, SliceWriter.toList_buffer_fill buf hn⟩
    · intro hn
      have hshort : (SliceWriter.start buf).free.length < m.frame.length := by
        rwa [show (SliceWriter.start buf).free.length = _ from buf.toList_length]
      obtain ⟨kind, w, henc⟩ := (Message.encode_emits hfit).slice_short hshort
      exact ⟨w, kind, henc, rfl⟩

end

end SimpleDoip
