import SimpleDoip.Messages.Encoding

/-!
# Messages from a stream, and onto it

Client and server read a connection through `FramedRead` of tokio-util, with `MessageCodec` as its
decoder, and write it through `FramedWrite`. Both are foreign code, so they enter as a parameter:
`Framed` is a reader and a writer with what their documentation says about them. A reader decodes
what is in its buffer until the codec asks for more, and then reads from the socket; an error is
followed by the end of the stream, and bytes that are left over at the end are an error. A writer
encodes a message behind what is in its buffer, and keeps what the socket has not taken.

`FramedRead.Reads` relates a reader to the bytes it has read and to the items it has handed out. The
lemmas about it say that the items are those of `streamItems`, which looks at the bytes as a whole.
-/

namespace SimpleDoip

open Framing

/-- Why a stream has no more messages: an error of the codec, or `MessageError::Std` with an error
of the socket, of which only a reset is told apart. -/
inductive StreamError (ι : Type) where
  | messageError (e : MessageError ι)
  | std (connectionReset : Bool)
deriving DecidableEq

/-- What a stream hands out: a message, or the error it ends with. -/
abbrev StreamItem (ι : Type) := Except (StreamError ι) OwnedMessage

/-- What reading from the socket comes to: bytes, of which there are none at the end of the stream,
or an error, which may be a reset. -/
abbrev SocketRead := Except Bool (List UInt8)

/-- How a stream ended, as seen from the socket: the peer has closed it, or reading failed. -/
inductive StreamEnd where
  | closed
  | failed (connectionReset : Bool)
deriving DecidableEq

/-- What polling a reader comes to: an item, the end of the stream, or nothing until the socket has
been read. -/
inductive FramedRead.Next (ι : Type) where
  | item (item : StreamItem ι)
  | ended
  | pending

/-- What a reader does when it is polled next: read the socket, decode its buffer, or end the
stream behind an error. `eof` says whether the socket has come to its end. -/
inductive ReaderPhase where
  | reading (eof : Bool)
  | decoding (eof : Bool)
  | errored
deriving DecidableEq

/-! ## Decoding in parts -/

namespace MessageCodec
variable {ι : Type} [WireCodec ι]

/-- A `decode` call ends in one of the three outcomes: a message, a request for more bytes, or an
error. -/
theorem decode_spec (messages : List OwnedMessage) (src : List UInt8) :
    ∃ out, decode (ι := ι) src = some out ∧ Outcome messages src out :=
  decodeLoop_spec messages (Nat.lt_succ_self src.length)

/-- A `decode` call returns, so that the fuel of its model is no restriction. -/
theorem isSome_decode (src : List UInt8) : (decode (ι := ι) src).isSome = true := by
  obtain ⟨out, hout, -⟩ := decode_spec (ι := ι) [] src
  rw [hout, Option.isSome_some]

/-- **Decoding a concatenation** goes on where the first part stopped, unless that was an error. -/
theorem drained_append (messages : List OwnedMessage) (s t : List UInt8) :
    drained (ι := ι) messages (s ++ t) =
      if (drained (ι := ι) messages s).status = none then
        drained (drained (ι := ι) messages s).messages ((drained (ι := ι) messages s).buffer ++ t)
      else { drained messages s with buffer := (drained (ι := ι) messages s).buffer ++ t } := by
  have happend := drain_append (c := frameCutter (inverseCheck (ι := ι))) (f := decodeFrame)
    messages s t
  rcases hd : drain (frameCutter (inverseCheck (ι := ι))) decodeFrame messages s with ⟨st, stop, r⟩
  rw [hd] at happend
  simp only [drained, happend, hd]
  cases stop with
  | waiting => rfl
  | failed e => rfl
  | halted e => rfl

/-- What is left where decoding waits decodes to nothing more: the codec leaves no complete frame
behind when it asks for bytes. -/
theorem drained_rest {messages messages' : List OwnedMessage} {s r : List UInt8}
    (h : drained (ι := ι) messages s = ⟨messages', none, r⟩) :
    drained (ι := ι) messages' r = ⟨messages', none, r⟩ := by
  rw [drained] at h
  rcases hd : drain (frameCutter (inverseCheck (ι := ι))) decodeFrame messages s with ⟨st, stop, r'⟩
  rw [hd] at h
  obtain ⟨rfl, hstop, rfl⟩ := Decoded.mk.inj h
  obtain rfl := eq_waiting_of_statusOf hstop
  rw [drained, drain_more (read_of_drain_waiting hd)]
  rfl

/-- Decoding goes on from the messages there are, and takes none of them back. -/
theorem prefix_messages_drained (messages : List OwnedMessage) (s : List UInt8) :
    messages <+: (drained (ι := ι) messages s).messages := by
  refine drain_invariant (c := frameCutter (inverseCheck (ι := ι))) (f := decodeFrame)
    (P := fun ms _ => messages <+: ms) ?_ ?_ List.prefix_rfl
  · intro ms s frame n ms' _ hf h
    rw [decodeFrame] at hf
    split at hf
    · cases hf
      exact h.trans (List.prefix_append _ _)
    · split at hf
      · cases hf
      · cases hf
        exact h
  · intro ms s frame n ms' e _ hf h
    rw [decodeFrame] at hf
    split at hf
    · cases hf
    · split at hf
      · cases hf
        exact h
      · cases hf

end MessageCodec

/-! ## Readers and writers -/

/-- `FramedRead` and `FramedWrite` of tokio-util over `MessageCodec`, by their documentation.

A poll is split where the socket is read: `pollNext` is what happens before, and `fill` what happens
with the bytes. The laws say nothing about a reader that is polled on after the end of the stream.
Sending is split likewise: `startSend` encodes into the buffer, and `advance` drops the bytes the
socket has taken. -/
class Framed (ι : Type) [WireCodec ι] where
  /-- `FramedRead<OwnedReadHalf, MessageCodec>`. -/
  Reader : Type
  newReader : Reader
  /-- `FramedRead::read_buffer`: the bytes that were read and not decoded yet. -/
  readBuffer : Reader → List UInt8
  readerPhase : Reader → ReaderPhase
  /-- `poll_next`, up to the point where it has to read. It decodes the buffer, and stops there if
  the codec asks for more. -/
  pollNext : Reader → FramedRead.Next ι × Reader
  /-- `poll_next` goes on with what the socket was read to: bytes, its end, or an error. -/
  fill : Reader → SocketRead → FramedRead.Next ι × Reader
  /-- `FramedWrite<OwnedWriteHalf, MessageCodec>`. -/
  Writer : Type
  newWriter : Writer
  /-- `FramedWrite::write_buffer`: the bytes that were encoded and that the socket has not taken
  yet. -/
  writeBuffer : Writer → List UInt8
  /-- Whether `poll_ready` lets a message in before the buffer is flushed. No law is asked of it: it
  depends on a limit that the crate does not set. -/
  isReady : Writer → Bool
  /-- `Sink::start_send`: encode a message into the buffer. Nothing is written to the socket yet. -/
  startSend : Writer → OwnedMessage → Except (MessageError ι) Unit × Writer
  /-- The socket has taken this many bytes of the buffer, from its front. -/
  advance : Writer → Nat → Writer
  readBuffer_new : readBuffer newReader = []
  readerPhase_new : readerPhase newReader = .reading false
  /-- A message that the codec finds is handed out, before and after the end of the stream. The
  buffer is then looked at again before the socket is. -/
  poll_message {f : Reader} {eof : Bool} {m : OwnedMessage} {rest : List UInt8} :
    readerPhase f = .decoding eof →
    MessageCodec.decode (ι := ι) (readBuffer f) = some (.ok (some m), rest) →
    (pollNext f).1 = .item (.ok m) ∧ readBuffer (pollNext f).2 = rest ∧
      readerPhase (pollNext f).2 = .decoding eof
  /-- An error of the codec is handed out, too, and the stream is over with that. -/
  poll_error {f : Reader} {eof : Bool} {e : MessageError ι} {rest : List UInt8} :
    readerPhase f = .decoding eof →
    MessageCodec.decode (readBuffer f) = some (.error e, rest) →
    (pollNext f).1 = .item (.error (.messageError e)) ∧ readerPhase (pollNext f).2 = .errored
  /-- The socket is read where the codec asks for more, as long as it has not come to its end. -/
  poll_more {f : Reader} {rest : List UInt8} :
    readerPhase f = .decoding false →
    MessageCodec.decode (ι := ι) (readBuffer f) = some (.ok none, rest) →
    (pollNext f).1 = .pending ∧ readBuffer (pollNext f).2 = rest ∧
      readerPhase (pollNext f).2 = .reading false
  /-- The default `decode_eof`: the stream ends where the codec asks for more and nothing is
  left. -/
  poll_end {f : Reader} :
    readerPhase f = .decoding true →
    MessageCodec.decode (ι := ι) (readBuffer f) = some (.ok none, []) →
    (pollNext f).1 = .ended ∧ readerPhase (pollNext f).2 = .reading true
  /-- The default `decode_eof`: where the codec asks for more and bytes are left, it is "bytes
  remaining on stream", an error of kind `Other`. -/
  poll_leftOver {f : Reader} {rest : List UInt8} :
    readerPhase f = .decoding true →
    MessageCodec.decode (ι := ι) (readBuffer f) = some (.ok none, rest) → rest ≠ [] →
    (pollNext f).1 = .item (.error (.std false)) ∧ readerPhase (pollNext f).2 = .errored
  /-- Behind an error the stream ends, whatever is left in the buffer. -/
  poll_errored {f : Reader} :
    readerPhase f = .errored →
    (pollNext f).1 = .ended ∧ ∃ eof, readerPhase (pollNext f).2 = .reading eof
  fill_bytes {f : Reader} (b : UInt8) (bs : List UInt8) :
    readerPhase f = .reading false →
    (fill f (.ok (b :: bs))).1 = .pending ∧
      readBuffer (fill f (.ok (b :: bs))).2 = readBuffer f ++ b :: bs ∧
      readerPhase (fill f (.ok (b :: bs))).2 = .decoding false
  /-- At the end of the stream the buffer is looked at once more, by `decode_eof`. -/
  fill_end {f : Reader} :
    readerPhase f = .reading false →
    (fill f (.ok [])).1 = .pending ∧ readBuffer (fill f (.ok [])).2 = readBuffer f ∧
      readerPhase (fill f (.ok [])).2 = .decoding true
  fill_error {f : Reader} (reset : Bool) :
    readerPhase f = .reading false →
    (fill f (.error reset)).1 = .item (.error (.std reset)) ∧
      readerPhase (fill f (.error reset)).2 = .errored
  writeBuffer_new : writeBuffer newWriter = []
  /-- The message is encoded behind what is in the buffer, and the result is that of the codec. -/
  startSend_eq (w : Writer) (m : OwnedMessage) :
    ((startSend w m).1, writeBuffer (startSend w m).2) = MessageCodec.encode m (writeBuffer w)
  advance_eq (w : Writer) (n : Nat) : writeBuffer (advance w n) = (writeBuffer w).drop n

section
variable (ι : Type) [WireCodec ι] [Framed ι]

/-- `FramedRead` over the read half of a connection, whichever implementation there is. -/
abbrev FramedRead := Framed.Reader ι

/-- `FramedWrite` over the write half of a connection, whichever implementation there is. -/
abbrev FramedWrite := Framed.Writer ι

/-- A reader that has read nothing: its buffer is empty, and it begins by reading the socket. -/
def FramedRead.new : FramedRead ι := Framed.newReader

/-- A writer that has written nothing: its buffer is empty. -/
def FramedWrite.new : FramedWrite ι := Framed.newWriter

end

section
variable {ι : Type} [WireCodec ι] [Framed ι]

namespace FramedRead
variable (f : FramedRead ι)

/-- The bytes that were read and not decoded: an incomplete frame, or frames that nobody has polled
for. -/
def buffer : List UInt8 := Framed.readBuffer f

/-- What the reader does when it is polled next. -/
def phase : ReaderPhase := Framed.readerPhase f

/-- `poll_next`, up to the point where it has to read: an item, the end, or that the socket has to
be read. -/
def pollNext : Next ι × FramedRead ι := Framed.pollNext f

/-- `poll_next` goes on with what the socket was read to. Bytes make it decode again, an error is
handed out. -/
def fill (r : SocketRead) : Next ι × FramedRead ι := Framed.fill f r

/-- The reader cannot go on before the socket has been read: polling it now waits for the peer. -/
def NeedsRead : Prop := ∃ eof, f.phase = .reading eof

instance : Decidable f.NeedsRead :=
  match h : f.phase with
  | .reading eof => isTrue ⟨eof, h⟩
  | .decoding _ => isFalse fun hneeds => by
    obtain ⟨_, hphase⟩ := hneeds
    cases h.symm.trans hphase
  | .errored => isFalse fun hneeds => by
    obtain ⟨_, hphase⟩ := hneeds
    cases h.symm.trans hphase

end FramedRead

namespace FramedWrite
variable (w : FramedWrite ι)

/-- The bytes that were encoded and that the socket has not taken. -/
def buffer : List UInt8 := Framed.writeBuffer w

/-- Whether `poll_ready` lets a message in before the buffer is flushed. A writer that does not
makes its sender wait for the socket. -/
def isReady : Bool := Framed.isReady w

/-- `Sink::start_send`: encode a message into the buffer, or refuse it. -/
def startSend (m : OwnedMessage) : Except (MessageError ι) Unit × FramedWrite ι :=
  Framed.startSend w m

/-- The socket has taken `n` bytes of the buffer, from its front. -/
def advance (n : Nat) : FramedWrite ι := Framed.advance w n

variable (ι) in
@[simp] theorem buffer_new : (new ι).buffer = [] := Framed.writeBuffer_new

theorem startSend_eq (m : OwnedMessage) :
    ((w.startSend m).1, (w.startSend m).2.buffer) = MessageCodec.encode m w.buffer :=
  Framed.startSend_eq w m

@[simp] theorem buffer_advance (n : Nat) : (w.advance n).buffer = w.buffer.drop n :=
  Framed.advance_eq w n

end FramedWrite

end

/-! ## What a writer is given -/

section
variable {ι : Type} [WireCodec ι]

variable (ι) in
/-- The bytes that messages are written as: their frames in a row, with nothing between them. -/
def framesOf (ms : List OwnedMessage) : List UInt8 :=
  ms.flatMap (Message.frame (ι := ι))

theorem framesOf_append (ms ms' : List OwnedMessage) :
    framesOf ι (ms ++ ms') = framesOf ι ms ++ framesOf ι ms' :=
  List.flatMap_append

theorem framesOf_concat (ms : List OwnedMessage) (m : OwnedMessage) :
    framesOf ι (ms ++ [m]) = framesOf ι ms ++ m.frame (ι := ι) := by
  rw [framesOf_append]
  exact congrArg _ (List.flatMap_singleton _ _)

namespace FramedWrite
variable [Framed ι] (w : FramedWrite ι) {m : OwnedMessage}

/-- A message that fits its length field goes into the buffer as its frame, behind what is there. -/
theorem startSend_fits (hfit : (bytes m.payload).length < 2 ^ 32) :
    ∃ w', w.startSend m = (.ok (), w') ∧ w'.buffer = w.buffer ++ m.frame := by
  have h := w.startSend_eq m
  rw [MessageCodec.encode_eq hfit] at h
  obtain ⟨hresult, hbuffer⟩ := Prod.mk.inj h
  exact ⟨(w.startSend m).2, Prod.ext hresult rfl, hbuffer⟩

/-- A message that overruns its length field is refused, and nothing of it goes into the buffer. -/
theorem startSend_tooLarge (hlarge : 2 ^ 32 ≤ (bytes m.payload).length) :
    ∃ e w', w.startSend m = (.error e, w') ∧ w'.buffer = w.buffer := by
  have h := w.startSend_eq m
  rw [MessageCodec.encode_tooLarge hlarge] at h
  obtain ⟨hresult, hbuffer⟩ := Prod.mk.inj h
  exact ⟨_, (w.startSend m).2, Prod.ext hresult rfl, hbuffer⟩

end FramedWrite

end

/-! ## One reader and one writer -/

/-- A reader with the flags that tokio-util keeps: whether to decode, whether the stream is at its
end, and whether it has failed. -/
structure PlainReader where
  buffer : List UInt8
  isReadable : Bool
  eof : Bool
  hasErrored : Bool
deriving DecidableEq

namespace PlainReader
variable {ι : Type} [WireCodec ι]

/-- What the flags say about the next poll, in the order in which `poll_next` looks at them. -/
def phase (f : PlainReader) : ReaderPhase :=
  if f.hasErrored then .errored else if f.isReadable then .decoding f.eof else .reading f.eof

/-- Behind an error the stream ends. Where the reader is readable it decodes, with the default
`decode_eof` at the end of the stream. -/
def pollNext (f : PlainReader) : FramedRead.Next ι × PlainReader :=
  if f.hasErrored then (.ended, { f with isReadable := false, hasErrored := false })
  else if f.isReadable then
    match (MessageCodec.decode (ι := ι) f.buffer).get (MessageCodec.isSome_decode f.buffer) with
    | (.error e, buffer) =>
      (.item (.error (.messageError e)), { f with buffer, hasErrored := true })
    | (.ok (some m), buffer) => (.item (.ok m), { f with buffer })
    | (.ok none, buffer) =>
      if f.eof then
        if buffer = [] then (.ended, { f with buffer, isReadable := false })
        else (.item (.error (.std false)), { f with buffer, hasErrored := true })
      else (.pending, { f with buffer, isReadable := false })
  else (.pending, f)

/-- The socket is read to bytes, to its end, or to an error, and the flags are set accordingly. -/
def fill (f : PlainReader) : SocketRead → FramedRead.Next ι × PlainReader
  | .error reset => (.item (.error (.std reset)), { f with hasErrored := true })
  | .ok [] =>
    if f.eof then (.ended, f) else (.pending, { f with eof := true, isReadable := true })
  | .ok (b :: bs) =>
    (.pending, { f with buffer := f.buffer ++ b :: bs, eof := false, isReadable := true })

theorem eq_of_phase_decoding {f : PlainReader} {eof : Bool} (h : f.phase = .decoding eof) :
    f = ⟨f.buffer, true, eof, false⟩ := by
  obtain ⟨buffer, isReadable, eof', hasErrored⟩ := f
  cases hasErrored <;> cases isReadable <;> cases h
  rfl

theorem eq_of_phase_reading {f : PlainReader} (h : f.phase = .reading false) :
    f = ⟨f.buffer, false, false, false⟩ := by
  obtain ⟨buffer, isReadable, eof', hasErrored⟩ := f
  cases hasErrored <;> cases isReadable <;> cases h
  rfl

/-- Where the reader decodes, a poll goes by what the codec finds in the buffer, and by nothing
else. -/
theorem pollNext_decoding {buffer rest : List UInt8} {eof : Bool}
    {result : Except (MessageError ι) (Option OwnedMessage)}
    (h : MessageCodec.decode buffer = some (result, rest)) :
    pollNext (ι := ι) ⟨buffer, true, eof, false⟩ =
      match result with
      | .error e => (.item (.error (.messageError e)), ⟨rest, true, eof, true⟩)
      | .ok (some m) => (.item (.ok m), ⟨rest, true, eof, false⟩)
      | .ok none =>
        if eof then
          if rest = [] then (.ended, ⟨rest, false, eof, false⟩)
          else (.item (.error (.std false)), ⟨rest, true, eof, true⟩)
        else (.pending, ⟨rest, false, eof, false⟩) := by
  simp only [pollNext, h, Option.get_some, Bool.false_eq_true, if_false, if_true]
  rcases result with e | _ | m <;> rfl

end PlainReader

/-- A reader and a writer as the documentation describes them. The writer is its buffer, and takes
messages below the default boundary of 8 KiB. -/
@[reducible] def plainFramed (ι : Type) [WireCodec ι] : Framed ι where
  Reader := PlainReader
  newReader := ⟨[], false, false, false⟩
  readBuffer := PlainReader.buffer
  readerPhase := PlainReader.phase
  pollNext := PlainReader.pollNext
  fill := PlainReader.fill
  Writer := List UInt8
  newWriter := []
  writeBuffer w := w
  isReady w := w.length < 8 * 1024
  startSend w m := MessageCodec.encode m w
  advance w n := w.drop n
  readBuffer_new := rfl
  readerPhase_new := rfl
  poll_message hphase hdecode := by
    rw [PlainReader.eq_of_phase_decoding hphase, PlainReader.pollNext_decoding hdecode]
    exact ⟨rfl, rfl, rfl⟩
  poll_error hphase hdecode := by
    rw [PlainReader.eq_of_phase_decoding hphase, PlainReader.pollNext_decoding hdecode]
    exact ⟨rfl, rfl⟩
  poll_more hphase hdecode := by
    rw [PlainReader.eq_of_phase_decoding hphase, PlainReader.pollNext_decoding hdecode]
    exact ⟨rfl, rfl, rfl⟩
  poll_end hphase hdecode := by
    rw [PlainReader.eq_of_phase_decoding hphase, PlainReader.pollNext_decoding hdecode]
    exact ⟨rfl, rfl⟩
  poll_leftOver hphase hdecode hrest := by
    rw [PlainReader.eq_of_phase_decoding hphase, PlainReader.pollNext_decoding hdecode]
    simp only [if_true, if_neg hrest, true_and]
    rfl
  poll_errored {f} hphase := by
    obtain ⟨buffer, isReadable, eof, hasErrored⟩ := f
    cases hasErrored <;> cases isReadable <;> cases hphase
    · exact ⟨rfl, eof, rfl⟩
    · exact ⟨rfl, eof, rfl⟩
  fill_bytes b bs hphase := by
    rw [PlainReader.eq_of_phase_reading hphase]
    exact ⟨rfl, rfl, rfl⟩
  fill_end hphase := by
    rw [PlainReader.eq_of_phase_reading hphase]
    exact ⟨rfl, rfl, rfl⟩
  fill_error reset hphase := by
    rw [PlainReader.eq_of_phase_reading hphase]
    exact ⟨rfl, rfl⟩
  writeBuffer_new := rfl
  startSend_eq _ _ := rfl
  advance_eq _ _ := rfl

/-! ## The reference -/

section
variable {ι : Type}

/-- What follows the messages of a stream: the error of the codec, or that of the socket, or one
about bytes that are left over. -/
def streamError (d : MessageCodec.Decoded ι) (fin : Option StreamEnd) : Option (StreamError ι) :=
  match d.status, fin with
  | some e, _ => some (.messageError e)
  | none, some (.failed reset) => some (.std reset)
  | none, some .closed => if d.buffer = [] then none else some (.std false)
  | none, none => none

/-- The items of a stream, by what the codec makes of all its bytes and how it ended. -/
def streamItems (d : MessageCodec.Decoded ι) (fin : Option StreamEnd) : List (StreamItem ι) :=
  d.messages.map .ok ++ ((streamError d fin).map .error).toList

/-- A socket that fails is always seen to: an item is handed out for it, or the codec had failed
before. -/
theorem streamError_failed (d : MessageCodec.Decoded ι) (reset : Bool) :
    streamError d (some (.failed reset)) ≠ none := by
  unfold streamError
  cases d.status <;> exact Option.some_ne_none _

end

/-! ## What a reader has read -/

/-- The bytes a read came to, none if it failed. -/
def SocketRead.bytes : SocketRead → List UInt8
  | .ok chunk => chunk
  | .error _ => []

/-- The end a read came to: no bytes at all are the end of the stream. -/
def SocketRead.fin : SocketRead → Option StreamEnd
  | .ok [] => some .closed
  | .ok (_ :: _) => none
  | .error reset => some (.failed reset)

/-- The bytes that reads came to, in a row, however they were cut. -/
def bytesRead (reads : List SocketRead) : List UInt8 := reads.flatMap SocketRead.bytes

/-- The end that reads came to, if one of them did. A connection is not read on behind it. -/
def endRead (reads : List SocketRead) : Option StreamEnd := reads.findSome? SocketRead.fin

theorem bytesRead_snoc (reads : List SocketRead) (r : SocketRead) :
    bytesRead (reads ++ [r]) = bytesRead reads ++ r.bytes := by
  rw [bytesRead, List.flatMap_append, List.flatMap_singleton]
  rfl

theorem endRead_snoc (reads : List SocketRead) (r : SocketRead) :
    endRead (reads ++ [r]) = (endRead reads).or r.fin := by
  rw [endRead, List.findSome?_append, List.findSome?_singleton]
  rfl

section
variable {ι : Type} [WireCodec ι] [Framed ι]

open MessageCodec

namespace FramedRead

/-- Everything a poll can come to before the socket has to be read. What decoding the buffer does is
told for a reader that has decoded `messages` before. -/
inductive Polled (messages : List OwnedMessage) (f : FramedRead ι) :
    Next ι → FramedRead ι → Prop where
  /-- Behind an error the stream ends, whatever is left in the buffer. -/
  | errored {f' : FramedRead ι} (hphase : f.phase = .errored) (hneeds : f'.NeedsRead) :
      Polled messages f .ended f'
  | message {f' : FramedRead ι} {m : OwnedMessage} (eof : Bool) (hphase : f.phase = .decoding eof)
      (hout : MessageCodec.Outcome (ι := ι) messages f.buffer (.ok (some m), f'.buffer))
      (hphase' : f'.phase = .decoding eof) : Polled messages f (.item (.ok m)) f'
  | messageError {f' : FramedRead ι} {rest : List UInt8} {e : MessageError ι} (eof : Bool)
      (hphase : f.phase = .decoding eof)
      (hout : MessageCodec.Outcome messages f.buffer (.error e, rest))
      (hphase' : f'.phase = .errored) : Polled messages f (.item (.error (.messageError e))) f'
  /-- The codec asks for more, and the socket has to be read next. -/
  | drained {f' : FramedRead ι} (hphase : f.phase = .decoding false)
      (hout : MessageCodec.Outcome (ι := ι) messages f.buffer (.ok none, f'.buffer))
      (hphase' : f'.phase = .reading false) : Polled messages f .pending f'
  /-- At the end of the stream the codec asks for more and nothing is left: the stream has ended at
  the end of a frame. -/
  | ended {f' : FramedRead ι} (hphase : f.phase = .decoding true)
      (hout : MessageCodec.Outcome (ι := ι) messages f.buffer (.ok none, []))
      (hneeds : f'.NeedsRead) : Polled messages f .ended f'
  /-- At the end of the stream bytes are left over: the stream has ended within a frame. -/
  | leftOver {f' : FramedRead ι} {rest : List UInt8} (hphase : f.phase = .decoding true)
      (hout : MessageCodec.Outcome (ι := ι) messages f.buffer (.ok none, rest)) (hrest : rest ≠ [])
      (hphase' : f'.phase = .errored) : Polled messages f (.item (.error (.std false))) f'

/-- **Inversion of a poll**: what was handed out, with what the codec found in the buffer and how
the reader goes on. -/
theorem polled_pollNext (messages : List OwnedMessage) {f : FramedRead ι}
    (hneeds : ¬ f.NeedsRead) : Polled messages f f.pollNext.1 f.pollNext.2 := by
  cases hphase : f.phase with
  | reading eof => exact absurd ⟨eof, hphase⟩ hneeds
  | errored =>
    obtain ⟨hnext, hrest⟩ := Framed.poll_errored hphase
    rw [pollNext, hnext]
    exact .errored hphase hrest
  | decoding eof =>
    obtain ⟨⟨result, rest⟩, hdecode, hout⟩ := decode_spec (ι := ι) messages f.buffer
    rcases result with e | _ | m
    · obtain ⟨hnext, hphase'⟩ := Framed.poll_error hphase hdecode
      have hpolled := Polled.messageError eof hphase hout hphase'
      rwa [← hnext] at hpolled
    · cases eof with
      | false =>
        obtain ⟨hnext, rfl, hphase'⟩ := Framed.poll_more hphase hdecode
        have hpolled := Polled.drained hphase hout hphase'
        rwa [← hnext] at hpolled
      | true =>
        by_cases hrest : rest = []
        · subst hrest
          obtain ⟨hnext, hphase'⟩ := Framed.poll_end hphase hdecode
          have hpolled := Polled.ended hphase hout ⟨true, hphase'⟩
          rwa [← hnext] at hpolled
        · obtain ⟨hnext, hphase'⟩ := Framed.poll_leftOver hphase hdecode hrest
          have hpolled := Polled.leftOver hphase hout hrest hphase'
          rwa [← hnext] at hpolled
    · obtain ⟨hnext, rfl, hphase'⟩ := Framed.poll_message hphase hdecode
      have hpolled := Polled.message eof hphase hout hphase'
      rwa [← hnext] at hpolled

/-- The reader has read the bytes `s` and then come to `fin`, and has handed out `items`. While it
goes on these are messages, and decoding the buffer gives the rest; what waits for the socket has
been decoded as far as it goes. Behind an error there is nothing. -/
inductive Reads :
    FramedRead ι → List UInt8 → Option StreamEnd → List (StreamItem ι) → Prop where
  | decoding {f : FramedRead ι} {s : List UInt8} (messages : List OwnedMessage) (eof : Bool)
      (hphase : f.phase = .decoding eof)
      (hbuffer : drained messages f.buffer = referenceDecode (ι := ι) s) :
      Reads f s (if eof then some .closed else none) (messages.map .ok)
  | reading {f : FramedRead ι} {s : List UInt8} (messages : List OwnedMessage)
      (hphase : f.phase = .reading false)
      (href : referenceDecode (ι := ι) s = ⟨messages, none, f.buffer⟩) :
      Reads f s none (messages.map .ok)
  | errored {f : FramedRead ι} {s : List UInt8} {fin : Option StreamEnd} (e : StreamError ι)
      (hphase : f.phase = .errored) (he : streamError (referenceDecode s) fin = some e) :
      Reads f s fin (streamItems (referenceDecode s) fin)

/-- How a reader goes on, from the items it has handed out: with one more of them, with the end, or
by reading. -/
inductive Continues (s : List UInt8) (fin : Option StreamEnd) (items : List (StreamItem ι)) :
    Next ι → FramedRead ι → Prop where
  | item {item : StreamItem ι} {f : FramedRead ι} (h : f.Reads s fin (items ++ [item])) :
      Continues s fin items (.item item) f
  | pending {f : FramedRead ι} (h : f.Reads s fin items) : Continues s fin items .pending f
  | ended {f : FramedRead ι} (hitems : items = streamItems (referenceDecode s) fin)
      (hfin : fin ≠ none ∨ streamError (referenceDecode (ι := ι) s) fin ≠ none) :
      Continues s fin items .ended f

variable {f : FramedRead ι} {s : List UInt8} {fin : Option StreamEnd} {items : List (StreamItem ι)}

variable (ι) in
theorem reads_new : (new ι).Reads [] none [] := by
  have hnil : referenceDecode (ι := ι) [] = ⟨[], none, (new ι).buffer⟩ := by
    rw [← drained_nil, drained, drain_more rfl, buffer, new, Framed.readBuffer_new]
    rfl
  exact .reading [] Framed.readerPhase_new hnil

/-- **Polling a reader** hands out the next item of the stream, or says that the socket has to be
read for it. -/
theorem Reads.pollNext (h : f.Reads s fin items) (hneeds : ¬ f.NeedsRead) :
    Continues s fin items f.pollNext.1 f.pollNext.2 := by
  cases h with
  | reading messages hphase => exact absurd ⟨false, hphase⟩ hneeds
  | errored e hphase he =>
    obtain ⟨hnext, -⟩ := Framed.poll_errored hphase
    have hfin : streamError (referenceDecode (ι := ι) s) fin ≠ none := by
      rw [he]
      exact Option.some_ne_none e
    rw [FramedRead.pollNext, hnext]
    exact .ended rfl (.inr hfin)
  | decoding messages eof hphase hbuffer =>
    have hpolled := polled_pollNext messages hneeds
    generalize f.pollNext.1 = next, f.pollNext.2 = f' at hpolled
    cases hpolled with
    | errored herrored => cases hphase.symm.trans herrored
    | @message _ m eof' hphase₁ hout hphase' =>
      cases hphase.symm.trans hphase₁
      have h := Reads.decoding (messages ++ [m]) eof hphase' (hout.2.symm.trans hbuffer)
      rw [List.map_append] at h
      exact .item h
    | @messageError _ rest e eof' hphase₁ hout hphase' =>
      cases hphase.symm.trans hphase₁
      have href : referenceDecode s = ⟨messages, some e, rest⟩ := hbuffer.symm.trans hout
      have he : streamError (referenceDecode (ι := ι) s) (if eof then some .closed else none) =
          some (.messageError e) := by
        rw [href]
        rfl
      have h := Reads.errored (.messageError e) hphase' he
      rw [streamItems, he, href] at h
      exact .item h
    | drained hphase₁ hout hphase' =>
      cases hphase.symm.trans hphase₁
      exact .pending (.reading messages hphase' (hbuffer.symm.trans hout))
    | ended hphase₁ hout =>
      cases hphase.symm.trans hphase₁
      have href : referenceDecode (ι := ι) s = ⟨messages, none, []⟩ := hbuffer.symm.trans hout
      refine .ended ?_ (.inl (Option.some_ne_none _))
      simp [href, streamItems, streamError]
    | @leftOver _ rest hphase₁ hout hrest hphase' =>
      cases hphase.symm.trans hphase₁
      have href : referenceDecode (ι := ι) s = ⟨messages, none, rest⟩ := hbuffer.symm.trans hout
      have he : streamError (referenceDecode (ι := ι) s) (some .closed) = some (.std false) := by
        rw [href]
        exact if_neg hrest
      have h := Reads.errored (.std false) hphase' he
      rw [streamItems, he, href] at h
      exact .item h

/-- **Filling a reader** that needs it takes the bytes in, or ends the stream. No item is lost by
it. -/
theorem Reads.fill (h : f.Reads s fin items) (hneeds : f.NeedsRead) (r : SocketRead) :
    Continues (s ++ r.bytes) r.fin items (f.fill r).1 (f.fill r).2 := by
  obtain ⟨eof, hneeds⟩ := hneeds
  cases h with
  | decoding messages eof' hphase => cases hneeds.symm.trans hphase
  | errored e hphase => cases hneeds.symm.trans hphase
  | reading messages hphase href =>
    rcases r with reset | _ | ⟨b, bs⟩
    · obtain ⟨hnext, hphase'⟩ := Framed.fill_error reset hphase
      have he : streamError (referenceDecode (ι := ι) s) (some (.failed reset)) =
          some (.std reset) := by
        rw [href]
        rfl
      have h := Reads.errored (.std reset) hphase' he
      rw [streamItems, he, href] at h
      rw [FramedRead.fill, hnext, SocketRead.bytes, List.append_nil]
      exact .item h
    · obtain ⟨hnext, hbuffer, hphase'⟩ := Framed.fill_end hphase
      have hrest : drained messages (f.fill (.ok [])).2.buffer = referenceDecode (ι := ι) s := by
        rw [buffer, FramedRead.fill, hbuffer, href]
        rw [← drained_nil] at href
        exact drained_rest href
      rw [FramedRead.fill, hnext, SocketRead.bytes, List.append_nil]
      exact .pending (.decoding messages true hphase' hrest)
    · obtain ⟨hnext, hbuffer, hphase'⟩ := Framed.fill_bytes b bs hphase
      have hrest : drained messages (f.fill (.ok (b :: bs))).2.buffer =
          referenceDecode (ι := ι) (s ++ b :: bs) := by
        rw [← drained_nil] at href ⊢
        rw [drained_append [] s, href, if_pos rfl, buffer, FramedRead.fill, hbuffer]
        rfl
      rw [FramedRead.fill, hnext, SocketRead.bytes]
      exact .pending (.decoding messages false hphase' hrest)

/-- A reader that waits for the socket has handed out all there is, and has not come to an end. -/
theorem Reads.complete (h : f.Reads s fin items) (hneeds : f.NeedsRead) :
    fin = none ∧ items = streamItems (referenceDecode s) none := by
  obtain ⟨eof, hneeds⟩ := hneeds
  cases h with
  | decoding messages eof' hphase => cases hneeds.symm.trans hphase
  | errored e hphase => cases hneeds.symm.trans hphase
  | reading messages hphase href => simp [href, streamItems, streamError]

/-- What a reader has handed out is the beginning of what there is to hand out for the bytes it has
read. -/
theorem Reads.prefix_items (h : f.Reads s fin items) :
    items <+: streamItems (referenceDecode s) fin := by
  cases h with
  | errored e hphase => exact List.prefix_rfl
  | reading messages hphase href =>
    rw [streamItems, href]
    exact List.prefix_append _ _
  | decoding messages eof hphase hbuffer =>
    have hmessages := prefix_messages_drained (ι := ι) messages f.buffer
    rw [hbuffer] at hmessages
    exact (hmessages.map Except.ok).trans (List.prefix_append _ _)

/-- An error is the last thing a reader hands out: with it, everything was handed out that there
is. -/
theorem Reads.eq_of_error {e : StreamError ι} (h : f.Reads s fin (items ++ [.error e])) :
    items ++ [.error e] = streamItems (referenceDecode s) fin := by
  have hmem (messages : List OwnedMessage)
      (hall : items ++ [.error e] = messages.map (Except.ok (ε := StreamError ι))) : False := by
    have hlast : .error e ∈ messages.map (Except.ok (ε := StreamError ι)) := by
      rw [← hall]
      exact List.mem_append_right _ List.mem_cons_self
    obtain ⟨m, -, hm⟩ := List.mem_map.mp hlast
    cases hm
  generalize hall : items ++ [.error e] = all at h
  cases h with
  | errored e' hphase he => rfl
  | reading messages => exact (hmem messages hall).elim
  | decoding messages => exact (hmem messages hall).elim

/-! ## How long a reader goes on -/

/-- More than the number of times a reader can be polled before it needs the socket. The length of
the buffer bounds the messages in it. -/
def work (f : FramedRead ι) : Nat :=
  match f.phase with
  | .reading _ => 0
  | .decoding _ => f.buffer.length + 2
  | .errored => 1

/-- Each poll leaves less to do, so that a reader cannot be polled forever without reading. -/
theorem work_pollNext (hneeds : ¬ f.NeedsRead) : f.pollNext.2.work < f.work := by
  have hzero : ∀ f' : FramedRead ι, f'.NeedsRead → f'.work = 0 := by
    rintro f' ⟨eof, hphase⟩
    rw [work, hphase]
  have hpolled := polled_pollNext [] hneeds
  generalize f.pollNext.1 = next, f.pollNext.2 = f' at hpolled
  cases hpolled with
  | errored hphase hneeds' =>
    rw [hzero f' hneeds', work, hphase]
    exact Nat.zero_lt_one
  | message eof hphase hout hphase' =>
    rw [work, work, hphase, hphase']
    exact Nat.add_lt_add_right hout.1 2
  | messageError eof hphase hout hphase' =>
    rw [work, work, hphase, hphase']
    exact Nat.succ_lt_succ (Nat.succ_pos _)
  | leftOver hphase hout hrest hphase' =>
    rw [work, work, hphase, hphase']
    exact Nat.succ_lt_succ (Nat.succ_pos _)
  | drained hphase hout hphase' =>
    rw [hzero f' ⟨false, hphase'⟩, work, hphase]
    exact Nat.succ_pos _
  | ended hphase hout hneeds' =>
    rw [hzero f' hneeds', work, hphase]
    exact Nat.succ_pos _

end FramedRead

end

end SimpleDoip
