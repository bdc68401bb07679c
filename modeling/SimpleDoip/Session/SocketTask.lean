import SimpleDoip.Framed
import SimpleDoip.Lib.Channel
import SimpleDoip.Session.Network

/-!
# The socket task

`SocketManager::bind` spawns a task that stands between the socket and the manager: it reads
messages and puts them into one channel, and writes what it takes from the other. Its loop selects
whichever is ready: the inactivity timer, the next item of the read stream or the next message to
write. While it waits for room in the channel, or for the socket to take bytes, it does nothing
else.

`SocketTask` is the task with its two channels. A `SocketMove` is one thing that happens, on the
task's side or on the manager's. The socket takes bytes in chunks of any size, and hands them out
so. `written` is what it took.
-/

namespace SimpleDoip

open Transition MessageCodec

/-- How long a connection may be idle, in nanoseconds: 300 s without an item read or a message taken
to be written. -/
def TCP_TIMEOUT_GENERAL_INACTIVITY : Nat := 300 * 10 ^ 9

/-- Why the loop was left. Each of the ways out of the source's loop has its own reason here. -/
inductive LeaveReason where
  | inactivity
  | streamEnded
  | socketError
  | receiverDropped
  | senderDropped
  | writeFailed
deriving DecidableEq

/-- Where the task is: at its `select!`, at the send of what it read, at the write of what it took,
or out of its loop. -/
inductive LoopPhase (ι : Type) where
  | selecting
  | sending (item : Except (MessageError ι) OwnedMessage)
  | writing
  | left (reason : LeaveReason)

instance {ι : Type} : (phase : LoopPhase ι) → Decidable (phase = .selecting)
  | .selecting => isTrue rfl
  | .sending _ => isFalse fun h => by cases h
  | .writing => isFalse fun h => by cases h
  | .left _ => isFalse fun h => by cases h

/-- The task has not left its loop, wherever in it it is. -/
def LoopPhase.inLoop {ι : Type} : LoopPhase ι → Bool
  | .left _ => false
  | _ => true

/-- The socket task, with the channels to its manager and the bytes that the socket has taken. -/
structure SocketTask (ι : Type) [WireCodec ι] [Framed ι] where
  reader : FramedRead ι
  sink : FramedWrite ι
  lastActivity : Nat
  phase : LoopPhase ι
  written : List UInt8
  incoming : Channel (Except (MessageError ι) OwnedMessage) SOCKET_CHANNEL_CAP
  outgoing : Channel OwnedMessage SOCKET_CHANNEL_CAP
  clock : Nat

/-- One thing that happens: the socket is read, the reader is polled, a message is taken to be
written, the timer fires, the send of a message goes on, bytes are written, all of them were, or the
socket fails to take them; time passes; and the manager sends, receives or is shut down. -/
inductive SocketMove where
  | read (r : SocketRead)
  | next
  | take
  | timeout
  | deliver
  | write (n : Nat)
  | flush
  | writeFails
  | wait (duration : Nat)
  | send (message : OwnedMessage)
  | receive
  | shutDown

/-- The message a move hands over, if it is one of the manager's sends. -/
def SocketMove.message : SocketMove → Option OwnedMessage
  | .send message => some message
  | _ => none

/-- What a move reads from the socket, if it is a read. -/
def SocketMove.socketRead : SocketMove → Option SocketRead
  | .read r => some r
  | _ => none

/-- Socket-level errors leave the loop; any other error is passed on. -/
def StreamError.passedOn {ι : Type} : StreamError ι → Option (MessageError ι)
  | .std _ => none
  | .messageError (.io _) => none
  | .messageError e => some e

/-- What is passed on of an item: every message, and the errors that do not leave the loop. -/
def StreamItem.passedOn {ι : Type} : StreamItem ι → Option (Except (MessageError ι) OwnedMessage)
  | .ok m => some (.ok m)
  | .error e => e.passedOn.map .error

namespace SocketTask

/-- A task that was just spawned, with both channels empty and the timer set to now. -/
def spawned (ι : Type) [WireCodec ι] [Framed ι] (clock : Nat) : SocketTask ι where
  reader := FramedRead.new ι
  sink := FramedWrite.new ι
  lastActivity := clock
  phase := .selecting
  written := []
  incoming := Channel.new _ _
  outgoing := Channel.new _ _
  clock := clock

section
variable {ι : Type} [WireCodec ι] [Framed ι]

/-- The loop is left, and the task drops its ends of the channels. What is in them towards the
manager can still be received. -/
def leave (t : SocketTask ι) (reason : LeaveReason) : SocketTask ι :=
  { t with
    phase := .left reason
    incoming := t.incoming.dropSender
    outgoing := t.outgoing.dropReceiver }

/-- The read branch, by what polling the reader came to. Any item sets the timer back, also the one
that leaves the loop. -/
def handleNext (t : SocketTask ι) : FramedRead.Next ι → SocketTask ι
  | .pending => t
  | .ended => t.leave .streamEnded
  | .item item =>
    match StreamItem.passedOn item with
    | some passed => { t with lastActivity := t.clock, phase := .sending passed }
    | none => { t with lastActivity := t.clock }.leave .socketError

/-- The send of an item, once there is room. Only a message that cannot be sent leaves the loop. -/
def deliver (t : SocketTask ι) (item : Except (MessageError ι) OwnedMessage) :
    Option (SocketTask ι) :=
  match t.incoming.send item with
  | .taken incoming => some { t with incoming, phase := .selecting }
  | .full => none
  | .closed => some (if item.isOk then t.leave .receiverDropped else { t with phase := .selecting })

/-- The write branch. A message that cannot be encoded leaves the loop. The sink is empty here, as
every message before was flushed (`Writes.idle`), and there is nothing for `poll_ready` to flush. -/
def take (t : SocketTask ι) : Option (SocketTask ι) :=
  match t.outgoing.recv with
  | .empty => none
  | .closed => some (t.leave .senderDropped)
  | .value message outgoing =>
    match t.sink.startSend message with
    | (.ok _, sink) => some { t with outgoing, sink, lastActivity := t.clock, phase := .writing }
    | (.error _, sink) =>
      some ({ t with outgoing, sink, lastActivity := t.clock }.leave .writeFailed)

/-- One thing that happens, where it can. At its `select!` the task may take any branch that is
ready, in any order. -/
def step (t : SocketTask ι) : SocketMove → Option (SocketTask ι)
  | .read r =>
    match t.phase with
    | .selecting =>
      if t.reader.NeedsRead then
        some ({ t with reader := (t.reader.fill r).2 }.handleNext (t.reader.fill r).1)
      else none
    | _ => none
  | .next =>
    match t.phase with
    | .selecting =>
      if t.reader.NeedsRead then none
      else some ({ t with reader := t.reader.pollNext.2 }.handleNext t.reader.pollNext.1)
    | _ => none
  | .take =>
    match t.phase with
    | .selecting => t.take
    | _ => none
  | .timeout =>
    match t.phase with
    | .selecting =>
      if t.lastActivity + TCP_TIMEOUT_GENERAL_INACTIVITY ≤ t.clock then some (t.leave .inactivity)
      else none
    | _ => none
  | .deliver =>
    match t.phase with
    | .sending item => t.deliver item
    | _ => none
  | .write n =>
    match t.phase with
    | .writing =>
      if 0 < n ∧ n ≤ t.sink.buffer.length then
        some { t with written := t.written ++ t.sink.buffer.take n, sink := t.sink.advance n }
      else none
    | _ => none
  | .flush =>
    match t.phase with
    | .writing => if t.sink.buffer = [] then some { t with phase := .selecting } else none
    | _ => none
  | .writeFails =>
    match t.phase with
    | .writing => if t.sink.buffer = [] then none else some (t.leave .writeFailed)
    | _ => none
  | .wait duration => some { t with clock := t.clock + duration }
  | .send message =>
    if t.outgoing.senderOpen then
      match t.outgoing.send message with
      | .taken outgoing => some { t with outgoing }
      | _ => none
    else none
  | .receive =>
    match t.incoming.recv with
    | .value _ incoming => some { t with incoming }
    | _ => none
  | .shutDown =>
    some { t with incoming := t.incoming.dropReceiver, outgoing := t.outgoing.dropSender }

/-! ## What a step can do -/

/-- The steps there are, each with its guard and the task it leaves. -/
inductive Moved (t : SocketTask ι) : SocketMove → SocketTask ι → Prop where
  | read {r : SocketRead} (hphase : t.phase = .selecting) (hneeds : t.reader.NeedsRead) :
      Moved t (.read r)
        ({ t with reader := (t.reader.fill r).2 }.handleNext (t.reader.fill r).1)
  | next (hphase : t.phase = .selecting) (hneeds : ¬ t.reader.NeedsRead) :
      Moved t .next ({ t with reader := t.reader.pollNext.2 }.handleNext t.reader.pollNext.1)
  | senderDropped (hphase : t.phase = .selecting) (hrecv : t.outgoing.recv = .closed) :
      Moved t .take (t.leave .senderDropped)
  | taken {m : OwnedMessage} {outgoing : Channel OwnedMessage SOCKET_CHANNEL_CAP}
      {sink : FramedWrite ι} (hphase : t.phase = .selecting)
      (hrecv : t.outgoing.recv = .value m outgoing) (hfit : (bytes m.payload).length < 2 ^ 32)
      (hbuffer : sink.buffer = t.sink.buffer ++ m.frame) :
      Moved t .take { t with outgoing, sink, lastActivity := t.clock, phase := .writing }
  | tooLarge {m : OwnedMessage} {outgoing : Channel OwnedMessage SOCKET_CHANNEL_CAP}
      {sink : FramedWrite ι} (hphase : t.phase = .selecting)
      (hrecv : t.outgoing.recv = .value m outgoing) (hlarge : 2 ^ 32 ≤ (bytes m.payload).length) :
      Moved t .take ({ t with outgoing, sink, lastActivity := t.clock }.leave .writeFailed)
  | timeout (hphase : t.phase = .selecting)
      (hidle : t.lastActivity + TCP_TIMEOUT_GENERAL_INACTIVITY ≤ t.clock) :
      Moved t .timeout (t.leave .inactivity)
  | delivered {item : Except (MessageError ι) OwnedMessage}
      {incoming : Channel (Except (MessageError ι) OwnedMessage) SOCKET_CHANNEL_CAP}
      (hphase : t.phase = .sending item) (hsend : t.incoming.send item = .taken incoming) :
      Moved t .deliver { t with incoming, phase := .selecting }
  | receiverDropped {m : OwnedMessage} (hphase : t.phase = .sending (.ok m))
      (hclosed : t.incoming.receiverOpen = false) : Moved t .deliver (t.leave .receiverDropped)
  | errorIgnored {e : MessageError ι} (hphase : t.phase = .sending (.error e))
      (hclosed : t.incoming.receiverOpen = false) :
      Moved t .deliver { t with phase := .selecting }
  | wrote {n : Nat} (hphase : t.phase = .writing) (hpos : 0 < n) (hle : n ≤ t.sink.buffer.length) :
      Moved t (.write n)
        { t with written := t.written ++ t.sink.buffer.take n, sink := t.sink.advance n }
  | flushed (hphase : t.phase = .writing) (hbuffer : t.sink.buffer = []) :
      Moved t .flush { t with phase := .selecting }
  | writeFailed (hphase : t.phase = .writing) (hbuffer : t.sink.buffer ≠ []) :
      Moved t .writeFails (t.leave .writeFailed)
  | waited (duration : Nat) : Moved t (.wait duration) { t with clock := t.clock + duration }
  | sent {m : OwnedMessage} {outgoing : Channel OwnedMessage SOCKET_CHANNEL_CAP}
      (hopen : t.outgoing.senderOpen = true) (hsend : t.outgoing.send m = .taken outgoing) :
      Moved t (.send m) { t with outgoing }
  | received {item : Except (MessageError ι) OwnedMessage}
      {incoming : Channel (Except (MessageError ι) OwnedMessage) SOCKET_CHANNEL_CAP}
      (hrecv : t.incoming.recv = .value item incoming) : Moved t .receive { t with incoming }
  | shutDown :
      Moved t .shutDown
        { t with incoming := t.incoming.dropReceiver, outgoing := t.outgoing.dropSender }

/-- **Inversion of a step**: which one it was, with its guard and the task it leaves. -/
theorem moved_of_step {t t' : SocketTask ι} {a : SocketMove} (h : t.step a = some t') :
    t.Moved a t' := by
  cases a with
  | read r =>
    simp only [step] at h
    split at h
    · next hphase =>
      split at h
      · next hneeds =>
        cases h
        exact .read hphase hneeds
      · cases h
    · cases h
  | next =>
    simp only [step] at h
    split at h
    · next hphase =>
      split at h
      · cases h
      · next hneeds =>
        cases h
        exact .next hphase hneeds
    · cases h
  | take =>
    simp only [step, take] at h
    split at h
    · next hphase =>
      split at h
      · cases h
      · next hrecv =>
        cases h
        exact .senderDropped hphase hrecv
      · next m outgoing hrecv =>
        rcases Nat.lt_or_ge (bytes m.payload).length (2 ^ 32) with hfit | hlarge
        · obtain ⟨sink, hstart, hbuffer⟩ := t.sink.startSend_fits hfit
          rw [hstart] at h
          cases h
          exact .taken hphase hrecv hfit hbuffer
        · obtain ⟨e, sink, hstart, -⟩ := t.sink.startSend_tooLarge hlarge
          rw [hstart] at h
          cases h
          exact .tooLarge hphase hrecv hlarge
    · cases h
  | timeout =>
    simp only [step] at h
    split at h
    · next hphase =>
      split at h
      · next hidle =>
        cases h
        exact .timeout hphase hidle
      · cases h
    · cases h
  | deliver =>
    simp only [step, deliver] at h
    split at h
    · next item hphase =>
      split at h
      · next incoming hsend =>
        cases h
        exact .delivered hphase hsend
      · cases h
      · next hsend =>
        have hclosed := Channel.send_closed_iff.mp hsend
        cases item with
        | ok m =>
          cases h
          exact .receiverDropped hphase hclosed
        | error e =>
          cases h
          exact .errorIgnored hphase hclosed
    · cases h
  | write n =>
    simp only [step] at h
    split at h
    · next hphase =>
      split at h
      · next hn =>
        cases h
        exact .wrote hphase hn.1 hn.2
      · cases h
    · cases h
  | flush =>
    simp only [step] at h
    split at h
    · next hphase =>
      split at h
      · next hbuffer =>
        cases h
        exact .flushed hphase hbuffer
      · cases h
    · cases h
  | writeFails =>
    simp only [step] at h
    split at h
    · next hphase =>
      split at h
      · cases h
      · next hbuffer =>
        cases h
        exact .writeFailed hphase hbuffer
    · cases h
  | wait duration =>
    cases h
    exact .waited duration
  | send m =>
    simp only [step] at h
    split at h
    · next hopen =>
      split at h
      · next outgoing hsend =>
        cases h
        exact .sent hopen hsend
      · cases h
    · cases h
  | receive =>
    simp only [step] at h
    split at h
    · next hrecv =>
      cases h
      exact .received hrecv
    · cases h
  | shutDown =>
    cases h
    exact .shutDown

end

/-! ## What is written -/

section
variable {ι : Type} [WireCodec ι] [Framed ι] {t t' : SocketTask ι} {a : SocketMove}

/-- What is left to write of the message in hand: the bytes in the sink. -/
def unwritten (t : SocketTask ι) : List UInt8 := t.sink.buffer

/-- The task has left its loop, for whichever reason. -/
def Left (t : SocketTask ι) : Prop := ∃ reason, t.phase = .left reason

/-- A task is in its loop in every phase but the last, so that the phase decides it. -/
theorem not_left {phase : LoopPhase ι} (h : t.phase = phase) (hloop : phase.inLoop = true) :
    ¬ t.Left := by
  rintro ⟨reason, hleft⟩
  rw [← h, hleft] at hloop
  cases hloop

/-- What the read branch leaves alone, and where it goes on: nothing on the write side changes. -/
structure ReadFrom (t t' : SocketTask ι) : Prop where
  written : t'.written = t.written
  sink : t'.sink = t.sink
  phase : t'.phase ≠ .left .writeFailed
  received : t'.outgoing.received = t.outgoing.received
  accepted : t'.outgoing.accepted = t.outgoing.accepted
  senderOpen : t'.outgoing.senderOpen = t.outgoing.senderOpen
  receiverOpen : t'.incoming.receiverOpen = t.incoming.receiverOpen

theorem readFrom_handleNext (hphase : t.phase = .selecting) (reader : FramedRead ι)
    (next : FramedRead.Next ι) : ReadFrom t ({ t with reader }.handleNext next) := by
  cases next with
  | pending =>
    have hleft : t.phase ≠ .left .writeFailed := by rw [hphase]; rintro ⟨⟩
    exact ⟨rfl, rfl, hleft, rfl, rfl, rfl, rfl⟩
  | ended => exact ⟨rfl, rfl, by rintro ⟨⟩, rfl, t.outgoing.accepted_dropReceiver, rfl, rfl⟩
  | item item =>
    rw [handleNext]
    cases StreamItem.passedOn item with
    | some passed => exact ⟨rfl, rfl, by rintro ⟨⟩, rfl, rfl, rfl, rfl⟩
    | none => exact ⟨rfl, rfl, by rintro ⟨⟩, rfl, t.outgoing.accepted_dropReceiver, rfl, rfl⟩

/-- What was written is the beginning of the messages taken, and all of them but the rest that is in
the sink, unless a write failed. The sink is empty except while the task writes. -/
structure Writes (t : SocketTask ι) : Prop where
  begun : t.written <+: framesOf ι t.outgoing.received
  whole : t.phase ≠ .left .writeFailed → t.written ++ t.unwritten = framesOf ι t.outgoing.received
  idle : t.phase ≠ .writing → t.phase ≠ .left .writeFailed → t.unwritten = []

/-- Where nothing is in the sink, all was written that was taken. -/
theorem Writes.of_idle (h : t.Writes) (hphase : t.phase ≠ .left .writeFailed)
    (hwriting : t.phase ≠ .writing) : t.written = framesOf ι t.outgoing.received := by
  have hwhole := h.whole hphase
  rwa [h.idle hwriting hphase, List.append_nil] at hwhole

theorem writes_of_written (h : t.written = framesOf ι t.outgoing.received)
    (hunwritten : t.unwritten = []) : t.Writes := by
  refine ⟨h ▸ List.prefix_rfl, fun _ => ?_, fun _ _ => hunwritten⟩
  rw [hunwritten, List.append_nil, h]

/-- Steps that touch neither what is written nor what was taken keep what was written in order. -/
theorem Writes.congr (h : t.Writes) (hwritten : t'.written = t.written) (hsink : t'.sink = t.sink)
    (hphase : t'.phase = t.phase) (hreceived : t'.outgoing.received = t.outgoing.received) :
    t'.Writes := by
  have hunwritten : t'.unwritten = t.unwritten := congrArg FramedWrite.buffer hsink
  refine ⟨?_, fun hne => ?_, fun hwriting hne => ?_⟩
  · rw [hwritten, hreceived]
    exact h.begun
  · rw [hwritten, hunwritten, hreceived]
    exact h.whole (hphase ▸ hne)
  · rw [hunwritten]
    exact h.idle (hphase ▸ hwriting) (hphase ▸ hne)

/-- Each step writes on: what was taken is written, or is in the sink, or the write of it has
failed. -/
theorem Writes.step (h : t.Writes) (hstep : t.step a = some t') : t'.Writes := by
  -- at the `select!` and at a send everything taken has been written
  have hidle : (t.phase = .selecting ∨ ∃ item, t.phase = .sending item) →
      t.written = framesOf ι t.outgoing.received ∧ t.unwritten = [] := by
    rintro (hphase | ⟨item, hphase⟩) <;>
      exact ⟨h.of_idle (by rw [hphase]; rintro ⟨⟩) (by rw [hphase]; rintro ⟨⟩),
        h.idle (by rw [hphase]; rintro ⟨⟩) (by rw [hphase]; rintro ⟨⟩)⟩
  have hread : ∀ reader (next : FramedRead.Next ι), t.phase = .selecting →
      Writes ({ t with reader }.handleNext next) := by
    intro reader next hphase
    have hread := readFrom_handleNext hphase reader next
    obtain ⟨hwritten, hunwritten⟩ := hidle (.inl hphase)
    refine writes_of_written ?_ ((congrArg FramedWrite.buffer hread.sink).trans hunwritten)
    rw [hread.written, hread.received]
    exact hwritten
  cases moved_of_step hstep with
  | read hphase => exact hread _ _ hphase
  | next hphase => exact hread _ _ hphase
  | senderDropped hphase | timeout hphase =>
    obtain ⟨hwritten, hunwritten⟩ := hidle (.inl hphase)
    exact writes_of_written hwritten hunwritten
  | @taken m outgoing sink hphase hrecv hfit hbuffer =>
    obtain ⟨hwritten, hunwritten⟩ := hidle (.inl hphase)
    have hwhole : t.written ++ sink.buffer = framesOf ι outgoing.received := by
      rw [hbuffer, show t.sink.buffer = [] from hunwritten, List.nil_append,
        (Channel.of_recv_value hrecv).2.1, framesOf_concat, hwritten]
    exact ⟨⟨_, hwhole⟩, fun _ => hwhole, fun hne => absurd rfl hne⟩
  | @tooLarge m outgoing sink hphase hrecv =>
    refine ⟨?_, fun hne => absurd rfl hne, fun _ hne => absurd rfl hne⟩
    change t.written <+: framesOf ι outgoing.received
    rw [(Channel.of_recv_value hrecv).2.1, framesOf_concat, ← (hidle (.inl hphase)).1]
    exact List.prefix_append _ _
  | delivered hphase | receiverDropped hphase | errorIgnored hphase =>
    obtain ⟨hwritten, hunwritten⟩ := hidle (.inr ⟨_, hphase⟩)
    exact writes_of_written hwritten hunwritten
  | @wrote n hphase =>
    have hwhole : (t.written ++ t.sink.buffer.take n) ++ (t.sink.advance n).buffer =
        framesOf ι t.outgoing.received := by
      rw [FramedWrite.buffer_advance, List.append_assoc, List.take_append_drop]
      exact h.whole (by rw [hphase]; rintro ⟨⟩)
    exact ⟨⟨_, hwhole⟩, fun _ => hwhole, fun hne => absurd hphase hne⟩
  | flushed hphase hbuffer =>
    have hwhole := h.whole (by rw [hphase]; rintro ⟨⟩)
    rw [unwritten, hbuffer, List.append_nil] at hwhole
    exact writes_of_written hwhole hbuffer
  | writeFailed =>
    exact ⟨h.begun, fun hne => absurd rfl hne, fun _ hne => absurd rfl hne⟩
  | waited | received | shutDown => exact h.congr rfl rfl rfl rfl
  | sent hopen hsend => exact h.congr rfl rfl rfl (Channel.of_send_taken hsend).2.2.1

/-- Each step hands over the message it sends, and no other. -/
theorem accepted_step (hstep : t.step a = some t') :
    t'.outgoing.accepted = t.outgoing.accepted ++ a.message.toList := by
  cases moved_of_step hstep with
  | read hphase => exact (readFrom_handleNext hphase _ _).accepted.trans (List.append_nil _).symm
  | next hphase => exact (readFrom_handleNext hphase _ _).accepted.trans (List.append_nil _).symm
  | senderDropped | timeout | receiverDropped | writeFailed =>
    exact (Channel.accepted_dropReceiver _).trans (List.append_nil _).symm
  | taken hphase hrecv => exact (Channel.of_recv_value hrecv).2.2.2.2.trans (List.append_nil _).symm
  | tooLarge hphase hrecv =>
    exact ((Channel.accepted_dropReceiver _).trans (Channel.of_recv_value hrecv).2.2.2.2).trans
      (List.append_nil _).symm
  | delivered | errorIgnored | wrote | flushed | waited | received | shutDown =>
    exact (List.append_nil _).symm
  | sent hopen hsend => exact (Channel.of_send_taken hsend).2.2.2.2.2.2

/-! ## The ends of the channels -/

/-- The task holds its ends of the channels until it leaves its loop, and drops them then. -/
structure Attached (t : SocketTask ι) : Prop where
  incoming : t.incoming.senderOpen = true ↔ ¬ t.Left
  outgoing : t.outgoing.receiverOpen = true ↔ ¬ t.Left

theorem attached_leave (t : SocketTask ι) (reason : LeaveReason) : (t.leave reason).Attached := by
  have hleft : (t.leave reason).Left := ⟨reason, rfl⟩
  exact ⟨⟨by rintro ⟨⟩, fun h => absurd hleft h⟩, ⟨by rintro ⟨⟩, fun h => absurd hleft h⟩⟩

/-- A task that goes on in its loop keeps its ends of the channels. -/
theorem Attached.stays (h : t.Attached) (hleft : ¬ t.Left) (hleft' : ¬ t'.Left)
    (hincoming : t'.incoming.senderOpen = t.incoming.senderOpen)
    (houtgoing : t'.outgoing.receiverOpen = t.outgoing.receiverOpen) : t'.Attached := by
  refine ⟨?_, ?_⟩
  · rw [hincoming]
    exact ⟨fun _ => hleft', fun _ => h.incoming.mpr hleft⟩
  · rw [houtgoing]
    exact ⟨fun _ => hleft', fun _ => h.outgoing.mpr hleft⟩

theorem Attached.handleNext (h : t.Attached) (hphase : t.phase = .selecting) (reader : FramedRead ι)
    (next : FramedRead.Next ι) : ({ t with reader }.handleNext next).Attached := by
  cases next with
  | pending => exact h.stays (not_left hphase rfl) (not_left hphase rfl) rfl rfl
  | ended => exact attached_leave _ _
  | item item =>
    rw [SocketTask.handleNext]
    cases StreamItem.passedOn item with
    | some passed => exact h.stays (not_left hphase rfl) (not_left rfl rfl) rfl rfl
    | none => exact attached_leave _ _

theorem Attached.step (h : t.Attached) (hstep : t.step a = some t') : t'.Attached := by
  cases moved_of_step hstep with
  | read hphase => exact h.handleNext hphase _ _
  | next hphase => exact h.handleNext hphase _ _
  | senderDropped | tooLarge | timeout | receiverDropped | writeFailed => exact attached_leave _ _
  | taken hphase hrecv =>
    exact h.stays (not_left hphase rfl) (not_left rfl rfl) rfl
      (Channel.of_recv_value hrecv).2.2.2.1
  | delivered hphase hsend =>
    exact h.stays (not_left hphase rfl) (not_left rfl rfl)
      (Channel.of_send_taken hsend).2.2.2.2.1 rfl
  | errorIgnored hphase =>
    exact h.stays (not_left hphase rfl) (not_left rfl rfl) rfl rfl
  | wrote hphase => exact h.stays (not_left hphase rfl) (not_left hphase rfl) rfl rfl
  | flushed hphase => exact h.stays (not_left hphase rfl) (not_left rfl rfl) rfl rfl
  | waited | shutDown => exact ⟨h.incoming, h.outgoing⟩
  | sent hopen hsend =>
    obtain ⟨hreceiver, -, -, -, -, hreceiver', -⟩ := Channel.of_send_taken hsend
    exact ⟨h.incoming, ⟨fun _ => h.outgoing.mp hreceiver, fun _ => hreceiver'⟩⟩
  | received hrecv =>
    refine ⟨?_, h.outgoing⟩
    rw [(Channel.of_recv_value hrecv).2.2.1]
    exact h.incoming

end

/-! ## What is passed on -/

section
variable {ι : Type} [WireCodec ι] [Framed ι]

/-- The item at a send, which is in neither the reader nor the channel. -/
def inHand (t : SocketTask ι) : List (Except (MessageError ι) OwnedMessage) :=
  match t.phase with
  | .sending item => [item]
  | _ => []

variable (ι) in
/-- What is passed on of the stream with these bytes and this end. -/
def passedOn (s : List UInt8) (fin : Option StreamEnd) :
    List (Except (MessageError ι) OwnedMessage) :=
  (streamItems (referenceDecode s) fin).filterMap StreamItem.passedOn

/-- What was put into the channel is what is passed on of the items so far, but for the one in hand;
`lost` is what met no receiver. Once the loop is left it is the beginning of what the stream has to
pass on, and all of it if the end of the stream was the reason. -/
inductive Delivers (s : List UInt8) (fin : Option StreamEnd) (t : SocketTask ι) : Prop where
  | reading {items : List (StreamItem ι)} (lost : List (Except (MessageError ι) OwnedMessage))
      (hloop : ¬ t.Left) (hreads : t.reader.Reads s fin items)
      (hitems : items.filterMap StreamItem.passedOn = t.incoming.accepted ++ lost ++ t.inHand)
      (hlost : t.incoming.receiverOpen = true → lost = [])
  | left {reason : LeaveReason} (lost : List (Except (MessageError ι) OwnedMessage))
      (hphase : t.phase = .left reason)
      (hpre : t.incoming.accepted ++ lost <+: passedOn ι s fin)
      (hwhole : reason = .streamEnded ∨ reason = .socketError →
        t.incoming.accepted ++ lost = passedOn ι s fin)
      (hlost : t.incoming.receiverOpen = true → lost = [])

variable {t t' : SocketTask ι} {a : SocketMove} {s : List UInt8} {fin : Option StreamEnd}
  {items : List (StreamItem ι)} {lost : List (Except (MessageError ι) OwnedMessage)}

/-- What the reader has handed out is passed on as the beginning of the stream. -/
theorem passedOn_of_reads (hreads : t.reader.Reads s fin items) :
    items.filterMap StreamItem.passedOn <+: passedOn ι s fin :=
  hreads.prefix_items.filterMap _

/-- Leaving for another reason than the stream loses what was not passed on yet, and nothing that
was. -/
theorem delivers_leave {reason : LeaveReason}
    (hreason : ¬ (reason = .streamEnded ∨ reason = .socketError))
    (hpre : t.incoming.accepted ++ lost <+: passedOn ι s fin)
    (hlost : t.incoming.receiverOpen = true → lost = []) : (t.leave reason).Delivers s fin :=
  .left lost rfl hpre (fun h => absurd h hreason) hlost

/-- The read branch keeps to the stream: an item is in hand to be passed on, or the loop was left
for it. -/
theorem delivers_handleNext {next : FramedRead.Next ι} {reader : FramedRead ι}
    (hphase : t.phase = .selecting)
    (hitems : items.filterMap StreamItem.passedOn = t.incoming.accepted ++ lost)
    (hlost : t.incoming.receiverOpen = true → lost = [])
    (hnext : FramedRead.Continues s fin items next reader) :
    ({ t with reader }.handleNext next).Delivers s fin := by
  cases hnext with
  | pending hreads =>
    have hhand : t.inHand = [] := by rw [inHand, hphase]
    refine .reading lost (not_left hphase rfl) hreads ?_ hlost
    exact (hitems.trans (List.append_nil _).symm).trans (congrArg _ hhand.symm)
  | ended hstream =>
    have hwhole : t.incoming.accepted ++ lost = passedOn ι s fin := by
      rw [← hitems, passedOn, hstream]
    exact .left lost rfl (hwhole ▸ List.prefix_rfl) (fun _ => hwhole) hlost
  | @item item _ hreads =>
    rw [handleNext]
    cases hpassed : StreamItem.passedOn item with
    | some passed =>
      refine .reading lost (not_left rfl rfl) hreads ?_ hlost
      rw [List.filterMap_append, hitems, List.filterMap_cons_some hpassed]
      rfl
    | none =>
      cases item with
      | ok m => cases hpassed
      | error e =>
        have hwhole : t.incoming.accepted ++ lost = passedOn ι s fin := by
          rw [passedOn, ← hreads.eq_of_error, List.filterMap_append, hitems,
            List.filterMap_cons_none hpassed, List.filterMap_nil, List.append_nil]
        exact .left lost rfl (hwhole ▸ List.prefix_rfl) (fun _ => hwhole) hlost

/-- Steps that touch neither the reader nor the channel keep to the stream. -/
theorem Delivers.congr (h : t.Delivers s fin) (hreader : t'.reader = t.reader)
    (hphase : t'.phase = t.phase) (haccepted : t'.incoming.accepted = t.incoming.accepted)
    (hreceiver : t'.incoming.receiverOpen = true → t.incoming.receiverOpen = true) :
    t'.Delivers s fin := by
  cases h with
  | reading lost hloop hreads hitems hlost =>
    refine .reading lost ?_ (hreader ▸ hreads) ?_ (fun h => hlost (hreceiver h))
    · rwa [Left, hphase]
    · rw [hitems, inHand, inHand, hphase, haccepted]
  | left lost hleft hpre hwhole hlost =>
    refine .left lost (hphase.trans hleft) (haccepted ▸ hpre) ?_ (fun h => hlost (hreceiver h))
    rw [haccepted]
    exact hwhole

/-- While the task is in its loop, what the reader has handed out was passed on, was lost to a
dropped receiver, or is in hand. -/
theorem Delivers.of_loop (h : t.Delivers s fin) (hloop : ¬ t.Left) :
    ∃ items lost, t.reader.Reads s fin items ∧
      items.filterMap StreamItem.passedOn = t.incoming.accepted ++ lost ++ t.inHand ∧
      (t.incoming.receiverOpen = true → lost = []) := by
  cases h with
  | reading lost _ hreads hitems hlost => exact ⟨_, _, hreads, hitems, hlost⟩
  | left lost hphase => exact absurd ⟨_, hphase⟩ hloop

/-- The loop goes on with nothing in hand, so that all that was handed out was passed on or lost. -/
theorem delivers_idle (h : t.Delivers s fin) (hloop : ¬ t.Left) (hhand : t.inHand = [])
    (hreader : t'.reader = t.reader) (hincoming : t'.incoming = t.incoming) (hloop' : ¬ t'.Left)
    (hhand' : t'.inHand = []) : t'.Delivers s fin := by
  obtain ⟨items, lost, hreads, hitems, hlost⟩ := h.of_loop hloop
  refine .reading lost hloop' (hreader ▸ hreads) ?_ (hincoming ▸ hlost)
  rw [hitems, hhand, hhand', hincoming]

/-- At the `select!`, what was put into the channel is what is passed on of the items so far. -/
theorem Delivers.of_selecting (h : t.Delivers s fin) (hphase : t.phase = .selecting) :
    ∃ items lost, t.reader.Reads s fin items ∧
      items.filterMap StreamItem.passedOn = t.incoming.accepted ++ lost ∧
      (t.incoming.receiverOpen = true → lost = []) := by
  obtain ⟨items, lost, hreads, hitems, hlost⟩ := h.of_loop (not_left hphase rfl)
  have hhand : t.inHand = [] := by rw [inHand, hphase]
  rw [hhand, List.append_nil] at hitems
  exact ⟨items, lost, hreads, hitems, hlost⟩

/-- Reading the socket adds what was read to the stream, and keeps to it. -/
theorem Delivers.step_read {r : SocketRead} (h : t.Delivers s fin)
    (hstep : t.step (.read r) = some t') :
    fin = none ∧ t'.Delivers (s ++ r.bytes) r.fin := by
  cases moved_of_step hstep with
  | read hphase hneeds =>
    obtain ⟨items, lost, hreads, hitems, hlost⟩ := h.of_selecting hphase
    exact ⟨(hreads.complete hneeds).1,
      delivers_handleNext hphase hitems hlost (hreads.fill hneeds r)⟩

/-- Every other step keeps to the stream as it is, as it reads nothing. -/
theorem Delivers.step (h : t.Delivers s fin) (hread : a.socketRead = none)
    (hstep : t.step a = some t') : t'.Delivers s fin := by
  cases moved_of_step hstep with
  | read => cases hread
  | next hphase hneeds =>
    obtain ⟨items, lost, hreads, hitems, hlost⟩ := h.of_selecting hphase
    exact delivers_handleNext hphase hitems hlost (hreads.pollNext hneeds)
  | senderDropped hphase | tooLarge hphase | timeout hphase =>
    obtain ⟨items, lost, hreads, hitems, hlost⟩ := h.of_selecting hphase
    exact delivers_leave (by decide) (hitems ▸ passedOn_of_reads hreads) hlost
  | taken hphase =>
    exact delivers_idle h (not_left hphase rfl) (by rw [inHand, hphase]) rfl rfl
      (not_left rfl rfl) rfl
  | @delivered item incoming hphase hsend =>
    obtain ⟨items, lost, hreads, hitems, hlost⟩ := h.of_loop (not_left hphase rfl)
    obtain ⟨hopen, -, -, -, -, -, haccepted⟩ := Channel.of_send_taken hsend
    refine .reading [] (not_left rfl rfl) hreads ?_ (fun _ => rfl)
    rw [hitems, hlost hopen, inHand, hphase, List.append_nil]
    exact haccepted.symm.trans ((List.append_nil _).trans (List.append_nil _)).symm
  | receiverDropped hphase hclosed =>
    obtain ⟨items, lost, hreads, hitems, hlost⟩ := h.of_loop (not_left hphase rfl)
    refine delivers_leave (by decide) ?_ hlost
    refine List.IsPrefix.trans ?_ (hitems ▸ passedOn_of_reads hreads)
    exact List.prefix_append _ _
  | @errorIgnored e hphase hclosed =>
    obtain ⟨items, lost, hreads, hitems, hlost⟩ := h.of_loop (not_left hphase rfl)
    refine .reading (lost ++ [.error e]) (not_left rfl rfl) hreads ?_ ?_
    · rw [hitems, inHand, hphase, ← List.append_assoc]
      exact (List.append_nil _).symm
    · exact fun hopen => by cases hclosed.symm.trans hopen
  | flushed hphase =>
    exact delivers_idle h (not_left hphase rfl) (by rw [inHand, hphase]) rfl rfl
      (not_left rfl rfl) rfl
  | writeFailed hphase =>
    obtain ⟨items, lost, hreads, hitems, hlost⟩ := h.of_loop (not_left hphase rfl)
    rw [inHand, hphase, List.append_nil] at hitems
    exact delivers_leave (by decide) (hitems ▸ passedOn_of_reads hreads) hlost
  | wrote | waited | sent => exact h.congr rfl rfl rfl id
  | received hrecv =>
    obtain ⟨-, -, -, hreceiver, haccepted⟩ := Channel.of_recv_value hrecv
    exact h.congr rfl rfl haccepted (fun hopen => hreceiver ▸ hopen)
  | shutDown =>
    exact h.congr rfl rfl (Channel.accepted_dropReceiver _) (fun hopen => by cases hopen)

/-! ## Whole runs -/

/-- What a run hands over to be written, in this order. -/
def messagesSent (moves : List SocketMove) : List OwnedMessage :=
  moves.filterMap SocketMove.message

/-- What a run reads from the socket, in this order. -/
def socketReads (moves : List SocketMove) : List SocketRead :=
  moves.filterMap SocketMove.socketRead

variable {clock : Nat} {moves : List SocketMove}

theorem accepted_of_run (hrun : run step (spawned ι clock) moves = some t) :
    t.outgoing.accepted = messagesSent moves := by
  refine run_history (P := fun moves t => t.outgoing.accepted = messagesSent moves) ?_ hrun rfl
  intro moves t a t' _ hstep h
  rw [accepted_step hstep, h, messagesSent, messagesSent, List.filterMap_append]
  cases a <;> rfl

theorem delivers_of_run (hrun : run step (spawned ι clock) moves = some t) :
    t.Delivers (bytesRead (socketReads moves)) (endRead (socketReads moves)) := by
  refine run_history (P := fun moves t =>
    t.Delivers (bytesRead (socketReads moves)) (endRead (socketReads moves))) ?_ hrun ?_
  · intro moves t a t' _ hstep h
    rw [socketReads, List.filterMap_append, ← socketReads]
    cases hread : a.socketRead with
    | none =>
      rw [List.filterMap_cons_none hread, List.filterMap_nil, List.append_nil]
      exact h.step hread hstep
    | some r =>
      rw [List.filterMap_cons_some hread, List.filterMap_nil, bytesRead_snoc, endRead_snoc]
      cases a <;> cases hread
      obtain ⟨hfin, h'⟩ := h.step_read hstep
      rw [hfin]
      exact h'
  · exact .reading [] (not_left rfl rfl) (FramedRead.reads_new ι) rfl (fun _ => rfl)

theorem writes_of_run (hrun : run step (spawned ι clock) moves = some t) : t.Writes :=
  run_invariant (P := Writes) (fun _ _ _ hstep h => h.step hstep) hrun
    (writes_of_written rfl (FramedWrite.buffer_new ι))

theorem attached_of_run (hrun : run step (spawned ι clock) moves = some t) : t.Attached := by
  have hloop : ¬ (spawned ι clock).Left := not_left rfl rfl
  exact run_invariant (P := Attached) (fun _ _ _ hstep h => h.step hstep) hrun
    ⟨⟨fun _ => hloop, fun _ => rfl⟩, ⟨fun _ => hloop, fun _ => rfl⟩⟩

/-- In its loop, the task has written or holds everything it was handed: nothing is lost, and
nothing written twice. -/
theorem written_of_loop (hrun : run step (spawned ι clock) moves = some t) (hloop : ¬ t.Left) :
    t.written ++ t.unwritten ++ framesOf ι t.outgoing.queue = framesOf ι (messagesSent moves) := by
  have hopen := (attached_of_run hrun).outgoing.mpr hloop
  have hphase : t.phase ≠ .left .writeFailed := fun h => hloop ⟨_, h⟩
  rw [(writes_of_run hrun).whole hphase, ← framesOf_append, ← Channel.accepted_of_open hopen,
    accepted_of_run hrun]

/-- What was written is the beginning of what was handed over, whether or not the task has left its
loop. -/
theorem prefix_written (hrun : run step (spawned ι clock) moves = some t) :
    t.written <+: framesOf ι (messagesSent moves) := by
  obtain ⟨rest, hrest⟩ := t.outgoing.prefix_received
  have haccepted := accepted_of_run hrun
  rw [← hrest] at haccepted
  rw [← haccepted, framesOf_append]
  exact (writes_of_run hrun).begun.trans (List.prefix_append _ _)

/-- Behind the loop, whole messages were written, unless a write failed within one. -/
theorem written_of_left (hrun : run step (spawned ι clock) moves = some t) {reason : LeaveReason}
    (hleft : t.phase = .left reason) (hreason : reason ≠ .writeFailed) :
    ∃ ms, ms <+: messagesSent moves ∧ t.written = framesOf ι ms := by
  refine ⟨t.outgoing.received, ?_, ?_⟩
  · rw [← accepted_of_run hrun]
    exact t.outgoing.prefix_received
  · refine (writes_of_run hrun).of_idle ?_ (by rw [hleft]; rintro ⟨⟩)
    rw [hleft]
    exact fun h => hreason (LoopPhase.left.inj h)

/-- What was put into the channel is the beginning of what the stream has to pass on. -/
theorem Delivers.prefix_accepted (h : t.Delivers s fin) :
    t.incoming.accepted <+: passedOn ι s fin := by
  cases h with
  | reading lost hloop hreads hitems hlost =>
    refine List.IsPrefix.trans ?_ (hitems ▸ passedOn_of_reads hreads)
    rw [List.append_assoc]
    exact List.prefix_append _ _
  | left lost hphase hpre => exact (List.prefix_append _ _).trans hpre

/-- A task that waits for the socket has passed on everything, and so has one that the end of the
stream has ended. -/
theorem Delivers.accepted_eq (h : t.Delivers s fin) (hopen : t.incoming.receiverOpen = true)
    (hend : t.phase = .selecting ∧ t.reader.NeedsRead ∨ t.phase = .left .streamEnded ∨
      t.phase = .left .socketError) :
    t.incoming.received ++ t.incoming.queue = passedOn ι s fin := by
  rw [← Channel.accepted_of_open hopen]
  cases h with
  | reading lost hloop hreads hitems hlost =>
    rcases hend with ⟨hphase, hneeds⟩ | hleft | hleft
    · obtain ⟨rfl, hall⟩ := hreads.complete hneeds
      rw [hlost hopen, inHand, hphase, List.append_nil, List.append_nil] at hitems
      rw [← hitems, passedOn, hall]
    · exact absurd ⟨_, hleft⟩ hloop
    · exact absurd ⟨_, hleft⟩ hloop
  | left lost hphase hpre hwhole hlost =>
    rw [hlost hopen, List.append_nil] at hwhole
    apply hwhole
    rcases hend with ⟨hselecting, -⟩ | hleft | hleft
    · cases hselecting.symm.trans hphase
    · exact .inl (LoopPhase.left.inj (hphase.symm.trans hleft))
    · exact .inr (LoopPhase.left.inj (hphase.symm.trans hleft))

/-- **The socket task neither loses, repeats, reorders nor invents a message.** Along every run,
whatever the chunks, the order of events and the failures: what is on the wire is the beginning of
the frames of the messages handed over, in order; while the task is in its loop the rest of them is
in its hands or in the channel; and behind the loop whole messages were written, unless a write
failed. What the manager is given is the beginning of what the codec finds in all the bytes read;
and where the task waits for the socket, or has come to the end of the stream, it is all of it. -/
theorem socket_task_faithful (hrun : run step (spawned ι clock) moves = some t) :
    t.written <+: framesOf ι (messagesSent moves) ∧
    (¬ t.Left → t.written ++ t.unwritten ++ framesOf ι t.outgoing.queue =
      framesOf ι (messagesSent moves)) ∧
    (∀ reason, t.phase = .left reason → reason ≠ .writeFailed →
      ∃ ms, ms <+: messagesSent moves ∧ t.written = framesOf ι ms) ∧
    t.incoming.accepted <+:
      passedOn ι (bytesRead (socketReads moves)) (endRead (socketReads moves)) ∧
    (t.incoming.receiverOpen = true →
      (t.phase = .selecting ∧ t.reader.NeedsRead ∨ t.phase = .left .streamEnded ∨
        t.phase = .left .socketError) →
      t.incoming.received ++ t.incoming.queue =
        passedOn ι (bytesRead (socketReads moves)) (endRead (socketReads moves))) :=
  ⟨prefix_written hrun, written_of_loop hrun, fun _ => written_of_left hrun,
    (delivers_of_run hrun).prefix_accepted, (delivers_of_run hrun).accepted_eq⟩

end

/-- An alive check that arrives in two parts, and its answer, written in two. -/
def splitExchange : List SocketMove :=
  [.read (.ok [0x02, 0xFD, 0x00]), .next, .read (.ok [0x07, 0x00, 0x00, 0x00, 0x00]), .next,
    .deliver, .receive, .send (OwnedMessage.aliveCheckResponse .v2012 ⟨0x0E00⟩), .next, .take,
    .write 4, .write 6, .flush]

/-- The message is passed on, and the answer is on the wire as one frame. -/
theorem socket_task_faithful_split :
    letI := plainWire
    letI := plainFramed Incomplete
    ∃ t, run step (spawned Incomplete 0) splitExchange = some t ∧
      t.incoming.received.length = 1 ∧ t.written.length = 10 ∧
      t.written <+: framesOf Incomplete (messagesSent splitExchange) ∧
      t.incoming.received ++ t.incoming.queue = passedOn Incomplete
        (bytesRead (socketReads splitExchange)) (endRead (socketReads splitExchange)) := by
  let := plainWire
  let := plainFramed Incomplete
  have h : ∃ t, run step (spawned Incomplete 0) splitExchange = some t ∧
      t.incoming.received.length = 1 ∧ t.written.length = 10 ∧
      t.incoming.receiverOpen = true ∧ t.phase = .selecting ∧ t.reader.NeedsRead :=
    exists_of_any_run (by decide +kernel)
  obtain ⟨t, hrun, hreceived, hwritten, hopen, hphase, hneeds⟩ := h
  obtain ⟨hpre, -, -, -, hall⟩ := socket_task_faithful hrun
  exact ⟨t, hrun, hreceived, hwritten, hpre, hall hopen (.inl ⟨hphase, hneeds⟩)⟩

end SocketTask

end SimpleDoip
