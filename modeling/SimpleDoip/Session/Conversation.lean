import SimpleDoip.Server.Stream
import SimpleDoip.Session.SocketTask

/-!
# Client and async server, connected

A connection between the client and the async server of this crate: the client's socket task on one
end, `handle_client_connection` on the other, and between them two streams of bytes. `Conversation`
is all of it with the bytes that are on their way. They arrive in order and in chunks of any size;
either end may close or see an error, and then what is on its way to it is lost.

What both ends do on their own is known: the one writes the frames of the messages it is handed, and
the other handles the messages in the bytes it reads. `requests_reach_handler` puts the two together
with the round trip of the codec: the handler is called for the requests that were sent, in order,
each once; and what comes back are the responses that were put into the sink, in order, each once.
The socket of the server may fail in the middle of a message; what it has not taken stays in the
sink, in front of the next message.
-/

namespace SimpleDoip

open Transition MessageCodec

/-! ## Frames, one after the other -/

section
variable {ι : Type} [WireCodec ι]

/-- The codec reads a well-formed message off its frame, whatever follows. Its header then states
the length of its payload, whatever it stated before. -/
theorem decode_wellFormed {m : Message} (h : m.WellFormed) (rest : List UInt8) :
    decode (ι := ι) (m.frame (ι := ι) ++ rest) = some (.ok (some m.sized), rest) := by
  have hlen : (bytes m.payload).length = (UInt32.ofNat (bytes m.payload).length).toNat :=
    (UInt32.toNat_ofNat_of_lt' h.fits).symm
  have hheader : headerOf m.header.protocolVersion.toU8 m.header.protocolVersion.inverse
      m.header.payloadType.toU16 (UInt32.ofNat (bytes m.payload).length) =
      (m.sized (ι := ι)).header := by
    have hversion : ProtocolVersion.ofU8 m.header.protocolVersion.toU8 =
        m.header.protocolVersion := h.version.ofWire_toWire
    have htype : PayloadType.ofU16 m.header.payloadType.toU16 = m.header.payloadType :=
      h.payloadType.ofWire_toWire
    rw [headerOf, hversion, htype]
    rfl
  have hcheck : inverseCheck (ι := ι) (headerOf m.header.protocolVersion.toU8
      m.header.protocolVersion.inverse m.header.payloadType.toU16
      (UInt32.ofNat (bytes m.payload).length)) = none := by
    rw [inverseCheck_headerOf, ← ProtocolVersion.inverse_eq, if_pos rfl]
  have hread := readFrame_of_parts hcheck hlen rest
  rw [hheader, ← List.append_assoc] at hread
  have hdrop : (m.frame (ι := ι) ++ rest).drop
      (8 + (UInt32.ofNat (bytes m.payload).length).toNat) = rest := by
    rw [← hlen]
    exact List.drop_left' m.length_frame
  have hbody : Payload.decode (ι := ι) (bytes m.payload) (m.sized (ι := ι)).header.payloadType =
      .ok m.payload := Payload.decode_bytes h.carries h.payload
  have hdecode : decode (ι := ι) (m.frame (ι := ι) ++ rest) = some (.ok (some m.sized),
      (m.frame (ι := ι) ++ rest).drop (8 + (UInt32.ofNat (bytes m.payload).length).toNat)) :=
    decode_item hread hbody
  rw [hdecode, hdrop]

/-- Well-formed messages are decoded from their frames, in order, and nothing else is. -/
theorem referenceDecode_framesOf {ms : List OwnedMessage} (h : ∀ m ∈ ms, m.WellFormed (ι := ι)) :
    referenceDecode (ι := ι) (framesOf ι ms) = ⟨ms.map (Message.sized (ι := ι)), none, []⟩ := by
  have hdrained : ∀ before, drained (ι := ι) before (framesOf ι ms) =
      ⟨before ++ ms.map (Message.sized (ι := ι)), none, []⟩ := by
    induction ms with
    | nil =>
      intro before
      obtain ⟨out, hout, houtcome⟩ := decode_spec (ι := ι) before []
      cases hout
      rw [List.map_nil, List.append_nil]
      exact houtcome
    | cons m ms ih =>
      intro before
      obtain ⟨out, hout, houtcome⟩ := decode_spec (ι := ι) before
        (m.frame (ι := ι) ++ framesOf ι ms)
      cases (decode_wellFormed (h m List.mem_cons_self) _).symm.trans hout
      change drained before (m.frame (ι := ι) ++ framesOf ι ms) = _
      rw [houtcome.2, ih (fun m' hm' => h m' (List.mem_cons_of_mem m hm')), List.map_cons,
        List.append_assoc]
      rfl
  rw [← drained_nil, hdrained, List.nil_append]

/-- What the codec finds in the beginning of a stream is the beginning of what it finds in all of
it, and it fails there only if it does so in the whole, in the same way. -/
theorem referenceDecode_mono {s s' : List UInt8} (h : s <+: s') :
    (referenceDecode (ι := ι) s).messages <+: (referenceDecode (ι := ι) s').messages ∧
      ((referenceDecode (ι := ι) s).status ≠ none →
        (referenceDecode (ι := ι) s').messages = (referenceDecode (ι := ι) s).messages ∧
        (referenceDecode (ι := ι) s').status = (referenceDecode (ι := ι) s).status) := by
  obtain ⟨t, rfl⟩ := h
  simp only [← drained_nil]
  rw [drained_append]
  split
  · next hstatus =>
    exact ⟨prefix_messages_drained _ _, fun h => absurd hstatus h⟩
  · exact ⟨List.prefix_rfl, fun _ => ⟨rfl, rfl⟩⟩

/-- The beginning of the frames of well-formed messages holds the beginning of the messages. -/
theorem referenceDecode_frames {ms : List OwnedMessage} (hwf : ∀ m ∈ ms, m.WellFormed (ι := ι))
    {s : List UInt8} (h : s <+: framesOf ι ms) :
    (referenceDecode (ι := ι) s).messages <+: ms.map (Message.sized (ι := ι)) ∧
      (referenceDecode (ι := ι) s).status = none := by
  obtain ⟨hmessages, hstatus⟩ := referenceDecode_mono (ι := ι) h
  rw [referenceDecode_framesOf hwf] at hmessages hstatus
  refine ⟨hmessages, ?_⟩
  by_contra hne
  exact hne (hstatus hne).2.symm

end

/-! ## What the server writes -/

namespace Server

section
variable {ι η : Type} [WireCodec ι] [Framed ι] (handler : ServerConnectionHandler ι η) (peer : Peer)

/-- Messages were put into the sink, if any, and the socket took some of the bytes in it: nothing
was lost between the two. -/
structure Wrote (c c' : Connection ι η) : Prop where
  begun : c.written <+: c'.written
  frames : ∃ rs, c'.responses = c.responses ++ rs ∧
    c'.written ++ c'.writeSink.buffer = c.written ++ c.writeSink.buffer ++ framesOf ι rs

theorem wrote_of_eq {c c' : Connection ι η} (hwritten : c'.written = c.written)
    (hsink : c'.writeSink.buffer = c.writeSink.buffer) (hresponses : c'.responses = c.responses) :
    Wrote c c' := by
  refine ⟨hwritten ▸ List.prefix_rfl, [], hresponses.trans (List.append_nil _).symm, ?_⟩
  rw [hwritten, hsink]
  exact (List.append_nil _).symm

theorem Wrote.trans {c c' c'' : Connection ι η} (h : Wrote c c') (h' : Wrote c' c'') :
    Wrote c c'' := by
  obtain ⟨rs, hrs, hframes⟩ := h.frames
  obtain ⟨rs', hrs', hframes'⟩ := h'.frames
  refine ⟨h.begun.trans h'.begun, rs ++ rs', ?_, ?_⟩
  · rw [hrs', hrs, List.append_assoc]
  · rw [hframes', hframes, framesOf_append, List.append_assoc]

/-- However much the socket takes, the rest stays in the sink, and no message is added to it. -/
theorem wrote_flush (c : Connection ι η) : Wrote c (flush peer c).2 := by
  have htaken : ∀ n, Wrote c { c with
      writeSink := c.writeSink.advance n
      written := c.written ++ c.writeSink.buffer.take n
      writes := c.writes + 1 } := by
    intro n
    refine ⟨List.prefix_append _ _, [], (List.append_nil _).symm, ?_⟩
    simp only [FramedWrite.buffer_advance]
    rw [List.append_assoc, List.take_append_drop]
    exact (List.append_nil _).symm
  rw [flush]
  split
  · have hall := htaken c.writeSink.buffer.length
    rwa [List.take_length] at hall
  · exact htaken _

theorem wrote_ready (c : Connection ι η) : Wrote c (ready peer c).2 := by
  rw [ready]
  split
  · exact wrote_of_eq rfl rfl rfl
  · exact wrote_flush peer c

/-- A message goes into the sink as its frame, behind what is there, or not at all if it overruns
the length field. -/
theorem wrote_startSend (m : OwnedMessage) (c : Connection ι η) : Wrote c (startSend m c).2 := by
  rw [startSend]
  rcases Nat.lt_or_ge (bytes m.payload).length (2 ^ 32) with hfit | hlarge
  · obtain ⟨sink, hstart, hbuffer⟩ := c.writeSink.startSend_fits hfit
    rw [hstart]
    refine ⟨List.prefix_rfl, [m], rfl, ?_⟩
    change c.written ++ sink.buffer = _
    rw [hbuffer, ← List.append_assoc]
    exact congrArg (c.written ++ c.writeSink.buffer ++ ·) (framesOf_concat [] m).symm
  · obtain ⟨e, sink, hstart, hbuffer⟩ := c.writeSink.startSend_tooLarge hlarge
    rw [hstart]
    exact wrote_of_eq rfl hbuffer rfl

theorem wrote_send (m : OwnedMessage) (c : Connection ι η) : Wrote c (send peer m c).2 :=
  andThen_rel (R := Wrote) Wrote.trans (wrote_ready peer)
    (andThen_rel (R := Wrote) Wrote.trans (wrote_startSend m) (wrote_flush peer)) c

theorem wrote_respond (r : Responding ι η) (c : Connection ι η) :
    Wrote c (respond peer r c).2 := by
  induction r generalizing c with
  | done result state => exact wrote_of_eq rfl rfl rfl
  | send m next ih => exact (wrote_send peer m c).trans (ih _ _)

theorem wrote_handleClientMessage (m : OwnedMessage) (c : Connection ι η) :
    Wrote c (resultConnection (handleClientMessage handler peer m c)) := by
  obtain ⟨header, payload⟩ := m
  cases payload with
  | aliveCheckRequest =>
    change Wrote c (resultConnection
      ((attempt (aliveCheck handler (connectionInfo peer c)) >>= _) c))
    rw [resultConnection_attempt]
    split <;> exact wrote_of_eq rfl rfl rfl
  | diagnosticMessage message =>
    change Wrote c (resultConnection ((attempt (diagnosticMessage handler peer message) >>= _) c))
    rw [resultConnection_attempt]
    have hcall : Wrote c { c with calls := c.calls ++ [.diagnosticMessage message] } :=
      wrote_of_eq rfl rfl rfl
    split <;> exact hcall.trans (wrote_respond peer _ _)
  | routingActivationRequest request =>
    change Wrote c (resultConnection ((attempt (routingActivation handler request) >>= _) c))
    rw [resultConnection_attempt, routingActivation]
    rcases handler.routingActivation request c.handlerState with ⟨e | ⟨header, payload⟩, state⟩
    · exact wrote_of_eq rfl rfl rfl
    · cases payload with
      | routingActivationResponse response =>
        cases hcode : response.routingActivationResponseCode.isSuccess with
        | true =>
          simp only [hcode]
          exact wrote_of_eq rfl rfl rfl
        | false =>
          simp only [hcode]
          exact wrote_of_eq rfl rfl rfl
      | _ => exact wrote_of_eq rfl rfl rfl
  | _ => exact wrote_of_eq rfl rfl rfl

theorem wrote_handleRead (read : Read) (c : Connection ι η) :
    Wrote c (resultConnection (handleRead handler peer read c)) := by
  cases read with
  | message m =>
    have hmessage := wrote_handleClientMessage handler peer m c
    change Wrote c (resultConnection (EStateM.bind (handleClientMessage handler peer m) _ c))
    rw [EStateM.bind]
    generalize handleClientMessage handler peer m c = r at hmessage
    rcases r with ⟨_ | response, c'⟩ | ⟨e, c'⟩
    · exact hmessage
    · change Wrote c (resultConnection ((attempt (send peer response) >>= _) c'))
      rw [resultConnection_attempt]
      split <;> exact hmessage.trans (wrote_send peer response c')
    · exact hmessage
  | codecError | closed => exact wrote_of_eq rfl rfl rfl

variable {handler peer}

theorem wrote_handleClientConnection {s s' : Serving ι η} {read : Read}
    (h : handleClientConnection handler peer s read = some s') :
    Wrote s.connection s'.connection := by
  have hread := wrote_handleRead handler peer read s.connection
  rw [handleClientConnection] at h
  split at h
  · cases h
  · generalize handleRead handler peer read s.connection = r at h hread
    rcases r with ⟨_ | _, c'⟩ | ⟨e, c'⟩ <;> (cases h; exact hread)

theorem wrote_handleNext {s s' : Serving ι η} {next : FramedRead.Next ι}
    (h : handleNext handler peer s next = some s') : Wrote s.connection s'.connection := by
  cases next with
  | item item => exact wrote_handleClientConnection h
  | ended =>
    have hclosed : handleClientConnection handler peer s .closed = some s' := h
    exact wrote_handleClientConnection hclosed
  | pending =>
    cases h
    exact wrote_of_eq rfl rfl rfl

/-- **A step of a connection writes the messages it puts into the sink**, if any, or keeps them
there. -/
theorem wrote_step {t t' : Stream ι η} {move : StreamMove}
    (h : t.step handler peer move = some t') :
    Wrote t.serving.connection t'.serving.connection := by
  cases move with
  | read r =>
    rw [Stream.step] at h
    split at h
    · obtain ⟨serving, hnext, rfl⟩ := Option.map_eq_some_iff.mp h
      exact wrote_handleNext hnext
    · cases h
  | poll =>
    rw [Stream.step] at h
    split at h
    · obtain ⟨serving, hnext, rfl⟩ := Option.map_eq_some_iff.mp h
      exact wrote_handleNext hnext
    · cases h

/-- The handler is called for the requests among what was read, in order and each once. -/
theorem calls_of_run {state : η} {reads : List Read} {s : Serving ι η}
    (hrun : run (handleClientConnection handler peer) (Serving.start ι state) reads = some s) :
    s.connection.calls.map HandlerCall.request = reads.filterMap Read.request := by
  refine run_history (P := fun reads s =>
    s.connection.calls.map HandlerCall.request = reads.filterMap Read.request) ?_ hrun rfl
  intro reads s read s' _ hstep h
  obtain ⟨call, hhandled, hprompted⟩ := handleClientConnection_spec hstep
  rw [hhandled.calls, List.map_append, h, List.filterMap_append, List.filterMap_cons,
    ← hprompted.request]
  cases call with
  | none => rfl
  | some call => rfl

end

end Server

/-- What a socket task has written stays so: the bytes on the wire are only added to. -/
theorem SocketTask.written_step {ι : Type} [WireCodec ι] [Framed ι] {t t' : SocketTask ι}
    {move : SocketMove} (h : t.step move = some t') : t.written <+: t'.written := by
  have hread : ∀ reader (next : FramedRead.Next ι), t.phase = .selecting →
      t.written <+: ({ t with reader }.handleNext next).written := by
    intro reader next hphase
    refine ⟨[], ?_⟩
    rw [List.append_nil, (readFrom_handleNext hphase reader next).written]
  cases moved_of_step h with
  | read hphase => exact hread _ _ hphase
  | next hphase => exact hread _ _ hphase
  | wrote => exact List.prefix_append _ _
  | _ => exact List.prefix_rfl

/-! ## The connection -/

variable (ι η : Type) [WireCodec ι] [Framed ι] in
/-- A socket task of the client and a connection of the async server, with the bytes on their way
from one to the other. -/
structure Conversation where
  client : SocketTask ι
  server : Server.Stream ι η
  toServer : List UInt8
  toClient : List UInt8

/-- One thing that happens: on the client's side, where it does not read; on the server's, where it
does not; or one of the two reads from the connection. -/
inductive ConversationMove where
  | client (move : SocketMove)
  | server
  | clientReads (r : SocketRead)
  | serverReads (r : SocketRead)

/-- What the client's socket task sees of it: its own moves, and what it reads off the
connection. -/
def ConversationMove.onClient : ConversationMove → Option SocketMove
  | .client move => some move
  | .clientReads r => some (.read r)
  | .server | .serverReads _ => none

/-- What the server sees of it: a poll of its stream, and what it reads off the connection. -/
def ConversationMove.onServer : ConversationMove → Option StreamMove
  | .server => some .poll
  | .serverReads r => some (.read r)
  | .client _ | .clientReads _ => none

/-- What can be read while `pipe` is on its way: some of it, or the end once the other side has
`closed` and all has arrived, or an error at any time. -/
def Arrives (pipe : List UInt8) (closed : Prop) : SocketRead → Prop
  | .ok [] => pipe = [] ∧ closed
  | .ok chunk => chunk <+: pipe
  | .error _ => True

instance (pipe : List UInt8) (closed : Prop) [Decidable closed] :
    (r : SocketRead) → Decidable (Arrives pipe closed r)
  | .ok [] => inferInstanceAs (Decidable (_ ∧ _))
  | .ok (b :: bs) => inferInstanceAs (Decidable ((b :: bs) <+: pipe))
  | .error _ => inferInstanceAs (Decidable True)

/-- The task has left its loop, and its socket is closed, which the server reads as the end of the
stream. -/
def SocketTask.hasLeft {ι : Type} [WireCodec ι] [Framed ι] (t : SocketTask ι) : Bool :=
  !t.phase.inLoop

namespace Conversation

variable (ι : Type) {η : Type} [WireCodec ι] [Framed ι]

/-- A connection that was just established and accepted: both tasks are new, and no byte is on its
way. -/
def start (clock : Nat) (state : η) : Conversation ι η where
  client := .spawned ι clock
  server := .start ι state
  toServer := []
  toClient := []

section
variable {ι} (handler : ServerConnectionHandler ι η) (peer : Peer)
  (c : Conversation ι η)

/-- The client's side goes on, and what it writes is on its way. What is left for it to read is
given. -/
def clientStep (move : SocketMove) (toClient : List UInt8) : Option (Conversation ι η) :=
  (c.client.step move).map fun client =>
    { c with
      client
      toServer := c.toServer ++ client.written.drop c.client.written.length
      toClient }

/-- The server's side goes on, and what it writes is on its way. What is left for it to read is
given. -/
def serverStep (move : StreamMove) (toServer : List UInt8) : Option (Conversation ι η) :=
  (c.server.step handler peer move).map fun server =>
    { c with
      server
      toServer
      toClient := c.toClient ++
        server.serving.connection.written.drop c.server.serving.connection.written.length }

/-- One thing that happens, where it can. A side reads only what is on its way to it, or an end that
the other side has made, or an error. -/
def step : ConversationMove → Option (Conversation ι η)
  | .client move =>
    if move.socketRead.isNone then c.clientStep move c.toClient else none
  | .server => c.serverStep handler peer .poll c.toServer
  | .clientReads r =>
    if Arrives c.toClient (c.server.serving.result.isSome = true) r then
      c.clientStep (.read r) (c.toClient.drop r.bytes.length)
    else none
  | .serverReads r =>
    if Arrives c.toServer (c.client.hasLeft = true) r then
      c.serverStep handler peer (.read r) (c.toServer.drop r.bytes.length)
    else none

end

/-- What is on the client's side of a run, as moves of its socket task alone. -/
def clientMoves (moves : List ConversationMove) : List SocketMove :=
  moves.filterMap ConversationMove.onClient

/-- What is on the server's side of a run, as moves of its connection alone. -/
def serverMoves (moves : List ConversationMove) : List StreamMove :=
  moves.filterMap ConversationMove.onServer

/-- The messages the client hands over to be sent, whether or not its task has written them yet. -/
def sent (moves : List ConversationMove) : List OwnedMessage :=
  SocketTask.messagesSent (clientMoves moves)

/-! ## Both sides of a run -/

section
variable {ι} {handler : ServerConnectionHandler ι η} {peer : Peer}
  {c c' : Conversation ι η} {clock : Nat} {state : η}

variable (handler peer clock state) in
/-- Each side has a run of its own, and what one has written the other has read, but for what is on
its way. -/
structure Linked (moves : List ConversationMove) (c : Conversation ι η) : Prop where
  client : run SocketTask.step (.spawned ι clock) (clientMoves moves) = some c.client
  server : run (Server.Stream.step handler peer) (.start ι state) (serverMoves moves) =
    some c.server
  up : bytesRead (socketReads (serverMoves moves)) ++ c.toServer = c.client.written
  down : bytesRead (SocketTask.socketReads (clientMoves moves)) ++ c.toClient =
    c.server.serving.connection.written

omit [WireCodec ι] [Framed ι] in
/-- What is read is the beginning of what was on its way; an end or an error of the socket takes no
bytes off it. -/
theorem bytes_of_arrives {pipe : List UInt8} {closed : Prop} {r : SocketRead}
    (h : Arrives pipe closed r) : r.bytes ++ pipe.drop r.bytes.length = pipe := by
  rcases r with reset | _ | ⟨b, bs⟩
  · rfl
  · rfl
  · exact List.prefix_iff_eq_append.mp h

/-- A step on the client's side, which reads the beginning of what is on its way there. -/
theorem Linked.clientStep {moves : List ConversationMove} {a : ConversationMove}
    {move : SocketMove} {toClient : List UInt8} (h : Linked handler peer clock state moves c)
    (hclient : a.onClient = some move) (hserver : a.onServer = none)
    (hread : bytesRead move.socketRead.toList ++ toClient = c.toClient)
    (hstep : c.clientStep move toClient = some c') :
    Linked handler peer clock state (moves ++ [a]) c' := by
  obtain ⟨client, hside, rfl⟩ := Option.map_eq_some_iff.mp hstep
  have hmoves : clientMoves (moves ++ [a]) = clientMoves moves ++ [move] := by
    rw [clientMoves, List.filterMap_append, List.filterMap_cons_some hclient, List.filterMap_nil]
    rfl
  have hmoves' : serverMoves (moves ++ [a]) = serverMoves moves := by
    rw [serverMoves, List.filterMap_append, List.filterMap_cons_none hserver, List.filterMap_nil,
      List.append_nil]
    rfl
  refine ⟨?_, hmoves' ▸ h.server, ?_, ?_⟩
  · rw [hmoves]
    exact run_snoc h.client hside
  · rw [hmoves', ← List.append_assoc, h.up]
    exact List.prefix_iff_eq_append.mp (SocketTask.written_step hside)
  · rw [hmoves, SocketTask.socketReads, List.filterMap_append, bytesRead, List.flatMap_append,
      List.append_assoc]
    rw [← h.down, ← hread]
    cases move <;> rfl

/-- A step on the server's side, which reads the beginning of what is on its way there. -/
theorem Linked.serverStep {moves : List ConversationMove} {a : ConversationMove}
    {move : StreamMove} {toServer : List UInt8} (h : Linked handler peer clock state moves c)
    (hclient : a.onClient = none) (hserver : a.onServer = some move)
    (hread : bytesRead move.socketRead.toList ++ toServer = c.toServer)
    (hstep : c.serverStep handler peer move toServer = some c') :
    Linked handler peer clock state (moves ++ [a]) c' := by
  obtain ⟨server, hside, rfl⟩ := Option.map_eq_some_iff.mp hstep
  have hmoves : clientMoves (moves ++ [a]) = clientMoves moves := by
    rw [clientMoves, List.filterMap_append, List.filterMap_cons_none hclient, List.filterMap_nil,
      List.append_nil]
    rfl
  have hmoves' : serverMoves (moves ++ [a]) = serverMoves moves ++ [move] := by
    rw [serverMoves, List.filterMap_append, List.filterMap_cons_some hserver, List.filterMap_nil]
    rfl
  refine ⟨hmoves ▸ h.client, ?_, ?_, ?_⟩
  · rw [hmoves']
    exact run_snoc h.server hside
  · rw [hmoves', socketReads, List.filterMap_append, bytesRead, List.flatMap_append,
      List.append_assoc]
    rw [← h.up, ← hread]
    cases move <;> rfl
  · rw [hmoves, ← List.append_assoc, h.down]
    exact List.prefix_iff_eq_append.mp (Server.wrote_step hside).begun

/-- **Both sides of a conversation** are runs of their own, along every run, so that what was shown
of each side alone applies to it. -/
theorem linked_of_run {moves : List ConversationMove}
    (hrun : run (step handler peer) (start ι clock state) moves = some c) :
    Linked handler peer clock state moves c := by
  refine run_history (P := Linked handler peer clock state) ?_ hrun ⟨rfl, rfl, rfl, rfl⟩
  intro moves c a c' _ hstep h
  cases a with
  | client move =>
    rw [step] at hstep
    split at hstep
    · next hread =>
      refine h.clientStep rfl rfl ?_ hstep
      rw [Option.isNone_iff_eq_none.mp hread]
      rfl
    · cases hstep
  | server => exact h.serverStep rfl rfl rfl hstep
  | clientReads r =>
    rw [step] at hstep
    split at hstep
    · next harrives =>
      refine h.clientStep rfl rfl ?_ hstep
      exact (congrArg (· ++ _) (List.append_nil r.bytes)).trans (bytes_of_arrives harrives)
    · cases hstep
  | serverReads r =>
    rw [step] at hstep
    split at hstep
    · next harrives =>
      refine h.serverStep rfl rfl ?_ hstep
      exact (congrArg (· ++ _) (List.append_nil r.bytes)).trans (bytes_of_arrives harrives)
    · cases hstep

/-! ## What reaches the other side -/

/-- The requests among messages that the handler is called with. The server deals with the other
messages itself. -/
def requests (ms : List OwnedMessage) : List Payload :=
  ms.filterMap fun m => (Read.message m).request

omit [Framed ι] in
theorem requests_sized (ms : List OwnedMessage) :
    requests (ms.map (Message.sized (ι := ι))) = requests ms := by
  rw [requests, List.filterMap_map]
  rfl

omit [Framed ι] in
/-- The requests in a stream are those among its messages: neither an error nor the end is one. -/
theorem request_streamReads (s : List UInt8) (fin : Option StreamEnd) :
    (Server.streamReads ι s fin).filterMap Read.request =
      requests (referenceDecode (ι := ι) s).messages := by
  have hend : (if fin = some .closed then [Read.closed] else []).filterMap Read.request = [] := by
    split <;> rfl
  have herror : (((streamError (referenceDecode (ι := ι) s) fin).map .error).toList.map
      Read.ofItem).filterMap Read.request = [] := by
    cases streamError (referenceDecode (ι := ι) s) fin <;> rfl
  rw [Server.streamReads, streamItems, List.filterMap_append, hend, List.append_nil,
    List.map_append, List.filterMap_append, herror, List.append_nil, List.map_map,
    List.filterMap_map]
  rfl

/-- The handler is called for the requests at the beginning of the stream, in order. A connection
that has returned may have left some out. -/
theorem calls_of_follows {s : List UInt8} {fin : Option StreamEnd} {t : Server.Stream ι η}
    (h : Server.Follows handler peer state s fin t) :
    t.serving.connection.calls.map HandlerCall.request <+:
      requests (referenceDecode (ι := ι) s).messages := by
  rw [← request_streamReads s fin]
  cases h with
  | live hreads hrun =>
    rw [Server.calls_of_run hrun]
    exact ((hreads.prefix_items.map _).trans (List.prefix_append _ _)).filterMap _
  | returned hpre hrun =>
    rw [Server.calls_of_run hrun]
    exact hpre.filterMap _

/-- A server that waits for the socket has handled all the messages in what it has read. -/
theorem run_of_needsRead {s : List UInt8} {fin : Option StreamEnd} {t : Server.Stream ι η}
    (h : Server.Follows handler peer state s fin t) (hopen : t.serving.result.isNone = true)
    (hneeds : t.reader.NeedsRead) (hstatus : (referenceDecode (ι := ι) s).status = none) :
    run (Server.handleClientConnection handler peer) (.start ι state)
      ((referenceDecode (ι := ι) s).messages.map .message) = some t.serving := by
  cases h with
  | live hreads hrun =>
    obtain ⟨rfl, rfl⟩ := hreads.complete hneeds
    have herror : streamError (referenceDecode (ι := ι) s) none = none := by
      unfold streamError
      rw [hstatus]
    rw [streamItems, herror, Option.map_none, Option.toList_none, List.append_nil,
      List.map_map] at hrun
    exact hrun
  | returned hpre hrun hdone => cases hdone.symm.trans hopen

omit [Framed ι] in
/-- What is passed on of the frames of well-formed messages are the messages; an end or an error of
the socket adds nothing. -/
theorem passedOn_frames {ms : List OwnedMessage} (hwf : ∀ m ∈ ms, m.WellFormed (ι := ι))
    {s : List UInt8} (h : s <+: framesOf ι ms) (fin : Option StreamEnd) :
    SocketTask.passedOn ι s fin = (referenceDecode (ι := ι) s).messages.map .ok := by
  have hstatus := (referenceDecode_frames hwf h).2
  have herror : ((streamError (referenceDecode (ι := ι) s) fin).map .error).toList.filterMap
      StreamItem.passedOn = [] := by
    unfold streamError
    rw [hstatus]
    rcases fin with _ | _ | reset
    · rfl
    · simp only
      split <;> rfl
    · rfl
  rw [SocketTask.passedOn, streamItems, List.filterMap_append, herror, List.append_nil,
    List.filterMap_map]
  exact congrFun (List.filterMap_eq_map (f := Except.ok (ε := MessageError ι))) _

/-- Nothing is left to do before the manager sends again: both sides wait for the socket, and
nothing is on its way. -/
structure AtRest (c : Conversation ι η) : Prop where
  selecting : c.client.phase = .selecting
  reading : c.client.reader.NeedsRead
  taken : c.client.outgoing.queue = []
  serving : c.server.serving.result.isNone = true
  awaiting : c.server.reader.NeedsRead
  up : c.toServer = []
  down : c.toClient = []

instance (c : Conversation ι η) : Decidable c.AtRest :=
  decidable_of_iff (c.client.phase = .selecting ∧ c.client.reader.NeedsRead ∧
    c.client.outgoing.queue = [] ∧ c.server.serving.result.isNone = true ∧
    c.server.reader.NeedsRead ∧ c.toServer = [] ∧ c.toClient = [])
    ⟨fun h => ⟨h.1, h.2.1, h.2.2.1, h.2.2.2.1, h.2.2.2.2.1, h.2.2.2.2.2.1, h.2.2.2.2.2.2⟩,
      fun h => ⟨h.1, h.2, h.3, h.4, h.5, h.6, h.7⟩⟩

/-- A client at rest has written everything it was handed: its channel is empty, and so is its
writer. -/
theorem written_of_atRest {moves : List ConversationMove}
    (h : Linked handler peer clock state moves c) (hrest : c.AtRest) :
    c.client.written = framesOf ι (sent moves) := by
  have hunwritten : c.client.unwritten = [] :=
    (SocketTask.writes_of_run h.client).idle (by rw [hrest.selecting]; rintro ⟨⟩)
      (by rw [hrest.selecting]; rintro ⟨⟩)
  have hall := SocketTask.written_of_loop h.client (SocketTask.not_left hrest.selecting rfl)
  rw [hunwritten, hrest.taken, List.append_nil] at hall
  exact (List.append_nil _).symm.trans hall

/-- What the socket of the server has taken, and what is left in the sink behind it, are the frames
of the messages that were put there, along every run. -/
theorem frames_of_run {moves : List StreamMove} {t : Server.Stream ι η}
    (hrun : run (Server.Stream.step handler peer) (.start ι state) moves = some t) :
    t.serving.connection.written ++ t.serving.connection.writeSink.buffer =
      framesOf ι t.serving.connection.responses := by
  refine run_invariant (P := fun t : Server.Stream ι η =>
    t.serving.connection.written ++ t.serving.connection.writeSink.buffer =
      framesOf ι t.serving.connection.responses) ?_ hrun (FramedWrite.buffer_new ι)
  intro t a t' hstep h
  obtain ⟨rs, hrs, hframes⟩ := (Server.wrote_step hstep).frames
  rw [hframes, h, hrs, framesOf_append]

/-- What the client has of the bytes the server has written: the beginning of the messages, and at
rest all of them. -/
theorem responses_received {moves : List ConversationMove}
    (h : Linked handler peer clock state moves c) {responses : List OwnedMessage}
    (hwf : ∀ m ∈ responses, m.WellFormed (ι := ι))
    (hwritten : c.server.serving.connection.written <+: framesOf ι responses) :
    (c.client.incoming.accepted <+: responses.map fun m => .ok (m.sized (ι := ι))) ∧
    (c.AtRest → c.client.incoming.receiverOpen = true →
      c.server.serving.connection.written = framesOf ι responses →
      c.client.incoming.received ++ c.client.incoming.queue =
        responses.map fun m => .ok (m.sized (ι := ι))) := by
  have hdelivers := SocketTask.delivers_of_run h.client
  have hdown : bytesRead (SocketTask.socketReads (clientMoves moves)) <+: framesOf ι responses :=
    List.IsPrefix.trans ⟨_, h.down⟩ hwritten
  have hpassed := passedOn_frames hwf hdown
    (endRead (SocketTask.socketReads (clientMoves moves)))
  have hmap : (responses.map fun m => Except.ok (ε := MessageError ι) (m.sized (ι := ι))) =
      (responses.map (Message.sized (ι := ι))).map .ok := by
    rw [List.map_map]
    rfl
  rw [hmap]
  refine ⟨?_, fun hrest hopen hall => ?_⟩
  · refine hdelivers.prefix_accepted.trans ?_
    rw [hpassed]
    exact (referenceDecode_frames hwf hdown).1.map _
  · have hread : bytesRead (SocketTask.socketReads (clientMoves moves)) =
        framesOf ι responses := by
      rw [← hall, ← h.down, hrest.down, List.append_nil]
    rw [hdelivers.accepted_eq hopen (.inl ⟨hrest.selecting, hrest.reading⟩), hpassed, hread,
      referenceDecode_framesOf hwf]

variable (handler peer clock state)

/-- **What the client sends is what the handler is called for, and what the server puts into its
sink is what the client receives.** Along every run, whatever the chunks and the order of events,
and whichever side closes or fails: the handler has been called for the requests sent, in order and
each once, up to some point; the socket has taken the beginning of the server's messages and the
rest is in the sink, whatever part of a message was the last it took; and what the client's task has
put into its channel are these messages, in order and each once, up to some point. At rest the
server has done what it does when it is handed the messages themselves, and the client has all of
them once the sink is empty. -/
theorem requests_reach_handler {moves : List ConversationMove}
    (hwf : ∀ m ∈ sent moves, m.WellFormed (ι := ι))
    (hrun : run (step handler peer) (start ι clock state) moves = some c) :
    (c.server.serving.connection.calls.map HandlerCall.request <+: requests (sent moves)) ∧
    (c.AtRest →
      c.server.serving.connection.calls.map HandlerCall.request = requests (sent moves) ∧
      c.server.serving = Server.serveReads handler peer (.start ι state)
        ((sent moves).map fun m => .message (m.sized (ι := ι)))) ∧
    c.server.serving.connection.written ++ c.server.serving.connection.writeSink.buffer =
      framesOf ι c.server.serving.connection.responses ∧
    ((∀ m ∈ c.server.serving.connection.responses, m.WellFormed (ι := ι)) →
      (c.client.incoming.accepted <+:
        c.server.serving.connection.responses.map fun m => .ok (m.sized (ι := ι))) ∧
      (c.AtRest → c.client.incoming.receiverOpen = true →
        c.server.serving.connection.writeSink.buffer = [] →
        c.client.incoming.received ++ c.client.incoming.queue =
          c.server.serving.connection.responses.map fun m => .ok (m.sized (ι := ι)))) := by
  have hlinked := linked_of_run hrun
  have hfollows := Server.follows_of_run hlinked.server
  have hframes := frames_of_run hlinked.server
  have hup : bytesRead (socketReads (serverMoves moves)) <+: framesOf ι (sent moves) :=
    List.IsPrefix.trans ⟨_, hlinked.up⟩ (SocketTask.prefix_written hlinked.client)
  refine ⟨?_, ?_, hframes, ?_⟩
  · refine (calls_of_follows hfollows).trans ?_
    rw [← requests_sized (ι := ι) (sent moves)]
    exact (referenceDecode_frames hwf hup).1.filterMap _
  · intro hrest
    have hread : bytesRead (socketReads (serverMoves moves)) = framesOf ι (sent moves) := by
      rw [← written_of_atRest hlinked hrest, ← hlinked.up, hrest.up, List.append_nil]
    have hserved := run_of_needsRead hfollows hrest.serving hrest.awaiting
      (referenceDecode_frames hwf hup).2
    rw [hread, referenceDecode_framesOf hwf, List.map_map] at hserved
    refine ⟨?_, (Server.serveReads_eq hserved).symm⟩
    rw [Server.calls_of_run hserved, List.filterMap_map]
    rfl
  · intro hwf'
    obtain ⟨haccepted, hall⟩ := responses_received hlinked hwf' ⟨_, hframes⟩
    refine ⟨haccepted, fun hrest hopen hempty => hall hrest hopen ?_⟩
    rw [← hframes, hempty, List.append_nil]

end

/-- An alive check that arrives in two parts, is answered, and whose answer is received. -/
def aliveExchange : List ConversationMove :=
  [.client (.send (OwnedMessage.aliveCheckRequest .v2012)), .client .take, .client (.write 3),
    .serverReads (.ok [0x02, 0xFD, 0x00]), .client (.write 5), .server, .client .flush,
    .serverReads (.ok [0x07, 0x00, 0x00, 0x00, 0x00]), .server, .server,
    .clientReads (.ok [0x02, 0xFD, 0x00, 0x08, 0x00, 0x00, 0x00, 0x02, 0x00, 0x00]),
    .client .next, .client .deliver, .client .next, .client .receive]

/-- For the run of `aliveExchange`: the handler is called once, and the answer is received once. -/
theorem requests_reach_handler_alive_check :
    letI := plainWire
    letI := plainFramed Incomplete
    ∃ c, run (step (Server.grantingHandler Incomplete) Server.localPeer) (start Incomplete 0 ())
        aliveExchange = some c ∧ c.AtRest ∧
      c.server.serving.connection.calls.map HandlerCall.request = [.aliveCheckRequest] ∧
      c.client.incoming.received ++ c.client.incoming.queue =
        [.ok ((OwnedMessage.aliveCheckResponse .v2012 ⟨0⟩).sized (ι := Incomplete))] := by
  let := plainWire
  let := plainFramed Incomplete
  have hsent : ∀ m ∈ sent aliveExchange, m.WellFormed (ι := Incomplete) := by
    intro m hm
    obtain rfl := List.mem_singleton.mp hm
    exact ⟨rfl, by decide, by decide, trivial, by decide⟩
  have hanswer : ∀ m ∈ [OwnedMessage.aliveCheckResponse .v2012 ⟨0⟩],
      m.WellFormed (ι := Incomplete) := by
    intro m hm
    obtain rfl := List.mem_singleton.mp hm
    exact ⟨rfl, by decide, by decide, trivial, by decide⟩
  have h : ∃ c, run (step (Server.grantingHandler Incomplete) Server.localPeer)
      (start Incomplete 0 ()) aliveExchange = some c ∧ c.AtRest ∧
      c.client.incoming.receiverOpen = true ∧
      c.server.serving.connection.responses = [OwnedMessage.aliveCheckResponse .v2012 ⟨0⟩] ∧
      c.server.serving.connection.writeSink.buffer = [] :=
    exists_of_any_run (by decide +kernel)
  obtain ⟨c, hrun, hrest, hopen, hresponses, hempty⟩ := h
  obtain ⟨-, hall, -, hreceived⟩ := requests_reach_handler _ _ _ _ hsent hrun
  rw [hresponses] at hreceived
  exact ⟨c, hrun, hrest, (hall hrest).1, (hreceived hanswer).2 hrest hopen hempty⟩

end Conversation

end SimpleDoip
