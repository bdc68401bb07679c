import SimpleDoip.Framed
import SimpleDoip.Lib.Transition
import SimpleDoip.Server.Gate

/-!
# The async server on a stream of bytes

`handle_client_connection` reads its messages from a `FramedRead`. `Server.Stream` is a connection
with that reader, and a `StreamMove` is a read of the socket, in chunks of any size, or a poll of
the reader with what the loop does about the item. `stream_eq_reference` compares it with
`serveReads`, which decodes all the bytes first and then handles one message after the other.
-/

namespace SimpleDoip

open Transition MessageCodec

/-- What the loop sees of an item: a message, or that decoding failed, whatever the error was. -/
def Read.ofItem {ι : Type} : StreamItem ι → Read
  | .ok m => .message m
  | .error _ => .codecError

/-- One thing that happens on a connection: the socket is read, or the reader is polled. -/
inductive StreamMove where
  | read (r : SocketRead)
  | poll

/-- What the socket was read to, if the move is a read. -/
def StreamMove.socketRead : StreamMove → Option SocketRead
  | .read r => some r
  | .poll => none

/-- What moves read from the socket, in this order. -/
def socketReads (moves : List StreamMove) : List SocketRead :=
  moves.filterMap StreamMove.socketRead

theorem socketReads_read (moves : List StreamMove) (r : SocketRead) :
    socketReads (moves ++ [.read r]) = socketReads moves ++ [r] :=
  List.filterMap_append

theorem socketReads_poll (moves : List StreamMove) :
    socketReads (moves ++ [.poll]) = socketReads moves :=
  List.filterMap_append.trans (List.append_nil _)

namespace Server

variable (ι η : Type) [WireCodec ι] [Framed ι] in
/-- A connection being served, with the reader of its messages. The loop polls the reader and
handles each item to its end. -/
structure Stream where
  reader : FramedRead ι
  serving : Serving ι η

/-- A connection that was just accepted: nothing was read, and nothing handled. -/
def Stream.start (ι : Type) [WireCodec ι] [Framed ι] {η : Type} (state : η) : Stream ι η where
  reader := FramedRead.new ι
  serving := Serving.start ι state

section
variable {ι η : Type} [WireCodec ι] [Framed ι] (handler : ServerConnectionHandler ι η) (peer : Peer)

/-- What the loop does about what polling the reader came to. It waits where the socket has to be
read first. -/
def handleNext (s : Serving ι η) : FramedRead.Next ι → Option (Serving ι η)
  | .item item => handleClientConnection handler peer s (.ofItem item)
  | .ended => handleClientConnection handler peer s .closed
  | .pending => some s

/-- One thing that happens, where it can: a call that has returned reads nothing more, and the
socket is read once the reader needs it. -/
def Stream.step (t : Stream ι η) : StreamMove → Option (Stream ι η)
  | .read r =>
    if t.serving.result.isNone ∧ t.reader.NeedsRead then
      (handleNext handler peer t.serving (t.reader.fill r).1).map fun serving =>
        ⟨(t.reader.fill r).2, serving⟩
    else none
  | .poll =>
    if t.serving.result.isNone ∧ ¬ t.reader.NeedsRead then
      (handleNext handler peer t.serving t.reader.pollNext.1).map fun serving =>
        ⟨t.reader.pollNext.2, serving⟩
    else none

/-- Nothing is left to do before more bytes arrive: the call has returned, or the reader needs the
socket. -/
def Stream.AtRest (t : Stream ι η) : Prop :=
  t.serving.result.isNone = false ∨ t.reader.NeedsRead

/-! ## The reference -/

/-- Handle one read after the other, up to the one that ends the call. What comes behind that is not
handled. -/
def serveReads (s : Serving ι η) : List Read → Serving ι η
  | [] => s
  | read :: reads =>
    match handleClientConnection handler peer s read with
    | some s' => serveReads s' reads
    | none => s

variable (ι) in
/-- What the loop reads from a stream: its messages, an error if there is one, and the end. -/
def streamReads (s : List UInt8) (fin : Option StreamEnd) : List Read :=
  (streamItems (referenceDecode (ι := ι) s) fin).map .ofItem ++
    if fin = some .closed then [.closed] else []

/-! ## The loop and the reference -/

section
variable {s s' : Serving ι η} {reads : List Read}

/-- A call that has returned handles nothing, whatever there would be to read. -/
theorem handleClientConnection_returned (h : s.result.isNone = false) (read : Read) :
    handleClientConnection handler peer s read = none := by
  rw [handleClientConnection]
  cases hresult : s.result with
  | none => rw [hresult] at h; cases h
  | some result => rfl

/-- A call that has not returned handles whatever it reads, so that the loop never gets stuck. -/
theorem handleClientConnection_open (h : s.result.isNone = true) (read : Read) :
    ∃ s', handleClientConnection handler peer s read = some s' := by
  rw [handleClientConnection, Option.isNone_iff_eq_none.mp h]
  cases handleRead handler peer read s.connection with
  | ok returned c => cases returned <;> exact ⟨_, rfl⟩
  | error e c => exact ⟨_, rfl⟩

theorem handleNext_open (h : s.result.isNone = true) (next : FramedRead.Next ι) :
    ∃ s', handleNext handler peer s next = some s' := by
  cases next with
  | item item => exact handleClientConnection_open handler peer h _
  | ended => exact handleClientConnection_open handler peer h .closed
  | pending => exact ⟨s, rfl⟩

variable {handler peer}

/-- An error of the codec and the end of the stream end the call, before anything else is read. -/
theorem returned_of_end {read : Read} (hread : read = .codecError ∨ read = .closed)
    (h : handleClientConnection handler peer s read = some s') : s'.result.isNone = false := by
  rw [handleClientConnection] at h
  cases hresult : s.result with
  | some result => rw [hresult] at h; cases h
  | none =>
    rw [hresult] at h
    rcases hread with rfl | rfl <;> cases h <;> rfl

theorem serveReads_returned (h : s.result.isNone = false) (reads : List Read) :
    serveReads handler peer s reads = s := by
  cases reads with
  | nil => rfl
  | cons read reads => rw [serveReads, handleClientConnection_returned handler peer h]

/-- The reference goes on where a run of the loop is, so that it can be computed in parts. -/
theorem serveReads_append (hrun : run (handleClientConnection handler peer) s reads = some s')
    (more : List Read) :
    serveReads handler peer s (reads ++ more) = serveReads handler peer s' more := by
  induction reads generalizing s with
  | nil =>
    cases hrun
    rfl
  | cons read reads ih =>
    rw [run_cons] at hrun
    obtain ⟨s₁, h₁, hrun⟩ := Option.bind_eq_some_iff.mp hrun
    rw [List.cons_append, serveReads, h₁]
    exact ih hrun

/-- The reference does what a run of the loop did, if it is given the same reads. -/
theorem serveReads_eq (hrun : run (handleClientConnection handler peer) s reads = some s') :
    serveReads handler peer s reads = s' := by
  have h := serveReads_append hrun []
  rwa [List.append_nil] at h

end

variable (state : η)

/-- The loop has handled what the reader handed out of the bytes `s` and the end `fin`, or it has
returned on the way. -/
inductive Follows (s : List UInt8) (fin : Option StreamEnd) : Stream ι η → Prop where
  | live {t : Stream ι η} {items : List (StreamItem ι)} (hreads : t.reader.Reads s fin items)
      (hrun : run (handleClientConnection handler peer) (Serving.start ι state)
        (items.map .ofItem) = some t.serving)
      (hopen : t.serving.result.isNone = true) : Follows s fin t
  | returned {t : Stream ι η} {reads : List Read} (hpre : reads <+: streamReads ι s fin)
      (hrun : run (handleClientConnection handler peer) (Serving.start ι state) reads =
        some t.serving)
      (hdone : t.serving.result.isNone = false) : Follows s fin t

variable {handler peer state}

/-- Handling what the reader goes on with keeps to the stream, whether it is an item, a wait or the
end. -/
theorem follows_of_continues {s : List UInt8} {fin : Option StreamEnd}
    {items : List (StreamItem ι)} {next : FramedRead.Next ι} {reader : FramedRead ι}
    {serving serving' : Serving ι η}
    (hrun : run (handleClientConnection handler peer) (Serving.start ι state)
      (items.map .ofItem) = some serving)
    (hopen : serving.result.isNone = true) (hnext : FramedRead.Continues s fin items next reader)
    (h : handleNext handler peer serving next = some serving') :
    Follows handler peer state s fin ⟨reader, serving'⟩ := by
  cases hnext with
  | @item item _ hreads =>
    have hrun' := run_snoc hrun h
    rw [← List.map_singleton, ← List.map_append] at hrun'
    cases hopen' : serving'.result.isNone with
    | true => exact .live hreads hrun' hopen'
    | false =>
      exact .returned ((hreads.prefix_items.map _).trans (List.prefix_append _ _)) hrun' hopen'
  | pending hreads =>
    cases h
    exact .live hreads hrun hopen
  | ended hitems hfin =>
    have h : handleClientConnection handler peer serving .closed = some serving' := h
    have hrun' := run_snoc hrun h
    refine .returned ?_ hrun' (returned_of_end (.inr rfl) h)
    -- behind an error the call has returned, so this is the end of the stream
    have hclean : streamError (referenceDecode (ι := ι) s) fin = none := by
      by_contra herror
      obtain ⟨e, he⟩ := Option.ne_none_iff_exists'.mp herror
      rw [hitems, streamItems, he, Option.map_some, Option.toList_some, List.map_append,
        List.map_singleton, run_append_singleton] at hrun
      obtain ⟨s₁, -, hlast⟩ := Option.bind_eq_some_iff.mp hrun
      cases hopen.symm.trans (returned_of_end (.inl rfl) hlast)
    have hclosed : fin = some .closed := by
      rcases hfin with hfin | hfin
      · obtain ⟨fin, rfl⟩ := Option.ne_none_iff_exists'.mp hfin
        cases fin with
        | closed => rfl
        | failed reset => exact absurd hclean (streamError_failed _ reset)
      · exact absurd hclean hfin
    have hreads : streamReads ι s fin = items.map .ofItem ++ [.closed] := by
      rw [streamReads, ← hitems, if_pos hclosed]
    exact hreads ▸ List.prefix_rfl

variable {s : List UInt8} {fin : Option StreamEnd} {t t' : Stream ι η}

/-- Reading the socket adds to the stream what was read, and keeps to it. -/
theorem follows_read {r : SocketRead} (hstep : t.step handler peer (.read r) = some t')
    (h : Follows handler peer state s fin t) :
    fin = none ∧ Follows handler peer state (s ++ r.bytes) r.fin t' := by
  rw [Stream.step] at hstep
  split at hstep
  · next hguard =>
    obtain ⟨serving', hnext, rfl⟩ := Option.map_eq_some_iff.mp hstep
    cases h with
    | returned hpre hrun hdone => cases hdone.symm.trans hguard.1
    | live hreads hrun hopen =>
      exact ⟨(hreads.complete hguard.2).1,
        follows_of_continues hrun hopen (hreads.fill hguard.2 r) hnext⟩
  · cases hstep

/-- Polling the reader keeps to the stream as it is, as no bytes are read by it. -/
theorem follows_poll (hstep : t.step handler peer .poll = some t')
    (h : Follows handler peer state s fin t) : Follows handler peer state s fin t' := by
  rw [Stream.step] at hstep
  split at hstep
  · next hguard =>
    obtain ⟨serving', hnext, rfl⟩ := Option.map_eq_some_iff.mp hstep
    cases h with
    | returned hpre hrun hdone => cases hdone.symm.trans hguard.1
    | live hreads hrun hopen =>
      exact follows_of_continues hrun hopen (hreads.pollNext hguard.2) hnext
  · cases hstep

/-- **The loop follows the bytes** that were read, along every run, whatever chunks they came in. -/
theorem follows_of_run {moves : List StreamMove}
    (hrun : run (Stream.step handler peer) (Stream.start ι state) moves = some t) :
    Follows handler peer state (bytesRead (socketReads moves)) (endRead (socketReads moves)) t := by
  refine run_history (P := fun moves t =>
    Follows handler peer state (bytesRead (socketReads moves)) (endRead (socketReads moves)) t)
    ?_ hrun (.live (FramedRead.reads_new ι) rfl rfl)
  intro moves t a t' _ hstep h
  cases a with
  | read r =>
    obtain ⟨hfin, h'⟩ := follows_read hstep h
    rw [socketReads_read, bytesRead_snoc, endRead_snoc, hfin]
    exact h'
  | poll =>
    rw [socketReads_poll]
    exact follows_poll hstep h

/-- What the loop has done is what the reference does with the beginning of the stream. -/
theorem Follows.eq_of_prefix_items (h : Follows handler peer state s fin t) :
    ∃ reads, reads <+: streamReads ι s fin ∧
      t.serving = serveReads handler peer (Serving.start ι state) reads := by
  cases h with
  | @live items hreads hrun hopen =>
    exact ⟨items.map .ofItem, (hreads.prefix_items.map _).trans (List.prefix_append _ _),
      (serveReads_eq hrun).symm⟩
  | @returned reads hpre hrun hdone => exact ⟨reads, hpre, (serveReads_eq hrun).symm⟩

/-- At rest, what the loop has done is what the reference does with the whole stream. -/
theorem Follows.eq_of_atRest (h : Follows handler peer state s fin t) (hrest : t.AtRest) :
    t.serving = serveReads handler peer (Serving.start ι state) (streamReads ι s fin) := by
  cases h with
  | @live items hreads hrun hopen =>
    rcases hrest with hdone | hneeds
    · cases hdone.symm.trans hopen
    · obtain ⟨rfl, rfl⟩ := hreads.complete hneeds
      rw [streamReads, if_neg (by decide), List.append_nil]
      exact (serveReads_eq hrun).symm
  | @returned reads hpre hrun hdone =>
    obtain ⟨more, hmore⟩ := hpre
    rw [← hmore, serveReads_append hrun, serveReads_returned hdone]

/-- The loop comes to rest: it can be polled until it does, and the buffer bounds how often. -/
theorem exists_polls_to_rest (t : Stream ι η) :
    ∃ n t', n ≤ t.reader.work ∧
      run (Stream.step handler peer) t (List.replicate n .poll) = some t' ∧ t'.AtRest := by
  induction hwork : t.reader.work using Nat.strongRecOn generalizing t with
  | ind work ih =>
    subst hwork
    by_cases hrest : t.AtRest
    · exact ⟨0, t, Nat.zero_le _, rfl, hrest⟩
    · obtain ⟨hresult, hneeds⟩ := not_or.mp hrest
      have hopen : t.serving.result.isNone = true := by simpa using hresult
      obtain ⟨serving, hnext⟩ := handleNext_open handler peer hopen t.reader.pollNext.1
      have hstep : t.step handler peer .poll = some ⟨t.reader.pollNext.2, serving⟩ := by
        rw [Stream.step, if_pos ⟨hopen, hneeds⟩, hnext]
        rfl
      have hlt := FramedRead.work_pollNext hneeds
      obtain ⟨n, t', hn, hrun, hrest'⟩ := ih _ hlt ⟨t.reader.pollNext.2, serving⟩ rfl
      refine ⟨n + 1, t', hn.trans_lt hlt, ?_, hrest'⟩
      rw [List.replicate_succ, run_cons, hstep]
      exact hrun

variable (handler peer state)

/-- **The server does with a stream what it does with the messages in it.** Whatever chunks the
socket is read in, and whenever the reader is polled, what the loop has done is what the reference
does with the beginning of the stream; the loop comes to rest within a number of polls that the
buffer bounds; and there it has done what the reference does with the whole stream: it has called
the handler, written bytes and returned on the same grounds. -/
theorem stream_eq_reference {moves : List StreamMove}
    (hrun : run (Stream.step handler peer) (Stream.start ι state) moves = some t) :
    (∃ reads, reads <+: streamReads ι (bytesRead (socketReads moves))
        (endRead (socketReads moves)) ∧
      t.serving = serveReads handler peer (Serving.start ι state) reads) ∧
    (∃ n t', n ≤ t.reader.work ∧
      run (Stream.step handler peer) t (List.replicate n .poll) = some t' ∧ t'.AtRest) ∧
    (t.AtRest → t.serving = serveReads handler peer (Serving.start ι state)
      (streamReads ι (bytesRead (socketReads moves)) (endRead (socketReads moves)))) :=
  ⟨(follows_of_run hrun).eq_of_prefix_items, exists_polls_to_rest t,
    (follows_of_run hrun).eq_of_atRest⟩

end

/-- An alive check request that arrives in two parts, with a poll after each. -/
def splitAliveCheck : List StreamMove :=
  [.read (.ok [0x02, 0xFD, 0x00]), .poll, .read (.ok [0x07, 0x00, 0x00, 0x00, 0x00]), .poll, .poll]

/-- The request is answered once, as if it had arrived in one part. -/
theorem stream_eq_reference_split :
    letI := plainWire
    letI := plainFramed Incomplete
    ∃ t, run (Stream.step (grantingHandler Incomplete) localPeer) (Stream.start _ ())
        splitAliveCheck = some t ∧ t.serving.connection.writes = 1 ∧
      t.serving = serveReads (grantingHandler Incomplete) localPeer (Serving.start _ ())
        (streamReads Incomplete (bytesRead (socketReads splitAliveCheck))
          (endRead (socketReads splitAliveCheck))) := by
  let := plainWire
  let := plainFramed Incomplete
  have h : ∃ t, run (Stream.step (grantingHandler Incomplete) localPeer) (Stream.start _ ())
      splitAliveCheck = some t ∧ t.serving.connection.writes = 1 ∧ t.reader.NeedsRead :=
    ⟨_, rfl, rfl, _, rfl⟩
  obtain ⟨t, hrun, hwrites, hneeds⟩ := h
  exact ⟨t, hrun, hwrites, (stream_eq_reference _ _ _ hrun).2.2 (.inr hneeds)⟩

end Server

end SimpleDoip
