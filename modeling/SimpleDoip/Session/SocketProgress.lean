import SimpleDoip.Session.SocketTask

/-!
# The socket task comes to rest

What is in the hands of the socket task does not stay there: as long as its manager receives, the
socket takes bytes and nothing new arrives, a bounded number of steps of any kind takes the task to
the point where everything handed over is on the wire and everything read was received.
-/

namespace SimpleDoip

open Transition MessageCodec

/-- What empties a task: its own steps, the manager receiving and the socket taking bytes. -/
def SocketMove.drains : SocketMove → Bool
  | .next | .take | .deliver | .write _ | .flush | .receive => true
  | _ => false

namespace SocketTask

section
variable {ι : Type} [WireCodec ι] [Framed ι]

omit [WireCodec ι] [Framed ι] in
/-- The weight of a phase in the load of a task: an item at a send, or a message in the sink, has
steps ahead of it before the task is at its `select!` again. -/
def phaseLoad : LoopPhase ι → Nat
  | .left _ => 0
  | .selecting => 1
  | .sending _ => 3
  | .writing => 2

/-- More than the number of steps that can empty a task: what is read and not handed out, what is to
be written, and what is at hand. -/
def load (t : SocketTask ι) : Nat :=
  3 * t.reader.work + phaseLoad t.phase + t.unwritten.length + t.incoming.queue.length +
    (framesOf ι t.outgoing.queue).length + 2 * t.outgoing.queue.length

/-- The manager holds its two ends until it is shut down, and drops both then. -/
def Managed (t : SocketTask ι) : Prop := t.incoming.receiverOpen = t.outgoing.senderOpen

theorem Managed.step {t t' : SocketTask ι} {a : SocketMove} (h : t.Managed)
    (hstep : t.step a = some t') : t'.Managed := by
  have hread : ∀ reader (next : FramedRead.Next ι), t.phase = .selecting →
      Managed ({ t with reader }.handleNext next) := by
    intro reader next hphase
    have hread := readFrom_handleNext hphase reader next
    rw [Managed, hread.receiverOpen, hread.senderOpen]
    exact h
  cases moved_of_step hstep with
  | read hphase => exact hread _ _ hphase
  | next hphase => exact hread _ _ hphase
  | senderDropped | timeout | receiverDropped | errorIgnored | wrote | flushed | writeFailed
  | waited => exact h
  | shutDown => rfl
  | taken hphase hrecv | tooLarge hphase hrecv =>
    exact h.trans (Channel.of_recv_value hrecv).2.2.1.symm
  | delivered hphase hsend =>
    obtain ⟨hopen, -, -, -, -, hopen', -⟩ := Channel.of_send_taken hsend
    exact (hopen'.trans hopen.symm).trans h
  | sent hopen hsend => exact h.trans (Channel.of_send_taken hsend).2.2.2.2.1.symm
  | received hrecv => exact (Channel.of_recv_value hrecv).2.2.2.1.trans h

/-- A step that empties the task: one of its own, the socket taking bytes, or the manager
receiving. -/
def drainStep (t : SocketTask ι) (a : SocketMove) : Option (SocketTask ι) :=
  if a.drains then t.step a else none

/-- A task whose connection is up: it is in its loop, its manager is there, what is in its channel
can be written, and the bytes `s` it has read were sound. -/
structure Healthy (s : List UInt8) (t : SocketTask ι) : Prop where
  loop : ¬ t.Left
  attached : t.Attached
  receiver : t.incoming.receiverOpen = true
  sender : t.outgoing.senderOpen = true
  fits : ∀ m ∈ t.outgoing.queue, (bytes m.payload).length < 2 ^ 32
  delivers : t.Delivers s none
  sound : streamError (referenceDecode (ι := ι) s) none = none

variable {t t' : SocketTask ι} {a : SocketMove} {s : List UInt8}

/-- What polling a sound stream comes to: a message or nothing, but no error and no end. -/
theorem next_of_sound {items : List (StreamItem ι)} {next : FramedRead.Next ι}
    {reader : FramedRead ι}
    (hsound : streamError (referenceDecode (ι := ι) s) none = none)
    (h : FramedRead.Continues s none items next reader) :
    next = .pending ∨ ∃ m, next = .item (.ok m) := by
  cases h with
  | pending => exact .inl rfl
  | ended hitems hfin =>
    rcases hfin with hfin | hfin
    · exact absurd rfl hfin
    · exact absurd hsound hfin
  | @item item _ hreads =>
    cases item with
    | ok m => exact .inr ⟨m, rfl⟩
    | error e =>
      have hlast : .error e ∈ streamItems (referenceDecode (ι := ι) s) none := by
        rw [← hreads.eq_of_error]
        exact List.mem_append_right _ List.mem_cons_self
      rw [streamItems, hsound, Option.map_none, Option.toList_none, List.append_nil] at hlast
      obtain ⟨m, -, hm⟩ := List.mem_map.mp hlast
      cases hm

/-- A step that empties a healthy task leaves it healthy, with less to do. -/
theorem Healthy.lighter (t : SocketTask ι) (a : SocketMove) (t' : SocketTask ι)
    (hstep : t.drainStep a = some t') (h : t.Healthy s) : t'.Healthy s ∧ t'.load < t.load := by
  rw [SocketTask.drainStep] at hstep
  split at hstep
  case isFalse => cases hstep
  case isTrue hdrains =>
  have hattached := h.attached.step hstep
  have hdelivers : t'.Delivers s none :=
    h.delivers.step (by cases a <;> first | rfl | cases hdrains) hstep
  cases moved_of_step hstep with
  | read | timeout | writeFailed | waited | sent | shutDown => cases hdrains
  | next hphase hneeds =>
    have hwork := FramedRead.work_pollNext hneeds
    obtain ⟨items, lost, hreads, -, -⟩ := h.delivers.of_selecting hphase
    rcases next_of_sound h.sound (hreads.pollNext hneeds) with hnext | ⟨m, hnext⟩
    · rw [hnext] at hattached hdelivers ⊢
      refine ⟨⟨not_left hphase rfl, hattached, h.receiver, h.sender, h.fits, hdelivers, h.sound⟩,
        ?_⟩
      simp only [load, handleNext, unwritten]
      omega
    · rw [hnext] at hattached hdelivers ⊢
      refine ⟨⟨not_left rfl rfl, hattached, h.receiver, h.sender, h.fits, hdelivers, h.sound⟩, ?_⟩
      simp only [load, handleNext, StreamItem.passedOn, hphase, phaseLoad, unwritten]
      omega
  | senderDropped hphase hrecv =>
    cases (Channel.of_recv_closed hrecv).2.symm.trans h.sender
  | @taken m outgoing sink hphase hrecv hfit hbuffer =>
    obtain ⟨hqueue, -, hsender, -, -⟩ := Channel.of_recv_value hrecv
    refine ⟨⟨not_left rfl rfl, hattached, h.receiver, hsender.trans h.sender, ?_, hdelivers,
      h.sound⟩, ?_⟩
    · intro m' hm'
      refine h.fits m' ?_
      rw [hqueue]
      exact List.mem_cons_of_mem m hm'
    · have hframes : framesOf ι (m :: outgoing.queue) =
          m.frame (ι := ι) ++ framesOf ι outgoing.queue := List.flatMap_cons
      simp only [load, hphase, phaseLoad, hqueue, hframes, unwritten, hbuffer, List.length_append,
        List.length_cons]
      omega
  | @tooLarge m outgoing sink hphase hrecv hlarge =>
    have hfit := h.fits m (by rw [(Channel.of_recv_value hrecv).1]; exact List.mem_cons_self)
    omega
  | @delivered item incoming hphase hsend =>
    obtain ⟨-, -, -, hqueue, -, hreceiver, -⟩ := Channel.of_send_taken hsend
    refine ⟨⟨not_left rfl rfl, hattached, hreceiver, h.sender, h.fits, hdelivers,
      h.sound⟩, ?_⟩
    simp only [load, hphase, phaseLoad, hqueue, unwritten, List.length_append,
      List.length_singleton]
    omega
  | receiverDropped hphase hclosed => cases hclosed.symm.trans h.receiver
  | errorIgnored hphase hclosed => cases hclosed.symm.trans h.receiver
  | @wrote n hphase hpos hle =>
    refine ⟨⟨not_left hphase rfl, hattached, h.receiver, h.sender, h.fits, hdelivers, h.sound⟩, ?_⟩
    simp only [load, hphase, phaseLoad, unwritten, FramedWrite.buffer_advance, List.length_drop]
    omega
  | flushed hphase hbuffer =>
    refine ⟨⟨not_left rfl rfl, hattached, h.receiver, h.sender, h.fits, hdelivers, h.sound⟩, ?_⟩
    simp only [load, hphase, phaseLoad, unwritten]
    omega
  | @received item incoming hrecv =>
    obtain ⟨hqueue, -, -, hreceiver, -⟩ := Channel.of_recv_value hrecv
    refine ⟨⟨h.loop, hattached, hreceiver.trans h.receiver, h.sender, h.fits, hdelivers,
      h.sound⟩, ?_⟩
    simp only [load, hqueue, unwritten, List.length_cons]
    omega

/-- Where nothing more can be emptied, the channels are empty and the task waits for the socket. -/
theorem Healthy.empty (h : t.Healthy s) (hend : ∀ a, a.drains = true → t.step a = none) :
    t.phase = .selecting ∧ t.reader.NeedsRead ∧ t.outgoing.queue = [] ∧ t.incoming.queue = [] := by
  have hincoming : t.incoming.queue = [] := by
    cases hqueue : t.incoming.queue with
    | nil => rfl
    | cons item rest =>
      obtain ⟨incoming, hrecv⟩ := Channel.exists_recv hqueue
      have hnone := hend .receive rfl
      simp only [step, hrecv] at hnone
      cases hnone
  cases hphase : t.phase with
  | left reason => exact absurd ⟨reason, hphase⟩ h.loop
  | selecting =>
    refine ⟨rfl, ?_, ?_, hincoming⟩
    · by_contra hneeds
      have hnone := hend .next rfl
      simp only [step, hphase, if_neg hneeds] at hnone
      cases hnone
    · cases hqueue : t.outgoing.queue with
      | nil => rfl
      | cons m rest =>
        obtain ⟨outgoing, hrecv⟩ := Channel.exists_recv hqueue
        have hnone := hend .take rfl
        have hfit := h.fits m (by rw [hqueue]; exact List.mem_cons_self)
        obtain ⟨sink, hstart, -⟩ := t.sink.startSend_fits hfit
        simp only [step, hphase, take, hrecv, hstart] at hnone
        cases hnone
  | sending item =>
    have hroom : t.incoming.queue.length < SOCKET_CHANNEL_CAP := by
      rw [hincoming]
      exact Nat.succ_pos _
    obtain ⟨incoming, hsend⟩ := Channel.exists_send h.receiver hroom item
    have hnone := hend .deliver rfl
    simp only [step, hphase, deliver, hsend] at hnone
    cases hnone
  | writing =>
    by_cases hbuffer : t.sink.buffer = []
    · have hnone := hend .flush rfl
      simp only [step, hphase, if_pos hbuffer] at hnone
      cases hnone
    · have hnone := hend (.write 1) rfl
      have hle : 0 < 1 ∧ 1 ≤ t.sink.buffer.length :=
        ⟨Nat.one_pos, List.length_pos_of_ne_nil hbuffer⟩
      simp only [step, hphase, if_pos hle] at hnone
      cases hnone

/-- A run of steps that empty the task is a run of it, and has only such steps. -/
theorem run_of_run_drainStep {more : List SocketMove} (h : run drainStep t more = some t') :
    (∀ a ∈ more, a.drains = true) ∧ run step t more = some t' := by
  induction more generalizing t with
  | nil => exact ⟨fun a ha => absurd ha List.not_mem_nil, h⟩
  | cons a more ih =>
    rw [run_cons] at h
    obtain ⟨t₁, h₁, h⟩ := Option.bind_eq_some_iff.mp h
    obtain ⟨hmore, hrun⟩ := ih h
    rw [drainStep] at h₁
    split at h₁
    · next ha =>
      refine ⟨List.forall_mem_cons.mpr ⟨ha, hmore⟩, ?_⟩
      rw [run_cons, h₁]
      exact hrun
    · cases h₁

theorem run_drainStep_of_run {more : List SocketMove} (hmore : ∀ a ∈ more, a.drains = true)
    (h : run step t more = some t') : run drainStep t more = some t' := by
  induction more generalizing t with
  | nil => exact h
  | cons a more ih =>
    obtain ⟨ha, hmore⟩ := List.forall_mem_cons.mp hmore
    rw [run_cons] at h ⊢
    obtain ⟨t₁, h₁, h⟩ := Option.bind_eq_some_iff.mp h
    rw [drainStep, if_pos ha, h₁]
    exact ih hmore h

/-- Steps that empty the task hand over nothing and read nothing. -/
theorem history_of_drains {more : List SocketMove} (hmore : ∀ a ∈ more, a.drains = true) :
    messagesSent more = [] ∧ socketReads more = [] := by
  constructor
  · refine List.filterMap_eq_nil_iff.mpr fun a ha => ?_
    have hdrains := hmore a ha
    cases a <;> first | rfl | cases hdrains
  · refine List.filterMap_eq_nil_iff.mpr fun a ha => ?_
    have hdrains := hmore a ha
    cases a <;> first | rfl | cases hdrains

/-- A task in its loop, on a connection that is up, is healthy: the bytes it has read are sound so
far. -/
theorem healthy_of_run {clock : Nat} {moves : List SocketMove}
    (hrun : run step (spawned ι clock) moves = some t) (hloop : ¬ t.Left)
    (hopen : t.incoming.receiverOpen = true) (hfin : endRead (socketReads moves) = none)
    (hsound : (referenceDecode (ι := ι) (bytesRead (socketReads moves))).status = none)
    (hfits : ∀ m ∈ messagesSent moves, (bytes m.payload).length < 2 ^ 32) :
    t.Healthy (bytesRead (socketReads moves)) := by
  have hmanaged : t.Managed := run_invariant (P := Managed) (fun _ _ _ hstep h => h.step hstep)
    hrun rfl
  have hdelivers := delivers_of_run hrun
  rw [hfin] at hdelivers
  exact {
    loop := hloop
    attached := attached_of_run hrun
    receiver := hopen
    sender := hmanaged.symm.trans hopen
    fits := by
      intro m hm
      refine hfits m ?_
      rw [← accepted_of_run hrun, Channel.accepted]
      exact List.mem_append_left _ (List.mem_append_right _ hm)
    delivers := hdelivers
    sound := by simp only [streamError, hsound] }

/-- A task on a connection that is up can be emptied by such steps, and stays healthy. -/
theorem Healthy.exists_drained (h : t.Healthy s) :
    ∃ more t', (∀ a ∈ more, a.drains = true) ∧ run step t more = some t' ∧ t'.Healthy s ∧
      ∀ a, a.drains = true → t'.step a = none := by
  obtain ⟨more, t', hmoves, hend⟩ := exists_run_to_stop Healthy.lighter h
  have hhealthy := (run_length_le Healthy.lighter hmoves h).1
  obtain ⟨hmore, hmoves⟩ := run_of_run_drainStep hmoves
  refine ⟨more, t', hmore, hmoves, hhealthy, fun a ha => ?_⟩
  have hnone := hend a
  rwa [SocketTask.drainStep, if_pos ha] at hnone

/-- **The socket task comes to rest.** On a connection that is up, with sound bytes and messages
that can be written, there is a bound on how many steps can empty the task, in whatever order they
are taken; and wherever no further one can be taken, every message that was handed over is on the
wire, in order, and the manager has received every message in the bytes that were read. -/
theorem socket_task_drains {clock : Nat} {moves : List SocketMove}
    (hrun : run step (spawned ι clock) moves = some t) (hloop : ¬ t.Left)
    (hopen : t.incoming.receiverOpen = true) (hfin : endRead (socketReads moves) = none)
    (hsound : (referenceDecode (ι := ι) (bytesRead (socketReads moves))).status = none)
    (hfits : ∀ m ∈ messagesSent moves, (bytes m.payload).length < 2 ^ 32) :
    (∀ more t', (∀ a ∈ more, a.drains = true) → run step t more = some t' →
      more.length ≤ t.load) ∧
    (∀ more t', (∀ a ∈ more, a.drains = true) → run step t more = some t' →
      (∀ a, a.drains = true → t'.step a = none) →
      t'.written = framesOf ι (messagesSent moves) ∧
      t'.incoming.received = passedOn ι (bytesRead (socketReads moves)) none) ∧
    ∃ more t', (∀ a ∈ more, a.drains = true) ∧ run step t more = some t' ∧
      ∀ a, a.drains = true → t'.step a = none := by
  have hhealthy := healthy_of_run hrun hloop hopen hfin hsound hfits
  refine ⟨?_, ?_, ?_⟩
  · intro more t' hmore hmoves
    exact (run_length_le Healthy.lighter (run_drainStep_of_run hmore hmoves) hhealthy).2
  · intro more t' hmore hmoves hend
    have hhealthy' :=
      (run_length_le Healthy.lighter (run_drainStep_of_run hmore hmoves) hhealthy).1
    obtain ⟨hphase, hneeds, houtgoing, hincoming⟩ := hhealthy'.empty hend
    have hrun' : run step (spawned ι clock) (moves ++ more) = some t' := by
      rw [run_append, hrun]
      exact hmoves
    constructor
    · have hwritten := written_of_loop hrun' hhealthy'.loop
      have hunwritten := (writes_of_run hrun').idle (by rw [hphase]; rintro ⟨⟩)
        (by rw [hphase]; rintro ⟨⟩)
      rw [hunwritten, houtgoing, messagesSent, List.filterMap_append, ← messagesSent,
        ← messagesSent, (history_of_drains hmore).1] at hwritten
      simpa [framesOf] using hwritten
    · have hreceived := hhealthy'.delivers.accepted_eq hhealthy'.receiver (.inl ⟨hphase, hneeds⟩)
      rwa [hincoming, List.append_nil] at hreceived
  · obtain ⟨more, t', hmore, hmoves, -, hend⟩ := hhealthy.exists_drained
    exact ⟨more, t', hmore, hmoves, hend⟩

end

/-- The beginning of a header arrives, and a message is handed over. -/
def halfHeader : List SocketMove :=
  [.read (.ok [0x02, 0xFD, 0x00]), .send (OwnedMessage.aliveCheckResponse .v2012 ⟨0x0E00⟩)]

/-- The message is written in the end, though the header that arrived is never completed. -/
theorem socket_task_drains_half :
    letI := plainWire
    letI := plainFramed Incomplete
    ∃ t more t', run step (spawned Incomplete 0) halfHeader = some t ∧
      run step t more = some t' ∧
      t'.written = framesOf Incomplete [OwnedMessage.aliveCheckResponse .v2012 ⟨0x0E00⟩] := by
  let := plainWire
  let := plainFramed Incomplete
  have h : ∃ t, run step (spawned Incomplete 0) halfHeader = some t ∧ t.phase = .selecting ∧
      t.incoming.receiverOpen = true := ⟨_, rfl, rfl, rfl⟩
  obtain ⟨t, hrun, hphase, hopen⟩ := h
  have hsound : (referenceDecode (ι := Incomplete) (bytesRead (socketReads halfHeader))).status =
      none := by
    rw [← drained_nil, drained, Framing.drain_more rfl]
    rfl
  have hfits : ∀ m ∈ messagesSent halfHeader,
      (bytes (ι := Incomplete) m.payload).length < 2 ^ 32 := by
    intro m hm
    cases List.mem_singleton.mp hm
    decide
  obtain ⟨-, hwritten, more, t', hmore, hmoves, hend⟩ :=
    socket_task_drains hrun (not_left hphase rfl) hopen rfl hsound hfits
  exact ⟨t, more, t', hrun, hmoves, (hwritten more t' hmore hmoves hend).1⟩

end SocketTask

end SimpleDoip
