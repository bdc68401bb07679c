import SimpleDoip.Session.Stack

/-!
# When the client and its socket wait for each other

The inner task waits for room in the channel to the socket task whenever it answers an alive check
or sends a request, and while it waits it receives nothing. The socket task waits for room in the
channel to the inner task whenever it has read a message, and while it waits it writes nothing. With
both channels full neither goes on, and nothing outside the two can help: no answer arrives, no
timeout fires, and even closing the client has no effect.

`waits_forever_iff` says that this is the only way for a turn not to come to its end.
-/

namespace SimpleDoip

open Transition SocketTask

/-- A move by which the socket task works off what it has: it hands over what it read, takes a
message of its manager and writes it. It reads nothing new. -/
def SocketMove.worksOff : SocketMove → Bool
  | .deliver | .take | .write _ | .flush => true
  | _ => false

theorem SocketMove.isOwn_of_worksOff {move : SocketMove} (h : move.worksOff = true) :
    move.isOwn = true := by
  cases move <;> first | rfl | cases h

section
variable {ι : Type} [WireCodec ι] [Framed ι]

/-- The socket task is at the send of what it read, inside the branch of its `select!`, where it
takes nothing from the channel to it. -/
def SocketTask.isSending (t : SocketTask ι) : Bool :=
  match t.phase with
  | .sending _ => true
  | _ => false

/-- The socket task waits for room for what it read. It writes nothing until the inner task has
received something. -/
def SocketTask.Congested (t : SocketTask ι) : Prop :=
  t.isSending = true ∧ t.incoming.queue.length = SOCKET_CHANNEL_CAP

instance (t : SocketTask ι) : Decidable t.Congested := inferInstanceAs (Decidable (_ ∧ _))

end

namespace Stack

section
variable {ι : Type} [WireCodec ι] [Framed ι]

/-- The inner task holds a message that finds no room in the channel of the socket task `t`. -/
def WaitsForRoom (st : Stack ι) (t : SocketTask ι) : Prop :=
  (st.chosen.bind st.world.outgoing).isSome = true ∧ t.outgoing.receiverOpen = true ∧
    t.outgoing.queue.length = SOCKET_CHANNEL_CAP

instance (st : Stack ι) (t : SocketTask ι) : Decidable (st.WaitsForRoom t) :=
  inferInstanceAs (Decidable (_ ∧ _))

/-- Both tasks wait, each for room in the channel that the other one empties. The inner task empties
it only between two turns, the socket task only at its `select!`. -/
def Deadlocked (st : Stack ι) : Prop :=
  ∃ t ∈ st.socket, st.WaitsForRoom t ∧ t.isSending = true ∧
    t.incoming.queue.length = SOCKET_CHANNEL_CAP

instance (st : Stack ι) : Decidable st.Deadlocked :=
  inferInstanceAs (Decidable (∃ t ∈ st.socket, _))

end

/-! ## What makes a turn wait -/

section
variable {ι : Type} [WireCodec ι] [Framed ι] {target : Target} {st st' : Stack ι} {a : StackMove}

/-- A branch that was chosen is ready to make its turn, in the world of the inner task. Only the
channel to the socket task can keep it waiting. -/
theorem exists_world_step (target : Target) {branch : Branch} (h : st.Linked)
    (hchosen : st.chosen = some branch) (connect : Except Error Unit) :
    ∃ w, st.world.step target (.turn branch st.socketOpen connect) = some w := by
  obtain ⟨hhead, hready⟩ := h.ready branch hchosen
  have hsome : (st.world.select branch).isSome = true →
      ∃ w, st.world.step target (.turn branch st.socketOpen connect) = some w := by
    intro hselect
    obtain ⟨select, hselect⟩ := Option.isSome_iff_exists.mp hselect
    exact ⟨_, World.step_turn target hhead hselect _ _⟩
  cases branch with
  | deadline => exact hsome hready
  | control =>
    rcases hready with hready | hclosed
    · exact hsome hready
    · cases hselect : st.world.select .control with
      | some select => exact hsome (by rw [hselect]; rfl)
      | none =>
        refine ⟨{ st.world with phase := .exited }, ?_⟩
        simp only [World.step, hhead, hselect, hclosed, if_true]
        rfl
  | socket incoming =>
    have hbound := (h.bound.mpr hready).2
    refine hsome ?_
    rw [World.select]
    cases hsocket : st.world.inner.tcpDataSocket with
    | none => exact absurd hsocket hbound
    | some s => cases incoming <;> rfl

/-- A bind hands over nothing, so it never waits for the socket task it is about to replace. -/
theorem outgoing_bind {w : World} (h : w.bindsNext = true) : w.outgoing .control = none := by
  rw [World.bindsNext] at h
  split at h
  · next hrequest =>
    rw [World.outgoing, World.select, hrequest]
    rfl
  · cases h

/-- While the channel is open at both ends, sending a message waits exactly where there is no
room. -/
theorem run_send_none_iff {t : SocketTask ι} (hreceiver : t.outgoing.receiverOpen = true)
    (hsender : t.outgoing.senderOpen = true) (m : OwnedMessage) :
    run SocketTask.step t [.send m] = none ↔ t.outgoing.queue.length = SOCKET_CHANNEL_CAP := by
  rw [run_cons]
  rcases t.outgoing.length_queue.lt_or_eq with hroom | hfull
  · obtain ⟨outgoing, hsend⟩ := Channel.exists_send hreceiver hroom m
    simp only [SocketTask.step, hsender, if_true, hsend]
    exact ⟨fun h => (by cases h), fun h => absurd h hroom.ne⟩
  · simp only [SocketTask.step, hsender, if_true, Channel.send_full hreceiver hfull]
    exact ⟨fun _ => hfull, fun _ => rfl⟩

/-- What a turn on the chosen branch hands to the socket task: the message it has for it, as long as
the task takes messages, and nothing otherwise. -/
theorem handed_of_turn {branch : Branch} {w : World} {connect : Except Error Unit}
    {t : SocketTask ι} (h : st.Linked) (hsocket : st.socket = some t)
    (hbind : ¬ (branch = .control ∧ st.world.bindsNext = true))
    (hworld : st.world.step target (.turn branch st.socketOpen connect) = some w) :
    handedMessages (w.log.drop st.world.log.length) =
      if t.outgoing.receiverOpen then (st.world.outgoing branch).toList else [] := by
  obtain ⟨new, hadds⟩ := World.turn_adds h.waits hworld hbind
  have hholds := h.bound.mpr (by rw [hsocket]; rfl)
  have hopen : st.socketOpen = t.outgoing.receiverOpen := by rw [socketOpen, hsocket]; rfl
  rw [hadds.log, List.drop_left, hadds.handed hholds.2, hopen]

/-- **A turn waits** exactly where it holds a message and finds no room. In every other case it can
be made. -/
theorem turn_none_iff (target : Target) {branch : Branch} (h : st.Linked)
    (hchosen : st.chosen = some branch) (connect : Except Error Unit) :
    st.turn target connect = none ↔ ∃ t ∈ st.socket, st.WaitsForRoom t := by
  obtain ⟨w, hworld⟩ := exists_world_step target h hchosen connect
  have hturn : st.turn target connect = none ↔
      ¬ (branch = .control ∧ st.world.bindsNext = true) ∧ ∃ t ∈ st.socket, run SocketTask.step t
        ((handedMessages (w.log.drop st.world.log.length)).map .send) = none := by
    simp only [turn, hchosen, Option.bind_eq_bind, Option.bind_some, hworld]
    split
    · next hbind => exact ⟨fun h => (by cases h), fun h => absurd hbind h.1⟩
    · next hbind =>
      cases st.socket with
      | none => simp
      | some t =>
        cases hrun : run SocketTask.step t
          ((handedMessages (w.log.drop st.world.log.length)).map .send) with
        | none => simp [hbind, hrun]
        | some t' => simp [hrun]
  rw [hturn]
  constructor
  · rintro ⟨hbind, t, hsocket, hnone⟩
    refine ⟨t, hsocket, ?_⟩
    have hconnected := h.connected t hsocket
    rw [handed_of_turn h hsocket hbind hworld] at hnone
    cases hreceiver : t.outgoing.receiverOpen with
    | false =>
      rw [hreceiver] at hnone
      cases hnone
    | true =>
      rw [hreceiver, if_pos rfl] at hnone
      rw [WaitsForRoom, hchosen, Option.bind_some]
      cases hmessage : st.world.outgoing branch with
      | none =>
        rw [hmessage] at hnone
        cases hnone
      | some m =>
        rw [hmessage] at hnone
        exact ⟨rfl, hreceiver, (run_send_none_iff hreceiver hconnected.sender m).mp hnone⟩
  · rintro ⟨t, hsocket, hmessage, hreceiver, hfull⟩
    rw [hchosen, Option.bind_some] at hmessage
    obtain ⟨m, hm⟩ := Option.isSome_iff_exists.mp hmessage
    have hbind : ¬ (branch = .control ∧ st.world.bindsNext = true) := by
      rintro ⟨rfl, hbind⟩
      cases (outgoing_bind hbind).symm.trans hm
    refine ⟨hbind, t, hsocket, ?_⟩
    rw [handed_of_turn h hsocket hbind hworld, hreceiver, if_pos rfl, hm]
    exact (run_send_none_iff hreceiver (h.connected t hsocket).sender m).mpr hfull

/-! ## Waiting for each other -/

/-- What happens outside leaves a message in hand: only a turn takes a request or a message up. -/
theorem outgoing_outside {w w' : World} {action : Action} (branch : Branch)
    (hturn : action.isTurn = false) (hstep : w.step target action = some w')
    (hhead : w.phase = .loopHead) (h : (w.outgoing branch).isSome = true) :
    (w'.outgoing branch).isSome = true := by
  have hsame : w'.inner = w.inner → (∀ select, w.select branch = some select →
      w'.select branch = some select) → (w'.outgoing branch).isSome = true := by
    intro hinner hselect
    obtain ⟨m, hm⟩ := Option.isSome_iff_exists.mp h
    obtain ⟨select, hsel, hout⟩ := Option.bind_eq_some_iff.mp hm
    rw [World.outgoing, hselect select hsel, Option.bind_some, hinner, hout]
    rfl
  cases World.moved_of_step hstep with
  | @issued request =>
    refine hsame rfl fun select hselect => ?_
    cases branch with
    | deadline | socket => exact hselect
    | control =>
      obtain ⟨next, hnext, rfl⟩ := Option.map_eq_some_iff.mp hselect
      have hnext' : (w.requests ++ [request])[w.taken]? = some next := by
        rw [List.getElem?_append_left (List.getElem?_eq_some_iff.mp hnext).1]
        exact hnext
      simp only [World.select, hnext', Option.map_some]
  | abandoned | controlClosed | updateRead | updatesDropped =>
    refine hsame rfl fun select hselect => ?_
    cases branch <;> exact hselect
  | waited duration =>
    refine hsame rfl fun select hselect => ?_
    cases branch with
    | control | socket => exact hselect
    | deadline =>
      cases World.selected_of_select hselect with
      | deadline hactive hset hpast =>
        have hpast' := hpast.trans (Nat.le_add_right w.clock duration)
        simp only [World.select, hactive, hset, if_pos hpast']
  | turned | ended => cases hturn
  | resumed hphase => cases hhead.symm.trans hphase

/-- A task that is at a send is nowhere else in its loop, and holds the item it sends. -/
theorem exists_sending {t : SocketTask ι} (h : t.isSending = true) :
    ∃ item, t.phase = .sending item := by
  rw [isSending] at h
  split at h
  · next item hphase => exact ⟨item, hphase⟩
  · cases h

/-- No move ends a deadlock, and the inner task sees none of what happens meanwhile: its log stays
as it is. -/
theorem Deadlocked.step (h : st.Deadlocked) (hlinked : st.Linked)
    (hstep : st.step target a = some st') :
    st'.Deadlocked ∧ st'.chosen = st.chosen ∧ st'.world.log = st.world.log := by
  obtain ⟨t, hsocket, ⟨hmessage, hreceiver, hfull⟩, hsending, hincoming⟩ := h
  obtain ⟨m, hm⟩ := Option.isSome_iff_exists.mp hmessage
  obtain ⟨branch, hchosen, hout⟩ := Option.bind_eq_some_iff.mp hm
  obtain ⟨hhead, -⟩ := hlinked.ready branch hchosen
  have hnone : ∀ connect, st.turn target connect = none := fun connect =>
    (turn_none_iff target hlinked hchosen connect).mpr ⟨t, hsocket, hmessage, hreceiver, hfull⟩
  cases moved_of_step hstep with
  | @outside action w hturn hworld =>
    obtain ⟨hhead', -⟩ := select_outside hturn hworld hhead
    have hsame : SameTask st.world w := by
      cases World.step_cases hlinked.waits hworld with
      | idle hsame => exact hsame
      | turned => cases hturn
    have hholds : w.HoldsSocket := by
      refine ⟨.inl hhead', ?_⟩
      rw [hsame.inner]
      exact (hlinked.bound.mpr (by rw [hsocket]; rfl)).2
    have hout' := outgoing_outside branch hturn hworld hhead (by rw [hout]; rfl)
    refine ⟨⟨{ t with clock := t.clock + action.elapsed }, ?_, ⟨?_, hreceiver, hfull⟩, hsending,
      hincoming⟩, rfl, hsame.log⟩
    · rw [settle, if_pos hholds, hsocket]
      rfl
    · change (st.chosen.bind w.outgoing).isSome = true
      rw [hchosen]
      exact hout'
  | received _ hfree => cases hchosen.symm.trans hfree
  | chosen _ hfree => cases hchosen.symm.trans hfree
  | bound | turnedUnbound | turned => cases (hnone _).symm.trans hstep
  | @socketMoved move t₁ t₁' hown hsocket₁ hmove =>
    cases hsocket.symm.trans hsocket₁
    obtain ⟨item, hphase⟩ := exists_sending hsending
    -- the socket task is at its send, and finds no room
    exfalso
    cases SocketTask.moved_of_step hmove with
    | delivered _ hsend =>
      have hroom := (Channel.of_send_taken hsend).2.1
      omega
    | receiverDropped _ hclosed =>
      cases hclosed.symm.trans (hlinked.connected t hsocket).receiver
    | errorIgnored _ hclosed =>
      cases hclosed.symm.trans (hlinked.connected t hsocket).receiver
    | waited | sent | received | shutDown => cases hown
    | read hother | next hother | senderDropped hother | taken hother | tooLarge hother
    | timeout hother | wrote hother | flushed hother | writeFailed hother =>
      cases hphase.symm.trans hother

/-! ## Going on -/

/-- A step of the socket task, in the stack: it moves alone, and the bytes it reads are added to
what was read. -/
theorem step_socket {t t' : SocketTask ι} {move : SocketMove} (hown : move.isOwn = true)
    (hsocket : st.socket = some t) (hmove : t.step move = some t') :
    st.step target (.socket move) = some { st with
      socket := some t', reads := st.reads ++ move.socketRead.toList } := by
  simp only [Stack.step, hown, if_true, hsocket, hmove, Option.bind_eq_bind, Option.bind_some]

/-- A run of the socket task, in the stack. The inner task and the branch it has chosen stay as they
are. -/
theorem run_socket (target : Target) {t t' : SocketTask ι} {own : List SocketMove}
    (hown : ∀ move ∈ own, move.isOwn = true) (hsocket : st.socket = some t)
    (hrun : run SocketTask.step t own = some t') :
    ∃ st', run (Stack.step target) st (own.map .socket) = some st' ∧ st'.socket = some t' ∧
      st'.chosen = st.chosen ∧ st'.world = st.world := by
  induction own generalizing st t with
  | nil =>
    cases hrun
    exact ⟨st, rfl, hsocket, rfl, rfl⟩
  | cons move own ih =>
    obtain ⟨hmove, hown⟩ := List.forall_mem_cons.mp hown
    rw [run_cons] at hrun
    obtain ⟨t₁, h₁, hrun⟩ := Option.bind_eq_some_iff.mp hrun
    obtain ⟨st', hrun', hsocket', hchosen, hworld⟩ := @ih
      { st with socket := some t₁, reads := st.reads ++ move.socketRead.toList } t₁ hown rfl hrun
    refine ⟨st', ?_, hsocket', hchosen, hworld⟩
    rw [List.map_cons, run_cons, step_socket hmove hsocket h₁]
    exact hrun'

/-- There is room in the channel to the socket task, or nobody to take from it; and the task does
not wait to hand over what it read. -/
def HasRoom (t : SocketTask ι) : Prop :=
  ¬ (t.outgoing.receiverOpen = true ∧ t.outgoing.queue.length = SOCKET_CHANNEL_CAP) ∧
    t.isSending = false

/-- At its `select!` the socket task makes room, by taking one message off the full channel. -/
theorem exists_room_selecting {t : SocketTask ι} (hphase : t.phase = .selecting)
    (hfull : t.outgoing.queue.length = SOCKET_CHANNEL_CAP) :
    ∃ t', t.step .take = some t' ∧ HasRoom t' := by
  cases hqueue : t.outgoing.queue with
  | nil =>
    rw [hqueue] at hfull
    cases hfull
  | cons m rest =>
    obtain ⟨outgoing, hrecv⟩ := Channel.exists_recv hqueue
    have hrest : outgoing.queue = rest :=
      (List.cons.inj ((Channel.of_recv_value hrecv).1.symm.trans hqueue)).2
    rw [hqueue, List.length_cons] at hfull
    rcases Nat.lt_or_ge (bytes (ι := ι) m.payload).length (2 ^ 32) with hfit | hlarge
    · obtain ⟨sink, hstart, -⟩ := t.sink.startSend_fits hfit
      refine ⟨{ t with outgoing, sink, lastActivity := t.clock, phase := .writing }, ?_, ?_, rfl⟩
      · simp only [SocketTask.step, hphase, take, hrecv, hstart]
      · rintro ⟨-, hfull'⟩
        change outgoing.queue.length = _ at hfull'
        rw [hrest] at hfull'
        omega
    · obtain ⟨e, sink, hstart, -⟩ := t.sink.startSend_tooLarge hlarge
      refine ⟨{ t with outgoing, sink, lastActivity := t.clock }.leave .writeFailed, ?_, ?_, rfl⟩
      · simp only [SocketTask.step, hphase, take, hrecv, hstart]
      · rintro ⟨hopen, -⟩
        cases hopen

/-- The socket task comes back to its `select!`, unless it has left its loop or waits itself. -/
theorem exists_selecting {t : SocketTask ι} (hloop : ¬ t.Left)
    (hmanager : t.incoming.receiverOpen = true) (hfree : ¬ t.Congested) :
    ∃ work t', (∀ move ∈ work, move.worksOff = true) ∧ run SocketTask.step t work = some t' ∧
      t'.phase = .selecting ∧ t'.outgoing = t.outgoing := by
  have hone : ∀ {move : SocketMove} {t' : SocketTask ι}, move.worksOff = true →
      t.step move = some t' → t'.phase = .selecting → t'.outgoing = t.outgoing →
      ∃ work t', (∀ move ∈ work, move.worksOff = true) ∧ run SocketTask.step t work = some t' ∧
        t'.phase = .selecting ∧ t'.outgoing = t.outgoing := by
    intro move t' hwork hstep hphase houtgoing
    exact ⟨[move], t', List.forall_mem_singleton.mpr hwork, (run_singleton t move).trans hstep,
      hphase, houtgoing⟩
  cases hphase : t.phase with
  | left reason => exact absurd ⟨reason, hphase⟩ hloop
  | selecting => exact ⟨[], t, fun _ h => absurd h List.not_mem_nil, rfl, hphase, rfl⟩
  | sending item =>
    have hsending : t.isSending = true := by rw [isSending, hphase]
    have hroom := t.incoming.length_queue.lt_of_ne fun h => hfree ⟨hsending, h⟩
    obtain ⟨incoming, hsend⟩ := Channel.exists_send hmanager hroom item
    have hdeliver : t.step .deliver = some { t with incoming, phase := .selecting } := by
      simp only [SocketTask.step, hphase, SocketTask.deliver, hsend]
    exact hone rfl hdeliver rfl rfl
  | writing =>
    by_cases hbuffer : t.sink.buffer = []
    · have hflush : t.step .flush = some { t with phase := .selecting } := by
        simp only [SocketTask.step, hphase, if_pos hbuffer]
      exact hone rfl hflush rfl rfl
    · let n := t.sink.buffer.length
      let t₁ : SocketTask ι := { t with
        written := t.written ++ t.sink.buffer.take n, sink := t.sink.advance n }
      have hwrite : t.step (.write n) = some t₁ := by
        have hsome : 0 < n ∧ n ≤ t.sink.buffer.length :=
          ⟨List.length_pos_of_ne_nil hbuffer, Nat.le_refl _⟩
        simp only [SocketTask.step, hphase, if_pos hsome, t₁]
      have hempty : t₁.sink.buffer = [] := by
        rw [FramedWrite.buffer_advance, List.drop_length]
      have hflush : t₁.step .flush = some { t₁ with phase := .selecting } := by
        simp only [SocketTask.step, show t₁.phase = .writing from hphase, if_pos hempty]
      refine ⟨[.write n, .flush], { t₁ with phase := .selecting }, ?_, ?_, rfl, rfl⟩
      · exact List.forall_mem_cons.mpr ⟨rfl, List.forall_mem_singleton.mpr rfl⟩
      · rw [run_cons, hwrite]
        exact (run_singleton t₁ SocketMove.flush).trans hflush

/-- The socket task makes room, unless it waits itself: it works its way back to its `select!` and
takes a message there. -/
theorem exists_room {t : SocketTask ι} (hattached : t.Attached)
    (hreceiver : t.outgoing.receiverOpen = true) (hmanager : t.incoming.receiverOpen = true)
    (hfull : t.outgoing.queue.length = SOCKET_CHANNEL_CAP) (hfree : ¬ t.Congested) :
    ∃ work t', (∀ move ∈ work, move.worksOff = true) ∧ run SocketTask.step t work = some t' ∧
      HasRoom t' := by
  obtain ⟨work, t₁, hwork, hrun, hphase, houtgoing⟩ :=
    exists_selecting (hattached.outgoing.mp hreceiver) hmanager hfree
  obtain ⟨t', htake, hroom⟩ := exists_room_selecting hphase (houtgoing ▸ hfull)
  refine ⟨work ++ [.take], t', ?_, run_snoc hrun htake, hroom⟩
  exact List.forall_mem_append.mpr ⟨hwork, List.forall_mem_singleton.mpr rfl⟩

/-- What the socket task has to work off before a turn can be made, and the turn that follows. -/
structure TurnsAfter (target : Target) (st : Stack ι) (connect : Except Error Unit)
    (work : List SocketMove) (st₁ st' : Stack ι) : Prop where
  worksOff : ∀ move ∈ work, move.worksOff = true
  ran : run (Stack.step target) st (work.map .socket) = some st₁
  world : st₁.world = st.world
  chosen : st₁.chosen = st.chosen
  turned : st₁.turn target connect = some st'
  uncongested : (∀ t ∈ st.socket, ¬ t.Congested) → ∀ t ∈ st₁.socket, ¬ t.Congested

/-- A turn that does not wait for a task that waits itself comes to its end, once the socket task
has worked off what is in the way. -/
theorem exists_turn (target : Target) {branch : Branch} (h : st.Linked)
    (hchosen : st.chosen = some branch) (hfree : ¬ st.Deadlocked) (connect : Except Error Unit) :
    ∃ work st₁ st', st.TurnsAfter target connect work st₁ st' := by
  have hturn : ∀ st₁ : Stack ι, st₁.Linked → st₁.chosen = some branch →
      ¬ (∃ t ∈ st₁.socket, st₁.WaitsForRoom t) → ∃ st', st₁.turn target connect = some st' :=
    fun st₁ h₁ hchosen₁ hroom => Option.ne_none_iff_exists'.mp
      (mt (turn_none_iff target h₁ hchosen₁ connect).mp hroom)
  by_cases hwaits : ∃ t ∈ st.socket, st.WaitsForRoom t
  · obtain ⟨t, hsocket, hwaits⟩ := hwaits
    have hconnected := h.connected t hsocket
    obtain ⟨clock, moves, hrun, -⟩ := hconnected.history
    obtain ⟨work, t', hwork, hmoves, hroom⟩ := exists_room (attached_of_run hrun) hwaits.2.1
      hconnected.receiver hwaits.2.2 fun hcongested => hfree ⟨t, hsocket, hwaits, hcongested⟩
    obtain ⟨st₁, hst₁, hsocket₁, hchosen₁, hworld₁⟩ := run_socket target
      (fun move hmove => SocketMove.isOwn_of_worksOff (hwork move hmove)) hsocket hmoves
    have hlinked₁ := h.run hst₁
    have hfree₁ : ¬ ∃ t ∈ st₁.socket, st₁.WaitsForRoom t := by
      rintro ⟨t₂, hsocket₂, hwaits₂⟩
      cases hsocket₁.symm.trans hsocket₂
      exact hroom.1 hwaits₂.2
    obtain ⟨st', hst'⟩ := hturn st₁ hlinked₁ (hchosen₁.trans hchosen) hfree₁
    refine ⟨work, st₁, st', hwork, hst₁, hworld₁, hchosen₁, hst', fun _ t₂ hsocket₂ => ?_⟩
    cases hsocket₁.symm.trans hsocket₂
    rintro ⟨hsending, -⟩
    cases hroom.2.symm.trans hsending
  · obtain ⟨st', hst'⟩ := hturn st h hchosen hwaits
    exact ⟨[], st, st', fun _ h => absurd h List.not_mem_nil, rfl, rfl, rfl, hst', id⟩

theorem chosen_of_turn {connect : Except Error Unit} (h : st.turn target connect = some st') :
    st'.chosen = none := by
  cases moved_of_turn h <;> rfl

/-- **A turn never comes to its end exactly in a deadlock**: whatever happens from there on, inside
and outside the two tasks, the inner task does not go on, so it answers no request any more. -/
theorem waits_forever_iff {options : ClientOptions} {moves : List StackMove} {branch : Branch}
    (hrun : run (Stack.step target) (start ι options) moves = some st)
    (hchosen : st.chosen = some branch) :
    (∀ more st', run (Stack.step target) st more = some st' →
      st'.chosen = some branch ∧ st'.world.log = st.world.log) ↔ st.Deadlocked := by
  have hlinked := linked_of_run hrun
  constructor
  · intro hforever
    by_contra hfree
    obtain ⟨work, st₁, st', hturns⟩ := exists_turn target hlinked hchosen hfree (.ok ())
    have hmore := run_snoc hturns.ran (show st₁.step target (.turn (.ok ())) = _ from hturns.turned)
    cases (chosen_of_turn hturns.turned).symm.trans (hforever _ st' hmore).1
  · intro hdeadlocked more st' hmore
    have hkeep := run_invariant
      (P := fun st' : Stack ι => st'.Linked ∧ st'.Deadlocked ∧ st'.chosen = some branch ∧
        st'.world.log = st.world.log) ?_ hmore ⟨hlinked, hdeadlocked, hchosen, rfl⟩
    · exact hkeep.2.2
    · rintro st₁ a st₂ hstep ⟨hlinked₁, hdeadlocked₁, hchosen₁, hlog₁⟩
      obtain ⟨hdeadlocked₂, hchosen₂, hlog₂⟩ := hdeadlocked₁.step hlinked₁ hstep
      exact ⟨hlinked₁.step hstep, hdeadlocked₂, hchosen₂.trans hchosen₁, hlog₂.trans hlog₁⟩

end

/-- One more alive check is read, and answered into the channel to the socket task, which has not
taken anything yet. -/
def checkAnswered : List StackMove :=
  [.socket .next, .socket .deliver, .choose (.socket (.message aliveCheckRequest)), .turn (.ok ())]

/-- Thirty-three alive checks arrive at once, and the socket task always reads before it writes. -/
def flood : List StackMove :=
  .socket (.read (.ok (List.replicate 33 aliveCheckFrame).flatten)) ::
    (List.replicate 15 checkAnswered).flatten ++
  [.socket .next, .socket .deliver, .choose (.socket (.message aliveCheckRequest))] ++
  (List.replicate 16 [.socket .next, .socket .deliver]).flatten ++ [.socket .next]

/-- They arrive while a user awaits an acknowledgement, until both channels are full and each task
waits for the other. -/
def floodedRun : List StackMove :=
  [.outside (.issue (.bindSocket ⟨13400⟩)), .choose .control, .turn (.ok ()),
    .outside (.issue (.sendDiagnosticMessage (diagnosticFrom 0x0E00 0x0001 [0x3E, 0x00]))),
    .choose .control, .turn (.ok ())] ++ flood

theorem floodedRun_deadlocked :
    letI := plainWire
    letI := plainFramed Incomplete
    ∃ st, run (Stack.step releaseTarget) (start Incomplete testerOptions) floodedRun = some st ∧
      st.chosen = some (.socket (.message aliveCheckRequest)) ∧ st.Deadlocked ∧
      answerTo st.world.log 1 = none := by
  let := plainWire
  let := plainFramed Incomplete
  exact exists_of_any_run (by decide +kernel)

/-- The user of that run is never answered: not after any time, nor after closing the client. -/
theorem waits_forever_iff_flooded :
    letI := plainWire
    letI := plainFramed Incomplete
    ∃ st, run (Stack.step releaseTarget) (start Incomplete testerOptions) floodedRun = some st ∧
      answerTo st.world.log 1 = none ∧
      ∀ more st', run (Stack.step releaseTarget) st more = some st' →
        answerTo st'.world.log 1 = none := by
  let := plainWire
  let := plainFramed Incomplete
  obtain ⟨st, hrun, hchosen, hdeadlocked, hanswer⟩ := floodedRun_deadlocked
  refine ⟨st, hrun, hanswer, fun more st' hmore => ?_⟩
  rw [((waits_forever_iff hrun hchosen).mpr hdeadlocked more st' hmore).2]
  exact hanswer

end Stack

end SimpleDoip
