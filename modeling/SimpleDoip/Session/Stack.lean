import Mathlib.Data.List.DropRight
import SimpleDoip.Client.Updates
import SimpleDoip.Session.SocketProgress

/-!
# The client down to its socket

`Stack` is the inner task on top of the socket task that it has bound. What the one hands over and
receives goes through the channels of the other, so a turn that sends a message waits until the
channel has room, with the branch it has chosen (`chosen`). A request that such a turn has taken
still counts as one in the control channel. A socket that is bound anew, unbound or broken is shut
down; its task goes on by itself and is not part of the stack any more. `reads` is what the task of
the bound socket has read.

Every run of a stack is a run of the client (`world_of_run`). `stack_faithful` adds what the client
receives and what is on the wire, connection by connection.
-/

namespace SimpleDoip

open Transition MessageCodec SocketTask

/-! ## The stack -/

/-- The inner task with the socket task it has bound, the branch it has chosen, and what the socket
was read to since the bind. -/
structure Stack (ι : Type) [WireCodec ι] [Framed ι] where
  world : World
  socket : Option (SocketTask ι)
  chosen : Option Branch
  reads : List SocketRead

/-- One thing that happens: something outside both tasks, the inner task chooses a branch that is
ready, it makes its turn, or the socket task makes a step. -/
inductive StackMove where
  | outside (action : Action)
  | choose (branch : Branch)
  | turn (connect : Except Error Unit)
  | socket (move : SocketMove)

/-- Whether an action is a turn of the inner task. In a stack these are made by its own moves. -/
def Action.isTurn : Action → Bool
  | .turn _ _ _ => true
  | _ => false

/-- The time an action takes, which passes for the socket task as well. -/
def Action.elapsed : Action → Nat
  | .wait duration => duration
  | _ => 0

/-- Whether a move is one of the socket task itself, not of its manager or of time. -/
def SocketMove.isOwn : SocketMove → Bool
  | .wait _ | .send _ | .receive | .shutDown => false
  | _ => true

/-- The inner task holds a socket, and is there to hold it. -/
def World.HoldsSocket (w : World) : Prop := w.InLoop ∧ w.inner.tcpDataSocket ≠ none

instance (w : World) : Decidable w.HoldsSocket := inferInstanceAs (Decidable (_ ∧ _))

/-- The next request is a bind, so that a turn on it replaces the socket. -/
def World.bindsNext (w : World) : Bool :=
  match w.requests[w.taken]? with
  | some (.bindSocket _) => true
  | _ => false

/-- `SocketManager::receive`, once it resolves: a message, an error of the codec, or the end of the
channel. -/
def SocketTask.receive {ι : Type} [WireCodec ι] [Framed ι] (t : SocketTask ι) :
    Option (Incoming × SocketTask ι) :=
  match t.incoming.recv with
  | .value (.ok m) incoming => some (.message m, { t with incoming })
  | .value (.error _) incoming => some (.failed, { t with incoming })
  | .closed => some (.closed, t)
  | .empty => none

namespace Stack

/-- A client that was just spawned, without a socket. -/
def start (ι : Type) [WireCodec ι] [Framed ι] (options : ClientOptions) : Stack ι where
  world := World.start options
  socket := none
  chosen := none
  reads := []

section
variable {ι : Type} [WireCodec ι] [Framed ι]

/-- Whether the socket still takes messages: its task is in its loop, and holds the other end of the
channel. -/
def socketOpen (st : Stack ι) : Bool := st.socket.any fun t => t.outgoing.receiverOpen

/-- The stack with the task in `world`: a socket that is not held any more is dropped. -/
def settle (st : Stack ι) (world : World) (socket : Option (SocketTask ι)) : Stack ι :=
  { st with world, socket := if world.HoldsSocket then socket else none }

/-- `select!` takes a branch that is ready. The socket branch takes the message off the channel at
this moment, before the turn. -/
def choose (st : Stack ι) (branch : Branch) : Option (Stack ι) :=
  if st.world.phase = .loopHead ∧ st.chosen = none then
    match branch with
    | .socket incoming => do
      let t ← st.socket
      let (received, t') ← t.receive
      if received = incoming then
        some { st with socket := some t', chosen := some branch }
      else none
    | .control =>
      if (st.world.select .control).isSome ∨ st.world.controlOpen = false then
        some { st with chosen := some branch }
      else none
    | .deadline =>
      if (st.world.select .deadline).isSome then some { st with chosen := some branch } else none
  else none

/-- The turn on the chosen branch, once what it hands over fits into the channel. -/
def turn (target : Target) (st : Stack ι) (connect : Except Error Unit) : Option (Stack ι) := do
  let branch ← st.chosen
  let world ← st.world.step target (.turn branch st.socketOpen connect)
  if branch = .control ∧ st.world.bindsNext then
    some { st.settle world (some (spawned ι world.clock)) with chosen := none, reads := [] }
  else match st.socket with
    | none => some { st.settle world none with chosen := none }
    | some t =>
      let handed := handedMessages (world.log.drop st.world.log.length)
      let t' ← run step t (handed.map .send)
      some { st.settle world (some t') with chosen := none }

/-- One thing that happens, where it can. The socket task moves by itself, beside the inner task. -/
def step (target : Target) (st : Stack ι) : StackMove → Option (Stack ι)
  | .outside action =>
    if action.isTurn then none
    else (st.world.step target action).map fun world =>
      st.settle world (st.socket.map fun t => { t with clock := t.clock + action.elapsed })
  | .choose branch => st.choose branch
  | .turn connect => st.turn target connect
  | .socket move =>
    if move.isOwn then do
      let t ← st.socket
      let t' ← t.step move
      some { st with socket := some t', reads := st.reads ++ move.socketRead.toList }
    else none

end

end Stack

/-! ## What a turn adds to the log -/

/-- The message a branch hands to the socket, if the socket takes it: that of the request, or the
answer to an alive check. -/
def Select.outgoing (i : Inner) : Select → Option OwnedMessage
  | .control request => request.outgoing
  | .socket (.ok m) => if m.payload = .aliveCheckRequest then some i.aliveResponse else none
  | _ => none

/-- The message an effect hands to the socket, if it does. -/
def Effect.message : Effect → Option OwnedMessage
  | .handed _ message => some message
  | _ => none

/-- The entry of a bind that succeeded, with which a new connection begins. -/
def Entry.isBound : Entry → Bool
  | .did (.completed _ (.port (.ok _))) => true
  | _ => false

/-- What `receive_socket` makes of what the channel holds: every error of the codec is that the
socket was closed. -/
def incomingResult {ι : Type} :
    Except (MessageError ι) OwnedMessage → Except Error OwnedMessage
  | .ok m => .ok m
  | .error _ => .error .socketClosedUnexpectedly

/-- The log since the last bind that succeeded, or the whole log if there was none. -/
def sinceBind (log : List Entry) : List Entry := log.rtakeWhile fun e => !e.isBound

/-- What a log received from the socket, in this order, errors included. -/
def receivedMessages (log : List Entry) : List (Except Error OwnedMessage) :=
  log.filterMap fun
    | .received message => some message
    | _ => none

/-- What a branch receives from the socket, if it is the branch of the socket. -/
def Branch.received : Branch → List (Except Error OwnedMessage)
  | .socket incoming => [incoming.result]
  | _ => []

theorem sinceBind_append {new : List Entry} (log : List Entry)
    (h : ∀ e ∈ new, e.isBound = false) : sinceBind (log ++ new) = sinceBind log ++ new := by
  induction new using List.reverseRecOn with
  | nil => rw [List.append_nil, List.append_nil]
  | append_singleton new e ih =>
    have he : (!e.isBound) = true := by rw [h e (List.mem_append_right _ List.mem_cons_self)]; rfl
    rw [← List.append_assoc, sinceBind,
      List.rtakeWhile_concat_pos (fun e : Entry => !e.isBound) _ _ he, ← sinceBind,
      ih fun e he => h e (List.mem_append_left _ he), List.append_assoc]

theorem sinceBind_bound {log : List Entry} {e : Entry} (h : e.isBound = true) :
    sinceBind (log ++ [e]) = [] := by
  refine List.rtakeWhile_concat_neg (fun e : Entry => !e.isBound) _ _ ?_
  rw [h]
  decide

section
variable {target : Target} {env : Env} {i : Inner} {select : Select}
  {r : EStateM.Result Panic Task Processed}

theorem handedMessages_append (log new : List Entry) :
    handedMessages (log ++ new) = handedMessages log ++ handedMessages new :=
  List.filterMap_append

theorem receivedMessages_append (log new : List Entry) :
    receivedMessages (log ++ new) = receivedMessages log ++ receivedMessages new :=
  List.filterMap_append

/-- The entries of a turn hand over what its effects do, as the entry of its branch hands over
nothing. -/
theorem handedMessages_turn (select : Select) (effects : List Effect) :
    handedMessages (select.entries ++ effects.map .did) = effects.filterMap Effect.message := by
  have hentries : handedMessages select.entries = [] := by cases select <;> rfl
  rw [handedMessages_append, hentries, List.nil_append, handedMessages, List.filterMap_map]
  congr 1
  funext f
  cases f <;> rfl

/-- The entries of a turn receive what its branch does, as its effects receive nothing. -/
theorem receivedMessages_turn {w : World} {branch : Branch} (effects : List Effect)
    (h : w.select branch = some select) :
    receivedMessages (select.entries ++ effects.map .did) = branch.received := by
  have heffects : receivedMessages (effects.map .did) = [] := by
    rw [receivedMessages, List.filterMap_map]
    exact List.filterMap_eq_nil_iff.mpr fun _ _ => rfl
  rw [receivedMessages_append, heffects, List.append_nil]
  cases World.selected_of_select h <;> rfl

theorem Inner.message_failActive (e : Error) :
    (i.failActive e).filterMap Effect.message = [] := by
  rw [Inner.failActive]
  split <;> rfl

/-- A turn that fails what was active and completes a request hands over nothing. -/
theorem Inner.message_completed (e : Error) (id : Nat) (a : Answer) :
    (i.failActive e ++ [Effect.completed id a]).filterMap Effect.message = [] := by
  rw [List.filterMap_append, Inner.message_failActive]
  rfl

theorem Inner.message_aliveEffects (m : OwnedMessage) :
    (i.aliveEffects env m).filterMap Effect.message =
      if env.socketOpen then (Select.outgoing i (.socket (.ok m))).toList else [] := by
  rw [Inner.aliveEffects, Select.outgoing]
  by_cases hm : m.payload = .aliveCheckRequest <;> cases env.socketOpen <;>
    simp [hm, Effect.message]

theorem handed_quiet {effects : List Effect} (h : effects.filterMap Effect.message = [])
    (hselect : select.outgoing i = none) :
    effects.filterMap Effect.message =
      if env.socketOpen then (select.outgoing i).toList else [] := by
  rw [h, hselect]
  exact (ite_self _).symm

/-- **What a turn hands over**: the message of its branch, where there is a socket that takes it. -/
theorem Turned.handed (h : Turned target env i select r) (hsocket : i.tcpDataSocket ≠ none) :
    (resultTask r).effects.filterMap Effect.message =
      if env.socketOpen then (select.outgoing i).toList else [] := by
  cases h with
  | expired | listening | lateListening | broken =>
    exact handed_quiet (Inner.message_failActive _) rfl
  | bound | unbound | drained => exact handed_quiet (Inner.message_completed _ _ _) rfl
  | refused e hrefused =>
    rcases hrefused with hrefused | ⟨hrefused, -⟩
    · exact absurd hrefused hsocket
    · rw [hrefused]
      exact Inner.message_completed _ _ _
  | sent hmessage _ hopen | overflowed hmessage _ hopen | late hmessage _ hopen =>
    rw [hopen, if_pos rfl, Select.outgoing, hmessage, resultTask, List.filterMap_append,
      Inner.message_failActive]
    rfl
  | acked hm => exact handed_quiet rfl (by rw [Select.outgoing, hm]; rfl)
  | @ackDropped m hm =>
    refine handed_quiet rfl (if_neg fun hpayload => ?_)
    rw [Message.isPositiveAck, hpayload] at hm
    cases hm
  | replied =>
    rw [← Inner.message_aliveEffects, resultTask, List.filterMap_append]
    exact List.append_nil _
  | stored hm => exact handed_quiet rfl (by rw [Select.outgoing, hm]; rfl)
  | passed | unheeded | aliveOverflowed => exact Inner.message_aliveEffects _

theorem ControlMessage.failure_not_bound (request : ControlMessage) (id : Nat) (e : Error) :
    (Entry.did (.completed id (request.failure e))).isBound = false := by
  cases request <;> rfl

/-- Only a bind completes with a port, so that no other turn begins a new connection in the log. -/
theorem Turned.not_bound (h : Turned target env i select r)
    (hselect : ∀ address response, select ≠ .control (.bindSocket address response)) :
    ∀ e ∈ select.entries ++ (resultTask r).effects.map .did, e.isBound = false := by
  have hfail : ∀ {e f}, f ∈ i.failActive e → (Entry.did f).isBound = false := by
    intro e f hf
    obtain ⟨request, -, rfl⟩ := Inner.mem_failActive hf
    exact request.failure_not_bound _ e
  have halive : ∀ {m f}, f ∈ i.aliveEffects env m → (Entry.did f).isBound = false := by
    intro m f hf
    rw [Inner.mem_aliveEffects hf]
    rfl
  -- effects that first fail what was active
  have happend : ∀ {e f g}, (Entry.did g).isBound = false → f ∈ i.failActive e ++ [g] →
      (Entry.did f).isBound = false := by
    intro e f g hg hf
    rcases List.mem_append.mp hf with hf | hf
    · exact hfail hf
    · rw [List.mem_singleton.mp hf]
      exact hg
  intro e he
  rcases List.mem_append.mp he with he | he
  · cases select with
    | deadline => cases he
    | control message =>
      cases List.mem_singleton.mp he
      rfl
    | socket message =>
      cases List.mem_singleton.mp he
      rfl
  · obtain ⟨f, hf, rfl⟩ := List.mem_map.mp he
    cases h with
    | expired | listening | lateListening | broken => exact hfail hf
    | bound address response => exact absurd rfl (hselect address response)
    | unbound | drained | sent | overflowed | late => exact happend rfl hf
    | @refused request e => exact happend (request.failure_not_bound _ e) hf
    | acked =>
      cases List.mem_singleton.mp hf
      rfl
    | ackDropped | stored => cases hf
    | replied =>
      rcases List.mem_append.mp hf with hf | hf
      · exact halive hf
      · cases List.mem_singleton.mp hf
        rfl
    | passed | unheeded | aliveOverflowed => exact halive hf

/-- No turn but a bind leaves a socket where there was none: the others keep it or drop it. -/
theorem Turned.socket_of_socket (h : Turned target env i select r)
    (hselect : ∀ address response, select ≠ .control (.bindSocket address response))
    (hsocket : (resultTask r).inner.tcpDataSocket ≠ none) : i.tcpDataSocket ≠ none := by
  cases h with
  | bound address response => exact absurd rfl (hselect address response)
  | unbound | broken => exact absurd rfl hsocket
  | sent _ hbound | late _ hbound =>
    rw [hbound]
    exact Option.some_ne_none _
  | replied | passed | unheeded =>
    intro hnone
    refine hsocket ?_
    rw [resultTask]
    simp only [Inner.afterAlive]
    split <;> simp [hnone]
  | _ => exact hsocket

/-- A turn that the socket breaks leaves none, so that what was received is a message if there is
one. -/
theorem Turned.message_of_socket {incoming : Incoming}
    (h : Turned target env i (.socket incoming.result) r)
    (hsocket : (resultTask r).inner.tcpDataSocket ≠ none) : ∃ m, incoming = .message m := by
  cases incoming with
  | message m => exact ⟨m, rfl⟩
  | failed | closed =>
    cases h
    exact absurd rfl hsocket

end

/-- What a turn on a branch hands over, if the socket takes it, by what the branch selects. -/
def World.outgoing (w : World) (branch : Branch) : Option OwnedMessage :=
  (w.select branch).bind (Select.outgoing w.inner)

/-- What a turn that is no bind adds to the log, and when it leaves a socket. -/
structure World.TurnAdds (w w' : World) (branch : Branch) (socketOpen : Bool)
    (new : List Entry) : Prop where
  log : w'.log = w.log ++ new
  not_bound : ∀ e ∈ new, e.isBound = false
  received : receivedMessages new = branch.received
  handed : w.inner.tcpDataSocket ≠ none →
    handedMessages new = if socketOpen then (w.outgoing branch).toList else []
  holds : w'.HoldsSocket → w.HoldsSocket
  message : w'.HoldsSocket → ∀ incoming, branch = .socket incoming → ∃ m, incoming = .message m

section
variable {target : Target} {w w' : World} {branch : Branch} {socketOpen : Bool}
  {connect : Except Error Unit}

/-- A bind is selected where the next request is one, and nowhere else. -/
theorem World.bindsNext_of_select {address : SocketAddr} {response : Nat}
    (h : w.select branch = some (.control (.bindSocket address response))) :
    branch = .control ∧ w.bindsNext = true := by
  obtain ⟨rfl, request, hrequest, hcreate⟩ := World.select_control h
  refine ⟨rfl, ?_⟩
  cases request with
  | bindSocket => rw [World.bindsNext, hrequest]
  | _ => cases hcreate

theorem World.turn_adds (hw : w.Waits)
    (h : w.step target (.turn branch socketOpen connect) = some w')
    (hbind : ¬ (branch = .control ∧ w.bindsNext = true)) :
    ∃ new, w.TurnAdds w' branch socketOpen new := by
  obtain ⟨hhead, hturn⟩ := World.of_step_turn h
  rcases hturn with ⟨select, hselect, rfl⟩ | ⟨hnone, rfl, -, rfl⟩
  · have hturned := turn_spec target (w.env socketOpen connect) (hw (.inl hhead))
      (World.ready_of_select hselect)
    have hno : ∀ address response, select ≠ .control (.bindSocket address response) := by
      rintro address response rfl
      exact hbind (World.bindsNext_of_select hselect)
    refine ⟨_, World.finish_log _ _ _, hturned.not_bound hno, receivedMessages_turn _ hselect,
      ?_, ?_, ?_⟩
    · intro hsocket
      rw [handedMessages_turn, hturned.handed hsocket, World.outgoing, hselect]
      rfl
    · rintro ⟨-, hsocket⟩
      rw [World.finish_inner] at hsocket
      exact ⟨.inl hhead, hturned.socket_of_socket hno hsocket⟩
    · rintro ⟨-, hsocket⟩ incoming rfl
      rw [World.finish_inner] at hsocket
      obtain ⟨-, rfl⟩ := World.select_socket hselect
      exact hturned.message_of_socket hsocket
  · refine ⟨[], (List.append_nil _).symm, fun e he => absurd he List.not_mem_nil, rfl, ?_, ?_, ?_⟩
    · intro _
      rw [World.outgoing, hnone]
      exact (ite_self _).symm
    · rintro ⟨hloop | ⟨m, hloop⟩, -⟩ <;> cases hloop
    · intro _ incoming h
      cases h

/-- A bind that leaves a socket is the last thing in the log, so that nothing was received or handed
over since. -/
theorem World.sinceBind_of_bind (hw : w.Waits)
    (h : w.step target (.turn .control socketOpen connect) = some w') (hbind : w.bindsNext = true)
    (hholds : w'.HoldsSocket) : sinceBind w'.log = [] := by
  obtain ⟨hhead, hturn⟩ := World.of_step_turn h
  obtain ⟨address, hrequest⟩ : ∃ address, w.requests[w.taken]? = some (.bindSocket address) := by
    rw [World.bindsNext] at hbind
    split at hbind
    · next address hrequest => exact ⟨address, hrequest⟩
    · cases hbind
  have hselect : w.select .control = some (.control (.bindSocket address w.taken)) := by
    rw [World.select, hrequest]
    rfl
  rcases hturn with ⟨select, hselect', rfl⟩ | ⟨hnone, -⟩
  · cases hselect.symm.trans hselect'
    have hturned := turn_spec target (w.env socketOpen connect) (hw (.inl hhead))
      (World.ready_of_select hselect)
    have hsocket := hholds.2
    rw [World.finish_inner] at hsocket
    rw [World.finish_log]
    generalize SimpleDoip.turn target (w.env socketOpen connect)
      (.control (.bindSocket address w.taken)) ⟨w.inner, []⟩ = r at hturned hsocket
    cases hturned with
    | bound =>
      rw [resultTask, List.map_append, ← List.append_assoc, ← List.append_assoc]
      refine sinceBind_bound ?_
      rw [resultTask] at hsocket
      cases hresult :
          SocketManager.bind (w.env socketOpen connect) w.inner.clientOptions address with
      | error e =>
        rw [hresult] at hsocket
        exact absurd rfl hsocket
      | ok manager => rfl
    | refused _ _ _ hneeds => cases hneeds
    | sent hmessage | overflowed hmessage | late hmessage => cases hmessage
  · cases hselect.symm.trans hnone

end

/-! ## What a move can do -/

namespace Stack

section
variable {ι : Type} [WireCodec ι] [Framed ι] {target : Target} {st st' : Stack ι} {a : StackMove}

/-- A branch that is chosen without the socket is ready, and stays so until the turn. -/
def Ready (st : Stack ι) : Branch → Prop
  | .deadline => (st.world.select .deadline).isSome = true
  | .control => (st.world.select .control).isSome = true ∨ st.world.controlOpen = false
  | .socket _ => st.socket.isSome = true

/-- The moves there are, each with its guard and the stack it leaves. -/
inductive Moved (target : Target) (st : Stack ι) : StackMove → Stack ι → Prop where
  | outside {a : Action} {w : World} (hturn : a.isTurn = false)
      (hstep : st.world.step target a = some w) :
      Moved target st (.outside a)
        (st.settle w (st.socket.map fun t => { t with clock := t.clock + a.elapsed }))
  | received {incoming : Incoming} {t t' : SocketTask ι} (hhead : st.world.phase = .loopHead)
      (hchosen : st.chosen = none) (hsocket : st.socket = some t)
      (hreceive : t.receive = some (incoming, t')) :
      Moved target st (.choose (.socket incoming))
        { st with socket := some t', chosen := some (.socket incoming) }
  | chosen {branch : Branch} (hhead : st.world.phase = .loopHead) (hchosen : st.chosen = none)
      (hbranch : ∀ incoming, branch ≠ .socket incoming) (hready : st.Ready branch) :
      Moved target st (.choose branch) { st with chosen := some branch }
  | bound {w : World} {connect : Except Error Unit} (hchosen : st.chosen = some .control)
      (hbind : st.world.bindsNext = true)
      (hstep : st.world.step target (.turn .control st.socketOpen connect) = some w) :
      Moved target st (.turn connect)
        { st.settle w (some (spawned ι w.clock)) with chosen := none, reads := [] }
  | turnedUnbound {branch : Branch} {w : World} {connect : Except Error Unit}
      (hchosen : st.chosen = some branch)
      (hbind : ¬ (branch = .control ∧ st.world.bindsNext = true)) (hsocket : st.socket = none)
      (hstep : st.world.step target (.turn branch st.socketOpen connect) = some w) :
      Moved target st (.turn connect) { st.settle w none with chosen := none }
  | turned {branch : Branch} {w : World} {connect : Except Error Unit} {t t' : SocketTask ι}
      (hchosen : st.chosen = some branch)
      (hbind : ¬ (branch = .control ∧ st.world.bindsNext = true)) (hsocket : st.socket = some t)
      (hstep : st.world.step target (.turn branch st.socketOpen connect) = some w)
      (hhand : run SocketTask.step t
        ((handedMessages (w.log.drop st.world.log.length)).map .send) = some t') :
      Moved target st (.turn connect) { st.settle w (some t') with chosen := none }
  | socketMoved {move : SocketMove} {t t' : SocketTask ι} (hown : move.isOwn = true)
      (hsocket : st.socket = some t) (hstep : t.step move = some t') :
      Moved target st (.socket move)
        { st with socket := some t', reads := st.reads ++ move.socketRead.toList }

/-- **Inversion of a choice**: which branch it was, and why it was ready. -/
theorem moved_of_choose {branch : Branch} (h : st.choose branch = some st') :
    st.Moved target (.choose branch) st' := by
  unfold choose at h
  split at h
  · next hguard =>
    cases branch with
    | socket incoming =>
      obtain ⟨t, hsocket, h⟩ := Option.bind_eq_some_iff.mp h
      obtain ⟨⟨received, t'⟩, hreceive, h⟩ := Option.bind_eq_some_iff.mp h
      dsimp only at h
      split at h
      · next heq =>
        subst heq
        cases h
        exact .received hguard.1 hguard.2 hsocket hreceive
      · cases h
    | control =>
      dsimp only at h
      split at h
      · next hready =>
        cases h
        exact .chosen hguard.1 hguard.2 (fun _ h => by cases h) hready
      · cases h
    | deadline =>
      dsimp only at h
      split at h
      · next hready =>
        cases h
        exact .chosen hguard.1 hguard.2 (fun _ h => by cases h) hready
      · cases h
  · cases h

/-- **Inversion of a turn**: whether it was a bind, and what it handed to the socket if not. -/
theorem moved_of_turn {connect : Except Error Unit} (h : st.turn target connect = some st') :
    st.Moved target (.turn connect) st' := by
  rw [turn] at h
  obtain ⟨branch, hchosen, hworld⟩ := Option.bind_eq_some_iff.mp h
  obtain ⟨w, hstep, hrest⟩ := Option.bind_eq_some_iff.mp hworld
  by_cases hbind : branch = .control ∧ st.world.bindsNext = true
  · rw [if_pos hbind] at hrest
    obtain ⟨rfl, hbind⟩ := hbind
    cases hrest
    exact .bound hchosen hbind hstep
  · rw [if_neg hbind] at hrest
    cases hsocket : st.socket with
    | none =>
      rw [hsocket] at hrest
      cases hrest
      exact .turnedUnbound hchosen hbind hsocket hstep
    | some t =>
      rw [hsocket] at hrest
      obtain ⟨t', hhand, hlast⟩ := Option.bind_eq_some_iff.mp hrest
      cases hlast
      exact .turned hchosen hbind hsocket hstep hhand

/-- **Inversion of a move**: which one it was, with its guard and the stack it leaves. -/
theorem moved_of_step (h : st.step target a = some st') : st.Moved target a st' := by
  cases a with
  | outside action =>
    rw [step] at h
    split at h
    · cases h
    · next hturn =>
      obtain ⟨w, hstep, rfl⟩ := Option.map_eq_some_iff.mp h
      exact .outside (by simpa using hturn) hstep
  | choose branch => exact moved_of_choose h
  | turn connect => exact moved_of_turn h
  | socket move =>
    rw [step] at h
    split at h
    · next hown =>
      obtain ⟨t, hsocket, h⟩ := Option.bind_eq_some_iff.mp h
      obtain ⟨t', hstep, h⟩ := Option.bind_eq_some_iff.mp h
      cases h
      exact .socketMoved hown hsocket hstep
    · cases h

/-! ## The stack is a client -/

/-- What a move is to the client: what happens outside, and the turns. -/
def action (st : Stack ι) : StackMove → Option Action
  | .outside action => some action
  | .turn connect => st.chosen.map fun branch => .turn branch st.socketOpen connect
  | .choose _ | .socket _ => none

/-- The step of the client that a move is, if it is one, meets `G`. So a condition on runs of the
client is one on runs of the stack. -/
def AsClient (G : World → Action → Prop) (st : Stack ι) (a : StackMove) : Prop :=
  ∀ action, st.action a = some action → G st.world action

/-- Each move is a step of the client or none: choosing a branch and the steps of the socket task do
not touch the client. -/
theorem world_step (h : st.step target a = some st') :
    run (World.step target) st.world (st.action a).toList = some st'.world := by
  cases moved_of_step h with
  | outside hturn hstep => exact (run_singleton _ _).trans hstep
  | received | chosen | socketMoved => rfl
  | bound hchosen _ hstep | turnedUnbound hchosen _ _ hstep | turned hchosen _ _ hstep =>
    rw [action, hchosen]
    exact (run_singleton _ _).trans hstep

variable (target) in
/-- What the client does in a run of the stack, in this order. -/
def clientActions (st : Stack ι) (moves : List StackMove) : List Action :=
  seen (step target) action st moves

/-- **Every run of a stack is a run of the client**, so that what holds in every run of the client
holds here. -/
theorem client_of_run {moves : List StackMove} (hrun : run (step target) st moves = some st') :
    run (World.step target) st.world (st.clientActions target moves) = some st'.world :=
  run_seen (fun _ _ _ => world_step) hrun

theorem world_of_run {options : ClientOptions} {moves : List StackMove}
    (hrun : run (step target) (start ι options) moves = some st) :
    ∃ actions, run (World.step target) (World.start options) actions = some st.world :=
  ⟨_, client_of_run hrun⟩

/-! ## The two tasks agree -/

/-- What a chosen branch has received and not handled yet. It is in neither the channel nor the
log. -/
def inHand (st : Stack ι) : List (Except Error OwnedMessage) :=
  match st.chosen with
  | some (.socket .closed) => []
  | some branch => branch.received
  | none => []

/-- The channels of the socket task and the log of the inner task since it bound the socket. -/
structure Connected (st : Stack ι) (t : SocketTask ι) : Prop where
  history : ∃ clock moves, run SocketTask.step (spawned ι clock) moves = some t ∧
    messagesSent moves = handedMessages (sinceBind st.world.log) ∧
    SocketTask.socketReads moves = st.reads
  receiver : t.incoming.receiverOpen = true
  sender : t.outgoing.senderOpen = true
  received : t.incoming.received.map incomingResult =
    receivedMessages (sinceBind st.world.log) ++ st.inHand

/-- What holds of every stack: a chosen branch is ready, and what the client has received and handed
over is what its socket has. -/
structure Linked (st : Stack ι) : Prop where
  waits : st.world.Waits
  bound : st.world.HoldsSocket ↔ st.socket.isSome = true
  ready : ∀ branch, st.chosen = some branch → st.world.phase = .loopHead ∧ st.Ready branch
  connected : ∀ t, st.socket = some t → st.Connected t

/-- Whatever is settled, the socket is there exactly where it is held, if it was there before. -/
theorem bound_settle (st : Stack ι) {w : World} {socket : Option (SocketTask ι)}
    (h : w.HoldsSocket → socket.isSome = true) :
    w.HoldsSocket ↔ (st.settle w socket).socket.isSome = true := by
  rw [settle]
  dsimp only
  split
  · next hholds => exact ⟨fun _ => h hholds, fun _ => hholds⟩
  · next hholds => exact ⟨fun hw => absurd hw hholds, fun h => (by cases h)⟩

/-- A socket that is settled is held: the stack has a socket only where the client has. -/
theorem of_settle (st : Stack ι) {w : World} {socket : Option (SocketTask ι)} {t : SocketTask ι}
    (h : (st.settle w socket).socket = some t) : w.HoldsSocket ∧ socket = some t := by
  rw [settle] at h
  dsimp only at h
  split at h
  · next hholds => exact ⟨hholds, h⟩
  · cases h

/-- What happens outside leaves a ready branch ready, and the inner task where it is. -/
theorem select_outside {w w' : World} {action : Action} (hturn : action.isTurn = false)
    (hstep : w.step target action = some w') (hhead : w.phase = .loopHead) :
    w'.phase = .loopHead ∧
    ((w.select .deadline).isSome = true → (w'.select .deadline).isSome = true) ∧
    ((w.select .control).isSome = true → (w'.select .control).isSome = true) ∧
    (w.controlOpen = false → w'.controlOpen = false) := by
  cases World.moved_of_step hstep with
  | @issued request =>
    refine ⟨hhead, id, fun hcontrol => ?_, id⟩
    obtain ⟨select, hselect⟩ := Option.isSome_iff_exists.mp hcontrol
    obtain ⟨next, hnext, -⟩ := Option.map_eq_some_iff.mp hselect
    have hnext' : (w.requests ++ [request])[w.taken]? = some next := by
      rw [List.getElem?_append_left (List.getElem?_eq_some_iff.mp hnext).1]
      exact hnext
    simp only [World.select, hnext', Option.map_some, Option.isSome_some]
  | abandoned | updateRead | updatesDropped => exact ⟨hhead, id, id, id⟩
  | controlClosed => exact ⟨hhead, id, id, fun _ => rfl⟩
  | waited duration =>
    refine ⟨hhead, fun hdeadline => ?_, id, id⟩
    obtain ⟨select, hselect⟩ := Option.isSome_iff_exists.mp hdeadline
    cases World.selected_of_select hselect with
    | deadline hactive hset hpast =>
      have hpast' := hpast.trans (Nat.le_add_right w.clock duration)
      simp only [World.select, hactive, hset, if_pos hpast', Option.isSome_some]
  | turned | ended => cases hturn
  | resumed hphase => cases hhead.symm.trans hphase

/-- Steps of the socket task leave the manager's ends alone, and what the manager has received. -/
theorem own_step {t t' : SocketTask ι} {move : SocketMove} (hown : move.isOwn = true)
    (hstep : t.step move = some t') :
    t'.incoming.received = t.incoming.received ∧
      t'.incoming.receiverOpen = t.incoming.receiverOpen ∧
      t'.outgoing.senderOpen = t.outgoing.senderOpen := by
  have hread : ∀ reader (next : FramedRead.Next ι),
      ({ t with reader }.handleNext next).incoming.received = t.incoming.received := by
    intro reader next
    cases next with
    | pending | ended => rfl
    | item item =>
      rw [handleNext]
      cases StreamItem.passedOn item <;> rfl
  cases SocketTask.moved_of_step hstep with
  | @read r hphase =>
    have h := readFrom_handleNext hphase (t.reader.fill r).2 (t.reader.fill r).1
    exact ⟨hread _ _, h.receiverOpen, h.senderOpen⟩
  | next hphase =>
    have h := readFrom_handleNext hphase t.reader.pollNext.2 t.reader.pollNext.1
    exact ⟨hread _ _, h.receiverOpen, h.senderOpen⟩
  | senderDropped | timeout | receiverDropped | errorIgnored | wrote | flushed | writeFailed =>
    exact ⟨rfl, rfl, rfl⟩
  | taken hphase hrecv | tooLarge hphase hrecv =>
    exact ⟨rfl, rfl, (Channel.of_recv_value hrecv).2.2.1⟩
  | delivered hphase hsend =>
    obtain ⟨hopen, -, hreceived, -, -, hopen', -⟩ := Channel.of_send_taken hsend
    exact ⟨hreceived, hopen'.trans hopen.symm, rfl⟩
  | waited | sent | received | shutDown => cases hown

/-- Sending leaves everything but the channel alone, so that the socket task is where it was. -/
theorem run_send {t t' : SocketTask ι} {ms : List OwnedMessage}
    (hrun : run SocketTask.step t (ms.map .send) = some t') :
    t'.incoming = t.incoming ∧ t'.outgoing.senderOpen = t.outgoing.senderOpen ∧
      t'.phase = t.phase ∧ t'.reader = t.reader := by
  refine run_invariant_along (G := fun _ a => ∃ m, a = .send m)
    (P := fun t' : SocketTask ι => t'.incoming = t.incoming ∧
      t'.outgoing.senderOpen = t.outgoing.senderOpen ∧ t'.phase = t.phase ∧ t'.reader = t.reader)
    ?_ (along_of_forall ?_ t) hrun ⟨rfl, rfl, rfl, rfl⟩
  · rintro t₁ a t₂ ⟨m, rfl⟩ hstep ⟨hincoming, hsender, hphase, hreader⟩
    cases SocketTask.moved_of_step hstep with
    | sent hopen hsend =>
      exact ⟨hincoming, (Channel.of_send_taken hsend).2.2.2.2.1.trans hsender, hphase, hreader⟩
  · intro a ha
    obtain ⟨m, -, rfl⟩ := List.mem_map.mp ha
    exact ⟨m, rfl⟩

theorem messagesSent_append (moves more : List SocketMove) :
    messagesSent (moves ++ more) = messagesSent moves ++ messagesSent more :=
  List.filterMap_append

theorem socketReads_append (moves more : List SocketMove) :
    SocketTask.socketReads (moves ++ more) =
      SocketTask.socketReads moves ++ SocketTask.socketReads more :=
  List.filterMap_append

/-- The manager receives what the channel has, and holds it until its turn. -/
theorem Connected.received_step {t t' : SocketTask ι} {incoming : Incoming}
    (h : st.Connected t) (hchosen : st.chosen = none)
    (hreceive : t.receive = some (incoming, t')) :
    Connected { st with socket := some t', chosen := some (.socket incoming) } t' := by
  obtain ⟨⟨clock, moves, hrun, hsent, hreads⟩, hreceiver, hsender, hreceived⟩ := h
  have hhand : st.inHand = [] := by rw [inHand, hchosen]
  rw [hhand, List.append_nil] at hreceived
  have hvalue : ∀ {item c}, t.incoming.recv = .value item c →
      incomingResult item = incoming.result → incoming ≠ .closed → t' = { t with incoming := c } →
      Connected { st with socket := some t', chosen := some (.socket incoming) } t' := by
    rintro item c hrecv hresult hclosed rfl
    obtain ⟨-, hgot, -, hopen, -⟩ := Channel.of_recv_value hrecv
    have hstep : t.step .receive = some { t with incoming := c } := by
      simp only [SocketTask.step, hrecv]
    refine ⟨⟨clock, moves ++ [.receive], run_snoc hrun hstep, ?_, ?_⟩, hopen.trans hreceiver,
      hsender, ?_⟩
    · rw [messagesSent_append, hsent]
      exact List.append_nil _
    · rw [socketReads_append, hreads]
      exact List.append_nil _
    · dsimp only
      rw [hgot, List.map_append, hreceived, List.map_singleton, hresult]
      cases incoming with
      | closed => exact absurd rfl hclosed
      | message m => rfl
      | failed => rfl
  rw [SocketTask.receive] at hreceive
  split at hreceive
  · next hrecv =>
    cases hreceive
    exact hvalue hrecv rfl (fun h => by cases h) rfl
  · next hrecv =>
    cases hreceive
    exact hvalue hrecv rfl (fun h => by cases h) rfl
  · cases hreceive
    exact ⟨⟨clock, moves, hrun, hsent, hreads⟩, hreceiver, hsender,
      hreceived.trans (List.append_nil _).symm⟩
  · cases hreceive

/-- A turn that leaves the socket there keeps it connected: what it handed over was sent, and what
it held is in the log. -/
theorem Connected.turned {t t' : SocketTask ι} {branch : Branch} {w : World} {new : List Entry}
    {open' : Bool} (h : st.Connected t) (hchosen : st.chosen = some branch)
    (hadds : st.world.TurnAdds w branch open' new) (hholds : w.HoldsSocket)
    (hhand : run SocketTask.step t ((handedMessages new).map .send) = some t') :
    Connected { st.settle w (some t') with chosen := none } t' := by
  obtain ⟨⟨clock, moves, hrun, hsent, hreads⟩, hreceiver, hsender, hreceived⟩ := h
  obtain ⟨hincoming, hsender', -, -⟩ := run_send hhand
  have hsince : sinceBind w.log = sinceBind st.world.log ++ new := by
    rw [hadds.log, sinceBind_append _ hadds.not_bound]
  have hhand' : st.inHand = branch.received := by
    rw [inHand, hchosen]
    cases branch with
    | socket incoming =>
      obtain ⟨m, rfl⟩ := hadds.message hholds incoming rfl
      rfl
    | control | deadline => rfl
  have hsends : messagesSent ((handedMessages new).map .send) = handedMessages new := by
    rw [messagesSent, List.filterMap_map]
    exact List.filterMap_some
  have hnoReads : SocketTask.socketReads ((handedMessages new).map .send) = [] := by
    rw [SocketTask.socketReads, List.filterMap_map]
    exact List.filterMap_eq_nil_iff.mpr fun _ _ => rfl
  refine ⟨⟨clock, moves ++ (handedMessages new).map .send, ?_, ?_, ?_⟩, ?_,
    hsender'.trans hsender, ?_⟩
  · rw [run_append, hrun]
    exact hhand
  · change _ = handedMessages (sinceBind w.log)
    rw [messagesSent_append, hsent, hsends, hsince, handedMessages_append]
  · rw [socketReads_append, hnoReads, List.append_nil]
    exact hreads
  · rw [hincoming]
    exact hreceiver
  · change _ = receivedMessages (sinceBind w.log) ++ []
    rw [hincoming, hreceived, hhand', hsince, receivedMessages_append, hadds.received,
      List.append_nil]

/-- What happens outside keeps the socket connected: the log is as it was, and the socket task sees
only the time that passes. -/
theorem Connected.waited {t : SocketTask ι} {w : World} (h : st.Connected t)
    (hlog : w.log = st.world.log) (elapsed : Nat) (socket : Option (SocketTask ι)) :
    Connected (st.settle w socket) { t with clock := t.clock + elapsed } := by
  obtain ⟨⟨clock, moves, hrun, hsent, hreads⟩, hreceiver, hsender, hreceived⟩ := h
  refine ⟨⟨clock, moves ++ [.wait elapsed], run_snoc hrun rfl, ?_, ?_⟩, hreceiver, hsender, ?_⟩
  · rw [messagesSent_append, hsent, settle, hlog]
    exact List.append_nil _
  · rw [socketReads_append, hreads]
    exact List.append_nil _
  · rw [settle, hlog]
    exact hreceived

/-- A step of the socket task itself keeps it connected: it sends and receives nothing on behalf of
its manager, and what it reads is added to what was read. -/
theorem Connected.moved {t t' : SocketTask ι} {move : SocketMove} (h : st.Connected t)
    (hown : move.isOwn = true) (hmove : t.step move = some t') :
    Connected { st with socket := some t', reads := st.reads ++ move.socketRead.toList } t' := by
  obtain ⟨⟨clock, moves, hrun, hsent, hreads⟩, hreceiver, hsender, hreceived⟩ := h
  obtain ⟨hgot, hreceiver', hsender'⟩ := own_step hown hmove
  have hnone : messagesSent [move] = [] := by cases move <;> first | rfl | cases hown
  refine ⟨⟨clock, moves ++ [move], run_snoc hrun hmove, ?_, ?_⟩, hreceiver'.trans hreceiver,
    hsender'.trans hsender, ?_⟩
  · rw [messagesSent_append, hsent, hnone, List.append_nil]
  · rw [socketReads_append, hreads]
    cases move <;> rfl
  · rw [hgot]
    exact hreceived

/-- What happens outside keeps the two tasks linked: a branch that was chosen stays ready, and a
socket stays bound as long as the inner task is in its loop. -/
theorem Linked.outside (h : st.Linked) {action : Action} {w : World}
    (hturn : action.isTurn = false) (hworld : st.world.step target action = some w) :
    Linked (st.settle w
      (st.socket.map fun t => { t with clock := t.clock + action.elapsed })) := by
  have hsame : SameTask st.world w := by
    cases World.step_cases h.waits hworld with
    | idle hsame => exact hsame
    | turned => cases hturn
  refine ⟨h.waits.step hworld, bound_settle st ?_, ?_, ?_⟩
  · intro hholds
    have hsocket : w.inner.tcpDataSocket ≠ none := hholds.2
    rw [hsame.inner] at hsocket
    rw [Option.isSome_map]
    exact h.bound.mp ⟨hsame.inLoop hholds.1, hsocket⟩
  · intro branch hchosen
    obtain ⟨hhead, hready⟩ := h.ready branch hchosen
    obtain ⟨hhead', hdeadline, hcontrol, hclosed⟩ := select_outside hturn hworld hhead
    refine ⟨hhead', ?_⟩
    cases branch with
    | deadline => exact hdeadline hready
    | control => exact hready.imp hcontrol hclosed
    | socket incoming =>
      refine (bound_settle st ?_).mp ⟨.inl hhead', ?_⟩
      · intro _
        rw [Option.isSome_map]
        exact hready
      · rw [hsame.inner]
        exact (h.bound.mpr hready).2
  · intro t' ht'
    obtain ⟨-, hsocket⟩ := of_settle st ht'
    obtain ⟨t, ht, rfl⟩ := Option.map_eq_some_iff.mp hsocket
    exact (h.connected t ht).waited hsame.log action.elapsed _

/-- Each move keeps the two tasks linked, case by case of what it can be. -/
theorem Linked.step (h : st.Linked) (hstep : st.step target a = some st') : st'.Linked := by
  cases moved_of_step hstep with
  | outside hturn hworld => exact h.outside hturn hworld
  | @received incoming t t' hhead hchosen hsocket hreceive =>
    refine ⟨h.waits, ?_, ?_, ?_⟩
    · rw [h.bound, hsocket]
      exact Iff.rfl
    · intro branch hbranch
      cases hbranch
      exact ⟨hhead, rfl⟩
    · intro t₁ ht₁
      cases ht₁
      exact (h.connected t hsocket).received_step hchosen hreceive
  | @chosen branch hhead hchosen hbranch hready =>
    refine ⟨h.waits, h.bound, ?_, ?_⟩
    · intro branch' hbranch'
      cases hbranch'
      refine ⟨hhead, ?_⟩
      cases branch with
      | socket incoming => exact absurd rfl (hbranch incoming)
      | control | deadline => exact hready
    · intro t ht
      obtain ⟨hhistory, hreceiver, hsender, hreceived⟩ := h.connected t ht
      refine ⟨hhistory, hreceiver, hsender, ?_⟩
      have hhand : st.inHand = [] := by rw [inHand, hchosen]
      rw [hreceived, hhand]
      cases branch with
      | socket incoming => exact absurd rfl (hbranch incoming)
      | control | deadline => rfl
  | @bound w connect hchosen hbind hworld =>
    refine ⟨h.waits.step hworld, bound_settle st fun _ => rfl, fun _ h => (by cases h), ?_⟩
    intro t ht
    obtain ⟨hholds, hsocket⟩ := of_settle st ht
    cases hsocket
    have hsince : sinceBind w.log = [] := World.sinceBind_of_bind h.waits hworld hbind hholds
    refine ⟨⟨w.clock, [], rfl, ?_, rfl⟩, rfl, rfl, ?_⟩
    · change _ = handedMessages (sinceBind w.log)
      rw [hsince]
      rfl
    · change _ = receivedMessages (sinceBind w.log) ++ []
      rw [hsince]
      rfl
  | @turnedUnbound branch w connect hchosen hbind hsocket hworld =>
    obtain ⟨new, hadds⟩ := World.turn_adds h.waits hworld hbind
    refine ⟨h.waits.step hworld, bound_settle st fun hholds => ?_, fun _ h => (by cases h), ?_⟩
    · rw [← hsocket]
      exact h.bound.mp (hadds.holds hholds)
    · intro t ht
      cases (of_settle st ht).2
  | @turned branch w connect t t' hchosen hbind hsocket hworld hhand =>
    obtain ⟨new, hadds⟩ := World.turn_adds h.waits hworld hbind
    refine ⟨h.waits.step hworld, bound_settle st fun _ => rfl, fun _ h => (by cases h), ?_⟩
    intro t₁ ht₁
    obtain ⟨hholds, hsocket'⟩ := of_settle st ht₁
    cases hsocket'
    rw [hadds.log, List.drop_left] at hhand
    exact (h.connected t hsocket).turned hchosen hadds hholds hhand
  | @socketMoved move t t' hown hsocket hmove =>
    refine ⟨h.waits, ?_, ?_, ?_⟩
    · rw [h.bound, hsocket]
      exact Iff.rfl
    · intro branch hbranch
      obtain ⟨hhead, hready⟩ := h.ready branch hbranch
      refine ⟨hhead, ?_⟩
      cases branch with
      | socket incoming => rfl
      | control | deadline => exact hready
    · intro t₁ ht₁
      cases ht₁
      exact (h.connected t hsocket).moved hown hmove

/-- Every run keeps the two tasks linked, from wherever it starts. -/
theorem Linked.run (h : st.Linked) {moves : List StackMove}
    (hrun : Transition.run (Stack.step target) st moves = some st') : st'.Linked :=
  run_invariant (P := Linked) (fun _ _ _ hstep h => h.step hstep) hrun h

theorem linked_start (options : ClientOptions) : (start ι options).Linked := by
  refine ⟨fun _ => .none, ?_, fun _ h => (by cases h), fun _ h => (by cases h)⟩
  exact ⟨fun h => absurd rfl h.2, fun h => (by cases h)⟩

/-- In every run from the start the two tasks are linked, as there is no socket at first. -/
theorem linked_of_run {options : ClientOptions} {moves : List StackMove}
    (hrun : run (Stack.step target) (start ι options) moves = some st) : st.Linked :=
  (linked_start options).run hrun

/-- **A client is faithful to its wire.** Along every run of the inner task on top of the socket
task there is a run of the client alone, and for the socket that is bound: what is on the wire is
the beginning of the frames of the messages handed over since the bind, and all of them but what the
socket task still holds, while it is in its loop. What the inner task has received since the bind,
with what it has in hand, is the beginning of what the codec finds in the bytes read from that
connection; and once the task waits for the socket with an empty channel, all of it. -/
theorem stack_faithful {options : ClientOptions} {moves : List StackMove} {t : SocketTask ι}
    (hrun : run (Stack.step target) (start ι options) moves = some st)
    (hsocket : st.socket = some t) :
    (∃ actions, run (World.step target) (World.start options) actions = some st.world) ∧
    t.written <+: framesOf ι (handedMessages (sinceBind st.world.log)) ∧
    (¬ t.Left → t.written ++ t.unwritten ++ framesOf ι t.outgoing.queue =
      framesOf ι (handedMessages (sinceBind st.world.log))) ∧
    receivedMessages (sinceBind st.world.log) ++ st.inHand <+:
      (passedOn ι (bytesRead st.reads) (endRead st.reads)).map incomingResult ∧
    (t.phase = .selecting → t.reader.NeedsRead → t.incoming.queue = [] →
      receivedMessages (sinceBind st.world.log) ++ st.inHand =
        (passedOn ι (bytesRead st.reads) (endRead st.reads)).map incomingResult) := by
  obtain ⟨⟨clock, own, hown, hsent, hreads⟩, hreceiver, -, hreceived⟩ :=
    (linked_of_run hrun).connected t hsocket
  have hdelivers := delivers_of_run hown
  rw [hreads] at hdelivers
  rw [← hsent, ← hreceived]
  refine ⟨world_of_run hrun, prefix_written hown, written_of_loop hown, ?_, ?_⟩
  · exact (t.incoming.prefix_received.trans hdelivers.prefix_accepted).map _
  · intro hphase hneeds hqueue
    have hall := hdelivers.accepted_eq hreceiver (.inl ⟨hphase, hneeds⟩)
    rw [hqueue, List.append_nil] at hall
    rw [hall]

end

/-- The frame of an alive check request, as the entity would send it. -/
def aliveCheckFrame : List UInt8 := [0x02, 0xFD, 0x00, 0x07, 0x00, 0x00, 0x00, 0x00]

/-- The client connects, an alive check arrives, and its answer is written in two parts. -/
def answeredCheck : List StackMove :=
  [.outside (.issue (.bindSocket ⟨13400⟩)), .choose .control, .turn (.ok ()),
    .socket (.read (.ok aliveCheckFrame)), .socket .next, .socket .deliver,
    .choose (.socket (.message aliveCheckRequest)), .turn (.ok ()), .socket .next, .socket .take,
    .socket (.write 4), .socket (.write 6), .socket .flush]

/-- The client received what arrived, and what it handed over is on the wire, behind the two
writes. -/
theorem stack_faithful_check :
    letI := plainWire
    letI := plainFramed Incomplete
    ∃ st t,
      run (Stack.step releaseTarget) (start Incomplete testerOptions) answeredCheck = some st ∧
      st.socket = some t ∧ t.written.length = 10 ∧
      t.written <+: framesOf Incomplete (handedMessages (sinceBind st.world.log)) ∧
      receivedMessages (sinceBind st.world.log) ++ st.inHand =
        (passedOn Incomplete (bytesRead st.reads) (endRead st.reads)).map incomingResult := by
  let := plainWire
  let := plainFramed Incomplete
  have h : ∃ st t,
      run (Stack.step releaseTarget) (start Incomplete testerOptions) answeredCheck = some st ∧
      st.socket = some t ∧ t.written.length = 10 ∧ t.phase = .selecting ∧ t.reader.NeedsRead ∧
      t.incoming.queue = [] :=
    exists_of_any_part Stack.socket (by decide +kernel)
  obtain ⟨st, t, hrun, hsocket, hwritten, hphase, hneeds, hqueue⟩ := h
  obtain ⟨-, hpre, -, -, hall⟩ := stack_faithful hrun hsocket
  exact ⟨st, t, hrun, hsocket, hwritten, hpre, hall hphase hneeds hqueue⟩

end Stack

end SimpleDoip
