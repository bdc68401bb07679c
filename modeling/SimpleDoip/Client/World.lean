import SimpleDoip.Client.Turn
import SimpleDoip.Lib.Transition

/-!
# Runs of the client

The inner task runs among its users, its socket and the clock. `World` is the task with its
channels: the requests issued so far, of which the first `taken` have left the control channel, the
callers that have dropped their receivers, the update channel and the time. An `Action` is one thing
that happens, in any order: a user issues a request or gives one up, time passes, or the loop makes
a turn on a branch that is ready, with whatever the socket delivers and however it takes a message.
The log keeps what the task took, received and did.

A turn is one step. A task that waits for room in the update channel has not finished its turn; one
that waits for room in the socket's channel makes the turn once there is room.

Results over `World` say what holds whenever a turn is made. That a turn will be made, and that a
request will be taken and answered, depends on the socket task, which may itself wait for the inner
one. Such results are stated over `Stack`, where both tasks run, from `Session.Progress` on.
-/

namespace SimpleDoip

open Transition

/-- Capacity of the control channel and of the update channel, both `mpsc::channel(16)`. -/
def CHANNEL_CAP : Nat := 16

/-- Where the task is: at its `select!`, inside `update_sender.send(..).await` with the message it
wants to pass on, or behind the loop, by its own end or by a panic. -/
inductive Phase where
  | loopHead
  | updateBlocked (message : OwnedMessage)
  | exited
  | panicked (panic : Panic)
deriving DecidableEq

/-- What the log keeps: that a request was taken from the control channel, what was received from
the socket, and what the task did to the outside. -/
inductive Entry where
  | taken (request : Nat)
  | received (message : Except Error OwnedMessage)
  | did (effect : Effect)
deriving DecidableEq

/-- What `SocketManager::receive` returns: a message, an error that is not looked at, or the end of
the channel. -/
inductive Incoming where
  | message (message : OwnedMessage)
  | failed
  | closed
deriving DecidableEq

/-- The branches of `select!`. Which one is taken is up to the run, so that the model has every
order in which ready branches can be polled. -/
inductive Branch where
  | deadline
  | control
  | socket (incoming : Incoming)
deriving DecidableEq

/-- The task with what surrounds it. `requests` are all that were ever issued, so that the number of
a request is its place there, and the first `taken` of them have left the channel. -/
structure World where
  inner : Inner
  phase : Phase
  requests : List Request
  taken : Nat
  dropped : List Nat
  updates : List OwnedMessage
  controlOpen : Bool
  updatesOpen : Bool
  clock : Nat
  log : List Entry

/-- One thing that happens. A turn comes with whether the socket takes messages and what
establishing a connection would come to. -/
inductive Action where
  | issue (request : Request)
  | abandon (request : Nat)
  | wait (duration : Nat)
  | closeControl
  | readUpdate
  | dropUpdates
  | turn (branch : Branch) (socketOpen : Bool) (connect : Except Error Unit)
  | resume
deriving DecidableEq

/-- `receive_socket`, which never resolves without a socket. Both an error of the socket and the end
of its channel come out as `SocketClosedUnexpectedly`. -/
def receiveSocket : Option SocketManager → Incoming → Option (Except Error OwnedMessage)
  | none, _ => none
  | some _, .message m => some (.ok m)
  | some _, .failed => some (.error .socketClosedUnexpectedly)
  | some _, .closed => some (.error .socketClosedUnexpectedly)

/-- What `receive_socket` makes of what the socket delivers, given that there is a socket. -/
def Incoming.result : Incoming → Except Error OwnedMessage
  | .message m => .ok m
  | .failed | .closed => .error .socketClosedUnexpectedly

/-- The log entry of a selected branch: the request it takes, or what it received. The deadline
branch leaves its mark by the answer it gives. -/
def Select.entries : Select → List Entry
  | .deadline => []
  | .control message => [.taken message.response]
  | .socket message => [.received message]

/-- How many requests a selected branch takes from the control channel: one on the control branch,
none on the others. -/
def Select.takes : Select → Nat
  | .control _ => 1
  | _ => 0

/-- The task a turn leaves, whether it came to its end or panicked on the way. -/
def resultTask : EStateM.Result Panic Task Processed → Task
  | .ok _ t => t
  | .error _ t => t

namespace World

/-- A freshly spawned task, as `Inner::spawn` makes it: no socket, nothing active, nothing buffered,
and both channels open and empty. -/
def start (options : ClientOptions) : World where
  inner := {
    clientOptions := options, activeRequest := none, awaitResponseDeadline := none,
    tcpDataSocket := none, pendingDiagnosticResponse := none }
  phase := .loopHead
  requests := []
  taken := 0
  dropped := []
  updates := []
  controlOpen := true
  updatesOpen := true
  clock := 0
  log := []

/-- What the task finds outside during a turn that happens now: the time and the dropped callers are
those of the world, the rest is up to the run. -/
def env (w : World) (socketOpen : Bool) (connect : Except Error Unit) : Env where
  now := w.clock
  socketOpen := socketOpen
  connect := connect
  dropped := fun request => decide (request ∈ w.dropped)

/-- What a branch selects, if it is ready: the deadline once it has passed and a request waits, the
next request in the control channel, or what the socket delivers. -/
def select (w : World) : Branch → Option Select
  | .deadline =>
    match w.inner.activeRequest, w.inner.awaitResponseDeadline with
    | some _, some deadline => if deadline ≤ w.clock then some .deadline else none
    | _, _ => none
  | .control => w.requests[w.taken]?.map fun request => .control (request.create w.taken)
  | .socket incoming => (receiveSocket w.inner.tcpDataSocket incoming).map .socket

/-- `update_sender.send(..).await`: without a receiver it fails and the task leaves its loop, and in
a full channel it waits for room. -/
def sendUpdate (w : World) (message : OwnedMessage) : World :=
  if ¬ w.updatesOpen then { w with phase := .exited }
  else if w.updates.length < CHANNEL_CAP then
    { w with updates := w.updates ++ [message], phase := .loopHead }
  else { w with phase := .updateBlocked message }

/-- The world with what a turn did: its state, the request it took, and its entries at the end of
the log. -/
def record (w : World) (select : Select) (t : Task) : World :=
  { w with
    inner := t.inner, taken := w.taken + select.takes,
    log := w.log ++ (select.entries ++ t.effects.map .did) }

/-- The world after a turn. A turn that wants to pass a message on is over only once the update
channel has taken it, so it may leave the task waiting for room. -/
def finish (w : World) (select : Select) : EStateM.Result Panic Task Processed → World
  | .ok .stay t => w.record select t
  | .ok .exit t => { w.record select t with phase := .exited }
  | .ok (.update message) t => (w.record select t).sendUpdate message
  | .error panic t => { w.record select t with phase := .panicked panic }

/-- The task is in its loop: at its `select!`, or waiting for room in the update channel within a
turn. -/
def InLoop (w : World) : Prop := w.phase = .loopHead ∨ ∃ m, w.phase = .updateBlocked m

instance (w : World) : Decidable w.InLoop :=
  match h : w.phase with
  | .loopHead => .isTrue (.inl h)
  | .updateBlocked m => .isTrue (.inr ⟨m, h⟩)
  | .exited => .isFalse fun hl => by rcases hl with hl | ⟨m, hl⟩ <;> rw [h] at hl <;> cases hl
  | .panicked p => .isFalse fun hl => by rcases hl with hl | ⟨m, hl⟩ <;> rw [h] at hl <;> cases hl

/-- One action, where it can happen. Requests can be issued only while the task is there and its
channel has room; a turn needs a branch that is ready, or a control channel that is closed and
empty. -/
def step (target : Target) (w : World) : Action → Option World
  | .issue request =>
    if w.InLoop ∧ w.controlOpen ∧ w.requests.length - w.taken < CHANNEL_CAP then
      some { w with requests := w.requests ++ [request] }
    else none
  | .abandon request =>
    if request < w.requests.length then some { w with dropped := request :: w.dropped } else none
  | .wait duration => some { w with clock := w.clock + duration }
  | .closeControl => some { w with controlOpen := false }
  | .readUpdate =>
    match w.updates with
    | [] => none
    | _ :: rest => some { w with updates := rest }
  | .dropUpdates => some { w with updates := [], updatesOpen := false }
  | .turn branch socketOpen connect =>
    if w.phase = .loopHead then
      match w.select branch with
      | some select =>
        some (w.finish select
          (SimpleDoip.turn target (w.env socketOpen connect) select ⟨w.inner, []⟩))
      | none =>
        -- a control channel that is closed and empty ends the loop
        if branch = .control ∧ ¬ w.controlOpen then some { w with phase := .exited } else none
    else none
  | .resume =>
    match w.phase with
    | .updateBlocked message =>
      if ¬ w.updatesOpen ∨ w.updates.length < CHANNEL_CAP then some (w.sendUpdate message) else none
    | _ => none

end World

/-! ## What a step can do -/

/-- Two worlds whose tasks have done the same: nothing was taken, received or done in between, and
more may have been issued. -/
structure SameTask (w w' : World) : Prop where
  inner : w'.inner = w.inner
  taken : w'.taken = w.taken
  log : w'.log = w.log
  requests : w.requests <+: w'.requests
  phase : w'.phase = w.phase ∨ w'.phase = .exited ∨ w.InLoop ∧ w'.InLoop

/-- A task that is in its loop after a step that left it alone was there before: no such step
restarts a task. -/
theorem SameTask.inLoop {w w' : World} (h : SameTask w w') (hloop : w'.InLoop) : w.InLoop := by
  rcases h.phase with hphase | hphase | hphase
  · rwa [World.InLoop, hphase] at hloop
  · rw [World.InLoop, hphase] at hloop
    rcases hloop with hloop | ⟨m, hloop⟩ <;> cases hloop
  · exact hphase.1

/-- At the head of the loop the active request, if there is one, is in a waiting state.
`handle_control_message` has dealt with every other kind by then. -/
def World.Waits (w : World) : Prop := w.InLoop → Waiting w.inner.activeRequest

/-- What a ready branch selects, with what makes it ready, one constructor for each branch. -/
inductive World.Selected (w : World) : Branch → Select → Prop where
  | deadline {request : ControlMessage} {deadline : Nat}
      (hactive : w.inner.activeRequest = some request)
      (hdeadline : w.inner.awaitResponseDeadline = some deadline) (hpast : deadline ≤ w.clock) :
      w.Selected .deadline .deadline
  | control {request : Request} (hrequest : w.requests[w.taken]? = some request) :
      w.Selected .control (.control (request.create w.taken))
  | socket {incoming : Incoming} (hsocket : w.inner.tcpDataSocket ≠ none) :
      w.Selected (.socket incoming) (.socket incoming.result)

/-- A branch is ready that needs nothing from the socket: a deadline that has passed, or a request
in the control channel, whose end counts as well. -/
def World.Offers (w : World) : Branch → Prop
  | .deadline => (w.select .deadline).isSome = true
  | .control => (w.select .control).isSome = true ∨ w.controlOpen = false
  | .socket _ => False

/-- The steps there are, each with the guard it needs and the world it leaves. Case analyses of a
step go by this relation rather than by the code of `World.step`. -/
inductive World.Moved (target : Target) (w : World) : Action → World → Prop where
  | issued {request : Request} (hloop : w.InLoop) (hopen : w.controlOpen = true)
      (hroom : w.requests.length - w.taken < CHANNEL_CAP) :
      w.Moved target (.issue request) { w with requests := w.requests ++ [request] }
  | abandoned {request : Nat} (hissued : request < w.requests.length) :
      w.Moved target (.abandon request) { w with dropped := request :: w.dropped }
  | waited (duration : Nat) :
      w.Moved target (.wait duration) { w with clock := w.clock + duration }
  | controlClosed : w.Moved target .closeControl { w with controlOpen := false }
  | updateRead {m : OwnedMessage} {rest : List OwnedMessage} (hupdates : w.updates = m :: rest) :
      w.Moved target .readUpdate { w with updates := rest }
  | updatesDropped :
      w.Moved target .dropUpdates { w with updates := [], updatesOpen := false }
  | turned {branch : Branch} {socketOpen : Bool} {connect : Except Error Unit} {select : Select}
      (hhead : w.phase = .loopHead) (hselect : w.select branch = some select) :
      w.Moved target (.turn branch socketOpen connect)
        (w.finish select (turn target (w.env socketOpen connect) select ⟨w.inner, []⟩))
  | ended {socketOpen : Bool} {connect : Except Error Unit} (hhead : w.phase = .loopHead)
      (hnone : w.select .control = none) (hclosed : ¬ w.controlOpen = true) :
      w.Moved target (.turn .control socketOpen connect) { w with phase := .exited }
  | resumed {m : OwnedMessage} (hphase : w.phase = .updateBlocked m)
      (hroom : ¬ w.updatesOpen = true ∨ w.updates.length < CHANNEL_CAP) :
      w.Moved target .resume (w.sendUpdate m)

/-- The event of `select!` that an action has the task deal with. Actions that are no turns have
none, and neither has the turn that finds the control channel closed. -/
def World.selected (w : World) : Action → Option Select
  | .turn branch _ _ => w.select branch
  | _ => none

/-- A step leaves the task alone and has it deal with nothing, or is a turn from the head of the
loop. -/
inductive Stepped (target : Target) (w : World) : Action → World → Prop where
  | idle {a : Action} {w' : World} (hsame : SameTask w w') (hnone : w.selected a = none) :
      Stepped target w a w'
  | turned {branch : Branch} {socketOpen : Bool} {connect : Except Error Unit} {select : Select}
      {r : EStateM.Result Panic Task Processed} (hhead : w.phase = .loopHead)
      (hselect : w.select branch = some select)
      (hturned : Turned target (w.env socketOpen connect) w.inner select r) :
      Stepped target w (.turn branch socketOpen connect) (w.finish select r)

namespace World

/-- **Inversion of a selection**: which guard of `select!` was met, and what the branch yielded. -/
theorem selected_of_select {w : World} {branch : Branch} {select : Select}
    (h : w.select branch = some select) : w.Selected branch select := by
  cases branch with
  | deadline =>
    simp only [World.select] at h
    split at h
    · next request deadline hactive hdeadline =>
      split at h
      · next hpast =>
        cases h
        exact .deadline hactive hdeadline hpast
      · cases h
    · cases h
  | control =>
    obtain ⟨request, hrequest, rfl⟩ := Option.map_eq_some_iff.mp h
    exact .control hrequest
  | socket incoming =>
    obtain ⟨message, hreceive, rfl⟩ := Option.map_eq_some_iff.mp h
    cases hsocket : w.inner.tcpDataSocket with
    | none =>
      rw [hsocket, receiveSocket] at hreceive
      cases hreceive
    | some s =>
      have hready : w.inner.tcpDataSocket ≠ none := by
        rw [hsocket]
        exact Option.some_ne_none s
      rw [hsocket] at hreceive
      cases incoming <;> cases hreceive <;> exact .socket hready

/-- A branch that was selected is ready in the sense that a turn relies on: a deadline finds a
request that waits, and a message finds a socket. -/
theorem ready_of_select {w : World} {branch : Branch} {select : Select}
    (h : w.select branch = some select) : select.Ready w.inner := by
  cases selected_of_select h with
  | deadline hactive =>
    rw [Select.Ready, hactive]
    exact Option.some_ne_none _
  | control hrequest => exact ⟨_, w.taken, rfl⟩
  | socket hsocket => exact hsocket

/-- The socket branch is selected only with a socket, and yields what `receive_socket` makes of what
was delivered. -/
theorem select_socket {w : World} {incoming : Incoming} {select : Select}
    (h : w.select (.socket incoming) = some select) :
    w.inner.tcpDataSocket ≠ none ∧ select = .socket incoming.result := by
  cases selected_of_select h with
  | socket hsocket => exact ⟨hsocket, rfl⟩

/-- What takes a request is the control branch, and it takes the next one in the order in which they
were issued. -/
theorem select_control {w : World} {branch : Branch} {message : ControlMessage}
    (h : w.select branch = some (.control message)) :
    branch = .control ∧ ∃ request, w.requests[w.taken]? = some request ∧
      message = request.create w.taken := by
  cases selected_of_select h with
  | control hrequest => exact ⟨rfl, _, hrequest, rfl⟩

theorem sameTask_sendUpdate {w : World} (m : OwnedMessage) (h : w.InLoop) :
    SameTask w (w.sendUpdate m) := by
  rw [sendUpdate]
  split
  · exact ⟨rfl, rfl, rfl, List.prefix_rfl, .inr (.inl rfl)⟩
  · split
    · exact ⟨rfl, rfl, rfl, List.prefix_rfl, .inr (.inr ⟨h, .inl rfl⟩)⟩
    · exact ⟨rfl, rfl, rfl, List.prefix_rfl, .inr (.inr ⟨h, .inr ⟨m, rfl⟩⟩)⟩

/-- **Inversion of a step**: which of the steps of `World.Moved` it was. -/
theorem moved_of_step {target : Target} {w w' : World} {a : Action}
    (h : w.step target a = some w') : w.Moved target a w' := by
  cases a with
  | issue request =>
    rw [step] at h
    split at h
    · next hguard =>
      cases h
      exact .issued hguard.1 hguard.2.1 hguard.2.2
    · cases h
  | abandon request =>
    rw [step] at h
    split at h
    · next hissued =>
      cases h
      exact .abandoned hissued
    · cases h
  | wait duration =>
    cases h
    exact .waited duration
  | closeControl =>
    cases h
    exact .controlClosed
  | readUpdate =>
    simp only [step] at h
    split at h
    · cases h
    · next hupdates =>
      cases h
      exact .updateRead hupdates
  | dropUpdates =>
    cases h
    exact .updatesDropped
  | turn branch socketOpen connect =>
    simp only [step] at h
    split at h
    · next hhead =>
      split at h
      · next select hselect =>
        cases h
        exact .turned hhead hselect
      · next hnone =>
        split at h
        · next hclosed =>
          obtain ⟨rfl, hclosed⟩ := hclosed
          cases h
          exact .ended hhead hnone hclosed
        · cases h
    · cases h
  | resume =>
    simp only [step] at h
    split at h
    · next m hphase =>
      split at h
      · next hroom =>
        cases h
        exact .resumed hphase hroom
      · cases h
    · cases h

/-- What is issued goes to the end of the control channel, and nothing else changes. -/
theorem eq_of_step_issue {target : Target} {w w' : World} {request : Request}
    (h : w.step target (.issue request) = some w') :
    w' = { w with requests := w.requests ++ [request] } := by
  cases moved_of_step h with
  | issued => rfl

/-- A turn on a branch that is ready always happens, and leaves what the code of the turn makes of
it. -/
theorem step_turn (target : Target) {w : World} {branch : Branch} {select : Select}
    (hhead : w.phase = .loopHead) (hselect : w.select branch = some select) (socketOpen : Bool)
    (connect : Except Error Unit) :
    w.step target (.turn branch socketOpen connect) = some (w.finish select
      (turn target (w.env socketOpen connect) select ⟨w.inner, []⟩)) := by
  simp only [step, hhead, if_true, hselect]

/-- A turn happens at the head of the loop, on a branch that is ready; or it finds the control
channel closed and empty, and ends the loop. -/
theorem of_step_turn {target : Target} {w w' : World} {branch : Branch} {socketOpen : Bool}
    {connect : Except Error Unit} (h : w.step target (.turn branch socketOpen connect) = some w') :
    w.phase = .loopHead ∧
      ((∃ select, w.select branch = some select ∧ w' = w.finish select
          (SimpleDoip.turn target (w.env socketOpen connect) select ⟨w.inner, []⟩)) ∨
        w.select branch = none ∧ branch = .control ∧ ¬ w.controlOpen = true ∧
          w' = { w with phase := .exited }) := by
  cases moved_of_step h with
  | turned hhead hselect => exact ⟨hhead, .inl ⟨_, hselect, rfl⟩⟩
  | ended hhead hnone hclosed => exact ⟨hhead, .inr ⟨hnone, rfl, hclosed, rfl⟩⟩

/-- **The two kinds of steps.** Each leaves the task alone, or is a turn from the head of the loop
with one of the outcomes of `Turned`. -/
theorem step_cases {target : Target} {w w' : World} {a : Action} (hw : w.Waits)
    (h : w.step target a = some w') : Stepped target w a w' := by
  cases moved_of_step h with
  | issued => exact .idle ⟨rfl, rfl, rfl, List.prefix_append _ _, .inl rfl⟩ rfl
  | abandoned | waited | controlClosed | updateRead | updatesDropped =>
    exact .idle ⟨rfl, rfl, rfl, List.prefix_rfl, .inl rfl⟩ rfl
  | turned hhead hselect =>
    exact .turned hhead hselect (turn_spec _ _ (hw (.inl hhead)) (ready_of_select hselect))
  | ended hhead hnone => exact .idle ⟨rfl, rfl, rfl, List.prefix_rfl, .inr (.inl rfl)⟩ hnone
  | resumed hphase => exact .idle (sameTask_sendUpdate _ (.inr ⟨_, hphase⟩)) rfl

/-- Sending an update touches nothing but the update channel and the phase, whichever of its three
outcomes it has. -/
theorem sendUpdate_eq (w : World) (m : OwnedMessage) :
    ∃ updates phase, w.sendUpdate m = { w with updates, phase } := by
  rw [sendUpdate]
  split
  · exact ⟨w.updates, .exited, rfl⟩
  · split
    · exact ⟨w.updates ++ [m], .loopHead, rfl⟩
    · exact ⟨w.updates, .updateBlocked m, rfl⟩

/-- The world after a turn is the record of it, up to the update channel and the phase. What
concerns neither of these can be read off the record. -/
theorem finish_eq (w : World) (select : Select) (r : EStateM.Result Panic Task Processed) :
    ∃ updates phase,
      w.finish select r = { w.record select (resultTask r) with updates, phase } := by
  cases r with
  | error panic t => exact ⟨w.updates, .panicked panic, rfl⟩
  | ok r t =>
    cases r with
    | stay => exact ⟨w.updates, w.phase, rfl⟩
    | exit => exact ⟨w.updates, .exited, rfl⟩
    | update m => exact (w.record select t).sendUpdate_eq m

@[simp] theorem finish_inner (w : World) (select : Select)
    (r : EStateM.Result Panic Task Processed) :
    (w.finish select r).inner = (resultTask r).inner := by
  obtain ⟨updates, phase, h⟩ := w.finish_eq select r
  rw [h]
  rfl

@[simp] theorem finish_taken (w : World) (select : Select)
    (r : EStateM.Result Panic Task Processed) :
    (w.finish select r).taken = w.taken + select.takes := by
  obtain ⟨updates, phase, h⟩ := w.finish_eq select r
  rw [h]
  rfl

@[simp] theorem finish_log (w : World) (select : Select)
    (r : EStateM.Result Panic Task Processed) :
    (w.finish select r).log =
      w.log ++ (select.entries ++ (resultTask r).effects.map .did) := by
  obtain ⟨updates, phase, h⟩ := w.finish_eq select r
  rw [h]
  rfl

@[simp] theorem finish_requests (w : World) (select : Select)
    (r : EStateM.Result Panic Task Processed) :
    (w.finish select r).requests = w.requests := by
  obtain ⟨updates, phase, h⟩ := w.finish_eq select r
  rw [h]
  rfl

@[simp] theorem finish_controlOpen (w : World) (select : Select)
    (r : EStateM.Result Panic Task Processed) :
    (w.finish select r).controlOpen = w.controlOpen := by
  obtain ⟨updates, phase, h⟩ := w.finish_eq select r
  rw [h]
  rfl

/-- A turn that ended in the loop did not panic, so that its result is that of the code. -/
theorem exists_ok_of_inLoop {w : World} {select : Select}
    {r : EStateM.Result Panic Task Processed} (h : (w.finish select r).InLoop) :
    ∃ p t, r = .ok p t := by
  cases r with
  | ok p t => exact ⟨p, t, rfl⟩
  | error panic t => rcases h with h | ⟨m, h⟩ <;> cases h

end World

section
variable {target : Target} {options : ClientOptions} {actions : List Action} {w w' : World}

theorem World.Waits.step {a : Action} (hw : w.Waits) (h : w.step target a = some w') :
    w'.Waits := by
  intro hloop
  cases World.step_cases hw h with
  | idle hsame =>
    rw [hsame.inner]
    exact hw (hsame.inLoop hloop)
  | turned hhead hselect hturned =>
    obtain ⟨p, t, rfl⟩ := World.exists_ok_of_inLoop hloop
    rw [World.finish_inner]
    exact hturned.waiting (hw (.inl hhead))

/-- In every run, the active request at the head of the loop waits, so that `Turned` applies to
every turn. -/
theorem World.waits_of_run (hrun : run (World.step target) (World.start options) actions = some w) :
    w.Waits :=
  run_invariant (P := World.Waits) (fun _ _ _ h hw => hw.step h) hrun fun _ => .none

/-- **The invariant rule of a client**, for runs whose steps all meet `G`: it is enough to look at
steps that leave the task alone and at turns. -/
theorem World.run_invariant_along {P : World → Prop} {G : World → Action → Prop}
    (hidle : ∀ w w', SameTask w w' → P w → P w')
    (hturn : ∀ w branch socketOpen connect select r, w.phase = .loopHead →
      Waiting w.inner.activeRequest → w.select branch = some select →
      G w (.turn branch socketOpen connect) →
      Turned target (w.env socketOpen connect) w.inner select r → P w → P (w.finish select r))
    (hstart : P (World.start options))
    (hG : Along (World.step target) G (World.start options) actions)
    (hrun : run (World.step target) (World.start options) actions = some w) : P w := by
  have h := Transition.run_invariant_along (P := fun w => w.Waits ∧ P w) (G := G)
    ?_ hG hrun ⟨fun _ => .none, hstart⟩
  · exact h.2
  · intro w a w' hGa hstep hw
    refine ⟨hw.1.step hstep, ?_⟩
    cases World.step_cases hw.1 hstep with
    | idle hsame => exact hidle w w' hsame hw.2
    | turned hhead hselect hturned =>
      exact hturn w _ _ _ _ _ hhead (hw.1 (.inl hhead)) hselect hGa hturned hw.2

/-- **The invariant rule of a client**: what steps that leave the task alone keep, and what every
outcome of a turn keeps, holds in every run. -/
theorem World.run_invariant {P : World → Prop}
    (hidle : ∀ w w', SameTask w w' → P w → P w')
    (hturn : ∀ w branch socketOpen connect select r, w.phase = .loopHead →
      Waiting w.inner.activeRequest → w.select branch = some select →
      Turned target (w.env socketOpen connect) w.inner select r → P w → P (w.finish select r))
    (hstart : P (World.start options))
    (hrun : run (World.step target) (World.start options) actions = some w) : P w :=
  World.run_invariant_along (G := fun _ _ => True) hidle
    (fun w b so c s r hhead hwaiting hselect _ => hturn w b so c s r hhead hwaiting hselect)
    hstart (along_true _ _) hrun

/-- A turn leaves the options alone: the task never writes `client_options`. -/
theorem Turned.clientOptions {env : Env} {i : Inner} {select : Select}
    {r : EStateM.Result Panic Task Processed} (h : Turned target env i select r) :
    (resultTask r).inner.clientOptions = i.clientOptions := by
  cases h with
  | replied | passed | unheeded =>
    simp only [resultTask, Inner.afterAlive]
    split <;> rfl
  | _ => rfl

/-- In every run, the options are those the task was started with. -/
theorem World.clientOptions_of_run
    (hrun : run (World.step target) (World.start options) actions = some w) :
    w.inner.clientOptions = options := by
  refine World.run_invariant (P := fun w => w.inner.clientOptions = options) ?_ ?_ rfl hrun
  · intro w w' hsame hw
    rw [hsame.inner]
    exact hw
  · intro w branch socketOpen connect select r hhead hwaiting hselect hturned hw
    rw [World.finish_inner, hturned.clientOptions]
    exact hw

end

end SimpleDoip
