import SimpleDoip.Client.Activation
import SimpleDoip.Client.SilentPeer
import SimpleDoip.Client.Updates
import SimpleDoip.Client.Deadlines
import SimpleDoip.Session.Network

/-!
# The client's interface

A `Client` is the two ends that its inner task does not hold: the sender of the control channel and
the receiver of the update channel. Its methods borrow it for as long as they run, so that there is
at most one call at a time; but a caller may drop the future of a call at any of its awaits, and
then make another. `Facade` is a client with the call underway, beside the inner task. A
`FacadeMove` is a call, a poll of it, its cancellation, or one action of the task.

The calls start with `connect`, of which the client comes, and end with `shut_down` or a drop. What
a method returns is kept in `results`.
-/

namespace SimpleDoip

open Transition

/-! ## Calls -/

/-- Errors of the interface: those of the inner task, and `SendError` where the control channel has
no receiver any more. -/
inductive ClientError where
  | task (e : Error)
  | sendError (reason : String)
deriving DecidableEq

/-- What a call of the client returns, or that it panicked, which `unbind_socket` does where the
task is gone. -/
inductive CallResult where
  | connected (result : Except Error Unit)
  | done (result : Except ClientError Unit)
  | message (result : Except ClientError OwnedMessage)
  | reconnected (result : Except Error (Option OwnedMessage))
  | shutDown
  | panicked
deriving DecidableEq

/-- The methods that make one request and await its response. They differ in the request and in what
they make of the answer. -/
inductive Method where
  | call (call : Call)
  | unbindSocket
deriving DecidableEq

/-- The text of the error that sending into a channel without a receiver gives, which `SendError`
carries. -/
def CHANNEL_CLOSED : String := "channel closed"

/-- How long `reconnect` looks for a message in flight: 5 s from the moment its bind came back. -/
def IN_FLIGHT_TIMEOUT : Nat := 5 * 10 ^ 9

namespace Method

/-- The request a method makes, if its message can be constructed. A message that overruns the
length field makes the constructor panic. -/
def request (ι : Type) [WireCodec ι] (options : ClientOptions) : Method → Option Request
  | .call c => c.request ι options
  | .unbindSocket => some .unbindSocket

/-- What a method returns if the control channel has no receiver. `unbind_socket` unwraps the error,
and panics. -/
def unsent : Method → CallResult
  | .call (.sendDiagnosticMessage _ _) => .done (.error (.sendError CHANNEL_CLOSED))
  | .call (.receiveDiagnosticResponse _) => .message (.error (.sendError CHANNEL_CLOSED))
  | .unbindSocket => .panicked

/-- What a method returns if its response channel is closed, because the task has ended without an
answer. `unbind_socket` panics here, too. -/
def unanswered : Method → CallResult
  | .call (.sendDiagnosticMessage _ _) => .done (.error (.task .connectionClosed))
  | .call (.receiveDiagnosticResponse _) => .message (.error (.task .connectionClosed))
  | .unbindSocket => .panicked

/-- What a method returns on an answer, which has the type of its response channel, so that no other
answer occurs. -/
def answered : Method → Answer → Option CallResult
  | .call (.sendDiagnosticMessage _ _), .done result => some (.done (result.mapError .task))
  | .call (.receiveDiagnosticResponse _), .message result =>
    some (.message (result.mapError .task))
  | .unbindSocket, .done result => some (.done (result.mapError .task))
  | _, _ => none

end Method

/-- Where the client is: without a call, at the start of one, at one of the awaits of one, or
gone. -/
inductive CallState where
  | idle
  | begun (method : Method)
  | awaiting (method : Method) (response : Nat)
  | connecting (call : BindCall)
  | reconnecting (call : BindCall)
  | inFlight (deadline : Nat)
  | shuttingDown
  | draining
  | gone
deriving DecidableEq

/-- The oneshot receiver a call of `bind_socket` holds, from when its request was sent until it goes
on with the answer. -/
def BindCall.receiver : BindCall → Option Nat
  | .awaitingBind response | .activationSent _ response | .awaitingActivation _ response _ =>
    some response
  | .begun | .returned _ => none

/-- The receiver a call has given up on its way from `call` to `call'`, if it holds another one
then, or none. -/
def BindCall.leaves (call call' : BindCall) : Option Nat :=
  if call'.receiver = call.receiver then none else call.receiver

/-- The oneshot receiver the call underway holds. If the call is cancelled, this receiver is
dropped. -/
def CallState.receiver : CallState → Option Nat
  | .awaiting _ response => some response
  | .connecting call | .reconnecting call => call.receiver
  | _ => none

/-- Whether the call underway borrows the client, which is there again after the call. `connect` and
`shut_down` own what there is of it. -/
def CallState.borrows : CallState → Bool
  | .begun _ | .awaiting _ _ | .reconnecting _ | .inFlight _ => true
  | _ => false

/-- An action of the inner task or of time. The other actions are what the client does to the world
through its calls. -/
def Action.ofTask : Action → Bool
  | .wait _ | .turn _ _ _ | .resume => true
  | _ => false

/-- A client and its task: the world of the task, the call underway, and the results of the calls so
far, oldest first. -/
structure Facade where
  world : World
  underway : CallState
  results : List CallResult

/-- One thing that happens to a client: its user makes, polls or cancels a call or drops the client,
or something happens to the task. -/
inductive FacadeMove where
  | call (method : Method)
  | reconnect
  | shutDown
  | drop
  | poll
  | cancel
  | task (action : Action)

namespace World

/-- Drop a oneshot receiver, if there is one. The task will find out when it answers. -/
def dropReceiver (target : Target) (w : World) : Option Nat → Option World
  | some response => w.step target (.abandon response)
  | none => some w

/-- Drop both ends of a client: the sender of the control channel and the receiver of the update
channel, with what is in it. -/
def dropClient (w : World) : World :=
  { w with controlOpen := false, updates := [], updatesOpen := false }

end World

namespace Facade

section
variable (ι : Type) [WireCodec ι] (target : Target) (options : BindOptions) (f : Facade)

/-- The client at its start: `connect` has spawned the inner task and is about to bind. -/
def start : Facade := ⟨World.start options.inner, .connecting .begun, []⟩

/-- The call comes back with a result, and the client is there for the next one. -/
def back (world : World) (result : CallResult) : Facade :=
  ⟨world, .idle, f.results ++ [result]⟩

/-- The call comes back with a result and without a client: `connect` failed, or the client was shut
down. -/
def last (world : World) (result : CallResult) : Facade :=
  ⟨world, .gone, f.results ++ [result]⟩

/-- `Client::bind_socket` inside another call, polled once: `next` is where the call goes while it
runs, `returned` what follows. A receiver that is not held any more is dropped. -/
def pollBind (call : BindCall) (next : BindCall → CallState)
    (returned : World → Except Error UInt16 → Facade) : Option Facade := do
  let b ← Binding.poll ι target options ⟨f.world, call⟩
  let world ← b.world.dropReceiver target (call.leaves b.call)
  match b.call with
  | .returned result => return returned world result
  | call => return { f with world, underway := next call }

/-- `connect` behind its `bind_socket`: a client, or the error, with both ends of the channels
dropped. -/
def connectBound (world : World) : Except Error UInt16 → Facade
  | .ok _ => f.back world (.connected (.ok ()))
  | .error e => f.last world.dropClient (.connected (.error e))

/-- `reconnect` behind its `bind_socket`: it looks for a message in flight, or returns the error
with the client still there. -/
def reconnectBound (world : World) : Except Error UInt16 → Facade
  | .ok _ => { f with world, underway := .inFlight (world.clock + IN_FLIGHT_TIMEOUT) }
  | .error e => f.back world (.reconnected (.error e))

/-- Poll the call underway. There is no step where the call has to wait, so that a run has a poll
only where the call gets on. -/
def poll : Option Facade :=
  match f.underway with
  | .idle | .gone => none
  | .begun method =>
    match method.request ι options.inner with
    | none => some (f.back f.world .panicked)
    | some request =>
      if f.world.InLoop then
        (f.world.step target (.issue request)).map fun world =>
          { f with world, underway := .awaiting method f.world.requests.length }
      else some (f.back f.world method.unsent)
  | .awaiting method response =>
    match f.world.pollResponse response with
    | .pending => none
    | .closed => some (f.back f.world method.unanswered)
    | .value answer => (method.answered answer).map (f.back f.world)
  | .connecting call => f.pollBind ι target options call .connecting f.connectBound
  | .reconnecting call => f.pollBind ι target options call .reconnecting f.reconnectBound
  | .inFlight deadline =>
    match f.world.updates with
    | message :: _ =>
      (f.world.step target .readUpdate).map fun world =>
        f.back world (.reconnected (.ok (some message)))
    | [] =>
      if ¬ f.world.InLoop ∨ deadline ≤ f.world.clock then
        some (f.back f.world (.reconnected (.ok none)))
      else none
  | .shuttingDown =>
    (f.world.step target .closeControl).map fun world =>
      { f with world, underway := .draining }
  | .draining =>
    match f.world.updates with
    | _ :: _ => (f.world.step target .readUpdate).map fun world => { f with world }
    | [] => if f.world.InLoop then none else some (f.last f.world .shutDown)

/-- Drop the future of the call underway: the receiver it holds is dropped, and the client with it
where the call owns it. -/
def cancel : Option Facade :=
  match f.underway with
  | .idle | .gone => none
  | .begun _ | .inFlight _ => some { f with underway := .idle }
  | .awaiting _ _ | .reconnecting _ =>
    (f.world.dropReceiver target f.underway.receiver).map fun world =>
      { f with world, underway := .idle }
  | .connecting _ =>
    (f.world.dropReceiver target f.underway.receiver).map fun world =>
      { f with world := world.dropClient, underway := .gone }
  | .shuttingDown | .draining => some { f with world := f.world.dropClient, underway := .gone }

/-- One move, where it can happen. A client has one call at a time, as every method borrows it
mutably or consumes it. -/
def step : FacadeMove → Option Facade
  | .call method => if f.underway = .idle then some { f with underway := .begun method } else none
  | .reconnect =>
    if f.underway = .idle then some { f with underway := .reconnecting .begun } else none
  | .shutDown => if f.underway = .idle then some { f with underway := .shuttingDown } else none
  | .drop =>
    if f.underway = .idle then some { f with world := f.world.dropClient, underway := .gone }
    else none
  | .poll => f.poll ι target options
  | .cancel => f.cancel target
  | .task action =>
    if action.ofTask then (f.world.step target action).map fun world => { f with world } else none

end

end Facade

/-! ## What a poll of `bind_socket` can do -/

section
variable {ι : Type} [WireCodec ι] {target : Target} {options : BindOptions}

variable (target options) in
/-- Everything a poll of `bind_socket` can come to, with what it finds: one constructor for each way
the call goes on or returns. -/
inductive BindCall.Advanced (w : World) : BindCall → World → BindCall → Prop where
  | bindIssued {w' : World} (hloop : w.InLoop)
      (hissue : w.step target (.issue (.bindSocket options.serverAddress)) = some w') :
      Advanced w .begun w' (.awaitingBind w.requests.length)
  | bindUnsent (hended : ¬ w.InLoop) : Advanced w .begun w
      (.returned (.error (.bindFailed "Could not send BindSocket message to inner client")))
  | activationIssued {response : Nat} {port : UInt16} {message : OwnedMessage} {w' : World}
      (hanswer : answerTo w.log response = some (.port (.ok port)))
      (hrouting : options.routingActivationOptions ≠ none) (hloop : w.InLoop)
      (hissue : w.step target (.issue (.routingActivation message)) = some w') :
      Advanced w (.awaitingBind response) w' (.activationSent port w.requests.length)
  | activationUnsent {response : Nat} {port : UInt16}
      (hanswer : answerTo w.log response = some (.port (.ok port))) (hended : ¬ w.InLoop) :
      Advanced w (.awaitingBind response) w (.returned (.error .routingActivationFailed))
  | bound {response : Nat} {port : UInt16}
      (hanswer : answerTo w.log response = some (.port (.ok port)))
      (hrouting : options.routingActivationOptions = none) :
      Advanced w (.awaitingBind response) w (.returned (.ok port))
  | bindFailed {response : Nat} {e : Error}
      (hanswer : answerTo w.log response = some (.port (.error e))) :
      Advanced w (.awaitingBind response) w (.returned (.error e))
  | bindClosed {response : Nat} (hanswer : answerTo w.log response = none)
      (hended : ¬ w.InLoop) : Advanced w (.awaitingBind response) w
        (.returned (.error (.bindFailed "Connection task terminated unexpectedly")))
  | timed (port : UInt16) (response : Nat) : Advanced w (.activationSent port response) w
      (.awaitingActivation port response (w.clock + TCP_TIMEOUT_INITIAL_INACTIVITY))
  | activated {port : UInt16} {response deadline : Nat} {m : OwnedMessage}
      (hanswer : answerTo w.log response = some (.message (.ok m))) :
      Advanced w (.awaitingActivation port response deadline) w
        (.returned (activationResult port m))
  | activationFailed {port : UInt16} {response deadline : Nat} {e : Error}
      (hanswer : answerTo w.log response = some (.message (.error e))) :
      Advanced w (.awaitingActivation port response deadline) w (.returned (.error e))
  | activationTolerated {port : UInt16} {response deadline : Nat}
      (hanswer : answerTo w.log response = none) (hover : ¬ w.InLoop ∨ deadline ≤ w.clock) :
      Advanced w (.awaitingActivation port response deadline) w (.returned (.ok port))

/-- What polling a receiver says about the task: an answer is in the log, and without one the task
is in its loop or has ended. -/
def World.Found (w : World) (response : Nat) : Polled → Prop
  | .pending => answerTo w.log response = none ∧ w.InLoop
  | .closed => answerTo w.log response = none ∧ ¬ w.InLoop
  | .value answer => answerTo w.log response = some answer

/-- **Inversion of a poll of a receiver**: what was found holds of the world. -/
theorem World.of_pollResponse {w : World} {response : Nat} {polled : Polled}
    (h : w.pollResponse response = polled) : w.Found response polled := by
  subst h
  cases hanswer : answerTo w.log response with
  | some answer =>
    rw [World.pollResponse_some hanswer]
    exact hanswer
  | none =>
    rw [World.pollResponse_none hanswer]
    by_cases hloop : w.InLoop
    · rw [if_pos hloop]
      exact ⟨hanswer, hloop⟩
    · rw [if_neg hloop]
      exact ⟨hanswer, hloop⟩

/-- Sending issues the request to a task in its loop, or finds that there is no task and ends the
call. -/
theorem Binding.send_inv {b b' : Binding} {request : Request} {failure : Error}
    {next : Nat → BindCall} (h : b.send target request failure next = some b') :
    (b.world.InLoop ∧ ∃ world, b.world.step target (.issue request) = some world ∧
      b' = ⟨world, next b.world.requests.length⟩) ∨
    (¬ b.world.InLoop ∧ b' = ⟨b.world, .returned (.error failure)⟩) := by
  rw [send] at h
  split at h
  · next hloop =>
    obtain ⟨world, hstep, rfl⟩ := Option.map_eq_some_iff.mp h
    exact .inl ⟨hloop, world, hstep, rfl⟩
  · next hended =>
    cases h
    exact .inr ⟨hended, rfl⟩

/-- **Inversion of a poll of `bind_socket`**: which of the ways of `BindCall.Advanced` it was. -/
theorem BindCall.advanced_of_poll {w w' : World} {call call' : BindCall}
    (h : Binding.poll ι target options ⟨w, call⟩ = some ⟨w', call'⟩) :
    call.Advanced target options w w' call' := by
  cases call with
  | begun =>
    rcases Binding.send_inv h with ⟨hloop, world, hissue, heq⟩ | ⟨hended, heq⟩
    · cases heq
      exact .bindIssued hloop hissue
    · cases heq
      exact .bindUnsent hended
  | awaitingBind response =>
    rw [Binding.poll] at h
    rcases hpolled : w.pollResponse response with _ | _ | (e | port) | result | result <;>
      simp only [hpolled] at h <;> have hfound := World.of_pollResponse hpolled
    · cases h
    · cases h
      exact .bindClosed hfound.1 hfound.2
    · cases h
      exact .bindFailed hfound
    · split at h
      · next routing hrouting =>
        obtain ⟨message, -, h⟩ := Option.bind_eq_some_iff.mp h
        rcases Binding.send_inv h with ⟨hloop, world, hissue, heq⟩ | ⟨hended, heq⟩
        · cases heq
          have hsome : options.routingActivationOptions ≠ none := by
            rw [hrouting]
            exact Option.some_ne_none _
          exact .activationIssued hfound hsome hloop hissue
        · cases heq
          exact .activationUnsent hfound hended
      · next hrouting =>
        cases h
        exact .bound hfound hrouting
    · cases h
    · cases h
  | activationSent port response =>
    cases h
    exact .timed port response
  | awaitingActivation port response deadline =>
    rw [Binding.poll] at h
    rcases hpolled : w.pollResponse response with _ | _ | result | result | (e | m) <;>
      simp only [hpolled] at h <;> have hfound := World.of_pollResponse hpolled
    · split at h
      · next hpast =>
        cases h
        exact .activationTolerated hfound.1 (.inr hpast)
      · cases h
    · cases h
      exact .activationTolerated hfound.1 (.inl hfound.2)
    · cases h
    · cases h
    · cases h
      exact .activationFailed hfound
    · cases h
      exact .activated hfound
  | returned => cases h

/-- Actions that are none of the task's take one world to another. This is what a move of the client
amounts to for the task. -/
def World.UserRun (target : Target) (w w' : World) : Prop :=
  ∃ actions, (∀ a ∈ actions, Action.ofTask a = false) ∧
    run (World.step target) w actions = some w'

theorem World.UserRun.refl (w : World) : w.UserRun target w :=
  ⟨[], fun _ ha => absurd ha List.not_mem_nil, rfl⟩

theorem World.UserRun.step {w w' w'' : World} {a : Action} (h : w.UserRun target w')
    (ha : a.ofTask = false) (hstep : w'.step target a = some w'') : w.UserRun target w'' := by
  obtain ⟨actions, hactions, hrun⟩ := h
  exact ⟨actions ++ [a],
    List.forall_mem_append.mpr ⟨hactions, List.forall_mem_singleton.mpr ha⟩, run_snoc hrun hstep⟩

/-- Dropping a receiver is an action of the world, and changes nothing but the set of dropped
receivers. -/
theorem World.of_dropReceiver {w w' : World} {response : Option Nat}
    (h : w.dropReceiver target response = some w') :
    w' = { w with dropped := response.toList ++ w.dropped } ∧
      (∀ r, response = some r → r < w.requests.length) ∧
      ∀ w₀ : World, w₀.UserRun target w → w₀.UserRun target w' := by
  cases response with
  | none =>
    cases h
    exact ⟨rfl, fun _ h => (by cases h), fun _ hrun => hrun⟩
  | some r =>
    have hstep : w.step target (.abandon r) = some w' := h
    cases World.moved_of_step hstep with
    | abandoned hissued =>
      refine ⟨rfl, ?_, fun _ hrun => hrun.step rfl hstep⟩
      rintro r' ⟨⟩
      exact hissued

/-- A poll of `bind_socket` leaves the world alone, or issues one request. -/
theorem BindCall.Advanced.issue {w w' : World} {call call' : BindCall}
    (h : call.Advanced target options w w' call') :
    w' = w ∨ ∃ request, w.step target (.issue request) = some w' := by
  cases h with
  | bindIssued hloop hissue => exact .inr ⟨_, hissue⟩
  | activationIssued hanswer hrouting hloop hissue => exact .inr ⟨_, hissue⟩
  | _ => exact .inl rfl

end

/-! ## What a move can do -/

namespace Facade

section
variable {ι : Type} [WireCodec ι] {target : Target} {options : BindOptions} {f f' : Facade}

variable (ι target options f) in
/-- Everything a move can come to, with what it finds: one constructor for each await of each call,
and for what is no poll. -/
inductive Moved : FacadeMove → Facade → Prop where
  | called (hidle : f.underway = .idle) (method : Method) :
      Moved (.call method) { f with underway := .begun method }
  | reconnectCalled (hidle : f.underway = .idle) :
      Moved .reconnect { f with underway := .reconnecting .begun }
  | shutDownCalled (hidle : f.underway = .idle) :
      Moved .shutDown { f with underway := .shuttingDown }
  | dropped (hidle : f.underway = .idle) :
      Moved .drop { f with world := f.world.dropClient, underway := .gone }
  | worked {action : Action} {w : World} (htask : action.ofTask = true)
      (hstep : f.world.step target action = some w) : Moved (.task action) { f with world := w }
  | panicked {method : Method} (hat : f.underway = .begun method)
      (hrequest : method.request ι options.inner = none) :
      Moved .poll (f.back f.world .panicked)
  | issued {method : Method} {request : Request} {w : World} (hat : f.underway = .begun method)
      (hrequest : method.request ι options.inner = some request) (hloop : f.world.InLoop)
      (hissue : f.world.step target (.issue request) = some w) :
      Moved .poll { f with world := w, underway := .awaiting method f.world.requests.length }
  | unsent {method : Method} (hat : f.underway = .begun method) (hended : ¬ f.world.InLoop) :
      Moved .poll (f.back f.world method.unsent)
  | answered {method : Method} {response : Nat} {answer : Answer} {result : CallResult}
      (hat : f.underway = .awaiting method response)
      (hanswer : answerTo f.world.log response = some answer)
      (hresult : method.answered answer = some result) : Moved .poll (f.back f.world result)
  | unanswered {method : Method} {response : Nat} (hat : f.underway = .awaiting method response)
      (hanswer : answerTo f.world.log response = none) (hended : ¬ f.world.InLoop) :
      Moved .poll (f.back f.world method.unanswered)
  | connectPolled {call call' : BindCall} {w w' : World} (hat : f.underway = .connecting call)
      (hadvanced : call.Advanced target options f.world w call')
      (hdrop : w.dropReceiver target (call.leaves call') = some w')
      (hnot : ∀ result, call' ≠ .returned result) :
      Moved .poll { f with world := w', underway := .connecting call' }
  | connected {call : BindCall} {w : World} {port : UInt16} (hat : f.underway = .connecting call)
      (hadvanced : call.Advanced target options f.world f.world (.returned (.ok port)))
      (hdrop : f.world.dropReceiver target call.receiver = some w) :
      Moved .poll (f.back w (.connected (.ok ())))
  | connectFailed {call : BindCall} {w : World} {e : Error} (hat : f.underway = .connecting call)
      (hadvanced : call.Advanced target options f.world f.world (.returned (.error e)))
      (hdrop : f.world.dropReceiver target call.receiver = some w) :
      Moved .poll (f.last w.dropClient (.connected (.error e)))
  | reconnectPolled {call call' : BindCall} {w w' : World}
      (hat : f.underway = .reconnecting call)
      (hadvanced : call.Advanced target options f.world w call')
      (hdrop : w.dropReceiver target (call.leaves call') = some w')
      (hnot : ∀ result, call' ≠ .returned result) :
      Moved .poll { f with world := w', underway := .reconnecting call' }
  | rebound {call : BindCall} {w : World} {port : UInt16} (hat : f.underway = .reconnecting call)
      (hadvanced : call.Advanced target options f.world f.world (.returned (.ok port)))
      (hdrop : f.world.dropReceiver target call.receiver = some w) :
      Moved .poll { f with world := w, underway := .inFlight (w.clock + IN_FLIGHT_TIMEOUT) }
  | reconnectFailed {call : BindCall} {w : World} {e : Error}
      (hat : f.underway = .reconnecting call)
      (hadvanced : call.Advanced target options f.world f.world (.returned (.error e)))
      (hdrop : f.world.dropReceiver target call.receiver = some w) :
      Moved .poll (f.back w (.reconnected (.error e)))
  | foundInFlight {deadline : Nat} {m : OwnedMessage} {rest : List OwnedMessage}
      (hat : f.underway = .inFlight deadline) (hupdates : f.world.updates = m :: rest) :
      Moved .poll
        (f.back { f.world with updates := rest } (.reconnected (.ok (some m))))
  | nothingInFlight {deadline : Nat} (hat : f.underway = .inFlight deadline)
      (hupdates : f.world.updates = []) (hover : ¬ f.world.InLoop ∨ deadline ≤ f.world.clock) :
      Moved .poll (f.back f.world (.reconnected (.ok none)))
  | senderDropped (hat : f.underway = .shuttingDown) :
      Moved .poll { f with world := { f.world with controlOpen := false }, underway := .draining }
  | drained {m : OwnedMessage} {rest : List OwnedMessage} (hat : f.underway = .draining)
      (hupdates : f.world.updates = m :: rest) :
      Moved .poll { f with world := { f.world with updates := rest }, underway := .draining }
  | shutDown (hat : f.underway = .draining) (hupdates : f.world.updates = [])
      (hended : ¬ f.world.InLoop) : Moved .poll (f.last f.world .shutDown)
  | abandoned {w : World} (hborrows : f.underway.borrows = true)
      (hdrop : f.world.dropReceiver target f.underway.receiver = some w) :
      Moved .cancel { f with world := w, underway := .idle }
  | ownerAbandoned {w : World}
      (hdrop : f.world.dropReceiver target f.underway.receiver = some w) :
      Moved .cancel { f with world := w.dropClient, underway := .gone }

/-- **Inversion of a poll of `bind_socket` inside another call**: the call goes on in `bind_socket`,
or behind it with its result. -/
theorem of_pollBind {call : BindCall} {next : BindCall → CallState}
    {returned : World → Except Error UInt16 → Facade}
    (h : f.pollBind ι target options call next returned = some f') :
    (∃ call' w w', call.Advanced target options f.world w call' ∧
      w.dropReceiver target (call.leaves call') = some w' ∧
      (∀ result, call' ≠ .returned result) ∧
      f' = { f with world := w', underway := next call' }) ∨
    ∃ w result, call.Advanced target options f.world f.world (.returned result) ∧
      f.world.dropReceiver target call.receiver = some w ∧ f' = returned w result := by
  obtain ⟨⟨w, call'⟩, hpoll, h⟩ := Option.bind_eq_some_iff.mp h
  obtain ⟨w', hdrop, h⟩ := Option.bind_eq_some_iff.mp h
  have hadvanced := BindCall.advanced_of_poll hpoll
  cases hcall : call' with
  | returned result =>
    subst hcall
    cases h
    have hworld : w = f.world := by
      cases hadvanced <;> rfl
    subst hworld
    refine .inr ⟨w', result, hadvanced, ?_, rfl⟩
    cases call <;> exact hdrop
  | begun | awaitingBind | activationSent | awaitingActivation =>
    subst hcall
    cases h
    refine .inl ⟨_, w, w', hadvanced, hdrop, ?_, rfl⟩
    intro result hreturned
    cases hreturned

/-- **Inversion of a poll**: which of the polls of `Moved` it was, by the call underway. -/
theorem moved_of_poll (h : f.poll ι target options = some f') :
    f.Moved ι target options .poll f' := by
  cases hat : f.underway with
  | idle | gone =>
    rw [poll, hat] at h
    cases h
  | begun method =>
    simp only [poll, hat] at h
    split at h
    · next hrequest =>
      cases h
      exact .panicked hat hrequest
    · next request hrequest =>
      split at h
      · next hloop =>
        obtain ⟨w, hissue, rfl⟩ := Option.map_eq_some_iff.mp h
        exact .issued hat hrequest hloop hissue
      · next hended =>
        cases h
        exact .unsent hat hended
  | awaiting method response =>
    simp only [poll, hat] at h
    cases hpolled : f.world.pollResponse response with
    | pending =>
      rw [hpolled] at h
      cases h
    | closed =>
      rw [hpolled] at h
      cases h
      have hfound := World.of_pollResponse hpolled
      exact .unanswered hat hfound.1 hfound.2
    | value answer =>
      rw [hpolled] at h
      obtain ⟨result, hresult, rfl⟩ := Option.map_eq_some_iff.mp h
      exact .answered hat (World.of_pollResponse hpolled) hresult
  | connecting call =>
    simp only [poll, hat] at h
    rcases of_pollBind h with ⟨call', w, w', hadvanced, hdrop, hnot, rfl⟩ |
      ⟨w, result, hadvanced, hdrop, rfl⟩
    · exact .connectPolled hat hadvanced hdrop hnot
    · cases result with
      | ok port => exact .connected hat hadvanced hdrop
      | error e => exact .connectFailed hat hadvanced hdrop
  | reconnecting call =>
    simp only [poll, hat] at h
    rcases of_pollBind h with ⟨call', w, w', hadvanced, hdrop, hnot, rfl⟩ |
      ⟨w, result, hadvanced, hdrop, rfl⟩
    · exact .reconnectPolled hat hadvanced hdrop hnot
    · cases result with
      | ok port => exact .rebound hat hadvanced hdrop
      | error e => exact .reconnectFailed hat hadvanced hdrop
  | inFlight deadline =>
    simp only [poll, hat] at h
    cases hupdates : f.world.updates with
    | cons m rest =>
      simp only [hupdates] at h
      obtain ⟨w, hread, rfl⟩ := Option.map_eq_some_iff.mp h
      cases World.moved_of_step hread with
      | updateRead hfirst =>
        cases hupdates.symm.trans hfirst
        exact .foundInFlight hat hupdates
    | nil =>
      simp only [hupdates] at h
      split at h
      · next hover =>
        cases h
        exact .nothingInFlight hat hupdates hover
      · cases h
  | shuttingDown =>
    simp only [poll, hat] at h
    cases h
    exact .senderDropped hat
  | draining =>
    simp only [poll, hat] at h
    cases hupdates : f.world.updates with
    | cons m rest =>
      simp only [hupdates] at h
      obtain ⟨w, hread, rfl⟩ := Option.map_eq_some_iff.mp h
      cases World.moved_of_step hread with
      | updateRead hfirst =>
        cases hupdates.symm.trans hfirst
        exact .drained hat hupdates
    | nil =>
      simp only [hupdates] at h
      split at h
      · cases h
      · next hended =>
        cases h
        exact .shutDown hat hupdates hended

/-- **Inversion of a move**: which of the moves of `Moved` it was. -/
theorem moved_of_step {move : FacadeMove} (h : f.step ι target options move = some f') :
    f.Moved ι target options move f' := by
  cases move with
  | call method =>
    rw [step] at h
    split at h
    · next hidle =>
      cases h
      exact .called hidle method
    · cases h
  | reconnect =>
    rw [step] at h
    split at h
    · next hidle =>
      cases h
      exact .reconnectCalled hidle
    · cases h
  | shutDown =>
    rw [step] at h
    split at h
    · next hidle =>
      cases h
      exact .shutDownCalled hidle
    · cases h
  | drop =>
    rw [step] at h
    split at h
    · next hidle =>
      cases h
      exact .dropped hidle
    · cases h
  | poll => exact moved_of_poll h
  | cancel =>
    change f.cancel target = some f' at h
    cases hat : f.underway with
    | idle | gone =>
      simp only [cancel, hat] at h
      cases h
    | begun | inFlight =>
      simp only [cancel, hat] at h
      cases h
      refine .abandoned (by rw [hat]; rfl) ?_
      rw [hat]
      rfl
    | awaiting | reconnecting =>
      simp only [cancel, hat] at h
      obtain ⟨w, hdrop, rfl⟩ := Option.map_eq_some_iff.mp h
      refine .abandoned (by rw [hat]; rfl) ?_
      rw [hat]
      exact hdrop
    | connecting =>
      simp only [cancel, hat] at h
      obtain ⟨w, hdrop, rfl⟩ := Option.map_eq_some_iff.mp h
      refine .ownerAbandoned ?_
      rw [hat]
      exact hdrop
    | shuttingDown | draining =>
      simp only [cancel, hat] at h
      cases h
      refine .ownerAbandoned ?_
      rw [hat]
      rfl
  | task action =>
    rw [step] at h
    split at h
    · next htask =>
      obtain ⟨w, hstep, rfl⟩ := Option.map_eq_some_iff.mp h
      exact .worked htask hstep
    · cases h

/-- What a call does to the world of its client are actions that are none of the task's: it issues
requests, drops receivers and reads updates. -/
theorem Moved.user_run {move : FacadeMove} (h : f.Moved ι target options move f')
    (hmove : ∀ action, move ≠ .task action) : f.world.UserRun target f'.world := by
  have hbind : ∀ {call call' : BindCall} {w w' : World},
      call.Advanced target options f.world w call' →
      w.dropReceiver target (call.leaves call') = some w' → f.world.UserRun target w' := by
    intro call call' w w' hadvanced hdrop
    refine (World.of_dropReceiver hdrop).2.2 f.world ?_
    rcases hadvanced.issue with rfl | ⟨request, hissue⟩
    · exact .refl _
    · exact (World.UserRun.refl _).step rfl hissue
  have hdropped : ∀ {w : World} {response : Option Nat},
      f.world.dropReceiver target response = some w → f.world.UserRun target w :=
    fun hdrop => (World.of_dropReceiver hdrop).2.2 f.world (.refl _)
  have hclient : ∀ {w : World}, f.world.UserRun target w → f.world.UserRun target w.dropClient :=
    fun hrun => (hrun.step (a := .closeControl) rfl rfl).step (a := .dropUpdates) rfl rfl
  have hread : ∀ {m : OwnedMessage} {rest : List OwnedMessage}, f.world.updates = m :: rest →
      f.world.UserRun target { f.world with updates := rest } := by
    intro m rest hupdates
    refine (World.UserRun.refl f.world).step (a := .readUpdate) rfl ?_
    rw [World.step, hupdates]
  cases h with
  | called | reconnectCalled | shutDownCalled | panicked | unsent | answered | unanswered
  | nothingInFlight | shutDown => exact .refl _
  | dropped => exact hclient (.refl _)
  | @worked action => exact absurd rfl (hmove action)
  | issued hat hrequest hloop hissue => exact (World.UserRun.refl _).step rfl hissue
  | connectPolled hat hadvanced hdrop | reconnectPolled hat hadvanced hdrop =>
    exact hbind hadvanced hdrop
  | connected hat hadvanced hdrop | rebound hat hadvanced hdrop
  | reconnectFailed hat hadvanced hdrop => exact hdropped hdrop
  | connectFailed hat hadvanced hdrop => exact hclient (hdropped hdrop)
  | foundInFlight hat hupdates | drained hat hupdates => exact hread hupdates
  | senderDropped => exact (World.UserRun.refl _).step (a := .closeControl) rfl rfl
  | abandoned hborrows hdrop => exact hdropped hdrop
  | ownerAbandoned hdrop => exact hclient (hdropped hdrop)

/-- What happens to the world of a client are actions of the world, so that what holds in every run
of a world holds here. -/
theorem Moved.actions {move : FacadeMove} (h : f.Moved ι target options move f') :
    ∃ actions, run (World.step target) f.world actions = some f'.world := by
  by_cases hmove : ∃ action, move = .task action
  · obtain ⟨action, rfl⟩ := hmove
    cases h with
    | worked htask hstep => exact ⟨[action], (run_singleton _ _).trans hstep⟩
  · obtain ⟨actions, -, hrun⟩ := h.user_run fun action h => hmove ⟨action, h⟩
    exact ⟨actions, hrun⟩

/-- **The world of a client** is one that its task can get into: a run of the client is a run of its
world. -/
theorem world_of_run {moves : List FacadeMove}
    (hrun : run (step ι target options) (start options) moves = some f) :
    ∃ actions, run (World.step target) (World.start options.inner) actions = some f.world := by
  refine run_invariant (P := fun f => ∃ actions,
    run (World.step target) (World.start options.inner) actions = some f.world) ?_ hrun ⟨[], rfl⟩
  rintro f move f' hstep ⟨actions, hactions⟩
  obtain ⟨more, hmore⟩ := (moved_of_step hstep).actions
  refine ⟨actions ++ more, ?_⟩
  rw [run_append, hactions]
  exact hmore

end

end Facade

end SimpleDoip
