import SimpleDoip.Client.Calls
import SimpleDoip.Session.Interface
import SimpleDoip.Session.Serving

/-!
# Which calls come back

The task answers each request it takes, at once or by its deadline, so a call comes back unless the
task does not take its request. Two things can keep the task from that for ever: a full update
channel, which nobody reads while another call is underway, and a socket task that waits for the
inner task while the inner task waits for it.

`Facade.Returns` says that a call can come back wherever its tasks stand in a given way; it is shown
from the progress of the task (`World.Reached.brings_answered`). `CallState.NeedsTask` says which
calls wait for the task. `Interface.call_hangs_iff` says that these hang exactly in the two cases
above. A `shut_down` reads the update channel, so it hangs in the second only;
`Interface.shut_down_complete` says what it leaves.
-/

namespace SimpleDoip

open Transition

/-! ## Kinds of answers -/

/-- The type of a response channel: what its caller gets besides an error is a port, nothing, or a
message. -/
inductive AnswerKind where
  | port
  | done
  | message
deriving DecidableEq

/-- The kind of an answer, which its type fixes in the source. -/
def Answer.kind : Answer → AnswerKind
  | .port _ => .port
  | .done _ => .done
  | .message _ => .message

/-- The kind of answer a control message is to get, by the type of the response channel it
carries. -/
def ControlMessage.kind : ControlMessage → AnswerKind
  | .bindSocket _ _ => .port
  | .unbindSocket _ | .sendDiagnosticMessage _ _ | .awaitAck _ => .done
  | .routingActivation _ _ | .awaitResponse _ _ | .receiveDiagnosticResponse _ _ => .message

/-- The kind of answer a request is to get: that of the control message it creates, whatever its
number. -/
def Request.kind (request : Request) : AnswerKind := (request.create 0).kind

@[simp] theorem ControlMessage.kind_failure (request : ControlMessage) (e : Error) :
    (request.failure e).kind = request.kind := by
  cases request <;> rfl

@[simp] theorem Request.kind_create (request : Request) (id : Nat) :
    (request.create id).kind = request.kind := by
  cases request <;> rfl

/-- A request that goes on to wait is to get the same kind of answer, since it takes its response
channel along. -/
theorem ControlMessage.kind_awaiting {request : ControlMessage} {message : OwnedMessage}
    (h : request.outgoing = some message) : request.awaiting.kind = request.kind := by
  cases request with
  | bindSocket | unbindSocket | awaitResponse | receiveDiagnosticResponse | awaitAck => cases h
  | routingActivation | sendDiagnosticMessage => rfl

section
variable {target : Target} {env : Env} {i : Inner} {select : Select}
  {r : EStateM.Result Panic Task Processed}

/-- The control message that was active or was taken. A turn completes no other. -/
def Concerned (i : Inner) (select : Select) (message : ControlMessage) : Prop :=
  i.activeRequest = some message ∨ select = .control message

/-- **A turn answers with the right kind** what was active or what it took. This is what the types
of the response channels say in the source. -/
theorem Turned.kind (h : Turned target env i select r) {id : Nat} {a : Answer}
    (hmem : .completed id a ∈ (resultTask r).effects) :
    ∃ message, Concerned i select message ∧ message.response = id ∧ a.kind = message.kind := by
  have hfail : ∀ {e : Error}, .completed id a ∈ i.failActive e →
      ∃ message, Concerned i select message ∧ message.response = id ∧ a.kind = message.kind := by
    intro e hfail
    obtain ⟨request, hactive, heq⟩ := Inner.mem_failActive hfail
    cases heq
    exact ⟨request, .inl hactive, rfl, request.kind_failure e⟩
  have htaken : ∀ {e : Error} (message : ControlMessage) {answer : Answer},
      select = .control message → answer.kind = message.kind →
      .completed id a ∈ i.failActive e ++ [.completed message.response answer] →
      ∃ message, Concerned i select message ∧ message.response = id ∧ a.kind = message.kind := by
    intro e message answer hselect hkind hmem
    rcases List.mem_append.mp hmem with hmem | hmem
    · exact hfail hmem
    · cases List.mem_singleton.mp hmem
      exact ⟨message, .inr hselect, rfl, hkind⟩
  cases h with
  | expired | broken | listening | lateListening => exact hfail hmem
  | bound address response => exact htaken (.bindSocket address response) rfl rfl hmem
  | unbound response => exact htaken (.unbindSocket response) rfl rfl hmem
  | refused e => exact htaken _ rfl (ControlMessage.kind_failure _ e) hmem
  | @drained timeout response m hpending =>
    exact htaken (.receiveDiagnosticResponse timeout response) rfl rfl hmem
  | sent | overflowed | late =>
    rcases List.mem_append.mp hmem with hmem | hmem
    · exact hfail hmem
    · cases List.mem_singleton.mp hmem
  | acked hm hactive =>
    cases List.mem_singleton.mp hmem
    exact ⟨_, .inl hactive, rfl, rfl⟩
  | replied hm hactive =>
    rcases List.mem_append.mp hmem with hmem | hmem
    · cases Inner.mem_aliveEffects hmem
    · cases List.mem_singleton.mp hmem
      exact ⟨_, .inl hactive, rfl, rfl⟩
  | ackDropped | stored => cases hmem
  | passed | unheeded | aliveOverflowed => cases Inner.mem_aliveEffects hmem

/-- What is active after a turn was active before it, or is what it took and waits now. -/
theorem Turned.kind_active (h : Turned target env i select r) {request : ControlMessage}
    (hactive : (resultTask r).inner.activeRequest = some request) :
    ∃ message, Concerned i select message ∧ message.response = request.response ∧
      request.kind = message.kind := by
  cases h with
  | listening =>
    cases hactive
    exact ⟨_, .inr rfl, rfl, rfl⟩
  | sent hmessage =>
    cases hactive
    exact ⟨_, .inr rfl, (ControlMessage.awaiting_response hmessage).symm,
      ControlMessage.kind_awaiting hmessage⟩
  | ackDropped | stored | aliveOverflowed => exact ⟨request, .inl hactive, rfl, rfl⟩
  | passed | unheeded =>
    simp only [resultTask, Inner.afterAlive_activeRequest] at hactive
    exact ⟨request, .inl hactive, rfl, rfl⟩
  | _ => cases hactive

end

namespace World

/-- Answers, and what is to be answered, have the kind of their request. A request is found by its
number in the list of all that were issued. -/
structure Typed (w : World) : Prop where
  answers : ∀ r a, .did (.completed r a) ∈ w.log →
    ∃ request, w.requests[r]? = some request ∧ a.kind = request.kind
  active : ∀ message, w.inner.activeRequest = some message →
    ∃ request, w.requests[message.response]? = some request ∧ message.kind = request.kind

variable {target : Target} {options : ClientOptions} {actions : List Action} {w : World}

/-- A step that leaves the task alone keeps the kinds: requests are only added. -/
theorem Typed.idle {w' : World} (hw : w.Typed) (hsame : SameTask w w') : w'.Typed := by
  obtain ⟨more, hmore⟩ := hsame.requests
  have hkeep : ∀ {r : Nat} {request : Request}, w.requests[r]? = some request →
      w'.requests[r]? = some request := by
    intro r request hrequest
    rw [← hmore, List.getElem?_append_left (List.getElem?_eq_some_iff.mp hrequest).1]
    exact hrequest
  refine ⟨?_, ?_⟩
  · intro r a hmem
    rw [hsame.log] at hmem
    obtain ⟨request, hrequest, hkind⟩ := hw.answers r a hmem
    exact ⟨request, hkeep hrequest, hkind⟩
  · intro message hactive
    rw [hsame.inner] at hactive
    obtain ⟨request, hrequest, hkind⟩ := hw.active message hactive
    exact ⟨request, hkeep hrequest, hkind⟩

/-- What a turn is concerned with has the kind of its request: it was active, or is the next one in
the control channel. -/
theorem Typed.concerned {branch : Branch} {select : Select} {message : ControlMessage}
    (hw : w.Typed) (hselect : w.select branch = some select)
    (hmessage : Concerned w.inner select message) :
    ∃ request, w.requests[message.response]? = some request ∧ message.kind = request.kind := by
  rcases hmessage with hactive | rfl
  · exact hw.active message hactive
  · obtain ⟨-, request, hrequest, rfl⟩ := World.select_control hselect
    have hresponse : (request.create w.taken).response = w.taken := by cases request <;> rfl
    rw [hresponse]
    exact ⟨request, hrequest, request.kind_create _⟩

/-- A turn keeps the kinds, of what it answers and of what waits after it. -/
theorem Typed.finish {branch : Branch} {env : Env} {select : Select}
    {r : EStateM.Result Panic Task Processed} (hw : w.Typed)
    (hselect : w.select branch = some select) (hturned : Turned target env w.inner select r) :
    (w.finish select r).Typed := by
  refine ⟨?_, ?_⟩
  · intro id a hmem
    rw [World.finish_log] at hmem
    rw [World.finish_requests]
    rcases List.mem_append.mp hmem with hmem | hmem
    · exact hw.answers id a hmem
    · obtain ⟨message, hmessage, rfl, hkind⟩ := hturned.kind (did_mem_new.mp hmem)
      obtain ⟨request, hrequest, hsame⟩ := hw.concerned hselect hmessage
      exact ⟨request, hrequest, hkind.trans hsame⟩
  · intro request hactive
    rw [World.finish_inner] at hactive
    rw [World.finish_requests]
    obtain ⟨message, hmessage, hresponse, hkind⟩ := hturned.kind_active hactive
    obtain ⟨q, hq, hsame⟩ := hw.concerned hselect hmessage
    exact ⟨q, hresponse ▸ hq, hkind.trans hsame⟩

/-- In every run, answers have the kind of their request, so a call can match on the one kind it
expects. -/
theorem typed_of_run (hrun : run (World.step target) (World.start options) actions = some w) :
    w.Typed := by
  refine World.run_invariant (P := Typed) ?_ ?_ ?_ hrun
  · exact fun w w' hsame hw => hw.idle hsame
  · intro w branch socketOpen connect select r hhead hwaiting hselect hturned hw
    exact hw.finish hselect hturned
  · exact ⟨fun r a hmem => absurd hmem List.not_mem_nil, fun message h => by cases h⟩

/-- An action of the task leaves the client's ends alone: it issues no request and closes neither
channel. -/
theorem of_task_step {a : Action} {w' : World} (htask : a.ofTask = true)
    (h : w.step target a = some w') :
    w'.requests = w.requests ∧ w'.updatesOpen = w.updatesOpen ∧ w'.controlOpen = w.controlOpen := by
  cases moved_of_step h with
  | issued | abandoned | controlClosed | updateRead | updatesDropped => cases htask
  | waited | ended => exact ⟨rfl, rfl, rfl⟩
  | @turned branch socketOpen connect select =>
    obtain ⟨updates, phase, heq⟩ := w.finish_eq select
      (turn target (w.env socketOpen connect) select ⟨w.inner, []⟩)
    rw [heq]
    exact ⟨rfl, rfl, rfl⟩
  | @resumed m =>
    obtain ⟨updates, phase, heq⟩ := w.sendUpdate_eq m
    rw [heq]
    exact ⟨rfl, rfl, rfl⟩

end World

/-! ## Calls and what they expect -/

/-- The kind of answer a method expects, by the type of the response channel it creates. -/
def Method.kind : Method → AnswerKind
  | .call (.sendDiagnosticMessage _ _) | .unbindSocket => .done
  | .call (.receiveDiagnosticResponse _) => .message

/-- The request whose answer a call of `bind_socket` awaits, and its kind: first that to its bind,
then that to its routing activation. -/
def BindCall.expects : BindCall → Option (Nat × AnswerKind)
  | .awaitingBind response => some (response, .port)
  | .activationSent _ response | .awaitingActivation _ response _ => some (response, .message)
  | .begun | .returned _ => none

/-- The request whose answer the call underway awaits, and its kind. Between calls, and while it
only polls the update channel, a client awaits none. -/
def CallState.expects : CallState → Option (Nat × AnswerKind)
  | .awaiting method response => some (response, method.kind)
  | .connecting call | .reconnecting call => call.expects
  | _ => none

/-- A call of `bind_socket` inside another call has not returned: with its result the outer call
goes on at once. -/
def CallState.Running : CallState → Prop
  | .connecting call | .reconnecting call => ∀ result, call ≠ .returned result
  | _ => True

/-- How far the client's ends are open: both, until `shut_down` drops the sender of the control
channel. Nothing is said of a client that is gone. -/
def CallState.Ends (w : World) : CallState → Prop
  | .gone => True
  | .draining => w.updatesOpen = true ∧ w.controlOpen = false
  | _ => w.updatesOpen = true ∧ w.controlOpen = true

theorem Method.exists_answered {method : Method} {answer : Answer}
    (h : answer.kind = method.kind) : ∃ result, method.answered answer = some result := by
  rcases method with (_ | _) | _ <;> rcases answer with _ | _ | _ <;> cases h <;> exact ⟨_, rfl⟩

theorem Method.kind_request {ι : Type} [WireCodec ι] {options : ClientOptions} {method : Method}
    {request : Request} (h : method.request ι options = some request) :
    request.kind = method.kind := by
  rcases method with (_ | _) | _
  · obtain ⟨message, -, rfl⟩ := Option.map_eq_some_iff.mp h
    rfl
  · cases h
    rfl
  · cases h
    rfl

/-- Only `shut_down` returns as it does, so its result in a history tells that there was one. -/
theorem Method.ne_shutDown (method : Method) :
    method.unsent ≠ .shutDown ∧ method.unanswered ≠ .shutDown ∧
      ∀ answer, method.answered answer ≠ some .shutDown := by
  refine ⟨?_, ?_, fun answer => ?_⟩
  · rcases method with (_ | _) | _ <;> intro h <;> cases h
  · rcases method with (_ | _) | _ <;> intro h <;> cases h
  · rcases method with (_ | _) | _ <;> rcases answer with _ | _ | _ <;> intro h <;> cases h

theorem BindCall.expects_receiver {call : BindCall} {r : Nat} (h : call.receiver = some r) :
    ∃ k, call.expects = some (r, k) := by
  cases call <;> cases h <;> exact ⟨_, rfl⟩

namespace Facade

section
variable {ι : Type} [WireCodec ι] {target : Target} {options : BindOptions} {f f' : Facade}

variable (target options) in
/-- A client as calls find it: its task is one that can be, its ends are as far open as its calls
have left them, and what it expects is the answer to a request of that kind. -/
structure Sound (f : Facade) : Prop where
  reached : f.world.Reached target options.inner
  expects : ∀ r k, f.underway.expects = some (r, k) →
    ∃ request, f.world.requests[r]? = some request ∧ request.kind = k
  running : f.underway.Running
  ends : f.underway.Ends f.world

/-- A state in which the call expects no answer is sound as soon as its task and its ends are. -/
theorem Sound.quiet (hreached : f.world.Reached target options.inner)
    (hexpects : f.underway.expects = none) (hrunning : f.underway.Running)
    (hends : f.underway.Ends f.world) : f.Sound target options := by
  refine ⟨hreached, fun r k hr => ?_, hrunning, hends⟩
  cases hexpects.symm.trans hr

/-- Dropping a receiver changes nothing a call looks at: the ends are as far open as before. -/
theorem ends_dropReceiver {w w' : World} {response : Option Nat} {underway : CallState}
    (hdrop : w.dropReceiver target response = some w') (h : underway.Ends w) :
    underway.Ends w' := by
  obtain ⟨rfl, -, -⟩ := World.of_dropReceiver hdrop
  cases underway <;> exact h

/-- Issuing a request changes nothing a call looks at, but for the request, which is added at the
end. -/
theorem of_issue {w w' : World} {request : Request} {underway : CallState}
    (hissue : w.step target (.issue request) = some w') (h : underway.Ends w) :
    underway.Ends w' ∧ w'.requests = w.requests ++ [request] := by
  rw [World.eq_of_step_issue hissue]
  refine ⟨?_, rfl⟩
  cases underway <;> exact h

/-- The task goes on beside the call, which looks at no more of it than the requests and the two
ends. -/
theorem Sound.beside (h : f.Sound target options) {w : World}
    (hreached : w.Reached target options.inner) (hrequests : w.requests = f.world.requests)
    (hupdates : w.updatesOpen = f.world.updatesOpen)
    (hcontrol : w.controlOpen = f.world.controlOpen) :
    Sound target options { f with world := w } := by
  refine ⟨hreached, ?_, h.running, ?_⟩
  · change ∀ r k, _ → ∃ request, w.requests[r]? = some request ∧ _
    rw [hrequests]
    exact h.expects
  · change f.underway.Ends w
    have hends := h.ends
    cases hat : f.underway <;> rw [hat] at hends <;>
      simp only [CallState.Ends, hupdates, hcontrol] <;> exact hends

theorem Sound.worked (h : f.Sound target options) {a : Action} (ha : a.ofTask = true) {w : World}
    (hstep : f.world.step target a = some w) : Sound target options { f with world := w } := by
  obtain ⟨hrequests, hupdates, hcontrol⟩ := World.of_task_step ha hstep
  exact h.beside (h.reached.step hstep) hrequests hupdates hcontrol

theorem Sound.driven (h : f.Sound target options) {w : World}
    (hreached : w.Reached target options.inner) (hdriven : f.world.Driven w) :
    Sound target options { f with world := w } :=
  h.beside hreached hdriven.requests hdriven.updatesOpen hdriven.controlOpen

/-- **A poll of `bind_socket` that does not return** expects the answer to what it issued, or what
it expected before. -/
theorem bind_expects {w w' : World} {call call' : BindCall}
    (hadvanced : call.Advanced target options w w' call')
    (hnot : ∀ result, call' ≠ .returned result)
    (h : ∀ r k, call.expects = some (r, k) →
      ∃ request, w.requests[r]? = some request ∧ request.kind = k) :
    ∀ r k, call'.expects = some (r, k) →
      ∃ request, w'.requests[r]? = some request ∧ request.kind = k := by
  intro r k hr
  cases hadvanced with
  | bindIssued hloop hissue =>
    cases hr
    rw [World.eq_of_step_issue hissue]
    exact ⟨_, List.getElem?_concat_length, rfl⟩
  | activationIssued hanswer hrouting hloop hissue =>
    cases hr
    rw [World.eq_of_step_issue hissue]
    exact ⟨_, List.getElem?_concat_length, rfl⟩
  | timed => exact h r k hr
  | bindUnsent | activationUnsent | bound | bindFailed | bindClosed | activated
  | activationFailed | activationTolerated => exact absurd rfl (hnot _)

/-- **A call that goes on after a poll of `bind_socket`** is sound: it is the same call, and the
ends are as far open as before. -/
theorem Sound.bind_polled (h : f.Sound target options) {call call' : BindCall} {w w' : World}
    {wrap : BindCall → CallState} (hwrap : wrap = .connecting ∨ wrap = .reconnecting)
    (hat : f.underway = wrap call) (hadvanced : call.Advanced target options f.world w call')
    (hdrop : w.dropReceiver target (call.leaves call') = some w')
    (hnot : ∀ result, call' ≠ .returned result) (hreached : w'.Reached target options.inner) :
    Sound target options ⟨w', wrap call', f.results⟩ := by
  have hends : (wrap call').Ends w := by
    have hends := h.ends
    rw [hat] at hends
    have hsame : (wrap call').Ends f.world := by
      rcases hwrap with rfl | rfl <;> exact hends
    rcases hadvanced.issue with rfl | ⟨request, hissue⟩
    · exact hsame
    · exact (of_issue hissue hsame).1
  have hexpects : ∀ r k, call.expects = some (r, k) →
      ∃ request, f.world.requests[r]? = some request ∧ request.kind = k := by
    have hexpects := h.expects
    rw [hat] at hexpects
    rcases hwrap with rfl | rfl <;> exact hexpects
  have hexpects' := bind_expects hadvanced hnot hexpects
  refine ⟨hreached, ?_, ?_, ends_dropReceiver hdrop hends⟩
  · obtain ⟨rfl, -, -⟩ := World.of_dropReceiver hdrop
    rcases hwrap with rfl | rfl <;> exact hexpects'
  · rcases hwrap with rfl | rfl <;> exact hnot

/-- **A move keeps a client sound**, of the call underway or of the task beside it. -/
theorem Sound.step (h : f.Sound target options) {move : FacadeMove}
    (hstep : f.step ι target options move = some f') : f'.Sound target options := by
  have hmoved := moved_of_step hstep
  have hends := h.ends
  have hreached' : f'.world.Reached target options.inner := by
    obtain ⟨actions, hrun⟩ := h.reached
    obtain ⟨more, hmore⟩ := hmoved.actions
    refine ⟨actions ++ more, ?_⟩
    rw [run_append, hrun]
    exact hmore
  cases hmoved with
  | called hidle | shutDownCalled hidle =>
    rw [hidle] at hends
    exact .quiet hreached' rfl trivial hends
  | reconnectCalled hidle =>
    rw [hidle] at hends
    refine .quiet hreached' rfl (fun result h => ?_) hends
    cases h
  | dropped hidle => exact .quiet hreached' rfl trivial trivial
  | worked htask hwork => exact h.worked htask hwork
  | panicked hat | unsent hat | answered hat | unanswered hat | foundInFlight hat
  | nothingInFlight hat | drained hat =>
    rw [hat] at hends
    exact .quiet hreached' rfl trivial hends
  | @issued method request w hat hrequest hloop hissue =>
    rw [hat] at hends
    obtain ⟨hends', hrequests⟩ := of_issue hissue hends
    refine ⟨hreached', fun r k hr => ?_, trivial, hends'⟩
    cases hr
    change ∃ request, w.requests[f.world.requests.length]? = some request ∧ _
    rw [hrequests]
    exact ⟨request, List.getElem?_concat_length, Method.kind_request hrequest⟩
  | connectPolled hat hadvanced hdrop hnot =>
    exact h.bind_polled (.inl rfl) hat hadvanced hdrop hnot hreached'
  | reconnectPolled hat hadvanced hdrop hnot =>
    exact h.bind_polled (.inr rfl) hat hadvanced hdrop hnot hreached'
  | connected hat hadvanced hdrop | reconnectFailed hat hadvanced hdrop
  | rebound hat hadvanced hdrop =>
    rw [hat] at hends
    exact .quiet hreached' rfl trivial (ends_dropReceiver hdrop hends)
  | connectFailed | shutDown | ownerAbandoned => exact .quiet hreached' rfl trivial trivial
  | senderDropped hat =>
    rw [hat] at hends
    exact .quiet hreached' rfl trivial ⟨hends.1, rfl⟩
  | @abandoned w hborrows hdrop =>
    have hidle : CallState.idle.Ends f.world := by
      cases hat : f.underway <;> rw [hat] at hends hborrows <;>
        first | exact hends | cases hborrows
    exact .quiet hreached' rfl trivial (ends_dropReceiver hdrop hidle)

theorem Sound.polled (h : f.Sound target options) (hpoll : f.poll ι target options = some f') :
    f'.Sound target options := by
  have hstep : f.step ι target options .poll = some f' := hpoll
  exact h.step hstep

end

/-! ## Calls that come back -/

section
variable {ι : Type} [WireCodec ι] [Framed ι] {target : Target} {options : BindOptions}
  {f f' : Facade} {standing : Standing}

variable (ι target options) in
/-- The call underway can come back without being cancelled, wherever its tasks stand like this. -/
def Returns (standing : Standing) (f : Facade) : Prop :=
  ∀ g : Interface ι, g.facade = f → g.stack.Linked → g.stack.Stands standing →
    Leads (Interface.step target options) (fun move => move ≠ .client .cancel)
      (fun g' => ∃ result, g'.results = f.results ++ [result]) g

theorem Returns.now (hpoll : f.poll ι target options = some f') {result : CallResult}
    (hresult : f'.results = f.results ++ [result]) : f.Returns ι target options standing := by
  rintro g rfl hlinked hstands
  obtain ⟨g', hstep, rfl⟩ := Interface.step_client .poll rfl hpoll
  refine Leads.next (fun h => ?_) hstep (.here ⟨result, hresult⟩)
  cases h

theorem Returns.poll (hpoll : f.poll ι target options = some f')
    (hresults : f'.results = f.results) (h : f'.Returns ι target options standing) :
    f.Returns ι target options standing := by
  rintro g rfl hlinked hstands
  obtain ⟨g', hstep, rfl⟩ := Interface.step_client .poll rfl hpoll
  obtain ⟨hlinked', hstands'⟩ := Interface.stands_of_client standing hlinked hstep
  refine Leads.next (fun h => ?_) hstep ((h g' rfl hlinked' (hstands' hstands)).trans ?_)
  · cases h
  · rintro g'' ⟨result, hresult⟩
    exact .here ⟨result, hresult.trans (by rw [hresults])⟩

/-- Time passes beside the call. What can come back later can come back now. -/
theorem Returns.wait (duration : Nat)
    (h : Returns ι target options standing
      { f with world := { f.world with clock := f.world.clock + duration } }) :
    f.Returns ι target options standing := by
  rintro g rfl hlinked hstands
  have hmove : g.stack.step target (.outside (.wait duration)) = some _ := rfl
  have hstep : g.step target options (.tasks (.outside (.wait duration))) = some _ := rfl
  refine Leads.next (fun h => ?_) hstep
    (h _ rfl (hlinked.step hmove) (hstands.outside hlinked hmove))
  cases h

/-- A call comes back after what its tasks can do, if it does from every world they can bring
about. -/
theorem Returns.task {P : World → Prop} (h : Brings ι target (fun a => a.ofTasks = true) P f.world)
    (hP : ∀ w, P w → Returns ι target options .atEase { f with world := w }) :
    f.Returns ι target options .atEase := by
  rintro g rfl hlinked hstands
  have hlift : Leads (Interface.step target options) (fun move => move ≠ .client .cancel)
      (fun g' => ∃ st, g' = { g with stack := st } ∧ st.Linked ∧ st.AtEase ∧ P st.world) g := by
    refine Leads.lift (g := fun stack => { g with stack }) (b := InterfaceMove.tasks) ?_
      (h g.stack hlinked hstands rfl)
    intro st a st' ha hstep
    refine ⟨?_, fun h => by cases h⟩
    rw [Interface.step, if_pos ha, hstep]
    rfl
  refine hlift.trans ?_
  rintro _ ⟨st, rfl, hlinked', hease, hw⟩
  exact hP _ hw _ rfl hlinked' hease

/-- An answer that is expected has the kind that is expected, because its request has. -/
theorem Sound.kind (h : f.Sound target options) {r : Nat} {k : AnswerKind}
    (hexpects : f.underway.expects = some (r, k)) {answer : Answer}
    (hanswer : answerTo f.world.log r = some answer) : answer.kind = k := by
  obtain ⟨actions, hrun⟩ := h.reached
  obtain ⟨request, hrequest, hkind⟩ := h.expects r k hexpects
  obtain ⟨request', hrequest', hkind'⟩ :=
    (World.typed_of_run hrun).answers r answer (mem_of_answerTo hanswer)
  cases hrequest.symm.trans hrequest'
  exact hkind'.trans hkind

/-- A receiver that is held can be dropped: its request was issued, and requests are only added. -/
theorem Sound.exists_dropped (h : f.Sound target options) {w : World}
    (hrequests : f.world.requests <+: w.requests) {response : Option Nat}
    (hheld : ∀ r, response = some r → ∃ k, f.underway.expects = some (r, k)) :
    w.dropReceiver target response = some { w with dropped := response.toList ++ w.dropped } := by
  cases response with
  | none => rfl
  | some r =>
    obtain ⟨k, hexpects⟩ := hheld r rfl
    obtain ⟨request, hrequest, -⟩ := h.expects r k hexpects
    have hlt := (List.getElem?_eq_some_iff.mp hrequest).1
    exact if_pos (hlt.trans_le hrequests.length_le)

/-- `reconnect` looks for a message in flight, and comes back by its timeout, with a message or
without. -/
theorem returns_inFlight {deadline : Nat} (hat : f.underway = .inFlight deadline) :
    f.Returns ι target options standing := by
  cases hupdates : f.world.updates with
  | cons m rest =>
    have hpoll : f.poll ι target options = some (f.back { f.world with updates := rest }
        (.reconnected (.ok (some m)))) := by
      simp only [poll, hat, hupdates, World.step]
      rfl
    exact .now hpoll rfl
  | nil =>
    have hpoll : ∀ f : Facade, f.underway = .inFlight deadline → f.world.updates = [] →
        deadline ≤ f.world.clock →
        f.poll ι target options = some (f.back f.world (.reconnected (.ok none))) := by
      intro f hat hupdates hpast
      simp only [poll, hat, hupdates]
      exact if_pos (.inr hpast)
    exact .wait deadline (.now (hpoll _ hat hupdates (Nat.le_add_left _ _)) rfl)

/-! ### `bind_socket` inside another call -/

/-- The two calls that run `bind_socket`: `connect`, and `reconnect`. They differ in what they do
with its result. -/
def BindsBy (wrap : BindCall → CallState) : Prop := wrap = .connecting ∨ wrap = .reconnecting

/-- A receiver that is left behind was held, so it can be dropped. -/
theorem expects_leaves {wrap : BindCall → CallState} (hwrap : BindsBy wrap) {call : BindCall}
    (hat : f.underway = wrap call) (call' : BindCall) :
    ∀ r, call.leaves call' = some r → ∃ k, f.underway.expects = some (r, k) := by
  intro r hr
  rw [BindCall.leaves] at hr
  split at hr
  · cases hr
  · obtain ⟨k, hexpects⟩ := BindCall.expects_receiver hr
    refine ⟨k, ?_⟩
    rw [hat]
    rcases hwrap with rfl | rfl <;> exact hexpects

omit [Framed ι] in
/-- A poll of `bind_socket` that does not return: the outer call stays where it is, and drops the
receiver that was left behind. -/
theorem Sound.poll_bind (h : f.Sound target options) {wrap : BindCall → CallState}
    (hwrap : BindsBy wrap) {call call' : BindCall} (hat : f.underway = wrap call) {w : World}
    (hpoll : Binding.poll ι target options ⟨f.world, call⟩ = some ⟨w, call'⟩)
    (hrequests : f.world.requests <+: w.requests) (hnot : ∀ result, call' ≠ .returned result) :
    f.poll ι target options = some { f with
      world := { w with dropped := (call.leaves call').toList ++ w.dropped }
      underway := wrap call' } := by
  have hdrop := h.exists_dropped hrequests (expects_leaves hwrap hat call')
  have hbind : ∀ returned, f.pollBind ι target options call wrap returned = some { f with
      world := { w with dropped := (call.leaves call').toList ++ w.dropped }
      underway := wrap call' } := by
    intro returned
    rw [pollBind, hpoll]
    change ((w.dropReceiver target (call.leaves call')).bind fun world => _) = _
    rw [hdrop]
    cases call' with
    | returned result => exact absurd rfl (hnot result)
    | begun | awaitingBind | activationSent | awaitingActivation => rfl
  rcases hwrap with rfl | rfl <;>
  · simp only [poll, hat]
    exact hbind _

/-- A `bind_socket` that returns: the call comes back, if need be after it has looked for a message
in flight. -/
theorem Sound.returns_bind (h : f.Sound target options) {wrap : BindCall → CallState}
    (hwrap : BindsBy wrap) {call : BindCall} (hat : f.underway = wrap call)
    {result : Except Error UInt16}
    (hpoll : Binding.poll ι target options ⟨f.world, call⟩ = some ⟨f.world, .returned result⟩) :
    f.Returns ι target options standing := by
  have hdrop := h.exists_dropped (List.prefix_refl f.world.requests)
    (expects_leaves hwrap hat (.returned result))
  generalize hw : { f.world with
    dropped := (call.leaves (.returned result)).toList ++ f.world.dropped } = w at hdrop
  have hbind : ∀ returned, f.pollBind ι target options call wrap returned =
      some (returned w result) := by
    intro returned
    rw [pollBind, hpoll]
    change ((f.world.dropReceiver target (call.leaves (.returned result))).bind fun world => _) = _
    rw [hdrop]
    rfl
  rcases hwrap with rfl | rfl
  · have hpolled : f.poll ι target options = some (f.connectBound w result) := by
      simp only [poll, hat]
      exact hbind _
    cases result with
    | ok port => exact .now hpolled rfl
    | error e => exact .now hpolled rfl
  · have hpolled : f.poll ι target options = some (f.reconnectBound w result) := by
      simp only [poll, hat]
      exact hbind _
    cases result with
    | ok port => exact .poll hpolled rfl (returns_inFlight rfl)
    | error e => exact .now hpolled rfl

/-- A request is issued where there is room for it, and a task to take it. -/
theorem issue_room {w : World} (hloop : w.InLoop) (hopen : w.controlOpen = true)
    (hroom : w.requests.length - w.taken < CHANNEL_CAP) (request : Request) :
    w.step target (.issue request) = some { w with requests := w.requests ++ [request] } :=
  if_pos ⟨hloop, hopen, hroom⟩

omit [Framed ι] in
variable (ι target options) in
/-- Past its timeout, a wait for the routing activation is over: with the answer if it has come, and
otherwise without one. -/
theorem poll_activation {w : World} (port : UInt16) {r deadline : Nat}
    (hpast : deadline ≤ w.clock)
    (hkind : ∀ answer, answerTo w.log r = some answer → answer.kind = .message) :
    ∃ result, Binding.poll ι target options ⟨w, .awaitingActivation port r deadline⟩ =
      some ⟨w, .returned result⟩ := by
  cases hanswer : answerTo w.log r with
  | none =>
    refine ⟨.ok port, ?_⟩
    have hpolled := World.pollResponse_none hanswer
    by_cases hloop : w.InLoop
    · rw [if_pos hloop] at hpolled
      simp only [Binding.poll, hpolled, if_pos hpast]
      rfl
    · rw [if_neg hloop] at hpolled
      simp only [Binding.poll, hpolled]
      rfl
  | some answer =>
    have hpolled := World.pollResponse_some hanswer
    rcases answer with _ | _ | (e | m)
    · cases hkind _ hanswer
    · cases hkind _ hanswer
    · refine ⟨.error e, ?_⟩
      simp only [Binding.poll, hpolled]
      rfl
    · refine ⟨activationResult port m, ?_⟩
      simp only [Binding.poll, hpolled]
      rfl

omit [Framed ι] in
variable (ι target options) in
/-- With the answer to its bind, a call comes back, or goes on to its routing activation. -/
theorem poll_bound {w : World} {r : Nat} {answer : Answer}
    (hanswer : answerTo w.log r = some answer) (hkind : answer.kind = .port) :
    (∃ result, Binding.poll ι target options ⟨w, .awaitingBind r⟩ = some ⟨w, .returned result⟩) ∨
    ∃ port, answer = .port (.ok port) ∧ options.routingActivationOptions ≠ none ∧ w.InLoop ∧
      (w.controlOpen = true → w.requests.length - w.taken < CHANNEL_CAP →
        ∃ message, Binding.poll ι target options ⟨w, .awaitingBind r⟩ = some
          ⟨{ w with requests := w.requests ++ [.routingActivation message] },
            .activationSent port w.requests.length⟩) := by
  have hpolled := World.pollResponse_some hanswer
  rcases answer with (e | port) | _ | _
  · refine .inl ⟨.error e, ?_⟩
    simp only [Binding.poll, hpolled]
    rfl
  · cases hrouting : options.routingActivationOptions with
    | none =>
      refine .inl ⟨.ok port, ?_⟩
      simp only [Binding.poll, hpolled, hrouting]
      rfl
    | some routing =>
      obtain ⟨message, hmessage⟩ := routingActivationRequest_isSome ι
        options.inner.protocolVersion options.inner.clientLogicalAddress routing.activationType
        routing.oemSpecific
      have hpoll : Binding.poll ι target options ⟨w, .awaitingBind r⟩ =
          Binding.send target ⟨w, .awaitingBind r⟩ (.routingActivation message)
            .routingActivationFailed (.activationSent port) := by
        simp only [Binding.poll, hpolled, hrouting, hmessage]
        rfl
      by_cases hloop : w.InLoop
      · refine .inr ⟨port, rfl, Option.some_ne_none _, hloop, fun hopen hroom => ⟨message, ?_⟩⟩
        rw [hpoll, Binding.send, if_pos hloop]
        change (w.step target (.issue (.routingActivation message))).map _ = _
        rw [issue_room hloop hopen hroom]
        rfl
      · refine .inl ⟨.error .routingActivationFailed, ?_⟩
        rw [hpoll, Binding.send, if_neg hloop]
        rfl
  · cases hkind
  · cases hkind

section
variable {wrap : BindCall → CallState}

theorem BindsBy.expects (hwrap : BindsBy wrap) (call : BindCall) :
    (wrap call).expects = call.expects := by
  rcases hwrap with rfl | rfl <;> rfl

theorem BindsBy.ends (hwrap : BindsBy wrap) {call : BindCall} {w : World}
    (h : (wrap call).Ends w) : w.updatesOpen = true ∧ w.controlOpen = true := by
  rcases hwrap with rfl | rfl <;> exact h

/-- A call that waits for its routing activation comes back, whatever its task does. -/
theorem Sound.returns_activation (h : f.Sound target options) (hwrap : BindsBy wrap)
    {port : UInt16} {r deadline : Nat}
    (hat : f.underway = wrap (.awaitingActivation port r deadline)) :
    f.Returns ι target options standing := by
  have hexpects : f.underway.expects = some (r, .message) := by
    rw [hat, hwrap.expects]
    rfl
  obtain ⟨result, hpoll⟩ := poll_activation ι target options
    (w := { f.world with clock := f.world.clock + deadline }) port
    (Nat.le_add_left deadline f.world.clock) fun answer => h.kind hexpects
  exact .wait deadline ((h.worked (a := .wait deadline) rfl rfl).returns_bind hwrap hat hpoll)

/-- So does one that is about to wait for it, since the wait begins with the next poll. -/
theorem Sound.returns_activationSent (h : f.Sound target options) (hwrap : BindsBy wrap)
    {port : UInt16} {r : Nat} (hat : f.underway = wrap (.activationSent port r)) :
    f.Returns ι target options standing := by
  have hpoll := h.poll_bind (ι := ι) hwrap hat rfl (List.prefix_refl _) fun result h => by cases h
  exact .poll hpoll rfl ((h.polled hpoll).returns_activation hwrap rfl)

/-- A call whose bind was answered comes back, if there is room for its next request. -/
theorem Sound.returns_bound (h : f.Sound target options) (hwrap : BindsBy wrap) {r : Nat}
    (hat : f.underway = wrap (.awaitingBind r)) {answer : Answer}
    (hanswer : answerTo f.world.log r = some answer)
    (hroom : f.world.InLoop → (∃ port, answer = .port (.ok port)) →
      options.routingActivationOptions ≠ none →
        f.world.requests.length - f.world.taken < CHANNEL_CAP) :
    f.Returns ι target options standing := by
  have hexpects : f.underway.expects = some (r, .port) := by
    rw [hat, hwrap.expects]
    rfl
  have hends := h.ends
  rw [hat] at hends
  rcases poll_bound ι target options hanswer (h.kind hexpects hanswer) with
    ⟨result, hpoll⟩ | ⟨port, hport, hrouting, hloop, hissue⟩
  · exact h.returns_bind hwrap hat hpoll
  · obtain ⟨message, hpoll⟩ := hissue (hwrap.ends hends).2 (hroom hloop ⟨port, hport⟩ hrouting)
    have hpolled := h.poll_bind hwrap hat hpoll (List.prefix_append _ _) fun result h => by cases h
    exact .poll hpolled rfl ((h.polled hpolled).returns_activationSent hwrap rfl)

/-- A task that has taken every request has left room in the control channel. -/
theorem room_of_taken {w : World} (h : w.requests.length ≤ w.taken) :
    w.requests.length - w.taken < CHANNEL_CAP := by
  rw [Nat.sub_eq_zero_of_le h]
  decide

/-- A call that waits for its bind comes back, from the head of the loop: the task answers the bind,
and has then room for the routing activation, or it has ended. -/
theorem Sound.returns_awaitingBind (h : f.Sound target options) (hwrap : BindsBy wrap) {r : Nat}
    (hat : f.underway = wrap (.awaitingBind r))
    (hfree : f.world.InLoop → f.world.phase = .loopHead) : f.Returns ι target options .atEase := by
  have hexpects : f.underway.expects = some (r, .port) := by
    rw [hat, hwrap.expects]
    rfl
  obtain ⟨request, hrequest, -⟩ := h.expects r _ hexpects
  have hlt := (List.getElem?_eq_some_iff.mp hrequest).1
  refine .task (h.reached.brings_answered hfree hlt) ?_
  rintro w ⟨hreached, hdriven, hanswered⟩
  have hw := h.driven hreached hdriven
  cases hanswer : answerTo w.log r with
  | some answer =>
    exact hw.returns_bound hwrap hat hanswer fun hloop _ _ => room_of_taken (hanswered hloop).2
  | none =>
    have hended : ¬ w.InLoop := fun hloop => (hanswered hloop).1 hanswer
    have hpolled := World.pollResponse_none hanswer
    rw [if_neg hended] at hpolled
    have hpoll : Binding.poll ι target options ⟨w, .awaitingBind r⟩ = some ⟨w, .returned
        (.error (.bindFailed "Connection task terminated unexpectedly"))⟩ := by
      simp only [Binding.poll, hpolled]
      rfl
    exact hw.returns_bind hwrap hat hpoll

/-- A call that is about to bind comes back, from the head of the loop: the task makes room for the
bind and answers it, or it has ended. -/
theorem Sound.returns_bindBegun (h : f.Sound target options) (hwrap : BindsBy wrap)
    (hat : f.underway = wrap .begun) (hfree : f.world.InLoop → f.world.phase = .loopHead) :
    f.Returns ι target options .atEase := by
  refine .task (h.reached.brings_all hfree) ?_
  rintro w ⟨hreached, hdriven, htaken⟩
  have hw := h.driven hreached hdriven
  by_cases hloop : w.InLoop
  · have hends := hw.ends
    rw [show CallState.Ends w f.underway = _ from congrArg _ hat] at hends
    have hroom := room_of_taken (htaken hloop)
    have hpoll : Binding.poll ι target options ⟨w, .begun⟩ = some
        ⟨{ w with requests := w.requests ++ [.bindSocket options.serverAddress] },
          .awaitingBind w.requests.length⟩ := by
      simp only [Binding.poll, Binding.send, if_pos hloop]
      rw [issue_room hloop (hwrap.ends hends).2 hroom]
      rfl
    have hpolled := hw.poll_bind hwrap hat hpoll (List.prefix_append _ _) fun result h => by cases h
    exact .poll hpolled rfl ((hw.polled hpolled).returns_awaitingBind hwrap rfl hdriven.free)
  · have hpoll : Binding.poll ι target options ⟨w, .begun⟩ = some ⟨w, .returned
        (.error (.bindFailed "Could not send BindSocket message to inner client"))⟩ := by
      simp only [Binding.poll, Binding.send, if_neg hloop]
      rfl
    exact hw.returns_bind hwrap hat hpoll

end

/-! ### Methods that make one request -/

/-- A call whose request was answered comes back with the next poll, wherever its tasks stand. -/
theorem Sound.returns_answered (h : f.Sound target options) {method : Method} {r : Nat}
    (hat : f.underway = .awaiting method r) {answer : Answer}
    (hanswer : answerTo f.world.log r = some answer) : f.Returns ι target options standing := by
  have hexpects : f.underway.expects = some (r, method.kind) := by
    rw [hat]
    rfl
  obtain ⟨result, hresult⟩ := Method.exists_answered (h.kind hexpects hanswer)
  have hpoll : f.poll ι target options = some (f.back f.world result) := by
    simp only [poll, hat, World.pollResponse_some hanswer, hresult]
    rfl
  exact .now hpoll rfl

/-- A call that waits for its answer comes back, from the head of the loop: the task answers its
request, or has ended. -/
theorem Sound.returns_awaiting (h : f.Sound target options) {method : Method} {r : Nat}
    (hat : f.underway = .awaiting method r)
    (hfree : f.world.InLoop → f.world.phase = .loopHead) : f.Returns ι target options .atEase := by
  have hexpects : f.underway.expects = some (r, method.kind) := by
    rw [hat]
    rfl
  obtain ⟨request, hrequest, -⟩ := h.expects r _ hexpects
  have hlt := (List.getElem?_eq_some_iff.mp hrequest).1
  refine .task (h.reached.brings_answered hfree hlt) ?_
  rintro w ⟨hreached, hdriven, hanswered⟩
  have hw := h.driven hreached hdriven
  cases hanswer : answerTo w.log r with
  | some answer => exact hw.returns_answered hat hanswer
  | none =>
    have hended : ¬ w.InLoop := fun hloop => (hanswered hloop).1 hanswer
    have hpolled := World.pollResponse_none hanswer
    rw [if_neg hended] at hpolled
    have hpoll : poll ι target options { f with world := w } =
        some (back { f with world := w } w method.unanswered) := by
      simp only [poll, hat, hpolled]
    exact .now hpoll rfl

/-- A call that is about to make its request comes back, from the head of the loop: the task makes
room for it, and answers it. -/
theorem Sound.returns_begun (h : f.Sound target options) {method : Method}
    (hat : f.underway = .begun method) (hfree : f.world.InLoop → f.world.phase = .loopHead) :
    f.Returns ι target options .atEase := by
  cases hrequest : method.request ι options.inner with
  | none =>
    have hpoll : f.poll ι target options = some (f.back f.world .panicked) := by
      simp only [poll, hat, hrequest]
    exact .now hpoll rfl
  | some request =>
    refine .task (h.reached.brings_all hfree) ?_
    rintro w ⟨hreached, hdriven, htaken⟩
    have hw := h.driven hreached hdriven
    by_cases hloop : w.InLoop
    · have hends := hw.ends
      rw [show CallState.Ends w f.underway = _ from congrArg _ hat] at hends
      have hroom := room_of_taken (htaken hloop)
      have hpoll : poll ι target options { f with world := w } = some { f with
          world := { w with requests := w.requests ++ [request] }
          underway := .awaiting method w.requests.length } := by
        simp only [poll, hat, hrequest, if_pos hloop]
        rw [issue_room hloop hends.2 hroom]
        rfl
      exact .poll hpoll rfl ((hw.polled hpoll).returns_awaiting rfl hdriven.free)
    · have hpoll : poll ι target options { f with world := w } =
          some (back { f with world := w } w method.unsent) := by
        simp only [poll, hat, hrequest, if_neg hloop]
      exact .now hpoll rfl

/-! ### `shut_down` -/

/-- Once the task has ended, `shut_down` empties the update channel and comes back. By induction on
what is in the channel. -/
theorem returns_ended (hat : f.underway = .draining) (hended : ¬ f.world.InLoop) :
    f.Returns ι target options standing := by
  induction hupdates : f.world.updates generalizing f with
  | nil =>
    have hpoll : f.poll ι target options = some (f.last f.world .shutDown) := by
      simp only [poll, hat, hupdates, if_neg hended]
    exact .now hpoll rfl
  | cons m rest ih =>
    have hpoll : f.poll ι target options =
        some { f with world := { f.world with updates := rest }, underway := .draining } := by
      simp only [poll, hat, hupdates, World.step]
      rfl
    exact .poll hpoll rfl (ih rfl hended rfl)

/-- From the head of its loop the task takes what is left in the control channel, and ends. -/
theorem Sound.returns_drainingFree (h : f.Sound target options) (hat : f.underway = .draining)
    (hfree : f.world.InLoop → f.world.phase = .loopHead) : f.Returns ι target options .atEase := by
  refine .task (h.reached.brings_all hfree) ?_
  rintro w ⟨hreached, hdriven, htaken⟩
  by_cases hloop : w.InLoop
  · have hends := (h.driven hreached hdriven).ends
    rw [show CallState.Ends w f.underway = _ from congrArg _ hat] at hends
    have hend : ∀ socketOpen, w.step target (.turn .control socketOpen (.ok ())) =
        some { w with phase := .exited } := by
      have hnone : w.select .control = none := by
        rw [World.select, List.getElem?_eq_none_iff.mpr (htaken hloop)]
        rfl
      intro socketOpen
      simp only [World.step, hdriven.free hloop, hnone, hends.2]
      rfl
    refine .task (P := fun w' => w' = { w with phase := .exited })
      (.turn .control (hdriven.free hloop) (.inr hends.2) (fun _ => StackMove.ofTasks_of_serves)
        fun socketOpen w' hstep => .here (Option.some.inj (hstep.symm.trans (hend socketOpen)))) ?_
    rintro w' rfl
    refine returns_ended hat fun hloop => ?_
    rcases hloop with hloop | ⟨m, hloop⟩ <;> cases hloop
  · exact returns_ended hat hloop

/-- A task that waits for room in the update channel gets it where there is some, and is at the head
of its loop. -/
theorem Returns.resume {m : OwnedMessage} (hblocked : f.world.phase = .updateBlocked m)
    (hopen : f.world.updatesOpen = true) (hroom : f.world.updates.length < CHANNEL_CAP)
    (h : ∀ w, f.world.step target .resume = some w → w.phase = .loopHead →
      Returns ι target options .atEase { f with world := w }) :
    f.Returns ι target options .atEase := by
  have hresume : f.world.step target .resume = some { f.world with
      updates := f.world.updates ++ [m], phase := .loopHead } := by
    have hguard : ¬ f.world.updatesOpen = true ∨ f.world.updates.length < CHANNEL_CAP :=
      .inr hroom
    simp only [World.step, hblocked]
    rw [if_pos hguard, World.sendUpdate, if_neg (by simp [hopen]), if_pos hroom]
  refine .task (P := fun w => w = _) (.outside .resume rfl rfl hresume (.here rfl)) ?_
  rintro w rfl
  exact h _ hresume rfl

/-- `shut_down` comes back: it reads the update channel, and so makes room itself for a task that
waits for some. -/
theorem Sound.returns_draining (h : f.Sound target options) (hat : f.underway = .draining) :
    f.Returns ι target options .atEase := by
  induction hn : f.world.updates.length using Nat.strongRecOn generalizing f with
  | ind n ih =>
  by_cases hblocked : f.world.Blocked
  · obtain ⟨m, hm⟩ := hblocked
    have hends := h.ends
    rw [hat] at hends
    by_cases hroom : f.world.updates.length < CHANNEL_CAP
    · exact .resume hm hends.1 hroom fun w hstep hhead =>
        (h.worked rfl hstep).returns_drainingFree hat fun _ => hhead
    · cases hupdates : f.world.updates with
      | nil =>
        rw [hupdates] at hroom
        exact absurd (by decide) hroom
      | cons m' rest =>
        have hpoll : f.poll ι target options =
            some { f with world := { f.world with updates := rest }, underway := .draining } := by
          simp only [poll, hat, hupdates, World.step]
          rfl
        refine .poll hpoll rfl (ih rest.length ?_ (h.polled hpoll) rfl rfl)
        rw [← hn, hupdates]
        exact Nat.lt_succ_self _
  · refine h.returns_drainingFree hat fun hloop => ?_
    rcases hloop with hhead | hupdate
    · exact hhead
    · exact absurd hupdate hblocked

/-- So does one that is about to drop the sender of the control channel, as its next poll does. -/
theorem Sound.returns_shuttingDown (h : f.Sound target options)
    (hat : f.underway = .shuttingDown) : f.Returns ι target options .atEase := by
  have hpoll : f.poll ι target options = some { f with
      world := { f.world with controlOpen := false }, underway := .draining } := by
    simp only [poll, hat, World.step]
    rfl
  exact .poll hpoll rfl ((h.polled hpoll).returns_draining rfl)

end

end Facade

/-! ## Calls that hang -/

/-- The call of `bind_socket` cannot go on without the task: its bind has to be answered, or its
routing activation needs room in the control channel. -/
def BindCall.NeedsTask (options : BindOptions) (w : World) : BindCall → Prop
  | .begun => True
  | .awaitingBind response =>
    match answerTo w.log response with
    | none => True
    | some (.port (.ok _)) =>
      options.routingActivationOptions ≠ none ∧ CHANNEL_CAP ≤ w.requests.length - w.taken
    | some _ => False
  | .activationSent _ _ | .awaitingActivation _ _ _ | .returned _ => False

/-- The call underway cannot come back without the task, which has to answer its request or make
room for it. -/
def CallState.NeedsTask (ι : Type) [WireCodec ι] (options : BindOptions) (w : World) :
    CallState → Prop
  | .begun method => method.request ι options.inner ≠ none
  | .awaiting _ response => answerTo w.log response = none
  | .connecting call | .reconnecting call => call.NeedsTask options w
  | .idle | .inFlight _ | .shuttingDown | .draining | .gone => False

/-- The call underway is a `shut_down`, which comes back when the task has ended. It needs no
answer. -/
def CallState.Closing (underway : CallState) : Prop :=
  underway = .shuttingDown ∨ underway = .draining

namespace Facade

section
variable {ι : Type} [WireCodec ι] {target : Target} {options : BindOptions} {f f' : Facade}

variable (ι options) in
/-- The call underway needs the task, which waits for room in a full update channel. -/
structure Stuck (f : Facade) : Prop where
  blocked : f.world.Blocked
  full : CHANNEL_CAP ≤ f.world.updates.length
  needs : f.underway.NeedsTask ι options f.world

/-- A request that was not issued was not answered, so the next one begins without an answer. -/
theorem Sound.unanswered (h : f.Sound target options) :
    answerTo f.world.log f.world.requests.length = none := by
  obtain ⟨actions, hrun⟩ := h.reached
  cases hanswer : answerTo f.world.log f.world.requests.length with
  | none => rfl
  | some answer =>
    obtain ⟨request, hrequest, -⟩ :=
      (World.typed_of_run hrun).answers _ answer (mem_of_answerTo hanswer)
    rw [List.getElem?_eq_none_iff.mpr (Nat.le_refl _)] at hrequest
    cases hrequest

/-- What a poll of `bind_socket` comes to while it needs a task that waits: it issues its request,
and needs the task again. -/
theorem needsTask_advanced {w w' : World} {call call' : BindCall} (hloop : w.InLoop)
    (hneeds : call.NeedsTask options w) (h : call.Advanced target options w w' call') :
    call = .begun ∧ call' = .awaitingBind w.requests.length ∧
      w.step target (.issue (.bindSocket options.serverAddress)) = some w' := by
  cases h with
  | bindIssued hloop hissue => exact ⟨rfl, rfl, hissue⟩
  | bindUnsent hended | bindClosed hanswer hended | activationUnsent hanswer hended =>
    exact absurd hloop hended
  | activationIssued hanswer hrouting hloop hissue =>
    rw [BindCall.NeedsTask, hanswer] at hneeds
    cases World.moved_of_step hissue with
    | issued _ _ hroom => exact absurd hroom (Nat.not_lt.mpr hneeds.2)
  | bound hanswer hrouting =>
    rw [BindCall.NeedsTask, hanswer] at hneeds
    exact absurd hrouting hneeds.1
  | bindFailed hanswer =>
    rw [BindCall.NeedsTask, hanswer] at hneeds
    cases hneeds
  | timed | activated | activationFailed | activationTolerated => cases hneeds

/-- A `bind_socket` that needs a task in its loop does not return. -/
theorem needsTask_not_returned {w w' : World} {call : BindCall} {result : Except Error UInt16}
    (hloop : w.InLoop) (hneeds : call.NeedsTask options w) :
    ¬ call.Advanced target options w w' (.returned result) := by
  intro hadvanced
  obtain ⟨-, hcall, -⟩ := needsTask_advanced hloop hneeds hadvanced
  cases hcall

/-- A poll of a `bind_socket` that needs the task issues its request at most, which nobody has
answered yet, so that it needs the task again. -/
theorem Sound.needs_polled (hsound : f.Sound target options) {call call' : BindCall}
    {w w' : World} (hloop : f.world.InLoop) (hneeds : call.NeedsTask options f.world)
    (hadvanced : call.Advanced target options f.world w call')
    (hdrop : w.dropReceiver target (call.leaves call') = some w') :
    call'.NeedsTask options w' ∧ w'.phase = f.world.phase ∧ w'.updates = f.world.updates := by
  obtain ⟨rfl, rfl, hissue⟩ := needsTask_advanced hloop hneeds hadvanced
  obtain ⟨rfl, -, -⟩ := World.of_dropReceiver hdrop
  rw [World.eq_of_step_issue hissue]
  refine ⟨?_, rfl, rfl⟩
  simp only [BindCall.NeedsTask, hsound.unanswered]

/-- Time alone gives no call what it needs: neither an answer nor room depends on the clock. -/
theorem needsTask_wait {underway : CallState} {w : World} (duration : Nat) :
    underway.NeedsTask ι options { w with clock := w.clock + duration } ↔
      underway.NeedsTask ι options w := by
  cases underway with
  | connecting call => cases call <;> exact Iff.rfl
  | reconnecting call => cases call <;> exact Iff.rfl
  | _ => exact Iff.rfl

/-- The move lets time pass, if it is one of the task. Moves of the call underway are not
restricted. -/
def OnlyWaits (target : Target) (f : Facade) (move : FacadeMove) : Prop :=
  ∀ action w, move = .task action → f.world.step target action = some w →
    ∃ duration, w = { f.world with clock := f.world.clock + duration }

/-- **A call that needs a task which does nothing** needs it afterwards, and does not come back,
unless it is cancelled. -/
theorem Sound.needs_step (hsound : f.Sound target options) (hloop : f.world.InLoop)
    (hneeds : f.underway.NeedsTask ι options f.world) {move : FacadeMove} (hmove : move ≠ .cancel)
    (hwaits : f.OnlyWaits target move) (hstep : f.step ι target options move = some f') :
    f'.underway.NeedsTask ι options f'.world ∧ f'.world.phase = f.world.phase ∧
      f'.world.updates = f.world.updates ∧ f'.results = f.results := by
  cases moved_of_step hstep with
  | called hidle | reconnectCalled hidle | shutDownCalled hidle | dropped hidle =>
    rw [hidle] at hneeds
    cases hneeds
  | worked htask hwork =>
    obtain ⟨duration, rfl⟩ := hwaits _ _ rfl hwork
    exact ⟨(needsTask_wait duration).mpr hneeds, rfl, rfl, rfl⟩
  | panicked hat hrequest =>
    rw [hat] at hneeds
    exact absurd hrequest hneeds
  | issued hat hrequest hloop hissue =>
    rw [World.eq_of_step_issue hissue]
    exact ⟨hsound.unanswered, rfl, rfl, rfl⟩
  | unsent hat hended => exact absurd hloop hended
  | answered hat hanswer hresult =>
    rw [hat] at hneeds
    cases hneeds.symm.trans hanswer
  | unanswered hat hanswer hended => exact absurd hloop hended
  | connectPolled hat hadvanced hdrop hnot | reconnectPolled hat hadvanced hdrop hnot =>
    rw [hat] at hneeds
    obtain ⟨hcall, hphase, hupdates⟩ := hsound.needs_polled hloop hneeds hadvanced hdrop
    exact ⟨hcall, hphase, hupdates, rfl⟩
  | connected hat hadvanced | connectFailed hat hadvanced | rebound hat hadvanced
  | reconnectFailed hat hadvanced =>
    rw [hat] at hneeds
    exact absurd hadvanced (needsTask_not_returned hloop hneeds)
  | foundInFlight hat | nothingInFlight hat | senderDropped hat | drained hat | shutDown hat =>
    rw [hat] at hneeds
    cases hneeds
  | abandoned | ownerAbandoned => exact absurd rfl hmove

/-- **A `shut_down` beside a task in its loop** goes on, and does not come back, unless it is
cancelled. -/
theorem closing_step (hloop : f.world.InLoop) (hat : f.underway.Closing) {move : FacadeMove}
    (hmove : move ≠ .cancel) (hstep : f.step ι target options move = some f') :
    f'.underway.Closing ∧ f'.results = f.results := by
  cases moved_of_step hstep with
  | worked htask hwork => exact ⟨hat, rfl⟩
  | senderDropped | drained => exact ⟨.inr rfl, rfl⟩
  | shutDown _ _ hended => exact absurd hloop hended
  | abandoned | ownerAbandoned => exact absurd rfl hmove
  | _ hat₁ => rcases hat with hat | hat <;> cases hat₁.symm.trans hat

/-! ### Waiting for room in the update channel -/

theorem Stuck.inLoop (h : f.Stuck ι options) : f.world.InLoop := .inr h.blocked

/-- A call that needs the task has not given its client up, so the receiver of the update channel is
there. -/
theorem Stuck.open (h : f.Stuck ι options) (hsound : f.Sound target options) :
    f.world.updatesOpen = true := by
  have hends := hsound.ends
  have hneeds := h.needs
  cases hat : f.underway <;> rw [hat] at hends hneeds <;> first | exact hends.1 | cases hneeds

/-- While the update channel is full, a task that waits for room in it only lets time pass. -/
theorem Stuck.onlyWaits (h : f.Stuck ι options) (hsound : f.Sound target options)
    {move : FacadeMove} (hstep : f.step ι target options move = some f') :
    f.OnlyWaits target move := by
  rintro action w rfl hwork
  obtain ⟨m, hm⟩ := h.blocked
  have ha : action.ofTask = true := by
    cases moved_of_step hstep with
    | worked htask => exact htask
  cases World.moved_of_step hwork with
  | issued | abandoned | controlClosed | updateRead | updatesDropped => cases ha
  | waited duration => exact ⟨duration, rfl⟩
  | turned hhead => cases hm.symm.trans hhead
  | ended hhead => cases hm.symm.trans hhead
  | resumed hphase hroom =>
    rcases hroom with hclosed | hroom
    · exact absurd (h.open hsound) hclosed
    · exact absurd hroom (Nat.not_lt.mpr h.full)

/-- **A call that is stuck stays so**, and does not come back, unless it is cancelled. -/
theorem Stuck.results_of_run (h : f.Stuck ι options) (hsound : f.Sound target options)
    {moves : List FacadeMove}
    (hmoves : Along (step ι target options) (fun _ move => move ≠ .cancel) f moves)
    (hrun : run (step ι target options) f moves = some f') : f'.results = f.results := by
  have hkeeps := run_invariant_along (P := fun f₁ => f₁.Sound target options ∧
    f₁.Stuck ι options ∧ f₁.results = f.results) ?_ hmoves hrun ⟨hsound, h, rfl⟩
  · exact hkeeps.2.2
  · rintro f₁ move f₂ hmove hstep ⟨hsound₁, h₁, hresults₁⟩
    obtain ⟨hneeds, hphase, hupdates, hresults₂⟩ := hsound₁.needs_step h₁.inLoop h₁.needs hmove
      (h₁.onlyWaits hsound₁ hstep) hstep
    refine ⟨hsound₁.step hstep, ⟨?_, ?_, hneeds⟩, hresults₂.trans hresults₁⟩
    · rw [World.Blocked, hphase]
      exact h₁.blocked
    · rw [hupdates]
      exact h₁.full

end

section
variable {ι : Type} [WireCodec ι] [Framed ι] {target : Target} {options : BindOptions}
  {f f' : Facade} {standing : Standing}

/-- **A call comes back**, from the head of the loop, whichever call it is and however far it has
come. -/
theorem Sound.returns_free (h : f.Sound target options) (hidle : f.underway ≠ .idle)
    (hgone : f.underway ≠ .gone) (hfree : f.world.InLoop → f.world.phase = .loopHead) :
    f.Returns ι target options .atEase := by
  have hbind : ∀ {wrap : BindCall → CallState}, BindsBy wrap → ∀ call : BindCall,
      (∀ result, call ≠ .returned result) → f.underway = wrap call →
      f.Returns ι target options .atEase := by
    intro wrap hwrap call hnot hat
    cases call with
    | begun => exact h.returns_bindBegun hwrap hat hfree
    | awaitingBind r => exact h.returns_awaitingBind hwrap hat hfree
    | activationSent port r => exact h.returns_activationSent hwrap hat
    | awaitingActivation port r deadline => exact h.returns_activation hwrap hat
    | returned result => exact absurd rfl (hnot result)
  have hrunning := h.running
  cases hat : f.underway with
  | idle => exact absurd hat hidle
  | gone => exact absurd hat hgone
  | begun method => exact h.returns_begun hat hfree
  | awaiting method r => exact h.returns_awaiting hat hfree
  | connecting call =>
    rw [hat] at hrunning
    exact hbind (.inl rfl) call hrunning hat
  | reconnecting call =>
    rw [hat] at hrunning
    exact hbind (.inr rfl) call hrunning hat
  | inFlight deadline => exact returns_inFlight hat
  | shuttingDown => exact h.returns_shuttingDown hat
  | draining => exact h.returns_draining hat

/-- A call that does not need the task comes back without it, wherever the tasks stand. A
`shut_down` is left out: it needs the task to end. -/
theorem Sound.returns_alone (h : f.Sound target options) (hidle : f.underway ≠ .idle)
    (hgone : f.underway ≠ .gone) (hclosing : ¬ f.underway.Closing)
    (hneeds : ¬ f.underway.NeedsTask ι options f.world) :
    f.Returns ι target options standing := by
  have hbind : ∀ {wrap : BindCall → CallState}, BindsBy wrap → ∀ call : BindCall,
      (∀ result, call ≠ .returned result) → ¬ call.NeedsTask options f.world →
      f.underway = wrap call → f.Returns ι target options standing := by
    intro wrap hwrap call hnot hneeds hat
    cases call with
    | begun => exact absurd trivial hneeds
    | awaitingBind r =>
      rw [BindCall.NeedsTask] at hneeds
      cases hanswer : answerTo f.world.log r with
      | none =>
        rw [hanswer] at hneeds
        exact absurd trivial hneeds
      | some answer =>
        refine h.returns_bound hwrap hat hanswer fun hloop hport hrouting => ?_
        obtain ⟨port, rfl⟩ := hport
        rw [hanswer] at hneeds
        exact Nat.not_le.mp fun hfull => hneeds ⟨hrouting, hfull⟩
    | activationSent port r => exact h.returns_activationSent hwrap hat
    | awaitingActivation port r deadline => exact h.returns_activation hwrap hat
    | returned result => exact absurd rfl (hnot result)
  have hrunning := h.running
  cases hat : f.underway with
  | idle => exact absurd hat hidle
  | gone => exact absurd hat hgone
  | begun method =>
    rw [hat] at hneeds
    have hpoll : f.poll ι target options = some (f.back f.world .panicked) := by
      simp only [poll, hat, not_not.mp hneeds]
    exact .now hpoll rfl
  | awaiting method r =>
    rw [hat] at hneeds
    obtain ⟨answer, hanswer⟩ := Option.ne_none_iff_exists'.mp hneeds
    exact h.returns_answered hat hanswer
  | connecting call =>
    rw [hat] at hrunning hneeds
    exact hbind (.inl rfl) call hrunning hneeds hat
  | reconnecting call =>
    rw [hat] at hrunning hneeds
    exact hbind (.inr rfl) call hrunning hneeds hat
  | inFlight deadline => exact returns_inFlight hat
  | shuttingDown => exact absurd (.inl hat) hclosing
  | draining => exact absurd (.inr hat) hclosing

/-- **A call that is not stuck can come back**, with its tasks at ease. A task that waits for room
in the update channel finds some, or the call reads the channel or does without the task. -/
theorem Sound.returns (h : f.Sound target options) (hidle : f.underway ≠ .idle)
    (hgone : f.underway ≠ .gone) (hstuck : ¬ f.Stuck ι options) :
    f.Returns ι target options .atEase := by
  by_cases hclosing : f.underway.Closing
  · exact hclosing.elim h.returns_shuttingDown h.returns_draining
  by_cases hneeds : f.underway.NeedsTask ι options f.world
  · by_cases hblocked : f.world.Blocked
    · have hroom : f.world.updates.length < CHANNEL_CAP :=
        Nat.not_le.mp fun hfull => hstuck ⟨hblocked, hfull, hneeds⟩
      have hopen : f.world.updatesOpen = true := by
        have hends := h.ends
        cases hat : f.underway <;> rw [hat] at hends hneeds <;>
          first | exact hends.1 | cases hneeds
      obtain ⟨m, hm⟩ := hblocked
      exact .resume hm hopen hroom fun w hstep hhead =>
        (h.worked rfl hstep).returns_free hidle hgone fun _ => hhead
    · refine h.returns_free hidle hgone fun hloop => ?_
      rcases hloop with hhead | hupdate
      · exact hhead
      · exact absurd hupdate hblocked
  · exact h.returns_alone hidle hgone hclosing hneeds

end

section
variable {ι : Type} [WireCodec ι] {target : Target} {options : BindOptions} {f f' : Facade}

/-- In every run, a client is sound, from the start of `connect` on. -/
theorem sound_of_run {moves : List FacadeMove}
    (hrun : run (step ι target options) (start options) moves = some f) :
    f.Sound target options := by
  refine run_invariant (P := Sound target options) (fun _ _ _ hstep h => h.step hstep) hrun ?_
  exact .quiet ⟨[], rfl⟩ rfl (fun result h => by cases h) ⟨rfl, rfl⟩

end

end Facade

namespace Interface

section
variable {ι : Type} [WireCodec ι] [Framed ι] {target : Target} {options : BindOptions}
  {g g' : Interface ι}

/-- In every run, the client of an interface is sound, because its run is one of the facade. -/
theorem sound_of_run {moves : List InterfaceMove}
    (hrun : run (step target options) (start ι options) moves = some g) :
    g.facade.Sound target options :=
  Facade.sound_of_run (facade_of_run hrun)

/-- A move of the interface keeps its client sound, as it is a move of the facade or none. -/
theorem sound_step {a : InterfaceMove} (h : g.facade.Sound target options)
    (hstep : g.step target options a = some g') : g'.facade.Sound target options :=
  run_invariant (P := Facade.Sound target options) (fun _ _ _ hstep h => h.step hstep)
    (facade_step hstep) h

/-- What is not cancelled at the interface is not cancelled at the facade either: the tasks cancel
no call. -/
theorem along_uncancelled {more : List InterfaceMove}
    (hmore : ∀ move ∈ more, move ≠ .client .cancel)
    (hrun : run (step target options) g more = some g') :
    Along (Facade.step ι target options) (fun _ move => move ≠ .cancel) g.facade
      (g.facadeMoves target options more) := by
  refine (along_seen (fun _ _ _ => facade_step) hrun).mp ((along_of_forall hmore g).imp ?_)
  rintro g₁ move hmove _ hseen rfl
  cases move with
  | client move =>
    cases hseen
    exact hmove rfl
  | tasks move =>
    obtain ⟨action, -, haction⟩ := Option.map_eq_some_iff.mp hseen
    cases haction

/-! ### Waiting for each other -/

/-- **A call in a deadlock**: one that needs the task, or shuts the client down, goes on waiting,
and does not come back, unless it is cancelled. -/
theorem deadlocked_step (hsound : g.facade.Sound target options) (hlinked : g.stack.Linked)
    (hdeadlocked : g.stack.Deadlocked)
    (hawaits : g.underway.NeedsTask ι options g.stack.world ∨ g.underway.Closing)
    {a : InterfaceMove} (ha : a ≠ .client .cancel) (hstep : g.step target options a = some g') :
    g'.stack.Deadlocked ∧
      (g'.underway.NeedsTask ι options g'.stack.world ∨ g'.underway.Closing) ∧
      g'.results = g.results := by
  have hloop : g.stack.world.InLoop := .inl (hdeadlocked.head hlinked)
  cases a with
  | tasks move =>
    obtain ⟨htasks, hmove, hunderway, hresults⟩ := of_tasks hstep
    obtain ⟨duration, hworld⟩ := hdeadlocked.onlyWaits hlinked htasks hmove
    refine ⟨(hdeadlocked.step hlinked hmove).1, ?_, hresults⟩
    rw [hunderway, hworld, Facade.needsTask_wait]
    exact hawaits
  | client move =>
    obtain ⟨htask, hfacade, -⟩ := of_client hstep
    have hmove : move ≠ .cancel := fun h => ha (congrArg _ h)
    have hwaits : g.facade.OnlyWaits target move := by
      rintro action w rfl
      cases htask
    refine ⟨(stands_of_client .deadlocked hlinked hstep).2 hdeadlocked, ?_⟩
    rcases hawaits with hneeds | hclosing
    · obtain ⟨hneeds', -, -, hresults⟩ := hsound.needs_step hloop hneeds hmove hwaits hfacade
      exact ⟨.inl hneeds', hresults⟩
    · obtain ⟨hclosing', hresults⟩ := Facade.closing_step hloop hclosing hmove hfacade
      exact ⟨.inr hclosing', hresults⟩

/-- From a deadlock no such call comes back: the task does nothing that it could wait for. -/
theorem results_of_deadlocked (hsound : g.facade.Sound target options)
    (hlinked : g.stack.Linked) (hdeadlocked : g.stack.Deadlocked)
    (hawaits : g.underway.NeedsTask ι options g.stack.world ∨ g.underway.Closing)
    {more : List InterfaceMove} (hmore : ∀ move ∈ more, move ≠ .client .cancel)
    (hrun : run (step target options) g more = some g') : g'.results = g.results := by
  have hkeeps := run_invariant_along (P := fun g₁ : Interface ι =>
    g₁.facade.Sound target options ∧ g₁.stack.Linked ∧ g₁.stack.Deadlocked ∧
      (g₁.underway.NeedsTask ι options g₁.stack.world ∨ g₁.underway.Closing) ∧
      g₁.results = g.results) ?_ (along_of_forall hmore g) hrun
    ⟨hsound, hlinked, hdeadlocked, hawaits, rfl⟩
  · exact hkeeps.2.2.2.2
  · rintro g₁ a g₂ ha hstep ⟨hsound₁, hlinked₁, hdeadlocked₁, hawaits₁, hresults₁⟩
    obtain ⟨hdeadlocked₂, hawaits₂, hresults₂⟩ :=
      deadlocked_step hsound₁ hlinked₁ hdeadlocked₁ hawaits₁ ha hstep
    exact ⟨sound_step hsound₁ hstep, linked_step hlinked₁ hstep, hdeadlocked₂, hawaits₂,
      hresults₂.trans hresults₁⟩

/-- **Which calls hang.** Between two turns, with a socket task that does not wait for room, a call
that is not cancelled never comes back, whatever happens, exactly when it needs the task and the
task waits for room in a full update channel: the channel's only reader is the client, and the
client makes the call. Once the two tasks wait for each other, it never comes back exactly when it
needs the task at all, and neither does a `shut_down`. -/
theorem call_hangs_iff {moves : List InterfaceMove}
    (hrun : run (step target options) (start ι options) moves = some g)
    (hidle : g.underway ≠ .idle) (hgone : g.underway ≠ .gone)
    (hstands : g.stack.AtEase ∨ g.stack.Deadlocked) :
    (∀ more g', run (step target options) g more = some g' →
      (∀ move ∈ more, move ≠ .client .cancel) → g'.results = g.results) ↔
    g.facade.Stuck ι options ∨ g.stack.Deadlocked ∧
      (g.underway.NeedsTask ι options g.stack.world ∨ g.underway.Closing) := by
  have hsound := sound_of_run hrun
  have hlinked := linked_of_run hrun
  constructor
  · intro hhangs
    -- a call that can come back does not hang
    have hnever : ∀ standing, g.stack.Stands standing →
        ¬ g.facade.Returns ι target options standing := by
      intro standing hstanding hreturns
      obtain ⟨more, g', hmore, hmoves, result, hresult⟩ := hreturns g rfl hlinked hstanding
      rw [hhangs more g' hmore hmoves] at hresult
      exact absurd (List.append_right_eq_self.mp hresult.symm) (List.cons_ne_nil _ _)
    rcases hstands with hease | hdeadlocked
    · refine .inl ?_
      by_contra hstuck
      exact hnever .atEase hease (hsound.returns hidle hgone hstuck)
    · refine .inr ⟨hdeadlocked, ?_⟩
      by_contra hawaits
      obtain ⟨hneeds, hclosing⟩ := not_or.mp hawaits
      exact hnever .deadlocked hdeadlocked (hsound.returns_alone hidle hgone hclosing hneeds)
  · rintro (hstuck | ⟨hdeadlocked, hawaits⟩) more g' hmore hmoves
    · exact hstuck.results_of_run hsound (along_uncancelled hmoves hmore) (facade_of_run hmore)
    · exact results_of_deadlocked hsound hlinked hdeadlocked hawaits hmoves hmore

end

section
open Facade (plainOptions)

/-- The client is connected: its bind is answered, and it has no routing activation to make. -/
def connects : List InterfaceMove :=
  [.client .poll, .tasks (.choose .control), .tasks (.turn (.ok ())), .client .poll]

/-- Seventeen alive checks arrive while no call is underway; then a response is called for. -/
def hungRun : List InterfaceMove :=
  connects ++ ((List.replicate 17 checkServed).flatten.map .tasks ++
    [.client (.call (.call (.receiveDiagnosticResponse 1000))), .client .poll])

/-- Thirty-three alive checks arrive at once while a send awaits its acknowledgement. -/
def floodedCall : List InterfaceMove :=
  connects ++ [.client (.call (.call (.sendDiagnosticMessage .logical [0x3E, 0x00]))),
    .client .poll, .tasks (.choose .control), .tasks (.turn (.ok ()))] ++
  Stack.flood.map .tasks

theorem floodedCall_deadlocked :
    letI := plainWire
    letI := plainFramed Incomplete
    ∃ g, run (step releaseTarget plainOptions) (start Incomplete plainOptions)
        floodedCall = some g ∧
      g.underway = .awaiting (.call (.sendDiagnosticMessage .logical [0x3E, 0x00])) 1 ∧
      g.results = [.connected (.ok ())] ∧ g.stack.Deadlocked ∧
      answerTo g.stack.world.log 1 = none := by
  let := plainWire
  let := plainFramed Incomplete
  exact exists_of_any_run (by decide +kernel)

/-- The first of these calls never comes back: its own timeout does not start before the task takes
the request. Neither does the second, whose deadline the task does not look at any more. -/
theorem call_hangs_iff_alive_checks :
    letI := plainWire
    letI := plainFramed Incomplete
    (∃ g, run (step releaseTarget plainOptions) (start Incomplete plainOptions) hungRun = some g ∧
      g.underway = .awaiting (.call (.receiveDiagnosticResponse 1000)) 1 ∧
      ∀ more g', run (step releaseTarget plainOptions) g more = some g' →
        (∀ move ∈ more, move ≠ .client .cancel) → g'.results = [.connected (.ok ())]) ∧
    ∃ g, run (step releaseTarget plainOptions) (start Incomplete plainOptions)
        floodedCall = some g ∧
      ∀ more g', run (step releaseTarget plainOptions) g more = some g' →
        (∀ move ∈ more, move ≠ .client .cancel) → g'.results = [.connected (.ok ())] := by
  let := plainWire
  let := plainFramed Incomplete
  have hbusy : ∀ {g : Interface Incomplete} {method : Method} {r : Nat},
      g.underway = .awaiting method r → g.underway ≠ .idle ∧ g.underway ≠ .gone := by
    intro g method r hat
    rw [hat]
    exact ⟨fun h => (by cases h), fun h => (by cases h)⟩
  constructor
  · have h : ∃ g, run (step releaseTarget plainOptions) (start Incomplete plainOptions)
        hungRun = some g ∧ g.underway = .awaiting (.call (.receiveDiagnosticResponse 1000)) 1 ∧
        g.results = [.connected (.ok ())] ∧ g.stack.AtEase ∧
        g.stack.world.phase = .updateBlocked aliveCheckRequest ∧
        g.stack.world.updates.length = CHANNEL_CAP ∧ answerTo g.stack.world.log 1 = none :=
      exists_of_any_run (by decide +kernel)
    obtain ⟨g, hrun, hat, hresults, hease, hblocked, hfull, hanswer⟩ := h
    have hstuck : g.facade.Stuck Incomplete plainOptions := by
      refine ⟨⟨_, hblocked⟩, hfull.ge, ?_⟩
      rw [facade, hat]
      exact hanswer
    refine ⟨g, hrun, hat, fun more g' hmore hmoves => ?_⟩
    rw [← hresults]
    exact (call_hangs_iff hrun (hbusy hat).1 (hbusy hat).2 (.inl hease)).mpr (.inl hstuck) more g'
      hmore hmoves
  · obtain ⟨g, hrun, hat, hresults, hdeadlocked, hanswer⟩ := floodedCall_deadlocked
    refine ⟨g, hrun, fun more g' hmore hmoves => ?_⟩
    rw [← hresults]
    refine (call_hangs_iff hrun (hbusy hat).1 (hbusy hat).2 (.inr hdeadlocked)).mpr
      (.inr ⟨hdeadlocked, .inl ?_⟩) more g' hmore hmoves
    rw [hat]
    exact hanswer

end

end Interface

/-! ## What `shut_down` leaves -/

namespace Facade

section
variable {ι : Type} [WireCodec ι] {target : Target} {options : BindOptions} {f f' : Facade}

/-- Once `shut_down` has come back, there is no client, its task has ended, and there is nothing
left to read. -/
def Complete (f : Facade) : Prop :=
  .shutDown ∈ f.results → f.underway = .gone ∧ ¬ f.world.InLoop ∧ f.world.updates = []

/-- Nothing is added to the update channel of a task that has ended, and the task does not come
back. -/
theorem ended_of_task {w w' : World} {a : Action} (ha : a.ofTask = true) (hended : ¬ w.InLoop)
    (h : w.step target a = some w') : ¬ w'.InLoop ∧ w'.updates = w.updates := by
  cases World.moved_of_step h with
  | issued | abandoned | controlClosed | updateRead | updatesDropped => cases ha
  | waited => exact ⟨hended, rfl⟩
  | turned hhead => exact absurd (.inl hhead) hended
  | ended hhead => exact absurd (.inl hhead) hended
  | resumed hphase => exact absurd (.inr ⟨_, hphase⟩) hended

theorem Complete.step (h : f.Complete) {move : FacadeMove}
    (hstep : f.step ι target options move = some f') : f'.Complete := by
  intro hmem
  -- a call that is underway has not shut the client down
  have hnone : f.underway ≠ .gone → .shutDown ∉ f.results := fun hat hmem => hat (h hmem).1
  have hadded : ∀ {result : CallResult}, f.underway ≠ .gone → result ≠ .shutDown →
      f'.results = f.results ++ [result] → False := by
    intro result hat hresult hresults
    rw [hresults] at hmem
    rcases List.mem_append.mp hmem with hmem | hmem
    · exact hnone hat hmem
    · exact hresult (List.mem_singleton.mp hmem).symm
  cases moved_of_step hstep with
  | worked htask hwork =>
    obtain ⟨hgone, hended, hempty⟩ := h hmem
    obtain ⟨hended', hupdates⟩ := ended_of_task htask hended hwork
    exact ⟨hgone, hended', hupdates.trans hempty⟩
  | shutDown hat hupdates hended => exact ⟨rfl, hended, hupdates⟩
  | called hat | reconnectCalled hat | shutDownCalled hat | dropped hat | issued hat
  | connectPolled hat | reconnectPolled hat | rebound hat | senderDropped hat | drained hat =>
    exact absurd hmem (hnone (by rw [hat]; intro h; cases h))
  | unsent hat =>
    exact (hadded (by rw [hat]; intro h; cases h) (Method.ne_shutDown _).1 rfl).elim
  | unanswered hat =>
    exact (hadded (by rw [hat]; intro h; cases h) (Method.ne_shutDown _).2.1 rfl).elim
  | answered hat hanswer hresult =>
    refine (hadded (by rw [hat]; intro h; cases h) ?_ rfl).elim
    rintro rfl
    exact (Method.ne_shutDown _).2.2 _ hresult
  | panicked hat | connected hat | connectFailed hat | reconnectFailed hat | foundInFlight hat
  | nothingInFlight hat =>
    exact (hadded (by rw [hat]; intro h; cases h) (by intro h; cases h) rfl).elim
  | abandoned hborrows =>
    refine absurd hmem (hnone fun hat => ?_)
    rw [hat] at hborrows
    cases hborrows
  | ownerAbandoned hdrop =>
    obtain ⟨-, hended, -⟩ := h hmem
    obtain ⟨rfl, -, -⟩ := World.of_dropReceiver hdrop
    exact ⟨rfl, hended, rfl⟩

/-- A client that is gone returns nothing more, whatever its task still does. -/
theorem results_of_gone (hgone : f.underway = .gone) {more : List FacadeMove}
    (hrun : run (step ι target options) f more = some f') : f'.results = f.results := by
  refine (run_invariant (P := fun f' => f'.underway = .gone ∧ f'.results = f.results) ?_ hrun
    ⟨hgone, rfl⟩).2
  rintro f₁ move f₂ hstep ⟨hat₁, hresults⟩
  cases moved_of_step hstep with
  | worked => exact ⟨hat₁, hresults⟩
  | ownerAbandoned => exact ⟨rfl, hresults⟩
  | abandoned hborrows =>
    rw [hat₁] at hborrows
    cases hborrows
  | _ hat => cases hat₁.symm.trans hat

/-- A `shut_down` that is underway and is not cancelled returns nothing else: it goes on, or it was
the last call to return. -/
theorem results_of_shutDown (hat : f.underway.Closing) {more : List FacadeMove}
    (hmore : Along (step ι target options) (fun _ move => move ≠ .cancel) f more)
    (hrun : run (step ι target options) f more = some f') :
    f'.underway.Closing ∧ f'.results = f.results ∨
      f'.underway = .gone ∧ f'.results = f.results ++ [.shutDown] := by
  refine run_invariant_along (P := fun f' => f'.underway.Closing ∧ f'.results = f.results ∨
    f'.underway = .gone ∧ f'.results = f.results ++ [.shutDown]) ?_ hmore hrun (.inl ⟨hat, rfl⟩)
  intro f₁ move f₂ hmove hstep hf₁
  cases moved_of_step hstep with
  | worked => exact hf₁
  | senderDropped hat₁ =>
    rcases hf₁ with ⟨-, hresults⟩ | ⟨hgone, -⟩
    · exact .inl ⟨.inr rfl, hresults⟩
    · cases hat₁.symm.trans hgone
  | drained hat₁ =>
    rcases hf₁ with ⟨-, hresults⟩ | ⟨hgone, -⟩
    · exact .inl ⟨.inr rfl, hresults⟩
    · cases hat₁.symm.trans hgone
  | shutDown hat₁ =>
    rcases hf₁ with ⟨-, hresults⟩ | ⟨hgone, -⟩
    · exact .inr ⟨rfl, by rw [last, hresults]⟩
    · cases hat₁.symm.trans hgone
  | abandoned | ownerAbandoned => exact absurd rfl hmove
  | _ hat₁ =>
    rcases hf₁ with ⟨hat | hat, -⟩ | ⟨hat, -⟩ <;> cases hat₁.symm.trans hat

end

end Facade

namespace Interface

section
variable {ι : Type} [WireCodec ι] [Framed ι] {target : Target} {options : BindOptions}
  {g g' : Interface ι}

/-- **`shut_down` is complete, and can be completed.** Once it has come back the task has ended, no
message is left in the update channel, and no other call was underway or follows. Wherever it is
underway between two turns, with a socket task that does not wait for room, it can come back without
being cancelled, however the task is blocked on its updates. Once the two tasks wait for each other
it never does. -/
theorem shut_down_complete {moves : List InterfaceMove}
    (hrun : run (step target options) (start ι options) moves = some g) :
    (.shutDown ∈ g.results →
      g.underway = .gone ∧ ¬ g.stack.world.InLoop ∧ g.stack.world.updates = [] ∧
        ∀ more g', run (step target options) g more = some g' → g'.results = g.results) ∧
    (g.underway.Closing →
      (g.stack.AtEase →
        ∃ more g', run (step target options) g more = some g' ∧
          (∀ move ∈ more, move ≠ .client .cancel) ∧ g'.results = g.results ++ [.shutDown]) ∧
      (g.stack.Deadlocked →
        ∀ more g', run (step target options) g more = some g' →
          (∀ move ∈ more, move ≠ .client .cancel) → g'.results = g.results)) := by
  have hsound := sound_of_run hrun
  have hlinked := linked_of_run hrun
  have hcomplete : g.facade.Complete := run_invariant (P := Facade.Complete)
    (fun _ _ _ hstep h => h.step hstep) (facade_of_run hrun)
    fun hmem => absurd hmem List.not_mem_nil
  refine ⟨fun hmem => ?_, fun hat => ⟨fun hease => ?_, fun hdeadlocked more g' hmore hmoves => ?_⟩⟩
  · obtain ⟨hgone, hended, hempty⟩ := hcomplete hmem
    refine ⟨hgone, hended, hempty, fun more g' hmore => ?_⟩
    exact Facade.results_of_gone hgone (facade_of_run hmore)
  · have hreturns : g.facade.Returns ι target options .atEase :=
      hat.elim hsound.returns_shuttingDown hsound.returns_draining
    obtain ⟨more, g', hmore, hmoves, result, hresult⟩ := hreturns g rfl hlinked hease
    refine ⟨more, g', hmore, hmoves, ?_⟩
    have hmoves' := along_uncancelled hmoves hmore
    rcases Facade.results_of_shutDown hat hmoves' (facade_of_run hmore) with
      ⟨-, hresults⟩ | ⟨-, hresults⟩
    · exact absurd (List.append_right_eq_self.mp (hresult.symm.trans hresults))
        (List.cons_ne_nil _ _)
    · exact hresults
  · exact results_of_deadlocked hsound hlinked hdeadlocked (.inr hat) hmoves hmore

end

section
open Facade (plainOptions)

/-- The client gives its call up and shuts down instead. The poll drops the sender of the control
channel, which is how the task is told. -/
def givesUp : List InterfaceMove :=
  [.client .cancel, .client .shutDown, .client .poll]

/-- The `shut_down` of the client of `hungRun` reads the update channel until the task, which takes
the request of the call first, has ended. That of the client of `floodedCall` never comes back. -/
theorem shut_down_complete_alive_checks :
    letI := plainWire
    letI := plainFramed Incomplete
    (∃ g, run (step releaseTarget plainOptions) (start Incomplete plainOptions)
        (hungRun ++ givesUp) = some g ∧ g.stack.world.Blocked ∧
      ∃ more g', run (step releaseTarget plainOptions) g more = some g' ∧
        (∀ move ∈ more, move ≠ .client .cancel) ∧
        g'.results = [.connected (.ok ()), .shutDown]) ∧
    ∃ g, run (step releaseTarget plainOptions) (start Incomplete plainOptions)
        (floodedCall ++ givesUp) = some g ∧
      ∀ more g', run (step releaseTarget plainOptions) g more = some g' →
        (∀ move ∈ more, move ≠ .client .cancel) → g'.results = [.connected (.ok ())] := by
  let := plainWire
  let := plainFramed Incomplete
  constructor
  · have h : ∃ g, run (step releaseTarget plainOptions) (start Incomplete plainOptions)
        (hungRun ++ givesUp) = some g ∧ g.underway = .draining ∧
        g.results = [.connected (.ok ())] ∧ g.stack.AtEase ∧
        g.stack.world.phase = .updateBlocked aliveCheckRequest :=
      exists_of_any_run (by decide +kernel)
    obtain ⟨g, hrun, hat, hresults, hease, hblocked⟩ := h
    obtain ⟨more, g', hmore, hmoves, hresult⟩ := ((shut_down_complete hrun).2 (.inr hat)).1 hease
    rw [hresults] at hresult
    exact ⟨g, hrun, ⟨_, hblocked⟩, more, g', hmore, hmoves, hresult⟩
  · have h : ∃ g, run (step releaseTarget plainOptions) (start Incomplete plainOptions)
        (floodedCall ++ givesUp) = some g ∧ g.underway = .draining ∧
        g.results = [.connected (.ok ())] ∧ g.stack.Deadlocked :=
      exists_of_any_run (by decide +kernel)
    obtain ⟨g, hrun, hat, hresults, hdeadlocked⟩ := h
    refine ⟨g, hrun, fun more g' hmore hmoves => ?_⟩
    rw [← hresults]
    exact ((shut_down_complete hrun).2 (.inr hat)).2 hdeadlocked more g' hmore hmoves

end

end Interface

end SimpleDoip
