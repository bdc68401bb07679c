import SimpleDoip.Client.Freshness

/-!
# Deadlines and the requests they belong to

There is one deadline, and it outlives the request it was set for: a response completes the request
that waits for it and leaves `await_response_deadline` as it is. The deadline branch looks only at
whether there is a request and a deadline, so it is right because the two always belong together:
wherever a request waits, the deadline is the one set in the turn that took that request
(`Armed`).

A deadline that is left over is never looked at. The client that clears it whenever no request is
left (`World.stepClearing`) has the same runs, and the two differ in nothing but that field.
-/

namespace SimpleDoip

open Transition

/-! ## What sets a deadline -/

@[simp] theorem Inner.afterAlive_awaitResponseDeadline (env : Env) (i : Inner) (m : OwnedMessage) :
    (i.afterAlive env m).awaitResponseDeadline = i.awaitResponseDeadline := by
  rw [Inner.afterAlive]
  split <;> rfl

/-- What a turn makes of the request that waits and of the deadline: it leaves no request, or
changes neither, or takes a request that waits from now on, with a deadline of its own. -/
inductive Rearmed (env : Env) (i : Inner) : Select → Inner → Prop where
  | idle {select : Select} {j : Inner} (hactive : j.activeRequest = none) :
      Rearmed env i select j
  | kept {select : Select} {j : Inner} (hactive : j.activeRequest = i.activeRequest)
      (hdeadline : j.awaitResponseDeadline = i.awaitResponseDeadline) : Rearmed env i select j
  | armed {request : ControlMessage} {j : Inner}
      (hactive : j.activeRequest = some request.awaiting)
      (hdeadline : j.awaitResponseDeadline = some (env.now + request.patience i.clientOptions)) :
      Rearmed env i (.control request) j

theorem Turned.rearmed {target : Target} {env : Env} {i : Inner} {select : Select}
    {r : EStateM.Result Panic Task Processed} (h : Turned target env i select r) :
    Rearmed env i select (resultTask r).inner := by
  cases h with
  | expired | bound | unbound | refused | drained | overflowed | late | lateListening | acked
  | replied | broken => exact .idle rfl
  | listening | sent => exact .armed rfl rfl
  | ackDropped | stored | aliveOverflowed => exact .kept rfl rfl
  | passed | unheeded =>
    exact .kept (Inner.afterAlive_activeRequest _ _ _)
      (Inner.afterAlive_awaitResponseDeadline _ _ _)

/-! ## The turn that set a deadline -/

section
variable {target : Target} {options : ClientOptions} {actions : List Action} {w w' : World}

variable (target options) in
/-- Somewhere in a run the request that now waits was taken, under its own number, and in that very
turn the deadline was set: to the time of the turn and as long as a request of its kind waits. -/
inductive Armed : List Action → ControlMessage → Nat → Prop where
  | intro {before after : List Action} {socketOpen : Bool} {connect : Except Error Unit}
      {w w' : World} {request : Request}
      (hbefore : run (World.step target) (World.start options) before = some w)
      (hrequest : w.requests[w.taken]? = some request)
      (hstep : w.step target (.turn .control socketOpen connect) = some w')
      (hactive : w'.inner.activeRequest = some (request.create w.taken).awaiting)
      (hdeadline : w'.inner.awaitResponseDeadline =
        some (w.clock + (request.create w.taken).patience options)) :
      Armed (before ++ .turn .control socketOpen connect :: after)
        (request.create w.taken).awaiting
        (w.clock + (request.create w.taken).patience options)

theorem Armed.snoc {request : ControlMessage} {deadline : Nat}
    (h : Armed target options actions request deadline) (a : Action) :
    Armed target options (actions ++ [a]) request deadline := by
  cases h with
  | intro hbefore hrequest hstep hactive hdeadline =>
    rw [List.append_assoc, List.cons_append]
    exact .intro hbefore hrequest hstep hactive hdeadline

variable (target options) in
/-- A request that waits has the deadline that was set for it, in the turn that took it and from the
time of that turn. -/
def World.Timed (actions : List Action) (w : World) : Prop :=
  ∀ request, w.inner.activeRequest = some request → ∃ deadline,
    w.inner.awaitResponseDeadline = some deadline ∧ Armed target options actions request deadline

/-- A step that changes neither the request nor the deadline keeps them together. -/
theorem World.Timed.kept {a : Action} (h : w.Timed target options actions)
    (hactive : w'.inner.activeRequest = w.inner.activeRequest)
    (hdeadline : w'.inner.awaitResponseDeadline = w.inner.awaitResponseDeadline) :
    w'.Timed target options (actions ++ [a]) := by
  intro request hrequest
  rw [hactive] at hrequest
  obtain ⟨deadline, hset, harmed⟩ := h request hrequest
  exact ⟨deadline, hdeadline.trans hset, harmed.snoc a⟩

/-- **A step keeps the deadline and the request together**: a turn that leaves a request waiting has
set its deadline, or found both there. -/
theorem World.Timed.step {a : Action}
    (hrun : run (World.step target) (World.start options) actions = some w)
    (hstep : w.step target a = some w') (h : w.Timed target options actions) :
    w'.Timed target options (actions ++ [a]) := by
  have hcases := World.step_cases (World.waits_of_run hrun) hstep
  cases hcases with
  | idle hsame =>
    exact h.kept (congrArg Inner.activeRequest hsame.inner)
      (congrArg Inner.awaitResponseDeadline hsame.inner)
  | @turned branch socketOpen connect select r hhead hselect hturned =>
    have hrearmed := hturned.rearmed
    rw [← World.finish_inner w select r] at hrearmed
    cases hrearmed with
    | idle hactive =>
      intro request hrequest
      rw [hactive] at hrequest
      cases hrequest
    | kept hactive hdeadline => exact h.kept hactive hdeadline
    | @armed request _ hactive hdeadline =>
      obtain ⟨rfl, issued, hissued, rfl⟩ := World.select_control hselect
      rw [World.clientOptions_of_run hrun] at hdeadline
      intro request hrequest
      rw [hactive] at hrequest
      cases hrequest
      exact ⟨_, hdeadline, .intro hrun hissued hstep hactive hdeadline⟩

theorem World.timed_of_run
    (hrun : run (World.step target) (World.start options) actions = some w) :
    w.Timed target options actions := by
  refine run_history (P := fun actions w => w.Timed target options actions) ?_ hrun ?_
  · intro actions w₁ a w₂ hrun₁ hstep h
    exact h.step hrun₁ hstep
  · intro request hrequest
    cases hrequest

/-- A turn on the deadline completes the request that waits, past the deadline, and nothing else. It
leaves no request and no deadline. -/
theorem World.of_step_deadline {socketOpen : Bool} {connect : Except Error Unit} (hw : w.Waits)
    (hstep : w.step target (.turn .deadline socketOpen connect) = some w') :
    ∃ request deadline, w.inner.activeRequest = some request ∧
      w.inner.awaitResponseDeadline = some deadline ∧ deadline ≤ w.clock ∧
      w'.inner = w.inner.cleared ∧
      w'.log = w.log ++
        [.did (.completed request.response (request.failure .responseTimeoutExceeded))] := by
  obtain ⟨hhead, ⟨select, hselect, rfl⟩ | ⟨-, hbranch, -⟩⟩ := World.of_step_turn hstep
  · have hturned := turn_spec target (w.env socketOpen connect) (hw (.inl hhead))
      (World.ready_of_select hselect)
    cases World.selected_of_select hselect with
    | deadline hactive hdeadline hpast =>
      generalize turn target (w.env socketOpen connect) .deadline ⟨w.inner, []⟩ = r at hturned ⊢
      cases hturned with
      | expired =>
        refine ⟨_, _, hactive, hdeadline, hpast, World.finish_inner _ _ _, ?_⟩
        rw [World.finish_log]
        simp only [resultTask, Inner.failActive, hactive]
        rfl
  · cases hbranch

/-! ## A deadline that is left over -/

/-- The task without a deadline that no request waits for. `process_received_message` leaves such a
deadline behind when it completes a response. -/
def Inner.tidy (i : Inner) : Inner :=
  match i.activeRequest with
  | none => { i with awaitResponseDeadline := none }
  | some _ => i

def World.tidy (w : World) : World := { w with inner := w.inner.tidy }

variable (target) in
/-- The client that clears the deadline whenever no request is left: what the code would do if it
tidied up. -/
def World.stepClearing (w : World) (a : Action) : Option World := (w.step target a).map World.tidy

/-- The outcome of a turn, with the state it leaves tidied. -/
def tidyResult : EStateM.Result Panic Task Processed → EStateM.Result Panic Task Processed
  | .ok r t => .ok r { t with inner := t.inner.tidy }
  | .error panic t => .error panic { t with inner := t.inner.tidy }

theorem Inner.tidy_of_none {i : Inner} (h : i.activeRequest = none) :
    i.tidy = { i with awaitResponseDeadline := none } := by
  rw [Inner.tidy, h]

theorem Inner.tidy_of_some {i : Inner} {request : ControlMessage}
    (h : i.activeRequest = some request) : i.tidy = i := by
  rw [Inner.tidy, h]

theorem Inner.tidy_tidy (i : Inner) : i.tidy.tidy = i.tidy := by
  cases hactive : i.activeRequest with
  | none =>
    rw [Inner.tidy_of_none hactive]
    exact Inner.tidy_of_none hactive
  | some request => rw [Inner.tidy_of_some hactive, Inner.tidy_of_some hactive]

theorem World.tidy_of_some {request : ControlMessage} (h : w.inner.activeRequest = some request) :
    w.tidy = w := by
  rw [World.tidy, Inner.tidy_of_some h]

variable (target) in
/-- An alive check with no request waiting is answered and passed on, or overflows the session
counter; the deadline stays as it is. -/
theorem turn_alive_idle {env : Env} {i : Inner} {m : OwnedMessage} {s : SocketManager}
    (hactive : i.activeRequest = none) (hsocket : i.tcpDataSocket = some s)
    (hm : m.payload = .aliveCheckRequest) (hopen : env.socketOpen = true) :
    (s.Full target → turn target env (.socket (.ok m)) ⟨i, []⟩ =
      .error .overflow ⟨i, [.handed none i.aliveResponse]⟩) ∧
    (¬ s.Full target → turn target env (.socket (.ok m)) ⟨i, []⟩ = .ok (.update m)
      ⟨{ i with tcpDataSocket := some s.next }, [.handed none i.aliveResponse]⟩) := by
  have hprocess := processReceivedMessage_alive target env hsocket hm
  have hdm : ∀ dm, m.payload ≠ .diagnosticMessage dm := by
    intro dm h
    rw [hm] at h
    cases h
  constructor
  · intro hfull
    exact turn_socket_error (hprocess.trans (bind_error (s.send_full _ _ hopen hfull)))
  · intro hroom
    refine turn_socket_leave (by intro h; cases h) (hprocess.trans ?_)
    exact (bind_ok (s.send_room _ _ hopen hroom)).trans (completeAwaitResponse_passed hdm hactive)

/-- A received message is processed alike whatever deadline is left over: with no request active,
nothing looks at it. -/
theorem turn_received_left_over (env : Env) (clientOptions : ClientOptions)
    (deadline : Option Nat) (socket : Option SocketManager) (pending : Option OwnedMessage)
    (m : OwnedMessage) :
    tidyResult (turn target env (.socket (.ok m))
        ⟨⟨clientOptions, none, none, socket, pending⟩, []⟩) =
      tidyResult (turn target env (.socket (.ok m))
        ⟨⟨clientOptions, none, deadline, socket, pending⟩, []⟩) := by
  obtain ⟨header, payload⟩ := m
  cases payload with
  | aliveCheckRequest =>
    cases socket with
    | none => rfl
    | some s =>
      cases hopen : env.socketOpen with
      | false =>
        obtain ⟨now, socketOpen, connect, dropped⟩ := env
        cases hopen
        rfl
      | true =>
        have hturn := fun deadline => turn_alive_idle target
          (i := ⟨clientOptions, none, deadline, some s, pending⟩)
          (m := ⟨header, .aliveCheckRequest⟩) rfl rfl rfl hopen
        by_cases hfull : s.Full target
        · rw [(hturn none).1 hfull, (hturn deadline).1 hfull]
          rfl
        · rw [(hturn none).2 hfull, (hturn deadline).2 hfull]
          rfl
  | diagnosticMessageAck ack =>
    obtain ⟨source, destination, code, previous⟩ := ack
    cases code <;> rfl
  | _ => rfl

/-- **A turn does not look at a deadline that is left over.** Every path that makes a request wait
sets the deadline first. -/
theorem turn_tidy (env : Env) (select : Select) (i : Inner) :
    tidyResult (turn target env select ⟨i.tidy, []⟩) =
      tidyResult (turn target env select ⟨i, []⟩) := by
  cases hactive : i.activeRequest with
  | some request => rw [Inner.tidy_of_some hactive]
  | none =>
    rw [Inner.tidy_of_none hactive]
    obtain ⟨clientOptions, active, deadline, socket, pending⟩ := i
    cases hactive
    cases select with
    | deadline => rfl
    | control request =>
      -- a request clears the deadline before anything else
      rw [turn_control_eq, turn_control_eq]
      rfl
    | socket message =>
      cases message with
      | error e => rfl
      | ok m => exact turn_received_left_over env clientOptions deadline socket pending m

namespace World

/-- The deadline branch is not ready without a request, so that a deadline left over selects
nothing. -/
theorem select_tidy (w : World) (branch : Branch) : w.tidy.select branch = w.select branch := by
  cases hactive : w.inner.activeRequest with
  | some request => rw [tidy_of_some hactive]
  | none =>
    have hinner : w.tidy.inner = { w.inner with awaitResponseDeadline := none } :=
      Inner.tidy_of_none hactive
    cases branch with
    | deadline => simp only [select, hinner, hactive]
    | control => rfl
    | socket incoming =>
      simp only [select, hinner]

theorem sendUpdate_tidy (w : World) (m : OwnedMessage) :
    (w.sendUpdate m).tidy = w.tidy.sendUpdate m := by
  simp only [sendUpdate, apply_ite tidy]
  rfl

theorem finish_tidy (w : World) (select : Select) (r : EStateM.Result Panic Task Processed) :
    (w.finish select r).tidy = w.tidy.finish select (tidyResult r) := by
  cases r with
  | error panic t => rfl
  | ok r t =>
    cases r with
    | stay | exit => rfl
    | update m => exact sendUpdate_tidy _ m

theorem tidy_tidy (w : World) : w.tidy.tidy = w.tidy := by
  rw [tidy, tidy, Inner.tidy_tidy]

/-- Only a turn touches the task, so that every other action does the same to a tidied one. -/
theorem step_tidy_idle (w : World) {a : Action}
    (ha : ∀ branch socketOpen connect, a ≠ .turn branch socketOpen connect) :
    w.tidy.step target a = (w.step target a).map tidy := by
  cases a with
  | issue request | abandon request =>
    simp only [step, apply_ite (Option.map tidy)]
    rfl
  | wait | closeControl | dropUpdates => rfl
  | readUpdate =>
    have hupdates : w.tidy.updates = w.updates := rfl
    simp only [step, hupdates]
    split <;> rfl
  | turn branch socketOpen connect => exact absurd rfl (ha branch socketOpen connect)
  | resume =>
    have hphase : w.tidy.phase = w.phase := rfl
    simp only [step, hphase]
    split
    · next m _ =>
      simp only [apply_ite (Option.map tidy), Option.map_some, sendUpdate_tidy]
      rfl
    · rfl

/-- A turn on either side, from the world as it is or tidied, ends in the same world, once it is
tidied. -/
theorem step_tidy_turn (w : World) (branch : Branch) (socketOpen : Bool)
    (connect : Except Error Unit) :
    (w.tidy.step target (.turn branch socketOpen connect)).map tidy =
      (w.step target (.turn branch socketOpen connect)).map tidy := by
  have hphase : w.tidy.phase = w.phase := rfl
  have hopen : w.tidy.controlOpen = w.controlOpen := rfl
  simp only [step, hphase, hopen, select_tidy]
  split
  · split
    · next select _ =>
      have henv : w.tidy.env socketOpen connect = w.env socketOpen connect := rfl
      have hinner : w.tidy.inner = w.inner.tidy := rfl
      simp only [Option.map_some, finish_tidy, tidy_tidy, henv, hinner, turn_tidy]
    · split
      · exact congrArg some (tidy_tidy { w with phase := .exited })
      · rfl
  · rfl

variable (target) in
/-- **A step does not look at a deadline that is left over**: the client that clears it takes the
same steps. -/
theorem stepClearing_tidy (w : World) (a : Action) :
    w.tidy.stepClearing target a = (w.step target a).map tidy := by
  unfold stepClearing
  by_cases ha : ∃ branch socketOpen connect, a = .turn branch socketOpen connect
  · obtain ⟨branch, socketOpen, connect, rfl⟩ := ha
    exact step_tidy_turn w branch socketOpen connect
  · have hidle : ∀ branch socketOpen connect, a ≠ .turn branch socketOpen connect :=
      fun branch socketOpen connect h => ha ⟨branch, socketOpen, connect, h⟩
    rw [step_tidy_idle w hidle, Option.map_map]
    exact congrArg (fun f => (w.step target a).map f) (funext tidy_tidy)

end World

/-! ## A deadline belongs to the request that waits -/

/-- **Deadlines belong to the requests they were set for.** In every run, a request that waits has a
deadline, the one set in the turn that took it; the deadline branch fails that request, once its own
deadline has passed, and no other; and the client that never leaves a deadline behind has the same
run, up to that field. -/
theorem deadline_belongs_to_pending
    (hrun : run (World.step target) (World.start options) actions = some w) :
    (∀ request, w.inner.activeRequest = some request → ∃ deadline,
      w.inner.awaitResponseDeadline = some deadline ∧
        Armed target options actions request deadline) ∧
    (∀ socketOpen connect w', w.step target (.turn .deadline socketOpen connect) = some w' →
      ∃ request deadline, w.inner.activeRequest = some request ∧
        Armed target options actions request deadline ∧ deadline ≤ w.clock ∧
        w'.inner = w.inner.cleared ∧
        w'.log = w.log ++
          [.did (.completed request.response (request.failure .responseTimeoutExceeded))]) ∧
    run (World.stepClearing target) (World.start options) actions = some w.tidy := by
  have htimed := World.timed_of_run hrun
  refine ⟨htimed, fun socketOpen connect w' hstep => ?_, ?_⟩
  · obtain ⟨request, deadline, hactive, hdeadline, hpast, hinner, hlog⟩ :=
      World.of_step_deadline (World.waits_of_run hrun) hstep
    obtain ⟨deadline', hdeadline', harmed⟩ := htimed request hactive
    rw [hdeadline] at hdeadline'
    cases hdeadline'
    exact ⟨request, deadline, hactive, harmed, hpast, hinner, hlog⟩
  · have hmap := run_map (World.stepClearing_tidy target) (World.start options) actions
    rw [hrun] at hmap
    exact hmap

end

/-- A receive is answered and leaves its deadline behind; a message sent after it is not
acknowledged in time. -/
def unacknowledgedRun : List Action :=
  issueAndTake (.bindSocket ⟨13400⟩) ++ (issueAndTake (.receiveDiagnosticResponse 1000) ++
    (deliver lateResponse :: .wait 900 ::
      (issueAndTake (.sendDiagnosticMessage (diagnosticFrom 0x0E00 0x0001 [0x3E, 0x00])) ++
        [.wait (2 * 10 ^ 9)])))

/-- What fails is the send, by the deadline set 900 into the run, not by the one that an earlier
receive has left over. -/
theorem deadline_belongs_to_pending_left_over :
    ∃ w w', run (World.step releaseTarget) (World.start testerOptions) unacknowledgedRun = some w ∧
      w.step releaseTarget (.turn .deadline true (.ok ())) = some w' ∧
      Armed releaseTarget testerOptions unacknowledgedRun (.awaitAck 2) (900 + 2 * 10 ^ 9) ∧
      w'.log = w.log ++ [.did (.completed 2 (.done (.error .responseTimeoutExceeded)))] := by
  have h : ∃ w w',
      run (World.step releaseTarget) (World.start testerOptions) unacknowledgedRun = some w ∧
      w.step releaseTarget (.turn .deadline true (.ok ())) = some w' ∧
      w.inner.activeRequest = some (.awaitAck 2) ∧
      w.inner.awaitResponseDeadline = some (900 + 2 * 10 ^ 9) := ⟨_, _, rfl, rfl, rfl, rfl⟩
  obtain ⟨w, w', hrun, hstep, hactive, hdeadline⟩ := h
  have hbelongs := deadline_belongs_to_pending hrun
  obtain ⟨deadline, hset, harmed⟩ := hbelongs.1 _ hactive
  rw [hdeadline] at hset
  cases hset
  obtain ⟨request, _, hrequest, -, -, -, hlog⟩ := hbelongs.2.1 _ _ w' hstep
  rw [hactive] at hrequest
  cases hrequest
  exact ⟨w, w', hrun, hstep, harmed, hlog⟩

end SimpleDoip
