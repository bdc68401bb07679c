import SimpleDoip.Client.World

/-!
# No request is dropped

Each request the task takes is answered once, or is the one it holds. The argument is a conservation
law of a turn (`Turned.conserves`): the channels a turn completes, and the one held after it, are
the one held before it and the one it took. Summed over a run this is `World.Accounted`, and
`requests_accounted` reads the answer off it.
-/

namespace SimpleDoip

open Transition

/-! ## Answers in a log -/

/-- The answer to a request, if it has one: the first completion of its channel in the log. There is
never a second one (`requests_accounted`). -/
def answerTo (log : List Entry) (request : Nat) : Option Answer :=
  log.findSome? fun
    | .did (.completed r answer) => if r = request then some answer else none
    | _ => none

theorem answerTo_append (xs ys : List Entry) (r : Nat) :
    answerTo (xs ++ ys) r = (answerTo xs r).or (answerTo ys r) := by
  rw [answerTo, List.findSome?_append]
  rfl

@[simp] theorem answerTo_nil (r : Nat) : answerTo [] r = none := rfl

@[simp] theorem answerTo_taken (id : Nat) (xs : List Entry) (r : Nat) :
    answerTo (.taken id :: xs) r = answerTo xs r := rfl

theorem answerTo_completed (id : Nat) (a : Answer) (xs : List Entry) (r : Nat) :
    answerTo (.did (.completed id a) :: xs) r = if id = r then some a else answerTo xs r := by
  rw [answerTo, List.findSome?_cons]
  split <;> split <;> simp_all [answerTo]

/-- A request is unanswered where no entry of the log completes it. -/
theorem answerTo_eq_none {log : List Entry} {r : Nat}
    (h : ∀ answer, .did (.completed r answer) ∉ log) : answerTo log r = none := by
  rw [answerTo, List.findSome?_eq_none_iff]
  intro e he
  split
  · next r' answer =>
    refine if_neg fun heq => ?_
    rw [heq] at he
    exact h answer he
  · rfl

/-! ## Counting completions -/

/-- Whether an entry completes the channel of a request, whatever the answer. -/
def Entry.completes (request : Nat) : Entry → Bool
  | .did (.completed r _) => r == request
  | _ => false

/-- How often the channel of a request was completed. A oneshot channel can be completed once at
most, and the model counts in order to prove that. -/
def completions (log : List Entry) (request : Nat) : Nat := log.countP (Entry.completes request)

/-- The request whose channel the task holds, in the request that is active. -/
def Inner.held (i : Inner) : Option Nat := i.activeRequest.map ControlMessage.response

/-- One for the request held, nothing for any other: the task's share in the account of requests. -/
def Inner.holds (i : Inner) (request : Nat) : Nat := if i.held = some request then 1 else 0

/-- One for the request a branch takes, nothing for any other: what a turn adds to the account. -/
def Select.takesRequest (request : Nat) : Select → Nat
  | .control message => if message.response = request then 1 else 0
  | _ => 0

@[simp] theorem completions_nil (r : Nat) : completions [] r = 0 := rfl

@[simp] theorem completions_append (xs ys : List Entry) (r : Nat) :
    completions (xs ++ ys) r = completions xs r + completions ys r :=
  List.countP_append

theorem completions_cons (e : Entry) (xs : List Entry) (r : Nat) :
    completions (e :: xs) r = completions xs r + if e.completes r then 1 else 0 :=
  List.countP_cons

@[simp] theorem completions_completed (id r : Nat) (a : Answer) :
    completions [.did (.completed id a)] r = if id = r then 1 else 0 := by
  simp [completions_cons, Entry.completes]

@[simp] theorem completions_handed (id : Option Nat) (m : OwnedMessage) (r : Nat) :
    completions [.did (.handed id m)] r = 0 := rfl

@[simp] theorem completions_entries (select : Select) (r : Nat) :
    completions select.entries r = 0 := by
  cases select <;> rfl

namespace Inner
variable {i : Inner}

theorem holds_of_none (h : i.activeRequest = none) (r : Nat) : i.holds r = 0 := by
  rw [holds, held, h]
  rfl

theorem holds_of_some {request : ControlMessage} (h : i.activeRequest = some request) (r : Nat) :
    i.holds r = if request.response = r then 1 else 0 := by
  simp [holds, held, h]

/-- Failing the active request completes exactly the channel that is held. -/
@[simp] theorem completions_failActive (i : Inner) (e : Error) (r : Nat) :
    completions ((i.failActive e).map .did) r = i.holds r := by
  cases h : i.activeRequest with
  | none => simp [failActive, h, holds_of_none h]
  | some request => simp [failActive, h, holds_of_some h]

@[simp] theorem completions_aliveEffects (env : Env) (i : Inner) (m : OwnedMessage) (r : Nat) :
    completions ((i.aliveEffects env m).map .did) r = 0 := by
  rw [aliveEffects]
  split <;> rfl

theorem holds_afterAlive (env : Env) (i : Inner) (m : OwnedMessage) (r : Nat) :
    (i.afterAlive env m).holds r = i.holds r := by
  rw [holds, holds, held, held, afterAlive_activeRequest]

end Inner

/-! ## A turn conserves requests -/

section
variable {target : Target} {env : Env} {i : Inner}

theorem ControlMessage.awaiting_response {request : ControlMessage} {message : OwnedMessage}
    (h : request.outgoing = some message) : request.awaiting.response = request.response := by
  cases request with
  | bindSocket | unbindSocket | awaitResponse | receiveDiagnosticResponse | awaitAck => cases h
  | routingActivation | sendDiagnosticMessage => rfl

/-- A turn that fails what was held and answers what it took conserves requests: each channel it had
in its hands is completed once. -/
theorem conserves_answer (i : Inner) {j : Inner} (hj : j.activeRequest = none) (e : Error)
    (response : Nat) (a : Answer) (r : Nat) :
    completions ((i.failActive e ++ [Effect.completed response a]).map .did) r + j.holds r =
      i.holds r + if response = r then 1 else 0 := by
  rw [Inner.holds_of_none hj, List.map_append, completions_append, i.completions_failActive]
  exact congrArg (i.holds r + ·) (completions_completed response r a)

/-- A turn that answers what was held and takes nothing conserves requests: the channel moves from
the task's hands to the log. -/
theorem conserves_reply {i j : Inner} (hj : j.activeRequest = none) {request : ControlMessage}
    (hactive : i.activeRequest = some request) (a : Answer) (r : Nat) :
    completions [Entry.did (.completed request.response a)] r + j.holds r = i.holds r + 0 := by
  rw [Inner.holds_of_none hj, Inner.holds_of_some hactive, completions_completed]

/-- **Conservation.** What a turn completes and what it holds afterwards are what it held before and
what it took. -/
theorem Turned.conserves {select : Select} {p : Processed} {t : Task}
    (h : Turned target env i select (.ok p t)) (r : Nat) :
    completions (t.effects.map .did) r + t.inner.holds r = i.holds r + select.takesRequest r := by
  cases h with
  | expired | broken =>
    rw [i.completions_failActive]
    rfl
  | bound | unbound | refused | drained => exact conserves_answer i (by rfl) _ _ _ r
  | listening =>
    rw [i.completions_failActive]
    refine congrArg (i.holds r + ·) ((Inner.holds_of_some rfl r).trans ?_)
    rfl
  | sent hmessage =>
    rw [List.map_append, completions_append, i.completions_failActive]
    refine congrArg (i.holds r + ·) ((Inner.holds_of_some rfl r).trans ?_)
    rw [ControlMessage.awaiting_response hmessage]
    rfl
  | acked hm hactive => exact conserves_reply (by rfl) hactive _ r
  | replied hm hactive =>
    rw [List.map_append, completions_append, i.completions_aliveEffects, Nat.zero_add]
    exact conserves_reply (by rfl) hactive _ r
  | ackDropped => exact Nat.zero_add _
  | stored => exact Nat.zero_add _
  | passed | unheeded =>
    rw [i.completions_aliveEffects, i.holds_afterAlive, Nat.zero_add]
    rfl

end

/-! ## Runs -/

/-- Each request taken was completed once, or is held and was not; none other was completed. -/
def World.Accounted (w : World) : Prop :=
  w.InLoop → ∀ r, completions w.log r + w.inner.holds r = if r < w.taken then 1 else 0

section
variable {target : Target} {options : ClientOptions} {actions : List Action} {w : World}

/-- A branch takes the next request of the control channel, so that what it adds to the account is
what it adds to the requests taken. -/
theorem World.takesRequest_of_select {branch : Branch} {select : Select}
    (h : w.select branch = some select) (r : Nat) :
    (if r < w.taken then 1 else 0) + select.takesRequest r =
      if r < w.taken + select.takes then 1 else 0 := by
  cases World.selected_of_select h with
  | deadline | socket => rfl
  | @control request =>
    have hresponse : (request.create w.taken).response = w.taken := by cases request <;> rfl
    change _ + (if (request.create w.taken).response = r then 1 else 0) =
      if r < w.taken + 1 then 1 else 0
    rw [hresponse]
    by_cases hlt : r < w.taken
    · rw [if_pos hlt, if_neg (by omega), if_pos (by omega)]
    · by_cases heq : w.taken = r
      · rw [if_neg hlt, if_pos heq, if_pos (by omega)]
      · rw [if_neg hlt, if_neg heq, if_neg (by omega)]

/-- In every run, requests are accounted for: every one that was taken was completed, or is held,
but not both and not twice. -/
theorem World.accounted_of_run
    (hrun : run (World.step target) (World.start options) actions = some w) : w.Accounted := by
  refine World.run_invariant (P := World.Accounted) ?_ ?_ ?_ hrun
  · intro w w' hsame hw hloop r
    rw [hsame.log, hsame.inner, hsame.taken]
    exact hw (hsame.inLoop hloop) r
  · intro w branch socketOpen connect select r hhead hwaiting hselect hturned hw hloop request
    obtain ⟨p, t, rfl⟩ := World.exists_ok_of_inLoop hloop
    have hbefore := hw (.inl hhead) request
    have hturn := hturned.conserves request
    have htaken := World.takesRequest_of_select hselect request
    rw [World.finish_log, World.finish_inner, World.finish_taken, completions_append,
      completions_append, completions_entries]
    simp only [resultTask]
    omega
  · intro _ r
    rfl

/-- The superseded request is completed before the new one is handled, so that its caller is not
left waiting. -/
theorem Turned.superseded {env : Env} {i : Inner} {request message : ControlMessage}
    {r : EStateM.Result Panic Task Processed} (hactive : i.activeRequest = some request)
    (h : Turned target env i (.control message) r) :
    .completed request.response (request.failure .requestSuperseded) ∈ (resultTask r).effects := by
  have hfail : Effect.completed request.response (request.failure .requestSuperseded) ∈
      i.failActive .requestSuperseded := by
    rw [Inner.failActive, hactive]
    exact List.mem_singleton.mpr rfl
  cases h with
  | bound | unbound | refused | drained | sent | overflowed | late =>
    exact List.mem_append_left _ hfail
  | listening | lateListening => exact hfail

/-- No turn panics on an `unwrap`: the only one is in the answer to an alive check, and a message is
received only while there is a socket. -/
theorem Turned.ne_unwrapNone {env : Env} {i : Inner} {select : Select} {p : Panic} {t : Task}
    (h : Turned target env i select (.error p t)) : p ≠ .unwrapNone := by
  cases h <;> nofun

/-- In every run, the task does not panic on an `unwrap`. -/
theorem World.ne_unwrapNone_of_run
    (hrun : run (World.step target) (World.start options) actions = some w) :
    w.phase ≠ .panicked .unwrapNone := by
  refine World.run_invariant (P := fun w => w.phase ≠ .panicked .unwrapNone) ?_ ?_ ?_ hrun
  · intro w w' hsame hw
    rcases hsame.phase with hphase | hphase | ⟨-, hphase | ⟨m, hphase⟩⟩
    · rwa [hphase]
    all_goals
      rw [hphase]
      intro h
      cases h
  · intro w branch socketOpen connect select r hhead hwaiting hselect hturned hw
    cases r with
    | error p t =>
      intro hphase
      cases hphase
      exact hturned.ne_unwrapNone rfl
    | ok p t =>
      cases p with
      | stay => exact hw
      | exit =>
        intro h
        cases h
      | update m =>
        change ((w.record select t).sendUpdate m).phase ≠ _
        rw [World.sendUpdate]
        split
        · intro h
          cases h
        · split <;>
          · intro h
            cases h
  · intro h
    cases h

/-- **No request is silently dropped.** In every run the task never panics on its `unwrap`, and at
every head of the loop: the active request is none or one that waits; each request taken has been
answered exactly once, except the one held, which has not; a control message that displaces the
active request completes it as superseded; and a message can be received only from a socket that is
there. -/
theorem requests_accounted
    (hrun : run (World.step target) (World.start options) actions = some w) :
    w.phase ≠ .panicked .unwrapNone ∧ (w.phase = .loopHead →
      Waiting w.inner.activeRequest ∧
      (∀ r < w.taken,
        completions w.log r = 1 ∧ w.inner.held ≠ some r ∨
        completions w.log r = 0 ∧ w.inner.held = some r) ∧
      (∀ request next socketOpen connect w', w.inner.activeRequest = some request →
        w.requests[w.taken]? = some next →
        w.step target (.turn .control socketOpen connect) = some w' →
        ∃ new, w'.log = w.log ++ new ∧
          .did (.completed request.response (request.failure .requestSuperseded)) ∈ new) ∧
      ∀ branch m, w.select branch = some (.socket (.ok m)) → w.inner.tcpDataSocket ≠ none) := by
  refine ⟨World.ne_unwrapNone_of_run hrun, fun hhead => ?_⟩
  have hwaits := World.waits_of_run hrun
  have hwaiting := hwaits (.inl hhead)
  refine ⟨hwaiting, ?_, ?_, ?_⟩
  · intro r hr
    have hcount := World.accounted_of_run hrun (.inl hhead) r
    rw [if_pos hr, Inner.holds] at hcount
    by_cases hheld : w.inner.held = some r
    · rw [if_pos hheld] at hcount
      exact .inr ⟨by omega, hheld⟩
    · rw [if_neg hheld] at hcount
      exact .inl ⟨by omega, hheld⟩
  · intro request next socketOpen connect w' hactive hnext hstep
    have hselect : w.select .control = some (.control (next.create w.taken)) := by
      rw [World.select, hnext]
      rfl
    rw [World.step_turn target hhead hselect] at hstep
    cases hstep
    have hturned := turn_spec target (w.env socketOpen connect) hwaiting
      (World.ready_of_select hselect)
    have hmem := hturned.superseded hactive
    rw [World.finish_log]
    exact ⟨_, rfl, List.mem_append_right _ (List.mem_map_of_mem hmem)⟩
  · intro branch m hselect
    exact World.ready_of_select hselect

end

/-- The options of a client with the first tester address and a timeout of 2 s, for the runs on
fixed inputs. -/
def testerOptions : ClientOptions where
  serverLogicalAddress := ⟨0x0001⟩
  serverPhysicalAddress := ⟨0x0001⟩
  clientLogicalAddress := ⟨0x0E00⟩
  protocolVersion := .v2012
  diagnosticMessageTimeout := 2 * 10 ^ 9

/-- A release build, without overflow checks and with a clock that ends far away. -/
def releaseTarget : Target := { overflowChecks := false, maxInstant := 2 ^ 63 * 10 ^ 9 }

/-- A diagnostic message between the tester and its entity, with the header its constructor gives
it. -/
def diagnosticFrom (source target : UInt16) (userData : List UInt8) : OwnedMessage where
  header := Header.new .v2012 .diagnosticMessage (UInt32.ofNat (4 + userData.length))
  payload := .diagnosticMessage { sourceAddress := ⟨source⟩, targetAddress := ⟨target⟩, userData }

/-- The user issues a request and the task takes it, with the socket open and every connection
established. -/
def issueAndTake (request : Request) : List Action :=
  [.issue request, .turn .control true (.ok ())]

/-- The client binds, sends a message, and makes a receive before the send was acknowledged. -/
def supersedingRun : List Action :=
  issueAndTake (.bindSocket ⟨13400⟩) ++
    (issueAndTake (.sendDiagnosticMessage (diagnosticFrom 0x0E00 0x0001 [0x3E, 0x00])) ++
      issueAndTake (.receiveDiagnosticResponse 1000))

/-- The send that the receive superseded has been answered, and the receive is what the task
holds. -/
theorem requests_accounted_superseding :
    ∃ w, run (World.step releaseTarget) (World.start testerOptions) supersedingRun = some w ∧
      w.inner.held = some 2 ∧
      (completions w.log 1 = 1 ∧ w.inner.held ≠ some 1 ∨
        completions w.log 1 = 0 ∧ w.inner.held = some 1) := by
  have h : ∃ w, run (World.step releaseTarget) (World.start testerOptions) supersedingRun = some w ∧
      w.phase = .loopHead ∧ w.taken = 3 ∧ w.inner.held = some 2 := ⟨_, rfl, rfl, rfl, rfl⟩
  obtain ⟨w, hrun, hhead, htaken, hheld⟩ := h
  exact ⟨w, hrun, hheld, ((requests_accounted hrun).2 hhead).2.1 1 (by omega)⟩

end SimpleDoip
