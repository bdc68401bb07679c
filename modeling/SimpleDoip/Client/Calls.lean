import SimpleDoip.Client.Facade

/-!
# What calls return

A request that is still pending when the task takes another is answered as superseded. A client
makes one call at a time, so the request of the call underway is the last one it issued, and the
task holds no later one: what is superseded is a request whose caller is gone. `Facade.Settled` is
that invariant, and `calls_not_superseded` reads off what callers see.

The messages that `reconnect` hands out come from the update channel. `Facade.passedOn` is what the
task passed on to that channel in a run, and `Facade.Passed` follows it to the caller:
`reconnect_in_order` says that what `reconnect` returns is part of it, in its order and each message
at most once, and that these are messages received, none of them a diagnostic message.
-/

namespace SimpleDoip

open Transition

/-! ## Answers of a turn -/

/-- The error of an answer, in whichever kind of channel it was given. -/
def Answer.error : Answer → Option Error
  | .port (.error e) | .done (.error e) | .message (.error e) => some e
  | _ => none

/-- The error of the task that a call returns. Errors of the interface itself, such as `SendError`,
are not among these. -/
def CallResult.error : CallResult → Option Error
  | .connected (.error e) | .reconnected (.error e) | .done (.error (.task e))
  | .message (.error (.task e)) => some e
  | _ => none

@[simp] theorem ControlMessage.error_failure (request : ControlMessage) (e : Error) :
    (request.failure e).error = some e := by
  cases request <;> rfl

section
variable {target : Target} {env : Env} {i : Inner}

/-- What fails the active request answers it with that error, and answers no other. -/
theorem Inner.of_mem_failActive {e : Error} {id : Nat} {a : Answer}
    (h : .completed id a ∈ i.failActive e) : i.held = some id ∧ a.error = some e := by
  obtain ⟨request, hactive, heq⟩ := Inner.mem_failActive h
  cases heq
  rw [Inner.held, hactive]
  exact ⟨rfl, request.error_failure e⟩

/-- The errors of a bind: an invalid client address, or whatever establishing the connection came
to. -/
theorem SocketManager.error_of_bind {options : ClientOptions} {address : SocketAddr} {e : Error}
    (h : SocketManager.bind env options address = .error e) :
    e = .invalidClientLogicalAddress options.clientLogicalAddress ∨ env.connect = .error e := by
  rw [SocketManager.bind] at h
  split at h
  · cases h
    exact .inl rfl
  · split at h
    · next hconnect =>
      cases h
      exact .inr hconnect
    · cases h

/-- **Who is superseded.** A turn answers a request as superseded only if it held it and takes
another one, unless that is how a connection fails. -/
theorem superseded_of_mem {select : Select} {id : Nat} {a : Answer}
    (hwaiting : Waiting i.activeRequest) (hready : select.Ready i)
    (hsocket : ∀ e, select = .socket (.error e) → e ≠ .requestSuperseded)
    (hconnect : env.connect ≠ .error .requestSuperseded)
    (hmem : .completed id a ∈ (resultTask (turn target env select ⟨i, []⟩)).effects)
    (ha : a.error = some .requestSuperseded) :
    i.held = some id ∧ ∃ message, select = .control message := by
  have hturned := turn_spec target env hwaiting hready
  generalize turn target env select ⟨i, []⟩ = r at hturned hmem
  have hother : ∀ {e}, e ≠ .requestSuperseded → .completed id a ∉ i.failActive e := by
    intro e he hfail
    have herror := (Inner.of_mem_failActive hfail).2
    rw [ha] at herror
    exact he (Option.some.inj herror).symm
  -- the request that is taken gets another error, or none
  have htaken : ∀ {response : Nat} {answer : Answer},
      answer.error ≠ some .requestSuperseded →
      .completed id a ∈ i.failActive .requestSuperseded ++ [.completed response answer] →
      i.held = some id := by
    intro response answer hanswer hmem
    rcases List.mem_append.mp hmem with hfail | hnew
    · exact (Inner.of_mem_failActive hfail).1
    · cases List.mem_singleton.mp hnew
      exact absurd ha hanswer
  cases hturned with
  | expired => exact absurd hmem (hother fun h => by cases h)
  | broken e => exact absurd hmem (hother (hsocket e rfl))
  | bound address response =>
    refine ⟨htaken ?_ hmem, _, rfl⟩
    cases hbind : SocketManager.bind env i.clientOptions address with
    | ok socket =>
      intro h
      cases h
    | error e =>
      intro h
      cases h
      rcases SocketManager.error_of_bind hbind with h | h
      · cases h
      · exact hconnect h
  | unbound response =>
    refine ⟨htaken ?_ hmem, _, rfl⟩
    split <;>
    · intro h
      cases h
  | refused e _ _ _ he =>
    refine ⟨htaken ?_ hmem, _, rfl⟩
    rw [ControlMessage.error_failure]
    intro herror
    cases herror
    split at he <;> cases he
  | drained =>
    refine ⟨htaken ?_ hmem, _, rfl⟩
    intro h
    cases h
  | listening | lateListening => exact ⟨(Inner.of_mem_failActive hmem).1, _, rfl⟩
  | sent | overflowed | late =>
    rcases List.mem_append.mp hmem with hfail | hhanded
    · exact ⟨(Inner.of_mem_failActive hfail).1, _, rfl⟩
    · cases List.mem_singleton.mp hhanded
  | @acked m ack response hm hactive =>
    cases List.mem_singleton.mp hmem
    rw [DiagnosticMessageAck.result] at ha
    split at ha <;> cases ha
  | ackDropped | stored => cases hmem
  | @replied m request response hm hactive =>
    rcases List.mem_append.mp hmem with halive | hreply
    · cases Inner.mem_aliveEffects halive
    · cases List.mem_singleton.mp hreply
      rw [Message.reply] at ha
      split at ha <;> cases ha
  | passed | unheeded | aliveOverflowed => cases Inner.mem_aliveEffects hmem

end

/-! ## Requests and their callers -/

/-- Establishing a connection does not itself fail as superseded. The model lets a connector fail
with any error, so that this one has to be excluded. -/
def FacadeMove.Connects : FacadeMove → Prop
  | .task (.turn _ _ connect) => connect ≠ .error .requestSuperseded
  | _ => True

/-- The error of the answer is the error of the call: a method passes it on unchanged. -/
theorem Method.error_of_answered {method : Method} {answer : Answer} {result : CallResult}
    (h : method.answered answer = some result) : result.error = answer.error := by
  rcases method with (_ | _) | _ <;> rcases answer with _ | (_ | _) | (_ | _) <;> cases h <;> rfl

/-- The errors of a call whose task is gone, before or after its request was sent, are not those of
a request. -/
theorem Method.error_unsent (method : Method) :
    method.unsent.error ≠ some .requestSuperseded ∧
      method.unanswered.error ≠ some .requestSuperseded := by
  rcases method with (_ | _) | _ <;> exact ⟨fun h => (by cases h), fun h => (by cases h)⟩

namespace Facade

/-- Where the requests of a client stand. The one awaited is the last; any other was answered or
given up, as long as the task is there to answer; and what was superseded was given up. -/
structure Settled (f : Facade) : Prop where
  last : ∀ r, f.underway.receiver = some r →
    r + 1 = f.world.requests.length ∧ r ∉ f.world.dropped
  known : ∀ r ∈ f.world.dropped, r < f.world.requests.length
  others : f.world.InLoop → ∀ r < f.world.requests.length, f.underway.receiver ≠ some r →
    answerTo f.world.log r ≠ none ∨ r ∈ f.world.dropped
  superseded : ∀ r a, .did (.completed r a) ∈ f.world.log →
    a.error = some .requestSuperseded → r ∈ f.world.dropped
  results : ∀ result ∈ f.results, result.error ≠ some .requestSuperseded

section
variable {ι : Type} [WireCodec ι] {target : Target} {options : BindOptions} {f f' : Facade}

/-- A move that issues nothing and leaves the task alone: a receiver that is not held any more was
answered or is dropped. -/
theorem Settled.idle (h : f.Settled) (hlog : f'.world.log = f.world.log)
    (hrequests : f'.world.requests = f.world.requests)
    (hloop : f'.world.InLoop → f.world.InLoop) (dropped : List Nat)
    (hdropped : f'.world.dropped = dropped ++ f.world.dropped)
    (hissued : ∀ r ∈ dropped, r < f.world.requests.length)
    (hkept : ∀ r, f'.underway.receiver = some r →
      f.underway.receiver = some r ∧ r ∉ dropped)
    (hleft : f'.world.InLoop → ∀ r, f.underway.receiver = some r →
      f'.underway.receiver = some r ∨ answerTo f.world.log r ≠ none ∨ r ∈ dropped)
    (hresults : ∀ result ∈ f'.results,
      result ∈ f.results ∨ result.error ≠ some .requestSuperseded) : f'.Settled := by
  refine ⟨?_, ?_, ?_, ?_, ?_⟩
  · intro r hr
    obtain ⟨hr, hnew⟩ := hkept r hr
    obtain ⟨hlast, hold⟩ := h.last r hr
    rw [hrequests, hdropped]
    refine ⟨hlast, fun hmem => ?_⟩
    rcases List.mem_append.mp hmem with hmem | hmem
    · exact hnew hmem
    · exact hold hmem
  · intro r hr
    rw [hdropped] at hr
    rw [hrequests]
    rcases List.mem_append.mp hr with hr | hr
    · exact hissued r hr
    · exact h.known r hr
  · intro hloop' r hr hother
    rw [hrequests] at hr
    rw [hlog, hdropped]
    by_cases hheld : f.underway.receiver = some r
    · rcases hleft hloop' r hheld with hkept | hanswered | hmem
      · exact absurd hkept hother
      · exact .inl hanswered
      · exact .inr (List.mem_append_left _ hmem)
    · rcases h.others (hloop hloop') r hr hheld with hanswered | hmem
      · exact .inl hanswered
      · exact .inr (List.mem_append_right _ hmem)
  · intro r a hmem ha
    rw [hlog] at hmem
    rw [hdropped]
    exact List.mem_append_right _ (h.superseded r a hmem ha)
  · intro result hresult
    rcases hresults result hresult with hold | hnew
    · exact h.results result hold
    · exact hnew

/-- A move that issues a request and awaits it keeps requests settled: the call has let go of the
receiver it held before, and that was answered. -/
theorem Settled.issue (h : f.Settled) {request : Request} {w w' : World}
    (hissue : f.world.step target (.issue request) = some w) (left : Option Nat)
    (hdrop : w.dropReceiver target left = some w')
    (hleft : ∀ r, f.underway.receiver = some r → answerTo f.world.log r ≠ none)
    (hmine : ∀ r, left = some r → f.underway.receiver = some r) {underway : CallState}
    (hreceiver : underway.receiver = some f.world.requests.length) :
    Settled { f with world := w', underway } := by
  have hw := World.eq_of_step_issue hissue
  obtain ⟨hw', -, -⟩ := World.of_dropReceiver hdrop
  subst hw hw'
  have hold : ∀ r, left = some r → r < f.world.requests.length := by
    intro r hr
    have hlast := (h.last r (hmine r hr)).1
    omega
  have hlength : (f.world.requests ++ [request]).length = f.world.requests.length + 1 :=
    List.length_append
  refine ⟨?_, ?_, ?_, ?_, h.results⟩
  · intro r hr
    cases hreceiver.symm.trans hr
    refine ⟨hlength.symm, fun hmem => ?_⟩
    rcases List.mem_append.mp hmem with hmem | hmem
    · exact Nat.lt_irrefl _ (hold _ (Option.mem_toList.mp hmem))
    · exact Nat.lt_irrefl _ (h.known _ hmem)
  · intro r hr
    change r < (f.world.requests ++ [request]).length
    rw [hlength]
    rcases List.mem_append.mp hr with hr | hr
    · exact Nat.lt_succ_of_lt (hold r (Option.mem_toList.mp hr))
    · exact Nat.lt_succ_of_lt (h.known r hr)
  · intro hloop r hr hother
    change r < (f.world.requests ++ [request]).length at hr
    rw [hlength] at hr
    have hne : r ≠ f.world.requests.length := by
      rintro rfl
      exact hother hreceiver
    by_cases hheld : f.underway.receiver = some r
    · exact .inl (hleft r hheld)
    · rcases h.others hloop r (by omega) hheld with hanswered | hmem
      · exact .inl hanswered
      · exact .inr (List.mem_append_right _ hmem)
  · intro r a hmem ha
    exact List.mem_append_right _ (h.superseded r a hmem ha)

/-- An action of the task keeps requests settled: what it supersedes was given up before, as the
caller of a pending request would still be waiting. -/
theorem Settled.work (h : f.Settled) {actions : List Action}
    (hrun : run (World.step target) (World.start options.inner) actions = some f.world)
    {action : Action} {w : World} (hconnects : FacadeMove.Connects (.task action))
    (htask : action.ofTask = true) (hstep : f.world.step target action = some w) :
    Settled { f with world := w } := by
  have hsame : w.log = f.world.log → w.requests = f.world.requests →
      (w.InLoop → f.world.InLoop) → w.dropped = f.world.dropped →
      Settled { f with world := w } := by
    intro hlog hrequests hloop hdropped
    exact h.idle hlog hrequests hloop [] hdropped
      (fun _ hr => absurd hr List.not_mem_nil) (fun _ hr => ⟨hr, List.not_mem_nil⟩)
      (fun _ _ hr => .inl hr) (fun _ hresult => .inl hresult)
  cases World.moved_of_step hstep with
  | issued | abandoned | controlClosed | updateRead | updatesDropped => cases htask
  | waited => exact hsame rfl rfl id rfl
  | ended hhead => exact hsame rfl rfl (fun _ => .inl hhead) rfl
  | @resumed m hphase hroom =>
    obtain ⟨updates, phase, heq⟩ := f.world.sendUpdate_eq m
    rw [heq] at hsame ⊢
    exact hsame rfl rfl (fun _ => .inr ⟨m, hphase⟩) rfl
  | @turned branch socketOpen connect select hhead hselect =>
    have hwaiting := World.waits_of_run hrun (.inl hhead)
    have hready := World.ready_of_select hselect
    obtain ⟨updates, phase, heq⟩ := f.world.finish_eq select
      (turn target (f.world.env socketOpen connect) select ⟨f.world.inner, []⟩)
    have hlog := f.world.finish_log select
      (turn target (f.world.env socketOpen connect) select ⟨f.world.inner, []⟩)
    rw [heq] at hlog ⊢
    refine ⟨h.last, h.known, ?_, ?_, h.results⟩
    · intro _ r hr hother
      rcases h.others (.inl hhead) r hr hother with hanswered | hmem
      · refine .inl ?_
        rw [hlog, answerTo_append]
        cases hanswer : answerTo f.world.log r with
        | none => exact absurd hanswer hanswered
        | some answer => exact Option.some_ne_none answer
      · exact .inr hmem
    · intro r a hmem ha
      rw [hlog] at hmem
      rcases List.mem_append.mp hmem with hmem | hmem
      · exact h.superseded r a hmem ha
      -- the request was held while a later one waited in the channel, so it is not the last
      obtain ⟨hheld, message, rfl⟩ := superseded_of_mem hwaiting hready
        (fun e he => by
          cases World.selected_of_select hselect with
          | @socket incoming => cases incoming <;> cases he <;> (intro h; cases h)
          | deadline | control => cases he)
        (show (f.world.env socketOpen connect).connect ≠ _ from hconnects)
        (did_mem_new.mp hmem) ha
      have hlt := (World.numbered_of_run hrun).held r hheld
      obtain ⟨-, request, hrequest, -⟩ := World.select_control hselect
      have hnext := (List.getElem?_eq_some_iff.mp hrequest).1
      have hunanswered : answerTo f.world.log r = none := by
        have hcount := World.accounted_of_run hrun (.inl hhead) r
        rw [if_pos hlt, Inner.holds, if_pos hheld] at hcount
        refine answerTo_eq_none fun answer hanswer => ?_
        have hpos : 0 < completions f.world.log r :=
          List.countP_pos_iff.mpr ⟨_, hanswer, by simp [Entry.completes]⟩
        omega
      refine (h.others (.inl hhead) r (hlt.trans hnext) fun hlast => ?_).resolve_left
        fun hanswered => hanswered hunanswered
      have := (h.last r hlast).1
      omega

/-- Dropping the receiver the call held keeps requests settled, whatever the call goes on with. From
then on its request may be superseded. -/
theorem Settled.dropReceiver (h : f.Settled) {w w' : World}
    (hdrop : f.world.dropReceiver target f.underway.receiver = some w)
    (hlog : w'.log = w.log) (hrequests : w'.requests = w.requests)
    (hdropped : w'.dropped = w.dropped) (hphase : w'.phase = w.phase) {underway : CallState}
    (hreceiver : underway.receiver = none) {results : List CallResult}
    (hresults : ∀ result ∈ results,
      result ∈ f.results ∨ result.error ≠ some .requestSuperseded) :
    Settled ⟨w', underway, results⟩ := by
  obtain ⟨rfl, hissued, -⟩ := World.of_dropReceiver hdrop
  refine h.idle hlog hrequests ?_ f.underway.receiver.toList hdropped ?_ ?_ ?_ hresults
  · intro hloop
    rwa [World.InLoop, hphase] at hloop
  · exact fun r hr => hissued r (Option.mem_toList.mp hr)
  · intro r hr
    cases hreceiver.symm.trans hr
  · exact fun _ r hr => .inr (.inr (Option.mem_toList.mpr hr))

/-- A call without a receiver goes on, or comes back, without anything to drop. -/
theorem Settled.unheld (h : f.Settled) {w : World} {underway : CallState}
    {results : List CallResult} (hheld : f.underway.receiver = none) (hlog : w.log = f.world.log)
    (hrequests : w.requests = f.world.requests) (hdropped : w.dropped = f.world.dropped)
    (hphase : w.phase = f.world.phase) (hreceiver : underway.receiver = none)
    (hresults : ∀ result ∈ results,
      result ∈ f.results ∨ result.error ≠ some .requestSuperseded) :
    Settled ⟨w, underway, results⟩ := by
  refine h.idle hlog hrequests ?_ [] hdropped (fun _ hr => absurd hr List.not_mem_nil) ?_ ?_
    hresults
  · intro hloop
    rwa [World.InLoop, hphase] at hloop
  · intro r hr
    cases hreceiver.symm.trans hr
  · intro _ r hr
    cases hheld.symm.trans hr

/-- A result of a call that is answered through the receiver it holds is not that the request was
superseded. -/
theorem Settled.error_ne (h : f.Settled) {r : Nat} (hr : f.underway.receiver = some r)
    {answer : Answer} (hanswer : answerTo f.world.log r = some answer) :
    answer.error ≠ some .requestSuperseded := by
  intro ha
  exact (h.last r hr).2 (h.superseded r answer (mem_of_answerTo hanswer) ha)

/-- What `bind_socket` returns is not that its request was superseded: both of its requests are
awaited until they are answered, or given up. -/
theorem Settled.bind_error (h : f.Settled) {call : BindCall} {w : World} {e : Error}
    (hreceiver : f.underway.receiver = call.receiver)
    (hadvanced : call.Advanced target options f.world w (.returned (.error e))) :
    e ≠ .requestSuperseded := by
  generalize hcall' : BindCall.returned (.error e) = call' at hadvanced
  cases hadvanced with
  | bindUnsent | activationUnsent | bindClosed =>
    cases hcall'
    intro h
    cases h
  | bindFailed hanswer | activationFailed hanswer =>
    cases hcall'
    rintro rfl
    exact h.error_ne hreceiver hanswer rfl
  | @activated port response deadline m hanswer =>
    rw [activationResult] at hcall'
    split at hcall'
    · split at hcall' <;> cases hcall'
      intro h
      cases h
    · cases hcall'
      intro h
      cases h
  | bindIssued | activationIssued | timed | bound | activationTolerated => cases hcall'

/-- A poll of `bind_socket` that does not return keeps requests settled, whether it waits on or
issues its second request. -/
theorem Settled.bind_polled (h : f.Settled) {call call' : BindCall} {w w' : World}
    (hreceiver : f.underway.receiver = call.receiver)
    (hadvanced : call.Advanced target options f.world w call')
    (hdrop : w.dropReceiver target (call.leaves call') = some w')
    (hnot : ∀ result, call' ≠ .returned result) {underway : CallState}
    (hunderway : underway.receiver = call'.receiver) :
    Settled { f with world := w', underway } := by
  cases hadvanced with
  | bindIssued hloop hissue =>
    refine h.issue hissue _ hdrop ?_ (fun r hr => by cases hr) hunderway
    intro r hr
    cases hreceiver.symm.trans hr
  | @activationIssued response port message _ hanswer hrouting hloop hissue =>
    refine h.issue hissue _ hdrop ?_ ?_ hunderway
    · intro r hr
      cases hreceiver.symm.trans hr
      rw [hanswer]
      exact Option.some_ne_none _
    · intro r hr
      rw [BindCall.leaves] at hr
      split at hr
      · cases hr
      · exact hreceiver.trans hr
  | timed port response =>
    have hleaves : (BindCall.activationSent port response).leaves
        (.awaitingActivation port response (f.world.clock + TCP_TIMEOUT_INITIAL_INACTIVITY)) =
          none := if_pos rfl
    rw [hleaves] at hdrop
    cases hdrop
    have hsame : underway.receiver = f.underway.receiver := hunderway.trans hreceiver.symm
    refine h.idle rfl rfl id [] rfl (fun _ hr => absurd hr List.not_mem_nil) ?_ ?_
      (fun _ hresult => .inl hresult)
    · exact fun r hr => ⟨hsame ▸ hr, List.not_mem_nil⟩
    · exact fun _ r hr => .inl (hsame.trans hr)
  | bindUnsent | activationUnsent | bound | bindFailed | bindClosed | activated
  | activationFailed | activationTolerated => exact absurd rfl (hnot _)

/-- **A move keeps requests settled**, whichever call is underway and however it goes on. -/
theorem Settled.step (h : f.Settled) {actions : List Action}
    (hrun : run (World.step target) (World.start options.inner) actions = some f.world)
    {move : FacadeMove} (hconnects : move.Connects)
    (hstep : f.step ι target options move = some f') : f'.Settled := by
  have hsnoc : ∀ {result : CallResult}, result.error ≠ some .requestSuperseded →
      ∀ result' ∈ f.results ++ [result],
        result' ∈ f.results ∨ result'.error ≠ some .requestSuperseded := by
    intro result hresult result' hmem
    rcases List.mem_append.mp hmem with hmem | hmem
    · exact .inl hmem
    · cases List.mem_singleton.mp hmem
      exact .inr hresult
  cases moved_of_step hstep with
  | called hidle | reconnectCalled hidle | shutDownCalled hidle | dropped hidle =>
    exact h.unheld (by rw [hidle]; rfl) rfl rfl rfl rfl rfl fun _ => .inl
  | worked htask hwork => exact h.work hrun hconnects htask hwork
  | panicked hat =>
    exact h.unheld (by rw [hat]; rfl) rfl rfl rfl rfl rfl (hsnoc fun h => (by cases h))
  | @issued method request w hat hrequest hloop hissue =>
    refine h.issue hissue none rfl ?_ (fun r hr => by cases hr) rfl
    intro r hr
    rw [hat] at hr
    cases hr
  | unsent hat =>
    exact h.unheld (by rw [hat]; rfl) rfl rfl rfl rfl rfl (hsnoc (Method.error_unsent _).1)
  | @answered method response answer result hat hanswer hresult =>
    have hr : f.underway.receiver = some response := by
      rw [hat]
      rfl
    refine h.idle rfl rfl id [] rfl (fun _ hr => absurd hr List.not_mem_nil)
      (fun _ hr => by cases hr) ?_ (hsnoc ?_)
    · intro _ r hr'
      cases hr.symm.trans hr'
      rw [hanswer]
      exact .inr (.inl (Option.some_ne_none _))
    · rw [Method.error_of_answered hresult]
      exact h.error_ne hr hanswer
  | @unanswered method response hat hanswer hended =>
    refine h.idle rfl rfl id [] rfl (fun _ hr => absurd hr List.not_mem_nil)
      (fun _ hr => by cases hr) (fun hloop => absurd hloop hended)
      (hsnoc (Method.error_unsent _).2)
  | connectPolled hat hadvanced hdrop hnot | reconnectPolled hat hadvanced hdrop hnot =>
    exact h.bind_polled (by rw [hat]; rfl) hadvanced hdrop hnot rfl
  | connected hat hadvanced hdrop =>
    refine h.dropReceiver (by rw [hat]; exact hdrop) rfl rfl rfl rfl rfl (hsnoc ?_)
    intro h
    cases h
  | rebound hat hadvanced hdrop =>
    exact h.dropReceiver (by rw [hat]; exact hdrop) rfl rfl rfl rfl rfl fun _ => .inl
  | @connectFailed call w e hat hadvanced hdrop | @reconnectFailed call w e hat hadvanced hdrop =>
    have hdrop' : f.world.dropReceiver target f.underway.receiver = some w := by
      rw [hat]
      exact hdrop
    have he := h.bind_error (by rw [hat]; rfl) hadvanced
    have hresult : ∀ result : CallResult, result.error = some e →
        result.error ≠ some .requestSuperseded := by
      intro result herror hsuperseded
      exact he (Option.some.inj (herror.symm.trans hsuperseded))
    refine h.dropReceiver hdrop' ?_ ?_ ?_ ?_ ?_ (hsnoc (hresult _ ?_)) <;> rfl
  | foundInFlight hat | nothingInFlight hat | shutDown hat =>
    exact h.unheld (by rw [hat]; rfl) rfl rfl rfl rfl rfl (hsnoc fun h => (by cases h))
  | senderDropped hat | drained hat =>
    exact h.unheld (by rw [hat]; rfl) rfl rfl rfl rfl rfl fun _ => .inl
  | abandoned hborrows hdrop =>
    refine h.dropReceiver hdrop ?_ ?_ ?_ ?_ ?_ fun _ => .inl <;> rfl
  | ownerAbandoned hdrop =>
    refine h.dropReceiver hdrop ?_ ?_ ?_ ?_ ?_ fun _ => .inl <;> rfl

/-- In every run whose connections do not fail as superseded, requests are settled: what was
superseded was given up by its caller before. -/
theorem settled_of_run {moves : List FacadeMove} (hconnects : ∀ move ∈ moves, move.Connects)
    (hrun : run (step ι target options) (start options) moves = some f) : f.Settled := by
  refine run_history (P := fun moves f => (∀ move ∈ moves, move.Connects) → f.Settled) ?_ hrun ?_
    hconnects
  · intro moves f move f' hrun hstep h hconnects
    obtain ⟨hmoves, hmove⟩ := List.forall_mem_append.mp hconnects
    obtain ⟨actions, hactions⟩ := world_of_run hrun
    exact (h hmoves).step hactions (List.forall_mem_singleton.mp hmove) hstep
  · intro _
    refine ⟨?_, fun r hr => absurd hr List.not_mem_nil, ?_, ?_, ?_⟩
    · exact fun r hr => by cases hr
    · exact fun _ r hr => absurd hr (Nat.not_lt_zero r)
    · exact fun r a hmem => absurd hmem List.not_mem_nil
    · exact fun result hresult => absurd hresult List.not_mem_nil

/-- **A caller that awaits its call is not superseded.** In every run of a client, with any calls,
polled and cancelled at any time, no call returns that its request was superseded; and each request
that was, had been given up by its caller. A connector is assumed not to fail with that error. -/
theorem calls_not_superseded {moves : List FacadeMove}
    (hrun : run (step ι target options) (start options) moves = some f)
    (hconnects : ∀ move ∈ moves, move.Connects) :
    (∀ result ∈ f.results, result.error ≠ some .requestSuperseded) ∧
    ∀ r answer, answerTo f.world.log r = some answer →
      answer.error = some .requestSuperseded → r ∈ f.world.dropped := by
  have h := settled_of_run hconnects hrun
  exact ⟨h.results, fun r answer hanswer => h.superseded r answer (mem_of_answerTo hanswer)⟩

end

/-- A tester that does not activate routing when it connects, so that connecting takes one request
only. -/
def plainOptions : BindOptions where
  inner := testerOptions
  serverAddress := ⟨13400⟩
  routingActivationOptions := none

/-- The client connects: its bind is issued, taken and answered, and the call comes back. -/
def connectedRun : List FacadeMove := [.poll, .task (.turn .control true (.ok ())), .poll]

/-- A send is given up while it awaits its acknowledgement; then a receive is called and times
out. -/
def givenUpRun : List FacadeMove :=
  connectedRun ++
    [.call (.call (.sendDiagnosticMessage .logical [0x3E, 0x00])), .poll,
      .task (.turn .control true (.ok ())), .cancel,
      .call (.call (.receiveDiagnosticResponse 1000)), .poll,
      .task (.turn .control true (.ok ())), .task (.wait 1000),
      .task (.turn .deadline true (.ok ())), .poll]

/-- The send was superseded and its caller is gone; the receive was not, and its caller sees the
timeout it asked for. -/
theorem calls_not_superseded_given_up :
    letI := plainWire
    ∃ f, run (step Incomplete releaseTarget plainOptions) (start plainOptions) givenUpRun = some f ∧
      answerTo f.world.log 1 = some (.done (.error .requestSuperseded)) ∧ 1 ∈ f.world.dropped ∧
      f.results = [.connected (.ok ()), .message (.error (.task .responseTimeoutExceeded))] ∧
      ∀ result ∈ f.results, result.error ≠ some .requestSuperseded := by
  let := plainWire
  have h : ∃ f,
      run (step Incomplete releaseTarget plainOptions) (start plainOptions) givenUpRun = some f ∧
      answerTo f.world.log 1 = some (.done (.error .requestSuperseded)) ∧
      f.results = [.connected (.ok ()), .message (.error (.task .responseTimeoutExceeded))] :=
    ⟨_, rfl, rfl, rfl⟩
  obtain ⟨f, hrun, hanswer, hresults⟩ := h
  obtain ⟨hnot, hdropped⟩ := calls_not_superseded hrun (by
    simp [givenUpRun, connectedRun, FacadeMove.Connects])
  exact ⟨f, hrun, hanswer, hdropped 1 _ hanswer rfl, hresults, hnot⟩

/-! ## Messages in flight -/

end Facade

/-- A message that goes to the update channel if nobody waits for it: neither a diagnostic message
nor a positive acknowledgement. -/
def Message.isUpdate (m : Message) : Bool :=
  match m.payload with
  | .diagnosticMessage _ => false
  | _ => !m.isPositiveAck

/-- The messages of a log that may have gone to the update channel, by their kind. Which of them did
go there depends on what was pending, and is `Facade.passedOn`. -/
def updatesReceived (log : List Entry) : List OwnedMessage :=
  log.filterMap fun
    | .received (.ok m) => if m.isUpdate then some m else none
    | _ => none

theorem updatesReceived_append (xs ys : List Entry) :
    updatesReceived (xs ++ ys) = updatesReceived xs ++ updatesReceived ys :=
  List.filterMap_append

/-- The messages that `reconnect` has returned, oldest first. A reconnect that finds none in flight
returns none. -/
def inFlightMessages (results : List CallResult) : List OwnedMessage :=
  results.filterMap fun
    | .reconnected (.ok m) => m
    | _ => none

theorem inFlightMessages_append (xs ys : List CallResult) :
    inFlightMessages (xs ++ ys) = inFlightMessages xs ++ inFlightMessages ys :=
  List.filterMap_append

namespace World

/-- The message that a turn hands to `update_sender`, if its code comes to that point. It is read
off the code of the turn, not off the kind of message. -/
def passesOn (target : Target) (w : World) : Action → Option OwnedMessage
  | .turn branch socketOpen connect => do
    let select ← w.select branch
    match turn target (w.env socketOpen connect) select ⟨w.inner, []⟩ with
    | .ok (.update m) _ => some m
    | _ => none
  | _ => none

/-- The message the task waits to put into the update channel, while that is full. -/
def waitingUpdate (w : World) : Option OwnedMessage :=
  match w.phase with
  | .updateBlocked m => some m
  | _ => none

/-- The messages on their way through the update channel: those in it, and the one that waits for
room. -/
def passing (w : World) : List OwnedMessage := w.updates ++ w.waitingUpdate.toList

variable {target : Target} {w w' : World}

/-- Sending an update adds it at the end of what is on its way, or loses it where the receiver is
gone. -/
theorem passing_sendUpdate (w : World) (m : OwnedMessage) :
    (w.sendUpdate m).passing.Sublist (w.updates ++ [m]) := by
  rw [sendUpdate]
  split
  · change (w.updates ++ []).Sublist _
    simp
  · split
    · change ((w.updates ++ [m]) ++ []).Sublist _
      simp
    · exact List.Sublist.refl _

/-- Only a message that was just received, and that nobody waits for, is passed on, and it is of the
kind that goes to the update channel. -/
theorem updatesReceived_of_turned {env : Env} {i : Inner} {select : Select} {m : OwnedMessage}
    {t : Task} (h : Turned target env i select (.ok (.update m) t)) :
    [m].Sublist (updatesReceived (select.entries ++ t.effects.map .did)) := by
  generalize hprocessed : Processed.update m = processed at h
  cases h with
  | expired | bound | unbound | refused | drained | listening | sent | acked | ackDropped
  | stored | unheeded | broken => cases hprocessed
  | replied => split at hprocessed <;> cases hprocessed
  | @passed _ hm hdm hactive hroom =>
    cases hprocessed
    have hupdate : m.isUpdate = true := by
      rw [Message.isUpdate]
      split
      · next dm hpayload => exact absurd hpayload (hdm dm)
      · rw [hm]
        rfl
    rw [updatesReceived_append, Select.entries, updatesReceived, List.filterMap_cons]
    simp only [hupdate, if_true]
    exact List.sublist_append_left _ _

/-- **What a step of the task puts into the update channel** it passes on in this very step, or has
been waiting to put there; and what it passes on it has just received. -/
theorem passing_step (hw : w.Waits) {action : Action} (htask : action.ofTask = true)
    (h : w.step target action = some w') :
    ∃ new, w'.log = w.log ++ new ∧
      w'.passing.Sublist (w.passing ++ (w.passesOn target action).toList) ∧
      (w.passesOn target action).toList.Sublist (updatesReceived new) := by
  have hquiet : ∀ {w' : World}, w'.log = w.log → w'.passing.Sublist w.passing →
      w.passesOn target action = none → ∃ new, w'.log = w.log ++ new ∧
        w'.passing.Sublist (w.passing ++ (w.passesOn target action).toList) ∧
        (w.passesOn target action).toList.Sublist (updatesReceived new) := by
    intro w' hlog hpassing hnone
    refine ⟨[], hlog.trans (List.append_nil _).symm, ?_, ?_⟩
    · exact hpassing.trans (List.sublist_append_left _ _)
    · rw [hnone]
      exact List.nil_sublist _
  cases moved_of_step h with
  | issued | abandoned | controlClosed | updateRead | updatesDropped => cases htask
  | waited => exact hquiet rfl (List.Sublist.refl _) rfl
  | ended hhead hnone =>
    refine hquiet rfl (List.Sublist.append_left (List.nil_sublist _) _) ?_
    rw [passesOn, hnone]
    rfl
  | @resumed m hphase hroom =>
    obtain ⟨updates, phase, heq⟩ := w.sendUpdate_eq m
    refine hquiet (by rw [heq]) ((passing_sendUpdate w m).trans ?_) rfl
    rw [passing, waitingUpdate, hphase]
    exact List.Sublist.refl _
  | @turned branch socketOpen connect select hhead hselect =>
    have hturned := turn_spec target (w.env socketOpen connect) (hw (.inl hhead))
      (ready_of_select hselect)
    have hpasses : w.passesOn target (.turn branch socketOpen connect) =
        match turn target (w.env socketOpen connect) select ⟨w.inner, []⟩ with
        | .ok (.update m) _ => some m
        | _ => none := by
      rw [passesOn, hselect]
      rfl
    rw [hpasses]
    generalize turn target (w.env socketOpen connect) select ⟨w.inner, []⟩ = r at hturned
    refine ⟨_, w.finish_log select r, ?_⟩
    have hpassing : w.passing = w.updates := by
      rw [passing, waitingUpdate, hhead]
      exact List.append_nil _
    have hkept : ∀ {w₁ : World}, w₁.updates = w.updates → w₁.waitingUpdate = none →
        w₁.passing.Sublist (w.updates ++ []) := by
      intro w₁ hupdates hnone
      rw [passing, hupdates, hnone]
      exact List.Sublist.refl _
    rw [hpassing]
    cases r with
    | error p t => exact ⟨hkept rfl rfl, List.nil_sublist _⟩
    | ok processed t =>
      cases processed with
      | stay =>
        refine ⟨hkept rfl ?_, List.nil_sublist _⟩
        change (match w.phase with | .updateBlocked m => some m | _ => none) = none
        rw [hhead]
      | exit => exact ⟨hkept rfl rfl, List.nil_sublist _⟩
      | update m =>
        exact ⟨passing_sendUpdate (w.record select t) m, updatesReceived_of_turned hturned⟩

end World

namespace Facade

section
variable {ι : Type} [WireCodec ι] {target : Target} {options : BindOptions} {f f' : Facade}

/-- The message that a move passes on to the update channel. Only a turn of the task does; what the
client itself does takes messages out. -/
def passesOn (target : Target) (f : Facade) : FacadeMove → Option OwnedMessage
  | .task action => f.world.passesOn target action
  | _ => none

variable (ι target options) in
/-- What the task has passed on to the update channel in a run, in that order, whether or not anyone
has read it since. -/
def passedOn (moves : List FacadeMove) : List OwnedMessage :=
  seen (step ι target options) (passesOn target) (start options) moves

/-- Of the messages `ms` that were passed on, each of which had been received, what `reconnect` has
returned comes first, and then what is on its way. -/
def Passed (ms : List OwnedMessage) (f : Facade) : Prop :=
  (inFlightMessages f.results ++ f.world.passing).Sublist ms ∧
    ms.Sublist (updatesReceived f.world.log)

variable {ms : List OwnedMessage}

/-- A move that passes nothing on leaves the messages in their order, and may take some of them
out. -/
theorem Passed.idle (h : Passed ms f) (hlog : f'.world.log = f.world.log)
    (hpassing : f'.world.passing.Sublist f.world.passing)
    (hresults : inFlightMessages f'.results = inFlightMessages f.results) :
    Passed (ms ++ []) f' := by
  rw [Passed, hlog, hresults, List.append_nil]
  exact ⟨(hpassing.append_left _).trans h.1, h.2⟩

/-- Dropping a receiver leaves the update channel alone, and what was logged. -/
theorem passing_dropReceiver {w w' : World} {response : Option Nat}
    (hdrop : w.dropReceiver target response = some w') :
    w'.log = w.log ∧ w'.passing = w.passing := by
  obtain ⟨rfl, -, -⟩ := World.of_dropReceiver hdrop
  exact ⟨rfl, rfl⟩

/-- So does a poll of `bind_socket`, which issues a request at most. -/
theorem passing_advanced {w w' w'' : World} {call call' : BindCall}
    (hadvanced : call.Advanced target options w w' call')
    (hdrop : w'.dropReceiver target (call.leaves call') = some w'') :
    w''.log = w.log ∧ w''.passing = w.passing := by
  obtain ⟨hlog, hpassing⟩ := passing_dropReceiver hdrop
  rcases hadvanced.issue with rfl | ⟨request, hissue⟩
  · exact ⟨hlog, hpassing⟩
  · rw [World.eq_of_step_issue hissue] at hlog hpassing
    exact ⟨hlog, hpassing⟩

/-- **A move passes messages on in order**: what is new goes behind what is on its way, and what
`reconnect` returns is the first of it. -/
theorem Passed.step (h : Passed ms f) (hw : f.world.Waits) {move : FacadeMove}
    (hstep : f.step ι target options move = some f') :
    Passed (ms ++ (f.passesOn target move).toList) f' := by
  have hsnoc : ∀ {result : CallResult}, inFlightMessages [result] = [] →
      inFlightMessages (f.results ++ [result]) = inFlightMessages f.results := by
    intro result hresult
    rw [inFlightMessages_append, hresult, List.append_nil]
  have hclient : ∀ w : World, w.dropClient.passing.Sublist w.passing := by
    intro w
    exact (List.nil_sublist _).append (List.Sublist.refl _)
  cases moved_of_step hstep with
  | called | reconnectCalled | shutDownCalled | senderDropped =>
    exact h.idle rfl (List.Sublist.refl _) rfl
  | dropped => exact h.idle rfl (hclient _) rfl
  | @worked action w htask hwork =>
    obtain ⟨new, hlog, hnew, hreceived⟩ := World.passing_step hw htask hwork
    refine ⟨(hnew.append_left _).trans ?_, ?_⟩
    · rw [← List.append_assoc]
      exact h.1.append_right _
    · change (ms ++ (f.world.passesOn target action).toList).Sublist (updatesReceived w.log)
      rw [hlog, updatesReceived_append]
      exact h.2.append hreceived
  | panicked => exact h.idle rfl (List.Sublist.refl _) (hsnoc rfl)
  | @unsent method | @unanswered method =>
    refine h.idle rfl (List.Sublist.refl _) (hsnoc ?_)
    rcases method with (_ | _) | _ <;> rfl
  | @answered method response answer result hat hanswer hresult =>
    refine h.idle rfl (List.Sublist.refl _) (hsnoc ?_)
    rcases method with (_ | _) | _ <;> rcases answer with _ | _ | _ <;> cases hresult <;> rfl
  | issued hat hrequest hloop hissue =>
    rw [World.eq_of_step_issue hissue]
    exact h.idle rfl (List.Sublist.refl _) rfl
  | connectPolled hat hadvanced hdrop | reconnectPolled hat hadvanced hdrop =>
    obtain ⟨hlog, hpassing⟩ := passing_advanced hadvanced hdrop
    exact h.idle hlog (hpassing ▸ List.Sublist.refl _) rfl
  | connected hat hadvanced hdrop | reconnectFailed hat hadvanced hdrop =>
    obtain ⟨hlog, hpassing⟩ := passing_dropReceiver hdrop
    exact h.idle hlog (hpassing ▸ List.Sublist.refl _) (hsnoc rfl)
  | connectFailed hat hadvanced hdrop =>
    obtain ⟨hlog, hpassing⟩ := passing_dropReceiver hdrop
    exact h.idle hlog (hpassing ▸ hclient _) (hsnoc rfl)
  | rebound hat hadvanced hdrop =>
    obtain ⟨hlog, hpassing⟩ := passing_dropReceiver hdrop
    exact h.idle hlog (hpassing ▸ List.Sublist.refl _) rfl
  | @foundInFlight deadline m rest hat hupdates =>
    -- what is first in the channel is next to return
    have hsame : inFlightMessages (f.results ++ [.reconnected (.ok (some m))]) ++
        (rest ++ f.world.waitingUpdate.toList) =
          inFlightMessages f.results ++ f.world.passing := by
      rw [inFlightMessages_append, World.passing, hupdates, List.append_assoc]
      rfl
    have hnext := h
    rw [Passed, ← hsame, ← List.append_nil ms] at hnext
    exact hnext
  | nothingInFlight => exact h.idle rfl (List.Sublist.refl _) (hsnoc rfl)
  | @drained m rest hat hupdates =>
    refine h.idle rfl ?_ rfl
    rw [World.passing, World.passing, hupdates]
    exact (List.sublist_cons_self m rest).append_right _
  | shutDown => exact h.idle rfl (List.Sublist.refl _) (hsnoc rfl)
  | abandoned hborrows hdrop =>
    obtain ⟨hlog, hpassing⟩ := passing_dropReceiver hdrop
    exact h.idle hlog (hpassing ▸ List.Sublist.refl _) rfl
  | ownerAbandoned hdrop =>
    obtain ⟨hlog, hpassing⟩ := passing_dropReceiver hdrop
    exact h.idle hlog (hpassing ▸ hclient _) rfl

/-- **What `reconnect` returns** is part of what the task has passed on to the update channel, in
that order and each message at most once, and that is part of what it has received. It is never a
diagnostic message, such as the response that was in flight. -/
theorem reconnect_in_order {moves : List FacadeMove}
    (hrun : run (step ι target options) (start options) moves = some f) :
    (inFlightMessages f.results).Sublist (passedOn ι target options moves) ∧
    (passedOn ι target options moves).Sublist (updatesReceived f.world.log) ∧
    ∀ m, .reconnected (.ok (some m)) ∈ f.results →
      .received (.ok m) ∈ f.world.log ∧ ∀ dm, m.payload ≠ .diagnosticMessage dm := by
  have h : Passed (passedOn ι target options moves) f ∧ f.world.Waits :=
    seen_invariant_along (P := fun (ms : List OwnedMessage) (f : Facade) =>
      Passed ms f ∧ f.world.Waits) ?_ (along_true _ _) hrun
      ⟨⟨List.Sublist.refl _, List.Sublist.refl _⟩, fun _ => .none⟩
  · have hsub := (List.sublist_append_left _ _).trans h.1.1
    refine ⟨hsub, h.1.2, fun m hm => ?_⟩
    have hmem : m ∈ inFlightMessages f.results := List.mem_filterMap.mpr ⟨_, hm, rfl⟩
    obtain ⟨e, he, hentry⟩ := List.mem_filterMap.mp ((hsub.trans h.1.2).subset hmem)
    split at hentry
    · next m' =>
      split at hentry
      · next hupdate =>
        cases hentry
        refine ⟨he, fun dm hpayload => ?_⟩
        rw [Message.isUpdate, hpayload] at hupdate
        cases hupdate
      · cases hentry
    · cases hentry
  · rintro ms f move f' - hstep ⟨hpassed, hw⟩
    refine ⟨hpassed.step hw hstep, ?_⟩
    obtain ⟨actions, hactions⟩ := (moved_of_step hstep).actions
    exact run_invariant (P := World.Waits) (fun _ _ _ h hw => hw.step h) hactions hw

end

/-- A response and an alive check arrive while no call is underway; then the client reconnects, and
looks for a message in flight. -/
def reconnectedRun : List FacadeMove :=
  connectedRun ++
    [.task (.turn (.socket (.message (diagnosticFrom 0x0001 0x0E00 [0x7E, 0x00]))) true (.ok ())),
      .task (.turn (.socket (.message aliveCheckRequest)) true (.ok ())), .reconnect, .poll,
      .task (.turn .control true (.ok ())), .poll, .poll]

/-- What `reconnect` returns is the alive check, though the response came first: that one is in the
buffer, where `reconnect` does not look. -/
theorem reconnect_in_order_alive_check :
    letI := plainWire
    ∃ f, run (step Incomplete releaseTarget plainOptions) (start plainOptions)
        reconnectedRun = some f ∧
      f.results = [.connected (.ok ()), .reconnected (.ok (some aliveCheckRequest))] ∧
      [aliveCheckRequest].Sublist
        (passedOn Incomplete releaseTarget plainOptions reconnectedRun) ∧
      [aliveCheckRequest].Sublist (updatesReceived f.world.log) := by
  let := plainWire
  have h : ∃ f, run (step Incomplete releaseTarget plainOptions) (start plainOptions)
      reconnectedRun = some f ∧
      f.results = [.connected (.ok ()), .reconnected (.ok (some aliveCheckRequest))] :=
    ⟨_, rfl, rfl⟩
  obtain ⟨f, hrun, hresults⟩ := h
  obtain ⟨horder, hreceived, -⟩ := reconnect_in_order hrun
  rw [hresults] at horder
  exact ⟨f, hrun, hresults, horder, horder.trans hreceived⟩

end Facade

end SimpleDoip
