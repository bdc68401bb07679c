import SimpleDoip.Client.Binding

/-!
# Connecting to a peer that does not answer

Two timers of the same length watch the wait for a routing activation response. The one of the call
tolerates a peer that does not answer, the one of the task fails the request and with it the call.
The same peer may also end the connection, which the task notices when it sends the request or while
the request waits, and which fails the call too.

Beside a silent peer a call goes through the `Stage`s below, which fix what the task holds and has
answered; `Binding.Sound.step` says which step takes it to an outcome that is not tolerated, and
`bind_outcome_iff` reads off the outcome of every run. The request for the activation is the first
message to a new socket, so the task never waits for room in the socket's channel here.
-/

namespace SimpleDoip

open Transition

/-! ## A silent peer -/

/-- What can happen while the peer accepts the connection and sends no message, and the client is
used for this call alone. The connection may end at any time. -/
def PeerSilent : BindMove → Prop
  | .poll | .task (.wait _) | .task (.turn .deadline _ _) => True
  | .task (.turn .control _ connect) => connect = .ok ()
  | .task (.turn (.socket incoming) _ _) => ∀ m, incoming ≠ .message m
  | .task _ => False

/-- The task does not come upon the end of a connection: the socket takes what it is handed and
delivers nothing. -/
def KeepsConnection : BindMove → Prop
  | .task (.turn .control socketOpen _) => socketOpen = true
  | .task (.turn (.socket _) _ _) => False
  | _ => True

/-- The errors a call beside a silent peer can come back with. All but the timeout need a connection
that `ended`. -/
inductive SilentFailure (ended : Prop) : Error → Prop where
  | timeout : SilentFailure ended .responseTimeoutExceeded
  /-- The connection ended while the task held the routing activation, and the task failed it for
  that. -/
  | closed (hended : ended) : SilentFailure ended .socketClosedUnexpectedly
  /-- The connection had ended when the task took the request, so that its message could not be
  sent. -/
  | refused (hended : ended) : SilentFailure ended .connectionClosed
  /-- The task had noticed the end before it took the request, and had given up the socket. -/
  | unbound (hended : ended) : SilentFailure ended .socketNotBound

/-- The number of the request for the routing activation that a call waits for, from the moment it
was issued. -/
def BindCall.activation : BindCall → Option Nat
  | .activationSent _ response | .awaitingActivation _ response _ => some response
  | _ => none

/-- The inner task does not fail the routing activation that the call waits for. While it holds the
request, it observes neither its deadline for it nor the end of the socket; and when it takes the
request, there is a socket and it takes messages. -/
def Tolerated (b : Binding) : BindMove → Prop
  | .task (.turn .deadline _ _) | .task (.turn (.socket _) _ _) =>
    ∀ response, b.call.activation = some response → b.world.inner.held ≠ some response
  | .task (.turn .control socketOpen _) =>
    b.call.activation = some b.world.taken →
      socketOpen = true ∧ b.world.inner.tcpDataSocket ≠ none
  | _ => True

/-- The call has not failed, nor has the routing activation it waits for been answered. With a
silent peer the only answers are failures. -/
def Binding.Unfailed (port : UInt16) (b : Binding) : Prop :=
  match b.call with
  | .returned result => result = .ok port
  | .activationSent _ response | .awaitingActivation _ response _ =>
    answerTo b.world.log response = none
  | _ => True

/-- The call waits for its routing activation, whether or not it has armed its own timeout yet. -/
inductive BindCall.Activating (port : UInt16) (response : Nat) : BindCall → Prop where
  | sent : Activating port response (.activationSent port response)
  | awaits (deadline : Nat) :
      Activating port response (.awaitingActivation port response deadline)

/-- The task at the head of its loop with the options it was started with, by how many requests it
took and how many were issued. -/
structure World.AtHead (w : World) (options : ClientOptions) (taken issued : Nat) : Prop where
  head : w.phase = .loopHead
  taken : w.taken = taken
  issued : w.requests.length = issued
  clientOptions : w.inner.clientOptions = options

/-- The socket of a new connection, to which nothing was sent so far, unless the connection
`ended`. -/
def World.Connected (ended : Prop) (w : World) : Prop :=
  (∃ s, w.inner.tcpDataSocket = some s ∧ s.sessionId = 0) ∨ w.inner.tcpDataSocket = none ∧ ended

section
variable (options : BindOptions) (base : Nat) (ended : Prop)

/-- How far a call has come beside a silent peer: what the call waits for and what the task has done
about it. The requests of the call are `base` and the next one. -/
inductive Stage : Binding → Prop where
  | begun {w : World} (hhead : w.AtHead options.inner base base) : Stage ⟨w, .begun⟩
  | bindQueued {w : World} (hhead : w.AtHead options.inner base (base + 1))
      (hrequest : w.requests[base]? = some (.bindSocket options.serverAddress)) :
      Stage ⟨w, .awaitingBind base⟩
  | bound {w : World} (hhead : w.AtHead options.inner (base + 1) (base + 1))
      (hidle : w.inner.activeRequest = none) (hsocket : w.Connected ended)
      (hanswer : answerTo w.log base = some (.port (.ok options.serverAddress.port))) :
      Stage ⟨w, .awaitingBind base⟩
  | queued {w : World} {call : BindCall} {message : OwnedMessage}
      (hcall : call.Activating options.serverAddress.port (base + 1))
      (hhead : w.AtHead options.inner (base + 1) (base + 2))
      (hidle : w.inner.activeRequest = none) (hsocket : w.Connected ended)
      (hrequest : w.requests[base + 1]? = some (.routingActivation message)) :
      Stage ⟨w, call⟩
  | waiting {w : World} {call : BindCall} {message : OwnedMessage}
      (hcall : call.Activating options.serverAddress.port (base + 1))
      (hhead : w.AtHead options.inner (base + 2) (base + 2))
      (hactive : w.inner.activeRequest = some (.awaitResponse message (base + 1)))
      (hanswer : answerTo w.log (base + 1) = none) : Stage ⟨w, call⟩
  | failed {w : World} {call : BindCall} {e : Error} (hfailure : SilentFailure ended e)
      (hcall : call.Activating options.serverAddress.port (base + 1))
      (hhead : w.AtHead options.inner (base + 2) (base + 2))
      (hidle : w.inner.activeRequest = none)
      (hanswer : answerTo w.log (base + 1) = some (.message (.error e))) : Stage ⟨w, call⟩
  /-- The task has ended without an answer: its clock could not represent the deadline, or the
  counter was full. The call then goes on as after its own timeout. -/
  | dead {w : World} {call : BindCall}
      (hcall : call.Activating options.serverAddress.port (base + 1)) (hphase : ¬ w.InLoop)
      (hanswer : answerTo w.log (base + 1) = none) : Stage ⟨w, call⟩
  | returned {w : World} {result : Except Error UInt16}
      (hresult : result = .ok options.serverAddress.port ∨
        ∃ e, SilentFailure ended e ∧ result = .error e) : Stage ⟨w, .returned result⟩

end

/-- What a silent peer leaves for the world to do: time passes, the task takes a request, sees its
deadline, or comes upon the end of the socket. -/
inductive SilentStep (target : Target) (w : World) : Action → World → Prop where
  | waited (duration : Nat) :
      SilentStep target w (.wait duration) { w with clock := w.clock + duration }
  | took {socketOpen : Bool} {request : Request} {r : EStateM.Result Panic Task Processed}
      (hhead : w.phase = .loopHead) (hrequest : w.requests[w.taken]? = some request)
      (hturned : Turned target (w.env socketOpen (.ok ())) w.inner
        (.control (request.create w.taken)) r) :
      SilentStep target w (.turn .control socketOpen (.ok ()))
        (w.finish (.control (request.create w.taken)) r)
  | expired {socketOpen : Bool} {connect : Except Error Unit} {request : ControlMessage}
      (hhead : w.phase = .loopHead) (hactive : w.inner.activeRequest = some request) :
      SilentStep target w (.turn .deadline socketOpen connect) (w.finish .deadline
        (.ok .stay ⟨w.inner.cleared, w.inner.failActive .responseTimeoutExceeded⟩))
  | ended {incoming : Incoming} {socketOpen : Bool} {connect : Except Error Unit}
      (hhead : w.phase = .loopHead) :
      SilentStep target w (.turn (.socket incoming) socketOpen connect)
        (w.finish (.socket (.error .socketClosedUnexpectedly))
          (.ok .stay ⟨{ w.inner.cleared with tcpDataSocket := none },
            w.inner.failActive .socketClosedUnexpectedly⟩))

section
variable {target : Target} {w w' : World}

/-- **Inversion of a step beside a silent peer**: which of the four it was, with the outcome of the
turn. -/
theorem silentStep_of_step {a : Action} (hw : w.Waits)
    (hopen : w.controlOpen = true) (ha : PeerSilent (.task a))
    (h : w.step target a = some w') : SilentStep target w a w' := by
  cases a with
  | wait duration =>
    cases h
    exact .waited duration
  | turn branch socketOpen connect =>
    obtain ⟨hhead, ⟨select, hselect, rfl⟩ | ⟨-, -, hclosed, -⟩⟩ := World.of_step_turn h
    · have hturned := turn_spec target (w.env socketOpen connect) (hw (.inl hhead))
        (World.ready_of_select hselect)
      cases World.selected_of_select hselect with
      | deadline hactive =>
        generalize turn target (w.env socketOpen connect) .deadline ⟨w.inner, []⟩ = r at hturned
        cases hturned
        exact .expired hhead hactive
      | control hrequest =>
        obtain rfl : connect = .ok () := ha
        exact .took hhead hrequest hturned
      | @socket incoming hsocket =>
        have hresult : incoming.result = .error .socketClosedUnexpectedly := by
          cases incoming with
          | message m => exact absurd rfl (ha m)
          | failed | closed => rfl
        rw [hresult] at hturned ⊢
        generalize turn target (w.env socketOpen connect)
          (.socket (.error .socketClosedUnexpectedly)) ⟨w.inner, []⟩ = r at hturned
        cases hturned
        exact .ended hhead
    · exact absurd hopen hclosed
  | issue | abandon | closeControl | readUpdate | dropUpdates | resume => exact ha.elim

namespace World.AtHead
variable {options : ClientOptions} {taken issued : Nat}

theorem inLoop (h : w.AtHead options taken issued) : w.InLoop := .inl h.head

theorem wait (h : w.AtHead options taken issued) (duration : Nat) :
    ({ w with clock := w.clock + duration } : World).AtHead options taken issued :=
  ⟨h.head, h.taken, h.issued, h.clientOptions⟩

theorem issue (h : w.AtHead options taken issued) (request : Request) :
    ({ w with requests := w.requests ++ [request] } : World).AtHead options taken (issued + 1) := by
  refine ⟨h.head, h.taken, ?_, h.clientOptions⟩
  rw [List.length_append, h.issued]
  rfl

/-- A turn that stays in the loop leaves the task at its head, one request further if it took
one. -/
theorem stay (h : w.AtHead options taken issued) {select : Select} {t : Task}
    (hoptions : t.inner.clientOptions = w.inner.clientOptions) :
    (w.finish select (.ok .stay t)).AtHead options (taken + select.takes) issued := by
  refine ⟨h.head, ?_, h.issued, hoptions.trans h.clientOptions⟩
  rw [World.finish_taken, h.taken]

/-- A task that has taken as many requests as were issued has nothing to take. -/
theorem none_queued (h : w.AtHead options taken taken) : w.requests[w.taken]? = none := by
  rw [h.taken, List.getElem?_eq_none_iff, h.issued]

end World.AtHead

/-- Sending a request to a task that is in its loop issues it, if it can be sent at all. -/
theorem Binding.of_send {b b' : Binding} {request : Request} {failure : Error}
    {next : Nat → BindCall} (hloop : b.world.InLoop)
    (h : b.send target request failure next = some b') :
    b' = ⟨{ b.world with requests := b.world.requests ++ [request] },
      next b.world.requests.length⟩ := by
  rw [send, if_pos hloop] at h
  obtain ⟨world, hissue, rfl⟩ := Option.map_eq_some_iff.mp h
  rw [World.eq_of_step_issue hissue]

theorem World.pollResponse_none {response : Nat} (h : answerTo w.log response = none) :
    w.pollResponse response = if w.InLoop then .pending else .closed := by
  rw [World.pollResponse, h]

theorem World.pollResponse_some {response : Nat} {answer : Answer}
    (h : answerTo w.log response = some answer) : w.pollResponse response = .value answer := by
  rw [World.pollResponse, h]

end

section
variable {ι : Type} [WireCodec ι] {target : Target} {options : BindOptions} {base : Nat}
  {ended : Prop} {b b' : Binding} {w w' : World}

/-- A poll of a call whose routing activation has no answer: it sets its timer, or comes back with
the port. -/
theorem Binding.of_poll_unanswered {port : UInt16} {response : Nat} {call : BindCall}
    (hcall : call.Activating port response) (hanswer : answerTo w.log response = none)
    (h : Binding.poll ι target options ⟨w, call⟩ = some b') :
    b'.world = w ∧ (b'.call.Activating port response ∨ b'.call = .returned (.ok port)) := by
  cases hcall with
  | sent =>
    cases h
    exact ⟨rfl, .inl (.awaits _)⟩
  | awaits deadline =>
    have hpolled := World.pollResponse_none hanswer
    split at hpolled
    · simp only [poll, hpolled] at h
      split at h
      · cases h
        exact ⟨rfl, .inr rfl⟩
      · cases h
    · simp only [poll, hpolled] at h
      cases h
      exact ⟨rfl, .inr rfl⟩

theorem BindCall.Activating.unfailed_iff {port p : UInt16} {response : Nat} {call : BindCall}
    (h : call.Activating port response) :
    Binding.Unfailed p ⟨w, call⟩ ↔ answerTo w.log response = none := by
  cases h <;> exact Iff.rfl

theorem BindCall.Activating.activation_eq {port : UInt16} {response : Nat} {call : BindCall}
    (h : call.Activating port response) : call.activation = some response := by
  cases h <;> rfl

/-- A poll of a call whose routing activation has no answer does not fail it: the call waits on, or
its own timeout has run out and it comes back with the port. -/
theorem Stage.poll_unanswered {call : BindCall}
    (hcall : call.Activating options.serverAddress.port (base + 1))
    (hanswer : answerTo w.log (base + 1) = none)
    (hkeep : ∀ call', call'.Activating options.serverAddress.port (base + 1) →
      Stage options base ended ⟨w, call'⟩)
    (h : Binding.poll ι target options ⟨w, call⟩ = some b') :
    Stage options base ended b' ∧ (b'.Unfailed options.serverAddress.port ↔
      Binding.Unfailed options.serverAddress.port ⟨w, call⟩) := by
  rw [hcall.unfailed_iff]
  obtain ⟨w', call'⟩ := b'
  obtain ⟨rfl, hcall' | rfl⟩ := Binding.of_poll_unanswered hcall hanswer h
  · exact ⟨hkeep call' hcall', hcall'.unfailed_iff⟩
  · exact ⟨.returned (.inl rfl), ⟨fun _ => hanswer, fun _ => rfl⟩⟩

/-- A poll keeps the stage, and the call fails by it only if the task has failed the request it
waits for. -/
theorem Stage.poll {routing : RoutingActivationOptions}
    (hrouting : options.routingActivationOptions = some routing) (hnum : b.world.Numbered)
    (hb : Stage options base ended b) (h : Binding.poll ι target options b = some b') :
    Stage options base ended b' ∧
      (b'.Unfailed options.serverAddress.port ↔ b.Unfailed options.serverAddress.port) := by
  cases hb with
  | @begun w hhead =>
    have hb' := Binding.of_send (b := ⟨w, .begun⟩) hhead.inLoop h
    subst hb'
    refine ⟨?_, Iff.rfl⟩
    rw [hhead.issued]
    refine .bindQueued (hhead.issue _) ?_
    rw [← hhead.issued]
    exact List.getElem?_concat_length
  | @bindQueued w hhead =>
    have hpending : w.pollResponse base = .pending := by
      rw [World.pollResponse_none (hnum.unanswered hhead.taken.le), if_pos hhead.inLoop]
    simp only [Binding.poll, hpending] at h
    cases h
  | @bound w hhead hidle hsocket hanswer =>
    obtain ⟨message, hmessage⟩ := routingActivationRequest_isSome ι options.inner.protocolVersion
      options.inner.clientLogicalAddress routing.activationType routing.oemSpecific
    simp only [Binding.poll, World.pollResponse_some hanswer, hrouting, hmessage,
      Option.bind_some] at h
    have hb' := Binding.of_send (b := ⟨w, .awaitingBind base⟩) hhead.inLoop h
    subst hb'
    simp only [hhead.issued]
    have hrequest : (w.requests ++ [.routingActivation message])[base + 1]? =
        some (.routingActivation message) := by
      rw [← hhead.issued]
      exact List.getElem?_concat_length
    refine ⟨.queued .sent (hhead.issue _) hidle hsocket hrequest, ?_⟩
    exact ⟨fun _ => trivial, fun _ => hnum.unanswered hhead.taken.le⟩
  | @queued w call message hcall hhead hidle hsocket hrequest =>
    exact Stage.poll_unanswered hcall (hnum.unanswered hhead.taken.le)
      (fun _ hcall' => .queued hcall' hhead hidle hsocket hrequest) h
  | @waiting w call message hcall hhead hactive hanswer =>
    exact Stage.poll_unanswered hcall hanswer
      (fun _ hcall' => .waiting hcall' hhead hactive hanswer) h
  | @dead w call hcall hphase hanswer =>
    exact Stage.poll_unanswered hcall hanswer
      (fun _ hcall' => .dead hcall' hphase hanswer) h
  | @failed w call e hfailure hcall hhead hidle hanswer =>
    cases hcall with
    | sent =>
      cases h
      exact ⟨.failed hfailure (.awaits _) hhead hidle hanswer, Iff.rfl⟩
    | awaits deadline =>
      simp only [Binding.poll, World.pollResponse_some hanswer] at h
      cases h
      refine ⟨.returned (.inr ⟨e, hfailure, rfl⟩), ⟨fun hok => ?_, fun hnone => ?_⟩⟩
      · cases hok
      · cases hanswer.symm.trans hnone
  | returned => cases h

/-- Binding to a peer that accepts the connection succeeds, given a client address that `bind`
accepts. -/
theorem SocketManager.bind_accepted {env : Env} {inner : ClientOptions}
    (hvalid : inner.clientLogicalAddress.isValidClientAddress = true)
    (hconnect : env.connect = .ok ()) (address : SocketAddr) :
    SocketManager.bind env inner address = .ok ⟨address.port, 0⟩ := by
  simp [SocketManager.bind, hvalid, hconnect]

/-- What answers a request that a turn took, where another request waited before it: what the turn
did after failing that one. -/
theorem World.answerTo_finish (request : ControlMessage) (effects : List Effect)
    {r : EStateM.Result Panic Task Processed} (hlog : answerTo w.log request.response = none)
    (hheld : w.inner.held ≠ some request.response)
    (heffects : (resultTask r).effects = w.inner.failActive .requestSuperseded ++ effects) :
    answerTo (w.finish (.control request) r).log request.response =
      answerTo (effects.map .did) request.response := by
  rw [World.finish_log, heffects, answerTo_append, hlog, Option.none_or, Select.entries,
    List.singleton_append, answerTo_taken, List.map_append, answerTo_append]
  cases hactive : w.inner.activeRequest with
  | none =>
    rw [Inner.failActive, hactive]
    rfl
  | some waiting =>
    have hne : waiting.response ≠ request.response := by
      rw [Inner.held, hactive] at hheld
      exact fun heq => hheld (congrArg some heq)
    rw [Inner.failActive, hactive, List.map_singleton, answerTo_completed, if_neg hne]
    rfl

/-- The task takes the request of the call to bind, and has a new socket with a counter at zero. -/
theorem Stage.take_bind {r : EStateM.Result Panic Task Processed} {env : Env}
    (hvalid : options.inner.clientLogicalAddress.isValidClientAddress = true)
    (hconnect : env.connect = .ok ()) (hnum : w.Numbered)
    (hhead : w.AtHead options.inner base (base + 1))
    (hturned : Turned target env w.inner (.control (.bindSocket options.serverAddress base)) r) :
    Stage options base ended
      ⟨w.finish (.control (.bindSocket options.serverAddress base)) r, .awaitingBind base⟩ := by
  have hbind : SocketManager.bind env w.inner.clientOptions options.serverAddress =
      .ok ⟨options.serverAddress.port, 0⟩ :=
    SocketManager.bind_accepted (hhead.clientOptions ▸ hvalid) hconnect _
  have hheld : w.inner.held ≠ some base := fun h => by
    have hlt := hnum.held base h
    rw [hhead.taken] at hlt
    exact Nat.lt_irrefl _ hlt
  cases hturned with
  | bound =>
    rw [hbind]
    refine .bound (hhead.stay rfl) rfl (.inl ⟨_, rfl, rfl⟩) ?_
    refine (World.answerTo_finish (.bindSocket options.serverAddress base)
      [.completed base (.port (.ok options.serverAddress.port))]
      (hnum.unanswered hhead.taken.le) hheld ?_).trans ?_
    · rfl
    · exact (answerTo_completed _ _ _ _).trans (if_pos rfl)
  | refused e hsocket hbuffer hneeds => cases hneeds
  | sent hmessage | overflowed hmessage | late hmessage => cases hmessage

/-- The task hands over the routing activation request, and waits for the response or panics; unless
there is no socket that takes it, and the request fails. -/
theorem Stage.take_activation {r : EStateM.Result Panic Task Processed} {env : Env}
    {message : OwnedMessage} {call : BindCall}
    (hcall : call.Activating options.serverAddress.port (base + 1))
    (hopen : ¬ ended → env.socketOpen = true) (hnum : w.Numbered)
    (hhead : w.AtHead options.inner (base + 1) (base + 2)) (hidle : w.inner.activeRequest = none)
    (hsocket : w.Connected ended)
    (hturned : Turned target env w.inner (.control (.routingActivation message (base + 1))) r) :
    Stage options base ended
      ⟨w.finish (.control (.routingActivation message (base + 1))) r, call⟩ ∧
    (answerTo (w.finish (.control (.routingActivation message (base + 1))) r).log (base + 1) =
      none ↔ env.socketOpen = true ∧ w.inner.tcpDataSocket ≠ none) := by
  have hheld : w.inner.held ≠ some (base + 1) := by
    rw [Inner.held, hidle]
    intro h
    cases h
  have hunanswered : answerTo w.log (base + 1) = none := hnum.unanswered hhead.taken.le
  have htakes : ∀ {s : SocketManager}, w.inner.tcpDataSocket = some s →
      w.inner.tcpDataSocket ≠ none := by
    intro s hs
    rw [hs]
    exact Option.some_ne_none s
  cases hturned with
  | refused e hrefused hbuffer hneeds he =>
    have hfailed := (World.answerTo_finish (w := w) (r := .ok .stay ⟨w.inner.cleared,
        w.inner.failActive .requestSuperseded ++ [.completed (base + 1) (.message (.error e))]⟩)
      (.routingActivation message (base + 1)) [.completed (base + 1) (.message (.error e))]
      hunanswered hheld rfl).trans ((answerTo_completed _ _ _ _).trans (if_pos rfl))
    have hfailure : SilentFailure ended e := by
      rcases hsocket with ⟨s, hs, -⟩ | ⟨hnone, hended⟩
      · rcases hrefused with hnone | ⟨hclosed, -⟩
        · cases hs.symm.trans hnone
        · rw [hs] at he
          subst he
          refine .refused (Classical.byContradiction fun hnot => ?_)
          cases (hopen hnot).symm.trans hclosed
      · rw [hnone] at he
        subst he
        exact .unbound hended
    refine ⟨.failed hfailure hcall (hhead.stay rfl) rfl hfailed, fun hnone => ?_, fun hopen => ?_⟩
    · cases hfailed.symm.trans hnone
    · rcases hrefused with hnone | ⟨hclosed, -⟩
      · exact absurd hnone hopen.2
      · cases hopen.1.symm.trans hclosed
  | sent hmessage hs hso =>
    cases hmessage
    refine (fun hanswer => ⟨.waiting hcall (hhead.stay rfl) rfl hanswer,
      fun _ => ⟨hso, htakes hs⟩, fun _ => hanswer⟩) ?_
    refine (World.answerTo_finish (.routingActivation message (base + 1))
      [.handed (some (base + 1)) message] hunanswered hheld ?_).trans ?_ <;> rfl
  | overflowed hmessage hs hso hfull =>
    rcases hsocket with ⟨s, hsome, hzero⟩ | ⟨hnone, -⟩
    · cases hs.symm.trans hsome
      cases hzero.symm.trans hfull.2
    · cases hs.symm.trans hnone
  | late hmessage hs hso =>
    cases hmessage
    have hphase : ∀ w : World, w.phase = .panicked .instant → ¬ w.InLoop := by
      rintro w hpanicked (h | ⟨m, h⟩) <;> cases hpanicked.symm.trans h
    refine (fun hanswer => ⟨.dead hcall (hphase _ rfl) hanswer, fun _ => ⟨hso, htakes hs⟩,
      fun _ => hanswer⟩) ?_
    refine (World.answerTo_finish (.routingActivation message (base + 1))
      [.handed (some (base + 1)) message] hunanswered hheld ?_).trans ?_ <;> rfl

/-- A step of the world in which the task takes a request keeps the stage: it is the bind or the
routing activation of the call, and the latter may fail. -/
theorem Stage.take {call : BindCall} {request : Request} {env : Env}
    {r : EStateM.Result Panic Task Processed}
    (hvalid : options.inner.clientLogicalAddress.isValidClientAddress = true)
    (hconnect : env.connect = .ok ()) (hopen : ¬ ended → env.socketOpen = true)
    (hnum : w.Numbered) (hhead : w.phase = .loopHead)
    (hrequest : w.requests[w.taken]? = some request)
    (hturned : Turned target env w.inner (.control (request.create w.taken)) r)
    (hb : Stage options base ended ⟨w, call⟩) :
    Stage options base ended ⟨w.finish (.control (request.create w.taken)) r, call⟩ ∧
      (Binding.Unfailed options.serverAddress.port
          ⟨w.finish (.control (request.create w.taken)) r, call⟩ ↔
        Binding.Unfailed options.serverAddress.port ⟨w, call⟩ ∧
          (call.activation = some w.taken →
            env.socketOpen = true ∧ w.inner.tcpDataSocket ≠ none)) := by
  cases hb with
  | begun hw | bound hw | waiting _ hw | failed _ _ hw =>
    cases hw.none_queued.symm.trans hrequest
  | bindQueued hw hbind =>
    rw [hw.taken] at hrequest hturned ⊢
    cases hbind.symm.trans hrequest
    refine ⟨Stage.take_bind hvalid hconnect hnum hw hturned,
      ⟨fun _ => ⟨trivial, fun h => ?_⟩, fun _ => trivial⟩⟩
    cases h
  | queued hcall hw hidle hsocket hactivation =>
    have hunanswered := hnum.unanswered hw.taken.le
    have hactivates : call.activation = some (base + 1) := hcall.activation_eq
    rw [hw.taken] at hrequest hturned ⊢
    cases hactivation.symm.trans hrequest
    obtain ⟨hstage, hiff⟩ := Stage.take_activation hcall hopen hnum hw hidle hsocket hturned
    rw [hcall.unfailed_iff, hcall.unfailed_iff]
    exact ⟨hstage, hiff.trans ⟨fun h => ⟨hunanswered, fun _ => h⟩, fun h => h.2 hactivates⟩⟩
  | dead hcall hphase => exact absurd (.inl hhead) hphase
  | returned hresult =>
    refine ⟨.returned hresult, ⟨fun h => ⟨h, fun hnone => ?_⟩, fun h => h.1⟩⟩
    cases hnone

/-- A step of the world that fails whatever request waits, and may take the socket away: the task
observes its deadline, or the end of the socket. It fails the call's routing activation if that is
what waits. -/
theorem Stage.fail {call : BindCall} (select : Select) (t : Task) {e : Error}
    (hfailure : SilentFailure ended e) (htakes : select.takes = 0)
    (hentries : ∀ request, answerTo select.entries request = none)
    (hoptions : t.inner.clientOptions = w.inner.clientOptions)
    (hcleared : t.inner.activeRequest = none) (heffects : t.effects = w.inner.failActive e)
    (hsocket : t.inner.tcpDataSocket = w.inner.tcpDataSocket ∨
      t.inner.tcpDataSocket = none ∧ ended)
    (hhead : w.phase = .loopHead) (hb : Stage options base ended ⟨w, call⟩) :
    Stage options base ended ⟨w.finish select (.ok .stay t), call⟩ ∧
      (Binding.Unfailed options.serverAddress.port ⟨w.finish select (.ok .stay t), call⟩ ↔
        Binding.Unfailed options.serverAddress.port ⟨w, call⟩ ∧
          ∀ response, call.activation = some response → w.inner.held ≠ some response) := by
  have hstay : ∀ {taken issued : Nat}, w.AtHead options.inner taken issued →
      (w.finish select (.ok .stay t)).AtHead options.inner taken issued := by
    intro taken issued hw
    have h : (w.finish select (.ok .stay t)).AtHead options.inner (taken + select.takes) issued :=
      hw.stay hoptions
    rwa [htakes] at h
  have hconnected : w.Connected ended → (w.finish select (.ok .stay t)).Connected ended := by
    rintro (⟨s, hs, hzero⟩ | ⟨hnone, hended⟩)
    · rcases hsocket with hsame | hgone
      · exact .inl ⟨s, hsame.trans hs, hzero⟩
      · exact .inr hgone
    · refine .inr ⟨?_, hended⟩
      rcases hsocket with hsame | ⟨hgone, -⟩
      · exact hsame.trans hnone
      · exact hgone
  -- what the step adds to the log answers the request that waits, and no other
  have hlog : ∀ response, answerTo (w.finish select (.ok .stay t)).log response =
      (answerTo w.log response).or
        (answerTo ((w.inner.failActive e).map .did) response) := by
    intro response
    rw [World.finish_log, answerTo_append, answerTo_append, hentries, Option.none_or]
    exact congrArg (fun effects => (answerTo w.log response).or
      (answerTo (List.map Entry.did effects) response)) heffects
  have hidle : w.inner.activeRequest = none → ∀ response,
      answerTo (w.finish select (.ok .stay t)).log response = answerTo w.log response := by
    intro hidle response
    rw [hlog, Inner.failActive, hidle]
    exact Option.or_none
  have hheld : w.inner.activeRequest = none → ∀ response, w.inner.held ≠ some response := by
    intro hidle response h
    rw [Inner.held, hidle] at h
    cases h
  have hcalm : call.activation = none → ∀ response, call.activation = some response →
      w.inner.held ≠ some response := by
    intro hnone response hsome
    cases hnone.symm.trans hsome
  cases hb with
  | begun hw =>
    exact ⟨.begun (hstay hw), ⟨fun _ => ⟨trivial, hcalm rfl⟩, fun _ => trivial⟩⟩
  | bindQueued hw hbind =>
    refine ⟨.bindQueued (hstay hw) ?_, ⟨fun _ => ⟨trivial, hcalm rfl⟩, fun _ => trivial⟩⟩
    rwa [World.finish_requests]
  | bound hw hnone hconn hanswer =>
    refine ⟨.bound (hstay hw) hcleared (hconnected hconn) ?_,
      ⟨fun _ => ⟨trivial, hcalm rfl⟩, fun _ => trivial⟩⟩
    rwa [hidle hnone]
  | queued hcall hw hnone hconn hactivation =>
    refine ⟨.queued hcall (hstay hw) hcleared (hconnected hconn)
      ((congrArg (·[base + 1]?) (World.finish_requests _ _ _)).trans hactivation), ?_⟩
    rw [hcall.unfailed_iff, hcall.unfailed_iff, hidle hnone]
    exact ⟨fun h => ⟨h, fun response _ => hheld hnone response⟩, And.left⟩
  | failed hfailed hcall hw hnone hanswer =>
    refine ⟨.failed hfailed hcall (hstay hw) hcleared ?_, ?_⟩
    · rwa [hidle hnone]
    · rw [hcall.unfailed_iff, hcall.unfailed_iff, hidle hnone]
      exact ⟨fun h => ⟨h, fun response _ => hheld hnone response⟩, And.left⟩
  | @waiting _ _ message hcall hw hwaiting hanswer =>
    have hfails : answerTo (w.finish select (.ok .stay t)).log (base + 1) =
        some (.message (.error e)) := by
      rw [hlog, hanswer, Option.none_or, Inner.failActive, hwaiting]
      exact (answerTo_completed _ _ _ _).trans (if_pos rfl)
    have hholds : w.inner.held = some (base + 1) := by
      rw [Inner.held, hwaiting]
      rfl
    refine ⟨.failed hfailure hcall (hstay hw) hcleared hfails,
      ⟨fun h => ?_, fun h => ?_⟩⟩
    · cases hfails.symm.trans (hcall.unfailed_iff.mp h)
    · exact absurd hholds (h.2 _ hcall.activation_eq)
  | dead hcall hphase => exact absurd (.inl hhead) hphase
  | returned hresult =>
    exact ⟨.returned hresult, ⟨fun h => ⟨h, hcalm rfl⟩, And.left⟩⟩

/-- A step of the world in which time passes keeps the stage, as none of its facts is about the
time. -/
theorem Stage.wait {call : BindCall} (duration : Nat) (hb : Stage options base ended ⟨w, call⟩) :
    Stage options base ended ⟨{ w with clock := w.clock + duration }, call⟩ := by
  cases hb with
  | begun hw => exact .begun (hw.wait duration)
  | bindQueued hw hrequest => exact .bindQueued (hw.wait duration) hrequest
  | bound hw hidle hsocket hanswer => exact .bound (hw.wait duration) hidle hsocket hanswer
  | queued hcall hw hidle hsocket hrequest =>
    exact .queued hcall (hw.wait duration) hidle hsocket hrequest
  | waiting hcall hw hactive hanswer => exact .waiting hcall (hw.wait duration) hactive hanswer
  | failed hfailure hcall hw hidle hanswer =>
    exact .failed hfailure hcall (hw.wait duration) hidle hanswer
  | dead hcall hphase hanswer => exact .dead hcall hphase hanswer
  | returned hresult => exact .returned hresult

/-- A poll leaves the world alone, or issues a request. It does nothing else to the task. -/
theorem Binding.world_of_poll (h : b.poll ι target options = some b') :
    b'.world = b.world ∨ ∃ request, b.world.step target (.issue request) = some b'.world := by
  cases Binding.polled_of_poll h with
  | bindIssued hissue => exact .inr ⟨_, hissue⟩
  | activationIssued _ _ _ hissue => exact .inr ⟨_, hissue⟩
  | timed | finished => exact .inl rfl

variable (options base ended) in
/-- What holds of a call beside a silent peer at any time: its stage, and what holds of every
task. -/
structure Binding.Sound (b : Binding) : Prop where
  stage : Stage options base ended b
  waits : b.world.Waits
  numbered : b.world.Numbered
  controlOpen : b.world.controlOpen = true

section
variable {routing : RoutingActivationOptions}
  (hrouting : options.routingActivationOptions = some routing)
  (hvalid : options.inner.clientLogicalAddress.isValidClientAddress = true)
include hrouting hvalid

/-- **A step beside a silent peer**: it fails the call exactly when the task fails the routing
activation that the call waits for. -/
theorem Binding.Sound.step {m : BindMove} (hm : PeerSilent m) (hkeeps : ¬ ended → KeepsConnection m)
    (h : b.step ι target options m = some b') (hb : b.Sound options base ended) :
    b'.Sound options base ended ∧ (b'.Unfailed options.serverAddress.port ↔
      b.Unfailed options.serverAddress.port ∧ Tolerated b m) := by
  cases m with
  | poll =>
    obtain ⟨hstage, hiff⟩ := hb.stage.poll hrouting hb.numbered h
    refine ⟨?_, hiff.trans ⟨fun h => ⟨h, trivial⟩, And.left⟩⟩
    rcases Binding.world_of_poll h with hsame | ⟨request, hissue⟩
    · exact ⟨hstage, hsame ▸ hb.waits, hsame ▸ hb.numbered, hsame ▸ hb.controlOpen⟩
    · refine ⟨hstage, hb.waits.step hissue, hb.numbered.step hb.waits hissue, ?_⟩
      rw [World.eq_of_step_issue hissue]
      exact hb.controlOpen
  | task a =>
    obtain ⟨w', hstep, rfl⟩ := Option.map_eq_some_iff.mp h
    have hwaits := hb.waits.step hstep
    have hnum := hb.numbered.step hb.waits hstep
    obtain ⟨w, call⟩ := b
    cases silentStep_of_step hb.waits hb.controlOpen hm hstep with
    | waited duration =>
      refine ⟨⟨hb.stage.wait duration, hwaits, hnum, hb.controlOpen⟩, ?_⟩
      exact ⟨fun h => ⟨h, trivial⟩, And.left⟩
    | took hhead hrequest hturned =>
      obtain ⟨hstage, hiff⟩ := hb.stage.take hvalid rfl hkeeps hb.numbered hhead hrequest hturned
      refine ⟨⟨hstage, hwaits, hnum, ?_⟩, hiff⟩
      exact (World.finish_controlOpen _ _ _).trans hb.controlOpen
    | expired hhead =>
      obtain ⟨hstage, hiff⟩ := hb.stage.fail .deadline
        ⟨w.inner.cleared, w.inner.failActive .responseTimeoutExceeded⟩ .timeout rfl
        (fun _ => rfl) rfl rfl rfl (.inl rfl) hhead
      exact ⟨⟨hstage, hwaits, hnum, hb.controlOpen⟩, hiff⟩
    | ended hhead =>
      have hended : ended := Classical.byContradiction hkeeps
      obtain ⟨hstage, hiff⟩ := hb.stage.fail (.socket (.error .socketClosedUnexpectedly))
        ⟨{ w.inner.cleared with tcpDataSocket := none },
          w.inner.failActive .socketClosedUnexpectedly⟩
        (.closed hended) rfl (fun _ => rfl) rfl rfl rfl (.inr ⟨rfl, hended⟩) hhead
      exact ⟨⟨hstage, hwaits, hnum, hb.controlOpen⟩, hiff⟩

end

/-! ## The call comes back -/

variable (ι target options) in
/-- A call beside a silent peer can go on until it comes back, by moves that such a peer leaves
possible. -/
def Binding.Returns (b : Binding) : Prop :=
  ∃ moves b' result, (∀ m ∈ moves, PeerSilent m) ∧
    run (Binding.step ι target options) b moves = some b' ∧ b'.call = .returned result

theorem Binding.Returns.of_step {m : BindMove} (hm : PeerSilent m)
    (h : b.step ι target options m = some b') (hb' : b'.Returns ι target options) :
    b.Returns ι target options := by
  obtain ⟨moves, b'', result, hmoves, hrun, hresult⟩ := hb'
  refine ⟨m :: moves, b'', result, List.forall_mem_cons.mpr ⟨hm, hmoves⟩, ?_, hresult⟩
  rw [run_cons, h]
  exact hrun

/-- A call that waits for its routing activation comes back when its timer has run out, if not
before. -/
theorem Binding.returns_of_activating {port : UInt16} {response : Nat} {call : BindCall}
    (hcall : call.Activating port response)
    (hanswer : ∀ answer, answerTo w.log response = some answer →
      ∃ e, answer = .message (.error e)) :
    Binding.Returns ι target options ⟨w, call⟩ := by
  have hawaits : ∀ deadline, Binding.Returns ι target options
      ⟨w, .awaitingActivation port response deadline⟩ := by
    intro deadline
    refine .of_step (m := .task (.wait deadline)) trivial rfl ?_
    have hpolled : ∃ result, Binding.poll ι target options
        ⟨{ w with clock := w.clock + deadline }, .awaitingActivation port response deadline⟩ =
          some ⟨{ w with clock := w.clock + deadline }, .returned result⟩ := by
      cases hlog : answerTo w.log response with
      | some answer =>
        obtain ⟨e, rfl⟩ := hanswer answer hlog
        refine ⟨.error e, ?_⟩
        have hpolled : World.pollResponse { w with clock := w.clock + deadline } response = _ :=
          World.pollResponse_some hlog
        simp only [poll, hpolled]
        rfl
      | none =>
        refine ⟨.ok port, ?_⟩
        have hpolled : World.pollResponse { w with clock := w.clock + deadline } response = _ :=
          World.pollResponse_none hlog
        split at hpolled
        · simp only [poll, hpolled, Nat.le_add_left, if_true]
          rfl
        · simp only [poll, hpolled]
          rfl
    obtain ⟨result, hpolled⟩ := hpolled
    exact .of_step (m := .poll) trivial hpolled ⟨[], _, result, List.forall_mem_nil _, rfl, rfl⟩
  cases hcall with
  | sent => exact .of_step (m := .poll) trivial rfl (hawaits _)
  | awaits deadline => exact hawaits deadline

/-- Sending a request to a task that has nothing queued finds room in the control channel. -/
theorem Binding.send_idle {call : BindCall} {issued : Nat}
    (hhead : w.AtHead options.inner issued issued) (hopen : w.controlOpen = true)
    (request : Request) (failure : Error) (next : Nat → BindCall) :
    Binding.send target ⟨w, call⟩ request failure next =
      some ⟨{ w with requests := w.requests ++ [request] }, next issued⟩ := by
  have hroom : w.requests.length - w.taken < CHANNEL_CAP := by
    rw [hhead.taken, hhead.issued, Nat.sub_self]
    decide
  rw [send, if_pos hhead.inLoop, World.step, if_pos ⟨hhead.inLoop, hopen, hroom⟩, hhead.issued]
  rfl

section
variable {routing : RoutingActivationOptions}
  (hrouting : options.routingActivationOptions = some routing)
  (hvalid : options.inner.clientLogicalAddress.isValidClientAddress = true)
include hrouting hvalid

omit hvalid in
theorem Binding.Sound.returns_bound (hb : Binding.Sound options base ended ⟨w, .awaitingBind base⟩)
    (hhead : w.AtHead options.inner (base + 1) (base + 1))
    (hanswer : answerTo w.log base = some (.port (.ok options.serverAddress.port))) :
    Binding.Returns ι target options ⟨w, .awaitingBind base⟩ := by
  obtain ⟨message, hmessage⟩ := routingActivationRequest_isSome ι options.inner.protocolVersion
    options.inner.clientLogicalAddress routing.activationType routing.oemSpecific
  have hpoll : Binding.step ι target options ⟨w, .awaitingBind base⟩ .poll =
      some ⟨{ w with requests := w.requests ++ [.routingActivation message] },
        .activationSent options.serverAddress.port (base + 1)⟩ := by
    simp only [Binding.step, poll, World.pollResponse_some hanswer, hrouting, hmessage,
      Option.bind_some]
    exact send_idle hhead hb.controlOpen _ _ _
  refine .of_step (m := .poll) trivial hpoll (returns_of_activating .sent fun answer h => ?_)
  cases (hb.numbered.unanswered hhead.taken.le).symm.trans h

theorem Binding.Sound.returns_bindQueued
    (hb : Binding.Sound options base ended ⟨w, .awaitingBind base⟩)
    (hhead : w.AtHead options.inner base (base + 1))
    (hrequest : w.requests[base]? = some (.bindSocket options.serverAddress)) :
    Binding.Returns ι target options ⟨w, .awaitingBind base⟩ := by
  have hselect : w.select .control = some (.control (.bindSocket options.serverAddress base)) := by
    rw [World.select, hhead.taken, hrequest]
    rfl
  have hstep := World.step_turn target hhead.head hselect true (.ok ())
  have hmove : Binding.step ι target options ⟨w, .awaitingBind base⟩
      (.task (.turn .control true (.ok ()))) = _ := congrArg (Option.map _) hstep
  have hm : PeerSilent (.task (.turn .control true (.ok ()))) := rfl
  refine .of_step hm hmove ?_
  have hb' := (hb.step hrouting hvalid hm (fun _ => rfl) hmove).1
  have htaken := (World.finish_taken w (.control (.bindSocket options.serverAddress base))
    (turn target (w.env true (.ok ())) (.control (.bindSocket options.serverAddress base))
      ⟨w.inner, []⟩)).trans (congrArg (· + 1) hhead.taken)
  cases hb'.stage with
  | bindQueued hhead' =>
    have hlt := hhead'.taken.symm.trans htaken
    omega
  | bound hhead' _ _ hanswer => exact hb'.returns_bound hrouting hhead' hanswer
  | queued hcall | waiting hcall | failed _ hcall | dead hcall => cases hcall

/-- **A call beside a silent peer comes back**, from wherever it is: after a bounded wait its own
timeout ends it, if nothing has before. -/
theorem Binding.Sound.returns (hb : b.Sound options base ended) : b.Returns ι target options := by
  obtain ⟨w, call⟩ := b
  cases hb.stage with
  | begun hhead =>
    have hpoll : Binding.step ι target options ⟨w, .begun⟩ .poll = _ :=
      send_idle hhead hb.controlOpen _ _ _
    have hb' := (hb.step hrouting hvalid (m := .poll) trivial (fun _ => trivial) hpoll).1
    refine .of_step (m := .poll) trivial hpoll ?_
    refine hb'.returns_bindQueued hrouting hvalid (hhead.issue _) ?_
    rw [← hhead.issued]
    exact List.getElem?_concat_length
  | bindQueued hhead hrequest => exact hb.returns_bindQueued hrouting hvalid hhead hrequest
  | bound hhead _ _ hanswer => exact hb.returns_bound hrouting hhead hanswer
  | queued hcall hhead =>
    refine returns_of_activating hcall fun answer h => ?_
    cases (hb.numbered.unanswered hhead.taken.le).symm.trans h
  | waiting hcall _ _ hanswer | dead hcall _ hanswer =>
    exact returns_of_activating hcall fun answer h => by cases hanswer.symm.trans h
  | @failed _ _ e _ hcall _ _ hanswer =>
    refine returns_of_activating hcall fun answer h => ⟨e, ?_⟩
    cases hanswer.symm.trans h
    rfl
  | @returned _ result =>
    exact ⟨[], ⟨w, .returned result⟩, result, List.forall_mem_nil _, rfl, rfl⟩

/-- **A peer that never answers routing activation.** From every state of a client at the head of
its loop with nothing queued, and in whatever order the call and the task run, the call can go on
until it comes back. It comes back with the port exactly when the inner task did not fail the
routing activation before that. Otherwise the task saw its deadline and the call fails with a
timeout, or the connection ended and the call fails with one of the three errors of that. -/
theorem bind_outcome_iff {actions : List Action}
    (hreach : run (World.step target) (World.start options.inner) actions = some w)
    (hhead : w.phase = .loopHead) (hidle : w.taken = w.requests.length)
    (hopen : w.controlOpen = true) {moves : List BindMove}
    (hrun : run (Binding.step ι target options) ⟨w, .begun⟩ moves = some b)
    (hsilent : ∀ m ∈ moves, PeerSilent m) :
    b.Returns ι target options ∧
    ∀ result, b.call = .returned result →
      (result = .ok options.serverAddress.port ↔
        Along (Binding.step ι target options) Tolerated ⟨w, .begun⟩ moves) ∧
      (result = .ok options.serverAddress.port ∨
        ∃ e, SilentFailure (¬ ∀ m ∈ moves, KeepsConnection m) e ∧ result = .error e) := by
  let ended : Prop := ¬ ∀ m ∈ moves, KeepsConnection m
  have hstart : Binding.Sound options w.requests.length ended ⟨w, .begun⟩ :=
    ⟨.begun ⟨hhead, hidle, rfl, World.clientOptions_of_run hreach⟩, World.waits_of_run hreach,
      World.numbered_of_run hreach, hopen⟩
  have hmoves : ∀ m ∈ moves, PeerSilent m ∧ (¬ ended → KeepsConnection m) :=
    fun m hm => ⟨hsilent m hm, fun hnot => Classical.not_not.mp hnot m hm⟩
  have hkeep : ∀ b m b', PeerSilent m ∧ (¬ ended → KeepsConnection m) →
      Binding.step ι target options b m = some b' →
      b.Sound options w.requests.length ended → b'.Sound options w.requests.length ended :=
    fun b m b' hm hstep hb => (hb.step hrouting hvalid hm.1 hm.2 hstep).1
  have halong : Along (Binding.step ι target options)
      (fun _ m => PeerSilent m ∧ (¬ ended → KeepsConnection m)) ⟨w, .begun⟩ moves :=
    along_of_forall hmoves _
  have hsound := run_invariant_along hkeep halong hrun hstart
  have hiff := run_stays_iff (Q := Binding.Unfailed options.serverAddress.port)
    (G := Tolerated) hkeep
    (fun b m b' hm hstep hb hunfailed =>
      ((hb.step hrouting hvalid hm.1 hm.2 hstep).2.mp hunfailed).1)
    (fun b m b' hm hstep hb hunfailed =>
      (hb.step hrouting hvalid hm.1 hm.2 hstep).2.trans (and_iff_right hunfailed))
    halong hrun hstart trivial
  refine ⟨hsound.returns hrouting hvalid, fun result hresult => ?_⟩
  obtain ⟨w', call⟩ := b
  cases hresult
  refine ⟨hiff, ?_⟩
  cases hsound.stage with
  | queued hcall | waiting hcall | failed _ hcall | dead hcall => cases hcall
  | returned hresult => exact hresult

end

end

/-- A tester that activates routing when it connects, with the default activation type. -/
def activatingOptions : BindOptions where
  inner := testerOptions
  serverAddress := ⟨13400⟩
  routingActivationOptions := some { activationType := .default, oemSpecific := none }

/-- A call up to the moment when both timers have run out: the socket is bound, the routing
activation sent, and two seconds pass. -/
def untilTimeout : List BindMove :=
  [.poll, .task (.turn .control true (.ok ())), .poll, .poll,
    .task (.turn .control true (.ok ())), .task (.wait TCP_TIMEOUT_INITIAL_INACTIVITY)]

/-- One peer, two outcomes: if the task observes its deadline first the call fails, if the call
observes its own first it comes back with the port. -/
theorem silent_peer_two_outcomes :
    letI := plainWire
    (∀ m ∈ untilTimeout ++ [.task (.turn .deadline true (.ok ())), .poll],
      PeerSilent m ∧ KeepsConnection m) ∧
      (∃ b, run (Binding.step Incomplete releaseTarget activatingOptions)
          ⟨World.start testerOptions, .begun⟩
          (untilTimeout ++ [.task (.turn .deadline true (.ok ())), .poll]) = some b ∧
        b.call = .returned (.error .responseTimeoutExceeded)) ∧
      ∃ b, run (Binding.step Incomplete releaseTarget activatingOptions)
          ⟨World.start testerOptions, .begun⟩ (untilTimeout ++ [.poll]) = some b ∧
        b.call = .returned (.ok 13400) := by
  let := plainWire
  exact ⟨by simp [untilTimeout, PeerSilent, KeepsConnection], ⟨_, rfl, rfl⟩, ⟨_, rfl, rfl⟩⟩

/-- Both sides of the equivalence occur: the tolerated outcome, and the failure of a call whose peer
closes the connection instead of answering. -/
theorem bind_outcome_iff_tolerated :
    letI := plainWire
    (∃ b, run (Binding.step Incomplete releaseTarget activatingOptions)
        ⟨World.start testerOptions, .begun⟩ (untilTimeout ++ [.poll]) = some b ∧
      b.call = .returned (.ok 13400) ∧
      Along (Binding.step Incomplete releaseTarget activatingOptions) Tolerated
        ⟨World.start testerOptions, .begun⟩ (untilTimeout ++ [.poll])) ∧
    ∃ b, run (Binding.step Incomplete releaseTarget activatingOptions)
        ⟨World.start testerOptions, .begun⟩
        (untilTimeout ++ [.task (.turn (.socket .closed) true (.ok ())), .poll]) = some b ∧
      b.call = .returned (.error .socketClosedUnexpectedly) ∧
      ¬ Along (Binding.step Incomplete releaseTarget activatingOptions) Tolerated
        ⟨World.start testerOptions, .begun⟩
        (untilTimeout ++ [.task (.turn (.socket .closed) true (.ok ())), .poll]) := by
  let := plainWire
  have hrouting : activatingOptions.routingActivationOptions = some ⟨.default, none⟩ := rfl
  have hreach : run (World.step releaseTarget) (World.start activatingOptions.inner) [] =
      some (World.start testerOptions) := rfl
  constructor
  · have h : ∃ b, run (Binding.step Incomplete releaseTarget activatingOptions)
        ⟨World.start testerOptions, .begun⟩ (untilTimeout ++ [.poll]) = some b ∧
        b.call = .returned (.ok 13400) := ⟨_, rfl, rfl⟩
    obtain ⟨b, hrun, hcall⟩ := h
    have houtcome := bind_outcome_iff hrouting (by decide) hreach rfl rfl rfl hrun
      (by simp [untilTimeout, PeerSilent])
    exact ⟨b, hrun, hcall, (houtcome.2 _ hcall).1.mp rfl⟩
  · have h : ∃ b, run (Binding.step Incomplete releaseTarget activatingOptions)
        ⟨World.start testerOptions, .begun⟩
        (untilTimeout ++ [.task (.turn (.socket .closed) true (.ok ())), .poll]) = some b ∧
        b.call = .returned (.error .socketClosedUnexpectedly) := ⟨_, rfl, rfl⟩
    obtain ⟨b, hrun, hcall⟩ := h
    have houtcome := bind_outcome_iff hrouting (by decide) hreach rfl rfl rfl hrun
      (by simp [untilTimeout, PeerSilent])
    refine ⟨b, hrun, hcall, fun halong => ?_⟩
    cases (houtcome.2 _ hcall).1.mpr halong

end SimpleDoip
