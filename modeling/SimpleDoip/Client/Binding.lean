import SimpleDoip.Client.Freshness

/-!
# Connecting

`Client::bind_socket` is what `connect` and `reconnect` run: it has the inner task bind a socket and
then, if the options ask for it, activate routing, for which it waits under a timeout of its own.
`Binding` is such a call beside the task it talks to. A `BindMove` is a poll of the call, which
takes it to its next await or to its end, or one action of the world around the task.
-/

namespace SimpleDoip

/-! ## The call -/

/-- Options for an automatic routing activation: what goes into the request that `bind_socket` sends
by itself once the connection stands. -/
structure RoutingActivationOptions where
  activationType : ActivationTypeCode
  oemSpecific : Option (U8Array 4)

/-- The client options that `bind_socket` reads: those of the inner task, the address to connect to,
and whether to activate routing. -/
structure BindOptions where
  inner : ClientOptions
  serverAddress : SocketAddr
  routingActivationOptions : Option RoutingActivationOptions

/-- Where a call of `bind_socket` is: at its start, at one of its awaits, or back. Between the send
of the activation request and the creation of the timeout other tasks may run. -/
inductive BindCall where
  | begun
  | awaitingBind (response : Nat)
  | activationSent (port : UInt16) (response : Nat)
  | awaitingActivation (port : UInt16) (response : Nat) (deadline : Nat)
  | returned (result : Except Error UInt16)
deriving DecidableEq

/-- A call of `bind_socket` and the task it talks to. The two run independently, and meet in the
control channel and in the oneshot channels. -/
structure Binding where
  world : World
  call : BindCall

/-- What polling the receiver of a oneshot channel finds: the answer, nothing yet, or that the
sender was dropped. -/
inductive Polled where
  | pending
  | closed
  | value (answer : Answer)
deriving DecidableEq

/-- Poll the receiver of a request. A task that left its loop has dropped the senders of all
requests it did not answer. -/
def World.pollResponse (w : World) (response : Nat) : Polled :=
  match answerTo w.log response with
  | some answer => .value answer
  | none => if w.InLoop then .pending else .closed

/-- What `bind_socket` makes of the message that answers its routing activation: success for the two
granting codes, `RoutingActivationDenied` for any other code, and an error for a message of another
type. -/
def activationResult (port : UInt16) (m : OwnedMessage) : Except Error UInt16 :=
  match m.payload with
  | .routingActivationResponse response =>
    if response.routingActivationResponseCode.isSuccess then .ok port
    else .error (.routingActivationDenied response.routingActivationResponseCode)
  | _ => .error (.unexpectedMessageType m.header.payloadType)

/-- One thing that happens while a call runs: the call is polled, or something happens to the
task. -/
inductive BindMove where
  | poll
  | task (action : Action)

namespace Binding

/-- The call comes back with a result, and the task stays as it is. -/
def finish (b : Binding) (result : Except Error UInt16) : Binding :=
  { b with call := .returned result }

/-- `control_sender.send(..).await`, which fails without a receiver and waits for room; `next` is
where the call goes on. -/
def send (target : Target) (b : Binding) (request : Request) (failure : Error)
    (next : Nat → BindCall) : Option Binding :=
  if b.world.InLoop then
    (b.world.step target (.issue request)).map fun world =>
      { world, call := next b.world.requests.length }
  else some (b.finish (.error failure))

section
variable {ι : Type} [WireCodec ι]

variable (ι) in
/-- `Client::bind_socket`, polled once. There is no step where it has to wait, and none after a
panic of `payload_len`. -/
def poll (target : Target) (options : BindOptions) (b : Binding) : Option Binding :=
  match b.call with
  | .begun =>
    b.send target (.bindSocket options.serverAddress)
      (.bindFailed "Could not send BindSocket message to inner client") .awaitingBind
  | .awaitingBind response =>
    match b.world.pollResponse response with
    | .value (.port (.ok port)) =>
      match options.routingActivationOptions with
      | some routing =>
        (OwnedMessage.routingActivationRequest (ι := ι) options.inner.protocolVersion
          options.inner.clientLogicalAddress routing.activationType routing.oemSpecific).bind
            fun message => b.send target (.routingActivation message) .routingActivationFailed
              (.activationSent port)
      | none => some (b.finish (.ok port))
    | .value (.port (.error e)) => some (b.finish (.error e))
    | .closed => some (b.finish (.error (.bindFailed "Connection task terminated unexpectedly")))
    | _ => none
  | .activationSent port response =>
    some { b with call :=
      .awaitingActivation port response (b.world.clock + TCP_TIMEOUT_INITIAL_INACTIVITY) }
  | .awaitingActivation port response deadline =>
    -- the timeout polls the response before its timer
    match b.world.pollResponse response with
    | .value (.message (.ok m)) => some (b.finish (activationResult port m))
    | .value (.message (.error e)) => some (b.finish (.error e))
    | .closed => some (b.finish (.ok port))
    | .pending => if deadline ≤ b.world.clock then some (b.finish (.ok port)) else none
    | _ => none
  | .returned _ => none

variable (ι) in
/-- One thing that happens, where it can. The poll of the call and the steps of the task interleave
in any order. -/
def step (target : Target) (options : BindOptions) (b : Binding) : BindMove → Option Binding
  | .poll => b.poll ι target options
  | .task action => (b.world.step target action).map fun world => { b with world }

end

end Binding

/-! ## What a poll can do -/

section
variable {ι : Type} [WireCodec ι] {target : Target} {options : BindOptions} {b b' : Binding}

variable (ι target options b) in
/-- Everything a poll can come to, by what the call waits for: one constructor for each way it goes
on or comes back. -/
inductive Binding.Polled : Binding → Prop where
  | bindIssued {world : World}
      (hissue : b.world.step target (.issue (.bindSocket options.serverAddress)) = some world) :
      Polled ⟨world, .awaitingBind b.world.requests.length⟩
  | activationIssued {world : World} {message : OwnedMessage} (port : UInt16)
      (routing : RoutingActivationOptions)
      (hmessage : OwnedMessage.routingActivationRequest (ι := ι) options.inner.protocolVersion
        options.inner.clientLogicalAddress routing.activationType routing.oemSpecific =
          some message)
      (hissue : b.world.step target (.issue (.routingActivation message)) = some world) :
      Polled ⟨world, .activationSent port b.world.requests.length⟩
  | timed {port : UInt16} {response : Nat} (hcall : b.call = .activationSent port response) :
      Polled { b with call :=
        .awaitingActivation port response (b.world.clock + TCP_TIMEOUT_INITIAL_INACTIVITY) }
  | finished (result : Except Error UInt16) : Polled (b.finish result)

/-- Sending issues the request, or ends the call with the given failure where the task is gone. With
a full control channel it waits. -/
theorem Binding.send_cases {request : Request} {failure : Error} {next : Nat → BindCall}
    (h : b.send target request failure next = some b') :
    (∃ world, b.world.step target (.issue request) = some world ∧
      b' = ⟨world, next b.world.requests.length⟩) ∨ b' = b.finish (.error failure) := by
  rw [send] at h
  split at h
  · obtain ⟨world, hstep, rfl⟩ := Option.map_eq_some_iff.mp h
    exact .inl ⟨world, hstep, rfl⟩
  · cases h
    exact .inr rfl

/-- **Inversion of a poll**: which of the ways of `Binding.Polled` it was. -/
theorem Binding.polled_of_poll (h : b.poll ι target options = some b') :
    b.Polled ι target options b' := by
  obtain ⟨w, call⟩ := b
  have hfinish : ∀ {result : Except Error UInt16},
      some (Binding.finish ⟨w, call⟩ result) = some b' →
        Polled ι target options ⟨w, call⟩ b' := by
    rintro result ⟨⟩
    exact .finished result
  cases call with
  | begun =>
    rcases send_cases h with ⟨world, hissue, rfl⟩ | rfl
    · exact .bindIssued hissue
    · exact .finished _
  | awaitingBind response =>
    rw [poll] at h
    rcases hpolled : w.pollResponse response with _ | _ | (e | port) | result | result <;>
      simp only [hpolled] at h
    · cases h
    · exact hfinish h
    · exact hfinish h
    · split at h
      · next routing _ =>
        obtain ⟨message, hmessage, h⟩ := Option.bind_eq_some_iff.mp h
        rcases send_cases h with ⟨world, hissue, rfl⟩ | rfl
        · exact .activationIssued port routing hmessage hissue
        · exact .finished _
      · exact hfinish h
    · cases h
    · cases h
  | activationSent port response =>
    cases h
    exact .timed rfl
  | awaitingActivation port response deadline =>
    rw [poll] at h
    rcases hpolled : w.pollResponse response with _ | _ | result | result | (e | m) <;>
      simp only [hpolled] at h
    · split at h
      · exact hfinish h
      · cases h
    · exact hfinish h
    · cases h
    · cases h
    · exact hfinish h
    · exact hfinish h
  | returned => cases h

end

/-- A routing activation request can always be constructed: the `payload_len` in its constructor
does not panic, as the payload is far below the range of the length field. -/
theorem routingActivationRequest_isSome (ι : Type) [WireCodec ι] (version : ProtocolVersion)
    (sourceAddress : LogicalAddress) (activationType : ActivationTypeCode)
    (oemSpecific : Option (U8Array 4)) :
    ∃ m, OwnedMessage.routingActivationRequest (ι := ι) version sourceAddress activationType
      oemSpecific = some m := by
  cases oemSpecific <;> exact ⟨_, rfl⟩

end SimpleDoip
