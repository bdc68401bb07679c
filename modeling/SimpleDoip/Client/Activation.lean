import SimpleDoip.Client.SilentPeer
import SimpleDoip.MessageCodec

/-!
# What a routing activation is answered with

The inner task matches a response by the payload type in its header, and `bind_socket` then looks
for the payload variant. The two agree because of the codec: what it hands out carries the variant
its type says (`Message.Carried`). `World.Activations` is what the task keeps from there, whatever
else is requested and received meanwhile: the request that waits is the one its number names, and
what completes it is a response to it. So `bind_socket` never gets to its branch for another
payload.
-/

namespace SimpleDoip

open Transition

/-! ## What the codec hands out -/

section
variable {ι : Type} [WireCodec ι]

/-- The payload of a message is of the variant its header's type says. Decoding makes only such
messages; a constructed one can differ. -/
def Message.Carried (m : Message) : Prop := m.header.payloadType.carries m.payload = true

namespace MessageCodec

theorem carried_of_decodeLoop {fuel : Nat} {src src' : List UInt8} {m : OwnedMessage}
    (h : decodeLoop (ι := ι) fuel src = some (.ok (some m), src')) : m.Carried := by
  induction fuel generalizing src with
  | zero => cases h
  | succ fuel ih =>
    rw [decodeLoop] at h
    cases ht : tryFrame (ι := ι) src with
    | error e =>
      rw [ht] at h
      cases h
    | ok item =>
      rw [ht] at h
      cases item with
      | none => cases h
      | some item =>
        obtain ⟨frame, consumed⟩ := item
        cases hp : Payload.decode (ι := ι) frame.payload frame.header.payloadType with
        | ok payload =>
          simp only [hp] at h
          cases h
          exact PayloadType.carries_of_decode hp
        | error e =>
          simp only [hp] at h
          split at h
          · cases h
          · exact ih h

theorem carried_of_decodeAll {fuel : Nat} {messages : List OwnedMessage} {src : List UInt8}
    {decoded : Decoded ι} (h : decodeAll fuel messages src = some decoded)
    (hmessages : ∀ m ∈ messages, m.Carried) : ∀ m ∈ decoded.messages, m.Carried := by
  induction fuel generalizing messages src with
  | zero => cases h
  | succ fuel ih =>
    rw [decodeAll] at h
    split at h
    · cases h
    · next m src' hdecode =>
      refine ih h fun m' hm' => ?_
      rcases List.mem_append.mp hm' with hm' | hm'
      · exact hmessages m' hm'
      · rw [List.mem_singleton.mp hm']
        exact carried_of_decodeLoop hdecode
    · cases h
      exact hmessages
    · cases h
      exact hmessages

theorem carried_of_feedChunks {st decoded : Decoded ι} {chunks unfed : List (List UInt8)}
    (h : feedChunks st chunks = some (decoded, unfed)) (hst : ∀ m ∈ st.messages, m.Carried) :
    ∀ m ∈ decoded.messages, m.Carried := by
  induction chunks generalizing st with
  | nil =>
    cases h
    exact hst
  | cons chunk rest ih =>
    obtain ⟨st', hall, h⟩ := Option.bind_eq_some_iff.mp h
    have hst' := carried_of_decodeAll hall hst
    cases hstatus : st'.status with
    | none =>
      simp only [hstatus] at h
      exact ih h hst'
    | some e =>
      simp only [hstatus] at h
      cases h
      exact hst'

end MessageCodec

variable (ι) in
/-- A message that the codec hands out for some byte stream, however it arrives. What a client
receives is of this kind. -/
def FromWire (m : OwnedMessage) : Prop :=
  ∃ chunks decoded unfed,
    MessageCodec.feedChunks (ι := ι) ⟨[], none, []⟩ chunks = some (decoded, unfed) ∧
    m ∈ decoded.messages

theorem FromWire.carried {m : OwnedMessage} (h : FromWire ι m) : m.Carried := by
  obtain ⟨chunks, decoded, unfed, hfeed, hm⟩ := h
  exact MessageCodec.carried_of_feedChunks hfeed (by simp) m hm

variable (ι) in
/-- What happens to a client of this crate: the socket delivers what the codec hands out, and the
routing activation requests are those that `bind_socket` constructs. -/
def Genuine : Action → Prop
  | .turn (.socket (.message m)) _ _ => FromWire ι m
  | .issue (.routingActivation message) =>
    ∃ version sourceAddress activationType oemSpecific,
      OwnedMessage.routingActivationRequest (ι := ι) version sourceAddress activationType
        oemSpecific = some message
  | _ => True

theorem payloadType_of_routingActivationRequest {version : ProtocolVersion}
    {sourceAddress : LogicalAddress} {activationType : ActivationTypeCode}
    {oemSpecific : Option (U8Array 4)} {message : OwnedMessage}
    (h : OwnedMessage.routingActivationRequest (ι := ι) version sourceAddress activationType
      oemSpecific = some message) :
    message.header.payloadType = .routingActivationRequest := by
  obtain ⟨n, -, ⟨⟩⟩ := Option.bind_eq_some_iff.mp h
  rfl

/-- What is accepted as the answer to a routing activation request, and was handed out by the codec,
carries a routing activation response. -/
theorem Message.Carried.of_isResponse {request m : OwnedMessage} (hm : m.Carried)
    (hrequest : request.header.payloadType = .routingActivationRequest)
    (hresponse : request.isResponse m.header.payloadType = true) :
    ∃ response, m.payload = .routingActivationResponse response := by
  have htype : m.header.payloadType = .routingActivationResponse := by
    simpa [Message.isResponse, hrequest] using hresponse
  unfold Message.Carried at hm
  rw [htype] at hm
  cases hpayload : m.payload with
  | routingActivationResponse response => exact ⟨response, rfl⟩
  | _ =>
    rw [hpayload] at hm
    cases hm

end

/-! ## What the task answers with -/

section
variable {target : Target} {w w' : World}

/-- A request that fails gets no message: the answers of `failActive` are all errors. -/
theorem Inner.ok_notMem_failActive (i : Inner) (e : Error) (id : Nat) (m : OwnedMessage) :
    .completed id (.message (.ok m)) ∉ i.failActive e := by
  intro h
  obtain ⟨request, -, heq⟩ := Inner.mem_failActive h
  exact ControlMessage.failure_ne_ok request e m (Effect.completed.inj heq).2.symm

/-- Where a turn first fails what was active, a message that is returned belongs to the effect that
follows. -/
theorem Inner.mem_of_ok_mem {i : Inner} {e : Error} {id : Nat} {m : OwnedMessage} {f : Effect}
    (h : .completed id (.message (.ok m)) ∈ i.failActive e ++ [f]) :
    .completed id (.message (.ok m)) = f := by
  rcases List.mem_append.mp h with h | h
  · exact absurd h (i.ok_notMem_failActive e id m)
  · exact List.mem_singleton.mp h

/-- A request that gets a message is a receive that was taken, or one that waits for a response to
its own message. -/
theorem Turned.completed_ok {env : Env} {i : Inner} {select : Select}
    {r : EStateM.Result Panic Task Processed} {id : Nat} {m : OwnedMessage}
    (h : Turned target env i select r)
    (hmem : .completed id (.message (.ok m)) ∈ (resultTask r).effects) :
    (∃ timeout, select = .control (.receiveDiagnosticResponse timeout id)) ∨
    ∃ request, i.activeRequest = some (.awaitResponse request id) ∧
      request.isResponse m.header.payloadType = true ∧ select = .socket (.ok m) := by
  cases h with
  | expired | broken | listening | lateListening =>
    exact absurd hmem (i.ok_notMem_failActive _ id m)
  | bound | unbound | sent | overflowed | late => cases Inner.mem_of_ok_mem hmem
  | refused e =>
    have heq := (Effect.completed.inj (Inner.mem_of_ok_mem hmem)).2
    exact absurd heq.symm (ControlMessage.failure_ne_ok _ e m)
  | @drained timeout response =>
    cases Inner.mem_of_ok_mem hmem
    exact .inl ⟨timeout, rfl⟩
  | acked => cases List.mem_singleton.mp hmem
  | @replied m' request response hm hactive =>
    rcases List.mem_append.mp hmem with hmem | hmem
    · cases Inner.mem_aliveEffects hmem
    · obtain ⟨rfl, hreply⟩ := Effect.completed.inj (List.mem_singleton.mp hmem)
      obtain rfl := Message.eq_of_reply hreply.symm
      refine .inr ⟨request, hactive, ?_, rfl⟩
      by_contra hno
      rw [Message.reply, if_neg hno] at hreply
      cases hreply
  | ackDropped | stored => cases hmem
  | passed | unheeded | aliveOverflowed => cases Inner.mem_aliveEffects hmem

/-- The requests change only where one is issued, and then at their end. -/
theorem World.requests_of_step {a : Action} (h : w.step target a = some w') :
    w'.requests = w.requests ∨
      ∃ request, a = .issue request ∧ w'.requests = w.requests ++ [request] := by
  cases moved_of_step h with
  | issued => exact .inr ⟨_, rfl, rfl⟩
  | abandoned | waited | controlClosed | updateRead | updatesDropped | ended => exact .inl rfl
  | @turned branch socketOpen connect select => exact .inl (finish_requests w select _)
  | @resumed m =>
    obtain ⟨updates, phase, heq⟩ := w.sendUpdate_eq m
    rw [heq]
    exact .inl rfl

/-- What answers a request is found in the log, as the completion of its channel. -/
theorem mem_of_answerTo {log : List Entry} {id : Nat} {answer : Answer}
    (h : answerTo log id = some answer) : .did (.completed id answer) ∈ log := by
  obtain ⟨entry, hentry, h⟩ := List.exists_of_findSome?_eq_some h
  split at h
  · split at h
    · next heq =>
      cases h
      rwa [heq] at hentry
    · cases h
  · cases h

theorem World.answerTo_of_poll {id : Nat} {answer : Answer}
    (h : w.pollResponse id = .value answer) : answerTo w.log id = some answer := by
  unfold World.pollResponse at h
  split at h
  · next answer' hanswer =>
    cases h
    exact hanswer
  · split at h <;> cases h

/-! ## Runs -/

/-- Request `id` activates routing with `message`. Only `bind_socket` makes such requests. -/
def World.IsActivation (w : World) (id : Nat) (message : OwnedMessage) : Prop :=
  w.requests[id]? = some (.routingActivation message)

/-- The routing activation requests are requests, the one that waits waits for a response to itself,
and those that were answered with a message got a routing activation response. -/
structure World.Activations (w : World) : Prop where
  waits : w.Waits
  numbered : w.Numbered
  requested : ∀ id message, w.IsActivation id message →
    message.header.payloadType = .routingActivationRequest
  waiting : ∀ id message request, w.IsActivation id message →
    w.inner.activeRequest = some (.awaitResponse request id) → request = message
  answered : ∀ id message m, w.IsActivation id message →
    .did (.completed id (.message (.ok m))) ∈ w.log →
    ∃ response, m.payload = .routingActivationResponse response

theorem World.activations_start (options : ClientOptions) : (World.start options).Activations where
  waits _ := .none
  numbered := by
    have hrun : run (World.step ⟨false, 0⟩) (World.start options) [] =
        some (World.start options) := rfl
    exact World.numbered_of_run hrun
  requested id message h := by cases h
  waiting id message request h := by cases h
  answered id message m h := by cases h

theorem World.IsActivation.of_mono (hrequests : w.requests <+: w'.requests) {id : Nat}
    {message : OwnedMessage} (hid : id < w.requests.length) (h : w'.IsActivation id message) :
    w.IsActivation id message := by
  rwa [IsActivation, request_mono hrequests hid] at h

/-- What is taken is not a routing activation if it is a receive: a request is of one kind. -/
theorem World.IsActivation.ne_receive {branch : Branch} {timeout id : Nat} {message : OwnedMessage}
    (hselect : w.select branch = some (.control (.receiveDiagnosticResponse timeout id))) :
    ¬ w.IsActivation id message := by
  intro hid
  obtain ⟨-, request, hrequest, hcreate⟩ := World.select_control hselect
  cases request with
  | receiveDiagnosticResponse =>
    cases hcreate
    cases hid.symm.trans hrequest
  | _ => cases hcreate

/-- The request that waits after a turn waited before, or is the one that was taken, as its number
says. -/
theorem Turned.waiting_eq {env : Env} {branch : Branch} {select : Select}
    {r : EStateM.Result Panic Task Processed} {id : Nat} {message request : OwnedMessage}
    (hselect : w.select branch = some select) (h : Turned target env w.inner select r)
    (hid : w.IsActivation id message)
    (hactive : (resultTask r).inner.activeRequest = some (.awaitResponse request id)) :
    w.inner.activeRequest = some (.awaitResponse request id) ∨ request = message := by
  cases h with
  | listening =>
    cases hactive
    exact absurd hid (World.IsActivation.ne_receive hselect)
  | sent hmessage =>
    obtain ⟨-, taken, htaken, rfl⟩ := World.select_control hselect
    cases taken with
    | routingActivation message' =>
      cases hactive
      cases hid.symm.trans htaken
      exact .inr rfl
    | sendDiagnosticMessage => cases hactive
    | bindSocket | unbindSocket | receiveDiagnosticResponse => cases hmessage
  | ackDropped | stored | aliveOverflowed => exact .inl hactive
  | passed | unheeded => exact .inl (by rwa [resultTask, Inner.afterAlive_activeRequest] at hactive)
  | _ => cases hactive

end

section
variable {ι : Type} [WireCodec ι] {target : Target} {w w' : World}

/-- A message that was selected came from the socket branch, as the message that was delivered
there. -/
theorem World.branch_of_message {branch : Branch} {m : OwnedMessage}
    (h : w.select branch = some (.socket (.ok m))) : branch = .socket (.message m) := by
  generalize hs : Select.socket (.ok m) = select at h
  cases World.selected_of_select h with
  | deadline | control => cases hs
  | @socket incoming =>
    cases incoming with
    | message m' =>
      cases hs
      rfl
    | failed | closed => cases hs

/-- A turn on a genuine message answers routing activations with responses to them, if it answers
them with a message at all. -/
theorem World.Activations.turn {branch : Branch} {socketOpen : Bool} {connect : Except Error Unit}
    {select : Select} {r : EStateM.Result Panic Task Processed}
    (hgenuine : Genuine ι (.turn branch socketOpen connect))
    (hselect : w.select branch = some select)
    (hturned : Turned target (w.env socketOpen connect) w.inner select r) (hw : w.Activations) :
    ∀ id message m, w.IsActivation id message →
      .did (.completed id (.message (.ok m))) ∈ (w.finish select r).log →
      ∃ response, m.payload = .routingActivationResponse response := by
  intro id message m hid hmem
  rw [World.finish_log] at hmem
  rcases List.mem_append.mp hmem with hmem | hmem
  · exact hw.answered id message m hid hmem
  rcases hturned.completed_ok (did_mem_new.mp hmem) with ⟨timeout, rfl⟩ |
    ⟨request, hactive, hresponse, rfl⟩
  · exact absurd hid (World.IsActivation.ne_receive hselect)
  · obtain rfl := hw.waiting id message request hid hactive
    obtain rfl := World.branch_of_message hselect
    have hwire : FromWire ι m := hgenuine
    exact hwire.carried.of_isResponse (hw.requested id request hid) hresponse

/-- A routing activation that was just issued is one of `bind_socket`, so its message has the type
of a request. -/
theorem World.Activations.requested_step {a : Action} (hgenuine : Genuine ι a)
    (h : w.step target a = some w') (hw : w.Activations) :
    ∀ id message, w'.IsActivation id message →
      message.header.payloadType = .routingActivationRequest := by
  intro id message hid
  rcases World.requests_of_step h with hsame | ⟨request, rfl, hissued⟩
  · rw [World.IsActivation, hsame] at hid
    exact hw.requested id message hid
  · rw [World.IsActivation, hissued] at hid
    rcases Nat.lt_or_ge id w.requests.length with hlt | hge
    · rw [List.getElem?_append_left hlt] at hid
      exact hw.requested id message hid
    · rw [List.getElem?_append_right hge] at hid
      obtain rfl := List.mem_singleton.mp (List.mem_of_getElem? hid)
      obtain ⟨version, sourceAddress, activationType, oemSpecific, hmessage⟩ := hgenuine
      exact payloadType_of_routingActivationRequest hmessage

/-- **A genuine step** keeps what is known of the activations: their requests are requests, and
their answers responses. -/
theorem World.Activations.step {a : Action} (hgenuine : Genuine ι a)
    (h : w.step target a = some w') (hw : w.Activations) : w'.Activations := by
  refine ⟨hw.waits.step h, hw.numbered.step hw.waits h, hw.requested_step hgenuine h, ?_, ?_⟩
  · intro id message request hid hactive
    cases World.step_cases hw.waits h with
    | idle hsame =>
      rw [hsame.inner] at hactive
      have hlt : id < w.taken := hw.numbered.held id (by rw [Inner.held, hactive]; rfl)
      exact hw.waiting id message request
        (hid.of_mono hsame.requests (hlt.trans_le hw.numbered.taken)) hactive
    | turned hhead hselect hturned =>
      rw [World.IsActivation, World.finish_requests] at hid
      rw [World.finish_inner] at hactive
      rcases hturned.waiting_eq hselect hid hactive with hactive | heq
      · exact hw.waiting id message request hid hactive
      · exact heq
  · intro id message m hid hmem
    cases World.step_cases hw.waits h with
    | idle hsame =>
      rw [hsame.log] at hmem
      have hlt : id < w.taken := hw.numbered.effects _ id hmem rfl
      exact hw.answered id message m
        (hid.of_mono hsame.requests (hlt.trans_le hw.numbered.taken)) hmem
    | turned hhead hselect hturned =>
      rw [World.IsActivation, World.finish_requests] at hid
      exact hw.turn hgenuine hselect hturned id message m hid hmem

/-! ## The call -/

/-- A call of `bind_socket` beside a task: what is known of the activations holds, and the one the
call waits for is an activation indeed. -/
structure Binding.Activations (b : Binding) : Prop where
  world : b.world.Activations
  call : ∀ id, b.call.activation = some id → ∃ message, b.world.IsActivation id message

variable {options : BindOptions} {b b' : Binding}

/-- What is issued is found under the number it gets, which is how many requests there were
before. -/
theorem World.getElem?_of_issue {request : Request} (h : w.step target (.issue request) = some w') :
    w'.requests[w.requests.length]? = some request := by
  rw [World.eq_of_step_issue h]
  exact List.getElem?_concat_length

/-- A poll keeps the activations: the only thing it can do to the task is to issue a request of its
own. -/
theorem Binding.Activations.poll (h : b.poll ι target options = some b') (hb : b.Activations) :
    b'.Activations := by
  cases Binding.polled_of_poll h with
  | bindIssued hissue =>
    have hgenuine : Genuine ι (.issue (.bindSocket options.serverAddress)) := trivial
    refine ⟨hb.world.step hgenuine hissue, fun id hid => ?_⟩
    cases hid
  | @activationIssued world message port routing hmessage hissue =>
    have hgenuine : Genuine ι (.issue (.routingActivation message)) := ⟨_, _, _, _, hmessage⟩
    refine ⟨hb.world.step hgenuine hissue, fun id hid => ?_⟩
    cases hid
    exact ⟨_, World.getElem?_of_issue hissue⟩
  | timed hcall =>
    refine ⟨hb.world, fun id hid => hb.call id ?_⟩
    rw [hcall]
    exact hid
  | finished result =>
    refine ⟨hb.world, fun id hid => ?_⟩
    cases hid

/-- One move keeps the activations, whether the call is polled or something genuine happens to the
task. -/
theorem Binding.Activations.step {move : BindMove}
    (hgenuine : ∀ a, move = .task a → Genuine ι a)
    (h : b.step ι target options move = some b') (hb : b.Activations) : b'.Activations := by
  cases move with
  | poll => exact hb.poll h
  | task a =>
    obtain ⟨world, hstep, rfl⟩ := Option.map_eq_some_iff.mp h
    refine ⟨hb.world.step (hgenuine a rfl) hstep, fun id hid => ?_⟩
    obtain ⟨message, hmessage⟩ := hb.call id hid
    refine ⟨message, ?_⟩
    rcases World.requests_of_step hstep with hsame | ⟨request, -, hissued⟩
    · rw [World.IsActivation, hsame]
      exact hmessage
    · rw [World.IsActivation, hissued,
        List.getElem?_append_left (List.getElem?_eq_some_iff.mp hmessage).1]
      exact hmessage

/-- What `bind_socket` makes of a routing activation response, by its code: success for two of them,
denial for the rest. -/
theorem activationResult_eq {m : OwnedMessage} {response : RoutingActivationResponse}
    (h : m.payload = .routingActivationResponse response) (port : UInt16) :
    activationResult port m =
      if response.routingActivationResponseCode = .routingSuccessfullyActivated ∨
        response.routingActivationResponseCode = .routingSuccessfullyActivatedConfirmationRequired
      then .ok port
      else .error (.routingActivationDenied response.routingActivationResponseCode) := by
  simp only [activationResult, h, RoutingActivationResponseCode.isSuccess_iff]

/-- **The fallback of `bind_socket` is unreachable.** Whatever a client has done and received, as
long as the socket delivers what the codec hands out for some byte stream and routing activations
are requested by `bind_socket`: wherever a call of it has come to, every routing activation that was
answered with a message was answered with a routing activation response. If that is what the call
finds, it returns the port for the two success codes, and that the activation was denied for every
other code. -/
theorem activation_fallback_unreachable {clientOptions : ClientOptions} {actions : List Action}
    {moves : List BindMove} (hactions : ∀ a ∈ actions, Genuine ι a)
    (hrun : run (World.step target) (World.start clientOptions) actions = some w)
    (hmoves : ∀ a, .task a ∈ moves → Genuine ι a)
    (hcall : run (Binding.step ι target options) ⟨w, .begun⟩ moves = some b) :
    (∀ id message m, b.world.requests[id]? = some (.routingActivation message) →
      .did (.completed id (.message (.ok m))) ∈ b.world.log →
      ∃ response, m.payload = .routingActivationResponse response) ∧
    ∀ port id deadline m, b.call = .awaitingActivation port id deadline →
      b.world.pollResponse id = .value (.message (.ok m)) →
      ∃ response, m.payload = .routingActivationResponse response ∧
        b.poll ι target options = some (b.finish (
          if response.routingActivationResponseCode = .routingSuccessfullyActivated ∨
            response.routingActivationResponseCode =
              .routingSuccessfullyActivatedConfirmationRequired
          then .ok port
          else .error (.routingActivationDenied response.routingActivationResponseCode))) := by
  have hw : w.Activations := run_invariant_along (G := fun _ a => Genuine ι a)
    (fun _ _ _ hG hstep hw => hw.step hG hstep) (along_of_forall hactions _) hrun
    (World.activations_start clientOptions)
  have hb : b.Activations := by
    refine run_invariant_along (G := fun _ move => ∀ a, move = .task a → Genuine ι a)
      (fun _ _ _ hG hstep hb => hb.step hG hstep) (along_of_forall ?_ _) hcall ⟨hw, ?_⟩
    · rintro move hmove a rfl
      exact hmoves a hmove
    · intro id hid
      cases hid
  refine ⟨hb.world.answered, fun port id deadline m hawaiting hpolled => ?_⟩
  obtain ⟨message, hmessage⟩ := hb.call id (by rw [hawaiting]; rfl)
  obtain ⟨response, hpayload⟩ :=
    hb.world.answered id message m hmessage (mem_of_answerTo (World.answerTo_of_poll hpolled))
  refine ⟨response, hpayload, ?_⟩
  rw [← activationResult_eq hpayload]
  simp only [Binding.poll, hawaiting, hpolled]

end

/-- A routing activation response that denies the activation as it is on the wire, and the message
the codec makes of it. -/
def denialBytes : List UInt8 :=
  [0x02, 0xFD, 0x00, 0x06, 0, 0, 0, 9, 0x0E, 0x00, 0x00, 0x01, 0x02, 0, 0, 0, 0]

def denial : OwnedMessage where
  header := Header.new .v2012 .routingActivationResponse 9
  payload := .routingActivationResponse {
    logicalAddressTester := ⟨0x0E00⟩
    logicalAddressOfDoipEntity := ⟨0x0001⟩
    routingActivationResponseCode := .deniedSourceAddressAlreadyActivated
    reservedOem := filledArray 4 0
    oemSpecific := none }

/-- A call that waits for its routing activation, and the denial of it, which the task has
received. -/
def untilDenied : List BindMove :=
  [.poll, .task (.turn .control true (.ok ())), .poll, .poll,
    .task (.turn .control true (.ok ())), .task (deliver denial)]

/-- A peer denies the activation, and the call fails with the code of the denial, not by its
fallback. -/
theorem activation_fallback_unreachable_denied :
    letI := plainWire
    ∃ b b', run (Binding.step Incomplete releaseTarget activatingOptions)
        ⟨World.start testerOptions, .begun⟩ untilDenied = some b ∧
      b.poll Incomplete releaseTarget activatingOptions = some b' ∧
      b'.call =
        .returned (.error (.routingActivationDenied .deniedSourceAddressAlreadyActivated)) := by
  let := plainWire
  have h : ∃ b id deadline, run (Binding.step Incomplete releaseTarget activatingOptions)
      ⟨World.start testerOptions, .begun⟩ untilDenied = some b ∧
      b.call = .awaitingActivation 13400 id deadline ∧
      b.world.pollResponse id = .value (.message (.ok denial)) := ⟨_, _, _, rfl, rfl, rfl⟩
  obtain ⟨b, id, deadline, hcall, hawaiting, hpolled⟩ := h
  have hwire : FromWire Incomplete denial :=
    ⟨[denialBytes], ⟨[denial], none, []⟩, [], rfl, List.mem_singleton.mpr rfl⟩
  have hmoves : ∀ a, .task a ∈ untilDenied → Genuine Incomplete a := by
    intro a ha
    simp only [untilDenied, List.mem_cons, List.not_mem_nil, reduceCtorEq, BindMove.task.injEq,
      false_or, or_false] at ha
    rcases ha with rfl | rfl | rfl
    · trivial
    · trivial
    · exact hwire
  have hrun : run (World.step releaseTarget) (World.start testerOptions) [] =
      some (World.start testerOptions) := rfl
  obtain ⟨response, hpayload, hpoll⟩ := (activation_fallback_unreachable (by simp) hrun hmoves
    hcall).2 13400 id deadline denial hawaiting hpolled
  cases hpayload
  exact ⟨b, _, hcall, hpoll, rfl⟩

end SimpleDoip
