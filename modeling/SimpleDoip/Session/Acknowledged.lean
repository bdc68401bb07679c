import SimpleDoip.Client.Freshness

/-!
# What an acknowledgement stands for

`Dialogue` puts a client and a peer together, with the messages in flight between them. The peer
acknowledges every diagnostic message once, in order, positively or not, and echoes its user data;
it sends other messages whenever it likes. The client takes the next acknowledgement for the one of
the send that waits, and does not look at the echo. `accepted_sends` proves that a send which
succeeds was accepted, for every run in which a diagnostic message is sent only while no other is
unacknowledged; `late_ack_accepts_next_send` is a run in which one is.
-/

namespace SimpleDoip

open Transition

/-! ## A client and its peer -/

/-- What the peer has acknowledged: the message, the request it was handed over for, and the
acknowledgement. -/
structure Acknowledgement where
  request : Option Nat
  message : OwnedMessage
  ack : OwnedMessage
deriving DecidableEq

/-- A client and its peer, with the messages in flight both ways, oldest first, and what the peer
has acknowledged. The peer is seen only through its messages. -/
structure Dialogue where
  client : World
  toPeer : List (Option Nat × OwnedMessage)
  toClient : List OwnedMessage
  acknowledged : List Acknowledgement

/-- One thing that happens: to the client, to a message that reaches it, or at the peer, which
acknowledges the next message, passes over one that is no diagnostic message, or sends something
that is no acknowledgement. -/
inductive Dialogue.Event where
  | client (action : Action)
  | deliver (socketOpen : Bool) (connect : Except Error Unit)
  | acknowledge (ack : OwnedMessage)
  | passOver
  | send (message : OwnedMessage)

/-- The message is an acknowledgement of a diagnostic message, of either kind. A peer sends these
only for what it has processed. -/
def Message.isAck (m : OwnedMessage) : Bool :=
  match m.payload with
  | .diagnosticMessageAck _ | .diagnosticMessageNack => true
  | _ => false

/-- The user data of a diagnostic message, and none for any other message. It tells the messages
that are to be acknowledged from the rest. -/
def Message.userData (m : OwnedMessage) : Option (List UInt8) :=
  match m.payload with
  | .diagnosticMessage dm => some dm.userData
  | _ => none

/-- The message acknowledges user data, positively or not, and echoes it. Decoding a frame of the
negative type leaves nothing of its body. -/
def Message.acknowledges (m : OwnedMessage) (userData : List UInt8) : Bool :=
  match m.payload with
  | .diagnosticMessageAck ack => ack.previousMessageData == userData
  | .diagnosticMessageNack => true
  | _ => false

/-- The messages a log hands to the socket, with the requests they are for. An answer to an alive
check is for none. -/
def handedFor (log : List Entry) : List (Option Nat × OwnedMessage) :=
  log.filterMap fun
    | .did (.handed request message) => some (request, message)
    | _ => none

namespace Dialogue

/-- A client that has not been asked for anything yet, with nothing in flight and nothing
acknowledged. -/
def start (options : ClientOptions) : Dialogue where
  client := World.start options
  toPeer := []
  toClient := []
  acknowledged := []

/-- The action has the client take a request to connect, whether or not the connection then
succeeds. -/
def connects (d : Dialogue) : Action → Bool
  | .turn .control _ _ =>
    match d.client.requests[d.client.taken]? with
    | some (.bindSocket _) => true
    | _ => false
  | _ => false

/-- Something happens to the client. What it hands to its socket is in flight to the peer, and a new
connection has nothing in flight either way. -/
def clientStep (target : Target) (d : Dialogue) (action : Action) : Option Dialogue := do
  let client ← d.client.step target action
  if d.connects action then
    return { d with client, toPeer := [], toClient := [] }
  else
    return { d with
      client, toPeer := d.toPeer ++ handedFor (client.log.drop d.client.log.length) }

/-- One event, where it can happen. The client receives only what is in flight to it. The peer
answers the messages in order: a diagnostic message with an acknowledgement that echoes it, any
other with nothing. Other messages it sends as it likes. -/
def step (target : Target) (d : Dialogue) : Event → Option Dialogue
  | .client (.turn (.socket (.message _)) _ _) => none
  | .client action => d.clientStep target action
  | .deliver socketOpen connect =>
    match d.toClient with
    | [] => none
    | m :: toClient =>
      { d with toClient }.clientStep target (.turn (.socket (.message m)) socketOpen connect)
  | .acknowledge ack =>
    match d.toPeer with
    | [] => none
    | (request, message) :: toPeer =>
      match message.userData with
      | none => none
      | some userData =>
        if ack.acknowledges userData then
          some { d with
            toPeer, toClient := d.toClient ++ [ack]
            acknowledged := d.acknowledged ++ [{ request, message, ack }] }
        else none
  | .passOver =>
    match d.toPeer with
    | [] => none
    | (_, message) :: toPeer => if message.userData = none then some { d with toPeer } else none
  | .send m => if m.isAck then none else some { d with toClient := d.toClient ++ [m] }

/-- Every send that succeeded was processed by the peer, and acknowledged positively. -/
def SendsAccepted (d : Dialogue) : Prop :=
  ∀ b message, d.client.requests[b]? = some (.sendDiagnosticMessage message) →
    .did (.completed b (.done (.ok ()))) ∈ d.client.log →
    ∃ ack, { request := some b, message, ack } ∈ d.acknowledged ∧ ack.isPositiveAck = true

/-- A diagnostic message is sent only while no other is unacknowledged: none is on its way to the
peer, and no positive acknowledgement on its way to the client. -/
def SendsAlone (d : Dialogue) : Event → Prop
  | .client (.turn .control _ _) => d.client.IsSend d.client.taken →
      (∀ p ∈ d.toPeer, p.2.userData = none) ∧ ∀ m ∈ d.toClient, m.isPositiveAck = false
  | _ => True

end Dialogue

/-! ## What a turn says about acknowledgements -/

section
variable {target : Target} {env : Env} {i : Inner} {select : Select}
  {r : EStateM.Result Panic Task Processed} {b : Nat}

theorem ControlMessage.failure_ne_done (request : ControlMessage) (e : Error) :
    request.failure e ≠ .done (.ok ()) := by
  cases request <;> nofun

/-- A request without a value succeeds on an unbind, or on a positive acknowledgement. -/
theorem Turned.succeeded (h : Turned target env i select r)
    (hdone : .completed b (.done (.ok ())) ∈ (resultTask r).effects) :
    select = .control (.unbindSocket b) ∨
      ∃ m, select = .socket (.ok m) ∧ m.isPositiveAck = true ∧
        i.activeRequest = some (.awaitAck b) := by
  have hfail : ∀ e, .completed b (.done (.ok ())) ∉ i.failActive e := by
    intro e hmem
    obtain ⟨request, -, heq⟩ := Inner.mem_failActive hmem
    exact request.failure_ne_done e (Effect.completed.inj heq).2.symm
  have halive : ∀ m, .completed b (.done (.ok ())) ∉ i.aliveEffects env m := fun m hmem =>
    nomatch Inner.mem_aliveEffects hmem
  cases h with
  | expired | listening | lateListening | broken => exact absurd hdone (hfail _)
  | bound | drained | sent | overflowed | late =>
    rcases List.mem_append.mp hdone with hdone | hdone
    · exact absurd hdone (hfail _)
    · cases List.mem_singleton.mp hdone
  | unbound response =>
    rcases List.mem_append.mp hdone with hdone | hdone
    · exact absurd hdone (hfail _)
    · rw [(Effect.completed.inj (List.mem_singleton.mp hdone)).1]
      exact .inl rfl
  | @refused request e =>
    rcases List.mem_append.mp hdone with hdone | hdone
    · exact absurd hdone (hfail _)
    · have heq := Effect.completed.inj (List.mem_singleton.mp hdone)
      exact absurd heq.2.symm (request.failure_ne_done e)
  | @acked m ack response hm hactive =>
    obtain ⟨rfl, hresult⟩ := Effect.completed.inj (List.mem_singleton.mp hdone)
    refine .inr ⟨m, rfl, ?_, hactive⟩
    rw [Message.isPositiveAck, hm]
    rw [DiagnosticMessageAck.result] at hresult
    split at hresult
    · assumption
    · cases hresult
  | ackDropped | stored => cases hdone
  | replied =>
    rcases List.mem_append.mp hdone with hdone | hdone
    · exact absurd hdone (halive _)
    · cases List.mem_singleton.mp hdone
  | passed | unheeded | aliveOverflowed => exact absurd hdone (halive _)

/-- A send that waits for its acknowledgement waited before, and then no diagnostic message was
handed over, or it has just been taken, and only its message was. -/
theorem Turned.awaits (h : Turned target env i select r)
    (hactive : (resultTask r).inner.activeRequest = some (.awaitAck b)) :
    (i.activeRequest = some (.awaitAck b) ∧ ∀ request message,
      .handed request message ∈ (resultTask r).effects → message.userData = none) ∨
    ∃ message, select = .control (.sendDiagnosticMessage message b) ∧ ∀ request message',
      .handed request message' ∈ (resultTask r).effects →
        request = some b ∧ message' = message := by
  have halive : ∀ m request message, .handed request message ∈ i.aliveEffects env m →
      message.userData = none := by
    intro m request message hmem
    cases Inner.mem_aliveEffects hmem
    rfl
  cases h with
  | @sent request message s hmessage =>
    cases request with
    | sendDiagnosticMessage message' response =>
      cases hactive
      cases hmessage
      refine .inr ⟨message, rfl, fun request' message' hmem => ?_⟩
      rcases List.mem_append.mp hmem with hmem | hmem
      · obtain ⟨_, -, heq⟩ := Inner.mem_failActive hmem
        cases heq
      · cases List.mem_singleton.mp hmem
        exact ⟨rfl, rfl⟩
    | routingActivation => cases hactive
    | _ => cases hmessage
  | ackDropped _ hnot => exact absurd hactive (hnot b)
  | unheeded =>
    rw [resultTask, Inner.afterAlive_activeRequest] at hactive
    exact .inl ⟨hactive, halive _⟩
  | aliveOverflowed => exact .inl ⟨hactive, halive _⟩
  | stored _ hnone =>
    rw [resultTask, hnone] at hactive
    cases hactive
  | passed _ _ hnone =>
    rw [resultTask, Inner.afterAlive_activeRequest, hnone] at hactive
    cases hactive
  | expired | bound | unbound | refused | drained | listening | overflowed | late | lateListening
  | acked | replied | broken => cases hactive

end

/-! ## Runs -/

theorem Message.isAck_of_isPositiveAck {m : OwnedMessage} (h : m.isPositiveAck = true) :
    m.isAck = true := by
  rw [Message.isPositiveAck] at h
  rw [Message.isAck]
  split at h
  · next hack => rw [hack]
  · cases h

theorem mem_handedFor {log : List Entry} {p : Option Nat × OwnedMessage} :
    p ∈ handedFor log ↔ .did (.handed p.1 p.2) ∈ log := by
  rw [handedFor, List.mem_filterMap]
  constructor
  · rintro ⟨entry, hentry, heq⟩
    split at heq
    · cases heq
      exact hentry
    · cases heq
  · exact fun hentry => ⟨_, hentry, rfl⟩

namespace Dialogue

/-- What holds throughout a dialogue whose sends are alone: while a send waits for its
acknowledgement, the only diagnostic message on its way is its own, and a positive acknowledgement
on its way acknowledges it. -/
structure Sound (d : Dialogue) : Prop where
  waits : d.client.Waits
  numbered : d.client.Numbered
  expected : ∀ b, d.client.inner.activeRequest = some (.awaitAck b) →
    ∃ message, d.client.requests[b]? = some (.sendDiagnosticMessage message) ∧
      (∀ p ∈ d.toPeer, p.2.userData ≠ none → p = (some b, message)) ∧
      ∀ m ∈ d.toClient, m.isPositiveAck = true →
        { request := some b, message, ack := m } ∈ d.acknowledged
  accepted : d.SendsAccepted

section
variable {target : Target} {d d' : Dialogue} {a : Action}

/-- A step that leaves the task alone keeps the invariant: the active request, the log and the
requests that were taken are as before. -/
theorem Sound.idle {w : World} (hd : d.Sound) (hwaits : w.Waits) (hsame : SameTask d.client w) :
    Sound { d with client := w } := by
  have hnum := hd.numbered.idle hsame
  have hrequests : ∀ b < d.client.taken, w.requests[b]? = d.client.requests[b]? := fun b hb =>
    World.request_mono hsame.requests (hb.trans_le hd.numbered.taken)
  refine ⟨hwaits, hnum, ?_, ?_⟩
  · intro b hactive
    rw [hsame.inner] at hactive
    obtain ⟨message, hrequest, hrest⟩ := hd.expected b hactive
    have hb := hd.numbered.held b (by rw [Inner.held, hactive]; rfl)
    exact ⟨message, (hrequests b hb).trans hrequest, hrest⟩
  · intro b message hrequest hdone
    have hdone' : .did (.completed b (.done (.ok ()))) ∈ d.client.log := hsame.log ▸ hdone
    have hb := hd.numbered.effects _ b hdone' rfl
    exact hd.accepted b message ((hrequests b hb).symm.trans hrequest) hdone'

/-- Fewer messages in flight leave less to be said about them, so the invariant holds all the
more. -/
theorem Sound.mono {toPeer : List (Option Nat × OwnedMessage)} {toClient : List OwnedMessage}
    (hd : d.Sound) (hpeer : ∀ p ∈ toPeer, p ∈ d.toPeer) (hclient : ∀ m ∈ toClient, m ∈ d.toClient) :
    Sound { d with toPeer, toClient } := by
  refine ⟨hd.waits, hd.numbered, fun b hactive => ?_, hd.accepted⟩
  obtain ⟨message, hrequest, hpeer', hclient'⟩ := hd.expected b hactive
  exact ⟨message, hrequest, fun p hp => hpeer' p (hpeer p hp),
    fun m hm => hclient' m (hclient m hm)⟩

/-- **A turn of the client.** Where it takes a send, no other message is unacknowledged; where it
receives a positive acknowledgement while a send waits, that send was acknowledged. -/
theorem Sound.turn {env : Env} {branch : Branch} {select : Select}
    {r : EStateM.Result Panic Task Processed} (hd : d.Sound)
    (hwaits : (d.client.finish select r).Waits) (hselect : d.client.select branch = some select)
    (hturned : Turned target env d.client.inner select r)
    (halone : branch = .control → d.client.IsSend d.client.taken →
      (∀ p ∈ d.toPeer, p.2.userData = none) ∧ ∀ m ∈ d.toClient, m.isPositiveAck = false)
    (hreceived : ∀ m b, select = .socket (.ok m) → m.isPositiveAck = true →
      d.client.inner.activeRequest = some (.awaitAck b) → ∃ message,
        d.client.requests[b]? = some (.sendDiagnosticMessage message) ∧
        { request := some b, message, ack := m } ∈ d.acknowledged) :
    Sound { d with
      client := d.client.finish select r
      toPeer := d.toPeer ++ handedFor (select.entries ++ (resultTask r).effects.map .did) } := by
  refine ⟨hwaits, hd.numbered.turn hselect hturned, fun b hactive => ?_, ?_⟩
  · simp only [World.finish_inner, World.finish_requests] at hactive ⊢
    rcases hturned.awaits hactive with ⟨hbefore, hnone⟩ | ⟨message, rfl, honly⟩
    · obtain ⟨message, hrequest, hpeer, hclient⟩ := hd.expected b hbefore
      refine ⟨message, hrequest, fun p hp hdata => ?_, hclient⟩
      rcases List.mem_append.mp hp with hp | hp
      · exact hpeer p hp hdata
      · exact absurd (hnone _ _ (did_mem_new.mp (mem_handedFor.mp hp))) hdata
    · obtain ⟨rfl, request, hrequest, hcreate⟩ := World.select_control hselect
      obtain ⟨rfl, rfl⟩ : b = d.client.taken ∧ request = .sendDiagnosticMessage message := by
        cases request <;> cases hcreate
        exact ⟨rfl, rfl⟩
      obtain ⟨hpeer, hclient⟩ := halone rfl ⟨message, hrequest⟩
      refine ⟨message, hrequest, fun p hp hdata => ?_, fun m hm hpositive => ?_⟩
      · rcases List.mem_append.mp hp with hp | hp
        · exact absurd (hpeer p hp) hdata
        · obtain ⟨hfor, hmessage⟩ := honly _ _ (did_mem_new.mp (mem_handedFor.mp hp))
          exact Prod.ext hfor hmessage
      · rw [hclient m hm] at hpositive
        cases hpositive
  · intro b message hrequest hdone
    simp only [World.finish_requests, World.finish_log] at hrequest hdone
    rcases List.mem_append.mp hdone with hdone | hdone
    · exact hd.accepted b message hrequest hdone
    · rcases hturned.succeeded (did_mem_new.mp hdone) with rfl | ⟨m, rfl, hpositive, hactive⟩
      · obtain ⟨-, request, hrequest', hcreate⟩ := World.select_control hselect
        obtain ⟨rfl, rfl⟩ : b = d.client.taken ∧ request = .unbindSocket := by
          cases request <;> cases hcreate
          exact ⟨rfl, rfl⟩
        rw [hrequest] at hrequest'
        cases hrequest'
      · obtain ⟨message', hrequest', hack⟩ := hreceived m b rfl hpositive hactive
        rw [hrequest] at hrequest'
        cases hrequest'
        exact ⟨m, hack, hpositive⟩

/-- A message is received on the socket branch, so a turn that takes a message in is one that the
dialogue delivers. -/
theorem branch_of_received {w : World} {branch : Branch} {m : OwnedMessage}
    (h : w.select branch = some (.socket (.ok m))) : branch = .socket (.message m) := by
  generalize hselect : Select.socket (.ok m) = select at h
  cases World.selected_of_select h with
  | deadline | control => cases hselect
  | @socket incoming =>
    cases incoming <;> cases hselect
    rfl

/-- What the log has grown by after a turn: what the turn took in, and then its effects. This is
what `clientStep` reads off as handed over. -/
theorem drop_finish_log (w : World) (select : Select) (r : EStateM.Result Panic Task Processed) :
    (w.finish select r).log.drop w.log.length =
      select.entries ++ (resultTask r).effects.map .did := by
  rw [World.finish_log, List.drop_left]

/-- **A step of the client** keeps the invariant, under two conditions on what the dialogue lets it
do. A diagnostic message is taken to be sent only while no other is on its way and no positive
acknowledgement is (`halone`). A positive acknowledgement it takes in while a send waits is one the
peer gave to that send (`hreceived`), which is why a successful send was accepted. -/
theorem Sound.clientStep (hd : d.Sound) (h : d.clientStep target a = some d')
    (halone : ∀ socketOpen connect, a = .turn .control socketOpen connect →
      d.client.IsSend d.client.taken →
      (∀ p ∈ d.toPeer, p.2.userData = none) ∧ ∀ m ∈ d.toClient, m.isPositiveAck = false)
    (hreceived : ∀ m socketOpen connect b, a = .turn (.socket (.message m)) socketOpen connect →
      m.isPositiveAck = true → d.client.inner.activeRequest = some (.awaitAck b) → ∃ message,
        d.client.requests[b]? = some (.sendDiagnosticMessage message) ∧
        { request := some b, message, ack := m } ∈ d.acknowledged) :
    d'.Sound := by
  obtain ⟨w, hstep, h⟩ := Option.bind_eq_some_iff.mp h
  have hwaits := hd.waits.step hstep
  -- nothing is lost by keeping what is in flight when a connection is replaced
  have hkept : Sound { d with
      client := w, toPeer := d.toPeer ++ handedFor (w.log.drop d.client.log.length) } := by
    cases World.step_cases hd.waits hstep with
    | idle hsame =>
      rw [hsame.log, List.drop_length]
      exact (hd.idle hwaits hsame).mono (fun p hp => by simpa [handedFor] using hp) fun _ h => h
    | @turned branch socketOpen connect select r hhead hselect hturned =>
      rw [drop_finish_log]
      refine hd.turn hwaits hselect hturned ?_ ?_
      · rintro rfl hsend
        exact halone socketOpen connect rfl hsend
      · rintro m b rfl hpositive hactive
        refine hreceived m socketOpen connect b ?_ hpositive hactive
        rw [branch_of_received hselect]
  split at h
  · cases h
    exact hkept.mono (fun p hp => (nomatch hp)) fun m hm => (nomatch hm)
  · cases h
    exact hkept

/-- The peer acknowledges the next message. While a send waits, that message is its own, so the
acknowledgement is recorded for it. -/
theorem Sound.acknowledge {request : Option Nat} {message : OwnedMessage}
    {toPeer : List (Option Nat × OwnedMessage)} {userData : List UInt8} (hd : d.Sound)
    (htoPeer : d.toPeer = (request, message) :: toPeer) (hdata : message.userData = some userData)
    (ack : OwnedMessage) :
    Sound { d with
      toPeer, toClient := d.toClient ++ [ack]
      acknowledged := d.acknowledged ++ [{ request, message, ack }] } := by
  refine ⟨hd.waits, hd.numbered, fun b hactive => ?_, fun b message' hrequest hdone => ?_⟩
  · obtain ⟨message', hrequest, hpeer, hclient⟩ := hd.expected b hactive
    rw [htoPeer] at hpeer
    refine ⟨message', hrequest, fun p hp => hpeer p (List.mem_cons_of_mem _ hp), ?_⟩
    intro m hm hpositive
    rcases List.mem_append.mp hm with hm | hm
    · exact List.mem_append_left _ (hclient m hm hpositive)
    · cases List.mem_singleton.mp hm
      have hown := hpeer (request, message) List.mem_cons_self (by rw [hdata]; nofun)
      cases hown
      exact List.mem_append_right _ (List.mem_singleton.mpr rfl)
  · obtain ⟨ack', hack, hpositive⟩ := hd.accepted b message' hrequest hdone
    exact ⟨ack', List.mem_append_left _ hack, hpositive⟩

/-- The peer sends something that is no acknowledgement, which no waiting send takes for one. -/
theorem Sound.send {m : OwnedMessage} (hd : d.Sound) (hnot : ¬ m.isAck = true) :
    Sound { d with toClient := d.toClient ++ [m] } := by
  refine ⟨hd.waits, hd.numbered, fun b hactive => ?_, hd.accepted⟩
  obtain ⟨message, hrequest, hpeer, hclient⟩ := hd.expected b hactive
  refine ⟨message, hrequest, hpeer, fun m' hm' hpositive => ?_⟩
  rcases List.mem_append.mp hm' with hm' | hm'
  · exact hclient m' hm' hpositive
  · cases List.mem_singleton.mp hm'
    exact absurd (Message.isAck_of_isPositiveAck hpositive) hnot

/-- **An event of a dialogue** whose sends are alone keeps the invariant. A delivery meets the
second condition of `clientStep` because the message was in flight, and an acknowledgement is the
waiting send's because no other diagnostic message was on its way. -/
theorem Sound.step {e : Event} (hd : d.Sound) (halone : d.SendsAlone e)
    (h : d.step target e = some d') : d'.Sound := by
  cases e with
  | client action =>
    rw [Dialogue.step.eq_def] at h
    split at h
    · cases h
    · next action' hnot heq =>
      cases heq
      refine hd.clientStep h ?_ ?_
      · rintro socketOpen connect rfl
        exact halone
      · rintro m socketOpen connect b rfl
        exact absurd rfl (hnot m socketOpen connect)
    all_goals cases ‹Event.client _ = _›
  | deliver socketOpen connect =>
    simp only [Dialogue.step] at h
    split at h
    · cases h
    · next m toClient htoClient =>
      have hrest : Sound { d with toClient } := hd.mono (fun _ hp => hp) fun m' hm' => by
        rw [htoClient]
        exact List.mem_cons_of_mem _ hm'
      refine hrest.clientStep h (fun _ _ heq => by cases heq) ?_
      intro m' socketOpen' connect' b heq hpositive hactive
      cases heq
      obtain ⟨message, hrequest, -, hclient⟩ := hd.expected b hactive
      refine ⟨message, hrequest, hclient m ?_ hpositive⟩
      rw [htoClient]
      exact List.mem_cons_self
  | acknowledge ack =>
    simp only [Dialogue.step] at h
    split at h
    · cases h
    · next request message toPeer htoPeer =>
      split at h
      · cases h
      · next userData hdata =>
        split at h
        · cases h
          exact hd.acknowledge htoPeer hdata ack
        · cases h
  | passOver =>
    simp only [Dialogue.step] at h
    split at h
    · cases h
    · next toPeer htoPeer =>
      split at h
      · cases h
        refine hd.mono (fun p hp => ?_) fun _ hm => hm
        rw [htoPeer]
        exact List.mem_cons_of_mem _ hp
      · cases h
  | send m =>
    simp only [Dialogue.step] at h
    split at h
    · cases h
    · next hnot =>
      cases h
      exact hd.send hnot

end

end Dialogue

/-- **An acknowledged send was accepted.** In every dialogue in which a diagnostic message is sent
only while no other is unacknowledged, a send that has succeeded was processed by the peer and
acknowledged positively. -/
theorem accepted_sends {target : Target} {options : ClientOptions} {events : List Dialogue.Event}
    {d : Dialogue} (hrun : run (Dialogue.step target) (Dialogue.start options) events = some d)
    (halone : Along (Dialogue.step target) Dialogue.SendsAlone (Dialogue.start options) events) :
    d.SendsAccepted := by
  have hstart : (Dialogue.start options).Sound :=
    ⟨fun _ => .none, ⟨fun _ _ h => (nomatch h), fun _ h => (nomatch h), Nat.le_refl 0⟩,
      fun _ h => (nomatch h), fun _ _ _ h => (nomatch h)⟩
  exact (run_invariant_along (fun d e d' halone hstep hd => Dialogue.Sound.step hd halone hstep)
    halone hrun hstart).accepted

/-- The client connects and sends one message, which is then in flight to the peer. -/
def firstSend : List Dialogue.Event :=
  (issueAndTake (.bindSocket ⟨13400⟩) ++ issueAndTake (.sendDiagnosticMessage
    (diagnosticFrom 0x0E00 0x0001 [0x22, 0xF1, 0x90]))).map .client

/-- The positive acknowledgement of the message in `firstSend`, with the echo of its user data. -/
def firstAck : OwnedMessage where
  header := Header.new .v2012 .diagnosticMessagePositiveAcknowledge 8
  payload := .diagnosticMessageAck {
    sourceAddress := ⟨0x0001⟩, targetAddress := ⟨0x0E00⟩,
    ackCode := .routingConfirmationAck, previousMessageData := [0x22, 0xF1, 0x90] }

/-- The acknowledgement of the first message comes after its deadline, when a second message has
been sent. -/
def lateAckRun : List Dialogue.Event :=
  firstSend ++ ([.wait (2 * 10 ^ 9), .turn .deadline true (.ok ())].map .client ++
    ((issueAndTake (.sendDiagnosticMessage (diagnosticFrom 0x0E00 0x0001 [0x3E, 0x00]))).map
      .client ++ [.acknowledge firstAck, .deliver true (.ok ())]))

/-- The second send succeeds on the acknowledgement of the first, before the peer has seen it. -/
theorem late_ack_accepts_next_send :
    ∃ d, run (Dialogue.step releaseTarget) (Dialogue.start testerOptions) lateAckRun = some d ∧
      d.client.requests[2]? =
        some (.sendDiagnosticMessage (diagnosticFrom 0x0E00 0x0001 [0x3E, 0x00])) ∧
      .did (.completed 2 (.done (.ok ()))) ∈ d.client.log ∧
      d.toPeer = [(some 2, diagnosticFrom 0x0E00 0x0001 [0x3E, 0x00])] ∧ ¬ d.SendsAccepted := by
  have h : ∃ d, run (Dialogue.step releaseTarget) (Dialogue.start testerOptions) lateAckRun =
        some d ∧
      d.client.requests[2]? =
        some (.sendDiagnosticMessage (diagnosticFrom 0x0E00 0x0001 [0x3E, 0x00])) ∧
      d.client.log.getLast? = some (.did (.completed 2 (.done (.ok ())))) ∧
      d.toPeer = [(some 2, diagnosticFrom 0x0E00 0x0001 [0x3E, 0x00])] ∧
      d.acknowledged.map (·.request) = [some 1] := ⟨_, rfl, rfl, rfl, rfl, rfl⟩
  obtain ⟨d, hrun, hrequest, hlast, htoPeer, hacknowledged⟩ := h
  have hdone := List.mem_of_getLast? hlast
  refine ⟨d, hrun, hrequest, hdone, htoPeer, fun haccepted => ?_⟩
  obtain ⟨ack, hack, -⟩ := haccepted 2 _ hrequest hdone
  have hmem := List.mem_map_of_mem (f := (·.request)) hack
  rw [hacknowledged] at hmem
  cases List.mem_singleton.mp hmem

/-- A send that is acknowledged in time was accepted: in this run it is the only one, and its
acknowledgement comes before its deadline. -/
theorem accepted_sends_in_time :
    ∃ d, run (Dialogue.step releaseTarget) (Dialogue.start testerOptions)
        (firstSend ++ [.acknowledge firstAck, .deliver true (.ok ())]) = some d ∧
      .did (.completed 1 (.done (.ok ()))) ∈ d.client.log ∧ d.SendsAccepted := by
  have halone : Along (Dialogue.step releaseTarget) Dialogue.SendsAlone
      (Dialogue.start testerOptions)
      (firstSend ++ [.acknowledge firstAck, .deliver true (.ok ())]) := by
    have hquiet : ∀ d : Dialogue, d.toPeer = [] → d.toClient = [] →
        d.SendsAlone (.client (.turn .control true (.ok ()))) := by
      intro d htoPeer htoClient _
      rw [htoPeer, htoClient]
      exact ⟨List.forall_mem_nil _, List.forall_mem_nil _⟩
    exact along_cons trivial rfl <| along_cons (hquiet _ rfl rfl) rfl <|
      along_cons trivial rfl <| along_cons (hquiet _ rfl rfl) rfl <|
      along_cons trivial rfl <| along_cons trivial rfl trivial
  have h : ∃ d, run (Dialogue.step releaseTarget) (Dialogue.start testerOptions)
        (firstSend ++ [.acknowledge firstAck, .deliver true (.ok ())]) = some d ∧
      d.client.log.getLast? = some (.did (.completed 1 (.done (.ok ())))) := ⟨_, rfl, rfl⟩
  obtain ⟨d, hrun, hlast⟩ := h
  exact ⟨d, hrun, List.mem_of_getLast? hlast, accepted_sends hrun halone⟩

end SimpleDoip
