import SimpleDoip.Session.ClientSide
import SimpleDoip.Session.InFlight

/-!
# The phases of an exchange

A session is a list of exchanges. `Joint` is the joint invariant of user, client, channels and
entity: it has one constructor for each phase an exchange goes through, and says where the messages
of the exchange are. A move goes on within a phase (`SameEnds`) or leads from one phase to the next
(`Advances`), and then it uses up some of `Network.cost`.
-/

namespace SimpleDoip

open Framing Transition

section
variable {ι : Type} [WireCodec ι] {π : Type}

/-! ## The plan of a session -/

/-- No request from `id` on has an answer. The requests of a session are numbered as they are
issued, so this covers all that are still to come. -/
def Unanswered (log : List Entry) (id : Nat) : Prop := ∀ r, id ≤ r → answerTo log r = none

/-- Entries that answer nothing from `id` on leave everything from there unanswered. -/
theorem Unanswered.append {log new : List Entry} {id : Nat} (h : Unanswered log id)
    (hnew : Unanswered new id) : Unanswered (log ++ new) id := by
  intro r hr
  rw [answerTo_append, h r hr, hnew r hr]
  rfl

/-- The entry that answers `id` answers nothing else, so everything from the next number on is still
unanswered. -/
theorem Unanswered.answer {log : List Entry} {id : Nat} (h : Unanswered log id) (e : Entry)
    (he : Unanswered [e] id) (a : Answer) :
    answerTo (log ++ [e, .did (.completed id a)]) id = some a ∧
      Unanswered (log ++ [e, .did (.completed id a)]) (id + 1) := by
  have hsplit : log ++ [e, .did (.completed id a)] = (log ++ [e]) ++ [.did (.completed id a)] := by
    rw [List.append_assoc]
    rfl
  have hbefore := h.append he
  rw [hsplit]
  constructor
  · rw [answerTo_append, hbefore id (Nat.le_refl id), answerTo_completed, if_pos rfl]
    rfl
  · intro r hr
    rw [answerTo_append, hbefore r (by omega), answerTo_completed, if_neg (by omega)]
    rfl

/-- The results of the two calls of an exchange that is answered with `response`: the send is
acknowledged, and the receive returns the response as the client's codec reads it. -/
def exchangeResults (ι : Type) [WireCodec ι] (own tester : UInt16) (response : List UInt8) :
    List Answer :=
  [.done (.ok ()), .message (.ok ((Reply.response response).message (ι := ι) own tester))]

/-- The client's address, as the entity knows its tester: what it names itself in every message it
sends. -/
def Setting.tester (c : Setting) : UInt16 := c.options.clientLogicalAddress.value

/-- What the rest of a session relies on: the requests fit and go to the entity, every deadline can
be represented, the entity serves the client, and its platform answers the requests. -/
structure Planned (ι : Type) [WireCodec ι] (c : Setting) (own : UInt16) (exchanges : List Exchange)
    (responses : List (List UInt8)) (y : Session π × Platform π) : Prop where
  fits : ∀ x ∈ exchanges, x.Fits
  addressed : ∀ x ∈ exchanges, c.options.serverAddress x.addressType = ⟨own⟩
  sendTime : c.horizon + c.options.diagnosticMessageTimeout ≤ c.target.maxInstant
  receiveTime : ∀ x ∈ exchanges, c.horizon + x.timeout ≤ c.target.maxInstant
  tester : y.1.activeTester = some c.tester
  own : y.1.ownAddress = own
  answers : Answers (ι := ι) c.tester y (exchanges.map Exchange.userData) responses

section
variable {c : Setting} {own : UInt16} {x : Exchange} {xs : List Exchange} {r : List UInt8}
  {rs : List (List UInt8)} {y : Session π × Platform π}

theorem Planned.answered (h : Planned ι c own (x :: xs) (r :: rs) y) :
    AnswersWith (ι := ι) c.tester x.userData r y := h.answers.1

/-- The plan of the exchanges behind the first one. It holds of the session as the first one leaves
it, which has the same tester and the same address. -/
theorem Planned.tail (h : Planned ι c own (x :: xs) (r :: rs) y) :
    Planned ι c own xs rs (dispatch (ι := ι) c.tester x.userData y) where
  fits x hx := h.fits x (List.mem_cons_of_mem _ hx)
  addressed x hx := h.addressed x (List.mem_cons_of_mem _ hx)
  sendTime := h.sendTime
  receiveTime x hx := h.receiveTime x (List.mem_cons_of_mem _ hx)
  tester := (dispatch_activeTester _ _ _).trans h.tester
  own := (dispatch_ownAddress _ _ _).trans h.own
  answers := h.answers.2

theorem Planned.exists_response {rs : List (List UInt8)} (h : Planned ι c own (x :: xs) rs y) :
    ∃ r rs', rs = r :: rs' := by
  cases rs with
  | nil => exact h.answers.elim
  | cons r rs' => exact ⟨r, rs', rfl⟩

end

/-! ## The joint invariant -/

section
variable (ι) (c : Setting) (cb : Callbacks π) (own : UInt16)

/-- The response of an exchange is on its way, or in the client's buffer. It can overtake the call
for it, and is kept there until then. -/
def Mail (net : Network π) (pending : Option OwnedMessage) (response : List UInt8) : Prop :=
  pending = none ∧ Inbound ι own c.tester net [.response response] ∨
  pending = some ((Reply.response response).message (ι := ι) own c.tester) ∧
    Inbound ι own c.tester net []

/-- The two ends of a session: the user, the client with every request from `unanswered` on
unanswered, and the entity. -/
structure Ends (net : Network π) (user : User) (active : Option ControlMessage)
    (pending : Option OwnedMessage) (queue : List Request) (taken room unanswered : Nat)
    (y : Session π × Platform π) : Prop where
  user : net.user = user
  client : c.ClientAt net.client active pending queue taken room
  log : Unanswered net.client.log unanswered
  entity : EntityAt cb net.entity net.platform y

/-- The phases of an exchange `x` that is answered with `r`. Its two requests have the numbers `id`
and `id + 1`, `past` are the results of the exchanges before it, `xs` the exchanges behind it, and
`y` is the entity's session as the exchange finds it. -/
inductive Busy (net : Network π) (id : Nat) (past : List Answer) (x : Exchange)
    (xs : List Exchange) (r : List UInt8) (y : Session π × Platform π) : Prop where
  /-- The send is in the control channel, and the client has not taken it. -/
  | sendIssued
      (hends : Ends c cb net
        ⟨.receiveDiagnosticResponse x.timeout :: xs.flatMap Exchange.calls, some id, past⟩
        none none [.sendDiagnosticMessage (x.message c.options)] id (xs.length + 1) id y)
      (hcargo : Inbound ι own c.tester net [])
  /-- Its message is in the channel to the socket task, and the client awaits the
  acknowledgement. -/
  | sendOut
      (hends : Ends c cb net
        ⟨.receiveDiagnosticResponse x.timeout :: xs.flatMap Exchange.calls, some id, past⟩
        (some (.awaitAck id)) none [] (id + 1) xs.length id y)
      (hcargo : Outbound net (x.message c.options))
  /-- Its frame is on the wire, or partly in the entity's buffer. -/
  | sendArriving
      (hends : Ends c cb net
        ⟨.receiveDiagnosticResponse x.timeout :: xs.flatMap Exchange.calls, some id, past⟩
        (some (.awaitAck id)) none [] (id + 1) xs.length id y)
      (hcargo : Arriving net ((x.rawFrame c.options).wire (ι := ι)))
  /-- The entity has served it, and both replies are on their way. -/
  | sendServed
      (hends : Ends c cb net
        ⟨.receiveDiagnosticResponse x.timeout :: xs.flatMap Exchange.calls, some id, past⟩
        (some (.awaitAck id)) none [] (id + 1) xs.length id
        (dispatch (ι := ι) c.tester x.userData y))
      (hcargo : Inbound ι own c.tester net [.ack, .response r])
  /-- The acknowledgement has come and the send is answered. The response is on its way, or has come
  already. -/
  | sendAnswered {pending : Option OwnedMessage}
      (hends : Ends c cb net
        ⟨.receiveDiagnosticResponse x.timeout :: xs.flatMap Exchange.calls, some id, past⟩
        none pending [] (id + 1) xs.length (id + 1) (dispatch (ι := ι) c.tester x.userData y))
      (hanswer : answerTo net.client.log id = some (.done (.ok ())))
      (hmail : Mail ι c own net pending r)
  /-- The user knows that the send was acknowledged, and has not called for the response yet. -/
  | sendReturned {pending : Option OwnedMessage}
      (hends : Ends c cb net
        ⟨.receiveDiagnosticResponse x.timeout :: xs.flatMap Exchange.calls, none,
          past ++ [.done (.ok ())]⟩
        none pending [] (id + 1) xs.length (id + 1) (dispatch (ι := ι) c.tester x.userData y))
      (hmail : Mail ι c own net pending r)
  /-- The receive is in the control channel, and the client has not taken it. -/
  | receiveIssued {pending : Option OwnedMessage}
      (hends : Ends c cb net
        ⟨xs.flatMap Exchange.calls, some (id + 1), past ++ [.done (.ok ())]⟩
        none pending [.receiveDiagnosticResponse x.timeout] (id + 1) xs.length (id + 1)
        (dispatch (ι := ι) c.tester x.userData y))
      (hmail : Mail ι c own net pending r)
  /-- The receive was taken before the response came, and waits for it. -/
  | receiveWaits
      (hends : Ends c cb net
        ⟨xs.flatMap Exchange.calls, some (id + 1), past ++ [.done (.ok ())]⟩
        (some (.awaitResponse OwnedMessage.default (id + 1))) none [] (id + 2) xs.length (id + 1)
        (dispatch (ι := ι) c.tester x.userData y))
      (hcargo : Inbound ι own c.tester net [.response r])
  /-- The receive is answered with the response, and the user has yet to be told. -/
  | receiveAnswered
      (hends : Ends c cb net
        ⟨xs.flatMap Exchange.calls, some (id + 1), past ++ [.done (.ok ())]⟩
        none none [] (id + 2) xs.length (id + 2) (dispatch (ι := ι) c.tester x.userData y))
      (hanswer : answerTo net.client.log (id + 1) =
        some (.message (.ok ((Reply.response r).message (ι := ι) own c.tester))))
      (hcargo : Inbound ι own c.tester net [])

/-- The joint invariant of a session with `exchanges` to go: it is between two exchanges, or in one
of the phases of the first of them. -/
inductive Joint (net : Network π) (id : Nat) (past : List Answer) :
    List Exchange → List (List UInt8) → Session π × Platform π → Prop where
  | idle {xs : List Exchange} {rs : List (List UInt8)} {y : Session π × Platform π}
      (hends : Ends c cb net ⟨xs.flatMap Exchange.calls, none, past⟩ none none [] id xs.length id y)
      (hcargo : Inbound ι own c.tester net []) : Joint net id past xs rs y
  | busy {x : Exchange} {xs : List Exchange} {r : List UInt8} {rs : List (List UInt8)}
      {y : Session π × Platform π} (h : Busy ι c cb own net id past x xs r y) :
      Joint net id past (x :: xs) (r :: rs) y

end

/-- What the bytes on their way to the entity have before them, the replies to them included. -/
def uplinkCost (uplink : List UInt8) : Nat := if uplink = [] then 0 else uplink.length + 2098

/-- What a network has before it, weighted so that every move uses some of it up: a call is worth
more than a request in the control channel, that more than a message in the channel to the socket,
that more than its bytes and the bytes of the replies to it, and so on to the client. -/
def Network.cost (net : Network π) : Nat :=
  5001 * net.user.todo.length + net.user.awaiting.toList.length +
  4999 * (net.client.requests.length - net.client.taken) + 4998 * net.toSocket.length +
  uplinkCost net.uplink + 2 * net.downlink.length + net.readBuffer.length + net.fromSocket.length

section
variable {c : Setting} {cb : Callbacks π} {own : UInt16} {net net' : Network π} {id : Nat}
  {past : List Answer} {x : Exchange} {xs : List Exchange} {r : List UInt8}
  {rs : List (List UInt8)} {y : Session π × Platform π}

/-! ## Moves within a phase -/

/-- Two networks that differ in the time and in how far the messages in flight have come. -/
structure SameEnds (ι : Type) [WireCodec ι] (c : Setting) (own : UInt16) (net net' : Network π) :
    Prop where
  user : net'.user = net.user
  entity : net'.entity = net.entity
  platform : net'.platform = net.platform
  log : net'.client.log = net.client.log
  client : ∀ {active pending queue taken room},
    c.ClientAt net.client active pending queue taken room →
    c.ClientAt net'.client active pending queue taken room
  inbound : ∀ {replies : List Reply}, (∀ reply ∈ replies, reply.Fits) →
    Inbound ι own c.tester net replies → Inbound ι own c.tester net' replies
  outbound : ∀ {m}, Outbound net m → Outbound net' m
  arriving : ∀ {wire}, Arriving net wire → Arriving net' wire

theorem fits_nil : ∀ reply ∈ ([] : List Reply), reply.Fits := fun _ h => nomatch h

theorem fits_response (hr : r.length ≤ UDS_RESP_CAP) :
    ∀ reply ∈ [Reply.response r], reply.Fits := by
  intro reply h
  rw [List.mem_singleton.mp h]
  exact hr

theorem fits_replies (hr : r.length ≤ UDS_RESP_CAP) :
    ∀ reply ∈ [Reply.ack, .response r], reply.Fits := by
  intro reply h
  rcases List.mem_cons.mp h with rfl | h
  · trivial
  · exact fits_response hr reply h

theorem Mail.toSocket {pending : Option OwnedMessage} (h : Mail ι c own net pending r) :
    net.toSocket = [] := by
  rcases h with ⟨-, hcargo⟩ | ⟨-, hcargo⟩
  · exact hcargo.toSocket
  · exact hcargo.toSocket

theorem Mail.uplink {pending : Option OwnedMessage} (h : Mail ι c own net pending r) :
    net.uplink = [] := by
  rcases h with ⟨-, hcargo⟩ | ⟨-, hcargo⟩
  · exact hcargo.uplink
  · exact hcargo.uplink

theorem Mail.ofEnds {pending : Option OwnedMessage} (h : Mail ι c own net pending r) (user : User)
    (client : World) : Mail ι c own { net with user, client } pending r := by
  rcases h with ⟨hpending, hcargo⟩ | ⟨hpending, hcargo⟩
  · exact .inl ⟨hpending, hcargo.ofEnds user client⟩
  · exact .inr ⟨hpending, hcargo.ofEnds user client⟩

theorem Mail.sameEnds {pending : Option OwnedMessage} (h : Mail ι c own net pending r)
    (hsame : SameEnds ι c own net net') (hr : r.length ≤ UDS_RESP_CAP) :
    Mail ι c own net' pending r := by
  rcases h with ⟨hpending, hcargo⟩ | ⟨hpending, hcargo⟩
  · exact .inl ⟨hpending, hsame.inbound (fits_response hr) hcargo⟩
  · exact .inr ⟨hpending, hsame.inbound fits_nil hcargo⟩

theorem Ends.sameEnds {user : User} {active : Option ControlMessage}
    {pending : Option OwnedMessage} {queue : List Request} {taken room unanswered : Nat}
    (h : Ends c cb net user active pending queue taken room unanswered y)
    (hsame : SameEnds ι c own net net') :
    Ends c cb net' user active pending queue taken room unanswered y where
  user := hsame.user.trans h.user
  client := hsame.client h.client
  log := by
    rw [hsame.log]
    exact h.log
  entity := by
    rw [hsame.entity, hsame.platform]
    exact h.entity

theorem Busy.sameEnds (h : Busy ι c cb own net id past x xs r y)
    (hsame : SameEnds ι c own net net') (hr : r.length ≤ UDS_RESP_CAP) :
    Busy ι c cb own net' id past x xs r y := by
  cases h with
  | sendIssued hends hcargo =>
    exact .sendIssued (hends.sameEnds hsame) (hsame.inbound fits_nil hcargo)
  | sendOut hends hcargo => exact .sendOut (hends.sameEnds hsame) (hsame.outbound hcargo)
  | sendArriving hends hcargo => exact .sendArriving (hends.sameEnds hsame) (hsame.arriving hcargo)
  | sendServed hends hcargo =>
    exact .sendServed (hends.sameEnds hsame) (hsame.inbound (fits_replies hr) hcargo)
  | sendAnswered hends hanswer hmail =>
    rw [← hsame.log] at hanswer
    exact .sendAnswered (hends.sameEnds hsame) hanswer (hmail.sameEnds hsame hr)
  | sendReturned hends hmail =>
    exact .sendReturned (hends.sameEnds hsame) (hmail.sameEnds hsame hr)
  | receiveIssued hends hmail =>
    exact .receiveIssued (hends.sameEnds hsame) (hmail.sameEnds hsame hr)
  | receiveWaits hends hcargo =>
    exact .receiveWaits (hends.sameEnds hsame) (hsame.inbound (fits_response hr) hcargo)
  | receiveAnswered hends hanswer hcargo =>
    rw [← hsame.log] at hanswer
    exact .receiveAnswered (hends.sameEnds hsame) hanswer (hsame.inbound fits_nil hcargo)

theorem Joint.sameEnds (h : Joint ι c cb own net id past xs rs y) (hplan : Planned ι c own xs rs y)
    (hsame : SameEnds ι c own net net') : Joint ι c cb own net' id past xs rs y := by
  cases h with
  | idle hends hcargo => exact .idle (hends.sameEnds hsame) (hsame.inbound fits_nil hcargo)
  | busy h => exact .busy (h.sameEnds hsame hplan.answered.cap)

/-- Either nothing is on its way to the client, or replies are and nothing else. This is all the
decoder has to know of the phase. -/
theorem Joint.inFlight (h : Joint ι c cb own net id past xs rs y)
    (hplan : Planned ι c own xs rs y) :
    NothingInbound net ∨ ∃ replies : List Reply, (∀ reply ∈ replies, reply.Fits) ∧
      Inbound ι own c.tester net replies := by
  cases h with
  | idle hends hcargo => exact .inl hcargo.nothing
  | busy h =>
    have hr := hplan.answered.cap
    cases h with
    | sendIssued hends hcargo => exact .inl hcargo.nothing
    | sendOut hends hcargo => exact .inl hcargo.toNothingInbound
    | sendArriving hends hcargo => exact .inl hcargo.toNothingInbound
    | sendServed hends hcargo => exact .inr ⟨_, fits_replies hr, hcargo⟩
    | sendAnswered hends hanswer hmail | sendReturned hends hmail | receiveIssued hends hmail =>
      rcases hmail with ⟨-, hcargo⟩ | ⟨-, hcargo⟩
      · exact .inr ⟨_, fits_response hr, hcargo⟩
      · exact .inl hcargo.nothing
    | receiveWaits hends hcargo => exact .inr ⟨_, fits_response hr, hcargo⟩
    | receiveAnswered hends hanswer hcargo => exact .inl hcargo.nothing

theorem sameEnds_wait {d : Nat} (hd : net.client.clock + d ≤ c.horizon) :
    SameEnds ι c own net
      { net with client := { net.client with clock := net.client.clock + d } } where
  user := rfl
  entity := rfl
  platform := rfl
  log := rfl
  client h := h.wait hd
  inbound _ h := ⟨h.toSocket, h.uplink, h.residue, h.stream⟩
  outbound h := ⟨⟨h.downlink, h.readBuffer, h.fromSocket⟩, h.toSocket, h.uplink, h.residue⟩
  arriving h := ⟨⟨h.downlink, h.readBuffer, h.fromSocket⟩, h.toSocket, h.uplink, h.wire⟩

theorem sameEnds_read {n : Nat} (hn : 0 < n ∧ n ≤ net.downlink.length) :
    SameEnds ι c own net { net with
      readBuffer := net.readBuffer ++ net.downlink.take n, downlink := net.downlink.drop n } := by
  have hne : net.downlink ≠ [] := by
    intro hnil
    rw [hnil] at hn
    exact absurd hn.2 (Nat.not_le_of_lt hn.1)
  exact {
    user := rfl, entity := rfl, platform := rfl, log := rfl
    client := fun h => h
    inbound := fun _ h => h.read n
    outbound := fun h => absurd h.downlink hne
    arriving := fun h => absurd h.downlink hne }

/-- What the decoder does where it goes on: it takes the next reply off the read buffer and queues
its message for the client. Within the phase nothing else changes. -/
theorem Joint.decode_cases (h : Joint ι c cb own net id past xs rs y)
    (hplan : Planned ι c own xs rs y)
    (hstep : net.step ι c.target c.horizon .decode = some net') :
    ∃ (reply : Reply) (rest : List UInt8),
      net.readBuffer = reply.frame (ι := ι) own c.tester ++ rest ∧
      net' = { net with
        readBuffer := rest
        fromSocket := net.fromSocket ++ [reply.message (ι := ι) own c.tester] } ∧
      SameEnds ι c own net net' := by
  by_cases hroom : net.fromSocket.length < SOCKET_CHANNEL_CAP
  · rcases h.inFlight hplan with hnothing | ⟨replies, hfits, hcargo⟩
    · have hdecode : MessageCodec.decode (ι := ι) net.readBuffer = some (.ok none, []) := by
        rw [hnothing.readBuffer]
        exact MessageCodec.decode_more rfl
      rw [Network.step_decode_none hdecode] at hstep
      cases hstep
    · rcases hcargo.decode hfits with hdecode | ⟨reply, rest, hfit, hbuffer, hdecode, hcargo'⟩
      · rw [Network.step_decode_none hdecode] at hstep
        cases hstep
      · rw [Network.step_decode hroom hdecode] at hstep
        cases hstep
        refine ⟨reply, rest, hbuffer, rfl, ?_⟩
        have hne : net.readBuffer ≠ [] := by
          intro hnil
          rw [hnil] at hbuffer
          have hlen := congrArg List.length hbuffer
          rw [List.length_append, Reply.length_frame, List.length_nil] at hlen
          omega
        exact {
          user := rfl, entity := rfl, platform := rfl, log := rfl
          client := fun h => h
          inbound := by
            intro replies' hfits' h'
            rcases h'.decode hfits' with hnone | ⟨reply', rest', -, -, hdecode', hcargo''⟩
            · rw [hdecode] at hnone
              cases hnone
            · rw [hdecode] at hdecode'
              simp only [Option.some.injEq, Prod.mk.injEq, Except.ok.injEq] at hdecode'
              obtain ⟨hmessage, rfl⟩ := hdecode'
              rwa [← hmessage] at hcargo''
          outbound := fun h => absurd h.readBuffer hne
          arriving := fun h => absurd h.readBuffer hne }
  · rw [Network.step_decode_full hroom] at hstep
    cases hstep

/-! ## Moves from phase to phase -/

/-- A move can be made and keeps to the exchange: it ends in one of its phases, with the connection
up, and has used up some of the cost. -/
def Advances (ι : Type) [WireCodec ι] (c : Setting) (cb : Callbacks π) (own : UInt16)
    (net : Network π) (move : Move) (id : Nat) (past : List Answer) (xs : List Exchange)
    (rs : List (List UInt8)) (y : Session π × Platform π) : Prop :=
  ∃ net', net.step ι c.target c.horizon move = some net' ∧ Joint ι c cb own net' id past xs rs y ∧
    net'.link = .up ∧ net'.cost < net.cost

section
variable {user : User} {active : Option ControlMessage} {pending : Option OwnedMessage}
  {queue : List Request} {taken room unanswered : Nat}

/-- The user calls for the next exchange: the send goes to the control channel, and the exchange
enters its first phase. -/
theorem Ends.callSend
    (hends : Ends c cb net ⟨(x :: xs).flatMap Exchange.calls, none, past⟩ none none [] id
      (xs.length + 1) id y)
    (hcargo : Inbound ι own c.tester net []) (hfits : x.Fits) (hlink : net.link = .up) :
    Advances ι c cb own net .call id past (x :: xs) (r :: rs) y := by
  obtain ⟨w', hissue, hlen, hclient, hlog⟩ :=
    hends.client.issue (.sendDiagnosticMessage (x.message c.options))
  have hrequest : (Call.sendDiagnosticMessage x.addressType x.userData).request ι
      net.client.inner.clientOptions = some (.sendDiagnosticMessage (x.message c.options)) := by
    rw [hends.client.options]
    exact Exchange.request_eq hfits
  have htodo : net.user.todo = .sendDiagnosticMessage x.addressType x.userData ::
      .receiveDiagnosticResponse x.timeout :: xs.flatMap Exchange.calls := by
    rw [hends.user]
    rfl
  refine ⟨_, Network.step_call (by rw [hends.user]) htodo hrequest hissue,
    .busy (.sendIssued ⟨?_, hclient, ?_, hends.entity⟩ (hcargo.ofEnds _ _)), hlink, ?_⟩
  · simp only [hends.user, hlen]
  · simp only [hlog]
    exact hends.log
  · simp only [Network.cost, hclient.backlog, hends.client.backlog, htodo, List.length_cons,
      List.length_nil, Option.toList_some]
    omega

/-- The user calls for the response, and the receive goes to the control channel. The response may
be in the client's buffer by then. -/
theorem Ends.callReceive
    (hends : Ends c cb net ⟨.receiveDiagnosticResponse x.timeout :: xs.flatMap Exchange.calls, none,
      past ++ [.done (.ok ())]⟩ none pending [] (id + 1) xs.length (id + 1)
      (dispatch (ι := ι) c.tester x.userData y))
    (hmail : Mail ι c own net pending r) (hlink : net.link = .up) :
    Advances ι c cb own net .call id past (x :: xs) (r :: rs) y := by
  obtain ⟨w', hissue, hlen, hclient, hlog⟩ :=
    hends.client.issue (.receiveDiagnosticResponse x.timeout)
  have htodo : net.user.todo =
      .receiveDiagnosticResponse x.timeout :: xs.flatMap Exchange.calls := by
    rw [hends.user]
  refine ⟨_, Network.step_call (by rw [hends.user]) htodo rfl hissue,
    .busy (.receiveIssued ⟨?_, hclient, ?_, hends.entity⟩ (hmail.ofEnds _ _)), hlink, ?_⟩
  · simp only [hends.user, hlen]
  · simp only [hlog]
    exact hends.log
  · simp only [Network.cost, hclient.backlog, hends.client.backlog, htodo, List.length_cons,
      List.length_nil, Option.toList_some]
    omega

/-- The answered send returns to the user, who has its result behind those of the exchanges
before. -/
theorem Ends.returnSend
    (hends : Ends c cb net ⟨.receiveDiagnosticResponse x.timeout :: xs.flatMap Exchange.calls,
      some id, past⟩ none pending [] (id + 1) xs.length (id + 1)
      (dispatch (ι := ι) c.tester x.userData y))
    (hanswer : answerTo net.client.log id = some (.done (.ok ())))
    (hmail : Mail ι c own net pending r) (hlink : net.link = .up) :
    Advances ι c cb own net .return id past (x :: xs) (r :: rs) y := by
  have hawaiting : net.user.awaiting = some id := by rw [hends.user]
  refine ⟨_, Network.step_return hawaiting hanswer,
    .busy (.sendReturned ⟨?_, hends.client, hends.log, hends.entity⟩ (hmail.ofEnds _ _)), hlink, ?_⟩
  · simp only [hends.user]
  · simp only [Network.cost, hawaiting, Option.toList_some, Option.toList_none, List.length_cons,
      List.length_nil]
    omega

/-- The answered receive returns to the user. That ends the exchange: the invariant holds again with
the exchange's results in the past and two more requests numbered. -/
theorem Ends.returnReceive
    (hends : Ends c cb net ⟨xs.flatMap Exchange.calls, some (id + 1), past ++ [.done (.ok ())]⟩
      none none [] (id + 2) xs.length (id + 2) (dispatch (ι := ι) c.tester x.userData y))
    (hanswer : answerTo net.client.log (id + 1) =
      some (.message (.ok ((Reply.response r).message (ι := ι) own c.tester))))
    (hcargo : Inbound ι own c.tester net []) (hlink : net.link = .up) :
    Advances ι c cb own net .return (id + 2) (past ++ exchangeResults ι own c.tester r) xs rs
      (dispatch (ι := ι) c.tester x.userData y) := by
  have hawaiting : net.user.awaiting = some (id + 1) := by rw [hends.user]
  refine ⟨_, Network.step_return hawaiting hanswer,
    .idle ⟨?_, hends.client, hends.log, hends.entity⟩ (hcargo.ofEnds _ _), hlink, ?_⟩
  · simp only [hends.user, exchangeResults, List.append_assoc, List.cons_append, List.nil_append]
  · simp only [Network.cost, hawaiting, Option.toList_some, Option.toList_none, List.length_cons,
      List.length_nil]
    omega

/-- The client takes the send, hands its message to the socket task, and awaits the
acknowledgement. -/
theorem Ends.takeSend
    (hends : Ends c cb net ⟨.receiveDiagnosticResponse x.timeout :: xs.flatMap Exchange.calls,
      some id, past⟩ none none [.sendDiagnosticMessage (x.message c.options)] id (xs.length + 1) id
      y)
    (hcargo : Inbound ι own c.tester net [])
    (htime : c.horizon + c.options.diagnosticMessageTimeout ≤ c.target.maxInstant)
    (hlink : net.link = .up) :
    Advances ι c cb own net .takeRequest id past (x :: xs) (r :: rs) y := by
  obtain ⟨w', hw, hclient, hlog⟩ := hends.client.takeSend htime (.ok ())
  have hto : net.toSocket ++ handedMessages
      [.taken id, .did (.handed (some id) (x.message c.options))] = [x.message c.options] := by
    rw [hcargo.toSocket]
    rfl
  have hroom : [x.message c.options].length ≤ SOCKET_CHANNEL_CAP := show 1 ≤ 16 by decide
  have hnew : Unanswered [.taken id, .did (.handed (some id) (x.message c.options))] id :=
    fun r _ => rfl
  have hstep := Network.turn_eq hlink hw hlog (by rw [hto]; exact hroom)
  rw [hto] at hstep
  refine ⟨_, hstep, .busy (.sendOut ⟨hends.user, hclient, ?_, hends.entity⟩ ⟨?_, rfl,
    hcargo.uplink, hcargo.residue⟩), hlink, ?_⟩
  · simp only [hlog]
    exact hends.log.append hnew
  · exact ⟨hcargo.nothing.downlink, hcargo.nothing.readBuffer, hcargo.nothing.fromSocket⟩
  · simp only [Network.cost, hclient.backlog, hends.client.backlog, hcargo.toSocket,
      List.length_cons, List.length_nil]
    omega

/-- The client takes the receive: it waits for the response, or finds it in the buffer and completes
with it. -/
theorem Ends.takeReceive
    (hends : Ends c cb net ⟨xs.flatMap Exchange.calls, some (id + 1), past ++ [.done (.ok ())]⟩
      none pending [.receiveDiagnosticResponse x.timeout] (id + 1) xs.length (id + 1)
      (dispatch (ι := ι) c.tester x.userData y))
    (hmail : Mail ι c own net pending r)
    (htime : c.horizon + x.timeout ≤ c.target.maxInstant) (hlink : net.link = .up) :
    Advances ι c cb own net .takeRequest id past (x :: xs) (r :: rs) y := by
  rcases hmail with ⟨rfl, hcargo⟩ | ⟨rfl, hcargo⟩
  · obtain ⟨w', hw, hclient, hlog⟩ := hends.client.takeReceive htime (.ok ())
    have hto : net.toSocket ++ handedMessages [.taken (id + 1)] = net.toSocket :=
      List.append_nil _
    have hnew : Unanswered [.taken (id + 1)] (id + 1) := fun r _ => rfl
    have hstep := Network.turn_eq hlink hw hlog (by rw [hto, hcargo.toSocket]; decide)
    rw [hto] at hstep
    refine ⟨_, hstep, .busy (.receiveWaits ⟨hends.user, hclient, ?_, hends.entity⟩
      (hcargo.ofEnds _ _)), hlink, ?_⟩
    · simp only [hlog]
      exact hends.log.append hnew
    · simp only [Network.cost, hclient.backlog, hends.client.backlog, List.length_cons,
        List.length_nil]
      omega
  · obtain ⟨w', hw, hclient, hlog⟩ := hends.client.takeReceiveStored (.ok ())
    have hto : net.toSocket ++ handedMessages [.taken (id + 1), .did (.completed (id + 1)
        (.message (.ok ((Reply.response r).message (ι := ι) own c.tester))))] = net.toSocket :=
      List.append_nil _
    obtain ⟨hanswer, hrest⟩ := hends.log.answer (.taken (id + 1)) (fun r _ => rfl)
      (.message (.ok ((Reply.response r).message (ι := ι) own c.tester)))
    have hstep := Network.turn_eq hlink hw hlog (by rw [hto, hcargo.toSocket]; decide)
    rw [hto] at hstep
    rw [← hlog] at hanswer hrest
    refine ⟨_, hstep, .busy (.receiveAnswered ⟨hends.user, hclient, hrest, hends.entity⟩ hanswer
      (hcargo.ofEnds _ _)), hlink, ?_⟩
    simp only [Network.cost, hclient.backlog, hends.client.backlog, List.length_cons,
      List.length_nil]
    omega

section
variable {m : OwnedMessage} {rest : List OwnedMessage}

/-- A turn on a message that hands nothing to the socket: the message leaves the channel, and
nothing is added to what the socket task is to write. -/
theorem Network.turn_message {w' : World} {new : List Entry} (hlink : net.link = .up)
    (hto : net.toSocket = []) (hfrom : net.fromSocket = m :: rest)
    (hw : net.client.step c.target (.turn (.socket (.message m)) true (.ok ())) = some w')
    (hlog : w'.log = net.client.log ++ new) (hnew : handedMessages new = []) :
    net.step ι c.target c.horizon .takeMessage =
      some { net with fromSocket := rest, client := w' } := by
  have hroom : (net.toSocket ++ handedMessages new).length ≤ SOCKET_CHANNEL_CAP := by
    rw [hto, hnew]
    decide
  have hturn : Network.turn c.target { net with fromSocket := rest } (.socket (.message m)) =
      some { net with
        fromSocket := rest, client := w', toSocket := net.toSocket ++ handedMessages new } :=
    Network.turn_eq hlink hw hlog hroom
  rw [Network.step_takeMessage hfrom, hturn, hnew, List.append_nil]

/-- The client takes the acknowledgement, which completes the send. The response is still on its
way. -/
theorem Ends.takeAck
    (hends : Ends c cb net ⟨.receiveDiagnosticResponse x.timeout :: xs.flatMap Exchange.calls,
      some id, past⟩ (some (.awaitAck id)) none [] (id + 1) xs.length id
      (dispatch (ι := ι) c.tester x.userData y))
    (hcargo : Inbound ι own c.tester net [.ack, .response r]) (hlink : net.link = .up)
    (hfrom : net.fromSocket = m :: rest) :
    Advances ι c cb own net .takeMessage id past (x :: xs) (r :: rs) y := by
  obtain ⟨reply, replies, hreplies, rfl, hrest⟩ := hcargo.next hfrom
  cases hreplies
  obtain ⟨w', hw, hclient, hlog⟩ := hends.client.takeAck
    (m := Reply.ack.message (ι := ι) own c.tester) rfl rfl (.ok ())
  obtain ⟨hanswer, hunanswered⟩ := hends.log.answer
    (.received (.ok (Reply.ack.message (ι := ι) own c.tester))) (fun r _ => rfl) (.done (.ok ()))
  rw [← hlog] at hanswer hunanswered
  refine ⟨_, Network.turn_message hlink hcargo.toSocket hfrom hw hlog rfl,
    .busy (.sendAnswered ⟨hends.user, hclient, hunanswered, hends.entity⟩ hanswer
      (.inl ⟨rfl, hrest.ofEnds _ _⟩)), hlink, ?_⟩
  simp only [Network.cost, hclient.backlog, hends.client.backlog, hfrom, List.length_cons]
  omega

/-- The client takes the response its receive waits for, and the receive is answered with it. -/
theorem Ends.takeResponse
    (hends : Ends c cb net ⟨xs.flatMap Exchange.calls, some (id + 1), past ++ [.done (.ok ())]⟩
      (some (.awaitResponse OwnedMessage.default (id + 1))) none [] (id + 2) xs.length (id + 1)
      (dispatch (ι := ι) c.tester x.userData y))
    (hcargo : Inbound ι own c.tester net [.response r]) (hfirst : c.first ≤ id)
    (hlink : net.link = .up) (hfrom : net.fromSocket = m :: rest) :
    Advances ι c cb own net .takeMessage id past (x :: xs) (r :: rs) y := by
  obtain ⟨reply, replies, hreplies, rfl, hrest⟩ := hcargo.next hfrom
  cases hreplies
  obtain ⟨w', hw, hclient, hlog⟩ := hends.client.takeResponse (by omega)
    (m := (Reply.response r).message (ι := ι) own c.tester) rfl rfl (.ok ())
  obtain ⟨hanswer, hunanswered⟩ := hends.log.answer
    (.received (.ok ((Reply.response r).message (ι := ι) own c.tester))) (fun r _ => rfl)
    (.message (.ok ((Reply.response r).message (ι := ι) own c.tester)))
  rw [← hlog] at hanswer hunanswered
  refine ⟨_, Network.turn_message hlink hcargo.toSocket hfrom hw hlog rfl,
    .busy (.receiveAnswered ⟨hends.user, hclient, hunanswered, hends.entity⟩ hanswer
      (hrest.ofEnds _ _)), hlink, ?_⟩
  simp only [Network.cost, hclient.backlog, hends.client.backlog, hfrom, List.length_cons]
  omega

/-- The client takes a response whose receive it has not taken yet: it goes to the buffer. -/
theorem Ends.takeEarly
    (hends : Ends c cb net user none pending queue taken room unanswered y)
    (hmail : Mail ι c own net pending r) (hlink : net.link = .up)
    (hfrom : net.fromSocket = m :: rest) :
    ∃ net' pending', net.step ι c.target c.horizon .takeMessage = some net' ∧
      Ends c cb net' user none pending' queue taken room unanswered y ∧
      Mail ι c own net' pending' r ∧
      (∀ id, answerTo net'.client.log id = answerTo net.client.log id) ∧
      net'.link = .up ∧ net'.cost < net.cost := by
  rcases hmail with ⟨rfl, hcargo⟩ | ⟨rfl, hcargo⟩
  · obtain ⟨reply, replies, hreplies, rfl, hrest⟩ := hcargo.next hfrom
    cases hreplies
    obtain ⟨w', hw, hclient, hlog⟩ := hends.client.takeResponseEarly
      (m := (Reply.response r).message (ι := ι) own c.tester) rfl (.ok ())
    have hsame : ∀ id, answerTo w'.log id = answerTo net.client.log id := by
      intro id
      rw [hlog, answerTo_append]
      exact Option.or_none
    refine ⟨_, _, Network.turn_message hlink hcargo.toSocket hfrom hw hlog rfl,
      ⟨hends.user, hclient, ?_, hends.entity⟩, .inr ⟨rfl, hrest.ofEnds _ _⟩, hsame, hlink, ?_⟩
    · intro id hid
      exact (hsame id).trans (hends.log id hid)
    · simp only [Network.cost, hclient.backlog, hends.client.backlog, hfrom, List.length_cons]
      omega
  · rw [hcargo.nothing.fromSocket] at hfrom
    cases hfrom

end

theorem uplinkCost_nil : uplinkCost [] = 0 := rfl

theorem uplinkCost_le (uplink : List UInt8) : uplinkCost uplink ≤ uplink.length + 2098 := by
  rw [uplinkCost]
  split <;> omega

theorem uplinkCost_of_ne {uplink : List UInt8} (h : uplink ≠ []) :
    uplinkCost uplink = uplink.length + 2098 := if_neg h

/-- The two replies of an exchange have at most 1049 bytes between them, which is where the weight
in `uplinkCost` comes from. -/
theorem length_replies (hr : r.length ≤ UDS_RESP_CAP) (own tester : UInt16) :
    ([Reply.ack, .response r].flatMap (Reply.frame (ι := ι) own tester)).length ≤ 1049 := by
  have hcap : UDS_RESP_CAP = 1024 := rfl
  have hack : (Reply.frame (ι := ι) own tester .ack).length = 13 := rfl
  have hresponse : (Reply.frame (ι := ι) own tester (.response r)).length = 8 + (4 + r.length) :=
    Reply.length_frame.trans (congrArg (8 + ·) (length_bytes_diagnosticMessage _))
  simp only [List.flatMap_cons, List.flatMap_nil, List.append_nil, List.length_append, hack,
    hresponse]
  omega

/-- The socket task writes the message, which puts its frame on the wire to the entity. -/
theorem Ends.write
    (hends : Ends c cb net ⟨.receiveDiagnosticResponse x.timeout :: xs.flatMap Exchange.calls,
      some id, past⟩ (some (.awaitAck id)) none [] (id + 1) xs.length id y)
    (hcargo : Outbound net (x.message c.options)) (hfits : x.Fits) (hlink : net.link = .up) :
    Advances ι c cb own net .write id past (x :: xs) (r :: rs) y := by
  have hencode : MessageCodec.encode (ι := ι) (x.message c.options) net.uplink =
      (.ok (), (x.rawFrame c.options).wire (ι := ι)) := by
    rw [Exchange.encode_message hfits, hcargo.uplink, List.nil_append]
  have hlen : ((x.rawFrame c.options).wire (ι := ι)).length = 12 + x.userData.length := by
    rw [RawFrame.length_wire, Exchange.size_rawFrame]
  have hle := uplinkCost_le ((x.rawFrame c.options).wire (ι := ι))
  have hbound : DIAG_ADDR_LEN + x.userData.length ≤ MAX_RX_PAYLOAD := hfits
  have hmax : MAX_RX_PAYLOAD = 2040 := rfl
  have haddr : DIAG_ADDR_LEN = 4 := rfl
  refine ⟨_, Network.step_write hcargo.toSocket hlink hencode,
    .busy (.sendArriving ⟨hends.user, hends.client, hends.log, hends.entity⟩
      ⟨⟨hcargo.downlink, hcargo.readBuffer, hcargo.fromSocket⟩, rfl, ?_, ?_⟩), hlink, ?_⟩
  · intro hnil
    have hzero : ((x.rawFrame c.options).wire (ι := ι)).length = 0 := congrArg List.length hnil
    omega
  · change net.entity.residue ++ _ = _
    rw [hcargo.residue, List.nil_append]
  · simp only [Network.cost, hcargo.toSocket, List.length_cons, List.length_nil]
    omega

/-- A chunk of the request arrives at the entity. It waits for the rest, or the chunk completes the
frame and both replies are on their way. -/
theorem Ends.arrive
    (hends : Ends c cb net ⟨.receiveDiagnosticResponse x.timeout :: xs.flatMap Exchange.calls,
      some id, past⟩ (some (.awaitAck id)) none [] (id + 1) xs.length id y)
    (hcargo : Arriving net ((x.rawFrame c.options).wire (ι := ι)))
    (hplan : Planned ι c own (x :: xs) (r :: rs) y) (hlink : net.link = .up) {n : Nat}
    (hn : 0 < n ∧ n ≤ net.uplink.length) :
    Advances ι c cb own net (.arrive n) id past (x :: xs) (r :: rs) y := by
  have hcost := uplinkCost_of_ne hcargo.uplink
  have hown : c.options.serverAddress x.addressType = ⟨y.1.ownAddress⟩ := by
    rw [hplan.own]
    exact hplan.addressed x List.mem_cons_self
  rcases hends.entity.arrive (hplan.fits x List.mem_cons_self) hplan.tester hown hcargo.wire
    hn.1 hn.2 with ⟨hlt, e', hrx, hentity, hresidue⟩ | ⟨heq, e', p', hrx, hentity, hresidue⟩
  · have hsent : sentBytes (net.platform.calls.drop net.platform.calls.length) = [] := by
      rw [List.drop_length]
      rfl
    have hleft : net.uplink.drop n ≠ [] := by
      intro hnil
      exact absurd (List.drop_eq_nil_iff.mp hnil) (Nat.not_le_of_lt hlt)
    refine ⟨_, Network.step_arrive hlink hn hrx,
      .busy (.sendArriving ⟨hends.user, hends.client, hends.log, hentity⟩
        ⟨⟨?_, hcargo.readBuffer, hcargo.fromSocket⟩, hcargo.toSocket, hleft, ?_⟩), hlink, ?_⟩
    · change net.downlink ++ _ = []
      rw [hsent, hcargo.downlink, List.append_nil]
    · change e'.residue ++ net.uplink.drop n = _
      rw [hresidue, List.append_assoc, List.take_append_drop, hcargo.wire]
    · simp only [Network.cost, hsent, hcost, uplinkCost_of_ne hleft, List.append_nil,
        List.length_drop]
      omega
  · have hp' : p' = (dispatch (ι := ι) c.tester x.userData y).2 :=
      congrArg Prod.snd hentity.session
    have hplatform : y.2 = net.platform := by rw [← hends.entity.session]
    have hsent : sentBytes (p'.calls.drop net.platform.calls.length) =
        [Reply.ack, .response r].flatMap (Reply.frame (ι := ι) own c.tester) := by
      rw [hp', hplan.answered.calls, hplatform, List.drop_left, hplan.own]
      simp only [sentBytes, List.flatMap_cons, List.flatMap_nil, List.nil_append]
    have hlen := length_replies (ι := ι) hplan.answered.cap own c.tester
    have hnil : net.uplink.drop n = [] := by
      rw [heq, List.drop_length]
    refine ⟨_, Network.step_arrive hlink hn hrx,
      .busy (.sendServed ⟨hends.user, hends.client, hends.log, hentity⟩
        ⟨hcargo.toSocket, hnil, hresidue, [], [.ack, .response r], rfl, hcargo.fromSocket, ?_⟩),
      hlink, ?_⟩
    · change net.readBuffer ++ (net.downlink ++ _) = _
      rw [hsent, hcargo.readBuffer, hcargo.downlink, List.nil_append, List.nil_append]
    · simp only [Network.cost, hsent, hcost, hnil, uplinkCost_nil, hcargo.downlink,
        List.length_append, List.length_nil]
      omega

end

end

end

end SimpleDoip
