import SimpleDoip.Client.Freshness
import SimpleDoip.Lib.Mailbox

/-!
# Responses in order

A user who expects several responses calls receive once for each. Seen from there, the task is a
mailbox with one slot: a response that comes while no receive waits stays in the buffer, and the
next one replaces it. `ExchangeStep` says what happens while responses and receives are interleaved,
`Exchanging.step` that each step of it is one of the mailbox or none, and `responses_in_order_iff`
carries over when the receives return the responses in order.
-/

namespace SimpleDoip

open Transition

/-- A diagnostic message, as decoding makes it: the payload and the type in the header agree. -/
def Message.IsDiagnosticMessage (m : OwnedMessage) : Prop :=
  m.header.payloadType = .diagnosticMessage ∧ ∃ dm, m.payload = .diagnosticMessage dm

/-- The messages received, oldest first, whatever became of them. -/
def arrivals (log : List Entry) : List OwnedMessage :=
  log.filterMap fun
    | .received (.ok m) => some m
    | _ => none

/-- The answers to requests that wait for a message, from request `base` on, oldest first. Each
comes with the number of its request. -/
def messageAnswers (base : Nat) (log : List Entry) : List (Nat × Except Error OwnedMessage) :=
  log.filterMap fun
    | .did (.completed r (.message a)) => if base ≤ r then some (r, a) else none
    | _ => none

/-- What happens while at most `n` responses and `n` receives are interleaved, from request `base`
on and after `seen` messages: a receive is issued once the one before it is answered, diagnostic
messages arrive, and the connection fails after the last of them only. Nothing is given up, and no
deadline expires. -/
def ExchangeStep (base seen n : Nat) (w : World) : Action → Prop
  | .issue request => (∃ timeout, request = .receiveDiagnosticResponse timeout) ∧
      w.inner.activeRequest = none ∧ w.taken = w.requests.length ∧ w.requests.length < base + n
  | .turn .control _ _ => True
  | .turn (.socket (.message m)) _ _ => m.IsDiagnosticMessage ∧ (arrivals w.log).length < seen + n
  | .turn (.socket _) _ _ => (arrivals w.log).length = seen + n
  | .wait _ | .readUpdate | .dropUpdates => True
  | _ => False

/-- The step loses no response and no receive: a message that no receive waits for meets an empty
buffer, and a receive that has to wait gets a deadline the clock can represent. -/
def KeepsResponses (target : Target) (w : World) : Action → Prop
  | .turn (.socket (.message _)) _ _ =>
    w.inner.activeRequest = none → w.inner.pendingDiagnosticResponse = none
  | .turn .control _ _ => ∀ timeout,
      w.requests[w.taken]? = some (.receiveDiagnosticResponse timeout) →
      w.inner.pendingDiagnosticResponse = none → w.inner.tcpDataSocket ≠ none →
        w.clock + timeout ≤ target.maxInstant
  | _ => True

/-! ## The task as a mailbox -/

@[simp] theorem arrivals_append (xs ys : List Entry) :
    arrivals (xs ++ ys) = arrivals xs ++ arrivals ys :=
  List.filterMap_append

@[simp] theorem messageAnswers_append (base : Nat) (xs ys : List Entry) :
    messageAnswers base (xs ++ ys) = messageAnswers base xs ++ messageAnswers base ys :=
  List.filterMap_append

/-- What a task does is nothing it receives, so the effects of a turn add no arrivals. -/
@[simp] theorem arrivals_did (effects : List Effect) : arrivals (effects.map .did) = [] := by
  induction effects with
  | nil => rfl
  | cons e effects ih => exact ih

theorem messageAnswers_completed {base r : Nat} (h : base ≤ r) (a : Except Error OwnedMessage)
    (log : List Entry) :
    messageAnswers base (.did (.completed r (.message a)) :: log) =
      (r, a) :: messageAnswers base log :=
  List.filterMap_cons_some (if_pos h)

namespace World

/-- What the mailbox of the receives from `base` on looks like, with the messages after the first
`seen`. -/
def mailbox (base seen : Nat) (w : World) : Mailbox.State Error OwnedMessage where
  slot := w.inner.pendingDiagnosticResponse
  waiting := w.inner.held
  isOpen := w.inner.tcpDataSocket.isSome
  asked := w.taken
  answers := messageAnswers base w.log
  arrived := (arrivals w.log).drop seen

/-- What holds throughout an exchange of receives and responses: every request is a receive, one is
issued at a time, and no other kind of request waits. -/
structure Exchanging (base seen n : Nat) (w : World) : Prop where
  waits : w.Waits
  numbered : w.Numbered
  receives : ∀ id request, base ≤ id → w.requests[id]? = some request →
    ∃ timeout, request = .receiveDiagnosticResponse timeout
  active : ∀ request, w.inner.activeRequest = some request → ∃ response,
    request = .awaitResponse OwnedMessage.default response ∧ base ≤ response ∧
      w.taken = w.requests.length
  begun : base ≤ w.taken
  received : seen ≤ (arrivals w.log).length
  requests : w.requests.length ≤ base + n
  queued : w.requests.length ≤ w.taken + 1

section
variable {base seen n : Nat} {target : Target} {w w' : World} {a : Action}

/-- The mailbox after a turn, by what the turn answers and what arrives in it. -/
theorem mailbox_finish (hseen : seen ≤ (arrivals w.log).length) {select : Select}
    {r : EStateM.Result Panic Task Processed} {answers : List (Nat × Except Error OwnedMessage)}
    {arrived : List OwnedMessage}
    (hanswers : messageAnswers base w.log ++
      messageAnswers base (select.entries ++ (resultTask r).effects.map .did) = answers)
    (harrived : (arrivals w.log).drop seen ++ arrivals select.entries = arrived) :
    (w.finish select r).mailbox base seen = {
      slot := (resultTask r).inner.pendingDiagnosticResponse
      waiting := (resultTask r).inner.held
      isOpen := (resultTask r).inner.tcpDataSocket.isSome
      asked := w.taken + select.takes
      answers := answers
      arrived := arrived } := by
  rw [← hanswers, ← harrived]
  simp only [mailbox, finish_inner, finish_taken, finish_log, messageAnswers_append,
    arrivals_append, arrivals_did, List.append_nil, List.drop_append_of_le_length hseen]

/-- A request taken during an exchange is a receive, and no other waits: the user issues the next
one only after the last was answered. -/
theorem Exchanging.select_control (hw : w.Exchanging base seen n) {select : Select}
    (h : w.select .control = some select) :
    w.inner.activeRequest = none ∧ w.taken < w.requests.length ∧
      ∃ timeout, w.requests[w.taken]? = some (.receiveDiagnosticResponse timeout) ∧
        select = .control (.receiveDiagnosticResponse timeout w.taken) := by
  obtain ⟨request, hrequest, rfl⟩ := Option.map_eq_some_iff.mp h
  have hlt := (List.getElem?_eq_some_iff.mp hrequest).1
  obtain ⟨timeout, rfl⟩ := hw.receives w.taken request hw.begun hrequest
  refine ⟨?_, hlt, timeout, hrequest, rfl⟩
  cases hactive : w.inner.activeRequest with
  | none => rfl
  | some request =>
    obtain ⟨response, -, -, hall⟩ := hw.active request hactive
    exact absurd hall hlt.ne

/-- A step that leaves the task alone leaves the mailbox alone, and keeps the exchange if it issues
a receive when the last one is answered. -/
theorem Exchanging.idle (hw : w.Exchanging base seen n) (hwaits : w'.Waits) (hsame : SameTask w w')
    (hrequests : w'.requests = w.requests ∨ w.inner.activeRequest = none ∧
      w.taken = w.requests.length ∧ w.requests.length < base + n ∧
      ∃ timeout, w'.requests = w.requests ++ [.receiveDiagnosticResponse timeout]) :
    w'.Exchanging base seen n ∧ w'.mailbox base seen = w.mailbox base seen := by
  have hmailbox : w'.mailbox base seen = w.mailbox base seen := by
    rw [mailbox, hsame.inner, hsame.taken, hsame.log]
    rfl
  have hbegun : base ≤ w'.taken := hsame.taken ▸ hw.begun
  have hreceived : seen ≤ (arrivals w'.log).length := hsame.log ▸ hw.received
  rcases hrequests with hrequests | ⟨hnone, hall, hlt, timeout, hrequests⟩
  · refine ⟨⟨hwaits, hw.numbered.idle hsame, ?_, ?_, hbegun, hreceived, ?_, ?_⟩,
      hmailbox⟩ <;> rw [hrequests]
    · exact hw.receives
    · rw [hsame.inner, hsame.taken]
      exact hw.active
    · exact hw.requests
    · rw [hsame.taken]
      exact hw.queued
  · have hlength : w'.requests.length = w.requests.length + 1 := by
      rw [hrequests, List.length_append, List.length_singleton]
    refine ⟨⟨hwaits, hw.numbered.idle hsame, ?_, ?_, hbegun, hreceived, ?_, ?_⟩,
      hmailbox⟩
    · intro id request hid hrequest
      rw [hrequests, List.getElem?_append] at hrequest
      split at hrequest
      · exact hw.receives id request hid hrequest
      · exact ⟨timeout, List.mem_singleton.mp (List.mem_of_getElem? hrequest)⟩
    · intro request hactive
      rw [hsame.inner, hnone] at hactive
      cases hactive
    · rw [hlength]
      exact hlt
    · rw [hlength, hsame.taken, hall]

/-- A turn keeps what holds throughout an exchange, if what waits after it is a receive, and then
every request has been taken. -/
theorem Exchanging.turn {branch : Branch} {select : Select} {env : Env}
    {r : EStateM.Result Panic Task Processed} (hw : w.Exchanging base seen n)
    (hwaits : (w.finish select r).Waits)
    (hselect : w.select branch = some select)
    (hturned : Turned target env w.inner select r)
    (hactive : ∀ request, (resultTask r).inner.activeRequest = some request → ∃ response,
      request = .awaitResponse OwnedMessage.default response ∧ base ≤ response ∧
        w.taken + select.takes = w.requests.length) :
    (w.finish select r).Exchanging base seen n := by
  refine ⟨hwaits, hw.numbered.turn hselect hturned, ?_, ?_, ?_, ?_, ?_, ?_⟩
  · rw [finish_requests]
    exact hw.receives
  · rw [finish_inner, finish_taken, finish_requests]
    exact hactive
  · rw [finish_taken]
    exact hw.begun.trans (Nat.le_add_right _ _)
  · rw [finish_log, arrivals_append, List.length_append]
    exact hw.received.trans (Nat.le_add_right _ _)
  · rw [finish_requests]
    exact hw.requests
  · rw [finish_requests, finish_taken]
    exact hw.queued.trans (Nat.add_le_add_right (Nat.le_add_right _ _) 1)

/-- A control turn of an exchange is an ask of the mailbox, or loses one: without a socket the
receive is refused. -/
theorem Exchanging.control (hw : w.Exchanging base seen n) {select : Select} {env : Env}
    {r : EStateM.Result Panic Task Processed} (hselect : w.select .control = some select)
    (hnow : env.now = w.clock) (socketOpen : Bool) (connect : Except Error Unit)
    (hturned : Turned target env w.inner select r) :
    (∀ request, (resultTask r).inner.activeRequest = some request → ∃ response,
      request = .awaitResponse OwnedMessage.default response ∧ base ≤ response ∧
        w.taken + select.takes = w.requests.length) ∧
    ∃ e, Mailbox.step (w.mailbox base seen) e = some ((w.finish select r).mailbox base seen) ∧
      Mailbox.Within base n (w.mailbox base seen) e ∧
      (KeepsResponses target w (.turn .control socketOpen connect) ↔
        Mailbox.Keeps (w.mailbox base seen) e) := by
  obtain ⟨hnone, hlt, timeout, hrequest, rfl⟩ := hw.select_control hselect
  have hwithin : w.taken < base + n := hlt.trans_le hw.requests
  have hheld : w.inner.held = none := by rw [Inner.held, hnone]; rfl
  have hfail : w.inner.failActive .requestSuperseded = [] := by rw [Inner.failActive, hnone]
  have hbox : w.mailbox base seen = ⟨w.inner.pendingDiagnosticResponse, none,
      w.inner.tcpDataSocket.isSome, w.taken, messageAnswers base w.log,
      (arrivals w.log).drop seen⟩ := by
    rw [mailbox, hheld]
  -- what the receive adds to the answers
  have hanswer : ∀ a, messageAnswers base w.log ++ messageAnswers base ([.taken w.taken] ++
      (w.inner.failActive .requestSuperseded ++ [Effect.completed w.taken (.message a)]).map .did) =
      messageAnswers base w.log ++ [(w.taken, a)] := by
    intro a
    rw [hfail]
    exact congrArg _ (messageAnswers_completed hw.begun a [])
  have hquiet : messageAnswers base w.log ++ messageAnswers base ([.taken w.taken] ++
      (w.inner.failActive .requestSuperseded).map .did) = messageAnswers base w.log := by
    rw [hfail]
    exact List.append_nil _
  cases hturned with
  | refused e hsocket hbuffer =>
    have hslot := hbuffer _ _ rfl
    have hclosed : w.inner.tcpDataSocket = none := hsocket.resolve_right fun h => h.2 rfl
    refine ⟨fun _ h => (by cases h), .ask e, ?_, hwithin, ?_⟩
    · refine Eq.trans ?_ (congrArg some
        (mailbox_finish hw.received (hanswer (.error e)) (List.append_nil _))).symm
      change _ = some (Mailbox.State.mk w.inner.pendingDiagnosticResponse none
        w.inner.tcpDataSocket.isSome _ _ _)
      rw [hbox, hslot, hclosed]
      rfl
    · exact ⟨fun _ => trivial, fun _ _ _ _ hsome => absurd hclosed hsome⟩
  | @drained _ _ m hpending =>
    refine ⟨fun _ h => (by cases h), .ask .socketNotBound, ?_, hwithin, ?_⟩
    · refine Eq.trans ?_ (congrArg some
        (mailbox_finish hw.received (hanswer (.ok m)) (List.append_nil _))).symm
      rw [hbox, hpending]
      rfl
    · refine ⟨fun _ => trivial, fun _ _ _ hslot => ?_⟩
      rw [hpending] at hslot
      cases hslot
  | listening hslot hsocket htime =>
    refine ⟨?_, .ask .socketNotBound, ?_, hwithin, ?_⟩
    · intro request hactive
      cases hactive
      exact ⟨_, rfl, hw.begun, Nat.le_antisymm hlt hw.queued⟩
    · obtain ⟨s, hsocket⟩ := Option.ne_none_iff_exists'.mp hsocket
      refine Eq.trans ?_ (congrArg some
        (mailbox_finish hw.received hquiet (List.append_nil _))).symm
      change _ = some (Mailbox.State.mk w.inner.pendingDiagnosticResponse (some w.taken)
        w.inner.tcpDataSocket.isSome _ _ _)
      rw [hbox, hslot, hsocket]
      rfl
    · refine ⟨fun _ => trivial, fun _ timeout' hrequest' _ _ => ?_⟩
      rw [hrequest] at hrequest'
      cases hrequest'
      rwa [hnow] at htime
  | lateListening hslot hsocket htime =>
    refine ⟨fun _ h => (by cases h), .lose, ?_, hwithin, ?_⟩
    · refine Eq.trans ?_ (congrArg some
        (mailbox_finish hw.received hquiet (List.append_nil _))).symm
      change _ = some (Mailbox.State.mk w.inner.pendingDiagnosticResponse none
        w.inner.tcpDataSocket.isSome _ _ _)
      rw [hbox, hslot]
      rfl
    · rw [hnow] at htime
      exact ⟨fun h => htime (h timeout hrequest hslot hsocket), False.elim⟩
  | sent hmessage | overflowed hmessage | late hmessage => cases hmessage

/-- The messages in the mailbox's account are those that arrived during the exchange, behind the
ones seen before. -/
theorem Exchanging.length_arrived (hw : w.Exchanging base seen n) :
    (w.mailbox base seen).arrived.length + seen = (arrivals w.log).length := by
  rw [mailbox, List.length_drop, Nat.sub_add_cancel hw.received]

/-- A diagnostic message is put into the mailbox: it answers the receive that waits, or replaces
what is in the buffer. -/
theorem Exchanging.message (hw : w.Exchanging base seen n) {env : Env} {m : OwnedMessage}
    {r : EStateM.Result Panic Task Processed} (hm : m.IsDiagnosticMessage)
    (hsocket : w.inner.tcpDataSocket ≠ none) (harrived : (arrivals w.log).length < seen + n)
    (socketOpen : Bool) (connect : Except Error Unit)
    (hturned : Turned target env w.inner (.socket (.ok m)) r) :
    (∀ request, (resultTask r).inner.activeRequest = some request → False) ∧
    ∃ e, Mailbox.step (w.mailbox base seen) e =
        some ((w.finish (.socket (.ok m)) r).mailbox base seen) ∧
      Mailbox.Within base n (w.mailbox base seen) e ∧
      (KeepsResponses target w (.turn (.socket (.message m)) socketOpen connect) ↔
        Mailbox.Keeps (w.mailbox base seen) e) := by
  obtain ⟨htype, dm, hdm⟩ := hm
  obtain ⟨s, hsocket⟩ := Option.ne_none_iff_exists'.mp hsocket
  have hwithin : Mailbox.Within base n (w.mailbox base seen) (.put m) := by
    have hlength := hw.length_arrived
    rw [Mailbox.Within]
    omega
  have hkeeps : KeepsResponses target w (.turn (.socket (.message m)) socketOpen connect) ↔
      Mailbox.Keeps (w.mailbox base seen) (.put m) := by
    rw [KeepsResponses, Mailbox.Keeps, mailbox, Inner.held, Option.map_eq_none_iff]
  have hplain : m.payload ≠ .aliveCheckRequest := by
    rw [hdm]
    intro h
    cases h
  cases hturned with
  | stored _ hactive =>
    have hheld : w.inner.held = none := by rw [Inner.held, hactive]; rfl
    refine ⟨fun request h => ?_, .put m, ?_, hwithin, hkeeps⟩
    · rw [resultTask, hactive] at h
      cases h
    · refine Eq.trans ?_ (congrArg some
        (mailbox_finish hw.received (List.append_nil _) rfl)).symm
      change _ = some (Mailbox.State.mk _ w.inner.held w.inner.tcpDataSocket.isSome _ _ _)
      rw [mailbox, hheld, hsocket]
      rfl
  | @replied _ request response hnot hactive =>
    obtain ⟨response', hrequest, hbase, -⟩ := hw.active _ hactive
    cases hrequest
    have hheld : w.inner.held = some response := by rw [Inner.held, hactive]; rfl
    have heffects : w.inner.aliveEffects env m = [] := if_neg fun h => hplain h.1
    have hafter : w.inner.afterAlive env m = w.inner := if_neg fun h => hplain h.1
    have hreply : Message.reply OwnedMessage.default m = .ok m := by
      rw [Message.reply, htype]
      rfl
    have hanswer : messageAnswers base w.log ++ messageAnswers base ([.received (.ok m)] ++
        (w.inner.aliveEffects env m ++ [Effect.completed response
          (.message (Message.reply OwnedMessage.default m))]).map .did) =
        messageAnswers base w.log ++ [(response, .ok m)] := by
      rw [heffects, hreply]
      exact congrArg _ (messageAnswers_completed hbase (.ok m) [])
    refine ⟨fun request h => (by cases h), .put m, ?_, hwithin, hkeeps⟩
    refine Eq.trans ?_ (congrArg some (mailbox_finish hw.received hanswer rfl)).symm
    change _ = some (Mailbox.State.mk (w.inner.afterAlive env m).pendingDiagnosticResponse none
      (w.inner.afterAlive env m).tcpDataSocket.isSome _ _ _)
    rw [hafter, mailbox, hheld, hsocket]
    rfl
  | acked hack =>
    rw [hdm] at hack
    cases hack
  | ackDropped hack =>
    rw [Message.isPositiveAck, hdm] at hack
    cases hack
  | passed _ hnot => exact absurd hdm (hnot dm)
  | unheeded _ hactive =>
    obtain ⟨response, hrequest, -⟩ := hw.active _ hactive
    cases hrequest
  | aliveOverflowed halive => exact absurd halive hplain

/-- A failing connection closes the mailbox, and fails the receive that waits. -/
theorem Exchanging.broken (hw : w.Exchanging base seen n) {env : Env} {e : Error}
    {r : EStateM.Result Panic Task Processed} (harrived : (arrivals w.log).length = seen + n)
    (hturned : Turned target env w.inner (.socket (.error e)) r) :
    (∀ request, (resultTask r).inner.activeRequest = some request → False) ∧
      Mailbox.step (w.mailbox base seen) (.close e) =
        some ((w.finish (.socket (.error e)) r).mailbox base seen) ∧
      Mailbox.Within base n (w.mailbox base seen) (.close e) := by
  cases hturned
  refine ⟨fun request h => (by cases h), ?_, ?_⟩
  · have hanswer : messageAnswers base ([.received (.error e)] ++
        (w.inner.failActive e).map .did) = w.inner.held.toList.map fun k => (k, .error e) := by
      cases hactive : w.inner.activeRequest with
      | none =>
        rw [Inner.failActive, Inner.held, hactive]
        rfl
      | some request =>
        obtain ⟨response, rfl, hbase, -⟩ := hw.active request hactive
        rw [Inner.failActive, Inner.held, hactive]
        exact messageAnswers_completed hbase (.error e) []
    refine Eq.trans ?_ (congrArg some
      (mailbox_finish hw.received (congrArg _ hanswer) (List.append_nil _))).symm
    rfl
  · have hlength := hw.length_arrived
    rw [Mailbox.Within]
    omega

/-- **A step of an exchange** is one of the mailbox, which keeps responses exactly when the step
does, or is not seen there. -/
theorem Exchanging.step (hw : w.Exchanging base seen n) (ha : ExchangeStep base seen n w a)
    (h : w.step target a = some w') :
    w'.Exchanging base seen n ∧
      ((w'.mailbox base seen = w.mailbox base seen ∧ KeepsResponses target w a) ∨
        ∃ e, Mailbox.step (w.mailbox base seen) e = some (w'.mailbox base seen) ∧
          Mailbox.Within base n (w.mailbox base seen) e ∧
          (KeepsResponses target w a ↔ Mailbox.Keeps (w.mailbox base seen) e)) := by
  have hwaits := hw.waits.step h
  cases a with
  | issue request =>
    obtain ⟨⟨timeout, rfl⟩, hnone, hall, hlt⟩ := ha
    obtain rfl := World.eq_of_step_issue h
    obtain ⟨hw', hsame⟩ := hw.idle hwaits ⟨rfl, rfl, rfl, List.prefix_append _ _, .inl rfl⟩
      (.inr ⟨hnone, hall, hlt, timeout, rfl⟩)
    exact ⟨hw', .inl ⟨hsame, trivial⟩⟩
  | wait | dropUpdates =>
    cases h
    obtain ⟨hw', hsame⟩ := hw.idle hwaits ⟨rfl, rfl, rfl, List.prefix_rfl, .inl rfl⟩ (.inl rfl)
    exact ⟨hw', .inl ⟨hsame, trivial⟩⟩
  | readUpdate =>
    cases World.moved_of_step h
    obtain ⟨hw', hsame⟩ := hw.idle hwaits ⟨rfl, rfl, rfl, List.prefix_rfl, .inl rfl⟩ (.inl rfl)
    exact ⟨hw', .inl ⟨hsame, trivial⟩⟩
  | turn branch socketOpen connect =>
    obtain ⟨hhead, ⟨select, hselect, rfl⟩ | ⟨hnone, rfl, -, rfl⟩⟩ := of_step_turn h
    · have hturned := turn_spec target (w.env socketOpen connect) (hw.waits (.inl hhead))
        (ready_of_select hselect)
      cases branch with
      | deadline => exact ha.elim
      | control =>
        obtain ⟨hactive, hseen⟩ := hw.control hselect rfl socketOpen connect hturned
        exact ⟨hw.turn hwaits hselect hturned hactive, .inr hseen⟩
      | socket incoming =>
        obtain ⟨hsocket, rfl⟩ := select_socket hselect
        cases incoming with
        | message m =>
          obtain ⟨hactive, hseen⟩ := hw.message ha.1 hsocket ha.2 socketOpen connect hturned
          exact ⟨hw.turn hwaits hselect hturned fun request h => (hactive request h).elim,
            .inr hseen⟩
        | failed | closed =>
          obtain ⟨hactive, hstep, hwithin⟩ := hw.broken ha hturned
          exact ⟨hw.turn hwaits hselect hturned fun request h => (hactive request h).elim,
            .inr ⟨_, hstep, hwithin, Iff.rfl⟩⟩
    · obtain ⟨hw', hsame⟩ := hw.idle hwaits ⟨rfl, rfl, rfl, List.prefix_rfl, .inr (.inl rfl)⟩
        (.inl rfl)
      refine ⟨hw', .inl ⟨hsame, fun timeout hrequest => ?_⟩⟩
      rw [World.select, hrequest] at hnone
      cases hnone
  | abandon | closeControl | resume => exact ha.elim

/-- No request that was not taken yet has been answered, so that the account of answers begins
empty. -/
theorem Numbered.messageAnswers_eq (hw : w.Numbered) : messageAnswers w.taken w.log = [] := by
  rw [messageAnswers, List.filterMap_eq_nil_iff]
  intro entry hentry
  cases entry with
  | taken | received => rfl
  | did effect =>
    cases effect with
    | handed => rfl
    | completed request answer =>
      cases answer with
      | port | done => rfl
      | message result => exact if_neg (Nat.not_le.mpr (hw.effects _ request hentry rfl))

/-- A state in which nobody waits and the buffer is empty starts an exchange, with a fresh
mailbox. -/
theorem Exchanging.init (hwaits : w.Waits) (hnum : w.Numbered)
    (hactive : w.inner.activeRequest = none) (hpending : w.inner.pendingDiagnosticResponse = none)
    (hqueue : w.taken = w.requests.length) :
    w.Exchanging w.taken (arrivals w.log).length n ∧
      w.mailbox w.taken (arrivals w.log).length =
        Mailbox.State.init w.taken w.inner.tcpDataSocket.isSome := by
  constructor
  · refine ⟨hwaits, hnum, ?_, ?_, Nat.le_refl _, Nat.le_refl _, ?_, ?_⟩
    · intro id request hid hrequest
      rw [hqueue] at hid
      rw [List.getElem?_eq_none hid] at hrequest
      cases hrequest
    · intro request h
      rw [hactive] at h
      cases h
    · rw [hqueue]
      exact Nat.le_add_right _ _
    · rw [hqueue]
      exact Nat.le_succ _
  · rw [mailbox, Inner.held, hactive, hpending, hnum.messageAnswers_eq, List.drop_length]
    rfl

end

end World

section
variable {target : Target} {options : ClientOptions} {before actions : List Action} {w₀ w : World}
  {n : Nat} {ms : List OwnedMessage}

/-- **Responses come back in order.** From every reachable state with no request pending and an
empty buffer, let `n` diagnostic messages arrive, interleaved in any way with `n` receives issued
one after the other, and the connection fail after the last message if at all. Then the receives
return the messages, each in its place, exactly when no message that no receive waited for met a
full buffer, and every receive that had to wait got a deadline the clock can represent. -/
theorem responses_in_order_iff
    (hreach : run (World.step target) (World.start options) before = some w₀)
    (hactive : w₀.inner.activeRequest = none)
    (hpending : w₀.inner.pendingDiagnosticResponse = none)
    (hqueue : w₀.taken = w₀.requests.length)
    (hrun : run (World.step target) w₀ actions = some w)
    (hexchange : Along (World.step target) (ExchangeStep w₀.taken (arrivals w₀.log).length n) w₀
      actions)
    (hreceives : w.taken = w₀.taken + n)
    (hms : arrivals w.log = arrivals w₀.log ++ ms) (hn : ms.length = n) :
    messageAnswers w₀.taken w.log = Mailbox.inOrder Error w₀.taken ms ↔
      Along (World.step target) (KeepsResponses target) w₀ actions := by
  obtain ⟨hinit, hbox⟩ := World.Exchanging.init (n := n) (World.waits_of_run hreach)
    (World.numbered_of_run hreach) hactive hpending hqueue
  have hsim := run_simulated (P := World.Exchanging w₀.taken (arrivals w₀.log).length n)
    (f := World.mailbox w₀.taken (arrivals w₀.log).length)
    (fun w a w' hw ha hstep => hw.step ha hstep) hinit hexchange hrun
  obtain ⟨events, hevents, hwithin, hiff⟩ := hsim
  have harrived : (w.mailbox w₀.taken (arrivals w₀.log).length).arrived = ms := by
    rw [World.mailbox, hms, List.drop_left]
  rw [hbox] at hevents hwithin hiff
  have horder := Mailbox.answered_in_order_iff hevents hwithin hreceives
    (by rw [harrived]; exact hn)
  rw [harrived] at horder
  exact horder.trans hiff.symm

end

/-- The entity needs more time: a negative response with the code for a pending response. -/
def responsePending : OwnedMessage := diagnosticFrom 0x0001 0x0E00 [0x7F, 0x22, 0x78]

/-- The entity sends both of its answers at once, and the two receives follow after that. -/
def burstExchange : List Action :=
  [deliver responsePending, deliver lateResponse] ++
    (issueAndTake (.receiveDiagnosticResponse 1000) ++
      issueAndTake (.receiveDiagnosticResponse 1000))

/-- The first of two responses sent at once is lost: the first receive returns the second, and the
second receive waits. -/
theorem burst_loses_response :
    ∃ w₀ w, run (World.step releaseTarget) (World.start testerOptions)
        (issueAndTake (.bindSocket ⟨13400⟩)) = some w₀ ∧
      w₀.inner.activeRequest = none ∧ w₀.inner.pendingDiagnosticResponse = none ∧
      w₀.taken = w₀.requests.length ∧
      run (World.step releaseTarget) w₀ burstExchange = some w ∧
      Along (World.step releaseTarget) (ExchangeStep w₀.taken (arrivals w₀.log).length 2) w₀
        burstExchange ∧
      w.taken = w₀.taken + 2 ∧
      arrivals w.log = arrivals w₀.log ++ [responsePending, lateResponse] ∧
      messageAnswers w₀.taken w.log = [(1, .ok lateResponse)] ∧
      messageAnswers w₀.taken w.log ≠
        Mailbox.inOrder Error w₀.taken [responsePending, lateResponse] := by
  refine ⟨_, _, rfl, rfl, rfl, rfl, rfl, ?_, rfl, rfl, rfl, ?_⟩
  · exact along_cons ⟨⟨rfl, _, rfl⟩, by decide⟩ rfl <| along_cons ⟨⟨rfl, _, rfl⟩, by decide⟩ rfl <|
      along_cons ⟨⟨_, rfl⟩, rfl, rfl, by decide⟩ rfl <| along_cons trivial rfl <|
      along_cons ⟨⟨_, rfl⟩, rfl, rfl, by decide⟩ rfl <| along_cons trivial rfl trivial
  · intro h
    have hlength := congrArg List.length h
    rw [Mailbox.length_inOrder] at hlength
    exact absurd hlength (by decide)

/-- The second response comes while its receive waits, and then the entity closes the connection. -/
def pacedExchange : List Action :=
  [deliver responsePending] ++ (issueAndTake (.receiveDiagnosticResponse 1000) ++
    (issueAndTake (.receiveDiagnosticResponse 1000) ++
      [deliver lateResponse, .turn (.socket .closed) true (.ok ())]))

/-- Two responses that do not meet in the buffer come back in order, the first from the buffer and
the second as it arrives. -/
theorem responses_in_order_iff_paced :
    ∃ w₀ w, run (World.step releaseTarget) (World.start testerOptions)
        (issueAndTake (.bindSocket ⟨13400⟩)) = some w₀ ∧
      run (World.step releaseTarget) w₀ pacedExchange = some w ∧
      messageAnswers w₀.taken w.log =
        Mailbox.inOrder Error w₀.taken [responsePending, lateResponse] := by
  have h : ∃ w₀ w, run (World.step releaseTarget) (World.start testerOptions)
        (issueAndTake (.bindSocket ⟨13400⟩)) = some w₀ ∧
      w₀.inner.activeRequest = none ∧ w₀.inner.pendingDiagnosticResponse = none ∧
      w₀.taken = w₀.requests.length ∧
      run (World.step releaseTarget) w₀ pacedExchange = some w ∧
      Along (World.step releaseTarget) (ExchangeStep w₀.taken (arrivals w₀.log).length 2) w₀
        pacedExchange ∧
      w.taken = w₀.taken + 2 ∧
      arrivals w.log = arrivals w₀.log ++ [responsePending, lateResponse] ∧
      Along (World.step releaseTarget) (KeepsResponses releaseTarget) w₀ pacedExchange := by
    refine ⟨_, _, rfl, rfl, rfl, rfl, rfl, ?_, rfl, rfl, ?_⟩
    · exact along_cons ⟨⟨rfl, _, rfl⟩, by decide⟩ rfl <|
        along_cons ⟨⟨_, rfl⟩, rfl, rfl, by decide⟩ rfl <| along_cons trivial rfl <|
        along_cons ⟨⟨_, rfl⟩, rfl, rfl, by decide⟩ rfl <| along_cons trivial rfl <|
        along_cons ⟨⟨rfl, _, rfl⟩, by decide⟩ rfl <| along_cons rfl rfl trivial
    · exact along_cons (fun _ => rfl) rfl <| along_cons trivial rfl <|
        along_cons (fun _ _ h => (nomatch h)) rfl <| along_cons trivial rfl <|
        along_cons (fun _ h _ _ => by cases h; decide) rfl <| along_cons (fun h => nomatch h) rfl <|
        along_cons trivial rfl trivial
  obtain ⟨w₀, w, hreach, hactive, hpending, hqueue, hrun, hexchange, htaken, hms, hkeeps⟩ := h
  exact ⟨w₀, w, hreach, hrun, (responses_in_order_iff hreach hactive hpending hqueue hrun hexchange
    htaken hms rfl).mpr hkeeps⟩

end SimpleDoip
