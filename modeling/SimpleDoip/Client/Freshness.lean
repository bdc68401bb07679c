import SimpleDoip.Client.Requests

/-!
# Where a response comes from

A response that arrives while nobody waits for it stays in a buffer of one message, and the next
receive takes it from there. Nothing empties the buffer when a new diagnostic message is sent.
`World.Fresh` says what a user relies on, that a receive does not return a message from before the
send it follows; `responses_are_fresh` proves it of every run whose sends meet an empty buffer, and
`stale_response` is a run in which one does not.

An entity may send the same message twice, so that it is not enough to compare a returned message
with the received ones. `Receipts` is a history variable that follows each message through the
buffer: it says at which place of the log the message that a turn returned was received.
-/

namespace SimpleDoip

open Transition

/-! ## The order of events -/

namespace World

/-- Request `b` sends a diagnostic message. Requests are known by the order in which they were
issued, so an earlier send is one with a smaller number. -/
def IsSend (w : World) (b : Nat) : Prop :=
  ∃ message, w.requests[b]? = some (.sendDiagnosticMessage message)

/-- Request `r` receives a diagnostic response, from the socket or from the buffer. -/
def IsReceive (w : World) (r : Nat) : Prop :=
  ∃ timeout, w.requests[r]? = some (.receiveDiagnosticResponse timeout)

/-- Every message that was handed to the socket for a send with a number below `bound` stands in the
log before place `p`. -/
def SentBefore (w : World) (p bound : Nat) : Prop :=
  ∀ b < bound, w.IsSend b → ∀ q message,
    w.log[q]? = some (.did (.handed (some b) message)) → q < p

/-- No receive returns a stale message. Where the log says at place `k` that a receive returned `m`,
this very `m` was received at the place `receipt k` before it, and the message of every send issued
before the receive was handed to the socket before that place, if it ever is. -/
def Fresh (w : World) (receipt : Nat → Nat) : Prop :=
  ∀ k r m, w.log[k]? = some (.did (.completed r (.message (.ok m)))) → w.IsReceive r →
    receipt k < k ∧ w.log[receipt k]? = some (.received (.ok m)) ∧ w.SentBefore (receipt k) r

end World

/-! ## Where messages were received -/

/-- Whether `process_received_message` puts the message it is given into the buffer: a diagnostic
message, with no request active. It replaces what was there. -/
def Inner.buffers (i : Inner) : Select → Bool
  | .socket (.ok m) =>
    match i.activeRequest, m.payload with
    | none, .diagnosticMessage _ => true
    | _, _ => false
  | _ => false

/-- Places of the log at which messages were received, kept beside a run. The task knows nothing of
them. -/
structure Receipts where
  /-- Where the message in the buffer was received. While the buffer is empty this is of no
  account. -/
  buffered : Nat
  /-- For each place of the log, where the message that the turn behind it had at hand was received:
  the one the socket delivered to that turn, or else the one in the buffer. -/
  atHand : Nat → Nat

namespace Receipts

/-- Where the message was received that a turn has at hand. The entries of the turn go to the end of
the log, and the receipt of a message is the first of them. -/
def given (h : Receipts) (w : World) : Select → Nat
  | .socket _ => w.log.length
  | _ => h.buffered

/-- The receipts after a turn: a message that is buffered now was received now, and everything the
turn writes to the log is about the message it has at hand. -/
def turn (h : Receipts) (w : World) (select : Select) : Receipts where
  buffered := if w.inner.buffers select then w.log.length else h.buffered
  atHand k := if k < w.log.length then h.atHand k else h.given w select

/-- The receipts after an action. Only turns write to the log and to the buffer. -/
def record (h : Receipts) (w : World) (a : Action) : Receipts := (w.selected a).elim h (h.turn w)

variable {h : Receipts} {w : World} {select : Select} {k : Nat}

theorem turn_buffered_of_buffers (hbuffers : w.inner.buffers select = true) :
    (h.turn w select).buffered = w.log.length := if_pos hbuffers

theorem turn_buffered_of_not_buffers (hbuffers : w.inner.buffers select = false) :
    (h.turn w select).buffered = h.buffered :=
  if_neg (by rw [hbuffers]; exact Bool.false_ne_true)

theorem turn_atHand_of_lt (hk : k < w.log.length) : (h.turn w select).atHand k = h.atHand k :=
  if_pos hk

theorem turn_atHand_of_le (hk : w.log.length ≤ k) :
    (h.turn w select).atHand k = h.given w select := if_neg (Nat.not_lt.mpr hk)

end Receipts

/-- The receipts of a run. At its start nothing was received, and the values there do not matter. -/
def World.receipts (target : Target) (w : World) (actions : List Action) : Receipts :=
  history (World.step target) Receipts.record ⟨0, fun _ => 0⟩ w actions

/-! ## What a turn says about requests -/

/-- The request an effect is about: the one it completes, or the one whose message it hands over.
The answer to an alive check belongs to none. -/
def Effect.request : Effect → Option Nat
  | .completed request _ => some request
  | .handed request _ => request

/-- The request a branch takes from the control channel, if any. -/
def Select.request : Select → Option Nat
  | .control message => some message.response
  | _ => none

section
variable {target : Target} {env : Env} {i : Inner} {select : Select}
  {r : EStateM.Result Panic Task Processed}

theorem Inner.mem_failActive {e : Error} {f : Effect} (h : f ∈ i.failActive e) :
    ∃ request, i.activeRequest = some request ∧
      f = .completed request.response (request.failure e) := by
  rw [Inner.failActive] at h
  split at h
  · cases h
  · next request hactive => exact ⟨request, hactive, List.mem_singleton.mp h⟩

theorem Inner.mem_aliveEffects {m : OwnedMessage} {f : Effect} (h : f ∈ i.aliveEffects env m) :
    f = .handed none i.aliveResponse := by
  rw [Inner.aliveEffects] at h
  split at h
  · exact List.mem_singleton.mp h
  · cases h

theorem ControlMessage.failure_ne_ok (request : ControlMessage) (e : Error) (m : OwnedMessage) :
    request.failure e ≠ .message (.ok m) := by
  cases request <;> nofun

/-- What an effect of a turn can be, by the branch and by where the message in it comes from.
`Turned` says which effects a turn has; this says what each of them can be. -/
inductive Done (env : Env) (i : Inner) : Select → Effect → Prop where
  /-- The active request is answered with an error: it was superseded, timed out, or lost its
  socket. -/
  | failed {select : Select} {request : ControlMessage} (e : Error)
      (hactive : i.activeRequest = some request) :
      Done env i select (.completed request.response (request.failure e))
  /-- The request that was taken is answered at once, but with no message. -/
  | answered (request : ControlMessage) (a : Answer) (ha : ∀ m, a ≠ .message (.ok m)) :
      Done env i (.control request) (.completed request.response a)
  /-- The request that was taken is answered from the buffer. Only a receive is. -/
  | drained (request : ControlMessage) {m : OwnedMessage}
      (hpending : i.pendingDiagnosticResponse = some m) :
      Done env i (.control request) (.completed request.response (.message (.ok m)))
  /-- The message of the request that was taken goes to the socket, before the turn ends. -/
  | handed (request : ControlMessage) (message : OwnedMessage) :
      Done env i (.control request) (.handed (some request.response) message)
  /-- The active request is answered on account of a received message: with that message, with an
  error about it, or as acknowledged. -/
  | replied {m : OwnedMessage} {request : ControlMessage} {a : Answer}
      (hactive : i.activeRequest = some request) (ha : ∀ m', a = .message (.ok m') → m' = m) :
      Done env i (.socket (.ok m)) (.completed request.response a)
  /-- An alive check is answered, on the task's own account. -/
  | alive {select : Select} (message : OwnedMessage) : Done env i select (.handed none message)

theorem Done.of_failActive {e : Error} {f : Effect} (h : f ∈ i.failActive e) :
    Done env i select f := by
  obtain ⟨request, hactive, rfl⟩ := Inner.mem_failActive h
  exact .failed e hactive

theorem Done.of_aliveEffects {m : OwnedMessage} {f : Effect} (h : f ∈ i.aliveEffects env m) :
    Done env i select f := by
  rw [Inner.mem_aliveEffects h]
  exact .alive _

/-- An effect of a turn that first fails what was active and then has one more effect. -/
theorem Done.of_append {e : Error} {f g : Effect} (hg : Done env i select g)
    (h : f ∈ i.failActive e ++ [g]) : Done env i select f := by
  rcases List.mem_append.mp h with hf | hf
  · exact .of_failActive hf
  · rw [List.mem_singleton.mp hf]
    exact hg

/-- What a request that waits for a response is answered with is the message that was received, if
it is answered with a message at all. -/
theorem Message.eq_of_reply {request received m : OwnedMessage}
    (h : Answer.message (request.reply received) = .message (.ok m)) : m = received := by
  rw [Message.reply] at h
  split at h
  · cases h
    rfl
  · cases h

/-- **Every effect of a turn** is one of `Done`, whatever the turn comes to. -/
theorem Turned.done (h : Turned target env i select r) :
    ∀ f ∈ (resultTask r).effects, Done env i select f := by
  intro f hf
  cases h with
  | expired | broken | listening | lateListening => exact .of_failActive hf
  | bound gatewayAddress response =>
    refine .of_append (.answered (.bindSocket gatewayAddress response) _ ?_) hf
    intro m h
    cases h
  | unbound response =>
    refine .of_append (.answered (.unbindSocket response) _ ?_) hf
    intro m h
    cases h
  | refused e => exact .of_append (.answered _ _ fun m => ControlMessage.failure_ne_ok _ e m) hf
  | @drained timeout response m hpending =>
    exact .of_append (.drained (.receiveDiagnosticResponse timeout response) hpending) hf
  | sent | overflowed | late => exact .of_append (.handed _ _) hf
  | acked hm hactive =>
    rw [List.mem_singleton.mp hf]
    exact .replied hactive fun _ h => nomatch h
  | replied hm hactive =>
    rcases List.mem_append.mp hf with hf | hf
    · exact .of_aliveEffects hf
    · rw [List.mem_singleton.mp hf]
      exact .replied hactive fun m' h => Message.eq_of_reply h
  | ackDropped | stored => cases hf
  | passed | unheeded | aliveOverflowed => exact .of_aliveEffects hf

/-- An effect is about the request that was active or the one that was taken. No turn touches the
channel of any other. -/
theorem Done.request_eq {f : Effect} {id : Nat} (h : Done env i select f)
    (hid : f.request = some id) : i.held = some id ∨ select.request = some id := by
  cases h with
  | failed e hactive | replied hactive =>
    refine .inl ?_
    rw [Inner.held, hactive]
    exact hid
  | answered | drained | handed => exact .inr hid
  | alive => cases hid

/-- A message that is handed over for a request is that of the request just taken: nothing is sent a
second time, or later. -/
theorem Done.handed_request {b : Nat} {message : OwnedMessage}
    (h : Done env i select (.handed (some b) message)) : select.request = some b := by
  cases h
  rfl

/-- A message that is returned was in the buffer when the request for it was taken, or has just been
received. -/
theorem Done.source {id : Nat} {m : OwnedMessage}
    (h : Done env i select (.completed id (.message (.ok m)))) :
    (∃ request, select = .control request) ∧ i.pendingDiagnosticResponse = some m ∨
      select = .socket (.ok m) := by
  generalize hf : Effect.completed id (.message (.ok m)) = f at h
  cases h with
  | failed e =>
    exact absurd (Effect.completed.inj hf).2.symm (ControlMessage.failure_ne_ok _ e m)
  | answered request a ha => exact absurd (Effect.completed.inj hf).2.symm (ha m)
  | drained request hpending =>
    cases hf
    exact .inl ⟨⟨request, rfl⟩, hpending⟩
  | replied hactive ha =>
    rw [ha m (Effect.completed.inj hf).2.symm]
    exact .inr rfl
  | handed | alive => cases hf

/-- The request held after a turn was held before it, or taken by it. -/
theorem Turned.held_eq {id : Nat} (h : Turned target env i select r)
    (hheld : (resultTask r).inner.held = some id) :
    i.held = some id ∨ select.request = some id := by
  cases h with
  | listening => exact .inr hheld
  | sent hmessage =>
    refine .inr ?_
    rw [Select.request, ← ControlMessage.awaiting_response hmessage]
    exact hheld
  | ackDropped | stored | aliveOverflowed => exact .inl hheld
  | passed | unheeded =>
    refine .inl ?_
    rwa [resultTask, Inner.held, Inner.afterAlive_activeRequest] at hheld
  | _ => cases hheld

theorem Inner.buffers_eq_false {m : OwnedMessage}
    (h : i.activeRequest ≠ none ∨ ∀ dm, m.payload ≠ .diagnosticMessage dm) :
    i.buffers (.socket (.ok m)) = false := by
  rw [Inner.buffers]
  split
  · next dm hactive hm =>
    rcases h with h | h
    · exact absurd hactive h
    · exact absurd hm (h dm)
  · rfl

/-- A message in the buffer after a turn has just been received and put there, or nothing was and it
was there before. -/
theorem Turned.pending_eq {m : OwnedMessage} (h : Turned target env i select r)
    (hpending : (resultTask r).inner.pendingDiagnosticResponse = some m) :
    i.buffers select = true ∧ select = .socket (.ok m) ∨
      i.buffers select = false ∧ i.pendingDiagnosticResponse = some m := by
  cases h with
  | drained => cases hpending
  | stored hm hactive =>
    cases hpending
    refine .inl ⟨?_, rfl⟩
    rw [Inner.buffers, hactive, hm]
  | acked hm | aliveOverflowed hm =>
    exact .inr ⟨Inner.buffers_eq_false (.inr fun dm h => by rw [hm] at h; cases h), hpending⟩
  | ackDropped hm =>
    refine .inr ⟨Inner.buffers_eq_false (.inr fun dm h => ?_), hpending⟩
    rw [Message.isPositiveAck, h] at hm
    cases hm
  | replied hm hactive | unheeded hm hactive =>
    rw [resultTask, Inner.afterAlive_pendingDiagnosticResponse] at hpending
    refine .inr ⟨Inner.buffers_eq_false (.inl ?_), hpending⟩
    rw [hactive]
    exact Option.some_ne_none _
  | passed hm hdm =>
    rw [resultTask, Inner.afterAlive_pendingDiagnosticResponse] at hpending
    exact .inr ⟨Inner.buffers_eq_false (.inr hdm), hpending⟩
  | _ => exact .inr ⟨rfl, hpending⟩

end

/-! ## Runs -/

/-- A send is taken only while the buffer is empty: what is asked of the runs in which no response
is stale. Receives, timeouts, binds and unbinds are not restricted. -/
def SendMeetsEmptyBuffer (w : World) : Action → Prop
  | .turn .control _ _ => w.IsSend w.taken → w.inner.pendingDiagnosticResponse = none
  | _ => True

namespace World

/-- The numbers in the log and in the task are those of requests that were taken, and no more were
taken than were issued. -/
structure Numbered (w : World) : Prop where
  effects : ∀ f id, .did f ∈ w.log → f.request = some id → id < w.taken
  held : ∀ id, w.inner.held = some id → id < w.taken
  taken : w.taken ≤ w.requests.length

/-- The message in the buffer was received at place `p`, after the message of every send that was
taken. A send that finds the buffer empty cannot break this. -/
def Buffered (w : World) (p : Nat) : Prop :=
  ∀ m, w.inner.pendingDiagnosticResponse = some m →
    w.log[p]? = some (.received (.ok m)) ∧ w.SentBefore p w.taken

variable {w w' : World}

/-- A request keeps its number, as requests are only ever added at the end. -/
theorem request_mono (hrequests : w.requests <+: w'.requests) {id : Nat}
    (hid : id < w.requests.length) : w'.requests[id]? = w.requests[id]? := by
  obtain ⟨more, hmore⟩ := hrequests
  rw [← hmore, List.getElem?_append_left hid]

theorem isSend_mono (hrequests : w.requests <+: w'.requests) {b : Nat}
    (hb : b < w.requests.length) (h : w'.IsSend b) : w.IsSend b := by
  rwa [IsSend, request_mono hrequests hb] at h

theorem isReceive_mono (hrequests : w.requests <+: w'.requests) {r : Nat}
    (hr : r < w.requests.length) (h : w'.IsReceive r) : w.IsReceive r := by
  rwa [IsReceive, request_mono hrequests hr] at h

theorem Numbered.idle (hsame : SameTask w w') (hw : w.Numbered) : w'.Numbered := by
  refine ⟨?_, ?_, ?_⟩
  · rw [hsame.log, hsame.taken]
    exact hw.effects
  · rw [hsame.inner, hsame.taken]
    exact hw.held
  · rw [hsame.taken]
    exact hw.taken.trans hsame.requests.length_le

theorem SentBefore.idle {p bound : Nat} (hsame : SameTask w w') (hw : w.SentBefore p bound)
    (hbound : bound ≤ w.requests.length) : w'.SentBefore p bound := by
  intro b hb hsend
  rw [hsame.log]
  exact hw b hb (isSend_mono hsame.requests (hb.trans_le hbound) hsend)

theorem Buffered.idle {p : Nat} (hsame : SameTask w w') (hnum : w.Numbered) (hw : w.Buffered p) :
    w'.Buffered p := by
  intro m hpending
  rw [hsame.inner] at hpending
  rw [hsame.log, hsame.taken]
  obtain ⟨hreceived, hsent⟩ := hw m hpending
  exact ⟨hreceived, hsent.idle hsame hnum.taken⟩

/-- A request the log says something about was taken, so its number is below that of the next
one. -/
theorem Numbered.lt_of_getElem? (hw : w.Numbered) {f : Effect} {k id : Nat}
    (h : w.log[k]? = some (.did f)) (hid : f.request = some id) : id < w.taken :=
  hw.effects f id (List.mem_of_getElem? h) hid

theorem Fresh.idle {receipt : Nat → Nat} (hsame : SameTask w w') (hnum : w.Numbered)
    (hw : w.Fresh receipt) : w'.Fresh receipt := by
  intro k r m hk hreceive
  rw [hsame.log] at hk ⊢
  have hr : r < w.requests.length := (hnum.lt_of_getElem? hk rfl).trans_le hnum.taken
  obtain ⟨hlt, hreceived, hsent⟩ := hw k r m hk (isReceive_mono hsame.requests hr hreceive)
  exact ⟨hlt, hreceived, hsent.idle hsame hr.le⟩

/-- A branch that takes a request is the control branch, it takes the next one, and there is one. -/
theorem select_request {branch : Branch} {select : Select} {id : Nat}
    (h : w.select branch = some select) (hid : select.request = some id) :
    branch = .control ∧ id = w.taken ∧ select.takes = 1 ∧ w.taken < w.requests.length := by
  cases selected_of_select h with
  | deadline | socket => cases hid
  | @control request hrequest =>
    refine ⟨rfl, ?_, rfl, (List.getElem?_eq_some_iff.mp hrequest).1⟩
    have hresponse : (request.create w.taken).response = w.taken := by cases request <;> rfl
    rw [Select.request, hresponse] at hid
    exact (Option.some.inj hid).symm

end World

section
variable {target : Target} {env : Env} {w : World} {branch : Branch} {select : Select}
  {r : EStateM.Result Panic Task Processed}

/-- The effects of a turn are what it adds to the log, but for the entry of the branch that was
selected. -/
theorem did_mem_new {f : Effect} {effects : List Effect} :
    .did f ∈ select.entries ++ effects.map .did ↔ f ∈ effects := by
  rw [List.mem_append, List.mem_map]
  constructor
  · rintro (h | ⟨g, hg, heq⟩)
    · cases select <;> simp [Select.entries] at h
    · cases heq
      exact hg
  · exact fun hf => .inr ⟨f, hf, rfl⟩

/-- A turn takes the next request or none, and never more than were issued. -/
theorem World.taken_of_select (hselect : w.select branch = some select) (hw : w.Numbered) :
    w.taken + select.takes ≤ w.requests.length := by
  cases select with
  | control message =>
    obtain ⟨-, -, htakes, hlt⟩ := World.select_request hselect rfl
    rw [htakes]
    exact hlt
  | deadline | socket => exact hw.taken

/-- The requests a turn is about have been taken after it: they were held before, or it takes
them. -/
theorem World.Numbered.lt_of_turn (hw : w.Numbered) (hselect : w.select branch = some select)
    {id : Nat} (hid : w.inner.held = some id ∨ select.request = some id) :
    id < w.taken + select.takes := by
  rcases hid with hid | hid
  · exact Nat.lt_add_right _ (hw.held id hid)
  · obtain ⟨-, rfl, htakes, -⟩ := World.select_request hselect hid
    rw [htakes]
    exact Nat.lt_succ_self _

theorem World.Numbered.turn (hselect : w.select branch = some select)
    (hturned : Turned target env w.inner select r) (hw : w.Numbered) :
    (w.finish select r).Numbered := by
  refine ⟨?_, ?_, ?_⟩
  · intro f id hf hid
    rw [World.finish_log] at hf
    rw [World.finish_taken]
    rcases List.mem_append.mp hf with hf | hf
    · exact Nat.lt_add_right _ (hw.effects f id hf hid)
    · exact hw.lt_of_turn hselect ((hturned.done f (did_mem_new.mp hf)).request_eq hid)
  · intro id hid
    rw [World.finish_inner] at hid
    rw [World.finish_taken]
    exact hw.lt_of_turn hselect (hturned.held_eq hid)
  · rw [World.finish_taken, World.finish_requests]
    exact World.taken_of_select hselect hw

theorem World.Numbered.step {w' : World} {a : Action} (hwaits : w.Waits)
    (h : w.step target a = some w') (hw : w.Numbered) : w'.Numbered := by
  cases World.step_cases hwaits h with
  | idle hsame => exact hw.idle hsame
  | turned hhead hselect hturned => exact hw.turn hselect hturned

/-- In every run, the numbers in the log and in the task are those of requests that were taken. -/
theorem World.numbered_of_run {options : ClientOptions} {actions : List Action}
    (hrun : run (World.step target) (World.start options) actions = some w) : w.Numbered := by
  refine World.run_invariant (P := World.Numbered) (fun w w' hsame hw => hw.idle hsame) ?_ ?_ hrun
  · intro w branch socketOpen connect select r hhead hwaiting hselect hturned hw
    exact hw.turn hselect hturned
  · exact ⟨fun f id h => (nomatch h), fun id h => (nomatch h), Nat.le_refl 0⟩

/-- A request that was not taken is unanswered: the log says nothing about it. -/
theorem World.Numbered.unanswered (hw : w.Numbered) {id : Nat} (hid : w.taken ≤ id) :
    answerTo w.log id = none := by
  refine answerTo_eq_none fun answer hmem => ?_
  have hlt := hw.effects _ id hmem rfl
  omega

/-- The only message a turn hands over for a request is that of the request it takes, on the control
branch. -/
theorem Turned.handed_new (hselect : w.select branch = some select)
    (hturned : Turned target env w.inner select r) {b : Nat} {message : OwnedMessage}
    (h : .did (.handed (some b) message) ∈ select.entries ++ (resultTask r).effects.map .did) :
    branch = .control ∧ b = w.taken ∧ select.request = some b := by
  have hrequest := (hturned.done _ (did_mem_new.mp h)).handed_request
  obtain ⟨hbranch, hb, -⟩ := World.select_request hselect hrequest
  exact ⟨hbranch, hb, hrequest⟩

/-- An entry of the log after a turn was there before, at the same place, or is one the turn has
written behind it. -/
theorem World.finish_getElem? {k : Nat} {e : Entry}
    (h : (w.finish select r).log[k]? = some e) :
    k < w.log.length ∧ w.log[k]? = some e ∨
      w.log.length ≤ k ∧ e ∈ select.entries ++ (resultTask r).effects.map .did := by
  rw [World.finish_log] at h
  rcases Nat.lt_or_ge k w.log.length with hk | hk
  · rw [List.getElem?_append_left hk] at h
    exact .inl ⟨hk, h⟩
  · rw [List.getElem?_append_right hk] at h
    exact .inr ⟨hk, List.mem_of_getElem? h⟩

theorem World.finish_getElem?_of_some {k : Nat} {e : Entry} (h : w.log[k]? = some e) :
    (w.finish select r).log[k]? = some e := by
  rw [World.finish_log, List.getElem?_append_left (List.getElem?_eq_some_iff.mp h).1]
  exact h

/-- A turn on a received message writes its receipt first, at what was the end of the log. -/
theorem World.finish_getElem?_length {m : OwnedMessage} :
    (w.finish (.socket (.ok m)) r).log[w.log.length]? = some (.received (.ok m)) := by
  rw [World.finish_log, List.getElem?_append_right (Nat.le_refl _), Nat.sub_self]
  rfl

/-- A turn hands over nothing for the requests before the one it takes, so that what was handed over
for them stays before place `p`. -/
theorem World.SentBefore.turn {p bound : Nat} (hselect : w.select branch = some select)
    (hturned : Turned target env w.inner select r) (hbound : bound ≤ w.taken)
    (hw : w.SentBefore p bound) : (w.finish select r).SentBefore p bound := by
  intro b hb hsend q message hq
  rw [World.IsSend, World.finish_requests] at hsend
  rcases World.finish_getElem? hq with ⟨-, hold⟩ | ⟨-, hnew⟩
  · exact hw b hb hsend q message hold
  · obtain ⟨-, rfl, -⟩ := hturned.handed_new hselect hnew
    omega

/-- Whatever was handed over stands before the end of the log. So does every send, seen from a
message that is being received. -/
theorem World.sentBefore_length (bound : Nat) : w.SentBefore w.log.length bound :=
  fun _ _ _ _ _ hq => (List.getElem?_eq_some_iff.mp hq).1

theorem World.Buffered.turn {receipts : Receipts} {socketOpen : Bool} {connect : Except Error Unit}
    (hselect : w.select branch = some select)
    (hguard : SendMeetsEmptyBuffer w (.turn branch socketOpen connect))
    (hturned : Turned target env w.inner select r) (hw : w.Buffered receipts.buffered) :
    (w.finish select r).Buffered (receipts.turn w select).buffered := by
  intro m hpending
  rw [World.finish_inner] at hpending
  rw [World.finish_taken]
  rcases hturned.pending_eq hpending with ⟨hbuffers, rfl⟩ | ⟨hbuffers, hbefore⟩
  · -- the message has just been received, and a turn of the socket takes no request
    rw [Receipts.turn_buffered_of_buffers hbuffers]
    exact ⟨World.finish_getElem?_length,
      (World.sentBefore_length _).turn hselect hturned (Nat.le_refl _)⟩
  · rw [Receipts.turn_buffered_of_not_buffers hbuffers]
    obtain ⟨hreceived, hsent⟩ := hw m hbefore
    refine ⟨World.finish_getElem?_of_some hreceived, ?_⟩
    intro b hb hsend
    rcases Nat.lt_or_ge b w.taken with hlt | hge
    · exact hsent.turn hselect hturned (Nat.le_refl _) b hlt hsend
    · -- a send that is taken in this turn finds the buffer empty
      rw [World.IsSend, World.finish_requests] at hsend
      cases select with
      | control message =>
        obtain ⟨rfl, -, htakes, -⟩ := World.select_request hselect rfl
        obtain rfl : b = w.taken := by omega
        rw [hguard hsend] at hbefore
        cases hbefore
      | deadline | socket => exact absurd hb (Nat.not_lt.mpr hge)

/-- What a turn returns has just been received, and then the sends before it are older; or it was in
the buffer, and then `World.Buffered` says so. -/
theorem World.Fresh.of_returned {receipts : Receipts} {k id : Nat} {m : OwnedMessage}
    (hselect : w.select branch = some select)
    (hturned : Turned target env w.inner select r) (hnum : w.Numbered)
    (hbuf : w.Buffered receipts.buffered) (hk : w.log.length ≤ k)
    (hentry : (w.finish select r).log[k]? = some (.did (.completed id (.message (.ok m)))))
    (hmem : .completed id (.message (.ok m)) ∈ (resultTask r).effects) :
    (receipts.turn w select).atHand k < k ∧
      (w.finish select r).log[(receipts.turn w select).atHand k]? = some (.received (.ok m)) ∧
      (w.finish select r).SentBefore ((receipts.turn w select).atHand k) id := by
  have hdone := hturned.done _ hmem
  have hid : id ≤ w.taken := by
    rcases hdone.request_eq rfl with hheld | hrequest
    · exact (hnum.held id hheld).le
    · exact (World.select_request hselect hrequest).2.1.le
  rw [Receipts.turn_atHand_of_le hk]
  rcases hdone.source with ⟨⟨request, rfl⟩, hpending⟩ | rfl
  · obtain ⟨hreceived, hsent⟩ := hbuf m hpending
    have hlt := (List.getElem?_eq_some_iff.mp hreceived).1
    have hsent' : w.SentBefore receipts.buffered id := fun b hb => hsent b (hb.trans_le hid)
    exact ⟨hlt.trans_le hk, World.finish_getElem?_of_some hreceived,
      hsent'.turn hselect hturned hid⟩
  · refine ⟨lt_of_le_of_ne hk ?_, World.finish_getElem?_length,
      (World.sentBefore_length _).turn hselect hturned hid⟩
    rintro rfl
    cases World.finish_getElem?_length.symm.trans hentry

theorem World.Fresh.turn {receipts : Receipts} (hselect : w.select branch = some select)
    (hturned : Turned target env w.inner select r) (hnum : w.Numbered)
    (hbuf : w.Buffered receipts.buffered) (hw : w.Fresh receipts.atHand) :
    (w.finish select r).Fresh (receipts.turn w select).atHand := by
  intro k id m hentry hreceive
  rw [World.IsReceive, World.finish_requests] at hreceive
  rcases World.finish_getElem? hentry with ⟨hk, hold⟩ | ⟨hk, hnew⟩
  · obtain ⟨hlt, hreceived, hsent⟩ := hw k id m hold hreceive
    rw [Receipts.turn_atHand_of_lt hk]
    exact ⟨hlt, World.finish_getElem?_of_some hreceived,
      hsent.turn hselect hturned (hnum.lt_of_getElem? hold rfl).le⟩
  · exact World.Fresh.of_returned hselect hturned hnum hbuf hk hentry (did_mem_new.mp hnew)

end

section
variable {target : Target} {options : ClientOptions} {actions : List Action} {w : World}

/-- **No stale response.** In every run whose sends are all taken while the buffer is empty, a
receive returns only messages received after the sends issued before it. -/
theorem responses_are_fresh
    (hrun : run (World.step target) (World.start options) actions = some w)
    (hsends : Along (World.step target) SendMeetsEmptyBuffer (World.start options) actions) :
    w.Fresh (World.receipts target (World.start options) actions).atHand := by
  have h := history_invariant_along (P := fun (receipts : Receipts) (w : World) =>
      w.Waits ∧ w.Numbered ∧ w.Buffered receipts.buffered ∧ w.Fresh receipts.atHand)
    Receipts.record ?_ ⟨0, fun _ => 0⟩ hsends hrun ⟨fun _ => .none, ?_, ?_, ?_⟩
  · exact h.2.2.2
  · rintro receipts w a w' hguard hstep ⟨hwaits, hnum, hbuf, hfresh⟩
    refine ⟨hwaits.step hstep, hnum.step hwaits hstep, ?_⟩
    cases World.step_cases hwaits hstep with
    | idle hsame hnone =>
      rw [Receipts.record, hnone]
      exact ⟨hbuf.idle hsame hnum, hfresh.idle hsame hnum⟩
    | turned hhead hselect hturned =>
      rw [Receipts.record, World.selected, hselect]
      exact ⟨hbuf.turn hselect hguard hturned, hfresh.turn hselect hturned hnum hbuf⟩
  · exact ⟨fun f id h => (nomatch h), fun id h => (nomatch h), Nat.le_refl 0⟩
  · intro m h
    cases h
  · intro k r m h
    cases h

end

/-- A positive acknowledgement from the entity, with no copy of the message it acknowledges. -/
def positiveAck : OwnedMessage where
  header := Header.new .v2012 .diagnosticMessagePositiveAcknowledge 5
  payload := .diagnosticMessageAck {
    sourceAddress := ⟨0x0001⟩, targetAddress := ⟨0x0E00⟩,
    ackCode := .routingConfirmationAck, previousMessageData := [] }

/-- The socket delivers a message to the task, which then makes its turn on it. -/
def deliver (m : OwnedMessage) : Action := .turn (.socket (.message m)) true (.ok ())

/-- A diagnostic message is sent, and its acknowledgement arrives. -/
def acknowledgedSend (userData : List UInt8) : List Action :=
  issueAndTake (.sendDiagnosticMessage (diagnosticFrom 0x0E00 0x0001 userData)) ++
    [deliver positiveAck]

/-- The response to the first request of the runs below. -/
def lateResponse : OwnedMessage := diagnosticFrom 0x0001 0x0E00 [0x62, 0xF1, 0x90]

/-- A first request is sent, its receive times out, and its response comes after that, with no
request active. -/
def timedOutRun : List Action :=
  issueAndTake (.bindSocket ⟨13400⟩) ++ (acknowledgedSend [0x22, 0xF1, 0x90] ++
    (issueAndTake (.receiveDiagnosticResponse 1000) ++
      [.wait 1000, .turn .deadline true (.ok ()),
        deliver lateResponse]))

/-- A second request is sent and acknowledged, and its receive comes at once. -/
def staleRun : List Action :=
  timedOutRun ++ (acknowledgedSend [0x3E, 0x00] ++
    issueAndTake (.receiveDiagnosticResponse 1000))

/-- The log of it. The response to the first request stands at place 8, the message of the second
one at place 10, and at place 14 is what the second receive returns. -/
def staleLog : List Entry :=
  [.taken 0, .did (.completed 0 (.port (.ok 13400))),
    .taken 1, .did (.handed (some 1) (diagnosticFrom 0x0E00 0x0001 [0x22, 0xF1, 0x90])),
    .received (.ok positiveAck), .did (.completed 1 (.done (.ok ()))),
    .taken 2, .did (.completed 2 (.message (.error .responseTimeoutExceeded))),
    .received (.ok lateResponse), .taken 3,
    .did (.handed (some 3) (diagnosticFrom 0x0E00 0x0001 [0x3E, 0x00])),
    .received (.ok positiveAck), .did (.completed 3 (.done (.ok ()))),
    .taken 4, .did (.completed 4 (.message (.ok lateResponse)))]

/-- The second receive returns the response to the first request, which is nowhere received after
the message of the second request. -/
theorem stale_response :
    ∃ w, run (World.step releaseTarget) (World.start testerOptions) staleRun = some w ∧
      w.IsSend 3 ∧ w.IsReceive 4 ∧ w.log = staleLog ∧
      (World.receipts releaseTarget (World.start testerOptions) staleRun).atHand 14 = 8 ∧
      ¬ w.Fresh (World.receipts releaseTarget (World.start testerOptions) staleRun).atHand := by
  have h : ∃ w, run (World.step releaseTarget) (World.start testerOptions) staleRun = some w ∧
      w.IsSend 3 ∧ w.IsReceive 4 ∧ w.log = staleLog :=
    ⟨_, rfl, ⟨_, rfl⟩, ⟨_, rfl⟩, rfl⟩
  obtain ⟨w, hrun, hsend, hreceive, hlog⟩ := h
  have hreceipt :
      (World.receipts releaseTarget (World.start testerOptions) staleRun).atHand 14 = 8 := rfl
  refine ⟨w, hrun, hsend, hreceive, hlog, hreceipt, ?_⟩
  intro hfresh
  have hsent := (hfresh 14 4 lateResponse (by rw [hlog]; rfl) hreceive).2.2
  have hlt := hsent 3 (by omega) hsend 10 _ (by rw [hlog]; rfl)
  omega

/-- The response to the request comes while its receive waits. -/
def timelyRun : List Action :=
  issueAndTake (.bindSocket ⟨13400⟩) ++ (acknowledgedSend [0x22, 0xF1, 0x90] ++
    (issueAndTake (.receiveDiagnosticResponse 1000) ++ [deliver lateResponse]))

/-- A response that comes in time is returned, and it is fresh: it was received after the send. -/
theorem responses_are_fresh_timely :
    ∃ w, run (World.step releaseTarget) (World.start testerOptions) timelyRun = some w ∧
      w.IsSend 1 ∧ w.IsReceive 2 ∧
      .did (.completed 2 (.message (.ok lateResponse))) ∈ w.log ∧
      w.Fresh (World.receipts releaseTarget (World.start testerOptions) timelyRun).atHand := by
  have hsends : Along (World.step releaseTarget) SendMeetsEmptyBuffer
      (World.start testerOptions) timelyRun :=
    along_cons trivial rfl <| along_cons (fun _ => rfl) rfl <|
    along_cons trivial rfl <| along_cons (fun _ => rfl) rfl <| along_cons trivial rfl <|
    along_cons trivial rfl <| along_cons (fun _ => rfl) rfl <| along_cons trivial rfl trivial
  have h : ∃ w, run (World.step releaseTarget) (World.start testerOptions) timelyRun = some w ∧
      w.IsSend 1 ∧ w.IsReceive 2 ∧
      .did (.completed 2 (.message (.ok lateResponse))) ∈ w.log :=
    ⟨_, rfl, ⟨_, rfl⟩, ⟨_, rfl⟩, List.mem_of_getLast? rfl⟩
  obtain ⟨w, hrun, hsend, hreceive, hmem⟩ := h
  exact ⟨w, hrun, hsend, hreceive, hmem, responses_are_fresh hrun hsends⟩

end SimpleDoip
