import SimpleDoip.Session.LongSession
import SimpleDoip.Session.Phases

/-!
# Client and entity agree

Every move of a session keeps the joint invariant, and every move but waiting uses up some of the
cost; in every phase some move is possible, until the last exchange is over. So every interleaving
ends, with every result in place and every request served once, in order.
-/

namespace SimpleDoip

open Framing Transition

section
variable {ι : Type} [WireCodec ι] {π : Type} {c : Setting} {cb : Callbacks π} {own : UInt16}
  {net net' : Network π} {id : Nat} {past : List Answer} {x : Exchange} {xs : List Exchange}
  {r : List UInt8} {rs : List (List UInt8)} {y : Session π × Platform π} {move : Move}

/-! ## Every move keeps the invariant -/

section
variable (h : Joint ι c cb own net id past xs rs y)
include h

theorem Joint.call (hplan : Planned ι c own xs rs y) (hlink : net.link = .up)
    (hstep : net.step ι c.target c.horizon .call = some net') :
    Advances ι c cb own net .call id past xs rs y := by
  cases h with
  | idle hends hcargo =>
    cases xs with
    | nil =>
      rw [Network.step_call_done (by rw [hends.user]; rfl)] at hstep
      cases hstep
    | cons x xs =>
      obtain ⟨r, rs, rfl⟩ := hplan.exists_response
      exact hends.callSend hcargo (hplan.fits x List.mem_cons_self) hlink
  | busy h =>
    cases h with
    | sendReturned hends hmail => exact hends.callReceive hmail hlink
    | sendIssued hends | sendOut hends | sendArriving hends | sendServed hends | sendAnswered hends
    | receiveIssued hends | receiveWaits hends | receiveAnswered hends =>
      rw [Network.step_call_awaiting (by rw [hends.user])] at hstep
      cases hstep

/-- The return of a send goes on within the exchange; the return of a receive ends it, and then the
invariant holds of what is left of the session. -/
theorem Joint.return (hlink : net.link = .up)
    (hstep : net.step ι c.target c.horizon .return = some net') :
    Advances ι c cb own net .return id past xs rs y ∨
    ∃ x xs' r rs', xs = x :: xs' ∧ rs = r :: rs' ∧
      Advances ι c cb own net .return (id + 2) (past ++ exchangeResults ι own c.tester r) xs' rs'
        (dispatch (ι := ι) c.tester x.userData y) := by
  cases h with
  | idle hends hcargo =>
    rw [Network.step_return_none (by rw [hends.user])] at hstep
    cases hstep
  | busy h =>
    cases h with
    | sendAnswered hends hanswer hmail => exact .inl (hends.returnSend hanswer hmail hlink)
    | receiveAnswered hends hanswer hcargo =>
      exact .inr ⟨_, _, _, _, rfl, rfl, hends.returnReceive hanswer hcargo hlink⟩
    | sendReturned hends hmail =>
      rw [Network.step_return_none (by rw [hends.user])] at hstep
      cases hstep
    | sendIssued hends | sendOut hends | sendArriving hends | sendServed hends | receiveIssued hends
    | receiveWaits hends =>
      rw [Network.step_return_unanswered (by rw [hends.user]) (hends.log _ (Nat.le_refl _))]
        at hstep
      cases hstep

theorem Joint.takeRequest (hplan : Planned ι c own xs rs y) (hlink : net.link = .up)
    (hstep : net.step ι c.target c.horizon .takeRequest = some net') :
    Advances ι c cb own net .takeRequest id past xs rs y := by
  rw [Network.step_takeRequest] at hstep
  cases h with
  | idle hends hcargo =>
    rw [Network.turn_none hlink (hends.client.step_control_none _)] at hstep
    cases hstep
  | busy h =>
    cases h with
    | sendIssued hends hcargo => exact hends.takeSend hcargo hplan.sendTime hlink
    | receiveIssued hends hmail =>
      exact hends.takeReceive hmail (hplan.receiveTime _ List.mem_cons_self) hlink
    | sendOut hends | sendArriving hends | sendServed hends | sendAnswered hends
    | sendReturned hends | receiveWaits hends | receiveAnswered hends =>
      rw [Network.turn_none hlink (hends.client.step_control_none _)] at hstep
      cases hstep

/-- A message meets the client in a phase that waits for it, or goes to the buffer as a response
that is early. -/
theorem Joint.takeMessage (hfirst : c.first ≤ id) (hlink : net.link = .up) {m : OwnedMessage}
    {rest : List OwnedMessage} (hfrom : net.fromSocket = m :: rest) :
    Advances ι c cb own net .takeMessage id past xs rs y := by
  have habsurd : ¬ net.fromSocket = [] := by
    rw [hfrom]
    exact List.cons_ne_nil _ _
  cases h with
  | idle hends hcargo => exact absurd hcargo.nothing.fromSocket habsurd
  | busy h =>
    cases h with
    | sendIssued hends hcargo => exact absurd hcargo.nothing.fromSocket habsurd
    | sendOut hends hcargo => exact absurd hcargo.fromSocket habsurd
    | sendArriving hends hcargo => exact absurd hcargo.fromSocket habsurd
    | sendServed hends hcargo => exact hends.takeAck hcargo hlink hfrom
    | sendAnswered hends hanswer hmail =>
      obtain ⟨net', _, hstep, hends', hmail', hsame, hup⟩ := hends.takeEarly hmail hlink hfrom
      rw [← hsame] at hanswer
      exact ⟨net', hstep, .busy (.sendAnswered hends' hanswer hmail'), hup⟩
    | sendReturned hends hmail =>
      obtain ⟨net', _, hstep, hends', hmail', -, hup⟩ := hends.takeEarly hmail hlink hfrom
      exact ⟨net', hstep, .busy (.sendReturned hends' hmail'), hup⟩
    | receiveIssued hends hmail =>
      obtain ⟨net', _, hstep, hends', hmail', -, hup⟩ := hends.takeEarly hmail hlink hfrom
      exact ⟨net', hstep, .busy (.receiveIssued hends' hmail'), hup⟩
    | receiveWaits hends hcargo => exact hends.takeResponse hcargo hfirst hlink hfrom
    | receiveAnswered hends hanswer hcargo => exact absurd hcargo.nothing.fromSocket habsurd

theorem Joint.write (hplan : Planned ι c own xs rs y) (hlink : net.link = .up)
    (hstep : net.step ι c.target c.horizon .write = some net') :
    Advances ι c cb own net .write id past xs rs y := by
  have hnone : net.toSocket ≠ [] := by
    intro hto
    rw [Network.step_write_none hto] at hstep
    cases hstep
  cases h with
  | idle hends hcargo => exact absurd hcargo.toSocket hnone
  | busy h =>
    cases h with
    | sendOut hends hcargo => exact hends.write hcargo (hplan.fits _ List.mem_cons_self) hlink
    | sendIssued _ hcargo | sendArriving _ hcargo | sendServed _ hcargo | receiveWaits _ hcargo
    | receiveAnswered _ _ hcargo => exact absurd hcargo.toSocket hnone
    | sendAnswered _ _ hmail | sendReturned _ hmail | receiveIssued _ hmail =>
      exact absurd hmail.toSocket hnone

theorem Joint.arrive (hplan : Planned ι c own xs rs y) (hlink : net.link = .up) {n : Nat}
    (hstep : net.step ι c.target c.horizon (.arrive n) = some net') :
    Advances ι c cb own net (.arrive n) id past xs rs y := by
  have hn : 0 < n ∧ n ≤ net.uplink.length := by
    by_contra hn
    rw [Network.step_arrive_none hn] at hstep
    cases hstep
  have hnone : net.uplink ≠ [] := by
    intro hnil
    rw [hnil] at hn
    exact absurd hn.2 (Nat.not_le_of_lt hn.1)
  cases h with
  | idle hends hcargo => exact absurd hcargo.uplink hnone
  | busy h =>
    cases h with
    | sendArriving hends hcargo => exact hends.arrive hcargo hplan hlink hn
    | sendIssued _ hcargo | sendOut _ hcargo | sendServed _ hcargo | receiveWaits _ hcargo
    | receiveAnswered _ _ hcargo => exact absurd hcargo.uplink hnone
    | sendAnswered _ _ hmail | sendReturned _ hmail | receiveIssued _ hmail =>
      exact absurd hmail.uplink hnone

theorem Joint.read (hplan : Planned ι c own xs rs y) (hlink : net.link = .up) {n : Nat}
    (hstep : net.step ι c.target c.horizon (.read n) = some net') :
    Advances ι c cb own net (.read n) id past xs rs y := by
  have hn : 0 < n ∧ n ≤ net.downlink.length := by
    by_contra hn
    rw [Network.step_read_none hn] at hstep
    cases hstep
  refine ⟨_, Network.step_read hn, h.sameEnds hplan (sameEnds_read hn), hlink, ?_⟩
  simp only [Network.cost, List.length_append, List.length_take, List.length_drop]
  omega

theorem Joint.decode (hplan : Planned ι c own xs rs y) (hlink : net.link = .up)
    (hstep : net.step ι c.target c.horizon .decode = some net') :
    Advances ι c cb own net .decode id past xs rs y := by
  obtain ⟨reply, rest, hbuffer, rfl, hsame⟩ := h.decode_cases hplan hstep
  refine ⟨_, hstep, h.sameEnds hplan hsame, hlink, ?_⟩
  have hlen := congrArg List.length hbuffer
  rw [List.length_append, Reply.length_frame] at hlen
  simp only [Network.cost, List.length_append, List.length_cons, List.length_nil]
  omega

theorem Joint.wait (hplan : Planned ι c own xs rs y) {d : Nat}
    (hstep : net.step ι c.target c.horizon (.wait d) = some net') :
    Joint ι c cb own net' id past xs rs y ∧ net'.link = net.link ∧ net'.cost = net.cost := by
  have hd : net.client.clock + d ≤ c.horizon := by
    by_contra hd
    rw [Network.step_wait_none hd] at hstep
    cases hstep
  rw [Network.step_wait hd] at hstep
  cases hstep
  exact ⟨h.sameEnds hplan (sameEnds_wait hd), rfl, rfl⟩

/-- **Every move but waiting advances the exchange, or ends it.** In each phase few moves are
possible, and each of them goes on within the phase or leads to the next one. -/
theorem Joint.step (hplan : Planned ι c own xs rs y) (hfirst : c.first ≤ id)
    (hlink : net.link = .up) (hmove : move.isWait = false)
    (hstep : net.step ι c.target c.horizon move = some net') :
    Advances ι c cb own net move id past xs rs y ∨
    ∃ x xs' r rs', xs = x :: xs' ∧ rs = r :: rs' ∧
      Advances ι c cb own net move (id + 2) (past ++ exchangeResults ι own c.tester r) xs' rs'
        (dispatch (ι := ι) c.tester x.userData y) := by
  cases move with
  | call => exact .inl (h.call hplan hlink hstep)
  | «return» => exact h.return hlink hstep
  | wait d => cases hmove
  | takeRequest => exact .inl (h.takeRequest hplan hlink hstep)
  | takeMessage =>
    cases hfrom : net.fromSocket with
    | nil =>
      rw [Network.step_takeMessage_none hfrom] at hstep
      cases hstep
    | cons m rest => exact .inl (h.takeMessage hfirst hlink hfrom)
  | write => exact .inl (h.write hplan hlink hstep)
  | arrive n => exact .inl (h.arrive hplan hlink hstep)
  | read n => exact .inl (h.read hplan hlink hstep)
  | decode => exact .inl (h.decode hplan hlink hstep)

end

/-! ## What the phases have in common -/

/-- In every phase the two ends are in place, with at most the send's result ahead of `past` and at
most the exchange's request served. -/
theorem Busy.ends (h : Busy ι c cb own net id past x xs r y) :
    ∃ user active pending queue taken room unanswered y',
      Ends c cb net user active pending queue taken room unanswered y' ∧
      (user.results = past ∨ user.results = past ++ [.done (.ok ())]) ∧
      (y' = y ∨ y' = dispatch (ι := ι) c.tester x.userData y) := by
  cases h with
  | sendIssued hends | sendOut hends | sendArriving hends =>
    exact ⟨_, _, _, _, _, _, _, _, hends, .inl rfl, .inl rfl⟩
  | sendServed hends | sendAnswered hends =>
    exact ⟨_, _, _, _, _, _, _, _, hends, .inl rfl, .inr rfl⟩
  | sendReturned hends | receiveIssued hends | receiveWaits hends | receiveAnswered hends =>
    exact ⟨_, _, _, _, _, _, _, _, hends, .inr rfl, .inr rfl⟩

theorem Joint.head (h : Joint ι c cb own net id past xs rs y) : net.client.phase = .loopHead := by
  cases h with
  | idle hends hcargo => exact hends.client.head
  | busy h =>
    obtain ⟨_, _, _, _, _, _, _, _, hends, -, -⟩ := h.ends
    exact hends.client.head

theorem Joint.results (h : Joint ι c cb own net id past xs rs y) :
    net.user.results <+: past ++ rs.flatMap (exchangeResults ι own c.tester) := by
  cases h with
  | idle hends hcargo =>
    rw [hends.user]
    exact List.prefix_append _ _
  | busy h =>
    obtain ⟨_, _, _, _, _, _, _, _, hends, hresults, -⟩ := h.ends
    rw [hends.user]
    rcases hresults with hresults | hresults
    · rw [hresults]
      exact List.prefix_append _ _
    · rw [hresults, List.flatMap_cons, exchangeResults, List.cons_append]
      exact (List.prefix_append_right_inj past).mpr ⟨_, rfl⟩

/-- A request that is answered is dispatched once, behind what was dispatched before. -/
theorem AnswersWith.udsRequests {tester : UInt16} {request response : List UInt8}
    (h : AnswersWith (ι := ι) tester request response y) :
    udsRequests (dispatch (ι := ι) tester request y).2.calls =
      SimpleDoip.udsRequests y.2.calls ++ [request] := by
  rw [h.calls, SimpleDoip.udsRequests, List.filterMap_append]
  rfl

theorem Joint.served (h : Joint ι c cb own net id past xs rs y) (hplan : Planned ι c own xs rs y) :
    ∃ served, udsRequests net.platform.calls = udsRequests y.2.calls ++ served ∧
      served <+: xs.map Exchange.userData := by
  cases h with
  | idle hends hcargo =>
    have hplatform : net.platform = y.2 := congrArg Prod.snd hends.entity.session
    refine ⟨[], ?_, List.nil_prefix⟩
    rw [hplatform, List.append_nil]
  | busy h =>
    obtain ⟨_, _, _, _, _, _, _, y', hends, -, hy⟩ := h.ends
    have hplatform : net.platform = y'.2 := congrArg Prod.snd hends.entity.session
    rcases hy with rfl | rfl
    · refine ⟨[], ?_, List.nil_prefix⟩
      rw [hplatform, List.append_nil]
    · refine ⟨_, ?_, List.prefix_cons_inj _ |>.mpr List.nil_prefix⟩
      rw [hplatform, hplan.answered.udsRequests]

/-! ## Only the end of a session is quiet -/

/-- Nothing can happen but time. A session that is not quiet has a move before it. -/
def Quiet (ι : Type) [WireCodec ι] (c : Setting) (net : Network π) : Prop :=
  ∀ move : Move, (!move.isWait) = true → net.step ι c.target c.horizon move = none

theorem Advances.not_quiet (h : Advances ι c cb own net move id past xs rs y)
    (hmove : (!move.isWait) = true) : ¬ Quiet ι c net := by
  intro hquiet
  obtain ⟨net', hstep, -⟩ := h
  rw [hquiet move hmove] at hstep
  cases hstep

/-- While replies are on their way, something can happen: bytes can be read, or there is a whole
reply in the read buffer to be decoded. -/
theorem Inbound.not_quiet {replies : List Reply} (h : Inbound ι own c.tester net replies)
    (hreplies : replies ≠ []) (hfits : ∀ reply ∈ replies, reply.Fits)
    (hfrom : net.fromSocket = []) : ¬ Quiet ι c net := by
  intro hquiet
  obtain ⟨move, net', hmove, hstep⟩ := h.progress hreplies hfrom hfits c.target c.horizon
  have hwait : (!move.isWait) = true := by
    rcases hmove with rfl | rfl
    · rfl
    · rfl
  rw [hquiet move hwait] at hstep
  cases hstep

/-- In every phase of an exchange something can happen, so no exchange comes to a halt before its
end. -/
theorem Busy.not_quiet (h : Busy ι c cb own net id past x xs r y)
    (hplan : Planned ι c own (x :: xs) (r :: rs) y) (hfirst : c.first ≤ id)
    (hlink : net.link = .up) : ¬ Quiet ι c net := by
  have hr := hplan.answered.cap
  have hjoint : Joint ι c cb own net id past (x :: xs) (r :: rs) y := .busy h
  cases hfrom : net.fromSocket with
  | cons m rest => exact (hjoint.takeMessage hfirst hlink hfrom).not_quiet rfl
  | nil =>
    cases h with
    | sendIssued hends hcargo =>
      have htake : Advances ι c cb own net .takeRequest id past (x :: xs) (r :: rs) y :=
        hends.takeSend hcargo hplan.sendTime hlink
      exact htake.not_quiet rfl
    | sendOut hends hcargo =>
      have hwrite : Advances ι c cb own net .write id past (x :: xs) (r :: rs) y :=
        hends.write hcargo (hplan.fits x List.mem_cons_self) hlink
      exact hwrite.not_quiet rfl
    | sendArriving hends hcargo =>
      have hpos := List.length_pos_of_ne_nil hcargo.uplink
      exact (hends.arrive hcargo hplan hlink (n := 1) ⟨Nat.one_pos, hpos⟩).not_quiet rfl
    | sendServed hends hcargo =>
      exact hcargo.not_quiet (List.cons_ne_nil _ _) (fits_replies hr) hfrom
    | sendAnswered hends hanswer hmail =>
      have hreturn : Advances ι c cb own net .return id past (x :: xs) (r :: rs) y :=
        hends.returnSend hanswer hmail hlink
      exact hreturn.not_quiet rfl
    | sendReturned hends hmail =>
      have hcall : Advances ι c cb own net .call id past (x :: xs) (r :: rs) y :=
        hends.callReceive hmail hlink
      exact hcall.not_quiet rfl
    | receiveIssued hends hmail =>
      have htake : Advances ι c cb own net .takeRequest id past (x :: xs) (r :: rs) y :=
        hends.takeReceive hmail (hplan.receiveTime x List.mem_cons_self) hlink
      exact htake.not_quiet rfl
    | receiveWaits hends hcargo =>
      exact hcargo.not_quiet (List.cons_ne_nil _ _) (fits_response hr) hfrom
    | receiveAnswered hends hanswer hcargo =>
      have hreturn : Advances ι c cb own net .return (id + 2)
          (past ++ exchangeResults ι own c.tester r) xs rs
          (dispatch (ι := ι) c.tester x.userData y) :=
        hends.returnReceive hanswer hcargo hlink
      exact hreturn.not_quiet rfl

/-- **A session that is quiet is over**: no exchange is left, the user has the results of all of
them, and the platform has seen what they lead to. -/
theorem Joint.over (h : Joint ι c cb own net id past xs rs y) (hplan : Planned ι c own xs rs y)
    (hfirst : c.first ≤ id) (hlink : net.link = .up) (hquiet : Quiet ι c net) :
    xs = [] ∧ net.user.results = past ∧ net.platform = y.2 := by
  cases h with
  | idle hends hcargo =>
    cases xs with
    | nil =>
      refine ⟨rfl, ?_, congrArg Prod.snd hends.entity.session⟩
      rw [hends.user]
    | cons x xs =>
      obtain ⟨r, rs, rfl⟩ := hplan.exists_response
      have hcall : Advances ι c cb own net .call id past (x :: xs) (r :: rs) y :=
        hends.callSend hcargo (hplan.fits x List.mem_cons_self) hlink
      exact absurd hquiet (hcall.not_quiet rfl)
  | busy h => exact absurd hquiet (h.not_quiet hplan hfirst hlink)

/-! ## Whole sessions -/

section
variable (ι) (c : Setting) (cb : Callbacks π) (own : UInt16)

/-- A session that is about to begin: the user has the calls of `xs` to make, the client is idle
with an empty buffer and room in its session counter, nothing is in flight, the entity's buffer is
empty, and the plan holds. -/
structure Ready (net : Network π) (xs : List Exchange) (rs : List (List UInt8)) : Prop
    extends NothingInbound net where
  user : net.user = ⟨xs.flatMap Exchange.calls, none, []⟩
  client : c.ClientAt net.client none none [] c.first xs.length
  log : Unanswered net.client.log c.first
  toSocket : net.toSocket = []
  uplink : net.uplink = []
  callbacks : net.entity.callbacks = some cb
  rxLen : net.entity.rxLen = 0
  link : net.link = .up
  plan : Planned ι c own xs rs (net.entity.session cb, net.platform)

/-- A session under way. `results` and `requests` are what it comes to, `before` is what the
platform had dispatched when it began, and `served` what it has dispatched for the exchanges that
are over. -/
structure Underway (results : List Answer) (before requests : List (List UInt8)) (net : Network π)
    (id : Nat) (past : List Answer) (served : List (List UInt8)) (xs : List Exchange)
    (rs : List (List UInt8)) (y : Session π × Platform π) : Prop where
  joint : Joint ι c cb own net id past xs rs y
  plan : Planned ι c own xs rs y
  first : c.first ≤ id
  link : net.link = .up
  results_eq : past ++ rs.flatMap (exchangeResults ι own c.tester) = results
  served_eq : udsRequests y.2.calls = before ++ served
  requests_eq : served ++ xs.map Exchange.userData = requests

/-- A session under way, wherever it is: which exchanges are over and which are left is known only
to exist. -/
def Going (results : List Answer) (before requests : List (List UInt8)) (net : Network π) : Prop :=
  ∃ id past served xs rs y,
    Underway ι c cb own results before requests net id past served xs rs y

end

section
variable {results : List Answer} {before requests served : List (List UInt8)}

/-- The exchange that has just ended moves from what is left to what is over, and the results and
requests it comes to are the same as before. -/
theorem Underway.tail
    (h : Underway ι c cb own results before requests net id past served (x :: xs) (r :: rs) y)
    (hjoint : Joint ι c cb own net' (id + 2) (past ++ exchangeResults ι own c.tester r) xs rs
      (dispatch (ι := ι) c.tester x.userData y)) (hlink : net'.link = .up) :
    Underway ι c cb own results before requests net' (id + 2)
      (past ++ exchangeResults ι own c.tester r) (served ++ [x.userData]) xs rs
      (dispatch (ι := ι) c.tester x.userData y) where
  joint := hjoint
  plan := h.plan.tail
  first := Nat.le_add_right_of_le h.first
  link := hlink
  results_eq := by
    rw [List.append_assoc, ← List.flatMap_cons]
    exact h.results_eq
  served_eq := by
    rw [h.plan.answered.udsRequests, h.served_eq, List.append_assoc]
  requests_eq := by
    rw [List.append_assoc]
    exact h.requests_eq

/-- **The step**: every move keeps a session going, and every move but waiting uses up some of its
cost. -/
theorem Going.step (net : Network π) (move : Move) (net' : Network π)
    (hstep : net.step ι c.target c.horizon move = some net')
    (h : Going ι c cb own results before requests net) :
    Going ι c cb own results before requests net' ∧
      net'.cost + (if (!move.isWait) = true then 1 else 0) ≤ net.cost := by
  obtain ⟨id, past, served, xs, rs, y, h⟩ := h
  cases hmove : move.isWait with
  | true =>
    cases move with
    | wait d =>
      obtain ⟨hjoint, hlink, hcost⟩ := h.joint.wait h.plan hstep
      exact ⟨⟨id, past, served, xs, rs, y, { h with joint := hjoint, link := hlink.trans h.link }⟩,
        hcost.le⟩
    | _ => cases hmove
  | false =>
    rcases h.joint.step h.plan h.first h.link hmove hstep with
      ⟨net'', hstep', hjoint, hlink, hcost⟩ |
      ⟨x, xs', r, rs', rfl, rfl, net'', hstep', hjoint, hlink, hcost⟩
    · rw [hstep'] at hstep
      cases hstep
      exact ⟨⟨id, past, served, xs, rs, y, { h with joint := hjoint, link := hlink }⟩, hcost⟩
    · rw [hstep'] at hstep
      cases hstep
      exact ⟨⟨_, _, _, _, _, _, h.tail hjoint hlink⟩, hcost⟩

end

theorem length_calls (xs : List Exchange) :
    (xs.flatMap Exchange.calls).length = 2 * xs.length := by
  induction xs with
  | nil => rfl
  | cons x xs ih =>
    have hx : x.calls.length = 2 := rfl
    rw [List.flatMap_cons, List.length_append, ih, hx, List.length_cons]
    omega

section
variable (hready : Ready ι c cb own net xs rs)
include hready

theorem Ready.going :
    Going ι c cb own (rs.flatMap (exchangeResults ι own c.tester)) (udsRequests net.platform.calls)
      (xs.map Exchange.userData) net := by
  have hresidue : net.entity.residue = [] := by
    rw [Entity.residue, hready.rxLen, List.take_zero]
  have hentity : EntityAt cb net.entity net.platform (net.entity.session cb, net.platform) :=
    ⟨hready.callbacks, rfl, by rw [hready.rxLen]; exact Nat.zero_le _⟩
  have hcargo : Inbound ι own c.tester net [] := by
    refine ⟨hready.toSocket, hready.uplink, hresidue, [], [], rfl, hready.fromSocket, ?_⟩
    rw [hready.readBuffer, hready.downlink]
    rfl
  refine ⟨c.first, [], [], xs, rs, _,
    .idle ⟨hready.user, hready.client, hready.log, hentity⟩ hcargo, hready.plan, Nat.le_refl _,
    hready.link, List.nil_append _, ?_, List.nil_append _⟩
  exact (List.append_nil _).symm

theorem Ready.cost : net.cost = 10002 * xs.length := by
  simp only [Network.cost, hready.user, hready.client.backlog, hready.toSocket, hready.uplink,
    hready.downlink, hready.readBuffer, hready.fromSocket, length_calls, uplinkCost_nil,
    List.length_nil, Option.toList_none]
  omega

/-- A session can always be played to its end: the cost is finite, and as long as something can
happen, some move uses it up. -/
theorem Ready.exists_quiet :
    ∃ moves net', run (Network.step ι c.target c.horizon) net moves = some net' ∧
      Quiet ι c net' :=
  exists_run_to_end Going.step hready.going

/-- **Client and entity agree.** In every interleaving of a session the client stays in its loop and
the connection up; the results of the calls so far are the first of those expected, and the requests
dispatched are the first of those sent, each once. There are at most `10002` moves an exchange that
are not waiting, and when nothing else can happen, every call has its result and every request was
dispatched. -/
theorem client_and_entity_agree {moves : List Move}
    (hrun : run (Network.step ι c.target c.horizon) net moves = some net') :
    net'.client.phase = .loopHead ∧ net'.link = .up ∧
    net'.user.results <+: rs.flatMap (exchangeResults ι own c.tester) ∧
    (∃ served, udsRequests net'.platform.calls = udsRequests net.platform.calls ++ served ∧
      served <+: xs.map Exchange.userData) ∧
    moves.countP (fun move => !move.isWait) ≤ 10002 * xs.length ∧
    (Quiet ι c net' → net'.user.results = rs.flatMap (exchangeResults ι own c.tester) ∧
      udsRequests net'.platform.calls =
        udsRequests net.platform.calls ++ xs.map Exchange.userData) := by
  obtain ⟨⟨id, past, done, xs', rs', y, h⟩, hcost⟩ := run_measure Going.step hrun hready.going
  rw [hready.cost] at hcost
  obtain ⟨served, hserved, hprefix⟩ := h.joint.served h.plan
  rw [h.served_eq, List.append_assoc] at hserved
  refine ⟨h.joint.head, h.link, ?_, ⟨_, hserved, ?_⟩, by omega, fun hquiet => ?_⟩
  · rw [← h.results_eq]
    exact h.joint.results
  · rw [← h.requests_eq]
    exact (List.prefix_append_right_inj done).mpr hprefix
  · obtain ⟨rfl, hresults, hplatform⟩ := h.joint.over h.plan h.first h.link hquiet
    have hrs : rs' = [] := by
      cases rs' with
      | nil => rfl
      | cons r rs' => exact h.plan.answers.elim
    constructor
    · rw [hresults, ← h.results_eq, hrs, List.flatMap_nil, List.append_nil]
    · rw [hplatform, h.served_eq, ← h.requests_eq, List.map_nil, List.append_nil]

end

end

/-! ## A session of one exchange -/

/-- A platform that answers every request with the response to a tester present, `7E 00`, and sends
all it is given. -/
def presentCallbacks : Callbacks Unit where
  sendUdp _ _ _ s := (0, s)
  sendTcp _ s := (0, s)
  onUdsRequest _ buf s :=
    (2, ⟨[0x7E, 0x00] ++ buf.toList.drop 2, by
      rw [List.length_append, List.length_drop, buf.toList_length]
      decide⟩, s)

/-- The entity, with the routing activation of the tester at `0x0E00` granted already. -/
def presentEntity : Entity Unit :=
  { Entity.init .new blankConfig presentCallbacks with activeTester := some 0x0E00 }

/-- The options of a tester of that entity, which differ from `testerOptions` in the server's
address only. -/
def sessionOptions : ClientOptions := { testerOptions with serverLogicalAddress := ⟨0x1000⟩ }

/-- One tester present, `3E 00`, to the entity's logical address, and its response. -/
def presentExchange : Exchange := ⟨.logical, [0x3E, 0x00], 1000⟩

/-- The user of that exchange, a client, and the entity, with nothing in flight between them. -/
def presentNetwork (client : World) : Network Unit where
  user := ⟨[presentExchange].flatMap Exchange.calls, none, []⟩
  client := client
  toSocket := []
  uplink := []
  entity := presentEntity
  platform := ⟨(), []⟩
  downlink := []
  readBuffer := []
  fromSocket := []
  link := .up

/-- A client that connects: it takes a request to bind its socket, and the connection succeeds. -/
def bindRun : List Action := issueAndTake (.bindSocket ⟨13400⟩)

/-- `Duration::MAX`, in nanoseconds: the timeout of a user who means to wait without end. -/
def DURATION_MAX : Nat := 2 ^ 64 * 10 ^ 9 - 1

section
variable {ι : Type} [WireCodec ι] {π : Type} {c : Setting}

/-- A send on a full session counter: the call is made, the client takes it, its message goes to the
channel of the socket, and the task panics. The call does not return. -/
theorem Network.send_overflows (net : Network π) {pending : Option OwnedMessage} {taken room : Nat}
    {m : OwnedMessage} {s : SocketManager} {call : Call} {todo : List Call}
    (hclient : c.ClientAt net.client none pending [] taken room)
    (hs : net.client.inner.tcpDataSocket = some s) (hfull : s.Full c.target)
    (hlog : Unanswered net.client.log taken) (hlink : net.link = .up)
    (hroom : net.toSocket.length < SOCKET_CHANNEL_CAP) (hawaiting : net.user.awaiting = none)
    (htodo : net.user.todo = call :: todo)
    (hrequest : call.request ι net.client.inner.clientOptions = some (.sendDiagnosticMessage m)) :
    ∃ net', run (Network.step ι c.target c.horizon) net [.call, .takeRequest] = some net' ∧
      net'.client.phase = .panicked .overflow ∧ net'.user.results = net.user.results ∧
      net'.step ι c.target c.horizon .return = none := by
  obtain ⟨w₁, w₂, hissue, hturn, hid, hpanicked, hlog₁, hlog₂⟩ :=
    hclient.issueSend_full hs hfull m (.ok ())
  let called : Network π := { net with
    client := w₁, user := ⟨todo, some net.client.requests.length, net.user.results⟩ }
  have hcall : net.step ι c.target c.horizon .call = some called :=
    Network.step_call hawaiting htodo hrequest hissue
  let panicked : Network π := { called with client := w₂, toSocket := called.toSocket ++ [m] }
  have htake : called.turn c.target .control = some panicked := by
    refine Network.turn_eq (show called.link = .up from hlink) hturn hlog₂ ?_
    rw [List.length_append]
    exact hroom
  have hanswer : answerTo w₂.log net.client.requests.length = none := by
    rw [hlog₂, hlog₁, answerTo_append, hid, hlog taken (Nat.le_refl _)]
    rfl
  refine ⟨panicked, ?_, hpanicked, rfl, Network.step_return_unanswered rfl hanswer⟩
  rw [run_cons, hcall, Option.bind_some, run_singleton, Network.step_takeRequest]
  exact htake

end

/-- The tester presents that fill the session counter, and one more, which panics. The number is a
variable, so that nothing unfolds that many sends. -/
theorem overflowing_present {n : Nat} (hn : n = 65535) :
    letI := plainWire
    ∃ client net,
      run (World.step checkedTarget) (World.start sessionOptions) (presentRun n) = some client ∧
      run (Network.step Incomplete checkedTarget 0) (presentNetwork client) [.call, .takeRequest] =
        some net ∧
      net.client.phase = .panicked .overflow ∧ net.user.results = [] ∧
      net.step Incomplete checkedTarget 0 .return = none := by
  let := plainWire
  obtain ⟨client, s, hrun, hclient, hs, hfull⟩ := run_presentRun hn ⟨0x1000⟩
  have hunanswered : Unanswered client.log (1 + n) := by
    intro r hr
    refine (World.numbered_of_run hrun).unanswered ?_
    rwa [hclient.takenRequests]
  have hrequest : (Call.sendDiagnosticMessage .logical [0x3E, 0x00]).request Incomplete
      client.inner.clientOptions =
        some (.sendDiagnosticMessage (diagnosticFrom 0x0E00 0x1000 [0x3E, 0x00])) := by
    rw [hclient.options]
    rfl
  obtain ⟨net, hmoves, hpanicked, hresults, hreturn⟩ :=
    (presentNetwork client).send_overflows hclient hs hfull hunanswered rfl
      (Nat.zero_lt_succ 15) rfl rfl hrequest
  exact ⟨client, net, hrun, hmoves, hpanicked, hresults, hreturn⟩

/-- With an unbounded timeout the first send panics, before it has waited at all. In a build with
overflow checks, so does the send that follows 65535 others on its connection. -/
theorem send_panics :
    letI := plainWire
    (∃ client net,
      run (World.step releaseTarget) (World.start
        { sessionOptions with diagnosticMessageTimeout := DURATION_MAX }) bindRun = some client ∧
      run (Network.step Incomplete releaseTarget 0) (presentNetwork client) [.call, .takeRequest] =
        some net ∧
      net.client.phase = .panicked .instant ∧ net.user.results = [] ∧
      net.step Incomplete releaseTarget 0 .return = none) ∧
    (∃ client net,
      run (World.step checkedTarget) (World.start sessionOptions) (presentRun 65535) =
        some client ∧
      run (Network.step Incomplete checkedTarget 0) (presentNetwork client) [.call, .takeRequest] =
        some net ∧
      net.client.phase = .panicked .overflow ∧ net.user.results = [] ∧
      net.step Incomplete checkedTarget 0 .return = none) := by
  let := plainWire
  exact ⟨⟨_, _, rfl, rfl, rfl, rfl, rfl⟩, overflowing_present rfl⟩

/-- The setting of that session: the client has bound, and that was its first request. -/
def presentSetting : Setting := ⟨releaseTarget, 1000, sessionOptions, 1⟩

/-- The platform answers the tester present, and the rest of the plan holds: the request fits, goes
to the entity's address, and its deadlines can be represented. -/
theorem planned_present :
    letI := plainWire
    Planned Incomplete presentSetting 0x1000 [presentExchange] [[0x7E, 0x00]]
      (presentEntity.session presentCallbacks, ⟨(), []⟩) := by
  let := plainWire
  have hanswer : AnswersWith (ι := Incomplete) 0x0E00 [0x3E, 0x00] [0x7E, 0x00]
      (presentEntity.session presentCallbacks, ⟨(), []⟩) :=
    ⟨by decide, by decide, rfl, rfl⟩
  exact {
    fits := List.forall_mem_singleton.mpr (show DIAG_ADDR_LEN + 2 ≤ MAX_RX_PAYLOAD by decide)
    addressed := List.forall_mem_singleton.mpr rfl
    sendTime := by decide
    receiveTime := List.forall_mem_singleton.mpr (by decide)
    tester := rfl
    own := rfl
    answers := ⟨hanswer, trivial⟩ }

/-- The session of one tester present has an end, and there the send has succeeded, the receive has
the response, and the platform has seen the request once. -/
theorem client_and_entity_agree_present :
    letI := plainWire
    ∃ client moves net',
      run (World.step releaseTarget) (World.start sessionOptions) bindRun = some client ∧
      run (Network.step Incomplete releaseTarget 1000) (presentNetwork client) moves = some net' ∧
      net'.user.results = exchangeResults Incomplete 0x1000 0x0E00 [0x7E, 0x00] ∧
      udsRequests net'.platform.calls = [[0x3E, 0x00]] := by
  let := plainWire
  have hbind : ∃ client,
      run (World.step releaseTarget) (World.start sessionOptions) bindRun = some client ∧
      presentSetting.ClientAt client none none [] 1 1 ∧
      client.log = [.taken 0, .did (.completed 0 (.port (.ok 13400)))] :=
    ⟨_, rfl, ⟨rfl, rfl, rfl, rfl, ⟨_, rfl, nofun⟩, rfl, rfl, rfl, nofun, rfl, Nat.zero_le _⟩, rfl⟩
  obtain ⟨client, hrun, hclient, hlog⟩ := hbind
  have hunanswered : Unanswered client.log 1 := by
    intro request hrequest
    rw [hlog, answerTo_taken, answerTo_completed, if_neg (by omega), answerTo_nil]
  have hready : Ready Incomplete presentSetting presentCallbacks 0x1000 (presentNetwork client)
      [presentExchange] [[0x7E, 0x00]] :=
    ⟨⟨rfl, rfl, rfl⟩, rfl, hclient, hunanswered, rfl, rfl, rfl, rfl, rfl, planned_present⟩
  obtain ⟨moves, net', hmoves, hquiet⟩ := hready.exists_quiet
  obtain ⟨-, -, -, -, -, hend⟩ := client_and_entity_agree hready hmoves
  obtain ⟨hresults, hserved⟩ := hend hquiet
  exact ⟨client, moves, net', hrun, hmoves, hresults, hserved⟩

end SimpleDoip
