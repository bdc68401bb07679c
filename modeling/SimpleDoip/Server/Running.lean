import SimpleDoip.Discovery
import SimpleDoip.Server.AcceptLoop

/-!
# The running server

A server that is to be found drives two loops beside each other, on one handler:
`run_server_with_listener` and `run_udp_responder`. `ResponderLoop` is the second of them, with its
sleep after an error of its socket; `Running` is both, with the handler's state where the accept
loop has it. A call of the handler is one step of either.

Both loops retry at a bounded rate (`failures_bounded`). With a handler whose identity is fixed, as
that of the default implementation is, they do not get in each other's way: `halves_independent`
says that they run together exactly as they run alone. So a tester that keeps others from connecting
does not keep anybody from finding the server.
-/

namespace SimpleDoip

open Transition Pacing

/-- A handler whose identity is fixed: what it says about itself does not depend on its state, and
saying it leaves the state alone. -/
structure IdentificationHandler.Fixed {ι η : Type} (identification : IdentificationHandler ι η) :
    Prop where
  identity : ∃ identity : ClientConnectionInfo →
      Except (ServerError ι) VehicleIdentificationResponse,
    ∀ info state,
      identification.receivedVehicleIdentificationRequest info state = (identity info, state)
  version : ∃ version : ProtocolVersion, ∀ state,
    identification.protocolVersion state = (version, state)

namespace Server

/-! ## The loop of the responder -/

/-- One thing that happens to the loop: `recv_from` returns, the sleep is over, or time passes. -/
inductive ResponderMove where
  | receive (received : Received)
  | wake
  | wait (duration : Nat)

variable (η : Type) in
/-- The loop of `run_udp_responder`, with its sleep and the time. -/
structure ResponderLoop where
  responder : Responder η
  backoff : Backoff
  clock : Nat

/-- A loop that was just entered: it has sent nothing and does not sleep. -/
def ResponderLoop.start {η : Type} (state : η) : ResponderLoop η where
  responder := ⟨state, []⟩
  backoff := .new
  clock := 0

/-- The loop sleeps after an error of its socket, and only then. -/
def Received.backOff (now : Nat) (backoff : Backoff) : Received → Backoff
  | .failed => backoff.fail ACCEPT_ERROR_BACKOFF now
  | .datagram _ => backoff

section
variable {ι η : Type} [WireCodec ι] (handler : ServerConnectionHandler ι η)
  (identification : IdentificationHandler ι η)

/-- One thing that happens, where it can: nothing is received while the loop sleeps. -/
def ResponderLoop.step (l : ResponderLoop η) : ResponderMove → Option (ResponderLoop η)
  | .receive received =>
    if l.backoff.wake.isNone then
      (runUdpResponder identification l.responder received).map fun responder =>
        { l with responder, backoff := Received.backOff l.clock l.backoff received }
    else none
  | .wake => (l.backoff.awaken l.clock).map fun backoff => { l with backoff }
  | .wait duration => some { l with clock := l.clock + duration }

end

/-! ## Both loops -/

section
variable {ι η : Type} [WireCodec ι] [Framed ι]

/-- The handler's state, wherever it is: with the connection that is served, or with the loop
itself. -/
def AcceptLoop.state (l : AcceptLoop ι η) : η :=
  match l.serving with
  | some (_, t) => t.serving.connection.handlerState
  | none => l.handlerState

/-- The loop with another state of the handler, in the same place. -/
def AcceptLoop.withState (l : AcceptLoop ι η) (state : η) : AcceptLoop ι η :=
  match l.serving with
  | some (peer, t) =>
    let connection := { t.serving.connection with handlerState := state }
    { l with serving := some (peer, { t with serving := { t.serving with connection } }) }
  | none => { l with handlerState := state }

/-- To leave the handler's state as it is changes nothing. -/
@[simp] theorem AcceptLoop.withState_state (l : AcceptLoop ι η) : l.withState l.state = l := by
  obtain ⟨handlerState, serving, activeConnections, served, backoff, clock⟩ := l
  cases serving with
  | none => rfl
  | some s => rfl

theorem AcceptLoop.withState_backoff (l : AcceptLoop ι η) (state : η) :
    (l.withState state).backoff = l.backoff ∧ (l.withState state).clock = l.clock := by
  unfold AcceptLoop.withState
  split <;> exact ⟨rfl, rfl⟩

variable (ι η) in
/-- A server that runs both loops. The responder's own state is kept beside the accept loop, and the
handler's is where that has it. -/
structure Running where
  accepting : AcceptLoop ι η
  sent : List Datagram
  backoff : Backoff

/-- One thing that happens to a running server. Time passes for both loops. -/
inductive RunningMove where
  | accept (result : Accept)
  | connection (move : StreamMove)
  | wakeAccepting
  | receive (received : Received)
  | wakeResponder
  | wait (duration : Nat)

/-- What the accept loop sees of a move. Time passes for it, too. -/
def RunningMove.accepting : RunningMove → Option AcceptMove
  | .accept result => some (.accept result)
  | .connection move => some (.connection move)
  | .wakeAccepting => some .wake
  | .wait duration => some (.wait duration)
  | .receive _ | .wakeResponder => none

/-- What the responder sees of a move. Time passes for it, too. -/
def RunningMove.responding : RunningMove → Option ResponderMove
  | .receive received => some (.receive received)
  | .wakeResponder => some .wake
  | .wait duration => some (.wait duration)
  | .accept _ | .connection _ | .wakeAccepting => none

namespace Running

variable (ι) in
/-- A server that was just started, with both loops entered. -/
def start (state : η) : Running ι η where
  accepting := .start ι state
  sent := []
  backoff := .new

/-- The responder of a running server, on a handler in the given state. It is taken out of the
server to be compared with one that runs alone. -/
def responding (r : Running ι η) (state : η) : ResponderLoop η where
  responder := ⟨state, r.sent⟩
  backoff := r.backoff
  clock := r.accepting.clock

section
variable (handler : ServerConnectionHandler ι η)
  (identification : IdentificationHandler ι η) (r : Running ι η)

/-- The accept loop goes on, and the responder stays as it is. -/
def listen (move : AcceptMove) : Option (Running ι η) :=
  (r.accepting.step handler move).map fun accepting => { r with accepting }

/-- The responder goes on, on the handler as the accept loop has it. -/
def respond (move : ResponderMove) : Option (Running ι η) :=
  ((r.responding r.accepting.state).step identification move).map fun l =>
    { accepting := r.accepting.withState l.responder.handlerState
      sent := l.responder.sent
      backoff := l.backoff }

/-- One thing that happens, where it can. Waiting is a step of the accept loop, whose clock both go
by. -/
def step : RunningMove → Option (Running ι η)
  | .accept result => r.listen handler (.accept result)
  | .connection move => r.listen handler (.connection move)
  | .wakeAccepting => r.listen handler .wake
  | .receive received => r.respond identification (.receive received)
  | .wakeResponder => r.respond identification .wake
  | .wait duration => r.listen handler (.wait duration)

end

end Running

/-! ## How often the loops fail -/

variable {handler : ServerConnectionHandler ι η}
  {identification : IdentificationHandler ι η}

/-- A step of the accept loop keeps it paced, and time does not run backwards. -/
theorem AcceptLoop.paced_step {l l' : AcceptLoop ι η} {move : AcceptMove}
    (hstep : l.step handler move = some l')
    (h : l.backoff.Paced ACCEPT_ERROR_BACKOFF l.clock) :
    l'.backoff.Paced ACCEPT_ERROR_BACKOFF l'.clock ∧
      ∃ duration, l'.clock = l.clock + duration := by
  cases AcceptLoop.moved_of_step hstep with
  | connected => exact ⟨h, 0, rfl⟩
  | failed hidle hawake => exact ⟨h.fail hawake, 0, rfl⟩
  | proceeded =>
    unfold AcceptLoop.proceed
    split <;> exact ⟨h, 0, rfl⟩
  | woken hwake => exact ⟨h.awaken hwake, 0, rfl⟩
  | waited duration => exact ⟨h.wait duration, duration, rfl⟩

omit [Framed ι] in
/-- A step of the responder keeps it paced, as it does not receive while it sleeps. -/
theorem ResponderLoop.paced_step {l l' : ResponderLoop η} {move : ResponderMove}
    (hstep : l.step identification move = some l')
    (h : l.backoff.Paced ACCEPT_ERROR_BACKOFF l.clock) :
    l'.backoff.Paced ACCEPT_ERROR_BACKOFF l'.clock := by
  cases move with
  | receive received =>
    simp only [ResponderLoop.step, Option.isNone_iff_eq_none] at hstep
    split at hstep
    · next hawake =>
      obtain ⟨responder, -, rfl⟩ := Option.map_eq_some_iff.mp hstep
      cases received with
      | failed => exact h.fail hawake
      | datagram => exact h
    · cases hstep
  | wake =>
    obtain ⟨backoff, hwake, rfl⟩ := Option.map_eq_some_iff.mp hstep
    exact h.awaken hwake
  | wait duration =>
    cases hstep
    exact h.wait duration

/-- Only waiting takes the accept loop time: everything else happens at once. -/
theorem AcceptLoop.clock_step {l l' : AcceptLoop ι η} {move : AcceptMove}
    (hstep : l.step handler move = some l') (hmove : ∀ duration, move ≠ .wait duration) :
    l'.clock = l.clock := by
  cases AcceptLoop.moved_of_step hstep with
  | connected | failed | woken => rfl
  | proceeded =>
    unfold AcceptLoop.proceed
    split <;> rfl
  | waited duration => exact absurd rfl (hmove duration)

omit [Framed ι] in
/-- Only waiting takes the responder time: everything else happens at once. -/
theorem ResponderLoop.clock_step {l l' : ResponderLoop η} {move : ResponderMove}
    (hstep : l.step identification move = some l') (hmove : ∀ duration, move ≠ .wait duration) :
    l'.clock = l.clock := by
  cases move with
  | receive received =>
    simp only [ResponderLoop.step] at hstep
    split at hstep
    · obtain ⟨responder, -, rfl⟩ := Option.map_eq_some_iff.mp hstep
      rfl
    · cases hstep
  | wake =>
    obtain ⟨backoff, -, rfl⟩ := Option.map_eq_some_iff.mp hstep
    rfl
  | wait duration => exact absurd rfl (hmove duration)

namespace Running

variable {r r' : Running ι η}

/-- The failures of both loops are apart, each by its own sleep. -/
structure Paced (r : Running ι η) : Prop where
  accepting : r.accepting.backoff.Paced ACCEPT_ERROR_BACKOFF r.accepting.clock
  responding : r.backoff.Paced ACCEPT_ERROR_BACKOFF r.accepting.clock

theorem Paced.listen (h : r.Paced) {move : AcceptMove} (hstep : r.listen handler move = some r') :
    r'.Paced := by
  obtain ⟨l, hl, rfl⟩ := Option.map_eq_some_iff.mp hstep
  obtain ⟨haccepting, duration, hclock⟩ := AcceptLoop.paced_step hl h.accepting
  refine ⟨haccepting, ?_⟩
  change r.backoff.Paced _ l.clock
  rw [hclock]
  exact h.responding.wait duration

theorem Paced.respond (h : r.Paced) {move : ResponderMove} (hmove : ∀ d, move ≠ .wait d)
    (hstep : r.respond identification move = some r') : r'.Paced := by
  obtain ⟨l, hl, rfl⟩ := Option.map_eq_some_iff.mp hstep
  obtain ⟨hbackoff, hclock⟩ := r.accepting.withState_backoff l.responder.handlerState
  have hresponding := ResponderLoop.paced_step hl h.responding
  rw [ResponderLoop.clock_step hl hmove] at hresponding
  refine ⟨?_, ?_⟩
  · change Backoff.Paced _ (r.accepting.withState _).clock (r.accepting.withState _).backoff
    rw [hbackoff, hclock]
    exact h.accepting
  · change Backoff.Paced _ (r.accepting.withState _).clock l.backoff
    rw [hclock]
    exact hresponding

theorem Paced.step (h : r.Paced) {move : RunningMove}
    (hstep : r.step handler identification move = some r') : r'.Paced := by
  cases move with
  | accept | connection | wakeAccepting | wait => exact h.listen hstep
  | receive =>
    refine h.respond (fun duration heq => ?_) hstep
    cases heq
  | wakeResponder =>
    refine h.respond (fun duration heq => ?_) hstep
    cases heq

/-- **Errors of a socket do not make a loop spin.** In every run, whatever the handler does,
`accept` fails fewer than `(e - a) / 100 ms + 1` times from time `a` to before time `e`, and so does
`recv_from`: ten times a second at most. -/
theorem failures_bounded {state : η} {moves : List RunningMove}
    (hrun : run (Running.step handler identification) (start ι state) moves = some r)
    (a e : Nat) :
    r.accepting.backoff.failures.countP (fun t => decide (a ≤ t ∧ t < e)) * ACCEPT_ERROR_BACKOFF <
      e - a + ACCEPT_ERROR_BACKOFF ∧
    r.backoff.failures.countP (fun t => decide (a ≤ t ∧ t < e)) * ACCEPT_ERROR_BACKOFF <
      e - a + ACCEPT_ERROR_BACKOFF := by
  have hpaced : r.Paced :=
    run_invariant (P := Paced) (fun _ _ _ hstep h => h.step hstep) hrun
      ⟨Backoff.paced_new, Backoff.paced_new⟩
  have hdelay : 0 < ACCEPT_ERROR_BACKOFF := by decide
  exact ⟨hpaced.accepting.countP_failures hdelay a e, hpaced.responding.countP_failures hdelay a e⟩

end Running

end

/-- The listener is out of descriptors, and `accept` is retried as soon as the loop wakes. -/
def exhaustedRun : List RunningMove :=
  [.accept .failed, .wait ACCEPT_ERROR_BACKOFF, .wakeAccepting, .accept .failed, .receive .failed]

/-- Two failures are on record, and in no stretch shorter than the sleep is there more than one. -/
theorem Running.failures_bounded_exhausted :
    letI := plainWire
    letI := plainFramed Incomplete
    ∃ r, run (Running.step (grantingHandler Incomplete) identifyingHandler)
        (Running.start Incomplete ()) exhaustedRun = some r ∧
      r.accepting.backoff.failures = [0, ACCEPT_ERROR_BACKOFF] ∧
      ∀ a, r.accepting.backoff.failures.countP
        (fun t => decide (a ≤ t ∧ t < a + ACCEPT_ERROR_BACKOFF)) ≤ 1 := by
  let := plainWire
  let := plainFramed Incomplete
  have h : ∃ r, run (Running.step (grantingHandler Incomplete) identifyingHandler)
      (Running.start Incomplete ()) exhaustedRun = some r ∧
      r.accepting.backoff.failures = [0, ACCEPT_ERROR_BACKOFF] :=
    exists_of_any_run (by decide +kernel)
  obtain ⟨r, hrun, hfailures⟩ := h
  refine ⟨r, hrun, hfailures, fun a => ?_⟩
  have hbound := (Running.failures_bounded hrun a (a + ACCEPT_ERROR_BACKOFF)).1
  generalize List.countP _ r.accepting.backoff.failures = n at hbound ⊢
  rw [ACCEPT_ERROR_BACKOFF] at hbound
  omega

/-! ## Either loop alone -/

section
variable {ι η : Type} [WireCodec ι] [Framed ι] {handler : ServerConnectionHandler ι η}
  {identification : IdentificationHandler ι η}

omit [Framed ι] in
/-- What the responder does about a datagram is the same in every state of a fixed handler. -/
theorem runUdpResponder_fixed (h : identification.Fixed) (sent : List Datagram)
    (received : Received) :
    ∃ sent', ∀ state, runUdpResponder identification ⟨state, sent⟩ received =
      some ⟨state, sent'⟩ := by
  obtain ⟨⟨identity, hidentity⟩, ⟨version, hversion⟩⟩ := h
  cases received with
  | failed => exact ⟨sent, fun state => rfl⟩
  | datagram d =>
    simp only [runUdpResponder]
    cases decodeDatagram (ι := ι) (d.data.take UDP_BUF_LEN) with
    | none => exact ⟨sent, fun state => rfl⟩
    | some message =>
      simp only
      split
      · exact ⟨sent, fun state => rfl⟩
      · split
        · exact ⟨sent, fun state => rfl⟩
        · simp only [identify, hidentity, hversion]
          cases identity ⟨d.ipAddress, ⟨0x0000⟩⟩ with
          | error e => exact ⟨sent, fun state => rfl⟩
          | ok response =>
            obtain ⟨reply, size, hreply, hsize, hencode⟩ :=
              encode_vehicleIdentificationResponse (ι := ι) version response
            simp only [hreply, hsize, hencode, Option.bind_eq_bind, Option.bind_some]
            exact ⟨_, fun state => rfl⟩

omit [Framed ι] in
/-- What the responder's loop does is fixed, too, but for the time that passes: the state of the
handler does not show in it. -/
theorem ResponderLoop.step_fixed (h : identification.Fixed) {move : ResponderMove}
    (hmove : ∀ duration, move ≠ .wait duration) (sent : List Datagram) (backoff : Backoff)
    (clock : Nat) :
    ∃ next : Option (List Datagram × Backoff), ∀ state,
      ResponderLoop.step identification ⟨⟨state, sent⟩, backoff, clock⟩ move =
        next.map fun n => ⟨⟨state, n.1⟩, n.2, clock⟩ := by
  cases move with
  | receive received =>
    obtain ⟨sent', hsent⟩ := runUdpResponder_fixed h sent received
    by_cases hawake : backoff.wake.isNone = true
    · refine ⟨some (sent', Received.backOff clock backoff received), fun state => ?_⟩
      simp only [ResponderLoop.step, hawake, if_true, hsent]
      rfl
    · refine ⟨none, fun state => ?_⟩
      simp only [ResponderLoop.step, hawake]
      rfl
  | wake =>
    refine ⟨(backoff.awaken clock).map fun backoff => (sent, backoff), fun state => ?_⟩
    simp only [ResponderLoop.step, Option.map_map]
    rfl
  | wait duration => exact absurd rfl (hmove duration)

namespace Running

variable {r r' : Running ι η}

/-- With a fixed handler, the responder of a running server does what it does alone, and leaves the
accept loop as it is. -/
theorem respond_iff (h : identification.Fixed) (state : η) {move : ResponderMove}
    (hmove : ∀ duration, move ≠ .wait duration) :
    r.respond identification move = some r' ↔
      r'.accepting = r.accepting ∧
        (r.responding state).step identification move = some (r'.responding state) := by
  obtain ⟨next, hnext⟩ := ResponderLoop.step_fixed h hmove r.sent r.backoff r.accepting.clock
  rw [respond, responding, hnext, responding, hnext]
  cases next with
  | none =>
    constructor
    · intro h
      cases h
    · rintro ⟨-, h⟩
      cases h
  | some n =>
    obtain ⟨accepting, sent, backoff⟩ := r'
    constructor
    · intro h
      cases h
      exact ⟨r.accepting.withState_state, by rw [AcceptLoop.withState_state]; rfl⟩
    · rintro ⟨rfl, h⟩
      cases h
      simp only [Option.map_some, AcceptLoop.withState_state]

/-- The accept loop of a running server does what it does alone, and leaves the responder as it is,
but for the time that passes. -/
theorem listen_iff (state : η) {move : AcceptMove} (hmove : ∀ duration, move ≠ .wait duration) :
    r.listen handler move = some r' ↔
      r.accepting.step handler move = some r'.accepting ∧
        r'.responding state = r.responding state := by
  obtain ⟨accepting', sent', backoff'⟩ := r'
  rw [listen, Option.map_eq_some_iff]
  constructor
  · rintro ⟨l, hl, h⟩
    cases h
    refine ⟨hl, ?_⟩
    rw [responding, responding, AcceptLoop.clock_step hl hmove]
  · rintro ⟨hl, h⟩
    have hsent : sent' = r.sent := congrArg (fun l => l.responder.sent) h
    have hbackoff : backoff' = r.backoff := congrArg ResponderLoop.backoff h
    exact ⟨accepting', hl, by rw [hsent, hbackoff]⟩

theorem exists_respond (h : identification.Fixed) (state : η) {move : ResponderMove}
    (hmove : ∀ duration, move ≠ .wait duration) {t : ResponderLoop η}
    (ht : (r.responding state).step identification move = some t) :
    ∃ r', r.respond identification move = some r' ∧ r'.accepting = r.accepting ∧
      r'.responding state = t := by
  obtain ⟨next, hnext⟩ := ResponderLoop.step_fixed h hmove r.sent r.backoff r.accepting.clock
  obtain ⟨n, rfl, hn⟩ := Option.map_eq_some_iff.mp ((hnext state).symm.trans ht)
  have hsame : responding ⟨r.accepting, n.1, n.2⟩ state = t := hn
  have hstep : r.respond identification move = some ⟨r.accepting, n.1, n.2⟩ :=
    (respond_iff h state hmove).mpr ⟨rfl, ht.trans (congrArg some hsame.symm)⟩
  exact ⟨_, hstep, rfl, hsame⟩

theorem exists_listen (state : η) {move : AcceptMove} (hmove : ∀ duration, move ≠ .wait duration)
    {l : AcceptLoop ι η} (hl : r.accepting.step handler move = some l) :
    ∃ r', r.listen handler move = some r' ∧ r'.accepting = l ∧
      r'.responding state = r.responding state := by
  have hsame : responding ⟨l, r.sent, r.backoff⟩ state = r.responding state := by
    rw [responding, responding, AcceptLoop.clock_step hl hmove]
  exact ⟨_, (listen_iff state hmove).mpr ⟨hl, hsame⟩, rfl, hsame⟩

/-- Time passes for both loops at once, and for each as if it were alone. -/
theorem wait_iff (state : η) (duration : Nat) :
    r.step handler identification (.wait duration) = some r' ↔
      r.accepting.step handler (.wait duration) = some r'.accepting ∧
        (r.responding state).step identification (.wait duration) = some (r'.responding state) := by
  obtain ⟨accepting', sent', backoff'⟩ := r'
  constructor
  · intro h
    cases h
    exact ⟨rfl, rfl⟩
  · rintro ⟨hl, h⟩
    cases hl
    cases h
    rfl

variable (handler) in
/-- **The two loops of a server are independent.** On a handler whose identity is fixed, the runs of
both together are exactly the runs of each alone: whatever testers do on their connections, the
responder hears, sleeps and answers as if there were none, and the other way round. -/
theorem halves_independent (h : identification.Fixed) {state : η} {moves : List RunningMove} :
    run (Running.step handler identification) (start ι state) moves = some r ↔
      run (AcceptLoop.step handler) (AcceptLoop.start ι state)
        (moves.filterMap RunningMove.accepting) = some r.accepting ∧
      run (ResponderLoop.step identification) (ResponderLoop.start state)
        (moves.filterMap RunningMove.responding) = some (r.responding state) := by
  refine run_beside_iff Running.accepting (fun r => r.responding state) ?_ ?_ ?_
    (s := start ι state)
  · rintro ⟨accepting, sent, backoff⟩ ⟨accepting', sent', backoff'⟩ h₁ h₂
    cases h₁
    cases h₂
    rfl
  · intro r move r' hstep
    cases move with
    | accept | connection | wakeAccepting =>
      obtain ⟨hl, hr⟩ := (listen_iff state (by intro d h; cases h)).mp hstep
      exact ⟨hl, congrArg some hr.symm⟩
    | receive | wakeResponder =>
      obtain ⟨hl, hr⟩ := (respond_iff h state (by intro d h; cases h)).mp hstep
      exact ⟨congrArg some hl.symm, hr⟩
    | wait duration => exact (wait_iff state duration).mp hstep
  · intro r move l t hl ht
    cases move with
    | accept | connection | wakeAccepting =>
      cases ht
      exact exists_listen state (by intro d h; cases h) hl
    | receive | wakeResponder =>
      cases hl
      exact exists_respond h state (by intro d h; cases h) ht
    | wait duration =>
      cases hl
      cases ht
      exact ⟨_, rfl, rfl, rfl⟩

end Running

end

theorem identifyingHandler_fixed : identifyingHandler.Fixed :=
  ⟨⟨_, fun _ _ => rfl⟩, ⟨.v2012, fun _ => rfl⟩⟩

/-- A tester connects and stays silent; then the vehicle is asked for its identity. -/
def silentRun : List RunningMove :=
  [.accept (.connected localPeer),
    .receive (.datagram ⟨.v4 0x7F000002, 13400, [0x02, 0xFD, 0x00, 0x01, 0, 0, 0, 0]⟩)]

/-- The responder of the server answers, as the one does that runs without an accept loop. -/
theorem Running.halves_independent_silent :
    letI := plainWire
    letI := plainFramed Incomplete
    ∃ r, run (Running.step (grantingHandler Incomplete) identifyingHandler)
        (Running.start Incomplete ()) silentRun = some r ∧
      r.sent.length = 1 ∧ r.accepting.activeConnections = 1 ∧
      run (ResponderLoop.step identifyingHandler) (ResponderLoop.start ())
        (silentRun.filterMap RunningMove.responding) = some (r.responding ()) := by
  let := plainWire
  let := plainFramed Incomplete
  have h : ∃ r, run (Running.step (grantingHandler Incomplete) identifyingHandler)
      (Running.start Incomplete ()) silentRun = some r ∧ r.sent.length = 1 ∧
      r.accepting.activeConnections = 1 := ⟨_, rfl, rfl, rfl⟩
  obtain ⟨r, hrun, hsent, hactive⟩ := h
  exact ⟨r, hrun, hsent, hactive,
    ((Running.halves_independent _ identifyingHandler_fixed).mp hrun).2⟩

end Server

end SimpleDoip
