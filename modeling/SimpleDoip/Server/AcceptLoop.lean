import Mathlib.Data.List.ModifyLast
import SimpleDoip.Lib.Pacing
import SimpleDoip.Server.Stream

/-!
# The accept loop

`run_server_with_listener` accepts a connection, serves it until `handle_client_connection` returns
and accepts the next one; where `accept` fails it sleeps and tries again. `AcceptLoop` is that loop
with the connection it serves, if any, and those it has served. `accept_loop_eq_reference` compares
it with `serveAll`, which takes each connection's bytes at once and one connection after the other.
The next tester is let in once what the last one has sent ends its connection
(`next_tester_accepted_iff`), so that one that stays silent keeps the others out.

The count of active connections is that of the guards: `handle_client_connection` holds one from its
beginning to its return. Nothing in the crate reads it.
-/

namespace SimpleDoip

open Transition MessageCodec Pacing

namespace Server

/-- How long a loop sleeps after an error of its socket, in nanoseconds. The accept loop and the
responder have the same. -/
def ACCEPT_ERROR_BACKOFF : Nat := 100 * 10 ^ 6

/-- What `accept` comes to: a connection, or an error of the listener. -/
inductive Accept where
  | connected (peer : Peer)
  | failed

/-- One thing that happens to the loop: `accept` returns, the connection goes on, the sleep is over,
or time passes. -/
inductive AcceptMove where
  | accept (result : Accept)
  | connection (move : StreamMove)
  | wake
  | wait (duration : Nat)

variable (ι η : Type) [WireCodec ι] [Framed ι] in
/-- The loop of `run_server_with_listener`. The handler's state is here while no connection is
served. -/
structure AcceptLoop where
  handlerState : η
  serving : Option (Peer × Stream ι η)
  activeConnections : Nat
  served : List (Peer × Serving ι η)
  backoff : Backoff
  clock : Nat

/-- A loop that was just entered: it serves nobody and has served nobody. -/
def AcceptLoop.start (ι : Type) [WireCodec ι] [Framed ι] {η : Type} (state : η) :
    AcceptLoop ι η where
  handlerState := state
  serving := none
  activeConnections := 0
  served := []
  backoff := .new
  clock := 0

section
variable {ι η : Type} [WireCodec ι] [Framed ι]

/-- The handler's state behind connections that were served: the one that the last of them has
left. -/
def stateAfter (state : η) (served : List (Peer × Serving ι η)) : η :=
  served.foldl (fun _ s => s.2.connection.handlerState) state

theorem stateAfter_snoc (state : η) (served : List (Peer × Serving ι η)) (s : Peer × Serving ι η) :
    stateAfter state (served ++ [s]) = s.2.connection.handlerState := by
  rw [stateAfter, List.foldl_append]
  rfl

end

section
variable {ι η : Type} [WireCodec ι] [Framed ι] (handler : ServerConnectionHandler ι η)

/-- A connection is accepted, and `handle_client_connection` called, which takes a guard. -/
def AcceptLoop.enter (l : AcceptLoop ι η) (peer : Peer) : AcceptLoop ι η :=
  { l with
    serving := some (peer, Stream.start ι l.handlerState)
    activeConnections := l.activeConnections + 1 }

/-- `handle_client_connection` goes on, or has returned: its guard is dropped. -/
def AcceptLoop.proceed (l : AcceptLoop ι η) (peer : Peer) (t : Stream ι η) : AcceptLoop ι η :=
  match t.serving.result with
  | none => { l with serving := some (peer, t) }
  | some _ =>
    { l with
      handlerState := t.serving.connection.handlerState
      serving := none
      activeConnections := l.activeConnections - 1
      served := l.served ++ [(peer, t.serving)] }

/-- One thing that happens, where it can: nothing is accepted while a connection is served or the
loop sleeps. -/
def AcceptLoop.step (l : AcceptLoop ι η) : AcceptMove → Option (AcceptLoop ι η)
  | .accept result =>
    if l.serving.isNone ∧ l.backoff.wake.isNone then
      match result with
      | .connected peer => some (l.enter peer)
      | .failed => some { l with backoff := l.backoff.fail ACCEPT_ERROR_BACKOFF l.clock }
    else none
  | .connection move =>
    match l.serving with
    | none => none
    | some (peer, t) => (t.step handler peer move).map (l.proceed peer)
  | .wake => (l.backoff.awaken l.clock).map fun backoff => { l with backoff }
  | .wait duration => some { l with clock := l.clock + duration }

/-- All connections so far, with what was done on them, oldest first and the current one last. -/
def AcceptLoop.sessions (l : AcceptLoop ι η) : List (Peer × Serving ι η) :=
  l.served ++ (l.serving.map fun s => (s.1, s.2.serving)).toList

/-- Nothing is left to do before more bytes arrive on the connection that is served. -/
def AcceptLoop.AtRest (l : AcceptLoop ι η) : Prop :=
  ∀ peer t, l.serving = some (peer, t) → t.AtRest

/-! ## What a step can do -/

variable {handler} {l l' : AcceptLoop ι η}

variable (handler l) in
/-- Everything a step can come to, with what it finds: one constructor for each branch of the
loop. -/
inductive AcceptLoop.Moved : AcceptMove → AcceptLoop ι η → Prop where
  | connected (peer : Peer) (hidle : l.serving = none) (hawake : l.backoff.wake = none) :
      Moved (.accept (.connected peer)) (l.enter peer)
  | failed (hidle : l.serving = none) (hawake : l.backoff.wake = none) :
      Moved (.accept .failed)
        { l with backoff := l.backoff.fail ACCEPT_ERROR_BACKOFF l.clock }
  | proceeded {move : StreamMove} {peer : Peer} {t t' : Stream ι η}
      (hserving : l.serving = some (peer, t)) (hstep : t.step handler peer move = some t') :
      Moved (.connection move) (l.proceed peer t')
  | woken {backoff : Backoff} (hwake : l.backoff.awaken l.clock = some backoff) :
      Moved .wake { l with backoff }
  | waited (duration : Nat) : Moved (.wait duration) { l with clock := l.clock + duration }

/-- **Inversion of a step**: which of these it was, with what it found. -/
theorem AcceptLoop.moved_of_step {move : AcceptMove} (h : l.step handler move = some l') :
    l.Moved handler move l' := by
  cases move with
  | accept result =>
    simp only [AcceptLoop.step, Option.isNone_iff_eq_none] at h
    split at h
    · next hguard =>
      cases result with
      | connected peer =>
        cases h
        exact .connected peer hguard.1 hguard.2
      | failed =>
        cases h
        exact .failed hguard.1 hguard.2
    · cases h
  | connection move =>
    simp only [AcceptLoop.step] at h
    split at h
    · cases h
    · next peer t hserving =>
      obtain ⟨t', hstep, rfl⟩ := Option.map_eq_some_iff.mp h
      exact .proceeded hserving hstep
  | wake =>
    obtain ⟨backoff, hwake, rfl⟩ := Option.map_eq_some_iff.mp h
    exact .woken hwake
  | wait duration =>
    cases h
    exact .waited duration

/-! ## The reference -/

/-- What a move delivers: a connection, or something read on the last one. -/
def AcceptMove.deliver (cs : List (Peer × List SocketRead)) :
    AcceptMove → List (Peer × List SocketRead)
  | .accept (.connected peer) => cs ++ [(peer, [])]
  | .connection (.read r) => cs.modifyLast fun c => (c.1, c.2 ++ [r])
  | _ => cs

/-- The connections that moves deliver, each with what is read on it. -/
def connections (moves : List AcceptMove) : List (Peer × List SocketRead) :=
  moves.foldl AcceptMove.deliver []

theorem connections_snoc (moves : List AcceptMove) (move : AcceptMove) :
    connections (moves ++ [move]) = move.deliver (connections moves) := by
  rw [connections, List.foldl_append]
  rfl

variable (handler) in
/-- Serve one connection after the other, each with all its bytes at once and with the handler as
the one before has left it. -/
def serveAll (state : η) : List (Peer × List SocketRead) → List (Peer × Serving ι η)
  | [] => []
  | (peer, reads) :: cs =>
    let s := serveReads handler peer (Serving.start ι state)
      (streamReads ι (bytesRead reads) (endRead reads))
    (peer, s) :: serveAll s.connection.handlerState cs

/-- The last connection is served behind the others, with the handler as they have left it. -/
theorem serveAll_snoc (state : η) (cs : List (Peer × List SocketRead)) (peer : Peer)
    (reads : List SocketRead) :
    serveAll handler state (cs ++ [(peer, reads)]) = serveAll handler state cs ++
      [(peer, serveReads handler peer
        (Serving.start ι (stateAfter state (serveAll handler state cs)))
        (streamReads ι (bytesRead reads) (endRead reads)))] := by
  induction cs generalizing state with
  | nil => rfl
  | cons c cs ih =>
    rw [List.cons_append, serveAll, ih]
    rfl

theorem length_serveAll (state : η) (cs : List (Peer × List SocketRead)) :
    (serveAll handler state cs).length = cs.length := by
  induction cs generalizing state with
  | nil => rfl
  | cons c cs ih => rw [serveAll, List.length_cons, List.length_cons, ih]

/-! ## The loop and the reference -/

variable (handler) in
/-- The loop has served connections as the reference does, and may be at another one. -/
inductive AcceptLoop.Tracks (state : η) :
    List (Peer × List SocketRead) → AcceptLoop ι η → Prop where
  | idle {cs : List (Peer × List SocketRead)} {l : AcceptLoop ι η} (hserving : l.serving = none)
      (hserved : l.served = serveAll handler state cs)
      (hstate : l.handlerState = stateAfter state l.served) (hactive : l.activeConnections = 0) :
      Tracks state cs l
  | serving {cs : List (Peer × List SocketRead)} {l : AcceptLoop ι η} {peer : Peer}
      {t : Stream ι η} {reads : List SocketRead} (hserving : l.serving = some (peer, t))
      (hserved : l.served = serveAll handler state cs)
      (hfollows : Follows handler peer (stateAfter state l.served) (bytesRead reads)
        (endRead reads) t)
      (hopen : t.serving.result = none) (hactive : l.activeConnections = 1)
      (hawake : l.backoff.wake = none) :
      Tracks state (cs ++ [(peer, reads)]) l

/-- The connection goes on: it is the one that is served, or one more that was. -/
theorem AcceptLoop.Tracks.proceed {state : η} {cs : List (Peer × List SocketRead)} {peer : Peer}
    {reads : List SocketRead} {t : Stream ι η} (hserved : l.served = serveAll handler state cs)
    (hfollows : Follows handler peer (stateAfter state l.served) (bytesRead reads) (endRead reads)
      t)
    (hactive : l.activeConnections = 1) (hawake : l.backoff.wake = none) :
    (l.proceed peer t).Tracks handler state (cs ++ [(peer, reads)]) := by
  rw [AcceptLoop.proceed]
  split
  · next hopen => exact .serving rfl hserved hfollows hopen hactive hawake
  · next result hresult =>
    have hrest : t.AtRest := .inl (by rw [hresult]; rfl)
    have hserving := hfollows.eq_of_atRest hrest
    refine .idle rfl ?_ (stateAfter_snoc state l.served (peer, t.serving)).symm ?_
    · rw [serveAll_snoc, ← hserved, ← hserving]
    · change l.activeConnections - 1 = 0
      rw [hactive]

/-- A step of the loop keeps to the reference, with what the move delivers. -/
theorem AcceptLoop.Tracks.step {state : η} {cs : List (Peer × List SocketRead)}
    (h : l.Tracks handler state cs) {move : AcceptMove} (hstep : l.step handler move = some l') :
    l'.Tracks handler state (move.deliver cs) := by
  cases moved_of_step hstep with
  | connected peer hidle hawake =>
    cases h with
    | serving hserving => cases hserving.symm.trans hidle
    | idle hserving hserved hstate hactive =>
      refine .serving rfl hserved ?_ rfl (congrArg (· + 1) hactive) hawake
      rw [hstate]
      exact .live (FramedRead.reads_new ι) rfl rfl
  | failed hidle =>
    cases h with
    | serving hserving => cases hserving.symm.trans hidle
    | idle hserving hserved hstate hactive => exact .idle hserving hserved hstate hactive
  | @proceeded move peer t t' hserving hmove =>
    cases h with
    | idle hidle => cases hidle.symm.trans hserving
    | @serving cs l peer' t₀ reads hserving' hserved hfollows hopen hactive hawake =>
      cases hserving.symm.trans hserving'
      cases move with
      | read r =>
        obtain ⟨hfin, hfollows'⟩ := follows_read hmove hfollows
        have hdeliver : (AcceptMove.connection (.read r)).deliver (cs ++ [(peer, reads)]) =
            cs ++ [(peer, reads ++ [r])] := List.modifyLast_concat _ _ _
        rw [hdeliver]
        refine .proceed hserved ?_ hactive hawake
        rw [bytesRead_snoc, endRead_snoc, hfin]
        exact hfollows'
      | poll => exact .proceed hserved (follows_poll hmove hfollows) hactive hawake
  | woken hwake =>
    cases h with
    | idle hserving hserved hstate hactive => exact .idle hserving hserved hstate hactive
    | serving hserving hserved hfollows hopen hactive hawake =>
      rw [Backoff.awaken, hawake] at hwake
      cases hwake
  | waited =>
    cases h with
    | idle hserving hserved hstate hactive => exact .idle hserving hserved hstate hactive
    | serving hserving hserved hfollows hopen hactive hawake =>
      exact .serving hserving hserved hfollows hopen hactive hawake

/-- In every run, the loop keeps to the reference for what the run has delivered. -/
theorem AcceptLoop.tracks_of_run {state : η} {moves : List AcceptMove}
    (hrun : run (AcceptLoop.step handler) (AcceptLoop.start ι state) moves = some l) :
    l.Tracks handler state (connections moves) := by
  refine run_history (P := fun moves l => AcceptLoop.Tracks handler state (connections moves) l)
    ?_ hrun (.idle rfl rfl rfl rfl)
  intro moves l move l' _ hstep h
  rw [connections_snoc]
  exact h.step hstep

/-- At rest every connection is served as in the reference, the one being served included. -/
theorem AcceptLoop.Tracks.sessions_eq {state : η} {cs : List (Peer × List SocketRead)}
    (h : l.Tracks handler state cs) (hrest : l.AtRest) :
    l.sessions = serveAll handler state cs := by
  cases h with
  | idle hserving hserved =>
    rw [AcceptLoop.sessions, hserving, ← hserved]
    exact List.append_nil _
  | @serving cs _ peer t reads hserving hserved hfollows =>
    rw [serveAll_snoc, ← hserved, AcceptLoop.sessions, hserving,
      ← hfollows.eq_of_atRest (hrest peer t hserving)]
    rfl

variable (handler) in
/-- **The server serves one connection after the other.** However `accept` fails in between, and
whatever chunks each connection's bytes arrive in: the connections that were served are served as in
the reference, from a fresh start each and with the handler as the one before has left it; at most
one more is being served, and the count of active connections says so; and at rest what was done on
that one, too, is what the reference does. -/
theorem accept_loop_eq_reference {state : η} {moves : List AcceptMove}
    (hrun : run (AcceptLoop.step handler) (AcceptLoop.start ι state) moves = some l) :
    l.served <+: serveAll handler state (connections moves) ∧
    l.served.length + l.activeConnections = (connections moves).length ∧
    l.activeConnections = l.serving.toList.length ∧
    (l.AtRest → l.sessions = serveAll handler state (connections moves)) := by
  have htracks := AcceptLoop.tracks_of_run hrun
  have hsessions := htracks.sessions_eq
  generalize connections moves = cs at htracks hsessions ⊢
  cases htracks with
  | idle hserving hserved hstate hactive =>
    refine ⟨hserved ▸ List.prefix_rfl, ?_, ?_, hsessions⟩
    · rw [hactive, hserved, length_serveAll, Nat.add_zero]
    · rw [hactive, hserving]
      rfl
  | @serving cs _ peer t reads hserving hserved hfollows hopen hactive hawake =>
    refine ⟨?_, ?_, ?_, hsessions⟩
    · rw [serveAll_snoc, ← hserved]
      exact List.prefix_append _ _
    · rw [hactive, hserved, length_serveAll, List.length_append, List.length_singleton]
    · rw [hactive, hserving]
      rfl

end

/-- `accept` fails once; then a tester connects, has an alive check answered and hangs up, and a
second one connects. -/
def twoTesters : List AcceptMove :=
  [.accept .failed, .wait ACCEPT_ERROR_BACKOFF, .wake, .accept (.connected localPeer)] ++
    splitAliveCheck.map .connection ++
    [.connection (.read (.ok [])), .connection .poll, .accept (.connected localPeer)]

/-- The first connection was served to its end, and the second is being served. -/
theorem accept_loop_eq_reference_two :
    letI := plainWire
    letI := plainFramed Incomplete
    ∃ l, run (AcceptLoop.step (grantingHandler Incomplete)) (AcceptLoop.start Incomplete ())
        twoTesters = some l ∧
      l.activeConnections = 1 ∧ l.served.length + 1 = (connections twoTesters).length ∧
      l.served <+: serveAll (grantingHandler Incomplete) () (connections twoTesters) := by
  let := plainWire
  let := plainFramed Incomplete
  have h : ∃ l, run (AcceptLoop.step (grantingHandler Incomplete)) (AcceptLoop.start Incomplete ())
      twoTesters = some l ∧ l.activeConnections = 1 := exists_of_any_run (by decide +kernel)
  obtain ⟨l, hrun, hactive⟩ := h
  obtain ⟨hserved, hlength, -, -⟩ := accept_loop_eq_reference _ hrun
  rw [hactive] at hlength
  exact ⟨l, hrun, hactive, hlength, hserved⟩

/-! ## Who is let in -/

section
variable {ι η : Type} [WireCodec ι] [Framed ι] {handler : ServerConnectionHandler ι η}
  {l : AcceptLoop ι η}

/-- What happens on the connection happens to the loop, until `handle_client_connection` returns. -/
theorem AcceptLoop.run_connection {peer : Peer} {t t' : Stream ι η} {moves : List StreamMove}
    (hserving : l.serving = some (peer, t)) (hopen : t.serving.result = none)
    (hrun : run (Stream.step handler peer) t moves = some t') :
    run (AcceptLoop.step handler) l (moves.map .connection) = some (l.proceed peer t') := by
  induction moves generalizing l t with
  | nil =>
    cases hrun
    rw [AcceptLoop.proceed, hopen, ← hserving]
    rfl
  | cons move moves ih =>
    rw [run_cons] at hrun
    obtain ⟨t₁, h₁, hrun⟩ := Option.bind_eq_some_iff.mp hrun
    have hstep : l.step handler (.connection move) = some (l.proceed peer t₁) := by
      simp only [AcceptLoop.step, hserving, h₁, Option.map_some]
    rw [List.map_cons, run_cons, hstep]
    cases hopen₁ : t₁.serving.result with
    | none =>
      have hproceed : l.proceed peer t₁ = { l with serving := some (peer, t₁) } := by
        rw [AcceptLoop.proceed, hopen₁]
      rw [hproceed]
      exact ih rfl hopen₁ hrun
    | some result =>
      -- a call that has returned does nothing more
      have hnil : moves = [] ∧ t₁ = t' := by
        cases moves with
        | nil =>
          cases hrun
          exact ⟨rfl, rfl⟩
        | cons move' moves =>
          have hnone : t₁.step handler peer move' = none := by
            cases move' <;> exact if_neg fun h => by rw [hopen₁] at h; cases h.1
          rw [run_cons, hnone] at hrun
          cases hrun
      obtain ⟨rfl, rfl⟩ := hnil
      rfl

/-- Once the tester has hung up, the connection comes to its end, after finitely many polls. -/
theorem returns_at_end {peer : Peer} {state : η} {s : List UInt8} {t : Stream ι η}
    (h : Follows handler peer state s none t) (hopen : t.serving.result = none)
    (hneeds : t.reader.NeedsRead) :
    ∃ n t', run (Stream.step handler peer) t (.read (.ok []) :: List.replicate n .poll) =
      some t' ∧ t'.serving.result.isNone = false := by
  have hnone : t.serving.result.isNone = true := by
    rw [hopen]
    rfl
  obtain ⟨serving, hnext⟩ := handleNext_open handler peer hnone (t.reader.fill (.ok [])).1
  have hread : t.step handler peer (.read (.ok [])) =
      some ⟨(t.reader.fill (.ok [])).2, serving⟩ := by
    rw [Stream.step, if_pos ⟨hnone, hneeds⟩, hnext]
    rfl
  have hpolled : ∃ n t', run (Stream.step handler peer)
      ⟨(t.reader.fill (.ok [])).2, serving⟩ (List.replicate n .poll) = some t' ∧ t'.AtRest := by
    obtain ⟨n, t', -, hpolls, hrest⟩ := exists_polls_to_rest _
    exact ⟨n, t', hpolls, hrest⟩
  obtain ⟨n, t', hpolls, hrest⟩ := hpolled
  refine ⟨n, t', ?_, ?_⟩
  · rw [run_cons, hread]
    exact hpolls
  · have hfollows := run_invariant_along
      (P := Follows handler peer state (s ++ SocketRead.bytes (.ok [])) (some .closed))
      (G := fun _ move => move = .poll) ?_
      (along_of_forall (fun move hmove => (List.mem_replicate.mp hmove).2) _) hpolls
      (follows_read hread h).2
    · cases hfollows with
      | returned hpre hrun hdone => exact hdone
      | live hreads hrun hopen' =>
        rcases hrest with hdone | hneeds'
        · exact hdone
        · cases (hreads.complete hneeds').1
    · rintro t₁ move t₂ rfl hstep h₁
      exact follows_poll hstep h₁

/-- A connection that waits for the socket, with nothing read on it, is the one the loop stays with,
whatever happens. -/
theorem AcceptLoop.sessions_of_silent {peer : Peer} {t : Stream ι η} {more : List AcceptMove}
    {l' : AcceptLoop ι η} (hserving : l.serving = some (peer, t)) (hneeds : t.reader.NeedsRead)
    (hmore : run (AcceptLoop.step handler) l more = some l')
    (hsilent : ∀ r, .connection (.read r) ∉ more) : l'.sessions = l.sessions := by
  have hmoves : ∀ move ∈ more, ∀ r, move ≠ .connection (.read r) := by
    rintro move hmove r rfl
    exact hsilent r hmove
  have hkeeps := run_invariant_along
    (P := fun l' => l'.serving = some (peer, t) ∧ l'.served = l.served)
    (G := fun _ move => ∀ r, move ≠ .connection (.read r)) ?_
    (along_of_forall hmoves l) hmore ⟨hserving, rfl⟩
  · rw [AcceptLoop.sessions, AcceptLoop.sessions, hkeeps.1, hkeeps.2, hserving]
  · rintro l₁ move l₂ hmove hstep ⟨hserving₁, hserved₁⟩
    cases AcceptLoop.moved_of_step hstep with
    | connected _ hidle => cases hidle.symm.trans hserving₁
    | failed hidle => cases hidle.symm.trans hserving₁
    | @proceeded move peer₁ t₁ t₂ hat hmoved =>
      cases hserving₁.symm.trans hat
      cases move with
      | read r => exact absurd rfl (hmove r)
      | poll =>
        rw [Stream.step, if_neg fun h => h.2 hneeds] at hmoved
        cases hmoved
    | woken | waited => exact ⟨hserving₁, hserved₁⟩

/-- A connection that has returned is one more that was served, and the loop is free again. -/
theorem AcceptLoop.proceed_returned (peer : Peer) {t : Stream ι η}
    (hdone : t.serving.result.isNone = false) :
    (l.proceed peer t).serving = none ∧ (l.proceed peer t).backoff = l.backoff ∧
      (l.proceed peer t).served = l.served ++ [(peer, t.serving)] := by
  obtain ⟨result, hresult⟩ := Option.isSome_iff_exists.mp (by simpa using hdone)
  rw [AcceptLoop.proceed, hresult]
  exact ⟨rfl, rfl, rfl⟩

/-- A loop that neither serves nor sleeps accepts whoever connects. -/
theorem AcceptLoop.step_connected (hserving : l.serving = none) (hawake : l.backoff.wake = none)
    (next : Peer) : l.step handler (.accept (.connected next)) = some (l.enter next) := by
  simp only [AcceptLoop.step, hserving, hawake, Option.isNone_none, and_self, if_true]

/-- Once the tester hangs up, its connection ends and the next one is accepted. -/
theorem AcceptLoop.accepts_after_end {peer : Peer} {t : Stream ι η} {state : η}
    {reads : List SocketRead} (hserving : l.serving = some (peer, t))
    (hfollows : Follows handler peer state (bytesRead reads) (endRead reads) t)
    (hopen : t.serving.result = none) (hawake : l.backoff.wake = none)
    (hneeds : t.reader.NeedsRead) :
    ∃ n l', run (AcceptLoop.step handler) l
        (.connection (.read (.ok [])) :: List.replicate n (.connection .poll)) = some l' ∧
      l'.served.length = l.served.length + 1 ∧
      ∀ next, l'.step handler (.accept (.connected next)) = some (l'.enter next) := by
  have hfin : endRead reads = none := by
    cases hfollows with
    | live hreads _ _ => exact (hreads.complete hneeds).1
    | returned _ _ hdone =>
      rw [hopen] at hdone
      cases hdone
  rw [hfin] at hfollows
  obtain ⟨n, t', hends, hdone⟩ := returns_at_end hfollows hopen hneeds
  have hloop := AcceptLoop.run_connection hserving hopen hends
  rw [List.map_cons, List.map_replicate] at hloop
  obtain ⟨hidle, hbackoff, hserved⟩ := AcceptLoop.proceed_returned (l := l) peer hdone
  refine ⟨n, _, hloop, ?_, AcceptLoop.step_connected hidle (hbackoff ▸ hawake)⟩
  rw [hserved, List.length_append, List.length_singleton]

/-- Every connection that was served has returned, so that none is given up halfway. -/
theorem AcceptLoop.returned_of_run {state : η} {moves : List AcceptMove}
    (hrun : run (AcceptLoop.step handler) (AcceptLoop.start ι state) moves = some l) :
    ∀ s ∈ l.served, s.2.result.isNone = false := by
  refine run_invariant (P := fun l : AcceptLoop ι η => ∀ s ∈ l.served, s.2.result.isNone = false)
    ?_ hrun (fun s hs => by cases hs)
  intro l move l' hstep h
  cases AcceptLoop.moved_of_step hstep with
  | connected | failed | woken | waited => exact h
  | @proceeded _ peer t t' =>
    cases hdone : t'.serving.result.isNone with
    | true =>
      rw [AcceptLoop.proceed, Option.isNone_iff_eq_none.mp hdone]
      exact h
    | false =>
      rw [(AcceptLoop.proceed_returned _ hdone).2.2]
      intro s hs
      rcases List.mem_append.mp hs with hs | hs
      · exact h s hs
      · rw [List.mem_singleton.mp hs]
        exact hdone

variable (handler) in
/-- **Whom the loop lets in.** At rest the next tester is accepted exactly when the loop does not
sleep and every call of the reference has returned, that is, when what the last tester has sent so
far, decoded as a whole, ends its connection. While nothing more is read from a tester whose call
goes on, no other is accepted, whatever happens; and once it hangs up, the next one is. -/
theorem next_tester_accepted_iff {state : η} {moves : List AcceptMove}
    (hrun : run (AcceptLoop.step handler) (AcceptLoop.start ι state) moves = some l)
    (hrest : l.AtRest) :
    (∀ next, (l.step handler (.accept (.connected next)) = some (l.enter next)) ↔
      l.backoff.wake = none ∧
        ∀ s ∈ serveAll handler state (connections moves), s.2.result.isNone = false) ∧
    ∀ peer t, l.serving = some (peer, t) →
      (∀ more l', run (AcceptLoop.step handler) l more = some l' →
        (∀ r, .connection (.read r) ∉ more) → l'.sessions = l.sessions) ∧
      ∃ n l', run (AcceptLoop.step handler) l
          (.connection (.read (.ok [])) :: List.replicate n (.connection .poll)) = some l' ∧
        l'.served.length = l.served.length + 1 ∧
        ∀ next, l'.step handler (.accept (.connected next)) = some (l'.enter next) := by
  have htracks := AcceptLoop.tracks_of_run hrun
  have hsessions := htracks.sessions_eq hrest
  have hreturned := AcceptLoop.returned_of_run hrun
  rw [← hsessions]
  generalize connections moves = cs at htracks
  cases htracks with
  | idle hidle =>
    refine ⟨fun next => ⟨fun hstep => ?_, fun h => AcceptLoop.step_connected hidle h.1 next⟩,
      fun peer t hserving => by cases hidle.symm.trans hserving⟩
    cases AcceptLoop.moved_of_step hstep with
    | connected _ _ hawake =>
      refine ⟨hawake, fun s hs => hreturned s ?_⟩
      rw [AcceptLoop.sessions, hidle] at hs
      exact (List.append_nil l.served) ▸ hs
  | @serving cs _ peer t reads hserving _ hfollows hopen _ hawake =>
    have hneeds : t.reader.NeedsRead := by
      rcases hrest peer t hserving with hdone | hneeds
      · rw [hopen] at hdone
        cases hdone
      · exact hneeds
    refine ⟨fun next => ⟨fun hstep => ?_, fun h => ?_⟩, fun peer' t' hserving' => ?_⟩
    · cases AcceptLoop.moved_of_step hstep with
      | connected _ hidle => cases hidle.symm.trans hserving
    · -- the call that goes on is one of the reference's
      have hmem : (peer, t.serving) ∈ l.sessions := by
        rw [AcceptLoop.sessions, hserving]
        exact List.mem_append_right _ List.mem_cons_self
      have hdone : t.serving.result.isNone = false := h.2 _ hmem
      rw [hopen] at hdone
      cases hdone
    · cases hserving.symm.trans hserving'
      exact ⟨fun more l' => AcceptLoop.sessions_of_silent hserving hneeds,
        AcceptLoop.accepts_after_end hserving hfollows hopen hawake hneeds⟩

end

/-- The second tester of that run says nothing: no third one is accepted until it hangs up. -/
theorem next_tester_accepted_iff_two :
    letI := plainWire
    letI := plainFramed Incomplete
    ∃ l, run (AcceptLoop.step (grantingHandler Incomplete)) (AcceptLoop.start Incomplete ())
        twoTesters = some l ∧ l.sessions.length = 2 ∧
      ∀ more l', run (AcceptLoop.step (grantingHandler Incomplete)) l more = some l' →
        (∀ r, .connection (.read r) ∉ more) → l'.sessions.length = 2 := by
  let := plainWire
  let := plainFramed Incomplete
  have h : ∃ l s, run (AcceptLoop.step (grantingHandler Incomplete))
      (AcceptLoop.start Incomplete ()) twoTesters = some l ∧ l.serving = some s ∧
      l.sessions.length = 2 ∧ s.2.reader.NeedsRead :=
    exists_of_any_part AcceptLoop.serving (by decide +kernel)
  obtain ⟨l, ⟨peer, t⟩, hrun, hserving, hlength, hneeds⟩ := h
  have hrest : l.AtRest := by
    intro peer t' hserving'
    cases hserving.symm.trans hserving'
    exact .inr hneeds
  have hsilent := ((next_tester_accepted_iff _ hrun hrest).2 _ _ hserving).1
  refine ⟨l, hrun, hlength, fun more l' hmore hnone => ?_⟩
  rw [hsilent more l' hmore hnone]
  exact hlength

end Server

end SimpleDoip
