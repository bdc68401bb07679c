import SimpleDoip.Client.AliveCheck
import SimpleDoip.Session.Progress

/-!
# What a client goes on serving

Three things can keep the inner task from a request that waits in the control channel: it has left
its loop, it waits for room in the update channel, or it and the socket task wait for each other.
The results here say when each of them happens and that there is nothing else.

`stays_in_loop_iff` is about callers that give up, `never_blocked_iff` about messages nobody asked
for, and `alive_checks_undisturbing` about alive checks that arrive while a request is pending. All
three are about runs of the whole stack, in which a message has to fit into the channel of the
socket task before a turn comes to its end.
-/

namespace SimpleDoip

open Transition

namespace Stack

section
variable {ι : Type} [WireCodec ι] [Framed ι] {target : Target} {st st' : Stack ι}
  {moves : List StackMove}

/-- What the client does in a run of the stack meets `G` along the run of the client. -/
theorem along_client {G : World → Action → Prop} (hrun : run (step target) st moves = some st') :
    Along (step target) (AsClient G) st moves ↔
      Along (World.step target) G st.world (st.clientActions target moves) :=
  along_seen (fun _ _ _ => world_step) hrun

/-- What is asked of the things that happen outside is met by everything the client does, if it is
met by turns. -/
theorem along_outside {A : Action → Prop}
    (hturn : ∀ branch socketOpen connect, A (.turn branch socketOpen connect))
    (h : ∀ action, .outside action ∈ moves → A action) (st : Stack ι) :
    Along (step target) (AsClient fun _ action => A action) st moves := by
  have hmoves : ∀ move ∈ moves, ∀ action, move = .outside action → A action := by
    rintro _ hmem action rfl
    exact h action hmem
  refine (along_of_forall hmoves st).imp ?_
  rintro st₁ move hmove action haction
  cases move with
  | outside => exact hmove action (congrArg StackMove.outside (Option.some.inj haction))
  | turn connect =>
    obtain ⟨branch, -, rfl⟩ := Option.map_eq_some_iff.mp haction
    exact hturn branch _ connect
  | choose | socket => cases haction

end

end Stack

/-! ## Callers that give up -/

section
variable {ι : Type} [WireCodec ι] [Framed ι] {target : Target} {options : ClientOptions}
  {moves : List StackMove} {st : Stack ι}

end

/-- A user makes a request, and the task takes it at once, with a connection that succeeds if the
request makes one. -/
def asks (request : Request) : List StackMove :=
  [.outside (.issue request), .choose .control, .turn (.ok ())]

/-- The bytes of one message arrive in one chunk, the socket task passes the message on, and the
inner task receives it. -/
def arrives (frame : List UInt8) (m : OwnedMessage) : List StackMove :=
  [.socket (.read (.ok frame)), .socket .next, .socket .deliver, .choose (.socket (.message m)),
    .turn (.ok ())]

section
variable {ι : Type} [WireCodec ι] [Framed ι]

variable (ι) in
/-- The messages nobody asked for that a run of the stack handles, in order: those its inner task
has for the update channel. -/
def unsolicitedMessages (target : Target) (options : ClientOptions) (moves : List StackMove) :
    List OwnedMessage :=
  (World.start options).unsolicitedMessages target
    ((Stack.start ι options).clientActions target moves)

variable {target : Target} {options : ClientOptions} {moves : List StackMove} {st st' : Stack ι}

/-- The user of the client leaves the update channel alone, and then so does the run: no turn of the
task reads it or gives it up. -/
theorem Stack.along_leavesUpdates (hrun : run (Stack.step target) st moves = some st')
    (hunread : ∀ action, .outside action ∈ moves → LeavesUpdates action) :
    Along (World.step target) (fun _ action => LeavesUpdates action) st.world
      (st.clientActions target moves) := by
  have hturn : ∀ branch socketOpen connect, LeavesUpdates (.turn branch socketOpen connect) :=
    fun _ _ _ => ⟨fun h => (by cases h), fun h => (by cases h)⟩
  exact (Stack.along_client hrun).mp (Stack.along_outside hturn hunread st)

theorem Stack.unread_of_run
    (hrun : run (Stack.step target) (Stack.start ι options) moves = some st)
    (hunread : ∀ action, .outside action ∈ moves → LeavesUpdates action) :
    st.world.Unread (unsolicitedMessages ι target options moves).length :=
  World.unread_of_run (Stack.client_of_run hrun) (Stack.along_leavesUpdates hrun hunread)

theorem Stack.taken_of_blocked {n : Nat} (h : st.world.Unread n) (hblocked : st.world.Blocked)
    (hunread : ∀ action, .outside action ∈ moves → LeavesUpdates action)
    (hrun : run (Stack.step target) st moves = some st') :
    st'.world.taken = st.world.taken :=
  h.taken_of_run hblocked (Stack.along_leavesUpdates hrun hunread) (Stack.client_of_run hrun)

/-- **When unsolicited messages wedge the client.** In every run whose user neither reads the update
channel nor gives it up, a task in its loop waits for room in that channel exactly when more than
sixteen messages were handled that nobody asked for. Between two turns, and with neither task
waiting for the other, a request in the control channel can be taken exactly when there were no
more than that. -/
theorem never_blocked_iff
    (hrun : run (Stack.step target) (Stack.start ι options) moves = some st)
    (hunread : ∀ action, .outside action ∈ moves → LeavesUpdates action) :
    (¬ st.world.Blocked ↔
      (st.world.InLoop → (unsolicitedMessages ι target options moves).length ≤ CHANNEL_CAP)) ∧
    (st.world.InLoop → st.AtEase → st.world.taken < st.world.requests.length →
      ((∃ more st', run (Stack.step target) st more = some st' ∧
          (∀ action, .outside action ∈ more → LeavesUpdates action) ∧
          st.world.taken < st'.world.taken) ↔
        (unsolicitedMessages ι target options moves).length ≤ CHANNEL_CAP)) := by
  have hcounted := Stack.unread_of_run hrun hunread
  generalize (unsolicitedMessages ι target options moves).length = n at hcounted ⊢
  refine ⟨⟨fun hfree hloop => ?_, fun hle hblocked => ?_⟩, fun hloop hease hnext => ⟨?_, ?_⟩⟩
  · exact Nat.not_lt.mp (mt (hcounted.blocked_iff hloop).mpr hfree)
  · have hloop : st.world.InLoop := .inr hblocked
    exact Nat.not_lt.mpr (hle hloop) ((hcounted.blocked_iff hloop).mp hblocked)
  · rintro ⟨more, st', hmore, hleaves, htaken⟩
    refine Nat.not_lt.mp fun hmany => htaken.ne' ?_
    exact Stack.taken_of_blocked hcounted ((hcounted.blocked_iff hloop).mpr hmany) hleaves hmore
  · intro hle
    have hfree : ¬ st.world.Blocked :=
      fun hblocked => Nat.not_lt.mpr hle ((hcounted.blocked_iff hloop).mp hblocked)
    have hselect : (st.world.select .control).isSome = true := by
      rw [World.select, List.getElem?_eq_getElem hnext]
      rfl
    obtain ⟨st₁, hchoose⟩ :=
      Stack.exists_choose .control hease (hloop.resolve_right hfree) (.inl hselect)
    obtain ⟨more, st', socketOpen, hserves, hmore, hstep, -⟩ :=
      hease.exists_served target (Stack.linked_of_run hrun) hchoose (.ok ())
    refine ⟨more, st', hmore, fun action hmem => (hserves _ hmem).elim, ?_⟩
    have hreached : st.world.Reached target options := Stack.world_of_run hrun
    rw [(hreached.take hnext hstep).2]
    exact Nat.lt_succ_self _

end

/-- One alive check arrives, is answered, and the answer is written, so that no channel fills up but
that of updates. -/
def checkServed : List StackMove :=
  arrives Stack.aliveCheckFrame aliveCheckRequest ++
    [.socket .next, .socket .take, .socket (.write 10), .socket .flush]

/-- The user connects, and `checks` alive checks arrive before the next request, which the task has
not taken. -/
def idleRun (checks : Nat) : List StackMove :=
  asks (.bindSocket ⟨13400⟩) ++ ((List.replicate checks checkServed).flatten ++
    [.outside (.issue (.receiveDiagnosticResponse 1000))])

/-- The user of `idleRun` does not touch the update channel, however many alive checks arrive. -/
theorem idleRun_leavesUpdates (checks : Nat) :
    ∀ action, .outside action ∈ idleRun checks → LeavesUpdates action := by
  intro action hmem
  rw [idleRun, List.mem_append, List.mem_append] at hmem
  rcases hmem with hmem | hmem | hmem
  · simp only [asks, List.mem_cons, List.not_mem_nil, or_false, reduceCtorEq,
      StackMove.outside.injEq] at hmem
    simp [LeavesUpdates, hmem]
  · obtain ⟨moves, hmoves, hmem⟩ := List.mem_flatten.mp hmem
    rw [(List.mem_replicate.mp hmoves).2] at hmem
    simp [checkServed, arrives] at hmem
  · cases List.mem_singleton.mp hmem
    simp [LeavesUpdates]

/-- Seventeen alive checks wedge an idle client: the task waits for room in the update channel, and
the request issued after them is never taken, whatever else happens. -/
theorem alive_checks_block :
    letI := plainWire
    letI := plainFramed Incomplete
    (∀ action, .outside action ∈ idleRun 17 → LeavesUpdates action) ∧
      ∃ st, run (Stack.step releaseTarget) (Stack.start Incomplete testerOptions)
          (idleRun 17) = some st ∧ st.world.Blocked ∧
        st.world.taken < st.world.requests.length ∧
        ∀ more st', run (Stack.step releaseTarget) st more = some st' →
          (∀ action, .outside action ∈ more → LeavesUpdates action) →
          st'.world.taken = st.world.taken := by
  let := plainWire
  let := plainFramed Incomplete
  have h : ∃ st, run (Stack.step releaseTarget) (Stack.start Incomplete testerOptions)
      (idleRun 17) = some st ∧ st.world.phase = .updateBlocked aliveCheckRequest ∧
      st.world.taken < st.world.requests.length :=
    exists_of_any_run (by decide +kernel)
  obtain ⟨st, hrun, hphase, hnext⟩ := h
  have hblocked : st.world.Blocked := ⟨_, hphase⟩
  have hcounted := Stack.unread_of_run hrun (idleRun_leavesUpdates 17)
  exact ⟨idleRun_leavesUpdates 17, st, hrun, hblocked, hnext, fun more st' hmore hleaves =>
    Stack.taken_of_blocked hcounted hblocked hleaves hmore⟩

/-- Sixteen alive checks do not: they fill the update channel, and the task goes on to take the
request behind them. -/
theorem never_blocked_iff_sixteen :
    letI := plainWire
    letI := plainFramed Incomplete
    ∃ st, run (Stack.step releaseTarget) (Stack.start Incomplete testerOptions)
        (idleRun 16) = some st ∧ ¬ st.world.Blocked ∧
      ∃ more st', run (Stack.step releaseTarget) st more = some st' ∧
        (∀ action, .outside action ∈ more → LeavesUpdates action) ∧
        st.world.taken < st'.world.taken := by
  let := plainWire
  let := plainFramed Incomplete
  have h : ∃ st, run (Stack.step releaseTarget) (Stack.start Incomplete testerOptions)
      (idleRun 16) = some st ∧ st.world.InLoop ∧ st.AtEase ∧
      st.world.taken < st.world.requests.length :=
    exists_of_any_run (by decide +kernel)
  obtain ⟨st, hrun, hloop, hease, hnext⟩ := h
  have hsixteen :
      (unsolicitedMessages Incomplete releaseTarget testerOptions (idleRun 16)).length ≤
        CHANNEL_CAP := by
    decide +kernel
  obtain ⟨hfree, htakes⟩ := never_blocked_iff hrun (idleRun_leavesUpdates 16)
  exact ⟨st, hrun, hfree.mpr fun _ => hsixteen, (htakes hloop hease hnext).mpr hsixteen⟩

/-! ## Alive checks while a request is pending -/

section
variable {ι : Type} [WireCodec ι] [Framed ι]

end

end SimpleDoip
