import SimpleDoip.Client.Deadlines
import SimpleDoip.Session.Deadlock

/-!
# How the client goes on

A turn of the inner task comes to its end unless the socket task waits for the inner task at the
same time (`Stack.waits_forever_iff`). So between two turns, with a socket task that does not wait
for room for what it read (`Stack.AtEase`), the two tasks can make any turn that is ready, and they
are at ease again afterwards (`Stack.AtEase.exists_served`).

`Brings` states progress in terms of the inner task alone: from every stack at ease that holds this
task, moves of the given kind can lead to one at ease whose task meets `P`. From the head of its
loop the task takes what waits in the control channel (`World.Reached.brings_taken`), and what it
has taken is answered by its deadline at the latest (`World.Reached.brings_settled`).
-/

namespace SimpleDoip

open Transition SocketTask

/-! ## Kinds of moves -/

/-- The moves that make up one turn on a branch: the inner task chooses the branch and makes its
turn, and in between the socket task works off what it has, to make room. -/
def StackMove.Serves (branch : Branch) : StackMove → Prop
  | .choose chosen => chosen = branch
  | .turn _ => True
  | .socket move => move.worksOff = true
  | .outside _ => False

/-- The moves by which a request in hand runs into its deadline: time passes, and the inner task
serves its deadline branch. -/
def StackMove.Awaits : StackMove → Prop
  | .outside (.wait _) => True
  | a => a.Serves .deadline

/-- The moves of the two tasks and of time. What is left are the things that users of the client
do. -/
def StackMove.ofTasks : StackMove → Bool
  | .outside (.wait _) | .outside .resume => true
  | .outside _ => false
  | .choose _ | .turn _ | .socket _ => true

theorem StackMove.ofTasks_of_serves {branch : Branch} {a : StackMove} (h : a.Serves branch) :
    a.ofTasks = true := by
  cases a <;> first | rfl | cases h

theorem StackMove.ofTasks_of_awaits {a : StackMove} (h : a.Awaits) : a.ofTasks = true := by
  cases a with
  | outside action => cases action <;> first | rfl | cases h
  | choose | turn | socket => rfl

/-! ## Turns that go through -/

namespace Stack

section
variable {ι : Type} [WireCodec ι] [Framed ι] {target : Target} {st st' : Stack ι}

/-- The inner task is between two turns, and the socket task does not wait for it: it may have
something to hand over, but then there is room. -/
structure AtEase (st : Stack ι) : Prop where
  between : st.chosen = none
  uncongested : ∀ t ∈ st.socket, ¬ t.Congested

instance (st : Stack ι) : Decidable st.AtEase :=
  decidable_of_iff (st.chosen = none ∧ ∀ t ∈ st.socket, ¬ t.Congested)
    ⟨fun h => ⟨h.1, h.2⟩, fun h => ⟨h.1, h.2⟩⟩

/-- Receiving makes room in the channel from the socket task, and never more than one message is put
there at a time. -/
theorem uncongested_receive {t t' : SocketTask ι} {incoming : Incoming}
    (hreceive : t.receive = some (incoming, t')) (h : ¬ t.Congested) : ¬ t'.Congested := by
  have hvalue : ∀ {item c}, t.incoming.recv = .value item c →
      ¬ Congested { t with incoming := c } := by
    rintro item c hrecv ⟨-, hfull⟩
    have hlength := t.incoming.length_queue
    rw [(Channel.of_recv_value hrecv).1, List.length_cons] at hlength
    exact Nat.not_succ_le_self _ (hfull ▸ hlength)
  rw [SocketTask.receive] at hreceive
  split at hreceive
  · next hrecv =>
    cases hreceive
    exact hvalue hrecv
  · next hrecv =>
    cases hreceive
    exact hvalue hrecv
  · cases hreceive
    exact h
  · cases hreceive

/-- A turn leaves what the socket task waits for as it is, or replaces the task by a new one, which
waits for nothing. -/
theorem uncongested_turn {connect : Except Error Unit} (h : ∀ t ∈ st.socket, ¬ t.Congested)
    (hturn : st.turn target connect = some st') : ∀ t ∈ st'.socket, ¬ t.Congested := by
  intro t ht
  cases moved_of_turn hturn with
  | bound =>
    cases (of_settle st ht).2
    rintro ⟨hsending, -⟩
    cases hsending
  | turnedUnbound => cases (of_settle st ht).2
  | @turned _ _ _ t₁ _ _ _ hsocket _ hhand =>
    cases (of_settle st ht).2
    obtain ⟨hincoming, -, hphase, -⟩ := run_send hhand
    rintro ⟨hsending, hfull⟩
    refine h t₁ hsocket ⟨?_, hincoming ▸ hfull⟩
    rw [isSending, ← hphase]
    exact hsending

/-- What a choice leaves: the branch is chosen, the inner task has not moved, and a message it has
received made room. -/
theorem AtEase.of_choose (target : Target) (h : st.AtEase) {branch : Branch}
    (hchoose : st.choose branch = some st') :
    st'.chosen = some branch ∧ st'.world = st.world ∧ ∀ t ∈ st'.socket, ¬ t.Congested := by
  have hmoved : st.Moved target (.choose branch) st' := moved_of_choose hchoose
  cases hmoved with
  | received _ _ hsocket hreceive =>
    refine ⟨rfl, rfl, fun t ht => ?_⟩
    cases ht
    exact uncongested_receive hreceive (h.uncongested _ hsocket)
  | chosen => exact ⟨rfl, rfl, h.uncongested⟩

/-- **At ease, a branch that is chosen is served**: the turn comes to its end, if need be after the
socket task has made room for what it hands over, and leaves the two tasks at ease. -/
theorem AtEase.exists_served (target : Target) (h : st.AtEase) (hlinked : st.Linked)
    {branch : Branch} (hchoose : st.choose branch = some st') (connect : Except Error Unit) :
    ∃ moves st'' socketOpen, (∀ a ∈ moves, a.Serves branch) ∧
      run (Stack.step target) st moves = some st'' ∧
      st.world.step target (.turn branch socketOpen connect) = some st''.world ∧ st''.AtEase := by
  have hstep : st.step target (.choose branch) = some st' := hchoose
  obtain ⟨hchosen, hworld, huncongested⟩ := h.of_choose target hchoose
  have hfree : ¬ st'.Deadlocked := by
    rintro ⟨t, hsocket, -, hcongested⟩
    exact huncongested t hsocket hcongested
  obtain ⟨work, st₁, st'', hturns⟩ := exists_turn target (hlinked.step hstep) hchosen hfree connect
  have hturn : st₁.step target (.turn connect) = some st'' := hturns.turned
  refine ⟨.choose branch :: (work.map .socket ++ [.turn connect]), st'', st₁.socketOpen, ?_, ?_, ?_,
    chosen_of_turn hturns.turned, uncongested_turn (hturns.uncongested huncongested) hturns.turned⟩
  · intro a ha
    rcases List.mem_cons.mp ha with rfl | ha
    · rfl
    rcases List.mem_append.mp ha with ha | ha
    · obtain ⟨move, hmove, rfl⟩ := List.mem_map.mp ha
      exact hturns.worksOff move hmove
    · cases List.mem_singleton.mp ha
      trivial
  · rw [run_cons, hstep]
    exact run_snoc hturns.ran hturn
  · have hclient := world_step hturn
    rw [action, hturns.chosen, hchosen] at hclient
    rw [← hworld, ← hturns.world]
    exact (run_singleton _ _).symm.trans hclient

/-- What happens outside leaves the two tasks at ease: it makes no choice for the inner task, and
the socket task sees only time. -/
theorem AtEase.outside (h : st.AtEase) {action : Action}
    (hstep : st.step target (.outside action) = some st') : st'.AtEase := by
  cases moved_of_step hstep with
  | outside =>
    refine ⟨h.between, fun t ht => ?_⟩
    obtain ⟨t₁, hsocket, rfl⟩ := Option.map_eq_some_iff.mp (of_settle st ht).2
    exact h.uncongested t₁ hsocket

end

end Stack

/-! ## Progress in terms of the inner task -/

theorem Stack.exists_choose {ι : Type} [WireCodec ι] [Framed ι] {st : Stack ι} (branch : Branch)
    (h : st.AtEase) (hhead : st.world.phase = .loopHead) (hoffers : st.world.Offers branch) :
    ∃ st', st.choose branch = some st' := by
  have hguard : st.world.phase = .loopHead ∧ st.chosen = none := ⟨hhead, h.between⟩
  refine ⟨{ st with chosen := some branch }, ?_⟩
  unfold Stack.choose
  rw [if_pos hguard]
  cases branch with
  | deadline => exact if_pos hoffers
  | control => exact if_pos hoffers
  | socket incoming => cases hoffers

section
variable (ι : Type) [WireCodec ι] [Framed ι] (target : Target)

/-- From every stack at ease whose inner task is `w`, moves that meet `A` can lead to one at ease
whose inner task meets `P`. -/
def Brings (A : StackMove → Prop) (P : World → Prop) (w : World) : Prop :=
  ∀ st : Stack ι, st.Linked → st.AtEase → st.world = w →
    Leads (Stack.step target) A (fun st' => st'.Linked ∧ st'.AtEase ∧ P st'.world) st

end

namespace Brings

section
variable {ι : Type} [WireCodec ι] [Framed ι] {target : Target} {A B : StackMove → Prop}
  {P Q : World → Prop} {w : World}

theorem here (h : P w) : Brings ι target A P w := by
  rintro st hlinked hease rfl
  exact .here ⟨hlinked, hease, h⟩

/-- **The rule of sequence**: what brings `P` brings `Q`, where every world with `P` brings `Q`. -/
theorem trans (h : Brings ι target A P w) (hQ : ∀ w', P w' → Brings ι target A Q w') :
    Brings ι target A Q w := by
  intro st hlinked hease hworld
  refine (h st hlinked hease hworld).trans ?_
  rintro st' ⟨hlinked', hease', hP⟩
  exact hQ _ hP st' hlinked' hease' rfl

theorem imp (h : Brings ι target A P w) (hA : ∀ a, A a → B a) (hP : ∀ w', P w' → Q w') :
    Brings ι target B Q w := by
  intro st hlinked hease hworld
  obtain ⟨moves, st', hrun, hmoves, hlinked', hease', h'⟩ := h st hlinked hease hworld
  exact ⟨moves, st', hrun, fun a ha => hA a (hmoves a ha), hlinked', hease', hP _ h'⟩

/-- **The rule of a turn**: at the head of its loop, a branch that is offered can be chosen and its
turn made. The connection succeeds, if the turn makes one; whether the socket was open is not for
the caller to say. -/
theorem turn (branch : Branch) (hhead : w.phase = .loopHead) (hoffers : w.Offers branch)
    (hA : ∀ a : StackMove, a.Serves branch → A a)
    (h : ∀ socketOpen w', w.step target (.turn branch socketOpen (.ok ())) = some w' →
      Brings ι target A P w') : Brings ι target A P w := by
  rintro st hlinked hease rfl
  obtain ⟨st₁, hchoose⟩ := Stack.exists_choose branch hease hhead hoffers
  obtain ⟨moves, st', socketOpen, hmoves, hrun, hstep, hease'⟩ :=
    hease.exists_served target hlinked hchoose (.ok ())
  have hlinked' := hlinked.run hrun
  have hserved : Leads (Stack.step target) A (fun s => s = st') st :=
    ⟨moves, st', hrun, fun a ha => hA a (hmoves a ha), rfl⟩
  refine hserved.trans ?_
  rintro _ rfl
  exact h socketOpen _ hstep _ hlinked' hease' rfl

/-- **The rule of what happens outside**: an action of the world that is no turn is made in the
stack as it is. -/
theorem outside (action : Action) {w' : World} (hturn : action.isTurn = false)
    (hA : A (.outside action)) (hstep : w.step target action = some w')
    (h : Brings ι target A P w') : Brings ι target A P w := by
  rintro st hlinked hease rfl
  have hmove : st.step target (.outside action) = some (st.settle w'
      (st.socket.map fun t => { t with clock := t.clock + action.elapsed })) := by
    simp only [Stack.step, hturn, hstep, Bool.false_eq_true, if_false, Option.map_some]
  exact .next hA hmove (h _ (hlinked.step hmove) (hease.outside hmove) rfl)

end

end Brings

/-! ## What a turn leaves -/

namespace World

variable {target : Target} {options : ClientOptions} {w w' : World}

variable (target options) in
/-- A world that a task can get into, so that the invariants of runs hold of it. -/
def Reached (w : World) : Prop :=
  ∃ actions, run (World.step target) (World.start options) actions = some w

theorem Reached.step {a : Action} (h : w.Reached target options)
    (hstep : w.step target a = some w') : w'.Reached target options := by
  obtain ⟨actions, hrun⟩ := h
  exact ⟨actions ++ [a], run_snoc hrun hstep⟩

theorem Reached.waits (h : w.Reached target options) : w.Waits := by
  obtain ⟨actions, hrun⟩ := h
  exact World.waits_of_run hrun

/-- The task went on, and nothing of what its users see changed but the time and the log: no request
was added or given up, and the update channel is as it was. If the task is in its loop, it is at its
head. -/
structure Driven (w w' : World) : Prop where
  requests : w'.requests = w.requests
  taken : w.taken ≤ w'.taken
  dropped : w'.dropped = w.dropped
  updates : w'.updates = w.updates
  updatesOpen : w'.updatesOpen = w.updatesOpen
  controlOpen : w'.controlOpen = w.controlOpen
  free : w'.InLoop → w'.phase = .loopHead

theorem Driven.trans {w'' : World} (h : w.Driven w') (h' : w'.Driven w'') : w.Driven w'' where
  requests := h'.requests.trans h.requests
  taken := h.taken.trans h'.taken
  dropped := h'.dropped.trans h.dropped
  updates := h'.updates.trans h.updates
  updatesOpen := h'.updatesOpen.trans h.updatesOpen
  controlOpen := h'.controlOpen.trans h.controlOpen
  free := h'.free

theorem Driven.refl (h : w.InLoop → w.phase = .loopHead) : w.Driven w :=
  ⟨rfl, Nat.le_refl _, rfl, rfl, rfl, rfl, h⟩

theorem driven_wait (h : w.InLoop → w.phase = .loopHead) (duration : Nat) :
    w.Driven { w with clock := w.clock + duration } :=
  ⟨rfl, Nat.le_refl _, rfl, rfl, rfl, rfl, h⟩

/-- A turn that does not pass a message on leaves the update channel alone, and so the task at the
head of its loop. -/
theorem driven_finish (hhead : w.phase = .loopHead) {select : Select}
    {r : EStateM.Result Panic Task Processed}
    (hstay : ∀ processed t, r = .ok processed t → processed = .stay) :
    w.Driven (w.finish select r) := by
  cases r with
  | error p t =>
    refine ⟨rfl, Nat.le_add_right _ _, rfl, rfl, rfl, rfl, fun hloop => ?_⟩
    rcases hloop with h | ⟨m, h⟩ <;> cases h
  | ok processed t =>
    cases hstay processed t rfl
    exact ⟨rfl, Nat.le_add_right _ _, rfl, rfl, rfl, rfl, fun _ => hhead⟩

end World

/-- A turn on a request stays in the loop, or panics: only a message from the socket can be passed
on or end the loop. -/
theorem Turned.stay_of_control {target : Target} {env : Env} {i : Inner}
    {r : EStateM.Result Panic Task Processed} {message : ControlMessage}
    (h : Turned target env i (.control message) r) :
    ∀ processed t, r = .ok processed t → processed = .stay := by
  intro processed t hr
  cases h <;> cases hr <;> rfl

namespace World

variable {target : Target} {options : ClientOptions} {w w' : World} {socketOpen : Bool}
  {connect : Except Error Unit}

/-- A turn on the control branch takes the next request, and nothing else of what users see
changes. -/
theorem Reached.take (h : w.Reached target options) (hlt : w.taken < w.requests.length)
    (hstep : w.step target (.turn .control socketOpen connect) = some w') :
    w.Driven w' ∧ w'.taken = w.taken + 1 := by
  have hselect : w.select .control =
      some (.control (w.requests[w.taken].create w.taken)) := by
    rw [World.select, List.getElem?_eq_getElem hlt]
    rfl
  obtain ⟨hhead, ⟨select, hselect', rfl⟩ | ⟨hnone, -⟩⟩ := World.of_step_turn hstep
  · cases hselect.symm.trans hselect'
    have hturned := turn_spec target (w.env socketOpen connect) (h.waits (.inl hhead))
      (World.ready_of_select hselect)
    refine ⟨driven_finish hhead hturned.stay_of_control, ?_⟩
    rw [World.finish_taken]
    rfl
  · cases hselect.symm.trans hnone

/-- A turn on the deadline branch does not end the task, and clears what was in hand. -/
theorem Reached.expire (h : w.Reached target options)
    (hstep : w.step target (.turn .deadline socketOpen connect) = some w') :
    w.Driven w' ∧ w'.phase = .loopHead ∧ w'.taken = w.taken ∧ w'.inner.held = none := by
  obtain ⟨hhead, ⟨select, hselect, rfl⟩ | ⟨-, hbranch, -⟩⟩ := World.of_step_turn hstep
  · have hturned := turn_spec target (w.env socketOpen connect) (h.waits (.inl hhead))
      (World.ready_of_select hselect)
    cases World.selected_of_select hselect with
    | deadline =>
      generalize SimpleDoip.turn target (w.env socketOpen connect) .deadline ⟨w.inner, []⟩ = r
        at hturned ⊢
      cases hturned with
      | expired =>
        refine ⟨driven_finish hhead fun processed t hr => ?_, hhead, rfl, rfl⟩
        cases hr
        rfl
  · cases hbranch

/-- What was completed was answered: a completion carries its answer. -/
theorem answerTo_of_completed {log : List Entry} {r : Nat} (h : completions log r = 1) :
    answerTo log r ≠ none := by
  intro hnone
  obtain ⟨e, he, hcompletes⟩ := List.countP_pos_iff.mp (by rw [← completions, h]; decide)
  have hnone' := List.findSome?_eq_none_iff.mp hnone e he
  rcases e with _ | _ | ⟨id, a⟩ | _ <;> simp [Entry.completes] at hcompletes
  simp [hcompletes] at hnone'

/-- A request that was taken was completed once, or is the one held. Of the two, only the second
leaves something to wait for. -/
theorem Reached.completed_or_held (h : w.Reached target options) (hloop : w.InLoop) {r : Nat}
    (hr : r < w.taken) : completions w.log r = 1 ∨ w.inner.held = some r := by
  obtain ⟨actions, hrun⟩ := h
  have hcount := World.accounted_of_run hrun hloop r
  rw [if_pos hr, Inner.holds] at hcount
  split at hcount
  · next hheld => exact .inr hheld
  · exact .inl hcount

section
variable {ι : Type} [WireCodec ι] [Framed ι]

/-- **From the head of its loop the task takes its requests**, up to a given one and no further,
unless one of them ends it. -/
theorem Reached.brings_taken (h : w.Reached target options)
    (hfree : w.InLoop → w.phase = .loopHead) {n : Nat} (hn : n ≤ w.requests.length) :
    Brings ι target (fun a => a.Serves .control)
      (fun w' => w'.Reached target options ∧ w.Driven w' ∧ w'.taken ≤ max w.taken n ∧
        (w'.InLoop → n ≤ w'.taken)) w := by
  induction hk : n - w.taken generalizing w with
  | zero => exact .here ⟨h, .refl hfree, Nat.le_max_left _ _, fun _ => by omega⟩
  | succ k ih =>
    by_cases hloop : w.InLoop
    · have hlt : w.taken < w.requests.length := by omega
      have hselect : (w.select .control).isSome = true := by
        rw [World.select, List.getElem?_eq_getElem hlt]
        rfl
      refine .turn .control (hfree hloop) (.inl hselect) (fun _ => id) fun socketOpen w' hstep => ?_
      obtain ⟨hdriven, htaken⟩ := h.take hlt hstep
      refine (ih (h.step hstep) hdriven.free (hdriven.requests ▸ hn) (by omega)).imp
        (fun _ => id) ?_
      rintro w'' ⟨hreached, hdriven', hmax, htaken'⟩
      exact ⟨hreached, hdriven.trans hdriven', by omega, htaken'⟩
    · exact .here ⟨h, .refl hfree, Nat.le_max_left _ _, fun h => absurd h hloop⟩

/-- **What the task has taken is answered**, by its deadline at the latest, and the task goes on. -/
theorem Reached.brings_settled (h : w.Reached target options) (hhead : w.phase = .loopHead)
    {r : Nat} (hr : r < w.taken) :
    Brings ι target StackMove.Awaits
      (fun w' => w'.Reached target options ∧ w.Driven w' ∧ w'.phase = .loopHead ∧
        completions w'.log r = 1) w := by
  rcases h.completed_or_held (.inl hhead) hr with hcompleted | hheld
  · exact .here ⟨h, .refl fun _ => hhead, hhead, hcompleted⟩
  -- the request waits, and its deadline comes
  obtain ⟨request, hactive, -⟩ := Option.map_eq_some_iff.mp hheld
  obtain ⟨deadline, hdeadline⟩ : ∃ deadline, w.inner.awaitResponseDeadline = some deadline := by
    obtain ⟨actions, hrun⟩ := h
    obtain ⟨deadline, hdeadline, -⟩ := World.timed_of_run hrun request hactive
    exact ⟨deadline, hdeadline⟩
  have hwait : w.step target (.wait deadline) = some { w with clock := w.clock + deadline } := rfl
  have hselect : World.select { w with clock := w.clock + deadline } .deadline =
      some .deadline := by
    simp only [World.select, hactive, hdeadline]
    exact if_pos (Nat.le_add_left deadline w.clock)
  have h₁ := h.step hwait
  refine .outside (.wait deadline) rfl trivial hwait ?_
  refine .turn .deadline hhead (by rw [Offers, hselect]; rfl) (fun a ha => ?_)
    fun socketOpen w' hstep => .here ?_
  · cases a <;> first | exact ha | cases ha
  · obtain ⟨hdriven, hhead', htaken, hnone⟩ := h₁.expire hstep
    refine ⟨h₁.step hstep, (driven_wait (fun _ => hhead) deadline).trans hdriven, hhead', ?_⟩
    refine ((h₁.step hstep).completed_or_held (.inl hhead') (htaken ▸ hr)).resolve_right ?_
    rw [hnone]
    exact (Option.some_ne_none r).symm

/-- From the head of its loop the task takes every request there is, unless one of them ends it. -/
theorem Reached.brings_all (h : w.Reached target options)
    (hfree : w.InLoop → w.phase = .loopHead) :
    Brings ι target (fun a => a.ofTasks = true)
      (fun w' => w'.Reached target options ∧ w.Driven w' ∧
        (w'.InLoop → w'.requests.length ≤ w'.taken)) w := by
  refine (h.brings_taken hfree (Nat.le_refl _)).imp (fun _ => StackMove.ofTasks_of_serves) ?_
  rintro w₁ ⟨h₁, hdriven₁, -, htaken⟩
  exact ⟨h₁, hdriven₁, hdriven₁.requests ▸ htaken⟩

/-- **The task answers a request**, from the head of its loop. By then it has taken every request
there is. -/
theorem Reached.brings_answered (h : w.Reached target options)
    (hfree : w.InLoop → w.phase = .loopHead) {r : Nat} (hr : r < w.requests.length) :
    Brings ι target (fun a => a.ofTasks = true)
      (fun w' => w'.Reached target options ∧ w.Driven w' ∧
        (w'.InLoop → answerTo w'.log r ≠ none ∧ w'.requests.length ≤ w'.taken)) w := by
  refine (h.brings_all hfree).trans ?_
  rintro w₁ ⟨h₁, hdriven₁, htaken⟩
  by_cases hloop : w₁.InLoop
  · have hr₁ : r < w₁.taken := (hdriven₁.requests ▸ hr).trans_le (htaken hloop)
    refine (h₁.brings_settled (hdriven₁.free hloop) hr₁).imp
      (fun _ => StackMove.ofTasks_of_awaits) ?_
    rintro w₂ ⟨h₂, hdriven₂, -, hcompleted⟩
    refine ⟨h₂, hdriven₁.trans hdriven₂, fun _ => ⟨answerTo_of_completed hcompleted, ?_⟩⟩
    rw [hdriven₂.requests]
    exact (htaken hloop).trans hdriven₂.taken
  · exact .here ⟨h₁, hdriven₁, fun h => absurd h hloop⟩

end

end World

end SimpleDoip
