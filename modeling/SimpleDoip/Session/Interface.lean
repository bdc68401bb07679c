import SimpleDoip.Client.Facade
import SimpleDoip.Session.Progress

/-!
# The client's interface down to its socket

`Facade` is a client with the call underway beside its inner task, and `Stack` is the inner task on
top of its socket task. `Interface` is a client with all of them, so that a call waits for a task
that may itself wait for room in the channel of the socket task.

Every run of an interface is a run of the facade (`Interface.facade_of_run`), which therefore keeps
what holds of every run of a facade. What a call can wait for in vain is only seen here.
-/

namespace SimpleDoip

open Transition

/-- A client with the call underway, its inner task and the socket task below it, and the results
its calls have returned. -/
structure Interface (ι : Type) [WireCodec ι] [Framed ι] where
  stack : Stack ι
  underway : CallState
  results : List CallResult

/-- One thing that happens: a move of the client, or one of the two tasks or of time. -/
inductive InterfaceMove where
  | client (move : FacadeMove)
  | tasks (move : StackMove)

/-- Whether a move of the facade is one of the inner task. At the interface such moves come from the
stack instead. -/
def FacadeMove.isTask : FacadeMove → Bool
  | .task _ => true
  | _ => false

namespace Interface

section
variable (ι : Type) [WireCodec ι] [Framed ι] (target : Target) (options : BindOptions)

/-- `connect` has spawned the inner task and is about to bind. There is no socket task yet. -/
def start : Interface ι := ⟨Stack.start ι options.inner, .connecting .begun, []⟩

variable {ι}

/-- The client with its inner task alone, which forgets what is below. -/
def facade (g : Interface ι) : Facade := ⟨g.stack.world, g.underway, g.results⟩

/-- One move, where it can happen. A move of the client changes its ends of the channels to the
inner task and nothing below. -/
def step (g : Interface ι) : InterfaceMove → Option (Interface ι)
  | .client move =>
    if move.isTask then none
    else (g.facade.step ι target options move).map fun f =>
      ⟨{ g.stack with world := f.world }, f.underway, f.results⟩
  | .tasks move =>
    if move.ofTasks then (g.stack.step target move).map fun stack => { g with stack } else none

/-- What a move is to the client with its inner task alone: a move of the socket task, or a choice
of a branch, is none. -/
def facadeMove (g : Interface ι) : InterfaceMove → Option FacadeMove
  | .client move => some move
  | .tasks move => (g.stack.action move).map .task

end

end Interface

/-! ## What the client does to the tasks -/

namespace Stack

section
variable {ι : Type} [WireCodec ι] [Framed ι] {target : Target} {st st' : Stack ι}

/-- An action that is none of the tasks' leaves them alone: it neither binds nor unbinds the socket,
and takes no time. -/
theorem step_user (h : st.Linked) {a : Action} {w : World} (ha : a.ofTask = false)
    (hstep : st.world.step target a = some w) :
    st.step target (.outside a) = some { st with world := w } := by
  have hkeeps : a.isTurn = false ∧ a.elapsed = 0 ∧ (w.HoldsSocket ↔ st.world.HoldsSocket) := by
    cases World.moved_of_step hstep with
    | issued | abandoned | controlClosed | updateRead | updatesDropped =>
      exact ⟨rfl, rfl, Iff.rfl⟩
    | waited | turned | ended | resumed => cases ha
  obtain ⟨hturn, helapsed, hholds⟩ := hkeeps
  have hsocket : (if w.HoldsSocket then st.socket.map fun t => { t with clock := t.clock + 0 }
      else none) = st.socket := by
    have hbound := hholds.trans h.bound
    cases hst : st.socket with
    | none => exact ite_self _
    | some t =>
      rw [hst] at hbound
      exact if_pos (hbound.mpr rfl)
  simp only [step, hturn, hstep, helapsed, settle, Bool.false_eq_true, if_false, Option.map_some,
    hsocket]

/-- In a deadlock the inner task is at the head of its loop: it has chosen a branch, and its turn
has not been made. -/
theorem Deadlocked.head (h : st.Deadlocked) (hlinked : st.Linked) :
    st.world.phase = .loopHead := by
  obtain ⟨t, -, ⟨hmessage, -⟩, -⟩ := h
  obtain ⟨m, hm⟩ := Option.isSome_iff_exists.mp hmessage
  obtain ⟨branch, hchosen, -⟩ := Option.bind_eq_some_iff.mp hm
  exact (hlinked.ready branch hchosen).1

/-- In a deadlock the tasks only let time pass: whatever move they can make leaves the inner task as
it is, but for the clock. -/
theorem Deadlocked.onlyWaits (h : st.Deadlocked) (hlinked : st.Linked) {a : StackMove}
    (ha : a.ofTasks = true) (hstep : st.step target a = some st') :
    ∃ duration, st'.world = { st.world with clock := st.world.clock + duration } := by
  have hchosen := (h.step hlinked hstep).2.1
  cases moved_of_step hstep with
  | @outside action w hturn hworld =>
    cases World.moved_of_step hworld with
    | waited duration => exact ⟨duration, rfl⟩
    | resumed hphase => cases (h.head hlinked).symm.trans hphase
    | issued | abandoned | controlClosed | updateRead | updatesDropped => cases ha
    | turned | ended => cases hturn
  | received | chosen | socketMoved => exact ⟨0, rfl⟩
  | bound hbranch | turnedUnbound hbranch | turned hbranch => cases hbranch.symm.trans hchosen.symm

/-- What the client does is a run of the stack, of things that happen outside it, one for each
action. -/
theorem run_user (h : st.Linked) {w : World} (huser : st.world.UserRun target w) :
    ∃ moves, (∀ a ∈ moves, ∃ action, a = .outside action) ∧
      run (step target) st moves = some { st with world := w } := by
  obtain ⟨actions, hactions, hrun⟩ := huser
  induction actions generalizing st with
  | nil =>
    cases hrun
    exact ⟨[], fun _ ha => absurd ha List.not_mem_nil, rfl⟩
  | cons a actions ih =>
    rw [run_cons] at hrun
    obtain ⟨w₁, h₁, hrun⟩ := Option.bind_eq_some_iff.mp hrun
    obtain ⟨ha, hactions⟩ := List.forall_mem_cons.mp hactions
    have hstep := step_user h ha h₁
    obtain ⟨moves, hmoves, hrun'⟩ := ih (h.step hstep) hactions hrun
    refine ⟨.outside a :: moves, List.forall_mem_cons.mpr ⟨⟨a, rfl⟩, hmoves⟩, ?_⟩
    rw [run_cons, hstep]
    exact hrun'

end

end Stack

/-- Two ways for the inner task to stand: between two turns beside a socket task that does not wait
for it, or waiting for a socket task that does. -/
inductive Standing where
  | atEase
  | deadlocked

section
variable {ι : Type} [WireCodec ι] [Framed ι] {target : Target} {st st' : Stack ι}

/-- The tasks stand one of the two ways. What a call does without the task, it does in both. -/
def Stack.Stands (st : Stack ι) : Standing → Prop
  | .atEase => st.AtEase
  | .deadlocked => st.Deadlocked

/-- What happens outside leaves the tasks as they stand: it makes no room in the channels between
them, and takes none. -/
theorem Stack.Stands.outside {standing : Standing} (h : st.Stands standing) (hlinked : st.Linked)
    {action : Action} (hstep : st.step target (.outside action) = some st') :
    st'.Stands standing := by
  cases standing with
  | atEase => exact AtEase.outside h hstep
  | deadlocked => exact (Deadlocked.step h hlinked hstep).1

end

namespace Interface

section
variable {ι : Type} [WireCodec ι] [Framed ι] {target : Target} {options : BindOptions}
  {g g' : Interface ι} {move : FacadeMove}

/-- **Inversion of a move of the client**: it is a move of the facade, and below it changes only the
world of the inner task. -/
theorem of_client (h : g.step target options (.client move) = some g') :
    move.isTask = false ∧ g.facade.step ι target options move = some g'.facade ∧
      g'.stack = { g.stack with world := g'.facade.world } := by
  rw [step] at h
  split at h
  · cases h
  · next htask =>
    obtain ⟨f, hf, rfl⟩ := Option.map_eq_some_iff.mp h
    exact ⟨by simpa using htask, hf, rfl⟩

/-- A move of the client is made wherever the facade makes it: the tasks below do not stand in its
way. -/
theorem step_client (move : FacadeMove) {f : Facade} (hmove : move.isTask = false)
    (h : g.facade.step ι target options move = some f) :
    ∃ g', g.step target options (.client move) = some g' ∧ g'.facade = f := by
  refine ⟨⟨{ g.stack with world := f.world }, f.underway, f.results⟩, ?_, rfl⟩
  rw [step, hmove, h]
  rfl

/-- **Inversion of a move of the tasks**: it is a move of the stack, and the call underway and the
results are as before. -/
theorem of_tasks {move : StackMove} (h : g.step target options (.tasks move) = some g') :
    move.ofTasks = true ∧ g.stack.step target move = some g'.stack ∧ g'.underway = g.underway ∧
      g'.results = g.results := by
  rw [step] at h
  split at h
  · next htasks =>
    obtain ⟨st, hst, rfl⟩ := Option.map_eq_some_iff.mp h
    exact ⟨htasks, hst, rfl, rfl⟩
  · cases h

/-- What the client does is a run of its stack, of things that happen outside it, so it keeps what
these keep. -/
theorem outside_of_client (hlinked : g.stack.Linked)
    (h : g.step target options (.client move) = some g') :
    ∃ moves, (∀ a ∈ moves, ∃ action, a = .outside action) ∧
      run (Stack.step target) g.stack moves = some g'.stack := by
  obtain ⟨htask, hstep, hstack⟩ := of_client h
  have huser := (Facade.moved_of_step hstep).user_run (by rintro action rfl; cases htask)
  rw [hstack]
  exact Stack.run_user hlinked huser

/-- A move of the client keeps the tasks linked, and as they stand: it ends no deadlock, and begins
none where they are at ease. -/
theorem stands_of_client (standing : Standing) (hlinked : g.stack.Linked)
    (h : g.step target options (.client move) = some g') :
    g'.stack.Linked ∧ (g.stack.Stands standing → g'.stack.Stands standing) := by
  obtain ⟨moves, hmoves, hrun⟩ := outside_of_client hlinked h
  have hkeeps := run_invariant_along (P := fun st : Stack ι => st.Linked ∧
    (g.stack.Stands standing → st.Stands standing)) ?_ (along_of_forall hmoves g.stack) hrun
    ⟨hlinked, id⟩
  · exact hkeeps
  · rintro st a st' ⟨action, rfl⟩ hstep ⟨hlinked', hstands⟩
    exact ⟨hlinked'.step hstep, fun h => (hstands h).outside hlinked' hstep⟩

/-- Each move keeps the tasks linked, whether it is one of the client or of the tasks. -/
theorem linked_step {a : InterfaceMove} (hlinked : g.stack.Linked)
    (h : g.step target options a = some g') : g'.stack.Linked := by
  cases a with
  | client move => exact (stands_of_client .atEase hlinked h).1
  | tasks move => exact hlinked.step (of_tasks h).2.1

/-- In every run the tasks are linked, from the start of `connect` on. -/
theorem linked_of_run {moves : List InterfaceMove}
    (hrun : run (step target options) (start ι options) moves = some g) : g.stack.Linked :=
  run_invariant (P := fun g : Interface ι => g.stack.Linked)
    (fun _ _ _ hstep h => linked_step h hstep) hrun (Stack.linked_start options.inner)

/-! ## The interface is a facade -/

/-- Each move is a move of the facade or none, and in the second case the facade does not change. -/
theorem facade_step {a : InterfaceMove} (h : g.step target options a = some g') :
    run (Facade.step ι target options) g.facade (g.facadeMove a).toList = some g'.facade := by
  cases a with
  | client move => exact (run_singleton _ _).trans (of_client h).2.1
  | tasks move =>
    obtain ⟨htasks, hstep, hunderway, hresults⟩ := of_tasks h
    have hclient := Stack.world_step hstep
    have hfacade : g'.facade = { g.facade with world := g'.stack.world } := by
      rw [facade, hunderway, hresults]
      rfl
    rw [facadeMove, hfacade]
    cases haction : g.stack.action move with
    | none =>
      rw [haction] at hclient
      rw [← Option.some.inj hclient]
      rfl
    | some action =>
      rw [haction] at hclient
      have hof : action.ofTask = true := by
        cases move with
        | outside action' =>
          cases haction
          cases action <;> first | rfl | cases htasks
        | turn connect =>
          obtain ⟨branch, -, rfl⟩ := Option.map_eq_some_iff.mp haction
          rfl
        | choose | socket => cases haction
      have hworld : g.facade.world.step target action = some g'.stack.world :=
        (run_singleton _ _).symm.trans hclient
      refine (run_singleton _ _).trans ?_
      rw [Facade.step, if_pos hof, hworld]
      rfl

variable (target options) in
/-- What happens to the client and its inner task alone, along a run of the interface. -/
def facadeMoves (g : Interface ι) (moves : List InterfaceMove) : List FacadeMove :=
  seen (step target options) facadeMove g moves

/-- **Every run of an interface is a run of the facade**, of the moves that concern it. What holds
of every run of a facade therefore holds here. -/
theorem facade_of_run {moves : List InterfaceMove}
    (hrun : run (step target options) g moves = some g') :
    run (Facade.step ι target options) g.facade (g.facadeMoves target options moves) =
      some g'.facade :=
  run_seen (fun _ _ _ => facade_step) hrun

end

end Interface

end SimpleDoip
