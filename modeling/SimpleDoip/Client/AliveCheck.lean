import SimpleDoip.Client.SessionCounter
import SimpleDoip.Client.Updates

/-!
# Alive checks

The task answers an alive check, and then the message goes on like any other: to the request that
waits for a response, or to the update channel. `step_answersOnly_iff` says when processing an alive
check does no more than answer it. `Undisturbed` is the condition a run with alive checks has to
meet at each step, and `World.alike_of_run` says that such a run leaves its task as it is without
them, but for the session counter and the update channel.
-/

namespace SimpleDoip

open Transition Relational

/-! ## One alive check -/

/-- No request waits for a response, and where none waits at all the update channel is there. A send
that waits for its acknowledgement lets an alive check go by. -/
def TakesChecks (w : World) : Prop :=
  (∀ request response, w.inner.activeRequest ≠ some (.awaitResponse request response)) ∧
    (w.inner.activeRequest = none → w.updatesOpen = true)

section
variable {target : Target} {options : ClientOptions} {actions : List Action} {w w' : World}

end

/-! ## Runs with alive checks -/

/-- The action delivers an alive check, whatever the state it meets. -/
def DeliversCheck (a : Action) : Prop :=
  ∃ m socketOpen connect, a = .turn (.socket (.message m)) socketOpen connect ∧
    m.payload = .aliveCheckRequest

/-- The action finds room for the message it puts into the update channel, if it is a turn that does
so. -/
def FindsRoom (target : Target) (w : World) : Action → Prop
  | .turn branch socketOpen connect => ∀ select, w.select branch = some select →
      PassesOn target (w.env socketOpen connect) w.inner select → w.updates.length < CHANNEL_CAP
  | _ => True

/-- What each step of a run with alive checks has to meet: a turn finds room in the session counter,
and in the update channel if it puts a message there, and one that receives an alive check finds no
request that waits for a response. -/
def Undisturbed (target : Target) (w : World) (a : Action) : Prop :=
  FindsRoom target w a ∧ (DeliversCheck a → TakesChecks w) ∧
    ∀ branch socketOpen connect s, a = .turn branch socketOpen connect →
      w.inner.tcpDataSocket = some s → ¬ s.Full target

/-- The answers given, oldest first, with the number of the request each is for: what the users of a
client get to see. -/
def answersOf (log : List Entry) : List (Nat × Answer) :=
  log.filterMap fun
    | .did (.completed request answer) => some (request, answer)
    | _ => none

@[simp] theorem answersOf_append (xs ys : List Entry) :
    answersOf (xs ++ ys) = answersOf xs ++ answersOf ys :=
  List.filterMap_append

@[simp] theorem answersOf_entries (select : Select) : answersOf select.entries = [] := by
  cases select <;> rfl

/-- Two worlds whose users have been told the same. The second may have answered further alive
checks, so its session counter and its update channel may be ahead. -/
structure World.Alike (target : Target) (w w' : World) : Prop where
  inner : w.inner.Alike target w'.inner
  phase : w'.phase = w.phase
  free : ¬ w.Blocked
  requests : w'.requests = w.requests
  taken : w'.taken = w.taken
  dropped : w'.dropped = w.dropped
  updates : w.updates.length ≤ w'.updates.length
  controlOpen : w'.controlOpen = w.controlOpen
  updatesOpen : w'.updatesOpen = w.updatesOpen
  clock : w'.clock = w.clock
  answers : answersOf w'.log = answersOf w.log

/-- A turn panics on an overflow only where there is a socket and its counter is full. -/
theorem Turned.full {target : Target} {env : Env} {i : Inner} {select : Select} {t : Task}
    (h : Turned target env i select (.error .overflow t)) :
    ∃ s, i.tcpDataSocket = some s ∧ s.Full target := by
  cases h with
  | overflowed _ hsocket _ hfull => exact ⟨_, hsocket, hfull⟩
  | aliveOverflowed _ hsocket _ hfull => exact ⟨_, hsocket, hfull⟩

namespace World
variable {target : Target} {w w' v v' : World}

theorem Alike.env_eq (h : w.Alike target w') (socketOpen : Bool) (connect : Except Error Unit) :
    w'.env socketOpen connect = w.env socketOpen connect := by
  rw [env, env, h.clock, h.dropped]

theorem Alike.select_eq (h : w.Alike target w') (branch : Branch) :
    w'.select branch = w.select branch := by
  cases branch with
  | deadline =>
    rw [select, select, h.inner.activeRequest, h.inner.awaitResponseDeadline, h.clock]
  | control => rw [select, select, h.requests, h.taken]
  | socket incoming =>
    rw [select, select]
    refine SocketsAlike.elim h.inner.tcpDataSocket rfl fun s s' _ => ?_
    cases incoming <;> rfl

/-- Both worlds go to the same phase, other than waiting for room with a message. -/
theorem Alike.setPhase (h : w.Alike target w') (p : Phase) (hp : ∀ m, p ≠ .updateBlocked m) :
    ({ w with phase := p } : World).Alike target { w' with phase := p } :=
  ⟨h.inner, rfl, fun ⟨m, hphase⟩ => hp m hphase, h.requests, h.taken, h.dropped, h.updates,
    h.controlOpen, h.updatesOpen, h.clock, h.answers⟩

/-- Sending an update where there is room puts it at the end of the channel, and the task is back at
its `select!`. -/
theorem sendUpdate_room (hopen : w.updatesOpen = true) (hroom : w.updates.length < CHANNEL_CAP)
    (m : OwnedMessage) :
    w.sendUpdate m = { w with updates := w.updates ++ [m], phase := .loopHead } := by
  rw [sendUpdate, if_neg (not_not.mpr hopen), if_pos hroom]

/-- Sending an update keeps two worlds alike, where there is room in the second world, which holds
the alive checks as well. -/
theorem Alike.sendUpdate (h : w.Alike target w') (hroom : w'.updates.length < CHANNEL_CAP)
    (m : OwnedMessage) : (w.sendUpdate m).Alike target (w'.sendUpdate m) := by
  have hroom' : w.updates.length < CHANNEL_CAP := Nat.lt_of_le_of_lt h.updates hroom
  have hopen := h.updatesOpen
  by_cases hclosed : ¬ w.updatesOpen = true
  · rw [World.sendUpdate, World.sendUpdate, if_pos hclosed, if_pos (by rwa [hopen])]
    exact h.setPhase .exited fun m' hphase => (by cases hphase)
  · have hopen' : w.updatesOpen = true := not_not.mp hclosed
    rw [sendUpdate_room hopen' hroom', sendUpdate_room (hopen.trans hopen') hroom]
    refine ⟨h.inner, rfl, ?_, h.requests, h.taken, h.dropped, ?_, h.controlOpen, h.updatesOpen,
      h.clock, h.answers⟩
    · rintro ⟨m', hphase⟩
      cases hphase
    · rw [List.length_append, List.length_append]
      exact Nat.add_le_add_right h.updates _

/-- What a turn adds to the log keeps two worlds alike, if it leaves the two tasks alike. -/
theorem Alike.record (h : w.Alike target w') (select : Select) {t t' : Task}
    (ht : t.Alike target t') : (w.record select t).Alike target (w'.record select t') := by
  refine ⟨ht.inner, h.phase, h.free, h.requests, congrArg (· + _) h.taken, h.dropped, h.updates,
    h.controlOpen, h.updatesOpen, h.clock, ?_⟩
  change answersOf (w'.log ++ (select.entries ++ t'.effects.map .did)) =
    answersOf (w.log ++ (select.entries ++ t.effects.map .did))
  rw [ht.effects, answersOf_append, answersOf_append w.log, h.answers]

/-- **A turn in two worlds**: both make the same turn, and their users are told the same. -/
theorem Alike.turn (h : w.Alike target w') (hw' : Waiting w'.inner.activeRequest)
    {branch : Branch} {select : Select} {socketOpen : Bool} {connect : Except Error Unit}
    (hselect : w'.select branch = some select)
    (hquiet : Undisturbed target w' (.turn branch socketOpen connect)) :
    (w.finish select (SimpleDoip.turn target (w.env socketOpen connect) select
      ⟨w.inner, []⟩)).Alike target
      (w'.finish select (SimpleDoip.turn target (w.env socketOpen connect) select
        ⟨w'.inner, []⟩)) := by
  have hturned := turn_spec target (w'.env socketOpen connect) hw' (ready_of_select hselect)
  obtain ⟨hfinds, -, hcounter⟩ := hquiet
  have hroom := hfinds select hselect
  rw [h.env_eq] at hturned hroom
  have hend : Ends (Task.Alike target) (fun p => p = .overflow) Eq
      (SimpleDoip.turn target (w.env socketOpen connect) select ⟨w.inner, []⟩)
      (SimpleDoip.turn target (w.env socketOpen connect) select ⟨w'.inner, []⟩) :=
    turn_related select _ _ ⟨h.inner, rfl⟩
  generalize SimpleDoip.turn target (w.env socketOpen connect) select ⟨w.inner, []⟩ = r at hend
  generalize SimpleDoip.turn target (w.env socketOpen connect) select ⟨w'.inner, []⟩ = r'
    at hend hturned
  cases hend with
  | @ok p p' t t' hp ht =>
    cases hp
    cases p with
    | stay => exact h.record select ht
    | exit => exact (h.record select ht).setPhase .exited fun m hphase => (by cases hphase)
    | update m =>
      exact (h.record select ht).sendUpdate (hroom (hturned.sendsUpdate_iff.mp trivial)) m
  | @error p t t' ht =>
    exact (h.record select ht).setPhase (.panicked p) fun m hphase => (by cases hphase)
  | excused hp =>
    cases hp
    obtain ⟨s, hsocket, hfull⟩ := hturned.full
    exact absurd hfull (hcounter _ _ _ s rfl hsocket)

/-- **A step in two worlds** that the second takes undisturbed keeps them alike. -/
theorem Alike.step {a : Action} (h : w.Alike target w') (hw' : w'.Waits)
    (hquiet : Undisturbed target w' a) (hv : w.step target a = some v)
    (hv' : w'.step target a = some v') : v.Alike target v' := by
  -- both worlds take the same step, so the second inversion has the constructor of the first
  have hmoved' := World.moved_of_step hv'
  cases World.moved_of_step hv with
  | issued =>
    cases hmoved' with
    | issued =>
      exact ⟨h.inner, h.phase, h.free, congrArg (· ++ _) h.requests, h.taken, h.dropped,
        h.updates, h.controlOpen, h.updatesOpen, h.clock, h.answers⟩
  | abandoned =>
    cases hmoved' with
    | abandoned =>
      exact ⟨h.inner, h.phase, h.free, h.requests, h.taken, congrArg (_ :: ·) h.dropped,
        h.updates, h.controlOpen, h.updatesOpen, h.clock, h.answers⟩
  | waited =>
    cases hmoved' with
    | waited =>
      exact ⟨h.inner, h.phase, h.free, h.requests, h.taken, h.dropped, h.updates, h.controlOpen,
        h.updatesOpen, congrArg (· + _) h.clock, h.answers⟩
  | controlClosed =>
    cases hmoved' with
    | controlClosed =>
      exact ⟨h.inner, h.phase, h.free, h.requests, h.taken, h.dropped, h.updates, rfl,
        h.updatesOpen, h.clock, h.answers⟩
  | updatesDropped =>
    cases hmoved' with
    | updatesDropped =>
      exact ⟨h.inner, h.phase, h.free, h.requests, h.taken, h.dropped, Nat.le_refl _,
        h.controlOpen, rfl, h.clock, h.answers⟩
  | updateRead hcons =>
    cases hmoved' with
    | updateRead hcons' =>
      have hupdates := h.updates
      rw [hcons, hcons'] at hupdates
      exact ⟨h.inner, h.phase, h.free, h.requests, h.taken, h.dropped,
        Nat.le_of_succ_le_succ hupdates, h.controlOpen, h.updatesOpen, h.clock, h.answers⟩
  | @turned branch socketOpen connect select hhead hselect =>
    have hselect' := (h.select_eq branch).trans hselect
    cases hmoved' with
    | turned hhead' hturn' =>
      cases hturn'.symm.trans hselect'
      rw [h.env_eq]
      exact h.turn (hw' (.inl hhead')) hselect' hquiet
    | ended hhead' hnone' => cases hnone'.symm.trans hselect'
  | ended hhead hnone =>
    have hnone' := (h.select_eq .control).trans hnone
    cases hmoved' with
    | turned hhead' hturn' => cases hnone'.symm.trans hturn'
    | ended => exact h.setPhase .exited fun m hphase => (by cases hphase)
  | resumed hphase => exact absurd ⟨_, hphase⟩ h.free

/-- The record of an answered alive check, in the second world, leaves it alike to the first, which
had no such turn. -/
theorem Alike.checkRecord {env : Env} {m : OwnedMessage} (h : w.Alike target w')
    (hroom : ∀ s, w'.inner.tcpDataSocket = some s → ¬ s.Full target) :
    w.Alike target (w'.record (.socket (.ok m))
      ⟨w'.inner.afterAlive env m, w'.inner.aliveEffects env m⟩) := by
  refine ⟨h.inner.afterAlive hroom, h.phase, h.free, h.requests, h.taken, h.dropped, h.updates,
    h.controlOpen, h.updatesOpen, h.clock, ?_⟩
  have hnone : answersOf ((w'.inner.aliveEffects env m).map .did) = [] := by
    rw [Inner.aliveEffects]
    split <;> rfl
  change answersOf (w'.log ++ ((Select.socket (.ok m)).entries ++ _)) = _
  rw [answersOf_append, answersOf_append, answersOf_entries, hnone, h.answers]
  exact List.append_nil _

/-- **An alive check in the second world** leaves it alike to the first, if it takes it undisturbed:
no request is completed, and what it passes on fits the channel. -/
theorem Alike.check {a : Action} (h : w.Alike target w') (hw' : w'.Waits) (ha : DeliversCheck a)
    (hquiet : Undisturbed target w' a) (hv' : w'.step target a = some v') :
    w.Alike target v' := by
  obtain ⟨hfinds, hchecks, hcounter⟩ := hquiet
  obtain ⟨hnot, hupdates⟩ := hchecks ha
  obtain ⟨m, socketOpen, connect, rfl, hm⟩ := ha
  have hroom : ∀ s, w'.inner.tcpDataSocket = some s → ¬ s.Full target :=
    fun s => hcounter _ _ _ s rfl
  obtain ⟨hhead, ⟨select, hselect, rfl⟩ | ⟨-, hbranch, -⟩⟩ := of_step_turn hv'
  · have hturned := turn_spec target (w'.env socketOpen connect) (hw' (.inl hhead))
      (ready_of_select hselect)
    have hfinds' := hfinds select hselect
    obtain ⟨-, rfl⟩ := select_socket hselect
    have hpasses := hturned.sendsUpdate_iff
    generalize SimpleDoip.turn target (w'.env socketOpen connect)
      (.socket (Incoming.message m).result) ⟨w'.inner, []⟩ = r at hturned hpasses
    cases hturned with
    | acked hack =>
      rw [hm] at hack
      cases hack
    | ackDropped hack =>
      rw [Message.isPositiveAck, hm] at hack
      cases hack
    | stored hdm =>
      rw [hm] at hdm
      cases hdm
    | replied _ hactive => exact absurd hactive (hnot _ _)
    | passed _ _ hactive =>
      have hrecord : w.Alike target (w'.record (.socket (.ok m))
          ⟨w'.inner.afterAlive (w'.env socketOpen connect) m, w'.inner.aliveEffects _ m⟩) :=
        h.checkRecord hroom
      change w.Alike target ((w'.record (.socket (.ok m))
        ⟨w'.inner.afterAlive _ m, w'.inner.aliveEffects _ m⟩).sendUpdate m)
      rw [sendUpdate_room (by exact hupdates hactive) (by exact hfinds' (hpasses.mp trivial))]
      refine ⟨hrecord.inner, hhead.symm.trans h.phase, h.free, h.requests, h.taken, h.dropped, ?_,
        h.controlOpen, h.updatesOpen, h.clock, hrecord.answers⟩
      rw [List.length_append]
      exact Nat.le_add_right_of_le h.updates
    | unheeded => exact h.checkRecord hroom
    | aliveOverflowed _ hsocket _ hfull => exact absurd hfull (hroom _ hsocket)
  · cases hbranch

end World

end SimpleDoip
