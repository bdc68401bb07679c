import SimpleDoip.Client.AliveCheck
import SimpleDoip.Session.ClientSide
import SimpleDoip.Lib.Counter

/-!
# How long a connection can be used

The socket counts what is handed to it in a `u16` that only a new connection sets back. `Counts`
says what a turn does to it, by what the turn logs: nothing, or it starts again, or it goes up by
one, or it overflows. So the counter shows the number of messages handed over since the last bind,
modulo its range (`World.Counted`), and it overflows exactly on a connection that is handed more
than 65535 of them. In a build with overflow checks that ends the task.
-/

namespace SimpleDoip

open Transition

/-! ## What is counted -/

/-- A message handed to the socket counts, and a bind that succeeds starts the count again. -/
def Effect.mark : Effect → Option Counter.Mark
  | .handed _ _ => some .one
  | .completed _ (.port (.ok _)) => some .reset
  | .completed _ _ => none

def Entry.mark : Entry → Option Counter.Mark
  | .did effect => effect.mark
  | .taken _ | .received _ => none

/-- The messages handed to the socket since it was bound, whoever they are for. This is what the
session counter counts. -/
def handedSinceBind (log : List Entry) : Nat := Counter.count Entry.mark log

/-- A turn on this branch calls `SocketManager::send` on an open channel, if there is a socket: for
a routing activation or a diagnostic message, or to answer an alive check. -/
def Select.Sends (env : Env) : Select → Prop
  | .deadline => False
  | .control request => request.outgoing ≠ none ∧ env.socketOpen = true
  | .socket (.ok m) => m.payload = .aliveCheckRequest ∧ env.socketOpen = true
  | .socket (.error _) => False

theorem Select.marks_entries (select : Select) (effects : List Effect) :
    (select.entries ++ effects.map Entry.did).filterMap Entry.mark =
      effects.filterMap Effect.mark := by
  have hentries : select.entries.filterMap Entry.mark = [] := by cases select <;> rfl
  rw [List.filterMap_append, hentries, List.nil_append, List.filterMap_map]
  rfl

@[simp] theorem ControlMessage.mark_failure (request : ControlMessage) (e : Error) (id : Nat) :
    (Effect.completed id (request.failure e)).mark = none := by
  cases request <;> rfl

@[simp] theorem Inner.marks_failActive (i : Inner) (e : Error) :
    (i.failActive e).filterMap Effect.mark = [] := by
  rw [failActive]
  cases i.activeRequest with
  | none => rfl
  | some request => simp

theorem SocketManager.sessionId_of_bind {env : Env} {options : ClientOptions} {address : SocketAddr}
    {s : SocketManager} (h : SocketManager.bind env options address = .ok s) : s.sessionId = 0 := by
  rw [SocketManager.bind] at h
  split at h
  · cases h
  · split at h
    · cases h
    · cases h
      rfl

/-! ## What a turn does to the counter -/

section
variable {target : Target} {env : Env} {i : Inner} {select : Select}
  {r : EStateM.Result Panic Task Processed}

variable (target env i select r) in
/-- What a turn logs, and what it makes of the counter: it leaves it alone, starts it again, counts
one message, or panics on one. -/
inductive Counts : Prop where
  | quiet (hmarks : (resultTask r).effects.filterMap Effect.mark = [])
      (hsends : i.tcpDataSocket = none ∨ ¬ select.Sends env)
      (hsocket : (resultTask r).inner.tcpDataSocket = none ∨
        (resultTask r).inner.tcpDataSocket = i.tcpDataSocket)
      (hpanic : ∀ t, r ≠ .error .overflow t)
  | bound {s : SocketManager} (hmarks : (resultTask r).effects.filterMap Effect.mark = [.reset])
      (hsends : ¬ select.Sends env) (hsocket : (resultTask r).inner.tcpDataSocket = some s)
      (hzero : s.sessionId = 0) (hpanic : ∀ t, r ≠ .error .overflow t)
  | counted {s : SocketManager} (hmarks : (resultTask r).effects.filterMap Effect.mark = [.one])
      (hs : i.tcpDataSocket = some s) (hsends : select.Sends env) (hroom : ¬ s.Full target)
      (hsocket : (resultTask r).inner.tcpDataSocket = some s.next)
      (hpanic : ∀ t, r ≠ .error .overflow t)
  | overflowed {s : SocketManager}
      (hmarks : (resultTask r).effects.filterMap Effect.mark = [.one])
      (hs : i.tcpDataSocket = some s) (hsends : select.Sends env) (hfull : s.Full target)
      (hpanic : ∃ t, r = .error .overflow t)

/-- A turn that answers an alive check, if the message is one, and then logs nothing that counts. -/
theorem Counts.ofAlive {m : OwnedMessage} {rest : List Effect} (hready : i.tcpDataSocket ≠ none)
    (hroom : m.payload = .aliveCheckRequest → env.socketOpen = true →
      ∀ s, i.tcpDataSocket = some s → ¬ s.Full target)
    (heffects : (resultTask r).effects = i.aliveEffects env m ++ rest)
    (hrest : rest.filterMap Effect.mark = [])
    (hsocket : (resultTask r).inner.tcpDataSocket = (i.afterAlive env m).tcpDataSocket)
    (hpanic : ∀ t, r ≠ .error .overflow t) : Counts target env i (.socket (.ok m)) r := by
  by_cases halive : m.payload = .aliveCheckRequest ∧ env.socketOpen = true
  · obtain ⟨s, hs⟩ := Option.ne_none_iff_exists'.mp hready
    refine .counted ?_ hs halive (hroom halive.1 halive.2 s hs) ?_ hpanic
    · rw [heffects, Inner.aliveEffects, if_pos halive, List.filterMap_append, hrest]
      rfl
    · rw [hsocket, Inner.afterAlive, if_pos halive, hs]
      rfl
  · refine .quiet ?_ (.inr halive) (.inr ?_) hpanic
    · rw [heffects, Inner.aliveEffects, if_neg halive, List.filterMap_append, hrest]
      rfl
    · rw [hsocket, Inner.afterAlive, if_neg halive]

/-- **What a turn does to the counter.** Every kind of turn is one of the four, and it sends exactly
where it counts. -/
theorem Turned.counts (h : Turned target env i select r) (hready : select.Ready i) :
    Counts target env i select r := by
  have hok : ∀ (p : Processed) (t t' : Task),
      (.ok p t : EStateM.Result Panic Task Processed) ≠ .error .overflow t' := by
    intro p t t' h
    cases h
  have hinstant : ∀ t t' : Task,
      (.error .instant t : EStateM.Result Panic Task Processed) ≠ .error .overflow t' := by
    intro t t' h
    cases h
  cases h with
  | expired =>
    exact .quiet (i.marks_failActive _) (.inr id) (.inr rfl) (hok _ _)
  | bound address response =>
    have hsends : ¬ Select.Sends env (.control (.bindSocket address response)) :=
      fun h => h.1 rfl
    cases hbind : SocketManager.bind env i.clientOptions address with
    | error e =>
      refine .quiet ?_ (.inr hsends) (.inl rfl) (hok _ _)
      simp [resultTask, Effect.mark, Except.map]
    | ok s =>
      refine .bound ?_ hsends rfl (SocketManager.sessionId_of_bind hbind) (hok _ _)
      simp [resultTask, Effect.mark, Except.map]
  | unbound response =>
    refine .quiet ?_ (.inr fun h => h.1 rfl) (.inl rfl) (hok _ _)
    simp [resultTask, Effect.mark]
  | refused e hsocket =>
    refine .quiet ?_ ?_ (.inr rfl) (hok _ _)
    · simp [resultTask]
    · rcases hsocket with hnone | ⟨hclosed, -⟩
      · exact .inl hnone
      · refine .inr fun h => ?_
        cases hclosed.symm.trans h.2
  | drained =>
    refine .quiet ?_ (.inr fun h => h.1 rfl) (.inr rfl) (hok _ _)
    simp [resultTask, Effect.mark]
  | listening =>
    exact .quiet (i.marks_failActive _) (.inr fun h => h.1 rfl) (.inr rfl) (hok _ _)
  | sent hmessage hsocket hopen hroom =>
    refine .counted ?_ hsocket ⟨?_, hopen⟩ hroom rfl (hok _ _)
    · simp [resultTask, Effect.mark]
    · rw [hmessage]
      exact Option.some_ne_none _
  | overflowed hmessage hsocket hopen hfull =>
    refine .overflowed ?_ hsocket ⟨?_, hopen⟩ hfull ⟨_, rfl⟩
    · simp [resultTask, Effect.mark]
    · rw [hmessage]
      exact Option.some_ne_none _
  | late hmessage hsocket hopen hroom =>
    -- the message is out and counted before the deadline is computed
    refine .counted ?_ hsocket ⟨?_, hopen⟩ hroom rfl (hinstant _)
    · simp [resultTask, Effect.mark]
    · rw [hmessage]
      exact Option.some_ne_none _
  | lateListening =>
    exact .quiet (i.marks_failActive _) (.inr fun h => h.1 rfl) (.inr rfl) (hinstant _)
  | acked hm =>
    refine .quiet rfl (.inr fun h => ?_) (.inr rfl) (hok _ _)
    cases hm.symm.trans h.1
  | ackDropped hm =>
    refine .quiet rfl (.inr fun h => ?_) (.inr rfl) (hok _ _)
    rw [Message.isPositiveAck, h.1] at hm
    cases hm
  | replied _ _ hroom => exact .ofAlive hready hroom rfl rfl rfl (hok _ _)
  | stored hm =>
    refine .quiet rfl (.inr fun h => ?_) (.inr rfl) (hok _ _)
    cases hm.symm.trans h.1
  | passed _ _ _ hroom =>
    exact .ofAlive hready hroom (List.append_nil _).symm rfl rfl (hok _ _)
  | unheeded _ _ hroom =>
    exact .ofAlive hready hroom (List.append_nil _).symm rfl rfl (hok _ _)
  | aliveOverflowed hm hsocket hopen hfull =>
    refine .overflowed ?_ hsocket ⟨hm, hopen⟩ hfull ⟨_, rfl⟩
    simp [resultTask, Inner.aliveEffects, hm, hopen, Effect.mark]
  | broken e =>
    exact .quiet (i.marks_failActive _) (.inr id) (.inl rfl) (hok _ _)

end

/-! ## What a run does to it -/

/-- The counter is in range after this action, in every build: where it is a turn that has the
socket send a message, one more fits a `u16`. -/
def World.InRange (w : World) : Action → Prop
  | .turn branch socketOpen connect => ∀ select s, w.select branch = some select →
      select.Sends (w.env socketOpen connect) → w.inner.tcpDataSocket = some s →
      s.sessionId.toNat + 1 < 2 ^ 16
  | _ => True

section
variable {target : Target} {options : ClientOptions} {actions : List Action} {w w' : World}

/-- On no connection have more messages been handed over than the counter can count. -/
def World.Fits (w : World) : Prop := Counter.Within Entry.mark (2 ^ 16) w.log

variable (target) in
/-- The counter shows how many messages were handed over since the bind, modulo its range, until it
has panicked. It has in a build with overflow checks, once there were too many. -/
structure World.Counted (w : World) : Prop where
  shown : w.phase ≠ .panicked .overflow → ∀ s, w.inner.tcpDataSocket = some s →
    s.sessionId.toNat = handedSinceBind w.log % 2 ^ 16
  panicked_iff : w.phase = .panicked .overflow ↔ target.overflowChecks = true ∧ ¬ w.Fits

theorem World.finish_panicked_iff {select : Select} {r : EStateM.Result Panic Task Processed}
    {p : Panic} (hhead : w.phase = .loopHead) :
    (w.finish select r).phase = .panicked p ↔ ∃ t, r = .error p t := by
  have hnot : ∀ {w : World}, w.InLoop ∨ w.phase = .exited → w.phase ≠ .panicked p := by
    rintro w ((h | ⟨m, h⟩) | h) hpanic <;> cases h.symm.trans hpanic
  cases r with
  | error panic t =>
    constructor
    · intro h
      cases h
      exact ⟨t, rfl⟩
    · rintro ⟨t', h⟩
      cases h
      rfl
  | ok processed t =>
    refine ⟨fun h => absurd h (hnot ?_), ?_⟩
    · cases processed with
      | stay => exact .inl (.inl hhead)
      | exit => exact .inr rfl
      | update m =>
        rw [World.finish, World.sendUpdate]
        split
        · exact .inr rfl
        · split
          · exact .inl (.inl rfl)
          · exact .inl (.inr ⟨m, rfl⟩)
    · rintro ⟨t', h⟩
      cases h

/-- A task that panicked does nothing any more, whatever happens around it. -/
theorem World.panicked_of_step {a : Action} {p : Panic} (hp : w.phase = .panicked p)
    (h : w.step target a = some w') : w'.phase = .panicked p := by
  cases World.moved_of_step h with
  | issued | abandoned | waited | controlClosed | updateRead | updatesDropped => exact hp
  | turned hhead | ended hhead => cases hp.symm.trans hhead
  | resumed hphase => cases hp.symm.trans hphase

/-- Before a turn the task has not panicked, so the counter shows what it has counted. -/
theorem World.Counted.shown_of_head {s : SocketManager} (hw : w.Counted target)
    (hhead : w.phase = .loopHead) (hs : w.inner.tcpDataSocket = some s) :
    s.sessionId.toNat = handedSinceBind w.log % 2 ^ 16 := by
  refine hw.shown (fun hpanic => ?_) s hs
  cases hhead.symm.trans hpanic

/-- Before a turn, in a build with overflow checks, there were not too many messages. -/
theorem World.Counted.fits_of_head (hw : w.Counted target) (hhead : w.phase = .loopHead)
    (hchecks : target.overflowChecks = true) : w.Fits := by
  by_contra hmany
  cases hhead.symm.trans (hw.panicked_iff.mpr ⟨hchecks, hmany⟩)

section
variable {select : Select} {r : EStateM.Result Panic Task Processed}

/-- What a turn logs counts as its effects do: what the turn took in is no mark. -/
theorem World.marks_finish (w : World) (select : Select)
    (r : EStateM.Result Panic Task Processed) :
    ∃ entries, (w.finish select r).log = w.log ++ entries ∧
      entries.filterMap Entry.mark = (resultTask r).effects.filterMap Effect.mark :=
  ⟨_, World.finish_log w select r, select.marks_entries _⟩

variable (w select) in
theorem World.handed_finish_quiet (hmarks : (resultTask r).effects.filterMap Effect.mark = []) :
    handedSinceBind (w.finish select r).log = handedSinceBind w.log ∧
      ((w.finish select r).Fits ↔ w.Fits) := by
  obtain ⟨entries, hlog, hentries⟩ := w.marks_finish select r
  rw [hmarks] at hentries
  rw [handedSinceBind, World.Fits, hlog]
  exact ⟨Counter.count_append_quiet hentries, Counter.within_append_quiet hentries⟩

variable (w select) in
theorem World.handed_finish_reset
    (hmarks : (resultTask r).effects.filterMap Effect.mark = [.reset]) :
    handedSinceBind (w.finish select r).log = 0 ∧ ((w.finish select r).Fits ↔ w.Fits) := by
  obtain ⟨entries, hlog, hentries⟩ := w.marks_finish select r
  rw [hmarks] at hentries
  rw [handedSinceBind, World.Fits, hlog]
  refine ⟨Counter.count_append_marked hentries, (Counter.within_append_marked hentries).trans ?_⟩
  exact ⟨And.left, fun hfits => ⟨hfits, Nat.two_pow_pos 16⟩⟩

theorem World.handed_finish_one
    (hmarks : (resultTask r).effects.filterMap Effect.mark = [.one]) :
    handedSinceBind (w.finish select r).log = handedSinceBind w.log + 1 := by
  obtain ⟨entries, hlog, hentries⟩ := w.marks_finish select r
  rw [hmarks] at hentries
  rw [handedSinceBind, hlog]
  exact Counter.count_append_marked hentries

/-- A message that is counted fits exactly if the increment is in range. The count so far fits, so
the counter shows it and not only its remainder. -/
theorem World.Counted.fits_finish_one {s : SocketManager} (hw : w.Counted target)
    (hhead : w.phase = .loopHead) (hfits : w.Fits) (hs : w.inner.tcpDataSocket = some s)
    (hmarks : (resultTask r).effects.filterMap Effect.mark = [.one]) :
    (w.finish select r).Fits ↔ s.sessionId.toNat + 1 < 2 ^ 16 := by
  obtain ⟨entries, hlog, hentries⟩ := w.marks_finish select r
  rw [hmarks] at hentries
  rw [World.Fits, hlog]
  exact Counter.within_append_one_iff hfits (hw.shown_of_head hhead hs) hentries

end

theorem SocketManager.toNat_next (s : SocketManager) :
    s.next.sessionId.toNat = (s.sessionId.toNat + 1) % 2 ^ 16 :=
  UInt16.toNat_add _ _

theorem SocketManager.not_full_iff {s : SocketManager} (hchecks : target.overflowChecks = true) :
    ¬ s.Full target ↔ s.sessionId.toNat + 1 < 2 ^ 16 := by
  have hlt := s.sessionId.toNat_lt
  have hlast : s.sessionId = 0xFFFF ↔ s.sessionId.toNat = 0xFFFF := by
    rw [← UInt16.toNat_inj]
    rfl
  rw [SocketManager.Full, hlast]
  simp only [hchecks, true_and]
  omega

section
variable {env : Env} {select : Select} {r : EStateM.Result Panic Task Processed}

/-- **A turn keeps the counter right**, in each of the four ways a turn can deal with it. -/
theorem World.Counted.finish (hw : w.Counted target) (hhead : w.phase = .loopHead)
    (hcounts : Counts target env w.inner select r) : (w.finish select r).Counted target := by
  have hfits := hw.fits_of_head hhead
  -- a turn that does not overflow is right to go on if all that was handed over fits
  have hgoes : (∀ t, r ≠ .error .overflow t) →
      (target.overflowChecks = true → (w.finish select r).Fits) →
      ((w.finish select r).phase = .panicked .overflow ↔
        target.overflowChecks = true ∧ ¬ (w.finish select r).Fits) := by
    intro hpanic hfits'
    rw [World.finish_panicked_iff hhead]
    constructor
    · rintro ⟨t, h⟩
      exact absurd h (hpanic t)
    · rintro ⟨hchecks, hmany⟩
      exact absurd (hfits' hchecks) hmany
  cases hcounts with
  | quiet hmarks _ hsocket hpanic =>
    obtain ⟨hcount, hsame⟩ := World.handed_finish_quiet w select hmarks
    refine ⟨fun _ s hs => ?_, hgoes hpanic fun hchecks => hsame.mpr (hfits hchecks)⟩
    rw [World.finish_inner] at hs
    rw [hcount]
    rcases hsocket with hnone | hkept
    · cases hnone.symm.trans hs
    · exact hw.shown_of_head hhead (hkept.symm.trans hs)
  | bound hmarks _ hsocket hzero hpanic =>
    obtain ⟨hcount, hsame⟩ := World.handed_finish_reset w select hmarks
    refine ⟨fun _ s hs => ?_, hgoes hpanic fun hchecks => hsame.mpr (hfits hchecks)⟩
    rw [World.finish_inner, hsocket] at hs
    cases hs
    rw [hcount, hzero]
    rfl
  | @counted s hmarks hs _ hroom hsocket hpanic =>
    refine ⟨fun _ s' hs' => ?_, hgoes hpanic fun hchecks => ?_⟩
    · rw [World.finish_inner, hsocket] at hs'
      cases hs'
      rw [s.toNat_next, hw.shown_of_head hhead hs, World.handed_finish_one hmarks]
      exact Nat.mod_add_mod _ _ _
    · rw [hw.fits_finish_one hhead (hfits hchecks) hs hmarks]
      exact (SocketManager.not_full_iff hchecks).mp hroom
  | @overflowed s hmarks hs _ hfull hpanic =>
    have hpanicked : (w.finish select r).phase = .panicked .overflow :=
      (World.finish_panicked_iff hhead).mpr hpanic
    refine ⟨fun hnot => absurd hpanicked hnot, ⟨fun _ => ⟨hfull.1, ?_⟩, fun _ => hpanicked⟩⟩
    intro hfits'
    rw [hw.fits_finish_one hhead (hfits hfull.1) hs hmarks] at hfits'
    exact (SocketManager.not_full_iff hfull.1).mpr hfits' hfull

/-- **A turn stays in range** exactly if it leaves no connection with too many messages. -/
theorem World.Counted.fits_finish_iff {branch : Branch} {socketOpen : Bool}
    {connect : Except Error Unit} (hw : w.Counted target) (hhead : w.phase = .loopHead)
    (hfits : w.Fits) (hselect : w.select branch = some select)
    (hcounts : Counts target (w.env socketOpen connect) w.inner select r) :
    (w.finish select r).Fits ↔ w.InRange (.turn branch socketOpen connect) := by
  -- the action determines the selected branch and the socket
  have hrange : w.InRange (.turn branch socketOpen connect) ↔ ∀ s,
      select.Sends (w.env socketOpen connect) → w.inner.tcpDataSocket = some s →
      s.sessionId.toNat + 1 < 2 ^ 16 := by
    constructor
    · exact fun h s => h select s hselect
    · intro h select' s hselect'
      cases hselect.symm.trans hselect'
      exact h s
  rw [hrange]
  cases hcounts with
  | quiet hmarks hsends =>
    refine ⟨fun _ s hs hsocket => ?_,
      fun _ => (World.handed_finish_quiet w select hmarks).2.mpr hfits⟩
    rcases hsends with hnone | hnot
    · cases hnone.symm.trans hsocket
    · exact absurd hs hnot
  | bound hmarks hsends =>
    exact ⟨fun _ s hs => absurd hs hsends,
      fun _ => (World.handed_finish_reset w select hmarks).2.mpr hfits⟩
  | @counted s hmarks hs hsends | @overflowed s hmarks hs hsends =>
    rw [hw.fits_finish_one hhead hfits hs hmarks]
    refine ⟨fun hlt s' _ hs' => ?_, fun h => h s hsends hs⟩
    cases hs.symm.trans hs'
    exact hlt

end

theorem World.Counted.step {a : Action} (hwaits : w.Waits) (hw : w.Counted target)
    (h : w.step target a = some w') : w'.Counted target := by
  cases World.step_cases hwaits h with
  | idle hsame =>
    have hphase : w'.phase = .panicked .overflow ↔ w.phase = .panicked .overflow := by
      refine ⟨fun hpanic => ?_, fun hpanic => World.panicked_of_step hpanic h⟩
      rcases hsame.phase with hkept | hexited | ⟨-, hloop | ⟨m, hloop⟩⟩
      · exact hkept.symm.trans hpanic
      · cases hexited.symm.trans hpanic
      · cases hloop.symm.trans hpanic
      · cases hloop.symm.trans hpanic
    refine ⟨?_, ?_⟩
    · rw [Ne, hphase, hsame.inner, hsame.log]
      exact hw.shown
    · rw [hphase, World.Fits, hsame.log]
      exact hw.panicked_iff
  | turned hhead hselect hturned =>
    exact hw.finish hhead (hturned.counts (World.ready_of_select hselect))

theorem World.counted_start (options : ClientOptions) : (World.start options).Counted target where
  shown _ s hs := by cases hs
  panicked_iff := by
    have hfits : (World.start options).Fits := Counter.within_nil (Nat.two_pow_pos 16)
    refine ⟨fun h => ?_, fun h => absurd hfits h.2⟩
    cases h

/-- In every run the counter is right: it shows the count modulo its range, and has panicked exactly
where the build checks and there were too many. -/
theorem World.counted_of_run
    (hrun : run (World.step target) (World.start options) actions = some w) : w.Counted target :=
  (Transition.run_invariant (P := fun w => w.Waits ∧ w.Counted target)
    (fun _ _ _ hstep hw => ⟨hw.1.step hstep, hw.2.step hw.1 hstep⟩) hrun
    ⟨fun _ => .none, World.counted_start options⟩).2

/-- What is logged stays logged, so a log that fits had nothing too much in it before. -/
theorem World.fits_of_step {a : Action} (hwaits : w.Waits) (h : w.step target a = some w')
    (hfits : w'.Fits) : w.Fits := by
  cases World.step_cases hwaits h with
  | idle hsame => rwa [World.Fits, hsame.log] at hfits
  | turned =>
    rw [World.Fits, World.finish_log] at hfits
    exact (Counter.within_append_iff.mp hfits).1

/-- **A step stays in range** exactly if it leaves no connection with too many messages. -/
theorem World.Counted.fits_step_iff {a : Action} (hwaits : w.Waits) (hw : w.Counted target)
    (hfits : w.Fits) (h : w.step target a = some w') : w'.Fits ↔ w.InRange a := by
  cases a with
  | turn branch socketOpen connect =>
    obtain ⟨hhead, ⟨select, hselect, rfl⟩ | ⟨hnone, -, -, rfl⟩⟩ := World.of_step_turn h
    · have hready := World.ready_of_select hselect
      exact hw.fits_finish_iff hhead hfits hselect
        ((turn_spec target _ (hwaits (.inl hhead)) hready).counts hready)
    · refine ⟨fun _ select s hselect => ?_, fun _ => hfits⟩
      cases hnone.symm.trans hselect
  | issue | abandon | wait | closeControl | readUpdate | dropUpdates | resume =>
    cases World.step_cases hwaits h with
    | idle hsame =>
      rw [World.Fits, hsame.log]
      exact ⟨fun _ => trivial, fun _ => hfits⟩

/-- **When the session counter is in range.** In every run and every build, each increment of the
counter is in range if and only if at no time more than 65535 messages had been handed over since
the last bind. The task panics on the counter if and only if the build has overflow checks and there
were more. -/
theorem session_id_in_range_iff
    (hrun : run (World.step target) (World.start options) actions = some w) :
    (Along (World.step target) World.InRange (World.start options) actions ↔
      ∀ logged, logged <+: w.log → handedSinceBind logged ≤ 65535) ∧
    (w.phase = .panicked .overflow ↔ target.overflowChecks = true ∧
      ∃ logged, logged <+: w.log ∧ 65535 < handedSinceBind logged) := by
  have hfits : w.Fits ↔ ∀ logged, logged <+: w.log → handedSinceBind logged ≤ 65535 :=
    forall₂_congr fun logged _ => Nat.lt_succ_iff
  constructor
  · rw [← hfits]
    refine (run_stays_iff (P := fun w => w.Waits ∧ w.Counted target) (Q := World.Fits) ?_ ?_ ?_
      (along_true _ _) hrun ⟨fun _ => .none, World.counted_start options⟩
      (Counter.within_nil (Nat.two_pow_pos 16))).symm
    · intro w a w' _ hstep hw
      exact ⟨hw.1.step hstep, hw.2.step hw.1 hstep⟩
    · intro w a w' _ hstep hw hfits'
      exact World.fits_of_step hw.1 hstep hfits'
    · intro w a w' _ hstep hw hfits
      exact hw.2.fits_step_iff hw.1 hfits hstep
  · rw [(World.counted_of_run hrun).panicked_iff, hfits]
    simp only [not_forall, not_le, exists_prop]

end

/-- A build with overflow checks, such as a debug build. -/
def checkedTarget : Target := { releaseTarget with overflowChecks := true }

/-- A send waits for its acknowledgement, something happens `between`, and the acknowledgement
comes. -/
def acknowledgedRun (between : List Action) : List Action :=
  issueAndTake (.bindSocket ⟨13400⟩) ++
    (issueAndTake (.sendDiagnosticMessage (diagnosticFrom 0x0E00 0x0001 [0x3E, 0x00])) ++
      (between ++ [deliver positiveAck]))

/-- Two messages are counted, one that is sent and the answer to an alive check, and both increments
are in range. -/
theorem session_id_in_range_iff_alive :
    ∃ w, run (World.step checkedTarget) (World.start testerOptions)
        (acknowledgedRun [deliver aliveCheckRequest]) = some w ∧ handedSinceBind w.log = 2 ∧
      Along (World.step checkedTarget) World.InRange (World.start testerOptions)
        (acknowledgedRun [deliver aliveCheckRequest]) := by
  have h : ∃ w, run (World.step checkedTarget) (World.start testerOptions)
      (acknowledgedRun [deliver aliveCheckRequest]) = some w ∧ handedSinceBind w.log = 2 ∧
      w.phase = .loopHead := ⟨_, rfl, rfl, rfl⟩
  obtain ⟨w, hrun, hcount, hhead⟩ := h
  obtain ⟨hrange, hpanic⟩ := session_id_in_range_iff hrun
  refine ⟨w, hrun, hcount, hrange.mpr fun logged hlogged => ?_⟩
  by_contra hmany
  cases hhead.symm.trans (hpanic.mpr ⟨rfl, logged, hlogged, Nat.lt_of_not_le hmany⟩)

/-! ## A session that is too long -/

section
variable {c : Setting} {w : World} {taken room : Nat}

/-- One message is sent and acknowledged: the client is idle again, with room for one message less
in its counter. -/
theorem Setting.ClientAt.acknowledgedSend (h : c.ClientAt w none none [] taken (room + 1))
    (htime : c.horizon + c.options.diagnosticMessageTimeout ≤ c.target.maxInstant)
    (userData : List UInt8) :
    ∃ w', run (World.step c.target) w (SimpleDoip.acknowledgedSend userData) = some w' ∧
      c.ClientAt w' none none [] (taken + 1) room ∧
      handedSinceBind w'.log = handedSinceBind w.log + 1 := by
  obtain ⟨w₁, h₁, -, hissued, hlog₁⟩ :=
    h.issue (.sendDiagnosticMessage (diagnosticFrom 0x0E00 0x0001 userData))
  obtain ⟨w₂, h₂, hsent, hlog₂⟩ := hissued.takeSend htime (.ok ())
  obtain ⟨w₃, h₃, hacked, hlog₃⟩ := hsent.takeAck (m := positiveAck) rfl rfl (.ok ())
  refine ⟨w₃, ?_, hacked, ?_⟩
  · simp only [SimpleDoip.acknowledgedSend, issueAndTake, deliver, List.cons_append,
      List.nil_append, run_cons, h₁, h₂, h₃, Option.bind_some]
    rfl
  · rw [handedSinceBind, hlog₃, Counter.count_append_quiet rfl, hlog₂,
      Counter.count_append_marked (m := .one) rfl, hlog₁]
    rfl

/-- As many messages as the counter has room for are sent and acknowledged, one after the other. -/
theorem Setting.ClientAt.acknowledgedSends (n : Nat)
    (h : c.ClientAt w none none [] taken (n + room))
    (htime : c.horizon + c.options.diagnosticMessageTimeout ≤ c.target.maxInstant)
    (userData : List UInt8) :
    ∃ w', run (World.step c.target) w
        (List.replicate n (SimpleDoip.acknowledgedSend userData)).flatten = some w' ∧
      c.ClientAt w' none none [] (taken + n) room ∧
      handedSinceBind w'.log = handedSinceBind w.log + n := by
  induction n generalizing w taken with
  | zero =>
    rw [Nat.zero_add] at h
    exact ⟨w, rfl, h, rfl⟩
  | succ n ih =>
    rw [Nat.add_right_comm] at h
    obtain ⟨w₁, hrun₁, hsent, hcount₁⟩ := h.acknowledgedSend htime userData
    obtain ⟨w', hrun', hrest, hcount⟩ := ih hsent
    refine ⟨w', ?_, ?_, ?_⟩
    · rw [List.replicate_succ, List.flatten_cons, run_append, hrun₁]
      exact hrun'
    · rwa [Nat.add_assoc, Nat.add_comm 1] at hrest
    · omega

end

/-- A tester of an entity at some address, in a build with overflow checks. The clock stands still,
as no deadline is to pass. -/
def checkedSetting (server : LogicalAddress) : Setting where
  target := checkedTarget
  horizon := 0
  options := { testerOptions with serverLogicalAddress := server }
  first := 0

/-- The tester has just bound its socket: nothing is counted, and the counter has all its room. -/
theorem checkedSetting_bound (server : LogicalAddress) :
    ∃ w, run (World.step checkedTarget) (World.start (checkedSetting server).options)
        (issueAndTake (.bindSocket ⟨13400⟩)) = some w ∧ handedSinceBind w.log = 0 ∧
      (checkedSetting server).ClientAt w none none [] 1 65535 := by
  refine ⟨_, rfl, rfl, rfl, rfl, rfl, rfl, ⟨⟨13400, 0⟩, rfl, fun _ => ?_⟩, rfl, rfl, rfl, ?_, rfl,
    Nat.le_refl 0⟩
  · exact Nat.le_refl 65535
  · intro r hr
    cases hr

/-- A tester present, again and again: after the bind, `n` times it is sent and acknowledged. -/
def presentRun (n : Nat) : List Action :=
  issueAndTake (.bindSocket ⟨13400⟩) ++ (List.replicate n (acknowledgedSend [0x3E, 0x00])).flatten

/-- After as many messages as the counter can show it is full, and the client waits for nothing. -/
theorem run_presentRun {n : Nat} (hn : n = 65535) (server : LogicalAddress) :
    ∃ w s, run (World.step checkedTarget) (World.start (checkedSetting server).options)
        (presentRun n) = some w ∧
      (checkedSetting server).ClientAt w none none [] (1 + n) 0 ∧
      w.inner.tcpDataSocket = some s ∧ s.Full checkedTarget := by
  obtain ⟨w₀, hbind, hzero, hbound⟩ := checkedSetting_bound server
  have hroom : (checkedSetting server).ClientAt w₀ none none [] 1 (n + 0) := by
    rw [hn]
    exact hbound
  have htime : 0 + testerOptions.diagnosticMessageTimeout ≤ checkedTarget.maxInstant := by decide
  obtain ⟨w, hsends, hsent, hcount⟩ := hroom.acknowledgedSends n htime [0x3E, 0x00]
  have hrun : run (World.step checkedTarget) (World.start (checkedSetting server).options)
      (presentRun n) = some w := by
    rw [presentRun, run_append, hbind]
    exact hsends
  obtain ⟨s, hs, -⟩ := hsent.socket
  refine ⟨w, s, hrun, hsent, hs, ?_⟩
  -- the counter shows all the messages, and there is no room for another
  have hshown := (World.counted_of_run hrun).shown_of_head hsent.head hs
  rw [hcount, hzero] at hshown
  by_contra hnot
  have hlt := (SocketManager.not_full_iff rfl).mp hnot
  omega

/-- The tester sends once more, behind `n` messages that were acknowledged. -/
def longSession (n : Nat) : List Action :=
  presentRun n ++
    issueAndTake (.sendDiagnosticMessage (diagnosticFrom 0x0E00 0x0001 [0x3E, 0x00]))

/-- The session panics, for a number that is as large as the counter can show. It is a variable
here, so that nothing unfolds that many sends. -/
theorem run_longSession {n : Nat} (hn : n = 65535) :
    ∃ w, run (World.step checkedTarget) (World.start testerOptions) (longSession n) = some w ∧
      w.phase = .panicked .overflow := by
  obtain ⟨w₁, s, hrun, hfilled, hs, hfull⟩ :=
    run_presentRun hn testerOptions.serverLogicalAddress
  obtain ⟨w₂, w₃, hissue, hturn, -, hpanicked, -⟩ :=
    hfilled.issueSend_full hs hfull (diagnosticFrom 0x0E00 0x0001 [0x3E, 0x00]) (.ok ())
  refine ⟨w₃, ?_, hpanicked⟩
  have hrun₂ := run_snoc hrun hissue
  have hrun₃ := run_snoc hrun₂ hturn
  rwa [List.append_assoc] at hrun₃

/-- The 65536th message of a connection ends the task, and nothing can be requested any more. -/
theorem long_session_panics :
    ∃ w, run (World.step checkedTarget) (World.start testerOptions) (longSession 65535) = some w ∧
      w.phase = .panicked .overflow ∧ ∀ request, w.step checkedTarget (.issue request) = none := by
  obtain ⟨w, hrun, hpanicked⟩ := run_longSession rfl
  refine ⟨w, hrun, hpanicked, fun request => ?_⟩
  rw [World.step, if_neg]
  rintro ⟨hloop | ⟨m, hloop⟩, -⟩ <;> cases hpanicked.symm.trans hloop

end SimpleDoip
