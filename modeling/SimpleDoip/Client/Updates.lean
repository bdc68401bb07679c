import SimpleDoip.Client.Cancellation
import SimpleDoip.Client.Freshness

/-!
# The update channel

A message nobody waits for goes to the update channel, unless it is a diagnostic message or a
positive acknowledgement. No call that connects, sends or receives reads that channel, and the task
waits for room in it. `PassesOn` says which turns put a message there, in terms of the state they
meet. `World.Unread` counts these messages while nobody reads them: the channel holds the first
sixteen, and with the seventeenth the task waits for room.
-/

namespace SimpleDoip

open Transition

/-- The turns that put a message into the update channel: nobody waits, and the message is neither a
diagnostic message nor a positive acknowledgement. An alive check whose answer overflows the session
counter does not get that far. -/
def PassesOn (target : Target) (env : Env) (i : Inner) : Select → Prop
  | .socket (.ok m) => i.activeRequest = none ∧ m.isPositiveAck = false ∧
      (∀ dm, m.payload ≠ .diagnosticMessage dm) ∧ ¬ FatalAlive target env i m
  | _ => False

/-- A turn sends a message to the update channel, whether or not there is room for it. -/
def SendsUpdate : EStateM.Result Panic Task Processed → Prop
  | .ok (.update _) _ => True
  | _ => False

/-- **A turn sends an update exactly when it passes a message on**, that is, when `PassesOn` holds
of the state before it. -/
theorem Turned.sendsUpdate_iff {target : Target} {env : Env} {i : Inner} {select : Select}
    {r : EStateM.Result Panic Task Processed} (h : Turned target env i select r) :
    SendsUpdate r ↔ PassesOn target env i select := by
  cases h with
  | passed hm hdm hactive hroom =>
    exact ⟨fun _ => ⟨hactive, hm, hdm, not_fatalAlive hroom⟩, fun _ => trivial⟩
  | acked hm hactive | unheeded hm hactive =>
    refine ⟨False.elim, fun hpasses => ?_⟩
    have hnone := hpasses.1
    rw [hactive] at hnone
    cases hnone
  | ackDropped hm hactive =>
    refine ⟨False.elim, fun hpasses => ?_⟩
    have hnot := hpasses.2.1
    rw [hm] at hnot
    cases hnot
  | @replied m request response hm hactive =>
    refine ⟨fun h => ?_, fun hpasses => ?_⟩
    · cases hd : env.dropped response <;> rw [hd] at h <;> exact h.elim
    · have hnone := hpasses.1
      rw [hactive] at hnone
      cases hnone
  | stored hm hactive => exact ⟨False.elim, fun hpasses => absurd hm (hpasses.2.2.1 _)⟩
  | aliveOverflowed hm hsocket hopen hfull =>
    exact ⟨False.elim, fun hpasses => absurd ⟨_, hm, hsocket, hopen, hfull⟩ hpasses.2.2.2⟩
  | expired | bound | unbound | refused | drained | listening | sent | overflowed | late
  | lateListening | broken => exact Iff.rfl

/-! ## Runs whose user does not read updates -/

/-- The action neither reads the update channel nor gives it up. A client that only connects, sends
and receives does neither; `reconnect` and `shut_down` do. -/
def LeavesUpdates (a : Action) : Prop := a ≠ .readUpdate ∧ a ≠ .dropUpdates

namespace World
variable {target : Target} {w w' : World} {a : Action} {n : Nat} {m : OwnedMessage}

/-- The task waits for room in the update channel. It makes no turn until there is some. -/
def Blocked (w : World) : Prop := ∃ m, w.phase = .updateBlocked m

/-- At the head of the loop the task is not blocked: it has finished its turn. -/
theorem not_blocked_of_head (hhead : w.phase = .loopHead) : ¬ w.Blocked := by
  rintro ⟨m, hblocked⟩
  rw [hhead] at hblocked
  cases hblocked

/-- The message of a turn that nobody asked for: no request is pending, and it is neither a
diagnostic message, which is kept for the next receive, nor a positive acknowledgement, which is
dropped. -/
def unsolicited (w : World) : Action → Option OwnedMessage
  | .turn (.socket (.message m)) _ _ =>
    match m.payload with
    | .diagnosticMessage _ => none
    | _ => if w.inner.activeRequest = none ∧ m.isPositiveAck = false then some m else none
  | _ => none

/-- A turn that does not end the task passes on what is unsolicited, and nothing else. So what is
passed on can be read off the state before the turn and the message. -/
theorem unsolicited_isSome_iff {branch : Branch} {socketOpen : Bool}
    {connect : Except Error Unit} {select : Select} (hselect : w.select branch = some select)
    (hfatal : ¬ Fatal target (w.env socketOpen connect) w.inner select) :
    (w.unsolicited (.turn branch socketOpen connect)).isSome = true ↔
      PassesOn target (w.env socketOpen connect) w.inner select := by
  have hnone : (none : Option OwnedMessage).isSome = true ↔ False :=
    ⟨fun h => (by cases h), False.elim⟩
  cases World.selected_of_select hselect with
  | deadline => exact hnone
  | control => exact hnone
  | @socket incoming =>
    cases incoming with
    | failed => exact hnone
    | closed => exact hnone
    | message m =>
      rw [unsolicited]
      split
      · next dm hpayload => exact ⟨fun h => (by cases h), fun h => absurd hpayload (h.2.2.1 dm)⟩
      · next hdm =>
        have halive : ¬ FatalAlive target (w.env socketOpen connect) w.inner m :=
          fun h => hfatal (.inl h)
        split
        · next hguard => exact ⟨fun _ => ⟨hguard.1, hguard.2, hdm, halive⟩, fun _ => rfl⟩
        · next hguard => exact ⟨fun h => (by cases h), fun h => absurd ⟨h.1, h.2.1⟩ hguard⟩

/-- A task whose user does not read updates, after `n` messages that nobody asked for: the channel
holds the first sixteen of them, and with the seventeenth the task waits. -/
structure Unread (n : Nat) (w : World) : Prop where
  waits : w.Waits
  updatesOpen : w.updatesOpen = true
  length : w.InLoop → w.updates.length = min n CHANNEL_CAP
  le : w.InLoop → n ≤ CHANNEL_CAP + 1
  blocked_iff : w.InLoop → (w.Blocked ↔ CHANNEL_CAP < n)

/-- A task that has left its loop counts nothing: the account is of the time in which it can still
receive. -/
theorem Unread.of_left (hwaits : w.Waits) (hopen : w.updatesOpen = true) (h : ¬ w.InLoop) :
    w.Unread n :=
  ⟨hwaits, hopen, fun hloop => absurd hloop h, fun hloop => absurd hloop h,
    fun hloop => absurd hloop h⟩

/-- What changes neither the task nor the update channel leaves the count as it is. -/
theorem Unread.same (h : w.Unread n) (hwaits : w'.Waits) (hphase : w'.phase = w.phase)
    (hupdates : w'.updates = w.updates) (hopen : w'.updatesOpen = w.updatesOpen) :
    w'.Unread n := by
  have hloop : w'.InLoop → w.InLoop := by
    rw [InLoop, InLoop, hphase]
    exact id
  refine ⟨hwaits, hopen.trans h.updatesOpen, ?_, fun hw' => h.le (hloop hw'), ?_⟩
  · rw [hupdates]
    exact fun hw' => h.length (hloop hw')
  · rw [Blocked, hphase]
    exact fun hw' => h.blocked_iff (hloop hw')

/-- At the head of the loop there are as many messages in the channel as were counted: all of them
fit, and nobody has read any. -/
theorem Unread.of_head (h : w.Unread n) (hhead : w.phase = .loopHead) :
    n ≤ CHANNEL_CAP ∧ w.updates.length = n := by
  have hle : n ≤ CHANNEL_CAP :=
    Nat.not_lt.mp (mt (h.blocked_iff (.inl hhead)).mpr (not_blocked_of_head hhead))
  exact ⟨hle, (h.length (.inl hhead)).trans (Nat.min_eq_left hle)⟩

/-- One more message goes to the update channel, or is the one that the task waits with. -/
theorem Unread.sendUpdate (hwaits : (w.sendUpdate m).Waits) (hopen : w.updatesOpen = true)
    (hle : n ≤ CHANNEL_CAP) (hlength : w.updates.length = n) :
    (w.sendUpdate m).Unread (n + 1) := by
  rw [World.sendUpdate, if_neg (not_not.mpr hopen)] at hwaits ⊢
  by_cases hroom : w.updates.length < CHANNEL_CAP
  · rw [if_pos hroom] at hwaits ⊢
    rw [hlength] at hroom
    refine ⟨hwaits, hopen, fun _ => ?_, fun _ => by omega, fun _ => ⟨fun h => ?_, fun h => ?_⟩⟩
    · rw [List.length_append, hlength, Nat.min_eq_left hroom]
      rfl
    · exact absurd h (not_blocked_of_head rfl)
    · omega
  · rw [if_neg hroom] at hwaits ⊢
    rw [hlength] at hroom
    refine ⟨hwaits, hopen, fun _ => ?_, fun _ => by omega, fun _ => ⟨fun h => ?_, fun h => ?_⟩⟩
    · change w.updates.length = _
      omega
    · omega
    · exact ⟨m, rfl⟩

/-- **A turn counts** the message that nobody asked for, if it has one. -/
theorem Unread.turn (h : w.Unread n) {branch : Branch} {socketOpen : Bool}
    {connect : Except Error Unit} {select : Select} (hhead : w.phase = .loopHead)
    (hselect : w.select branch = some select)
    (hwaits : (w.finish select
      (turn target (w.env socketOpen connect) select ⟨w.inner, []⟩)).Waits) :
    (w.finish select (turn target (w.env socketOpen connect) select ⟨w.inner, []⟩)).Unread
      (n + (w.unsolicited (.turn branch socketOpen connect)).toList.length) := by
  obtain ⟨hle, hlength⟩ := h.of_head hhead
  have hturned := turn_spec target (w.env socketOpen connect) (h.waits (.inl hhead))
    (ready_of_select hselect)
  generalize SimpleDoip.turn target (w.env socketOpen connect) select ⟨w.inner, []⟩ = r
    at hturned hwaits ⊢
  have hleft : ∀ {w' : World}, w'.Waits → w'.updatesOpen = w.updatesOpen →
      (∀ m, w'.phase ≠ .updateBlocked m) → w'.phase ≠ .loopHead → ∀ n, w'.Unread n :=
    fun hwaits hopen hblocked hhead n => .of_left hwaits (hopen.trans h.updatesOpen) fun hloop =>
      hloop.elim hhead fun ⟨m, hm⟩ => hblocked m hm
  cases r with
  | error p t => exact hleft hwaits rfl (fun m h => by cases h) (fun h => by cases h) _
  | ok processed t =>
    have hpasses := hturned.sendsUpdate_iff
    cases processed with
    | exit => exact hleft hwaits rfl (fun m h => by cases h) (fun h => by cases h) _
    | stay =>
      have hsolicited := (unsolicited_isSome_iff hselect (mt hturned.leaves_iff.mpr id)).not.mpr
        (mt hpasses.mpr id)
      rw [Option.not_isSome_iff_eq_none.mp hsolicited]
      exact h.same hwaits rfl rfl rfl
    | update m =>
      obtain ⟨m', hm'⟩ := Option.isSome_iff_exists.mp
        ((unsolicited_isSome_iff hselect (mt hturned.leaves_iff.mpr id)).mpr (hpasses.mp trivial))
      rw [hm']
      exact .sendUpdate hwaits h.updatesOpen hle hlength

/-- The channel is full as long as the task waits, and its reader is there but does not read, so it
never resumes. -/
theorem Unread.not_resumed (h : w.Unread n) (hblocked : w.Blocked) :
    ¬ (¬ w.updatesOpen = true ∨ w.updates.length < CHANNEL_CAP) := by
  have hmore := (h.blocked_iff (.inr hblocked)).mp hblocked
  have hlength := h.length (.inr hblocked)
  rw [Nat.min_eq_right hmore.le] at hlength
  rintro (hclosed | hroom)
  · exact hclosed h.updatesOpen
  · exact absurd hroom (Nat.not_lt.mpr hlength.ge)

/-- A task that waits goes on waiting while nobody reads updates, and takes no request. -/
theorem Unread.blocked_step (h : w.Unread n) (hblocked : w.Blocked) (ha : LeavesUpdates a)
    (hstep : w.step target a = some w') : w'.Blocked ∧ w'.taken = w.taken := by
  cases moved_of_step hstep with
  | issued | abandoned | waited | controlClosed => exact ⟨hblocked, rfl⟩
  | updateRead => exact absurd rfl ha.1
  | updatesDropped => exact absurd rfl ha.2
  | turned hhead => exact absurd hblocked (not_blocked_of_head hhead)
  | ended hhead => exact absurd hblocked (not_blocked_of_head hhead)
  | resumed hphase hroom => exact absurd hroom (h.not_resumed hblocked)

/-- **A step counts** the message that nobody asked for, while nobody reads updates. -/
theorem Unread.step (h : w.Unread n) (ha : LeavesUpdates a) (hstep : w.step target a = some w') :
    w'.Unread (n + (w.unsolicited a).toList.length) := by
  have hwaits := h.waits.step hstep
  cases moved_of_step hstep with
  | issued | abandoned | waited | controlClosed => exact h.same hwaits rfl rfl rfl
  | updateRead => exact absurd rfl ha.1
  | updatesDropped => exact absurd rfl ha.2
  | turned hhead hselect => exact h.turn hhead hselect hwaits
  | ended =>
    refine .of_left hwaits h.updatesOpen ?_
    rintro (hphase | ⟨m, hphase⟩) <;> cases hphase
  | resumed hphase hroom => exact absurd hroom (h.not_resumed ⟨_, hphase⟩)

variable (target) in
/-- The messages nobody asked for that a run handles, in order. They are all passed on to the update
channel while the task is in its loop. -/
def unsolicitedMessages (w : World) (actions : List Action) : List OwnedMessage :=
  seen (World.step target) unsolicited w actions

/-- **A run whose user does not read updates** counts the messages nobody asked for: the channel
holds the first sixteen, and with the seventeenth the task waits. -/
theorem unread_of_run {options : ClientOptions} {actions : List Action}
    (hrun : run (World.step target) (World.start options) actions = some w)
    (hunread : Along (World.step target) (fun _ a => LeavesUpdates a) (World.start options)
      actions) :
    w.Unread ((World.start options).unsolicitedMessages target actions).length := by
  refine seen_invariant_along (P := fun (ms : List OwnedMessage) (w : World) =>
    w.Unread ms.length) ?_ hunread hrun ?_
  · intro ms w a w' ha hstep h
    rw [List.length_append]
    exact h.step ha hstep
  · refine ⟨fun _ => .none, rfl, fun _ => rfl, fun _ => Nat.zero_le _, fun _ => ⟨?_, ?_⟩⟩
    · exact fun h => absurd h (not_blocked_of_head rfl)
    · exact fun h => absurd h (Nat.not_lt_zero _)

/-- A task that waits for room takes nothing while nobody reads updates, whatever else happens in
the meantime. -/
theorem Unread.taken_of_run (h : w.Unread n) (hblocked : w.Blocked) {actions : List Action}
    (hunread : Along (World.step target) (fun _ a => LeavesUpdates a) w actions)
    (hrun : run (World.step target) w actions = some w') : w'.taken = w.taken := by
  have hkeeps := Transition.run_invariant_along (P := fun w' : World => (∃ n, w'.Unread n) ∧
    w'.Blocked ∧ w'.taken = w.taken) ?_ hunread hrun ⟨⟨n, h⟩, hblocked, rfl⟩
  · exact hkeeps.2.2
  · rintro w₁ a w₂ ha hstep ⟨⟨n₁, h₁⟩, hblocked₁, htaken₁⟩
    obtain ⟨hblocked₂, htaken₂⟩ := h₁.blocked_step hblocked₁ ha hstep
    exact ⟨⟨_, h₁.step ha hstep⟩, hblocked₂, htaken₂.trans htaken₁⟩

end World

/-- An alive check of the peer. It has no payload, and the client answers it whatever it is
doing. -/
def aliveCheckRequest : OwnedMessage where
  header := Header.new .v2012 .aliveCheckRequest 0
  payload := .aliveCheckRequest

end SimpleDoip
