import SimpleDoip.Session.SocketTask

/-!
# The inactivity timer of the socket task

The socket task closes its connection once it has been idle for `TCP_TIMEOUT_GENERAL_INACTIVITY`.
What counts is what the loop takes: an item of the read stream, or a message to write. Bytes that
complete no item do not count, and neither does the time a send or a write takes; so a peer that
only ever sends parts of a frame is cut off, and after a long wait for room in the channel so is one
that has more to say. `timeout_iff` says when the timer fires, in terms of the run.
-/

namespace SimpleDoip

open Transition

/-- Whether a poll came to an item, which counts as activity also if it is an error. -/
def FramedRead.Next.isItem {ι : Type} : FramedRead.Next ι → Bool
  | .item _ => true
  | .ended | .pending => false

namespace SocketTask

section
variable {ι : Type} [WireCodec ι] [Framed ι]

/-- The read branch sets the timer back for an item only: bytes that do not complete a frame are no
activity. -/
theorem lastActivity_handleNext (t : SocketTask ι) (next : FramedRead.Next ι) :
    (t.handleNext next).lastActivity = if next.isItem then t.clock else t.lastActivity := by
  cases next with
  | pending => rfl
  | ended => rfl
  | item item =>
    rw [handleNext]
    cases StreamItem.passedOn item <;> rfl

theorem clock_handleNext (t : SocketTask ι) (reader : FramedRead ι) (next : FramedRead.Next ι) :
    ({ t with reader }.handleNext next).clock = t.clock := by
  cases next with
  | pending => rfl
  | ended => rfl
  | item item =>
    rw [handleNext]
    cases StreamItem.passedOn item <;> rfl

end

section
variable {ι : Type} [WireCodec ι] [Framed ι] {t t' : SocketTask ι} {a : SocketMove}

/-- Whether a move takes an item of the read stream or a message to write. -/
def isActivity (t : SocketTask ι) : SocketMove → Bool
  | .read r => (t.reader.fill r).1.isItem
  | .next => t.reader.pollNext.1.isItem
  | .take =>
    match t.outgoing.recv with
    | .value _ _ => true
    | .empty | .closed => false
  | _ => false

/-- **A step sets the timer back** if it is activity, and leaves it as it is if not. -/
theorem lastActivity_step (h : t.step a = some t') :
    t'.lastActivity = if t.isActivity a then t.clock else t.lastActivity := by
  cases moved_of_step h with
  | read => exact lastActivity_handleNext _ _
  | next => exact lastActivity_handleNext _ _
  | senderDropped hphase hrecv =>
    rw [isActivity, hrecv]
    rfl
  | taken hphase hrecv =>
    rw [isActivity, hrecv]
    rfl
  | tooLarge hphase hrecv =>
    rw [isActivity, hrecv]
    rfl
  | _ => rfl

/-- Time does not go back, whatever the step. -/
theorem clock_step (h : t.step a = some t') : t.clock ≤ t'.clock := by
  cases moved_of_step h with
  | read => exact Nat.le_of_eq (clock_handleNext t _ _).symm
  | next => exact Nat.le_of_eq (clock_handleNext t _ _).symm
  | waited duration => exact Nat.le_add_right _ _
  | _ => exact Nat.le_refl _

end

section
variable {ι : Type} [WireCodec ι] [Framed ι] {t t' : SocketTask ι} {clock : Nat}
  {moves : List SocketMove}

variable (ι clock) in
/-- There was activity at time `now` in the run, at one of its steps. -/
def ActiveAt (moves : List SocketMove) (now : Nat) : Prop :=
  ∃ before a rest t, moves = before ++ a :: rest ∧
    run step (spawned ι clock) before = some t ∧ t.isActivity a = true ∧ now = t.clock

/-- The activity of a longer run: that of the run before, and its last step if it is activity. -/
theorem activeAt_snoc {a : SocketMove} {now : Nat}
    (hrun : run step (spawned ι clock) moves = some t) :
    ActiveAt ι clock (moves ++ [a]) now ↔
      ActiveAt ι clock moves now ∨ t.isActivity a = true ∧ now = t.clock := by
  constructor
  · rintro ⟨before, b, rest, t₁, hmoves, hbefore, hactive, hnow⟩
    rcases List.eq_nil_or_concat' rest with rfl | ⟨rest, last, rfl⟩
    · obtain ⟨rfl, rfl⟩ := List.append_inj' hmoves rfl |>.imp_right List.head_eq_of_cons_eq
      cases hbefore.symm.trans hrun
      exact .inr ⟨hactive, hnow⟩
    · rw [← List.cons_append, ← List.append_assoc] at hmoves
      obtain ⟨rfl, -⟩ := List.append_inj' hmoves rfl
      exact .inl ⟨before, b, rest, t₁, rfl, hbefore, hactive, hnow⟩
  · rintro (⟨before, b, rest, t₁, rfl, hbefore, hactive, hnow⟩ | ⟨hactive, hnow⟩)
    · exact ⟨before, b, rest ++ [a], t₁, by simp, hbefore, hactive, hnow⟩
    · exact ⟨moves, a, [], t, rfl, hrun, hactive, hnow⟩

variable (clock) in
/-- The timer was set by the last activity, or when the task was spawned. -/
structure SetByLast (moves : List SocketMove) (t : SocketTask ι) : Prop where
  le_clock : t.lastActivity ≤ t.clock
  spawned : clock ≤ t.lastActivity
  last : ∀ now, ActiveAt ι clock moves now → now ≤ t.lastActivity
  set : t.lastActivity = clock ∨ ActiveAt ι clock moves t.lastActivity

theorem setByLast_of_run (hrun : run step (spawned ι clock) moves = some t) :
    SetByLast clock moves t := by
  refine run_history (P := SetByLast clock) ?_ hrun
    ⟨Nat.le_refl _, Nat.le_refl _, ?_, .inl rfl⟩
  · intro moves t a t' hrun hstep h
    have hclock := clock_step hstep
    have hset := lastActivity_step hstep
    have hle := h.le_clock
    have hspawned := h.spawned
    cases hactive : t.isActivity a with
    | true =>
      rw [hactive, if_pos rfl] at hset
      refine ⟨by omega, by omega, fun now hnow => ?_, .inr ?_⟩
      · rcases (activeAt_snoc hrun).mp hnow with hnow | ⟨-, hnow⟩
        · have := h.last now hnow
          omega
        · omega
      · exact (activeAt_snoc hrun).mpr (.inr ⟨hactive, hset⟩)
    | false =>
      rw [hactive, if_neg (by decide)] at hset
      refine ⟨by omega, by omega, fun now hnow => ?_, ?_⟩
      · rcases (activeAt_snoc hrun).mp hnow with hnow | ⟨habsurd, -⟩
        · have := h.last now hnow
          omega
        · cases hactive.symm.trans habsurd
      · rw [hset]
        exact h.set.imp_right fun hlast => (activeAt_snoc hrun).mpr (.inl hlast)
  · rintro now ⟨before, a, rest, t₁, hmoves, -⟩
    cases before <;> cases hmoves

/-- **The inactivity timer** fires exactly where the task selects and, for the whole of the timeout,
it has been running and has taken neither an item of the read stream nor a message to write. -/
theorem timeout_iff (hrun : run step (spawned ι clock) moves = some t) :
    (∃ t', t.step .timeout = some t') ↔ t.phase = .selecting ∧
      clock + TCP_TIMEOUT_GENERAL_INACTIVITY ≤ t.clock ∧
      ∀ now, ActiveAt ι clock moves now → now + TCP_TIMEOUT_GENERAL_INACTIVITY ≤ t.clock := by
  have hset := setByLast_of_run hrun
  constructor
  · rintro ⟨t', hstep⟩
    cases moved_of_step hstep with
    | timeout hphase hidle =>
      have hspawned := hset.spawned
      refine ⟨hphase, by omega, fun now hnow => ?_⟩
      have := hset.last now hnow
      omega
  · rintro ⟨hphase, hspawned, hidle⟩
    have hlast : t.lastActivity + TCP_TIMEOUT_GENERAL_INACTIVITY ≤ t.clock := by
      rcases hset.set with hset | hset
      · rw [hset]
        exact hspawned
      · exact hidle _ hset
    refine ⟨t.leave .inactivity, ?_⟩
    rw [step, hphase]
    exact if_pos hlast

end

/-- Two alive checks arrive, and the first one waits for the manager as long as the timeout. -/
def longDelivery : List SocketMove :=
  [.read (.ok [0x02, 0xFD, 0x00, 0x07, 0x00, 0x00, 0x00, 0x00, 0x02, 0xFD, 0x00, 0x07, 0x00, 0x00,
      0x00, 0x00]),
    .next, .wait TCP_TIMEOUT_GENERAL_INACTIVITY, .deliver]

/-- The timer fires with the second message still in the buffer: it was read in time, but is not
activity before it is handed out. -/
theorem timeout_iff_long_delivery :
    letI := plainWire
    letI := plainFramed Incomplete
    ∃ t, run step (spawned Incomplete 0) longDelivery = some t ∧
      t.isActivity .next = true ∧ (∃ t', t.step .timeout = some t') ∧
      ∀ now, ActiveAt Incomplete 0 longDelivery now →
        now + TCP_TIMEOUT_GENERAL_INACTIVITY ≤ t.clock := by
  let := plainWire
  let := plainFramed Incomplete
  have h : ∃ t, run step (spawned Incomplete 0) longDelivery = some t ∧
      t.isActivity .next = true ∧ t.phase = .selecting ∧ t.lastActivity = 0 ∧
      t.clock = 0 + TCP_TIMEOUT_GENERAL_INACTIVITY :=
    ⟨_, rfl, rfl, rfl, rfl, rfl⟩
  obtain ⟨t, hrun, hnext, hphase, hlast, hclock⟩ := h
  have htimeout : ∃ t', t.step .timeout = some t' := by
    refine ⟨t.leave .inactivity, ?_⟩
    rw [step, hphase, hlast, hclock]
    exact if_pos (Nat.le_refl _)
  exact ⟨t, hrun, hnext, htimeout, ((timeout_iff hrun).mp htimeout).2.2⟩

end SocketTask

end SimpleDoip
