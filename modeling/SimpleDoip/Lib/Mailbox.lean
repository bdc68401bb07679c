import SimpleDoip.Lib.Transition

/-!
# A mailbox with one slot

A mailbox passes messages to those who ask for them. A message that nobody waits for stays in the
slot, and one that comes while the slot is taken replaces what was there. `answered_in_order_iff`
says when the asks are answered by the messages, each in its place: exactly when every message met
an ask that waited or an empty slot, and no ask was lost.
-/

namespace Mailbox

open Transition

/-- The state of a mailbox. Asks are numbered, and `answers` says which was answered how, oldest
first. -/
structure State (ε α : Type) where
  slot : Option α
  waiting : Option Nat
  isOpen : Bool
  asked : Nat
  answers : List (Nat × Except ε α)
  arrived : List α

/-- What happens to a mailbox: a message comes, an ask comes, with the error that refuses it where
there is nothing to wait for, an ask comes and is lost, or no more messages will come, with the
error for the ask that waits. -/
inductive Event (ε α : Type) where
  | put (message : α)
  | ask (refusal : ε)
  | lose
  | close (failure : ε)

section
variable {ε α : Type}

/-- One event, where it can happen: no message comes to a closed mailbox, and no ask while another
waits. -/
def step (s : State ε α) : Event ε α → Option (State ε α)
  | .put m =>
    if s.isOpen then
      match s.waiting with
      | some k => some { s with
          waiting := none, answers := s.answers ++ [(k, .ok m)], arrived := s.arrived ++ [m] }
      | none => some { s with slot := some m, arrived := s.arrived ++ [m] }
    else none
  | .ask e =>
    match s.waiting, s.slot with
    | some _, _ => none
    | none, some m => some { s with
        slot := none, asked := s.asked + 1, answers := s.answers ++ [(s.asked, .ok m)] }
    | none, none =>
      if s.isOpen then some { s with waiting := some s.asked, asked := s.asked + 1 }
      else some { s with asked := s.asked + 1, answers := s.answers ++ [(s.asked, .error e)] }
  | .lose =>
    match s.waiting, s.slot with
    | none, none => some { s with asked := s.asked + 1 }
    | _, _ => none
  | .close e => some { s with
      isOpen := false, waiting := none
      answers := s.answers ++ s.waiting.toList.map fun k => (k, .error e) }

/-- The answers that give each message to the ask of its place, from ask `base` on. -/
def inOrder (ε : Type) (base : Nat) (ms : List α) : List (Nat × Except ε α) :=
  (ms.zipIdx base).map fun p => (p.2, .ok p.1)

/-- The event loses no message and no ask: a message meets an ask or an empty slot, and no ask is
lost. -/
def Keeps (s : State ε α) : Event ε α → Prop
  | .put _ => s.waiting = none → s.slot = none
  | .lose => False
  | _ => True

/-- At most `n` messages come and `n` asks, from ask `base` on, and the mailbox is closed after the
last message only. -/
def Within (base n : Nat) (s : State ε α) : Event ε α → Prop
  | .put _ => s.arrived.length < n
  | .ask _ | .lose => s.asked < base + n
  | .close _ => s.arrived.length = n

/-! ## Answers in order -/

@[simp] theorem length_inOrder (base : Nat) (ms : List α) :
    (inOrder ε base ms).length = ms.length := by
  simp [inOrder]

theorem inOrder_concat (base : Nat) (ms : List α) (m : α) :
    inOrder ε base (ms ++ [m]) = inOrder ε base ms ++ [(base + ms.length, .ok m)] := by
  simp [inOrder, List.zipIdx_append]

/-- The last of the answers in order is the last message, so that taking it off leaves answers in
order. -/
theorem inOrder_eq_concat {base k : Nat} {ms : List α} {answers : List (Nat × Except ε α)}
    {a : Except ε α} (h : answers ++ [(k, a)] = inOrder ε base ms) :
    ∃ ms' m, ms = ms' ++ [m] ∧ answers = inOrder ε base ms' ∧ a = .ok m := by
  rcases List.eq_nil_or_concat ms with rfl | ⟨ms', m, rfl⟩
  · exact absurd h (by simp [inOrder])
  · rw [List.concat_eq_append, inOrder_concat] at h
    obtain ⟨hanswers, hlast⟩ := List.append_inj' h rfl
    rw [List.cons.injEq, Prod.mk.injEq] at hlast
    exact ⟨ms', m, List.concat_eq_append .., hanswers, hlast.1.2⟩

/-- How many answers carry a message. Each of these has used one up. -/
def okCount (answers : List (Nat × Except ε α)) : Nat :=
  answers.countP fun p => p.2.isOk

@[simp] theorem okCount_inOrder (base : Nat) (ms : List α) :
    okCount (inOrder ε base ms) = ms.length := by
  rw [okCount, List.countP_eq_length.mpr, length_inOrder]
  intro p hp
  obtain ⟨q, -, rfl⟩ := List.mem_map.mp hp
  rfl

@[simp] theorem okCount_concat_ok (answers : List (Nat × Except ε α)) (k : Nat) (m : α) :
    okCount (answers ++ [(k, .ok m)]) = okCount answers + 1 := by
  rw [okCount, List.countP_append]
  rfl

@[simp] theorem okCount_concat_error (answers : List (Nat × Except ε α)) (k : Nat) (e : ε) :
    okCount (answers ++ [(k, .error e)]) = okCount answers := by
  rw [okCount, List.countP_append]
  rfl

/-- What holds of a mailbox whether or not it has lost anything: the ask that waits is the last one
and has nothing to take, no ask is answered twice and no message goes out twice, and a mailbox that
still has messages to come is open. -/
structure Sound (base n : Nat) (s : State ε α) : Prop where
  last : ∀ k, s.waiting = some k → k + 1 = s.asked ∧ s.slot = none
  asks : base + s.answers.length + s.waiting.toList.length ≤ s.asked
  messages : okCount s.answers + s.slot.toList.length ≤ s.arrived.length
  asked : s.asked ≤ base + n
  isOpen : s.arrived.length < n → s.isOpen = true

/-- Nothing is lost: every message has gone to the ask of its place, or is in the slot, and every
ask has been answered or waits. -/
def Lossless (base : Nat) (s : State ε α) : Prop :=
  ∃ ms, s.arrived = ms ++ s.slot.toList ∧ s.answers = inOrder ε base ms ∧
    s.asked = base + ms.length + s.waiting.toList.length

section
variable {base n : Nat} {s s' : State ε α} {e : Event ε α}

/-- What an event does, by what it meets: one constructor for each branch of `step`. -/
inductive Stepped (s : State ε α) : Event ε α → State ε α → Prop where
  /-- The message goes to the ask that waits, which is the last one. -/
  | passed {k : Nat} (m : α) (hopen : s.isOpen = true) (hwaiting : s.waiting = some k) :
      Stepped s (.put m) { s with
        waiting := none, answers := s.answers ++ [(k, .ok m)], arrived := s.arrived ++ [m] }
  /-- The message goes to the slot, and replaces what was there. -/
  | stored (m : α) (hopen : s.isOpen = true) (hwaiting : s.waiting = none) :
      Stepped s (.put m) { s with slot := some m, arrived := s.arrived ++ [m] }
  /-- The ask takes the message in the slot, also from a mailbox that was closed since. -/
  | drained {m : α} (r : ε) (hwaiting : s.waiting = none) (hslot : s.slot = some m) :
      Stepped s (.ask r) { s with
        slot := none, asked := s.asked + 1, answers := s.answers ++ [(s.asked, .ok m)] }
  /-- The ask waits, as there is nothing in the slot and messages may still come. -/
  | waits (r : ε) (hwaiting : s.waiting = none) (hslot : s.slot = none) (hopen : s.isOpen = true) :
      Stepped s (.ask r) { s with waiting := some s.asked, asked := s.asked + 1 }
  /-- The ask is refused, as there is nothing in the slot and no message will come. -/
  | refused (r : ε) (hwaiting : s.waiting = none) (hslot : s.slot = none)
      (hclosed : s.isOpen = false) :
      Stepped s (.ask r) { s with
        asked := s.asked + 1, answers := s.answers ++ [(s.asked, .error r)] }
  /-- The ask is lost: it gets its number, and nobody will answer it. -/
  | lost (hwaiting : s.waiting = none) (hslot : s.slot = none) :
      Stepped s .lose { s with asked := s.asked + 1 }
  /-- The ask that waits fails, as no more messages will come. -/
  | failed {k : Nat} (f : ε) (hwaiting : s.waiting = some k) :
      Stepped s (.close f) { s with
        isOpen := false, waiting := none, answers := s.answers ++ [(k, .error f)] }
  /-- Nobody waits. What is in the slot stays there for the next ask. -/
  | closed (f : ε) (hwaiting : s.waiting = none) : Stepped s (.close f) { s with isOpen := false }

/-- **Inversion of a step**: which branch it was, with what it met. -/
theorem step_cases (h : step s e = some s') : Stepped s e s' := by
  obtain ⟨slot, waiting, isOpen, asked, answers, arrived⟩ := s
  cases e with
  | put m =>
    cases isOpen with
    | false => cases h
    | true =>
      cases waiting with
      | none =>
        cases h
        exact .stored m rfl rfl
      | some k =>
        cases h
        exact .passed m rfl rfl
  | ask r =>
    cases waiting with
    | some k => cases h
    | none =>
      cases slot with
      | some m =>
        cases h
        exact .drained r rfl rfl
      | none =>
        cases isOpen with
        | true =>
          cases h
          exact .waits r rfl rfl rfl
        | false =>
          cases h
          exact .refused r rfl rfl rfl
  | lose =>
    cases waiting with
    | some k => cases h
    | none =>
      cases slot with
      | some m => cases h
      | none =>
        cases h
        exact .lost rfl rfl
  | close f =>
    cases waiting with
    | none =>
      cases h
      rw [Option.toList_none, List.map_nil, List.append_nil]
      exact .closed f rfl
    | some k =>
      cases h
      exact .failed f rfl

theorem Sound.step (hwithin : Within base n s e) (h : step s e = some s') (hs : Sound base n s) :
    Sound base n s' := by
  obtain ⟨hlast, hasks, hmessages, hasked, hisOpen⟩ := hs
  cases step_cases h with
  | passed m hopen hwaiting =>
    have hslot := (hlast _ hwaiting).2
    rw [hslot, Option.toList_none, List.length_nil] at hmessages
    rw [hwaiting, Option.toList_some, List.length_singleton] at hasks
    refine ⟨nofun, ?_, ?_, hasked, fun _ => hopen⟩
    · simp only [List.length_append, List.length_singleton, Option.toList_none, List.length_nil]
      omega
    · simp only [okCount_concat_ok, hslot, List.length_append, List.length_singleton,
        Option.toList_none, List.length_nil]
      omega
  | stored m hopen hwaiting =>
    refine ⟨fun k hk => ?_, hasks, ?_, hasked, fun _ => hopen⟩
    · rw [hwaiting] at hk
      cases hk
    · simp only [Option.toList_some, List.length_append, List.length_singleton]
      omega
  | drained r hwaiting hslot =>
    rw [hwaiting, Option.toList_none, List.length_nil] at hasks
    rw [hslot, Option.toList_some, List.length_singleton] at hmessages
    refine ⟨fun k hk => ?_, ?_, ?_, hwithin, hisOpen⟩
    · rw [hwaiting] at hk
      cases hk
    · simp only [hwaiting, List.length_append, List.length_singleton, Option.toList_none,
        List.length_nil]
      omega
    · simp only [okCount_concat_ok, Option.toList_none, List.length_nil]
      omega
  | waits r hwaiting hslot =>
    rw [hwaiting, Option.toList_none, List.length_nil] at hasks
    refine ⟨fun k hk => ?_, ?_, hmessages, hwithin, hisOpen⟩
    · cases hk
      exact ⟨rfl, hslot⟩
    · simp only [Option.toList_some, List.length_singleton]
      omega
  | refused r hwaiting hslot =>
    rw [hwaiting, Option.toList_none, List.length_nil] at hasks
    refine ⟨fun k hk => ?_, ?_, ?_, hwithin, hisOpen⟩
    · rw [hwaiting] at hk
      cases hk
    · simp only [hwaiting, List.length_append, List.length_singleton, Option.toList_none,
        List.length_nil]
      omega
    · rwa [okCount_concat_error]
  | lost hwaiting hslot =>
    refine ⟨fun k hk => ?_, Nat.le_succ_of_le hasks, hmessages, hwithin, hisOpen⟩
    rw [hwaiting] at hk
    cases hk
  | failed f hwaiting =>
    rw [hwaiting, Option.toList_some, List.length_singleton] at hasks
    refine ⟨nofun, ?_, ?_, hasked, fun hlt => absurd hwithin (Nat.ne_of_lt hlt)⟩
    · simp only [List.length_append, List.length_singleton, Option.toList_none, List.length_nil]
      omega
    · rwa [okCount_concat_error]
  | closed f hwaiting =>
    exact ⟨hlast, hasks, hmessages, hasked, fun hlt => absurd hwithin (Nat.ne_of_lt hlt)⟩

/-- **A step from a lossless mailbox** loses nothing exactly when the event does not. -/
theorem lossless_step_iff (hwithin : Within base n s e) (h : step s e = some s')
    (hs : Sound base n s) (hlossless : Lossless base s) : Lossless base s' ↔ Keeps s e := by
  obtain ⟨ms, harrived, hanswers, hasked⟩ := hlossless
  cases step_cases h with
  | passed m hopen hwaiting =>
    obtain ⟨hk, hslot⟩ := hs.last _ hwaiting
    refine ⟨fun _ hnone => absurd hnone (by rw [hwaiting]; nofun), fun _ => ⟨ms ++ [m], ?_, ?_, ?_⟩⟩
    · rw [harrived, hslot, Option.toList_none, List.append_nil, List.append_nil]
    · rw [hwaiting, Option.toList_some, List.length_singleton] at hasked
      rw [hanswers, inOrder_concat, Nat.succ.inj (hk.trans hasked)]
    · rw [hwaiting] at hasked
      rw [List.length_append, List.length_singleton]
      exact hasked
  | stored m hopen hwaiting =>
    constructor
    · rintro ⟨ms', harrived', hanswers', -⟩ -
      -- as many messages have gone out as before, so the slot held none
      have hsame : ms'.length = ms.length := by
        rw [← length_inOrder (ε := ε) base ms', ← hanswers', hanswers, length_inOrder]
      have hlength := congrArg List.length harrived'
      rw [harrived] at hlength
      simp only [List.length_append, List.length_singleton, Option.toList_some] at hlength
      rw [← Option.toList_eq_nil_iff, ← List.length_eq_zero_iff]
      omega
    · intro hkeeps
      refine ⟨ms, ?_, hanswers, hasked⟩
      rw [harrived, hkeeps hwaiting, Option.toList_none, List.append_nil]
      rfl
  | @drained m r hwaiting hslot =>
    refine ⟨fun _ => trivial, fun _ => ⟨ms ++ [m], ?_, ?_, ?_⟩⟩
    · rw [harrived, hslot]
      exact (List.append_nil _).symm
    · rw [hwaiting] at hasked
      rw [hanswers, inOrder_concat, hasked]
      rfl
    · rw [hasked, hwaiting, List.length_append, List.length_singleton]
      rfl
  | waits r hwaiting hslot =>
    refine ⟨fun _ => trivial, fun _ => ⟨ms, harrived, hanswers, ?_⟩⟩
    rw [hasked, hwaiting]
    rfl
  | refused r hwaiting hslot hclosed =>
    -- the mailbox is closed, so all messages have come and as many asks
    exfalso
    rw [hslot, Option.toList_none, List.append_nil] at harrived
    rw [hwaiting, Option.toList_none, List.length_nil] at hasked
    have hall : ¬ s.arrived.length < n := by
      intro hlt
      rw [hs.isOpen hlt] at hclosed
      cases hclosed
    rw [harrived] at hall
    have hlt : s.asked < base + n := hwithin
    omega
  | lost hwaiting hslot =>
    refine ⟨fun ⟨ms', _, hanswers', hasked'⟩ => ?_, False.elim⟩
    have hsame : ms'.length = ms.length := by
      rw [← length_inOrder (ε := ε) base ms', ← hanswers', hanswers, length_inOrder]
    simp only at hasked'
    omega
  | failed f hwaiting =>
    exfalso
    have hall : s.arrived.length = n := hwithin
    have hbound := hs.asked
    rw [harrived, (hs.last _ hwaiting).2, Option.toList_none, List.append_nil] at hall
    rw [hwaiting, Option.toList_some, List.length_singleton] at hasked
    omega
  | closed f hwaiting => exact ⟨fun _ => trivial, fun _ => ⟨ms, harrived, hanswers, hasked⟩⟩

/-- A mailbox that has lost something stays so, as a lost message leaves an ask too few to answer,
or a message too few for the asks. -/
theorem lossless_of_step (h : step s e = some s') (hs : Sound base n s)
    (hlossless : Lossless base s') : Lossless base s := by
  obtain ⟨ms, harrived, hanswers, hasked⟩ := hlossless
  cases step_cases h with
  | passed m hopen hwaiting =>
    have hslot := (hs.last _ hwaiting).2
    simp only [hslot, Option.toList_none, List.append_nil] at harrived
    simp only [← harrived, inOrder_concat] at hanswers
    refine ⟨s.arrived, ?_, (List.append_inj' hanswers rfl).1, ?_⟩
    · rw [hslot, Option.toList_none, List.append_nil]
    · simp only [← harrived, List.length_append, List.length_singleton] at hasked
      rw [hasked, hwaiting]
      rfl
  | stored m hopen hwaiting =>
    obtain ⟨rfl, -⟩ := List.append_inj' harrived rfl
    have hmessages := hs.messages
    simp only at hanswers
    rw [hanswers, okCount_inOrder] at hmessages
    have hslot : s.slot.toList = [] := List.length_eq_zero_iff.mp (by omega)
    exact ⟨s.arrived, by rw [hslot, List.append_nil], hanswers, hasked⟩
  | drained r hwaiting hslot =>
    obtain ⟨ms', m', rfl, hanswers', hm⟩ := inOrder_eq_concat hanswers
    cases hm
    refine ⟨ms', ?_, hanswers', ?_⟩
    · rw [hslot]
      exact harrived.trans (List.append_nil _)
    · simp only [hwaiting, List.length_append, List.length_singleton] at hasked ⊢
      omega
  | waits r hwaiting hslot =>
    refine ⟨ms, harrived, hanswers, ?_⟩
    rw [hwaiting]
    exact Nat.succ.inj hasked
  | refused r hwaiting hslot =>
    obtain ⟨ms', m', -, -, hm⟩ := inOrder_eq_concat hanswers
    cases hm
  | lost hwaiting hslot =>
    exfalso
    have hasks := hs.asks
    simp only at hasked hanswers
    rw [hanswers, length_inOrder] at hasks
    omega
  | failed f hwaiting =>
    obtain ⟨ms', m', -, -, hm⟩ := inOrder_eq_concat hanswers
    cases hm
  | closed f hwaiting => exact ⟨ms, harrived, hanswers, hasked⟩

/-- After as many asks as messages, the asks are answered in order exactly when nothing is lost. -/
theorem Sound.answers_eq_iff (hs : Sound base n s) (hasked : s.asked = base + n)
    (harrived : s.arrived.length = n) :
    s.answers = inOrder ε base s.arrived ↔ Lossless base s := by
  constructor
  · intro hanswers
    have hmessages := hs.messages
    have hasks := hs.asks
    rw [hanswers, okCount_inOrder] at hmessages
    rw [hanswers, length_inOrder] at hasks
    have hslot : s.slot.toList = [] := List.length_eq_zero_iff.mp (by omega)
    refine ⟨s.arrived, by rw [hslot, List.append_nil], hanswers, by omega⟩
  · rintro ⟨ms, hms, hanswers, hcount⟩
    have hlength := congrArg List.length hms
    rw [List.length_append] at hlength
    have hslot : s.slot.toList = [] := by
      cases hwaiting : s.waiting with
      | some k => rw [(hs.last k hwaiting).2, Option.toList_none]
      | none =>
        rw [hwaiting, Option.toList_none, List.length_nil] at hcount
        exact List.length_eq_zero_iff.mp (by omega)
    rw [hslot, List.append_nil] at hms
    rw [hanswers, hms]

end

/-! ## Runs -/

/-- A mailbox to which nothing has happened yet, and whose next ask is `base`. -/
def State.init (base : Nat) (isOpen : Bool) : State ε α where
  slot := none
  waiting := none
  isOpen := isOpen
  asked := base
  answers := []
  arrived := []

/-- Nothing arrives at a closed mailbox, as messages come to open ones only and none is opened
again. -/
theorem arrived_of_closed {base : Nat} {s' : State ε α} {events : List (Event ε α)}
    (hrun : run step (State.init base false) events = some s') : s'.arrived = [] := by
  have h := run_invariant (P := fun s : State ε α => s.isOpen = false ∧ s.arrived = []) ?_ hrun
    ⟨rfl, rfl⟩
  · exact h.2
  · rintro s e s' hstep ⟨hclosed, hnone⟩
    cases step_cases hstep with
    | passed m hopen | stored m hopen =>
      rw [hclosed] at hopen
      cases hopen
    | failed | closed => exact ⟨rfl, hnone⟩
    | drained | waits | refused | lost => exact ⟨hclosed, hnone⟩

/-- **When a mailbox with one slot loses nothing.** In every run with as many asks as messages that
is closed after the last message only, the asks are answered by the messages, each in its place,
exactly when no event lost a message or an ask. -/
theorem answered_in_order_iff {base n : Nat} {isOpen : Bool} {s : State ε α}
    {events : List (Event ε α)}
    (hrun : run step (State.init base isOpen) events = some s)
    (hwithin : Along step (Within base n) (State.init base isOpen) events)
    (hasked : s.asked = base + n) (harrived : s.arrived.length = n) :
    s.answers = inOrder ε base s.arrived ↔ Along step Keeps (State.init base isOpen) events := by
  have hinit : Sound base n (State.init base isOpen : State ε α) := by
    refine ⟨nofun, Nat.le_refl _, Nat.le_refl _, Nat.le_add_right _ _, fun hlt => ?_⟩
    cases isOpen with
    | true => rfl
    | false =>
      rw [arrived_of_closed hrun] at harrived
      exact absurd harrived (Nat.ne_of_lt hlt)
  have hkeep : ∀ (s : State ε α) e s', Within base n s e → step s e = some s' →
      Sound base n s → Sound base n s' := fun s e s' hwithin hstep hs => hs.step hwithin hstep
  have hsound := run_invariant_along hkeep hwithin hrun hinit
  rw [hsound.answers_eq_iff hasked harrived]
  exact run_stays_iff hkeep (fun s e s' _ hstep hs => lossless_of_step hstep hs)
    (fun s e s' hwithin hstep hs => lossless_step_iff hwithin hstep hs) hwithin hrun hinit
    ⟨[], rfl, rfl, rfl⟩

end

end Mailbox
