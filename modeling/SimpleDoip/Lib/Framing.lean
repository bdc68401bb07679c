import Mathlib.Data.List.Basic

/-!
# Draining a growing buffer

A reader that cuts the front of a byte buffer into items, asks for more input or gives up, and
the loop that drains a buffer with it. Nothing here names a wire format: `Cutter` is any reader
whose verdicts are stable under more input, `drain` the loop that hands each item to a handler
until the buffer runs dry, the reader fails or the handler halts.

`drain_append` is the law everything else rests on: draining `s ++ t` is draining `s` and going on
with what `s` left. `feedAll_eq_drain` turns it into chunk independence, and `drain_eq_walk` splits
the loop into cutting the whole stream first (`cut`) and folding the handler over the items
(`walk`). `drain_invariant` is the induction rule for what every handled item preserves.
-/

namespace Framing

/-- What the front of a buffer reads as: nothing yet, a failure, or an item that takes up the
first `n` elements. -/
inductive Reading (ε β : Type) where
  | more
  | fail (e : ε)
  | item (b : β) (n : Nat)

/-- A reader whose items are non-empty and inside the buffer, and whose decisions no further input
revokes. -/
structure Cutter (α ε β : Type) where
  read : List α → Reading ε β
  item_pos : ∀ {s b n}, read s = .item b n → 0 < n
  item_le : ∀ {s b n}, read s = .item b n → n ≤ s.length
  item_append : ∀ {s b n}, read s = .item b n → ∀ t, read (s ++ t) = .item b n
  fail_append : ∀ {s e}, read s = .fail e → ∀ t, read (s ++ t) = .fail e

/-- What a handler does with one item: go on, or halt with a reason. -/
inductive Step (σ τ : Type) where
  | next (st : σ)
  | halt (st : σ) (t : τ)

/-- Why a drain ended: it waits for input, the reader failed, or the handler halted. -/
inductive Stop (ε τ : Type) where
  | waiting
  | failed (e : ε)
  | halted (t : τ)
deriving DecidableEq

section
variable {α β ε σ τ : Type} (c : Cutter α ε β) (f : σ → β → Step σ τ)

/-- Dropping an item leaves fewer elements, which is why a drain terminates. -/
theorem Cutter.drop_lt {s : List α} {b : β} {n : Nat} (h : c.read s = .item b n) :
    (s.drop n).length < s.length := by
  have h1 := c.item_pos h
  have h2 := c.item_le h
  simp only [List.length_drop]
  omega

/-- Drain `s`: hand its items to `f` in order, and return the state, the reason to stop and the
elements left. A failing or halting item is left in the buffer. -/
def drain (st : σ) (s : List α) : σ × Stop ε τ × List α :=
  match _hr : c.read s with
  | .more => (st, .waiting, s)
  | .fail e => (st, .failed e, s)
  | .item b n =>
    match f st b with
    | .halt st' t => (st', .halted t, s)
    | .next st' => drain st' (s.drop n)
termination_by s.length
decreasing_by exact c.drop_lt ‹_›

variable {c f}

/-- A buffer the reader cannot decide is left as it is, until more arrives. -/
theorem drain_more {st : σ} {s : List α} (h : c.read s = .more) :
    drain c f st s = (st, .waiting, s) := by
  rw [drain]; split <;> simp_all

/-- A failing reader stops the drain and consumes nothing. -/
theorem drain_fail {st : σ} {s : List α} {e : ε} (h : c.read s = .fail e) :
    drain c f st s = (st, .failed e, s) := by
  rw [drain]; split <;> simp_all

/-- A halting handler stops the drain and leaves its item in the buffer. -/
theorem drain_halt {st st' : σ} {s : List α} {b : β} {n : Nat} {t : τ}
    (h : c.read s = .item b n) (hf : f st b = .halt st' t) :
    drain c f st s = (st', .halted t, s) := by
  rw [drain]; split <;> simp_all

/-- A handled item is dropped from the buffer and the drain goes on. -/
theorem drain_next {st st' : σ} {s : List α} {b : β} {n : Nat}
    (h : c.read s = .item b n) (hf : f st b = .next st') :
    drain c f st s = drain c f st' (s.drop n) := by
  rw [drain]; split <;> simp_all

/-- Induction along a drain: one case for each way the front of the buffer reads. -/
theorem drain_induction {motive : σ → List α → Prop}
    (more : ∀ st s, c.read s = .more → motive st s)
    (fail : ∀ st s e, c.read s = .fail e → motive st s)
    (halt : ∀ st s b n st' t, c.read s = .item b n → f st b = .halt st' t → motive st s)
    (next : ∀ st s b n st', c.read s = .item b n → f st b = .next st' →
      motive st' (s.drop n) → motive st s)
    (st : σ) (s : List α) : motive st s := by
  induction hl : s.length using Nat.strongRecOn generalizing st s with
  | ind k ih =>
    cases hr : c.read s with
    | more => exact more st s hr
    | fail e => exact fail st s e hr
    | item b n =>
      cases hf : f st b with
      | halt st' t => exact halt st s b n st' t hr hf
      | next st' =>
        exact next st s b n st' hr hf (ih _ (hl ▸ c.drop_lt hr) st' (s.drop n) rfl)

/-- **Draining a concatenation.** A drain that waits goes on with what it left; a drain that
stopped stays stopped, whatever follows. -/
theorem drain_append (st : σ) (s t : List α) :
    drain c f st (s ++ t) =
      match drain c f st s with
      | (st', .waiting, r) => drain c f st' (r ++ t)
      | (st', stop, r) => (st', stop, r ++ t) := by
  induction st, s using drain_induction (c := c) (f := f) with
  | more st s h => rw [drain_more h]
  | fail st s e h => rw [drain_fail h, drain_fail (c.fail_append h t)]
  | halt st s b n st' w h hf => rw [drain_halt h hf, drain_halt (c.item_append h t) hf]
  | next st s b n st' h hf ih =>
    rw [drain_next h hf, drain_next (c.item_append h t) hf, ← ih,
      List.drop_append_of_le_length (c.item_le h)]

/-- What a waiting drain left is undecided: there is no complete item in it. -/
theorem read_of_drain_waiting {st st' : σ} {s r : List α}
    (h : drain c f st s = (st', .waiting, r)) : c.read r = .more := by
  induction st, s using drain_induction (c := c) (f := f) with
  | more st s hr => rw [drain_more hr] at h; cases h; exact hr
  | fail st s e hr => rw [drain_fail hr] at h; cases h
  | halt st s b n st'' t hr hf => rw [drain_halt hr hf] at h; cases h
  | next st s b n st'' hr hf ih => rw [drain_next hr hf] at h; exact ih h

/-- **The invariant rule of a drain.** A relation between the state and what is left in the buffer
survives a drain if it survives every item, whether the handler goes on or halts. -/
theorem drain_invariant {P : σ → List α → Prop}
    (hnext : ∀ st s b n st', c.read s = .item b n → f st b = .next st' → P st s →
      P st' (s.drop n))
    (hhalt : ∀ st s b n st' t, c.read s = .item b n → f st b = .halt st' t → P st s → P st' s)
    {st : σ} {s : List α} (hP : P st s) : P (drain c f st s).1 (drain c f st s).2.2 := by
  induction st, s using drain_induction (c := c) (f := f) with
  | more st s hr => rw [drain_more hr]; exact hP
  | fail st s e hr => rw [drain_fail hr]; exact hP
  | halt st s b n st' t hr hf => rw [drain_halt hr hf]; exact hhalt st s b n st' t hr hf hP
  | next st s b n st' hr hf ih =>
    rw [drain_next hr hf]
    exact ih (hnext st s b n st' hr hf hP)

/-- Two outcomes of a handler that agree up to a relation between the states. -/
inductive Step.Alike (R : σ → σ → Prop) : Step σ τ → Step σ τ → Prop where
  | next {x y : σ} (h : R x y) : Alike R (.next x) (.next y)
  | halt {x y : σ} (h : R x y) (t : τ) : Alike R (.halt x t) (.halt y t)

/-- **Two drains of one buffer** stay related if every item keeps the states related: they stop for
the same reason and leave the same bytes. -/
theorem drain_alike {R : σ → σ → Prop} (hf : ∀ x y b, R x y → Step.Alike R (f x b) (f y b))
    {x y : σ} (h : R x y) (s : List α) :
    R (drain c f x s).1 (drain c f y s).1 ∧ (drain c f x s).2 = (drain c f y s).2 := by
  induction x, s using drain_induction (c := c) (f := f) generalizing y with
  | more x s hr =>
    rw [drain_more hr, drain_more hr]
    exact ⟨h, rfl⟩
  | fail x s e hr =>
    rw [drain_fail hr, drain_fail hr]
    exact ⟨h, rfl⟩
  | halt x s b n x' t hr hx =>
    have hb := hf x y b h
    rw [hx] at hb
    generalize hy : f y b = outcome at hb
    cases hb with
    | halt h' =>
      rw [drain_halt hr hx, drain_halt hr hy]
      exact ⟨h', rfl⟩
  | next x s b n x' hr hx ih =>
    have hb := hf x y b h
    rw [hx] at hb
    generalize hy : f y b = outcome at hb
    cases hb with
    | next h' =>
      rw [drain_next hr hx, drain_next hr hy]
      exact ih h'

/-- What a drain left is a suffix of what it was given: elements are consumed from the front
only. -/
theorem drain_suffix (st : σ) (s : List α) : (drain c f st s).2.2 <:+ s :=
  drain_invariant (P := fun _ r => r <:+ s)
    (fun _ r _ n _ _ _ h => (List.drop_suffix n r).trans h) (fun _ _ _ _ _ _ _ _ h => h)
    List.suffix_rfl

/-! ## Feeding chunk by chunk -/

variable (c f) in
/-- Feed the chunks in order, each appended to what the last drain left, until a drain stops for
another reason than missing input. The last component is what was never fed. -/
def feedAll (st : σ) (r : List α) : List (List α) → σ × Stop ε τ × List α × List (List α)
  | [] => (st, .waiting, r, [])
  | chunk :: rest =>
    match drain c f st (r ++ chunk) with
    | (st', .waiting, r') => feedAll st' r' rest
    | (st', stop, r') => (st', stop, r', rest)

/-- **Chunk independence.** Feeding chunk by chunk ends in the state and for the reason of one
drain of the whole stream, and what it left followed by what it was never fed is what that drain
leaves. -/
theorem feedAll_eq_drain (st : σ) {r : List α} (hr : c.read r = .more)
    (chunks : List (List α)) :
    drain c f st (r ++ chunks.flatten) =
      ((feedAll c f st r chunks).1, (feedAll c f st r chunks).2.1,
        (feedAll c f st r chunks).2.2.1 ++ (feedAll c f st r chunks).2.2.2.flatten) := by
  induction chunks generalizing st r with
  | nil => simp [feedAll, drain_more hr]
  | cons chunk rest ih =>
    rw [List.flatten_cons, ← List.append_assoc, drain_append, feedAll]
    rcases hd : drain c f st (r ++ chunk) with ⟨st', stop, r'⟩
    cases stop with
    | waiting => exact ih st' (read_of_drain_waiting hd)
    | failed e => rfl
    | halted t => rfl

/-- What was fed is a prefix of the chunks, and feeding it is one drain of it. Only a drain that
stopped leaves chunks unfed. -/
theorem feedAll_fed (st : σ) {r : List α} (hr : c.read r = .more) (chunks : List (List α)) :
    ∃ fed, chunks = fed ++ (feedAll c f st r chunks).2.2.2 ∧
      ((feedAll c f st r chunks).2.1 = .waiting → (feedAll c f st r chunks).2.2.2 = []) ∧
      drain c f st (r ++ fed.flatten) =
        ((feedAll c f st r chunks).1, (feedAll c f st r chunks).2.1,
          (feedAll c f st r chunks).2.2.1) := by
  induction chunks generalizing st r with
  | nil => exact ⟨[], rfl, fun _ => rfl, by simp [feedAll, drain_more hr]⟩
  | cons chunk rest ih =>
    rw [feedAll]
    rcases hd : drain c f st (r ++ chunk) with ⟨st', stop, r'⟩
    cases stop with
    | waiting =>
      obtain ⟨fed, hfed, hw, hdrain⟩ := ih st' (read_of_drain_waiting hd)
      refine ⟨chunk :: fed, by rw [List.cons_append, ← hfed], hw, ?_⟩
      rw [List.flatten_cons, ← List.append_assoc, drain_append, hd]
      exact hdrain
    | failed e => exact ⟨[chunk], rfl, nofun, by simpa using hd⟩
    | halted t => exact ⟨[chunk], rfl, nofun, by simpa using hd⟩

/-! ## Cutting first, folding after -/

variable (c) in
/-- Cut a whole stream: its items, each with the stream from that item on, then the reader's
failure if there is one, and the elements left. -/
def cut (s : List α) : List (β × List α) × Option ε × List α :=
  match _hr : c.read s with
  | .more => ([], none, s)
  | .fail e => ([], some e, s)
  | .item b n =>
    let (items, e, r) := cut (s.drop n)
    ((b, s) :: items, e, r)
termination_by s.length
decreasing_by exact c.drop_lt ‹_›

theorem cut_more {s : List α} (h : c.read s = .more) : cut c s = ([], none, s) := by
  rw [cut]
  split
  · rfl
  · next hr => rw [h] at hr; cases hr
  · next hr => rw [h] at hr; cases hr

theorem cut_fail {s : List α} {e : ε} (h : c.read s = .fail e) :
    cut c s = ([], some e, s) := by
  rw [cut]
  split
  · next hr => rw [h] at hr; cases hr
  · next hr => rw [h] at hr; cases hr; rfl
  · next hr => rw [h] at hr; cases hr

/-- The first item of a stream, and the cut of what is behind it. -/
theorem cut_item {s : List α} {b : β} {n : Nat} (h : c.read s = .item b n) :
    cut c s = ((b, s) :: (cut c (s.drop n)).1, (cut c (s.drop n)).2) := by
  rw [cut]
  split
  · next hr => rw [h] at hr; cases hr
  · next hr => rw [h] at hr; cases hr
  · next hr => rw [h] at hr; cases hr; rfl

variable (c) in
/-- The items a stream is cut into, without the places where they were found. -/
def items (s : List α) : List β := (cut c s).1.map Prod.fst

/-- The first item of a stream, and those behind it, by the cut of the rest. -/
theorem items_of_read {s : List α} {b : β} {n : Nat} (h : c.read s = .item b n) :
    items c s = b :: items c (s.drop n) := by
  rw [items, cut_item h]
  rfl

/-- The stop a stream that was handled to its end has: it waits for more, or has failed. -/
def Stop.ofEnd : Option ε → Stop ε τ
  | none => .waiting
  | some e => .failed e

variable (f) in
/-- Fold the handler over the items of a cut stream, leaving a halting item and all after it. -/
def walk (st : σ) : List (β × List α) × Option ε × List α → σ × Stop ε τ × List α
  | ([], e, r) => (st, Stop.ofEnd e, r)
  | ((b, s) :: items, e, r) =>
    match f st b with
    | .halt st' t => (st', .halted t, s)
    | .next st' => walk st' (items, e, r)

/-- A drain is the cut of the whole stream followed by the fold over its items. -/
theorem drain_eq_walk (st : σ) (s : List α) : drain c f st s = walk f st (cut c s) := by
  induction st, s using drain_induction (c := c) (f := f) with
  | more st s hr =>
    rw [drain_more hr, cut_more hr, walk, Stop.ofEnd]
  | fail st s e hr =>
    rw [drain_fail hr, cut_fail hr, walk, Stop.ofEnd]
  | halt st s b n st' t hr hf =>
    rw [drain_halt hr hf, cut_item hr, walk, hf]
  | next st s b n st' hr hf ih =>
    rw [drain_next hr hf, ih, cut_item hr, walk, hf]

end

end Framing
