import Mathlib.Data.List.Basic

/-!
# How much input a decoder needs

A decoder reads one field after the other off the front of its input and hands on the rest. `Needs`
says that it fails exactly on inputs shorter than `n`, and how it fails there. The requirement of a
decoder is the sum of those of its fields: `Takes.bind` is the rule for one field more.
-/

namespace Reader

section
variable {ε α β γ : Type} {bad : ε → Prop} {good : γ → Prop} {n m available : Nat}

/-- The result of decoding an input of length `available` that should have at least `n` elements:
a `good` value, or a `bad` error if the input is too short. -/
structure Needs (bad : ε → Prop) (good : γ → Prop) (n available : Nat) (result : Except ε γ) :
    Prop where
  short : available < n → ∃ e, bad e ∧ result = .error e
  long : n ≤ available → ∃ c, good c ∧ result = .ok c

/-- The result of a reader that takes `n` elements off its input and hands on the rest. -/
def Takes (bad : ε → Prop) (n available : Nat) (result : Except ε (α × List β)) : Prop :=
  Needs bad (fun x => x.2.length + n = available) n available result

theorem Needs.ok {c : γ} (h : good c) : Needs bad good 0 available (.ok c) where
  short hlen := absurd hlen (Nat.not_lt_zero _)
  long _ := ⟨c, h, rfl⟩

/-- Input that ends within a field, or within what the next decoder needs, is too short. -/
theorem Takes.bind_short {read : Except ε (α × List β)} {next : α × List β → Except ε γ}
    (h : Takes bad n available read)
    (hnext : ∀ a rest, rest.length < m → ∃ e, bad e ∧ next (a, rest) = .error e)
    (hlen : available < n + m) : ∃ e, bad e ∧ read >>= next = .error e := by
  by_cases hs : available < n
  · obtain ⟨e, he, hread⟩ := h.short hs
    exact ⟨e, he, by rw [hread]; rfl⟩
  · obtain ⟨⟨a, rest⟩, hrest, hread⟩ := h.long (Nat.le_of_not_lt hs)
    obtain ⟨e, he, hdecode⟩ := hnext a rest (by simp only at hrest; omega)
    exact ⟨e, he, by rw [hread]; exact hdecode⟩

/-- **One field more**: a reader, and a decoder for what it hands on, need what both need
together. -/
theorem Takes.bind {read : Except ε (α × List β)} {next : α × List β → Except ε γ}
    (h : Takes bad n available read)
    (hnext : ∀ a rest, Needs bad good m rest.length (next (a, rest))) :
    Needs bad good (n + m) available (read >>= next) where
  short := h.bind_short fun a rest => (hnext a rest).short
  long hlen := by
    obtain ⟨⟨a, rest⟩, hrest, hread⟩ := h.long (by omega)
    obtain ⟨c, hc, hdecode⟩ := (hnext a rest).long (by simp only at hrest; omega)
    exact ⟨c, hc, by rw [hread]; exact hdecode⟩

/-- What is made of a decoded value does not change what the decoder needs. -/
theorem Needs.map {δ : Type} {result : Except ε γ} (f : γ → δ)
    (h : Needs bad good n available result) :
    Needs bad (fun _ => True) n available (result >>= fun c => .ok (f c)) where
  short hlen := by
    obtain ⟨e, he, hresult⟩ := h.short hlen
    exact ⟨e, he, by rw [hresult]; rfl⟩
  long hlen := by
    obtain ⟨c, -, hresult⟩ := h.long hlen
    exact ⟨f c, trivial, by rw [hresult]; rfl⟩

/-- A decoder succeeds exactly on inputs that are long enough, whatever is in them. -/
theorem Needs.ok_iff {result : Except ε γ} (h : Needs bad good n available result) :
    (∃ c, result = .ok c) ↔ n ≤ available := by
  constructor
  · rintro ⟨c, hc⟩
    by_contra hlen
    obtain ⟨e, -, he⟩ := h.short (Nat.lt_of_not_le hlen)
    cases hc.symm.trans he
  · intro hlen
    obtain ⟨c, -, hc⟩ := h.long hlen
    exact ⟨c, hc⟩

/-- A decoder fails exactly on inputs that are too short, whatever is in them. -/
theorem Needs.error_iff {result : Except ε γ} (h : Needs bad good n available result) :
    (∃ e, result = .error e) ↔ available < n := by
  constructor
  · rintro ⟨e, he⟩
    by_contra hlen
    obtain ⟨c, -, hc⟩ := h.long (Nat.le_of_not_lt hlen)
    cases hc.symm.trans he
  · intro hlen
    obtain ⟨e, -, he⟩ := h.short hlen
    exact ⟨e, he⟩

end

end Reader
