import Mathlib.Logic.Basic

/-!
# Two runs of stateful code

Code with a state and exceptions is run twice, from related states. `Related` says that both runs
end the same way, in related states and with related values; the second may instead end in an
exception that is excused. The rules follow the constructs of the code.
-/

namespace Relational

section
variable {ε σ τ α β γ δ : Type} (S : σ → τ → Prop) (E : ε → Prop)

/-- Two results: related values in related states, the same exception in related states, or an
excused exception of the second run. -/
inductive Ends (V : α → β → Prop) : EStateM.Result ε σ α → EStateM.Result ε τ β → Prop where
  | ok {a : α} {b : β} {s : σ} {t : τ} (hv : V a b) (hs : S s t) : Ends V (.ok a s) (.ok b t)
  | error {e : ε} {s : σ} {t : τ} (hs : S s t) : Ends V (.error e s) (.error e t)
  | excused {r : EStateM.Result ε σ α} {e : ε} {t : τ} (he : E e) : Ends V r (.error e t)

/-- From related states, both computations end the same way, or the second in an exception that is
excused. -/
def Related (V : α → β → Prop) (x : EStateM ε σ α) (y : EStateM ε τ β) : Prop :=
  ∀ s t, S s t → Ends S E V (x s) (y t)

variable {S E} {V : α → β → Prop} {W : γ → δ → Prop}

theorem related_pure {a : α} {b : β} (h : V a b) :
    Related S E V (pure a : EStateM ε σ α) (pure b : EStateM ε τ β) :=
  fun _ _ hs => .ok h hs

theorem related_throw (e : ε) : Related S E V (throw e : EStateM ε σ α) (throw e : EStateM ε τ β) :=
  fun _ _ hs => .error hs

theorem related_get : Related S E S (get : EStateM ε σ σ) (get : EStateM ε τ τ) :=
  fun _ _ hs => .ok hs hs

theorem related_modify {f : σ → σ} {g : τ → τ} (h : ∀ s t, S s t → S (f s) (g t)) :
    Related S E Eq (modify f : EStateM ε σ PUnit) (modify g : EStateM ε τ PUnit) :=
  fun s t hs => .ok rfl (h s t hs)

/-- Two computations one after the other: the continuations have to agree on related values only. -/
theorem Related.bind {x : EStateM ε σ α} {y : EStateM ε τ β} {f : α → EStateM ε σ γ}
    {g : β → EStateM ε τ δ} (h : Related S E V x y)
    (hf : ∀ a b, V a b → Related S E W (f a) (g b)) : Related S E W (x >>= f) (y >>= g) := by
  intro s t hs
  have hend := h s t hs
  change Ends S E W (EStateM.bind x f s) (EStateM.bind y g t)
  rw [EStateM.bind, EStateM.bind]
  generalize x s = r at hend
  generalize y t = r' at hend
  cases hend with
  | ok hv hs' => exact hf _ _ hv _ _ hs'
  | error hs' => exact .error hs'
  | excused he => exact .excused he

end

end Relational
