import Mathlib.Data.List.Infix

/-!
# Counting in a log

Some entries of a log are marked: they count, or they start the count again. `count` is the number
of entries that count since the last one that starts again, and `Within` says that it has stayed
below a bound at all times. A counter of a fixed range that is driven by the same entries shows the
count modulo its range; as long as the count has stayed below the range it shows the count itself,
and the next increment is in range exactly if the count stays below (`within_append_one_iff`).
-/

namespace Counter

/-- What a marked entry does to the count: it counts as one, or starts the count again. -/
inductive Mark where
  | one
  | reset
deriving DecidableEq

def Mark.advance (n : Nat) : Mark → Nat
  | .one => n + 1
  | .reset => 0

section
variable {α : Type} (mark : α → Option Mark)

/-- The entries that count since the last reset, or since the start of the log. -/
def count (log : List α) : Nat := (log.filterMap mark).foldl Mark.advance 0

/-- The count has been below the bound at all times, that is, for every beginning of the log. -/
def Within (bound : Nat) (log : List α) : Prop :=
  ∀ logged, logged <+: log → count mark logged < bound

instance (bound : Nat) (log : List α) : Decidable (Within mark bound log) :=
  decidable_of_iff (∀ logged ∈ log.inits, count mark logged < bound)
    (by simp only [List.mem_inits, Within])

variable {mark} {bound : Nat} {log entries : List α} {m : Mark}

theorem within_nil (h : 0 < bound) : Within mark bound [] := by
  intro logged hlogged
  rw [List.prefix_nil.mp hlogged]
  exact h

theorem Within.count_lt (h : Within mark bound log) : count mark log < bound :=
  h log List.prefix_rfl

theorem count_append_quiet (h : entries.filterMap mark = []) :
    count mark (log ++ entries) = count mark log := by
  rw [count, List.filterMap_append, h, List.append_nil]
  rfl

theorem count_append_marked (h : entries.filterMap mark = [m]) :
    count mark (log ++ entries) = m.advance (count mark log) := by
  rw [count, List.filterMap_append, h, List.foldl_append]
  rfl

/-- At all times of a log that went on: at all times before, and since, with each beginning of the
new entries. -/
theorem within_append_iff :
    Within mark bound (log ++ entries) ↔ Within mark bound log ∧
      ∀ since, since <+: entries → count mark (log ++ since) < bound := by
  constructor
  · intro h
    refine ⟨fun logged hlogged => h logged (hlogged.trans (List.prefix_append _ _)), ?_⟩
    exact fun since hsince => h _ ((List.prefix_append_right_inj log).mpr hsince)
  · rintro ⟨hlog, hsince⟩ logged hlogged
    rcases List.prefix_or_prefix_of_prefix hlogged (List.prefix_append log entries) with
      hbefore | ⟨since, rfl⟩
    · exact hlog logged hbefore
    · exact hsince since ((List.prefix_append_right_inj log).mp hlogged)

/-- Entries without a mark do not change whether the count stayed below the bound. -/
theorem within_append_quiet (h : entries.filterMap mark = []) :
    Within mark bound (log ++ entries) ↔ Within mark bound log := by
  rw [within_append_iff]
  refine ⟨And.left, fun hlog => ⟨hlog, fun since hsince => ?_⟩⟩
  have hquiet : since.filterMap mark = [] := by
    rw [← List.prefix_nil, ← h]
    exact hsince.filterMap mark
  rw [count_append_quiet hquiet]
  exact hlog.count_lt

/-- Entries with one mark among them, wherever it is, change the count once. -/
theorem within_append_marked (h : entries.filterMap mark = [m]) :
    Within mark bound (log ++ entries) ↔
      Within mark bound log ∧ m.advance (count mark log) < bound := by
  rw [within_append_iff]
  refine and_congr_right fun hlog => ⟨fun hall => ?_, fun hlt since hsince => ?_⟩
  · rw [← count_append_marked h]
    exact hall entries List.prefix_rfl
  · -- what has been logged so far has the mark or does not have it yet
    have hmarks : since.filterMap mark <+: [m] := h ▸ hsince.filterMap mark
    rcases List.prefix_cons_iff.mp hmarks with hnone | ⟨rest, hone, hrest⟩
    · rw [count_append_quiet hnone]
      exact hlog.count_lt
    · rw [List.prefix_nil.mp hrest] at hone
      rw [count_append_marked hone]
      exact hlt

/-- **An increment is in range exactly if the count is**: for a counter that shows the count modulo
its range, of a log in which the count has stayed in the range. -/
theorem within_append_one_iff {shown : Nat} (hlog : Within mark bound log)
    (hshown : shown = count mark log % bound) (h : entries.filterMap mark = [.one]) :
    Within mark bound (log ++ entries) ↔ shown + 1 < bound := by
  rw [within_append_marked h, hshown, Nat.mod_eq_of_lt hlog.count_lt]
  exact ⟨And.right, fun hlt => ⟨hlog, hlt⟩⟩

end

end Counter
