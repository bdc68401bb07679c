import Mathlib.Data.List.Basic
import Mathlib.Data.List.Induction

/-!
# Runs of a transition system

A system is a step function `σ → α → Option σ`: `none` means that the action cannot happen in that
state. `run` performs a list of actions, and the rules below turn a fact about one step into a fact
about every run.
-/

namespace Transition

section
variable {σ α : Type} {step : σ → α → Option σ} {P : σ → Prop}

variable (step) in
/-- Perform the actions in order. There is no result if one of them cannot be performed. -/
def run (s : σ) (as : List α) : Option σ := as.foldlM step s

theorem run_cons (s : σ) (a : α) (as : List α) :
    run step s (a :: as) = (step s a).bind fun s' => run step s' as := rfl

/-- **The invariant rule**, for steps that always happen: every run ends, and ends in the
invariant. -/
theorem run_total (hstep : ∀ s a, P s → ∃ s', step s a = some s' ∧ P s') {s : σ} (hs : P s)
    (as : List α) : ∃ s', run step s as = some s' ∧ P s' := by
  induction as generalizing s with
  | nil => exact ⟨s, rfl, hs⟩
  | cons a as ih =>
    obtain ⟨s₁, h₁, hP⟩ := hstep s a hs
    obtain ⟨s', hrun, hP'⟩ := ih hP
    exact ⟨s', by rw [run_cons, h₁]; exact hrun, hP'⟩

/-- A run of closed terms can be looked at by evaluating it: it ends, and with the property that was
found. -/
theorem exists_of_any_run [DecidablePred P] {s : σ} {as : List α}
    (h : (run step s as).any (fun s' => decide (P s')) = true) :
    ∃ s', run step s as = some s' ∧ P s' := by
  obtain ⟨hsome, hP⟩ := (Option.any_eq_true_iff_get _ _).mp h
  exact ⟨_, (Option.some_get hsome).symm, of_decide_eq_true hP⟩

/-- A part of the state that a closed run ends in can be evaluated likewise, where it is there only
sometimes. -/
theorem exists_of_any_part {τ : Type} (f : σ → Option τ) {Q : σ → τ → Prop}
    [∀ s t, Decidable (Q s t)] {s : σ} {as : List α}
    (h : (run step s as).any (fun s' => (f s').any fun t => decide (Q s' t)) = true) :
    ∃ s' t, run step s as = some s' ∧ f s' = some t ∧ Q s' t := by
  obtain ⟨hrun, hpart⟩ := (Option.any_eq_true_iff_get _ _).mp h
  obtain ⟨hsome, hQ⟩ := (Option.any_eq_true_iff_get _ _).mp hpart
  exact ⟨_, _, (Option.some_get hrun).symm, (Option.some_get hsome).symm, of_decide_eq_true hQ⟩

/-- A property of a step that holds of every step of a run: in the state before it, for its
action. -/
def Along (step : σ → α → Option σ) (G : σ → α → Prop) : σ → List α → Prop
  | _, [] => True
  | s, a :: as => G s a ∧ ∀ s', step s a = some s' → Along step G s' as

/-- **The invariant rule**, for runs whose steps all meet `G`, a condition on the action and the
state before it. -/
theorem run_invariant_along {G : σ → α → Prop}
    (hstep : ∀ s a s', G s a → step s a = some s' → P s → P s') {s s' : σ} {as : List α}
    (hG : Along step G s as) (hrun : run step s as = some s') (hs : P s) : P s' := by
  induction as generalizing s with
  | nil =>
    cases hrun
    exact hs
  | cons a as ih =>
    obtain ⟨hGa, hGas⟩ := hG
    rw [run_cons] at hrun
    obtain ⟨s₁, h₁, hrun⟩ := Option.bind_eq_some_iff.mp hrun
    exact ih (hGas s₁ h₁) hrun (hstep s a s₁ hGa h₁ hs)

theorem along_cons {G : σ → α → Prop} {s s' : σ} {a : α} {as : List α} (hG : G s a)
    (hstep : step s a = some s') (h : Along step G s' as) : Along step G s (a :: as) := by
  refine ⟨hG, fun s₁ h₁ => ?_⟩
  rw [hstep] at h₁
  cases h₁
  exact h

theorem Along.imp {G G' : σ → α → Prop} {s : σ} {as : List α} (h : Along step G s as)
    (himp : ∀ s a, G s a → G' s a) : Along step G' s as := by
  induction as generalizing s with
  | nil => trivial
  | cons a as ih => exact ⟨himp s a h.1, fun s' hstep => ih (h.2 s' hstep)⟩

/-- What holds along two runs holds along the one after the other, from where the first one ends. -/
theorem Along.append {G : σ → α → Prop} {s s' : σ} {as bs : List α} (h : Along step G s as)
    (hrun : run step s as = some s') (h' : Along step G s' bs) : Along step G s (as ++ bs) := by
  induction as generalizing s with
  | nil =>
    cases hrun
    exact h'
  | cons a as ih =>
    rw [run_cons] at hrun
    obtain ⟨s₁, h₁, hrun⟩ := Option.bind_eq_some_iff.mp hrun
    exact along_cons h.1 h₁ (ih (h.2 s₁ h₁) hrun)

/-- What holds of each action holds along every run of them, whatever states it passes. -/
theorem along_of_forall {A : α → Prop} {as : List α} (h : ∀ a ∈ as, A a) (s : σ) :
    Along step (fun _ a => A a) s as := by
  induction as generalizing s with
  | nil => trivial
  | cons a as ih =>
    exact ⟨h a List.mem_cons_self, fun s' _ => ih (fun b hb => h b (List.mem_cons_of_mem a hb)) s'⟩

theorem along_true (s : σ) (as : List α) : Along step (fun _ _ => True) s as :=
  along_of_forall (fun _ _ => trivial) s

/-- **The invariant rule**: what every step preserves, every run preserves. -/
theorem run_invariant (hstep : ∀ s a s', step s a = some s' → P s → P s') {s s' : σ} {as : List α}
    (hrun : run step s as = some s') (hs : P s) : P s' :=
  run_invariant_along (fun s a s' _ => hstep s a s') (along_true s as) hrun hs

/-- **The termination rule**: where every step keeps the invariant and uses up some of a measure, if
it is one that counts, a run has at most as many of those as it started with. -/
theorem run_measure {μ : σ → Nat} {p : α → Bool}
    (hstep : ∀ s a s', step s a = some s' → P s →
      P s' ∧ μ s' + (if p a = true then 1 else 0) ≤ μ s)
    {s s' : σ} {as : List α} (hrun : run step s as = some s') (hs : P s) :
    P s' ∧ μ s' + as.countP p ≤ μ s := by
  induction as generalizing s with
  | nil =>
    cases hrun
    exact ⟨hs, Nat.le_refl _⟩
  | cons a as ih =>
    rw [run_cons] at hrun
    obtain ⟨s₁, h₁, hrun⟩ := Option.bind_eq_some_iff.mp hrun
    obtain ⟨hP, hle⟩ := hstep s a s₁ h₁ hs
    obtain ⟨hP', hle'⟩ := ih hrun hP
    refine ⟨hP', ?_⟩
    rw [List.countP_cons]
    omega

/-- **The completion rule**: under the same condition, every state has a run after which no step
that counts can happen. -/
theorem exists_run_to_end {μ : σ → Nat} {p : α → Bool}
    (hstep : ∀ s a s', step s a = some s' → P s →
      P s' ∧ μ s' + (if p a = true then 1 else 0) ≤ μ s)
    {s : σ} (hs : P s) :
    ∃ as s', run step s as = some s' ∧ ∀ a, p a = true → step s' a = none := by
  induction hμ : μ s using Nat.strongRecOn generalizing s with
  | ind n ih =>
    by_cases hend : ∀ a, p a = true → step s a = none
    · exact ⟨[], s, rfl, hend⟩
    · obtain ⟨a, ha⟩ := not_forall.mp hend
      obtain ⟨hp, hne⟩ := Classical.not_imp.mp ha
      obtain ⟨s₁, h₁⟩ := Option.ne_none_iff_exists'.mp hne
      obtain ⟨hP, hle⟩ := hstep s a s₁ h₁ hs
      rw [if_pos hp] at hle
      obtain ⟨as, s', hrun, hend'⟩ := ih (μ s₁) (by omega) hP rfl
      refine ⟨a :: as, s', ?_, hend'⟩
      rw [run_cons, h₁]
      exact hrun

/-- The termination rule where every step counts: no run has more steps than the measure has. -/
theorem run_length_le {μ : σ → Nat}
    (hstep : ∀ s a s', step s a = some s' → P s → P s' ∧ μ s' < μ s) {s s' : σ} {as : List α}
    (hrun : run step s as = some s') (hs : P s) : P s' ∧ as.length ≤ μ s := by
  have hcount : ∀ s a s', step s a = some s' → P s →
      P s' ∧ μ s' + (if (fun _ => true) a = true then 1 else 0) ≤ μ s := hstep
  obtain ⟨hP, hle⟩ := run_measure (p := fun _ => true) hcount hrun hs
  rw [List.countP_true] at hle
  exact ⟨hP, Nat.le_trans (Nat.le_add_left _ _) hle⟩

/-- The completion rule where every step counts: some run cannot be continued. -/
theorem exists_run_to_stop {μ : σ → Nat}
    (hstep : ∀ s a s', step s a = some s' → P s → P s' ∧ μ s' < μ s) {s : σ} (hs : P s) :
    ∃ as s', run step s as = some s' ∧ ∀ a, step s' a = none := by
  have hcount : ∀ s a s', step s a = some s' → P s →
      P s' ∧ μ s' + (if (fun _ => true) a = true then 1 else 0) ≤ μ s := hstep
  obtain ⟨as, s', hrun, hend⟩ := exists_run_to_end (p := fun _ => true) hcount hs
  exact ⟨as, s', hrun, fun a => hend a rfl⟩

theorem run_append (s : σ) (as bs : List α) :
    run step s (as ++ bs) = (run step s as).bind fun s' => run step s' bs :=
  List.foldlM_append

theorem run_append_singleton (s : σ) (as : List α) (a : α) :
    run step s (as ++ [a]) = (run step s as).bind fun s' => step s' a := by
  rw [run_append]
  change ((run step s as).bind fun s' => (step s' a).bind some) = _
  simp only [Option.bind_fun_some]

theorem run_singleton (s : σ) (a : α) : run step s [a] = step s a :=
  run_append_singleton s [] a

/-- A run goes on with one more step at its end. -/
theorem run_snoc {s s' s'' : σ} {as : List α} {a : α} (hrun : run step s as = some s')
    (h : step s' a = some s'') : run step s (as ++ [a]) = some s'' := by
  rw [run_append_singleton, hrun]
  exact h

/-- **The invariant rule**, for what relates a state to the run that led to it. -/
theorem run_history {P : List α → σ → Prop} {s s' : σ} {as : List α}
    (hstep : ∀ as s₁ a s₂, run step s as = some s₁ → step s₁ a = some s₂ → P as s₁ →
      P (as ++ [a]) s₂)
    (hrun : run step s as = some s') (hs : P [] s) : P as s' := by
  induction as using List.reverseRecOn generalizing s' with
  | nil =>
    cases hrun
    exact hs
  | append_singleton as a ih =>
    rw [run_append_singleton] at hrun
    obtain ⟨s₁, h₁, h⟩ := Option.bind_eq_some_iff.mp hrun
    exact hstep as s₁ a s' h₁ h (ih h₁)

/-! ## Reaching a state -/

variable (step) in
/-- Actions that meet `A` can lead from `s` to a state of `P`, possibly none at all. -/
def Leads (A : α → Prop) (P : σ → Prop) (s : σ) : Prop :=
  ∃ as s', run step s as = some s' ∧ (∀ a ∈ as, A a) ∧ P s'

section
variable {A : α → Prop} {Q : σ → Prop} {s s' : σ} {a : α}

theorem Leads.here (h : P s) : Leads step A P s :=
  ⟨[], s, rfl, fun _ ha => absurd ha List.not_mem_nil, h⟩

theorem Leads.next (ha : A a) (hstep : step s a = some s') (h : Leads step A P s') :
    Leads step A P s := by
  obtain ⟨as, s'', hrun, has, hP⟩ := h
  refine ⟨a :: as, s'', ?_, ?_, hP⟩
  · rw [run_cons, hstep]
    exact hrun
  · intro b hb
    rcases List.mem_cons.mp hb with rfl | hb
    · exact ha
    · exact has b hb

/-- **The rule of sequence**: a state of `P` can be reached, and from each of these one of `Q`. -/
theorem Leads.trans (h : Leads step A P s) (hQ : ∀ s', P s' → Leads step A Q s') :
    Leads step A Q s := by
  obtain ⟨as, s', hrun, has, hP⟩ := h
  obtain ⟨bs, s'', hrun', hbs, hQ⟩ := hQ s' hP
  refine ⟨as ++ bs, s'', ?_, ?_, hQ⟩
  · rw [run_append, hrun]
    exact hrun'
  · intro a ha
    rcases List.mem_append.mp ha with ha | ha
    · exact has a ha
    · exact hbs a ha

/-- What leads somewhere in a part of the system does so in the whole: `g` puts a state of the part
in its place, and `b` is how the whole takes an action of the part. -/
theorem Leads.lift {τ β : Type} {step' : τ → β → Option τ} {B : β → Prop} {g : σ → τ} {b : α → β}
    (hstep : ∀ s a s', A a → step s a = some s' → step' (g s) (b a) = some (g s') ∧ B (b a))
    (h : Leads step A P s) : Leads step' B (fun t => ∃ s', t = g s' ∧ P s') (g s) := by
  obtain ⟨as, s', hrun, has, hP⟩ := h
  induction as generalizing s with
  | nil =>
    cases hrun
    exact .here ⟨_, rfl, hP⟩
  | cons a as ih =>
    rw [run_cons] at hrun
    obtain ⟨s₁, h₁, hrun⟩ := Option.bind_eq_some_iff.mp hrun
    obtain ⟨h₁', hB⟩ := hstep s a s₁ (has a List.mem_cons_self) h₁
    exact .next hB h₁' (ih hrun fun a' ha' => has a' (List.mem_cons_of_mem a ha'))

end

/-! ## Two runs -/

/-- `bs` is `as` with further actions put in anywhere, all of them `H`. -/
inductive Inserted (H : α → Prop) : List α → List α → Prop where
  | nil : Inserted H [] []
  | keep (a : α) {as bs : List α} (h : Inserted H as bs) : Inserted H (a :: as) (a :: bs)
  | insert {b : α} (hb : H b) {as bs : List α} (h : Inserted H as bs) : Inserted H as (b :: bs)

theorem Inserted.refl (H : α → Prop) (as : List α) : Inserted H as as := by
  induction as with
  | nil => exact .nil
  | cons a as ih => exact .keep a ih

section
variable {R : σ → σ → Prop} {A H : α → Prop}
  (hstep : ∀ s t a, A a → R s t → ∃ s' t', step s a = some s' ∧ step t a = some t' ∧ R s' t')
include hstep

/-- **The rule of two runs.** If a relation survives an action taken on both sides, and an inserted
action taken on the second side alone, it holds after every run and the same run with actions
inserted. -/
theorem run_inserted (hins : ∀ s t b, A b → H b → R s t → ∃ t', step t b = some t' ∧ R s t')
    {as bs : List α} (h : Inserted H as bs) (hA : ∀ b ∈ bs, A b) {s t : σ} (hR : R s t) :
    ∃ s' t', run step s as = some s' ∧ run step t bs = some t' ∧ R s' t' := by
  induction h generalizing s t with
  | nil => exact ⟨s, t, rfl, rfl, hR⟩
  | @keep a as bs _ ih =>
    obtain ⟨s₁, t₁, hs, ht, hR₁⟩ := hstep s t a (hA a List.mem_cons_self) hR
    obtain ⟨s', t', hs', ht', hR'⟩ := ih (fun b hb => hA b (List.mem_cons_of_mem a hb)) hR₁
    exact ⟨s', t', by rw [run_cons, hs]; exact hs', by rw [run_cons, ht]; exact ht', hR'⟩
  | @insert b hb as bs _ ih =>
    obtain ⟨t₁, ht, hR₁⟩ := hins s t b (hA b List.mem_cons_self) hb hR
    obtain ⟨s', t', hs', ht', hR'⟩ := ih (fun c hc => hA c (List.mem_cons_of_mem b hc)) hR₁
    exact ⟨s', t', hs', by rw [run_cons, ht]; exact ht', hR'⟩

/-- A relation that survives every action taken on both sides survives every run. -/
theorem run_related {as : List α} (hA : ∀ a ∈ as, A a) {s t : σ} (hR : R s t) :
    ∃ s' t', run step s as = some s' ∧ run step t as = some t' ∧ R s' t' :=
  run_inserted (H := fun _ => False) hstep (fun _ _ _ _ hb => hb.elim) (Inserted.refl _ as) hA hR

end

section
variable {Q : σ → Prop} {A G : σ → α → Prop}
  (hkeep : ∀ s a s', A s a → step s a = some s' → P s → P s')
  (hback : ∀ s a s', A s a → step s a = some s' → P s → Q s' → Q s)
include hkeep hback

/-- A run that ends in `Q` started there, if no step comes back to `Q`. `A` restricts the steps,
and `P` is what they keep. -/
theorem mem_of_run {s s' : σ} {as : List α} (has : Along step A s as)
    (hrun : run step s as = some s') (hP : P s) (hQ : Q s') : Q s := by
  induction as generalizing s with
  | nil =>
    cases hrun
    exact hQ
  | cons a as ih =>
    rw [run_cons] at hrun
    obtain ⟨s₁, h₁, hrun⟩ := Option.bind_eq_some_iff.mp hrun
    have hP₁ := hkeep s a s₁ has.1 h₁ hP
    exact hback s a s₁ has.1 h₁ hP (ih (has.2 s₁ h₁) hrun hP₁)

/-- **When a run stays in `Q`.** If a step from `Q` stays in `Q` exactly when it meets `G`, then a
run from `Q` ends in `Q` exactly when all its steps meet `G`. -/
theorem run_stays_iff
    (hstay : ∀ s a s', A s a → step s a = some s' → P s → Q s → (Q s' ↔ G s a))
    {s s' : σ} {as : List α} (has : Along step A s as) (hrun : run step s as = some s') (hP : P s)
    (hQ : Q s) : Q s' ↔ Along step G s as := by
  induction as generalizing s with
  | nil =>
    cases hrun
    exact ⟨fun _ => trivial, fun _ => hQ⟩
  | cons a as ih =>
    rw [run_cons] at hrun
    obtain ⟨s₁, h₁, hrun⟩ := Option.bind_eq_some_iff.mp hrun
    have has₁ : Along step A s₁ as := has.2 s₁ h₁
    have hP₁ := hkeep s a s₁ has.1 h₁ hP
    have hstep := hstay s a s₁ has.1 h₁ hP hQ
    constructor
    · intro hQ'
      have hQ₁ : Q s₁ := mem_of_run hkeep hback has₁ hrun hP₁ hQ'
      refine ⟨hstep.mp hQ₁, fun s₂ h₂ => ?_⟩
      rw [h₁] at h₂
      cases h₂
      exact (ih has₁ hrun hP₁ hQ₁).mp hQ'
    · rintro ⟨hG, hGas⟩
      exact (ih has₁ hrun hP₁ (hstep.mpr hG)).mpr (hGas s₁ h₁)

end

/-! ## Simulation -/

/-- Where `f` takes every step to the step of a second system, it takes runs to runs, and the second
system has no others. -/
theorem run_map {τ : Type} {step' : τ → α → Option τ} {f : σ → τ}
    (hstep : ∀ s a, step' (f s) a = (step s a).map f) (s : σ) (as : List α) :
    run step' (f s) as = (run step s as).map f := by
  induction as generalizing s with
  | nil => rfl
  | cons a as ih =>
    rw [run_cons, run_cons, hstep]
    cases step s a with
    | none => rfl
    | some s' => exact ih s'

/-- **The simulation rule.** Where every step is seen by `f` as one step of a second system or as
none, a run is seen as a run; and if a step meets `G` exactly when the step it is seen as meets
`G'`, and meets it where it is not seen, then so does the run. -/
theorem run_simulated {τ β : Type} {step' : τ → β → Option τ} {f : σ → τ}
    {A G : σ → α → Prop} {A' G' : τ → β → Prop}
    (hsim : ∀ s a s', P s → A s a → step s a = some s' → P s' ∧
      ((f s' = f s ∧ G s a) ∨
        ∃ b, step' (f s) b = some (f s') ∧ A' (f s) b ∧ (G s a ↔ G' (f s) b)))
    {s s' : σ} {as : List α} (hP : P s) (hA : Along step A s as) (hrun : run step s as = some s') :
    ∃ bs, run step' (f s) bs = some (f s') ∧ Along step' A' (f s) bs ∧
      (Along step G s as ↔ Along step' G' (f s) bs) := by
  induction as generalizing s with
  | nil =>
    cases hrun
    exact ⟨[], rfl, trivial, Iff.rfl⟩
  | cons a as ih =>
    rw [run_cons] at hrun
    obtain ⟨s₁, h₁, hrun⟩ := Option.bind_eq_some_iff.mp hrun
    obtain ⟨hP₁, hseen⟩ := hsim s a s₁ hP hA.1 h₁
    obtain ⟨bs, hbs, hA', hiff⟩ := ih hP₁ (hA.2 s₁ h₁) hrun
    have hG : Along step G s (a :: as) ↔ G s a ∧ Along step' G' (f s₁) bs := by
      rw [← hiff]
      exact ⟨fun h => ⟨h.1, h.2 s₁ h₁⟩, fun h => along_cons h.1 h₁ h.2⟩
    rcases hseen with ⟨hf, hGa⟩ | ⟨b, hb, hAb, hGb⟩
    · rw [hf] at hbs hA' hG
      exact ⟨bs, hbs, hA', hG.trans ⟨And.right, fun h => ⟨hGa, h⟩⟩⟩
    · refine ⟨b :: bs, ?_, along_cons hAb hb hA', hG.trans ?_⟩
      · rw [run_cons, hb]
        exact hbs
      · exact ⟨fun h => along_cons (hGb.mp h.1) hb h.2, fun h => ⟨hGb.mpr h.1, h.2 _ hb⟩⟩

/-! ## History variables -/

section
variable {η : Type} {s s' : σ}

/-- A value that is kept beside a run and that the system does not know of: each step replaces it by
what `record` makes of it, of the state before the step and of the action. -/
def history (step : σ → α → Option σ) (record : η → σ → α → η) : η → σ → List α → η
  | h, _, [] => h
  | h, s, a :: as => (step s a).elim h fun s' => history step record (record h s a) s' as

/-- **The invariant rule**, for what relates a state to a value kept beside the run. -/
theorem history_invariant_along {P : η → σ → Prop} {G : σ → α → Prop} (record : η → σ → α → η)
    (hstep : ∀ h s a s', G s a → step s a = some s' → P h s → P (record h s a) s')
    {as : List α} (h : η) (hG : Along step G s as) (hrun : run step s as = some s') (hs : P h s) :
    P (history step record h s as) s' := by
  induction as generalizing s h with
  | nil =>
    cases hrun
    exact hs
  | cons a as ih =>
    rw [run_cons] at hrun
    obtain ⟨s₁, h₁, hrun⟩ := Option.bind_eq_some_iff.mp hrun
    rw [history, h₁]
    exact ih _ (hG.2 s₁ h₁) hrun (hstep h s a s₁ hG.1 h₁ hs)

end

/-! ## What is seen of a run -/

section
variable {β τ : Type} {see : σ → α → Option β} {s s' : σ}

/-- What `see` makes of the steps of a run, each in the state before it. It is what an observer of
the run writes down. -/
def seen (step : σ → α → Option σ) (see : σ → α → Option β) : σ → List α → List β
  | _, [] => []
  | s, a :: as => (see s a).toList ++ (step s a).elim [] fun s' => seen step see s' as

theorem seen_cons {a : α} (hstep : step s a = some s') (as : List α) :
    seen step see s (a :: as) = (see s a).toList ++ seen step see s' as := by
  rw [seen, hstep]
  rfl

/-- **The invariant rule**, for what relates a state to what was seen on the way to it. -/
theorem seen_invariant_along {P : List β → σ → Prop} {G : σ → α → Prop}
    (hstep : ∀ bs s a s', G s a → step s a = some s' → P bs s → P (bs ++ (see s a).toList) s')
    {as : List α} (hG : Along step G s as) (hrun : run step s as = some s') (hs : P [] s) :
    P (seen step see s as) s' := by
  have hmore : ∀ bs, P bs s → P (bs ++ seen step see s as) s' := by
    clear hs
    induction as generalizing s with
    | nil =>
      cases hrun
      intro bs hs
      rw [seen, List.append_nil]
      exact hs
    | cons a as ih =>
      intro bs hs
      rw [run_cons] at hrun
      obtain ⟨s₁, h₁, hrun⟩ := Option.bind_eq_some_iff.mp hrun
      rw [seen_cons h₁, ← List.append_assoc]
      exact ih (hG.2 s₁ h₁) hrun _ (hstep bs s a s₁ hG.1 h₁ hs)
  exact hmore [] hs

section
variable {step' : τ → β → Option τ} {f : σ → τ}
  (hsee : ∀ s a s', step s a = some s' → run step' (f s) (see s a).toList = some (f s'))
include hsee

/-- **A run is seen as a run** of a second system, if each of its steps is seen as a step of that
system or as none. -/
theorem run_seen {as : List α} (hrun : run step s as = some s') :
    run step' (f s) (seen step see s as) = some (f s') := by
  induction as generalizing s with
  | nil =>
    cases hrun
    rfl
  | cons a as ih =>
    rw [run_cons] at hrun
    obtain ⟨s₁, h₁, hrun⟩ := Option.bind_eq_some_iff.mp hrun
    rw [seen_cons h₁, run_append, hsee s a s₁ h₁]
    exact ih hrun

/-- What every step is seen to meet holds along what is seen, and the other way round. -/
theorem along_seen {G : τ → β → Prop} {as : List α} (hrun : run step s as = some s') :
    Along step (fun s a => ∀ b, see s a = some b → G (f s) b) s as ↔
      Along step' G (f s) (seen step see s as) := by
  induction as generalizing s with
  | nil => exact Iff.rfl
  | cons a as ih =>
    rw [run_cons] at hrun
    obtain ⟨s₁, h₁, hrun⟩ := Option.bind_eq_some_iff.mp hrun
    have hrest : Along step (fun s a => ∀ b, see s a = some b → G (f s) b) s (a :: as) ↔
        (∀ b, see s a = some b → G (f s) b) ∧ Along step' G (f s₁) (seen step see s₁ as) := by
      rw [← ih hrun]
      exact ⟨fun h => ⟨h.1, h.2 s₁ h₁⟩, fun h => along_cons h.1 h₁ h.2⟩
    rw [hrest, seen_cons h₁]
    have hseen := hsee s a s₁ h₁
    cases hb : see s a with
    | none =>
      rw [hb] at hseen
      rw [show f s = f s₁ from Option.some.inj hseen]
      exact ⟨And.right, fun h => ⟨fun b hb => (by cases hb), h⟩⟩
    | some b =>
      rw [hb] at hseen
      have hstep' : step' (f s) b = some (f s₁) := (run_singleton _ b).symm.trans hseen
      constructor
      · exact fun h => along_cons (h.1 b rfl) hstep' h.2
      · refine fun h => ⟨fun b' hb' => ?_, h.2 _ hstep'⟩
        cases hb'
        exact h.1

end

end

/-! ## Two systems side by side -/

section
variable {σ₁ α₁ σ₂ α₂ : Type} {step₁ : σ₁ → α₁ → Option σ₁} {step₂ : σ₂ → α₂ → Option σ₂}

/-- Perform an action, if there is one: a part of a system takes part in some of its steps only. -/
def stepIf (step : σ → α → Option σ) (s : σ) : Option α → Option σ
  | none => some s
  | some a => step s a

theorem run_filterMap_cons {β : Type} (p : β → Option α) (s : σ) (b : β) (bs : List β) :
    run step s ((b :: bs).filterMap p) =
      (stepIf step s (p b)).bind fun s' => run step s' (bs.filterMap p) := by
  rw [List.filterMap_cons]
  cases p b with
  | none => rfl
  | some a => rfl

/-- **The rule of two systems side by side.** A state of the whole is one of each part, and an
action of the whole is one of each part or of one of them. If the steps of the whole are those that
both parts can take, the runs of the whole are those that both parts have. -/
theorem run_beside_iff (f₁ : σ → σ₁) (f₂ : σ → σ₂) {p₁ : α → Option α₁} {p₂ : α → Option α₂}
    (hinj : ∀ s s', f₁ s = f₁ s' → f₂ s = f₂ s' → s = s')
    (hparts : ∀ s a s', step s a = some s' → stepIf step₁ (f₁ s) (p₁ a) = some (f₁ s') ∧
      stepIf step₂ (f₂ s) (p₂ a) = some (f₂ s'))
    (hwhole : ∀ s a t₁ t₂, stepIf step₁ (f₁ s) (p₁ a) = some t₁ →
      stepIf step₂ (f₂ s) (p₂ a) = some t₂ → ∃ s', step s a = some s' ∧ f₁ s' = t₁ ∧ f₂ s' = t₂)
    {s s' : σ} {as : List α} :
    run step s as = some s' ↔ run step₁ (f₁ s) (as.filterMap p₁) = some (f₁ s') ∧
      run step₂ (f₂ s) (as.filterMap p₂) = some (f₂ s') := by
  induction as generalizing s with
  | nil =>
    constructor
    · intro h
      cases h
      exact ⟨rfl, rfl⟩
    · rintro ⟨h₁, h₂⟩
      exact congrArg some (hinj s s' (Option.some.inj h₁) (Option.some.inj h₂))
  | cons a as ih =>
    rw [run_filterMap_cons, run_filterMap_cons, run_cons]
    constructor
    · intro h
      obtain ⟨s₁, hstep, hrun⟩ := Option.bind_eq_some_iff.mp h
      obtain ⟨h₁, h₂⟩ := hparts s a s₁ hstep
      rw [h₁, h₂]
      exact ih.mp hrun
    · rintro ⟨h₁, h₂⟩
      obtain ⟨t₁, ht₁, hrun₁⟩ := Option.bind_eq_some_iff.mp h₁
      obtain ⟨t₂, ht₂, hrun₂⟩ := Option.bind_eq_some_iff.mp h₂
      obtain ⟨s₁, hstep, rfl, rfl⟩ := hwhole s a t₁ t₂ ht₁ ht₂
      rw [hstep]
      exact ih.mpr ⟨hrun₁, hrun₂⟩

end

end

/-! ## Logs that grow at the end -/

/-- An occurrence in a list with one more element is an old one or the new element. -/
theorem split_snoc {α : Type} {xs before after : List α} {x y : α}
    (h : xs ++ [x] = before ++ y :: after) :
    (xs = before ∧ x = y) ∨ ∃ after', xs = before ++ y :: after' := by
  rcases List.eq_nil_or_concat after with rfl | ⟨after', z, rfl⟩
  · obtain ⟨h₁, h₂⟩ := List.append_inj' h rfl
    exact .inl ⟨h₁, (List.cons.inj h₂).1⟩
  · have h' : xs ++ [x] = (before ++ y :: after') ++ [z] := by simpa using h
    exact .inr ⟨after', (List.append_inj' h' rfl).1⟩

end Transition
