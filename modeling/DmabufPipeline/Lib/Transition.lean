import Mathlib.Data.Option.Basic
import Mathlib.Data.List.Basic

/-!
# Labelled partial step functions

A system is a partial function `step : σ → α → Option σ`: the label names who
moves and what the environment answered, and `none` says that the label is not
enabled. Interleaving and nondeterminism live in the choice of labels, so a
statement about every label list is a statement about every run, and stays
executable on a concrete one.

Two ways to speak of a run are provided. `run` returns the last state, which is
enough for invariants because every prefix of a run is a run. `Always` and
`Meets` speak of all states of the run and of all its steps, which is what an
equivalence between "the property held throughout" and "no step broke the rule"
needs.

## Main definitions

* `run step s as` — execute the labels `as` from `s`.
* `Meets step C s as` — every step of the run is taken as `C` allows.
* `Always step P s as` — `P` holds in every state of the run.
* `Simulation` — a label-to-label-list forward simulation.
-/

namespace Transition

universe u v
variable {σ τ : Type u} {α β : Type v} {step : σ → α → Option σ}

/-- Execute a list of labels; `none` as soon as one of them is not enabled. -/
def run (step : σ → α → Option σ) : σ → List α → Option σ
  | s, [] => some s
  | s, a :: as => (step s a).bind fun s' => run step s' as

@[simp] theorem run_nil (s : σ) : run step s [] = some s := rfl

theorem run_cons_eq_some {s t : σ} {a : α} {as : List α} :
    run step s (a :: as) = some t ↔ ∃ s', step s a = some s' ∧ run step s' as = some t := by
  simp [run, Option.bind_eq_some_iff]

/-- Running two label lists in sequence. -/
theorem run_append {s s' t : σ} {as bs : List α} (h : run step s as = some s')
    (h' : run step s' bs = some t) : run step s (as ++ bs) = some t := by
  induction as generalizing s with
  | nil =>
      simp only [run_nil, Option.some.injEq] at h
      subst h
      exact h'
  | cons a as ih =>
      obtain ⟨r, hr, hrun⟩ := run_cons_eq_some.mp h
      exact run_cons_eq_some.mpr ⟨r, hr, ih hrun⟩

/-- Every step of the run is taken from a state, and with a label, that `C` allows. -/
def Meets (step : σ → α → Option σ) (C : σ → α → Prop) : σ → List α → Prop
  | _, [] => True
  | s, a :: as => C s a ∧ ∀ s', step s a = some s' → Meets step C s' as

/-- `P` holds in every state of the run, the first and the last included. -/
def Always (step : σ → α → Option σ) (P : σ → Prop) : σ → List α → Prop
  | s, [] => P s
  | s, a :: as => P s ∧ ∀ s', step s a = some s' → Always step P s' as

instance Meets.decidable (C : σ → α → Prop) [∀ s a, Decidable (C s a)] :
    ∀ s as, Decidable (Meets step C s as)
  | _, [] => .isTrue trivial
  | s, a :: as =>
      match h : step s a with
      | none => decidable_of_iff (C s a) (by simp [Meets, h])
      | some s' =>
          have := Meets.decidable C s' as
          decidable_of_iff (C s a ∧ Meets step C s' as) (by simp [Meets, h])

/-- **Consequence rule for rules.** On the states of an invariant, a run that meets `C`
meets everything that `C` implies there. -/
theorem Meets.of_invariant {I : σ → Prop} {C D : σ → α → Prop}
    (hI : ∀ s a s', I s → step s a = some s' → I s') (hCD : ∀ s a, I s → C s a → D s a)
    {s : σ} {as : List α} (h0 : I s) (h : Meets step C s as) : Meets step D s as := by
  induction as generalizing s with
  | nil => trivial
  | cons a as ih => exact ⟨hCD s a h0 h.1, fun s' hs => ih (hI s a s' h0 hs) (h.2 s' hs)⟩

/-- A rule that allows every step is met by every run. -/
theorem meets_of_forall {C : σ → α → Prop} (h : ∀ s a, C s a) (s : σ) (as : List α) :
    Meets step C s as := by
  induction as generalizing s with
  | nil => trivial
  | cons a as ih => exact ⟨h s a, fun s' _ => ih s'⟩

/-- A rule that allows every step from an invariant is met by every run. -/
theorem meets_of_invariant {I : σ → Prop} {C : σ → α → Prop}
    (hI : ∀ s a s', I s → step s a = some s' → I s') (hC : ∀ s a, I s → C s a)
    {s : σ} (h0 : I s) (as : List α) : Meets step C s as :=
  .of_invariant (C := fun _ _ => True) hI (fun s a h _ => hC s a h) h0
    (meets_of_forall (fun _ _ => trivial) s as)

/-- **Guarded invariant rule.** An invariant kept by every step that the rule `C`
allows holds at the end of every run that meets `C`. -/
theorem run_induction_of_meets {I : σ → Prop} {C : σ → α → Prop}
    (hstep : ∀ s a s', I s → C s a → step s a = some s' → I s')
    {s t : σ} {as : List α} (h0 : I s) (hC : Meets step C s as)
    (hrun : run step s as = some t) : I t := by
  induction as generalizing s with
  | nil =>
      simp only [run_nil, Option.some.injEq] at hrun
      exact hrun ▸ h0
  | cons a as ih =>
      obtain ⟨s', hs, hrun⟩ := run_cons_eq_some.mp hrun
      exact ih (hstep s a s' h0 hC.1 hs) (hC.2 s' hs) hrun

/-- **Invariant rule.** An invariant kept by every step holds at the end of every run. -/
theorem run_induction {I : σ → Prop} (hstep : ∀ s a s', I s → step s a = some s' → I s')
    {s t : σ} {as : List α} (h0 : I s) (hrun : run step s as = some t) : I t :=
  run_induction_of_meets (C := fun _ _ => True) (fun s a s' h _ => hstep s a s' h) h0
    (meets_of_forall (fun _ _ => trivial) s as) hrun

/-- **Cause rule.** A fact that only the label `b` can establish, and that holds at the
end of a run but not at its start, was established by an occurrence of `b`. -/
theorem mem_of_run {Q : σ → Prop} {b : α}
    (hstep : ∀ s a s', step s a = some s' → Q s' → Q s ∨ a = b)
    {s t : σ} {as : List α} (hrun : run step s as = some t) (h0 : ¬ Q s) (ht : Q t) :
    b ∈ as := by
  induction as generalizing s with
  | nil =>
      simp only [run_nil, Option.some.injEq] at hrun
      exact absurd (hrun ▸ ht) h0
  | cons a as ih =>
      obtain ⟨s', hs, hrun⟩ := run_cons_eq_some.mp hrun
      by_cases hQ : Q s'
      · rcases hstep s a s' hs hQ with h | rfl
        · exact absurd h h0
        · exact List.mem_cons_self
      · exact List.mem_cons_of_mem a (ih hrun hQ)

/-- `Always` includes the state the run starts from. -/
theorem Always.head {P : σ → Prop} {s : σ} {as : List α} (h : Always step P s as) : P s := by
  cases as with
  | nil => exact h
  | cons a as => exact h.1

/-- `Always` includes the state the run ends in. -/
theorem Always.last {P : σ → Prop} {s t : σ} {as : List α} (h : Always step P s as)
    (hrun : run step s as = some t) : P t := by
  induction as generalizing s with
  | nil =>
      simp only [run_nil, Option.some.injEq] at hrun
      exact hrun ▸ h
  | cons a as ih =>
      obtain ⟨s', hs, hrun⟩ := run_cons_eq_some.mp hrun
      exact ih (h.2 s' hs) hrun

/-- **Equivalence rule for runs**, with a strengthening `Q` of `P` that the steps allowed
by `C` keep: if `P` never survives a step that `C` forbids, then `P` holds throughout a
run iff the run meets `C`. -/
theorem always_iff_meets_of_strengthening {P Q : σ → Prop} {G C : σ → α → Prop}
    (hQP : ∀ s, Q s → P s)
    (hQ : ∀ s a s', Q s → G s a → C s a → step s a = some s' → Q s')
    (hC : ∀ s a s', Q s → G s a → step s a = some s' → P s' → C s a)
    {s t : σ} {as : List α} (h0 : Q s) (hG : Meets step G s as)
    (hrun : run step s as = some t) :
    Always step P s as ↔ Meets step C s as := by
  induction as generalizing s with
  | nil => exact ⟨fun _ => trivial, fun _ => hQP s h0⟩
  | cons a as ih =>
      obtain ⟨s', hs, hrun⟩ := run_cons_eq_some.mp hrun
      have hrest (hCa : C s a) : Always step P s' as ↔ Meets step C s' as :=
        ih (hQ s a s' h0 hG.1 hCa hs) (hG.2 s' hs) hrun
      constructor
      · rintro ⟨_, hall⟩
        have hCa : C s a := hC s a s' h0 hG.1 hs (hall s' hs).head
        refine ⟨hCa, fun r hr => ?_⟩
        obtain rfl : s' = r := Option.some.inj (hs.symm.trans hr)
        exact (hrest hCa).mp (hall s' hs)
      · rintro ⟨hCa, hall⟩
        refine ⟨hQP s h0, fun r hr => ?_⟩
        obtain rfl : s' = r := Option.some.inj (hs.symm.trans hr)
        exact (hrest hCa).mpr (hall s' hs)

/-- The same under an invariant `I` of all steps that `G` allows: `P` survives exactly the
steps that `C` allows. -/
theorem always_iff_meets {I P : σ → Prop} {G C : σ → α → Prop}
    (hI : ∀ s a s', I s → G s a → step s a = some s' → I s')
    (hP : ∀ s a s', I s → G s a → P s → step s a = some s' → (P s' ↔ C s a))
    {s t : σ} {as : List α} (h0 : I s) (h1 : P s) (hG : Meets step G s as)
    (hrun : run step s as = some t) :
    Always step P s as ↔ Meets step C s as :=
  always_iff_meets_of_strengthening (Q := fun s => I s ∧ P s) (fun _ h => h.2)
    (fun s a s' h hg hc hs => ⟨hI s a s' h.1 hg hs, (hP s a s' h.1 hg h.2 hs).mpr hc⟩)
    (fun s a s' h hg hs hp => (hP s a s' h.1 hg h.2 hs).mp hp) ⟨h0, h1⟩ hG hrun

/-- A forward simulation of `stepC` by `stepA` along `R`, on the steps that `C`
allows: a concrete label is matched by the abstract labels `label s a`. -/
structure Simulation (stepC : σ → α → Option σ) (stepA : τ → β → Option τ)
    (C : σ → α → Prop) (R : σ → τ → Prop) (label : σ → α → List β) : Prop where
  step : ∀ s t a s', R s t → C s a → stepC s a = some s' →
    ∃ t', run stepA t (label s a) = some t' ∧ R s' t'

/-- **A simulation lifts to runs**: every guarded concrete run is matched by an
abstract run that ends in a related state. -/
theorem Simulation.run {stepC : σ → α → Option σ} {stepA : τ → β → Option τ}
    {C : σ → α → Prop} {R : σ → τ → Prop} {label : σ → α → List β}
    (sim : Simulation stepC stepA C R label) {s s' : σ} {t : τ} {as : List α}
    (hR : R s t) (hC : Meets stepC C s as) (hrun : run stepC s as = some s') :
    ∃ bs t', Transition.run stepA t bs = some t' ∧ R s' t' := by
  induction as generalizing s t with
  | nil =>
      simp only [run_nil, Option.some.injEq] at hrun
      exact ⟨[], t, rfl, hrun ▸ hR⟩
  | cons a as ih =>
      obtain ⟨r, hr, hrun⟩ := run_cons_eq_some.mp hrun
      obtain ⟨t₁, ht₁, hR₁⟩ := sim.step s t a r hR hC.1 hr
      obtain ⟨bs, t', ht', hR'⟩ := ih hR₁ (hC.2 r hr) hrun
      exact ⟨label s a ++ bs, t', run_append ht₁ ht', hR'⟩

end Transition
