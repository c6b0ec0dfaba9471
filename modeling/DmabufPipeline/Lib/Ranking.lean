import DmabufPipeline.Lib.Transition

/-!
# Ranks for labelled step functions

A run is bounded by a rank: a natural number that every step of a chosen kind lowers and
that no other step raises. The kinds matter because the environment may move for ever
without the system doing anything.

Together with progress, which says that something can always be done until the end is
reached, a rank gives that the end is reached: within the bound by some run, and by
every run that goes on as long as it can.

## Main definitions

* `Ranking step work I rank` — on the invariant `I`, the steps that `work` selects lower
  `rank`, and no step raises it.
* `Ranking.countP_le` — the bound on the selected steps of a run.
* `Ranking.reaches` — progress leads to the end within the bound.
-/

namespace Transition

universe u v
variable {σ : Type u} {α : Type v} {step : σ → α → Option σ} {work : α → Bool} {I : σ → Prop}
  {rank : σ → ℕ}

/-- On the states of the invariant `I`, which every step keeps, a step with a label that
`work` selects lowers `rank`, and no step raises it. -/
structure Ranking (step : σ → α → Option σ) (work : α → Bool) (I : σ → Prop)
    (rank : σ → ℕ) : Prop where
  keeps : ∀ s a s', I s → step s a = some s' → I s'
  lowers : ∀ s a s', I s → step s a = some s' → work a = true → rank s' < rank s
  not_raises : ∀ s a s', I s → step s a = some s' → rank s' ≤ rank s

namespace Ranking

/-- The selected steps of a run are paid for by the rank. -/
theorem countP_add_le (h : Ranking step work I rank) {s t : σ} {as : List α} (hI : I s)
    (hrun : run step s as = some t) : as.countP work + rank t ≤ rank s := by
  induction as generalizing s with
  | nil =>
      simp only [run_nil, Option.some.injEq] at hrun
      subst hrun
      simp
  | cons a as ih =>
      obtain ⟨s', hs, hrun⟩ := run_cons_eq_some.mp hrun
      have hrest := ih (h.keeps s a s' hI hs) hrun
      rw [List.countP_cons]
      by_cases hw : work a = true
      · have hlt := h.lowers s a s' hI hs hw
        rw [if_pos hw]
        omega
      · have hle := h.not_raises s a s' hI hs
        rw [if_neg hw]
        omega

/-- **A run takes at most `rank` many of the selected steps.** -/
theorem countP_le (h : Ranking step work I rank) {s t : σ} {as : List α} (hI : I s)
    (hrun : run step s as = some t) : as.countP work ≤ rank s := by
  have := h.countP_add_le hI hrun
  omega

/-- **Progress under a rank leads to the end.** If every state of the invariant is at the
end or has a selected step that `C` allows, the end is reached by such steps alone, and
within the bound. -/
theorem reaches (h : Ranking step work I rank) {C : σ → α → Prop} {End : σ → Prop}
    (hprog : ∀ s, I s → End s ∨ ∃ a s', work a = true ∧ C s a ∧ step s a = some s')
    {s : σ} (hI : I s) :
    ∃ as t, run step s as = some t ∧ End t ∧ Meets step C s as ∧ as.length ≤ rank s := by
  induction hr : rank s using Nat.strongRecOn generalizing s with
  | ind n ih =>
      rcases hprog s hI with hend | ⟨a, s', hw, hC, hs⟩
      · exact ⟨[], s, rfl, hend, trivial, Nat.zero_le n⟩
      · have hlt := h.lowers s a s' hI hs hw
        obtain ⟨as, t, hrun, hend, hmeets, hlen⟩ :=
          ih (rank s') (by omega) (h.keeps s a s' hI hs) rfl
        refine ⟨a :: as, t, run_cons_eq_some.mpr ⟨s', hs, hrun⟩, hend, ⟨hC, ?_⟩, ?_⟩
        · intro r hr'
          obtain rfl : s' = r := Option.some.inj (hs.symm.trans hr')
          exact hmeets
        · rw [List.length_cons]
          omega

end Ranking
end Transition
