import DmabufPipeline.Lib.Ledger
import Mathlib.Logic.Function.Basic

/-!
# Places that hold resources

Resources such as file descriptors live in places: variables, fields, entries of a vector.
A place holds at most one resource, and a program takes a resource into a place, gives it
up, or moves it between places. `Agrees` ties the places to the ledger of the program's
acquisitions and releases: no two places hold the same resource, and what the ledger says
is held is in some place. When all places are empty, the ledger is balanced.

## Main definitions

* `Agrees` — the places and the ledger say the same.
* `Agrees.take`, `Agrees.give`, `Agrees.move` — the three operations keep it.
* `Agrees.balanced` — empty places leave a balanced ledger.
-/

namespace Holders

open Ledger

variable {ι ρ : Type*} [DecidableEq ρ]
variable {place : ι → Option ρ} {log : List (Event ρ)}

/-- What the places hold is what the ledger says is held. -/
structure Agrees (place : ι → Option ρ) (log : List (Event ρ)) : Prop where
  unique : ∀ i j r, place i = some r → place j = some r → i = j
  held_iff : ∀ r, r ∈ held ∅ log ↔ ∃ i, place i = some r
  fresh : Fresh ∅ log
  sound : Sound ∅ log

namespace Agrees

/-- Before anything was taken. -/
theorem empty : Agrees (fun _ : ι => none) ([] : List (Event ρ)) where
  unique := by
    intro i j r hi
    cases hi
  held_iff := by simp
  fresh := trivial
  sound := trivial

/-- **Empty places leave a balanced ledger.** -/
theorem balanced (h : Agrees place log) (hempty : ∀ i, place i = none) : Balanced log where
  sound := h.sound
  settled := by
    ext r
    rw [h.held_iff]
    simp [hempty]

variable [DecidableEq ι]

omit [DecidableEq ρ] in
/-- What a place holds after one of them has changed. -/
theorem update_eq_some_iff {i j : ι} {x : Option ρ} {r : ρ} :
    Function.update place i x j = some r ↔ j = i ∧ x = some r ∨ j ≠ i ∧ place j = some r := by
  by_cases hji : j = i
  · subst hji
    simp
  · simp [hji]

omit [DecidableEq ρ] in
/-- What a place holds after one of them has been emptied. -/
theorem update_none_eq_some_iff {i j : ι} {r : ρ} :
    Function.update place i none j = some r ↔ j ≠ i ∧ place j = some r := by
  simp [update_eq_some_iff]

/-- A resource that no place holds is taken into an empty place. -/
theorem take (h : Agrees place log) {i : ι} {r : ρ} (hi : place i = none)
    (hr : ∀ j, place j ≠ some r) :
    Agrees (Function.update place i (some r)) (log ++ [.acquire r]) where
  unique := by
    intro j k r' hj hk
    rw [update_eq_some_iff, Option.some.injEq] at hj hk
    rcases hj with ⟨hji, hrj⟩ | ⟨-, hj⟩
    · rcases hk with ⟨hki, -⟩ | ⟨-, hk⟩
      · rw [hji, hki]
      · rw [← hrj] at hk
        exact absurd hk (hr k)
    · rcases hk with ⟨-, hrk⟩ | ⟨-, hk⟩
      · rw [← hrk] at hj
        exact absurd hj (hr j)
      · exact h.unique j k r' hj hk
  held_iff := by
    intro r'
    rw [held_append, held_cons, held_nil, post, Finset.mem_insert, h.held_iff]
    simp only [update_eq_some_iff, Option.some.injEq]
    constructor
    · intro hor
      rcases hor with heq | ⟨j, hj⟩
      · exact ⟨i, .inl ⟨rfl, heq.symm⟩⟩
      · have hji : j ≠ i := by
          intro heq
          rw [heq, hi] at hj
          cases hj
        exact ⟨j, .inr ⟨hji, hj⟩⟩
    · intro hex
      obtain ⟨j, ⟨-, hrr⟩ | ⟨-, hj⟩⟩ := hex
      · exact .inl hrr.symm
      · exact .inr ⟨j, hj⟩
  fresh := by
    refine fresh_append.mpr ⟨h.fresh, ?_, trivial⟩
    rw [h.held_iff]
    intro hex
    obtain ⟨j, hj⟩ := hex
    exact hr j hj
  sound := sound_append.mpr ⟨h.sound, trivial⟩

/-- A place gives its resource up. -/
theorem give (h : Agrees place log) {i : ι} {r : ρ} (hi : place i = some r) :
    Agrees (Function.update place i none) (log ++ [.release r]) where
  unique := by
    intro j k r' hj hk
    rw [update_none_eq_some_iff] at hj hk
    exact h.unique j k r' hj.2 hk.2
  held_iff := by
    intro r'
    rw [held_append, held_cons, held_nil, post, Finset.mem_erase, h.held_iff]
    simp only [update_none_eq_some_iff]
    constructor
    · intro hand
      obtain ⟨hne, j, hj⟩ := hand
      have hji : j ≠ i := by
        intro heq
        rw [heq, hi, Option.some.injEq] at hj
        exact hne hj.symm
      exact ⟨j, hji, hj⟩
    · intro hex
      obtain ⟨j, hji, hj⟩ := hex
      refine ⟨?_, j, hj⟩
      intro heq
      subst heq
      exact hji (h.unique j i r' hj hi)
  fresh := fresh_append.mpr ⟨h.fresh, trivial⟩
  sound := by
    refine sound_append.mpr ⟨h.sound, ?_, trivial⟩
    exact (h.held_iff r).mpr ⟨i, hi⟩

omit [DecidableEq ρ] in
/-- After a move, a place holds what its source held: `i` for the place `j` that it moved
to, and the place itself for the others. -/
theorem moved_eq_some_iff {i j k : ι} {r : ρ} :
    Function.update (Function.update place j (place i)) i none k = some r ↔
      k ≠ i ∧ place (if k = j then i else k) = some r := by
  rw [update_none_eq_some_iff, update_eq_some_iff]
  by_cases hkj : k = j
  · simp [hkj]
  · simp [hkj]

/-- What a place holds, if anything, moves to an empty place; the ledger is not
concerned. -/
theorem move (h : Agrees place log) {i j : ι} (hij : i ≠ j) (hj : place j = none) :
    Agrees (Function.update (Function.update place j (place i)) i none) log where
  unique := by
    intro k l r hk hl
    rw [moved_eq_some_iff] at hk hl
    have hsame := h.unique _ _ r hk.2 hl.2
    grind
  held_iff := by
    intro r
    rw [h.held_iff]
    simp only [moved_eq_some_iff]
    constructor
    · intro hex
      obtain ⟨k, hk⟩ := hex
      by_cases hki : k = i
      · exact ⟨j, hij.symm, by rwa [if_pos rfl, ← hki]⟩
      · have hkj : k ≠ j := by
          intro heq
          rw [heq, hj] at hk
          cases hk
        exact ⟨k, hki, by rwa [if_neg hkj]⟩
    · intro hex
      obtain ⟨k, -, hk⟩ := hex
      exact ⟨_, hk⟩
  fresh := h.fresh
  sound := h.sound

end Agrees
end Holders
