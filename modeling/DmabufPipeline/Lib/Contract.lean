import Mathlib.Data.List.Basic
import Mathlib.Tactic.Common

/-!
# Contracts along a log

A log of events, each a request of a program together with the answer of its environment. A
contract says what a state is after an event, what the program may ask in it, and what the
environment may answer. The program is held to its side only as long as the environment has
kept to its own, so an obligation at one event rests on the answers before it and on nothing
later.

`Obeys` is the weakest precondition of a log under a contract: composition and consequence
are its rules, and a proof about a program follows the program.

## Main definitions

* `Contract` — the two sides.
* `Contract.Obeys` — the program keeps to its side, and ends as required.
* `Contract.Answered` — the environment has kept to its own.
* `Contract.Obeys.asks_of_prefix`, `Contract.Obeys.settled` — what this means for a log.
-/

universe u v

/-- What a program may ask and what its environment may answer. -/
structure Contract (σ : Type u) (α : Type v) where
  next : σ → α → σ
  asks : σ → α → Prop
  answers : σ → α → Prop

namespace Contract

variable {σ : Type u} {α : Type v} (K : Contract σ α)

/-- The state after a log. -/
def after (s : σ) (log : List α) : σ := log.foldl K.next s

/-- Every answer is one that the environment may give. -/
def Answered : σ → List α → Prop
  | _, [] => True
  | s, a :: log => K.answers s a ∧ Answered (K.next s a) log

/-- **The program keeps to its side**, and `Q` holds at the end, as long as the environment
keeps to its own. -/
def Obeys (Q : σ → Prop) : σ → List α → Prop
  | s, [] => Q s
  | s, a :: log => K.asks s a ∧ (K.answers s a → Obeys Q (K.next s a) log)

instance Answered.decidable [∀ s a, Decidable (K.answers s a)] :
    ∀ s log, Decidable (K.Answered s log)
  | _, [] => .isTrue trivial
  | s, a :: log =>
      have := Answered.decidable (K.next s a) log
      inferInstanceAs (Decidable (K.answers s a ∧ K.Answered (K.next s a) log))

variable {K} {P Q : σ → Prop} {s : σ} {a : α} {log rest : List α}

@[simp] theorem obeys_nil : K.Obeys Q s [] ↔ Q s := Iff.rfl

@[simp] theorem obeys_cons :
    K.Obeys Q s (a :: log) ↔ K.asks s a ∧ (K.answers s a → K.Obeys Q (K.next s a) log) := Iff.rfl

/-- Rule of composition. -/
theorem obeys_append :
    K.Obeys Q s (log ++ rest) ↔ K.Obeys (fun t => K.Obeys Q t rest) s log := by
  induction log generalizing s with
  | nil => exact Iff.rfl
  | cons a log ih => simp only [List.cons_append, obeys_cons, ih]

namespace Obeys

/-- Rule of consequence. -/
theorem mono (h : K.Obeys P s log) (hPQ : ∀ t, P t → Q t) : K.Obeys Q s log := by
  induction log generalizing s with
  | nil => exact hPQ s h
  | cons a log ih => exact ⟨h.1, fun ha => ih (h.2 ha)⟩

/-- One stretch after another. -/
theorem append (h : K.Obeys P s log) (hrest : ∀ t, P t → K.Obeys Q t rest) :
    K.Obeys Q s (log ++ rest) := obeys_append.mpr (h.mono hrest)

/-- **Every request is allowed** if the answers before it were. -/
theorem asks_of_prefix (h : K.Obeys Q s log) {pre : List α} (hpre : pre ++ [a] <+: log)
    (hans : K.Answered s pre) : K.asks (K.after s pre) a := by
  obtain ⟨rest, rfl⟩ := hpre
  induction pre generalizing s with
  | nil => exact h.1
  | cons b pre ih => exact ih hans.2 (h.2 hans.1)

/-- **The end is as required** if every answer was allowed. -/
theorem settled (h : K.Obeys Q s log) (hans : K.Answered s log) : Q (K.after s log) := by
  induction log generalizing s with
  | nil => exact h
  | cons a log ih => exact ih (h.2 hans.1) hans.2

end Obeys
end Contract
