import DmabufPipeline.Lib.Transition

/-!
# A first-in first-out channel with its two logs

The specification that a pipeline of any length is compared with: `put` appends an
item, `get` hands out the oldest item not handed out yet. The state is the two logs
themselves, so "no item lost in the middle, duplicated or changed" is one statement
about the state, `got_prefix`.
-/

namespace Fifo

universe u
variable {γ : Type u}

/-- Everything put in so far, and everything taken out so far. -/
structure State (γ : Type u) where
  put : List γ := []
  got : List γ := []

/-- The two operations of a channel. -/
inductive Op (γ : Type u)
  | put (c : γ)
  | get

/-- `get` takes the item at the position after the last one taken; it is not enabled
on an empty channel. -/
def step (s : State γ) : Op γ → Option (State γ)
  | .put c => some { s with put := s.put ++ [c] }
  | .get => s.put[s.got.length]?.map fun c => { s with got := s.got ++ [c] }

/-- One operation keeps the outgoing log a prefix of the incoming one. -/
theorem prefix_step (s : State γ) (op : Op γ) (s' : State γ) (h : s.got <+: s.put)
    (hs : step s op = some s') : s'.got <+: s'.put := by
  cases op with
  | put c =>
      simp only [step, Option.some.injEq] at hs
      subst hs
      exact h.trans (List.prefix_append _ _)
  | get =>
      simp only [step, Option.map_eq_some_iff] at hs
      obtain ⟨c, hc, rfl⟩ := hs
      obtain ⟨rest, hrest⟩ := h
      rw [← hrest, List.getElem?_append_right (Nat.le_refl _), Nat.sub_self] at hc
      cases rest with
      | nil => simp at hc
      | cons d rest =>
          simp only [List.getElem?_cons_zero, Option.some.injEq] at hc
          subst hc
          exact ⟨rest, by simpa using hrest⟩

/-- **Items come out in the order in which they went in**, each at most once. -/
theorem got_prefix {ops : List (Op γ)} {s : State γ}
    (h : Transition.run step ({} : State γ) ops = some s) : s.got <+: s.put :=
  Transition.run_induction prefix_step (List.prefix_refl _) h

end Fifo
