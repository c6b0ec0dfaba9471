import Mathlib.Data.List.Basic
import Mathlib.Data.List.Nodup
import Mathlib.Data.List.Sublists

/-!
# Attribute lists

A flat list that names attributes and gives their values in turn, closed by a terminator
where a name would stand. The reader knows nothing but the terminator, so a value may be
any word, also one that is a name or the terminator itself. A record with optional fields
is written as the list of its present fields.

## Main definitions

* `write`, `read` — the flat list of some pairs, and how it is read.
* `read_write` — reading gives back the pairs and consumes the list.
* `present` — the fields of a record that are there.
-/

namespace AttribList

variable {α : Type*}

/-- Names and values in turn, and the terminator. -/
def write (stop : α) (pairs : List (α × α)) : List α :=
  pairs.flatMap (fun p => [p.1, p.2]) ++ [stop]

/-- The pairs up to the first terminator in the place of a name, and what follows it;
`none` if the list ends before. -/
def read [DecidableEq α] (stop : α) : List α → Option (List (α × α) × List α)
  | [] => none
  | [name] => if name = stop then some ([], []) else none
  | name :: value :: rest =>
      if name = stop then some ([], value :: rest)
      else (read stop rest).map fun r => ((name, value) :: r.1, r.2)

/-- **What was written is read back**, and nothing is left over. -/
theorem read_write [DecidableEq α] {stop : α} {pairs : List (α × α)}
    (h : ∀ p ∈ pairs, p.1 ≠ stop) : read stop (write stop pairs) = some (pairs, []) := by
  induction pairs with
  | nil => simp [write, read]
  | cons p pairs ih =>
      have hp : p.1 ≠ stop := h p List.mem_cons_self
      have hrest := ih fun q hq => h q (List.mem_cons_of_mem p hq)
      have hwrite : write stop (p :: pairs) = p.1 :: p.2 :: write stop pairs := rfl
      rw [hwrite, read, if_neg hp, hrest]
      rfl

/-- The fields that are there. -/
def present (fields : List (α × Option α)) : List (α × α) :=
  fields.filterMap fun f => f.2.map fun value => (f.1, value)

/-- A pair is present when its field has that value. -/
theorem mem_present {fields : List (α × Option α)} {name value : α} :
    (name, value) ∈ present fields ↔ (name, some value) ∈ fields := by
  rw [present, List.mem_filterMap]
  constructor
  · rintro ⟨⟨name', value'⟩, hmem, heq⟩
    obtain ⟨v, rfl, hpair⟩ := Option.map_eq_some_iff.mp heq
    obtain ⟨rfl, rfl⟩ := Prod.mk.inj hpair
    exact hmem
  · intro hmem
    exact ⟨(name, some value), hmem, rfl⟩

/-- The names of the present fields are names of fields, in the same order. -/
theorem present_names_sublist (fields : List (α × Option α)) :
    ((present fields).map Prod.fst).Sublist (fields.map Prod.fst) := by
  induction fields with
  | nil => exact List.Sublist.slnil
  | cons f fields ih =>
      obtain ⟨name, value⟩ := f
      cases value with
      | none => exact ih.cons name
      | some v => exact ih.cons_cons name

/-- Different names stay different. -/
theorem nodup_present {fields : List (α × Option α)} (h : (fields.map Prod.fst).Nodup) :
    ((present fields).map Prod.fst).Nodup :=
  (present_names_sublist fields).nodup h

end AttribList
