import DmabufPipeline.Lib.Ledger
import Mathlib.Data.Finset.Dedup

/-!
# Tables of reused handles

A table names objects by handles, as the descriptor table of a process does by numbers.
The environment opens a handle that names nothing; a handle that has been closed may be
opened again, as another object. A program that keeps handles by value can then close one
twice, or use one where it names something else by now.

`Moves` is the framed triple for such programs: whoever owns the first list, and runs the
log, is left with the second, whatever else the table holds. Its rules say what each
operation does to the list, and a program is correct when they chain from nothing to
nothing.

## Main definitions

* `Op`, `table`, `events` — a log of operations, the table it leaves, and its ledger.
* `Owns` — the table holds what a list says, and the log up to there was right.
* `Moves` — the framed triple.
-/

namespace Handles

open Ledger

variable {ρ ω : Type*} [DecidableEq ρ]

/-- An operation on the table. -/
inductive Op (ρ ω : Type*)
  | opens (r : ρ) (o : ω)
  | closes (r : ρ)
  /-- The handle is used where the object is meant. -/
  | uses (r : ρ) (o : ω)

/-- The entry of the ledger. -/
def Op.event : Op ρ ω → Option (Event ρ)
  | .opens r _ => some (.acquire r)
  | .closes r => some (.release r)
  | .uses .. => none

/-- The ledger of a log. -/
def events (log : List (Op ρ ω)) : List (Event ρ) := log.filterMap Op.event

/-- The table after one more operation. -/
def post (t : ρ → Option ω) : Op ρ ω → ρ → Option ω
  | .opens r o => Function.update t r (some o)
  | .closes r => Function.update t r none
  | .uses .. => t

/-- The table that a log leaves. -/
def table (log : List (Op ρ ω)) : ρ → Option ω := log.foldl post fun _ => none

@[simp] theorem table_nil (r : ρ) : table ([] : List (Op ρ ω)) r = none := rfl

@[simp] theorem table_concat (log : List (Op ρ ω)) (op : Op ρ ω) :
    table (log ++ [op]) = post (table log) op := by simp [table]

/-- Using handles does not change the table. -/
theorem table_append_of_uses (log : List (Op ρ ω)) {l : List (Op ρ ω)}
    (hl : ∀ op ∈ l, ∃ r o, op = .uses r o) : table (log ++ l) = table log := by
  induction l using List.reverseRecOn with
  | nil => rw [List.append_nil]
  | append_singleton l op ih =>
      obtain ⟨r, o, rfl⟩ := hl op (by simp)
      have hl' : ∀ op ∈ l, ∃ r o, op = .uses r o := by
        intro op hop
        exact hl op (List.mem_append_left _ hop)
      rw [← List.append_assoc, table_concat]
      exact ih hl'

omit [DecidableEq ρ] in
@[simp] theorem events_append (l m : List (Op ρ ω)) : events (l ++ m) = events l ++ events m :=
  List.filterMap_append

/-- A handle is held exactly when the table names something by it. -/
theorem mem_held_iff {log : List (Op ρ ω)} {r : ρ} :
    r ∈ held ∅ (events log) ↔ (table log r).isSome := by
  induction log using List.reverseRecOn with
  | nil => simp [events]
  | append_singleton log op ih =>
      rw [events_append, held_append, table_concat]
      cases op with
      | uses r' o => exact ih
      | opens r' o =>
          change r ∈ insert r' _ ↔ (Function.update (table log) r' (some o) r).isSome
          rw [Finset.mem_insert, ih]
          by_cases hr : r = r'
          · simp [hr]
          · simp [hr]
      | closes r' =>
          change r ∈ Finset.erase _ r' ↔ (Function.update (table log) r' none r).isSome
          rw [Finset.mem_erase, ih]
          by_cases hr : r = r'
          · simp [hr]
          · simp [hr]

/-! ## What is owned -/

/-- **The table holds what the list says**, no more and each once, and so far nothing was
closed that was not open and nothing used that was not what was meant. -/
structure Owns (own : List (ρ × ω)) (log : List (Op ρ ω)) : Prop where
  table_iff : ∀ r o, table log r = some o ↔ (r, o) ∈ own
  nodup : (own.map Prod.fst).Nodup
  sound : Sound ∅ (events log)
  uses : ∀ pre r o, pre ++ [.uses r o] <+: log → table pre r = some o

/-- The environment opens only handles that name nothing. -/
def FreshAfter (log more : List (Op ρ ω)) : Prop := Fresh (held ∅ (events log)) (events more)

theorem freshAfter_append {log l m : List (Op ρ ω)} :
    FreshAfter log (l ++ m) ↔ FreshAfter log l ∧ FreshAfter (log ++ l) m := by
  rw [FreshAfter, events_append, fresh_append, FreshAfter, FreshAfter, events_append,
    held_append]

namespace Owns

variable {own own' : List (ρ × ω)} {log : List (Op ρ ω)} {r : ρ} {o : ω}

theorem nil : Owns ([] : List (ρ × ω)) [] where
  table_iff := by simp
  nodup := List.nodup_nil
  sound := trivial
  uses := by simp

/-- The order of the list is of no account. -/
theorem perm (h : Owns own log) (hperm : own.Perm own') : Owns own' log where
  table_iff r o := (h.table_iff r o).trans hperm.mem_iff
  nodup := (hperm.map Prod.fst).nodup_iff.mp h.nodup
  sound := h.sound
  uses := h.uses

/-- What is held is what is owned. -/
theorem mem_held_iff (h : Owns own log) : r ∈ held ∅ (events log) ↔ r ∈ own.map Prod.fst := by
  rw [Handles.mem_held_iff, Option.isSome_iff_exists]
  simp [h.table_iff]

/-- Uses before the last operation stay right. -/
theorem uses_concat (h : Owns own log) {op : Op ρ ω}
    (hop : ∀ r o, op = .uses r o → table log r = some o) :
    ∀ pre r o, pre ++ [.uses r o] <+: log ++ [op] → table pre r = some o := by
  intro pre r o hpre
  rcases List.prefix_concat_iff.mp hpre with heq | hpre
  · obtain ⟨rfl, hlast⟩ := List.append_inj' heq rfl
    exact hop r o (List.singleton_inj.mp hlast).symm
  · exact h.uses pre r o hpre

theorem opens (h : Owns own log) (hr : r ∉ held ∅ (events log)) (o : ω) :
    Owns ((r, o) :: own) (log ++ [.opens r o]) where
  table_iff r' o' := by
    rw [table_concat, List.mem_cons, ← h.table_iff, Prod.mk.injEq]
    by_cases hr' : r' = r
    · subst r'
      have hnone : table log r = none := by simpa [Handles.mem_held_iff] using hr
      simp [post, hnone, eq_comm]
    · simp [post, hr']
  nodup := by
    rw [List.map_cons, List.nodup_cons]
    exact ⟨mt h.mem_held_iff.mpr hr, h.nodup⟩
  sound := by
    rw [events_append]
    exact sound_append.mpr ⟨h.sound, trivial⟩
  uses := h.uses_concat nofun

theorem closes (h : Owns ((r, o) :: own) log) : Owns own (log ++ [.closes r]) where
  table_iff r' o' := by
    have hnodup := h.nodup
    rw [List.map_cons, List.nodup_cons] at hnodup
    rw [table_concat]
    by_cases hr' : r' = r
    · subst r'
      simp only [post, Function.update_self, reduceCtorEq, false_iff]
      intro hmem
      have hkey : r ∈ own.map Prod.fst := List.mem_map_of_mem hmem
      exact hnodup.1 hkey
    · have htable := h.table_iff r' o'
      simpa [post, hr'] using htable
  nodup := (List.nodup_cons.mp h.nodup).2
  sound := by
    rw [events_append]
    refine sound_append.mpr ⟨h.sound, ?_, trivial⟩
    exact h.mem_held_iff.mpr List.mem_cons_self
  uses := h.uses_concat nofun

theorem used (h : Owns own log) (hmem : (r, o) ∈ own) : Owns own (log ++ [.uses r o]) where
  table_iff r' o' := by
    rw [table_concat]
    exact h.table_iff r' o'
  nodup := h.nodup
  sound := by
    rw [events_append]
    exact sound_append.mpr ⟨h.sound, trivial⟩
  uses := by
    apply h.uses_concat
    intro r' o' heq
    cases heq
    exact (h.table_iff r o).mpr hmem

end Owns

/-! ## The framed triple -/

/-- **Owning `a`, the log runs and leaves `b`**, beside anything else that is open. -/
def Moves (a : List (ρ × ω)) (log : List (Op ρ ω)) (b : List (ρ × ω)) : Prop :=
  ∀ frame before, Owns (a ++ frame) before → FreshAfter before log →
    Owns (b ++ frame) (before ++ log)

namespace Moves

variable {a a' b b' c : List (ρ × ω)} {l m log : List (Op ρ ω)} {r : ρ} {o : ω}

theorem nil (a : List (ρ × ω)) : Moves a [] a := by
  intro frame before h _
  rwa [List.append_nil]

/-- One log after another. -/
theorem append (hl : Moves a l b) (hm : Moves b m c) : Moves a (l ++ m) c := by
  intro frame before h hf
  obtain ⟨hfl, hfm⟩ := freshAfter_append.mp hf
  have hmid := hl frame before h hfl
  rw [← List.append_assoc]
  exact hm frame (before ++ l) hmid hfm

/-- One operation first. -/
theorem step {op : Op ρ ω} (hop : Moves a [op] b) (hm : Moves b m c) : Moves a (op :: m) c :=
  hop.append hm

/-- Neither order matters. -/
theorem perm (h : Moves a log b) (ha : a'.Perm a) (hb : b.Perm b') : Moves a' log b' := by
  intro frame before hown hf
  have hown' : Owns (a ++ frame) before := hown.perm (ha.append_right frame)
  exact (h frame before hown' hf).perm (hb.append_right frame)

/-- **The frame rule.** -/
theorem frame (h : Moves a log b) (f : List (ρ × ω)) : Moves (a ++ f) log (b ++ f) := by
  intro frame before hown hf
  rw [List.append_assoc] at hown ⊢
  exact h (f ++ frame) before hown hf

/-- The frame rule for what stands before. -/
theorem frame_left (h : Moves a log b) (f : List (ρ × ω)) : Moves (f ++ a) log (f ++ b) :=
  (h.frame f).perm List.perm_append_comm List.perm_append_comm

theorem opens (r : ρ) (o : ω) : Moves [] [.opens r o] [(r, o)] := by
  intro frame before hown hf
  exact hown.opens hf.1 o

theorem closes (r : ρ) (o : ω) : Moves [(r, o)] [.closes r] [] := by
  intro frame before hown _
  exact hown.closes

theorem uses (hmem : (r, o) ∈ a) : Moves a [.uses r o] a := by
  intro frame before hown _
  exact hown.used (List.mem_append_left frame hmem)

/-- Using some of what is owned, in any order. -/
theorem usesAll {l : List (ρ × ω)} (h : l ⊆ a) : Moves a (l.map fun p => .uses p.1 p.2) a := by
  induction l with
  | nil => exact nil a
  | cons p l ih =>
      obtain ⟨hp, hl⟩ := List.cons_subset.mp h
      exact (uses hp).step (ih hl)

/-- Closing all that is owned, in order. -/
theorem closesAll (a : List (ρ × ω)) : Moves a (a.map fun p => .closes p.1) [] := by
  induction a with
  | nil => exact nil []
  | cons p a ih => exact ((closes p.1 p.2).frame a).step ih

/-- Opening all that is to be owned, in any order. -/
theorem opensAll (a : List (ρ × ω)) : Moves [] (a.map fun p => .opens p.1 p.2) a := by
  induction a with
  | nil => exact nil []
  | cons p a ih =>
      have hrest : Moves ([] ++ [p]) (a.map fun p => .opens p.1 p.2) (a ++ [p]) := ih.frame [p]
      exact ((opens p.1 p.2).step hrest).perm (.refl _) List.perm_append_comm

/-! ## From nothing -/

/-- A log that starts from nothing closes only what is open. -/
theorem sound (h : Moves [] log b) (hf : Fresh ∅ (events log)) : Sound ∅ (events log) :=
  (h [] [] .nil hf).sound

/-- **A log that moves nothing to nothing closes exactly once what it opens.** -/
theorem balanced (h : Moves [] log []) (hf : Fresh ∅ (events log)) : Balanced (events log) := by
  have hown : Owns [] log := h [] [] .nil hf
  refine ⟨h.sound hf, ?_⟩
  ext r
  rw [hown.mem_held_iff]
  simp

/-- **Every use is of the object that is meant**, at the moment of the use. -/
theorem table_of_uses (h : Moves [] log b) (hf : Fresh ∅ (events log)) {pre : List (Op ρ ω)}
    (hpre : pre ++ [.uses r o] <+: log) : table pre r = some o :=
  (h [] [] .nil hf).uses pre r o hpre

/-- **What a log gains**: distinct handles that were not in use, and nothing else changes. -/
theorem gains [Nonempty ω] (h : Moves [] log b) {s : Finset ρ} (hf : Fresh s (events log)) :
    (b.map Prod.fst).Nodup ∧ (∀ r ∈ b.map Prod.fst, r ∉ s) ∧ Sound s (events log) ∧
      held s (events log) = s ∪ (b.map Prod.fst).toFinset := by
  obtain ⟨o⟩ := ‹Nonempty ω›
  -- A log that brings the table to `s`, with some object behind each handle.
  let a : List (ρ × ω) := s.toList.map fun r => (r, o)
  let before : List (Op ρ ω) := a.map fun p => .opens p.1 p.2
  have hkeys : a.map Prod.fst = s.toList := by simp [a, Function.comp_def]
  have hevents : events before = s.toList.map .acquire := by
    simp [events, before, a, Op.event, Function.comp_def]
  have hheld : held ∅ (events before) = s := by simp [hevents]
  have hfresh : Fresh ∅ (events before) := by
    rw [hevents]
    exact fresh_map_acquire.mpr ⟨s.nodup_toList, by simp⟩
  have hbefore : Owns a before := by
    simpa using opensAll a [] [] .nil hfresh
  have hafter : Owns (b ++ a) (before ++ log) := by
    refine h a before hbefore ?_
    rwa [FreshAfter, hheld]
  have hnodup := hafter.nodup
  rw [List.map_append, hkeys, List.nodup_append] at hnodup
  have hsound := hafter.sound
  rw [events_append, sound_append, hheld] at hsound
  refine ⟨hnodup.1, ?_, hsound.2, ?_⟩
  · intro r hr hs
    exact hnodup.2.2 r hr r (Finset.mem_toList.mpr hs) rfl
  · ext r
    have hmem := hafter.mem_held_iff (r := r)
    rw [events_append, held_append, hheld, List.map_append, hkeys] at hmem
    rw [hmem, List.mem_append, Finset.mem_union, Finset.mem_toList, List.mem_toFinset, or_comm]

end Moves

end Handles
