import Mathlib.Data.Finset.Basic
import Mathlib.Tactic.Common

/-!
# Ledgers of owned resources

A log of acquisitions and releases of resources such as file descriptors. The environment
hands out only resources that are not held (`Fresh`), and may hand out a released one
again. The owner releases only what it holds (`Sound`). A log is `Balanced` when it is
sound and nothing is held at its end, which is to say that every acquisition is followed
by exactly one release of the same resource.

## Main definitions

* `Event`, `held` — a log and what is held after it.
* `Fresh`, `Sound` — what the environment and the owner must obey.
* `Balanced` — everything acquired is released exactly once.
-/

namespace Ledger

variable {ρ : Type*} [DecidableEq ρ]

/-- An entry of the log. -/
inductive Event (ρ : Type*)
  | acquire (r : ρ)
  | release (r : ρ)
  deriving DecidableEq, Repr

/-- What is held after one more entry. -/
def post (s : Finset ρ) : Event ρ → Finset ρ
  | .acquire r => insert r s
  | .release r => s.erase r

/-- What is held after a log. -/
def held (s : Finset ρ) (log : List (Event ρ)) : Finset ρ := log.foldl post s

/-- Only resources that are not held are handed out. -/
def Fresh : Finset ρ → List (Event ρ) → Prop
  | _, [] => True
  | s, .acquire r :: log => r ∉ s ∧ Fresh (insert r s) log
  | s, .release r :: log => Fresh (s.erase r) log

/-- Only resources that are held are released. -/
def Sound : Finset ρ → List (Event ρ) → Prop
  | _, [] => True
  | s, .acquire r :: log => Sound (insert r s) log
  | s, .release r :: log => r ∈ s ∧ Sound (s.erase r) log

/-- Everything acquired is released exactly once. -/
structure Balanced (log : List (Event ρ)) : Prop where
  sound : Sound ∅ log
  settled : held ∅ log = ∅

instance Fresh.decidable : ∀ (s : Finset ρ) (log : List (Event ρ)), Decidable (Fresh s log)
  | _, [] => .isTrue trivial
  | s, .acquire r :: log =>
      have := Fresh.decidable (insert r s) log
      inferInstanceAs (Decidable (r ∉ s ∧ _))
  | s, .release r :: log => Fresh.decidable (s.erase r) log

@[simp] theorem held_nil (s : Finset ρ) : held s [] = s := rfl

@[simp] theorem held_cons (s : Finset ρ) (e : Event ρ) (log : List (Event ρ)) :
    held s (e :: log) = held (post s e) log := rfl

@[simp] theorem held_append (s : Finset ρ) (l m : List (Event ρ)) :
    held s (l ++ m) = held (held s l) m := List.foldl_append ..

theorem fresh_append {s : Finset ρ} {l m : List (Event ρ)} :
    Fresh s (l ++ m) ↔ Fresh s l ∧ Fresh (held s l) m := by
  induction l generalizing s with
  | nil => simp [Fresh]
  | cons e l ih =>
      cases e with
      | acquire r => simp [Fresh, ih, post, and_assoc]
      | release r => simp [Fresh, ih, post]

theorem sound_append {s : Finset ρ} {l m : List (Event ρ)} :
    Sound s (l ++ m) ↔ Sound s l ∧ Sound (held s l) m := by
  induction l generalizing s with
  | nil => simp [Sound]
  | cons e l ih =>
      cases e with
      | acquire r => simp [Sound, ih, post]
      | release r => simp [Sound, ih, post, and_assoc]

/-- **A resource that is not released stays held.** -/
theorem mem_held_of_not_released {s : Finset ρ} {r : ρ} {log : List (Event ρ)} (hr : r ∈ s)
    (hlog : .release r ∉ log) : r ∈ held s log := by
  induction log generalizing s with
  | nil => exact hr
  | cons e log ih =>
      rw [held_cons]
      apply ih _ (fun hmem => hlog (List.mem_cons_of_mem _ hmem))
      cases e with
      | acquire r' => exact Finset.mem_insert_of_mem hr
      | release r' =>
          have hne : r ≠ r' := by
            intro heq
            subst heq
            exact hlog List.mem_cons_self
          exact Finset.mem_erase_of_ne_of_mem hne hr

/-- A resource that is held, and not released, is not handed out. -/
theorem Fresh.not_acquired {s : Finset ρ} {r : ρ} {log : List (Event ρ)} (h : Fresh s log)
    (hr : r ∈ s) (hlog : .release r ∉ log) : .acquire r ∉ log := by
  intro hmem
  obtain ⟨l, m, rfl⟩ := List.append_of_mem hmem
  obtain ⟨-, hfresh⟩ := fresh_append.mp h
  have hl : .release r ∉ l := fun hl => hlog (List.mem_append_left _ hl)
  exact hfresh.1 (mem_held_of_not_released hr hl)

/-- What a balanced log acquires, it releases. -/
theorem Balanced.released {r : ρ} {log : List (Event ρ)} (h : Balanced log)
    (hr : .acquire r ∈ log) : .release r ∈ log := by
  by_contra hnot
  obtain ⟨l, m, rfl⟩ := List.append_of_mem hr
  have hm : .release r ∉ m := by
    intro hmem
    exact hnot (List.mem_append_right _ (List.mem_cons_of_mem _ hmem))
  have hheld : r ∈ held (insert r (held ∅ l)) m :=
    mem_held_of_not_released (Finset.mem_insert_self ..) hm
  have hempty := h.settled
  rw [held_append, held_cons, post] at hempty
  rw [hempty] at hheld
  exact Finset.notMem_empty r hheld

theorem Balanced.nil : Balanced ([] : List (Event ρ)) := ⟨trivial, rfl⟩

/-- Two balanced logs, one after the other. -/
theorem Balanced.append {l m : List (Event ρ)} (hl : Balanced l) (hm : Balanced m) :
    Balanced (l ++ m) where
  sound := sound_append.mpr ⟨hl.sound, by rw [hl.settled]; exact hm.sound⟩
  settled := by rw [held_append, hl.settled, hm.settled]

/-! ## Logs that only acquire, or only release -/

@[simp] theorem held_map_acquire (s : Finset ρ) (l : List ρ) :
    held s (l.map .acquire) = s ∪ l.toFinset := by
  induction l generalizing s with
  | nil => simp
  | cons r l ih =>
      rw [List.map_cons, held_cons, ih, post, List.toFinset_cons]
      ext x
      simp only [Finset.mem_union, Finset.mem_insert]
      tauto

@[simp] theorem held_map_release (s : Finset ρ) (l : List ρ) :
    held s (l.map .release) = s \ l.toFinset := by
  induction l generalizing s with
  | nil => simp
  | cons r l ih =>
      rw [List.map_cons, held_cons, ih, post, List.toFinset_cons]
      ext x
      simp only [Finset.mem_sdiff, Finset.mem_erase, Finset.mem_insert]
      tauto

/-- The resources of a fresh log of acquisitions are distinct, and none was held. -/
theorem fresh_map_acquire {s : Finset ρ} {l : List ρ} :
    Fresh s (l.map .acquire) ↔ l.Nodup ∧ ∀ r ∈ l, r ∉ s := by
  induction l generalizing s with
  | nil => simp [Fresh]
  | cons r l ih =>
      simp only [List.map_cons, Fresh, ih, List.nodup_cons, List.forall_mem_cons,
        Finset.mem_insert]
      constructor
      · rintro ⟨hr, hl, hs⟩
        refine ⟨⟨?_, hl⟩, hr, fun x hx hxs => hs x hx (.inr hxs)⟩
        intro hmem
        exact hs r hmem (.inl rfl)
      · rintro ⟨⟨hr, hl⟩, hrs, hs⟩
        refine ⟨hrs, hl, ?_⟩
        rintro x hx (rfl | hxs)
        · exact hr hx
        · exact hs x hx hxs

theorem sound_map_acquire (s : Finset ρ) (l : List ρ) : Sound s (l.map .acquire) := by
  induction l generalizing s with
  | nil => trivial
  | cons r l ih => exact ih _

/-- A log of releases is sound when each resource is held and none is released twice. -/
theorem sound_map_release {s : Finset ρ} {l : List ρ} :
    Sound s (l.map .release) ↔ l.Nodup ∧ ∀ r ∈ l, r ∈ s := by
  induction l generalizing s with
  | nil => simp [Sound]
  | cons r l ih =>
      simp only [List.map_cons, Sound, ih, List.nodup_cons, List.forall_mem_cons,
        Finset.mem_erase]
      constructor
      · rintro ⟨hr, hl, hs⟩
        exact ⟨⟨fun hmem => (hs r hmem).1 rfl, hl⟩, hr, fun x hx => (hs x hx).2⟩
      · rintro ⟨⟨hr, hl⟩, hrs, hs⟩
        refine ⟨hrs, hl, fun x hx => ⟨?_, hs x hx⟩⟩
        intro heq
        subst heq
        exact hr hx

/-- **New resources, all acquired and then all released in any order**, leave what was held
before. -/
theorem settles_of_perm {s : Finset ρ} {l l' : List ρ} (hfresh : Fresh s (l.map .acquire))
    (hperm : l'.Perm l) :
    Sound s (l.map .acquire ++ l'.map .release) ∧
      held s (l.map .acquire ++ l'.map .release) = s := by
  obtain ⟨hnodup, hnew⟩ := fresh_map_acquire.mp hfresh
  constructor
  · refine sound_append.mpr ⟨sound_map_acquire s l, sound_map_release.mpr ⟨?_, ?_⟩⟩
    · exact hperm.nodup_iff.mpr hnodup
    · intro r hr
      rw [held_map_acquire, Finset.mem_union, List.mem_toFinset]
      exact .inr (hperm.mem_iff.mp hr)
  · have hset : l'.toFinset = l.toFinset := List.toFinset_eq_of_perm l' l hperm
    have hdisj : Disjoint s l.toFinset := by
      rw [Finset.disjoint_right]
      intro r hr
      exact hnew r (List.mem_toFinset.mp hr)
    rw [held_append, held_map_acquire, held_map_release, hset]
    exact Finset.union_sdiff_cancel_right hdisj

/-- The same from nothing. -/
theorem balanced_of_perm (l l' : List ρ) (hl : l.Nodup) (hperm : l'.Perm l) :
    Balanced (l.map .acquire ++ l'.map .release) := by
  have hfresh : Fresh ∅ (l.map Event.acquire) := fresh_map_acquire.mpr ⟨hl, by simp⟩
  obtain ⟨hsound, hheld⟩ := settles_of_perm hfresh hperm
  exact ⟨hsound, hheld⟩

end Ledger
