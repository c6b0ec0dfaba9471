import DmabufPipeline.Lib.Transition
import Mathlib.Tactic.Common

/-!
# Programs that stop on a flag

A program installs handlers for some signals, goes through its start-up, and then runs a
loop that tests a flag before each turn; a handler lowers the flag. The flag may also be
raised by a statement of the start-up. The handler is a step of its own, so it runs
between any two steps of the program.

`Stopped` is what one expects of a stop request: the flag stays down, and at most the
turn whose test had been passed still starts. It holds throughout a run exactly when the
flag is not raised after a request.

## Main definitions

* `Loop` — a loop with its flag, as a transition system with a few laws.
* `Program` — a start-up in front of a loop.
* `Program.step` — a step of the program, or the delivery of a signal.
* `stopped_iff` — when a request is kept.
-/

namespace StopFlag

open Transition

/-- A loop under a flag. A turn of the loop starts with a step that `enters`, for which a
test of the flag has `armed` it. -/
structure Loop where
  State : Type
  Label : Type
  [decEq : DecidableEq Label]
  step : State → Label → Option State
  /-- The label of the handler. -/
  signal : Label
  running : State → Bool
  store : State → Bool → State
  armed : State → Bool
  enters : Label → Bool
  running_store : ∀ s v, running (store s v) = v
  armed_store : ∀ s v, armed (store s v) = armed s
  step_signal : ∀ s, step s signal = some (store s false)
  /-- The loop does not raise the flag. -/
  running_step : ∀ s a s', step s a = some s' → running s' = true → running s = true
  /-- Only a test that finds the flag up arms the loop. -/
  armed_step : ∀ s a s', step s a = some s' → armed s' = true →
    running s = true ∨ armed s = true ∧ enters a = false
  enters_step : ∀ s a s', step s a = some s' → enters a = true →
    armed s = true ∧ armed s' = false

instance (L : Loop) : DecidableEq L.Label := L.decEq

/-- A statement of a start-up, for signals `ι` and calls `κ`. -/
inductive Stmt (ι κ : Type)
  | install (sig : ι)
  /-- A store of `true` to the flag. -/
  | raise
  /-- A call; the program returns when it fails. -/
  | call (c : κ)
  deriving DecidableEq, Repr

/-- A start-up in front of a loop. -/
structure Program (ι κ : Type) where
  startup : List (Stmt ι κ)
  loop : Loop
  init : loop.State

/-- Where a program stands. -/
inductive Phase (ι κ : Type)
  | startup (rest : List (Stmt ι κ))
  | loop
  /-- Returned early, or killed by a signal without a handler. -/
  | ended
  deriving DecidableEq, Repr

/-- The program has not ended. -/
def Phase.alive {ι κ : Type} : Phase ι κ → Bool
  | .ended => false
  | _ => true

/-- The start-up is over. -/
def Phase.inLoop {ι κ : Type} : Phase ι κ → Bool
  | .loop => true
  | _ => false

namespace Program

variable {ι κ : Type} {P : Program ι κ}

/-- A program in execution. The last two fields record whether a handler has run, and how
many turns of the loop have started since. -/
structure State (P : Program ι κ) where
  phase : Phase ι κ := .startup P.startup
  proc : P.loop.State := P.init
  installed : List ι := []
  requested : Bool := false
  turns : ℕ := 0

/-- A statement with its answer, a step of the loop, or the delivery of a signal. -/
inductive Act (P : Program ι κ)
  | stmt (ok : Bool)
  | loop (a : P.loop.Label)
  | deliver (sig : ι)

/-- One step. Without a handler a signal ends the program. -/
def step [DecidableEq ι] (s : State P) : Act P → Option (State P)
  | .stmt ok =>
      match s.phase with
      | .startup [] => some { s with phase := .loop }
      | .startup (.install sig :: rest) =>
          some { s with phase := .startup rest, installed := sig :: s.installed }
      | .startup (.raise :: rest) =>
          some { s with phase := .startup rest, proc := P.loop.store s.proc true }
      | .startup (.call _ :: rest) =>
          some { s with phase := if ok then .startup rest else .ended }
      | _ => none
  | .loop a =>
      if s.phase.inLoop = true ∧ a ≠ P.loop.signal then
        (P.loop.step s.proc a).map fun p =>
          { s with proc := p, turns := s.turns + (s.requested && P.loop.enters a).toNat }
      else none
  | .deliver sig =>
      if s.phase.alive = true then
        if sig ∈ s.installed then
          (P.loop.step s.proc P.loop.signal).map fun p => { s with proc := p, requested := true }
        else some { s with phase := .ended }
      else none

/-- A request is kept: the flag is down, and at most one turn has started since. -/
def Stopped (s : State P) : Prop :=
  s.requested = true → P.loop.running s.proc = false ∧ s.turns ≤ 1

/-- The statement that comes next raises the flag. -/
def raisesNext (s : State P) : Bool :=
  match s.phase with
  | .startup (.raise :: _) => true
  | _ => false

/-- The flag is not raised after a request. -/
def KeepsRequest (s : State P) : Act P → Prop
  | .stmt _ => ¬ (s.requested = true ∧ raisesNext s = true)
  | _ => True

instance (s : State P) (a : Act P) : Decidable (KeepsRequest s a) := by
  unfold KeepsRequest
  split <;> infer_instance

/-- The strengthening that steps keep: the turn that may still start counts when the test
is passed, not when it starts. -/
structure Kept (s : State P) : Prop where
  before : s.requested = false → s.turns = 0
  running : s.requested = true → P.loop.running s.proc = false
  turns : s.requested = true → s.turns + (P.loop.armed s.proc).toNat ≤ 1

theorem Kept.init : Kept ({} : State P) := ⟨fun _ => rfl, nofun, nofun⟩

theorem Kept.stopped {s : State P} (h : Kept s) : Stopped s := by
  intro hr
  have ht := h.turns hr
  exact ⟨h.running hr, by omega⟩

/-- A step that changes neither the loop nor the record. -/
theorem Kept.congr {s s' : State P} (h : Kept s) (hp : s'.proc = s.proc)
    (hr : s'.requested = s.requested) (ht : s'.turns = s.turns) : Kept s' := by
  refine ⟨?_, ?_, ?_⟩
  · rw [hr, ht]
    exact h.before
  · rw [hr, hp]
    exact h.running
  · rw [hr, ht, hp]
    exact h.turns

section Steps
variable [DecidableEq ι] {s s' : State P}

/-- A statement that does not raise the flag after a request. -/
theorem Kept.stmt (h : Kept s) {ok : Bool} (hC : KeepsRequest s (.stmt ok))
    (hs : step s (.stmt ok) = some s') : Kept s' := by
  simp only [step] at hs
  split at hs
  · obtain rfl := Option.some.inj hs
    exact h.congr rfl rfl rfl
  · obtain rfl := Option.some.inj hs
    exact h.congr rfl rfl rfl
  · rename_i rest hphase
    obtain rfl := Option.some.inj hs
    have hreq : s.requested = false := by
      cases hr : s.requested with
      | false => rfl
      | true => exact absurd ⟨hr, by rw [raisesNext, hphase]⟩ hC
    exact ⟨h.before, by simp [hreq], by simp [hreq]⟩
  · obtain rfl := Option.some.inj hs
    exact h.congr rfl rfl rfl
  · cases hs

/-- **A step of the loop**: with the flag down the test arms nothing, and the turn that a
step enters is the one that was armed. -/
theorem Kept.loop (h : Kept s) {a : P.loop.Label} (hs : step s (.loop a) = some s') :
    Kept s' := by
  obtain ⟨-, hs⟩ := Option.ite_none_right_eq_some.mp hs
  obtain ⟨p, hp, rfl⟩ := Option.map_eq_some_iff.mp hs
  refine ⟨fun hr => ?_, fun hr => ?_, fun hr => ?_⟩
  · have hr : s.requested = false := hr
    simpa [hr] using h.before hr
  · have hdown := h.running hr
    by_contra hup
    have := P.loop.running_step _ _ _ hp (by simpa using hup)
    simp [hdown] at this
  · have hr : s.requested = true := hr
    have hdown := h.running hr
    have hturns := h.turns hr
    simp only [hr, Bool.true_and]
    cases he : P.loop.enters a with
    | true =>
        obtain ⟨harmed, hdone⟩ := P.loop.enters_step _ _ _ hp he
        simpa [harmed, hdone] using hturns
    | false =>
        cases harmed : P.loop.armed p with
        | false => simpa using Nat.le_of_add_right_le hturns
        | true =>
            rcases P.loop.armed_step _ _ _ hp harmed with hup | ⟨harmed', -⟩
            · simp [hdown] at hup
            · simpa [harmed'] using hturns

/-- **The handler**: a first request finds no turn counted and at most one armed. -/
theorem Kept.deliver (h : Kept s) {sig : ι} (hs : step s (.deliver sig) = some s') :
    Kept s' := by
  obtain ⟨-, hs⟩ := Option.ite_none_right_eq_some.mp hs
  split at hs
  · obtain ⟨p, hp, rfl⟩ := Option.map_eq_some_iff.mp hs
    obtain rfl : P.loop.store s.proc false = p :=
      Option.some.inj ((P.loop.step_signal s.proc).symm.trans hp)
    refine ⟨nofun, fun _ => P.loop.running_store _ _, fun _ => ?_⟩
    rw [P.loop.armed_store]
    cases hr : s.requested with
    | true => exact h.turns hr
    | false =>
        have hturns := h.before hr
        have harmed := Bool.toNat_le (P.loop.armed s.proc)
        simp only [hturns]
        omega
  · obtain rfl := Option.some.inj hs
    exact h.congr rfl rfl rfl

/-- A raise after a request shows at once. -/
theorem not_stopped_of_raise {ok : Bool} (hreq : s.requested = true) (hraise : raisesNext s = true)
    (hs : step s (.stmt ok) = some s') : ¬ Stopped s' := by
  rw [raisesNext] at hraise
  split at hraise
  · rename_i rest hphase
    simp only [step, hphase] at hs
    obtain rfl := Option.some.inj hs
    intro h
    have hdown := (h hreq).1
    simp [P.loop.running_store] at hdown
  · cases hraise

/-- **When a request is kept**: the flag is down in every state after a request, and at
most one turn starts, iff the flag is not raised after a request. -/
theorem stopped_iff {t : State P} {as : List (Act P)} (hrun : run step ({} : State P) as = some t) :
    Always step Stopped ({} : State P) as ↔ Meets step KeepsRequest ({} : State P) as := by
  apply always_iff_meets_of_strengthening (Q := Kept) (G := fun _ _ => True)
    (fun _ h => h.stopped) _ _ Kept.init (meets_of_forall (fun _ _ => trivial) _ _) hrun
  · intro s a s' h _ hC hs
    cases a with
    | stmt ok => exact h.stmt hC hs
    | loop a => exact h.loop hs
    | deliver sig => exact h.deliver hs
  · intro s a s' h _ hs hstop
    cases a with
    | stmt ok => exact fun ⟨hreq, hraise⟩ => not_stopped_of_raise hreq hraise hs hstop
    | loop a | deliver sig => trivial

end Steps

/-! ## A start-up that does not raise the flag -/

/-- No statement that is still to come raises the flag. -/
def NoRaise (s : State P) : Prop :=
  ∀ rest, s.phase = .startup rest → .raise ∉ rest

/-- **Without a raise in the start-up every request is kept.** -/
theorem meets_of_no_raise [DecidableEq ι] (h : .raise ∉ P.startup) (as : List (Act P)) :
    Meets step KeepsRequest ({} : State P) as := by
  apply meets_of_invariant (I := NoRaise)
  · intro s a s' hn hs
    cases a with
    | stmt ok =>
        simp only [step] at hs
        split at hs
        · obtain rfl := Option.some.inj hs
          nofun
        · rename_i hphase
          obtain rfl := Option.some.inj hs
          rintro rest ⟨⟩ hmem
          exact hn _ hphase (List.mem_cons_of_mem _ hmem)
        · rename_i hphase
          obtain rfl := Option.some.inj hs
          exact absurd List.mem_cons_self (hn _ hphase)
        · rename_i hphase
          obtain rfl := Option.some.inj hs
          intro rest hrest hmem
          cases ok with
          | false => cases hrest
          | true =>
              cases hrest
              exact hn _ hphase (List.mem_cons_of_mem _ hmem)
        · cases hs
    | loop a =>
        obtain ⟨-, hs⟩ := Option.ite_none_right_eq_some.mp hs
        obtain ⟨p, hp, rfl⟩ := Option.map_eq_some_iff.mp hs
        exact hn
    | deliver sig =>
        obtain ⟨-, hs⟩ := Option.ite_none_right_eq_some.mp hs
        split at hs
        · obtain ⟨p, hp, rfl⟩ := Option.map_eq_some_iff.mp hs
          exact hn
        · obtain rfl := Option.some.inj hs
          nofun
  · intro s a hn
    cases a with
    | stmt ok =>
        rintro ⟨-, hraise⟩
        rw [raisesNext] at hraise
        split at hraise
        · rename_i hphase
          exact hn _ hphase List.mem_cons_self
        · cases hraise
    | loop a | deliver sig => trivial
  · rintro rest ⟨⟩
    exact h

end Program
end StopFlag
