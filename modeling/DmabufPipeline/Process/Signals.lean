import DmabufPipeline.Lib.StopFlag
import DmabufPipeline.Process.Publisher
import DmabufPipeline.Process.Subscriber

/-!
# Stop signals

The five `main` functions from their first statement on: the start-up of each as its list
of statements, and after it the publisher or the subscriber. SIGINT and SIGTERM have one
handler, which lowers `RUNNING` (`g_running`); `signal` keeps it installed.

The two Rust publishers store `true` to `RUNNING` after they have installed the handlers,
though the flag starts as `true`; the Rust subscriber and the C++ programs do not.

## Main definitions

* `Publisher.loop`, `Subscriber.loop` — the frame loops with their flag.
* `Main.startup`, `Main.program` — the five programs.
* `stop_iff` — when a stop request is kept.
* `stop_of_no_store` — the programs that keep every request.
-/

namespace DmabufPipeline

open Transition StopFlag

/-! ## The frame loops -/

namespace Publisher

variable {p p' : Publisher} {a : Act}

/-- The call that starts a turn of the frame loop. -/
def Act.startsTurn : Act → Bool
  | .dequeue _ => true
  | _ => false

/-- Nothing raises the flag. -/
theorem running_of_step (h : p.Step a p') (hr : p'.running = true) : p.running = true := by
  cases h with
  | signal => cases hr
  | _ => exact hr

/-- A turn is due only after a test that found the flag up. -/
theorem dequeue_of_step (h : p.Step a p') (hpc : p'.pc = .dequeue) :
    p.running = true ∨ p.pc = .dequeue ∧ a.startsTurn = false := by
  cases h with
  | loopTest _ hrun => exact .inl hrun
  | signal => exact .inr ⟨hpc, rfl⟩
  | _ => cases hpc

/-- The publisher's frame loop. -/
def loop : Loop where
  State := Publisher
  Label := Act
  step := step
  signal := .signal
  running p := p.running
  store p v := { p with running := v }
  armed p := p.pc = .dequeue
  enters := Act.startsTurn
  running_store _ _ := rfl
  armed_store _ _ := rfl
  step_signal _ := rfl
  running_step _ _ _ h := running_of_step (step_iff.mp h)
  armed_step p a p' h ha := by
    rcases dequeue_of_step (step_iff.mp h) (of_decide_eq_true ha) with hr | ⟨hpc, hturn⟩
    · exact .inl hr
    · exact .inr ⟨decide_eq_true hpc, hturn⟩
  enters_step p a p' h he := by
    cases step_iff.mp h with
    | dequeue i hpc | dequeueFailed hpc => exact ⟨decide_eq_true hpc, by simp⟩
    | _ => cases he

end Publisher

namespace Subscriber

variable {φ : Type} {u u' : Subscriber φ} {a : Act φ}

/-- The call that starts a turn of the frame loop. -/
def Act.startsTurn : Act φ → Bool
  | .recvIdx _ => true
  | _ => false

/-- Nothing raises the flag. -/
theorem running_of_step (h : u.Step a u') (hr : u'.running = true) : u.running = true := by
  cases h with
  | signal => cases hr
  | _ => exact hr

/-- A turn is due only after a test that found the flag up. -/
theorem recvIdx_of_step (h : u.Step a u') (hpc : u'.pc = .recvIdx) :
    u.running = true ∨ u.pc = .recvIdx ∧ a.startsTurn = false := by
  cases h with
  | loopTest _ hrun => exact .inl (Bool.and_eq_true_iff.mp hrun).1
  | signal | closeRequest => exact .inr ⟨hpc, rfl⟩
  | _ => cases hpc

/-- The subscriber's frame loop. -/
def loop (φ : Type) [DecidableEq φ] : Loop where
  State := Subscriber φ
  Label := Act φ
  step := step
  signal := .signal
  running u := u.running
  store u v := { u with running := v }
  armed u := u.pc = .recvIdx
  enters := Act.startsTurn
  running_store _ _ := rfl
  armed_store _ _ := rfl
  step_signal _ := rfl
  running_step _ _ _ h := running_of_step (step_iff.mp h)
  armed_step u a u' h ha := by
    rcases recvIdx_of_step (step_iff.mp h) (of_decide_eq_true ha) with hr | ⟨hpc, hturn⟩
    · exact .inl hr
    · exact .inr ⟨decide_eq_true hpc, hturn⟩
  enters_step u a u' h he := by
    cases step_iff.mp h with
    | recvIdx i hpc | peerClosed hpc | recvErr hpc => exact ⟨decide_eq_true hpc, by simp⟩
    | _ => cases he

end Subscriber

/-! ## The five programs -/

/-- The signals that stop a program. -/
inductive StopSignal
  | SIGINT
  | SIGTERM
  deriving DecidableEq, Repr

/-- The calls of the start-ups, up to where `Publisher` and `Subscriber` begin. -/
inductive StartupCall
  | parseArgs
  | ignoreSigpipe
  | openDevice
  | v4l2_to_drm_fourcc
  | alloc_dma_heap
  | start
  deriving DecidableEq, Repr

/-- The programs of the repository. -/
inductive Main
  | publisher
  | publisher_dma
  | subscriber
  | cppPublisher
  | cppSubscriber
  deriving DecidableEq, Repr

namespace Main

/-- The statements before the listening socket is created, or before the subscriber
connects. -/
def startup : Main → List (Stmt StopSignal StartupCall)
  | .publisher =>
      [.call .parseArgs, .install .SIGINT, .install .SIGTERM, .call .ignoreSigpipe, .raise,
        .call .openDevice, .call .start]
  | .publisher_dma =>
      [.call .parseArgs, .install .SIGINT, .install .SIGTERM, .call .ignoreSigpipe, .raise,
        .call .openDevice, .call .v4l2_to_drm_fourcc, .call .alloc_dma_heap, .call .start]
  | .subscriber =>
      [.call .parseArgs, .install .SIGINT, .install .SIGTERM, .call .ignoreSigpipe]
  | .cppPublisher =>
      [.call .parseArgs, .install .SIGINT, .install .SIGTERM, .call .ignoreSigpipe,
        .call .openDevice, .call .start]
  | .cppSubscriber =>
      [.call .parseArgs, .install .SIGINT, .install .SIGTERM, .call .ignoreSigpipe]

/-- A program from its first statement on; the flag is initialised to `true`. -/
def program (m : Main) : Program StopSignal StartupCall :=
  match m with
  | .publisher | .publisher_dma | .cppPublisher =>
      { startup := m.startup, loop := Publisher.loop, init := ({} : Publisher) }
  | .subscriber | .cppSubscriber =>
      { startup := m.startup, loop := Subscriber.loop ℕ, init := ({} : Subscriber ℕ) }

@[simp] theorem startup_program (m : Main) : m.program.startup = m.startup := by
  cases m <;> rfl

end Main

/-- **When a stop request is kept**: in every run of each program, the flag is false in
every state after a handler has run and at most one turn of the frame loop starts, iff no
handler runs before `RUNNING.store(true)`. -/
theorem stop_iff (m : Main) {s : Program.State m.program} (as : List (Program.Act m.program))
    (hrun : run Program.step ({} : Program.State m.program) as = some s) :
    Always Program.step Program.Stopped ({} : Program.State m.program) as ↔
      Meets Program.step Program.KeepsRequest ({} : Program.State m.program) as :=
  Program.stopped_iff hrun

/-- **The subscriber and the C++ programs keep every stop request.** -/
theorem stop_of_no_store {m : Main} (hm : m ≠ .publisher) (hdma : m ≠ .publisher_dma)
    {s : Program.State m.program} (as : List (Program.Act m.program))
    (hrun : run Program.step ({} : Program.State m.program) as = some s) :
    Always Program.step Program.Stopped ({} : Program.State m.program) as := by
  have hstore : .raise ∉ m.program.startup := by
    rw [Main.startup_program]
    cases m with
    | publisher => exact absurd rfl hm
    | publisher_dma => exact absurd rfl hdma
    | _ => decide
  exact (Program.stopped_iff hrun).mpr (Program.meets_of_no_raise hstore as)

/-- The publisher's steps from the end of the start-up to the first turn of the loop. -/
def toFirstTurn : List (Program.Act Main.publisher.program) :=
  [.stmt true, .loop (.prepare true : Publisher.Act), .loop (.accept true : Publisher.Act),
    .loop (.sendHandshake .ok : Publisher.Act), .loop (Publisher.Act.loopTest)]

/-- A turn of the loop, with the test that follows. -/
def oneTurn : List (Program.Act Main.publisher.program) :=
  [.loop (.dequeue (some 0) : Publisher.Act), .loop (.sendIdx 0 .ok : Publisher.Act),
    .loop (.waitForAck true : Publisher.Act), .loop (.requeue 0 true : Publisher.Act),
    .loop (Publisher.Act.loopTest)]

/-- A request between the loop test and the turn it starts. -/
theorem stop_afterTest :
    Always Program.step Program.Stopped ({} : Program.State Main.publisher.program)
      (List.replicate 7 (.stmt true) ++ toFirstTurn ++ [.deliver .SIGTERM] ++ oneTurn) := by
  obtain ⟨s, hrun⟩ := Option.isSome_iff_exists.mp
    (by decide : (run Program.step ({} : Program.State Main.publisher.program)
      (List.replicate 7 (.stmt true) ++ toFirstTurn ++ [.deliver .SIGTERM] ++ oneTurn)).isSome)
  exact (stop_iff .publisher _ hrun).mpr (by decide)

/-- **A request before the store is lost**: SIGINT arrives when its handler has just been
installed, the store raises the flag again, and the frame loop goes on. -/
theorem not_stop_beforeStore :
    ∃ s, run Program.step ({} : Program.State Main.publisher.program)
        (List.replicate 2 (.stmt true) ++ [.deliver .SIGINT] ++ List.replicate 5 (.stmt true) ++
          toFirstTurn ++ oneTurn ++ oneTurn) = some s ∧
      s.requested = true ∧ s.turns = 2 ∧ Publisher.running s.proc = true ∧
      ¬ Program.Stopped s := by
  obtain ⟨s, hrun, hs⟩ := Option.map_eq_some_iff.mp
    (by decide : (run Program.step ({} : Program.State Main.publisher.program)
        (List.replicate 2 (.stmt true) ++ [.deliver .SIGINT] ++ List.replicate 5 (.stmt true) ++
          toFirstTurn ++ oneTurn ++ oneTurn)).map
        (fun s => (s.requested, s.turns, Publisher.running s.proc)) = some (true, 2, true))
  simp only [Prod.mk.injEq] at hs
  obtain ⟨hreq, hturns, hup⟩ := hs
  refine ⟨s, hrun, hreq, hturns, hup, fun h => ?_⟩
  have hdown : Publisher.running s.proc = false := (h hreq).1
  simp [hup] at hdown

end DmabufPipeline
