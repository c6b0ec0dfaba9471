import DmabufPipeline.Wire.Message

/-!
# The publisher process

The control flow of `main` in `publisher/src/main.rs`, `publisher_dma.rs` and
`publisher.cpp` from the return of `start()` to the beginning of the capture's
destructor. The three programs have the same frame loop and the same exits; what they
do before `start()` returns does not concern the session.

A label is one call of `main` with the answer it got, so a run chooses freely which
calls fail. The counters and prints of the frame-rate log are left out.

## Main definitions

* `Publisher.Pc` — the call `main` is about to make, with the live index.
* `Publisher.step` — one call of `main`, or the signal handler.
* `Publisher.Step`, `Publisher.step_iff` — the same as a list of the possible steps.
* `Publisher.held` — the buffer dequeued and not given back to the driver.
-/

namespace DmabufPipeline

namespace Publisher

/-- The call that `main` makes next. -/
inductive Pc
  /-- Look up the DRM FOURCC and create the listening socket. -/
  | prepare
  /-- Inside `accept_connection`. -/
  | accept
  | sendHandshake
  /-- `while RUNNING.load(..)`. -/
  | loopTest
  | dequeue
  | sendIdx (idx : ℕ)
  | waitForAck (idx : ℕ)
  /-- The requeue of an acknowledged frame, after which the loop goes round. -/
  | requeue (idx : ℕ)
  /-- `let _ = cap.requeue(idx); break;` after a failed send or a failed wait. -/
  | requeueAndBreak (idx : ℕ)
  /-- Past the loop, or returning early; `failed` is the buffer whose QBUF failed. -/
  | left (failed : Option ℕ)
  /-- `client` and `listen_fd` have been dropped, which closes the connection. -/
  | clientClosed (failed : Option ℕ)
  /-- `Drop for V4l2Capture` has begun: STREAMOFF, closes, REQBUFS(0). -/
  | teardown (failed : Option ℕ)
  deriving DecidableEq, Repr

/-- A call of `main` with its answer, or the delivery of a signal. -/
inductive Act
  | prepare (ok : Bool)
  | accept (ok : Bool)
  | sendHandshake (r : Sent)
  | loopTest
  | dequeue (r : Option ℕ)
  | sendIdx (idx : ℕ) (r : Sent)
  | waitForAck (ok : Bool)
  | requeue (idx : ℕ) (ok : Bool)
  | dropClient
  | dropCapture
  | signal
  deriving DecidableEq, Repr

end Publisher

/-- The publisher process: where `main` stands and the `RUNNING` flag. -/
structure Publisher where
  pc : Publisher.Pc := .prepare
  running : Bool := true
  deriving DecidableEq, Repr

namespace Publisher

/-- Move `main` on to another call. -/
def goto (p : Publisher) (pc : Pc) : Publisher := { p with pc := pc }

/-- One step of the publisher; a label is enabled only where `main` stands at that
call. `main`'s locals drop in reverse order of declaration, so the connection closes
before the capture is torn down. -/
def step (p : Publisher) : Act → Option Publisher
  | .prepare ok =>
      if p.pc = .prepare then some (p.goto (if ok then .accept else .left none)) else none
  | .accept ok =>
      if p.pc = .accept then some (p.goto (if ok then .sendHandshake else .left none)) else none
  | .sendHandshake r =>
      if p.pc = .sendHandshake then
        some (p.goto (if r = .ok then .loopTest else .left none)) else none
  | .loopTest =>
      if p.pc = .loopTest then
        some (p.goto (if p.running then .dequeue else .left none)) else none
  | .dequeue r =>
      if p.pc = .dequeue then
        some (p.goto (match r with | some i => .sendIdx i | none => .left none)) else none
  | .sendIdx i r =>
      if p.pc = .sendIdx i then
        some (p.goto (if r = .ok then .waitForAck i else .requeueAndBreak i)) else none
  | .waitForAck ok =>
      match p.pc with
      | .waitForAck i => some (p.goto (if ok then .requeue i else .requeueAndBreak i))
      | _ => none
  | .requeue i ok =>
      if p.pc = .requeue i then some (p.goto (if ok then .loopTest else .left (some i)))
      else if p.pc = .requeueAndBreak i then
        some (p.goto (.left (if ok then none else some i)))
      else none
  | .dropClient =>
      match p.pc with
      | .left f => some (p.goto (.clientClosed f))
      | _ => none
  | .dropCapture =>
      match p.pc with
      | .clientClosed f => some (p.goto (.teardown f))
      | _ => none
  | .signal => some { p with running := false }

/-- The buffer that has been dequeued and not successfully queued again. -/
@[simp] def Pc.held : Pc → Option ℕ
  | .sendIdx i | .waitForAck i | .requeue i | .requeueAndBreak i => some i
  | .left f | .clientClosed f | .teardown f => f
  | _ => none

/-- The handshake has not been sent yet. -/
@[simp] def Pc.starting : Pc → Bool
  | .prepare | .accept | .sendHandshake => true
  | _ => false

/-- The loop is being left or has been left; no index is sent from here on. -/
@[simp] def Pc.leaving : Pc → Bool
  | .requeueAndBreak _ | .left _ | .clientClosed _ | .teardown _ => true
  | _ => false

/-- The loop has been left, or was never entered. -/
@[simp] def Pc.hasLeft : Pc → Bool
  | .left _ | .clientClosed _ | .teardown _ => true
  | _ => false

/-- `client` is closed, or closed together with the listening socket. -/
@[simp] def Pc.closed : Pc → Bool
  | .clientClosed _ | .teardown _ => true
  | _ => false

@[simp] theorem pc_goto (p : Publisher) (pc : Pc) : (p.goto pc).pc = pc := rfl
@[simp] theorem running_goto (p : Publisher) (pc : Pc) : (p.goto pc).running = p.running := rfl

/-! ## What a step can be -/

/-- The steps of the publisher, with all their guards. -/
inductive Step (p : Publisher) : Act → Publisher → Prop
  | prepare (hpc : p.pc = .prepare) : Step p (.prepare true) (p.goto .accept)
  | prepareFailed (hpc : p.pc = .prepare) : Step p (.prepare false) (p.goto (.left none))
  | accept (hpc : p.pc = .accept) : Step p (.accept true) (p.goto .sendHandshake)
  | acceptFailed (hpc : p.pc = .accept) : Step p (.accept false) (p.goto (.left none))
  | sendHandshake (hpc : p.pc = .sendHandshake) : Step p (.sendHandshake .ok) (p.goto .loopTest)
  | handshakeFailed (r : Sent) (hpc : p.pc = .sendHandshake) (hr : r ≠ .ok) :
      Step p (.sendHandshake r) (p.goto (.left none))
  | loopTest (hpc : p.pc = .loopTest) (hrun : p.running = true) :
      Step p .loopTest (p.goto .dequeue)
  | stop (hpc : p.pc = .loopTest) (hrun : p.running = false) :
      Step p .loopTest (p.goto (.left none))
  | dequeue (i : ℕ) (hpc : p.pc = .dequeue) : Step p (.dequeue (some i)) (p.goto (.sendIdx i))
  | dequeueFailed (hpc : p.pc = .dequeue) : Step p (.dequeue none) (p.goto (.left none))
  | sendIdx (i : ℕ) (hpc : p.pc = .sendIdx i) : Step p (.sendIdx i .ok) (p.goto (.waitForAck i))
  | sendIdxFailed (i : ℕ) (r : Sent) (hpc : p.pc = .sendIdx i) (hr : r ≠ .ok) :
      Step p (.sendIdx i r) (p.goto (.requeueAndBreak i))
  | acked (i : ℕ) (hpc : p.pc = .waitForAck i) : Step p (.waitForAck true) (p.goto (.requeue i))
  | waitFailed (i : ℕ) (hpc : p.pc = .waitForAck i) :
      Step p (.waitForAck false) (p.goto (.requeueAndBreak i))
  | requeue (i : ℕ) (hpc : p.pc = .requeue i) : Step p (.requeue i true) (p.goto .loopTest)
  | requeueFailed (i : ℕ) (hpc : p.pc = .requeue i) :
      Step p (.requeue i false) (p.goto (.left (some i)))
  | giveBack (i : ℕ) (hpc : p.pc = .requeueAndBreak i) :
      Step p (.requeue i true) (p.goto (.left none))
  | giveBackFailed (i : ℕ) (hpc : p.pc = .requeueAndBreak i) :
      Step p (.requeue i false) (p.goto (.left (some i)))
  | dropClient (f : Option ℕ) (hpc : p.pc = .left f) :
      Step p .dropClient (p.goto (.clientClosed f))
  | dropCapture (f : Option ℕ) (hpc : p.pc = .clientClosed f) :
      Step p .dropCapture (p.goto (.teardown f))
  | signal : Step p .signal { p with running := false }

/-- **The steps of the publisher are those listed.** -/
theorem step_iff {p p' : Publisher} {a : Act} : p.step a = some p' ↔ Step p a p' := by
  constructor
  · intro h
    cases a with
    | prepare ok | accept ok =>
        simp only [step, Option.ite_none_right_eq_some, Option.some.injEq] at h
        obtain ⟨hpc, rfl⟩ := h
        cases ok <;> constructor <;> exact hpc
    | dequeue r =>
        simp only [step, Option.ite_none_right_eq_some, Option.some.injEq] at h
        obtain ⟨hpc, rfl⟩ := h
        cases r <;> constructor <;> exact hpc
    | sendHandshake r =>
        simp only [step, Option.ite_none_right_eq_some, Option.some.injEq] at h
        obtain ⟨hpc, rfl⟩ := h
        by_cases hr : r = .ok
        · subst hr
          exact .sendHandshake hpc
        · rw [if_neg hr]
          exact .handshakeFailed r hpc hr
    | sendIdx i r =>
        simp only [step, Option.ite_none_right_eq_some, Option.some.injEq] at h
        obtain ⟨hpc, rfl⟩ := h
        by_cases hr : r = .ok
        · subst hr
          exact .sendIdx i hpc
        · rw [if_neg hr]
          exact .sendIdxFailed i r hpc hr
    | loopTest =>
        simp only [step, Option.ite_none_right_eq_some, Option.some.injEq] at h
        obtain ⟨hpc, rfl⟩ := h
        cases hr : p.running
        · exact .stop hpc hr
        · exact .loopTest hpc hr
    | waitForAck ok =>
        simp only [step] at h
        split at h <;> simp only [Option.some.injEq, reduceCtorEq] at h
        subst h
        cases ok <;> constructor <;> assumption
    | requeue i ok =>
        simp only [step] at h
        split at h
        case isTrue hpc =>
          obtain rfl := Option.some.inj h
          cases ok
          · exact .requeueFailed i hpc
          · exact .requeue i hpc
        case isFalse =>
          simp only [Option.ite_none_right_eq_some, Option.some.injEq] at h
          obtain ⟨hpc, rfl⟩ := h
          cases ok
          · exact .giveBackFailed i hpc
          · exact .giveBack i hpc
    | dropClient | dropCapture =>
        simp only [step] at h
        split at h <;> simp only [Option.some.injEq, reduceCtorEq] at h
        subst h
        constructor
        assumption
    | signal =>
        obtain rfl := Option.some.inj h
        exact .signal
  · intro h
    cases h <;> simp_all [step]

end Publisher
end DmabufPipeline
