import DmabufPipeline.Wire.Message

/-!
# The subscriber process

The control flow of `main` and `draw_one` in `subscriber/src/main.rs` and
`subscriber.cpp`, from `connect_to_socket` to the closing of the socket. A label is one
call with the answer it got. What a descriptor denotes is a parameter `φ`: the session
model takes the DMA-BUF itself, the arbitrary-peer model leaves it open.

`draw_one` indexes `buf_fds` with whatever the socket delivered. In Rust the index
operator panics outside the vector, in C++ it is undefined; both are the exit
`outOfBounds` here, which no other label produces.

`main`'s locals drop in reverse order of declaration: `renderer`, `egl` and `win` before
`buf_fds`, and `sock` last. In C++ the destructors run in the same order.

## Main definitions

* `Subscriber.Pc`, `Subscriber.Exit` — where `main` stands, and why the loop ended.
* `Subscriber.step` — one call, the signal handler, or a close request of the window.
* `Subscriber.Step`, `Subscriber.step_iff` — the same as a list of the possible steps.
* `Subscriber.image` — the buffer with an EGLImage created and not yet destroyed.
* `Subscriber.processing` — the index received and not yet acknowledged.
-/

namespace DmabufPipeline

/-- The answer of `import_dmabuf`. A Rust build with overflow checks panics in the
multiplication that computes the offset of the chroma plane. -/
inductive ImportResult
  | image
  | noImage
  | overflow
  deriving DecidableEq, Repr

namespace Subscriber

/-- Why `main` left its loop, or returned before it. -/
inductive Exit
  | connectFailed
  | handshakeFailed
  /-- `WaylandWindow::create`, `EglContext::init` or `QuadRenderer::init` failed. -/
  | setupFailed
  /-- The loop test: a stop signal came or the window was closed. -/
  | stopped
  | peerClosed
  | recvErr
  | importFailed
  | ackFailed
  /-- `dispatch_pending` returned false: window closed, or the display failed. -/
  | dispatchFailed
  /-- `buf_fds[idx]` with an index outside the vector. -/
  | outOfBounds (idx : ℕ)
  /-- `meta.stride * meta.height` in a build with overflow checks. -/
  | overflow
  deriving DecidableEq, Repr

/-- The call that `main` makes next. -/
inductive Pc
  | connect
  | recvHandshake
  | setup
  | loopTest
  | recvIdx
  | importDmabuf (idx : ℕ)
  | draw (idx : ℕ)
  | swapBuffers (idx : ℕ)
  | destroyImage (idx : ℕ)
  | sendAck (idx : ℕ)
  | dispatchPending
  /-- Past the loop, or returning early, with all locals alive. -/
  | left (why : Exit)
  /-- `renderer`, `egl`, `win` and `buf_fds` have been dropped. -/
  | sessionDropped (why : Exit)
  /-- `sock` has been dropped. -/
  | closed (why : Exit)
  deriving DecidableEq, Repr

/-- A call of `main` with its answer, the delivery of a signal, or a close request of
the compositor. -/
inductive Act (φ : Type)
  | connect (ok : Bool)
  | recvHandshake (r : Option (List φ))
  | setup (ok : Bool)
  | loopTest
  | recvIdx (r : RecvIdx ℕ)
  | importDmabuf (idx : ℕ) (r : ImportResult)
  | draw (idx : ℕ)
  | swapBuffers
  | destroyImage
  | sendAck (ok : Bool)
  | dispatchPending (ok : Bool)
  | dropSession
  | dropSock
  | signal
  | closeRequest
  deriving DecidableEq, Repr

end Subscriber

/-- The subscriber process: where `main` stands, the received descriptors, the
`RUNNING` flag, the window's close flag, and whether `sock` is open. -/
structure Subscriber (φ : Type) where
  pc : Subscriber.Pc := .connect
  buf_fds : List φ := []
  running : Bool := true
  should_close : Bool := false
  sock : Bool := false
  deriving DecidableEq, Repr

namespace Subscriber

variable {φ : Type}

/-- Move `main` on to another call. -/
def goto (u : Subscriber φ) (pc : Pc) : Subscriber φ := { u with pc := pc }

/-- One step of the subscriber; a label is enabled only where `main` stands at that
call. -/
def step (u : Subscriber φ) : Act φ → Option (Subscriber φ)
  | .connect ok =>
      if u.pc = .connect then
        some (if ok then { u.goto .recvHandshake with sock := true }
          else u.goto (.left .connectFailed))
      else none
  | .recvHandshake r =>
      if u.pc = .recvHandshake then
        some (match r with
          | some fds => { u.goto .setup with buf_fds := fds }
          | none => u.goto (.left .handshakeFailed))
      else none
  | .setup ok =>
      if u.pc = .setup then some (u.goto (if ok then .loopTest else .left .setupFailed)) else none
  | .loopTest =>
      if u.pc = .loopTest then
        some (u.goto (if u.running && !u.should_close then .recvIdx else .left .stopped))
      else none
  | .recvIdx r =>
      if u.pc = .recvIdx then
        some (u.goto (match r with
          | .idx i => .importDmabuf i
          | .peerClosed => .left .peerClosed
          | .err => .left .recvErr))
      else none
  | .importDmabuf i r =>
      if u.pc = .importDmabuf i then
        some (u.goto (if i < u.buf_fds.length then
            match r with
            | .image => .draw i
            | .noImage => .left .importFailed
            | .overflow => .left .overflow
          else .left (.outOfBounds i)))
      else none
  | .draw i => if u.pc = .draw i then some (u.goto (.swapBuffers i)) else none
  | .swapBuffers =>
      match u.pc with
      | .swapBuffers i => some (u.goto (.destroyImage i))
      | _ => none
  | .destroyImage =>
      match u.pc with
      | .destroyImage i => some (u.goto (.sendAck i))
      | _ => none
  | .sendAck ok =>
      match u.pc with
      | .sendAck _ => some (u.goto (if ok then .dispatchPending else .left .ackFailed))
      | _ => none
  | .dispatchPending ok =>
      if u.pc = .dispatchPending then
        some (u.goto (if ok && !u.should_close then .loopTest else .left .dispatchFailed))
      else none
  | .dropSession =>
      match u.pc with
      | .left e => some (u.goto (.sessionDropped e))
      | _ => none
  | .dropSock =>
      match u.pc with
      | .sessionDropped e => some { u.goto (.closed e) with sock := false }
      | _ => none
  | .signal => some { u with running := false }
  | .closeRequest => some { u with should_close := true }

/-- The buffer whose EGLImage has been created and not yet destroyed. -/
@[simp] def Pc.image : Pc → Option ℕ
  | .draw i | .swapBuffers i | .destroyImage i => some i
  | _ => none

/-- The index received and not yet acknowledged. -/
@[simp] def Pc.processing : Pc → Option ℕ
  | .importDmabuf i | .draw i | .swapBuffers i | .destroyImage i | .sendAck i => some i
  | _ => none

/-- The index whose buffer the subscriber is still going to import, draw or release. -/
@[simp] def Pc.inUse : Pc → Option ℕ
  | .importDmabuf i | .draw i | .swapBuffers i | .destroyImage i => some i
  | _ => none

/-- The frame has been drawn and not been acknowledged. -/
@[simp] def Pc.drawn : Pc → Bool
  | .swapBuffers _ | .destroyImage _ | .sendAck _ => true
  | _ => false

/-- The loop has been left, or was never entered. -/
@[simp] def Pc.hasLeft : Pc → Bool
  | .left _ | .sessionDropped _ | .closed _ => true
  | _ => false

/-- The handshake has been received and the loop has not been left. -/
@[simp] def Pc.inSession : Pc → Bool
  | .connect | .recvHandshake | .left _ | .sessionDropped _ | .closed _ => false
  | _ => true

/-- Why the loop ended, once it has. -/
@[simp] def Pc.exit : Pc → Option Exit
  | .left e | .sessionDropped e | .closed e => some e
  | _ => none

@[simp] theorem pc_goto (u : Subscriber φ) (pc : Pc) : (u.goto pc).pc = pc := rfl
@[simp] theorem buf_fds_goto (u : Subscriber φ) (pc : Pc) : (u.goto pc).buf_fds = u.buf_fds := rfl
@[simp] theorem sock_goto (u : Subscriber φ) (pc : Pc) : (u.goto pc).sock = u.sock := rfl

/-! ## What a step can be -/

/-- The steps of the subscriber, with all their guards. -/
inductive Step (u : Subscriber φ) : Act φ → Subscriber φ → Prop
  | connect (hpc : u.pc = .connect) :
      Step u (.connect true) { u.goto .recvHandshake with sock := true }
  | connectFailed (hpc : u.pc = .connect) :
      Step u (.connect false) (u.goto (.left .connectFailed))
  | recvHandshake (fds : List φ) (hpc : u.pc = .recvHandshake) :
      Step u (.recvHandshake (some fds)) { u.goto .setup with buf_fds := fds }
  | handshakeFailed (hpc : u.pc = .recvHandshake) :
      Step u (.recvHandshake none) (u.goto (.left .handshakeFailed))
  | setup (hpc : u.pc = .setup) : Step u (.setup true) (u.goto .loopTest)
  | setupFailed (hpc : u.pc = .setup) : Step u (.setup false) (u.goto (.left .setupFailed))
  | loopTest (hpc : u.pc = .loopTest) (hrun : (u.running && !u.should_close) = true) :
      Step u .loopTest (u.goto .recvIdx)
  | stop (hpc : u.pc = .loopTest) (hrun : (u.running && !u.should_close) = false) :
      Step u .loopTest (u.goto (.left .stopped))
  | recvIdx (i : ℕ) (hpc : u.pc = .recvIdx) : Step u (.recvIdx (.idx i)) (u.goto (.importDmabuf i))
  | peerClosed (hpc : u.pc = .recvIdx) : Step u (.recvIdx .peerClosed) (u.goto (.left .peerClosed))
  | recvErr (hpc : u.pc = .recvIdx) : Step u (.recvIdx .err) (u.goto (.left .recvErr))
  | importDmabuf (i : ℕ) (hpc : u.pc = .importDmabuf i) (hi : i < u.buf_fds.length) :
      Step u (.importDmabuf i .image) (u.goto (.draw i))
  | importFailed (i : ℕ) (hpc : u.pc = .importDmabuf i) (hi : i < u.buf_fds.length) :
      Step u (.importDmabuf i .noImage) (u.goto (.left .importFailed))
  | overflow (i : ℕ) (hpc : u.pc = .importDmabuf i) (hi : i < u.buf_fds.length) :
      Step u (.importDmabuf i .overflow) (u.goto (.left .overflow))
  | outOfBounds (i : ℕ) (r : ImportResult) (hpc : u.pc = .importDmabuf i)
      (hi : ¬ i < u.buf_fds.length) :
      Step u (.importDmabuf i r) (u.goto (.left (.outOfBounds i)))
  | draw (i : ℕ) (hpc : u.pc = .draw i) : Step u (.draw i) (u.goto (.swapBuffers i))
  | swapBuffers (i : ℕ) (hpc : u.pc = .swapBuffers i) :
      Step u .swapBuffers (u.goto (.destroyImage i))
  | destroyImage (i : ℕ) (hpc : u.pc = .destroyImage i) :
      Step u .destroyImage (u.goto (.sendAck i))
  | sendAck (i : ℕ) (hpc : u.pc = .sendAck i) : Step u (.sendAck true) (u.goto .dispatchPending)
  | ackFailed (i : ℕ) (hpc : u.pc = .sendAck i) :
      Step u (.sendAck false) (u.goto (.left .ackFailed))
  | dispatchPending (hpc : u.pc = .dispatchPending) (hopen : u.should_close = false) :
      Step u (.dispatchPending true) (u.goto .loopTest)
  | dispatchFailed (ok : Bool) (hpc : u.pc = .dispatchPending)
      (hclose : (ok && !u.should_close) = false) :
      Step u (.dispatchPending ok) (u.goto (.left .dispatchFailed))
  | dropSession (e : Exit) (hpc : u.pc = .left e) : Step u .dropSession (u.goto (.sessionDropped e))
  | dropSock (e : Exit) (hpc : u.pc = .sessionDropped e) :
      Step u .dropSock { u.goto (.closed e) with sock := false }
  | signal : Step u .signal { u with running := false }
  | closeRequest : Step u .closeRequest { u with should_close := true }

/-- **The steps of the subscriber are those listed.** -/
theorem step_iff {u u' : Subscriber φ} {a : Act φ} : u.step a = some u' ↔ Step u a u' := by
  constructor
  · intro h
    cases a with
    | connect ok | setup ok =>
        simp only [step, Option.ite_none_right_eq_some, Option.some.injEq] at h
        obtain ⟨hpc, rfl⟩ := h
        cases ok <;> constructor <;> exact hpc
    | recvHandshake r | recvIdx r =>
        simp only [step, Option.ite_none_right_eq_some, Option.some.injEq] at h
        obtain ⟨hpc, rfl⟩ := h
        cases r <;> constructor <;> exact hpc
    | loopTest =>
        simp only [step, Option.ite_none_right_eq_some, Option.some.injEq] at h
        obtain ⟨hpc, rfl⟩ := h
        cases hr : u.running && !u.should_close
        · exact .stop hpc hr
        · exact .loopTest hpc hr
    | importDmabuf i r =>
        simp only [step, Option.ite_none_right_eq_some, Option.some.injEq] at h
        obtain ⟨hpc, rfl⟩ := h
        by_cases hi : i < u.buf_fds.length
        · simp only [hi, if_true]
          cases r
          · exact .importDmabuf i hpc hi
          · exact .importFailed i hpc hi
          · exact .overflow i hpc hi
        · simp only [hi, if_false]
          exact .outOfBounds i r hpc hi
    | draw i =>
        simp only [step, Option.ite_none_right_eq_some, Option.some.injEq] at h
        obtain ⟨hpc, rfl⟩ := h
        exact .draw i hpc
    | dispatchPending ok =>
        simp only [step, Option.ite_none_right_eq_some, Option.some.injEq] at h
        obtain ⟨hpc, rfl⟩ := h
        cases hr : ok && !u.should_close
        · exact .dispatchFailed ok hpc hr
        · obtain ⟨rfl, hopen⟩ : ok = true ∧ u.should_close = false := by simpa using hr
          exact .dispatchPending hpc hopen
    | sendAck ok =>
        simp only [step] at h
        split at h <;> simp only [Option.some.injEq, reduceCtorEq] at h
        subst h
        cases ok <;> constructor <;> assumption
    | swapBuffers | destroyImage | dropSession | dropSock =>
        simp only [step] at h
        split at h <;> simp only [Option.some.injEq, reduceCtorEq] at h
        subst h
        constructor
        assumption
    | signal | closeRequest =>
        obtain rfl := Option.some.inj h
        constructor
  · intro h
    cases h with
    | stop hpc hrun => simp [step, hpc, hrun]
    | outOfBounds i r hpc hi => simp [step, hpc, hi]
    | dispatchFailed ok hpc hclose => simp [step, hpc, hclose]
    | _ => simp_all [step]

end Subscriber
end DmabufPipeline
