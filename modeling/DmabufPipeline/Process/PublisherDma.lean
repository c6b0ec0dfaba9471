import DmabufPipeline.Capture.DmaHeap
import DmabufPipeline.Egl.Pixels
import DmabufPipeline.Wire.Listen

/-!
# A whole run of `publisher_dma`

`main` of `publisher/src/publisher_dma.rs`, from `V4l2CaptureDma::open` to the last drop.
Every system call may fail. A local of `main` is dropped when `main` ends by its last line,
by `?`, or by unwinding from a panic. So `main` is a nest of scopes, one for each local that
owns descriptors, and a scope ends with the drop of its local. An abort drops nothing.

The list of turns ends when `RUNNING` is read as false. The prints, the counters of the
frame-rate log and the removal of the path after the loop are left out; none of them
concerns a descriptor.

## Main definitions

* `PublisherDma.frameLoop`, `PublisherDma.main` — the loop and the program.
* `PublisherDma.Scope.Keeps` — what every scope inside that of the capture object does.
* `PublisherDma.owns_descriptors` — the whole run owns its descriptors.
-/

namespace DmabufPipeline

namespace PublisherDma

open Handles

/-- How a scope is left. -/
inductive Exit
  | ok
  /-- `?`. -/
  | error
  /-- A panic that unwinds. -/
  | panic
  /-- The process is aborted. -/
  | abort
  deriving DecidableEq, Repr

/-- The answers to one turn of the frame loop. -/
structure Turn where
  dequeue : DequeueAnswers
  send_idx : Bool
  wait_for_ack : Bool
  requeue : Bool

/-- The options that `main` has parsed. -/
structure Args where
  width : UInt32
  height : UInt32
  pixel_fmt : UInt32
  socket_path : List UInt8
  buf_count : UInt32

/-- The answers to a whole run; `dir` is the directory that `create_listening_socket` finds. -/
structure Answers (σ : Type) where
  device : OpenAnswers
  heap : Option Fd
  alloc : ℕ → Option Fd
  start : StartDmaAnswers
  dir : FileNames.Directory σ
  listen : ListenAnswers σ
  accept : Option Fd
  send_handshake : Bool
  turns : List Turn

/-- What a scope inside that of `cap` leaves. -/
structure Scope where
  cap : V4l2CaptureDma
  log : List SysCall
  exit : Exit

/-- A scope that goes on after some calls. -/
def Scope.after (log : List SysCall) (s : Scope) : Scope := { s with log := log ++ s.log }

/-- What is dropped at the end of a scope, which an abort never comes to. -/
def Scope.dropping (log : List SysCall) (s : Scope) : Scope :=
  if s.exit = .abort then s else { s with log := s.log ++ log }

/-- The scope of a local that owns a descriptor. -/
def Scope.owning (fd : Fd) (s : Scope) : Scope := s.dropping (closeFds [fd])

/-! ## The program -/

/-- `let _ = cap.requeue(idx); break;`. -/
def requeueAndBreak (cap : V4l2CaptureDma) (idx : ℕ) (qbuf : Bool) : Scope :=
  match cap.requeue idx qbuf with
  | none => ⟨cap, [], .panic⟩
  | some out => ⟨out.obj, calls out.log, .ok⟩

/-- The frame loop. -/
def frameLoop (client_raw : Fd) : V4l2CaptureDma → List Turn → Scope
  | cap, [] => ⟨cap, [], .ok⟩
  | cap, t :: ts =>
      let d := cap.dequeue t.dequeue
      let cap := d.obj
      Scope.after (calls d.log) <|
        match d.result with
        | .failed _ => ⟨cap, [], .ok⟩
        | .outOfBounds => ⟨cap, [], .panic⟩
        | .unselectable => ⟨cap, [], .abort⟩
        | .frame idx =>
            Scope.after [.send_idx client_raw idx t.send_idx] <|
              if !t.send_idx then requeueAndBreak cap idx t.requeue
              else
                Scope.after [.wait_for_ack client_raw t.wait_for_ack] <|
                  if !t.wait_for_ack then requeueAndBreak cap idx t.requeue
                  else
                    match cap.requeue idx t.requeue with
                    | none => ⟨cap, [], .panic⟩
                    | some out =>
                        match out.result with
                        | .error _ => ⟨out.obj, calls out.log, .ok⟩
                        | .ok () => Scope.after (calls out.log) (frameLoop client_raw out.obj ts)

variable {σ : Type}

/-- From the handshake to the end, with a client. -/
def serve (cap : V4l2CaptureDma) (drm_fourcc : UInt32) (client_raw : Fd) (ans : Answers σ) :
    Scope :=
  let all_fds := cap.buffers.map (·.dmabuf_fd)
  let hs := (Source.publisherDma cap).handshakeWith drm_fourcc
  Scope.after [.send_handshake client_raw hs all_fds ans.send_handshake] <|
    if ans.send_handshake then frameLoop client_raw cap ans.turns else ⟨cap, [], .error⟩

/-- From `accept_connection` on: the scope of `client`. -/
def acceptAndServe (cap : V4l2CaptureDma) (drm_fourcc : UInt32) (ans : Answers σ) : Scope :=
  Scope.after [.accept ans.accept] <|
    match ans.accept with
    | none => ⟨cap, [], .error⟩
    | some client => Scope.owning client (serve cap drm_fourcc client ans)

/-- What `create_listening_socket` does to descriptors, as calls. -/
def socketCalls (log : List (Ledger.Event Fd)) : List SysCall :=
  log.map fun
    | .acquire fd => .socket fd
    | .release fd => .call (.close fd)

/-- From `create_listening_socket` on: the scope of `listen_fd`. -/
def listenAndServe (cap : V4l2CaptureDma) (drm_fourcc : UInt32) (args : Args) (ans : Answers σ) :
    Scope :=
  let l := create_listening_socket args.socket_path ans.listen ans.dir
  Scope.after (socketCalls l.log) <|
    match l.result with
    | .error _ => ⟨cap, [], .error⟩
    | .ok listen_fd => Scope.owning listen_fd (acceptAndServe cap drm_fourcc ans)

/-- From `v4l2_to_drm_fourcc` on, inside the scope of `cap`. `start` consumes `dma_fds`. -/
def captureAndServe (cap : V4l2CaptureDma) (args : Args) (ans : Answers σ) : Scope :=
  match v4l2_to_drm_fourcc cap.pixel_format with
  | none => ⟨cap, [], .error⟩
  | some drm_fourcc =>
      let dma := alloc_dma_heap cap.size_image.toUInt64 args.buf_count ans.heap ans.alloc
      Scope.after dma.1 <|
        match dma.2 with
        | .error _ => ⟨cap, [], .error⟩
        | .ok dma_fds =>
            let s := cap.start dma_fds ans.start
            Scope.after (calls s.log) <|
              match s.result with
              | .error _ => ⟨s.obj, [], .error⟩
              | .ok () => listenAndServe s.obj drm_fourcc args ans

/-- `main`: the calls of a whole run, and how it ended. -/
def main (args : Args) (ans : Answers σ) : List SysCall × Exit :=
  let opened := V4l2CaptureDma.openDevice args.width args.height args.pixel_fmt ans.device
  match opened.2 with
  | .error _ => (calls opened.1, .error)
  | .ok cap =>
      let s := captureAndServe cap args ans
      (calls opened.1 ++ (s.dropping (calls s.cap.drop)).log, s.exit)

/-! ## Every scope keeps the capture's descriptors -/

/-- **From `a`, a scope leads to `b`**, if the process is not aborted on the way. -/
def Scope.Leads (a : List (Fd × FdObject)) (s : Scope) (b : List (Fd × FdObject)) : Prop :=
  ∃ c, FdMoves a s.log c ∧ (s.exit ≠ .abort → c = b)

namespace Scope.Leads

variable {a b c : List (Fd × FdObject)} {s : Scope} {log : List SysCall}

theorem of_moves (h : FdMoves a s.log b) : s.Leads a b := ⟨b, h, fun _ => rfl⟩

/-- Calls, and then a scope. -/
theorem after (hlog : FdMoves a log b) (hs : s.Leads b c) : (s.after log).Leads a c := by
  obtain ⟨d, hmoves, hend⟩ := hs
  exact ⟨d, hlog.append hmoves, hend⟩

/-- A scope, and then what is dropped. -/
theorem dropping (hs : s.Leads a b) (hlog : FdMoves b log c) : (s.dropping log).Leads a c := by
  obtain ⟨d, hmoves, hend⟩ := hs
  rw [Scope.dropping]
  split
  · exact ⟨d, hmoves, fun he => absurd ‹s.exit = .abort› he⟩
  · obtain rfl := hend ‹_›
    exact of_moves (hmoves.append hlog)

/-- What else is open stays so. -/
theorem frame_left (hs : s.Leads a b) (f : List (Fd × FdObject)) : s.Leads (f ++ a) (f ++ b) := by
  obtain ⟨d, hmoves, hend⟩ := hs
  exact ⟨f ++ d, Moves.frame_left hmoves f, fun he => congrArg (f ++ ·) (hend he)⟩

end Scope.Leads

/-- **A scope keeps its descriptors**: besides what `a` lists, it starts with those of `cap`
and ends with those of the object it leaves. -/
def Scope.Keeps (a : List (Fd × FdObject)) (cap : V4l2CaptureDma) (s : Scope) : Prop :=
  s.Leads (a ++ cap.owned) (a ++ s.cap.owned)

@[simp] theorem Scope.exit_dropping (log : List SysCall) (s : Scope) :
    (s.dropping log).exit = s.exit := by
  rw [dropping]
  split <;> rfl

@[simp] theorem Scope.cap_dropping (log : List SysCall) (s : Scope) :
    (s.dropping log).cap = s.cap := by
  rw [dropping]
  split <;> rfl

namespace Scope.Keeps

variable {a : List (Fd × FdObject)} {cap cap' : V4l2CaptureDma} {s : Scope}

/-- A scope that ends at once. -/
theorem stop (a : List (Fd × FdObject)) (cap : V4l2CaptureDma) (e : Exit) :
    Keeps a cap ⟨cap, [], e⟩ := .of_moves (Moves.nil _)

/-- Calls, and then a scope. -/
theorem after {log : List SysCall} (hlog : FdMoves (a ++ cap.owned) log (a ++ cap'.owned))
    (hs : s.Keeps a cap') : (s.after log).Keeps a cap := Leads.after hlog hs

/-- A scope with one descriptor more, which is opened before it and closed at its end. -/
theorem owning {fd : Fd} {o : FdObject} {log : List SysCall}
    (hlog : FdMoves (a ++ cap.owned) log ((fd, o) :: (a ++ cap.owned)))
    (hs : s.Keeps ((fd, o) :: a) cap) : ((s.owning fd).after log).Keeps a cap := by
  have hclose := (FdMoves.closes_one fd o).frame (a ++ s.cap.owned)
  have hend : ((s.owning fd).after log).Leads (a ++ cap.owned) (a ++ s.cap.owned) :=
    .after hlog (Leads.dropping hs hclose)
  rwa [Keeps, Scope.after, Scope.owning, cap_dropping]

/-- What else is open stays so. -/
theorem frame (hs : s.Keeps [] cap) (a : List (Fd × FdObject)) : s.Keeps a cap :=
  Leads.frame_left hs a

end Scope.Keeps

variable (cap : V4l2CaptureDma)

theorem requeueAndBreak_keeps (a : List (Fd × FdObject)) (idx : ℕ) (qbuf : Bool) :
    (requeueAndBreak cap idx qbuf).Keeps a cap := by
  rw [requeueAndBreak]
  cases hr : cap.requeue idx qbuf with
  | none => exact .stop a cap .panic
  | some out =>
      obtain ⟨hobj, hmoves⟩ := cap.requeue_moves hr
      have hqbuf : FdMoves (a ++ cap.owned) (calls out.log) (a ++ out.obj.owned) := by
        rw [hobj]
        exact hmoves.frame_left a
      exact .of_moves hqbuf

/-- **The frame loop**: one turn uses the client and the buffer it has dequeued, and leaves
the object with the descriptors it had; the rest by induction on the turns. -/
theorem frameLoop_keeps (client_raw : Fd) (turns : List Turn) :
    (frameLoop client_raw cap turns).Keeps [(client_raw, .client)] cap := by
  induction turns generalizing cap with
  | nil => exact .stop _ cap .ok
  | cons t ts ih =>
      rw [frameLoop]
      set d := cap.dequeue t.dequeue with hd
      have howned : d.obj.owned = cap.owned := cap.dequeue_owned t.dequeue
      have hdequeue : FdMoves ([(client_raw, .client)] ++ cap.owned) (calls d.log)
          ([(client_raw, .client)] ++ d.obj.owned) := by
        rw [howned]
        exact cap.dequeue_moves _ t.dequeue
      have huse : Moves ([(client_raw, .client)] ++ d.obj.owned) [.uses client_raw .client]
          ([(client_raw, .client)] ++ d.obj.owned) := .uses List.mem_cons_self
      refine .after hdequeue ?_
      cases d.result with
      | failed e => exact .stop _ d.obj .ok
      | outOfBounds => exact .stop _ d.obj .panic
      | unselectable => exact .stop _ d.obj .abort
      | frame idx =>
          refine .after huse ?_
          cases t.send_idx with
          | false => exact requeueAndBreak_keeps d.obj _ idx t.requeue
          | true =>
              refine .after huse ?_
              cases t.wait_for_ack with
              | false => exact requeueAndBreak_keeps d.obj _ idx t.requeue
              | true =>
                  cases hr : d.obj.requeue idx t.requeue with
                  | none => exact .stop _ d.obj .panic
                  | some out =>
                      obtain ⟨hobj, hmoves⟩ := d.obj.requeue_moves hr
                      have hqbuf := hmoves.frame_left [(client_raw, .client)]
                      simp only [hobj]
                      cases out.result with
                      | error e => exact .of_moves hqbuf
                      | ok u => exact .after hqbuf (ih d.obj)

variable {σ : Type} (drm_fourcc : UInt32) (args : Args) (ans : Answers σ)

theorem serve_keeps (client_raw : Fd) :
    (serve cap drm_fourcc client_raw ans).Keeps [(client_raw, .client)] cap := by
  have huse : Moves ([(client_raw, .client)] ++ cap.owned) [.uses client_raw .client]
      ([(client_raw, .client)] ++ cap.owned) := .uses List.mem_cons_self
  rw [serve]
  refine .after huse ?_
  cases ans.send_handshake with
  | false => exact .stop _ cap .error
  | true => exact frameLoop_keeps cap client_raw ans.turns

theorem acceptAndServe_keeps : (acceptAndServe cap drm_fourcc ans).Keeps [] cap := by
  rw [acceptAndServe]
  cases ans.accept with
  | none => exact .stop [] cap .error
  | some client =>
      have hopen := (Moves.opens client FdObject.client).frame cap.owned
      exact .owning hopen (serve_keeps cap drm_fourcc ans client)

/-- `create_listening_socket` leaves the socket it returns. -/
theorem create_listening_socket_moves (path : List UInt8) (ans : ListenAnswers σ)
    (d : FileNames.Directory σ) :
    FdMoves [] (socketCalls (create_listening_socket path ans d).log)
      (match (create_listening_socket path ans d).result with
        | .ok fd => [(fd, .listener)]
        | .error _ => []) := by
  rw [create_listening_socket]
  cases ans.socket with
  | none => exact .nil []
  | some fd =>
      have hopen : Moves [] [.opens fd .listener] [(fd, FdObject.listener)] := .opens fd _
      have hclose := FdMoves.closes_one fd FdObject.listener
      cases unixAddr path with
      | none => exact hopen.step hclose
      | some addr =>
          simp only
          cases (remove_file ans.unlink path d).bind ans.bind ans.sock addr with
          | none => exact hopen.step hclose
          | some d =>
              cases ans.listen with
              | false => exact hopen.step hclose
              | true => exact hopen

theorem listenAndServe_keeps : (listenAndServe cap drm_fourcc args ans).Keeps [] cap := by
  have hlisten := create_listening_socket_moves args.socket_path ans.listen ans.dir
  rw [listenAndServe]
  cases hr : (create_listening_socket args.socket_path ans.listen ans.dir).result with
  | error e =>
      rw [hr] at hlisten
      exact .after (hlisten.frame cap.owned) (.stop [] cap .error)
  | ok listen_fd =>
      rw [hr] at hlisten
      have hserve := (acceptAndServe_keeps cap drm_fourcc ans).frame [(listen_fd, .listener)]
      exact .owning (hlisten.frame cap.owned) hserve

theorem captureAndServe_keeps : (captureAndServe cap args ans).Keeps [] cap := by
  rw [captureAndServe]
  cases v4l2_to_drm_fourcc cap.pixel_format with
  | none => exact .stop [] cap .error
  | some drm_fourcc =>
      have halloc : FdMoves (cap.owned ++ [])
          (alloc_dma_heap cap.size_image.toUInt64 args.buf_count ans.heap ans.alloc).1
          (cap.owned ++ allocated
            (alloc_dma_heap cap.size_image.toUInt64 args.buf_count ans.heap ans.alloc).2) :=
        (alloc_dma_heap_moves _ _ _ _).frame_left cap.owned
      rw [List.append_nil] at halloc
      simp only
      generalize alloc_dma_heap cap.size_image.toUInt64 args.buf_count ans.heap ans.alloc = dma
        at halloc ⊢
      cases hr : dma.2 with
      | error e =>
          rw [hr, allocated, List.append_nil] at halloc
          exact .after halloc (.stop [] cap .error)
      | ok dma_fds =>
          rw [hr] at halloc
          have hstart := cap.start_moves dma_fds ans.start
          simp only
          generalize cap.start dma_fds ans.start = s at hstart ⊢
          cases s.result with
          | error e =>
              have hstop := Scope.Keeps.stop [] s.obj .error
              exact Scope.Leads.after halloc (Scope.Leads.after hstart hstop)
          | ok u =>
              have hserve := listenAndServe_keeps s.obj drm_fourcc args ans
              exact Scope.Leads.after halloc (Scope.Leads.after hstart hserve)

/-- **A run of `publisher_dma` opens nothing that it does not close**, unless it is aborted. -/
theorem main_moves :
    ∃ b, FdMoves [] (main args ans).1 b ∧ ((main args ans).2 ≠ .abort → b = []) := by
  have hopen := V4l2CaptureDma.openDevice_moves args.width args.height args.pixel_fmt ans.device
  rw [main]
  simp only
  generalize V4l2CaptureDma.openDevice args.width args.height args.pixel_fmt ans.device = opened
    at hopen ⊢
  cases hr : opened.2 with
  | error e =>
      rw [hr] at hopen
      exact ⟨[], hopen, fun _ => rfl⟩
  | ok cap =>
      rw [hr] at hopen
      have hscope := captureAndServe_keeps cap args ans
      have hdrop := (captureAndServe cap args ans).cap.drop_moves
      have hrun := Scope.Leads.after hopen (Scope.Leads.dropping hscope hdrop)
      rw [Scope.Leads, Scope.after] at hrun
      simpa only [Scope.exit_dropping] using hrun

/-- **`publisher_dma` owns its descriptors.** As long as the kernel hands out only numbers
that are not in use, nothing is closed in a run that is not open, and by its end, unless the
process is aborted, each descriptor obtained is closed exactly once; each QBUF names a
descriptor that is open and still the DMA-BUF allocated for its index; and `alloc_dma_heap`,
whatever else is open, returns `count` distinct open descriptors or closes all it had
allocated. -/
theorem owns_descriptors (hf : Ledger.Fresh ∅ (fdEvents (main args ans).1)) :
    Ledger.Sound ∅ (fdEvents (main args ans).1) ∧
      ((main args ans).2 ≠ .abort → Ledger.Balanced (fdEvents (main args ans).1)) ∧
      (∀ (pre : List SysCall) (i : ℕ) (fd : Fd) (ok : Bool),
        pre ++ [.call (.qbuf i (some fd) ok)] <+: (main args ans).1 →
          fdTable pre fd = some (.dmaBuf i)) ∧
      ∀ (size : UInt64) (count : UInt32) (heap : Option Fd) (alloc : ℕ → Option Fd)
        (s : Finset Fd), Ledger.Fresh s (fdEvents (alloc_dma_heap size count heap alloc).1) →
          AllocatesAll count s (alloc_dma_heap size count heap alloc).1
            (alloc_dma_heap size count heap alloc).2 := by
  obtain ⟨b, hmoves, hend⟩ := main_moves args ans
  refine ⟨Moves.sound hmoves hf, ?_, ?_, ?_⟩
  · intro he
    obtain rfl := hend he
    exact Moves.balanced hmoves hf
  · intro pre i fd ok hpre
    have hops : fdOps pre ++ [.uses fd (.dmaBuf i)] <+: fdOps (main args ans).1 := by
      have hfilter := hpre.filterMap SysCall.fdOp
      rwa [List.filterMap_append] at hfilter
    exact Moves.table_of_uses hmoves hf hops
  · intro size count heap alloc s hs
    exact alloc_dma_heap_allocatesAll size count heap alloc hs

/-- The options of a run with two buffers. -/
def twoBuffers : Args where
  width := 640
  height := 480
  pixel_fmt := V4L2_PIX_FMT_YUYV
  socket_path := [97]
  buf_count := 2

/-- A run in which the listening socket gets the number that the heap had, the client
acknowledges one frame, and the second cannot be sent. -/
def oneFrame : Answers ℕ where
  device := ⟨some 3, some ⟨true, true⟩, some ⟨640, 480, 1280, 614400, V4L2_PIX_FMT_YUYV⟩⟩
  heap := some 4
  alloc turn := some (5 + turn)
  start := ⟨some 2, fun _ => true, true⟩
  dir := .empty
  listen := ⟨true, some 4, 7, true, true⟩
  accept := some 7
  send_handshake := true
  turns :=
    [⟨⟨.ready, some (1, 614400)⟩, true, true, true⟩,
      ⟨⟨.ready, some (0, 614400)⟩, false, true, true⟩]

/-- In this run each descriptor is closed once, the requeue of the first frame names the
second DMA-BUF, and the two DMA-BUFs are what the allocation left open. -/
theorem oneFrame_owns :
    Ledger.Balanced (fdEvents (main twoBuffers oneFrame).1) ∧
      fdTable ((main twoBuffers oneFrame).1.take 17) 6 = some (.dmaBuf 1) ∧
      AllocatesAll 2 ∅ (alloc_dma_heap 614400 2 (some 4) oneFrame.alloc).1
        (alloc_dma_heap 614400 2 (some 4) oneFrame.alloc).2 :=
  have h := owns_descriptors twoBuffers oneFrame (by decide)
  ⟨h.2.1 (by decide), h.2.2.1 _ 1 6 true (by decide),
    h.2.2.2 614400 2 (some 4) oneFrame.alloc ∅ (by decide)⟩

end PublisherDma

end DmabufPipeline
