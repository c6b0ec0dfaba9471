import DmabufPipeline.Capture.BufferSet
import DmabufPipeline.Capture.Ownership
import DmabufPipeline.Process.PublisherDma

/-!
# Whole runs of the two MMAP publishers

`main` of `publisher/src/main.rs` and of `publisher.cpp`, from `open` to the last drop or
destructor. Every system call may fail, and the driver may answer anything. The two
programs are one from the choice of the DRM code on, over two capture objects; a local of
`main` that owns a descriptor is a scope, as in `publisher_dma`.

A handshake means the DMA-BUFs that EXPBUF returned for the indices: the descriptor at
position `i` must be open and name the one of index `i`. Where Rust aborts, and where C++ is
undefined, a run ends on the spot, and nothing is dropped any more.

The prints, the frame-rate log and the removal of the path are left out; none of them
concerns a descriptor.

## Main definitions

* `SendMoves` — moves of ownership in which a handshake sends what is owned.
* `PublisherMmap.Device` — what a publisher does with its capture object.
* `PublisherMmap.main`, `PublisherMmap.Cpp.main` — the programs.
* `PublisherMmap.Scope.Keeps` — what every scope inside that of the capture object does.
* `PublisherMmap.owns_what_it_sends` — a whole run owns its descriptors and sends the right
  ones.
-/

namespace DmabufPipeline

open Handles

/-! ## What the calls mean -/

/-- What a call does to the descriptor table, with the descriptors that it sends. -/
def SysCall.sendOps : SysCall → List (Op Fd FdObject)
  | .send_handshake sock_fd _ fds _ =>
      .uses sock_fd .client :: (dmaBufs 0 fds).map fun p => .uses p.1 p.2
  | c => c.fdOp.toList

/-- The operations of a log, with the descriptors that are sent. -/
def sentOps (log : List SysCall) : List (Op Fd FdObject) := log.flatMap SysCall.sendOps

/-- The calls move the ownership of descriptors, and send what is owned. -/
abbrev SendMoves (a : List (Fd × FdObject)) (log : List SysCall) (b : List (Fd × FdObject)) :
    Prop := Moves a (sentOps log) b

@[simp] theorem sentOps_append (l m : List SysCall) : sentOps (l ++ m) = sentOps l ++ sentOps m :=
  List.flatMap_append

/-- Whether a call is a handshake. -/
def SysCall.isHandshake : SysCall → Bool
  | .send_handshake .. => true
  | _ => false

/-- The operations of a call, read in the two ways. -/
theorem SysCall.sendOps_of_not_handshake {c : SysCall} (h : c.isHandshake = false) :
    c.sendOps = fdOps [c] := by
  cases c with
  | send_handshake => cases h
  | _ =>
      simp only [SysCall.sendOps, fdOps, List.filterMap_cons, List.filterMap_nil]
      split <;> simp_all

/-- Without a handshake, the two readings of a log are the same. -/
theorem sentOps_of_none {log : List SysCall} (h : ∀ c ∈ log, c.isHandshake = false) :
    sentOps log = fdOps log := by
  induction log with
  | nil => rfl
  | cons c log ih =>
      have hc := SysCall.sendOps_of_not_handshake (h c List.mem_cons_self)
      have hrest := ih fun c' hc' => h c' (List.mem_cons_of_mem c hc')
      rw [sentOps, List.flatMap_cons, ← sentOps, hrest, hc, ← fdOps_append]
      rfl

/-- Sending opens and closes nothing. -/
theorem sentOps_uses (log : List SysCall) :
    events (sentOps log) = fdEvents log ∧ table (sentOps log) = fdTable log := by
  have hone (c : SysCall) (t : Fd → Option FdObject) :
      events c.sendOps = fdEvents [c] ∧ c.sendOps.foldl post t = (fdOps [c]).foldl post t := by
    cases hc : c.isHandshake with
    | false => simp [SysCall.sendOps_of_not_handshake hc, fdEvents]
    | true =>
        cases c with
        | send_handshake sock_fd hs fds ok =>
            have huses (l : List (Fd × FdObject)) :
                (l.map fun p => Op.uses p.1 p.2).foldl post t = t := by
              induction l with
              | nil => rfl
              | cons p l ih => exact ih
            refine ⟨?_, huses _⟩
            simp [SysCall.sendOps, events, Op.event, fdEvents, fdOps, SysCall.fdOp,
              List.filterMap_cons, Function.comp_def]
        | _ => cases hc
  have hall (t : Fd → Option FdObject) : events (sentOps log) = fdEvents log ∧
      (sentOps log).foldl post t = (fdOps log).foldl post t := by
    induction log generalizing t with
    | nil => exact ⟨rfl, rfl⟩
    | cons c log ih =>
        obtain ⟨hev, htab⟩ := hone c t
        obtain ⟨hev', htab'⟩ := ih (c.sendOps.foldl post t)
        have hcons : fdOps (c :: log) = fdOps [c] ++ fdOps log := fdOps_append [c] log
        rw [sentOps, List.flatMap_cons, ← sentOps, events_append, List.foldl_append, hev, hev',
          htab', htab, fdEvents, fdEvents, fdEvents, hcons, events_append, List.foldl_append]
        exact ⟨rfl, rfl⟩
  exact hall fun _ => none

namespace SendMoves

variable {a b c : List (Fd × FdObject)}

/-- One stretch of calls after another. -/
theorem append {l m : List SysCall} (hl : SendMoves a l b) (hm : SendMoves b m c) :
    SendMoves a (l ++ m) c := by
  rw [SendMoves, sentOps_append]
  exact Moves.append hl hm

/-- Calls without a handshake send nothing but what they name. -/
theorem of_fdMoves {log : List SysCall} (hlog : ∀ c ∈ log, c.isHandshake = false)
    (h : FdMoves a log b) : SendMoves a log b := by
  rw [SendMoves, sentOps_of_none hlog]
  exact h

theorem of_calls {log : List Call} (h : FdMoves a (calls log) b) : SendMoves a (calls log) b := by
  apply of_fdMoves _ h
  intro c hc
  obtain ⟨c', -, rfl⟩ := List.mem_map.mp hc
  rfl

/-- Calls of the object that concern no descriptor. -/
theorem quiets (a : List (Fd × FdObject)) {log : List Call} (h : ∀ c ∈ log, c.fdOp = none) :
    SendMoves a (calls log) a := by
  apply of_calls
  apply FdMoves.quiets
  intro c hc
  obtain ⟨c', hc', rfl⟩ := List.mem_map.mp hc
  exact h c' hc'

end SendMoves

/-! ## The capture objects -/

/-- The loop of `start` exports one DMA-BUF for each index, however far it gets. -/
theorem exportLoop_moves (ans : StartAnswers) (i n : ℕ) :
    FdMoves [] (calls (exportLoop ans i n).2.1)
      (dmaBufs i ((exportLoop ans i n).1.map (·.dmabuf_fd))) := by
  induction n generalizing i with
  | zero => exact .nil []
  | succ n ih =>
      have hturn := exportTurn ans i n
      generalize exportLoop ans i (n + 1) = r at hturn ⊢
      cases hturn with
      | querybufFailed => exact .nil []
      | expbufFailed => exact .nil []
      | qbufFailed b => exact Moves.opens b.dmabuf_fd (FdObject.dmaBuf i)
      | next b =>
          have hopen := Moves.opens b.dmabuf_fd (FdObject.dmaBuf i)
          have hrest := (ih (i + 1)).frame_left [(b.dmabuf_fd, .dmaBuf i)]
          rw [List.append_nil] at hrest
          exact hopen.step hrest

/-- The body of `dequeue` concerns no descriptor. -/
theorem dequeueFrom_quiet (fd : Fd) (buffers : List V4l2BufInfo) (ans : DequeueAnswers) :
    ∀ c ∈ (dequeueFrom fd buffers ans).2.1, c.fdOp = none := by
  unfold dequeueFrom
  split
  · simp
  · split
    · simp
    · simp
    · simp [Call.fdOp]
    · split <;> simp [Call.fdOp]

namespace V4l2Capture

variable (self : V4l2Capture)

/-- The descriptors in the object's fields, each with what it should name. -/
def owned : List (Fd × FdObject) :=
  (self.fd, .device) :: dmaBufs 0 (self.buffers.map (·.dmabuf_fd))

/-- `open` leaves the device with the object, or nothing. -/
theorem openDevice_moves (width height pixel_format : UInt32) (ans : OpenAnswers) :
    FdMoves [] (calls (openDevice width height pixel_format ans).1)
      (match (openDevice width height pixel_format ans).2 with
        | .ok cap => cap.owned
        | .error _ => []) := by
  have hdma := V4l2CaptureDma.openDevice_moves width height pixel_format ans
  rw [V4l2CaptureDma.openDevice] at hdma
  simp only at hdma
  cases hr : (openDevice width height pixel_format ans).2 with
  | error e =>
      rw [hr] at hdma
      exact hdma
  | ok cap =>
      -- An object that has just been opened has no entries, in either class.
      have hnew : cap.buffers = [] := by
        rw [openDevice] at hr
        grind
      have howned : cap.owned = [(cap.fd, .device)] := by rw [owned, hnew, List.map_nil]; rfl
      rw [hr] at hdma
      change FdMoves [] _ cap.owned
      rw [howned]
      exact hdma

/-- `start` puts what it exports in the place of the old entries. -/
theorem start_moves (count : ℕ) (ans : StartAnswers) :
    FdMoves self.owned (calls (self.start count ans).log) (self.start count ans).obj.owned := by
  cases hr : ans.reqbufs with
  | none =>
      simp only [start, hr]
      exact .nil _
  | some granted =>
      by_cases hg : granted < 2
      · simp only [start, hr, hg, if_true]
        exact .nil _
      · obtain ⟨hlog, hobj, -⟩ := self.start_granted count hr (by omega)
        have hold : FdMoves self.owned (calls (dropBuffers self.buffers)) [(self.fd, .device)] := by
          rw [calls_dropBuffers]
          exact (FdMoves.closes_dmaBufs 0 (self.buffers.map (·.dmabuf_fd))).frame_left
            [(self.fd, .device)]
        have hloop := (exportLoop_moves ans 0 granted).frame_left [(self.fd, .device)]
        have hlast (ok : Bool) (a : List (Fd × FdObject)) :
            FdMoves a (calls (if ok then [.streamon ans.streamon] else [])) a := by
          cases ok with
          | false => exact .nil a
          | true => exact .nil a
        rw [hlog, hobj, calls_append, calls_append, calls_append]
        exact ((FdMoves.append (.nil _) hold).append hloop).append (hlast _ _)

/-- A `start` that succeeds leaves as many entries as the driver granted buffers. -/
theorem length_buffers_of_start {count : ℕ} {ans : StartAnswers}
    (h : (self.start count ans).result = .ok ()) :
    ∃ granted ∈ ans.reqbufs, 2 ≤ granted ∧ (self.start count ans).obj.buffers.length = granted := by
  by_cases hc : ∀ n, ans.reqbufs = some n → n < 2
  · exact ((self.start_refused count hc).2 h).elim
  · push Not at hc
    obtain ⟨granted, hr, hg⟩ := hc
    obtain ⟨-, hobj, hok⟩ := self.start_granted count hr hg
    obtain ⟨hlen, -, -⟩ := exportLoop_ok ans 0 granted (hok.mp h).1
    rw [hobj]
    exact ⟨granted, hr, hg, hlen⟩

/-- `drop` closes all that the object owns. -/
theorem drop_moves : FdMoves self.owned (calls self.drop) [] := by
  have hbuffers : FdMoves self.owned (calls (dropBuffers self.buffers)) [(self.fd, .device)] := by
    rw [calls_dropBuffers]
    exact (FdMoves.closes_dmaBufs 0 (self.buffers.map (·.dmabuf_fd))).frame_left
      [(self.fd, .device)]
  have hoff :
      FdMoves self.owned (calls (if self.streaming then [.streamoff] else [])) self.owned := by
    cases self.streaming with
    | false => exact .nil _
    | true => exact .nil _
  have hlast : FdMoves [(self.fd, .device)] (calls ([.releaseBufs] ++ [.close self.fd])) [] :=
    FdMoves.closes_one self.fd .device
  rw [drop, stop, List.append_assoc, calls_append, calls_append]
  exact (hoff.append hbuffers).append hlast

end V4l2Capture

namespace Cpp.V4l2Capture

variable (self : Cpp.V4l2Capture)

/-- The descriptors in the object's fields, each with what it should name. -/
def owned : List (Fd × FdObject) :=
  self.fd_.toList.map (·, .device) ++ dmaBufs 0 self.exportedFds

/-- `open` on an object without a device leaves the new device with it, also where a later
call fails. -/
theorem openDevice_moves (hfd : self.fd_ = none) (width height pixel_format : UInt32)
    (ans : OpenAnswers) :
    FdMoves self.owned (calls (self.openDevice width height pixel_format ans).log)
      (self.openDevice width height pixel_format ans).obj.owned := by
  cases ha : ans.fd with
  | none =>
      simp only [owned, openDevice, ha, hfd]
      exact .quiets (by simp [calls, SysCall.fdOp, Call.fdOp])
  | some fd =>
      have hopen : FdMoves self.owned (calls [.openDevice (some fd)])
          ((fd, .device) :: dmaBufs 0 self.exportedFds) := by
        rw [owned, hfd]
        exact (Moves.opens fd FdObject.device).frame (dmaBufs 0 self.exportedFds)
      cases hc : ans.querycap with
      | none =>
          simp only [openDevice, ha, hc]
          exact hopen
      | some cap =>
          by_cases hb : (!cap.videoCapture || !cap.streaming) = true
          · simp only [openDevice, ha, hc, hb]
            exact hopen
          · cases hs : ans.s_fmt with
            | none =>
                simp only [openDevice, ha, hc, hb, hs]
                exact hopen
            | some pix =>
                simp only [openDevice, ha, hc, hb, hs]
                exact hopen

/-- `start` on an object without entries. -/
theorem start_moves (hempty : self.exportedFds = []) (count : ℕ) (ans : StartAnswers) :
    FdMoves self.owned (calls (self.start count ans).log) (self.start count ans).obj.owned := by
  by_cases hc : self.Clears ans
  · obtain ⟨granted, tail, hlog, htail, hfd, hex⟩ := start_of_clears count hc
    have hloop := (exportLoop_moves ans 0 granted).frame_left (self.fd_.toList.map (·, .device))
    have htail : FdMoves (self.start count ans).obj.owned (calls tail)
        (self.start count ans).obj.owned := by
      rcases htail with ⟨rfl, -⟩ | ⟨ok, rfl, -⟩
      · exact .nil _
      · exact .nil _
    rw [← hex, ← hfd] at hloop
    rw [hlog, calls_append, calls_append, owned, hempty, ← hfd]
    exact FdMoves.append (FdMoves.append (.nil _) hloop) htail
  · obtain ⟨hobj, r, hlog⟩ := start_of_not_clears count hc
    rw [hobj, hlog]
    exact .nil _

/-- A `start` that succeeds leaves as many entries as the driver granted buffers, and has
filled them all, so `all_fds` holds no -1. -/
theorem exportedFds_of_start {count : ℕ} {ans : StartAnswers}
    (h : (self.start count ans).result = true) :
    ∃ granted ∈ ans.reqbufs, 2 ≤ granted ∧
      (self.start count ans).obj.buffers_.length = granted ∧
      (self.start count ans).obj.buffers_.map (·.dmabuf_fd) =
        (self.start count ans).obj.exportedFds.map some := by
  cases hfd : self.fd_.isSome with
  | false => simp [start, hfd] at h
  | true =>
      cases hr : ans.reqbufs with
      | none => simp [start, hfd, hr] at h
      | some granted =>
          by_cases hg : granted < 2
          · simp [start, hfd, hr, hg] at h
          · cases hl : (exportLoop ans 0 granted).2.2 with
            | false => simp [start, hfd, hr, hg, hl] at h
            | true =>
                obtain ⟨hlen, -, -⟩ := exportLoop_ok ans 0 granted hl
                refine ⟨granted, rfl, by omega, ?_⟩
                cases hs : ans.streamon with
                | false => simp [start, hfd, hr, hg, hl, hs] at h
                | true =>
                    simp only [start, hfd, hr, hg, hl, hs, if_true, if_false]
                    rw [exportedFds, exportedFds_entries, hlen, Nat.sub_self, List.replicate_zero,
                      List.append_nil, List.length_map, List.map_map, List.map_map]
                    exact ⟨hlen, rfl⟩

/-- `dequeue` leaves every descriptor where it is. -/
theorem dequeue_owned (ans : DequeueAnswers) : (self.dequeue ans).obj.owned = self.owned := by
  have hmod (i n : ℕ) : exportedFds { self with buffers_ := self.buffers_.modify i fun b =>
      { b with bytesused := n } } = self.exportedFds := filterMap_modify_bytesused self.buffers_ i n
  unfold dequeue
  split
  · rfl
  · split
    · rfl
    · split
      · rfl
      · rfl
      · rfl
      · split
        · simp only [owned, hmod]
        · rfl

theorem dequeue_quiet (ans : DequeueAnswers) : ∀ c ∈ (self.dequeue ans).log, c.fdOp = none := by
  unfold dequeue
  split
  · simp
  · split
    · simp
    · split
      · simp
      · simp
      · simp [Call.fdOp]
      · split <;> simp [Call.fdOp]

/-- The destructor closes all that the object owns. -/
theorem destroy_moves : FdMoves self.owned (calls self.destroy) [] := by
  have hexports (a : List (Fd × FdObject)) :
      FdMoves (a ++ dmaBufs 0 self.exportedFds) (closeFds self.exportedFds) a := by
    have hclose := (FdMoves.closes_dmaBufs 0 self.exportedFds).frame_left a
    rwa [List.append_nil] at hclose
  cases hfd : self.fd_ with
  | none =>
      have hlog : self.destroy = self.exportedFds.map .close := by simp [destroy, stop, hfd]
      rw [hlog, owned, hfd]
      exact hexports []
  | some fd =>
      have hoff (a : List (Fd × FdObject)) :
          FdMoves a (calls (if self.streaming_ then [.streamoff] else [])) a := by
        cases self.streaming_ with
        | false => exact .nil _
        | true => exact .nil _
      have hlast : FdMoves [(fd, .device)] (calls ([.releaseBufs] ++ [.close fd])) [] :=
        FdMoves.closes_one fd .device
      have hlog : self.destroy = (if self.streaming_ then [.streamoff] else []) ++
          self.exportedFds.map .close ++ ([.releaseBufs] ++ [.close fd]) := by
        simp [destroy, stop, hfd]
      rw [hlog, owned, hfd, calls_append, calls_append]
      exact ((hoff _).append (hexports _)).append hlast

end Cpp.V4l2Capture

/-! ## The programs -/

namespace PublisherMmap

open PublisherDma (Turn socketCalls)

/-- How a scope is left. -/
inductive Exit
  | ok
  /-- `?`, or `return 1`. -/
  | error
  /-- A Rust panic that unwinds. -/
  | panic
  /-- The Rust process is aborted. -/
  | abort
  /-- The C++ program has done what the language leaves undefined. -/
  | undefined
  deriving DecidableEq, Repr

/-- Whether a scope that is left so drops its locals. -/
def Exit.drops : Exit → Bool
  | .ok | .error | .panic => true
  | .abort | .undefined => false

/-- The options that `main` has parsed. -/
structure Args where
  width : UInt32
  height : UInt32
  pixel_fmt : UInt32
  socket_path : List UInt8

/-- The answers to a whole run; `dir` is the directory that `create_listening_socket` finds. -/
structure Answers (σ : Type) where
  device : OpenAnswers
  start : StartAnswers
  dir : FileNames.Directory σ
  listen : ListenAnswers σ
  accept : Option Fd
  send_handshake : Bool
  turns : List Turn

/-- What a publisher does with its capture object, from the choice of the DRM code on. No
turn of its frame loop concerns a descriptor, and what it sends is among what it owns. -/
structure Device (κ : Type) where
  lang : Lang
  source : κ → Source
  drm_fourcc : κ → Option UInt32
  all_fds : κ → List Fd
  dequeue : κ → DequeueAnswers → Outcome κ Dequeued
  requeue : κ → ℕ → Bool → Outcome κ Bool
  owned : κ → List (Fd × FdObject)
  all_fds_owned : ∀ cap, dmaBufs 0 (all_fds cap) ⊆ owned cap
  dequeue_owned : ∀ cap ans, owned (dequeue cap ans).obj = owned cap
  dequeue_quiet : ∀ cap ans, ∀ c ∈ (dequeue cap ans).log, c.fdOp = none
  requeue_owned : ∀ cap idx ok, owned (requeue cap idx ok).obj = owned cap
  requeue_quiet : ∀ cap idx ok, ∀ c ∈ (requeue cap idx ok).log, c.fdOp = none

/-- What a scope inside that of `cap` leaves. -/
structure Scope (κ : Type) where
  cap : κ
  log : List SysCall
  exit : Exit

variable {κ σ : Type}

/-- A scope that goes on after some calls. -/
def Scope.after (log : List SysCall) (s : Scope κ) : Scope κ := { s with log := log ++ s.log }

/-- What is dropped at the end of a scope. -/
def Scope.dropping (log : List SysCall) (s : Scope κ) : Scope κ :=
  if s.exit.drops then { s with log := s.log ++ log } else s

/-- The scope of a local that owns a descriptor. -/
def Scope.owning (fd : Fd) (s : Scope κ) : Scope κ := s.dropping (closeFds [fd])

/-- What an index outside `buffers` comes to. -/
def outOfBounds : Lang → Exit
  | .rust => .panic
  | .cpp => .undefined

/-- What FD_SET of a descriptor outside an `fd_set` comes to. -/
def unselectable : Lang → Exit
  | .rust => .abort
  | .cpp => .undefined

/-- The two functions of one name. -/
def listening (lang : Lang) (path : List UInt8) (ans : ListenAnswers σ)
    (dir : FileNames.Directory σ) : Listening σ :=
  match lang with
  | .rust => create_listening_socket path ans dir
  | .cpp => Cpp.create_listening_socket path ans dir

section Program

variable (D : Device κ)

/-- `let _ = cap.requeue(idx); break;`. -/
def requeueAndBreak (cap : κ) (idx : ℕ) (qbuf : Bool) : Scope κ :=
  let r := D.requeue cap idx qbuf
  ⟨r.obj, calls r.log, .ok⟩

/-- The frame loop. -/
def frameLoop (client : Fd) : κ → List Turn → Scope κ
  | cap, [] => ⟨cap, [], .ok⟩
  | cap, t :: ts =>
      let d := D.dequeue cap t.dequeue
      let cap := d.obj
      Scope.after (calls d.log) <|
        match d.result with
        | .failed _ => ⟨cap, [], .ok⟩
        | .outOfBounds => ⟨cap, [], outOfBounds D.lang⟩
        | .unselectable => ⟨cap, [], unselectable D.lang⟩
        | .frame idx =>
            Scope.after [.send_idx client idx t.send_idx] <|
              if !t.send_idx then requeueAndBreak D cap idx t.requeue
              else
                Scope.after [.wait_for_ack client t.wait_for_ack] <|
                  if !t.wait_for_ack then requeueAndBreak D cap idx t.requeue
                  else
                    let r := D.requeue cap idx t.requeue
                    Scope.after (calls r.log) <|
                      if r.result then frameLoop client r.obj ts else ⟨r.obj, [], .ok⟩

/-- From the handshake to the end, with a client. -/
def serve (cap : κ) (drm_fourcc : UInt32) (client : Fd) (ans : Answers σ) : Scope κ :=
  let hs := (D.source cap).handshakeWith drm_fourcc
  Scope.after [.send_handshake client hs (D.all_fds cap) ans.send_handshake] <|
    if ans.send_handshake then frameLoop D client cap ans.turns else ⟨cap, [], .error⟩

/-- From `accept` on: the scope of `client`. -/
def acceptAndServe (cap : κ) (drm_fourcc : UInt32) (ans : Answers σ) : Scope κ :=
  Scope.after [.accept ans.accept] <|
    match ans.accept with
    | none => ⟨cap, [], .error⟩
    | some client => Scope.owning client (serve D cap drm_fourcc client ans)

/-- From the choice of the DRM code on: the scope of `listen_fd`. -/
def listenAndServe (cap : κ) (args : Args) (ans : Answers σ) : Scope κ :=
  match D.drm_fourcc cap with
  | none => ⟨cap, [], .error⟩
  | some drm_fourcc =>
      let l := listening D.lang args.socket_path ans.listen ans.dir
      Scope.after (socketCalls l.log) <|
        match l.result with
        | .error _ => ⟨cap, [], .error⟩
        | .ok listen_fd => Scope.owning listen_fd (acceptAndServe D cap drm_fourcc ans)

end Program

/-- What `publisher/src/main.rs` does with its capture object. -/
def rust : Device V4l2Capture where
  lang := .rust
  source := .publisher
  drm_fourcc cap := v4l2_to_drm_fourcc cap.pixel_format
  all_fds cap := cap.buffers.map (·.dmabuf_fd)
  dequeue := V4l2Capture.dequeue
  requeue cap idx qbuf :=
    let r := cap.requeue idx qbuf
    ⟨r.obj, r.log, r.result.isOk⟩
  owned := V4l2Capture.owned
  all_fds_owned cap := List.subset_cons_self _ _
  dequeue_owned cap ans :=
    congrArg (fun fds => (cap.fd, FdObject.device) :: dmaBufs 0 fds)
      (dequeueFrom_fds cap.fd cap.buffers ans)
  dequeue_quiet cap ans := dequeueFrom_quiet cap.fd cap.buffers ans
  requeue_owned _ _ _ := rfl
  requeue_quiet cap idx ok := by simp [V4l2Capture.requeue, Call.fdOp]

/-- What `publisher.cpp` does with its capture object. -/
def cpp : Device Cpp.V4l2Capture where
  lang := .cpp
  source := .cppPublisher
  drm_fourcc cap :=
    let drm_fourcc := Cpp.v4l2_to_drm_fourcc cap.pixel_format_
    if drm_fourcc = 0 then none else some drm_fourcc
  all_fds := Cpp.V4l2Capture.exportedFds
  dequeue := Cpp.V4l2Capture.dequeue
  requeue := Cpp.V4l2Capture.requeue
  owned := Cpp.V4l2Capture.owned
  all_fds_owned cap := List.subset_append_right _ _
  dequeue_owned := Cpp.V4l2Capture.dequeue_owned
  dequeue_quiet := Cpp.V4l2Capture.dequeue_quiet
  requeue_owned _ _ _ := rfl
  requeue_quiet cap idx ok := by simp [Cpp.V4l2Capture.requeue, Call.fdOp]

/-- From `cap.start(4)?` on, inside the scope of `cap`. -/
def startAndServe (cap : V4l2Capture) (args : Args) (ans : Answers σ) : Scope V4l2Capture :=
  let started := cap.start 4 ans.start
  Scope.after (calls started.log) <|
    match started.result with
    | .error _ => ⟨started.obj, [], .error⟩
    | .ok () => listenAndServe rust started.obj args ans

/-- `main` of `publisher/src/main.rs`: the calls of a whole run, and how it ended. -/
def main (args : Args) (ans : Answers σ) : List SysCall × Exit :=
  let opened := V4l2Capture.openDevice args.width args.height args.pixel_fmt ans.device
  match opened.2 with
  | .error _ => (calls opened.1, .error)
  | .ok cap =>
      let s := startAndServe cap args ans
      (calls opened.1 ++ (s.dropping (calls s.cap.drop)).log, s.exit)

/-- From `cap.start(4)` on. -/
def Cpp.startAndServe (cap : Cpp.V4l2Capture) (args : Args) (ans : Answers σ) :
    Scope Cpp.V4l2Capture :=
  let started := cap.start 4 ans.start
  Scope.after (calls started.log) <|
    if !started.result then ⟨started.obj, [], .error⟩
    else listenAndServe cpp started.obj args ans

/-- `main` of `publisher.cpp`, where `cap` is there before `open`. -/
def Cpp.main (args : Args) (ans : Answers σ) : List SysCall × Exit :=
  let cap : Cpp.V4l2Capture := {}
  let opened := cap.openDevice args.width args.height args.pixel_fmt ans.device
  let s := Scope.after (calls opened.log) <|
    if !opened.result then ⟨opened.obj, [], .error⟩
    else Cpp.startAndServe opened.obj args ans
  ((s.dropping (calls s.cap.destroy)).log, s.exit)

/-- A run of one of the two programs. -/
def run (lang : Lang) (args : Args) (ans : Answers σ) : List SysCall × Exit :=
  match lang with
  | .rust => main args ans
  | .cpp => Cpp.main args ans

/-! ## Every scope keeps the capture's descriptors -/

section Keeps

variable (D : Device κ)

/-- **From `a`, a scope leads to `b`**, if it comes to its end. -/
def Scope.Leads (a : List (Fd × FdObject)) (s : Scope κ) (b : List (Fd × FdObject)) : Prop :=
  ∃ c, SendMoves a s.log c ∧ (s.exit.drops → c = b)

namespace Scope.Leads

variable {a b c : List (Fd × FdObject)} {s : Scope κ} {log : List SysCall}

theorem of_moves (h : SendMoves a s.log b) : s.Leads a b := ⟨b, h, fun _ => rfl⟩

/-- Calls, and then a scope. -/
theorem after (hlog : SendMoves a log b) (hs : s.Leads b c) : (s.after log).Leads a c := by
  obtain ⟨d, hmoves, hend⟩ := hs
  exact ⟨d, SendMoves.append hlog hmoves, hend⟩

/-- A scope, and then what is dropped. -/
theorem dropping (hs : s.Leads a b) (hlog : SendMoves b log c) : (s.dropping log).Leads a c := by
  obtain ⟨d, hmoves, hend⟩ := hs
  rw [Scope.dropping]
  split
  · obtain rfl := hend ‹_›
    exact of_moves (SendMoves.append hmoves hlog)
  · exact ⟨d, hmoves, fun he => absurd he ‹_›⟩

/-- What else is open stays so. -/
theorem frame_left (hs : s.Leads a b) (f : List (Fd × FdObject)) : s.Leads (f ++ a) (f ++ b) := by
  obtain ⟨d, hmoves, hend⟩ := hs
  exact ⟨f ++ d, Moves.frame_left hmoves f, fun he => congrArg (f ++ ·) (hend he)⟩

/-- Neither order matters. -/
theorem perm {a' b' : List (Fd × FdObject)} (hs : s.Leads a b) (ha : a'.Perm a) (hb : b.Perm b') :
    s.Leads a' b' := by
  obtain ⟨d, hmoves, hend⟩ := hs
  by_cases he : s.exit.drops
  · obtain rfl := hend he
    exact of_moves (Moves.perm hmoves ha hb)
  · exact ⟨d, Moves.perm hmoves ha (.refl d), fun h => absurd h he⟩

end Scope.Leads

@[simp] theorem Scope.exit_dropping (log : List SysCall) (s : Scope κ) :
    (s.dropping log).exit = s.exit := by
  rw [dropping]
  split <;> rfl

@[simp] theorem Scope.cap_dropping (log : List SysCall) (s : Scope κ) :
    (s.dropping log).cap = s.cap := by
  rw [dropping]
  split <;> rfl

@[simp] theorem Scope.cap_after (log : List SysCall) (s : Scope κ) :
    (s.after log).cap = s.cap := rfl

@[simp] theorem Scope.exit_after (log : List SysCall) (s : Scope κ) :
    (s.after log).exit = s.exit := rfl

theorem Scope.dropping_after (log log' : List SysCall) (s : Scope κ) :
    (s.after log).dropping log' = (s.dropping log').after log := by
  rw [dropping, dropping, after]
  split
  · exact congrArg (Scope.mk s.cap · s.exit) (List.append_assoc log s.log log')
  · rfl

/-- **A scope keeps its descriptors**: besides what `a` lists, it starts with those of `cap`
and ends with those of the object it leaves. -/
def Scope.Keeps (a : List (Fd × FdObject)) (cap : κ) (s : Scope κ) : Prop :=
  s.Leads (a ++ D.owned cap) (a ++ D.owned s.cap)

namespace Scope.Keeps

variable {D} {a : List (Fd × FdObject)} {cap : κ} {s : Scope κ}

/-- A scope that ends at once. -/
theorem stop (a : List (Fd × FdObject)) (cap : κ) (e : Exit) : Keeps D a cap ⟨cap, [], e⟩ :=
  .of_moves (Moves.nil _)

/-- Calls, and then a scope. -/
theorem after {log : List SysCall} (cap' : κ)
    (hlog : SendMoves (a ++ D.owned cap) log (a ++ D.owned cap'))
    (hs : s.Keeps D a cap') : (s.after log).Keeps D a cap := Leads.after hlog hs

/-- A scope with one descriptor more, which is opened before it and closed at its end. -/
theorem owning {fd : Fd} {o : FdObject} {log : List SysCall} (hlog : SendMoves [] log [(fd, o)])
    (hs : s.Keeps D ((fd, o) :: a) cap) : ((s.owning fd).after log).Keeps D a cap := by
  have hopen := hlog.frame (a ++ D.owned cap)
  have hclose : SendMoves ([(fd, o)] ++ (a ++ D.owned s.cap)) (closeFds [fd])
      ([] ++ (a ++ D.owned s.cap)) := (SendMoves.of_calls (FdMoves.closes_one fd o)).frame _
  have hend : ((s.owning fd).after log).Leads (a ++ D.owned cap) (a ++ D.owned s.cap) :=
    .after hopen (Leads.dropping hs hclose)
  rwa [Keeps, Scope.after, Scope.owning, cap_dropping]

end Scope.Keeps

variable {a : List (Fd × FdObject)} (cap : κ)

theorem requeueAndBreak_keeps (idx : ℕ) (qbuf : Bool) :
    (requeueAndBreak D cap idx qbuf).Keeps D a cap := by
  have hquiet := SendMoves.quiets (a ++ D.owned cap) (D.requeue_quiet cap idx qbuf)
  rw [← D.requeue_owned cap idx qbuf] at hquiet
  rw [Scope.Keeps, ← D.requeue_owned cap idx qbuf]
  exact .of_moves hquiet

/-- **The frame loop**: one turn uses the client and leaves the object with the descriptors it
had; the rest by induction on the turns. -/
theorem frameLoop_keeps (client : Fd) (turns : List Turn) :
    (frameLoop D client cap turns).Keeps D [(client, .client)] cap := by
  induction turns generalizing cap with
  | nil => exact .stop _ cap .ok
  | cons t ts ih =>
      rw [frameLoop]
      have howned := D.dequeue_owned cap t.dequeue
      have hdequeue := SendMoves.quiets ([(client, .client)] ++ D.owned cap)
        (D.dequeue_quiet cap t.dequeue)
      generalize D.dequeue cap t.dequeue = d at howned hdequeue ⊢
      have huse : Moves ([(client, .client)] ++ D.owned d.obj) [.uses client .client]
          ([(client, .client)] ++ D.owned d.obj) := .uses List.mem_cons_self
      refine .after d.obj (by rwa [howned]) ?_
      cases d.result with
      | failed e => exact .stop _ d.obj .ok
      | outOfBounds => exact .stop _ d.obj (outOfBounds D.lang)
      | unselectable => exact .stop _ d.obj (unselectable D.lang)
      | frame idx =>
          refine .after d.obj huse ?_
          cases t.send_idx with
          | false => exact requeueAndBreak_keeps D d.obj idx t.requeue
          | true =>
              refine .after d.obj huse ?_
              cases t.wait_for_ack with
              | false => exact requeueAndBreak_keeps D d.obj idx t.requeue
              | true =>
                  have hr := D.requeue_owned d.obj idx t.requeue
                  have hquiet := SendMoves.quiets ([(client, .client)] ++ D.owned d.obj)
                    (D.requeue_quiet d.obj idx t.requeue)
                  simp only [Bool.not_true, Bool.false_eq_true, if_false]
                  generalize D.requeue d.obj idx t.requeue = r at hr hquiet ⊢
                  refine .after r.obj (by rwa [hr]) ?_
                  cases r.result with
                  | false => exact .stop _ r.obj .ok
                  | true => exact ih r.obj

variable (drm_fourcc : UInt32) (args : Args) (ans : Answers σ)

/-- The handshake uses the client and sends what the object owns. -/
theorem serve_keeps (client : Fd) :
    (serve D cap drm_fourcc client ans).Keeps D [(client, .client)] cap := by
  have hclient : Moves ([(client, .client)] ++ D.owned cap) [.uses client .client]
      ([(client, .client)] ++ D.owned cap) := .uses List.mem_cons_self
  have hfds : dmaBufs 0 (D.all_fds cap) ⊆ [(client, .client)] ++ D.owned cap :=
    List.subset_append_of_subset_right _ (D.all_fds_owned cap)
  have hsend (ok : Bool) : SendMoves ([(client, .client)] ++ D.owned cap)
      [.send_handshake client ((D.source cap).handshakeWith drm_fourcc) (D.all_fds cap) ok]
      ([(client, .client)] ++ D.owned cap) := by
    rw [SendMoves, sentOps, List.flatMap_singleton]
    exact hclient.step (Moves.usesAll hfds)
  rw [serve]
  refine .after cap (hsend ans.send_handshake) ?_
  cases ans.send_handshake with
  | false => exact .stop _ cap .error
  | true => exact frameLoop_keeps D cap client ans.turns

theorem acceptAndServe_keeps : (acceptAndServe D cap drm_fourcc ans).Keeps D a cap := by
  rw [acceptAndServe]
  cases ans.accept with
  | none => exact .after cap (.nil _) (.stop a cap .error)
  | some client =>
      have hopen : SendMoves [] [.accept (some client)] [(client, .client)] :=
        Moves.opens client FdObject.client
      have hframe := Scope.Leads.frame_left (serve_keeps D cap drm_fourcc ans client) a
      have hserve : (serve D cap drm_fourcc client ans).Keeps D ((client, .client) :: a) cap :=
        hframe.perm List.perm_middle.symm List.perm_middle
      exact .owning hopen hserve

/-- `create_listening_socket` leaves the socket it returns, in both languages. -/
theorem listening_moves (lang : Lang) (path : List UInt8) (ans : ListenAnswers σ)
    (dir : FileNames.Directory σ) :
    FdMoves [] (socketCalls (listening lang path ans dir).log)
      (match (listening lang path ans dir).result with
        | .ok fd => [(fd, .listener)]
        | .error _ => []) := by
  cases lang with
  | rust => exact PublisherDma.create_listening_socket_moves path ans dir
  | cpp =>
      rw [listening, Cpp.create_listening_socket]
      cases ans.socket with
      | none => exact .nil []
      | some s =>
          have hopen : Moves [] [.opens s .listener] [(s, FdObject.listener)] := .opens s _
          have hclose := FdMoves.closes_one s FdObject.listener
          cases Cpp.fill_sockaddr path with
          | none => exact hopen.step hclose
          | some addr =>
              simp only
              cases (dir.unlink ans.unlink (FileNames.cstr path)).bind ans.bind ans.sock addr with
              | none => exact hopen.step hclose
              | some d =>
                  cases ans.listen with
                  | false => exact hopen.step hclose
                  | true => exact hopen

theorem isHandshake_socketCalls (log : List (Ledger.Event Fd)) :
    ∀ c ∈ socketCalls log, c.isHandshake = false := by
  intro c hc
  obtain ⟨e, -, rfl⟩ := List.mem_map.mp hc
  cases e with
  | acquire fd => rfl
  | release fd => rfl

theorem listenAndServe_keeps : (listenAndServe D cap args ans).Keeps D [] cap := by
  rw [listenAndServe]
  cases D.drm_fourcc cap with
  | none => exact .stop [] cap .error
  | some drm_fourcc =>
      have hlisten := listening_moves D.lang args.socket_path ans.listen ans.dir
      have hnone :=
        isHandshake_socketCalls (listening D.lang args.socket_path ans.listen ans.dir).log
      simp only
      generalize listening D.lang args.socket_path ans.listen ans.dir = l at hlisten hnone ⊢
      cases hr : l.result with
      | error e =>
          rw [hr] at hlisten
          have hsend := (SendMoves.of_fdMoves hnone hlisten).frame (D.owned cap)
          exact .after cap hsend (.stop [] cap .error)
      | ok listen_fd =>
          rw [hr] at hlisten
          exact .owning (SendMoves.of_fdMoves hnone hlisten)
            (acceptAndServe_keeps D cap drm_fourcc ans)

end Keeps

section Runs

variable (args : Args) (ans : Answers σ)

theorem startAndServe_keeps (cap : V4l2Capture) :
    (startAndServe cap args ans).Keeps rust [] cap := by
  rw [startAndServe]
  refine .after (cap.start 4 ans.start).obj (.of_calls (cap.start_moves 4 ans.start)) ?_
  cases (cap.start 4 ans.start).result with
  | error e => exact .stop [] _ .error
  | ok u => exact listenAndServe_keeps rust _ args ans

/-- **A run of the Rust publisher opens nothing that it does not close**, unless it is
aborted. -/
theorem main_moves :
    ∃ b, SendMoves [] (main args ans).1 b ∧ ((main args ans).2.drops → b = []) := by
  have hopen := V4l2Capture.openDevice_moves args.width args.height args.pixel_fmt ans.device
  rw [main]
  simp only
  generalize V4l2Capture.openDevice args.width args.height args.pixel_fmt ans.device = opened
    at hopen ⊢
  cases hr : opened.2 with
  | error e =>
      rw [hr] at hopen
      exact ⟨[], .of_calls hopen, fun _ => rfl⟩
  | ok cap =>
      rw [hr] at hopen
      have hscope := startAndServe_keeps args ans cap
      have hdrop := (startAndServe cap args ans).cap.drop_moves
      have hrun :=
        Scope.Leads.after (.of_calls hopen) (Scope.Leads.dropping hscope (.of_calls hdrop))
      rw [Scope.Leads, Scope.after] at hrun
      simpa only [Scope.exit_dropping] using hrun

theorem Cpp.startAndServe_keeps (cap : Cpp.V4l2Capture) (hempty : cap.exportedFds = []) :
    (Cpp.startAndServe cap args ans).Keeps cpp [] cap := by
  rw [Cpp.startAndServe]
  refine .after (cap.start 4 ans.start).obj (.of_calls (cap.start_moves hempty 4 ans.start)) ?_
  cases (cap.start 4 ans.start).result with
  | false => exact .stop [] _ .error
  | true => exact listenAndServe_keeps cpp _ args ans

/-- **A run of the C++ publisher opens nothing that it does not close**, unless it ends
undefined. -/
theorem Cpp.main_moves :
    ∃ b, SendMoves [] (Cpp.main args ans).1 b ∧ ((Cpp.main args ans).2.drops → b = []) := by
  let cap : Cpp.V4l2Capture := {}
  have hopen := cap.openDevice_moves rfl args.width args.height args.pixel_fmt ans.device
  obtain ⟨-, -, -, -, hempty, -⟩ :=
    cap.openDevice_outcome args.width args.height args.pixel_fmt ans.device
  rw [Cpp.main]
  simp only
  generalize cap.openDevice args.width args.height args.pixel_fmt ans.device = opened
    at hopen hempty ⊢
  have hbody : (if !opened.result then (⟨opened.obj, [], .error⟩ : Scope Cpp.V4l2Capture)
      else Cpp.startAndServe opened.obj args ans).Keeps cpp [] opened.obj := by
    cases opened.result with
    | false => exact .stop [] opened.obj .error
    | true => exact Cpp.startAndServe_keeps args ans opened.obj hempty
  generalize (if !opened.result then (⟨opened.obj, [], .error⟩ : Scope Cpp.V4l2Capture)
    else Cpp.startAndServe opened.obj args ans) = s at hbody ⊢
  have hstart : (s.after (calls opened.log)).Leads [] (cpp.owned s.cap) :=
    .after (.of_calls hopen) hbody
  have hrun := hstart.dropping (.of_calls s.cap.destroy_moves)
  rw [Scope.Leads, Scope.exit_dropping] at hrun
  exact hrun

end Runs

/-! ## What the handshake says -/

/-- A handshake announces as many buffers as the driver granted, at least two, and sends a
descriptor for each. -/
def Announces (ans : StartAnswers) : SysCall → Prop
  | .send_handshake _ hs fds _ => ∃ granted ∈ ans.reqbufs,
      2 ≤ granted ∧ fds.length = granted ∧ hs.buf_count = UInt32.ofNat granted
  | _ => True

/-- All calls of a scope are of one kind. -/
def Scope.All (P : SysCall → Prop) (s : Scope κ) : Prop := ∀ c ∈ s.log, P c

section All

variable {P : SysCall → Prop} {s : Scope κ}

theorem Scope.All.after {log : List SysCall} (hlog : ∀ c ∈ log, P c) (hs : s.All P) :
    (s.after log).All P := by
  intro c hc
  rcases List.mem_append.mp hc with hc | hc
  · exact hlog c hc
  · exact hs c hc

variable (hP : ∀ c : SysCall, c.isHandshake = false → P c)
include hP

theorem all_calls (log : List Call) : ∀ c ∈ calls log, P c := by
  intro c hc
  obtain ⟨c', -, rfl⟩ := List.mem_map.mp hc
  exact hP _ rfl

theorem Scope.All.dropping (hs : s.All P) (log : List Call) : (s.dropping (calls log)).All P := by
  rw [Scope.dropping]
  split
  · intro c hc
    rcases List.mem_append.mp hc with hc | hc
    · exact hs c hc
    · exact all_calls hP _ c hc
  · exact hs

theorem Scope.All.owning (hs : s.All P) (fd : Fd) : (s.owning fd).All P :=
  hs.dropping hP [.close fd]

variable (D : Device κ) (cap : κ)

/-- The frame loop sends no handshake. -/
theorem frameLoop_all (client : Fd) (turns : List Turn) : (frameLoop D client cap turns).All P := by
  have hstop (cap : κ) (e : Exit) : Scope.All P ⟨cap, [], e⟩ := by simp [Scope.All]
  have hrequeue (cap : κ) (idx : ℕ) (ok : Bool) : (requeueAndBreak D cap idx ok).All P :=
    all_calls hP _
  have hsend (idx : ℕ) (ok : Bool) : ∀ c ∈ [SysCall.send_idx client idx ok], P c := by
    simpa using hP _ rfl
  have hwait (ok : Bool) : ∀ c ∈ [SysCall.wait_for_ack client ok], P c := by simpa using hP _ rfl
  induction turns generalizing cap with
  | nil => exact hstop cap .ok
  | cons t ts ih =>
      rw [frameLoop]
      apply Scope.All.after (all_calls hP _)
      cases (D.dequeue cap t.dequeue).result with
      | failed e => exact hstop _ _
      | outOfBounds => exact hstop _ _
      | unselectable => exact hstop _ _
      | frame idx =>
          apply Scope.All.after (hsend idx t.send_idx)
          cases t.send_idx with
          | false => exact hrequeue _ _ _
          | true =>
              apply Scope.All.after (hwait t.wait_for_ack)
              cases t.wait_for_ack with
              | false => exact hrequeue _ _ _
              | true =>
                  apply Scope.All.after (all_calls hP _)
                  split
                  · exact ih _
                  · exact hstop _ _

end All

theorem announces_of_not_handshake (ans : StartAnswers) {c : SysCall}
    (hc : c.isHandshake = false) : Announces ans c := by
  cases c with
  | send_handshake => cases hc
  | _ => trivial

section Announces

variable (args : Args) (ans : Answers σ)

/-- The one handshake of a run is built from the started object. -/
theorem listenAndServe_announces (D : Device κ) (cap : κ)
    (hcap : ∃ granted ∈ ans.start.reqbufs, 2 ≤ granted ∧ (D.all_fds cap).length = granted ∧
      (D.source cap).bufCount = granted) :
    (listenAndServe D cap args ans).All (Announces ans.start) := by
  have hstop (e : Exit) : Scope.All (Announces ans.start) (⟨cap, [], e⟩ : Scope κ) := by
    simp [Scope.All]
  obtain ⟨granted, hgranted, htwo, hlen, hcount⟩ := hcap
  rw [listenAndServe]
  cases D.drm_fourcc cap with
  | none => exact hstop _
  | some drm_fourcc =>
      apply Scope.All.after
      · intro c hc
        exact announces_of_not_handshake _ (isHandshake_socketCalls _ c hc)
      cases (listening D.lang args.socket_path ans.listen ans.dir).result with
      | error e => exact hstop _
      | ok listen_fd =>
          apply Scope.All.owning fun c => announces_of_not_handshake _
          rw [acceptAndServe]
          apply Scope.All.after
          · simp [Announces]
          cases ans.accept with
          | none => exact hstop _
          | some client =>
              apply Scope.All.owning fun c => announces_of_not_handshake _
              apply Scope.All.after
              · intro c hc
                obtain rfl := List.mem_singleton.mp hc
                exact ⟨granted, hgranted, htwo, hlen, congrArg UInt32.ofNat hcount⟩
              split
              · exact frameLoop_all (fun c => announces_of_not_handshake _) D cap client ans.turns
              · exact hstop _

theorem startAndServe_announces (cap : V4l2Capture) :
    (startAndServe cap args ans).All (Announces ans.start) := by
  apply Scope.All.after (all_calls (fun c => announces_of_not_handshake _) _)
  cases hr : (cap.start 4 ans.start).result with
  | error e => simp [Scope.All]
  | ok u =>
      obtain ⟨granted, hgranted, htwo, hlen⟩ := cap.length_buffers_of_start hr
      have hfds : (rust.all_fds (cap.start 4 ans.start).obj).length = granted := by
        rw [← hlen]
        exact List.length_map _
      exact listenAndServe_announces args ans rust _ ⟨granted, hgranted, htwo, hfds, hlen⟩

theorem Cpp.startAndServe_announces (cap : Cpp.V4l2Capture) :
    (Cpp.startAndServe cap args ans).All (Announces ans.start) := by
  apply Scope.All.after (all_calls (fun c => announces_of_not_handshake _) _)
  cases hr : (cap.start 4 ans.start).result with
  | false => simp [Scope.All]
  | true =>
      obtain ⟨granted, hgranted, htwo, hlen, hfilled⟩ := cap.exportedFds_of_start hr
      have hfds := congrArg List.length hfilled
      rw [List.length_map, List.length_map, hlen] at hfds
      exact listenAndServe_announces args ans cpp _ ⟨granted, hgranted, htwo, hfds.symm, hlen⟩

/-- **Every handshake of a run announces what the driver granted.** -/
theorem run_announces (lang : Lang) : ∀ c ∈ (run lang args ans).1, Announces ans.start c := by
  have hnot (log : List Call) : ∀ c ∈ calls log, Announces ans.start c :=
    all_calls (fun c => announces_of_not_handshake ans.start) log
  cases lang with
  | rust =>
      rw [run, main]
      simp only
      generalize V4l2Capture.openDevice args.width args.height args.pixel_fmt ans.device = opened
      cases opened.2 with
      | error e => exact hnot _
      | ok cap =>
          simp only [List.forall_mem_append]
          have hscope := startAndServe_announces args ans cap
          exact ⟨hnot _, hscope.dropping (fun c => announces_of_not_handshake _) _⟩
  | cpp =>
      rw [run, Cpp.main]
      simp only
      generalize Cpp.V4l2Capture.openDevice _ args.width args.height args.pixel_fmt ans.device =
        opened
      apply Scope.All.dropping fun c => announces_of_not_handshake _
      apply Scope.All.after (hnot _)
      cases opened.result with
      | false => simp [Scope.All]
      | true => exact Cpp.startAndServe_announces args ans opened.obj

end Announces

/-! ## The main result -/

/-- The connection that a call of the session names. -/
def sock_fd : SysCall → Option Fd
  | .send_handshake sock_fd .. | .send_idx sock_fd .. | .wait_for_ack sock_fd .. => some sock_fd
  | _ => none

/-- What a call uses is open when it is made, and names what is meant. -/
theorem table_of_sends {log pre : List SysCall} {c : SysCall} {b : List (Fd × FdObject)}
    {r : Fd} {o : FdObject} (hmoves : SendMoves [] log b)
    (hf : Ledger.Fresh ∅ (fdEvents log)) (hpre : pre ++ [c] <+: log)
    (huses : ∀ op ∈ c.sendOps, ∃ r o, op = .uses r o) (hmem : .uses r o ∈ c.sendOps) :
    fdTable pre r = some o := by
  obtain ⟨l, m, hsplit⟩ := List.append_of_mem hmem
  have hl : ∀ op ∈ l, ∃ r o, op = .uses r o := by
    intro op hop
    exact huses op (hsplit ▸ List.mem_append_left _ hop)
  have hops : (sentOps pre ++ l) ++ [.uses r o] <+: sentOps log := by
    obtain ⟨rest, rfl⟩ := hpre
    have hone : sentOps [c] = l ++ .uses r o :: m := by
      rw [← hsplit, sentOps, List.flatMap_singleton]
    refine ⟨m ++ sentOps rest, ?_⟩
    rw [sentOps_append, sentOps_append, hone]
    simp
  have hfresh : Ledger.Fresh ∅ (events (sentOps log)) := by rwa [(sentOps_uses log).1]
  have htable := Moves.table_of_uses hmoves hfresh hops
  rwa [table_append_of_uses _ hl, (sentOps_uses pre).2] at htable

/-- **The two MMAP publishers own their descriptors.** As long as the kernel hands out only
numbers that are not in use, in every run of either program nothing is closed that is not
open, and each descriptor is closed exactly once by the end, if the run comes to it (Rust is
not aborted, and C++ not undefined); whatever is sent or awaited names the client while it is
open; and a handshake announces the number of buffers that the driver granted and sends that
many distinct descriptors, the one at a position open and naming the DMA-BUF of that index. -/
theorem owns_what_it_sends (lang : Lang) (args : Args) (ans : Answers σ)
    (hf : Ledger.Fresh ∅ (fdEvents (run lang args ans).1)) :
    Ledger.Sound ∅ (fdEvents (run lang args ans).1) ∧
      ((run lang args ans).2.drops → Ledger.Balanced (fdEvents (run lang args ans).1)) ∧
      (∀ (pre : List SysCall) (c : SysCall), pre ++ [c] <+: (run lang args ans).1 →
        ∀ fd ∈ sock_fd c, fdTable pre fd = some .client) ∧
      ∀ (pre : List SysCall) (client : Fd) (hs : Handshake) (fds : List Fd) (ok : Bool),
        pre ++ [.send_handshake client hs fds ok] <+: (run lang args ans).1 →
          (∃ granted ∈ ans.start.reqbufs, 2 ≤ granted ∧ fds.length = granted ∧
            hs.buf_count = UInt32.ofNat granted) ∧
          fds.Nodup ∧
          ∀ (i : ℕ) (fd : Fd), fds[i]? = some fd → fdTable pre fd = some (.dmaBuf i) := by
  obtain ⟨b, hmoves, hend⟩ : ∃ b, SendMoves [] (run lang args ans).1 b ∧
      ((run lang args ans).2.drops → b = []) := by
    cases lang with
    | rust => exact main_moves args ans
    | cpp => exact Cpp.main_moves args ans
  have hall (client : Fd) (hs : Handshake) (fds : List Fd) (ok : Bool) :
      ∀ op ∈ (SysCall.send_handshake client hs fds ok).sendOps, ∃ r o, op = .uses r o := by
    intro op hop
    rcases List.mem_cons.mp hop with rfl | hop
    · exact ⟨client, .client, rfl⟩
    · obtain ⟨p, -, rfl⟩ := List.mem_map.mp hop
      exact ⟨p.1, p.2, rfl⟩
  have hevents := (sentOps_uses (run lang args ans).1).1
  have hfresh : Ledger.Fresh ∅ (events (sentOps (run lang args ans).1)) := by rwa [hevents]
  refine ⟨?_, ?_, ?_, ?_⟩
  · have hsound := Moves.sound hmoves hfresh
    rwa [hevents] at hsound
  · intro he
    obtain rfl := hend he
    have hbalanced := Moves.balanced hmoves hfresh
    rwa [hevents] at hbalanced
  · intro pre c hpre fd hfd
    cases c with
    | send_handshake client hs fds ok =>
        obtain rfl := Option.some.inj hfd
        exact table_of_sends hmoves hf hpre (hall _ _ _ _) List.mem_cons_self
    | send_idx client idx ok | wait_for_ack client ok =>
        obtain rfl := Option.some.inj hfd
        exact table_of_sends hmoves hf hpre (by simp [SysCall.sendOps, SysCall.fdOp])
          List.mem_cons_self
    | _ => cases hfd
  · intro pre client hs fds ok hpre
    have hentry (i : ℕ) (fd : Fd) (hi : fds[i]? = some fd) : fdTable pre fd = some (.dmaBuf i) := by
      apply table_of_sends hmoves hf hpre (hall _ _ _ _)
      exact List.mem_cons_of_mem _ (List.mem_map_of_mem (mem_dmaBufs hi))
    have hannounces : Announces ans.start (.send_handshake client hs fds ok) :=
      run_announces args ans lang _ (hpre.subset (by simp))
    refine ⟨hannounces, ?_, hentry⟩
    rw [List.nodup_iff_getElem?_ne_getElem?]
    intro i j hij hj heq
    have hi := List.getElem?_eq_getElem (hij.trans hj)
    have hdma := hentry j _ (heq ▸ hi)
    rw [hentry i _ hi] at hdma
    simp at hdma
    omega

/-- The options of a run. -/
def vga : Args where
  width := 640
  height := 480
  pixel_fmt := V4L2_PIX_FMT_YUYV
  socket_path := [97]

/-- A run with two buffers, in which one frame is acknowledged and the second is sent to a
client that has gone. -/
def oneFrame : Answers ℕ where
  device := ⟨some 3, some ⟨true, true⟩, some ⟨640, 480, 1280, 614400, V4L2_PIX_FMT_YUYV⟩⟩
  start := ⟨some 2, fun _ => some 614400, fun i => some (4 + i), fun _ => true, true⟩
  dir := .empty
  listen := ⟨true, some 6, 7, true, true⟩
  accept := some 7
  send_handshake := true
  turns :=
    [⟨⟨.ready, some (1, 614400)⟩, true, true, true⟩,
      ⟨⟨.ready, some (0, 614400)⟩, true, false, true⟩]

/-- The second descriptor of the handshake names the second DMA-BUF. -/
theorem owns_what_it_sends_oneFrame :
    Ledger.Balanced (fdEvents (run .cpp vga oneFrame).1) ∧
      fdTable ((run .cpp vga oneFrame).1.take 13) 5 = some (.dmaBuf 1) :=
  have h := owns_what_it_sends .cpp vga oneFrame (by decide)
  ⟨h.2.1 (by decide),
    (h.2.2.2 _ 7 ⟨2, 640, 480, DRM_FORMAT_YUYV, 1280, 614400⟩ [4, 5] true (by decide)).2.2 1 5 rfl⟩

end PublisherMmap

end DmabufPipeline
