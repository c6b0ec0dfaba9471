import DmabufPipeline.Capture.Start
import DmabufPipeline.Lib.Handles

/-!
# DMA-BUFs from a heap

`alloc_dma_heap` of `common/src/v4l2.rs`, and what `V4l2CaptureDma` does with the
descriptors it is given. Between the two the same descriptors are in turn a `Vec<OwnedFd>`,
a consuming iterator, a field of `buffers` and a number in the request of a QBUF.

The calls of `publisher_dma` are read as operations on the descriptor table of the process:
which of them open or close a descriptor, and which hand one over where a certain object is
meant. A QBUF means the DMA-BUF that was allocated for its index. The two paths are
arguments of the program, without a NUL, so `CString::new` does not fail.

## Main definitions

* `FdObject`, `SysCall` — what a descriptor can name, and the calls of `publisher_dma`.
* `fdOps`, `fdEvents`, `fdTable` — a log of calls as operations on the table.
* `alloc_dma_heap` — the allocation.
* `V4l2CaptureDma.openDevice`, `V4l2CaptureDma.drop` — the object's ends.
* `V4l2CaptureDma.owned` — the descriptors in the object's fields.
* `AllocatesAll` — what an allocation owes to the process.
-/

namespace DmabufPipeline

open Handles

/-- What a descriptor names. -/
inductive FdObject
  | device
  | heap
  /-- The DMA-BUF allocated for a buffer index. -/
  | dmaBuf (index : ℕ)
  | listener
  | client
  deriving DecidableEq, Repr

/-- A system call of `publisher_dma`, with what it answered. -/
inductive SysCall
  /-- A call of the capture object, or a `close`. -/
  | call (c : Call)
  | openHeap (fd : Option Fd)
  /-- DMA_HEAP_IOC_ALLOC, at a turn of the loop. -/
  | heapAlloc (len : UInt64) (turn : ℕ) (fd : Option Fd)
  | socket (fd : Fd)
  | accept (fd : Option Fd)
  | send_handshake (sock_fd : Fd) (hs : Handshake) (fds : List Fd) (ok : Bool)
  | send_idx (sock_fd : Fd) (idx : ℕ) (ok : Bool)
  | wait_for_ack (sock_fd : Fd) (ok : Bool)
  deriving DecidableEq, Repr

/-- What a call of the capture object does to the descriptor table. -/
def Call.fdOp : Call → Option (Op Fd FdObject)
  | .openDevice fd => fd.map (.opens · .device)
  | .expbuf i fd => fd.map (.opens · (.dmaBuf i))
  | .qbuf i fd _ => fd.map (.uses · (.dmaBuf i))
  | .close fd => some (.closes fd)
  | _ => none

/-- What a call does to the descriptor table. -/
def SysCall.fdOp : SysCall → Option (Op Fd FdObject)
  | .call c => c.fdOp
  | .openHeap fd => fd.map (.opens · .heap)
  | .heapAlloc _ turn fd => fd.map (.opens · (.dmaBuf turn))
  | .socket fd => some (.opens fd .listener)
  | .accept fd => fd.map (.opens · .client)
  | .send_handshake sock_fd .. | .send_idx sock_fd .. | .wait_for_ack sock_fd .. =>
      some (.uses sock_fd .client)

/-- The operations of a log. -/
def fdOps (log : List SysCall) : List (Op Fd FdObject) := log.filterMap SysCall.fdOp

/-- The descriptors that a log obtains and closes. -/
def fdEvents (log : List SysCall) : List (Ledger.Event Fd) := events (fdOps log)

/-- The descriptor table that a log leaves. -/
def fdTable (log : List SysCall) : Fd → Option FdObject := table (fdOps log)

/-- The calls of the capture object among those of the process. -/
def calls (log : List Call) : List SysCall := log.map .call

/-- Closing descriptors in order. -/
def closeFds (fds : List Fd) : List SysCall := calls (fds.map .close)

/-! ## The allocation -/

/-- The loop of `alloc_dma_heap`, for `n` more buffers. A failure closes the heap and
drops the vector. -/
def allocLoop (size : UInt64) (heap_fd : Fd) (alloc : ℕ → Option Fd) :
    List Fd → ℕ → List SysCall × Except CaptureError (List Fd)
  | fds, 0 => (closeFds [heap_fd], .ok fds)
  | fds, n + 1 =>
      match alloc fds.length with
      | none =>
          (.heapAlloc size fds.length none :: (closeFds [heap_fd] ++ closeFds fds), .error .os)
      | some fd =>
          let (log, r) := allocLoop size heap_fd alloc (fds ++ [fd]) n
          (.heapAlloc size fds.length (some fd) :: log, r)

/-- `alloc_dma_heap`, with the answers of `open` and of DMA_HEAP_IOC_ALLOC at each turn. -/
def alloc_dma_heap (size : UInt64) (count : UInt32) (heap : Option Fd) (alloc : ℕ → Option Fd) :
    List SysCall × Except CaptureError (List Fd) :=
  match heap with
  | none => ([.openHeap none], .error .os)
  | some heap_fd =>
      let (log, r) := allocLoop size heap_fd alloc [] count.toNat
      (.openHeap (some heap_fd) :: log, r)

/-! ## The ends of the capture object -/

namespace V4l2CaptureDma

/-- `V4l2CaptureDma::open`, the text of `V4l2Capture::open` with another type. -/
def openDevice (width height pixel_format : UInt32) (ans : OpenAnswers) :
    List Call × Except CaptureError V4l2CaptureDma :=
  let (log, r) := V4l2Capture.openDevice width height pixel_format ans
  (log, r.map fun cap =>
    { fd := cap.fd, width := cap.width, height := cap.height, stride := cap.stride,
      size_image := cap.size_image, pixel_format := cap.pixel_format })

/-- `V4l2CaptureDma::stop`, which only `drop` calls. -/
def stop (self : V4l2CaptureDma) : V4l2CaptureDma × List Call :=
  ({ self with streaming := false, buffers := [] },
    (if self.streaming then [.streamoff] else []) ++ dropBuffers self.buffers ++ [.releaseBufs])

/-- `Drop for V4l2CaptureDma`. -/
def drop (self : V4l2CaptureDma) : List Call := self.stop.2 ++ [.close self.fd]

end V4l2CaptureDma

/-! ## What is owned -/

/-- DMA-BUFs at consecutive indices, from `i` on. -/
def dmaBufs (i : ℕ) (fds : List Fd) : List (Fd × FdObject) :=
  (fds.zipIdx i).map fun p => (p.1, .dmaBuf p.2)

/-- The descriptors in the object's fields, each with what it should name. -/
def V4l2CaptureDma.owned (self : V4l2CaptureDma) : List (Fd × FdObject) :=
  (self.fd, .device) :: dmaBufs 0 (self.buffers.map (·.dmabuf_fd))

/-- The descriptors that an allocation returns. -/
def allocated : Except CaptureError (List Fd) → List (Fd × FdObject)
  | .ok fds => dmaBufs 0 fds
  | .error _ => []

/-- The calls move the ownership of descriptors. -/
abbrev FdMoves (a : List (Fd × FdObject)) (log : List SysCall) (b : List (Fd × FdObject)) : Prop :=
  Moves a (fdOps log) b

@[simp] theorem calls_append (l m : List Call) : calls (l ++ m) = calls l ++ calls m :=
  List.map_append

@[simp] theorem fdOps_append (l m : List SysCall) : fdOps (l ++ m) = fdOps l ++ fdOps m :=
  List.filterMap_append

@[simp] theorem dmaBufs_fst (i : ℕ) (fds : List Fd) : (dmaBufs i fds).map Prod.fst = fds := by
  simp [dmaBufs, Function.comp_def]

theorem dmaBufs_cons (i : ℕ) (fd : Fd) (fds : List Fd) :
    dmaBufs i (fd :: fds) = (fd, .dmaBuf i) :: dmaBufs (i + 1) fds := rfl

theorem dmaBufs_concat (fds : List Fd) (fd : Fd) :
    dmaBufs 0 (fds ++ [fd]) = dmaBufs 0 fds ++ [(fd, .dmaBuf fds.length)] := by
  simp [dmaBufs, List.zipIdx_append]

/-- The entry at a position is owned as the DMA-BUF of that index. -/
theorem mem_dmaBufs {fds : List Fd} {i : ℕ} {fd : Fd} (h : fds[i]? = some fd) :
    (fd, .dmaBuf i) ∈ dmaBufs 0 fds := by
  rw [dmaBufs, List.mem_map]
  exact ⟨(fd, i), List.mk_mem_zipIdx_iff_getElem?.mpr h, rfl⟩

theorem fdOps_closeFds (i : ℕ) (fds : List Fd) :
    fdOps (closeFds fds) = (dmaBufs i fds).map fun p => .closes p.1 := by
  induction fds generalizing i with
  | nil => rfl
  | cons fd fds ih =>
      have hrest := ih (i + 1)
      rw [dmaBufs_cons, List.map_cons, ← hrest]
      rfl

namespace FdMoves

variable {a b c : List (Fd × FdObject)} {l m : List SysCall}

/-- One stretch of calls after another. -/
theorem append (hl : FdMoves a l b) (hm : FdMoves b m c) : FdMoves a (l ++ m) c := by
  rw [FdMoves, fdOps_append]
  exact Moves.append hl hm

/-- Calls that do not concern the table. -/
theorem quiets {log : List SysCall} (h : ∀ c ∈ log, c.fdOp = none) : FdMoves a log a := by
  have hnone : fdOps log = [] := List.filterMap_eq_nil_iff.mpr h
  rw [FdMoves, hnone]
  exact .nil a

theorem closes_dmaBufs (i : ℕ) (fds : List Fd) : FdMoves (dmaBufs i fds) (closeFds fds) [] := by
  rw [FdMoves, fdOps_closeFds i]
  exact .closesAll _

theorem closes_one (fd : Fd) (o : FdObject) : FdMoves [(fd, o)] (closeFds [fd]) [] :=
  Moves.closes fd o

end FdMoves

/-! ## Every function moves what it says -/

/-- **The allocation loop**: success leaves the DMA-BUFs of all turns, a failure nothing. -/
theorem allocLoop_moves (size : UInt64) (heap_fd : Fd) (alloc : ℕ → Option Fd) (fds : List Fd)
    (n : ℕ) :
    FdMoves ((heap_fd, .heap) :: dmaBufs 0 fds) (allocLoop size heap_fd alloc fds n).1
      (allocated (allocLoop size heap_fd alloc fds n).2) := by
  have hclose (fds : List Fd) :
      FdMoves ((heap_fd, .heap) :: dmaBufs 0 fds) (closeFds [heap_fd]) (dmaBufs 0 fds) :=
    (FdMoves.closes_one heap_fd .heap).frame (dmaBufs 0 fds)
  induction n generalizing fds with
  | zero => exact hclose fds
  | succ n ih =>
      cases ha : alloc fds.length with
      | none =>
          simp only [allocLoop, ha]
          exact (hclose fds).append (FdMoves.closes_dmaBufs 0 fds)
      | some fd =>
          simp only [allocLoop, ha]
          have hopen : Moves ((heap_fd, .heap) :: dmaBufs 0 fds) [.opens fd (.dmaBuf fds.length)]
              ((heap_fd, .heap) :: dmaBufs 0 (fds ++ [fd])) := by
            have hframe := (Moves.opens fd (FdObject.dmaBuf fds.length)).frame_left
              ((heap_fd, .heap) :: dmaBufs 0 fds)
            rw [List.append_nil] at hframe
            rwa [dmaBufs_concat]
          exact hopen.step (ih (fds ++ [fd]))

/-- A loop that does not fail appends one descriptor for each turn. -/
theorem length_of_allocLoop {size : UInt64} {heap_fd : Fd} {alloc : ℕ → Option Fd}
    {fds fds' : List Fd} {n : ℕ} (h : (allocLoop size heap_fd alloc fds n).2 = .ok fds') :
    fds'.length = fds.length + n := by
  induction n generalizing fds with
  | zero =>
      cases h
      rfl
  | succ n ih =>
      cases ha : alloc fds.length with
      | none => simp [allocLoop, ha] at h
      | some fd =>
          simp only [allocLoop, ha] at h
          have hlen := ih h
          rw [List.length_append, List.length_singleton] at hlen
          omega

section Allocation

variable (size : UInt64) (count : UInt32) (heap : Option Fd) (alloc : ℕ → Option Fd)

/-- `alloc_dma_heap` leaves what it returns. -/
theorem alloc_dma_heap_moves :
    FdMoves [] (alloc_dma_heap size count heap alloc).1
      (allocated (alloc_dma_heap size count heap alloc).2) := by
  cases heap with
  | none => exact .quiets (by simp [alloc_dma_heap, SysCall.fdOp])
  | some heap_fd =>
      have hloop := allocLoop_moves size heap_fd alloc [] count.toNat
      exact (Moves.opens heap_fd FdObject.heap).step hloop

/-- What `alloc_dma_heap` owes to a process in which `s` are open. -/
def AllocatesAll (s : Finset Fd) (log : List SysCall) : Except CaptureError (List Fd) → Prop
  | .ok fds =>
      fds.length = count.toNat ∧ fds.Nodup ∧ (∀ fd ∈ fds, fd ∉ s) ∧
        Ledger.Sound s (fdEvents log) ∧ Ledger.held s (fdEvents log) = s ∪ fds.toFinset
  | .error _ => Ledger.Sound s (fdEvents log) ∧ Ledger.held s (fdEvents log) = s

/-- **`alloc_dma_heap` returns `count` distinct open descriptors, or closes all it had
allocated**; the heap is closed in any case. -/
theorem alloc_dma_heap_allocatesAll {s : Finset Fd}
    (hf : Ledger.Fresh s (fdEvents (alloc_dma_heap size count heap alloc).1)) :
    AllocatesAll count s (alloc_dma_heap size count heap alloc).1
      (alloc_dma_heap size count heap alloc).2 := by
  have hmoves := alloc_dma_heap_moves size count heap alloc
  have : Nonempty FdObject := ⟨.heap⟩
  obtain ⟨hnodup, hnew, hsound, hheld⟩ := Moves.gains hmoves hf
  cases hr : (alloc_dma_heap size count heap alloc).2 with
  | error e =>
      rw [hr] at hheld
      exact ⟨hsound, hheld.trans (by simp [allocated])⟩
  | ok fds =>
      rw [hr] at hnodup hnew hheld
      simp only [allocated, dmaBufs_fst] at hnodup hnew hheld
      refine ⟨?_, hnodup, hnew, hsound, hheld⟩
      cases heap with
      | none => cases hr
      | some heap_fd => simpa using length_of_allocLoop hr

end Allocation

/-- `open` leaves the device with the object, or nothing. -/
theorem V4l2CaptureDma.openDevice_moves (width height pixel_format : UInt32)
    (ans : OpenAnswers) :
    FdMoves [] (calls (openDevice width height pixel_format ans).1)
      (match (openDevice width height pixel_format ans).2 with
        | .ok cap => cap.owned
        | .error _ => []) := by
  cases hfd : ans.fd with
  | none =>
      simp only [openDevice, V4l2Capture.openDevice, hfd]
      exact .quiets (by simp [calls, SysCall.fdOp, Call.fdOp])
  | some fd =>
      have hopen : Moves [] [.opens fd .device] [(fd, FdObject.device)] := .opens fd FdObject.device
      have hclose := FdMoves.closes_one fd FdObject.device
      cases hc : ans.querycap with
      | none =>
          simp only [openDevice, V4l2Capture.openDevice, hfd, hc]
          exact hopen.step hclose
      | some cap =>
          by_cases hb : (!cap.videoCapture || !cap.streaming) = true
          · simp only [openDevice, V4l2Capture.openDevice, hfd, hc, hb]
            exact hopen.step hclose
          · cases hs : ans.s_fmt with
            | none =>
                simp only [openDevice, V4l2Capture.openDevice, hfd, hc, hb, hs]
                exact hopen.step hclose
            | some pix =>
                simp only [openDevice, V4l2Capture.openDevice, hfd, hc, hb, hs]
                exact hopen

theorem calls_dropBuffers (bs : List V4l2BufInfo) :
    calls (dropBuffers bs) = closeFds (bs.map (·.dmabuf_fd)) := by
  simp [closeFds, dropBuffers, Function.comp_def]

/-- **The loop of `start`**: each QBUF names the descriptor of its index, and what is not
queued is closed. -/
theorem queueLoop_moves (size_image : ℕ) (ans : StartDmaAnswers) (i : ℕ) (fds : List Fd) :
    FdMoves (dmaBufs i fds) (calls (V4l2CaptureDma.queueLoop size_image ans i fds).2.1)
      (dmaBufs i ((V4l2CaptureDma.queueLoop size_image ans i fds).1.map (·.dmabuf_fd))) := by
  induction fds generalizing i with
  | nil => exact .nil _
  | cons fd fds ih =>
      have hqbuf : Moves (dmaBufs i (fd :: fds)) [.uses fd (.dmaBuf i)] (dmaBufs i (fd :: fds)) :=
        .uses List.mem_cons_self
      cases hb : ans.qbuf i with
      | false =>
          simp only [V4l2CaptureDma.queueLoop, hb]
          exact hqbuf.step (FdMoves.closes_dmaBufs i (fd :: fds))
      | true =>
          simp only [V4l2CaptureDma.queueLoop, hb]
          have hrest := (ih (i + 1)).frame_left [(fd, .dmaBuf i)]
          exact hqbuf.step hrest

namespace V4l2CaptureDma

variable (self : V4l2CaptureDma)

/-- **`start` takes over the descriptors it is given**: they are in the object afterwards,
or closed. -/
theorem start_moves (fds : List Fd) (ans : StartDmaAnswers) :
    FdMoves (self.owned ++ dmaBufs 0 fds) (calls (self.start fds ans).log)
      (self.start fds ans).obj.owned := by
  have hrefused : FdMoves (self.owned ++ dmaBufs 0 fds) (closeFds fds) self.owned := by
    have hframe := (FdMoves.closes_dmaBufs 0 fds).frame_left self.owned
    rwa [List.append_nil] at hframe
  have hold : FdMoves (self.owned ++ dmaBufs 0 fds) (calls (dropBuffers self.buffers))
      ((self.fd, .device) :: dmaBufs 0 fds) := by
    rw [calls_dropBuffers]
    have hframe := (FdMoves.closes_dmaBufs 0 (self.buffers.map (·.dmabuf_fd))).frame
      (dmaBufs 0 fds)
    exact hframe.frame_left [(self.fd, .device)]
  have hqueue := hold.append
    ((queueLoop_moves self.size_image.toNat ans 0 fds).frame_left [(self.fd, .device)])
  rw [← calls_append] at hqueue
  cases hr : ans.reqbufs with
  | none =>
      simp only [start, hr]
      exact hrefused
  | some granted =>
      by_cases hg : granted < 2
      · simp only [start, hr, hg, if_true]
        exact hrefused
      · cases hl : (queueLoop self.size_image.toNat ans 0 fds).2.2 with
        | false =>
            simp only [start, hr, hg, hl, if_false, Bool.false_eq_true]
            exact hqueue
        | true =>
            have hstreamon (ok : Bool) := hqueue.append (m := calls [.streamon ok]) (.nil _)
            simp only [← calls_append] at hstreamon
            cases hs : ans.streamon with
            | false =>
                simp only [start, hr, hg, hl, hs, if_true, if_false, Bool.false_eq_true]
                exact hstreamon false
            | true =>
                simp only [start, hr, hg, hl, hs, if_true, if_false]
                exact hstreamon true

/-- `dequeue` leaves every descriptor where it is. -/
theorem dequeue_owned (ans : DequeueAnswers) : (self.dequeue ans).obj.owned = self.owned := by
  have hfds := dequeueFrom_fds self.fd self.buffers ans
  rw [owned, owned]
  exact congrArg (fun fds => (self.fd, FdObject.device) :: dmaBufs 0 fds) hfds

theorem dequeue_moves (a : List (Fd × FdObject)) (ans : DequeueAnswers) :
    FdMoves a (calls (self.dequeue ans).log) a := by
  apply FdMoves.quiets
  change ∀ c ∈ calls (dequeueFrom self.fd self.buffers ans).2.1, c.fdOp = none
  unfold dequeueFrom
  split
  · simp [calls]
  · split
    · simp [calls]
    · simp [calls]
    · simp [calls, SysCall.fdOp, Call.fdOp]
    · split <;> simp [calls, SysCall.fdOp, Call.fdOp]

/-- A requeue names the descriptor of its index, and changes nothing. -/
theorem requeue_moves {index : ℕ} {qbuf : Bool}
    {out : Outcome V4l2CaptureDma (Except CaptureError Unit)}
    (h : self.requeue index qbuf = some out) :
    out.obj = self ∧ FdMoves self.owned (calls out.log) self.owned := by
  rw [requeue, Option.map_eq_some_iff] at h
  obtain ⟨b, hb, rfl⟩ := h
  have hfd : (self.buffers.map (·.dmabuf_fd))[index]? = some b.dmabuf_fd := by simp [hb]
  exact ⟨rfl, Moves.uses (List.mem_cons_of_mem _ (mem_dmaBufs hfd))⟩

/-- `drop` closes all that the object owns. -/
theorem drop_moves : FdMoves self.owned (calls self.drop) [] := by
  have hbuffers : FdMoves self.owned (calls (dropBuffers self.buffers)) [(self.fd, .device)] := by
    rw [calls_dropBuffers]
    exact (FdMoves.closes_dmaBufs 0 (self.buffers.map (·.dmabuf_fd))).frame_left
      [(self.fd, .device)]
  have hoff :
      FdMoves self.owned (calls (if self.streaming then [.streamoff] else [])) self.owned := by
    cases self.streaming with
    | false => exact .nil _
    | true => exact .nil _
  have hlast : FdMoves [(self.fd, .device)] (calls ([.releaseBufs] ++ [.close self.fd])) [] :=
    FdMoves.closes_one self.fd .device
  rw [drop, stop, List.append_assoc, calls_append, calls_append]
  exact (hoff.append hbuffers).append hlast

end V4l2CaptureDma

end DmabufPipeline
