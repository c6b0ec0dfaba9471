import DmabufPipeline.Capture.Start
import DmabufPipeline.Lib.Transition
import DmabufPipeline.Process.Publisher
import DmabufPipeline.Process.Subscriber
import DmabufPipeline.Wire.Receive
import Mathlib.Data.Finset.Basic
import Mathlib.Data.Finset.Lattice.Lemmas
import Mathlib.Data.Finset.Range
import Mathlib.Logic.Function.Basic

/-!
# The whole pipeline

The publisher, the subscriber, the V4L2 driver, the two directions of the socket and
the GPU, put together as one labelled step function. The two processes move by their
own step functions; this module says what each of their calls does to the rest, and
which answers the rest can give.

Every fallible call may fail whenever it is made. A call may succeed only where the
environment supports it: DQBUF returns a queued index, a receive returns what was sent
and not yet read, in order, and end of stream is seen only after the other end closed.
The driver may change a DMA-BUF's content only while its index is queued.

The model ends where the capture's destructor begins: STREAMOFF takes every buffer out
of the driver's queue.

## Main definitions

* `Session` — the capture object that `start()` left, and the kernel objects behind it.
* `Session.Started` — the sessions that a successful `start()` can leave.
* `State`, `State.init`, `step` — the pipeline.
-/

namespace DmabufPipeline

/-- A DMA-BUF of the kernel. -/
abbrev DmaBuf := ℕ

/-- The capture object of a publisher: `publisher` has one on MMAP memory,
`publisher_dma` one on DMABUF memory. -/
inductive Capture
  | mmap (cap : V4l2Capture)
  | dma (cap : V4l2CaptureDma)

namespace Capture

/-- `cap.buffers`. -/
def buffers : Capture → List V4l2BufInfo
  | .mmap cap => cap.buffers
  | .dma cap => cap.buffers

/-- The QBUF that `cap.requeue(index)` issues. -/
def requeueCalls (index : ℕ) (ok : Bool) : Capture → List Call
  | .mmap cap => (cap.requeue index ok).log
  | .dma cap => ((cap.requeue index ok).map (·.log)).getD []

end Capture

/-- A publisher whose `start()` has returned Ok. -/
structure Session where
  /-- The capture object; `dequeue` changes nothing in it that matters here. -/
  cap : Capture
  /-- The publisher's descriptor table: the DMA-BUF behind each descriptor. -/
  file : Fd → DmaBuf
  /-- The MMAP memory of each index, which EXPBUF exports. -/
  exported : ℕ → DmaBuf
  /-- The calls that `start()` made. -/
  log : List Call

/-- The index that a successful QBUF queues. -/
def Call.queuedIndex : Call → Option ℕ
  | .qbuf i _ true => some i
  | _ => none

/-- The descriptor that a successful QBUF of index `i` names. -/
def Call.namedFd (i : ℕ) : Call → Option Fd
  | .qbuf j fd true => if j = i then fd else none
  | _ => none

theorem Call.namedFd_eq_some {i : ℕ} {c : Call} {fd : Fd} :
    c.namedFd i = some fd ↔ c = .qbuf i (some fd) true := by
  cases c with
  | qbuf j fd' ok => cases ok <;> simp [namedFd]
  | _ => simp [namedFd]

/-- The descriptor named in the latest successful QBUF of an index. -/
def latestFd (calls : List Call) (i : ℕ) : Option Fd := calls.reverse.findSome? (Call.namedFd i)

/-- The indices that the QBUFs of a log have queued. -/
def queuedBy (calls : List Call) : Finset ℕ := (calls.filterMap Call.queuedIndex).toFinset

/-- A requeue that fails queues nothing. -/
@[simp] theorem Capture.queuedBy_requeueCalls_false (cap : Capture) (i : ℕ) :
    queuedBy (cap.requeueCalls i false) = ∅ := by
  cases cap with
  | mmap cap => rfl
  | dma cap =>
      rw [requeueCalls, V4l2CaptureDma.requeue]
      cases cap.buffers[i]? with
      | none => rfl
      | some b => rfl

/-- **A requeue queues the index it is called with**, if `buffers` has an entry for it. -/
theorem Capture.queuedBy_requeueCalls_true (cap : Capture) {i : ℕ} (h : i < cap.buffers.length) :
    queuedBy (cap.requeueCalls i true) = {i} := by
  cases cap with
  | mmap cap => rfl
  | dma cap =>
      have hb : cap.buffers[i]? = some cap.buffers[i] := List.getElem?_eq_getElem h
      rw [requeueCalls, V4l2CaptureDma.requeue, hb]
      rfl

namespace Session

/-- **The sessions that `start()` can leave.** On MMAP memory, EXPBUF of an index returns
a descriptor of that index's memory, and two indices have different memory. On DMABUF
memory, the caller's descriptors denote different DMA-BUFs, one heap allocation each. -/
inductive Started : Session → Prop
  | mmap {self : V4l2Capture} {count : ℕ} {ans : StartAnswers} {file : Fd → DmaBuf}
      {exported : ℕ → DmaBuf} (hok : (self.start count ans).result = .ok ())
      (hfile : ∀ i fd, ans.expbuf i = some fd → file fd = exported i)
      (hinj : Function.Injective exported) :
      Started ⟨.mmap (self.start count ans).obj, file, exported, (self.start count ans).log⟩
  | dma {self : V4l2CaptureDma} {fds : List Fd} {ans : StartDmaAnswers} {file : Fd → DmaBuf}
      {exported : ℕ → DmaBuf} (hok : (self.start fds ans).result = .ok ())
      (hnodup : (fds.map file).Nodup) :
      Started ⟨.dma (self.start fds ans).obj, file, exported, (self.start fds ans).log⟩

/-- The number of buffers, `cap.buffers.len()`. -/
def count (S : Session) : ℕ := S.cap.buffers.length

/-- What the descriptors `all_fds` of the handshake denote, position by position. -/
def shared (S : Session) : List DmaBuf := S.cap.buffers.map fun b => S.file b.dmabuf_fd

/-- The memory that the driver fills for index `i`, after the QBUFs in `calls`. -/
def memory (S : Session) (calls : List Call) (i : ℕ) : DmaBuf :=
  match S.cap with
  | .mmap _ => S.exported i
  | .dma _ => ((latestFd calls i).map S.file).getD (S.exported i)

/-- A camera of two MMAP buffers whose driver has answered every call. -/
def twoBuffers : Session :=
  let cap : V4l2Capture :=
    { fd := 3, width := 640, height := 480, stride := 1280, size_image := 614400,
      pixel_format := 0x56595559 }
  let ans : StartAnswers :=
    { reqbufs := some 2, querybuf := fun _ => some 614400, expbuf := fun i => some (10 + i),
      qbuf := fun _ => true, streamon := true }
  ⟨.mmap (cap.start 4 ans).obj, id, fun i => 10 + i, (cap.start 4 ans).log⟩

theorem twoBuffers_started : twoBuffers.Started :=
  .mmap rfl (fun _ _ h => (Option.some.inj h).symm) fun _ _ h => Nat.add_left_cancel h

@[simp] theorem length_shared (S : Session) : S.shared.length = S.count := by
  simp [shared, count]

end Session

/-- What travels towards the subscriber: the handshake with its descriptors, an index,
or the first `n` bytes of a message whose send was cut short. -/
inductive Packet
  | handshake (fds : List DmaBuf)
  | idx (i : ℕ)
  | torn (n : ℕ)
  deriving DecidableEq, Repr

/-- The bytes of a packet. -/
def Packet.size : Packet → ℕ
  | .handshake _ => handshakeSize
  | .idx _ => 4
  | .torn n => n

/-- A state of the pipeline, over contents of type `γ`. -/
structure State (γ : Type) where
  pub : Publisher := {}
  sub : Subscriber DmaBuf := {}
  /-- The subscriber's `connect` has succeeded at some time. -/
  connected : Bool := false
  /-- Sent to the subscriber and not yet read. -/
  toSub : List Packet := []
  /-- Acknowledgement bytes sent to the publisher and not yet read. -/
  toPub : ℕ := 0
  /-- The indices with the driver. -/
  queued : Finset ℕ
  /-- The QBUFs issued so far, by `start()` and by `requeue()`. -/
  qbufs : List Call
  content : DmaBuf → γ
  /-- The contents that successive successful `dequeue()` calls returned. -/
  produced : List γ := []
  /-- The contents that successive `draw` calls read. -/
  drawn : List γ := []
  /-- The indices of the GPU reads submitted and not yet completed. -/
  gpu : List ℕ := []

/-- The state in which `start()` has just returned Ok. -/
def State.init {γ : Type} (S : Session) (content : DmaBuf → γ) : State γ where
  queued := queuedBy (qbufCalls S.log)
  qbufs := qbufCalls S.log
  content := content

/-- A step of the publisher, a step of the subscriber, the driver writing frame data
into the buffer of a queued index, or the GPU completing a read. -/
inductive Act (γ : Type)
  | pub (a : Publisher.Act)
  | sub (a : Subscriber.Act DmaBuf)
  | fill (i : ℕ) (c : γ)
  | gpuDone (i : ℕ)
  deriving DecidableEq

section

variable {γ : Type}

/-- The publisher's end of the connection exists and is not closed; a connection that
was never accepted closes with the listening socket. -/
def State.pubOpen (s : State γ) : Bool := s.connected && !s.pub.pc.closed

/-- What a call of the publisher does to the rest of the pipeline; `none` where the
rest cannot give that answer. -/
def pubEffect (S : Session) (s : State γ) : Publisher.Act → Option (State γ)
  | .accept true => if s.connected then some s else none
  | .sendHandshake .ok =>
      if s.sub.sock then some { s with toSub := s.toSub ++ [.handshake S.shared] } else none
  | .sendHandshake (.short n) =>
      if s.sub.sock ∧ n < handshakeSize then
        some { s with toSub := s.toSub ++ [.torn n] } else none
  | .dequeue (some i) =>
      if i ∈ s.queued then
        some { s with
          queued := s.queued.erase i
          produced := s.produced ++ [s.content (S.memory s.qbufs i)] }
      else none
  | .sendIdx i .ok =>
      if s.sub.sock then some { s with toSub := s.toSub ++ [.idx i] } else none
  | .sendIdx _ (.short n) =>
      if s.sub.sock ∧ n < 4 then some { s with toSub := s.toSub ++ [.torn n] } else none
  | .waitForAck true => if 0 < s.toPub then some { s with toPub := s.toPub - 1 } else none
  | .requeue i ok =>
      some { s with
        queued := s.queued ∪ queuedBy (S.cap.requeueCalls i ok)
        qbufs := s.qbufs ++ S.cap.requeueCalls i ok }
  -- Closing a socket discards what its owner had not read.
  | .dropClient => some { s with toPub := 0 }
  | _ => some s

/-- What a call of the subscriber does to the rest of the pipeline. -/
def subEffect (s : State γ) : Subscriber.Act DmaBuf → Option (State γ)
  | .connect true =>
      if s.pub.pc = .accept ∧ s.connected = false then
        some { s with connected := true } else none
  | .recvHandshake (some fds) =>
      match s.toSub with
      | .handshake fds' :: rest =>
          if fds = fds' ∧ fds.length ≤ kMaxFds then some { s with toSub := rest } else none
      | _ => none
  | .recvIdx (.idx i) =>
      match s.toSub with
      | .idx j :: rest => if i = j then some { s with toSub := rest } else none
      | _ => none
  | .recvIdx .peerClosed => if s.toSub = [] ∧ s.pubOpen = false then some s else none
  | .draw i =>
      s.sub.buf_fds[i]?.map fun d =>
        { s with drawn := s.drawn ++ [s.content d], gpu := s.gpu ++ [i] }
  | .sendAck true => if s.pubOpen then some { s with toPub := s.toPub + 1 } else none
  | .dropSock => some { s with toSub := [] }
  | _ => some s

/-- **One step of the pipeline.** -/
def step (S : Session) (s : State γ) : Act γ → Option (State γ)
  | .pub a =>
      (s.pub.step a).bind fun p => (pubEffect S s a).map fun e => { e with pub := p }
  | .sub a =>
      (s.sub.step a).bind fun u => (subEffect s a).map fun e => { e with sub := u }
  | .fill i c =>
      if i ∈ s.queued then
        some { s with content := Function.update s.content (S.memory s.qbufs i) c }
      else none
  | .gpuDone i => if i ∈ s.gpu then some { s with gpu := s.gpu.erase i } else none

/-- A publisher step is a step of the process together with its effect. -/
theorem step_pub {S : Session} {s s' : State γ} {a : Publisher.Act} :
    step S s (.pub a) = some s' ↔
      ∃ p e, s.pub.step a = some p ∧ pubEffect S s a = some e ∧ { e with pub := p } = s' := by
  simp [step, Option.bind_eq_some_iff]

/-- A subscriber step is a step of the process together with its effect. -/
theorem step_sub {S : Session} {s s' : State γ} {a : Subscriber.Act DmaBuf} :
    step S s (.sub a) = some s' ↔
      ∃ u e, s.sub.step a = some u ∧ subEffect s a = some e ∧ { e with sub := u } = s' := by
  simp [step, Option.bind_eq_some_iff]

end

/-- From `start()` to the subscriber's image of the first frame, which is in buffer 0. -/
def firstImage : List (Act ℕ) :=
  [.pub (.prepare true), .sub (.connect true), .pub (.accept true), .pub (.sendHandshake .ok),
    .sub (.recvHandshake (some [10, 11])), .sub (.setup true), .pub .loopTest,
    .pub (.dequeue (some 0)), .pub (.sendIdx 0 .ok), .sub .loopTest, .sub (.recvIdx (.idx 0)),
    .sub (.importDmabuf 0 .image)]

/-- From the image to the acknowledgement. -/
def drawAndAck : List (Act ℕ) :=
  [.sub (.draw 0), .sub .swapBuffers, .sub .destroyImage, .sub (.sendAck true)]

end DmabufPipeline
