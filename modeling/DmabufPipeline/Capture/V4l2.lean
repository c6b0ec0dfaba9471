import DmabufPipeline.Wire.Message

/-!
# The V4L2 capture objects

`V4l2Capture` and `V4l2CaptureDma` of `common/src/v4l2.rs`, and the C++ `V4l2Capture` of
`v4l2_utils.cpp`. Every function takes the answers of the driver as an argument and
returns the object it leaves behind, the system calls it made in order, and its result.
A statement about all answers is a statement about every driver. `xioctl` retries on
EINTR, so an answer is that of the last attempt.

A descriptor is the number the kernel returned. The Rust entries hold an `OwnedFd`,
which closes when the entry is dropped; the C++ entries hold a plain `int`, whose `-1`
is `none` here, and nothing closes it on overwriting.

## Main definitions

* `Call` — one system call with its answer.
* `exportLoop` — the QUERYBUF, EXPBUF, QBUF loop that both languages share.
* `ExportTurn`, `exportTurn` — what one turn of the loop can be.
* `V4l2Capture`, `V4l2CaptureDma` — the Rust objects and their methods.
* `Cpp.V4l2Capture` — the C++ object and its methods.
-/

namespace DmabufPipeline

/-- A file descriptor number. -/
abbrev Fd := ℕ

/-- A system call together with what it answered; `none` and `false` are failures. -/
inductive Call
  | openDevice (fd : Option Fd)
  | querycap (ok : Bool)
  | s_fmt (width height pixelformat : UInt32) (ok : Bool)
  | reqbufs (count : ℕ) (granted : Option ℕ)
  | querybuf (index : ℕ) (ok : Bool)
  | expbuf (index : ℕ) (fd : Option Fd)
  /-- `fd` is the descriptor in the request, which only DMABUF memory has. -/
  | qbuf (index : ℕ) (fd : Option Fd) (ok : Bool)
  | dqbuf (index : Option ℕ)
  | streamon (ok : Bool)
  | streamoff
  /-- The REQBUFS(0) of `stop`. -/
  | releaseBufs
  | close (fd : Fd)
  deriving DecidableEq, Repr

/-- Why a capture call failed. -/
inductive CaptureError
  | os
  | unsupported
  | tooFewBuffers (got : ℕ)
  | timedOut
  deriving DecidableEq, Repr

/-- The fields that S_FMT writes back. -/
structure PixFormat where
  width : UInt32
  height : UInt32
  bytesperline : UInt32
  sizeimage : UInt32
  pixelformat : UInt32
  deriving DecidableEq, Repr

/-- The capability bits that `open` tests. -/
structure Capabilities where
  videoCapture : Bool
  streaming : Bool
  deriving DecidableEq, Repr

/-- The answers to one `open`. -/
structure OpenAnswers where
  fd : Option Fd
  querycap : Option Capabilities
  s_fmt : Option PixFormat

/-- The answers to one `start` on MMAP memory; `querybuf` is the buffer's length. -/
structure StartAnswers where
  reqbufs : Option ℕ
  querybuf : ℕ → Option ℕ
  expbuf : ℕ → Option Fd
  qbuf : ℕ → Bool
  streamon : Bool

/-- The answers to one `start` on DMABUF memory. -/
structure StartDmaAnswers where
  reqbufs : Option ℕ
  qbuf : ℕ → Bool
  streamon : Bool

/-- The answer of `select`. -/
inductive Select
  | ready
  | timeout
  | failed
  deriving DecidableEq, Repr

/-- The answers to one `dequeue`: `select`, then index and `bytesused` of DQBUF. -/
structure DequeueAnswers where
  select : Select
  dqbuf : Option (ℕ × ℕ)

/-- How a `dequeue` ended. -/
inductive Dequeued
  | frame (index : ℕ)
  | failed (e : CaptureError)
  /-- An index outside `buffers`: a panic in Rust, which unwinds; undefined in C++. -/
  | outOfBounds
  /-- FD_SET of a descriptor that does not fit an `fd_set`. In Rust the index panics inside
  `libc::FD_SET`, an `extern "C"` function, which cannot unwind: the process is aborted. In
  C++ it is undefined. -/
  | unselectable
  deriving DecidableEq, Repr

/-- No index was out of bounds. -/
def Dequeued.inBounds : Dequeued → Bool
  | .frame _ | .failed _ => true
  | .outOfBounds | .unselectable => false

/-- Capacity of an `fd_set`. -/
def FD_SETSIZE : ℕ := 1024

/-- What a method leaves: the object, the calls it made, and its result. -/
structure Outcome (σ ρ : Type) where
  obj : σ
  log : List Call
  result : ρ

/-- An entry of `buffers` that owns its descriptor. -/
structure V4l2BufInfo where
  dmabuf_fd : Fd
  index : ℕ
  length : ℕ
  bytesused : ℕ := 0
  deriving DecidableEq, Repr

/-- Dropping a vector of entries closes their descriptors in order. -/
def dropBuffers (bs : List V4l2BufInfo) : List Call := bs.map fun b => .close b.dmabuf_fd

/-- **The loop of `start` on MMAP memory**, from index `i` for `n` more buffers: the
entries it appended, the calls, and whether every call succeeded. An entry is appended
before its QBUF, so it is there even when the QBUF fails. -/
def exportLoop (ans : StartAnswers) : ℕ → ℕ → List V4l2BufInfo × List Call × Bool
  | _, 0 => ([], [], true)
  | i, n + 1 =>
      match ans.querybuf i with
      | none => ([], [.querybuf i false], false)
      | some length =>
          match ans.expbuf i with
          | none => ([], [.querybuf i true, .expbuf i none], false)
          | some fd =>
              let b : V4l2BufInfo := { dmabuf_fd := fd, index := i, length := length }
              let calls := [.querybuf i true, .expbuf i (some fd), .qbuf i none (ans.qbuf i)]
              if ans.qbuf i then
                let (bs, log, ok) := exportLoop ans (i + 1) n
                (b :: bs, calls ++ log, ok)
              else ([b], calls, false)

/-- How a turn of the loop at index `i` comes out, with `n` more to go. -/
inductive ExportTurn (ans : StartAnswers) (i n : ℕ) : List V4l2BufInfo × List Call × Bool → Prop
  | querybufFailed : ExportTurn ans i n ([], [.querybuf i false], false)
  | expbufFailed : ExportTurn ans i n ([], [.querybuf i true, .expbuf i none], false)
  | qbufFailed (b : V4l2BufInfo) (hindex : b.index = i) (hfd : ans.expbuf i = some b.dmabuf_fd) :
      ExportTurn ans i n
        ([b], [.querybuf i true, .expbuf i (some b.dmabuf_fd), .qbuf i none false], false)
  | next (b : V4l2BufInfo) (hindex : b.index = i) (hfd : ans.expbuf i = some b.dmabuf_fd) :
      ExportTurn ans i n
        (b :: (exportLoop ans (i + 1) n).1,
          [.querybuf i true, .expbuf i (some b.dmabuf_fd), .qbuf i none true] ++
            (exportLoop ans (i + 1) n).2.1,
          (exportLoop ans (i + 1) n).2.2)

/-- The turns of the loop are those listed. -/
theorem exportTurn (ans : StartAnswers) (i n : ℕ) :
    ExportTurn ans i n (exportLoop ans i (n + 1)) := by
  cases hq : ans.querybuf i with
  | none =>
      simp only [exportLoop, hq]
      exact .querybufFailed
  | some length =>
      cases hx : ans.expbuf i with
      | none =>
          simp only [exportLoop, hq, hx]
          exact .expbufFailed
      | some fd =>
          cases hb : ans.qbuf i with
          | false =>
              simp only [exportLoop, hq, hx, hb, Bool.false_eq_true, if_false]
              exact .qbufFailed { dmabuf_fd := fd, index := i, length := length } rfl hx
          | true =>
              simp only [exportLoop, hq, hx, hb, if_true]
              exact .next { dmabuf_fd := fd, index := i, length := length } rfl hx

/-- **The body of `dequeue`**, which both Rust objects share: the entries afterwards,
the calls, and the result. -/
def dequeueFrom (fd : Fd) (buffers : List V4l2BufInfo) (ans : DequeueAnswers) :
    List V4l2BufInfo × List Call × Dequeued :=
  if FD_SETSIZE ≤ fd then (buffers, [], .unselectable)
  else
    match ans.select, ans.dqbuf with
    | .failed, _ => (buffers, [], .failed .os)
    | .timeout, _ => (buffers, [], .failed .timedOut)
    | .ready, none => (buffers, [.dqbuf none], .failed .os)
    | .ready, some (index, bytesused) =>
        if index < buffers.length then
          (buffers.modify index fun b => { b with bytesused := bytesused },
            [.dqbuf (some index)], .frame index)
        else (buffers, [.dqbuf (some index)], .outOfBounds)

/-! ## The Rust object on MMAP memory -/

/-- `V4l2Capture` of `common/src/v4l2.rs`. -/
structure V4l2Capture where
  fd : Fd
  width : UInt32
  height : UInt32
  stride : UInt32
  size_image : UInt32
  pixel_format : UInt32
  streaming : Bool := false
  buffers : List V4l2BufInfo := []
  deriving DecidableEq, Repr

namespace V4l2Capture

/-- `V4l2Capture::open`; every failure after the descriptor was obtained closes it. -/
def openDevice (width height pixel_format : UInt32) (ans : OpenAnswers) :
    List Call × Except CaptureError V4l2Capture :=
  match ans.fd with
  | none => ([.openDevice none], .error .os)
  | some fd =>
      match ans.querycap with
      | none => ([.openDevice (some fd), .querycap false, .close fd], .error .os)
      | some cap =>
          if !cap.videoCapture || !cap.streaming then
            ([.openDevice (some fd), .querycap true, .close fd], .error .unsupported)
          else
            match ans.s_fmt with
            | none =>
                ([.openDevice (some fd), .querycap true,
                  .s_fmt width height pixel_format false, .close fd], .error .os)
            | some pix =>
                ([.openDevice (some fd), .querycap true,
                  .s_fmt width height pixel_format true],
                  .ok { fd := fd, width := pix.width, height := pix.height,
                        stride := pix.bytesperline, size_image := pix.sizeimage,
                        pixel_format := pix.pixelformat })

/-- `V4l2Capture::start`. Assigning the new vector drops the old one. -/
def start (self : V4l2Capture) (count : ℕ) (ans : StartAnswers) :
    Outcome V4l2Capture (Except CaptureError Unit) :=
  match ans.reqbufs with
  | none => ⟨self, [.reqbufs count none], .error .os⟩
  | some granted =>
      if granted < 2 then
        ⟨self, [.reqbufs count (some granted)], .error (.tooFewBuffers granted)⟩
      else
        let (bs, log, ok) := exportLoop ans 0 granted
        let pre := [.reqbufs count (some granted)] ++ dropBuffers self.buffers ++ log
        if ok then
          if ans.streamon then
            ⟨{ self with buffers := bs, streaming := true }, pre ++ [.streamon true], .ok ()⟩
          else ⟨{ self with buffers := bs }, pre ++ [.streamon false], .error .os⟩
        else ⟨{ self with buffers := bs }, pre, .error .os⟩

/-- `V4l2Capture::dequeue`. -/
def dequeue (self : V4l2Capture) (ans : DequeueAnswers) : Outcome V4l2Capture Dequeued :=
  let (bs, log, r) := dequeueFrom self.fd self.buffers ans
  ⟨{ self with buffers := bs }, log, r⟩

/-- `V4l2Capture::requeue`. -/
def requeue (self : V4l2Capture) (index : ℕ) (qbuf : Bool) :
    Outcome V4l2Capture (Except CaptureError Unit) :=
  ⟨self, [.qbuf index none qbuf], if qbuf then .ok () else .error .os⟩

/-- `V4l2Capture::stop`, which only `drop` calls. -/
def stop (self : V4l2Capture) : V4l2Capture × List Call :=
  ({ self with streaming := false, buffers := [] },
    (if self.streaming then [.streamoff] else []) ++ dropBuffers self.buffers ++ [.releaseBufs])

/-- `Drop for V4l2Capture`. -/
def drop (self : V4l2Capture) : List Call := self.stop.2 ++ [.close self.fd]

end V4l2Capture

/-! ## The Rust object on DMABUF memory -/

/-- `V4l2CaptureDma` of `common/src/v4l2.rs`. -/
structure V4l2CaptureDma where
  fd : Fd
  width : UInt32
  height : UInt32
  stride : UInt32
  size_image : UInt32
  pixel_format : UInt32
  streaming : Bool := false
  buffers : List V4l2BufInfo := []
  deriving DecidableEq, Repr

namespace V4l2CaptureDma

/-- The loop of `start` over the caller's descriptors, from index `i`. A failed QBUF
drops the descriptor at hand and the rest of the iterator. -/
def queueLoop (size_image : ℕ) (ans : StartDmaAnswers) :
    ℕ → List Fd → List V4l2BufInfo × List Call × Bool
  | _, [] => ([], [], true)
  | i, fd :: fds =>
      if ans.qbuf i then
        let b : V4l2BufInfo := { dmabuf_fd := fd, index := i, length := size_image }
        let (bs, log, ok) := queueLoop size_image ans (i + 1) fds
        (b :: bs, .qbuf i (some fd) true :: log, ok)
      else ([], .qbuf i (some fd) false :: (fd :: fds).map .close, false)

/-- `V4l2CaptureDma::start`, which takes ownership of `fds`. The loop runs over the
descriptors, not over the number of buffers granted. -/
def start (self : V4l2CaptureDma) (fds : List Fd) (ans : StartDmaAnswers) :
    Outcome V4l2CaptureDma (Except CaptureError Unit) :=
  let count := fds.length % 2 ^ 32
  match ans.reqbufs with
  | none => ⟨self, .reqbufs count none :: fds.map .close, .error .os⟩
  | some granted =>
      if granted < 2 then
        ⟨self, .reqbufs count (some granted) :: fds.map .close, .error (.tooFewBuffers granted)⟩
      else
        let (bs, log, ok) := queueLoop self.size_image.toNat ans 0 fds
        let pre := [.reqbufs count (some granted)] ++ dropBuffers self.buffers ++ log
        if ok then
          if ans.streamon then
            ⟨{ self with buffers := bs, streaming := true }, pre ++ [.streamon true], .ok ()⟩
          else ⟨{ self with buffers := bs }, pre ++ [.streamon false], .error .os⟩
        else ⟨{ self with buffers := bs }, pre, .error .os⟩

/-- `V4l2CaptureDma::dequeue`. -/
def dequeue (self : V4l2CaptureDma) (ans : DequeueAnswers) : Outcome V4l2CaptureDma Dequeued :=
  let (bs, log, r) := dequeueFrom self.fd self.buffers ans
  ⟨{ self with buffers := bs }, log, r⟩

/-- `V4l2CaptureDma::requeue`: the QBUF names the entry's descriptor; `none` is the
panic of an index outside `buffers`. -/
def requeue (self : V4l2CaptureDma) (index : ℕ) (qbuf : Bool) :
    Option (Outcome V4l2CaptureDma (Except CaptureError Unit)) :=
  self.buffers[index]?.map fun b =>
    ⟨self, [.qbuf index (some b.dmabuf_fd) qbuf], if qbuf then .ok () else .error .os⟩

end V4l2CaptureDma

/-! ## The C++ object -/

namespace Cpp

/-- An entry of `buffers_`; `none` is the initial `-1`. -/
structure V4l2Buffer where
  dmabuf_fd : Option Fd := none
  index : ℕ := 0
  length : ℕ := 0
  bytesused : ℕ := 0
  deriving DecidableEq, Repr

/-- An entry that the loop of `start` has filled. -/
def V4l2Buffer.ofInfo (b : V4l2BufInfo) : V4l2Buffer :=
  { dmabuf_fd := some b.dmabuf_fd, index := b.index, length := b.length }

/-- `V4l2Capture` of `v4l2_utils.hpp`. -/
structure V4l2Capture where
  fd_ : Option Fd := none
  width_ : UInt32 := 0
  height_ : UInt32 := 0
  stride_ : UInt32 := 0
  size_image_ : UInt32 := 0
  pixel_format_ : UInt32 := 0
  streaming_ : Bool := false
  buffers_ : List V4l2Buffer := []
  deriving DecidableEq, Repr

namespace V4l2Capture

/-- `V4l2Capture::open`: the answer of `::open` is stored whatever `fd_` held, and a
later failure leaves it stored. -/
def openDevice (self : V4l2Capture) (width height pixel_format : UInt32)
    (ans : OpenAnswers) : Outcome V4l2Capture Bool :=
  match ans.fd with
  | none => ⟨{ self with fd_ := none }, [.openDevice none], false⟩
  | some fd =>
      let self := { self with fd_ := some fd }
      match ans.querycap with
      | none => ⟨self, [.openDevice (some fd), .querycap false], false⟩
      | some cap =>
          if !cap.videoCapture || !cap.streaming then
            ⟨self, [.openDevice (some fd), .querycap true], false⟩
          else
            match ans.s_fmt with
            | none =>
                ⟨self, [.openDevice (some fd), .querycap true,
                  .s_fmt width height pixel_format false], false⟩
            | some pix =>
                ⟨{ self with width_ := pix.width, height_ := pix.height,
                             stride_ := pix.bytesperline, size_image_ := pix.sizeimage,
                             pixel_format_ := pix.pixelformat },
                  [.openDevice (some fd), .querycap true,
                    .s_fmt width height pixel_format true], true⟩

/-- `V4l2Capture::start`. `buffers_.clear()` discards the old entries without closing
anything; `resize` makes default entries, which the loop fills from the front. An ioctl
on a descriptor of `-1` fails. -/
def start (self : V4l2Capture) (count : ℕ) (ans : StartAnswers) : Outcome V4l2Capture Bool :=
  match (if self.fd_.isSome then ans.reqbufs else none) with
  | none => ⟨self, [.reqbufs count none], false⟩
  | some granted =>
      if granted < 2 then ⟨self, [.reqbufs count (some granted)], false⟩
      else
        let (bs, log, ok) := exportLoop ans 0 granted
        let buffers_ := bs.map V4l2Buffer.ofInfo ++ List.replicate (granted - bs.length) {}
        let pre := [.reqbufs count (some granted)] ++ log
        if ok then
          if ans.streamon then
            ⟨{ self with buffers_ := buffers_, streaming_ := true }, pre ++ [.streamon true], true⟩
          else ⟨{ self with buffers_ := buffers_ }, pre ++ [.streamon false], false⟩
        else ⟨{ self with buffers_ := buffers_ }, pre, false⟩

/-- The descriptors that the entries hold. -/
def exportedFds (self : V4l2Capture) : List Fd := self.buffers_.filterMap (·.dmabuf_fd)

/-- `V4l2Capture::stop`. -/
def stop (self : V4l2Capture) : V4l2Capture × List Call :=
  ({ self with streaming_ := self.streaming_ && self.fd_.isNone, buffers_ := [] },
    (if self.streaming_ && self.fd_.isSome then [.streamoff] else []) ++
      self.exportedFds.map .close ++
      (if self.fd_.isSome then [.releaseBufs] else []))

/-- `V4l2Capture::dequeue`. -/
def dequeue (self : V4l2Capture) (ans : DequeueAnswers) : Outcome V4l2Capture Dequeued :=
  match self.fd_ with
  | none => ⟨self, [], .unselectable⟩
  | some fd =>
      if FD_SETSIZE ≤ fd then ⟨self, [], .unselectable⟩
      else
        match ans.select, ans.dqbuf with
        | .failed, _ => ⟨self, [], .failed .os⟩
        | .timeout, _ => ⟨self, [], .failed .timedOut⟩
        | .ready, none => ⟨self, [.dqbuf none], .failed .os⟩
        | .ready, some (index, bytesused) =>
            if index < self.buffers_.length then
              ⟨{ self with buffers_ := self.buffers_.modify index fun b =>
                  { b with bytesused := bytesused } }, [.dqbuf (some index)], .frame index⟩
            else ⟨self, [.dqbuf (some index)], .outOfBounds⟩

/-- `V4l2Capture::requeue`. -/
def requeue (self : V4l2Capture) (index : ℕ) (qbuf : Bool) : Outcome V4l2Capture Bool :=
  ⟨self, [.qbuf index none (qbuf && self.fd_.isSome)], qbuf && self.fd_.isSome⟩

/-- `V4l2Capture::~V4l2Capture`. -/
def destroy (self : V4l2Capture) : List Call :=
  self.stop.2 ++ self.stop.1.fd_.toList.map .close

end V4l2Capture
end Cpp
end DmabufPipeline
