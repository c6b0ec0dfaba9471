import DmabufPipeline.Lib.BufferQueue
import DmabufPipeline.Process.PublisherMmap

/-!
# The publishers keep to streaming I/O

What the three publishers ask of the capture device over a whole run, against the contract of
a streaming device: formats, buffers, queue and stream in their order, each index queued once
and in the way of its memory, and no index sent to the client that the device may be writing
to. The device is opened once and closed last, so only its queue is followed.

A driver that hands back what was queued never makes a publisher index outside `buffers`.
On DMABUF memory the publisher queues as many buffers as it has allocated, whatever REQBUFS
grants. The contract excuses those beyond; the driver refuses them, and the run still ends
with nothing queued.

STREAMOFF and the REQBUFS(0) of `stop`, whose answers the code ignores, are taken to succeed.

## Main definitions

* `Call.queueEvent`, `Streams` — the calls under the contract.
* `Looped` — what the loop of `start` leaves.
* `CaptureView`, `Dequeues` — what matters of a capture object, and what `dequeue` can be.
* `PublisherMmap.streams_in_order`, `PublisherDma.queues_in_order` — whole runs.
-/

namespace DmabufPipeline

open BufferQueue

/-! ## What the calls ask -/

/-- What a call of an object on `memory` asks of the device. The code looks at the answer of
neither STREAMOFF nor the REQBUFS(0) of `stop`; both are taken to succeed. -/
def Call.queueEvent (memory : Memory) : Call → Option Event
  | .s_fmt .. => some .s_fmt
  | .reqbufs count granted => some (.reqbufs memory count granted)
  | .querybuf index _ => some (.querybuf index)
  | .expbuf index _ => some (.expbuf index)
  | .qbuf index fd ok => some (.qbuf (if fd.isSome then .dmabuf else .mmap) index ok)
  | .dqbuf index => some (.dqbuf index)
  | .streamon ok => some (.streamon ok)
  | .streamoff => some .streamoff
  | .releaseBufs => some (.reqbufs memory 0 (some 0))
  | .openDevice _ | .querycap _ | .close _ => none

/-- What a call of a publisher asks; an index that is sent lends the buffer to the client. -/
def SysCall.queueEvent (memory : Memory) : SysCall → Option Event
  | .call c => c.queueEvent memory
  | .send_idx _ idx _ => some (.lend idx)
  | _ => none

/-- What a log asks. -/
def queueEvents (memory : Memory) (log : List SysCall) : List Event :=
  log.filterMap (SysCall.queueEvent memory)

/-- **The calls are in order**, and `Q` holds of the device behind them. -/
abbrev Streams (X : Queue → Event → Prop) (memory : Memory) (q : Queue) (log : List SysCall)
    (Q : Queue → Prop) : Prop := (streaming X).Obeys Q q (queueEvents memory log)

variable {X : Queue → Event → Prop}

@[simp] theorem queueEvents_append (memory : Memory) (l m : List SysCall) :
    queueEvents memory (l ++ m) = queueEvents memory l ++ queueEvents memory m :=
  List.filterMap_append

@[simp] theorem queueEvents_closeFds (memory : Memory) (fds : List Fd) :
    queueEvents memory (closeFds fds) = [] := by
  simp [queueEvents, closeFds, calls, SysCall.queueEvent, Call.queueEvent]

theorem queueEvents_dropBuffers (memory : Memory) (bs : List V4l2BufInfo) :
    queueEvents memory (calls (dropBuffers bs)) = [] := by
  rw [calls_dropBuffers, queueEvents_closeFds]

@[simp] theorem queueEvents_socketCalls (memory : Memory) (log : List (Ledger.Event Fd)) :
    queueEvents memory (PublisherDma.socketCalls log) = [] := by
  rw [queueEvents, List.filterMap_eq_nil_iff]
  intro c hc
  obtain ⟨e, -, rfl⟩ := List.mem_map.mp hc
  cases e with
  | acquire fd => rfl
  | release fd => rfl

namespace Streams

variable {memory : Memory} {q : Queue} {log rest : List SysCall} {P Q : Queue → Prop}

/-- One stretch of calls after another. -/
theorem append (h : Streams X memory q log P) (hrest : ∀ q', P q' → Streams X memory q' rest Q) :
    Streams X memory q (log ++ rest) Q := by
  rw [Streams, queueEvents_append]
  exact Contract.Obeys.append h hrest

/-- Calls that ask nothing. -/
theorem quiet (hlog : queueEvents memory log = []) (h : Streams X memory q rest Q) :
    Streams X memory q (log ++ rest) Q := by
  rw [Streams, queueEvents_append, hlog]
  exact h

/-- Calls that ask nothing, at the end. -/
theorem quiet_end (hlog : queueEvents memory log = []) (h : Streams X memory q rest Q) :
    Streams X memory q (rest ++ log) Q := by
  rw [Streams, queueEvents_append, hlog, List.append_nil]
  exact h

end Streams

/-! ## The capture objects -/

/-- What a device is when `n` buffers are in use and all are queued. -/
def Ready (memory : Memory) (n : ℕ) (q : Queue) : Prop :=
  0 < n ∧ ∃ count ≥ n, q = .full memory count n

/-- What the loop of `start` leaves: if it comes to its end, `n` buffers are queued, and the
device has as many. -/
structure Looped (memory : Memory) (granted n : ℕ) (ok : Bool) (q : Queue) : Prop where
  off : q.streaming = false
  filled : ok = true → n ≤ granted ∧ q = .filled memory granted n

/-- A loop that has failed. -/
theorem Looped.failed {memory : Memory} {granted n : ℕ} {q : Queue} (h : q.streaming = false) :
    Looped memory granted n false q := ⟨h, fun hok => absurd hok Bool.false_ne_true⟩

/-- The loop of `start` on MMAP memory queues each buffer once. -/
theorem exportLoop_streams (ans : StartAnswers) {count : ℕ} (i n : ℕ) (h : i + n = count) :
    Streams X .mmap (.filled .mmap count i) (calls (exportLoop ans i n).2.1)
      (Looped .mmap count count (exportLoop ans i n).2.2) := by
  induction n generalizing i with
  | zero => exact ⟨rfl, fun _ => ⟨le_rfl, by rw [← h, Nat.add_zero]⟩⟩
  | succ n ih =>
      have hi : i < count := by omega
      have hturn := exportTurn ans i n
      generalize exportLoop ans i (n + 1) = r at hturn ⊢
      cases hturn with
      | querybufFailed => exact ⟨.inl hi, fun _ => .failed rfl⟩
      | expbufFailed => exact ⟨.inl hi, fun _ => ⟨.inl ⟨rfl, hi⟩, fun _ => .failed rfl⟩⟩
      | qbufFailed b =>
          exact ⟨.inl hi, fun _ => ⟨.inl ⟨rfl, hi⟩, fun _ => obeys_fill hi (.failed rfl)⟩⟩
      | next b =>
          have hrest := ih (i + 1) (by omega)
          exact ⟨.inl hi, fun _ => ⟨.inl ⟨rfl, hi⟩, fun _ => obeys_fill hi hrest⟩⟩

/-- The loop of `start` on DMABUF memory queues each buffer once. Where the device has fewer,
it refuses the first one that it does not have, and the loop ends. -/
theorem queueLoop_streams (size_image : ℕ) (ans : StartDmaAnswers) {count n : ℕ} (i : ℕ)
    (fds : List Fd) (hi : i ≤ count) (hn : i + fds.length ≤ n) :
    Streams (Beyond n) .dmabuf (.filled .dmabuf count i)
      (calls (V4l2CaptureDma.queueLoop size_image ans i fds).2.1)
      (Looped .dmabuf count (i + fds.length)
        (V4l2CaptureDma.queueLoop size_image ans i fds).2.2) := by
  induction fds generalizing i with
  | nil => exact ⟨rfl, fun _ => ⟨hi, rfl⟩⟩
  | cons fd fds ih =>
      rw [List.length_cons] at hn
      have hask (ok : Bool) : (streaming (Beyond n)).asks (.filled .dmabuf count i)
          (.qbuf .dmabuf i ok) := by
        rcases hi.lt_or_eq with hlt | heq
        · exact .inl ⟨rfl, hlt, Finset.notMem_range_self⟩
        · exact .inr ⟨.dmabuf, i, ok, rfl, heq.ge, by omega⟩
      cases hb : ans.qbuf i with
      | false =>
          have hclose : queueEvents .dmabuf (closeFds (fd :: fds)) = [] := queueEvents_closeFds _ _
          have hend : Streams (Beyond n) .dmabuf (.filled .dmabuf count i) (closeFds (fd :: fds))
              (Looped .dmabuf count (i + (fd :: fds).length) false) := by
            rw [Streams, hclose]
            exact .failed rfl
          simp only [V4l2CaptureDma.queueLoop, hb, Bool.false_eq_true, if_false]
          exact ⟨hask false, fun _ => hend⟩
      | true =>
          -- Only a buffer that the device has can have been queued, so the loop goes on in order.
          have hrest (hlt : i < count) := ih (i + 1) hlt (by omega)
          simp only [Nat.add_right_comm i 1] at hrest
          simp only [V4l2CaptureDma.queueLoop, hb, if_true, List.length_cons]
          refine ⟨hask true, fun hlt => ?_⟩
          have hlt : i < count := hlt
          exact (obeys_fill hlt (hrest hlt)).2 hlt

/-- What matters of a capture object here. -/
structure CaptureView where
  /-- There is a device. -/
  opened : Bool
  /-- The length of `buffers`. -/
  entries : ℕ
  streaming : Bool
  /-- The device fits an `fd_set`. -/
  selectable : Bool

/-- The device stands as the object says. -/
structure CaptureView.Agrees (v : CaptureView) (q : Queue) : Prop where
  streaming : q.streaming = true → v.streaming = true

/-- How a scope behind `start` ends: with an object of the same view, which agrees with the
device, and regularly if the device fits an `fd_set`. -/
structure Ends (v v' : CaptureView) (regular : Prop) (q : Queue) : Prop where
  view : v' = v
  agrees : v.Agrees q
  regular : v.selectable = true → regular

/-- What `start` and all behind it leave. -/
structure Left (v : CaptureView) (selectable : Bool) (regular : Prop) (q : Queue) : Prop where
  opened : v.opened = true
  agrees : v.Agrees q
  regular : selectable = true → regular

/-- What a `start` that succeeds leaves. -/
structure CaptureView.Started (v : CaptureView) (memory : Memory) (q : Queue) : Prop where
  streaming : v.streaming = true
  ready : Ready memory v.entries q

/-- A device that has been started agrees with the object whatever is queued. -/
theorem CaptureView.Started.agrees {v : CaptureView} {memory : Memory} {q : Queue}
    (h : v.Started memory q) (q' : Queue) : v.Agrees q' := ⟨fun _ => h.streaming⟩

/-- **`start`**, whatever the loop: REQBUFS, the loop, and STREAMON if it comes to its end. -/
theorem startWith_streams {memory : Memory} {q : Queue} (hq : q.streaming = false)
    (bs : List V4l2BufInfo) {count granted n : ℕ} (hg : 2 ≤ granted) (hn : count ≠ 0 → 0 < n)
    {loop : List Call} {ok streamon : Bool}
    (hloop : Streams X memory (.filled memory granted 0) (calls loop)
      (Looped memory granted n ok)) {v : CaptureView}
    (hv : ok = true ∧ streamon = true → v.streaming = true ∧ v.entries = n) :
    Streams X memory q (calls ([.reqbufs count (some granted)] ++ dropBuffers bs ++ loop ++
      if ok then [.streamon streamon] else [])) fun q =>
        v.Agrees q ∧ (ok = true ∧ streamon = true → v.Started memory q) := by
  have hnext : (streaming X).next q (.reqbufs memory count (some granted)) =
      .filled memory granted 0 := by
    simp [streaming, Queue.next, Queue.filled, hq]
  have hoff {q' : Queue} (h : q'.streaming = false) : v.Agrees q' :=
    ⟨fun hs => absurd (h.symm.trans hs) Bool.false_ne_true⟩
  rw [calls_append, calls_append, calls_append, List.append_assoc, List.append_assoc]
  refine ⟨.inl hq, fun hans => ?_⟩
  -- The device grants nothing where nothing was asked for, and here it granted two.
  have hpos : 0 < n := by
    apply hn
    intro hzero
    have := hans hzero
    omega
  rw [hnext]
  change Streams X memory _ (calls (dropBuffers bs) ++ _) _
  apply Streams.quiet (queueEvents_dropBuffers memory bs)
  apply hloop.append
  intro q' h
  cases ok with
  | false => exact ⟨hoff h.off, by simp⟩
  | true =>
      obtain ⟨hle, rfl⟩ := h.filled rfl
      have hcount : 0 < granted := by omega
      refine ⟨.inl hcount, fun _ => ?_⟩
      cases streamon with
      | false => exact ⟨hoff rfl, by simp⟩
      | true =>
          obtain ⟨hstreaming, rfl⟩ := hv ⟨rfl, rfl⟩
          exact ⟨⟨fun _ => hstreaming⟩, fun _ => ⟨hstreaming, hpos, granted, hle, rfl⟩⟩

/-- REQBUFS on a device that does not stream. -/
theorem refused_streams (memory : Memory) {q : Queue} (hq : q.streaming = false) (count : ℕ)
    (granted : Option ℕ) {Q : Queue → Prop} (h : ∀ q', q'.streaming = false → Q q') :
    Streams X memory q (calls [.reqbufs count granted]) Q := by
  refine ⟨.inl hq, fun _ => ?_⟩
  cases granted with
  | none => exact h q hq
  | some n => exact h _ hq

/-- `open` asks for a format at most, which a device without buffers allows. -/
theorem formats_streams (memory : Memory) {log : List Call}
    (h : ∀ c ∈ log, c.queueEvent memory = none ∨ c.queueEvent memory = some .s_fmt) :
    Streams X memory {} (calls log) (· = {}) := by
  induction log with
  | nil => exact rfl
  | cons c log ih =>
      have hrest := ih fun c' hc' => h c' (List.mem_cons_of_mem c hc')
      rw [Streams, queueEvents, calls, List.map_cons, List.filterMap_cons]
      rcases h c List.mem_cons_self with hc | hc
      · rw [SysCall.queueEvent, hc]
        exact hrest
      · rw [SysCall.queueEvent, hc]
        exact ⟨.inl rfl, fun _ => hrest⟩

/-- What `dequeue` can be: its calls, and its result. -/
inductive Dequeues (v : CaptureView) : List Call → Dequeued → Prop
  | waiting (e : CaptureError) : Dequeues v [] (.failed e)
  | unselectable (h : v.selectable = false) : Dequeues v [] .unselectable
  | failed : Dequeues v [.dqbuf none] (.failed .os)
  | frame (i : ℕ) (h : i < v.entries) : Dequeues v [.dqbuf (some i)] (.frame i)
  | outside (i : ℕ) (h : v.entries ≤ i) : Dequeues v [.dqbuf (some i)] .outOfBounds

/-- **`dequeue` on a device that is ready**: what it returns is in use and has been taken
back, and an index outside `buffers` would be one that was never queued. -/
theorem Dequeues.streams {v : CaptureView} {log : List Call} {r : Dequeued} (h : Dequeues v log r)
    {memory : Memory} {q : Queue} (hq : Ready memory v.entries q) {rest : List SysCall}
    {Q : Queue → Prop}
    (hfailed : ∀ e, r = .failed e → Streams X memory q rest Q)
    (hout : v.selectable = false → r = .unselectable → Streams X memory q rest Q)
    (hframe : ∀ i count, r = .frame i → i < v.entries → v.entries ≤ count →
      Streams X memory (.lacking memory count v.entries i) rest Q) :
    Streams X memory q (calls log ++ rest) Q := by
  obtain ⟨hpos, count, hcount, rfl⟩ := hq
  cases h with
  | waiting e => exact hfailed e rfl
  | unselectable h => exact hout h rfl
  | failed => exact obeys_dequeue_none hpos (hfailed .os rfl)
  | frame i h => exact obeys_dequeue hpos fun _ => hframe i count rfl h hcount
  | outside i h => exact obeys_dequeue hpos fun hi => absurd hi (by omega)

/-- The body of `dequeue` that both Rust objects share. -/
theorem dequeueFrom_dequeues (fd : Fd) (buffers : List V4l2BufInfo) (streaming : Bool)
    (ans : DequeueAnswers) :
    Dequeues ⟨true, buffers.length, streaming, decide (fd < FD_SETSIZE)⟩
      (dequeueFrom fd buffers ans).2.1 (dequeueFrom fd buffers ans).2.2 := by
  rw [dequeueFrom]
  split
  · exact .unselectable (by simpa using ‹FD_SETSIZE ≤ fd›)
  · split
    · exact .waiting .os
    · exact .waiting .timedOut
    · exact .failed
    · split
      · exact .frame _ ‹_›
      · exact .outside _ (Nat.le_of_not_lt ‹_›)

/-- Entries are changed in place. -/
theorem length_dequeueFrom (fd : Fd) (buffers : List V4l2BufInfo) (ans : DequeueAnswers) :
    (dequeueFrom fd buffers ans).1.length = buffers.length := by
  have hfds := congrArg List.length (dequeueFrom_fds fd buffers ans)
  simpa using hfds

/-- `stop` and the `close` behind it: a device that streams is stopped, and its buffers freed. -/
theorem stop_streams {memory : Memory} {q : Queue} {off : Bool}
    (h : q.streaming = true → off = true) {closes : List Call}
    (hcloses : queueEvents memory (calls closes) = []) (fd : Fd) :
    Streams X memory q (calls ((if off then [.streamoff] else []) ++ closes ++ [.releaseBufs] ++
      [.close fd])) Queue.Idle := by
  have hevents : queueEvents memory (calls ((if off then [.streamoff] else []) ++ closes ++
      [.releaseBufs] ++ [.close fd])) =
        (if off then [.streamoff] else []) ++ [.reqbufs memory 0 (some 0)] := by
    rw [calls_append, calls_append, calls_append, queueEvents_append, queueEvents_append,
      queueEvents_append, hcloses, List.append_nil]
    cases off with
    | false => rfl
    | true => rfl
  rw [Streams, hevents]
  exact obeys_release memory h

namespace V4l2Capture

variable (self : V4l2Capture)

/-- What matters of the object. -/
def view : CaptureView where
  opened := true
  entries := self.buffers.length
  streaming := self.streaming
  selectable := decide (self.fd < FD_SETSIZE)

theorem dequeue_view (ans : DequeueAnswers) : (self.dequeue ans).obj.view = self.view :=
  congrArg (CaptureView.mk true · self.streaming (decide (self.fd < FD_SETSIZE)))
    (length_dequeueFrom self.fd self.buffers ans)

theorem dequeue_dequeues (ans : DequeueAnswers) :
    Dequeues self.view (self.dequeue ans).log (self.dequeue ans).result :=
  dequeueFrom_dequeues self.fd self.buffers self.streaming ans

theorem openDevice_streams (memory : Memory) (width height pixel_format : UInt32)
    (ans : OpenAnswers) :
    Streams X memory {} (calls (openDevice width height pixel_format ans).1) (· = {}) := by
  apply formats_streams
  unfold openDevice
  split
  · simp [Call.queueEvent]
  · split
    · simp [Call.queueEvent]
    · split
      · simp [Call.queueEvent]
      · split <;> simp [Call.queueEvent]

theorem openDevice_fd {width height pixel_format : UInt32} {ans : OpenAnswers} {cap : V4l2Capture}
    (h : (openDevice width height pixel_format ans).2 = .ok cap) : ans.fd = some cap.fd := by
  rw [openDevice] at h
  grind

theorem start_streams {q : Queue} (hq : q.streaming = false) (count : ℕ) (ans : StartAnswers) :
    Streams X .mmap q (calls (self.start count ans).log) fun q' =>
      (self.start count ans).obj.view.Agrees q' ∧
        ((self.start count ans).result = .ok () →
          (self.start count ans).obj.view.Started .mmap q') := by
  by_cases hc : ∀ n, ans.reqbufs = some n → n < 2
  · obtain ⟨hlog, hfail⟩ := self.start_refused count hc
    rw [hlog]
    exact refused_streams .mmap hq count ans.reqbufs fun q' h =>
      ⟨⟨by simp [h]⟩, fun hok => (hfail hok).elim⟩
  · push Not at hc
    obtain ⟨granted, hr, hg⟩ := hc
    obtain ⟨hlog, hobj, hok⟩ := self.start_granted count hr hg
    have hv : (exportLoop ans 0 granted).2.2 = true ∧ ans.streamon = true →
        (self.start count ans).obj.view.streaming = true ∧
          (self.start count ans).obj.view.entries = granted := by
      rintro ⟨hl, hon⟩
      rw [hobj]
      exact ⟨by simp [view, hl, hon], (exportLoop_ok ans 0 granted hl).1⟩
    rw [hlog]
    refine (startWith_streams hq self.buffers hg (fun _ => by omega)
      (exportLoop_streams ans 0 granted (Nat.zero_add granted)) hv).mono fun q' h => ?_
    exact ⟨h.1, fun hres => h.2 (hok.mp hres)⟩

theorem fd_start (count : ℕ) (ans : StartAnswers) : (self.start count ans).obj.fd = self.fd := by
  cases hr : ans.reqbufs with
  | none => simp only [start, hr]
  | some granted =>
      by_cases hg : granted < 2
      · simp only [start, hr, hg, if_true]
      · obtain ⟨-, hobj, -⟩ := self.start_granted count hr (by omega)
        rw [hobj]

theorem drop_streams {q : Queue} (h : self.view.Agrees q) :
    Streams X .mmap q (calls self.drop) Queue.Idle :=
  stop_streams h.streaming (queueEvents_dropBuffers .mmap self.buffers) self.fd

end V4l2Capture

namespace V4l2CaptureDma

variable (self : V4l2CaptureDma)

/-- What matters of the object. -/
def view : CaptureView where
  opened := true
  entries := self.buffers.length
  streaming := self.streaming
  selectable := decide (self.fd < FD_SETSIZE)

theorem dequeue_view (ans : DequeueAnswers) : (self.dequeue ans).obj.view = self.view :=
  congrArg (CaptureView.mk true · self.streaming (decide (self.fd < FD_SETSIZE)))
    (length_dequeueFrom self.fd self.buffers ans)

theorem dequeue_dequeues (ans : DequeueAnswers) :
    Dequeues self.view (self.dequeue ans).log (self.dequeue ans).result :=
  dequeueFrom_dequeues self.fd self.buffers self.streaming ans

/-- `start` queues the caller's buffers, and succeeds only if the device has as many. -/
theorem start_streams {n : ℕ} {q : Queue} (hq : q.streaming = false) {fds : List Fd}
    (hfds : fds.length < 2 ^ 32) (hn : fds.length ≤ n) (ans : StartDmaAnswers) :
    Streams (Beyond n) .dmabuf q (calls (self.start fds ans).log) fun q' =>
      (self.start fds ans).obj.view.Agrees q' ∧
        ((self.start fds ans).result = .ok () →
          (self.start fds ans).obj.view.Started .dmabuf q') := by
  by_cases hc : ∀ n, ans.reqbufs = some n → n < 2
  · obtain ⟨hlog, -, hfail⟩ := self.start_refused fds hc
    rw [hlog, ← List.singleton_append, calls_append]
    apply Streams.quiet_end (queueEvents_closeFds .dmabuf fds)
    exact refused_streams .dmabuf hq (fds.length % 2 ^ 32) ans.reqbufs fun q' h =>
      ⟨⟨by simp [h]⟩, fun hok => (hfail hok).elim⟩
  · push Not at hc
    obtain ⟨granted, hr, hg⟩ := hc
    obtain ⟨hlog, hobj, hok⟩ := self.start_granted fds hr hg
    have hloop := queueLoop_streams self.size_image.toNat ans 0 fds granted.zero_le
      ((Nat.zero_add _).trans_le hn)
    rw [Nat.zero_add] at hloop
    have hpos : fds.length % 2 ^ 32 ≠ 0 → 0 < fds.length := by
      rw [Nat.mod_eq_of_lt hfds]
      omega
    have hv : (queueLoop self.size_image.toNat ans 0 fds).2.2 = true ∧ ans.streamon = true →
        (self.start fds ans).obj.view.streaming = true ∧
          (self.start fds ans).obj.view.entries = fds.length := by
      rintro ⟨hl, hon⟩
      obtain ⟨hmap, -, -⟩ := queueLoop_ok self.size_image.toNat ans 0 fds hl
      have hlen := congrArg List.length hmap
      rw [List.length_map] at hlen
      rw [hobj]
      exact ⟨by simp [view, hl, hon], hlen⟩
    rw [hlog]
    refine (startWith_streams hq self.buffers hg hpos hloop hv).mono fun q' h => ?_
    exact ⟨h.1, fun hres => h.2 (hok.mp hres)⟩

theorem fd_start (fds : List Fd) (ans : StartDmaAnswers) :
    (self.start fds ans).obj.fd = self.fd := by
  cases hr : ans.reqbufs with
  | none => simp only [start, hr]
  | some granted =>
      by_cases hg : granted < 2
      · simp only [start, hr, hg, if_true]
      · obtain ⟨-, hobj, -⟩ := self.start_granted fds hr (by omega)
        rw [hobj]

theorem drop_streams {q : Queue} (h : self.view.Agrees q) :
    Streams X .dmabuf q (calls self.drop) Queue.Idle :=
  stop_streams h.streaming (queueEvents_dropBuffers .dmabuf self.buffers) self.fd

end V4l2CaptureDma

namespace Cpp.V4l2Capture

variable (self : Cpp.V4l2Capture)

/-- What matters of the object. -/
def view : CaptureView where
  opened := self.fd_.isSome
  entries := self.buffers_.length
  streaming := self.streaming_
  selectable := self.fd_.any (· < FD_SETSIZE)

theorem openDevice_streams (width height pixel_format : UInt32) (ans : OpenAnswers) :
    Streams X .mmap {} (calls (self.openDevice width height pixel_format ans).log) (· = {}) := by
  apply formats_streams
  unfold openDevice
  split
  · simp [Call.queueEvent]
  · simp only
    split
    · simp [Call.queueEvent]
    · split
      · simp [Call.queueEvent]
      · split <;> simp [Call.queueEvent]

theorem dequeue_view (ans : DequeueAnswers) : (self.dequeue ans).obj.view = self.view := by
  unfold dequeue
  split
  · rfl
  · split
    · rfl
    · split
      · rfl
      · rfl
      · rfl
      · split
        · simp [view]
        · rfl

theorem dequeue_dequeues (ans : DequeueAnswers) :
    Dequeues self.view (self.dequeue ans).log (self.dequeue ans).result := by
  unfold dequeue
  split
  · exact .unselectable (by simp [view, ‹self.fd_ = none›])
  · split
    · exact .unselectable (by simp [view, ‹self.fd_ = some _›, ‹FD_SETSIZE ≤ _›])
    · split
      · exact .waiting .os
      · exact .waiting .timedOut
      · exact .failed
      · split
        · exact .frame _ ‹_›
        · exact .outside _ (Nat.le_of_not_lt ‹_›)

/-- REQBUFS granted enough, on an object with a device. -/
theorem start_granted (hfd : self.fd_.isSome = true) (count : ℕ) {granted : ℕ} {ans : StartAnswers}
    (hr : ans.reqbufs = some granted) (hg : 2 ≤ granted) :
    (self.start count ans).log = [.reqbufs count (some granted)] ++ dropBuffers [] ++
        (exportLoop ans 0 granted).2.1 ++
        (if (exportLoop ans 0 granted).2.2 then [.streamon ans.streamon] else []) ∧
      (self.start count ans).obj.view.opened = true ∧
      (self.start count ans).obj.streaming_ =
        (self.streaming_ || ((exportLoop ans 0 granted).2.2 && ans.streamon)) ∧
      ((self.start count ans).result = true ↔
        (exportLoop ans 0 granted).2.2 = true ∧ ans.streamon = true) := by
  have hlt : ¬ granted < 2 := by omega
  cases hl : (exportLoop ans 0 granted).2.2 <;> cases hs : ans.streamon <;>
    simp [start, view, dropBuffers, hfd, hr, hlt, hl, hs]

theorem start_streams (hfd : self.fd_.isSome = true) {q : Queue} (hq : q.streaming = false)
    (count : ℕ) (ans : StartAnswers) :
    Streams X .mmap q (calls (self.start count ans).log) fun q' =>
      (self.start count ans).obj.view.Agrees q' ∧
        ((self.start count ans).result = true →
          (self.start count ans).obj.view.Started .mmap q') := by
  by_cases hc : self.Clears ans
  · obtain ⟨-, granted, hr, hg⟩ := hc
    obtain ⟨hlog, hopened, hobj, hok⟩ := self.start_granted hfd count hr hg
    have hv : (exportLoop ans 0 granted).2.2 = true ∧ ans.streamon = true →
        (self.start count ans).obj.view.streaming = true ∧
          (self.start count ans).obj.view.entries = granted := by
      rintro ⟨hl, hon⟩
      obtain ⟨n, hn, -, hlen, -⟩ := exportedFds_of_start self (hok.mpr ⟨hl, hon⟩)
      obtain rfl : granted = n := Option.some.inj (hr.symm.trans hn)
      exact ⟨by simp [view, hobj, hl, hon], hlen⟩
    rw [hlog]
    refine (startWith_streams hq [] hg (fun _ => by omega)
      (exportLoop_streams ans 0 granted (Nat.zero_add granted)) hv).mono fun q' h => ?_
    exact ⟨h.1, fun hres => h.2 (hok.mp hres)⟩
  · obtain ⟨-, r, hlog⟩ := start_of_not_clears count hc
    have hfail : (self.start count ans).result ≠ true := by
      intro hres
      obtain ⟨n, hn, hg, -⟩ := exportedFds_of_start self hres
      exact hc ⟨hfd, n, hn, hg⟩
    rw [hlog]
    exact refused_streams .mmap hq count r fun q' h =>
      ⟨⟨by simp [h]⟩, fun hok => (hfail hok).elim⟩

theorem fd_start (count : ℕ) (ans : StartAnswers) : (self.start count ans).obj.fd_ = self.fd_ := by
  by_cases hc : self.Clears ans
  · obtain ⟨-, -, -, -, hfd, -⟩ := start_of_clears count hc
    exact hfd
  · obtain ⟨hobj, -⟩ := start_of_not_clears count hc
    rw [hobj]

theorem destroy_streams {q : Queue} (hopened : self.view.opened = true) (h : self.view.Agrees q) :
    Streams X .mmap q (calls self.destroy) Queue.Idle := by
  have hsome : self.fd_.isSome = true := hopened
  obtain ⟨fd, hfd⟩ := Option.isSome_iff_exists.mp hsome
  have hlog : self.destroy = (if self.streaming_ then [.streamoff] else []) ++
      self.exportedFds.map .close ++ [.releaseBufs] ++ [.close fd] := by
    simp [destroy, stop, hfd]
  rw [hlog]
  exact stop_streams h.streaming (queueEvents_closeFds .mmap self.exportedFds) fd

end Cpp.V4l2Capture

/-! ## The MMAP publishers -/

namespace PublisherMmap

open PublisherDma (Turn socketCalls)

variable {κ σ : Type}

/-- A capture object that dequeues and queues as it should. -/
structure Device.Queueing (D : Device κ) where
  view : κ → CaptureView
  dequeues : ∀ cap ans, Dequeues (view cap) (D.dequeue cap ans).log (D.dequeue cap ans).result
  dequeue_view : ∀ cap ans, view (D.dequeue cap ans).obj = view cap
  requeue_log : ∀ cap idx ok,
    (D.requeue cap idx ok).log = [.qbuf idx none (D.requeue cap idx ok).result]
  requeue_view : ∀ cap idx ok, view (D.requeue cap idx ok).obj = view cap

/-- The Rust object. -/
def rustQueueing : rust.Queueing where
  view := V4l2Capture.view
  dequeues := V4l2Capture.dequeue_dequeues
  dequeue_view := V4l2Capture.dequeue_view
  requeue_log cap idx ok := by
    cases ok with
    | false => rfl
    | true => rfl
  requeue_view _ _ _ := rfl

/-- The C++ object. -/
def cppQueueing : cpp.Queueing where
  view := Cpp.V4l2Capture.view
  dequeues := Cpp.V4l2Capture.dequeue_dequeues
  dequeue_view := Cpp.V4l2Capture.dequeue_view
  requeue_log _ _ _ := rfl
  requeue_view _ _ _ := rfl

/-- An exit that is neither a panic nor undefined. -/
def Exit.Regular (e : Exit) : Prop := e = .ok ∨ e = .error

section Streams

variable {D : Device κ} (V : D.Queueing)

/-- **A scope streams in order.** -/
def Scope.Streams (cap : κ) (q : Queue) (s : Scope κ) : Prop :=
  DmabufPipeline.Streams nothing .mmap q s.log (Ends (V.view cap) (V.view s.cap) s.exit.Regular)

namespace Scope.Streams

variable {V} {cap cap' : κ} {q : Queue} {s : Scope κ}

/-- A scope that ends at once. -/
theorem stop {e : Exit} (h : (V.view cap).Started .mmap q) (he : e.Regular) :
    Streams V cap q ⟨cap, [], e⟩ := ⟨rfl, h.agrees q, fun _ => he⟩

/-- Calls that ask nothing. -/
theorem quiet {log : List SysCall} (hlog : queueEvents .mmap log = []) (hs : s.Streams V cap q) :
    (s.after log).Streams V cap q := DmabufPipeline.Streams.quiet hlog hs

/-- A local that owns a descriptor closes it. -/
theorem owning (hs : s.Streams V cap q) (fd : Fd) : (s.owning fd).Streams V cap q := by
  rw [Scope.owning, Scope.dropping]
  split
  · exact DmabufPipeline.Streams.quiet_end (queueEvents_closeFds .mmap [fd]) hs
  · exact hs

/-- A scope of an object of the same view. -/
theorem of_view (hv : V.view cap' = V.view cap) (hs : s.Streams V cap' q) : s.Streams V cap q :=
  hs.mono fun _ h => ⟨h.view.trans hv, hv ▸ h.agrees, hv ▸ h.regular⟩

end Scope.Streams

variable {V} {cap : κ} {q : Queue}

variable (client : Fd)

/-- The buffer goes back to the device, and the loop ends. -/
theorem requeueAndBreak_streams (V : D.Queueing) (cap : κ) {count idx : ℕ}
    (hon : (V.view cap).streaming = true)
    (hidx : idx < (V.view cap).entries) (hcount : (V.view cap).entries ≤ count) (qbuf : Bool) :
    (requeueAndBreak D cap idx qbuf).Streams V cap
      (.lacking .mmap count (V.view cap).entries idx) := by
  rw [requeueAndBreak, Scope.Streams, V.requeue_log]
  exact obeys_requeue hidx (by omega)
    ⟨V.requeue_view cap idx qbuf, ⟨fun _ => hon⟩, fun _ => .inl rfl⟩

/-- **The frame loop**: a turn takes one buffer back, lends it, and queues it again; the rest
by induction on the turns. -/
theorem frameLoop_streams (h : (V.view cap).Started .mmap q) (turns : List Turn) :
    (frameLoop D client cap turns).Streams V cap q := by
  induction turns generalizing cap q with
  | nil => exact .stop h (.inl rfl)
  | cons t ts ih =>
      have hview := V.dequeue_view cap t.dequeue
      have hdequeues := V.dequeues cap t.dequeue
      rw [frameLoop]
      simp only
      generalize D.dequeue cap t.dequeue = d at hview hdequeues ⊢
      refine hdequeues.streams h.ready (fun e he => ?_) (fun hsel he => ?_)
        fun idx count he hidx hcount => ?_
      · rw [he]
        exact ⟨hview, h.agrees q, fun _ => .inl rfl⟩
      · rw [he]
        exact ⟨hview, h.agrees q, fun hfit => absurd (hsel.symm.trans hfit) Bool.false_ne_true⟩
      · have hback := requeueAndBreak_streams V d.obj (hview ▸ h.streaming) (hview ▸ hidx)
          (hview ▸ hcount) t.requeue
        rw [hview] at hback
        have hbreak : (requeueAndBreak D d.obj idx t.requeue).Streams V cap
            (.lacking .mmap count (V.view cap).entries idx) := .of_view hview hback
        have hlast := V.requeue_log d.obj idx t.requeue
        have hnext := V.requeue_view d.obj idx t.requeue
        rw [he]
        refine obeys_lend (by omega) ?_
        cases t.send_idx with
        | false => exact hbreak
        | true =>
            cases t.wait_for_ack with
            | false => exact hbreak
            | true =>
                simp only [Bool.not_true, Bool.false_eq_true, if_false]
                generalize D.requeue d.obj idx t.requeue = r at hlast hnext ⊢
                rw [hlast]
                refine obeys_requeue hidx (by omega) ?_
                cases r.result with
                | false => exact ⟨hnext.trans hview, h.agrees _, fun _ => .inl rfl⟩
                | true =>
                    have hsame : V.view r.obj = V.view cap := hnext.trans hview
                    have hstarted : (V.view r.obj).Started .mmap
                        (.full .mmap count (V.view cap).entries) := by
                      rw [hsame]
                      exact ⟨h.streaming, h.ready.1, count, hcount, rfl⟩
                    have hrest : (frameLoop D client r.obj ts).Streams V cap
                        (.full .mmap count (V.view cap).entries) := .of_view hsame (ih hstarted)
                    exact hrest

variable (drm_fourcc : UInt32) (args : Args) (ans : Answers σ)

theorem serve_streams (h : (V.view cap).Started .mmap q) :
    (serve D cap drm_fourcc client ans).Streams V cap q := by
  rw [serve]
  apply Scope.Streams.quiet rfl
  cases ans.send_handshake with
  | false => exact .stop h (.inr rfl)
  | true => exact frameLoop_streams client h ans.turns

theorem acceptAndServe_streams (h : (V.view cap).Started .mmap q) :
    (acceptAndServe D cap drm_fourcc ans).Streams V cap q := by
  rw [acceptAndServe]
  apply Scope.Streams.quiet rfl
  cases ans.accept with
  | none => exact .stop h (.inr rfl)
  | some client => exact .owning (serve_streams client drm_fourcc ans h) client

theorem listenAndServe_streams (h : (V.view cap).Started .mmap q) :
    (listenAndServe D cap args ans).Streams V cap q := by
  rw [listenAndServe]
  cases D.drm_fourcc cap with
  | none => exact .stop h (.inr rfl)
  | some drm_fourcc =>
      simp only
      apply Scope.Streams.quiet (queueEvents_socketCalls .mmap _)
      cases (listening D.lang args.socket_path ans.listen ans.dir).result with
      | error e => exact .stop h (.inr rfl)
      | ok listen_fd => exact .owning (acceptAndServe_streams drm_fourcc ans h) listen_fd

end Streams

/-- A scope that is left regularly comes to its drops. -/
theorem Scope.dropping_streams {q : Queue} {s : Scope κ} {log : List SysCall} {P Q : Queue → Prop}
    (hs : DmabufPipeline.Streams nothing .mmap q s.log P) (hregular : ∀ q', P q' → s.exit.Regular)
    (hlog : ∀ q', P q' → DmabufPipeline.Streams nothing .mmap q' log Q) :
    DmabufPipeline.Streams nothing .mmap q (s.dropping log).log Q := by
  rw [dropping]
  split
  · exact hs.append hlog
  · refine Contract.Obeys.mono hs fun q' h => absurd ?_ ‹¬ s.exit.drops = true›
    rcases hregular q' h with he | he <;> rw [he] <;> rfl

variable (args : Args) (ans : Answers σ)

theorem startAndServe_streams (cap : V4l2Capture) :
    Streams nothing .mmap {} (startAndServe cap args ans).log
      (Left (startAndServe cap args ans).cap.view cap.view.selectable
        (startAndServe cap args ans).exit.Regular) := by
  have hstart := cap.start_streams (X := nothing) (q := {}) rfl 4 ans.start
  have hfd := cap.fd_start 4 ans.start
  rw [startAndServe]
  generalize cap.start 4 ans.start = d at hstart hfd ⊢
  have hsel : d.obj.view.selectable = cap.view.selectable := by rw [V4l2Capture.view, hfd]; rfl
  apply hstart.append
  rintro q ⟨hagrees, hstarted⟩
  cases hr : d.result with
  | error e => exact ⟨rfl, hagrees, fun _ => .inr rfl⟩
  | ok u =>
      have hscope := listenAndServe_streams (V := rustQueueing) args ans (hstarted hr)
      refine Contract.Obeys.mono hscope fun q' h => ⟨rfl, ?_, fun hs => h.regular (hsel.trans hs)⟩
      have hview : (listenAndServe rust d.obj args ans).cap.view = d.obj.view := h.view
      exact hview ▸ h.agrees

theorem Cpp.startAndServe_streams (cap : Cpp.V4l2Capture) (hfd : cap.fd_.isSome = true) :
    Streams nothing .mmap {} (Cpp.startAndServe cap args ans).log
      (Left (Cpp.startAndServe cap args ans).cap.view cap.view.selectable
        (Cpp.startAndServe cap args ans).exit.Regular) := by
  have hstart := cap.start_streams (X := nothing) hfd (q := {}) rfl 4 ans.start
  have hfd_ := cap.fd_start 4 ans.start
  rw [Cpp.startAndServe]
  generalize cap.start 4 ans.start = d at hstart hfd_ ⊢
  have hsel : d.obj.view.selectable = cap.view.selectable := by rw [Cpp.V4l2Capture.view, hfd_]; rfl
  have hopened : d.obj.view.opened = true := by rw [Cpp.V4l2Capture.view, hfd_]; exact hfd
  apply hstart.append
  rintro q ⟨hagrees, hstarted⟩
  cases hr : d.result with
  | false => exact ⟨hopened, hagrees, fun _ => .inr rfl⟩
  | true =>
      have hscope := listenAndServe_streams (V := cppQueueing) args ans (hstarted hr)
      refine Contract.Obeys.mono hscope fun q' h => ?_
      have hview : (listenAndServe cpp d.obj args ans).cap.view = d.obj.view := h.view
      exact ⟨hview ▸ hopened, hview ▸ h.agrees, fun hs => h.regular (hsel.trans hs)⟩

variable {args ans}

theorem main_streams (hfit : ∀ fd ∈ ans.device.fd, fd < FD_SETSIZE) :
    Streams nothing .mmap {} (main args ans).1 fun q => q.Idle ∧ (main args ans).2.Regular := by
  have hopen := V4l2Capture.openDevice_streams (X := nothing) .mmap args.width args.height
    args.pixel_fmt ans.device
  rw [main]
  cases hr : (V4l2Capture.openDevice args.width args.height args.pixel_fmt ans.device).2 with
  | error e => exact hopen.mono fun q hq => hq ▸ ⟨⟨rfl, rfl, rfl⟩, .inr rfl⟩
  | ok cap =>
      have hsel : cap.view.selectable = true :=
        decide_eq_true (hfit cap.fd (V4l2Capture.openDevice_fd hr))
      simp only
      apply hopen.append
      rintro q rfl
      apply Scope.dropping_streams (startAndServe_streams args ans cap) fun q h => h.regular hsel
      intro q h
      exact (V4l2Capture.drop_streams _ h.agrees).mono fun q' hidle => ⟨hidle, h.regular hsel⟩

theorem Cpp.main_streams (hfit : ∀ fd ∈ ans.device.fd, fd < FD_SETSIZE) :
    Streams nothing .mmap {} (Cpp.main args ans).1 fun q =>
      q.Idle ∧ (Cpp.main args ans).2.Regular := by
  have hopen := Cpp.V4l2Capture.openDevice_streams (X := nothing) {} args.width args.height
    args.pixel_fmt ans.device
  obtain ⟨-, -, -, hfd, hex, -⟩ := Cpp.V4l2Capture.openDevice_outcome {} args.width args.height
    args.pixel_fmt ans.device
  have hresult : ans.device.fd = none → (Cpp.V4l2Capture.openDevice {} args.width args.height
      args.pixel_fmt ans.device).result = false := by
    intro hnone
    simp [Cpp.V4l2Capture.openDevice, hnone]
  rw [Cpp.main]
  generalize Cpp.V4l2Capture.openDevice {} args.width args.height args.pixel_fmt ans.device = d
    at hopen hfd hex hresult ⊢
  simp only [Scope.dropping_after, Scope.cap_after, Scope.exit_after]
  apply hopen.append
  rintro q rfl
  cases hd : ans.device.fd with
  | none =>
      have hnothing : d.obj.destroy = [] := by
        rw [Cpp.V4l2Capture.destroy, Cpp.V4l2Capture.stop, hex, hfd, hd]
        simp [Cpp.V4l2Capture.exportedFds]
      rw [hresult hd, Bool.not_false, if_pos rfl, hnothing]
      exact ⟨⟨rfl, rfl, rfl⟩, .inr rfl⟩
  | some fd =>
      have hsome : d.obj.fd_.isSome = true := by rw [hfd, hd]; rfl
      have hsel : d.obj.view.selectable = true := by
        rw [Cpp.V4l2Capture.view, hfd, hd]
        exact decide_eq_true (hfit fd hd)
      cases d.result with
      | false =>
          have hagrees : d.obj.view.Agrees {} := ⟨fun h => absurd h Bool.false_ne_true⟩
          exact (d.obj.destroy_streams hsome hagrees).mono fun q hidle => ⟨hidle, .inr rfl⟩
      | true =>
          apply Scope.dropping_streams (Cpp.startAndServe_streams args ans d.obj hsome)
            fun q h => h.regular hsel
          intro q h
          exact (Cpp.V4l2Capture.destroy_streams _ h.opened h.agrees).mono
            fun q' hidle => ⟨hidle, h.regular hsel⟩

/-- **The MMAP publishers stream in order.** In every run, whatever the client and the rest of
the system do, and as long as the driver hands back what was queued: no call to the device is
out of order, each index sent is of a buffer in use that the device does not write to, the
program does not panic, index out of bounds or do anything undefined, and at the end nothing
streams and no buffer is left. STREAMOFF and REQBUFS(0) are taken to succeed, and the device
must fit an `fd_set`. -/
theorem streams_in_order (lang : Lang) (args : Args) (ans : Answers σ)
    (hfit : ∀ fd ∈ ans.device.fd, fd < FD_SETSIZE) :
    (∀ pre e, pre ++ [e] <+: queueEvents .mmap (run lang args ans).1 →
      (streaming nothing).Answered {} pre → ((streaming nothing).after {} pre).Asks e) ∧
    ((streaming nothing).Answered {} (queueEvents .mmap (run lang args ans).1) →
      ((streaming nothing).after {} (queueEvents .mmap (run lang args ans).1)).Idle ∧
        (run lang args ans).2.Regular) := by
  have h : Streams nothing .mmap {} (run lang args ans).1 fun q =>
      q.Idle ∧ (run lang args ans).2.Regular := by
    cases lang with
    | rust => exact main_streams hfit
    | cpp => exact Cpp.main_streams hfit
  exact ⟨fun pre e hpre hans => (h.asks_of_prefix hpre hans).resolve_right id, h.settled⟩

/-- The run with one frame ends as it should. -/
theorem streams_in_order_oneFrame :
    ((streaming nothing).after {} (queueEvents .mmap (run .cpp vga oneFrame).1)).Idle ∧
      ((streaming nothing).after {} ((queueEvents .mmap (run .cpp vga oneFrame).1).take 10)).Asks
        (.lend 1) ∧
      (run .cpp vga oneFrame).2.Regular :=
  have h := streams_in_order .cpp vga oneFrame (by decide)
  ⟨(h.2 (by decide)).1, h.1 _ _ (by decide) (by decide), (h.2 (by decide)).2⟩

end PublisherMmap

/-! ## The DMABUF publisher -/

namespace PublisherDma

variable {σ : Type}

/-- An exit that is not a panic. -/
def Exit.Regular (e : Exit) : Prop := e = .ok ∨ e = .error

/-- **A scope streams in order.** -/
def Scope.Streams (X : Queue → Event → Prop) (cap : V4l2CaptureDma) (q : Queue) (s : Scope) :
    Prop :=
  DmabufPipeline.Streams X .dmabuf q s.log (Ends cap.view s.cap.view s.exit.Regular)

namespace Scope.Streams

variable {X : Queue → Event → Prop} {cap cap' : V4l2CaptureDma} {q : Queue} {s : Scope}

/-- A scope that ends at once. -/
theorem stop {e : Exit} (h : cap.view.Started .dmabuf q) (he : e.Regular) :
    Streams X cap q ⟨cap, [], e⟩ := ⟨rfl, h.agrees q, fun _ => he⟩

/-- Calls that ask nothing. -/
theorem quiet {log : List SysCall} (hlog : queueEvents .dmabuf log = []) (hs : s.Streams X cap q) :
    (s.after log).Streams X cap q := DmabufPipeline.Streams.quiet hlog hs

/-- A local that owns a descriptor closes it. -/
theorem owning (hs : s.Streams X cap q) (fd : Fd) : (s.owning fd).Streams X cap q := by
  rw [Scope.owning, Scope.dropping]
  split
  · exact hs
  · exact DmabufPipeline.Streams.quiet_end (queueEvents_closeFds .dmabuf [fd]) hs

/-- A scope of an object of the same view. -/
theorem of_view (hv : cap'.view = cap.view) (hs : s.Streams X cap' q) : s.Streams X cap q :=
  hs.mono fun _ h => ⟨h.view.trans hv, hv ▸ h.agrees, hv ▸ h.regular⟩

end Scope.Streams

/-- A scope that is left regularly comes to its drops. -/
theorem Scope.dropping_streams {X : Queue → Event → Prop} {q : Queue} {s : Scope}
    {log : List SysCall} {P Q : Queue → Prop}
    (hs : DmabufPipeline.Streams X .dmabuf q s.log P) (hregular : ∀ q', P q' → s.exit.Regular)
    (hlog : ∀ q', P q' → DmabufPipeline.Streams X .dmabuf q' log Q) :
    DmabufPipeline.Streams X .dmabuf q (s.dropping log).log Q := by
  rw [dropping]
  split
  · refine Contract.Obeys.mono hs fun q' h => absurd ‹s.exit = .abort› ?_
    rcases hregular q' h with he | he <;> rw [he] <;> exact Exit.noConfusion
  · exact hs.append hlog

/-- A requeue of a buffer in use finds its entry. -/
theorem requeue_of_lt {cap : V4l2CaptureDma} {idx : ℕ} (h : idx < cap.view.entries) (qbuf : Bool) :
    ∃ fd, cap.requeue idx qbuf =
      some ⟨cap, [.qbuf idx (some fd) qbuf], if qbuf then .ok () else .error .os⟩ := by
  have hsome : cap.buffers[idx]? = some cap.buffers[idx] := List.getElem?_eq_getElem h
  exact ⟨_, by rw [V4l2CaptureDma.requeue, hsome]; rfl⟩

variable {X : Queue → Event → Prop} {cap : V4l2CaptureDma} {q : Queue} (client : Fd)

/-- **The frame loop**: a turn takes one buffer back, lends it, and queues it again; the rest
by induction on the turns. -/
theorem frameLoop_streams (h : cap.view.Started .dmabuf q) (turns : List Turn) :
    (frameLoop client cap turns).Streams X cap q := by
  induction turns generalizing cap q with
  | nil => exact .stop h (.inl rfl)
  | cons t ts ih =>
      have hview := cap.dequeue_view t.dequeue
      have hdequeues := cap.dequeue_dequeues t.dequeue
      rw [frameLoop]
      generalize cap.dequeue t.dequeue = d at hview hdequeues ⊢
      refine hdequeues.streams h.ready (fun e he => ?_) (fun hsel he => ?_)
        fun idx count he hidx hcount => ?_
      · rw [he]
        exact ⟨hview, h.agrees q, fun _ => .inl rfl⟩
      · rw [he]
        exact ⟨hview, h.agrees q, fun hfit => absurd (hsel.symm.trans hfit) Bool.false_ne_true⟩
      · obtain ⟨fd, hrequeue⟩ := requeue_of_lt (hview ▸ hidx) t.requeue
        have hbreak : (requeueAndBreak d.obj idx t.requeue).Streams X cap
            (.lacking .dmabuf count cap.view.entries idx) := by
          rw [requeueAndBreak, hrequeue]
          exact obeys_requeue hidx (by omega) ⟨hview, h.agrees _, fun _ => .inl rfl⟩
        rw [he]
        refine obeys_lend (by omega) ?_
        cases t.send_idx with
        | false => exact hbreak
        | true =>
            cases t.wait_for_ack with
            | false => exact hbreak
            | true =>
                simp only [hrequeue, Bool.not_true, Bool.false_eq_true, if_false]
                cases t.requeue with
                | false =>
                    exact obeys_requeue hidx (by omega) ⟨hview, h.agrees _, fun _ => .inl rfl⟩
                | true =>
                    have hstarted : d.obj.view.Started .dmabuf
                        (.full .dmabuf count cap.view.entries) := by
                      rw [hview]
                      exact ⟨h.streaming, h.ready.1, count, hcount, rfl⟩
                    have hrest : (frameLoop client d.obj ts).Streams X cap
                        (.full .dmabuf count cap.view.entries) := .of_view hview (ih hstarted)
                    exact obeys_requeue hidx (by omega) hrest

variable (drm_fourcc : UInt32) (args : Args) (ans : Answers σ)

theorem serve_streams (h : cap.view.Started .dmabuf q) :
    (serve cap drm_fourcc client ans).Streams X cap q := by
  rw [serve]
  apply Scope.Streams.quiet rfl
  cases ans.send_handshake with
  | false => exact .stop h (.inr rfl)
  | true => exact frameLoop_streams client h ans.turns

theorem acceptAndServe_streams (h : cap.view.Started .dmabuf q) :
    (acceptAndServe cap drm_fourcc ans).Streams X cap q := by
  rw [acceptAndServe]
  apply Scope.Streams.quiet rfl
  cases ans.accept with
  | none => exact .stop h (.inr rfl)
  | some client => exact .owning (serve_streams client drm_fourcc ans h) client

theorem listenAndServe_streams (h : cap.view.Started .dmabuf q) :
    (listenAndServe cap drm_fourcc args ans).Streams X cap q := by
  rw [listenAndServe]
  apply Scope.Streams.quiet (queueEvents_socketCalls .dmabuf _)
  cases (create_listening_socket args.socket_path ans.listen ans.dir).result with
  | error e => exact .stop h (.inr rfl)
  | ok listen_fd => exact .owning (acceptAndServe_streams drm_fourcc ans h) listen_fd

/-- The allocation asks nothing of the device. -/
theorem queueEvents_allocLoop (size : UInt64) (heap_fd : Fd) (alloc : ℕ → Option Fd) (fds : List Fd)
    (n : ℕ) : queueEvents .dmabuf (allocLoop size heap_fd alloc fds n).1 = [] := by
  induction n generalizing fds with
  | zero => exact queueEvents_closeFds .dmabuf [heap_fd]
  | succ n ih =>
      cases ha : alloc fds.length with
      | none =>
          have hclose : queueEvents .dmabuf (closeFds [heap_fd] ++ closeFds fds) = [] := by simp
          simp only [allocLoop, ha]
          exact hclose
      | some fd =>
          simp only [allocLoop, ha]
          exact ih (fds ++ [fd])

theorem queueEvents_alloc (size : UInt64) (count : UInt32) (heap : Option Fd)
    (alloc : ℕ → Option Fd) :
    queueEvents .dmabuf (alloc_dma_heap size count heap alloc).1 = [] := by
  cases heap with
  | none => rfl
  | some heap_fd => exact queueEvents_allocLoop size heap_fd alloc [] count.toNat

/-- From the choice of the DRM code on. -/
theorem captureAndServe_streams (cap : V4l2CaptureDma) :
    Streams (Beyond args.buf_count.toNat) .dmabuf {} (captureAndServe cap args ans).log
      (Left (captureAndServe cap args ans).cap.view cap.view.selectable
        (captureAndServe cap args ans).exit.Regular) := by
  have hagrees (v : CaptureView) : v.Agrees {} := ⟨fun h => absurd h Bool.false_ne_true⟩
  have halloc := queueEvents_alloc cap.size_image.toUInt64 args.buf_count ans.heap ans.alloc
  have hcount {fds : List Fd} (h : (alloc_dma_heap cap.size_image.toUInt64 args.buf_count ans.heap
      ans.alloc).2 = .ok fds) : fds.length = args.buf_count.toNat := by
    cases hh : ans.heap with
    | none => simp [hh, alloc_dma_heap] at h
    | some heap_fd =>
        rw [hh] at h
        simpa using length_of_allocLoop h
  rw [captureAndServe]
  cases v4l2_to_drm_fourcc cap.pixel_format with
  | none => exact ⟨rfl, hagrees _, fun _ => .inr rfl⟩
  | some drm_fourcc =>
      simp only
      apply Streams.quiet halloc
      generalize alloc_dma_heap cap.size_image.toUInt64 args.buf_count ans.heap ans.alloc = dma
        at hcount ⊢
      cases hd : dma.2 with
      | error e => exact ⟨rfl, hagrees _, fun _ => .inr rfl⟩
      | ok dma_fds =>
          have hlen := hcount hd
          have hstart := cap.start_streams (q := {}) rfl (hlen ▸ args.buf_count.toNat_lt) hlen.le
            ans.start
          have hfd := cap.fd_start dma_fds ans.start
          simp only
          generalize cap.start dma_fds ans.start = d at hstart hfd ⊢
          have hsel : d.obj.view.selectable = cap.view.selectable := by
            rw [V4l2CaptureDma.view, hfd]
            rfl
          apply hstart.append
          rintro q ⟨hobj, hstarted⟩
          cases hr : d.result with
          | error e => exact ⟨rfl, hobj, fun _ => .inr rfl⟩
          | ok u =>
              refine Contract.Obeys.mono (listenAndServe_streams drm_fourcc args ans (hstarted hr))
                fun q' h => ⟨rfl, ?_, fun hs => ?_⟩
              · exact h.view ▸ h.agrees
              · exact h.regular (hsel.trans hs)

/-- **The DMABUF publisher streams in order**, but for one thing. In every run, whatever the
client and the rest of the system do, and as long as the driver hands back what was queued and
queues only what it has: a call to the device is in order, or it queues a buffer that was
allocated and that REQBUFS did not grant; each index sent is of a buffer in use that the device
does not write to; the program does not panic; and at the end nothing streams and no buffer is
left. STREAMOFF and REQBUFS(0) are taken to succeed, and the device must fit an `fd_set`. -/
theorem queues_in_order (hfit : ∀ fd ∈ ans.device.fd, fd < FD_SETSIZE) :
    (∀ pre e, pre ++ [e] <+: queueEvents .dmabuf (main args ans).1 →
      (streaming (Beyond args.buf_count.toNat)).Answered {} pre →
        ((streaming (Beyond args.buf_count.toNat)).after {} pre).Asks e ∨
          Beyond args.buf_count.toNat ((streaming (Beyond args.buf_count.toNat)).after {} pre) e) ∧
    ((streaming (Beyond args.buf_count.toNat)).Answered {} (queueEvents .dmabuf (main args ans).1) →
      ((streaming (Beyond args.buf_count.toNat)).after {}
        (queueEvents .dmabuf (main args ans).1)).Idle ∧ (main args ans).2.Regular) := by
  have h : Streams (Beyond args.buf_count.toNat) .dmabuf {} (main args ans).1 fun q =>
      q.Idle ∧ (main args ans).2.Regular := by
    have hopen := V4l2Capture.openDevice_streams (X := Beyond args.buf_count.toNat) .dmabuf
      args.width args.height args.pixel_fmt ans.device
    rw [main, V4l2CaptureDma.openDevice]
    simp only
    cases hr : (V4l2Capture.openDevice args.width args.height args.pixel_fmt ans.device).2 with
    | error e => exact hopen.mono fun q hq => hq ▸ ⟨⟨rfl, rfl, rfl⟩, .inr rfl⟩
    | ok opened =>
        have hsel : decide (opened.fd < FD_SETSIZE) = true :=
          decide_eq_true (hfit opened.fd (V4l2Capture.openDevice_fd hr))
        simp only [Except.map]
        apply hopen.append
        rintro q rfl
        refine Scope.dropping_streams (captureAndServe_streams args ans _)
          (fun q h => h.regular hsel) fun q h => ?_
        exact (V4l2CaptureDma.drop_streams _ h.agrees).mono fun q' hidle => ⟨hidle, h.regular hsel⟩
  exact ⟨fun pre e hpre hans => h.asks_of_prefix hpre hans, h.settled⟩

/-- The run with one frame ends as it should; and where three buffers are allocated and two
granted, the third is refused, and the run ends. -/
theorem queues_in_order_refused :
    (((streaming (Beyond 2)).after {} (queueEvents .dmabuf (main twoBuffers oneFrame).1)).Idle ∧
      (main twoBuffers oneFrame).2.Regular) ∧
    ((streaming (Beyond 3)).after {} (queueEvents .dmabuf (main { twoBuffers with buf_count := 3 }
        { oneFrame with start := ⟨some 2, fun i => i < 2, true⟩ }).1)).Idle ∧
      (main { twoBuffers with buf_count := 3 }
        { oneFrame with start := ⟨some 2, fun i => i < 2, true⟩ }).2.Regular :=
  ⟨(queues_in_order twoBuffers oneFrame (by decide)).2 (by decide),
    (queues_in_order { twoBuffers with buf_count := 3 }
      { oneFrame with start := ⟨some 2, fun i => i < 2, true⟩ } (by decide)).2 (by decide)⟩

end PublisherDma

end DmabufPipeline
