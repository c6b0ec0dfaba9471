import DmabufPipeline.Capture.Descriptors
import DmabufPipeline.Capture.Start

/-!
# Does `start()` build a complete set of buffers?

On MMAP memory, always: the loop runs over the number of buffers that REQBUFS granted,
and that number is checked to be at least 2. On DMABUF memory the check looks at the
number granted and the loop runs over the descriptors that the caller brought, and nothing
compares the two. With fewer buffers granted than brought, QBUF is issued for an index
that does not exist; with less than two brought and more granted, `start` returns Ok on an
insufficient set.

## Main definitions

* `Starting` — a call of `start` on either back end, with the driver's answers.
* `Starting.Complete` — what a call of `start` should do.
* `Starting.Matched` — the numbers granted and brought do not clash.
* `start_complete_iff` — the two conditions are equivalent.
-/

namespace DmabufPipeline

/-! ## The two loops, failures included -/

/-- The loop of `start` on MMAP memory queues only the indices it runs over. -/
theorem index_lt_of_qbuf_mem_exportLoop {ans : StartAnswers} {i n k : ℕ} {fd : Option Fd}
    {ok : Bool} (h : .qbuf k fd ok ∈ (exportLoop ans i n).2.1) : k < i + n := by
  induction n generalizing i with
  | zero => simp [exportLoop] at h
  | succ n ih =>
      have hturn := exportTurn ans i n
      generalize exportLoop ans i (n + 1) = r at h hturn
      cases hturn with
      | querybufFailed | expbufFailed => simp at h
      | qbufFailed b =>
          obtain ⟨rfl, -⟩ : k = i ∧ fd = none ∧ ok = false := by simpa using h
          omega
      | next b =>
          rcases List.mem_append.mp h with h | h
          · obtain ⟨rfl, -⟩ : k = i ∧ fd = none ∧ ok = true := by simpa using h
            omega
          · have hlt := ih h
            omega

/-- The loop over the caller's descriptors succeeds exactly when every QBUF does. -/
theorem queueLoop_ok_iff {size_image : ℕ} {ans : StartDmaAnswers} {i : ℕ} {fds : List Fd} :
    (V4l2CaptureDma.queueLoop size_image ans i fds).2.2 = true ↔
      ∀ j < fds.length, ans.qbuf (i + j) = true := by
  induction fds generalizing i with
  | nil => simp [V4l2CaptureDma.queueLoop]
  | cons fd fds ih =>
      by_cases hq : ans.qbuf i = true
      · simp only [V4l2CaptureDma.queueLoop, hq, if_true, ih]
        constructor
        · intro h j hj
          cases j with
          | zero => exact hq
          | succ j =>
              have hnext := h j (by simpa using hj)
              rwa [Nat.add_right_comm] at hnext
        · intro h j hj
          have hnext := h (j + 1) (by simpa using hj)
          rwa [← Nat.add_assoc, Nat.add_right_comm] at hnext
      · simp only [V4l2CaptureDma.queueLoop, hq]
        constructor
        · intro h
          cases h
        · intro h
          exact absurd (h 0 (by simp)) hq

/-- **The loop over the caller's descriptors issues a QBUF for every index up to the first
failure**, whatever was granted. -/
theorem qbuf_mem_queueLoop_iff (size_image : ℕ) (ans : StartDmaAnswers) (i k : ℕ)
    (fds : List Fd) :
    (∃ fd ok, .qbuf k fd ok ∈ (V4l2CaptureDma.queueLoop size_image ans i fds).2.1) ↔
      i ≤ k ∧ k < i + fds.length ∧ ∀ j, i ≤ j → j < k → ans.qbuf j = true := by
  induction fds generalizing i with
  | nil =>
      simp only [V4l2CaptureDma.queueLoop, List.not_mem_nil, exists_false, false_iff]
      intro h
      have hlt := h.2.1
      simp at hlt
      omega
  | cons fd fds ih =>
      by_cases hq : ans.qbuf i = true
      · have hmem : (∃ fd' ok, .qbuf k fd' ok ∈
            (V4l2CaptureDma.queueLoop size_image ans i (fd :: fds)).2.1) ↔ k = i ∨
            ∃ fd' ok, .qbuf k fd' ok ∈
              (V4l2CaptureDma.queueLoop size_image ans (i + 1) fds).2.1 := by
          simp only [V4l2CaptureDma.queueLoop, hq, if_true, List.mem_cons, Call.qbuf.injEq]
          constructor
          · rintro ⟨fd', ok, ⟨hk, -⟩ | h⟩
            · exact .inl hk
            · exact .inr ⟨fd', ok, h⟩
          · rintro (hk | ⟨fd', ok, h⟩)
            · exact ⟨some fd, true, .inl ⟨hk, rfl, rfl⟩⟩
            · exact ⟨fd', ok, .inr h⟩
        rw [hmem, ih, List.length_cons]
        constructor
        · rintro (rfl | ⟨hle, hlt, hall⟩)
          · refine ⟨le_rfl, by omega, ?_⟩
            intro j hj hlt
            omega
          · refine ⟨by omega, by omega, ?_⟩
            intro j hj hjk
            by_cases hji : j = i
            · exact hji ▸ hq
            · exact hall j (by omega) hjk
        · rintro ⟨hle, hlt, hall⟩
          by_cases hki : k = i
          · exact .inl hki
          · refine .inr ⟨by omega, by omega, ?_⟩
            intro j hj hjk
            exact hall j (by omega) hjk
      · have hmem : (∃ fd' ok, .qbuf k fd' ok ∈
            (V4l2CaptureDma.queueLoop size_image ans i (fd :: fds)).2.1) ↔ k = i := by
          simp [V4l2CaptureDma.queueLoop, hq]
        rw [hmem, List.length_cons]
        constructor
        · intro heq
          subst heq
          refine ⟨le_rfl, by omega, ?_⟩
          intro j hj hlt
          omega
        · rintro ⟨hle, -, hall⟩
          by_contra hki
          exact hq (hall i le_rfl (by omega))

/-! ## One call of `start` -/

/-- REQBUFS failed or granted too little. -/
theorem V4l2Capture.start_refused (self : V4l2Capture) (count : ℕ) {ans : StartAnswers}
    (h : ∀ n, ans.reqbufs = some n → n < 2) :
    (self.start count ans).log = [.reqbufs count ans.reqbufs] ∧
      (self.start count ans).result ≠ .ok () := by
  cases hr : ans.reqbufs with
  | none => simp [start, hr]
  | some n => simp [start, hr, h n hr]

/-- REQBUFS granted enough: the loop runs over the buffers granted. -/
theorem V4l2Capture.start_granted (self : V4l2Capture) (count : ℕ) {n : ℕ} {ans : StartAnswers}
    (hr : ans.reqbufs = some n) (hn : 2 ≤ n) :
    (self.start count ans).log = [.reqbufs count (some n)] ++ dropBuffers self.buffers ++
        (exportLoop ans 0 n).2.1 ++
        (if (exportLoop ans 0 n).2.2 then [.streamon ans.streamon] else []) ∧
      (self.start count ans).obj = { self with
        buffers := (exportLoop ans 0 n).1
        streaming := self.streaming || ((exportLoop ans 0 n).2.2 && ans.streamon) } ∧
      ((self.start count ans).result = .ok () ↔
        (exportLoop ans 0 n).2.2 = true ∧ ans.streamon = true) := by
  have hlt : ¬ n < 2 := by omega
  cases hl : (exportLoop ans 0 n).2.2 <;> cases hs : ans.streamon <;>
    simp [start, hr, hlt, hl, hs]

/-- REQBUFS failed or granted too little: the descriptors are closed. -/
theorem V4l2CaptureDma.start_refused (self : V4l2CaptureDma) (fds : List Fd)
    {ans : StartDmaAnswers} (h : ∀ n, ans.reqbufs = some n → n < 2) :
    (self.start fds ans).log =
        .reqbufs (fds.length % 2 ^ 32) ans.reqbufs :: fds.map .close ∧
      (self.start fds ans).obj = self ∧ (self.start fds ans).result ≠ .ok () := by
  cases hr : ans.reqbufs with
  | none => simp [start, hr]
  | some n => simp [start, hr, h n hr]

/-- REQBUFS granted enough: the loop runs over the caller's descriptors. -/
theorem V4l2CaptureDma.start_granted (self : V4l2CaptureDma) (fds : List Fd) {n : ℕ}
    {ans : StartDmaAnswers} (hr : ans.reqbufs = some n) (hn : 2 ≤ n) :
    (self.start fds ans).log = [.reqbufs (fds.length % 2 ^ 32) (some n)] ++
        dropBuffers self.buffers ++ (queueLoop self.size_image.toNat ans 0 fds).2.1 ++
        (if (queueLoop self.size_image.toNat ans 0 fds).2.2 then [.streamon ans.streamon]
          else []) ∧
      (self.start fds ans).obj = { self with
        buffers := (queueLoop self.size_image.toNat ans 0 fds).1
        streaming := self.streaming ||
          ((queueLoop self.size_image.toNat ans 0 fds).2.2 && ans.streamon) } ∧
      ((self.start fds ans).result = .ok () ↔
        (queueLoop self.size_image.toNat ans 0 fds).2.2 = true ∧ ans.streamon = true) := by
  have hlt : ¬ n < 2 := by omega
  cases hl : (queueLoop self.size_image.toNat ans 0 fds).2.2 <;> cases hs : ans.streamon <;>
    simp [start, hr, hlt, hl, hs]

/-! ## What `start` should do -/

/-- A call of `start` on either back end. -/
inductive Starting
  | mmap (self : V4l2Capture) (count : ℕ) (ans : StartAnswers)
  | dma (self : V4l2CaptureDma) (fds : List Fd) (ans : StartDmaAnswers)

namespace Starting

/-- The result of the call. -/
def result : Starting → Except CaptureError Unit
  | mmap self count ans => (self.start count ans).result
  | dma self fds ans => (self.start fds ans).result

/-- The calls to the driver. -/
def log : Starting → List Call
  | mmap self count ans => (self.start count ans).log
  | dma self fds ans => (self.start fds ans).log

/-- `streaming` afterwards. -/
def streaming : Starting → Bool
  | mmap self count ans => (self.start count ans).obj.streaming
  | dma self fds ans => (self.start fds ans).obj.streaming

/-- `buffers` afterwards. -/
def buffers : Starting → List V4l2BufInfo
  | mmap self count ans => (self.start count ans).obj.buffers
  | dma self fds ans => (self.start fds ans).obj.buffers

/-- The number of buffers that REQBUFS granted. -/
def granted : Starting → Option ℕ
  | mmap _ _ ans => ans.reqbufs
  | dma _ _ ans => ans.reqbufs

/-- The QBUF that backs an index by the descriptor of an entry: on DMABUF memory it names
the descriptor. -/
def qbufOf : Starting → V4l2BufInfo → Call
  | mmap .., b => .qbuf b.index none true
  | dma .., b => .qbuf b.index (some b.dmabuf_fd) true

/-- On MMAP memory the memory of an index is behind the descriptor that EXPBUF of the
index returned. -/
def Exported : Starting → V4l2BufInfo → Prop
  | s@(mmap ..), b => .expbuf b.index (some b.dmabuf_fd) ∈ s.log
  | dma .., _ => True

/-- **A complete set of buffers**: the device streams, there are at least two entries, the
entry at each position has that index, and the QBUFs issued are one for each entry, all
successful, backed by the entry's descriptor. -/
structure CompleteSet (s : Starting) : Prop where
  streaming : s.streaming = true
  enough : 2 ≤ s.buffers.length
  index : ∀ (k : ℕ) (b : V4l2BufInfo), s.buffers[k]? = some b → b.index = k
  queued : qbufCalls s.log = s.buffers.map s.qbufOf
  exported : ∀ b ∈ s.buffers, s.Exported b

/-- **What a call of `start` should do**: leave a complete set if it returns Ok, and
never queue an index at or beyond the number granted. -/
structure Complete (s : Starting) : Prop where
  of_ok : s.result = .ok () → s.CompleteSet
  bounded : ∀ index fd ok, .qbuf index fd ok ∈ s.log → ∃ n, s.granted = some n ∧ index < n

/-- On DMABUF memory, the two numbers do not clash: no more descriptors were brought than
buffers granted, or a QBUF fails in time; and two descriptors were brought, or a QBUF or
STREAMON fails. -/
def Matched : Starting → Prop
  | mmap .. => True
  | dma _ fds ans => ∀ n, ans.reqbufs = some n → 2 ≤ n →
      (fds.length ≤ n ∨ ∃ i < n, ans.qbuf i = false) ∧
        (2 ≤ fds.length ∨ (∃ i < fds.length, ans.qbuf i = false) ∨ ans.streamon = false)

end Starting

/-! ## When it does -/

/-- **On MMAP memory `start` always does what it should.** -/
theorem V4l2Capture.complete (self : V4l2Capture) (count : ℕ) (ans : StartAnswers) :
    (Starting.mmap self count ans).Complete := by
  by_cases h : ∃ n, ans.reqbufs = some n ∧ 2 ≤ n
  · obtain ⟨n, hr, hn⟩ := h
    obtain ⟨hlog, hobj, hok⟩ := self.start_granted count hr hn
    refine ⟨?_, ?_⟩
    · intro hres
      obtain ⟨hlen, hentry, hqbufs⟩ := V4l2Capture.start_ok hres
      obtain ⟨hl, hs⟩ := hok.mp hres
      refine ⟨?_, hlen, fun k b hk => (hentry k b hk).1, hqbufs, ?_⟩
      · change (self.start count ans).obj.streaming = true
        rw [hobj]
        simp [hl, hs]
      · intro b hb
        change b ∈ (self.start count ans).obj.buffers at hb
        change .expbuf b.index (some b.dmabuf_fd) ∈ (self.start count ans).log
        rw [hobj] at hb
        rw [hlog]
        exact List.mem_append_left _ (List.mem_append_right _ (expbuf_mem_exportLoop hb))
    · intro index fd ok hmem
      refine ⟨n, hr, ?_⟩
      change .qbuf index fd ok ∈ (self.start count ans).log at hmem
      have hloop : .qbuf index fd ok ∈ (exportLoop ans 0 n).2.1 := by
        rw [hlog] at hmem
        cases hl : (exportLoop ans 0 n).2.2 <;> simpa [dropBuffers, hl] using hmem
      have hlt := index_lt_of_qbuf_mem_exportLoop hloop
      omega
  · have hlow : ∀ n, ans.reqbufs = some n → n < 2 := by
      intro n hr
      by_contra hn
      exact h ⟨n, hr, by omega⟩
    obtain ⟨hlog, hres⟩ := self.start_refused count hlow
    refine ⟨fun hok => absurd hok hres, ?_⟩
    intro index fd ok hmem
    change .qbuf index fd ok ∈ (self.start count ans).log at hmem
    rw [hlog] at hmem
    simp at hmem

/-- A `start` on DMABUF memory that was granted enough queues the indices of the
descriptors brought, up to the first failure. -/
theorem V4l2CaptureDma.qbuf_mem_start_iff (self : V4l2CaptureDma) (fds : List Fd)
    {ans : StartDmaAnswers} {n : ℕ} (hr : ans.reqbufs = some n) (hn : 2 ≤ n) (index : ℕ) :
    (∃ fd ok, .qbuf index fd ok ∈ (self.start fds ans).log) ↔
      index < fds.length ∧ ∀ j < index, ans.qbuf j = true := by
  obtain ⟨hlog, -, -⟩ := self.start_granted fds hr hn
  have hloop := qbuf_mem_queueLoop_iff self.size_image.toNat ans 0 index fds
  rw [zero_add, and_iff_right (Nat.zero_le _)] at hloop
  simp only [Nat.zero_le, forall_const] at hloop
  rw [← hloop, hlog]
  cases hl : (queueLoop self.size_image.toNat ans 0 fds).2.2 <;> simp [dropBuffers]

/-- It returns Ok when no QBUF fails, nor STREAMON. -/
theorem V4l2CaptureDma.start_result_iff (self : V4l2CaptureDma) (fds : List Fd)
    {ans : StartDmaAnswers} {n : ℕ} (hr : ans.reqbufs = some n) (hn : 2 ≤ n) :
    (self.start fds ans).result = .ok () ↔
      (∀ j < fds.length, ans.qbuf j = true) ∧ ans.streamon = true := by
  obtain ⟨-, -, hok⟩ := self.start_granted fds hr hn
  rw [hok, queueLoop_ok_iff]
  simp

/-- It leaves as many entries as descriptors were brought. -/
theorem V4l2CaptureDma.length_buffers_of_ok {self : V4l2CaptureDma} {fds : List Fd}
    {ans : StartDmaAnswers} (h : (self.start fds ans).result = .ok ()) :
    (self.start fds ans).obj.buffers.length = fds.length := by
  have hfds := (V4l2CaptureDma.start_ok h).1
  rw [← List.length_map (·.dmabuf_fd), hfds]

/-- A complete call is matched: otherwise the first index that was not granted is queued,
or Ok is returned on too few. -/
theorem V4l2CaptureDma.matched_of_complete {self : V4l2CaptureDma} {fds : List Fd}
    {ans : StartDmaAnswers} (hc : (Starting.dma self fds ans).Complete) :
    (Starting.dma self fds ans).Matched := by
  intro n hr hn
  refine ⟨?_, ?_⟩
  · by_contra hbad
    push Not at hbad
    obtain ⟨hlong, hall⟩ := hbad
    obtain ⟨fd, ok, hmem⟩ :=
      (self.qbuf_mem_start_iff fds hr hn n).mpr ⟨hlong, by simpa using hall⟩
    obtain ⟨n', hn', hlt⟩ := hc.bounded n fd ok hmem
    have hsame : n' = n := Option.some.inj (hn'.symm.trans hr)
    omega
  · by_contra hbad
    push Not at hbad
    obtain ⟨hshort, hall, hs⟩ := hbad
    have hres : (self.start fds ans).result = .ok () :=
      (self.start_result_iff fds hr hn).mpr ⟨by simpa using hall, by simpa using hs⟩
    have henough := (hc.of_ok hres).enough
    change 2 ≤ (self.start fds ans).obj.buffers.length at henough
    rw [V4l2CaptureDma.length_buffers_of_ok hres] at henough
    omega

/-- A call that was granted enough, and is matched, is complete. -/
theorem V4l2CaptureDma.complete_of_matched {self : V4l2CaptureDma} {fds : List Fd}
    {ans : StartDmaAnswers} {n : ℕ} (hr : ans.reqbufs = some n) (hn : 2 ≤ n)
    (hm : (Starting.dma self fds ans).Matched) : (Starting.dma self fds ans).Complete := by
  obtain ⟨hbound, henough⟩ := hm n hr hn
  refine ⟨?_, ?_⟩
  · intro hres
    obtain ⟨hall, hs⟩ := (self.start_result_iff fds hr hn).mp hres
    obtain ⟨-, hentry, hqbufs⟩ := V4l2CaptureDma.start_ok hres
    refine ⟨?_, ?_, hentry, hqbufs, fun _ _ => trivial⟩
    · obtain ⟨-, hobj, hok⟩ := self.start_granted fds hr hn
      obtain ⟨hl, -⟩ := hok.mp hres
      change (self.start fds ans).obj.streaming = true
      rw [hobj]
      simp [hl, hs]
    · change 2 ≤ (self.start fds ans).obj.buffers.length
      rw [V4l2CaptureDma.length_buffers_of_ok hres]
      rcases henough with hlen | ⟨i, hi, hfail⟩ | hfail
      · exact hlen
      · rw [hall i hi] at hfail
        cases hfail
      · rw [hs] at hfail
        cases hfail
  · intro index fd ok hmem
    obtain ⟨hlt, hall⟩ := (self.qbuf_mem_start_iff fds hr hn index).mp ⟨fd, ok, hmem⟩
    refine ⟨n, hr, ?_⟩
    rcases hbound with hle | ⟨i, hi, hfail⟩
    · omega
    · by_contra hge
      rw [hall i (by omega)] at hfail
      cases hfail

/-- A call that was not granted enough queues nothing and returns an error. -/
theorem V4l2CaptureDma.complete_of_refused (self : V4l2CaptureDma) (fds : List Fd)
    {ans : StartDmaAnswers} (hlow : ∀ n, ans.reqbufs = some n → n < 2) :
    (Starting.dma self fds ans).Complete := by
  obtain ⟨hlog, -, hres⟩ := self.start_refused fds hlow
  refine ⟨fun hok => absurd hok hres, ?_⟩
  intro index fd ok hmem
  change .qbuf index fd ok ∈ (self.start fds ans).log at hmem
  rw [hlog] at hmem
  simp at hmem

/-- **On DMABUF memory `start` does what it should exactly when the two numbers do not
clash.** -/
theorem V4l2CaptureDma.complete_iff_matched (self : V4l2CaptureDma) (fds : List Fd)
    (ans : StartDmaAnswers) :
    (Starting.dma self fds ans).Complete ↔ (Starting.dma self fds ans).Matched := by
  constructor
  · exact V4l2CaptureDma.matched_of_complete
  · intro hm
    by_cases h : ∃ n, ans.reqbufs = some n ∧ 2 ≤ n
    · obtain ⟨n, hr, hn⟩ := h
      exact V4l2CaptureDma.complete_of_matched hr hn hm
    · refine self.complete_of_refused fds ?_
      intro n hr
      by_contra hn
      exact h ⟨n, hr, by omega⟩

/-- **`start` leaves a complete set of buffers exactly when** the number of buffers granted
and the number of descriptors brought do not clash; on MMAP memory, always. -/
theorem start_complete_iff (s : Starting) : s.Complete ↔ s.Matched := by
  cases s with
  | mmap self count ans => exact iff_of_true (self.complete count ans) trivial
  | dma self fds ans => exact self.complete_iff_matched fds ans

/-- A driver that grants `n` DMABUF buffers and takes every QBUF. -/
def grants (n : ℕ) : StartDmaAnswers where
  reqbufs := some n
  qbuf := fun _ => true
  streamon := true

/-- An opened DMABUF capture. -/
def openedDma : V4l2CaptureDma :=
  { fd := 3, width := 640, height := 480, stride := 1280, size_image := 614400,
    pixel_format := 0x56595559 }

/-- **Three descriptors and two buffers granted**: index 2 is queued. **One descriptor and
two granted**: `start` returns Ok on one buffer. -/
theorem not_start_complete :
    ¬ (Starting.dma openedDma [4, 5, 6] (grants 2)).Complete ∧
      ¬ (Starting.dma openedDma [4] (grants 2)).Complete := by
  constructor
  · intro h
    obtain ⟨n, hn, hlt⟩ := h.bounded 2 (some 6) true (by decide)
    obtain rfl : 2 = n := Option.some.inj hn
    exact absurd hlt (by decide)
  · intro h
    exact absurd (h.of_ok rfl).enough (by decide)

end DmabufPipeline
