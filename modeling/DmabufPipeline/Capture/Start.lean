import DmabufPipeline.Capture.V4l2

/-!
# What a successful `start()` leaves behind

Both back ends queue buffer `k` at position `k`, in order and once each, and record in
position `k` of `buffers` the descriptor that belongs to index `k`: the one EXPBUF of
`k` returned on MMAP memory, the one named in QBUF of `k` on DMABUF memory.

## Main definitions

* `qbufCalls log` — the QBUFs of a log.
* `exportLoop_ok`, `queueLoop_ok` — the two loops.
* `V4l2Capture.start_ok`, `V4l2CaptureDma.start_ok` — the two `start` functions.
-/

namespace DmabufPipeline

/-- Whether a call is a QBUF. -/
def Call.isQbuf : Call → Bool
  | .qbuf .. => true
  | _ => false

/-- The QBUFs of a log, in order. -/
def qbufCalls (log : List Call) : List Call := log.filter Call.isQbuf

@[simp] theorem qbufCalls_append (l m : List Call) :
    qbufCalls (l ++ m) = qbufCalls l ++ qbufCalls m := List.filter_append ..

@[simp] theorem qbufCalls_dropBuffers (bs : List V4l2BufInfo) :
    qbufCalls (dropBuffers bs) = [] := by
  simp [qbufCalls, dropBuffers, Call.isQbuf]

/-- A loop that exports `n` buffers without a failure appends one entry for each index,
in order, with the descriptor that EXPBUF of that index returned. -/
theorem exportLoop_ok (ans : StartAnswers) (i n : ℕ) (h : (exportLoop ans i n).2.2 = true) :
    (exportLoop ans i n).1.length = n ∧
      (∀ (k : ℕ) (b : V4l2BufInfo), (exportLoop ans i n).1[k]? = some b →
        b.index = i + k ∧ ans.expbuf (i + k) = some b.dmabuf_fd) ∧
      qbufCalls (exportLoop ans i n).2.1 =
        (exportLoop ans i n).1.map fun b => .qbuf b.index none true := by
  induction n generalizing i with
  | zero => simp [exportLoop, qbufCalls]
  | succ n ih =>
      have hturn := exportTurn ans i n
      generalize exportLoop ans i (n + 1) = r at h hturn ⊢
      cases hturn with
      | querybufFailed | expbufFailed | qbufFailed => cases h
      | next b hindex hfd =>
          obtain ⟨hlen, hentry, hcalls⟩ := ih (i + 1) h
          refine ⟨by simp [hlen], ?_, ?_⟩
          · intro k b' hk
            cases k with
            | zero =>
                simp only [List.getElem?_cons_zero, Option.some.injEq] at hk
                subst hk
                exact ⟨hindex, hfd⟩
            | succ k =>
                have := hentry k b' (by simpa using hk)
                rwa [Nat.add_right_comm] at this
          · rw [qbufCalls_append, hcalls, List.map_cons, hindex]
            rfl

/-- The loop over the caller's descriptors, without a failure. -/
theorem queueLoop_ok (size_image : ℕ) (ans : StartDmaAnswers) (i : ℕ) (fds : List Fd)
    (h : (V4l2CaptureDma.queueLoop size_image ans i fds).2.2 = true) :
    (V4l2CaptureDma.queueLoop size_image ans i fds).1.map (·.dmabuf_fd) = fds ∧
      (∀ (k : ℕ) (b : V4l2BufInfo), (V4l2CaptureDma.queueLoop size_image ans i fds).1[k]? = some b →
        b.index = i + k) ∧
      qbufCalls (V4l2CaptureDma.queueLoop size_image ans i fds).2.1 =
        (V4l2CaptureDma.queueLoop size_image ans i fds).1.map
          fun b => .qbuf b.index (some b.dmabuf_fd) true := by
  induction fds generalizing i with
  | nil => simp [V4l2CaptureDma.queueLoop, qbufCalls]
  | cons fd fds ih =>
      cases hb : ans.qbuf i with
      | false => simp [V4l2CaptureDma.queueLoop, hb] at h
      | true =>
          simp only [V4l2CaptureDma.queueLoop, hb, if_true] at h ⊢
          obtain ⟨hfds, hentry, hcalls⟩ := ih (i + 1) h
          refine ⟨by simp [hfds], ?_, ?_⟩
          · intro k b hk
            cases k with
            | zero =>
                simp only [List.getElem?_cons_zero, Option.some.injEq] at hk
                subst hk
                rfl
            | succ k =>
                have := hentry k b (by simpa using hk)
                omega
          · simp only [List.map_cons, ← hcalls]
            rfl

/-- **What `V4l2Capture::start` leaves when it returns Ok**: at least two buffers, each
entry at the position of its index with the descriptor of its own EXPBUF, and exactly
one QBUF for each entry, in order. -/
theorem V4l2Capture.start_ok {self : V4l2Capture} {count : ℕ} {ans : StartAnswers}
    (h : (self.start count ans).result = .ok ()) :
    2 ≤ (self.start count ans).obj.buffers.length ∧
      (∀ (k : ℕ) (b : V4l2BufInfo), (self.start count ans).obj.buffers[k]? = some b →
        b.index = k ∧ ans.expbuf k = some b.dmabuf_fd) ∧
      qbufCalls (self.start count ans).log =
        (self.start count ans).obj.buffers.map fun b => .qbuf b.index none true := by
  cases hr : ans.reqbufs with
  | none => simp [start, hr] at h
  | some granted =>
      by_cases hg : granted < 2
      · simp [start, hr, hg] at h
      · cases hl : (exportLoop ans 0 granted).2.2 with
        | false => simp [start, hr, hg, hl] at h
        | true =>
            cases hs : ans.streamon with
            | false => simp [start, hr, hg, hl, hs] at h
            | true =>
                obtain ⟨hlen, hentry, hcalls⟩ := exportLoop_ok ans 0 granted hl
                simp only [start, hr, hg, hl, hs, if_true, if_false]
                refine ⟨by omega, ?_, ?_⟩
                · intro k b hk
                  simpa using hentry k b hk
                · rw [qbufCalls_append, qbufCalls_append, qbufCalls_append, hcalls]
                  simp [qbufCalls, Call.isQbuf, dropBuffers]

/-- **What `V4l2CaptureDma::start` leaves when it returns Ok**: the caller's descriptors
in their order, and exactly one QBUF for each entry, naming its descriptor. -/
theorem V4l2CaptureDma.start_ok {self : V4l2CaptureDma} {fds : List Fd} {ans : StartDmaAnswers}
    (h : (self.start fds ans).result = .ok ()) :
    (self.start fds ans).obj.buffers.map (·.dmabuf_fd) = fds ∧
      (∀ (k : ℕ) (b : V4l2BufInfo), (self.start fds ans).obj.buffers[k]? = some b → b.index = k) ∧
      qbufCalls (self.start fds ans).log =
        (self.start fds ans).obj.buffers.map
          fun b => .qbuf b.index (some b.dmabuf_fd) true := by
  cases hr : ans.reqbufs with
  | none => simp [start, hr] at h
  | some granted =>
      by_cases hg : granted < 2
      · simp [start, hr, hg] at h
      · cases hl : (queueLoop self.size_image.toNat ans 0 fds).2.2 with
        | false => simp [start, hr, hg, hl] at h
        | true =>
            cases hs : ans.streamon with
            | false => simp [start, hr, hg, hl, hs] at h
            | true =>
                obtain ⟨hfds, hentry, hcalls⟩ :=
                  queueLoop_ok self.size_image.toNat ans 0 fds hl
                simp only [start, hr, hg, hl, hs, if_true, if_false]
                refine ⟨hfds, ?_, ?_⟩
                · intro k b hk
                  simpa using hentry k b hk
                · rw [qbufCalls_append, qbufCalls_append, qbufCalls_append, hcalls]
                  simp [qbufCalls, Call.isQbuf, dropBuffers]

/-- `dequeue` changes no descriptor and no index of an entry, only `bytesused`. -/
theorem dequeueFrom_fds (fd : Fd) (buffers : List V4l2BufInfo) (ans : DequeueAnswers) :
    (dequeueFrom fd buffers ans).1.map (·.dmabuf_fd) = buffers.map (·.dmabuf_fd) := by
  have hmod : ∀ (i n : ℕ), (buffers.modify i fun b => { b with bytesused := n }).map
      (·.dmabuf_fd) = buffers.map (·.dmabuf_fd) := by
    intro i n
    apply List.ext_getElem
    · simp
    · intro k hk _
      simp only [List.getElem_map, List.getElem_modify]
      split <;> rfl
  unfold dequeueFrom
  split
  · rfl
  · split <;> try rfl
    split
    · exact hmod _ _
    · rfl

end DmabufPipeline
