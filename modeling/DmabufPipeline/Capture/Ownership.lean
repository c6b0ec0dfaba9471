import DmabufPipeline.Capture.Descriptors
import DmabufPipeline.Capture.Start

/-!
# Who owns the capture's descriptors

The MMAP capture objects of both languages under any use: any sequence of their public
methods, with any answer of the driver, ended by destruction.

A Rust entry closes its descriptor when it is dropped, and `open` makes a new object, so
the fields always say what is open. The C++ object overwrites `fd_` in `open` and clears
`buffers_` in `start` without closing anything.

## Main definitions

* `V4l2Capture.cls`, `Cpp.V4l2Capture.cls` — the two classes.
* `Cpp.V4l2Capture.Disciplined` — the calls that lose no descriptor.
* `captures_own` — the Rust object owns its descriptors, the C++ object does so iff it
  is used in this way.
-/

namespace DmabufPipeline

open Transition

/-! ## The Rust object -/

namespace V4l2Capture

/-- A public method, with the driver's answers. -/
inductive Op
  | start (count : ℕ) (ans : StartAnswers)
  | dequeue (ans : DequeueAnswers)
  | requeue (index : ℕ) (qbuf : Bool)

/-- The Rust class. -/
def cls : CaptureClass V4l2Capture Op where
  call self
    | .start count ans => ⟨(self.start count ans).obj, (self.start count ans).log, none⟩
    | .dequeue ans =>
        ⟨(self.dequeue ans).obj, (self.dequeue ans).log,
          match (self.dequeue ans).result with
          | .outOfBounds => some .panic
          | .unselectable => some .abort
          | _ => none⟩
    | .requeue index qbuf =>
        ⟨(self.requeue index qbuf).obj, (self.requeue index qbuf).log, none⟩
  destroy self := self.drop
  exportedFds self := self.buffers.map (·.dmabuf_fd)

/-- The fields agree with the log. -/
abbrev Agrees (self : V4l2Capture) (log : List Call) : Prop :=
  Holds (some self.fd) (cls.exportedFds self) self.streaming log

variable {self : V4l2Capture} {log : List Call}

/-- `start` closes the old entries before it exports the new ones. -/
theorem Agrees.start (h : self.Agrees log) {count : ℕ} {ans : StartAnswers}
    (hf : FreshAfter log (self.start count ans).log) :
    (self.start count ans).obj.Agrees (log ++ (self.start count ans).log) := by
  cases hr : ans.reqbufs with
  | none => simpa [V4l2Capture.start, hr] using h.quiet (c := .reqbufs count none) rfl
  | some granted =>
      have hreq : Holds (some self.fd) (cls.exportedFds self) self.streaming
          (log ++ [.reqbufs count (some granted)]) := h.quiet rfl
      by_cases hg : granted < 2
      · simpa [V4l2Capture.start, hr, hg] using hreq
      · have hdrop : Holds (some self.fd) [] self.streaming
            (log ++ [.reqbufs count (some granted)] ++ dropBuffers self.buffers) := by
          simpa [dropBuffers, cls, Function.comp_def] using hreq.closed_exports
        have hloop (hf : FreshAfter log ([.reqbufs count (some granted)] ++
              dropBuffers self.buffers ++ (exportLoop ans 0 granted).2.1)) :
            Holds (some self.fd) ((exportLoop ans 0 granted).1.map (·.dmabuf_fd)) self.streaming
              (log ++ ([.reqbufs count (some granted)] ++ dropBuffers self.buffers ++
                (exportLoop ans 0 granted).2.1)) := by
          have hfresh := (freshAfter_append.mp hf).2
          rw [← List.append_assoc] at hfresh
          rw [← List.append_assoc, ← List.append_assoc]
          exact hdrop.exports ans hfresh
        cases hl : (exportLoop ans 0 granted).2.2 with
        | false =>
            simp only [V4l2Capture.start, hr, hg, hl, if_false, Bool.false_eq_true] at hf ⊢
            exact hloop hf
        | true =>
            cases hs : ans.streamon with
            | false =>
                simp only [V4l2Capture.start, hr, hg, hl, hs, if_true, if_false,
                  Bool.false_eq_true] at hf ⊢
                rw [← List.append_assoc]
                exact (hloop (freshAfter_append.mp hf).1).quiet rfl
            | true =>
                simp only [V4l2Capture.start, hr, hg, hl, hs, if_true, if_false] at hf ⊢
                have hon := (hloop (freshAfter_append.mp hf).1).streamon rfl true
                rw [Bool.or_true] at hon
                rw [← List.append_assoc]
                exact hon

/-- `dequeue` touches no descriptor. -/
theorem Agrees.dequeue (h : self.Agrees log) (ans : DequeueAnswers) :
    (self.dequeue ans).obj.Agrees (log ++ (self.dequeue ans).log) := by
  have hfds : cls.exportedFds (self.dequeue ans).obj = cls.exportedFds self :=
    dequeueFrom_fds self.fd self.buffers ans
  have hquiet : ∀ c ∈ (self.dequeue ans).log, c.isQuiet = true :=
    dequeueFrom_isQuiet self.fd self.buffers ans
  rw [Agrees, hfds]
  exact h.quiets hquiet

/-- One method. -/
theorem Agrees.call (h : self.Agrees log) {op : Op} (hf : FreshAfter log (cls.call self op).log) :
    (cls.call self op).obj.Agrees (log ++ (cls.call self op).log) := by
  cases op with
  | start count ans => exact h.start hf
  | dequeue ans => exact h.dequeue ans
  | requeue index qbuf => exact h.quiet rfl

/-- `drop`: STREAMOFF if streaming, the exports, REQBUFS(0), and the device. -/
theorem Agrees.drop (h : self.Agrees log) : Holds none [] false (log ++ self.drop) := by
  have hoff : Holds (some self.fd) (cls.exportedFds self) false
      (log ++ if self.streaming then [.streamoff] else []) := by
    cases hs : self.streaming with
    | false =>
        rw [Agrees, hs] at h
        simpa using h
    | true => simpa using h.streamoff
  have hend := hoff.closed_exports.releaseBufs.closed_device
  simpa [V4l2Capture.drop, stop, dropBuffers, cls, Function.comp_def] using hend

/-- **The Rust object owns its descriptors** at every moment of every use. -/
theorem owned_of_run {s t : Use V4l2Capture} {ops : List Op} (h : s.obj.Agrees s.log)
    (hd : s.stuck ≠ some .undefinedBehaviour) (hf : Meets cls.step cls.FreshAnswers s ops)
    (hrun : run cls.step s ops = some t) : Always cls.step cls.Owned s ops := by
  refine (always_iff_meets_of_strengthening (C := fun _ _ => True)
    (Q := fun s => s.obj.Agrees s.log ∧ s.stuck ≠ some .undefinedBehaviour)
    ?_ ?_ (fun _ _ _ _ _ _ _ => trivial) ⟨h, hd⟩ hf hrun).mpr
    (meets_of_forall (fun _ _ => trivial) _ _)
  · rintro s ⟨h, hd⟩
    exact ⟨hd, h.drop.owns, fun fd hfd => h.mem_openFds hfd⟩
  · rintro s op s' ⟨h, -⟩ hf - hs
    obtain rfl := cls.step_eq_some hs
    refine ⟨h.call hf, ?_⟩
    cases op with
    | dequeue ans =>
        simp only [cls]
        split <;> nofun
    | start count ans | requeue index qbuf => nofun

/-- `open` closes what it obtained when it fails, and leaves it with the object otherwise. -/
theorem openDevice_spec (width height pixel_format : UInt32) (ans : OpenAnswers) :
    (∃ log e, openDevice width height pixel_format ans = (log, .error e) ∧
      OwnsDescriptors log) ∨
    ∃ log self, openDevice width height pixel_format ans = (log, .ok self) ∧
      self.Agrees log := by
  have hopened (fd : Fd) : Holds (some fd) [] false [.openDevice (some fd)] :=
    Holds.nil.opened ⟨by simp [openFds], trivial⟩
  cases hfd : ans.fd with
  | none =>
      refine .inl ⟨[.openDevice none], .os, by simp only [openDevice, hfd], ?_⟩
      exact (Holds.nil.quiet (c := .openDevice none) rfl).owns
  | some fd =>
      have hcap (ok : Bool) : Holds (some fd) [] false [.openDevice (some fd), .querycap ok] :=
        (hopened fd).quiet (c := .querycap ok) rfl
      cases hc : ans.querycap with
      | none =>
          refine .inl ⟨_, .os, by simp only [openDevice, hfd, hc]; rfl, ?_⟩
          exact (hcap false).closed_device.owns
      | some cap =>
          by_cases hb : (!cap.videoCapture || !cap.streaming) = true
          · refine .inl ⟨_, .unsupported, by simp only [openDevice, hfd, hc, hb]; rfl, ?_⟩
            exact (hcap true).closed_device.owns
          · have hfmt (ok : Bool) : Holds (some fd) [] false
                [.openDevice (some fd), .querycap true, .s_fmt width height pixel_format ok] :=
              (hcap true).quiet (c := .s_fmt width height pixel_format ok) rfl
            cases hs : ans.s_fmt with
            | none =>
                refine .inl ⟨_, .os, by simp only [openDevice, hfd, hc, hb, hs]; rfl, ?_⟩
                exact (hfmt false).closed_device.owns
            | some pix =>
                refine .inr ⟨_, _, by simp only [openDevice, hfd, hc, hb, hs]; rfl, ?_⟩
                exact hfmt true

end V4l2Capture

/-! ## The C++ object -/

namespace Cpp.V4l2Capture

/-- A public method, with the driver's answers. -/
inductive Op
  | openDevice (width height pixel_format : UInt32) (ans : OpenAnswers)
  | start (count : ℕ) (ans : StartAnswers)
  | stop
  | dequeue (ans : DequeueAnswers)
  | requeue (index : ℕ) (qbuf : Bool)

/-- The C++ class. -/
def cls : CaptureClass Cpp.V4l2Capture Op where
  call self
    | .openDevice width height pixel_format ans =>
        ⟨(self.openDevice width height pixel_format ans).obj,
          (self.openDevice width height pixel_format ans).log, none⟩
    | .start count ans => ⟨(self.start count ans).obj, (self.start count ans).log, none⟩
    | .stop => ⟨self.stop.1, self.stop.2, none⟩
    | .dequeue ans =>
        ⟨(self.dequeue ans).obj, (self.dequeue ans).log,
          if (self.dequeue ans).result.inBounds then none else some .undefinedBehaviour⟩
    | .requeue index qbuf =>
        ⟨(self.requeue index qbuf).obj, (self.requeue index qbuf).log, none⟩
  destroy self := self.destroy
  exportedFds self := self.exportedFds

/-- `start` gets as far as clearing `buffers_`. -/
def Clears (self : Cpp.V4l2Capture) (ans : StartAnswers) : Prop :=
  self.fd_.isSome = true ∧ ∃ granted ∈ ans.reqbufs, 2 ≤ granted

/-- **A use that loses no descriptor**: `open` only on an object without a device, a
`start` that clears `buffers_` only when no entry has a descriptor, and `dequeue` only
with a device that fits an `fd_set` and a driver that answers with an index in range. -/
def Disciplined (self : Cpp.V4l2Capture) : Op → Prop
  | .openDevice .. => self.fd_ = none
  | .start _ ans => self.Clears ans → self.exportedFds = []
  | .dequeue ans =>
      (∃ fd ∈ self.fd_, fd < FD_SETSIZE) ∧
        (ans.select = .ready → ∀ frame ∈ ans.dqbuf, frame.1 < self.buffers_.length)
  | .stop | .requeue .. => True

instance (self : Cpp.V4l2Capture) (op : Op) : Decidable (self.Disciplined op) := by
  unfold Disciplined Clears
  split <;> infer_instance

/-- The fields agree with the log. -/
abbrev Agrees (self : Cpp.V4l2Capture) (log : List Call) : Prop :=
  Holds self.fd_ self.exportedFds self.streaming_ log

variable {self : Cpp.V4l2Capture} {log : List Call}

/-- What `open` does: it overwrites `fd_` with the answer of `::open`. -/
theorem openDevice_outcome (self : Cpp.V4l2Capture) (width height pixel_format : UInt32)
    (ans : OpenAnswers) :
    ∃ calls, (self.openDevice width height pixel_format ans).log = .openDevice ans.fd :: calls ∧
      (∀ c ∈ calls, c.isQuiet = true) ∧
      (self.openDevice width height pixel_format ans).obj.fd_ = ans.fd ∧
      (self.openDevice width height pixel_format ans).obj.exportedFds = self.exportedFds ∧
      (self.openDevice width height pixel_format ans).obj.streaming_ = self.streaming_ := by
  cases ha : ans.fd with
  | none => exact ⟨[], by simp [openDevice, ha, exportedFds]⟩
  | some fd =>
      cases hc : ans.querycap with
      | none =>
          exact ⟨[.querycap false], by simp [openDevice, ha, hc, exportedFds, Call.isQuiet]⟩
      | some cap =>
          by_cases hb : (!cap.videoCapture || !cap.streaming) = true
          · exact ⟨[.querycap true], by
              simp only [openDevice, ha, hc, hb, if_true]
              simp [exportedFds, Call.isQuiet]⟩
          · cases hs : ans.s_fmt with
            | none =>
                exact ⟨[.querycap true, .s_fmt width height pixel_format false], by
                  simp only [openDevice, ha, hc, hb, hs]
                  simp [exportedFds, Call.isQuiet]⟩
            | some pix =>
                exact ⟨[.querycap true, .s_fmt width height pixel_format true], by
                  simp only [openDevice, ha, hc, hb, hs]
                  simp [exportedFds, Call.isQuiet]⟩

/-- `open` on an object without a device. -/
theorem Agrees.openDevice (h : self.Agrees log) (hfd : self.fd_ = none)
    {width height pixel_format : UInt32} {ans : OpenAnswers}
    (hf : FreshAfter log (self.openDevice width height pixel_format ans).log) :
    (self.openDevice width height pixel_format ans).obj.Agrees
      (log ++ (self.openDevice width height pixel_format ans).log) := by
  obtain ⟨calls, hlog, hquiet, hfd', hex, hs⟩ :=
    openDevice_outcome self width height pixel_format ans
  rw [hlog] at hf ⊢
  rw [Agrees, hfd', hex, hs, List.append_cons]
  rw [Agrees, hfd] at h
  have hf := (freshAfter_cons.mp hf).1
  cases ha : ans.fd with
  | none => exact (h.quiet rfl).quiets hquiet
  | some fd =>
      rw [ha] at hf
      exact (h.opened hf).quiets hquiet

/-- The entries after the loop of `start` hold what the loop exported. -/
theorem exportedFds_entries (bs : List V4l2BufInfo) (n : ℕ) :
    (bs.map V4l2Buffer.ofInfo ++ List.replicate n ({} : V4l2Buffer)).filterMap (·.dmabuf_fd) =
      bs.map (·.dmabuf_fd) := by
  rw [List.filterMap_append, List.filterMap_replicate_of_none rfl, List.append_nil,
    List.filterMap_map]
  exact congrFun (List.filterMap_eq_map (f := fun b : V4l2BufInfo => b.dmabuf_fd)) bs

/-- A `start` that does not get as far as `buffers_`. -/
theorem start_of_not_clears (count : ℕ) {ans : StartAnswers} (h : ¬ self.Clears ans) :
    (self.start count ans).obj = self ∧ ∃ r, (self.start count ans).log = [.reqbufs count r] := by
  by_cases hfd : self.fd_.isSome = true
  · cases hr : ans.reqbufs with
    | none => simp [V4l2Capture.start, hr]
    | some granted =>
        have hg : granted < 2 := by
          by_contra hg
          exact h ⟨hfd, granted, hr, by omega⟩
        simp [V4l2Capture.start, hfd, hr, hg]
  · simp [V4l2Capture.start, hfd]

/-- A `start` that clears `buffers_`: nothing is closed, and the entries hold what the
loop exported. -/
theorem start_of_clears (count : ℕ) {ans : StartAnswers} (h : self.Clears ans) :
    ∃ granted tail, (self.start count ans).log =
        [.reqbufs count (some granted)] ++ (exportLoop ans 0 granted).2.1 ++ tail ∧
      (tail = [] ∧ (self.start count ans).obj.streaming_ = self.streaming_ ∨
        ∃ ok, tail = [.streamon ok] ∧
          (self.start count ans).obj.streaming_ = (self.streaming_ || ok)) ∧
      (self.start count ans).obj.fd_ = self.fd_ ∧
      (self.start count ans).obj.exportedFds =
        (exportLoop ans 0 granted).1.map (·.dmabuf_fd) := by
  obtain ⟨hfd, granted, hr, hg⟩ := h
  have hr : ans.reqbufs = some granted := hr
  have hg : ¬ granted < 2 := by omega
  cases hl : (exportLoop ans 0 granted).2.2 with
  | false =>
      refine ⟨granted, [], ?_⟩
      simp only [V4l2Capture.start, hfd, hr, hg, hl, if_true, if_false, Bool.false_eq_true]
      exact ⟨(List.append_nil _).symm, .inl ⟨trivial, trivial⟩, trivial,
        exportedFds_entries _ _⟩
  | true =>
      refine ⟨granted, [.streamon ans.streamon], ?_⟩
      cases hs : ans.streamon with
      | false =>
          simp only [V4l2Capture.start, hfd, hr, hg, hl, hs, if_true, if_false,
            Bool.false_eq_true]
          exact ⟨trivial, .inr ⟨false, rfl, (Bool.or_false _).symm⟩, trivial,
            exportedFds_entries _ _⟩
      | true =>
          simp only [V4l2Capture.start, hfd, hr, hg, hl, hs, if_true, if_false]
          exact ⟨trivial, .inr ⟨true, rfl, (Bool.or_true _).symm⟩, trivial,
            exportedFds_entries _ _⟩

/-- `start` when clearing `buffers_` loses nothing. -/
theorem Agrees.start (h : self.Agrees log) {count : ℕ} {ans : StartAnswers}
    (hd : self.Clears ans → self.exportedFds = [])
    (hf : FreshAfter log (self.start count ans).log) :
    (self.start count ans).obj.Agrees (log ++ (self.start count ans).log) := by
  by_cases hc : self.Clears ans
  · obtain ⟨granted, tail, hlog, htail, hfd, hex⟩ := start_of_clears count hc
    rw [hlog] at hf ⊢
    have hnone : Holds self.fd_ [] self.streaming_ log := hd hc ▸ h
    have hloop := (hnone.quiet (c := .reqbufs count (some granted)) rfl).exports ans
      (freshAfter_append.mp (freshAfter_append.mp hf).1).2
    rw [List.nil_append, ← hex, ← hfd, List.append_assoc] at hloop
    rw [Agrees, ← List.append_assoc]
    rcases htail with ⟨rfl, hs⟩ | ⟨ok, rfl, hs⟩
    · rw [hs, List.append_nil]
      exact hloop
    · rw [hs]
      exact hloop.streamon (hfd ▸ hc.1) ok
  · obtain ⟨hobj, r, hlog⟩ := start_of_not_clears count hc
    rw [hobj, hlog]
    exact h.quiet rfl

/-- `stop` closes all but the device. -/
theorem Agrees.stop (h : self.Agrees log) : Holds self.fd_ [] false (log ++ self.stop.2) := by
  cases hfd : self.fd_ with
  | none =>
      have hs : self.streaming_ = false := by
        by_contra hs
        simpa [hfd] using h.streaming_device (by simpa using hs)
      rw [Agrees, hfd, hs] at h
      simpa [V4l2Capture.stop, hs, hfd] using h.closed_exports
  | some fd =>
      rw [Agrees, hfd] at h
      have hoff : Holds (some fd) self.exportedFds false
          (log ++ if self.streaming_ then [.streamoff] else []) := by
        cases hs : self.streaming_ with
        | false =>
            rw [hs] at h
            simpa using h
        | true => simpa using h.streamoff
      have hend := hoff.closed_exports.releaseBufs
      simpa [V4l2Capture.stop, hfd] using hend

/-- The destructor closes everything. -/
theorem Agrees.destroy (h : self.Agrees log) : Holds none [] false (log ++ self.destroy) := by
  have hstop := h.stop
  rw [V4l2Capture.destroy, ← List.append_assoc]
  cases hfd : self.fd_ with
  | none =>
      rw [hfd] at hstop
      simpa [V4l2Capture.stop, hfd] using hstop
  | some fd =>
      rw [hfd] at hstop
      have hend := hstop.closed_device
      simpa [V4l2Capture.stop, hfd] using hend

/-- `stop` leaves the device, and nothing else, with the object. -/
theorem Agrees.stop_agrees (h : self.Agrees log) : self.stop.1.Agrees (log ++ self.stop.2) := by
  have hs : (self.streaming_ && self.fd_.isNone) = false := by
    cases hs : self.streaming_ with
    | false => rfl
    | true => simpa using h.streaming_device hs
  have hstop := h.stop
  rw [← hs] at hstop
  exact hstop

/-- Setting `bytesused` changes no descriptor. -/
@[simp] theorem filterMap_modify_bytesused (bs : List V4l2Buffer) (i n : ℕ) :
    (bs.modify i fun b => { b with bytesused := n }).filterMap (·.dmabuf_fd) =
      bs.filterMap (·.dmabuf_fd) := by
  induction bs generalizing i with
  | nil => simp
  | cons b bs ih =>
      cases i with
      | zero => simp [List.filterMap_cons]
      | succ i => simp [List.filterMap_cons, ih]

/-- What `dequeue` answers where it is defined: the calls touch no descriptor, and the
entries keep theirs. -/
theorem dequeue_spec {ans : DequeueAnswers} (hd : self.Disciplined (.dequeue ans)) :
    (self.dequeue ans).result.inBounds = true ∧
      (∀ c ∈ (self.dequeue ans).log, c.isQuiet = true) ∧
      (self.dequeue ans).obj.fd_ = self.fd_ ∧
      (self.dequeue ans).obj.streaming_ = self.streaming_ ∧
      (self.dequeue ans).obj.exportedFds = self.exportedFds := by
  obtain ⟨⟨fd, hfd, hset⟩, hframe⟩ := hd
  have hfd : self.fd_ = some fd := hfd
  have hset : ¬ FD_SETSIZE ≤ fd := Nat.not_le.mpr hset
  cases hs : ans.select with
  | failed | timeout => simp [V4l2Capture.dequeue, hfd, hset, hs, Dequeued.inBounds]
  | ready =>
      cases hq : ans.dqbuf with
      | none => simp [V4l2Capture.dequeue, hfd, hset, hs, hq, Call.isQuiet, Dequeued.inBounds]
      | some frame =>
          obtain ⟨index, bytesused⟩ := frame
          have hin : index < self.buffers_.length := hframe hs (index, bytesused) hq
          simp [V4l2Capture.dequeue, hfd, hset, hs, hq, hin, Call.isQuiet, exportedFds,
            Dequeued.inBounds]

/-- A disciplined call keeps the fields in agreement with the log. -/
theorem Agrees.call (h : self.Agrees log) {op : Op} (hd : self.Disciplined op)
    (hf : FreshAfter log (cls.call self op).log) :
    (cls.call self op).obj.Agrees (log ++ (cls.call self op).log) ∧
      (cls.call self op).result = none := by
  cases op with
  | openDevice width height pixel_format ans => exact ⟨h.openDevice hd hf, rfl⟩
  | start count ans => exact ⟨h.start hd hf, rfl⟩
  | stop => exact ⟨h.stop_agrees, rfl⟩
  | dequeue ans =>
      obtain ⟨hdef, hquiet, hfd, hs, hex⟩ := dequeue_spec hd
      refine ⟨?_, by simp [cls, hdef]⟩
      change (self.dequeue ans).obj.Agrees (log ++ (self.dequeue ans).log)
      rw [Agrees, hfd, hs, hex]
      exact h.quiets hquiet
  | requeue index qbuf => exact ⟨h.quiet rfl, rfl⟩

/-! ### What an undisciplined call loses -/

/-- A descriptor that is neither closed by a call nor by the destructor is lost. -/
theorem not_owns_of_leak {fd : Fd} {calls : List Call} (hfd : fd ∈ openFds log)
    (hcalls : .close fd ∉ calls) : ¬ OwnsDescriptors (log ++ calls) := by
  intro h
  have hend : openFds (log ++ calls) = ∅ := h.balanced.settled
  have hmem : fd ∈ openFds (log ++ calls) := by
    rw [openFds_append]
    exact Ledger.mem_held_of_not_released hfd (release_not_mem hcalls)
  simp [hend] at hmem

/-- What the destructor closes. -/
theorem close_mem_destroy {fd : Fd} (h : .close fd ∈ self.destroy) :
    fd ∈ self.exportedFds ∨ self.fd_ = some fd := by
  rw [destroy, V4l2Capture.stop] at h
  simp only [List.mem_append, List.mem_map, Call.close.injEq, exists_eq_right,
    Option.mem_toList] at h
  rcases h with ((h | h) | h) | h
  · split at h <;> simp at h
  · exact .inl h
  · split at h <;> simp at h
  · exact .inr h

/-- `open` on an object with a device loses the device. -/
theorem not_owns_openDevice (h : self.Agrees log) {fd : Fd} (hfd : self.fd_ = some fd)
    {width height pixel_format : UInt32} {ans : OpenAnswers}
    (hf : FreshAfter log (self.openDevice width height pixel_format ans).log) :
    ¬ OwnsDescriptors (log ++ (self.openDevice width height pixel_format ans).log ++
      (self.openDevice width height pixel_format ans).obj.destroy) := by
  obtain ⟨calls, hlog, hquiet, hfd', hex, -⟩ :=
    openDevice_outcome self width height pixel_format ans
  have hopen : fd ∈ openFds log := by simp [h.openFds_eq, hfd]
  have hcalls : .close fd ∉ Call.openDevice ans.fd :: calls := by
    intro hmem
    rcases List.mem_cons.mp hmem with heq | hmem
    · cases heq
    · cases hquiet _ hmem
  rw [List.append_assoc]
  apply not_owns_of_leak hopen
  intro hmem
  rcases List.mem_append.mp hmem with hmem | hmem
  · exact hcalls (hlog ▸ hmem)
  · rcases close_mem_destroy hmem with hmem | hnew
    · rw [hex] at hmem
      have hnodup := h.nodup
      rw [hfd] at hnodup
      exact (List.nodup_cons.mp hnodup).1 hmem
    · rw [hfd'] at hnew
      rw [hlog, hnew] at hf
      exact hf.1 hopen

/-- `start` on an object with exports loses the exports. -/
theorem not_owns_start (h : self.Agrees log) {count : ℕ} {ans : StartAnswers}
    (hc : self.Clears ans) {fd : Fd} (hfd : fd ∈ self.exportedFds)
    (hf : FreshAfter log (self.start count ans).log) :
    ¬ OwnsDescriptors (log ++ (self.start count ans).log ++
      (self.start count ans).obj.destroy) := by
  obtain ⟨granted, tail, hlog, htail, hfd', hex⟩ := start_of_clears count hc
  have hopen : fd ∈ openFds log := h.mem_openFds hfd
  have hcalls : .close fd ∉ (self.start count ans).log := by
    intro hmem
    rw [hlog, List.mem_append, List.mem_append] at hmem
    rcases hmem with (hmem | hmem) | hmem
    · simp at hmem
    · exact close_not_mem_exportLoop ans 0 granted fd hmem
    · rcases htail with ⟨rfl, -⟩ | ⟨ok, rfl, -⟩ <;> simp at hmem
  rw [List.append_assoc]
  apply not_owns_of_leak hopen
  intro hmem
  rcases List.mem_append.mp hmem with hmem | hmem
  · exact hcalls hmem
  · rcases close_mem_destroy hmem with hmem | hdev
    · rw [hex] at hmem
      obtain ⟨b, hb, rfl⟩ := List.mem_map.mp hmem
      apply hf.not_acquired hopen (release_not_mem hcalls)
      rw [hlog]
      apply List.mem_filterMap.mpr
      refine ⟨.expbuf b.index (some b.dmabuf_fd), ?_, rfl⟩
      exact List.mem_append_left _ (List.mem_append_right _ (expbuf_mem_exportLoop hb))
    · rw [hfd'] at hdev
      have hnodup := h.nodup
      rw [hdev] at hnodup
      exact (List.nodup_cons.mp hnodup).1 hfd

/-- An undisciplined `dequeue` is undefined. -/
theorem dequeue_undefined {ans : DequeueAnswers}
    (hd : ¬ self.Disciplined (.dequeue ans)) :
    (self.dequeue ans).result.inBounds = false := by
  cases hfd : self.fd_ with
  | none => simp [V4l2Capture.dequeue, hfd, Dequeued.inBounds]
  | some fd =>
      by_cases hset : FD_SETSIZE ≤ fd
      · simp [V4l2Capture.dequeue, hfd, hset, Dequeued.inBounds]
      · have hframe : ¬ (ans.select = .ready →
            ∀ frame ∈ ans.dqbuf, frame.1 < self.buffers_.length) := by
          intro hframe
          exact hd ⟨⟨fd, hfd, Nat.not_le.mp hset⟩, hframe⟩
        push Not at hframe
        obtain ⟨hs, ⟨index, bytesused⟩, hq, hout⟩ := hframe
        have hq : ans.dqbuf = some (index, bytesused) := hq
        have hout : ¬ index < self.buffers_.length := Nat.not_lt.mpr hout
        simp [V4l2Capture.dequeue, hfd, hset, hs, hq, hout, Dequeued.inBounds]

/-- Where a call leaves an object that owns its descriptors, the call was disciplined. -/
theorem disciplined_of_owned (h : self.Agrees log) {op : Op}
    (hf : FreshAfter log (cls.call self op).log)
    (ho : cls.Owned ⟨(cls.call self op).obj, log ++ (cls.call self op).log,
      (cls.call self op).result⟩) : self.Disciplined op := by
  cases op with
  | openDevice width height pixel_format ans =>
      by_contra hfd
      obtain ⟨fd, hfd⟩ := Option.ne_none_iff_exists'.mp hfd
      exact not_owns_openDevice h hfd hf ho.owns
  | start count ans =>
      intro hc
      by_contra hex
      obtain ⟨fd, hfd⟩ := List.exists_mem_of_ne_nil _ hex
      exact not_owns_start h hc hfd hf ho.owns
  | dequeue ans =>
      by_contra hd
      exact ho.defined (by simp [cls, dequeue_undefined hd])
  | stop | requeue index qbuf => trivial

/-- **The C++ object owns its descriptors exactly while it is used with discipline.** -/
theorem owned_iff_disciplined {t : Use Cpp.V4l2Capture} {ops : List Op}
    (hf : Meets cls.step cls.FreshAnswers ⟨{}, [], none⟩ ops)
    (hrun : run cls.step ⟨{}, [], none⟩ ops = some t) :
    Always cls.step cls.Owned ⟨{}, [], none⟩ ops ↔
      Meets cls.step (fun s op => s.obj.Disciplined op) ⟨{}, [], none⟩ ops := by
  apply always_iff_meets_of_strengthening
    (Q := fun s => s.obj.Agrees s.log ∧ s.stuck = none) _ _ _ ⟨Holds.nil, rfl⟩ hf hrun
  · intro s ⟨h, hd⟩
    refine ⟨by simp [hd], ?_, fun fd hfd => h.mem_openFds hfd⟩
    exact Holds.owns h.destroy
  · intro s op s' ⟨h, _⟩ hf hd hs
    obtain rfl := cls.step_eq_some hs
    exact h.call hd hf
  · intro s op s' ⟨h, _⟩ hf hs ho
    obtain rfl := cls.step_eq_some hs
    exact disciplined_of_owned h hf ho

end Cpp.V4l2Capture

/-! ## Both languages -/

/-- A use of a capture object: in Rust from `open` on, in C++ from the constructor on. -/
inductive Usage
  | rust (width height pixel_format : UInt32) (ans : OpenAnswers) (ops : List V4l2Capture.Op)
  | cpp (ops : List Cpp.V4l2Capture.Op)

namespace Usage

/-- Methods are called only on an object that exists and is not stuck, and the descriptors
that the driver returns are fresh. -/
def Possible : Usage → Prop
  | .rust width height pixel_format ans ops =>
      match V4l2Capture.openDevice width height pixel_format ans with
      | (_, .error _) => ops = []
      | (log, .ok self) =>
          (run V4l2Capture.cls.step ⟨self, log, none⟩ ops).isSome = true ∧
            Meets V4l2Capture.cls.step V4l2Capture.cls.FreshAnswers ⟨self, log, none⟩ ops
  | .cpp ops =>
      (run Cpp.V4l2Capture.cls.step ⟨{}, [], none⟩ ops).isSome = true ∧
        Meets Cpp.V4l2Capture.cls.step Cpp.V4l2Capture.cls.FreshAnswers ⟨{}, [], none⟩ ops

/-- The object owns its descriptors wherever the use ends; a failed `open` has closed what
it obtained. -/
def Owns : Usage → Prop
  | .rust width height pixel_format ans ops =>
      match V4l2Capture.openDevice width height pixel_format ans with
      | (log, .error _) => OwnsDescriptors log
      | (log, .ok self) => Always V4l2Capture.cls.step V4l2Capture.cls.Owned ⟨self, log, none⟩ ops
  | .cpp ops => Always Cpp.V4l2Capture.cls.step Cpp.V4l2Capture.cls.Owned ⟨{}, [], none⟩ ops

/-- Any use in Rust, and a use of disciplined calls in C++. -/
def Disciplined : Usage → Prop
  | .rust .. => True
  | .cpp ops =>
      Meets Cpp.V4l2Capture.cls.step (fun s op => s.obj.Disciplined op) ⟨{}, [], none⟩ ops

end Usage

/-- **Who owns the descriptors**: with fresh descriptors from the driver, and every other
answer free, the Rust object owns its descriptors throughout any use, and the C++ object
throughout exactly the disciplined ones. -/
theorem captures_own (u : Usage) (h : u.Possible) : u.Owns ↔ u.Disciplined := by
  cases u with
  | rust width height pixel_format ans ops =>
      refine iff_of_true ?_ trivial
      simp only [Usage.Possible, Usage.Owns] at h ⊢
      rcases V4l2Capture.openDevice_spec width height pixel_format ans with
        ⟨log, e, heq, howns⟩ | ⟨log, self, heq, hagrees⟩
      · rw [heq]
        exact howns
      · rw [heq] at h ⊢
        obtain ⟨t, hrun⟩ := Option.isSome_iff_exists.mp h.1
        exact V4l2Capture.owned_of_run hagrees (by simp) h.2 hrun
  | cpp ops =>
      obtain ⟨t, hrun⟩ := Option.isSome_iff_exists.mp h.1
      exact Cpp.V4l2Capture.owned_iff_disciplined h.2 hrun

/-- A device that opens as descriptor `fd`. -/
def opensAs (fd : Fd) : OpenAnswers where
  fd := some fd
  querycap := some ⟨true, true⟩
  s_fmt := some ⟨640, 480, 1280, 614400, 0⟩

/-- A driver that grants two buffers and exports them as `fd` and `fd + 1`. -/
def exportsFrom (fd : Fd) (streamon : Bool) : StartAnswers where
  reqbufs := some 2
  querybuf _ := some 614400
  expbuf i := some (fd + i)
  qbuf _ := true
  streamon := streamon

/-- In Rust a `start` is retried after a failed STREAMON, and the driver exports the same
numbers again; in C++ `stop` comes before the retry. -/
theorem captures_own_retry :
    Usage.Owns (.rust 640 480 0 (opensAs 3)
      [.start 4 (exportsFrom 4 false), .start 4 (exportsFrom 4 true),
        .dequeue ⟨.ready, some (1, 614400)⟩, .requeue 1 true]) ∧
    Usage.Owns (.cpp
      [.openDevice 640 480 0 (opensAs 3), .start 4 (exportsFrom 4 false), .stop,
        .start 4 (exportsFrom 4 true), .dequeue ⟨.ready, some (1, 614400)⟩,
        .requeue 1 true]) := by
  constructor
  · refine (captures_own _ ?_).mpr trivial
    exact ⟨by decide, by decide⟩
  · refine (captures_own _ ?_).mpr ?_
    · exact ⟨by decide, by decide⟩
    · change Meets _ _ _ _
      decide

/-- **The C++ object loses exports**: `start` is retried after a failed STREAMON, and the
descriptors of the first attempt are still open after the destructor. -/
theorem not_captures_own_retry :
    ∃ s, run Cpp.V4l2Capture.cls.step ⟨{}, [], none⟩
        [.openDevice 640 480 0 (opensAs 3), .start 4 (exportsFrom 4 false),
          .start 4 (exportsFrom 6 true)] = some s ∧
      Meets Cpp.V4l2Capture.cls.step Cpp.V4l2Capture.cls.FreshAnswers ⟨{}, [], none⟩
        [.openDevice 640 480 0 (opensAs 3), .start 4 (exportsFrom 4 false),
          .start 4 (exportsFrom 6 true)] ∧
      openFds (s.log ++ s.obj.destroy) = {4, 5} ∧ ¬ Cpp.V4l2Capture.cls.Owned s := by
  obtain ⟨s, hrun, hs⟩ := Option.map_eq_some_iff.mp
    (by decide : (run Cpp.V4l2Capture.cls.step ⟨{}, [], none⟩
        [.openDevice 640 480 0 (opensAs 3), .start 4 (exportsFrom 4 false),
          .start 4 (exportsFrom 6 true)]).map
        (fun s => openFds (s.log ++ s.obj.destroy)) = some {4, 5})
  refine ⟨s, hrun, by decide, hs, fun h => ?_⟩
  have hend : openFds (s.log ++ s.obj.destroy) = ∅ := h.owns.balanced.settled
  rw [hs] at hend
  exact absurd hend (by decide)

end DmabufPipeline
