import DmabufPipeline.Lib.Fifo
import DmabufPipeline.Pipeline.Exclusivity

/-!
# The pipeline refines a queue of frames

What the subscriber draws is what the publisher dequeued, frame by frame. Three facts
carry it. An index denotes one DMA-BUF throughout, at the handshake, in `buffers` and in
every QBUF (`SameMemory`). The content of a lent buffer stays, because the driver writes
only what is queued (`Owned`). And the frame under way is the only one dequeued and not
drawn (`Undrawn`). Together they make the pipeline simulate `Fifo`, with `put` at DQBUF
and `get` at `draw`.

## Main definitions

* `SameMemory` — an index denotes one DMA-BUF.
* `Undrawn` — the frames dequeued are those drawn and the one that is due.
* `fifo_simulation` — the simulation of `Fifo`.
* `Faithful`, `faithful` — the frames drawn, the descriptors and the memory agree.
-/

namespace DmabufPipeline

open Transition

variable {γ : Type} {S : Session} {s s' : State γ}

/-! ## One DMA-BUF for each index -/

/-- After the QBUFs in `calls`, index `i` denotes one DMA-BUF: the one at position `i` of
the handshake, in the driver, and in every QBUF that names a descriptor. -/
structure SameMemory (S : Session) (calls : List Call) : Prop where
  named : ∀ i fd ok, .qbuf i (some fd) ok ∈ calls → S.shared[i]? = some (S.file fd)
  memory : ∀ i < S.count, S.shared[i]? = some (S.memory calls i)

/-- A further QBUF decides the latest descriptor of its index. -/
theorem latestFd_append_singleton (calls : List Call) (c : Call) (i : ℕ) :
    latestFd (calls ++ [c]) i = (c.namedFd i).or (latestFd calls i) := by
  rw [latestFd, List.reverse_append, List.reverse_singleton, List.singleton_append,
    List.findSome?_cons]
  cases c.namedFd i <;> rfl

/-- The latest descriptor comes from a QBUF of that index. -/
theorem mem_of_latestFd {calls : List Call} {i : ℕ} {fd : Fd} (h : latestFd calls i = some fd) :
    .qbuf i (some fd) true ∈ calls := by
  obtain ⟨c, hc, hfd⟩ := List.exists_of_findSome?_eq_some h
  rw [← Call.namedFd_eq_some.mp hfd]
  exact List.mem_reverse.mp hc

/-- An index that some QBUF named has a latest descriptor. -/
theorem latestFd_isSome {calls : List Call} {i : ℕ} {fd : Fd}
    (h : .qbuf i (some fd) true ∈ calls) : (latestFd calls i).isSome := by
  rw [latestFd, List.findSome?_isSome_iff]
  exact ⟨_, List.mem_reverse.mpr h, by simp [Call.namedFd]⟩

/-- Position `i` of the handshake is the DMA-BUF of entry `i`. -/
theorem Session.shared_getElem? (S : Session) (i : ℕ) :
    S.shared[i]? = (S.cap.buffers[i]?).map fun b => S.file b.dmabuf_fd := by
  simp [Session.shared]

/-- `start()` establishes it on both back ends. -/
theorem Session.Started.sameMemory (h : S.Started) : SameMemory S (qbufCalls S.log) := by
  cases h with
  | @mmap self count ans file exported hok hfile hinj =>
      obtain ⟨-, hentry, hcalls⟩ := V4l2Capture.start_ok hok
      refine ⟨fun i fd ok hmem => ?_, fun i hi => ?_⟩
      · rw [hcalls, List.mem_map] at hmem
        obtain ⟨b, -, hb⟩ := hmem
        cases hb
      · rw [Session.shared_getElem?]
        have hi : i < (self.start count ans).obj.buffers.length := hi
        have hb := List.getElem?_eq_getElem hi
        have hfd := hfile i _ (hentry i _ hb).2
        simp only [Capture.buffers, hb, Option.map_some, Session.memory, hfd]
  | @dma self fds ans file exported hok hnodup =>
      obtain ⟨-, hentry, hcalls⟩ := V4l2CaptureDma.start_ok hok
      have hnamed : ∀ i fd ok, .qbuf i (some fd) ok ∈ qbufCalls (self.start fds ans).log →
          (self.start fds ans).obj.buffers[i]?.map (fun b => file b.dmabuf_fd) =
            some (file fd) := by
        intro i fd ok hmem
        rw [hcalls, List.mem_map] at hmem
        obtain ⟨b, hb, heq⟩ := hmem
        obtain ⟨k, hk⟩ := List.mem_iff_getElem?.mp hb
        have hindex := hentry k b hk
        simp only [Call.qbuf.injEq, Option.some.injEq] at heq
        obtain ⟨rfl, rfl, -⟩ := heq
        rw [hindex, hk, Option.map_some]
      refine ⟨fun i fd ok hmem => ?_, fun i hi => ?_⟩
      · rw [Session.shared_getElem?]
        exact hnamed i fd ok hmem
      · have hi : i < (self.start fds ans).obj.buffers.length := hi
        have hb := List.getElem?_eq_getElem hi
        have hmem : .qbuf i (some ((self.start fds ans).obj.buffers[i]).dmabuf_fd) true ∈
            qbufCalls (self.start fds ans).log := by
          rw [hcalls, List.mem_map]
          exact ⟨_, List.mem_of_getElem? hb, by rw [hentry i _ hb]⟩
        obtain ⟨fd, hfd⟩ := Option.isSome_iff_exists.mp (latestFd_isSome hmem)
        have := hnamed i fd true (mem_of_latestFd hfd)
        rw [Session.shared_getElem?]
        simpa [Capture.buffers, Session.memory, hfd] using this

/-- `requeue` keeps it: the QBUF names the entry's own descriptor. -/
theorem SameMemory.requeue {calls : List Call} (h : SameMemory S calls) (i : ℕ) (ok : Bool) :
    SameMemory S (calls ++ S.cap.requeueCalls i ok) := by
  obtain ⟨cap, file, exported, log⟩ := S
  cases cap with
  | mmap cap =>
      refine ⟨fun j fd ok' hmem => ?_, h.memory⟩
      rcases List.mem_append.mp hmem with hmem | hmem
      · exact h.named j fd ok' hmem
      · simp [Capture.requeueCalls, V4l2Capture.requeue] at hmem
  | dma cap =>
      cases hb : cap.buffers[i]? with
      | none => simpa [Capture.requeueCalls, V4l2CaptureDma.requeue, hb] using h
      | some b =>
          have hcalls : Capture.requeueCalls i ok (.dma cap) =
              [.qbuf i (some b.dmabuf_fd) ok] := by
            simp [Capture.requeueCalls, V4l2CaptureDma.requeue, hb]
          have hshared : (Session.mk (.dma cap) file exported log).shared[i]? =
              some (file b.dmabuf_fd) := by
            rw [Session.shared_getElem?]
            simp [Capture.buffers, hb]
          simp only [hcalls]
          refine ⟨fun j fd ok' hmem => ?_, fun j hj => ?_⟩
          · rcases List.mem_append.mp hmem with hmem | hmem
            · exact h.named j fd ok' hmem
            · simp only [List.mem_singleton, Call.qbuf.injEq, Option.some.injEq] at hmem
              obtain ⟨rfl, rfl, -⟩ := hmem
              exact hshared
          · have hold := h.memory j hj
            simp only [Session.memory, latestFd_append_singleton] at hold ⊢
            by_cases hij : i = j ∧ ok = true
            · obtain ⟨rfl, rfl⟩ := hij
              simpa [Call.namedFd] using hshared
            · have hnone : Call.namedFd j (.qbuf i (some b.dmabuf_fd) ok) = none := by
                cases ok <;> simp_all [Call.namedFd]
              rw [hnone, Option.none_or]
              exact hold

/-- The handshake lists the memory of the indices in order. -/
theorem SameMemory.shared_eq {calls : List Call} (h : SameMemory S calls) :
    S.shared = (List.range S.count).map (S.memory calls) := by
  apply List.ext_getElem?
  intro i
  by_cases hi : i < S.count
  · rw [h.memory i hi]
    simp [hi]
  · rw [List.getElem?_eq_none (by simpa using hi), List.getElem?_eq_none (by simpa using hi)]

/-- Two indices denote different DMA-BUFs. -/
theorem Session.Started.nodup (h : S.Started) : S.shared.Nodup := by
  have hsame := h.sameMemory.shared_eq
  cases h with
  | mmap hok hfile hinj =>
      rw [hsame]
      exact List.nodup_range.map hinj
  | @dma self fds ans file exported hok hnodup =>
      have hfds := (V4l2CaptureDma.start_ok hok).1
      have hmap : Session.shared ⟨.dma (self.start fds ans).obj, file, exported,
          (self.start fds ans).log⟩ =
          ((self.start fds ans).obj.buffers.map (·.dmabuf_fd)).map file := by
        simp [Session.shared, Capture.buffers]
      rw [hmap, hfds]
      exact hnodup

/-! ## What the subscriber looks up -/

/-- The subscriber's descriptors are those of the handshake, and every index on its way
to it is one of theirs. -/
structure Linked (S : Session) (s : State γ) : Prop where
  memory : SameMemory S s.qbufs
  sent : ∀ fds, .handshake fds ∈ s.toSub → fds = S.shared
  fds : s.sub.pc.inSession → s.sub.buf_fds = S.shared
  unread : ∀ i, .idx i ∈ s.toSub → i < S.count
  processing : ∀ i, s.sub.pc.processing = some i → i < S.count

/-- The publisher sends the handshake once and only indices it has dequeued. -/
theorem Linked.pub {a : Publisher.Act} (h : Linked S s) (ho : Owned S s) (hs : PubStep S s a s') :
    Linked S s' := by
  obtain ⟨hmem, hsent, hfds, hunread, hproc⟩ := h
  cases hs with
  | sendHandshake hpc hsock =>
      refine ⟨hmem, fun fds hin => ?_, hfds, fun j hin => ?_, hproc⟩
      · rcases List.mem_append.mp hin with hin | hin
        · exact hsent fds hin
        · simpa using hin
      · rcases List.mem_append.mp hin with hin | hin
        · exact hunread j hin
        · simp at hin
  | handshakeShort n hpc hsock hn | sendIdxShort i n hpc hsock hn =>
      exact ⟨hmem, fun fds hin => hsent fds (by simpa using hin), hfds,
        fun j hin => hunread j (by simpa using hin), hproc⟩
  | sendIdx i hpc hsock =>
      refine ⟨hmem, fun fds hin => ?_, hfds, fun j hin => ?_, hproc⟩
      · rcases List.mem_append.mp hin with hin | hin
        · exact hsent fds hin
        · simp at hin
      · rcases List.mem_append.mp hin with hin | hin
        · exact hunread j hin
        · obtain rfl : j = i := by simpa using hin
          exact ho.held_lt j (by simp [hpc])
  | requeue i hpc | giveBack i hpc => exact ⟨hmem.requeue i true, hsent, hfds, hunread, hproc⟩
  | requeueFailed i hpc | giveBackFailed i hpc =>
      exact ⟨hmem.requeue i false, hsent, hfds, hunread, hproc⟩
  | _ => exact ⟨hmem, hsent, hfds, hunread, hproc⟩

/-- The subscriber takes its descriptors from the handshake and its indices from the
socket. -/
theorem Linked.sub {a : Subscriber.Act DmaBuf} (h : Linked S s) (hs : SubStep s a s') :
    Linked S s' := by
  obtain ⟨hmem, hsent, hfds, hunread, hproc⟩ := h
  cases hs with
  | recvHandshake fds rest hpc hin hmax =>
      refine ⟨hmem, fun fds' h' => hsent fds' ?_, fun _ => hsent fds ?_,
        fun i h' => hunread i ?_, nofun⟩
      · exact hin ▸ List.mem_cons_of_mem _ h'
      · exact hin ▸ List.mem_cons_self
      · exact hin ▸ List.mem_cons_of_mem _ h'
  | recvIdx i rest hpc hin =>
      refine ⟨hmem, fun fds h' => hsent fds ?_, fun _ => hfds (by simp [hpc]),
        fun j h' => hunread j ?_, fun j hj => ?_⟩
      · exact hin ▸ List.mem_cons_of_mem _ h'
      · exact hin ▸ List.mem_cons_of_mem _ h'
      · obtain rfl : i = j := by simpa using hj
        exact hunread i (hin ▸ List.mem_cons_self)
  | dropSock e hpc => exact ⟨hmem, nofun, nofun, nofun, nofun⟩
  | signal | closeRequest => exact ⟨hmem, hsent, hfds, hunread, hproc⟩
  | _ => exact ⟨hmem, hsent, by simp_all, hunread, by simp_all⟩

/-- One step of the pipeline keeps the link. -/
theorem Linked.step (s : State γ) (a : Act γ) (s' : State γ) (h : Owned S s ∧ Linked S s)
    (hs : step S s a = some s') : Owned S s' ∧ Linked S s' := by
  refine ⟨Owned.step s a s' h.1 hs, ?_⟩
  obtain ⟨ho, h⟩ := h
  cases a with
  | pub a => exact h.pub ho (step_pub_iff.mp hs)
  | sub a => exact h.sub (step_sub_iff.mp hs)
  | fill i c =>
      obtain ⟨-, rfl⟩ := step_fill.mp hs
      exact ⟨h.memory, h.sent, h.fds, h.unread, h.processing⟩
  | gpuDone i =>
      obtain ⟨-, rfl⟩ := step_gpuDone.mp hs
      exact ⟨h.memory, h.sent, h.fds, h.unread, h.processing⟩

/-- The link before the first step. -/
theorem Linked.init (hS : S.Started) (content : DmaBuf → γ) : Linked S (State.init S content) :=
  ⟨hS.sameMemory, nofun, nofun, nofun, nofun⟩

/-- **Every lookup of `fds[idx]` succeeds and finds the memory of that index.** -/
theorem Linked.lookup (h : Linked S s) {i : ℕ} (hi : s.sub.pc.processing = some i) :
    s.sub.buf_fds[i]? = some (S.memory s.qbufs i) := by
  have hsess : s.sub.pc.inSession := by
    cases hpc : s.sub.pc <;> simp_all
  rw [h.fds hsess]
  exact h.memory.memory i (h.processing i hi)

/-! ## The frame that is due -/

/-- The index of the frame that has been dequeued and not been drawn. -/
def State.due (s : State γ) : Option ℕ :=
  match s.pub.pc with
  | .sendIdx i => some i
  | .waitForAck i => if s.toPub = 0 ∧ s.sub.pc.drawn = false then some i else none
  | _ => none

/-- While both processes go on, the contents dequeued are the contents drawn and then the
content of the frame that is due. -/
def Undrawn (S : Session) (s : State γ) : Prop :=
  s.pub.pc.leaving = false → s.sub.pc.hasLeft = false →
    s.produced = s.drawn ++ (s.due.bind (S.shared[·]?)).toList.map s.content

/-- The frame that is due is in the hands of the publisher. -/
theorem State.held_of_due {i : ℕ} (h : s.due = some i) : s.pub.pc.held = some i := by
  unfold State.due at h
  split at h
  · rename_i j hpc
    simpa [hpc] using h
  · rename_i j hpc
    split at h
    · simpa [hpc] using h
    · cases h
  · cases h

/-- A step that changes neither log, no content and not the frame that is due. -/
theorem Undrawn.of_eq (h : Undrawn S s) (hput : s'.produced = s.produced)
    (hgot : s'.drawn = s.drawn) (hcontent : s'.content = s.content)
    (hl : s'.pub.pc.leaving = false → s.pub.pc.leaving = false)
    (hu : s'.sub.pc.hasLeft = false → s.sub.pc.hasLeft = false)
    (hdue : s'.pub.pc.leaving = false → s'.sub.pc.hasLeft = false → s'.due = s.due) :
    Undrawn S s' := by
  intro hl' hu'
  rw [hput, hgot, hcontent, hdue hl' hu']
  exact h (hl hl') (hu hu')

/-- The publisher adds a frame at DQBUF, when none is due, and moves on only with it
drawn. -/
theorem Undrawn.pub {a : Publisher.Act} {t : Token} (h : Undrawn S s) (ho : Owned S s)
    (hm : SameMemory S s.qbufs) (hf : Flow S s t) (hs : PubStep S s a s') : Undrawn S s' := by
  cases hs with
  | dequeue i hpc hi =>
      intro _ hu
      have hi : i < S.count := ((ho.queued i).mp hi).1
      have hdue : s.due = none := by simp [State.due, hpc]
      have hlogs := h (by simp [hpc]) hu
      rw [hdue] at hlogs
      simp only [Option.bind_none, Option.toList_none, List.map_nil, List.append_nil] at hlogs
      have hmem := hm.memory i hi
      simp [State.due, hlogs, hmem]
  | sendIdx i hpc hsock =>
      obtain rfl := hf.lent.eq_idle (by simp [hpc]) (by simp [hpc])
      have hproc : s.sub.pc.processing = none := hf.processing
      have hdrawn : s.sub.pc.drawn = false := by
        cases hpc : s.sub.pc <;> simp_all
      refine h.of_eq rfl rfl rfl (by simp [hpc]) id fun _ _ => ?_
      have hold : s.due = some i := by simp [State.due, hpc]
      rw [hold]
      exact if_pos ⟨hf.toPub, hdrawn⟩
  | acked i hpc hack =>
      refine h.of_eq rfl rfl rfl (by simp [hpc]) id fun _ _ => ?_
      have hout : s.toPub ≠ 0 := by omega
      simp [State.due, hpc, hout]
  | prepare hpc | accept hpc | sendHandshake hpc | loopTest hpc | requeue i hpc =>
      exact h.of_eq rfl rfl rfl (by simp [hpc]) id fun _ _ => by simp [State.due, hpc]
  | signal => exact h.of_eq rfl rfl rfl id id fun _ _ => rfl
  | _ => intro hl; simp at hl

/-- What the subscriber is about to draw is the frame that is due. -/
theorem due_of_draw {t : Token} (hf : Flow S s t) (hset : Settled s) {i : ℕ}
    (hpc : s.sub.pc = .draw i) : s.due = some i := by
  have hw := waitForAck_of_image hf hset (i := i) (by simp [hpc])
  obtain rfl := hf.eq_processing (i := i) (by simp [hpc])
  have hout : s.toPub = 0 := hf.toPub
  simp [State.due, hw, hout, hpc]

/-- The subscriber takes the frame that is due at `draw`. -/
theorem Undrawn.sub {a : Subscriber.Act DmaBuf} {t : Token} (h : Undrawn S s) (hk : Linked S s)
    (hf : Flow S s t) (hset : Settled s) (hs : SubStep s a s') : Undrawn S s' := by
  cases hs with
  | draw i d hpc hd =>
      intro hl _
      have hlookup := hk.lookup (i := i) (by simp [hpc])
      obtain rfl : d = S.memory s.qbufs i := Option.some.inj (hd.symm.trans hlookup)
      have hlogs := h hl (by simp [hpc])
      have hw := waitForAck_of_image hf hset (i := i) (by simp [hpc])
      have hshared := hk.memory.memory i (hk.processing i (by simp [hpc]))
      rw [due_of_draw hf hset hpc] at hlogs
      simp only [Option.bind_some, hshared] at hlogs
      simp [State.due, hw, hlogs]
  | sendAck i hpc hopen =>
      refine h.of_eq rfl rfl rfl id (by simp [hpc]) fun hl _ => ?_
      obtain rfl := hf.eq_processing (i := i) (by simp [hpc])
      rcases hf.lent with hw | hleave
      · simp [State.due, hw, hpc]
      · rw [hleave] at hl
        cases hl
  | signal | closeRequest => exact h.of_eq rfl rfl rfl id id fun _ _ => rfl
  | _ => exact h.of_eq rfl rfl rfl id (by simp_all) (by simp_all [State.due])

/-- **The invariant behind fidelity.** -/
structure Pipelined (S : Session) (s : State γ) : Prop where
  nodup : S.shared.Nodup
  owned : Owned S s
  linked : Linked S s
  flow : ∃ t, Flow S s t
  settled : Settled s
  undrawn : Undrawn S s

/-- Two indices have different memory. -/
theorem Pipelined.memory_ne (h : Pipelined S s) {i j : ℕ} (hi : i < S.count) (hj : j < S.count)
    (hne : j ≠ i) : S.memory s.qbufs j ≠ S.memory s.qbufs i := by
  have hnodup := h.linked.memory.shared_eq ▸ h.nodup
  exact fun heq => hne (List.inj_on_of_nodup_map hnodup (List.mem_range.mpr hj)
    (List.mem_range.mpr hi) heq)

/-- The driver never writes into the frame that is due. -/
theorem Undrawn.fill {i : ℕ} {c : γ} (h : Undrawn S s) (hinv : Pipelined S s)
    (hi : i ∈ s.queued) :
    Undrawn S { s with content := Function.update s.content (S.memory s.qbufs i) c } := by
  intro hl hu
  have hlogs := h hl hu
  have hmem := hinv.linked.memory
  have hlt : i < S.count := ((hinv.owned.queued i).mp hi).1
  change s.produced = s.drawn ++ (s.due.bind (S.shared[·]?)).toList.map _
  cases hdue : s.due with
  | none => simpa [hdue] using hlogs
  | some j =>
      have hheld := State.held_of_due hdue
      have hj : j < S.count := hinv.owned.held_lt j hheld
      have hne := hinv.memory_ne hlt hj fun hij =>
        ((hinv.owned.queued i).mp hi).2 (hij ▸ hheld)
      have hshared := hmem.memory j hj
      rw [hdue] at hlogs
      simpa [hshared, Function.update_of_ne hne] using hlogs

/-- One step that obeys the rule for `wait_for_ack` keeps the invariant. -/
theorem Pipelined.step (s : State γ) (a : Act γ) (s' : State γ) (h : Pipelined S s)
    (hC : FailsOnlyWhenDone s a) (hs : step S s a = some s') : Pipelined S s' := by
  obtain ⟨ho, hk⟩ := Linked.step s a s' ⟨h.owned, h.linked⟩ hs
  obtain ⟨hf, hset⟩ := Settled.step s a s' ⟨h.flow, h.settled⟩ hC hs
  refine ⟨h.nodup, ho, hk, hf, hset, ?_⟩
  obtain ⟨t, hflow⟩ := h.flow
  cases a with
  | pub a => exact h.undrawn.pub h.owned h.linked.memory hflow (step_pub_iff.mp hs)
  | sub a => exact h.undrawn.sub h.linked hflow h.settled (step_sub_iff.mp hs)
  | fill i c =>
      obtain ⟨hi, rfl⟩ := step_fill.mp hs
      exact h.undrawn.fill h hi
  | gpuDone i =>
      obtain ⟨-, rfl⟩ := step_gpuDone.mp hs
      exact h.undrawn

/-- The invariant before the first step. -/
theorem Pipelined.init (hS : S.Started) (content : DmaBuf → γ) :
    Pipelined S (State.init S content) where
  nodup := hS.nodup
  owned := owned_run hS (Transition.run_nil _)
  linked := Linked.init hS content
  flow := ⟨.idle, Flow.init S content⟩
  settled := fun hl => by cases hl
  undrawn := fun _ _ => rfl

/-- At `draw` one frame is due, which is the one in the buffer. -/
theorem Pipelined.produced_of_draw (h : Pipelined S s) {i : ℕ} (hpc : s.sub.pc = .draw i) :
    s.produced = s.drawn ++ [s.content (S.memory s.qbufs i)] := by
  obtain ⟨t, hf⟩ := h.flow
  have hl : s.pub.pc.leaving = false := by
    rw [waitForAck_of_image hf h.settled (i := i) (by simp [hpc])]
    rfl
  have hlogs := h.undrawn hl (by simp [hpc])
  have hshared := h.linked.memory.memory i (h.linked.processing i (by simp [hpc]))
  rw [due_of_draw hf h.settled hpc] at hlogs
  rw [Option.bind_some, hshared] at hlogs
  exact hlogs

/-! ## The simulation -/

/-- What a step of the pipeline is for the queue of frames. -/
def fifoOps (S : Session) (s : State γ) : Act γ → List (Fifo.Op γ)
  | .pub (.dequeue (some i)) => [.put (s.content (S.memory s.qbufs i))]
  | .sub (.draw _) => [.get]
  | _ => []

/-- **The pipeline simulates the queue of frames.** -/
theorem fifo_simulation (S : Session) :
    Simulation (step S) (Fifo.step (γ := γ)) FailsOnlyWhenDone
      (fun s t => Pipelined S s ∧ t = ⟨s.produced, s.drawn⟩) (fifoOps S) := by
  constructor
  rintro s t a s' ⟨h, rfl⟩ hC hs
  refine ⟨⟨s'.produced, s'.drawn⟩, ?_, Pipelined.step s a s' h hC hs, rfl⟩
  cases a with
  | pub a => cases step_pub_iff.mp hs <;> rfl
  | sub a =>
      cases step_sub_iff.mp hs with
      | draw i d hpc hd =>
          have hlookup := h.linked.lookup (i := i) (by simp [hpc])
          obtain rfl : d = S.memory s.qbufs i := Option.some.inj (hd.symm.trans hlookup)
          simp [run, fifoOps, Fifo.step, h.produced_of_draw hpc]
      | _ => rfl
  | fill i c =>
      obtain ⟨-, rfl⟩ := step_fill.mp hs
      rfl
  | gpuDone i =>
      obtain ⟨-, rfl⟩ := step_gpuDone.mp hs
      rfl

/-- **End-to-end fidelity of the frames**, in one state. -/
structure Faithful (S : Session) (s : State γ) : Prop where
  /-- The contents drawn are those dequeued, in the same order, with none left out. -/
  frames : s.drawn <+: s.produced
  /-- The subscriber's descriptor for the frame at hand exists and is that index's memory. -/
  lookup : ∀ i, s.sub.pc.processing = some i → s.sub.buf_fds[i]? = some (S.memory s.qbufs i)
  /-- The handshake, the driver and every QBUF agree on the memory of an index. -/
  memory : SameMemory S s.qbufs

/-- **The pipeline is faithful** throughout every run in which `wait_for_ack` fails only
when the subscriber is done with the frame. -/
theorem faithful (hS : S.Started) (content : DmaBuf → γ) (as : List (Act γ))
    (hC : Meets (step S) FailsOnlyWhenDone (State.init S content) as)
    (hrun : run (step S) (State.init S content) as = some s) : Faithful S s := by
  obtain ⟨ops, t, hops, hinv, rfl⟩ :=
    (fifo_simulation S).run (t := {}) ⟨Pipelined.init hS content, rfl⟩ hC hrun
  exact ⟨Fifo.got_prefix hops, fun i hi => hinv.linked.lookup hi, hinv.linked.memory⟩

/-- The run of one frame and a stop is faithful. -/
theorem faithful_stopAfterFirst :
    ∃ s, run (step Session.twoBuffers) (State.init Session.twoBuffers fun d => d)
        stopAfterFirst = some s ∧ s.drawn = [10] ∧ Faithful Session.twoBuffers s := by
  obtain ⟨s, hrun, hdrawn⟩ := Option.map_eq_some_iff.mp
    (by decide : (run (step Session.twoBuffers) (State.init Session.twoBuffers fun d => d)
      stopAfterFirst).map (·.drawn) = some [10])
  exact ⟨s, hrun, hdrawn, faithful Session.twoBuffers_started _ _ (by decide) hrun⟩

/-- After a failed wait the driver writes 99 into the first frame before it is drawn. -/
def overwritten : List (Act ℕ) := failedWait ++ [.fill 0 99, .sub (.draw 0)]

/-- **A failed wait lets the driver change a frame between DQBUF and draw.** -/
theorem not_faithful_overwritten :
    ∃ s, run (step Session.twoBuffers) (State.init Session.twoBuffers fun d => d)
        overwritten = some s ∧ s.produced = [10] ∧ s.drawn = [99] ∧
      ¬ Faithful Session.twoBuffers s := by
  obtain ⟨s, hrun, hs⟩ := Option.map_eq_some_iff.mp
    (by decide : (run (step Session.twoBuffers) (State.init Session.twoBuffers fun d => d)
      overwritten).map (fun s => (s.produced, s.drawn)) = some ([10], [99]))
  obtain ⟨hput, hgot⟩ := Prod.mk.inj hs
  refine ⟨s, hrun, hput, hgot, fun h => ?_⟩
  have hprefix := h.frames
  rw [hput, hgot] at hprefix
  exact absurd hprefix (by decide)

end DmabufPipeline
