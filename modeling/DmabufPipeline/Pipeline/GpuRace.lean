import DmabufPipeline.Pipeline.Fidelity

/-!
# QBUF and the GPU

`draw` only submits a read of the buffer; neither `swap_buffers` nor `destroy_image` nor
anything else on the way to `send_ack` waits for it to complete. So the publisher's QBUF
can overtake the GPU. In the runs where `wait_for_ack` fails only when the subscriber is
done, this is also the only way to a race: the buffer that `draw` submits is lent out.

Where neither happens, the GPU reads what the camera produced, however late it reads.

## Main definitions

* `GpuIdle` — no GPU read of a buffer with the driver is pending.
* `QbufAfterGpu` — a buffer is queued only when the GPU has finished with it.
* `gpuIdle_iff` — the first holds throughout a run iff its steps obey the second.
* `InOrder`, `gpu_reads_frame` — the content of a buffer while the GPU reads it.
-/

namespace DmabufPipeline

open Transition

variable {γ : Type} {S : Session} {s s' : State γ}

/-- No GPU read of a buffer with the driver is pending. -/
def GpuIdle (s : State γ) : Prop := ∀ i ∈ s.gpu, i ∉ s.queued

/-- A QBUF of index `i` succeeds only when no GPU read of buffer `i` is pending. -/
def QbufAfterGpu (s : State γ) : Act γ → Prop
  | .pub (.requeue i true) => i ∉ s.gpu
  | _ => True

instance (s : State γ) (a : Act γ) : Decidable (QbufAfterGpu s a) := by
  unfold QbufAfterGpu
  split <;> infer_instance

/-- The publisher's steps start no race, but for a QBUF. -/
theorem GpuIdle.pub_iff {a : Publisher.Act} (h : GpuIdle s) (ho : Owned S s)
    (hs : PubStep S s a s') : GpuIdle s' ↔ QbufAfterGpu s (.pub a) := by
  cases hs with
  | dequeue i hpc hi =>
      refine iff_of_true (fun j hj hq => ?_) trivial
      exact h j hj (Finset.mem_of_mem_erase hq)
  | requeue i hpc | giveBack i hpc =>
      have hqueued := S.cap.queuedBy_requeueCalls_true (ho.held_lt i (by simp [hpc]))
      constructor
      · intro h' hi
        exact h' i hi (Finset.mem_union_right _ (hqueued ▸ Finset.mem_singleton_self i))
      · intro hi j hj hq
        rcases Finset.mem_union.mp hq with hq | hq
        · exact h j hj hq
        · rw [hqueued, Finset.mem_singleton] at hq
          exact hi (hq ▸ hj)
  | _ => exact iff_of_true h trivial

/-- The subscriber submits only reads of the buffer that is lent to it. -/
theorem GpuIdle.sub {a : Subscriber.Act DmaBuf} (h : GpuIdle s) (hinv : Pipelined S s)
    (hs : SubStep s a s') : GpuIdle s' := by
  cases hs with
  | draw i d hpc hd =>
      obtain ⟨t, hf⟩ := hinv.flow
      have hw := waitForAck_of_image hf hinv.settled (i := i) (by simp [hpc])
      intro j hj hq
      rcases List.mem_append.mp hj with hj | hj
      · exact h j hj hq
      · obtain rfl : j = i := by simpa using hj
        exact ((hinv.owned.queued j).mp hq).2 (by simp [hw])
  | _ => exact h

/-- Of all steps, only a QBUF that overtakes the GPU starts a race. -/
theorem GpuIdle.step_iff (s : State γ) (a : Act γ) (s' : State γ) (hinv : Pipelined S s)
    (h : GpuIdle s) (hs : step S s a = some s') : GpuIdle s' ↔ QbufAfterGpu s a := by
  cases a with
  | pub a => exact h.pub_iff hinv.owned (step_pub_iff.mp hs)
  | sub a => exact iff_of_true (h.sub hinv (step_sub_iff.mp hs)) trivial
  | fill i c =>
      obtain ⟨-, rfl⟩ := step_fill.mp hs
      exact iff_of_true h trivial
  | gpuDone i =>
      obtain ⟨-, rfl⟩ := step_gpuDone.mp hs
      exact iff_of_true (fun j hj => h j (List.mem_of_mem_erase hj)) trivial

/-- **QBUF races the GPU exactly when it overtakes it**: where `wait_for_ack` fails only
when the subscriber is done with the frame, the GPU never reads a buffer that is with the
driver, throughout a run, iff the GPU has finished with each buffer at its QBUF. -/
theorem gpuIdle_iff (hS : S.Started) (content : DmaBuf → γ) (as : List (Act γ))
    (hC : Meets (step S) FailsOnlyWhenDone (State.init S content) as)
    (hrun : run (step S) (State.init S content) as = some s) :
    Always (step S) GpuIdle (State.init S content) as ↔
      Meets (step S) QbufAfterGpu (State.init S content) as :=
  always_iff_meets Pipelined.step
    (fun s a s' hinv _ h hs => GpuIdle.step_iff s a s' hinv h hs)
    (Pipelined.init hS content) nofun hC hrun

/-! ## What the GPU reads -/

/-- `wait_for_ack` fails only when the subscriber is done with the frame, and a buffer is
queued only when the GPU has finished with it. -/
def InOrder (s : State γ) (a : Act γ) : Prop := FailsOnlyWhenDone s a ∧ QbufAfterGpu s a

instance [DecidableEq γ] (s : State γ) (a : Act γ) : Decidable (InOrder s a) :=
  inferInstanceAs (Decidable (_ ∧ _))

/-- A read of buffer `i` is pending, whose DMA-BUF `d` has the content `c`. -/
structure Reading (S : Session) (i : ℕ) (d : DmaBuf) (c : γ) (s : State γ) : Prop where
  pending : i ∈ s.gpu
  shared : S.shared[i]? = some d
  content : s.content d = c

/-- Nothing changes the content of a buffer while the GPU reads it. -/
theorem Reading.step {i : ℕ} {d : DmaBuf} {c : γ} {a : Act γ} (h : Reading S i d c s)
    (hinv : Pipelined S s) (hidle : GpuIdle s) (ha : a ≠ .gpuDone i)
    (hs : step S s a = some s') : Reading S i d c s' := by
  obtain ⟨hpending, hshared, hcontent⟩ := h
  cases a with
  | pub a => cases step_pub_iff.mp hs <;> exact ⟨hpending, hshared, hcontent⟩
  | sub a =>
      cases step_sub_iff.mp hs with
      | draw j d' hpc hd => exact ⟨List.mem_append_left _ hpending, hshared, hcontent⟩
      | _ => exact ⟨hpending, hshared, hcontent⟩
  | fill j v =>
      obtain ⟨hj, rfl⟩ := step_fill.mp hs
      refine ⟨hpending, hshared, ?_⟩
      have hi : i < S.count := by
        rw [← S.length_shared]
        exact (List.getElem?_eq_some_iff.mp hshared).1
      have hmem := hinv.linked.memory.memory i hi
      obtain rfl := Option.some.inj (hshared.symm.trans hmem)
      -- The driver writes into a queued buffer, and this one is not.
      have hne := hinv.memory_ne ((hinv.owned.queued j).mp hj).1 hi fun hij =>
        hidle i hpending (hij ▸ hj)
      exact (Function.update_of_ne hne _ _).trans hcontent
  | gpuDone j =>
      obtain ⟨-, rfl⟩ := step_gpuDone.mp hs
      have hne : i ≠ j := fun hij => ha (hij ▸ rfl)
      exact ⟨(List.mem_erase_of_ne hne).mpr hpending, hshared, hcontent⟩

/-- One step in order keeps the invariants of fidelity and of the GPU. -/
theorem GpuIdle.step (s : State γ) (a : Act γ) (s' : State γ) (h : Pipelined S s ∧ GpuIdle s)
    (hC : InOrder s a) (hs : step S s a = some s') : Pipelined S s' ∧ GpuIdle s' :=
  ⟨Pipelined.step s a s' h.1 hC.1 hs, (GpuIdle.step_iff s a s' h.1 h.2 hs).mpr hC.2⟩

/-- Until the read completes. -/
theorem Reading.run {i : ℕ} {d : DmaBuf} {c : γ} {bs : List (Act γ)} (h : Reading S i d c s)
    (hinv : Pipelined S s ∧ GpuIdle s) (hC : Meets (DmabufPipeline.step S) InOrder s bs)
    (hpending : .gpuDone i ∉ bs) (hrun : Transition.run (DmabufPipeline.step S) s bs = some s') :
    Reading S i d c s' := by
  induction bs generalizing s with
  | nil =>
      simp only [run_nil, Option.some.injEq] at hrun
      exact hrun ▸ h
  | cons a bs ih =>
      obtain ⟨r, hr, hrun⟩ := run_cons_eq_some.mp hrun
      rw [List.mem_cons, not_or] at hpending
      exact ih (h.step hinv.1 hinv.2 (Ne.symm hpending.1) hr) (GpuIdle.step s a r hinv hC.1 hr)
        (hC.2 r hr) hpending.2 hrun

/-- **The GPU reads the frame that the camera produced**: in a run in order, from the `draw`
of a buffer until the GPU has read it, the content is that of the frame of the same number
that `dequeue` returned. -/
theorem gpu_reads_frame (hS : S.Started) (content : DmaBuf → γ) {as bs : List (Act γ)} {i : ℕ}
    (hC : Meets (step S) InOrder (State.init S content) as)
    (hrun : run (step S) (State.init S content) as = some s)
    (hC' : Meets (step S) InOrder s (.sub (.draw i) :: bs)) (hpending : .gpuDone i ∉ bs)
    (hrun' : run (step S) s (.sub (.draw i) :: bs) = some s') :
    ∃ d, s.sub.buf_fds[i]? = some d ∧ s.produced[s.drawn.length]? = some (s'.content d) := by
  have hinv := run_induction_of_meets GpuIdle.step ⟨Pipelined.init hS content, nofun⟩ hC hrun
  obtain ⟨r, hr, hrun'⟩ := run_cons_eq_some.mp hrun'
  have hinv' := GpuIdle.step s _ r hinv hC'.1 hr
  cases step_sub_iff.mp hr with
  | draw _ d hpc hd =>
      -- The read that this step submits.
      have hlookup := hinv.1.linked.lookup (i := i) (by simp [hpc])
      obtain rfl : d = S.memory s.qbufs i := Option.some.inj (hd.symm.trans hlookup)
      have hlt := hinv.1.linked.processing i (by simp [hpc])
      have hend := Reading.run ⟨List.mem_append_right _ List.mem_cons_self,
        hinv.1.linked.memory.memory i hlt, rfl⟩ hinv' (hC'.2 _ hr) hpending hrun'
      refine ⟨_, hd, ?_⟩
      rw [hinv.1.produced_of_draw hpc, hend.content]
      simp

/-- A frame whose read completes between the acknowledgement and the QBUF. -/
theorem gpuIdle_gpuDone :
    Always (step Session.twoBuffers) GpuIdle (State.init Session.twoBuffers fun _ => 0)
      (firstImage ++ drawAndAck ++
        [.pub (.waitForAck true), .gpuDone 0, .pub (.requeue 0 true)]) := by
  obtain ⟨s, hrun⟩ := Option.isSome_iff_exists.mp
    (by decide : (run (step Session.twoBuffers) (State.init Session.twoBuffers fun _ => 0)
      (firstImage ++ drawAndAck ++
        [.pub (.waitForAck true), .gpuDone 0, .pub (.requeue 0 true)])).isSome)
  exact (gpuIdle_iff Session.twoBuffers_started _ _ (by decide) hrun).mpr (by decide)

/-- **The acknowledgement does not wait for the GPU**: the first frame is acknowledged and
its buffer queued with the read of `draw` still pending. -/
theorem not_gpuIdle_ackBeforeGpu :
    ∃ s, run (step Session.twoBuffers) (State.init Session.twoBuffers fun _ => 0)
        (firstImage ++ drawAndAck ++ [.pub (.waitForAck true), .pub (.requeue 0 true)]) =
          some s ∧ s.gpu = [0] ∧ 0 ∈ s.queued ∧ ¬ GpuIdle s := by
  obtain ⟨s, hrun, hs⟩ := Option.map_eq_some_iff.mp
    (by decide : (run (step Session.twoBuffers) (State.init Session.twoBuffers fun _ => 0)
      (firstImage ++ drawAndAck ++ [.pub (.waitForAck true), .pub (.requeue 0 true)])).map
        (fun s => (s.gpu, decide (0 ∈ s.queued))) = some ([0], true))
  obtain ⟨hgpu, hq⟩ := Prod.mk.inj hs
  have hq : 0 ∈ s.queued := of_decide_eq_true hq
  exact ⟨s, hrun, hgpu, hq, fun h => h 0 (by simp [hgpu]) hq⟩

end DmabufPipeline
