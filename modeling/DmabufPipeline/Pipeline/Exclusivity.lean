import DmabufPipeline.Pipeline.Lockstep

/-!
# Exclusive use of the buffers

Each buffer is with the driver or with the publisher, whatever fails: that is `Owned`.
That no buffer is with the driver while the subscriber has an image of it needs more,
because `main` of the publisher queues the buffer again whenever `wait_for_ack` fails,
and a failed `recv` says nothing about the subscriber. `FailsOnlyWhenDone` is the rule
that makes the failure harmless: the subscriber is done with the frame. End of stream
obeys it, because the subscriber's socket closes after everything else.

## Main definitions

* `State.frameInUse` — the subscriber has still to import, draw or release the frame.
* `FailsOnlyWhenDone` — the rule for failures of `wait_for_ack`.
* `Exclusive` — ownership, no image of a queued buffer, and everything given back.
* `exclusive` — it holds throughout every run that obeys the rule.
* `failsOnlyWhenDone_of_peerClosed` — failures at end of stream alone obey it.
-/

namespace DmabufPipeline

open Transition

variable {γ : Type} {S : Session} {s s' : State γ}

/-- The subscriber is in its session and the frame under way is still to be imported,
drawn or released. -/
def State.frameInUse (s : State γ) : Prop :=
  s.sub.pc.hasLeft = false ∧ (s.toSub.any Packet.isIdx = true ∨ s.sub.pc.inUse.isSome)

instance (s : State γ) : Decidable s.frameInUse := inferInstanceAs (Decidable (_ ∧ _))

/-- `wait_for_ack` fails only when the subscriber is done with the frame. -/
def FailsOnlyWhenDone (s : State γ) (a : Act γ) : Prop :=
  a = .pub (.waitForAck false) → ¬ s.frameInUse

instance [DecidableEq γ] (s : State γ) (a : Act γ) : Decidable (FailsOnlyWhenDone s a) :=
  inferInstanceAs (Decidable (_ → _))

/-- **Exclusive use of the buffers**, in the state `s` at the end of the steps `as`. -/
structure Exclusive (S : Session) (as : List (Act γ)) (s : State γ) : Prop where
  /-- Each buffer is with the driver or held by the publisher, never both, never neither. -/
  conserved : ∀ i, i < S.count → (i ∈ s.queued ↔ ¬ s.pub.pc.held = some i)
  only : ∀ i ∈ s.queued, i < S.count
  image_kept : ∀ i, s.sub.pc.image = some i → i ∉ s.queued
  image_first : s.sub.pc.image ≠ none → ∀ f, s.pub.pc ≠ .teardown f
  /-- Past the loop, every buffer is back unless its own QBUF failed. -/
  given_back : s.pub.pc.hasLeft → ∀ i < S.count, i ∈ s.queued ∨ .pub (.requeue i false) ∈ as

/-- A frame in use is unread or being processed. -/
theorem Flow.of_frameInUse {t : Token} (h : Flow S s t) (hu : s.frameInUse) :
    ∃ i, t = .unread i ∨ t = .processing i := by
  obtain ⟨-, hidx | huse⟩ := hu
  · obtain ⟨hs, hin, rfl | ⟨rfl, -⟩⟩ := h.toSub <;> rw [hin] at hidx
    all_goals
      cases t with
      | unread i | processing i => exact ⟨i, by simp⟩
      | idle | acked | torn => simp [Token.tail, Packet.isIdx] at hidx
  · obtain ⟨i, hi⟩ := Option.isSome_iff_exists.mp huse
    have hproc : s.sub.pc.processing = some i := by
      cases hpc : s.sub.pc <;> simp_all
    exact ⟨i, .inr (h.eq_processing hproc)⟩

/-- The subscriber alone never brings a frame back into use. -/
theorem frameInUse_of_subStep {a : Subscriber.Act DmaBuf} (hs : SubStep s a s')
    (hu : s'.frameInUse) : s.frameInUse := by
  obtain ⟨hl, hu⟩ := hu
  cases hs with
  | recvIdx i rest hpc hin =>
      refine ⟨by simp [hpc], .inl ?_⟩
      simp [hin, Packet.isIdx]
  | recvHandshake fds rest hpc hin hmax =>
      refine ⟨by simp [hpc], .inl ?_⟩
      simpa [hin, Packet.isIdx] using hu
  | draw i d hpc | swapBuffers i hpc | importDmabuf i hpc =>
      exact ⟨by simp [hpc], .inr (by simp [hpc])⟩
  | signal | closeRequest => exact ⟨hl, hu⟩
  | _ => simp_all [State.frameInUse]

/-- A publisher on its way out, which gives the buffer back, has no frame in use. -/
def Settled (s : State γ) : Prop := s.pub.pc.leaving → ¬ s.frameInUse

/-- The publisher's steps settle the frame before it is given back, if `wait_for_ack`
obeys the rule. -/
theorem Settled.pub {a : Publisher.Act} {t : Token} (h : Settled s) (hf : Flow S s t)
    (hC : FailsOnlyWhenDone s (.pub a)) (hs : PubStep S s a s') : Settled s' := by
  intro hl hu
  have hidle : (∀ i, s.pub.pc ≠ .waitForAck i) → s.pub.pc.leaving = false → ¬ s.frameInUse := by
    intro hw hl hu
    obtain rfl := hf.lent.eq_idle hw hl
    obtain ⟨i, ht | ht⟩ := hf.of_frameInUse hu <;> cases ht
  cases hs with
  | waitFailed i hpc => exact hC rfl hu
  | handshakeShort n hpc | sendIdxShort i n hpc =>
      refine hidle (by simp [hpc]) (by simp [hpc]) ⟨hu.1, ?_⟩
      simpa [Packet.isIdx] using hu.2
  | giveBack i hpc | giveBackFailed i hpc | dropClient f hpc | dropCapture f hpc =>
      exact h (by simp [hpc]) hu
  | signal => exact h hl hu
  | prepareFailed hpc | acceptFailed hpc | handshakeFailed hpc | stop hpc | dequeueFailed hpc =>
      exact hidle (by simp [hpc]) (by simp [hpc]) hu
  | sendIdxFailed i hpc | requeueFailed i hpc => exact hidle (by simp [hpc]) (by simp [hpc]) hu
  | _ => simp at hl

/-- One step of the pipeline that obeys the rule keeps what exclusive use rests on. -/
theorem Settled.step (s : State γ) (a : Act γ) (s' : State γ)
    (h : (∃ t, Flow S s t) ∧ Settled s) (hC : FailsOnlyWhenDone s a)
    (hs : step S s a = some s') : (∃ t, Flow S s' t) ∧ Settled s' := by
  refine ⟨Flow.step s a s' h.1 hs, ?_⟩
  obtain ⟨⟨t, hf⟩, h⟩ := h
  cases a with
  | pub a => exact h.pub hf hC (step_pub_iff.mp hs)
  | sub a =>
      have hs := step_sub_iff.mp hs
      have hpub : s'.pub = s.pub := by cases hs <;> rfl
      intro hl hu
      rw [hpub] at hl
      exact h hl (frameInUse_of_subStep hs hu)
  | fill i c =>
      obtain ⟨-, rfl⟩ := step_fill.mp hs
      exact h
  | gpuDone i =>
      obtain ⟨-, rfl⟩ := step_gpuDone.mp hs
      exact h

/-- A frame in use at the end of a run that obeys the rule is out with the publisher
waiting for it. -/
theorem settled_run {content : DmaBuf → γ} {as : List (Act γ)}
    (hC : Meets (step S) FailsOnlyWhenDone (State.init S content) as)
    (hrun : run (step S) (State.init S content) as = some s) :
    (∃ t, Flow S s t) ∧ Settled s :=
  run_induction_of_meets Settled.step ⟨⟨.idle, Flow.init S content⟩, fun hl => by cases hl⟩ hC hrun

/-- Whoever reads index `i` as lent out finds the publisher waiting for that index. -/
theorem waitForAck_of_image {t : Token} (hf : Flow S s t) (h : Settled s) {i : ℕ}
    (hi : s.sub.pc.image = some i) : s.pub.pc = .waitForAck i := by
  have hproc : s.sub.pc.processing = some i := by
    cases hpc : s.sub.pc <;> simp_all
  obtain rfl := hf.eq_processing hproc
  rcases hf.lent with hw | hl
  · exact hw
  · refine absurd ⟨?_, .inr ?_⟩ (h hl) <;> cases hpc : s.sub.pc <;> simp_all

/-- A buffer missing at the end was lost by a failed QBUF. -/
theorem requeue_failed_of_left {content : DmaBuf → γ} {as : List (Act γ)} {i : ℕ}
    (hrun : run (step S) (State.init S content) as = some s) (hl : s.pub.pc.hasLeft)
    (hi : s.pub.pc.held = some i) : .pub (.requeue i false) ∈ as := by
  refine mem_of_run (Q := fun s => s.pub.pc.hasLeft ∧ s.pub.pc.held = some i) ?_ hrun
    (by simp [State.init]) ⟨hl, hi⟩
  intro s a s' hs hQ
  cases a with
  | pub a =>
      cases step_pub_iff.mp hs with
      | requeueFailed j hpc | giveBackFailed j hpc =>
          obtain rfl : j = i := by simpa using hQ.2
          exact .inr rfl
      | signal => exact .inl hQ
      | dropClient f hpc | dropCapture f hpc =>
          exact .inl ⟨by simp [hpc], by simpa [hpc] using hQ.2⟩
      | _ => simp at hQ
  | sub a => exact .inl (by cases step_sub_iff.mp hs <;> exact hQ)
  | fill j c =>
      obtain ⟨-, rfl⟩ := step_fill.mp hs
      exact .inl hQ
  | gpuDone j =>
      obtain ⟨-, rfl⟩ := step_gpuDone.mp hs
      exact .inl hQ

/-- **Exclusive use of the buffers** holds throughout every run in which `wait_for_ack`
fails only when the subscriber is done with the frame. -/
theorem exclusive (hS : S.Started) (content : DmaBuf → γ) (as : List (Act γ))
    (hC : Meets (step S) FailsOnlyWhenDone (State.init S content) as)
    (hrun : run (step S) (State.init S content) as = some s) : Exclusive S as s := by
  have howned := owned_run hS hrun
  obtain ⟨⟨t, hf⟩, hsettled⟩ := settled_run hC hrun
  refine ⟨?_, ?_, ?_, ?_, ?_⟩
  · intro i hi
    rw [howned.queued]
    simp [hi]
  · exact fun i hi => ((howned.queued i).mp hi).1
  · intro i himg hq
    have hw := waitForAck_of_image hf hsettled himg
    exact ((howned.queued i).mp hq).2 (by simp [hw])
  · intro himg f hpc
    obtain ⟨i, himg⟩ := Option.ne_none_iff_exists'.mp himg
    have hw := waitForAck_of_image hf hsettled himg
    rw [hpc] at hw
    cases hw
  · intro hl i hi
    by_cases hheld : s.pub.pc.held = some i
    · exact .inr (requeue_failed_of_left hrun hl hheld)
    · exact .inl ((howned.queued i).mpr ⟨hi, hheld⟩)

/-- One frame is drawn, the subscriber stops and closes, and the publisher learns it from
the second frame's `wait_for_ack`. -/
def stopAfterFirst : List (Act ℕ) :=
  firstImage ++ drawAndAck ++
    [.sub .signal, .pub (.waitForAck true), .pub (.requeue 0 true), .pub .loopTest,
      .pub (.dequeue (some 1)), .pub (.sendIdx 1 .ok), .sub (.dispatchPending true),
      .sub .loopTest, .sub .dropSession, .sub .dropSock, .pub (.waitForAck false),
      .pub (.requeue 1 true)]

/-- A wait that fails because the subscriber has closed its socket obeys the rule. -/
theorem exclusive_stopAfterFirst :
    ∃ s, run (step Session.twoBuffers) (State.init Session.twoBuffers fun _ => 0)
        stopAfterFirst = some s ∧ s.pub.pc = .left none ∧
      Exclusive Session.twoBuffers stopAfterFirst s := by
  obtain ⟨s, hrun, hpc⟩ := Option.map_eq_some_iff.mp
    (by decide : (run (step Session.twoBuffers) (State.init Session.twoBuffers fun _ => 0)
      stopAfterFirst).map (·.pub.pc) = some (.left none))
  exact ⟨s, hrun, hpc, exclusive Session.twoBuffers_started _ _ (by decide) hrun⟩

/-- The subscriber has an image of the first frame when `wait_for_ack` fails. -/
def failedWait : List (Act ℕ) :=
  firstImage ++ [.pub (.waitForAck false), .pub (.requeue 0 true)]

/-- **A failed wait gives the buffer of a live image to the driver.** -/
theorem not_exclusive_failedWait :
    ∃ s, run (step Session.twoBuffers) (State.init Session.twoBuffers fun _ => 0)
        failedWait = some s ∧ s.sub.pc.image = some 0 ∧ 0 ∈ s.queued ∧
      ¬ Exclusive Session.twoBuffers failedWait s := by
  obtain ⟨s, hrun, hs⟩ := Option.map_eq_some_iff.mp
    (by decide : (run (step Session.twoBuffers) (State.init Session.twoBuffers fun _ => 0)
      failedWait).map (fun s => (s.sub.pc.image, decide (0 ∈ s.queued))) = some (some 0, true))
  obtain ⟨himg, hq⟩ := Prod.mk.inj hs
  have hq : 0 ∈ s.queued := of_decide_eq_true hq
  exact ⟨s, hrun, himg, hq, fun h => h.image_kept 0 himg hq⟩

/-! ## End of stream obeys the rule -/

/-- The connection was made and the subscriber's end of it is closed. -/
def State.peerClosed (s : State γ) : Prop := s.connected = true ∧ s.sub.sock = false

/-- A subscriber step closes the socket only past the loop. -/
theorem hasLeft_of_peerClosed_step {a : Subscriber.Act DmaBuf}
    (h : s.peerClosed → s.sub.pc.hasLeft) (hs : SubStep s a s') :
    s'.peerClosed → s'.sub.pc.hasLeft := by
  cases hs with
  | connect hpc hpub hconn => rintro ⟨-, hsock⟩; cases hsock
  | dropSock e hpc => exact fun _ => rfl
  | signal | closeRequest => exact h
  | _ => simp_all [State.peerClosed]

/-- **End of stream is harmless**: a run in which `wait_for_ack` fails only once the
subscriber's end of the connection is closed obeys the rule, because the subscriber closes
it after everything else. -/
theorem failsOnlyWhenDone_of_peerClosed {content : DmaBuf → γ} {as : List (Act γ)}
    (h : Meets (step S) (fun s a => a = .pub (.waitForAck false) → s.peerClosed)
      (State.init S content) as) :
    Meets (step S) FailsOnlyWhenDone (State.init S content) as := by
  refine h.of_invariant (I := fun s => s.peerClosed → s.sub.pc.hasLeft) ?_ ?_ ?_
  · intro s a s' hinv hs
    cases a with
    | pub a => cases step_pub_iff.mp hs <;> exact hinv
    | sub a => exact hasLeft_of_peerClosed_step hinv (step_sub_iff.mp hs)
    | fill i c =>
        obtain ⟨-, rfl⟩ := step_fill.mp hs
        exact hinv
    | gpuDone i =>
        obtain ⟨-, rfl⟩ := step_gpuDone.mp hs
        exact hinv
  · intro s a hinv hclosed ha huse
    have hleft := hinv (hclosed ha)
    rw [huse.1] at hleft
    cases hleft
  · rintro ⟨hconn, -⟩
    cases hconn

end DmabufPipeline
