import DmabufPipeline.Pipeline.System

/-!
# What one step of the pipeline can be

The step function composes a process's own step with its effect on the rest. Every
invariant of the pipeline needs the same case analysis of that composition, so it is
done once here: `PubStep` and `SubStep` list the steps with all their guards, and
`step_pub_iff` and `step_sub_iff` say that the lists are exact.

## Main definitions

* `PubStep`, `SubStep` — the steps of the two processes within the pipeline.
* `step_pub_iff`, `step_sub_iff` — they are the step function.
-/

namespace DmabufPipeline

variable {γ : Type} {S : Session} {s s' : State γ}

/-- A step of the publisher within the pipeline. -/
inductive PubStep (S : Session) (s : State γ) : Publisher.Act → State γ → Prop
  | prepare (hpc : s.pub.pc = .prepare) :
      PubStep S s (.prepare true) { s with pub := s.pub.goto .accept }
  | prepareFailed (hpc : s.pub.pc = .prepare) :
      PubStep S s (.prepare false) { s with pub := s.pub.goto (.left none) }
  | accept (hpc : s.pub.pc = .accept) (hconn : s.connected = true) :
      PubStep S s (.accept true) { s with pub := s.pub.goto .sendHandshake }
  | acceptFailed (hpc : s.pub.pc = .accept) :
      PubStep S s (.accept false) { s with pub := s.pub.goto (.left none) }
  | sendHandshake (hpc : s.pub.pc = .sendHandshake) (hsock : s.sub.sock = true) :
      PubStep S s (.sendHandshake .ok)
        { s with pub := s.pub.goto .loopTest, toSub := s.toSub ++ [.handshake S.shared] }
  | handshakeFailed (hpc : s.pub.pc = .sendHandshake) :
      PubStep S s (.sendHandshake .err) { s with pub := s.pub.goto (.left none) }
  | handshakeShort (n : ℕ) (hpc : s.pub.pc = .sendHandshake) (hsock : s.sub.sock = true)
      (hn : n < handshakeSize) :
      PubStep S s (.sendHandshake (.short n))
        { s with pub := s.pub.goto (.left none), toSub := s.toSub ++ [.torn n] }
  | loopTest (hpc : s.pub.pc = .loopTest) (hrun : s.pub.running = true) :
      PubStep S s .loopTest { s with pub := s.pub.goto .dequeue }
  | stop (hpc : s.pub.pc = .loopTest) (hrun : s.pub.running = false) :
      PubStep S s .loopTest { s with pub := s.pub.goto (.left none) }
  | dequeue (i : ℕ) (hpc : s.pub.pc = .dequeue) (hi : i ∈ s.queued) :
      PubStep S s (.dequeue (some i))
        { s with
          pub := s.pub.goto (.sendIdx i)
          queued := s.queued.erase i
          produced := s.produced ++ [s.content (S.memory s.qbufs i)] }
  | dequeueFailed (hpc : s.pub.pc = .dequeue) :
      PubStep S s (.dequeue none) { s with pub := s.pub.goto (.left none) }
  | sendIdx (i : ℕ) (hpc : s.pub.pc = .sendIdx i) (hsock : s.sub.sock = true) :
      PubStep S s (.sendIdx i .ok)
        { s with pub := s.pub.goto (.waitForAck i), toSub := s.toSub ++ [.idx i] }
  | sendIdxFailed (i : ℕ) (hpc : s.pub.pc = .sendIdx i) :
      PubStep S s (.sendIdx i .err) { s with pub := s.pub.goto (.requeueAndBreak i) }
  | sendIdxShort (i n : ℕ) (hpc : s.pub.pc = .sendIdx i) (hsock : s.sub.sock = true)
      (hn : n < 4) :
      PubStep S s (.sendIdx i (.short n))
        { s with pub := s.pub.goto (.requeueAndBreak i), toSub := s.toSub ++ [.torn n] }
  | acked (i : ℕ) (hpc : s.pub.pc = .waitForAck i) (hack : 0 < s.toPub) :
      PubStep S s (.waitForAck true)
        { s with pub := s.pub.goto (.requeue i), toPub := s.toPub - 1 }
  | waitFailed (i : ℕ) (hpc : s.pub.pc = .waitForAck i) :
      PubStep S s (.waitForAck false) { s with pub := s.pub.goto (.requeueAndBreak i) }
  | requeue (i : ℕ) (hpc : s.pub.pc = .requeue i) :
      PubStep S s (.requeue i true)
        { s with
          pub := s.pub.goto .loopTest
          queued := s.queued ∪ queuedBy (S.cap.requeueCalls i true)
          qbufs := s.qbufs ++ S.cap.requeueCalls i true }
  | requeueFailed (i : ℕ) (hpc : s.pub.pc = .requeue i) :
      PubStep S s (.requeue i false)
        { s with
          pub := s.pub.goto (.left (some i))
          qbufs := s.qbufs ++ S.cap.requeueCalls i false }
  | giveBack (i : ℕ) (hpc : s.pub.pc = .requeueAndBreak i) :
      PubStep S s (.requeue i true)
        { s with
          pub := s.pub.goto (.left none)
          queued := s.queued ∪ queuedBy (S.cap.requeueCalls i true)
          qbufs := s.qbufs ++ S.cap.requeueCalls i true }
  | giveBackFailed (i : ℕ) (hpc : s.pub.pc = .requeueAndBreak i) :
      PubStep S s (.requeue i false)
        { s with
          pub := s.pub.goto (.left (some i))
          qbufs := s.qbufs ++ S.cap.requeueCalls i false }
  | dropClient (f : Option ℕ) (hpc : s.pub.pc = .left f) :
      PubStep S s .dropClient { s with pub := s.pub.goto (.clientClosed f), toPub := 0 }
  | dropCapture (f : Option ℕ) (hpc : s.pub.pc = .clientClosed f) :
      PubStep S s .dropCapture { s with pub := s.pub.goto (.teardown f) }
  | signal : PubStep S s .signal { s with pub := { s.pub with running := false } }

/-- A step of the subscriber within the pipeline. -/
inductive SubStep (s : State γ) : Subscriber.Act DmaBuf → State γ → Prop
  | connect (hpc : s.sub.pc = .connect) (hpub : s.pub.pc = .accept) (hconn : s.connected = false) :
      SubStep s (.connect true)
        { s with sub := { s.sub.goto .recvHandshake with sock := true }, connected := true }
  | connectFailed (hpc : s.sub.pc = .connect) :
      SubStep s (.connect false) { s with sub := s.sub.goto (.left .connectFailed) }
  | recvHandshake (fds : List DmaBuf) (rest : List Packet) (hpc : s.sub.pc = .recvHandshake)
      (hin : s.toSub = .handshake fds :: rest) (hmax : fds.length ≤ kMaxFds) :
      SubStep s (.recvHandshake (some fds))
        { s with sub := { s.sub.goto .setup with buf_fds := fds }, toSub := rest }
  | handshakeFailed (hpc : s.sub.pc = .recvHandshake) :
      SubStep s (.recvHandshake none) { s with sub := s.sub.goto (.left .handshakeFailed) }
  | setup (hpc : s.sub.pc = .setup) :
      SubStep s (.setup true) { s with sub := s.sub.goto .loopTest }
  | setupFailed (hpc : s.sub.pc = .setup) :
      SubStep s (.setup false) { s with sub := s.sub.goto (.left .setupFailed) }
  | loopTest (hpc : s.sub.pc = .loopTest)
      (hrun : (s.sub.running && !s.sub.should_close) = true) :
      SubStep s .loopTest { s with sub := s.sub.goto .recvIdx }
  | stop (hpc : s.sub.pc = .loopTest)
      (hrun : (s.sub.running && !s.sub.should_close) = false) :
      SubStep s .loopTest { s with sub := s.sub.goto (.left .stopped) }
  | recvIdx (i : ℕ) (rest : List Packet) (hpc : s.sub.pc = .recvIdx)
      (hin : s.toSub = .idx i :: rest) :
      SubStep s (.recvIdx (.idx i)) { s with sub := s.sub.goto (.importDmabuf i), toSub := rest }
  | peerClosed (hpc : s.sub.pc = .recvIdx) (hin : s.toSub = []) (hopen : s.pubOpen = false) :
      SubStep s (.recvIdx .peerClosed) { s with sub := s.sub.goto (.left .peerClosed) }
  | recvErr (hpc : s.sub.pc = .recvIdx) :
      SubStep s (.recvIdx .err) { s with sub := s.sub.goto (.left .recvErr) }
  | importDmabuf (i : ℕ) (hpc : s.sub.pc = .importDmabuf i) (hi : i < s.sub.buf_fds.length) :
      SubStep s (.importDmabuf i .image) { s with sub := s.sub.goto (.draw i) }
  | importFailed (i : ℕ) (hpc : s.sub.pc = .importDmabuf i) (hi : i < s.sub.buf_fds.length) :
      SubStep s (.importDmabuf i .noImage) { s with sub := s.sub.goto (.left .importFailed) }
  | overflow (i : ℕ) (hpc : s.sub.pc = .importDmabuf i) (hi : i < s.sub.buf_fds.length) :
      SubStep s (.importDmabuf i .overflow) { s with sub := s.sub.goto (.left .overflow) }
  | outOfBounds (i : ℕ) (r : ImportResult) (hpc : s.sub.pc = .importDmabuf i)
      (hi : ¬ i < s.sub.buf_fds.length) :
      SubStep s (.importDmabuf i r) { s with sub := s.sub.goto (.left (.outOfBounds i)) }
  | draw (i : ℕ) (d : DmaBuf) (hpc : s.sub.pc = .draw i) (hd : s.sub.buf_fds[i]? = some d) :
      SubStep s (.draw i)
        { s with
          sub := s.sub.goto (.swapBuffers i)
          drawn := s.drawn ++ [s.content d]
          gpu := s.gpu ++ [i] }
  | swapBuffers (i : ℕ) (hpc : s.sub.pc = .swapBuffers i) :
      SubStep s .swapBuffers { s with sub := s.sub.goto (.destroyImage i) }
  | destroyImage (i : ℕ) (hpc : s.sub.pc = .destroyImage i) :
      SubStep s .destroyImage { s with sub := s.sub.goto (.sendAck i) }
  | sendAck (i : ℕ) (hpc : s.sub.pc = .sendAck i) (hopen : s.pubOpen = true) :
      SubStep s (.sendAck true)
        { s with sub := s.sub.goto .dispatchPending, toPub := s.toPub + 1 }
  | ackFailed (i : ℕ) (hpc : s.sub.pc = .sendAck i) :
      SubStep s (.sendAck false) { s with sub := s.sub.goto (.left .ackFailed) }
  | dispatchPending (hpc : s.sub.pc = .dispatchPending) (hopen : s.sub.should_close = false) :
      SubStep s (.dispatchPending true) { s with sub := s.sub.goto .loopTest }
  | dispatchFailed (ok : Bool) (hpc : s.sub.pc = .dispatchPending)
      (hclose : (ok && !s.sub.should_close) = false) :
      SubStep s (.dispatchPending ok) { s with sub := s.sub.goto (.left .dispatchFailed) }
  | dropSession (e : Subscriber.Exit) (hpc : s.sub.pc = .left e) :
      SubStep s .dropSession { s with sub := s.sub.goto (.sessionDropped e) }
  | dropSock (e : Subscriber.Exit) (hpc : s.sub.pc = .sessionDropped e) :
      SubStep s .dropSock
        { s with sub := { s.sub.goto (.closed e) with sock := false }, toSub := [] }
  | signal : SubStep s .signal { s with sub := { s.sub with running := false } }
  | closeRequest : SubStep s .closeRequest { s with sub := { s.sub with should_close := true } }

/-- The steps of the publisher are those listed. -/
theorem step_pub_iff {a : Publisher.Act} :
    step S s (.pub a) = some s' ↔ PubStep S s a s' := by
  rw [step_pub]
  constructor
  · rintro ⟨p, e, hp, he, rfl⟩
    cases Publisher.step_iff.mp hp with
    | accept hpc | sendHandshake hpc | dequeue i hpc | sendIdx i hpc | acked i hpc =>
        obtain ⟨hg, he⟩ := Option.ite_none_right_eq_some.mp he
        obtain rfl := Option.some.inj he
        constructor <;> assumption
    | handshakeFailed r hpc hr =>
        cases r with
        | ok => exact absurd rfl hr
        | err =>
            obtain rfl := Option.some.inj he
            exact .handshakeFailed hpc
        | short n =>
            obtain ⟨⟨hsock, hn⟩, he⟩ := Option.ite_none_right_eq_some.mp he
            obtain rfl := Option.some.inj he
            exact .handshakeShort n hpc hsock hn
    | sendIdxFailed i r hpc hr =>
        cases r with
        | ok => exact absurd rfl hr
        | err =>
            obtain rfl := Option.some.inj he
            exact .sendIdxFailed i hpc
        | short n =>
            obtain ⟨⟨hsock, hn⟩, he⟩ := Option.ite_none_right_eq_some.mp he
            obtain rfl := Option.some.inj he
            exact .sendIdxShort i n hpc hsock hn
    | requeueFailed i hpc =>
        obtain rfl := Option.some.inj he
        rw [S.cap.queuedBy_requeueCalls_false, Finset.union_empty]
        exact .requeueFailed i hpc
    | giveBackFailed i hpc =>
        obtain rfl := Option.some.inj he
        rw [S.cap.queuedBy_requeueCalls_false, Finset.union_empty]
        exact .giveBackFailed i hpc
    | signal =>
        obtain rfl := Option.some.inj he
        exact .signal
    | _ =>
        obtain rfl := Option.some.inj he
        constructor <;> assumption
  · intro h
    cases h <;> simp_all [Publisher.step, pubEffect]

/-- The steps of the subscriber are those listed. -/
theorem step_sub_iff {a : Subscriber.Act DmaBuf} :
    step S s (.sub a) = some s' ↔ SubStep s a s' := by
  rw [step_sub]
  constructor
  · rintro ⟨u, e, hu, he, rfl⟩
    cases Subscriber.step_iff.mp hu with
    | connect hpc =>
        obtain ⟨⟨hpub, hconn⟩, he⟩ := Option.ite_none_right_eq_some.mp he
        obtain rfl := Option.some.inj he
        exact .connect hpc hpub hconn
    | recvHandshake fds hpc =>
        simp only [subEffect] at he
        split at he <;> simp only [Option.ite_none_right_eq_some, Option.some.injEq,
          reduceCtorEq] at he
        obtain ⟨⟨rfl, hmax⟩, rfl⟩ := he
        exact .recvHandshake fds _ hpc ‹_› hmax
    | recvIdx i hpc =>
        simp only [subEffect] at he
        split at he <;> simp only [Option.ite_none_right_eq_some, Option.some.injEq,
          reduceCtorEq] at he
        obtain ⟨rfl, rfl⟩ := he
        exact .recvIdx i _ hpc ‹_›
    | peerClosed hpc =>
        obtain ⟨⟨hin, hopen⟩, he⟩ := Option.ite_none_right_eq_some.mp he
        obtain rfl := Option.some.inj he
        exact .peerClosed hpc hin hopen
    | draw i hpc =>
        obtain ⟨d, hd, rfl⟩ := Option.map_eq_some_iff.mp he
        exact .draw i d hpc hd
    | sendAck i hpc =>
        obtain ⟨hopen, he⟩ := Option.ite_none_right_eq_some.mp he
        obtain rfl := Option.some.inj he
        exact .sendAck i hpc hopen
    | signal | closeRequest =>
        obtain rfl := Option.some.inj he
        constructor
    | _ =>
        obtain rfl := Option.some.inj he
        constructor <;> assumption
  · intro h
    cases h with
    | stop hpc hrun => simp [Subscriber.step, subEffect, hpc, hrun]
    | outOfBounds i r hpc hi => simp [Subscriber.step, subEffect, hpc, hi]
    | dispatchFailed ok hpc hclose => simp [Subscriber.step, subEffect, hpc, hclose]
    | _ => simp_all [Subscriber.step, subEffect]

/-- The driver writes only into the buffers of queued indices. -/
theorem step_fill {i : ℕ} {c : γ} :
    step S s (.fill i c) = some s' ↔
      i ∈ s.queued ∧
        { s with content := Function.update s.content (S.memory s.qbufs i) c } = s' := by
  simp [step]

/-- The GPU completes only reads that were submitted. -/
theorem step_gpuDone {i : ℕ} :
    step S s (.gpuDone i) = some s' ↔ i ∈ s.gpu ∧ { s with gpu := s.gpu.erase i } = s' := by
  simp [step]

end DmabufPipeline
