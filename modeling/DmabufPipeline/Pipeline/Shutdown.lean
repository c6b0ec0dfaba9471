import DmabufPipeline.Lib.Ranking
import DmabufPipeline.Pipeline.Lockstep

/-!
# Progress and shutdown

Both processes block: the publisher in `accept` and in `wait_for_ack`, the subscriber in
its two receives. `Returns` says which answers a call can give without the other side
moving, and without a failure of its own: a receive answers with what is unread and fails
only once nothing more can come, a send fails only towards a closed socket, `connect` once
nobody will listen, and any other call succeeds. Under that rule some process can always
make its call, until both have finished or the publisher waits in `accept` for a subscriber
that gave up before it connected.

A process told to stop leaves its loop at the next test, and takes the other one with it
by closing its socket. How many calls that takes is bounded by a rank for either order:
the publisher starved by a stopping subscriber pays for the acknowledgements that are
still to come, the subscriber starved by a stopping publisher for the indices.

## Main definitions

* `Returns` — the answers that need no move of the other side and no failure.
* `Wired` — what the positions of the two processes say about the connection.
* `State.Finished`, `State.Unvisited` — the two ends of a run.
* `progress` — in every reachable state a call returns, or the run has ended.
* `starvesPub`, `starvesSub` — the two ranks.
* `shutdown` — from the first stop request on, at most 32 calls are made, to the end.
-/

namespace DmabufPipeline

open Transition

variable {γ : Type} {S : Session} {s s' : State γ}

/-- The subscriber's socket has been closed. -/
@[simp] def Subscriber.Pc.sockClosed : Subscriber.Pc → Bool
  | .closed _ => true
  | _ => false

/-- A call of one of the two processes; signals, close requests, the driver and the GPU
come from outside. -/
def Act.isCall : Act γ → Bool
  | .pub .signal | .sub .signal | .sub .closeRequest | .fill .. | .gpuDone _ => false
  | .pub _ | .sub _ => true

/-- No whole message is unread towards the subscriber, and no more bytes will come. -/
def State.cutOff (s : State γ) : Bool :=
  !s.pubOpen && match s.toSub with
    | [] | .torn _ :: _ => true
    | _ => false

/-- **The call can return with this answer as things are**, without a failure of its own.
`accept` waits for a connection, and `connect` fails only when the publisher is past it; a
receive answers with what is unread, and fails at the end of the stream or on a handshake with
too many descriptors; a send fails only towards a closed socket, and `dequeue` only if nothing
is queued. The calls that concern neither the other side nor the driver's queue succeed. -/
def Returns (s : State γ) : Act γ → Prop
  | .pub (.prepare ok) | .pub (.accept ok) | .pub (.requeue _ ok) => ok = true
  | .pub (.sendHandshake r) => r = .ok ∨ s.sub.sock = false
  | .pub (.dequeue r) => r.isSome ∨ s.queued = ∅
  | .pub (.sendIdx _ r) => r = .ok ∨ s.sub.sock = false
  | .pub (.waitForAck ok) => ok = true ∨ s.toPub = 0 ∧ s.sub.sock = false
  | .sub (.connect ok) => ok = true ∨ s.pub.pc.hasLeft
  | .sub (.recvHandshake none) =>
      s.cutOff = true ∨ ∃ fds rest, s.toSub = .handshake fds :: rest ∧ kMaxFds < fds.length
  | .sub (.setup ok) | .sub (.dispatchPending ok) => ok = true
  | .sub (.recvIdx .err) => s.cutOff = true
  | .sub (.importDmabuf _ r) => r = .image
  | .sub (.sendAck ok) => ok = true ∨ s.pubOpen = false
  | _ => True

/-- Both processes have closed everything they had of the connection. -/
def State.Finished (s : State γ) : Prop :=
  (∃ f, s.pub.pc = .teardown f) ∧ ∃ e, s.sub.pc = .closed e

/-- The publisher is in `accept`, and the subscriber gave up before it connected. -/
def State.Unvisited (s : State γ) : Prop :=
  s.pub.pc = .accept ∧ s.connected = false ∧ ∃ e, s.sub.pc = .closed e

/-- Nobody has a call left to make that would return. -/
def State.Ended (s : State γ) : Prop := s.Finished ∨ s.Unvisited

/-- The subscriber gave up before it connected, and the publisher is still on its way to
`accept`. -/
def State.Forsaken (s : State γ) : Prop :=
  s.connected = false ∧ s.sub.pc.hasLeft ∧ (s.pub.pc = .prepare ∨ s.pub.pc = .accept)

/-! ## The connection -/

/-- What the two processes' positions say about the connection. -/
structure Wired (s : State γ) : Prop where
  connect : s.sub.pc = .connect → s.connected = false
  unconnected : s.connected = false → s.sub.pc = .connect ∨ s.sub.pc.hasLeft
  sock : s.sub.sock = (s.connected && !s.sub.pc.sockClosed)
  /-- The first thing that the subscriber finds unread is not an index. -/
  greeted : s.sub.pc = .recvHandshake →
    (∃ fds rest, s.toSub = .handshake fds :: rest) ∨
      (s.pub.pc.starting ∨ s.pub.pc.hasLeft) ∧ ∀ p ∈ s.toSub, ∃ n, p = .torn n
  imported : ∀ i, s.sub.pc = .draw i → i < s.sub.buf_fds.length

/-- A publisher step changes of the connection only what is unread. -/
theorem Wired.of_pub (h : Wired s) (hsub : s'.sub = s.sub) (hconn : s'.connected = s.connected)
    (hin : ∀ fds rest, s.toSub = .handshake fds :: rest →
      ∃ fds rest, s'.toSub = .handshake fds :: rest)
    (hst : (s.pub.pc.starting ∨ s.pub.pc.hasLeft) → (∀ p ∈ s.toSub, ∃ n, p = .torn n) →
      (∃ fds rest, s'.toSub = .handshake fds :: rest) ∨
        (s'.pub.pc.starting ∨ s'.pub.pc.hasLeft) ∧ ∀ p ∈ s'.toSub, ∃ n, p = .torn n) :
    Wired s' := by
  refine ⟨?_, ?_, ?_, ?_, ?_⟩
  · rw [hsub, hconn]
    exact h.connect
  · rw [hsub, hconn]
    exact h.unconnected
  · rw [hsub, hconn]
    exact h.sock
  · intro hpc
    rw [hsub] at hpc
    rcases h.greeted hpc with ⟨fds, rest, hhs⟩ | ⟨hpub, htorn⟩
    · exact .inl (hin fds rest hhs)
    · exact hst hpub htorn
  · rw [hsub]
    exact h.imported

/-- The publisher's steps keep the connection wired. -/
theorem Wired.pub {a : Publisher.Act} {t : Token} (h : Wired s) (hf : Flow S s t)
    (hs : PubStep S s a s') : Wired s' := by
  cases hs with
  | signal => exact ⟨h.connect, h.unconnected, h.sock, h.greeted, h.imported⟩
  | sendHandshake hpc hsock =>
      have hin := (hf.starting (by simp [hpc])).1
      have hhs : s.toSub ++ [.handshake S.shared] = .handshake S.shared :: [] := by rw [hin]; rfl
      exact h.of_pub rfl rfl (fun _ _ _ => ⟨_, _, hhs⟩) fun _ _ => .inl ⟨_, _, hhs⟩
  | handshakeShort n hpc hsock hn =>
      have hin := (hf.starting (by simp [hpc])).1
      refine h.of_pub rfl rfl (fun fds rest hhs => ?_) fun _ _ => .inr ⟨.inr rfl, ?_⟩
      · rw [hin] at hhs
        cases hhs
      · simp [hin]
  | sendIdx i hpc hsock | sendIdxShort i n hpc hsock hn =>
      refine h.of_pub rfl rfl (fun fds rest hhs => ⟨fds, _, congrArg (· ++ _) hhs⟩) ?_
      intro hpub _
      simp [hpc] at hpub
  | _ =>
      refine h.of_pub rfl rfl (fun fds rest hhs => ⟨fds, rest, hhs⟩) fun hpub htorn => ?_
      simp_all

/-- The subscriber's steps keep the connection wired. -/
theorem Wired.sub {a : Subscriber.Act DmaBuf} {t : Token} (h : Wired s) (hf : Flow S s t)
    (hs : SubStep s a s') : Wired s' := by
  have hsock := h.sock
  have hconn := h.unconnected
  cases hs with
  | connect hpc hpub =>
      have hin := (hf.starting (by simp [hpub])).1
      refine ⟨by simp, by simp, by simp, fun _ => .inr ⟨.inl (by simp [hpub]), ?_⟩, by simp⟩
      simp [hin]
  | signal | closeRequest =>
      exact ⟨h.connect, h.unconnected, h.sock, h.greeted, h.imported⟩
  | _ => constructor <;> simp_all

/-- One step of the pipeline keeps the connection wired. -/
theorem Wired.step (s : State γ) (a : Act γ) (s' : State γ)
    (h : (∃ t, Flow S s t) ∧ Wired s) (hs : step S s a = some s') :
    (∃ t, Flow S s' t) ∧ Wired s' := by
  refine ⟨Flow.step s a s' h.1 hs, ?_⟩
  obtain ⟨⟨t, hf⟩, h⟩ := h
  cases a with
  | pub a => exact h.pub hf (step_pub_iff.mp hs)
  | sub a => exact h.sub hf (step_sub_iff.mp hs)
  | fill i c =>
      obtain ⟨-, rfl⟩ := step_fill.mp hs
      exact ⟨h.connect, h.unconnected, h.sock, h.greeted, h.imported⟩
  | gpuDone i =>
      obtain ⟨-, rfl⟩ := step_gpuDone.mp hs
      exact ⟨h.connect, h.unconnected, h.sock, h.greeted, h.imported⟩

/-- Every reachable state is wired. -/
theorem wired_run {content : DmaBuf → γ} {as : List (Act γ)}
    (hrun : run (step S) (State.init S content) as = some s) :
    (∃ t, Flow S s t) ∧ Wired s := by
  refine run_induction Wired.step ⟨⟨.idle, Flow.init S content⟩, ?_⟩ hrun
  exact ⟨fun _ => rfl, fun _ => .inl rfl, rfl, nofun, nofun⟩

/-! ## Progress -/

/-- Some process has a call that returns. -/
def State.Moves (S : Session) (s : State γ) : Prop :=
  ∃ a s', Act.isCall a = true ∧ Returns s a ∧ step S s a = some s'

/-- The publisher has a call that returns, unless it has finished, waits for a first
connection, or waits for an acknowledgement of a live subscriber. -/
theorem pub_moves (S : Session) (s : State γ) :
    s.Moves S ∨ (∃ f, s.pub.pc = .teardown f) ∨
      (s.pub.pc = .accept ∧ s.connected = false) ∨
      ∃ i, s.pub.pc = .waitForAck i ∧ s.toPub = 0 ∧ s.sub.sock = true := by
  have move {a : Publisher.Act} {s' : State γ} (hs : PubStep S s a s')
      (ha : Act.isCall (.pub a : Act γ) = true) (hr : Returns s (.pub a)) : s.Moves S :=
    ⟨.pub a, s', ha, hr, step_pub_iff.mpr hs⟩
  cases hpc : s.pub.pc with
  | prepare => exact .inl (move (.prepare hpc) rfl rfl)
  | accept =>
      cases hconn : s.connected with
      | false => exact .inr (.inr (.inl ⟨rfl, rfl⟩))
      | true => exact .inl (move (.accept hpc hconn) rfl rfl)
  | sendHandshake =>
      cases hsock : s.sub.sock with
      | false => exact .inl (move (.handshakeFailed hpc) rfl (.inr hsock))
      | true => exact .inl (move (.sendHandshake hpc hsock) rfl (.inl rfl))
  | loopTest =>
      cases hrun : s.pub.running with
      | false => exact .inl (move (.stop hpc hrun) rfl trivial)
      | true => exact .inl (move (.loopTest hpc hrun) rfl trivial)
  | dequeue =>
      rcases s.queued.eq_empty_or_nonempty with hnone | ⟨i, hi⟩
      · exact .inl (move (.dequeueFailed hpc) rfl (.inr hnone))
      · exact .inl (move (.dequeue i hpc hi) rfl (.inl rfl))
  | sendIdx i =>
      cases hsock : s.sub.sock with
      | false => exact .inl (move (.sendIdxFailed i hpc) rfl (.inr hsock))
      | true => exact .inl (move (.sendIdx i hpc hsock) rfl (.inl rfl))
  | waitForAck i =>
      by_cases hack : 0 < s.toPub
      · exact .inl (move (.acked i hpc hack) rfl (.inl rfl))
      · cases hsock : s.sub.sock with
        | false => exact .inl (move (.waitFailed i hpc) rfl (.inr ⟨by omega, hsock⟩))
        | true => exact .inr (.inr (.inr ⟨i, rfl, by omega, rfl⟩))
  | requeue i => exact .inl (move (.requeue i hpc) rfl rfl)
  | requeueAndBreak i => exact .inl (move (.giveBack i hpc) rfl rfl)
  | left f => exact .inl (move (.dropClient f hpc) rfl trivial)
  | clientClosed f => exact .inl (move (.dropCapture f hpc) rfl trivial)
  | teardown f => exact .inr (.inl ⟨f, rfl⟩)

/-- The subscriber has a call that returns, unless it has finished, or is about to connect to
a publisher that does not listen yet, or waits for a message of a live publisher of which no
index or handshake is unread. -/
theorem sub_moves {t : Token} (hf : Flow S s t) (hw : Wired s) :
    s.Moves S ∨ (∃ e, s.sub.pc = .closed e) ∨
      (s.sub.pc = .connect ∧ s.pub.pc ≠ .accept ∧ s.pub.pc.hasLeft = false) ∨
      (s.sub.pc.processing = none ∧ s.sub.pc.hasLeft = false ∧ s.connected = true) ∧
        s.pubOpen = true ∧ (s.toSub = [] ∨ ∃ n rest, s.toSub = .torn n :: rest) := by
  have move {a : Subscriber.Act DmaBuf} {s' : State γ} (hs : SubStep s a s')
      (ha : Act.isCall (.sub a : Act γ) = true) (hr : Returns s (.sub a)) : s.Moves S :=
    ⟨.sub a, s', ha, hr, step_sub_iff.mpr hs⟩
  -- What a receive does when the head of the stream is no whole message.
  have receive (hblank : s.toSub = [] ∨ ∃ n rest, s.toSub = .torn n :: rest)
      (hpc : s.sub.pc = .recvHandshake ∨ s.sub.pc = .recvIdx)
      (hfail : s.cutOff = true → s.Moves S) :
      s.Moves S ∨ (∃ e, s.sub.pc = .closed e) ∨
        (s.sub.pc = .connect ∧ s.pub.pc ≠ .accept ∧ s.pub.pc.hasLeft = false) ∨
        (s.sub.pc.processing = none ∧ s.sub.pc.hasLeft = false ∧ s.connected = true) ∧
          s.pubOpen = true ∧ (s.toSub = [] ∨ ∃ n rest, s.toSub = .torn n :: rest) := by
    cases hopen : s.pubOpen with
    | false =>
        refine .inl (hfail ?_)
        rcases hblank with hin | ⟨n, rest, hin⟩ <;> simp [State.cutOff, hopen, hin]
    | true =>
        have hconn : s.connected = true := by
          by_contra hn
          have := hw.unconnected (by simpa using hn)
          rcases hpc with hpc | hpc <;> simp [hpc] at this
        refine .inr (.inr (.inr ⟨⟨?_, ?_, hconn⟩, rfl, hblank⟩)) <;>
          rcases hpc with hpc | hpc <;> simp [hpc]
  cases hpc : s.sub.pc with
  | connect =>
      by_cases hacc : s.pub.pc = .accept
      · exact .inl (move (.connect hpc hacc (hw.connect hpc)) rfl (.inl rfl))
      · cases hleft : s.pub.pc.hasLeft with
        | true => exact .inl (move (.connectFailed hpc) rfl (.inr hleft))
        | false => exact .inr (.inr (.inl ⟨rfl, hacc, rfl⟩))
  | recvHandshake =>
      rcases hw.greeted hpc with ⟨fds, rest, hin⟩ | ⟨-, htorn⟩
      · by_cases hmax : fds.length ≤ kMaxFds
        · exact .inl (move (.recvHandshake fds rest hpc hin hmax) rfl trivial)
        · have hmany : kMaxFds < fds.length := by omega
          exact .inl (move (.handshakeFailed hpc) rfl (.inr ⟨fds, rest, hin, hmany⟩))
      · rw [← hpc]
        refine receive ?_ (.inl hpc) fun hcut => move (.handshakeFailed hpc) rfl (.inl hcut)
        cases hin : s.toSub with
        | nil => exact .inl rfl
        | cons p rest =>
            obtain ⟨n, rfl⟩ := htorn p (by simp [hin])
            exact .inr ⟨n, rest, rfl⟩
  | setup => exact .inl (move (.setup hpc) rfl rfl)
  | loopTest =>
      cases hrun : s.sub.running && !s.sub.should_close with
      | false => exact .inl (move (.stop hpc hrun) rfl trivial)
      | true => exact .inl (move (.loopTest hpc hrun) rfl trivial)
  | recvIdx =>
      have hin := hf.toSub_eq (by simp [hpc])
      rw [← hpc]
      cases t with
      | unread i => exact .inl (move (.recvIdx i [] hpc hin) rfl trivial)
      | torn n =>
          exact receive (.inr ⟨n, [], hin⟩) (.inr hpc) fun hcut => move (.recvErr hpc) rfl hcut
      | idle | processing | acked =>
          exact receive (.inl hin) (.inr hpc) fun hcut => move (.recvErr hpc) rfl hcut
  | importDmabuf i =>
      by_cases hi : i < s.sub.buf_fds.length
      · exact .inl (move (.importDmabuf i hpc hi) rfl rfl)
      · exact .inl (move (.outOfBounds i .image hpc hi) rfl rfl)
  | draw i =>
      have hi := hw.imported i hpc
      exact .inl (move (.draw i _ hpc (List.getElem?_eq_getElem hi)) rfl trivial)
  | swapBuffers i => exact .inl (move (.swapBuffers i hpc) rfl trivial)
  | destroyImage i => exact .inl (move (.destroyImage i hpc) rfl trivial)
  | sendAck i =>
      cases hopen : s.pubOpen with
      | false => exact .inl (move (.ackFailed i hpc) rfl (.inr hopen))
      | true => exact .inl (move (.sendAck i hpc hopen) rfl (.inl rfl))
  | dispatchPending =>
      cases hclose : s.sub.should_close with
      | false => exact .inl (move (.dispatchPending hpc hclose) rfl rfl)
      | true => exact .inl (move (.dispatchFailed true hpc (by simp [hclose])) rfl rfl)
  | left e => exact .inl (move (.dropSession e hpc) rfl trivial)
  | sessionDropped e => exact .inl (move (.dropSock e hpc) rfl trivial)
  | closed e => exact .inr (.inl ⟨e, rfl⟩)

/-- **Progress.** In a state that the frame under way and the connection describe, a call
returns, or the run has ended. -/
theorem progress {t : Token} (hf : Flow S s t) (hw : Wired s) : s.Moves S ∨ s.Ended := by
  rcases pub_moves S s with hmove | hpub
  · exact .inl hmove
  rcases sub_moves hf hw with hmove | hsub
  · exact .inl hmove
  have hsock := hw.sock
  rcases hpub with ⟨f, hdown⟩ | ⟨hacc, hconn⟩ | ⟨i, hwait, hack, hlive⟩
  · rcases hsub with ⟨e, hclosed⟩ | ⟨-, -, hleft⟩ | ⟨-, hopen, -⟩
    · exact .inr (.inl ⟨⟨f, hdown⟩, e, hclosed⟩)
    · simp [hdown] at hleft
    · simp [State.pubOpen, hdown] at hopen
  · rcases hsub with ⟨e, hclosed⟩ | ⟨-, hne, -⟩ | ⟨⟨-, -, hconn'⟩, -⟩
    · exact .inr (.inr ⟨hacc, hconn, e, hclosed⟩)
    · exact absurd hacc hne
    · rw [hconn] at hconn'
      cases hconn'
  · -- Both would have to be waiting for each other.
    rcases hsub with ⟨e, hclosed⟩ | ⟨hpc, -⟩ | ⟨⟨hproc, hleft, -⟩, -, hin⟩
    · simp [hclosed, hlive] at hsock
    · simp [hlive, hw.connect hpc] at hsock
    · have hone := hf.underWay_eq_one hwait hleft
      have hlent := hf.lent
      rcases hin with hin | ⟨n, rest, hin⟩
      · rw [State.underWay, hin, hproc, hack] at hone
        simp at hone
      · obtain ⟨hs, htail, hcase⟩ := hf.toSub
        rw [hin] at htail
        rcases hcase with rfl | ⟨rfl, -⟩
        · cases t <;> simp_all [Token.tail, Token.Lent]
        · simp at htail

/-! ## The two ends -/

/-- A step without a failure of its own brings nobody to give up on a publisher that is still
to listen, and lets nobody in who has given up. -/
theorem forsaken_step (s : State γ) (a : Act γ) (s' : State γ) (hw : Wired s) (hr : Returns s a)
    (hs : step S s a = some s') : s'.Forsaken ↔ s.Forsaken := by
  cases a with
  | pub a =>
      cases step_pub_iff.mp hs with
      | prepareFailed hpc | acceptFailed hpc => exact absurd hr Bool.false_ne_true
      | accept hpc hconn => simp [State.Forsaken, hconn]
      | prepare hpc => simp [State.Forsaken, hpc]
      | signal => exact Iff.rfl
      | _ => simp_all [State.Forsaken]
  | sub a =>
      have hconn := hw.unconnected
      cases step_sub_iff.mp hs with
      | connect hpc => simp [State.Forsaken, hpc]
      | connectFailed hpc =>
          have hleft : s.pub.pc.hasLeft := hr.resolve_left Bool.false_ne_true
          have hne : ¬ (s.pub.pc = .prepare ∨ s.pub.pc = .accept) := by
            rintro (h | h) <;> simp [h] at hleft
          simp [State.Forsaken, hne]
      | signal | closeRequest => exact Iff.rfl
      | _ => cases hc : s.connected <;> simp_all [State.Forsaken]
  | fill i c =>
      obtain ⟨-, rfl⟩ := step_fill.mp hs
      exact Iff.rfl
  | gpuDone i =>
      obtain ⟨-, rfl⟩ := step_gpuDone.mp hs
      exact Iff.rfl

/-- **Which end is reached** without a failure on the way. -/
theorem State.Ended.of_returns {t : State γ} {bs : List (Act γ)} (hend : t.Ended)
    (hf : ∃ t, Flow S s t) (hw : Wired s) (hmeets : Meets (step S) Returns s bs)
    (hrun : run (step S) s bs = some t) :
    (s.Forsaken → t.Unvisited) ∧ (¬ s.Forsaken → t.Finished) := by
  obtain ⟨-, hsame⟩ := run_induction_of_meets
    (I := fun t => ((∃ k, Flow S t k) ∧ Wired t) ∧ (t.Forsaken ↔ s.Forsaken))
    (fun r a r' h hr hs => ⟨Wired.step r a r' h.1 hs,
      (forsaken_step r a r' h.1.2 hr hs).trans h.2⟩) ⟨⟨hf, hw⟩, Iff.rfl⟩ hmeets hrun
  rcases hend with ⟨⟨f, hdown⟩, e, hclosed⟩ | ⟨hacc, hconn, e, hclosed⟩
  · refine ⟨fun h => ?_, fun _ => ⟨⟨f, hdown⟩, e, hclosed⟩⟩
    obtain ⟨-, -, hpc | hpc⟩ := hsame.mpr h <;> simp [hpc] at hdown
  · refine ⟨fun _ => ⟨hacc, hconn, e, hclosed⟩, fun h => absurd (hsame.mp ?_) h⟩
    exact ⟨hconn, by simp [hclosed], .inr hacc⟩

/-! ## The ranks -/

/-- The publisher leaves its loop at the next test. -/
def Publisher.stopping (p : Publisher) : Bool := !p.running || p.pc.leaving

/-- The subscriber leaves its loop at the next test. -/
def Subscriber.stopping (u : Subscriber DmaBuf) : Bool :=
  !u.running || u.should_close || u.pc.hasLeft

/-- The calls a stopping publisher has left. -/
def Publisher.Pc.stopRank : Publisher.Pc → ℕ
  | .teardown _ => 0
  | .clientClosed _ => 1
  | .left _ => 2
  | .requeueAndBreak _ | .loopTest => 3
  | .requeue _ | .sendHandshake => 4
  | .waitForAck _ | .accept => 5
  | .sendIdx _ | .prepare => 6
  | .dequeue => 7

/-- The calls a publisher has left that gets no further acknowledgement. -/
def Publisher.Pc.starvedRank : Publisher.Pc → ℕ
  | .teardown _ => 0
  | .clientClosed _ => 1
  | .left _ => 2
  | .requeueAndBreak _ => 3
  | .waitForAck _ => 5
  | .sendIdx _ => 6
  | .dequeue => 7
  | .loopTest => 8
  | .requeue _ | .sendHandshake => 9
  | .accept => 10
  | .prepare => 11

/-- The calls a stopping subscriber has left. -/
def Subscriber.Pc.stopRank : Subscriber.Pc → ℕ
  | .closed _ => 0
  | .sessionDropped _ => 1
  | .left _ => 2
  | .loopTest => 3
  | .dispatchPending | .setup => 4
  | .sendAck _ | .recvHandshake => 5
  | .destroyImage _ | .connect => 6
  | .swapBuffers _ => 7
  | .draw _ => 8
  | .importDmabuf _ => 9
  | .recvIdx => 10

/-- The calls a subscriber has left that gets no further index. -/
def Subscriber.Pc.starvedRank : Subscriber.Pc → ℕ
  | .closed _ => 0
  | .sessionDropped _ => 1
  | .left _ => 2
  | .recvIdx => 10
  | .loopTest => 11
  | .dispatchPending | .setup => 12
  | .sendAck _ | .recvHandshake => 13
  | .destroyImage _ | .connect => 14
  | .swapBuffers _ => 15
  | .draw _ => 16
  | .importDmabuf _ => 17

/-- The acknowledgements that a stopping subscriber is still going to send. -/
def Subscriber.Pc.acksToCome : Subscriber.Pc → ℕ
  | .recvIdx | .importDmabuf _ | .draw _ | .swapBuffers _ | .destroyImage _ | .sendAck _ => 1
  | _ => 0

/-- The indices that a stopping publisher is still going to send. -/
def Publisher.Pc.indicesToCome : Publisher.Pc → ℕ
  | .dequeue | .sendIdx _ => 1
  | _ => 0

/-- The calls left once the subscriber stops: each acknowledgement takes the publisher
through its loop once more. -/
def State.starvesPub (s : State γ) : ℕ :=
  s.sub.pc.stopRank + s.pub.pc.starvedRank + 5 * (s.toPub + s.sub.pc.acksToCome)

/-- The calls left once the publisher stops: each index takes the subscriber through its
loop once more. -/
def State.starvesSub (s : State γ) : ℕ :=
  s.pub.pc.stopRank + s.sub.pc.starvedRank +
    8 * (s.toSub.countP Packet.isIdx + s.pub.pc.indicesToCome)

/-- A call of the publisher lowers the rank of a starved publisher, whatever it answers. -/
theorem starvesPub_lt_of_pub {a : Publisher.Act} (hs : PubStep S s a s') :
    s'.sub.stopping = s.sub.stopping ∧ s'.starvesPub ≤ s.starvesPub ∧
      (a ≠ .signal → s'.starvesPub < s.starvesPub) := by
  cases hs with
  | signal => exact ⟨rfl, le_refl _, fun h => absurd rfl h⟩
  | acked i hpc hack =>
      refine ⟨rfl, ?_, fun _ => ?_⟩ <;>
      · simp only [State.starvesPub, Publisher.pc_goto, Publisher.Pc.starvedRank, hpc]
        omega
  | dropClient f hpc =>
      refine ⟨rfl, ?_, fun _ => ?_⟩ <;>
      · simp only [State.starvesPub, Publisher.pc_goto, Publisher.Pc.starvedRank, hpc]
        omega
  | _ =>
      refine ⟨rfl, ?_, fun _ => ?_⟩ <;> simp_all [State.starvesPub, Publisher.Pc.starvedRank]

/-- A stopping subscriber stays so, and each of its calls lowers the rank. -/
theorem starvesPub_lt_of_sub {a : Subscriber.Act DmaBuf} (hst : s.sub.stopping = true)
    (hs : SubStep s a s') :
    s'.sub.stopping = true ∧ s'.starvesPub ≤ s.starvesPub ∧
      (a ≠ .signal → a ≠ .closeRequest → s'.starvesPub < s.starvesPub) := by
  cases hs with
  | signal =>
      exact ⟨by simp [Subscriber.stopping], le_refl _, fun h => absurd rfl h⟩
  | closeRequest =>
      exact ⟨by simp [Subscriber.stopping], le_refl _, fun _ h => absurd rfl h⟩
  | loopTest hpc hrun => simp_all [Subscriber.stopping]
  | sendAck i hpc hopen =>
      refine ⟨by simp_all [Subscriber.stopping, Subscriber.goto], ?_, fun _ _ => ?_⟩ <;>
      · simp only [State.starvesPub, Subscriber.pc_goto, Subscriber.Pc.stopRank,
          Subscriber.Pc.acksToCome, hpc]
        omega
  | _ =>
      refine ⟨by simp_all [Subscriber.stopping, Subscriber.goto], ?_, fun _ _ => ?_⟩ <;>
      · simp_all only [State.starvesPub, Subscriber.pc_goto, Subscriber.Pc.stopRank,
          Subscriber.Pc.acksToCome]
        omega

/-- A stopping publisher stays so, and each of its calls lowers the rank. -/
theorem starvesSub_lt_of_pub {a : Publisher.Act} (hst : s.pub.stopping = true)
    (hs : PubStep S s a s') :
    s'.pub.stopping = true ∧ s'.starvesSub ≤ s.starvesSub ∧
      (a ≠ .signal → s'.starvesSub < s.starvesSub) := by
  cases hs with
  | signal => exact ⟨by simp [Publisher.stopping], le_refl _, fun h => absurd rfl h⟩
  | loopTest hpc hrun => simp_all [Publisher.stopping]
  | sendHandshake hpc | handshakeShort n hpc | dequeueFailed hpc | sendIdx i hpc
  | sendIdxShort i n hpc | sendIdxFailed i hpc =>
      refine ⟨by simp_all [Publisher.stopping], ?_, fun _ => ?_⟩ <;>
      · simp only [State.starvesSub, Publisher.pc_goto, Publisher.Pc.stopRank,
          Publisher.Pc.indicesToCome, hpc, List.countP_append, List.countP_singleton,
          Packet.isIdx, Bool.false_eq_true, if_false, if_true]
        omega
  | _ =>
      refine ⟨by simp_all [Publisher.stopping], ?_, fun _ => ?_⟩ <;>
        simp_all [State.starvesSub, Publisher.Pc.stopRank, Publisher.Pc.indicesToCome]

/-- A call of the subscriber lowers the rank of a starved subscriber, whatever it
answers. -/
theorem starvesSub_lt_of_sub {a : Subscriber.Act DmaBuf} (hs : SubStep s a s') :
    s'.pub.stopping = s.pub.stopping ∧ s'.starvesSub ≤ s.starvesSub ∧
      (a ≠ .signal → a ≠ .closeRequest → s'.starvesSub < s.starvesSub) := by
  cases hs with
  | signal => exact ⟨rfl, le_refl _, fun h => absurd rfl h⟩
  | closeRequest => exact ⟨rfl, le_refl _, fun _ h => absurd rfl h⟩
  | recvHandshake fds rest hpc hin hmax =>
      refine ⟨rfl, ?_, fun _ _ => ?_⟩ <;>
      · simp only [State.starvesSub, Subscriber.pc_goto, Subscriber.Pc.starvedRank, hpc, hin,
          List.countP_cons, Packet.isIdx]
        omega
  | recvIdx i rest hpc hin =>
      refine ⟨rfl, ?_, fun _ _ => ?_⟩ <;>
      · simp only [State.starvesSub, Subscriber.pc_goto, Subscriber.Pc.starvedRank, hpc, hin,
          List.countP_cons, Packet.isIdx, if_true]
        omega
  | dropSock e hpc =>
      refine ⟨rfl, ?_, fun _ _ => ?_⟩ <;>
      · simp only [State.starvesSub, Subscriber.pc_goto, Subscriber.Pc.starvedRank, hpc,
          List.countP_nil]
        omega
  | _ =>
      refine ⟨rfl, ?_, fun _ _ => ?_⟩ <;> simp_all [State.starvesSub, Subscriber.Pc.starvedRank]

/-- What ranks the calls of both processes, and looks at nothing but the processes and the
socket, ranks the pipeline. -/
theorem ranking_of_steps {I : State γ → Prop} {rank : State γ → ℕ}
    (hpub : ∀ s a s', I s → PubStep S s a s' →
      I s' ∧ rank s' ≤ rank s ∧ (a ≠ .signal → rank s' < rank s))
    (hsub : ∀ s a s', I s → SubStep s a s' →
      I s' ∧ rank s' ≤ rank s ∧ (a ≠ .signal → a ≠ .closeRequest → rank s' < rank s))
    (hfill : ∀ s content, I s → I { s with content := content } ∧
      rank { s with content := content } = rank s)
    (hgpu : ∀ s gpu, I s → I { s with gpu := gpu } ∧ rank { s with gpu := gpu } = rank s) :
    Ranking (step S) Act.isCall I rank := by
  have key (s : State γ) (a : Act γ) (s' : State γ) (h : I s) (hs : step S s a = some s') :
      I s' ∧ rank s' ≤ rank s ∧ (a.isCall = true → rank s' < rank s) := by
    cases a with
    | pub a =>
        obtain ⟨hI, hle, hlt⟩ := hpub s a s' h (step_pub_iff.mp hs)
        refine ⟨hI, hle, fun hc => hlt ?_⟩
        intro heq
        subst heq
        cases hc
    | sub a =>
        obtain ⟨hI, hle, hlt⟩ := hsub s a s' h (step_sub_iff.mp hs)
        refine ⟨hI, hle, fun hc => hlt ?_ ?_⟩ <;>
        · intro heq
          subst heq
          cases hc
    | fill i c =>
        obtain ⟨-, rfl⟩ := step_fill.mp hs
        obtain ⟨hI, heq⟩ := hfill s _ h
        exact ⟨hI, heq.le, fun hc => by cases hc⟩
    | gpuDone i =>
        obtain ⟨-, rfl⟩ := step_gpuDone.mp hs
        obtain ⟨hI, heq⟩ := hgpu s _ h
        exact ⟨hI, heq.le, fun hc => by cases hc⟩
  exact ⟨fun s a s' h hs => (key s a s' h hs).1, fun s a s' h hs => (key s a s' h hs).2.2,
    fun s a s' h hs => (key s a s' h hs).2.1⟩

/-- The acknowledgements still to come rank the runs of a stopping subscriber. -/
theorem starvesPub_ranking (S : Session) :
    Ranking (step S) Act.isCall (fun s : State γ => s.sub.stopping = true) State.starvesPub :=
  ranking_of_steps
    (fun _ _ _ h hs => (starvesPub_lt_of_pub hs).imp_left (·.trans h))
    (fun _ _ _ h hs => starvesPub_lt_of_sub h hs)
    (fun _ _ h => ⟨h, rfl⟩) fun _ _ h => ⟨h, rfl⟩

/-- The indices still to come rank the runs of a stopping publisher. -/
theorem starvesSub_ranking (S : Session) :
    Ranking (step S) Act.isCall (fun s : State γ => s.pub.stopping = true) State.starvesSub :=
  ranking_of_steps (fun _ _ _ h hs => starvesSub_lt_of_pub h hs)
    (fun _ _ _ h hs => (starvesSub_lt_of_sub hs).imp_left (·.trans h))
    (fun _ _ h => ⟨h, rfl⟩) fun _ _ h => ⟨h, rfl⟩

/-- In a reachable state at most 31 calls are left once the subscriber stops. -/
theorem starvesPub_le {t : Token} (hf : Flow S s t) : s.starvesPub ≤ 31 := by
  have hacks : s.toPub ≤ 1 := by
    rw [hf.toPub]
    cases t <;> simp [Token.acks]
  have hcome : s.sub.pc.acksToCome ≤ 1 := by cases s.sub.pc <;> simp [Subscriber.Pc.acksToCome]
  have hsub : s.sub.pc.stopRank ≤ 10 := by cases s.sub.pc <;> simp [Subscriber.Pc.stopRank]
  have hpub : s.pub.pc.starvedRank ≤ 11 := by cases s.pub.pc <;> simp [Publisher.Pc.starvedRank]
  simp only [State.starvesPub]
  omega

/-- In a reachable state at most 32 calls are left once the publisher stops. -/
theorem starvesSub_le {t : Token} (hf : Flow S s t) : s.starvesSub ≤ 32 := by
  have hone : s.toSub.countP Packet.isIdx + s.pub.pc.indicesToCome ≤ 1 := by
    have hle := hf.underWay_le
    simp only [State.underWay] at hle
    cases hpc : s.pub.pc with
    | dequeue | sendIdx i =>
        -- Nothing is out while the publisher is about to send.
        obtain rfl := hf.lent.eq_idle (by simp [hpc]) (by simp [hpc])
        have hzero := hf.underWay_eq
        simp only [State.underWay, Token.tail, Token.index, Token.acks, List.countP_nil,
          Option.toList_none, List.length_nil] at hzero
        simp only [Publisher.Pc.indicesToCome]
        omega
    | _ =>
        simp only [Publisher.Pc.indicesToCome]
        omega
  have hsub : s.sub.pc.starvedRank ≤ 17 := by cases s.sub.pc <;> simp [Subscriber.Pc.starvedRank]
  have hpub : s.pub.pc.stopRank ≤ 7 := by cases s.pub.pc <;> simp [Publisher.Pc.stopRank]
  simp only [State.starvesSub]
  omega

/-! ## The consequences -/

/-- **No process hangs.** In every reachable state some process has a call that returns
without a move of the other side and without a failure of its own, unless both have finished
or the publisher waits in `accept` for a subscriber that gave up before it connected. -/
theorem no_hang (content : DmaBuf → γ) (as : List (Act γ))
    (hrun : run (step S) (State.init S content) as = some s) : s.Moves S ∨ s.Ended := by
  obtain ⟨⟨t, hf⟩, hw⟩ := wired_run hrun
  exact progress hf hw

/-- With the first image at the subscriber, which the publisher waits for, a call returns. -/
theorem no_hang_firstImage :
    ∃ s : State ℕ, s.pub.pc = .waitForAck 0 ∧ s.toPub = 0 ∧
      (s.Moves Session.twoBuffers ∨ s.Ended) := by
  obtain ⟨s, hrun, hs⟩ := Option.map_eq_some_iff.mp
    (by decide : (run (step Session.twoBuffers) (State.init Session.twoBuffers fun _ => 0)
      firstImage).map (fun s => (s.pub.pc, s.toPub)) = some (.waitForAck 0, 0))
  obtain ⟨hpc, hack⟩ := Prod.mk.inj hs
  exact ⟨s, hpc, hack, no_hang _ _ hrun⟩

/-- A rank on runs of reachable states, with progress, bounds the calls and reaches the
end. -/
theorem ends_of_ranking {I : State γ → Prop} {rank : State γ → ℕ} {n : ℕ}
    (h : Ranking (step S) Act.isCall I rank)
    (hle : ∀ s t, Flow S s t → rank s ≤ n) (hf : ∃ t, Flow S s t) (hw : Wired s) (hI : I s) :
    (∀ bs t, run (step S) s bs = some t →
      bs.countP Act.isCall ≤ n ∧ (t.Moves S ∨ t.Ended)) ∧
    ∃ bs t, run (step S) s bs = some t ∧ Meets (step S) Returns s bs ∧ bs.length ≤ n ∧
      (s.Forsaken → t.Unvisited) ∧ (¬ s.Forsaken → t.Finished) := by
  obtain ⟨t₀, hf₀⟩ := hf
  have hrank := hle s t₀ hf₀
  constructor
  · intro bs t hrun
    have hcount := h.countP_le hI hrun
    obtain ⟨⟨t', hf'⟩, hw'⟩ := run_induction Wired.step ⟨⟨t₀, hf₀⟩, hw⟩ hrun
    exact ⟨by omega, progress hf' hw'⟩
  · have hprog (s : State γ) (hs : I s ∧ (∃ t, Flow S s t) ∧ Wired s) :
        s.Ended ∨ ∃ a s', Act.isCall a = true ∧ Returns s a ∧ step S s a = some s' := by
      obtain ⟨-, ⟨t, hf⟩, hw⟩ := hs
      exact (progress hf hw).symm
    have hjoint : Ranking (step S) Act.isCall
        (fun s => I s ∧ (∃ t, Flow S s t) ∧ Wired s) rank :=
      ⟨fun s a s' hs hstep => ⟨h.keeps s a s' hs.1 hstep, Wired.step s a s' hs.2 hstep⟩,
        fun s a s' hs => h.lowers s a s' hs.1, fun s a s' hs => h.not_raises s a s' hs.1⟩
    obtain ⟨bs, t, hrun, hend, hmeets, hlen⟩ := hjoint.reaches hprog ⟨hI, ⟨t₀, hf₀⟩, hw⟩
    exact ⟨bs, t, hrun, hmeets, by omega, hend.of_returns ⟨t₀, hf₀⟩ hw hmeets hrun⟩

/-- **Shutdown is bounded.** From a reachable state in which either process has been told
to stop, or is already on its way out, every run makes at most 32 more calls, whatever fails,
and some call returns until both have finished or the publisher waits in `accept` for a
subscriber that gave up before it connected. Without a failure on the way, both can finish
within 32 steps, unless the subscriber has given up already. -/
theorem shutdown (content : DmaBuf → γ) (as : List (Act γ))
    (hrun : run (step S) (State.init S content) as = some s)
    (hstop : s.pub.stopping = true ∨ s.sub.stopping = true) :
    (∀ bs t, run (step S) s bs = some t →
      bs.countP Act.isCall ≤ 32 ∧ (t.Moves S ∨ t.Ended)) ∧
    ∃ bs t, run (step S) s bs = some t ∧ Meets (step S) Returns s bs ∧ bs.length ≤ 32 ∧
      (s.Forsaken → t.Unvisited) ∧ (¬ s.Forsaken → t.Finished) := by
  obtain ⟨hf, hw⟩ := wired_run hrun
  rcases hstop with hstop | hstop
  · exact ends_of_ranking (starvesSub_ranking S) (fun s t => starvesSub_le) hf hw hstop
  · exact ends_of_ranking (starvesPub_ranking S)
      (fun s t hf => (starvesPub_le hf).trans (by decide)) hf hw hstop

/-- A signal to the publisher while the subscriber has the first image: both can finish. -/
theorem shutdown_firstImage :
    ∃ s : State ℕ, s.sub.pc.processing = some 0 ∧
      (∀ bs t, run (step Session.twoBuffers) s bs = some t → bs.countP Act.isCall ≤ 32) ∧
      ∃ bs t, run (step Session.twoBuffers) s bs = some t ∧ bs.length ≤ 32 ∧ t.Finished := by
  obtain ⟨s, hrun, hs⟩ := Option.map_eq_some_iff.mp
    (by decide : (run (step Session.twoBuffers) (State.init Session.twoBuffers fun _ => 0)
      (firstImage ++ [.pub .signal])).map
        (fun s => (s.pub.stopping, s.sub.pc.processing, s.connected)) = some (true, some 0, true))
  obtain ⟨hstop, hproc, hconn⟩ : s.pub.stopping = true ∧ s.sub.pc.processing = some 0 ∧
      s.connected = true := by simpa using hs
  obtain ⟨hbound, bs, t, hend, -, hlen, -, hfinished⟩ := shutdown _ _ hrun (.inl hstop)
  refine ⟨s, hproc, fun bs t h => (hbound bs t h).1, bs, t, hend, hlen, hfinished ?_⟩
  rintro ⟨hnot, -⟩
  rw [hconn] at hnot
  cases hnot

end DmabufPipeline
