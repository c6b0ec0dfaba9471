import DmabufPipeline.Pipeline.Steps

/-!
# Lockstep

At most one frame is under way at any time, and it is in exactly one place. A `Token`
names the place: the index unread in the socket, in the hands of the subscriber, or the
acknowledgement unread on the way back. `Flow` ties the token to what both processes
are doing and to what the socket holds, and `Owned` ties the driver's queue to the
publisher's control state. Both are kept by every step, whatever fails.

The counting statement, the absence of deadlock and the bounds on unread bytes are read
off the token.

## Main definitions

* `Owned` — which buffers are with the driver.
* `Token`, `Flow` — where the frame under way is.
* `owned_run`, `flow_run` — both hold in every reachable state.
* `lockstep` — counting, deadlock freedom, byte bounds, and a full queue at `dequeue`.
-/

namespace DmabufPipeline

variable {γ : Type} {S : Session} {s s' : State γ}

/-! ## What `start()` hands over -/

/-- A list whose entry at position `k` carries the number `k` carries `0, 1, …`. -/
private theorem map_index_eq_range {l : List V4l2BufInfo}
    (h : ∀ (k : ℕ) (b : V4l2BufInfo), l[k]? = some b → b.index = k) :
    l.map (·.index) = List.range l.length := by
  apply List.ext_getElem
  · simp
  · intro k hk hk'
    simp only [List.getElem_map, List.getElem_range]
    have hk : k < l.length := by simpa using hk
    exact h k l[k] (List.getElem?_eq_getElem hk)

/-- The entries of a started session are at the positions of their indices, and every
entry has been queued once, in order. -/
theorem Session.Started.entries (h : S.Started) :
    (∀ (k : ℕ) (b : V4l2BufInfo), S.cap.buffers[k]? = some b → b.index = k) ∧
      ∃ fd : V4l2BufInfo → Option Fd,
        qbufCalls S.log = S.cap.buffers.map fun b => .qbuf b.index (fd b) true := by
  cases h with
  | mmap hok _ _ =>
      obtain ⟨_, hentry, hcalls⟩ := V4l2Capture.start_ok hok
      exact ⟨fun k b hk => (hentry k b hk).1, fun _ => none, hcalls⟩
  | dma hok _ =>
      obtain ⟨_, hentry, hcalls⟩ := V4l2CaptureDma.start_ok hok
      exact ⟨hentry, fun b => some b.dmabuf_fd, hcalls⟩

/-- **A successful `start()` has queued every buffer and no other index.** -/
theorem Session.Started.queuedBy_eq (h : S.Started) :
    queuedBy (qbufCalls S.log) = Finset.range S.count := by
  obtain ⟨hentry, fd, hcalls⟩ := h.entries
  have hidx : (qbufCalls S.log).filterMap Call.queuedIndex = S.cap.buffers.map (·.index) := by
    rw [hcalls, List.filterMap_map, ← List.filterMap_eq_map]
    rfl
  rw [queuedBy, hidx, map_index_eq_range hentry]
  ext i
  simp [Session.count]

/-! ## Ownership of the buffers -/

/-- Exactly the buffers that the publisher does not hold are with the driver. -/
structure Owned (S : Session) (s : State γ) : Prop where
  queued : ∀ i, i ∈ s.queued ↔ i < S.count ∧ s.pub.pc.held ≠ some i
  held_lt : ∀ i, s.pub.pc.held = some i → i < S.count

/-- Every step of the publisher moves a buffer between its hands and the driver's queue,
or moves none. -/
theorem Owned.pub {a : Publisher.Act} (h : Owned S s) (hs : PubStep S s a s') : Owned S s' := by
  obtain ⟨hq, hlt⟩ := h
  cases hs with
  | dequeue i hpc hi =>
      have hi' : i < S.count := ((hq i).mp hi).1
      refine ⟨fun j => ?_, fun j hj => ?_⟩
      · simp only [Publisher.pc_goto, Publisher.Pc.held, Finset.mem_erase, hq, hpc]
        grind
      · obtain rfl : i = j := by simpa using hj
        exact hi'
  | requeue i hpc | giveBack i hpc =>
      have hi : i < S.count := hlt i (by simp [hpc])
      have hqueued := S.cap.queuedBy_requeueCalls_true hi
      refine ⟨fun j => ?_, fun j hj => by simp at hj⟩
      simp only [Publisher.pc_goto, Publisher.Pc.held, hqueued, Finset.mem_union,
        Finset.mem_singleton, hq, hpc]
      grind
  | signal => exact ⟨hq, hlt⟩
  | _ => constructor <;> simp_all

/-- One step of the pipeline keeps the ownership of the buffers. -/
theorem Owned.step (s : State γ) (a : Act γ) (s' : State γ) (h : Owned S s)
    (hs : step S s a = some s') : Owned S s' := by
  cases a with
  | pub a => exact h.pub (step_pub_iff.mp hs)
  | sub a => cases step_sub_iff.mp hs <;> exact ⟨h.queued, h.held_lt⟩
  | fill i c =>
      obtain ⟨-, rfl⟩ := step_fill.mp hs
      exact ⟨h.queued, h.held_lt⟩
  | gpuDone i =>
      obtain ⟨-, rfl⟩ := step_gpuDone.mp hs
      exact ⟨h.queued, h.held_lt⟩

/-- **In every reachable state the publisher holds at most one buffer, and the driver has
exactly the others.** -/
theorem owned_run {content : DmaBuf → γ} {as : List (Act γ)} (hS : S.Started)
    (hrun : Transition.run (step S) (State.init S content) as = some s) : Owned S s := by
  refine Transition.run_induction Owned.step ?_ hrun
  refine ⟨fun i => ?_, fun i hi => by simp [State.init] at hi⟩
  simp [State.init, hS.queuedBy_eq]

/-! ## The frame under way -/

/-- The bytes sent to the subscriber and not yet read. -/
def State.unreadBytes (s : State γ) : ℕ := (s.toSub.map Packet.size).sum

/-- Where the one frame under way is. -/
inductive Token
  | idle
  /-- Its index is unread in the socket. -/
  | unread (i : ℕ)
  /-- Its index has been read and is not acknowledged. -/
  | processing (i : ℕ)
  /-- Its acknowledgement is unread in the socket. -/
  | acked
  /-- The last send was cut short after `n` bytes. -/
  | torn (n : ℕ)

namespace Token

/-- What the token puts into the socket, behind the handshake. -/
def tail : Token → List Packet
  | .unread i => [.idx i]
  | .torn n => [.torn n]
  | _ => []

/-- The unread acknowledgements. -/
def acks : Token → ℕ
  | .acked => 1
  | _ => 0

/-- The index in the hands of the subscriber. -/
def index : Token → Option ℕ
  | .processing i => some i
  | _ => none

/-- What the token says about the publisher: an index is out only while the publisher
waits for its acknowledgement or is on its way out. -/
def Lent (pc : Publisher.Pc) (u : Subscriber.Pc) : Token → Prop
  | .idle => ∀ i, pc = .waitForAck i → u.hasLeft
  | .unread i | .processing i => pc = .waitForAck i ∨ pc.leaving
  | .acked => (∃ i, pc = .waitForAck i) ∨ pc.leaving
  | .torn _ => pc.leaving

/-- Nothing is out while the publisher neither waits nor leaves. -/
theorem Lent.eq_idle {t : Token} {pc : Publisher.Pc} {u : Subscriber.Pc} (h : t.Lent pc u)
    (hw : ∀ i, pc ≠ .waitForAck i) (hl : pc.leaving = false) : t = .idle := by
  cases t with
  | idle => rfl
  | unread i | processing i => rcases h with h | h <;> simp_all
  | acked => rcases h with ⟨i, h⟩ | h <;> simp_all
  | torn n => simp_all [Lent]

end Token

/-- The token `t` describes the state: what is unread in the socket, which index the
subscriber has, and what the publisher may be doing. -/
structure Flow (S : Session) (s : State γ) (t : Token) : Prop where
  toSub : ∃ hs, s.toSub = hs ++ t.tail ∧
    (hs = [] ∨ hs = [.handshake S.shared] ∧ s.sub.pc.inSession = false)
  toPub : s.toPub = t.acks
  processing : s.sub.pc.processing = t.index
  lent : t.Lent s.pub.pc s.sub.pc
  starting : s.pub.pc.starting → s.toSub = [] ∧ t = .idle ∧ s.sub.pc.inSession = false
  torn : ∀ n, t = .torn n → s.unreadBytes < 28

/-- A publisher step that leaves the socket alone, and neither starts nor goes on
waiting, leaves the frame where it is. -/
theorem Flow.of_pub {t : Token} (h : Flow S s t) (hsub : s'.sub = s.sub)
    (hin : s'.toSub = s.toSub) (hout : s'.toPub = s.toPub) (hw : ∀ i, s'.pub.pc ≠ .waitForAck i)
    (hl : (∃ i, s.pub.pc = .waitForAck i) ∨ s.pub.pc.leaving → s'.pub.pc.leaving)
    (hst : s'.pub.pc.starting → s.pub.pc.starting) : Flow S s' t := by
  refine ⟨?_, ?_, ?_, ?_, ?_, ?_⟩
  · rw [hin, hsub]
    exact h.toSub
  · rw [hout]
    exact h.toPub
  · rw [hsub]
    exact h.processing
  · have hlent := h.lent
    rw [hsub]
    cases t with
    | idle => exact fun i hi => absurd hi (hw i)
    | unread i | processing i => exact .inr (hl (hlent.imp_left fun h => ⟨i, h⟩))
    | acked => exact .inr (hl hlent)
    | torn n => exact hl (.inr hlent)
  · intro h'
    rw [hin, hsub]
    exact h.starting (hst h')
  · intro n hn
    rw [State.unreadBytes, hin]
    exact h.torn n hn

/-- A subscriber step that leaves the socket and the index at hand alone leaves the frame
where it is. -/
theorem Flow.of_sub {t : Token} (h : Flow S s t) (hpub : s'.pub = s.pub)
    (hin : s'.toSub = s.toSub) (hout : s'.toPub = s.toPub)
    (hproc : s'.sub.pc.processing = s.sub.pc.processing)
    (hleft : s.sub.pc.hasLeft → s'.sub.pc.hasLeft)
    (hsess : s.sub.pc.inSession = false → s'.sub.pc.inSession = false) : Flow S s' t := by
  refine ⟨?_, ?_, ?_, ?_, ?_, ?_⟩
  · obtain ⟨hs, hhs, hcase⟩ := h.toSub
    exact ⟨hs, hin.trans hhs, hcase.imp_right fun hc => ⟨hc.1, hsess hc.2⟩⟩
  · rw [hout]
    exact h.toPub
  · rw [hproc]
    exact h.processing
  · have hlent := h.lent
    rw [hpub]
    cases t with
    | idle => exact fun i hi => hleft (hlent i hi)
    | unread | processing | acked | torn => exact hlent
  · intro hst
    rw [hpub] at hst
    obtain ⟨h₁, h₂, h₃⟩ := h.starting hst
    exact ⟨hin.trans h₁, h₂, hsess h₃⟩
  · intro n hn
    rw [State.unreadBytes, hin]
    exact h.torn n hn

/-- The unread handshake counts 24 bytes, the token the rest. -/
theorem Flow.unreadBytes_le {t : Token} (h : Flow S s t) :
    s.unreadBytes ≤ 24 + (t.tail.map Packet.size).sum := by
  obtain ⟨hs, hin, rfl | ⟨rfl, -⟩⟩ := h.toSub <;>
    simp [State.unreadBytes, hin, Packet.size, handshakeSize]

/-- Within the session, the socket holds just the frame under way. -/
theorem Flow.toSub_eq {t : Token} (h : Flow S s t) (hsess : s.sub.pc.inSession = true) :
    s.toSub = t.tail := by
  obtain ⟨hs, hin, rfl | ⟨-, hf⟩⟩ := h.toSub
  · exact hin
  · rw [hsess] at hf
    cases hf

/-- Within the session, the publisher has sent its handshake. -/
theorem Flow.not_starting {t : Token} (h : Flow S s t) (hsess : s.sub.pc.inSession = true) :
    ¬ s.pub.pc.starting := by
  intro hst
  have hf := (h.starting hst).2.2
  rw [hsess] at hf
  cases hf

/-- An index in the hands of the subscriber is the frame under way. -/
theorem Flow.eq_processing {t : Token} (h : Flow S s t) {i : ℕ}
    (hi : s.sub.pc.processing = some i) : t = .processing i := by
  have hp := h.processing
  rw [hi] at hp
  cases t <;> simp_all [Token.index]

/-- The publisher's steps carry the token. -/
theorem Flow.pub {a : Publisher.Act} {t : Token} (h : Flow S s t) (hs : PubStep S s a s') :
    ∃ t', Flow S s' t' := by
  cases hs with
  | sendHandshake hpc hsock =>
      obtain ⟨hin, rfl, hsess⟩ := h.starting (by simp [hpc])
      refine ⟨.idle, ⟨[.handshake S.shared], ?_, .inr ⟨rfl, hsess⟩⟩, h.toPub, h.processing,
        ?_, ?_, ?_⟩
      · simp [hin, Token.tail]
      · simp [Token.Lent]
      · simp
      · simp
  | handshakeShort n hpc hsock hn =>
      obtain ⟨hin, rfl, hsess⟩ := h.starting (by simp [hpc])
      refine ⟨.torn n, ⟨[], ?_, .inl rfl⟩, h.toPub, h.processing, ?_, ?_, ?_⟩
      · simp [hin, Token.tail]
      · simp [Token.Lent]
      · simp
      · rintro m -
        simp only [State.unreadBytes, hin, handshakeSize] at hn ⊢
        simp [Packet.size]
        omega
  | sendIdx i hpc hsock =>
      obtain rfl := h.lent.eq_idle (by simp [hpc]) (by simp [hpc])
      obtain ⟨hs, hin, hhs⟩ := h.toSub
      refine ⟨.unread i, ⟨hs, ?_, hhs⟩, h.toPub, h.processing, ?_, ?_, ?_⟩
      · simp [hin, Token.tail]
      · simp [Token.Lent]
      · simp
      · simp
  | sendIdxShort i n hpc hsock hn =>
      obtain rfl := h.lent.eq_idle (by simp [hpc]) (by simp [hpc])
      obtain ⟨hs, hin, hhs⟩ := h.toSub
      refine ⟨.torn n, ⟨hs, ?_, hhs⟩, h.toPub, h.processing, ?_, ?_, ?_⟩
      · simp [hin, Token.tail]
      · simp [Token.Lent]
      · simp
      · rintro m -
        have hle := h.unreadBytes_le
        simp only [State.unreadBytes, Token.tail, List.map_nil, List.sum_nil] at hle ⊢
        simp only [List.map_append, List.sum_append, List.map_singleton, List.sum_singleton,
          Packet.size]
        omega
  | acked i hpc hack =>
      -- The acknowledgement that the publisher reads is the token.
      have ht : t = .acked := by
        have := h.toPub
        cases t <;> simp_all [Token.acks]
      subst ht
      refine ⟨.idle, h.toSub, ?_, h.processing, ?_, ?_, ?_⟩
      · simp [h.toPub, Token.acks]
      · simp [Token.Lent]
      · simp
      · simp
  | dropClient f hpc =>
      cases t with
      | acked =>
          exact ⟨.idle, h.toSub, rfl, h.processing, by simp [Token.Lent], by simp, by simp⟩
      | idle | unread | processing | torn =>
          have hout : 0 = s.toPub := by rw [h.toPub]; rfl
          exact ⟨_, h.of_pub rfl rfl hout (by simp) (by simp) (by simp)⟩
  | signal => exact ⟨t, h.toSub, h.toPub, h.processing, h.lent, h.starting, h.torn⟩
  | _ => exact ⟨t, h.of_pub rfl rfl rfl (by simp_all) (by simp_all) (by simp_all)⟩

/-- A frame whose import or acknowledgement failed is under way no more. -/
theorem Flow.giveUp {t : Token} {i : ℕ} (h : Flow S s t) (hi : s.sub.pc.processing = some i)
    (e : Subscriber.Exit) : Flow S { s with sub := s.sub.goto (.left e) } .idle := by
  obtain rfl := h.eq_processing hi
  refine ⟨?_, h.toPub, rfl, fun _ _ => rfl, ?_, nofun⟩
  · obtain ⟨hs, hin, hcase⟩ := h.toSub
    exact ⟨hs, hin, hcase.imp_right fun hc => ⟨hc.1, rfl⟩⟩
  · intro hst
    obtain ⟨-, ht, -⟩ := h.starting hst
    cases ht

/-- The subscriber's steps carry the token. -/
theorem Flow.sub {a : Subscriber.Act DmaBuf} {t : Token} (h : Flow S s t)
    (hs : SubStep s a s') : ∃ t', Flow S s' t' := by
  cases hs with
  | recvHandshake fds rest hpc hread hmax =>
      obtain ⟨hs, hin, hcase⟩ := h.toSub
      have hrest : rest = t.tail := by
        have happ : hs ++ t.tail = .handshake fds :: rest := hin.symm.trans hread
        rcases hcase with rfl | ⟨rfl, -⟩
        · cases t <;> simp [Token.tail] at happ
        · exact (List.cons.inj happ).2.symm
      have hst : ¬ s.pub.pc.starting := by
        intro hst
        have hempty := (h.starting hst).1
        rw [hread] at hempty
        cases hempty
      have hproc := h.processing
      have hlent := h.lent
      refine ⟨t, ⟨[], hrest, .inl rfl⟩, h.toPub, ?_, ?_, fun h' => absurd h' hst, ?_⟩
      · simpa [hpc] using hproc
      · cases t with
        | idle => exact fun i hi => by simpa [hpc] using hlent i hi
        | unread | processing | acked | torn => exact hlent
      · intro n hn
        have hlt := h.torn n hn
        simp only [State.unreadBytes, hread, List.map_cons, List.sum_cons] at hlt ⊢
        omega
  | recvIdx i rest hpc hread =>
      have hin := h.toSub_eq (by simp [hpc])
      have hst := h.not_starting (by simp [hpc])
      have hlent := h.lent
      cases t with
      | unread j =>
          obtain ⟨rfl, rfl⟩ : i = j ∧ rest = [] := by simpa [hread, Token.tail] using hin
          exact ⟨.processing i, ⟨[], rfl, .inl rfl⟩, h.toPub, rfl, hlent,
            fun h' => absurd h' hst, nofun⟩
      | idle | processing | acked | torn => simp [hread, Token.tail] at hin
  | importFailed i hpc | overflow i hpc | outOfBounds i _ hpc | ackFailed i hpc =>
      exact ⟨.idle, h.giveUp (by rw [hpc]; rfl) _⟩
  | sendAck i hpc hopen =>
      obtain rfl := h.eq_processing (i := i) (by simp [hpc])
      have hin := h.toSub_eq (by simp [hpc])
      have hst := h.not_starting (by simp [hpc])
      exact ⟨.acked, ⟨[], hin, .inl rfl⟩, by simp [h.toPub, Token.acks], rfl,
        h.lent.imp_left fun hw => ⟨i, hw⟩, fun h' => absurd h' hst, nofun⟩
  | dropSock e hpc =>
      have hproc := h.processing
      cases t with
      | idle | unread | torn =>
          exact ⟨.idle, ⟨[], rfl, .inl rfl⟩, h.toPub, rfl, fun _ _ => rfl,
            fun _ => ⟨rfl, rfl, rfl⟩, nofun⟩
      | processing i => simp [hpc, Token.index] at hproc
      | acked =>
          exact ⟨.acked, ⟨[], rfl, .inl rfl⟩, h.toPub, rfl, h.lent,
            fun hst => ⟨rfl, (h.starting hst).2.1, rfl⟩, nofun⟩
  | signal | closeRequest =>
      exact ⟨t, h.toSub, h.toPub, h.processing, h.lent, h.starting, h.torn⟩
  | _ => exact ⟨t, h.of_sub rfl rfl rfl (by simp_all) (by simp_all) (by simp_all)⟩

/-- One step of the pipeline carries the token. -/
theorem Flow.step (s : State γ) (a : Act γ) (s' : State γ) (h : ∃ t, Flow S s t)
    (hs : step S s a = some s') : ∃ t, Flow S s' t := by
  obtain ⟨t, h⟩ := h
  cases a with
  | pub a => exact h.pub (step_pub_iff.mp hs)
  | sub a => exact h.sub (step_sub_iff.mp hs)
  | fill i c =>
      obtain ⟨-, rfl⟩ := step_fill.mp hs
      exact ⟨t, h.toSub, h.toPub, h.processing, h.lent, h.starting, h.torn⟩
  | gpuDone i =>
      obtain ⟨-, rfl⟩ := step_gpuDone.mp hs
      exact ⟨t, h.toSub, h.toPub, h.processing, h.lent, h.starting, h.torn⟩

/-- The pipeline starts with no frame under way. -/
theorem Flow.init (S : Session) (content : DmaBuf → γ) :
    Flow S (State.init S content) .idle :=
  ⟨⟨[], rfl, .inl rfl⟩, rfl, rfl, nofun, fun _ => ⟨rfl, rfl, rfl⟩, nofun⟩

/-- **In every reachable state the frame under way is in exactly one place.** -/
theorem flow_run {content : DmaBuf → γ} {as : List (Act γ)}
    (hrun : Transition.run (step S) (State.init S content) as = some s) : ∃ t, Flow S s t :=
  Transition.run_induction Flow.step ⟨.idle, Flow.init S content⟩ hrun

/-! ## The consequences -/

/-- Whether a packet is an index. -/
def Packet.isIdx : Packet → Bool
  | .idx _ => true
  | _ => false

/-- The indices sent and not yet read, plus one if the subscriber is processing an index
it has not acknowledged, plus the acknowledgements sent and not yet read. -/
def State.underWay (s : State γ) : ℕ :=
  s.toSub.countP Packet.isIdx + s.sub.pc.processing.toList.length + s.toPub

/-- Both sockets are open, both processes are blocked in a receive, and nothing is unread
in either direction. -/
def State.Deadlocked (s : State γ) : Prop :=
  s.pubOpen = true ∧ s.sub.sock = true ∧ (∃ i, s.pub.pc = .waitForAck i) ∧
    (s.sub.pc = .recvHandshake ∨ s.sub.pc = .recvIdx) ∧ s.toSub = [] ∧ s.toPub = 0

/-- The bytes that the publisher is about to send. -/
def Publisher.Pc.sendSize : Publisher.Pc → ℕ
  | .sendHandshake => handshakeSize
  | .sendIdx _ => 4
  | _ => 0

/-- The bytes that the subscriber is about to send. -/
def Subscriber.Pc.sendSize : Subscriber.Pc → ℕ
  | .sendAck _ => 1
  | _ => 0

/-- The token is what the counting statement counts. -/
theorem Flow.underWay_eq {t : Token} (h : Flow S s t) :
    s.underWay = t.tail.countP Packet.isIdx + t.index.toList.length + t.acks := by
  have hin : s.toSub.countP Packet.isIdx = t.tail.countP Packet.isIdx := by
    obtain ⟨hs, hin, rfl | ⟨rfl, -⟩⟩ := h.toSub <;> simp [hin, Packet.isIdx]
  rw [State.underWay, hin, h.processing, h.toPub]

/-- At most one frame is under way. -/
theorem Flow.underWay_le {t : Token} (h : Flow S s t) : s.underWay ≤ 1 := by
  rw [h.underWay_eq]
  cases t <;> simp [Token.tail, Token.index, Token.acks, Packet.isIdx]

/-- While the publisher waits for a subscriber in its loop, a frame is under way. -/
theorem Flow.underWay_eq_one {t : Token} (h : Flow S s t) {i : ℕ} (hw : s.pub.pc = .waitForAck i)
    (hl : s.sub.pc.hasLeft = false) : s.underWay = 1 := by
  rw [h.underWay_eq]
  have hlent := h.lent
  cases t with
  | idle =>
      have hleft := hlent i hw
      rw [hl] at hleft
      cases hleft
  | torn n => simp [Token.Lent, hw] at hlent
  | unread | processing | acked =>
      simp [Token.tail, Token.index, Token.acks, Packet.isIdx]

/-- The two processes never wait for each other. -/
theorem Flow.not_deadlocked {t : Token} (h : Flow S s t) : ¬ s.Deadlocked := by
  rintro ⟨-, -, ⟨i, hw⟩, hblocked, hin, hout⟩
  have hone := h.underWay_eq_one hw (by rcases hblocked with h' | h' <;> rw [h'] <;> rfl)
  have hproc : s.sub.pc.processing = none := by rcases hblocked with h' | h' <;> rw [h'] <;> rfl
  rw [State.underWay, hin, hout, hproc] at hone
  simp at hone

/-- What is unread and what is about to be sent never exceed the handshake and one
index. -/
theorem Flow.bytes_le {t : Token} (h : Flow S s t) :
    s.unreadBytes + s.pub.pc.sendSize ≤ 28 := by
  have hle := h.unreadBytes_le
  cases hpc : s.pub.pc with
  | sendHandshake =>
      have hin := (h.starting (by simp [hpc])).1
      simp [State.unreadBytes, hin, Publisher.Pc.sendSize, handshakeSize]
  | sendIdx i =>
      obtain rfl := h.lent.eq_idle (by simp [hpc]) (by simp [hpc])
      simpa [Token.tail, Publisher.Pc.sendSize] using hle
  | _ =>
      cases t with
      | torn n =>
          have := h.torn n rfl
          simp only [Publisher.Pc.sendSize]
          omega
      | idle | unread | processing | acked =>
          simp only [Token.tail, List.map_cons, List.map_nil, List.sum_cons, List.sum_nil,
            Packet.size, Publisher.Pc.sendSize] at hle ⊢
          omega

/-- At most one acknowledgement is unread or about to be sent. -/
theorem Flow.acks_le {t : Token} (h : Flow S s t) : s.toPub + s.sub.pc.sendSize ≤ 1 := by
  cases hpc : s.sub.pc with
  | sendAck i =>
      obtain rfl := h.eq_processing (i := i) (by simp [hpc])
      simp [h.toPub, Token.acks, Subscriber.Pc.sendSize]
  | _ =>
      rw [h.toPub]
      cases t <;> simp [Token.acks, Subscriber.Pc.sendSize]

/-- **The two processes run in lockstep.** In every reachable state at most one frame is
under way, exactly one while the publisher waits for a subscriber in its loop; the two
never wait for each other; at most 28 bytes are unread towards the subscriber and one
towards the publisher, a send about to be made included; and the publisher calls
`dequeue` only with all buffers at the driver. -/
theorem lockstep (hS : S.Started) (content : DmaBuf → γ) (as : List (Act γ))
    (hrun : Transition.run (step S) (State.init S content) as = some s) :
    s.underWay ≤ 1 ∧
      (∀ i, s.pub.pc = .waitForAck i → s.sub.pc.hasLeft = false → s.underWay = 1) ∧
      ¬ s.Deadlocked ∧
      s.unreadBytes + s.pub.pc.sendSize ≤ 28 ∧
      s.toPub + s.sub.pc.sendSize ≤ 1 ∧
      (s.pub.pc = .dequeue → s.queued = Finset.range S.count) := by
  obtain ⟨t, h⟩ := flow_run hrun
  have howned := owned_run hS hrun
  refine ⟨h.underWay_le, fun i => h.underWay_eq_one, h.not_deadlocked, h.bytes_le, h.acks_le, ?_⟩
  intro hpc
  ext i
  simp [howned.queued i, hpc]

/-- While the subscriber has the first image, the publisher waits and one frame is under
way. -/
theorem lockstep_firstImage :
    ∃ s, Transition.run (step Session.twoBuffers) (State.init Session.twoBuffers fun _ => 0)
        firstImage = some s ∧ s.pub.pc = .waitForAck 0 ∧ s.underWay = 1 := by
  obtain ⟨s, hrun, hs⟩ := Option.map_eq_some_iff.mp
    (by decide : (Transition.run (step Session.twoBuffers)
      (State.init Session.twoBuffers fun _ => 0) firstImage).map
        (fun s => (s.pub.pc, s.sub.pc.hasLeft)) = some (.waitForAck 0, false))
  obtain ⟨hw, hl⟩ := Prod.mk.inj hs
  exact ⟨s, hrun, hw, (lockstep Session.twoBuffers_started _ _ hrun).2.1 0 hw hl⟩

end DmabufPipeline
