import DmabufPipeline.Pipeline.Lockstep

/-!
# Many subscribers

Nothing keeps several subscribers from connecting to one publisher. The listening socket
queues them, and `main` accepts once. Here the subscribers are a family over any type of
names, each with its own two directions of a socket; the calls of the publisher go to the
connection it accepted.

Every run of such a crowd is a run of the pipeline with one subscriber, the first that
connected while the publisher was in `accept`. The others are never sent anything: they
stay in `recv_handshake` until they fail. What is proved of the pipeline therefore holds
of the publisher, the driver and the frames whatever the crowd does.

## Main definitions

* `Crowd`, `Crowd.step` — one publisher and a family of subscribers.
* `Crowd.viewOf` — the pipeline that the publisher and one subscriber form.
* `Crowd.Serving` — who is served, and what the others have.
* `Crowd.one_session` — the refinement.
-/

namespace DmabufPipeline

open Transition

/-- One publisher and subscribers named by `ι`, over contents of type `γ`. -/
structure Crowd (ι γ : Type) where
  pub : Publisher := {}
  subs : ι → Subscriber DmaBuf := fun _ => {}
  /-- `listen_fd` is open. -/
  listening : Bool := false
  /-- Connected and not accepted, the earliest first. -/
  backlog : List ι := []
  /-- Whose connection `accept` returned. -/
  client : Option ι := none
  toSub : ι → List Packet := fun _ => []
  toPub : ι → ℕ := fun _ => 0
  queued : Finset ℕ
  qbufs : List Call
  content : DmaBuf → γ
  produced : List γ := []
  /-- What the `draw` calls of all subscribers read, and their reads in the GPU. -/
  drawn : List γ := []
  gpu : List ℕ := []

namespace Crowd

variable {ι γ : Type} [DecidableEq ι]

/-- A step of the publisher, of one of the subscribers, of the driver, or of the GPU. -/
inductive Act (ι γ : Type)
  | pub (a : Publisher.Act)
  | sub (i : ι) (a : Subscriber.Act DmaBuf)
  | fill (i : ℕ) (c : γ)
  | gpuDone (i : ℕ)

/-- The state in which `start()` has just returned Ok, with no subscriber connected. -/
def init (S : Session) (content : DmaBuf → γ) : Crowd ι γ where
  queued := queuedBy (qbufCalls S.log)
  qbufs := qbufCalls S.log
  content := content

/-- The publisher and subscriber `i`, as a pipeline. -/
def view (s : Crowd ι γ) (i : ι) : State γ where
  pub := s.pub
  sub := s.subs i
  connected := s.client = some i ∨ i ∈ s.backlog
  toSub := s.toSub i
  toPub := s.toPub i
  queued := s.queued
  qbufs := s.qbufs
  content := s.content
  produced := s.produced
  drawn := s.drawn
  gpu := s.gpu

/-- What a call has made of everything but the two processes, back in its place. -/
def put (s : Crowd ι γ) (i : ι) (e : State γ) : Crowd ι γ :=
  { s with
    toSub := Function.update s.toSub i e.toSub
    toPub := Function.update s.toPub i e.toPub
    queued := e.queued
    qbufs := e.qbufs
    content := e.content
    produced := e.produced
    drawn := e.drawn
    gpu := e.gpu }

/-- What a call of the publisher does to the rest: `client` is the connection that it
uses, and there is none before `accept` returned one. Dropping `client` and `listen_fd`
closes all connections. -/
def pubEffect (S : Session) (s : Crowd ι γ) : Publisher.Act → Option (Crowd ι γ)
  | .prepare ok => some { s with listening := ok }
  | .accept true =>
      match s.backlog with
      | i :: rest => some { s with client := some i, backlog := rest }
      | [] => none
  | .dropClient => some { s with listening := false, toPub := fun _ => 0 }
  | a =>
      match s.client with
      | some i => (DmabufPipeline.pubEffect S (s.view i) a).map (s.put i)
      | none => some s

/-- What a call of subscriber `i` does to the rest. -/
def subEffect (s : Crowd ι γ) (i : ι) : Subscriber.Act DmaBuf → Option (Crowd ι γ)
  | .connect true => if s.listening then some { s with backlog := s.backlog ++ [i] } else none
  | a => (DmabufPipeline.subEffect (s.view i) a).map (s.put i)

/-- **One step of the crowd.** -/
def step (S : Session) (s : Crowd ι γ) : Act ι γ → Option (Crowd ι γ)
  | .pub a => (s.pub.step a).bind fun p => (pubEffect S s a).map fun e => { e with pub := p }
  | .sub i a =>
      ((s.subs i).step a).bind fun u =>
        (subEffect s i a).map fun e => { e with subs := Function.update e.subs i u }
  | .fill i c =>
      if i ∈ s.queued then
        some { s with content := Function.update s.content (S.memory s.qbufs i) c }
      else none
  | .gpuDone i => if i ∈ s.gpu then some { s with gpu := s.gpu.erase i } else none

/-! ## The pipeline in the crowd -/

/-- The pipeline that the publisher forms with the subscriber it serves, if any. -/
def viewOf (s : Crowd ι γ) : Option ι → State γ
  | some i => { s.view i with connected := true }
  | none =>
      { pub := s.pub, queued := s.queued, qbufs := s.qbufs, content := s.content,
        produced := s.produced, drawn := s.drawn, gpu := s.gpu }

/-- Subscriber `j` has got nothing: it is at most waiting for a handshake. -/
structure Unserved (s : Crowd ι γ) (j : ι) : Prop where
  pc : (s.subs j).pc = .connect ∨ (s.subs j).pc = .recvHandshake ∨ (s.subs j).pc.hasLeft
  buf_fds : (s.subs j).buf_fds = []
  sock : (s.subs j).pc = .connect → (s.subs j).sock = false
  toSub : s.toSub j = []
  toPub : s.toPub j = 0

/-- The publisher serves `first`, the one that connected first while it was in `accept`,
and nobody else. -/
structure Serving (s : Crowd ι γ) (first : Option ι) : Prop where
  served : ∀ i, first = some i → (s.subs i).pc ≠ .connect ∧
    (s.client = some i ∨ s.client = none ∧ ∃ rest, s.backlog = i :: rest)
  client : ∀ i, s.client = some i → first = some i ∧ s.pub.pc ≠ .prepare ∧ s.pub.pc ≠ .accept
  unaccepted : s.client = none →
    s.pub.pc = .prepare ∨ s.pub.pc = .accept ∨ s.pub.pc.hasLeft
  idle : s.pub.pc = .prepare → s.backlog = [] ∧ s.listening = false
  waiting : first = none → s.pub.pc = .accept → s.backlog = []
  unserved : ∀ j, first ≠ some j → s.Unserved j

/-! ## What the calls leave alone -/

omit [DecidableEq ι] in
theorem PubStep_frame {S : Session} {t t' : State γ} {a : Publisher.Act} (h : PubStep S t a t') :
    t'.sub = t.sub ∧ t'.connected = t.connected := by
  cases h <;> exact ⟨rfl, rfl⟩

theorem SubStep_frame {t t' : State γ} {a : Subscriber.Act DmaBuf} (h : SubStep t a t')
    (ha : a ≠ .connect true) : t'.pub = t.pub ∧ t'.connected = t.connected := by
  cases h with
  | connect => exact absurd rfl ha
  | _ => exact ⟨rfl, rfl⟩

variable {S : Session} {s s' : Crowd ι γ} {first : Option ι}

/-- The served subscriber's connection is in the backlog or accepted. -/
theorem Serving.view_eq (h : s.Serving first) {i : ι} (hi : first = some i) :
    s.view i = s.viewOf first := by
  obtain ⟨-, hc⟩ := h.served i hi
  have hconn : s.client = some i ∨ i ∈ s.backlog := by
    rcases hc with hc | ⟨-, rest, hb⟩
    · exact .inl hc
    · exact .inr (by simp [hb])
  simp [hi, viewOf, view, hconn]

/-- A step of the crowd is matched by the pipeline that the publisher forms with the
subscriber it serves. -/
def Matched (S : Session) (s s' : Crowd ι γ) (first : Option ι) : Prop :=
  ∃ bs first', run (DmabufPipeline.step S) (s.viewOf first) bs = some (s'.viewOf first') ∧
    s'.Serving first'

/-- A step that the pipeline does not see. -/
theorem Matched.stutter (first' : Option ι) (hview : s'.viewOf first' = s.viewOf first)
    (h : s'.Serving first') : Matched S s s' first :=
  ⟨[], first', by rw [run_nil, hview], h⟩

/-- A step that is one step of the pipeline. -/
theorem Matched.one (a : DmabufPipeline.Act γ) (first' : Option ι)
    (hs : DmabufPipeline.step S (s.viewOf first) a = some (s'.viewOf first'))
    (h : s'.Serving first') : Matched S s s' first :=
  ⟨[a], first', run_cons_eq_some.mpr ⟨_, hs, rfl⟩, h⟩

omit [DecidableEq ι] in
/-- A call of the publisher that accepts nobody keeps whom it serves. -/
theorem Serving.of_pub (h : s.Serving first) (hsubs : s'.subs = s.subs)
    (hclient : s'.client = s.client) (hbacklog : s'.backlog = s.backlog)
    (htoSub : ∀ j, first ≠ some j → s'.toSub j = s.toSub j)
    (htoPub : ∀ j, first ≠ some j → s'.toPub j = 0)
    (hprep : s'.pub.pc = .prepare → s.pub.pc = .prepare ∧ s'.listening = s.listening)
    (hacc : s'.pub.pc = .accept → s.pub.pc = .accept)
    (hleft : s.client = none →
      s'.pub.pc = .prepare ∨ s'.pub.pc = .accept ∨ s'.pub.pc.hasLeft) :
    s'.Serving first := by
  refine ⟨?_, ?_, ?_, ?_, ?_, ?_⟩
  · intro i hi
    rw [hsubs, hclient, hbacklog]
    exact h.served i hi
  · intro i hi
    rw [hclient] at hi
    obtain ⟨hfirst, hnp, hna⟩ := h.client i hi
    exact ⟨hfirst, fun hp => hnp (hprep hp).1, fun ha => hna (hacc ha)⟩
  · intro hnone
    rw [hclient] at hnone
    exact hleft hnone
  · intro hp
    obtain ⟨hp, hlisten⟩ := hprep hp
    obtain ⟨hb, hl⟩ := h.idle hp
    exact ⟨hbacklog.trans hb, hlisten.trans hl⟩
  · intro hnone ha
    exact hbacklog.trans (h.waiting hnone (hacc ha))
  · intro j hj
    have hun := h.unserved j hj
    exact ⟨hsubs ▸ hun.pc, hsubs ▸ hun.buf_fds, hsubs ▸ hun.sock, (htoSub j hj).trans hun.toSub,
      htoPub j hj⟩

/-- A call on the accepted connection is that call in the pipeline. -/
theorem matched_client {a : Publisher.Act} {p : Publisher} {e' : State γ} {i : ι}
    (h : s.Serving first) (hc : s.client = some i) (hp : s.pub.step a = some p)
    (he : DmabufPipeline.pubEffect S (s.view i) a = some e') :
    Matched S s { s.put i e' with pub := p } first := by
  obtain ⟨hi, hnp, hna⟩ := h.client i hc
  have hview := h.view_eq hi
  have hs : DmabufPipeline.step S (s.viewOf first) (.pub a) = some { e' with pub := p } :=
    step_pub.mpr ⟨p, e', by rw [← hview]; exact hp, by rw [← hview]; exact he, rfl⟩
  obtain ⟨hsub, hconn⟩ := PubStep_frame (step_pub_iff.mp hs)
  have hsub : e'.sub = s.subs i := by rw [← hview] at hsub; exact hsub
  have hconn : e'.connected = true := by rw [hi] at hconn; exact hconn
  have hnew : ({ s.put i e' with pub := p } : Crowd ι γ).viewOf first = { e' with pub := p } := by
    simp [hi, viewOf, view, put, ← hsub, ← hconn]
  have hne (j : ι) (hj : first ≠ some j) : j ≠ i := by
    intro heq
    exact hj (heq ▸ hi)
  refine .one (.pub a) first (hs.trans (congrArg some hnew.symm))
    (h.of_pub rfl rfl rfl ?_ ?_ ?_ ?_ ?_)
  · intro j hj
    simp [put, hne j hj]
  · intro j hj
    simp [put, hne j hj, (h.unserved j hj).toPub]
  · intro hprep
    exact absurd hprep (by cases Publisher.step_iff.mp hp <;> simp_all)
  · intro hacc
    exact absurd hacc (by cases Publisher.step_iff.mp hp <;> simp_all)
  · intro hnone
    rw [hc] at hnone
    cases hnone

omit [DecidableEq ι] in
/-- Before `accept`, nobody is served. -/
theorem Serving.eq_none (h : s.Serving first) (hpc : s.pub.pc = .prepare) : first = none := by
  cases hf : first with
  | none => rfl
  | some i =>
      rcases (h.served i hf).2 with hc | ⟨-, rest, hb⟩
      · exact absurd hpc (h.client i hc).2.1
      · rw [(h.idle hpc).1] at hb
        cases hb

/-- `create_listening_socket` succeeds or fails. -/
theorem matched_prepare {ok : Bool} {pc : Publisher.Pc} (h : s.Serving first)
    (hpc : s.pub.pc = .prepare) (hnew : pc = .accept ∨ pc = .left none)
    (hs : PubStep S (s.viewOf none) (.prepare ok) { s.viewOf none with pub := s.pub.goto pc }) :
    Matched S s { s with listening := ok, pub := s.pub.goto pc } first := by
  obtain rfl := h.eq_none hpc
  refine .one (.pub (.prepare ok)) none (step_pub_iff.mpr hs) ⟨nofun, ?_, ?_, ?_, ?_, ?_⟩
  · intro i hi
    exact absurd hpc (h.client i hi).2.1
  · intro _
    rcases hnew with rfl | rfl <;> simp
  · intro hp
    rcases hnew with rfl | rfl <;> simp at hp
  · intro _ _
    exact (h.idle hpc).1
  · intro j hj
    have hun := h.unserved j hj
    exact ⟨hun.pc, hun.buf_fds, hun.sock, hun.toSub, hun.toPub⟩

/-- `accept` returns the connection of the subscriber that connected first. -/
theorem matched_accept {e : Crowd ι γ} (h : s.Serving first) (hpc : s.pub.pc = .accept)
    (he : pubEffect S s (.accept true) = some e) :
    Matched S s { e with pub := s.pub.goto .sendHandshake } first := by
  simp only [pubEffect] at he
  split at he
  · rename_i i rest hb
    obtain rfl := Option.some.inj he
    have hfirst : first = some i := by
      cases hf : first with
      | none =>
          have hempty := h.waiting hf hpc
          rw [hb] at hempty
          cases hempty
      | some k =>
          rcases (h.served k hf).2 with hc | ⟨-, rest', hb'⟩
          · exact absurd hpc (h.client k hc).2.2
          · rw [hb] at hb'
            exact congrArg some (List.cons.inj hb').1.symm
    subst hfirst
    refine .one (.pub (.accept true)) (some i) (step_pub_iff.mpr (.accept hpc rfl))
      ⟨?_, ?_, nofun, nofun, nofun, ?_⟩
    · intro j hj
      obtain rfl := Option.some.inj hj
      exact ⟨(h.served i rfl).1, .inl rfl⟩
    · intro j hj
      exact ⟨hj, nofun, nofun⟩
    · intro j hj
      have hun := h.unserved j hj
      exact ⟨hun.pc, hun.buf_fds, hun.sock, hun.toSub, hun.toPub⟩
  · cases he

/-- The connections are closed. -/
theorem matched_dropClient {f : Option ℕ} (h : s.Serving first) (hpc : s.pub.pc = .left f) :
    Matched S s { s with
      listening := false
      toPub := fun _ => 0
      pub := s.pub.goto (.clientClosed f) } first := by
  have hpc' : (s.viewOf first).pub.pc = .left f := by cases first <;> exact hpc
  refine .one (.pub .dropClient) first ((step_pub_iff.mpr (.dropClient f hpc')).trans ?_)
    (h.of_pub rfl rfl rfl (fun _ _ => rfl) (fun _ _ => rfl) nofun nofun fun _ => .inr (.inr rfl))
  cases first <;> rfl

/-- A call that neither uses nor changes a connection. -/
theorem matched_alone (a : Publisher.Act) {p : Publisher} (h : s.Serving first)
    (hs : PubStep S (s.viewOf first) a { s.viewOf first with pub := p })
    (hprep : p.pc = .prepare → s.pub.pc = .prepare) (hacc : p.pc = .accept → s.pub.pc = .accept)
    (hleft : s.client = none → p.pc = .prepare ∨ p.pc = .accept ∨ p.pc.hasLeft) :
    Matched S s { s with pub := p } first := by
  refine .one (.pub a) first ((step_pub_iff.mpr hs).trans ?_) (h.of_pub rfl rfl rfl (fun _ _ => rfl)
    (fun j hj => (h.unserved j hj).toPub) (fun hp => ⟨hprep hp, rfl⟩) hacc hleft)
  cases first <;> rfl

/-- The calls of the publisher. -/
theorem matched_pub {a : Publisher.Act} {p : Publisher} {e : Crowd ι γ} (h : s.Serving first)
    (hp : s.pub.step a = some p) (he : pubEffect S s a = some e) :
    Matched S s { e with pub := p } first := by
  -- Whatever uses the accepted connection is a call of the pipeline.
  have huse (he : (match s.client with
      | some i => (DmabufPipeline.pubEffect S (s.view i) a).map (s.put i)
      | none => some s) = some e)
      (halone : s.client = none → Matched S s { s with pub := p } first) :
      Matched S s { e with pub := p } first := by
    cases hc : s.client with
    | some i =>
        rw [hc] at he
        obtain ⟨e', he', rfl⟩ := Option.map_eq_some_iff.mp he
        exact matched_client h hc hp he'
    | none =>
        rw [hc] at he
        obtain rfl := Option.some.inj he
        exact halone hc
  have hview : (s.viewOf first).pub = s.pub := by cases first <;> rfl
  cases Publisher.step_iff.mp hp with
  | prepare hpc =>
      obtain rfl := Option.some.inj he
      exact matched_prepare h hpc (.inl rfl) (.prepare hpc)
  | prepareFailed hpc =>
      obtain rfl := Option.some.inj he
      exact matched_prepare h hpc (.inr rfl) (.prepareFailed hpc)
  | accept hpc => exact matched_accept h hpc he
  | dropClient f hpc =>
      obtain rfl := Option.some.inj he
      exact matched_dropClient h hpc
  | acceptFailed hpc =>
      refine huse he fun _ => matched_alone (.accept false) h ?_ nofun nofun fun _ =>
        .inr (.inr rfl)
      rw [← hview]
      exact .acceptFailed (hview.symm ▸ hpc)
  | dropCapture f hpc =>
      refine huse he fun _ => matched_alone .dropCapture h ?_ nofun nofun fun _ => .inr (.inr rfl)
      rw [← hview]
      exact .dropCapture f (hview.symm ▸ hpc)
  | signal =>
      refine huse he fun _ => matched_alone .signal h ?_ id id fun hc => h.unaccepted hc
      rw [← hview]
      exact .signal
  | _ =>
      refine huse he fun hc => ?_
      have hpc := h.unaccepted hc
      simp_all

/-- Apart from connecting, a call of subscriber `i` changes what its own connection
carries. -/
theorem subEffect_eq_some {i : ι} {a : Subscriber.Act DmaBuf} {e : Crowd ι γ}
    (he : subEffect s i a = some e) (ha : a ≠ .connect true) :
    ∃ e', DmabufPipeline.subEffect (s.view i) a = some e' ∧ s.put i e' = e := by
  unfold subEffect at he
  split at he
  · exact absurd rfl ha
  · exact Option.map_eq_some_iff.mp he

/-- What a subscriber that is not served can still do. -/
theorem Unserved.step {i : ι} {a : Subscriber.Act DmaBuf} {u : Subscriber DmaBuf} {e' : State γ}
    (h : s.Unserved i) (ha : a ≠ .connect true) (hu : (s.subs i).step a = some u)
    (he : DmabufPipeline.subEffect (s.view i) a = some e') :
    s.put i e' = s ∧ (u.pc = .connect ∨ u.pc = .recvHandshake ∨ u.pc.hasLeft) ∧
      u.buf_fds = [] ∧ (u.pc = .connect → u.sock = false) := by
  have hview : s.put i (s.view i) = s := by simp [put, view]
  have hpc := h.pc
  have hfds := h.buf_fds
  have hsock := h.sock
  cases Subscriber.step_iff.mp hu with
  | connect => exact absurd rfl ha
  | recvHandshake fds =>
      simp [DmabufPipeline.subEffect, view, h.toSub] at he
  | connectFailed hat | handshakeFailed hat | dropSession x hat =>
      obtain rfl := Option.some.inj he
      exact ⟨hview, by simp, hfds, by simp⟩
  | dropSock x hat =>
      obtain rfl := Option.some.inj he
      refine ⟨?_, by simp, hfds, by simp⟩
      rw [← h.toSub]
      exact hview
  | signal | closeRequest =>
      obtain rfl := Option.some.inj he
      exact ⟨hview, hpc, hfds, hsock⟩
  | _ => simp_all

/-- A subscriber that is not served moves on its own. -/
theorem matched_unserved {i : ι} {a : Subscriber.Act DmaBuf} {u : Subscriber DmaBuf}
    {e : Crowd ι γ} (h : s.Serving first) (hi : first ≠ some i) (ha : a ≠ .connect true)
    (hu : (s.subs i).step a = some u) (he : subEffect s i a = some e) :
    Matched S s { e with subs := Function.update e.subs i u } first := by
  have hun := h.unserved i hi
  obtain ⟨e', he', rfl⟩ := subEffect_eq_some he ha
  obtain ⟨hput, hpc, hfds, hsock⟩ := hun.step ha hu he'
  rw [hput]
  have hother {j : ι} (hj : first = some j) : j ≠ i := by
    intro heq
    exact hi (heq ▸ hj)
  refine .stutter first ?_ ⟨?_, h.client, h.unaccepted, h.idle, h.waiting, ?_⟩
  · cases hf : first with
    | none => rfl
    | some j => simp [viewOf, view, Function.update_of_ne (hother hf)]
  · intro j hj
    simpa [Function.update_of_ne (hother hj)] using h.served j hj
  · intro j hj
    by_cases hji : j = i
    · subst hji
      exact ⟨by simpa using hpc, by simpa using hfds, by simpa using hsock, hun.toSub, hun.toPub⟩
    · have hj' := h.unserved j hj
      exact ⟨by simpa [hji] using hj'.pc, by simpa [hji] using hj'.buf_fds,
        by simpa [hji] using hj'.sock, hj'.toSub, hj'.toPub⟩

/-- No call of a subscriber leads back to its `connect`. -/
theorem pc_ne_connect {u u' : Subscriber DmaBuf} {a : Subscriber.Act DmaBuf}
    (hu : u.step a = some u') (h : u.pc ≠ .connect) : u'.pc ≠ .connect := by
  cases Subscriber.step_iff.mp hu with
  | signal | closeRequest => exact h
  | _ => simp

/-- The served subscriber moves as in the pipeline. -/
theorem matched_served {i : ι} {a : Subscriber.Act DmaBuf} {u : Subscriber DmaBuf}
    {e : Crowd ι γ} (h : s.Serving first) (hi : first = some i) (ha : a ≠ .connect true)
    (hu : (s.subs i).step a = some u) (he : subEffect s i a = some e) :
    Matched S s { e with subs := Function.update e.subs i u } first := by
  obtain ⟨e', he', rfl⟩ := subEffect_eq_some he ha
  have hview := h.view_eq hi
  have hs : DmabufPipeline.step S (s.viewOf first) (.sub a) = some { e' with sub := u } :=
    step_sub.mpr ⟨u, e', by rw [← hview]; exact hu, by rw [← hview]; exact he', rfl⟩
  obtain ⟨hpub, hconn⟩ := SubStep_frame (step_sub_iff.mp hs) ha
  have hpub : e'.pub = s.pub := by rw [← hview] at hpub; exact hpub
  have hconn : e'.connected = true := by rw [hi] at hconn; exact hconn
  have hnew : ({ s.put i e' with subs := Function.update (s.put i e').subs i u } :
      Crowd ι γ).viewOf first = { e' with sub := u } := by
    simp [hi, viewOf, view, put, ← hpub, ← hconn]
  refine .one (.sub a) first (hs.trans (congrArg some hnew.symm))
    ⟨?_, h.client, h.unaccepted, h.idle, h.waiting, ?_⟩
  · intro j hj
    obtain rfl : i = j := Option.some.inj (hi.symm.trans hj)
    obtain ⟨hne, hc⟩ := h.served i hi
    exact ⟨by simpa using pc_ne_connect hu hne, hc⟩
  · intro j hj
    have hji : j ≠ i := by
      intro heq
      exact hj (heq ▸ hi)
    have hj' := h.unserved j hj
    exact ⟨by simpa [put, hji] using hj'.pc, by simpa [put, hji] using hj'.buf_fds,
      by simpa [put, hji] using hj'.sock, by simpa [put, hji] using hj'.toSub,
      by simpa [put, hji] using hj'.toPub⟩

/-- The signal and the close request that a subscriber got before it connected. -/
def wake (u : Subscriber DmaBuf) : List (DmabufPipeline.Act γ) :=
  (if u.running then [] else [.sub .signal]) ++ if u.should_close then [.sub .closeRequest] else []

/-- They bring a new subscriber into the state of one that has not connected. -/
theorem run_wake {t : State γ} {u : Subscriber DmaBuf} (ht : t.sub = {})
    (hpc : u.pc = .connect) (hfds : u.buf_fds = []) (hsock : u.sock = false) :
    run (DmabufPipeline.step S) t (wake u) = some { t with sub := u } := by
  obtain ⟨pc, fds, running, close, sock⟩ := u
  simp only at hpc hfds hsock
  subst hpc hfds hsock
  have hsame : t = { t with sub := {} } := by rw [← ht]
  cases running <;> cases close <;>
    simp [wake, run, DmabufPipeline.step, Subscriber.step, DmabufPipeline.subEffect, ht, ← hsame]

/-- A subscriber connects: the first one to find the publisher in `accept` is the one that
it will serve. -/
theorem matched_connect {i : ι} {u : Subscriber DmaBuf} {e : Crowd ι γ} (h : s.Serving first)
    (hu : (s.subs i).step (.connect true) = some u)
    (he : subEffect s i (.connect true) = some e) :
    Matched S s { e with subs := Function.update e.subs i u } first := by
  cases Subscriber.step_iff.mp hu with
  | connect hpc =>
  obtain ⟨hlisten, he⟩ := Option.ite_none_right_eq_some.mp he
  obtain rfl := Option.some.inj he
  have hfirst : first ≠ some i := fun hi => (h.served i hi).1 hpc
  have hun := h.unserved i hfirst
  have hpub : s.pub.pc ≠ .prepare := by
    intro hprep
    rw [(h.idle hprep).2] at hlisten
    cases hlisten
  have hunserved (j : ι) (hj : first ≠ some j) :
      Unserved { s with
        backlog := s.backlog ++ [i]
        subs := Function.update s.subs i
          { (s.subs i).goto .recvHandshake with sock := true } } j := by
    by_cases hji : j = i
    · subst hji
      exact ⟨by simp, by simpa using hun.buf_fds, by simp, hun.toSub, hun.toPub⟩
    · have hj' := h.unserved j hj
      exact ⟨by simpa [hji] using hj'.pc, by simpa [hji] using hj'.buf_fds,
        by simpa [hji] using hj'.sock, hj'.toSub, hj'.toPub⟩
  cases hf : first with
  | some k =>
      subst hf
      have hki : k ≠ i := by
        intro heq
        exact hfirst (congrArg some heq)
      refine .stutter (some k) ?_ ⟨?_, h.client, h.unaccepted, fun hp => absurd hp hpub,
        fun hn => (Option.some_ne_none _ hn).elim, hunserved⟩
      · simp [viewOf, view, Function.update_of_ne hki]
      · intro j hj
        obtain rfl := Option.some.inj hj
        obtain ⟨hne, hc⟩ := h.served k rfl
        refine ⟨by simpa [Function.update_of_ne hki] using hne, hc.imp_right ?_⟩
        rintro ⟨hnone, rest, hb⟩
        exact ⟨hnone, rest ++ [i], by simp [hb]⟩
  | none =>
      subst hf
      have hclient : s.client = none := by
        cases hc : s.client with
        | none => rfl
        | some k => cases (h.client k hc).1
      by_cases hacc : s.pub.pc = .accept
      · have hb := h.waiting rfl hacc
        refine ⟨wake (s.subs i) ++ [.sub (.connect true)], some i, ?_, ?_, ?_, h.unaccepted,
          fun hp => absurd hp hpub, fun hn => (Option.some_ne_none _ hn).elim, fun j _ => ?_⟩
        · refine run_append (run_wake rfl hpc hun.buf_fds (hun.sock hpc)) ?_
          refine run_cons_eq_some.mpr ⟨_, step_sub_iff.mpr (.connect hpc hacc rfl), ?_⟩
          simp [viewOf, view, hun.toSub, hun.toPub]
        · intro j hj
          obtain rfl := Option.some.inj hj
          exact ⟨by simp, .inr ⟨hclient, [], by simp [hb]⟩⟩
        · intro j hj
          rw [hclient] at hj
          cases hj
        · exact hunserved j fun hn => (Option.some_ne_none _ hn.symm).elim
      · exact .stutter none rfl
          ⟨fun _ hj => (Option.some_ne_none _ hj.symm).elim, h.client, h.unaccepted,
            fun hp => absurd hp hpub, fun _ hp => absurd hp hacc, hunserved⟩

/-- **One step of the crowd is matched by the pipeline.** -/
theorem matched_step {a : Act ι γ} (h : s.Serving first) (hs : step S s a = some s') :
    Matched S s s' first := by
  cases a with
  | pub a =>
      obtain ⟨p, hp, hs⟩ := Option.bind_eq_some_iff.mp hs
      obtain ⟨e, he, rfl⟩ := Option.map_eq_some_iff.mp hs
      exact matched_pub h hp he
  | sub i a =>
      obtain ⟨u, hu, hs⟩ := Option.bind_eq_some_iff.mp hs
      obtain ⟨e, he, rfl⟩ := Option.map_eq_some_iff.mp hs
      by_cases ha : a = .connect true
      · subst ha
        exact matched_connect h hu he
      · by_cases hi : first = some i
        · exact matched_served h hi ha hu he
        · exact matched_unserved h hi ha hu he
  | fill i c =>
      obtain ⟨hq, hs⟩ := Option.ite_none_right_eq_some.mp hs
      obtain rfl := Option.some.inj hs
      refine .one (.fill i c) first ?_ ?_
      · cases first <;> exact step_fill.mpr ⟨hq, rfl⟩
      · exact ⟨h.served, h.client, h.unaccepted, h.idle, h.waiting, fun j hj =>
          let hun := h.unserved j hj
          ⟨hun.pc, hun.buf_fds, hun.sock, hun.toSub, hun.toPub⟩⟩
  | gpuDone i =>
      obtain ⟨hq, hs⟩ := Option.ite_none_right_eq_some.mp hs
      obtain rfl := Option.some.inj hs
      refine .one (.gpuDone i) first ?_ ?_
      · cases first <;> exact step_gpuDone.mpr ⟨hq, rfl⟩
      · exact ⟨h.served, h.client, h.unaccepted, h.idle, h.waiting, fun j hj =>
          let hun := h.unserved j hj
          ⟨hun.pc, hun.buf_fds, hun.sock, hun.toSub, hun.toPub⟩⟩

omit [DecidableEq ι] in
/-- In the beginning nobody is served. -/
theorem Serving.init (S : Session) (content : DmaBuf → γ) :
    (init S content : Crowd ι γ).Serving none where
  served := nofun
  client := nofun
  unaccepted _ := .inl rfl
  idle _ := ⟨rfl, rfl⟩
  waiting _ _ := rfl
  unserved _ _ := ⟨.inl rfl, rfl, fun _ => rfl, rfl, rfl⟩

/-- **One session.** Every run of one publisher with any number of subscribers is, for the
publisher, the driver, the frames and the subscriber whose connection was accepted, a run
of the pipeline with one subscriber; every other subscriber has been sent nothing, has
read no descriptor, and has not got past `recv_handshake`. -/
theorem one_session (content : DmaBuf → γ) (as : List (Act ι γ))
    (hrun : run (step S) (init S content) as = some s) :
    ∃ bs first, run (DmabufPipeline.step S) (State.init S content) bs = some (s.viewOf first) ∧
      (∀ i, s.client = some i → first = some i) ∧
      ∀ j, first ≠ some j →
        s.toSub j = [] ∧ (s.subs j).buf_fds = [] ∧ (s.subs j).pc.inSession = false ∧
          s.toPub j = 0 := by
  have hmatch : ∃ bs first,
      run (DmabufPipeline.step S) (State.init S content) bs = some (s.viewOf first) ∧
        s.Serving first := by
    refine run_induction (I := fun s : Crowd ι γ => ∃ bs first,
      run (DmabufPipeline.step S) (State.init S content) bs = some (s.viewOf first) ∧
        s.Serving first) ?_ ⟨[], none, rfl, .init S content⟩ hrun
    rintro s a s' ⟨bs, first, hbs, h⟩ hs
    obtain ⟨bs', first', hbs', h'⟩ := matched_step h hs
    exact ⟨bs ++ bs', first', run_append hbs hbs', h'⟩
  obtain ⟨bs, first, hbs, h⟩ := hmatch
  refine ⟨bs, first, hbs, fun i hi => (h.client i hi).1, fun j hj => ?_⟩
  have hun := h.unserved j hj
  refine ⟨hun.toSub, hun.buf_fds, ?_, hun.toPub⟩
  rcases hun.pc with hpc | hpc | hpc
  · simp [hpc]
  · simp [hpc]
  · cases hc : (s.subs j).pc <;> simp_all

/-- Two subscribers connect, and the first of them gets the handshake. -/
def twoConnect : List (Act Bool ℕ) :=
  [.pub (.prepare true), .sub true (.connect true), .sub false (.connect true),
    .pub (.accept true), .pub (.sendHandshake .ok)]

/-- The second of two subscribers has nothing to read. -/
theorem one_session_twoConnect :
    ∃ s : Crowd Bool ℕ, s.client = some true ∧ s.toSub true ≠ [] ∧ s.toSub false = [] := by
  obtain ⟨s, hrun, hs⟩ := Option.map_eq_some_iff.mp
    (by decide : (run (step Session.twoBuffers) (init Session.twoBuffers fun _ => 0)
      twoConnect).map (fun s => (s.client, (s.toSub true).length)) = some (some true, 1))
  obtain ⟨hclient, hlen⟩ := Prod.mk.inj hs
  obtain ⟨bs, first, -, hfirst, hother⟩ := one_session _ _ hrun
  refine ⟨s, hclient, fun hnil => ?_, (hother false ?_).1⟩
  · rw [hnil] at hlen
    cases hlen
  · rw [hfirst true hclient]
    nofun

end Crowd
end DmabufPipeline
