import DmabufPipeline.Egl.Attributes
import DmabufPipeline.Lib.Transition
import DmabufPipeline.Process.Subscriber
import DmabufPipeline.Wire.Receive

/-!
# The subscriber against an arbitrary peer

Nothing is assumed of the other end of the socket: the answer of the handshake's `recvmsg`
is arbitrary, and after it the peer sends any bytes in any chunks and may hang up. Every
call of the display side answers freely. What the process makes of these is the code's:
`recv_handshake` and `recv_idx` decide what `main` sees, and `draw_one` looks the index
up as it came.

`recv` with MSG_WAITALL answers when four bytes are there or the stream has ended, and
may fail at any time.

## Main definitions

* `Build` — language, byte order, overflow checks, and the display's modifier support.
* `AnyPeer.step` — a step of the peer or of the subscriber.
* `AnyPeer.Safe` — lookups in bounds, no acknowledgement outside, no abnormal exit.
* `AnyPeer.InBounds` — the rule that the peer's index is one of the descriptors'.
* `AnyPeer.safe_iff` — the first holds throughout a run iff its steps obey the second.
-/

namespace DmabufPipeline

open WordBytes Transition

/-! ## What one call of the subscriber can change -/

namespace Subscriber

variable {φ : Type} {u u' : Subscriber φ}

/-- The loop ended as `main` provides for: by a `break`, the loop test, or a `return`. -/
def Exit.orderly : Exit → Bool
  | .outOfBounds _ | .overflow => false
  | _ => true

/-- The index whose descriptor has been looked up in the current turn of the loop. -/
def Pc.lookedUp : Pc → Option ℕ
  | .draw i | .swapBuffers i | .destroyImage i | .sendAck i => some i
  | _ => none

/-- The handshake has not been received. -/
def Pc.beforeHandshake : Pc → Bool
  | .connect | .recvHandshake => true
  | _ => false

/-- The calls whose answers neither the peer nor `import_dmabuf` decides. -/
def Act.isLocal : Act φ → Bool
  | .recvHandshake _ | .recvIdx _ | .importDmabuf .. | .sendAck _ => false
  | _ => true

/-- What a local call leaves alone: the descriptors, the index at hand, and how the loop
may have ended. -/
structure Quiet (u u' : Subscriber φ) : Prop where
  buf_fds : u'.buf_fds = u.buf_fds
  lookedUp : ∀ i, u'.pc.lookedUp = some i → u.pc.lookedUp = some i
  exit : ∀ e, u'.pc.exit = some e → u.pc.exit = some e ∨ e.orderly = true
  beforeHandshake : u'.pc.beforeHandshake = true → u.pc.beforeHandshake = true

/-- A call that ends the turn, or the loop in an orderly way. -/
theorem Quiet.goto_of_forget {pc : Pc} (hl : pc.lookedUp = none)
    (he : ∀ e, pc.exit = some e → e.orderly = true) (hb : pc.beforeHandshake = false) :
    Quiet u (u.goto pc) where
  buf_fds := rfl
  lookedUp _ hi := by simp [hl] at hi
  exit e h := .inr (he e h)
  beforeHandshake h := by simp [hb] at h

/-- A call on the way from the lookup to the acknowledgement. -/
theorem Quiet.goto_of_keep {pc : Pc} (hl : pc.lookedUp = u.pc.lookedUp)
    (he : pc.exit = u.pc.exit) (hb : pc.beforeHandshake = u.pc.beforeHandshake) :
    Quiet u (u.goto pc) where
  buf_fds := rfl
  lookedUp _ hi := hl ▸ hi
  exit _ h := .inl (he ▸ h)
  beforeHandshake h := hb ▸ h

/-- The local calls are quiet. -/
theorem Quiet.of_step {a : Act φ} (h : u.Step a u') (ha : a.isLocal = true) : Quiet u u' := by
  cases h with
  | connect hpc => exact ⟨rfl, nofun, nofun, fun _ => by rw [hpc]; rfl⟩
  | signal | closeRequest => exact ⟨rfl, fun _ => id, fun _ => .inl, id⟩
  | setup | loopTest | dispatchPending => exact goto_of_forget rfl nofun rfl
  | connectFailed | setupFailed | stop | dispatchFailed =>
      exact goto_of_forget rfl (by rintro e ⟨⟩; rfl) rfl
  | draw i hpc | swapBuffers i hpc | destroyImage i hpc | dropSession e hpc =>
      apply goto_of_keep <;> rw [hpc] <;> rfl
  | dropSock e hpc => exact ⟨rfl, nofun, fun e he => .inl (by rw [hpc]; exact he), nofun⟩
  | _ => cases ha

end Subscriber

/-! ## The system -/

/-- How the subscriber was built, and whether the display knows modifiers. -/
structure Build where
  lang : Lang
  endian : Endian
  /-- `-C overflow-checks`, which release builds leave off. -/
  overflow_checks : Bool := false
  has_modifiers : Bool := false

/-- The subscriber, the peer's bytes that it has not read, and a record of its lookups
and acknowledgements. -/
structure AnyPeer where
  sub : Subscriber EGLint := {}
  hs : Handshake := {}
  inbox : List UInt8 := []
  /-- The peer has closed or shut down its end. -/
  hungUp : Bool := false
  lookups : List ℕ := []
  acked : List ℕ := []

namespace AnyPeer

/-- A step of the peer, or a call of the subscriber with what the environment answers. -/
inductive Act
  | deliver (bytes : List UInt8)
  | hangUp
  | recvHandshake (r : Option (RecvMsg EGLint))
  | recvIdx (ok : Bool)
  | importDmabuf (created : Bool)
  | sendAck (ok : Bool)
  | call (a : Subscriber.Act EGLint)

/-- `import_dmabuf` on entry `i`: what the attribute list and eglCreateImageKHR make of
it. Outside `buf_fds` there is no call, and `Subscriber.step` does not ask. -/
def importAnswer (b : Build) (s : AnyPeer) (i : ℕ) (created : Bool) : ImportResult :=
  match s.sub.buf_fds[i]? with
  | none => .noImage
  | some fd =>
      match b.lang.importDmabuf b.overflow_checks b.has_modifiers fd s.hs.frameMeta with
      | none => .overflow
      | some _ => if created then .image else .noImage

/-- One step. What the subscriber makes of the peer's bytes is the code's own. -/
def step (b : Build) (s : AnyPeer) : Act → Option AnyPeer
  | .deliver bytes => if s.hungUp then none else some { s with inbox := s.inbox ++ bytes }
  | .hangUp => some { s with hungUp := true }
  | .recvHandshake r =>
      let got := b.lang.recvHandshake b.endian r
      (s.sub.step (.recvHandshake (got.map (·.2)))).map fun u =>
        { s with sub := u, hs := (got.map (·.1)).getD s.hs }
  | .recvIdx true =>
      if 4 ≤ s.inbox.length ∨ s.hungUp = true then
        (s.sub.step (.recvIdx (b.lang.recvIdx b.endian (some (s.inbox.take 4))).toUsize)).map
          fun u => { s with sub := u, inbox := s.inbox.drop 4 }
      else none
  | .recvIdx false =>
      (s.sub.step (.recvIdx (b.lang.recvIdx b.endian none).toUsize)).map fun u =>
        { s with sub := u }
  | .importDmabuf created =>
      s.sub.pc.processing.bind fun i =>
        (s.sub.step (.importDmabuf i (s.importAnswer b i created))).map fun u =>
          { s with sub := u, lookups := s.lookups ++ [i] }
  | .sendAck ok =>
      (s.sub.step (.sendAck ok)).map fun u =>
        { s with sub := u, acked := s.acked ++ if ok then s.sub.pc.processing.toList else [] }
  | .call a => if a.isLocal then (s.sub.step a).map fun u => { s with sub := u } else none

/-- Every lookup is in bounds, no index outside is acknowledged, and if the loop has ended
it has ended as `main` provides for. -/
structure Safe (s : AnyPeer) : Prop where
  lookups : ∀ i ∈ s.lookups, i < s.sub.buf_fds.length
  acked : ∀ i ∈ s.acked, i < s.sub.buf_fds.length
  exit : ∀ e, s.sub.pc.exit = some e → e.orderly = true

/-- The multiplication of `import_dmabuf` panics on this handshake. -/
def Panics (b : Build) (hs : Handshake) : Prop :=
  b.lang = .rust ∧ b.overflow_checks = true ∧ hs.frameMeta.uvOverflows = true

/-- `draw_one` is entered only with the position of a descriptor, and with a handshake on
which `import_dmabuf` does not panic. -/
def InBounds (b : Build) (s : AnyPeer) : Act → Prop
  | .importDmabuf _ => (∀ i ∈ s.sub.pc.processing, i < s.sub.buf_fds.length) ∧ ¬ Panics b s.hs
  | _ => True

instance (b : Build) (s : AnyPeer) (a : Act) : Decidable (InBounds b s a) := by
  unfold InBounds Panics
  split <;> infer_instance

/-! ## The invariant -/

/-- What holds whatever the peer sends: nothing is looked up before the handshake, and an
index that is about to be acknowledged has been looked up in bounds. -/
structure Inv (s : AnyPeer) : Prop where
  nothing : s.sub.pc.beforeHandshake = true → s.lookups = [] ∧ s.acked = []
  lookedUp : ∀ i, s.sub.pc.lookedUp = some i → i < s.sub.buf_fds.length

theorem Inv.init : Inv {} := ⟨fun _ => ⟨rfl, rfl⟩, nofun⟩

theorem Safe.init : Safe {} := ⟨nofun, nofun, nofun⟩

variable {b : Build} {s s' : AnyPeer} {u : Subscriber EGLint}

/-- A local call of the subscriber keeps both. -/
theorem Inv.quiet (h : Inv s) (hq : s.sub.Quiet u) : Inv { s with sub := u } where
  nothing hpc := h.nothing (hq.beforeHandshake hpc)
  lookedUp i hi := hq.buf_fds ▸ h.lookedUp i (hq.lookedUp i hi)

theorem Safe.quiet (h : Safe s) (hq : s.sub.Quiet u) : Safe { s with sub := u } where
  lookups i hi := hq.buf_fds ▸ h.lookups i hi
  acked i hi := hq.buf_fds ▸ h.acked i hi
  exit e he := (hq.exit e he).elim (h.exit e) id

/-- The handshake arrives before anything has been looked up. -/
theorem recvHandshake_spec {r : Option (List EGLint)} (hu : s.sub.Step (.recvHandshake r) u) :
    s.sub.pc.beforeHandshake = true ∧ u.pc.beforeHandshake = false ∧ u.pc.lookedUp = none ∧
      ∀ e, u.pc.exit = some e → e.orderly = true := by
  cases hu with
  | recvHandshake fds hpc => exact ⟨by rw [hpc]; rfl, rfl, rfl, nofun⟩
  | handshakeFailed hpc => exact ⟨by rw [hpc]; rfl, rfl, rfl, by rintro e ⟨⟩; rfl⟩

/-- An index, or the end of the loop, arrives. -/
theorem recvIdx_quiet {r : RecvIdx ℕ} (hu : s.sub.Step (.recvIdx r) u) : s.sub.Quiet u := by
  cases hu with
  | recvIdx i => exact .goto_of_forget rfl nofun rfl
  | peerClosed | recvErr => exact .goto_of_forget rfl (by rintro e ⟨⟩; rfl) rfl

/-- The acknowledgement is sent for the index looked up. -/
theorem sendAck_spec {ok : Bool} (hu : s.sub.Step (.sendAck ok) u) :
    s.sub.Quiet u ∧ s.sub.pc.processing = s.sub.pc.lookedUp ∧
      s.sub.pc.beforeHandshake = false := by
  cases hu with
  | sendAck i hpc => exact ⟨.goto_of_forget rfl nofun rfl, by rw [hpc]; rfl, by rw [hpc]; rfl⟩
  | ackFailed i hpc =>
      exact ⟨.goto_of_forget rfl (by rintro e ⟨⟩; rfl) rfl, by rw [hpc]; rfl, by rw [hpc]; rfl⟩

/-- `import_dmabuf` panics exactly on the handshakes of `Panics`. -/
theorem importAnswer_eq_overflow {i : ℕ} (created : Bool) (hi : i < s.sub.buf_fds.length) :
    s.importAnswer b i created = .overflow ↔ Panics b s.hs := by
  rw [importAnswer, List.getElem?_eq_getElem hi, Panics]
  cases hL : b.lang with
  | cpp => cases created <;> simp [Lang.importDmabuf]
  | rust =>
      simp only [Lang.importDmabuf, importDmabuf, true_and, ← Bool.and_eq_true]
      cases b.overflow_checks && s.hs.frameMeta.uvOverflows with
      | true => simp
      | false => cases created <;> simp

/-- The lookup of index `i`. -/
theorem importDmabuf_cases {i : ℕ} {r : ImportResult} (hu : s.sub.Step (.importDmabuf i r) u) :
    u.buf_fds = s.sub.buf_fds ∧ u.pc.beforeHandshake = false ∧
      (s.sub.buf_fds.length ≤ i ∧ u.pc = .left (.outOfBounds i) ∨
        i < s.sub.buf_fds.length ∧ r = .overflow ∧ u.pc = .left .overflow ∨
        i < s.sub.buf_fds.length ∧ r ≠ .overflow ∧
          (u.pc = .draw i ∨ u.pc = .left .importFailed)) := by
  cases hu with
  | importDmabuf _ _ hi => exact ⟨rfl, rfl, .inr (.inr ⟨hi, nofun, .inl rfl⟩)⟩
  | importFailed _ _ hi => exact ⟨rfl, rfl, .inr (.inr ⟨hi, nofun, .inr rfl⟩)⟩
  | overflow _ _ hi => exact ⟨rfl, rfl, .inr (.inl ⟨hi, rfl, rfl⟩)⟩
  | outOfBounds _ _ _ hi => exact ⟨rfl, rfl, .inl ⟨by omega, rfl⟩⟩

/-! ## Every step -/

/-- The invariant holds whatever the peer does. -/
theorem Inv.step (h : Inv s) {a : Act} (hs : step b s a = some s') : Inv s' := by
  cases a with
  | deliver bytes =>
      obtain ⟨-, hs⟩ := Option.ite_none_left_eq_some.mp hs
      obtain rfl := Option.some.inj hs
      exact ⟨h.nothing, h.lookedUp⟩
  | hangUp =>
      obtain rfl := Option.some.inj hs
      exact ⟨h.nothing, h.lookedUp⟩
  | recvHandshake r =>
      obtain ⟨u, hu, rfl⟩ := Option.map_eq_some_iff.mp hs
      obtain ⟨-, hpc, hl, -⟩ := recvHandshake_spec (Subscriber.step_iff.mp hu)
      exact ⟨by simp [hpc], by simp [hl]⟩
  | recvIdx ok =>
      cases ok with
      | true =>
          obtain ⟨-, hs⟩ := Option.ite_none_right_eq_some.mp hs
          obtain ⟨u, hu, rfl⟩ := Option.map_eq_some_iff.mp hs
          have hq := h.quiet (recvIdx_quiet (Subscriber.step_iff.mp hu))
          exact ⟨hq.nothing, hq.lookedUp⟩
      | false =>
          obtain ⟨u, hu, rfl⟩ := Option.map_eq_some_iff.mp hs
          exact h.quiet (recvIdx_quiet (Subscriber.step_iff.mp hu))
  | importDmabuf created =>
      obtain ⟨i, -, hs⟩ := Option.bind_eq_some_iff.mp hs
      obtain ⟨u, hu, rfl⟩ := Option.map_eq_some_iff.mp hs
      obtain ⟨hfds, hb, hcase⟩ := importDmabuf_cases (Subscriber.step_iff.mp hu)
      refine ⟨by simp [hb], fun j hj => ?_⟩
      rcases hcase with ⟨-, hpc⟩ | ⟨-, -, hpc⟩ | ⟨hi, -, hpc | hpc⟩ <;>
        rw [hpc] at hj <;> cases hj
      exact hfds ▸ hi
  | sendAck ok =>
      obtain ⟨u, hu, rfl⟩ := Option.map_eq_some_iff.mp hs
      obtain ⟨hq, -, hb⟩ := sendAck_spec (Subscriber.step_iff.mp hu)
      have hq' := h.quiet hq
      exact ⟨fun hpc => absurd (hq.beforeHandshake hpc) (by simp [hb]), hq'.lookedUp⟩
  | call a =>
      obtain ⟨ha, hs⟩ := Option.ite_none_right_eq_some.mp hs
      obtain ⟨u, hu, rfl⟩ := Option.map_eq_some_iff.mp hs
      exact h.quiet (.of_step (Subscriber.step_iff.mp hu) ha)

/-- **Safety breaks exactly at a lookup out of bounds** or at a panic of the
multiplication. -/
theorem Safe.step_iff (hinv : Inv s) (h : Safe s) {a : Act} (hs : step b s a = some s') :
    Safe s' ↔ InBounds b s a := by
  cases a with
  | deliver bytes =>
      obtain ⟨-, hs⟩ := Option.ite_none_left_eq_some.mp hs
      obtain rfl := Option.some.inj hs
      exact iff_of_true ⟨h.lookups, h.acked, h.exit⟩ trivial
  | hangUp =>
      obtain rfl := Option.some.inj hs
      exact iff_of_true ⟨h.lookups, h.acked, h.exit⟩ trivial
  | recvHandshake r =>
      obtain ⟨u, hu, rfl⟩ := Option.map_eq_some_iff.mp hs
      obtain ⟨hpc, -, -, hexit⟩ := recvHandshake_spec (Subscriber.step_iff.mp hu)
      obtain ⟨hl, ha⟩ := hinv.nothing hpc
      exact iff_of_true ⟨by simp [hl], by simp [ha], hexit⟩ trivial
  | recvIdx ok =>
      cases ok with
      | true =>
          obtain ⟨-, hs⟩ := Option.ite_none_right_eq_some.mp hs
          obtain ⟨u, hu, rfl⟩ := Option.map_eq_some_iff.mp hs
          have hq := h.quiet (recvIdx_quiet (Subscriber.step_iff.mp hu))
          exact iff_of_true ⟨hq.lookups, hq.acked, hq.exit⟩ trivial
      | false =>
          obtain ⟨u, hu, rfl⟩ := Option.map_eq_some_iff.mp hs
          exact iff_of_true (h.quiet (recvIdx_quiet (Subscriber.step_iff.mp hu))) trivial
  | importDmabuf created =>
      obtain ⟨i, hi, hs⟩ := Option.bind_eq_some_iff.mp hs
      obtain ⟨u, hu, rfl⟩ := Option.map_eq_some_iff.mp hs
      obtain ⟨hfds, -, hcase⟩ := importDmabuf_cases (Subscriber.step_iff.mp hu)
      rcases hcase with ⟨hout, hpc'⟩ | ⟨hin, hr, hpc'⟩ | ⟨hin, hr, hpc'⟩
      · refine iff_of_false (fun h' => ?_) (fun hC => ?_)
        · exact absurd (h'.exit (.outOfBounds i) (by rw [hpc']; rfl)) Bool.false_ne_true
        · have := hC.1 i hi
          omega
      · refine iff_of_false (fun h' => ?_) (fun hC => ?_)
        · exact absurd (h'.exit .overflow (by rw [hpc']; rfl)) Bool.false_ne_true
        · exact hC.2 ((importAnswer_eq_overflow created hin).mp hr)
      · refine iff_of_true ⟨?_, ?_, ?_⟩ ⟨?_, ?_⟩
        · intro j hj
          rw [hfds]
          rcases List.mem_append.mp hj with hj | hj
          · exact h.lookups j hj
          · obtain rfl : j = i := by simpa using hj
            exact hin
        · exact hfds ▸ h.acked
        · rcases hpc' with hpc' | hpc' <;> rw [hpc']
          · nofun
          · rintro e ⟨⟩
            rfl
        · intro j hj
          obtain rfl : i = j := Option.some.inj (hi.symm.trans hj)
          exact hin
        · exact fun hp => hr ((importAnswer_eq_overflow created hin).mpr hp)
  | sendAck ok =>
      obtain ⟨u, hu, rfl⟩ := Option.map_eq_some_iff.mp hs
      obtain ⟨hq, hproc, -⟩ := sendAck_spec (Subscriber.step_iff.mp hu)
      have hq' := h.quiet hq
      refine iff_of_true ⟨hq'.lookups, fun i hi => ?_, hq'.exit⟩ trivial
      rcases List.mem_append.mp hi with hi | hi
      · exact hq'.acked i hi
      · cases ok with
        | false => cases hi
        | true =>
            rw [if_pos rfl, hproc] at hi
            have hl : s.sub.pc.lookedUp = some i := Option.mem_toList.mp hi
            exact hq.buf_fds ▸ hinv.lookedUp i hl
  | call a =>
      obtain ⟨ha, hs⟩ := Option.ite_none_right_eq_some.mp hs
      obtain ⟨u, hu, rfl⟩ := Option.map_eq_some_iff.mp hs
      exact iff_of_true (h.quiet (.of_step (Subscriber.step_iff.mp hu) ha)) trivial

end AnyPeer
end DmabufPipeline
