import DmabufPipeline.Wire.Message
import Mathlib.Tactic.Common

/-!
# Sending and receiving, in both languages

`send_handshake`, `recv_handshake`, `send_idx` and `recv_idx` of `common/src/socket.rs`,
and the four functions of `socket_utils.cpp`. A receive function takes the outcome of its
system call as an argument. What a descriptor denotes is a parameter `φ`: SCM_RIGHTS
installs new numbers, and the programs never look at them.

The two `recv_handshake` are written in different styles. Rust appends the descriptors
of every SCM_RIGHTS message and leaves truncation to `cmsgs()`, whose error it skips; C++
resizes the output for each message, so that the last one stays, and tests MSG_CTRUNC.

## Main definitions

* `RecvMsg` — what a successful `recvmsg` delivers.
* `recv_handshake`, `Cpp.recv_handshake` — the two receivers of the handshake.
* `recv_idx`, `Cpp.recv_frame_idx` — the two receivers of an index.
* `Lang.recvHandshake`, `Lang.recvIdx` — the receivers as `main` reads their results.
-/

namespace DmabufPipeline

open WordBytes

variable {φ : Type}

/-- `kMaxFds`: the number of descriptors that the ancillary buffer of `recv_handshake`
has room for. -/
def kMaxFds : ℕ := 32

/-- A control message; only SCM_RIGHTS matters. -/
inductive ControlMessage (φ : Type)
  | scmRights (fds : List φ)
  | other
  deriving DecidableEq, Repr

/-- The descriptors of a control message. -/
def ControlMessage.fds : ControlMessage φ → List φ
  | .scmRights fds => fds
  | .other => []

@[simp] theorem ControlMessage.fds_scmRights (fds : List φ) :
    (ControlMessage.scmRights fds).fds = fds := rfl

@[simp] theorem ControlMessage.fds_other : (ControlMessage.other : ControlMessage φ).fds = [] := rfl

/-- What a successful `recvmsg` delivers: the bytes read, MSG_CTRUNC, and the control
messages in order. -/
structure RecvMsg (φ : Type) where
  payload : List UInt8
  ctrunc : Bool
  cmsgs : List (ControlMessage φ)
  /-- A length that came through the ancillary buffer fits an `int`. -/
  int_count : ∀ c ∈ cmsgs, c.fds.length < 2 ^ 31

/-- Why `recv_handshake` failed: an OS error, "short recvmsg handshake", or
"handshake: expected .. fds, got ..". -/
inductive HandshakeError
  | os
  | short
  | count (expected : UInt32) (got : ℕ)
  deriving DecidableEq, Repr

/-! ## Rust -/

/-- The bytes and the descriptors of one `sendmsg`. -/
structure Outgoing (φ : Type) where
  bytes : List UInt8
  fds : List φ := []

/-- `send_handshake`: the memory of the struct with all descriptors. -/
def send_handshake (e : Endian) (hs : Handshake) (fds : List φ) : Outgoing φ where
  bytes := hs.bytes e
  fds := fds

/-- `send_idx`. -/
def send_idx (e : Endian) (idx : UInt32) : Outgoing φ where
  bytes := toNeBytes e idx

/-- `cmsgs()` of nix 0.29: an error exactly when MSG_CTRUNC is set. -/
def RecvMsg.nixCmsgs (m : RecvMsg φ) : Option (List (ControlMessage φ)) :=
  if m.ctrunc then none else some m.cmsgs

/-- The loop of `recv_handshake` over the control messages: `owned_fds.push(..)`. -/
def ownedFds (cmsgs : List (ControlMessage φ)) : List φ :=
  cmsgs.foldl (fun owned_fds cmsg => match cmsg with
    | .scmRights fds => owned_fds ++ fds
    | .other => owned_fds) []

/-- `recv_handshake`; an error of `cmsgs()` leaves `owned_fds` empty. -/
def recv_handshake (e : Endian) : Option (RecvMsg φ) → Except HandshakeError (Handshake × List φ)
  | none => .error .os
  | some m =>
      if m.payload.length ≠ handshakeSize then .error .short
      else
        let hs := Handshake.ofBytes e m.payload
        let owned_fds := match m.nixCmsgs with
          | some cmsgs => ownedFds cmsgs
          | none => []
        if owned_fds.length ≠ hs.buf_count.toNat then
          .error (.count hs.buf_count owned_fds.length)
        else .ok (hs, owned_fds)

/-- `recv_idx`, on what `recv` with MSG_WAITALL returned. -/
def recv_idx (e : Endian) : Option (List UInt8) → RecvIdx UInt32
  | none => .err
  | some buf =>
      if buf.length = 0 then .peerClosed
      else if buf.length ≠ 4 then .err
      else .idx (fromNeBytes e buf)

/-! ## C++ -/

namespace Cpp

/-- `send_handshake`: the memory of the struct with one SCM_RIGHTS message. -/
def send_handshake (e : Endian) (msg : Handshake) (fds : List φ) : Outgoing φ where
  bytes := msg.bytes e
  fds := fds

/-- `send_frame_idx`: the memory of the `uint32_t`. -/
def send_frame_idx (e : Endian) (idx : UInt32) : Outgoing φ where
  bytes := toNeBytes e idx

/-- Bytes read over the beginning of an object. -/
def overwrite (object bytes : List UInt8) : List UInt8 := bytes ++ object.drop bytes.length

/-- The loop of `recv_handshake` over the control messages: `fds_out.resize(count)` and
the copy. -/
def copiedFds (cmsgs : List (ControlMessage φ)) (fds_out : List φ) : List φ :=
  cmsgs.foldl (fun fds_out cm => match cm with
    | .scmRights fds => fds
    | .other => fds_out) fds_out

/-- `recv_handshake` with its two output arguments: 0 on success, 1 on end of stream, -1
on failure. -/
def recv_handshake (e : Endian) (msg : Handshake) (fds_out : List φ) :
    Option (RecvMsg φ) → ℤ × Handshake × List φ
  | none => (-1, msg, fds_out)
  | some m =>
      let msg := Handshake.ofBytes e (overwrite (msg.bytes e) m.payload)
      if m.payload.length = 0 then (1, msg, fds_out)
      else if m.payload.length ≠ handshakeSize then (-1, msg, fds_out)
      else if m.ctrunc then (-1, msg, fds_out)
      else
        let fds_out := copiedFds m.cmsgs fds_out
        if UInt32.ofNat fds_out.length ≠ msg.buf_count then (-1, msg, fds_out)
        else (0, msg, fds_out)

/-- `recv_frame_idx` with its output argument. -/
def recv_frame_idx (e : Endian) (idx : UInt32) : Option (List UInt8) → ℤ × UInt32
  | none => (-1, idx)
  | some buf =>
      let idx := fromNeBytes e (overwrite (toNeBytes e idx) buf)
      if buf.length = 0 then (1, idx)
      else if buf.length ≠ 4 then (-1, idx)
      else (0, idx)

end Cpp

/-! ## As `main` reads the results -/

namespace Lang

/-- The handshake message that the publisher sends. -/
def sendHandshake (e : Endian) (hs : Handshake) (fds : List φ) : Lang → Outgoing φ
  | .rust => send_handshake e hs fds
  | .cpp => Cpp.send_handshake e hs fds

/-- The message of one frame. -/
def sendIdx (e : Endian) (idx : UInt32) : Lang → Outgoing φ
  | .rust => send_idx e idx
  | .cpp => Cpp.send_frame_idx e idx

/-- The handshake that the subscriber goes on with; `main` returns on `none`. -/
def recvHandshake (e : Endian) (r : Option (RecvMsg φ)) : Lang → Option (Handshake × List φ)
  | .rust => (recv_handshake e r).toOption
  | .cpp =>
      let (ret, hs, raw_fds) := Cpp.recv_handshake e {} [] r
      if ret ≠ 0 then none else some (hs, raw_fds)

/-- The answer that the subscriber's loop acts on. -/
def recvIdx (e : Endian) (got : Option (List UInt8)) : Lang → RecvIdx UInt32
  | .rust => recv_idx e got
  | .cpp =>
      let (r, idx) := Cpp.recv_frame_idx e 0 got
      if r = 1 then .peerClosed else if r < 0 then .err else .idx idx

end Lang

/-! ## What the two languages share -/

/-- Reading over the whole of an object leaves nothing of it. -/
theorem Cpp.overwrite_eq {object bytes : List UInt8} (h : object.length ≤ bytes.length) :
    Cpp.overwrite object bytes = bytes := by
  rw [Cpp.overwrite, List.drop_eq_nil_of_le h, List.append_nil]

/-- Both languages send the same bytes and descriptors. -/
@[simp] theorem Lang.sendHandshake_eq (L : Lang) (e : Endian) (hs : Handshake) (fds : List φ) :
    L.sendHandshake e hs fds = ⟨hs.bytes e, fds⟩ := by
  cases L <;> rfl

@[simp] theorem Lang.sendIdx_eq (L : Lang) (e : Endian) (idx : UInt32) :
    (L.sendIdx e idx : Outgoing φ) = ⟨toNeBytes e idx, []⟩ := by
  cases L <;> rfl

/-- **Both languages read an index alike.** -/
theorem Lang.recvIdx_eq (L : Lang) (e : Endian) (got : Option (List UInt8)) :
    L.recvIdx e got = recv_idx e got := by
  cases L with
  | rust => rfl
  | cpp =>
      cases got with
      | none => rfl
      | some buf =>
          by_cases h0 : buf.length = 0
          · simp [recvIdx, Cpp.recv_frame_idx, recv_idx, h0]
          · by_cases h4 : buf.length = 4
            · have hover : Cpp.overwrite (toNeBytes e 0) buf = buf :=
                Cpp.overwrite_eq (by simp [h4])
              simp [recvIdx, Cpp.recv_frame_idx, recv_idx, h4, hover]
            · simp [recvIdx, Cpp.recv_frame_idx, recv_idx, h0, h4]

/-! ## When the handshake is accepted -/

/-- The descriptors of all SCM_RIGHTS messages, in order. -/
def RecvMsg.allFds (m : RecvMsg φ) : List φ := m.cmsgs.flatMap (·.fds)

/-- The descriptor lists of the SCM_RIGHTS messages. -/
def ControlMessage.rights : ControlMessage φ → Option (List φ)
  | .scmRights fds => some fds
  | .other => none

/-- The descriptors of the last SCM_RIGHTS message. -/
def RecvMsg.lastFds (m : RecvMsg φ) : List φ :=
  ((m.cmsgs.filterMap ControlMessage.rights).getLast?).getD []

/-- Rust keeps the descriptors of all control messages. -/
theorem ownedFds_eq (cmsgs : List (ControlMessage φ)) : ownedFds cmsgs = cmsgs.flatMap (·.fds) := by
  have hacc : ∀ (acc : List φ), cmsgs.foldl (fun owned_fds cmsg => match cmsg with
      | .scmRights fds => owned_fds ++ fds
      | .other => owned_fds) acc = acc ++ cmsgs.flatMap (·.fds) := by
    induction cmsgs with
    | nil => simp
    | cons c cmsgs ih =>
        intro acc
        cases c <;> simp [ih]
  simpa [ownedFds] using hacc []

/-- C++ keeps the descriptors of the last SCM_RIGHTS message. -/
theorem Cpp.copiedFds_eq (cmsgs : List (ControlMessage φ)) (acc : List φ) :
    Cpp.copiedFds cmsgs acc = ((cmsgs.filterMap ControlMessage.rights).getLast?).getD acc := by
  induction cmsgs generalizing acc with
  | nil => rfl
  | cons c cmsgs ih =>
      cases c with
      | scmRights fds =>
          have hstep : Cpp.copiedFds (.scmRights fds :: cmsgs) acc = Cpp.copiedFds cmsgs fds := rfl
          rw [hstep, ih fds]
          simp [ControlMessage.rights, List.getLast?_cons]
      | other => exact ih acc

/-- The last descriptors come last among all. -/
theorem RecvMsg.lastFds_suffix (m : RecvMsg φ) : m.lastFds <:+ m.allFds := by
  have hflat : m.allFds = (m.cmsgs.filterMap ControlMessage.rights).flatten := by
    rw [allFds]
    induction m.cmsgs with
    | nil => rfl
    | cons c cmsgs ih =>
        cases c with
        | scmRights fds => simp [ih, ControlMessage.rights]
        | other => exact ih
  rw [hflat, lastFds]
  cases hlast : (m.cmsgs.filterMap ControlMessage.rights).getLast? with
  | none => exact List.nil_suffix
  | some fds =>
      obtain ⟨init, hinit⟩ := List.getLast?_eq_some_iff.mp hlast
      rw [hinit, List.flatten_append, List.flatten_singleton]
      exact List.suffix_append _ _

/-- The length of the last descriptor list survives the conversion to `uint32_t`. -/
theorem RecvMsg.lastFds_length_lt (m : RecvMsg φ) : m.lastFds.length < 2 ^ 32 := by
  rw [lastFds]
  cases hlast : (m.cmsgs.filterMap ControlMessage.rights).getLast? with
  | none => simp
  | some fds =>
      obtain ⟨c, hc, hfds⟩ := List.mem_filterMap.mp (List.mem_of_getLast? hlast)
      have hlt := m.int_count c hc
      cases c with
      | scmRights fds' =>
          obtain rfl : fds' = fds := Option.some.inj hfds
          simp only [ControlMessage.fds_scmRights, Option.getD_some] at hlt ⊢
          omega
      | other => cases hfds

/-- **When the Rust receiver accepts**: 24 bytes, and as many descriptors in all as
announced; a truncated message counts as one without descriptors. -/
theorem recv_handshake_eq_ok {e : Endian} {r : Option (RecvMsg φ)} {hs : Handshake}
    {fds : List φ} :
    recv_handshake e r = .ok (hs, fds) ↔
      ∃ m, r = some m ∧ m.payload.length = handshakeSize ∧ hs = Handshake.ofBytes e m.payload ∧
        fds = (if m.ctrunc then [] else m.allFds) ∧ fds.length = hs.buf_count.toNat := by
  cases r with
  | none => simp [recv_handshake]
  | some m =>
      have howned : (match m.nixCmsgs with
          | some cmsgs => ownedFds cmsgs
          | none => []) = if m.ctrunc then [] else m.allFds := by
        cases hc : m.ctrunc <;> simp [RecvMsg.nixCmsgs, hc, ownedFds_eq, RecvMsg.allFds]
      simp only [recv_handshake, howned, Option.some.injEq, exists_eq_left']
      by_cases hlen : m.payload.length = handshakeSize
      · simp only [hlen, ne_eq, not_true_eq_false, if_false]
        split
        · grind
        · grind
      · simp [hlen]

/-- **When the C++ receiver accepts**: 24 bytes, no truncation, and as many descriptors in
the last SCM_RIGHTS message as announced. -/
theorem Cpp.recv_handshake_eq_zero {e : Endian} {r : Option (RecvMsg φ)} {msg hs : Handshake}
    {fds : List φ} :
    Cpp.recv_handshake e msg [] r = (0, hs, fds) ↔
      ∃ m, r = some m ∧ m.payload.length = handshakeSize ∧ m.ctrunc = false ∧
        hs = Handshake.ofBytes e m.payload ∧ fds = m.lastFds ∧
        fds.length = hs.buf_count.toNat := by
  cases r with
  | none => simp [Cpp.recv_handshake]
  | some m =>
      simp only [Cpp.recv_handshake, Option.some.injEq, exists_eq_left']
      by_cases hlen : m.payload.length = handshakeSize
      · have hover : Cpp.overwrite (msg.bytes e) m.payload = m.payload :=
          Cpp.overwrite_eq (by simp [hlen])
        have hlast : Cpp.copiedFds m.cmsgs [] = m.lastFds := Cpp.copiedFds_eq m.cmsgs []
        have hcount : ∀ x : UInt32, UInt32.ofNat m.lastFds.length = x ↔
            m.lastFds.length = x.toNat := by
          intro x
          rw [← UInt32.toNat_inj, UInt32.toNat_ofNat_of_lt' m.lastFds_length_lt]
        have hne : handshakeSize ≠ 0 := by decide
        simp only [hlen, hne, if_false, hover, hlast, ne_eq, not_true_eq_false, hcount]
        cases hc : m.ctrunc
        · simp only [Bool.false_eq_true, if_false]
          split
          · grind
          · grind
        · simp
      · by_cases h0 : m.payload.length = 0
        · simp [h0, handshakeSize]
        · simp [h0, hlen]

/-- `main` of the Rust subscriber goes on exactly with what `recv_handshake` returned. -/
theorem Lang.rust_recvHandshake_eq_some {e : Endian} {r : Option (RecvMsg φ)}
    {p : Handshake × List φ} :
    Lang.rust.recvHandshake e r = some p ↔ recv_handshake e r = .ok p := by
  rw [recvHandshake]
  cases recv_handshake e r <;> simp [Except.toOption]

/-- `main` of the C++ subscriber goes on exactly with what a return of 0 left. -/
theorem Lang.cpp_recvHandshake_eq_some {e : Endian} {r : Option (RecvMsg φ)} {hs : Handshake}
    {fds : List φ} :
    Lang.cpp.recvHandshake e r = some (hs, fds) ↔ Cpp.recv_handshake e {} [] r = (0, hs, fds) := by
  rw [recvHandshake]
  obtain ⟨ret, msg, raw_fds⟩ := Cpp.recv_handshake e {} [] r
  by_cases hret : ret = 0 <;> simp [hret]

/-- Neither language accepts a message of another size than the struct's. -/
theorem Lang.recvHandshake_eq_none (L : Lang) (e : Endian) {m : RecvMsg φ}
    (hlen : m.payload.length ≠ handshakeSize) : L.recvHandshake e (some m) = none := by
  rw [Option.eq_none_iff_forall_ne_some]
  rintro ⟨hs, fds⟩ h
  cases L with
  | rust =>
      obtain ⟨m', hm, hlen', -⟩ := recv_handshake_eq_ok.mp (rust_recvHandshake_eq_some.mp h)
      exact hlen (Option.some.inj hm ▸ hlen')
  | cpp =>
      obtain ⟨m', hm, hlen', -⟩ :=
        Cpp.recv_handshake_eq_zero.mp (cpp_recvHandshake_eq_some.mp h)
      exact hlen (Option.some.inj hm ▸ hlen')

/-- **Both languages accept a whole message** whose descriptors, all in one SCM_RIGHTS
message, are as many as announced, and get the same fields and descriptors. -/
theorem Lang.recvHandshake_of_whole (L : Lang) (e : Endian) {m : RecvMsg φ}
    (hlen : m.payload.length = handshakeSize) (hc : m.ctrunc = false)
    (hall : m.allFds = m.lastFds)
    (hcount : m.allFds.length = (Handshake.ofBytes e m.payload).buf_count.toNat) :
    L.recvHandshake e (some m) = some (Handshake.ofBytes e m.payload, m.allFds) := by
  cases L with
  | rust =>
      exact rust_recvHandshake_eq_some.mpr
        (recv_handshake_eq_ok.mpr ⟨m, rfl, hlen, rfl, by simp [hc], hcount⟩)
  | cpp =>
      exact cpp_recvHandshake_eq_some.mpr
        (Cpp.recv_handshake_eq_zero.mpr ⟨m, rfl, hlen, hc, rfl, hall, hcount⟩)

end DmabufPipeline
