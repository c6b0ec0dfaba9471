import DmabufPipeline.Lib.Ledger
import DmabufPipeline.Wire.Receive

/-!
# Which descriptors `recv_handshake` closes

The kernel installs the descriptors that fit the ancillary buffer before `recvmsg`
returns, whatever the payload. Here the two `recv_handshake` are written once more, with
what each of them closes before it returns: the Rust one drops `owned_fds` on a wrong
count, the C++ one closes `fds_out` there. The exits before that point close nothing.

## Main definitions

* `installed` — the descriptors that the kernel installed for one message.
* `recv_handshake_closing`, `Cpp.recv_handshake_closing` — the receivers with what they
  close.
* `KeepsDescriptors` — what the call owes for the installed descriptors.
* `Accounted` — when both receivers pay it.
-/

namespace DmabufPipeline

open WordBytes

variable {φ : Type}

/-- The descriptors that the kernel installed for the outcome of `recvmsg`. -/
def installed : Option (RecvMsg φ) → List φ
  | none => []
  | some m => m.allFds

/-! ## The receivers with what they close -/

/-- `recv_handshake`, with the descriptors that it closes: `owned_fds` is dropped when the
count is wrong. The raw descriptors of a control message are closed by nobody. -/
def recv_handshake_closing (e : Endian) :
    Option (RecvMsg φ) → Except HandshakeError (Handshake × List φ) × List φ
  | none => (.error .os, [])
  | some m =>
      if m.payload.length ≠ handshakeSize then (.error .short, [])
      else
        let hs := Handshake.ofBytes e m.payload
        let owned_fds := match m.nixCmsgs with
          | some cmsgs => ownedFds cmsgs
          | none => []
        if owned_fds.length ≠ hs.buf_count.toNat then
          (.error (.count hs.buf_count owned_fds.length), owned_fds)
        else (.ok (hs, owned_fds), [])

namespace Cpp

/-- `recv_handshake`, with the descriptors that it closes:
`for (int fd : fds_out) ::close(fd)` when the count is wrong. -/
def recv_handshake_closing (e : Endian) (msg : Handshake) (fds_out : List φ) :
    Option (RecvMsg φ) → (ℤ × Handshake × List φ) × List φ
  | none => ((-1, msg, fds_out), [])
  | some m =>
      let msg := Handshake.ofBytes e (overwrite (msg.bytes e) m.payload)
      if m.payload.length = 0 then ((1, msg, fds_out), [])
      else if m.payload.length ≠ handshakeSize then ((-1, msg, fds_out), [])
      else if m.ctrunc then ((-1, msg, fds_out), [])
      else
        let fds_out := copiedFds m.cmsgs fds_out
        if UInt32.ofNat fds_out.length ≠ msg.buf_count then ((-1, msg, fds_out), fds_out)
        else ((0, msg, fds_out), [])

end Cpp

/-- What closing adds does not change what the receiver returns. -/
@[simp] theorem recv_handshake_closing_fst (e : Endian) (r : Option (RecvMsg φ)) :
    (recv_handshake_closing e r).1 = recv_handshake e r := by
  cases r with
  | none => rfl
  | some m =>
      cases hc : m.ctrunc with
      | true =>
          simp only [recv_handshake_closing, recv_handshake, RecvMsg.nixCmsgs, hc, if_true,
            apply_ite Prod.fst]
      | false =>
          simp only [recv_handshake_closing, recv_handshake, RecvMsg.nixCmsgs, hc,
            Bool.false_eq_true, if_false, apply_ite Prod.fst]

@[simp] theorem Cpp.recv_handshake_closing_fst (e : Endian) (msg : Handshake)
    (fds_out : List φ) (r : Option (RecvMsg φ)) :
    (Cpp.recv_handshake_closing e msg fds_out r).1 = Cpp.recv_handshake e msg fds_out r := by
  cases r with
  | none => rfl
  | some m => simp only [Cpp.recv_handshake_closing, Cpp.recv_handshake, apply_ite Prod.fst]

/-- What one call leaves: the descriptors that the caller owns, on success, and the
descriptors closed. -/
structure Reception (φ : Type) where
  owned : Option (List φ)
  closed : List φ
  deriving DecidableEq, Repr

namespace Lang

/-- The outcome of `recv_handshake`, called as `main` calls it. -/
def reception (e : Endian) (r : Option (RecvMsg φ)) : Lang → Reception φ
  | .rust =>
      let (ret, closed) := recv_handshake_closing e r
      ⟨ret.toOption.map (·.2), closed⟩
  | .cpp =>
      let ((ret, _, fds_out), closed) := Cpp.recv_handshake_closing e {} [] r
      ⟨if ret = 0 then some fds_out else none, closed⟩

/-- What the caller owns is what `main` goes on with. -/
theorem reception_owned (L : Lang) (e : Endian) (r : Option (RecvMsg φ)) :
    (L.reception e r).owned = (L.recvHandshake e r).map (·.2) := by
  cases L with
  | rust =>
      have hfst := recv_handshake_closing_fst e r
      simp only [reception, recvHandshake, hfst]
  | cpp =>
      have hfst := Cpp.recv_handshake_closing_fst e {} [] r
      simp only [reception, recvHandshake, hfst]
      split <;> simp_all

end Lang

/-! ## What the call owes -/

/-- For the descriptors that the kernel installed: a failed call has closed each of them
exactly once, a successful one hands each of them to the caller exactly once. -/
def KeepsDescriptors (given : List φ) (o : Reception φ) : Prop :=
  match o.owned with
  | none => o.closed.Perm given
  | some fds => o.closed = [] ∧ fds.Perm given

instance [DecidableEq φ] (given : List φ) (o : Reception φ) :
    Decidable (KeepsDescriptors given o) :=
  match o with
  | ⟨none, closed⟩ => inferInstanceAs (Decidable (closed.Perm given))
  | ⟨some fds, closed⟩ => inferInstanceAs (Decidable (closed = [] ∧ fds.Perm given))

open Ledger in
/-- **The descriptor table after the call.** With new numbers from the kernel, a failed
call leaves the open descriptors as they were, and closes nothing that is not open. -/
theorem KeepsDescriptors.table_of_failed {given closed : List ℕ} {s : Finset ℕ}
    (h : KeepsDescriptors given ⟨none, closed⟩) (hfresh : Fresh s (given.map .acquire)) :
    Sound s (given.map .acquire ++ closed.map .release) ∧
      held s (given.map .acquire ++ closed.map .release) = s := by
  have hperm : closed.Perm given := h
  exact settles_of_perm hfresh hperm

/-- The descriptors that the receiver takes out of the control messages. -/
def Lang.taken (m : RecvMsg φ) : Lang → List φ
  | .rust => if m.payload.length ≠ handshakeSize ∨ m.ctrunc then [] else m.allFds
  | .cpp => if m.payload.length ≠ handshakeSize ∨ m.ctrunc then [] else m.lastFds

/-- **What a receiver has taken, it hands to the caller or closes.** -/
theorem Lang.reception_taken (L : Lang) (e : Endian) (m : RecvMsg φ) :
    L.reception e (some m) = ⟨none, L.taken m⟩ ∨
      L.reception e (some m) = ⟨some (L.taken m), []⟩ := by
  by_cases hlen : m.payload.length = handshakeSize
  · cases L with
    | rust =>
        have howned : (match m.nixCmsgs with
            | some cmsgs => ownedFds cmsgs
            | none => []) = Lang.rust.taken m := by
          cases hc : m.ctrunc <;>
            simp [RecvMsg.nixCmsgs, Lang.taken, hc, hlen, ownedFds_eq, RecvMsg.allFds]
        simp only [reception, recv_handshake_closing, hlen, ne_eq, not_true_eq_false, if_false,
          howned]
        split
        · exact .inl rfl
        · exact .inr rfl
    | cpp =>
        have h0 : ¬ handshakeSize = 0 := by decide
        cases hc : m.ctrunc with
        | true =>
            simp [reception, Cpp.recv_handshake_closing, Lang.taken, hlen, hc, handshakeSize]
        | false =>
            have hlast : Cpp.copiedFds m.cmsgs [] = Lang.cpp.taken m := by
              rw [Cpp.copiedFds_eq]
              simp [Lang.taken, hlen, hc, RecvMsg.lastFds]
            simp only [reception, Cpp.recv_handshake_closing, h0, hlen, hc, ne_eq,
              not_true_eq_false, if_false, hlast, Bool.false_eq_true]
            split
            · exact .inl rfl
            · exact .inr rfl
  · have htaken : L.taken m = [] := by
      cases L <;> simp [Lang.taken, hlen]
    have hnone : L.recvHandshake e (some m) = none := L.recvHandshake_eq_none e hlen
    left
    cases L with
    | rust => simp [reception, recv_handshake_closing, hlen, htaken, Except.toOption]
    | cpp =>
        by_cases h0 : m.payload.length = 0
        · simp [reception, Cpp.recv_handshake_closing, h0, htaken]
        · simp [reception, Cpp.recv_handshake_closing, h0, hlen, htaken]

/-- The outcomes of `recvmsg` whose descriptors the receiver accounts for: none were
installed, or the message is whole, not truncated, and, in C++, has all of its descriptors
in its last SCM_RIGHTS message. -/
def Accounted (L : Lang) : Option (RecvMsg φ) → Prop
  | none => True
  | some m => m.allFds = [] ∨
      m.payload.length = handshakeSize ∧ m.ctrunc = false ∧ (L = .cpp → m.allFds = m.lastFds)

/-- A receiver takes all installed descriptors exactly from the messages it accounts
for. -/
theorem Lang.taken_perm_iff (L : Lang) (m : RecvMsg φ) :
    (L.taken m).Perm m.allFds ↔ Accounted L (some m) := by
  rw [Accounted]
  by_cases hwhole : m.payload.length = handshakeSize ∧ m.ctrunc = false
  · obtain ⟨hlen, hc⟩ := hwhole
    cases L with
    | rust => simp [taken, hlen, hc]
    | cpp =>
        have htaken : Lang.cpp.taken m = m.lastFds := by simp [taken, hlen, hc]
        rw [htaken]
        constructor
        · intro hperm
          have heq : m.lastFds = m.allFds := m.lastFds_suffix.eq_of_length hperm.length_eq
          exact .inr ⟨hlen, hc, fun _ => heq.symm⟩
        · rintro (hnil | ⟨-, -, heq⟩)
          · have hlast : m.lastFds = [] := List.suffix_nil.mp (hnil ▸ m.lastFds_suffix)
            rw [hlast, hnil]
          · rw [heq rfl]
  · have htaken : L.taken m = [] := by
      have hor : m.payload.length ≠ handshakeSize ∨ m.ctrunc = true := by
        by_cases hlen : m.payload.length = handshakeSize
        · exact .inr (by simpa [hlen] using hwhole)
        · exact .inl hlen
      cases L <;> simp only [taken, if_pos hor]
    rw [htaken, List.nil_perm]
    constructor
    · exact .inl
    · rintro (hnil | ⟨hlen, hc, -⟩)
      · exact hnil
      · exact absurd ⟨hlen, hc⟩ hwhole

/-- **`recv_handshake` keeps its descriptors exactly on the messages it accounts for**: a
short payload, truncated control data or, in C++, a second SCM_RIGHTS message leaves
installed descriptors that are neither closed nor handed over. -/
theorem keepsDescriptors_iff (L : Lang) (e : Endian) (r : Option (RecvMsg φ)) :
    KeepsDescriptors (installed r) (L.reception e r) ↔ Accounted L r := by
  cases r with
  | none =>
      have hnone : L.reception e (none : Option (RecvMsg φ)) = ⟨none, []⟩ := by cases L <;> rfl
      rw [hnone]
      exact ⟨fun _ => trivial, fun _ => List.Perm.refl _⟩
  | some m =>
      rw [← L.taken_perm_iff m]
      rcases L.reception_taken e m with h | h
      · rw [h]
        exact Iff.rfl
      · rw [h]
        exact ⟨fun hkeeps => hkeeps.2, fun hperm => ⟨rfl, hperm⟩⟩

/-- One byte of payload, with descriptor 7. -/
def shortMsg : RecvMsg ℕ where
  payload := [0]
  ctrunc := false
  cmsgs := [.scmRights [7]]
  int_count := by decide

/-- A whole handshake that announces no descriptor, with descriptor 7 and MSG_CTRUNC. -/
def truncatedMsg : RecvMsg ℕ where
  payload := Handshake.bytes .little {}
  ctrunc := true
  cmsgs := [.scmRights [7]]
  int_count := by decide

/-- Descriptor 7 stays open behind a failure in both languages, and behind a success of
the Rust receiver. -/
theorem not_keepsDescriptors :
    (¬ KeepsDescriptors (installed (some shortMsg)) (Lang.rust.reception .little (some shortMsg)) ∧
      ¬ KeepsDescriptors (installed (some shortMsg))
        (Lang.cpp.reception .little (some shortMsg))) ∧
    (¬ KeepsDescriptors (installed (some truncatedMsg))
        (Lang.rust.reception .little (some truncatedMsg)) ∧
      ¬ KeepsDescriptors (installed (some truncatedMsg))
        (Lang.cpp.reception .little (some truncatedMsg))) ∧
    (Lang.rust.reception .little (some truncatedMsg)).owned = some [] := by
  decide

end DmabufPipeline
