import DmabufPipeline.Wire.Receive

/-!
# Do the two receivers accept the same handshakes?

Not always. A message with MSG_CTRUNC set is refused by the explicit test of the C++
receiver, while the Rust receiver skips the error of `cmsgs()` and goes on with no
descriptors, which `buf_count = 0` accepts. And where descriptors come in several
SCM_RIGHTS messages, Rust counts all of them and C++ only the last. These are the only
two ways to disagree: where both accept, the counts are equal, and so are the lists,
because the last descriptors are a suffix of all of them.

## Main definitions

* `ReceiversAgree` — the two receivers accept the same, with the same results.
* `Unambiguous` — the outcomes of `recvmsg` that neither slip concerns.
* `receiversAgree_iff` — the two conditions are equivalent.
-/

namespace DmabufPipeline

open WordBytes

variable {φ : Type}

/-- The Rust receiver returns Ok exactly when the C++ receiver, called as its caller does
with an empty `fds_out`, returns 0, and then with the same fields and descriptors. -/
def ReceiversAgree (e : Endian) (r : Option (RecvMsg φ)) : Prop :=
  ∀ hs fds, recv_handshake e r = .ok (hs, fds) ↔ Cpp.recv_handshake e {} [] r = (0, hs, fds)

/-- The `buf_count` of the message. -/
def RecvMsg.announced (e : Endian) (m : RecvMsg φ) : ℕ :=
  (Handshake.ofBytes e m.payload).buf_count.toNat

/-- A message of the right size that is truncated announces some descriptors, and one
that is not truncated has all descriptors in its last SCM_RIGHTS message, or announces
neither number. -/
def Unambiguous (e : Endian) : Option (RecvMsg φ) → Prop
  | none => True
  | some m => m.payload.length = handshakeSize →
      if m.ctrunc then m.announced e ≠ 0
      else m.allFds.length = m.lastFds.length ∨
        m.announced e ≠ m.allFds.length ∧ m.announced e ≠ m.lastFds.length

/-- A truncated message is accepted by Rust alone, and only with `buf_count = 0`. -/
theorem receiversAgree_of_ctrunc {e : Endian} {m : RecvMsg φ}
    (hlen : m.payload.length = handshakeSize) (hc : m.ctrunc = true) :
    ReceiversAgree e (some m) ↔ m.announced e ≠ 0 := by
  have hcpp : ∀ hs fds, Cpp.recv_handshake e {} [] (some m) ≠ (0, hs, fds) := by
    intro hs fds h
    obtain ⟨m', hm, -, hc', -⟩ := Cpp.recv_handshake_eq_zero.mp h
    obtain rfl := Option.some.inj hm
    rw [hc] at hc'
    cases hc'
  constructor
  · intro hagree h0
    refine hcpp (Handshake.ofBytes e m.payload) [] ((hagree _ _).mp ?_)
    exact recv_handshake_eq_ok.mpr ⟨m, rfl, hlen, rfl, by simp [hc], h0.symm⟩
  · intro h0 hs fds
    refine iff_of_false (fun h => ?_) (hcpp hs fds)
    obtain ⟨m', hm, -, rfl, hfds, hcount⟩ := recv_handshake_eq_ok.mp h
    obtain rfl := Option.some.inj hm
    rw [hfds, hc] at hcount
    exact h0 (by simpa [RecvMsg.announced] using hcount.symm)

/-- On a message that is not truncated, the receivers agree when the two counts do, or
when neither is the one announced. -/
theorem receiversAgree_of_not_ctrunc {e : Endian} {m : RecvMsg φ}
    (hlen : m.payload.length = handshakeSize) (hc : m.ctrunc = false) :
    ReceiversAgree e (some m) ↔ m.allFds.length = m.lastFds.length ∨
      m.announced e ≠ m.allFds.length ∧ m.announced e ≠ m.lastFds.length := by
  have hrust : ∀ hs fds, recv_handshake e (some m) = .ok (hs, fds) ↔
      hs = Handshake.ofBytes e m.payload ∧ fds = m.allFds ∧ m.announced e = m.allFds.length := by
    intro hs fds
    rw [recv_handshake_eq_ok]
    constructor
    · rintro ⟨m', hm, -, rfl, rfl, hcount⟩
      obtain rfl := Option.some.inj hm
      exact ⟨rfl, by simp [hc], by simpa [hc, RecvMsg.announced] using hcount.symm⟩
    · rintro ⟨rfl, rfl, hcount⟩
      exact ⟨m, rfl, hlen, rfl, by simp [hc], hcount.symm⟩
  have hcpp : ∀ hs fds, Cpp.recv_handshake e {} [] (some m) = (0, hs, fds) ↔
      hs = Handshake.ofBytes e m.payload ∧ fds = m.lastFds ∧
        m.announced e = m.lastFds.length := by
    intro hs fds
    rw [Cpp.recv_handshake_eq_zero]
    constructor
    · rintro ⟨m', hm, -, -, rfl, rfl, hcount⟩
      obtain rfl := Option.some.inj hm
      exact ⟨rfl, rfl, hcount.symm⟩
    · rintro ⟨rfl, rfl, hcount⟩
      exact ⟨m, rfl, hlen, hc, rfl, rfl, hcount.symm⟩
  constructor
  · intro hagree
    by_cases hall : m.announced e = m.allFds.length
    · obtain ⟨-, -, hlast⟩ := (hcpp _ _).mp ((hagree _ _).mp ((hrust _ _).mpr ⟨rfl, rfl, hall⟩))
      exact .inl (hall.symm.trans hlast)
    · by_cases hlast : m.announced e = m.lastFds.length
      · obtain ⟨-, -, h⟩ := (hrust _ _).mp ((hagree _ _).mpr ((hcpp _ _).mpr ⟨rfl, rfl, hlast⟩))
        exact absurd h hall
      · exact .inr ⟨hall, hlast⟩
  · rintro (hcounts | ⟨hall, hlast⟩) hs fds
    · have heq : m.lastFds = m.allFds := m.lastFds_suffix.eq_of_length hcounts.symm
      rw [hrust, hcpp, heq]
    · exact iff_of_false (fun h => hall ((hrust _ _).mp h).2.2)
        fun h => hlast ((hcpp _ _).mp h).2.2

/-- **The two receivers agree exactly on the unambiguous outcomes of `recvmsg`.** -/
theorem receiversAgree_iff (e : Endian) (r : Option (RecvMsg φ)) :
    ReceiversAgree e r ↔ Unambiguous e r := by
  cases r with
  | none => simp [ReceiversAgree, Unambiguous, recv_handshake, Cpp.recv_handshake]
  | some m =>
      by_cases hlen : m.payload.length = handshakeSize
      · cases hc : m.ctrunc with
        | true => simp [Unambiguous, hlen, hc, receiversAgree_of_ctrunc hlen hc]
        | false => simp [Unambiguous, hlen, hc, receiversAgree_of_not_ctrunc hlen hc]
      · refine iff_of_true (fun hs fds => iff_of_false (fun h => ?_) fun h => ?_)
          fun h => absurd h hlen
        · obtain ⟨m', hm, hlen', -⟩ := recv_handshake_eq_ok.mp h
          exact hlen (Option.some.inj hm ▸ hlen')
        · obtain ⟨m', hm, hlen', -⟩ := Cpp.recv_handshake_eq_zero.mp h
          exact hlen (Option.some.inj hm ▸ hlen')

/-- A handshake that announces one descriptor, with one descriptor in each of two
SCM_RIGHTS messages. -/
def splitRights : RecvMsg ℕ where
  payload := Handshake.bytes .little { buf_count := 1 }
  ctrunc := false
  cmsgs := [.scmRights [7], .scmRights [8]]
  int_count := by simp

/-- A handshake that announces no descriptor, sent with more than the ancillary buffer
holds. -/
def truncatedRights : RecvMsg ℕ where
  payload := Handshake.bytes .little {}
  ctrunc := true
  cmsgs := [.scmRights (List.range kMaxFds)]
  int_count := by simp [kMaxFds]

/-- **The receivers disagree** on two SCM_RIGHTS messages, which only C++ accepts, and on
a truncated message, which only Rust accepts. -/
theorem not_receiversAgree :
    recv_handshake .little (some splitRights) = .error (.count 1 2) ∧
      Cpp.recv_handshake .little {} [] (some splitRights) = (0, { buf_count := 1 }, [8]) ∧
      recv_handshake .little (some truncatedRights) = .ok ({}, []) ∧
      Cpp.recv_handshake .little {} [] (some truncatedRights) = (-1, {}, []) ∧
      ¬ ReceiversAgree .little (some splitRights) ∧
      ¬ ReceiversAgree .little (some truncatedRights) := by
  have hrust : recv_handshake .little (some splitRights) = .error (.count 1 2) := by rfl
  have hcpp : Cpp.recv_handshake .little {} [] (some splitRights) =
      (0, { buf_count := 1 }, [8]) := by rfl
  have hrust' : recv_handshake .little (some truncatedRights) = .ok ({}, []) := by rfl
  have hcpp' : Cpp.recv_handshake .little {} [] (some truncatedRights) = (-1, {}, []) := by rfl
  refine ⟨hrust, hcpp, hrust', hcpp', fun h => ?_, fun h => ?_⟩
  · have := (h _ _).mpr hcpp
    rw [hrust] at this
    cases this
  · have := (h _ _).mp hrust'
    rw [hcpp'] at this
    exact absurd (congrArg Prod.fst this) (by decide)

end DmabufPipeline
