import DmabufPipeline.Wire.Receive

/-!
# A whole session on the wire

The publisher sends the handshake and then any number of indices; its stream ends after
any number of bytes, whether or not that is the end of a message. The subscriber reads
the handshake with one `recvmsg` and then one index after the other with MSG_WAITALL,
until the stream or the session ends. Nothing on the stream says where a message ends,
so the two sides must agree on every size.

## Main definitions

* `Lang.messages` — the messages that a publisher sends in a session.
* `recvmsg`, `recvAll`, `Lang.receive` — a subscriber reading them to the stream's end.
* `receive_stream` — what is received of a stream that ends at any byte.
-/

namespace DmabufPipeline

open WordBytes

variable {φ : Type}

/-- The messages of a session: the handshake and then the indices. -/
def Lang.messages (L : Lang) (e : Endian) (hs : Handshake) (fds : List φ) (idxs : List UInt32) :
    List (Outgoing φ) :=
  L.sendHandshake e hs fds :: idxs.map (L.sendIdx e)

/-- A full ancillary buffer is far from the bound of an `int`. -/
theorem recvmsg_int_count (stream : List UInt8) (fds : List φ) :
    ∀ c ∈ (if stream.isEmpty || fds.isEmpty then []
      else [ControlMessage.scmRights (fds.take kMaxFds)]), c.fds.length < 2 ^ 31 := by
  intro c hc
  split at hc
  · simp at hc
  · obtain rfl : c = .scmRights (fds.take kMaxFds) := by simpa using hc
    have hle := List.length_take_le kMaxFds fds
    simp only [kMaxFds] at hle
    simp only [ControlMessage.fds_scmRights, kMaxFds]
    omega

/-- The first `recvmsg` on a stream whose first message carries `fds`: at most 24 bytes,
with the descriptors for which the ancillary buffer has room. Descriptors come with the
first byte, in one SCM_RIGHTS message, and without descriptors there is no message. -/
def recvmsg (stream : List UInt8) (fds : List φ) : RecvMsg φ where
  payload := stream.take handshakeSize
  ctrunc := !stream.isEmpty && kMaxFds < fds.length
  cmsgs := if stream.isEmpty || fds.isEmpty then [] else [.scmRights (fds.take kMaxFds)]
  int_count := recvmsg_int_count stream fds

/-- An index takes four bytes. -/
theorem length_of_recvIdx {L : Lang} {e : Endian} {buf : List UInt8} {idx : UInt32}
    (h : L.recvIdx e (some buf) = .idx idx) : buf.length = 4 := by
  rw [Lang.recvIdx_eq] at h
  by_contra hne
  by_cases h0 : buf.length = 0
  · simp [recv_idx, h0] at h
  · simp [recv_idx, h0, hne] at h

/-- The indices that the subscriber's loop receives from the rest of a stream, and the
answer that ends it. With MSG_WAITALL, `recv` returns four bytes unless the stream ends
before. -/
def recvAll (L : Lang) (e : Endian) (stream : List UInt8) : List UInt32 × RecvIdx UInt32 :=
  match _h : L.recvIdx e (some (stream.take 4)) with
  | .idx idx =>
      let (idxs, ending) := recvAll L e (stream.drop 4)
      (idx :: idxs, ending)
  | ending => ([], ending)
  termination_by stream.length
  decreasing_by
    have hlen := length_of_recvIdx _h
    simp only [List.length_take, List.length_drop] at hlen ⊢
    omega

/-- A session as the subscriber receives it when the first `p` bytes of the messages sent
arrive: the handshake, the descriptors, the indices, and how it ended; `none` when the
handshake failed. -/
def Lang.receive (L : Lang) (e : Endian) (sent : List (Outgoing φ)) (p : ℕ) :
    Option (Handshake × List φ × List UInt32 × RecvIdx UInt32) :=
  let stream := (sent.flatMap (·.bytes)).take p
  -- `recvmsg` gets what came with the first message; `recv` would discard any later descriptors.
  let attached := (sent.head?.map (·.fds)).getD []
  (L.recvHandshake e (some (recvmsg stream attached))).map fun (hs, fds) =>
    (hs, fds, recvAll L e (stream.drop handshakeSize))

/-- One turn of the loop with an index. -/
theorem recvAll_of_idx {L : Lang} {e : Endian} {stream : List UInt8} {idx : UInt32}
    (h : L.recvIdx e (some (stream.take 4)) = .idx idx) :
    recvAll L e stream =
      (idx :: (recvAll L e (stream.drop 4)).1, (recvAll L e (stream.drop 4)).2) := by
  rw [recvAll]
  split
  · rename_i idx' h'
    obtain rfl : idx = idx' := RecvIdx.idx.inj (h.symm.trans h')
    rfl
  · rename_i hne
    exact absurd h (hne idx)

/-- The last turn of the loop. -/
theorem recvAll_of_ending {L : Lang} {e : Endian} {stream : List UInt8} {r : RecvIdx UInt32}
    (h : L.recvIdx e (some (stream.take 4)) = r) (hr : ∀ idx, r ≠ .idx idx) :
    recvAll L e stream = ([], r) := by
  rw [recvAll]
  split
  · rename_i idx h'
    exact absurd (h.symm.trans h') (hr idx)
  · rw [h]

/-- How a session ends whose stream ends `p` bytes into the indices. -/
def endingAt (idxs : List UInt32) (p : ℕ) : RecvIdx UInt32 :=
  if 4 * idxs.length ≤ p ∨ p % 4 = 0 then .peerClosed else .err

/-- **The indices of a stream that ends after any number of bytes**: exactly those whose
four bytes are there, and an error if some bytes of another are. -/
theorem recvAll_take (L : Lang) (e : Endian) (idxs : List UInt32) (p : ℕ) :
    recvAll L e ((idxs.flatMap (toNeBytes e)).take p) =
      (idxs.take (p / 4), endingAt idxs p) := by
  induction idxs generalizing p with
  | nil =>
      rw [List.flatMap_nil, List.take_nil, List.take_nil]
      have hnil : L.recvIdx e (some (([] : List UInt8).take 4)) = .peerClosed := by
        rw [Lang.recvIdx_eq]
        rfl
      rw [recvAll_of_ending hnil (fun idx h => by cases h)]
      simp [endingAt]
  | cons idx idxs ih =>
      rw [List.flatMap_cons]
      by_cases hp : 4 ≤ p
      · -- The first index is whole, and the rest is a shorter stream.
        have hsplit : (toNeBytes e idx ++ idxs.flatMap (toNeBytes e)).take p =
            toNeBytes e idx ++ (idxs.flatMap (toNeBytes e)).take (p - 4) := by
          rw [List.take_append, List.take_of_length_le (by simpa using hp), length_toNeBytes]
        have hread : L.recvIdx e (some ((toNeBytes e idx ++
            (idxs.flatMap (toNeBytes e)).take (p - 4)).take 4)) = .idx idx := by
          rw [List.take_left' (length_toNeBytes e idx), Lang.recvIdx_eq]
          simp [recv_idx]
        rw [hsplit, recvAll_of_idx hread, List.drop_left' (length_toNeBytes e idx), ih]
        have hdiv : p / 4 = (p - 4) / 4 + 1 := by omega
        have hend : endingAt (idx :: idxs) p = endingAt idxs (p - 4) := by
          have h₁ : 4 * (idx :: idxs).length ≤ p ↔ 4 * idxs.length ≤ p - 4 := by
            rw [List.length_cons]
            omega
          have h₂ : p % 4 = (p - 4) % 4 := by omega
          rw [endingAt, endingAt, h₂]
          simp only [h₁]
        rw [hdiv, List.take_succ_cons, hend]
      · -- The stream ends before the first index is whole.
        have hlen : ((toNeBytes e idx ++ idxs.flatMap (toNeBytes e)).take p).length = p := by
          rw [List.length_take, List.length_append, length_toNeBytes]
          omega
        have hwhole : ((toNeBytes e idx ++ idxs.flatMap (toNeBytes e)).take p).take 4 =
            (toNeBytes e idx ++ idxs.flatMap (toNeBytes e)).take p :=
          List.take_of_length_le (by omega)
        have hread : L.recvIdx e (some (((toNeBytes e idx ++
            idxs.flatMap (toNeBytes e)).take p).take 4)) = endingAt (idx :: idxs) p := by
          rw [hwhole, Lang.recvIdx_eq, recv_idx, hlen, endingAt, List.length_cons]
          by_cases h0 : p = 0
          · simp [h0]
          · have h4 : p ≠ 4 := by omega
            have hmod : p % 4 ≠ 0 := by omega
            have hall : ¬ 4 * (idxs.length + 1) ≤ p := by omega
            simp [h0, h4, hmod, hall]
        rw [recvAll_of_ending hread (by unfold endingAt; split <;> simp)]
        have hdiv : p / 4 = 0 := by omega
        rw [hdiv, List.take_zero]

/-- A stream that reaches beyond the handshake delivers it whole. -/
theorem recvHandshake_of_stream (L : Lang) (e : Endian) {hs : Handshake} {fds : List φ}
    (rest : List UInt8) (hcount : hs.buf_count.toNat = fds.length) (hmax : fds.length ≤ kMaxFds) :
    L.recvHandshake e (some (recvmsg (hs.bytes e ++ rest) fds)) = some (hs, fds) := by
  have hpayload : (recvmsg (hs.bytes e ++ rest) fds).payload = hs.bytes e :=
    List.take_left' (Handshake.length_bytes e hs)
  have hne : (hs.bytes e ++ rest).isEmpty = false := by
    rw [List.isEmpty_eq_false_iff, ← List.length_pos_iff, List.length_append,
      Handshake.length_bytes]
    simp [handshakeSize]
  have hall : (recvmsg (hs.bytes e ++ rest) fds).allFds = fds := by
    cases fds with
    | nil => simp [recvmsg, RecvMsg.allFds]
    | cons fd fds => simp [recvmsg, RecvMsg.allFds, hne, List.take_of_length_le hmax]
  have hlast : (recvmsg (hs.bytes e ++ rest) fds).lastFds = fds := by
    cases fds with
    | nil => simp [recvmsg, RecvMsg.lastFds]
    | cons fd fds =>
        simp [recvmsg, RecvMsg.lastFds, hne, List.take_of_length_le hmax, ControlMessage.rights]
  have h := L.recvHandshake_of_whole e (m := recvmsg (hs.bytes e ++ rest) fds)
    (by rw [hpayload, Handshake.length_bytes])
    (by simp [recvmsg, Nat.not_lt.mpr hmax])
    (hall.trans hlast.symm)
    (by rw [hall, hpayload, Handshake.ofBytes_bytes, hcount])
  rwa [hall, hpayload, Handshake.ofBytes_bytes] at h

/-- **The round trip of a session**, between any two languages, for a stream that ends
after any number `p` of bytes: with fewer than 24 the handshake fails; from then on the
subscriber has the six fields and the descriptors sent, receives exactly the indices
whose four bytes are there, in order, and ends with the peer closed at the end of a
message and with an error inside an index. -/
theorem receive_stream (Lp Ls : Lang) (e : Endian) (hs : Handshake) (fds : List φ)
    (idxs : List UInt32) (p : ℕ) (hcount : hs.buf_count.toNat = fds.length)
    (hmax : fds.length ≤ kMaxFds) :
    Ls.receive e (Lp.messages e hs fds idxs) p =
      if p < handshakeSize then none
      else some (hs, fds, idxs.take ((p - handshakeSize) / 4),
        endingAt idxs (p - handshakeSize)) := by
  have hstream : (Lp.messages e hs fds idxs).flatMap (·.bytes) =
      hs.bytes e ++ idxs.flatMap (toNeBytes e) := by
    simp [Lang.messages, List.flatMap_map]
  have hattached : ((Lp.messages e hs fds idxs).head?.map (·.fds)).getD [] = fds := by
    simp [Lang.messages]
  rw [Lang.receive, hstream, hattached]
  simp only
  by_cases hp : p < handshakeSize
  · have hshort : (recvmsg ((hs.bytes e ++ idxs.flatMap (toNeBytes e)).take p) fds).payload.length
        ≠ handshakeSize := by
      simp only [recvmsg, List.length_take]
      omega
    rw [Ls.recvHandshake_eq_none e hshort, if_pos hp, Option.map_none]
  · have hsplit : (hs.bytes e ++ idxs.flatMap (toNeBytes e)).take p =
        hs.bytes e ++ (idxs.flatMap (toNeBytes e)).take (p - handshakeSize) := by
      rw [List.take_append, List.take_of_length_le (by rw [Handshake.length_bytes]; omega),
        Handshake.length_bytes]
    rw [hsplit, recvHandshake_of_stream Ls e _ hcount hmax, if_neg hp, Option.map_some,
      List.drop_left' (Handshake.length_bytes e hs), recvAll_take]

/-- Two descriptors, two indices, and a stream that ends inside the second index. -/
theorem receive_stream_torn :
    Lang.rust.receive .big (Lang.cpp.messages .big { buf_count := 2 } [0, 1] [1, 0]) 30 =
      some ({ buf_count := 2 }, [0, 1], [1], .err) :=
  receive_stream .cpp .rust .big { buf_count := 2 } [0, 1] [1, 0] 30 rfl (by decide)

end DmabufPipeline
