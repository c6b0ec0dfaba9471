import DmabufPipeline.Lib.WordBytes

/-!
# Messages on the socket

`Handshake` of `common/src/lib.rs` and `HandshakeMsg` of `socket_utils.hpp` are the
same six `u32` fields in the same order; both languages send the object's memory, so
what travels is the concatenation of the fields' bytes in the byte order of the
machine. The per-frame messages are a bare `u32` and one acknowledgement byte.

## Main definitions

* `Handshake`, `FrameMeta` — the two records.
* `Sent`, `RecvIdx` — how a send and a `recv_idx` came out.
* `Handshake.bytes`, `Handshake.ofBytes` — the `repr(C)` image and its reading.
-/

namespace DmabufPipeline

open WordBytes

/-- The implementation language of one end. -/
inductive Lang
  | rust
  | cpp
  deriving DecidableEq, Repr

/-- Sent once at connection time, together with the DMA-BUF descriptors. -/
structure Handshake where
  buf_count : UInt32 := 0
  width : UInt32 := 0
  height : UInt32 := 0
  /-- DRM FOURCC. -/
  format : UInt32 := 0
  /-- Bytes per line of plane 0. -/
  stride : UInt32 := 0
  /-- Total buffer size in bytes. -/
  size : UInt32 := 0
  deriving DecidableEq, Repr

/-- The geometry that the subscriber keeps for `import_dmabuf`. -/
structure FrameMeta where
  width : UInt32
  height : UInt32
  format : UInt32
  stride : UInt32
  size : UInt32
  deriving DecidableEq, Repr

/-- The subscriber's reconstruction of `FrameMeta` from the handshake. -/
def Handshake.frameMeta (hs : Handshake) : FrameMeta where
  width := hs.width
  height := hs.height
  format := hs.format
  stride := hs.stride
  size := hs.size

/-- How the `sendmsg` of a message of fixed size came out: all bytes queued, a
negative return, or only `n` bytes queued ("short send"). -/
inductive Sent
  | ok
  | err
  | short (n : ℕ)
  deriving DecidableEq, Repr

/-- The result of `recv_idx`; `ι` is `u32` on the wire and `usize` in the programs. -/
inductive RecvIdx (ι : Type)
  | idx (i : ι)
  | peerClosed
  | err
  deriving DecidableEq, Repr

/-- `as usize`. -/
def RecvIdx.toUsize : RecvIdx UInt32 → RecvIdx ℕ
  | .idx i => .idx i.toNat
  | .peerClosed => .peerClosed
  | .err => .err

/-! ## Memory images -/

/-- `u32::to_ne_bytes`, and the bytes of a `uint32_t` in memory. -/
def toNeBytes (e : Endian) (x : UInt32) : List UInt8 := encode e 4 x.toNat

/-- `u32::from_ne_bytes`. -/
def fromNeBytes (e : Endian) (bs : List UInt8) : UInt32 := UInt32.ofNat (decode e bs)

@[simp] theorem length_toNeBytes (e : Endian) (x : UInt32) : (toNeBytes e x).length = 4 :=
  length_encode e 4 _

@[simp] theorem fromNeBytes_toNeBytes (e : Endian) (x : UInt32) :
    fromNeBytes e (toNeBytes e x) = x := by
  have h : x.toNat < 256 ^ 4 := x.toNat_lt
  simp [fromNeBytes, toNeBytes, decode_encode e h]

theorem drop_toNeBytes (e : Endian) (x : UInt32) {n : ℕ} (h : 4 ≤ n) :
    (toNeBytes e x).drop n = [] := List.drop_eq_nil_of_le (by simpa using h)

/-- `size_of::<Handshake>()`, `sizeof(HandshakeMsg)`. -/
def handshakeSize : ℕ := 24

/-- The memory of a `Handshake`, field after field without padding. -/
def Handshake.bytes (e : Endian) (hs : Handshake) : List UInt8 :=
  toNeBytes e hs.buf_count ++ toNeBytes e hs.width ++ toNeBytes e hs.height ++
    toNeBytes e hs.format ++ toNeBytes e hs.stride ++ toNeBytes e hs.size

/-- Memory read as a `Handshake`: the field at byte offset `o` is the word there. -/
def Handshake.ofBytes (e : Endian) (bs : List UInt8) : Handshake where
  buf_count := fromNeBytes e (bs.take 4)
  width := fromNeBytes e ((bs.drop 4).take 4)
  height := fromNeBytes e ((bs.drop 8).take 4)
  format := fromNeBytes e ((bs.drop 12).take 4)
  stride := fromNeBytes e ((bs.drop 16).take 4)
  size := fromNeBytes e ((bs.drop 20).take 4)

@[simp] theorem Handshake.length_bytes (e : Endian) (hs : Handshake) :
    (hs.bytes e).length = handshakeSize := by
  simp [Handshake.bytes, handshakeSize]

/-- **All six fields survive the trip through memory.** -/
@[simp] theorem Handshake.ofBytes_bytes (e : Endian) (hs : Handshake) :
    Handshake.ofBytes e (hs.bytes e) = hs := by
  simp [Handshake.ofBytes, Handshake.bytes, List.drop_append,
    drop_toNeBytes, List.take_of_length_le]

end DmabufPipeline
