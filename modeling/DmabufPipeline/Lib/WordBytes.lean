import Mathlib.Data.Nat.Notation
import Mathlib.Data.List.Basic
import Mathlib.Tactic.Ring

/-!
# Fixed-width words as bytes

A word of `n` bytes is a natural number below `256 ^ n`; its memory image is the list
of its `n` bytes in one of the two byte orders. Nothing depends on the width, so a
four-byte and an eight-byte field share every lemma.

## Main definitions

* `encode e n x` — the `n` bytes of `x` in byte order `e`.
* `decode e bs` — the number that the bytes `bs` denote in byte order `e`.
* `decode_encode` — the round trip.
-/

namespace WordBytes

/-- The byte order of a machine. -/
inductive Endian
  | little
  | big
  deriving DecidableEq, Repr

/-- The `n` low bytes of `x`, least significant first. -/
def leBytes : ℕ → ℕ → List UInt8
  | 0, _ => []
  | n + 1, x => UInt8.ofNat x :: leBytes n (x / 256)

/-- The number with the given bytes, least significant first. -/
def ofLeBytes : List UInt8 → ℕ
  | [] => 0
  | b :: bs => b.toNat + 256 * ofLeBytes bs

@[simp] theorem length_leBytes (n x : ℕ) : (leBytes n x).length = n := by
  induction n generalizing x with
  | zero => rfl
  | succ n ih => simp [leBytes, ih]

/-- Reading back `n` bytes gives the number modulo `256 ^ n`. -/
theorem ofLeBytes_leBytes (n x : ℕ) : ofLeBytes (leBytes n x) = x % 256 ^ n := by
  induction n generalizing x with
  | zero => simp [leBytes, ofLeBytes, Nat.mod_one]
  | succ n ih =>
      have h : x % 256 ^ (n + 1) = x % 256 + 256 * (x / 256 % 256 ^ n) := by
        rw [pow_succ', Nat.mod_mul]
      simp [leBytes, ofLeBytes, ih, h]

/-- The `n` bytes of `x` as they lie in memory. -/
def encode (e : Endian) (n x : ℕ) : List UInt8 :=
  match e with
  | .little => leBytes n x
  | .big => (leBytes n x).reverse

/-- The number that bytes in memory denote. -/
def decode (e : Endian) (bs : List UInt8) : ℕ :=
  match e with
  | .little => ofLeBytes bs
  | .big => ofLeBytes bs.reverse

@[simp] theorem length_encode (e : Endian) (n x : ℕ) : (encode e n x).length = n := by
  cases e <;> simp [encode]

/-- **A word survives the trip through memory.** -/
theorem decode_encode (e : Endian) {n x : ℕ} (h : x < 256 ^ n) :
    decode e (encode e n x) = x := by
  cases e <;> simp [decode, encode, ofLeBytes_leBytes, Nat.mod_eq_of_lt h]

end WordBytes
