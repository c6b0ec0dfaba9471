import Mathlib.Data.List.TakeWhile
import Mathlib.Tactic.Common

/-!
# Text in bytes

Words and decimal numerals as byte strings, and which byte strings are UTF-8.

## Main definitions

* `word` — the bytes of an ASCII literal.
* `isDigit`, `value` — decimal digits and the number that a digit string writes.
* `IsNumeral` — a digit string of at least one digit.
* `isUtf8` — well-formed UTF-8.
-/

namespace ByteText

/-- A byte string. -/
abbrev Bytes := List UInt8

/-- The bytes of an ASCII string. -/
def word (s : String) : Bytes := s.toList.map fun c => UInt8.ofNat c.toNat

/-! ## Decimal numerals -/

/-- `0` to `9`. -/
def isDigit (b : UInt8) : Bool := 48 ≤ b.toNat && b.toNat ≤ 57

/-- The number that a digit string writes. -/
def value (ds : Bytes) : ℕ := ds.foldl (fun v d => 10 * v + (d.toNat - 48)) 0

/-- A digit string of at least one digit. -/
def IsNumeral (ds : Bytes) : Prop := ds ≠ [] ∧ ∀ d ∈ ds, isDigit d = true

instance (ds : Bytes) : Decidable (IsNumeral ds) := inferInstanceAs (Decidable (_ ∧ _))

/-- A numeral is all digits. -/
theorem IsNumeral.takeWhile {ds : Bytes} (h : IsNumeral ds) : ds.takeWhile isDigit = ds := by
  rw [List.takeWhile_eq_self_iff]
  exact h.2

/-- The first byte of a numeral is a digit. -/
theorem IsNumeral.exists_cons {ds : Bytes} (h : IsNumeral ds) :
    ∃ d ds', ds = d :: ds' ∧ isDigit d = true := by
  cases ds with
  | nil => exact absurd rfl h.1
  | cons d ds' => exact ⟨d, ds', rfl, h.2 d List.mem_cons_self⟩

/-! ## UTF-8 -/

/-- What a first byte asks for: the number of continuation bytes, and the range of the
first of them. -/
def utf8Start (b : UInt8) : Option (ℕ × UInt8 × UInt8) :=
  if b ≤ 0x7F then some (0, 0x80, 0xBF)
  else if 0xC2 ≤ b ∧ b ≤ 0xDF then some (1, 0x80, 0xBF)
  else if b = 0xE0 then some (2, 0xA0, 0xBF)
  else if b = 0xED then some (2, 0x80, 0x9F)
  else if 0xE1 ≤ b ∧ b ≤ 0xEF then some (2, 0x80, 0xBF)
  else if b = 0xF0 then some (3, 0x90, 0xBF)
  else if 0xF1 ≤ b ∧ b ≤ 0xF3 then some (3, 0x80, 0xBF)
  else if b = 0xF4 then some (3, 0x80, 0x8F)
  else none

/-- Well-formed UTF-8 from the middle of a character: `need` continuation bytes are
missing, and the next one lies between `lo` and `hi`. -/
def isUtf8From : ℕ → UInt8 → UInt8 → Bytes → Bool
  | need, _, _, [] => need = 0
  | 0, _, _, b :: bs =>
      match utf8Start b with
      | some (need, lo, hi) => isUtf8From need lo hi bs
      | none => false
  | need + 1, lo, hi, b :: bs => lo ≤ b && b ≤ hi && isUtf8From need 0x80 0xBF bs

/-- Well-formed UTF-8. -/
def isUtf8 (bs : Bytes) : Bool := isUtf8From 0 0x80 0xBF bs

end ByteText
