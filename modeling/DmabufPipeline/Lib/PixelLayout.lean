import Mathlib.Data.Nat.Notation
import Mathlib.Tactic.Common

/-!
# Where the components of a pixel lie

A pixel format says at which byte of a buffer each colour component of a pixel lies. Three
families cover the linear 8-bit formats: packed RGB, packed YUV with chroma shared by two
neighbours, and a luma plane followed by interleaved chroma at half resolution. A layout
is a member of a family with the byte positions filled in, so that two formats compare by
comparing positions.

## Main definitions

* `Colour` — the components of a pixel.
* `Layout`, `Layout.read` — a format, and the pixel it places at a position.
* `read_packed_eq_iff` — when exchanging two components goes unnoticed.
-/

namespace PixelLayout

/-- The components of a pixel. -/
inductive Colour
  | rgb (r g b : UInt8) (a : Option UInt8)
  | yuv (y u v : UInt8)
  deriving DecidableEq, Repr

/-- Where a plane starts, and how far apart its rows are. -/
structure Plane where
  offset : ℕ
  pitch : ℕ
  deriving DecidableEq, Repr

/-- The planes of an image; a format with one plane ignores the second. -/
structure Planes where
  first : Plane
  second : Plane
  deriving DecidableEq, Repr

/-- A format, by the byte positions of its components. -/
inductive Layout
  /-- `size` bytes a pixel, with each component at a byte of it. -/
  | packed (size r g b : ℕ) (a : Option ℕ)
  /-- Four bytes for two neighbours: luma at `y` and `y + 2`, shared chroma at `u`, `v`. -/
  | packedYuv (y u v : ℕ)
  /-- A luma plane, and a second plane of chroma pairs shared by two by two pixels. -/
  | semiPlanar (u v : ℕ)
  deriving DecidableEq, Repr

variable {mem : ℕ → UInt8} {p : Planes}

/-- The pixel at column `x` and row `y` of an image with planes `p`. -/
def Layout.read (mem : ℕ → UInt8) (p : Planes) (x y : ℕ) : Layout → Colour
  | .packed size r g b a =>
      let base := p.first.offset + y * p.first.pitch + size * x
      .rgb (mem (base + r)) (mem (base + g)) (mem (base + b)) (a.map fun a => mem (base + a))
  | .packedYuv luma u v =>
      let base := p.first.offset + y * p.first.pitch + 4 * (x / 2)
      .yuv (mem (base + luma + 2 * (x % 2))) (mem (base + u)) (mem (base + v))
  | .semiPlanar u v =>
      let chroma := p.second.offset + y / 2 * p.second.pitch + 2 * (x / 2)
      .yuv (mem (p.first.offset + y * p.first.pitch + x)) (mem (chroma + u)) (mem (chroma + v))

/-- Whether a layout has a second plane. -/
def Layout.twoPlanes : Layout → Bool
  | .semiPlanar .. => true
  | _ => false

/-- A layout with one plane does not look at the second. -/
theorem Layout.read_congr {l : Layout} (q : Planes) (hfirst : p.first = q.first)
    (hsecond : l.twoPlanes → p.second = q.second) (x y : ℕ) :
    l.read mem p x y = l.read mem q x y := by
  cases l with
  | packed size r g b a => simp only [read, hfirst]
  | packedYuv luma u v => simp only [read, hfirst]
  | semiPlanar u v => simp only [read, hfirst, hsecond rfl]

/-- **Exchanging two components** of a packed format goes unnoticed exactly at the pixels
where the two bytes are equal. -/
theorem read_packed_eq_iff (size r g b : ℕ) (a : Option ℕ) (x y : ℕ) :
    (Layout.packed size b g r a).read mem p x y = (Layout.packed size r g b a).read mem p x y ↔
      mem (p.first.offset + y * p.first.pitch + size * x + r) =
        mem (p.first.offset + y * p.first.pitch + size * x + b) := by
  simp only [Layout.read, Colour.rgb.injEq, and_true, true_and]
  constructor
  · rintro ⟨h, -⟩
    exact h.symm
  · exact fun h => ⟨h.symm, h⟩

end PixelLayout
