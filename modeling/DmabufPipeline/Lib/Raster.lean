import Mathlib

/-!
# Triangles, interpolation and filtered sampling

What a graphics pipeline computes between the vertices of a triangle and the texels of an
image, in exact arithmetic over an ordered field. The values carried by the vertices, and
the colours of an image, are vectors of any module over the field.

Two facts carry a textured rectangle. Interpolating the values of an affine map gives the
affine map, so that it does not matter which triangle covers a point. A linear filter near
the centre of a texel is near that texel, and at the centre it is that texel.

## Main definitions

* `Viewport`, `centre` — pixels and their centres.
* `Triangle`, `Triangle.Covers`, `Triangle.interpolate` — barycentric interpolation.
* `Triangle.interpolate_affine` — it reproduces affine maps.
* `covers_strip` — a strip of two triangles covers its rectangle.
* `sampleLinear`, `abs_sampleLinear_sub_le` — the linear filter, clamped at the edges.
-/

namespace Raster

variable {K : Type*} [Field K]

/-! ## Pixels -/

/-- A rectangle of pixels. -/
structure Viewport where
  x : ℤ
  y : ℤ
  width : ℤ
  height : ℤ
  deriving DecidableEq, Repr

/-- The pixel is inside. -/
def Viewport.Has (v : Viewport) (x y : ℤ) : Prop :=
  v.x ≤ x ∧ x < v.x + v.width ∧ v.y ≤ y ∧ y < v.y + v.height

instance (v : Viewport) (x y : ℤ) : Decidable (v.Has x y) :=
  inferInstanceAs (Decidable (_ ∧ _ ∧ _ ∧ _))

/-- The centre of a pixel. -/
def centre (x y : ℤ) : K × K := ((x : K) + 1 / 2, (y : K) + 1 / 2)

/-- From the square between -1 and 1 to the rectangle. -/
def Viewport.window (v : Viewport) (p : K × K) : K × K :=
  ((p.1 + 1) / 2 * v.width + v.x, (p.2 + 1) / 2 * v.height + v.y)

/-! ## Triangles -/

/-- Twice the signed area of the triangle `a`, `b`, `p`. -/
def cross (a b p : K × K) : K := (b.1 - a.1) * (p.2 - a.2) - (b.2 - a.2) * (p.1 - a.1)

/-- Three corners. -/
structure Triangle (K : Type*) where
  a : K × K
  b : K × K
  c : K × K
  deriving DecidableEq, Repr

namespace Triangle

/-- Twice the signed area. -/
def area (t : Triangle K) : K := cross t.a t.b t.c

/-- The barycentric weights of the three corners at a point. -/
def weightA (t : Triangle K) (p : K × K) : K := cross t.b t.c p / t.area
def weightB (t : Triangle K) (p : K × K) : K := cross t.c t.a p / t.area
def weightC (t : Triangle K) (p : K × K) : K := cross t.a t.b p / t.area

variable {V : Type*} [AddCommGroup V] [Module K V] {t : Triangle K} {p : K × K}

/-- The value at a point between the values at the corners. -/
def interpolate (t : Triangle K) (va vb vc : V) (p : K × K) : V :=
  t.weightA p • va + t.weightB p • vb + t.weightC p • vc

/-- The weights add up to one, -/
theorem weights_sum (h : t.area ≠ 0) : t.weightA p + t.weightB p + t.weightC p = 1 := by
  simp only [weightA, weightB, weightC]
  field_simp
  simp only [area, cross]
  ring

/-- and average the corners to the point. -/
theorem weights_fst (h : t.area ≠ 0) :
    t.weightA p * t.a.1 + t.weightB p * t.b.1 + t.weightC p * t.c.1 = p.1 := by
  simp only [weightA, weightB, weightC]
  field_simp
  simp only [area, cross]
  ring

theorem weights_snd (h : t.area ≠ 0) :
    t.weightA p * t.a.2 + t.weightB p * t.b.2 + t.weightC p * t.c.2 = p.2 := by
  simp only [weightA, weightB, weightC]
  field_simp
  simp only [area, cross]
  ring

/-- **Interpolation reproduces affine maps.** -/
theorem interpolate_affine (h : t.area ≠ 0) {f : K × K → V} (o ex ey : V)
    (hf : ∀ q, f q = o + q.1 • ex + q.2 • ey) :
    t.interpolate (f t.a) (f t.b) (f t.c) p = f p := by
  have hsum := weights_sum (p := p) h
  have hfst := weights_fst (p := p) h
  have hsnd := weights_snd (p := p) h
  calc t.interpolate (f t.a) (f t.b) (f t.c) p
      = (t.weightA p + t.weightB p + t.weightC p) • o +
          (t.weightA p * t.a.1 + t.weightB p * t.b.1 + t.weightC p * t.c.1) • ex +
          (t.weightA p * t.a.2 + t.weightB p * t.b.2 + t.weightC p * t.c.2) • ey := by
        simp only [interpolate, hf]
        module
    _ = f p := by rw [hsum, hfst, hsnd, hf, one_smul]

variable [LinearOrder K]

/-- The point is in the triangle or on its border. -/
def Covers (t : Triangle K) (p : K × K) : Prop :=
  t.area ≠ 0 ∧ 0 ≤ t.weightA p ∧ 0 ≤ t.weightB p ∧ 0 ≤ t.weightC p

instance (t : Triangle K) (p : K × K) : Decidable (t.Covers p) :=
  inferInstanceAs (Decidable (_ ∧ _ ∧ _ ∧ _))

end Triangle

/-! ## A rectangle as a strip -/

variable [LinearOrder K]

/-- The square of a pixel. -/
def InPixel (x y : ℤ) (q : K × K) : Prop :=
  |q.1 - (centre x y).1| ≤ 1 / 2 ∧ |q.2 - (centre x y).2| ≤ 1 / 2

variable [IsStrictOrderedRing K]

/-- A pixel has its centre, -/
theorem inPixel_centre (x y : ℤ) : InPixel x y (centre x y : K × K) := by
  simp [InPixel]

/-- and the pixels of a rectangle are inside. -/
theorem InPixel.inside {w h x y : ℕ} (hx : x < w) (hy : y < h) {q : K × K}
    (hq : InPixel x y q) : (0 ≤ q.1 ∧ q.1 ≤ w) ∧ 0 ≤ q.2 ∧ q.2 ≤ h := by
  have inside {n k : ℕ} (hk : k < n) {z : K} (hz : |z - ((k : ℤ) + 1 / 2)| ≤ 1 / 2) :
      0 ≤ z ∧ z ≤ n := by
    have hle : (k : K) + 1 ≤ n := by exact_mod_cast hk
    have hnonneg : (0 : K) ≤ k := Nat.cast_nonneg k
    rw [Int.cast_natCast, abs_le] at hz
    constructor <;> linarith [hz.1, hz.2]
  exact ⟨inside hx hq.1, inside hy hq.2⟩

/-- A point on the inner side of all three edges, for either orientation. -/
theorem Triangle.covers_of_pos {t : Triangle K} {p : K × K} (h : 0 < t.area)
    (ha : 0 ≤ cross t.b t.c p) (hb : 0 ≤ cross t.c t.a p) (hc : 0 ≤ cross t.a t.b p) :
    t.Covers p :=
  ⟨h.ne', div_nonneg ha h.le, div_nonneg hb h.le, div_nonneg hc h.le⟩

theorem Triangle.covers_of_neg {t : Triangle K} {p : K × K} (h : t.area < 0)
    (ha : cross t.b t.c p ≤ 0) (hb : cross t.c t.a p ≤ 0) (hc : cross t.a t.b p ≤ 0) :
    t.Covers p :=
  ⟨h.ne, div_nonneg_of_nonpos ha h.le, div_nonneg_of_nonpos hb h.le,
    div_nonneg_of_nonpos hc h.le⟩

/-- **A strip of two triangles covers its rectangle**: every point is in the first, which
has the lower left corner, or in the second, which has the upper right one. -/
theorem covers_strip {x₀ x₁ y₀ y₁ : K} (hx : x₀ < x₁) (hy : y₀ < y₁) {p : K × K}
    (hpx : x₀ ≤ p.1 ∧ p.1 ≤ x₁) (hpy : y₀ ≤ p.2 ∧ p.2 ≤ y₁) :
    Triangle.Covers ⟨(x₀, y₀), (x₁, y₀), (x₀, y₁)⟩ p ∨
      Triangle.Covers ⟨(x₁, y₀), (x₀, y₁), (x₁, y₁)⟩ p := by
  have hw : 0 < x₁ - x₀ := sub_pos.mpr hx
  have hh : 0 < y₁ - y₀ := sub_pos.mpr hy
  have harea : 0 < (x₁ - x₀) * (y₁ - y₀) := mul_pos hw hh
  have hleft : 0 ≤ (p.1 - x₀) * (y₁ - y₀) := mul_nonneg (sub_nonneg.mpr hpx.1) hh.le
  have hright : 0 ≤ (x₁ - p.1) * (y₁ - y₀) := mul_nonneg (sub_nonneg.mpr hpx.2) hh.le
  have hbelow : 0 ≤ (x₁ - x₀) * (p.2 - y₀) := mul_nonneg hw.le (sub_nonneg.mpr hpy.1)
  have habove : 0 ≤ (x₁ - x₀) * (y₁ - p.2) := mul_nonneg hw.le (sub_nonneg.mpr hpy.2)
  -- The diagonal decides between the two triangles.
  rcases le_total ((p.1 - x₀) * (y₁ - y₀) + (x₁ - x₀) * (p.2 - y₀)) ((x₁ - x₀) * (y₁ - y₀))
    with hside | hside
  · left
    apply Triangle.covers_of_pos <;> simp only [Triangle.area, cross] <;> linarith
  · right
    apply Triangle.covers_of_neg <;> simp only [Triangle.area, cross] <;> linarith

/-! ## Sampling an image -/

variable {V : Type*} [AddCommGroup V] [Module K V]

/-- An image of `width` by `height` texels; row 0 comes first in memory. -/
structure Image (V : Type*) where
  width : ℕ
  height : ℕ
  texel : ℕ → ℕ → V

/-- The nearest index inside `0, …, n - 1`. -/
def clampIndex (n : ℕ) (i : ℤ) : ℕ := (max 0 (min i (n - 1))).toNat

/-- The texel at a position, or at the nearest one inside. -/
def Image.clamped (img : Image V) (i j : ℤ) : V :=
  img.texel (clampIndex img.width i) (clampIndex img.height j)

variable [FloorRing K]

/-- The value at `x` between the two values of a row at the neighbouring integers. -/
def lerp (r : ℤ → V) (x : K) : V := (1 - Int.fract x) • r ⌊x⌋ + Int.fract x • r (⌊x⌋ + 1)

/-- **The linear filter**: the average of the four texels whose centres surround the point
`(u, v)` of the unit square. -/
def sampleLinear (img : Image V) (uv : K × K) : V :=
  lerp (fun j => lerp (fun i => img.clamped i j) (uv.1 * img.width - 1 / 2))
    (uv.2 * img.height - 1 / 2)

omit [IsStrictOrderedRing K] in
/-- A linear map of the values goes through. -/
theorem map_lerp {W : Type*} [AddCommGroup W] [Module K W] (φ : V →ₗ[K] W) (r : ℤ → V) (x : K) :
    φ (lerp r x) = lerp (fun i => φ (r i)) x := by
  simp [lerp]

variable {r : ℤ → K}

/-- Between values of the unit interval lie values of the unit interval. -/
theorem lerp_mem_unit (hr : ∀ i, r i ∈ Set.Icc 0 1) (x : K) : lerp r x ∈ Set.Icc 0 1 := by
  have hfract := Int.fract_nonneg x
  have hfract' := (Int.fract_lt_one x).le
  have hsum : 1 - Int.fract x + Int.fract x = 1 := by ring
  exact (convex_Icc (0 : K) 1) (hr ⌊x⌋) (hr (⌊x⌋ + 1)) (by linarith) hfract hsum

omit [FloorRing K] in
/-- Values of the unit interval differ by at most one. -/
theorem abs_sub_le_one {a b : K} (ha : a ∈ Set.Icc 0 1) (hb : b ∈ Set.Icc 0 1) : |a - b| ≤ 1 := by
  rw [abs_le]
  constructor <;> linarith [ha.1, ha.2, hb.1, hb.2]

/-- **Near an integer the value is near the one there**, if the values lie in the unit
interval. -/
theorem abs_lerp_sub_le (hr : ∀ i, r i ∈ Set.Icc 0 1) (x : K) (i : ℤ) :
    |lerp r x - r i| ≤ |x - i| := by
  have hx : (⌊x⌋ : K) + Int.fract x = x := Int.floor_add_fract x
  have hfract := Int.fract_nonneg x
  have hfract' := (Int.fract_lt_one x).le
  rcases lt_trichotomy i ⌊x⌋ with hlt | rfl | hgt
  · -- The integer lies at least one below the left neighbour, or is it no more.
    have hle : (i : K) + 1 ≤ ⌊x⌋ := by exact_mod_cast hlt
    have hone : 1 ≤ |x - i| := le_abs.mpr (.inl (by linarith))
    exact (abs_sub_le_one (lerp_mem_unit hr x) (hr i)).trans hone
  · have hdiff : lerp r x - r ⌊x⌋ = Int.fract x * (r (⌊x⌋ + 1) - r ⌊x⌋) := by
      simp only [lerp, smul_eq_mul]
      ring
    calc |lerp r x - r ⌊x⌋|
        = Int.fract x * |r (⌊x⌋ + 1) - r ⌊x⌋| := by rw [hdiff, abs_mul, abs_of_nonneg hfract]
      _ ≤ Int.fract x * 1 := by gcongr; exact abs_sub_le_one (hr _) (hr _)
      _ ≤ |x - ⌊x⌋| := by rw [mul_one]; exact le_abs.mpr (.inl (by linarith))
  · rcases eq_or_lt_of_le (Int.add_one_le_iff.mpr hgt) with rfl | hfar
    · have hdiff : lerp r x - r (⌊x⌋ + 1) = (1 - Int.fract x) * (r ⌊x⌋ - r (⌊x⌋ + 1)) := by
        simp only [lerp, smul_eq_mul]
        ring
      have hrest : 0 ≤ 1 - Int.fract x := by linarith
      calc |lerp r x - r (⌊x⌋ + 1)|
          = (1 - Int.fract x) * |r ⌊x⌋ - r (⌊x⌋ + 1)| := by
            rw [hdiff, abs_mul, abs_of_nonneg hrest]
        _ ≤ (1 - Int.fract x) * 1 := by gcongr; exact abs_sub_le_one (hr _) (hr _)
        _ ≤ |x - ((⌊x⌋ + 1 : ℤ) : K)| := by
            push_cast
            rw [mul_one]
            exact le_abs.mpr (.inr (by linarith))
    · have hle : (⌊x⌋ : K) + 1 + 1 ≤ i := by exact_mod_cast hfar
      have hone : 1 ≤ |x - i| := le_abs.mpr (.inr (by linarith))
      exact (abs_sub_le_one (lerp_mem_unit hr x) (hr i)).trans hone

theorem clampIndex_natCast {n i : ℕ} (h : i < n) : clampIndex n i = i := by
  simp only [clampIndex]
  omega

/-- **Near the centre of a texel the filter is near that texel**, in every component whose
values lie in the unit interval: the distance is at most that of the point, in texels. -/
theorem abs_sampleLinear_sub_le (φ : V →ₗ[K] K) {img : Image V}
    (hunit : ∀ i j, φ (img.texel i j) ∈ Set.Icc 0 1) {i j : ℕ} (hi : i < img.width)
    (hj : j < img.height) (uv : K × K) :
    |φ (sampleLinear img uv) - φ (img.texel i j)| ≤
      |uv.1 * img.width - (i + 1 / 2)| + |uv.2 * img.height - (j + 1 / 2)| := by
  set x := uv.1 * img.width - 1 / 2 with hx
  set y := uv.2 * img.height - 1 / 2 with hy
  have hrow (k : ℤ) : ∀ l, φ (img.clamped l k) ∈ Set.Icc 0 1 := fun _ => hunit _ _
  have htexel : img.clamped (i : ℤ) (j : ℤ) = img.texel i j := by
    rw [Image.clamped, clampIndex_natCast hi, clampIndex_natCast hj]
  have hsample : φ (sampleLinear img uv) =
      lerp (fun k => lerp (fun l => φ (img.clamped l k)) x) y := by
    simp only [sampleLinear, map_lerp, ← hx, ← hy]
  have hacross := abs_lerp_sub_le (hrow j) x i
  have hdown := abs_lerp_sub_le (fun k => lerp_mem_unit (hrow k) x) y j
  rw [htexel] at hacross
  calc |φ (sampleLinear img uv) - φ (img.texel i j)|
      ≤ |φ (sampleLinear img uv) - lerp (fun l => φ (img.clamped l j)) x| +
          |lerp (fun l => φ (img.clamped l j)) x - φ (img.texel i j)| := abs_sub_le _ _ _
    _ ≤ |y - (j : ℤ)| + |x - (i : ℤ)| := add_le_add (hsample ▸ hdown) hacross
    _ = |uv.1 * img.width - (i + 1 / 2)| + |uv.2 * img.height - (j + 1 / 2)| := by
      rw [hx, hy, add_comm, Int.cast_natCast, Int.cast_natCast]
      congr 2 <;> ring

end Raster
