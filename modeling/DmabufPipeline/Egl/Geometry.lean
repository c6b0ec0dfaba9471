import DmabufPipeline.Egl.Attributes

/-!
# The geometry of a session

The handshake's width, height, stride and size are five words of the peer's choice (the
fifth is the format), and the subscriber hands them on unchecked: the window, the viewport
and the attribute list take them as signed words, the offset of a chroma plane is a 32-bit
product, and the size that should bound the planes is copied into the frame description
and never read. So the planes stay inside the buffer, and the numbers are what they were,
exactly when the handshake says so.

The window system and EGL may refuse the numbers they are given. What they answer is
`GeometryAnswers`.

## Main definitions

* `windowSize`, `viewport` — the other places that the size goes to.
* `describedPlanes` — the planes that an attribute list describes, over the integers.
* `GeometryKept` — nothing changed on the way, and the planes are inside the buffer.
* `Fits` — the handshakes that this is true of.
* `geometrySafe_iff` — the two conditions are equivalent for a session.
-/

namespace DmabufPipeline

/-! ## Where the numbers go -/

/-- The size that `WaylandWindow::create` gives the `wl_egl_window`. -/
def windowSize (hs : Handshake) : EGLint × EGLint := (hs.width.toInt32, hs.height.toInt32)

/-- The size that `main` gives `set_viewport`. -/
def viewport (hs : Handshake) : Int32 × Int32 := (hs.width.toInt32, hs.height.toInt32)

/-- A plane as EGL reads it, and the number of its rows. -/
structure DescribedPlane where
  offset : ℤ
  pitch : ℤ
  rows : ℕ

/-- The plane that an attribute list describes under the given names, if any. -/
def describedPlane (offsetName pitchName : EGLint) (rows : ℕ) (attrs : List EGLint) :
    List DescribedPlane :=
  match eglAttrib offsetName attrs, eglAttrib pitchName attrs with
  | some offset, some pitch => [⟨offset.toInt, pitch.toInt, rows⟩]
  | _, _ => []

/-- The planes that an attribute list describes; a chroma plane has half the rows. -/
def describedPlanes (height : ℕ) (attrs : List EGLint) : List DescribedPlane :=
  describedPlane EGL_DMA_BUF_PLANE0_OFFSET_EXT EGL_DMA_BUF_PLANE0_PITCH_EXT height attrs ++
    describedPlane EGL_DMA_BUF_PLANE1_OFFSET_EXT EGL_DMA_BUF_PLANE1_PITCH_EXT
      ((height + 1) / 2) attrs

/-! ## What should hold of them -/

/-- **The geometry of a handshake is kept**: EGL, the window and the viewport get its
numbers, a chroma plane begins behind the luma plane, and all planes lie inside the
buffer. -/
structure GeometryKept (hs : Handshake) (attrs : List EGLint) : Prop where
  width : ∃ w, eglAttrib EGL_WIDTH attrs = some w ∧ w.toInt = hs.width.toNat
  height : ∃ h, eglAttrib EGL_HEIGHT attrs = some h ∧ h.toInt = hs.height.toNat
  pitches : ∀ p ∈ describedPlanes hs.height.toNat attrs, p.pitch = hs.stride.toNat
  uv_offset : isSemiPlanar hs.format = true →
    ∃ offset, eglAttrib EGL_DMA_BUF_PLANE1_OFFSET_EXT attrs = some offset ∧
      offset.toInt = (hs.stride.toNat * hs.height.toNat : ℕ)
  inside : ∀ p ∈ describedPlanes hs.height.toNat attrs,
    0 ≤ p.offset ∧ p.offset + p.pitch * p.rows ≤ hs.size.toNat
  window : (windowSize hs).1.toInt = hs.width.toNat ∧ (windowSize hs).2.toInt = hs.height.toNat
  viewport : (viewport hs).1.toInt = hs.width.toNat ∧ (viewport hs).2.toInt = hs.height.toNat

/-- The product that `import_dmabuf` computes for NV12 and NV21 does not wrap. -/
def NoWrap (hs : Handshake) : Prop :=
  isSemiPlanar hs.format = true →
    (hs.stride * hs.height).toNat = hs.stride.toNat * hs.height.toNat

/-- What the window system and EGL made of the numbers they were given. -/
structure GeometryAnswers where
  /-- The window and its surface were created. -/
  window : Bool
  /-- `eglCreateImageKHR` made an image of the list. -/
  image : Bool

/-- **The session refuses the geometry or keeps it**, and `import_dmabuf` neither panics
nor wraps. -/
def GeometrySafe (L : Lang) (overflow_checks has_modifiers : Bool) (dmabuf_fd : EGLint)
    (hs : Handshake) (ans : GeometryAnswers) : Prop :=
  ans.window = false ∨
    ∃ attrs, L.importDmabuf overflow_checks has_modifiers dmabuf_fd hs.frameMeta = some attrs ∧
      NoWrap hs ∧ (ans.image = false ∨ GeometryKept hs attrs)

/-- **The handshakes whose geometry fits**: the sizes and the pitch fit a signed word, and
the buffer has room for the planes. -/
structure Fits (hs : Handshake) : Prop where
  width : hs.width.toNat < 2 ^ 31
  height : hs.height.toNat < 2 ^ 31
  stride : hs.stride.toNat < 2 ^ 31
  plane0 : hs.stride.toNat * hs.height.toNat ≤ hs.size.toNat
  plane1 : isSemiPlanar hs.format = true →
    hs.stride.toNat * hs.height.toNat < 2 ^ 31 ∧
      hs.stride.toNat * hs.height.toNat + hs.stride.toNat * ((hs.height.toNat + 1) / 2) ≤
        hs.size.toNat

/-! ## When it does -/

/-- A word that holds a number modulo 2^32, read as signed, is the number exactly when it
is below 2^31. -/
theorem toInt_toInt32_eq_iff {x : UInt32} {n : ℕ} (h : x.toNat = n % 2 ^ 32) :
    x.toInt32.toInt = n ↔ n < 2 ^ 31 := by
  have hsigned : x.toInt32.toInt = if 2 * x.toNat < 2 ^ 32 then (x.toNat : ℤ)
      else (x.toNat : ℤ) - (2 ^ 32 : ℕ) := BitVec.toInt_eq_toNat_cond x.toBitVec
  rw [hsigned]
  split <;> omega

/-- The same for the word's own value. -/
theorem toInt_toInt32_eq_toNat_iff (x : UInt32) :
    x.toInt32.toInt = x.toNat ↔ x.toNat < 2 ^ 31 :=
  toInt_toInt32_eq_iff (Nat.mod_eq_of_lt x.toNat_lt).symm

/-- **The planes that the list of an import describes**: the luma or only plane, and for
NV12 and NV21 a chroma plane. -/
theorem forall_describedPlanes (has_modifiers : Bool) (dmabuf_fd : EGLint) (hs : Handshake)
    {Q : DescribedPlane → Prop} :
    (∀ p ∈ describedPlanes hs.height.toNat (importAttrs has_modifiers dmabuf_fd hs.frameMeta),
        Q p) ↔
      Q ⟨0, hs.stride.toInt32.toInt, hs.height.toNat⟩ ∧
        (isSemiPlanar hs.format = true →
          Q ⟨(hs.stride * hs.height).toInt32.toInt, hs.stride.toInt32.toInt,
            (hs.height.toNat + 1) / 2⟩) := by
  have hplanes : describedPlanes hs.height.toNat
      (importAttrs has_modifiers dmabuf_fd hs.frameMeta) =
      ⟨0, hs.stride.toInt32.toInt, hs.height.toNat⟩ ::
        if isSemiPlanar hs.format then
          [⟨(hs.stride * hs.height).toInt32.toInt, hs.stride.toInt32.toInt,
            (hs.height.toNat + 1) / 2⟩]
        else [] := by
    cases hsemi : isSemiPlanar hs.format <;> cases has_modifiers <;>
      simp only [importAttrs, Handshake.frameMeta, hsemi] <;> rfl
  rw [hplanes, List.forall_mem_cons]
  refine and_congr_right fun _ => ?_
  by_cases hsemi : isSemiPlanar hs.format = true
  · simp [hsemi]
  · simp [hsemi]

/-- The offset of the chroma plane in the list of an import. -/
theorem eglAttrib_uv_offset {has_modifiers : Bool} {dmabuf_fd : EGLint} {hs : Handshake}
    (hsemi : isSemiPlanar hs.format = true) :
    eglAttrib EGL_DMA_BUF_PLANE1_OFFSET_EXT
        (importAttrs has_modifiers dmabuf_fd hs.frameMeta) =
      some (hs.stride * hs.height).toInt32 := by
  cases has_modifiers <;> simp only [importAttrs, Handshake.frameMeta, hsemi] <;> rfl

/-- A plane at offset 0 whose pitch is the stride lies inside the buffer if its bytes
fit. -/
theorem luma_inside_iff {stride height size : ℕ} :
    (0 ≤ (0 : ℤ) ∧ (0 : ℤ) + (stride : ℤ) * height ≤ size) ↔ stride * height ≤ size := by
  rw [zero_add, and_iff_right le_rfl]
  exact_mod_cast Iff.rfl

/-- A plane behind the luma plane lies inside the buffer if the bytes of both fit. -/
theorem chroma_inside_iff {offset stride rows size : ℕ} :
    (0 ≤ (offset : ℤ) ∧ (offset : ℤ) + (stride : ℤ) * rows ≤ size) ↔
      offset + stride * rows ≤ size := by
  rw [and_iff_right (Int.natCast_nonneg offset)]
  exact_mod_cast Iff.rfl

/-- **What the list of an import keeps**: everything if the geometry fits, and not
otherwise. -/
theorem geometryKept_importAttrs_iff (has_modifiers : Bool) (dmabuf_fd : EGLint)
    (hs : Handshake) :
    GeometryKept hs (importAttrs has_modifiers dmabuf_fd hs.frameMeta) ↔ Fits hs := by
  have hwidth := toInt_toInt32_eq_toNat_iff hs.width
  have hheight := toInt_toInt32_eq_toNat_iff hs.height
  have hpitch := toInt_toInt32_eq_toNat_iff hs.stride
  have huv : (hs.stride * hs.height).toInt32.toInt = (hs.stride.toNat * hs.height.toNat : ℕ) ↔
      hs.stride.toNat * hs.height.toNat < 2 ^ 31 := toInt_toInt32_eq_iff (UInt32.toNat_mul ..)
  constructor
  · intro h
    have hstride := ((forall_describedPlanes ..).mp h.pitches).1
    obtain ⟨hluma, hchroma⟩ := (forall_describedPlanes ..).mp h.inside
    refine ⟨hwidth.mp h.window.1, hheight.mp h.window.2, hpitch.mp hstride, ?_, ?_⟩
    · rw [hstride] at hluma
      exact luma_inside_iff.mp hluma
    · intro hsemi
      obtain ⟨offset, hoffset, hvalue⟩ := h.uv_offset hsemi
      rw [eglAttrib_uv_offset hsemi, Option.some.injEq] at hoffset
      rw [← hoffset] at hvalue
      have hin := hchroma hsemi
      rw [hvalue, hstride] at hin
      exact ⟨huv.mp hvalue, chroma_inside_iff.mp hin⟩
  · intro h
    have hstride := hpitch.mpr h.stride
    refine ⟨⟨_, rfl, hwidth.mpr h.width⟩, ⟨_, rfl, hheight.mpr h.height⟩, ?_, ?_, ?_,
      ⟨hwidth.mpr h.width, hheight.mpr h.height⟩, ⟨hwidth.mpr h.width, hheight.mpr h.height⟩⟩
    · rw [forall_describedPlanes]
      exact ⟨hstride, fun _ => hstride⟩
    · intro hsemi
      exact ⟨_, eglAttrib_uv_offset hsemi, huv.mpr (h.plane1 hsemi).1⟩
    · rw [forall_describedPlanes]
      refine ⟨?_, ?_⟩
      · rw [hstride]
        exact luma_inside_iff.mpr h.plane0
      · intro hsemi
        obtain ⟨hlt, hin⟩ := h.plane1 hsemi
        rw [huv.mpr hlt, hstride]
        exact chroma_inside_iff.mpr hin

/-- The product does not wrap exactly when it fits a word. -/
theorem noWrap_iff (hs : Handshake) :
    NoWrap hs ↔
      (isSemiPlanar hs.format = true → hs.stride.toNat * hs.height.toNat < 2 ^ 32) := by
  rw [NoWrap, UInt32.toNat_mul]
  refine imp_congr_right fun _ => ?_
  constructor
  · intro h
    rw [← h]
    exact Nat.mod_lt _ (by decide)
  · intro h
    exact Nat.mod_eq_of_lt h

/-- Where the product does not wrap, both languages hand over the list of `importAttrs`. -/
theorem Lang.importDmabuf_of_noWrap (L : Lang) (overflow_checks has_modifiers : Bool)
    (dmabuf_fd : EGLint) {hs : Handshake} (h : NoWrap hs) :
    L.importDmabuf overflow_checks has_modifiers dmabuf_fd hs.frameMeta =
      some (importAttrs has_modifiers dmabuf_fd hs.frameMeta) := by
  have hover : hs.frameMeta.uvOverflows = false := by
    by_contra hover
    rw [Bool.not_eq_false, FrameMeta.uvOverflows, Bool.and_eq_true, decide_eq_true_eq] at hover
    exact absurd ((noWrap_iff hs).mp h hover.1) (Nat.not_lt.mpr hover.2)
  exact L.importDmabuf_eq overflow_checks has_modifiers dmabuf_fd hover

/-- **A session is safe exactly when** the window system refuses the size, or the product
of stride and height, where it is computed, fits a word and EGL refuses the list or the
geometry fits. -/
theorem geometrySafe_iff (L : Lang) (overflow_checks has_modifiers : Bool) (dmabuf_fd : EGLint)
    (hs : Handshake) (ans : GeometryAnswers) :
    GeometrySafe L overflow_checks has_modifiers dmabuf_fd hs ans ↔
      ans.window = false ∨
        (isSemiPlanar hs.format = true → hs.stride.toNat * hs.height.toNat < 2 ^ 32) ∧
          (ans.image = false ∨ Fits hs) := by
  rw [GeometrySafe, ← noWrap_iff]
  refine or_congr_right ?_
  constructor
  · rintro ⟨attrs, hattrs, hwrap, hkept⟩
    rw [L.importDmabuf_of_noWrap overflow_checks has_modifiers dmabuf_fd hwrap,
      Option.some.injEq] at hattrs
    rw [← hattrs, geometryKept_importAttrs_iff] at hkept
    exact ⟨hwrap, hkept⟩
  · rintro ⟨hwrap, hfits⟩
    refine ⟨_, L.importDmabuf_of_noWrap overflow_checks has_modifiers dmabuf_fd hwrap, hwrap, ?_⟩
    rwa [geometryKept_importAttrs_iff]

/-- A handshake of 640x480 YUYV that announces an empty buffer. -/
def emptyBuffer : Handshake :=
  { buf_count := 1, width := 640, height := 480, format := DRM_FORMAT_YUYV, stride := 1280,
    size := 0 }

/-- A handshake of NV12 whose luma plane has 2^32 bytes. -/
def hugePlane : Handshake :=
  { buf_count := 1, width := 640, height := 65536, format := DRM_FORMAT_NV12, stride := 65536,
    size := 98304 }

/-- **The subscriber does not check the geometry**: it goes on with planes outside the
buffer, and with an offset that has wrapped. -/
theorem not_geometrySafe :
    ¬ GeometrySafe .rust true false 5 emptyBuffer ⟨true, true⟩ ∧
      ¬ GeometrySafe .cpp false false 5 hugePlane ⟨true, true⟩ := by
  constructor
  · rw [geometrySafe_iff]
    rintro (hwindow | ⟨-, himage | hfits⟩)
    · cases hwindow
    · cases himage
    · exact absurd hfits.plane0 (by decide)
  · rw [geometrySafe_iff]
    rintro (hwindow | ⟨hwrap, -⟩)
    · cases hwindow
    · exact absurd (hwrap (by decide)) (by decide)

end DmabufPipeline
