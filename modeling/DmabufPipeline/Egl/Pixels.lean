import DmabufPipeline.Capture.V4l2
import DmabufPipeline.Egl.Attributes

/-!
# Does the hand-over keep the meaning of a pixel?

Three places must agree for a pixel to arrive: the translation of the format code, the
plane attributes of the import, and the choice of the texture target. The geometry does:
the planes are those of the V4L2 format for every format. The codes do, except that the
two packed RGB formats are translated to the code with red and blue exchanged. The
texture target does, except that UYVY is left out of the YUV formats and is sampled
unconverted.

## Main definitions

* `v4l2Layout`, `drmLayout` — the kernel's definitions of the formats.
* `capturedPixel`, `shownPixel` — a pixel as captured, and as the subscriber reads it.
* `shownPixel_eq_iff` — when they are the same.
-/

namespace DmabufPipeline

open PixelLayout

/-- The V4L2 formats as bytes in memory. -/
def v4l2Layout (v4l2 : UInt32) : Option Layout :=
  if v4l2 = V4L2_PIX_FMT_YUYV then some (.packedYuv 0 1 3)
  else if v4l2 = V4L2_PIX_FMT_UYVY then some (.packedYuv 1 0 2)
  else if v4l2 = V4L2_PIX_FMT_NV12 then some (.semiPlanar 0 1)
  else if v4l2 = V4L2_PIX_FMT_NV21 then some (.semiPlanar 1 0)
  else if v4l2 = V4L2_PIX_FMT_RGB24 then some (.packed 3 0 1 2 none)
  else if v4l2 = V4L2_PIX_FMT_BGR24 then some (.packed 3 2 1 0 none)
  else if v4l2 = V4L2_PIX_FMT_ABGR32 then some (.packed 4 2 1 0 (some 3))
  else if v4l2 = V4L2_PIX_FMT_XBGR32 then some (.packed 4 2 1 0 none)
  else none

/-- The DRM formats as bytes in memory; their names count from the high byte of a
little-endian word. -/
def drmLayout (drm : UInt32) : Option Layout :=
  if drm = DRM_FORMAT_YUYV then some (.packedYuv 0 1 3)
  else if drm = DRM_FORMAT_UYVY then some (.packedYuv 1 0 2)
  else if drm = DRM_FORMAT_NV12 then some (.semiPlanar 0 1)
  else if drm = DRM_FORMAT_NV21 then some (.semiPlanar 1 0)
  else if drm = DRM_FORMAT_RGB888 then some (.packed 3 2 1 0 none)
  else if drm = DRM_FORMAT_BGR888 then some (.packed 3 0 1 2 none)
  else if drm = DRM_FORMAT_ARGB8888 then some (.packed 4 2 1 0 (some 3))
  else if drm = DRM_FORMAT_XRGB8888 then some (.packed 4 2 1 0 none)
  else none

/-- The capture object of one of the three publishers. -/
inductive Source
  | publisher (cap : V4l2Capture)
  | publisherDma (cap : V4l2CaptureDma)
  | cppPublisher (cap : Cpp.V4l2Capture)

namespace Source

/-- The format that the capture object holds, as S_FMT wrote it back. -/
def format : Source → PixFormat
  | .publisher cap => ⟨cap.width, cap.height, cap.stride, cap.size_image, cap.pixel_format⟩
  | .publisherDma cap => ⟨cap.width, cap.height, cap.stride, cap.size_image, cap.pixel_format⟩
  | .cppPublisher cap =>
      ⟨cap.width_, cap.height_, cap.stride_, cap.size_image_, cap.pixel_format_⟩

/-- The length of `all_fds`. -/
def bufCount : Source → ℕ
  | .publisher cap => cap.buffers.length
  | .publisherDma cap => cap.buffers.length
  | .cppPublisher cap => cap.buffers_.length

/-- The handshake that `main` builds with a DRM code. -/
def handshakeWith (src : Source) (drm_fourcc : UInt32) : Handshake where
  buf_count := UInt32.ofNat src.bufCount
  width := src.format.width
  height := src.format.height
  format := drm_fourcc
  stride := src.format.bytesperline
  size := src.format.sizeimage

/-- The handshake that `main` sends; `none` where it returns for want of a DRM code. -/
def handshake : Source → Option Handshake
  | .publisher cap =>
      (v4l2_to_drm_fourcc cap.pixel_format).map (Source.publisher cap).handshakeWith
  | .publisherDma cap =>
      (v4l2_to_drm_fourcc cap.pixel_format).map (Source.publisherDma cap).handshakeWith
  | .cppPublisher cap =>
      let drm_fourcc := Cpp.v4l2_to_drm_fourcc cap.pixel_format_
      if drm_fourcc = 0 then none else some ((Source.cppPublisher cap).handshakeWith drm_fourcc)

end Source

/-- The planes of a captured buffer: all rows of the first plane, then the second, at the
same pitch. -/
def capturedPlanes (stride height : UInt32) : Planes where
  first := ⟨0, stride.toNat⟩
  second := ⟨stride.toNat * height.toNat, stride.toNat⟩

/-- The pixel that the V4L2 format places at column `x` and row `y`. -/
def capturedPixel (pix : PixFormat) (mem : ℕ → UInt8) (x y : ℕ) : Option Colour :=
  (v4l2Layout pix.pixelformat).map
    (Layout.read mem (capturedPlanes pix.bytesperline pix.height) x y)

/-- Sampling a pixel: only the external target converts YUV; the other takes the three
components for red, green and blue. -/
def TexTarget.sample : TexTarget → Colour → Colour
  | .GL_TEXTURE_2D, .yuv y u v => .rgb y u v none
  | _, c => c

/-- The pixel that the subscriber reads at column `x` and row `y`. -/
def shownPixel (L : Lang) (overflow_checks has_modifiers : Bool) (dmabuf_fd : EGLint)
    (frame_meta : FrameMeta) (mem : ℕ → UInt8) (x y : ℕ) : Option Colour := do
  let attrs ← L.importDmabuf overflow_checks has_modifiers dmabuf_fd frame_meta
  let image ← EglImage.ofAttrs attrs
  let layout ← drmLayout image.fourcc.toUInt32
  some ((QuadRenderer.texTarget frame_meta.format).sample (layout.read mem image.planes x y))

/-! ## Codes -/

/-- The formats that the translation table knows. -/
def translated : List UInt32 :=
  [V4L2_PIX_FMT_YUYV, V4L2_PIX_FMT_UYVY, V4L2_PIX_FMT_NV12, V4L2_PIX_FMT_NV21,
    V4L2_PIX_FMT_RGB24, V4L2_PIX_FMT_BGR24, V4L2_PIX_FMT_ABGR32, V4L2_PIX_FMT_XBGR32]

theorem mem_translated {f drm : UInt32} (h : v4l2_to_drm_fourcc f = some drm) :
    f ∈ translated := by
  by_contra hf
  simp only [translated, List.mem_cons, List.not_mem_nil, or_false, not_or] at hf
  simp [v4l2_to_drm_fourcc, hf] at h

/-- The two translation tables agree. -/
theorem Cpp.v4l2_to_drm_fourcc_eq (f : UInt32) :
    Cpp.v4l2_to_drm_fourcc f = (DmabufPipeline.v4l2_to_drm_fourcc f).getD 0 := by
  simp only [Cpp.v4l2_to_drm_fourcc, DmabufPipeline.v4l2_to_drm_fourcc,
    apply_ite (fun o : Option UInt32 => o.getD 0), Option.getD_some, Option.getD_none]

/-- No DRM code of the table is 0, which means failure in C++. -/
theorem drm_ne_zero {f drm : UInt32} (h : v4l2_to_drm_fourcc f = some drm) : drm ≠ 0 := by
  have hall : translated.all (fun f => v4l2_to_drm_fourcc f != some 0) = true := by decide
  have hne := List.all_eq_true.mp hall f (mem_translated h)
  intro heq
  subst heq
  simp [h] at hne

/-! ## Geometry -/

/-- A `u32` below `2 ^ 31` keeps its value as an `EGLint`. -/
theorem toNat_toInt_toInt32 {n : UInt32} (h : n.toNat < 2 ^ 31) :
    n.toInt32.toInt.toNat = n.toNat := by
  have hint : n.toInt32.toInt = n.toNat := by
    rw [← Int32.toInt_toBitVec, UInt32.toBitVec_toInt32]
    exact BitVec.toInt_eq_toNat_of_lt (by rw [UInt32.toNat_toBitVec]; omega)
  rw [hint, Int.toNat_natCast]

/-- **The imported planes are those of the captured buffer.** -/
theorem planes_eq {frame_meta : FrameMeta}
    (hgeo : frame_meta.stride.toNat * frame_meta.height.toNat < 2 ^ 31)
    (hheight : 0 < frame_meta.height.toNat) :
    planeOf 0 frame_meta.stride.toInt32 =
        (capturedPlanes frame_meta.stride frame_meta.height).first ∧
      (isSemiPlanar frame_meta.format = true → frame_meta.chromaPlane =
        (capturedPlanes frame_meta.stride frame_meta.height).second) := by
  have hstride : frame_meta.stride.toNat < 2 ^ 31 :=
    Nat.lt_of_le_of_lt (Nat.le_mul_of_pos_right _ hheight) hgeo
  have hpitch := toNat_toInt_toInt32 hstride
  refine ⟨?_, fun hsemi => ?_⟩
  · rw [planeOf, hpitch]
    rfl
  · have hmul : (frame_meta.stride * frame_meta.height).toNat =
        frame_meta.stride.toNat * frame_meta.height.toNat := by
      rw [UInt32.toNat_mul]
      omega
    have hoffset := toNat_toInt_toInt32 (n := frame_meta.stride * frame_meta.height)
      (by rw [hmul]; exact hgeo)
    rw [FrameMeta.chromaPlane, if_pos hsemi, planeOf, hpitch, hoffset, hmul]
    rfl

/-- The layouts with two planes are those for which two planes are described. -/
theorem isSemiPlanar_of_twoPlanes {drm : UInt32} {l : Layout} (h : drmLayout drm = some l)
    (htwo : l.twoPlanes) : isSemiPlanar drm = true := by
  by_contra hsemi
  simp only [isSemiPlanar, Bool.or_eq_true, decide_eq_true_eq, not_or] at hsemi
  simp only [drmLayout, hsemi, if_false] at h
  grind [Layout.twoPlanes]

/-- What the subscriber reads: the pixel of the DRM format, sampled. -/
theorem shownPixel_eq {frame_meta : FrameMeta} {l : Layout}
    (hl : drmLayout frame_meta.format = some l)
    (hgeo : frame_meta.stride.toNat * frame_meta.height.toNat < 2 ^ 31)
    (hheight : 0 < frame_meta.height.toNat) (L : Lang) (overflow_checks has_modifiers : Bool)
    (dmabuf_fd : EGLint) (mem : ℕ → UInt8) (x y : ℕ) :
    shownPixel L overflow_checks has_modifiers dmabuf_fd frame_meta mem x y =
      some ((QuadRenderer.texTarget frame_meta.format).sample
        (l.read mem (capturedPlanes frame_meta.stride frame_meta.height) x y)) := by
  obtain ⟨hfirst, hsecond⟩ := planes_eq hgeo hheight
  have hread : l.read mem ⟨planeOf 0 frame_meta.stride.toInt32, frame_meta.chromaPlane⟩ x y =
      l.read mem (capturedPlanes frame_meta.stride frame_meta.height) x y :=
    Layout.read_congr _ hfirst (fun htwo => hsecond (isSemiPlanar_of_twoPlanes hl htwo)) x y
  have hover : frame_meta.uvOverflows = false := by
    simp only [FrameMeta.uvOverflows, Bool.and_eq_false_iff, decide_eq_false_iff_not]
    exact .inr (by omega)
  simp [shownPixel, L.importDmabuf_eq overflow_checks has_modifiers dmabuf_fd hover,
    EglImage.ofAttrs_importAttrs, hl, hread]

/-! ## Pixels -/

/-- The formats whose pixels arrive: five formats always, and the two packed RGB formats at
the pixels whose first and third bytes are equal. -/
def MeaningKept (pixel_format stride : UInt32) (mem : ℕ → UInt8) (x y : ℕ) : Prop :=
  pixel_format ∈ [V4L2_PIX_FMT_YUYV, V4L2_PIX_FMT_NV12, V4L2_PIX_FMT_NV21,
      V4L2_PIX_FMT_ABGR32, V4L2_PIX_FMT_XBGR32] ∨
    pixel_format ∈ [V4L2_PIX_FMT_RGB24, V4L2_PIX_FMT_BGR24] ∧
      mem (y * stride.toNat + 3 * x) = mem (y * stride.toNat + 3 * x + 2)

/-- The codes and layouts of a row of the table. -/
theorem codes_eq {f drm : UInt32} {lv ld : Layout} (hdrm : v4l2_to_drm_fourcc f = some drm)
    (hv : v4l2Layout f = some lv) (hd : drmLayout drm = some ld) (drm' : UInt32)
    (lv' ld' : Layout)
    (hrow : v4l2_to_drm_fourcc f = some drm' ∧ v4l2Layout f = some lv' ∧
      drmLayout drm' = some ld') :
    drm = drm' ∧ lv = lv' ∧ ld = ld' := by
  obtain ⟨h₁, h₂, h₃⟩ := hrow
  obtain rfl : drm = drm' := Option.some.inj (hdrm.symm.trans h₁)
  exact ⟨rfl, Option.some.inj (hv.symm.trans h₂), Option.some.inj (hd.symm.trans h₃)⟩

/-- A packed RGB format of three bytes whose translation exchanges red and blue. -/
theorem meaning_kept_iff_of_swapped {f stride height : UInt32} {r b : ℕ}
    (hf : f ∈ [V4L2_PIX_FMT_RGB24, V4L2_PIX_FMT_BGR24]) (hrb : r = 0 ∧ b = 2 ∨ r = 2 ∧ b = 0)
    (mem : ℕ → UInt8) (x y : ℕ) :
    (Layout.packed 3 b 1 r none).read mem (capturedPlanes stride height) x y =
        (Layout.packed 3 r 1 b none).read mem (capturedPlanes stride height) x y ↔
      MeaningKept f stride mem x y := by
  have hnot : f ∉ [V4L2_PIX_FMT_YUYV, V4L2_PIX_FMT_NV12, V4L2_PIX_FMT_NV21,
      V4L2_PIX_FMT_ABGR32, V4L2_PIX_FMT_XBGR32] := by
    simp only [List.mem_cons, List.not_mem_nil, or_false] at hf
    rcases hf with rfl | rfl <;> decide
  have hbase : (capturedPlanes stride height).first.offset +
      y * (capturedPlanes stride height).first.pitch + 3 * x = y * stride.toNat + 3 * x := by
    simp [capturedPlanes]
  rw [read_packed_eq_iff, hbase, MeaningKept, or_iff_right hnot, and_iff_right hf]
  rcases hrb with ⟨rfl, rfl⟩ | ⟨rfl, rfl⟩
  · rfl
  · exact eq_comm

/-- **The meaning of a pixel is kept exactly so far as the format codes allow**, for every
format of the table, every content and every pixel. -/
theorem sample_eq_iff {f drm stride height : UInt32} {lv ld : Layout}
    (hdrm : v4l2_to_drm_fourcc f = some drm) (hv : v4l2Layout f = some lv)
    (hd : drmLayout drm = some ld) (mem : ℕ → UInt8) (x y : ℕ) :
    (QuadRenderer.texTarget drm).sample (ld.read mem (capturedPlanes stride height) x y) =
        lv.read mem (capturedPlanes stride height) x y ↔ MeaningKept f stride mem x y := by
  have hf := mem_translated hdrm
  simp only [translated, List.mem_cons, List.not_mem_nil, or_false] at hf
  rcases hf with rfl | rfl | rfl | rfl | rfl | rfl | rfl | rfl
  · obtain ⟨rfl, rfl, rfl⟩ := codes_eq hdrm hv hd DRM_FORMAT_YUYV (.packedYuv 0 1 3)
      (.packedYuv 0 1 3) (by decide)
    exact iff_of_true rfl (.inl (by decide))
  · -- UYVY keeps its layout but is sampled through the other target.
    obtain ⟨rfl, rfl, rfl⟩ := codes_eq hdrm hv hd DRM_FORMAT_UYVY (.packedYuv 1 0 2)
      (.packedYuv 1 0 2) (by decide)
    refine iff_of_false (fun h => ?_) ?_
    · cases h
    · rintro (h | ⟨h, -⟩)
      · exact absurd h (by decide)
      · exact absurd h (by decide)
  · obtain ⟨rfl, rfl, rfl⟩ := codes_eq hdrm hv hd DRM_FORMAT_NV12 (.semiPlanar 0 1)
      (.semiPlanar 0 1) (by decide)
    exact iff_of_true rfl (.inl (by decide))
  · obtain ⟨rfl, rfl, rfl⟩ := codes_eq hdrm hv hd DRM_FORMAT_NV21 (.semiPlanar 1 0)
      (.semiPlanar 1 0) (by decide)
    exact iff_of_true rfl (.inl (by decide))
  · obtain ⟨rfl, rfl, rfl⟩ := codes_eq hdrm hv hd DRM_FORMAT_RGB888 (.packed 3 0 1 2 none)
      (.packed 3 2 1 0 none) (by decide)
    exact meaning_kept_iff_of_swapped (by decide) (.inl ⟨rfl, rfl⟩) mem x y
  · obtain ⟨rfl, rfl, rfl⟩ := codes_eq hdrm hv hd DRM_FORMAT_BGR888 (.packed 3 2 1 0 none)
      (.packed 3 0 1 2 none) (by decide)
    exact meaning_kept_iff_of_swapped (by decide) (.inr ⟨rfl, rfl⟩) mem x y
  · obtain ⟨rfl, rfl, rfl⟩ := codes_eq hdrm hv hd DRM_FORMAT_ARGB8888 (.packed 4 2 1 0 (some 3))
      (.packed 4 2 1 0 (some 3)) (by decide)
    exact iff_of_true rfl (.inl (by decide))
  · obtain ⟨rfl, rfl, rfl⟩ := codes_eq hdrm hv hd DRM_FORMAT_XRGB8888 (.packed 4 2 1 0 none)
      (.packed 4 2 1 0 none) (by decide)
    exact iff_of_true rfl (.inl (by decide))

/-- Every format of the table has its layouts on both sides. -/
theorem layouts_of_translated {f drm : UInt32} (hdrm : v4l2_to_drm_fourcc f = some drm) :
    ∃ lv ld, v4l2Layout f = some lv ∧ drmLayout drm = some ld := by
  have hall : translated.all (fun f => (v4l2Layout f).isSome &&
      ((v4l2_to_drm_fourcc f).bind drmLayout).isSome) = true := by
    decide
  obtain ⟨hv, hd⟩ := Bool.and_eq_true_iff.mp (List.all_eq_true.mp hall f (mem_translated hdrm))
  rw [hdrm, Option.bind_some] at hd
  obtain ⟨lv, hlv⟩ := Option.isSome_iff_exists.mp hv
  obtain ⟨ld, hld⟩ := Option.isSome_iff_exists.mp hd
  exact ⟨lv, ld, hlv, hld⟩

/-- The handshake of every publisher carries the translated code and the geometry. -/
theorem Source.handshake_eq_some {src : Source} {hs : Handshake} (h : src.handshake = some hs) :
    ∃ drm, v4l2_to_drm_fourcc src.format.pixelformat = some drm ∧ hs = src.handshakeWith drm := by
  cases src with
  | publisher cap | publisherDma cap =>
      obtain ⟨drm, hdrm, rfl⟩ := Option.map_eq_some_iff.mp h
      exact ⟨drm, hdrm, rfl⟩
  | cppPublisher cap =>
      simp only [handshake, Cpp.v4l2_to_drm_fourcc_eq] at h
      cases hdrm : v4l2_to_drm_fourcc cap.pixel_format_ with
      | none => simp [hdrm] at h
      | some drm =>
          rw [hdrm, Option.getD_some, if_neg (drm_ne_zero hdrm)] at h
          exact ⟨drm, hdrm, (Option.some.inj h).symm⟩

/-- **The format hand-over, pixel by pixel.** Between any publisher and any subscriber, for
every format that is translated, every geometry, content and pixel, the subscriber reads
the components that the V4L2 format places there exactly where the meaning is kept. -/
theorem shownPixel_eq_iff (src : Source) {hs : Handshake} (hhs : src.handshake = some hs)
    (L : Lang) (overflow_checks has_modifiers : Bool) (dmabuf_fd : EGLint) (mem : ℕ → UInt8)
    (x : ℕ) {y : ℕ} (hy : y < src.format.height.toNat)
    (hgeo : src.format.bytesperline.toNat * src.format.height.toNat < 2 ^ 31) :
    shownPixel L overflow_checks has_modifiers dmabuf_fd hs.frameMeta mem x y =
        capturedPixel src.format mem x y ↔
      MeaningKept src.format.pixelformat src.format.bytesperline mem x y := by
  obtain ⟨drm, hdrm, rfl⟩ := Source.handshake_eq_some hhs
  obtain ⟨lv, ld, hv, hd⟩ := layouts_of_translated hdrm
  have hformat : drmLayout (src.handshakeWith drm).frameMeta.format = some ld := hd
  rw [shownPixel_eq hformat hgeo (Nat.zero_lt_of_lt hy), capturedPixel, hv, Option.map_some,
    Option.some.injEq]
  exact sample_eq_iff hdrm hv hd mem x y

/-- A camera that delivers 640 by 480 pixels in a given format. -/
def camera (pixel_format stride : UInt32) : Source :=
  .publisher
    { fd := 3, width := 640, height := 480, stride := stride, size_image := stride * 480,
      pixel_format := pixel_format }

/-- A YUYV frame arrives, here its second pixel. -/
theorem shownPixel_yuyv :
    ∃ hs, (camera V4L2_PIX_FMT_YUYV 1280).handshake = some hs ∧
      shownPixel .cpp false true 5 hs.frameMeta UInt8.ofNat 1 0 = some (.yuv 2 1 3) := by
  refine ⟨_, rfl, ?_⟩
  rw [(shownPixel_eq_iff (camera V4L2_PIX_FMT_YUYV 1280) rfl .cpp false true 5 UInt8.ofNat 1
    (y := 0) (by decide) (by decide)).mpr (.inl (by decide))]
  rfl

/-- **Red and blue are exchanged in RGB24, and UYVY is not converted**: the first pixel of
a buffer with the bytes 0, 1, 2, 3. -/
theorem shownPixel_ne_capturedPixel :
    (∃ hs, (camera V4L2_PIX_FMT_RGB24 1920).handshake = some hs ∧
      shownPixel .rust false true 5 hs.frameMeta UInt8.ofNat 0 0 = some (.rgb 2 1 0 none) ∧
      capturedPixel (camera V4L2_PIX_FMT_RGB24 1920).format UInt8.ofNat 0 0 =
        some (.rgb 0 1 2 none)) ∧
    ∃ hs, (camera V4L2_PIX_FMT_UYVY 1280).handshake = some hs ∧
      shownPixel .rust false true 5 hs.frameMeta UInt8.ofNat 0 0 = some (.rgb 1 0 2 none) ∧
      capturedPixel (camera V4L2_PIX_FMT_UYVY 1280).format UInt8.ofNat 0 0 =
        some (.yuv 1 0 2) :=
  ⟨⟨_, rfl, by rfl, by rfl⟩, ⟨_, rfl, by rfl, by rfl⟩⟩

end DmabufPipeline
