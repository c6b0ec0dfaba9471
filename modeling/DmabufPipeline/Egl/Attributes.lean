import DmabufPipeline.Lib.PixelLayout
import DmabufPipeline.Wire.Message

/-!
# Formats and EGL attributes

`v4l2_to_drm_fourcc`, the attribute list of `import_dmabuf`, and the choice of the texture
target in `QuadRenderer::init`, of both languages. The codes and tokens are those of the
system headers, from which the build extracts them.

`eglAttrib` is how EGL reads an attribute list: names and values in turn up to EGL_NONE.

## Main definitions

* `v4l2_to_drm_fourcc` — the translation table.
* `importAttrs`, `Cpp.importAttrs` — the attribute list of an import, in each language.
* `QuadRenderer.texTarget` — which texture target a format is sampled through.
* `EglImage.ofAttrs` — the image that an attribute list describes.
-/

namespace DmabufPipeline

open PixelLayout

/-- The FOURCC macro of the headers, `v4l2_fourcc` and `fourcc_code`. -/
def fourcc (a b c d : Char) : UInt32 :=
  a.val ||| (b.val <<< 8) ||| (c.val <<< 16) ||| (d.val <<< 24)

/-! ## Codes -/

def V4L2_PIX_FMT_YUYV : UInt32 := fourcc 'Y' 'U' 'Y' 'V'
def V4L2_PIX_FMT_UYVY : UInt32 := fourcc 'U' 'Y' 'V' 'Y'
def V4L2_PIX_FMT_NV12 : UInt32 := fourcc 'N' 'V' '1' '2'
def V4L2_PIX_FMT_NV21 : UInt32 := fourcc 'N' 'V' '2' '1'
def V4L2_PIX_FMT_RGB24 : UInt32 := fourcc 'R' 'G' 'B' '3'
def V4L2_PIX_FMT_BGR24 : UInt32 := fourcc 'B' 'G' 'R' '3'
def V4L2_PIX_FMT_ABGR32 : UInt32 := fourcc 'A' 'R' '2' '4'
def V4L2_PIX_FMT_XBGR32 : UInt32 := fourcc 'X' 'R' '2' '4'

def DRM_FORMAT_YUYV : UInt32 := fourcc 'Y' 'U' 'Y' 'V'
def DRM_FORMAT_UYVY : UInt32 := fourcc 'U' 'Y' 'V' 'Y'
def DRM_FORMAT_NV12 : UInt32 := fourcc 'N' 'V' '1' '2'
def DRM_FORMAT_NV21 : UInt32 := fourcc 'N' 'V' '2' '1'
def DRM_FORMAT_RGB888 : UInt32 := fourcc 'R' 'G' '2' '4'
def DRM_FORMAT_BGR888 : UInt32 := fourcc 'B' 'G' '2' '4'
def DRM_FORMAT_ARGB8888 : UInt32 := fourcc 'A' 'R' '2' '4'
def DRM_FORMAT_XRGB8888 : UInt32 := fourcc 'X' 'R' '2' '4'

/-- `v4l2_to_drm_fourcc` of `common/src/v4l2.rs`. -/
def v4l2_to_drm_fourcc (v4l2 : UInt32) : Option UInt32 :=
  if v4l2 = V4L2_PIX_FMT_YUYV then some DRM_FORMAT_YUYV
  else if v4l2 = V4L2_PIX_FMT_UYVY then some DRM_FORMAT_UYVY
  else if v4l2 = V4L2_PIX_FMT_NV12 then some DRM_FORMAT_NV12
  else if v4l2 = V4L2_PIX_FMT_NV21 then some DRM_FORMAT_NV21
  else if v4l2 = V4L2_PIX_FMT_RGB24 then some DRM_FORMAT_RGB888
  else if v4l2 = V4L2_PIX_FMT_BGR24 then some DRM_FORMAT_BGR888
  else if v4l2 = V4L2_PIX_FMT_ABGR32 then some DRM_FORMAT_ARGB8888
  else if v4l2 = V4L2_PIX_FMT_XBGR32 then some DRM_FORMAT_XRGB8888
  else none

/-- `v4l2_to_drm_fourcc` of `v4l2_utils.cpp`. -/
def Cpp.v4l2_to_drm_fourcc (v4l2_fourcc : UInt32) : UInt32 :=
  if v4l2_fourcc = V4L2_PIX_FMT_YUYV then DRM_FORMAT_YUYV
  else if v4l2_fourcc = V4L2_PIX_FMT_UYVY then DRM_FORMAT_UYVY
  else if v4l2_fourcc = V4L2_PIX_FMT_NV12 then DRM_FORMAT_NV12
  else if v4l2_fourcc = V4L2_PIX_FMT_NV21 then DRM_FORMAT_NV21
  else if v4l2_fourcc = V4L2_PIX_FMT_RGB24 then DRM_FORMAT_RGB888
  else if v4l2_fourcc = V4L2_PIX_FMT_BGR24 then DRM_FORMAT_BGR888
  else if v4l2_fourcc = V4L2_PIX_FMT_ABGR32 then DRM_FORMAT_ARGB8888
  else if v4l2_fourcc = V4L2_PIX_FMT_XBGR32 then DRM_FORMAT_XRGB8888
  else 0

/-! ## The attribute list -/

abbrev EGLint := Int32

def EGL_NONE : EGLint := 0x3038
def EGL_HEIGHT : EGLint := 0x3056
def EGL_WIDTH : EGLint := 0x3057
def EGL_LINUX_DRM_FOURCC_EXT : EGLint := 0x3271
def EGL_DMA_BUF_PLANE0_FD_EXT : EGLint := 0x3272
def EGL_DMA_BUF_PLANE0_OFFSET_EXT : EGLint := 0x3273
def EGL_DMA_BUF_PLANE0_PITCH_EXT : EGLint := 0x3274
def EGL_DMA_BUF_PLANE1_FD_EXT : EGLint := 0x3275
def EGL_DMA_BUF_PLANE1_OFFSET_EXT : EGLint := 0x3276
def EGL_DMA_BUF_PLANE1_PITCH_EXT : EGLint := 0x3277
def EGL_DMA_BUF_PLANE0_MODIFIER_LO_EXT : EGLint := 0x3443
def EGL_DMA_BUF_PLANE0_MODIFIER_HI_EXT : EGLint := 0x3444
def EGL_DMA_BUF_PLANE1_MODIFIER_LO_EXT : EGLint := 0x3445
def EGL_DMA_BUF_PLANE1_MODIFIER_HI_EXT : EGLint := 0x3446

/-- The formats for which `import_dmabuf` describes a second plane. -/
def isSemiPlanar (format : UInt32) : Bool := format = DRM_FORMAT_NV12 || format = DRM_FORMAT_NV21

/-- The attribute list of `import_dmabuf` in Rust. The offset of the chroma plane is a `u32`
product. -/
def importAttrs (has_modifiers : Bool) (dmabuf_fd : EGLint) (frame_meta : FrameMeta) :
    List EGLint :=
  [EGL_WIDTH, frame_meta.width.toInt32,
    EGL_HEIGHT, frame_meta.height.toInt32,
    EGL_LINUX_DRM_FOURCC_EXT, frame_meta.format.toInt32,
    EGL_DMA_BUF_PLANE0_FD_EXT, dmabuf_fd,
    EGL_DMA_BUF_PLANE0_OFFSET_EXT, 0,
    EGL_DMA_BUF_PLANE0_PITCH_EXT, frame_meta.stride.toInt32] ++
  (if has_modifiers then
    [EGL_DMA_BUF_PLANE0_MODIFIER_LO_EXT, 0, EGL_DMA_BUF_PLANE0_MODIFIER_HI_EXT, 0] else []) ++
  (if isSemiPlanar frame_meta.format then
    [EGL_DMA_BUF_PLANE1_FD_EXT, dmabuf_fd,
      EGL_DMA_BUF_PLANE1_OFFSET_EXT, (frame_meta.stride * frame_meta.height).toInt32,
      EGL_DMA_BUF_PLANE1_PITCH_EXT, frame_meta.stride.toInt32] ++
    (if has_modifiers then
      [EGL_DMA_BUF_PLANE1_MODIFIER_LO_EXT, 0, EGL_DMA_BUF_PLANE1_MODIFIER_HI_EXT, 0] else [])
  else []) ++
  [EGL_NONE]

/-- The vector `attrs` of the C++ `import_dmabuf`, insertion by insertion. -/
def Cpp.importAttrs (has_modifiers_ : Bool) (dmabuf_fd : EGLint) (frame_meta : FrameMeta) :
    List EGLint :=
  let attrs := [
    EGL_WIDTH, frame_meta.width.toInt32,
    EGL_HEIGHT, frame_meta.height.toInt32,
    EGL_LINUX_DRM_FOURCC_EXT, frame_meta.format.toInt32,
    EGL_DMA_BUF_PLANE0_FD_EXT, dmabuf_fd,
    EGL_DMA_BUF_PLANE0_OFFSET_EXT, 0,
    EGL_DMA_BUF_PLANE0_PITCH_EXT, frame_meta.stride.toInt32]
  let attrs :=
    if has_modifiers_ then
      attrs ++ [EGL_DMA_BUF_PLANE0_MODIFIER_LO_EXT, 0, EGL_DMA_BUF_PLANE0_MODIFIER_HI_EXT, 0]
    else attrs
  let attrs :=
    if frame_meta.format = DRM_FORMAT_NV12 || frame_meta.format = DRM_FORMAT_NV21 then
      let uv_offset := (frame_meta.stride * frame_meta.height).toInt32
      let attrs := attrs ++ [
        EGL_DMA_BUF_PLANE1_FD_EXT, dmabuf_fd,
        EGL_DMA_BUF_PLANE1_OFFSET_EXT, uv_offset,
        EGL_DMA_BUF_PLANE1_PITCH_EXT, frame_meta.stride.toInt32]
      if has_modifiers_ then
        attrs ++ [EGL_DMA_BUF_PLANE1_MODIFIER_LO_EXT, 0, EGL_DMA_BUF_PLANE1_MODIFIER_HI_EXT, 0]
      else attrs
    else attrs
  attrs ++ [EGL_NONE]

/-- Both languages build the same list. -/
theorem Cpp.importAttrs_eq (has_modifiers_ : Bool) (dmabuf_fd : EGLint)
    (frame_meta : FrameMeta) :
    Cpp.importAttrs has_modifiers_ dmabuf_fd frame_meta =
      DmabufPipeline.importAttrs has_modifiers_ dmabuf_fd frame_meta := by
  have hsemi : (frame_meta.format = DRM_FORMAT_NV12 || frame_meta.format = DRM_FORMAT_NV21 : Bool)
      = isSemiPlanar frame_meta.format := rfl
  cases hs : isSemiPlanar frame_meta.format <;> cases has_modifiers_ <;>
    simp only [Cpp.importAttrs, DmabufPipeline.importAttrs, hsemi, hs] <;> rfl

/-- The product `stride * height` is computed and exceeds a `u32`. -/
def FrameMeta.uvOverflows (frame_meta : FrameMeta) : Bool :=
  isSemiPlanar frame_meta.format && 2 ^ 32 ≤ frame_meta.stride.toNat * frame_meta.height.toNat

/-- The list that `EglContext::import_dmabuf` hands to EGL; `none` is the panic of a Rust
build with overflow checks. -/
def importDmabuf (overflow_checks has_modifiers : Bool) (dmabuf_fd : EGLint)
    (frame_meta : FrameMeta) : Option (List EGLint) :=
  if overflow_checks && frame_meta.uvOverflows then none
  else some (importAttrs has_modifiers dmabuf_fd frame_meta)

/-- The list that the C++ `EglContext::import_dmabuf` hands to EGL. -/
def Cpp.importDmabuf (has_modifiers : Bool) (dmabuf_fd : EGLint) (frame_meta : FrameMeta) :
    List EGLint := Cpp.importAttrs has_modifiers dmabuf_fd frame_meta

/-- The list that the subscriber's `import_dmabuf` hands to EGL. -/
def Lang.importDmabuf (overflow_checks has_modifiers : Bool) (dmabuf_fd : EGLint)
    (frame_meta : FrameMeta) : Lang → Option (List EGLint)
  | .rust => DmabufPipeline.importDmabuf overflow_checks has_modifiers dmabuf_fd frame_meta
  | .cpp => some (Cpp.importDmabuf has_modifiers dmabuf_fd frame_meta)

/-- Where the product does not overflow, no build panics, and both languages hand over the
same list. -/
theorem Lang.importDmabuf_eq (L : Lang) (overflow_checks has_modifiers : Bool)
    (dmabuf_fd : EGLint) {frame_meta : FrameMeta} (h : frame_meta.uvOverflows = false) :
    L.importDmabuf overflow_checks has_modifiers dmabuf_fd frame_meta =
      some (importAttrs has_modifiers dmabuf_fd frame_meta) := by
  cases L with
  | rust => simp [importDmabuf, DmabufPipeline.importDmabuf, h]
  | cpp => exact congrArg some (Cpp.importAttrs_eq has_modifiers dmabuf_fd frame_meta)

/-! ## The texture target -/

/-- The two texture targets. -/
inductive TexTarget
  | GL_TEXTURE_2D
  | GL_TEXTURE_EXTERNAL_OES
  deriving DecidableEq, Repr

/-- The choice in `QuadRenderer::init`, the same in both languages. -/
def QuadRenderer.texTarget (drm_fourcc : UInt32) : TexTarget :=
  if drm_fourcc = DRM_FORMAT_YUYV || drm_fourcc = DRM_FORMAT_NV12 ||
    drm_fourcc = DRM_FORMAT_NV21 then .GL_TEXTURE_EXTERNAL_OES else .GL_TEXTURE_2D

/-! ## What EGL makes of it -/

/-- The value of an attribute: names and values in turn, up to EGL_NONE. -/
def eglAttrib (name : EGLint) : List EGLint → Option EGLint
  | k :: v :: attrs =>
      if k = EGL_NONE then none else if k = name then some v else eglAttrib name attrs
  | _ => none

/-- An image over a DMA-BUF. -/
structure EglImage where
  width : EGLint
  height : EGLint
  fourcc : EGLint
  dmabuf_fd : EGLint
  planes : Planes
  deriving DecidableEq, Repr

/-- An offset or a pitch; EGL refuses a negative one, which reads as 0 here. -/
def planeOf (offset pitch : EGLint) : Plane := ⟨offset.toInt.toNat, pitch.toInt.toNat⟩

/-- The image that an attribute list describes; the second plane is optional. -/
def EglImage.ofAttrs (attrs : List EGLint) : Option EglImage := do
  let width ← eglAttrib EGL_WIDTH attrs
  let height ← eglAttrib EGL_HEIGHT attrs
  let fourcc ← eglAttrib EGL_LINUX_DRM_FOURCC_EXT attrs
  let fd ← eglAttrib EGL_DMA_BUF_PLANE0_FD_EXT attrs
  let offset ← eglAttrib EGL_DMA_BUF_PLANE0_OFFSET_EXT attrs
  let pitch ← eglAttrib EGL_DMA_BUF_PLANE0_PITCH_EXT attrs
  let offset' := (eglAttrib EGL_DMA_BUF_PLANE1_OFFSET_EXT attrs).getD 0
  let pitch' := (eglAttrib EGL_DMA_BUF_PLANE1_PITCH_EXT attrs).getD 0
  some ⟨width, height, fourcc, fd, ⟨planeOf offset pitch, planeOf offset' pitch'⟩⟩

/-- The second plane that `import_dmabuf` describes. -/
def FrameMeta.chromaPlane (frame_meta : FrameMeta) : Plane :=
  if isSemiPlanar frame_meta.format then
    planeOf (frame_meta.stride * frame_meta.height).toInt32 frame_meta.stride.toInt32
  else planeOf 0 0

/-- **EGL reads back what `import_dmabuf` wrote**, with and without modifiers. -/
theorem EglImage.ofAttrs_importAttrs (has_modifiers : Bool) (dmabuf_fd : EGLint)
    (frame_meta : FrameMeta) :
    EglImage.ofAttrs (importAttrs has_modifiers dmabuf_fd frame_meta) =
      some ⟨frame_meta.width.toInt32, frame_meta.height.toInt32, frame_meta.format.toInt32,
        dmabuf_fd, ⟨planeOf 0 frame_meta.stride.toInt32, frame_meta.chromaPlane⟩⟩ := by
  cases hs : isSemiPlanar frame_meta.format <;> cases has_modifiers <;>
    simp only [importAttrs, FrameMeta.chromaPlane, hs] <;> rfl

end DmabufPipeline
