import DmabufPipeline.Egl.Attributes
import DmabufPipeline.Lib.AttribList

/-!
# The attribute list of an import says what the frame is

`import_dmabuf` builds a flat list by conditional appends, in each language on its own.
`FrameAttribs` is what such a list is meant to say: the size, the format, and one or two
planes, each with its modifier or without. The list of either language, read the way EGL
reads it, has exactly the fields of `FrameAttribs.ofMeta`, whatever the values are; only
the names matter to the reader, and they differ from each other and from EGL_NONE.

## Main definitions

* `PlaneAttribs`, `FrameAttribs` — a frame description, and its fields under EGL's names.
* `FrameAttribs.ofMeta` — the description that an import is meant to give.
* `importAttrs_read` — both lists are read as that description.
-/

namespace DmabufPipeline

/-! ## What a list is meant to say -/

/-- A plane of a frame; a modifier is a pair of its low and high word. -/
structure PlaneAttribs where
  fd : EGLint
  offset : UInt32
  pitch : UInt32
  modifier : Option (EGLint × EGLint)

/-- A frame description. -/
structure FrameAttribs where
  width : UInt32
  height : UInt32
  format : UInt32
  plane0 : PlaneAttribs
  plane1 : Option PlaneAttribs

namespace FrameAttribs

/-- The fields of a description under EGL's names, as the 32-bit patterns of the list. -/
def fields (d : FrameAttribs) : List (EGLint × Option EGLint) :=
  [(EGL_WIDTH, some d.width.toInt32),
    (EGL_HEIGHT, some d.height.toInt32),
    (EGL_LINUX_DRM_FOURCC_EXT, some d.format.toInt32),
    (EGL_DMA_BUF_PLANE0_FD_EXT, some d.plane0.fd),
    (EGL_DMA_BUF_PLANE0_OFFSET_EXT, some d.plane0.offset.toInt32),
    (EGL_DMA_BUF_PLANE0_PITCH_EXT, some d.plane0.pitch.toInt32),
    (EGL_DMA_BUF_PLANE0_MODIFIER_LO_EXT, d.plane0.modifier.map Prod.fst),
    (EGL_DMA_BUF_PLANE0_MODIFIER_HI_EXT, d.plane0.modifier.map Prod.snd),
    (EGL_DMA_BUF_PLANE1_FD_EXT, d.plane1.map (·.fd)),
    (EGL_DMA_BUF_PLANE1_OFFSET_EXT, d.plane1.map (·.offset.toInt32)),
    (EGL_DMA_BUF_PLANE1_PITCH_EXT, d.plane1.map (·.pitch.toInt32)),
    (EGL_DMA_BUF_PLANE1_MODIFIER_LO_EXT, d.plane1.bind (·.modifier.map Prod.fst)),
    (EGL_DMA_BUF_PLANE1_MODIFIER_HI_EXT, d.plane1.bind (·.modifier.map Prod.snd))]

/-- **What an import is meant to say**: the frame as it is, the luma or only plane at
offset 0, for NV12 and NV21 a chroma plane behind it in the same DMA-BUF, and the linear
modifier (0, 0) for each plane if the driver wants modifiers. -/
def ofMeta (has_modifiers : Bool) (dmabuf_fd : EGLint) (frame_meta : FrameMeta) :
    FrameAttribs :=
  let modifier := if has_modifiers then some (0, 0) else none
  { width := frame_meta.width
    height := frame_meta.height
    format := frame_meta.format
    plane0 := ⟨dmabuf_fd, 0, frame_meta.stride, modifier⟩
    plane1 :=
      if frame_meta.format = DRM_FORMAT_NV12 ∨ frame_meta.format = DRM_FORMAT_NV21 then
        some ⟨dmabuf_fd, UInt32.ofNat (frame_meta.stride.toNat * frame_meta.height.toNat),
          frame_meta.stride, modifier⟩
      else none }

/-- EGL's names differ from each other. -/
theorem nodup_names (d : FrameAttribs) : (d.fields.map Prod.fst).Nodup := by
  change List.Nodup [EGL_WIDTH, EGL_HEIGHT, EGL_LINUX_DRM_FOURCC_EXT,
    EGL_DMA_BUF_PLANE0_FD_EXT, EGL_DMA_BUF_PLANE0_OFFSET_EXT, EGL_DMA_BUF_PLANE0_PITCH_EXT,
    EGL_DMA_BUF_PLANE0_MODIFIER_LO_EXT, EGL_DMA_BUF_PLANE0_MODIFIER_HI_EXT,
    EGL_DMA_BUF_PLANE1_FD_EXT, EGL_DMA_BUF_PLANE1_OFFSET_EXT, EGL_DMA_BUF_PLANE1_PITCH_EXT,
    EGL_DMA_BUF_PLANE1_MODIFIER_LO_EXT, EGL_DMA_BUF_PLANE1_MODIFIER_HI_EXT]
  decide

/-- EGL's names differ from EGL_NONE. -/
theorem name_ne_none (d : FrameAttribs) : ∀ name ∈ d.fields.map Prod.fst, name ≠ EGL_NONE := by
  have hnone : EGL_NONE ∉ [EGL_WIDTH, EGL_HEIGHT, EGL_LINUX_DRM_FOURCC_EXT,
      EGL_DMA_BUF_PLANE0_FD_EXT, EGL_DMA_BUF_PLANE0_OFFSET_EXT, EGL_DMA_BUF_PLANE0_PITCH_EXT,
      EGL_DMA_BUF_PLANE0_MODIFIER_LO_EXT, EGL_DMA_BUF_PLANE0_MODIFIER_HI_EXT,
      EGL_DMA_BUF_PLANE1_FD_EXT, EGL_DMA_BUF_PLANE1_OFFSET_EXT, EGL_DMA_BUF_PLANE1_PITCH_EXT,
      EGL_DMA_BUF_PLANE1_MODIFIER_LO_EXT, EGL_DMA_BUF_PLANE1_MODIFIER_HI_EXT] := by decide
  intro name hname heq
  exact hnone (heq ▸ hname)

end FrameAttribs

/-- The list of an import writes out the description, field by field. -/
theorem importAttrs_eq_write (has_modifiers : Bool) (dmabuf_fd : EGLint)
    (frame_meta : FrameMeta) :
    importAttrs has_modifiers dmabuf_fd frame_meta =
      AttribList.write EGL_NONE
        (AttribList.present (FrameAttribs.ofMeta has_modifiers dmabuf_fd frame_meta).fields) := by
  have hproduct : UInt32.ofNat (frame_meta.stride.toNat * frame_meta.height.toNat) =
      frame_meta.stride * frame_meta.height := by
    rw [UInt32.ofNat_mul, UInt32.ofNat_toNat, UInt32.ofNat_toNat]
  by_cases hs : frame_meta.format = DRM_FORMAT_NV12 ∨ frame_meta.format = DRM_FORMAT_NV21
  · have hsemi : isSemiPlanar frame_meta.format = true := by simpa [isSemiPlanar] using hs
    cases has_modifiers <;>
      simp only [importAttrs, hsemi, FrameAttribs.ofMeta, hproduct, if_pos hs] <;> rfl
  · have hsemi : isSemiPlanar frame_meta.format = false := by simpa [isSemiPlanar] using hs
    cases has_modifiers <;>
      simp only [importAttrs, hsemi, FrameAttribs.ofMeta, if_neg hs] <;> rfl

/-- **The attribute list decodes to the frame description.** The lists of a Rust release
build and of C++ are the same, and EGL, reading pairs up to the first EGL_NONE in the
place of a name, consumes all of it, meets no name twice, and finds exactly the fields of
the description. -/
theorem importAttrs_read (has_modifiers : Bool) (dmabuf_fd : EGLint) (frame_meta : FrameMeta) :
    ∃ attrs pairs,
      importDmabuf false has_modifiers dmabuf_fd frame_meta = some attrs ∧
      Cpp.importAttrs has_modifiers dmabuf_fd frame_meta = attrs ∧
      AttribList.read EGL_NONE attrs = some (pairs, []) ∧
      (pairs.map Prod.fst).Nodup ∧
      ∀ name value, (name, value) ∈ pairs ↔
        (name, some value) ∈
          (FrameAttribs.ofMeta has_modifiers dmabuf_fd frame_meta).fields := by
  let d := FrameAttribs.ofMeta has_modifiers dmabuf_fd frame_meta
  have hnames : ∀ p ∈ AttribList.present d.fields, p.1 ≠ EGL_NONE := by
    intro p hp
    apply d.name_ne_none
    exact (AttribList.present_names_sublist d.fields).subset (List.mem_map_of_mem hp)
  refine ⟨importAttrs has_modifiers dmabuf_fd frame_meta, AttribList.present d.fields,
    rfl, Cpp.importAttrs_eq _ _ _, ?_, ?_, ?_⟩
  · rw [importAttrs_eq_write]
    exact AttribList.read_write hnames
  · exact AttribList.nodup_present d.nodup_names
  · intro name value
    exact AttribList.mem_present

/-- EGL_NONE as a width and a name as a stride do not confuse the reader. -/
example :
    (AttribList.read EGL_NONE (importAttrs true 7
        { width := 0x3038, height := 2, format := DRM_FORMAT_NV12, stride := 0x3057, size := 0 })
      ).map (fun r => (r.1.length, r.2)) = some (13, []) := by
  decide

end DmabufPipeline
