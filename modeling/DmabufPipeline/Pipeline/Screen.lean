import DmabufPipeline.Egl.Pixels
import DmabufPipeline.Egl.Renderer
import DmabufPipeline.Pipeline.GpuRace

/-!
# From the camera to the screen

The pieces put together. The publisher's `dequeue` returns a buffer with the camera's bytes;
the pipeline brings the buffer to a `draw` of the subscriber; the import describes its bytes
to EGL as an image; the renderer has GL sample the image. Until the GPU has read it, the
buffer keeps those bytes. So at every pixel of the window the screen has the colour that the
V4L2 format gives to the pixel of the camera at the same place, for the formats whose meaning
the format codes keep, and as far as the arithmetic of GL allows.

The contents of a DMA-BUF are its bytes here. How a driver turns the components of a pixel
into a colour is a parameter.

## Main definitions

* `Capture.source` — the capture object as the sender of the handshake.
* `frameImage` — the EGLImage of a frame.
* `screen_shows_camera` — the composition.
-/

namespace DmabufPipeline

open Gles PixelLayout Raster Transition

/-- The capture object of a session as the source of its handshake. -/
def Capture.source : Capture → Source
  | .mmap cap => .publisher cap
  | .dma cap => .publisherDma cap

/-- The image that `import_dmabuf` makes of the bytes in a DMA-BUF. -/
def frameImage {V : Type*} (colour : Option Colour → V) (L : Lang)
    (overflow_checks has_modifiers : Bool) (dmabuf_fd : EGLint) (frame_meta : FrameMeta)
    (mem : ℕ → UInt8) : Image V where
  width := frame_meta.width.toNat
  height := frame_meta.height.toNat
  texel x y := colour (shownPixel L overflow_checks has_modifiers dmabuf_fd frame_meta mem x y)

/-- The pixel of a frame that the import reads, where the meaning is kept. -/
theorem texel_frameImage {V : Type*} (colour : Option Colour → V) {src : Source} {hs : Handshake}
    (hhs : src.handshake = some hs) (L : Lang) (overflow_checks has_modifiers : Bool)
    (dmabuf_fd : EGLint) (mem : ℕ → UInt8) {x y : ℕ} (hy : y < hs.height.toNat)
    (hgeo : hs.stride.toNat * hs.height.toNat < 2 ^ 31)
    (hkept : MeaningKept src.format.pixelformat hs.stride mem x y) :
    (frameImage colour L overflow_checks has_modifiers dmabuf_fd hs.frameMeta mem).texel x y =
      colour (capturedPixel src.format mem x y) := by
  obtain ⟨drm, hdrm, rfl⟩ := Source.handshake_eq_some hhs
  exact congrArg colour ((shownPixel_eq_iff src hhs L overflow_checks has_modifiers dmabuf_fd mem
    x hy hgeo).mpr hkept)

variable {γ : Type}

/-- **The screen shows the camera.** In every run of the pipeline in which `wait_for_ack` fails
only when the subscriber is done with the frame and a buffer is queued only when the GPU has
finished with it: when buffer `i` is drawn, and as long as the GPU has not read it, its
DMA-BUF has the content of the frame of the same number that `dequeue` returned. And drawing
this content, after any earlier images, shows the camera's pixel of the same column and row,
on every documented implementation of GL. `bytes` reads the contents of a DMA-BUF. -/
theorem screen_shows_camera {S : Session} {s t : State γ} (hS : S.Started) (content : DmaBuf → γ)
    {as bs : List (Act γ)} {i : ℕ} (hC : Meets (step S) InOrder (State.init S content) as)
    (hrun : run (step S) (State.init S content) as = some s)
    (hC' : Meets (step S) InOrder s (.sub (.draw i) :: bs)) (hpending : .gpuDone i ∉ bs)
    (hrun' : run (step S) s (.sub (.draw i) :: bs) = some t)
    (bytes : γ → ℕ → UInt8) {hs : Handshake} (hhs : S.cap.source.handshake = some hs)
    (hgeo : hs.stride.toNat * hs.height.toNat < 2 ^ 31)
    {gl : Implementation ℚ} (hgl : gl.Documented) {c : gl.Context} {r : FrameRenderer}
    {p : Program ℚ} (hr : r.Stored hs.format p) (hfresh : r.Fresh p (gl.state c))
    (hfits : r.Fits gl) (hw : r.viewport_w = hs.width.toNat) (hh : r.viewport_h = hs.height.toNat)
    {colour : Option Colour → Vec4 ℚ} (hcolour : ∀ p i, colour p i ∈ Set.Icc 0 1) (L : Lang)
    (overflow_checks has_modifiers : Bool) (dmabuf_fd : EGLint) (images : List (Image (Vec4 ℚ)))
    (haccepts : ∀ img ∈ images, gl.Accepts r.tex_target.gles img)
    (haccepts' : ∀ mem, gl.Accepts r.tex_target.gles
      (frameImage colour L overflow_checks has_modifiers dmabuf_fd hs.frameMeta mem)) :
    ∃ d mem, s.sub.buf_fds[i]? = some d ∧ s.produced[s.drawn.length]? = some mem ∧
      t.content d = mem ∧
      ∀ x y : ℕ, x < hs.width.toNat → y < hs.height.toNat →
        MeaningKept S.cap.source.format.pixelformat hs.stride (bytes mem) x y →
        ∀ k, |gl.pixel (gl.execAll c (r.setup ++ images.flatMap r.draw_one ++
            r.draw (frameImage colour L overflow_checks has_modifiers dmabuf_fd hs.frameMeta
              (bytes (t.content d))))) x (hs.height.toNat - 1 - y : ℕ) k -
          colour (capturedPixel S.cap.source.format (bytes mem) x y) k| ≤
            FrameRenderer.frameError gl hs.width.toNat hs.height.toNat := by
  obtain ⟨d, hd, hmem⟩ := gpu_reads_frame hS content hC hrun hC' hpending hrun'
  refine ⟨d, t.content d, hd, hmem, rfl, fun x y hx hy hkept k => ?_⟩
  rw [← texel_frameImage colour hhs L overflow_checks has_modifiers dmabuf_fd _ hy hgeo hkept]
  apply FrameRenderer.shows_frames hgl hr hfresh hfits images _ ?_ (fun _ _ => hcolour _) hw hh hx
    hy
  intro img himg
  rcases List.mem_append.mp himg with himg | himg
  · exact haccepts img himg
  · exact List.mem_singleton.mp himg ▸ haccepts' _

/-- The luma of a pixel. -/
def luma : Option Colour → Vec4 ℚ
  | some (.yuv y _ _) => fun _ => y.toNat / 255
  | _ => 0

theorem luma_mem_unit (p : Option Colour) (i : Fin 4) : luma p i ∈ Set.Icc 0 1 := by
  unfold luma
  split
  · rename_i y _ _
    have hle : (y.toNat : ℚ) ≤ 255 := by exact_mod_cast Nat.le_of_lt_succ y.toNat_lt
    exact ⟨by positivity, (div_le_one (by norm_num)).mpr hle⟩
  · exact ⟨le_refl 0, zero_le_one⟩

/-- A renderer with a window of the camera's size. -/
def fullScreen : FrameRenderer := FrameRenderer.twoByTwo.set_viewport 640 480

/-- The state in which the first frame is drawn. -/
def firstDraw : State ℕ :=
  (run (step Session.twoBuffers) (State.init Session.twoBuffers fun d => d) firstImage).get
    (by decide)

/-- The frame is acknowledged, and the driver fills the other buffer, before the GPU reads. -/
def lateRead : List (Act ℕ) :=
  [.sub .swapBuffers, .sub .destroyImage, .sub (.sendAck true), .pub (.waitForAck true),
    .fill 1 99]

/-- The state in which the GPU reads. -/
def firstRead : State ℕ :=
  (run (step Session.twoBuffers) firstDraw (.sub (.draw 0) :: lateRead)).get (by decide)

/-- The second pixel of the first frame, on a screen of 640 by 480. -/
theorem screen_shows_camera_lateRead :
    ∃ hs, Session.twoBuffers.cap.source.handshake = some hs ∧
      (software ℚ 640 480).pixel ((software ℚ 640 480).execAll FrameRenderer.linkedContext
        (fullScreen.setup ++ [].flatMap fullScreen.draw_one ++
          fullScreen.draw (frameImage luma .rust false true 5 hs.frameMeta
            fun i => UInt8.ofNat (firstRead.content 10 + i))))
              (1 : ℕ) (480 - 1 - 0 : ℕ) 0 = 12 / 255 := by
  have hrun : run (step Session.twoBuffers) (State.init Session.twoBuffers fun d => d)
      firstImage = some firstDraw := (Option.some_get _).symm
  have hrun' : run (step Session.twoBuffers) firstDraw (.sub (.draw 0) :: lateRead) =
      some firstRead := (Option.some_get _).symm
  obtain ⟨d, mem, hd, hmem, hcontent, hscreen⟩ :=
    screen_shows_camera Session.twoBuffers_started (fun d => d) (by decide) hrun (by decide)
      (by decide) hrun' (fun c i => UInt8.ofNat (c + i)) rfl (by decide)
      (software_documented 640 480) (c := FrameRenderer.linkedContext) (r := fullScreen)
      (p := FrameRenderer.yuyvProgram) ⟨rfl, rfl, rfl, rfl, rfl, rfl, by decide, by decide⟩
      ⟨rfl, rfl, rfl⟩ ⟨by decide, by decide, by decide, by decide⟩ rfl rfl luma_mem_unit .rust
      false true 5 [] (fun _ _ => trivial) fun _ => trivial
  have hfd : firstDraw.sub.buf_fds[0]? = some 10 := by decide
  have hfirst : firstDraw.produced[firstDraw.drawn.length]? = some 10 := by decide
  obtain rfl : 10 = d := Option.some.inj (hfd.symm.trans hd)
  obtain rfl : 10 = mem := Option.some.inj (hfirst.symm.trans hmem)
  have hnear := hscreen 1 0 (by decide) (by decide) (.inl (by decide)) 0
  have hzero : FrameRenderer.frameError (software ℚ 640 480) 640 480 = 0 := by
    simp [FrameRenderer.frameError, software]
  have hpixel := sub_eq_zero.mp (abs_nonpos_iff.mp (hnear.trans hzero.le))
  have hluma : luma (some (.yuv 12 11 13)) 0 = 12 / 255 := by
    rw [luma, show (12 : UInt8).toNat = 12 from rfl, Nat.cast_ofNat]
  exact ⟨_, rfl, hpixel.trans hluma⟩

end DmabufPipeline
