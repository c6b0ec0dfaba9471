import DmabufPipeline.Egl.Init
import DmabufPipeline.Lib.Gles

/-!
# What the renderer draws

The shaders, `QuadRenderer::init` after `link_program`, `set_viewport` and `draw`, in
`subscriber/src/egl.rs` and `egl_utils.cpp`, as what they give to GL. The two languages give
the same shaders and the same commands; in C++ `draw` has two more parameters, which it
ignores.

The comment over the vertices says that the image appears right side up. On every
implementation of GL that does what is documented, it does: at every pixel of the viewport,
every drawn image is sampled near the centre of one of its texels, with row 0 at the top of
the screen, whatever was drawn before. How near is a matter of the precision of the
implementation, which the shaders let be `mediump`.

## Main definitions

* `VS`, `FS_RGB`, `FS_YUV`, `verts` — the shaders and the four vertices.
* `FrameRenderer` — the renderer with the locations and the viewport.
* `FrameRenderer.setup`, `FrameRenderer.draw` — the commands.
* `FrameRenderer.Ready` — what `init` leaves and `draw` keeps.
* `FrameRenderer.shows_frames` — after any frames, the last one is on the screen.
-/

namespace DmabufPipeline

open Gles Raster

/-- The texture target as GL knows it. -/
def TexTarget.gles : TexTarget → Target
  | .GL_TEXTURE_2D => .GL_TEXTURE_2D
  | .GL_TEXTURE_EXTERNAL_OES => .GL_TEXTURE_EXTERNAL_OES

/-! ## Shaders -/

/-- `VS`, in C++ `kVertexShader`. -/
def VS : VertexShader ℚ where
  attributes := ["a_pos", "a_uv"]
  varying := "v_uv"
  main attr :=
    let v_uv := attr "a_uv"
    let gl_Position := ![(attr "a_pos").1, (attr "a_pos").2, 0, 1]
    (gl_Position, v_uv)

/-- `FS_RGB`, in C++ `kFragmentShaderRGB`. -/
def FS_RGB : FragmentShader ℚ where
  extensions := []
  precision := .mediump
  varying := "v_uv"
  sampler := "u_tex"
  target := .GL_TEXTURE_2D
  main texture2D v_uv := texture2D v_uv

/-- `FS_YUV`, in C++ `kFragmentShaderYUYV`; its sampler is a `samplerExternalOES`. -/
def FS_YUV : FragmentShader ℚ where
  extensions := ["GL_OES_EGL_image_external"]
  precision := .mediump
  varying := "v_uv"
  sampler := "u_tex"
  target := .GL_TEXTURE_EXTERNAL_OES
  main texture2D v_uv := texture2D v_uv

/-- The fragment shader that `QuadRenderer::init` links, by the test that chooses the target. -/
def QuadRenderer.fragmentShader (drm_fourcc : UInt32) : FragmentShader ℚ :=
  match QuadRenderer.texTarget drm_fourcc with
  | .GL_TEXTURE_EXTERNAL_OES => FS_YUV
  | .GL_TEXTURE_2D => FS_RGB

/-- Both pass the texel at the varying through; they differ in the type of the sampler. -/
theorem QuadRenderer.fragmentShader_eq (drm_fourcc : UInt32) :
    QuadRenderer.fragmentShader drm_fourcc =
      { FS_RGB with
        extensions := (QuadRenderer.fragmentShader drm_fourcc).extensions
        target := (QuadRenderer.texTarget drm_fourcc).gles } := by
  rw [fragmentShader]
  cases QuadRenderer.texTarget drm_fourcc <;> rfl

/-! ## Commands -/

/-- The vertices of `init`, each with position `x`, `y` and texture coordinate `u`, `v`. -/
def verts : List ℚ :=
  [-1, -1, 0, 1,
    1, -1, 1, 1,
    -1, 1, 0, 0,
    1, 1, 1, 0]

/-- `as GLuint`. -/
def asGLuint (location : ℤ) : ℕ := (location % 2 ^ 32).toNat

/-- `QuadRenderer` with all the fields that `draw` reads. -/
structure FrameRenderer extends QuadRenderer where
  attr_pos : ℤ
  attr_uv : ℤ
  uni_tex : ℤ
  viewport_w : ℤ := 0
  viewport_h : ℤ := 0
  deriving DecidableEq, Repr

namespace FrameRenderer

/-- What `init` does after the program is linked and the locations are looked up. -/
def setup (r : FrameRenderer) : List (Command ℚ) :=
  [.bindBuffer r.vbo,
    .bufferData verts,
    .bindTexture r.tex_target.gles r.texture,
    .texParameter r.tex_target.gles (.minFilter .linear),
    .texParameter r.tex_target.gles (.magFilter .linear),
    .texParameter r.tex_target.gles (.wrapS .clampToEdge),
    .texParameter r.tex_target.gles (.wrapT .clampToEdge)]

/-- `set_viewport`. -/
def set_viewport (r : FrameRenderer) (w h : ℤ) : FrameRenderer :=
  { r with viewport_w := w, viewport_h := h }

/-- `draw` up to `glDrawArrays`. -/
def beforeDraw (r : FrameRenderer) (image : Image (Vec4 ℚ)) : List (Command ℚ) :=
  [.viewport 0 0 r.viewport_w r.viewport_h,
    .clearColor ![0, 0, 0, 1],
    .clear,
    .bindTexture r.tex_target.gles r.texture,
    .imageTargetTexture r.tex_target.gles image,
    .useProgram r.program,
    .activeTexture 0,
    .bindTexture r.tex_target.gles r.texture,
    .uniform1i r.uni_tex 0,
    .bindBuffer r.vbo,
    .enableVertexAttribArray (asGLuint r.attr_pos),
    .vertexAttribPointer (asGLuint r.attr_pos) 2 (4 * 4) 0,
    .enableVertexAttribArray (asGLuint r.attr_uv),
    .vertexAttribPointer (asGLuint r.attr_uv) 2 (4 * 4) (2 * 4)]

/-- `draw`. -/
def draw (r : FrameRenderer) (image : Image (Vec4 ℚ)) : List (Command ℚ) :=
  r.beforeDraw image ++
    [.drawStrip 4,
      .disableVertexAttribArray (asGLuint r.attr_pos),
      .disableVertexAttribArray (asGLuint r.attr_uv)]

/-- What `draw_one` in `main` gives to GL. -/
def draw_one (r : FrameRenderer) (image : Image (Vec4 ℚ)) : List (Command ℚ) :=
  r.draw image ++ [.swapBuffers]

/-! ## What `init` leaves -/

/-- What `init` stores: the locations in the linked program, and names that GL gave. -/
structure Stored (r : FrameRenderer) (drm_fourcc : UInt32) (p : Program ℚ) : Prop where
  vertex : p.vertex = VS
  fragment : p.fragment = QuadRenderer.fragmentShader drm_fourcc
  tex_target : r.tex_target = QuadRenderer.texTarget drm_fourcc
  attr_pos : r.attr_pos = p.attribLocation "a_pos"
  attr_uv : r.attr_uv = p.attribLocation "a_uv"
  uni_tex : r.uni_tex = p.uniformLocation "u_tex"
  vbo : r.vbo ≠ 0
  texture : r.texture ≠ 0

/-- A state of GL in which the program is linked and the texture is new. -/
structure Fresh (r : FrameRenderer) (p : Program ℚ) (g : State ℚ) : Prop where
  program : g.programs r.program = some p
  enabled : g.enabled = []
  texture : (g.textures r.texture).target = none

/-- What every `draw` finds. -/
structure Ready (r : FrameRenderer) (p : Program ℚ) (g : State ℚ) : Prop where
  program : g.programs r.program = some p
  enabled : g.enabled = []
  data : g.data r.vbo = verts
  target : (g.textures r.texture).target = some r.tex_target.gles
  linear : (g.textures r.texture).Linear

variable {gl : Implementation ℚ} {c : gl.Context} {r : FrameRenderer} {drm_fourcc : UInt32}
  {p : Program ℚ}

/-- The parameters that `init` sets suit either target. -/
theorem allowed_setup (target : Target) :
    TexParam.Allowed target (.minFilter .linear) = true ∧
      TexParam.Allowed target (.magFilter .linear) = true ∧
      TexParam.Allowed target (.wrapS .clampToEdge) = true ∧
      TexParam.Allowed target (.wrapT .clampToEdge) = true := by
  cases target <;> exact ⟨rfl, rfl, rfl, rfl⟩

/-- **`init` leaves the renderer ready.** -/
theorem ready_setup (hgl : gl.Documented) (hr : r.Stored drm_fourcc p)
    (hfresh : r.Fresh p (gl.state c)) : r.Ready p (gl.state (gl.execAll c r.setup)) := by
  obtain ⟨hprogram, henabled, hnew⟩ := hfresh
  have hvalid : gl.ValidAll (gl.state c) r.setup := by
    simp [setup, Implementation.ValidAll, Implementation.Valid, Command.after,
      State.bindTexture, State.withTexture, hr.vbo, hr.texture, hnew, allowed_setup]
  rw [hgl.state_execAll hvalid]
  constructor
  · exact hprogram
  · exact henabled
  · simp [setup, Command.after, State.bindTexture, State.withTexture]
  · simp [setup, Command.after, State.bindTexture, State.withTexture, Texture.set]
  · constructor <;>
      simp [setup, Command.after, State.bindTexture, State.withTexture, Texture.set]

/-- The state in which `draw` calls `glDrawArrays`. -/
structure Primed (r : FrameRenderer) (p : Program ℚ) (image : Image (Vec4 ℚ)) (g : State ℚ) :
    Prop where
  ready : r.Ready p g
  viewport : g.viewport = ⟨0, 0, r.viewport_w, r.viewport_h⟩
  program : g.program = r.program
  image : (g.textures r.texture).image = some image
  bound : g.bound 0 r.tex_target.gles = r.texture
  sampler : g.uniforms r.program r.uni_tex = 0
  position : g.array p "a_pos" = ⟨true, r.vbo, 2, 16, 0⟩
  texCoord : g.array p "a_uv" = ⟨true, r.vbo, 2, 16, 8⟩

/-- The locations of the two attributes are different indices of GL. -/
theorem Stored.locations (hgl : gl.Documented) (hr : r.Stored drm_fourcc p)
    (hp : (gl.state c).programs r.program = some p) :
    asGLuint r.attr_pos = (p.attribLocation "a_pos").toNat ∧
      asGLuint r.attr_uv = (p.attribLocation "a_uv").toNat ∧
      asGLuint r.attr_pos < gl.maxVertexAttribs ∧ asGLuint r.attr_uv < gl.maxVertexAttribs ∧
      asGLuint r.attr_pos ≠ asGLuint r.attr_uv := by
  have hlinked := hgl.linked c hp
  have hmax := hgl.maxVertexAttribs
  have hpos : "a_pos" ∈ p.vertex.attributes := by simp [hr.vertex, VS]
  have huv : "a_uv" ∈ p.vertex.attributes := by simp [hr.vertex, VS]
  have hne : p.attribLocation "a_pos" ≠ p.attribLocation "a_uv" := fun h =>
    absurd (hlinked.inj _ hpos _ huv h) (by decide)
  have hnonneg := hlinked.nonneg _ hpos
  have hnonneg' := hlinked.nonneg _ huv
  have hlt := hlinked.lt _ hpos
  have hlt' := hlinked.lt _ huv
  rw [hr.attr_pos, hr.attr_uv, asGLuint, asGLuint]
  omega

/-- The viewport is no larger than the surface. -/
structure Fits (r : FrameRenderer) (gl : Implementation ℚ) : Prop where
  width_nonneg : 0 ≤ r.viewport_w
  width_le : r.viewport_w ≤ gl.width
  height_nonneg : 0 ≤ r.viewport_h
  height_le : r.viewport_h ≤ gl.height

/-- The calls before `glDrawArrays` set everything that it reads and `init` did not. -/
theorem Ready.primed (hgl : gl.Documented) (hr : r.Stored drm_fourcc p) (hfits : r.Fits gl)
    (h : r.Ready p (gl.state c)) {image : Image (Vec4 ℚ)}
    (haccepts : gl.Accepts r.tex_target.gles image) :
    r.Primed p image (gl.state (gl.execAll c (r.beforeDraw image))) := by
  obtain ⟨hprogram, henabled, hdata, htarget, hlinear⟩ := h
  obtain ⟨hpos, huv, hposlt, huvlt, hne⟩ := hr.locations hgl hprogram
  have huni : r.uni_tex = p.uniformLocation p.fragment.sampler := by
    rw [hr.uni_tex, hr.fragment, QuadRenderer.fragmentShader_eq]
    rfl
  have hblack : ∀ i, (![0, 0, 0, 1] : Vec4 ℚ) i ∈ Set.Icc 0 1 := by
    intro i
    fin_cases i <;> simp
  have hvalid : gl.ValidAll (gl.state c) (r.beforeDraw image) := by
    simp [beforeDraw, Implementation.ValidAll, Implementation.Valid, Command.after,
      State.bindTexture, State.withTexture, hr.texture, htarget, hprogram, haccepts, hposlt,
      huvlt, huni, hblack, hfits.width_nonneg, hfits.width_le, hfits.height_nonneg,
      hfits.height_le]
  have hlinear' : (((r.beforeDraw image).foldl Command.after (gl.state c)).textures
      r.texture).Linear := by
    obtain ⟨hmin, hmag, hs, ht⟩ := hlinear
    constructor <;>
      simpa [beforeDraw, Command.after, State.bindTexture, State.withTexture,
        State.withUniform, State.withArray]
  rw [hgl.state_execAll hvalid]
  refine ⟨⟨hprogram, henabled, hdata, ?_, hlinear'⟩, rfl, rfl, ?_, ?_, ?_, ?_, ?_⟩ <;>
    simp [beforeDraw, Command.after, State.bindTexture, State.withTexture, State.withUniform,
      State.withArray, State.array, ← hpos, ← huv, hne]

/-! ## One pixel -/

/-- Where a point of the window lies in the texture: across from left to right, and down
from the top. -/
def texCoordAt (w h : ℕ) (q : ℚ × ℚ) : ℚ × ℚ := (q.1 / w, 1 - q.2 / h)

section Drawing

variable {image : Image (Vec4 ℚ)} {g : State ℚ} {w h : ℕ}

/-- The floats of a vertex: two for the position, two for the texture coordinate. -/
theorem Primed.place (hp : r.Primed p image g) (i : ℕ) :
    g.place p "a_pos" i = 4 * i ∧ g.place p "a_uv" i = 4 * i + 2 := by
  simp only [State.place, hp.position, hp.texCoord, Nat.reduceEqDiff, if_false]
  omega

/-- What the vertex shader gives for vertex `i`. -/
theorem Primed.vertex (hp : r.Primed p image g) (hr : r.Stored drm_fourcc p) (i : ℕ) :
    g.position p i = ![verts.getD (4 * i) 0, verts.getD (4 * i + 1) 0, 0, 1] ∧
      g.varying p i = (verts.getD (4 * i + 2) 0, verts.getD (4 * i + 3) 0) := by
  obtain ⟨hpos, huv⟩ := hp.place i
  simp [State.position, State.varying, hr.vertex, VS, State.vertexAttrib, hpos, huv,
    hp.position, hp.texCoord, hp.ready.data]

/-- The corners of the window, and where they lie in the texture. -/
theorem Primed.corner (hp : r.Primed p image g) (hr : r.Stored drm_fourcc p)
    (hw : r.viewport_w = w) (hh : r.viewport_h = h) :
    g.corner p 0 = (0, 0) ∧ g.corner p 1 = ((w : ℚ), 0) ∧ g.corner p 2 = (0, (h : ℚ)) ∧
      g.corner p 3 = ((w : ℚ), (h : ℚ)) := by
  refine ⟨?_, ?_, ?_, ?_⟩ <;>
    simp [State.corner, (hp.vertex hr _).1, hp.viewport, Viewport.window, verts, hw, hh]

/-- **The strip fills the viewport.** -/
theorem Primed.fills (hp : r.Primed p image g) (hr : r.Stored drm_fourcc p)
    (hw : r.viewport_w = w) (hh : r.viewport_h = h) {x y : ℕ} (hx : x < w) (hy : y < h) :
    g.Fills p 4 x y := by
  obtain ⟨h0, h1, h2, h3⟩ := hp.corner hr hw hh
  have hview : g.viewport = ⟨0, 0, w, h⟩ := by rw [hp.viewport, hw, hh]
  exact State.fills_quad hview h0 h1 h2 h3 hx hy

/-- Each vertex has its floats. -/
theorem Primed.supplied (hp : r.Primed p image g) (hr : r.Stored drm_fourcc p) :
    g.Supplied p 4 := by
  intro a ha
  simp only [hr.vertex, VS, List.mem_cons, List.not_mem_nil, or_false] at ha
  rcases ha with rfl | rfl
  · refine ⟨by rw [hp.position], by rw [hp.position], by rw [hp.position]; exact hr.vbo, ?_⟩
    intro i hi
    simp only [(hp.place i).1, hp.position, hp.ready.data, verts, List.length_cons,
      List.length_nil]
    omega
  · refine ⟨by rw [hp.texCoord], by rw [hp.texCoord], by rw [hp.texCoord]; exact hr.vbo, ?_⟩
    intro i hi
    simp only [(hp.place i).2, hp.texCoord, hp.ready.data, verts, List.length_cons,
      List.length_nil]
    omega

/-- The vertices are the corners of the clip volume. -/
theorem Primed.unclipped (hp : r.Primed p image g) (hr : r.Stored drm_fourcc p) :
    g.Unclipped p 4 := by
  intro i hi
  rw [(hp.vertex hr i).1]
  refine ⟨rfl, fun c => ?_⟩
  interval_cases i <;> fin_cases c <;> simp [verts]

/-- At every vertex the varying is that of its corner. -/
theorem Primed.varying (hp : r.Primed p image g) (hr : r.Stored drm_fourcc p)
    (hw : r.viewport_w = w) (hh : r.viewport_h = h) (hw0 : 0 < w) (hh0 : 0 < h) (j : ℕ)
    (hj : j < 4) : g.varying p j = texCoordAt w h (g.corner p j) := by
  obtain ⟨h0, h1, h2, h3⟩ := hp.corner hr hw hh
  have hwne : (w : ℚ) ≠ 0 := Nat.cast_ne_zero.mpr (by omega)
  have hhne : (h : ℚ) ≠ 0 := Nat.cast_ne_zero.mpr (by omega)
  rw [(hp.vertex hr j).2]
  interval_cases j <;> simp [h0, h1, h2, h3, verts, texCoordAt, hwne, hhne]

/-- `texCoordAt` is affine. -/
theorem texCoordAt_affine (w h : ℕ) (q : ℚ × ℚ) : texCoordAt w h q =
    ((0 : ℚ), (1 : ℚ)) + q.1 • ((1 : ℚ) / w, (0 : ℚ)) + q.2 • ((0 : ℚ), -(1 : ℚ) / h) := by
  ext <;> simp only [texCoordAt, Prod.fst_add, Prod.snd_add, Prod.smul_mk, smul_eq_mul] <;> ring

/-- **Right side up**: the centre of a pixel lies at the centre of the texel of the same
column, and of the same row counted from the top. -/
theorem texCoordAt_centre {x y : ℕ} (hy : y < h) :
    texCoordAt w h (centre x ((h - 1 - y : ℕ) : ℤ)) =
      (((x : ℚ) + 1 / 2) / w, ((y : ℚ) + 1 / 2) / h) := by
  have hh0 : (h : ℚ) ≠ 0 := Nat.cast_ne_zero.mpr (by omega)
  have hrow : ((h - 1 - y : ℕ) : ℚ) = h - 1 - y := by
    rw [Nat.cast_sub (by omega), Nat.cast_sub (by omega), Nat.cast_one]
  simp only [texCoordAt, centre, Int.cast_natCast, hrow]
  congr 1
  field_simp
  ring

end Drawing

/-- How far a component of a pixel can be from that of its texel, in a frame of some size. -/
def frameError (gl : Implementation ℚ) (width height : ℕ) : ℚ :=
  gl.varyingError .mediump * (width + height) + 2 * gl.filterError + gl.colourError

/-- **One draw** shows each texel at its place, as far as the arithmetic allows. -/
theorem Primed.drawn (hgl : gl.Documented) (hr : r.Stored drm_fourcc p) (hfits : r.Fits gl)
    {image : Image (Vec4 ℚ)} (hp : r.Primed p image (gl.state c)) (hunit : Normalised image)
    (hw : r.viewport_w = image.width) (hh : r.viewport_h = image.height) {x y : ℕ}
    (hx : x < image.width) (hy : y < image.height) (i : Fin 4) :
    |gl.pixel (gl.exec c (.drawStrip 4)) x (image.height - 1 - y : ℕ) i - image.texel x y i| ≤
      frameError gl image.width image.height := by
  have hrow : image.height - 1 - y < image.height := by omega
  have hprogram : (gl.state c).programs (gl.state c).program = some p := by
    rw [hp.program, hp.ready.program]
  have hsurface : Viewport.Has ⟨0, 0, gl.width, gl.height⟩ x ((image.height - 1 - y : ℕ) : ℤ) := by
    have hwidth := hfits.width_le
    have hheight := hfits.height_le
    simp only [Viewport.Has]
    omega
  obtain ⟨texture2D, v, hsamples, hfst, hsnd, hcolour⟩ :=
    (hgl.coloured c hprogram hp.ready.enabled (hp.supplied hr) (hp.unclipped hr) hsurface
      (hp.fills hr hw hh hx hrow)).of_affine _ _ _
      (texCoordAt_affine image.width image.height)
      (hp.varying hr hw hh (by omega) (by omega))
  rw [texCoordAt_centre hy] at hfst hsnd
  -- The fragment shader takes the colour of the texture at the varying.
  have hfragment := hr.fragment.trans (QuadRenderer.fragmentShader_eq drm_fourcc)
  rw [hfragment] at hfst hsnd hcolour
  have hsampled : (gl.state c).sampled p = (gl.state c).textures r.texture := by
    rw [State.sampled, hfragment, hp.program]
    change (gl.state c).textures ((gl.state c).bound
      ((gl.state c).uniforms r.program (p.uniformLocation "u_tex")) _) = _
    rw [← hr.uni_tex, hp.sampler, ← hr.tex_target, hp.bound]
  rw [hsampled] at hsamples
  have hnear := hsamples.near hp.ready.linear hp.image hunit hx hy hfst hsnd i
  calc |gl.pixel (gl.exec c (.drawStrip 4)) x (image.height - 1 - y : ℕ) i - image.texel x y i|
      ≤ |gl.pixel (gl.exec c (.drawStrip 4)) x (image.height - 1 - y : ℕ) i -
          clampUnit (texture2D v i)| + |clampUnit (texture2D v i) - image.texel x y i| :=
        abs_sub_le _ _ _
    _ ≤ gl.colourError +
          (gl.varyingError .mediump * (image.width + image.height) + 2 * gl.filterError) :=
        add_le_add (hcolour i) hnear
    _ = frameError gl image.width image.height := by rw [frameError, add_comm]

/-! ## Whole runs -/

/-- `draw` is the drawing of the strip in the primed state, and leaves the renderer ready. -/
theorem Ready.draw (hgl : gl.Documented) (hr : r.Stored drm_fourcc p) (hfits : r.Fits gl)
    (h : r.Ready p (gl.state c)) {image : Image (Vec4 ℚ)}
    (haccepts : gl.Accepts r.tex_target.gles image) :
    r.Ready p (gl.state (gl.execAll c (r.draw image))) ∧
      gl.pixel (gl.execAll c (r.draw image)) =
        gl.pixel (gl.exec (gl.execAll c (r.beforeDraw image)) (.drawStrip 4)) := by
  have hp := (h.primed hgl hr hfits haccepts).ready
  obtain ⟨-, -, hposlt, huvlt, -⟩ := hr.locations hgl h.program
  rw [FrameRenderer.draw, Implementation.execAll_append]
  generalize gl.execAll c (r.beforeDraw image) = c' at hp ⊢
  constructor
  · have hvalid : gl.ValidAll (gl.state c') [.drawStrip 4,
        .disableVertexAttribArray (asGLuint r.attr_pos),
        .disableVertexAttribArray (asGLuint r.attr_uv)] :=
      And.intro trivial (And.intro hposlt (And.intro huvlt trivial))
    rw [hgl.state_execAll hvalid]
    exact ⟨hp.program, hp.enabled, hp.data, hp.target, hp.linear⟩
  · exact (hgl.pixel _ rfl).trans (hgl.pixel _ rfl)

/-- Showing frames one after the other leaves the renderer ready. -/
theorem Ready.frames (hgl : gl.Documented) (hr : r.Stored drm_fourcc p) (hfits : r.Fits gl)
    (h : r.Ready p (gl.state c)) (frames : List (Image (Vec4 ℚ)))
    (haccepts : ∀ image ∈ frames, gl.Accepts r.tex_target.gles image) :
    r.Ready p (gl.state (gl.execAll c (frames.flatMap r.draw_one))) := by
  induction frames generalizing c with
  | nil => exact h
  | cons image frames ih =>
      rw [List.flatMap_cons, draw_one, Implementation.execAll_append,
        Implementation.execAll_append]
      refine ih ?_ fun i hi => haccepts i (List.mem_cons_of_mem _ hi)
      have hswap := hgl.state (gl.execAll c (r.draw image)) .swapBuffers trivial
      rw [Implementation.execAll, List.foldl_cons, List.foldl_nil, hswap]
      exact (h.draw hgl hr hfits (haccepts image List.mem_cons_self)).1

/-- **Every frame is shown as it is.** On every documented implementation of GL, after `init`
and any frames, drawing one more whose size is that of the viewport puts its texel at column
`x` and row `y` at column `x` and row `y` of the screen, counted from the top, as far as the
arithmetic of the implementation allows. -/
theorem shows_frames (hgl : gl.Documented) (hr : r.Stored drm_fourcc p)
    (hfresh : r.Fresh p (gl.state c)) (hfits : r.Fits gl) (frames : List (Image (Vec4 ℚ)))
    (image : Image (Vec4 ℚ))
    (haccepts : ∀ i ∈ frames ++ [image], gl.Accepts r.tex_target.gles i)
    (hunit : Normalised image) (hw : r.viewport_w = image.width)
    (hh : r.viewport_h = image.height) {x y : ℕ} (hx : x < image.width) (hy : y < image.height)
    (i : Fin 4) :
    |gl.pixel (gl.execAll c (r.setup ++ frames.flatMap r.draw_one ++ r.draw image))
        x (image.height - 1 - y : ℕ) i - image.texel x y i| ≤
      frameError gl image.width image.height := by
  have hready := (ready_setup hgl hr hfresh).frames hgl hr hfits frames fun i hi =>
    haccepts i (List.mem_append_left _ hi)
  have himage := haccepts image (List.mem_append_right _ List.mem_cons_self)
  rw [Implementation.execAll_append, Implementation.execAll_append,
    (hready.draw hgl hr hfits himage).2]
  exact (hready.primed hgl hr hfits himage).drawn hgl hr hfits hunit hw hh hx hy i

/-- A renderer with a window of two by two pixels. -/
def twoByTwo : FrameRenderer where
  program := 3
  texture := 5
  vbo := 4
  tex_target := .GL_TEXTURE_EXTERNAL_OES
  attr_pos := 0
  attr_uv := 1
  uni_tex := 0
  viewport_w := 2
  viewport_h := 2

/-- The program of a YUYV stream. -/
def yuyvProgram : Program ℚ where
  vertex := VS
  fragment := FS_YUV
  attribLocation name := if name = "a_pos" then 0 else if name = "a_uv" then 1 else -1
  uniformLocation name := if name = "u_tex" then 0 else -1

theorem stored_twoByTwo : twoByTwo.Stored DRM_FORMAT_YUYV yuyvProgram :=
  ⟨rfl, rfl, rfl, rfl, rfl, rfl, by decide, by decide⟩

/-- A context in which it is linked. -/
def linkedContext : Software ℚ where
  state :=
    { viewport := ⟨0, 0, 0, 0⟩
      clearColor := 0
      enabled := []
      arrayBuffer := 0
      data := fun _ => []
      unit := 0
      bound := fun _ _ => 0
      textures := fun _ => {}
      program := 0
      programs := fun n => if n = 3 then some yuyvProgram else none
      uniforms := fun _ _ => 0
      arrays := fun _ => {} }
  pixels := fun _ _ => 0
  linked n p hp := by
    simp only [Option.ite_none_right_eq_some, Option.some.injEq] at hp
    obtain ⟨-, rfl⟩ := hp
    constructor <;> decide

/-- A frame that is the same everywhere. -/
def plain : Image (Vec4 ℚ) := ⟨2, 2, fun _ _ => 1⟩

/-- A frame that is darker from row to row. -/
def shaded : Image (Vec4 ℚ) := ⟨2, 2, fun x y _ => 1 / (1 + x + 2 * y)⟩

/-- The top right pixel of the screen after both. -/
theorem shows_frames_twoByTwo :
    (software ℚ 2 2).pixel ((software ℚ 2 2).execAll linkedContext
      (twoByTwo.setup ++ [plain].flatMap twoByTwo.draw_one ++ twoByTwo.draw shaded))
        (1 : ℕ) (2 - 1 - 0 : ℕ) 0 = 1 / 2 := by
  have hunit : Normalised shaded := fun x y _ => by
    have hpos : (0 : ℚ) < 1 + x + 2 * y := by positivity
    refine ⟨by simp only [shaded]; positivity, ?_⟩
    rw [shaded, div_le_one hpos]
    linarith [(Nat.cast_nonneg x : (0 : ℚ) ≤ x), (Nat.cast_nonneg y : (0 : ℚ) ≤ y)]
  have hnear := shows_frames (c := linkedContext) (software_documented 2 2) stored_twoByTwo
    ⟨rfl, rfl, rfl⟩ ⟨by decide, by decide, by decide, by decide⟩ [plain] shaded
    (fun _ _ => trivial) hunit rfl rfl (x := 1) (y := 0) (by decide) (by decide) 0
  have hzero : frameError (software ℚ 2 2) shaded.width shaded.height = 0 := by
    simp [frameError, software]
  rw [hzero, abs_nonpos_iff, sub_eq_zero] at hnear
  refine hnear.trans ?_
  norm_num [shaded]

end FrameRenderer
end DmabufPipeline
