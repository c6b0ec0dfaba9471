import DmabufPipeline.Lib.Raster

/-!
# Drawing textured triangles with OpenGL ES

The part of OpenGL ES 2.0 that draws textured triangles, as an interface. An implementation
is a parameter: it has contexts, a step for each command, and the state and the pixels that
can be read from a context. `Documented` is what the specification says of it: which state a
command leaves when it is used as it should be, and what `glDrawArrays` does to a pixel.
Nothing is known of a command that is used otherwise. GL is not out of memory.

The arithmetic of an implementation is its own. It has a bound on the error of an
interpolated varying, which depends on the precision of the shader, one on the error of a
texture filter, and one on the error of a stored colour.

A program has one varying, a `vec2`, and one sampler. Its shaders are functions, as their
sources define them.

## Main definitions

* `State`, `Command`, `Command.after` — the commands and the state that they leave.
* `Implementation`, `Implementation.Documented` — OpenGL ES.
* `State.fills_quad`, `Coloured.of_affine`, `Samples.near` — a strip over the viewport, its
  pixels, and a linear texture near the centre of a texel.
* `software` — an implementation without errors.
-/

namespace Gles

open Raster

/-! ## Textures -/

/-- Where a texture is bound within a unit. -/
inductive Target
  | GL_TEXTURE_2D
  | GL_TEXTURE_EXTERNAL_OES
  deriving DecidableEq, Repr

/-- The filters; every filter on mipmaps is one here. -/
inductive Filter
  | nearest
  | linear
  | mipmap
  deriving DecidableEq, Repr

inductive Wrap
  | clampToEdge
  | repeated
  deriving DecidableEq, Repr

/-- `glTexParameteri` with its value. -/
inductive TexParam
  | minFilter (f : Filter)
  | magFilter (f : Filter)
  | wrapS (w : Wrap)
  | wrapT (w : Wrap)
  deriving DecidableEq, Repr

/-- The parameters that a target allows; an external texture has no mipmaps and does not
repeat. -/
def TexParam.Allowed : Target → TexParam → Bool
  | _, .magFilter .mipmap => false
  | .GL_TEXTURE_EXTERNAL_OES, .minFilter .mipmap => false
  | .GL_TEXTURE_EXTERNAL_OES, .wrapS .repeated => false
  | .GL_TEXTURE_EXTERNAL_OES, .wrapT .repeated => false
  | _, _ => true

/-- Four components: a colour, or a position with its weight. -/
abbrev Vec4 (K : Type) := Fin 4 → K

/-- A texture object. The first bind gives it its target; what it samples is an image of
which it has only level 0. -/
structure Texture (K : Type) where
  target : Option Target := none
  image : Option (Image (Vec4 K)) := none
  minFilter : Filter := .mipmap
  magFilter : Filter := .linear
  wrapS : Wrap := .repeated
  wrapT : Wrap := .repeated

/-- Set one parameter of a texture. -/
def Texture.set {K : Type} (t : Texture K) : TexParam → Texture K
  | .minFilter f => { t with minFilter := f }
  | .magFilter f => { t with magFilter := f }
  | .wrapS w => { t with wrapS := w }
  | .wrapT w => { t with wrapT := w }

/-- A complete texture with linear filters, for reducing and for enlarging. -/
structure Texture.Linear {K : Type} (t : Texture K) : Prop where
  minFilter : t.minFilter = .linear
  magFilter : t.magFilter = .linear
  wrapS : t.wrapS = .clampToEdge
  wrapT : t.wrapT = .clampToEdge

/-! ## Programs -/

/-- The precision qualifiers of the shading language. -/
inductive Precision
  | lowp
  | mediump
  | highp
  deriving DecidableEq, Repr

/-- A vertex shader: the `vec2` attributes that it reads, its varying, and `main`, which
gives `gl_Position` and the varying. -/
structure VertexShader (K : Type) where
  attributes : List String
  varying : String
  main : (String → K × K) → Vec4 K × (K × K)

/-- A fragment shader: the extensions that it requires, its default precision, its varying,
its sampler, and `main`, which gives `gl_FragColor` from `texture2D` of the sampler and the
varying. -/
structure FragmentShader (K : Type) where
  extensions : List String
  precision : Precision
  varying : String
  sampler : String
  target : Target
  main : (K × K → Vec4 K) → K × K → Vec4 K

/-- A linked program. -/
structure Program (K : Type) where
  vertex : VertexShader K
  fragment : FragmentShader K
  attribLocation : String → ℤ
  uniformLocation : String → ℤ

/-- The attributes that the vertex shader reads have locations of their own. -/
structure Program.Linked {K : Type} (p : Program K) (maxVertexAttribs : ℕ) : Prop where
  nonneg : ∀ a ∈ p.vertex.attributes, 0 ≤ p.attribLocation a
  lt : ∀ a ∈ p.vertex.attributes, p.attribLocation a < maxVertexAttribs
  inj : ∀ a ∈ p.vertex.attributes, ∀ b ∈ p.vertex.attributes,
    p.attribLocation a = p.attribLocation b → a = b

/-! ## State and commands -/

/-- A vertex array: components, and byte distances in its buffer of 4-byte floats. -/
structure VertexArray where
  enabled : Bool := false
  buffer : ℕ := 0
  size : ℕ := 4
  stride : ℕ := 0
  offset : ℕ := 0
  deriving DecidableEq, Repr

/-- What `glEnable` switches on and what would keep a fragment from a pixel. -/
inductive Capability
  | blend
  | cullFace
  | depthTest
  | scissorTest
  | stencilTest
  deriving DecidableEq, Repr

/-- The state of a context, but for the pixels. -/
structure State (K : Type) where
  viewport : Viewport
  clearColor : Vec4 K
  enabled : List Capability
  arrayBuffer : ℕ
  data : ℕ → List K
  unit : ℕ
  bound : ℕ → Target → ℕ
  textures : ℕ → Texture K
  program : ℕ
  programs : ℕ → Option (Program K)
  uniforms : ℕ → ℤ → ℕ
  arrays : ℕ → VertexArray

inductive Command (K : Type)
  | viewport (x y width height : ℤ)
  | clearColor (colour : Vec4 K)
  | clear
  | bindTexture (target : Target) (texture : ℕ)
  | texParameter (target : Target) (param : TexParam)
  /-- `glEGLImageTargetTexture2DOES`. -/
  | imageTargetTexture (target : Target) (image : Image (Vec4 K))
  | useProgram (program : ℕ)
  | activeTexture (unit : ℕ)
  | uniform1i (location : ℤ) (value : ℕ)
  | bindBuffer (buffer : ℕ)
  | bufferData (data : List K)
  | enableVertexAttribArray (index : ℕ)
  | disableVertexAttribArray (index : ℕ)
  | vertexAttribPointer (index size stride offset : ℕ)
  /-- `glDrawArrays(GL_TRIANGLE_STRIP, 0, count)`. -/
  | drawStrip (count : ℕ)
  /-- `eglSwapBuffers`, which need not keep the pixels. -/
  | swapBuffers

/-- The command changes pixels. -/
def Command.draws {K : Type} : Command K → Bool
  | .clear | .drawStrip _ | .swapBuffers => true
  | _ => false

namespace State

variable {K : Type}

/-- Bind a texture to a target of the active unit. -/
def bindTexture (g : State K) (target : Target) (texture : ℕ) : State K :=
  { g with
    bound := Function.update g.bound g.unit (Function.update (g.bound g.unit) target texture)
    textures := Function.update g.textures texture
      { g.textures texture with target := some target } }

/-- Change the texture that is bound to a target of the active unit. -/
def withTexture (g : State K) (target : Target) (f : Texture K → Texture K) : State K :=
  let name := g.bound g.unit target
  { g with textures := Function.update g.textures name (f (g.textures name)) }

/-- Set a uniform of the current program. -/
def withUniform (g : State K) (location : ℤ) (value : ℕ) : State K :=
  { g with
    uniforms := Function.update g.uniforms g.program
      (Function.update (g.uniforms g.program) location value) }

/-- Change a vertex array. -/
def withArray (g : State K) (index : ℕ) (f : VertexArray → VertexArray) : State K :=
  { g with arrays := Function.update g.arrays index (f (g.arrays index)) }

end State

/-- **The state after a command** that is used as it should be. -/
def Command.after {K : Type} (g : State K) : Command K → State K
  | .viewport x y w h => { g with viewport := ⟨x, y, w, h⟩ }
  | .clearColor colour => { g with clearColor := colour }
  | .clear | .drawStrip _ | .swapBuffers => g
  | .bindTexture target texture => g.bindTexture target texture
  | .texParameter target param => g.withTexture target (·.set param)
  | .imageTargetTexture target image =>
      g.withTexture target fun t => { t with image := some image }
  | .useProgram program => { g with program := program }
  | .activeTexture unit => { g with unit := unit }
  | .uniform1i location value => g.withUniform location value
  | .bindBuffer buffer => { g with arrayBuffer := buffer }
  | .bufferData data => { g with data := Function.update g.data g.arrayBuffer data }
  | .enableVertexAttribArray index => g.withArray index fun a => { a with enabled := true }
  | .disableVertexAttribArray index => g.withArray index fun a => { a with enabled := false }
  | .vertexAttribPointer index size stride offset =>
      g.withArray index fun a => { a with buffer := g.arrayBuffer, size, stride, offset }

/-- No command links a program. -/
theorem Command.programs_after {K : Type} (g : State K) (cmd : Command K) :
    (cmd.after g).programs = g.programs := by
  cases cmd <;> rfl

/-! ## What a strip is made of -/

namespace State

variable {K : Type}

/-- The array of an attribute. -/
def array (g : State K) (p : Program K) (name : String) : VertexArray :=
  g.arrays (p.attribLocation name).toNat

/-- Where the floats of vertex `i` begin in the buffer of an attribute. -/
def place (g : State K) (p : Program K) (name : String) (i : ℕ) : ℕ :=
  let a := g.array p name
  (a.offset + (if a.stride = 0 then 4 * a.size else a.stride) * i) / 4

/-- Every attribute has two floats for each of `count` vertices. -/
def Supplied (g : State K) (p : Program K) (count : ℕ) : Prop :=
  ∀ name ∈ p.vertex.attributes, (g.array p name).enabled = true ∧
    (g.array p name).size = 2 ∧ (g.array p name).buffer ≠ 0 ∧
    ∀ i < count, g.place p name i + 2 ≤ (g.data (g.array p name).buffer).length

/-- The sampler's texture. -/
def sampled (g : State K) (p : Program K) : Texture K :=
  g.textures (g.bound (g.uniforms g.program (p.uniformLocation p.fragment.sampler))
    p.fragment.target)

variable [Field K]

/-- An attribute of vertex `i`. -/
def vertexAttrib (g : State K) (p : Program K) (i : ℕ) (name : String) : K × K :=
  let floats := g.data (g.array p name).buffer
  (floats.getD (g.place p name i) 0, floats.getD (g.place p name i + 1) 0)

/-- `gl_Position` of vertex `i`. -/
def position (g : State K) (p : Program K) (i : ℕ) : Vec4 K := (p.vertex.main (g.vertexAttrib p i)).1

/-- The varying of vertex `i`. -/
def varying (g : State K) (p : Program K) (i : ℕ) : K × K := (p.vertex.main (g.vertexAttrib p i)).2

/-- Vertex `i` in the window, if its weight is 1. -/
def corner (g : State K) (p : Program K) (i : ℕ) : K × K :=
  g.viewport.window (g.position p i 0, g.position p i 1)

/-- Triangle `k` of the strip. -/
def triangle (g : State K) (p : Program K) (k : ℕ) : Triangle K :=
  ⟨g.corner p k, g.corner p (k + 1), g.corner p (k + 2)⟩

/-- The varying of triangle `k` at a point of the window, in exact arithmetic. -/
def interpolated (g : State K) (p : Program K) (k : ℕ) (q : K × K) : K × K :=
  (g.triangle p k).interpolate (g.varying p k) (g.varying p (k + 1)) (g.varying p (k + 2)) q

variable [LinearOrder K]

/-- Nothing is clipped, and nothing is in perspective. -/
def Unclipped (g : State K) (p : Program K) (count : ℕ) : Prop :=
  ∀ i < count, g.position p i 3 = 1 ∧ ∀ c, |g.position p i c| ≤ 1

/-- The pixel is in the viewport, and its whole square in the strip. -/
def Fills (g : State K) (p : Program K) (count : ℕ) (x y : ℤ) : Prop :=
  g.viewport.Has x y ∧
    ∀ q, InPixel x y q → ∃ k, k + 2 < count ∧ (g.triangle p k).Covers q

end State

/-! ## Implementations -/

/-- **An implementation of OpenGL ES.** -/
structure Implementation (K : Type) where
  Context : Type
  exec : Context → Command K → Context
  state : Context → State K
  /-- The colour at a column and a row, counted from the lower left corner. -/
  pixel : Context → ℤ → ℤ → Vec4 K
  /-- The size of the window surface. -/
  width : ℕ
  height : ℕ
  maxVertexAttribs : ℕ
  /-- The images of which a texture of the target can be made. -/
  Accepts : Target → Image (Vec4 K) → Prop
  /-- A bound on the error of a varying, between 0 and 1, in a fragment shader. -/
  varyingError : Precision → K
  /-- A bound on the error of a texture coordinate within a filter, in texels. -/
  filterError : K
  /-- A bound on the error of a component of a stored colour. -/
  colourError : K

variable {K : Type}

/-- A list of commands. -/
def Implementation.execAll (gl : Implementation K) (c : gl.Context) (cs : List (Command K)) :
    gl.Context := cs.foldl gl.exec c

theorem Implementation.execAll_append (gl : Implementation K) (c : gl.Context)
    (cs ds : List (Command K)) : gl.execAll c (cs ++ ds) = gl.execAll (gl.execAll c cs) ds :=
  List.foldl_append ..

variable [Field K] [LinearOrder K]

/-- A stored component lies in the unit interval. -/
def clampUnit (z : K) : K := max 0 (min 1 z)

namespace Implementation

variable [FloorRing K] (gl : Implementation K)

/-- `f` samples a texture with linear filters: it filters its image at a place that is as far
away as the error of the filter allows. -/
def Samples (t : Texture K) (f : K × K → Vec4 K) : Prop :=
  t.Linear → ∀ img, t.image = some img → ∀ uv, ∃ uv' : K × K,
    |uv'.1 * img.width - uv.1 * img.width| ≤ gl.filterError ∧
    |uv'.2 * img.height - uv.2 * img.height| ≤ gl.filterError ∧ f uv = sampleLinear img uv'

/-- **What a pixel can be that a strip fills**: the result of the fragment shader, for some
triangle of the strip, at the varying that belongs there up to its error. -/
def Coloured (g : State K) (p : Program K) (count : ℕ) (x y : ℤ) (colour : Vec4 K) : Prop :=
  ∃ k texture2D v, k + 2 < count ∧ (g.triangle p k).area ≠ 0 ∧
    gl.Samples (g.sampled p) texture2D ∧
    |v.1 - (g.interpolated p k (centre x y)).1| ≤ gl.varyingError p.fragment.precision ∧
    |v.2 - (g.interpolated p k (centre x y)).2| ≤ gl.varyingError p.fragment.precision ∧
    ∀ i, |colour i - clampUnit (p.fragment.main texture2D v i)| ≤ gl.colourError

/-- **The command is used as it should be**: sizes up to that of the surface, texture targets as
they were first bound, images that make a texture, linked programs, the sampler of the current
program, one of the eight texture units that there are at least, and bound buffers. -/
def Valid (g : State K) : Command K → Prop
  | .viewport _ _ w h => 0 ≤ w ∧ w ≤ gl.width ∧ 0 ≤ h ∧ h ≤ gl.height
  | .clearColor colour => ∀ i, colour i ∈ Set.Icc 0 1
  | .clear | .bindBuffer _ | .drawStrip _ | .swapBuffers => True
  | .bindTexture target texture =>
      texture ≠ 0 ∧ ∀ t ∈ (g.textures texture).target, t = target
  | .texParameter target param => g.bound g.unit target ≠ 0 ∧ param.Allowed target = true
  | .imageTargetTexture target image => g.bound g.unit target ≠ 0 ∧ gl.Accepts target image
  | .useProgram program => (g.programs program).isSome = true
  | .activeTexture unit => unit < 8
  | .uniform1i location value =>
      (∃ p ∈ g.programs g.program, location = p.uniformLocation p.fragment.sampler) ∧ value < 8
  | .bufferData _ => g.arrayBuffer ≠ 0
  | .enableVertexAttribArray index | .disableVertexAttribArray index => index < gl.maxVertexAttribs
  | .vertexAttribPointer index size _ _ => index < gl.maxVertexAttribs ∧ 0 < size ∧ size ≤ 4

/-- Every command of a list is. -/
def ValidAll : State K → List (Command K) → Prop
  | _, [] => True
  | g, cmd :: cs => gl.Valid g cmd ∧ ValidAll (cmd.after g) cs

/-- **What is documented of OpenGL ES.** -/
structure Documented : Prop where
  /-- A `GLint` holds the number of vertex arrays. -/
  maxVertexAttribs : gl.maxVertexAttribs < 2 ^ 31
  linked (c : gl.Context) {n : ℕ} {p : Program K} :
    (gl.state c).programs n = some p → p.Linked gl.maxVertexAttribs
  state (c : gl.Context) (cmd : Command K) :
    gl.Valid (gl.state c) cmd → gl.state (gl.exec c cmd) = cmd.after (gl.state c)
  pixel (c : gl.Context) {cmd : Command K} :
    cmd.draws = false → gl.pixel (gl.exec c cmd) = gl.pixel c
  /-- The fragment shader runs for every pixel of the surface that the strip fills. -/
  coloured (c : gl.Context) {p : Program K} {count : ℕ} {x y : ℤ} :
    (gl.state c).programs (gl.state c).program = some p → (gl.state c).enabled = [] →
    (gl.state c).Supplied p count → (gl.state c).Unclipped p count →
    Viewport.Has ⟨0, 0, gl.width, gl.height⟩ x y → (gl.state c).Fills p count x y →
      gl.Coloured (gl.state c) p count x y (gl.pixel (gl.exec c (.drawStrip count)) x y)

variable {gl}

/-- The state after a list of commands. -/
theorem Documented.state_execAll (hgl : gl.Documented) {c : gl.Context} {cs : List (Command K)}
    (h : gl.ValidAll (gl.state c) cs) :
    gl.state (gl.execAll c cs) = cs.foldl Command.after (gl.state c) := by
  induction cs generalizing c with
  | nil => rfl
  | cons cmd cs ih =>
      have hstate := hgl.state c cmd h.1
      have hrest := ih (c := gl.exec c cmd) (by rw [hstate]; exact h.2)
      rw [hstate] at hrest
      exact hrest

end Implementation

/-! ## A rectangle that fills the viewport -/

section Quad

variable [IsStrictOrderedRing K] {g : State K} {p : Program K}

/-- **A strip over the corners of the viewport** fills every pixel of it. -/
theorem State.fills_quad {w h : ℕ} (hv : g.viewport = ⟨0, 0, w, h⟩)
    (h0 : g.corner p 0 = (0, 0)) (h1 : g.corner p 1 = ((w : K), 0))
    (h2 : g.corner p 2 = (0, (h : K))) (h3 : g.corner p 3 = ((w : K), (h : K)))
    {x y : ℕ} (hx : x < w) (hy : y < h) : g.Fills p 4 x y := by
  have hw : (0 : K) < w := Nat.cast_pos.mpr (by omega)
  have hh : (0 : K) < h := Nat.cast_pos.mpr (by omega)
  constructor
  · simp only [hv, Viewport.Has]
    omega
  · intro q hq
    obtain ⟨hqx, hqy⟩ := hq.inside hx hy
    rcases covers_strip hw hh hqx hqy with hcov | hcov
    · exact ⟨0, by omega, by simpa [State.triangle, h0, h1, h2] using hcov⟩
    · exact ⟨1, by omega, by simpa [State.triangle, h1, h2, h3] using hcov⟩

variable [FloorRing K] {gl : Implementation K}

omit [IsStrictOrderedRing K] in
/-- Where the varyings at the corners are those of an affine map of the window, it does not
matter which triangle a pixel belongs to. -/
theorem Implementation.Coloured.of_affine {count : ℕ} {x y : ℤ} {colour : Vec4 K}
    (h : gl.Coloured g p count x y colour) {f : K × K → K × K} (o ex ey : K × K)
    (hf : ∀ q, f q = o + q.1 • ex + q.2 • ey)
    (hvar : ∀ j < count, g.varying p j = f (g.corner p j)) :
    ∃ texture2D v, gl.Samples (g.sampled p) texture2D ∧
      |v.1 - (f (centre x y)).1| ≤ gl.varyingError p.fragment.precision ∧
      |v.2 - (f (centre x y)).2| ≤ gl.varyingError p.fragment.precision ∧
      ∀ i, |colour i - clampUnit (p.fragment.main texture2D v i)| ≤ gl.colourError := by
  obtain ⟨k, texture2D, v, hk, harea, hsamples, hfst, hsnd, hcolour⟩ := h
  have hexact : g.interpolated p k (centre x y) = f (centre x y) := by
    rw [State.interpolated, hvar k (by omega), hvar (k + 1) (by omega), hvar (k + 2) hk]
    exact Triangle.interpolate_affine harea o ex ey hf
  rw [hexact] at hfst hsnd
  exact ⟨texture2D, v, hsamples, hfst, hsnd, hcolour⟩

end Quad

/-! ## Sampling near the centre of a texel -/

/-- Every component of the image lies in the unit interval. -/
def Normalised (img : Image (Vec4 K)) : Prop := ∀ i j c, img.texel i j c ∈ Set.Icc 0 1

variable [IsStrictOrderedRing K]

/-- Clamping brings a value no further away from the unit interval. -/
theorem abs_clampUnit_sub_le (z : K) {t : K} (ht : t ∈ Set.Icc 0 1) :
    |clampUnit z - t| ≤ |z - t| := by
  calc |clampUnit z - t|
      = |max 0 (min 1 z) - max 0 (min 1 t)| := by
        rw [min_eq_right ht.2, max_eq_right ht.1, clampUnit]
    _ ≤ |min 1 z - min 1 t| := by simpa using abs_max_sub_max_le_max 0 (min 1 z) 0 (min 1 t)
    _ ≤ |z - t| := by simpa using abs_min_sub_min_le_max 1 z 1 t

variable [FloorRing K] {gl : Implementation K}

/-- **Near the centre of a texel a linear texture has nearly its colour.** -/
theorem Implementation.Samples.near {t : Texture K} {texture2D : K × K → Vec4 K}
    (h : gl.Samples t texture2D) (hlinear : t.Linear) {img : Image (Vec4 K)}
    (himg : t.image = some img) (hunit : Normalised img) {i j : ℕ} (hi : i < img.width)
    (hj : j < img.height) {v : K × K} {e : K}
    (hfst : |v.1 - (i + 1 / 2) / img.width| ≤ e) (hsnd : |v.2 - (j + 1 / 2) / img.height| ≤ e)
    (c : Fin 4) :
    |clampUnit (texture2D v c) - img.texel i j c| ≤
      e * (img.width + img.height) + 2 * gl.filterError := by
  obtain ⟨uv, hacross, hdown, hsample⟩ := h hlinear img himg v
  -- The distance to the centre of the texel, in texels.
  have hplace {a b m : K} {k n : ℕ} (hk : k < n) (hb : |b - ((k : K) + 1 / 2) / n| ≤ e)
      (ha : |a * n - b * n| ≤ m) : |a * n - (k + 1 / 2)| ≤ m + e * n := by
    have hn : (0 : K) < n := Nat.cast_pos.mpr (by omega)
    have hscale : b * n - ((k : K) + 1 / 2) = (b - (k + 1 / 2) / n) * n := by
      field_simp
    calc |a * n - ((k : K) + 1 / 2)|
        ≤ |a * n - b * n| + |b * n - (k + 1 / 2)| := abs_sub_le _ _ _
      _ = |a * n - b * n| + |b - (k + 1 / 2) / n| * n := by
        rw [hscale, abs_mul, abs_of_pos hn]
      _ ≤ m + e * n := by gcongr
  have hfilter := abs_sampleLinear_sub_le (LinearMap.proj (R := K) c) (fun i j => hunit i j c)
    hi hj uv
  calc |clampUnit (texture2D v c) - img.texel i j c|
      ≤ |texture2D v c - img.texel i j c| := abs_clampUnit_sub_le _ (hunit i j c)
    _ ≤ |uv.1 * img.width - (i + 1 / 2)| + |uv.2 * img.height - (j + 1 / 2)| := by
      rw [hsample]
      exact hfilter
    _ ≤ (gl.filterError + e * img.width) + (gl.filterError + e * img.height) :=
      add_le_add (hplace hi hfst hacross) (hplace hj hsnd hdown)
    _ = e * (img.width + img.height) + 2 * gl.filterError := by ring

/-! ## An implementation without errors -/

omit [IsStrictOrderedRing K]

/-- The filtered image; without one the texture is black. -/
def Texture.sample (t : Texture K) (uv : K × K) : Vec4 K :=
  match t.image with
  | none => ![0, 0, 0, 1]
  | some img => sampleLinear img uv

/-- The colour that triangle `k` gives to a pixel. -/
def State.fragment (g : State K) (p : Program K) (x y : ℤ) (k : ℕ) : Option (Vec4 K) :=
  if g.viewport.Has x y ∧ (g.triangle p k).Covers (centre x y) then
    some fun i => clampUnit
      (p.fragment.main (g.sampled p).sample (g.interpolated p k (centre x y)) i)
  else none

/-- The pixels after a command; a later triangle covers an earlier one. -/
def Command.pixels (g : State K) (old : ℤ → ℤ → Vec4 K) : Command K → ℤ → ℤ → Vec4 K
  | .clear, _, _ => g.clearColor
  | .drawStrip count, x, y =>
      ((g.programs g.program).bind fun p =>
        (List.range (count - 2)).reverse.findSome? (g.fragment p x y)).getD (old x y)
  | _, x, y => old x y

/-- A context in memory. -/
structure Software (K : Type) where
  state : State K
  pixels : ℤ → ℤ → Vec4 K
  linked : ∀ n p, state.programs n = some p → p.Linked 16

/-- **An implementation** that computes every pixel as it is defined. -/
def software (K : Type) [Field K] [LinearOrder K] [FloorRing K] (width height : ℕ) :
    Implementation K where
  Context := Software K
  exec c cmd :=
    { state := cmd.after c.state
      pixels := cmd.pixels c.state c.pixels
      linked := cmd.programs_after c.state ▸ c.linked }
  state := Software.state
  pixel := Software.pixels
  width := width
  height := height
  maxVertexAttribs := 16
  Accepts _ _ := True
  varyingError _ := 0
  filterError := 0
  colourError := 0

/-- A pixel that the strip fills has the colour of one of its triangles. -/
theorem State.fragment_of_fills [IsStrictOrderedRing K] {g : State K} {p : Program K}
    {count : ℕ} {x y : ℤ} (hp : g.programs g.program = some p) (h : g.Fills p count x y)
    (old : ℤ → ℤ → Vec4 K) :
    ∃ k < count - 2, g.fragment p x y k = some (Command.pixels g old (.drawStrip count) x y) := by
  obtain ⟨hin, hsquare⟩ := h
  obtain ⟨k, hk, hcov⟩ := hsquare (centre x y) (inPixel_centre x y)
  have hsome : ((List.range (count - 2)).reverse.findSome? (g.fragment p x y)).isSome = true := by
    rw [List.findSome?_isSome_iff]
    refine ⟨k, ?_, by simp [State.fragment, hin, hcov]⟩
    rw [List.mem_reverse, List.mem_range]
    omega
  obtain ⟨colour, hcolour⟩ := Option.isSome_iff_exists.mp hsome
  obtain ⟨j, hj, hfrag⟩ := List.exists_of_findSome?_eq_some hcolour
  refine ⟨j, by simpa using hj, ?_⟩
  rw [hfrag, Command.pixels, hp, Option.bind_some, hcolour, Option.getD_some]

/-- A texture with an image is sampled by the filter. -/
theorem Texture.sample_of_image {t : Texture K} {img : Image (Vec4 K)} (h : t.image = some img)
    (uv : K × K) : t.sample uv = sampleLinear img uv := by
  rw [Texture.sample, h]

/-- **It does what is documented.** -/
theorem software_documented [IsStrictOrderedRing K] (width height : ℕ) :
    (software K width height).Documented where
  maxVertexAttribs := by simp [software]
  linked c _ _ hp := c.linked _ _ hp
  state _ _ _ := rfl
  pixel c cmd hcmd := by
    cases cmd with
    | clear | drawStrip | swapBuffers => cases hcmd
    | _ => rfl
  coloured c p _ x y hp _ _ _ _ hfills := by
    obtain ⟨k, hk, hfrag⟩ := State.fragment_of_fills hp hfills c.pixels
    simp only [State.fragment, Option.ite_none_right_eq_some, Option.some.injEq] at hfrag
    obtain ⟨⟨-, hcov⟩, hcolour⟩ := hfrag
    refine ⟨k, (c.state.sampled p).sample, c.state.interpolated p k (centre x y), by omega,
      hcov.1, ?_, ?_, ?_, fun i => ?_⟩
    · intro _ img himg uv
      exact ⟨uv, by simp [software], by simp [software], Texture.sample_of_image himg uv⟩
    · simp [software]
    · simp [software]
    · exact (congrArg abs (sub_eq_zero.mpr (congrFun hcolour i).symm)).trans_le abs_zero.le

end Gles
