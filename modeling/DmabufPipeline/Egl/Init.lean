import DmabufPipeline.Egl.Attributes
import DmabufPipeline.Lib.Ledger

/-!
# Setting up EGL and the renderer

`EglContext::init` and `QuadRenderer::init` with `link_program` and `compile_shader`
(`compile` in C++). A function takes the answers of EGL and GL as an argument and returns
its result with the objects that it created and released, in order. `0` is the handle of
nothing: EGL_NO_DISPLAY, a shader that could not be created.

In C++ the handles are stored in the object as they are created, and its destructor
releases what is there. In Rust the value is built at the very end, so that before it
there is nothing to drop.

## Main definitions

* `EglContext.init`, `Cpp.EglContext.init`, `Cpp.EglContext.destroy` — the context.
* `QuadRenderer.init`, `Cpp.QuadRenderer.init`, `Cpp.QuadRenderer.destroy` — the renderer.
* `Bringup.ReleasesOnFailure` — what a failed initialisation owes.
* `Bringup.Clean` — when it pays.
-/

namespace DmabufPipeline

open Ledger

/-! ## Objects and answers -/

/-- An EGL or GL object. -/
inductive GlObject
  | display (handle : ℕ)
  | context (handle : ℕ)
  | surface (handle : ℕ)
  | shader (name : ℕ)
  | program (name : ℕ)
  | buffer (name : ℕ)
  | texture (name : ℕ)
  deriving DecidableEq, Repr

/-- The events of creating and releasing EGL and GL objects. -/
abbrev GlLog := List (Event GlObject)

/-- A creating call that returned `handle`. -/
def created (object : ℕ → GlObject) (handle : ℕ) : GlLog :=
  if handle = 0 then [] else [.acquire (object handle)]

/-- A releasing call; the handle of nothing is ignored. -/
def deleted (object : ℕ → GlObject) (handle : ℕ) : GlLog :=
  if handle = 0 then [] else [.release (object handle)]

/-- `eglTerminate`, which does nothing to a display that is not initialised. -/
def eglTerminate (log : GlLog) (display : ℕ) : GlLog :=
  if .acquire (.display display) ∈ log then log ++ [.release (.display display)] else log

/-- `strstr` as a test. -/
def contains (string word : String) : Bool := decide (word.toList <:+: string.toList)

/-- The answers to `EglContext::init`. A query of a string, and the lookup of an entry
point, may have none. -/
structure ContextAnswers where
  client_exts : Option String
  /-- `eglGetPlatformDisplayEXT`, where it is found, and the display it returns. -/
  get_platform_display : Option ℕ
  get_display : ℕ
  initialized : Bool
  bind_api : Bool
  /-- `num_configs`, where `eglChooseConfig` succeeds. -/
  choose_config : Option ℤ
  create_context : ℕ
  create_window_surface : ℕ
  make_current : Bool
  exts : Option String
  create_image : Bool
  destroy_image : Bool
  gl_image_target : Bool
  /-- `glGetString(GL_RENDERER)`, which is printed. -/
  gl_renderer : Option String

/-- The display of the platform API, or of `eglGetDisplay`. -/
def ContextAnswers.display (ans : ContextAnswers) : ℕ :=
  let has_platform := match ans.client_exts with
    | some s => contains s "EGL_EXT_platform_wayland" || contains s "EGL_KHR_platform_wayland"
    | none => false
  let display := if has_platform then ans.get_platform_display.getD 0 else 0
  if display = 0 then ans.get_display else display

/-- Whether `eglChooseConfig` found a configuration. -/
def ContextAnswers.config_found (ans : ContextAnswers) : Bool :=
  match ans.choose_config with
  | some num_configs => num_configs ≥ 1
  | none => false

/-- Whether all entry points were found. -/
def ContextAnswers.entry_points (ans : ContextAnswers) : Bool :=
  ans.create_image && ans.destroy_image && ans.gl_image_target

/-- The call that made an initialisation fail. -/
inductive InitError
  | eglGetDisplay
  | eglInitialize
  | eglBindAPI
  | eglChooseConfig
  | eglCreateContext
  | eglCreateWindowSurface
  | eglMakeCurrent
  | shaderCompile
  | programLink
  deriving DecidableEq, Repr

/-- How an initialisation ends; in Rust, a string or an entry point that is not there is
undefined behaviour. -/
inductive InitResult (α : Type)
  | ok (value : α)
  | failed (e : InitError)
  | undefined

/-! ## EglContext -/

/-- The fields of `EglContext` that matter here. -/
structure EglContext where
  display : ℕ := 0
  context : ℕ := 0
  surface : ℕ := 0
  has_modifiers : Bool := false
  deriving DecidableEq, Repr

/-- `EglContext::init`. The handles are locals of raw pointer type until the last line, so
a return before it releases nothing. The entry points are made `fn` pointers, which cannot
be null, before they are tested for null; so the return behind the test is never reached. -/
def EglContext.init (ans : ContextAnswers) : InitResult EglContext × GlLog :=
  let display := ans.display
  if display = 0 then (.failed .eglGetDisplay, [])
  else if ans.initialized = false then (.failed .eglInitialize, [])
  else
    let log := [.acquire (.display display)]
    if ans.bind_api = false then (.failed .eglBindAPI, log)
    else if ans.config_found = false then (.failed .eglChooseConfig, log)
    else
      let context := ans.create_context
      if context = 0 then (.failed .eglCreateContext, log)
      else
        let log := log ++ [.acquire (.context context)]
        let surface := ans.create_window_surface
        if surface = 0 then (.failed .eglCreateWindowSurface, log)
        else
          let log := log ++ [.acquire (.surface surface)]
          if ans.make_current = false then (.failed .eglMakeCurrent, log)
          else match ans.exts with
            | none => (.undefined, log)
            | some exts =>
                if ans.entry_points = false then (.undefined, log)
                else if ans.gl_renderer = none then (.undefined, log)
                else
                  (.ok { display, context, surface,
                         has_modifiers := contains exts "EGL_EXT_image_dma_buf_import_modifiers" },
                    log)

namespace Cpp

/-- `EglContext::init`: the object with what it stored, and whether it returned true. -/
def EglContext.init (ans : ContextAnswers) : EglContext × Bool × GlLog :=
  let self : EglContext := { display := ans.display }
  if self.display = 0 then (self, false, [])
  else if ans.initialized = false then (self, false, [])
  else
    let log := [.acquire (.display self.display)]
    if ans.bind_api = false then (self, false, log)
    else if ans.config_found = false then (self, false, log)
    else
      let self := { self with context := ans.create_context }
      if self.context = 0 then (self, false, log)
      else
        let log := log ++ [.acquire (.context self.context)]
        let self := { self with surface := ans.create_window_surface }
        if self.surface = 0 then (self, false, log)
        else
          let log := log ++ [.acquire (.surface self.surface)]
          if ans.make_current = false then (self, false, log)
          else
            let self := { self with
              has_modifiers :=
                contains (ans.exts.getD "") "EGL_EXT_image_dma_buf_import_modifiers" }
            if ans.entry_points = false then (self, false, log) else (self, true, log)

/-- `EglContext::destroy`, which the destructor calls. -/
def EglContext.destroy (self : EglContext) (log : GlLog) : GlLog :=
  if self.display = 0 then log
  else
    eglTerminate (log ++ deleted .surface self.surface ++ deleted .context self.context)
      self.display

end Cpp

/-! ## QuadRenderer -/

/-- The answers to one shader: its name, and the compile status. -/
structure ShaderAnswers where
  name : ℕ
  compile_status : Bool
  deriving DecidableEq, Repr

/-- Whether the shader compiles; the status of no shader reads as 0. -/
def ShaderAnswers.ok (ans : ShaderAnswers) : Bool := ans.name ≠ 0 && ans.compile_status

/-- The answers to `QuadRenderer::init`. While the vertex shader exists, GL gives the
fragment shader another name. -/
structure RendererAnswers where
  vs : ShaderAnswers
  fs : ShaderAnswers
  program : ℕ
  link_status : Bool
  vbo : ℕ
  texture : ℕ
  distinct : vs.ok = true → fs.name ≠ vs.name

/-- Whether the program links; the status of no program reads as 0. -/
def RendererAnswers.linked (ans : RendererAnswers) : Bool := ans.program ≠ 0 && ans.link_status

/-- The fields of `QuadRenderer` that matter here. -/
structure QuadRenderer where
  program : ℕ := 0
  texture : ℕ := 0
  vbo : ℕ := 0
  tex_target : TexTarget := .GL_TEXTURE_2D
  deriving DecidableEq, Repr

/-- `compile_shader`. -/
def compile_shader (ans : ShaderAnswers) : Except InitError ℕ × GlLog :=
  let log := created .shader ans.name
  if ans.ok = false then (.error .shaderCompile, log ++ deleted .shader ans.name)
  else (.ok ans.name, log)

/-- `link_program`; the `?` after the fragment shader does not know the vertex shader. -/
def link_program (ans : RendererAnswers) : Except InitError ℕ × GlLog :=
  match compile_shader ans.vs with
  | (.error e, log) => (.error e, log)
  | (.ok vs, log) =>
      match compile_shader ans.fs with
      | (.error e, log') => (.error e, log ++ log')
      | (.ok fs, log') =>
          let prog := ans.program
          let log := log ++ log' ++ created .program prog ++ deleted .shader vs ++
            deleted .shader fs
          if ans.linked = false then
            (.error .programLink, log ++ deleted .program prog)
          else (.ok prog, log)

/-- `QuadRenderer::init`. -/
def QuadRenderer.init (drm_fourcc : UInt32) (ans : RendererAnswers) :
    InitResult QuadRenderer × GlLog :=
  match link_program ans with
  | (.error e, log) => (.failed e, log)
  | (.ok program, log) =>
      (.ok { program, texture := ans.texture, vbo := ans.vbo,
             tex_target := texTarget drm_fourcc },
        log ++ created .buffer ans.vbo ++ created .texture ans.texture)

namespace Cpp

/-- `compile`, which returns 0 on failure. -/
def compile (ans : ShaderAnswers) : ℕ × GlLog :=
  let log := created .shader ans.name
  if ans.ok = false then (0, log ++ deleted .shader ans.name) else (ans.name, log)

/-- `link_program`, which returns 0 on failure. -/
def link_program (ans : RendererAnswers) : ℕ × GlLog :=
  let (vs, log) := compile ans.vs
  let (fs, log') := compile ans.fs
  let log := log ++ log'
  if vs = 0 || fs = 0 then (0, log ++ deleted .shader vs ++ deleted .shader fs)
  else
    let p := ans.program
    let log := log ++ created .program p ++ deleted .shader vs ++ deleted .shader fs
    if ans.linked = false then (0, log ++ deleted .program p) else (p, log)

/-- `QuadRenderer::init`: the object with what it stored, and whether it returned true. -/
def QuadRenderer.init (drm_fourcc : UInt32) (ans : RendererAnswers) :
    QuadRenderer × Bool × GlLog :=
  let (program, log) := link_program ans
  let self : QuadRenderer := { program, tex_target := QuadRenderer.texTarget drm_fourcc }
  if self.program = 0 then (self, false, log)
  else
    ({ self with vbo := ans.vbo, texture := ans.texture }, true,
      log ++ created .buffer ans.vbo ++ created .texture ans.texture)

/-- `QuadRenderer::destroy`, which the destructor calls. -/
def QuadRenderer.destroy (self : QuadRenderer) (log : GlLog) : GlLog :=
  log ++ deleted .texture self.texture ++ deleted .buffer self.vbo ++
    deleted .program self.program

end Cpp

/-! ## What a failed initialisation owes -/

/-- One initialisation, with its answers. -/
inductive Bringup
  | context (L : Lang) (ans : ContextAnswers)
  | renderer (L : Lang) (drm_fourcc : UInt32) (ans : RendererAnswers)

namespace Bringup

/-- If the initialisation returned a failure: all events up to the point where the C++
object, too, is destroyed. -/
def failure : Bringup → Option GlLog
  | context .rust ans =>
      match EglContext.init ans with
      | (.failed _, log) => some log
      | _ => none
  | context .cpp ans =>
      match Cpp.EglContext.init ans with
      | (self, false, log) => some (Cpp.EglContext.destroy self log)
      | _ => none
  | renderer .rust drm_fourcc ans =>
      match QuadRenderer.init drm_fourcc ans with
      | (.failed _, log) => some log
      | _ => none
  | renderer .cpp drm_fourcc ans =>
      match Cpp.QuadRenderer.init drm_fourcc ans with
      | (self, false, log) => some (Cpp.QuadRenderer.destroy self log)
      | _ => none

/-- A failed initialisation has released every object that it created, exactly once. -/
def ReleasesOnFailure (b : Bringup) : Prop := ∀ log, b.failure = some log → Balanced log

/-- The answers on which nothing is lost: in Rust, the context fails before a display is
initialised or is made current, and the fragment shader compiles if the vertex shader does. -/
def Clean : Bringup → Prop
  | context .rust ans => ans.display = 0 ∨ ans.initialized = false ∨
      ans.bind_api = true ∧ ans.config_found = true ∧ ans.create_context ≠ 0 ∧
        ans.create_window_surface ≠ 0 ∧ ans.make_current = true
  | renderer .rust _ ans => ans.vs.ok = true → ans.fs.ok = true
  | context .cpp _ | renderer .cpp .. => True

end Bringup

/-! ## EglContext -/

/-- A log that begins with a display and releases nothing is not balanced. -/
theorem not_balanced_display {d : ℕ} {log : GlLog} (hlog : ∀ r, .release r ∉ log) :
    ¬ Balanced (.acquire (.display d) :: log) := by
  intro h
  have hrel := h.released List.mem_cons_self
  rcases List.mem_cons.mp hrel with heq | hmem
  · cases heq
  · exact hlog _ hmem

/-- **The Rust `init` releases nothing**: a failure is clean exactly when it comes before
a display is initialised. -/
theorem EglContext.releases_iff (ans : ContextAnswers) :
    (Bringup.context .rust ans).ReleasesOnFailure ↔ (Bringup.context .rust ans).Clean := by
  simp only [Bringup.ReleasesOnFailure, Bringup.failure, Bringup.Clean, EglContext.init]
  by_cases hd : ans.display = 0
  · simp [hd, Balanced.nil]
  by_cases hi : ans.initialized = false
  · simp [hd, hi, Balanced.nil]
  have hlost (log : GlLog) (hlog : ∀ r, .release r ∉ log) :
      ¬ ∀ log', some (.acquire (.display ans.display) :: log) = some log' → Balanced log' :=
    fun h => not_balanced_display hlog (h _ rfl)
  simp only [hd, hi, if_false, false_or]
  by_cases hb : ans.bind_api = false
  · simpa [hb] using hlost [] (by simp)
  by_cases hc : ans.config_found = false
  · simpa [hb, hc] using hlost [] (by simp)
  by_cases hx : ans.create_context = 0
  · simpa [hb, hc, hx] using hlost [] (by simp)
  by_cases hs : ans.create_window_surface = 0
  · simpa [hb, hc, hx, hs] using hlost [.acquire (.context ans.create_context)] (by simp)
  have hlostAll := hlost [.acquire (.context ans.create_context),
    .acquire (.surface ans.create_window_surface)] (by simp)
  by_cases hm : ans.make_current = false
  · simpa [hb, hc, hx, hs, hm] using hlostAll
  simp only [Bool.not_eq_false] at hb hc hm
  cases he : ans.exts with
  | none => simp [hb, hc, hx, hs, hm]
  | some exts =>
      by_cases hp : ans.entry_points = false
      · simp [hb, hc, hx, hs, hm, hp]
      · simp only [Bool.not_eq_false] at hp
        by_cases hr : ans.gl_renderer = none <;> simp [hb, hc, hx, hs, hm, hp, hr]

/-- **The C++ destructor releases what `init` left**, at every failing exit. -/
theorem Cpp.EglContext.releasesOnFailure (ans : ContextAnswers) :
    (Bringup.context .cpp ans).ReleasesOnFailure := by
  simp only [Bringup.ReleasesOnFailure, Bringup.failure, Cpp.EglContext.init]
  by_cases hd : ans.display = 0
  · simp [hd, destroy, Balanced.nil]
  by_cases hi : ans.initialized = false
  · simp [hd, hi, destroy, eglTerminate, deleted, Balanced.nil]
  simp only [hd, hi, if_false]
  -- the display alone, with the context, and with the surface, too
  have hone : Balanced [Event.acquire (GlObject.display ans.display),
      .release (.display ans.display)] :=
    balanced_of_perm [_] [_] (List.nodup_singleton _) (.refl _)
  have htwo (c : ℕ) : Balanced [Event.acquire (GlObject.display ans.display),
      .acquire (.context c), .release (.context c), .release (.display ans.display)] :=
    balanced_of_perm [_, _] [_, _] (by simp) (.swap ..)
  have hthree (c w : ℕ) : Balanced [Event.acquire (GlObject.display ans.display),
      .acquire (.context c), .acquire (.surface w), .release (.surface w),
      .release (.context c), .release (.display ans.display)] :=
    balanced_of_perm [_, _, _] [_, _, _] (by simp) (List.reverse_perm [_, _, _])
  by_cases hb : ans.bind_api = false
  · simpa [hb, hd, destroy, eglTerminate, deleted] using hone
  by_cases hc : ans.config_found = false
  · simpa [hb, hc, hd, destroy, eglTerminate, deleted] using hone
  by_cases hx : ans.create_context = 0
  · simpa [hb, hc, hx, hd, destroy, eglTerminate, deleted] using hone
  by_cases hs : ans.create_window_surface = 0
  · simpa [hb, hc, hx, hs, hd, destroy, eglTerminate, deleted] using htwo _
  by_cases hm : ans.make_current = false
  · simpa [hb, hc, hx, hs, hm, hd, destroy, eglTerminate, deleted] using hthree _ _
  by_cases hp : ans.entry_points = false
  · simpa [hb, hc, hx, hs, hm, hp, hd, destroy, eglTerminate, deleted] using hthree _ _
  · simp [hb, hc, hx, hs, hm, hp]

/-! ## QuadRenderer -/

/-- An object that is created and released again. -/
theorem balanced_created_deleted (object : ℕ → GlObject) (handle : ℕ) :
    Balanced (created object handle ++ deleted object handle) := by
  by_cases h : handle = 0
  · simp [created, deleted, h, Balanced.nil]
  · simp only [created, deleted, h, if_false]
    exact balanced_of_perm [_] [_] (List.nodup_singleton _) (.refl _)

/-- A shader that compiles exists. -/
theorem ShaderAnswers.name_ne_zero {ans : ShaderAnswers} (h : ans.ok = true) :
    ans.name ≠ 0 := by
  simp only [ok, Bool.and_eq_true, decide_eq_true_eq] at h
  exact h.1

/-- A program that links exists. -/
theorem RendererAnswers.program_ne_zero {ans : RendererAnswers} (h : ans.linked = true) :
    ans.program ≠ 0 := by
  simp only [linked, Bool.and_eq_true, decide_eq_true_eq] at h
  exact h.1

/-- The events of a fragment shader that fails while the vertex shader exists. -/
theorem RendererAnswers.shaders_balanced (ans : RendererAnswers) (hv : ans.vs.ok = true) :
    Balanced (created .shader ans.vs.name ++
      (created .shader ans.fs.name ++ deleted .shader ans.fs.name) ++
      deleted .shader ans.vs.name) := by
  have hvs := ShaderAnswers.name_ne_zero hv
  have hne := ans.distinct hv
  by_cases hfs : ans.fs.name = 0
  · simpa [created, deleted, hfs, hvs] using balanced_created_deleted .shader ans.vs.name
  · simp only [created, deleted, hvs, hfs, if_false]
    exact balanced_of_perm [_, _] [_, _] (by simp [Ne.symm hne]) (.swap ..)

/-- The events of a program that does not link: both shaders are deleted with it. -/
theorem RendererAnswers.program_balanced (ans : RendererAnswers) (hv : ans.vs.ok = true)
    (hf : ans.fs.ok = true) :
    Balanced (created .shader ans.vs.name ++ created .shader ans.fs.name ++
      created .program ans.program ++ deleted .shader ans.vs.name ++
      deleted .shader ans.fs.name ++ deleted .program ans.program) := by
  have hvs := ShaderAnswers.name_ne_zero hv
  have hfs := ShaderAnswers.name_ne_zero hf
  have hne := ans.distinct hv
  by_cases hp : ans.program = 0
  · simp only [created, deleted, hvs, hfs, hp, if_true, if_false]
    exact balanced_of_perm [_, _] [_, _] (by simp [Ne.symm hne]) (.refl _)
  · simp only [created, deleted, hvs, hfs, hp, if_false]
    exact balanced_of_perm [_, _, _] [_, _, _] (by simp [Ne.symm hne]) (.refl _)

/-- **The Rust `link_program` forgets the vertex shader** when the fragment shader does
not compile, and nothing else. -/
theorem QuadRenderer.releases_iff (drm_fourcc : UInt32) (ans : RendererAnswers) :
    (Bringup.renderer .rust drm_fourcc ans).ReleasesOnFailure ↔
      (Bringup.renderer .rust drm_fourcc ans).Clean := by
  simp only [Bringup.ReleasesOnFailure, Bringup.failure, Bringup.Clean, QuadRenderer.init,
    link_program, compile_shader]
  cases hv : ans.vs.ok with
  | false => simpa [hv] using balanced_created_deleted .shader ans.vs.name
  | true =>
      have hvs := ShaderAnswers.name_ne_zero hv
      cases hf : ans.fs.ok with
      | false =>
          simp only [if_true, Bool.true_eq_false, if_false, Option.some.injEq, forall_eq',
            Bool.false_eq_true, imp_false, not_true_eq_false, iff_false]
          intro h
          have hacq : Event.acquire (GlObject.shader ans.vs.name) ∈ created .shader ans.vs.name ++
              (created .shader ans.fs.name ++ deleted .shader ans.fs.name) := by
            simp [created, hvs]
          have hrel := h.released hacq
          -- the one shader released is the other one
          have hne := ans.distinct hv
          by_cases hfs : ans.fs.name = 0
          · simp [created, deleted, hvs, hfs] at hrel
          · simp only [created, deleted, hvs, hfs, if_false, List.mem_append, List.mem_singleton,
              reduceCtorEq, Event.release.injEq, GlObject.shader.injEq, false_or] at hrel
            exact hne hrel.symm
      | true =>
          have hlink := ans.program_balanced hv hf
          cases hl : ans.linked with
          | false => simpa [hl] using hlink
          | true => simp

/-- **The C++ `link_program` deletes what it made**, at each of its failing exits. -/
theorem Cpp.link_program_failed {ans : RendererAnswers} (h : (Cpp.link_program ans).1 = 0) :
    Balanced (Cpp.link_program ans).2 := by
  have hvsd := balanced_created_deleted .shader ans.vs.name
  have hfsd := balanced_created_deleted .shader ans.fs.name
  rcases hv : ans.vs.ok with _ | _
  · have hboth := hvsd.append hfsd
    rcases hf : ans.fs.ok with _ | _
    · simpa [link_program, compile, hv, hf, deleted] using hboth
    · have hfs := ShaderAnswers.name_ne_zero hf
      simpa [link_program, compile, hv, hf, created, deleted, hfs] using hboth
  · have hvs := ShaderAnswers.name_ne_zero hv
    rcases hf : ans.fs.ok with _ | _
    · have hshaders := ans.shaders_balanced hv
      simpa [link_program, compile, hv, hf, deleted, hvs] using hshaders
    · have hfs := ShaderAnswers.name_ne_zero hf
      have hprogram := ans.program_balanced hv hf
      rcases hl : ans.linked with _ | _
      · simpa [link_program, compile, hv, hf, hl, hvs, hfs] using hprogram
      · simp [link_program, compile, hv, hf, hl, hvs, hfs,
          RendererAnswers.program_ne_zero hl] at h

/-- A C++ renderer whose `init` failed has stored nothing, and lost nothing. -/
theorem Cpp.QuadRenderer.releasesOnFailure (drm_fourcc : UInt32) (ans : RendererAnswers) :
    (Bringup.renderer .cpp drm_fourcc ans).ReleasesOnFailure := by
  simp only [Bringup.ReleasesOnFailure, Bringup.failure, Cpp.QuadRenderer.init]
  by_cases h : (Cpp.link_program ans).1 = 0
  · have hbalanced := Cpp.link_program_failed h
    simpa [h, destroy, deleted] using hbalanced
  · simp [h]

/-! ## When nothing is lost -/

/-- **A failed initialisation releases everything it created** in C++; in Rust exactly if
the context fails before a display is initialised or comes past `eglMakeCurrent`, behind which
nothing fails, and the renderer's fragment shader does not fail behind a vertex shader. -/
theorem Bringup.releasesOnFailure_iff (b : Bringup) : b.ReleasesOnFailure ↔ b.Clean := by
  cases b with
  | context L ans =>
      cases L with
      | rust => exact EglContext.releases_iff ans
      | cpp => exact iff_of_true (Cpp.EglContext.releasesOnFailure ans) trivial
  | renderer L drm_fourcc ans =>
      cases L with
      | rust => exact QuadRenderer.releases_iff drm_fourcc ans
      | cpp => exact iff_of_true (Cpp.QuadRenderer.releasesOnFailure drm_fourcc ans) trivial

/-- Everything succeeds up to `eglCreateWindowSurface`, which fails. -/
def noSurface : ContextAnswers where
  client_exts := none
  get_platform_display := none
  get_display := 1
  initialized := true
  bind_api := true
  choose_config := some 1
  create_context := 2
  create_window_surface := 0
  make_current := true
  exts := some ""
  create_image := true
  destroy_image := true
  gl_image_target := true
  gl_renderer := some ""

/-- The vertex shader compiles, and the fragment shader does not. -/
def badFragmentShader : RendererAnswers where
  vs := ⟨1, true⟩
  fs := ⟨2, false⟩
  program := 3
  link_status := true
  vbo := 4
  texture := 5
  distinct := by decide

/-- In Rust, a failing surface leaves a display initialised and a context created, and a
failing fragment shader leaves the vertex shader. -/
theorem Bringup.not_releasesOnFailure :
    ¬ (Bringup.context .rust noSurface).ReleasesOnFailure ∧
    ¬ (Bringup.renderer .rust DRM_FORMAT_YUYV badFragmentShader).ReleasesOnFailure := by
  constructor
  · intro h
    have hbalanced := h [.acquire (.display 1), .acquire (.context 2)] (by decide)
    exact absurd (hbalanced.released List.mem_cons_self) (by decide)
  · intro h
    have hbalanced := h [.acquire (.shader 1), .acquire (.shader 2), .release (.shader 2)]
      (by decide)
    exact absurd (hbalanced.released List.mem_cons_self) (by decide)

end DmabufPipeline
