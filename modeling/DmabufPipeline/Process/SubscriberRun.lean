import DmabufPipeline.Egl.Init
import DmabufPipeline.Process.PublisherMmap
import DmabufPipeline.Wire.Installed
import DmabufPipeline.Wire.Listen

/-!
# Whole runs of the two subscribers

`main` of `subscriber/src/main.rs` and of `subscriber.cpp`, from `connect_to_socket` to the
last drop or destructor, with everything that it acquires: descriptors, the window, EGL and
GL objects, and the image of each frame. Every call may fail, and the peer may send anything.
A local of `main` that owns something is a scope, which ends with its drop.

What is used must be there: an image is made of a descriptor that is still the one received
at that index, drawn while texture, buffer and program exist, and destroyed on the display
that it was made on; GL names are used under a context, a surface lives within its window.

The window counts as one object; what happens inside it is the subject of the Wayland
modules. The arguments, the prints and the frame-rate log are left out.

## Main definitions

* `Resource`, `SubCall` — what a subscriber holds, and its calls.
* `SubscriberRun.main` — the programs.
* `SubscriberRun.leaked` — what a run leaves behind.
* `SubscriberRun.leaves_leaked` — it leaves that and nothing else.
-/

namespace DmabufPipeline

open Handles WordBytes

/-! ## Calls -/

/-- What a subscriber holds. -/
inductive Resource
  | fd (n : Fd)
  | window
  | gl (o : GlObject)
  | image (handle : ℕ)
  deriving DecidableEq, Repr

/-- What it takes it for. -/
inductive Held
  | socket
  /-- The descriptor that `recv_handshake` returned at a position. -/
  | buffer (position : ℕ)
  /-- A descriptor that the kernel installed and `recv_handshake` did not take. -/
  | stray
  | window
  | graphics
  deriving DecidableEq, Repr

/-- A call of the subscriber. -/
inductive SubCall
  | socket (fd : Fd)
  | close (fd : Fd)
  | recvmsg (sock : Fd) (strays taken : List Fd)
  | createWindow (ok : Bool)
  | destroyWindow
  /-- A call that creates or releases an object, with the display and the context that are
  current. -/
  | gl (display context : ℕ) (e : Ledger.Event GlObject)
  | recv_idx (sock : Fd)
  /-- `eglCreateImageKHR` on entry `idx`; `0` is EGL_NO_IMAGE_KHR. -/
  | eglCreateImage (display : ℕ) (fd : Fd) (idx image : ℕ)
  | draw (context image : ℕ) (renderer : QuadRenderer)
  | swap_buffers (display surface : ℕ)
  | destroy_image (display image : ℕ)
  | send_ack (sock : Fd) (ok : Bool)
  | dispatch_pending (ok : Bool)
  deriving DecidableEq, Repr

/-- A handle, unless it is that of nothing. -/
def handleOf (object : ℕ → GlObject) (handle : ℕ) : List (Resource × Held) :=
  if handle = 0 then [] else [(.gl (object handle), .graphics)]

@[simp] theorem handleOf_zero (object : ℕ → GlObject) : handleOf object 0 = [] := rfl

/-- Using what a list holds. -/
def usesOf (l : List (Resource × Held)) : List (Op Resource Held) := l.map fun p => .uses p.1 p.2

/-- What an EGL or GL object lives in. -/
def GlObject.within (display context : ℕ) : GlObject → List (Resource × Held)
  | .display _ => [(.window, .window)]
  | .context _ => [(.gl (.display display), .graphics)]
  | .surface _ => [(.gl (.display display), .graphics), (.window, .window)]
  | .shader _ | .program _ | .buffer _ | .texture _ => [(.gl (.context context), .graphics)]

/-- Descriptors at consecutive positions. -/
def received (fds : List Fd) : List (Resource × Held) :=
  fds.zipIdx.map fun p => (.fd p.1, .buffer p.2)

/-- Descriptors that nobody took. -/
def strayFds (fds : List Fd) : List (Resource × Held) := fds.map fun fd => (.fd fd, .stray)

/-- What a call does to what is held. -/
def SubCall.ops : SubCall → List (Op Resource Held)
  | .socket fd => [.opens (.fd fd) .socket]
  | .close fd => [.closes (.fd fd)]
  | .recvmsg sock strays taken =>
      .uses (.fd sock) .socket ::
        (strayFds strays ++ received taken).map fun p => .opens p.1 p.2
  | .createWindow ok => if ok then [.opens .window .window] else []
  | .destroyWindow => [.closes .window]
  | .gl display context (.acquire o) =>
      usesOf (o.within display context) ++ [.opens (.gl o) .graphics]
  | .gl display context (.release o) => usesOf (o.within display context) ++ [.closes (.gl o)]
  | .recv_idx sock | .send_ack sock _ => [.uses (.fd sock) .socket]
  | .eglCreateImage display fd idx image =>
      [.uses (.gl (.display display)) .graphics, .uses (.fd fd) (.buffer idx)] ++
        if image = 0 then [] else [.opens (.image image) .graphics]
  | .draw context image renderer =>
      usesOf ([(.gl (.context context), .graphics), (.image image, .graphics)] ++
        handleOf .texture renderer.texture ++ handleOf .buffer renderer.vbo ++
        handleOf .program renderer.program)
  | .swap_buffers display surface =>
      [.uses (.gl (.display display)) .graphics, .uses (.gl (.surface surface)) .graphics]
  | .destroy_image display image =>
      [.uses (.gl (.display display)) .graphics, .closes (.image image)]
  | .dispatch_pending _ => [.uses .window .window]

/-- The operations of a log. -/
def heldOps (log : List SubCall) : List (Op Resource Held) := log.flatMap SubCall.ops

/-- The calls move what is held. -/
abbrev HeldMoves (a : List (Resource × Held)) (log : List SubCall) (b : List (Resource × Held)) :
    Prop := Moves a (heldOps log) b

@[simp] theorem heldOps_append (l m : List SubCall) : heldOps (l ++ m) = heldOps l ++ heldOps m :=
  List.flatMap_append

/-- What the receiver did not take of a message. -/
def Lang.strays {φ : Type} (L : Lang) (m : RecvMsg φ) : List φ :=
  m.allFds.take (m.allFds.length - (L.taken m).length)

/-- The receivers take from the end. -/
theorem Lang.strays_append_taken {φ : Type} (L : Lang) (m : RecvMsg φ) :
    L.strays m ++ L.taken m = m.allFds := by
  have hsuffix : L.taken m <:+ m.allFds := by
    cases L with
    | rust =>
        rw [taken]
        split
        · exact List.nil_suffix
        · exact List.suffix_rfl
    | cpp =>
        rw [taken]
        split
        · exact List.nil_suffix
        · exact m.lastFds_suffix
  obtain ⟨l, hl⟩ := hsuffix
  rw [strays, ← hl]
  simp

namespace HeldMoves

variable {a a' b c : List (Resource × Held)} {l m : List SubCall}

/-- One stretch of calls after another. -/
theorem append (hl : HeldMoves a l b) (hm : HeldMoves b m c) : HeldMoves a (l ++ m) c := by
  rw [HeldMoves, heldOps_append]
  exact Moves.append hl hm

/-- One call first. -/
theorem step {call : SubCall} (hcall : Moves a call.ops b) (hm : HeldMoves b m c) :
    HeldMoves a (call :: m) c := Moves.append hcall hm

/-- A call that only uses. -/
theorem uses {l : List (Resource × Held)} (hl : l ⊆ a) : Moves a (usesOf l) a := .usesAll hl

end HeldMoves

/-! ## The ends of the display objects -/

/-- `Drop for QuadRenderer`. -/
def QuadRenderer.drop (self : QuadRenderer) : GlLog :=
  deleted .texture self.texture ++ deleted .buffer self.vbo ++ deleted .program self.program

/-- `Drop for EglContext`. -/
def EglContext.drop (self : EglContext) : GlLog :=
  deleted .surface self.surface ++ deleted .context self.context ++
    [.release (.display self.display)]

/-- What `EglContext::destroy` adds to a log. -/
def Cpp.EglContext.closing (self : EglContext) (log : GlLog) : GlLog :=
  (Cpp.EglContext.destroy self log).drop log.length

/-- What `QuadRenderer::destroy` adds to a log. -/
def Cpp.QuadRenderer.closing (self : QuadRenderer) : GlLog := Cpp.QuadRenderer.destroy self []

/-! ## Objects of EGL and GL -/

/-- EGL and GL calls under a display and a context. -/
def glCalls (display context : ℕ) (log : GlLog) : List SubCall := log.map (.gl display context)

section Objects

variable {display context : ℕ} {a : List (Resource × Held)}

@[simp] theorem glCalls_append (l m : GlLog) :
    glCalls display context (l ++ m) = glCalls display context l ++ glCalls display context m :=
  List.map_append

/-- An object comes after what it lives in. -/
theorem acquire_moves {o : GlObject} (ho : o.within display context ⊆ a) :
    Moves a (SubCall.gl display context (.acquire o)).ops ((.gl o, .graphics) :: a) := by
  have hopen := (Moves.opens (Resource.gl o) Held.graphics).frame a
  exact (HeldMoves.uses ho).append hopen

/-- An object goes before what it lives in. -/
theorem release_moves {o : GlObject} (ho : o.within display context ⊆ a) :
    Moves ((.gl o, .graphics) :: a) (SubCall.gl display context (.release o)).ops a := by
  have hclose := (Moves.closes (Resource.gl o) Held.graphics).frame a
  exact (HeldMoves.uses (List.subset_cons_of_subset _ ho)).append hclose

variable {object : ℕ → GlObject} {handle : ℕ}

theorem created_moves (ho : (object handle).within display context ⊆ a) :
    HeldMoves a (glCalls display context (created object handle))
      (handleOf object handle ++ a) := by
  by_cases h : handle = 0
  · simp only [created, handleOf, h, if_true]
    exact .nil a
  · simp only [created, handleOf, h, if_false]
    exact .step (acquire_moves ho) (.nil _)

theorem deleted_moves (ho : (object handle).within display context ⊆ a) :
    HeldMoves (handleOf object handle ++ a) (glCalls display context (deleted object handle))
      a := by
  by_cases h : handle = 0
  · simp only [deleted, handleOf, h, if_true]
    exact .nil a
  · simp only [deleted, handleOf, h, if_false]
    exact .step (release_moves ho) (.nil _)

end Objects

/-! ## The renderer -/

/-- The vertex shader that the Rust `link_program` forgets. -/
def lostShader (ans : RendererAnswers) : List (Resource × Held) :=
  if ans.vs.ok && !ans.fs.ok then handleOf .shader ans.vs.name else []

/-- What the Rust `link_program` leaves. -/
def programLeft (ans : RendererAnswers) : Except InitError ℕ → List (Resource × Held)
  | .ok program => handleOf .program program
  | .error _ => lostShader ans

/-- What a renderer holds. -/
def QuadRenderer.holds (self : QuadRenderer) : List (Resource × Held) :=
  handleOf .texture self.texture ++ (handleOf .buffer self.vbo ++ handleOf .program self.program)

/-- What the Rust `QuadRenderer::init` leaves. -/
def rendererLeft (ans : RendererAnswers) : InitResult QuadRenderer → List (Resource × Held)
  | .ok renderer => renderer.holds
  | .failed _ => lostShader ans
  | .undefined => []

section Renderer

variable (display : ℕ) {context : ℕ} {a : List (Resource × Held)}
  (hctx : [(Resource.gl (.context context), Held.graphics)] ⊆ a)
include hctx

/-- A shader that does not compile is deleted. -/
theorem compile_shader_moves (ans : ShaderAnswers) :
    HeldMoves a (glCalls display context (compile_shader ans).2)
      ((if ans.ok then handleOf .shader ans.name else []) ++ a) := by
  have hcreated : HeldMoves a (glCalls display context (created .shader ans.name)) _ :=
    created_moves hctx
  have hdeleted : HeldMoves _ (glCalls display context (deleted .shader ans.name)) a :=
    deleted_moves hctx
  cases hok : ans.ok with
  | true =>
      simp only [compile_shader, hok, Bool.true_eq_false, if_false, if_true]
      exact hcreated
  | false =>
      simp only [compile_shader, hok, Bool.false_eq_true, if_false, if_true, glCalls_append]
      exact hcreated.append hdeleted

/-- Both shaders are deleted behind the program. -/
theorem program_moves (ans : RendererAnswers) :
    HeldMoves (handleOf .shader ans.fs.name ++ (handleOf .shader ans.vs.name ++ a))
      (glCalls display context (created .program ans.program ++ deleted .shader ans.vs.name ++
        deleted .shader ans.fs.name))
      (handleOf .program ans.program ++ a) := by
  let V := handleOf .shader ans.vs.name
  let F := handleOf .shader ans.fs.name
  let P := handleOf .program ans.program
  have hin (l : List (Resource × Held)) :
      [(Resource.gl (.context context), Held.graphics)] ⊆ l ++ a :=
    List.subset_append_of_subset_right l hctx
  have hcreated : HeldMoves (F ++ (V ++ a))
      (glCalls display context (created .program ans.program)) (P ++ (F ++ (V ++ a))) :=
    created_moves (List.subset_append_of_subset_right F (hin V))
  have hvs : HeldMoves (V ++ (P ++ (F ++ a)))
      (glCalls display context (deleted .shader ans.vs.name)) (P ++ (F ++ a)) :=
    deleted_moves (List.subset_append_of_subset_right P (hin F))
  have hfs : HeldMoves (F ++ (P ++ a)) (glCalls display context (deleted .shader ans.fs.name))
      (P ++ a) := deleted_moves (hin P)
  have hswap : (P ++ (F ++ (V ++ a))).Perm (V ++ (P ++ (F ++ a))) :=
    ((List.perm_append_comm_assoc F V a).append_left P).trans (List.perm_append_comm_assoc P V _)
  rw [glCalls_append, glCalls_append]
  exact (HeldMoves.append hcreated (hvs.perm hswap (List.perm_append_comm_assoc P F a))).append hfs

/-- **The Rust `link_program`** leaves the program, or the shader that it forgets. -/
theorem link_program_moves (ans : RendererAnswers) :
    HeldMoves a (glCalls display context (link_program ans).2)
      (programLeft ans (link_program ans).1 ++ a) := by
  have hvs := compile_shader_moves display hctx ans.vs
  have hfs := compile_shader_moves display
    (List.subset_append_of_subset_right (handleOf .shader ans.vs.name) hctx) ans.fs
  have hdeleted : HeldMoves _ (glCalls display context (deleted .program ans.program)) a :=
    deleted_moves hctx
  cases hv : ans.vs.ok with
  | false =>
      simp only [compile_shader, hv, if_true, if_false, Bool.false_eq_true] at hvs
      simp only [link_program, compile_shader, hv, if_true, programLeft, lostShader, Bool.false_and,
        Bool.false_eq_true, if_false]
      exact hvs
  | true =>
      simp only [compile_shader, hv, if_true, Bool.true_eq_false, if_false] at hvs
      cases hf : ans.fs.ok with
      | false =>
          simp only [compile_shader, hf, if_true, if_false, Bool.false_eq_true] at hfs
          simp only [link_program, compile_shader, hv, hf, if_true, Bool.true_eq_false, if_false,
            programLeft, lostShader, Bool.not_false, Bool.true_and, glCalls_append]
          rw [glCalls_append] at hfs
          exact hvs.append hfs
      | true =>
          simp only [compile_shader, hf, if_true, Bool.true_eq_false, if_false] at hfs
          have hprogram := (hvs.append hfs).append (program_moves display hctx ans)
          simp only [glCalls_append] at hprogram
          cases hl : ans.linked with
          | false =>
              simp only [link_program, compile_shader, hv, hf, hl, if_true, Bool.true_eq_false,
                if_false, programLeft, lostShader, Bool.not_true, Bool.and_false,
                Bool.false_eq_true,
                glCalls_append]
              have hall := HeldMoves.append hprogram hdeleted
              simpa only [List.append_assoc, List.nil_append] using hall
          | true =>
              simp only [link_program, compile_shader, hv, hf, hl, Bool.true_eq_false, if_false,
                programLeft, glCalls_append]
              simpa only [List.append_assoc] using hprogram

/-- **The C++ `link_program`** leaves the program, or nothing. -/
theorem Cpp.link_program_moves (ans : RendererAnswers) :
    HeldMoves a (glCalls display context (Cpp.link_program ans).2)
      (handleOf .program (Cpp.link_program ans).1 ++ a) := by
  let V := handleOf .shader ans.vs.name
  let F := handleOf .shader ans.fs.name
  have hctxV : [(Resource.gl (.context context), Held.graphics)] ⊆ V ++ a :=
    List.subset_append_of_subset_right V hctx
  have hvs := compile_shader_moves display hctx ans.vs
  -- Deleting the shader 0 does nothing.
  have hnone (l : List (Resource × Held)) :
      HeldMoves l (glCalls display context (deleted .shader 0)) l := .nil l
  have hdelete (object : ℕ → GlObject) (handle : ℕ)
      (ho : (object handle).within display context ⊆ a) :
      HeldMoves (handleOf object handle ++ a) (glCalls display context (deleted object handle)) a :=
    deleted_moves ho
  cases hv : ans.vs.ok with
  | false =>
      have hfs := compile_shader_moves display hctx ans.fs
      simp only [compile_shader, hv, if_true, if_false, Bool.false_eq_true, List.nil_append] at hvs
      cases hf : ans.fs.ok with
      | false =>
          simp only [compile_shader, hf, if_true, if_false, Bool.false_eq_true,
            List.nil_append] at hfs
          have hall := ((HeldMoves.append hvs hfs).append (hnone a)).append (hnone a)
          simp only [Cpp.link_program, Cpp.compile, hv, hf, if_true, Bool.true_or, decide_true]
          simpa only [glCalls_append, handleOf_zero, List.nil_append] using hall
      | true =>
          simp only [compile_shader, hf, if_true, Bool.true_eq_false, if_false] at hfs
          have hall := ((HeldMoves.append hvs hfs).append (hnone _)).append
            (hdelete .shader ans.fs.name hctx)
          simp only [Cpp.link_program, Cpp.compile, hv, hf, if_true, Bool.true_or, decide_true,
            Bool.true_eq_false, if_false]
          simpa only [glCalls_append, handleOf_zero, List.nil_append] using hall
  | true =>
      have hvs0 := ShaderAnswers.name_ne_zero hv
      have hfs := compile_shader_moves display hctxV ans.fs
      simp only [compile_shader, hv, if_true, Bool.true_eq_false, if_false] at hvs
      cases hf : ans.fs.ok with
      | false =>
          simp only [compile_shader, hf, if_true, if_false, Bool.false_eq_true,
            List.nil_append] at hfs
          have hall := ((HeldMoves.append hvs hfs).append (hdelete .shader ans.vs.name hctx)).append
            (hnone a)
          simp only [Cpp.link_program, Cpp.compile, hv, hf, if_true, Bool.or_true, decide_true,
            Bool.true_eq_false, if_false]
          simpa only [glCalls_append, handleOf_zero, List.nil_append] using hall
      | true =>
          have hfs0 := ShaderAnswers.name_ne_zero hf
          simp only [compile_shader, hf, if_true, Bool.true_eq_false, if_false] at hfs
          have hprogram := (HeldMoves.append hvs hfs).append
            (program_moves display hctx ans)
          simp only [glCalls_append] at hprogram
          cases hl : ans.linked with
          | false =>
              have hall := HeldMoves.append hprogram (hdelete .program ans.program hctx)
              simp only [Cpp.link_program, Cpp.compile, hv, hf, hl, hvs0, hfs0, if_true,
                Bool.true_eq_false, if_false, decide_false, Bool.or_self, Bool.false_eq_true,
                glCalls_append]
              simpa only [List.append_assoc, handleOf_zero, List.nil_append] using hall
          | true =>
              simp only [Cpp.link_program, Cpp.compile, hv, hf, hl, hvs0, hfs0,
                Bool.true_eq_false, if_false, decide_false, Bool.or_self, Bool.false_eq_true,
                glCalls_append]
              simpa only [List.append_assoc] using hprogram

/-- The buffer and the texture come on top of the program. -/
theorem names_moves (program vbo texture : ℕ) :
    HeldMoves (handleOf .program program ++ a)
      (glCalls display context (created .buffer vbo ++ created .texture texture))
      (handleOf .texture texture ++
        (handleOf .buffer vbo ++ (handleOf .program program ++ a))) := by
  have hin (l m : List (Resource × Held)) :
      [(Resource.gl (.context context), Held.graphics)] ⊆ l ++ (m ++ a) :=
    List.subset_append_of_subset_right l (List.subset_append_of_subset_right m hctx)
  have hbuffer : HeldMoves (handleOf .program program ++ a)
      (glCalls display context (created .buffer vbo)) _ := created_moves (hin [] _)
  have htexture : HeldMoves (handleOf .buffer vbo ++ (handleOf .program program ++ a))
      (glCalls display context (created .texture texture)) _ :=
    created_moves (List.subset_append_of_subset_right _ (hin [] _))
  rw [glCalls_append]
  exact HeldMoves.append hbuffer htexture

/-- **The Rust `QuadRenderer::init`** leaves the renderer, or the shader that was forgotten. -/
theorem QuadRenderer.init_moves (drm_fourcc : UInt32) (ans : RendererAnswers) :
    HeldMoves a (glCalls display context (QuadRenderer.init drm_fourcc ans).2)
      (rendererLeft ans (QuadRenderer.init drm_fourcc ans).1 ++ a) := by
  have hlink := link_program_moves display hctx ans
  rw [QuadRenderer.init]
  generalize link_program ans = linked at hlink ⊢
  obtain ⟨result, log⟩ := linked
  cases result with
  | error e => exact hlink
  | ok program =>
      have hnames := names_moves display hctx program ans.vbo ans.texture
      have hall := HeldMoves.append hlink hnames
      simpa only [glCalls_append, List.append_assoc, rendererLeft, QuadRenderer.holds] using hall

/-- **The C++ `QuadRenderer::init`** leaves what the object holds, failed or not. -/
theorem Cpp.QuadRenderer.init_moves (drm_fourcc : UInt32) (ans : RendererAnswers) :
    HeldMoves a (glCalls display context (Cpp.QuadRenderer.init drm_fourcc ans).2.2)
      ((Cpp.QuadRenderer.init drm_fourcc ans).1.holds ++ a) := by
  have hlink := Cpp.link_program_moves display hctx ans
  rw [Cpp.QuadRenderer.init]
  generalize Cpp.link_program ans = linked at hlink ⊢
  obtain ⟨program, log⟩ := linked
  by_cases h0 : program = 0
  · simp only [h0, if_true]
    rw [h0] at hlink
    exact hlink
  · have hnames := names_moves display hctx program ans.vbo ans.texture
    have hall := HeldMoves.append hlink hnames
    simp only [h0, if_false]
    simpa only [glCalls_append, List.append_assoc, QuadRenderer.holds] using hall

/-- Dropping a renderer. -/
theorem QuadRenderer.drop_moves (self : QuadRenderer) :
    HeldMoves (self.holds ++ a) (glCalls display context self.drop) a := by
  have hin (l : List (Resource × Held)) :
      [(Resource.gl (.context context), Held.graphics)] ⊆ l ++ a :=
    List.subset_append_of_subset_right l hctx
  have htexture : HeldMoves _ (glCalls display context (deleted .texture self.texture))
      (handleOf .buffer self.vbo ++ (handleOf .program self.program ++ a)) :=
    deleted_moves (List.subset_append_of_subset_right _ (hin _))
  have hbuffer : HeldMoves _ (glCalls display context (deleted .buffer self.vbo))
      (handleOf .program self.program ++ a) := deleted_moves (hin _)
  have hprogram : HeldMoves _ (glCalls display context (deleted .program self.program)) a :=
    deleted_moves hctx
  rw [holds, drop, glCalls_append, glCalls_append, List.append_assoc, List.append_assoc]
  exact (HeldMoves.append htexture hbuffer).append hprogram

end Renderer

/-- The C++ destructor does what the Rust `drop` does. -/
theorem Cpp.QuadRenderer.closing_eq (self : QuadRenderer) :
    Cpp.QuadRenderer.closing self = self.drop := rfl

/-! ## The context -/

/-- How far `EglContext::init` got, by what it created: each object is there. -/
inductive ContextLog (ans : ContextAnswers) : GlLog → Prop
  | nothing : ContextLog ans []
  | display : ContextLog ans [.acquire (.display ans.display)]
  | context : ContextLog ans
      [.acquire (.display ans.display), .acquire (.context ans.create_context)]
  | surface : ContextLog ans
      [.acquire (.display ans.display), .acquire (.context ans.create_context),
        .acquire (.surface ans.create_window_surface)]

/-- What a log has created, the last first. -/
def acquired (log : GlLog) : List (Resource × Held) :=
  (log.filterMap fun
    | .acquire o => some (.gl o, .graphics)
    | .release _ => none).reverse

/-- Releasing what a log has created, the last first. -/
def undone (log : GlLog) : GlLog :=
  (log.filterMap fun
    | .acquire o => some (.release o)
    | .release _ => none).reverse

section Context

variable {ans : ContextAnswers} {a : List (Resource × Held)} {log : GlLog}

/-- The display stands in the window, the context and the surface on the display. -/
theorem ContextLog.moves (h : ContextLog ans log) (hwin : [(.window, .window)] ⊆ a) :
    HeldMoves a (glCalls ans.display ans.create_context log) (acquired log ++ a) := by
  have hd : HeldMoves a [.gl ans.display ans.create_context (.acquire (.display ans.display))] _ :=
    .step (acquire_moves hwin) (.nil _)
  have hc : HeldMoves _
      [.gl ans.display ans.create_context (.acquire (.context ans.create_context))]
      _ := .step (acquire_moves (List.cons_subset_cons _ (List.nil_subset a))) (.nil _)
  have hs : HeldMoves _
      [.gl ans.display ans.create_context (.acquire (.surface ans.create_window_surface))] _ :=
    .step (acquire_moves (List.subset_cons_of_subset (.gl (.context ans.create_context), .graphics)
      (List.cons_subset_cons (.gl (.display ans.display), .graphics) hwin))) (.nil _)
  cases h with
  | nothing => exact .nil a
  | display => exact hd
  | context => exact hd.append hc
  | surface => exact (hd.append hc).append hs

/-- Undoing it in reverse. -/
theorem ContextLog.closes (h : ContextLog ans log) (hwin : [(.window, .window)] ⊆ a) :
    HeldMoves (acquired log ++ a) (glCalls ans.display ans.create_context (undone log)) a := by
  have hd : HeldMoves _ [.gl ans.display ans.create_context (.release (.display ans.display))] a :=
    .step (release_moves hwin) (.nil _)
  have hc : HeldMoves _
      [.gl ans.display ans.create_context (.release (.context ans.create_context))]
      _ := .step (release_moves (List.cons_subset_cons _ (List.nil_subset a))) (.nil _)
  have hs : HeldMoves _
      [.gl ans.display ans.create_context (.release (.surface ans.create_window_surface))] _ :=
    .step (release_moves (List.subset_cons_of_subset (.gl (.context ans.create_context), .graphics)
      (List.cons_subset_cons (.gl (.display ans.display), .graphics) hwin))) (.nil _)
  cases h with
  | nothing => exact .nil a
  | display => exact hd
  | context => exact hc.append hd
  | surface => exact (hs.append hc).append hd

end Context

/-- What `init` has created when it succeeds. -/
def ContextAnswers.full (ans : ContextAnswers) : GlLog :=
  [.acquire (.display ans.display), .acquire (.context ans.create_context),
    .acquire (.surface ans.create_window_surface)]

/-- A context that stands on all three objects. -/
structure EglContext.Complete (ans : ContextAnswers) (egl : EglContext) : Prop where
  display : egl.display = ans.display
  context : egl.context = ans.create_context
  surface : egl.surface = ans.create_window_surface

/-- How the Rust `init` ends. -/
inductive ContextExit (ans : ContextAnswers) : InitResult EglContext × GlLog → Prop
  | failed (e : InitError) (log : GlLog) (h : ContextLog ans log) : ContextExit ans (.failed e, log)
  | undefined (log : GlLog) : ContextExit ans (.undefined, log)
  | ok (egl : EglContext) (h : egl.Complete ans) (hdrop : egl.drop = undone ans.full) :
      ContextExit ans (.ok egl, ans.full)

/-- How the C++ `init` ends; the destructor undoes what it did. -/
inductive Cpp.ContextExit (ans : ContextAnswers) : EglContext × Bool × GlLog → Prop
  | failed (egl : EglContext) (log : GlLog) (h : ContextLog ans log)
      (hclosing : Cpp.EglContext.closing egl log = undone log) : ContextExit ans (egl, false, log)
  | ok (egl : EglContext) (h : egl.Complete ans)
      (hclosing : Cpp.EglContext.closing egl ans.full = undone ans.full) :
      ContextExit ans (egl, true, ans.full)

theorem EglContext.init_exit (ans : ContextAnswers) : ContextExit ans (EglContext.init ans) := by
  rw [init]
  by_cases hd : ans.display = 0
  · simp only [hd, if_true]
    exact .failed _ _ .nothing
  by_cases hi : ans.initialized = false
  · simp only [hd, hi, if_true, if_false]
    exact .failed _ _ .nothing
  simp only [hd, hi, if_false]
  by_cases hb : ans.bind_api = false
  · simp only [hb, if_true]
    exact .failed _ _ .display
  by_cases hc : ans.config_found = false
  · simp only [hb, hc, if_true]
    exact .failed _ _ .display
  by_cases hx : ans.create_context = 0
  · simp only [hb, hc, hx, if_true]
    exact .failed _ _ .display
  by_cases hs : ans.create_window_surface = 0
  · simp only [hb, hc, hx, hs, if_true, if_false]
    exact .failed _ _ .context
  simp only [hb, hc, hx, hs, if_false]
  by_cases hm : ans.make_current = false
  · simp only [hm, if_true]
    exact .failed _ _ .surface
  simp only [hm]
  cases ans.exts with
  | none => exact .undefined _
  | some exts =>
      by_cases hp : ans.entry_points = false
      · simp only [hp, if_true]
        exact .undefined _
      · by_cases hr : ans.gl_renderer = none
        · simp only [hp, hr, if_true]
          exact .undefined _
        · simp only [hp, hr, if_false]
          refine .ok _ ⟨rfl, rfl, rfl⟩ ?_
          simp [drop, undone, ContextAnswers.full, deleted, hx, hs]

theorem Cpp.EglContext.init_exit (ans : ContextAnswers) :
    Cpp.ContextExit ans (Cpp.EglContext.init ans) := by
  rw [Cpp.EglContext.init]
  by_cases hd : ans.display = 0
  · simp only [hd, if_true]
    exact .failed _ _ .nothing (by simp [closing, destroy, undone])
  by_cases hi : ans.initialized = false
  · simp only [hd, hi, if_true, if_false]
    exact .failed _ _ .nothing (by simp [closing, destroy, eglTerminate, deleted, undone])
  simp only [hd, hi, if_false]
  -- the display alone, with the context, and with the surface, too
  have hone (egl : DmabufPipeline.EglContext) (hd' : egl.display = ans.display)
      (hc : egl.context = 0) (hs : egl.surface = 0) :
      Cpp.EglContext.closing egl [.acquire (.display ans.display)] =
        undone [.acquire (.display ans.display)] := by
    simp [closing, destroy, eglTerminate, deleted, undone, hd, hd', hc, hs]
  by_cases hb : ans.bind_api = false
  · simp only [hb, if_true]
    exact .failed _ _ .display (hone _ rfl rfl rfl)
  by_cases hc : ans.config_found = false
  · simp only [hb, hc, if_true]
    exact .failed _ _ .display (hone _ rfl rfl rfl)
  by_cases hx : ans.create_context = 0
  · simp only [hb, hc, hx, if_true]
    exact .failed _ _ .display (hone _ rfl rfl rfl)
  by_cases hs : ans.create_window_surface = 0
  · simp only [hb, hc, hx, hs, if_true, if_false]
    refine .failed _ _ .context ?_
    simp [closing, destroy, eglTerminate, deleted, undone, hd, hx]
  simp only [hb, hc, hx, hs, if_false]
  have hthree (egl : DmabufPipeline.EglContext) (h : egl.Complete ans) :
      Cpp.EglContext.closing egl ans.full = undone ans.full := by
    simp [closing, destroy, eglTerminate, deleted, undone, ContextAnswers.full, hd, hx, hs,
      h.display, h.context, h.surface]
  by_cases hm : ans.make_current = false
  · simp only [hm, if_true]
    exact .failed _ _ .surface (hthree _ ⟨rfl, rfl, rfl⟩)
  by_cases hp : ans.entry_points = false
  · simp only [hm, hp, if_true]
    exact .failed _ _ .surface (hthree _ ⟨rfl, rfl, rfl⟩)
  · simp only [hm, hp]
    exact .ok _ ⟨rfl, rfl, rfl⟩ (hthree _ ⟨rfl, rfl, rfl⟩)

/-- What a context has created is lost unless there is none of it. -/
theorem ContextLog.balanced_iff {ans : ContextAnswers} {log : GlLog} (h : ContextLog ans log) :
    Ledger.Balanced log ↔ acquired log = [] := by
  cases h with
  | nothing => exact iff_of_true .nil rfl
  | display | context | surface =>
      refine iff_of_false ?_ (by simp [acquired])
      exact not_balanced_display (by simp)

/-! ## The programs -/

namespace SubscriberRun

open PublisherMmap (Exit outOfBounds)

/-- The answers to one turn of the frame loop: what `recv` returned, the handle that
eglCreateImageKHR returned, and the rest. -/
structure Turn where
  recv : Option (List UInt8)
  image : ℕ
  send_ack : Bool
  dispatch_pending : Bool

/-- The answers to a whole run; the turns end when the loop test fails. -/
structure Answers where
  socket : Option Fd
  connect : Bool
  recvmsg : Option (RecvMsg Fd)
  create : Bool
  context : ContextAnswers
  renderer : RendererAnswers
  turns : List Turn

/-- What a scope leaves. -/
structure Scope where
  log : List SubCall
  exit : Exit

/-- A scope that goes on after some calls. -/
def Scope.after (log : List SubCall) (s : Scope) : Scope := { s with log := log ++ s.log }

/-- A scope that ends with some calls. -/
def Scope.ending (s : Scope) (log : List SubCall) : Scope := { s with log := s.log ++ log }

/-- `close` in order. -/
def closeFds (fds : List Fd) : List SubCall := fds.map .close

/-- A program as it is built, and the path that it is started with. -/
structure Program where
  lang : Lang
  endian : Endian
  /-- `-C overflow-checks`, which release builds leave off. -/
  overflow_checks : Bool
  socket_path : List UInt8

/-- `connect_to_socket`: the descriptor, and the calls. -/
def connect_to_socket (path : List UInt8) (ans : Answers) : Option Fd × List SubCall :=
  match ans.socket with
  | none => (none, [])
  | some fd =>
      if (unixAddr path).isNone then (none, [.socket fd, .close fd])
      else if ans.connect then (some fd, [.socket fd])
      else (none, [.socket fd, .close fd])

/-- `connect_to_socket` of `socket_utils.cpp`. -/
def Cpp.connect_to_socket (path : List UInt8) (ans : Answers) : Option Fd × List SubCall :=
  match ans.socket with
  | none => (none, [])
  | some s =>
      if (Cpp.fill_sockaddr path).isNone then (none, [.socket s, .close s])
      else if !ans.connect then (none, [.socket s, .close s])
      else (some s, [.socket s])

variable (p : Program)

/-- The frame loop with `draw_one`, on the descriptors of the session. -/
def frameLoop (sock : Fd) (hs : Handshake) (fds : List Fd) (egl : EglContext) (r : QuadRenderer) :
    List Turn → Scope
  | [] => ⟨[], .ok⟩
  | t :: ts =>
      Scope.after [.recv_idx sock] <|
        match (p.lang.recvIdx p.endian t.recv).toUsize with
        | .peerClosed | .err => ⟨[], .ok⟩
        | .idx idx =>
            match fds[idx]? with
            | none => ⟨[], outOfBounds p.lang⟩
            | some fd =>
                match p.lang.importDmabuf p.overflow_checks egl.has_modifiers (.ofNat fd)
                    hs.frameMeta with
                | none => ⟨[], .panic⟩
                | some _ =>
                    Scope.after [.eglCreateImage egl.display fd idx t.image] <|
                      if t.image = 0 then ⟨[], .ok⟩
                      else
                        Scope.after [.draw egl.context t.image r,
                            .swap_buffers egl.display egl.surface,
                            .destroy_image egl.display t.image, .send_ack sock t.send_ack] <|
                          if !t.send_ack then ⟨[], .ok⟩
                          else
                            Scope.after [.dispatch_pending t.dispatch_pending] <|
                              if !t.dispatch_pending then ⟨[], .ok⟩
                              else frameLoop sock hs fds egl r ts

/-- From `QuadRenderer::init` on: the scope of `renderer`. -/
def withRenderer (sock : Fd) (hs : Handshake) (fds : List Fd) (egl : EglContext) (ans : Answers) :
    Scope :=
  let gl := glCalls egl.display egl.context
  match p.lang with
  | .rust =>
      let (result, log) := QuadRenderer.init hs.format ans.renderer
      Scope.after (gl log) <|
        match result with
        | .ok renderer =>
            (frameLoop p sock hs fds egl renderer ans.turns).ending (gl renderer.drop)
        | .failed _ => ⟨[], .error⟩
        | .undefined => ⟨[], .undefined⟩
  | .cpp =>
      let (renderer, ok, log) := Cpp.QuadRenderer.init hs.format ans.renderer
      let body := if !ok then ⟨[], .error⟩ else frameLoop p sock hs fds egl renderer ans.turns
      Scope.after (gl log) (body.ending (gl (Cpp.QuadRenderer.closing renderer)))

/-- From `EglContext::init` on: the scope of `egl`. -/
def withContext (sock : Fd) (hs : Handshake) (fds : List Fd) (ans : Answers) : Scope :=
  let gl := glCalls ans.context.display ans.context.create_context
  match p.lang with
  | .rust =>
      let (result, log) := EglContext.init ans.context
      Scope.after (gl log) <|
        match result with
        | .ok egl => (withRenderer p sock hs fds egl ans).ending (gl egl.drop)
        | .failed _ => ⟨[], .error⟩
        | .undefined => ⟨[], .undefined⟩
  | .cpp =>
      let (egl, ok, log) := Cpp.EglContext.init ans.context
      let body := if !ok then ⟨[], .error⟩ else withRenderer p sock hs fds egl ans
      Scope.after (gl log) (body.ending (gl (Cpp.EglContext.closing egl log)))

/-- From `WaylandWindow::create` on: the scope of `win`. -/
def withWindow (sock : Fd) (hs : Handshake) (fds : List Fd) (ans : Answers) : Scope :=
  Scope.after [.createWindow ans.create] <|
    if !ans.create then ⟨[], .error⟩
    else (withContext p sock hs fds ans).ending [.destroyWindow]

/-- The descriptors that `recv_handshake` takes, of those that the kernel installed. -/
def taken (L : Lang) (r : Option (RecvMsg Fd)) : List Fd := r.elim [] L.taken

/-- The others. -/
def strays (L : Lang) (r : Option (RecvMsg Fd)) : List Fd := r.elim [] L.strays

/-- From `recv_handshake` on: the scope of `buf_fds`. -/
def withFds (sock : Fd) (ans : Answers) : Scope :=
  Scope.after [.recvmsg sock (strays p.lang ans.recvmsg) (taken p.lang ans.recvmsg)] <|
    match p.lang.recvHandshake p.endian ans.recvmsg with
    | none => ⟨closeFds (p.lang.reception p.endian ans.recvmsg).closed, .error⟩
    | some (hs, buf_fds) => (withWindow p sock hs buf_fds ans).ending (closeFds buf_fds)

/-- The two functions of one name. -/
def connecting (ans : Answers) : Option Fd × List SubCall :=
  match p.lang with
  | .rust => connect_to_socket p.socket_path ans
  | .cpp => Cpp.connect_to_socket p.socket_path ans

/-- `main`: the scope of `sock`. -/
def main (ans : Answers) : Scope :=
  let c := connecting p ans
  Scope.after c.2 <|
    match c.1 with
    | none => ⟨[], .error⟩
    | some sock => (withFds p sock ans).ending [.close sock]

/-! ## What is left behind -/

/-- What a context that could not be set up loses, or the renderer on it. -/
def lostGraphics (L : Lang) (ans : Answers) : List (Resource × Held) :=
  match L, EglContext.init ans.context with
  | .rust, (.failed _, log) => acquired log
  | .rust, (.ok _, _) => lostShader ans.renderer
  | _, _ => []

/-- **What a run leaves behind**: descriptors that came with the handshake and were not
taken, and, in Rust, what a failed `init` forgets. -/
def leaked (ans : Answers) : List (Resource × Held) :=
  if (connecting p ans).1 = none then []
  else
    (if (p.lang.recvHandshake p.endian ans.recvmsg).isNone || !ans.create then []
      else lostGraphics p.lang ans) ++ strayFds (strays p.lang ans.recvmsg)

/-! ## Every scope keeps what it finds -/

/-- **A scope keeps what it finds**, and leaves what it loses on top. -/
def Scope.Keeps (a lost : List (Resource × Held)) (s : Scope) : Prop :=
  s.exit ≠ .undefined → HeldMoves a s.log (lost ++ a)

namespace Scope.Keeps

variable {a x lost : List (Resource × Held)} {s : Scope} {log log' : List SubCall}

theorem stop (a : List (Resource × Held)) (e : Exit) : Keeps a [] ⟨[], e⟩ := by
  intro _
  exact Moves.nil a

/-- Calls that lose something, and then the end. -/
theorem lose (h : HeldMoves a log (lost ++ a)) (e : Exit) : Keeps a lost (.after log ⟨[], e⟩) := by
  intro _
  exact HeldMoves.append h (.nil _)

theorem after (h : HeldMoves a log a) (hs : s.Keeps a lost) : (s.after log).Keeps a lost := by
  intro he
  exact HeldMoves.append h (hs he)

/-- **A scope that owns `x`**: it starts with what opens it and ends with what closes it. -/
theorem owning (hopen : HeldMoves a log (x ++ a)) (hs : s.Keeps (x ++ a) lost)
    (hclose : HeldMoves (x ++ a) log' a) : ((s.ending log').after log).Keeps a lost := by
  intro he
  have hend : HeldMoves (lost ++ (x ++ a)) log' (lost ++ a) := hclose.frame_left lost
  exact HeldMoves.append hopen (HeldMoves.append (hs he) hend)

end Scope.Keeps

/-- What `draw_one` finds: the socket, the descriptors, the window and the context. -/
structure Equipped (a : List (Resource × Held)) (sock : Fd) (fds : List Fd) (egl : EglContext) :
    Prop where
  sock : (.fd sock, .socket) ∈ a
  fds : received fds ⊆ a
  window : (.window, .window) ∈ a
  display : (.gl (.display egl.display), .graphics) ∈ a
  context : (.gl (.context egl.context), .graphics) ∈ a
  surface : (.gl (.surface egl.surface), .graphics) ∈ a

/-- With more on top. -/
theorem Equipped.append {a : List (Resource × Held)} {sock : Fd} {fds : List Fd}
    {egl : EglContext} (h : Equipped a sock fds egl) (x : List (Resource × Held)) :
    Equipped (x ++ a) sock fds egl where
  sock := List.mem_append_right x h.sock
  fds := List.subset_append_of_subset_right x h.fds
  window := List.mem_append_right x h.window
  display := List.mem_append_right x h.display
  context := List.mem_append_right x h.context
  surface := List.mem_append_right x h.surface

theorem mem_received {fds : List Fd} {i : ℕ} {fd : Fd} (h : fds[i]? = some fd) :
    (.fd fd, .buffer i) ∈ received fds :=
  List.mem_map.mpr ⟨(fd, i), List.mk_mem_zipIdx_iff_getElem?.mpr h, rfl⟩

/-- `draw_one` with an image: it is made of the descriptor, drawn, and destroyed. -/
theorem drawOne_moves {a : List (Resource × Held)} {sock : Fd} {fds : List Fd}
    {egl : EglContext} {r : QuadRenderer} (h : Equipped a sock fds egl) (hr : r.holds ⊆ a)
    {idx : ℕ} {fd : Fd} (hfd : fds[idx]? = some fd) {image : ℕ} (himage : image ≠ 0) (ok : Bool) :
    HeldMoves a ([.eglCreateImage egl.display fd idx image] ++
      [.draw egl.context image r, .swap_buffers egl.display egl.surface,
        .destroy_image egl.display image, .send_ack sock ok]) a := by
  let top : Resource × Held := (.image image, .graphics)
  have hin {x : Resource × Held} (hx : x ∈ a) : x ∈ top :: a := List.mem_cons_of_mem _ hx
  have himport : Moves a (SubCall.eglCreateImage egl.display fd idx image).ops (top :: a) := by
    have hopen := (Moves.opens (Resource.image image) Held.graphics).frame a
    rw [SubCall.ops, if_neg himage]
    exact (Moves.uses h.display).step ((Moves.uses (h.fds (mem_received hfd))).step hopen)
  have hdraw : Moves (top :: a) (SubCall.draw egl.context image r).ops (top :: a) := by
    apply HeldMoves.uses
    intro x hx
    simp only [List.mem_append, List.mem_cons, List.not_mem_nil, or_false] at hx
    rcases hx with (((rfl | rfl) | hx) | hx) | hx
    · exact hin h.context
    · exact List.mem_cons_self
    · exact hin (hr (List.mem_append_left _ hx))
    · exact hin (hr (List.mem_append_right _ (List.mem_append_left _ hx)))
    · exact hin (hr (List.mem_append_right _ (List.mem_append_right _ hx)))
  have hswap : Moves (top :: a) (SubCall.swap_buffers egl.display egl.surface).ops (top :: a) :=
    (Moves.uses (hin h.display)).step (.uses (hin h.surface))
  have hdestroy : Moves (top :: a) (SubCall.destroy_image egl.display image).ops a :=
    (Moves.uses (hin h.display)).step ((Moves.closes (Resource.image image) Held.graphics).frame a)
  have hack : Moves a (SubCall.send_ack sock ok).ops a := .uses h.sock
  exact .step himport (.step hdraw (.step hswap (.step hdestroy (.step hack (.nil a)))))

/-- **The frame loop**: one turn makes an image of a descriptor that is there, draws and
destroys it, and leaves what it found; the rest by induction on the turns. -/
theorem frameLoop_moves {a : List (Resource × Held)} {sock : Fd} {fds : List Fd}
    {egl : EglContext} {r : QuadRenderer} (h : Equipped a sock fds egl) (hr : r.holds ⊆ a)
    (hs : Handshake) (turns : List Turn) :
    HeldMoves a (frameLoop p sock hs fds egl r turns).log a := by
  induction turns with
  | nil => exact .nil a
  | cons t ts ih =>
      have hrecv : Moves a (SubCall.recv_idx sock).ops a := .uses h.sock
      rw [frameLoop]
      refine HeldMoves.append (.step hrecv (.nil a)) ?_
      cases (p.lang.recvIdx p.endian t.recv).toUsize with
      | peerClosed => exact .nil a
      | err => exact .nil a
      | idx i =>
          simp only
          cases hfd : fds[i]? with
          | none =>
              simp only
              exact .nil a
          | some fd =>
              simp only
              cases p.lang.importDmabuf p.overflow_checks egl.has_modifiers (.ofNat fd)
                  hs.frameMeta with
              | none =>
                  simp only
                  exact .nil a
              | some attrs =>
                  have hbase : Moves a [.uses (.gl (.display egl.display)) .graphics,
                      .uses (.fd fd) (.buffer i)] a :=
                    (Moves.uses h.display).step (.uses (h.fds (mem_received hfd)))
                  by_cases himage : t.image = 0
                  · have himport :
                        Moves a (SubCall.eglCreateImage egl.display fd i t.image).ops a := by
                      rw [SubCall.ops, if_pos himage]
                      exact hbase
                    simp only [himage, if_true]
                    exact HeldMoves.append (.step (himage ▸ himport) (.nil a)) (.nil a)
                  · have hturn {rest : Scope} (hrest : HeldMoves a rest.log a) :
                        HeldMoves a (Scope.after [.eglCreateImage egl.display fd i t.image]
                          (rest.after [.draw egl.context t.image r,
                            .swap_buffers egl.display egl.surface,
                            .destroy_image egl.display t.image,
                            .send_ack sock t.send_ack])).log a :=
                      (drawOne_moves h hr hfd himage t.send_ack).append hrest
                    have hdispatch : Moves a (SubCall.dispatch_pending t.dispatch_pending).ops a :=
                      .uses h.window
                    simp only [himage, if_false]
                    apply hturn
                    split
                    · exact .nil a
                    · refine HeldMoves.append (.step hdispatch (.nil a)) ?_
                      split
                      · exact .nil a
                      · exact ih

/-- A renderer that could be set up has forgotten nothing. -/
theorem lostShader_of_ok {drm_fourcc : UInt32} {ans : RendererAnswers} {r : QuadRenderer}
    (h : (QuadRenderer.init drm_fourcc ans).1 = .ok r) : lostShader ans = [] := by
  cases hv : ans.vs.ok with
  | false => simp [lostShader, hv]
  | true =>
      cases hf : ans.fs.ok with
      | true => simp [lostShader, hf]
      | false => simp [QuadRenderer.init, link_program, compile_shader, hv, hf] at h

variable {a : List (Resource × Held)} {sock : Fd} {fds : List Fd} (hs : Handshake) (ans : Answers)

/-- What the renderer's scope loses. -/
def lostRenderer (L : Lang) (ans : Answers) : List (Resource × Held) :=
  match L with
  | .rust => lostShader ans.renderer
  | .cpp => []

theorem withRenderer_keeps {egl : EglContext} (h : Equipped a sock fds egl) :
    (withRenderer p sock hs fds egl ans).Keeps a (lostRenderer p.lang ans) := by
  have hctx : [(Resource.gl (.context egl.context), Held.graphics)] ⊆ a :=
    List.cons_subset.mpr ⟨h.context, List.nil_subset a⟩
  have hloop (r : QuadRenderer) :
      (frameLoop p sock hs fds egl r ans.turns).Keeps (r.holds ++ a) [] := by
    intro _
    exact frameLoop_moves p (h.append _) (List.subset_append_left _ _) hs ans.turns
  rw [withRenderer]
  cases p.lang with
  | rust =>
      have hinit := QuadRenderer.init_moves egl.display hctx hs.format ans.renderer
      simp only
      generalize hq : QuadRenderer.init hs.format ans.renderer = q at hinit ⊢
      obtain ⟨result, log⟩ := q
      cases result with
      | ok r =>
          have hnone : lostRenderer .rust ans = [] := lostShader_of_ok (congrArg Prod.fst hq)
          rw [hnone]
          exact .owning hinit (hloop r) (QuadRenderer.drop_moves egl.display hctx r)
      | failed e => exact .lose hinit .error
      | undefined => exact fun he => (he rfl).elim
  | cpp =>
      have hinit := Cpp.QuadRenderer.init_moves egl.display hctx hs.format ans.renderer
      simp only
      generalize Cpp.QuadRenderer.init hs.format ans.renderer = r at hinit ⊢
      obtain ⟨r, ok, log⟩ := r
      have hdrop := QuadRenderer.drop_moves egl.display hctx r
      simp only [Cpp.QuadRenderer.closing_eq]
      apply Scope.Keeps.owning hinit _ hdrop
      cases ok with
      | false => exact .stop _ .error
      | true => exact hloop r

/-- A context that is complete is all that `draw_one` needs besides the session. -/
theorem Equipped.of_complete {egl : EglContext} (h : egl.Complete ans.context)
    (hsock : (.fd sock, .socket) ∈ a) (hfds : received fds ⊆ a) (hwin : (.window, .window) ∈ a) :
    Equipped (acquired ans.context.full ++ a) sock fds egl where
  sock := List.mem_append_right _ hsock
  fds := List.subset_append_of_subset_right _ hfds
  window := List.mem_append_right _ hwin
  display := by simp [acquired, ContextAnswers.full, h.display]
  context := by simp [acquired, ContextAnswers.full, h.context]
  surface := by simp [acquired, ContextAnswers.full, h.surface]

theorem withContext_keeps (hsock : (.fd sock, .socket) ∈ a) (hfds : received fds ⊆ a)
    (hwin : (.window, .window) ∈ a) :
    (withContext p sock hs fds ans).Keeps a (lostGraphics p.lang ans) := by
  have hwin' : [(Resource.window, Held.window)] ⊆ a :=
    List.cons_subset.mpr ⟨hwin, List.nil_subset a⟩
  have hfull : ContextLog ans.context ans.context.full := .surface
  have hrender {egl : EglContext} (h : egl.Complete ans.context) :=
    withRenderer_keeps p hs ans (.of_complete ans h hsock hfds hwin)
  rw [withContext]
  cases hlang : p.lang with
  | rust =>
      rw [hlang] at hrender
      have hexit := EglContext.init_exit ans.context
      simp only [lostGraphics]
      generalize EglContext.init ans.context = q at hexit ⊢
      cases hexit with
      | failed e log h => exact .lose (h.moves hwin') .error
      | undefined log => exact fun he => (he rfl).elim
      | ok egl h hdrop =>
          simp only [hdrop]
          exact .owning (hfull.moves hwin') (hrender h) (hfull.closes hwin')
  | cpp =>
      rw [hlang] at hrender
      have hexit := Cpp.EglContext.init_exit ans.context
      have hnone : lostGraphics .cpp ans = [] := by simp [lostGraphics]
      simp only [hnone]
      generalize Cpp.EglContext.init ans.context = q at hexit ⊢
      cases hexit with
      | failed egl log h hclosing =>
          simp only [hclosing]
          exact .owning (h.moves hwin') (.stop _ .error) (h.closes hwin')
      | ok egl h hclosing =>
          simp only [hclosing]
          exact .owning (hfull.moves hwin') (hrender h) (hfull.closes hwin')

theorem withWindow_keeps (hsock : (.fd sock, .socket) ∈ a) (hfds : received fds ⊆ a) :
    (withWindow p sock hs fds ans).Keeps a
      (if !ans.create then [] else lostGraphics p.lang ans) := by
  rw [withWindow]
  cases ans.create with
  | false => exact .after (.nil a) (.stop a .error)
  | true =>
      have hopen : HeldMoves a [.createWindow true] ([(.window, .window)] ++ a) :=
        (Moves.opens Resource.window Held.window).frame a
      have hclose : HeldMoves ([(.window, .window)] ++ a) [.destroyWindow] a :=
        (Moves.closes Resource.window Held.window).frame a
      have hcontext := withContext_keeps p hs ans (List.mem_append_right [(.window, .window)] hsock)
        (List.subset_append_of_subset_right [(.window, .window)] hfds) List.mem_cons_self
      exact .owning hopen hcontext hclose

/-- What the receiver took, it closed or returned. -/
theorem reception_eq (L : Lang) (e : Endian) (r : Option (RecvMsg Fd)) :
    L.reception e r = ⟨none, taken L r⟩ ∨ L.reception e r = ⟨some (taken L r), []⟩ := by
  cases r with
  | none =>
      left
      cases L with
      | rust => rfl
      | cpp => rfl
  | some m => exact L.reception_taken e m

theorem closeFds_moves (fds : List Fd) : HeldMoves (received fds ++ a) (closeFds fds) a := by
  have hops : heldOps (closeFds fds) = (received fds).map fun x => .closes x.1 := by
    have hfst : fds.zipIdx.map Prod.fst = fds := by simp
    have hmap := congrArg (List.map fun fd => (Op.closes (.fd fd) : Op Resource Held)) hfst
    rw [List.map_map] at hmap
    rw [received, List.map_map, heldOps, closeFds, List.flatMap_map]
    exact List.map_eq_flatMap.symm.trans hmap.symm
  rw [HeldMoves, hops]
  exact (Moves.closesAll (received fds)).frame a

theorem withFds_keeps (hsock : (.fd sock, .socket) ∈ a) :
    (withFds p sock ans).Keeps a
      ((if (p.lang.recvHandshake p.endian ans.recvmsg).isNone || !ans.create then []
        else lostGraphics p.lang ans) ++ strayFds (strays p.lang ans.recvmsg)) := by
  let S := strayFds (strays p.lang ans.recvmsg)
  let T := received (taken p.lang ans.recvmsg)
  have hopen : HeldMoves a [.recvmsg sock (strays p.lang ans.recvmsg) (taken p.lang ans.recvmsg)]
      (T ++ (S ++ a)) := by
    have hall : Moves a (SubCall.recvmsg sock (strays p.lang ans.recvmsg)
        (taken p.lang ans.recvmsg)).ops ((S ++ T) ++ a) :=
      (Moves.uses hsock).step ((Moves.opensAll (S ++ T)).frame a)
    have hperm : ((S ++ T) ++ a).Perm (T ++ (S ++ a)) := by
      rw [← List.append_assoc]
      exact List.perm_append_comm.append_right a
    exact .step (hall.perm (.refl a) hperm) (.nil _)
  have hclose : HeldMoves (T ++ (S ++ a)) (closeFds (taken p.lang ans.recvmsg)) (S ++ a) :=
    closeFds_moves _
  have howned := p.lang.reception_owned p.endian ans.recvmsg
  rw [withFds]
  cases hr : p.lang.recvHandshake p.endian ans.recvmsg with
  | none =>
      rw [hr] at howned
      have hclosed : (p.lang.reception p.endian ans.recvmsg).closed = taken p.lang ans.recvmsg := by
        rcases reception_eq p.lang p.endian ans.recvmsg with h | h
        · rw [h]
        · simp [h] at howned
      simp only [hclosed, Option.isNone_none, Bool.true_or, if_true, List.nil_append]
      exact fun _ => HeldMoves.append hopen hclose
  | some q =>
      obtain ⟨hs, buf_fds⟩ := q
      rw [hr] at howned
      have hfds : buf_fds = taken p.lang ans.recvmsg := by
        rcases reception_eq p.lang p.endian ans.recvmsg with h | h
        · simp [h] at howned
        · rw [h] at howned
          exact (Option.some.inj howned).symm
      have hmem : (Resource.fd sock, Held.socket) ∈ T ++ (S ++ a) :=
        List.mem_append_right T (List.mem_append_right S hsock)
      have hwindow := withWindow_keeps p hs ans hmem (List.subset_append_left T (S ++ a))
      simp only [hfds, Option.isNone_some, Bool.false_or]
      intro he
      rw [List.append_assoc]
      have hend := hclose.frame_left (if !ans.create then [] else lostGraphics p.lang ans)
      exact HeldMoves.append hopen (HeldMoves.append (hwindow he) hend)

/-- The two functions return a socket, or close it. -/
theorem connecting_moves :
    HeldMoves [] (connecting p ans).2
      ((connecting p ans).1.toList.map fun fd => (.fd fd, .socket)) := by
  have hclosed (fd : Fd) : HeldMoves [] [.socket fd, .close fd] [] :=
    .step (Moves.opens (Resource.fd fd) Held.socket) (Moves.closes _ _)
  have hopen (fd : Fd) : HeldMoves [] [.socket fd] [(.fd fd, .socket)] := Moves.opens _ _
  rw [connecting]
  cases p.lang with
  | rust =>
      simp only [connect_to_socket]
      cases ans.socket with
      | none => exact .nil []
      | some fd =>
          simp only
          split
          · exact hclosed fd
          · split
            · exact hopen fd
            · exact hclosed fd
  | cpp =>
      simp only [Cpp.connect_to_socket]
      cases ans.socket with
      | none => exact .nil []
      | some fd =>
          simp only
          split
          · exact hclosed fd
          · split
            · exact hclosed fd
            · exact hopen fd

/-- **A run of a subscriber leaves what it loses.** -/
theorem main_keeps : (main p ans).Keeps [] (leaked p ans) := by
  have hconnect := connecting_moves p ans
  rw [main, leaked]
  cases hc : (connecting p ans).1 with
  | none =>
      rw [hc] at hconnect
      simp only [if_true]
      exact .lose hconnect .error
  | some sock =>
      rw [hc] at hconnect
      have hfds := withFds_keeps p ans (a := [(.fd sock, .socket)]) List.mem_cons_self
      have hclose : HeldMoves ([(Resource.fd sock, Held.socket)] ++ []) [.close sock] [] :=
        Moves.closes _ _
      simp only [reduceCtorEq, if_false]
      exact .owning hconnect hfds hclose

/-! ## When nothing is lost -/

/-- The runs that lose nothing: the message is one that the receiver accounts for, and an
initialisation that is reached and fails is one that releases what it made. -/
def NothingLost (p : Program) (ans : Answers) : Prop :=
  (connecting p ans).1 = none ∨
    Accounted p.lang ans.recvmsg ∧
      ∀ q, p.lang.recvHandshake p.endian ans.recvmsg = some q → ans.create = true →
        (Bringup.context p.lang ans.context).Clean ∧
          ∀ egl log, EglContext.init ans.context = (.ok egl, log) →
            (Bringup.renderer p.lang q.1.format ans.renderer).Clean

theorem strays_eq_nil_iff (L : Lang) (r : Option (RecvMsg Fd)) :
    strayFds (strays L r) = [] ↔ Accounted L r := by
  cases r with
  | none => exact iff_of_true rfl trivial
  | some m =>
      have happend := L.strays_append_taken m
      rw [← L.taken_perm_iff m, strayFds, List.map_eq_nil_iff]
      change L.strays m = [] ↔ _
      constructor
      · intro hnil
        rw [hnil, List.nil_append] at happend
        rw [happend]
      · intro hperm
        have hlen := congrArg List.length happend
        rw [List.length_append, hperm.length_eq] at hlen
        exact List.length_eq_zero_iff.mp (by omega)

theorem lostShader_eq_nil_iff (drm_fourcc : UInt32) (ans : RendererAnswers) :
    lostShader ans = [] ↔ (Bringup.renderer .rust drm_fourcc ans).Clean := by
  rw [Bringup.Clean, lostShader]
  cases hv : ans.vs.ok with
  | false => simp
  | true =>
      have hname := ShaderAnswers.name_ne_zero hv
      cases hf : ans.fs.ok with
      | true => simp
      | false => simp [handleOf, hname]

theorem lostGraphics_eq_nil_iff (L : Lang) (ans : Answers) (drm_fourcc : UInt32) :
    lostGraphics L ans = [] ↔
      (Bringup.context L ans.context).Clean ∧
        ∀ egl log, EglContext.init ans.context = (.ok egl, log) →
          (Bringup.renderer L drm_fourcc ans.renderer).Clean := by
  cases L with
  | cpp => simp [lostGraphics, Bringup.Clean]
  | rust =>
      have hexit := EglContext.init_exit ans.context
      rw [← EglContext.releases_iff, Bringup.ReleasesOnFailure, Bringup.failure]
      simp only [lostGraphics]
      generalize EglContext.init ans.context = q at hexit ⊢
      cases hexit with
      | failed e log h => simp [← h.balanced_iff]
      | undefined log => simp
      | ok egl h hdrop => simp [lostShader_eq_nil_iff drm_fourcc]

theorem leaked_eq_nil_iff (p : Program) (ans : Answers) :
    leaked p ans = [] ↔ NothingLost p ans := by
  rw [leaked, NothingLost]
  by_cases hc : (connecting p ans).1 = none
  · simp [hc]
  · rw [if_neg hc, List.append_eq_nil_iff, strays_eq_nil_iff, and_comm, or_iff_right hc]
    refine and_congr_right fun _ => ?_
    cases hr : p.lang.recvHandshake p.endian ans.recvmsg with
    | none => simp
    | some q =>
        cases ans.create with
        | false => simp
        | true =>
            have hgraphics := lostGraphics_eq_nil_iff p.lang ans q.1.format
            simpa using hgraphics

/-! ## The main result -/

/-- **A subscriber leaves what it loses, and nothing else.** As long as the kernel, EGL and GL
hand out only handles that are not in use, in every run that does not end undefined: nothing
is released that is not there; whatever a call uses is there and is what it is taken for, so
that each image is made of the descriptor received at its index; what is left at the end is
`leaked`; and that is nothing exactly if the handshake's message is accounted for and no
initialisation fails in a way that forgets what it made. -/
theorem leaves_leaked (p : Program) (ans : Answers)
    (hf : Ledger.Fresh ∅ (events (heldOps (main p ans).log)))
    (he : (main p ans).exit ≠ .undefined) :
    Ledger.Sound ∅ (events (heldOps (main p ans).log)) ∧
      (∀ pre r o, pre ++ [.uses r o] <+: heldOps (main p ans).log → table pre r = some o) ∧
      Ledger.held ∅ (events (heldOps (main p ans).log)) = ((leaked p ans).map Prod.fst).toFinset ∧
      (Ledger.Balanced (events (heldOps (main p ans).log)) ↔ NothingLost p ans) := by
  have hmoves : Moves [] (heldOps (main p ans).log) (leaked p ans ++ []) := main_keeps p ans he
  rw [List.append_nil] at hmoves
  have : Nonempty Held := ⟨.socket⟩
  obtain ⟨-, -, hsound, hheld⟩ := hmoves.gains hf
  replace hheld := hheld.trans (bot_sup_eq _)
  refine ⟨hsound, fun pre r o hpre => hmoves.table_of_uses hf hpre, hheld, ?_⟩
  rw [← leaked_eq_nil_iff]
  constructor
  · intro h
    have hnone := hheld.symm.trans h.settled
    rwa [List.toFinset_eq_empty_iff, List.map_eq_nil_iff] at hnone
  · intro h
    refine ⟨hsound, ?_⟩
    rw [hheld, h]
    rfl

/-- A run on two buffers that draws the second of them once; then the publisher is gone. The
fragment shader compiles if `fragment` says so. -/
def oneFrame (fragment : Bool) : Answers where
  socket := some 3
  connect := true
  recvmsg := some
    { payload := Handshake.bytes .little { buf_count := 2 }
      ctrunc := false
      cmsgs := [.scmRights [4, 5]]
      int_count := by simp }
  create := true
  context := { noSurface with create_window_surface := 3 }
  renderer := { badFragmentShader with fs := ⟨2, fragment⟩ }
  turns := [⟨some (toNeBytes .little 1), 9, true, true⟩, ⟨none, 0, true, true⟩]

/-- The Rust program, with overflow checks. -/
def rustDebug : Program where
  lang := .rust
  endian := .little
  overflow_checks := true
  socket_path := [97]

/-- The image is made of the second descriptor, and nothing is left; without the fragment
shader, the vertex shader is. -/
theorem leaves_leaked_oneFrame :
    table ((heldOps (main rustDebug (oneFrame true)).log).take 28) (.fd 5) = some (.buffer 1) ∧
      Ledger.Balanced (events (heldOps (main rustDebug (oneFrame true)).log)) ∧
      Ledger.held ∅ (events (heldOps (main rustDebug (oneFrame false)).log)) =
        {.gl (.shader 1)} := by
  have hgood := leaves_leaked rustDebug (oneFrame true) (by decide) (by decide)
  have hbad := leaves_leaked rustDebug (oneFrame false) (by decide) (by decide)
  have hnone : leaked rustDebug (oneFrame true) = [] := by decide
  have hshader : leaked rustDebug (oneFrame false) = [(.gl (.shader 1), .graphics)] := by decide
  refine ⟨hgood.2.1 _ _ _ ⟨_, rfl⟩, hgood.2.2.2.mpr ((leaked_eq_nil_iff _ _).mp hnone), ?_⟩
  rw [hbad.2.2.1, hshader]
  rfl

end SubscriberRun

end DmabufPipeline
