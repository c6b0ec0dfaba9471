import DmabufPipeline.Lib.InFlight
import Mathlib.Logic.Function.Basic

/-!
# A Wayland compositor with xdg-shell

What a compositor keeps for one client, as far as a client with toplevel windows can tell:
the globals it has advertised, the objects the client has made, and the events that it is
owed an answer to. `accept` is the compositor's reading of one request. It is `none` where
the protocol has an error, which ends the connection: an object that does not exist or is
of another interface, a version that was not offered, a second role, a commit before the
role object, a buffer before the first configure was acknowledged, an acknowledgement or
a pong that answers nothing, a destructor out of order.

`act` is what a compositor may do on its own. An event is sent only where its object is
there, and only if it is not newer than the version that the client has bound.

## Main definitions

* `Request`, `Event` — the messages.
* `Compositor`, `Compositor.accept`, `Compositor.replies` — the client's requests.
* `Own`, `Compositor.act` — the compositor's own doing.
* `settles_act` — no request in flight can tell what the compositor does on its own.
* `Waits` — every question is either unread or answered, in order.
-/

namespace XdgShell

open InFlight Transition

/-! ## Messages -/

/-- A request; objects are known by the number that the client gave them. -/
inductive Request
  | get_registry
  | sync
  | bind (name : UInt32) (interface : String) (version : UInt32) (id : ℕ)
  | create_surface (compositor id : ℕ)
  | get_xdg_surface (wm_base id surface : ℕ)
  | get_toplevel (xdg_surface id : ℕ)
  | set_title (toplevel : ℕ) (title : String)
  | set_app_id (toplevel : ℕ) (app_id : String)
  /-- `wl_surface.attach` of a buffer. -/
  | attach (surface : ℕ)
  | commit (surface : ℕ)
  | ack_configure (xdg_surface : ℕ) (serial : UInt32)
  | pong (wm_base : ℕ) (serial : UInt32)
  | destroy (id : ℕ)
  deriving DecidableEq, Repr

/-- An event, without the sizes that some carry. `configure_bounds` came with version 4 of
`xdg_toplevel`, and `wm_capabilities` with version 5. -/
inductive Event
  | global (name : UInt32) (interface : String) (version : UInt32)
  | global_remove (name : UInt32)
  /-- `wl_callback.done` of a `sync`. -/
  | done
  | ping (wm_base : ℕ) (serial : UInt32)
  | configure (xdg_surface : ℕ) (serial : UInt32)
  | toplevel_configure (toplevel : ℕ)
  | close (toplevel : ℕ)
  | configure_bounds (toplevel : ℕ)
  | wm_capabilities (toplevel : ℕ)
  deriving DecidableEq, Repr

/-! ## The compositor -/

/-- A global that was advertised. -/
structure Global where
  name : UInt32
  interface : String
  version : UInt32
  deriving DecidableEq, Repr

/-- An `xdg_surface`: what it was made from, its role object, whether a commit has told
the compositor of it, and whether a configure was acknowledged. -/
structure XdgSurface where
  wm_base : ℕ
  surface : ℕ
  version : UInt32
  toplevel : Option ℕ := none
  committed : Bool := false
  acked : Bool := false
  deriving DecidableEq, Repr

/-- An object of the client. -/
inductive Object
  | compositor
  /-- With the `xdg_surface`s made from it. -/
  | wm_base (version : UInt32) (surfaces : List ℕ)
  /-- With its `xdg_surface`, and whether a buffer was attached. -/
  | surface (xdg_surface : Option ℕ) (buffer : Bool)
  | xdg_surface (x : XdgSurface)
  | toplevel (xdg_surface : ℕ)
  | other
  deriving DecidableEq, Repr

/-- What a bound global is. -/
def Object.ofInterface (interface : String) (version : UInt32) : Object :=
  if interface = "wl_compositor" then .compositor
  else if interface = "xdg_wm_base" then .wm_base version []
  else .other

/-- The compositor's view of a client. -/
structure Compositor where
  registry : Bool := false
  globals : List Global := []
  objects : ℕ → Option Object := fun _ => none
  /-- The configures of an `xdg_surface` that are not acknowledged. -/
  configured : ℕ → List UInt32 := fun _ => []
  /-- The pings of an `xdg_wm_base` that are not answered. -/
  pinged : ℕ → List UInt32 := fun _ => []

namespace Compositor

variable (c : Compositor)

/-- Set or remove an object. -/
def put (id : ℕ) (o : Option Object) : Compositor :=
  { c with objects := Function.update c.objects id o }

/-- A global with this name and interface is offered at this version. -/
def Offers (name : UInt32) (interface : String) (version : UInt32) : Prop :=
  ∃ g ∈ c.globals, g.name = name ∧ g.interface = interface ∧ version ≤ g.version

instance (name : UInt32) (interface : String) (version : UInt32) :
    Decidable (c.Offers name interface version) :=
  inferInstanceAs (Decidable (∃ g ∈ c.globals, _))

/-- What remains to be acknowledged after `serial` was. -/
def afterSerial (serial : UInt32) (serials : List UInt32) : List UInt32 :=
  (serials.dropWhile (· ≠ serial)).drop 1

/-- A configure was acknowledged, and with it those before it. -/
def acknowledge (xdg : ℕ) (serial : UInt32) : Compositor :=
  { c with
    configured := Function.update c.configured xdg (afterSerial serial (c.configured xdg)) }

/-- A ping was answered. -/
def answer (wm_base : ℕ) (serial : UInt32) : Compositor :=
  { c with pinged := Function.update c.pinged wm_base ((c.pinged wm_base).erase serial) }

/-- A destructor. A role object goes before its `xdg_surface`, that before its
`wl_surface`, and all of them before their `xdg_wm_base`. -/
def destroy (id : ℕ) : Option Compositor :=
  match c.objects id with
  | some (.toplevel xdg) =>
      match c.objects xdg with
      | some (.xdg_surface x) =>
          some ((c.put id none).put xdg (some (.xdg_surface { x with toplevel := none })))
      | _ => none
  | some (.xdg_surface x) =>
      match x.toplevel, c.objects x.surface, c.objects x.wm_base with
      | none, some (.surface _ buffer), some (.wm_base version surfaces) =>
          some (((c.put id none).put x.surface (some (.surface none buffer))).put x.wm_base
            (some (.wm_base version (surfaces.erase id))))
      | _, _, _ => none
  | some (.surface none _) => some (c.put id none)
  | some (.wm_base _ []) => some (c.put id none)
  | _ => none

/-- The compositor's reading of a request. -/
def accept : Request → Option Compositor
  | .get_registry => some { c with registry := true }
  | .sync => some c
  | .bind name interface version id =>
      if c.registry = true ∧ c.Offers name interface version ∧ c.objects id = none then
        some (c.put id (some (.ofInterface interface version)))
      else none
  | .create_surface compositor id =>
      if c.objects compositor = some .compositor ∧ c.objects id = none then
        some (c.put id (some (.surface none false)))
      else none
  | .get_xdg_surface wm_base id surface =>
      match c.objects wm_base, c.objects surface with
      | some (.wm_base version surfaces), some (.surface none false) =>
          if c.objects id = none then
            some (((c.put surface (some (.surface (some id) false))).put wm_base
              (some (.wm_base version (id :: surfaces)))).put id
                (some (.xdg_surface { wm_base, surface, version })))
          else none
      | _, _ => none
  | .get_toplevel xdg id =>
      match c.objects xdg with
      | some (.xdg_surface x) =>
          if x.toplevel = none ∧ c.objects id = none then
            some ((c.put xdg (some (.xdg_surface { x with toplevel := some id }))).put id
              (some (.toplevel xdg)))
          else none
      | _ => none
  | .set_title toplevel _ | .set_app_id toplevel _ =>
      match c.objects toplevel with
      | some (.toplevel _) => some c
      | _ => none
  | .attach surface =>
      match c.objects surface with
      | some (.surface xdg _) => some (c.put surface (some (.surface xdg true)))
      | _ => none
  | .commit surface =>
      match c.objects surface with
      | some (.surface none _) => some c
      | some (.surface (some xdg) buffer) =>
          match c.objects xdg with
          | some (.xdg_surface x) =>
              if x.toplevel.isSome = true ∧ (buffer = true → x.acked = true) then
                some (c.put xdg (some (.xdg_surface { x with committed := true })))
              else none
          | _ => none
      | _ => none
  | .ack_configure xdg serial =>
      match c.objects xdg with
      | some (.xdg_surface x) =>
          if x.toplevel.isSome = true ∧ serial ∈ c.configured xdg then
            some ((c.put xdg (some (.xdg_surface { x with acked := true }))).acknowledge xdg serial)
          else none
      | _ => none
  | .pong wm_base serial =>
      match c.objects wm_base with
      | some (.wm_base _ _) =>
          if serial ∈ c.pinged wm_base then some (c.answer wm_base serial) else none
      | _ => none
  | .destroy id => c.destroy id

/-- The events that answer a request. -/
def replies : Request → List Event
  | .get_registry => c.globals.map fun g => .global g.name g.interface g.version
  | .sync => [.done]
  | _ => []

end Compositor

/-! ## What the compositor does on its own -/

/-- What a compositor may do. -/
inductive Own
  | advertise (g : Global)
  | withdraw (name : UInt32)
  | ping (wm_base : ℕ) (serial : UInt32)
  | configure (xdg_surface : ℕ) (serial : UInt32)
  | toplevel_configure (toplevel : ℕ)
  | close (toplevel : ℕ)
  | configure_bounds (toplevel : ℕ)
  | wm_capabilities (toplevel : ℕ)
  deriving DecidableEq, Repr

namespace Compositor

variable (c : Compositor)

/-- The version of a toplevel, which is that of the `xdg_wm_base` it comes from. -/
def toplevelVersion (toplevel : ℕ) : Option UInt32 :=
  match c.objects toplevel with
  | some (.toplevel xdg) =>
      match c.objects xdg with
      | some (.xdg_surface x) => some x.version
      | _ => none
  | _ => none

/-- Whether the compositor may do it now. A global is offered at version 1 at least; an
`xdg_surface` is configured once its toplevel was committed. -/
def May : Own → Prop
  | .advertise g => c.registry = true ∧ 1 ≤ g.version
  | .withdraw _ => c.registry = true
  | .ping wm_base _ =>
      match c.objects wm_base with
      | some (.wm_base _ _) => True
      | _ => False
  | .configure xdg _ =>
      match c.objects xdg with
      | some (.xdg_surface x) => x.toplevel.isSome = true ∧ x.committed = true
      | _ => False
  | .toplevel_configure toplevel | .close toplevel =>
      (c.toplevelVersion toplevel).isSome = true
  | .configure_bounds toplevel => ∃ v ∈ c.toplevelVersion toplevel, 4 ≤ v
  | .wm_capabilities toplevel => ∃ v ∈ c.toplevelVersion toplevel, 5 ≤ v

instance (o : Own) : Decidable (c.May o) := by
  unfold May
  split <;> first | infer_instance | (split <;> infer_instance)

/-- What becomes of the compositor. -/
def act : Own → Compositor
  | .advertise g => { c with globals := c.globals ++ [g] }
  | .ping wm_base serial =>
      { c with pinged := Function.update c.pinged wm_base (c.pinged wm_base ++ [serial]) }
  | .configure xdg serial =>
      { c with configured := Function.update c.configured xdg (c.configured xdg ++ [serial]) }
  | _ => c

end Compositor

/-- The event that tells the client. -/
def Own.event : Own → Event
  | .advertise g => .global g.name g.interface g.version
  | .withdraw name => .global_remove name
  | .ping wm_base serial => .ping wm_base serial
  | .configure xdg serial => .configure xdg serial
  | .toplevel_configure toplevel => .toplevel_configure toplevel
  | .close toplevel => .close toplevel
  | .configure_bounds toplevel => .configure_bounds toplevel
  | .wm_capabilities toplevel => .wm_capabilities toplevel

/-! ## What requests in flight can tell -/

namespace Compositor

variable {c c' : Compositor} {o : Own} {r : Request}

@[simp] theorem put_objects (c : Compositor) (id : ℕ) (o : Option Object) :
    (c.put id o).objects = Function.update c.objects id o := rfl

@[simp] theorem act_objects (c : Compositor) (o : Own) : (c.act o).objects = c.objects := by
  cases o <;> rfl

@[simp] theorem act_registry (c : Compositor) (o : Own) : (c.act o).registry = c.registry := by
  cases o <;> rfl

theorem act_put (c : Compositor) (o : Own) (id : ℕ) (x : Option Object) :
    (c.put id x).act o = (c.act o).put id x := by
  cases o <;> rfl

/-- What was offered still is. -/
theorem Offers.act {name version : UInt32} {interface : String}
    (h : c.Offers name interface version) (o : Own) : (c.act o).Offers name interface version := by
  obtain ⟨g, hg, hsame⟩ := h
  refine ⟨g, ?_, hsame⟩
  cases o with
  | advertise g' => exact List.mem_append_left [g'] hg
  | _ => exact hg

/-- The serials after an acknowledgement, when one more has come. -/
theorem afterSerial_append {serial : UInt32} {l : List UInt32} (h : serial ∈ l)
    (m : List UInt32) : afterSerial serial (l ++ m) = afterSerial serial l ++ m := by
  induction l with
  | nil => cases h
  | cons a l ih =>
      by_cases ha : a = serial
      · subst ha
        simp [afterSerial]
      · have hmem : serial ∈ l := by
          rcases List.mem_cons.mp h with heq | hmem
          · exact absurd heq.symm ha
          · exact hmem
        simpa [afterSerial, ha] using ih hmem

theorem mem_act_configured {xdg : ℕ} {serial : UInt32} (h : serial ∈ c.configured xdg)
    (o : Own) : serial ∈ (c.act o).configured xdg := by
  cases o with
  | configure xdg' serial' =>
      by_cases hx : xdg = xdg'
      · subst hx
        simp [act, h]
      · simpa [act, hx] using h
  | _ => exact h

theorem mem_act_pinged {wm_base : ℕ} {serial : UInt32} (h : serial ∈ c.pinged wm_base)
    (o : Own) : serial ∈ (c.act o).pinged wm_base := by
  cases o with
  | ping wm_base' serial' =>
      by_cases hw : wm_base = wm_base'
      · subst hw
        simp [act, h]
      · simpa [act, hw] using h
  | _ => exact h

/-- Acknowledging an old configure, and sending a new one. -/
theorem act_acknowledge {xdg : ℕ} {serial : UInt32} (h : serial ∈ c.configured xdg) (o : Own) :
    (c.acknowledge xdg serial).act o = (c.act o).acknowledge xdg serial := by
  cases o with
  | configure xdg' serial' =>
      by_cases hx : xdg = xdg'
      · subst hx
        simp [act, acknowledge, afterSerial_append h]
      · simp [act, acknowledge, hx, Ne.symm hx, Function.update_comm]
  | _ => rfl

/-- Answering an old ping, and sending a new one. -/
theorem act_answer {wm_base : ℕ} {serial : UInt32} (h : serial ∈ c.pinged wm_base) (o : Own) :
    (c.answer wm_base serial).act o = (c.act o).answer wm_base serial := by
  cases o with
  | ping wm_base' serial' =>
      by_cases hw : wm_base = wm_base'
      · subst hw
        simp [act, answer, List.erase_append_left _ h]
      · simp [act, answer, hw, Ne.symm hw, Function.update_comm]
  | _ => rfl

/-- **A request is accepted just as well after the compositor has acted.** -/
theorem accept_act (h : c.accept r = some c') (o : Own) :
    (c.act o).accept r = some (c'.act o) := by
  cases r with
  | get_registry =>
      obtain rfl := Option.some.inj h
      cases o <;> rfl
  | sync =>
      obtain rfl := Option.some.inj h
      rfl
  | bind name interface version id =>
      simp only [accept, Option.ite_none_right_eq_some, Option.some.injEq] at h
      obtain ⟨⟨hreg, hoffer, hid⟩, rfl⟩ := h
      have hoffer := hoffer.act o
      simp [accept, hreg, hoffer, hid, act_put]
  | create_surface compositor id =>
      simp only [accept, Option.ite_none_right_eq_some, Option.some.injEq] at h
      obtain ⟨hobj, rfl⟩ := h
      simp [accept, hobj, act_put]
  | get_xdg_surface wm_base id surface =>
      simp only [accept] at h
      split at h
      · rename_i hbase hsurface
        simp only [Option.ite_none_right_eq_some, Option.some.injEq] at h
        obtain ⟨hid, rfl⟩ := h
        simp [accept, hbase, hsurface, hid, act_put]
      · cases h
  | get_toplevel xdg id =>
      simp only [accept] at h
      split at h
      · rename_i hxdg
        simp only [Option.ite_none_right_eq_some, Option.some.injEq] at h
        obtain ⟨hid, rfl⟩ := h
        simp [accept, hxdg, hid, act_put]
      · cases h
  | set_title toplevel title | set_app_id toplevel app_id =>
      simp only [accept] at h
      split at h
      · rename_i htop
        obtain rfl := Option.some.inj h
        simp [accept, htop]
      · cases h
  | attach surface =>
      simp only [accept] at h
      split at h
      · rename_i hsurface
        obtain rfl := Option.some.inj h
        simp [accept, hsurface, act_put]
      · cases h
  | commit surface =>
      simp only [accept] at h
      split at h
      · rename_i hsurface
        obtain rfl := Option.some.inj h
        simp [accept, hsurface]
      · rename_i hsurface
        split at h
        · rename_i hxdg
          simp only [Option.ite_none_right_eq_some, Option.some.injEq] at h
          obtain ⟨hx, rfl⟩ := h
          simpa [accept, hsurface, hxdg, hx.1, act_put] using hx.2
        · cases h
      · cases h
  | ack_configure xdg serial =>
      simp only [accept] at h
      split at h
      · rename_i x hxdg
        simp only [Option.ite_none_right_eq_some, Option.some.injEq] at h
        obtain ⟨⟨hrole, hserial⟩, rfl⟩ := h
        have hput : serial ∈ (c.put xdg (some (.xdg_surface { x with acked := true }))).configured
            xdg := hserial
        simp [accept, hxdg, hrole, mem_act_configured hserial, act_acknowledge hput, act_put]
      · cases h
  | pong wm_base serial =>
      simp only [accept] at h
      split at h
      · rename_i hbase
        simp only [Option.ite_none_right_eq_some, Option.some.injEq] at h
        obtain ⟨hserial, rfl⟩ := h
        simp [accept, hbase, mem_act_pinged hserial, act_answer hserial]
      · cases h
  | destroy id =>
      simp only [accept, destroy] at h
      split at h
      · rename_i htop
        split at h
        · rename_i hxdg
          obtain rfl := Option.some.inj h
          simp [accept, destroy, htop, hxdg, act_put]
        · cases h
      · rename_i hxdg
        split at h
        · rename_i hrole hsurface hbase
          obtain rfl := Option.some.inj h
          simp [accept, destroy, hxdg, hrole, hsurface, hbase, act_put]
        · cases h
      · rename_i hsurface
        obtain rfl := Option.some.inj h
        simp [accept, destroy, hsurface, act_put]
      · rename_i hbase
        obtain rfl := Option.some.inj h
        simp [accept, destroy, hbase, act_put]
      · cases h

end Compositor

/-- **No request in flight can tell what the compositor does on its own.** -/
theorem settles_act {c d : Compositor} {queue : List Request}
    (h : Settles Compositor.accept c queue d) (o : Own) :
    Settles Compositor.accept (c.act o) queue (d.act o) :=
  h.own (f := fun c => c.act o) fun _ _ _ haccept => Compositor.accept_act haccept o

/-! ## What requests in flight leave as it is -/

/-- Whether a request is a destructor. -/
def Request.isDestroy : Request → Bool
  | .destroy _ => true
  | _ => false

/-- What becomes of an object that is not destroyed: it gains a role, a state, children. -/
def Object.Grows : Object → Object → Prop
  | .compositor, .compositor | .other, .other => True
  | .wm_base version _, .wm_base version' _ => version = version'
  | .surface xdg _, .surface xdg' _ => xdg.isSome = true → xdg' = xdg
  | .xdg_surface x, .xdg_surface x' =>
      x'.version = x.version ∧ (x.toplevel.isSome = true → x'.toplevel = x.toplevel) ∧
        (x.committed = true → x'.committed = true)
  | .toplevel xdg, .toplevel xdg' => xdg' = xdg
  | _, _ => False

theorem Object.Grows.refl (o : Object) : o.Grows o := by
  cases o <;> simp [Grows]

theorem Object.Grows.trans {o o' o'' : Object} (h : o.Grows o') (h' : o'.Grows o'') :
    o.Grows o'' := by
  cases o <;> cases o' <;> simp only [Grows] at h <;> cases o'' <;> simp only [Grows] at h' ⊢
  · exact h.trans h'
  · intro hx
    have heq := h hx
    rw [← heq] at hx ⊢
    exact h' hx
  · obtain ⟨hv, ht, hc⟩ := h
    obtain ⟨hv', ht', hc'⟩ := h'
    refine ⟨hv'.trans hv, fun hx => ?_, fun hx => hc' (hc hx)⟩
    have heq := ht hx
    rw [← heq] at hx ⊢
    exact ht' hx
  · exact h'.trans h

namespace Compositor

variable {c c' c'' : Compositor} {r : Request} {o : Own}

/-- Every object of `c` is still there in `c'`. -/
def Grows (c c' : Compositor) : Prop :=
  ∀ id o, c.objects id = some o → ∃ o', c'.objects id = some o' ∧ o.Grows o'

theorem Grows.of_eq (h : c'.objects = c.objects) : c.Grows c' := by
  intro id o ho
  exact ⟨o, by rw [h, ho], .refl o⟩

theorem Grows.trans (h : c.Grows c') (h' : c'.Grows c'') : c.Grows c'' := by
  intro id o ho
  obtain ⟨o', ho', hgrow⟩ := h id o ho
  obtain ⟨o'', ho'', hgrow'⟩ := h' id o' ho'
  exact ⟨o'', ho'', hgrow.trans hgrow'⟩

/-- An object is made, or an object grows. -/
theorem Grows.put {id : ℕ} {x : Object} (h : ∀ o, c.objects id = some o → o.Grows x) :
    c.Grows (c.put id (some x)) := by
  intro id' o ho
  by_cases hid : id' = id
  · subst hid
    exact ⟨x, by simp, h o ho⟩
  · exact ⟨o, by simpa [hid] using ho, .refl o⟩

/-- A new object. -/
theorem Grows.new {id : ℕ} (h : c.objects id = none) (x : Object) :
    c.Grows (c.put id (some x)) := .put fun o ho => by simp [h] at ho

/-- An object in another state. -/
theorem Grows.change {id : ℕ} {x x' : Object} (h : c.objects id = some x) (hx : x.Grows x') :
    c.Grows (c.put id (some x')) :=
  .put fun o ho => by
    obtain rfl := Option.some.inj (h.symm.trans ho)
    exact hx

/-- **Only a destructor takes an object away.** -/
theorem accept_grows (hr : r.isDestroy = false) (h : c.accept r = some c') : c.Grows c' := by
  cases r with
  | get_registry | sync =>
      obtain rfl := Option.some.inj h
      exact .of_eq rfl
  | bind name interface version id =>
      simp only [accept, Option.ite_none_right_eq_some, Option.some.injEq] at h
      obtain ⟨⟨-, -, hid⟩, rfl⟩ := h
      exact .new hid _
  | create_surface compositor id =>
      simp only [accept, Option.ite_none_right_eq_some, Option.some.injEq] at h
      obtain ⟨⟨-, hid⟩, rfl⟩ := h
      exact .new hid _
  | get_xdg_surface wm_base id surface =>
      simp only [accept] at h
      split at h
      · rename_i version surfaces hbase hsurface
        simp only [Option.ite_none_right_eq_some, Option.some.injEq] at h
        obtain ⟨hid, rfl⟩ := h
        have hne : wm_base ≠ surface := by
          intro heq
          rw [heq, hsurface] at hbase
          cases hbase
        have hidb : id ≠ wm_base := by
          intro heq
          rw [heq, hbase] at hid
          cases hid
        have hids : id ≠ surface := by
          intro heq
          rw [heq, hsurface] at hid
          cases hid
        have hone : c.Grows (c.put surface (some (.surface (some id) false))) :=
          .change hsurface (by simp [Object.Grows])
        refine hone.trans ((Grows.change (x := .wm_base version surfaces) ?_ ?_).trans (.new ?_ _))
        · simpa [hne] using hbase
        · exact rfl
        · simpa [hids, hidb] using hid
      · cases h
  | get_toplevel xdg id =>
      simp only [accept] at h
      split at h
      · rename_i x hxdg
        simp only [Option.ite_none_right_eq_some, Option.some.injEq] at h
        obtain ⟨⟨hrole, hid⟩, rfl⟩ := h
        have hne : id ≠ xdg := by
          intro heq
          rw [heq, hxdg] at hid
          cases hid
        refine (Grows.change hxdg ?_).trans (.new ?_ _)
        · exact ⟨rfl, by simp [hrole], fun hx => hx⟩
        · simpa [hne] using hid
      · cases h
  | set_title toplevel title | set_app_id toplevel app_id =>
      simp only [accept] at h
      split at h
      · obtain rfl := Option.some.inj h
        exact .of_eq rfl
      · cases h
  | attach surface =>
      simp only [accept] at h
      split at h
      · rename_i hsurface
        obtain rfl := Option.some.inj h
        exact .change hsurface fun _ => rfl
      · cases h
  | commit surface =>
      simp only [accept] at h
      split at h
      · obtain rfl := Option.some.inj h
        exact .of_eq rfl
      · split at h
        · rename_i hxdg
          simp only [Option.ite_none_right_eq_some, Option.some.injEq] at h
          obtain ⟨-, rfl⟩ := h
          exact .change hxdg ⟨rfl, fun _ => rfl, fun _ => rfl⟩
        · cases h
      · cases h
  | ack_configure xdg serial =>
      simp only [accept] at h
      split at h
      · rename_i hxdg
        simp only [Option.ite_none_right_eq_some, Option.some.injEq] at h
        obtain ⟨-, rfl⟩ := h
        exact Grows.change hxdg ⟨rfl, fun _ => rfl, id⟩
      · cases h
  | pong wm_base serial =>
      simp only [accept] at h
      split at h
      · simp only [Option.ite_none_right_eq_some, Option.some.injEq] at h
        obtain ⟨-, rfl⟩ := h
        exact .of_eq rfl
      · cases h
  | destroy id => cases hr

/-- The globals and the registry are not the client's to change. -/
theorem accept_globals (h : c.accept r = some c') :
    c'.globals = c.globals ∧ (c.registry = true → c'.registry = true) := by
  cases r with
  | get_registry | sync =>
      obtain rfl := Option.some.inj h
      exact ⟨rfl, by simp⟩
  | bind | create_surface =>
      simp only [accept, Option.ite_none_right_eq_some, Option.some.injEq] at h
      obtain ⟨-, rfl⟩ := h
      exact ⟨rfl, id⟩
  | destroy =>
      simp only [accept, destroy] at h
      grind [Compositor.put]
  | _ =>
      simp only [accept] at h
      grind [Compositor.put, acknowledge, answer]

/-- The version of a toplevel stays. -/
theorem Grows.toplevelVersion (h : c.Grows c') {toplevel : ℕ} {v : UInt32}
    (hv : c.toplevelVersion toplevel = some v) : c'.toplevelVersion toplevel = some v := by
  simp only [Compositor.toplevelVersion] at hv
  split at hv
  · rename_i xdg htop
    split at hv
    · rename_i x hxdg
      obtain ⟨o', ho', hgrow⟩ := h toplevel _ htop
      obtain ⟨x', hx', hgrow'⟩ := h xdg _ hxdg
      cases o' <;> simp only [Object.Grows] at hgrow
      subst hgrow
      cases x' <;> simp only [Object.Grows] at hgrow'
      simpa [Compositor.toplevelVersion, ho', hx', hgrow'.1] using hv
    · cases hv
  · cases hv

/-- What the compositor may do it still may when more objects are there. -/
theorem Grows.may (h : c.Grows c') (hreg : c.registry = true → c'.registry = true)
    (hmay : c.May o) : c'.May o := by
  cases o with
  | advertise g => exact ⟨hreg hmay.1, hmay.2⟩
  | withdraw name => exact hreg hmay
  | ping wm_base serial =>
      simp only [May] at hmay ⊢
      split at hmay
      · rename_i hbase
        obtain ⟨o', ho', hgrow⟩ := h wm_base _ hbase
        cases o' <;> simp only [Object.Grows] at hgrow
        simp [ho']
      · exact hmay.elim
  | configure xdg serial =>
      simp only [May] at hmay ⊢
      split at hmay
      · rename_i hxdg
        obtain ⟨o', ho', hgrow⟩ := h xdg _ hxdg
        cases o' <;> simp only [Object.Grows] at hgrow
        simp [ho', hgrow.2.1 hmay.1, hgrow.2.2 hmay.2, hmay.1]
      · exact hmay.elim
  | toplevel_configure toplevel | close toplevel =>
      simp only [May] at hmay ⊢
      obtain ⟨v, hv⟩ := Option.isSome_iff_exists.mp hmay
      simp [h.toplevelVersion hv]
  | configure_bounds toplevel | wm_capabilities toplevel =>
      obtain ⟨v, hv, hle⟩ := hmay
      exact ⟨v, h.toplevelVersion hv, hle⟩

end Compositor

/-- What holds of a compositor when it has read requests without a destructor. -/
theorem settles_grows {c d : Compositor} {queue : List Request}
    (hq : ∀ r ∈ queue, r.isDestroy = false) (h : Settles Compositor.accept c queue d) :
    c.Grows d ∧ (c.registry = true → d.registry = true) ∧ d.globals = c.globals := by
  refine h.keeps (P := fun c' => c.Grows c' ∧ (c.registry = true → c'.registry = true) ∧
    c'.globals = c.globals) (C := fun r => r.isDestroy = false) ?_ hq
    ⟨.of_eq rfl, fun hr => hr, rfl⟩
  intro c' r c'' hc hr haccept
  obtain ⟨hgrow, hreg, hglobals⟩ := hc
  obtain ⟨hglobals', hreg'⟩ := Compositor.accept_globals haccept
  exact ⟨hgrow.trans (Compositor.accept_grows hr haccept), fun h => hreg' (hreg h),
    hglobals'.trans hglobals⟩

/-! ## Questions and answers -/

/-- The serial that a request acknowledges for an `xdg_surface`. -/
def Request.ack (xdg : ℕ) : Request → Option UInt32
  | .ack_configure xdg' serial => if xdg' = xdg then some serial else none
  | _ => none

/-- The serial that a request answers for an `xdg_wm_base`. -/
def Request.pongOf (wm_base : ℕ) : Request → Option UInt32
  | .pong wm_base' serial => if wm_base' = wm_base then some serial else none
  | _ => none

/-- The serial of a configure of an `xdg_surface`. -/
def Event.configureOf (xdg : ℕ) : Event → Option UInt32
  | .configure xdg' serial => if xdg' = xdg then some serial else none
  | _ => none

/-- The serial of a ping of an `xdg_wm_base`. -/
def Event.pingOf (wm_base : ℕ) : Event → Option UInt32
  | .ping wm_base' serial => if wm_base' = wm_base then some serial else none
  | _ => none

/-- The answer that an event asks for. -/
def Event.answers : Event → List Request
  | .ping wm_base serial => [.pong wm_base serial]
  | .configure xdg serial => [.ack_configure xdg serial]
  | _ => []

/-- Whether a request answers an event. -/
def Request.isAnswer : Request → Bool
  | .pong .. | .ack_configure .. => true
  | _ => false

/-- **Every question is either unread or answered, in order**: what the compositor waits
for is what the requests in flight answer and then what the events in flight ask. -/
structure Waits (c : Compositor) (queue : List Request) (events : List Event) : Prop where
  configured : ∀ xdg, c.configured xdg =
    queue.filterMap (Request.ack xdg) ++ events.filterMap (Event.configureOf xdg)
  pinged : ∀ wm_base, c.pinged wm_base =
    queue.filterMap (Request.pongOf wm_base) ++ events.filterMap (Event.pingOf wm_base)

/-- A request that answers nothing leaves what the compositor waits for. -/
theorem Compositor.accept_waits {c c' : Compositor} {r : Request} (hr : r.isAnswer = false)
    (h : c.accept r = some c') : c'.configured = c.configured ∧ c'.pinged = c.pinged := by
  cases r with
  | ack_configure | pong => cases hr
  | get_registry | sync =>
      obtain rfl := Option.some.inj h
      exact ⟨rfl, rfl⟩
  | bind | create_surface =>
      simp only [accept, Option.ite_none_right_eq_some, Option.some.injEq] at h
      obtain ⟨-, rfl⟩ := h
      exact ⟨rfl, rfl⟩
  | destroy =>
      simp only [accept, destroy] at h
      grind [Compositor.put]
  | _ =>
      simp only [accept] at h
      grind [Compositor.put]

namespace Waits

variable {c c' : Compositor} {queue : List Request} {events : List Event} {r : Request}

theorem init : Waits {} [] [] := ⟨fun _ => rfl, fun _ => rfl⟩

/-- Requests that answer nothing. -/
theorem send (h : Waits c queue events) {requests : List Request}
    (hr : ∀ r ∈ requests, r.isAnswer = false) : Waits c (queue ++ requests) events := by
  constructor
  · intro xdg
    have hacks : requests.filterMap (Request.ack xdg) = [] := by
      refine List.filterMap_eq_nil_iff.mpr fun r hmem => ?_
      have hno := hr r hmem
      cases r <;> first | rfl | cases hno
    rw [h.configured, List.filterMap_append, hacks, List.append_nil]
  · intro wm_base
    have hpongs : requests.filterMap (Request.pongOf wm_base) = [] := by
      refine List.filterMap_eq_nil_iff.mpr fun r hmem => ?_
      have hno := hr r hmem
      cases r <;> first | rfl | cases hno
    rw [h.pinged, List.filterMap_append, hpongs, List.append_nil]

/-- The client reads an event and answers it. -/
theorem answer {e : Event} (h : Waits c queue (e :: events)) :
    Waits c (queue ++ e.answers) events := by
  constructor
  · intro xdg
    rw [h.configured, List.filterMap_append, List.append_assoc]
    cases e <;> simp [Event.answers, Event.configureOf, Request.ack, List.filterMap_cons]
    split <;> rfl
  · intro wm_base
    rw [h.pinged, List.filterMap_append, List.append_assoc]
    cases e <;> simp [Event.answers, Event.pingOf, Request.pongOf, List.filterMap_cons]
    split <;> rfl

/-- Events that ask nothing. -/
theorem tell (h : Waits c queue events) {more : List Event}
    (hmore : ∀ e ∈ more, e.answers = []) : Waits c queue (events ++ more) := by
  constructor
  · intro xdg
    have hconf : more.filterMap (Event.configureOf xdg) = [] := by
      refine List.filterMap_eq_nil_iff.mpr fun e hmem => ?_
      have hno := hmore e hmem
      cases e <;> first | rfl | cases hno
    rw [h.configured, List.filterMap_append, hconf, List.append_nil]
  · intro wm_base
    have hping : more.filterMap (Event.pingOf wm_base) = [] := by
      refine List.filterMap_eq_nil_iff.mpr fun e hmem => ?_
      have hno := hmore e hmem
      cases e <;> first | rfl | cases hno
    rw [h.pinged, List.filterMap_append, hping, List.append_nil]

/-- The compositor acts on its own. -/
theorem act (h : Waits c queue events) (o : Own) :
    Waits (c.act o) queue (events ++ [o.event]) := by
  constructor
  · intro xdg
    have hconf := h.configured xdg
    cases o with
    | configure xdg' serial =>
        by_cases hx : xdg = xdg'
        · subst hx
          simp [Compositor.act, Own.event, Event.configureOf, hconf]
        · simp [Compositor.act, Own.event, Event.configureOf, hconf, hx, Ne.symm hx]
    | _ => simpa [Compositor.act, Own.event, Event.configureOf, List.filterMap_cons] using hconf
  · intro wm_base
    have hping := h.pinged wm_base
    cases o with
    | ping wm_base' serial =>
        by_cases hw : wm_base = wm_base'
        · subst hw
          simp [Compositor.act, Own.event, Event.pingOf, hping]
        · simp [Compositor.act, Own.event, Event.pingOf, hping, hw, Ne.symm hw]
    | _ => simpa [Compositor.act, Own.event, Event.pingOf, List.filterMap_cons] using hping

/-- **The compositor reads a request**, and what it waits for is the rest. -/
theorem serve (h : Waits c (r :: queue) events) (haccept : c.accept r = some c') :
    Waits c' queue events := by
  cases hr : r.isAnswer with
  | false =>
      obtain ⟨hconf, hping⟩ := Compositor.accept_waits hr haccept
      constructor
      · intro xdg
        have hold := h.configured xdg
        cases r <;> first | (rw [hconf]; exact hold) | cases hr
      · intro wm_base
        have hold := h.pinged wm_base
        cases r <;> first | (rw [hping]; exact hold) | cases hr
  | true =>
      cases r with
      | ack_configure xdg serial =>
          simp only [Compositor.accept] at haccept
          split at haccept
          · simp only [Option.ite_none_right_eq_some, Option.some.injEq] at haccept
            obtain ⟨-, rfl⟩ := haccept
            refine ⟨fun xdg' => ?_, h.pinged⟩
            have hold := h.configured xdg'
            by_cases hx : xdg' = xdg
            · subst hx
              simp only [Request.ack, List.filterMap_cons, if_pos] at hold
              simp [Compositor.acknowledge, Compositor.put, hold, Compositor.afterSerial]
            · simpa [Compositor.acknowledge, Compositor.put, hx, Request.ack, Ne.symm hx] using hold
          · cases haccept
      | pong wm_base serial =>
          simp only [Compositor.accept] at haccept
          split at haccept
          · simp only [Option.ite_none_right_eq_some, Option.some.injEq] at haccept
            obtain ⟨-, rfl⟩ := haccept
            refine ⟨h.configured, fun wm_base' => ?_⟩
            have hold := h.pinged wm_base'
            by_cases hw : wm_base' = wm_base
            · subst hw
              simp only [Request.pongOf, List.filterMap_cons, if_pos] at hold
              simp [Compositor.answer, hold]
            · simpa [Compositor.answer, hw, Request.pongOf, Ne.symm hw] using hold
          · cases haccept
      | _ => cases hr

/-- With nothing in flight, nothing is owed. -/
theorem nothing (h : Waits c [] []) (id : ℕ) : c.configured id = [] ∧ c.pinged id = [] :=
  ⟨h.configured id, h.pinged id⟩

/-- **A settled compositor waits for what the client has not read.** -/
theorem settles {d : Compositor} (h : Waits c queue events)
    (hd : Settles Compositor.accept c queue d) : Waits d [] events := by
  induction queue generalizing c with
  | nil =>
      obtain rfl : c = d := Option.some.inj hd
      exact h
  | cons r queue ih =>
      obtain ⟨c', hr, hrest⟩ := hd.serve
      exact ih (h.serve hr) hrest

end Waits

end XdgShell
