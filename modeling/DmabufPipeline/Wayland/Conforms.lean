import DmabufPipeline.Wayland.Window

/-!
# The window keeps to the protocol

The state that the window may reason about is that of a compositor that has read all the
requests in flight. The two agree on the objects that the window has made (`Live`), and
each thing that the window does keeps it so: a settled compositor accepts what the handlers,
`create`, a swap and the destruction request.

## Main definitions

* `Live` — what the window and a settled compositor agree on.
* `Agree` — the invariant of all runs.
* `conforms` — no run meets a protocol error or a listener that is not there.
* `owes_nothing` — every ping and every configure is answered once, in order.
-/

namespace DmabufPipeline

namespace Wayland

open InFlight Transition XdgShell

/-! ## What the two sides agree on -/

/-- The window has been created. -/
def Pc.isMade : Pc → Bool
  | .configuring | .loopTest | .frame | .dispatch => true
  | _ => false

/-- The first configure was waited for. -/
def Pc.isOpen : Pc → Bool
  | .loopTest | .frame | .dispatch => true
  | _ => false

/-- The window of `create`, as the compositor knows it. -/
structure Made (w : WaylandWindow) (d : Compositor) (surface xdg toplevel : ℕ)
    (x : XdgSurface) (buffer : Bool) : Prop where
  surface_id : w.surface = some surface
  xdg_id : w.xdg_surface = some xdg
  toplevel_id : w.xdg_toplevel = some toplevel
  surface_object : d.objects surface = some (.surface (some xdg) buffer)
  xdg_object : d.objects xdg = some (.xdg_surface x)
  toplevel_object : d.objects toplevel = some (.toplevel xdg)
  of_surface : x.surface = surface
  role : x.toplevel = some toplevel
  base : ∃ v surfaces, d.objects x.wm_base = some (.wm_base v surfaces)

/-- **What the window and a settled compositor agree on**, with the events that the window
has not read. -/
structure Live (w : WaylandWindow) (pc : Pc) (events : List Event) (d : Compositor) : Prop where
  registry : pc ≠ .connecting → d.registry = true
  compositor : ∀ id, w.compositor = some id → d.objects id = some .compositor
  wm_base : ∀ id, w.wm_base = some id → ∃ surfaces, d.objects id = some (.wm_base 1 surfaces)
  /-- Every `xdg_wm_base` is bound at version 1 and has at most the one `xdg_surface`. -/
  bases : ∀ id v surfaces, d.objects id = some (.wm_base v surfaces) →
    v = 1 ∧ (surfaces = [] ∨ ∃ xdg x, surfaces = [xdg] ∧
      d.objects xdg = some (.xdg_surface x) ∧ x.wm_base = id)
  /-- There is no other `xdg_surface`. -/
  xdg : ∀ id x, d.objects id = some (.xdg_surface x) →
    w.xdg_surface = some id ∧ x.version = 1 ∧ (w.configured = true → x.acked = true)
  fresh : ∀ id, w.next ≤ id → d.objects id = none
  unmade : pc.isMade = false →
    w.surface = none ∧ w.xdg_surface = none ∧ w.xdg_toplevel = none ∧ w.configured = false
  made : pc.isMade = true → ∃ surface xdg toplevel x buffer,
    Made w d surface xdg toplevel x buffer
  configured : pc.isOpen = true → w.configured = true
  versions : ∀ g ∈ d.globals, 1 ≤ g.version
  globals : ∀ name interface version, .global name interface version ∈ events →
    ⟨name, interface, version⟩ ∈ d.globals
  pings : ∀ id serial, .ping id serial ∈ events →
    ∃ v surfaces, d.objects id = some (.wm_base v surfaces)
  configures : ∀ id serial, .configure id serial ∈ events →
    ∃ x, d.objects id = some (.xdg_surface x) ∧ x.toplevel.isSome = true
  listeners : ∀ L, ∀ e ∈ events, nullListener L e = false

namespace Live

variable {w w' : WaylandWindow} {pc pc' : Pc} {events : List Event} {d d' : Compositor}
  {e : Event} {L : Lang}

/-- Nothing is there at first. -/
theorem init : Live {} .connecting [] {} where
  registry h := (h rfl).elim
  compositor _ h := by cases h
  wm_base _ h := by cases h
  bases _ _ _ h := by cases h
  xdg _ _ h := by cases h
  fresh _ _ := rfl
  unmade _ := ⟨rfl, rfl, rfl, rfl⟩
  made h := by cases h
  configured h := by cases h
  versions _ h := by cases h
  globals _ _ _ h := by cases h
  pings _ _ h := by cases h
  configures _ _ h := by cases h
  listeners _ _ h := by cases h

/-- An event is read. -/
theorem read (h : Live w pc (e :: events) d) : Live w pc events d :=
  { h with
    globals := fun name interface version hmem => h.globals name interface version (.tail e hmem)
    pings := fun id serial hmem => h.pings id serial (.tail e hmem)
    configures := fun id serial hmem => h.configures id serial (.tail e hmem)
    listeners := fun L e' hmem => h.listeners L e' (.tail e hmem) }

/-- The subscriber is elsewhere in its use of the window. -/
theorem goto (h : Live w pc events d) (hpc : pc ≠ .connecting) (hmade : pc'.isMade = pc.isMade)
    (hopen : pc'.isOpen = true → w.configured = true) : Live w pc' events d :=
  { h with
    registry := fun _ => h.registry hpc
    unmade := fun hm => h.unmade (hmade ▸ hm)
    made := fun hm => h.made (hmade ▸ hm)
    configured := hopen }

/-- A compositor with the same objects. -/
theorem congr (h : Live w pc events d) (hobjects : d'.objects = d.objects)
    (hglobals : d'.globals = d.globals) (hreg : d.registry = true → d'.registry = true) :
    Live w pc events d' where
  registry hne := hreg (h.registry hne)
  compositor := hobjects ▸ h.compositor
  wm_base := hobjects ▸ h.wm_base
  bases := hobjects ▸ h.bases
  xdg := hobjects ▸ h.xdg
  fresh := hobjects ▸ h.fresh
  unmade := h.unmade
  made hm := by
    obtain ⟨surface, xdg, toplevel, x, buffer, hmade⟩ := h.made hm
    refine ⟨surface, xdg, toplevel, x, buffer, ?_⟩
    exact { hmade with
      surface_object := hobjects ▸ hmade.surface_object
      xdg_object := hobjects ▸ hmade.xdg_object
      toplevel_object := hobjects ▸ hmade.toplevel_object
      base := hobjects ▸ hmade.base }
  configured := h.configured
  versions := hglobals ▸ h.versions
  globals := hglobals ▸ h.globals
  pings := hobjects ▸ h.pings
  configures := hobjects ▸ h.configures
  listeners := h.listeners

/-- **A global is bound** to the next object. -/
theorem bound (h : Live w pc events d) {o : Object} {compositor wm_base : Option ℕ}
    (ho : o = .compositor ∨ o = .wm_base 1 [])
    (hc : compositor = w.compositor ∨ compositor = some w.next ∧ o = .compositor)
    (hb : wm_base = w.wm_base ∨ wm_base = some w.next ∧ o = .wm_base 1 []) :
    Live { w with compositor := compositor, wm_base := wm_base, next := w.next + 1 } pc events
      (d.put w.next (some o)) := by
  have hfresh := h.fresh w.next le_rfl
  have hkeep (id : ℕ) (x : Object) (hx : d.objects id = some x) :
      (d.put w.next (some o)).objects id = some x := by
    have hne : id ≠ w.next := by
      intro heq
      rw [heq, hfresh] at hx
      cases hx
    simpa [hne] using hx
  have hsplit (id : ℕ) (x : Object) (hx : (d.put w.next (some o)).objects id = some x) :
      id = w.next ∧ x = o ∨ d.objects id = some x := by
    by_cases hid : id = w.next
    · subst hid
      exact .inl ⟨rfl, by simpa using hx.symm⟩
    · exact .inr (by simpa [hid] using hx)
  have hnew : (d.put w.next (some o)).objects w.next = some o := by simp
  constructor
  · exact h.registry
  · intro id hid
    rcases hc with hc | ⟨hc, rfl⟩
    · exact hkeep id _ (h.compositor id (hc ▸ hid))
    · obtain rfl := Option.some.inj (hc.symm.trans hid)
      exact hnew
  · intro id hid
    rcases hb with hb | ⟨hb, rfl⟩
    · obtain ⟨surfaces, hs⟩ := h.wm_base id (hb ▸ hid)
      exact ⟨surfaces, hkeep id _ hs⟩
    · obtain rfl := Option.some.inj (hb.symm.trans hid)
      exact ⟨[], hnew⟩
  · intro id v surfaces hid
    rcases hsplit id _ hid with ⟨-, rfl⟩ | hold
    · rcases ho with ho | ho
      · cases ho
      · cases ho
        exact ⟨rfl, .inl rfl⟩
    · obtain ⟨hv, hempty | ⟨xdg, x, hs, hx, hbase⟩⟩ := h.bases id v surfaces hold
      · exact ⟨hv, .inl hempty⟩
      · exact ⟨hv, .inr ⟨xdg, x, hs, hkeep xdg _ hx, hbase⟩⟩
  · intro id x hid
    rcases hsplit id _ hid with ⟨-, rfl⟩ | hold
    · rcases ho with ho | ho <;> cases ho
    · exact h.xdg id x hold
  · intro id hid
    have hid : w.next + 1 ≤ id := hid
    have hne : id ≠ w.next := by omega
    simpa [hne] using h.fresh id (by omega)
  · exact h.unmade
  · intro hm
    obtain ⟨surface, xdg, toplevel, x, buffer, hmade⟩ := h.made hm
    obtain ⟨v, surfaces, hbase⟩ := hmade.base
    refine ⟨surface, xdg, toplevel, x, buffer, ?_⟩
    exact { hmade with
      surface_object := hkeep _ _ hmade.surface_object
      xdg_object := hkeep _ _ hmade.xdg_object
      toplevel_object := hkeep _ _ hmade.toplevel_object
      base := ⟨v, surfaces, hkeep _ _ hbase⟩ }
  · exact h.configured
  · exact h.versions
  · exact h.globals
  · intro id serial hmem
    obtain ⟨v, surfaces, hbase⟩ := h.pings id serial hmem
    exact ⟨v, surfaces, hkeep id _ hbase⟩
  · intro id serial hmem
    obtain ⟨x, hx, hrole⟩ := h.configures id serial hmem
    exact ⟨x, hkeep id _ hx, hrole⟩
  · exact h.listeners

/-- **The `xdg_surface` changes its state**, not its role. -/
theorem changed (h : Live w pc events d) {xdg : ℕ} {x : XdgSurface} (x' : XdgSurface)
    (configured : Bool) (hx : d.objects xdg = some (.xdg_surface x))
    (hversion : x'.version = x.version) (hbase : x'.wm_base = x.wm_base)
    (hsurface : x'.surface = x.surface) (hrole : x'.toplevel = x.toplevel)
    (hacked : configured = true → x'.acked = true) (hconf : pc.isOpen = true → configured = true) :
    Live { w with configured := configured } pc events
      (d.put xdg (some (.xdg_surface x'))) := by
  obtain ⟨hwindow, hv, -⟩ := h.xdg xdg x hx
  have hkeep (id : ℕ) (o : Object) (ho : d.objects id = some o) (hne : ∀ y, o ≠ .xdg_surface y) :
      (d.put xdg (some (.xdg_surface x'))).objects id = some o := by
    have hid : id ≠ xdg := by
      intro heq
      rw [heq, hx] at ho
      exact hne x (Option.some.inj ho).symm
    simpa [hid] using ho
  have hback (id : ℕ) (o : Object) (ho : (d.put xdg (some (.xdg_surface x'))).objects id = some o)
      (hne : ∀ y, o ≠ .xdg_surface y) : d.objects id = some o := by
    have hid : id ≠ xdg := by
      intro heq
      subst heq
      have heq : some (Object.xdg_surface x') = some o := by simpa using ho
      exact hne x' (Option.some.inj heq).symm
    simpa [hid] using ho
  have hnew : (d.put xdg (some (.xdg_surface x'))).objects xdg = some (.xdg_surface x') := by simp
  have hmade (hm : pc.isMade = true) : ∃ surface id toplevel y buffer,
      Made { w with configured := configured } (d.put xdg (some (.xdg_surface x'))) surface id
        toplevel y buffer := by
    obtain ⟨surface, xdg', toplevel, y, buffer, hmade⟩ := h.made hm
    obtain rfl : xdg = xdg' := Option.some.inj (hwindow.symm.trans hmade.xdg_id)
    obtain rfl : x = y := by simpa using hx.symm.trans hmade.xdg_object
    obtain ⟨v, surfaces, hs⟩ := hmade.base
    refine ⟨surface, xdg, toplevel, x', buffer, ?_⟩
    exact { hmade with
      surface_object := hkeep _ _ hmade.surface_object (by simp)
      xdg_object := hnew
      toplevel_object := hkeep _ _ hmade.toplevel_object (by simp)
      of_surface := hsurface.trans hmade.of_surface
      role := hrole.trans hmade.role
      base := ⟨v, surfaces, hkeep _ _ (hbase ▸ hs) (by simp)⟩ }
  constructor
  · exact h.registry
  · intro id hid
    exact hkeep id _ (h.compositor id hid) (by simp)
  · intro id hid
    obtain ⟨surfaces, hs⟩ := h.wm_base id hid
    exact ⟨surfaces, hkeep id _ hs (by simp)⟩
  · intro id v surfaces hid
    obtain ⟨hv, hempty | ⟨xdg', y, hs, hy, hy'⟩⟩ :=
      h.bases id v surfaces (hback id _ hid (by simp))
    · exact ⟨hv, .inl hempty⟩
    · obtain rfl := Option.some.inj ((h.xdg xdg' y hy).1.symm.trans hwindow)
      obtain rfl : x = y := by simpa using hx.symm.trans hy
      exact ⟨hv, .inr ⟨xdg', x', hs, hnew, hbase.trans hy'⟩⟩
  · intro id y hid
    by_cases heq : id = xdg
    · subst heq
      have hy : x' = y := by simpa using hid
      subst hy
      exact ⟨hwindow, hversion.trans hv, hacked⟩
    · have hold : d.objects id = some (.xdg_surface y) := by simpa [heq] using hid
      have hsame := (h.xdg id y hold).1.symm.trans hwindow
      exact absurd (Option.some.inj hsame) heq
  · intro id hid
    have hfree := h.fresh id hid
    have hne : id ≠ xdg := by
      intro heq
      rw [heq, hx] at hfree
      cases hfree
    simpa [hne] using hfree
  · intro hm
    have hnone := (h.unmade hm).2.1
    rw [hwindow] at hnone
    cases hnone
  · exact hmade
  · exact hconf
  · exact h.versions
  · exact h.globals
  · intro id serial hmem
    obtain ⟨v, surfaces, hs⟩ := h.pings id serial hmem
    exact ⟨v, surfaces, hkeep id _ hs (by simp)⟩
  · intro id serial hmem
    obtain ⟨y, hy, hrole'⟩ := h.configures id serial hmem
    have hsame := (h.xdg id y hy).1.symm.trans hwindow
    obtain rfl := Option.some.inj hsame
    obtain rfl : x = y := by
      have heq := hx.symm.trans hy
      simpa using heq
    exact ⟨x', hnew, hrole ▸ hrole'⟩
  · exact h.listeners

end Live

/-! ## What the window does, a settled compositor accepts -/

/-- The handlers make no destructor request. -/
theorem WaylandWindow.event_isDestroy (w : WaylandWindow) (e : Event) :
    ∀ r ∈ (w.event e).2, r.isDestroy = false := by
  intro r hr
  cases e <;> simp [WaylandWindow.event] at hr
  case global name interface version =>
      split at hr
      · simp at hr
        simp [hr, Request.isDestroy]
      · split at hr
        · simp at hr
          simp [hr, Request.isDestroy]
        · simp at hr
  all_goals simp [hr, Request.isDestroy]

/-- **The handlers answer what is asked**, and nothing else. -/
theorem WaylandWindow.event_waits {c : Compositor} {queue : List Request} {e : Event}
    {events : List Event} (w : WaylandWindow) (h : Waits c queue (e :: events)) :
    Waits c (queue ++ (w.event e).2) events := by
  have hanswer := h.answer
  cases e with
  | global name interface version =>
      have hread : Waits c queue events := by simpa [Event.answers] using hanswer
      refine hread.send fun r hr => ?_
      simp only [WaylandWindow.event] at hr
      split at hr
      · simp at hr
        simp [hr, Request.isAnswer]
      · split at hr
        · simp at hr
          simp [hr, Request.isAnswer]
        · simp at hr
  | _ => exact hanswer

namespace Live

variable {w w' : WaylandWindow} {pc pc' : Pc} {events : List Event} {d d' : Compositor}
  {e : Event} {L : Lang}

/-- **A handler**: what it requests is accepted, and the two sides agree again. -/
theorem event (h : Live w pc (e :: events) d) (hpc : pc ≠ .connecting)
    (hwaits : Waits d [] (e :: events)) :
    ∃ d', Settles Compositor.accept d (w.event e).2 d' ∧ Live (w.event e).1 pc events d' := by
  cases e with
  | global name interface version =>
      have hoffer := h.globals name interface version List.mem_cons_self
      have hversion : 1 ≤ version := h.versions _ hoffer
      have hfresh := h.fresh w.next le_rfl
      have hreg := h.registry hpc
      simp only [WaylandWindow.event]
      split
      · rename_i hi
        have hle : (if version < 4 then version else 4) ≤ version := by
          split
          · exact UInt32.le_refl version
          · exact UInt32.not_lt.mp ‹_›
        have hoffers : d.Offers name interface (if version < 4 then version else 4) :=
          ⟨_, hoffer, rfl, rfl, hle⟩
        rw [hi] at hoffers
        refine ⟨d.put w.next (some .compositor), .cons _ ?_ (.nil _ _), ?_⟩
        · simp [Compositor.accept, hreg, hoffers, hfresh, Object.ofInterface, hi]
        · exact h.read.bound (.inl rfl) (.inr ⟨rfl, rfl⟩) (.inl rfl)
      · split
        · rename_i hi
          have hoffers : d.Offers name interface 1 := ⟨_, hoffer, rfl, rfl, hversion⟩
          rw [hi] at hoffers
          refine ⟨d.put w.next (some (.wm_base 1 [])), .cons _ ?_ (.nil _ _), ?_⟩
          · simp [Compositor.accept, hreg, hoffers, hfresh, Object.ofInterface, hi]
          · exact h.read.bound (.inr rfl) (.inl rfl) (.inr ⟨rfl, rfl⟩)
        · exact ⟨d, .nil _ _, h.read⟩
  | ping id serial =>
      obtain ⟨v, surfaces, hbase⟩ := h.pings id serial List.mem_cons_self
      have hserial : serial ∈ d.pinged id := by
        rw [hwaits.pinged id]
        simp [Event.pingOf]
      refine ⟨d.answer id serial, .cons _ ?_ (.nil _ _), ?_⟩
      · simp [Compositor.accept, hbase, hserial]
      · exact h.read.congr rfl rfl fun hr => hr
  | configure id serial =>
      obtain ⟨x, hx, hrole⟩ := h.configures id serial List.mem_cons_self
      have hserial : serial ∈ d.configured id := by
        rw [hwaits.configured id]
        simp [Event.configureOf]
      refine ⟨(d.put id (some (.xdg_surface { x with acked := true }))).acknowledge id serial,
        .cons _ ?_ (.nil _ _), ?_⟩
      · simp [Compositor.accept, hx, hrole, hserial]
      · have hacked := h.read.changed { x with acked := true } true hx rfl rfl rfl rfl
          (fun _ => rfl) fun _ => rfl
        exact hacked.congr rfl rfl fun hr => hr
  | close id =>
      refine ⟨d, .nil _ _, { h.read with made := fun hm => ?_ }⟩
      obtain ⟨surface, xdg, toplevel, x, buffer, hmade⟩ := h.made hm
      exact ⟨surface, xdg, toplevel, x, buffer, { hmade with }⟩
  | _ => exact ⟨d, .nil _ _, h.read⟩

/-- A compositor in which the window of `create` was made from an `xdg_wm_base`, with the
numbers from `n` on. -/
def withWindow (d : Compositor) (wm_base n : ℕ) : Compositor :=
  ((((d.put n (some (.surface (some (n + 1)) false))).put wm_base
    (some (.wm_base 1 [n + 1]))).put (n + 2) (some (.toplevel (n + 1)))).put (n + 1)
      (some (.xdg_surface { wm_base := wm_base, surface := n, version := 1,
                            toplevel := some (n + 2), committed := true })))

theorem withWindow_objects (d : Compositor) (wm_base n id : ℕ) :
    (withWindow d wm_base n).objects id =
      if id = n + 1 then
        some (.xdg_surface { wm_base := wm_base, surface := n, version := 1,
                             toplevel := some (n + 2), committed := true })
      else if id = n + 2 then some (.toplevel (n + 1))
      else if id = wm_base then some (.wm_base 1 [n + 1])
      else if id = n then some (.surface (some (n + 1)) false)
      else d.objects id := by
  simp only [withWindow, Compositor.put_objects, Function.update_apply]

/-- The requests of `create` are accepted where the two globals are bound, nothing was made
from the base, and the numbers are free. -/
theorem createSurface_settles {compositor wm_base : ℕ}
    (hcomp : d.objects compositor = some .compositor)
    (hbase : d.objects wm_base = some (.wm_base 1 []))
    (hfree : ∀ id, w.next ≤ id → d.objects id = none) (L : Lang) (title : String) :
    Settles Compositor.accept d (w.createSurface L title compositor wm_base).2
      (withWindow d wm_base w.next) := by
  have hfree0 := hfree w.next (by omega)
  have hfree1 := hfree (w.next + 1) (by omega)
  have hfree2 := hfree (w.next + 2) (by omega)
  have hused (id : ℕ) (hid : d.objects id = none) : wm_base ≠ id := by
    intro heq
    rw [← heq, hbase] at hid
    cases hid
  have hb0 := hused _ hfree0
  have hb1 := hused _ hfree1
  have hb2 := hused _ hfree2
  let x : XdgSurface := { wm_base := wm_base, surface := w.next, version := 1 }
  let d₁ := d.put w.next (some (.surface none false))
  let d₂ := ((d₁.put w.next (some (.surface (some (w.next + 1)) false))).put wm_base
    (some (.wm_base 1 [w.next + 1]))).put (w.next + 1) (some (.xdg_surface x))
  let d₃ := (d₂.put (w.next + 1) (some (.xdg_surface { x with toplevel := some (w.next + 2) }))).put
    (w.next + 2) (some (.toplevel (w.next + 1)))
  refine .cons d₁ ?_ (.cons d₂ ?_ (.cons d₃ ?_ (.cons d₃ ?_ (.cons d₃ ?_ (.cons _ ?_ (.nil _ _))))))
  · simp [Compositor.accept, hcomp, hfree0, d₁]
  · simp [Compositor.accept, hbase, hb0, hfree1, d₁, d₂, x]
  · simp [Compositor.accept, hb2.symm, hfree2, d₁, d₂, d₃, x]
  · simp [Compositor.accept, d₃]
  · simp [Compositor.accept, d₃]
  · have hsame : d₃.put (w.next + 1)
        (some (.xdg_surface { x with toplevel := some (w.next + 2), committed := true })) =
          withWindow d wm_base w.next := by
      simp only [withWindow, d₃, d₂, d₁, x, Compositor.put]
      congr 1
      ext id
      simp only [Function.update_apply]
      grind
    rw [← hsame]
    simp [Compositor.accept, hb0.symm, d₂, d₃]

/-- **`create` makes its window** in a settled compositor that has bound both globals. -/
theorem createSurface (h : Live w .roundtrip events d) {compositor wm_base : ℕ}
    (hc : w.compositor = some compositor) (hb : w.wm_base = some wm_base) (L : Lang)
    (title : String) :
    ∃ d', Settles Compositor.accept d (w.createSurface L title compositor wm_base).2 d' ∧
      Live (w.createSurface L title compositor wm_base).1 .configuring events d' := by
  have hcomp := h.compositor compositor hc
  obtain ⟨surfaces, hbase⟩ := h.wm_base wm_base hb
  obtain ⟨-, hnoxdg, -, hnoconf⟩ := h.unmade rfl
  -- No `xdg_surface` is there so far.
  have hnoold (id : ℕ) (y : XdgSurface) : d.objects id ≠ some (.xdg_surface y) := by
    intro hy
    have hxdg := (h.xdg id y hy).1
    rw [hnoxdg] at hxdg
    cases hxdg
  have hempty (id : ℕ) (v : UInt32) (s : List ℕ) (hs : d.objects id = some (.wm_base v s)) :
      v = 1 ∧ s = [] := by
    obtain ⟨hv, hs' | ⟨xdg, x, -, hx, -⟩⟩ := h.bases id v s hs
    · exact ⟨hv, hs'⟩
    · exact absurd hx (hnoold xdg x)
  obtain rfl := (hempty wm_base 1 surfaces hbase).2
  refine ⟨_, createSurface_settles hcomp hbase h.fresh L title, ?_⟩
  have hobj := withWindow_objects d wm_base w.next
  have hused (id : ℕ) (o : Object) (ho : d.objects id = some o) : id < w.next := by
    by_contra hid
    rw [h.fresh id (by omega)] at ho
    cases ho
  have hold (id : ℕ) (o : Object) (ho : d.objects id = some o) (hne : id ≠ wm_base) :
      (withWindow d wm_base w.next).objects id = some o := by
    have hid := hused id o ho
    rw [hobj, if_neg (by omega), if_neg (by omega), if_neg hne, if_neg (by omega), ho]
  have hnewBase : (withWindow d wm_base w.next).objects wm_base =
      some (.wm_base 1 [w.next + 1]) := by
    have hid := hused wm_base _ hbase
    rw [hobj, if_neg (by omega), if_neg (by omega), if_pos rfl]
  constructor
  · intro _
    exact h.registry (by decide)
  · intro id hid
    have hid : w.compositor = some id := by
      cases L with
      | rust => cases hid
      | cpp => exact hid
    have hobjc := h.compositor id hid
    refine hold id _ hobjc ?_
    intro heq
    rw [heq, hbase] at hobjc
    cases hobjc
  · intro id hid
    have hid : w.wm_base = some id := by
      cases L with
      | rust => cases hid
      | cpp => exact hid
    obtain rfl := Option.some.inj (hb.symm.trans hid)
    exact ⟨_, hnewBase⟩
  · intro id v surfaces hid
    by_cases hbase' : id = wm_base
    · subst hbase'
      rw [hnewBase] at hid
      cases hid
      exact ⟨rfl, .inr ⟨w.next + 1, _, rfl, by rw [hobj, if_pos rfl], rfl⟩⟩
    · rw [hobj] at hid
      obtain ⟨hv, hs⟩ := hempty id v surfaces (by grind)
      exact ⟨hv, .inl hs⟩
  · intro id y hid
    rw [hobj] at hid
    by_cases h1 : id = w.next + 1
    · subst h1
      rw [if_pos rfl] at hid
      cases hid
      refine ⟨rfl, rfl, fun hconf => ?_⟩
      rw [WaylandWindow.createSurface, hnoconf] at hconf
      cases hconf
    · exact absurd (by grind) (hnoold id y)
  · intro id hid
    have hid : w.next + 3 ≤ id := hid
    have hbase' := hused wm_base _ hbase
    rw [hobj, if_neg (by omega), if_neg (by omega), if_neg (by omega), if_neg (by omega)]
    exact h.fresh id (by omega)
  · intro hm
    cases hm
  · intro _
    have hid := hused wm_base _ hbase
    let x : XdgSurface :=
      { wm_base := wm_base, surface := w.next, version := 1, toplevel := some (w.next + 2),
        committed := true }
    refine ⟨w.next, w.next + 1, w.next + 2, x, false, rfl, rfl, rfl, ?_, ?_, ?_, rfl, rfl, 1,
      [w.next + 1], hnewBase⟩
    · rw [hobj, if_neg (by omega), if_neg (by omega), if_neg (by omega), if_pos rfl]
    · rw [hobj, if_pos rfl]
    · rw [hobj, if_neg (by omega), if_pos rfl]
  · intro hopen
    cases hopen
  · exact h.versions
  · exact h.globals
  · intro id serial hmem
    obtain ⟨v, surfaces, hping⟩ := h.pings id serial hmem
    by_cases hbase' : id = wm_base
    · subst hbase'
      exact ⟨1, _, hnewBase⟩
    · exact ⟨v, surfaces, hold id _ hping hbase'⟩
  · intro id serial hmem
    obtain ⟨y, hy, -⟩ := h.configures id serial hmem
    exact absurd hy (hnoold id y)
  · exact h.listeners

/-- A buffer is attached to the surface of the window. -/
theorem attached (h : Live w pc events d) {surface xdg : ℕ} {buffer : Bool}
    (hs : d.objects surface = some (.surface (some xdg) buffer)) :
    Live w pc events (d.put surface (some (.surface (some xdg) true))) := by
  have hne (id : ℕ) (o : Object) (ho : d.objects id = some o)
      (hno : ∀ x b, o ≠ .surface x b) : id ≠ surface := by
    intro heq
    rw [heq, hs] at ho
    exact hno _ _ (Option.some.inj ho).symm
  have hkeep (id : ℕ) (o : Object) (ho : d.objects id = some o)
      (hno : ∀ x b, o ≠ .surface x b) :
      (d.put surface (some (.surface (some xdg) true))).objects id = some o := by
    simpa [hne id o ho hno] using ho
  have hback (id : ℕ) (o : Object)
      (ho : (d.put surface (some (.surface (some xdg) true))).objects id = some o)
      (hno : ∀ x b, o ≠ .surface x b) : d.objects id = some o := by
    have hid : id ≠ surface := by
      intro heq
      subst heq
      have heq : some (Object.surface (some xdg) true) = some o := by simpa using ho
      exact hno _ _ (Option.some.inj heq).symm
    simpa [hid] using ho
  constructor
  · exact h.registry
  · intro id hid
    exact hkeep id _ (h.compositor id hid) (by simp)
  · intro id hid
    obtain ⟨surfaces, hb⟩ := h.wm_base id hid
    exact ⟨surfaces, hkeep id _ hb (by simp)⟩
  · intro id v surfaces hid
    obtain ⟨hv, hempty | ⟨xdg', y, hsurf, hy, hy'⟩⟩ :=
      h.bases id v surfaces (hback id _ hid (by simp))
    · exact ⟨hv, .inl hempty⟩
    · exact ⟨hv, .inr ⟨xdg', y, hsurf, hkeep xdg' _ hy (by simp), hy'⟩⟩
  · intro id x hid
    exact h.xdg id x (hback id _ hid (by simp))
  · intro id hid
    have hfree := h.fresh id hid
    have hid' : id ≠ surface := by
      intro heq
      rw [heq, hs] at hfree
      cases hfree
    simpa [hid'] using hfree
  · exact h.unmade
  · intro hm
    obtain ⟨surface', xdg', toplevel, x, buffer', hmade⟩ := h.made hm
    obtain ⟨v, surfaces, hb⟩ := hmade.base
    by_cases hsame : surface' = surface
    · subst hsame
      obtain ⟨rfl, -⟩ : xdg = xdg' ∧ buffer = buffer' := by
        simpa using hs.symm.trans hmade.surface_object
      refine ⟨surface', xdg, toplevel, x, true, ?_⟩
      exact { hmade with
        surface_object := by simp
        xdg_object := hkeep _ _ hmade.xdg_object (by simp)
        toplevel_object := hkeep _ _ hmade.toplevel_object (by simp)
        base := ⟨v, surfaces, hkeep _ _ hb (by simp)⟩ }
    · refine ⟨surface', xdg', toplevel, x, buffer', ?_⟩
      exact { hmade with
        surface_object := by simpa [hsame] using hmade.surface_object
        xdg_object := hkeep _ _ hmade.xdg_object (by simp)
        toplevel_object := hkeep _ _ hmade.toplevel_object (by simp)
        base := ⟨v, surfaces, hkeep _ _ hb (by simp)⟩ }
  · exact h.configured
  · exact h.versions
  · exact h.globals
  · intro id serial hmem
    obtain ⟨v, surfaces, hb⟩ := h.pings id serial hmem
    exact ⟨v, surfaces, hkeep id _ hb (by simp)⟩
  · intro id serial hmem
    obtain ⟨x, hx, hrole⟩ := h.configures id serial hmem
    exact ⟨x, hkeep id _ hx (by simp), hrole⟩
  · exact h.listeners

/-- **A swap** is accepted: a configure was acknowledged before. -/
theorem swap (h : Live w .frame events d) :
    ∃ d', Settles Compositor.accept d
        (w.surface.toList.flatMap fun surface => [.attach surface, .commit surface]) d' ∧
      Live w .dispatch events d' := by
  obtain ⟨surface, xdg, toplevel, x, buffer, hmade⟩ := h.made rfl
  have hconf := h.configured rfl
  have hacked := (h.xdg xdg x hmade.xdg_object).2.2 hconf
  have hattached := h.attached hmade.surface_object
  have hne : xdg ≠ surface := by
    intro heq
    have hobj := hmade.xdg_object
    rw [heq, hmade.surface_object] at hobj
    cases hobj
  have hx : (d.put surface (some (.surface (some xdg) true))).objects xdg =
      some (.xdg_surface x) := by
    simpa [hne] using hmade.xdg_object
  have hchanged := hattached.changed { x with committed := true } w.configured hx rfl rfl rfl rfl
    (fun _ => hacked) fun _ => hconf
  rw [hmade.surface_id]
  refine ⟨_, Settles.cons (d.put surface (some (.surface (some xdg) true))) ?_
    (Settles.cons _ ?_ (Settles.nil _ _)), hchanged.goto (by decide) rfl fun _ => hconf⟩
  · simp [Compositor.accept, hmade.surface_object]
  · simp [Compositor.accept, hx, hmade.role, hacked]

/-- **The destruction** is accepted, whatever was made: the role object goes first, and the
bases are empty at the end. -/
theorem destroy (h : Live w pc events d) (L : Lang) :
    ∃ d', Settles Compositor.accept d (w.destroy L) d' := by
  cases L with
  | rust => exact ⟨d, .nil _ _⟩
  | cpp =>
      -- An `xdg_wm_base` of the window has no `xdg_surface` left.
      have hlast (c : Compositor) (hb : ∀ id, w.wm_base = some id →
          c.objects id = some (.wm_base 1 [])) :
          ∃ d', Settles Compositor.accept c (w.wm_base.toList.map .destroy) d' := by
        cases hbase : w.wm_base with
        | none => exact ⟨c, .nil _ _⟩
        | some id =>
            refine ⟨c.put id none, .cons _ ?_ (.nil _ _)⟩
            simp [Compositor.accept, Compositor.destroy, hb id hbase]
      cases hm : pc.isMade with
      | false =>
          obtain ⟨hsurface, hxdg, htop, -⟩ := h.unmade hm
          have hbase (id : ℕ) (hid : w.wm_base = some id) :
              d.objects id = some (.wm_base 1 []) := by
            obtain ⟨surfaces, hs⟩ := h.wm_base id hid
            obtain ⟨-, rfl | ⟨xdg, x, -, hx, -⟩⟩ := h.bases id 1 surfaces hs
            · exact hs
            · have hwindow := (h.xdg xdg x hx).1
              rw [hxdg] at hwindow
              cases hwindow
          simpa [WaylandWindow.destroy, hsurface, hxdg, htop] using hlast d hbase
      | true =>
          obtain ⟨surface, xdg, toplevel, x, buffer, hmade⟩ := h.made hm
          obtain ⟨v, surfaces, hbase⟩ := hmade.base
          have hs := hmade.surface_object
          have hx := hmade.xdg_object
          have ht := hmade.toplevel_object
          have hne {i j : ℕ} {o o' : Object} (ho : d.objects i = some o)
              (ho' : d.objects j = some o') (hoo : o ≠ o') : i ≠ j := by
            intro heq
            subst heq
            exact hoo (Option.some.inj (ho.symm.trans ho'))
          have hst := hne hs ht (by simp)
          have hsx := hne hs hx (by simp)
          have hbt := hne hbase ht (by simp)
          have hbx := hne hbase hx (by simp)
          have hbs := hne hbase hs (by simp)
          let d₁ := (d.put toplevel none).put xdg (some (.xdg_surface { x with toplevel := none }))
          let d₂ := ((d₁.put xdg none).put surface (some (.surface none buffer))).put x.wm_base
            (some (.wm_base v (surfaces.erase xdg)))
          let d₃ := d₂.put surface none
          have hempty (id : ℕ) (hid : w.wm_base = some id) :
              d₃.objects id = some (.wm_base 1 []) := by
            obtain ⟨others, hothers⟩ := h.wm_base id hid
            have hcase : others.erase xdg = [] ∧ (id ≠ x.wm_base → others = []) := by
              obtain ⟨-, rfl | ⟨xdg', y, rfl, hy, hyid⟩⟩ := h.bases id 1 others hothers
              · exact ⟨rfl, fun _ => rfl⟩
              · obtain rfl := Option.some.inj ((h.xdg xdg' y hy).1.symm.trans hmade.xdg_id)
                obtain rfl : y = x := by simpa using hy.symm.trans hx
                exact ⟨by simp, fun hneid => absurd hyid.symm hneid⟩
            by_cases hidb : id = x.wm_base
            · subst hidb
              obtain ⟨rfl, rfl⟩ : v = 1 ∧ surfaces = others := by
                simpa using hbase.symm.trans hothers
              simp [d₃, d₂, hbs, hcase.1]
            · rw [hcase.2 hidb] at hothers
              have hit := hne hothers ht (by simp)
              have hix := hne hothers hx (by simp)
              have his := hne hothers hs (by simp)
              simpa [d₃, d₂, d₁, hidb, hit, hix, his] using hothers
          obtain ⟨d', hd'⟩ := hlast d₃ hempty
          refine ⟨d', ?_⟩
          simp only [WaylandWindow.destroy, hmade.toplevel_id, hmade.xdg_id, hmade.surface_id,
            Option.toList_some, List.cons_append, List.nil_append, List.map_cons]
          refine .cons d₁ ?_ (.cons d₂ ?_ (.cons d₃ ?_ hd'))
          · simp [Compositor.accept, Compositor.destroy, ht, hx, d₁]
          · simp [Compositor.accept, Compositor.destroy, hmade.of_surface, d₁, d₂, hst, hsx, hbt,
              hbx, hs, hbase]
          · simp [Compositor.accept, Compositor.destroy, d₂, d₃, hbs.symm]

end Live

/-! ## The compositor's side -/

namespace Live

variable {w : WaylandWindow} {pc : Pc} {events : List Event} {d : Compositor}

/-- The version of every toplevel is 1. -/
theorem toplevelVersion (h : Live w pc events d) {toplevel : ℕ} {v : UInt32}
    (hv : d.toplevelVersion toplevel = some v) : v = 1 := by
  simp only [Compositor.toplevelVersion] at hv
  split at hv
  · split at hv
    · rename_i x hx
      rw [← Option.some.inj hv]
      exact (h.xdg _ x hx).2.1
    · cases hv
  · cases hv

/-- **The compositor acts on its own**, and sends an event that the window can handle. -/
theorem act (h : Live w pc events d) {o : Own} (hmay : d.May o) :
    Live w pc (events ++ [o.event]) (d.act o) where
  registry := by simpa using h.registry
  compositor := by simpa using h.compositor
  wm_base := by simpa using h.wm_base
  bases := by simpa using h.bases
  xdg := by simpa using h.xdg
  fresh := by simpa using h.fresh
  unmade := h.unmade
  made hm := by
    obtain ⟨surface, xdg, toplevel, x, buffer, hmade⟩ := h.made hm
    refine ⟨surface, xdg, toplevel, x, buffer, ?_⟩
    exact { hmade with
      surface_object := by simpa using hmade.surface_object
      xdg_object := by simpa using hmade.xdg_object
      toplevel_object := by simpa using hmade.toplevel_object
      base := by simpa using hmade.base }
  configured := h.configured
  versions := by
    cases o with
    | advertise g =>
        intro g' hg'
        rcases List.mem_append.mp hg' with hold | hnew
        · exact h.versions g' hold
        · rw [List.mem_singleton.mp hnew]
          exact hmay.2
    | _ => exact h.versions
  globals := by
    intro name interface version hmem
    have hkeep : ∀ g ∈ d.globals, g ∈ (d.act o).globals := by
      intro g hg
      cases o with
      | advertise g' => exact List.mem_append_left [g'] hg
      | _ => exact hg
    rcases List.mem_append.mp hmem with hold | hnew
    · exact hkeep _ (h.globals name interface version hold)
    · cases o <;> simp [Own.event] at hnew
      case advertise g =>
        obtain ⟨rfl, rfl, rfl⟩ := hnew
        exact List.mem_append_right d.globals List.mem_cons_self
  pings := by
    intro id serial hmem
    rw [Compositor.act_objects]
    rcases List.mem_append.mp hmem with hold | hnew
    · exact h.pings id serial hold
    · cases o <;> simp [Own.event] at hnew
      case ping id' serial' =>
        obtain ⟨rfl, rfl⟩ := hnew
        simp only [Compositor.May] at hmay
        split at hmay
        · exact ⟨_, _, ‹_›⟩
        · exact hmay.elim
  configures := by
    intro id serial hmem
    rw [Compositor.act_objects]
    rcases List.mem_append.mp hmem with hold | hnew
    · exact h.configures id serial hold
    · cases o <;> simp [Own.event] at hnew
      case configure id' serial' =>
        obtain ⟨rfl, rfl⟩ := hnew
        simp only [Compositor.May] at hmay
        split at hmay
        · exact ⟨_, ‹_›, hmay.1⟩
        · exact hmay.elim
  listeners := by
    intro L e hmem
    rcases List.mem_append.mp hmem with hold | hnew
    · exact h.listeners L e hold
    · rw [List.mem_singleton.mp hnew]
      cases o with
      | configure_bounds toplevel | wm_capabilities toplevel =>
          obtain ⟨v, hv, hle⟩ := hmay
          rw [h.toplevelVersion hv] at hle
          exact absurd hle (by decide)
      | _ => rfl

/-- Events that only answer requests. -/
theorem reply (h : Live w pc events d) {c : Compositor} (hglobals : d.globals = c.globals)
    (r : Request) : Live w pc (events ++ c.replies r) d := by
  have hreply (e : Event) (he : e ∈ c.replies r) :
      e = .done ∨ ∃ g ∈ d.globals, e = .global g.name g.interface g.version := by
    cases r <;> simp [Compositor.replies] at he
    · obtain ⟨g, hg, rfl⟩ := he
      exact .inr ⟨g, hglobals ▸ hg, rfl⟩
    · exact .inl he
  refine { h with globals := ?_, pings := ?_, configures := ?_, listeners := ?_ }
  · intro name interface version hmem
    rcases List.mem_append.mp hmem with hold | hnew
    · exact h.globals name interface version hold
    · rcases hreply _ hnew with heq | ⟨g, hg, heq⟩
      · cases heq
      · cases heq
        exact hg
  · intro id serial hmem
    rcases List.mem_append.mp hmem with hold | hnew
    · exact h.pings id serial hold
    · rcases hreply _ hnew with heq | ⟨g, -, heq⟩ <;> cases heq
  · intro id serial hmem
    rcases List.mem_append.mp hmem with hold | hnew
    · exact h.configures id serial hold
    · rcases hreply _ hnew with heq | ⟨g, -, heq⟩ <;> cases heq
  · intro L e hmem
    rcases List.mem_append.mp hmem with hold | hnew
    · exact h.listeners L e hold
    · rcases hreply _ hnew with heq | ⟨g, -, heq⟩ <;> rw [heq] <;> rfl

end Live

/-! ## Every run -/

/-- **The invariant**: what is in flight is accepted and answered, and until the window is
gone the two sides agree. -/
structure Agree (s : State) : Prop where
  noError : s.protocolError = false
  alive : s.pc ≠ .crashed
  waits : Waits s.server s.toServer s.toClient
  settled : ∃ d, Settles Compositor.accept s.server s.toServer d ∧
    (s.pc ≠ .gone → (∀ r ∈ s.toServer, r.isDestroy = false) ∧ Live s.win s.pc s.toClient d)
  closing : s.pc = .frame → s.win.should_close = false

namespace Agree

variable {s : State} {L : Lang}

theorem init : Agree {} where
  noError := rfl
  alive := by decide
  waits := .init
  settled := ⟨{}, .nil _ _, fun _ => ⟨fun r hr => (List.not_mem_nil hr).elim, .init⟩⟩
  closing h := by cases h

/-- The window makes requests that a settled compositor accepts. -/
theorem send (h : Agree s) (hpc : s.pc ≠ .gone) {win : WaylandWindow} {requests : List Request}
    {pc : Pc} (halive : pc ≠ .crashed) (hclosing : pc = .frame → win.should_close = false)
    (hanswer : ∀ r ∈ requests, r.isAnswer = false)
    (hlive : ∀ d, Live s.win s.pc s.toClient d → ∃ d', Settles Compositor.accept d requests d' ∧
      (pc ≠ .gone → (∀ r ∈ requests, r.isDestroy = false) ∧ Live win pc s.toClient d')) :
    Agree (s.send win requests pc) where
  noError := h.noError
  alive := halive
  waits := h.waits.send hanswer
  settled := by
    obtain ⟨d, hd, hold⟩ := h.settled
    obtain ⟨hq, hl⟩ := hold hpc
    obtain ⟨d', hd', hnew⟩ := hlive d hl
    refine ⟨d', hd.send hd', fun hgone => ⟨?_, (hnew hgone).2⟩⟩
    intro r hr
    rcases List.mem_append.mp hr with hr | hr
    · exact hq r hr
    · exact (hnew hgone).1 r hr
  closing := hclosing

/-- The window is destroyed. -/
theorem close (h : Agree s) (hpc : s.pc ≠ .gone) (L : Lang) : Agree (s.close L) := by
  refine h.send hpc (by decide) (fun hf => by cases hf) ?_ fun d hl => ?_
  · intro r hr
    cases L with
    | rust => cases hr
    | cpp =>
        obtain ⟨id, -, rfl⟩ := List.mem_map.mp hr
        rfl
  · obtain ⟨d', hd'⟩ := hl.destroy L
    exact ⟨d', hd', fun hgone => (hgone rfl).elim⟩

/-- The subscriber is elsewhere in its use of the window. -/
theorem goto (h : Agree s) {pc : Pc} (hpc : s.pc ≠ .gone) (hconn : s.pc ≠ .connecting)
    (halive : pc ≠ .crashed) (hmade : pc.isMade = s.pc.isMade)
    (hopen : pc.isOpen = true → s.win.configured = true)
    (hclosing : pc = .frame → s.win.should_close = false) : Agree { s with pc := pc } where
  noError := h.noError
  alive := halive
  waits := h.waits
  settled := by
    obtain ⟨d, hd, hold⟩ := h.settled
    obtain ⟨hq, hl⟩ := hold hpc
    exact ⟨d, hd, fun _ => ⟨hq, hl.goto hconn hmade hopen⟩⟩
  closing := hclosing

/-- **The handlers**, on any number of events. -/
theorem handle (h : Agree s) (hgone : s.pc ≠ .gone) (hconn : s.pc ≠ .connecting)
    (hframe : s.pc ≠ .frame) (n : ℕ) : Agree (s.handle n) ∧ (s.handle n).pc = s.pc := by
  induction n generalizing s with
  | zero => exact ⟨h, rfl⟩
  | succ n ih =>
      rw [State.handle]
      cases he : s.toClient with
      | nil => exact ⟨h, rfl⟩
      | cons e rest =>
          have hwaits := h.waits
          obtain ⟨d, hd, hold⟩ := h.settled
          obtain ⟨hq, hl⟩ := hold hgone
          rw [he] at hwaits hl
          obtain ⟨d', hd', hl'⟩ := hl.event hconn (hwaits.settles hd)
          refine ih (s := { s with win := (s.win.event e).1,
                                   toServer := s.toServer ++ (s.win.event e).2,
                                   toClient := rest })
            ⟨h.noError, h.alive, ?_, ?_, ?_⟩ hgone hconn hframe
          · exact s.win.event_waits hwaits
          · refine ⟨d', hd.send hd', fun _ => ⟨?_, hl'⟩⟩
            intro r hr
            rcases List.mem_append.mp hr with hr | hr
            · exact hq r hr
            · exact s.win.event_isDestroy e r hr
          · intro hf
            exact (hframe hf).elim

/-- A dispatch calls only listeners that are there. -/
theorem dispatch (h : Agree s) (hgone : s.pc ≠ .gone) (hconn : s.pc ≠ .connecting)
    (hframe : s.pc ≠ .frame) {n : ℕ} {rest : State → State}
    (hrest : ∀ s' : State, Agree s' → s'.pc = s.pc → Agree (rest s')) :
    Agree (s.dispatch L n rest) := by
  obtain ⟨d, -, hold⟩ := h.settled
  have hnone : (s.toClient.take n).any (nullListener L) = false := by
    rw [List.any_eq_false]
    intro e he
    have hl := (hold hgone).2.listeners L e (List.mem_of_mem_take he)
    simp [hl]
  rw [State.dispatch, hnone]
  obtain ⟨hagree, hpc⟩ := h.handle hgone hconn hframe n
  exact hrest _ hagree hpc

end Agree

namespace Agree

variable {s s' : State} {L : Lang} {title : String} {a : Act}

/-- `create` after the roundtrip, on either result. -/
theorem afterRoundtrip (h : Agree s) (hpc : s.pc = .roundtrip) (title : String) (ok : Bool) :
    Agree (s.afterRoundtrip L title ok) := by
  have hgone : s.pc ≠ .gone := by simp [hpc]
  rw [State.afterRoundtrip]
  split
  · exact h.close hgone L
  · split
    · rename_i compositor wm_base hc hb
      refine h.send hgone (by decide) (fun hf => by cases hf) ?_ fun d hl => ?_
      · intro r hr
        simp [WaylandWindow.createSurface] at hr
        rcases hr with rfl | rfl | rfl | rfl | rfl | rfl <;> rfl
      · rw [hpc] at hl
        obtain ⟨d', hd', hl'⟩ := hl.createSurface hc hb L title
        refine ⟨d', hd', fun _ => ⟨?_, hl'⟩⟩
        intro r hr
        simp [WaylandWindow.createSurface] at hr
        rcases hr with rfl | rfl | rfl | rfl | rfl | rfl <;> rfl
    · exact h.close hgone L

/-- The compositor reads the next request. -/
theorem serve {r : Request} {rest : List Request} (h : Agree s) (hq : s.toServer = r :: rest) :
    ∃ server, s.server.accept r = some server ∧
      Agree { s with server := server, toServer := rest,
                     toClient := s.toClient ++ s.server.replies r } := by
  obtain ⟨d, hd, hold⟩ := h.settled
  have hwaits := h.waits
  rw [hq] at hd hwaits hold
  obtain ⟨server, haccept, hd'⟩ := hd.serve
  refine ⟨server, haccept, h.noError, h.alive, ?_, ?_, h.closing⟩
  · refine (hwaits.serve haccept).tell fun e he => ?_
    cases r <;> simp [Compositor.replies] at he
    · obtain ⟨g, -, rfl⟩ := he
      rfl
    · rw [he]
      rfl
  · refine ⟨d, hd', fun hgone => ?_⟩
    obtain ⟨hno, hl⟩ := hold hgone
    obtain ⟨-, -, hglobals⟩ := settles_grows hno hd
    exact ⟨fun r' hr' => hno r' (.tail r hr'), hl.reply hglobals r⟩

/-- The compositor acts on its own. -/
theorem own (h : Agree s) {o : Own} (hmay : s.server.May o) :
    Agree { s with server := s.server.act o, toClient := s.toClient ++ [o.event] } where
  noError := h.noError
  alive := h.alive
  waits := h.waits.act o
  settled := by
    obtain ⟨d, hd, hold⟩ := h.settled
    refine ⟨d.act o, settles_act hd o, fun hgone => ?_⟩
    obtain ⟨hno, hl⟩ := hold hgone
    obtain ⟨hgrow, hreg, -⟩ := settles_grows hno hd
    exact ⟨hno, hl.act (hgrow.may hreg hmay)⟩
  closing := h.closing

/-- **One step.** -/
theorem step (s : State) (a : Act) (s' : State) (h : Agree s)
    (hs : Wayland.step L title s a = some s') : Agree s' := by
  cases a with
  | connect ok =>
      simp only [Wayland.step, Option.ite_none_right_eq_some, Option.some.injEq] at hs
      obtain ⟨hpc, rfl⟩ := hs
      have hgone : s.pc ≠ .gone := by simp [hpc]
      cases ok with
      | false => exact h.close hgone L
      | true =>
          refine h.send hgone (by decide) (fun hf => by cases hf) (by simp [Request.isAnswer])
            fun d hl => ?_
          refine ⟨{ d with registry := true }, .cons _ rfl (.cons _ rfl (.nil _ _)), fun _ =>
            ⟨by simp [Request.isDestroy], ?_⟩⟩
          rw [hpc] at hl
          have hreg : Live s.win .connecting s.toClient { d with registry := true } :=
            hl.congr rfl rfl fun _ => rfl
          exact { hreg with registry := fun _ => rfl }
  | roundtrip n ok =>
      simp only [Wayland.step, Option.ite_none_right_eq_some, Option.some.injEq] at hs
      obtain ⟨⟨hpc, -⟩, rfl⟩ := hs
      refine h.dispatch (by simp [hpc]) (by simp [hpc]) (by simp [hpc]) fun t ht hpct => ?_
      exact ht.afterRoundtrip (hpct.trans hpc) title ok
  | blockingDispatch n ok =>
      simp only [Wayland.step, Option.ite_none_right_eq_some, Option.some.injEq] at hs
      obtain ⟨⟨hpc, -⟩, rfl⟩ := hs
      refine h.dispatch (by simp [hpc]) (by simp [hpc]) (by simp [hpc]) fun t ht hpct => ?_
      cases ok with
      | true => exact ht
      | false => exact ht.close (by simp [hpct, hpc]) L
  | eglWindow ok =>
      simp only [Wayland.step, Option.ite_none_right_eq_some, Option.some.injEq] at hs
      obtain ⟨⟨hpc, hconf⟩, rfl⟩ := hs
      cases ok with
      | true =>
          exact h.goto (by simp [hpc]) (by simp [hpc]) (by decide) (by simp [hpc, Pc.isMade])
            (fun _ => hconf) fun hf => by cases hf
      | false => exact h.close (by simp [hpc]) L
  | loopTest =>
      simp only [Wayland.step, Option.ite_none_right_eq_some, Option.some.injEq] at hs
      obtain ⟨hpc, rfl⟩ := hs
      cases hclose : s.win.should_close with
      | true => exact h.close (by simp [hpc]) L
      | false =>
          obtain ⟨d, -, hold⟩ := h.settled
          have hconf := (hold (by simp [hpc])).2.configured (by simp [hpc, Pc.isOpen])
          exact h.goto (by simp [hpc]) (by simp [hpc]) (by decide) (by simp [hpc, Pc.isMade])
            (fun _ => hconf) fun _ => hclose
  | swap =>
      simp only [Wayland.step, Option.ite_none_right_eq_some, Option.some.injEq] at hs
      obtain ⟨hpc, rfl⟩ := hs
      refine h.send (by simp [hpc]) (by decide) (fun hf => by cases hf) ?_ fun d hl => ?_
      · intro r hr
        obtain ⟨surface, -, hr⟩ := List.mem_flatMap.mp hr
        simp at hr
        rcases hr with rfl | rfl <;> rfl
      · rw [hpc] at hl
        obtain ⟨d', hd', hl'⟩ := hl.swap
        refine ⟨d', hd', fun _ => ⟨?_, hl'⟩⟩
        intro r hr
        obtain ⟨surface, -, hr⟩ := List.mem_flatMap.mp hr
        simp at hr
        rcases hr with rfl | rfl <;> rfl
  | dispatchPending n ok =>
      simp only [Wayland.step, Option.ite_none_right_eq_some, Option.some.injEq] at hs
      obtain ⟨hpc, rfl⟩ := hs
      split
      · exact h.close (by simp [hpc]) L
      · refine h.dispatch (by simp [hpc]) (by simp [hpc]) (by simp [hpc]) fun t ht hpct => ?_
        have hpct := hpct.trans hpc
        split
        · obtain ⟨d, -, hold⟩ := ht.settled
          have hconf := (hold (by simp [hpct])).2.configured (by simp [hpct, Pc.isOpen])
          exact ht.goto (by simp [hpct]) (by simp [hpct]) (by decide) (by simp [hpct, Pc.isMade])
            (fun _ => hconf) fun hf => by cases hf
        · exact ht.close (by simp [hpct]) L
  | leave =>
      simp only [Wayland.step, Option.ite_none_right_eq_some, Option.some.injEq] at hs
      obtain ⟨hpc, rfl⟩ := hs
      refine h.close ?_ L
      rcases hpc with hpc | hpc | hpc <;> simp [hpc]
  | serve =>
      cases hq : s.toServer with
      | nil => simp [Wayland.step, hq] at hs
      | cons r rest =>
          obtain ⟨server, haccept, hagree⟩ := h.serve hq
          rw [h.noError] at hagree
          simp only [Wayland.step, hq, h.noError, haccept, Bool.false_eq_true, if_false,
            Option.some.injEq] at hs
          exact hs ▸ hagree
  | own o =>
      simp only [Wayland.step, Option.ite_none_right_eq_some, Option.some.injEq] at hs
      obtain ⟨⟨-, hmay⟩, rfl⟩ := hs
      exact h.own hmay

/-- **Every run.** -/
theorem run {as : List Act} (hrun : Transition.run (Wayland.step L title) {} as = some s) :
    Agree s := run_induction Agree.step .init hrun

end Agree

/-- **The window keeps to the protocol.** In every run of either language's window against
any compositor, no request is refused, no listener is called that is not there, and no
frame is drawn once a `close` was handled. -/
theorem conforms (L : Lang) (title : String) (as : List Act) (s : State)
    (hrun : run (step L title) {} as = some s) :
    s.protocolError = false ∧ s.pc ≠ .crashed ∧
      (s.win.should_close = true → step L title s .swap = none) := by
  have h := Agree.run hrun
  refine ⟨h.noError, h.alive, fun hclose => ?_⟩
  have hpc : s.pc ≠ .frame := by
    intro hf
    rw [h.closing hf] at hclose
    cases hclose
  simp [step, hpc]

/-- **Every ping and every configure is answered once, in order**: what the compositor
still waits for is what the requests in flight answer, and then what the events in flight
ask. With nothing in flight it waits for nothing. -/
theorem owes_nothing (L : Lang) (title : String) (as : List Act) (s : State)
    (hrun : run (step L title) {} as = some s) :
    Waits s.server s.toServer s.toClient ∧
      (s.toServer = [] → s.toClient = [] →
        ∀ id, s.server.configured id = [] ∧ s.server.pinged id = []) := by
  have h := (Agree.run hrun).waits
  refine ⟨h, fun hq he id => ?_⟩
  rw [hq, he] at h
  exact h.nothing id

/-- A window that is configured, pinged and closed by its compositor. -/
def oneFrame : List Act :=
  [.connect true, .serve, .own (.advertise ⟨1, "wl_compositor", 5⟩),
    .own (.advertise ⟨2, "xdg_wm_base", 3⟩), .serve, .roundtrip 3 true,
    .serve, .serve, .serve, .serve, .serve, .serve, .serve, .serve,
    .own (.ping 2 70), .own (.configure 4 80), .blockingDispatch 2 true, .eglWindow true,
    .loopTest, .swap, .own (.close 5), .serve, .serve, .serve, .serve,
    .dispatchPending 1 true]

theorem conforms_oneFrame :
    ∃ s, run (step .cpp "window") {} oneFrame = some s ∧ s.pc = .gone ∧
      s.protocolError = false ∧ s.pc ≠ .crashed ∧
      (s.win.should_close = true → step .cpp "window" s .swap = none) := by
  obtain ⟨s, hrun, hpc⟩ := Option.map_eq_some_iff.mp
    (by decide : (run (step .cpp "window") {} oneFrame).map (·.pc) = some .gone)
  exact ⟨s, hrun, hpc, conforms .cpp "window" oneFrame s hrun⟩

/-- After all of it is served, nothing is owed. -/
theorem owes_nothing_oneFrame :
    ∃ s, run (step .cpp "window") {} (oneFrame ++ [.serve, .serve, .serve, .serve]) = some s ∧
      s.server.configured 4 = [] ∧ s.server.pinged 2 = [] := by
  obtain ⟨s, hrun, hs⟩ := Option.map_eq_some_iff.mp
    (by decide : (run (step .cpp "window") {} (oneFrame ++ [.serve, .serve, .serve, .serve])).map
      (fun s => (s.toServer, s.toClient)) = some ([], []))
  obtain ⟨hq, he⟩ := Prod.mk.inj hs
  have h := (owes_nothing .cpp "window" _ s hrun).2 hq he
  exact ⟨s, hrun, (h 4).1, (h 2).2⟩

end Wayland
end DmabufPipeline
