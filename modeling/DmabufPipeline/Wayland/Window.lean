import DmabufPipeline.Lib.XdgShell
import DmabufPipeline.Wire.Message

/-!
# The subscriber's window

`WaylandWindow` of `subscriber/src/wayland.rs` and `wayland_utils.cpp` against any
compositor: `create`, the handlers of the events, `dispatch_pending`, the destruction, and
the part of the subscriber's frame loop that uses the window. Requests and events are in
flight between the two sides, and the compositor acts on its own at any time.

The two languages give the same requests, with three exceptions. C++ does not look at the
result of the first roundtrip. C++ keeps the globals in the object and destroys what it
has created; the Rust proxies send nothing when they are dropped. And
`dispatch_pending` of Rust looks at `should_close` before it dispatches. Of what EGL sends
on the same connection, a swap attaches a buffer to the surface and commits it.

## Main definitions

* `WaylandWindow`, `WaylandWindow.event` — the fields and the handlers.
* `State`, `Act`, `step` — the window, the compositor and what is in flight.
-/

namespace DmabufPipeline

namespace Wayland

open XdgShell

/-! ## The window -/

/-- The fields of `AppState` and `WaylandWindow`, and the number that the client library
gives to the next object. -/
structure WaylandWindow where
  compositor : Option ℕ := none
  wm_base : Option ℕ := none
  surface : Option ℕ := none
  xdg_surface : Option ℕ := none
  xdg_toplevel : Option ℕ := none
  configured : Bool := false
  should_close : Bool := false
  next : ℕ := 1
  deriving DecidableEq, Repr

namespace WaylandWindow

/-- The handlers: `on_global`, `on_xdg_wm_base_ping`, `on_xdg_surface_configure` and
`on_xdg_toplevel_close`. The others do nothing. -/
def event (w : WaylandWindow) : Event → WaylandWindow × List Request
  | .global name interface version =>
      if interface = "wl_compositor" then
        ({ w with compositor := some w.next, next := w.next + 1 },
          [.bind name interface (if version < 4 then version else 4) w.next])
      else if interface = "xdg_wm_base" then
        ({ w with wm_base := some w.next, next := w.next + 1 },
          [.bind name interface 1 w.next])
      else (w, [])
  | .ping wm serial => (w, [.pong wm serial])
  | .configure xs serial => ({ w with configured := true }, [.ack_configure xs serial])
  | .close _ => ({ w with should_close := true }, [])
  | .global_remove _ | .done | .toplevel_configure _ | .configure_bounds _ |
    .wm_capabilities _ => (w, [])

/-- What `create` makes between the roundtrip and the wait for the first configure. -/
def createSurface (w : WaylandWindow) (L : Lang) (title : String) (compositor wm_base : ℕ) :
    WaylandWindow × List Request :=
  let surface := w.next
  let xdg_surface := w.next + 1
  let xdg_toplevel := w.next + 2
  ({ w with
      compositor := if L = .rust then none else w.compositor
      wm_base := if L = .rust then none else w.wm_base
      surface := some surface
      xdg_surface := some xdg_surface
      xdg_toplevel := some xdg_toplevel
      next := w.next + 3 },
    [.create_surface compositor surface,
      .get_xdg_surface wm_base xdg_surface surface,
      .get_toplevel xdg_surface xdg_toplevel,
      .set_title xdg_toplevel title,
      .set_app_id xdg_toplevel "dmabuf.subscriber",
      .commit surface])

/-- The requests of the destruction; the proxies of `wl_compositor` and of the registry
have no destructor request. -/
def destroy (w : WaylandWindow) (L : Lang) : List Request :=
  match L with
  | .rust => []
  | .cpp =>
      (w.xdg_toplevel.toList ++ w.xdg_surface.toList ++ w.surface.toList ++
        w.wm_base.toList).map .destroy

end WaylandWindow

/-- A member of `kXdgToplevelListener` that is null. -/
def nullListener (L : Lang) : Event → Bool
  | .configure_bounds _ | .wm_capabilities _ => decide (L = .cpp)
  | _ => false

/-! ## The system -/

/-- Where the subscriber is in its use of the window. -/
inductive Pc
  | connecting
  | roundtrip
  | configuring
  /-- At the head of the frame loop, or between `create` and it. -/
  | loopTest
  | frame
  | dispatch
  /-- The window is destroyed. -/
  | gone
  /-- A listener that is not there was called. -/
  | crashed
  deriving DecidableEq, Repr

/-- The two sides and what is in flight. -/
structure State where
  server : Compositor := {}
  win : WaylandWindow := {}
  pc : Pc := .connecting
  toServer : List Request := []
  toClient : List Event := []
  protocolError : Bool := false

/-- What may happen next. -/
inductive Act
  | connect (ok : Bool)
  /-- `roundtrip`, with the number of events that it dispatches. -/
  | roundtrip (n : ℕ) (ok : Bool)
  | blockingDispatch (n : ℕ) (ok : Bool)
  | eglWindow (ok : Bool)
  | loopTest
  /-- `swap_buffers`. -/
  | swap
  | dispatchPending (n : ℕ) (ok : Bool)
  /-- The subscriber ends for another reason. -/
  | leave
  /-- The compositor reads a request. -/
  | serve
  | own (o : Own)
  deriving DecidableEq, Repr

namespace State

/-- The window makes requests and goes on. -/
def send (s : State) (win : WaylandWindow) (requests : List Request) (pc : Pc) : State :=
  { s with win := win, toServer := s.toServer ++ requests, pc := pc }

/-- The window is destroyed. -/
def close (s : State) (L : Lang) : State := s.send s.win (s.win.destroy L) .gone

/-- The handlers, on the first `n` events. -/
def handle (s : State) : ℕ → State
  | 0 => s
  | n + 1 =>
      match s.toClient with
      | [] => s
      | e :: rest =>
          handle { s with
            win := (s.win.event e).1
            toServer := s.toServer ++ (s.win.event e).2
            toClient := rest } n

/-- A dispatch of the first `n` events, and then the rest of the function. -/
def dispatch (s : State) (L : Lang) (n : ℕ) (rest : State → State) : State :=
  if (s.toClient.take n).any (nullListener L) then { s with pc := .crashed }
  else rest (s.handle n)

/-- `create` after the first roundtrip. -/
def afterRoundtrip (s : State) (L : Lang) (title : String) (ok : Bool) : State :=
  if L = .rust ∧ ok = false then s.close L
  else
    match s.win.compositor, s.win.wm_base with
    | some compositor, some wm_base =>
        let made := s.win.createSurface L title compositor wm_base
        s.send made.1 made.2 .configuring
    | _, _ => s.close L

end State

/-- One step; `none` where it cannot be taken. -/
def step (L : Lang) (title : String) (s : State) : Act → Option State
  | .connect ok =>
      if s.pc = .connecting then
        some (if ok then s.send s.win [.get_registry, .sync] .roundtrip else s.close L)
      else none
  | .roundtrip n ok =>
      if s.pc = .roundtrip ∧ (ok = true → .done ∈ s.toClient.take n) then
        some (s.dispatch L n fun s => s.afterRoundtrip L title ok)
      else none
  | .blockingDispatch n ok =>
      if s.pc = .configuring ∧ s.win.configured = false then
        some (s.dispatch L n fun s => if ok then s else s.close L)
      else none
  | .eglWindow ok =>
      if s.pc = .configuring ∧ s.win.configured = true then
        some (if ok then { s with pc := .loopTest } else s.close L)
      else none
  | .loopTest =>
      if s.pc = .loopTest then
        some (if s.win.should_close then s.close L else { s with pc := .frame })
      else none
  | .swap =>
      if s.pc = .frame then
        some (s.send s.win (s.win.surface.toList.flatMap fun surface =>
          [.attach surface, .commit surface]) .dispatch)
      else none
  | .dispatchPending n ok =>
      if s.pc = .dispatch then
        some (if L = .rust ∧ s.win.should_close = true then s.close L
          else s.dispatch L n fun s =>
            if ok = true ∧ s.win.should_close = false then { s with pc := .loopTest }
            else s.close L)
      else none
  | .leave =>
      if s.pc = .loopTest ∨ s.pc = .frame ∨ s.pc = .dispatch then some (s.close L) else none
  | .serve =>
      match s.toServer with
      | [] => none
      | r :: rest =>
          if s.protocolError then none
          else
            match s.server.accept r with
            | some server =>
                some { s with server := server, toServer := rest,
                              toClient := s.toClient ++ s.server.replies r }
            | none => some { s with protocolError := true }
  | .own o =>
      if s.protocolError = false ∧ s.server.May o then
        some { s with server := s.server.act o, toClient := s.toClient ++ [o.event] }
      else none

end Wayland
end DmabufPipeline
