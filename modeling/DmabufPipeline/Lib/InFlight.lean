import DmabufPipeline.Lib.Transition

/-!
# Requests in flight

A server accepts requests one by one, in the order in which they were sent; `none` is the
error that ends the connection. The client does not wait: its requests stand in a queue
while the server changes on its own. `Settles accept server queue d` says that the server
accepts all that is in flight, and is `d` afterwards. It is the state that the client may
reason about: what it sends next will be seen by a server in that state.

## Main definitions

* `Settles` — the requests in flight are all accepted.
* `Settles.send`, `Settles.serve`, `Settles.own` — it is kept by the client's sending, by
  the server's accepting, and by what the server does on its own.
* `Settles.keeps` — a fact about the server that holds now still holds when it settles.
-/

namespace InFlight

open Transition

universe u v
variable {σ : Type u} {ρ : Type v} {accept : σ → ρ → Option σ} {server d : σ} {queue : List ρ}

/-- The server accepts every request in flight, and is then in the state `d`. -/
def Settles (accept : σ → ρ → Option σ) (server : σ) (queue : List ρ) (d : σ) : Prop :=
  run accept server queue = some d

namespace Settles

theorem nil (accept : σ → ρ → Option σ) (server : σ) : Settles accept server [] server := rfl

/-- The client sends requests that a settled server accepts. -/
theorem send {d' : σ} {requests : List ρ} (h : Settles accept server queue d)
    (hsend : Settles accept d requests d') : Settles accept server (queue ++ requests) d' :=
  run_append h hsend

/-- The server accepts the next request. -/
theorem serve {r : ρ} (h : Settles accept server (r :: queue) d) :
    ∃ server', accept server r = some server' ∧ Settles accept server' queue d :=
  run_cons_eq_some.mp h

/-- One request first. -/
theorem cons {r : ρ} (server' : σ) (hr : accept server r = some server')
    (h : Settles accept server' queue d) : Settles accept server (r :: queue) d :=
  run_cons_eq_some.mpr ⟨server', hr, h⟩

/-- **The server moves on its own**, in a way that no request in flight can tell. -/
theorem own {f : σ → σ} (hf : ∀ s r s', accept s r = some s' → accept (f s) r = some (f s'))
    (h : Settles accept server queue d) : Settles accept (f server) queue (f d) := by
  induction queue generalizing server with
  | nil =>
      obtain rfl : server = d := Option.some.inj h
      exact nil accept (f server)
  | cons r queue ih =>
      obtain ⟨server', hr, hrest⟩ := h.serve
      exact cons (f server') (hf server r server' hr) (ih hrest)

/-- **What the requests in flight do not change** holds of the settled server. -/
theorem keeps {P : σ → Prop} {C : ρ → Prop}
    (hP : ∀ s r s', P s → C r → accept s r = some s' → P s') (hC : ∀ r ∈ queue, C r)
    (h0 : P server) (h : Settles accept server queue d) : P d := by
  induction queue generalizing server with
  | nil =>
      obtain rfl : server = d := Option.some.inj h
      exact h0
  | cons r queue ih =>
      obtain ⟨server', hr, hrest⟩ := h.serve
      have hnext := hP server r server' h0 (hC r List.mem_cons_self) hr
      exact ih (fun r' hr' => hC r' (List.mem_cons_of_mem r hr')) hnext hrest

end Settles
end InFlight
