import DmabufPipeline.Lib.Directory
import DmabufPipeline.Lib.Ledger
import DmabufPipeline.Wire.Message

/-!
# `create_listening_socket`

The function takes away what the path names, creates a socket, checks that the path fits
a socket address, binds and listens. Rust starts with the removal; C++ creates the socket
first. In both the address is checked after the removal. A failing step closes the socket
and leaves the directory as the steps before it have made it.

An empty path is a valid address in both languages, but of no directory entry: Linux
chooses an abstract address (Rust hands over no byte of `sun_path`, C++ a first byte 0).

## Main definitions

* `create_listening_socket`, `Cpp.create_listening_socket` — the two functions.
* `Listening.AllOrNothing` — what a call owes to the directory and the descriptor table.
* `ListenCall.Clean` — when it pays.
-/

namespace DmabufPipeline

open FileNames Ledger

variable {σ : Type}

/-- The step at which `create_listening_socket` failed. -/
inductive ListenError
  | socket
  | address
  | bind
  | listen
  deriving DecidableEq, Repr

/-- The answers to the system calls: `socket` returns a descriptor of the new socket
`sock`. -/
structure ListenAnswers (σ : Type) where
  unlink : Bool
  socket : Option ℕ
  sock : σ
  bind : Bool
  listen : Bool

/-- What a call leaves: its result, the directory, and what it did to the descriptor
table. -/
structure Listening (σ : Type) where
  result : Except ListenError ℕ
  dir : Directory σ
  log : List (Event ℕ)

/-- `sizeof(addr.sun_path)`. -/
def sunPathSize : ℕ := 108

/-! ## Rust -/

/-- `std::fs::remove_file`, which refuses a path with a NUL. -/
def remove_file (allowed : Bool) (path : List UInt8) (d : Directory σ) : Directory σ :=
  if 0 ∈ path then d else d.unlink allowed path

/-- `UnixAddr::new`: the name of the address. -/
def unixAddr (path : List UInt8) : Option Name :=
  if 0 ∈ path then none
  else if path.length ≥ sunPathSize then none
  else some path

/-- `create_listening_socket`; `OwnedFd` closes the socket on every `?` after it. -/
def create_listening_socket (path : List UInt8) (ans : ListenAnswers σ) (d : Directory σ) :
    Listening σ :=
  let d := remove_file ans.unlink path d
  match ans.socket with
  | none => ⟨.error .socket, d, []⟩
  | some fd =>
      match unixAddr path with
      | none => ⟨.error .address, d, [.acquire fd, .release fd]⟩
      | some addr =>
          match d.bind ans.bind ans.sock addr with
          | none => ⟨.error .bind, d, [.acquire fd, .release fd]⟩
          | some d =>
              if ans.listen then ⟨.ok fd, d, [.acquire fd]⟩
              else ⟨.error .listen, d, [.acquire fd, .release fd]⟩

/-! ## C++ -/

namespace Cpp

/-- `fill_sockaddr`: the name that `sun_path` holds. -/
def fill_sockaddr (path : List UInt8) : Option Name :=
  if path.length + 1 > sunPathSize then none else some (cstr path)

/-- `create_listening_socket`; every return of -1 after `socket` closes `s`. -/
def create_listening_socket (path : List UInt8) (ans : ListenAnswers σ) (d : Directory σ) :
    Listening σ :=
  match ans.socket with
  | none => ⟨.error .socket, d, []⟩
  | some s =>
      let d := d.unlink ans.unlink (cstr path)
      match fill_sockaddr path with
      | none => ⟨.error .address, d, [.acquire s, .release s]⟩
      | some addr =>
          match d.bind ans.bind ans.sock addr with
          | none => ⟨.error .bind, d, [.acquire s, .release s]⟩
          | some d =>
              if ans.listen then ⟨.ok s, d, [.acquire s]⟩
              else ⟨.error .listen, d, [.acquire s, .release s]⟩

end Cpp

/-- One call: the path, the directory before it, and the answers. The socket that the
call creates is new, so no entry names it yet. -/
structure ListenCall (σ : Type) where
  lang : Lang
  path : List UInt8
  dir : Directory σ
  ans : ListenAnswers σ
  unbound : ∀ name, dir.entry name ≠ some (.socket ans.sock)

namespace ListenCall

variable (c : ListenCall σ)

/-- The call. -/
def run : Listening σ :=
  match c.lang with
  | .rust => create_listening_socket c.path c.ans c.dir
  | .cpp => Cpp.create_listening_socket c.path c.ans c.dir

/-- What the call should leave: on failure the directory as it was and no descriptor; on
success one descriptor, of the socket that the path names. -/
def AllOrNothing : Prop :=
  match c.run.result with
  | .error _ => c.run.dir = c.dir ∧ Balanced c.run.log
  | .ok fd => c.run.dir.entry (cstr c.path) = some (.socket c.ans.sock) ∧
      Sound ∅ c.run.log ∧ held ∅ c.run.log = {fd}

/-! ## Both languages at once -/

/-- Whether the removal takes an entry away. -/
def removes : Bool :=
  (match c.lang with
    | .rust => decide (0 ∉ c.path)
    | .cpp => c.ans.socket.isSome) &&
  (c.ans.unlink && c.dir.removable (cstr c.path))

/-- Whether the path is accepted as a socket address. -/
def addressable : Bool :=
  (match c.lang with
    | .rust => decide (0 ∉ c.path)
    | .cpp => true) && decide (c.path.length < sunPathSize)

/-- Whether the socket gets its address: no step fails up to `bind`, and no entry is in
the way. -/
def binds : Bool :=
  c.ans.socket.isSome && c.addressable && c.ans.bind &&
    (c.removes || (c.dir.entry (cstr c.path)).isNone)

/-- **When the call is all or nothing**: a socket that got an address listens, and its
path is not empty (or it does not, and the path is empty); one that got none has not cost
the path its entry. -/
def Clean : Prop :=
  if c.binds then c.ans.listen = true ↔ cstr c.path ≠ [] else c.removes = false

instance : Decidable c.Clean := by
  unfold Clean
  infer_instance

/-! ## The three ways out -/

/-- The directory after the removal. -/
def cleared : Directory σ := if c.removes then c.dir.put (cstr c.path) none else c.dir

/-- The directory with the new socket. -/
def entered : Directory σ := c.dir.put (cstr c.path) (some (.socket c.ans.sock))

/-- How a call ends: before the socket has an address, with a listening socket, or with
one that has an address and does not listen. -/
inductive Exit : Listening σ → Prop
  | early (e : ListenError) (log : List (Event ℕ)) (hb : c.binds = false)
      (hlog : log = [] ∨ ∃ fd, log = [.acquire fd, .release fd]) :
      Exit ⟨.error e, c.cleared, log⟩
  | listening (fd : ℕ) (hb : c.binds = true) (hl : c.ans.listen = true) :
      Exit ⟨.ok fd, c.entered, [.acquire fd]⟩
  | deaf (fd : ℕ) (hb : c.binds = true) (hl : c.ans.listen = false) :
      Exit ⟨.error .listen, c.entered, [.acquire fd, .release fd]⟩

/-- What is removed has a name. -/
theorem ne_nil_of_removes (h : c.removes = true) : cstr c.path ≠ [] := by
  rw [removes] at h
  simp only [Bool.and_eq_true] at h
  exact c.dir.ne_nil_of_removable h.2.2

/-- `bind` after the removal finds the name free when it was free or has been freed. -/
theorem bind_cleared (allowed : Bool) :
    c.cleared.bind allowed c.ans.sock (cstr c.path) =
      if allowed && (c.removes || (c.dir.entry (cstr c.path)).isNone) then some c.entered
      else none := by
  rw [Directory.bind, cleared]
  by_cases h : c.removes = true
  · rw [if_pos h, c.dir.put_entry_self (c.ne_nil_of_removes h), Directory.put_put, h]
    rfl
  · rw [if_neg h, Bool.eq_false_iff.mpr h, Bool.false_or]
    rfl

/-- The steps from the address on, which both languages take alike. -/
theorem exit_of_address {fd : ℕ} (hs : c.ans.socket = some fd) (ha : c.addressable = true) :
    c.Exit (match c.cleared.bind c.ans.bind c.ans.sock (cstr c.path) with
      | none => ⟨.error .bind, c.cleared, [.acquire fd, .release fd]⟩
      | some d =>
          if c.ans.listen then ⟨.ok fd, d, [.acquire fd]⟩
          else ⟨.error .listen, d, [.acquire fd, .release fd]⟩) := by
  have hbinds : c.binds =
      (c.ans.bind && (c.removes || (c.dir.entry (cstr c.path)).isNone)) := by
    rw [binds, hs, ha]
    simp
  rw [c.bind_cleared, ← hbinds]
  cases hb : c.binds with
  | false => exact .early .bind _ hb (.inr ⟨fd, rfl⟩)
  | true =>
      cases hl : c.ans.listen with
      | false => exact .deaf fd hb hl
      | true => exact .listening fd hb hl

/-- A call that has no socket, or no address for it, ends early. -/
theorem binds_eq_false (h : c.ans.socket = none ∨ c.addressable = false) :
    c.binds = false := by
  rw [binds]
  rcases h with h | h <;> simp [h]

/-- **Every call ends in one of the three ways.** -/
theorem run_exit : c.Exit c.run := by
  obtain ⟨L, path, d, ans, hnew⟩ := c
  cases L with
  | rust =>
      set c : ListenCall σ := ⟨.rust, path, d, ans, hnew⟩ with hc
      have hclear : remove_file ans.unlink path d = c.cleared := by
        by_cases hnul : 0 ∈ path
        · simp [remove_file, cleared, removes, hc, hnul]
        · rw [remove_file, if_neg hnul, Directory.unlink, cleared]
          simp [removes, hc, hnul, cstr_eq_self hnul]
      change c.Exit (create_listening_socket path ans d)
      rw [create_listening_socket, hclear]
      cases hs : ans.socket with
      | none => exact .early .socket _ (c.binds_eq_false (.inl hs)) (.inl rfl)
      | some fd =>
          by_cases hnul : 0 ∈ path
          · have hfalse : c.addressable = false := by simp [addressable, hc, hnul]
            simp only [unixAddr, hnul, if_true]
            exact .early .address _ (c.binds_eq_false (.inr hfalse)) (.inr ⟨fd, rfl⟩)
          · by_cases hlen : path.length ≥ sunPathSize
            · have hfalse : c.addressable = false := by simp [addressable, hc, hlen]
              simp only [unixAddr, hnul, hlen, if_true, if_false]
              exact .early .address _ (c.binds_eq_false (.inr hfalse)) (.inr ⟨fd, rfl⟩)
            · have htrue : c.addressable = true := by
                simp [addressable, hc, hnul, Nat.lt_of_not_le hlen]
              have hexit := c.exit_of_address hs htrue
              have hpath : cstr c.path = path := cstr_eq_self hnul
              rw [hpath] at hexit
              simpa only [unixAddr, hnul, hlen, if_false] using hexit
  | cpp =>
      set c : ListenCall σ := ⟨.cpp, path, d, ans, hnew⟩ with hc
      change c.Exit (Cpp.create_listening_socket path ans d)
      rw [Cpp.create_listening_socket]
      cases hs : ans.socket with
      | none =>
          have hclear : d = c.cleared := by simp [cleared, removes, hc, hs]
          have hearly := Exit.early .socket [] (c.binds_eq_false (.inl hs)) (.inl rfl)
          rwa [← hclear] at hearly
      | some fd =>
          have hclear : d.unlink ans.unlink (cstr path) = c.cleared := by
            simp [Directory.unlink, cleared, removes, hc, hs]
          simp only [hclear]
          by_cases hlen : path.length + 1 > sunPathSize
          · have hfalse : c.addressable = false := by
              simp only [addressable, hc, Bool.true_and, decide_eq_false_iff_not]
              omega
            simp only [Cpp.fill_sockaddr, hlen, if_true]
            exact .early .address _ (c.binds_eq_false (.inr hfalse)) (.inr ⟨fd, rfl⟩)
          · have htrue : c.addressable = true := by
              simp only [addressable, hc, Bool.true_and, decide_eq_true_eq]
              omega
            have hexit := c.exit_of_address hs htrue
            simpa only [Cpp.fill_sockaddr, hlen, if_false] using hexit

/-! ## When the call is all or nothing -/

/-- The removal is visible exactly when it took an entry away. -/
theorem cleared_eq_iff : c.cleared = c.dir ↔ c.removes = false := by
  rw [cleared]
  cases h : c.removes with
  | false => simp
  | true =>
      have hname := c.ne_nil_of_removes h
      rw [if_pos rfl, c.dir.put_eq_self_iff hname]
      simp only [removes, Bool.and_eq_true] at h
      constructor
      · intro hnone
        simp [Directory.removable, hnone] at h
      · intro hfalse
        cases hfalse

/-- The new socket is visible in the directory unless the path is empty. -/
theorem entered_eq_iff : c.entered = c.dir ↔ cstr c.path = [] := by
  rw [entered]
  by_cases hname : cstr c.path = []
  · simp [hname]
  · rw [c.dir.put_eq_self_iff hname]
    exact iff_of_false (c.unbound _) hname

theorem entered_entry_iff :
    c.entered.entry (cstr c.path) = some (.socket c.ans.sock) ↔ cstr c.path ≠ [] := by
  rw [entered]
  by_cases hname : cstr c.path = []
  · simp [hname, c.dir.entry_nil]
  · simp [hname]

/-- A socket that is created and closed again leaves the descriptor table as it was. -/
theorem balanced_of_closed {log : List (Event ℕ)}
    (hlog : log = [] ∨ ∃ fd, log = [.acquire fd, .release fd]) : Balanced log := by
  rcases hlog with rfl | ⟨fd, rfl⟩
  · exact ⟨trivial, rfl⟩
  · exact ⟨⟨Finset.mem_insert_self .., trivial⟩, by simp [post]⟩

/-- **`create_listening_socket` is all or nothing exactly when it is clean**: a socket
that got an address listens, at a path that is not empty, and a call whose socket got none
has removed nothing. The descriptor table is right in every call. -/
theorem allOrNothing_iff : c.AllOrNothing ↔ c.Clean := by
  rw [AllOrNothing, Clean]
  generalize hrun : c.run = r
  have hexit := c.run_exit
  rw [hrun] at hexit
  cases hexit with
  | early e log hb hlog =>
      simp only [hb, Bool.false_eq_true, if_false]
      exact (and_iff_left (balanced_of_closed hlog)).trans c.cleared_eq_iff
  | listening fd hb hl =>
      simp only [hb, hl, if_true, true_iff]
      have htable : Sound ∅ [Event.acquire fd] ∧ held ∅ [Event.acquire fd] = {fd} :=
        ⟨trivial, rfl⟩
      exact (and_iff_left htable).trans c.entered_entry_iff
  | deaf fd hb hl =>
      simp only [hb, hl, if_true, Bool.false_eq_true, false_iff, not_not]
      exact (and_iff_left (balanced_of_closed (.inr ⟨fd, rfl⟩))).trans c.entered_eq_iff

end ListenCall

/-! ## Calls that are not -/

/-- A call with a path of 108 bytes that names an ordinary file. -/
def overlong (L : Lang) : ListenCall ℕ where
  lang := L
  path := List.replicate 108 97
  dir := Directory.empty.put (List.replicate 108 97) (some (.file 5))
  ans := { unlink := true, socket := some 3, sock := 7, bind := true, listen := true }
  unbound := Directory.empty_put_ne_socket (by simp)

/-- A call whose `bind` fails, at a path that names another program's socket. -/
def bindFails (L : Lang) : ListenCall ℕ where
  lang := L
  path := [97]
  dir := Directory.empty.put [97] (some (.socket 1))
  ans := { unlink := true, socket := some 3, sock := 7, bind := false, listen := true }
  unbound := Directory.empty_put_ne_socket (by simp)

/-- A call whose `listen` fails, at a path that names nothing. -/
def listenFails (L : Lang) : ListenCall ℕ where
  lang := L
  path := [97]
  dir := Directory.empty
  ans := { unlink := true, socket := some 3, sock := 7, bind := true, listen := false }
  unbound := by simp [Directory.empty]

/-- A call that fails and changes what its path names is not all or nothing. -/
theorem ListenCall.not_allOrNothing_of {c : ListenCall σ} (hfail : c.run.result.isOk = false)
    (hentry : c.run.dir.entry (cstr c.path) ≠ c.dir.entry (cstr c.path)) :
    ¬ c.AllOrNothing := by
  intro h
  rw [AllOrNothing] at h
  cases hr : c.run.result with
  | ok fd => simp [hr, Except.isOk, Except.toBool] at hfail
  | error e =>
      rw [hr] at h
      exact hentry (by rw [h.1])

/-- An overlong path costs an ordinary file its name; a failing `bind` costs another
program's socket its name; a failing `listen` leaves a socket that nobody holds. -/
theorem not_allOrNothing :
    (¬ (overlong .rust).AllOrNothing ∧ ¬ (overlong .cpp).AllOrNothing) ∧
    (¬ (bindFails .rust).AllOrNothing ∧ ¬ (bindFails .cpp).AllOrNothing) ∧
    (¬ (listenFails .rust).AllOrNothing ∧ ¬ (listenFails .cpp).AllOrNothing) := by
  refine ⟨⟨?_, ?_⟩, ⟨?_, ?_⟩, ⟨?_, ?_⟩⟩
  all_goals exact ListenCall.not_allOrNothing_of (by decide) (by decide)

end DmabufPipeline
