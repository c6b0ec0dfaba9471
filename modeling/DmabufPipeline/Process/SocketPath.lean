import DmabufPipeline.Lib.Transition
import DmabufPipeline.Process.Publisher
import DmabufPipeline.Wire.Listen

/-!
# The socket path over the life of the publishers

Any number of publishers share one socket path. Each takes away what the path names and
binds its own socket there, call by call; goes through `main`'s frame loop; and after the
loop takes away what the path names then. A `main` that returns early, because `accept` or
the handshake failed, does not come to that last removal, and the removal does not ask
whose socket it takes.

The path comes from the argument vector, so it holds no NUL.

## Main definitions

* `Stage` — where a publisher's `main` stands, from its start to its return.
* `Setup.step` — one call of one publisher.
* `Setup.create_run` — the calls of `create_listening_socket`, undisturbed, are that function.
* `Setup.PathKept` — what the publishers owe to the path.
* `Setup.LeavesOwn` — the steps that keep it.
-/

namespace DmabufPipeline

open Transition FileNames

/-! ## One publisher -/

/-- The calls inside `create_listening_socket`. -/
inductive CreateCall
  | unlink
  | socket
  | address
  | bind
  | listen
  deriving DecidableEq, Repr

/-- The first call of `create_listening_socket`. -/
def CreateCall.first : Lang → CreateCall
  | .rust => .unlink
  | .cpp => .socket

/-- The call that follows one that went through. -/
def CreateCall.next : CreateCall → Lang → Option CreateCall
  | .unlink, .rust => some .socket
  | .socket, .rust => some .address
  | .socket, .cpp => some .unlink
  | .unlink, .cpp => some .address
  | .address, _ => some .bind
  | .bind, _ => some .listen
  | .listen, _ => none

/-- How `main` came to its return. -/
inductive Way
  /-- Before `create_listening_socket` had succeeded. -/
  | unserved
  /-- After it, with the path not removed. -/
  | uncleaned
  /-- After `remove_file(&socket_path)`. -/
  | cleaned
  deriving DecidableEq, Repr

/-- Where `main` stands. -/
inductive Stage
  /-- Opening and starting the capture. -/
  | opening
  | creating (c : CreateCall)
  /-- From `accept_connection` to the end of the frame loop. -/
  | serving (pc : Publisher.Pc)
  /-- Before the `remove_file` behind the loop. -/
  | removing
  /-- The locals are being dropped. -/
  | returning (way : Way)
  | returned (way : Way)
  deriving DecidableEq, Repr

/-- One publisher, from its first statement to its return. -/
structure Life where
  stage : Stage := .opening
  running : Bool := true
  deriving DecidableEq, Repr

/-- A call of `main` with its answer, or the delivery of a signal. -/
inductive LifeAct
  | opened (ok : Bool)
  | create (ok : Bool)
  | serve (a : Publisher.Act)
  | removeSocket (ok : Bool)
  | ret
  | signal
  deriving DecidableEq, Repr

/-- Where `main` is after a call of `create_listening_socket` that went through. -/
def Stage.afterCreate (L : Lang) (c : CreateCall) : Stage :=
  match c.next L with
  | some c' => .creating c'
  | none => .serving .accept

/-- Where `main` is after a call between `accept_connection` and the end of the loop:
`accept` and the handshake return early, every other exit is a `break`. -/
def Stage.afterServe (pc pc' : Publisher.Pc) : Stage :=
  if pc'.hasLeft then (if pc.starting then .returning .uncleaned else .removing)
  else .serving pc'

/-- The stages in which the path must not name the publisher's socket: before its `bind`,
and after its removal. -/
def Stage.clear : Stage → Bool
  | .opening => true
  | .creating c => c ≠ .listen
  | .serving _ | .removing => false
  | .returning way => way = .cleaned
  | .returned way => way ≠ .unserved

/-- After `bind`, the path may name the publisher's socket. -/
theorem Stage.clear_afterCreate {L : Lang} {c : CreateCall} (h : (afterCreate L c).clear = true) :
    (Stage.creating c).clear = true ∧ c ≠ .bind := by
  cases L <;> cases c <;> simp_all [afterCreate, CreateCall.next, clear]

/-- On the way out of the loop, the path may still name the publisher's socket. -/
theorem Stage.clear_afterServe (pc pc' : Publisher.Pc) : (afterServe pc pc').clear = false := by
  rw [afterServe]
  split
  · split <;> rfl
  · rfl

/-- The name of the address, in each language. -/
def Lang.address (path : List UInt8) : Lang → Option Name
  | .rust => unixAddr path
  | .cpp => Cpp.fill_sockaddr path

/-- The removal of what a path names, in each language. -/
def Lang.removePath {σ : Type} (allowed : Bool) (path : List UInt8) (d : Directory σ) :
    Lang → Directory σ
  | .rust => remove_file allowed path d
  | .cpp => d.unlink allowed (cstr path)

/-! ## All publishers -/

/-- The publishers' languages and their common path. -/
structure Setup (ι : Type) where
  lang : ι → Lang
  path : List UInt8
  nul : 0 ∉ path

/-- The publishers, the directory, and whose socket each last removal took. -/
structure SharedPath (ι : Type) where
  life : ι → Life
  dir : Directory ι
  taken : List (ι × ι) := []

namespace Setup

variable {ι : Type} (S : Setup ι)

/-- The publisher whose socket the path names. -/
def owner (d : Directory ι) : Option ι :=
  match d.entry S.path with
  | some (.socket i) => some i
  | _ => none

/-! ## What the calls do to the path -/

theorem removePath_eq (L : Lang) (allowed : Bool) (d : Directory ι) :
    L.removePath allowed S.path d = d.unlink allowed S.path := by
  cases L with
  | rust => rw [Lang.removePath, remove_file, if_neg S.nul]
  | cpp => rw [Lang.removePath, cstr_eq_self S.nul]

/-- An address, where there is one, is the path. -/
theorem eq_path_of_address {L : Lang} {addr : Name} (h : L.address S.path = some addr) :
    addr = S.path := by
  cases L with
  | rust =>
      simp only [Lang.address, unixAddr, if_neg S.nul, Option.ite_none_left_eq_some,
        Option.some.injEq] at h
      exact h.2.symm
  | cpp =>
      simp only [Lang.address, Cpp.fill_sockaddr, cstr_eq_self S.nul,
        Option.ite_none_left_eq_some, Option.some.injEq] at h
      exact h.2.symm

/-- After a removal that went through, the path names no socket. -/
theorem owner_unlink (allowed : Bool) (d : Directory ι) :
    S.owner (d.unlink allowed S.path) = if allowed then none else S.owner d := by
  rw [owner, d.unlink_entry_self]
  cases allowed with
  | false => rfl
  | true =>
      simp only [Bool.true_and, if_true]
      cases he : d.entry S.path with
      | none => simp [Directory.removable, he]
      | some x => cases x <;> simp [Directory.removable, he]

/-- A removal of the path leaves it without a socket, or as it was. -/
theorem owner_removePath {L : Lang} {ok : Bool} {d : Directory ι} {j : ι}
    (h : S.owner (L.removePath ok S.path d) = some j) : ok = false ∧ S.owner d = some j := by
  rw [S.removePath_eq, S.owner_unlink] at h
  cases ok with
  | true => cases h
  | false => exact ⟨rfl, h⟩

/-- After `bind` by publisher `i`, the path names no other publisher's socket. -/
theorem owner_bind {allowed : Bool} {i j : ι} {d d' : Directory ι}
    (h : d.bind allowed i S.path = some d') (hj : S.owner d' = some j) : j = i := by
  simp only [Directory.bind, Option.ite_none_right_eq_some, Option.some.injEq] at h
  obtain ⟨-, rfl⟩ := h
  by_cases hpath : S.path = []
  · rw [owner, hpath, Directory.entry_nil] at hj
    cases hj
  · rw [owner, d.put_entry_self hpath] at hj
    exact (Option.some.inj hj).symm

end Setup

namespace SharedPath

variable {ι : Type} [DecidableEq ι]

/-- Publisher `i` moves on to `l`. -/
def setLife (s : SharedPath ι) (i : ι) (l : Life) : SharedPath ι :=
  { s with life := Function.update s.life i l }

/-- Publisher `i` moves on to a stage. -/
def goto (s : SharedPath ι) (i : ι) (stage : Stage) : SharedPath ι :=
  s.setLife i { s.life i with stage := stage }

/-- Another directory. -/
def setDir (s : SharedPath ι) (d : Directory ι) : SharedPath ι := { s with dir := d }

/-- The removal by publisher `i` took these sockets. -/
def take (s : SharedPath ι) (i : ι) (whose : List ι) : SharedPath ι :=
  { s with taken := s.taken ++ whose.map (i, ·) }

/-- Publisher `i` is at a stage, with a directory. -/
def place (s : SharedPath ι) (i : ι) (d : Directory ι) (stage : Stage) : SharedPath ι :=
  (s.setDir d).goto i stage

/-- Only publisher `i` moves. -/
theorem stage_setLife (s : SharedPath ι) (i j : ι) (l : Life) :
    ((s.setLife i l).life j).stage = if j = i then l.stage else (s.life j).stage := by
  rw [setLife]
  by_cases hji : j = i
  · subst hji
    simp
  · simp [hji]

theorem stage_place (s : SharedPath ι) (i : ι) (d : Directory ι) (stage : Stage) :
    ((s.place i d stage).life i).stage = stage := by
  rw [place, goto, stage_setLife, if_pos rfl]

@[simp] theorem dir_place (s : SharedPath ι) (i : ι) (d : Directory ι) (stage : Stage) :
    (s.place i d stage).dir = d := rfl

@[simp] theorem goto_place (s : SharedPath ι) (i : ι) (d : Directory ι) (st st' : Stage) :
    (s.place i d st).goto i st' = s.place i d st' := by
  simp [place, goto, setLife, setDir]

@[simp] theorem goto_setDir_place (s : SharedPath ι) (i : ι) (d d' : Directory ι)
    (st st' : Stage) : ((s.place i d st).setDir d').goto i st' = s.place i d' st' := by
  simp [place, goto, setLife, setDir]

end SharedPath

namespace Setup

variable {ι : Type} [DecidableEq ι] (S : Setup ι)

/-- One call of `create_listening_socket`; the answer of `unlink` is ignored. -/
def createStep (s : SharedPath ι) (i : ι) (c : CreateCall) (ok : Bool) : SharedPath ι :=
  let next := Stage.afterCreate (S.lang i) c
  match c with
  | .unlink => (s.setDir ((S.lang i).removePath ok S.path s.dir)).goto i next
  | .socket | .listen => s.goto i (if ok then next else .returning .unserved)
  | .address =>
      s.goto i (if ((S.lang i).address S.path).isSome then next else .returning .unserved)
  | .bind =>
      match ((S.lang i).address S.path).bind (s.dir.bind ok i) with
      | some d => (s.setDir d).goto i next
      | none => s.goto i (.returning .unserved)

/-- `remove_file` behind the frame loop, which takes whatever the path names. -/
def removeStep (s : SharedPath ι) (i : ι) (ok : Bool) : SharedPath ι :=
  ((s.take i (if ok then (S.owner s.dir).toList else [])).setDir
    ((S.lang i).removePath ok S.path s.dir)).goto i
      (.returning (if ok then .cleaned else .uncleaned))

/-- One step of publisher `i`. -/
def step (s : SharedPath ι) : ι × LifeAct → Option (SharedPath ι)
  | (i, .opened ok) =>
      if (s.life i).stage = .opening then
        some (s.goto i (if ok then .creating (.first (S.lang i)) else .returning .unserved))
      else none
  | (i, .create ok) =>
      match (s.life i).stage with
      | .creating c => some (S.createStep s i c ok)
      | _ => none
  | (i, .serve a) =>
      match (s.life i).stage with
      | .serving pc =>
          ((⟨pc, (s.life i).running⟩ : Publisher).step a).map fun p =>
            s.setLife i ⟨.afterServe pc p.pc, p.running⟩
      | _ => none
  | (i, .removeSocket ok) =>
      if (s.life i).stage = .removing then some (S.removeStep s i ok) else none
  | (i, .ret) =>
      match (s.life i).stage with
      | .returning way => some (s.goto i (.returned way))
      | _ => none
  | (i, .signal) => some (s.setLife i { s.life i with running := false })

/-! ## The calls, undisturbed, are the function -/

variable {S} {s s' : SharedPath ι} {i : ι} {d d' d'' : Directory ι} {st st' st'' : Stage}

/-- With no one else in between, calls of `create_listening_socket` by publisher `i` lead
from the directory `d` and the stage `st` to `d'` and `st'`. -/
def Creates (S : Setup ι) (s : SharedPath ι) (i : ι) (d : Directory ι) (st : Stage)
    (d' : Directory ι) (st' : Stage) : Prop :=
  ∃ oks : List Bool, run S.step (s.place i d st) (oks.map fun ok => (i, .create ok)) =
    some (s.place i d' st')

theorem Creates.refl (d : Directory ι) (st : Stage) : S.Creates s i d st d st := ⟨[], rfl⟩

/-- One call, and then the others. -/
theorem Creates.cons {c : CreateCall} (ok : Bool) (d' : Directory ι) (st' : Stage)
    (h : S.createStep (s.place i d (.creating c)) i c ok = s.place i d' st')
    (hrest : S.Creates s i d' st' d'' st'') : S.Creates s i d (.creating c) d'' st'' := by
  obtain ⟨oks, hrun⟩ := hrest
  refine ⟨ok :: oks, run_cons_eq_some.mpr ⟨s.place i d' st', ?_, hrun⟩⟩
  rw [← h]
  simp [step, SharedPath.stage_place]

/-- Where `main` goes after `create_listening_socket`. -/
@[simp] def afterCall (r : Listening ι) : Stage :=
  match r.result with
  | .ok _ => .serving .accept
  | .error _ => .returning .unserved

/-- The calls from the address on, which both languages make alike. -/
theorem creates_from_address (ans : ListenAnswers ι) (hsock : ans.sock = i) (fd : ℕ)
    {r : Listening ι}
    (hr : r = match (S.lang i).address S.path with
      | none => ⟨.error .address, d, [.acquire fd, .release fd]⟩
      | some addr =>
          match d.bind ans.bind ans.sock addr with
          | none => ⟨.error .bind, d, [.acquire fd, .release fd]⟩
          | some d =>
              if ans.listen then ⟨.ok fd, d, [.acquire fd]⟩
              else ⟨.error .listen, d, [.acquire fd, .release fd]⟩) :
    S.Creates s i d (.creating .address) r.dir (afterCall r) := by
  subst hsock hr
  cases haddr : (S.lang ans.sock).address S.path with
  | none =>
      refine .cons true d (.returning .unserved) ?_ (.refl _ _)
      simp [createStep, haddr]
  | some addr =>
      refine .cons true d (.creating .bind) ?_ ?_
      · simp [createStep, haddr, Stage.afterCreate, CreateCall.next]
      · cases hbind : d.bind ans.bind ans.sock addr with
        | none =>
            refine .cons ans.bind d (.returning .unserved) ?_ ?_
            · simp [createStep, haddr, hbind]
            · simpa [hbind] using Creates.refl d (.returning .unserved)
        | some dir =>
            refine .cons ans.bind dir (.creating .listen) ?_ ?_
            · simp [createStep, haddr, hbind, Stage.afterCreate, CreateCall.next]
            · simp only [hbind]
              cases ans.listen with
              | true =>
                  refine .cons true dir (.serving .accept) ?_ (.refl _ _)
                  simp [createStep, Stage.afterCreate, CreateCall.next]
              | false =>
                  refine .cons false dir (.returning .unserved) ?_ (.refl _ _)
                  simp [createStep]

/-- **Undisturbed, the calls of `create_listening_socket` are that function**: they leave
the directory that it leaves, and `main` where its result sends it. -/
theorem create_run {c : ListenCall ι} (hlang : c.lang = S.lang i) (hpath : c.path = S.path)
    (hsock : c.ans.sock = i) :
    S.Creates s i c.dir (.creating (.first (S.lang i))) c.run.dir (afterCall c.run) := by
  obtain ⟨L, path, d, ans, hnew⟩ := c
  change L = S.lang i at hlang
  change path = S.path at hpath
  subst hpath
  cases L with
  | rust =>
      rw [← hlang]
      change S.Creates s i d (.creating .unlink) (create_listening_socket S.path ans d).dir
        (afterCall (create_listening_socket S.path ans d))
      refine .cons ans.unlink (remove_file ans.unlink S.path d) (.creating .socket) ?_ ?_
      · simp [createStep, ← hlang, Stage.afterCreate, CreateCall.next, Lang.removePath]
      · cases hs : ans.socket with
        | none =>
            refine .cons false (remove_file ans.unlink S.path d) (.returning .unserved) ?_ ?_
            · simp [createStep]
            · simpa [create_listening_socket, hs] using Creates.refl _ _
        | some fd =>
            refine .cons true (remove_file ans.unlink S.path d) (.creating .address) ?_ ?_
            · simp [createStep, ← hlang, Stage.afterCreate, CreateCall.next]
            · apply creates_from_address ans hsock fd
              cases haddr : unixAddr S.path with
              | none => simp [create_listening_socket, hs, ← hlang, Lang.address, haddr]
              | some addr =>
                  cases hbind : (remove_file ans.unlink S.path d).bind ans.bind ans.sock addr <;>
                    simp [create_listening_socket, hs, ← hlang, Lang.address, haddr, hbind]
  | cpp =>
      rw [← hlang]
      change S.Creates s i d (.creating .socket) (Cpp.create_listening_socket S.path ans d).dir
        (afterCall (Cpp.create_listening_socket S.path ans d))
      cases hs : ans.socket with
      | none =>
          refine .cons false d (.returning .unserved) ?_ ?_
          · simp [createStep]
          · simpa [Cpp.create_listening_socket, hs] using Creates.refl _ _
      | some fd =>
          refine .cons true d (.creating .unlink) ?_ ?_
          · simp [createStep, ← hlang, Stage.afterCreate, CreateCall.next]
          · refine .cons ans.unlink (d.unlink ans.unlink (cstr S.path)) (.creating .address) ?_ ?_
            · simp [createStep, ← hlang, Stage.afterCreate, CreateCall.next, Lang.removePath]
            · apply creates_from_address ans hsock fd
              cases haddr : Cpp.fill_sockaddr S.path with
              | none => simp [Cpp.create_listening_socket, hs, ← hlang, Lang.address, haddr]
              | some addr =>
                  cases hbind : (d.unlink ans.unlink (cstr S.path)).bind ans.bind ans.sock addr <;>
                    simp [Cpp.create_listening_socket, hs, ← hlang, Lang.address, haddr, hbind]

/-! ## What the publishers owe to the path -/

/-- A publisher that has served and returned has left no entry for its socket, and its
last removal has taken no other publisher's socket. -/
structure PathKept (s : SharedPath ι) : Prop where
  left : ∀ i way, (s.life i).stage = .returned way → way ≠ .unserved → S.owner s.dir ≠ some i
  own : ∀ q ∈ s.taken, q.2 = q.1

/-- The steps that keep it: a removal behind the loop goes through only while the path
names no other publisher's socket, and a `main` that has not removed the path returns only
while the path does not name its socket. -/
def LeavesOwn (s : SharedPath ι) : ι × LifeAct → Prop
  | (i, .removeSocket ok) => ok = true → ∀ j, S.owner s.dir = some j → j = i
  | (i, .ret) => (s.life i).stage = .returning .uncleaned → S.owner s.dir ≠ some i
  | _ => True

instance (s : SharedPath ι) (ia : ι × LifeAct) : Decidable (S.LeavesOwn s ia) :=
  match ia with
  | (i, .removeSocket ok) =>
      inferInstanceAs (Decidable (ok = true → ∀ j ∈ S.owner s.dir, j = i))
  | (_, .ret) => inferInstanceAs (Decidable (_ → _))
  | (_, .opened _) | (_, .create _) | (_, .serve _) | (_, .signal) => isTrue trivial

/-- The path names no socket of a publisher in a clear stage. -/
def Clear (s : SharedPath ι) : Prop :=
  ∀ i, (s.life i).stage.clear = true → S.owner s.dir ≠ some i

/-- A publisher that moves on keeps the others clear. -/
theorem clear_setLife {l : Life}
    (hothers : ∀ j, j ≠ i → (s.life j).stage.clear = true → S.owner s.dir ≠ some j)
    (hi : l.stage.clear = true → S.owner s.dir ≠ some i) : S.Clear (s.setLife i l) := by
  intro j hj
  rw [SharedPath.stage_setLife] at hj
  by_cases hji : j = i
  · subst hji
    rw [if_pos rfl] at hj
    exact hi hj
  · rw [if_neg hji] at hj
    exact hothers j hji hj

/-- **Creating a socket keeps the path clear**: `bind` finds no entry, and makes one for
the publisher itself. -/
theorem clear_createStep (h : S.Clear s) {c : CreateCall}
    (hc : (s.life i).stage = .creating c) (ok : Bool) : S.Clear (S.createStep s i c ok) := by
  have hnext (hclear : (Stage.afterCreate (S.lang i) c).clear = true) :
      S.owner s.dir ≠ some i := by
    have hthis := (Stage.clear_afterCreate hclear).1
    exact h i (hc ▸ hthis)
  have hothers : ∀ j, j ≠ i → (s.life j).stage.clear = true → S.owner s.dir ≠ some j :=
    fun j _ => h j
  cases c with
  | unlink =>
      refine clear_setLife ?_ ?_
      · intro j hji hj howner
        exact h j hj (S.owner_removePath howner).2
      · intro hclear howner
        exact hnext hclear (S.owner_removePath howner).2
  | socket | listen =>
      refine clear_setLife hothers ?_
      cases ok with
      | true => exact hnext
      | false => exact nofun
  | address =>
      refine clear_setLife hothers ?_
      by_cases haddr : ((S.lang i).address S.path).isSome = true
      · simpa only [haddr, if_true] using hnext
      · simp only [haddr]
        exact nofun
  | bind =>
      simp only [createStep]
      cases haddr : (S.lang i).address S.path with
      | none => exact clear_setLife hothers (by exact nofun)
      | some addr =>
          obtain rfl := S.eq_path_of_address haddr
          simp only [Option.bind_some]
          cases hbind : s.dir.bind ok i S.path with
          | none => exact clear_setLife hothers (by exact nofun)
          | some d =>
              refine clear_setLife ?_ ?_
              · intro j hji _ howner
                exact hji (S.owner_bind hbind howner)
              · intro hclear
                exact absurd rfl (Stage.clear_afterCreate (L := S.lang i) hclear).2

/-- The removal behind the loop keeps the path clear. -/
theorem clear_removeStep (h : S.Clear s) (ok : Bool) : S.Clear (S.removeStep s i ok) := by
  refine clear_setLife ?_ ?_
  · intro j hji hj howner
    exact h j hj (S.owner_removePath howner).2
  · intro hclear howner
    obtain ⟨rfl, -⟩ := S.owner_removePath howner
    cases hclear

/-- **One step keeps the path clear**, as long as nobody returns past an entry of its
own. -/
theorem clear_step (h : S.Clear s) {a : LifeAct} (ha : S.LeavesOwn s (i, a))
    (hs : S.step s (i, a) = some s') : S.Clear s' := by
  have hothers : ∀ j, j ≠ i → (s.life j).stage.clear = true → S.owner s.dir ≠ some j :=
    fun j _ => h j
  cases a with
  | opened ok =>
      simp only [step, Option.ite_none_right_eq_some, Option.some.injEq] at hs
      obtain ⟨hstage, rfl⟩ := hs
      exact clear_setLife hothers fun _ => h i (by rw [hstage]; rfl)
  | create ok =>
      simp only [step] at hs
      split at hs
      case h_1 c hc =>
        obtain rfl := Option.some.inj hs
        exact clear_createStep h hc ok
      case h_2 => cases hs
  | serve a =>
      simp only [step] at hs
      split at hs
      case h_1 pc hpc =>
        obtain ⟨p, -, rfl⟩ := Option.map_eq_some_iff.mp hs
        refine clear_setLife hothers fun hclear => ?_
        rw [Stage.clear_afterServe] at hclear
        cases hclear
      case h_2 => cases hs
  | removeSocket ok =>
      simp only [step, Option.ite_none_right_eq_some, Option.some.injEq] at hs
      obtain ⟨-, rfl⟩ := hs
      exact clear_removeStep h ok
  | ret =>
      simp only [step] at hs
      split at hs
      case h_1 way hway =>
        obtain rfl := Option.some.inj hs
        refine clear_setLife hothers fun hclear => ?_
        cases way with
        | unserved => cases hclear
        | uncleaned => exact ha hway
        | cleaned => exact h i (by rw [hway]; rfl)
      case h_2 => cases hs
  | signal =>
      obtain rfl := Option.some.inj hs
      exact clear_setLife hothers (h i)

/-- Only the removal behind the loop takes sockets, and only the one that the path
names. -/
theorem taken_step {a : LifeAct} (hs : S.step s (i, a) = some s') :
    s'.taken = s.taken ∨ a = .removeSocket true ∧
      s'.taken = s.taken ++ (S.owner s.dir).toList.map (i, ·) := by
  cases a with
  | opened ok =>
      simp only [step, Option.ite_none_right_eq_some, Option.some.injEq] at hs
      exact .inl (hs.2 ▸ rfl)
  | create ok =>
      simp only [step] at hs
      split at hs
      case h_1 c hc =>
        obtain rfl := Option.some.inj hs
        left
        cases c with
        | bind =>
            simp only [createStep]
            split <;> rfl
        | _ => rfl
      case h_2 => cases hs
  | serve a =>
      simp only [step] at hs
      split at hs
      case h_1 pc hpc =>
        obtain ⟨p, -, rfl⟩ := Option.map_eq_some_iff.mp hs
        exact .inl rfl
      case h_2 => cases hs
  | removeSocket ok =>
      simp only [step, Option.ite_none_right_eq_some, Option.some.injEq] at hs
      obtain ⟨-, rfl⟩ := hs
      cases ok with
      | true => exact .inr ⟨rfl, rfl⟩
      | false => exact .inl (List.append_nil _)
  | ret =>
      simp only [step] at hs
      split at hs
      case h_1 way hway => exact .inl (Option.some.inj hs ▸ rfl)
      case h_2 => cases hs
  | signal => exact .inl (Option.some.inj hs ▸ rfl)

/-- Nobody has started, and the path names no publisher's socket. -/
structure Fresh (S : Setup ι) (s : SharedPath ι) : Prop where
  opening : ∀ i, s.life i = {}
  owner : S.owner s.dir = none
  taken : s.taken = []

/-- **The path is kept exactly in the runs whose steps leave each publisher's entry to
itself**: nobody's last removal takes another publisher's socket, and nobody returns
without a removal past an entry of its own. -/
theorem pathKept_iff (S : Setup ι) {s t : SharedPath ι} {as : List (ι × LifeAct)}
    (h0 : S.Fresh s) (hrun : run S.step s as = some t) :
    Always S.step S.PathKept s as ↔ Meets S.step S.LeavesOwn s as := by
  refine always_iff_meets_of_strengthening (G := fun _ _ => True)
    (Q := fun s => S.Clear s ∧ ∀ q ∈ s.taken, q.2 = q.1) ?_ ?_ ?_ ?_
    (meets_of_forall (fun _ _ => trivial) s as) hrun
  · intro s ⟨hclear, hown⟩
    refine ⟨fun i way hway hne => hclear i ?_, hown⟩
    rw [hway]
    simpa [Stage.clear] using hne
  · rintro s ⟨i, a⟩ s' ⟨hclear, hown⟩ - ha hs
    refine ⟨clear_step hclear ha hs, ?_⟩
    rcases taken_step hs with htaken | ⟨rfl, htaken⟩
    · rwa [htaken]
    · intro q hq
      rw [htaken, List.mem_append] at hq
      rcases hq with hq | hq
      · exact hown q hq
      · obtain ⟨j, hj, rfl⟩ := List.mem_map.mp hq
        exact ha rfl j (Option.mem_toList.mp hj)
  · rintro s ⟨i, a⟩ s' ⟨hclear, hown⟩ - hs hkept
    cases a with
    | removeSocket ok =>
        rintro rfl j hj
        simp only [step, Option.ite_none_right_eq_some, Option.some.injEq] at hs
        obtain ⟨-, rfl⟩ := hs
        refine hkept.own (i, j) ?_
        simp [removeStep, SharedPath.goto, SharedPath.setLife, SharedPath.setDir,
          SharedPath.take, hj]
    | ret =>
        intro hway howner
        simp only [step, hway, Option.some.injEq] at hs
        subst hs
        refine hkept.left i .uncleaned ?_ (by decide) howner
        rw [SharedPath.goto, SharedPath.stage_setLife, if_pos rfl]
    | _ => trivial
  · refine ⟨?_, ?_⟩
    · intro i _ howner
      rw [h0.owner] at howner
      cases howner
    · rw [h0.taken]
      simp

/-! ## Runs that do not -/

/-- Two Rust publishers on one path. -/
def twoPublishers : Setup Bool where
  lang _ := .rust
  path := [97]
  nul := by decide

/-- Nobody has started, and the path names nothing. -/
def twoIdle : SharedPath Bool where
  life _ := {}
  dir := .empty

/-- Publisher `i` starts and creates its socket. -/
def starts (i : Bool) : List (Bool × LifeAct) :=
  [.opened true, .create true, .create true, .create true, .create true, .create true].map (i, ·)

/-- `accept` fails. -/
def failedAccept : List (Bool × LifeAct) :=
  starts false ++ [(false, .serve (.accept false)), (false, .ret)]

/-- The first publisher has a subscriber when the second one starts on the same path, and
then a signal ends the first one. -/
def secondStarts : List (Bool × LifeAct) :=
  starts false ++
    [(false, .serve (.accept true)), (false, .serve (.sendHandshake .ok))] ++
    starts true ++
    [(false, .signal), (false, .serve .loopTest), (false, .removeSocket true), (false, .ret)]

/-- After a failed `accept` the path names the socket of a publisher that has returned;
and the first of two publishers takes away the second one's entry. -/
theorem not_pathKept :
    ¬ Always twoPublishers.step twoPublishers.PathKept twoIdle failedAccept ∧
    ¬ Always twoPublishers.step twoPublishers.PathKept twoIdle secondStarts := by
  constructor
  · intro h
    obtain ⟨t, hrun, ht⟩ := Option.map_eq_some_iff.mp
      (by decide : (run twoPublishers.step twoIdle failedAccept).map
        (fun t => (twoPublishers.owner t.dir, (t.life false).stage)) =
          some (some false, .returned .uncleaned))
    obtain ⟨howner, hstage⟩ := Prod.mk.inj ht
    exact (h.last hrun).left false .uncleaned hstage (by decide) howner
  · intro h
    obtain ⟨t, hrun, ht⟩ := Option.map_eq_some_iff.mp
      (by decide : (run twoPublishers.step twoIdle secondStarts).map (·.taken) =
        some [(false, true)])
    have hbad := (h.last hrun).own (false, true) (by rw [ht]; exact List.mem_cons_self)
    cases hbad

/-- The first publisher stops before the second one binds. -/
def inTurn : List (Bool × LifeAct) :=
  starts false ++
    [(false, .serve (.accept true)), (false, .serve (.sendHandshake .ok)),
      (false, .signal), (false, .serve .loopTest), (false, .removeSocket true), (false, .ret)] ++
    starts true

/-- Two publishers that use the path one after the other keep it. -/
theorem pathKept_iff_inTurn :
    Always twoPublishers.step twoPublishers.PathKept twoIdle inTurn := by
  obtain ⟨t, hrun, -⟩ := Option.map_eq_some_iff.mp
    (by decide : (run twoPublishers.step twoIdle inTurn).map (·.taken) = some [(false, false)])
  exact (pathKept_iff twoPublishers ⟨fun _ => rfl, rfl, rfl⟩ hrun).mpr (by decide)

end Setup
end DmabufPipeline
