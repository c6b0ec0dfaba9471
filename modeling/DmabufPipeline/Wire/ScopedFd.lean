import DmabufPipeline.Capture.V4l2
import DmabufPipeline.Lib.Holders
import DmabufPipeline.Lib.Transition
import Mathlib.Data.Fintype.Basic

/-!
# The C++ descriptor wrapper

`ScopedFd` of `socket_utils.hpp` and `socket_utils.cpp`, with any number of objects living
side by side. A live object is a place of the ownership library: construction takes a
descriptor into a place, a move carries it to another, and `release`, `reset` and the
destructor give it up, the last two by closing it. What the rest of the program does to
descriptors between two of these calls is part of the model, so that a number may come
back after it was closed.

The callers must hand in a descriptor that is open and that no object owns, and must not
close one behind an object's back. That is `HandsInOpen`.

## Main definitions

* `ScopedFd` — the object and its members.
* `ScopedFd.step` — one operation on the objects of a program.
* `ScopedFd.UniqueOwner` — each descriptor has one owner, is open, and is accounted for.
* `scopedFd_uniqueOwner` — it holds in every reachable state.
-/

namespace DmabufPipeline

open Transition

/-- `ScopedFd`; an object with a negative `fd_` owns nothing. -/
structure ScopedFd where
  fd_ : ℤ := -1
  deriving DecidableEq, Repr

namespace ScopedFd

/-! ## The members -/

/-- The descriptor that an `int` denotes. -/
def toFd (fd : ℤ) : Option Fd := if 0 ≤ fd then some fd.toNat else none

/-- What the object owns, `if (fd_ >= 0)`. -/
def owned (x : ScopedFd) : Option Fd := toFd x.fd_

/-- `ScopedFd(ScopedFd&& other)`: the new object and what is left of `other`. -/
def moveConstruct (other : ScopedFd) : ScopedFd × ScopedFd := (⟨other.fd_⟩, ⟨-1⟩)

/-- `operator=(ScopedFd&& other)` on two different objects: the descriptor it closes,
`*this`, and what is left of `other`. -/
def moveAssign (this other : ScopedFd) : Option Fd × ScopedFd × ScopedFd :=
  (this.owned, ⟨other.fd_⟩, ⟨-1⟩)

/-- `release()`: the descriptor it returns and what is left of the object. -/
def release (x : ScopedFd) : ℤ × ScopedFd := (x.fd_, ⟨-1⟩)

/-- `reset(fd)`: the descriptor it closes, and the object. -/
def reset (x : ScopedFd) (fd : ℤ) : Option Fd × ScopedFd := (x.owned, ⟨fd⟩)

/-- `~ScopedFd()`: the descriptor it closes. -/
def destroy (x : ScopedFd) : Option Fd := x.owned

/-! ## Objects in use -/

/-- An operation on the objects of a program, named by their addresses, or an `open` or
`close` by the rest of the program. `ScopedFd()` is a construction from -1. -/
inductive Op (ι : Type)
  | construct (o : ι) (fd : ℤ)
  | moveConstruct (o other : ι)
  | moveAssign (o other : ι)
  | release (o : ι)
  | reset (o : ι) (fd : ℤ)
  | destroy (o : ι)
  | openFd (fd : Fd)
  | closeFd (fd : Fd)
  deriving DecidableEq

/-- What happens to the ownership of a descriptor. -/
inductive Transfer
  /-- Handed to the constructor or to `reset`. -/
  | handedIn (fd : Fd)
  /-- Returned by `release`. -/
  | released (fd : Fd)
  /-- Closed by an object. -/
  | closed (fd : Fd)
  deriving DecidableEq, Repr

/-- A transfer as an entry of the ledger of owned descriptors. -/
def Transfer.event : Transfer → Ledger.Event Fd
  | .handedIn fd => .acquire fd
  | .released fd | .closed fd => .release fd

/-- The live objects, the open descriptors of the process, and the transfers so far. -/
structure Objects (ι : Type) where
  objs : ι → Option ScopedFd := fun _ => none
  opened : Finset Fd := ∅
  log : List Transfer := []

variable {ι : Type} [DecidableEq ι]

namespace Objects

/-- An object comes to life, changes, or dies. -/
def put (s : Objects ι) (o : ι) (x : Option ScopedFd) : Objects ι :=
  { s with objs := Function.update s.objs o x }

/-- A caller hands a descriptor in, if `fd` denotes one. -/
def handIn (s : Objects ι) (fd : Option Fd) : Objects ι :=
  { s with log := s.log ++ (fd.map .handedIn).toList }

/-- A descriptor goes back to the caller. -/
def handOut (s : Objects ι) (fd : Option Fd) : Objects ι :=
  { s with log := s.log ++ (fd.map .released).toList }

/-- `if (fd_ >= 0) ::close(fd_)`. -/
def close (s : Objects ι) (fd : Option Fd) : Objects ι :=
  { s with
    opened := fd.elim s.opened s.opened.erase
    log := s.log ++ (fd.map .closed).toList }

/-- What each object owns; a dead object owns nothing. -/
def owner (s : Objects ι) (o : ι) : Option Fd := (s.objs o).bind ScopedFd.owned

end Objects

/-- One operation. An object is constructed where none lives, and every other operation
is on a live object. -/
def step (s : Objects ι) : Op ι → Option (Objects ι)
  | .construct o fd =>
      if s.objs o = none then some ((s.handIn (toFd fd)).put o (some ⟨fd⟩)) else none
  | .moveConstruct o other =>
      match s.objs o, s.objs other with
      | none, some y =>
          let (x', y') := moveConstruct y
          some ((s.put o (some x')).put other (some y'))
      | _, _ => none
  | .moveAssign o other =>
      match s.objs o, s.objs other with
      | some x, some y =>
          if o = other then some s
          else
            let (fd, x', y') := moveAssign x y
            some (((s.close fd).put o (some x')).put other (some y'))
      | _, _ => none
  | .release o =>
      (s.objs o).map fun x =>
        let (fd, x') := release x
        (s.handOut (toFd fd)).put o (some x')
  | .reset o fd =>
      (s.objs o).map fun x =>
        let (old, x') := reset x fd
        ((s.close old).handIn (toFd fd)).put o (some x')
  | .destroy o => (s.objs o).map fun x => (s.close x.destroy).put o none
  | .openFd fd => if fd ∈ s.opened then none else some { s with opened := insert fd s.opened }
  | .closeFd fd =>
      if fd ∈ s.opened then some { s with opened := s.opened.erase fd } else none

/-- The callers hand in a descriptor that is open and owned by no object, and close none
that an object owns. -/
def HandsInOpen (s : Objects ι) : Op ι → Prop
  | .construct _ fd | .reset _ fd =>
      ∀ r ∈ toFd fd, r ∈ s.opened ∧ ∀ o, s.owner o ≠ some r
  | .closeFd fd => ∀ o, s.owner o ≠ some fd
  | _ => True

instance [Fintype ι] (s : Objects ι) (op : Op ι) : Decidable (HandsInOpen s op) := by
  cases op <;> unfold HandsInOpen <;> infer_instance

/-! ## One owner for each descriptor -/

/-- **Each descriptor has one owner.** No two live objects hold the same descriptor, what
an object holds is open, and everything handed in is still held, or has been returned to
the caller or closed, exactly once; once no object lives, none is still held. -/
structure UniqueOwner (s : Objects ι) : Prop where
  unique : ∀ o o' x x', s.objs o = some x → s.objs o' = some x' → 0 ≤ x.fd_ → x.fd_ = x'.fd_ →
    o = o'
  opened : ∀ o x, s.objs o = some x → 0 ≤ x.fd_ → x.fd_.toNat ∈ s.opened
  handedIn : Ledger.Fresh ∅ (s.log.map Transfer.event)
  givenUp : Ledger.Sound ∅ (s.log.map Transfer.event)
  held_iff : ∀ r, r ∈ Ledger.held ∅ (s.log.map Transfer.event) ↔ ∃ o, s.owner o = some r
  settled : (∀ o, s.objs o = none) → Ledger.Balanced (s.log.map Transfer.event)

/-- The ledger agrees with the objects, and what they own is open. -/
structure Inv (s : Objects ι) : Prop where
  agrees : Holders.Agrees s.owner (s.log.map Transfer.event)
  opened : ∀ o r, s.owner o = some r → r ∈ s.opened

variable {s s' : Objects ι} {o other : ι}

/-- The descriptor that an object owns is its `fd_`. -/
theorem owned_eq_some {x : ScopedFd} {r : Fd} : x.owned = some r ↔ x.fd_ = r := by
  rw [owned, toFd]
  by_cases h : 0 ≤ x.fd_
  · have hnat := Int.toNat_of_nonneg h
    rw [if_pos h, Option.some.injEq]
    constructor
    · intro heq
      subst heq
      exact hnat.symm
    · intro hr
      exact Int.ofNat_inj.mp (hnat.trans hr)
  · rw [if_neg h]
    constructor
    · intro hr
      cases hr
    · intro hr
      exact absurd (hr ▸ Int.natCast_nonneg r) h

/-- After an object changed, it owns what its new value says. -/
theorem owner_put (x : Option ScopedFd) :
    (s.put o x).owner = Function.update s.owner o (x.bind owned) := by
  funext o'
  by_cases ho : o' = o
  · subst ho
    simp [Objects.owner, Objects.put]
  · simp [Objects.owner, Objects.put, Function.update_of_ne ho]

/-- Before the first operation. -/
theorem Inv.init (ι : Type) (opened : Finset Fd) : Inv ({ opened := opened } : Objects ι) where
  agrees := .empty
  opened := by
    intro o r hr
    cases hr

/-- An object that owns nothing takes what a caller hands in. -/
theorem Inv.take (h : Inv s) (ho : s.owner o = none) {fd : ℤ}
    (hin : ∀ r ∈ toFd fd, r ∈ s.opened ∧ ∀ o, s.owner o ≠ some r) :
    Inv ((s.handIn (toFd fd)).put o (some ⟨fd⟩)) := by
  have howner : ((s.handIn (toFd fd)).put o (some ⟨fd⟩)).owner =
      Function.update s.owner o (toFd fd) := owner_put _
  cases hfd : toFd fd with
  | none =>
      have hsame : Function.update s.owner o none = s.owner := by
        rw [← ho, Function.update_eq_self]
      rw [hfd, hsame] at howner
      refine ⟨?_, ?_⟩
      · rw [howner]
        simpa [Objects.handIn, Objects.put] using h.agrees
      · intro o' r hr
        rw [howner] at hr
        exact h.opened o' r hr
  | some r =>
      obtain ⟨hopen, hfree⟩ := hin r hfd
      rw [hfd] at howner
      refine ⟨?_, ?_⟩
      · rw [howner]
        simpa [Objects.handIn, Objects.put, Transfer.event] using h.agrees.take ho hfree
      · intro o' r' hr
        rw [howner] at hr
        by_cases ho' : o' = o
        · subst ho'
          rw [Function.update_self, Option.some.injEq] at hr
          exact hr ▸ hopen
        · rw [Function.update_of_ne ho'] at hr
          exact h.opened o' r' hr

/-- An object gives up what it owns, if anything, and every other descriptor stays open. -/
theorem Inv.give (h : Inv s) (howner : s'.owner = Function.update s.owner o none)
    (hlog : s'.log.map Transfer.event =
      s.log.map Transfer.event ++ ((s.owner o).map .release).toList)
    (hopened : ∀ r ∈ s.opened, s.owner o ≠ some r → r ∈ s'.opened) : Inv s' := by
  refine ⟨?_, ?_⟩
  · rw [howner, hlog]
    cases ho : s.owner o with
    | none =>
        rw [← ho, Function.update_eq_self]
        simpa [ho] using h.agrees
    | some r => exact h.agrees.give ho
  · intro o' r hr
    rw [howner] at hr
    have ho' : o' ≠ o := by
      intro heq
      subst heq
      rw [Function.update_self] at hr
      cases hr
    rw [Function.update_of_ne ho'] at hr
    refine hopened r (h.opened o' r hr) ?_
    intro ho
    exact ho' (h.agrees.unique o' o r hr ho)

/-- An object closes what it owns, and owns nothing. -/
theorem Inv.close (h : Inv s) {x : Option ScopedFd} (hx : x.bind owned = none) :
    Inv ((s.close (s.owner o)).put o x) := by
  refine h.give (o := o) ?_ ?_ ?_
  · rw [owner_put, hx]
    rfl
  · cases ho : s.owner o <;> simp [Objects.close, Objects.put, Transfer.event]
  · intro r hr hne
    cases ho : s.owner o with
    | none => exact hr
    | some r' =>
        rw [ho, ne_eq, Option.some.injEq, eq_comm] at hne
        exact Finset.mem_erase_of_ne_of_mem hne hr

/-- An object returns what it owns to the caller, and owns nothing. -/
theorem Inv.handOut (h : Inv s) {x : Option ScopedFd} (hx : x.bind owned = none) :
    Inv ((s.handOut (s.owner o)).put o x) := by
  refine h.give (o := o) ?_ ?_ ?_
  · rw [owner_put, hx]
    rfl
  · cases ho : s.owner o <;> simp [Objects.handOut, Objects.put, Transfer.event]
  · intro r hr _
    exact hr

/-- A descriptor moves from a live object to one that owns nothing. -/
theorem Inv.move (h : Inv s) (hne : o ≠ other) (ho : s.owner o = none) {y : ScopedFd}
    (hy : s.objs other = some y) :
    Inv ((s.put o (some ⟨y.fd_⟩)).put other (some ⟨-1⟩)) := by
  have howned : s.owner other = y.owned := by rw [Objects.owner, hy]; rfl
  have howner : ((s.put o (some ⟨y.fd_⟩)).put other (some ⟨-1⟩)).owner =
      Function.update (Function.update s.owner o (s.owner other)) other none := by
    rw [owner_put, owner_put, howned]
    rfl
  have hmoved := h.agrees.move hne.symm ho
  refine ⟨?_, ?_⟩
  · rw [howner]
    exact hmoved
  · intro o' r hr
    rw [howner] at hr
    obtain ⟨o'', hr⟩ := (h.agrees.held_iff r).mp ((hmoved.held_iff r).mpr ⟨o', hr⟩)
    exact h.opened o'' r hr

omit [DecidableEq ι] in
/-- What the rest of the program opens or closes concerns no object. -/
theorem Inv.frame (h : Inv s) {opened : Finset Fd}
    (hopened : ∀ r ∈ s.opened, (∃ o, s.owner o = some r) → r ∈ opened) :
    Inv { s with opened := opened } where
  agrees := h.agrees
  opened := by
    intro o r hr
    exact hopened r (h.opened o r hr) ⟨o, hr⟩

/-- What an object has closed before it takes another descriptor. -/
theorem Inv.closed (h : Inv s) (o : ι) :
    Inv ((s.close (s.owner o)).put o none) ∧ ((s.close (s.owner o)).put o none).owner o = none := by
  refine ⟨h.close rfl, ?_⟩
  rw [owner_put, Function.update_self]
  rfl

/-- Move assignment: `*this` closes its own descriptor, and then takes the other's. -/
theorem Inv.moveAssign (h : Inv s) (hne : o ≠ other) {x y : ScopedFd} (ho : s.objs o = some x)
    (hy : s.objs other = some y) :
    Inv (((s.close x.owned).put o (some ⟨y.fd_⟩)).put other (some ⟨-1⟩)) := by
  obtain ⟨hclosed, hempty⟩ := h.closed o
  have hother : ((s.close (s.owner o)).put o none).objs other = some y := by
    simp [Objects.put, Objects.close, Function.update_of_ne (Ne.symm hne), hy]
  have hmoved := hclosed.move hne hempty hother
  have howned : s.owner o = x.owned := by rw [Objects.owner, ho]; rfl
  rw [howned] at hmoved
  simpa [Objects.put] using hmoved

/-- What no object owns stays open and free when an object closes its own. -/
theorem Inv.free_closed {r : Fd} (hopen : r ∈ s.opened) (hfree : ∀ o, s.owner o ≠ some r)
    (o : ι) :
    r ∈ ((s.close (s.owner o)).put o none).opened ∧
      ∀ o', ((s.close (s.owner o)).put o none).owner o' ≠ some r := by
  constructor
  · cases hold : s.owner o with
    | none => exact hopen
    | some r' =>
        have hne : r ≠ r' := by
          intro heq
          subst heq
          exact hfree o hold
        exact Finset.mem_erase_of_ne_of_mem hne hopen
  · intro o'
    rw [owner_put]
    by_cases ho' : o' = o
    · subst ho'
      rw [Function.update_self]
      exact nofun
    · rw [Function.update_of_ne ho']
      exact hfree o'

/-- `reset`: the old descriptor is closed, and then the new one is taken. -/
theorem Inv.reset (h : Inv s) {x : ScopedFd} (ho : s.objs o = some x) {fd : ℤ}
    (hin : ∀ r ∈ toFd fd, r ∈ s.opened ∧ ∀ o, s.owner o ≠ some r) :
    Inv (((s.close x.owned).handIn (toFd fd)).put o (some ⟨fd⟩)) := by
  obtain ⟨hclosed, hempty⟩ := h.closed o
  have htaken := hclosed.take hempty fun r hr => Inv.free_closed (hin r hr).1 (hin r hr).2 o
  have howned : s.owner o = x.owned := by rw [Objects.owner, ho]; rfl
  rw [howned] at htaken
  simpa [Objects.put, Objects.handIn] using htaken

/-- **Every operation keeps one owner for each descriptor.** -/
theorem Inv.step (s : Objects ι) (op : Op ι) (s' : Objects ι) (h : Inv s)
    (hC : HandsInOpen s op) (hs : ScopedFd.step s op = some s') : Inv s' := by
  cases op with
  | construct o fd =>
      simp only [ScopedFd.step, Option.ite_none_right_eq_some, Option.some.injEq] at hs
      obtain ⟨ho, rfl⟩ := hs
      exact h.take (by rw [Objects.owner, ho]; rfl) hC
  | moveConstruct o other =>
      simp only [ScopedFd.step] at hs
      split at hs
      case h_1 y ho hy =>
        obtain rfl := Option.some.inj hs
        have hne : o ≠ other := by
          intro heq
          subst heq
          rw [ho] at hy
          cases hy
        exact h.move hne (by rw [Objects.owner, ho]; rfl) hy
      case h_2 => cases hs
  | moveAssign o other =>
      simp only [ScopedFd.step] at hs
      split at hs
      case h_1 x y ho hy =>
        by_cases hne : o = other
        · rw [if_pos hne] at hs
          obtain rfl := Option.some.inj hs
          exact h
        · rw [if_neg hne] at hs
          obtain rfl := Option.some.inj hs
          exact h.moveAssign hne ho hy
      case h_2 => cases hs
  | release o =>
      obtain ⟨x, ho, rfl⟩ := Option.map_eq_some_iff.mp hs
      have howned : s.owner o = toFd x.fd_ := by rw [Objects.owner, ho]; rfl
      have hgiven := h.handOut (o := o) (x := some ⟨-1⟩) rfl
      rwa [howned] at hgiven
  | reset o fd =>
      obtain ⟨x, ho, rfl⟩ := Option.map_eq_some_iff.mp hs
      exact h.reset ho hC
  | destroy o =>
      obtain ⟨x, ho, rfl⟩ := Option.map_eq_some_iff.mp hs
      have howned : s.owner o = x.destroy := by rw [Objects.owner, ho]; rfl
      have hclosed := h.close (o := o) (x := none) rfl
      rwa [howned] at hclosed
  | openFd fd =>
      simp only [ScopedFd.step, Option.ite_none_left_eq_some, Option.some.injEq] at hs
      obtain ⟨-, rfl⟩ := hs
      exact h.frame fun r hr _ => Finset.mem_insert_of_mem hr
  | closeFd fd =>
      simp only [ScopedFd.step, Option.ite_none_right_eq_some, Option.some.injEq] at hs
      obtain ⟨-, rfl⟩ := hs
      refine h.frame ?_
      intro r hr howned
      obtain ⟨o, ho⟩ := howned
      refine Finset.mem_erase_of_ne_of_mem ?_ hr
      intro heq
      subst heq
      exact hC o ho

omit [DecidableEq ι] in
/-- What the invariant says of the objects. -/
theorem Inv.uniqueOwner (h : Inv s) : UniqueOwner s where
  unique := by
    intro o o' x x' ho ho' hx heq
    have hr : x.owned = some x.fd_.toNat := owned_eq_some.mpr (Int.toNat_of_nonneg hx).symm
    have hr' : x'.owned = some x.fd_.toNat :=
      owned_eq_some.mpr (heq ▸ (Int.toNat_of_nonneg hx).symm)
    refine h.agrees.unique o o' x.fd_.toNat ?_ ?_
    · rw [Objects.owner, ho]
      exact hr
    · rw [Objects.owner, ho']
      exact hr'
  opened := by
    intro o x ho hx
    refine h.opened o x.fd_.toNat ?_
    rw [Objects.owner, ho]
    exact owned_eq_some.mpr (Int.toNat_of_nonneg hx).symm
  handedIn := h.agrees.fresh
  givenUp := h.agrees.sound
  held_iff := h.agrees.held_iff
  settled := by
    intro hdead
    apply h.agrees.balanced
    intro o
    rw [Objects.owner, hdead]
    rfl

/-- **`ScopedFd` is a unique owner**, in every state that any operations on any number of
objects reach, if the callers hand in open descriptors that no object owns. -/
theorem scopedFd_uniqueOwner (opened : Finset Fd) (ops : List (Op ι))
    (hC : Meets ScopedFd.step HandsInOpen { opened := opened } ops)
    (hrun : run ScopedFd.step { opened := opened } ops = some s) : UniqueOwner s :=
  (run_induction_of_meets Inv.step (Inv.init ι opened) hC hrun).uniqueOwner

/-- An object is moved to another and reset to a new descriptor, the number it had closed
comes back, and all objects die. -/
def movedAndReset : List (Op Bool) :=
  [.openFd 3, .construct false 3, .moveConstruct true false, .openFd 4, .reset true 4,
    .openFd 3, .reset false 3, .moveAssign true true, .moveAssign true false, .release true,
    .closeFd 3, .destroy true, .destroy false]

/-- The objects of that run have closed 3 and 4 and returned the new 3. -/
theorem scopedFd_uniqueOwner_movedAndReset :
    ∃ s, run ScopedFd.step { opened := {0, 1, 2} } movedAndReset = some s ∧
      s.log = [.handedIn 3, .closed 3, .handedIn 4, .handedIn 3, .closed 4, .released 3] ∧
      UniqueOwner s := by
  obtain ⟨s, hrun, hlog⟩ := Option.map_eq_some_iff.mp
    (by decide : (run ScopedFd.step { opened := {0, 1, 2} } movedAndReset).map (·.log) =
      some [.handedIn 3, .closed 3, .handedIn 4, .handedIn 3, .closed 4, .released 3])
  exact ⟨s, hrun, hlog, scopedFd_uniqueOwner _ _ (by decide) hrun⟩

end ScopedFd
end DmabufPipeline
