import Mathlib.Data.List.TakeWhile
import Mathlib.Logic.Function.Basic
import Mathlib.Tactic.Common

/-!
# Directory entries and socket addresses

A directory maps names to what they name: a socket, some other file, or a directory. A
name is the byte string up to the first NUL of what a system call was handed. `unlink`
takes away an entry that is not a directory, and `bind` makes one where there is none.
The empty name is no entry: it cannot be unlinked, and a socket bound to it gets an
address outside the directory. Either call may also be refused for a reason of its own.

## Main definitions

* `Directory` — what each name names.
* `Directory.unlink`, `Directory.bind` — the two system calls.
* `cstr` — the name that a NUL-terminated string denotes.
-/

namespace FileNames

/-- The bytes of a name. -/
abbrev Name := List UInt8

/-- `c_str()` as the kernel reads it: the bytes before the first NUL. -/
def cstr (path : List UInt8) : Name := path.takeWhile (· ≠ 0)

/-- A string without NUL is read to its end. -/
theorem cstr_eq_self {path : List UInt8} (h : 0 ∉ path) : cstr path = path := by
  rw [cstr, List.takeWhile_eq_self_iff]
  intro b hb
  have hne : b ≠ 0 := ne_of_mem_of_not_mem hb h
  simpa using hne

/-- What a directory entry names; `σ` are the sockets of the system. -/
inductive Node (σ : Type*)
  | socket (s : σ)
  | file (inode : ℕ)
  | directory
  deriving DecidableEq, Repr

/-- The directory entries, by name. -/
@[ext] structure Directory (σ : Type*) where
  entry : Name → Option (Node σ)
  entry_nil : entry [] = none

namespace Directory

variable {σ : Type*} (d : Directory σ) {name name' : Name}

/-- The entry of `name` becomes `x`; the empty name has none. -/
def put (name : Name) (x : Option (Node σ)) : Directory σ where
  entry := if name = [] then d.entry else Function.update d.entry name x
  entry_nil := by
    split
    · exact d.entry_nil
    · next hname => rw [Function.update_of_ne (Ne.symm hname), d.entry_nil]

theorem entry_put (x : Option (Node σ)) :
    (d.put name x).entry = if name = [] then d.entry else Function.update d.entry name x := rfl

@[simp] theorem put_entry_self (hname : name ≠ []) (x : Option (Node σ)) :
    (d.put name x).entry name = x := by
  simp [put, hname]

/-- The other entries stay. -/
@[simp] theorem put_entry_of_ne (hne : name' ≠ name) (x : Option (Node σ)) :
    (d.put name x).entry name' = d.entry name' := by
  rw [entry_put]
  split
  · rfl
  · exact Function.update_of_ne hne _ _

@[simp] theorem put_nil (x : Option (Node σ)) : d.put [] x = d := by
  simp [put]

/-- A directory is unchanged by `put` when the entry was already so. -/
theorem put_eq_self_iff {x : Option (Node σ)} (hname : name ≠ []) :
    d.put name x = d ↔ d.entry name = x := by
  constructor
  · intro h
    rw [← h, put_entry_self d hname]
  · intro h
    ext1
    rw [entry_put, if_neg hname, ← h]
    exact Function.update_eq_self name d.entry

/-- The last of two entries put under one name stays. -/
@[simp] theorem put_put (x y : Option (Node σ)) : (d.put name x).put name y = d.put name y := by
  by_cases hname : name = []
  · simp [hname]
  · ext1
    simp [entry_put, hname]

/-- A directory without entries. -/
def empty : Directory σ where
  entry := fun _ => none
  entry_nil := rfl

/-- A socket is not named by a directory whose one entry is another node. -/
theorem empty_put_ne_socket {x : Node σ} {s : σ} (hx : x ≠ .socket s) (name' : Name) :
    ((empty : Directory σ).put name (some x)).entry name' ≠ some (.socket s) := by
  by_cases hname : name = []
  · simp [hname, empty]
  · by_cases hne : name' = name
    · subst hne
      simpa [hname] using hx
    · simp [hne, empty]

/-! ## unlink and bind -/

/-- Whether `unlink` has something to take away. -/
def removable (name : Name) : Bool :=
  match d.entry name with
  | none | some .directory => false
  | some (.socket _) | some (.file _) => true

/-- `unlink(name)`, which the system may also refuse. -/
def unlink (allowed : Bool) (name : Name) : Directory σ :=
  if allowed && d.removable name then d.put name none else d

/-- `bind` of the socket `s` to `name`, which the system may also refuse. -/
def bind (allowed : Bool) (s : σ) (name : Name) : Option (Directory σ) :=
  if allowed && (d.entry name).isNone then some (d.put name (some (.socket s))) else none

/-- What can be taken away has a name. -/
theorem ne_nil_of_removable (h : d.removable name = true) : name ≠ [] := by
  intro heq
  subst heq
  simp [removable, d.entry_nil] at h

/-- The entry after `unlink`: gone or as it was. -/
theorem unlink_entry_self {allowed : Bool} :
    (d.unlink allowed name).entry name =
      if allowed && d.removable name then none else d.entry name := by
  rw [unlink]
  split
  · next h => exact d.put_entry_self (d.ne_nil_of_removable (Bool.and_eq_true_iff.mp h).2) none
  · rfl

end Directory
end FileNames
