import DmabufPipeline.Capture.V4l2
import DmabufPipeline.Lib.Ledger
import DmabufPipeline.Lib.Transition

/-!
# The descriptors of a capture object

The log of an object's system calls, read as a ledger of descriptors, and the bookkeeping
that an object does with its fields. Each call has one rule that says how the fields must
change with it; a method keeps the books when it is a sequence of such calls.

`close` does not say what it closes, so the exported descriptors have a ledger of their
own, in which closing the device changes nothing.

## Main definitions

* `openFds`, `openExports`, `streamingAfter` — what a log leaves behind.
* `OwnsDescriptors` — what a log says of an object that owns its descriptors.
* `Holds` — the fields of an object agree with its log so far.
* `CaptureClass`, `Use` — a class of capture objects, and an object in use.
* `CaptureClass.Owned` — the object owns its descriptors, at a moment of its use.
-/

namespace DmabufPipeline

open Transition

/-! ## Reading a log -/

/-- The calls that obtain or close a descriptor. -/
def Call.fdEvent : Call → Option (Ledger.Event Fd)
  | .openDevice fd => fd.map .acquire
  | .expbuf _ fd => fd.map .acquire
  | .close fd => some (.release fd)
  | _ => none

/-- The same for the exported descriptors only. -/
def Call.exportEvent : Call → Option (Ledger.Event Fd)
  | .expbuf _ fd => fd.map .acquire
  | .close fd => some (.release fd)
  | _ => none

/-- The descriptors that a log leaves open. -/
def openFds (log : List Call) : Finset Fd := Ledger.held ∅ (log.filterMap Call.fdEvent)

/-- The exported descriptors that a log leaves open. -/
def openExports (log : List Call) : Finset Fd := Ledger.held ∅ (log.filterMap Call.exportEvent)

/-- Whether streaming is on after one more call. -/
def streamingPost (on : Bool) : Call → Bool
  | .streamon true => true
  | .streamoff => false
  | _ => on

/-- A STREAMON has succeeded and no STREAMOFF has been issued since. -/
def streamingAfter (log : List Call) : Bool := log.foldl streamingPost false

/-- REQBUFS(0) is issued only when every successful STREAMON has been followed by a
STREAMOFF and every exported descriptor has been closed. -/
def ReleasesLate (log : List Call) : Prop :=
  ∀ pre, pre ++ [.releaseBufs] <+: log → streamingAfter pre = false ∧ openExports pre = ∅

/-- **What an object that owns its descriptors does in its life**: each one obtained is
closed exactly once, and the buffers are released last. -/
structure OwnsDescriptors (log : List Call) : Prop where
  balanced : Ledger.Balanced (log.filterMap Call.fdEvent)
  late : ReleasesLate log

/-- `::open` and EXPBUF return descriptors that are not open. -/
def FreshAfter (log calls : List Call) : Prop :=
  Ledger.Fresh (openFds log) (calls.filterMap Call.fdEvent)

instance (log calls : List Call) : Decidable (FreshAfter log calls) :=
  inferInstanceAs (Decidable (Ledger.Fresh _ _))

/-- A call without an effect on descriptors, streaming or buffers. -/
def Call.isQuiet : Call → Bool
  | .querycap _ | .s_fmt .. | .reqbufs .. | .querybuf .. | .qbuf .. | .dqbuf _ => true
  | .openDevice fd | .expbuf _ fd => fd.isNone
  | .streamon ok => !ok
  | .streamoff | .releaseBufs | .close _ => false

theorem openFds_append (log calls : List Call) :
    openFds (log ++ calls) = Ledger.held (openFds log) (calls.filterMap Call.fdEvent) := by
  simp [openFds]

theorem openExports_append (log calls : List Call) :
    openExports (log ++ calls) =
      Ledger.held (openExports log) (calls.filterMap Call.exportEvent) := by
  simp [openExports]

theorem freshAfter_append {log l m : List Call} :
    FreshAfter log (l ++ m) ↔ FreshAfter log l ∧ FreshAfter (log ++ l) m := by
  rw [FreshAfter, List.filterMap_append, Ledger.fresh_append, FreshAfter, FreshAfter,
    openFds_append]

theorem freshAfter_cons {log calls : List Call} {c : Call} :
    FreshAfter log (c :: calls) ↔ FreshAfter log [c] ∧ FreshAfter (log ++ [c]) calls :=
  freshAfter_append (l := [c])

theorem ReleasesLate.nil : ReleasesLate [] := by
  intro pre h
  simp at h

/-- One more call, which is not REQBUFS(0). -/
theorem ReleasesLate.concat {log : List Call} (h : ReleasesLate log) {c : Call}
    (hc : c ≠ .releaseBufs) : ReleasesLate (log ++ [c]) := by
  intro pre hpre
  rcases List.prefix_concat_iff.mp hpre with heq | hpre
  · exact absurd (List.append_inj' heq rfl).2 (by simpa using hc.symm)
  · exact h pre hpre

/-- REQBUFS(0) when it is due. -/
theorem ReleasesLate.concat_releaseBufs {log : List Call} (h : ReleasesLate log)
    (hs : streamingAfter log = false) (he : openExports log = ∅) :
    ReleasesLate (log ++ [.releaseBufs]) := by
  intro pre hpre
  rcases List.prefix_concat_iff.mp hpre with heq | hpre
  · obtain rfl : pre = log := List.append_cancel_right heq
    exact ⟨hs, he⟩
  · exact h pre hpre

/-! ## The fields and the log -/

/-- **The fields of an object agree with its log**: the descriptors it holds are those
that are open, and `streaming` says whether the device streams. -/
structure Holds (device : Option Fd) (exported : List Fd) (streaming : Bool)
    (log : List Call) : Prop where
  openFds_eq : openFds log = (device.toList ++ exported).toFinset
  openExports_eq : openExports log = exported.toFinset
  nodup : (device.toList ++ exported).Nodup
  sound : Ledger.Sound ∅ (log.filterMap Call.fdEvent)
  streaming_eq : streamingAfter log = streaming
  streaming_device : streaming = true → device.isSome = true
  late : ReleasesLate log

namespace Holds

variable {device : Option Fd} {exported : List Fd} {streaming : Bool} {log : List Call}

/-- An object that has not made a call. -/
theorem nil : Holds none [] false [] :=
  ⟨rfl, rfl, .nil, trivial, rfl, nofun, .nil⟩

/-- An object that holds nothing has closed everything. -/
theorem owns (h : Holds none [] false log) : OwnsDescriptors log where
  balanced := ⟨h.sound, h.openFds_eq⟩
  late := h.late

/-- **One more call**: what it does to the open descriptors and to streaming is what
becomes of the fields. -/
theorem concat {device' : Option Fd} {exported' : List Fd} {streaming' : Bool}
    (h : Holds device exported streaming log) (c : Call)
    (hopen : c.fdEvent.elim (device.toList ++ exported).toFinset
      (Ledger.post (device.toList ++ exported).toFinset) = (device'.toList ++ exported').toFinset)
    (hexports : c.exportEvent.elim exported.toFinset (Ledger.post exported.toFinset) =
      exported'.toFinset)
    (hnodup : (device'.toList ++ exported').Nodup)
    (hclose : ∀ fd, c = .close fd → fd ∈ device.toList ++ exported)
    (hstreaming : streamingPost streaming c = streaming')
    (hdevice : streaming' = true → device'.isSome = true)
    (hrelease : c = .releaseBufs → streaming = false ∧ exported = []) :
    Holds device' exported' streaming' (log ++ [c]) where
  openFds_eq := by
    rw [openFds_append, h.openFds_eq, ← hopen]
    cases he : c.fdEvent <;> simp [he]
  openExports_eq := by
    rw [openExports_append, h.openExports_eq, ← hexports]
    cases he : c.exportEvent <;> simp [he]
  nodup := hnodup
  sound := by
    rw [List.filterMap_append, Ledger.sound_append]
    refine ⟨h.sound, ?_⟩
    cases c with
    | close fd =>
        refine ⟨?_, trivial⟩
        change fd ∈ openFds log
        rw [h.openFds_eq, List.mem_toFinset]
        exact hclose fd rfl
    | openDevice fd | expbuf i fd => cases fd <;> trivial
    | _ => trivial
  streaming_eq := by
    rw [streamingAfter, List.foldl_append, ← hstreaming, ← h.streaming_eq]
    rfl
  streaming_device := hdevice
  late := by
    by_cases hc : c = .releaseBufs
    · subst hc
      obtain ⟨rfl, rfl⟩ := hrelease rfl
      exact h.late.concat_releaseBufs h.streaming_eq h.openExports_eq
    · exact h.late.concat hc

/-- One more call that changes nothing. -/
theorem quiet (h : Holds device exported streaming log) {c : Call} (hc : c.isQuiet = true) :
    Holds device exported streaming (log ++ [c]) := by
  refine h.concat c ?_ ?_ h.nodup ?_ ?_ h.streaming_device ?_
  · cases c <;> simp_all [Call.isQuiet, Call.fdEvent]
  · cases c <;> simp_all [Call.isQuiet, Call.exportEvent]
  · rintro fd rfl
    cases hc
  · cases c <;> simp_all [Call.isQuiet, streamingPost]
  · intro heq
    subst heq
    cases hc

/-- More calls that change nothing. -/
theorem quiets (h : Holds device exported streaming log) {calls : List Call}
    (hc : ∀ c ∈ calls, c.isQuiet = true) : Holds device exported streaming (log ++ calls) := by
  induction calls generalizing log with
  | nil => rwa [List.append_nil]
  | cons c calls ih =>
      rw [List.append_cons]
      apply ih (h.quiet (hc c List.mem_cons_self))
      exact fun c' hc' => hc c' (List.mem_cons_of_mem _ hc')

/-- The device is opened by an object that holds none. -/
theorem opened (h : Holds none exported streaming log) {fd : Fd}
    (hf : FreshAfter log [.openDevice (some fd)]) :
    Holds (some fd) exported streaming (log ++ [.openDevice (some fd)]) := by
  have hnew : fd ∉ exported := by
    have hnot : fd ∉ openFds log := hf.1
    simpa [h.openFds_eq] using hnot
  refine h.concat (.openDevice (some fd)) ?_ rfl (List.nodup_cons.mpr ⟨hnew, h.nodup⟩) nofun rfl
    (fun _ => rfl) nofun
  simp [Call.fdEvent, Ledger.post]

/-- A buffer is exported. -/
theorem exported_concat (h : Holds device exported streaming log) {i : ℕ} {fd : Fd}
    (hf : FreshAfter log [.expbuf i (some fd)]) :
    Holds device (exported ++ [fd]) streaming (log ++ [.expbuf i (some fd)]) := by
  have hnew : fd ∉ device.toList ++ exported := by
    have hnot : fd ∉ openFds log := hf.1
    rwa [h.openFds_eq, List.mem_toFinset] at hnot
  refine h.concat (.expbuf i (some fd)) ?_ ?_ ?_ nofun rfl h.streaming_device nofun
  · ext r
    simp only [Call.fdEvent, Option.map_some, Option.elim_some, Ledger.post, Finset.mem_insert,
      List.mem_toFinset, List.mem_append, List.mem_singleton]
    tauto
  · ext r
    simp only [Call.exportEvent, Option.map_some, Option.elim_some, Ledger.post,
      Finset.mem_insert, List.mem_toFinset, List.mem_append, List.mem_singleton]
    tauto
  · rw [← List.append_assoc, ← List.concat_eq_append]
    exact h.nodup.concat hnew

/-- An exported descriptor is closed and forgotten. -/
theorem closed_export {fd : Fd} (h : Holds device (fd :: exported) streaming log) :
    Holds device exported streaming (log ++ [.close fd]) := by
  obtain ⟨hnot, hnodup⟩ := List.nodup_cons.mp (List.nodup_middle.mp h.nodup)
  rw [List.mem_append, not_or] at hnot
  refine h.concat (.close fd) ?_ ?_ hnodup ?_ rfl h.streaming_device nofun
  · ext r
    simp only [Call.fdEvent, Option.elim_some, Ledger.post, Finset.mem_erase,
      List.mem_toFinset, List.mem_append, List.mem_cons]
    by_cases hr : r = fd
    · simp [hr, hnot]
    · simp [hr]
  · ext r
    simp only [Call.exportEvent, Option.elim_some, Ledger.post, Finset.mem_erase,
      List.mem_toFinset, List.mem_cons]
    by_cases hr : r = fd
    · simp [hr, hnot.2]
    · simp [hr]
  · rintro fd' ⟨⟩
    simp

/-- All exported descriptors are closed and forgotten. -/
theorem closed_exports (h : Holds device exported streaming log) :
    Holds device [] streaming (log ++ exported.map .close) := by
  induction exported generalizing log with
  | nil => simpa using h
  | cons fd exported ih =>
      rw [List.map_cons, List.append_cons]
      exact ih h.closed_export

/-- STREAMON. -/
theorem streamon (h : Holds device exported streaming log) (hd : device.isSome = true)
    (ok : Bool) : Holds device exported (streaming || ok) (log ++ [.streamon ok]) := by
  refine h.concat (.streamon ok) rfl rfl h.nodup nofun ?_ (fun _ => hd) nofun
  cases ok <;> simp [streamingPost]

/-- STREAMOFF. -/
theorem streamoff (h : Holds device exported streaming log) :
    Holds device exported false (log ++ [.streamoff]) :=
  h.concat .streamoff rfl rfl h.nodup nofun rfl nofun nofun

/-- REQBUFS(0), by an object that neither streams nor holds an export. -/
theorem releaseBufs (h : Holds device [] false log) :
    Holds device [] false (log ++ [.releaseBufs]) :=
  h.concat .releaseBufs rfl rfl h.nodup nofun rfl nofun fun _ => ⟨rfl, rfl⟩

/-- The device is closed. -/
theorem closed_device {fd : Fd} (h : Holds (some fd) [] false log) :
    Holds none [] false (log ++ [.close fd]) := by
  refine h.concat (.close fd) ?_ ?_ .nil ?_ rfl nofun nofun
  · simp [Call.fdEvent, Ledger.post]
  · simp [Call.exportEvent, Ledger.post]
  · rintro fd' ⟨⟩
    simp

/-- **The loop of `start` records what it exports**, however far it gets. -/
theorem exports (h : Holds device exported streaming log) (ans : StartAnswers) {i n : ℕ}
    (hf : FreshAfter log (exportLoop ans i n).2.1) :
    Holds device (exported ++ (exportLoop ans i n).1.map (·.dmabuf_fd)) streaming
      (log ++ (exportLoop ans i n).2.1) := by
  induction n generalizing i exported log with
  | zero => simpa [exportLoop] using h
  | succ n ih =>
      -- one turn of the loop up to its QBUF
      have hexport {fd : Fd} {ok : Bool} (hf : FreshAfter log
            [.querybuf i true, .expbuf i (some fd), .qbuf i none ok]) :
          Holds device (exported ++ [fd]) streaming
            (log ++ [.querybuf i true, .expbuf i (some fd), .qbuf i none ok]) := by
        obtain ⟨-, hf⟩ := freshAfter_cons.mp hf
        have hfd := (freshAfter_cons.mp hf).1
        have hx := (h.quiet (c := .querybuf i true) rfl).exported_concat hfd
        simpa using hx.quiet (c := .qbuf i none ok) rfl
      have hturn := exportTurn ans i n
      generalize exportLoop ans i (n + 1) = r at hf hturn ⊢
      cases hturn with
      | querybufFailed => simpa using h.quiet (c := .querybuf i false) rfl
      | expbufFailed =>
          rw [List.map_nil, List.append_nil]
          exact h.quiets (by simp [Call.isQuiet])
      | qbufFailed b => exact hexport hf
      | next b =>
          obtain ⟨hf, hrest⟩ := freshAfter_append.mp hf
          have hloop := ih (hexport hf) hrest
          rwa [List.append_assoc, List.append_assoc] at hloop

end Holds

/-! ## Objects in use -/

/-- Why no further method is called. -/
inductive Stuck
  /-- A Rust panic, which unwinds and drops the object. -/
  | panic
  /-- The process is aborted; the object is not destroyed any more. -/
  | abort
  | undefinedBehaviour
  deriving DecidableEq, Repr

/-- A class of capture objects: its public methods `ω`, its destruction, and the
descriptors that the live entries of an object hold. -/
structure CaptureClass (σ ω : Type) where
  call : σ → ω → Outcome σ (Option Stuck)
  destroy : σ → List Call
  exportedFds : σ → List Fd

/-- An object and its calls so far. -/
structure Use (σ : Type) where
  obj : σ
  log : List Call
  stuck : Option Stuck := none

namespace CaptureClass

variable {σ ω : Type} (K : CaptureClass σ ω)

/-- A method call on an object in use. -/
def step (s : Use σ) (op : ω) : Option (Use σ) :=
  if s.stuck.isSome then none
  else some { obj := (K.call s.obj op).obj, log := s.log ++ (K.call s.obj op).log,
              stuck := (K.call s.obj op).result }

/-- The descriptors that the driver returns to a method are fresh. -/
def FreshAnswers (s : Use σ) (op : ω) : Prop := FreshAfter s.log (K.call s.obj op).log

instance (s : Use σ) (op : ω) : Decidable (K.FreshAnswers s op) :=
  inferInstanceAs (Decidable (FreshAfter _ _))

/-- **The object owns its descriptors**: destroyed now, it has closed each exactly once,
and the buffers were released last; until then the descriptors of the live entries are
open. -/
structure Owned (s : Use σ) : Prop where
  defined : s.stuck ≠ some .undefinedBehaviour
  owns : OwnsDescriptors (s.log ++ K.destroy s.obj)
  live : ∀ fd ∈ K.exportedFds s.obj, fd ∈ openFds s.log

/-- The calls of a step are those of the method. -/
theorem step_eq_some {s s' : Use σ} {op : ω} (hs : K.step s op = some s') :
    s' = { obj := (K.call s.obj op).obj, log := s.log ++ (K.call s.obj op).log,
           stuck := (K.call s.obj op).result } := by
  rw [step] at hs
  split at hs
  · cases hs
  · exact (Option.some.inj hs).symm

end CaptureClass

/-- The exported descriptors of an object whose fields agree with the log are open. -/
theorem Holds.mem_openFds {device : Option Fd} {exported : List Fd} {streaming : Bool}
    {log : List Call} (h : Holds device exported streaming log) {fd : Fd}
    (hfd : fd ∈ exported) : fd ∈ openFds log := by
  rw [h.openFds_eq, List.mem_toFinset]
  exact List.mem_append_right _ hfd

/-- The calls of `dequeue` touch no descriptor. -/
theorem dequeueFrom_isQuiet (fd : Fd) (buffers : List V4l2BufInfo) (ans : DequeueAnswers) :
    ∀ c ∈ (dequeueFrom fd buffers ans).2.1, c.isQuiet = true := by
  unfold dequeueFrom
  split
  · simp
  · split
    · simp
    · simp
    · simp [Call.isQuiet]
    · split <;> simp [Call.isQuiet]

/-- The loop of `start` closes nothing. -/
theorem close_not_mem_exportLoop (ans : StartAnswers) (i n : ℕ) (fd : Fd) :
    .close fd ∉ (exportLoop ans i n).2.1 := by
  induction n generalizing i with
  | zero => simp [exportLoop]
  | succ n ih =>
      have hturn := exportTurn ans i n
      generalize exportLoop ans i (n + 1) = r at hturn ⊢
      cases hturn with
      | querybufFailed | expbufFailed | qbufFailed => simp
      | next => simp [ih]

/-- What an entry holds was exported by the loop. -/
theorem expbuf_mem_exportLoop {ans : StartAnswers} {i n : ℕ} {b : V4l2BufInfo}
    (h : b ∈ (exportLoop ans i n).1) :
    .expbuf b.index (some b.dmabuf_fd) ∈ (exportLoop ans i n).2.1 := by
  induction n generalizing i with
  | zero => simp [exportLoop] at h
  | succ n ih =>
      have hturn := exportTurn ans i n
      generalize exportLoop ans i (n + 1) = r at h hturn ⊢
      cases hturn with
      | querybufFailed | expbufFailed => cases h
      | qbufFailed b' hindex =>
          obtain rfl := List.mem_singleton.mp h
          simp [hindex]
      | next b' hindex =>
          rcases List.mem_cons.mp h with rfl | h
          · simp [hindex]
          · exact List.mem_append_right _ (ih h)

/-- Calls that do not close a descriptor do not release it. -/
theorem release_not_mem {fd : Fd} {calls : List Call} (h : .close fd ∉ calls) :
    .release fd ∉ calls.filterMap Call.fdEvent := by
  intro hrel
  obtain ⟨c, hc, he⟩ := List.mem_filterMap.mp hrel
  cases c with
  | close r =>
      obtain rfl : r = fd := by simpa [Call.fdEvent] using he
      exact h hc
  | openDevice r | expbuf i r => cases r <;> cases he
  | _ => cases he

end DmabufPipeline
