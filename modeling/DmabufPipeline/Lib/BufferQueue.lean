import DmabufPipeline.Lib.Contract
import Mathlib.Data.Finset.Basic
import Mathlib.Data.Finset.Range
import Mathlib.Tactic.Common

/-!
# The buffer queue of a streaming device

Streaming I/O in the manner of V4L2. A device allocates numbered buffers of one memory type;
the program queues them, and while the device streams it fills those that are queued and
hands them back, in whatever order it likes. A request out of order is refused: the format of
a device with buffers cannot be changed, nor can its buffers be freed while it streams; a
buffer is queued once, in the way of its memory; a device does not stream without buffers.

One rule is not the device's. A program that lends a buffer to a reader must have taken it
back first, or the reader sees it change.

A contract may excuse some requests. What the device does with them is still what it
answers, and it queues no buffer that it does not have.

## Main definitions

* `Queue`, `Event` — the device, and a request with its answer.
* `streaming` — the contract; `nothing`, `Beyond` — what it may excuse.
* `Queue.full` — all that a program uses is queued, and the device streams.
-/

namespace BufferQueue

/-- Where the memory of the buffers comes from. -/
inductive Memory
  | mmap
  | dmabuf
  deriving DecidableEq, Repr

/-- A request, and the answer where the state depends on it. -/
inductive Event
  | s_fmt
  | reqbufs (memory : Memory) (count : ℕ) (granted : Option ℕ)
  | querybuf (index : ℕ)
  | expbuf (index : ℕ)
  | qbuf (memory : Memory) (index : ℕ) (ok : Bool)
  | dqbuf (index : Option ℕ)
  | streamon (ok : Bool)
  | streamoff
  /-- A reader is told to look at a buffer. -/
  | lend (index : ℕ)
  deriving DecidableEq, Repr

/-- The device. -/
structure Queue where
  memory : Memory := .mmap
  count : ℕ := 0
  queued : Finset ℕ := ∅
  streaming : Bool := false
  deriving DecidableEq

/-- The device after a request; one that fails changes nothing. -/
def Queue.next (q : Queue) : Event → Queue
  | .reqbufs memory _ (some granted) => { q with memory, count := granted, queued := ∅ }
  | .qbuf _ index true => { q with queued := insert index q.queued }
  | .dqbuf (some index) => { q with queued := q.queued.erase index }
  | .streamon true => { q with streaming := true }
  | .streamoff => { q with queued := ∅, streaming := false }
  | _ => q

/-- What a program may ask. A buffer that is dequeued must be on its way. -/
def Queue.Asks (q : Queue) : Event → Prop
  | .s_fmt => q.count = 0
  | .reqbufs .. => q.streaming = false
  | .querybuf index => index < q.count
  | .expbuf index => q.memory = .mmap ∧ index < q.count
  | .qbuf memory index _ => q.memory = memory ∧ index < q.count ∧ index ∉ q.queued
  | .dqbuf _ => q.streaming = true ∧ q.queued.Nonempty
  | .streamon _ => 0 < q.count
  | .streamoff => True
  | .lend index => index < q.count ∧ index ∉ q.queued

/-- What the device may answer: it hands back what was queued, queues only what it has, and
makes no buffers where none were asked for. -/
def Queue.Answers (q : Queue) : Event → Prop
  | .reqbufs _ count (some granted) => count = 0 → granted = 0
  | .qbuf _ index true => index < q.count
  | .dqbuf (some index) => index ∈ q.queued
  | _ => True

instance (q : Queue) : (e : Event) → Decidable (q.Answers e)
  | .reqbufs _ count (some granted) => inferInstanceAs (Decidable (count = 0 → granted = 0))
  | .qbuf _ index true => inferInstanceAs (Decidable (index < q.count))
  | .dqbuf (some index) => inferInstanceAs (Decidable (index ∈ q.queued))
  | .reqbufs _ _ none | .qbuf _ _ false | .dqbuf none => .isTrue trivial
  | .s_fmt | .querybuf _ | .expbuf _ | .streamon _ | .streamoff | .lend _ => .isTrue trivial

/-- **The contract of a streaming device**, with what is excused. -/
def streaming (excused : Queue → Event → Prop) : Contract Queue Event where
  next := Queue.next
  asks q e := q.Asks e ∨ excused q e
  answers := Queue.Answers

/-- No request is excused. -/
def nothing : Queue → Event → Prop := fun _ _ => False

/-- A request to queue one of the first `n` buffers is excused where the device has fewer. -/
def Beyond (n : ℕ) (q : Queue) (e : Event) : Prop :=
  ∃ memory index ok, e = .qbuf memory index ok ∧ q.count ≤ index ∧ index < n

instance (X : Queue → Event → Prop) (q : Queue) (e : Event) :
    Decidable ((streaming X).answers q e) :=
  inferInstanceAs (Decidable (q.Answers e))

/-- Nothing is allocated, and nothing streams. -/
structure Queue.Idle (q : Queue) : Prop where
  count : q.count = 0
  queued : q.queued = ∅
  streaming : q.streaming = false

/-- The first `n` of `count` buffers are queued. -/
def Queue.filled (memory : Memory) (count n : ℕ) : Queue where
  memory := memory
  count := count
  queued := Finset.range n

/-- The device streams, and the `n` buffers in use are queued. -/
def Queue.full (memory : Memory) (count n : ℕ) : Queue :=
  { Queue.filled memory count n with streaming := true }

/-- All but one, which the program has taken back. -/
def Queue.lacking (memory : Memory) (count n index : ℕ) : Queue :=
  { Queue.full memory count n with queued := (Finset.range n).erase index }

/-! ## Rules -/

variable {X : Queue → Event → Prop} {Q : Queue → Prop} {memory : Memory} {count n index : ℕ}
  {log : List Event}

/-- Buffers are queued in order. -/
theorem obeys_fill (h : index < count) {ok : Bool}
    (hrest : (streaming X).Obeys Q (if ok then .filled memory count (index + 1)
      else .filled memory count index) log) :
    (streaming X).Obeys Q (.filled memory count index) (.qbuf memory index ok :: log) := by
  refine ⟨.inl ⟨rfl, h, Finset.notMem_range_self⟩, fun _ => ?_⟩
  cases ok with
  | false => exact hrest
  | true =>
      have hnext : (streaming X).next (.filled memory count index) (.qbuf memory index true) =
          .filled memory count (index + 1) := by
        simp [streaming, Queue.next, Queue.filled, Finset.range_add_one]
      rwa [hnext]

/-- A dequeue that returns nothing. -/
theorem obeys_dequeue_none (hn : 0 < n) (h : (streaming X).Obeys Q (.full memory count n) log) :
    (streaming X).Obeys Q (.full memory count n) (.dqbuf none :: log) :=
  ⟨.inl ⟨rfl, Finset.nonempty_range_iff.mpr hn.ne'⟩, fun _ => h⟩

/-- A dequeue that returns a buffer returns one in use. -/
theorem obeys_dequeue (hn : 0 < n)
    (h : index < n → (streaming X).Obeys Q (.lacking memory count n index) log) :
    (streaming X).Obeys Q (.full memory count n) (.dqbuf (some index) :: log) :=
  ⟨.inl ⟨rfl, Finset.nonempty_range_iff.mpr hn.ne'⟩, fun hmem => h (Finset.mem_range.mp hmem)⟩

/-- What was taken back may be lent. -/
theorem obeys_lend (hcount : index < count)
    (h : (streaming X).Obeys Q (.lacking memory count n index) log) :
    (streaming X).Obeys Q (.lacking memory count n index) (.lend index :: log) :=
  ⟨.inl ⟨hcount, Finset.notMem_erase index _⟩, fun _ => h⟩

/-- What was taken back may be queued again. -/
theorem obeys_requeue (hindex : index < n) (hcount : index < count) {ok : Bool}
    (h : (streaming X).Obeys Q (if ok then .full memory count n else .lacking memory count n index)
      log) :
    (streaming X).Obeys Q (.lacking memory count n index) (.qbuf memory index ok :: log) := by
  refine ⟨.inl ⟨rfl, hcount, Finset.notMem_erase index _⟩, fun _ => ?_⟩
  cases ok with
  | false => exact h
  | true =>
      have hnext : (streaming X).next (.lacking memory count n index) (.qbuf memory index true) =
          .full memory count n := by
        simp [streaming, Queue.next, Queue.lacking, Queue.full, Queue.filled,
          Finset.insert_erase (Finset.mem_range.mpr hindex)]
      rwa [hnext]

/-- **Stopping**: whatever was queued, the buffers go once the device does not stream. -/
theorem obeys_release {q : Queue} (memory : Memory) {off : Bool}
    (h : q.streaming = true → off = true) :
    (streaming X).Obeys Queue.Idle q
      ((if off then [.streamoff] else []) ++ [.reqbufs memory 0 (some 0)]) := by
  cases off with
  | false =>
      have hstreaming : q.streaming = false := by simpa using h
      exact ⟨.inl hstreaming, fun _ => ⟨rfl, rfl, hstreaming⟩⟩
  | true => exact ⟨.inl trivial, fun _ => ⟨.inl rfl, fun _ => ⟨rfl, rfl, rfl⟩⟩⟩

end BufferQueue
