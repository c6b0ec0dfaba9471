import DmabufPipeline.Process.PublisherMmap

/-!
# The two MMAP publishers make the same calls

On the same options and the same answers, `main.rs` and `publisher.cpp` make the same calls in
the same order and end alike, a panic or an abort in the one being undefined in the other.
They part at one place: where `open` fails behind the descriptor of the device, Rust closes
it on the spot, and the C++ destructor issues REQBUFS(0) first.

The simulation relates the fields of the two objects. Where `start` stops short, the C++
object has entries that are not filled, so only the descriptors are compared.

## Main definitions

* `PublisherMmap.Alike`, `PublisherMmap.Paired` — the two capture objects agree.
* `PublisherMmap.Scope.Same` — two scopes agree.
* `PublisherMmap.same_calls` — the two programs do.
-/

namespace DmabufPipeline

namespace PublisherMmap

/-- How the C++ program ends where the Rust one ends so. -/
def Exit.asCpp : Exit → Exit
  | .panic | .abort => .undefined
  | e => e

/-- The fields of the two objects agree, and they hold the same descriptors. -/
structure Alike (r : V4l2Capture) (c : Cpp.V4l2Capture) : Prop where
  fd : c.fd_ = some r.fd
  format : (Source.cppPublisher c).format = (Source.publisher r).format
  streaming : c.streaming_ = r.streaming
  fds : c.exportedFds = r.buffers.map (·.dmabuf_fd)

/-- The two objects have, besides, as many entries. -/
structure Paired (r : V4l2Capture) (c : Cpp.V4l2Capture) : Prop extends Alike r c where
  length : c.buffers_.length = r.buffers.length

/-- Two scopes with the same calls and the same end. Behind a panic, Rust still drops. -/
structure Scope.Same (s : Scope V4l2Capture) (t : Scope Cpp.V4l2Capture) : Prop where
  pre : t.log <+: s.log
  log : s.exit ≠ .panic → t.log = s.log
  exit : t.exit = s.exit.asCpp
  cap : Alike s.cap t.cap

namespace Scope.Same

variable {s : Scope V4l2Capture} {t : Scope Cpp.V4l2Capture}

theorem stop {r : V4l2Capture} {c : Cpp.V4l2Capture} (h : Alike r c) (e : Exit) :
    Same ⟨r, [], e⟩ ⟨c, [], e.asCpp⟩ := ⟨List.prefix_rfl, fun _ => rfl, rfl, h⟩

theorem after (h : s.Same t) (log : List SysCall) : (s.after log).Same (t.after log) :=
  ⟨(List.prefix_append_right_inj log).mpr h.pre, fun he => congrArg (log ++ ·) (h.log he), h.exit,
    h.cap⟩

/-- What is dropped alike, if anything is. -/
theorem dropping (h : s.Same t) (log : List SysCall) : (s.dropping log).Same (t.dropping log) := by
  obtain ⟨hpre, hlog, hexit, hcap⟩ := h
  have hboth (he : s.exit ≠ .panic) (hs : s.exit.drops) (ht : t.exit.drops) :
      (s.dropping log).Same (t.dropping log) := by
    rw [Scope.dropping, Scope.dropping, if_pos hs, if_pos ht]
    have hend : t.log ++ log = s.log ++ log := congrArg (· ++ log) (hlog he)
    exact ⟨hend ▸ List.prefix_rfl, fun _ => hend, hexit, hcap⟩
  cases he : s.exit with
  | ok => exact hboth (by simp [he]) (by rw [he]; rfl) (by rw [hexit, he]; rfl)
  | error => exact hboth (by simp [he]) (by rw [he]; rfl) (by rw [hexit, he]; rfl)
  | panic =>
      have ht : ¬ t.exit.drops := by rw [hexit, he]; exact Bool.false_ne_true
      rw [Scope.dropping, Scope.dropping, if_pos (by rw [he]; rfl), if_neg ht]
      exact ⟨hpre.trans (List.prefix_append _ _), fun h => absurd he h, hexit, hcap⟩
  | abort | undefined =>
      have hs : ¬ s.exit.drops := by rw [he]; exact Bool.false_ne_true
      have ht : ¬ t.exit.drops := by rw [hexit, he]; exact Bool.false_ne_true
      rw [Scope.dropping, Scope.dropping, if_neg hs, if_neg ht]
      exact ⟨hpre, hlog, hexit, hcap⟩

theorem owning (h : s.Same t) (fd : Fd) : (s.owning fd).Same (t.owning fd) :=
  h.dropping (closeFds [fd])

end Scope.Same

/-! ## The capture objects -/

variable {r : V4l2Capture} {c : Cpp.V4l2Capture}

/-- `drop` and the destructor make the same calls. -/
theorem Alike.destroy_eq (h : Alike r c) : c.destroy = r.drop := by
  simp [Cpp.V4l2Capture.destroy, Cpp.V4l2Capture.stop, V4l2Capture.drop, V4l2Capture.stop,
    dropBuffers, h.fd, h.streaming, h.fds, Function.comp_def]

/-- `dequeue` on paired objects: the same calls, the same result, and paired objects. -/
theorem Paired.dequeue (h : Paired r c) (ans : DequeueAnswers) :
    (c.dequeue ans).log = (r.dequeue ans).log ∧ (c.dequeue ans).result = (r.dequeue ans).result ∧
      Paired (r.dequeue ans).obj (c.dequeue ans).obj := by
  have hfds : (r.dequeue ans).obj.buffers.map (·.dmabuf_fd) = r.buffers.map (·.dmabuf_fd) :=
    dequeueFrom_fds r.fd r.buffers ans
  simp only [V4l2Capture.dequeue, dequeueFrom] at hfds
  simp only [Cpp.V4l2Capture.dequeue, h.fd, V4l2Capture.dequeue, dequeueFrom, h.length]
  by_cases hset : FD_SETSIZE ≤ r.fd
  · simp only [hset, if_true]
    exact ⟨trivial, trivial, h⟩
  · simp only [hset, if_false] at hfds ⊢
    cases hsel : ans.select with
    | failed => exact ⟨rfl, rfl, h⟩
    | timeout => exact ⟨rfl, rfl, h⟩
    | ready =>
        cases hdq : ans.dqbuf with
        | none => exact ⟨rfl, rfl, h⟩
        | some frame =>
            obtain ⟨index, bytesused⟩ := frame
            by_cases hlt : index < r.buffers.length
            · simp only [hsel, hdq, hlt, if_true] at hfds ⊢
              refine ⟨trivial, trivial, ⟨rfl, h.format, h.streaming, ?_⟩, ?_⟩
              · change List.filterMap _ (List.modify _ _ _) = _
                rw [Cpp.V4l2Capture.filterMap_modify_bytesused, hfds]
                exact h.fds
              · simp [h.length]
            · simp only [hlt, if_false]
              exact ⟨trivial, trivial, h⟩

/-- `requeue` on paired objects. -/
theorem Paired.requeue (h : Paired r c) (index : ℕ) (qbuf : Bool) :
    (cpp.requeue c index qbuf).log = (rust.requeue r index qbuf).log ∧
      (cpp.requeue c index qbuf).result = (rust.requeue r index qbuf).result ∧
      Paired (rust.requeue r index qbuf).obj (cpp.requeue c index qbuf).obj := by
  cases qbuf with
  | false => exact ⟨by simp [cpp, rust, Cpp.V4l2Capture.requeue, V4l2Capture.requeue], rfl, h⟩
  | true =>
      have hsome : c.fd_.isSome = true := by simp [h.fd]
      refine ⟨?_, ?_, h⟩
      · simp [cpp, rust, Cpp.V4l2Capture.requeue, V4l2Capture.requeue, hsome]
      · simp only [cpp, rust, Cpp.V4l2Capture.requeue, V4l2Capture.requeue, hsome]
        rfl

/-- `start` on objects without entries: the same calls, and success alike. -/
theorem Alike.start (h : Alike r c) (hempty : r.buffers = []) (count : ℕ) (ans : StartAnswers) :
    (c.start count ans).log = (r.start count ans).log ∧
      (c.start count ans).result = (r.start count ans).result.isOk ∧
      Alike (r.start count ans).obj (c.start count ans).obj ∧
      ((r.start count ans).result.isOk = true →
        Paired (r.start count ans).obj (c.start count ans).obj) := by
  have hsome : c.fd_.isSome = true := by simp [h.fd]
  cases hr : ans.reqbufs with
  | none =>
      simp only [Cpp.V4l2Capture.start, V4l2Capture.start, hsome, hr, if_true]
      exact ⟨trivial, rfl, h, fun hok => absurd hok Bool.false_ne_true⟩
  | some granted =>
      by_cases hg : granted < 2
      · simp only [Cpp.V4l2Capture.start, V4l2Capture.start, hsome, hr, hg, if_true]
        exact ⟨trivial, rfl, h, fun hok => absurd hok Bool.false_ne_true⟩
      · have hentries := Cpp.V4l2Capture.exportedFds_entries (exportLoop ans 0 granted).1
          (granted - (exportLoop ans 0 granted).1.length)
        cases hl : (exportLoop ans 0 granted).2.2 with
        | false =>
            simp only [Cpp.V4l2Capture.start, V4l2Capture.start, hsome, hr, hg, hl, if_true,
              if_false, Bool.false_eq_true, hempty]
            exact ⟨rfl, rfl, ⟨h.fd, h.format, h.streaming, hentries⟩,
              fun hok => absurd hok Bool.false_ne_true⟩
        | true =>
            obtain ⟨hlen, -, -⟩ := exportLoop_ok ans 0 granted hl
            cases hs : ans.streamon with
            | false =>
                simp only [Cpp.V4l2Capture.start, V4l2Capture.start, hsome, hr, hg, hl, hs,
                  if_true, if_false, Bool.false_eq_true, hempty]
                exact ⟨rfl, rfl, ⟨h.fd, h.format, h.streaming, hentries⟩,
                  fun hok => absurd hok Bool.false_ne_true⟩
            | true =>
                simp only [Cpp.V4l2Capture.start, V4l2Capture.start, hsome, hr, hg, hl, hs,
                  if_true, if_false, hempty]
                refine ⟨rfl, rfl, ⟨h.fd, h.format, rfl, hentries⟩, fun _ => ?_⟩
                refine ⟨⟨h.fd, h.format, rfl, hentries⟩, ?_⟩
                simp [hlen]

/-- How `open` on a new object ends in the two languages, by the answer of `::open`. -/
inductive Opened (r : List Call × Except CaptureError V4l2Capture)
    (c : Outcome Cpp.V4l2Capture Bool) : Option Fd → Prop
  | noDevice (e : CaptureError) (hr : r.2 = .error e) (hc : c.result = false)
      (hlog : c.log ++ c.obj.destroy = r.1) : Opened r c none
  /-- A later call failed. -/
  | refused (e : CaptureError) (pre : List Call) (fd : Fd) (hr : r.2 = .error e)
      (hc : c.result = false) (hlog : r.1 = pre ++ [.close fd])
      (hlog' : c.log ++ c.obj.destroy = pre ++ [.releaseBufs, .close fd]) : Opened r c (some fd)
  | ok (cap : V4l2Capture) (fd : Fd) (hr : r.2 = .ok cap) (hempty : cap.buffers = [])
      (hlog : c.log = r.1) (hc : c.result = true) (h : Alike cap c.obj) : Opened r c (some fd)

/-- **The two `open` on a new object**: alike on success, and one call apart on failure. -/
theorem opened (width height pixel_format : UInt32) (ans : OpenAnswers) :
    Opened (V4l2Capture.openDevice width height pixel_format ans)
      (Cpp.V4l2Capture.openDevice {} width height pixel_format ans) ans.fd := by
  cases hfd : ans.fd with
  | none =>
      simp only [V4l2Capture.openDevice, Cpp.V4l2Capture.openDevice, hfd]
      exact .noDevice .os rfl rfl rfl
  | some fd =>
      cases hc : ans.querycap with
      | none =>
          simp only [V4l2Capture.openDevice, Cpp.V4l2Capture.openDevice, hfd, hc]
          exact .refused .os [.openDevice (some fd), .querycap false] fd rfl rfl rfl rfl
      | some cap =>
          by_cases hb : (!cap.videoCapture || !cap.streaming) = true
          · simp only [V4l2Capture.openDevice, Cpp.V4l2Capture.openDevice, hfd, hc, hb, if_true]
            exact .refused .unsupported [.openDevice (some fd), .querycap true] fd rfl rfl rfl rfl
          · cases hs : ans.s_fmt with
            | none =>
                simp only [V4l2Capture.openDevice, Cpp.V4l2Capture.openDevice, hfd, hc, hb, hs,
                  if_false, Bool.false_eq_true]
                exact .refused .os [.openDevice (some fd), .querycap true,
                  .s_fmt width height pixel_format false] fd rfl rfl rfl rfl
            | some pix =>
                simp only [V4l2Capture.openDevice, Cpp.V4l2Capture.openDevice, hfd, hc, hb, hs,
                  if_false, Bool.false_eq_true]
                exact .ok _ fd rfl rfl rfl rfl ⟨rfl, rfl, rfl, rfl⟩

/-! ## The scopes -/

theorem requeueAndBreak_same (h : Paired r c) (idx : ℕ) (qbuf : Bool) :
    (requeueAndBreak rust r idx qbuf).Same (requeueAndBreak cpp c idx qbuf) := by
  obtain ⟨hlog, -, hpaired⟩ := h.requeue idx qbuf
  have hcalls : (requeueAndBreak cpp c idx qbuf).log = (requeueAndBreak rust r idx qbuf).log :=
    congrArg calls hlog
  exact ⟨hcalls ▸ List.prefix_rfl, fun _ => hcalls, rfl, hpaired.toAlike⟩

/-- **The frame loops**: paired objects make the same turn and stay paired; the rest by
induction on the turns. -/
theorem frameLoop_same (h : Paired r c) (client : Fd) (turns : List PublisherDma.Turn) :
    (frameLoop rust client r turns).Same (frameLoop cpp client c turns) := by
  induction turns generalizing r c with
  | nil => exact .stop h.toAlike .ok
  | cons t ts ih =>
      obtain ⟨hlog, hresult, hd⟩ := h.dequeue t.dequeue
      have hlog : (cpp.dequeue c t.dequeue).log = (rust.dequeue r t.dequeue).log := hlog
      have hresult : (cpp.dequeue c t.dequeue).result = (rust.dequeue r t.dequeue).result := hresult
      have hd : Paired (rust.dequeue r t.dequeue).obj (cpp.dequeue c t.dequeue).obj := hd
      rw [frameLoop, frameLoop]
      simp only [hlog, hresult]
      apply Scope.Same.after
      generalize rust.dequeue r t.dequeue = d at hd ⊢
      cases d.result with
      | failed e => exact .stop hd.toAlike .ok
      | outOfBounds => exact .stop hd.toAlike .panic
      | unselectable => exact .stop hd.toAlike .abort
      | frame idx =>
          apply Scope.Same.after
          cases t.send_idx with
          | false => exact requeueAndBreak_same hd idx t.requeue
          | true =>
              apply Scope.Same.after
              cases t.wait_for_ack with
              | false => exact requeueAndBreak_same hd idx t.requeue
              | true =>
                  obtain ⟨hlog, hresult, hr⟩ := hd.requeue idx t.requeue
                  simp only [Bool.not_true, Bool.false_eq_true, if_false, hlog, hresult]
                  apply Scope.Same.after
                  split
                  · exact ih hr
                  · exact .stop hr.toAlike .ok

/-- Paired objects announce the same. -/
theorem Paired.handshakeWith (h : Paired r c) (drm_fourcc : UInt32) :
    (cpp.source c).handshakeWith drm_fourcc = (rust.source r).handshakeWith drm_fourcc := by
  have hformat : (cpp.source c).format = (rust.source r).format := h.format
  have hcount : (cpp.source c).bufCount = (rust.source r).bufCount := h.length
  rw [Source.handshakeWith, hformat, hcount, Source.handshakeWith]

variable {σ : Type} (args : Args) (ans : Answers σ)

theorem serve_same (h : Paired r c) (drm_fourcc : UInt32) (client : Fd) :
    (serve rust r drm_fourcc client ans).Same (serve cpp c drm_fourcc client ans) := by
  have hfds : cpp.all_fds c = rust.all_fds r := h.fds
  rw [serve, serve, h.handshakeWith, hfds]
  apply Scope.Same.after
  split
  · exact frameLoop_same h client ans.turns
  · exact .stop h.toAlike .error

/-- The two functions make the same address of a path without a NUL. -/
theorem fill_sockaddr_eq {path : List UInt8} (hpath : 0 ∉ path) :
    Cpp.fill_sockaddr path = unixAddr path := by
  rw [Cpp.fill_sockaddr, unixAddr, if_neg hpath, FileNames.cstr_eq_self hpath]
  by_cases hlen : path.length ≥ sunPathSize
  · rw [if_pos hlen, if_pos (by omega)]
  · rw [if_neg hlen, if_neg (by omega)]

/-- The two `create_listening_socket` on a path without a NUL. -/
theorem listening_same (hpath : 0 ∉ args.socket_path) :
    (listening .cpp args.socket_path ans.listen ans.dir).log =
        (listening .rust args.socket_path ans.listen ans.dir).log ∧
      (listening .cpp args.socket_path ans.listen ans.dir).result =
        (listening .rust args.socket_path ans.listen ans.dir).result := by
  simp only [listening, create_listening_socket, Cpp.create_listening_socket,
    fill_sockaddr_eq hpath, FileNames.cstr_eq_self hpath, remove_file, hpath, if_false]
  cases ans.listen.socket with
  | none => exact ⟨rfl, rfl⟩
  | some fd =>
      cases unixAddr args.socket_path with
      | none => exact ⟨rfl, rfl⟩
      | some addr =>
          cases (ans.dir.unlink ans.listen.unlink args.socket_path).bind ans.listen.bind
            ans.listen.sock addr with
          | none => exact ⟨rfl, rfl⟩
          | some dir => cases ans.listen.listen <;> exact ⟨rfl, rfl⟩

/-- The two translations agree on the code of a V4L2 format. -/
theorem Alike.drm_fourcc (h : Alike r c) : cpp.drm_fourcc c = rust.drm_fourcc r := by
  have hpix : c.pixel_format_ = r.pixel_format := congrArg PixFormat.pixelformat h.format
  simp only [cpp, rust, Cpp.v4l2_to_drm_fourcc_eq, hpix]
  cases hdrm : v4l2_to_drm_fourcc r.pixel_format with
  | none => rfl
  | some drm_fourcc =>
      rw [Option.getD_some, if_neg (drm_ne_zero hdrm)]

theorem listenAndServe_same (h : Paired r c) (hpath : 0 ∉ args.socket_path) :
    (listenAndServe rust r args ans).Same (listenAndServe cpp c args ans) := by
  obtain ⟨hlog, hresult⟩ := listening_same args ans hpath
  rw [listenAndServe, listenAndServe, h.drm_fourcc]
  cases rust.drm_fourcc r with
  | none => exact .stop h.toAlike .error
  | some drm_fourcc =>
      have hrust : rust.lang = .rust := rfl
      have hcpp : cpp.lang = .cpp := rfl
      simp only [hrust, hcpp, hlog, hresult]
      apply Scope.Same.after
      cases (listening .rust args.socket_path ans.listen ans.dir).result with
      | error e => exact .stop h.toAlike .error
      | ok listen_fd =>
          apply Scope.Same.owning
          rw [acceptAndServe, acceptAndServe]
          apply Scope.Same.after
          cases ans.accept with
          | none => exact .stop h.toAlike .error
          | some client => exact (serve_same ans h drm_fourcc client).owning client

/-! ## The programs -/

theorem startAndServe_same (h : Alike r c) (hempty : r.buffers = [])
    (hpath : 0 ∉ args.socket_path) :
    (startAndServe r args ans).Same (Cpp.startAndServe c args ans) := by
  obtain ⟨hlog, hresult, halike, hpaired⟩ := h.start hempty 4 ans.start
  rw [startAndServe, Cpp.startAndServe]
  simp only [hlog, hresult]
  apply Scope.Same.after
  cases hok : (r.start 4 ans.start).result with
  | error e => exact .stop halike .error
  | ok u => exact listenAndServe_same args ans (hpaired (by rw [hok]; rfl)) hpath

/-- **The two MMAP publishers make the same calls** on the same options, with a path without
a NUL, and the same answers, and end alike, a panic or an abort in Rust being undefined in
C++; behind a panic, Rust still drops. Where `open` fails behind the device's descriptor, C++
issues REQBUFS(0) before it closes it, and that is all. -/
theorem same_calls (hpath : 0 ∉ args.socket_path) :
    (run .cpp args ans).2 = (run .rust args ans).2.asCpp ∧
      (ans.device.fd = none ∨
          (V4l2Capture.openDevice args.width args.height args.pixel_fmt ans.device).2.isOk = true →
        (run .cpp args ans).1 <+: (run .rust args ans).1 ∧
          ((run .rust args ans).2 ≠ .panic → (run .cpp args ans).1 = (run .rust args ans).1)) ∧
      ∀ fd, ans.device.fd = some fd →
        (V4l2Capture.openDevice args.width args.height args.pixel_fmt ans.device).2.isOk = false →
          ∃ pre, (run .rust args ans).1 = pre ++ [.call (.close fd)] ∧
            (run .cpp args ans).1 = pre ++ [.call .releaseBufs, .call (.close fd)] := by
  have hopened := opened args.width args.height args.pixel_fmt ans.device
  rw [run, run, main, Cpp.main]
  simp only
  generalize V4l2Capture.openDevice args.width args.height args.pixel_fmt ans.device = r
    at hopened ⊢
  generalize Cpp.V4l2Capture.openDevice _ args.width args.height args.pixel_fmt ans.device = c
    at hopened ⊢
  generalize ans.device.fd = dev at hopened ⊢
  cases hopened with
  | noDevice e hr hc hlog =>
      simp only [hr, hc, Bool.not_false, if_true, Scope.after, Scope.dropping, Exit.drops,
        List.append_nil, ← calls_append, hlog]
      refine ⟨rfl, fun _ => ⟨List.prefix_rfl, fun _ => trivial⟩, fun fd hfd => ?_⟩
      cases hfd
  | refused e pre fd hr hc hlog hlog' =>
      simp only [hr, hc, Bool.not_false, if_true, Scope.after, Scope.dropping, Exit.drops,
        List.append_nil, ← calls_append, hlog', hlog]
      refine ⟨rfl, by simp [Except.isOk, Except.toBool], fun fd' hfd _ => ⟨calls pre, ?_⟩⟩
      obtain rfl := Option.some.inj hfd
      exact ⟨calls_append _ _, calls_append _ _⟩
  | ok cap fd hr hempty hlog hc h =>
      have hsame := startAndServe_same args ans h hempty hpath
      have hdestroy := hsame.cap.destroy_eq
      have hrun := (hsame.dropping (calls (startAndServe cap args ans).cap.drop)).after (calls r.1)
      simp only [hr, hc, Bool.not_true, Bool.false_eq_true, if_false, Scope.dropping_after, hlog,
        Scope.cap_after, hdestroy]
      refine ⟨hsame.exit, fun _ => ⟨hrun.pre, fun he => hrun.log ?_⟩, fun _ _ hfalse => ?_⟩
      · simpa [Scope.after] using he
      · cases hfalse

/-- In a run of one frame the two make the same calls. -/
theorem same_calls_oneFrame :
    (run .cpp vga oneFrame).1 = (run .rust vga oneFrame).1 ∧
      (run .rust vga oneFrame).1.length = 29 :=
  ⟨((same_calls vga oneFrame (by decide)).2.1 (.inr rfl)).2 (by decide), by decide⟩

end PublisherMmap

end DmabufPipeline
