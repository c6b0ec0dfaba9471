import DmabufPipeline.Egl.Attributes
import DmabufPipeline.Lib.ByteText

/-!
# The command line of the two publishers

The argument loops of `publisher.cpp` and of `publisher/src/main.rs`. An argument is a
byte string. `std::env::args()` panics on one that is not UTF-8, and `std::stoi` throws on
one that it cannot read; nothing catches either.

Both loops read the same options, and differ in what they take for a number. So the list
of arguments is read once as a list of settings, and both loops are loops over it.

## Main definitions

* `stoi`, `parse_u32` — the two number grammars.
* `Cpp.parseArgs`, `parseArgs` — the two argument loops.
* `Setting`, `settings` — an argument list as settings and an ending.
* `SameCommandLine` — both loops refuse, or both accept with the same options.
* `SameNumbers` — when they do.
-/

namespace DmabufPipeline

open ByteText

/-! ## Numbers -/

/-- `isspace` in the C locale. -/
def isSpace (b : UInt8) : Bool := b = 32 || (9 ≤ b.toNat && b.toNat ≤ 13)

/-- Why `std::stoi` throws. -/
inductive StoiError
  | invalid_argument
  | out_of_range
  deriving DecidableEq, Repr

/-- An optional sign: whether it is a minus, and what follows. -/
def takeSign : Bytes → Bool × Bytes
  | 45 :: s => (true, s)
  | 43 :: s => (false, s)
  | s => (false, s)

/-- `std::stoi`: white space, a sign and the longest digit prefix; the rest is ignored. -/
def stoi (s : Bytes) : Except StoiError ℤ :=
  let (negative, s) := takeSign (s.dropWhile isSpace)
  let ds := s.takeWhile isDigit
  if ds = [] then .error .invalid_argument
  else
    let n : ℤ := if negative then -(value ds) else value ds
    if -2 ^ 31 ≤ n ∧ n < 2 ^ 31 then .ok n else .error .out_of_range

/-- What follows an optional plus. -/
def dropPlus : Bytes → Bytes
  | 43 :: s => s
  | s => s

/-- `str::parse::<u32>`. -/
def parse_u32 (s : Bytes) : Option UInt32 :=
  let ds := dropPlus s
  if IsNumeral ds ∧ value ds < 2 ^ 32 then some (UInt32.ofNat (value ds)) else none

/-! ## The loops -/

/-- What an argument loop sets, with the defaults. -/
structure Options where
  device : Bytes := word "/dev/video0"
  width : UInt32 := 640
  height : UInt32 := 480
  pixel_fmt : UInt32 := V4L2_PIX_FMT_YUYV
  socket_path : Bytes := word "/tmp/dma_buf_socket"
  deriving DecidableEq, Repr

/-- The options. -/
inductive Opt
  | device
  | width
  | height
  | socket
  | yuyv
  | nv12
  deriving DecidableEq, Repr

/-- The option that an argument spells. -/
def opt (a : Bytes) : Option Opt :=
  if a = word "--device" then some .device
  else if a = word "--width" then some .width
  else if a = word "--height" then some .height
  else if a = word "--socket" then some .socket
  else if a = word "--yuyv" then some .yuyv
  else if a = word "--nv12" then some .nv12
  else none

/-- Why an argument list is refused: the usage text (exit code 2), "missing value for
..", or a number that does not parse (exit code 1). -/
inductive Refusal
  | usage
  | missingValue (o : Opt)
  | number
  deriving DecidableEq, Repr

/-- How an argument loop ends; `crashed` is an uncaught exception or a panic. -/
inductive CommandLine
  | accepted (o : Options)
  | refused (e : Refusal)
  | crashed
  deriving DecidableEq, Repr

/-- The loop of the C++ publisher: `a == "--device" && i+1 < argc`, so that an option
without its value comes to the usage text. -/
def Cpp.parseArgs (o : Options) : List Bytes → CommandLine
  | [] => .accepted o
  | a :: args =>
      match opt a, args with
      | some .device, v :: args => Cpp.parseArgs { o with device := v } args
      | some .width, v :: args =>
          match stoi v with
          | .ok n => Cpp.parseArgs { o with width := UInt32.ofInt n } args
          | .error _ => .crashed
      | some .height, v :: args =>
          match stoi v with
          | .ok n => Cpp.parseArgs { o with height := UInt32.ofInt n } args
          | .error _ => .crashed
      | some .socket, v :: args => Cpp.parseArgs { o with socket_path := v } args
      | some .yuyv, args => Cpp.parseArgs { o with pixel_fmt := V4L2_PIX_FMT_YUYV } args
      | some .nv12, args => Cpp.parseArgs { o with pixel_fmt := V4L2_PIX_FMT_NV12 } args
      | _, _ => .refused .usage

/-- The loop of the Rust publisher; `args.next()` panics on what is not UTF-8. -/
def parseArgs (o : Options) : List Bytes → CommandLine
  | [] => .accepted o
  | a :: args =>
      if isUtf8 a = false then .crashed
      else match opt a, args with
      | some .device, v :: args =>
          if isUtf8 v = false then .crashed else parseArgs { o with device := v } args
      | some .width, v :: args =>
          if isUtf8 v = false then .crashed
          else match parse_u32 v with
            | some n => parseArgs { o with width := n } args
            | none => .refused .number
      | some .height, v :: args =>
          if isUtf8 v = false then .crashed
          else match parse_u32 v with
            | some n => parseArgs { o with height := n } args
            | none => .refused .number
      | some .socket, v :: args =>
          if isUtf8 v = false then .crashed else parseArgs { o with socket_path := v } args
      | some .yuyv, args => parseArgs { o with pixel_fmt := V4L2_PIX_FMT_YUYV } args
      | some .nv12, args => parseArgs { o with pixel_fmt := V4L2_PIX_FMT_NV12 } args
      | some o, [] => .refused (.missingValue o)
      | none, _ => .refused .usage

/-! ## Settings -/

/-- An option with its value. -/
inductive Setting
  | device (v : Bytes)
  | width (v : Bytes)
  | height (v : Bytes)
  | socket (v : Bytes)
  | yuyv
  | nv12
  deriving DecidableEq, Repr

/-- What an argument list ends with. -/
inductive Ending
  | complete
  /-- An option whose value is missing. -/
  | noValue (o : Opt)
  /-- A word that is no option. -/
  | unknown (a : Bytes)
  deriving DecidableEq, Repr

/-- The settings that an argument list spells, and how it ends. -/
def settings : List Bytes → List Setting × Ending
  | [] => ([], .complete)
  | a :: args =>
      match opt a, args with
      | some .device, v :: args => (.device v :: (settings args).1, (settings args).2)
      | some .width, v :: args => (.width v :: (settings args).1, (settings args).2)
      | some .height, v :: args => (.height v :: (settings args).1, (settings args).2)
      | some .socket, v :: args => (.socket v :: (settings args).1, (settings args).2)
      | some .yuyv, args => (.yuyv :: (settings args).1, (settings args).2)
      | some .nv12, args => (.nv12 :: (settings args).1, (settings args).2)
      | some o, [] => ([], .noValue o)
      | none, _ => ([], .unknown a)

/-- The text of a setting that is read as a number. -/
def Setting.number : Setting → Option Bytes
  | .width t | .height t => some t
  | .device _ | .socket _ | .yuyv | .nv12 => none

/-- The value of a setting. -/
def Setting.value : Setting → Bytes
  | .device v | .width v | .height v | .socket v => v
  | .yuyv | .nv12 => []

/-- What a setting sets; `n` is the number that was read. -/
def Setting.apply (n : UInt32) (o : Options) : Setting → Options
  | .device v => { o with device := v }
  | .width _ => { o with width := n }
  | .height _ => { o with height := n }
  | .socket v => { o with socket_path := v }
  | .yuyv => { o with pixel_fmt := V4L2_PIX_FMT_YUYV }
  | .nv12 => { o with pixel_fmt := V4L2_PIX_FMT_NV12 }

/-- The C++ loop over settings. -/
def Cpp.applyAll (o : Options) (ending : Ending) : List Setting → CommandLine
  | [] => if ending = .complete then .accepted o else .refused .usage
  | s :: ss =>
      match s.number with
      | none => Cpp.applyAll (s.apply 0 o) ending ss
      | some t =>
          match stoi t with
          | .ok n => Cpp.applyAll (s.apply (UInt32.ofInt n) o) ending ss
          | .error _ => .crashed

/-- How the Rust loop ends on the last word. -/
def Ending.result (o : Options) : Ending → CommandLine
  | .complete => .accepted o
  | .noValue o => .refused (.missingValue o)
  | .unknown a => if isUtf8 a = false then .crashed else .refused .usage

/-- The Rust loop over settings. -/
def applyAll (o : Options) (ending : Ending) : List Setting → CommandLine
  | [] => ending.result o
  | s :: ss =>
      if isUtf8 s.value = false then .crashed
      else match s.number with
      | none => applyAll (s.apply 0 o) ending ss
      | some t =>
          match parse_u32 t with
          | some n => applyAll (s.apply n o) ending ss
          | none => .refused .number

/-- **The C++ loop reads settings.** -/
theorem Cpp.parseArgs_eq (o : Options) (args : List Bytes) :
    Cpp.parseArgs o args = Cpp.applyAll o (settings args).2 (settings args).1 := by
  fun_induction settings args generalizing o with
  | case1 => rfl
  | case2 a v args ha ih | case5 a v args ha ih =>
      simp only [Cpp.parseArgs, ha, ih, Cpp.applyAll, Setting.number, Setting.apply]
  | case3 a t args ha ih | case4 a t args ha ih =>
      cases hn : stoi t <;>
        simp [Cpp.parseArgs, ha, hn, ih, Cpp.applyAll, Setting.number, Setting.apply]
  | case6 a args ha ih | case7 a args ha ih =>
      simp only [Cpp.parseArgs, ha, ih, Cpp.applyAll, Setting.number, Setting.apply]
  | case8 a op hyuyv hnv12 ha =>
      cases op <;> simp_all [Cpp.parseArgs, Cpp.applyAll]
  | case9 a args ha => simp [Cpp.parseArgs, ha, Cpp.applyAll]

/-- The options are written in ASCII. -/
theorem isUtf8_of_opt {a : Bytes} {op : Opt} (h : opt a = some op) : isUtf8 a = true := by
  simp only [opt] at h
  split at h
  · next ha => rw [ha]; decide
  split at h
  · next ha => rw [ha]; decide
  split at h
  · next ha => rw [ha]; decide
  split at h
  · next ha => rw [ha]; decide
  split at h
  · next ha => rw [ha]; decide
  split at h
  · next ha => rw [ha]; decide
  · cases h

/-- **The Rust loop reads the same settings.** -/
theorem parseArgs_eq (o : Options) (args : List Bytes) :
    parseArgs o args = applyAll o (settings args).2 (settings args).1 := by
  fun_induction settings args generalizing o with
  | case1 => rfl
  | case2 a v args ha ih | case5 a v args ha ih =>
      cases hv : isUtf8 v <;>
        simp [parseArgs, isUtf8_of_opt ha, ha, hv, ih, applyAll, Setting.number, Setting.value,
          Setting.apply]
  | case3 a t args ha ih | case4 a t args ha ih =>
      cases hv : isUtf8 t <;> cases hn : parse_u32 t <;>
        simp [parseArgs, isUtf8_of_opt ha, ha, hv, hn, ih, applyAll, Setting.number,
          Setting.value, Setting.apply]
  | case6 a args ha ih | case7 a args ha ih =>
      have hempty : isUtf8 [] = true := by decide
      simp [parseArgs, isUtf8_of_opt ha, ha, ih, applyAll, Setting.number, Setting.value,
        Setting.apply, hempty]
  | case8 a op hyuyv hnv12 ha =>
      cases op <;> simp_all [parseArgs, isUtf8_of_opt ha, applyAll, Ending.result]
  | case9 a args ha => simp [parseArgs, ha, applyAll, Ending.result]

/-! ## What the two grammars share -/

/-- A Rust number is a numeral of a `u32`, with an optional plus. -/
theorem parse_u32_eq_some {t : Bytes} {n : UInt32} :
    parse_u32 t = some n ↔ IsNumeral (dropPlus t) ∧ value (dropPlus t) = n.toNat := by
  simp only [parse_u32, Option.ite_none_right_eq_some, Option.some.injEq]
  constructor
  · rintro ⟨⟨hnum, hlt⟩, rfl⟩
    exact ⟨hnum, (UInt32.toNat_ofNat_of_lt' hlt).symm⟩
  · rintro ⟨hnum, hval⟩
    rw [hval]
    exact ⟨⟨hnum, n.toNat_lt⟩, UInt32.ofNat_toNat⟩

/-- A digit is neither white space nor a sign. -/
theorem ne_of_isDigit {d : UInt8} (h : isDigit d = true) :
    isSpace d = false ∧ d ≠ 43 ∧ d ≠ 45 := by
  simp only [isDigit, Bool.and_eq_true, decide_eq_true_eq] at h
  refine ⟨?_, ?_, ?_⟩
  · simp only [isSpace, Bool.or_eq_false_iff, decide_eq_false_iff_not, Bool.and_eq_false_iff]
    refine ⟨?_, .inr (by omega)⟩
    intro heq
    subst heq
    simp at h
  · intro heq
    subst heq
    simp at h
  · intro heq
    subst heq
    simp at h

/-- A numeral has no white space in front, and at most a plus. -/
theorem takeSign_of_isNumeral {t : Bytes} (h : IsNumeral (dropPlus t)) :
    takeSign (t.dropWhile isSpace) = (false, dropPlus t) := by
  by_cases hplus : ∃ s, t = 43 :: s
  · obtain ⟨s, rfl⟩ := hplus
    rfl
  · have hdrop : dropPlus t = t := by
      rw [dropPlus]
      intro s hs
      exact hplus ⟨s, hs⟩
    rw [hdrop] at h ⊢
    obtain ⟨d, ds, rfl, hd⟩ := h.exists_cons
    obtain ⟨hspace, hp, hm⟩ := ne_of_isDigit hd
    rw [List.dropWhile_cons_of_neg (by simp [hspace]), takeSign]
    · intro s hs
      exact hm (List.cons.inj hs).1
    · intro s hs
      exact hp (List.cons.inj hs).1

/-- **`stoi` reads a Rust number alike, if it fits an `int`**, and throws if not. -/
theorem stoi_of_parse {t : Bytes} {n : UInt32} (h : parse_u32 t = some n) :
    stoi t = if n.toNat < 2 ^ 31 then .ok (n.toNat : ℤ) else .error .out_of_range := by
  obtain ⟨hnum, hval⟩ := parse_u32_eq_some.mp h
  have hne : dropPlus t ≠ [] := hnum.1
  simp only [stoi, takeSign_of_isNumeral hnum, hnum.takeWhile, hne, hval, if_false,
    Bool.false_eq_true]
  by_cases hlt : n.toNat < 2 ^ 31
  · rw [if_pos hlt, if_pos (by omega)]
  · rw [if_neg hlt, if_neg (by omega)]

/-! ## When the two loops agree -/

/-- The number texts that the settings hold. -/
def numbers (ss : List Setting) : List Bytes := ss.filterMap Setting.number

/-- The words that the Rust loop takes: it stops at a text that is no number. -/
def wordsRead (ending : Ending) : List Setting → List Bytes
  | [] => match ending with
      | .unknown a => [a]
      | .complete | .noValue _ => []
  | s :: ss =>
      s.value :: if s.number.all (parse_u32 · |>.isSome) then wordsRead ending ss else []

/-- Both refuse, or both accept with the same options. -/
def Agree : CommandLine → CommandLine → Prop
  | .refused _, .refused _ => True
  | .accepted o, .accepted o' => o = o'
  | _, _ => False

instance : ∀ c c', Decidable (Agree c c')
  | .refused _, .refused _ => inferInstanceAs (Decidable True)
  | .accepted o, .accepted o' => inferInstanceAs (Decidable (o = o'))
  | .refused _, .accepted _ | .refused _, .crashed | .accepted _, .refused _
  | .accepted _, .crashed | .crashed, _ => inferInstanceAs (Decidable False)

/-- **When they do**: `stoi` throws at no number, in a list that ends well Rust reads each
as a `u32`, and what Rust takes is UTF-8. -/
structure SameNumbers (ending : Ending) (ss : List Setting) : Prop where
  read : ∀ t ∈ numbers ss, (stoi t).isOk = true
  numeral : ending = .complete → ∀ t ∈ numbers ss, (parse_u32 t).isSome = true
  utf8 : ∀ w ∈ wordsRead ending ss, isUtf8 w = true

/-- The C++ loop refuses a list exactly when it has read all numbers and the list does not
end well. -/
theorem Cpp.applyAll_refused_iff {o : Options} {ending : Ending} {ss : List Setting} :
    (∃ e, Cpp.applyAll o ending ss = .refused e) ↔
      (∀ t ∈ numbers ss, (stoi t).isOk = true) ∧ ending ≠ .complete := by
  induction ss generalizing o with
  | nil =>
      by_cases he : ending = .complete <;> simp [Cpp.applyAll, numbers, he]
  | cons s ss ih =>
      cases hs : s.number with
      | none => simpa [Cpp.applyAll, hs, numbers] using ih
      | some t =>
          cases ht : stoi t with
          | error e => simp [Cpp.applyAll, hs, ht, numbers, Except.isOk, Except.toBool]
          | ok n => simpa [Cpp.applyAll, hs, ht, numbers, Except.isOk, Except.toBool] using ih

/-- Nothing agrees with a panic. -/
theorem not_agree_crashed (c : CommandLine) : ¬ Agree c .crashed := by
  cases c <;> exact id

/-- Only a refusal agrees with a refusal. -/
theorem agree_refused_iff {c : CommandLine} {e : Refusal} :
    Agree c (.refused e) ↔ ∃ e', c = .refused e' := by
  cases c <;> simp [Agree]

/-- The value of a number setting is its text. -/
theorem Setting.value_of_number {s : Setting} {t : Bytes} (h : s.number = some t) :
    s.value = t := by
  cases s <;> simp_all [number, value]

/-- A setting that is no number only has to be UTF-8. -/
theorem sameNumbers_cons_none {ending : Ending} {s : Setting} {ss : List Setting}
    (hs : s.number = none) :
    SameNumbers ending (s :: ss) ↔ isUtf8 s.value = true ∧ SameNumbers ending ss := by
  have hnumbers : numbers (s :: ss) = numbers ss := by simp [numbers, hs]
  have hwords : wordsRead ending (s :: ss) = s.value :: wordsRead ending ss := by
    simp [wordsRead, hs]
  constructor
  · rintro ⟨hread, hnum, hutf⟩
    rw [hnumbers] at hread hnum
    rw [hwords, List.forall_mem_cons] at hutf
    exact ⟨hutf.1, hread, hnum, hutf.2⟩
  · rintro ⟨hv, hread, hnum, hutf⟩
    refine ⟨by rwa [hnumbers], by rwa [hnumbers], ?_⟩
    rw [hwords, List.forall_mem_cons]
    exact ⟨hv, hutf⟩

/-- A number has to be UTF-8 and to be read by `stoi`; if Rust reads it, so must be what
follows, and if not, the list must not end well. -/
theorem sameNumbers_cons_some {ending : Ending} {s : Setting} {ss : List Setting} {t : Bytes}
    (hs : s.number = some t) :
    SameNumbers ending (s :: ss) ↔ isUtf8 t = true ∧ (stoi t).isOk = true ∧
      if (parse_u32 t).isSome then SameNumbers ending ss
      else (∀ t ∈ numbers ss, (stoi t).isOk = true) ∧ ending ≠ .complete := by
  have hnumbers : numbers (s :: ss) = t :: numbers ss := by simp [numbers, hs]
  have hvalue := Setting.value_of_number hs
  cases hp : (parse_u32 t).isSome with
  | true =>
      have hwords : wordsRead ending (s :: ss) = t :: wordsRead ending ss := by
        simp [wordsRead, hs, hvalue, hp]
      rw [if_pos rfl]
      constructor
      · rintro ⟨hread, hnum, hutf⟩
        rw [hnumbers, List.forall_mem_cons] at hread hnum
        rw [hwords, List.forall_mem_cons] at hutf
        exact ⟨hutf.1, hread.1, hread.2, fun he => (hnum he).2, hutf.2⟩
      · rintro ⟨hv, ht, hread, hnum, hutf⟩
        refine ⟨?_, ?_, ?_⟩
        · rw [hnumbers, List.forall_mem_cons]
          exact ⟨ht, hread⟩
        · rw [hnumbers, List.forall_mem_cons]
          exact fun he => ⟨hp, hnum he⟩
        · rw [hwords, List.forall_mem_cons]
          exact ⟨hv, hutf⟩
  | false =>
      have hwords : wordsRead ending (s :: ss) = [t] := by
        simp [wordsRead, hs, hvalue, hp]
      rw [if_neg (by simp)]
      constructor
      · rintro ⟨hread, hnum, hutf⟩
        rw [hnumbers, List.forall_mem_cons] at hread hnum
        refine ⟨hutf t (by simp [hwords]), hread.1, hread.2, fun he => ?_⟩
        have hsome := (hnum he).1
        rw [hp] at hsome
        cases hsome
      · rintro ⟨hv, ht, hread, hne⟩
        refine ⟨?_, fun he => absurd he hne, ?_⟩
        · rw [hnumbers, List.forall_mem_cons]
          exact ⟨ht, hread⟩
        · simpa [hwords] using hv

/-- Where `stoi` reads a numeral without throwing, the number fits an `int`, and the cast
to `uint32_t` gives what Rust reads. -/
theorem ofInt_of_stoi {t : Bytes} {n : ℤ} {m : UInt32} (hp : parse_u32 t = some m)
    (ht : stoi t = .ok n) : UInt32.ofInt n = m := by
  have hread := stoi_of_parse hp
  rw [ht] at hread
  by_cases hlt : m.toNat < 2 ^ 31
  · rw [if_pos hlt, Except.ok.injEq] at hread
    have hmod : (n % 2 ^ 32).toNat = m.toNat := by omega
    rw [UInt32.ofInt, hmod, UInt32.ofNat_toNat]
  · rw [if_neg hlt] at hread
    cases hread

/-- Past the last setting, only an unknown word that is not UTF-8 tells the loops apart. -/
theorem agree_applyAll_nil_iff {o : Options} {ending : Ending} :
    Agree (Cpp.applyAll o ending []) (applyAll o ending []) ↔ SameNumbers ending [] := by
  cases ending with
  | complete =>
      exact iff_of_true rfl ⟨by simp [numbers], by simp [numbers], by simp [wordsRead]⟩
  | noValue op =>
      exact iff_of_true trivial ⟨by simp [numbers], by simp [numbers], by simp [wordsRead]⟩
  | unknown a =>
      cases ha : isUtf8 a with
      | false =>
          refine iff_of_false ?_ ?_
          · simpa [applyAll, Ending.result, ha] using not_agree_crashed _
          · intro h
            have hutf := h.utf8 a (by simp [wordsRead])
            rw [ha] at hutf
            cases hutf
      | true =>
          refine iff_of_true ?_ ⟨by simp [numbers], by simp [numbers], ?_⟩
          · simp [Cpp.applyAll, applyAll, Ending.result, ha, Agree]
          · simpa [wordsRead] using ha

/-- **The two loops over settings agree exactly on the same numbers.** -/
theorem agree_applyAll_iff {o : Options} {ending : Ending} {ss : List Setting} :
    Agree (Cpp.applyAll o ending ss) (applyAll o ending ss) ↔ SameNumbers ending ss := by
  induction ss generalizing o with
  | nil => exact agree_applyAll_nil_iff
  | cons s ss ih =>
      cases hv : isUtf8 s.value with
      | false =>
          have hcrash : applyAll o ending (s :: ss) = .crashed := by simp [applyAll, hv]
          rw [hcrash]
          refine iff_of_false (not_agree_crashed _) fun h => ?_
          have hutf := h.utf8 s.value (by simp [wordsRead])
          rw [hv] at hutf
          cases hutf
      | true =>
          cases hs : s.number with
          | none =>
              rw [sameNumbers_cons_none hs, and_iff_right hv]
              simpa [Cpp.applyAll, applyAll, hs, hv] using ih
          | some t =>
              rw [sameNumbers_cons_some hs, ← Setting.value_of_number hs, and_iff_right hv,
                Setting.value_of_number hs]
              cases ht : stoi t with
              | error e =>
                  refine iff_of_false ?_ (by simp [Except.isOk, Except.toBool])
                  simp [Cpp.applyAll, hs, ht, Agree]
              | ok n =>
                  rw [and_iff_right (by rfl)]
                  cases hp : parse_u32 t with
                  | none =>
                      simp only [Cpp.applyAll, applyAll, hs, hv, ht, hp, Bool.true_eq_false,
                        if_false, Option.isSome_none, Bool.false_eq_true]
                      rw [agree_refused_iff, Cpp.applyAll_refused_iff]
                  | some m =>
                      have hn : UInt32.ofInt n = m := ofInt_of_stoi hp ht
                      simp only [Cpp.applyAll, applyAll, hs, hv, ht, hp, hn,
                        Bool.true_eq_false, if_false, Option.isSome_some, if_true]
                      exact ih

/-- What an accepted list sets: each number is a numeral and has its value. -/
def setNumeral (o : Options) (s : Setting) : Options :=
  s.apply (UInt32.ofNat (value (dropPlus s.value))) o

/-- The Rust loop accepts only numerals, and sets their values. -/
theorem applyAll_accepted {o o' : Options} {ending : Ending} {ss : List Setting}
    (h : applyAll o ending ss = .accepted o') :
    (∀ t ∈ numbers ss, IsNumeral (dropPlus t) ∧ value (dropPlus t) < 2 ^ 32) ∧
      o' = ss.foldl setNumeral o := by
  induction ss generalizing o with
  | nil =>
      cases ending with
      | complete => exact ⟨by simp [numbers], (CommandLine.accepted.inj h).symm⟩
      | noValue op => cases h
      | unknown a =>
          simp only [applyAll, Ending.result] at h
          split at h <;> cases h
  | cons s ss ih =>
      cases hv : isUtf8 s.value with
      | false => simp [applyAll, hv] at h
      | true =>
          cases hs : s.number with
          | none =>
              simp only [applyAll, hv, hs, Bool.true_eq_false, if_false] at h
              obtain ⟨hnum, rfl⟩ := ih h
              have happly : s.apply 0 o = setNumeral o s := by
                cases s <;> first | rfl | cases hs
              rw [happly]
              exact ⟨by simpa [numbers, hs] using hnum, rfl⟩
          | some t =>
              cases hp : parse_u32 t with
              | none => simp [applyAll, hv, hs, hp] at h
              | some n =>
                  simp only [applyAll, hv, hs, hp, Bool.true_eq_false, if_false] at h
                  obtain ⟨hnum, rfl⟩ := ih h
                  obtain ⟨hnumeral, hval⟩ := parse_u32_eq_some.mp hp
                  have happly : s.apply n o = setNumeral o s := by
                    rw [setNumeral, Setting.value_of_number hs, hval, UInt32.ofNat_toNat]
                  rw [happly]
                  refine ⟨?_, rfl⟩
                  rw [numbers, List.filterMap_cons_some hs, List.forall_mem_cons]
                  exact ⟨⟨hnumeral, hval ▸ n.toNat_lt⟩, hnum⟩

/-- Both loops refuse the list, or both accept it with the same options; an accepted list
has numerals of `u32` for numbers, and sets their values. -/
structure SameCommandLine (args : List Bytes) : Prop where
  agree : Agree (Cpp.parseArgs {} args) (parseArgs {} args)
  numerals : ∀ o, Cpp.parseArgs {} args = .accepted o →
    (∀ t ∈ numbers (settings args).1,
      IsNumeral (dropPlus t) ∧ value (dropPlus t) < 2 ^ 32) ∧
      o = (settings args).1.foldl setNumeral {}

/-- **The two publishers read the same command line exactly on the same numbers**: `stoi`
throws at no number of the list, a list that ends well has only numerals, and what Rust
takes is UTF-8. -/
theorem sameCommandLine_iff (args : List Bytes) :
    SameCommandLine args ↔ SameNumbers (settings args).2 (settings args).1 := by
  rw [← agree_applyAll_iff (o := {}), ← Cpp.parseArgs_eq, ← parseArgs_eq]
  refine ⟨SameCommandLine.agree, fun h => ⟨h, fun o ho => ?_⟩⟩
  have hrust : parseArgs {} args = .accepted o := by
    rw [ho] at h
    cases hr : parseArgs {} args with
    | accepted o' =>
        rw [hr] at h
        have heq : o = o' := h
        rw [heq]
    | refused e => simp [hr, Agree] at h
    | crashed => simp [hr, Agree] at h
  rw [parseArgs_eq] at hrust
  exact applyAll_accepted hrust

/-- `--width 3000000000` is a `u32` at which `stoi` throws; `--width 12abc` and
`--width -5` are numbers to `stoi` only. -/
theorem not_sameCommandLine :
    ¬ SameCommandLine [word "--width", word "3000000000"] ∧
    ¬ SameCommandLine [word "--width", word "12abc"] ∧
    ¬ SameCommandLine [word "--width", word "-5"] := by
  refine ⟨fun h => ?_, fun h => ?_, fun h => ?_⟩
  all_goals exact absurd h.agree (by decide)

end DmabufPipeline
