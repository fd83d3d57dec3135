import SwaylockAuthd.Options

/-!
# `main.c`: the config file

`load_config` hands every line that is neither empty nor a comment to `parse_options`, with two
dashes in front, and stops at the first that is rejected.  It returns 0 whatever happened, so the
check of its status in `main` never stops the program.

* `configLines`, `callEach`: the lines of a file, and the calls they stand for.
* `load_config_iff`: the files on which `load_config` has the effect and the status of these calls.
-/

namespace SwaylockAuthd

variable {σ : Type}

/-! ## The code -/

/-- What the successive calls of `getline` read. -/
def getlines : List UInt8 → List (List UInt8)
  | [] => []
  | c :: s =>
    if c = 0x0A then [c] :: getlines s
    else
      match getlines s with
      | [] => [[c]]
      | line :: lines => (c :: line) :: lines

/-- The newline at the end of a line is overwritten. -/
def chomp (line : List UInt8) : List UInt8 :=
  if line.getLast? = some 0x0A then line.dropLast else line

/-- The pointers `load_config` passes on. -/
def configGiven : Given := { state := true, lineMode := true, configPath := false }

/-- The loop of `load_config`, and the `result` it ends with; `calls` counts its `malloc`s.
`sprintf` fails on a line longer than `2 ^ 31` bytes; here it is passed on like the others. -/
def loadLines (env : OptionEnv σ) : Nat → List (List UInt8) → Parsed σ →
    Except Stop (Int × Parsed σ)
  | _, [], p => .ok (0, p)
  | calls, raw :: raws, p =>
    let line := chomp raw
    if line = [] ∨ line.head? = some 0 ∨ line.head? = some 0x23 then loadLines env calls raws p
    else if env.malloc calls = false then .ok (0, p)
    else
      match parseOptions env configGiven [dashed (cstr line)] p with
      | .error stop => .error stop
      | .ok (result, p) => if result ≠ 0 then .ok (result, p) else loadLines env (calls + 1) raws p

/-- `load_config`, on what the file holds if it can be opened. -/
def loadConfig (env : OptionEnv σ) (file : Option (List UInt8)) (p : Parsed σ) :
    Except Stop (Int × Parsed σ) :=
  match file with
  | none => .ok (0, p)
  | some content =>
    match loadLines env 0 (getlines content) p with
    | .error stop => .error stop
    | .ok (_, p) => .ok (0, p)

/-- The part of `main` that reads the options: `defaultPath` is what `get_config_path` finds. -/
def readOptions (env : OptionEnv σ) (files : CString → Option (List UInt8))
    (defaultPath : Option CString) (words : List CString) (p : Parsed σ) :
    Except Stop (Int × Parsed σ) := do
  let (result, p) ←
    parseOptions env { state := false, lineMode := false, configPath := true } words p
  if result ≠ 0 then return (result, p)
  let (status, p) ←
    match p.configPath.or defaultPath with
    | none => .ok (0, p)
    | some path => loadConfig env (files path) p
  if status ≠ 0 then return (status, p)
  let (result, p) ←
    if words = [] then .ok (0, p)
    else parseOptions env { state := true, lineMode := true, configPath := false } words p
  if result ≠ 0 then return (result, p)
  match p.lineMode with
  | .line => return (0, p)
  | .inside => return (0, { p with args.colors.line := p.args.colors.inside })
  | .ring => return (0, { p with args.colors.line := p.args.colors.ring })

/-! ## What it stands for -/

/-- The lines of a file that are neither blank nor comments. -/
def configLines (content : List UInt8) : List CString :=
  (content.splitOnP (· = 0x0A)).filter fun line => line ≠ [] ∧ line.head? ≠ some 0x23

/-- `parse_options` on one line after the other, up to one that is rejected. -/
def callEach (env : OptionEnv σ) : List CString → Parsed σ → Except Stop (Int × Parsed σ)
  | [], p => .ok (0, p)
  | line :: lines, p =>
    match parseOptions env configGiven [dashed line] p with
    | .error stop => .error stop
    | .ok (status, p) => if status ≠ 0 then .ok (status, p) else callEach env lines p

/-- Whether a result is a rejection, and the effect on the state and the line mode. -/
def verdict (r : Int × Parsed σ) : Bool × Parsed σ := (r.1 ≠ 0, r.2)

/-- `load_config` has the effect and the status of the calls. -/
def LoadsLines (env : OptionEnv σ) (content : List UInt8) (p : Parsed σ) : Prop :=
  (loadConfig env (some content) p).map verdict =
    (callEach env (configLines content) p).map verdict

/-- No line that is reached is one that `parse_options` rejects. -/
def NoneRejected (env : OptionEnv σ) (lines : List CString) (p : Parsed σ) : Prop :=
  ∀ before line after q, lines = before ++ line :: after → callEach env before p = .ok (0, q) →
    rejects line = false

/-- Where the memory for a line runs out, the lines from there on would have changed nothing. -/
def NothingMissed (env : OptionEnv σ) (lines : List CString) (p : Parsed σ) : Prop :=
  ∀ before line after q, lines = before ++ line :: after →
    (∀ i < before.length, env.malloc i = true) → env.malloc before.length = false →
      callEach env before p = .ok (0, q) → callEach env (line :: after) q = .ok (0, q)

/-! ## The lines -/

theorem flatten_getlines (s : List UInt8) : (getlines s).flatten = s := by
  induction s with
  | nil => rfl
  | cons c s ih =>
    rw [getlines]
    split
    · rw [List.flatten_cons, ih]
      rfl
    · cases hlines : getlines s with
      | nil =>
        rw [hlines] at ih
        rw [← ih]
        rfl
      | cons line lines =>
        rw [hlines, List.flatten_cons] at ih
        simp only [List.flatten_cons, List.cons_append, ih]

theorem chomp_cons {c : UInt8} {line : List UInt8} (h : line ≠ []) :
    chomp (c :: line) = c :: chomp line := by
  cases line with
  | nil => exact absurd rfl h
  | cons d line =>
    rw [chomp, chomp, List.getLast?_cons_cons]
    split
    · rfl
    · rfl

/-- Reading lines is splitting at the newlines, as far as lines that are not empty go. -/
theorem getlines_spec (s : List UInt8) : s = [] ∨ ∃ line lines rest,
    getlines s = line :: lines ∧ line ≠ [] ∧ s.splitOnP (· = 0x0A) = chomp line :: rest ∧
      (lines.map chomp).filter (· ≠ []) = rest.filter (· ≠ []) := by
  induction s with
  | nil => exact Or.inl rfl
  | cons c s ih =>
    right
    rw [getlines, List.splitOnP_cons_eq_if_modifyHead]
    by_cases hc : c = 0x0A
    · subst hc
      refine ⟨[0x0A], getlines s, s.splitOnP (· = 0x0A), if_pos rfl, List.cons_ne_nil _ _,
        by simp [chomp], ?_⟩
      rcases ih with rfl | ⟨line, lines, rest, hlines, hne, hsplit, hrest⟩
      · simp [getlines]
      · rw [hlines, hsplit, List.map_cons, List.filter_cons, List.filter_cons, hrest]
    · rcases ih with rfl | ⟨line, lines, rest, hlines, hne, hsplit, hrest⟩
      · refine ⟨[c], [], [], by simp [getlines, hc], List.cons_ne_nil _ _, ?_, rfl⟩
        simp [hc, chomp]
      · refine ⟨c :: line, lines, rest, by simp [hlines, hc], List.cons_ne_nil _ _, ?_, hrest⟩
        rw [hsplit, chomp_cons hne]
        simp [hc]

/-- **The lines that are not skipped** are those of the file. -/
theorem configLines_eq (content : List UInt8) : configLines content =
    ((getlines content).map chomp).filter fun line => line ≠ [] ∧ line.head? ≠ some 0x23 := by
  have hsame : ((getlines content).map chomp).filter (· ≠ []) =
      (content.splitOnP (· = 0x0A)).filter (· ≠ []) := by
    rcases getlines_spec content with rfl | ⟨line, lines, rest, hlines, -, hsplit, hrest⟩
    · simp [getlines]
    · rw [hlines, hsplit, List.map_cons, List.filter_cons, List.filter_cons, hrest]
  have hboth : ∀ lines : List (List UInt8),
      (lines.filter fun line => line ≠ [] ∧ line.head? ≠ some 0x23) =
        (lines.filter (· ≠ [])).filter (·.head? ≠ some 0x23) := by
    intro lines
    rw [List.filter_filter]
    congr 1
    funext line
    simp [Bool.and_comm]
  rw [configLines, hboth, hboth, hsame]

/-! ## Rejected lines -/

theorem callEach_cons {env : OptionEnv σ} {line : CString} {p q : Parsed σ}
    (hcall : parseOptions env configGiven [dashed line] p = .ok (0, q)) (lines : List CString) :
    callEach env (line :: lines) p = callEach env lines q := by
  rw [callEach, hcall]
  simp

theorem callEach_error {env : OptionEnv σ} {line : CString} {lines : List CString} {p : Parsed σ}
    {stop : Stop} (hcall : parseOptions env configGiven [dashed line] p = .error stop) :
    callEach env (line :: lines) p = .error stop := by
  rw [callEach, hcall]

theorem callEach_stop {env : OptionEnv σ} {line : CString} {lines : List CString} {p q : Parsed σ}
    {status : Int} (hcall : parseOptions env configGiven [dashed line] p = .ok (status, q))
    (hstatus : status ≠ 0) : callEach env (line :: lines) p = .ok (status, q) := by
  rw [callEach, hcall]
  simp [hstatus]

theorem callEach_eq_ok {env : OptionEnv σ} {line : CString} {lines : List CString}
    {p r : Parsed σ} : callEach env (line :: lines) p = .ok (0, r) ↔
      ∃ q, parseOptions env configGiven [dashed line] p = .ok (0, q) ∧
        callEach env lines q = .ok (0, r) := by
  cases hcall : parseOptions env configGiven [dashed line] p with
  | error stop =>
    rw [callEach_error hcall]
    simp
  | ok s =>
    obtain ⟨status, q⟩ := s
    by_cases hstatus : status = 0
    · subst hstatus
      rw [callEach_cons hcall]
      simp
    · rw [callEach_stop hcall hstatus]
      simp [hstatus]

theorem noneRejected_cons {env : OptionEnv σ} {line : CString} {lines : List CString}
    {p : Parsed σ} : NoneRejected env (line :: lines) p ↔ rejects line = false ∧
      ∀ q, parseOptions env configGiven [dashed line] p = .ok (0, q) →
        NoneRejected env lines q := by
  constructor
  · intro h
    refine ⟨h [] line lines p rfl rfl, ?_⟩
    intro q hcall before next after r heq hbefore
    exact h (line :: before) next after r (by rw [heq]; rfl)
      (callEach_eq_ok.mpr ⟨q, hcall, hbefore⟩)
  · rintro ⟨hline, hlines⟩ before next after r heq hbefore
    cases before with
    | nil =>
      obtain ⟨rfl, -⟩ := List.cons.inj heq
      exact hline
    | cons b before =>
      obtain ⟨rfl, rfl⟩ := List.cons.inj heq
      obtain ⟨q, hcall, hq⟩ := callEach_eq_ok.mp hbefore
      exact hlines q hcall before next after r rfl hq

/-- **The calls end with a status other than 0** exactly when a line they reach is rejected. -/
theorem noneRejected_iff (env : OptionEnv σ) {lines : List CString} : ∀ {p : Parsed σ},
    (∀ line ∈ lines, line ≠ []) → (NoneRejected env lines p ↔
      ∀ status q, callEach env lines p = .ok (status, q) → status = 0) := by
  induction lines with
  | nil =>
    intro p _
    constructor
    · intro _ status q h
      exact (Prod.mk.inj (Except.ok.inj h)).1.symm
    · intro _ before line after q h
      simp at h
  | cons line lines ih =>
    intro p hne
    have hline := hne line List.mem_cons_self
    have hlines : ∀ l ∈ lines, l ≠ [] := fun l hl => hne l (List.mem_cons_of_mem line hl)
    have hgiven : configGiven.state = true := rfl
    rw [noneRejected_cons]
    cases hrejects : rejects line with
    | true =>
      obtain ⟨q, hcall⟩ := parseOptions_of_rejects env hgiven hline hrejects p
      rw [callEach_stop hcall (by omega)]
      simp
    | false =>
      cases hcall : parseOptions env configGiven [dashed line] p with
      | error stop =>
        rw [callEach_error hcall]
        simp
      | ok r =>
        obtain ⟨status, q⟩ := r
        obtain rfl : status = 0 := by
          by_contra hstatus
          rw [(rejects_iff hgiven hline hcall).mp hstatus] at hrejects
          cases hrejects
        rw [callEach_cons hcall, ← ih hlines]
        simp

/-! ## The loop -/

/-- The loop on the lines that are not skipped. -/
def loadEach (env : OptionEnv σ) : Nat → List CString → Parsed σ → Except Stop (Int × Parsed σ)
  | _, [], p => .ok (0, p)
  | calls, line :: lines, p =>
    if env.malloc calls = false then .ok (0, p)
    else
      match parseOptions env configGiven [dashed line] p with
      | .error stop => .error stop
      | .ok (result, p) => if result ≠ 0 then .ok (result, p) else loadEach env (calls + 1) lines p

theorem chomp_subset (line : List UInt8) : chomp line ⊆ line := by
  rw [chomp]
  split
  · exact List.dropLast_subset _
  · exact fun _ h => h

/-- Lines without a NUL byte reach `parse_options` as they are. -/
theorem loadLines_eq (env : OptionEnv σ) {raws : List (List UInt8)} :
    ∀ {calls : Nat} {p : Parsed σ}, (∀ raw ∈ raws, 0 ∉ raw) →
      loadLines env calls raws p = loadEach env calls
        ((raws.map chomp).filter fun line => line ≠ [] ∧ line.head? ≠ some 0x23) p := by
  induction raws with
  | nil => intro calls p _; rfl
  | cons raw raws ih =>
    intro calls p h
    have hraw : 0 ∉ chomp raw := fun hmem => h raw List.mem_cons_self (chomp_subset raw hmem)
    have hraws : ∀ raw ∈ raws, 0 ∉ raw := fun r hr => h r (List.mem_cons_of_mem raw hr)
    have hfirst : (chomp raw).head? ≠ some 0 := fun he => hraw (List.mem_of_head? he)
    rw [loadLines, List.map_cons]
    simp only [cstr_eq_self hraw]
    by_cases hskip : chomp raw = [] ∨ (chomp raw).head? = some 0x23
    · have hkeep : ¬ (chomp raw ≠ [] ∧ (chomp raw).head? ≠ some 0x23) := by tauto
      rw [if_pos (by tauto), List.filter_cons_of_neg (by simpa using hkeep), ih hraws]
    · have hkeep : chomp raw ≠ [] ∧ (chomp raw).head? ≠ some 0x23 := by tauto
      rw [if_neg (by tauto), List.filter_cons_of_pos (by simpa using hkeep), loadEach]
      split
      · rfl
      · split
        · rfl
        · split
          · rfl
          · exact ih hraws

theorem loadConfig_eq (env : OptionEnv σ) {content : List UInt8} (h : 0 ∉ content) (p : Parsed σ) :
    (loadConfig env (some content) p).map verdict =
      (loadEach env 0 (configLines content) p).map fun r => (false, r.2) := by
  have hraws : ∀ raw ∈ getlines content, 0 ∉ raw := by
    intro raw hraw hmem
    apply h
    rw [← flatten_getlines content]
    exact List.mem_flatten.mpr ⟨raw, hraw, hmem⟩
  rw [loadConfig, loadLines_eq env hraws, ← configLines_eq]
  cases loadEach env 0 (configLines content) p with
  | error stop => rfl
  | ok r => rfl

/-- The same, from a number of `malloc`s on. -/
def NothingMissedFrom (env : OptionEnv σ) (calls : Nat) (lines : List CString) (p : Parsed σ) :
    Prop :=
  ∀ before line after q, lines = before ++ line :: after →
    (∀ i < before.length, env.malloc (calls + i) = true) →
      env.malloc (calls + before.length) = false →
        callEach env before p = .ok (0, q) → callEach env (line :: after) q = .ok (0, q)

/-- A line that is not taken must change nothing, with those behind it; after one that is taken
the rest counts from its call on. -/
theorem nothingMissedFrom_cons {env : OptionEnv σ} {calls : Nat} {line : CString}
    {lines : List CString} {p : Parsed σ} : NothingMissedFrom env calls (line :: lines) p ↔
      (env.malloc calls = false → callEach env (line :: lines) p = .ok (0, p)) ∧
        (env.malloc calls = true → ∀ q, parseOptions env configGiven [dashed line] p = .ok (0, q) →
          NothingMissedFrom env (calls + 1) lines q) := by
  constructor
  · intro h
    constructor
    · intro hfail
      exact h [] line lines p rfl (fun i hi => absurd hi (Nat.not_lt_zero i)) hfail rfl
    · intro hmalloc q hcall before next after r heq hbefore hfail hr
      refine h (line :: before) next after r (by rw [heq]; rfl) ?_ ?_
        (callEach_eq_ok.mpr ⟨q, hcall, hr⟩)
      · intro i hi
        cases i with
        | zero => exact hmalloc
        | succ i =>
          rw [Nat.add_succ, ← Nat.succ_add]
          exact hbefore i (by simpa using hi)
      · rw [List.length_cons, Nat.add_succ, ← Nat.succ_add]
        exact hfail
  · rintro ⟨hfirst, hrest⟩ before next after r heq hbefore hfail hr
    cases before with
    | nil =>
      obtain ⟨rfl, rfl⟩ := List.cons.inj heq
      obtain rfl := (Prod.mk.inj (Except.ok.inj hr)).2
      exact hfirst hfail
    | cons b before =>
      obtain ⟨rfl, rfl⟩ := List.cons.inj heq
      obtain ⟨q, hcall, hq⟩ := callEach_eq_ok.mp hr
      refine hrest (hbefore 0 (by simp)) q hcall before next after r rfl ?_ ?_ hq
      · intro i hi
        rw [Nat.succ_add, ← Nat.add_succ]
        exact hbefore (i + 1) (by simpa using hi)
      · rw [Nat.succ_add, ← Nat.add_succ]
        exact hfail

/-- Nothing done is what the calls do when they change nothing and end with 0. -/
theorem verdict_eq_ok {r : Except Stop (Int × Parsed σ)} {p : Parsed σ} :
    (Except.ok (false, p) : Except Stop (Bool × Parsed σ)) = r.map verdict ↔ r = .ok (0, p) := by
  cases r with
  | error stop => simp [Except.map]
  | ok r =>
    obtain ⟨status, q⟩ := r
    simp only [Except.map, verdict, Except.ok.injEq, Prod.mk.injEq]
    constructor
    · rintro ⟨hstatus, rfl⟩
      exact ⟨by simpa using hstatus, rfl⟩
    · rintro ⟨rfl, rfl⟩
      exact ⟨rfl, rfl⟩

/-- **When the loop does what the calls do.** -/
theorem loadEach_iff (env : OptionEnv σ) {lines : List CString} : ∀ {calls : Nat} {p : Parsed σ},
    ((loadEach env calls lines p).map (fun r => (false, r.2)) = (callEach env lines p).map verdict ↔
      (∀ status q, callEach env lines p = .ok (status, q) → status = 0) ∧
        NothingMissedFrom env calls lines p) := by
  induction lines with
  | nil =>
    intro calls p
    constructor
    · intro _
      refine ⟨fun status q h => (Prod.mk.inj (Except.ok.inj h)).1.symm, ?_⟩
      intro before line after q h
      simp at h
    · intro _
      rfl
  | cons line lines ih =>
    intro calls p
    rw [loadEach, nothingMissedFrom_cons]
    cases hmalloc : env.malloc calls with
    | false =>
      have hsame := verdict_eq_ok (r := callEach env (line :: lines) p) (p := p)
      rw [if_pos rfl]
      refine hsame.trans ⟨fun h => ⟨fun status q hq => ?_, fun _ => h, by simp⟩, fun h => h.2.1 rfl⟩
      rw [h] at hq
      exact (Prod.mk.inj (Except.ok.inj hq)).1.symm
    | true =>
      rw [if_neg (by simp)]
      cases hcall : parseOptions env configGiven [dashed line] p with
      | error stop =>
        rw [callEach_error hcall]
        simp [Except.map]
      | ok r =>
        obtain ⟨status, q⟩ := r
        by_cases hstatus : status = 0
        · subst hstatus
          rw [callEach_cons hcall]
          simpa using ih
        · rw [callEach_stop hcall hstatus]
          simp [hstatus, Except.map, verdict]

/-- **When `load_config` has the effect and the status of the calls**: when none is rejected, and
nothing is missed where memory runs out. -/
theorem load_config_iff (env : OptionEnv σ) {content : List UInt8} (h : 0 ∉ content)
    (p : Parsed σ) :
    LoadsLines env content p ↔
      NoneRejected env (configLines content) p ∧ NothingMissed env (configLines content) p := by
  have hfrom : NothingMissed env (configLines content) p ↔
      NothingMissedFrom env 0 (configLines content) p := by
    rw [NothingMissed, NothingMissedFrom]
    simp only [Nat.zero_add]
  have hlines : ∀ line ∈ configLines content, line ≠ [] := by
    intro line hline
    have hkeep := List.of_mem_filter hline
    simp only [decide_eq_true_eq] at hkeep
    exact hkeep.1
  rw [LoadsLines, loadConfig_eq env h, hfrom, noneRejected_iff env hlines]
  exact loadEach_iff env

/-- The environment of the tests: no images. -/
def plainOptionEnv : OptionEnv Unit := { plainImageEnv with }

/-- A colour, a comment, a blank line and a radius without a newline. -/
theorem load_config_iff_lines :
    LoadsLines plainOptionEnv (ascii "color=ff0000\n# comment\n\nindicator-radius=60") {} ↔
      NoneRejected plainOptionEnv
          (configLines (ascii "color=ff0000\n# comment\n\nindicator-radius=60")) {} ∧
        NothingMissed plainOptionEnv
          (configLines (ascii "color=ff0000\n# comment\n\nindicator-radius=60")) {} :=
  load_config_iff plainOptionEnv (by decide) {}

/-- A line that is rejected and an option behind it: the program goes on without the option. -/
theorem not_loads_lines :
    (¬ ∀ (env : OptionEnv Unit) (content : List UInt8) (p : Parsed Unit), 0 ∉ content →
      LoadsLines env content p) ∧
    readOptions plainOptionEnv (fun _ => some (ascii "colour=ff0000\nignore-empty-password\n"))
      (some (ascii "config")) [] {} = .ok (0, {}) := by
  have hload :
      loadConfig plainOptionEnv (some (ascii "colour=ff0000\nignore-empty-password\n")) {} =
        .ok (0, {}) := rfl
  have hcalls : callEach plainOptionEnv
      (configLines (ascii "colour=ff0000\nignore-empty-password\n")) {} = .ok (1, {}) := rfl
  refine ⟨fun hall => ?_, rfl⟩
  have hloads := hall plainOptionEnv (ascii "colour=ff0000\nignore-empty-password\n") {} (by decide)
  rw [LoadsLines, hload, hcalls] at hloads
  cases hloads

end SwaylockAuthd
