import SwaylockAuthd.Background
import SwaylockAuthd.Config

/-!
# The scaling mode that the options leave behind

An unknown scaling mode on the command line ends the program.  In the config file it ends only the
reading, with the mode already written: `load_config` returns 0 all the same, and the assertion of
`render_background_image` waits for the first buffer with an image.

* `applyOption_mode`, `applyAll_mode`: what options do to the mode.
* `loadLines_invalid_iff`: when a config file leaves the invalid mode.
* `assertion_reached_iff`: when the program that starts to lock will run into the assertion.
-/

namespace SwaylockAuthd

open CBlock (Fault)
open Getopt

variable {σ : Type}

/-! ## Options -/

/-- The mode after an option. -/
def modeAfter (optarg : CString) (mode : BackgroundMode) : OptionCode → BackgroundMode
  | .scaling => parseBackgroundMode optarg
  | .tiling => .tile
  | _ => mode

/-- An option that writes the mode is among them. -/
def SetsMode (found : List (Found OptionCode)) : Prop :=
  ∃ optarg, Found.option .scaling optarg ∈ found ∨ Found.option .tiling optarg ∈ found

theorem applyOption_mode {env : OptionEnv σ} {given : Given} (hgiven : given.state = true)
    {optarg : CString} {p q : Parsed σ} {code : OptionCode} {status : Int}
    (h : applyOption env given optarg p code = .ok (status, q)) :
    q.args.mode = modeAfter optarg p.args.mode code := by
  cases code with
  | version => cases h
  | help =>
    obtain ⟨-, rfl⟩ := Prod.mk.inj (Except.ok.inj h)
    rfl
  | scaling =>
    rw [applyOption] at h
    simp only [hgiven, true_and] at h
    split at h
    · obtain ⟨-, rfl⟩ := Prod.mk.inj (Except.ok.inj h)
      simp [Given.setArgs, hgiven, modeAfter]
    · obtain ⟨-, rfl⟩ := Prod.mk.inj (Except.ok.inj h)
      simp [Given.setArgs, hgiven, modeAfter]
  | image =>
    rw [applyOption, if_pos hgiven] at h
    cases hload : loadImage env.toImageEnv optarg p.images with
    | error e =>
      rw [hload] at h
      cases h
    | ok images =>
      rw [hload] at h
      obtain ⟨-, rfl⟩ := Prod.mk.inj (Except.ok.inj h)
      rfl
  | config | lineUsesInside | lineUsesRing =>
    obtain ⟨-, rfl⟩ := Prod.mk.inj (Except.ok.inj h)
    simp only [modeAfter]
    split <;> rfl
  | debug =>
    obtain ⟨-, rfl⟩ := Prod.mk.inj (Except.ok.inj h)
    rfl
  | _ =>
    obtain ⟨-, rfl⟩ := Prod.mk.inj (Except.ok.inj h)
    simp [Given.setArgs, Given.setColors, hgiven, modeAfter]

/-- Without the state an option leaves the arguments alone. -/
theorem applyOption_args {env : OptionEnv σ} {given : Given} (hgiven : given.state = false)
    {optarg : CString} {p q : Parsed σ} {code : OptionCode} {status : Int}
    (h : applyOption env given optarg p code = .ok (status, q)) : q.args = p.args := by
  cases code with
  | version => cases h
  | help | debug =>
    obtain ⟨-, rfl⟩ := Prod.mk.inj (Except.ok.inj h)
    rfl
  | config | lineUsesInside | lineUsesRing =>
    obtain ⟨-, rfl⟩ := Prod.mk.inj (Except.ok.inj h)
    split <;> rfl
  | scaling | image =>
    simp only [applyOption, hgiven, Bool.false_eq_true, false_and, if_false] at h
    obtain ⟨-, rfl⟩ := Prod.mk.inj (Except.ok.inj h)
    simp [Given.setArgs, hgiven]
  | _ =>
    obtain ⟨-, rfl⟩ := Prod.mk.inj (Except.ok.inj h)
    simp [Given.setArgs, Given.setColors, hgiven]

theorem applyAll_args {env : OptionEnv σ} {given : Given} (hgiven : given.state = false)
    {found : List (Found OptionCode)} {p q : Parsed σ} {status : Int}
    (h : applyAll env given found p = .ok (status, q)) : q.args = p.args := by
  induction found generalizing p with
  | nil =>
    obtain ⟨-, rfl⟩ := Prod.mk.inj (Except.ok.inj h)
    rfl
  | cons f found ih =>
    cases f with
    | unknown | nonOption =>
      obtain ⟨-, rfl⟩ := Prod.mk.inj (Except.ok.inj h)
      rfl
    | option code optarg =>
      rw [applyAll] at h
      cases happly : applyOption env given (optarg.getD []) p code with
      | error stop =>
        rw [happly] at h
        cases h
      | ok r =>
        have hargs : r.2.args = p.args := applyOption_args hgiven happly
        rw [happly] at h
        simp only at h
        split at h
        · obtain ⟨-, rfl⟩ := Prod.mk.inj (Except.ok.inj h)
          exact hargs
        · exact (ih h).trans hargs

/-- Options that are all accepted leave the invalid mode only where it was, and where none of them
writes the mode. -/
theorem applyAll_mode {env : OptionEnv σ} {given : Given} (hgiven : given.state = true)
    {found : List (Found OptionCode)} {p q : Parsed σ}
    (h : applyAll env given found p = .ok (0, q)) :
    q.args.mode = .invalid ↔ p.args.mode = .invalid ∧ ¬ SetsMode found := by
  induction found generalizing p with
  | nil =>
    obtain ⟨-, rfl⟩ := Prod.mk.inj (Except.ok.inj h)
    simp [SetsMode]
  | cons f found ih =>
    cases f with
    | unknown | nonOption =>
      obtain ⟨hstatus, -⟩ := Prod.mk.inj (Except.ok.inj h)
      cases hstatus
    | option code optarg =>
      rw [applyAll] at h
      cases happly : applyOption env given (optarg.getD []) p code with
      | error stop =>
        rw [happly] at h
        cases h
      | ok r =>
        obtain ⟨status, p₁⟩ := r
        have hmode := applyOption_mode hgiven happly
        have hstatus := applyOption_status hgiven happly
        rw [happly] at h
        simp only at h
        split at h
        · rename_i hne
          exact absurd (Prod.mk.inj (Except.ok.inj h)).1 hne
        rename_i hzero
        rw [ih h, hmode]
        cases code with
        | scaling =>
          have hvalid : parseBackgroundMode (optarg.getD []) ≠ .invalid :=
            fun heq => hzero (hstatus.mpr (Or.inr ⟨rfl, heq⟩))
          have hsets : SetsMode (.option .scaling optarg :: found) :=
            ⟨optarg, Or.inl List.mem_cons_self⟩
          exact iff_of_false (fun hmode => hvalid hmode.1) fun hmode => hmode.2 hsets
        | tiling =>
          have hsets : SetsMode (.option .tiling optarg :: found) :=
            ⟨optarg, Or.inr List.mem_cons_self⟩
          exact iff_of_false (fun hmode => by cases hmode.1) fun hmode => hmode.2 hsets
        | _ => simp [modeAfter, SetsMode]

/-! ## Lines of the config file -/

/-- The line asks for a scaling mode that does not exist. -/
def UnknownScaling (line : CString) : Prop :=
  ∃ optarg, optionTable.long1 line = .option .scaling optarg ∧
    parseBackgroundMode (optarg.getD []) = .invalid

/-- The line is handed to `parse_options`. -/
def TakenLine (raw : List UInt8) : Prop :=
  ¬ (chomp raw = [] ∨ (chomp raw).head? = some 0 ∨ (chomp raw).head? = some 0x23)

instance (raw : List UInt8) : Decidable (TakenLine raw) := inferInstanceAs (Decidable (¬ _))

theorem cstr_ne_nil {raw : List UInt8} (h : TakenLine raw) : cstr (chomp raw) ≠ [] := by
  rw [TakenLine] at h
  cases hline : chomp raw with
  | nil => exact absurd (Or.inl hline) h
  | cons c line =>
    have hc : c ≠ 0 := by
      rintro rfl
      exact h (Or.inr (Or.inl (by rw [hline]; rfl)))
    simp [cstr, hc]

/-- What a line does to a mode that is valid. -/
theorem parseLine_mode {env : OptionEnv σ} {given : Given} (hgiven : given.state = true)
    {line : CString} (hline : line ≠ []) {p q : Parsed σ} {status : Int}
    (hp : p.args.mode ≠ .invalid)
    (h : parseOptions env given [dashed line] p = .ok (status, q)) :
    (q.args.mode = .invalid ↔ UnknownScaling line) ∧ (UnknownScaling line → status ≠ 0) := by
  rw [parseOptions_line env given hline] at h
  cases hfound : optionTable.long1 line with
  | unknown | nonOption =>
    rw [hfound] at h
    obtain ⟨-, rfl⟩ := Prod.mk.inj (Except.ok.inj h)
    simp [UnknownScaling, hfound, hp]
  | option code optarg =>
    rw [hfound, applyAll_single] at h
    have hmode := applyOption_mode hgiven h
    have hstatus := applyOption_status hgiven h
    constructor
    · rw [hmode]
      cases code with
      | scaling => simp [modeAfter, UnknownScaling, hfound]
      | tiling => simp [modeAfter, UnknownScaling, hfound]
      | _ => simp [modeAfter, UnknownScaling, hfound, hp]
    · rintro ⟨optarg', hscaling, hunknown⟩
      rw [hfound] at hscaling
      obtain ⟨rfl, rfl⟩ := Found.option.inj hscaling
      exact hstatus.mpr (Or.inr ⟨rfl, hunknown⟩)

/-- The reading of a file gets to the line with the memory that it needs, and stops there because
of its scaling mode. -/
def StopsAtScaling (env : OptionEnv σ) (calls : Nat) (raws : List (List UInt8)) (p : Parsed σ) :
    Prop :=
  ∃ before raw after r, raws = before ++ raw :: after ∧
    (∀ i ≤ (before.filter TakenLine).length, env.malloc (calls + i) = true) ∧
    loadLines env calls before p = .ok (0, r) ∧ TakenLine raw ∧ UnknownScaling (cstr (chomp raw))

section Loop

variable {env : OptionEnv σ} {calls : Nat} {raw : List UInt8} {raws : List (List UInt8)}
  {p q : Parsed σ}

theorem loadLines_skip (h : ¬ TakenLine raw) :
    loadLines env calls (raw :: raws) p = loadLines env calls raws p := by
  rw [loadLines]
  exact if_pos (not_not.mp h)

theorem loadLines_taken (h : TakenLine raw) (hmalloc : env.malloc calls = true) :
    loadLines env calls (raw :: raws) p =
      match parseOptions env configGiven [dashed (cstr (chomp raw))] p with
      | .error stop => .error stop
      | .ok (result, p) =>
        if result ≠ 0 then .ok (result, p) else loadLines env (calls + 1) raws p := by
  rw [loadLines]
  exact (if_neg h).trans (if_neg (by simp [hmalloc]))

theorem stopsAtScaling_skip (h : ¬ TakenLine raw) :
    StopsAtScaling env calls (raw :: raws) p ↔ StopsAtScaling env calls raws p := by
  constructor
  · rintro ⟨before, line, after, r, heq, hmalloc, hload, htaken, hunknown⟩
    cases before with
    | nil =>
      obtain ⟨rfl, -⟩ := List.cons.inj heq
      exact absurd htaken h
    | cons b before =>
      obtain ⟨rfl, rfl⟩ := List.cons.inj heq
      rw [List.filter_cons_of_neg (by simpa using h)] at hmalloc
      rw [loadLines_skip h] at hload
      exact ⟨before, line, after, r, rfl, hmalloc, hload, htaken, hunknown⟩
  · rintro ⟨before, line, after, r, rfl, hmalloc, hload, htaken, hunknown⟩
    refine ⟨raw :: before, line, after, r, rfl, ?_, ?_, htaken, hunknown⟩
    · rwa [List.filter_cons_of_neg (by simpa using h)]
    · rwa [loadLines_skip h]

/-- A line that is accepted puts the stop among the lines behind it. -/
theorem stopsAtScaling_accepted (h : TakenLine raw) (hmalloc : env.malloc calls = true)
    (hunknown : ¬ UnknownScaling (cstr (chomp raw)))
    (hcall : parseOptions env configGiven [dashed (cstr (chomp raw))] p = .ok (0, q)) :
    StopsAtScaling env calls (raw :: raws) p ↔ StopsAtScaling env (calls + 1) raws q := by
  have hload : ∀ lines,
      loadLines env calls (raw :: lines) p = loadLines env (calls + 1) lines q := by
    intro lines
    rw [loadLines_taken h hmalloc, hcall]
    exact if_neg (by simp)
  constructor
  · rintro ⟨before, line, after, r, heq, hmallocs, hbefore, htaken, hline⟩
    cases before with
    | nil =>
      obtain ⟨rfl, -⟩ := List.cons.inj heq
      exact absurd hline hunknown
    | cons b before =>
      obtain ⟨rfl, rfl⟩ := List.cons.inj heq
      rw [List.filter_cons_of_pos (by simpa using h), List.length_cons] at hmallocs
      rw [hload] at hbefore
      refine ⟨before, line, after, r, rfl, fun i hi => ?_, hbefore, htaken, hline⟩
      have hnext := hmallocs (i + 1) (by omega)
      rwa [show calls + (i + 1) = calls + 1 + i by omega] at hnext
  · rintro ⟨before, line, after, r, rfl, hmallocs, hbefore, htaken, hline⟩
    refine ⟨raw :: before, line, after, r, rfl, fun i hi => ?_, by rwa [hload], htaken, hline⟩
    rw [List.filter_cons_of_pos (by simpa using h), List.length_cons] at hi
    cases i with
    | zero => exact hmalloc
    | succ i =>
      have hnext := hmallocs i (by omega)
      rwa [show calls + (i + 1) = calls + 1 + i by omega]

/-- A line that is rejected is the stop itself. -/
theorem stopsAtScaling_rejected (h : TakenLine raw) (hmalloc : env.malloc calls = true)
    {status : Int} (hstatus : status ≠ 0)
    (hcall : parseOptions env configGiven [dashed (cstr (chomp raw))] p = .ok (status, q)) :
    StopsAtScaling env calls (raw :: raws) p ↔ UnknownScaling (cstr (chomp raw)) := by
  constructor
  · rintro ⟨before, line, after, r, heq, -, hbefore, -, hline⟩
    cases before with
    | nil =>
      obtain ⟨rfl, -⟩ := List.cons.inj heq
      exact hline
    | cons b before =>
      obtain ⟨rfl, rfl⟩ := List.cons.inj heq
      rw [loadLines_taken h hmalloc, hcall] at hbefore
      simp only at hbefore
      rw [if_pos hstatus] at hbefore
      exact absurd (Prod.mk.inj (Except.ok.inj hbefore)).1 hstatus
  · intro hline
    exact ⟨[], raw, raws, p, rfl, fun i hi => by rwa [Nat.le_zero.mp hi], rfl, h, hline⟩

/-- **What a config file leaves**: the invalid mode, exactly when the reading stops at a line with
an unknown one. -/
theorem loadLines_invalid_iff {status : Int} (hp : p.args.mode ≠ .invalid)
    (h : loadLines env calls raws p = .ok (status, q)) :
    q.args.mode = .invalid ↔ StopsAtScaling env calls raws p := by
  induction raws generalizing calls p with
  | nil =>
    obtain ⟨-, rfl⟩ := Prod.mk.inj (Except.ok.inj h)
    refine iff_of_false hp ?_
    rintro ⟨before, line, after, r, heq, -⟩
    simp at heq
  | cons raw raws ih =>
    by_cases htaken : TakenLine raw
    · cases hmalloc : env.malloc calls with
      | false =>
        rw [loadLines, if_neg htaken, if_pos hmalloc] at h
        obtain ⟨-, rfl⟩ := Prod.mk.inj (Except.ok.inj h)
        refine iff_of_false hp ?_
        rintro ⟨before, line, after, r, -, hmallocs, -⟩
        have hfirst := hmallocs 0 (Nat.zero_le _)
        rw [Nat.add_zero, hmalloc] at hfirst
        cases hfirst
      | true =>
        rw [loadLines_taken htaken hmalloc] at h
        cases hcall : parseOptions env configGiven [dashed (cstr (chomp raw))] p with
        | error stop =>
          rw [hcall] at h
          cases h
        | ok result =>
          obtain ⟨result, p₁⟩ := result
          obtain ⟨hmode, hrejected⟩ := parseLine_mode rfl (cstr_ne_nil htaken) hp hcall
          rw [hcall] at h
          simp only at h
          by_cases hresult : result = 0
          · subst hresult
            have hunknown : ¬ UnknownScaling (cstr (chomp raw)) := fun hline => hrejected hline rfl
            rw [if_neg (by simp)] at h
            rw [ih (hmode.not.mpr hunknown) h,
              stopsAtScaling_accepted htaken hmalloc hunknown hcall]
          · rw [if_pos hresult] at h
            obtain ⟨-, rfl⟩ := Prod.mk.inj (Except.ok.inj h)
            rw [hmode, stopsAtScaling_rejected htaken hmalloc hresult hcall]
    · rw [loadLines_skip htaken] at h
      rw [ih hp h, stopsAtScaling_skip htaken]

end Loop

/-! ## The program -/

/-- The pointers of the first pass over the command line, which looks for the config file. -/
def firstPass : Given := { state := false, lineMode := false, configPath := true }

/-- The assertion of the `switch`, for an image of any size. -/
theorem renderBackground_assertion_iff (background : UInt32) (image : BackgroundImage)
    (mode : BackgroundMode) (bufferWidth bufferHeight : Int) :
    renderBackground background (some image) mode bufferWidth bufferHeight = .error .assertion ↔
      mode = .invalid := by
  cases mode <;> simp [renderBackground, renderBackgroundImage]

/-- The second one, which writes what it finds. -/
def lastPass : Given := { state := true, lineMode := true, configPath := false }

/-- The part of `main` between them. -/
def loadFound (env : OptionEnv σ) (files : CString → Option (List UInt8)) (path : Option CString)
    (p : Parsed σ) : Except Stop (Int × Parsed σ) :=
  match path with
  | none => .ok (0, p)
  | some path => loadConfig env (files path) p

/-- What the config file leaves, where there is one. -/
theorem loadFound_invalid_iff {env : OptionEnv σ} {files : CString → Option (List UInt8)}
    {path : Option CString} {p q : Parsed σ} {status : Int} (hp : p.args.mode ≠ .invalid)
    (h : loadFound env files path p = .ok (status, q)) :
    q.args.mode = .invalid ↔ ∃ name content, path = some name ∧ files name = some content ∧
      StopsAtScaling env 0 (getlines content) p := by
  cases path with
  | none =>
    obtain ⟨-, rfl⟩ := Prod.mk.inj (Except.ok.inj h)
    simp [hp]
  | some name =>
    rw [loadFound] at h
    cases hfile : files name with
    | none =>
      rw [hfile] at h
      obtain ⟨-, rfl⟩ := Prod.mk.inj (Except.ok.inj h)
      simp [hp, hfile]
    | some content =>
      rw [hfile, loadConfig] at h
      cases hlines : loadLines env 0 (getlines content) p with
      | error stop =>
        rw [hlines] at h
        cases h
      | ok r =>
        rw [hlines] at h
        obtain ⟨-, rfl⟩ := Prod.mk.inj (Except.ok.inj h)
        rw [loadLines_invalid_iff hp (hlines : _ = Except.ok (r.1, r.2))]
        simp [hfile]

/-- What follows a part of `main` whose status is 0. -/
def unlessFailed (r : Except Stop (Int × Parsed σ))
    (next : Parsed σ → Except Stop (Int × Parsed σ)) : Except Stop (Int × Parsed σ) :=
  match r with
  | .error stop => .error stop
  | .ok (status, p) => if status ≠ 0 then .ok (status, p) else next p

theorem unlessFailed_cases {r : Except Stop (Int × Parsed σ)}
    {next : Parsed σ → Except Stop (Int × Parsed σ)} {q : Parsed σ}
    (h : unlessFailed r next = .ok (0, q)) : ∃ p, r = .ok (0, p) ∧ next p = .ok (0, q) := by
  cases r with
  | error stop => cases h
  | ok s =>
    obtain ⟨status, p⟩ := s
    by_cases hstatus : status = 0
    · subst hstatus
      exact ⟨p, rfl, by simpa [unlessFailed] using h⟩
    · rw [unlessFailed, if_pos hstatus] at h
      exact absurd (Prod.mk.inj (Except.ok.inj h)).1 hstatus

/-- The colours of the line, by the line mode. -/
def lineColors (p : Parsed σ) : Except Stop (Int × Parsed σ) :=
  match p.lineMode with
  | .line => .ok (0, p)
  | .inside => .ok (0, { p with args.colors.line := p.args.colors.inside })
  | .ring => .ok (0, { p with args.colors.line := p.args.colors.ring })

theorem lineColors_mode {p q : Parsed σ} {status : Int} (h : lineColors p = .ok (status, q)) :
    q.args.mode = p.args.mode := by
  rw [lineColors] at h
  split at h
  all_goals
    obtain ⟨-, rfl⟩ := Prod.mk.inj (Except.ok.inj h)
    rfl

/-- The second pass over the command line, and what is done to its result. -/
def readLast (env : OptionEnv σ) (words : List CString) (p : Parsed σ) :
    Except Stop (Int × Parsed σ) :=
  unlessFailed (if words = [] then .ok (0, p) else parseOptions env lastPass words p) lineColors

theorem readLast_eq (env : OptionEnv σ) (words : List CString) (p : Parsed σ) :
    readLast env words p =
      if words = [] then lineColors p
      else
        match parseOptions env lastPass words p with
        | .error stop => .error stop
        | .ok r => if r.1 ≠ 0 then .ok (r.1, r.2) else lineColors r.2 := by
  rw [readLast]
  split
  · rfl
  · cases parseOptions env lastPass words p <;> rfl

/-- `main` as the three passes, one after the other. -/
theorem readOptions_eq (env : OptionEnv σ) (files : CString → Option (List UInt8))
    (defaultPath : Option CString) (words : List CString) (p : Parsed σ) :
    readOptions env files defaultPath words p =
      unlessFailed (parseOptions env firstPass words p) fun p =>
        unlessFailed (loadFound env files (p.configPath.or defaultPath) p)
          (readLast env words) := by
  simp only [readOptions, bind, Except.bind, pure, Except.pure, ne_eq, not_true_eq_false,
    if_false]
  rw [← firstPass, ← lastPass]
  cases parseOptions env firstPass words p with
  | error stop => rfl
  | ok r =>
    refine ite_congr rfl (fun _ => rfl) fun _ => ?_
    cases r.2.configPath.or defaultPath with
    | none =>
      refine Eq.trans (ite_congr rfl (fun _ => rfl) fun _ => ?_) (readLast_eq env words r.2).symm
      cases parseOptions env lastPass words r.2 <;> rfl
    | some path =>
      simp only [loadFound]
      cases loadConfig env (files path) r.2 with
      | error stop => rfl
      | ok v =>
        refine ite_congr rfl (fun _ => rfl) fun _ => Eq.trans ?_ (readLast_eq env words v.2).symm
        refine ite_congr rfl (fun _ => rfl) fun _ => ?_
        cases parseOptions env lastPass words v.2 <;> rfl

/-- **Whether the locker will run into the assertion**, for an image of any size: the reading of
the config file has stopped at a scaling mode that does not exist, and the command line, which was
accepted, asks for none. -/
theorem assertion_reached_iff {env : OptionEnv σ} {files : CString → Option (List UInt8)}
    {defaultPath : Option CString} {words : List CString} {p q : Parsed σ}
    (hp : p.args.mode ≠ .invalid) (h : readOptions env files defaultPath words p = .ok (0, q))
    (background : UInt32) (image : BackgroundImage) (bufferWidth bufferHeight : Int) :
    renderBackground background (some image) q.args.mode bufferWidth bufferHeight =
        .error .assertion ↔
      ¬ SetsMode (optionTable.scan env.policy none words) ∧
        ∃ p₁ path content, parseOptions env firstPass words p = .ok (0, p₁) ∧
          p₁.configPath.or defaultPath = some path ∧ files path = some content ∧
          StopsAtScaling env 0 (getlines content) p₁ := by
  rw [readOptions_eq] at h
  obtain ⟨p₁, hfirst, h⟩ := unlessFailed_cases h
  obtain ⟨p₂, hload, h⟩ := unlessFailed_cases h
  obtain ⟨p₃, hlast, hline⟩ := unlessFailed_cases h
  have hargs : p₁.args = p.args := applyAll_args rfl hfirst
  have hconfig := loadFound_invalid_iff (hargs ▸ hp) hload
  have hwords : p₃.args.mode = .invalid ↔
      p₂.args.mode = .invalid ∧ ¬ SetsMode (optionTable.scan env.policy none words) := by
    by_cases hnone : words = []
    · subst hnone
      obtain ⟨-, rfl⟩ := Prod.mk.inj (Except.ok.inj hlast)
      simp [SetsMode, Table.scan]
    · rw [if_neg hnone] at hlast
      exact applyAll_mode rfl hlast
  rw [renderBackground_assertion_iff, lineColors_mode hline, hwords, hconfig, and_comm]
  refine and_congr_right fun _ => ⟨?_, ?_⟩
  · rintro ⟨path, content, hpath, hfile, hstops⟩
    exact ⟨p₁, path, content, hfirst, hpath, hfile, hstops⟩
  · rintro ⟨p₁', path, content, hfirst', hpath, hfile, hstops⟩
    obtain rfl : p₁ = p₁' := (Prod.mk.inj (Except.ok.inj (hfirst.symm.trans hfirst'))).2
    exact ⟨path, content, hpath, hfile, hstops⟩

/-- A config file with a mode that does not exist, and no options. -/
theorem assertion_reached_typo :
    ∃ q, readOptions plainOptionEnv (fun _ => some (ascii "scaling=full\n"))
        (some (ascii "config")) [] {} = .ok (0, q) ∧
      renderBackground 0xA3A3A3FF (some ⟨2, 1, true⟩) q.args.mode 4 4 = .error .assertion := by
  have hread : readOptions plainOptionEnv (fun _ => some (ascii "scaling=full\n"))
      (some (ascii "config")) [] {} = .ok (0, { args := { mode := .invalid } }) := rfl
  refine ⟨_, hread,
    (assertion_reached_iff (by decide) hread 0xA3A3A3FF ⟨2, 1, true⟩ 4 4).mpr ⟨?_, ?_⟩⟩
  · rintro ⟨optarg, h | h⟩ <;> cases h
  · exact ⟨{}, ascii "config", _, rfl, rfl, rfl, [], ascii "scaling=full\n", [], {}, rfl,
      fun _ _ => rfl, rfl, by decide, some (ascii "full"), by decide, by decide⟩

end SwaylockAuthd
