import SwaylockAuthd.Color
import SwaylockAuthd.ImageWords
import SwaylockAuthd.Lib.Getopt
import SwaylockAuthd.Log

/-!
# `main.c`: the options

`parse_options` goes through the words of a command line and writes what they say to the state, the
line mode and the path of the config file, as far as it is given pointers to them.

* `longOptions`, `shortOptions`: the tables it hands to `getopt_long`.
* `applyOption`: what one option does.  `parseOptions`: all of them, up to one that is rejected.
* `parseOptions_line`: the one option of a word with two dashes.
* `rejects_iff`: when it is rejected, which depends on the word alone.
-/

namespace SwaylockAuthd

open CBlock Getopt

variable {σ : Type}

/-! ## The records -/

/-- `struct swaylock_colorset`. -/
structure SwaylockColorset where
  input : UInt32
  cleared : UInt32
  capsLock : UInt32
  verifying : UInt32
  wrong : UInt32
  deriving DecidableEq, Repr

/-- `struct swaylock_colors`, with the values of `set_default_colors`. -/
structure SwaylockColors where
  background : UInt32 := 0xA3A3A3FF
  bsHighlight : UInt32 := 0xDB3300FF
  keyHighlight : UInt32 := 0x33DB00FF
  capsLockBsHighlight : UInt32 := 0xDB3300FF
  capsLockKeyHighlight : UInt32 := 0x33DB00FF
  separator : UInt32 := 0x000000FF
  layoutBackground : UInt32 := 0x000000C0
  layoutBorder : UInt32 := 0x00000000
  layoutText : UInt32 := 0xFFFFFFFF
  inside : SwaylockColorset := ⟨0x000000C0, 0xE5A445C0, 0x000000C0, 0x0072FFC0, 0xFA0000C0⟩
  line : SwaylockColorset := ⟨0x000000FF, 0x000000FF, 0x000000FF, 0x000000FF, 0x000000FF⟩
  ring : SwaylockColorset := ⟨0x337D00FF, 0xE5A445FF, 0xE5A445FF, 0x3300FFFF, 0x7D3300FF⟩
  text : SwaylockColorset := ⟨0xE5A445FF, 0x000000FF, 0xE5A445FF, 0x000000FF, 0x000000FF⟩
  deriving DecidableEq, Repr

/-- `enum background_mode`. -/
inductive BackgroundMode
  | stretch
  | fill
  | fit
  | center
  | tile
  | solidColor
  | invalid
  deriving DecidableEq, Repr

/-- `parse_background_mode`. -/
def parseBackgroundMode (mode : CString) : BackgroundMode :=
  if mode = ascii "stretch" then .stretch
  else if mode = ascii "fill" then .fill
  else if mode = ascii "fit" then .fit
  else if mode = ascii "center" then .center
  else if mode = ascii "tile" then .tile
  else if mode = ascii "solid_color" then .solidColor
  else .invalid

/-- `struct swaylock_args`, with the values that `main` starts from. -/
structure ParsedArgs extends SwaylockArgs where
  colors : SwaylockColors := {}
  mode : BackgroundMode := .fill
  font : CString := ascii "sans-serif"
  fontSize : UInt32 := 0
  radius : UInt32 := 50
  thickness : UInt32 := 10
  indicatorXPosition : UInt32 := 0
  indicatorYPosition : UInt32 := 0
  overrideIndicatorXPosition : Bool := false
  overrideIndicatorYPosition : Bool := false
  showIndicator : Bool := true
  showCapsLockText : Bool := true
  showCapsLockIndicator : Bool := false
  showKeyboardLayout : Bool := false
  hideKeyboardLayout : Bool := false
  showFailedAttempts : Bool := false
  daemonize : Bool := false
  readyFd : Int := -1
  indicatorIdleVisible : Bool := false
  deriving DecidableEq, Repr

/-- `enum line_mode`. -/
inductive LineMode
  | line
  | inside
  | ring
  deriving DecidableEq, Repr

/-- What `parse_options` can write to: the state, the line mode, the path of the config file, and
the importance of the log. -/
structure Parsed (σ : Type) where
  args : ParsedArgs := {}
  images : List (SwaylockImage σ) := []
  lineMode : LineMode := .line
  configPath : Option CString := none
  logImportance : LogImportance := .error
  deriving DecidableEq

/-- Which of its pointers are not `NULL`. -/
structure Given where
  state : Bool
  lineMode : Bool
  configPath : Bool
  deriving DecidableEq, Repr

/-! ## The tables -/

/-- What `getopt_long` returns: the letters and the `long_option_codes`, under their long names. -/
inductive OptionCode
  | config
  | color
  | debug
  | ignoreEmptyPassword
  | daemonize
  | readyFd
  | help
  | image
  | disableCapsLockText
  | indicatorCapsLock
  | lineUsesInside
  | lineUsesRing
  | scaling
  | tiling
  | noUnlockIndicator
  | showKeyboardLayout
  | hideKeyboardLayout
  | showFailedAttempts
  | version
  | bsHlColor
  | capsLockBsHlColor
  | capsLockKeyHlColor
  | font
  | fontSize
  | indIdleVisible
  | indRadius
  | indThickness
  | indXPosition
  | indYPosition
  | insideColor
  | insideClearColor
  | insideCapsLockColor
  | insideVerColor
  | insideWrongColor
  | keyHlColor
  | layoutBgColor
  | layoutBorderColor
  | layoutTxtColor
  | lineColor
  | lineClearColor
  | lineCapsLockColor
  | lineVerColor
  | lineWrongColor
  | ringColor
  | ringClearColor
  | ringCapsLockColor
  | ringVerColor
  | ringWrongColor
  | sepColor
  | textColor
  | textClearColor
  | textCapsLockColor
  | textVerColor
  | textWrongColor
  | stealUnlock
  deriving DecidableEq, Repr

/-- `long_options`. -/
def longOptions : List (LongOption OptionCode) := [
  ⟨ascii "config", true, .config⟩,
  ⟨ascii "color", true, .color⟩,
  ⟨ascii "debug", false, .debug⟩,
  ⟨ascii "ignore-empty-password", false, .ignoreEmptyPassword⟩,
  ⟨ascii "daemonize", false, .daemonize⟩,
  ⟨ascii "ready-fd", true, .readyFd⟩,
  ⟨ascii "help", false, .help⟩,
  ⟨ascii "image", true, .image⟩,
  ⟨ascii "disable-caps-lock-text", false, .disableCapsLockText⟩,
  ⟨ascii "indicator-caps-lock", false, .indicatorCapsLock⟩,
  ⟨ascii "line-uses-inside", false, .lineUsesInside⟩,
  ⟨ascii "line-uses-ring", false, .lineUsesRing⟩,
  ⟨ascii "scaling", true, .scaling⟩,
  ⟨ascii "tiling", false, .tiling⟩,
  ⟨ascii "no-unlock-indicator", false, .noUnlockIndicator⟩,
  ⟨ascii "show-keyboard-layout", false, .showKeyboardLayout⟩,
  ⟨ascii "hide-keyboard-layout", false, .hideKeyboardLayout⟩,
  ⟨ascii "show-failed-attempts", false, .showFailedAttempts⟩,
  ⟨ascii "version", false, .version⟩,
  ⟨ascii "bs-hl-color", true, .bsHlColor⟩,
  ⟨ascii "caps-lock-bs-hl-color", true, .capsLockBsHlColor⟩,
  ⟨ascii "caps-lock-key-hl-color", true, .capsLockKeyHlColor⟩,
  ⟨ascii "font", true, .font⟩,
  ⟨ascii "font-size", true, .fontSize⟩,
  ⟨ascii "indicator-idle-visible", false, .indIdleVisible⟩,
  ⟨ascii "indicator-radius", true, .indRadius⟩,
  ⟨ascii "indicator-thickness", true, .indThickness⟩,
  ⟨ascii "indicator-x-position", true, .indXPosition⟩,
  ⟨ascii "indicator-y-position", true, .indYPosition⟩,
  ⟨ascii "inside-color", true, .insideColor⟩,
  ⟨ascii "inside-clear-color", true, .insideClearColor⟩,
  ⟨ascii "inside-caps-lock-color", true, .insideCapsLockColor⟩,
  ⟨ascii "inside-ver-color", true, .insideVerColor⟩,
  ⟨ascii "inside-wrong-color", true, .insideWrongColor⟩,
  ⟨ascii "key-hl-color", true, .keyHlColor⟩,
  ⟨ascii "layout-bg-color", true, .layoutBgColor⟩,
  ⟨ascii "layout-border-color", true, .layoutBorderColor⟩,
  ⟨ascii "layout-text-color", true, .layoutTxtColor⟩,
  ⟨ascii "line-color", true, .lineColor⟩,
  ⟨ascii "line-clear-color", true, .lineClearColor⟩,
  ⟨ascii "line-caps-lock-color", true, .lineCapsLockColor⟩,
  ⟨ascii "line-ver-color", true, .lineVerColor⟩,
  ⟨ascii "line-wrong-color", true, .lineWrongColor⟩,
  ⟨ascii "ring-color", true, .ringColor⟩,
  ⟨ascii "ring-clear-color", true, .ringClearColor⟩,
  ⟨ascii "ring-caps-lock-color", true, .ringCapsLockColor⟩,
  ⟨ascii "ring-ver-color", true, .ringVerColor⟩,
  ⟨ascii "ring-wrong-color", true, .ringWrongColor⟩,
  ⟨ascii "separator-color", true, .sepColor⟩,
  ⟨ascii "text-color", true, .textColor⟩,
  ⟨ascii "text-clear-color", true, .textClearColor⟩,
  ⟨ascii "text-caps-lock-color", true, .textCapsLockColor⟩,
  ⟨ascii "text-ver-color", true, .textVerColor⟩,
  ⟨ascii "text-wrong-color", true, .textWrongColor⟩,
  ⟨ascii "steal-unlock", false, .stealUnlock⟩]

/-- The short options `c:deFfhi:kKLlnrs:tuvC:R:`. -/
def shortOptions : List (UInt8 × OptionCode × Bool) := [
  (0x63, .color, true), (0x64, .debug, false), (0x65, .ignoreEmptyPassword, false),
  (0x46, .showFailedAttempts, false), (0x66, .daemonize, false), (0x68, .help, false),
  (0x69, .image, true), (0x6B, .showKeyboardLayout, false), (0x4B, .hideKeyboardLayout, false),
  (0x4C, .disableCapsLockText, false), (0x6C, .indicatorCapsLock, false),
  (0x6E, .lineUsesInside, false), (0x72, .lineUsesRing, false), (0x73, .scaling, true),
  (0x74, .tiling, false), (0x75, .noUnlockIndicator, false), (0x76, .version, false),
  (0x43, .config, true), (0x52, .readyFd, true)]

def optionTable : Table OptionCode where
  long := longOptions
  short c := (shortOptions.find? fun o => o.1 = c).map Prod.snd

/-! ## The switch -/

/-- Why `parse_options` does not return. -/
inductive Stop
  | exitSuccess
  | fault (e : Fault)
  deriving DecidableEq, Repr

/-- The conversion of an `int` or a `long` to `uint32_t`. -/
def toUint32 (n : Int) : UInt32 := UInt32.ofNat (n % 2 ^ 32).toNat

/-- What the options meet: the images, the words that are no options, and whether the n-th `malloc`
of `load_config` succeeds. -/
structure OptionEnv (σ : Type) extends ImageEnv σ where
  policy : Policy := .permute
  malloc : Nat → Bool := fun _ => true

/-- `if (state)` in front of an assignment. -/
def Given.setArgs (given : Given) (p : Parsed σ) (f : ParsedArgs → ParsedArgs) : Parsed σ :=
  if given.state then { p with args := f p.args } else p

def Given.setColors (given : Given) (p : Parsed σ) (f : SwaylockColors → SwaylockColors) :
    Parsed σ :=
  given.setArgs p fun args => { args with colors := f args.colors }

/-- An option that `parse_options` goes on after. -/
def accept (p : Parsed σ) : Except Stop (Int × Parsed σ) := .ok (0, p)

/-- The `switch`: the status is 1 where the code returns it. -/
def applyOption (env : OptionEnv σ) (given : Given) (optarg : CString) (p : Parsed σ) :
    OptionCode → Except Stop (Int × Parsed σ)
  | .config => accept (if given.configPath then { p with configPath := some optarg } else p)
  | .color => accept (given.setColors p fun c => { c with background := parseColor optarg })
  | .debug => accept { p with logImportance := .debug }
  | .ignoreEmptyPassword => accept (given.setArgs p fun a => { a with ignoreEmpty := true })
  | .showFailedAttempts => accept (given.setArgs p fun a => { a with showFailedAttempts := true })
  | .daemonize => accept (given.setArgs p fun a => { a with daemonize := true })
  | .readyFd =>
    accept (given.setArgs p fun a =>
      { a with readyFd := CInt.word 32 (Numeral.strtol 10 optarg) })
  | .image =>
    if given.state then
      match loadImage env.toImageEnv optarg p.images with
      | .ok images => accept { p with images }
      | .error e => .error (.fault e)
    else accept p
  | .showKeyboardLayout => accept (given.setArgs p fun a => { a with showKeyboardLayout := true })
  | .hideKeyboardLayout => accept (given.setArgs p fun a => { a with hideKeyboardLayout := true })
  | .disableCapsLockText => accept (given.setArgs p fun a => { a with showCapsLockText := false })
  | .indicatorCapsLock =>
    accept (given.setArgs p fun a => { a with showCapsLockIndicator := true })
  | .lineUsesInside => accept (if given.lineMode then { p with lineMode := .inside } else p)
  | .lineUsesRing => accept (if given.lineMode then { p with lineMode := .ring } else p)
  | .scaling =>
    let p' := given.setArgs p fun a => { a with mode := parseBackgroundMode optarg }
    if given.state = true ∧ parseBackgroundMode optarg = .invalid then .ok (1, p') else accept p'
  | .tiling => accept (given.setArgs p fun a => { a with mode := .tile })
  | .noUnlockIndicator => accept (given.setArgs p fun a => { a with showIndicator := false })
  | .version => .error .exitSuccess
  | .bsHlColor => accept (given.setColors p fun c => { c with bsHighlight := parseColor optarg })
  | .capsLockBsHlColor =>
    accept (given.setColors p fun c => { c with capsLockBsHighlight := parseColor optarg })
  | .capsLockKeyHlColor =>
    accept (given.setColors p fun c => { c with capsLockKeyHighlight := parseColor optarg })
  | .font => accept (given.setArgs p fun a => { a with font := optarg })
  | .fontSize =>
    accept (given.setArgs p fun a => { a with fontSize := toUint32 (Numeral.atoi optarg) })
  | .indIdleVisible => accept (given.setArgs p fun a => { a with indicatorIdleVisible := true })
  | .indRadius =>
    accept (given.setArgs p fun a => { a with radius := toUint32 (Numeral.strtol 0 optarg) })
  | .indThickness =>
    accept (given.setArgs p fun a => { a with thickness := toUint32 (Numeral.strtol 0 optarg) })
  | .indXPosition =>
    accept (given.setArgs p fun a =>
      { a with
        overrideIndicatorXPosition := true
        indicatorXPosition := toUint32 (Numeral.atoi optarg) })
  | .indYPosition =>
    accept (given.setArgs p fun a =>
      { a with
        overrideIndicatorYPosition := true
        indicatorYPosition := toUint32 (Numeral.atoi optarg) })
  | .insideColor => accept (given.setColors p fun c => { c with inside.input := parseColor optarg })
  | .insideClearColor =>
    accept (given.setColors p fun c => { c with inside.cleared := parseColor optarg })
  | .insideCapsLockColor =>
    accept (given.setColors p fun c => { c with inside.capsLock := parseColor optarg })
  | .insideVerColor =>
    accept (given.setColors p fun c => { c with inside.verifying := parseColor optarg })
  | .insideWrongColor =>
    accept (given.setColors p fun c => { c with inside.wrong := parseColor optarg })
  | .keyHlColor => accept (given.setColors p fun c => { c with keyHighlight := parseColor optarg })
  | .layoutBgColor =>
    accept (given.setColors p fun c => { c with layoutBackground := parseColor optarg })
  | .layoutBorderColor =>
    accept (given.setColors p fun c => { c with layoutBorder := parseColor optarg })
  | .layoutTxtColor =>
    accept (given.setColors p fun c => { c with layoutText := parseColor optarg })
  | .lineColor => accept (given.setColors p fun c => { c with line.input := parseColor optarg })
  | .lineClearColor =>
    accept (given.setColors p fun c => { c with line.cleared := parseColor optarg })
  | .lineCapsLockColor =>
    accept (given.setColors p fun c => { c with line.capsLock := parseColor optarg })
  | .lineVerColor =>
    accept (given.setColors p fun c => { c with line.verifying := parseColor optarg })
  | .lineWrongColor =>
    accept (given.setColors p fun c => { c with line.wrong := parseColor optarg })
  | .ringColor => accept (given.setColors p fun c => { c with ring.input := parseColor optarg })
  | .ringClearColor =>
    accept (given.setColors p fun c => { c with ring.cleared := parseColor optarg })
  | .ringCapsLockColor =>
    accept (given.setColors p fun c => { c with ring.capsLock := parseColor optarg })
  | .ringVerColor =>
    accept (given.setColors p fun c => { c with ring.verifying := parseColor optarg })
  | .ringWrongColor =>
    accept (given.setColors p fun c => { c with ring.wrong := parseColor optarg })
  | .sepColor => accept (given.setColors p fun c => { c with separator := parseColor optarg })
  | .textColor => accept (given.setColors p fun c => { c with text.input := parseColor optarg })
  | .textClearColor =>
    accept (given.setColors p fun c => { c with text.cleared := parseColor optarg })
  | .textCapsLockColor =>
    accept (given.setColors p fun c => { c with text.capsLock := parseColor optarg })
  | .textVerColor =>
    accept (given.setColors p fun c => { c with text.verifying := parseColor optarg })
  | .textWrongColor =>
    accept (given.setColors p fun c => { c with text.wrong := parseColor optarg })
  | .stealUnlock => accept (given.setArgs p fun a => { a with stealUnlock := true })
  -- the `default:` of the switch, which prints the usage
  | .help => .ok (1, p)

/-- The loop of `parse_options`: it returns at the first option that is rejected. -/
def applyAll (env : OptionEnv σ) (given : Given) :
    List (Found OptionCode) → Parsed σ → Except Stop (Int × Parsed σ)
  | [], p => .ok (0, p)
  | .option code optarg :: found, p =>
    match applyOption env given (optarg.getD []) p code with
    | .error stop => .error stop
    | .ok (status, p) => if status ≠ 0 then .ok (status, p) else applyAll env given found p
  | .nonOption _ :: _, p => .ok (1, p)
  | .unknown :: _, p => .ok (1, p)

/-- `parse_options`, on the words behind the name of the program. -/
def parseOptions (env : OptionEnv σ) (given : Given) (words : List CString) (p : Parsed σ) :
    Except Stop (Int × Parsed σ) :=
  applyAll env given (optionTable.scan env.policy none words) p

/-! ## One word with two dashes -/

/-- An option with two dashes in front. -/
def dashed (word : CString) : CString := 0x2D :: 0x2D :: word

theorem parseOptions_line (env : OptionEnv σ) (given : Given) {word : CString} (h : word ≠ [])
    (p : Parsed σ) :
    parseOptions env given [dashed word] p = applyAll env given [optionTable.long1 word] p := by
  rw [parseOptions, dashed, Table.scan_long _ _ h]

/-- The option of the word is none, asks for help, or is an image scaling that does not exist. -/
def rejects (word : CString) : Bool :=
  match optionTable.long1 word with
  | .option .help _ => true
  | .option .scaling optarg => parseBackgroundMode (optarg.getD []) = .invalid
  | .option _ _ => false
  | .nonOption _ => true
  | .unknown => true

theorem applyAll_single (env : OptionEnv σ) (given : Given) (code : OptionCode)
    (optarg : Option CString) (p : Parsed σ) :
    applyAll env given [.option code optarg] p =
      applyOption env given (optarg.getD []) p code := by
  rw [applyAll]
  cases applyOption env given (optarg.getD []) p code with
  | error stop => rfl
  | ok r =>
    obtain ⟨status, q⟩ := r
    by_cases hstatus : status = 0
    · subst hstatus
      rfl
    · simp [hstatus]

/-- The options that end the call: help, and an image scaling that does not exist. -/
theorem applyOption_status {env : OptionEnv σ} {given : Given} (hgiven : given.state = true)
    {optarg : CString} {p q : Parsed σ} {code : OptionCode} {status : Int}
    (happly : applyOption env given optarg p code = .ok (status, q)) :
    status ≠ 0 ↔ code = .help ∨ code = .scaling ∧ parseBackgroundMode optarg = .invalid := by
  cases code with
  | help =>
    obtain ⟨rfl, -⟩ := Prod.mk.inj (Except.ok.inj happly)
    simp
  | version => cases happly
  | scaling =>
    rw [applyOption] at happly
    simp only [hgiven, true_and] at happly
    split at happly
    · rename_i hmode
      obtain ⟨rfl, -⟩ := Prod.mk.inj (Except.ok.inj happly)
      simp [hmode]
    · rename_i hmode
      obtain ⟨rfl, -⟩ := Prod.mk.inj (Except.ok.inj happly)
      simp [hmode]
  | image =>
    rw [applyOption, if_pos hgiven] at happly
    cases hload : loadImage env.toImageEnv optarg p.images with
    | error e =>
      rw [hload] at happly
      cases happly
    | ok images =>
      rw [hload] at happly
      obtain ⟨rfl, -⟩ := Prod.mk.inj (Except.ok.inj happly)
      simp
  | _ =>
    obtain ⟨rfl, -⟩ := Prod.mk.inj (Except.ok.inj happly)
    simp

/-- **When a word is rejected**, by a call that is given the state. -/
theorem rejects_iff {env : OptionEnv σ} {given : Given} (hgiven : given.state = true)
    {word : CString} (h : word ≠ []) {p q : Parsed σ} {status : Int}
    (hcall : parseOptions env given [dashed word] p = .ok (status, q)) :
    status ≠ 0 ↔ rejects word = true := by
  rw [parseOptions_line env given h] at hcall
  rw [rejects]
  cases hfound : optionTable.long1 word with
  | unknown =>
    rw [hfound] at hcall
    obtain ⟨rfl, -⟩ := Prod.mk.inj (Except.ok.inj hcall)
    simp
  | nonOption w =>
    rw [hfound] at hcall
    obtain ⟨rfl, -⟩ := Prod.mk.inj (Except.ok.inj hcall)
    simp
  | option code optarg =>
    rw [hfound, applyAll_single] at hcall
    rw [applyOption_status hgiven hcall]
    cases code with
    | help => simp
    | scaling => simp
    | _ => simp

/-- A word that is rejected is rejected with status 1, whatever the state. -/
theorem parseOptions_of_rejects (env : OptionEnv σ) {given : Given} (hgiven : given.state = true)
    {word : CString} (h : word ≠ []) (hrejects : rejects word = true) (p : Parsed σ) :
    ∃ q, parseOptions env given [dashed word] p = .ok (1, q) := by
  rw [parseOptions_line env given h]
  rw [rejects] at hrejects
  cases hfound : optionTable.long1 word with
  | unknown => exact ⟨p, rfl⟩
  | nonOption w => exact ⟨p, rfl⟩
  | option code optarg =>
    rw [hfound] at hrejects
    cases code with
    | help => exact ⟨p, rfl⟩
    | scaling =>
      have hmode : parseBackgroundMode (optarg.getD []) = .invalid := by simpa using hrejects
      refine ⟨given.setArgs p fun a => { a with mode := .invalid }, ?_⟩
      rw [applyAll_single, applyOption]
      simp [hgiven, hmode]
    | _ => cases hrejects

end SwaylockAuthd
