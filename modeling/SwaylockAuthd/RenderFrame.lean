import Mathlib.Algebra.Order.Ring.Rat
import Mathlib.Tactic.Linarith
import SwaylockAuthd.Lists

/-!
# `render_frame`: sizing and drawing

`render_frame` first computes the size of the buffer, and with it the space of every element, and
then draws into it.  The two passes have their own conditions.  The fonts, `qrencode` and the keymap
are parameters; a `double` is a rational number and an `int` an integer.  Colours are left out.

* `sizing`: the first pass.  `labelBoxH_pos`, `buttonBoxH_pos`, `errorH_pos`: when it reserves
  space.
* `drawing`: the second pass.  `drawing_qrcode`, `drawing_indicator`, `drawing_idle`: its branches.
* `renderFrame`: what is committed to the child surface.
* `mem_shownAs_label`, `mem_shownAs_button`, `mem_shownAs_error`: what is shown, and when.
-/

namespace SwaylockAuthd

/-! ## What `render_frame` is given -/

/-- The fields of `struct swaylock_args` it reads. -/
structure IndicatorArgs where
  radius : Nat := 50
  thickness : Nat := 10
  indicatorXPosition : Int := 0
  indicatorYPosition : Int := 0
  overrideIndicatorXPosition : Bool := false
  overrideIndicatorYPosition : Bool := false
  showIndicator : Bool := true
  showCapsLockText : Bool := true
  showKeyboardLayout : Bool := false
  hideKeyboardLayout : Bool := false
  showFailedAttempts : Bool := false
  indicatorIdleVisible : Bool := false
  deriving DecidableEq, Repr

/-- `cairo_font_extents_t`. -/
structure FontExtents where
  height : ℚ
  descent : ℚ
  nonneg : 0 ≤ height

/-- `cairo_text_extents_t`. -/
structure TextExtents where
  width : ℚ
  xBearing : ℚ

/-- `QRcode`: a module is dark when the low bit of its byte is set. -/
structure QRcode where
  width : Nat
  data : Nat → UInt8

/-- What libxkbcommon tells of the keymap and its state. -/
structure XkbKeymap where
  numLayouts : Nat
  layoutIndexIsActive : Nat → Bool
  layoutGetName : Nat → Option CString

/-- The surface and the libraries.  Without `HAVE_QRENCODE` no string is encoded. -/
structure DrawEnv where
  width : Nat
  height : Nat
  scale : Nat
  scale_pos : 0 < scale
  fontExtents : FontExtents
  textExtents : CString → TextExtents
  encodeString : CString → Option QRcode
  keymap : Option XkbKeymap

/-- The conversion of a `double` to an `int`. -/
def truncate (q : ℚ) : Int := q.num.tdiv q.den

namespace DrawEnv

variable (env : DrawEnv)

def boxPadding : ℚ := 4 * env.scale

/-- The height of a box around a line of text. -/
def boxHeight : ℚ := env.fontExtents.height + 2 * env.boxPadding

/-- The width of a box around a text. -/
def boxWidth (text : CString) : ℚ := (env.textExtents text).width + 2 * env.boxPadding

theorem boxPadding_pos : 0 < env.boxPadding := by
  have hscale : (0 : ℚ) < env.scale := Nat.cast_pos.mpr env.scale_pos
  rw [boxPadding]
  linarith

theorem boxHeight_pos : 0 < env.boxHeight := by
  have hpad := env.boxPadding_pos
  have hheight := env.fontExtents.nonneg
  rw [boxHeight]
  linarith

end DrawEnv

/-- A string that is not `NULL` and not empty. -/
def shownText (text : Option CString) : Option CString := text.filter fun t => t ≠ []

theorem shownText_eq_some {text : Option CString} {t : CString} :
    shownText text = some t ↔ text = some t ∧ t ≠ [] := by
  simp [shownText, Option.filter_eq_some_iff]

/-! ## The texts -/

variable (env : DrawEnv) (args : IndicatorArgs) (s : SwaylockState)

/-- `draw_indicator`. -/
def drawIndicator : Bool :=
  args.showIndicator &&
    (s.authState ≠ .idle || s.inputState ≠ .idle || args.indicatorIdleVisible)

/-- `is_qrcode`. -/
def isQrcode : Bool :=
  s.authdActive && s.authdStage = .challenge && s.authdLayout.type = some (ascii "qrcode")

/-- `text`. -/
def indicatorText : Option CString :=
  if drawIndicator args s then
    if s.inputState = .clear then some (ascii "Cleared")
    else if s.authState = .validating then some (ascii "Verifying")
    else if s.authState = .invalid then some (ascii "Wrong")
    else if s.xkb.capsLock ∧ args.showCapsLockText then some (ascii "Caps Lock")
    else if args.showFailedAttempts ∧ 0 < s.failedAttempts then
      if 999 < s.failedAttempts then some (ascii "999+")
      else some (ascii (toString s.failedAttempts))
    else none
  else none

/-- The first active layout; the number of layouts if there is none. -/
def XkbKeymap.currLayout (k : XkbKeymap) : Nat :=
  ((List.range k.numLayouts).find? k.layoutIndexIsActive).getD k.numLayouts

/-- `layout_text`, also that of the sizing pass, which drops it beside a QR code. -/
def layoutText : Option CString :=
  if drawIndicator args s ∧ s.inputState ≠ .clear ∧ s.authState = .idle ∧ ¬ isQrcode s then
    env.keymap.bind fun k =>
      if ¬ args.hideKeyboardLayout ∧ (args.showKeyboardLayout ∨ 1 < k.numLayouts) then
        k.layoutGetName k.currLayout
      else none
  else none

/-- `qrcode`. -/
def encodedQrcode : Option QRcode :=
  if isQrcode s then s.authdLayout.qrContent.bind env.encodeString else none

/-! ## Sizing -/

def arcRadius : Int := args.radius * env.scale

def arcThickness : Int := args.thickness * env.scale

def bufferDiameter : Int := (arcRadius env args + arcThickness env args) * 2

/-- The CHALLENGE stage of authd. -/
def Challenging : Prop := s.authdActive = true ∧ s.authdStage = .challenge

instance : Decidable (Challenging s) := inferInstanceAs (Decidable (_ ∧ _))

/-- A buffer at least as wide as a text. -/
def widen (bufferWidth : Int) (width : ℚ) : Int :=
  if bufferWidth < truncate width then truncate width else bufferWidth

/-- The size for a QR code and the code below it. -/
def qrcodeSize (size : Int × Int) : Int × Int :=
  let qrcode := encodedQrcode env s
  let size :=
    match qrcode with
    | some qr => ((qr.width * 4 * env.scale : Nat), ((qr.width * 4 * env.scale : Nat) : Int))
    | none => size
  match shownText s.authdLayout.qrCode with
  | some code =>
    (if qrcode.isSome then size.1 else widen size.1 (env.boxWidth code),
      size.2 + truncate env.boxHeight)
  | none => size

/-- The size for the texts of the ring; without a cast the comparison is that of `double`. -/
def ringSize (size : Int × Int) : Int × Int :=
  let size :=
    match indicatorText args s with
    | some text =>
      let width := (env.textExtents text).width
      (if (size.1 : ℚ) < width then truncate width else size.1, size.2)
    | none => size
  match layoutText env args s with
  | some text =>
    (if (size.1 : ℚ) < env.boxWidth text then truncate (env.boxWidth text) else size.1,
      truncate (size.2 + env.boxHeight))
  | none => size

/-- The label, unless the layout is a QR code. -/
def labelText : Option CString := if isQrcode s then none else shownText s.authdLayout.label

/-- The text of the button, unless the layout is a QR code. -/
def buttonText : Option CString := if isQrcode s then none else shownText s.authdLayout.button

/-- `label_box_h`. -/
def labelBoxH : ℚ :=
  if Challenging s ∧ (labelText s).isSome then env.boxHeight else 0

/-- `button_box_h`. -/
def buttonBoxH : ℚ :=
  if Challenging s ∧ (buttonText s).isSome then env.boxHeight else 0

/-- `error_h`. -/
def errorH : ℚ :=
  if Challenging s ∧ (shownText s.authdError).isSome then
    env.fontExtents.height + env.boxPadding
  else 0

/-- The space of an element of the CHALLENGE stage. -/
def reserve (text : Option CString) (height : ℚ) (width : CString → ℚ) (size : Int × Int) :
    Int × Int :=
  match text with
  | some t => (widen size.1 (width t), size.2 + truncate height)
  | none => size

/-- `buffer_width` and `buffer_height`; they become multiples of the scale. -/
def bufferSize : Int × Int :=
  let size := (bufferDiameter env args, bufferDiameter env args)
  let size := if isQrcode s then qrcodeSize env s size else ringSize env args s size
  let size :=
    if Challenging s then
      let size := reserve (labelText s) (labelBoxH env s) env.boxWidth size
      let size := reserve (buttonText s) (buttonBoxH env s) env.boxWidth size
      reserve (shownText s.authdError) (errorH env s) (fun t => (env.textExtents t).width) size
    else size
  (size.1 + (env.scale - size.1.tmod env.scale), size.2 + (env.scale - size.2.tmod env.scale))

/-- What the sizing pass hands to the drawing pass. -/
structure Sizing where
  bufferWidth : Int
  bufferHeight : Int
  labelBoxH : ℚ
  buttonBoxH : ℚ
  errorH : ℚ

def sizing : Sizing :=
  let size := bufferSize env args s
  { bufferWidth := size.1, bufferHeight := size.2, labelBoxH := labelBoxH env s
    buttonBoxH := buttonBoxH env s, errorH := errorH env s }

@[simp] theorem sizing_labelBoxH : (sizing env args s).labelBoxH = labelBoxH env s := rfl

@[simp] theorem sizing_buttonBoxH : (sizing env args s).buttonBoxH = buttonBoxH env s := rfl

@[simp] theorem sizing_errorH : (sizing env args s).errorH = errorH env s := rfl

/-- The position of the subsurface. -/
def subsurfacePosition (z : Sizing) : Int × Int :=
  let x : Int := if args.overrideIndicatorXPosition then args.indicatorXPosition else env.width / 2
  let y : Int :=
    if args.overrideIndicatorYPosition then args.indicatorYPosition else env.height / 2
  if isQrcode s then
    (x - z.bufferWidth.tdiv (2 * env.scale), y - z.bufferHeight.tdiv (2 * env.scale))
  else
    (x - z.bufferWidth.tdiv (2 * env.scale) + 2 / env.scale,
      y - (args.radius + args.thickness : Nat) - truncate (z.labelBoxH / env.scale))

/-! ## Drawing -/

/-- The calls of `cairo_show_text`. -/
inductive Element
  | qrCode
  | label
  | text
  | layout
  | button
  | error
  deriving DecidableEq, Repr

/-- What is drawn; a button is a rectangle with round corners. -/
inductive Drawing
  | rectangle (x y width height : ℚ)
  | modules (x moduleSize : Int) (dark : List (Nat × Nat))
  | disc (x y radius : Int)
  | ring (x y radius lineWidth : Int)
  | highlight (x y radius : Int) (start : Nat)
  | button (x y width height corner : ℚ)
  | text (element : Element) (x y : ℚ) (text : CString)

/-- The dark modules of a QR code. -/
def QRcode.dark (qr : QRcode) : List (Nat × Nat) :=
  (List.range qr.width).flatMap fun row =>
    ((List.range qr.width).filter fun col =>
      qr.data (row * qr.width + col) &&& 1 ≠ 0).map fun col => (row, col)

/-- The x of a text in the middle of the buffer. -/
def centred (z : Sizing) (text : CString) : ℚ :=
  (z.bufferWidth - (env.textExtents text).width) / 2 - (env.textExtents text).xBearing

/-- The baseline of a text under a y. -/
def baseline (y : ℚ) : ℚ := y + (env.fontExtents.height - env.fontExtents.descent)

/-- The branch for a QR code. -/
def drawQrcode (z : Sizing) : List Drawing :=
  let qrcode := encodedQrcode env s
  let image :=
    match qrcode with
    | some qr =>
      let qrPx : Int := (qr.width * (4 * env.scale) : Nat)
      let qrX := (z.bufferWidth - qrPx).tdiv 2
      [Drawing.rectangle qrX 0 qrPx qrPx, .modules qrX (4 * env.scale) qr.dark]
    | none => []
  let qrY : ℚ := qrcode.elim 0 fun qr => (qr.width * (4 * env.scale) : Nat)
  let code := shownText s.authdLayout.qrCode
  let codeText := code.toList.map fun code =>
    let ty :=
      if qrcode.isSome then baseline env qrY + env.boxPadding
      else (z.bufferHeight - z.errorH) / 2 + (env.fontExtents.height / 2 - env.fontExtents.descent)
    Drawing.text .qrCode (centred env z code) ty code
  let qrY :=
    if code.isSome then
      if qrcode.isSome then qrY + env.boxHeight else z.bufferHeight - z.errorH
    else qrY
  let error :=
    if 0 < z.errorH then
      s.authdError.toList.map fun error =>
        Drawing.text .error (centred env z error) (baseline env qrY + env.boxPadding / 2) error
    else []
  image ++ codeText ++ error

/-- The box above the ring. -/
def drawLabel (z : Sizing) : List Drawing :=
  if 0 < z.labelBoxH then
    s.authdLayout.label.toList.flatMap fun label =>
      let ext := env.textExtents label
      let bx := z.bufferWidth / 2 - ext.width / 2 - env.boxPadding
      [Drawing.rectangle bx 0 (env.boxWidth label) env.boxHeight,
        .text .label (bx - ext.xBearing + env.boxPadding) (baseline env 0 + env.boxPadding) label]
  else []

/-- `ring_cy`. -/
def ringCy (z : Sizing) : Int := truncate z.labelBoxH + (bufferDiameter env args).tdiv 2

/-- The ring, with the text in it and the mark of a key. -/
def drawRing (z : Sizing) : List Drawing :=
  let x := z.bufferWidth.tdiv 2
  let y := ringCy env args z
  let radius := arcRadius env args
  let thickness := arcThickness env args
  let text := (indicatorText args s).toList.map fun text =>
    let ext := env.textExtents text
    Drawing.text .text (x - (ext.width / 2 + ext.xBearing))
      (y + (env.fontExtents.height / 2 - env.fontExtents.descent)) text
  let highlight :=
    if s.inputState = .letter ∨ s.inputState = .backspace then
      [Drawing.highlight x y radius s.highlightStart]
    else []
  [Drawing.disc x y (radius - thickness.tdiv 2), .ring x y radius thickness] ++ text ++ highlight ++
    [.ring x y (radius - thickness.tdiv 2) (2 * env.scale),
      .ring x y (radius + thickness.tdiv 2) (2 * env.scale)]

/-- The keyboard layout below the ring. -/
def drawLayout (z : Sizing) : List Drawing :=
  (layoutText env args s).toList.flatMap fun layout =>
    let ext := env.textExtents layout
    let x := z.bufferWidth.tdiv 2 - ext.width / 2 - env.boxPadding
    let y : ℚ := (truncate z.labelBoxH + bufferDiameter env args : Int)
    [Drawing.rectangle x y (env.boxWidth layout) env.boxHeight,
      .text .layout (x - ext.xBearing + env.boxPadding) (baseline env y + env.boxPadding) layout]

/-- The button and the error text, below the ring and the keyboard layout. -/
def drawBelow (z : Sizing) : List Drawing :=
  let y : ℚ := (truncate z.labelBoxH + bufferDiameter env args : Int)
  let y := if (layoutText env args s).isSome then y + env.boxHeight else y
  let button :=
    if 0 < z.buttonBoxH then
      s.authdLayout.button.toList.flatMap fun button =>
        let ext := env.textExtents button
        let bx := (z.bufferWidth - env.boxWidth button) / 2
        [Drawing.button bx y (env.boxWidth button) env.boxHeight (env.boxHeight / 4),
          .text .button (bx - ext.xBearing + env.boxPadding)
            (baseline env y + env.boxPadding) button]
    else []
  let y := if 0 < z.buttonBoxH then y + z.buttonBoxH else y
  let error :=
    if 0 < z.errorH then
      s.authdError.toList.map fun error =>
        Drawing.text .error (centred env z error) (baseline env y + env.boxPadding / 2) error
    else []
  button ++ error

/-- The drawing pass. -/
def drawing (z : Sizing) : List Drawing :=
  if isQrcode s then drawQrcode env s z
  else if drawIndicator args s then
    drawLabel env s z ++ drawRing env args s z ++ drawLayout env args s z ++ drawBelow env args s z
  else []

/-- What is committed to the child surface: the rows of a selection stage, or the indicator at a
position. -/
inductive ChildFrame
  | list (rows : List (Option (CString × Bool)))
  | indicator (position : Int × Int) (size : Sizing) (drawings : List Drawing)

/-- `render_frame`; `buffer` says whether there is a buffer to draw into. -/
def renderFrame (buffer : Bool) : Option ChildFrame :=
  if ¬ buffer then none
  else
    match renderList s with
    | some rows => some (.list rows)
    | none =>
      let z := sizing env args s
      some (.indicator (subsurfacePosition env args s z) z (drawing env args s z))

/-! ## What is reserved and what is drawn -/

/-- The texts drawn as an element. -/
def shownAs (element : Element) (drawings : List Drawing) : List CString :=
  drawings.filterMap fun
    | .text e _ _ t => if e = element then some t else none
    | _ => none

theorem shownAs_append (element : Element) (ds es : List Drawing) :
    shownAs element (ds ++ es) = shownAs element ds ++ shownAs element es :=
  List.filterMap_append

variable {env args s}

theorem labelBoxH_pos : 0 < labelBoxH env s ↔ Challenging s ∧ (labelText s).isSome = true := by
  unfold labelBoxH
  split
  · rename_i h
    exact iff_of_true env.boxHeight_pos h
  · rename_i h
    exact iff_of_false (lt_irrefl 0) h

theorem buttonBoxH_pos : 0 < buttonBoxH env s ↔ Challenging s ∧ (buttonText s).isSome = true := by
  unfold buttonBoxH
  split
  · rename_i h
    exact iff_of_true env.boxHeight_pos h
  · rename_i h
    exact iff_of_false (lt_irrefl 0) h

theorem errorH_pos :
    0 < errorH env s ↔ Challenging s ∧ (shownText s.authdError).isSome = true := by
  unfold errorH
  split
  · rename_i h
    have hpad := env.boxPadding_pos
    have hheight := env.fontExtents.nonneg
    exact iff_of_true (by linarith) h
  · rename_i h
    exact iff_of_false (lt_irrefl 0) h

variable {z : Sizing} {element : Element}

/-- A text that may be drawn. -/
theorem shownAs_text {e : Element} {text : Option CString} {f : CString → Drawing}
    (hf : ∀ t, ∃ x y, f t = .text e x y t) :
    shownAs element (text.toList.map f) = if element = e then text.toList else [] := by
  cases text with
  | none => simp [shownAs]
  | some t =>
    obtain ⟨x, y, ht⟩ := hf t
    by_cases he : element = e
    · simp [shownAs, ht, he]
    · simp [shownAs, ht, he, Ne.symm he]

/-- A text that may be drawn into a shape. -/
theorem shownAs_boxed {e : Element} {text : Option CString} {f : CString → List Drawing}
    (hf : ∀ t, ∃ box x y, f t = [box, .text e x y t] ∧ ∀ e', shownAs e' [box] = []) :
    shownAs element (text.toList.flatMap f) = if element = e then text.toList else [] := by
  cases text with
  | none => simp [shownAs]
  | some t =>
    obtain ⟨box, x, y, ht, hbox⟩ := hf t
    have hsplit : shownAs element (f t) = shownAs element [.text e x y t] := by
      rw [ht, ← List.singleton_append, shownAs_append, hbox, List.nil_append]
    have hone : (some t).toList.flatMap f = f t := by simp
    rw [hone, hsplit]
    by_cases he : element = e
    · simp [shownAs, he]
    · simp [shownAs, he, Ne.symm he]

theorem shownAs_if {p : Prop} [Decidable p] {ds : List Drawing} :
    shownAs element (if p then ds else []) = if p then shownAs element ds else [] := by
  split <;> rfl

theorem shownAs_drawQrcode :
    shownAs element (drawQrcode env s z) =
      (if element = .qrCode then (shownText s.authdLayout.qrCode).toList else []) ++
        if 0 < z.errorH then (if element = .error then s.authdError.toList else []) else [] := by
  unfold drawQrcode
  dsimp only
  rw [shownAs_append, shownAs_append, shownAs_text fun _ => ⟨_, _, rfl⟩, shownAs_if,
    shownAs_text fun _ => ⟨_, _, rfl⟩]
  cases encodedQrcode env s <;> rfl

theorem shownAs_drawLabel :
    shownAs element (drawLabel env s z) =
      if 0 < z.labelBoxH then
        (if element = .label then s.authdLayout.label.toList else [])
      else [] := by
  unfold drawLabel
  rw [shownAs_if, shownAs_boxed fun _ => ⟨_, _, _, rfl, fun _ => rfl⟩]

theorem shownAs_drawRing :
    shownAs element (drawRing env args s z) =
      if element = .text then (indicatorText args s).toList else [] := by
  unfold drawRing
  dsimp only
  rw [shownAs_append, shownAs_append, shownAs_append, shownAs_text fun _ => ⟨_, _, rfl⟩, shownAs_if]
  simp [shownAs]

theorem shownAs_drawLayout :
    shownAs element (drawLayout env args s z) =
      if element = .layout then (layoutText env args s).toList else [] := by
  unfold drawLayout
  exact shownAs_boxed fun _ => ⟨_, _, _, rfl, fun _ => rfl⟩

theorem shownAs_drawBelow :
    shownAs element (drawBelow env args s z) =
      (if 0 < z.buttonBoxH then (if element = .button then s.authdLayout.button.toList else [])
        else []) ++
        if 0 < z.errorH then (if element = .error then s.authdError.toList else []) else [] := by
  unfold drawBelow
  dsimp only
  rw [shownAs_append, shownAs_if, shownAs_if, shownAs_boxed fun _ => ⟨_, _, _, rfl, fun _ => rfl⟩,
    shownAs_text fun _ => ⟨_, _, rfl⟩]

/-! ## What is shown -/

theorem drawing_qrcode (hq : isQrcode s = true) : drawing env args s z = drawQrcode env s z := by
  rw [drawing, if_pos hq]

theorem drawing_indicator (hq : ¬ isQrcode s = true) (hd : drawIndicator args s = true) :
    drawing env args s z =
      drawLabel env s z ++ drawRing env args s z ++ drawLayout env args s z ++
        drawBelow env args s z := by
  rw [drawing, if_neg hq, if_pos hd]

theorem drawing_idle (hq : ¬ isQrcode s = true) (hd : ¬ drawIndicator args s = true) :
    drawing env args s z = [] := by
  rw [drawing, if_neg hq, if_neg hd]

/-- A text drawn into the space reserved for it. -/
theorem mem_shown {h : ℚ} {text shown : Option CString} {t : CString}
    (hpos : 0 < h ↔ Challenging s ∧ shown.isSome = true)
    (hshown : ∀ u, shown = some u → text = some u) :
    t ∈ (if 0 < h then text.toList else []) ↔ Challenging s ∧ shown = some t := by
  cases shown with
  | none =>
    have hnot : ¬ 0 < h := fun hh => Bool.noConfusion (hpos.mp hh).2
    simp [hnot]
  | some u =>
    rw [hshown u rfl]
    by_cases hc : Challenging s
    · have hh : 0 < h := hpos.mpr ⟨hc, rfl⟩
      rw [if_pos hh, Option.toList_some, List.mem_singleton, Option.some_inj]
      exact ⟨fun ht => ⟨hc, ht.symm⟩, fun ht => ht.2.symm⟩
    · have hnot : ¬ 0 < h := fun hh => hc (hpos.mp hh).1
      simp [hnot, hc]

/-- A text that a QR code replaces. -/
theorem unlessQrcode_eq_some {text : Option CString} {t : CString} :
    (if isQrcode s then none else shownText text) = some t ↔
      ¬ isQrcode s = true ∧ text = some t ∧ t ≠ [] := by
  by_cases hq : isQrcode s = true
  · simp [hq]
  · rw [if_neg hq, shownText_eq_some, and_iff_right hq]

theorem labelText_eq_some {t : CString} :
    labelText s = some t ↔ ¬ isQrcode s = true ∧ s.authdLayout.label = some t ∧ t ≠ [] :=
  unlessQrcode_eq_some

theorem buttonText_eq_some {t : CString} :
    buttonText s = some t ↔ ¬ isQrcode s = true ∧ s.authdLayout.button = some t ∧ t ≠ [] :=
  unlessQrcode_eq_some

/-- **The label is drawn** with the indicator. -/
theorem mem_shownAs_label {t : CString} :
    t ∈ shownAs .label (drawing env args s (sizing env args s)) ↔
      (Challenging s ∧ labelText s = some t) ∧ drawIndicator args s = true := by
  by_cases hq : isQrcode s = true
  · rw [drawing_qrcode hq, shownAs_drawQrcode]
    simp [labelText, hq]
  · by_cases hd : drawIndicator args s = true
    · rw [drawing_indicator hq hd]
      simp only [shownAs_append, shownAs_drawLabel, shownAs_drawRing, shownAs_drawLayout,
        shownAs_drawBelow, sizing_labelBoxH, reduceCtorEq, if_true, if_false, ite_self,
        List.append_nil]
      rw [mem_shown labelBoxH_pos fun u hu => (labelText_eq_some.mp hu).2.1, and_iff_left hd]
    · rw [drawing_idle hq hd]
      exact iff_of_false List.not_mem_nil fun h => hd h.2

/-- **The button is drawn** with the indicator. -/
theorem mem_shownAs_button {t : CString} :
    t ∈ shownAs .button (drawing env args s (sizing env args s)) ↔
      (Challenging s ∧ buttonText s = some t) ∧ drawIndicator args s = true := by
  by_cases hq : isQrcode s = true
  · rw [drawing_qrcode hq, shownAs_drawQrcode]
    simp [buttonText, hq]
  · by_cases hd : drawIndicator args s = true
    · rw [drawing_indicator hq hd]
      simp only [shownAs_append, shownAs_drawLabel, shownAs_drawRing, shownAs_drawLayout,
        shownAs_drawBelow, sizing_buttonBoxH, reduceCtorEq, if_true, if_false, ite_self,
        List.append_nil, List.nil_append]
      rw [mem_shown buttonBoxH_pos fun u hu => (buttonText_eq_some.mp hu).2.1, and_iff_left hd]
    · rw [drawing_idle hq hd]
      exact iff_of_false List.not_mem_nil fun h => hd h.2

/-- **The error is drawn** with a QR code or with the indicator. -/
theorem mem_shownAs_error {t : CString} :
    t ∈ shownAs .error (drawing env args s (sizing env args s)) ↔
      (Challenging s ∧ shownText s.authdError = some t) ∧
        (isQrcode s = true ∨ drawIndicator args s = true) := by
  have hshown : ∀ u, shownText s.authdError = some u → s.authdError = some u :=
    fun u hu => (shownText_eq_some.mp hu).1
  by_cases hq : isQrcode s = true
  · rw [drawing_qrcode hq, shownAs_drawQrcode]
    simp only [sizing_errorH, reduceCtorEq, if_true, if_false, List.nil_append]
    rw [mem_shown errorH_pos hshown, and_iff_left (Or.inl hq)]
  · by_cases hd : drawIndicator args s = true
    · rw [drawing_indicator hq hd]
      simp only [shownAs_append, shownAs_drawLabel, shownAs_drawRing, shownAs_drawLayout,
        shownAs_drawBelow, sizing_errorH, reduceCtorEq, if_true, if_false, ite_self,
        List.nil_append]
      rw [mem_shown errorH_pos hshown, and_iff_left (Or.inr hd)]
    · rw [drawing_idle hq hd]
      exact iff_of_false List.not_mem_nil fun h => h.2.elim hq hd

end SwaylockAuthd
