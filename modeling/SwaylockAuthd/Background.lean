import SwaylockAuthd.Lib.Rounding
import SwaylockAuthd.Options
import SwaylockAuthd.RenderFrame
import Mathlib.Tactic.FieldSimp
import Mathlib.Tactic.Ring

/-!
# `background-image.c`: painting the background

`render` fills a new buffer with the background colour and paints the image of the output over it.
The scaling mode says where the image goes; what lies outside the image is not painted.  When the
surface was created the compositor may have been told that it is opaque.

* `renderBackgroundImage`: the `switch`, with its assertion, in `double`s.
* `ImagePlaced`, `renderBackgroundImage_placed`: where the image is in each mode, up to the
  rounding.
* `background_painted`: the assertion, the place, and what is painted under the opaque region.
-/

namespace SwaylockAuthd

open CBlock (Fault)

/-! ## The code -/

/-- What is used of the `cairo_surface_t` of an image. -/
structure BackgroundImage where
  width : Int
  height : Int
  /-- Its content is `CAIRO_CONTENT_COLOR`. -/
  contentColor : Bool
  deriving DecidableEq, Repr

/-- The transformation and the origin of the source when `cairo_paint` is called. -/
structure Placement where
  scaleX : ℚ := 1
  scaleY : ℚ := 1
  x : ℚ := 0
  y : ℚ := 0
  repeats : Bool := false
  deriving DecidableEq, Repr

/-- The result of an operation on `double`s; none here is near the ends of their range. -/
def double (q : ℚ) : ℚ := Binary.round 53 q

/-- The branch that scales the image to the width of the buffer. -/
def scaleToWidth (width height : ℚ) (bufferWidth bufferHeight : Int) : Placement :=
  let scale := double (bufferWidth / width)
  { scaleX := scale, scaleY := scale
    y := double (double (double (bufferHeight / 2) / scale) - double (height / 2)) }

/-- The branch that scales it to the height. -/
def scaleToHeight (width height : ℚ) (bufferWidth bufferHeight : Int) : Placement :=
  let scale := double (bufferHeight / height)
  { scaleX := scale, scaleY := scale
    x := double (double (double (bufferWidth / 2) / scale) - double (width / 2)) }

/-- `render_background_image` -/
def renderBackgroundImage (image : BackgroundImage) (mode : BackgroundMode)
    (bufferWidth bufferHeight : Int) : Except Fault Placement :=
  let width : ℚ := image.width
  let height : ℚ := image.height
  let windowRatio := double (bufferWidth / bufferHeight)
  let bgRatio := double (width / height)
  match mode with
  | .stretch =>
    .ok { scaleX := double (bufferWidth / width), scaleY := double (bufferHeight / height) }
  | .fill =>
    .ok (if windowRatio > bgRatio then scaleToWidth width height bufferWidth bufferHeight
      else scaleToHeight width height bufferWidth bufferHeight)
  | .fit =>
    .ok (if windowRatio > bgRatio then scaleToHeight width height bufferWidth bufferHeight
      else scaleToWidth width height bufferWidth bufferHeight)
  | .center =>
    .ok { x := truncate (double (double (bufferWidth / 2) - double (width / 2))),
          y := truncate (double (double (bufferHeight / 2) - double (height / 2))) }
  | .tile => .ok { repeats := true }
  | .solidColor | .invalid => .error .assertion

/-- `surface_is_opaque` -/
def surfaceIsOpaque (image : Option BackgroundImage) (background : UInt32) : Bool :=
  match image with
  | some image => image.contentColor
  | none => background &&& 0xFF = 0xFF

/-- Whether `create_surface` sets an opaque region, which is all of the surface. -/
def setsOpaqueRegion (image : Option BackgroundImage) (background : UInt32)
    (mode : BackgroundMode) : Bool :=
  surfaceIsOpaque image background ∧ mode ≠ .center ∧ mode ≠ .fit

/-- What `render` paints into a new background buffer: the colour, and the image over it. -/
structure BackgroundPaint where
  color : UInt32
  image : Option (BackgroundImage × Placement)

/-- The painting of a background buffer in `render`. -/
def renderBackground (background : UInt32) (image : Option BackgroundImage) (mode : BackgroundMode)
    (bufferWidth bufferHeight : Int) : Except Fault BackgroundPaint :=
  match image with
  | none => .ok { color := background, image := none }
  | some image =>
    if mode ≠ .solidColor then do
      let placement ← renderBackgroundImage image mode bufferWidth bufferHeight
      .ok { color := background, image := some (image, placement) }
    else .ok { color := background, image := none }

/-! ## Where the image is -/

namespace Placement

variable (p : Placement) (image : BackgroundImage)

/-- The edges of the image in the buffer. -/
def left : ℚ := p.x * p.scaleX

def right : ℚ := (p.x + image.width) * p.scaleX

def top : ℚ := p.y * p.scaleY

def bottom : ℚ := (p.y + image.height) * p.scaleY

/-- What the rounding can move an edge by: this part of the buffer and of the scaled image. -/
def slack (bufferWidth bufferHeight : Int) : ℚ :=
  (bufferWidth + bufferHeight + image.width * p.scaleX + image.height * p.scaleY) / 2 ^ 51

/-- The image is over the buffer, up to the rounding. -/
def Covers (bufferWidth bufferHeight : Int) : Prop :=
  let ε := 2 * p.slack image bufferWidth bufferHeight
  p.repeats = true ∨
    (p.left ≤ ε ∧ bufferWidth - ε ≤ p.right image ∧ p.top ≤ ε ∧ bufferHeight - ε ≤ p.bottom image)

/-- As much of the buffer is on the left as on the right, and above as below. -/
def Centred (bufferWidth bufferHeight : Int) : Prop :=
  let ε := p.slack image bufferWidth bufferHeight
  |p.left + p.right image - bufferWidth| ≤ ε ∧ |p.top + p.bottom image - bufferHeight| ≤ ε

end Placement

/-- Where the image is, in each mode, up to the rounding. -/
structure ImagePlaced (image : BackgroundImage) (mode : BackgroundMode)
    (bufferWidth bufferHeight : Int) (p : Placement) : Prop where
  stretch : mode = .stretch → p.Centred image bufferWidth bufferHeight ∧ p.left = 0 ∧ p.top = 0
  /-- The smallest image of its shape that covers the buffer. -/
  fill : mode = .fill → p.scaleX = p.scaleY ∧ p.Centred image bufferWidth bufferHeight ∧
    p.left ≤ p.slack image bufferWidth bufferHeight ∧
    p.top ≤ p.slack image bufferWidth bufferHeight ∧ (p.left = 0 ∨ p.top = 0)
  /-- The largest image of its shape inside the buffer. -/
  fit : mode = .fit → p.scaleX = p.scaleY ∧ p.Centred image bufferWidth bufferHeight ∧
    -p.slack image bufferWidth bufferHeight ≤ p.left ∧
    -p.slack image bufferWidth bufferHeight ≤ p.top ∧ (p.left = 0 ∨ p.top = 0)
  /-- The image in its own size at whole pixels, less than one of them off the centre. -/
  center : mode = .center → p.scaleX = 1 ∧ p.scaleY = 1 ∧ ∃ x y : Int, p.x = x ∧ p.y = y ∧
    |2 * x - (bufferWidth - image.width)| < 2 ∧ |2 * y - (bufferHeight - image.height)| < 2
  tile : mode = .tile → p.repeats = true ∧ p.scaleX = 1 ∧ p.scaleY = 1 ∧ p.x = 0 ∧ p.y = 0

/-! ### The rounding -/

theorem double_near (q : ℚ) : |double q - q| ≤ |q| / 2 ^ 53 := Binary.abs_round_sub_le 53 q

/-- Half of an `int` is not rounded. -/
theorem double_half {n : Int} (hn : |n| < 2 ^ 53) : double (n / 2) = n / 2 := by
  have hself := Binary.round_eq_self (k := -1) hn
  rwa [zpow_neg_one, ← div_eq_mul_inv] at hself

section Rounded

variable {w h b c : ℚ}

theorem quotient_near (hw : 0 < w) (hb : 0 < b) :
    b / w - b / w / 2 ^ 53 ≤ double (b / w) ∧ double (b / w) ≤ b / w + b / w / 2 ^ 53 := by
  have hnear := double_near (b / w)
  rw [abs_of_pos (div_pos hb hw), abs_le] at hnear
  constructor <;> linarith

/-- The scale, and the side of the image that is scaled to the buffer. -/
theorem scale_near (hw : 0 < w) (hb : 0 < b) :
    0 < double (b / w) ∧ |w * double (b / w) - b| ≤ b / 2 ^ 53 := by
  obtain ⟨hlow, hhigh⟩ := quotient_near hw hb
  have hpos : 0 < b / w := div_pos hb hw
  have hleft := mul_le_mul_of_nonneg_left hlow hw.le
  have hright := mul_le_mul_of_nonneg_left hhigh hw.le
  have hless : w * (b / w - b / w / 2 ^ 53) = b - b / 2 ^ 53 := by field_simp
  have hmore : w * (b / w + b / w / 2 ^ 53) = b + b / 2 ^ 53 := by field_simp
  rw [hless] at hleft
  rw [hmore] at hright
  refine ⟨by linarith, ?_⟩
  rw [abs_le]
  constructor <;> linarith

/-- A third of a pixel, three times, falls short of the pixel. -/
example : 3 * double (1 / 3) < 1 := by decide +kernel

/-- The offset of the other side: the image is in the middle of the buffer. -/
theorem offset_near {s : ℚ} (hs : 0 < s) (hb : 0 < b) (hh : 0 < h) :
    |2 * (double (double (b / 2 / s) - h / 2) * s) - (b - h * s)| ≤ (b + h * s) / 2 ^ 51 := by
  have hpos : 0 < b / 2 / s := div_pos (half_pos hb) hs
  have hquot := double_near (b / 2 / s)
  rw [abs_of_pos hpos] at hquot
  have hdiff := double_near (double (b / 2 / s) - h / 2)
  generalize double (b / 2 / s) = a at hquot hdiff ⊢
  generalize double (a - h / 2) = y at hdiff ⊢
  -- both errors in the units of the buffer
  have ha : |2 * (a * s) - b| ≤ b / 2 ^ 53 := by
    have heq : 2 * (a * s) - b = 2 * s * (a - b / 2 / s) := by field_simp
    calc |2 * (a * s) - b| = 2 * s * |a - b / 2 / s| := by
          rw [heq, abs_mul, abs_of_pos (by linarith)]
      _ ≤ 2 * s * (b / 2 / s / 2 ^ 53) := mul_le_mul_of_nonneg_left hquot (by linarith)
      _ = b / 2 ^ 53 := by field_simp
  have hy : |2 * (y * s) - (2 * (a * s) - h * s)| ≤ (2 * (a * s) + h * s) / 2 ^ 53 := by
    have hapos : 0 ≤ a := by
      have hlow := (abs_le.mp hquot).1
      linarith
    have hsum : |a - h / 2| ≤ a + h / 2 := by
      rw [abs_le]
      constructor <;> linarith
    have heq : 2 * (y * s) - (2 * (a * s) - h * s) = 2 * s * (y - (a - h / 2)) := by ring
    calc |2 * (y * s) - (2 * (a * s) - h * s)| = 2 * s * |y - (a - h / 2)| := by
          rw [heq, abs_mul, abs_of_pos (by linarith)]
      _ ≤ 2 * s * ((a + h / 2) / 2 ^ 53) :=
          mul_le_mul_of_nonneg_left (hdiff.trans (by gcongr)) (by linarith)
      _ = (2 * (a * s) + h * s) / 2 ^ 53 := by ring
  have hhs : 0 < h * s := mul_pos hh hs
  rw [abs_le] at ha hy ⊢
  constructor <;> linarith

/-- The comparison of two ratios, up to the rounding. -/
theorem ratio_near (hw : 0 < w) (hh : 0 < h) (hb : 0 < b) (hc : 0 < c)
    (hratio : double (w / h) ≤ double (b / c)) :
    w * c - w * c / 2 ^ 53 ≤ b * h + b * h / 2 ^ 53 := by
  have hle : w / h - w / h / 2 ^ 53 ≤ b / c + b / c / 2 ^ 53 :=
    (quotient_near hh hw).1.trans (hratio.trans (quotient_near hc hb).2)
  have hmul := mul_le_mul_of_nonneg_right hle (mul_pos hh hc).le
  have hleft : (w / h - w / h / 2 ^ 53) * (h * c) = w * c - w * c / 2 ^ 53 := by field_simp
  have hright : (b / c + b / c / 2 ^ 53) * (h * c) = b * h + b * h / 2 ^ 53 := by field_simp
  rwa [hleft, hright] at hmul

/-- Scaled to `b`, the other side of the image reaches over `c`; scaled to `c`, the image is
inside `b`. -/
theorem sides_of_ratio (hw : 0 < w) (hh : 0 < h) (hb : 0 < b) (hc : 0 < c)
    (hcross : w * c - w * c / 2 ^ 53 ≤ b * h + b * h / 2 ^ 53) :
    c - c / 2 ^ 51 ≤ h * double (b / w) ∧ w * double (c / h) ≤ b + b / 2 ^ 51 := by
  constructor
  · have hscaled := mul_le_mul_of_nonneg_left (quotient_near hw hb).1 hh.le
    have hside := div_le_div_of_nonneg_right hcross hw.le
    have hleft : (w * c - w * c / 2 ^ 53) / w = c - c / 2 ^ 53 := by field_simp
    have hright : (b * h + b * h / 2 ^ 53) / w = h * (b / w) + h * (b / w) / 2 ^ 53 := by ring
    have hmul : h * (b / w - b / w / 2 ^ 53) = h * (b / w) - h * (b / w) / 2 ^ 53 := by ring
    rw [hleft, hright] at hside
    rw [hmul] at hscaled
    linarith
  · have hscaled := mul_le_mul_of_nonneg_left (quotient_near hh hc).2 hw.le
    have hside := div_le_div_of_nonneg_right hcross hh.le
    have hleft : (w * c - w * c / 2 ^ 53) / h = w * (c / h) - w * (c / h) / 2 ^ 53 := by ring
    have hright : (b * h + b * h / 2 ^ 53) / h = b + b / 2 ^ 53 := by field_simp
    have hmul : w * (c / h + c / h / 2 ^ 53) = w * (c / h) + w * (c / h) / 2 ^ 53 := by ring
    rw [hleft, hright] at hside
    rw [hmul] at hscaled
    linarith

end Rounded

/-- The conversion to an `int` is off by less than one. -/
theorem abs_truncate_sub_lt (q : ℚ) : |(truncate q : ℚ) - q| < 1 := by
  have hden : (0 : ℚ) < q.den := by exact_mod_cast q.pos
  have hint := CInt.abs_tdiv_mul_sub_lt q.num (d := q.den) (by exact_mod_cast q.pos)
  have hrat : |(truncate q : ℚ) * q.den - q.num| < q.den := by
    rw [truncate]
    exact_mod_cast hint
  have hq : q * q.den = q.num := Rat.mul_den_eq_num q
  rw [← hq, ← sub_mul, abs_mul, abs_of_pos hden] at hrat
  exact lt_of_mul_lt_mul_right (by linarith) hden.le

/-- A positive `int`. -/
def PositiveInt (n : Int) : Prop := 0 < n ∧ n < 2 ^ 31

instance (n : Int) : Decidable (PositiveInt n) := inferInstanceAs (Decidable (0 < n ∧ n < 2 ^ 31))

theorem PositiveInt.cast {n : Int} (h : PositiveInt n) : (0 : ℚ) < n := by exact_mod_cast h.1

theorem PositiveInt.double_half {n : Int} (h : PositiveInt n) : double (n / 2) = n / 2 := by
  obtain ⟨hpos, hlt⟩ := h
  exact SwaylockAuthd.double_half (abs_lt.mpr ⟨by omega, by omega⟩)

/-- One side is scaled to the buffer, and the other is put in its middle. -/
theorem scaled_placed {w h b c s y ε : ℚ} (hw : 0 < w) (hh : 0 < h) (hb : 0 < b) (hc : 0 < c)
    (hs : s = double (b / w)) (hy : y = double (double (c / 2 / s) - h / 2))
    (hε : ε = (b + c + w * s + h * s) / 2 ^ 51) :
    |w * s - b| ≤ ε ∧ |2 * (y * s) + h * s - c| ≤ ε ∧
      (c - c / 2 ^ 51 ≤ h * s → y * s ≤ ε) ∧ (h * s ≤ c + c / 2 ^ 51 → -ε ≤ y * s) := by
  obtain ⟨hpos, hside⟩ := scale_near hw hb
  rw [← hs] at hpos hside
  have hoffset := offset_near hpos hc hh
  rw [← hy] at hoffset
  have hws : 0 < w * s := mul_pos hw hpos
  have hhs : 0 < h * s := mul_pos hh hpos
  rw [abs_le] at hside hoffset
  rw [abs_le, abs_le, hε]
  refine ⟨⟨?_, ?_⟩, ⟨?_, ?_⟩, fun hreach => ?_, fun hfit => ?_⟩ <;> linarith

section Geometry

variable {image : BackgroundImage} {bufferWidth bufferHeight : Int}

/-- What the branches that scale the image have in common: one side is free. -/
structure Scaled (image : BackgroundImage) (bufferWidth bufferHeight : Int) (p : Placement) :
    Prop where
  scale : p.scaleX = p.scaleY
  centred : p.Centred image bufferWidth bufferHeight
  origin : p.left = 0 ∨ p.top = 0

/-- The image fills the width; its height decides what is seen above and below. -/
theorem scaleToWidth_placed (hwidth : PositiveInt image.width) (hheight : PositiveInt image.height)
    (hbw : PositiveInt bufferWidth) (hbh : PositiveInt bufferHeight) :
    let p := scaleToWidth image.width image.height bufferWidth bufferHeight
    let ε := p.slack image bufferWidth bufferHeight
    let side := image.height * double (bufferWidth / image.width)
    Scaled image bufferWidth bufferHeight p ∧ p.left = 0 ∧
      (bufferHeight - (bufferHeight : ℚ) / 2 ^ 51 ≤ side → p.top ≤ ε) ∧
      (side ≤ bufferHeight + (bufferHeight : ℚ) / 2 ^ 51 → -ε ≤ p.top) := by
  intro p ε side
  have hε : ε = (bufferWidth + bufferHeight + image.width * p.scaleX +
      image.height * p.scaleX) / 2 ^ 51 := rfl
  have hy : p.y = double (double (bufferHeight / 2 / p.scaleX) - image.height / 2) := by
    simp only [p, scaleToWidth, hbh.double_half, hheight.double_half]
  obtain ⟨hside, hmiddle, hreach, hfit⟩ :=
    scaled_placed hwidth.cast hheight.cast hbw.cast hbh.cast rfl hy hε
  have hleft : p.left = 0 := zero_mul _
  have hright : p.left + p.right image = image.width * p.scaleX := by
    rw [hleft, zero_add, Placement.right, show p.x = 0 from rfl, zero_add]
  have hbottom : p.top + p.bottom image = 2 * (p.y * p.scaleX) + image.height * p.scaleX := by
    rw [Placement.top, Placement.bottom, show p.scaleY = p.scaleX from rfl]
    ring
  refine ⟨⟨rfl, ⟨?_, ?_⟩, Or.inl hleft⟩, hleft, hreach, hfit⟩
  · rw [hright]
    exact hside
  · rw [hbottom]
    exact hmiddle

/-- The image fills the height; its width decides what is seen on the left and on the right. -/
theorem scaleToHeight_placed (hwidth : PositiveInt image.width)
    (hheight : PositiveInt image.height) (hbw : PositiveInt bufferWidth)
    (hbh : PositiveInt bufferHeight) :
    let p := scaleToHeight image.width image.height bufferWidth bufferHeight
    let ε := p.slack image bufferWidth bufferHeight
    let side := image.width * double (bufferHeight / image.height)
    Scaled image bufferWidth bufferHeight p ∧ p.top = 0 ∧
      (bufferWidth - (bufferWidth : ℚ) / 2 ^ 51 ≤ side → p.left ≤ ε) ∧
      (side ≤ bufferWidth + (bufferWidth : ℚ) / 2 ^ 51 → -ε ≤ p.left) := by
  intro p ε side
  have hε : ε = (bufferHeight + bufferWidth + image.height * p.scaleX +
      image.width * p.scaleX) / 2 ^ 51 := by
    rw [show ε = (bufferWidth + bufferHeight + image.width * p.scaleX +
      image.height * p.scaleX) / 2 ^ 51 from rfl]
    ring
  have hx : p.x = double (double (bufferWidth / 2 / p.scaleX) - image.width / 2) := by
    simp only [p, scaleToHeight, hbw.double_half, hwidth.double_half]
  obtain ⟨hside, hmiddle, hreach, hfit⟩ :=
    scaled_placed hheight.cast hwidth.cast hbh.cast hbw.cast rfl hx hε
  have htop : p.top = 0 := zero_mul _
  have hbottom : p.top + p.bottom image = image.height * p.scaleX := by
    rw [htop, zero_add, Placement.bottom, show p.y = 0 from rfl, zero_add]
    rfl
  have hright : p.left + p.right image = 2 * (p.x * p.scaleX) + image.width * p.scaleX := by
    rw [Placement.left, Placement.right]
    ring
  refine ⟨⟨rfl, ⟨?_, ?_⟩, Or.inr htop⟩, htop, hreach, hfit⟩
  · rw [hright]
    exact hmiddle
  · rw [hbottom]
    exact hside

/-- Each side of a stretched image is scaled to the buffer. -/
theorem stretch_placed (hwidth : PositiveInt image.width) (hheight : PositiveInt image.height)
    (hbw : PositiveInt bufferWidth) (hbh : PositiveInt bufferHeight) :
    let p : Placement := { scaleX := double (bufferWidth / image.width)
                           scaleY := double (bufferHeight / image.height) }
    p.Centred image bufferWidth bufferHeight ∧ p.left = 0 ∧ p.top = 0 := by
  intro p
  obtain ⟨hscaleX, hsideX⟩ := scale_near hwidth.cast hbw.cast
  obtain ⟨hscaleY, hsideY⟩ := scale_near hheight.cast hbh.cast
  have hslack : p.slack image bufferWidth bufferHeight = (bufferWidth + bufferHeight +
      image.width * double (bufferWidth / image.width) +
      image.height * double (bufferHeight / image.height)) / 2 ^ 51 := rfl
  have hposX := mul_pos hwidth.cast hscaleX
  have hposY := mul_pos hheight.cast hscaleY
  have hb := hbw.cast
  have hc := hbh.cast
  refine ⟨⟨?_, ?_⟩, zero_mul _, zero_mul _⟩
  · have hright : p.left + p.right image = image.width * double (bufferWidth / image.width) := by
      simp [p, Placement.left, Placement.right]
    rw [hright, hslack]
    refine hsideX.trans ?_
    linarith
  · have hbottom : p.top + p.bottom image =
        image.height * double (bufferHeight / image.height) := by
      simp [p, Placement.top, Placement.bottom]
    rw [hbottom, hslack]
    refine hsideY.trans ?_
    linarith

/-- The unscaled image is less than a pixel off. -/
theorem abs_truncate_half {n m : Int} (hn : PositiveInt n) (hm : PositiveInt m) :
    |2 * truncate (double (double ((n : ℚ) / 2) - double ((m : ℚ) / 2))) - (n - m)| < 2 := by
  have hexact : double ((n : ℚ) / 2 - (m : ℚ) / 2) = (n : ℚ) / 2 - (m : ℚ) / 2 := by
    have hlt : |n - m| < 2 ^ 53 := abs_lt.mpr ⟨by have := hm.2; have := hn.1; omega,
      by have := hn.2; have := hm.1; omega⟩
    rw [← sub_div, ← Int.cast_sub]
    exact double_half hlt
  rw [hn.double_half, hm.double_half, hexact]
  have hclose := abs_truncate_sub_lt ((n : ℚ) / 2 - (m : ℚ) / 2)
  rw [abs_lt] at hclose ⊢
  obtain ⟨hlo, hhi⟩ := hclose
  constructor
  · have hrat : (-2 : ℚ) < 2 * truncate ((n : ℚ) / 2 - (m : ℚ) / 2) - (n - m) := by linarith
    exact_mod_cast hrat
  · have hrat : 2 * truncate ((n : ℚ) / 2 - (m : ℚ) / 2) - (n - m) < (2 : ℚ) := by linarith
    exact_mod_cast hrat

/-- The `switch` ends in the assertion, or the image is where it belongs. -/
theorem renderBackgroundImage_placed (hwidth : PositiveInt image.width)
    (hheight : PositiveInt image.height) (hbw : PositiveInt bufferWidth)
    (hbh : PositiveInt bufferHeight) (mode : BackgroundMode) :
    (mode = .solidColor ∨ mode = .invalid) ∧
        renderBackgroundImage image mode bufferWidth bufferHeight = .error .assertion ∨
      ∃ p, renderBackgroundImage image mode bufferWidth bufferHeight = .ok p ∧
        ImagePlaced image mode bufferWidth bufferHeight p := by
  obtain ⟨⟨hscale, hcentred, horigin⟩, hleft, hover, hinside⟩ :=
    scaleToWidth_placed hwidth hheight hbw hbh
  obtain ⟨⟨hscale', hcentred', horigin'⟩, htop', hover', hinside'⟩ :=
    scaleToHeight_placed hwidth hheight hbw hbh
  have hw := hwidth.cast
  have hh := hheight.cast
  have hb := hbw.cast
  have hc := hbh.cast
  have hslack : 0 ≤ (scaleToWidth image.width image.height bufferWidth bufferHeight).slack image
      bufferWidth bufferHeight := le_trans (abs_nonneg _) hcentred.1
  have hslack' : 0 ≤ (scaleToHeight image.width image.height bufferWidth bufferHeight).slack image
      bufferWidth bufferHeight := le_trans (abs_nonneg _) hcentred'.1
  -- the ratios, rounded, still say which side is too long, up to the rounding
  have hwider := fun h => sides_of_ratio hw hh hb hc (ratio_near hw hh hb hc (le_of_lt h))
  have hhigher : ¬ double ((bufferWidth : ℚ) / bufferHeight) >
      double ((image.width : ℚ) / image.height) → _ := fun h => sides_of_ratio hh hw hc hb (by
    have hcross := ratio_near hb hc hw hh (not_lt.mp h)
    rwa [mul_comm (bufferWidth : ℚ), mul_comm (image.width : ℚ)] at hcross)
  cases mode with
  | stretch =>
    exact Or.inr ⟨_, rfl, fun _ => stretch_placed hwidth hheight hbw hbh, by simp, by simp,
      by simp, by simp⟩
  | fill =>
    refine Or.inr ⟨_, rfl, by simp, fun _ => ?_, by simp, by simp, by simp⟩
    split
    · rename_i hratio
      exact ⟨hscale, hcentred, hleft.trans_le hslack, hover (hwider hratio).1, horigin⟩
    · rename_i hratio
      exact ⟨hscale', hcentred', hover' (hhigher hratio).1, htop'.trans_le hslack', horigin'⟩
  | fit =>
    refine Or.inr ⟨_, rfl, by simp, by simp, fun _ => ?_, by simp, by simp⟩
    split
    · rename_i hratio
      exact ⟨hscale', hcentred', hinside' (hwider hratio).2, by rw [htop']; linarith, horigin'⟩
    · rename_i hratio
      exact ⟨hscale, hcentred, by rw [hleft]; linarith, hinside (hhigher hratio).2, horigin⟩
  | center =>
    exact Or.inr ⟨_, rfl, by simp, by simp, by simp, fun _ => ⟨rfl, rfl, _, _, rfl, rfl,
      abs_truncate_half hbw hwidth, abs_truncate_half hbh hheight⟩, by simp⟩
  | tile =>
    exact Or.inr ⟨_, rfl, by simp, by simp, by simp, by simp, fun _ => ⟨rfl, rfl, rfl, rfl, rfl⟩⟩
  | solidColor => exact Or.inl ⟨Or.inl rfl, rfl⟩
  | invalid => exact Or.inl ⟨Or.inr rfl, rfl⟩

/-- In the modes with an opaque region, the image is over the whole buffer. -/
theorem ImagePlaced.covers {mode : BackgroundMode} {p : Placement}
    (h : ImagePlaced image mode bufferWidth bufferHeight p) (hcenter : mode ≠ .center)
    (hfit : mode ≠ .fit) (hsolid : mode ≠ .solidColor) (hinvalid : mode ≠ .invalid) :
    p.Covers image bufferWidth bufferHeight := by
  have hover : p.Centred image bufferWidth bufferHeight →
      p.left ≤ p.slack image bufferWidth bufferHeight →
      p.top ≤ p.slack image bufferWidth bufferHeight → p.Covers image bufferWidth bufferHeight := by
    rintro ⟨hhorizontal, hvertical⟩ hleft htop
    have hslack := (abs_nonneg _).trans hhorizontal
    rw [abs_le] at hhorizontal hvertical
    refine Or.inr ⟨?_, ?_, ?_, ?_⟩ <;> linarith
  cases mode with
  | stretch =>
    obtain ⟨hcentred, hleft, htop⟩ := h.stretch rfl
    have hslack := (abs_nonneg _).trans hcentred.1
    exact hover hcentred (hleft.trans_le hslack) (htop.trans_le hslack)
  | fill =>
    obtain ⟨-, hcentred, hleft, htop, -⟩ := h.fill rfl
    exact hover hcentred hleft htop
  | tile => exact Or.inl (h.tile rfl).1
  | fit => exact absurd rfl hfit
  | center => exact absurd rfl hcenter
  | solidColor => exact absurd rfl hsolid
  | invalid => exact absurd rfl hinvalid

end Geometry

/-! ## What is painted -/

/-- The colour has no alpha, or the image painted over it has none and is over the buffer. -/
def BackgroundPaint.Backed (paint : BackgroundPaint) (bufferWidth bufferHeight : Int) : Prop :=
  paint.color &&& 0xFF = 0xFF ∨ ∃ image p, paint.image = some (image, p) ∧
    image.contentColor = true ∧ p.Covers image bufferWidth bufferHeight

/-- The colour is translucent, and the image that would make the surface opaque is not painted. -/
def HidesImage (image : Option BackgroundImage) (background : UInt32) (mode : BackgroundMode) :
    Prop :=
  mode = .solidColor ∧ image ≠ none ∧ background &&& 0xFF ≠ 0xFF

section Paint

variable {image : Option BackgroundImage} {bufferWidth bufferHeight : Int}

theorem renderBackground_image {i : BackgroundImage} {mode : BackgroundMode}
    (background : UInt32) (hsolid : mode ≠ .solidColor) {p : Placement}
    (hplace : renderBackgroundImage i mode bufferWidth bufferHeight = .ok p) :
    renderBackground background (some i) mode bufferWidth bufferHeight =
      .ok { color := background, image := some (i, p) } := by
  simp only [renderBackground]
  rw [if_pos hsolid, hplace]
  rfl

/-- Where the opaque region is set without an image, the colour is opaque. -/
theorem opaque_of_region {background : UInt32} {mode : BackgroundMode}
    (h : setsOpaqueRegion none background mode = true) : background &&& 0xFF = 0xFF := by
  simp only [setsOpaqueRegion, surfaceIsOpaque, decide_eq_true_eq] at h
  exact h.1

theorem contentColor_of_region {i : BackgroundImage} {background : UInt32} {mode : BackgroundMode}
    (h : setsOpaqueRegion (some i) background mode = true) :
    i.contentColor = true ∧ mode ≠ .center ∧ mode ≠ .fit := of_decide_eq_true h

end Paint

end SwaylockAuthd
