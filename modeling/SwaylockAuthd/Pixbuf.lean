import SwaylockAuthd.Lib.CBlock
import SwaylockAuthd.Lib.CInt
import SwaylockAuthd.Lib.Patch

/-!
# `cairo.c`: an image of the pixbuf library as a cairo surface

The pixels of a background image come from `gdk_pixbuf` as bytes of red, green, blue and perhaps
alpha.  A cairo surface wants a word for each, with the colours multiplied by the alpha.  Both have
rows with a stride of their own, and the last row of a pixbuf ends with its last pixel.

* `gdkCairoImageSurfaceCreateFromPixbuf`: the two loops.
* `premulAlpha_toNat`: the shifts of `PREMUL_ALPHA` are a rounded division.
* `pixbuf_copied`: no access outside either block, and what every byte of the surface holds.

What is relied on of the two libraries is in the fields of `GdkPixbuf` and `CairoImage`.  The
branches for a little-endian machine are modelled.
-/

namespace SwaylockAuthd

open CBlock (Fault)
open Patch

/-! ## The libraries' types -/

/-- `GdkPixbuf`; `pixels` is what `gdk_pixbuf_read_pixels` gives. -/
structure GdkPixbuf where
  nChannels : Nat
  width : Nat
  height : Nat
  rowstride : Nat
  pixels : Option (List UInt8)
  nChannels_le : nChannels ≤ 4
  height_pos : 0 < height
  row_le : nChannels * width ≤ rowstride
  /-- The last row ends with its last pixel. -/
  pixels_length :
    ∀ p, pixels = some p → p.length = (height - 1) * rowstride + nChannels * width

/-- `CAIRO_FORMAT_RGB24` and `CAIRO_FORMAT_ARGB32`. -/
inductive CairoFormat
  | rgb24
  | argb32
  deriving DecidableEq, Repr

/-- An image surface of four bytes a pixel.  Cairo makes none wider than 32767 pixels. -/
structure CairoImage (width height : Nat) where
  stride : Nat
  data : List UInt8
  width_le : width ≤ 32767
  stride_le : 4 * width ≤ stride
  data_length : data.length = height * stride

/-- `cairo_image_surface_create`, with the status it leaves. -/
abbrev CreateImage : Type :=
  CairoFormat → (width height : Nat) → Option (CairoImage width height)

/-! ## The code -/

/-- `PREMUL_ALPHA`, where `z` is a `guint`. -/
def premulAlpha (a b : UInt8) : UInt8 :=
  let z := a.toUInt32 * b.toUInt32 + 0x80
  ((z + (z >>> 8)) >>> 8).toUInt8

def readByte (b : List UInt8) (i : Nat) : Except Fault UInt8 :=
  match b[i]? with
  | some c => .ok c
  | none => .error .pastBlock

/-- The body of the inner loop for three channels, on a little-endian machine. -/
def copyRgb (gdkpix : List UInt8) (gp cp : Nat) (cpix : List UInt8) :
    Except Fault (List UInt8) := do
  let cpix ← CBlock.store cpix cp (← readByte gdkpix (gp + 2))
  let cpix ← CBlock.store cpix (cp + 1 : Nat) (← readByte gdkpix (gp + 1))
  CBlock.store cpix (cp + 2 : Nat) (← readByte gdkpix gp)

/-- The premultiplied colour `i` of the pixel at `gp`. -/
def premulColor (gdkpix : List UInt8) (gp i : Nat) : Except Fault UInt8 := do
  let color ← readByte gdkpix (gp + i)
  let alpha ← readByte gdkpix (gp + 3)
  .ok (premulAlpha color alpha)

/-- The body of the inner loop for four channels, on a little-endian machine. -/
def copyRgba (gdkpix : List UInt8) (gp cp : Nat) (cpix : List UInt8) :
    Except Fault (List UInt8) := do
  let cpix ← CBlock.store cpix cp (← premulColor gdkpix gp 2)
  let cpix ← CBlock.store cpix (cp + 1 : Nat) (← premulColor gdkpix gp 1)
  let cpix ← CBlock.store cpix (cp + 2 : Nat) (← premulColor gdkpix gp 0)
  CBlock.store cpix (cp + 3 : Nat) (← readByte gdkpix (gp + 3))

/-- The inner loop, up to the address `last`; `n` is the size of a source pixel, above 0. -/
def copyRow (body : Nat → Nat → List UInt8 → Except Fault (List UInt8)) (n : Nat) (last : Int)
    (gp cp : Nat) (cpix : List UInt8) : Except Fault (List UInt8) :=
  if _h : (gp : Int) < last ∧ 0 < n then do
    let cpix ← body gp cp cpix
    copyRow body n last (gp + n) (cp + 4) cpix
  else .ok cpix
termination_by (last - gp).toNat

/-- The outer loop, with `i` rows to go; `n * w` is an `int`. -/
def copyRows (body : Nat → Nat → List UInt8 → Except Fault (List UInt8))
    (n w stride cstride : Nat) :
    Nat → Nat → Nat → List UInt8 → Except Fault (List UInt8)
  | 0, _, _, cpix => .ok cpix
  | i + 1, gp, cp, cpix => do
    let cpix ← copyRow body n (gp + CInt.word 32 (n * w : Nat)) gp cp cpix
    copyRows body n w stride cstride i (gp + stride) (cp + cstride) cpix

/-- `gdk_cairo_image_surface_create_from_pixbuf`: the stride and the data of the surface. -/
def gdkCairoImageSurfaceCreateFromPixbuf (create : CreateImage) (gdkbuf : GdkPixbuf) :
    Except Fault (Option (Nat × List UInt8)) :=
  if gdkbuf.nChannels < 3 then .ok none
  else
    match gdkbuf.pixels with
    | none => .ok none
    | some gdkpix =>
      let fmt : CairoFormat := if gdkbuf.nChannels = 3 then .rgb24 else .argb32
      match create fmt gdkbuf.width gdkbuf.height with
      | none => .ok none
      | some cs =>
        if gdkbuf.nChannels = 3 then do
          let cpix ← copyRows (copyRgb gdkpix) 3 gdkbuf.width gdkbuf.rowstride cs.stride
            gdkbuf.height 0 0 cs.data
          .ok (some (cs.stride, cpix))
        else do
          let cpix ← copyRows (copyRgba gdkpix) 4 gdkbuf.width gdkbuf.rowstride cs.stride
            gdkbuf.height 0 0 cs.data
          .ok (some (cs.stride, cpix))

/-! ## One pixel -/

/-- Dividing by 256 twice is dividing by 255, rounded to the nearest. -/
theorem shifts_eq {z : Nat} (h : z ≤ 255 * 255) :
    (z + 128 + (z + 128) / 256) / 256 = (2 * z + 255) / 510 := by
  have hlo : 255 * ((2 * z + 255) / 510) + 1 ≤ z + 128 := by omega
  have hhi : z + 128 ≤ 255 * ((2 * z + 255) / 510) + 255 := by omega
  have hmax : (2 * z + 255) / 510 ≤ 255 := by omega
  generalize (2 * z + 255) / 510 = q at hlo hhi hmax
  have hfirst : (z + 128) / 256 = q ∨ (z + 128) / 256 + 1 = q := by omega
  rcases hfirst with hq | hq <;> omega

/-- **The shifts are a division by 255**, rounded to the nearest. -/
theorem premulAlpha_toNat (a b : UInt8) :
    (premulAlpha a b).toNat = (2 * (a.toNat * b.toNat) + 255) / 510 := by
  have ha := a.toNat_lt
  have hb := b.toNat_lt
  have hmul : a.toNat * b.toNat ≤ 255 * 255 := Nat.mul_le_mul (by omega) (by omega)
  have hz : (a.toUInt32 * b.toUInt32 + 0x80).toNat = a.toNat * b.toNat + 128 := by
    simp only [UInt32.toNat_add, UInt32.toNat_mul, UInt8.toNat_toUInt32, UInt32.toNat_ofNat]
    omega
  have hshifts := shifts_eq hmul
  simp only [premulAlpha, UInt32.toNat_toUInt8, UInt32.toNat_shiftRight, UInt32.toNat_add, hz,
    Nat.shiftRight_eq_div_pow, UInt32.toNat_ofNat]
  simp only [Nat.reduceMod, Nat.reducePow]
  omega

/-- What the surface is to hold in byte `c` of the pixel at `gp`, for `n` channels. -/
def surfaceByte (n : Nat) (gdkpix : List UInt8) (gp c : Nat) : UInt8 :=
  if n = 3 then gdkpix.getD (gp + 2 - c) 0
  else if c = 3 then gdkpix.getD (gp + 3) 0
  else premulAlpha (gdkpix.getD (gp + 2 - c) 0) (gdkpix.getD (gp + 3) 0)

theorem readByte_inside {b : List UInt8} {i : Nat} (h : i < b.length) :
    readByte b i = .ok (b.getD i 0) := by
  rw [readByte, List.getD_eq_getElem?_getD, List.getElem?_eq_getElem h, Option.getD_some]

theorem store_nat {b : List UInt8} {i : Nat} (h : i < b.length) (c : UInt8) :
    CBlock.store b i c = .ok (b.set i c) := by
  rw [CBlock.store_inside (by omega) (by omega), Int.toNat_natCast]

/-- A pixel of `n` bytes at `gp` is copied to `cp`: `n` bytes are written. -/
def CopiesPixel (n : Nat) (gdkpix : List UInt8)
    (body : Nat → Nat → List UInt8 → Except Fault (List UInt8)) : Prop :=
  ∀ gp cp cpix value, gp + n ≤ gdkpix.length → cp + 4 ≤ cpix.length →
    (∀ c < n, value (cp + c) = surfaceByte n gdkpix gp c) →
      ∃ new, body gp cp cpix = .ok new ∧
        Patched (fun j => cp ≤ j ∧ j < cp + n) value cpix new

theorem copyRgb_copies (gdkpix : List UInt8) : CopiesPixel 3 gdkpix (copyRgb gdkpix) := by
  intro gp cp cpix value hgp hcp hvalue
  have h0 := hvalue 0 (by omega)
  have h1 := hvalue 1 (by omega)
  have h2 := hvalue 2 (by omega)
  simp only [surfaceByte, if_true, Nat.add_zero, Nat.sub_zero, Nat.add_sub_cancel,
    show gp + 2 - 1 = gp + 1 by omega] at h0 h1 h2
  refine ⟨((cpix.set cp (value cp)).set (cp + 1) (value (cp + 1))).set (cp + 2) (value (cp + 2)),
    ?_, ?_⟩
  · rw [copyRgb, readByte_inside (by omega), readByte_inside (by omega),
      readByte_inside (by omega)]
    simp only [CBlock.ok_bind]
    rw [store_nat (by omega), CBlock.ok_bind, store_nat (by simp; omega), CBlock.ok_bind,
      store_nat (by simp; omega), h0, h1, h2]
  · have hfirst := Patched.set (a := cpix) (i := cp) (by omega) value
    have hsecond := hfirst.trans (Patched.set (i := cp + 1) (by simp; omega) value)
    have hthird := hsecond.trans (Patched.set (i := cp + 2) (by simp; omega) value)
    exact hthird.congr fun j => by omega

theorem copyRgba_copies (gdkpix : List UInt8) : CopiesPixel 4 gdkpix (copyRgba gdkpix) := by
  intro gp cp cpix value hgp hcp hvalue
  have h0 := hvalue 0 (by omega)
  have h1 := hvalue 1 (by omega)
  have h2 := hvalue 2 (by omega)
  have h3 := hvalue 3 (by omega)
  simp only [surfaceByte, Nat.reduceEqDiff, if_false, if_true, Nat.add_zero, Nat.sub_zero,
    Nat.add_sub_cancel, show gp + 2 - 1 = gp + 1 by omega] at h0 h1 h2 h3
  refine ⟨(((cpix.set cp (value cp)).set (cp + 1) (value (cp + 1))).set (cp + 2)
    (value (cp + 2))).set (cp + 3) (value (cp + 3)), ?_, ?_⟩
  · rw [copyRgba]
    simp only [premulColor]
    rw [readByte_inside (by omega), readByte_inside (by omega), readByte_inside (by omega),
      readByte_inside (by omega)]
    simp only [CBlock.ok_bind]
    rw [store_nat (by omega), CBlock.ok_bind, store_nat (by simp; omega), CBlock.ok_bind,
      store_nat (by simp; omega), CBlock.ok_bind, store_nat (by simp; omega), h0, h1, h2, h3]
    rfl
  · have hfirst := Patched.set (a := cpix) (i := cp) (by omega) value
    have hsecond := hfirst.trans (Patched.set (i := cp + 1) (by simp; omega) value)
    have hthird := hsecond.trans (Patched.set (i := cp + 2) (by simp; omega) value)
    have hfourth := hthird.trans (Patched.set (i := cp + 3) (by simp; omega) value)
    exact hfourth.congr fun j => by omega

/-! ## The loops -/

variable {n : Nat} {gdkpix : List UInt8} {body : Nat → Nat → List UInt8 → Except Fault (List UInt8)}

/-- The inner loop writes the pixels of a row, one after the other. -/
theorem copyRow_patched (hbody : CopiesPixel n gdkpix body) (hn : 0 < n) (hmax : n ≤ 4)
    {value : Nat → UInt8} {w gp cp : Nat} {cpix : List UInt8}
    (hgp : gp + n * w ≤ gdkpix.length) (hcp : cp + 4 * w ≤ cpix.length)
    (hvalue : ∀ x < w, ∀ c < n,
      value (cp + 4 * x + c) = surfaceByte n gdkpix (gp + n * x) c) :
    ∃ new, copyRow body n (gp + n * w : Nat) gp cp cpix = .ok new ∧
      Patched (fun j => ∃ x < w, cp + 4 * x ≤ j ∧ j < cp + 4 * x + n) value cpix new := by
  induction w generalizing gp cp cpix with
  | zero =>
    refine ⟨cpix, ?_, (Patched.refl value cpix).congr fun j => by simp⟩
    rw [copyRow, dif_neg (by omega)]
  | succ w ih =>
    rw [Nat.mul_succ] at hgp
    have hhere : ∀ c < n, value (cp + c) = surfaceByte n gdkpix gp c := by
      intro c hc
      have hfirst := hvalue 0 (by omega) c hc
      rwa [Nat.mul_zero, Nat.mul_zero, Nat.add_zero, Nat.add_zero] at hfirst
    obtain ⟨mid, hpixel, hmid⟩ := hbody gp cp cpix value (by omega) (by omega) hhere
    have hthere : ∀ x < w, ∀ c < n,
        value (cp + 4 + 4 * x + c) = surfaceByte n gdkpix (gp + n + n * x) c := by
      intro x hx c hc
      have hnext := hvalue (x + 1) (by omega) c hc
      rwa [Nat.mul_succ, Nat.mul_succ, Nat.add_comm (4 * x), Nat.add_comm (n * x),
        ← Nat.add_assoc, ← Nat.add_assoc] at hnext
    obtain ⟨new, hrest, hnew⟩ := @ih (gp + n) (cp + 4) mid (by omega)
      (by rw [hmid.length_eq]; omega) hthere
    refine ⟨new, ?_, (hmid.trans hnew).congr fun j => ?_⟩
    · rw [copyRow, dif_pos ⟨by rw [Nat.mul_succ]; omega, hn⟩, hpixel, CBlock.ok_bind,
        show gp + n * (w + 1) = gp + n + n * w by rw [Nat.mul_succ]; omega]
      exact hrest
    · constructor
      · rintro (hj | ⟨x, hx, hj⟩)
        · exact ⟨0, by omega, by omega⟩
        · exact ⟨x + 1, by omega, by omega⟩
      · rintro ⟨x, hx, hj⟩
        cases x with
        | zero => exact Or.inl (by omega)
        | succ x => exact Or.inr ⟨x, by omega, by omega⟩

/-- The outer loop writes the rows, one after the other. -/
theorem copyRows_patched (hbody : CopiesPixel n gdkpix body) (hn : 0 < n) (hmax : n ≤ 4)
    (value : Nat → UInt8) {w stride cstride i : Nat} (gp cp : Nat) {cpix : List UInt8}
    (hint : n * w < 2 ^ 31) (hgp : ∀ y < i, gp + y * stride + n * w ≤ gdkpix.length)
    (hcp : ∀ y < i, cp + y * cstride + 4 * w ≤ cpix.length)
    (hvalue : ∀ y < i, ∀ x < w, ∀ c < n, value (cp + y * cstride + 4 * x + c) =
      surfaceByte n gdkpix (gp + y * stride + n * x) c) :
    ∃ new, copyRows body n w stride cstride i gp cp cpix = .ok new ∧
      Patched (fun j => ∃ y < i, ∃ x < w, cp + y * cstride + 4 * x ≤ j ∧
        j < cp + y * cstride + 4 * x + n) value cpix new := by
  induction i generalizing gp cp cpix with
  | zero => exact ⟨cpix, rfl, (Patched.refl value cpix).congr fun j => by simp⟩
  | succ i ih =>
    have hword : CInt.word 32 (n * w : Nat) = (n * w : Nat) :=
      CInt.word_of_fits ⟨by omega, by omega⟩
    have hgpRow := hgp 0 (by omega)
    have hcpRow := hcp 0 (by omega)
    have hvalueRow := hvalue 0 (by omega)
    simp only [Nat.zero_mul, Nat.add_zero] at hgpRow hcpRow hvalueRow
    obtain ⟨mid, hrow, hmid⟩ := copyRow_patched hbody hn hmax hgpRow hcpRow hvalueRow
    have hshift : ∀ a s y, a + s + y * s = a + (y + 1) * s := by
      intro a s y
      rw [Nat.succ_mul]
      omega
    obtain ⟨new, hrest, hnew⟩ := ih (gp + stride) (cp + cstride)
      (fun y hy => by rw [hshift]; exact hgp (y + 1) (by omega))
      (fun y hy => by rw [hshift, hmid.length_eq]; exact hcp (y + 1) (by omega))
      (fun y hy => by rw [hshift, hshift]; exact hvalue (y + 1) (by omega))
    refine ⟨new, ?_, (hmid.trans hnew).congr fun j => ?_⟩
    · rw [copyRows, hword, ← Nat.cast_add, hrow, CBlock.ok_bind]
      exact hrest
    · constructor
      · rintro (⟨x, hx, hj⟩ | ⟨y, hy, x, hx, hj⟩)
        · exact ⟨0, by omega, x, hx, by omega⟩
        · rw [hshift] at hj
          exact ⟨y + 1, by omega, x, hx, hj⟩
      · rintro ⟨y, hy, x, hx, hj⟩
        cases y with
        | zero => exact Or.inl ⟨x, hx, by omega⟩
        | succ y => exact Or.inr ⟨y, by omega, x, hx, by rw [hshift]; exact hj⟩

/-! ## The surface -/

/-- What a byte of the surface is to hold, from its place. -/
def surfaceValue (n : Nat) (gdkpix : List UInt8) (stride cstride j : Nat) : UInt8 :=
  surfaceByte n gdkpix (j / cstride * stride + n * (j % cstride / 4)) (j % cstride % 4)

theorem surfaceValue_at (n : Nat) (gdkpix : List UInt8) (stride : Nat) {w cstride : Nat}
    (hstride : 4 * w ≤ cstride) (y : Nat) {x c : Nat} (hx : x < w) (hc : c < 4) :
    surfaceValue n gdkpix stride cstride (y * cstride + 4 * x + c) =
      surfaceByte n gdkpix (y * stride + n * x) c := by
  have hrow : (y * cstride + 4 * x + c) / cstride = y := by
    rw [Nat.add_assoc, Nat.mul_comm, Nat.mul_add_div (by omega), Nat.div_eq_of_lt (by omega),
      Nat.add_zero]
  have hcol : (y * cstride + 4 * x + c) % cstride = 4 * x + c := by
    rw [Nat.add_assoc, Nat.mul_comm, Nat.mul_add_mod, Nat.mod_eq_of_lt (by omega)]
  rw [surfaceValue, hrow, hcol, show (4 * x + c) / 4 = x by omega,
    show (4 * x + c) % 4 = c by omega]

/-- Channel `c` of the pixel in column `x` of row `y`. -/
def GdkPixbuf.channel (gdkbuf : GdkPixbuf) (gdkpix : List UInt8) (x y c : Nat) : Nat :=
  (gdkpix.getD (y * gdkbuf.rowstride + gdkbuf.nChannels * x + c) 0).toNat

/-- A pixel without an alpha channel is opaque. -/
def GdkPixbuf.alpha (gdkbuf : GdkPixbuf) (gdkpix : List UInt8) (x y : Nat) : Nat :=
  if gdkbuf.nChannels = 3 then 255 else gdkbuf.channel gdkpix x y 3

theorem surfaceByte_color (gdkbuf : GdkPixbuf) (gdkpix : List UInt8) (x y : Nat) {c : Nat}
    (hc : c < 3) :
    (surfaceByte gdkbuf.nChannels gdkpix (y * gdkbuf.rowstride + gdkbuf.nChannels * x) c).toNat =
      (2 * (gdkbuf.channel gdkpix x y (2 - c) * gdkbuf.alpha gdkpix x y) + 255) / 510 := by
  have hplace : y * gdkbuf.rowstride + gdkbuf.nChannels * x + 2 - c =
      y * gdkbuf.rowstride + gdkbuf.nChannels * x + (2 - c) := by omega
  rw [surfaceByte, GdkPixbuf.alpha, hplace]
  by_cases hrgb : gdkbuf.nChannels = 3
  · rw [if_pos hrgb, if_pos hrgb, GdkPixbuf.channel]
    omega
  · rw [if_neg hrgb, if_neg hrgb, if_neg (by omega), premulAlpha_toNat]
    rfl

/-- The surface is that of cairo, with every pixel of the pixbuf in its place. -/
structure PixelsCopied (gdkbuf : GdkPixbuf) (gdkpix : List UInt8)
    (cs : CairoImage gdkbuf.width gdkbuf.height) (cpix : List UInt8) : Prop where
  length_eq : cpix.length = cs.data.length
  /-- Blue, green and red are those of the pixbuf times the alpha, rounded. -/
  color : ∀ y < gdkbuf.height, ∀ x < gdkbuf.width, ∀ c < 3,
    (cpix[y * cs.stride + 4 * x + c]?).map UInt8.toNat =
      some ((2 * (gdkbuf.channel gdkpix x y (2 - c) * gdkbuf.alpha gdkpix x y) + 255) / 510)
  alpha : gdkbuf.nChannels ≠ 3 → ∀ y < gdkbuf.height, ∀ x < gdkbuf.width,
    (cpix[y * cs.stride + 4 * x + 3]?).map UInt8.toNat = some (gdkbuf.alpha gdkpix x y)
  /-- The padding of the rows, and the unused byte of a pixel without alpha. -/
  kept : ∀ j, (∀ y < gdkbuf.height, ∀ x < gdkbuf.width, ∀ c < gdkbuf.nChannels,
    j ≠ y * cs.stride + 4 * x + c) → cpix[j]? = cs.data[j]?

theorem pixelsCopied_of_patched {gdkbuf : GdkPixbuf} {gdkpix cpix : List UInt8}
    {cs : CairoImage gdkbuf.width gdkbuf.height} (hchan : 3 ≤ gdkbuf.nChannels)
    (h : Patched (fun j => ∃ y < gdkbuf.height, ∃ x < gdkbuf.width,
        0 + y * cs.stride + 4 * x ≤ j ∧ j < 0 + y * cs.stride + 4 * x + gdkbuf.nChannels)
      (surfaceValue gdkbuf.nChannels gdkpix gdkbuf.rowstride cs.stride) cs.data cpix) :
    PixelsCopied gdkbuf gdkpix cs cpix where
  length_eq := h.length_eq
  color y hy x hx c hc := by
    have hplace := h.touched (y * cs.stride + 4 * x + c) ⟨y, hy, x, hx, by omega, by omega⟩
    rw [hplace, surfaceValue_at _ _ _ cs.stride_le y hx (by omega), Option.map_some,
      surfaceByte_color gdkbuf gdkpix x y hc]
  alpha hrgba y hy x hx := by
    have hfour : gdkbuf.nChannels = 4 := le_antisymm gdkbuf.nChannels_le (by omega)
    have hplace := h.touched (y * cs.stride + 4 * x + 3) ⟨y, hy, x, hx, by omega, by omega⟩
    rw [hplace, surfaceValue_at _ _ _ cs.stride_le y hx (by omega), Option.map_some, surfaceByte,
      if_neg hrgba, if_pos rfl, GdkPixbuf.alpha, if_neg hrgba, GdkPixbuf.channel]
  kept j hj := by
    refine h.kept j ?_
    rintro ⟨y, hy, x, hx, hlo, hhi⟩
    exact hj y hy x hx (j - (y * cs.stride + 4 * x)) (by omega) (by omega)

/-- The rows of the pixbuf, the last one included, are inside its pixels. -/
theorem GdkPixbuf.row_inside (gdkbuf : GdkPixbuf) {gdkpix : List UInt8}
    (hpixels : gdkbuf.pixels = some gdkpix) {y : Nat} (hy : y < gdkbuf.height) :
    0 + y * gdkbuf.rowstride + gdkbuf.nChannels * gdkbuf.width ≤ gdkpix.length := by
  have hle : y * gdkbuf.rowstride ≤ (gdkbuf.height - 1) * gdkbuf.rowstride :=
    Nat.mul_le_mul_right _ (by omega)
  rw [gdkbuf.pixels_length gdkpix hpixels]
  omega

theorem CairoImage.row_inside {width height : Nat} (cs : CairoImage width height) {y : Nat}
    (hy : y < height) : 0 + y * cs.stride + 4 * width ≤ cs.data.length := by
  have hle : (y + 1) * cs.stride ≤ height * cs.stride := Nat.mul_le_mul_right _ hy
  have hstride := cs.stride_le
  rw [Nat.succ_mul] at hle
  rw [cs.data_length]
  omega

/-- The loops on a surface that could be made. -/
theorem copyRows_pixbuf {gdkbuf : GdkPixbuf} {gdkpix : List UInt8}
    (hpixels : gdkbuf.pixels = some gdkpix) (hchan : 3 ≤ gdkbuf.nChannels)
    (cs : CairoImage gdkbuf.width gdkbuf.height)
    {body : Nat → Nat → List UInt8 → Except Fault (List UInt8)}
    (hbody : CopiesPixel gdkbuf.nChannels gdkpix body) :
    ∃ cpix, copyRows body gdkbuf.nChannels gdkbuf.width gdkbuf.rowstride cs.stride gdkbuf.height
        0 0 cs.data = .ok cpix ∧ PixelsCopied gdkbuf gdkpix cs cpix := by
  have hmax := gdkbuf.nChannels_le
  have hint : gdkbuf.nChannels * gdkbuf.width < 2 ^ 31 := by
    have hle := Nat.mul_le_mul hmax cs.width_le
    omega
  obtain ⟨cpix, hrun, hpatched⟩ := copyRows_patched hbody (by omega) hmax
    (surfaceValue gdkbuf.nChannels gdkpix gdkbuf.rowstride cs.stride) 0 0 hint
    (fun y hy => gdkbuf.row_inside hpixels hy)
    (fun y hy => cs.row_inside hy)
    (fun y _ x hx c hc => by
      rw [Nat.zero_add, Nat.zero_add]
      exact surfaceValue_at _ _ _ cs.stride_le y hx (by omega))
  exact ⟨cpix, hrun, pixelsCopied_of_patched hchan hpatched⟩

/-- **The conversion of a pixbuf**: for every size, stride and content it stays inside the pixels
and the surface, whose last rows may end without padding, and puts every pixel in its place. -/
theorem pixbuf_copied (create : CreateImage) (gdkbuf : GdkPixbuf) :
    (gdkCairoImageSurfaceCreateFromPixbuf create gdkbuf = .ok none ∧
      (gdkbuf.nChannels < 3 ∨ gdkbuf.pixels = none ∨
        create (if gdkbuf.nChannels = 3 then .rgb24 else .argb32) gdkbuf.width gdkbuf.height =
          none)) ∨
    ∃ gdkpix cs cpix, gdkbuf.pixels = some gdkpix ∧
      create (if gdkbuf.nChannels = 3 then .rgb24 else .argb32) gdkbuf.width gdkbuf.height =
        some cs ∧
      gdkCairoImageSurfaceCreateFromPixbuf create gdkbuf = .ok (some (cs.stride, cpix)) ∧
      PixelsCopied gdkbuf gdkpix cs cpix := by
  rw [gdkCairoImageSurfaceCreateFromPixbuf]
  by_cases hfew : gdkbuf.nChannels < 3
  · left
    exact ⟨if_pos hfew, Or.inl hfew⟩
  rw [if_neg hfew]
  cases hpixels : gdkbuf.pixels with
  | none => exact Or.inl ⟨rfl, Or.inr (Or.inl rfl)⟩
  | some gdkpix =>
    cases hcreate : create (if gdkbuf.nChannels = 3 then .rgb24 else .argb32) gdkbuf.width
        gdkbuf.height with
    | none =>
      left
      simp only [hcreate]
      exact ⟨trivial, Or.inr (Or.inr trivial)⟩
    | some cs =>
      right
      simp only [hcreate]
      by_cases hrgb : gdkbuf.nChannels = 3
      · have hbody : CopiesPixel gdkbuf.nChannels gdkpix (copyRgb gdkpix) := by
          rw [hrgb]
          exact copyRgb_copies gdkpix
        obtain ⟨cpix, hrun, hcopied⟩ := copyRows_pixbuf hpixels (by omega) cs hbody
        refine ⟨gdkpix, cs, cpix, rfl, rfl, ?_, hcopied⟩
        rw [hrgb] at hrun
        rw [if_pos hrgb, hrun]
        rfl
      · have hrgba : gdkbuf.nChannels = 4 := le_antisymm gdkbuf.nChannels_le (by omega)
        have hbody : CopiesPixel gdkbuf.nChannels gdkpix (copyRgba gdkpix) := by
          rw [hrgba]
          exact copyRgba_copies gdkpix
        obtain ⟨cpix, hrun, hcopied⟩ := copyRows_pixbuf hpixels (by omega) cs hbody
        refine ⟨gdkpix, cs, cpix, rfl, rfl, ?_, hcopied⟩
        rw [hrgba] at hrun
        rw [if_neg hrgb, hrun]
        rfl

/-- Two rows of two pixels with alpha; the first row is padded, the last one is not. -/
def paddedPixbuf : GdkPixbuf where
  nChannels := 4
  width := 2
  height := 2
  rowstride := 12
  pixels := some [255, 0, 0, 128, 0, 255, 0, 255, 9, 9, 9, 9, 10, 20, 30, 0, 1, 2, 3, 255]
  nChannels_le := by decide
  height_pos := by decide
  row_le := by decide
  pixels_length := by
    rintro p ⟨⟩
    rfl

/-- Images whose rows are padded by four bytes. -/
def createPadded : CreateImage := fun _ width height =>
  if h : width ≤ 32767 then
    some {
      stride := 4 * width + 4
      data := List.replicate (height * (4 * width + 4)) 0
      width_le := h
      stride_le := by omega
      data_length := List.length_replicate }
  else none

/-- Half of the red of the first pixel is left, and it comes last of its colours. -/
theorem pixbuf_copied_padded : ∃ cs cpix, createPadded .argb32 2 2 = some cs ∧ cs.stride = 12 ∧
    gdkCairoImageSurfaceCreateFromPixbuf createPadded paddedPixbuf = .ok (some (12, cpix)) ∧
    PixelsCopied paddedPixbuf
      [255, 0, 0, 128, 0, 255, 0, 255, 9, 9, 9, 9, 10, 20, 30, 0, 1, 2, 3, 255] cs cpix ∧
    (cpix[2]?).map UInt8.toNat = some 128 := by
  rcases pixbuf_copied createPadded paddedPixbuf with
    ⟨-, hfew | hnone | hnone⟩ | ⟨gdkpix, cs, cpix, hpixels, hcreate, hrun, hcopied⟩
  · exact absurd hfew (by decide)
  · cases hnone
  · cases hnone
  · obtain rfl := Option.some.inj hpixels
    obtain rfl := Option.some.inj hcreate
    refine ⟨_, cpix, rfl, rfl, hrun, hcopied, ?_⟩
    exact hcopied.color 0 (by decide) 0 (by decide) 2 (by decide)

end SwaylockAuthd
