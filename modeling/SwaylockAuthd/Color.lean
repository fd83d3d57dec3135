import SwaylockAuthd.Json
import SwaylockAuthd.Lib.CInt
import SwaylockAuthd.Lib.Numeral

/-!
# `main.c`: colours

`parse_color` takes `rrggbb[aa]` behind an optional `#`.  It checks the length, which it keeps in an
`int`, and leaves the rest to `strtoul`.

* `documentedColor`: the documented colours, and the fallback for every other string.
* `parseColor_iff`: the strings on which the code agrees with it.
-/

namespace SwaylockAuthd

open Numeral

/-- The string behind a leading `#`. -/
def withoutHash (color : CString) : CString :=
  if color.head? = some 0x23 then color.tail else color

/-- `parse_color`. -/
def parseColor (color : CString) : UInt32 :=
  let color := withoutHash color
  let len := CInt.word 32 color.length
  if len ≠ 6 ∧ len ≠ 8 then 0xFFFFFFFF
  else
    let res := UInt32.ofNat (strtoul 16 color)
    if color.length = 6 then (res <<< 8) ||| 0xFF else res

/-- Six digits are a colour without alpha, eight are one with it; anything else is the fallback. -/
def documentedColor (color : CString) : UInt32 :=
  let s := withoutHash color
  if s.all (isDigit 16) then
    if s.length = 6 then (UInt32.ofNat (digits 16 0 s) <<< 8) ||| 0xFF
    else if s.length = 8 then UInt32.ofNat (digits 16 0 s)
    else 0xFFFFFFFF
  else 0xFFFFFFFF

/-! ## Numbers of which the low bits are all ones -/

theorem toNat_opaque (n : Nat) :
    ((UInt32.ofNat n <<< 8) ||| 0xFF).toNat = 256 * (n % 2 ^ 24) + 255 := by
  have hor := Nat.two_pow_add_eq_or_of_lt (i := 8) (b := 255) (by omega) (n % 2 ^ 24)
  have hshift : (UInt32.ofNat n <<< 8).toNat = 2 ^ 8 * (n % 2 ^ 24) := by
    rw [UInt32.toNat_shiftLeft, UInt32.toNat_ofNat']
    show (n % 2 ^ 32) <<< 8 % 2 ^ 32 = 2 ^ 8 * (n % 2 ^ 24)
    rw [Nat.shiftLeft_eq]
    omega
  rw [UInt32.toNat_or, hshift]
  exact hor.symm

theorem opaque_eq_white {n : Nat} :
    (UInt32.ofNat n <<< 8) ||| 0xFF = 0xFFFFFFFF ↔ n % 2 ^ 24 = 2 ^ 24 - 1 := by
  rw [← UInt32.toNat_inj, toNat_opaque]
  show 256 * (n % 2 ^ 24) + 255 = 4294967295 ↔ _
  omega

theorem ofNat_eq_white {n : Nat} :
    UInt32.ofNat n = 0xFFFFFFFF ↔ n % 2 ^ 32 = 2 ^ 32 - 1 := by
  rw [← UInt32.toNat_inj, UInt32.toNat_ofNat']
  show n % 2 ^ 32 = 4294967295 ↔ _
  omega

/-- The sign and the number that `strtoul` makes a value with all ones in its low half of. -/
def AllOnes (r : Bool × Nat) : Prop :=
  2 ^ 64 ≤ r.2 ∨ (r.1 = true ∧ r.2 % 2 ^ 32 = 1) ∨ (r.1 = false ∧ r.2 % 2 ^ 32 = 2 ^ 32 - 1)

theorem strtoul_mod (s : CString) :
    strtoul 16 s % 2 ^ 32 = 2 ^ 32 - 1 ↔ AllOnes (read 16 s) := by
  rw [strtoul, AllOnes]
  obtain ⟨negative, n⟩ := read 16 s
  simp only
  cases negative with
  | true =>
    split
    · omega
    · simp only [if_true, true_and, Bool.true_eq_false, false_and, or_false]
      omega
  | false =>
    split
    · omega
    · simp only [Bool.false_eq_true, if_false, false_and, false_or, true_and]
      omega

/-! ## The strings that agree -/

/-- The length is not taken for six or eight; or it is, and the string is hexadecimal or reads as
minus one; or it is so long that an `int` cannot hold its length, and reads as all ones. -/
def ColorAgrees (s : CString) : Prop :=
  (CInt.word 32 s.length ≠ 6 ∧ CInt.word 32 s.length ≠ 8) ∨
    ((s.length = 6 ∨ s.length = 8) ∧ ((∀ c ∈ s, isDigit 16 c = true) ∨ MinusOne s)) ∨
    (2 ^ 32 ≤ s.length ∧ AllOnes (read 16 s))

theorem length_of_word {n : Nat} (h : ¬ (CInt.word 32 n ≠ 6 ∧ CInt.word 32 n ≠ 8)) :
    n = 6 ∨ n = 8 ∨ 2 ^ 32 ≤ n := by
  rw [CInt.word, Int.bmod_def] at h
  split at h
  · omega
  · omega

/-- A string of hexadecimal digits that `strtoul` can hold. -/
theorem strtoul_hex {s : CString} (h : ∀ c ∈ s, isDigit 16 c = true) (hlen : s.length ≤ 8) :
    strtoul 16 s = digits 16 0 s := by
  have hlt := digits_lt (show 0 < 16 by omega) s 0
  have hpow : 16 ^ s.length ≤ 16 ^ 8 := Nat.pow_le_pow_right (by omega) hlen
  rw [strtoul, read_hex h]
  simp only
  rw [if_neg (by omega), if_neg Bool.false_ne_true]

theorem exists_not_digit {s : CString} (h : ¬ ∀ c ∈ s, isDigit 16 c = true) :
    ∃ c ∈ s, isDigit 16 c = false := by
  by_contra hnone
  apply h
  intro c hc
  by_contra hdigit
  exact hnone ⟨c, hc, by simpa using hdigit⟩

/-- A number too short for the bits that are kept gives all ones only as minus one. -/
theorem strtoul_junk {s : CString} {M : Nat} (hM : M ∣ 2 ^ 64) (hlt : (read 16 s).2 + 1 < M) :
    strtoul 16 s % M = M - 1 ↔ MinusOne s := by
  have hle : M ≤ 2 ^ 64 := Nat.le_of_dvd (by decide) hM
  rw [← read_eq_minus_one, strtoul]
  generalize read 16 s = r at hlt
  obtain ⟨negative, n⟩ := r
  simp only [Prod.mk.injEq] at hlt ⊢
  rw [if_neg (by omega)]
  cases negative with
  | true =>
    rw [if_pos rfl, Nat.mod_mod_of_dvd _ hM]
    simp only [true_and]
    rcases Nat.eq_zero_or_pos n with rfl | hpos
    · rw [Nat.sub_zero, Nat.mod_eq_zero_of_dvd hM]
      omega
    · obtain ⟨q, hq⟩ := hM
      have hsplit : 2 ^ 64 - n = M - n + M * (q - 1) := by
        rw [Nat.mul_sub_one, ← hq]
        omega
      rw [hsplit, Nat.add_mul_mod_self_left, Nat.mod_eq_of_lt (by omega)]
      omega
  | false =>
    rw [if_neg Bool.false_ne_true, Nat.mod_eq_of_lt (by omega)]
    simp only [Bool.false_eq_true, false_and, iff_false]
    omega

theorem colorAgrees_short {s : CString} (hlen : s.length = 6 ∨ s.length = 8) :
    ColorAgrees s ↔ (∀ c ∈ s, isDigit 16 c = true) ∨ MinusOne s := by
  rw [ColorAgrees]
  constructor
  · rintro (⟨hsix, height⟩ | ⟨-, h⟩ | ⟨h, -⟩)
    · rcases hlen with hlen | hlen
      · rw [hlen] at hsix
        exact absurd (by decide) hsix
      · rw [hlen] at height
        exact absurd (by decide) height
    · exact h
    · omega
  · intro h
    exact Or.inr (Or.inl ⟨hlen, h⟩)

theorem colorAgrees_long {s : CString}
    (hword : ¬ (CInt.word 32 s.length ≠ 6 ∧ CInt.word 32 s.length ≠ 8))
    (hlen : 2 ^ 32 ≤ s.length) : ColorAgrees s ↔ AllOnes (read 16 s) := by
  rw [ColorAgrees]
  constructor
  · rintro (h | ⟨h, -⟩ | ⟨-, h⟩)
    · exact absurd h hword
    · omega
    · exact h
  · intro h
    exact Or.inr (Or.inr ⟨hlen, h⟩)

/-- **The strings on which `parse_color` does what is documented.** -/
theorem parseColor_iff (color : CString) :
    parseColor color = documentedColor color ↔ ColorAgrees (withoutHash color) := by
  rw [parseColor, documentedColor]
  generalize withoutHash color = s
  simp only [List.all_eq_true]
  by_cases hword : CInt.word 32 s.length ≠ 6 ∧ CInt.word 32 s.length ≠ 8
  · have hsix : s.length ≠ 6 := fun h => hword.1 (by rw [h]; decide)
    have height : s.length ≠ 8 := fun h => hword.2 (by rw [h]; decide)
    rw [if_pos hword, if_neg hsix, if_neg height, ite_self]
    exact ⟨fun _ => Or.inl hword, fun _ => rfl⟩
  · rw [if_neg hword]
    by_cases hhex : ∀ c ∈ s, isDigit 16 c = true
    · rw [if_pos hhex]
      rcases length_of_word hword with hlen | hlen | hlen
      · rw [if_pos hlen, if_pos hlen, strtoul_hex hhex (by omega), colorAgrees_short (Or.inl hlen)]
        exact ⟨fun _ => Or.inl hhex, fun _ => rfl⟩
      · rw [if_neg (by omega), if_neg (by omega), if_pos hlen, strtoul_hex hhex (by omega),
          colorAgrees_short (Or.inr hlen)]
        exact ⟨fun _ => Or.inl hhex, fun _ => rfl⟩
      · rw [if_neg (by omega), if_neg (by omega), if_neg (by omega), ofNat_eq_white, strtoul_mod,
          colorAgrees_long hword hlen]
    · have hlt := read_lt (exists_not_digit hhex)
      rw [if_neg hhex]
      rcases length_of_word hword with hlen | hlen | hlen
      · rw [if_pos hlen, opaque_eq_white, strtoul_junk (by decide) (by rw [hlen] at hlt; omega),
          colorAgrees_short (Or.inl hlen)]
        exact ⟨Or.inr, fun h => h.resolve_left hhex⟩
      · rw [if_neg (by omega), ofNat_eq_white,
          strtoul_junk (by decide) (by rw [hlen] at hlt; omega), colorAgrees_short (Or.inr hlen)]
        exact ⟨Or.inr, fun h => h.resolve_left hhex⟩
      · rw [if_neg (by omega), ofNat_eq_white, strtoul_mod, colorAgrees_long hword hlen]

/-- Letters that are no digits, a prefix, blanks and a sign are taken for a colour. -/
theorem parseColor_ne_documented :
    (¬ ∀ color : CString, parseColor color = documentedColor color) ∧
      parseColor (ascii "zzzzzz") = 0x000000FF ∧ parseColor (ascii "0x12ab") = 0x0012ABFF ∧
      parseColor (ascii "  12ab") = 0x0012ABFF ∧ parseColor (ascii "-00012") = 0xFFFFEEFF ∧
      parseColor (ascii "#12345678junk") = 0xFFFFFFFF ∧
      parseColor (ascii "1234junk") = 0x00001234 := by
  refine ⟨fun hall => ?_, by decide, by decide, by decide, by decide, by decide, by decide⟩
  have hzzzzzz := hall (ascii "zzzzzz")
  revert hzzzzzz
  decide

end SwaylockAuthd
