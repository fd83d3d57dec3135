import Mathlib.Data.Int.Log
import Mathlib.Data.Rat.Floor
import Mathlib.Tactic.Linarith
import Mathlib.Tactic.FieldSimp
import Mathlib.Tactic.Positivity

/-!
# Rounding to `p` binary digits

The result of a floating-point operation is the exact result, rounded to the nearest number with
`p` binary digits; of two numbers as near the even one.  The exponent has no bounds here.

* `nearest`: the nearest integer.  `unit p q`: the last place of `q`.
* `abs_round_sub_le`: the relative error.
* `round_eq_self`: a number with `p` digits is not rounded.
-/

namespace Binary

/-- The nearest integer, of two the even one. -/
def nearest (q : ℚ) : ℤ :=
  if q - ⌊q⌋ < 1 / 2 ∨ (q - ⌊q⌋ = 1 / 2 ∧ ⌊q⌋ % 2 = 0) then ⌊q⌋ else ⌊q⌋ + 1

/-- The value of the last of the `p` digits. -/
def unit (p : ℕ) (q : ℚ) : ℚ := 2 ^ (Int.log 2 |q| + 1 - p)

/-- `q`, rounded to `p` digits. -/
def round (p : ℕ) (q : ℚ) : ℚ := nearest (q / unit p q) * unit p q

theorem abs_nearest_sub_le (q : ℚ) : |(nearest q : ℚ) - q| ≤ 1 / 2 := by
  have hle := Int.floor_le q
  have hlt := Int.lt_floor_add_one q
  rw [abs_le, nearest]
  split
  · rename_i hdown
    have hfrac : q - ⌊q⌋ ≤ 1 / 2 := hdown.elim le_of_lt fun h => h.1.le
    constructor <;> linarith
  · rename_i hup
    have hfrac : 1 / 2 ≤ q - ⌊q⌋ := not_lt.mp fun h => hup (Or.inl h)
    push_cast
    constructor <;> linarith

@[simp] theorem nearest_intCast (m : ℤ) : nearest m = m := by
  simp [nearest]

theorem unit_pos (p : ℕ) (q : ℚ) : 0 < unit p q := zpow_pos (by norm_num) _

/-- Half of the last place is a small part of the number. -/
theorem unit_le (p : ℕ) {q : ℚ} (hq : q ≠ 0) : unit p q / 2 ≤ |q| / 2 ^ p := by
  have hlog : (2 : ℚ) ^ Int.log 2 |q| ≤ |q| := Int.zpow_log_le_self (by decide) (abs_pos.mpr hq)
  have hunit : unit p q / 2 = 2 ^ Int.log 2 |q| / 2 ^ p := by
    rw [unit, zpow_sub₀ two_ne_zero, zpow_add_one₀ two_ne_zero, zpow_natCast]
    ring
  rw [hunit]
  gcongr

@[simp] theorem round_zero (p : ℕ) : round p 0 = 0 := by
  have hzero := nearest_intCast 0
  rw [Int.cast_zero] at hzero
  rw [round, zero_div, hzero, Int.cast_zero, zero_mul]

/-- **The relative error** of a rounding to `p` digits. -/
theorem abs_round_sub_le (p : ℕ) (q : ℚ) : |round p q - q| ≤ |q| / 2 ^ p := by
  by_cases hq : q = 0
  · simp [hq]
  · have hunit := unit_pos p q
    have hscaled : round p q - q = (nearest (q / unit p q) - q / unit p q) * unit p q := by
      rw [round]
      field_simp
    calc |round p q - q|
        = |(nearest (q / unit p q) : ℚ) - q / unit p q| * unit p q := by
          rw [hscaled, abs_mul, abs_of_pos hunit]
      _ ≤ 1 / 2 * unit p q :=
          mul_le_mul_of_nonneg_right (abs_nearest_sub_le _) hunit.le
      _ ≤ |q| / 2 ^ p := by
          have hle := unit_le p hq
          linarith

/-- **A number with `p` digits** is not rounded. -/
theorem round_eq_self {p : ℕ} {m k : ℤ} (hm : |m| < 2 ^ p) :
    round p (m * 2 ^ k) = m * 2 ^ k := by
  by_cases hzero : m = 0
  · simp [hzero]
  · have hpow : (0 : ℚ) < 2 ^ k := zpow_pos (by norm_num) _
    have hne : (m : ℚ) * 2 ^ k ≠ 0 := mul_ne_zero (by exact_mod_cast hzero) hpow.ne'
    have hlog : Int.log 2 |(m : ℚ) * 2 ^ k| < p + k := by
      rw [← Int.lt_zpow_iff_log_lt (by decide) (abs_pos.mpr hne), abs_mul, abs_of_pos hpow,
        Nat.cast_ofNat, zpow_add₀ two_ne_zero, zpow_natCast]
      gcongr
      exact_mod_cast hm
    -- the last place divides the number
    obtain ⟨n, hn⟩ : ∃ n : ℕ, k = Int.log 2 |(m : ℚ) * 2 ^ k| + 1 - p + n :=
      ⟨(k - (Int.log 2 |(m : ℚ) * 2 ^ k| + 1 - p)).toNat, by omega⟩
    have hdiv : (m : ℚ) * 2 ^ k / unit p (m * 2 ^ k) = (m * 2 ^ n : ℤ) := by
      have hunit : unit p (m * 2 ^ k) ≠ 0 := (unit_pos p _).ne'
      rw [div_eq_iff hunit]
      conv_lhs => rw [hn]
      rw [zpow_add₀ two_ne_zero, zpow_natCast, unit]
      push_cast
      ring
    rw [round, hdiv, nearest_intCast, ← hdiv, div_mul_cancel₀ _ (unit_pos p _).ne']

example : round 53 (1 / 3) = 6004799503160661 / 2 ^ 54 := by decide +kernel

end Binary
