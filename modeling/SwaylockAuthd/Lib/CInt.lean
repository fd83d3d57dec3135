import Mathlib.Data.Int.Order.Lemmas

/-!
# Signed words and truncating division

A `w`-bit signed word holds the balanced residue of an integer.  Sums may wrap on the way: what
counts is whether the total fits.

* `Fits`, `word_of_fits`, `fits_word`: what a word holds is in range, and an integer in range is
  stored as itself.
* `word_word_add`: an intermediate result that wraps does no harm.
* `abs_tdiv_mul_sub_lt`: truncating division is off by less than one.
-/

namespace CInt

/-- What a `w`-bit signed word holds of an integer. -/
def word (w : Nat) (n : Int) : Int := n.bmod (2 ^ w)

/-- The integers of a `w`-bit signed word. -/
def Fits (w : Nat) (n : Int) : Prop := -(2 ^ w : Int) ≤ 2 * n ∧ 2 * n < 2 ^ w

instance (w : Nat) (n : Int) : Decidable (Fits w n) := inferInstanceAs (Decidable (_ ∧ _))

theorem word_of_fits {w : Nat} {n : Int} (h : Fits w n) : word w n = n := by
  obtain ⟨lo, hi⟩ := h
  exact Int.bmod_eq_of_le_mul_two (by push_cast; omega) (by push_cast; omega)

theorem fits_word (w : Nat) (n : Int) : Fits w (word w n) := by
  have hpos : 0 < 2 ^ w := Nat.two_pow_pos w
  have hlo := Int.le_bmod (x := n) hpos
  have hhi := Int.bmod_lt (x := n) hpos
  constructor
  · rw [word]
    push_cast at hlo
    omega
  · rw [word]
    push_cast at hhi
    omega

/-- **A sum may wrap on the way.** -/
theorem word_word_add (w : Nat) (m n : Int) : word w (word w m + n) = word w (m + n) := by
  unfold word
  exact Int.bmod_add_bmod

/-- **Truncating division is off by less than one**, whatever the sign. -/
theorem abs_tdiv_mul_sub_lt (a : Int) {d : Int} (hd : 0 < d) : |a.tdiv d * d - a| < d := by
  have hsplit := Int.tdiv_mul_add_tmod a d
  have hhi : a.tmod d < d := Int.tmod_lt_of_pos a hd
  have hlo : -d < a.tmod d := Int.lt_tmod_of_pos a hd
  rw [abs_lt]
  constructor
  · omega
  · omega

end CInt
