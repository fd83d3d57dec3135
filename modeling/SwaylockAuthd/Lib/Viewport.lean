import Mathlib.Data.List.Basic

/-!
# A cursor in a list, and the window around it

A cursor in a list of `n` entries moves by one and stops at either end.  A window of at
most `rows` rows is drawn around it, and stops at the ends of the list too.

* `moves_lt`: the cursor stays in the list.
* `top_add_le`, `top_le`, `lt_top_add`: the window is in the list, and the cursor in the
  window.
-/

namespace Viewport

inductive Move
  | up
  | down
  deriving DecidableEq, Repr

/-- A step of a cursor in a list of `n` entries. -/
def move (n k : Nat) : Move → Nat
  | .up => k - 1
  | .down => min (k + 1) (n - 1)

/-- Steps of a cursor. -/
def moves (n k : Nat) (ms : List Move) : Nat := ms.foldl (move n) k

@[simp] theorem moves_nil (n k : Nat) : moves n k [] = k := rfl

@[simp] theorem moves_cons (n k : Nat) (m : Move) (ms : List Move) :
    moves n k (m :: ms) = moves n (move n k m) ms := rfl

theorem move_lt {n k : Nat} (h : k < n) (m : Move) : move n k m < n := by
  cases m with
  | up => exact Nat.lt_of_le_of_lt (Nat.sub_le k 1) h
  | down =>
    show min (k + 1) (n - 1) < n
    omega

/-- **The cursor stays in the list.** -/
theorem moves_lt {n k : Nat} (h : k < n) (ms : List Move) : moves n k ms < n := by
  induction ms generalizing k with
  | nil => exact h
  | cons m ms ih => exact ih (move_lt h m)

/-- The first row of a window of at most `rows` rows around the cursor. -/
def top (rows n k : Nat) : Nat := min (k - rows / 2) (n - rows)

theorem top_add_le (rows n k : Nat) : top rows n k + min n rows ≤ n := by
  have h : top rows n k ≤ n - rows := Nat.min_le_right _ _
  omega

theorem top_le (rows n k : Nat) : top rows n k ≤ k :=
  Nat.le_trans (Nat.min_le_left _ _) (Nat.sub_le _ _)

/-- **The window reaches the cursor.** -/
theorem lt_top_add {rows n k : Nat} (hrows : 0 < rows) (hk : k < n) :
    k < top rows n k + min n rows := by
  unfold top
  rcases Nat.le_total n rows with h | h
  · omega
  · rcases Nat.le_total (k - rows / 2) (n - rows) with hm | hm
    · rw [Nat.min_eq_left hm, Nat.min_eq_right h]
      omega
    · rw [Nat.min_eq_right hm, Nat.min_eq_right h]
      omega

end Viewport
