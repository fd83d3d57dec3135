import Mathlib.Data.List.Rotate
import Mathlib.Data.List.Forall2

/-!
# Rings of the last entries

A ring of `N` cells with a head that wraps and a count that saturates, against the unbounded
history of what was put into it.

* `Holds`: entry `k` is in cell `k % N` as long as it is one of the last `N`.
* `Holds.push`: a new entry at the head.
* `Holds.recent`: read from the oldest cell on, the ring is the end of the history.
* `fill`, `fill_eq`: the loop that copies a number of cells out.
-/

namespace Ring

variable {α β : Type*} {N : Nat} {R : α → β → Prop} {cells : List α} {head count : Nat}
  {history : List β}

/-- The ring after a history; `R` relates a cell to the entry it holds. -/
structure Holds (N : Nat) (R : α → β → Prop) (cells : List α) (head count : Nat)
    (history : List β) : Prop where
  length_eq : cells.length = N
  head_eq : head = history.length % N
  count_eq : count = min history.length N
  slot : ∀ k x, history.length ≤ k + N → history[k]? = some x →
    ∃ c, cells[k % N]? = some c ∧ R c x

theorem holds_nil (h : cells.length = N) : Holds N R cells 0 0 ([] : List β) where
  length_eq := h
  head_eq := (Nat.zero_mod N).symm
  count_eq := (Nat.zero_min N).symm
  slot k x _ hx := by simp at hx

/-- Two entries less than a turn apart are in different cells. -/
theorem cell_ne {j k : Nat} (hjk : j < k) (hk : k < j + N) : j % N ≠ k % N := by
  intro he
  have hdvd : N ∣ k - j := Nat.dvd_of_mod_eq_zero (Nat.sub_mod_eq_zero_of_mod_eq he.symm)
  have hle : N ≤ k - j := Nat.le_of_dvd (by omega) hdvd
  omega

/-- **A new entry at the head.** -/
theorem Holds.push (h : Holds N R cells head count history) (hN : 0 < N) {c : α} {x : β}
    (hR : R c x) :
    Holds N R (cells.set head c) ((head + 1) % N) (if count < N then count + 1 else count)
      (history ++ [x]) where
  length_eq := by rw [List.length_set, h.length_eq]
  head_eq := by
    rw [List.length_append, List.length_singleton, h.head_eq]
    exact Nat.mod_add_mod _ _ _
  count_eq := by
    have hcount := h.count_eq
    rw [List.length_append, List.length_singleton]
    split
    · omega
    · omega
  slot k y hk hy := by
    rw [List.length_append, List.length_singleton] at hk
    have hhead : head < cells.length := by
      rw [h.length_eq, h.head_eq]
      exact Nat.mod_lt _ hN
    rcases Nat.lt_or_ge k history.length with hlt | hge
    · -- an entry of the last turn but the one the new cell replaces
      rw [List.getElem?_append_left hlt] at hy
      obtain ⟨d, hd, hRd⟩ := h.slot k y (by omega) hy
      have hne : head ≠ k % N := by
        rw [h.head_eq]
        exact (cell_ne hlt (by omega)).symm
      exact ⟨d, by rw [List.getElem?_set_ne hne]; exact hd, hRd⟩
    · obtain rfl : k = history.length := by
        have hlt := (List.getElem?_eq_some_iff.mp hy).1
        rw [List.length_append, List.length_singleton] at hlt
        omega
      have hxy : x = y := by simpa using hy
      subst hxy
      rw [← h.head_eq]
      exact ⟨c, List.getElem?_set_self hhead, hR⟩

/-- The cell of the oldest entry. -/
def oldest (N head count : Nat) : Nat := (head + N - count) % N

/-- Counting from the oldest cell is counting from the oldest entry that is left. -/
theorem Holds.oldest_add_mod (h : Holds N R cells head count history) (i : Nat) :
    (oldest N head count + i) % N = (history.length - count + i) % N := by
  have hcount := h.count_eq
  rw [oldest, Nat.mod_add_mod, h.head_eq]
  rcases Nat.lt_or_ge history.length N with hlt | hge
  · rw [Nat.mod_eq_of_lt hlt, show history.length + N - count + i = i + N by omega,
      show history.length - count + i = i by omega, Nat.add_mod_right]
  · have hturn : history.length - count + i + N = history.length + i := by omega
    rw [show history.length % N + N - count + i = history.length % N + i by omega,
      Nat.mod_add_mod, ← hturn, Nat.add_mod_right]

/-- **Read from the oldest cell on, the ring is the end of the history.** -/
theorem Holds.recent (h : Holds N R cells head count history) :
    List.Forall₂ R ((cells.rotate (oldest N head count)).take count)
      (history.drop (history.length - count)) := by
  have hcount := h.count_eq
  have hlen := h.length_eq
  rw [List.forall₂_iff_get]
  refine ⟨by rw [List.length_take, List.length_rotate, List.length_drop]; omega, ?_⟩
  intro i hi hi'
  rw [List.length_take, List.length_rotate] at hi
  rw [List.length_drop] at hi'
  obtain ⟨c, hc, hR⟩ := h.slot (history.length - count + i)
    history[history.length - count + i] (by omega) (List.getElem?_eq_getElem _)
  rw [← h.oldest_add_mod] at hc
  have hread : ((cells.rotate (oldest N head count)).take count)[i]? = some c := by
    rw [List.getElem?_take_of_lt (by omega), List.getElem?_rotate (by omega), hlen,
      Nat.add_comm i]
    exact hc
  rw [List.get_eq_getElem, List.get_eq_getElem, List.getElem_drop,
    (List.getElem?_eq_some_iff.mp hread).2]
  exact hR

/-! ## Copying cells out -/

/-- Cell `i` gets what `read i` gives, for every `i` below `n`; `none` when one is out of
bounds. -/
def fill (read : Nat → Option α) : Nat → List α → Option (List α)
  | 0, out => some out
  | n + 1, out =>
    (fill read n out).bind fun out =>
      (read n).bind fun c => if n < out.length then some (out.set n c) else none

/-- What the loop leaves behind the cells it fills is what was there. -/
theorem fill_eq {read : Nat → Option α} {reads out : List α} (hout : reads.length ≤ out.length)
    (hread : ∀ i, i < reads.length → read i = reads[i]?) :
    ∀ n, n ≤ reads.length → fill read n out = some (reads.take n ++ out.drop n) := by
  intro n
  induction n with
  | zero => intro _; rfl
  | succ n ih =>
    intro hn
    have hlen : n < (reads.take n ++ out.drop n).length := by
      rw [List.length_append, List.length_take, List.length_drop]
      omega
    have hset : (reads.take n ++ out.drop n).set n reads[n] =
        reads.take (n + 1) ++ out.drop (n + 1) := by
      rw [List.set_append_right _ _ (by rw [List.length_take]; omega), List.length_take,
        show n - min n reads.length = 0 by omega, List.drop_eq_getElem_cons (by omega),
        List.set_cons_zero, List.take_succ_eq_append_getElem (by omega), List.append_assoc]
      rfl
    rw [fill, ih (by omega), Option.bind_some, hread n (by omega),
      List.getElem?_eq_getElem (by omega), Option.bind_some, if_pos hlen, hset]

end Ring
