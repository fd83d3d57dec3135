import Mathlib.Data.List.Infix
import Mathlib.Data.List.TakeWhile

/-!
# C strings in heap blocks

A heap block is the list of its bytes, so that its length is what was allocated.  An access
outside it is a `Fault`; what a fresh byte holds is a parameter.

* `string`, `strstr`: reading a block as a C string.
* `realloc`, `memmove`, `store`, `strcpy`: changing it.
* `string_stored`, `memmove_tail`, `store_mid`, `strcpy_room`: what they do on a block that holds
  a string.
-/

namespace CBlock

/-- Why a run stops. -/
inductive Fault
  | assertion
  | nullPointer
  | beforeBlock
  | pastBlock
  | outOfFuel
  deriving DecidableEq, Repr

@[simp] theorem ok_bind {α β : Type} (a : α) (f : α → Except Fault β) :
    (Except.ok a >>= f) = f a := rfl

@[simp] theorem error_bind {α β : Type} (e : Fault) (f : α → Except Fault β) :
    (Except.error e >>= f) = .error e := rfl

/-! ## Reading -/

/-- The string at the start of a block, whose NUL byte must be inside. -/
def string (b : List UInt8) : Except Fault (List UInt8) :=
  if 0 ∈ b then .ok (b.takeWhile (· ≠ 0)) else .error .pastBlock

theorem string_stored {s : List UInt8} (h : 0 ∉ s) (rest : List UInt8) :
    string (s ++ 0 :: rest) = .ok s := by
  have htake : (s ++ 0 :: rest).takeWhile (· ≠ 0) = s := by
    rw [List.takeWhile_append_of_pos]
    · simp
    · intro c hc
      have hne : c ≠ 0 := fun he => h (he ▸ hc)
      simp [hne]
  rw [string, if_pos (by simp), htake]

/-- A string leaves room for its NUL byte. -/
theorem length_lt_of_string {b s : List UInt8} (h : string b = .ok s) : s.length < b.length := by
  rw [string] at h
  split at h
  · rename_i hmem
    obtain rfl := Except.ok.inj h
    have hsplit := congrArg List.length (List.takeWhile_append_dropWhile (p := (· ≠ 0)) (l := b))
    rw [List.length_append] at hsplit
    have hrest : b.dropWhile (· ≠ 0) ≠ [] := by
      intro hnil
      have hzero := List.dropWhile_eq_nil_iff.mp hnil 0 hmem
      simp at hzero
    have hpos := List.length_pos_iff.mpr hrest
    omega
  · cases h

/-- The offset of the first occurrence of a string in another. -/
def strstr (needle : List UInt8) : List UInt8 → Option Nat
  | [] => if needle = [] then some 0 else none
  | c :: s => if needle <+: c :: s then some 0 else (strstr needle s).map (· + 1)

/-! ## Changing -/

/-- A new block of a size, which is an `int` that the call converts to `size_t`. -/
def malloc (fresh : UInt8) (size : Int) : Option (List UInt8) :=
  if size < 0 then none else some (List.replicate size.toNat fresh)

def realloc (fresh : UInt8) (b : List UInt8) (size : Nat) : List UInt8 :=
  b.take size ++ List.replicate (size - b.length) fresh

def memmove (b : List UInt8) (dst src n : Nat) : Except Fault (List UInt8) :=
  if dst + n ≤ b.length ∧ src + n ≤ b.length then
    .ok (b.take dst ++ (b.drop src).take n ++ b.drop (dst + n))
  else .error .pastBlock

/-- One byte at an index, which may be negative. -/
def store (b : List UInt8) (i : Int) (c : UInt8) : Except Fault (List UInt8) :=
  if i < 0 then .error .beforeBlock
  else if i.toNat < b.length then .ok (b.set i.toNat c)
  else .error .pastBlock

/-- A string with its NUL byte at an offset, which may be negative. -/
def strcpy (b : List UInt8) (offset : Int) (s : List UInt8) : Except Fault (List UInt8) :=
  if offset < 0 then .error .beforeBlock
  else if offset.toNat + (s.length + 1) ≤ b.length then
    .ok (b.take offset.toNat ++ s ++ 0 :: b.drop (offset.toNat + (s.length + 1)))
  else .error .pastBlock

theorem realloc_succ (fresh : UInt8) (b : List UInt8) :
    realloc fresh b (b.length + 1) = b ++ [fresh] := by
  rw [realloc, List.take_of_length_le (Nat.le_succ _), Nat.add_sub_cancel_left]
  rfl

/-- Moving the end of a block back by one byte, over the one spare byte. -/
theorem memmove_tail (u v : List UInt8) (c spare : UInt8) :
    memmove (u ++ c :: v ++ [spare]) (u.length + 1) u.length (v.length + 1) =
      .ok (u ++ c :: c :: v) := by
  have hroom : u.length + 1 + (v.length + 1) ≤ (u ++ c :: v ++ [spare]).length ∧
      u.length + (v.length + 1) ≤ (u ++ c :: v ++ [spare]).length := by
    simp only [List.length_append, List.length_cons, List.length_nil]
    omega
  have hfront : (u ++ c :: v ++ [spare]).take (u.length + 1) = u ++ [c] := by
    rw [show u ++ c :: v ++ [spare] = (u ++ [c]) ++ (v ++ [spare]) by simp]
    exact List.take_left' (by simp)
  have hmoved : ((u ++ c :: v ++ [spare]).drop u.length).take (v.length + 1) = c :: v := by
    rw [List.append_assoc, List.drop_left' rfl]
    exact List.take_left' (by simp)
  have hrest : (u ++ c :: v ++ [spare]).drop (u.length + 1 + (v.length + 1)) = [] := by
    apply List.drop_of_length_le
    simp only [List.length_append, List.length_cons, List.length_nil]
    omega
  rw [memmove, if_pos hroom, hfront, hmoved, hrest]
  simp

theorem store_mid (u v : List UInt8) (c d : UInt8) :
    store (u ++ c :: v) u.length d = .ok (u ++ d :: v) := by
  have hlt : (u.length : Int).toNat < (u ++ c :: v).length := by
    simp only [List.length_append, List.length_cons]
    omega
  rw [store, if_neg (by omega), if_pos hlt, Int.toNat_natCast, List.set_append_right _ _ (by omega),
    Nat.sub_self, List.set_cons_zero]

/-- A string behind what is there already, with room for it. -/
theorem strcpy_room (u s v w : List UInt8) (hv : v.length = s.length + 1) :
    strcpy (u ++ v ++ w) u.length s = .ok (u ++ s ++ 0 :: w) := by
  have hroom : (u.length : Int).toNat + (s.length + 1) ≤ (u ++ v ++ w).length := by
    simp only [List.length_append]
    omega
  have hfront : (u ++ v ++ w).take u.length = u := by
    rw [List.append_assoc]
    exact List.take_left' rfl
  have hrest : (u ++ v ++ w).drop (u.length + (s.length + 1)) = w := by
    apply List.drop_left'
    rw [List.length_append, hv]
  rw [strcpy, if_neg (by omega), if_pos hroom, Int.toNat_natCast, hfront, hrest]

/-- Where a string is copied to and how far it reaches. -/
theorem strcpy_cases {b : List UInt8} {offset : Int} (h : 0 ≤ offset) (s : List UInt8) :
    strcpy b offset s = .error .pastBlock ∨
      offset + (s.length + 1) ≤ b.length ∧
        ∃ c, strcpy b offset s = .ok c ∧ c.length = b.length := by
  by_cases hroom : offset.toNat + (s.length + 1) ≤ b.length
  · right
    refine ⟨by omega, _, by rw [strcpy, if_neg (by omega), if_pos hroom], ?_⟩
    simp only [List.length_append, List.length_take, List.length_cons, List.length_drop]
    omega
  · left
    rw [strcpy, if_neg (by omega), if_neg hroom]

theorem store_inside {b : List UInt8} {i : Int} (h : 0 ≤ i) (hi : i < b.length) (c : UInt8) :
    store b i c = .ok (b.set i.toNat c) := by
  rw [store, if_neg (by omega), if_pos (by omega)]

end CBlock
