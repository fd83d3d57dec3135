import SwaylockAuthd.Lib.Framing

/-!
# UTF-8 bit patterns

`encode c` is the standard pattern of a code point, one to four bytes by range;
nothing is said about which code points are assigned, and surrogates have their
three-byte pattern.

* `encode_eq_cons`: a lead byte that is no continuation byte, and continuation
  bytes behind it.
* `writes_encode`, `items_flatMap_encode`: reading the pattern, and a sequence of
  patterns, back.
* `zero_notMem_encode`: only the code point `0` has a zero byte.
-/

namespace Utf8

/-- A continuation byte, `10xxxxxx`. -/
def IsCont (b : UInt8) : Prop := 0x80 ≤ b.toNat ∧ b.toNat < 0xC0

instance (b : UInt8) : Decidable (IsCont b) := inferInstanceAs (Decidable (_ ∧ _))

/-- The number of bytes of a code point. -/
def size (c : Nat) : Nat :=
  if c < 0x80 then 1 else if c < 0x800 then 2 else if c < 0x10000 then 3 else 4

/-- The continuation byte with the six low bits of `c`. -/
def cont (c : Nat) : UInt8 := UInt8.ofNat (0x80 + c % 64)

/-- The bytes of a code point. -/
def encode (c : Nat) : List UInt8 :=
  if c < 0x80 then [UInt8.ofNat c]
  else if c < 0x800 then [UInt8.ofNat (0xC0 + c / 64), cont c]
  else if c < 0x10000 then [UInt8.ofNat (0xE0 + c / 4096), cont (c / 64), cont c]
  else [UInt8.ofNat (0xF0 + c / 262144), cont (c / 4096), cont (c / 64), cont c]

theorem length_encode (c : Nat) : (encode c).length = size c := by
  rw [encode, size]
  split
  · rfl
  · split
    · rfl
    · split <;> rfl

theorem size_pos (c : Nat) : 0 < size c := by
  rw [size]
  split
  · decide
  · split
    · decide
    · split <;> decide

theorem toNat_cont (c : Nat) : (cont c).toNat = 0x80 + c % 64 := by
  rw [cont, UInt8.toNat_ofNat', Nat.mod_eq_of_lt (by omega)]

theorem isCont_cont (c : Nat) : IsCont (cont c) := by
  rw [IsCont, toNat_cont]
  omega

/-- A pattern is a lead byte and continuation bytes. -/
theorem encode_eq_cons {c : Nat} (hc : c < 0x200000) :
    ∃ lead conts, encode c = lead :: conts ∧ ¬ IsCont lead ∧ (∀ b ∈ conts, IsCont b) := by
  have lead : ∀ n, n < 256 → ¬ (0x80 ≤ n ∧ n < 0xC0) → ¬ IsCont (UInt8.ofNat n) := by
    intro n hn h
    rw [IsCont, UInt8.toNat_ofNat', Nat.mod_eq_of_lt hn]
    exact h
  rw [encode]
  split
  · exact ⟨_, _, rfl, lead _ (by omega) (by omega), by simp⟩
  · split
    · exact ⟨_, _, rfl, lead _ (by omega) (by omega), by simp [isCont_cont]⟩
    · split
      · exact ⟨_, _, rfl, lead _ (by omega) (by omega), by simp [isCont_cont]⟩
      · exact ⟨_, _, rfl, lead _ (by omega) (by omega), by simp [isCont_cont]⟩

theorem zero_notMem_encode {c : Nat} (h0 : c ≠ 0) (hc : c < 0x200000) : (0 : UInt8) ∉ encode c := by
  have lead : ∀ n, n < 256 → n ≠ 0 → (0 : UInt8) ≠ UInt8.ofNat n := by
    intro n hn h he
    have := congrArg UInt8.toNat he
    rw [UInt8.toNat_ofNat', Nat.mod_eq_of_lt hn] at this
    exact h this.symm
  have conts : ∀ n, (0 : UInt8) ≠ cont n := by
    intro n he
    have := congrArg UInt8.toNat he
    rw [toNat_cont, UInt8.toNat_zero] at this
    omega
  rw [encode]
  split
  · exact List.not_mem_cons_of_ne_of_not_mem (lead c (by omega) h0) (by simp)
  · split
    · exact List.not_mem_cons_of_ne_of_not_mem (lead _ (by omega) (by omega)) (by simp [conts])
    · split
      · exact List.not_mem_cons_of_ne_of_not_mem (lead _ (by omega) (by omega)) (by simp [conts])
      · exact List.not_mem_cons_of_ne_of_not_mem (lead _ (by omega) (by omega)) (by simp [conts])

/-- The last byte of a pattern is ASCII if and only if it is the only one. -/
theorem encode_eq_concat (c : Nat) :
    ∃ front last, encode c = front ++ [last] ∧ (0x80 ≤ last.toNat ↔ front ≠ []) := by
  have wide : ∀ n, 0x80 ≤ (cont n).toNat := fun n => (isCont_cont n).1
  rw [encode]
  split
  · rename_i h
    refine ⟨[], UInt8.ofNat c, rfl, ?_⟩
    rw [UInt8.toNat_ofNat', Nat.mod_eq_of_lt (by omega)]
    exact ⟨fun hc => absurd h (by omega), fun hc => absurd rfl hc⟩
  · split
    · exact ⟨[_], cont c, rfl, by simp [wide]⟩
    · split
      · exact ⟨[_, _], cont c, rfl, by simp [wide]⟩
      · exact ⟨[_, _, _], cont c, rfl, by simp [wide]⟩

/-! ## Reading patterns back -/

/-- Read `n` continuation bytes behind a lead byte with the bits `acc`. -/
def conts : Nat → Nat → List UInt8 → Framing.Head UInt8 Nat
  | 0, acc, l => .item acc l
  | _ + 1, _, [] => .more
  | n + 1, acc, b :: l =>
    if IsCont b then conts n (acc * 64 + (b.toNat - 0x80)) l else .bad

/-- The code point a byte stream starts with. -/
def head : List UInt8 → Framing.Head UInt8 Nat
  | [] => .more
  | b :: l =>
    if b.toNat < 0x80 then .item b.toNat l
    else if b.toNat < 0xC0 then .bad
    else if b.toNat < 0xE0 then conts 1 (b.toNat - 0xC0) l
    else if b.toNat < 0xF0 then conts 2 (b.toNat - 0xE0) l
    else if b.toNat < 0xF8 then conts 3 (b.toNat - 0xF0) l
    else .bad

theorem conts_shorter : ∀ {n acc : Nat} {l r : List UInt8} {c : Nat},
    conts n acc l = .item c r → r.length ≤ l.length := by
  intro n
  induction n with
  | zero => intro acc l r c h; cases h; exact Nat.le_refl _
  | succ n ih =>
    intro acc l r c h
    cases l with
    | nil => cases h
    | cons b l =>
      rw [conts] at h
      split at h
      · exact Nat.le_trans (ih h) (Nat.le_succ _)
      · cases h

theorem conts_item_append (m : List UInt8) : ∀ {n acc : Nat} {l r : List UInt8} {c : Nat},
    conts n acc l = .item c r → conts n acc (l ++ m) = .item c (r ++ m) := by
  intro n
  induction n with
  | zero => intro acc l r c h; cases h; rfl
  | succ n ih =>
    intro acc l r c h
    cases l with
    | nil => cases h
    | cons b l =>
      rw [List.cons_append, conts]
      rw [conts] at h
      split at h
      · rename_i hb
        rw [if_pos hb]
        exact ih h
      · cases h

theorem conts_bad_append (m : List UInt8) : ∀ {n acc : Nat} {l : List UInt8},
    conts n acc l = .bad → conts n acc (l ++ m) = .bad := by
  intro n
  induction n with
  | zero => intro acc l h; cases h
  | succ n ih =>
    intro acc l h
    cases l with
    | nil => cases h
    | cons b l =>
      rw [List.cons_append, conts]
      rw [conts] at h
      split at h
      · rename_i hb
        rw [if_pos hb]
        exact ih h
      · rename_i hb
        rw [if_neg hb]

/-- Code points as the items of a byte stream. -/
def framing : Framing UInt8 Nat where
  head := head
  head_nil := rfl
  shorter := by
    intro l c r h
    cases l with
    | nil => cases h
    | cons b l =>
      have hc : ∀ {n acc : Nat}, conts n acc l = .item c r → r.length < (b :: l).length :=
        fun h => Nat.lt_succ_of_le (conts_shorter h)
      rw [head] at h
      repeat' split at h
      · cases h; exact Nat.lt_succ_self _
      · cases h
      · exact hc h
      · exact hc h
      · exact hc h
      · cases h
  item_append := by
    intro l c r m h
    cases l with
    | nil => cases h
    | cons b l =>
      rw [List.cons_append, head]
      rw [head] at h
      repeat' split at h
      · rename_i h1; cases h; rw [if_pos h1]
      · cases h
      · rename_i h1 h2 h3; rw [if_neg h1, if_neg h2, if_pos h3]; exact conts_item_append m h
      · rename_i h1 h2 h3 h4
        rw [if_neg h1, if_neg h2, if_neg h3, if_pos h4]; exact conts_item_append m h
      · rename_i h1 h2 h3 h4 h5
        rw [if_neg h1, if_neg h2, if_neg h3, if_neg h4, if_pos h5]; exact conts_item_append m h
      · cases h
  bad_append := by
    intro l m h
    cases l with
    | nil => cases h
    | cons b l =>
      rw [List.cons_append, head]
      rw [head] at h
      repeat' split at h
      · cases h
      · rename_i h1 h2; rw [if_neg h1, if_pos h2]
      · rename_i h1 h2 h3; rw [if_neg h1, if_neg h2, if_pos h3]; exact conts_bad_append m h
      · rename_i h1 h2 h3 h4
        rw [if_neg h1, if_neg h2, if_neg h3, if_pos h4]; exact conts_bad_append m h
      · rename_i h1 h2 h3 h4 h5
        rw [if_neg h1, if_neg h2, if_neg h3, if_neg h4, if_pos h5]; exact conts_bad_append m h
      · rename_i h1 h2 h3 h4 h5
        rw [if_neg h1, if_neg h2, if_neg h3, if_neg h4, if_neg h5]

theorem conts_cont (n acc c : Nat) (l : List UInt8) :
    conts (n + 1) acc (cont c :: l) = conts n (acc * 64 + c % 64) l := by
  rw [conts, if_pos (isCont_cont c), toNat_cont, Nat.add_sub_cancel_left]

/-- **A pattern is read back.** -/
theorem writes_encode {c : Nat} (hc : c < 0x200000) : framing.Writes (encode c) c := by
  show head (encode c) = .item c []
  rw [encode]
  split
  · rename_i h1
    rw [head, UInt8.toNat_ofNat', Nat.mod_eq_of_lt (by omega), if_pos h1]
  · split
    · rename_i h1 h2
      rw [head, UInt8.toNat_ofNat', Nat.mod_eq_of_lt (by omega), if_neg (by omega),
        if_neg (by omega), if_pos (by omega), conts_cont, conts]
      congr 1
      omega
    · split
      · rename_i h1 h2 h3
        rw [head, UInt8.toNat_ofNat', Nat.mod_eq_of_lt (by omega), if_neg (by omega),
          if_neg (by omega), if_neg (by omega), if_pos (by omega), conts_cont, conts_cont, conts]
        congr 1
        omega
      · rename_i h1 h2 h3
        rw [head, UInt8.toNat_ofNat', Nat.mod_eq_of_lt (by omega), if_neg (by omega),
          if_neg (by omega), if_neg (by omega), if_neg (by omega), if_pos (by omega), conts_cont,
          conts_cont, conts_cont, conts]
        congr 1
        omega

/-- A sequence of patterns is read back. -/
theorem items_flatMap_encode {cs : List Nat} (h : ∀ c ∈ cs, c < 0x200000) :
    framing.items (cs.flatMap encode) = cs ∧ framing.ending (cs.flatMap encode) = .clean := by
  have hw := Framing.items_flatMap (F := framing) (m := []) cs (fun c hc => writes_encode (h c hc))
  simpa using hw

end Utf8
