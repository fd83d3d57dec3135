import Mathlib.Data.Int.Order.Lemmas
import Mathlib.Data.List.TakeWhile

/-!
# Reading numbers

`strtoul` and `strtol` as the C library documents them: blanks, a sign, a prefix that depends on the
base, then as many digits as there are; a number out of range is clamped.

* `digits`, `read`: the number at the start of a string and its sign.
* `strtoul`, `strtol`, `atoi`: what the library functions make of it.
* `read_hex`: a string of hexadecimal digits reads as its value.
* `read_lt`: any other string reads as a shorter number.
* `read_eq_minus_one`: the strings that read as minus one.
-/

namespace Numeral

/-! ## Digits -/

/-- The value of a digit in a base. -/
def digit (base : Nat) (c : UInt8) : Option Nat :=
  let value :=
    if 0x30 ≤ c.toNat ∧ c.toNat ≤ 0x39 then some (c.toNat - 0x30)
    else if 0x61 ≤ c.toNat ∧ c.toNat ≤ 0x7A then some (c.toNat - 0x61 + 10)
    else if 0x41 ≤ c.toNat ∧ c.toNat ≤ 0x5A then some (c.toNat - 0x41 + 10)
    else none
  value.filter (· < base)

def isDigit (base : Nat) (c : UInt8) : Bool := (digit base c).isSome

/-- The number of the digits at the start of a string, behind those already read. -/
def digits (base : Nat) : Nat → List UInt8 → Nat
  | n, [] => n
  | n, c :: s =>
    match digit base c with
    | some d => digits base (n * base + d) s
    | none => n

theorem digit_lt {base d : Nat} {c : UInt8} (h : digit base c = some d) : d < base := by
  rw [digit, Option.filter_eq_some_iff] at h
  simpa using h.2

theorem le_digits {base : Nat} (hb : 0 < base) (s : List UInt8) : ∀ n, n ≤ digits base n s := by
  induction s with
  | nil => intro n; exact Nat.le_refl n
  | cons c s ih =>
    intro n
    rw [digits]
    cases digit base c with
    | none => exact Nat.le_refl n
    | some d =>
      have hn : n ≤ n * base := Nat.le_mul_of_pos_right n hb
      have h := ih (n * base + d)
      simp only
      omega

/-- One more digit, as a bound. -/
theorem succ_digit_le {base n d : Nat} (hd : d < base) (k : Nat) :
    (n * base + d + 1) * base ^ k ≤ (n + 1) * base ^ (k + 1) := by
  have hle : n * base + d + 1 ≤ (n + 1) * base := by
    rw [Nat.succ_mul]
    omega
  calc (n * base + d + 1) * base ^ k ≤ (n + 1) * base * base ^ k := Nat.mul_le_mul_right _ hle
    _ = (n + 1) * base ^ (k + 1) := by rw [Nat.pow_succ', Nat.mul_assoc]

theorem digits_lt {base : Nat} (hb : 0 < base) (s : List UInt8) :
    ∀ n, digits base n s < (n + 1) * base ^ s.length := by
  induction s with
  | nil => intro n; simp [digits]
  | cons c s ih =>
    intro n
    rw [digits]
    cases hd : digit base c with
    | none =>
      have hpos : 0 < base ^ (c :: s).length := Nat.pow_pos hb
      exact Nat.lt_of_lt_of_le (Nat.lt_succ_self n) (Nat.le_mul_of_pos_right _ hpos)
    | some d => exact Nat.lt_of_lt_of_le (ih _) (succ_digit_le (digit_lt hd) s.length)

/-- A character that is no digit ends the number. -/
theorem digits_lt_of_not_digit {base : Nat} (hb : 0 < base) {s : List UInt8} :
    ∀ n, (∃ c ∈ s, isDigit base c = false) → digits base n s < (n + 1) * base ^ (s.length - 1) := by
  induction s with
  | nil =>
    rintro n ⟨c, hc, -⟩
    exact absurd hc List.not_mem_nil
  | cons c s ih =>
    rintro n ⟨e, he, hnot⟩
    have hpos : 0 < base ^ ((c :: s).length - 1) := Nat.pow_pos hb
    rw [digits]
    cases hd : digit base c with
    | none => exact Nat.lt_of_lt_of_le (Nat.lt_succ_self n) (Nat.le_mul_of_pos_right _ hpos)
    | some d =>
      have htail : e ∈ s := by
        rcases List.mem_cons.mp he with rfl | htail
        · rw [isDigit, hd] at hnot
          cases hnot
        · exact htail
      have hlen : (c :: s).length - 1 = s.length - 1 + 1 := by
        have hs := List.length_pos_of_mem htail
        rw [List.length_cons]
        omega
      rw [hlen]
      exact Nat.lt_of_lt_of_le (ih _ ⟨e, htail, hnot⟩) (succ_digit_le (digit_lt hd) _)

/-! ## Numbers -/

/-- `isspace` in the C locale. -/
def isSpace (c : UInt8) : Bool := c = 0x20 || (0x09 ≤ c.toNat && c.toNat ≤ 0x0D)

/-- A sign and what follows it. -/
def sign : List UInt8 → Bool × List UInt8
  | [] => (false, [])
  | c :: s => if c = 0x2D then (true, s) else if c = 0x2B then (false, s) else (false, c :: s)

/-- `0x` in front of a hexadecimal digit. -/
def hexPrefix : List UInt8 → Bool
  | z :: x :: d :: _ => z = 0x30 && (x = 0x78 || x = 0x58) && isDigit 16 d
  | _ => false

/-- The base that is meant and the digits. -/
def resolve (base : Nat) (s : List UInt8) : Nat × List UInt8 :=
  if (base = 0 ∨ base = 16) ∧ hexPrefix s then (16, s.drop 2)
  else if base = 0 then (if s.head? = some 0x30 then 8 else 10, s)
  else (base, s)

/-- The sign and the number at the start of a string. -/
def read (base : Nat) (s : List UInt8) : Bool × Nat :=
  let (negative, s) := sign (s.dropWhile isSpace)
  let (base, s) := resolve base s
  (negative, digits base 0 s)

/-- `strtoul` on a 64-bit `unsigned long`. -/
def strtoul (base : Nat) (s : List UInt8) : Nat :=
  let (negative, n) := read base s
  if 2 ^ 64 ≤ n then 2 ^ 64 - 1
  else if negative then (2 ^ 64 - n) % 2 ^ 64
  else n

/-- `strtol` on a 64-bit `long`. -/
def strtol (base : Nat) (s : List UInt8) : Int :=
  let (negative, n) := read base s
  if negative then max (-(n : Int)) (-2 ^ 63) else min n (2 ^ 63 - 1)

/-- `atoi`: `strtol`, cut to an `int`. -/
def atoi (s : List UInt8) : Int := (strtol 10 s).bmod (2 ^ 32)

/-! ## Hexadecimal -/

theorem isDigit_iff {c : UInt8} : isDigit 16 c = true ↔
    (0x30 ≤ c.toNat ∧ c.toNat ≤ 0x39) ∨ (0x61 ≤ c.toNat ∧ c.toNat ≤ 0x66) ∨
      (0x41 ≤ c.toNat ∧ c.toNat ≤ 0x46) := by
  rw [isDigit, digit]
  split
  · simp; omega
  · split
    · simp; omega
    · split
      · simp; omega
      · simp; omega

/-- A hexadecimal digit is neither a blank nor a sign nor the `x` of a prefix. -/
theorem not_space_of_isDigit {c : UInt8} (h : isDigit 16 c = true) :
    isSpace c = false ∧ c ≠ 0x2D ∧ c ≠ 0x2B ∧ c ≠ 0x78 ∧ c ≠ 0x58 := by
  rw [isDigit_iff] at h
  refine ⟨?_, ?_, ?_, ?_, ?_⟩
  · rw [Bool.eq_false_iff]
    intro hs
    simp only [isSpace, Bool.or_eq_true, Bool.and_eq_true, decide_eq_true_eq] at hs
    rcases hs with rfl | hs
    · revert h; decide
    · omega
  · rintro rfl; revert h; decide
  · rintro rfl; revert h; decide
  · rintro rfl; revert h; decide
  · rintro rfl; revert h; decide

theorem hexPrefix_of_isDigit {s : List UInt8} (h : ∀ c ∈ s, isDigit 16 c = true) :
    hexPrefix s = false := by
  cases s with
  | nil => rfl
  | cons z s =>
    cases s with
    | nil => rfl
    | cons x s =>
      cases s with
      | nil => rfl
      | cons d s =>
        obtain ⟨-, -, -, hx, hX⟩ := not_space_of_isDigit (h x (by simp))
        simp [hexPrefix, hx, hX]

/-- What is left of a string behind its blanks, its sign and its prefix. -/
def body (s : List UInt8) : List UInt8 := (resolve 16 (sign (s.dropWhile isSpace)).2).2

theorem resolve_hex (s : List UInt8) :
    resolve 16 s = (16, if hexPrefix s = true then s.drop 2 else s) := by
  rw [resolve]
  by_cases h : hexPrefix s = true
  · simp [h]
  · simp [h]

theorem read_eq (s : List UInt8) :
    read 16 s = ((sign (s.dropWhile isSpace)).1, digits 16 0 (body s)) := by
  rw [read, body]
  simp only [resolve_hex]

/-- **A string of hexadecimal digits** reads as its value. -/
theorem read_hex {s : List UInt8} (h : ∀ c ∈ s, isDigit 16 c = true) :
    read 16 s = (false, digits 16 0 s) := by
  have hdrop : s.dropWhile isSpace = s := by
    cases s with
    | nil => rfl
    | cons c s =>
      rw [List.dropWhile_cons_of_neg]
      rw [(not_space_of_isDigit (h c List.mem_cons_self)).1]
      exact Bool.false_ne_true
  have hsign : sign s = (false, s) := by
    cases s with
    | nil => rfl
    | cons c s =>
      obtain ⟨-, hminus, hplus, -⟩ := not_space_of_isDigit (h c List.mem_cons_self)
      rw [sign, if_neg hminus, if_neg hplus]
  rw [read_eq, body, hdrop, hsign, resolve_hex, hexPrefix_of_isDigit h]
  rfl

theorem sign_suffix (s : List UInt8) : (sign s).2 <:+ s := by
  cases s with
  | nil => exact List.suffix_refl []
  | cons c s =>
    rw [sign]
    split
    · exact List.suffix_cons c s
    · split
      · exact List.suffix_cons c s
      · exact List.suffix_refl (c :: s)

theorem resolve_suffix (s : List UInt8) : (resolve 16 s).2 <:+ s := by
  rw [resolve_hex]
  dsimp only
  split
  · exact List.drop_suffix 2 s
  · exact List.suffix_refl s

theorem body_suffix (s : List UInt8) : body s <:+ s :=
  ((resolve_suffix _).trans (sign_suffix _)).trans (List.dropWhile_suffix isSpace)

/-- Whatever is in front of the digits makes them fewer. -/
theorem body_eq_or_lt (s : List UInt8) : body s = s ∨ (body s).length < s.length := by
  have hsuffix := body_suffix s
  rcases Nat.lt_or_eq_of_le hsuffix.length_le with hlt | heq
  · exact Or.inr hlt
  · exact Or.inl (hsuffix.eq_of_length heq)

/-- **Any other string** reads as a number with fewer digits than it has characters. -/
theorem read_lt {s : List UInt8} (h : ∃ c ∈ s, isDigit 16 c = false) :
    (read 16 s).2 < 16 ^ (s.length - 1) := by
  rw [read_eq]
  have hbase : 0 < 16 := by omega
  rcases body_eq_or_lt s with heq | hlt
  · have hbound := digits_lt_of_not_digit hbase 0 h
    rw [Nat.zero_add, Nat.one_mul] at hbound
    rw [heq]
    exact hbound
  · have hbound := digits_lt hbase (body s) 0
    rw [Nat.zero_add, Nat.one_mul] at hbound
    exact Nat.lt_of_lt_of_le hbound (Nat.pow_le_pow_right hbase (by omega))

/-! ## Minus one -/

theorem digit_eq_small {c : UInt8} {d : Nat} (hd : d ≤ 9) :
    digit 16 c = some d ↔ c.toNat = 0x30 + d := by
  rw [digit]
  split
  · simp; omega
  · split
    · simp; omega
    · split
      · simp; omega
      · simp; omega

theorem digit_eq_zero {c : UInt8} : digit 16 c = some 0 ↔ c = 0x30 := by
  rw [digit_eq_small (by omega), ← UInt8.toNat_inj]
  rfl

theorem digit_eq_one {c : UInt8} : digit 16 c = some 1 ↔ c = 0x31 := by
  rw [digit_eq_small (by omega), ← UInt8.toNat_inj]
  rfl

theorem digits_one {s : List UInt8} :
    digits 16 1 s = 1 ↔ ∀ c, s.head? = some c → isDigit 16 c = false := by
  cases s with
  | nil => simp [digits]
  | cons c s =>
    rw [digits]
    cases hd : digit 16 c with
    | none => simp [hd, isDigit]
    | some d =>
      have hle := le_digits (show 0 < 16 by omega) s (1 * 16 + d)
      simp only [List.head?_cons, Option.some.injEq, forall_eq', hd, isDigit, Option.isSome_some,
        Bool.true_eq_false, iff_false]
      omega

/-- The digits of one: zeros, a one, and no digit behind it. -/
theorem digits_eq_one {s : List UInt8} : digits 16 0 s = 1 ↔ ∃ zeros rest,
    s = zeros ++ 0x31 :: rest ∧ (∀ c ∈ zeros, c = 0x30) ∧
      ∀ c, rest.head? = some c → isDigit 16 c = false := by
  induction s with
  | nil => simp [digits]
  | cons c s ih =>
    have hsplit : (∃ zeros rest, c :: s = zeros ++ 0x31 :: rest ∧ (∀ c ∈ zeros, c = 0x30) ∧
        ∀ c, rest.head? = some c → isDigit 16 c = false) ↔
        (c = 0x31 ∧ ∀ c, s.head? = some c → isDigit 16 c = false) ∨
          (c = 0x30 ∧ digits 16 0 s = 1) := by
      constructor
      · rintro ⟨zeros, rest, heq, hzeros, hrest⟩
        cases zeros with
        | nil =>
          obtain ⟨rfl, rfl⟩ := List.cons.inj heq
          exact Or.inl ⟨rfl, hrest⟩
        | cons z zeros =>
          obtain ⟨rfl, rfl⟩ := List.cons.inj heq
          exact Or.inr ⟨hzeros c List.mem_cons_self, ih.mpr ⟨zeros, rest, rfl,
            fun e he => hzeros e (List.mem_cons_of_mem c he), hrest⟩⟩
      · rintro (⟨rfl, hrest⟩ | ⟨rfl, hone⟩)
        · exact ⟨[], s, rfl, by simp, hrest⟩
        · obtain ⟨zeros, rest, rfl, hzeros, hrest⟩ := ih.mp hone
          exact ⟨0x30 :: zeros, rest, rfl, List.forall_mem_cons.mpr ⟨rfl, hzeros⟩, hrest⟩
    rw [hsplit, digits, ← digit_eq_zero, ← digit_eq_one]
    cases hd : digit 16 c with
    | none => simp
    | some d =>
      rcases Nat.lt_or_ge 1 d with hlarge | hsmall
      · have hle := le_digits (show 0 < 16 by omega) s (0 * 16 + d)
        simp only [Option.some.injEq]
        omega
      · rcases Nat.le_one_iff_eq_zero_or_eq_one.mp hsmall with rfl | rfl
        · simp
        · simp [digits_one]

/-- Blanks, a minus sign, a prefix or none, zeros, a one, and no digit behind it. -/
def MinusOne (s : List UInt8) : Prop :=
  ∃ blanks pre zeros rest, s = blanks ++ 0x2D :: (pre ++ (zeros ++ 0x31 :: rest)) ∧
    (∀ c ∈ blanks, isSpace c = true) ∧ (pre = [] ∨ pre = [0x30, 0x78] ∨ pre = [0x30, 0x58]) ∧
    (∀ c ∈ zeros, c = 0x30) ∧ ∀ c, rest.head? = some c → isDigit 16 c = false

/-- The two ways a prefix can be there. -/
theorem hexPrefix_iff {s : List UInt8} : hexPrefix s = true ↔
    ∃ pre d t, s = pre ++ d :: t ∧ (pre = [0x30, 0x78] ∨ pre = [0x30, 0x58]) ∧
      isDigit 16 d = true := by
  constructor
  · intro h
    cases s with
    | nil => cases h
    | cons z s =>
      cases s with
      | nil => cases h
      | cons x s =>
        cases s with
        | nil => cases h
        | cons d t =>
          simp only [hexPrefix, Bool.and_eq_true, Bool.or_eq_true, decide_eq_true_eq] at h
          obtain ⟨⟨rfl, rfl | rfl⟩, hd⟩ := h
          · exact ⟨[0x30, 0x78], d, t, rfl, Or.inl rfl, hd⟩
          · exact ⟨[0x30, 0x58], d, t, rfl, Or.inr rfl, hd⟩
  · rintro ⟨pre, d, t, rfl, rfl | rfl, hd⟩
    · simp [hexPrefix, hd]
    · simp [hexPrefix, hd]

theorem hexPrefix_zeros {zeros rest : List UInt8} (h : ∀ c ∈ zeros, c = 0x30) :
    hexPrefix (zeros ++ 0x31 :: rest) = false := by
  rw [Bool.eq_false_iff]
  intro hp
  obtain ⟨pre, d, t, heq, hpre, -⟩ := hexPrefix_iff.mp hp
  cases zeros with
  | nil =>
    rcases hpre with rfl | rfl
    · cases heq
    · cases heq
  | cons z zeros =>
    cases zeros with
    | nil =>
      rcases hpre with rfl | rfl
      · cases heq
      · cases heq
    | cons y zeros =>
      obtain rfl := h y (by simp)
      rcases hpre with rfl | rfl
      · cases heq
      · cases heq

theorem sign_eq_true {s : List UInt8} (h : (sign s).1 = true) : ∃ t, s = 0x2D :: t := by
  cases s with
  | nil => cases h
  | cons c t =>
    rw [sign] at h
    split at h
    · rename_i hc
      exact ⟨t, by rw [hc]⟩
    · split at h
      · cases h
      · cases h

/-- What can be in front of zeros and a one. -/
theorem resolve_eq_one {t zeros rest : List UInt8} (hzeros : ∀ c ∈ zeros, c = 0x30) :
    (resolve 16 t).2 = zeros ++ 0x31 :: rest ↔
      ∃ pre, t = pre ++ (zeros ++ 0x31 :: rest) ∧
        (pre = [] ∨ pre = [0x30, 0x78] ∨ pre = [0x30, 0x58]) := by
  rw [resolve_hex]
  constructor
  · intro h
    by_cases hp : hexPrefix t = true
    · obtain ⟨pre, d, u, hpre, hx, -⟩ := hexPrefix_iff.mp hp
      have hdrop : t.drop 2 = d :: u := by
        rw [hpre]
        rcases hx with rfl | rfl
        · rfl
        · rfl
      simp only [hp, if_true, hdrop] at h
      exact ⟨pre, by rw [hpre, h], Or.inr hx⟩
    · simp only [hp] at h
      exact ⟨[], h, Or.inl rfl⟩
  · rintro ⟨pre, rfl, hpre⟩
    rcases hpre with rfl | hx
    · simp [hexPrefix_zeros hzeros]
    · have hfirst : ∃ d t, zeros ++ 0x31 :: rest = d :: t ∧ isDigit 16 d = true := by
        cases zeros with
        | nil => exact ⟨_, _, rfl, by decide⟩
        | cons z zeros =>
          obtain rfl := hzeros z List.mem_cons_self
          exact ⟨_, _, rfl, by decide⟩
      obtain ⟨d, t, heq, hd⟩ := hfirst
      have hp : hexPrefix (pre ++ (zeros ++ 0x31 :: rest)) = true :=
        hexPrefix_iff.mpr ⟨pre, d, t, by rw [heq], hx, hd⟩
      simp only [hp, if_true]
      rcases hx with rfl | rfl
      · rfl
      · rfl

/-- **The strings that read as minus one.** -/
theorem read_eq_minus_one {s : List UInt8} : read 16 s = (true, 1) ↔ MinusOne s := by
  rw [read_eq, Prod.mk.injEq, body, digits_eq_one]
  constructor
  · rintro ⟨hsign, zeros, rest, hbody, hzeros, hrest⟩
    obtain ⟨t, ht⟩ := sign_eq_true hsign
    have hafter : (sign (s.dropWhile isSpace)).2 = t := by
      rw [ht]
      rfl
    rw [hafter] at hbody
    obtain ⟨pre, rfl, hpre⟩ := (resolve_eq_one hzeros).mp hbody
    refine ⟨s.takeWhile isSpace, pre, zeros, rest, ?_, fun c hc => List.mem_takeWhile_imp hc, hpre,
      hzeros, hrest⟩
    rw [← ht, List.takeWhile_append_dropWhile]
  · rintro ⟨blanks, pre, zeros, rest, rfl, hblanks, hpre, hzeros, hrest⟩
    have hdrop : (blanks ++ 0x2D :: (pre ++ (zeros ++ 0x31 :: rest))).dropWhile isSpace =
        0x2D :: (pre ++ (zeros ++ 0x31 :: rest)) := by
      rw [List.dropWhile_append_of_pos hblanks, List.dropWhile_cons_of_neg (by decide)]
    rw [hdrop]
    exact ⟨rfl, zeros, rest, (resolve_eq_one hzeros).mpr ⟨pre, rfl, hpre⟩, hzeros, hrest⟩

end Numeral
