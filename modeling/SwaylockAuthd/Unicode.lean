import SwaylockAuthd.Lib.Utf8
import Mathlib.Data.Nat.Bitwise

/-!
# `unicode.c`

The three views of a character's size: `utf8Chsize` looks at the code point,
`utf8Encode` writes the bytes, `utf8LastSize` scans back over them.  They agree
with the standard pattern `Utf8.encode` on every code point below `2 ^ 21`.
-/

namespace SwaylockAuthd

/-- `utf8_chsize`. -/
def utf8Chsize (ch : UInt32) : Nat :=
  if ch < 0x80 then 1 else if ch < 0x800 then 2 else if ch < 0x10000 then 3 else 4

/-- The loop of `utf8_encode`: `i` continuation bytes are left to write, the last
one first, in front of `acc`; the lead byte comes last. -/
def utf8EncodeLoop (first : UInt32) : Nat → UInt32 → List UInt8 → List UInt8
  | 0, ch, acc => (ch ||| first).toUInt8 :: acc
  | i + 1, ch, acc => utf8EncodeLoop first i (ch >>> 6) (((ch &&& 0x3f) ||| 0x80).toUInt8 :: acc)

/-- `utf8_encode`: the bytes stored at `str`. -/
def utf8Encode (ch : UInt32) : List UInt8 :=
  if ch < 0x80 then utf8EncodeLoop 0 0 ch []
  else if ch < 0x800 then utf8EncodeLoop 0xc0 1 ch []
  else if ch < 0x10000 then utf8EncodeLoop 0xe0 2 ch []
  else utf8EncodeLoop 0xf0 3 ch []

/-- The loop of `utf8_last_size` over the bytes before `pos`, the last one first. -/
def utf8LastSizeLoop : List UInt8 → Nat → Nat
  | [], _ => 0
  | b :: before, len =>
    if b &&& 0xc0 ≠ 0x80 then len + 1 else utf8LastSizeLoop before (len + 1)

/-- `utf8_last_size`: `strchr` finds the first NUL byte. -/
def utf8LastSize (str : List UInt8) : Nat :=
  utf8LastSizeLoop (str.takeWhile (· ≠ 0)).reverse 0

/-! ## The standard pattern -/

theorem utf8Chsize_eq (ch : UInt32) : utf8Chsize ch = Utf8.size ch.toNat := by
  simp only [utf8Chsize, Utf8.size, UInt32.lt_iff_toNat_lt]
  rfl

/-- The continuation byte the loop writes. -/
theorem contByte_eq (ch : UInt32) : ((ch &&& 0x3f) ||| 0x80).toUInt8 = Utf8.cont ch.toNat := by
  apply UInt8.toNat_inj.mp
  have mask : ch.toNat &&& 63 = ch.toNat % 64 := Nat.and_two_pow_sub_one_eq_mod _ 6
  have hor : ch.toNat % 64 ||| 2 ^ 7 * 1 = 2 ^ 7 * 1 + ch.toNat % 64 := by
    rw [Nat.lor_comm, Nat.two_pow_add_eq_or_of_lt (by omega)]
  rw [Utf8.toNat_cont, UInt32.toNat_toUInt8, UInt32.toNat_or, UInt32.toNat_and]
  rw [show (0x3f : UInt32).toNat = 63 from rfl, show (0x80 : UInt32).toNat = 2 ^ 7 * 1 from rfl,
    mask, hor]
  omega

/-- The lead byte: the bits left over do not meet the bits of the mask. -/
theorem leadByte_eq {ch first : UInt32} {i q : Nat} (hf : first.toNat = 2 ^ i * q)
    (hlt : ch.toNat < 2 ^ i) :
    (ch ||| first).toUInt8 = UInt8.ofNat (first.toNat + ch.toNat) := by
  apply UInt8.toNat_inj.mp
  rw [UInt32.toNat_toUInt8, UInt32.toNat_or, hf, Nat.lor_comm, ← Nat.two_pow_add_eq_or_of_lt hlt,
    UInt8.toNat_ofNat']

theorem toNat_shift6 (ch : UInt32) : (ch >>> 6).toNat = ch.toNat / 64 := by
  rw [UInt32.toNat_shiftRight, show (6 : UInt32).toNat % 32 = 6 from rfl, Nat.shiftRight_eq_div_pow]

/-- **`utf8_encode` writes the standard pattern.** -/
theorem utf8Encode_eq {ch : UInt32} (h : ch.toNat < 0x200000) :
    utf8Encode ch = Utf8.encode ch.toNat := by
  simp only [utf8Encode, Utf8.encode, UInt32.lt_iff_toNat_lt]
  rw [show (0x80 : UInt32).toNat = 0x80 from rfl, show (0x800 : UInt32).toNat = 0x800 from rfl,
    show (0x10000 : UInt32).toNat = 0x10000 from rfl]
  split
  · rename_i h1
    rw [utf8EncodeLoop, leadByte_eq (i := 7) (q := 0) rfl h1]
    simp
  · split
    · rename_i h1 h2
      rw [utf8EncodeLoop, utf8EncodeLoop, contByte_eq,
        leadByte_eq (i := 5) (q := 6) rfl (by rw [toNat_shift6]; omega), toNat_shift6]
      rfl
    · split
      · rename_i h1 h2 h3
        rw [utf8EncodeLoop, utf8EncodeLoop, utf8EncodeLoop, contByte_eq, contByte_eq,
          leadByte_eq (i := 4) (q := 14) rfl (by rw [toNat_shift6, toNat_shift6]; omega),
          toNat_shift6, toNat_shift6, Nat.div_div_eq_div_mul]
        rfl
      · rename_i h1 h2 h3
        rw [utf8EncodeLoop, utf8EncodeLoop, utf8EncodeLoop, utf8EncodeLoop, contByte_eq,
          contByte_eq, contByte_eq,
          leadByte_eq (i := 3) (q := 30) rfl
            (by rw [toNat_shift6, toNat_shift6, toNat_shift6]; omega),
          toNat_shift6, toNat_shift6, toNat_shift6, Nat.div_div_eq_div_mul (m := ch.toNat / 64),
          Nat.div_div_eq_div_mul, Nat.div_div_eq_div_mul]
        rfl

/-! ## The last character -/

set_option maxRecDepth 8000 in
theorem isCont_iff (b : UInt8) : b &&& 0xc0 = 0x80 ↔ Utf8.IsCont b := by
  have all : ∀ n : Fin 256, UInt8.ofNat n &&& 0xc0 = 0x80 ↔ 0x80 ≤ n.val ∧ n.val < 0xC0 := by
    decide
  simpa [Utf8.IsCont] using all ⟨b.toNat, b.toNat_lt⟩

/-- Scanning back over continuation bytes to a lead byte. -/
theorem utf8LastSizeLoop_eq {lead : UInt8} (hl : ¬ Utf8.IsCont lead) (before : List UInt8) :
    ∀ {conts : List UInt8} (len : Nat), (∀ b ∈ conts, Utf8.IsCont b) →
      utf8LastSizeLoop (conts ++ lead :: before) len = len + conts.length + 1 := by
  intro conts
  induction conts with
  | nil =>
    intro len _
    rw [List.nil_append, utf8LastSizeLoop, if_pos (by rw [Ne, isCont_iff]; exact hl)]
    rfl
  | cons b conts ih =>
    intro len h
    have hb : Utf8.IsCont b := h b List.mem_cons_self
    rw [List.cons_append, utf8LastSizeLoop, if_neg (by rw [Ne, isCont_iff]; simpa using hb),
      ih (len + 1) (fun c hc => h c (List.mem_cons_of_mem b hc)), List.length_cons]
    omega

/-- **`utf8_last_size` finds the last pattern** in front of the first NUL byte. -/
theorem utf8LastSize_eq {pre rest : List UInt8} {c : Nat} (h0 : (0 : UInt8) ∉ pre) (hc0 : c ≠ 0)
    (hc : c < 0x200000) :
    utf8LastSize (pre ++ Utf8.encode c ++ 0 :: rest) = Utf8.size c := by
  obtain ⟨lead, conts, he, hlead, hconts⟩ := Utf8.encode_eq_cons hc
  have hz := Utf8.zero_notMem_encode hc0 hc
  have htake : (pre ++ Utf8.encode c ++ 0 :: rest).takeWhile (· ≠ 0) = pre ++ Utf8.encode c := by
    rw [List.takeWhile_append_of_pos, List.takeWhile_cons_of_neg (by simp), List.append_nil]
    intro b hb
    rcases List.mem_append.mp hb with hb | hb
    · simpa using ne_of_mem_of_not_mem hb h0
    · simpa using ne_of_mem_of_not_mem hb hz
  have hlen : Utf8.size c = conts.length + 1 := by rw [← Utf8.length_encode, he, List.length_cons]
  rw [utf8LastSize, htake, he, List.reverse_append, List.reverse_cons, List.append_assoc,
    List.singleton_append, utf8LastSizeLoop_eq hlead pre.reverse 0 (by simpa using hconts), hlen,
    List.length_reverse, Nat.zero_add]

end SwaylockAuthd
