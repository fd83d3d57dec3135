import Mathlib.Algebra.Order.Ring.Int
import SwaylockAuthd.Surface

/-!
# `pool-buffer.c`: a buffer

`Surface.lean` keeps of a buffer what a surface looks at; here is all of `struct pool_buffer`, and
what the system answers while it is filled.

* `anonymousShmOpen_iff`: when there is a file.
* `size_eq_shmSize`: the size is the product modulo `2 ^ 32`.
* `createBuffer_abstract`, `getNextBuffer_abstract`: a surface sees what `Surface.lean` says.
* `create_buffer_exact_iff`: when a buffer has the size of its pixels.
-/

namespace SwaylockAuthd.Shm

/-! ## What the system answers -/

/-- One call of `shm_open`; `eexist` says whether a failure is `EEXIST`. -/
inductive ShmOpen
  | opened
  | failed (eexist : Bool)
  deriving DecidableEq, Repr

/-- The answers during one `create_buffer`: the calls of `shm_open`, `ftruncate`, `mmap`. -/
structure ShmEnv where
  shmOpen : Nat → ShmOpen := fun _ => .opened
  ftruncate : Bool := true
  mmap : Bool := true

/-- The loop of `anonymous_shm_open`. -/
def shmOpenLoop (shmOpen : Nat → ShmOpen) : Nat → Nat → Bool
  | 0, _ => false
  | retries + 1, call =>
    match shmOpen call with
    | .opened => true
    | .failed eexist => if eexist then shmOpenLoop shmOpen retries (call + 1) else false

/-- `anonymous_shm_open`. -/
def anonymousShmOpen (env : ShmEnv) : Bool := shmOpenLoop env.shmOpen 100 0

theorem shmOpenLoop_iff {shmOpen : Nat → ShmOpen} {retries call : Nat} :
    shmOpenLoop shmOpen retries call = true ↔
      ∃ n < retries, shmOpen (call + n) = .opened ∧
        ∀ k < n, shmOpen (call + k) = .failed true := by
  induction retries generalizing call with
  | zero => simp [shmOpenLoop]
  | succ retries ih =>
    rw [shmOpenLoop]
    cases hc : shmOpen call with
    | opened =>
      refine iff_of_true rfl ⟨0, Nat.succ_pos _, hc, fun k hk => absurd hk (Nat.not_lt_zero k)⟩
    | failed eexist =>
      cases eexist with
      | false =>
        refine iff_of_false nofun ?_
        rintro ⟨n, -, hopen, hbefore⟩
        cases n with
        | zero => rw [Nat.add_zero, hc] at hopen; cases hopen
        | succ n =>
          have h0 := hbefore 0 (Nat.succ_pos n)
          rw [Nat.add_zero, hc] at h0
          cases h0
      | true =>
        show shmOpenLoop shmOpen retries (call + 1) = true ↔ _
        rw [ih]
        constructor
        · rintro ⟨n, hn, hopen, hbefore⟩
          refine ⟨n + 1, Nat.succ_lt_succ hn, by rw [← hopen]; congr 1; omega, fun k hk => ?_⟩
          cases k with
          | zero => exact hc
          | succ k =>
            rw [← hbefore k (Nat.lt_of_succ_lt_succ hk)]
            congr 1
            omega
        · rintro ⟨n, hn, hopen, hbefore⟩
          cases n with
          | zero => rw [Nat.add_zero, hc] at hopen; cases hopen
          | succ n =>
            refine ⟨n, Nat.lt_of_succ_lt_succ hn, by rw [← hopen]; congr 1; omega, fun k hk => ?_⟩
            rw [← hbefore (k + 1) (Nat.succ_lt_succ hk)]
            congr 1
            omega

/-- **There is a file** if one of a hundred names is not taken. -/
theorem anonymousShmOpen_iff {env : ShmEnv} :
    anonymousShmOpen env = true ↔
      ∃ n < 100, env.shmOpen n = .opened ∧ ∀ k < n, env.shmOpen k = .failed true := by
  simp only [anonymousShmOpen, shmOpenLoop_iff, Nat.zero_add]

/-! ## The buffer -/

/-- A pointer to a `wl_buffer`; on the stack it is not set at first. -/
inductive WlBuffer
  | indeterminate
  | null
  | proxy (id : Nat)
  deriving DecidableEq, Repr

/-- What `mmap` returns, or `NULL`. -/
inductive Mapping
  | null
  | failed
  | mapped (size : Nat)
  deriving DecidableEq, Repr

/-- `struct pool_buffer`; of the cairo objects, whether there are any. -/
structure PoolBuffer where
  buffer : WlBuffer := .null
  surface : Bool := false
  cairo : Bool := false
  width : UInt32 := 0
  height : UInt32 := 0
  data : Mapping := .null
  size : Nat := 0
  busy : Bool := false
  deriving DecidableEq, Repr

/-- The connection to the compositor: how many `wl_buffer`s were created, and which were
destroyed. -/
structure Display where
  created : Nat := 0
  destroyed : List Nat := []
  deriving DecidableEq, Repr

def stride (width : Int32) : UInt32 := (width * 4).toUInt32

/-- `size`, widened after the product. -/
def size (width height : Int32) : Nat := (stride width * height.toUInt32).toNat

/-- `create_buffer`. -/
def createBuffer (env : ShmEnv) (d : Display) (buf : PoolBuffer) (width height : Int32) :
    Option (PoolBuffer × Display) :=
  let size := size width height
  let buf := { buf with
    size, width := width.toUInt32, height := height.toUInt32, surface := true, cairo := true }
  if 0 < size then
    if ¬ anonymousShmOpen env then none
    else if ¬ env.ftruncate then none
    else
      let data := if env.mmap then Mapping.mapped size else .failed
      some ({ buf with buffer := .proxy d.created, data }, { d with created := d.created + 1 })
  else some ({ buf with data := .null }, d)

/-- `destroy_buffer`. -/
def destroyBuffer (d : Display) (buf : PoolBuffer) : PoolBuffer × Display :=
  match buf.buffer with
  | .proxy id => ({}, { d with destroyed := id :: d.destroyed })
  | _ => ({}, d) -- what a pointer that is not set destroys is not defined

/-- What `get_next_buffer` does with the buffer it has found. -/
def PoolBuffer.take (env : ShmEnv) (d : Display) (buf : PoolBuffer) (width height : UInt32) :
    Bool × PoolBuffer × Display :=
  let r := if buf.width ≠ width ∨ buf.height ≠ height then destroyBuffer d buf else (buf, d)
  if r.1.buffer = .null then
    match createBuffer env r.2 r.1 width.toInt32 height.toInt32 with
    | some (buf, d) => (true, { buf with busy := true }, d)
    | none => (false, r)
  else (true, { r.1 with busy := true }, r.2)

/-- The loop of `get_next_buffer`: the last buffer that is not busy. -/
def freeBuffer (pool : Fin 2 → PoolBuffer) : Option (Fin 2) :=
  (List.finRange 2).foldl (fun found i => if (pool i).busy then found else some i) none

/-- `get_next_buffer`: the element that is returned, the pool and the connection. -/
def getNextBuffer (env : ShmEnv) (d : Display) (pool : Fin 2 → PoolBuffer)
    (width height : UInt32) : Option (Fin 2) × (Fin 2 → PoolBuffer) × Display :=
  match freeBuffer pool with
  | some i =>
    let r := (pool i).take env d width height
    (if r.1 then some i else none, Function.update pool i r.2.1, r.2.2)
  | none => (none, pool, d)

/-- `buffer_release`. -/
def bufferRelease (buf : PoolBuffer) : PoolBuffer := { buf with busy := false }

/-! ## The size -/

/-- The bits of a signed word. -/
theorem toNat_toUInt32 (n : Int32) : (n.toUInt32.toNat : Int) = n.toInt % 2 ^ 32 := by
  have hbits : n.toInt = (n.toUInt32.toNat : Int).bmod (2 ^ 32) := BitVec.toInt_eq_toNat_bmod _
  have hlt : n.toUInt32.toNat < 2 ^ 32 := n.toUInt32.toNat_lt
  have hmod := @Int.bmod_emod (n.toUInt32.toNat : Int) (2 ^ 32)
  rw [hbits]
  push_cast at hmod ⊢
  rw [hmod, Int.emod_eq_of_lt (by omega) (by omega)]

/-- **The size is computed in 32 bits.** -/
theorem size_eq_shmSize (width height : Int32) :
    (size width height : Int) = shmSize width.toInt height.toInt := by
  have hstride : ((stride width).toNat : Int) = (width.toInt * 4) % 2 ^ 32 := by
    have hmul : stride width = width.toUInt32 * 4 := rfl
    have hfour : (4 : UInt32).toNat = 4 := rfl
    rw [hmul, UInt32.toNat_mul, Int.natCast_emod, Int.natCast_mul, toNat_toUInt32, hfour]
    push_cast
    omega
  rw [size, UInt32.toNat_mul, Int.natCast_emod, Int.natCast_mul, hstride, toNat_toUInt32, shmSize]
  push_cast
  rw [Int.mul_emod, Int.emod_emod_of_dvd height.toInt (dvd_refl _), ← Int.mul_emod]

/-- **The size is the product modulo `2 ^ 32`.** -/
theorem size_eq (width height : Int32) :
    (size width height : Int) = 4 * width.toInt * height.toInt % 2 ^ 32 := by
  rw [size_eq_shmSize, shmSize, Int.mul_emod, Int.emod_emod_of_dvd _ (dvd_refl _), ← Int.mul_emod,
    mul_comm 4 width.toInt]

/-- A product that fits is not changed. -/
theorem size_of_fits {width height : Int32} (hw : 0 < width.toInt) (hh : 0 < height.toInt)
    (h : 4 * width.toInt * height.toInt < 2 ^ 31) :
    (size width height : Int) = 4 * width.toInt * height.toInt := by
  have hpos : 0 < 4 * width.toInt * height.toInt := mul_pos (mul_pos (by decide) hw) hh
  rw [size_eq, Int.emod_eq_of_lt hpos.le (by omega)]

/-! ## What a surface sees -/

/-- What `Surface.lean` keeps of a buffer. -/
def PoolBuffer.abstract (b : PoolBuffer) : SwaylockAuthd.PoolBuffer where
  buffer := b.buffer ≠ .null
  width := b.width.toInt32.toInt
  height := b.height.toInt32.toInt
  busy := b.busy

/-- The memory can be had. -/
def ShmEnv.creates (env : ShmEnv) : Bool := anonymousShmOpen env && env.ftruncate

/-- **What `create_buffer` does.** -/
theorem createBuffer_eq (env : ShmEnv) (d : Display) (buf : PoolBuffer) (width height : Int32) :
    createBuffer env d buf width height =
      if 0 < size width height then
        if env.creates then
          some ({ buf with
              buffer := .proxy d.created, surface := true, cairo := true
              width := width.toUInt32, height := height.toUInt32, size := size width height
              data := if env.mmap then .mapped (size width height) else .failed },
            { d with created := d.created + 1 })
        else none
      else
        some ({ buf with
            surface := true, cairo := true, width := width.toUInt32, height := height.toUInt32
            size := size width height, data := .null }, d) := by
  unfold createBuffer ShmEnv.creates
  cases anonymousShmOpen env <;> cases env.ftruncate <;> rfl

theorem abstract_busy (b : PoolBuffer) (busy : Bool) :
    PoolBuffer.abstract { b with busy } = { b.abstract with busy } := rfl

theorem createBuffer_abstract {env : ShmEnv} {d : Display} {buf : PoolBuffer}
    (hbuf : buf.buffer = .null) (hbusy : buf.busy = false) (width height : Int32) :
    (createBuffer env d buf width height).map (fun r => r.1.abstract) =
      SwaylockAuthd.createBuffer env.creates width.toInt height.toInt := by
  have hpos : 0 < shmSize width.toInt height.toInt ↔ 0 < size width height := by
    rw [← size_eq_shmSize, Int.natCast_pos]
  rw [createBuffer_eq, SwaylockAuthd.createBuffer]
  simp only [hpos]
  split
  · split
    · simp [PoolBuffer.abstract, hbusy]
    · rfl
  · simp [PoolBuffer.abstract, hbuf, hbusy]

theorem toInt_toInt32_inj {m n : UInt32} : m.toInt32.toInt = n.toInt32.toInt ↔ m = n := by
  rw [Int32.toInt_inj]
  exact ⟨fun h => congrArg Int32.toUInt32 h, fun h => congrArg UInt32.toInt32 h⟩

theorem abstract_destroyBuffer (d : Display) (b : PoolBuffer) :
    (destroyBuffer d b).1 = {} := by
  unfold destroyBuffer
  split <;> rfl

/-- What `get_next_buffer` does with a buffer, as a surface sees it. -/
theorem take_abstract (env : ShmEnv) (d : Display) {b : PoolBuffer} (hbusy : b.busy = false)
    (width height : UInt32) :
    ((b.take env d width height).1, (b.take env d width height).2.1.abstract) =
      b.abstract.take env.creates width.toInt32.toInt height.toInt32.toInt := by
  have hsame : (b.abstract.width ≠ width.toInt32.toInt ∨ b.abstract.height ≠ height.toInt32.toInt) ↔
      (b.width ≠ width ∨ b.height ≠ height) := by
    simp only [PoolBuffer.abstract, ne_eq, toInt_toInt32_inj]
  unfold PoolBuffer.take SwaylockAuthd.PoolBuffer.take
  simp only [hsame]
  -- the buffer after the sizes are compared
  generalize hr : (if b.width ≠ width ∨ b.height ≠ height then destroyBuffer d b else (b, d)) = r
  have habs : (if b.width ≠ width ∨ b.height ≠ height then ({} : SwaylockAuthd.PoolBuffer)
      else b.abstract) = r.1.abstract := by
    rw [← hr]
    split
    · rw [abstract_destroyBuffer]
      rfl
    · rfl
  have hfree : r.1.busy = false := by
    rw [← hr]
    split
    · rw [abstract_destroyBuffer]
    · exact hbusy
  rw [habs]
  by_cases hnull : r.1.buffer = .null
  · have hcreate := @createBuffer_abstract env r.2 r.1 hnull hfree width.toInt32 height.toInt32
    rw [if_pos hnull, if_neg (by simp [PoolBuffer.abstract, hnull]), ← hcreate]
    cases createBuffer env r.2 r.1 width.toInt32 height.toInt32 <;> rfl
  · rw [if_neg hnull, if_pos (by simp [PoolBuffer.abstract, hnull]), abstract_busy]

theorem freeBuffer_eq (pool : Fin 2 → PoolBuffer) :
    freeBuffer pool =
      if ¬ (pool 1).busy then some 1 else if ¬ (pool 0).busy then some 0 else none := by
  have hrange : List.finRange 2 = [0, 1] := by decide
  rw [freeBuffer, hrange]
  cases h0 : (pool 0).busy <;> cases h1 : (pool 1).busy <;> simp [h0, h1]

/-- **A surface sees of `get_next_buffer`** what `Surface.lean` says. -/
theorem getNextBuffer_abstract (env : ShmEnv) (d : Display) (pool : Fin 2 → PoolBuffer)
    (width height : UInt32) :
    SwaylockAuthd.getNextBuffer env.creates ((pool 0).abstract, (pool 1).abstract)
        width.toInt32.toInt height.toInt32.toInt =
      (let r := getNextBuffer env d pool width height
      (r.1.map fun i => (r.2.1 i).abstract, (r.2.1 0).abstract, (r.2.1 1).abstract)) := by
  have hbusy : ∀ i, (pool i).abstract.busy = (pool i).busy := fun _ => rfl
  rw [SwaylockAuthd.getNextBuffer, getNextBuffer, freeBuffer_eq]
  simp only [hbusy]
  cases h1 : (pool 1).busy with
  | false =>
    have htake := take_abstract env d h1 width height
    simp only [Bool.false_eq_true, not_false_eq_true, if_true, ← htake]
    cases ((pool 1).take env d width height).1 <;> simp
  | true =>
    cases h0 : (pool 0).busy with
    | false =>
      have htake := take_abstract env d h0 width height
      simp only [Bool.false_eq_true, not_true_eq_false, not_false_eq_true, if_true, if_false,
        ← htake]
      cases ((pool 0).take env d width height).1 <;> simp
    | true => rfl

/-! ## The size of the pixels -/

/-- A buffer with four bytes for every pixel, all of them mapped, that the compositor can map. -/
structure Exact (width height : Int32) (b : PoolBuffer) : Prop where
  size : (b.size : Int) = 4 * width.toInt * height.toInt
  fits : (b.size : Int) < 2 ^ 31
  data : b.data = .mapped b.size
  buffer : ∃ id, b.buffer = .proxy id

/-- A buffer that is returned is exact, and a size that does not fit is refused. -/
def SizeSafe (env : ShmEnv) (d : Display) (buf : PoolBuffer) (width height : Int32) : Prop :=
  (∀ b d', createBuffer env d buf width height = some (b, d') → Exact width height b) ∧
    (2 ^ 31 ≤ 4 * width.toInt * height.toInt → createBuffer env d buf width height = none)

/-- A buffer whose size fits, if it can be mapped. -/
theorem exact_of_fits {env : ShmEnv} {d d' : Display} {buf b : PoolBuffer} {width height : Int32}
    (hw : 0 < width.toInt) (hh : 0 < height.toInt)
    (hfits : 4 * width.toInt * height.toInt < 2 ^ 31) (hmap : env.mmap = true)
    (h : createBuffer env d buf width height = some (b, d')) : Exact width height b := by
  have hsize := size_of_fits hw hh hfits
  have hpos : 0 < 4 * width.toInt * height.toInt := mul_pos (mul_pos (by decide) hw) hh
  rw [createBuffer_eq, if_pos (by omega), if_pos hmap] at h
  split at h
  · cases h
    exact ⟨hsize, hsize ▸ hfits, rfl, ⟨_, rfl⟩⟩
  · cases h

/-- A buffer whose mapping failed is returned all the same. -/
theorem not_exact_of_unmapped {env : ShmEnv} {d : Display} {buf : PoolBuffer}
    {width height : Int32} (hpos : 0 < size width height) (hcreates : env.creates = true)
    (hmap : env.mmap = false) :
    ∃ b d', createBuffer env d buf width height = some (b, d') ∧ ¬ Exact width height b := by
  rw [createBuffer_eq, if_pos hpos, if_pos hcreates, hmap, if_neg Bool.false_ne_true]
  refine ⟨_, _, rfl, fun h => ?_⟩
  cases h.data

/-- **When no buffer is created.** -/
theorem createBuffer_eq_none {env : ShmEnv} {d : Display} {buf : PoolBuffer}
    {width height : Int32} :
    createBuffer env d buf width height = none ↔
      4 * width.toInt * height.toInt % 2 ^ 32 ≠ 0 ∧ env.creates = false := by
  have hpos : 0 < size width height ↔ 4 * width.toInt * height.toInt % 2 ^ 32 ≠ 0 := by
    rw [← size_eq]
    omega
  rw [createBuffer_eq, ← hpos]
  by_cases h : 0 < size width height
  · rw [if_pos h, and_iff_right h]
    cases env.creates <;> simp
  · rw [if_neg h]
    exact iff_of_false nofun fun hn => h hn.1

/-- **When a buffer has the size of its pixels**: they have less than `2 ^ 31` bytes and `mmap`
maps them, or no buffer is created because there is no memory. -/
theorem create_buffer_exact_iff (env : ShmEnv) (d : Display) (buf : PoolBuffer)
    {width height : Int32} (hw : 0 < width.toInt) (hh : 0 < height.toInt) :
    SizeSafe env d buf width height ↔
      (4 * width.toInt * height.toInt < 2 ^ 31 ∧ env.mmap = true) ∨
        (4 * width.toInt * height.toInt % 2 ^ 32 ≠ 0 ∧ env.creates = false) := by
  have hnone := @createBuffer_eq_none env d buf width height
  constructor
  · rintro ⟨hexact, hrefuse⟩
    by_cases hfits : 4 * width.toInt * height.toInt < 2 ^ 31
    · have hsize := size_of_fits hw hh hfits
      have hpos : 0 < 4 * width.toInt * height.toInt := mul_pos (mul_pos (by decide) hw) hh
      -- below the bound only the answers of the system decide
      by_cases hmap : env.mmap = true
      · exact Or.inl ⟨hfits, hmap⟩
      · refine Or.inr ⟨by rw [← size_eq]; omega, ?_⟩
        by_contra hcreates
        obtain ⟨b, d', hb, hbad⟩ := @not_exact_of_unmapped env d buf width height (by omega)
          (by simpa using hcreates) (by simpa using hmap)
        exact hbad (hexact b d' hb)
    · exact Or.inr (hnone.mp (hrefuse (Int.not_lt.mp hfits)))
  · rintro (⟨hfits, hmap⟩ | hfails)
    · exact ⟨fun b d' hb => exact_of_fits hw hh hfits hmap hb,
        fun hle => absurd hfits (Int.not_lt.mpr hle)⟩
    · refine ⟨fun b d' hb => ?_, fun _ => hnone.mpr hfails⟩
      rw [hnone.mpr hfails] at hb
      cases hb

/-- A full HD background. -/
theorem create_buffer_exact_hd : SizeSafe {} {} { buffer := .indeterminate } 1920 1080 :=
  (create_buffer_exact_iff {} {} { buffer := .indeterminate } (by decide) (by decide)).mpr
    (Or.inl ⟨by decide, rfl⟩)

/-- **The product can be zero**: a surface of 32768 by 32768 gets a buffer without pixels, and what
is attached is not set.  A full HD buffer that `mmap` does not map is returned too. -/
theorem create_buffer_wraps :
    ∃ (s : SwaylockSurface Unit) (b : PoolBuffer),
      s = SurfaceEvent.set (.configure {} 32768 32768) { state := (), scale := 1 } ∧
      s.Draws ∧ s.Resized ∧ s.bufferWidth = (32768 : Int32).toInt ∧
      s.bufferHeight = (32768 : Int32).toInt ∧
      createBuffer {} {} { buffer := .indeterminate } 32768 32768 = some (b, {}) ∧
      b.size = 0 ∧ b.data = .null ∧ b.buffer = .indeterminate ∧
      ¬ SizeSafe {} {} { buffer := .indeterminate } 32768 32768 ∧
      ¬ SizeSafe { mmap := false } {} { buffer := .indeterminate } 1920 1080 := by
  refine ⟨_, _, rfl, ⟨by decide, rfl, rfl⟩, by decide, rfl, rfl, rfl, rfl, rfl, rfl, fun h => ?_,
    fun h => ?_⟩
  · obtain ⟨id, hid⟩ := (h.1 _ _ rfl).buffer
    cases hid
  · obtain ⟨b, d', hb, hbad⟩ := @not_exact_of_unmapped { mmap := false } {}
      { buffer := .indeterminate } 1920 1080 (by decide) (by decide) rfl
    exact hbad (h.1 b d' hb)

end SwaylockAuthd.Shm
