import Mathlib.Data.Nat.Bitwise
import SwaylockAuthd.Lib.Framing

/-!
# `comm.c`: pipes and frames

The two processes talk through two pipes, one each way.  A frame is

    uint8_t type | uint32_t payload_len (little-endian) | payload[payload_len]

`readFull` and `writeFull` are the loops around `read` and `write`; what the
kernel does at each call (`EINTR`, another error, how many bytes it moves) comes
from a list of calls, so a theorem about every list is a theorem about every
fragmentation.  A loop that runs out of calls, or that waits for bytes nobody
has written yet, has not returned: `none`, or `WriteResult.blocked`.

`frames` reads the frame layout directly off a byte stream; `Fragmentation.lean`
shows that `commRead` does the same whatever the kernel does.
-/

namespace SwaylockAuthd

/-! ## Message types -/

def COMM_MAX_PAYLOAD : Nat := 2 ^ 20

def COMM_MSG_PASSWORD : UInt8 := 0x01
def COMM_MSG_BROKER_SEL : UInt8 := 0x02
def COMM_MSG_AUTH_MODE_SEL : UInt8 := 0x03
def COMM_MSG_BUTTON : UInt8 := 0x04
def COMM_MSG_CANCEL : UInt8 := 0x05

def COMM_MSG_AUTH_RESULT : UInt8 := 0x81
def COMM_MSG_BROKERS : UInt8 := 0x82
def COMM_MSG_AUTH_MODES : UInt8 := 0x83
def COMM_MSG_UI_LAYOUT : UInt8 := 0x84
def COMM_MSG_STAGE : UInt8 := 0x85
def COMM_MSG_AUTH_EVENT : UInt8 := 0x86

/-! ## Pipes and system calls -/

/-- One of the two pipes: the bytes written and not yet read, and whether some
process still holds its write end and its read end. -/
structure Pipe where
  data : List UInt8 := []
  writer : Bool := true
  reader : Bool := true
  deriving DecidableEq, Repr

/-- One call of `read`: it fails with `EINTR`, fails otherwise, or moves up to
`n + 1` bytes. -/
inductive ReadCall
  | eintr
  | error
  | short (n : Nat)
  deriving DecidableEq, Repr

/-- One call of `write` on a pipe that has a reader: it fails with `EINTR` or
moves up to `n + 1` bytes. -/
inductive WriteCall
  | eintr
  | short (n : Nat)
  deriving DecidableEq, Repr

/-- What the process does about a signal. -/
inductive Disposition
  | default
  | ignored
  | handled
  deriving DecidableEq, Repr

/-! ## Reading and writing a block -/

/-- `read_full`: the value returned, the bytes stored in `dst` so far, the pipe
and the calls left over. -/
def readFull : List ReadCall → Pipe → Nat → List UInt8 →
    Option (Int × List UInt8 × Pipe × List ReadCall)
  | [], p, size, dst => if dst.length < size then none else some (dst.length, dst, p, [])
  | c :: cs, p, size, dst =>
    if dst.length < size then
      match c with
      | .eintr => readFull cs p size dst
      | .error => some (-1, dst, p, cs)
      | .short n =>
        if p.data = [] then
          if p.writer then
            none -- nothing to read yet: `read` waits
          else
            some (if dst = [] then 0 else -1, dst, p, cs)
        else
          readFull cs { p with data := p.data.drop (min (n + 1) (size - dst.length)) } size
            (dst ++ p.data.take (min (n + 1) (size - dst.length)))
    else
      some (dst.length, dst, p, c :: cs)

theorem readFull_done {size : Nat} {dst : List UInt8} (h : ¬ dst.length < size)
    (cs : List ReadCall) (p : Pipe) :
    readFull cs p size dst = some ((dst.length : Int), dst, p, cs) := by
  cases cs with
  | nil => simp [readFull, h]
  | cons c cs => cases c <;> simp [readFull, h]

theorem readFull_nil {size : Nat} {dst : List UInt8} (h : dst.length < size) (p : Pipe) :
    readFull [] p size dst = none := by rw [readFull, if_pos h]

theorem readFull_eintr {size : Nat} {dst : List UInt8} (h : dst.length < size)
    (cs : List ReadCall) (p : Pipe) :
    readFull (.eintr :: cs) p size dst = readFull cs p size dst := by simp [readFull, h]

theorem readFull_error {size : Nat} {dst : List UInt8} (h : dst.length < size)
    (cs : List ReadCall) (p : Pipe) :
    readFull (.error :: cs) p size dst = some (-1, dst, p, cs) := by simp [readFull, h]

theorem readFull_empty {size : Nat} {dst : List UInt8} (h : dst.length < size) (n : Nat)
    (cs : List ReadCall) {p : Pipe} (hp : p.data = []) :
    readFull (.short n :: cs) p size dst =
      if p.writer then none else some (if dst = [] then 0 else -1, dst, p, cs) := by
  simp [readFull, h, hp]

theorem readFull_short {size : Nat} {dst : List UInt8} (h : dst.length < size) (n : Nat)
    (cs : List ReadCall) {p : Pipe} (hp : p.data ≠ []) :
    readFull (.short n :: cs) p size dst =
      readFull cs { p with data := p.data.drop (min (n + 1) (size - dst.length)) } size
        (dst ++ p.data.take (min (n + 1) (size - dst.length))) := by
  simp [readFull, h, hp]

/-- How `write_full` and `comm_write` end: they return a value, a `SIGPIPE` kills
the process, or they do not return. -/
inductive WriteResult
  | returned (ok : Bool) (p : Pipe) (cs : List WriteCall)
  | killed
  | blocked
  deriving DecidableEq, Repr

/-- `write` on a pipe without readers raises `SIGPIPE`, and fails with `EPIPE` in
a process that ignores or handles the signal. -/
def writeToNobody (sigpipe : Disposition) (p : Pipe) (cs : List WriteCall) : WriteResult :=
  if sigpipe = .default then .killed else .returned false p cs

/-- `write_full`. -/
def writeFull (sigpipe : Disposition) : List WriteCall → Pipe → List UInt8 → WriteResult
  | [], p, src =>
    if src = [] then .returned true p []
    else if p.reader then .blocked
    else writeToNobody sigpipe p []
  | c :: cs, p, src =>
    if src = [] then .returned true p (c :: cs)
    else if p.reader then
      match c with
      | .eintr => writeFull sigpipe cs p src
      | .short n =>
        writeFull sigpipe cs { p with data := p.data ++ src.take (n + 1) } (src.drop (n + 1))
    else writeToNobody sigpipe p (c :: cs)

theorem writeFull_done (sigpipe : Disposition) (cs : List WriteCall) (p : Pipe) :
    writeFull sigpipe cs p [] = .returned true p cs := by
  cases cs with
  | nil => rfl
  | cons c cs => cases c <;> rfl

theorem writeFull_closed (sigpipe : Disposition) (cs : List WriteCall) {p : Pipe}
    {src : List UInt8} (hp : p.reader = false) (hs : src ≠ []) :
    writeFull sigpipe cs p src = writeToNobody sigpipe p cs := by
  cases cs with
  | nil => simp [writeFull, hp, hs]
  | cons c cs => cases c <;> simp [writeFull, hp, hs]

theorem writeFull_nil (sigpipe : Disposition) {p : Pipe} {src : List UInt8}
    (hp : p.reader = true) (hs : src ≠ []) : writeFull sigpipe [] p src = .blocked := by
  simp [writeFull, hp, hs]

theorem writeFull_eintr (sigpipe : Disposition) (cs : List WriteCall) {p : Pipe}
    {src : List UInt8} (hp : p.reader = true) (hs : src ≠ []) :
    writeFull sigpipe (.eintr :: cs) p src = writeFull sigpipe cs p src := by
  simp [writeFull, hp, hs]

theorem writeFull_short (sigpipe : Disposition) (n : Nat) (cs : List WriteCall) {p : Pipe}
    {src : List UInt8} (hp : p.reader = true) (hs : src ≠ []) :
    writeFull sigpipe (.short n :: cs) p src =
      writeFull sigpipe cs { p with data := p.data ++ src.take (n + 1) } (src.drop (n + 1)) := by
  simp [writeFull, hp, hs]

/-! ## Little-endian lengths -/

/-- `load_le32`. -/
def loadLe32 (b : List UInt8) : UInt32 :=
  (b.getD 0 0).toUInt32 ||| ((b.getD 1 0).toUInt32 <<< 8) |||
    ((b.getD 2 0).toUInt32 <<< 16) ||| ((b.getD 3 0).toUInt32 <<< 24)

/-- `store_le32`. -/
def storeLe32 (v : UInt32) : List UInt8 :=
  [(v &&& 0xff).toUInt8, ((v >>> 8) &&& 0xff).toUInt8, ((v >>> 16) &&& 0xff).toUInt8,
    ((v >>> 24) &&& 0xff).toUInt8]

@[simp] theorem length_storeLe32 (v : UInt32) : (storeLe32 v).length = 4 := rfl

/-- Numbers without a common bit are added by `|`. -/
theorem lor_eq_add {a i : Nat} (h : a < 2 ^ i) (b : Nat) : a ||| b * 2 ^ i = a + 2 ^ i * b := by
  rw [Nat.mul_comm b, Nat.lor_comm, ← Nat.two_pow_add_eq_or_of_lt h b, Nat.add_comm]

/-- The bytes of a length are its digits in base 256. -/
theorem toNat_loadLe32 (a b c d : UInt8) :
    (loadLe32 [a, b, c, d]).toNat
      = a.toNat + 2 ^ 8 * b.toNat + 2 ^ 16 * c.toNat + 2 ^ 24 * d.toNat := by
  have ha := a.toNat_lt
  have hb := b.toNat_lt
  have hc := c.toNat_lt
  have hd := d.toNat_lt
  have e8 : (8 : UInt32).toNat % 32 = 8 := rfl
  have e16 : (16 : UInt32).toNat % 32 = 16 := rfl
  have e24 : (24 : UInt32).toNat % 32 = 24 := rfl
  simp only [loadLe32, List.getD_cons_zero, List.getD_cons_succ, UInt32.toNat_or,
    UInt32.toNat_shiftLeft, UInt8.toNat_toUInt32, Nat.shiftLeft_eq]
  rw [e8, e16, e24, Nat.mod_eq_of_lt (a := b.toNat * 2 ^ 8) (by omega),
    Nat.mod_eq_of_lt (a := c.toNat * 2 ^ 16) (by omega),
    Nat.mod_eq_of_lt (a := d.toNat * 2 ^ 24) (by omega)]
  have h1 : a.toNat ||| b.toNat * 2 ^ 8 = a.toNat + 2 ^ 8 * b.toNat := lor_eq_add ha _
  rw [h1, lor_eq_add (i := 16) (by omega), lor_eq_add (i := 24) (by omega)]

theorem loadLe32_storeLe32 (v : UInt32) : loadLe32 (storeLe32 v) = v := by
  apply UInt32.toNat_inj.mp
  have hv := v.toNat_lt
  have mask : ∀ n : Nat, n &&& 255 = n % 256 := fun n => Nat.and_two_pow_sub_one_eq_mod n 8
  have e8 : (8 : UInt32).toNat % 32 = 8 := rfl
  have e16 : (16 : UInt32).toNat % 32 = 16 := rfl
  have e24 : (24 : UInt32).toNat % 32 = 24 := rfl
  have e255 : (0xff : UInt32).toNat = 255 := rfl
  rw [storeLe32, toNat_loadLe32]
  simp only [UInt32.toNat_toUInt8, UInt32.toNat_and, UInt32.toNat_shiftRight,
    Nat.shiftRight_eq_div_pow]
  rw [e8, e16, e24, e255, mask, mask, mask, mask]
  omega

/-! ## Reading and writing a frame -/

/-- What `comm_read` returns and stores: `len` is `none` where `*len` is not
assigned. -/
structure CommRead where
  ret : Int
  payload : Option (List UInt8)
  len : Option Nat
  pipe : Pipe
  calls : List ReadCall
  deriving DecidableEq, Repr

/-- `comm_read`; `malloc` says whether the allocation of the payload succeeds. -/
def commRead (malloc : Bool) (cs : List ReadCall) (p : Pipe) : Option CommRead :=
  match readFull cs p 1 [] with
  | none => none
  | some (n, type, p, cs) =>
    if n ≤ 0 then some ⟨n, none, none, p, cs⟩
    else
      match readFull cs p 4 [] with
      | none => none
      | some (n, plenBuf, p, cs) =>
        if n ≤ 0 then some ⟨-1, none, none, p, cs⟩
        else
          let plen := (loadLe32 plenBuf).toNat
          if COMM_MAX_PAYLOAD < plen then some ⟨-1, none, none, p, cs⟩
          else if 0 < plen then
            if malloc then
              match readFull cs p plen [] with
              | none => none
              | some (n, buf, p, cs) =>
                if n ≤ 0 then some ⟨-1, none, none, p, cs⟩
                else some ⟨(type.getD 0 0).toNat, some (buf ++ [0]), some plen, p, cs⟩
            else some ⟨-1, none, none, p, cs⟩
          else some ⟨(type.getD 0 0).toNat, none, some plen, p, cs⟩

/-- `comm_write`; the payload pointer may be `NULL`. -/
def commWrite (sigpipe : Disposition) (cs : List WriteCall) (p : Pipe) (type : UInt8)
    (payload : Option (List UInt8)) (len : Nat) : WriteResult :=
  match writeFull sigpipe cs p [type] with
  | .returned true p cs =>
    match writeFull sigpipe cs p (storeLe32 (UInt32.ofNat len)) with
    | .returned true p cs =>
      match payload with
      | some b => if 0 < len then writeFull sigpipe cs p (b.take len) else .returned true p cs
      | none => .returned true p cs
    | r => r
  | r => r

/-! ## The frame layout -/

structure Frame where
  type : UInt8
  payload : List UInt8
  deriving DecidableEq, Repr

namespace Frame

/-- The bytes on the wire; the length field holds the length modulo `2 ^ 32`. -/
def bytes (f : Frame) : List UInt8 :=
  f.type :: (storeLe32 (UInt32.ofNat f.payload.length) ++ f.payload)

/-- The buffer handed to the caller: `NULL`, or the payload and a NUL byte. -/
def buffer (f : Frame) : Option (List UInt8) :=
  if f.payload = [] then none else some (f.payload ++ [0])

/-- The frames the reader accepts. -/
def Fits (f : Frame) : Prop := f.payload.length ≤ COMM_MAX_PAYLOAD

instance (f : Frame) : Decidable f.Fits := Nat.decLe _ _

end Frame

/-- What a byte stream starts with. -/
def frameHead : List UInt8 → Framing.Head UInt8 Frame
  | type :: a :: b :: c :: d :: rest =>
    let plen := (loadLe32 [a, b, c, d]).toNat
    if COMM_MAX_PAYLOAD < plen then .bad
    else if plen ≤ rest.length then .item ⟨type, rest.take plen⟩ (rest.drop plen)
    else .more
  | _ => .more

/-- A stream that is long enough to hold a header. -/
theorem frameHead_header (type a b c d : UInt8) (rest : List UInt8) :
    frameHead (type :: a :: b :: c :: d :: rest) =
      if COMM_MAX_PAYLOAD < (loadLe32 [a, b, c, d]).toNat then .bad
      else if (loadLe32 [a, b, c, d]).toNat ≤ rest.length then
        .item ⟨type, rest.take (loadLe32 [a, b, c, d]).toNat⟩
          (rest.drop (loadLe32 [a, b, c, d]).toNat)
      else .more := rfl

theorem frameHead_short {l : List UInt8} (h : l.length < 5) : frameHead l = .more := by
  match l, h with
  | [], _ => rfl
  | [_], _ => rfl
  | [_, _], _ => rfl
  | [_, _, _], _ => rfl
  | [_, _, _, _], _ => rfl

/-- A stream with an item or a bad head holds a header. -/
theorem exists_header {l : List UInt8} (h : frameHead l ≠ .more) :
    ∃ type a b c d rest, l = type :: a :: b :: c :: d :: rest := by
  match l, h with
  | type :: a :: b :: c :: d :: rest, _ => exact ⟨type, a, b, c, d, rest, rfl⟩
  | [], h => exact absurd rfl h
  | [_], h => exact absurd rfl h
  | [_, _], h => exact absurd rfl h
  | [_, _, _], h => exact absurd rfl h
  | [_, _, _, _], h => exact absurd rfl h

/-- An item leaves what follows its payload. -/
theorem frameHead_item {l r : List UInt8} {f : Frame} (h : frameHead l = .item f r) :
    ∃ a b c d, l = f.type :: a :: b :: c :: d :: (f.payload ++ r) ∧
      (loadLe32 [a, b, c, d]).toNat = f.payload.length ∧ f.Fits := by
  obtain ⟨type, a, b, c, d, rest, rfl⟩ := exists_header (l := l) (by rw [h]; simp)
  rw [frameHead_header] at h
  split at h
  · cases h
  · rename_i hmax
    split at h
    · rename_i hlen
      cases h
      refine ⟨a, b, c, d, by simp, by simp [Nat.min_eq_left hlen], ?_⟩
      simp only [Frame.Fits, List.length_take]
      omega
    · cases h

/-- The frames of a byte stream. -/
def frameFraming : Framing UInt8 Frame where
  head := frameHead
  head_nil := rfl
  shorter := by
    intro l f r h
    obtain ⟨a, b, c, d, rfl, -, -⟩ := frameHead_item h
    simp only [List.length_cons, List.length_append]
    omega
  item_append := by
    intro l f r m h
    obtain ⟨a, b, c, d, rfl, hlen, hfits⟩ := frameHead_item h
    simp only [List.cons_append, List.append_assoc]
    rw [frameHead_header, hlen, if_neg (by simpa [Frame.Fits] using hfits), if_pos (by simp),
      List.take_left, List.drop_left]
  bad_append := by
    intro l m h
    obtain ⟨type, a, b, c, d, rest, rfl⟩ := exists_header (l := l) (by rw [h]; simp)
    rw [frameHead_header] at h
    simp only [List.cons_append]
    rw [frameHead_header]
    split at h
    · rename_i hmax
      rw [if_pos hmax]
    · split at h <;> cases h

/-- The maximal sequence of complete frames, none longer than `COMM_MAX_PAYLOAD`,
that a byte stream starts with. -/
def frames (l : List UInt8) : List Frame := frameFraming.items l

/-- What follows these frames. -/
def framesEnding (l : List UInt8) : Framing.Ending := frameFraming.ending l

/-- A frame that fits is read back from its bytes. -/
theorem writes_bytes {f : Frame} (h : f.Fits) : frameFraming.Writes f.bytes f := by
  have hlt : f.payload.length < 2 ^ 32 := lt_of_le_of_lt h (by decide)
  have hlen : (loadLe32 (storeLe32 (UInt32.ofNat f.payload.length))).toNat = f.payload.length := by
    rw [loadLe32_storeLe32, UInt32.toNat_ofNat', Nat.mod_eq_of_lt hlt]
  show frameHead (f.type :: (storeLe32 (UInt32.ofNat f.payload.length) ++ f.payload)) = .item f []
  rw [storeLe32] at hlen ⊢
  simp only [List.cons_append, List.nil_append]
  rw [frameHead_header, hlen, if_neg (by simpa [Frame.Fits] using h), if_pos le_rfl,
    List.take_length, List.drop_length]

end SwaylockAuthd
