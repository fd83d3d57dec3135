import SwaylockAuthd.Comm.Wire

/-!
# Fragmentation does not matter

Whatever the kernel does at each call, `readFull` reads the next `size` bytes,
`writeFull` appends its bytes, and `commRead` and `commWrite` read and write one
frame of `frames`.

* `readFull_spec`, `commRead_spec`: what a read that returns has read.
* `readFull_returns`, `commRead_returns`: with more calls that move bytes than
  there are bytes, a read returns.
* `writeFull_spec`, `commWrite_spec`, and `writeFull_returns`,
  `commWrite_returns`: the same for writes to a pipe with a reader.
* `commWrite_closed`: a write to a pipe without readers.
-/

namespace SwaylockAuthd

/-! ## Reading a block -/

/-- The calls that move bytes. -/
def ReadCall.moves : ReadCall → Bool
  | .short _ => true
  | _ => false

def readMoves (cs : List ReadCall) : Nat := cs.countP ReadCall.moves

@[simp] theorem readMoves_nil : readMoves [] = 0 := rfl

@[simp] theorem readMoves_eintr (cs : List ReadCall) :
    readMoves (.eintr :: cs) = readMoves cs := by simp [readMoves, ReadCall.moves]

@[simp] theorem readMoves_error (cs : List ReadCall) :
    readMoves (.error :: cs) = readMoves cs := by simp [readMoves, ReadCall.moves]

@[simp] theorem readMoves_short (n : Nat) (cs : List ReadCall) :
    readMoves (.short n :: cs) = readMoves cs + 1 :=
  List.countP_cons_of_pos rfl

/-- Reading `m` of `k` wanted bytes and then the rest is reading `k` bytes. -/
theorem take_chunk {l : List UInt8} {m k : Nat} (h : m ≤ k) :
    l.take m ++ (l.drop m).take (k - (l.take m).length) = l.take k := by
  by_cases hm : m ≤ l.length
  · rw [List.length_take, Nat.min_eq_left hm, ← List.take_add, Nat.add_sub_cancel' h]
  · rw [List.drop_of_length_le (l := l) (by omega), List.take_nil, List.append_nil,
      List.take_of_length_le (by omega), List.take_of_length_le (by omega)]

theorem drop_chunk {l : List UInt8} {m k : Nat} (h : m ≤ k) :
    (l.drop m).drop (k - (l.take m).length) = l.drop k := by
  by_cases hm : m ≤ l.length
  · rw [List.length_take, Nat.min_eq_left hm, List.drop_drop, Nat.add_sub_cancel' h]
  · rw [List.drop_of_length_le (l := l) (i := m) (by omega), List.drop_nil,
      List.drop_of_length_le (by omega)]

/-- **What `readFull` has read**: the wanted bytes, or it failed because a call
did, or because the stream ended before them; `0` then says that the stream
ended before the first byte. -/
theorem readFull_spec {size : Nat} : ∀ {cs : List ReadCall} {p : Pipe} {dst : List UInt8} {n : Int}
    {dst' : List UInt8} {p' : Pipe} {cs' : List ReadCall},
    readFull cs p size dst = some (n, dst', p', cs') → dst.length ≤ size →
      (n = size ∧ size ≤ dst.length + p.data.length ∧
        dst' = dst ++ p.data.take (size - dst.length) ∧
        p' = { p with data := p.data.drop (size - dst.length) }) ∨
      (n = -1 ∧ .error ∈ cs) ∨
      (p.writer = false ∧ dst.length + p.data.length < size ∧
        n = if dst = [] ∧ p.data = [] then 0 else -1) := by
  intro cs
  induction cs with
  | nil =>
    intro p dst n dst' p' cs' h hd
    by_cases hlt : dst.length < size
    · rw [readFull_nil hlt] at h
      cases h
    · rw [readFull_done hlt] at h
      cases h
      have he : size - dst.length = 0 := by omega
      exact Or.inl ⟨by omega, by omega, by simp [he], by simp [he]⟩
  | cons c cs ih =>
    intro p dst n dst' p' cs' h hd
    by_cases hlt : dst.length < size
    · cases c with
      | eintr =>
        rw [readFull_eintr hlt] at h
        rcases ih h hd with h1 | ⟨hn, he⟩ | h1
        · exact Or.inl h1
        · exact Or.inr (Or.inl ⟨hn, List.mem_cons_of_mem _ he⟩)
        · exact Or.inr (Or.inr h1)
      | error =>
        rw [readFull_error hlt] at h
        cases h
        exact Or.inr (Or.inl ⟨rfl, List.mem_cons_self⟩)
      | short k =>
        by_cases hdata : p.data = []
        · rw [readFull_empty hlt k cs hdata] at h
          split at h
          · cases h
          · rename_i hw
            cases h
            exact Or.inr (Or.inr ⟨by simpa using hw, by simp [hdata, hlt], by simp [hdata]⟩)
        · rw [readFull_short hlt k cs hdata] at h
          have hpos : 0 < p.data.length := List.length_pos_iff.mpr hdata
          generalize hm : min (k + 1) (size - dst.length) = m at h
          have hle : m ≤ size - dst.length := by omega
          have hlen : (p.data.take m).length ≤ m := List.length_take_le m _
          have htotal : (p.data.take m).length + (p.data.drop m).length = p.data.length := by
            rw [← List.length_append, List.take_append_drop]
          have hsub : size - (dst ++ p.data.take m).length =
              size - dst.length - (p.data.take m).length := by
            rw [List.length_append]; omega
          rcases ih h (by rw [List.length_append]; omega) with ⟨hn, hs, hdst, hp⟩ | ⟨hn, he⟩ |
            ⟨hw, hs, hn⟩
          · rw [List.length_append] at hs
            dsimp only at hs hdst hp
            rw [hsub] at hdst hp
            refine Or.inl ⟨hn, by omega, ?_, ?_⟩
            · rw [hdst, List.append_assoc, take_chunk hle]
            · rw [hp, drop_chunk hle]
          · exact Or.inr (Or.inl ⟨hn, List.mem_cons_of_mem _ he⟩)
          · rw [List.length_append] at hs
            dsimp only at hs
            have hne : dst ++ p.data.take m ≠ [] := by
              rw [← List.length_pos_iff, List.length_append, List.length_take]
              omega
            refine Or.inr (Or.inr ⟨hw, by omega, ?_⟩)
            rw [hn, if_neg (fun hc => hne hc.1), if_neg (fun hc => hdata hc.2)]
    · rw [readFull_done hlt] at h
      cases h
      have he : size - dst.length = 0 := by omega
      exact Or.inl ⟨by omega, by omega, by simp [he], by simp [he]⟩

/-- Reading uses up calls and bytes, and leaves the ends of the pipe alone. -/
structure Uses (cs : List ReadCall) (p : Pipe) (cs' : List ReadCall) (p' : Pipe) : Prop where
  calls : cs' <:+ cs
  pipe : p' = { p with data := p'.data }

theorem Uses.refl (cs : List ReadCall) (p : Pipe) : Uses cs p cs p := ⟨List.suffix_rfl, rfl⟩

theorem Uses.trans {cs cs1 cs2 : List ReadCall} {p p1 p2 : Pipe} (h : Uses cs p cs1 p1)
    (g : Uses cs1 p1 cs2 p2) : Uses cs p cs2 p2 := by
  refine ⟨g.calls.trans h.calls, ?_⟩
  rw [g.pipe, h.pipe]

/-- A call that moves bytes of the pipe, or none. -/
theorem uses_cons (c : ReadCall) (cs : List ReadCall) (p : Pipe) (l : List UInt8) :
    Uses (c :: cs) p cs { p with data := l } := ⟨List.suffix_cons c cs, rfl⟩

theorem readFull_uses {size : Nat} : ∀ {cs : List ReadCall} {p : Pipe} {dst : List UInt8} {n : Int}
    {dst' : List UInt8} {p' : Pipe} {cs' : List ReadCall},
    readFull cs p size dst = some (n, dst', p', cs') → Uses cs p cs' p' := by
  intro cs
  induction cs with
  | nil =>
    intro p dst n dst' p' cs' h
    by_cases hlt : dst.length < size
    · rw [readFull_nil hlt] at h
      cases h
    · rw [readFull_done hlt] at h
      cases h
      exact Uses.refl [] p
  | cons c cs ih =>
    intro p dst n dst' p' cs' h
    by_cases hlt : dst.length < size
    · cases c with
      | eintr =>
        rw [readFull_eintr hlt] at h
        exact (uses_cons .eintr cs p p.data).trans (ih h)
      | error =>
        rw [readFull_error hlt] at h
        cases h
        exact uses_cons .error cs p p.data
      | short k =>
        by_cases hdata : p.data = []
        · rw [readFull_empty hlt k cs hdata] at h
          split at h <;> cases h
          exact uses_cons (.short k) cs p p.data
        · rw [readFull_short hlt k cs hdata] at h
          exact (uses_cons (.short k) cs p _).trans (ih h)
    · rw [readFull_done hlt] at h
      cases h
      exact Uses.refl (c :: cs) p

/-- **With more calls that move bytes than bytes, `readFull` returns**, if the
bytes are there or the stream has ended; a read block leaves enough calls for
the rest of the stream. -/
theorem readFull_returns {size : Nat} : ∀ {cs : List ReadCall} {p : Pipe} {dst : List UInt8},
    p.data.length < readMoves cs → (p.writer = false ∨ size ≤ dst.length + p.data.length) →
      ∃ n dst' p' cs', readFull cs p size dst = some (n, dst', p', cs') ∧
        (0 < n → p'.data.length < readMoves cs') := by
  intro cs
  induction cs with
  | nil => intro p dst h; simp at h
  | cons c cs ih =>
    intro p dst h hw
    by_cases hlt : dst.length < size
    · cases c with
      | eintr =>
        rw [readFull_eintr hlt]
        exact ih (by simpa using h) hw
      | error =>
        rw [readFull_error hlt]
        exact ⟨-1, dst, p, cs, rfl, by omega⟩
      | short k =>
        rw [readMoves_short] at h
        by_cases hdata : p.data = []
        · have hclosed : p.writer = false := hw.resolve_right (by rw [hdata]; simpa using hlt)
          rw [readFull_empty hlt k cs hdata, if_neg (by simp [hclosed])]
          refine ⟨_, dst, p, cs, rfl, ?_⟩
          split <;> omega
        · have hpos : 0 < p.data.length := List.length_pos_iff.mpr hdata
          rw [readFull_short hlt k cs hdata]
          refine ih ?_ (hw.imp_right fun hs => ?_)
          · rw [List.length_drop]
            omega
          · rw [List.length_append, List.length_take, List.length_drop]
            omega
    · rw [readFull_done hlt]
      exact ⟨_, dst, p, c :: cs, rfl, fun _ => h⟩

/-! ## Reading a frame -/

/-- What a call of `comm_read` gives: the frame the stream starts with; `-1` for
a frame that is too long; at the end of the stream `0`, or `-1` behind a cut
frame; or `-1` because `read` or `malloc` failed. -/
inductive CommReads (malloc : Bool) (cs : List ReadCall) (p : Pipe) : CommRead → Prop
  | frame {f : Frame} {rest : List UInt8} {cs' : List ReadCall}
      (head : frameHead p.data = .item f rest) :
      CommReads malloc cs p
        ⟨f.type.toNat, f.buffer, some f.payload.length, { p with data := rest }, cs'⟩
  | tooLarge {p' : Pipe} {cs' : List ReadCall} (head : frameHead p.data = .bad) :
      CommReads malloc cs p ⟨-1, none, none, p', cs'⟩
  | ended {p' : Pipe} {cs' : List ReadCall} (head : frameHead p.data = .more)
      (closed : p.writer = false) :
      CommReads malloc cs p ⟨if p.data = [] then 0 else -1, none, none, p', cs'⟩
  | failed {p' : Pipe} {cs' : List ReadCall} (why : .error ∈ cs ∨ malloc = false) :
      CommReads malloc cs p ⟨-1, none, none, p', cs'⟩

/-- `readFull_spec` for a block of at least one byte, read from its start. -/
theorem readBlock_spec {size : Nat} (hs : 0 < size) {cs : List ReadCall} {p : Pipe} {n : Int}
    {dst : List UInt8} {p' : Pipe} {cs' : List ReadCall}
    (h : readFull cs p size [] = some (n, dst, p', cs')) :
    (0 < n ∧ size ≤ p.data.length ∧ dst = p.data.take size ∧
      p' = { p with data := p.data.drop size }) ∨
    (n = -1 ∧ .error ∈ cs) ∨
    (p.writer = false ∧ p.data.length < size ∧ n = if p.data = [] then 0 else -1) := by
  rcases readFull_spec h (Nat.zero_le _) with ⟨hn, hl, hd, hp⟩ | h1 | ⟨hw, hl, hn⟩
  · exact Or.inl ⟨by omega, by simpa using hl, by simpa using hd, by simpa using hp⟩
  · exact Or.inr (Or.inl h1)
  · exact Or.inr (Or.inr ⟨hw, by simpa using hl, by simpa using hn⟩)

/-- A stream that has a byte, and one that has a header behind its first byte. -/
theorem exists_cons {l : List UInt8} (h : 1 ≤ l.length) : ∃ a t, l = a :: t := by
  cases l with
  | nil => simp at h
  | cons a t => exact ⟨a, t, rfl⟩

theorem exists_four {l : List UInt8} (h : 4 ≤ l.length) :
    ∃ a b c d t, l = a :: b :: c :: d :: t := by
  match l, h with
  | a :: b :: c :: d :: t, _ => exact ⟨a, b, c, d, t, rfl⟩

/-- What `comm_read` gives once it has read the header. -/
theorem commReads_payload {malloc : Bool} {cs cs2 : List ReadCall} {p : Pipe} {ty a b c d : UInt8}
    {l : List UInt8} {r : CommRead} (hdata : p.data = ty :: a :: b :: c :: d :: l)
    (hsub : ∀ x ∈ cs2, x ∈ cs) (hmax : ¬ COMM_MAX_PAYLOAD < (loadLe32 [a, b, c, d]).toNat)
    (hpos : 0 < (loadLe32 [a, b, c, d]).toNat)
    (h : (match readFull cs2 { p with data := l } (loadLe32 [a, b, c, d]).toNat [] with
      | none => none
      | some (n, buf, p, cs) =>
        if n ≤ 0 then some (⟨-1, none, none, p, cs⟩ : CommRead)
        else some ⟨ty.toNat, some (buf ++ [0]), some (loadLe32 [a, b, c, d]).toNat, p, cs⟩)
      = some r) :
    CommReads malloc cs p r := by
  have hhead := frameHead_header ty a b c d l
  rw [← hdata, if_neg hmax] at hhead
  cases h3 : readFull cs2 { p with data := l } (loadLe32 [a, b, c, d]).toNat [] with
  | none => simp [h3] at h
  | some x =>
    obtain ⟨n, buf, p3, cs3⟩ := x
    rw [h3] at h
    dsimp only at h
    rcases readBlock_spec hpos h3 with ⟨hn, hl, rfl, rfl⟩ | ⟨rfl, he⟩ | ⟨hw, hl, hn⟩
    · rw [if_neg (by omega)] at h
      cases h
      dsimp only at hl
      rw [if_pos hl] at hhead
      have hne : l.take (loadLe32 [a, b, c, d]).toNat ≠ [] := by
        rw [← List.length_pos_iff, List.length_take]
        omega
      have hr : CommReads malloc cs p ⟨ty.toNat, Frame.buffer _, some _, _, cs3⟩ := .frame hhead
      simpa [Frame.buffer, hne, Nat.min_eq_left hl] using hr
    · cases h
      exact .failed (Or.inl (hsub _ he))
    · rw [if_pos (by rw [hn]; split <;> omega)] at h
      cases h
      dsimp only at hl
      rw [if_neg (by omega)] at hhead
      have hr : CommReads malloc cs p ⟨_, none, none, p3, cs3⟩ := .ended hhead hw
      rwa [if_neg (by rw [hdata]; simp)] at hr

/-- **What `commRead` has read.** -/
theorem commRead_spec {malloc : Bool} {cs : List ReadCall} {p : Pipe} {r : CommRead}
    (h : commRead malloc cs p = some r) : CommReads malloc cs p r := by
  rw [commRead] at h
  cases h1 : readFull cs p 1 [] with
  | none => simp [h1] at h
  | some x1 =>
    obtain ⟨n1, type, p1, cs1⟩ := x1
    rw [h1] at h
    dsimp only at h
    have hcs1 := (readFull_uses h1).calls
    rcases readBlock_spec Nat.one_pos h1 with ⟨hn1, hs1, rfl, rfl⟩ | ⟨rfl, he⟩ | ⟨hw, hs1, hn1⟩
    · obtain ⟨ty, l1, hdata⟩ := exists_cons hs1
      rw [if_neg (by omega), hdata] at h
      simp only [List.drop_succ_cons, List.drop_zero, List.take_succ_cons, List.take_zero] at h
      cases h2 : readFull cs1 { p with data := l1 } 4 [] with
      | none => simp [h2] at h
      | some x2 =>
        obtain ⟨n2, plenBuf, p2, cs2⟩ := x2
        rw [h2] at h
        dsimp only at h
        have hcs2 := (readFull_uses h2).calls.trans hcs1
        rcases readBlock_spec (by decide) h2 with ⟨hn2, hs2, rfl, rfl⟩ | ⟨rfl, he⟩ | ⟨hw, hs2, hn2⟩
        · obtain ⟨a, b, c, d, l2, rfl⟩ := exists_four hs2
          have hhead := frameHead_header ty a b c d l2
          rw [← hdata] at hhead
          rw [if_neg (by omega)] at h
          simp only [List.take_succ_cons, List.take_zero, List.drop_succ_cons, List.drop_zero,
            List.getD_cons_zero] at h
          split at h
          · rename_i hmax
            cases h
            exact .tooLarge (by rw [hhead, if_pos hmax])
          · rename_i hmax
            rw [if_neg hmax] at hhead
            split at h
            · rename_i hpos
              split at h
              · exact commReads_payload hdata (fun x hx => hcs2.subset hx) hmax hpos h
              · rename_i hmalloc
                cases h
                exact .failed (Or.inr (by simpa using hmalloc))
            · rename_i hpos
              cases h
              have hz : (loadLe32 [a, b, c, d]).toNat = 0 := by omega
              rw [hz, if_pos (Nat.zero_le _)] at hhead
              have hr : CommReads malloc cs p ⟨ty.toNat, Frame.buffer _, some _, _, cs2⟩ :=
                .frame hhead
              simpa [Frame.buffer, hz] using hr
        · cases h
          exact .failed (Or.inl (hcs1.subset he))
        · rw [if_pos (by rw [hn2]; split <;> omega)] at h
          cases h
          dsimp only at hs2
          have hmore : frameHead p.data = .more := frameHead_short (by rw [hdata]; simp; omega)
          have hr : CommReads malloc cs p ⟨_, none, none, p2, cs2⟩ := .ended hmore hw
          rwa [if_neg (by rw [hdata]; simp)] at hr
    · cases h
      exact .failed (Or.inl he)
    · have hdata : p.data = [] := List.length_eq_zero_iff.mp (by omega)
      rw [if_pos hdata] at hn1
      subst hn1
      cases h
      have hr : CommReads malloc cs p ⟨_, none, none, p1, cs1⟩ := .ended (by rw [hdata]; rfl) hw
      rwa [if_pos hdata] at hr

/-- **With more calls that move bytes than bytes, `commRead` returns** when the
stream starts with a whole frame or a frame that is too long, or has ended; a
frame leaves enough calls for the rest of the stream. -/
theorem commRead_returns (malloc : Bool) {cs : List ReadCall} {p : Pipe}
    (h : p.data.length < readMoves cs) (hw : p.writer = false ∨ frameHead p.data ≠ .more) :
    ∃ r, commRead malloc cs p = some r ∧
      (r.len ≠ none → r.pipe.data.length < readMoves r.calls) := by
  have failed : ∀ {q : Pipe} {ds : List ReadCall}, ∃ r, some (⟨-1, none, none, q, ds⟩ : CommRead)
      = some r ∧ (r.len ≠ none → r.pipe.data.length < readMoves r.calls) :=
    fun {q ds} => ⟨_, rfl, fun h => absurd rfl h⟩
  have h5 : p.writer = false ∨ 5 ≤ p.data.length := hw.imp_right fun hh => by
    obtain ⟨_, _, _, _, _, _, hl⟩ := exists_header hh
    rw [hl]
    simp
  have h0 : p.writer = false ∨ 1 ≤ ([] : List UInt8).length + p.data.length := by
    refine h5.imp_right fun h5 => ?_
    simp
    omega
  obtain ⟨n1, type, p1, cs1, h1, hm1⟩ := readFull_returns h h0
  rw [commRead, h1]
  dsimp only
  by_cases hn1 : n1 ≤ 0
  · rw [if_pos hn1]
    exact ⟨_, rfl, fun h => absurd rfl h⟩
  rw [if_neg hn1]
  obtain ⟨-, hs1, rfl, rfl⟩ := (readBlock_spec Nat.one_pos h1).resolve_right (by
    rintro (⟨rfl, -⟩ | ⟨-, -, rfl⟩)
    · exact hn1 (by decide)
    · exact hn1 (by split <;> decide))
  obtain ⟨ty, l1, hdata⟩ := exists_cons hs1
  rw [hdata] at hm1 h5 ⊢
  simp only [List.drop_succ_cons, List.drop_zero, List.length_cons] at hm1 h5 ⊢
  have h4 : p.writer = false ∨ 4 ≤ ([] : List UInt8).length + l1.length :=
    h5.imp_right fun h5 => by simp; omega
  obtain ⟨n2, plenBuf, p2, cs2, h2, hm2⟩ :=
    readFull_returns (p := { p with data := l1 }) (hm1 (by omega)) h4
  rw [h2]
  dsimp only
  by_cases hn2 : n2 ≤ 0
  · rw [if_pos hn2]
    exact failed
  rw [if_neg hn2]
  obtain ⟨-, hs2, rfl, rfl⟩ := (readBlock_spec (by decide) h2).resolve_right (by
    rintro (⟨rfl, -⟩ | ⟨-, -, rfl⟩)
    · exact hn2 (by decide)
    · exact hn2 (by split <;> decide))
  obtain ⟨a, b, c, d, l2, rfl⟩ := exists_four hs2
  simp only [List.drop_succ_cons, List.drop_zero, List.take_succ_cons, List.take_zero] at hm2 ⊢
  split
  · exact failed
  · rename_i hmax
    split
    · rename_i hpos
      split
      · have h3 : p.writer = false ∨ (loadLe32 [a, b, c, d]).toNat ≤
          ([] : List UInt8).length + l2.length := by
          refine hw.imp_right fun hh => ?_
          rw [hdata, frameHead_header, if_neg hmax] at hh
          by_contra hlt
          rw [List.length_nil, Nat.zero_add] at hlt
          rw [if_neg hlt] at hh
          exact hh rfl
        obtain ⟨n3, buf, p3, cs3, h3, hm3⟩ :=
          readFull_returns (p := { p with data := l2 }) (hm2 (by omega)) h3
        rw [h3]
        dsimp only
        by_cases hn3 : n3 ≤ 0
        · rw [if_pos hn3]
          exact failed
        · rw [if_neg hn3]
          exact ⟨_, rfl, fun _ => hm3 (by omega)⟩
      · exact failed
    · exact ⟨_, rfl, fun _ => hm2 (by omega)⟩

/-! ## Writing -/

/-- The calls that move bytes. -/
def WriteCall.moves : WriteCall → Bool
  | .short _ => true
  | .eintr => false

def writeMoves (cs : List WriteCall) : Nat := cs.countP WriteCall.moves

@[simp] theorem writeMoves_nil : writeMoves [] = 0 := rfl

@[simp] theorem writeMoves_eintr (cs : List WriteCall) :
    writeMoves (.eintr :: cs) = writeMoves cs := by simp [writeMoves, WriteCall.moves]

@[simp] theorem writeMoves_short (n : Nat) (cs : List WriteCall) :
    writeMoves (.short n :: cs) = writeMoves cs + 1 := List.countP_cons_of_pos rfl

/-- **What `writeFull` has written** to a pipe with a reader: everything, unless
it has not returned. -/
theorem writeFull_open (sigpipe : Disposition) : ∀ (cs : List WriteCall) (p : Pipe)
    (src : List UInt8), p.reader = true →
      (writeFull sigpipe cs p src = .blocked ∧ writeMoves cs < src.length) ∨
      ∃ cs', writeFull sigpipe cs p src = .returned true { p with data := p.data ++ src } cs' ∧
        writeMoves cs ≤ writeMoves cs' + src.length := by
  intro cs
  induction cs with
  | nil =>
    intro p src hp
    by_cases hs : src = []
    · subst hs
      exact Or.inr ⟨[], by simp [writeFull_done], by simp⟩
    · exact Or.inl ⟨writeFull_nil sigpipe hp hs, by simpa using List.length_pos_iff.mpr hs⟩
  | cons c cs ih =>
    intro p src hp
    by_cases hs : src = []
    · subst hs
      exact Or.inr ⟨c :: cs, by simp [writeFull_done], by simp⟩
    · cases c with
      | eintr =>
        rw [writeFull_eintr sigpipe cs hp hs, writeMoves_eintr]
        exact ih p src hp
      | short n =>
        rw [writeFull_short sigpipe n cs hp hs, writeMoves_short]
        have hpos : 0 < src.length := List.length_pos_iff.mpr hs
        have hdrop : (src.drop (n + 1)).length = src.length - (n + 1) := List.length_drop
        rcases ih { p with data := p.data ++ src.take (n + 1) } (src.drop (n + 1)) hp
          with ⟨h, hl⟩ | ⟨cs', h, hl⟩
        · exact Or.inl ⟨h, by omega⟩
        · refine Or.inr ⟨cs', ?_, by omega⟩
          rw [h]
          simp [List.append_assoc]

/-- The bytes `comm_write` writes. -/
def commWriteBytes (type : UInt8) (payload : Option (List UInt8)) (len : Nat) : List UInt8 :=
  type :: (storeLe32 (UInt32.ofNat len) ++ (payload.getD []).take len)

/-- **What `commWrite` has written** to a pipe with a reader. -/
theorem commWrite_open (sigpipe : Disposition) (cs : List WriteCall) {p : Pipe} (type : UInt8)
    (payload : Option (List UInt8)) (len : Nat) (hp : p.reader = true) :
    (commWrite sigpipe cs p type payload len = .blocked ∧
      writeMoves cs < (commWriteBytes type payload len).length) ∨
    ∃ cs', commWrite sigpipe cs p type payload len =
        .returned true { p with data := p.data ++ commWriteBytes type payload len } cs' ∧
      writeMoves cs ≤ writeMoves cs' + (commWriteBytes type payload len).length := by
  rw [commWrite, commWriteBytes]
  simp only [List.length_cons, List.length_append, length_storeLe32]
  rcases writeFull_open sigpipe cs p [type] hp with ⟨h1, hl1⟩ | ⟨cs1, h1, hl1⟩
  · rw [h1]
    exact Or.inl ⟨rfl, by rw [List.length_singleton] at hl1; omega⟩
  rw [h1]
  dsimp only
  rw [List.length_singleton] at hl1
  rcases writeFull_open sigpipe cs1 { p with data := p.data ++ [type] }
    (storeLe32 (UInt32.ofNat len)) hp with ⟨h2, hl2⟩ | ⟨cs2, h2, hl2⟩
  · rw [h2]
    exact Or.inl ⟨rfl, by rw [length_storeLe32] at hl2; omega⟩
  rw [h2]
  dsimp only
  rw [length_storeLe32] at hl2
  cases payload with
  | none =>
    exact Or.inr ⟨cs2, by simp [List.append_assoc], by simp; omega⟩
  | some b =>
    by_cases hlen : 0 < len
    · dsimp only
      rw [if_pos hlen, Option.getD_some]
      rcases writeFull_open sigpipe cs2
        { p with data := p.data ++ [type] ++ storeLe32 (UInt32.ofNat len) } (b.take len) hp
        with ⟨h3, hl3⟩ | ⟨cs3, h3, hl3⟩
      · rw [h3]
        exact Or.inl ⟨rfl, by omega⟩
      · rw [h3]
        exact Or.inr ⟨cs3, by simp [List.append_assoc], by omega⟩
    · obtain rfl : len = 0 := by omega
      exact Or.inr ⟨cs2, by simp [List.append_assoc], by simp; omega⟩

/-- A write to a pipe without readers. -/
theorem commWrite_closed (sigpipe : Disposition) (cs : List WriteCall) {p : Pipe} (type : UInt8)
    (payload : Option (List UInt8)) (len : Nat) (hp : p.reader = false) :
    commWrite sigpipe cs p type payload len = writeToNobody sigpipe p cs := by
  rw [commWrite, writeFull_closed sigpipe cs hp (by simp), writeToNobody]
  by_cases hd : sigpipe = .default
  · rw [if_pos hd]
  · rw [if_neg hd]

end SwaylockAuthd
