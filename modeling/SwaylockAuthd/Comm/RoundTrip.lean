import SwaylockAuthd.Comm.Fragmentation

/-!
# Frame streams

What successive calls of `comm_read` return on a stream, whatever the kernel
does at each `read`:

* `commReads_frames`: on the bytes written so far, the frames they start with.
* `commReads_to_end`: on a stream that has ended, all of its frames and then `0`
  behind a clean ending and `-1` behind any other.
* `commReads_commWrites`: the messages written by `comm_write`, and then `0`.
* `readsFaithfully_iff`: on any stream, the frames, the ending, and `0` at the
  end of the stream only; the last holds exactly for the streams without a frame
  of type `0`, whose type is returned as if it were the end of the stream.
-/

namespace SwaylockAuthd

/-! ## Successive reads -/

/-- `n` calls of `comm_read`, one after another. -/
def commReads (malloc : Bool) : Nat → List ReadCall → Pipe → Option (List CommRead)
  | 0, _, _ => some []
  | n + 1, cs, p =>
    match commRead malloc cs p with
    | none => none
    | some r => (commReads malloc n r.calls r.pipe).map (r :: ·)

/-- What the caller sees: the returned value, `*payload` and `*len`. -/
def CommRead.result (r : CommRead) : Int × Option (List UInt8) × Option Nat :=
  (r.ret, r.payload, r.len)

/-- What the caller should see of a frame. -/
def Frame.result (f : Frame) : Int × Option (List UInt8) × Option Nat :=
  (f.type.toNat, f.buffer, some f.payload.length)

/-- What the caller should see behind the last frame. -/
def endResult (e : Framing.Ending) : Int × Option (List UInt8) × Option Nat :=
  (if e = .clean then 0 else -1, none, none)

theorem commReads_succ {malloc : Bool} {n : Nat} {cs : List ReadCall} {p : Pipe}
    {rs : List CommRead} :
    commReads malloc (n + 1) cs p = some rs ↔ ∃ r rs', commRead malloc cs p = some r ∧
      commReads malloc n r.calls r.pipe = some rs' ∧ rs = r :: rs' := by
  rw [commReads]
  cases h : commRead malloc cs p with
  | none => simp
  | some r =>
    simp only [Option.map_eq_some_iff, Option.some.injEq, exists_and_left, exists_eq_left']
    constructor
    · rintro ⟨rs', h1, rfl⟩
      exact ⟨rs', h1, rfl⟩
    · rintro ⟨rs', h1, rfl⟩
      exact ⟨rs', h1, rfl⟩

theorem commRead_uses {malloc : Bool} {cs : List ReadCall} {p : Pipe} {r : CommRead}
    (h : commRead malloc cs p = some r) : Uses cs p r.calls r.pipe := by
  rw [commRead] at h
  cases h1 : readFull cs p 1 [] with
  | none => simp [h1] at h
  | some x1 =>
    obtain ⟨n1, type, p1, cs1⟩ := x1
    have s1 := readFull_uses h1
    rw [h1] at h
    dsimp only at h
    split at h
    · cases h; exact s1
    cases h2 : readFull cs1 p1 4 [] with
    | none => simp [h2] at h
    | some x2 =>
      obtain ⟨n2, plenBuf, p2, cs2⟩ := x2
      have s2 := s1.trans (readFull_uses h2)
      rw [h2] at h
      dsimp only at h
      split at h
      · cases h; exact s2
      split at h
      · cases h; exact s2
      split at h
      · split at h
        · cases h3 : readFull cs2 p2 (loadLe32 plenBuf).toNat [] with
          | none => simp [h3] at h
          | some x3 =>
            obtain ⟨n3, buf, p3, cs3⟩ := x3
            have s3 := s2.trans (readFull_uses h3)
            rw [h3] at h
            dsimp only at h
            split at h <;> cases h <;> exact s3
        · cases h; exact s2
      · cases h; exact s2

/-- Reading from an empty pipe leaves it as it is. -/
theorem readFull_nothing {size : Nat} : ∀ {cs : List ReadCall} {p : Pipe} {dst : List UInt8}
    {n : Int} {dst' : List UInt8} {p' : Pipe} {cs' : List ReadCall},
    readFull cs p size dst = some (n, dst', p', cs') → p.data = [] → p' = p := by
  intro cs
  induction cs with
  | nil =>
    intro p dst n dst' p' cs' h _
    by_cases hlt : dst.length < size
    · rw [readFull_nil hlt] at h
      cases h
    · rw [readFull_done hlt] at h
      cases h
      rfl
  | cons c cs ih =>
    intro p dst n dst' p' cs' h hdata
    by_cases hlt : dst.length < size
    · cases c with
      | eintr =>
        rw [readFull_eintr hlt] at h
        exact ih h hdata
      | error =>
        rw [readFull_error hlt] at h
        cases h
        rfl
      | short k =>
        rw [readFull_empty hlt k cs hdata] at h
        split at h <;> cases h
        rfl
    · rw [readFull_done hlt] at h
      cases h
      rfl

theorem commRead_nothing {malloc : Bool} {cs : List ReadCall} {p : Pipe} {r : CommRead}
    (h : commRead malloc cs p = some r) (hdata : p.data = []) : r.pipe = p := by
  rw [commRead] at h
  cases h1 : readFull cs p 1 [] with
  | none => simp [h1] at h
  | some x1 =>
    obtain ⟨n1, type, p1, cs1⟩ := x1
    have hn : n1 ≤ 0 := by
      rcases readFull_spec h1 (Nat.zero_le 1) with ⟨-, hlen, -⟩ | ⟨rfl, -⟩ | ⟨-, -, rfl⟩
      · simp [hdata] at hlen
      · decide
      · split <;> decide
    rw [h1] at h
    dsimp only at h
    rw [if_pos hn] at h
    cases h
    exact readFull_nothing h1 hdata

/-- One call without errors on a stream that starts with a frame. -/
theorem commRead_item {cs : List ReadCall} {p : Pipe} {r : CommRead} {f : Frame}
    {rest : List UInt8} (hcs : ReadCall.error ∉ cs) (h : commRead true cs p = some r)
    (hf : frameHead p.data = .item f rest) :
    r.result = f.result ∧ r.pipe = { p with data := rest } ∧ ReadCall.error ∉ r.calls := by
  have hsub := (commRead_uses h).calls
  cases commRead_spec h with
  | frame head =>
    rw [head] at hf
    cases hf
    exact ⟨rfl, rfl, fun he => hcs (hsub.subset he)⟩
  | tooLarge head => rw [head] at hf; cases hf
  | ended head => rw [head] at hf; cases hf
  | failed why => exact absurd why (by simp [hcs])

/-- One call without errors where no frame is left. -/
theorem commRead_end {cs : List ReadCall} {p : Pipe} {r : CommRead} (hcs : ReadCall.error ∉ cs)
    (h : commRead true cs p = some r) (hf : frames p.data = []) :
    r.result = endResult (framesEnding p.data) := by
  cases commRead_spec h with
  | frame head => rw [frames, frameFraming.items_of_item head] at hf; cases hf
  | tooLarge head =>
    rw [framesEnding, frameFraming.ending_of_bad head]
    rfl
  | ended head =>
    by_cases hd : p.data = []
    · simp [CommRead.result, endResult, framesEnding, hd]
    · rw [framesEnding, frameFraming.ending_of_more head hd]
      simp [CommRead.result, endResult, hd]
  | failed why => exact absurd why (by simp [hcs])

/-- **The bytes written so far.**  The first calls return the frames these bytes
start with, in order, whether or not more is going to be written. -/
theorem commReads_frames : ∀ {n : Nat} {cs : List ReadCall} {p : Pipe} {rs : List CommRead},
    ReadCall.error ∉ cs → n ≤ (frames p.data).length → commReads true n cs p = some rs →
      rs.map CommRead.result = ((frames p.data).take n).map Frame.result := by
  intro n
  induction n with
  | zero =>
    intro cs p rs _ _ h
    cases h
    rfl
  | succ n ih =>
    intro cs p rs hcs hn h
    obtain ⟨r, rs', h1, h2, rfl⟩ := commReads_succ.mp h
    cases hh : frameHead p.data with
    | item f rest =>
      have hi : frames p.data = f :: frames rest := frameFraming.items_of_item hh
      obtain ⟨hr, hp, hcs'⟩ := commRead_item hcs h1 hh
      rw [hi] at hn ⊢
      have := ih (p := r.pipe) hcs' (by rw [hp]; simpa using hn) h2
      rw [List.map_cons, hr, this, hp, List.take_succ_cons, List.map_cons]
    | more =>
      have hi : frames p.data = [] := frameFraming.items_of_more hh
      rw [hi] at hn
      simp at hn
    | bad =>
      have hi : frames p.data = [] := frameFraming.items_of_bad hh
      rw [hi] at hn
      simp at hn

theorem commReads_last {cs : List ReadCall} {p : Pipe} {rs : List CommRead}
    (hcs : ReadCall.error ∉ cs) (hf : frames p.data = [])
    (h : commReads true ((frames p.data).length + 1) cs p = some rs) :
    rs.map CommRead.result =
      (frames p.data).map Frame.result ++ [endResult (framesEnding p.data)] := by
  rw [hf] at h ⊢
  obtain ⟨r, rs', h1, h2, rfl⟩ := commReads_succ.mp h
  cases h2
  simp [commRead_end hcs h1 hf]

/-- **A stream that has ended.**  Behind its frames the next call returns `0`
when nothing is left, and `-1` when a frame is cut or too long. -/
theorem commReads_to_end : ∀ {l : List UInt8} {cs : List ReadCall} {p : Pipe} {rs : List CommRead},
    p.data = l → ReadCall.error ∉ cs → commReads true ((frames l).length + 1) cs p = some rs →
      rs.map CommRead.result = (frames l).map Frame.result ++ [endResult (framesEnding l)] := by
  intro l
  induction l using frameFraming.item_induction with
  | item l f rest hh ih =>
    intro cs p rs hl hcs h
    subst hl
    have hi : frames p.data = f :: frames rest := frameFraming.items_of_item hh
    have he : framesEnding p.data = framesEnding rest := frameFraming.ending_of_item hh
    rw [hi, List.length_cons] at h
    obtain ⟨r, rs', h1, h2, rfl⟩ := commReads_succ.mp h
    obtain ⟨hr, hpipe, hcs'⟩ := commRead_item hcs h1 hh
    rw [List.map_cons, hr, ih (by rw [hpipe]) hcs' h2, hi, he]
    rfl
  | more l hh =>
    intro cs p rs hl hcs h
    subst hl
    exact commReads_last hcs (frameFraming.items_of_more hh) h
  | bad l hh =>
    intro cs p rs hl hcs h
    subst hl
    exact commReads_last hcs (frameFraming.items_of_bad hh) h

theorem commReads_returns_last {cs : List ReadCall} {p : Pipe} (hf : frames p.data = [])
    (hw : p.writer = false) (hm : p.data.length < readMoves cs) :
    ∃ rs, commReads true ((frames p.data).length + 1) cs p = some rs := by
  obtain ⟨r, hr, -⟩ := commRead_returns true hm (Or.inl hw)
  rw [hf]
  exact ⟨[r], commReads_succ.mpr ⟨r, [], hr, rfl, rfl⟩⟩

/-- With more calls that move bytes than bytes, the reads of a stream that has
ended return. -/
theorem commReads_returns : ∀ {l : List UInt8} {cs : List ReadCall} {p : Pipe}, p.data = l →
    ReadCall.error ∉ cs → p.writer = false → l.length < readMoves cs →
      ∃ rs, commReads true ((frames l).length + 1) cs p = some rs := by
  intro l
  induction l using frameFraming.item_induction with
  | item l f rest hh ih =>
    intro cs p hl hcs hw hm
    subst hl
    have hi : frames p.data = f :: frames rest := frameFraming.items_of_item hh
    obtain ⟨r, hr, hlen⟩ := commRead_returns true hm (Or.inl hw)
    obtain ⟨hres, hpipe, hcs'⟩ := commRead_item hcs hr hh
    have hsome : r.len = some f.payload.length := congrArg (fun x => x.2.2) hres
    have hm' : rest.length < readMoves r.calls := by
      have := hlen (by rw [hsome]; simp)
      rwa [hpipe] at this
    obtain ⟨rs, hrs⟩ := ih (p := r.pipe) (by rw [hpipe]) hcs' (by rw [hpipe]; exact hw) hm'
    rw [hi]
    exact ⟨r :: rs, commReads_succ.mpr ⟨r, rs, hr, hrs, rfl⟩⟩
  | more l hh =>
    intro cs p hl _ hw hm
    subst hl
    exact commReads_returns_last (frameFraming.items_of_more hh) hw hm
  | bad l hh =>
    intro cs p hl _ hw hm
    subst hl
    exact commReads_returns_last (frameFraming.items_of_bad hh) hw hm

/-! ## Written messages -/

/-- The arguments of one call of `comm_write`. -/
structure Message where
  type : UInt8
  payload : Option (List UInt8)
  len : Nat
  deriving DecidableEq, Repr

namespace Message

/-- The messages the protocol allows: a type that is not the end of the stream, a
payload that fits, and a pointer to that many bytes. -/
def Sendable (m : Message) : Prop :=
  m.type ≠ 0 ∧ m.len ≤ COMM_MAX_PAYLOAD ∧ m.len ≤ (m.payload.getD []).length

/-- The frame a message becomes. -/
def frame (m : Message) : Frame := ⟨m.type, (m.payload.getD []).take m.len⟩

theorem bytes_frame {m : Message} (h : m.Sendable) :
    commWriteBytes m.type m.payload m.len = m.frame.bytes := by
  have hl : ((m.payload.getD []).take m.len).length = m.len := by
    rw [List.length_take, Nat.min_eq_left h.2.2]
  rw [commWriteBytes, Frame.bytes, frame, hl]

theorem fits_frame {m : Message} (h : m.Sendable) : m.frame.Fits :=
  le_trans (List.length_take_le _ _) h.2.1

end Message

/-- The bytes of a sequence of messages. -/
def wire (ms : List Message) : List UInt8 := ms.flatMap fun m => m.frame.bytes

/-- Calls of `comm_write`, one after another, as long as they return `true`. -/
def commWrites (sigpipe : Disposition) : List WriteCall → Pipe → List Message → WriteResult
  | cs, p, [] => .returned true p cs
  | cs, p, m :: ms =>
    match commWrite sigpipe cs p m.type m.payload m.len with
    | .returned true p cs => commWrites sigpipe cs p ms
    | r => r

theorem frames_wire {ms : List Message} (h : ∀ m ∈ ms, m.Sendable) :
    frames (wire ms) = ms.map Message.frame ∧ framesEnding (wire ms) = .clean := by
  have hw := Framing.items_flatMap (F := frameFraming) (m := []) ms
    (fun m hm => writes_bytes (m.fits_frame (h m hm)))
  simpa [wire, frames, framesEnding] using hw

/-- What sendable messages leave in a pipe with a reader. -/
theorem commWrites_open (sigpipe : Disposition) : ∀ (ms : List Message) (cs : List WriteCall)
    (p : Pipe), p.reader = true → (∀ m ∈ ms, m.Sendable) →
      (commWrites sigpipe cs p ms = .blocked ∧ writeMoves cs < (wire ms).length) ∨
      ∃ cs', commWrites sigpipe cs p ms =
        .returned true { p with data := p.data ++ wire ms } cs' := by
  intro ms
  induction ms with
  | nil => intro cs p _ _; exact Or.inr ⟨cs, by simp [commWrites, wire]⟩
  | cons m ms ih =>
    intro cs p hp hms
    have hm := m.bytes_frame (hms m List.mem_cons_self)
    have hwire : wire (m :: ms) = m.frame.bytes ++ wire ms := List.flatMap_cons
    rw [commWrites, hwire, List.length_append]
    rcases commWrite_open sigpipe cs m.type m.payload m.len hp with ⟨h, hl⟩ | ⟨cs1, h, hl⟩
    · rw [hm] at hl
      rw [h]
      exact Or.inl ⟨rfl, by omega⟩
    · rw [hm] at h hl
      rw [h]
      dsimp only
      rcases ih cs1 { p with data := p.data ++ m.frame.bytes } hp
        (fun x hx => hms x (List.mem_cons_of_mem m hx)) with ⟨h', hl'⟩ | ⟨cs', h'⟩
      · exact Or.inl ⟨h', by omega⟩
      · exact Or.inr ⟨cs', by rw [h']; simp [List.append_assoc]⟩

/-- **The stream round trip.**  Messages are written to a pipe with a reader.
Whatever the kernel does at each `write` and at each `read`:

* the writes return `true`, given enough calls that move bytes, and are never
  answered with `false`;
* every first part of what was written reads as the messages, in order, as far
  as they are complete in it;
* once the writer has closed the pipe, the reads return the messages and then
  `0`, and they do return, given enough calls. -/
theorem commReads_commWrites (sigpipe : Disposition) {ms : List Message}
    (hms : ∀ m ∈ ms, m.Sendable) (wcs : List WriteCall) {rcs : List ReadCall}
    (hrcs : ReadCall.error ∉ rcs) :
    (∀ res, commWrites sigpipe wcs {} ms = res → res ≠ .blocked →
      ∃ wcs', res = .returned true { data := wire ms } wcs') ∧
    ((wire ms).length ≤ writeMoves wcs → commWrites sigpipe wcs {} ms ≠ .blocked) ∧
    (∀ sofar, sofar <+: wire ms → ∀ n ≤ (frames sofar).length, ∀ w rs,
      commReads true n rcs { data := sofar, writer := w } = some rs →
      rs.map CommRead.result = (ms.take n).map fun m => m.frame.result) ∧
    (∀ rs, commReads true (ms.length + 1) rcs { data := wire ms, writer := false } = some rs →
      rs.map CommRead.result = ms.map (fun m => m.frame.result) ++ [(0, none, none)]) ∧
    ((wire ms).length < readMoves rcs →
      ∃ rs, commReads true (ms.length + 1) rcs { data := wire ms, writer := false } = some rs) := by
  obtain ⟨hf, he⟩ := frames_wire hms
  have hlen : (frames (wire ms)).length = ms.length := by rw [hf, List.length_map]
  have hopen := commWrites_open sigpipe ms wcs {} rfl hms
  refine ⟨?_, ?_, ?_, ?_, ?_⟩
  · rintro res rfl hb
    rcases hopen with ⟨h, -⟩ | ⟨cs', h⟩
    · exact absurd h hb
    · exact ⟨cs', h⟩
  · intro hl hb
    rcases hopen with ⟨-, h⟩ | ⟨cs', h⟩
    · exact absurd hl (not_le.mpr h)
    · rw [h] at hb
      cases hb
  · rintro sofar ⟨rest, hrest⟩ n hn w rs h
    rw [commReads_frames hrcs hn h]
    obtain ⟨more, hmore⟩ := frameFraming.items_prefix_append rest sofar
    rw [hrest] at hmore
    have hall : ms.map Message.frame = frames sofar ++ more := by rw [← hf]; exact hmore.symm
    have hcomp : (ms.take n).map (fun m => m.frame.result) =
        ((ms.map Message.frame).take n).map Frame.result := by
      rw [← List.map_take, List.map_map]
      rfl
    rw [hcomp, hall, List.take_append_of_le_length hn]
  · intro rs h
    rw [← hlen] at h
    rw [commReads_to_end rfl hrcs h, hf, he, List.map_map]
    rfl
  · intro hl
    obtain ⟨rs, hrs⟩ :=
      commReads_returns (p := { data := wire ms, writer := false }) rfl hrcs rfl hl
    exact ⟨rs, by rw [← hlen]; exact hrs⟩

/-- Two messages, an interrupted writer and a reader that gets single bytes. -/
theorem commReads_commWrites_two :
    ∃ rs, commReads true 3 (.eintr :: List.replicate 20 (.short 0))
        { data := wire [⟨0x81, some [1], 1⟩, ⟨0x05, none, 0⟩], writer := false } = some rs ∧
      rs.map CommRead.result =
        [(0x81, some [1, 0], some 1), (0x05, none, some 0), (0, none, none)] := by
  have hms : ∀ m ∈ [(⟨0x81, some [1], 1⟩ : Message), ⟨0x05, none, 0⟩], m.Sendable := by
    simp [Message.Sendable, COMM_MAX_PAYLOAD]
  have hrcs : ReadCall.error ∉ .eintr :: List.replicate 20 (.short 0) := by decide
  have hrt := commReads_commWrites .default hms [.eintr, .short 3] hrcs
  obtain ⟨rs, hrs⟩ := hrt.2.2.2.2 (by decide)
  exact ⟨rs, hrs, hrt.2.2.2.1 rs hrs⟩

/-! ## Arbitrary streams -/

theorem storeLe32_loadLe32 (a b c d : UInt8) :
    storeLe32 (loadLe32 [a, b, c, d]) = [a, b, c, d] := by
  have ha := a.toNat_lt
  have hb := b.toNat_lt
  have hc := c.toNat_lt
  have hd := d.toNat_lt
  have mask : ∀ n : Nat, n &&& 255 = n % 256 := fun n => Nat.and_two_pow_sub_one_eq_mod n 8
  have e8 : (8 : UInt32).toNat % 32 = 8 := rfl
  have e16 : (16 : UInt32).toNat % 32 = 16 := rfl
  have e24 : (24 : UInt32).toNat % 32 = 24 := rfl
  have e255 : (0xff : UInt32).toNat = 255 := rfl
  simp only [storeLe32, List.cons.injEq, and_true, ← UInt8.toNat_inj, UInt32.toNat_toUInt8,
    UInt32.toNat_and, UInt32.toNat_shiftRight, Nat.shiftRight_eq_div_pow, toNat_loadLe32]
  rw [e8, e16, e24, e255, mask, mask, mask, mask]
  omega

/-- `frames` reads the maximal sequence: what is behind it does not start with a
frame, and there is nothing behind it exactly for a clean ending. -/
theorem frames_maximal (l : List UInt8) :
    ∃ rest, l = (frames l).flatMap Frame.bytes ++ rest ∧ (∀ f ∈ frames l, f.Fits) ∧
      (∀ f r, frameHead rest ≠ .item f r) ∧ (framesEnding l = .clean ↔ rest = []) := by
  induction l using frameFraming.item_induction with
  | item l f r hh ih =>
    obtain ⟨rest, h1, h2, h3, h4⟩ := ih
    have hi : frames l = f :: frames r := frameFraming.items_of_item hh
    have he : framesEnding l = framesEnding r := frameFraming.ending_of_item hh
    obtain ⟨a, b, c, d, hl, hlen, hfits⟩ := frameHead_item hh
    have hbytes : f.bytes = f.type :: a :: b :: c :: d :: f.payload := by
      rw [Frame.bytes, ← hlen, UInt32.ofNat_toNat, storeLe32_loadLe32]
      rfl
    refine ⟨rest, ?_, ?_, h3, he ▸ h4⟩
    · rw [hi, List.flatMap_cons, hbytes, List.append_assoc, ← h1, hl]
      rfl
    · rw [hi]
      intro g hg
      rcases List.mem_cons.mp hg with rfl | hg
      · exact hfits
      · exact h2 g hg
  | more l hh =>
    have hi : frames l = [] := frameFraming.items_of_more hh
    refine ⟨l, by rw [hi]; rfl, by simp [hi], fun f r hc => ?_, ?_⟩
    · rw [show frameHead l = .more from hh] at hc
      cases hc
    · by_cases hl : l = []
      · simp [framesEnding, hl]
      · simp [framesEnding, frameFraming.ending_of_more hh hl, hl]
  | bad l hh =>
    have hi : frames l = [] := frameFraming.items_of_bad hh
    refine ⟨l, by rw [hi]; rfl, by simp [hi], fun f r hc => ?_, ?_⟩
    · rw [show frameHead l = .bad from hh] at hc
      cases hc
    · have hl : l ≠ [] := by
        rintro rfl
        cases hh
      simp [framesEnding, frameFraming.ending_of_bad hh, hl]

/-- What the results of `comm_read` should say about a stream that has ended:
every frame and then the ending, with `0` at the end of the stream only. -/
structure ReadsFaithfully (l : List UInt8) (rs : List CommRead) : Prop where
  delivered : rs.map CommRead.result = (frames l).map Frame.result ++ [endResult (framesEnding l)]
  zero_at_end : ∀ (i : Nat) r, rs[i]? = some r → r.ret = 0 → i = (frames l).length

/-- A frame of type `0` is returned as the end of the stream would be. -/
theorem zero_at_end_iff {l : List UInt8} {rs : List CommRead}
    (h : rs.map CommRead.result = (frames l).map Frame.result ++ [endResult (framesEnding l)]) :
    (∀ (i : Nat) r, rs[i]? = some r → r.ret = 0 → i = (frames l).length) ↔
      ∀ f ∈ frames l, f.type ≠ 0 := by
  have hget : ∀ i : Nat, rs[i]?.map CommRead.result =
      ((frames l).map Frame.result ++ [endResult (framesEnding l)])[i]? := by
    intro i
    rw [← h, List.getElem?_map]
  constructor
  · intro hz f hf hf0
    obtain ⟨i, hi, rfl⟩ := List.mem_iff_getElem.mp hf
    have hg := hget i
    rw [List.getElem?_append_left (by simpa using hi), List.getElem?_map,
      List.getElem?_eq_getElem hi] at hg
    obtain ⟨r, hr, hres⟩ := Option.map_eq_some_iff.mp hg
    have hret : r.ret = 0 := by
      have := congrArg Prod.fst hres
      simpa [CommRead.result, Frame.result, hf0] using this
    have := hz i r hr hret
    omega
  · intro hne i r hr hret
    have hg := hget i
    rw [hr, Option.map_some] at hg
    by_cases hi : i < (frames l).length
    · rw [List.getElem?_append_left (by simpa using hi), List.getElem?_map,
        List.getElem?_eq_getElem hi] at hg
      have hty := congrArg Prod.fst (Option.some.inj hg)
      simp only [CommRead.result, Frame.result, hret] at hty
      have h0 : (frames l)[i].type.toNat = 0 := by omega
      exact absurd (UInt8.toNat_inj.mp h0) (hne _ (List.getElem_mem hi))
    · obtain ⟨hlt, -⟩ := List.getElem?_eq_some_iff.mp hg.symm
      simp only [List.length_append, List.length_map, List.length_singleton] at hlt
      omega

/-- **Which streams are read faithfully.**  Whatever the kernel does at each
`read`, exactly the streams whose frames all have a type other than `0`. -/
theorem readsFaithfully_iff (l : List UInt8) :
    (∀ cs, ReadCall.error ∉ cs →
      (∀ rs, commReads true ((frames l).length + 1) cs { data := l, writer := false } = some rs →
        ReadsFaithfully l rs) ∧
      (l.length < readMoves cs →
        ∃ rs, commReads true ((frames l).length + 1) cs { data := l, writer := false } = some rs)) ↔
    ∀ f ∈ frames l, f.type ≠ 0 := by
  constructor
  · intro h
    have hcs : ReadCall.error ∉ List.replicate (l.length + 1) (.short 0) := by
      simp [List.mem_replicate]
    have hm : l.length < readMoves (List.replicate (l.length + 1) (.short 0)) := by
      simp [readMoves, List.countP_replicate, ReadCall.moves]
    obtain ⟨h1, h2⟩ := h _ hcs
    obtain ⟨rs, hrs⟩ := h2 hm
    exact (zero_at_end_iff (h1 rs hrs).delivered).mp (h1 rs hrs).zero_at_end
  · intro h cs hcs
    refine ⟨fun rs hrs => ?_, fun hm => commReads_returns rfl hcs rfl hm⟩
    have hd := commReads_to_end (p := { data := l, writer := false }) rfl hcs hrs
    exact ⟨hd, (zero_at_end_iff hd).mpr h⟩

/-- A frame of type `0` with a payload of one byte: `comm_read` returns `0` for
it and hands out the payload. -/
theorem not_readsFaithfully_type_zero :
    ¬ ∀ l cs rs, ReadCall.error ∉ cs →
      commReads true ((frames l).length + 1) cs { data := l, writer := false } = some rs →
      ReadsFaithfully l rs := by
  intro h
  have hf : frames [0, 1, 0, 0, 0, 65] = [⟨0, [65]⟩] := by decide
  have := h [0, 1, 0, 0, 0, 65] (List.replicate 4 (.short 5))
    [⟨0, some [65, 0], some 1, { data := [], writer := false }, [.short 5]⟩,
      ⟨0, none, none, { data := [], writer := false }, []⟩] (by decide) (by rw [hf]; decide)
  have := this.zero_at_end 0 _ rfl rfl
  rw [hf] at this
  exact absurd this (by decide)

end SwaylockAuthd
