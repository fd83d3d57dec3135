import SwaylockAuthd.MainLoop

/-!
# The locker: two processes and two pipes

The password child is a backend: what one of its steps reads, writes and changes.  What it
writes goes into the pipe in pieces of any size, and it does nothing else meanwhile.  It
can crash at any moment, and the bytes it had not written yet are lost.

* `system`: the interleavings of the main process and the child.
* `system_cases`: what a step of the composition does.
* `Quiet`: bytes with which a child cannot unlock; `quiet_write`: a message of text is
  such, however long it is.
-/

namespace SwaylockAuthd

open Transition

/-! ## The composition -/

/-- What a step of the child has done: its new state, the bytes it writes, the pipe
it has read from, and whether it has exited. -/
structure Reaction (β : Type) where
  child : β
  out : List UInt8 := []
  toChild : Pipe
  exits : Bool := false

/-- A password backend; `authenticates` says whether a step finds the password right. -/
structure Backend (β α : Type) where
  act : α → β → Pipe → Option (Reaction β)
  authenticates : α → β → Pipe → Bool

/-- The two processes; `out` is what the child is writing. -/
structure System (β : Type) where
  main : MainSide
  child : β
  out : List UInt8 := []
  alive : Bool := true

inductive Action (α : Type)
  | main (a : MainAction)
  | child (a : α)
  | write (n : Nat)
  | crash

/-- The main process as the step leaves it; the ends of its pipes are closed when it ends. -/
def MainSide.settle (m : MainSide) : MainSide :=
  if m.phase.live then m
  else
    { m with
      toChild := { m.toChild with writer := false }, toMain := { m.toMain with reader := false } }

/-- The child ends, and with it its ends of the pipes. -/
def System.childEnds {β : Type} (s : System β) : System β :=
  { s with
    main := { s.main with
      toChild := { s.main.toChild with reader := false }
      toMain := { s.main.toMain with writer := false } }
    out := [], alive := false }

variable {α β : Type} (debugUnlock : Bool) (parse : CString → Option Json) (backend : Backend β α)

/-- One step of the locker. -/
def system : Action α → System β → Option (System β)
  | .main a, s => (mainLoop debugUnlock parse a s.main).map fun m => { s with main := m.settle }
  | .child a, s =>
    if s.alive ∧ s.out = [] then
      (backend.act a s.child s.main.toChild).map fun r =>
        let s := { s with
          main := { s.main with toChild := r.toChild }, child := r.child, out := r.out }
        if r.exits then s.childEnds else s
    else none
  | .write n, s =>
    if s.alive ∧ s.out ≠ [] then
      if s.main.toMain.reader then
        some { s with
          main := { s.main with
            toMain := { s.main.toMain with
              data := s.main.toMain.data ++ s.out.take (n + 1) } }
          out := s.out.drop (n + 1) }
      else some s.childEnds
    else none
  | .crash, s => if s.alive then some s.childEnds else none

/-- The locker as `main` has just spawned the child. -/
def System.start (child : β) (args : SwaylockArgs) (buffer : List UInt8) : System β :=
  { main := { state := .start args buffer }, child }

/-- What is on its way to the main process. -/
def System.inFlight (s : System β) : List UInt8 := s.main.toMain.data ++ s.out

/-- What a step of the locker does. -/
inductive SystemMove (s : System β) : Action α → System β → Prop
  | main {a : MainAction} {m : MainSide} (h : MainMove debugUnlock parse s.main a m) :
      SystemMove s (.main a) { s with main := m.settle }
  | child {a : α} {r : Reaction β} (alive : s.alive = true) (idle : s.out = [])
      (act : backend.act a s.child s.main.toChild = some r) (stays : r.exits = false) :
      SystemMove s (.child a)
        { s with main := { s.main with toChild := r.toChild }, child := r.child, out := r.out }
  | childExits {a : α} {r : Reaction β} (alive : s.alive = true) (idle : s.out = [])
      (act : backend.act a s.child s.main.toChild = some r) (exits : r.exits = true) :
      SystemMove s (.child a)
        ({ s with
          main := { s.main with toChild := r.toChild }, child := r.child
          out := r.out } : System β).childEnds
  | write {n : Nat} (alive : s.alive = true) (busy : s.out ≠ [])
      (reader : s.main.toMain.reader = true) :
      SystemMove s (.write n)
        { s with
          main := { s.main with
            toMain := { s.main.toMain with
              data := s.main.toMain.data ++ s.out.take (n + 1) } }
          out := s.out.drop (n + 1) }
  | sigpipe {n : Nat} (alive : s.alive = true) (reader : s.main.toMain.reader = false) :
      SystemMove s (.write n) s.childEnds
  | crash (alive : s.alive = true) : SystemMove s .crash s.childEnds

/-- **What a step of the locker does.** -/
theorem system_cases {a : Action α} {s t : System β}
    (h : system debugUnlock parse backend a s = some t) :
    SystemMove debugUnlock parse backend s a t := by
  cases a with
  | main a =>
    obtain ⟨m, hm, rfl⟩ := Option.map_eq_some_iff.mp h
    exact .main (mainLoop_cases debugUnlock parse hm)
  | child a =>
    rw [system] at h
    split at h
    · rename_i hidle
      obtain ⟨r, hr, rfl⟩ := Option.map_eq_some_iff.mp h
      by_cases hx : r.exits = true
      · rw [if_pos hx]
        exact .childExits hidle.1 hidle.2 hr hx
      · rw [if_neg hx]
        exact .child hidle.1 hidle.2 hr (by simpa using hx)
    · cases h
  | write n =>
    rw [system] at h
    split at h
    · rename_i hbusy
      split at h
      · rename_i hreader
        cases h
        exact .write hbusy.1 hbusy.2 hreader
      · rename_i hreader
        cases h
        exact .sigpipe hbusy.1 (by simpa using hreader)
    · cases h
  | crash =>
    rw [system] at h
    split at h
    · rename_i halive
      cases h
      exact .crash halive
    · cases h

theorem settle_of_live {m : MainSide} (h : m.phase.live = true) : m.settle = m := by
  rw [MainSide.settle, if_pos h]

@[simp] theorem settle_state (m : MainSide) : m.settle.state = m.state := by
  rw [MainSide.settle]
  split <;> rfl

@[simp] theorem settle_phase (m : MainSide) : m.settle.phase = m.phase := by
  rw [MainSide.settle]
  split <;> rfl

@[simp] theorem settle_sigusr (m : MainSide) : m.settle.sigusr = m.sigusr := by
  rw [MainSide.settle]
  split <;> rfl

@[simp] theorem settle_toMain_data (m : MainSide) : m.settle.toMain.data = m.toMain.data := by
  rw [MainSide.settle]
  split <;> rfl

/-- A piece of what the child writes arrives. -/
theorem inFlight_write (d o : List UInt8) (n : Nat) :
    (d ++ o.take n) ++ o.drop n = d ++ o := by
  rw [List.append_assoc, List.take_append_drop]

/-! ## Bytes that do not unlock -/

/-- No frame of the stream unlocks, and the stream does not end inside a frame that
later bytes could complete. -/
structure Quiet (l : List UInt8) : Prop where
  frames : ∀ f ∈ frames l, ¬ Grants f
  ending : framesEnding l ≠ .truncated

theorem quiet_nil : Quiet [] := by
  refine ⟨fun f hf => ?_, by decide⟩
  have hnil : SwaylockAuthd.frames [] = [] := by decide
  rw [hnil] at hf
  cases hf

theorem Quiet.append {a b : List UInt8} (ha : Quiet a) (hb : Quiet b) : Quiet (a ++ b) := by
  cases he : framesEnding a with
  | clean =>
    obtain ⟨hi, hend⟩ := frameFraming.items_append_of_clean b a he
    refine ⟨fun f hf => ?_, fun h => hb.ending (hend.symm.trans h)⟩
    rw [SwaylockAuthd.frames, hi] at hf
    rcases List.mem_append.mp hf with hf | hf
    · exact ha.frames f hf
    · exact hb.frames f hf
  | truncated => exact absurd he ha.ending
  | corrupt =>
    obtain ⟨hi, hend⟩ := frameFraming.items_append_of_corrupt b a he
    refine ⟨fun f hf => ?_, ?_⟩
    · rw [SwaylockAuthd.frames, hi] at hf
      exact ha.frames f hf
    · rw [framesEnding, hend]
      decide

theorem frames_of_item {l rest : List UInt8} {f : Frame} (head : frameHead l = .item f rest) :
    SwaylockAuthd.frames l = f :: SwaylockAuthd.frames rest ∧
      framesEnding l = framesEnding rest :=
  ⟨frameFraming.items_of_item head, frameFraming.ending_of_item head⟩

/-- A stream that is not decoded. -/
theorem quiet_of_bad {l : List UInt8} (head : frameHead l = .bad) : Quiet l := by
  have hi : SwaylockAuthd.frames l = [] := frameFraming.items_of_bad head
  have he : framesEnding l = .corrupt := frameFraming.ending_of_bad head
  refine ⟨fun f hf => ?_, ?_⟩
  · rw [hi] at hf
    cases hf
  · rw [he]
    decide

/-- A frame that fits. -/
theorem frames_bytes {f : Frame} (h : f.Fits) :
    SwaylockAuthd.frames f.bytes = [f] ∧ framesEnding f.bytes = .clean := by
  have hw := writes_bytes h
  have hi := hw.items_append []
  have he := hw.ending_append []
  rw [List.append_nil] at hi he
  exact ⟨hi, he⟩

theorem quiet_bytes {f : Frame} (h : f.Fits) (hf : ¬ Grants f) : Quiet f.bytes := by
  obtain ⟨hi, he⟩ := frames_bytes h
  refine ⟨fun g hg => ?_, ?_⟩
  · rw [hi] at hg
    rwa [List.mem_singleton.mp hg]
  · rw [he]
    decide

/-- Text without NUL bytes is never taken for a frame. -/
theorem frameHead_text {l : List UInt8} (h0 : (0 : UInt8) ∉ l) (hl : 5 ≤ l.length) :
    frameHead l = .bad := by
  obtain ⟨type, t, rfl⟩ := exists_cons (le_trans (by decide) hl)
  obtain ⟨a, b, c, d, rest, rfl⟩ := exists_four (l := t) (by simpa using hl)
  have hd : d.toNat ≠ 0 := by
    intro hz
    have : d = 0 := UInt8.toNat_inj.mp hz
    exact h0 (by simp [this])
  rw [frameHead_header, if_pos]
  rw [toNat_loadLe32, COMM_MAX_PAYLOAD]
  omega

/-- **A message of text does not unlock**, whatever its length: one that is too long
leaves text behind the frame that is read. -/
theorem quiet_write {type : UInt8} {text : List UInt8} (ht : type ≠ COMM_MSG_AUTH_RESULT)
    (h0 : (0 : UInt8) ∉ text) : Quiet (commWriteBytes type (some text) text.length) := by
  have hbytes : commWriteBytes type (some text) text.length = Frame.bytes ⟨type, text⟩ := by
    rw [commWriteBytes, Frame.bytes, Option.getD_some, List.take_length]
  rw [hbytes]
  by_cases hfit : Frame.Fits ⟨type, text⟩
  · exact quiet_bytes hfit fun hg => ht hg.1
  · -- the length field holds the length modulo `2 ^ 32`
    obtain ⟨a, b, c, d, hle⟩ : ∃ a b c d, storeLe32 (UInt32.ofNat text.length) = [a, b, c, d] :=
      ⟨_, _, _, _, rfl⟩
    have hlen : (loadLe32 [a, b, c, d]).toNat = text.length % 2 ^ 32 := by
      rw [← hle, loadLe32_storeLe32, UInt32.toNat_ofNat']
    have hhead : frameHead (Frame.bytes ⟨type, text⟩) = frameHead (type :: a :: b :: c :: d :: text)
        := by rw [Frame.bytes, hle]; rfl
    have hbig : COMM_MAX_PAYLOAD < text.length := not_le.mp hfit
    rw [frameHead_header, hlen] at hhead
    by_cases hmax : COMM_MAX_PAYLOAD < text.length % 2 ^ 32
    · rw [if_pos hmax] at hhead
      exact quiet_of_bad hhead
    · have hwrap : 2 ^ 32 ≤ text.length := by
        by_contra hlt
        rw [Nat.mod_eq_of_lt (not_le.mp hlt)] at hmax
        exact hmax hbig
      have hmod : text.length % 2 ^ 32 + 2 ^ 32 ≤ text.length := by omega
      rw [if_neg hmax, if_pos (by omega)] at hhead
      have hrest : Quiet (text.drop (text.length % 2 ^ 32)) := by
        refine quiet_of_bad (frameHead_text (fun h => h0 (List.mem_of_mem_drop h)) ?_)
        rw [List.length_drop]
        omega
      obtain ⟨hi, he⟩ := frames_of_item hhead
      refine ⟨fun f hf => ?_, ?_⟩
      · rw [hi] at hf
        rcases List.mem_cons.mp hf with rfl | hf
        · exact fun hg => ht hg.1
        · exact hrest.frames f hf
      · rw [he]
        exact hrest.ending

end SwaylockAuthd
