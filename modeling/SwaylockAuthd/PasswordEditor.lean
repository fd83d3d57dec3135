import SwaylockAuthd.Outstanding

/-!
# The password is what was typed

The reference editor keeps a list of code points.  `Holds pw cs`: the C buffer is
the UTF-8 of the list and a NUL byte, whatever follows.

* `holds_appendCh`, `holds_backspace`, `holds_clear`: the three views of a character's
  size agree, also at the capacity.
* `faithful_run`: along every run the buffer holds the edited list, and a password
  frame is its UTF-8 and one NUL byte.
* `not_faithful_deletePops`: not so for an editor in which `Ctrl`+`Delete` erases one character.
-/

namespace SwaylockAuthd

open Transition

/-! ## The reference editor -/

/-- A code point of a text key. -/
structure Codepoint where
  val : UInt32
  ne_zero : val ≠ 0
  le : val.toNat ≤ 0x10FFFF
  deriving DecidableEq

theorem Codepoint.lt (c : Codepoint) : c.val.toNat < 0x200000 :=
  lt_of_le_of_lt c.le (by decide)

theorem Codepoint.toNat_ne_zero (c : Codepoint) : c.val.toNat ≠ 0 := fun h =>
  c.ne_zero (UInt32.toNat_inj.mp h)

/-- The UTF-8 of a list of code points. -/
def encodeAll (cs : List Codepoint) : List UInt8 := cs.flatMap fun c => Utf8.encode c.val.toNat

@[simp] theorem encodeAll_nil : encodeAll [] = [] := rfl

theorem encodeAll_append (cs ds : List Codepoint) :
    encodeAll (cs ++ ds) = encodeAll cs ++ encodeAll ds := List.flatMap_append

theorem encodeAll_concat (cs : List Codepoint) (c : Codepoint) :
    encodeAll (cs ++ [c]) = encodeAll cs ++ Utf8.encode c.val.toNat := by
  rw [encodeAll_append]
  simp [encodeAll]

theorem zero_notMem_encodeAll (cs : List Codepoint) : (0 : UInt8) ∉ encodeAll cs := by
  intro h
  obtain ⟨c, -, hc⟩ := List.mem_flatMap.mp h
  exact Utf8.zero_notMem_encode c.toNat_ne_zero c.lt hc

/-- The UTF-8 of a list decodes to the list. -/
theorem items_encodeAll (cs : List Codepoint) :
    Utf8.framing.items (encodeAll cs) = cs.map fun c => c.val.toNat := by
  have hlt : ∀ n ∈ cs.map fun c => c.val.toNat, n < 0x200000 := by
    intro n hn
    obtain ⟨c, -, rfl⟩ := List.mem_map.mp hn
    exact c.lt
  have hw := Utf8.items_flatMap_encode hlt
  rw [List.flatMap_map] at hw
  exact hw.1

/-- Typing a character; it is ignored when the buffer is full. -/
def push (bufferLen : Nat) (cs : List Codepoint) (c : Codepoint) : List Codepoint :=
  if bufferLen ≤ (encodeAll cs).length + Utf8.size c.val.toNat + 1 then cs else cs ++ [c]

/-! ## The buffer -/

/-- The buffer holds a list of code points. -/
structure Holds (pw : SwaylockPassword) (cs : List Codepoint) : Prop where
  length : pw.buffer.length = pw.bufferLen
  len : pw.len = (encodeAll cs).length
  content : ∃ rest, pw.buffer = encodeAll cs ++ 0 :: rest

namespace Holds

variable {pw : SwaylockPassword} {cs : List Codepoint}

theorem lt (h : Holds pw cs) : pw.len < pw.bufferLen := by
  obtain ⟨rest, hb⟩ := h.content
  have hl := h.length
  rw [hb, List.length_append, List.length_cons] at hl
  rw [h.len]
  omega

theorem getElem_len (h : Holds pw cs) : pw.buffer[pw.len]? = some 0 := by
  obtain ⟨rest, hb⟩ := h.content
  rw [hb, h.len, List.getElem?_append_right (le_refl _), Nat.sub_self]
  rfl

theorem take_len (h : Holds pw cs) : pw.buffer.take pw.len = encodeAll cs := by
  obtain ⟨rest, hb⟩ := h.content
  rw [hb, h.len, List.take_left]

theorem take_succ (h : Holds pw cs) : pw.buffer.take (pw.len + 1) = encodeAll cs ++ [0] := by
  obtain ⟨rest, hb⟩ := h.content
  rw [hb, h.len, List.take_length_add_append]
  rfl

theorem len_eq_zero (h : Holds pw cs) : pw.len = 0 ↔ cs = [] := by
  rw [h.len, List.length_eq_zero_iff]
  constructor
  · intro he
    cases cs with
    | nil => rfl
    | cons c cs =>
      have hsize := Utf8.size_pos c.val.toNat
      rw [← Utf8.length_encode] at hsize
      rw [encodeAll, List.flatMap_cons, List.append_eq_nil_iff] at he
      rw [he.1] at hsize
      exact absurd hsize (by decide)
  · rintro rfl
    rfl

/-- Two lists in one buffer are the same list. -/
theorem unique {ds : List Codepoint} (h : Holds pw cs) (g : Holds pw ds) : cs = ds := by
  have he : encodeAll cs = encodeAll ds := h.take_len.symm.trans g.take_len
  have hm := items_encodeAll cs
  rw [he, items_encodeAll] at hm
  refine List.map_injective_iff.mpr ?_ hm.symm
  intro c d hcd
  cases c
  cases d
  simpa using UInt32.toNat_inj.mp hcd

end Holds

/-- The buffer `main` starts with is empty. -/
theorem holds_initial {buffer : List UInt8} (h : buffer ≠ []) : Holds (.initial buffer) [] where
  length := List.length_set
  len := rfl
  content := by
    cases buffer with
    | nil => exact absurd rfl h
    | cons b rest => exact ⟨rest, rfl⟩

/-- Clearing empties it. -/
theorem holds_clear {pw : SwaylockPassword} {cs : List Codepoint} (h : Holds pw cs) :
    Holds (clearPasswordBuffer pw) [] := by
  have hlt := h.lt
  have hl := h.length
  refine ⟨?_, rfl, ?_⟩
  · simp only [clearPasswordBuffer, clearBuffer, List.length_append, List.length_replicate,
      List.length_drop]
    omega
  · obtain ⟨n, hn⟩ : ∃ n, pw.bufferLen = n + 1 := ⟨pw.bufferLen - 1, by omega⟩
    refine ⟨List.replicate n 0 ++ pw.buffer.drop pw.bufferLen, ?_⟩
    simp only [clearPasswordBuffer, clearBuffer, hn, List.replicate_succ]
    rfl

/-- Typing appends a character, or does nothing at the capacity. -/
theorem holds_appendCh {pw : SwaylockPassword} {cs : List Codepoint} (h : Holds pw cs)
    (c : Codepoint) : Holds (appendCh pw c.val) (push pw.bufferLen cs c) := by
  obtain ⟨rest, hb⟩ := h.content
  unfold appendCh push
  rw [utf8Chsize_eq, h.len]
  dsimp only
  by_cases hfull : pw.bufferLen ≤ (encodeAll cs).length + Utf8.size c.val.toNat + 1
  · rw [if_pos hfull, if_pos hfull]
    exact h
  · rw [if_neg hfull, if_neg hfull, utf8Encode_eq c.lt]
    have hsize := Utf8.length_encode c.val.toNat
    have hpos := Utf8.size_pos c.val.toNat
    have hrest : Utf8.size c.val.toNat < rest.length := by
      have hl := h.length
      rw [hb, List.length_append, List.length_cons] at hl
      omega
    obtain ⟨tail, htail⟩ : ∃ tail, store pw.buffer (encodeAll cs).length
        (Utf8.encode c.val.toNat) = encodeAll cs ++ Utf8.encode c.val.toNat ++ tail ∧
        tail.length + Utf8.size c.val.toNat = rest.length + 1 := by
      refine ⟨pw.buffer.drop ((encodeAll cs).length + (Utf8.encode c.val.toNat).length), ?_, ?_⟩
      · rw [store, hb, List.take_left]
      · rw [hb, hsize, List.length_drop, List.length_append, List.length_cons]
        omega
    cases tail with
    | nil => simp at htail; omega
    | cons b tail =>
      refine ⟨?_, ?_, tail, ?_⟩
      · have hl := h.length
        rw [hb, List.length_append, List.length_cons] at hl
        simp only [htail.1, List.length_set, List.length_append, List.length_cons]
        have := htail.2
        rw [List.length_cons] at this
        omega
      · rw [encodeAll_concat, List.length_append, hsize]
      · simp only [htail.1]
        rw [encodeAll_concat, List.set_append_right _ _ (by simp [hsize])]
        simp [hsize]

/-- Erasing removes the last character. -/
theorem holds_backspace {pw : SwaylockPassword} {cs : List Codepoint} (h : Holds pw cs) :
    ((backspace pw).1 = true ↔ cs ≠ []) ∧ Holds (backspace pw).2 cs.dropLast := by
  have hz := h.len_eq_zero
  unfold backspace
  by_cases h0 : pw.len = 0
  · have hcs : cs = [] := hz.mp h0
    subst hcs
    rw [if_neg (by simpa using h0)]
    exact ⟨by simp, h⟩
  · have hcs : cs ≠ [] := fun hc => h0 (hz.mpr hc)
    rw [if_pos h0]
    refine ⟨by simpa using hcs, ?_⟩
    obtain ⟨ds, c, rfl⟩ : ∃ ds c, cs = ds ++ [c] :=
      ⟨cs.dropLast, cs.getLast hcs, (List.dropLast_append_getLast hcs).symm⟩
    obtain ⟨rest, hb⟩ := h.content
    have hsize := Utf8.length_encode c.val.toNat
    rw [encodeAll_concat] at hb
    have hlast : utf8LastSize pw.buffer = Utf8.size c.val.toNat := by
      rw [hb]
      exact utf8LastSize_eq (zero_notMem_encodeAll ds) c.toNat_ne_zero c.lt
    have hlen : pw.len - utf8LastSize pw.buffer = (encodeAll ds).length := by
      rw [hlast, h.len, encodeAll_concat, List.length_append, hsize]
      omega
    rw [List.dropLast_concat]
    dsimp only
    rw [hlen]
    refine ⟨by simpa using h.length, rfl, ?_⟩
    obtain ⟨b, tail, htail⟩ : ∃ b tail, Utf8.encode c.val.toNat ++ 0 :: rest = b :: tail := by
      cases he : Utf8.encode c.val.toNat with
      | nil => exact ⟨0, rest, rfl⟩
      | cons b l => exact ⟨b, l ++ 0 :: rest, rfl⟩
    refine ⟨tail, ?_⟩
    show pw.buffer.set (encodeAll ds).length 0 = encodeAll ds ++ 0 :: tail
    rw [hb, List.append_assoc, htail, List.set_append_right _ _ (le_refl _), Nat.sub_self]
    rfl

/-! ## Editing along a run -/

/-- The reference editor on a key; `action` is its key table. -/
def editKey (action : Bool → Keysym → KeyAction) (s : SwaylockState) (keysym : Keysym)
    (codepoint : UInt32) (cs : List Codepoint) : List Codepoint :=
  if Intercepts s keysym then cs
  else
    match action s.xkb.control keysym with
    | .submit =>
      if (s.args.ignoreEmpty = true ∧ cs = []) ∨ s.authState = .validating then cs else []
    | .clear => []
    | .erase => cs.dropLast
    | .neutral => cs
    | .text =>
      if h : codepoint ≠ 0 ∧ codepoint.toNat ≤ 0x10FFFF then
        push s.password.bufferLen cs ⟨codepoint, h.1, h.2⟩
      else cs

/-- The reference editor beside a run. -/
def noteEditor (action : Bool → Keysym → KeyAction) (a : MainEvent) (m _ : MainProcess)
    (cs : List Codepoint) : List Codepoint :=
  match a with
  | .key _ keysym codepoint => editKey action m.state keysym codepoint cs
  | .timer _ _ _ => if a.fires m = some .clearPassword then [] else cs
  | _ => cs

/-- The code point of a key is one. -/
def MainEvent.Typed : MainEvent → Prop
  | .key _ _ codepoint => codepoint.toNat ≤ 0x10FFFF
  | _ => True

instance (a : MainEvent) : Decidable a.Typed := by
  unfold MainEvent.Typed
  cases a <;> infer_instance

/-- The buffer holds the list, and a password frame written next carries its UTF-8
and one NUL byte. -/
def Faithful (parse : CString → Option Json) (m : MainProcess) (cs : List Codepoint) : Prop :=
  Holds m.state.password cs ∧
    ∀ a n, mainStep parse a m = some n → wrotePassword m n = true →
      n.toChild.data =
        m.toChild.data ++ Frame.bytes ⟨COMM_MSG_PASSWORD, encodeAll cs ++ [0]⟩

theorem backspaceKey_password (env : Env) (s : SwaylockState) :
    (backspaceKey env s).password = (backspace s.password).2 := by
  unfold backspaceKey
  dsimp only
  split <;> rfl

/-- The password after an edit. -/
theorem holds_edit {env : Env} {s : SwaylockState} {codepoint : UInt32} {cs : List Codepoint}
    (h : Holds s.password cs) (hc : codepoint.toNat ≤ 0x10FFFF) {keysym : Keysym}
    (hi : ¬ Intercepts s keysym) (ha : keysym.action s.xkb.control ≠ .submit) :
    Holds ((keysym.action s.xkb.control).edit env s codepoint).password
      (editKey Keysym.action s keysym codepoint cs) := by
  unfold editKey
  rw [if_neg hi]
  cases hact : keysym.action s.xkb.control with
  | submit => exact absurd hact ha
  | clear => exact holds_clear h
  | neutral => exact h
  | erase =>
    show Holds (backspaceKey env s).password cs.dropLast
    rw [backspaceKey_password]
    exact (holds_backspace h).2
  | text =>
    show Holds (textKey env s codepoint).password _
    unfold textKey
    by_cases h0 : codepoint ≠ 0
    · rw [if_pos h0]
      simp only [h0, hc, and_self, not_false_eq_true, dite_true, ne_eq]
      exact holds_appendCh h ⟨codepoint, h0, hc⟩
    · rw [if_neg h0]
      simp only [h0, false_and, dite_false]
      exact h

theorem submitSkipped_iff {s : SwaylockState} {cs : List Codepoint} (h : Holds s.password cs) :
    SubmitSkipped s ↔ (s.args.ignoreEmpty = true ∧ cs = []) ∨ s.authState = .validating := by
  rw [SubmitSkipped, h.len_eq_zero]

/-- A key edits the buffer as it edits the list. -/
theorem holds_key {env : Env} {s t : SwaylockState} {p q : Pipe} {keysym : Keysym}
    {codepoint : UInt32} {cs : List Codepoint} (hs : Holds s.password cs)
    (hc : codepoint.toNat ≤ 0x10FFFF)
    (h : swaylockHandleKey env s p keysym codepoint = .running t q) :
    Holds t.password (editKey Keysym.action s keysym codepoint cs) := by
  cases ha : authdHandleKey env s p keysym with
  | some r =>
    rw [swaylockHandleKey, ha] at h
    obtain rfl : r = .running t q := h
    have hi : Intercepts s keysym := intercepts_of_some ha
    rw [(password_intercepted ha).1, editKey, if_pos hi]
    exact hs
  | none =>
    have hi : ¬ Intercepts s keysym := (authdHandleKey_eq_none env s p keysym).mp ha
    cases passwordKey_of_pass ha h with
    | submit action step =>
      have hskip := submitSkipped_iff hs
      unfold editKey
      rw [if_neg hi, action]
      dsimp only
      cases step with
      | skip hn => rw [if_pos (hskip.mp hn)]; exact hs
      | fail hn => rw [if_neg (mt hskip.mpr hn)]; exact holds_clear hs
      | send hn => rw [if_neg (mt hskip.mpr hn)]; exact holds_clear hs
    | edit action => exact holds_edit hs hc hi action

/-- A timer edits the buffer as it edits the list. -/
theorem holds_timer {env : Env} {now : Timespec} {addr : Nat} {s : SwaylockState}
    {cs : List Codepoint} (hs : Holds s.password cs) :
    Holds (visitTimer env now addr s).password
      (if s.eventloop.due now addr = some .clearPassword then [] else cs) := by
  by_cases hd : s.eventloop.due now addr = some .clearPassword
  · rw [if_pos hd, visitTimer_due hd]
    exact holds_clear hs
  · rw [if_neg hd]
    rcases visitTimer_cases env now addr s with hv | hv | ⟨callback, t, hdue, rfl, hv⟩
    · rw [hv]; exact hs
    · rw [hv]; exact hs
    · rw [hv]
      cases callback with
      | setInputIdle => exact hs
      | setAuthIdle => exact hs
      | clearPassword => exact absurd hdue hd

theorem FrameStep.password {env : Env} {s t : SwaylockState} {f : Frame}
    (h : FrameStep env s f t) : t.password = s.password := by
  cases h with
  | granted => rfl
  | denied _ _ keep => exact keep.keep _ (by intros; rfl)
  | retried _ keep => exact keep.keep _ (by intros; rfl)
  | settled _ keep => exact keep.keep _ (by intros; rfl)
  | informed _ _ keep => exact keep.keep _ (by intros; rfl)

/-- **Every callback edits the buffer as the reference editor edits the list.** -/
theorem holds_step {parse : CString → Option Json} {a : MainEvent} {m n : MainProcess}
    {cs : List Codepoint} (ha : a.Typed) (hs : Holds m.state.password cs)
    (h : mainStep parse a m = some n) :
    Holds n.state.password (noteEditor Keysym.action a m n cs) := by
  cases mainStep_cases parse h with
  | key eq => exact holds_key hs ha eq
  | modifiers hm => rw [show _ = m.state.password from hm.keep _ (by intros; rfl)]; exact hs
  | timer => exact holds_timer hs
  | message _ hf => rw [show _ = m.state.password from hf.password]; exact hs
  | childGone => exact hs

theorem holds_monitored {parse : CString → Option Json} {a : MainEvent}
    {x y : MainProcess × List Codepoint} (ha : a.Typed) (hx : Holds x.1.state.password x.2)
    (h : monitored (mainStep parse) (noteEditor Keysym.action) a x = some y) :
    Holds y.1.state.password y.2 := by
  obtain ⟨hstep, hnote⟩ := monitored_eq_some.mp h
  rw [hnote]
  exact holds_step ha hx hstep

/-- The frame of a buffer that holds a list. -/
theorem passwordBytes_eq {pw : SwaylockPassword} {cs : List Codepoint} (h : Holds pw cs) :
    passwordBytes pw = Frame.bytes ⟨COMM_MSG_PASSWORD, encodeAll cs ++ [0]⟩ := by
  have hlen : (encodeAll cs ++ [0]).length = pw.len + 1 := by rw [h.len]; simp
  rw [passwordBytes, commWriteBytes, Frame.bytes, h.take_succ, Option.getD_some, ← hlen,
    List.take_length]

/-- Only a key writes a password. -/
theorem wrotePassword_key {parse : CString → Option Json} {a : MainEvent} {m n : MainProcess}
    (h : mainStep parse a m = some n) (hw : wrotePassword m n = true) :
    ∃ env keysym codepoint, a = .key env keysym codepoint ∧
      KeyStep env m.state m.toChild n.state n.toChild := by
  have quiet : n.toChild.data = m.toChild.data → False := by
    intro hd
    rw [wrotePassword_same hd] at hw
    cases hw
  cases mainStep_cases parse h with
  | key _ hk => exact ⟨_, _, _, rfl, hk⟩
  | modifiers => exact (quiet rfl).elim
  | timer => exact (quiet rfl).elim
  | message => exact (quiet rfl).elim
  | childGone => exact (quiet rfl).elim

theorem faithful_of_holds {parse : CString → Option Json} {m : MainProcess} {cs : List Codepoint}
    (h : Holds m.state.password cs) : Faithful parse m cs := by
  refine ⟨h, fun a n hstep hw => ?_⟩
  obtain ⟨env, keysym, codepoint, -, hk⟩ := wrotePassword_key hstep hw
  rw [(keyStep_wrote hk hw).2, passwordBytes_eq h]

/-- **The secret sent is what was typed.**  Along every run from an empty password
the buffer holds the list of the reference editor, in which `Ctrl` turns `Delete` as
well as `BackSpace` into a clear, and a password frame carries its UTF-8 and one NUL byte. -/
theorem faithful_run {parse : CString → Option Json} {buffer : List UInt8} {m₀ : MainProcess}
    (hbuffer : buffer ≠ []) (hpassword : m₀.state.password = .initial buffer)
    {as : List MainEvent} (has : ∀ a ∈ as, a.Typed) {m : MainProcess} {cs : List Codepoint}
    (h : run (monitored (mainStep parse) (noteEditor Keysym.action)) as (m₀, []) = some (m, cs)) :
    Faithful parse m cs ∧
      (m.state.password.len = (encodeAll cs).length ∧
        m.state.password.buffer[m.state.password.len]? = some 0 ∧
        (0 : UInt8) ∉ m.state.password.buffer.take m.state.password.len ∧
        m.state.password.len < m.state.password.bufferLen) ∧
      Utf8.framing.items (encodeAll cs) = cs.map fun c => c.val.toNat := by
  have hstart : Holds m₀.state.password [] := by
    rw [hpassword]
    exact holds_initial hbuffer
  have htyped : Along (monitored (mainStep parse) (noteEditor Keysym.action))
      (fun a _ => a.Typed) as (m₀, []) := along_of_mem (fun a ha _ => has a ha) _
  have hh : Holds m.state.password cs :=
    run_invariant_along (I := fun x => Holds x.1.state.password x.2)
      (fun _ _ _ hx ha h => holds_monitored ha hx h) htyped h hstart
  refine ⟨faithful_of_holds hh, ⟨hh.len, hh.getElem_len, ?_, hh.lt⟩, items_encodeAll cs⟩
  rw [hh.take_len]
  exact zero_notMem_encodeAll cs

set_option maxRecDepth 10000 in
/-- A letter with an accent. -/
theorem faithful_run_acute :
    ∃ m c, run (monitored (mainStep fun _ => none) (noteEditor Keysym.action))
        [.key {} (.other 0xE9) 0xE9] (⟨.start {} (List.replicate 1024 0), {}⟩, []) = some (m, [c]) ∧
      c.val = 0xE9 ∧ Faithful (fun _ => none) m [c] := by
  have hne : List.replicate 1024 (0 : UInt8) ≠ [] := by simp
  have htyped : ∀ a ∈ [MainEvent.key {} (.other 0xE9) 0xE9], a.Typed := by decide
  have hpassword : (⟨.start {} (List.replicate 1024 0), {}⟩ : MainProcess).state.password =
      .initial (List.replicate 1024 0) := rfl
  refine ⟨_, _, rfl, rfl, ?_⟩
  exact (faithful_run hne hpassword htyped rfl).1

/-- The key table in which `Delete` erases one character also with `Ctrl`. -/
def Keysym.deletePops (control : Bool) (keysym : Keysym) : KeyAction :=
  if keysym = .Delete then .erase else keysym.action control

set_option maxRecDepth 10000 in
/-- **`Ctrl`+`Delete` clears the password**: after `a`, `b` and `Ctrl`+`Delete` the frame
does not carry the `a` that is left when `Delete` always erases one character. -/
theorem not_faithful_deletePops :
    ∃ m n c, run (monitored (mainStep fun _ => none) (noteEditor Keysym.deletePops))
        [.key {} (.other 0x61) 0x61, .key {} (.other 0x62) 0x62, .modifiers true false true,
          .key {} .Delete 0x7F, .modifiers true false false]
        (⟨.start {} (List.replicate 1024 0), {}⟩, []) = some (m, [c]) ∧
      c.val = 0x61 ∧
      mainStep (fun _ => none) (.key { writes := List.replicate 3 (.short 7) } .Return 0x0D) m =
        some n ∧
      wrotePassword m n = true ∧
      n.toChild.data ≠ m.toChild.data ++ Frame.bytes ⟨COMM_MSG_PASSWORD, encodeAll [c] ++ [0]⟩ := by
  refine ⟨_, _, _, rfl, rfl, rfl, rfl, ?_⟩
  decide

end SwaylockAuthd
