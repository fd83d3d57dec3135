import SwaylockAuthd.PasswordEditor
import SwaylockAuthd.Unlock

/-!
# What the main process writes to the child

The buffer of the password is shorter than the largest payload, and a message of the
selection stages points to all of its payload, so the stream to the child is a
sequence of whole frames whatever keys are pressed.

* `Roomy`: the password and its NUL byte fit the buffer, and the buffer a frame.
* `told_move`: what a step of the main process adds to the stream.
* `childRead_told`: what the child reads from it.
-/

namespace SwaylockAuthd

/-- The password fits the buffer, and the buffer a frame. -/
structure Roomy (pw : SwaylockPassword) : Prop where
  len : pw.len < pw.bufferLen
  buffer : pw.buffer.length = pw.bufferLen
  max : pw.bufferLen ≤ COMM_MAX_PAYLOAD

theorem roomy_initial {buffer : List UInt8} (h0 : buffer ≠ [])
    (hmax : buffer.length ≤ COMM_MAX_PAYLOAD) : Roomy (.initial buffer) :=
  ⟨List.length_pos_iff.mpr h0, by simp [SwaylockPassword.initial], hmax⟩

theorem roomy_clear {pw : SwaylockPassword} (h : Roomy pw) : Roomy (clearPasswordBuffer pw) := by
  refine ⟨lt_of_le_of_lt (Nat.zero_le _) h.len, ?_, h.max⟩
  have hl := h.buffer
  simp only [clearPasswordBuffer, clearBuffer, List.length_append, List.length_replicate,
    List.length_drop]
  omega

theorem roomy_backspace {pw : SwaylockPassword} (h : Roomy pw) : Roomy (backspace pw).2 := by
  rw [backspace]
  split
  · refine ⟨lt_of_le_of_lt (Nat.sub_le _ _) h.len, ?_, h.max⟩
    rw [List.length_set]
    exact h.buffer
  · exact h

theorem length_utf8Encode (ch : UInt32) : (utf8Encode ch).length = utf8Chsize ch := by
  rw [utf8Encode, utf8Chsize]
  repeat' split
  all_goals rfl

theorem roomy_appendCh {pw : SwaylockPassword} (h : Roomy pw) (codepoint : UInt32) :
    Roomy (appendCh pw codepoint) := by
  rw [appendCh]
  split
  · exact h
  · rename_i hlt
    have hl := h.buffer
    refine ⟨by dsimp only; omega, ?_, h.max⟩
    simp only [store, List.length_set, List.length_append, List.length_take, List.length_drop,
      length_utf8Encode]
    omega

theorem roomy_edit {env : Env} {s : SwaylockState} (h : Roomy s.password) (codepoint : UInt32)
    (a : KeyAction) : Roomy (a.edit env s codepoint).password := by
  cases a with
  | submit => exact h
  | clear => exact roomy_clear h
  | neutral => exact h
  | erase =>
    have hb := roomy_backspace h
    show Roomy (backspaceKey env s).password
    rw [backspaceKey]
    dsimp only
    split <;> exact hb
  | text =>
    show Roomy (textKey env s codepoint).password
    rw [textKey]
    split
    · exact roomy_appendCh h codepoint
    · exact h

theorem KeyStep.roomy {env : Env} {s t : SwaylockState} {p q : Pipe} (h : KeyStep env s p t q)
    (hs : Roomy s.password) : Roomy t.password := by
  cases h with
  | move h => rw [show t.password = s.password from h.keep _ (by intros; rfl)]; exact hs
  | send h => rw [show t.password = s.password from h.keep _ (by intros; rfl)]; exact hs
  | edit a codepoint => exact roomy_edit hs codepoint a
  | fail => exact roomy_clear hs
  | submit => exact roomy_clear hs

theorem roomy_visitTimer {env : Env} {now : Timespec} {addr : Nat} {s : SwaylockState}
    (hs : Roomy s.password) : Roomy (visitTimer env now addr s).password := by
  rcases visitTimer_cases env now addr s with hv | hv | ⟨callback, t, -, rfl, hv⟩
  · rw [hv]
    exact hs
  · rw [hv]
    exact hs
  · rw [hv]
    cases callback with
    | setInputIdle => exact hs
    | setAuthIdle => exact hs
    | clearPassword => exact roomy_clear hs

/-! ## The stream -/

/-- The password fits, and the stream is one of frames with the property. -/
structure Told (P : Frame → Prop) (m : MainSide) : Prop where
  room : Roomy m.state.password
  stream : frameFraming.Carries P m.toChild.data

/-- A message of the selection stages is a frame with the property. -/
def Speaks (P : Frame → Prop) (s : SwaylockState) : Prop :=
  ∀ keysym m, s.authdActive = true → authdMessage s keysym = some m →
    m.len ≤ COMM_MAX_PAYLOAD ∧ P m.frame

theorem carries_message {P : Frame → Prop} {m : Message} (h : m.Sendable) (hP : P m.frame) :
    frameFraming.Carries P (commWriteBytes m.type m.payload m.len) := by
  rw [Message.bytes_frame h]
  exact Framing.carries_of_writes (writes_bytes (Message.fits_frame h)) hP

/-- The frame of a password is not empty. -/
theorem carries_password {P : Frame → Prop}
    (hP : ∀ payload, payload ≠ [] → P ⟨COMM_MSG_PASSWORD, payload⟩) {pw : SwaylockPassword}
    (h : Roomy pw) : frameFraming.Carries P (passwordBytes pw) := by
  have hlen := h.len
  have hbuf := h.buffer
  have hmax := h.max
  have htake : (pw.buffer.take (pw.len + 1)).length = pw.len + 1 := by
    rw [List.length_take]
    omega
  refine carries_message (m := ⟨COMM_MSG_PASSWORD, some (pw.buffer.take (pw.len + 1)), pw.len + 1⟩)
    ⟨(by decide : COMM_MSG_PASSWORD ≠ 0), by dsimp only; omega, ?_⟩ (hP _ ?_)
  · rw [Option.getD_some, htake]
  · rw [Option.getD_some, ← List.length_pos_iff, List.length_take, htake, Nat.min_self]
    exact Nat.succ_pos _

/-- What a key adds to the stream. -/
theorem told_key {P : Frame → Prop}
    (hP : ∀ payload, payload ≠ [] → P ⟨COMM_MSG_PASSWORD, payload⟩) {env : Env}
    {s t : SwaylockState} {p q : Pipe} (h : KeyStep env s p t q) (hroom : Roomy s.password)
    (hs : Speaks P s) (hp : frameFraming.Carries P p.data) : frameFraming.Carries P q.data := by
  cases h with
  | move => exact hp
  | @send _ m keysym _ active sent =>
    obtain ⟨hlen, hframe⟩ := hs keysym m active sent
    obtain ⟨-, hzero, hwhole⟩ := authdMessage_sent sent
    exact hp.append (carries_message ⟨hzero, hlen, hwhole.le⟩ hframe)
  | edit => exact hp
  | fail => exact hp
  | submit => exact hp.append (carries_password hP hroom)

theorem speaks_of_short {P : Frame → Prop} {s : SwaylockState}
    (hP : ∀ type payload, type ≠ COMM_MSG_PASSWORD → P ⟨type, payload⟩)
    (hid : ∀ isBroker id, selectedId isBroker s = some id → id.length < COMM_MAX_PAYLOAD) :
    Speaks P s := by
  intro keysym m active hm
  refine ⟨?_, hP _ _ (authdMessage_sent hm).1⟩
  have hsel : ∀ isBroker, selectionMessage isBroker s keysym = some m →
      m.len ≤ COMM_MAX_PAYLOAD := by
    intro isBroker h
    rcases selectionMessage_cases h with ⟨id, hsome, rfl⟩ | rfl
    · exact hid isBroker id hsome
    · exact Nat.zero_le _
  rw [authdMessage, if_pos active] at hm
  split at hm
  · exact hsel true hm
  · exact hsel false hm
  · split at hm
    · cases hm
      exact Nat.zero_le _
    · cases hm
  · cases hm

/-- **What a step of the main process adds to the stream.** -/
theorem told_move {debugUnlock : Bool} {parse : CString → Option Json} {P : Frame → Prop}
    (hP : ∀ payload, payload ≠ [] → P ⟨COMM_MSG_PASSWORD, payload⟩) {a : MainAction}
    {m n : MainSide} (hm : Told P m)
    (hs : ∀ env keysym codepoint, a = .key env keysym codepoint → Speaks P m.state)
    (h : MainMove debugUnlock parse m a n) : Told P n := by
  obtain ⟨hroom, hstream⟩ := hm
  cases h with
  | key _ _ step => exact ⟨step.roomy hroom, told_key hP step hroom (hs _ _ _ rfl) hstream⟩
  | modifiers _ h =>
    refine ⟨?_, hstream⟩
    rw [show _ = m.state.password from h.keep _ (by intros; rfl)]
    exact hroom
  | frame _ _ _ _ _ step =>
    refine ⟨?_, hstream⟩
    rw [show _ = m.state.password from step.password]
    exact hroom
  | timer => exact ⟨roomy_visitTimer hroom, hstream⟩
  | _ => exact ⟨hroom, hstream⟩

/-! ## Reading whole frames -/

/-- **What the child reads from a stream of whole frames** that is not closed. -/
theorem childRead_told {P : Frame → Prop} {env : Env} {p : Pipe} {x : CommRead}
    (h : commRead env.payload env.reads p = some x) (hs : frameFraming.Carries P p.data)
    (hw : p.writer = true) (henv : .error ∉ env.reads ∧ env.payload = true) :
    ∃ f rest, frameHead p.data = .item f rest ∧ P f ∧ frameFraming.Carries P rest ∧
      x.ret = f.type.toNat ∧ x.payload = f.buffer ∧ x.pipe = { p with data := rest } := by
  cases commRead_spec h with
  | @frame f rest cs head =>
    obtain ⟨hf, hrest⟩ := hs.tail head
    exact ⟨f, rest, head, hf, hrest, rfl, rfl, rfl⟩
  | tooLarge head =>
    have hs' : frameFraming.Carries P (p.data ++ []) := by rwa [List.append_nil]
    exact absurd head hs'.head_ne_bad
  | ended _ closed => rw [hw] at closed; cases closed
  | failed why =>
    rcases why with he | he
    · exact absurd he henv.1
    · rw [henv.2] at he; cases he

end SwaylockAuthd
