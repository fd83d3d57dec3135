import SwaylockAuthd.PasswordEditor

/-!
# What an erased character leaves behind

`backspace` writes one NUL byte where the last character began.

* `Wiped`: every byte of the buffer behind the text is zero.
* `wiped_backspace_iff`: `backspace` keeps it unless the last byte of the text is not ASCII.
* `PasswordStep`: what a callback can do to the buffer.  `wiped_iff`: which runs keep `Wiped`.
* `residue_of_erased`: an erased `é` leaves its second byte in an empty password.
-/

namespace SwaylockAuthd

open Transition

/-! ## The buffer -/

/-- Every byte behind the text is zero. -/
def Wiped (pw : SwaylockPassword) : Prop := ∀ b ∈ pw.buffer.drop pw.len, b = 0

instance (pw : SwaylockPassword) : Decidable (Wiped pw) :=
  inferInstanceAs (Decidable (∀ b ∈ pw.buffer.drop pw.len, b = 0))

/-- The last byte of the text is not ASCII. -/
def EndsWide (pw : SwaylockPassword) : Prop := ∃ b ∈ pw.buffer[pw.len - 1]?, 0x80 ≤ b.toNat

theorem wiped_initial {buffer : List UInt8} (h : ∀ b ∈ buffer, b = 0) :
    Wiped (.initial buffer) := by
  intro b hb
  rcases List.mem_or_eq_of_mem_set (List.mem_of_mem_drop hb) with hm | rfl
  · exact h b hm
  · rfl

theorem wiped_clear {pw : SwaylockPassword} {cs : List Codepoint} (h : Holds pw cs) :
    Wiped (clearPasswordBuffer pw) := by
  intro b hb
  rw [clearPasswordBuffer, clearBuffer, List.drop_zero, ← h.length, List.drop_length,
    List.append_nil] at hb
  exact List.eq_of_mem_replicate hb

/-- Typing overwrites zeros, and writes a zero behind. -/
theorem wiped_appendCh {pw : SwaylockPassword} {cs : List Codepoint} (h : Holds pw cs)
    (hw : Wiped pw) (c : Codepoint) : Wiped (appendCh pw c.val) := by
  unfold appendCh
  dsimp only
  split
  · exact hw
  · rename_i hroom
    have hsize : (utf8Encode c.val).length = utf8Chsize c.val := by
      rw [utf8Encode_eq c.lt, Utf8.length_encode, utf8Chsize_eq]
    have hfront : (pw.buffer.take pw.len).length = pw.len := by
      rw [List.length_take, h.length]
      have := h.lt
      omega
    intro b hb
    rw [List.drop_set] at hb
    rcases List.mem_or_eq_of_mem_set (by simpa using hb) with hm | hz
    · refine hw b ?_
      rw [store, ← hsize] at hm
      have hlen : pw.len + (utf8Encode c.val).length =
          (pw.buffer.take pw.len ++ utf8Encode c.val).length := by
        rw [List.length_append, hfront]
      rw [hlen, List.drop_left, ← hlen, ← List.drop_drop] at hm
      exact List.mem_of_mem_drop hm
    · exact hz

/-- The text ends with the last character's last byte. -/
theorem endsWide_iff {pw : SwaylockPassword} {cs : List Codepoint} {front : List UInt8}
    {last : UInt8} (h : Holds pw cs) (he : encodeAll cs = front ++ [last]) :
    EndsWide pw ↔ 0x80 ≤ last.toNat := by
  obtain ⟨rest, hb⟩ := h.content
  have hcell : pw.buffer[pw.len - 1]? = some last := by
    rw [hb, h.len, he, List.length_append, List.length_singleton, Nat.add_sub_cancel,
      List.append_assoc, List.getElem?_append_right (le_refl _), Nat.sub_self]
    rfl
  rw [EndsWide, hcell]
  simp

/-- **Erasing keeps the buffer wiped unless the last byte of the text is not ASCII.** -/
theorem wiped_backspace_iff {pw : SwaylockPassword} {cs : List Codepoint} (h : Holds pw cs)
    (hw : Wiped pw) : Wiped (backspace pw).2 ↔ ¬ EndsWide pw := by
  have herased := (holds_backspace h).2
  by_cases hcs : cs = []
  · -- nothing is erased, and the byte looked at is the NUL
    subst hcs
    have hlen : pw.len = 0 := h.len
    have hsame : (backspace pw).2 = pw := by rw [backspace, if_neg (by simp [hlen])]
    obtain ⟨rest, hb⟩ := h.content
    rw [hsame]
    refine iff_of_true hw ?_
    rintro ⟨b, hmem, hb'⟩
    rw [hb, hlen] at hmem
    obtain rfl : 0 = b := by simpa using hmem
    exact absurd hb' (by decide)
  · obtain ⟨ds, c, rfl⟩ : ∃ ds c, cs = ds ++ [c] :=
      ⟨cs.dropLast, cs.getLast hcs, (List.dropLast_append_getLast hcs).symm⟩
    obtain ⟨front, last, hc, hlast⟩ := Utf8.encode_eq_concat c.val.toNat
    have htext : encodeAll (ds ++ [c]) = (encodeAll ds ++ front) ++ [last] := by
      rw [encodeAll_concat, hc, List.append_assoc]
    rw [endsWide_iff h htext, hlast, not_not]
    rw [List.dropLast_concat] at herased
    -- the buffer afterwards: the text, a NUL, and the other bytes of the character
    have hbuffer : (backspace pw).2.buffer = pw.buffer.set (encodeAll ds).length 0 := by
      have hne : pw.len ≠ 0 := fun h0 => hcs (h.len_eq_zero.mp h0)
      have hl := herased.len
      rw [backspace, if_pos hne] at hl ⊢
      dsimp only at hl ⊢
      rw [hl]
    obtain ⟨rest, hb⟩ := h.content
    have hdrop : pw.buffer.drop (encodeAll ds).length = Utf8.encode c.val.toNat ++ 0 :: rest := by
      rw [hb, encodeAll_concat, List.append_assoc, List.drop_left]
    have hzero : ∀ b ∈ rest, b = 0 := by
      intro b hm
      refine hw b ?_
      rw [hb, h.len, List.drop_left]
      exact List.mem_cons_of_mem 0 hm
    have hnotMem := Utf8.zero_notMem_encode c.toNat_ne_zero c.lt
    rw [Wiped, herased.len, hbuffer, List.drop_set, if_neg (Nat.lt_irrefl _), Nat.sub_self, hdrop]
    cases front with
    | nil =>
      rw [hc]
      refine iff_of_true ?_ rfl
      show ∀ b ∈ 0 :: 0 :: rest, b = 0
      simpa using hzero
    | cons lead front =>
      refine iff_of_false (fun hall => ?_) (by simp)
      rw [hc] at hall hnotMem
      exact hnotMem (hall last (by simp) ▸ by simp)

/-! ## The runs -/

/-- The key is `Delete` or `BackSpace` without `Ctrl`, and no selection stage intercepts it. -/
def Erases (a : MainEvent) (m : MainProcess) : Prop :=
  match a with
  | .key _ keysym _ => ¬ Intercepts m.state keysym ∧ keysym.action m.state.xkb.control = .erase
  | _ => False

/-- What a callback can do to the buffer. -/
inductive PasswordStep (pw : SwaylockPassword) (erases : Prop) : SwaylockPassword → Prop
  | keep (quiet : ¬ erases) : PasswordStep pw erases pw
  | clear (quiet : ¬ erases) : PasswordStep pw erases (clearPasswordBuffer pw)
  | append (quiet : ¬ erases) (c : Codepoint) : PasswordStep pw erases (appendCh pw c.val)
  | erase (erasing : erases) : PasswordStep pw erases (backspace pw).2

theorem passwordStep_key {env : Env} {m : MainProcess} {t : SwaylockState} {q : Pipe}
    {keysym : Keysym} {codepoint : UInt32} (hc : codepoint.toNat ≤ 0x10FFFF)
    (h : swaylockHandleKey env m.state m.toChild keysym codepoint = .running t q) :
    PasswordStep m.state.password (Erases (.key env keysym codepoint) m) t.password := by
  cases ha : authdHandleKey env m.state m.toChild keysym with
  | some r =>
    rw [swaylockHandleKey, ha] at h
    obtain rfl : r = .running t q := h
    have hi : Intercepts m.state keysym := intercepts_of_some ha
    rw [(password_intercepted ha).1]
    exact .keep fun he => he.1 hi
  | none =>
    have hi : ¬ Intercepts m.state keysym :=
      (authdHandleKey_eq_none env m.state m.toChild keysym).mp ha
    cases passwordKey_of_pass ha h with
    | submit action step =>
      have hquiet : ¬ Erases (.key env keysym codepoint) m := by
        rintro ⟨-, he⟩
        rw [action] at he
        cases he
      cases step with
      | skip => exact .keep hquiet
      | fail => exact .clear hquiet
      | send => exact .clear hquiet
    | edit action =>
      cases hact : keysym.action m.state.xkb.control with
      | submit => exact absurd hact action
      | clear => exact .clear fun he => by rw [Erases, hact] at he; cases he.2
      | neutral => exact .keep fun he => by rw [Erases, hact] at he; cases he.2
      | erase =>
        show PasswordStep _ _ (backspaceKey env m.state).password
        rw [backspaceKey_password]
        exact .erase ⟨hi, hact⟩
      | text =>
        have hquiet : ¬ Erases (.key env keysym codepoint) m := by
          rintro ⟨-, he⟩
          rw [hact] at he
          cases he
        show PasswordStep _ _ (textKey env m.state codepoint).password
        unfold textKey
        split
        · rename_i h0
          exact .append hquiet ⟨codepoint, h0, hc⟩
        · exact .keep hquiet

/-- **What a callback can do to the buffer.** -/
theorem passwordStep {parse : CString → Option Json} {a : MainEvent} {m n : MainProcess}
    (ha : a.Typed) (h : mainStep parse a m = some n) :
    PasswordStep m.state.password (Erases a m) n.state.password := by
  cases mainStep_cases parse h with
  | key eq => exact passwordStep_key ha eq
  | modifiers hm =>
    rw [show _ = m.state.password from hm.keep _ (by intros; rfl)]
    exact .keep id
  | @timer env now addr =>
    show PasswordStep _ _ (visitTimer env now addr m.state).password
    rcases visitTimer_cases env now addr m.state with hv | hv | ⟨callback, t, -, rfl, hv⟩
    · rw [hv]; exact .keep id
    · rw [hv]; exact .keep id
    · rw [hv]
      cases callback with
      | setInputIdle => exact .keep id
      | setAuthIdle => exact .keep id
      | clearPassword => exact .clear id
  | message _ hf =>
    rw [show _ = m.state.password from hf.password]
    exact .keep id
  | childGone => exact .keep id

/-- The buffer holds a text, and nothing behind it. -/
def Clean (m : MainProcess) : Prop := (∃ cs, Holds m.state.password cs) ∧ Wiped m.state.password

/-- Erasing a character that is not ASCII. -/
def ErasesWide (a : MainEvent) (m : MainProcess) : Prop :=
  Erases a m ∧ EndsWide m.state.password

theorem clean_step {parse : CString → Option Json} {a : MainEvent} {m n : MainProcess}
    (hm : Clean m) (ha : a.Typed) (hc : ¬ ErasesWide a m) (h : mainStep parse a m = some n) :
    Clean n := by
  obtain ⟨⟨cs, hs⟩, hw⟩ := hm
  refine ⟨⟨_, holds_step ha hs h⟩, ?_⟩
  have hstep := passwordStep ha h
  generalize n.state.password = pw at hstep
  cases hstep with
  | keep => exact hw
  | clear => exact wiped_clear hs
  | append _ c => exact wiped_appendCh hs hw c
  | erase he => exact (wiped_backspace_iff hs hw).mpr fun hwide => hc ⟨he, hwide⟩

/-- An erased character of several bytes leaves some of them. -/
theorem residue_step {parse : CString → Option Json} {a : MainEvent} {m : MainProcess}
    (hm : Clean m) (he : ErasesWide a m) :
    ∃ n, mainStep parse a m = some n ∧ ¬ Wiped n.state.password := by
  obtain ⟨⟨cs, hs⟩, hw⟩ := hm
  obtain ⟨herase, hwide⟩ := he
  cases a with
  | modifiers _ _ _ => exact herase.elim
  | timer _ _ _ => exact herase.elim
  | message _ _ => exact herase.elim
  | childGone => exact herase.elim
  | key env keysym codepoint =>
    obtain ⟨hi, hact⟩ := herase
    have hkey : swaylockHandleKey env m.state m.toChild keysym codepoint =
        .running (backspaceKey env m.state) m.toChild := by
      rw [swaylockHandleKey, (authdHandleKey_eq_none env m.state m.toChild keysym).mpr hi]
      dsimp only
      rw [passwordHandleKey_eq, hact]
      rfl
    refine ⟨⟨backspaceKey env m.state, m.toChild⟩, by rw [mainStep, hkey], ?_⟩
    rw [backspaceKey_password, wiped_backspace_iff hs hw, not_not]
    exact hwide

/-- **No password residue, exactly when** no character that is not ASCII is erased: along every run
from an all-zero buffer. -/
theorem wiped_iff (parse : CString → Option Json) {buffer : List UInt8} {m₀ : MainProcess}
    (hbuffer : buffer ≠ []) (hzero : ∀ b ∈ buffer, b = 0)
    (hpassword : m₀.state.password = .initial buffer) {as : List MainEvent}
    (has : ∀ a ∈ as, a.Typed) :
    Throughout (mainStep parse) (fun m => Wiped m.state.password) as m₀ ↔
      Along (mainStep parse) (fun a m => ¬ ErasesWide a m) as m₀ := by
  have hstart : Clean m₀ := by
    rw [Clean, hpassword]
    exact ⟨⟨[], holds_initial hbuffer⟩, wiped_initial hzero⟩
  exact throughout_iff_along (H := fun a _ => a.Typed) (I := Clean)
    (fun _ _ _ hm ha hc h => clean_step hm ha hc h) (fun _ hm => hm.2)
    (fun _ _ hm _ hc => residue_step hm (not_not.mp hc)) hstart
    (along_of_mem (fun a ha _ => has a ha) m₀)

set_option maxRecDepth 10000 in
/-- **An erased `é` leaves its second byte**: the password is empty, the timer that would wipe the
buffer is cancelled. -/
theorem residue_of_erased :
    ∃ m, run (mainStep fun _ => none)
        [.key {} (.other 0xE9) 0xE9, .key {} .BackSpace 8]
        ⟨.start {} (List.replicate 1024 0), {}⟩ = some m ∧
      m.state.password.len = 0 ∧ m.state.clearPasswordTimer = none ∧
      m.state.password.buffer[1]? = some 0xA9 ∧ ¬ Wiped m.state.password := by
  refine ⟨_, rfl, rfl, rfl, rfl, fun h => ?_⟩
  exact absurd (h 0xA9 (List.mem_of_getElem? (i := 1) rfl)) (by decide)

set_option maxRecDepth 10000 in
/-- A letter is typed and erased. -/
theorem wiped_of_ascii :
    Throughout (mainStep fun _ => none) (fun m => Wiped m.state.password)
      [.key {} (.other 0x61) 0x61, .key {} .BackSpace 8]
      ⟨.start {} (List.replicate 1024 0), {}⟩ := by
  have hne : List.replicate 1024 (0 : UInt8) ≠ [] := by simp
  have hzero : ∀ b ∈ List.replicate 1024 (0 : UInt8), b = 0 := fun _ => List.eq_of_mem_replicate
  have htyped : ∀ a ∈ [MainEvent.key {} (.other 0x61) 0x61, .key {} .BackSpace 8], a.Typed := by
    decide
  refine (wiped_iff (fun _ => none) hne hzero rfl htyped).mpr
    ⟨?_, fun m hm => ⟨?_, fun _ _ => trivial⟩⟩
  · exact fun h => absurd h.1.2 (by decide)
  · obtain rfl := Option.some.inj hm
    rintro ⟨-, b, hb, hwide⟩
    obtain rfl : 0x61 = b := Option.some.inj hb
    exact absurd hwide (by decide)

end SwaylockAuthd
