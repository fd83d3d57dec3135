import SwaylockAuthd.PasswordEditor
import SwaylockAuthd.Screen

/-!
# What the screen tells of the password

The locker among people who look at the screen: they see which special keys are pressed and that a
character is typed, but not which character.  Two runs in which they see the same end with the
same screen, whatever was typed, and everything else the process keeps is the same too.

* `glimpse`: what is seen of a step.
* `Veiled`: two processes that differ at most in the characters of their passwords.
* `veiled_handleKey`, `veiled_mainLoop`: a step that looks the same keeps that.
* `secret_hidden`: so does a run, and the surfaces are the same.
-/

namespace SwaylockAuthd

open Transition

/-! ## Passwords that differ in their characters -/

/-- The buffers hold equally many characters. -/
def SameLength (pw qw : SwaylockPassword) : Prop :=
  ∃ cs ds, Holds pw cs ∧ Holds qw ds ∧ cs.length = ds.length

namespace SameLength

variable {pw qw : SwaylockPassword}

theorem len_eq_zero (h : SameLength pw qw) : qw.len = 0 ↔ pw.len = 0 := by
  obtain ⟨cs, ds, hcs, hds, hlen⟩ := h
  rw [hds.len_eq_zero, hcs.len_eq_zero, ← List.length_eq_zero_iff, ← hlen,
    List.length_eq_zero_iff]

theorem clear (h : SameLength pw qw) :
    SameLength (clearPasswordBuffer pw) (clearPasswordBuffer qw) := by
  obtain ⟨cs, ds, hcs, hds, -⟩ := h
  exact ⟨[], [], holds_clear hcs, holds_clear hds, rfl⟩

/-- `Backspace` erases one character of each, however long they are. -/
theorem backspace (h : SameLength pw qw) :
    (SwaylockAuthd.backspace qw).1 = (SwaylockAuthd.backspace pw).1 ∧
      SameLength (SwaylockAuthd.backspace pw).2 (SwaylockAuthd.backspace qw).2 := by
  obtain ⟨cs, ds, hcs, hds, hlen⟩ := h
  obtain ⟨hsome, hback⟩ := holds_backspace hcs
  obtain ⟨hsome', hback'⟩ := holds_backspace hds
  refine ⟨?_, cs.dropLast, ds.dropLast, hback, hback', ?_⟩
  · rw [Bool.eq_iff_iff, hsome, hsome', ne_eq, ne_eq, ← List.length_eq_zero_iff,
      ← List.length_eq_zero_iff, hlen]
  · rw [List.length_dropLast, List.length_dropLast, hlen]

end SameLength

/-- There is room for a character. -/
def Room (pw : SwaylockPassword) (codepoint : UInt32) : Prop :=
  pw.len + utf8Chsize codepoint + 1 < pw.bufferLen

instance (pw : SwaylockPassword) (codepoint : UInt32) : Decidable (Room pw codepoint) :=
  inferInstanceAs (Decidable (_ < _))

theorem length_push {pw : SwaylockPassword} {cs : List Codepoint} (h : Holds pw cs)
    (c : Codepoint) :
    (push pw.bufferLen cs c).length = cs.length + if Room pw c.val then 1 else 0 := by
  have hroom : Room pw c.val ↔
      ¬ pw.bufferLen ≤ (encodeAll cs).length + Utf8.size c.val.toNat + 1 := by
    rw [Room, h.len, utf8Chsize_eq]
    omega
  unfold push
  by_cases hr : Room pw c.val
  · rw [if_pos hr, if_neg (hroom.mp hr), List.length_append]
    rfl
  · rw [if_neg hr, if_pos (not_not.mp (mt hroom.mpr hr))]
    rfl

/-- A character more in each, if both have room for theirs or neither has. -/
theorem SameLength.appendCh {pw qw : SwaylockPassword} (h : SameLength pw qw) {c d : UInt32}
    (hc : c ≠ 0 ∧ c.toNat ≤ 0x10FFFF) (hd : d ≠ 0 ∧ d.toNat ≤ 0x10FFFF)
    (hroom : Room pw c ↔ Room qw d) :
    SameLength (SwaylockAuthd.appendCh pw c) (SwaylockAuthd.appendCh qw d) := by
  obtain ⟨cs, ds, hcs, hds, hlen⟩ := h
  refine ⟨_, _, holds_appendCh hcs ⟨c, hc.1, hc.2⟩, holds_appendCh hds ⟨d, hd.1, hd.2⟩, ?_⟩
  rw [length_push hcs, length_push hds, hlen]
  by_cases hr : Room pw c
  · rw [if_pos hr, if_pos (hroom.mp hr)]
  · rw [if_neg hr, if_neg (mt hroom.mpr hr)]

/-- Two streams to the child that differ at most in the characters of the password frames. -/
inductive Disguised : List UInt8 → List UInt8 → Prop
  | refl (data : List UInt8) : Disguised data data
  | append {data data' : List UInt8} (h : Disguised data data') (bytes : List UInt8) :
      Disguised (data ++ bytes) (data' ++ bytes)
  | password {data data' : List UInt8} {cs ds : List Codepoint} (h : Disguised data data')
      (length : cs.length = ds.length) :
      Disguised (data ++ Frame.bytes ⟨COMM_MSG_PASSWORD, encodeAll cs ++ [0]⟩)
        (data' ++ Frame.bytes ⟨COMM_MSG_PASSWORD, encodeAll ds ++ [0]⟩)

/-- The password frames of two such buffers. -/
theorem Disguised.passwordBytes {data data' : List UInt8} (hd : Disguised data data')
    {pw qw : SwaylockPassword} (h : SameLength pw qw) :
    Disguised (data ++ SwaylockAuthd.passwordBytes pw)
      (data' ++ SwaylockAuthd.passwordBytes qw) := by
  obtain ⟨cs, ds, hcs, hds, hlen⟩ := h
  rw [passwordBytes_eq hcs, passwordBytes_eq hds]
  exact hd.password hlen

/-! ## The rest of the state -/

/-- The state with another password. -/
def SwaylockState.veil (s : SwaylockState) (pw : SwaylockPassword) : SwaylockState :=
  { s with password := pw }

/-- The pipe with other contents. -/
def Pipe.veil (p : Pipe) (data : List UInt8) : Pipe := { p with data }

/-- Two outcomes that differ at most in the characters of the passwords; a write that does not
return tells nothing. -/
inductive VeiledOutcome : Outcome SwaylockState → Outcome SwaylockState → Prop
  | running {s : SwaylockState} {p : Pipe} {pw : SwaylockPassword} {data : List UInt8}
      (length : SameLength s.password pw) (stream : Disguised p.data data) :
      VeiledOutcome (.running s p) (.running (s.veil pw) (p.veil data))
  | killed : VeiledOutcome .killed .killed
  | blockedLeft {r : Outcome SwaylockState} : VeiledOutcome .blocked r
  | blockedRight {r : Outcome SwaylockState} : VeiledOutcome r .blocked

/-- The environment but for how the kernel splits the writes. -/
def Env.unsplit (env : Env) : Env := { env with writes := [] }

theorem eq_of_unsplit {env env' : Env} (h : env.unsplit = env'.unsplit) :
    env' = { env with writes := env'.writes } := by
  cases env
  cases env'
  simp only [Env.unsplit, Env.mk.injEq] at h
  obtain ⟨rfl, rfl, rfl, rfl, rfl, -, rfl, rfl, rfl, rfl, rfl, rfl⟩ := h
  rfl

section Keys

variable {env : Env} {ws : List WriteCall} {s : SwaylockState} {p : Pipe} {pw : SwaylockPassword}
  {data : List UInt8}

/-! ## Keys of the selection stages -/

/-- Two writes of a message, of any contents: both find no reader, one does not return, or both
append it. -/
theorem veiled_commMainWrite (data : List UInt8) (type : UInt8)
    (payload payload' : Option (List UInt8)) (len len' : Nat) :
    (commMainWrite env p type payload len = .killed ∧
      commMainWrite { env with writes := ws } (p.veil data) type payload' len' = .killed) ∨
    commMainWrite env p type payload len = .blocked ∨
    commMainWrite { env with writes := ws } (p.veil data) type payload' len' = .blocked ∨
    (commMainWrite env p type payload len =
        .running true (p.veil (p.data ++ commWriteBytes type payload len)) ∧
      commMainWrite { env with writes := ws } (p.veil data) type payload' len' =
        .running true (p.veil (data ++ commWriteBytes type payload' len'))) := by
  rcases commMainWrite_cases env p type payload len with ⟨hr, h⟩ | ⟨-, h⟩ | ⟨hr, h⟩
  · rcases commMainWrite_cases { env with writes := ws } (p.veil data) type payload' len' with
      ⟨-, h'⟩ | ⟨hr', -⟩ | ⟨hr', -⟩
    · exact Or.inl ⟨h, h'⟩
    · exact absurd (hr.symm.trans hr') (by decide)
    · exact absurd (hr.symm.trans hr') (by decide)
  · exact Or.inr (Or.inl h)
  · rcases commMainWrite_cases { env with writes := ws } (p.veil data) type payload' len' with
      ⟨hr', -⟩ | ⟨-, h'⟩ | ⟨-, h'⟩
    · exact absurd (hr'.symm.trans hr) (by decide)
    · exact Or.inr (Or.inr (Or.inl h'))
    · exact Or.inr (Or.inr (Or.inr ⟨h, h'⟩))

theorem veiled_sendKey (hlen : SameLength s.password pw) (hd : Disguised p.data data)
    (type : UInt8) (payload : Option (List UInt8)) (len : Nat) :
    VeiledOutcome (sendKey env s p type payload len)
      (sendKey { env with writes := ws } (s.veil pw) (p.veil data) type payload len) := by
  unfold sendKey
  rcases veiled_commMainWrite data type payload payload len len with
    ⟨h, h'⟩ | h | h' | ⟨h, h'⟩
  · rw [h, h']
    exact .killed
  · rw [h]
    exact .blockedLeft
  · rw [h']
    exact .blockedRight
  · rw [h, h']
    exact .running hlen (hd.append _)

/-- The state after a key of a list. -/
def selectionAfter (isBroker : Bool) (s : SwaylockState) : Keysym → SwaylockState
  | .Up => damageState (selectUp isBroker s)
  | .Down => damageState (selectDown isBroker s)
  | _ => s

/-- The state after a key that the first block intercepts. -/
def authdAfter (s : SwaylockState) (keysym : Keysym) : SwaylockState :=
  match s.authdStage with
  | .broker => selectionAfter true s keysym
  | .authMode => selectionAfter false s keysym
  | _ => damageState s

/-- The outcome of a key that leaves a state and sends a message, if there is one. -/
def sendMessage (env : Env) (s : SwaylockState) (p : Pipe) : Option Message → Outcome SwaylockState
  | some m => sendKey env s p m.type m.payload m.len
  | none => .running s p

theorem selectionKey_eq {isBroker : Bool} {keysym : Keysym} {r : Outcome SwaylockState}
    (h : selectionKey isBroker env s p keysym = some r) :
    r = sendMessage env (selectionAfter isBroker s keysym) p
      (selectionMessage isBroker s keysym) := by
  cases keysym with
  | Up => exact (Option.some.inj h).symm
  | Down => exact (Option.some.inj h).symm
  | Escape => exact (Option.some.inj h).symm
  | Return =>
    rw [selectionKey] at h
    rw [selectionMessage]
    cases hid : selectedId isBroker s <;> rw [hid] at h <;> exact (Option.some.inj h).symm
  | KP_Enter =>
    rw [selectionKey] at h
    rw [selectionMessage]
    cases hid : selectedId isBroker s <;> rw [hid] at h <;> exact (Option.some.inj h).symm
  | _ => cases h

/-- A key of the first block changes the selection or sends a message, as the state says. -/
theorem authdHandleKey_eq {keysym : Keysym} {r : Outcome SwaylockState}
    (h : authdHandleKey env s p keysym = some r) :
    r = sendMessage env (authdAfter s keysym) p (authdMessage s keysym) := by
  unfold authdHandleKey at h
  unfold authdAfter authdMessage
  by_cases hactive : s.authdActive = true
  · rw [if_pos hactive] at h ⊢
    cases hstage : s.authdStage with
    | broker =>
      rw [hstage] at h
      exact selectionKey_eq h
    | authMode =>
      rw [hstage] at h
      exact selectionKey_eq h
    | challenge =>
      simp only [hstage] at h ⊢
      split at h
      · rename_i hbutton
        rw [if_pos hbutton]
        exact (Option.some.inj h).symm
      · cases h
    | none => rw [hstage] at h; cases h
    | other b => rw [hstage] at h; cases h
  · rw [if_neg hactive] at h
    cases h

theorem selectUp_veil (isBroker : Bool) (s : SwaylockState) (pw : SwaylockPassword) :
    selectUp isBroker (s.veil pw) = (selectUp isBroker s).veil pw := by
  cases isBroker with
  | true =>
    show (if 0 < s.authdSelBroker then _ else _) = SwaylockState.veil (if _ then _ else _) pw
    split <;> rfl
  | false =>
    show (if 0 < s.authdSelAuthMode then _ else _) = SwaylockState.veil (if _ then _ else _) pw
    split <;> rfl

theorem selectDown_veil (isBroker : Bool) (s : SwaylockState) (pw : SwaylockPassword) :
    selectDown isBroker (s.veil pw) = (selectDown isBroker s).veil pw := by
  cases isBroker with
  | true =>
    show (if s.authdSelBroker < s.authdNumBrokers - 1 then _ else _) =
      SwaylockState.veil (if _ then _ else _) pw
    split <;> rfl
  | false =>
    show (if s.authdSelAuthMode < s.authdNumAuthModes - 1 then _ else _) =
      SwaylockState.veil (if _ then _ else _) pw
    split <;> rfl

theorem authdAfter_veil (s : SwaylockState) (keysym : Keysym) (pw : SwaylockPassword) :
    authdAfter (s.veil pw) keysym = (authdAfter s keysym).veil pw := by
  have hselect : ∀ isBroker,
      selectionAfter isBroker (s.veil pw) keysym = (selectionAfter isBroker s keysym).veil pw := by
    intro isBroker
    cases keysym with
    | Up => exact congrArg damageState (selectUp_veil isBroker s pw)
    | Down => exact congrArg damageState (selectDown_veil isBroker s pw)
    | _ => rfl
  unfold authdAfter
  rw [show (s.veil pw).authdStage = s.authdStage from rfl]
  cases s.authdStage with
  | broker => exact hselect true
  | authMode => exact hselect false
  | _ => rfl

theorem authdAfter_password (s : SwaylockState) (keysym : Keysym) :
    (authdAfter s keysym).password = s.password := by
  have hselect : ∀ isBroker, (selectionAfter isBroker s keysym).password = s.password := by
    intro isBroker
    cases keysym with
    | Up => exact (navigates_selectUp isBroker s).keep _ (by intros; rfl)
    | Down => exact (navigates_selectDown isBroker s).keep _ (by intros; rfl)
    | _ => rfl
  unfold authdAfter
  cases s.authdStage with
  | broker => exact hselect true
  | authMode => exact hselect false
  | _ => rfl

theorem veiled_authdHandleKey (hlen : SameLength s.password pw) (hd : Disguised p.data data)
    {keysym : Keysym} {r r' : Outcome SwaylockState}
    (h : authdHandleKey env s p keysym = some r)
    (h' : authdHandleKey { env with writes := ws } (s.veil pw) (p.veil data) keysym = some r') :
    VeiledOutcome r r' := by
  rw [authdHandleKey_eq h, authdHandleKey_eq h', authdAfter_veil,
    show authdMessage (s.veil pw) keysym = authdMessage s keysym from rfl]
  rw [← authdAfter_password s keysym] at hlen
  cases authdMessage s keysym with
  | none => exact .running hlen hd
  | some m => exact veiled_sendKey hlen hd m.type m.payload m.len

/-! ## Keys that submit or edit -/

variable (env ws) in
/-- Two passwords are sent, or neither. -/
theorem veiled_writeCommPassword {qw : SwaylockPassword} (hlen : SameLength qw pw)
    (hd : Disguised p.data data) :
    (writeCommPassword env qw p = .killed ∧
      writeCommPassword { env with writes := ws } pw (p.veil data) = .killed) ∨
    writeCommPassword env qw p = .blocked ∨
    writeCommPassword { env with writes := ws } pw (p.veil data) = .blocked ∨
    ∃ ok sent sent', Disguised sent sent' ∧
      writeCommPassword env qw p = .running (ok, clearPasswordBuffer qw) (p.veil sent) ∧
      writeCommPassword { env with writes := ws } pw (p.veil data) =
        .running (ok, clearPasswordBuffer pw) (p.veil sent') := by
  unfold writeCommPassword
  by_cases hsecret : env.secret = true
  · rw [if_pos hsecret, if_pos (show ({ env with writes := ws } : Env).secret = true from hsecret)]
    rcases veiled_commMainWrite data COMM_MSG_PASSWORD (some (qw.buffer.take (qw.len + 1)))
        (some (pw.buffer.take (pw.len + 1))) (qw.len + 1) (pw.len + 1) with
      ⟨h, h'⟩ | h | h' | ⟨h, h'⟩
    · rw [h, h']
      exact Or.inl ⟨rfl, rfl⟩
    · rw [h]
      exact Or.inr (Or.inl rfl)
    · rw [h']
      exact Or.inr (Or.inr (Or.inl rfl))
    · rw [h, h']
      exact Or.inr (Or.inr (Or.inr ⟨true, _, _, hd.passwordBytes hlen, rfl, rfl⟩))
  · rw [if_neg hsecret,
      if_neg (show ¬ ({ env with writes := ws } : Env).secret = true from hsecret)]
    exact Or.inr (Or.inr (Or.inr ⟨false, p.data, data, hd, rfl, rfl⟩))

theorem veiled_submitPassword (hlen : SameLength s.password pw) (hd : Disguised p.data data) :
    VeiledOutcome (submitPassword env s p)
      (submitPassword { env with writes := ws } (s.veil pw) (p.veil data)) := by
  have hempty := hlen.len_eq_zero
  unfold submitPassword
  by_cases h1 : s.args.ignoreEmpty = true ∧ s.password.len = 0
  · have h1' : (s.veil pw).args.ignoreEmpty = true ∧ (s.veil pw).password.len = 0 :=
      ⟨h1.1, hempty.mpr h1.2⟩
    rw [if_pos h1, if_pos h1']
    exact .running hlen hd
  have h1' : ¬ ((s.veil pw).args.ignoreEmpty = true ∧ (s.veil pw).password.len = 0) :=
    fun h => h1 ⟨h.1, hempty.mp h.2⟩
  rw [if_neg h1, if_neg h1']
  by_cases h2 : s.authState = .validating
  · rw [if_pos h2, if_pos (show (s.veil pw).authState = .validating from h2)]
    exact .running hlen hd
  rw [if_neg h2, if_neg (show ¬ (s.veil pw).authState = .validating from h2)]
  simp only [cancelInputIdle, cancelPasswordClear, SwaylockState.veil]
  rcases veiled_writeCommPassword env ws hlen hd with
    ⟨h, h'⟩ | h | h' | ⟨ok, sent, sent', hsent, h, h'⟩
  · rw [h, h']
    exact .killed
  · rw [h]
    exact .blockedLeft
  · rw [h']
    exact .blockedRight
  · rw [h, h']
    cases ok with
    | true =>
      exact @VeiledOutcome.running (submitted s) (p.veil sent) (clearPasswordBuffer pw) sent'
        hlen.clear hsent
    | false =>
      exact @VeiledOutcome.running (submitFailed env s) (p.veil sent) (clearPasswordBuffer pw) sent'
        hlen.clear hsent

/-- A character is left after `Backspace`. -/
def StillTyped (pw : SwaylockPassword) : Prop := (backspace pw).1 = true ∧ (backspace pw).2.len ≠ 0

theorem backspaceKey_stillTyped (h : StillTyped s.password) :
    backspaceKey env s = damageState (scheduleInputIdle env (updateHighlight env
      (schedulePasswordClear env
        { s with password := (backspace s.password).2, inputState := .backspace }))) := by
  unfold backspaceKey
  exact congrArg (fun t => damageState (scheduleInputIdle env t)) (if_pos h)

theorem backspaceKey_empties (h : ¬ StillTyped s.password) :
    backspaceKey env s = damageState (scheduleInputIdle env (cancelPasswordClear
      { s with password := (backspace s.password).2, inputState := .clear })) := by
  unfold backspaceKey
  exact congrArg (fun t => damageState (scheduleInputIdle env t)) (if_neg h)

variable (env ws) in
/-- An edit that types no character. -/
theorem veiled_edit (hlen : SameLength s.password pw) {a : KeyAction} (hsubmit : a ≠ .submit)
    (htext : a ≠ .text) (c d : UInt32) :
    ∃ qw, SameLength (a.edit env s c).password qw ∧
      a.edit { env with writes := ws } (s.veil pw) d = (a.edit env s c).veil qw := by
  cases a with
  | submit => exact absurd rfl hsubmit
  | text => exact absurd rfl htext
  | clear => exact ⟨clearPasswordBuffer pw, hlen.clear, rfl⟩
  | neutral => exact ⟨pw, hlen, rfl⟩
  | erase =>
    obtain ⟨hsome, hback⟩ := hlen.backspace
    have hiff : StillTyped pw ↔ StillTyped s.password := by
      rw [StillTyped, StillTyped, hsome, ne_eq, ne_eq, hback.len_eq_zero]
    show ∃ qw, SameLength (backspaceKey env s).password qw ∧
      backspaceKey { env with writes := ws } (s.veil pw) = (backspaceKey env s).veil qw
    by_cases hleft : StillTyped s.password
    · rw [backspaceKey_stillTyped hleft, backspaceKey_stillTyped (s := s.veil pw) (hiff.mpr hleft)]
      exact ⟨(backspace pw).2, hback, rfl⟩
    · rw [backspaceKey_empties hleft, backspaceKey_empties (s := s.veil pw) (mt hiff.mp hleft)]
      exact ⟨(backspace pw).2, hback, rfl⟩

theorem textKey_veil {c d : UInt32} (hc : c ≠ 0) (hd : d ≠ 0) :
    textKey { env with writes := ws } (s.veil pw) d = (textKey env s c).veil (appendCh pw d) := by
  unfold textKey
  rw [if_pos hc, if_pos hd]
  rfl

theorem textKey_password {c : UInt32} (hc : c ≠ 0) :
    (textKey env s c).password = appendCh s.password c := by
  unfold textKey
  rw [if_pos hc]
  rfl

end Keys

/-! ## What is seen of a key -/

/-- The key types a character. -/
def Types (s : SwaylockState) (keysym : Keysym) (codepoint : UInt32) : Prop :=
  ¬ Intercepts s keysym ∧ keysym.action s.xkb.control = .text ∧ codepoint ≠ 0

instance (s : SwaylockState) (keysym : Keysym) (codepoint : UInt32) :
    Decidable (Types s keysym codepoint) := inferInstanceAs (Decidable (_ ∧ _))

/-- What is seen of a key: that it types a character, and whether there is room for it; or which
key it is. -/
inductive KeyGlimpse
  | typed (env : Env) (fits : Bool)
  | named (env : Env) (keysym : Keysym)

def glimpseKey (env : Env) (s : SwaylockState) (keysym : Keysym) (codepoint : UInt32) :
    KeyGlimpse :=
  if Types s keysym codepoint then
    .typed env.unsplit (decide (Room s.password codepoint))
  else .named env.unsplit keysym

theorem handleKey_types {env : Env} {s : SwaylockState} {keysym : Keysym} {codepoint : UInt32}
    (h : Types s keysym codepoint) (p : Pipe) :
    swaylockHandleKey env s p keysym codepoint = .running (textKey env s codepoint) p := by
  obtain ⟨hpass, haction, -⟩ := h
  rw [swaylockHandleKey, (authdHandleKey_eq_none env s p keysym).mpr hpass]
  simp only [passwordHandleKey_eq, haction]
  rfl

/-- **Two keys that look the same do the same**, but for the characters of the passwords. -/
theorem veiled_handleKey {env env' : Env} {s : SwaylockState} {p : Pipe} {pw : SwaylockPassword}
    {data : List UInt8} {keysym keysym' : Keysym} {c d : UInt32} (hlen : SameLength s.password pw)
    (hstream : Disguised p.data data) (hc : c.toNat ≤ 0x10FFFF) (hd : d.toNat ≤ 0x10FFFF)
    (hsee : glimpseKey env s keysym c = glimpseKey env' (s.veil pw) keysym' d) :
    VeiledOutcome (swaylockHandleKey env s p keysym c)
      (swaylockHandleKey env' (s.veil pw) (p.veil data) keysym' d) := by
  unfold glimpseKey at hsee
  by_cases ht : Types s keysym c
  · rw [if_pos ht] at hsee
    by_cases ht' : Types (s.veil pw) keysym' d
    · rw [if_pos ht'] at hsee
      obtain ⟨henv, hroom⟩ := KeyGlimpse.typed.inj hsee
      rw [eq_of_unsplit henv, handleKey_types ht, handleKey_types ht', textKey_veil ht.2.2 ht'.2.2]
      refine .running ?_ hstream
      rw [textKey_password ht.2.2]
      exact hlen.appendCh ⟨ht.2.2, hc⟩ ⟨ht'.2.2, hd⟩ (decide_eq_decide.mp hroom)
    · rw [if_neg ht'] at hsee
      cases hsee
  · rw [if_neg ht] at hsee
    by_cases ht' : Types (s.veil pw) keysym' d
    · rw [if_pos ht'] at hsee
      cases hsee
    rw [if_neg ht'] at hsee
    obtain ⟨henv, rfl⟩ := KeyGlimpse.named.inj hsee
    rw [eq_of_unsplit henv]
    by_cases hi : Intercepts s keysym
    · have hi' : Intercepts (s.veil pw) keysym := hi
      obtain ⟨r, hr⟩ := Option.ne_none_iff_exists'.mp
        (mt (authdHandleKey_eq_none env s p keysym).mp (not_not.mpr hi))
      obtain ⟨r', hr'⟩ := Option.ne_none_iff_exists'.mp
        (mt (authdHandleKey_eq_none { env with writes := env'.writes } (s.veil pw) (p.veil data)
          keysym).mp (not_not.mpr hi'))
      rw [swaylockHandleKey, hr, swaylockHandleKey, hr']
      exact veiled_authdHandleKey hlen hstream hr hr'
    · have hi' : ¬ Intercepts (s.veil pw) keysym := hi
      rw [swaylockHandleKey, (authdHandleKey_eq_none env s p keysym).mpr hi, swaylockHandleKey,
        (authdHandleKey_eq_none _ (s.veil pw) (p.veil data) keysym).mpr hi']
      simp only [passwordHandleKey_eq]
      rw [show (s.veil pw).xkb.control = s.xkb.control from rfl]
      by_cases hsubmit : keysym.action s.xkb.control = .submit
      · rw [if_pos hsubmit, if_pos hsubmit]
        exact veiled_submitPassword hlen hstream
      rw [if_neg hsubmit, if_neg hsubmit]
      by_cases htext : keysym.action s.xkb.control = .text
      · obtain rfl : c = 0 := by
          by_contra hne
          exact ht ⟨hi, htext, hne⟩
        obtain rfl : d = 0 := by
          by_contra hne
          exact ht' ⟨hi', htext, hne⟩
        rw [htext]
        exact .running hlen hstream
      · obtain ⟨qw, hqw, heq⟩ := veiled_edit env env'.writes hlen hsubmit htext c d
        rw [heq]
        exact .running hqw hstream

/-! ## The other steps of the main process -/

/-- The main process with another password and another stream to the child. -/
def MainSide.veil (m : MainSide) (pw : SwaylockPassword) (data : List UInt8) : MainSide :=
  { m with state := m.state.veil pw, toChild := m.toChild.veil data }

/-- Two main processes that differ at most in the characters of the passwords. -/
inductive Veiled (m : MainSide) : MainSide → Prop
  | veil {pw : SwaylockPassword} {data : List UInt8} (length : SameLength m.state.password pw)
      (stream : Disguised m.toChild.data data) : Veiled m (m.veil pw data)

section Main

variable (parse : CString → Option Json) (s : SwaylockState) (pw : SwaylockPassword)

theorem keyboardModifiers_veil (layoutSame capsLock control : Bool) :
    keyboardModifiers layoutSame capsLock control (s.veil pw) =
      (keyboardModifiers layoutSame capsLock control s).veil pw := by
  unfold keyboardModifiers
  by_cases hcaps : capsLock ≠ s.xkb.capsLock ∨ ¬ layoutSame
  · rw [if_pos hcaps, if_pos (show capsLock ≠ (s.veil pw).xkb.capsLock ∨ ¬ layoutSame from hcaps)]
    rfl
  · rw [if_neg hcaps,
      if_neg (show ¬ (capsLock ≠ (s.veil pw).xkb.capsLock ∨ ¬ layoutSame) from hcaps)]
    rfl

theorem commInSwitch_veil (env : Env) (type : Int) (payload : Option (List UInt8)) (len : Nat) :
    commInSwitch parse env (s.veil pw) type payload len =
      (commInSwitch parse env s type payload len).veil pw := by
  have hresult : commInAuthResult env (s.veil pw) payload len =
      (commInAuthResult env s payload len).veil pw := by
    unfold commInAuthResult
    split <;> rfl
  have hbrokers : commInBrokers parse env (s.veil pw) payload =
      (commInBrokers parse env s payload).veil pw := by
    unfold commInBrokers
    dsimp only
    split
    · split <;> rfl
    · rfl
  have hmodes : commInAuthModes parse env (s.veil pw) payload =
      (commInAuthModes parse env s payload).veil pw := by
    unfold commInAuthModes
    dsimp only
    split
    · split <;> rfl
    · rfl
  have hstage : commInStage env (s.veil pw) payload len =
      (commInStage env s payload len).veil pw := by
    unfold commInStage
    dsimp only
    by_cases hpos : 1 ≤ len
    · rw [if_pos hpos, if_pos hpos]
      by_cases hv : s.authState = .validating
      · rw [if_pos hv, if_pos (show (s.veil pw).authState = .validating from hv)]
        rfl
      · rw [if_neg hv, if_neg (show ¬ (s.veil pw).authState = .validating from hv)]
        rfl
    · rw [if_neg hpos, if_neg hpos]
  unfold commInSwitch
  split
  · exact hresult
  split
  · exact hbrokers
  split
  · exact hmodes
  split
  · rfl
  split
  · exact hstage
  split
  · rfl
  · rfl

variable {s pw}

/-- A timer that fires may clear both passwords. -/
theorem veiled_visitTimer (hlen : SameLength s.password pw) (env : Env) (now : Timespec)
    (addr : Nat) :
    ∃ qw, SameLength (visitTimer env now addr s).password qw ∧
      visitTimer env now addr (s.veil pw) = (visitTimer env now addr s).veil qw := by
  cases hdue : s.eventloop.due now addr with
  | some callback =>
    rw [visitTimer_due hdue, visitTimer_due (s := s.veil pw) hdue]
    cases callback with
    | setInputIdle => exact ⟨pw, hlen, rfl⟩
    | setAuthIdle => exact ⟨pw, hlen, rfl⟩
    | clearPassword => exact ⟨clearPasswordBuffer pw, hlen.clear, rfl⟩
  | none =>
    have hdue' : (s.veil pw).eventloop.due now addr = none := hdue
    unfold visitTimer
    rw [hdue, hdue']
    by_cases hstale : s.eventloop.stale addr = true
    · rw [if_pos hstale, if_pos (show (s.veil pw).eventloop.stale addr = true from hstale)]
      exact ⟨pw, hlen, rfl⟩
    · rw [if_neg hstale, if_neg (show ¬ (s.veil pw).eventloop.stale addr = true from hstale)]
      exact ⟨pw, hlen, rfl⟩

/-- `comm_in` ends the same way, with the other password in the state. -/
inductive VeiledReply (pw : SwaylockPassword) : CommIn → CommIn → Prop
  | running (t : SwaylockState) (p : Pipe) :
      VeiledReply pw (.running t p) (.running (t.veil pw) p)
  | exited : VeiledReply pw .exited .exited
  | blocked : VeiledReply pw .blocked .blocked

theorem commIn_veil (s : SwaylockState) (pw : SwaylockPassword) (env : Env) (mask : Revents)
    (toMain : Pipe) :
    VeiledReply pw (commIn parse env mask s toMain)
      (commIn parse env mask (s.veil pw) toMain) := by
  unfold commIn
  split
  · exact .exited
  split
  · split
    · exact .exited
    · exact .running s toMain
  cases commRead env.payload env.reads toMain with
  | none => exact .blocked
  | some r =>
    dsimp only
    rw [commInSwitch_veil]
    split
    · exact .exited
    · exact .running _ r.pipe

variable (debugUnlock : Bool) (m : MainSide) (pw) (data : List UInt8)

theorem mainLoop_reply_veil (env : Env) :
    mainLoop debugUnlock parse (.reply env) (m.veil pw data) =
      (mainLoop debugUnlock parse (.reply env) m).map fun n => n.veil pw data := by
  obtain ⟨s, phase, sigusr, toChild, toMain⟩ := m
  cases phase with
  | reply mask term =>
    have hreply := commIn_veil parse s pw env mask toMain
    simp only [mainLoop, MainSide.veil]
    generalize commIn parse env mask s toMain = r at hreply ⊢
    generalize commIn parse env mask (s.veil pw) toMain = r' at hreply ⊢
    cases hreply <;> rfl
  | _ => rfl

/-- A step that is neither a key nor a timer does not look at the password. -/
theorem mainLoop_veil {a : MainAction} (hkey : ∀ env k c, a ≠ .key env k c)
    (htimer : ∀ env, a ≠ .timer env) :
    mainLoop debugUnlock parse a (m.veil pw data) =
      (mainLoop debugUnlock parse a m).map fun n => n.veil pw data := by
  cases a with
  | key env keysym codepoint => exact absurd rfl (hkey env keysym codepoint)
  | timer env => exact absurd rfl (htimer env)
  | reply env => exact mainLoop_reply_veil parse pw debugUnlock m data env
  | modifiers layoutSame capsLock control =>
    obtain ⟨s, phase, sigusr, toChild, toMain⟩ := m
    simp only [mainLoop, MainSide.veil, keyboardModifiers_veil]
    split <;> rfl
  | dispatched ok =>
    obtain ⟨s, phase, sigusr, toChild, toMain⟩ := m
    cases phase <;> cases ok <;> rfl
  | displayExits =>
    obtain ⟨s, phase, sigusr, toChild, toMain⟩ := m
    cases phase <;> rfl
  | term =>
    obtain ⟨s, phase, sigusr, toChild, toMain⟩ := m
    cases phase with
    | term term => cases term <;> rfl
    | _ => rfl
  | _ =>
    obtain ⟨s, phase, sigusr, toChild, toMain⟩ := m
    simp only [mainLoop, apply_ite (Option.map fun n : MainSide => n.veil pw data),
      Option.map_some, Option.map_none]
    rfl

variable {parse debugUnlock m}

/-- Such a step leaves the password and the stream alone. -/
theorem kept_mainLoop {a : MainAction} {n : MainSide} (hkey : ∀ env k c, a ≠ .key env k c)
    (htimer : ∀ env, a ≠ .timer env) (h : mainLoop debugUnlock parse a m = some n) :
    n.state.password = m.state.password ∧ n.toChild = m.toChild := by
  cases mainLoop_cases debugUnlock parse h with
  | @key env keysym codepoint => exact absurd rfl (hkey env keysym codepoint)
  | @timer now addr todo env => exact absurd rfl (htimer env)
  | modifiers _ keep => exact ⟨keep.keep _ (by intros; rfl), rfl⟩
  | frame _ _ _ _ _ step => exact ⟨step.password, rfl⟩
  | _ => exact ⟨rfl, rfl⟩

end Main

/-! ## What is seen of a run -/

/-- What happens to the locker: a step of its own or of the compositor, bytes of the child, or
its end. -/
inductive LockerAction
  | screen (a : ScreenAction)
  | arrives (bytes : List UInt8)
  | childGone

/-- The code point of a key is one. -/
def LockerAction.Typed : LockerAction → Prop
  | .screen (.main (.key _ _ codepoint) _) => codepoint.toNat ≤ 0x10FFFF
  | _ => True

/-- A step among people who look at the screen: of a key they see what `KeyGlimpse` says, of
everything else all there is. -/
inductive Glimpse
  | key (k : KeyGlimpse) (env : RenderEnv)
  | other (a : LockerAction)

def glimpse (a : LockerAction) (s : Screen) : Glimpse :=
  match a with
  | .screen (.main (.key env keysym codepoint) renv) =>
    .key (glimpseKey env s.main.state keysym codepoint) renv
  | a => .other a

/-- The step is a key. -/
def LockerAction.IsKey (a : LockerAction) : Prop :=
  ∃ env keysym codepoint renv, a = .screen (.main (.key env keysym codepoint) renv)

theorem glimpse_of_not_isKey {a : LockerAction} (h : ¬ a.IsKey) (s : Screen) :
    glimpse a s = .other a := by
  unfold glimpse
  split
  · exact absurd ⟨_, _, _, _, rfl⟩ h
  · rfl

section Runs

variable (debugUnlock : Bool) (parse : CString → Option Json)

def lockerStep : LockerAction → Screen → Option Screen
  | .screen a, s => screenStep debugUnlock parse a s
  | .arrives bytes, s =>
    if s.main.toMain.writer then
      some { s with main.toMain.data := s.main.toMain.data ++ bytes }
    else none
  | .childGone, s => some { s with main.toChild.reader := false, main.toMain.writer := false }

/-- The same screen in front of two such processes. -/
structure SameScreen (s t : Screen) : Prop where
  main : Veiled s.main t.main
  surface : t.surface = s.surface

variable {debugUnlock parse}

theorem veiled_key {env env' : Env} {keysym keysym' : Keysym} {c d : UInt32}
    {m n m' n' : MainSide} (hR : Veiled m n) (hc : c.toNat ≤ 0x10FFFF) (hd : d.toNat ≤ 0x10FFFF)
    (hsee : glimpseKey env m.state keysym c = glimpseKey env' n.state keysym' d)
    (h : mainLoop debugUnlock parse (.key env keysym c) m = some m')
    (h' : mainLoop debugUnlock parse (.key env' keysym' d) n = some n') : Veiled m' n' := by
  cases hR with
  | @veil pw data hlen hstream =>
    have hk := veiled_handleKey hlen hstream hc hd hsee
    rw [mainLoop] at h h'
    by_cases hphase : m.phase.handlesKeys = true
    · rw [if_pos hphase] at h
      rw [if_pos (show (m.veil pw data).phase.handlesKeys = true from hphase)] at h'
      dsimp only [MainSide.veil] at h'
      generalize swaylockHandleKey env m.state m.toChild keysym c = r at hk h
      generalize swaylockHandleKey env' (m.state.veil pw) (m.toChild.veil data) keysym' d = r'
        at hk h'
      cases hk with
      | @running s p qw sent hlen hsent =>
        cases h
        cases h'
        exact @Veiled.veil { m with state := s, toChild := p } qw sent hlen hsent
      | killed =>
        cases h
        cases h'
        exact @Veiled.veil { m with phase := .killed } pw data hlen hstream
      | blockedLeft => cases h
      | blockedRight => cases h'
    · rw [if_neg hphase] at h
      cases h

theorem veiled_mainLoop {a : MainAction} {m n m' n' : MainSide} (hR : Veiled m n)
    (hkey : ∀ env k c, a ≠ .key env k c) (h : mainLoop debugUnlock parse a m = some m')
    (h' : mainLoop debugUnlock parse a n = some n') : Veiled m' n' := by
  cases hR with
  | @veil pw data hlen hstream =>
    by_cases htimer : ∃ env, a = .timer env
    · obtain ⟨env, rfl⟩ := htimer
      obtain ⟨s, phase, sigusr, toChild, toMain⟩ := m
      cases phase with
      | timers now todo =>
        cases todo with
        | nil =>
          cases h
          cases h'
          exact .veil hlen hstream
        | cons addr todo =>
          cases h
          cases h'
          obtain ⟨qw, hqw, heq⟩ := veiled_visitTimer hlen env now addr
          dsimp only [MainSide.veil]
          rw [heq]
          exact @Veiled.veil _ qw data hqw hstream
      | _ => cases h
    · have htimer' : ∀ env, a ≠ .timer env := fun env he => htimer ⟨env, he⟩
      rw [mainLoop_veil parse pw debugUnlock m data hkey htimer', h] at h'
      obtain ⟨hpw, hchild⟩ := kept_mainLoop hkey htimer' h
      cases h'
      rw [← hpw] at hlen
      rw [← hchild] at hstream
      exact .veil hlen hstream

/-- What is drawn, and what tells that it has to be drawn, is the same. -/
theorem Veiled.events {m n m' n' : MainSide} (hR : Veiled m n) (hR' : Veiled m' n')
    (a b : MainAction) (env : RenderEnv) :
    (ScreenAction.main a env).events n.state n'.state =
      (ScreenAction.main b env).events m.state m'.state := by
  cases hR with
  | veil => cases hR' with
    | veil => rfl

theorem sameScreen_main {a b : MainAction} {env : RenderEnv} {s s' t t' : Screen}
    (hR : SameScreen s s')
    (hmain : ∀ m m', mainLoop debugUnlock parse a s.main = some m →
      mainLoop debugUnlock parse b s'.main = some m' → Veiled m m')
    (h : screenStep debugUnlock parse (.main a env) s = some t)
    (h' : screenStep debugUnlock parse (.main b env) s' = some t') : SameScreen t t' := by
  obtain ⟨m, hm, h⟩ := Option.bind_eq_some_iff.mp h
  obtain ⟨m', hm', h'⟩ := Option.bind_eq_some_iff.mp h'
  have hveiled := hmain m m' hm hm'
  rw [hR.surface, hR.main.events hveiled b a env] at h'
  obtain ⟨x, hx, rfl⟩ := Option.map_eq_some_iff.mp h
  obtain ⟨x', hx', rfl⟩ := Option.map_eq_some_iff.mp h'
  exact ⟨hveiled, Option.some.inj (hx'.symm.trans hx)⟩

/-- **A step that looks the same** leaves the same screen in front of two such processes. -/
theorem sameScreen_step {a b : LockerAction} {s s' t t' : Screen} (hR : SameScreen s s')
    (ha : a.Typed) (hb : b.Typed) (hsee : glimpse a s = glimpse b s')
    (h : lockerStep debugUnlock parse a s = some t)
    (h' : lockerStep debugUnlock parse b s' = some t') : SameScreen t t' := by
  by_cases hkey : a.IsKey
  · obtain ⟨env, k, c, renv, rfl⟩ := hkey
    by_cases hkey' : b.IsKey
    · obtain ⟨env', k', d, renv', rfl⟩ := hkey'
      obtain ⟨hk, rfl⟩ := Glimpse.key.inj hsee
      exact sameScreen_main hR (fun m m' hm hm' => veiled_key hR.main ha hb hk hm hm') h h'
    · rw [glimpse_of_not_isKey hkey'] at hsee
      cases hsee
  · obtain rfl : a = b := by
      rw [glimpse_of_not_isKey hkey] at hsee
      by_cases hkey' : b.IsKey
      · obtain ⟨env', k', d, renv', rfl⟩ := hkey'
        cases hsee
      · rw [glimpse_of_not_isKey hkey'] at hsee
        exact Glimpse.other.inj hsee
    cases a with
    | screen a =>
      cases a with
      | main a renv =>
        refine sameScreen_main hR (fun m m' hm hm' => veiled_mainLoop hR.main ?_ hm hm') h h'
        rintro env k c rfl
        exact hkey ⟨_, _, _, _, rfl⟩
      | _ =>
        simp only [lockerStep, screenStep, ScreenAction.mainAfter, Option.bind_some,
          ScreenAction.events] at h h'
        rw [hR.surface] at h'
        obtain ⟨x, hx, rfl⟩ := Option.map_eq_some_iff.mp h
        obtain ⟨x', hx', rfl⟩ := Option.map_eq_some_iff.mp h'
        exact ⟨hR.main, Option.some.inj (hx'.symm.trans hx)⟩
    | arrives bytes =>
      obtain ⟨main, surface⟩ := s
      obtain ⟨main', surface'⟩ := s'
      have hmain : Veiled main main' := hR.main
      obtain rfl : surface' = surface := hR.surface
      clear hR
      cases hmain with
      | @veil pw data hlen hstream =>
        rw [lockerStep] at h h'
        by_cases hwriter : main.toMain.writer = true
        · rw [if_pos hwriter] at h
          rw [if_pos (show (main.veil pw data).toMain.writer = true from hwriter)] at h'
          cases h
          cases h'
          exact ⟨@Veiled.veil _ pw data hlen hstream, rfl⟩
        · rw [if_neg hwriter] at h
          cases h
    | childGone =>
      obtain ⟨main, surface⟩ := s
      obtain ⟨main', surface'⟩ := s'
      have hmain : Veiled main main' := hR.main
      obtain rfl : surface' = surface := hR.surface
      clear hR
      cases hmain with
      | @veil pw data hlen hstream =>
        cases h
        cases h'
        exact ⟨@Veiled.veil _ pw data hlen hstream, rfl⟩

/-- Every step is seen. -/
theorem unwinds_sameScreen :
    Unwinds (lockerStep debugUnlock parse) (fun a s => some (glimpse a s)) (fun a _ => a.Typed)
      SameScreen where
  left := fun _ _ ho _ => by cases ho
  right := fun _ _ ho _ => by cases ho
  both := fun hR ha hb hsee hsee' h h' =>
    sameScreen_step hR ha hb (Option.some.inj (hsee.trans hsee'.symm)) h h'

/-- **The screen tells of a password only how many characters it has.**  Two runs of the locker
that look the same to people who see every event, and of a key that types only that it does and
whether there was room, end with the same surface in front of processes that differ at most in
the characters typed and in what the password frames carried. -/
theorem secret_hidden {as bs : List LockerAction} {s s' t t' : Screen} (hR : SameScreen s s')
    (has : ∀ a ∈ as, a.Typed) (hbs : ∀ b ∈ bs, b.Typed)
    (h : run (lockerStep debugUnlock parse) as s = some t)
    (h' : run (lockerStep debugUnlock parse) bs s' = some t')
    (hsee : trace (lockerStep debugUnlock parse) (fun a s => some (glimpse a s)) as s =
      trace (lockerStep debugUnlock parse) (fun a s => some (glimpse a s)) bs s') :
    Veiled t.main t'.main ∧ t'.surface = t.surface ∧
      ∀ env args buffer,
        renderFrame env args t'.main.state buffer = renderFrame env args t.main.state buffer := by
  have hsame : SameScreen t t' :=
    unwinds_sameScreen.run hR (along_of_mem (fun a ha _ => has a ha) s)
      (along_of_mem (fun b hb _ => hbs b hb) s') h h' hsee
  refine ⟨hsame.main, hsame.surface, fun env args buffer => ?_⟩
  have hmain := hsame.main
  generalize t'.main = m' at hmain ⊢
  cases hmain with
  | veil => rfl

end Runs

/-- A character is typed and sent. -/
def typedRun (codepoint : UInt32) : List LockerAction :=
  [.screen (.configure {} 4 4), .screen (.main (.key {} (.other codepoint) codepoint) {}),
    .screen (.frameDone {}),
    .screen (.main (.key { writes := List.replicate 3 (.short 7) } .Return 0x0D) {})]

/-- An empty password with room. -/
def roomyScreen : Screen where
  main := { state := .start {} (List.replicate 8 0) }
  surface :=
    { state := drawnState (.start {} (List.replicate 8 0)), runDisplay := true, scale := 1 }

set_option maxRecDepth 10000 in
/-- An `a`, or an `é`: different frames for the child, one screen. -/
theorem secret_hidden_typed :
    ∃ t t', run (lockerStep false fun _ => none) (typedRun 0x61) roomyScreen = some t ∧
      run (lockerStep false fun _ => none) (typedRun 0xE9) roomyScreen = some t' ∧
      t.main.toChild.data ≠ t'.main.toChild.data ∧ t'.surface = t.surface := by
  have hR : SameScreen roomyScreen roomyScreen :=
    ⟨@Veiled.veil roomyScreen.main roomyScreen.main.state.password []
      ⟨[], [], holds_initial (by decide), holds_initial (by decide), rfl⟩ (.refl []), rfl⟩
  have htyped : ∀ c : UInt32, c.toNat ≤ 0x10FFFF → ∀ a ∈ typedRun c, a.Typed := by
    intro c hc a ha
    simp only [typedRun, List.mem_cons, List.not_mem_nil, or_false] at ha
    rcases ha with rfl | rfl | rfl | rfl
    · trivial
    · exact hc
    · trivial
    · exact (by decide : (0x0D : UInt32).toNat ≤ 0x10FFFF)
  obtain ⟨t, ht⟩ : ∃ t, run (lockerStep false fun _ => none) (typedRun 0x61) roomyScreen = some t :=
    ⟨_, rfl⟩
  obtain ⟨t', ht'⟩ : ∃ t', run (lockerStep false fun _ => none) (typedRun 0xE9) roomyScreen =
    some t' := ⟨_, rfl⟩
  refine ⟨t, t', ht, ht', ?_, ?_⟩
  · cases ht
    cases ht'
    decide
  · exact (secret_hidden hR (htyped 0x61 (by decide)) (htyped 0xE9 (by decide)) ht ht' rfl).2.1

end SwaylockAuthd
