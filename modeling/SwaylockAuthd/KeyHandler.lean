import SwaylockAuthd.Comm.RoundTrip
import SwaylockAuthd.Password

/-!
# What one key does

* `commMainWrite_cases`: a write kills the process, does not return, or appends one frame.
* `passwordHandleKey_eq`: the 24 keysyms of the switch come down to five actions.
* `handleKey_cases`: a key moves a selection, sends a message of a selection
  stage, submits, or edits; everything later about keys is read off these four cases.
* `SubmitStep`, `PasswordKey`: what a submission, or a key outside the selection stages,
  leaves when it returns.
* `Edits`, `Navigates`: the fields an edit, or a selection key, may change.
-/

namespace SwaylockAuthd

/-! ## Writing -/

/-- **A write to the child** returns `false` only without a reader, and then the
process does not live to see it. -/
theorem commMainWrite_cases (env : Env) (p : Pipe) (type : UInt8) (payload : Option (List UInt8))
    (len : Nat) :
    (p.reader = false ∧ commMainWrite env p type payload len = .killed) ∨
    (p.reader = true ∧ commMainWrite env p type payload len = .blocked) ∨
    (p.reader = true ∧ commMainWrite env p type payload len =
      .running true { p with data := p.data ++ commWriteBytes type payload len }) := by
  unfold commMainWrite
  by_cases hp : p.reader = true
  · rcases commWrite_open (mainDisposition false .SIGPIPE) env.writes type payload len hp with
      ⟨h, -⟩ | ⟨cs, h, -⟩
    · exact Or.inr (Or.inl ⟨hp, by rw [h]⟩)
    · exact Or.inr (Or.inr ⟨hp, by rw [h]⟩)
  · rw [Bool.not_eq_true] at hp
    refine Or.inl ⟨hp, ?_⟩
    rw [commWrite_closed _ _ _ _ _ hp, writeToNobody, mainDisposition_sigpipe, if_pos rfl]

/-- With enough calls that move bytes, a write to a reader returns. -/
theorem commMainWrite_returns {env : Env} {p : Pipe} {type : UInt8} {payload : Option (List UInt8)}
    {len : Nat} (hp : p.reader = true)
    (hw : (commWriteBytes type payload len).length ≤ writeMoves env.writes) :
    commMainWrite env p type payload len =
      .running true { p with data := p.data ++ commWriteBytes type payload len } := by
  unfold commMainWrite
  rcases commWrite_open (mainDisposition false .SIGPIPE) env.writes type payload len hp with
    ⟨-, h⟩ | ⟨cs, h, -⟩
  · omega
  · rw [h]

/-- A key whose write returns. -/
theorem sendKey_running {env : Env} {s t : SwaylockState} {p q : Pipe} {type : UInt8}
    {payload : Option (List UInt8)} {len : Nat}
    (h : sendKey env s p type payload len = .running t q) :
    t = s ∧ p.reader = true ∧ q = { p with data := p.data ++ commWriteBytes type payload len } := by
  rw [sendKey] at h
  rcases commMainWrite_cases env p type payload len with ⟨-, hw⟩ | ⟨-, hw⟩ | ⟨open_, hw⟩
  · rw [hw] at h; cases h
  · rw [hw] at h; cases h
  · rw [hw] at h; cases h; exact ⟨rfl, open_, rfl⟩

/-! ## The actions of the switch -/

/-- What the switch does on a key. -/
inductive KeyAction
  | submit
  | clear
  | erase
  | neutral
  | text
  deriving DecidableEq, Repr

def Keysym.action (control : Bool) : Keysym → KeyAction
  | .KP_Enter | .Return => .submit
  | .Delete | .BackSpace => if control then .clear else .erase
  | .Escape => .clear
  | .Caps_Lock | .Shift_L | .Shift_R | .Control_L | .Control_R | .Meta_L | .Meta_R | .Alt_L
  | .Alt_R | .Super_L | .Super_R => .neutral
  | .m | .d | .j => if control then .submit else .text
  | .c | .u => if control then .clear else .text
  | _ => .text

/-- The state after an action other than a submission. -/
def KeyAction.edit (env : Env) (s : SwaylockState) (codepoint : UInt32) :
    KeyAction → SwaylockState
  | .submit => s
  | .clear => clearKey env s
  | .erase => backspaceKey env s
  | .neutral => neutralKey env s
  | .text => textKey env s codepoint

/-- **The switch submits or edits.** -/
theorem passwordHandleKey_eq (env : Env) (s : SwaylockState) (p : Pipe) (keysym : Keysym)
    (codepoint : UInt32) :
    passwordHandleKey env s p keysym codepoint =
      if keysym.action s.xkb.control = .submit then submitPassword env s p
      else .running ((keysym.action s.xkb.control).edit env s codepoint) p := by
  by_cases hc : s.xkb.control = true
  · cases keysym <;> simp [passwordHandleKey, Keysym.action, KeyAction.edit, hc]
  · cases keysym <;> simp [passwordHandleKey, Keysym.action, KeyAction.edit, hc]

/-! ## What stays -/

/-- `t` differs from `s` at most in the password, the input state, the highlight
and the timers of these. -/
def Edits (s t : SwaylockState) : Prop :=
  t = { s with
    eventloop := t.eventloop, inputIdleTimer := t.inputIdleTimer
    clearPasswordTimer := t.clearPasswordTimer, password := t.password
    inputState := t.inputState, highlightStart := t.highlightStart, damage := t.damage }

/-- `t` differs from `s` at most in the selected entry. -/
def Navigates (s t : SwaylockState) : Prop :=
  t = { s with
    authdSelBroker := t.authdSelBroker, authdSelAuthMode := t.authdSelAuthMode
    damage := t.damage }

theorem Edits.refl (s : SwaylockState) : Edits s s := rfl

theorem Navigates.refl (s : SwaylockState) : Navigates s s := rfl

/-- What does not look at the fields an edit may change. -/
theorem Edits.keep {α : Type} {s t : SwaylockState} (h : Edits s t) (g : SwaylockState → α)
    (hg : ∀ l i c w n k d, g { s with
      eventloop := l, inputIdleTimer := i, clearPasswordTimer := c, password := w
      inputState := n, highlightStart := k, damage := d } = g s) : g t = g s := by
  unfold Edits at h
  exact (congrArg g h).trans (hg _ _ _ _ _ _ _)

theorem Navigates.keep {α : Type} {s t : SwaylockState} (h : Navigates s t)
    (g : SwaylockState → α)
    (hg : ∀ b m d, g { s with authdSelBroker := b, authdSelAuthMode := m, damage := d } = g s) :
    g t = g s := by
  unfold Navigates at h
  exact (congrArg g h).trans (hg _ _ _)

theorem edits_clearKey (env : Env) (s : SwaylockState) : Edits s (clearKey env s) := rfl

theorem edits_neutralKey (env : Env) (s : SwaylockState) : Edits s (neutralKey env s) := rfl

theorem edits_backspaceKey (env : Env) (s : SwaylockState) : Edits s (backspaceKey env s) := by
  unfold backspaceKey
  dsimp only
  split <;> rfl

theorem edits_textKey (env : Env) (s : SwaylockState) (codepoint : UInt32) :
    Edits s (textKey env s codepoint) := by
  unfold textKey
  split <;> rfl

theorem edits_edit (env : Env) (s : SwaylockState) (codepoint : UInt32) (a : KeyAction) :
    Edits s (a.edit env s codepoint) := by
  cases a with
  | submit => exact Edits.refl s
  | clear => exact edits_clearKey env s
  | erase => exact edits_backspaceKey env s
  | neutral => exact edits_neutralKey env s
  | text => exact edits_textKey env s codepoint

theorem navigates_selectUp (isBroker : Bool) (s : SwaylockState) :
    Navigates s (damageState (selectUp isBroker s)) := by
  unfold selectUp
  split <;> split <;> rfl

theorem navigates_selectDown (isBroker : Bool) (s : SwaylockState) :
    Navigates s (damageState (selectDown isBroker s)) := by
  unfold selectDown
  split <;> split <;> rfl

/-! ## Submissions -/

/-- The submission is skipped. -/
def SubmitSkipped (s : SwaylockState) : Prop :=
  (s.args.ignoreEmpty = true ∧ s.password.len = 0) ∨ s.authState = .validating

instance (s : SwaylockState) : Decidable (SubmitSkipped s) := by
  unfold SubmitSkipped
  infer_instance

/-- The bytes of the password frame. -/
def passwordBytes (pw : SwaylockPassword) : List UInt8 :=
  commWriteBytes COMM_MSG_PASSWORD (some (pw.buffer.take (pw.len + 1))) (pw.len + 1)

/-- The state after a password has been sent. -/
def submitted (s : SwaylockState) : SwaylockState :=
  let s := cancelInputIdle (cancelPasswordClear
    { s with inputState := .idle, authState := .validating })
  damageState { s with password := clearPasswordBuffer s.password }

/-- The state after a submission without memory for the copy. -/
def submitFailed (env : Env) (s : SwaylockState) : SwaylockState :=
  let s := cancelInputIdle (cancelPasswordClear
    { s with inputState := .idle, authState := .validating })
  let s := { s with password := clearPasswordBuffer s.password }
  damageState (scheduleAuthIdle env { s with authState := .invalid })

/-- **The ways a submission ends.** -/
theorem submitPassword_cases (env : Env) (s : SwaylockState) (p : Pipe) :
    (SubmitSkipped s ∧ submitPassword env s p = .running s p) ∨
    (¬ SubmitSkipped s ∧ env.secret = false ∧
      submitPassword env s p = .running (submitFailed env s) p) ∨
    (¬ SubmitSkipped s ∧ env.secret = true ∧ p.reader = false ∧
      submitPassword env s p = .killed) ∨
    (¬ SubmitSkipped s ∧ env.secret = true ∧ p.reader = true ∧
      submitPassword env s p = .blocked) ∨
    (¬ SubmitSkipped s ∧ env.secret = true ∧ p.reader = true ∧
      submitPassword env s p =
        .running (submitted s) { p with data := p.data ++ passwordBytes s.password }) := by
  unfold submitPassword SubmitSkipped
  by_cases h1 : s.args.ignoreEmpty = true ∧ s.password.len = 0
  · exact Or.inl ⟨Or.inl h1, by rw [if_pos h1]⟩
  by_cases h2 : s.authState = .validating
  · exact Or.inl ⟨Or.inr h2, by rw [if_neg h1, if_pos h2]⟩
  have hn : ¬ ((s.args.ignoreEmpty = true ∧ s.password.len = 0) ∨ s.authState = .validating) :=
    not_or.mpr ⟨h1, h2⟩
  rw [if_neg h1, if_neg h2]
  unfold writeCommPassword
  by_cases hs : env.secret = true
  · rcases commMainWrite_cases env p COMM_MSG_PASSWORD
      (some (s.password.buffer.take (s.password.len + 1))) (s.password.len + 1) with
      ⟨hr, h⟩ | ⟨hr, h⟩ | ⟨hr, h⟩
    · refine Or.inr (Or.inr (Or.inl ⟨hn, hs, hr, ?_⟩))
      simp only [cancelInputIdle, cancelPasswordClear, hs, if_true, h]
    · refine Or.inr (Or.inr (Or.inr (Or.inl ⟨hn, hs, hr, ?_⟩)))
      simp only [cancelInputIdle, cancelPasswordClear, hs, if_true, h]
    · refine Or.inr (Or.inr (Or.inr (Or.inr ⟨hn, hs, hr, ?_⟩)))
      simp only [cancelInputIdle, cancelPasswordClear, hs, if_true, h]
      rfl
  · rw [Bool.not_eq_true] at hs
    refine Or.inr (Or.inl ⟨hn, hs, ?_⟩)
    simp only [cancelInputIdle, cancelPasswordClear, hs]
    rfl

/-- The state and the pipe after a submission that returns. -/
inductive SubmitStep (env : Env) (s : SwaylockState) (p : Pipe) : SwaylockState → Pipe → Prop
  | skip (h : SubmitSkipped s) : SubmitStep env s p s p
  | fail (h : ¬ SubmitSkipped s) (memory : env.secret = false) :
      SubmitStep env s p (submitFailed env s) p
  | send (h : ¬ SubmitSkipped s) (open_ : p.reader = true) :
      SubmitStep env s p (submitted s) { p with data := p.data ++ passwordBytes s.password }

theorem submitPassword_step {env : Env} {s t : SwaylockState} {p q : Pipe}
    (h : submitPassword env s p = .running t q) : SubmitStep env s p t q := by
  rcases submitPassword_cases env s p with ⟨hs, hw⟩ | ⟨hs, memory, hw⟩ | ⟨-, -, -, hw⟩ |
    ⟨-, -, -, hw⟩ | ⟨hs, -, open_, hw⟩
  · rw [hw] at h; cases h; exact .skip hs
  · rw [hw] at h; cases h; exact .fail hs memory
  · rw [hw] at h; cases h
  · rw [hw] at h; cases h
  · rw [hw] at h; cases h; exact .send hs open_

/-! ## The key handler -/

/-- The stages that show a list. -/
def Selecting (s : SwaylockState) : Prop :=
  s.authdActive = true ∧ (s.authdStage = .broker ∨ s.authdStage = .authMode)

instance (s : SwaylockState) : Decidable (Selecting s) := by
  unfold Selecting
  infer_instance

/-- The keys the first block intercepts. -/
def Intercepts (s : SwaylockState) (keysym : Keysym) : Prop :=
  (Selecting s ∧ keysym ∈ [Keysym.Up, .Down, .Return, .KP_Enter, .Escape]) ∨
    (s.authdActive = true ∧ s.authdStage = .challenge ∧ keysym = .Tab ∧
      s.authdLayout.button ≠ none)

instance (s : SwaylockState) (keysym : Keysym) : Decidable (Intercepts s keysym) := by
  unfold Intercepts
  infer_instance

theorem selectionKey_eq_none (isBroker : Bool) (env : Env) (s : SwaylockState) (p : Pipe)
    (keysym : Keysym) :
    selectionKey isBroker env s p keysym = none ↔
      keysym ∉ [Keysym.Up, .Down, .Return, .KP_Enter, .Escape] := by
  cases keysym with
  | Return => cases h : selectedId isBroker s <;> simp [selectionKey, h]
  | KP_Enter => cases h : selectedId isBroker s <;> simp [selectionKey, h]
  | _ => simp [selectionKey]

/-- The first block lets every other key through. -/
theorem authdHandleKey_eq_none (env : Env) (s : SwaylockState) (p : Pipe) (keysym : Keysym) :
    authdHandleKey env s p keysym = none ↔ ¬ Intercepts s keysym := by
  unfold authdHandleKey Intercepts Selecting
  by_cases ha : s.authdActive = true
  · rw [if_pos ha]
    cases hst : s.authdStage with
    | broker => simp [selectionKey_eq_none, ha]
    | authMode => simp [selectionKey_eq_none, ha]
    | challenge => simp [ha]
    | none => simp
    | other b => simp
  · rw [if_neg ha]
    simp [ha]

/-- A key that the first block handles. -/
theorem intercepts_of_some {env : Env} {s : SwaylockState} {p : Pipe} {keysym : Keysym}
    {r : Outcome SwaylockState} (h : authdHandleKey env s p keysym = some r) :
    Intercepts s keysym := by
  by_contra hn
  rw [(authdHandleKey_eq_none env s p keysym).mpr hn] at h
  cases h

/-- The message a key of a selection stage sends. -/
def selectionMessage (isBroker : Bool) (s : SwaylockState) : Keysym → Option Message
  | .Return | .KP_Enter =>
    (selectedId isBroker s).map fun id =>
      { type := if isBroker then COMM_MSG_BROKER_SEL else COMM_MSG_AUTH_MODE_SEL
        payload := some (id ++ [0]), len := id.length + 1 }
  | .Escape => some { type := COMM_MSG_CANCEL, payload := none, len := 0 }
  | _ => none

/-- The message an intercepted key sends. -/
def authdMessage (s : SwaylockState) (keysym : Keysym) : Option Message :=
  if s.authdActive then
    match s.authdStage with
    | .broker => selectionMessage true s keysym
    | .authMode => selectionMessage false s keysym
    | .challenge =>
      if keysym = .Tab ∧ s.authdLayout.button ≠ none then
        some { type := COMM_MSG_BUTTON, payload := none, len := 0 }
      else none
    | _ => none
  else none

/-- A key of the selection stages sends the selected id, or cancels. -/
theorem selectionMessage_cases {isBroker : Bool} {s : SwaylockState} {keysym : Keysym}
    {m : Message} (h : selectionMessage isBroker s keysym = some m) :
    (∃ id, selectedId isBroker s = some id ∧
      m = { type := if isBroker then COMM_MSG_BROKER_SEL else COMM_MSG_AUTH_MODE_SEL
            payload := some (id ++ [0]), len := id.length + 1 }) ∨
      m = { type := COMM_MSG_CANCEL, payload := none, len := 0 } := by
  cases keysym with
  | Return =>
    obtain ⟨id, hid, rfl⟩ := Option.map_eq_some_iff.mp h
    exact Or.inl ⟨id, hid, rfl⟩
  | KP_Enter =>
    obtain ⟨id, hid, rfl⟩ := Option.map_eq_some_iff.mp h
    exact Or.inl ⟨id, hid, rfl⟩
  | Escape => cases h; exact Or.inr rfl
  | _ => cases h

/-- A key of the selection stages is no password, and points to what it sends. -/
theorem selectionMessage_sent {isBroker : Bool} {s : SwaylockState} {keysym : Keysym} {m : Message}
    (h : selectionMessage isBroker s keysym = some m) :
    m.type ≠ COMM_MSG_PASSWORD ∧ m.type ≠ 0 ∧ m.len = (m.payload.getD []).length := by
  rcases selectionMessage_cases h with ⟨id, -, rfl⟩ | rfl
  · refine ⟨?_, ?_, by simp⟩
    · cases isBroker
      · exact (by decide : COMM_MSG_AUTH_MODE_SEL ≠ COMM_MSG_PASSWORD)
      · exact (by decide : COMM_MSG_BROKER_SEL ≠ COMM_MSG_PASSWORD)
    · cases isBroker
      · exact (by decide : COMM_MSG_AUTH_MODE_SEL ≠ 0)
      · exact (by decide : COMM_MSG_BROKER_SEL ≠ 0)
  · decide

theorem authdMessage_sent {s : SwaylockState} {keysym : Keysym} {m : Message}
    (h : authdMessage s keysym = some m) :
    m.type ≠ COMM_MSG_PASSWORD ∧ m.type ≠ 0 ∧ m.len = (m.payload.getD []).length := by
  rw [authdMessage] at h
  split at h
  · split at h
    · exact selectionMessage_sent h
    · exact selectionMessage_sent h
    · split at h
      · cases h
        decide
      · cases h
    · cases h
  · cases h

/-- What a key does. -/
inductive HandlesKey (env : Env) (s : SwaylockState) (p : Pipe) (keysym : Keysym)
    (codepoint : UInt32) : Outcome SwaylockState → Prop
  | moves {t : SwaylockState} (h : Navigates s t) (active : s.authdActive = true)
      (silent : authdMessage s keysym = none) :
      HandlesKey env s p keysym codepoint (.running t p)
  | sends {t : SwaylockState} {m : Message} (h : Navigates s t) (active : s.authdActive = true)
      (sent : authdMessage s keysym = some m) :
      HandlesKey env s p keysym codepoint (sendKey env t p m.type m.payload m.len)
  | submits (pass : authdHandleKey env s p keysym = none)
      (action : keysym.action s.xkb.control = .submit) :
      HandlesKey env s p keysym codepoint (submitPassword env s p)
  | edits (pass : authdHandleKey env s p keysym = none)
      (action : keysym.action s.xkb.control ≠ .submit) :
      HandlesKey env s p keysym codepoint
        (.running ((keysym.action s.xkb.control).edit env s codepoint) p)

theorem selectionKey_handles {isBroker : Bool} {env : Env} {s : SwaylockState} {p : Pipe}
    {keysym : Keysym} {codepoint : UInt32} {r : Outcome SwaylockState}
    (active : s.authdActive = true)
    (hm : authdMessage s keysym = selectionMessage isBroker s keysym)
    (h : selectionKey isBroker env s p keysym = some r) :
    HandlesKey env s p keysym codepoint r := by
  have confirm : selectionMessage isBroker s keysym = ((selectedId isBroker s).map fun id =>
      ({ type := if isBroker then COMM_MSG_BROKER_SEL else COMM_MSG_AUTH_MODE_SEL
         payload := some (id ++ [0]), len := id.length + 1 } : Message)) →
      (selectedId isBroker s = none → selectionKey isBroker env s p keysym = some (.running s p)) →
      (∀ id, selectedId isBroker s = some id → selectionKey isBroker env s p keysym =
        some (sendKey env s p (if isBroker then COMM_MSG_BROKER_SEL else COMM_MSG_AUTH_MODE_SEL)
          (some (id ++ [0])) (id.length + 1))) → HandlesKey env s p keysym codepoint r := by
    intro hc hnone hsome
    cases hid : selectedId isBroker s with
    | none =>
      rw [hnone hid] at h
      rw [hid] at hc
      cases h
      exact .moves (Navigates.refl s) active (hm.trans hc)
    | some id =>
      rw [hsome id hid] at h
      rw [hid] at hc
      cases h
      exact .sends (Navigates.refl s) active (hm.trans hc)
  cases keysym with
  | Up => cases h; exact .moves (navigates_selectUp isBroker s) active hm
  | Down => cases h; exact .moves (navigates_selectDown isBroker s) active hm
  | Return =>
    exact confirm rfl (fun hid => by rw [selectionKey, hid]) fun id hid => by rw [selectionKey, hid]
  | KP_Enter =>
    exact confirm rfl (fun hid => by rw [selectionKey, hid]) fun id hid => by rw [selectionKey, hid]
  | Escape => cases h; exact .sends (Navigates.refl s) active hm
  | _ => cases h

theorem authdHandleKey_handles {env : Env} {s : SwaylockState} {p : Pipe} {keysym : Keysym}
    {codepoint : UInt32} {r : Outcome SwaylockState} (h : authdHandleKey env s p keysym = some r) :
    HandlesKey env s p keysym codepoint r := by
  rw [authdHandleKey] at h
  split at h
  · rename_i active
    split at h
    · rename_i hst
      exact selectionKey_handles active (by rw [authdMessage, if_pos active, hst]) h
    · rename_i hst
      exact selectionKey_handles active (by rw [authdMessage, if_pos active, hst]) h
    · rename_i hst
      split at h
      · rename_i hb
        cases h
        refine .sends (m := { type := COMM_MSG_BUTTON, payload := none, len := 0 }) rfl active ?_
        rw [authdMessage, if_pos active, hst]
        exact if_pos hb
      · cases h
    · cases h
  · cases h

/-- **What a key does**: it moves a selection, sends a message of the selection
stages, submits, or edits. -/
theorem handleKey_cases (env : Env) (s : SwaylockState) (p : Pipe) (keysym : Keysym)
    (codepoint : UInt32) :
    HandlesKey env s p keysym codepoint (swaylockHandleKey env s p keysym codepoint) := by
  unfold swaylockHandleKey
  cases h : authdHandleKey env s p keysym with
  | some r => exact authdHandleKey_handles h
  | none =>
    simp only [passwordHandleKey_eq]
    split
    · rename_i hk
      exact .submits h hk
    · rename_i hk
      exact .edits h hk

/-- The state and the pipe after a key that did not end the process. -/
inductive KeyStep (env : Env) (s : SwaylockState) (p : Pipe) : SwaylockState → Pipe → Prop
  | move {t : SwaylockState} (h : Navigates s t) : KeyStep env s p t p
  | send {t : SwaylockState} {m : Message} {keysym : Keysym} (h : Navigates s t)
      (active : s.authdActive = true) (sent : authdMessage s keysym = some m)
      (open_ : p.reader = true) :
      KeyStep env s p t { p with data := p.data ++ commWriteBytes m.type m.payload m.len }
  | edit (a : KeyAction) (codepoint : UInt32) : KeyStep env s p (a.edit env s codepoint) p
  | fail (h : ¬ SubmitSkipped s) (memory : env.secret = false) :
      KeyStep env s p (submitFailed env s) p
  | submit (h : ¬ SubmitSkipped s) (open_ : p.reader = true) :
      KeyStep env s p (submitted s) { p with data := p.data ++ passwordBytes s.password }

theorem handleKey_step {env : Env} {s t : SwaylockState} {p q : Pipe} {keysym : Keysym}
    {codepoint : UInt32} (h : swaylockHandleKey env s p keysym codepoint = .running t q) :
    KeyStep env s p t q := by
  have hk := handleKey_cases env s p keysym codepoint
  rw [h] at hk
  generalize hr : Outcome.running t q = r at hk
  cases hk with
  | moves hn => cases hr; exact .move hn
  | @sends u m hn active sent =>
    obtain ⟨rfl, open_, rfl⟩ := sendKey_running hr.symm
    exact .send hn active sent open_
  | submits =>
    cases submitPassword_step hr.symm with
    | skip => exact .edit .submit 0
    | fail hs memory => exact .fail hs memory
    | send hs open_ => exact .submit hs open_
  | edits => cases hr; exact .edit _ codepoint

/-- What a key does that the first block lets through. -/
inductive PasswordKey (env : Env) (s : SwaylockState) (p : Pipe) (keysym : Keysym)
    (codepoint : UInt32) : SwaylockState → Pipe → Prop
  | submit {t : SwaylockState} {q : Pipe} (action : keysym.action s.xkb.control = .submit)
      (step : SubmitStep env s p t q) : PasswordKey env s p keysym codepoint t q
  | edit (action : keysym.action s.xkb.control ≠ .submit) :
      PasswordKey env s p keysym codepoint
        ((keysym.action s.xkb.control).edit env s codepoint) p

theorem passwordKey_of_pass {env : Env} {s t : SwaylockState} {p q : Pipe} {keysym : Keysym}
    {codepoint : UInt32} (pass : authdHandleKey env s p keysym = none)
    (h : swaylockHandleKey env s p keysym codepoint = .running t q) :
    PasswordKey env s p keysym codepoint t q := by
  rw [swaylockHandleKey, pass] at h
  simp only [passwordHandleKey_eq] at h
  split at h
  · rename_i action
    exact .submit action (submitPassword_step h)
  · rename_i action
    cases h
    exact .edit action

end SwaylockAuthd
