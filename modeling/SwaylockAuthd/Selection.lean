import SwaylockAuthd.Deadlines
import SwaylockAuthd.PasswordEditor

/-!
# Keys in a selection list

In the stages that show a list the first block of `swaylock_handle_key` intercepts five
keys.  Every other key reaches the switch below it, which edits the password, submits it, or puts
off the moment at which it is wiped.

* `Harmless`: the keys for which that makes no difference.  `leaks_iff`: no other key.
* `SameSecret`: two processes with the same password, which will be wiped at the same time, and
  which have sent the same bytes.
* `secret_of_harmless`: a run that presses only those keys in these stages keeps the
  password and sends none there; two such runs with the same events but for these keys
  have sent the same bytes.
* `secret_leaks_selection`: `x` and `Ctrl`+`m` in the list of brokers.
* `shift_in_list`: a `Shift` there changes what is sent later.
-/

namespace SwaylockAuthd

open Transition

variable (parse : CString → Option Json)

/-! ## Harmless keys -/

/-- There is nothing to clear. -/
def AllClear (pw : SwaylockPassword) : Prop :=
  pw.len = 0 ∧ pw.buffer.take pw.bufferLen = List.replicate pw.bufferLen 0

/-- A key that is intercepted, or that leaves the password as it is and does not put off the moment
at which it is wiped. -/
def Harmless (s : SwaylockState) (keysym : Keysym) (codepoint : UInt32) : Prop :=
  Intercepts s keysym ∨
    match keysym.action s.xkb.control with
    | .submit => SubmitSkipped s
    | .clear => AllClear s.password
    | .erase => s.password.len = 0
    | .neutral => s.password.len = 0
    | .text => codepoint = 0 ∨
        s.password.len = 0 ∧ s.password.bufferLen ≤ s.password.len + utf8Chsize codepoint + 1

/-- In a selection stage only harmless keys are pressed. -/
def HarmlessKeys (a : LoopEvent) (m : MainProcess) : Prop :=
  match a with
  | .key _ keysym codepoint => Selecting m.state → Harmless m.state keysym codepoint
  | _ => True

/-- Whether a key in a selection stage ever changed the password or sent one. -/
def noteLeak (a : LoopEvent) (m n : MainProcess) (leaked : Bool) : Bool :=
  match a with
  | .key _ _ _ =>
    leaked || decide (Selecting m.state ∧
      (n.state.password ≠ m.state.password ∨ wrotePassword m n = true))
  | _ => leaked

theorem clear_eq_self {pw : SwaylockPassword} (h : AllClear pw) : clearPasswordBuffer pw = pw := by
  obtain ⟨hlen, hbuf⟩ := h
  have hclear : clearBuffer pw.buffer pw.bufferLen = pw.buffer := by
    rw [clearBuffer, ← hbuf, List.take_append_drop]
  rw [clearPasswordBuffer, hclear, ← hlen]

/-- A harmless edit keeps the password. -/
theorem password_edit_harmless {env : Env} {s : SwaylockState} {keysym : Keysym}
    {codepoint : UInt32} (hi : ¬ Intercepts s keysym) (h : Harmless s keysym codepoint) :
    ((keysym.action s.xkb.control).edit env s codepoint).password = s.password := by
  have hm := h.resolve_left hi
  cases hact : keysym.action s.xkb.control with
  | submit => rfl
  | clear =>
    rw [hact] at hm
    exact clear_eq_self hm
  | neutral => rfl
  | erase =>
    rw [hact] at hm
    show (backspaceKey env s).password = s.password
    rw [backspaceKey_password, backspace, if_neg (not_not.mpr hm)]
  | text =>
    rw [hact] at hm
    show (textKey env s codepoint).password = s.password
    unfold textKey
    by_cases h0 : codepoint ≠ 0
    · rw [if_pos h0]
      show appendCh s.password codepoint = s.password
      unfold appendCh
      exact if_pos (hm.resolve_left h0).2
    · rw [if_neg h0]

/-- **A harmless key** keeps the password and the authentication state, and it sends no password. -/
theorem harmless_key {env : Env} {s t : SwaylockState} {p q : Pipe} {keysym : Keysym}
    {codepoint : UInt32} (hh : Harmless s keysym codepoint)
    (h : swaylockHandleKey env s p keysym codepoint = .running t q) :
    t.password = s.password ∧ wrotePassword ⟨s, p⟩ ⟨t, q⟩ = false := by
  cases ha : authdHandleKey env s p keysym with
  | some r =>
    rw [swaylockHandleKey, ha] at h
    obtain rfl : r = .running t q := h
    exact password_intercepted ha
  | none =>
    have hi : ¬ Intercepts s keysym := (authdHandleKey_eq_none env s p keysym).mp ha
    cases passwordKey_of_pass ha h with
    | submit action step =>
      have hskip : SubmitSkipped s := by
        have hm := hh.resolve_left hi
        rw [action] at hm
        exact hm
      cases step with
      | skip => exact ⟨rfl, wrotePassword_same rfl⟩
      | fail hn => exact absurd hskip hn
      | send hn => exact absurd hskip hn
    | edit => exact ⟨password_edit_harmless hi hh, wrotePassword_same rfl⟩

/-- Nothing leaks along a run with harmless keys. -/
theorem noLeak_step {a : LoopEvent} {x y : MainProcess × Bool} (hx : x.2 = false)
    (hC : HarmlessKeys a x.1) (h : monitored (loopStep parse) noteLeak a x = some y) :
    y.2 = false := by
  obtain ⟨m, l⟩ := x
  obtain ⟨n, l'⟩ := y
  obtain ⟨hstep, rfl : l' = noteLeak a m n l⟩ := monitored_eq_some.mp h
  obtain rfl : l = false := hx
  cases a with
  | key env keysym codepoint =>
    rw [loopStep] at hstep
    cases mainStep_cases parse hstep with
    | @key env keysym codepoint s p eq =>
      simp only [noteLeak, Bool.false_or, decide_eq_false_iff_not]
      rintro ⟨hsel, hbad⟩
      obtain ⟨hpw, hw⟩ := harmless_key (hC hsel) eq
      rcases hbad with hbad | hbad
      · exact hbad hpw
      · exact absurd (hw.symm.trans hbad) (by decide)
  | _ => rfl

/-! ## What two runs have in common -/

/-- An event as both runs have it. -/
inductive Observation
  | key (env : Env) (control : Bool) (keysym : Keysym) (codepoint : UInt32)
  | time (now : Timespec)
  | message (env : Env) (f : Frame)
  | childGone

/-- Every event but the keys of a selection stage that do not navigate in it, and the modifiers
pressed for them: of the modifiers counts the one that is held when another key is pressed. -/
def observe (a : LoopEvent) (m : MainProcess) : Option Observation :=
  match a with
  | .key env keysym codepoint =>
    if Selecting m.state ∧ keysym ∉ [Keysym.Up, .Down, .Return, .KP_Enter, .Escape] then none
    else some (.key env m.state.xkb.control keysym codepoint)
  | .modifiers _ _ _ => none
  | .timers _ now => some (.time now)
  | .message env f => some (.message env f)
  | .childGone => some .childGone

/-! ## The same text -/

theorem bufferLen_appendCh (pw : SwaylockPassword) (codepoint : UInt32) :
    (appendCh pw codepoint).bufferLen = pw.bufferLen := by
  unfold appendCh
  dsimp only
  split <;> rfl

theorem bufferLen_backspace (pw : SwaylockPassword) :
    (backspace pw).2.bufferLen = pw.bufferLen := by
  unfold backspace
  split <;> rfl

/-- The buffers hold the same text. -/
def SameText (pw qw : SwaylockPassword) : Prop :=
  (∃ cs, Holds pw cs ∧ Holds qw cs) ∧ qw.bufferLen = pw.bufferLen

namespace SameText

variable {pw qw rw : SwaylockPassword}

theorem symm (h : SameText pw qw) : SameText qw pw := by
  obtain ⟨⟨cs, hp, hq⟩, hlen⟩ := h
  exact ⟨⟨cs, hq, hp⟩, hlen.symm⟩

theorem trans (h : SameText pw qw) (g : SameText qw rw) : SameText pw rw := by
  obtain ⟨⟨cs, hp, hq⟩, hlen⟩ := h
  obtain ⟨⟨ds, hq', hr⟩, hlen'⟩ := g
  rw [hq'.unique hq] at hr
  exact ⟨⟨cs, hp, hr⟩, hlen'.trans hlen⟩

theorem len (h : SameText pw qw) : qw.len = pw.len := by
  obtain ⟨⟨cs, hp, hq⟩, -⟩ := h
  rw [hp.len, hq.len]

theorem clear (h : SameText pw qw) :
    SameText (clearPasswordBuffer pw) (clearPasswordBuffer qw) := by
  obtain ⟨⟨cs, hp, hq⟩, hlen⟩ := h
  exact ⟨⟨[], holds_clear hp, holds_clear hq⟩, hlen⟩

/-- Clearing an empty buffer changes no text. -/
theorem clear_empty (h : SameText pw qw) (hz : pw.len = 0) :
    SameText (clearPasswordBuffer pw) qw := by
  obtain ⟨⟨cs, hp, hq⟩, hlen⟩ := h
  rw [hp.len_eq_zero.mp hz] at hq
  exact ⟨⟨[], holds_clear hp, hq⟩, hlen⟩

theorem appendCh (h : SameText pw qw) {codepoint : UInt32} (h0 : codepoint ≠ 0)
    (hc : codepoint.toNat ≤ 0x10FFFF) :
    SameText (SwaylockAuthd.appendCh pw codepoint) (SwaylockAuthd.appendCh qw codepoint) := by
  obtain ⟨⟨cs, hp, hq⟩, hlen⟩ := h
  have hq' := holds_appendCh hq ⟨codepoint, h0, hc⟩
  rw [hlen] at hq'
  refine ⟨⟨_, holds_appendCh hp ⟨codepoint, h0, hc⟩, hq'⟩, ?_⟩
  rw [bufferLen_appendCh, bufferLen_appendCh, hlen]

theorem backspace (h : SameText pw qw) :
    (SwaylockAuthd.backspace qw).1 = (SwaylockAuthd.backspace pw).1 ∧
      SameText (SwaylockAuthd.backspace pw).2 (SwaylockAuthd.backspace qw).2 := by
  obtain ⟨⟨cs, hp, hq⟩, hlen⟩ := h
  obtain ⟨hsome, hback⟩ := holds_backspace hp
  obtain ⟨hsome', hback'⟩ := holds_backspace hq
  refine ⟨Bool.eq_iff_iff.mpr (hsome'.trans hsome.symm), ⟨_, hback, hback'⟩, ?_⟩
  rw [bufferLen_backspace, bufferLen_backspace, hlen]

theorem passwordBytes (h : SameText pw qw) :
    SwaylockAuthd.passwordBytes qw = SwaylockAuthd.passwordBytes pw := by
  obtain ⟨⟨cs, hp, hq⟩, -⟩ := h
  rw [passwordBytes_eq hp, passwordBytes_eq hq]

/-- **An edit** of the same text. -/
theorem edit {env : Env} {s t : SwaylockState} (h : SameText s.password t.password)
    {codepoint : UInt32} (hc : codepoint.toNat ≤ 0x10FFFF) (a : KeyAction) :
    SameText (a.edit env s codepoint).password (a.edit env t codepoint).password := by
  cases a with
  | submit => exact h
  | clear => exact h.clear
  | neutral => exact h
  | erase =>
    show SameText (backspaceKey env s).password (backspaceKey env t).password
    rw [backspaceKey_password, backspaceKey_password]
    exact h.backspace.2
  | text =>
    show SameText (textKey env s codepoint).password (textKey env t codepoint).password
    unfold textKey
    by_cases h0 : codepoint ≠ 0
    · rw [if_pos h0, if_pos h0]
      exact h.appendCh h0 hc
    · rw [if_neg h0, if_neg h0]
      exact h

end SameText

/-! ## The other fields -/

/-- Two outcomes that differ only in that. -/
inductive AlikeOutcome : Outcome SwaylockState → Outcome SwaylockState → Prop
  | running {s t : SwaylockState} {p : Pipe} (h : Alike s t) :
      AlikeOutcome (.running s p) (.running t p)
  | killed : AlikeOutcome .killed .killed
  | blocked : AlikeOutcome .blocked .blocked

theorem AlikeOutcome.eq_running {r r' : Outcome SwaylockState} {s t : SwaylockState} {p q : Pipe}
    (h : AlikeOutcome r r') (hr : r = .running s p) (hr' : r' = .running t q) :
    Alike s t ∧ p = q := by
  subst hr hr'
  cases h with
  | running h => exact ⟨h, rfl⟩

theorem alike_damageState {s t : SwaylockState} (h : Alike s t) :
    Alike (damageState s) (damageState t) := by
  obtain ⟨l, i, a, c, w, n, k, d, x, rfl⟩ := h
  exact ⟨l, i, a, c, w, n, k, d + 1, x, rfl⟩

theorem alike_selectUp {s t : SwaylockState} (h : Alike s t) (isBroker : Bool) :
    Alike (selectUp isBroker s) (selectUp isBroker t) := by
  obtain ⟨l, i, a, c, w, n, k, d, x, rfl⟩ := h
  unfold selectUp
  dsimp only
  split
  · split <;> exact ⟨l, i, a, c, w, n, k, d, x, rfl⟩
  · split <;> exact ⟨l, i, a, c, w, n, k, d, x, rfl⟩

theorem alike_selectDown {s t : SwaylockState} (h : Alike s t) (isBroker : Bool) :
    Alike (selectDown isBroker s) (selectDown isBroker t) := by
  obtain ⟨l, i, a, c, w, n, k, d, x, rfl⟩ := h
  unfold selectDown
  dsimp only
  split
  · split <;> exact ⟨l, i, a, c, w, n, k, d, x, rfl⟩
  · split <;> exact ⟨l, i, a, c, w, n, k, d, x, rfl⟩

theorem Alike.selectedId {s t : SwaylockState} (h : Alike s t) (isBroker : Bool) :
    selectedId isBroker s = selectedId isBroker t := by
  obtain ⟨l, i, a, c, w, n, k, d, x, rfl⟩ := h
  rfl

theorem alike_sendKey {s t : SwaylockState} (h : Alike s t) (env : Env) (p : Pipe) (type : UInt8)
    (payload : Option (List UInt8)) (len : Nat) :
    AlikeOutcome (sendKey env s p type payload len) (sendKey env t p type payload len) := by
  unfold sendKey
  cases commMainWrite env p type payload len with
  | running ok q => exact .running h
  | killed => exact .killed
  | blocked => exact .blocked

/-- The answers of the first block on two such states. -/
def AlikeAnswer : Option (Outcome SwaylockState) → Option (Outcome SwaylockState) → Prop
  | none, none => True
  | some r, some r' => AlikeOutcome r r'
  | _, _ => False

theorem alike_selectionKey {s t : SwaylockState} (h : Alike s t) (isBroker : Bool) (env : Env)
    (p : Pipe) (keysym : Keysym) :
    AlikeAnswer (selectionKey isBroker env s p keysym) (selectionKey isBroker env t p keysym) := by
  have confirm : AlikeAnswer (selectionKey isBroker env s p .Return)
      (selectionKey isBroker env t p .Return) := by
    unfold selectionKey
    rw [h.selectedId isBroker]
    cases selectedId isBroker t with
    | none => exact .running h
    | some id => exact alike_sendKey h env p _ _ _
  cases keysym with
  | Up => exact .running (alike_damageState (alike_selectUp h isBroker))
  | Down => exact .running (alike_damageState (alike_selectDown h isBroker))
  | Return => exact confirm
  | KP_Enter => exact confirm
  | Escape => exact alike_sendKey h env p _ _ _
  | _ => trivial

theorem alike_authdHandleKey {s t : SwaylockState} (h : Alike s t) (env : Env) (p : Pipe)
    (keysym : Keysym) :
    AlikeAnswer (authdHandleKey env s p keysym) (authdHandleKey env t p keysym) := by
  have hsel := fun b => alike_selectionKey h b env p keysym
  have hbutton : AlikeAnswer
      (if keysym = .Tab ∧ s.authdLayout.button ≠ none then
        some (sendKey env (damageState s) p COMM_MSG_BUTTON none 0) else none)
      (if keysym = .Tab ∧ t.authdLayout.button ≠ none then
        some (sendKey env (damageState t) p COMM_MSG_BUTTON none 0) else none) := by
    have hb : s.authdLayout.button = t.authdLayout.button := by
      obtain ⟨l, i, a, c, w, n, k, d, x, rfl⟩ := h
      rfl
    rw [hb]
    split
    · exact alike_sendKey (alike_damageState h) env p _ _ _
    · trivial
  have hactive : s.authdActive = t.authdActive := by
    obtain ⟨l, i, a, c, w, n, k, d, x, rfl⟩ := h
    rfl
  have hstage : s.authdStage = t.authdStage := by
    obtain ⟨l, i, a, c, w, n, k, d, x, rfl⟩ := h
    rfl
  unfold authdHandleKey
  rw [hactive, hstage]
  by_cases ha : t.authdActive = true
  · rw [if_pos ha, if_pos ha]
    cases t.authdStage with
    | broker => exact hsel true
    | authMode => exact hsel false
    | challenge => exact hbutton
    | none => trivial
    | other b => trivial
  · rw [if_neg ha, if_neg ha]
    trivial

theorem alike_commInFrame {s t : SwaylockState} (h : Alike s t) (env : Env) (fr : Frame) :
    Alike (commInFrame parse env s fr) (commInFrame parse env t fr) := by
  obtain ⟨l, i, a, c, w, n, k, d, x, rfl⟩ := h
  unfold commInFrame commInSwitch
  split
  · unfold commInAuthResult
    split <;> exact ⟨_, _, _, _, _, _, _, _, x, rfl⟩
  split
  · unfold commInBrokers
    dsimp only
    split
    · split <;> exact ⟨l, i, a, c, w, n, k, _, x, rfl⟩
    · exact ⟨l, i, a, c, w, n, k, _, x, rfl⟩
  split
  · unfold commInAuthModes
    dsimp only
    split
    · split <;> exact ⟨l, i, a, c, w, n, k, _, x, rfl⟩
    · exact ⟨l, i, a, c, w, n, k, _, x, rfl⟩
  split
  · exact ⟨l, i, a, c, w, n, k, _, x, rfl⟩
  split
  · unfold commInStage
    dsimp only
    split
    · split <;> exact ⟨_, _, _, _, _, _, _, _, x, rfl⟩
    · exact ⟨l, i, a, c, w, n, k, _, x, rfl⟩
  split
  · exact ⟨l, i, a, c, w, n, k, _, x, rfl⟩
  · exact ⟨l, i, a, c, w, n, k, d, x, rfl⟩

/-! ## The same secret -/

/-- The processes have the same password, and have sent the same bytes; the password, if there is
one, will be wiped at the same time. -/
structure SameSecret (m n : MainProcess) : Prop where
  alike : Alike m.state n.state
  text : SameText m.state.password n.state.password
  auth : n.state.deadline .setAuthIdle = m.state.deadline .setAuthIdle
  wipe : m.state.password.len = 0 ∨
    n.state.deadline .clearPassword = m.state.deadline .clearPassword
  left : Paired m.state
  right : Paired n.state
  toChild : n.toChild = m.toChild

namespace SameSecret

variable {m n o m' n' : MainProcess}

theorem symm (h : SameSecret m n) : SameSecret n m where
  alike := h.alike.symm
  text := h.text.symm
  auth := h.auth.symm
  wipe := h.wipe.imp h.text.len.trans Eq.symm
  left := h.right
  right := h.left
  toChild := h.toChild.symm

theorem trans (h : SameSecret m n) (g : SameSecret n o) : SameSecret m o where
  alike := h.alike.trans g.alike
  text := h.text.trans g.text
  auth := g.auth.trans h.auth
  wipe := by
    rcases g.wipe with hz | hd
    · exact Or.inl (h.text.len.symm.trans hz)
    · exact h.wipe.imp id hd.trans
  left := h.left
  right := g.right
  toChild := g.toChild.trans h.toChild

theorem refl (h : SameSecret m n) : SameSecret m m := h.trans h.symm

/-- Steps that touch neither the password nor its timer, nor that of the authentication. -/
theorem keep (h : SameSecret m n) (alike : Alike m'.state n'.state)
    (left : Paired m'.state) (right : Paired n'.state) (toChild : n'.toChild = m'.toChild)
    (hp : m'.state.password = m.state.password) (hp' : n'.state.password = n.state.password)
    (hd : ∀ c, c ≠ .setInputIdle → m'.state.deadline c = m.state.deadline c)
    (hd' : ∀ c, c ≠ .setInputIdle → n'.state.deadline c = n.state.deadline c) :
    SameSecret m' n' where
  alike := alike
  text := by rw [hp, hp']; exact h.text
  auth := by rw [hd _ (by decide), hd' _ (by decide)]; exact h.auth
  wipe := by rw [hp, hd _ (by decide), hd' _ (by decide)]; exact h.wipe
  left := left
  right := right
  toChild := toChild

end SameSecret

theorem Edits.alike {s t : SwaylockState} (h : Edits s t) : Alike s t :=
  ⟨_, _, s.authIdleTimer, _, _, _, _, _, s.xkb, h⟩

theorem Modifies.alike {s t : SwaylockState} (h : Modifies s t) : Alike s t :=
  ⟨_, _, _, _, s.password, s.inputState, s.highlightStart, _, _, h⟩

theorem Navigates.deadline {s t : SwaylockState} (h : Navigates s t) (c : TimerCallback) :
    t.deadline c = s.deadline c := h.keep (fun u => u.deadline c) (by intros; cases c <;> rfl)

theorem Modifies.deadline {s t : SwaylockState} (h : Modifies s t) (c : TimerCallback) :
    t.deadline c = s.deadline c := h.keep (fun u => u.deadline c) (by intros; cases c <;> rfl)

/-! ## Keys that only one run has -/

/-- A key that only one run has is not intercepted. -/
theorem not_intercepts {s : SwaylockState} {keysym : Keysym}
    (h : Selecting s ∧ keysym ∉ [Keysym.Up, .Down, .Return, .KP_Enter, .Escape]) :
    ¬ Intercepts s keysym := by
  rintro (⟨-, hk⟩ | ⟨-, hc, -, -⟩)
  · exact h.2 hk
  · rcases h.1.2 with hb | hb
    · rw [hb] at hc; cases hc
    · rw [hb] at hc; cases hc

/-- A harmless edit does not put off the wipe of a password. -/
theorem wipe_harmless {env : Env} {s : SwaylockState} {keysym : Keysym} {codepoint : UInt32}
    (hs : Timed PointedBy s) (hi : ¬ Intercepts s keysym) (h : Harmless s keysym codepoint) :
    s.password.len = 0 ∨
      ((keysym.action s.xkb.control).edit env s codepoint).deadline .clearPassword =
        s.deadline .clearPassword := by
  rw [(deadline_edit hs env codepoint _).2]
  have hm := h.resolve_left hi
  cases hact : keysym.action s.xkb.control with
  | submit => exact Or.inr rfl
  | clear => rw [hact] at hm; exact Or.inl hm.1
  | neutral => rw [hact] at hm; exact Or.inl hm
  | erase => rw [hact] at hm; exact Or.inl hm
  | text =>
    rw [hact] at hm
    rcases hm with h0 | ⟨hz, -⟩
    · exact Or.inr (if_neg (not_not.mpr h0))
    · exact Or.inl hz

/-- **What only one run has** changes no secret and sends nothing. -/
theorem sameSecret_unseen {a : LoopEvent} {m n : MainProcess} (hm : SameSecret m m)
    (hC : HarmlessKeys a m) (ho : observe a m = none) (h : loopStep parse a m = some n) :
    SameSecret m n := by
  have hright := paired_loopStep hm.right h
  cases a with
  | key env keysym codepoint =>
    have hsel : Selecting m.state ∧ keysym ∉ [Keysym.Up, .Down, .Return, .KP_Enter, .Escape] := by
      by_contra hn
      simp only [observe, if_neg hn] at ho
      cases ho
    have hh := hC hsel.1
    have hi := not_intercepts hsel
    have hpass := (authdHandleKey_eq_none env m.state m.toChild keysym).mpr hi
    obtain ⟨s, p⟩ := n
    have hk : swaylockHandleKey env m.state m.toChild keysym codepoint = .running s p := by
      rw [loopStep] at h
      cases mainStep_cases parse h with
      | key eq => exact eq
    cases passwordKey_of_pass hpass hk with
    | submit action step =>
      have hskip : SubmitSkipped m.state := by
        have hm := hh.resolve_left hi
        rw [action] at hm
        exact hm
      cases step with
      | skip => exact hm
      | fail hn => exact absurd hskip hn
      | send hn => exact absurd hskip hn
    | edit =>
      refine ⟨(edits_edit env _ _ _).alike, ?_, (deadline_edit hm.left.pointed env _ _).1,
        wipe_harmless hm.left.pointed hi hh, hm.left, hright, rfl⟩
      rw [password_edit_harmless hi hh]
      exact hm.text
  | modifiers layoutSame capsLock control =>
    cases h
    have hmod := modifies_keyboardModifiers layoutSame capsLock control m.state
    exact hm.keep hmod.alike hm.left hright rfl rfl (hmod.keep _ (by intros; rfl))
      (fun _ _ => rfl) (fun c _ => hmod.deadline c)
  | timers env now => cases ho
  | message env f => cases ho
  | childGone => cases ho

/-! ## Events that both runs have -/

theorem navigates_intercepted {env : Env} {s t : SwaylockState} {p q : Pipe} {keysym : Keysym}
    (h : authdHandleKey env s p keysym = some (.running t q)) : Navigates s t := by
  have hk : HandlesKey env s p keysym 0 (.running t q) := authdHandleKey_handles h
  generalize hr : Outcome.running t q = r at hk
  cases hk with
  | moves hn => cases hr; exact hn
  | sends hn =>
    obtain ⟨rfl, -, -⟩ := sendKey_running hr.symm
    exact hn
  | submits pass => rw [h] at pass; cases pass
  | edits pass => rw [h] at pass; cases pass

section Both

variable {env : Env} {s t s' t' : SwaylockState} {p q q' : Pipe}

theorem sameSecret_intercepted (hR : SameSecret ⟨s, p⟩ ⟨s', p⟩) {keysym : Keysym}
    (h : authdHandleKey env s p keysym = some (.running t q))
    (h' : authdHandleKey env s' p keysym = some (.running t' q'))
    (hl : Paired t) (hr : Paired t') : SameSecret ⟨t, q⟩ ⟨t', q'⟩ := by
  have ha := alike_authdHandleKey hR.alike env p keysym
  rw [h, h'] at ha
  obtain ⟨halike, hq⟩ := AlikeOutcome.eq_running ha rfl rfl
  have hn := navigates_intercepted h
  have hn' := navigates_intercepted h'
  exact hR.keep halike hl hr hq.symm (hn.keep _ (by intros; rfl)) (hn'.keep _ (by intros; rfl))
    (fun c _ => hn.deadline c) (fun c _ => hn'.deadline c)

theorem submitSkipped_alike (h : Alike s s') (htext : SameText s.password s'.password) :
    SubmitSkipped s ↔ SubmitSkipped s' := by
  obtain ⟨l, i, a, c, w, n, k, d, x, rfl⟩ := h
  unfold SubmitSkipped
  rw [htext.len]

theorem sameSecret_submit (hR : SameSecret ⟨s, p⟩ ⟨s', p⟩)
    (h : submitPassword env s p = .running t q) (h' : submitPassword env s' p = .running t' q')
    (hl : Paired t) (hr : Paired t') : SameSecret ⟨t, q⟩ ⟨t', q'⟩ := by
  have hskip := submitSkipped_alike hR.alike hR.text
  rcases submitPassword_cases env s p with ⟨hs, hw⟩ | ⟨hs, memory, hw⟩ | ⟨-, -, -, hw⟩ |
    ⟨-, -, -, hw⟩ | ⟨hs, memory, -, hw⟩
  · rcases submitPassword_cases env s' p with ⟨-, hw'⟩ | ⟨hs', -⟩ | ⟨hs', -⟩ | ⟨hs', -⟩ | ⟨hs', -⟩
    · cases h.symm.trans hw
      cases h'.symm.trans hw'
      exact hR
    all_goals exact absurd (hskip.mp hs) hs'
  · rcases submitPassword_cases env s' p with ⟨hs', -⟩ | ⟨-, -, hw'⟩ | ⟨-, hm, -⟩ | ⟨-, hm, -⟩ |
      ⟨-, hm, -⟩
    · exact absurd (hskip.mpr hs') hs
    · cases h.symm.trans hw
      cases h'.symm.trans hw'
      obtain ⟨hauth, hwipe⟩ := deadline_submitFailed hR.left.pointed env
      obtain ⟨hauth', hwipe'⟩ := deadline_submitFailed hR.right.pointed env
      obtain ⟨l, i, a, c, w, n, k, d, x, he⟩ := hR.alike
      refine ⟨?_, hR.text.clear, hauth'.trans hauth.symm, Or.inr (hwipe'.trans hwipe.symm), hl, hr,
        rfl⟩
      obtain rfl : s' = _ := he
      exact ⟨_, _, _, _, _, _, k, _, x, rfl⟩
    all_goals
      rw [memory] at hm
      cases hm
  · rw [hw] at h; cases h
  · rw [hw] at h; cases h
  · rcases submitPassword_cases env s' p with ⟨hs', -⟩ | ⟨-, hm, -⟩ | ⟨-, -, -, hw'⟩ |
      ⟨-, -, -, hw'⟩ | ⟨-, -, -, hw'⟩
    · exact absurd (hskip.mpr hs') hs
    · rw [memory] at hm
      cases hm
    · rw [hw'] at h'; cases h'
    · rw [hw'] at h'; cases h'
    · cases h.symm.trans hw
      cases h'.symm.trans hw'
      obtain ⟨hauth, hwipe⟩ := deadline_submitted hR.left.pointed
      obtain ⟨hauth', hwipe'⟩ := deadline_submitted hR.right.pointed
      refine ⟨?_, hR.text.clear, (hauth'.trans hR.auth).trans hauth.symm,
        Or.inr (hwipe'.trans hwipe.symm), hl, hr, ?_⟩
      · obtain ⟨l, i, a, c, w, n, k, d, x, he⟩ := hR.alike
        obtain rfl : s' = _ := he
        exact ⟨_, _, _, _, _, _, k, _, x, rfl⟩
      · exact congrArg (fun b => { p with data := p.data ++ b }) hR.text.passwordBytes

theorem wipe_alike (hR : SameSecret ⟨s, p⟩ ⟨s', p⟩) (codepoint : UInt32) {a : KeyAction}
    (ha : a ≠ .submit) :
    (a.edit env s codepoint).password.len = 0 ∨
      a.wipe env s' codepoint = a.wipe env s codepoint := by
  cases a with
  | submit => exact absurd rfl ha
  | clear => exact Or.inr rfl
  | neutral => exact Or.inr rfl
  | erase =>
    obtain ⟨hsome, hback⟩ := hR.text.backspace
    refine Or.inr ?_
    unfold KeyAction.wipe
    rw [hsome, hback.len]
  | text =>
    by_cases h0 : codepoint ≠ 0
    · exact Or.inr ((if_pos h0).trans (if_pos h0).symm)
    · refine hR.wipe.imp (fun hz => ?_) fun hd => ?_
      · show (textKey env s codepoint).password.len = 0
        rw [textKey, if_neg h0]
        exact hz
      · exact (if_neg h0).trans (hd.trans (if_neg h0).symm)

theorem sameSecret_edit (hR : SameSecret ⟨s, p⟩ ⟨s', p⟩) {codepoint : UInt32}
    (hc : codepoint.toNat ≤ 0x10FFFF) {a : KeyAction} (ha : a ≠ .submit)
    (hl : Paired (a.edit env s codepoint)) (hr : Paired (a.edit env s' codepoint)) :
    SameSecret ⟨a.edit env s codepoint, p⟩ ⟨a.edit env s' codepoint, p⟩ := by
  have hd := deadline_edit hR.left.pointed env codepoint a
  have hd' := deadline_edit hR.right.pointed env codepoint a
  refine ⟨?_, hR.text.edit hc a, (hd'.1.trans hR.auth).trans hd.1.symm, ?_, hl, hr, rfl⟩
  · exact ((edits_edit env s codepoint a).alike.symm.trans hR.alike).trans
      (edits_edit env s' codepoint a).alike
  · refine (wipe_alike hR codepoint ha).imp id fun hw => ?_
    exact (hd'.2.trans hw).trans hd.2.symm

/-- **A key that both runs have.** -/
theorem sameSecret_key (hR : SameSecret ⟨s, p⟩ ⟨s', p⟩) {keysym : Keysym} {codepoint : UInt32}
    (hc : codepoint.toNat ≤ 0x10FFFF) (hcontrol : s'.xkb.control = s.xkb.control)
    (h : swaylockHandleKey env s p keysym codepoint = .running t q)
    (h' : swaylockHandleKey env s' p keysym codepoint = .running t' q')
    (hl : Paired t) (hr : Paired t') : SameSecret ⟨t, q⟩ ⟨t', q'⟩ := by
  have ha := alike_authdHandleKey hR.alike env p keysym
  unfold swaylockHandleKey at h h'
  cases hs : authdHandleKey env s p keysym with
  | some r =>
    rw [hs] at ha h
    obtain rfl : r = _ := h
    cases hs' : authdHandleKey env s' p keysym with
    | some r' =>
      rw [hs'] at h'
      obtain rfl : r' = _ := h'
      exact sameSecret_intercepted hR hs hs' hl hr
    | none => rw [hs'] at ha; exact ha.elim
  | none =>
    rw [hs] at ha h
    cases hs' : authdHandleKey env s' p keysym with
    | some r' => rw [hs'] at ha; exact ha.elim
    | none =>
      rw [hs'] at h'
      simp only [passwordHandleKey_eq] at h h'
      rw [hcontrol] at h'
      split at h
      · rename_i hsub
        rw [if_pos hsub] at h'
        exact sameSecret_submit hR h h' hl hr
      · rename_i hsub
        rw [if_neg hsub] at h'
        cases h
        cases h'
        exact sameSecret_edit hR hc hsub hl hr

end Both

theorem rejects_alike {s t : SwaylockState} (h : Alike s t) (f : Frame) :
    Rejects s f ↔ Rejects t f := by
  obtain ⟨l, i, a, c, w, n, k, d, x, rfl⟩ := h
  exact Iff.rfl

/-- **A message that both runs have.** -/
theorem sameSecret_message {m n : MainProcess} (hR : SameSecret m n) (env : Env) (f : Frame)
    (hl : Paired (commInFrame parse env m.state f))
    (hr : Paired (commInFrame parse env n.state f)) :
    SameSecret { m with state := commInFrame parse env m.state f }
      { n with state := commInFrame parse env n.state f } := by
  have hf := commInFrame_step parse env m.state f
  have hf' := commInFrame_step parse env n.state f
  obtain ⟨hauth, hwipe⟩ := deadline_frame hR.left.pointed hf
  obtain ⟨hauth', hwipe'⟩ := deadline_frame hR.right.pointed hf'
  refine ⟨alike_commInFrame parse hR.alike env f, ?_, ?_, ?_, hl, hr, hR.toChild⟩
  · show SameText (commInFrame parse env m.state f).password
      (commInFrame parse env n.state f).password
    rw [hf.password, hf'.password]
    exact hR.text
  · refine hauth'.trans (Eq.trans ?_ hauth.symm)
    rw [hR.auth]
    exact if_congr (rejects_alike hR.alike f).symm rfl rfl
  · refine hR.wipe.imp (fun hz => ?_) fun hd => (hwipe'.trans hd).trans hwipe.symm
    exact (congrArg SwaylockPassword.len hf.password).trans hz

/-- **The walk over the timers in both runs.** -/
theorem sameSecret_timers {m n : MainProcess} (hR : SameSecret m n) (env env' : Env)
    (now : Timespec) :
    SameSecret { m with state := dispatchTimers env now m.state }
      { n with state := dispatchTimers env' now n.state } := by
  obtain ⟨hm, hl⟩ := dispatchTimers_spec hR.left env now
  obtain ⟨hn, hr⟩ := dispatchTimers_spec hR.right env' now
  have hauth : n.state.expired now .setAuthIdle = m.state.expired now .setAuthIdle := by
    rw [SwaylockState.expired, hR.auth]
    rfl
  have halike : n.state.settled (n.state.expired now) = n.state.settled (m.state.expired now) := by
    rw [SwaylockState.settled, hauth]
    rfl
  refine ⟨?_, ?_, ?_, ?_, hl, hr, hR.toChild⟩
  · refine (hm.alike.symm.trans (hR.alike.settled _)).trans ?_
    rw [← halike]
    exact hn.alike
  · show SameText (dispatchTimers env now m.state).password
      (dispatchTimers env' now n.state).password
    rw [hm.password, hn.password]
    rcases hR.wipe with hz | hd
    · -- an empty password may be wiped in one of the runs only
      have hz' := hR.text.len.trans hz
      split
      · split
        · exact hR.text.clear
        · exact hR.text.clear_empty hz
      · split
        · exact (hR.text.symm.clear_empty hz').symm
        · exact hR.text
    · rw [SwaylockState.expired, SwaylockState.expired, hd]
      split
      · exact hR.text.clear
      · exact hR.text
  · refine (hn.deadline _ (by decide)).trans (Eq.trans ?_ (hm.deadline _ (by decide)).symm)
    rw [hauth, hR.auth]
  · refine hR.wipe.imp (fun hz => ?_) fun hd => ?_
    · show (dispatchTimers env now m.state).password.len = 0
      rw [hm.password]
      split
      · rfl
      · exact hz
    · refine (hn.deadline _ (by decide)).trans (Eq.trans ?_ (hm.deadline _ (by decide)).symm)
      rw [SwaylockState.expired, SwaylockState.expired, hd]

/-! ## Two runs -/

/-- The code point of a key is one. -/
def LoopEvent.Typed : LoopEvent → Prop
  | .key _ _ codepoint => codepoint.toNat ≤ 0x10FFFF
  | _ => True

/-- The events behind an observation. -/
inductive Seen (m : MainProcess) : LoopEvent → Observation → Prop
  | key (env : Env) (keysym : Keysym) (codepoint : UInt32) :
      Seen m (.key env keysym codepoint) (.key env m.state.xkb.control keysym codepoint)
  | timers (env : Env) (now : Timespec) : Seen m (.timers env now) (.time now)
  | message (env : Env) (f : Frame) : Seen m (.message env f) (.message env f)
  | childGone : Seen m .childGone .childGone

theorem seen_of_observe {a : LoopEvent} {m : MainProcess} {o : Observation}
    (h : observe a m = some o) : Seen m a o := by
  cases a with
  | key env keysym codepoint =>
    rw [observe] at h
    split at h
    · cases h
    · cases h
      exact .key env keysym codepoint
  | modifiers layoutSame capsLock control => cases h
  | timers env now => cases h; exact .timers env now
  | message env f => cases h; exact .message env f
  | childGone => cases h; exact .childGone

/-- **What both runs have** does the same in both. -/
theorem sameSecret_seen {a b : LoopEvent} {m n m' n' : MainProcess} {o : Observation}
    (hR : SameSecret m m') (hT : a.Typed) (ha : observe a m = some o)
    (hb : observe b m' = some o) (h : loopStep parse a m = some n)
    (h' : loopStep parse b m' = some n') : SameSecret n n' := by
  have hl := paired_loopStep hR.left h
  have hr := paired_loopStep hR.right h'
  have hb' := seen_of_observe hb
  cases seen_of_observe ha with
  | key env keysym codepoint =>
    generalize hc : m.state.xkb.control = control at hb'
    cases hb' with
    | key =>
      obtain ⟨s, p⟩ := m
      obtain ⟨s', p'⟩ := m'
      obtain rfl : p' = p := hR.toChild
      rw [loopStep] at h h'
      cases mainStep_cases parse h with
      | key eq =>
        cases mainStep_cases parse h' with
        | key eq' => exact sameSecret_key hR hT hc.symm eq eq' hl hr
  | timers env now =>
    cases hb' with
    | timers env' =>
      cases h
      cases h'
      exact sameSecret_timers hR env env' now
  | message env f =>
    cases hb'
    rw [loopStep, mainStep] at h h'
    split at h
    · cases h
    · rename_i hf
      rw [if_neg hf] at h'
      cases h
      cases h'
      exact sameSecret_message parse hR env f hl hr
  | childGone =>
    cases hb'
    cases h
    cases h'
    refine hR.keep hR.alike hl hr ?_ rfl rfl (fun _ _ => rfl) (fun _ _ => rfl)
    exact congrArg (fun p : Pipe => { p with reader := false }) hR.toChild

theorem unwinds_sameSecret :
    Unwinds (loopStep parse) observe (fun a m => a.Typed ∧ HarmlessKeys a m) SameSecret where
  left := fun hR hC ho h => (sameSecret_unseen parse hR.refl hC.2 ho h).symm.trans hR
  right := fun hR hC ho h => hR.trans (sameSecret_unseen parse hR.symm.refl hC.2 ho h)
  both := fun hR hC _ ha hb h h' => sameSecret_seen parse hR hC.1 ha hb h h'

/-- **Harmless keys keep the secret.**  Along a run that presses only harmless keys in the
selection stages, no key there changes the password or sends one; and another such run from
the same secret, with the same events apart from the keys of these stages that do not
navigate, has sent the same bytes to the child. -/
theorem secret_of_harmless {as : List LoopEvent} {m : MainProcess}
    (h : Along (loopStep parse) HarmlessKeys as m) :
    Throughout (monitored (loopStep parse) noteLeak) (fun x => x.2 = false) as (m, false) ∧
    ∀ bs m' n n', (∀ a ∈ as, a.Typed) → (∀ b ∈ bs, b.Typed) →
      Along (loopStep parse) HarmlessKeys bs m' → SameSecret m m' →
      run (loopStep parse) as m = some n → run (loopStep parse) bs m' = some n' →
      trace (loopStep parse) observe as m = trace (loopStep parse) observe bs m' →
      SameSecret n n' := by
  refine ⟨?_, fun bs m' n n' hT hT' h' hR hrun hrun' ht => ?_⟩
  · have halong : Along (monitored (loopStep parse) noteLeak) (fun a x => HarmlessKeys a x.1) as
        (m, false) := along_monitored h
    exact throughout_of_along (I := fun x => x.2 = false)
      (fun _ _ _ hx hC hstep => noLeak_step parse hx hC hstep) (fun _ hx => hx) rfl halong
  · exact (unwinds_sameSecret parse).run hR ((along_of_mem (fun a ha _ => hT a ha) m).and h)
      ((along_of_mem (fun b hb _ => hT' b hb) m').and h') hrun hrun' ht

/-- Two processes that have just started. -/
theorem sameSecret_start (args : SwaylockArgs) {buffer buffer' : List UInt8} (h : buffer ≠ [])
    (hlen : buffer'.length = buffer.length) (toChild : Pipe) :
    SameSecret ⟨.start args buffer, toChild⟩ ⟨.start args buffer', toChild⟩ where
  alike := ⟨_, _, _, _, _, _, _, _, _, rfl⟩
  text := by
    have h' : buffer' ≠ [] := by
      intro he
      rw [he] at hlen
      exact h (List.length_eq_zero_iff.mp hlen.symm)
    exact ⟨⟨[], holds_initial h, holds_initial h'⟩, hlen⟩
  auth := rfl
  wipe := Or.inl rfl
  left := paired_start args buffer
  right := paired_start args buffer'
  toChild := rfl

/-- The list of brokers is shown; `Shift` is pressed in it, or not.  Two seconds later only one of
the processes has a timer that fires. -/
theorem secret_of_harmless_shift :
    ∃ n n', run (loopStep fun _ => some (.array []))
        [.message {} ⟨COMM_MSG_BROKERS, ascii "[]"⟩, .key {} .Shift_L 0, .timers {} ⟨2, 0⟩]
        ⟨.start {} (List.replicate 8 0), {}⟩ = some n ∧
      run (loopStep fun _ => some (.array []))
        [.message {} ⟨COMM_MSG_BROKERS, ascii "[]"⟩, .timers {} ⟨2, 0⟩]
        ⟨.start {} (List.replicate 8 0), {}⟩ = some n' ∧
      SameSecret n n' := by
  have hshift : Along (loopStep fun _ => some (.array [])) HarmlessKeys
      [.message {} ⟨COMM_MSG_BROKERS, ascii "[]"⟩, .key {} .Shift_L 0, .timers {} ⟨2, 0⟩]
      ⟨.start {} (List.replicate 8 0), {}⟩ := by
    refine ⟨trivial, fun m hm => ⟨fun _ => Or.inr ?_, fun _ _ => ⟨trivial, fun _ _ => trivial⟩⟩⟩
    cases hm
    rfl
  have hnone : Along (loopStep fun _ => some (.array [])) HarmlessKeys
      [.message {} ⟨COMM_MSG_BROKERS, ascii "[]"⟩, .timers {} ⟨2, 0⟩]
      ⟨.start {} (List.replicate 8 0), {}⟩ :=
    ⟨trivial, fun _ _ => ⟨trivial, fun _ _ => trivial⟩⟩
  have htyped : ∀ a ∈ [LoopEvent.message {} ⟨COMM_MSG_BROKERS, ascii "[]"⟩, .key {} .Shift_L 0,
      .timers {} ⟨2, 0⟩], a.Typed := by
    simp [LoopEvent.Typed]
  have htyped' : ∀ a ∈ [LoopEvent.message {} ⟨COMM_MSG_BROKERS, ascii "[]"⟩, .timers {} ⟨2, 0⟩],
      a.Typed := by
    simp [LoopEvent.Typed]
  refine ⟨_, _, rfl, rfl, ?_⟩
  exact (secret_of_harmless (fun _ => some (.array [])) hshift).2 _ _ _ _ htyped htyped' hnone
    (sameSecret_start {} (by simp) rfl {}) rfl rfl rfl

set_option maxRecDepth 10000 in
/-- **Keys typed in a list do reach the secret**: in the list of brokers `x` is appended to
the password and `Ctrl`+`m` sends it. -/
theorem secret_leaks_selection :
    ∃ n n', run (monitored (loopStep fun _ => some (.array [])) noteLeak)
        [.message {} ⟨COMM_MSG_BROKERS, ascii "[]"⟩, .key {} (.other 0x78) 0x78]
        (⟨.start {} (List.replicate 1024 0), {}⟩, false) = some (n, true) ∧
      n.state.password.len = 1 ∧
      run (monitored (loopStep fun _ => some (.array [])) noteLeak)
        [.message {} ⟨COMM_MSG_BROKERS, ascii "[]"⟩, .modifiers true false true,
          .key { writes := List.replicate 3 (.short 7) } .m 0x0D]
        (⟨.start {} (List.replicate 1024 0), {}⟩, false) = some (n', true) ∧
      n'.state.authdStage = .broker ∧ frames n'.toChild.data = [⟨COMM_MSG_PASSWORD, [0]⟩] := by
  refine ⟨_, _, rfl, rfl, rfl, rfl, ?_⟩
  decide

/-- An `a` is typed before the list is shown and a `b` afterwards; `keys` are pressed in the list,
and eleven seconds pass. -/
def listRun (keys : List LoopEvent) : List LoopEvent :=
  .key {} (.other 0x61) 0x61 :: .message {} ⟨COMM_MSG_BROKERS, ascii "[]"⟩ :: keys ++
    [.timers {} ⟨11, 0⟩, .message {} ⟨COMM_MSG_STAGE, [3]⟩, .key {} (.other 0x62) 0x62,
      .key { writes := List.replicate 4 (.short 7) } .Return 0x0D]

set_option maxRecDepth 10000 in
/-- **A `Shift` in the list changes what is sent later**: pressed after five seconds, it puts off
the wipe of the `a`. -/
theorem shift_in_list :
    ∃ n n', run (loopStep fun _ => some (.array []))
        (listRun [.key { clearPassword := some ⟨5, 0⟩ } .Shift_L 0])
        ⟨.start {} (List.replicate 8 0), {}⟩ = some n ∧
      frames n.toChild.data = [⟨COMM_MSG_PASSWORD, ascii "ab" ++ [0]⟩] ∧
      run (loopStep fun _ => some (.array [])) (listRun [])
        ⟨.start {} (List.replicate 8 0), {}⟩ = some n' ∧
      frames n'.toChild.data = [⟨COMM_MSG_PASSWORD, ascii "b" ++ [0]⟩] := by
  refine ⟨_, _, rfl, ?_, rfl, ?_⟩
  · decide
  · decide

/-! ## No other key is harmless -/

theorem allClear_of_clear {pw : SwaylockPassword} (h : clearPasswordBuffer pw = pw) :
    AllClear pw := by
  have hlen : 0 = pw.len := congrArg SwaylockPassword.len h
  have hbuf : clearBuffer pw.buffer pw.bufferLen = pw.buffer := congrArg SwaylockPassword.buffer h
  refine ⟨hlen.symm, ?_⟩
  rw [← hbuf, clearBuffer, List.take_left' (by simp)]

/-- The wipe of a password has been put off. -/
def PutOff (s t : SwaylockState) : Prop :=
  s.password.len ≠ 0 ∧ t.clearPasswordTimer ≠ s.clearPasswordTimer

/-- A timer that is armed anew has another pointer. -/
theorem schedulePasswordClear_ne {env : Env} {s : SwaylockState} (hs : Timed PointedBy s)
    (hclock : env.clearPassword ≠ none) :
    (schedulePasswordClear env s).clearPasswordTimer ≠ s.clearPasswordTimer := by
  obtain ⟨now, hnow⟩ := Option.ne_none_iff_exists'.mp hclock
  have hnew : (schedulePasswordClear env s).clearPasswordTimer = some s.eventloop.nextAddr := by
    show (s.eventloop.reschedule _ env.clearPassword _ _).2 = _
    rw [hnow, ← Loop.nextAddr_cancel s.eventloop s.clearPasswordTimer]
    rfl
  rw [hnew]
  intro he
  exact absurd (hs.1.addr_lt (hs.2 .clearPassword _ he.symm)) (Nat.lt_irrefl _)

/-- An edit that keeps the password and does not put off its wipe is harmless. -/
theorem harmless_of_edit {env : Env} {s : SwaylockState} {keysym : Keysym}
    {codepoint : UInt32} {cs : List Codepoint} (hs : Holds s.password cs)
    (hp : Timed PointedBy s) (hclock : env.clearPassword ≠ none)
    (action : keysym.action s.xkb.control ≠ .submit)
    (h : ((keysym.action s.xkb.control).edit env s codepoint).password = s.password)
    (hoff : ¬ PutOff s ((keysym.action s.xkb.control).edit env s codepoint)) :
    Harmless s keysym codepoint := by
  right
  cases hact : keysym.action s.xkb.control with
  | submit => exact absurd hact action
  | clear =>
    rw [hact] at h
    exact allClear_of_clear h
  | neutral =>
    rw [hact] at hoff
    by_contra hlen
    refine hoff ⟨hlen, ?_⟩
    have hn : Timed PointedBy { s with inputState := .neutral } :=
      timed_input hp s.password .neutral s.authState s.highlightStart s.damage
    exact schedulePasswordClear_ne hn hclock
  | erase =>
    rw [hact] at h
    have hsame := (holds_backspace hs).2
    rw [← backspaceKey_password env s, show (backspaceKey env s).password = s.password from h]
      at hsame
    have hlen := congrArg List.length (hs.unique hsame)
    rw [List.length_dropLast] at hlen
    exact hs.len_eq_zero.mpr (List.length_eq_zero_iff.mp (by omega))
  | text =>
    rw [hact] at h hoff
    change (textKey env s codepoint).password = s.password at h
    by_contra hn
    obtain ⟨h0, hroom⟩ := not_or.mp hn
    have ht : textKey env s codepoint = damageState (updateHighlight env (scheduleInputIdle env
        (schedulePasswordClear env
          { s with password := appendCh s.password codepoint, inputState := .letter }))) := by
      rw [textKey, if_pos h0]
    by_cases hfit : s.password.bufferLen ≤ s.password.len + utf8Chsize codepoint + 1
    · have hlen : s.password.len ≠ 0 := fun hz => hroom ⟨hz, hfit⟩
      refine hoff ⟨hlen, ?_⟩
      have hn : Timed PointedBy
          { s with password := appendCh s.password codepoint, inputState := .letter } :=
        timed_input hp _ _ s.authState s.highlightStart s.damage
      show (textKey env s codepoint).clearPasswordTimer ≠ _
      rw [ht]
      exact schedulePasswordClear_ne hn hclock
    · rw [ht] at h
      have hlen := congrArg SwaylockPassword.len (show appendCh s.password codepoint = _ from h)
      unfold appendCh at hlen
      rw [if_neg hfit] at hlen
      have hpos := Utf8.size_pos codepoint.toNat
      rw [← utf8Chsize_eq] at hpos
      change s.password.len + utf8Chsize codepoint = s.password.len at hlen
      omega

/-- A harmless key does not put off the wipe. -/
theorem not_putOff {env : Env} {s t : SwaylockState} {p q : Pipe} {keysym : Keysym}
    {codepoint : UInt32} (hh : Harmless s keysym codepoint)
    (h : swaylockHandleKey env s p keysym codepoint = .running t q) : ¬ PutOff s t := by
  rintro ⟨hlen, hne⟩
  cases ha : authdHandleKey env s p keysym with
  | some r =>
    rw [swaylockHandleKey, ha] at h
    obtain rfl : r = .running t q := h
    exact hne ((navigates_intercepted ha).keep _ (by intros; rfl))
  | none =>
    have hm := hh.resolve_left ((authdHandleKey_eq_none env s p keysym).mp ha)
    cases passwordKey_of_pass ha h with
    | submit action step =>
      rw [action] at hm
      cases step with
      | skip => exact hne rfl
      | fail hn => exact hn hm
      | send hn => exact hn hm
    | edit action =>
      cases hact : keysym.action s.xkb.control with
      | submit => exact action hact
      | clear => rw [hact] at hm; exact hlen hm.1
      | neutral => rw [hact] at hm; exact hlen hm
      | erase => rw [hact] at hm; exact hlen hm
      | text =>
        rw [hact] at hm hne
        rcases hm with h0 | ⟨hz, -⟩
        · refine hne ?_
          show (textKey env s codepoint).clearPasswordTimer = _
          rw [textKey, if_neg (not_not.mpr h0)]
        · exact hlen hz

/-- **Every other key leaks**: it changes the password, sends it, or puts off its wipe. -/
theorem leaks_iff {env : Env} {s t : SwaylockState} {p q : Pipe} {keysym : Keysym}
    {codepoint : UInt32} {cs : List Codepoint} (hs : Holds s.password cs)
    (hp : Timed PointedBy s) (hsecret : env.secret = true) (hclock : env.clearPassword ≠ none)
    (h : swaylockHandleKey env s p keysym codepoint = .running t q) :
    (t.password ≠ s.password ∨ wrotePassword ⟨s, p⟩ ⟨t, q⟩ = true ∨ PutOff s t) ↔
      ¬ Harmless s keysym codepoint := by
  refine ⟨fun hleak hh => ?_, fun hh => ?_⟩
  · obtain ⟨hpw, hw⟩ := harmless_key hh h
    rcases hleak with hbad | hbad | hbad
    · exact hbad hpw
    · exact absurd (hw.symm.trans hbad) (by decide)
    · exact not_putOff hh h hbad
  · have hi : ¬ Intercepts s keysym := fun hc => hh (Or.inl hc)
    cases passwordKey_of_pass ((authdHandleKey_eq_none env s p keysym).mpr hi) h with
    | submit action step =>
      have hskip : ¬ SubmitSkipped s := fun hc => hh (Or.inr (by rw [action]; exact hc))
      cases step with
      | skip hc => exact absurd hc hskip
      | fail _ memory => exact absurd (memory.symm.trans hsecret) (by decide)
      | send =>
        refine Or.inr (Or.inl ?_)
        rw [wrotePassword_frame rfl]
        rfl
    | edit hk =>
      by_contra hn
      obtain ⟨hpw, hn⟩ := not_or.mp hn
      exact hh (harmless_of_edit hs hp hclock hk (not_not.mp hpw) (not_or.mp hn).2)

end SwaylockAuthd
