import SwaylockAuthd.Discipline

/-!
# When the timers expire

Two runs give their timers different addresses and visit them in a different order.  What counts
of a timer is when it expires.

* `SwaylockState.deadline`: when the timer of a callback expires, if there is one.
* `deadline_edit`, `deadline_frame`: what keys and messages do to the deadlines.
* `dispatchTimers`: the walk of `loop_poll` over its timers.
* `dispatchTimers_spec`: it runs the callbacks whose deadline has passed.
-/

namespace SwaylockAuthd

open Transition

/-! ## Deadlines -/

namespace Loop

variable {κ : Type}

/-- When the timer of a pointer expires. -/
def expiry (l : Loop κ) (timer : Option Nat) : Option Timespec :=
  timer.bind fun addr => (l.find addr).map LoopTimer.expiry

theorem find_cancel (l : Loop κ) {timer : Option Nat} {addr : Nat} (h : timer ≠ some addr) :
    (l.cancel timer).find addr = l.find addr := by
  cases timer with
  | none => rfl
  | some a =>
    have ha : addr ≠ a := fun he => h (congrArg some he.symm)
    have hkeep : ∀ t : LoopTimer κ, t.addr = addr →
        (if t.addr = a then { t with removed := true } else t) = t := fun t ht =>
      if_neg (by rw [ht]; exact ha)
    show List.find? _ (l.timers.map _) = _
    rw [List.find?_map]
    have hsame : ((fun t : LoopTimer κ => decide (t.addr = addr)) ∘
        fun t => if t.addr = a then { t with removed := true } else t) =
        fun t => decide (t.addr = addr) := by
      funext t
      by_cases ht : t.addr = a <;> simp [ht]
    rw [hsame, ← find]
    cases hf : l.find addr with
    | none => rfl
    | some t =>
      have ht : t.addr = addr := by simpa using List.find?_some hf
      rw [Option.map_some, hkeep t ht]

theorem find_unlink (l : Loop κ) {a addr : Nat} (h : addr ≠ a) :
    (l.unlink a).find addr = l.find addr := by
  rw [find, unlink, List.find?_filter, find]
  congr 1
  funext t
  by_cases ht : t.addr = addr
  · simp [ht, h]
  · simp [ht]

theorem Sound.addr_lt {l : Loop κ} (h : l.Sound) {addr : Nat} {c : κ} (hl : l.Live addr c) :
    addr < l.nextAddr := by
  obtain ⟨t, ht, rfl, -⟩ := hl
  exact h.lt t ht

theorem nextAddr_cancel (l : Loop κ) (timer : Option Nat) :
    (l.cancel timer).nextAddr = l.nextAddr := by
  cases timer <;> rfl

/-- The timer that is added expires when it was said to. -/
theorem expiry_rescheduled (l : Loop κ) (timer : Option Nat) (env : Option Timespec) (ms : Nat)
    (callback : κ) :
    (l.reschedule timer env ms callback).1.expiry (l.reschedule timer env ms callback).2 =
      env.map (·.after ms) := by
  cases env with
  | none => rfl
  | some now => simp [reschedule, addTimer, expiry, find]

/-- Another timer is not touched. -/
theorem find_reschedule {l : Loop κ} (h : l.Sound) {addr : Nat} {c : κ} (hl : l.Live addr c)
    {timer : Option Nat} (hne : timer ≠ some addr) (env : Option Timespec) (ms : Nat)
    (callback : κ) : (l.reschedule timer env ms callback).1.find addr = l.find addr := by
  rw [← find_cancel l hne]
  cases env with
  | none => rfl
  | some now =>
    have hnew : (l.cancel timer).nextAddr ≠ addr := by
      rw [nextAddr_cancel]
      exact (h.addr_lt hl).ne'
    exact List.find?_cons_of_neg (by simpa using hnew)

end Loop

/-- Replacing one timer changes its own deadline. -/
theorem PointedBy.expiry_reschedule {l : Loop TimerCallback} {f g : TimerCallback → Option Nat}
    (h : PointedBy l f) (c : TimerCallback) (env : Option Timespec) (ms : Nat)
    (hp : g c = (l.reschedule (f c) env ms c).2) (hk : ∀ d, d ≠ c → g d = f d)
    (d : TimerCallback) :
    (l.reschedule (f c) env ms c).1.expiry (g d) =
      if d = c then env.map (·.after ms) else l.expiry (f d) := by
  by_cases hd : d = c
  · subst hd
    rw [if_pos rfl, hp, Loop.expiry_rescheduled]
  · rw [if_neg hd, hk d hd]
    cases hf : f d with
    | none => rfl
    | some addr =>
      have hlive := h.2 d addr hf
      have hne : f c ≠ some addr := h.ne hlive fun he => hd he.symm
      simp only [Loop.expiry, Option.bind_some, Loop.find_reschedule h.1 hlive hne]

/-- Removing one timer changes its own deadline. -/
theorem PointedBy.expiry_cancel {l : Loop TimerCallback} {f g : TimerCallback → Option Nat}
    (h : PointedBy l f) (c : TimerCallback) (hp : g c = none) (hk : ∀ d, d ≠ c → g d = f d)
    (d : TimerCallback) :
    (l.cancel (f c)).expiry (g d) = if d = c then none else l.expiry (f d) := by
  by_cases hd : d = c
  · subst hd
    rw [if_pos rfl, hp]
    rfl
  · rw [if_neg hd, hk d hd]
    cases hf : f d with
    | none => rfl
    | some addr =>
      have hne : f c ≠ some addr := h.ne (h.2 d addr hf) fun he => hd he.symm
      simp only [Loop.expiry, Option.bind_some, Loop.find_cancel l hne]

/-- When the timer of a callback expires, if there is one. -/
def SwaylockState.deadline (s : SwaylockState) (c : TimerCallback) : Option Timespec :=
  s.eventloop.expiry (s.timer c)

theorem deadline_of_eq {s t : SwaylockState} (hl : t.eventloop = s.eventloop)
    (hk : ∀ c, t.timer c = s.timer c) (c : TimerCallback) : t.deadline c = s.deadline c := by
  rw [SwaylockState.deadline, hl, hk c]
  rfl

@[simp] theorem deadline_damageState (s : SwaylockState) (c : TimerCallback) :
    (damageState s).deadline c = s.deadline c :=
  deadline_of_eq rfl (fun c => by cases c <;> rfl) c

/-- The fields a deadline does not depend on. -/
theorem deadline_input (s : SwaylockState) (password : SwaylockPassword) (inputState : InputState)
    (authState : AuthState) (highlightStart damage : Nat) (c : TimerCallback) :
    SwaylockState.deadline { s with password, inputState, authState, highlightStart, damage } c =
      s.deadline c :=
  deadline_of_eq rfl (fun c => by cases c <;> rfl) c

theorem deadline_updateHighlight (env : Env) (s : SwaylockState) (c : TimerCallback) :
    (updateHighlight env s).deadline c = s.deadline c := deadline_input s _ _ _ _ _ c

section Schedule

variable {s : SwaylockState} (hs : Timed PointedBy s)
include hs

theorem deadline_scheduleInputIdle (env : Env) (c : TimerCallback) :
    (scheduleInputIdle env s).deadline c =
      if c = .setInputIdle then env.inputIdle.map (·.after 1500) else s.deadline c := by
  refine PointedBy.expiry_reschedule (g := (scheduleInputIdle env s).timer) hs .setInputIdle
    env.inputIdle 1500 rfl (fun d hd => ?_) c
  cases d <;> first | rfl | exact absurd rfl hd

theorem deadline_scheduleAuthIdle (env : Env) (c : TimerCallback) :
    (scheduleAuthIdle env s).deadline c =
      if c = .setAuthIdle then env.authIdle.map (·.after 3000) else s.deadline c := by
  refine PointedBy.expiry_reschedule (g := (scheduleAuthIdle env s).timer) hs .setAuthIdle
    env.authIdle 3000 rfl (fun d hd => ?_) c
  cases d <;> first | rfl | exact absurd rfl hd

theorem deadline_schedulePasswordClear (env : Env) (c : TimerCallback) :
    (schedulePasswordClear env s).deadline c =
      if c = .clearPassword then env.clearPassword.map (·.after 10000) else s.deadline c := by
  refine PointedBy.expiry_reschedule (g := (schedulePasswordClear env s).timer) hs .clearPassword
    env.clearPassword 10000 rfl (fun d hd => ?_) c
  cases d <;> first | rfl | exact absurd rfl hd

theorem deadline_cancelInputIdle (c : TimerCallback) :
    (cancelInputIdle s).deadline c = if c = .setInputIdle then none else s.deadline c := by
  refine PointedBy.expiry_cancel (g := (cancelInputIdle s).timer) hs .setInputIdle rfl
    (fun d hd => ?_) c
  cases d <;> first | rfl | exact absurd rfl hd

theorem deadline_cancelPasswordClear (c : TimerCallback) :
    (cancelPasswordClear s).deadline c = if c = .clearPassword then none else s.deadline c := by
  refine PointedBy.expiry_cancel (g := (cancelPasswordClear s).timer) hs .clearPassword rfl
    (fun d hd => ?_) c
  cases d <;> first | rfl | exact absurd rfl hd

end Schedule

/-! ## Keys and messages -/

/-- When the password will be wiped, after an edit. -/
def KeyAction.wipe (env : Env) (s : SwaylockState) (codepoint : UInt32) :
    KeyAction → Option Timespec
  | .submit => s.deadline .clearPassword
  | .clear => none
  | .erase =>
    if (backspace s.password).1 ∧ (backspace s.password).2.len ≠ 0 then
      env.clearPassword.map (·.after 10000)
    else none
  | .neutral => env.clearPassword.map (·.after 10000)
  | .text =>
    if codepoint ≠ 0 then env.clearPassword.map (·.after 10000) else s.deadline .clearPassword

/-- Arming the wipe and the idle timer. -/
theorem deadline_arm {s : SwaylockState} (hs : Timed PointedBy s) (env : Env) :
    (scheduleInputIdle env (schedulePasswordClear env s)).deadline .setAuthIdle =
        s.deadline .setAuthIdle ∧
      (scheduleInputIdle env (schedulePasswordClear env s)).deadline .clearPassword =
        env.clearPassword.map (·.after 10000) := by
  have hc := timerInvariant_pointed.schedulePasswordClear env hs
  rw [deadline_scheduleInputIdle hc, deadline_scheduleInputIdle hc,
    deadline_schedulePasswordClear hs, deadline_schedulePasswordClear hs]
  exact ⟨rfl, rfl⟩

/-- The same, with the highlight moved in between. -/
theorem deadline_arm_highlight {s : SwaylockState} (hs : Timed PointedBy s) (env : Env) :
    (scheduleInputIdle env (updateHighlight env (schedulePasswordClear env s))).deadline
        .setAuthIdle = s.deadline .setAuthIdle ∧
      (scheduleInputIdle env (updateHighlight env (schedulePasswordClear env s))).deadline
        .clearPassword = env.clearPassword.map (·.after 10000) := by
  have hc := timerInvariant_pointed.schedulePasswordClear env hs
  have hu : Timed PointedBy (updateHighlight env (schedulePasswordClear env s)) :=
    timed_input hc _ _ _ _ _
  rw [deadline_scheduleInputIdle hu, deadline_scheduleInputIdle hu, deadline_updateHighlight,
    deadline_updateHighlight, deadline_schedulePasswordClear hs, deadline_schedulePasswordClear hs]
  exact ⟨rfl, rfl⟩

/-- Taking the wipe away. -/
theorem deadline_disarm {s : SwaylockState} (hs : Timed PointedBy s) (env : Env) :
    (scheduleInputIdle env (cancelPasswordClear s)).deadline .setAuthIdle =
        s.deadline .setAuthIdle ∧
      (scheduleInputIdle env (cancelPasswordClear s)).deadline .clearPassword = none := by
  have hc := timerInvariant_pointed.cancelPasswordClear hs
  rw [deadline_scheduleInputIdle hc, deadline_scheduleInputIdle hc,
    deadline_cancelPasswordClear hs, deadline_cancelPasswordClear hs]
  exact ⟨rfl, rfl⟩

/-- **What an edit does to the deadlines**. -/
theorem deadline_edit {s : SwaylockState} (hs : Timed PointedBy s) (env : Env)
    (codepoint : UInt32) (a : KeyAction) :
    (a.edit env s codepoint).deadline .setAuthIdle = s.deadline .setAuthIdle ∧
      (a.edit env s codepoint).deadline .clearPassword = a.wipe env s codepoint := by
  have hinput : ∀ (password : SwaylockPassword) (inputState : InputState),
      Timed PointedBy { s with password, inputState } := fun password inputState =>
    timed_input hs password inputState s.authState s.highlightStart s.damage
  cases a with
  | submit => exact ⟨rfl, rfl⟩
  | clear =>
    show (clearKey env s).deadline _ = _ ∧ (clearKey env s).deadline _ = _
    unfold clearKey
    rw [deadline_damageState, deadline_damageState]
    exact deadline_disarm (hinput (clearPasswordBuffer s.password) .clear) env
  | neutral =>
    show (neutralKey env s).deadline _ = _ ∧ (neutralKey env s).deadline _ = _
    unfold neutralKey
    rw [deadline_damageState, deadline_damageState]
    exact deadline_arm (hinput s.password .neutral) env
  | erase =>
    show (backspaceKey env s).deadline _ = _ ∧ (backspaceKey env s).deadline _ = _
    unfold backspaceKey KeyAction.wipe
    rw [deadline_damageState, deadline_damageState]
    dsimp only
    split
    · exact deadline_arm_highlight (hinput (backspace s.password).2 .backspace) env
    · exact deadline_disarm (hinput (backspace s.password).2 .clear) env
  | text =>
    show (textKey env s codepoint).deadline _ = _ ∧ (textKey env s codepoint).deadline _ = _
    unfold textKey KeyAction.wipe
    split
    · rw [deadline_damageState, deadline_damageState, deadline_updateHighlight,
        deadline_updateHighlight]
      exact deadline_arm (hinput (appendCh s.password codepoint) .letter) env
    · exact ⟨rfl, rfl⟩

/-- The two timers of the input are removed before a password is sent. -/
theorem deadline_cancelBoth {s : SwaylockState} (hs : Timed PointedBy s) (authState : AuthState) :
    (cancelInputIdle (cancelPasswordClear { s with inputState := .idle, authState })).deadline
        .setAuthIdle = s.deadline .setAuthIdle ∧
      (cancelInputIdle (cancelPasswordClear { s with inputState := .idle, authState })).deadline
        .clearPassword = none := by
  have h : Timed PointedBy { s with inputState := .idle, authState } :=
    timed_input hs s.password .idle authState s.highlightStart s.damage
  have hc := timerInvariant_pointed.cancelPasswordClear h
  rw [deadline_cancelInputIdle hc, deadline_cancelInputIdle hc, deadline_cancelPasswordClear h,
    deadline_cancelPasswordClear h]
  exact ⟨rfl, rfl⟩

theorem deadline_submitted {s : SwaylockState} (hs : Timed PointedBy s) :
    (submitted s).deadline .setAuthIdle = s.deadline .setAuthIdle ∧
      (submitted s).deadline .clearPassword = none :=
  deadline_cancelBoth hs .validating

theorem deadline_submitFailed {s : SwaylockState} (hs : Timed PointedBy s) (env : Env) :
    (submitFailed env s).deadline .setAuthIdle = env.authIdle.map (·.after 3000) ∧
      (submitFailed env s).deadline .clearPassword = none := by
  have h := timerInvariant_pointed.cancelBoth hs .validating
  have hi := timed_input h (clearPasswordBuffer s.password) .idle .invalid s.highlightStart s.damage
  obtain ⟨-, hclear⟩ := deadline_cancelBoth hs .validating
  refine ⟨(deadline_damageState _ _).trans ((deadline_scheduleAuthIdle hi env _).trans rfl),
    (deadline_damageState _ _).trans ((deadline_scheduleAuthIdle hi env _).trans ?_)⟩
  exact hclear

/-- The frames that count as a failed attempt. -/
def Rejects (s : SwaylockState) (f : Frame) : Prop :=
  f.type = COMM_MSG_AUTH_RESULT ∧ ¬ Grants f ∨ Retries s f

instance (s : SwaylockState) (f : Frame) : Decidable (Rejects s f) :=
  inferInstanceAs (Decidable (_ ∨ _))

theorem Informs.deadline {s t : SwaylockState} (h : Informs s t) (c : TimerCallback) :
    t.deadline c = s.deadline c :=
  h.keep (fun u => u.deadline c) (by intros; cases c <;> rfl)

/-- **What a message does to the deadlines**. -/
theorem deadline_frame {env : Env} {s t : SwaylockState} {f : Frame} (hs : Timed PointedBy s)
    (h : FrameStep env s f t) :
    t.deadline .setAuthIdle =
        (if Rejects s f then env.authIdle.map (·.after 3000) else s.deadline .setAuthIdle) ∧
      t.deadline .clearPassword = s.deadline .clearPassword := by
  have rejected : (reject env s).deadline .setAuthIdle = env.authIdle.map (·.after 3000) ∧
      (reject env s).deadline .clearPassword = s.deadline .clearPassword := by
    have h := timed_input hs s.password s.inputState .invalid s.highlightStart s.damage
    have hsame : ∀ c, (reject env s).deadline c =
        (scheduleAuthIdle env { s with authState := .invalid }).deadline c :=
      deadline_of_eq rfl fun c => by cases c <;> rfl
    rw [hsame, hsame, deadline_scheduleAuthIdle h, deadline_scheduleAuthIdle h]
    exact ⟨rfl, rfl⟩
  have hstage : COMM_MSG_STAGE ≠ COMM_MSG_AUTH_RESULT := by decide
  cases h with
  | granted hg =>
    have hn : ¬ Rejects s f := by
      rintro (⟨-, hn⟩ | hr)
      · exact hn hg
      · exact hstage (hr.1.symm.trans hg.1)
    rw [if_neg hn]
    exact ⟨rfl, rfl⟩
  | denied type hg keep =>
    rw [if_pos (show Rejects s f from Or.inl ⟨type, hg⟩), keep.deadline, keep.deadline]
    exact rejected
  | retried hr keep =>
    rw [if_pos (show Rejects s f from Or.inr hr), keep.deadline, keep.deadline]
    exact rejected
  | settled type keep =>
    have hn : ¬ Rejects s f := by
      rintro (⟨hr, -⟩ | hr)
      · rcases type with ht | ht
        · exact absurd (ht.symm.trans hr) (by decide)
        · exact absurd (ht.symm.trans hr) (by decide)
      · rcases type with ht | ht
        · exact absurd (ht.symm.trans hr.1) (by decide)
        · exact absurd (ht.symm.trans hr.1) (by decide)
    rw [if_neg hn, keep.deadline, keep.deadline]
    exact ⟨rfl, rfl⟩
  | informed type hr keep =>
    have hn : ¬ Rejects s f := not_or.mpr ⟨fun h => type h.1, hr⟩
    rw [if_neg hn, keep.deadline, keep.deadline]
    exact ⟨rfl, rfl⟩

/-! ## The walk over the timers -/

/-- The pointers point to their timers, and nothing else can fire. -/
structure Paired (s : SwaylockState) : Prop where
  pointed : Timed PointedBy s
  owned : Owned s

theorem paired_mainStep {parse : CString → Option Json} {a : MainEvent} {m n : MainProcess}
    (hs : Paired m.state) (h : mainStep parse a m = some n) : Paired n.state :=
  ⟨pointed_mainStep hs.pointed h, owned_mainStep hs.owned h⟩

theorem paired_start (args : SwaylockArgs) (buffer : List UInt8) : Paired (.start args buffer) where
  pointed := ⟨Loop.sound_empty, fun c addr hc => by cases c <;> cases hc⟩
  owned := fun t ht => by cases ht

/-- `loop_poll` at the time `now`: the walk over the timers of the list.  A callback puts its own
timer in front, which the walk does not reach. -/
def dispatchTimers (env : Env) (now : Timespec) (s : SwaylockState) : SwaylockState :=
  (s.eventloop.timers.map LoopTimer.addr).foldl (fun s addr => visitTimer env now addr s) s

/-- The deadline of a callback has passed. -/
def SwaylockState.expired (s : SwaylockState) (now : Timespec) (c : TimerCallback) : Bool :=
  (s.deadline c).any (·.before now)

/-- A timer fires when it is the one its pointer points to and its deadline has passed. -/
theorem Paired.due_iff {s : SwaylockState} (hs : Paired s) {now : Timespec} {addr : Nat}
    {c : TimerCallback} :
    s.eventloop.due now addr = some c ↔ s.timer c = some addr ∧ s.expired now c = true := by
  constructor
  · intro h
    obtain ⟨t, ht, rfl, rfl, hlive⟩ := Loop.mem_of_due h
    have hp := hs.owned t ht hlive
    refine ⟨hp, ?_⟩
    unfold Loop.due at h
    rw [SwaylockState.expired, SwaylockState.deadline, Loop.expiry, hp, Option.bind_some]
    cases hf : s.eventloop.find t.addr with
    | none => rw [hf] at h; cases h
    | some u =>
      rw [hf] at h
      dsimp only at h
      split at h
      · rename_i hu
        exact hu.2
      · cases h
  · rintro ⟨hp, he⟩
    obtain ⟨t, hf, hlive, rfl⟩ := hs.pointed.1.find_of_live (hs.pointed.2 c addr hp)
    rw [SwaylockState.expired, SwaylockState.deadline, Loop.expiry, hp, Option.bind_some, hf] at he
    rw [Loop.due, hf]
    exact if_pos ⟨hlive, he⟩

/-- The states agree on all but the timers, the password, the display of the input and the
modifiers. -/
def Alike (s t : SwaylockState) : Prop :=
  ∃ l i a c w n k d x, t = { s with
    eventloop := l, inputIdleTimer := i, authIdleTimer := a, clearPasswordTimer := c
    password := w, inputState := n, highlightStart := k, damage := d, xkb := x }

theorem Alike.refl (s : SwaylockState) : Alike s s := ⟨_, _, _, _, _, _, _, _, _, rfl⟩

theorem Alike.symm {s t : SwaylockState} (h : Alike s t) : Alike t s := by
  obtain ⟨l, i, a, c, w, n, k, d, x, rfl⟩ := h
  exact ⟨s.eventloop, s.inputIdleTimer, s.authIdleTimer, s.clearPasswordTimer, s.password,
    s.inputState, s.highlightStart, s.damage, s.xkb, rfl⟩

theorem Alike.trans {s t u : SwaylockState} (h : Alike s t) (g : Alike t u) : Alike s u := by
  obtain ⟨l, i, a, c, w, n, k, d, x, rfl⟩ := h
  obtain ⟨l', i', a', c', w', n', k', d', x', rfl⟩ := g
  exact ⟨l', i', a', c', w', n', k', d', x', rfl⟩

/-- The state of the authentication when the callbacks of `hit` have run. -/
def SwaylockState.settled (s : SwaylockState) (hit : TimerCallback → Bool) : SwaylockState :=
  { s with authState := if hit .setAuthIdle then .idle else s.authState }

theorem Alike.settled {s t : SwaylockState} (h : Alike s t) (hit : TimerCallback → Bool) :
    Alike (s.settled hit) (t.settled hit) := by
  obtain ⟨l, i, a, c, w, n, k, d, x, rfl⟩ := h
  exact ⟨l, i, a, c, w, n, k, d, x, rfl⟩

theorem settled_settled (s : SwaylockState) (hit hit' : TimerCallback → Bool) :
    (s.settled hit).settled hit' = s.settled fun c => hit c || hit' c := by
  refine congrArg (fun v => { s with authState := v }) ?_
  show (if hit' .setAuthIdle then AuthState.idle
    else if hit .setAuthIdle then .idle else s.authState) =
      if hit .setAuthIdle || hit' .setAuthIdle then .idle else s.authState
  cases hit .setAuthIdle <;> cases hit' .setAuthIdle <;> rfl

/-- `t` is what the callbacks of `hit` make of `s`, but for the idle timer of the input. -/
structure Fires (hit : TimerCallback → Bool) (s t : SwaylockState) : Prop where
  alike : Alike (s.settled hit) t
  password : t.password = if hit .clearPassword then clearPasswordBuffer s.password else s.password
  timer : ∀ c, c ≠ .setInputIdle → t.timer c = if hit c then none else s.timer c
  deadline : ∀ c, c ≠ .setInputIdle → t.deadline c = if hit c then none else s.deadline c

theorem clearPasswordBuffer_idem (pw : SwaylockPassword) :
    clearPasswordBuffer (clearPasswordBuffer pw) = clearPasswordBuffer pw := by
  simp [clearPasswordBuffer, clearBuffer]

namespace Fires

variable {hit hit' : TimerCallback → Bool} {s t u : SwaylockState}

theorem congr (h : Fires hit s t) (hc : ∀ c, c ≠ .setInputIdle → hit c = hit' c) :
    Fires hit' s t := by
  have hauth : hit .setAuthIdle = hit' .setAuthIdle := hc _ (by decide)
  have hclear : hit .clearPassword = hit' .clearPassword := hc _ (by decide)
  refine ⟨?_, ?_, fun c hne => ?_, fun c hne => ?_⟩
  · rw [SwaylockState.settled, ← hauth]
    exact h.alike
  · rw [← hclear]
    exact h.password
  · rw [← hc c hne]
    exact h.timer c hne
  · rw [← hc c hne]
    exact h.deadline c hne

/-- Nothing fires. -/
theorem quiet (h : Alike s t) (hp : t.password = s.password)
    (ht : ∀ c, c ≠ .setInputIdle → t.timer c = s.timer c)
    (hd : ∀ c, c ≠ .setInputIdle → t.deadline c = s.deadline c) : Fires (fun _ => false) s t :=
  ⟨h, hp, ht, hd⟩

theorem trans (h : Fires hit s t) (g : Fires hit' t u) : Fires (fun c => hit c || hit' c) s u := by
  refine ⟨?_, ?_, fun c hc => ?_, fun c hc => ?_⟩
  · rw [← settled_settled]
    exact (h.alike.settled hit').trans g.alike
  · rw [g.password, h.password]
    cases hit .clearPassword <;> cases hit' .clearPassword <;>
      first | rfl | exact clearPasswordBuffer_idem _
  · rw [g.timer c hc, h.timer c hc]
    cases hit c <;> cases hit' c <;> rfl
  · rw [g.deadline c hc, h.deadline c hc]
    cases hit c <;> cases hit' c <;> rfl

end Fires

theorem deadline_unlink {s : SwaylockState} {addr : Nat} {c : TimerCallback}
    (h : s.timer c ≠ some addr) :
    SwaylockState.deadline { s with eventloop := s.eventloop.unlink addr } c = s.deadline c := by
  have ht : SwaylockState.timer { s with eventloop := s.eventloop.unlink addr } c = s.timer c := by
    cases c <;> rfl
  rw [SwaylockState.deadline, SwaylockState.deadline, ht]
  cases hp : s.timer c with
  | none => rfl
  | some a =>
    have hne : a ≠ addr := fun he => h (hp.trans (congrArg some he))
    simp only [Loop.expiry, Option.bind_some, Loop.find_unlink _ hne]

/-- Freeing a timer that no pointer points to. -/
theorem fires_unlink {hit : TimerCallback → Bool} {s t : SwaylockState} {addr : Nat}
    (h : Fires hit s t) (hp : ∀ c, t.timer c ≠ some addr) :
    Fires hit s { t with eventloop := t.eventloop.unlink addr } where
  alike := h.alike.trans ⟨_, _, _, _, _, _, _, _, _, rfl⟩
  password := h.password
  timer c hc := Eq.trans (by cases c <;> rfl) (h.timer c hc)
  deadline c hc := (deadline_unlink (hp c)).trans (h.deadline c hc)

/-- The only callback that is due. -/
def only (d c : TimerCallback) : Bool := decide (c = d)

/-- A callback that runs. -/
theorem fires_call {s : SwaylockState} (hs : Paired s) (env : Env) (d : TimerCallback) :
    Fires (only d) s (d.call env s) := by
  cases d with
  | setInputIdle =>
    refine (Fires.quiet ⟨_, _, _, _, _, _, _, _, _, rfl⟩ rfl ?_ ?_).congr ?_
    · intro c hc
      cases c with
      | setInputIdle => exact absurd rfl hc
      | setAuthIdle => rfl
      | clearPassword => rfl
    · intro c hc
      cases c with
      | setInputIdle => exact absurd rfl hc
      | setAuthIdle => rfl
      | clearPassword => rfl
    · intro c hc
      exact (decide_eq_false hc).symm
  | setAuthIdle =>
    refine ⟨⟨_, _, _, _, _, _, _, _, _, rfl⟩, rfl, ?_, ?_⟩
    · intro c _
      cases c <;> rfl
    · intro c _
      cases c <;> rfl
  | clearPassword =>
    have hp : Timed PointedBy { s with clearPasswordTimer := none, inputState := .clear } := by
      refine pointed_forget .clearPassword hs.pointed rfl rfl ?_
      intro c hc
      cases c <;> first | rfl | exact absurd rfl hc
    refine ⟨⟨_, _, _, _, _, _, _, _, _, rfl⟩, rfl, ?_, ?_⟩
    · intro c hc
      cases c <;> first | rfl | exact absurd rfl hc
    · intro c hc
      -- the timer that is armed here is the one left out
      have hd := deadline_scheduleInputIdle hp env c
      rw [if_neg hc] at hd
      refine (deadline_of_eq rfl (fun c => by cases c <;> rfl) c).trans (hd.trans ?_)
      cases c with
      | setInputIdle => exact absurd rfl hc
      | setAuthIdle => rfl
      | clearPassword => rfl

/-- **One timer of the walk.** -/
theorem fires_visitTimer {s : SwaylockState} (hs : Paired s) (env : Env) (now : Timespec)
    (addr : Nat) :
    Fires (fun c => decide (s.timer c = some addr) && s.expired now c) s
      (visitTimer env now addr s) := by
  cases hdue : s.eventloop.due now addr with
  | some d =>
    obtain ⟨hp, he⟩ := hs.due_iff.mp hdue
    have hlive := hs.pointed.2 d addr hp
    rw [visitTimer_due hdue]
    obtain ⟨hcall, hnone, hlive'⟩ := pointed_call env hs.pointed hlive
    have hfree : ∀ c, (d.call env s).timer c ≠ some addr := by
      intro c hc
      by_cases hcd : c = d
      · rw [hcd, hnone] at hc
        cases hc
      · exact hcall.ne hlive' hcd hc
    refine (fires_unlink (fires_call hs env d) hfree).congr fun c _ => ?_
    by_cases hcd : c = d
    · subst hcd
      simp [only, hp, he]
    · simp [only, hcd, hs.pointed.ne hlive hcd]
  | none =>
    have hquiet : ∀ c, (decide (s.timer c = some addr) && s.expired now c) = false := by
      intro c
      rw [Bool.and_eq_false_iff, decide_eq_false_iff_not]
      by_contra hc
      obtain ⟨hp, he⟩ := not_or.mp hc
      have := hs.due_iff.mpr ⟨not_not.mp hp, (Bool.not_eq_false _).mp he⟩
      rw [hdue] at this
      cases this
    have hrefl : Fires (fun _ => false) s s :=
      .quiet (Alike.refl s) rfl (fun _ _ => rfl) (fun _ _ => rfl)
    refine Fires.congr ?_ fun c _ => (hquiet c).symm
    unfold visitTimer
    split
    · rename_i hstale
      refine fires_unlink hrefl fun c hc => ?_
      rw [hs.pointed.1.not_stale (hs.pointed.2 c addr hc)] at hstale
      cases hstale
    · rw [hdue]
      exact hrefl

theorem paired_visitTimer {s : SwaylockState} (hs : Paired s) (env : Env) (now : Timespec)
    (addr : Nat) : Paired (visitTimer env now addr s) :=
  ⟨pointed_visitTimer env now addr hs.pointed, owned_visitTimer env now addr hs.owned⟩

/-- A part of the walk runs the callbacks whose timers it visits and whose deadline has passed. -/
theorem fires_visits {s : SwaylockState} (hs : Paired s) (env : Env) (now : Timespec)
    (addrs : List Nat) :
    Fires (fun c => addrs.any (fun addr => s.timer c = some addr) && s.expired now c) s
        (addrs.foldl (fun s addr => visitTimer env now addr s) s) ∧
      Paired (addrs.foldl (fun s addr => visitTimer env now addr s) s) := by
  induction addrs generalizing s with
  | nil => exact ⟨.quiet (Alike.refl s) rfl (fun _ _ => rfl) (fun _ _ => rfl), hs⟩
  | cons addr addrs ih =>
    have hone := fires_visitTimer hs env now addr
    obtain ⟨hrest, hpaired⟩ := ih (paired_visitTimer hs env now addr)
    refine ⟨(hone.trans hrest).congr fun c hc => ?_, hpaired⟩
    have hexpired : (visitTimer env now addr s).expired now c =
        (!(decide (s.timer c = some addr) && s.expired now c) && s.expired now c) := by
      rw [SwaylockState.expired, hone.deadline c hc]
      cases decide (s.timer c = some addr) && s.expired now c <;> rfl
    rw [hexpired, hone.timer c hc, List.any_cons]
    -- a callback that has run has no deadline left
    cases s.expired now c <;> cases decide (s.timer c = some addr) <;> simp

/-- **The walk over the timers** runs the callbacks whose deadline has passed. -/
theorem dispatchTimers_spec {s : SwaylockState} (hs : Paired s) (env : Env) (now : Timespec) :
    Fires (s.expired now) s (dispatchTimers env now s) ∧ Paired (dispatchTimers env now s) := by
  obtain ⟨hfires, hpaired⟩ :=
    fires_visits hs env now (s.eventloop.timers.map LoopTimer.addr)
  refine ⟨hfires.congr fun c _ => ?_, hpaired⟩
  cases he : s.expired now c with
  | false => exact Bool.and_false _
  | true =>
    rw [Bool.and_true, List.any_eq_true]
    cases hp : s.timer c with
    | none =>
      rw [SwaylockState.expired, SwaylockState.deadline, hp] at he
      cases he
    | some addr =>
      obtain ⟨t, ht, rfl, -⟩ := hs.pointed.2 c addr hp
      exact ⟨t.addr, List.mem_map_of_mem ht, by simp⟩

/-! ## The event loop -/

/-- A callback of the event loop, or its walk over the timers. -/
inductive LoopEvent
  | key (env : Env) (keysym : Keysym) (codepoint : UInt32)
  | modifiers (layoutSame capsLock control : Bool)
  | timers (env : Env) (now : Timespec)
  | message (env : Env) (f : Frame)
  | childGone

/-- One of them; `none` when the process does not survive it or does not return. -/
def loopStep (parse : CString → Option Json) : LoopEvent → MainProcess → Option MainProcess
  | .key env keysym codepoint, m => mainStep parse (.key env keysym codepoint) m
  | .modifiers layoutSame capsLock control, m =>
    mainStep parse (.modifiers layoutSame capsLock control) m
  | .timers env now, m => some { m with state := dispatchTimers env now m.state }
  | .message env f, m => mainStep parse (.message env f) m
  | .childGone, m => mainStep parse .childGone m

theorem paired_loopStep {parse : CString → Option Json} {a : LoopEvent} {m n : MainProcess}
    (hs : Paired m.state) (h : loopStep parse a m = some n) : Paired n.state := by
  unfold loopStep at h
  split at h
  · exact paired_mainStep hs h
  · exact paired_mainStep hs h
  · cases h
    exact (dispatchTimers_spec hs _ _).2
  · exact paired_mainStep hs h
  · exact paired_mainStep hs h

end SwaylockAuthd
