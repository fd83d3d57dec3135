import SwaylockAuthd.MainProcess

/-!
# The pointers to the timers

The state keeps one pointer for each of the three callbacks.  `TimerInvariant`: a property
of the list and the pointers that the two ways the code changes a pointer keep; then
every key and every frame keeps it.  `Owned` is one: a timer that can still fire is the
one the pointer of its callback points to, so there is at most one for each callback and
a `NULL` pointer means there is none.

* `TimerInvariant.key`, `TimerInvariant.frame`: what a key and a frame keep.
* `owned_mainStep`: every callback keeps `Owned`.
-/

namespace SwaylockAuthd

open Transition

/-- The pointer for a callback. -/
def SwaylockState.timer (s : SwaylockState) : TimerCallback → Option Nat
  | .setInputIdle => s.inputIdleTimer
  | .setAuthIdle => s.authIdleTimer
  | .clearPassword => s.clearPasswordTimer

/-- A timer that can still fire is the one its pointer points to. -/
def Owned (s : SwaylockState) : Prop :=
  ∀ t ∈ s.eventloop.timers, t.removed = false → s.timer t.callback = some t.addr

/-! ## Properties of the list and the pointers -/

/-- A property that replacing the timer of a pointer keeps, and removing it. -/
structure TimerInvariant (I : Loop TimerCallback → (TimerCallback → Option Nat) → Prop) :
    Prop where
  reschedule {l : Loop TimerCallback} {f g : TimerCallback → Option Nat} (c : TimerCallback)
    (env : Option Timespec) (ms : Nat) : I l f → g c = (l.reschedule (f c) env ms c).2 →
      (∀ d, d ≠ c → g d = f d) → I (l.reschedule (f c) env ms c).1 g
  cancel {l : Loop TimerCallback} {f g : TimerCallback → Option Nat} (c : TimerCallback) :
    I l f → g c = none → (∀ d, d ≠ c → g d = f d) → I (l.cancel (f c)) g

/-- The property in a state. -/
def Timed (I : Loop TimerCallback → (TimerCallback → Option Nat) → Prop) (s : SwaylockState) :
    Prop := I s.eventloop s.timer

variable {I : Loop TimerCallback → (TimerCallback → Option Nat) → Prop}

theorem timed_of_eq {s t : SwaylockState} (hs : Timed I s) (hl : t.eventloop = s.eventloop)
    (hk : ∀ c, t.timer c = s.timer c) : Timed I t := by
  have hf : t.timer = s.timer := funext hk
  rw [Timed, hl, hf]
  exact hs

theorem Navigates.timed {s t : SwaylockState} (h : Navigates s t) (hs : Timed I s) : Timed I t :=
  timed_of_eq hs (h.keep _ (by intros; rfl)) fun c =>
    h.keep (fun u => u.timer c) (by intros; cases c <;> rfl)

theorem Informs.timed {s t : SwaylockState} (h : Informs s t) (hs : Timed I s) : Timed I t :=
  timed_of_eq hs (h.keep _ (by intros; rfl)) fun c =>
    h.keep (fun u => u.timer c) (by intros; cases c <;> rfl)

theorem Modifies.timed {s t : SwaylockState} (h : Modifies s t) (hs : Timed I s) : Timed I t :=
  timed_of_eq hs (h.keep _ (by intros; rfl)) fun c =>
    h.keep (fun u => u.timer c) (by intros; cases c <;> rfl)

/-- The fields a timer does not depend on. -/
theorem timed_input {s : SwaylockState} (hs : Timed I s) (password : SwaylockPassword)
    (inputState : InputState) (authState : AuthState) (highlightStart damage : Nat) :
    Timed I { s with password, inputState, authState, highlightStart, damage } :=
  timed_of_eq hs rfl fun c => by cases c <;> rfl

namespace TimerInvariant

variable (hI : TimerInvariant I)
include hI

theorem scheduleInputIdle (env : Env) {s : SwaylockState} (hs : Timed I s) :
    Timed I (scheduleInputIdle env s) := by
  refine hI.reschedule .setInputIdle env.inputIdle 1500 hs rfl ?_
  intro c hc
  cases c with
  | setInputIdle => exact absurd rfl hc
  | setAuthIdle => rfl
  | clearPassword => rfl

theorem scheduleAuthIdle (env : Env) {s : SwaylockState} (hs : Timed I s) :
    Timed I (scheduleAuthIdle env s) := by
  refine hI.reschedule .setAuthIdle env.authIdle 3000 hs rfl ?_
  intro c hc
  cases c with
  | setInputIdle => rfl
  | setAuthIdle => exact absurd rfl hc
  | clearPassword => rfl

theorem schedulePasswordClear (env : Env) {s : SwaylockState} (hs : Timed I s) :
    Timed I (schedulePasswordClear env s) := by
  refine hI.reschedule .clearPassword env.clearPassword 10000 hs rfl ?_
  intro c hc
  cases c with
  | setInputIdle => rfl
  | setAuthIdle => rfl
  | clearPassword => exact absurd rfl hc

theorem cancelInputIdle {s : SwaylockState} (hs : Timed I s) : Timed I (cancelInputIdle s) := by
  refine hI.cancel .setInputIdle hs rfl ?_
  intro c hc
  cases c with
  | setInputIdle => exact absurd rfl hc
  | setAuthIdle => rfl
  | clearPassword => rfl

theorem cancelPasswordClear {s : SwaylockState} (hs : Timed I s) :
    Timed I (cancelPasswordClear s) := by
  refine hI.cancel .clearPassword hs rfl ?_
  intro c hc
  cases c with
  | setInputIdle => rfl
  | setAuthIdle => rfl
  | clearPassword => exact absurd rfl hc

theorem clearKey (env : Env) {s : SwaylockState} (hs : Timed I s) : Timed I (clearKey env s) := by
  have h := hI.cancelPasswordClear
    (timed_input hs (clearPasswordBuffer s.password) .clear s.authState s.highlightStart s.damage)
  exact timed_input (hI.scheduleInputIdle env h) _ _ _ _ _

theorem neutralKey (env : Env) {s : SwaylockState} (hs : Timed I s) :
    Timed I (neutralKey env s) := by
  have h := hI.schedulePasswordClear env
    (timed_input hs s.password .neutral s.authState s.highlightStart s.damage)
  exact timed_input (hI.scheduleInputIdle env h) _ _ _ _ _

theorem backspaceKey (env : Env) {s : SwaylockState} (hs : Timed I s) :
    Timed I (backspaceKey env s) := by
  refine timed_input (hI.scheduleInputIdle env ?_) _ _ _ _ _
  split
  · have h := hI.schedulePasswordClear env
      (timed_input hs (backspace s.password).2 .backspace s.authState s.highlightStart s.damage)
    exact timed_input h _ _ _ _ _
  · exact hI.cancelPasswordClear
      (timed_input hs (backspace s.password).2 .clear s.authState s.highlightStart s.damage)

theorem textKey (env : Env) {s : SwaylockState} (codepoint : UInt32) (hs : Timed I s) :
    Timed I (textKey env s codepoint) := by
  unfold SwaylockAuthd.textKey
  split
  · have h := hI.schedulePasswordClear env
      (timed_input hs (appendCh s.password codepoint) .letter s.authState s.highlightStart s.damage)
    exact timed_input (hI.scheduleInputIdle env h) _ _ _ _ _
  · exact hs

theorem edit (env : Env) {s : SwaylockState} (codepoint : UInt32) (a : KeyAction)
    (hs : Timed I s) : Timed I (a.edit env s codepoint) := by
  cases a with
  | submit => exact hs
  | clear => exact hI.clearKey env hs
  | erase => exact hI.backspaceKey env hs
  | neutral => exact hI.neutralKey env hs
  | text => exact hI.textKey env codepoint hs

/-- Both timers of the input are removed. -/
theorem cancelBoth {s : SwaylockState} (hs : Timed I s) (authState : AuthState) :
    Timed I (SwaylockAuthd.cancelInputIdle (SwaylockAuthd.cancelPasswordClear
      { s with inputState := .idle, authState })) :=
  hI.cancelInputIdle (hI.cancelPasswordClear
    (timed_input hs s.password .idle authState s.highlightStart s.damage))

theorem submitted {s : SwaylockState} (hs : Timed I s) : Timed I (submitted s) :=
  timed_input (hI.cancelBoth hs .validating) _ _ _ _ _

theorem submitFailed (env : Env) {s : SwaylockState} (hs : Timed I s) :
    Timed I (submitFailed env s) := by
  have h := timed_input (hI.cancelBoth hs .validating) (clearPasswordBuffer s.password) .idle
    .invalid s.highlightStart s.damage
  exact timed_input (hI.scheduleAuthIdle env h) _ _ _ _ _

/-- **What a key keeps.** -/
theorem key {env : Env} {s t : SwaylockState} {p q : Pipe} (h : KeyStep env s p t q)
    (hs : Timed I s) : Timed I t := by
  cases h with
  | move h => exact h.timed hs
  | send h => exact h.timed hs
  | edit a codepoint => exact hI.edit env codepoint a hs
  | fail => exact hI.submitFailed env hs
  | submit => exact hI.submitted hs

theorem reject (env : Env) {s : SwaylockState} (hs : Timed I s) : Timed I (reject env s) := by
  have h := hI.scheduleAuthIdle env
    (timed_input hs s.password s.inputState .invalid s.highlightStart s.damage)
  exact timed_of_eq h rfl fun c => by cases c <;> rfl

/-- **What a frame keeps.** -/
theorem frame {env : Env} {s t : SwaylockState} {f : Frame} (h : FrameStep env s f t)
    (hs : Timed I s) : Timed I t := by
  cases h with
  | granted => exact hs
  | denied _ _ keep => exact keep.timed (hI.reject env hs)
  | retried _ keep => exact keep.timed (hI.reject env hs)
  | settled _ keep => exact keep.timed hs
  | informed _ _ keep => exact keep.timed hs

end TimerInvariant

/-! ## The owners -/

/-- `Owned`, read on the list and the pointers. -/
def OwnedBy (l : Loop TimerCallback) (f : TimerCallback → Option Nat) : Prop :=
  ∀ t ∈ l.timers, t.removed = false → f t.callback = some t.addr

theorem timerInvariant_owned : TimerInvariant OwnedBy where
  reschedule := by
    intro l f g c env ms hs hp hk t ht hlive
    rcases Loop.mem_reschedule ht hlive with ⟨hc, ha⟩ | ⟨hm, ha⟩
    · rw [hc, hp]
      exact ha
    · have hold := hs t hm hlive
      have hne : t.callback ≠ c := by
        intro hc
        rw [hc] at hold
        exact ha hold
      rw [hk _ hne]
      exact hold
  cancel := by
    intro l f g c hs _ hk t ht hlive
    obtain ⟨hm, ha⟩ := Loop.mem_cancel ht hlive
    have hold := hs t hm hlive
    have hne : t.callback ≠ c := by
      intro hc
      rw [hc] at hold
      exact ha hold
    rw [hk _ hne]
    exact hold

/-- Behind the callback of a timer, its own timer is the only one without an owner. -/
theorem owned_callback {env : Env} {s : SwaylockState} {addr : Nat} {callback : TimerCallback}
    (hs : Owned s) (haddr : s.timer callback = some addr) :
    ∀ u ∈ (callback.call env s).eventloop.timers, u.removed = false → u.addr ≠ addr →
      (callback.call env s).timer u.callback = some u.addr := by
  -- the state in which the pointer has been set to `NULL`
  have forget : ∀ s' : SwaylockState, s'.eventloop = s.eventloop →
      (∀ c, c ≠ callback → s'.timer c = s.timer c) →
      ∀ u ∈ s'.eventloop.timers, u.removed = false → u.addr ≠ addr →
        s'.timer u.callback = some u.addr := by
    intro s' hl hk u hu hlive ha
    rw [hl] at hu
    have hold := hs u hu hlive
    have hne : u.callback ≠ callback := by
      intro hc
      rw [hc, haddr] at hold
      exact ha (by simpa using hold.symm)
    rw [hk _ hne]
    exact hold
  cases callback with
  | setInputIdle =>
    refine forget (setInputIdle s) rfl ?_
    intro c hc
    cases c <;> first | rfl | exact absurd rfl hc
  | setAuthIdle =>
    refine forget (setAuthIdle s) rfl ?_
    intro c hc
    cases c <;> first | rfl | exact absurd rfl hc
  | clearPassword =>
    intro u hu hlive ha
    have hbase := forget { s with clearPasswordTimer := none, inputState := .clear } rfl (by
      intro c hc
      cases c <;> first | rfl | exact absurd rfl hc)
    rcases Loop.mem_reschedule hu hlive with ⟨hc, hp⟩ | ⟨hm, hp⟩
    · rw [hc]
      exact hp
    · have hold := hbase u hm hlive ha
      cases hcb : u.callback with
      | setInputIdle =>
        rw [hcb] at hold
        exact absurd hold hp
      | setAuthIdle => rw [hcb] at hold; exact hold
      | clearPassword => rw [hcb] at hold; exact hold

theorem owned_visitTimer (env : Env) (now : Timespec) (addr : Nat) {s : SwaylockState}
    (hs : Owned s) : Owned (visitTimer env now addr s) := by
  rcases visitTimer_cases env now addr s with h | h | ⟨callback, t, hdue, rfl, h⟩
  · rw [h]
    exact hs
  · rw [h]
    intro u hu hlive
    exact hs u (Loop.mem_unlink.mp hu).1 hlive
  · rw [h]
    obtain ⟨u, hu, rfl, rfl, hlive⟩ := Loop.mem_of_due hdue
    intro v hv hvl
    obtain ⟨hm, ha⟩ := Loop.mem_unlink.mp hv
    exact owned_callback hs (hs u hu hlive) v hm hvl ha

/-- **Every callback keeps `Owned`.** -/
theorem owned_mainStep {parse : CString → Option Json} {a : MainEvent} {m n : MainProcess}
    (hs : Owned m.state) (h : mainStep parse a m = some n) : Owned n.state := by
  cases mainStep_cases parse h with
  | key _ step => exact timerInvariant_owned.key step hs
  | modifiers hm => exact hm.timed (I := OwnedBy) hs
  | timer => exact owned_visitTimer _ _ _ hs
  | message _ hf => exact timerInvariant_owned.frame hf hs
  | childGone => exact hs

end SwaylockAuthd
