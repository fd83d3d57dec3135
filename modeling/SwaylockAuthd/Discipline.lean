import SwaylockAuthd.Timers

/-!
# The timers of the input

What the fields of the state say about the three pointers, and what the pointers point to,
when no timer is lost to a failed allocation.

* `timerInvariant_pointed`: a pointer points to a timer of its callback that is in the list
  and not marked removed.
* `Armed`: a password is always going to be cleared, and what is shown to be reset.
* `timer_discipline`: both hold after every run.
-/

namespace SwaylockAuthd

open Transition

/-! ## What the pointers point to -/

/-- Every pointer may be followed, and points to a timer of its callback. -/
def PointedBy (l : Loop TimerCallback) (f : TimerCallback → Option Nat) : Prop :=
  l.Sound ∧ ∀ c addr, f c = some addr → l.Live addr c

/-- Two callbacks never share a pointer. -/
theorem PointedBy.ne {l : Loop TimerCallback} {f : TimerCallback → Option Nat}
    (h : PointedBy l f) {c d : TimerCallback} {addr : Nat} (hc : l.Live addr c) (hd : d ≠ c) :
    f d ≠ some addr := fun hf => hd (h.1.callback_eq (h.2 d addr hf) hc)

theorem timerInvariant_pointed : TimerInvariant PointedBy where
  reschedule := by
    intro l f g c env ms h hp hk
    refine ⟨h.1.reschedule _ env ms c, fun d addr hd => ?_⟩
    by_cases hc : d = c
    · subst hc
      exact Loop.live_rescheduled (hp.symm.trans hd)
    · have hlive := h.2 d addr ((hk d hc).symm.trans hd)
      exact hlive.reschedule (h.ne hlive fun he => hc he.symm) env ms c
  cancel := by
    intro l f g c h hp hk
    refine ⟨h.1.cancel _, fun d addr hd => ?_⟩
    have hc : d ≠ c := by
      rintro rfl
      rw [hp] at hd
      cases hd
    have hlive := h.2 d addr ((hk d hc).symm.trans hd)
    exact hlive.cancel (h.ne hlive fun he => hc he.symm)

/-- A timer no pointer points to can be unlinked. -/
theorem PointedBy.unlink {l : Loop TimerCallback} {f : TimerCallback → Option Nat}
    (h : PointedBy l f) {addr : Nat} (hf : ∀ c, f c ≠ some addr) : PointedBy (l.unlink addr) f := by
  refine ⟨h.1.unlink addr, fun c a hc => (h.2 c a hc).unlink ?_⟩
  rintro rfl
  exact hf c hc

theorem pointed_forget (callback : TimerCallback) {s t : SwaylockState}
    (hs : Timed PointedBy s) (hl : t.eventloop = s.eventloop) (hn : t.timer callback = none)
    (hk : ∀ c, c ≠ callback → t.timer c = s.timer c) : Timed PointedBy t := by
  rw [Timed, hl]
  refine ⟨hs.1, fun c addr hc => hs.2 c addr ?_⟩
  rw [← hk c, hc]
  rintro rfl
  rw [hn] at hc
  cases hc

/-- A callback sets its pointer to `NULL`, and leaves its timer in the list. -/
theorem pointed_call (env : Env) {s : SwaylockState} {addr : Nat} {callback : TimerCallback}
    (hs : Timed PointedBy s) (hlive : s.eventloop.Live addr callback) :
    Timed PointedBy (callback.call env s) ∧ (callback.call env s).timer callback = none ∧
      (callback.call env s).eventloop.Live addr callback := by
  cases callback with
  | setInputIdle =>
    refine ⟨pointed_forget .setInputIdle hs rfl rfl ?_, rfl, hlive⟩
    intro c hc
    cases c <;> first | rfl | exact absurd rfl hc
  | setAuthIdle =>
    refine ⟨pointed_forget .setAuthIdle hs rfl rfl ?_, rfl, hlive⟩
    intro c hc
    cases c <;> first | rfl | exact absurd rfl hc
  | clearPassword =>
    have h : Timed PointedBy { s with clearPasswordTimer := none, inputState := .clear } := by
      refine pointed_forget .clearPassword hs rfl rfl ?_
      intro c hc
      cases c <;> first | rfl | exact absurd rfl hc
    refine ⟨timed_input (timerInvariant_pointed.scheduleInputIdle env h) _ _ _ _ _, rfl, ?_⟩
    -- the timer that is armed here is not the one that is running
    have hne : s.inputIdleTimer ≠ some addr :=
      hs.ne (d := .setInputIdle) hlive (by decide)
    exact hlive.reschedule hne env.inputIdle 1500 .setInputIdle

theorem pointed_visitTimer (env : Env) (now : Timespec) (addr : Nat) {s : SwaylockState}
    (hs : Timed PointedBy s) : Timed PointedBy (visitTimer env now addr s) := by
  unfold visitTimer
  split
  · rename_i hstale
    refine PointedBy.unlink hs fun c hc => ?_
    rw [hs.1.not_stale (hs.2 c addr hc)] at hstale
    cases hstale
  · split
    · rename_i callback hdue
      obtain ⟨hcall, hnone, hlive⟩ := pointed_call env hs (Loop.live_of_due hdue)
      refine PointedBy.unlink hcall fun c hc => ?_
      by_cases he : c = callback
      · rw [he, hnone] at hc
        cases hc
      · exact hcall.ne hlive he hc
    · exact hs

/-- **Every callback keeps the pointers valid**, also when allocations fail. -/
theorem pointed_mainStep {parse : CString → Option Json} {a : MainEvent} {m n : MainProcess}
    (hs : Timed PointedBy m.state) (h : mainStep parse a m = some n) :
    Timed PointedBy n.state := by
  cases mainStep_cases parse h with
  | key _ step => exact timerInvariant_pointed.key step hs
  | modifiers hm => exact hm.timed hs
  | timer => exact pointed_visitTimer _ _ _ hs
  | message _ hf => exact timerInvariant_pointed.frame hf hs
  | childGone => exact hs

/-! ## What is armed -/

/-- The allocations of the timers succeed. -/
structure Env.Arms (env : Env) : Prop where
  inputIdle : env.inputIdle ≠ none
  authIdle : env.authIdle ≠ none
  clearPassword : env.clearPassword ≠ none

/-- The state armed the timers that it needs. -/
structure Armed (s : SwaylockState) : Prop where
  clear : 0 < s.password.len → s.clearPasswordTimer ≠ none
  input : s.inputState ≠ .idle ↔ s.inputIdleTimer ≠ none
  auth : s.authState = .invalid → s.authIdleTimer ≠ none

theorem reschedule_ne_none {κ : Type} {l : Loop κ} {timer : Option Nat} {env : Option Timespec}
    {ms : Nat} {callback : κ} (h : env ≠ none) : (l.reschedule timer env ms callback).2 ≠ none := by
  cases env with
  | none => exact absurd rfl h
  | some now => exact Option.some_ne_none _

theorem len_backspace_false {pw : SwaylockPassword} (h : (backspace pw).1 = false) :
    (backspace pw).2.len = 0 := by
  unfold backspace at h ⊢
  split at h
  · cases h
  · rename_i hlen
    rw [if_neg hlen]
    exact not_not.mp hlen

theorem armed_edit {env : Env} (he : env.Arms) {s : SwaylockState} (codepoint : UInt32)
    (a : KeyAction) (hs : Armed s) : Armed (a.edit env s codepoint) := by
  have input : ∀ {l : Loop TimerCallback} {timer : Option Nat} (i : InputState), i ≠ .idle →
      (i ≠ .idle ↔ (l.reschedule timer env.inputIdle 1500 .setInputIdle).2 ≠ none) :=
    fun _ hi => ⟨fun _ => reschedule_ne_none he.inputIdle, fun _ => hi⟩
  cases a with
  | submit => exact hs
  | clear => exact ⟨fun h => absurd h (lt_irrefl 0), input .clear (by decide), hs.auth⟩
  | neutral =>
    exact ⟨fun _ => reschedule_ne_none he.clearPassword, input .neutral (by decide), hs.auth⟩
  | text =>
    show Armed (textKey env s codepoint)
    unfold textKey
    split
    · exact ⟨fun _ => reschedule_ne_none he.clearPassword, input .letter (by decide), hs.auth⟩
    · exact hs
  | erase =>
    show Armed (backspaceKey env s)
    by_cases hb : (backspace s.password).1 = true ∧ (backspace s.password).2.len ≠ 0
    · have h : backspaceKey env s = damageState (scheduleInputIdle env (updateHighlight env
          (schedulePasswordClear env
            { s with password := (backspace s.password).2, inputState := .backspace }))) := by
        simp only [backspaceKey, if_pos hb]
      rw [h]
      exact ⟨fun _ => reschedule_ne_none he.clearPassword, input .backspace (by decide), hs.auth⟩
    · have h : backspaceKey env s = damageState (scheduleInputIdle env (cancelPasswordClear
            { s with password := (backspace s.password).2, inputState := .clear })) := by
        simp only [backspaceKey, if_neg hb]
      have hlen : (backspace s.password).2.len = 0 := by
        by_contra hne
        exact hne (len_backspace_false (by simpa [hne] using hb))
      rw [h]
      exact ⟨fun hp => absurd hlen hp.ne', input .clear (by decide), hs.auth⟩

/-- What an intercepted key, a modifier or a message of a stage leaves alone. -/
theorem armed_of_eq {s t : SwaylockState} (hs : Armed s) (hp : t.password = s.password)
    (hi : t.inputState = s.inputState) (hv : t.authState = .invalid → s.authState = .invalid)
    (hk : ∀ c, t.timer c = s.timer c) : Armed t where
  clear h := (hk .clearPassword).trans_ne (hs.clear (hp ▸ h))
  input := by
    rw [hi]
    exact hs.input.trans (not_congr (Eq.congr_left (hk .setInputIdle).symm))
  auth h := (hk .setAuthIdle).trans_ne (hs.auth (hv h))

theorem Navigates.armed {s t : SwaylockState} (h : Navigates s t) (hs : Armed s) : Armed t := by
  refine armed_of_eq hs (h.keep _ (by intros; rfl)) (h.keep _ (by intros; rfl)) ?_ fun c =>
    h.keep (fun u => u.timer c) (by intros; cases c <;> rfl)
  rw [h.keep SwaylockState.authState (by intros; rfl)]
  exact id

theorem Informs.armed {s t : SwaylockState} (h : Informs s t) (hs : Armed s) : Armed t := by
  refine armed_of_eq hs (h.keep _ (by intros; rfl)) (h.keep _ (by intros; rfl)) ?_ fun c =>
    h.keep (fun u => u.timer c) (by intros; cases c <;> rfl)
  rw [h.keep SwaylockState.authState (by intros; rfl)]
  exact id

theorem Modifies.armed {s t : SwaylockState} (h : Modifies s t) (hs : Armed s) : Armed t := by
  refine armed_of_eq hs (h.keep _ (by intros; rfl)) (h.keep _ (by intros; rfl)) ?_ fun c =>
    h.keep (fun u => u.timer c) (by intros; cases c <;> rfl)
  rw [h.keep SwaylockState.authState (by intros; rfl)]
  exact id

theorem KeyStep.armed {env : Env} (he : env.Arms) {s t : SwaylockState} {p q : Pipe}
    (h : KeyStep env s p t q) (hs : Armed s) : Armed t := by
  have input : InputState.idle ≠ .idle ↔ (none : Option Nat) ≠ none := by simp
  cases h with
  | move h => exact h.armed hs
  | send h => exact h.armed hs
  | edit a codepoint => exact armed_edit he codepoint a hs
  | fail =>
    exact ⟨fun h => absurd h (lt_irrefl 0), input, fun _ => reschedule_ne_none he.authIdle⟩
  | submit => exact ⟨fun h => absurd h (lt_irrefl 0), input, fun h => by cases h⟩

theorem FrameStep.armed {env : Env} (he : env.Arms) {s t : SwaylockState} {f : Frame}
    (h : FrameStep env s f t) (hs : Armed s) : Armed t := by
  have hreject : Armed (reject env s) :=
    ⟨hs.clear, hs.input, fun _ => reschedule_ne_none he.authIdle⟩
  cases h with
  | granted => exact ⟨hs.clear, hs.input, hs.auth⟩
  | denied _ _ keep => exact keep.armed hreject
  | retried _ keep => exact keep.armed hreject
  | settled _ keep => exact keep.armed ⟨hs.clear, hs.input, fun h => by cases h⟩
  | informed _ _ keep => exact keep.armed hs

theorem armed_visitTimer {env : Env} (he : env.Arms) (now : Timespec) (addr : Nat)
    {s : SwaylockState} (hs : Armed s) : Armed (visitTimer env now addr s) := by
  rcases visitTimer_cases env now addr s with h | h | ⟨callback, t, -, rfl, h⟩
  · rw [h]
    exact hs
  · rw [h]
    exact ⟨hs.clear, hs.input, hs.auth⟩
  · rw [h]
    cases callback with
    | setInputIdle =>
      refine ⟨hs.clear, ?_, hs.auth⟩
      show InputState.idle ≠ .idle ↔ (none : Option Nat) ≠ none
      simp
    | setAuthIdle => exact ⟨hs.clear, hs.input, fun h => by cases h⟩
    | clearPassword =>
      refine ⟨fun h => absurd h (lt_irrefl 0), ?_, hs.auth⟩
      exact ⟨fun _ => reschedule_ne_none he.inputIdle, fun _ => by
        show InputState.clear ≠ .idle
        decide⟩

/-- The timers the callback arms are allocated. -/
def MainEvent.Arms : MainEvent → Prop
  | .key env _ _ | .timer env _ _ | .message env _ => env.Arms
  | .modifiers _ _ _ | .childGone => True

theorem armed_mainStep {parse : CString → Option Json} {a : MainEvent} (ha : a.Arms)
    {m n : MainProcess} (hs : Armed m.state) (h : mainStep parse a m = some n) :
    Armed n.state := by
  cases mainStep_cases parse h with
  | key _ step => exact step.armed ha hs
  | modifiers hm => exact hm.armed hs
  | timer => exact armed_visitTimer ha _ _ hs
  | message _ hf => exact hf.armed ha hs
  | childGone => exact hs

/-! ## Every run -/

/-- A pointer that is set points to a timer that is in the list, has not been marked
removed, and has the callback of the pointer. -/
def Points (s : SwaylockState) : Prop :=
  ∀ c addr, s.timer c = some addr →
    ∃ t, s.eventloop.find addr = some t ∧ t.removed = false ∧ t.callback = c

/-- **The discipline of the timers**, in every state the main process reaches. -/
theorem timer_discipline (parse : CString → Option Json) (args : SwaylockArgs)
    (buffer : List UInt8) (toChild : Pipe) {as : List MainEvent} (ha : ∀ a ∈ as, a.Arms)
    {n : MainProcess} (h : run (mainStep parse) as ⟨.start args buffer, toChild⟩ = some n) :
    Armed n.state ∧ Points n.state := by
  have hinit : Armed (SwaylockState.start args buffer) ∧
      Timed PointedBy (SwaylockState.start args buffer) := by
    refine ⟨⟨fun h => absurd h (lt_irrefl 0), ?_, fun h => by cases h⟩, Loop.sound_empty, ?_⟩
    · show InputState.idle ≠ .idle ↔ (none : Option Nat) ≠ none
      simp
    · intro c addr hc
      cases c <;> cases hc
  have hrun := run_invariant_along (C := fun (a : MainEvent) _ => a.Arms)
    (I := fun m => Armed m.state ∧ Timed PointedBy m.state)
    (fun a s t hs ha hstep => ⟨armed_mainStep ha hs.1 hstep, pointed_mainStep hs.2 hstep⟩)
    (along_of_mem (fun a hm _ => ha a hm) _) h hinit
  exact ⟨hrun.1, fun c addr hc => hrun.2.1.find_of_live (hrun.2.2 c addr hc)⟩

/-- A letter, and two seconds without another key. -/
def pauseRun : List MainEvent :=
  [.key {} (.other 0x61) 0x61, .timer {} ⟨2, 0⟩ 1, .timer {} ⟨2, 0⟩ 0]

set_option maxRecDepth 10000 in
theorem timer_discipline_pause :
    ∃ n, run (mainStep fun _ => none) pauseRun
        ⟨.start {} (List.replicate 1024 0), {}⟩ = some n ∧
      n.state.password.len = 1 ∧ n.state.clearPasswordTimer = some 0 ∧
      n.state.inputIdleTimer = none ∧ Armed n.state ∧ Points n.state := by
  have harms : ∀ a ∈ pauseRun, a.Arms := by
    intro a ha
    have hAll : ({} : Env).Arms := ⟨by simp, by simp, by simp⟩
    rcases List.mem_cons.mp ha with rfl | ha
    · exact hAll
    rcases List.mem_cons.mp ha with rfl | ha
    · exact hAll
    rw [List.mem_singleton.mp ha]
    exact hAll
  exact ⟨_, rfl, rfl, rfl, rfl,
    timer_discipline (fun _ => none) {} (List.replicate 1024 0) {} harms rfl⟩

end SwaylockAuthd
