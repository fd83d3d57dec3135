import SwaylockAuthd.CommIn
import SwaylockAuthd.KeyHandler
import SwaylockAuthd.Lib.Transition

/-!
# Runs of the main process

The callbacks of the event loop in any order: keys (pressed or repeated), modifier
changes, timers, messages of the child, and the moment the child closes its end of
the pipe.  Nobody reads the pipe here, so its contents are all that was written.

* `mainStep_cases`: what each callback can do.
-/

namespace SwaylockAuthd

open Transition

/-- The main process and its pipe to the child. -/
structure MainProcess where
  state : SwaylockState
  toChild : Pipe := {}
  deriving DecidableEq, Repr

/-- A callback of the event loop. -/
inductive MainEvent
  | key (env : Env) (keysym : Keysym) (codepoint : UInt32)
  | modifiers (layoutSame capsLock control : Bool)
  | timer (env : Env) (now : Timespec) (addr : Nat)
  | message (env : Env) (f : Frame)
  | childGone

variable (parse : CString → Option Json)

/-- One callback; `none` when the process does not survive it or does not return. -/
def mainStep : MainEvent → MainProcess → Option MainProcess
  | .key env keysym codepoint, m =>
    match swaylockHandleKey env m.state m.toChild keysym codepoint with
    | .running s p => some ⟨s, p⟩
    | _ => none
  | .modifiers layoutSame capsLock control, m =>
    some { m with state := keyboardModifiers layoutSame capsLock control m.state }
  | .timer env now addr, m => some { m with state := visitTimer env now addr m.state }
  | .message env f, m =>
    if f.type = 0 then none else some { m with state := commInFrame parse env m.state f }
  | .childGone, m => some { m with toChild := { m.toChild with reader := false } }

/-- `t` differs from `s` at most in the modifiers. -/
def Modifies (s t : SwaylockState) : Prop := t = { s with xkb := t.xkb, damage := t.damage }

theorem Modifies.keep {α : Type} {s t : SwaylockState} (h : Modifies s t) (g : SwaylockState → α)
    (hg : ∀ x d, g { s with xkb := x, damage := d } = g s) : g t = g s := by
  unfold Modifies at h
  exact (congrArg g h).trans (hg _ _)

theorem modifies_keyboardModifiers (layoutSame capsLock control : Bool) (s : SwaylockState) :
    Modifies s (keyboardModifiers layoutSame capsLock control s) := by
  unfold keyboardModifiers
  dsimp only
  split <;> rfl

/-- What one callback does. -/
inductive MainStep (m : MainProcess) : MainEvent → MainProcess → Prop
  | key {env : Env} {keysym : Keysym} {codepoint : UInt32} {s : SwaylockState} {p : Pipe}
      (eq : swaylockHandleKey env m.state m.toChild keysym codepoint = .running s p)
      (h : KeyStep env m.state m.toChild s p) : MainStep m (.key env keysym codepoint) ⟨s, p⟩
  | modifiers {layoutSame capsLock control : Bool} {s : SwaylockState}
      (h : Modifies m.state s) :
      MainStep m (.modifiers layoutSame capsLock control) { m with state := s }
  | timer {env : Env} {now : Timespec} {addr : Nat} :
      MainStep m (.timer env now addr) { m with state := visitTimer env now addr m.state }
  | message {env : Env} {f : Frame} {s : SwaylockState} (type : f.type ≠ 0)
      (h : FrameStep env m.state f s) : MainStep m (.message env f) { m with state := s }
  | childGone : MainStep m .childGone { m with toChild := { m.toChild with reader := false } }

/-- **What one callback does.** -/
theorem mainStep_cases {a : MainEvent} {m n : MainProcess} (h : mainStep parse a m = some n) :
    MainStep m a n := by
  cases a with
  | key env keysym codepoint =>
    rw [mainStep] at h
    cases hk : swaylockHandleKey env m.state m.toChild keysym codepoint with
    | running s p =>
      rw [hk] at h
      cases h
      exact .key hk (handleKey_step hk)
    | killed => rw [hk] at h; cases h
    | blocked => rw [hk] at h; cases h
  | modifiers layoutSame capsLock control =>
    cases h
    exact .modifiers (modifies_keyboardModifiers _ _ _ _)
  | timer env now addr => cases h; exact .timer
  | message env f =>
    rw [mainStep] at h
    split at h
    · cases h
    · rename_i hf
      cases h
      exact .message hf (commInFrame_step parse env m.state f)
  | childGone => cases h; exact .childGone

/-- What the dispatch does at a timer: nothing but unlink it, or run its callback first. -/
theorem visitTimer_cases (env : Env) (now : Timespec) (addr : Nat) (s : SwaylockState) :
    visitTimer env now addr s = s ∨
    visitTimer env now addr s = { s with eventloop := s.eventloop.unlink addr } ∨
    ∃ callback t, s.eventloop.due now addr = some callback ∧ t = callback.call env s ∧
      visitTimer env now addr s = { t with eventloop := t.eventloop.unlink addr } := by
  unfold visitTimer
  split
  · exact Or.inr (Or.inl rfl)
  · split
    · rename_i callback hd
      exact Or.inr (Or.inr ⟨callback, callback.call env s, hd, rfl, rfl⟩)
    · exact Or.inl rfl

/-- A timer whose callback is due is not marked removed. -/
theorem visitTimer_due {env : Env} {now : Timespec} {addr : Nat} {s : SwaylockState}
    {callback : TimerCallback} (h : s.eventloop.due now addr = some callback) :
    visitTimer env now addr s =
      { callback.call env s with
        eventloop := (callback.call env s).eventloop.unlink addr } := by
  have hs : s.eventloop.stale addr = false := by
    unfold Loop.due at h
    unfold Loop.stale
    cases hf : s.eventloop.find addr with
    | none => rfl
    | some t =>
      simp only [hf] at h
      split at h
      · rename_i hlive
        exact hlive.1
      · cases h
  unfold visitTimer
  simp [hs, h]

end SwaylockAuthd
