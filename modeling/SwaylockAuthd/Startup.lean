import SwaylockAuthd.Unlock

/-!
# `main`: up to the event loop

`main` connects, asks for the lock, waits until the session is locked, writes a line to
`--ready-fd` and becomes a daemon; the process that was started waits for one byte of the daemon
and exits with what it says.  Each of these steps can fail, also when the session is locked already.

* `startStep`: one step of the program, with what the compositor and the system answer.
* `startStep_cases`: what each step can do.
* `Begun`: what the phases say about the requests, the notice and the other process.
* `started`: so it is in every run, and the process of the lock is that of `mainLoop`.
-/

namespace SwaylockAuthd

open Transition

/-! ## The program -/

/-- The options that `main` reads on its way to the loop, beside `--steal-unlock`. -/
structure StartArgs where
  daemonize : Bool := false
  readyFd : Int := -1
  deriving DecidableEq, Repr

/-- The requests about the lock. -/
inductive LockRequest
  | lock
  | unlockAndDestroy
  deriving DecidableEq, Repr

/-- The events of `ext_session_lock_v1`. -/
inductive LockEvent
  | locked
  | finished
  deriving DecidableEq, Repr

/-- Where `main` is.  `ended` carries what it returned, or what it gave to `exit`. -/
inductive StartupPhase
  | connecting
  | binding
  | stealing
  | locking
  | waiting
  | notifying
  | daemonizing
  | forked
  | reporting
  | looping
  | ended (status : Nat)
  deriving DecidableEq, Repr

/-- The phases in which the display is dispatched. -/
@[simp] def StartupPhase.dispatches : StartupPhase → Bool
  | .binding | .stealing | .locking | .waiting => true
  | _ => false

/-- The phases in which the lock has listeners. -/
@[simp] def StartupPhase.listens : StartupPhase → Bool
  | .stealing | .locking | .waiting => true
  | _ => false

/-- The process that was started, behind the `fork` of `daemonize`. -/
inductive Launcher
  | absent
  | waiting
  | exited (status : Nat)
  | killed
  deriving DecidableEq, Repr

/-- The process that talks to the compositor, its launcher and the pipe between them. -/
structure Startup where
  args : StartArgs
  main : MainSide
  phase : StartupPhase := .connecting
  locked : Bool := false
  lockFailed : Bool := false
  requests : List LockRequest := []
  /-- The lines written to `--ready-fd`. -/
  notices : Nat := 0
  launcher : Launcher := .absent
  report : List UInt8 := []

namespace Startup

/-- The process is in this phase. -/
def At (s : Startup) (phase : StartupPhase) : Prop := s.phase = phase ∧ s.main.phase = .start

instance (s : Startup) (phase : StartupPhase) : Decidable (s.At phase) :=
  inferInstanceAs (Decidable (_ ∧ _))

/-- The process ends before its loop. -/
def leave (s : Startup) (status : Nat) : Startup :=
  { s with phase := .ended status, main := { s.main with phase := .exited } }

/-- The process is killed. -/
def die (s : Startup) : Startup := { s with main := { s.main with phase := .killed } }

/-- The process goes into its loop. -/
def enter (s : Startup) : Startup :=
  { s with phase := .looping, main := { s.main with phase := .top } }

def request (s : Startup) (r : LockRequest) : Startup := { s with requests := s.requests ++ [r] }

/-- The end of `main` with `--steal-unlock`. -/
def steal (s : Startup) : Startup :=
  { s.request .unlockAndDestroy with
    phase := .ended 0, main := { s.main with phase := .unlocked } }

/-- The lock has listeners. -/
def Listens (s : Startup) : Prop := s.phase.listens = true ∧ s.main.phase = .start

instance (s : Startup) : Decidable s.Listens := inferInstanceAs (Decidable (_ ∧ _))

/-- `ext_session_lock_v1_handle_locked`. -/
def extSessionLockV1HandleLocked (s : Startup) : Startup := { s with locked := true }

/-- `ext_session_lock_v1_handle_finished`. -/
def extSessionLockV1HandleFinished (s : Startup) : Startup :=
  if s.main.state.args.stealUnlock then { s with lockFailed := true } else s.leave 2

/-- The daemon holds the write end of the pipe. -/
def Reports (s : Startup) : Prop := s.At .forked ∨ s.At .reporting

instance (s : Startup) : Decidable s.Reports := inferInstanceAs (Decidable (_ ∨ _))

/-- A byte of the daemon; a launcher that is gone is a pipe without a reader. -/
def tell (s : Startup) (b : UInt8) (next : Startup → Startup) : Startup :=
  if s.launcher = .waiting then next { s with report := s.report ++ [b] } else s.die

/-- The steps of `mainLoop` that can happen where the process is. -/
def admits (s : Startup) : MainAction → Bool
  | .key .. | .modifiers .. => s.phase.dispatches || s.phase = .looping
  | .fatal _ => true
  | _ => s.phase = .looping

end Startup

/-- A step of the program, with what the compositor and the system answer in it. -/
inductive StartAction
  | connect (ok : Bool)
  | bind (ok globals : Bool)
  | event (e : LockEvent)
  | roundtrip (ok : Bool)
  | dispatched (ok : Bool)
  | notify (ok : Bool)
  | daemonize (pipe fork : Bool)
  | detach (chdir : Bool)
  | success (ok : Bool)
  | launcher
  | killLauncher
  | main (a : MainAction)

variable (debugUnlock : Bool) (parse : CString → Option Json)

/-- One step of the program. -/
def startStep : StartAction → Startup → Option Startup
  | .connect ok, s =>
    if s.At .connecting then some (if ok then { s with phase := .binding } else s.leave 1) else none
  | .bind ok globals, s =>
    if s.At .binding then
      if ok ∧ globals then
        let phase := if s.main.state.args.stealUnlock then .stealing else .locking
        some { s.request .lock with phase }
      else some (s.leave 1)
    else none
  | .event .locked, s => if s.Listens then some s.extSessionLockV1HandleLocked else none
  | .event .finished, s => if s.Listens then some s.extSessionLockV1HandleFinished else none
  | .roundtrip ok, s =>
    if s.At .locking then
      if ok then some { s with phase := if s.locked then .notifying else .waiting }
      else some (s.leave 1)
    else none
  | .dispatched ok, s =>
    if s.At .stealing then
      if ¬ ok then some (s.leave 1)
      else if s.locked then some s.steal
      else if s.lockFailed then some (s.leave 1)
      else some s
    else if s.At .waiting then
      if ok then some { s with phase := if s.locked then .notifying else .waiting }
      else some (s.leave 2)
    else none
  | .notify ok, s =>
    if s.At .notifying then
      if 0 ≤ s.args.readyFd then
        if ok then
          some { s with
            args := { s.args with readyFd := -1 }, notices := s.notices + 1, phase := .daemonizing }
        else some (s.leave 2)
      else some { s with phase := .daemonizing }
    else none
  | .daemonize pipe fork, s =>
    if s.At .daemonizing then
      if s.args.daemonize then
        -- without a second process the read finds the end of the pipe
        if pipe ∧ fork then some { s with phase := .forked, launcher := .waiting }
        else some (s.leave 1)
      else some s.enter
    else none
  | .detach chdir, s =>
    if s.At .forked then
      if chdir then some { s with phase := .reporting }
      else some (s.tell 0 fun s => s.leave 1)
    else none
  | .success ok, s =>
    if s.At .reporting then
      if ok then some (s.tell 1 Startup.enter) else some (s.leave 1)
    else none
  | .launcher, s =>
    if s.launcher = .waiting then
      match s.report with
      | b :: report => some { s with launcher := .exited (if b = 0 then 1 else 0), report }
      | [] => if s.Reports then none else some { s with launcher := .exited 1 }
    else none
  | .killLauncher, s =>
    if s.launcher = .waiting then some { s with launcher := .killed } else none
  | .main a, s =>
    if s.admits a then
      (mainLoop debugUnlock parse a s.main).map fun m =>
        if m.phase = .unlocked then { s.request .unlockAndDestroy with main := m }
        else { s with main := m }
    else none

/-! ## What a step does -/

/-- The process ends on its way to the loop. -/
inductive Leaves (s : Startup) : StartAction → Nat → Prop
  | connect (h : s.At .connecting) : Leaves s (.connect false) 1
  | bind {ok globals : Bool} (h : s.At .binding) : Leaves s (.bind ok globals) 1
  | finished (h : s.Listens)
      (regular : s.main.state.args.stealUnlock = false) : Leaves s (.event .finished) 2
  | roundtrip (h : s.At .locking) : Leaves s (.roundtrip false) 1
  | stealing {ok : Bool} (h : s.At .stealing) : Leaves s (.dispatched ok) 1
  | waiting (h : s.At .waiting) : Leaves s (.dispatched false) 2
  | notify (h : s.At .notifying) : Leaves s (.notify false) 2
  | fork {pipe fork : Bool} (h : s.At .daemonizing) : Leaves s (.daemonize pipe fork) 1
  | success (h : s.At .reporting) : Leaves s (.success false) 1

/-- What a step of the program does. -/
inductive StartMove (s : Startup) : StartAction → Startup → Prop
  | leaves {a : StartAction} {n : Nat} (h : Leaves s a n) : StartMove s a (s.leave n)
  | connects (h : s.At .connecting) : StartMove s (.connect true) { s with phase := .binding }
  | asks (h : s.At .binding) :
      StartMove s (.bind true true)
        { s.request .lock with
          phase := if s.main.state.args.stealUnlock then .stealing else .locking }
  | locked (h : s.Listens) :
      StartMove s (.event .locked) { s with locked := true }
  | refused (h : s.Listens) :
      StartMove s (.event .finished) { s with lockFailed := true }
  | waits {a : StartAction} (h : s.At .locking ∨ s.At .waiting) :
      StartMove s a { s with phase := .waiting }
  | gains {a : StartAction} (h : s.At .locking ∨ s.At .waiting) (locked : s.locked = true) :
      StartMove s a { s with phase := .notifying }
  | steals (h : s.At .stealing) (locked : s.locked = true) : StartMove s (.dispatched true) s.steal
  | stays (h : s.At .stealing) : StartMove s (.dispatched true) s
  | notifies (h : s.At .notifying) (fd : 0 ≤ s.args.readyFd) :
      StartMove s (.notify true)
        { s with
          args := { s.args with readyFd := -1 }, notices := s.notices + 1, phase := .daemonizing }
  | silent {ok : Bool} (h : s.At .notifying) (fd : ¬ 0 ≤ s.args.readyFd) :
      StartMove s (.notify ok) { s with phase := .daemonizing }
  | enters {pipe fork : Bool} (h : s.At .daemonizing) (args : s.args.daemonize = false) :
      StartMove s (.daemonize pipe fork) s.enter
  | forks (h : s.At .daemonizing) (args : s.args.daemonize = true) :
      StartMove s (.daemonize true true) { s with phase := .forked, launcher := .waiting }
  | detaches (h : s.At .forked) : StartMove s (.detach true) { s with phase := .reporting }
  | fails (h : s.At .forked) (launcher : s.launcher = .waiting) :
      StartMove s (.detach false) ({ s with report := s.report ++ [0] }.leave 1)
  | succeeds (h : s.At .reporting) (launcher : s.launcher = .waiting) :
      StartMove s (.success true) { s with report := s.report ++ [1] }.enter
  | dies {a : StartAction} (h : s.Reports) (launcher : s.launcher ≠ .waiting) : StartMove s a s.die
  | reads {b : UInt8} {report : List UInt8} (launcher : s.launcher = .waiting)
      (eq : s.report = b :: report) :
      StartMove s .launcher { s with launcher := .exited (if b = 0 then 1 else 0), report }
  | ends (launcher : s.launcher = .waiting) (empty : s.report = []) (closed : ¬ s.Reports) :
      StartMove s .launcher { s with launcher := .exited 1 }
  | killed (launcher : s.launcher = .waiting) :
      StartMove s .killLauncher { s with launcher := .killed }
  | main {a : MainAction} {m : MainSide} (admits : s.admits a = true)
      (step : mainLoop debugUnlock parse a s.main = some m) (phase : m.phase ≠ .unlocked) :
      StartMove s (.main a) { s with main := m }
  | unlocks {a : MainAction} {m : MainSide} (admits : s.admits a = true)
      (step : mainLoop debugUnlock parse a s.main = some m) (phase : m.phase = .unlocked) :
      StartMove s (.main a) { s.request .unlockAndDestroy with main := m }

/-- **What a step of the program does.** -/
theorem startStep_cases {a : StartAction} {s t : Startup}
    (h : startStep debugUnlock parse a s = some t) : StartMove debugUnlock parse s a t := by
  cases a with
  | connect ok =>
    rw [startStep] at h
    split at h
    · rename_i hat
      cases ok with
      | true => cases h; exact .connects hat
      | false => cases h; exact .leaves (.connect hat)
    · cases h
  | bind ok globals =>
    rw [startStep] at h
    split at h
    · rename_i hat
      split at h
      · rename_i hok
        obtain ⟨rfl, rfl⟩ := hok
        cases h
        exact .asks hat
      · cases h
        exact .leaves (.bind hat)
    · cases h
  | event e =>
    cases e with
    | locked =>
      rw [startStep] at h
      split at h
      · rename_i hat
        cases h
        exact .locked hat
      · cases h
    | finished =>
      rw [startStep] at h
      split at h
      · rename_i hat
        cases h
        by_cases hsteal : s.main.state.args.stealUnlock = true
        · rw [Startup.extSessionLockV1HandleFinished, if_pos hsteal]
          exact .refused hat
        · rw [Startup.extSessionLockV1HandleFinished, if_neg hsteal]
          exact .leaves (.finished hat (by simpa using hsteal))
      · cases h
  | roundtrip ok =>
    rw [startStep] at h
    split at h
    · rename_i hat
      cases ok with
      | false => cases h; exact .leaves (.roundtrip hat)
      | true =>
        cases h
        by_cases hl : s.locked = true
        · rw [if_pos hl]
          exact .gains (Or.inl hat) hl
        · rw [if_neg hl]
          exact .waits (Or.inl hat)
    · cases h
  | dispatched ok =>
    rw [startStep] at h
    split at h
    · rename_i hat
      cases ok with
      | false => cases h; exact .leaves (.stealing hat)
      | true =>
        rw [if_neg (by simp)] at h
        split at h
        · rename_i hl
          cases h
          exact .steals hat hl
        · split at h
          · cases h; exact .leaves (.stealing hat)
          · cases h; exact .stays hat
    · split at h
      · rename_i hat
        cases ok with
        | false => cases h; exact .leaves (.waiting hat)
        | true =>
          cases h
          by_cases hl : s.locked = true
          · rw [if_pos hl]
            exact .gains (Or.inr hat) hl
          · rw [if_neg hl]
            exact .waits (Or.inr hat)
      · cases h
  | notify ok =>
    rw [startStep] at h
    split at h
    · rename_i hat
      split at h
      · rename_i hfd
        cases ok with
        | true => cases h; exact .notifies hat hfd
        | false => cases h; exact .leaves (.notify hat)
      · rename_i hfd
        cases h
        exact .silent hat hfd
    · cases h
  | daemonize pipe fork =>
    rw [startStep] at h
    split at h
    · rename_i hat
      split at h
      · rename_i hargs
        split at h
        · rename_i hok
          obtain ⟨rfl, rfl⟩ := hok
          cases h
          exact .forks hat hargs
        · cases h
          exact .leaves (.fork hat)
      · rename_i hargs
        cases h
        exact .enters hat (by simpa using hargs)
    · cases h
  | detach chdir =>
    rw [startStep] at h
    split at h
    · rename_i hat
      cases chdir with
      | true => cases h; exact .detaches hat
      | false =>
        cases h
        by_cases hl : s.launcher = .waiting
        · rw [Startup.tell, if_pos hl]
          exact .fails hat hl
        · rw [Startup.tell, if_neg hl]
          exact .dies (Or.inl hat) hl
    · cases h
  | success ok =>
    rw [startStep] at h
    split at h
    · rename_i hat
      cases ok with
      | false => cases h; exact .leaves (.success hat)
      | true =>
        cases h
        by_cases hl : s.launcher = .waiting
        · rw [Startup.tell, if_pos hl]
          exact .succeeds hat hl
        · rw [Startup.tell, if_neg hl]
          exact .dies (Or.inr hat) hl
    · cases h
  | launcher =>
    rw [startStep] at h
    split at h
    · rename_i hl
      split at h
      · rename_i b report heq
        cases h
        exact .reads hl heq
      · rename_i heq
        split at h
        · cases h
        · rename_i hclosed
          cases h
          exact .ends hl heq hclosed
    · cases h
  | killLauncher =>
    rw [startStep] at h
    split at h
    · rename_i hl
      cases h
      exact .killed hl
    · cases h
  | main a =>
    rw [startStep] at h
    split at h
    · rename_i hadmits
      obtain ⟨m, hm, rfl⟩ := Option.map_eq_some_iff.mp h
      by_cases hu : m.phase = .unlocked
      · rw [if_pos hu]
        exact .unlocks hadmits hm hu
      · rw [if_neg hu]
        exact .main hadmits hm hu
    · cases h

/-! ## The phases -/

/-- The phases before the loop. -/
@[simp] def StartupPhase.early : StartupPhase → Bool
  | .looping | .ended _ => false
  | _ => true

/-- The phases before the launcher waits for a daemon. -/
@[simp] def StartupPhase.alone : StartupPhase → Bool
  | .connecting | .binding | .stealing | .locking | .waiting | .notifying | .daemonizing => true
  | _ => false

/-- The phases before the request for the lock. -/
@[simp] def StartupPhase.unasked : StartupPhase → Bool
  | .connecting | .binding => true
  | _ => false

/-- The phases behind the wait for the lock. -/
@[simp] def StartupPhase.settled : StartupPhase → Bool
  | .notifying | .daemonizing | .forked | .reporting | .looping => true
  | _ => false

/-- The phases behind the line to `--ready-fd`. -/
@[simp] def StartupPhase.notified : StartupPhase → Bool
  | .daemonizing | .forked | .reporting | .looping => true
  | _ => false

/-- Whether the lock has been unlocked. -/
def MainSide.unlocks (m : MainSide) : List LockRequest :=
  if m.phase = .unlocked then [.unlockAndDestroy] else []

variable {debugUnlock} {parse}

/-- What the phases say about the lock. -/
structure Locking (steal : Bool) (s : Startup) : Prop where
  args : s.main.state.args.stealUnlock = steal
  early : s.phase.early = true → s.main.phase = .start ∨ s.main.phase = .killed
  ended : ∀ n, s.phase = .ended n → s.main.phase = .exited ∨ s.main.phase = .unlocked
  stealing : s.phase = .stealing → steal = true
  regular : s.phase = .locking ∨ s.phase = .waiting ∨ s.phase.settled = true → steal = false
  unasked : s.phase.unasked = true → s.requests = []
  asked : s.phase.unasked = false → s.requests = .lock :: s.main.unlocks ∨
    (s.requests = [] ∧ s.main.phase = .exited)
  locked : s.phase.settled = true ∨ s.main.phase = .unlocked → s.locked = true

theorem Locking.live {steal : Bool} {s : Startup} (h : Locking steal s) {n : Nat}
    (hn : s.phase = .ended n) : s.main.phase.live = false := by
  rcases h.ended n hn with he | he
  · rw [he]; rfl
  · rw [he]; rfl

/-- A step of `mainLoop` before the loop ends the process or changes no phase. -/
theorem phase_of_admits {s : Startup} {a : MainAction} {m : MainSide}
    (ha : s.admits a = true) (hearly : s.phase.early = true) (hstart : s.main.phase = .start)
    (h : mainLoop debugUnlock parse a s.main = some m) : m.phase = .start ∨ m.phase = .killed := by
  have hloop : s.phase ≠ .looping := by
    intro he
    rw [he] at hearly
    cases hearly
  cases a with
  | key env keysym codepoint =>
    rw [mainLoop] at h
    split at h
    · split at h
      · cases h; exact Or.inl hstart
      · cases h; exact Or.inr rfl
      · cases h
    · cases h
  | modifiers layoutSame capsLock control =>
    rw [mainLoop] at h
    split at h
    · cases h; exact Or.inl hstart
    · cases h
  | fatal sig =>
    rw [mainLoop, if_pos hstart] at h
    cases h
    exact Or.inr rfl
  | _ => simp [Startup.admits, hloop] at ha

theorem Leaves.start {s : Startup} {a : StartAction} {n : Nat} (h : Leaves s a n) :
    s.main.phase = .start := by
  cases h with
  | finished h => exact h.2
  | connect h | bind h | roundtrip h | stealing h | waiting h | notify h | fork h | success h =>
    exact h.2

theorem Leaves.early {s : Startup} {a : StartAction} {n : Nat} (h : Leaves s a n) :
    s.phase.early = true := by
  cases h with
  | finished h =>
    have hl := h.1
    cases hp : s.phase <;> simp_all
  | connect h | bind h | roundtrip h | stealing h | waiting h | notify h | fork h | success h =>
    rw [h.1]; rfl

/-- Nothing has been unlocked. -/
theorem Locking.requests_eq {steal : Bool} {s : Startup} (hs : Locking steal s)
    (hm : s.main.phase = .start) : s.requests = if s.phase.unasked then [] else [.lock] := by
  cases hu : s.phase.unasked with
  | true => exact hs.unasked hu
  | false => simpa [MainSide.unlocks, hm] using hs.asked hu

theorem Locking.leave {steal : Bool} {s : Startup} (hs : Locking steal s)
    (hm : s.main.phase = .start) (n : Nat) : Locking steal (s.leave n) := by
  refine ⟨hs.args, by simp [Startup.leave], fun _ _ => Or.inl rfl, by simp [Startup.leave],
    by simp [Startup.leave], by simp [Startup.leave], fun _ => ?_, by simp [Startup.leave]⟩
  have hrequests := hs.requests_eq hm
  split at hrequests
  · exact Or.inr ⟨hrequests, rfl⟩
  · exact Or.inl hrequests

/-- The process goes on to another phase, or dies, and keeps what the phase says. -/
theorem Locking.proceed {steal : Bool} {s t : Startup} (hs : Locking steal s)
    (args : t.main.state.args = s.main.state.args) (early : t.phase.early = true)
    (main : t.main.phase = .start ∨ t.main.phase = .killed)
    (requests : t.requests = if t.phase.unasked then [] else [.lock])
    (stealing : t.phase = .stealing → steal = true)
    (regular : t.phase = .locking ∨ t.phase = .waiting ∨ t.phase.settled = true → steal = false)
    (locked : t.phase.settled = true → t.locked = true) : Locking steal t := by
  have hu : t.main.phase ≠ .unlocked := by rcases main with hm | hm <;> simp [hm]
  refine ⟨by rw [args, hs.args], fun _ => main, fun n hn => ?_, stealing, regular, fun h => ?_,
    fun h => Or.inl ?_, ?_⟩
  · rw [hn] at early
    cases early
  · rw [requests, h]; rfl
  · rw [requests, h, MainSide.unlocks, if_neg hu]; rfl
  · rintro (hp | hp)
    · exact locked hp
    · exact absurd hp hu

theorem Locking.enter {steal : Bool} {s : Startup} (hs : Locking steal s)
    (hm : s.main.phase = .start) (hp : s.phase.settled = true) : Locking steal s.enter := by
  refine ⟨hs.args, by simp [Startup.enter], by simp [Startup.enter], by simp [Startup.enter],
    fun _ => hs.regular (Or.inr (Or.inr hp)), by simp [Startup.enter], fun _ => Or.inl ?_,
    fun _ => hs.locked (Or.inl hp)⟩
  have hasked : s.phase.unasked = false := by
    revert hp
    cases s.phase <;> simp
  show s.requests = _
  rw [hs.requests_eq hm, hasked]
  rfl

/-- In the loop and before it, a step of `mainLoop` sends the request if and only if it unlocks. -/
theorem Locking.main {steal : Bool} {s : Startup} {a : MainAction} {m : MainSide}
    (hs : Locking steal s) (hadmits : s.admits a = true)
    (hstep : mainLoop debugUnlock parse a s.main = some m) :
    Locking steal { s with main := m, requests := s.requests ++ m.unlocks } := by
  have hmove := mainLoop_cases debugUnlock parse hstep
  have hlive := hmove.live
  have hargs : m.state.args.stealUnlock = steal := by rw [hmove.args, hs.args]
  have hnot : s.main.unlocks = [] := by
    unfold MainSide.unlocks
    rw [if_neg fun he => by rw [he] at hlive; cases hlive]
  -- what a step can do before the loop
  have hearly : s.phase.early = true → m.phase = .start ∨ m.phase = .killed := by
    intro he
    rcases hs.early he with hm | hm
    · exact phase_of_admits hadmits he hm hstep
    · rw [hm] at hlive
      cases hlive
  have hquiet : s.phase.early = true → m.unlocks = [] := by
    intro he
    rcases hearly he with hm | hm
    · simp [MainSide.unlocks, hm]
    · simp [MainSide.unlocks, hm]
  have hended : ∀ n, s.phase ≠ .ended n := fun n hn => by
    rw [hs.live hn] at hlive
    cases hlive
  refine ⟨hargs, hearly, fun n hn => absurd hn (hended n), hs.stealing, hs.regular, ?_, ?_, ?_⟩
  · intro hu
    have he : s.phase.early = true := by
      revert hu
      cases s.phase <;> simp
    show s.requests ++ m.unlocks = []
    rw [hs.unasked hu, hquiet he, List.append_nil]
  · intro hu
    rcases hs.asked hu with hr | ⟨-, hm⟩
    · left
      show s.requests ++ m.unlocks = _
      rw [hr, hnot]
      rfl
    · rw [hm] at hlive
      cases hlive
  · rintro (hp | hp)
    · exact hs.locked (Or.inl hp)
    · refine hs.locked (Or.inl ?_)
      dsimp only at hp
      cases he : s.phase with
      | looping => rfl
      | ended n => exact absurd he (hended n)
      | _ =>
        rcases hearly (by rw [he]; rfl) with hm | hm
        · rw [hm] at hp; cases hp
        · rw [hm] at hp; cases hp

theorem locking_step {steal : Bool} {a : StartAction} {s t : Startup} (hs : Locking steal s)
    (h : StartMove debugUnlock parse s a t) : Locking steal t := by
  have hargs := hs.args
  cases h with
  | leaves h => exact hs.leave h.start _
  | connects h =>
    obtain ⟨hp, hm⟩ := h
    have hrequests := hs.requests_eq hm
    exact hs.proceed rfl rfl (Or.inl hm) (by simpa [hp] using hrequests) (by simp) (by simp)
      (by simp)
  | asks h =>
    obtain ⟨hp, hm⟩ := h
    have hrequests : s.requests = [] := hs.unasked (by rw [hp]; rfl)
    rw [hargs]
    cases steal
    · exact hs.proceed rfl rfl (Or.inl hm) (by simp [Startup.request, hrequests]) (by simp)
        (fun _ => rfl) (by simp)
    · exact hs.proceed rfl rfl (Or.inl hm) (by simp [Startup.request, hrequests]) (fun _ => rfl)
        (by simp) (by simp)
  | locked h | refused h =>
    obtain ⟨hp, hm⟩ := h
    have hphase : s.phase.early = true ∧ s.phase.settled = false := by
      revert hp
      cases s.phase <;> simp
    exact hs.proceed rfl hphase.1 (Or.inl hm) (hs.requests_eq hm) hs.stealing hs.regular
      (fun h => absurd h (ne_true_of_eq_false hphase.2))
  | waits h | gains h =>
    have hm : s.main.phase = .start := by rcases h with h | h <;> exact h.2
    have hp : s.phase = .locking ∨ s.phase = .waiting := h.imp And.left And.left
    have hrequests : s.requests = [.lock] := by
      rw [hs.requests_eq hm]
      rcases hp with hp | hp <;> rw [hp] <;> rfl
    have hregular := hs.regular (hp.imp_right Or.inl)
    exact hs.proceed rfl rfl (Or.inl hm) hrequests (by simp) (fun _ => hregular) (by simp [*])
  | notifies h | silent h | forks h | detaches h =>
    obtain ⟨hp, hm⟩ := h
    have hsettled : s.phase.settled = true := by rw [hp]; rfl
    exact hs.proceed rfl rfl (Or.inl hm) (by rw [hs.requests_eq hm, hp]; rfl) (by simp)
      (fun _ => hs.regular (Or.inr (Or.inr hsettled))) (fun _ => hs.locked (Or.inl hsettled))
  | enters h => exact hs.enter h.2 (by rw [h.1]; rfl)
  | succeeds h =>
    have ht := hs.enter h.2 (by rw [h.1]; rfl)
    exact ⟨ht.args, ht.early, ht.ended, ht.stealing, ht.regular, ht.unasked, ht.asked, ht.locked⟩
  | fails h =>
    have ht := hs.leave h.2 1
    exact ⟨ht.args, ht.early, ht.ended, ht.stealing, ht.regular, ht.unasked, ht.asked, ht.locked⟩
  | steals h hl =>
    obtain ⟨hp, hm⟩ := h
    have hrequests : s.requests = [.lock] := by rw [hs.requests_eq hm, hp]; rfl
    refine ⟨hargs, by simp [Startup.steal], fun _ _ => Or.inr rfl, by simp [Startup.steal],
      by simp [Startup.steal], by simp [Startup.steal], fun _ => Or.inl ?_, fun _ => hl⟩
    show s.requests ++ [.unlockAndDestroy] = _
    rw [hrequests]
    rfl
  | dies h =>
    have hm : s.main.phase = .start := by rcases h with h | h <;> exact h.2
    have hp : s.phase = .forked ∨ s.phase = .reporting := h.imp And.left And.left
    have hsettled : s.phase.settled = true := by rcases hp with hp | hp <;> rw [hp] <;> rfl
    have hrequests := hs.requests_eq hm
    exact hs.proceed rfl (by rcases hp with hp | hp <;> simp [Startup.die, hp]) (Or.inr rfl)
      hrequests hs.stealing hs.regular (fun _ => hs.locked (Or.inl hsettled))
  | stays => exact hs
  | reads | ends | killed =>
    exact ⟨hs.args, hs.early, hs.ended, hs.stealing, hs.regular, hs.unasked, hs.asked, hs.locked⟩
  | @main a m hadmits hstep hphase =>
    have hm := hs.main hadmits hstep
    rw [MainSide.unlocks, if_neg hphase, List.append_nil] at hm
    exact hm
  | @unlocks a m hadmits hstep hphase =>
    have hm := hs.main hadmits hstep
    rw [MainSide.unlocks, if_pos hphase] at hm
    exact hm

/-- What the phases say about the line to `--ready-fd`; the session is locked by then. -/
structure Noticing (start : StartArgs) (s : Startup) : Prop where
  early : s.phase.early = true → s.phase.notified = false →
    s.notices = 0 ∧ s.args.readyFd = start.readyFd
  notified : s.phase.notified = true → s.notices = if 0 ≤ start.readyFd then 1 else 0
  locked : 0 < s.notices → s.notices = 1 ∧ s.locked = true ∧ 0 ≤ start.readyFd

/-- A step that writes no line. -/
theorem Noticing.keep {start : StartArgs} {s t : Startup} (hs : Noticing start s)
    (notices : t.notices = s.notices) (args : t.args.readyFd = s.args.readyFd)
    (early : t.phase.early = true → t.phase.notified = false →
      s.phase.early = true ∧ s.phase.notified = false)
    (notified : t.phase.notified = true → s.phase.notified = true)
    (locked : s.locked = true → t.locked = true) : Noticing start t := by
  refine ⟨fun he hn => ?_, fun hn => ?_, fun h0 => ?_⟩
  · have h := early he hn
    rw [notices, args]
    exact hs.early h.1 h.2
  · rw [notices]
    exact hs.notified (notified hn)
  · rw [notices] at h0 ⊢
    obtain ⟨h1, hl, hfd⟩ := hs.locked h0
    exact ⟨h1, locked hl, hfd⟩

theorem noticing_step {start : StartArgs} {steal : Bool} {a : StartAction} {s t : Startup}
    (hl : Locking steal s) (hs : Noticing start s) (h : StartMove debugUnlock parse s a t) :
    Noticing start t := by
  cases h with
  | leaves => exact hs.keep rfl rfl (by simp [Startup.leave]) (by simp [Startup.leave]) id
  | asks h =>
    cases s.main.state.args.stealUnlock
    · exact hs.keep rfl rfl (by simp [h.1]) (by simp) id
    · exact hs.keep rfl rfl (by simp [h.1]) (by simp) id
  | connects h => exact hs.keep rfl rfl (by simp [h.1]) (by simp) id
  | locked => exact hs.keep rfl rfl And.intro id fun _ => rfl
  | waits h | gains h =>
    have hp : s.phase = .locking ∨ s.phase = .waiting := h.imp And.left And.left
    exact hs.keep rfl rfl (by rcases hp with hp | hp <;> simp [hp]) (by simp) id
  | notifies h hfd =>
    obtain ⟨h0, he⟩ := hs.early (by rw [h.1]; rfl) (by rw [h.1]; rfl)
    rw [he] at hfd
    have hlocked := hl.locked (Or.inl (by rw [h.1]; rfl))
    refine ⟨by simp, fun _ => ?_, fun _ => ⟨?_, hlocked, hfd⟩⟩
    · rw [h0, if_pos hfd]
    · rw [h0]
  | silent h hfd =>
    obtain ⟨h0, he⟩ := hs.early (by rw [h.1]; rfl) (by rw [h.1]; rfl)
    rw [he] at hfd
    exact ⟨by simp, fun _ => by rw [h0, if_neg hfd], hs.locked⟩
  | steals | fails =>
    exact hs.keep rfl rfl (by simp [Startup.steal, Startup.leave])
      (by simp [Startup.steal, Startup.leave]) id
  | enters h | forks h | detaches h | succeeds h =>
    exact hs.keep rfl rfl (by simp [Startup.enter]) (fun _ => by rw [h.1]; rfl) id
  | refused | dies | stays | reads | ends | killed | main | unlocks =>
    exact hs.keep rfl rfl And.intro id id

/-- What the phases say about the process that waits for the daemon. -/
structure Handshake (daemonize : Bool) (s : Startup) : Prop where
  args : s.args.daemonize = daemonize
  alone : s.phase.alone = true → s.launcher = .absent
  stolen : s.main.phase = .unlocked → s.launcher = .waiting → s.phase = .looping
  early : s.phase.early = true → s.report = []
  looping : s.phase = .looping → s.launcher = .waiting → s.report = [1]
  ended : ∀ n, s.phase = .ended n → s.report = [] ∨ s.report = [0]
  success : s.launcher = .exited 0 → s.phase = .looping ∧ daemonize = true
  failure : ∀ n, s.launcher = .exited (n + 1) → s.main.phase = .exited ∨ s.main.phase = .killed
  daemon : s.launcher ≠ .absent → daemonize = true

/-- Nobody waits. -/
theorem Handshake.of_absent {daemonize : Bool} {s : Startup} (args : s.args.daemonize = daemonize)
    (launcher : s.launcher = .absent) (report : s.report = []) : Handshake daemonize s := by
  refine ⟨args, fun _ => launcher, fun _ hw => ?_, fun _ => report, fun _ hw => ?_,
    fun _ _ => Or.inl report, fun h0 => ?_, fun n hn => ?_, fun hne => absurd launcher hne⟩
  all_goals rw [launcher] at *; contradiction

/-- Where the process can be when it takes a step of `mainLoop`. -/
theorem Locking.admitted {steal : Bool} {s : Startup} {a : MainAction} {m : MainSide}
    (hs : Locking steal s) (hadmits : s.admits a = true)
    (hstep : mainLoop debugUnlock parse a s.main = some m) :
    s.phase = .looping ∨ (s.phase.early = true ∧ m.phase ≠ .unlocked) := by
  have hlive := (mainLoop_cases debugUnlock parse hstep).live
  cases he : s.phase.early with
  | true =>
    refine Or.inr ⟨rfl, fun hu => ?_⟩
    rcases hs.early he with hm | hm
    · rcases phase_of_admits hadmits he hm hstep with hp | hp <;> rw [hp] at hu <;> cases hu
    · rw [hm] at hlive
      cases hlive
  | false =>
    cases hp : s.phase with
    | looping => exact Or.inl rfl
    | ended n =>
      rw [hs.live hp] at hlive
      cases hlive
    | _ => rw [hp] at he; cases he

theorem handshake_step {daemonize steal : Bool} {a : StartAction} {s t : Startup}
    (hl : Locking steal s) (hs : Handshake daemonize s) (h : StartMove debugUnlock parse s a t) :
    Handshake daemonize t := by
  have ⟨args, alone, stolen, early, looping, ended, success, failure, daemon⟩ := hs
  cases h with
  | leaves h =>
    have hearly := h.early
    refine ⟨args, by simp [Startup.leave], by simp [Startup.leave], by simp [Startup.leave],
      by simp [Startup.leave], fun _ _ => Or.inl (early hearly), fun h0 => ?_,
      fun _ _ => Or.inl rfl, daemon⟩
    rw [(success h0).1] at hearly
    cases hearly
  | connects h | asks h | notifies h | silent h | enters h | steals h =>
    exact .of_absent args (alone (by rw [h.1]; rfl)) (early (by rw [h.1]; rfl))
  | locked h | refused h =>
    obtain ⟨hp, -⟩ := h
    have hphase : s.phase.alone = true ∧ s.phase.early = true := by
      revert hp
      cases s.phase <;> simp
    exact .of_absent args (alone hphase.1) (early hphase.2)
  | waits h | gains h =>
    obtain ⟨hp, -⟩ | ⟨hp, -⟩ := h
    · exact .of_absent args (alone (by rw [hp]; rfl)) (early (by rw [hp]; rfl))
    · exact .of_absent args (alone (by rw [hp]; rfl)) (early (by rw [hp]; rfl))
  | forks h | detaches h =>
    obtain ⟨hp, hm⟩ := h
    constructor <;> simp_all
  | fails h hw | succeeds h hw =>
    obtain ⟨hp, hm⟩ := h
    constructor <;> simp_all [Startup.enter, Startup.leave]
  | dies h =>
    obtain ⟨hp, hm⟩ | ⟨hp, hm⟩ := h
    · constructor <;> simp_all [Startup.die]
    · constructor <;> simp_all [Startup.die]
  | stays => exact hs
  | @reads b report hw heq =>
    cases he : s.phase.early with
    | true => simp [early he] at heq
    | false =>
      cases hp : s.phase with
      | looping => constructor <;> simp_all
      | ended n =>
        have hdead := hl.ended n hp
        constructor <;> simp_all
      | _ => simp_all
  | ends hw hempty hclosed =>
    have hdead : s.main.phase = .exited ∨ s.main.phase = .killed := by
      cases hp : s.phase with
      | looping => simp_all
      | ended n =>
        rcases hl.ended n hp with hm | hm
        · exact Or.inl hm
        · simp_all
      | forked | reporting =>
        have := hl.early
        simp_all [Startup.Reports, Startup.At]
      | _ => simp_all
    constructor <;> simp_all
  | killed hw => constructor <;> simp_all
  | main hadmits hstep hphase =>
    have hlive := (mainLoop_cases debugUnlock parse hstep).live
    refine ⟨args, alone, fun hu => absurd hu hphase, early, looping, ended, success,
      fun n hn => ?_, daemon⟩
    rcases failure n hn with hm | hm <;> rw [hm] at hlive <;> cases hlive
  | unlocks hadmits hstep hphase =>
    have hlive := (mainLoop_cases debugUnlock parse hstep).live
    refine ⟨args, alone, fun hu hw => ?_, early, looping, ended, success, fun n hn => ?_, daemon⟩
    · rcases hl.admitted hadmits hstep with hp | ⟨-, hm⟩
      · exact hp
      · exact absurd hphase hm
    · rcases failure n hn with hm | hm <;> rw [hm] at hlive <;> cases hlive

/-! ## Every run -/

/-- Where the program starts. -/
def Startup.begin (args : SwaylockArgs) (start : StartArgs) (buffer : List UInt8) : Startup :=
  { args := start, main := { state := .start args buffer } }

theorem locking_begin (args : SwaylockArgs) (start : StartArgs) (buffer : List UInt8) :
    Locking args.stealUnlock (.begin args start buffer) := by
  constructor <;> simp [Startup.begin, SwaylockState.start]

/-- What holds in every state of the program. -/
structure Begun (steal : Bool) (start : StartArgs) (s : Startup) : Prop where
  locking : Locking steal s
  noticing : Noticing start s
  handshake : Handshake start.daemonize s

theorem begun_begin (args : SwaylockArgs) (start : StartArgs) (buffer : List UInt8) :
    Begun args.stealUnlock start (.begin args start buffer) := by
  refine ⟨locking_begin args start buffer, ?_, ?_⟩
  · constructor <;> simp [Startup.begin]
  · constructor <;> simp [Startup.begin]

theorem begun_step {steal : Bool} {start : StartArgs} {a : StartAction} {s t : Startup}
    (hs : Begun steal start s) (h : startStep debugUnlock parse a s = some t) :
    Begun steal start t := by
  have hmove := startStep_cases debugUnlock parse h
  exact ⟨locking_step hs.locking hmove, noticing_step hs.locking hs.noticing hmove,
    handshake_step hs.locking hs.handshake hmove⟩

/-- **The process of the lock is that of `mainLoop`**: what leads to its loop or past it is one
step there. -/
theorem startStep_simulates (steal : Bool) :
    Simulates (startStep debugUnlock parse) (mainLoop debugUnlock parse)
      fun s m => Locking steal s ∧ m = s.main := by
  rintro a s t _ ⟨hs, rfl⟩ h
  have hmove := startStep_cases debugUnlock parse h
  clear h
  have ht := locking_step hs hmove
  have none : t.main = s.main → ∃ bs v, run (mainLoop debugUnlock parse) bs s.main = some v ∧
      Locking steal t ∧ v = t.main := fun he => ⟨[], _, rfl, ht, he.symm⟩
  have one : ∀ b, mainLoop debugUnlock parse b s.main = some t.main →
      ∃ bs v, run (mainLoop debugUnlock parse) bs s.main = some v ∧ Locking steal t ∧ v = t.main :=
    fun b hb => ⟨[b], _, run_cons.mpr ⟨_, hb, rfl⟩, ht, rfl⟩
  cases hmove with
  | leaves h =>
    refine one (.lock false) ?_
    rw [mainLoop, if_pos h.start]
    simp [Startup.leave]
  | fails h =>
    refine one (.lock false) ?_
    rw [mainLoop, if_pos h.2]
    simp [Startup.leave]
  | steals h =>
    have hsteal := hs.args.trans (hs.stealing h.1)
    refine one (.lock true) ?_
    rw [mainLoop, if_pos h.2, if_pos hsteal]
    rfl
  | enters h | succeeds h =>
    have hregular := hs.args.trans (hs.regular (Or.inr (Or.inr (by rw [h.1]; rfl))))
    refine one (.lock true) ?_
    rw [mainLoop, if_pos h.2, hregular]
    rfl
  | dies h =>
    have hm : s.main.phase = .start := by rcases h with h | h <;> exact h.2
    refine one (.fatal .SIGPIPE) ?_
    rw [mainLoop, if_pos hm]
    rfl
  | main _ hstep | unlocks _ hstep => exact one _ hstep
  | _ => exact none rfl

/-- **The start of the program**, in every order of its steps and those of the process that was
started: the process of the lock runs `mainLoop`; it asks for the lock before anything else and
unlocks at most once, after the compositor has locked the session; the line to `--ready-fd` is
written at most once and only then, and has been written when the loop runs; the process that was
started exits with success only for a daemon in its loop, and with a failure only when the
daemon has ended and left the session as it was. -/
theorem started (debugUnlock : Bool) (parse : CString → Option Json) (args : SwaylockArgs)
    (start : StartArgs) (buffer : List UInt8) {as : List StartAction} {s : Startup}
    (h : run (startStep debugUnlock parse) as (.begin args start buffer) = some s) :
    (∃ bs, run (mainLoop debugUnlock parse) bs { state := .start args buffer } = some s.main) ∧
      s.requests <+: [.lock, .unlockAndDestroy] ∧
      (.unlockAndDestroy ∈ s.requests ↔ s.main.phase = .unlocked) ∧
      (s.main.phase = .unlocked → s.locked = true) ∧
      (0 < s.notices → s.notices = 1 ∧ s.locked = true ∧ 0 ≤ start.readyFd) ∧
      (s.phase = .looping →
        s.locked = true ∧ s.notices = if 0 ≤ start.readyFd then 1 else 0) ∧
      (s.launcher = .exited 0 → s.phase = .looping ∧ start.daemonize = true) ∧
      ∀ n, s.launcher = .exited (n + 1) → s.main.phase = .exited ∨ s.main.phase = .killed := by
  have hbegun : Begun args.stealUnlock start s :=
    run_invariant (fun _ _ _ hs h => begun_step hs h) h (begun_begin args start buffer)
  obtain ⟨bs, _, hbs, -, rfl⟩ := (startStep_simulates args.stealUnlock).run
    ⟨locking_begin args start buffer, rfl⟩ h
  obtain ⟨hlocking, hnoticing, hhandshake⟩ := hbegun
  refine ⟨⟨bs, hbs⟩, ?_, ?_, fun hu => hlocking.locked (Or.inr hu), hnoticing.locked,
    fun hp => ⟨hlocking.locked (Or.inl (by rw [hp]; rfl)), hnoticing.notified (by rw [hp]; rfl)⟩,
    hhandshake.success, hhandshake.failure⟩
  · cases hu : s.phase.unasked with
    | true =>
      rw [hlocking.unasked hu]
      exact List.nil_prefix
    | false =>
      rcases hlocking.asked hu with hr | ⟨hr, -⟩
      · rw [hr, MainSide.unlocks]
        split
        · exact List.prefix_rfl
        · exact List.prefix_append [LockRequest.lock] _
      · rw [hr]
        exact List.nil_prefix
  · cases hu : s.phase.unasked with
    | true =>
      have hearly := hlocking.early (by revert hu; cases s.phase <;> simp)
      rw [hlocking.unasked hu]
      rcases hearly with hm | hm <;> simp [hm]
    | false =>
      rcases hlocking.asked hu with hr | ⟨hr, hm⟩
      · rw [hr, MainSide.unlocks]
        split
        · rename_i hp
          simp [hp]
        · rename_i hp
          simp [hp]
      · simp [hr, hm]

/-- A daemon with a descriptor for its line: the compositor locks the session, the daemon enters
its loop, and its launcher exits. -/
def launch : List StartAction :=
  [.connect true, .bind true true, .roundtrip true, .event .locked, .dispatched true, .notify true,
    .daemonize true true, .detach true, .success true, .main (.flush true), .launcher]

theorem started_daemon :
    ∃ s, run (startStep false fun _ => none) launch
        (.begin {} { daemonize := true, readyFd := 3 } []) = some s ∧
      s.launcher = .exited 0 ∧ s.main.phase = .polling ∧ s.locked = true ∧ s.notices = 1 := by
  obtain ⟨s, hs, hl, hm⟩ : ∃ s, run (startStep false fun _ => none) launch
      (.begin {} { daemonize := true, readyFd := 3 } []) = some s ∧
      s.launcher = .exited 0 ∧ s.main.phase = .polling := ⟨_, rfl, rfl, rfl⟩
  obtain ⟨-, -, -, -, -, hloop, hlaunched, -⟩ :=
    started false (fun _ => none) {} { daemonize := true, readyFd := 3 } [] hs
  obtain ⟨hlocked, hnotices⟩ := hloop (hlaunched hl).1
  exact ⟨s, hs, hl, hm, hlocked, hnotices⟩

end SwaylockAuthd
