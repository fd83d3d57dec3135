import SwaylockAuthd.MainProcess

/-!
# `main`: the event loop

One iteration of the loop of `main` and `loop_poll`: flush the display, poll, dispatch
the display, the replies of the child and the `SIGUSR1` pipe in this order, each only
if `poll` reported it, then visit the timers that were in the list.  What `poll`
reports about the reply pipe is fixed at the moment it returns; the child goes on meanwhile.

* `mainLoop`: one step of the main process.
* `mainLoop_cases`: what each step can do.
-/

namespace SwaylockAuthd

open Transition

/-- Where the main process is; `display`, `reply` and `term` carry what `poll`
reported about the reply pipe and the `SIGUSR1` pipe. -/
inductive MainPhase
  | start
  | top
  | polling
  | display (mask : Revents) (term : Bool)
  | reply (mask : Revents) (term : Bool)
  | term (term : Bool)
  | clock
  | timers (now : Timespec) (todo : List Nat)
  | exited
  | killed
  | unlocked
  deriving DecidableEq, Repr

/-- The process has not ended. -/
def MainPhase.live : MainPhase → Bool
  | .exited | .killed | .unlocked => false
  | _ => true

/-- The callbacks that handle keys: of the display (also while `main` waits for the
lock), and of a repeat timer. -/
def MainPhase.handlesKeys : MainPhase → Bool
  | .start | .display _ _ | .timers _ _ => true
  | _ => false

/-- Where `exit` leads: a debug build unlocks in its `atexit` handler. -/
def MainPhase.onExit (debugUnlock : Bool) : MainPhase :=
  if debugUnlock then .unlocked else .exited

/-- The main process with its ends of the pipes; `sigusr` says whether a byte of
the signal handler waits in its pipe. -/
structure MainSide where
  state : SwaylockState
  phase : MainPhase := .start
  sigusr : Bool := false
  toChild : Pipe := {}
  toMain : Pipe := {}
  deriving DecidableEq, Repr

/-- A step of the main process, with what the system answers in it. -/
inductive MainAction
  | lock (locked : Bool)
  | flush (ok : Bool)
  | poll (display : Bool)
  | interrupted
  | pollFailed
  | key (env : Env) (keysym : Keysym) (codepoint : UInt32)
  | modifiers (layoutSame capsLock control : Bool)
  | displayExits
  | dispatched (ok : Bool)
  | reply (env : Env)
  | term
  | clock (now : Timespec)
  | timer (env : Env)
  | sigusr1
  | fatal (sig : Signal)

variable (debugUnlock : Bool) (parse : CString → Option Json)

/-- `exit`, called from a callback of the loop. -/
def MainSide.exit (m : MainSide) : MainSide := { m with phase := .onExit debugUnlock }

/-- One step of the main process. -/
def mainLoop : MainAction → MainSide → Option MainSide
  | .lock locked, m =>
    if m.phase = .start then
      if m.state.args.stealUnlock then
        some { m with phase := if locked then .unlocked else .exited }
      else some { m with phase := if locked then .top else .exited }
    else none
  | .flush ok, m =>
    if m.phase = .top then
      some { m with phase := if m.state.runDisplay ∧ ok then .polling else .unlocked }
    else none
  | .poll display, m =>
    if m.phase = .polling then
      let mask := m.toMain.revents
      some { m with phase := if display then .display mask m.sigusr else .reply mask m.sigusr }
    else none
  | .interrupted, m => if m.phase = .polling then some { m with phase := .reply {} false } else none
  | .pollFailed, m => if m.phase = .polling then some (m.exit debugUnlock) else none
  | .key env keysym codepoint, m =>
    if m.phase.handlesKeys then
      match swaylockHandleKey env m.state m.toChild keysym codepoint with
      | .running state toChild => some { m with state, toChild }
      | .killed => some { m with phase := .killed }
      | .blocked => none
    else none
  | .modifiers layoutSame capsLock control, m =>
    if m.phase.handlesKeys then
      some { m with state := keyboardModifiers layoutSame capsLock control m.state }
    else none
  | .displayExits, m =>
    match m.phase with
    | .display _ _ => some (m.exit debugUnlock)
    | _ => none
  | .dispatched ok, m =>
    match m.phase with
    | .display mask term =>
      let state := if ok then m.state else { m.state with runDisplay := false }
      some { m with state, phase := .reply mask term }
    | _ => none
  | .reply env, m =>
    match m.phase with
    | .reply mask term =>
      match commIn parse env mask m.state m.toMain with
      | .running state toMain => some { m with state, toMain, phase := .term term }
      | .exited => some (m.exit debugUnlock)
      | .blocked => none
    | _ => none
  | .term, m =>
    match m.phase with
    | .term term =>
      let state := if term then { m.state with runDisplay := false } else m.state
      some { m with state, phase := .clock }
    | _ => none
  | .clock now, m =>
    if m.phase = .clock then
      some { m with phase := .timers now (m.state.eventloop.timers.map LoopTimer.addr) }
    else none
  | .timer env, m =>
    match m.phase with
    | .timers now (addr :: todo) =>
      some { m with state := visitTimer env now addr m.state, phase := .timers now todo }
    | .timers _ [] => some { m with phase := .top }
    | _ => none
  | .sigusr1, m =>
    if m.phase.live ∧ m.phase ≠ .start then some { m with sigusr := true } else none
  | .fatal sig, m =>
    if m.phase = .start then some { m with phase := .killed } -- no handlers yet
    else if m.phase.live ∧ sig ≠ .SIGUSR1 then
      some { m with
        phase := if mainDisposition debugUnlock sig = .handled then .unlocked else .killed }
    else none

/-! ## What a step does -/

/-- The process goes on to a phase without touching anything else. -/
inductive Proceeds (m : MainSide) : MainAction → MainPhase → Prop
  | lock (h : m.phase = .start) (args : m.state.args.stealUnlock = false) :
      Proceeds m (.lock true) .top
  | flush (h : m.phase = .top) (run : m.state.runDisplay = true) :
      Proceeds m (.flush true) .polling
  | poll (h : m.phase = .polling) (display : Bool) :
      Proceeds m (.poll display)
        (if display then .display m.toMain.revents m.sigusr else .reply m.toMain.revents m.sigusr)
  | interrupted (h : m.phase = .polling) : Proceeds m .interrupted (.reply {} false)
  | quiet {term : Bool} {env : Env} (h : m.phase = .reply {} term) :
      Proceeds m (.reply env) (.term term)
  | term (h : m.phase = .term false) : Proceeds m .term .clock
  | clock (h : m.phase = .clock) (now : Timespec) :
      Proceeds m (.clock now) (.timers now (m.state.eventloop.timers.map LoopTimer.addr))
  | timersDone {now : Timespec} {env : Env} (h : m.phase = .timers now []) :
      Proceeds m (.timer env) .top

/-- The process ends, and unlocks only if it is a debug build. -/
inductive Ends (m : MainSide) : MainAction → MainPhase → Prop
  | refused (h : m.phase = .start) : Ends m (.lock false) .exited
  | pollFailed (h : m.phase = .polling) : Ends m .pollFailed (.onExit debugUnlock)
  | displayExits {mask : Revents} {term : Bool} (h : m.phase = .display mask term) :
      Ends m .displayExits (.onExit debugUnlock)
  | hangup {mask : Revents} {term : Bool} {env : Env} (h : m.phase = .reply mask term)
      (error : mask.pollerr = true ∨ (mask.pollin = false ∧ mask.pollhup = true)) :
      Ends m (.reply env) (.onExit debugUnlock)
  | read {mask : Revents} {term : Bool} {env : Env} (h : m.phase = .reply mask term)
      (why : CommInExits env m.toMain) : Ends m (.reply env) (.onExit debugUnlock)
  | sigpipe {env : Env} {keysym : Keysym} {codepoint : UInt32} (h : m.phase.handlesKeys = true)
      (killed : swaylockHandleKey env m.state m.toChild keysym codepoint = .killed) :
      Ends m (.key env keysym codepoint) .killed
  | fatal {sig : Signal} (h : m.phase.live = true) : Ends m (.fatal sig) .killed
  | crash {sig : Signal} (h : m.phase.live = true) (debug : debugUnlock = true) :
      Ends m (.fatal sig) .unlocked

/-- What a step of the main process does. -/
inductive MainMove (m : MainSide) : MainAction → MainSide → Prop
  | proceeds {a : MainAction} {phase : MainPhase} (h : Proceeds m a phase) :
      MainMove m a { m with phase }
  | ends {a : MainAction} {phase : MainPhase} (h : Ends debugUnlock m a phase) :
      MainMove m a { m with phase }
  | steals (h : m.phase = .start) (args : m.state.args.stealUnlock = true) :
      MainMove m (.lock true) { m with phase := .unlocked }
  | unlocks {ok : Bool} (h : m.phase = .top) (why : m.state.runDisplay = false ∨ ok = false) :
      MainMove m (.flush ok) { m with phase := .unlocked }
  | key {env : Env} {keysym : Keysym} {codepoint : UInt32} {s : SwaylockState} {p : Pipe}
      (h : m.phase.handlesKeys = true)
      (eq : swaylockHandleKey env m.state m.toChild keysym codepoint = .running s p)
      (step : KeyStep env m.state m.toChild s p) :
      MainMove m (.key env keysym codepoint) { m with state := s, toChild := p }
  | modifiers {layoutSame capsLock control : Bool} {s : SwaylockState}
      (h : m.phase.handlesKeys = true) (keep : Modifies m.state s) :
      MainMove m (.modifiers layoutSame capsLock control) { m with state := s }
  | dispatched {mask : Revents} {term : Bool} (h : m.phase = .display mask term) :
      MainMove m (.dispatched true) { m with phase := .reply mask term }
  | displayFailed {mask : Revents} {term : Bool} (h : m.phase = .display mask term) :
      MainMove m (.dispatched false)
        { m with state := { m.state with runDisplay := false }, phase := .reply mask term }
  | frame {mask : Revents} {term : Bool} {env : Env} {f : Frame} {rest : List UInt8}
      {s : SwaylockState} (h : m.phase = .reply mask term) (ready : mask.pollin = true)
      (head : frameHead m.toMain.data = .item f rest) (type : f.type ≠ 0)
      (eq : s = commInFrame parse env m.state f) (step : FrameStep env m.state f s) :
      MainMove m (.reply env)
        { m with state := s, toMain := { m.toMain with data := rest }, phase := .term term }
  | terminated (h : m.phase = .term true) :
      MainMove m .term { m with state := { m.state with runDisplay := false }, phase := .clock }
  | timer {now : Timespec} {addr : Nat} {todo : List Nat} {env : Env}
      (h : m.phase = .timers now (addr :: todo)) :
      MainMove m (.timer env)
        { m with state := visitTimer env now addr m.state, phase := .timers now todo }
  | sigusr1 (h : m.phase.live = true) : MainMove m .sigusr1 { m with sigusr := true }

theorem mainLoop_reply {env : Env} {m n : MainSide}
    (h : mainLoop debugUnlock parse (.reply env) m = some n) :
    MainMove debugUnlock parse m (.reply env) n := by
  rw [mainLoop] at h
  split at h
  · rename_i mask term hphase
    by_cases herr : mask.pollerr = true
    · have he : commIn parse env mask m.state m.toMain = .exited := by rw [commIn, if_pos herr]
      rw [he] at h
      cases h
      exact .ends (.hangup hphase (Or.inl herr))
    · rw [Bool.not_eq_true] at herr
      by_cases hin : mask.pollin = true
      · rcases commIn_cases parse env m.state m.toMain hin herr with
          ⟨e, -⟩ | ⟨e, why⟩ | ⟨f, rest, head, type, e⟩
        · rw [e] at h; cases h
        · rw [e] at h; cases h; exact .ends (.read hphase why)
        · rw [e] at h
          cases h
          exact .frame hphase hin head type rfl (commInFrame_step parse env m.state f)
      · rw [Bool.not_eq_true] at hin
        by_cases hhup : mask.pollhup = true
        · have he : commIn parse env mask m.state m.toMain = .exited := by
            simp [commIn, herr, hin, hhup]
          rw [he] at h
          cases h
          exact .ends (.hangup hphase (Or.inr ⟨hin, hhup⟩))
        · rw [Bool.not_eq_true] at hhup
          obtain rfl : mask = {} := by
            cases mask
            simp_all
          have he : commIn parse env {} m.state m.toMain = .running m.state m.toMain := by
            simp [commIn]
          rw [he] at h
          cases h
          exact .proceeds (.quiet hphase)
  · cases h

/-- Only a debug build handles another signal than `SIGUSR1`. -/
theorem debug_of_handled {debugUnlock : Bool} {sig : Signal} (hsig : sig ≠ .SIGUSR1)
    (h : mainDisposition debugUnlock sig = .handled) : debugUnlock = true := by
  cases debugUnlock with
  | true => rfl
  | false => cases sig <;> first | exact absurd rfl hsig | cases h

/-- **What a step of the main process does.** -/
theorem mainLoop_cases {a : MainAction} {m n : MainSide}
    (h : mainLoop debugUnlock parse a m = some n) : MainMove debugUnlock parse m a n := by
  cases a with
  | lock locked =>
    rw [mainLoop] at h
    split at h
    · rename_i hphase
      by_cases hargs : m.state.args.stealUnlock = true
      · rw [if_pos hargs] at h
        cases locked with
        | true => cases h; exact .steals hphase hargs
        | false => cases h; exact .ends (.refused hphase)
      · rw [if_neg hargs] at h
        cases locked with
        | true => cases h; exact .proceeds (.lock hphase (by simpa using hargs))
        | false => cases h; exact .ends (.refused hphase)
    · cases h
  | flush ok =>
    rw [mainLoop] at h
    split at h
    · rename_i hphase
      by_cases hrun : m.state.runDisplay = true ∧ ok = true
      · rw [if_pos hrun] at h
        obtain ⟨hr, rfl⟩ := hrun
        cases h
        exact .proceeds (.flush hphase hr)
      · rw [if_neg hrun] at h
        cases h
        refine .unlocks hphase ?_
        rcases not_and_or.mp hrun with hr | hr
        · exact Or.inl (by simpa using hr)
        · exact Or.inr (by simpa using hr)
    · cases h
  | poll display =>
    rw [mainLoop] at h
    split at h
    · rename_i hphase
      cases h
      exact .proceeds (.poll hphase display)
    · cases h
  | interrupted =>
    rw [mainLoop] at h
    split at h
    · rename_i hphase
      cases h
      exact .proceeds (.interrupted hphase)
    · cases h
  | pollFailed =>
    rw [mainLoop] at h
    split at h
    · rename_i hphase
      cases h
      exact .ends (.pollFailed hphase)
    · cases h
  | key env keysym codepoint =>
    rw [mainLoop] at h
    split at h
    · rename_i hphase
      cases hk : swaylockHandleKey env m.state m.toChild keysym codepoint with
      | running s p => rw [hk] at h; cases h; exact .key hphase hk (handleKey_step hk)
      | killed => rw [hk] at h; cases h; exact .ends (.sigpipe hphase hk)
      | blocked => rw [hk] at h; cases h
    · cases h
  | modifiers layoutSame capsLock control =>
    rw [mainLoop] at h
    split at h
    · rename_i hphase
      cases h
      exact .modifiers hphase (modifies_keyboardModifiers _ _ _ _)
    · cases h
  | displayExits =>
    rw [mainLoop] at h
    split at h
    · rename_i mask term hphase
      cases h
      exact .ends (.displayExits hphase)
    · cases h
  | dispatched ok =>
    rw [mainLoop] at h
    split at h
    · rename_i mask term hphase
      cases ok with
      | true => cases h; exact .dispatched hphase
      | false => cases h; exact .displayFailed hphase
    · cases h
  | reply env => exact mainLoop_reply debugUnlock parse h
  | term =>
    rw [mainLoop] at h
    split at h
    · rename_i term hphase
      cases term with
      | true => cases h; exact .terminated hphase
      | false => cases h; exact .proceeds (.term hphase)
    · cases h
  | clock now =>
    rw [mainLoop] at h
    split at h
    · rename_i hphase
      cases h
      exact .proceeds (.clock hphase now)
    · cases h
  | timer env =>
    rw [mainLoop] at h
    split at h
    · rename_i now addr todo hphase
      cases h
      exact .timer hphase
    · rename_i now hphase
      cases h
      exact .proceeds (.timersDone hphase)
    · cases h
  | sigusr1 =>
    rw [mainLoop] at h
    split at h
    · rename_i hlive
      cases h
      exact .sigusr1 hlive.1
    · cases h
  | fatal sig =>
    rw [mainLoop] at h
    split at h
    · rename_i hphase
      cases h
      exact .ends (.fatal (by rw [hphase]; rfl))
    split at h
    · rename_i hlive
      by_cases hd : mainDisposition debugUnlock sig = .handled
      · rw [if_pos hd] at h
        cases h
        exact .ends (.crash hlive.1 (debug_of_handled hlive.2 hd))
      · rw [if_neg hd] at h
        cases h
        exact .ends (.fatal hlive.1)
    · cases h

theorem live_of_handlesKeys {phase : MainPhase} (h : phase.handlesKeys = true) :
    phase.live = true := by
  cases phase <;> first | rfl | cases h

theorem onExit_ne_killed (debugUnlock : Bool) : MainPhase.onExit debugUnlock ≠ .killed := by
  cases debugUnlock <;> decide

variable {debugUnlock} {parse}

/-- A process that has ended takes no step. -/
theorem MainMove.live {a : MainAction} {m n : MainSide} (h : MainMove debugUnlock parse m a n) :
    m.phase.live = true := by
  cases h with
  | proceeds h =>
    cases h with
    | lock hp | flush hp | poll hp | interrupted hp | quiet hp | term hp | clock hp
    | timersDone hp => rw [hp]; rfl
  | ends h =>
    cases h with
    | refused hp | pollFailed hp | displayExits hp | hangup hp | read hp => rw [hp]; rfl
    | sigpipe hk => exact live_of_handlesKeys hk
    | fatal hl | crash hl => exact hl
  | steals hp | unlocks hp | dispatched hp | displayFailed hp | frame hp | terminated hp
  | timer hp =>
    rw [hp]; rfl
  | key hk | modifiers hk => exact live_of_handlesKeys hk
  | sigusr1 hl => exact hl

/-- A step that does not end the process unlocks, or goes on. -/
theorem MainMove.goesOn {a : MainAction} {m n : MainSide} (h : MainMove debugUnlock parse m a n) :
    (∃ phase, Ends debugUnlock m a phase ∧ n = { m with phase }) ∨ n.phase.live = true ∨
      n.phase = .unlocked := by
  have hl := h.live
  cases h with
  | proceeds h =>
    refine Or.inr (Or.inl ?_)
    cases h with
    | poll _ display => cases display <;> rfl
    | _ => rfl
  | ends h => exact Or.inl ⟨_, h, rfl⟩
  | steals => exact Or.inr (Or.inr rfl)
  | unlocks => exact Or.inr (Or.inr rfl)
  | key => exact Or.inr (Or.inl hl)
  | modifiers => exact Or.inr (Or.inl hl)
  | sigusr1 => exact Or.inr (Or.inl hl)
  | _ => exact Or.inr (Or.inl rfl)

end SwaylockAuthd
