import SwaylockAuthd.State
import SwaylockAuthd.Unicode

/-!
# `password.c` and `write_comm_password`

The password buffer, the three timers and the key handler, as the code computes
them.  `swaylockHandleKey` is an early block for the selection stages and the
button (`authdHandleKey`) in front of the switch over the keysym
(`passwordHandleKey`); a key the block does not intercept reaches the switch.

* `passwordHandleKey_eq`: the switch submits or edits.
* `submitPassword_cases`: the ways a submission ends.
-/

namespace SwaylockAuthd

/-! ## The password buffer -/

/-- `clear_buffer`. -/
def clearBuffer (buf : List UInt8) (size : Nat) : List UInt8 :=
  List.replicate size 0 ++ buf.drop size

/-- `clear_password_buffer`. -/
def clearPasswordBuffer (pw : SwaylockPassword) : SwaylockPassword :=
  { pw with len := 0, buffer := clearBuffer pw.buffer pw.bufferLen }

/-- `backspace`. -/
def backspace (pw : SwaylockPassword) : Bool × SwaylockPassword :=
  if pw.len ≠ 0 then
    let len := pw.len - utf8LastSize pw.buffer
    (true, { pw with len, buffer := pw.buffer.set len 0 })
  else (false, pw)

/-- Store bytes at an offset. -/
def store (buf : List UInt8) (offset : Nat) (src : List UInt8) : List UInt8 :=
  buf.take offset ++ src ++ buf.drop (offset + src.length)

/-- `append_ch`. -/
def appendCh (pw : SwaylockPassword) (codepoint : UInt32) : SwaylockPassword :=
  let utf8Size := utf8Chsize codepoint
  if pw.bufferLen ≤ pw.len + utf8Size + 1 then pw
  else
    let buffer := store pw.buffer pw.len (utf8Encode codepoint)
    { pw with buffer := buffer.set (pw.len + utf8Size) 0, len := pw.len + utf8Size }

/-! ## Timers -/

/-- `set_input_idle`. -/
def setInputIdle (s : SwaylockState) : SwaylockState :=
  damageState { s with inputIdleTimer := none, inputState := .idle }

/-- `set_auth_idle`. -/
def setAuthIdle (s : SwaylockState) : SwaylockState :=
  damageState { s with authIdleTimer := none, authState := .idle }

/-- `schedule_input_idle`. -/
def scheduleInputIdle (env : Env) (s : SwaylockState) : SwaylockState :=
  let r := s.eventloop.reschedule s.inputIdleTimer env.inputIdle 1500 .setInputIdle
  { s with eventloop := r.1, inputIdleTimer := r.2 }

/-- `cancel_input_idle`. -/
def cancelInputIdle (s : SwaylockState) : SwaylockState :=
  { s with eventloop := s.eventloop.cancel s.inputIdleTimer, inputIdleTimer := none }

/-- `schedule_auth_idle`. -/
def scheduleAuthIdle (env : Env) (s : SwaylockState) : SwaylockState :=
  let r := s.eventloop.reschedule s.authIdleTimer env.authIdle 3000 .setAuthIdle
  { s with eventloop := r.1, authIdleTimer := r.2 }

/-- `clear_password`. -/
def clearPassword (env : Env) (s : SwaylockState) : SwaylockState :=
  let s := scheduleInputIdle env { s with clearPasswordTimer := none, inputState := .clear }
  damageState { s with password := clearPasswordBuffer s.password }

/-- `schedule_password_clear`. -/
def schedulePasswordClear (env : Env) (s : SwaylockState) : SwaylockState :=
  let r := s.eventloop.reschedule s.clearPasswordTimer env.clearPassword 10000 .clearPassword
  { s with eventloop := r.1, clearPasswordTimer := r.2 }

/-- `cancel_password_clear`. -/
def cancelPasswordClear (s : SwaylockState) : SwaylockState :=
  { s with eventloop := s.eventloop.cancel s.clearPasswordTimer, clearPasswordTimer := none }

/-- The function a timer calls. -/
def TimerCallback.call (env : Env) : TimerCallback → SwaylockState → SwaylockState
  | .setInputIdle => SwaylockAuthd.setInputIdle
  | .setAuthIdle => SwaylockAuthd.setAuthIdle
  | .clearPassword => SwaylockAuthd.clearPassword env

/-- What `loop_poll` does at one timer of its list at the time `now`. -/
def visitTimer (env : Env) (now : Timespec) (addr : Nat) (s : SwaylockState) : SwaylockState :=
  if s.eventloop.stale addr then { s with eventloop := s.eventloop.unlink addr }
  else
    match s.eventloop.due now addr with
    | some callback =>
      let s := callback.call env s
      { s with eventloop := s.eventloop.unlink addr }
    | none => s

/-! ## Writing to the child -/

/-- How a function that writes to the child ends: it returns, `SIGPIPE` kills the
process, or a `write` does not return. -/
inductive Outcome (α : Type)
  | running (a : α) (p : Pipe)
  | killed
  | blocked

/-- `comm_main_write`.  No build changes what happens on `SIGPIPE`
(`mainDisposition_sigpipe`). -/
def commMainWrite (env : Env) (p : Pipe) (type : UInt8) (payload : Option (List UInt8))
    (len : Nat) : Outcome Bool :=
  match commWrite (mainDisposition false .SIGPIPE) env.writes p type payload len with
  | .returned ok p _ => .running ok p
  | .killed => .killed
  | .blocked => .blocked

/-- `write_comm_password`. -/
def writeCommPassword (env : Env) (pw : SwaylockPassword) (p : Pipe) :
    Outcome (Bool × SwaylockPassword) :=
  let size := pw.len + 1
  if env.secret then
    match commMainWrite env p COMM_MSG_PASSWORD (some (pw.buffer.take size)) size with
    | .running ok p => .running (ok, clearPasswordBuffer pw) p
    | .killed => .killed
    | .blocked => .blocked
  else .running (false, clearPasswordBuffer pw) p

/-- `submit_password`. -/
def submitPassword (env : Env) (s : SwaylockState) (p : Pipe) : Outcome SwaylockState :=
  if s.args.ignoreEmpty ∧ s.password.len = 0 then .running s p
  else if s.authState = .validating then .running s p
  else
    let s := { s with inputState := .idle, authState := .validating }
    let s := cancelInputIdle (cancelPasswordClear s)
    match writeCommPassword env s.password p with
    | .running (ok, password) p =>
      let s := { s with password }
      let s := if ok then s else scheduleAuthIdle env { s with authState := .invalid }
      .running (damageState s) p
    | .killed => .killed
    | .blocked => .blocked

/-! ## Keys -/

/-- `xkb_keysym_t`: the keysyms the handler names, and every other one. -/
inductive Keysym
  | Up
  | Down
  | Return
  | KP_Enter
  | Escape
  | Tab
  | Delete
  | BackSpace
  | Caps_Lock
  | Shift_L
  | Shift_R
  | Control_L
  | Control_R
  | Meta_L
  | Meta_R
  | Alt_L
  | Alt_R
  | Super_L
  | Super_R
  | m
  | d
  | j
  | c
  | u
  | other (code : UInt32)
  deriving DecidableEq, Repr

/-- `update_highlight`. -/
def updateHighlight (env : Env) (s : SwaylockState) : SwaylockState :=
  { s with highlightStart := (s.highlightStart + env.rand % 1024 + 512) % 2048 }

/-- `Up` in a selection stage. -/
def selectUp (isBroker : Bool) (s : SwaylockState) : SwaylockState :=
  if isBroker then
    if 0 < s.authdSelBroker then { s with authdSelBroker := s.authdSelBroker - 1 } else s
  else
    if 0 < s.authdSelAuthMode then { s with authdSelAuthMode := s.authdSelAuthMode - 1 } else s

/-- `Down` in a selection stage. -/
def selectDown (isBroker : Bool) (s : SwaylockState) : SwaylockState :=
  if isBroker then
    if s.authdSelBroker < s.authdNumBrokers - 1 then
      { s with authdSelBroker := s.authdSelBroker + 1 }
    else s
  else
    if s.authdSelAuthMode < s.authdNumAuthModes - 1 then
      { s with authdSelAuthMode := s.authdSelAuthMode + 1 }
    else s

/-- The id of the selected entry. -/
def selectedId (isBroker : Bool) (s : SwaylockState) : Option CString :=
  if isBroker then
    if 0 ≤ s.authdSelBroker ∧ s.authdSelBroker < s.authdNumBrokers then
      ((s.authdBrokers.getD [])[s.authdSelBroker.toNat]?).bind AuthdBroker.id
    else none
  else
    if 0 ≤ s.authdSelAuthMode ∧ s.authdSelAuthMode < s.authdNumAuthModes then
      ((s.authdAuthModes.getD [])[s.authdSelAuthMode.toNat]?).bind AuthdAuthMode.id
    else none

/-- A `comm_main_write` of the key handler whose result is not looked at. -/
def sendKey (env : Env) (s : SwaylockState) (p : Pipe) (type : UInt8)
    (payload : Option (List UInt8)) (len : Nat) : Outcome SwaylockState :=
  match commMainWrite env p type payload len with
  | .running _ p => .running s p
  | .killed => .killed
  | .blocked => .blocked

/-- The keys intercepted in a selection stage. -/
def selectionKey (isBroker : Bool) (env : Env) (s : SwaylockState) (p : Pipe) :
    Keysym → Option (Outcome SwaylockState)
  | .Up => some (.running (damageState (selectUp isBroker s)) p)
  | .Down => some (.running (damageState (selectDown isBroker s)) p)
  | .Return | .KP_Enter =>
    match selectedId isBroker s with
    | some id =>
      some (sendKey env s p (if isBroker then COMM_MSG_BROKER_SEL else COMM_MSG_AUTH_MODE_SEL)
        (some (id ++ [0])) (id.length + 1))
    | none => some (.running s p)
  | .Escape => some (sendKey env s p COMM_MSG_CANCEL none 0)
  | _ => none

/-- The first block of `swaylock_handle_key`; `none` when the key is not intercepted. -/
def authdHandleKey (env : Env) (s : SwaylockState) (p : Pipe) (keysym : Keysym) :
    Option (Outcome SwaylockState) :=
  if s.authdActive then
    match s.authdStage with
    | .broker => selectionKey true env s p keysym
    | .authMode => selectionKey false env s p keysym
    | .challenge =>
      if keysym = .Tab ∧ s.authdLayout.button ≠ none then
        some (sendKey env (damageState s) p COMM_MSG_BUTTON none 0)
      else none
    | _ => none
  else none

/-- `Escape`, and `Delete`, `BackSpace`, `c` and `u` with `Ctrl`. -/
def clearKey (env : Env) (s : SwaylockState) : SwaylockState :=
  let s := { s with password := clearPasswordBuffer s.password, inputState := .clear }
  damageState (scheduleInputIdle env (cancelPasswordClear s))

/-- `Delete` and `BackSpace`. -/
def backspaceKey (env : Env) (s : SwaylockState) : SwaylockState :=
  let r := backspace s.password
  let s := { s with password := r.2 }
  let s :=
    if r.1 ∧ s.password.len ≠ 0 then
      updateHighlight env (schedulePasswordClear env { s with inputState := .backspace })
    else cancelPasswordClear { s with inputState := .clear }
  damageState (scheduleInputIdle env s)

/-- A modifier key. -/
def neutralKey (env : Env) (s : SwaylockState) : SwaylockState :=
  let s := schedulePasswordClear env { s with inputState := .neutral }
  damageState (scheduleInputIdle env s)

/-- The default branch: a key with a code point. -/
def textKey (env : Env) (s : SwaylockState) (codepoint : UInt32) : SwaylockState :=
  if codepoint ≠ 0 then
    let s := { s with password := appendCh s.password codepoint, inputState := .letter }
    let s := scheduleInputIdle env (schedulePasswordClear env s)
    damageState (updateHighlight env s)
  else s

/-- The switch of `swaylock_handle_key`. -/
def passwordHandleKey (env : Env) (s : SwaylockState) (p : Pipe) (keysym : Keysym)
    (codepoint : UInt32) : Outcome SwaylockState :=
  match keysym with
  | .KP_Enter | .Return => submitPassword env s p
  | .Delete | .BackSpace =>
    if s.xkb.control then .running (clearKey env s) p else .running (backspaceKey env s) p
  | .Escape => .running (clearKey env s) p
  | .Caps_Lock | .Shift_L | .Shift_R | .Control_L | .Control_R | .Meta_L | .Meta_R | .Alt_L
  | .Alt_R | .Super_L | .Super_R => .running (neutralKey env s) p
  | .m | .d | .j =>
    if s.xkb.control then submitPassword env s p else .running (textKey env s codepoint) p
  | .c | .u =>
    if s.xkb.control then .running (clearKey env s) p else .running (textKey env s codepoint) p
  | _ => .running (textKey env s codepoint) p

/-- `swaylock_handle_key`. -/
def swaylockHandleKey (env : Env) (s : SwaylockState) (p : Pipe) (keysym : Keysym)
    (codepoint : UInt32) : Outcome SwaylockState :=
  match authdHandleKey env s p keysym with
  | some r => r
  | none => passwordHandleKey env s p keysym codepoint

/-- `keyboard_modifiers`. -/
def keyboardModifiers (layoutSame capsLock control : Bool) (s : SwaylockState) : SwaylockState :=
  let s :=
    if capsLock ≠ s.xkb.capsLock ∨ ¬ layoutSame then
      damageState { s with xkb.capsLock := capsLock }
    else s
  { s with xkb.control := control }

end SwaylockAuthd
