import Mathlib.Data.List.TakeWhile
import SwaylockAuthd.Comm.Wire
import SwaylockAuthd.Loop

/-!
# `swaylock.h`: the state of the main process

The fields of `struct swaylock_state` that the key handler, the timers, `comm_in`
and the main loop read or write.  C strings are lists of bytes; a pointer that may
be `NULL` is an `Option`.  What the operating system answers during one callback
(the clock, `rand`, whether an allocation succeeds, how a `write` is split) is an `Env`.
-/

namespace SwaylockAuthd

/-! ## Enumerations -/

/-- `enum auth_state`. -/
inductive AuthState
  | idle
  | validating
  | invalid
  deriving DecidableEq, Repr

/-- `enum input_state`. -/
inductive InputState
  | idle
  | clear
  | letter
  | backspace
  | neutral
  deriving DecidableEq, Repr

/-- `enum authd_stage`; a STAGE frame can store any byte in it. -/
inductive AuthdStage
  | none
  | broker
  | authMode
  | challenge
  | other (byte : UInt8)
  deriving DecidableEq, Repr

/-- The enumerator with the value of a byte. -/
def AuthdStage.ofByte (b : UInt8) : AuthdStage :=
  if b = 0 then .none
  else if b = 1 then .broker
  else if b = 2 then .authMode
  else if b = 3 then .challenge
  else .other b

def AuthdStage.toByte : AuthdStage → UInt8
  | .none => 0
  | .broker => 1
  | .authMode => 2
  | .challenge => 3
  | .other b => b

/-- The callbacks the key handler and `comm_in` arm. -/
inductive TimerCallback
  | setInputIdle
  | setAuthIdle
  | clearPassword
  deriving DecidableEq, Repr

/-! ## Records -/

/-- `struct swaylock_password`. -/
structure SwaylockPassword where
  len : Nat
  bufferLen : Nat
  buffer : List UInt8
  deriving DecidableEq, Repr

/-- A C string without its NUL byte. -/
abbrev CString := List UInt8

/-- `strdup` stops at the first NUL byte. -/
def cstr (l : List UInt8) : CString := l.takeWhile (· ≠ 0)

/-- A C string holds no NUL byte. -/
theorem nul_notMem_cstr (l : List UInt8) : (0 : UInt8) ∉ cstr l := by
  intro h
  have hne := List.mem_takeWhile_imp h
  simp at hne

theorem cstr_eq_self {l : List UInt8} (h : (0 : UInt8) ∉ l) : cstr l = l := by
  refine List.takeWhile_eq_self_iff.mpr fun b hb => ?_
  have hne : b ≠ 0 := fun he => h (he ▸ hb)
  simpa using hne

theorem cstr_cstr (l : List UInt8) : cstr (cstr l) = cstr l := cstr_eq_self (nul_notMem_cstr l)

/-- What is behind the NUL byte is not looked at. -/
theorem cstr_append_nul (l rest : List UInt8) : cstr (l ++ 0 :: rest) = cstr l := by
  induction l with
  | nil => rfl
  | cons b l ih =>
    unfold cstr at ih ⊢
    rw [List.cons_append, List.takeWhile_cons, List.takeWhile_cons, ih]

structure AuthdBroker where
  id : Option CString := none
  name : Option CString := none
  deriving DecidableEq, Repr

structure AuthdAuthMode where
  id : Option CString := none
  label : Option CString := none
  deriving DecidableEq, Repr

structure AuthdUiLayout where
  type : Option CString := none
  label : Option CString := none
  button : Option CString := none
  entry : Option CString := none
  wait : Bool := false
  qrContent : Option CString := none
  qrCode : Option CString := none
  deriving DecidableEq, Repr

structure SwaylockArgs where
  ignoreEmpty : Bool := false
  stealUnlock : Bool := false
  deriving DecidableEq, Repr

/-- `struct swaylock_xkb`. -/
structure SwaylockXkb where
  capsLock : Bool := false
  control : Bool := false
  deriving DecidableEq, Repr

/-- `struct swaylock_state`; `damage` counts the calls of `damage_state`. -/
structure SwaylockState where
  eventloop : Loop TimerCallback := {}
  inputIdleTimer : Option Nat := none
  authIdleTimer : Option Nat := none
  clearPasswordTimer : Option Nat := none
  args : SwaylockArgs := {}
  password : SwaylockPassword
  xkb : SwaylockXkb := {}
  authState : AuthState := .idle
  inputState : InputState := .idle
  highlightStart : Nat := 0
  failedAttempts : Nat := 0
  runDisplay : Bool := true
  authdActive : Bool := false
  authdStage : AuthdStage := .none
  authdBrokers : Option (List AuthdBroker) := none
  authdNumBrokers : Nat := 0
  authdSelBroker : Int := -1
  authdAuthModes : Option (List AuthdAuthMode) := none
  authdNumAuthModes : Nat := 0
  authdSelAuthMode : Int := -1
  authdLayout : AuthdUiLayout := {}
  authdError : Option CString := none
  damage : Nat := 0
  deriving DecidableEq, Repr

/-- `damage_state`. -/
def damageState (s : SwaylockState) : SwaylockState := { s with damage := s.damage + 1 }

/-- The password buffer as `main` allocates it. -/
def SwaylockPassword.initial (buffer : List UInt8) : SwaylockPassword :=
  { len := 0, bufferLen := buffer.length, buffer := buffer.set 0 0 }

/-- The state in which `main` enters the event loop. -/
def SwaylockState.start (args : SwaylockArgs) (buffer : List UInt8) : SwaylockState :=
  { args, password := .initial buffer }

/-! ## The environment of a callback -/

/-- What the system answers while one callback runs: for each timer the callback
may arm, the clock or a failed allocation; `rand`; `password_buffer_create`; the
`write`, `read` and `poll` calls; the allocations of a payload, a JSON value, an array
and the strings of `comm_in`. -/
structure Env where
  inputIdle : Option Timespec := some {}
  authIdle : Option Timespec := some {}
  clearPassword : Option Timespec := some {}
  rand : Nat := 0
  secret : Bool := true
  writes : List WriteCall := []
  reads : List ReadCall := []
  poll : Bool := true
  payload : Bool := true
  json : Bool := true
  array : Bool := true
  string : Nat → Bool := fun _ => true

/-! ## Signals -/

inductive Signal
  | SIGUSR1
  | SIGPIPE
  | SIGSEGV
  | SIGABRT
  | SIGBUS
  | SIGILL
  | SIGFPE
  deriving DecidableEq, Repr

/-- The signals `main` installs a handler for; `debugUnlock` is `HAVE_DEBUG_UNLOCK_ON_CRASH`. -/
def mainHandlers (debugUnlock : Bool) : List Signal :=
  .SIGUSR1 :: if debugUnlock then [.SIGSEGV, .SIGABRT, .SIGBUS, .SIGILL, .SIGFPE] else []

/-- What the main process does about a signal, started with every signal at its default. -/
def mainDisposition (debugUnlock : Bool) (sig : Signal) : Disposition :=
  if sig ∈ mainHandlers debugUnlock then .handled else .default

/-- No build handles or ignores `SIGPIPE`. -/
theorem mainDisposition_sigpipe (debugUnlock : Bool) :
    mainDisposition debugUnlock .SIGPIPE = .default := by
  cases debugUnlock <;> decide

end SwaylockAuthd
