import SwaylockAuthd.Lib.Transition
import SwaylockAuthd.Clock

/-!
# `seat.c`: the repeat timer

A key press arms a timer, whose callback handles the key again and arms the next one.  Only a key
event with a keymap cancels it.  The functions of libxkbcommon are parameters.

* `KeyHistory`: a monitor of the keys that are down, and of the one `repeat_sym` belongs to.
* `RepeatsHeld`: a timer is armed only for a held key, with repeat enabled.
* `Invalidates`: the events that end the repeat and leave the timer alone.
* `repeat_held_iff`: a run keeps `RepeatsHeld` if and only if none of these meets an armed timer.
* `repeat_outlives`: they occur.
-/

namespace SwaylockAuthd.Seat

open Transition

/-! ## The handlers -/

/-- `wl_keyboard_key_state`. -/
inductive KeyState
  | released | pressed
  deriving DecidableEq, Repr

/-- The arguments of `keyboard_modifiers`. -/
structure Modifiers where
  modsDepressed : UInt32
  modsLatched : UInt32
  modsLocked : UInt32
  group : UInt32
  deriving DecidableEq, Repr

/-- What the handlers call of libxkbcommon. -/
structure Xkb (X : Type) where
  keyGetOneSym : X → UInt32 → UInt32
  keyGetUtf32 : X → UInt32 → UInt32
  layoutIndexIsActive : X → UInt32 → Bool
  updateMask : X → Modifiers → X
  capsLocked : X → Bool
  controlActive : X → Bool

/-- The callbacks of the seat's timers. -/
inductive SeatTimer
  | keyboardRepeat
  deriving DecidableEq, Repr

/-- What the handlers call of the rest of the program. -/
inductive SeatCall
  | handleKey (sym codepoint : UInt32)
  | damageState
  deriving DecidableEq, Repr

/-- `struct swaylock_seat`, with what it uses of `struct swaylock_state`. -/
structure SwaylockSeat (X : Type) where
  xkbState : Option X := none
  capsLock : Bool := false
  control : Bool := false
  eventloop : Loop SeatTimer := {}
  /-- Whether a `wl_keyboard` is bound. -/
  keyboard : Bool := false
  repeatPeriodMs : Int := 0
  repeatDelayMs : Int := 0
  repeatSym : UInt32 := 0
  repeatCodepoint : UInt32 := 0
  repeatTimer : Option Nat := none
  /-- The calls so far. -/
  calls : List SeatCall := []
  deriving DecidableEq, Repr

/-- The keymap a compositor sends: none (or of a format the switch does not list), or one that
libxkbcommon compiles, or fails to. -/
inductive KeymapEvent (X : Type)
  | noKeymap
  | xkbV1 (compiled : Option X)
  deriving DecidableEq, Repr

variable {X : Type}

/-- `keyboard_keymap`; the process exits when the keymap cannot be used. -/
def keyboardKeymap (s : SwaylockSeat X) : KeymapEvent X → Option (SwaylockSeat X)
  | .noKeymap => some { s with xkbState := none }
  | .xkbV1 (some x) => some { s with xkbState := some x }
  | .xkbV1 none => none

/-- `keyboard_repeat`. -/
def keyboardRepeat (env : Option Timespec) (s : SwaylockSeat X) : SwaylockSeat X :=
  let r := s.eventloop.loopAddTimer env s.repeatPeriodMs .keyboardRepeat
  { s with
    eventloop := r.1, repeatTimer := r.2
    calls := s.calls ++ [.handleKey s.repeatSym s.repeatCodepoint] }

/-- `keyboard_key`. -/
def keyboardKey (xkb : Xkb X) (env : Option Timespec) (key : UInt32) (keyState : KeyState)
    (s : SwaylockSeat X) : SwaylockSeat X :=
  match s.xkbState with
  | none => s
  | some x =>
    let sym := xkb.keyGetOneSym x (key + 8)
    let keycode := if keyState = .pressed then key + 8 else 0
    let codepoint := xkb.keyGetUtf32 x keycode
    let s :=
      if keyState = .pressed then { s with calls := s.calls ++ [.handleKey sym codepoint] } else s
    let s := { s with eventloop := s.eventloop.cancel s.repeatTimer, repeatTimer := none }
    if keyState = .pressed ∧ 0 < s.repeatPeriodMs then
      let r := s.eventloop.loopAddTimer env s.repeatDelayMs .keyboardRepeat
      { s with
        repeatSym := sym, repeatCodepoint := codepoint, eventloop := r.1, repeatTimer := r.2 }
    else s

/-- `keyboard_modifiers`. -/
def keyboardModifiers (xkb : Xkb X) (mods : Modifiers) (s : SwaylockSeat X) : SwaylockSeat X :=
  match s.xkbState with
  | none => s
  | some x =>
    let layoutSame := xkb.layoutIndexIsActive x mods.group
    let x := xkb.updateMask x mods
    let s := { s with xkbState := some x }
    let s :=
      if xkb.capsLocked x ≠ s.capsLock ∨ layoutSame = false then
        { s with capsLock := xkb.capsLocked x, calls := s.calls ++ [.damageState] }
      else s
    { s with control := xkb.controlActive x }

/-- `keyboard_repeat_info`. -/
def keyboardRepeatInfo (rate delay : Int) (s : SwaylockSeat X) : SwaylockSeat X :=
  { s with
    repeatPeriodMs := if rate ≤ 0 then -1 else (1000 : Int).tdiv rate, repeatDelayMs := delay }

/-- `seat_handle_capabilities`, without the pointer.  A keyboard that is bound is released; a new
one is bound. -/
def seatHandleCapabilities (keyboard : Bool) (s : SwaylockSeat X) : SwaylockSeat X :=
  { s with keyboard }

/-- The dispatch of `loop_poll` at a timer of the seat. -/
def visitSeatTimer (env : Option Timespec) (now : Timespec) (addr : Nat) (s : SwaylockSeat X) :
    SwaylockSeat X :=
  if s.eventloop.stale addr then { s with eventloop := s.eventloop.unlink addr }
  else
    match s.eventloop.due now addr with
    | some .keyboardRepeat =>
      let s := keyboardRepeat env s
      { s with eventloop := s.eventloop.unlink addr }
    | none => s

inductive SeatEvent (X : Type)
  /-- From the keyboard of this seat or of another: the keymap is shared. -/
  | keymap (e : KeymapEvent X)
  | enter
  | leave
  | key (env : Option Timespec) (key : UInt32) (keyState : KeyState)
  | modifiers (mods : Modifiers)
  | repeatInfo (rate delay : Int)
  | capabilities (keyboard : Bool)
  | timer (env : Option Timespec) (now : Timespec) (addr : Nat)
  deriving DecidableEq, Repr

/-- The events of a keyboard come only from one that is bound. -/
def seatStep (xkb : Xkb X) (e : SeatEvent X) (s : SwaylockSeat X) : Option (SwaylockSeat X) :=
  match e with
  | .keymap e => keyboardKeymap s e
  | .enter | .leave => if s.keyboard then some s else none
  | .key env key keyState => if s.keyboard then some (keyboardKey xkb env key keyState s) else none
  | .modifiers mods => if s.keyboard then some (keyboardModifiers xkb mods s) else none
  | .repeatInfo rate delay => if s.keyboard then some (keyboardRepeatInfo rate delay s) else none
  | .capabilities keyboard => some (seatHandleCapabilities keyboard s)
  | .timer env now addr => some (visitSeatTimer env now addr s)

/-! ## The keys that are down -/

structure KeyHistory where
  /-- The keys pressed on the keyboard that is bound and not released since. -/
  down : List UInt32 := []
  /-- The key whose symbol is stored in `repeat_sym`. -/
  source : Option UInt32 := none
  /-- `keyboard_repeat` has handled a key that was not held, or with repeat disabled. -/
  stray : Bool := false
  deriving DecidableEq, Repr

/-- A timer that can still fire. -/
def SwaylockSeat.Armed (s : SwaylockSeat X) : Prop := ∃ t ∈ s.eventloop.timers, t.removed = false

/-- Repeat is enabled, and the key of `repeat_sym` is down. -/
def RepeatHeld (s : SwaylockSeat X) (h : KeyHistory) : Prop :=
  0 < s.repeatPeriodMs ∧ ∃ k, h.source = some k ∧ k ∈ h.down

instance (s : SwaylockSeat X) : Decidable s.Armed :=
  inferInstanceAs (Decidable (∃ t ∈ s.eventloop.timers, t.removed = false))

instance (s : SwaylockSeat X) (h : KeyHistory) : Decidable (RepeatHeld s h) :=
  match hs : h.source with
  | some k => decidable_of_iff (0 < s.repeatPeriodMs ∧ k ∈ h.down) (by simp [RepeatHeld, hs])
  | none => isFalse (by simp [RepeatHeld, hs])

/-- The monitor.  A focus leave lifts the keys, or does not: `lifts` says how it is read. -/
def noteKeys (lifts : Bool) (e : SeatEvent X) (s _ : SwaylockSeat X) (h : KeyHistory) :
    KeyHistory :=
  match e with
  | .key _ key .pressed =>
    { h with
      down := key :: h.down
      source := if s.xkbState.isSome ∧ 0 < s.repeatPeriodMs then some key else h.source }
  | .key _ key .released => { h with down := h.down.filter (· ≠ key) }
  | .leave => if lifts then { h with down := [] } else h
  | .capabilities _ => { h with down := [] }
  | .timer _ now addr =>
    if (s.eventloop.due now addr).isSome ∧ ¬ RepeatHeld s h then { h with stray := true } else h
  | _ => h

/-- **Repeat only for a held key**: a timer is armed only then, and `keyboard_repeat` has never
handled another. -/
def RepeatsHeld (x : SwaylockSeat X × KeyHistory) : Prop :=
  (x.1.Armed → RepeatHeld x.1 x.2) ∧ x.2.stray = false

/-- The events that end the repeat without a cancel: the release of the key while there is no
keymap, repeat information that disables repeat, a change of the capabilities, and a focus leave
where it lifts the keys. -/
def Invalidates (lifts : Bool) (e : SeatEvent X) (x : SwaylockSeat X × KeyHistory) : Prop :=
  match e with
  | .key _ key .released => x.2.source = some key ∧ x.1.xkbState = none
  | .repeatInfo rate _ => rate ≤ 0 ∨ 1000 < rate
  | .capabilities _ => True
  | .leave => lifts = true
  | _ => False

/-! ## The invariant -/

structure Seated (x : SwaylockSeat X × KeyHistory) : Prop where
  /-- The timer that can fire is the one the seat points to. -/
  pointed : ∀ t ∈ x.1.eventloop.timers, t.removed = false → x.1.repeatTimer = some t.addr
  bound : ∀ k ∈ x.2.down, x.1.keyboard = true
  held : x.1.Armed → RepeatHeld x.1 x.2
  noStray : x.2.stray = false

theorem seated_init : Seated (({}, {}) : SwaylockSeat X × KeyHistory) where
  pointed := fun _ ht => nomatch ht
  bound := fun _ hk => nomatch hk
  held := fun ⟨_, ht, _⟩ => nomatch ht
  noStray := rfl

theorem Seated.repeatsHeld {x : SwaylockSeat X × KeyHistory} (h : Seated x) : RepeatsHeld x :=
  ⟨h.held, h.noStray⟩

theorem mem_loopAddTimer {κ : Type} {l : Loop κ} {env : Option Timespec} {ms : Int} {callback : κ}
    {t : LoopTimer κ} (h : t ∈ (l.loopAddTimer env ms callback).1.timers) :
    (l.loopAddTimer env ms callback).2 = some t.addr ∨ t ∈ l.timers := by
  cases env with
  | none => exact Or.inr h
  | some now =>
    rcases List.mem_cons.mp h with rfl | hm
    · exact Or.inl rfl
    · exact Or.inr hm

/-- The cancel of `keyboard_key` leaves no timer that can fire. -/
theorem Seated.not_armed_cancel {x : SwaylockSeat X × KeyHistory} (h : Seated x) :
    ∀ t ∈ (x.1.eventloop.cancel x.1.repeatTimer).timers, t.removed ≠ false := by
  intro t ht hlive
  obtain ⟨hm, hne⟩ := Loop.mem_cancel ht hlive
  exact hne (h.pointed t hm hlive)

/-- Repeat is enabled when the rate is at most a thousand keys a second. -/
theorem keyboardRepeatInfo_pos {rate delay : Int} {s : SwaylockSeat X} :
    0 < (keyboardRepeatInfo rate delay s).repeatPeriodMs ↔ ¬ (rate ≤ 0 ∨ 1000 < rate) := by
  unfold keyboardRepeatInfo
  dsimp only
  split
  · rename_i hrate
    exact ⟨fun h => absurd h (by decide), fun h => absurd (Or.inl hrate) h⟩
  · rename_i hrate
    have hpos : 0 < rate := by omega
    rw [Int.tdiv_eq_ediv_of_nonneg (by decide)]
    have hone : 0 < 1000 / rate ↔ 1 * rate ≤ 1000 := Int.le_ediv_iff_mul_le hpos
    rw [hone]
    omega

section Steps

variable {xkb : Xkb X} {lifts : Bool} {s : SwaylockSeat X} {m : KeyHistory}

/-- A key event without a keymap changes nothing but what is down. -/
theorem seated_key_noKeymap (h : Seated (s, m)) (hx : s.xkbState = none) (env : Option Timespec)
    (key : UInt32) (keyState : KeyState) (hk : s.keyboard = true)
    (hc : s.Armed → ¬ Invalidates lifts (.key env key keyState) (s, m)) :
    Seated (s, noteKeys lifts (.key env key keyState) s s m) := by
  cases keyState with
  | pressed =>
    refine ⟨h.pointed, fun _ _ => hk, fun harmed => ?_, h.noStray⟩
    obtain ⟨hperiod, k, hsource, hdown⟩ := h.held harmed
    refine ⟨hperiod, k, ?_, List.mem_cons_of_mem key hdown⟩
    simp only [noteKeys, hx]
    exact hsource
  | released =>
    refine ⟨h.pointed, fun _ _ => hk, fun harmed => ?_, h.noStray⟩
    obtain ⟨hperiod, k, hsource, hdown⟩ := h.held harmed
    refine ⟨hperiod, k, hsource, List.mem_filter.mpr ⟨hdown, decide_eq_true ?_⟩⟩
    rintro rfl
    exact hc harmed ⟨hsource, hx⟩

/-- With a keymap, a press with repeat enabled replaces the timer, and any other event removes
it. -/
theorem seated_key (h : Seated (s, m)) {v : X} (hx : s.xkbState = some v) (env : Option Timespec)
    (key : UInt32) (keyState : KeyState) (hk : s.keyboard = true) :
    Seated (keyboardKey xkb env key keyState s,
      noteKeys lifts (.key env key keyState) s (keyboardKey xkb env key keyState s) m) := by
  have hcancel := h.not_armed_cancel
  cases keyState with
  | pressed =>
    by_cases hperiod : 0 < s.repeatPeriodMs
    · simp only [keyboardKey, hx, noteKeys, if_pos, hperiod, Option.isSome_some, and_self]
      refine ⟨fun t ht hlive => ?_, fun _ _ => hk, fun _ => ?_, h.noStray⟩
      · exact (mem_loopAddTimer ht).resolve_right fun hm => hcancel t hm hlive
      · exact ⟨hperiod, key, rfl, List.mem_cons_self⟩
    · simp only [keyboardKey, hx, noteKeys, if_pos, hperiod, and_false, if_false]
      exact ⟨fun t ht hlive => absurd hlive (hcancel t ht), fun _ _ => hk,
        fun ⟨t, ht, hlive⟩ => absurd hlive (hcancel t ht), h.noStray⟩
  | released =>
    simp only [keyboardKey, hx, noteKeys, reduceCtorEq, false_and, if_false]
    exact ⟨fun t ht hlive => absurd hlive (hcancel t ht), fun _ _ => hk,
      fun ⟨t, ht, hlive⟩ => absurd hlive (hcancel t ht), h.noStray⟩

/-- The timer that fires is replaced by the next one. -/
theorem seated_timer (h : Seated (s, m)) (env : Option Timespec) (now : Timespec) (addr : Nat) :
    Seated (visitSeatTimer env now addr s,
      noteKeys lifts (.timer env now addr) s (visitSeatTimer env now addr s) m) := by
  -- what fires is armed, so the key is held
  have hnote : noteKeys lifts (.timer env now addr) s (visitSeatTimer env now addr s) m = m := by
    simp only [noteKeys]
    split
    · rename_i hcall
      obtain ⟨hdue, hnot⟩ := hcall
      obtain ⟨callback, hdue⟩ := Option.isSome_iff_exists.mp hdue
      obtain ⟨t, ht, -, -, hlive⟩ := Loop.mem_of_due hdue
      exact absurd (h.held ⟨t, ht, hlive⟩) hnot
    · rfl
  rw [hnote]
  unfold visitSeatTimer
  split
  · refine ⟨fun t ht => h.pointed t (Loop.mem_unlink.mp ht).1, h.bound, ?_, h.noStray⟩
    rintro ⟨t, ht, hlive⟩
    exact h.held ⟨t, (Loop.mem_unlink.mp ht).1, hlive⟩
  · split
    · rename_i hdue
      obtain ⟨u, hu, rfl, -, hlive⟩ := Loop.mem_of_due hdue
      have hheld := h.held ⟨u, hu, hlive⟩
      refine ⟨fun t ht htlive => ?_, h.bound, fun _ => hheld, h.noStray⟩
      obtain ⟨ht, hne⟩ := Loop.mem_unlink.mp ht
      -- the old timer is unlinked, and there was no other
      refine (mem_loopAddTimer ht).resolve_right fun hm => hne ?_
      have hsame := (h.pointed t hm htlive).symm.trans (h.pointed u hu hlive)
      exact Option.some.inj hsame
    · exact h

/-- **The other events keep the invariant.** -/
theorem seated_step {e : SeatEvent X} {x y : SwaylockSeat X × KeyHistory} (h : Seated x)
    (hc : ¬ (x.1.Armed ∧ Invalidates lifts e x))
    (hmon : monitored (seatStep xkb) (noteKeys lifts) e x = some y) : Seated y := by
  obtain ⟨s, m⟩ := x
  obtain ⟨t, m'⟩ := y
  obtain ⟨hstep, hnote⟩ := monitored_eq_some.mp hmon
  dsimp only at hstep hnote hc
  subst hnote
  have hquiet : s.Armed → ¬ Invalidates lifts e (s, m) := fun ha hi => hc ⟨ha, hi⟩
  cases e with
  | keymap km =>
    cases km with
    | noKeymap =>
      obtain rfl := Option.some.inj hstep
      exact ⟨h.pointed, h.bound, h.held, h.noStray⟩
    | xkbV1 compiled =>
      cases compiled with
      | none => cases hstep
      | some v =>
        obtain rfl := Option.some.inj hstep
        exact ⟨h.pointed, h.bound, h.held, h.noStray⟩
  | enter =>
    obtain ⟨-, hs⟩ := Option.ite_none_right_eq_some.mp hstep
    obtain rfl := Option.some.inj hs
    exact h
  | leave =>
    obtain ⟨-, hs⟩ := Option.ite_none_right_eq_some.mp hstep
    obtain rfl := Option.some.inj hs
    cases lifts with
    | false => exact h
    | true =>
      have hunarmed : ¬ s.Armed := fun ha => hquiet ha rfl
      exact ⟨h.pointed, (fun _ hk => nomatch hk), fun ha => absurd ha hunarmed, h.noStray⟩
  | key env key keyState =>
    obtain ⟨hk, hs⟩ := Option.ite_none_right_eq_some.mp hstep
    obtain rfl := Option.some.inj hs
    cases hx : s.xkbState with
    | none =>
      have hsame : keyboardKey xkb env key keyState s = s := by rw [keyboardKey, hx]
      rw [hsame]
      exact seated_key_noKeymap h hx env key keyState hk hquiet
    | some v => exact seated_key h hx env key keyState hk
  | modifiers mods =>
    obtain ⟨-, hs⟩ := Option.ite_none_right_eq_some.mp hstep
    obtain rfl := Option.some.inj hs
    unfold keyboardModifiers
    split
    · exact h
    · dsimp only
      split
      · exact ⟨h.pointed, h.bound, h.held, h.noStray⟩
      · exact ⟨h.pointed, h.bound, h.held, h.noStray⟩
  | repeatInfo rate delay =>
    obtain ⟨-, hs⟩ := Option.ite_none_right_eq_some.mp hstep
    obtain rfl := Option.some.inj hs
    refine ⟨h.pointed, h.bound, fun ha => ?_, h.noStray⟩
    exact ⟨keyboardRepeatInfo_pos.mpr (hquiet ha), (h.held ha).2⟩
  | capabilities keyboard =>
    obtain rfl := Option.some.inj hstep
    have hunarmed : ¬ s.Armed := fun ha => hquiet ha trivial
    exact ⟨h.pointed, (fun _ hk => nomatch hk), fun ha => absurd ha hunarmed, h.noStray⟩
  | timer env now addr =>
    obtain rfl := Option.some.inj hstep
    exact seated_timer h env now addr

/-- **The events that end the repeat leave the timer armed.** -/
theorem invalidated {e : SeatEvent X} {x : SwaylockSeat X × KeyHistory} (h : Seated x)
    (harmed : x.1.Armed) (hi : Invalidates lifts e x) :
    ∃ y, monitored (seatStep xkb) (noteKeys lifts) e x = some y ∧ ¬ RepeatsHeld y := by
  obtain ⟨s, m⟩ := x
  obtain ⟨hperiod, k, hsource, hdown⟩ := h.held harmed
  have hk : s.keyboard = true := h.bound k hdown
  have hbreak : ∀ t, seatStep xkb e s = some t → ¬ RepeatsHeld (t, noteKeys lifts e s t m) →
      ∃ y, monitored (seatStep xkb) (noteKeys lifts) e (s, m) = some y ∧ ¬ RepeatsHeld y :=
    fun t ht hn => ⟨(t, noteKeys lifts e s t m), monitored_eq_some.mpr ⟨ht, rfl⟩, hn⟩
  cases e with
  | keymap _ => exact hi.elim
  | enter => exact hi.elim
  | modifiers _ => exact hi.elim
  | timer _ _ _ => exact hi.elim
  | leave =>
    refine hbreak s (if_pos hk) fun hheld => ?_
    obtain ⟨-, k', -, hdown'⟩ := hheld.1 harmed
    rw [noteKeys, if_pos (show lifts = true from hi)] at hdown'
    cases hdown'
  | key env key keyState =>
    cases keyState with
    | pressed => exact hi.elim
    | released =>
      obtain ⟨hkey, hx⟩ := hi
      have hsame : keyboardKey xkb env key .released s = s := by
        rw [keyboardKey, (hx : s.xkbState = none)]
      refine hbreak s ?_ fun hheld => ?_
      · show (if s.keyboard then some (keyboardKey xkb env key .released s) else none) = some s
        rw [if_pos hk, hsame]
      · obtain ⟨-, k', hsource', hdown'⟩ := hheld.1 harmed
        have hkk : key = k' := Option.some.inj (hkey.symm.trans hsource')
        exact absurd hkk.symm (of_decide_eq_true (List.mem_filter.mp hdown').2)
  | repeatInfo rate delay =>
    refine hbreak (keyboardRepeatInfo rate delay s) (if_pos hk) fun hheld => ?_
    exact keyboardRepeatInfo_pos.mp (hheld.1 harmed).1 hi
  | capabilities keyboard =>
    refine hbreak (seatHandleCapabilities keyboard s) rfl fun hheld => ?_
    obtain ⟨-, k', -, hdown'⟩ := hheld.1 harmed
    cases hdown'

end Steps

/-- **Key repeat only for a held key, exactly when**: no event that ends the repeat meets an armed
timer. -/
theorem repeat_held_iff (xkb : Xkb X) (lifts : Bool) (events : List (SeatEvent X)) :
    Throughout (monitored (seatStep xkb) (noteKeys lifts)) RepeatsHeld events ({}, {}) ↔
      Along (monitored (seatStep xkb) (noteKeys lifts))
        (fun e x => ¬ (x.1.Armed ∧ Invalidates lifts e x)) events ({}, {}) :=
  throughout_iff_along (H := fun _ _ => True) (I := Seated)
    (fun _ _ _ h _ hc hstep => seated_step h hc hstep) (fun _ h => h.repeatsHeld)
    (fun _ _ h _ hc => by
      obtain ⟨harmed, hi⟩ := not_not.mp hc
      exact invalidated h harmed hi)
    seated_init (along_of_mem (fun _ _ _ => trivial) _)

/-- A keymap whose symbols and characters are the keycodes. -/
def plainXkb : Xkb Unit where
  keyGetOneSym _ keycode := keycode
  keyGetUtf32 _ keycode := keycode
  layoutIndexIsActive _ _ := true
  updateMask x _ := x
  capsLocked _ := false
  controlActive _ := false

/-- A key is pressed with repeat enabled. -/
def pressHeld : List (SeatEvent Unit) :=
  [.capabilities true, .keymap (.xkbV1 (some ())), .repeatInfo 25 600,
    .key (some ⟨0, 0⟩) 30 .pressed]

/-- The timer fires after a second. -/
def repeatFires : SeatEvent Unit := .timer (some ⟨1, 0⟩) ⟨1, 0⟩ 0

/-- After these events and the timer a key is handled once more that is not held. -/
def Outlives (last : List (SeatEvent Unit)) : Prop :=
  ∃ x, run (monitored (seatStep plainXkb) (noteKeys false)) (pressHeld ++ last ++ [repeatFires])
      ({}, {}) = some x ∧
    ¬ RepeatsHeld x ∧ x.2.stray = true ∧ x.1.calls = [.handleKey 38 38, .handleKey 38 38]

/-- **The repeat outlives its key**: repeat is disabled, the key is released while there is no
keymap, or the keyboard is lost, and the key is handled once more. -/
theorem repeat_outlives :
    Outlives [.repeatInfo 0 600] ∧ Outlives [.keymap .noKeymap, .key none 30 .released] ∧
      Outlives [.capabilities false] := by
  refine ⟨⟨_, rfl, ?_, rfl, rfl⟩, ⟨_, rfl, ?_, rfl, rfl⟩, ⟨_, rfl, ?_, rfl, rfl⟩⟩
  · exact fun h => absurd h.2 (by decide)
  · exact fun h => absurd h.2 (by decide)
  · exact fun h => absurd h.2 (by decide)

end SwaylockAuthd.Seat
