import SwaylockAuthd.MainLoop
import SwaylockAuthd.RenderFrame
import SwaylockAuthd.Repaint

/-!
# The screen and the main process

`render_frame` draws the indicator from the state, and only `damage_state` tells the surfaces
that it has changed.  Here a surface runs beside the main process and sees its calls.

* `drawnState`: what is drawn of a state; `renderFrame_drawnState`.
* `Repaints`: the callback has called `damage_state`, or has changed nothing that is drawn.
* `MainMove.repaints`: every callback does so, unless a list could not be allocated.
* `screen_current`: what is shown on a clean surface is the current state.
-/

namespace SwaylockAuthd

open Transition

/-- What is drawn of a state: the fields that `render_frame` does not read are forgotten. -/
def drawnState (s : SwaylockState) : SwaylockState :=
  { s with
    eventloop := {}, inputIdleTimer := none, authIdleTimer := none, clearPasswordTimer := none
    args := {}, password := { len := 0, bufferLen := 0, buffer := [] }, xkb.control := false
    runDisplay := true, damage := 0 }

/-- **A frame is a function of what is drawn.** -/
theorem renderFrame_drawnState (env : DrawEnv) (args : IndicatorArgs) (s : SwaylockState)
    (buffer : Bool) :
    renderFrame env args (drawnState s) buffer = renderFrame env args s buffer := rfl

/-- The step has called `damage_state` once, or has changed nothing that is drawn. -/
def Repaints (s t : SwaylockState) : Prop :=
  t.damage = s.damage + 1 ∨ (t.damage = s.damage ∧ drawnState t = drawnState s)

theorem Repaints.refl (s : SwaylockState) : Repaints s s := Or.inr ⟨rfl, rfl⟩

/-! ## Keys -/

theorem repaints_selectUp (isBroker : Bool) (s : SwaylockState) :
    Repaints s (damageState (selectUp isBroker s)) := by
  refine Or.inl ?_
  unfold selectUp damageState
  repeat' split
  all_goals rfl

theorem repaints_selectDown (isBroker : Bool) (s : SwaylockState) :
    Repaints s (damageState (selectDown isBroker s)) := by
  refine Or.inl ?_
  unfold selectDown damageState
  repeat' split
  all_goals rfl

theorem repaints_sendKey {env : Env} {s t u : SwaylockState} {p q : Pipe} {type : UInt8}
    {payload : Option (List UInt8)} {len : Nat} (hs : Repaints u s)
    (h : sendKey env s p type payload len = .running t q) : Repaints u t := by
  obtain ⟨rfl, -, -⟩ := sendKey_running h
  exact hs

theorem repaints_selectionKey {isBroker : Bool} {env : Env} {s t : SwaylockState} {p q : Pipe}
    {keysym : Keysym} (h : selectionKey isBroker env s p keysym = some (.running t q)) :
    Repaints s t := by
  have select : ∀ {keysym : Keysym}, keysym = .Return ∨ keysym = .KP_Enter →
      selectionKey isBroker env s p keysym = some (.running t q) → Repaints s t := by
    rintro keysym (rfl | rfl) h
    all_goals
      rw [selectionKey] at h
      cases hid : selectedId isBroker s with
      | none =>
        rw [hid] at h
        cases h
        exact Repaints.refl s
      | some id =>
        rw [hid] at h
        exact repaints_sendKey (Repaints.refl s) (Option.some.inj h)
  cases keysym with
  | Up => cases h; exact repaints_selectUp isBroker s
  | Down => cases h; exact repaints_selectDown isBroker s
  | Return => exact select (Or.inl rfl) h
  | KP_Enter => exact select (Or.inr rfl) h
  | Escape => exact repaints_sendKey (Repaints.refl s) (Option.some.inj h)
  | _ => cases h

theorem repaints_authdHandleKey {env : Env} {s t : SwaylockState} {p q : Pipe} {keysym : Keysym}
    (h : authdHandleKey env s p keysym = some (.running t q)) : Repaints s t := by
  rw [authdHandleKey] at h
  split at h
  · split at h
    · exact repaints_selectionKey h
    · exact repaints_selectionKey h
    · split at h
      · exact repaints_sendKey (Or.inl rfl) (Option.some.inj h)
      · cases h
    · cases h
  · cases h

theorem repaints_edit (env : Env) (s : SwaylockState) (codepoint : UInt32) (a : KeyAction) :
    Repaints s (a.edit env s codepoint) := by
  cases a with
  | submit => exact Repaints.refl s
  | clear => exact Or.inl rfl
  | erase =>
    show Repaints s (backspaceKey env s)
    refine Or.inl ?_
    unfold backspaceKey
    dsimp only
    split <;> rfl
  | neutral => exact Or.inl rfl
  | text =>
    show Repaints s (textKey env s codepoint)
    unfold textKey
    split
    · exact Or.inl rfl
    · exact Repaints.refl s

theorem repaints_submit {env : Env} {s t : SwaylockState} {p q : Pipe}
    (h : SubmitStep env s p t q) : Repaints s t := by
  cases h with
  | skip => exact Repaints.refl s
  | fail => exact Or.inl rfl
  | send => exact Or.inl rfl

/-- **A key is seen**: what it changes of the drawing is repainted. -/
theorem repaints_handleKey {env : Env} {s t : SwaylockState} {p q : Pipe} {keysym : Keysym}
    {codepoint : UInt32} (h : swaylockHandleKey env s p keysym codepoint = .running t q) :
    Repaints s t := by
  rw [swaylockHandleKey] at h
  cases hk : authdHandleKey env s p keysym with
  | some r =>
    rw [hk] at h
    subst h
    exact repaints_authdHandleKey hk
  | none =>
    rw [hk] at h
    dsimp only at h
    rw [passwordHandleKey_eq] at h
    split at h
    · exact repaints_submit (submitPassword_step h)
    · cases h
      exact repaints_edit env s codepoint _

theorem repaints_keyboardModifiers (layoutSame capsLock control : Bool) (s : SwaylockState) :
    Repaints s (keyboardModifiers layoutSame capsLock control s) := by
  unfold keyboardModifiers
  dsimp only
  split
  · exact Or.inl rfl
  · exact Or.inr ⟨rfl, rfl⟩

/-! ## Timers and frames -/

theorem repaints_visitTimer (env : Env) (now : Timespec) (addr : Nat) (s : SwaylockState) :
    Repaints s (visitTimer env now addr s) := by
  rcases visitTimer_cases env now addr s with hv | hv | ⟨callback, t, -, rfl, hv⟩
  · rw [hv]
    exact Repaints.refl s
  · rw [hv]
    exact Or.inr ⟨rfl, rfl⟩
  · rw [hv]
    cases callback <;> exact Or.inl rfl

variable {parse : CString → Option Json}

theorem repaints_brokers {env : Env} (h : env.array = true) (s : SwaylockState)
    (payload : Option (List UInt8)) : Repaints s (commInBrokers parse env s payload) := by
  unfold commInBrokers
  dsimp only
  split
  · rw [if_pos h]
    exact Or.inl rfl
  · exact Or.inl rfl

theorem repaints_authModes {env : Env} (h : env.array = true) (s : SwaylockState)
    (payload : Option (List UInt8)) : Repaints s (commInAuthModes parse env s payload) := by
  unfold commInAuthModes
  dsimp only
  split
  · rw [if_pos h]
    exact Or.inl rfl
  · exact Or.inl rfl

/-- **A frame is seen.**  Only a list that could not be allocated leaves `comm_in` without a
repaint, and has then removed the old one. -/
theorem repaints_commInFrame {env : Env} (h : env.array = true) (s : SwaylockState) (f : Frame) :
    Repaints s (commInFrame parse env s f) := by
  unfold commInFrame commInSwitch
  split
  · unfold commInAuthResult
    split
    · exact Or.inr ⟨rfl, rfl⟩
    · exact Or.inl rfl
  · split
    · exact repaints_brokers h s _
    · split
      · exact repaints_authModes h s _
      · split
        · exact Or.inl rfl
        · split
          · unfold commInStage
            split
            · refine Or.inl ?_
              dsimp only
              split <;> rfl
            · exact Repaints.refl s
          · split
            · exact Or.inl rfl
            · exact Repaints.refl s

/-- There is memory for the array of a list. -/
def MainAction.Allocates : MainAction → Prop
  | .reply env => env.array = true
  | _ => True

/-- **What a step of the main process changes of the drawing is repainted.** -/
theorem repaints_mainLoop {debugUnlock : Bool} {a : MainAction} {m n : MainSide}
    (h : mainLoop debugUnlock parse a m = some n) (ha : a.Allocates) :
    Repaints m.state n.state := by
  cases mainLoop_cases debugUnlock parse h with
  | key _ eq => exact repaints_handleKey eq
  | frame _ _ _ _ eq => rw [eq]; exact repaints_commInFrame ha _ _
  | timer => exact repaints_visitTimer _ _ _ _
  | @modifiers layoutSame capsLock control s hp =>
    rw [mainLoop, if_pos hp] at h
    rw [← Option.some.inj h]
    exact repaints_keyboardModifiers layoutSame capsLock control m.state
  | displayFailed => exact Or.inr ⟨rfl, rfl⟩
  | terminated => exact Or.inr ⟨rfl, rfl⟩
  | _ => exact Repaints.refl _

/-! ## The main process with a surface -/

/-- The main process, and one of its surfaces. -/
structure Screen where
  main : MainSide
  surface : SwaylockSurface SwaylockState

/-- A step of the main process, with what the system answers if it renders; or what the
compositor does to the surface. -/
inductive ScreenAction
  | main (a : MainAction) (env : RenderEnv)
  | configure (env : RenderEnv) (width height : UInt32)
  | scale (env : RenderEnv) (factor : Int)
  | geometry (env : RenderEnv) (subpixel : Int)
  | frameDone (env : RenderEnv)
  | release (second : Bool)

variable (debugUnlock : Bool) (parse : CString → Option Json)

/-- What the surface sees of a step that leads from `m` to `n`. -/
def ScreenAction.events (m n : SwaylockState) : ScreenAction → List (SurfaceEvent SwaylockState)
  | .main _ env =>
    (if n.damage = m.damage then [] else [.damage env (drawnState n)]) ++ [.runDisplay n.runDisplay]
  | .configure env width height => [.configure env width height]
  | .scale env factor => [.scale env factor]
  | .geometry env subpixel => [.geometry env subpixel]
  | .frameDone env => [.frameDone env]
  | .release second => [.release second]

/-- The main process after a step. -/
def ScreenAction.mainAfter (m : MainSide) : ScreenAction → Option MainSide
  | .main a _ => mainLoop debugUnlock parse a m
  | _ => some m

/-- One step. -/
def screenStep (a : ScreenAction) (s : Screen) : Option Screen :=
  (a.mainAfter debugUnlock parse s.main).bind fun main =>
    (run surfaceStep (a.events s.main.state main.state) s.surface).map fun surface =>
      { main, surface }

/-- The memory for a list and for a buffer can be had, and what is drawn finds a buffer. -/
def Redraws (a : ScreenAction) (s : Screen) : Prop :=
  (∀ b env, a = .main b env → b.Allocates) ∧
    ∀ m, a.mainAfter debugUnlock parse s.main = some m →
      Along surfaceStep (fun e x => e.env.Allocates ∧ Paints e x) (a.events s.main.state m.state)
        s.surface

/-- The surface is drawn from the current state, and no repaint is lost. -/
structure UpToDate (s : Screen) : Prop where
  state : s.surface.state = drawnState s.main.state
  repainted : Repainted s.surface

variable {debugUnlock} {parse}

theorem state_render (env : RenderEnv) (s : SwaylockSurface SwaylockState) :
    (s.render env).state = s.state := by
  rcases s.render_cases env with h | ⟨t, -, ht, h⟩
  · rw [h]
  · rw [h, SwaylockSurface.renderFrame_keeps, SwaylockSurface.attachBackground_keeps ht]
    rfl

/-- Only a damaged surface changes its state. -/
theorem state_surfaceStep {e : SurfaceEvent SwaylockState} {s t : SwaylockSurface SwaylockState}
    (h : surfaceStep e s = some t) : t.state = (e.set s).state := by
  rw [surfaceStep_eq h]
  split
  · exact state_render _ _
  · rfl

theorem repainted_run {es : List (SurfaceEvent SwaylockState)} {s t : SwaylockSurface SwaylockState}
    (hs : Repainted s) (hC : Along surfaceStep (fun e x => e.env.Allocates ∧ Paints e x) es s)
    (h : run surfaceStep es s = some t) : Repainted t :=
  run_invariant_along (fun _ _ _ hs hC h => repainted_step hs hC.1 hC.2 h) hC h hs

/-- The state the surface is drawn from after a step. -/
theorem state_run_events {a : ScreenAction} {m n : SwaylockState}
    {s t : SwaylockSurface SwaylockState} (hs : s.state = drawnState m)
    (hsame : n.damage = m.damage → drawnState n = drawnState m)
    (hmain : (∀ b env, a ≠ .main b env) → n = m)
    (h : run surfaceStep (a.events m n) s = some t) : t.state = drawnState n := by
  have single : ∀ {e : SurfaceEvent SwaylockState}, run surfaceStep [e] s = some t →
      (e.set s).state = s.state → n = m → t.state = drawnState n := by
    intro e he hset hn
    obtain ⟨u, hu, hrest⟩ := run_cons.mp he
    obtain rfl : u = t := by simpa using hrest
    rw [state_surfaceStep hu, hset, hn, hs]
  cases a with
  | main b env =>
    rw [ScreenAction.events] at h
    by_cases hd : n.damage = m.damage
    · rw [if_pos hd, List.nil_append] at h
      obtain ⟨u, hu, hrest⟩ := run_cons.mp h
      obtain rfl : u = t := by simpa using hrest
      rw [state_surfaceStep hu, hsame hd, ← hs]
      rfl
    · rw [if_neg hd, List.singleton_append] at h
      obtain ⟨u, hu, hrest⟩ := run_cons.mp h
      obtain ⟨v, hv, hrest⟩ := run_cons.mp hrest
      obtain rfl : v = t := by simpa using hrest
      rw [state_surfaceStep hv]
      exact state_surfaceStep hu
  | release second => exact single h (by cases second <;> rfl) (hmain fun _ _ h => by cases h)
  | _ => exact single h rfl (hmain fun _ _ h => by cases h)

theorem upToDate_step {a : ScreenAction} {s t : Screen} (hs : UpToDate s)
    (hC : Redraws debugUnlock parse a s) (h : screenStep debugUnlock parse a s = some t) :
    UpToDate t := by
  obtain ⟨m, hm, h⟩ := Option.bind_eq_some_iff.mp h
  obtain ⟨x, hx, rfl⟩ := Option.map_eq_some_iff.mp h
  refine ⟨state_run_events hs.state (fun hd => ?_) (fun hne => ?_) hx,
    repainted_run hs.repainted (hC.2 m hm) hx⟩
  · cases a with
    | main b env =>
      rcases repaints_mainLoop hm (hC.1 b env rfl) with hlt | ⟨-, hsame⟩
      · dsimp only at hd
        omega
      · exact hsame
    | _ => cases hm; rfl
  · cases a with
    | main b env => exact absurd rfl (hne b env)
    | _ => cases hm; rfl

/-- **The screen is current.**  In every state of every run of the main process and a surface: a
clean surface that is configured shows the current state, and a dirty one is drawn with the
next frame. -/
theorem screen_current {as : List ScreenAction} {s t : Screen} (hs : UpToDate s)
    (hC : Along (screenStep debugUnlock parse) (Redraws debugUnlock parse) as s)
    (h : run (screenStep debugUnlock parse) as s = some t) (hconf : t.surface.Configured) :
    (t.surface.dirty = true → t.surface.frame = true) ∧
      (t.surface.dirty = false → ∃ shown, t.surface.child = some shown ∧
        ∀ env args, renderFrame env args shown true = renderFrame env args t.main.state true) := by
  obtain ⟨hstate, hrep⟩ := run_invariant_along (fun _ _ _ => upToDate_step) hC h hs
  refine ⟨fun hd => (hrep.dirty hd).resolve_right fun hn => hn hconf, fun hd => ?_⟩
  refine ⟨drawnState t.main.state, ?_, fun env args => renderFrame_drawnState env args _ _⟩
  rw [← hstate]
  exact hrep.clean hconf hd

/-- The main process with a surface on which nothing has been drawn. -/
def freshScreen : Screen where
  main := { state := .start {} [0] }
  surface := { state := drawnState (.start {} [0]), runDisplay := true, scale := 1 }

/-- A key is pressed between two frames. -/
def keyRun : List ScreenAction :=
  [.configure {} 4 4, .main (.key {} (.other 0x61) 0x61) {}, .frameDone {}]

theorem screen_current_key :
    ∃ t, run (screenStep false fun _ => none) keyRun freshScreen = some t ∧
      t.main.state.inputState = .letter ∧
      ∃ shown, t.surface.child = some shown ∧
        ∀ env args, renderFrame env args shown true = renderFrame env args t.main.state true := by
  have hC : Along (screenStep false fun _ => none) (Redraws false fun _ => none) keyRun
      freshScreen := by
    refine ⟨⟨(fun _ _ h => by cases h), fun m hm => ?_⟩, fun t ht => ?_⟩
    · cases hm
      exact ⟨⟨allocates_default, fun _ _ => Or.inl (by decide), (fun h => by cases h)⟩,
        fun _ _ => trivial⟩
    cases ht
    refine ⟨⟨?_, fun m hm => ?_⟩, fun t ht => ?_⟩
    · rintro b env ⟨⟩
      trivial
    · cases hm
      refine ⟨⟨allocates_default, fun _ hd => absurd hd.ready (by decide), (fun h => by cases h)⟩,
        fun t ht => ?_⟩
      cases ht
      exact ⟨⟨allocates_default, (fun h => by cases h), fun _ _ => Or.inl (by decide)⟩,
        fun _ _ => trivial⟩
    cases ht
    refine ⟨⟨(fun _ _ h => by cases h), fun m hm => ?_⟩, fun _ _ => trivial⟩
    cases hm
    exact ⟨⟨allocates_default, fun _ _ => Or.inl (by decide), (fun h => by cases h)⟩,
      fun _ _ => trivial⟩
  have hs : UpToDate freshScreen := ⟨rfl, fun hc => absurd hc (by decide), fun hd => by cases hd⟩
  obtain ⟨t, ht, hconf, hclean, hinput⟩ : ∃ t, run (screenStep false fun _ => none) keyRun
      freshScreen = some t ∧ t.surface.Configured ∧ t.surface.dirty = false ∧
      t.main.state.inputState = .letter := ⟨_, rfl, by decide, rfl, rfl⟩
  exact ⟨t, ht, hinput, (screen_current hs hC ht hconf).2 hclean⟩

end SwaylockAuthd
