import Mathlib.Data.Int.Order.Lemmas
import SwaylockAuthd.Lib.Transition

/-!
# `render.c`, `pool-buffer.c`: the surface of an output

A surface is a background with a buffer of its own size and a child surface with the
indicator, drawn into one of two buffers.  The compositor sends events in any order;
`render` draws what is dirty unless a frame is pending.  `α` is what the indicator
is drawn from: the authentication, input and authd state.

* `surfaceStep`: the handlers; `surfaceStep_eq` splits them into the fields they set and
  the call of `render`.
* `render_cases`: what `render` does.
-/

namespace SwaylockAuthd

open Transition

/-! ## Buffers -/

/-- `struct pool_buffer`; `buffer` says whether there is a `wl_buffer`. -/
structure PoolBuffer where
  buffer : Bool := false
  width : Int := 0
  height : Int := 0
  busy : Bool := false
  deriving DecidableEq, Repr

/-- The `size` of `create_buffer`, in `uint32_t`. -/
def shmSize (width height : Int) : Int := ((width * 4) % 2 ^ 32 * height) % 2 ^ 32

/-- `create_buffer`; `shm` says whether the memory can be had.  Without a size no buffer is
created, and the function succeeds. -/
def createBuffer (shm : Bool) (width height : Int) : Option PoolBuffer :=
  if 0 < shmSize width height then
    if shm then some { buffer := true, width, height } else none
  else some { width, height }

/-- What `get_next_buffer` does with the buffer it has found: whether it can be drawn into, and
what has become of it. -/
def PoolBuffer.take (shm : Bool) (b : PoolBuffer) (width height : Int) : Bool × PoolBuffer :=
  let b := if b.width ≠ width ∨ b.height ≠ height then {} else b
  if b.buffer then (true, { b with busy := true })
  else
    match createBuffer shm width height with
    | some b => (true, { b with busy := true })
    | none => (false, b)

/-- `get_next_buffer`: the last buffer that is not busy. -/
def getNextBuffer (shm : Bool) (pool : PoolBuffer × PoolBuffer) (width height : Int) :
    Option PoolBuffer × PoolBuffer × PoolBuffer :=
  if ¬ pool.2.busy then
    let r := pool.2.take shm width height
    (if r.1 then some r.2 else none, pool.1, r.2)
  else if ¬ pool.1.busy then
    let r := pool.1.take shm width height
    (if r.1 then some r.2 else none, r.2, pool.2)
  else (none, pool)

/-! ## The surface -/

/-- What the compositor gets with a `wl_surface_commit` of the background: the last configure
that was acknowledged, the buffer, its scale, and the scale of the output. -/
structure Commit where
  acked : Option (UInt32 × UInt32)
  attached : Option (Int × Int)
  bufferScale : Int
  scale : Int
  deriving DecidableEq, Repr

/-- `struct swaylock_surface`, with the state it is drawn from, and what the compositor has of
it: the last acknowledged configure, the buffer and the scale of the background, its
commits, and what the indicator of the child surface was drawn from. -/
structure SwaylockSurface (α : Type) where
  state : α
  runDisplay : Bool := false
  dirty : Bool := false
  width : UInt32 := 0
  height : UInt32 := 0
  scale : Int := 0
  subpixel : Int := 0
  frame : Bool := false
  lastBufferWidth : Int := 0
  lastBufferHeight : Int := 0
  indicatorBuffers : PoolBuffer × PoolBuffer := ({}, {})
  acked : Option (UInt32 × UInt32) := none
  attached : Option (Int × Int) := none
  bufferScale : Int := 1
  commits : List Commit := []
  child : Option α := none
  deriving DecidableEq, Repr

/-- What the system answers while a surface is rendered: whether there is memory for the
background and for the indicator, and the size of the indicator. -/
structure RenderEnv where
  background : Bool := true
  indicator : Bool := true
  width : Int := 1
  height : Int := 1
  deriving DecidableEq, Repr

variable {α : Type}

/-- A product of a `uint32_t` and an `int32_t`, stored in an `int`. -/
def mulScale (n : UInt32) (scale : Int) : Int := ((n.toNat : Int) * scale).bmod (2 ^ 32)

namespace SwaylockSurface

def bufferWidth (s : SwaylockSurface α) : Int := mulScale s.width s.scale

def bufferHeight (s : SwaylockSurface α) : Int := mulScale s.height s.scale

/-- The buffer of the background has another size than it should. -/
def Resized (s : SwaylockSurface α) : Prop :=
  s.bufferWidth ≠ s.lastBufferWidth ∨ s.bufferHeight ≠ s.lastBufferHeight

instance (s : SwaylockSurface α) : Decidable s.Resized := inferInstanceAs (Decidable (_ ∨ _))

/-- The background gets a buffer of its size, if it has none. -/
def attachBackground (env : RenderEnv) (s : SwaylockSurface α) : Option (SwaylockSurface α) :=
  if s.Resized then
    (createBuffer env.background s.bufferWidth s.bufferHeight).map fun b =>
      { s with
        attached := if b.buffer then some (b.width, b.height) else none
        lastBufferWidth := s.bufferWidth, lastBufferHeight := s.bufferHeight }
  else some s

/-- `render_frame`: whether a buffer was found, and the surface.  A `NULL` buffer removes the
content of the child surface. -/
def renderFrame (env : RenderEnv) (s : SwaylockSurface α) : Bool × SwaylockSurface α :=
  let r := getNextBuffer env.indicator s.indicatorBuffers env.width env.height
  match r.1 with
  | some b =>
    (true, { s with indicatorBuffers := r.2, child := if b.buffer then some s.state else none })
  | none => (false, { s with indicatorBuffers := r.2 })

/-- `wl_surface_commit` of the background. -/
def commit (s : SwaylockSurface α) : SwaylockSurface α :=
  { s with commits := s.commits ++ [⟨s.acked, s.attached, s.bufferScale, s.scale⟩] }

/-- `render`. -/
def render (env : RenderEnv) (s : SwaylockSurface α) : SwaylockSurface α :=
  if s.bufferWidth = 0 ∨ s.bufferHeight = 0 then s
  else if ¬ s.dirty ∨ s.frame then s
  else
    match s.attachBackground env with
    | none => s
    | some s =>
      let s := { s with bufferScale := s.scale }
      let s := (s.renderFrame env).2
      commit { s with dirty := false, frame := true }

/-! ## The handlers -/

/-- `ext_session_lock_surface_v1_handle_configure`. -/
def handleConfigure (env : RenderEnv) (width height : UInt32) (s : SwaylockSurface α) :
    SwaylockSurface α :=
  let s := { s with width, height }
  let s := { s with acked := some (width, height) }
  render env { s with dirty := true }

/-- `damage_state`, for one surface, when the state has become `state`. -/
def damageSurface (env : RenderEnv) (state : α) (s : SwaylockSurface α) : SwaylockSurface α :=
  render env { s with state, dirty := true }

/-- `handle_wl_output_geometry`. -/
def handleWlOutputGeometry (env : RenderEnv) (subpixel : Int) (s : SwaylockSurface α) :
    SwaylockSurface α :=
  let s := { s with subpixel }
  if s.runDisplay then render env { s with dirty := true } else s

/-- `handle_wl_output_scale`. -/
def handleWlOutputScale (env : RenderEnv) (factor : Int) (s : SwaylockSurface α) :
    SwaylockSurface α :=
  let s := { s with scale := factor }
  if s.runDisplay then render env { s with dirty := true } else s

/-- `surface_frame_handle_done`. -/
def surfaceFrameHandleDone (env : RenderEnv) (s : SwaylockSurface α) : SwaylockSurface α :=
  render env { s with frame := false }

/-- `buffer_release` of one of the indicator buffers. -/
def bufferRelease (second : Bool) (s : SwaylockSurface α) : SwaylockSurface α :=
  if second then { s with indicatorBuffers.2.busy := false }
  else { s with indicatorBuffers.1.busy := false }

end SwaylockSurface

/-- An event of the compositor, a change of the state, or of `run_display`. -/
inductive SurfaceEvent (α : Type)
  | damage (env : RenderEnv) (state : α)
  | configure (env : RenderEnv) (width height : UInt32)
  | scale (env : RenderEnv) (factor : Int)
  | geometry (env : RenderEnv) (subpixel : Int)
  | frameDone (env : RenderEnv)
  | release (second : Bool)
  | runDisplay (b : Bool)

open SwaylockSurface in
/-- One event; a frame callback fires once. -/
def surfaceStep : SurfaceEvent α → SwaylockSurface α → Option (SwaylockSurface α)
  | .damage env state, s => some (damageSurface env state s)
  | .configure env width height, s => some (handleConfigure env width height s)
  | .scale env factor, s => some (handleWlOutputScale env factor s)
  | .geometry env subpixel, s => some (handleWlOutputGeometry env subpixel s)
  | .frameDone env, s => if s.frame then some (surfaceFrameHandleDone env s) else none
  | .release second, s => some (bufferRelease second s)
  | .runDisplay b, s => some { s with runDisplay := b }

/-! ## The handlers, in front of `render` -/

namespace SurfaceEvent

/-- The fields the handler sets. -/
def set : SurfaceEvent α → SwaylockSurface α → SwaylockSurface α
  | .damage _ state, s => { s with state, dirty := true }
  | .configure _ width height, s =>
    { s with width, height, acked := some (width, height), dirty := true }
  | .scale _ factor, s => { s with scale := factor, dirty := s.dirty || s.runDisplay }
  | .geometry _ subpixel, s => { s with subpixel, dirty := s.dirty || s.runDisplay }
  | .frameDone _, s => { s with frame := false }
  | .release second, s => s.bufferRelease second
  | .runDisplay b, s => { s with runDisplay := b }

/-- The handler calls `render`. -/
def renders : SurfaceEvent α → SwaylockSurface α → Bool
  | .damage .., _ | .configure .., _ | .frameDone _, _ => true
  | .scale .., s | .geometry .., s => s.runDisplay
  | _, _ => false

/-- What the system answers to it. -/
def env : SurfaceEvent α → RenderEnv
  | .damage env _ | .configure env _ _ | .scale env _ | .geometry env _ | .frameDone env => env
  | _ => {}

end SurfaceEvent

/-- **A handler sets some fields and then calls `render`**, or does not. -/
theorem surfaceStep_eq {a : SurfaceEvent α} {s t : SwaylockSurface α}
    (h : surfaceStep a s = some t) :
    t = if a.renders s then (a.set s).render a.env else a.set s := by
  cases a with
  | damage => cases h; rfl
  | configure => cases h; rfl
  | scale env factor =>
    cases h
    show s.handleWlOutputScale env factor = if s.runDisplay then _ else _
    simp only [SwaylockSurface.handleWlOutputScale, SurfaceEvent.set]
    cases s.runDisplay <;> simp [SurfaceEvent.env]
  | geometry env subpixel =>
    cases h
    show s.handleWlOutputGeometry env subpixel = if s.runDisplay then _ else _
    simp only [SwaylockSurface.handleWlOutputGeometry, SurfaceEvent.set]
    cases s.runDisplay <;> simp [SurfaceEvent.env]
  | frameDone env =>
    rw [surfaceStep] at h
    split at h
    · cases h
      rfl
    · cases h
  | release => cases h; rfl
  | runDisplay => cases h; rfl

namespace SwaylockSurface

/-- The surface has a size; `render` calls it not yet configured otherwise. -/
def Configured (s : SwaylockSurface α) : Prop := s.bufferWidth ≠ 0 ∧ s.bufferHeight ≠ 0

instance (s : SwaylockSurface α) : Decidable s.Configured := inferInstanceAs (Decidable (_ ∧ _))

/-- `render` has something to draw, and waits for no frame. -/
structure Draws (s : SwaylockSurface α) : Prop where
  configured : s.Configured
  dirty : s.dirty = true
  ready : s.frame = false

/-- One of the indicator buffers is not with the compositor. -/
def HasBuffer (s : SwaylockSurface α) : Prop :=
  s.indicatorBuffers.1.busy = false ∨ s.indicatorBuffers.2.busy = false

instance (s : SwaylockSurface α) : Decidable s.HasBuffer := inferInstanceAs (Decidable (_ ∨ _))

theorem render_of_not_draws (env : RenderEnv) {s : SwaylockSurface α} (h : ¬ s.Draws) :
    s.render env = s := by
  unfold render
  split
  · rfl
  · rename_i hconf
    split
    · rfl
    · rename_i hready
      simp only [not_or, Bool.not_eq_true, Bool.not_eq_false] at hconf hready
      exact absurd ⟨hconf, hready.1, hready.2⟩ h

/-- Without a buffer for the background the surface stays as it is. -/
theorem render_of_no_background {env : RenderEnv} {s : SwaylockSurface α}
    (h : s.attachBackground env = none) : s.render env = s := by
  unfold render
  rw [h]
  split
  · rfl
  · split <;> rfl

/-- **What `render` draws.** -/
theorem render_draws {env : RenderEnv} {s t : SwaylockSurface α} (h : s.Draws)
    (ht : s.attachBackground env = some t) :
    s.render env = commit { (({ t with bufferScale := t.scale }).renderFrame env).2 with
      dirty := false, frame := true } := by
  unfold render
  rw [if_neg (not_or.mpr h.configured), ht]
  simp [h.dirty, h.ready]

/-- **`render` draws, or leaves the surface as it is.** -/
theorem render_cases (env : RenderEnv) (s : SwaylockSurface α) :
    s.render env = s ∨ ∃ t, s.Draws ∧ s.attachBackground env = some t ∧
      s.render env = commit { (({ t with bufferScale := t.scale }).renderFrame env).2 with
        dirty := false, frame := true } := by
  by_cases hd : s.Draws
  · cases ht : s.attachBackground env with
    | none => exact Or.inl (render_of_no_background ht)
    | some t => exact Or.inr ⟨t, hd, rfl, render_draws hd ht⟩
  · exact Or.inl (render_of_not_draws env hd)

/-- The indicator does not change the background. -/
theorem renderFrame_keeps (env : RenderEnv) (s : SwaylockSurface α) :
    (s.renderFrame env).2 = { s with
      indicatorBuffers := (s.renderFrame env).2.indicatorBuffers
      child := (s.renderFrame env).2.child } := by
  unfold renderFrame
  dsimp only
  split <;> rfl

/-- The background does not change the indicator. -/
theorem attachBackground_keeps {env : RenderEnv} {s t : SwaylockSurface α}
    (h : s.attachBackground env = some t) :
    t = { s with
      attached := t.attached, lastBufferWidth := t.lastBufferWidth
      lastBufferHeight := t.lastBufferHeight } := by
  unfold attachBackground at h
  split at h
  · obtain ⟨b, -, rfl⟩ := Option.map_eq_some_iff.mp h
    rfl
  · cases h
    rfl

end SwaylockSurface

end SwaylockAuthd
