import SwaylockAuthd.State
import SwaylockAuthd.Surface

/-!
# What the user is shown

`render` counts a surface as clean once it has called `render_frame`, whether or not a
buffer was found.

* `render_result`: what is shown after `render` has drawn.
* `repainted_iff`: the surface shows the current state, or waits for a frame to show it, as
  long as a buffer is found whenever something new is drawn.
-/

namespace SwaylockAuthd

open Transition

variable {α : Type}

/-- The memory of a buffer that is not empty can be had. -/
structure RenderEnv.Allocates (env : RenderEnv) : Prop where
  background : env.background = true
  indicator : env.indicator = true
  size : 0 < shmSize env.width env.height

/-! ## The indicator -/

theorem createBuffer_allocates {width height : Int} (h : 0 < shmSize width height) :
    createBuffer true width height = some { buffer := true, width, height } := by
  rw [createBuffer, if_pos h, if_pos rfl]

theorem take_allocates {b : PoolBuffer} {width height : Int} (h : 0 < shmSize width height) :
    ∃ b', b.take true width height = (true, b') ∧ b'.buffer = true := by
  unfold PoolBuffer.take
  dsimp only
  generalize (if b.width ≠ width ∨ b.height ≠ height then ({} : PoolBuffer) else b) = c
  by_cases hc : c.buffer = true
  · exact ⟨{ c with busy := true }, by rw [if_pos hc], hc⟩
  · refine ⟨{ buffer := true, width, height, busy := true }, ?_, rfl⟩
    rw [if_neg hc, createBuffer_allocates h]

namespace SwaylockSurface

/-- The indicator is drawn from the state, if there is a buffer for it. -/
theorem renderFrame_child {env : RenderEnv} (ha : env.Allocates) (s : SwaylockSurface α) :
    (s.renderFrame env).2.child = if s.HasBuffer then some s.state else s.child := by
  unfold renderFrame getNextBuffer
  rw [ha.indicator]
  by_cases h2 : s.indicatorBuffers.2.busy = true
  · by_cases h1 : s.indicatorBuffers.1.busy = true
    · have hno : ¬ s.HasBuffer := by
        rintro (h | h)
        · rw [h1] at h; cases h
        · rw [h2] at h; cases h
      simp [h1, h2, hno]
    · rw [Bool.not_eq_true] at h1
      obtain ⟨b, hb, hbuf⟩ := take_allocates (b := s.indicatorBuffers.1) ha.size
      have hyes : s.HasBuffer := Or.inl h1
      simp [h1, h2, hb, hbuf, hyes]
  · rw [Bool.not_eq_true] at h2
    obtain ⟨b, hb, hbuf⟩ := take_allocates (b := s.indicatorBuffers.2) ha.size
    have hyes : s.HasBuffer := Or.inr h2
    simp [h2, hb, hbuf, hyes]

theorem attachBackground_allocates {env : RenderEnv} (ha : env.Allocates)
    (s : SwaylockSurface α) : ∃ t, s.attachBackground env = some t := by
  unfold attachBackground createBuffer
  rw [ha.background]
  split
  · split <;> exact ⟨_, rfl⟩
  · exact ⟨s, rfl⟩

/-- What is shown, and what it should be. -/
structure SameView (s t : SwaylockSurface α) : Prop where
  state : t.state = s.state
  configured : t.Configured ↔ s.Configured

/-- **What is shown after `render` has drawn**: the state, if there was a buffer. -/
theorem render_result {env : RenderEnv} (ha : env.Allocates) {s : SwaylockSurface α}
    (h : s.Draws) :
    SameView s (s.render env) ∧ (s.render env).dirty = false ∧ (s.render env).frame = true ∧
      (s.render env).child = if s.HasBuffer then some s.state else s.child := by
  obtain ⟨t, ht⟩ := attachBackground_allocates ha s
  rw [render_draws h ht, renderFrame_keeps]
  have hchild := renderFrame_child ha { t with bufferScale := t.scale }
  rw [attachBackground_keeps ht] at hchild ⊢
  exact ⟨⟨rfl, Iff.rfl⟩, rfl, rfl, hchild⟩

/-! ## The law -/

/-- Nothing is outstanding: what is clean shows the state, what is dirty waits for a frame. -/
def Settled (s : SwaylockSurface α) : Prop :=
  (s.dirty = false → s.child = some s.state) ∧ (s.dirty = true → s.frame = true)

end SwaylockSurface

/-- **No repaint is lost**: a clean surface shows the current state, and a dirty one waits for a
frame, or is not yet configured. -/
structure Repainted (s : SwaylockSurface α) : Prop where
  clean : s.Configured → s.dirty = false → s.child = some s.state
  dirty : s.dirty = true → s.frame = true ∨ ¬ s.Configured

theorem repainted_iff_settled {s : SwaylockSurface α} :
    Repainted s ↔ (s.Configured → s.Settled) := by
  constructor
  · intro h hc
    exact ⟨h.clean hc, fun hd => (h.dirty hd).resolve_right fun hn => hn hc⟩
  · intro h
    refine ⟨fun hc => (h hc).1, fun hd => ?_⟩
    by_cases hc : s.Configured
    · exact Or.inl ((h hc).2 hd)
    · exact Or.inr hc

/-- The condition: what is drawn finds a buffer, or is shown already; and no scale that comes
outside the main loop configures a surface of which something is outstanding. -/
structure Paints (a : SurfaceEvent α) (s : SwaylockSurface α) : Prop where
  buffer : a.renders s = true → (a.set s).Draws → s.HasBuffer ∨ s.child = some (a.set s).state
  outside : a.renders s = false → (a.set s).Configured → s.Configured ∨ s.Settled

/-- What a handler sets in front of `render` is neither a buffer nor the child surface. -/
theorem set_of_renders {a : SurfaceEvent α} {s : SwaylockSurface α} (h : a.renders s = true) :
    ((a.set s).HasBuffer ↔ s.HasBuffer) ∧ (a.set s).child = s.child := by
  cases a with
  | release => cases h
  | runDisplay => cases h
  | _ => exact ⟨Iff.rfl, rfl⟩

/-- A surface that is clean in front of `render` was clean. -/
theorem clean_of_set {a : SurfaceEvent α} {s : SwaylockSurface α} (h : a.renders s = true)
    (hclean : (a.set s).dirty = false) :
    s.dirty = false ∧ (a.set s).state = s.state ∧ ((a.set s).Configured ↔ s.Configured) := by
  cases a with
  | frameDone => exact ⟨hclean, rfl, Iff.rfl⟩
  | scale =>
    have hrun : s.runDisplay = true := h
    simp [SurfaceEvent.set, hrun] at hclean
  | geometry =>
    have hrun : s.runDisplay = true := h
    simp [SurfaceEvent.set, hrun] at hclean
  | release => cases h
  | runDisplay => cases h
  | damage => cases hclean
  | configure => cases hclean

/-- Without `render` nothing becomes outstanding. -/
theorem settled_set {a : SurfaceEvent α} {s : SwaylockSurface α} (h : a.renders s = false) :
    (a.set s).Settled ↔ s.Settled := by
  cases a with
  | damage => cases h
  | configure => cases h
  | frameDone => cases h
  | scale =>
    have hrun : s.runDisplay = false := h
    simp [SurfaceEvent.set, SwaylockSurface.Settled, hrun]
  | geometry =>
    have hrun : s.runDisplay = false := h
    simp [SurfaceEvent.set, SwaylockSurface.Settled, hrun]
  | release second => cases second <;> exact Iff.rfl
  | runDisplay => exact Iff.rfl

/-! ## The steps -/

/-- An event is handled, unless it is a frame callback that nobody waits for. -/
theorem surfaceStep_handled {a : SurfaceEvent α} {s : SwaylockSurface α}
    (h : ∀ env, a = .frameDone env → s.frame = true) :
    surfaceStep a s = some (if a.renders s then (a.set s).render a.env else a.set s) := by
  obtain ⟨t, ht⟩ : ∃ t, surfaceStep a s = some t := by
    cases a with
    | frameDone env =>
      rw [surfaceStep, if_pos (h env rfl)]
      exact ⟨_, rfl⟩
    | _ => exact ⟨_, rfl⟩
  rw [ht, surfaceStep_eq ht]

/-- A step that meets the condition loses no repaint. -/
theorem repainted_step {a : SurfaceEvent α} {s t : SwaylockSurface α} (hs : Repainted s)
    (ha : a.env.Allocates) (hp : Paints a s) (h : surfaceStep a s = some t) : Repainted t := by
  rw [surfaceStep_eq h]
  rw [repainted_iff_settled] at hs
  by_cases hr : a.renders s = true
  · rw [if_pos hr]
    obtain ⟨hbuf, hchild⟩ := set_of_renders hr
    by_cases hd : (a.set s).Draws
    · obtain ⟨hview, hdirty, hframe, hnew⟩ := SwaylockSurface.render_result ha hd
      refine ⟨fun _ _ => ?_, fun _ => Or.inl hframe⟩
      rw [hnew, hview.state]
      split
      · rfl
      · rename_i hno
        rw [hchild]
        exact (hp.buffer hr hd).resolve_left fun hy => hno (hbuf.mpr hy)
    · rw [SwaylockSurface.render_of_not_draws a.env hd]
      refine ⟨fun hc hclean => ?_, fun hdirty => ?_⟩
      · obtain ⟨hclean', hstate, hconf⟩ := clean_of_set hr hclean
        rw [hchild, hstate]
        exact (hs (hconf.mp hc)).1 hclean'
      · by_cases hc : (a.set s).Configured
        · left
          by_contra hf
          rw [Bool.not_eq_true] at hf
          exact hd ⟨hc, hdirty, hf⟩
        · exact Or.inr hc
  · rw [if_neg hr]
    rw [Bool.not_eq_true] at hr
    rw [repainted_iff_settled]
    intro hc
    exact (settled_set hr).mpr ((hp.outside hr hc).elim hs id)

/-- A step that does not meet it loses one. -/
theorem repainted_break {a : SurfaceEvent α} {s : SwaylockSurface α} (hs : Repainted s)
    (ha : a.env.Allocates) (hp : ¬ Paints a s) : ∃ t, surfaceStep a s = some t ∧ ¬ Repainted t := by
  by_cases hr : a.renders s = true
  · obtain ⟨hd, hno, hold⟩ : (a.set s).Draws ∧ ¬ s.HasBuffer ∧ s.child ≠ some (a.set s).state := by
      by_contra hn
      refine hp ⟨fun _ hd => ?_, fun hr' => ?_⟩
      · by_contra hor
        exact hn ⟨hd, not_or.mp hor⟩
      · rw [hr] at hr'
        cases hr'
    obtain ⟨hbuf, hchild⟩ := set_of_renders hr
    obtain ⟨hview, hdirty, -, hnew⟩ := SwaylockSurface.render_result ha hd
    refine ⟨_, surfaceStep_handled ?_, fun ht => ?_⟩
    · rintro env rfl
      exact (hs.dirty hd.dirty).resolve_right fun hn => hn hd.configured
    · rw [if_pos hr] at ht
      have hshown := ht.clean (hview.configured.mpr hd.configured) hdirty
      rw [hnew, if_neg (fun hy => hno (hbuf.mp hy)), hchild, hview.state] at hshown
      exact hold hshown
  · rw [Bool.not_eq_true] at hr
    obtain ⟨hc, hn⟩ : (a.set s).Configured ∧ ¬ (s.Configured ∨ s.Settled) := by
      by_contra hn
      refine hp ⟨fun hr' => ?_, fun _ hc => ?_⟩
      · rw [hr] at hr'
        cases hr'
      · by_contra hor
        exact hn ⟨hc, hor⟩
    refine ⟨_, surfaceStep_handled ?_, fun ht => ?_⟩
    · rintro env rfl
      cases hr
    · rw [if_neg (by rw [hr]; decide)] at ht
      exact hn (Or.inr ((settled_set hr).mp (repainted_iff_settled.mp ht hc)))

/-- **No repaint is lost, in a run with memory, if and only if every step meets the
condition.** -/
theorem repainted_iff {s : SwaylockSurface α} (hs : Repainted s) {as : List (SurfaceEvent α)}
    (ha : ∀ a ∈ as, a.env.Allocates) :
    Throughout surfaceStep Repainted as s ↔ Along surfaceStep Paints as s :=
  throughout_iff_along (H := fun a _ => a.env.Allocates)
    (fun _ _ _ hs ha hp h => repainted_step hs ha hp h) (fun _ h => h)
    (fun _ _ hs ha hp => repainted_break hs ha hp) hs (along_of_mem (fun a h _ => ha a h) s)

/-! ## Two buffers -/

/-- A surface on which nothing has been drawn. -/
def freshSurface : SwaylockSurface AuthState := { state := .idle, runDisplay := true, scale := 1 }

/-- A password is wrong while the compositor holds both buffers. -/
def wrongRun : List (SurfaceEvent AuthState) :=
  [.configure {} 4 4, .frameDone {}, .damage {} .validating, .frameDone {}, .damage {} .invalid]

theorem repainted_fresh : Repainted freshSurface :=
  ⟨fun hc => absurd hc (by decide), fun hd => by cases hd⟩

theorem allocates_default : ({} : RenderEnv).Allocates := ⟨rfl, rfl, by decide⟩

/-- The first buffer comes back in time. -/
theorem repainted_iff_released :
    Throughout surfaceStep Repainted
      [.configure {} 4 4, .frameDone {}, .damage {} .validating] freshSurface := by
  refine (repainted_iff repainted_fresh fun a ha => ?_).mpr ?_
  · simp only [List.mem_cons, List.not_mem_nil, or_false] at ha
    rcases ha with rfl | rfl | rfl <;> exact allocates_default
  · refine ⟨⟨fun _ _ => Or.inl (by decide), fun h => by cases h⟩, fun t ht => ?_⟩
    cases ht
    refine ⟨⟨fun _ h => absurd h.dirty (by decide), fun h => by cases h⟩, fun t ht => ?_⟩
    cases ht
    exact ⟨⟨fun _ _ => Or.inl (by decide), fun h => by cases h⟩, fun _ _ => trivial⟩

/-- "Wrong" is never shown. -/
theorem not_repainted_wrong :
    (∀ a ∈ wrongRun, a.env.Allocates) ∧ Repainted freshSurface ∧
      ¬ Throughout surfaceStep Repainted wrongRun freshSurface := by
  refine ⟨fun a ha => ?_, repainted_fresh, fun h => ?_⟩
  · simp only [wrongRun, List.mem_cons, List.not_mem_nil, or_false] at ha
    rcases ha with rfl | rfl | rfl | rfl | rfl <;> exact allocates_default
  · have hlast := h wrongRun (List.prefix_refl _) _ rfl
    have hshown := hlast.clean (by decide) (by decide)
    exact absurd hshown (by decide)

end SwaylockAuthd
