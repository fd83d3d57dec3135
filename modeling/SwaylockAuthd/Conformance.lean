import Mathlib.Algebra.Order.Ring.Abs
import SwaylockAuthd.Lib.CInt
import SwaylockAuthd.Surface

/-!
# Every commit has the size the compositor has asked for

The protocol of the lock surface makes a commit with a buffer of another size a fatal error.
The handler of `configure` acknowledges at once and may render later, and `render`
attaches a new buffer only when the size it remembers differs.

* `Bounded`: the background and its bytes can be counted in an `int`.
* `conforming_render`: what `render` keeps.
* `commits_conform`: every commit conforms, and a failed allocation changes nothing.
-/

namespace SwaylockAuthd

open Transition

variable {α : Type}

/-! ## The arithmetic -/

/-- The background has less than `2 ^ 31` bytes. -/
def Bounded (s : SwaylockSurface α) : Prop :=
  s.width.toNat * s.scale * (s.height.toNat * s.scale) * 4 < 2 ^ 31

instance (s : SwaylockSurface α) : Decidable (Bounded s) := Int.decLt _ _

/-- Two factors of a bounded product are bounded. -/
theorem abs_le_of_mul {x y : Int} (hy : y ≠ 0) (hxy : 0 ≤ x * y) (h : x * y * 4 < 2 ^ 31) :
    |x| < 2 ^ 29 := by
  have hone : 1 ≤ |y| := Int.one_le_abs hy
  have hle : |x| ≤ |x| * |y| := le_mul_of_one_le_right (abs_nonneg x) hone
  rw [← abs_mul, abs_of_nonneg hxy] at hle
  omega

theorem bmod_of_abs_lt {x : Int} (h : |x| < 2 ^ 29) : x.bmod (2 ^ 32) = x := by
  obtain ⟨hlo, hhi⟩ := abs_lt.mp h
  exact CInt.word_of_fits (w := 32) ⟨by omega, by omega⟩

/-- **In the bound no product wraps**, and the background has a size. -/
theorem bounded_exact {s : SwaylockSurface α} (h : Bounded s) (hc : s.Configured) :
    s.bufferWidth = s.width.toNat * s.scale ∧ s.bufferHeight = s.height.toNat * s.scale ∧
      0 < shmSize s.bufferWidth s.bufferHeight := by
  have hne : ∀ n : UInt32, mulScale n s.scale ≠ 0 → (n.toNat : Int) * s.scale ≠ 0 := by
    intro n hn h0
    refine hn ?_
    rw [mulScale, h0]
    rfl
  have hx := hne s.width hc.1
  have hy := hne s.height hc.2
  have hxy : 0 ≤ (s.width.toNat : Int) * s.scale * (s.height.toNat * s.scale) := by
    rw [mul_mul_mul_comm]
    exact mul_nonneg (mul_nonneg (Int.natCast_nonneg _) (Int.natCast_nonneg _))
      (mul_self_nonneg _)
  have hw : s.bufferWidth = s.width.toNat * s.scale :=
    bmod_of_abs_lt (abs_le_of_mul hy hxy h)
  have hh : s.bufferHeight = s.height.toNat * s.scale := by
    have hcomm := mul_comm ((s.width.toNat : Int) * s.scale) (s.height.toNat * s.scale)
    exact bmod_of_abs_lt (abs_le_of_mul hx (hcomm ▸ hxy) (hcomm ▸ h))
  refine ⟨hw, hh, ?_⟩
  have hpos : 0 < (s.width.toNat : Int) * s.scale * (s.height.toNat * s.scale) :=
    lt_of_le_of_ne hxy (mul_ne_zero hx hy).symm
  have hmod : shmSize s.bufferWidth s.bufferHeight =
      s.width.toNat * s.scale * (s.height.toNat * s.scale) * 4 := by
    rw [shmSize, Int.mul_emod, Int.emod_emod_of_dvd _ (dvd_refl _), ← Int.mul_emod, hw, hh,
      mul_right_comm, Int.emod_eq_of_lt]
    · exact mul_nonneg hxy (by decide)
    · exact lt_trans h (by decide)
  rw [hmod]
  exact mul_pos hpos (by decide)

/-! ## What `render` keeps -/

/-- The buffer has the size of the acknowledged configure at the scale of the output, and the
scale of the buffer is that scale. -/
def Conforms (c : Commit) : Prop :=
  ∃ width height, c.acked = some (width, height) ∧
    c.attached = some (width.toNat * c.scale, height.toNat * c.scale) ∧ c.bufferScale = c.scale

/-- The size that is remembered is the size of the buffer that is attached. -/
def Describes (s : SwaylockSurface α) : Prop :=
  s.attached = none ∧ s.lastBufferWidth = 0 ∧ s.lastBufferHeight = 0 ∨
    s.attached = some (s.lastBufferWidth, s.lastBufferHeight)

/-- The size is that of the last acknowledged configure. -/
def Acknowledged (s : SwaylockSurface α) : Prop :=
  s.acked = none ∧ s.width = 0 ∧ s.height = 0 ∨ s.acked = some (s.width, s.height)

structure Conforming (s : SwaylockSurface α) : Prop where
  acked : Acknowledged s
  describes : Describes s
  commits : ∀ c ∈ s.commits, Conforms c

namespace SwaylockSurface

/-- **The background gets the right buffer**, or none. -/
theorem attachBackground_exact {env : RenderEnv} {s t : SwaylockSurface α} (hs : Describes s)
    (hb : Bounded s) (hc : s.Configured) (h : s.attachBackground env = some t) :
    t.attached = some (s.bufferWidth, s.bufferHeight) ∧
      t.lastBufferWidth = s.bufferWidth ∧ t.lastBufferHeight = s.bufferHeight := by
  obtain ⟨-, -, hsize⟩ := bounded_exact hb hc
  unfold attachBackground at h
  split at h
  · obtain ⟨b, hbuf, rfl⟩ := Option.map_eq_some_iff.mp h
    rw [createBuffer, if_pos hsize] at hbuf
    split at hbuf
    · cases hbuf
      exact ⟨rfl, rfl, rfl⟩
    · cases hbuf
  · rename_i hsame
    cases h
    simp only [Resized, not_or, not_not] at hsame
    obtain ⟨hw, hh⟩ := hsame
    rcases hs with ⟨-, hw0, -⟩ | hsome
    · exact absurd (hw.trans hw0) hc.1
    · exact ⟨by rw [hsome, hw, hh], hw.symm, hh.symm⟩

theorem acked_of_configured {s : SwaylockSurface α} (h : Acknowledged s) (hc : s.Configured) :
    s.acked = some (s.width, s.height) := by
  rcases h with ⟨-, hw, -⟩ | h
  · refine absurd ?_ hc.1
    rw [bufferWidth, hw, mulScale]
    simp
  · exact h

/-- **What `render` keeps.** -/
theorem conforming_render {s : SwaylockSurface α} (hs : Conforming s) (hb : Bounded s)
    (env : RenderEnv) : Conforming (s.render env) := by
  rcases render_cases env s with hr | ⟨t, hd, ht, hr⟩
  · rw [hr]
    exact hs
  · obtain ⟨hattached, hlw, hlh⟩ := attachBackground_exact hs.describes hb hd.configured ht
    obtain ⟨hw, hh, -⟩ := bounded_exact hb hd.configured
    have hack := acked_of_configured hs.acked hd.configured
    have hkeep := attachBackground_keeps ht
    rw [hattached, hlw, hlh] at hkeep
    rw [hr, renderFrame_keeps, hkeep]
    refine ⟨hs.acked, Or.inr rfl, fun c hc => ?_⟩
    rcases List.mem_append.mp hc with hold | hnew
    · exact hs.commits c hold
    · rw [List.mem_singleton.mp hnew]
      exact ⟨s.width, s.height, hack, by rw [hw, hh], rfl⟩

/-- `render` does not change the size of the surface. -/
theorem bounded_render {s : SwaylockSurface α} (env : RenderEnv) :
    Bounded (s.render env) ↔ Bounded s := by
  rcases render_cases env s with hr | ⟨t, -, ht, hr⟩
  · rw [hr]
  · rw [hr, renderFrame_keeps, attachBackground_keeps ht]
    exact Iff.rfl

end SwaylockSurface

/-! ## The runs -/

/-- What the handlers set in front of `render`. -/
theorem conforming_set {a : SurfaceEvent α} {s : SwaylockSurface α} (hs : Conforming s) :
    Conforming (a.set s) := by
  obtain ⟨hack, hdesc, hcommits⟩ := hs
  cases a with
  | configure => exact ⟨Or.inr rfl, hdesc, hcommits⟩
  | release second => cases second <;> exact ⟨hack, hdesc, hcommits⟩
  | _ => exact ⟨hack, hdesc, hcommits⟩

theorem conforming_step {a : SurfaceEvent α} {s t : SwaylockSurface α} (hs : Conforming s)
    (hb : ∀ t, surfaceStep a s = some t → Bounded t) (h : surfaceStep a s = some t) :
    Conforming t := by
  have hbt := hb t h
  rw [surfaceStep_eq h] at hbt ⊢
  split at hbt
  · rename_i hr
    rw [if_pos hr]
    exact SwaylockSurface.conforming_render (conforming_set hs)
      ((SwaylockSurface.bounded_render a.env).mp hbt) a.env
  · rename_i hr
    rw [if_neg hr]
    exact conforming_set hs

/-- The handler calls `render`, which fails to create a buffer for the background. -/
structure BackgroundFails (a : SurfaceEvent α) (s : SwaylockSurface α) : Prop where
  renders : a.renders s = true
  resized : (a.set s).Resized
  fails : createBuffer a.env.background (a.set s).bufferWidth (a.set s).bufferHeight = none

/-- Nothing is committed or attached, and the size that is remembered stays. -/
structure SameBackground (s t : SwaylockSurface α) : Prop where
  commits : t.commits = s.commits
  attached : t.attached = s.attached
  width : t.lastBufferWidth = s.lastBufferWidth
  height : t.lastBufferHeight = s.lastBufferHeight

theorem sameBackground_of_fails {a : SurfaceEvent α} {s t : SwaylockSurface α}
    (hf : BackgroundFails a s) (h : surfaceStep a s = some t) : SameBackground s t := by
  have hnone : (a.set s).attachBackground a.env = none := by
    rw [SwaylockSurface.attachBackground, if_pos hf.resized, hf.fails]
    rfl
  rw [surfaceStep_eq h, if_pos hf.renders, SwaylockSurface.render_of_no_background hnone]
  cases a with
  | release second => cases second <;> exact ⟨rfl, rfl, rfl, rfl⟩
  | _ => exact ⟨rfl, rfl, rfl, rfl⟩

/-- **Every commit conforms**; a failed allocation commits nothing, and leaves what is
remembered of the buffer true. -/
theorem commits_conform (state : α) {as : List (SurfaceEvent α)} {s : SwaylockSurface α}
    (h : run surfaceStep as { state } = some s)
    (hb : Throughout surfaceStep Bounded as ({ state } : SwaylockSurface α)) :
    (∀ c ∈ s.commits, Conforms c) ∧ Describes s ∧
      ∀ a t, surfaceStep a s = some t → BackgroundFails a s → SameBackground s t := by
  have hs : Conforming s := by
    refine run_invariant_along (fun a s t hI hC hstep => conforming_step hI hC hstep) hb.along h ?_
    exact ⟨Or.inl ⟨rfl, rfl, rfl⟩, Or.inl ⟨rfl, rfl, rfl⟩, fun c hc => absurd hc List.not_mem_nil⟩
  exact ⟨hs.commits, hs.describes, fun a t ht hf => sameBackground_of_fails hf ht⟩

/-- A surface that is configured, drawn, and scaled while the frame is pending. -/
theorem commits_conform_scaled :
    ∃ s : SwaylockSurface Bool, run surfaceStep
        [.runDisplay true, .scale {} 1, .configure {} 4 3, .scale {} 2, .frameDone {}]
        { state := true } = some s ∧
      s.commits.map Commit.attached = [some (4, 3), some (8, 6)] ∧ ∀ c ∈ s.commits, Conforms c := by
  have hb : Throughout surfaceStep Bounded
      [.runDisplay true, .scale {} 1, .configure {} 4 3, .scale {} 2, .frameDone {}]
      ({ state := true } : SwaylockSurface Bool) := by
    refine throughout_cons (by decide +kernel) fun t ht => ?_
    obtain rfl := Option.some.inj ht
    refine throughout_cons (by decide +kernel) fun t ht => ?_
    obtain rfl := Option.some.inj ht
    refine throughout_cons (by decide +kernel) fun t ht => ?_
    obtain rfl := Option.some.inj ht
    refine throughout_cons (by decide +kernel) fun t ht => ?_
    obtain rfl := Option.some.inj ht
    refine throughout_cons (by decide +kernel) fun t ht => ?_
    obtain rfl := Option.some.inj ht
    exact throughout_nil (by decide +kernel)
  exact ⟨_, rfl, rfl, (commits_conform true rfl hb).1⟩

end SwaylockAuthd
