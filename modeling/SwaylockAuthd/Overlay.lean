import Mathlib.Algebra.Order.Floor.Ring
import Mathlib.Data.Rat.Floor
import SwaylockAuthd.BufferPool
import SwaylockAuthd.Log
import SwaylockAuthd.RenderFrame

/-!
# `render_debug_overlay`

A build with the debug overlay draws the last lines of the log over every output, from the bottom
upwards, with two buffers of its own.  Where not even one line fits, the function returns after it
has taken a buffer and before it attaches it: the compositor never has that buffer, and never
releases it.

* `overlayStep`: log calls, renderings of any size, and the releases of the compositor.
* `logged_overlay`: the ring holds the messages of the run, every access in bounds.
* `rendered`: when a rendering commits, and what.
* `overlay_shown`: what every rendering of every run shows, and when a buffer is lost for good.
-/

namespace SwaylockAuthd

open Transition

/-! ## The function -/

/-- `cairo_font_extents_t`; the height is at least that of a line. -/
structure OverlayFont where
  ascent : ℚ
  descent : ℚ
  height : ℚ
  ascent_nonneg : 0 ≤ ascent
  descent_nonneg : 0 ≤ descent
  line_le : ascent + descent ≤ height

/-- What the system answers during one call. -/
structure OverlayEnv where
  shm : Shm.ShmEnv := {}
  font : OverlayFont

/-- What is committed: the buffer with its size, the band and the lines in it. -/
structure OverlayCommit where
  buffer : Shm.WlBuffer
  bufferScale : Int
  width : Int
  height : Int
  textTop : Int
  textH : Int
  rows : List (ℚ × ℚ × CString)

/-- The log, and the overlay of one surface; `held` says which of its buffers the compositor
has. -/
structure Overlay where
  log : LogState := {}
  buffers : Shm.PoolState := {}
  held : Fin 2 → Bool := fun _ => false
  commits : List OverlayCommit := []

/-- `pad` -/
def overlayPad (scale : Int) : ℚ := 4 * scale

/-- `line_h` -/
def overlayLineH (font : OverlayFont) (scale : Int) : Int := ⌈font.height + overlayPad scale⌉

/-- `max_lines` -/
def overlayMaxLines (lineH bufH : Int) : Int := if 0 < lineH then bufH.tdiv lineH else 0

/-- The loop over the lines from `i` on, `n` of them. -/
def overlayRows (lines : List (List UInt8)) (pad : ℚ) (lineH : Int) :
    Nat → Int → ℚ → Option (List (ℚ × ℚ × CString))
  | 0, _, _ => some []
  | n + 1, i, y =>
    match elementAt lines i with
    | some line =>
      (overlayRows lines pad lineH n (i + 1) (y + lineH)).map fun rows =>
        (pad, y, cstr line) :: rows
    | none => none

/-- The drawing into a buffer, from `count` lines. -/
def drawOverlay (font : OverlayFont) (scale : Int) (lines : List (List UInt8)) (count : Int)
    (buffer : Shm.WlBuffer) (bufW bufH : Int) : Option OverlayCommit :=
  let lineH := overlayLineH font scale
  let maxLines := overlayMaxLines lineH bufH
  let shown := if count < maxLines then count else maxLines
  let start := count - shown
  let textH := shown * lineH
  let textTop := bufH - textH
  let y := textTop + font.ascent + overlayPad scale
  (overlayRows lines (overlayPad scale) lineH (count - start).toNat start y).map fun rows =>
    { buffer, bufferScale := scale, width := bufW, height := bufH, textTop, textH, rows }

/-- `render_debug_overlay`; `none` when it leaves an array. -/
def renderDebugOverlay (env : OverlayEnv) (width height : UInt32) (scale : Int) (o : Overlay) :
    Option Overlay :=
  if width = 0 ∨ height = 0 then some o
  else
    match swaylockLogGetOverlay o.log with
    | none => none
    | some (count, log) =>
      let o := { o with log }
      if count = 0 then some o
      else
        let bufW := mulScale width scale
        let bufH := mulScale height scale
        let r := o.buffers.get env.shm (UInt32.ofInt bufW) (UInt32.ofInt bufH)
        let o := { o with buffers := r.2 }
        match r.1 with
        | none => some o
        | some i =>
          if overlayMaxLines (overlayLineH env.font scale) bufH ≤ 0 then some o
          else
            let buffer := (o.buffers.pool i).buffer
            (drawOverlay env.font scale log.overlaySnap count buffer bufW bufH).map fun c =>
              { o with
                commits := o.commits ++ [c]
                held := Function.update o.held i (decide (buffer ≠ .null)) }

/-! ## Runs -/

inductive OverlayEvent
  | init (verbosity : LogImportance)
  | log (verbosity : LogImportance) (text : List UInt8)
  | render (env : OverlayEnv) (width height : UInt32) (scale : Int)
  | release (i : Fin 2)

/-- The call of `log.c`, other than a snapshot. -/
def OverlayEvent.call? : OverlayEvent → Option LogCall
  | .init verbosity => some (.init verbosity)
  | .log verbosity text => some (.log verbosity text)
  | _ => none

/-- One event; the compositor releases what it has. -/
def overlayStep : OverlayEvent → Overlay → Option Overlay
  | .init verbosity, o => (logStep (.init verbosity) o.log).map fun log => { o with log }
  | .log verbosity text, o => (logStep (.log verbosity text) o.log).map fun log => { o with log }
  | .render env width height scale, o => renderDebugOverlay env width height scale o
  | .release i, o =>
    if o.held i then
      some { o with
        buffers := { o.buffers with
          pool := Function.update o.buffers.pool i (Shm.bufferRelease (o.buffers.pool i)) }
        held := Function.update o.held i false }
    else none

/-- The messages of the events. -/
def overlayMessages (es : List OverlayEvent) : List (List UInt8) :=
  passed .error (es.filterMap OverlayEvent.call?)

/-! ## The pool -/

namespace Shm.PoolState

/-- What a call of `get_next_buffer` does to the busy flags, for any sizes: it takes a buffer that
is not busy, or changes none. -/
inductive TakesOne (s t : PoolState) : Option (Fin 2) → Prop
  | taken (i : Fin 2) (free : (s.pool i).busy = false) (busy : (t.pool i).busy = true)
      (other : ∀ j, j ≠ i → t.pool j = s.pool j) : TakesOne s t (some i)
  | refused (same : ∀ j, (t.pool j).busy = (s.pool j).busy) : TakesOne s t none

theorem busy_take (env : ShmEnv) (d : Display) {b : PoolBuffer} (hb : b.busy = false)
    (width height : UInt32) :
    (b.take env d width height).2.1.busy = (b.take env d width height).1 := by
  obtain ⟨r, hr, hempty⟩ : ∃ r : PoolBuffer × Display,
      (if b.width ≠ width ∨ b.height ≠ height then destroyBuffer d b else (b, d)) = r ∧
        r.1.busy = false := by
    refine ⟨_, rfl, ?_⟩
    split
    · unfold destroyBuffer
      split <;> rfl
    · exact hb
  simp only [PoolBuffer.take, hr]
  by_cases hnull : r.1.buffer = .null
  · rw [if_pos hnull]
    cases createBuffer env r.2 r.1 width.toInt32 height.toInt32 with
    | some created => rfl
    | none => exact hempty
  · rw [if_neg hnull]

theorem takesOne (env : ShmEnv) (width height : UInt32) (s : PoolState) :
    TakesOne s (s.get env width height).2 (s.get env width height).1 := by
  unfold get getNextBuffer
  cases hfree : freeBuffer s.pool with
  | none => exact .refused fun _ => rfl
  | some i =>
    have hbusy := not_busy_of_freeBuffer hfree
    have htake := busy_take env s.display hbusy width height
    dsimp only
    cases hok : ((s.pool i).take env s.display width height).1 with
    | true =>
      refine .taken i hbusy ?_ fun j hj => Function.update_of_ne hj _ _
      dsimp only
      rw [Function.update_self, htake, hok]
    | false =>
      refine .refused fun j => ?_
      dsimp only
      by_cases hj : j = i
      · rw [hj, Function.update_self, htake, hok, hbusy]
      · rw [Function.update_of_ne hj]

/-- With both buffers busy there is none. -/
theorem get_of_busy (env : ShmEnv) (width height : UInt32) {s : PoolState}
    (h : ∀ i, (s.pool i).busy = true) : s.get env width height = (none, s) := by
  unfold get getNextBuffer
  rw [freeBuffer_eq_none.mpr h]

end Shm.PoolState

/-! ## The rows -/

/-- The lines below each other. -/
def placedRows (pad : ℚ) (lineH : Int) : ℚ → List (List UInt8) → List (ℚ × ℚ × CString)
  | _, [] => []
  | y, line :: lines => (pad, y, cstr line) :: placedRows pad lineH (y + lineH) lines

/-- The loop stays in the array, and draws the lines it is for. -/
theorem overlayRows_eq {lines : List (List UInt8)} (pad : ℚ) (lineH : Int) {n : Nat} :
    ∀ {i : Nat} (y : ℚ), i + n ≤ lines.length →
      overlayRows lines pad lineH n i y =
        some (placedRows pad lineH y ((lines.drop i).take n)) := by
  induction n with
  | zero => intro i y _; rw [List.take_zero]; rfl
  | succ n ih =>
    intro i y hle
    have hlt : i < lines.length := by omega
    have hline : elementAt lines (i : Int) = some lines[i] := by
      rw [elementAt, if_neg (by omega), Int.toNat_natCast, List.getElem?_eq_getElem hlt]
    rw [overlayRows, hline, List.drop_eq_getElem_cons hlt, List.take_succ_cons, placedRows]
    dsimp only
    rw [show (i : Int) + 1 = ((i + 1 : Nat) : Int) from rfl, ih (y + lineH) (by omega)]
    rfl

theorem placedRows_text (pad : ℚ) (lineH : Int) {lines : List (List UInt8)} :
    ∀ y, (placedRows pad lineH y lines).map (fun row => row.2.2) = lines.map cstr := by
  induction lines with
  | nil => intro y; rfl
  | cons line lines ih => intro y; rw [placedRows, List.map_cons, ih, List.map_cons]

theorem placedRows_at {pad : ℚ} {lineH : Int} {lines : List (List UInt8)} :
    ∀ {y : ℚ} {k : Nat} {row : ℚ × ℚ × CString},
      (placedRows pad lineH y lines)[k]? = some row → row.1 = pad ∧ row.2.1 = y + k * lineH := by
  induction lines with
  | nil => intro y k row h; cases h
  | cons line lines ih =>
    intro y k row h
    cases k with
    | zero =>
      obtain rfl := Option.some.inj h
      exact ⟨rfl, by simp⟩
    | succ k =>
      obtain ⟨hx, hy⟩ := ih h
      refine ⟨hx, ?_⟩
      rw [hy]
      push_cast
      ring

/-- A line of the log is shown up to the width of a line. -/
theorem Spells.cstr_eq {line text : List UInt8} (h : Spells line text) :
    cstr line = cstr (text.take (logOverlayLineLen - 1)) := by
  obtain ⟨-, rest, rfl⟩ := h
  rw [List.append_assoc]
  exact cstr_append_nul _ rest

theorem cstr_lines {lines texts : List (List UInt8)} (h : List.Forall₂ Spells lines texts) :
    lines.map cstr = texts.map fun text => cstr (text.take (logOverlayLineLen - 1)) := by
  induction h with
  | nil => rfl
  | cons hline _ ih => rw [List.map_cons, List.map_cons, ih, hline.cstr_eq]

/-! ## What is drawn -/

/-- How many lines are shown: those there are, up to those that fit. -/
def shownLines (lineH bufH : Int) (messages : List (List UInt8)) : Nat :=
  min (min messages.length logOverlayLines) (bufH / lineH).toNat

/-- The commit shows the last messages, the newest at the bottom, each within its own part of the
band. -/
structure OverlayShows (font : OverlayFont) (width height : UInt32) (scale : Int)
    (messages : List (List UInt8)) (c : OverlayCommit) : Prop where
  bufferScale : c.bufferScale = scale
  size : c.width = mulScale width scale ∧ c.height = mulScale height scale
  texts : c.rows.map (fun row => row.2.2) =
    (messages.drop (messages.length -
      shownLines (overlayLineH font scale) c.height messages)).map fun text =>
        cstr (text.take (logOverlayLineLen - 1))
  band : 0 ≤ c.textTop ∧ c.textTop + c.textH = c.height ∧
    c.textH = shownLines (overlayLineH font scale) c.height messages * overlayLineH font scale
  places : 0 ≤ scale → ∀ (k : Nat) (row : ℚ × ℚ × CString), c.rows[k]? = some row →
    c.textTop + k * overlayLineH font scale ≤ row.2.1 - font.ascent ∧
      row.2.1 + font.descent ≤ c.textTop + (k + 1) * overlayLineH font scale

/-- At least a line fits. -/
def LineFits (font : OverlayFont) (scale bufH : Int) : Prop :=
  0 < overlayLineH font scale ∧ overlayLineH font scale ≤ bufH

theorem overlayMaxLines_of_fits {font : OverlayFont} {scale bufH : Int}
    (h : LineFits font scale bufH) :
    overlayMaxLines (overlayLineH font scale) bufH = (bufH / overlayLineH font scale).toNat ∧
      0 < bufH / overlayLineH font scale := by
  obtain ⟨hpos, hle⟩ := h
  have hdiv : 0 < bufH / overlayLineH font scale :=
    (Int.le_ediv_iff_mul_le hpos).mpr (by omega)
  rw [overlayMaxLines, if_pos hpos, Int.tdiv_eq_ediv_of_nonneg (by omega),
    Int.toNat_of_nonneg hdiv.le]
  exact ⟨rfl, hdiv⟩

theorem overlayMaxLines_pos_iff {font : OverlayFont} {scale bufH : Int} :
    0 < overlayMaxLines (overlayLineH font scale) bufH ↔ LineFits font scale bufH := by
  constructor
  · intro h
    unfold overlayMaxLines at h
    split at h
    · rename_i hpos
      refine ⟨hpos, ?_⟩
      by_contra hlt
      rcases Int.le_total 0 bufH with hnonneg | hneg
      · rw [Int.tdiv_eq_ediv_of_nonneg hnonneg, Int.ediv_eq_zero_of_lt hnonneg (by omega)] at h
        omega
      · have hquot := Int.tdiv_nonneg (Int.neg_nonneg_of_nonpos hneg) hpos.le
        rw [Int.neg_tdiv] at hquot
        omega
    · omega
  · intro h
    obtain ⟨hmax, hdiv⟩ := overlayMaxLines_of_fits h
    omega

/-- A line of text stands within its part of the band. -/
theorem line_in_band {font : OverlayFont} {scale : Int} (hscale : 0 ≤ scale) (top : Int) (k : Nat)
    {y : ℚ} (hy : y = top + font.ascent + overlayPad scale + k * overlayLineH font scale) :
    top + k * overlayLineH font scale ≤ y - font.ascent ∧
      y + font.descent ≤ top + (k + 1) * overlayLineH font scale := by
  have hpad : 0 ≤ overlayPad scale := by
    have hcast : (0 : ℚ) ≤ scale := by exact_mod_cast hscale
    rw [overlayPad]
    linarith
  have hceil : font.height + overlayPad scale ≤ overlayLineH font scale := Int.le_ceil _
  have hline := font.line_le
  subst hy
  constructor
  · linarith
  · linarith

/-- **The drawing**, from a snapshot of the ring. -/
theorem drawOverlay_shows {log : LogState} {messages : List (List UInt8)}
    (hlog : Logged log messages) {font : OverlayFont} {width height : UInt32} {scale : Int}
    (hfits : LineFits font scale (mulScale height scale)) (buffer : Shm.WlBuffer)
    (rest : List (List UInt8)) :
    ∃ c, drawOverlay font scale (log.lines ++ rest) log.overlayCount buffer (mulScale width scale)
        (mulScale height scale) = some c ∧
      c.buffer = buffer ∧ OverlayShows font width height scale messages c := by
  obtain ⟨hmax, hdiv⟩ := overlayMaxLines_of_fits hfits
  obtain ⟨hpos, -⟩ := hfits
  have hcount := hlog.count
  have hcount_eq := hlog.holds.count_eq
  have hlen := hlog.length_lines
  have hrecent : List.Forall₂ Spells log.lines
      (messages.drop (messages.length - log.overlayCount.toNat)) := hlog.holds.recent
  obtain ⟨n, hn⟩ : ∃ n : Nat, log.overlayCount = n := ⟨_, (Int.toNat_of_nonneg hcount).symm⟩
  rw [hn, Int.toNat_natCast] at hcount_eq hlen hrecent
  generalize hm : (mulScale height scale / overlayLineH font scale).toNat = m at hmax
  have hshown : (if (n : Int) < overlayMaxLines (overlayLineH font scale) (mulScale height scale)
      then (n : Int) else overlayMaxLines (overlayLineH font scale) (mulScale height scale)) =
        ((min n m : Nat) : Int) := by
    rw [hmax]
    split <;> omega
  have hshownLines : shownLines (overlayLineH font scale) (mulScale height scale) messages =
      min n m := by rw [shownLines, hm, hcount_eq]
  unfold drawOverlay
  simp only [hshown, hn]
  rw [show ((n : Int) - (n - (min n m : Nat))).toNat = min n m by omega,
    show (n : Int) - (min n m : Nat) = ((n - min n m : Nat) : Int) by omega,
    overlayRows_eq _ _ _ (by rw [List.length_append]; omega)]
  have hcut : ((log.lines ++ rest).drop (n - min n m)).take (min n m) =
      log.lines.drop (n - min n m) := by
    rw [List.drop_append_of_le_length (by omega), List.take_left']
    rw [List.length_drop]
    omega
  have hlast : List.Forall₂ Spells (log.lines.drop (n - min n m))
      (messages.drop (messages.length - min n m)) := by
    have hdrop := List.forall₂_drop (n - min n m) hrecent
    rwa [List.drop_drop, show messages.length - n + (n - min n m) =
      messages.length - min n m by omega] at hdrop
  rw [hcut]
  refine ⟨_, rfl, rfl, rfl, ⟨rfl, rfl⟩, ?_, ?_, ?_⟩
  · dsimp only
    rw [placedRows_text, hshownLines]
    exact cstr_lines hlast
  · dsimp only
    rw [hshownLines]
    have hroom : ((min n m : Nat) : Int) * overlayLineH font scale ≤ mulScale height scale := by
      have hle : ((min n m : Nat) : Int) ≤ mulScale height scale / overlayLineH font scale := by
        omega
      exact (Int.le_ediv_iff_mul_le hpos).mp hle
    exact ⟨by omega, by omega, rfl⟩
  · intro hscale k row hrow
    obtain ⟨-, hy⟩ := placedRows_at hrow
    exact line_in_band hscale _ k hy

/-! ## One rendering -/

/-- The log after a snapshot. -/
def LogState.snapped (s : LogState) : LogState :=
  { s with overlaySnap := s.lines ++ s.overlaySnap.drop s.overlayCount.toNat }

section Render

variable (env : OverlayEnv) (width height : UInt32) (scale : Int) (o : Overlay)

/-- The buffer that a rendering asks for. -/
def Overlay.takes : Option (Fin 2) × Shm.PoolState :=
  o.buffers.get env.shm (UInt32.ofInt (mulScale width scale)) (UInt32.ofInt (mulScale height scale))

/-- What a rendering does. -/
inductive Rendered (messages : List (List UInt8)) : Overlay → Prop
  | nothing {log : LogState} (kept : log = o.log ∨ log = o.log.snapped)
      (why : width = 0 ∨ height = 0 ∨ messages = []) : Rendered messages { o with log }
  | refused (sized : width ≠ 0 ∧ height ≠ 0) (some : messages ≠ [])
      (taken : (o.takes env width height scale).1 = none) :
      Rendered messages
        { o with log := o.log.snapped, buffers := (o.takes env width height scale).2 }
  | unused {i : Fin 2} (sized : width ≠ 0 ∧ height ≠ 0) (some : messages ≠ [])
      (taken : (o.takes env width height scale).1 = Option.some i)
      (small : ¬ LineFits env.font scale (mulScale height scale)) :
      Rendered messages
        { o with log := o.log.snapped, buffers := (o.takes env width height scale).2 }
  | shown {i : Fin 2} {c : OverlayCommit} (sized : width ≠ 0 ∧ height ≠ 0) (some : messages ≠ [])
      (taken : (o.takes env width height scale).1 = Option.some i)
      (fits : LineFits env.font scale (mulScale height scale))
      (buffer : c.buffer = ((o.takes env width height scale).2.pool i).buffer)
      (shows : OverlayShows env.font width height scale messages c) :
      Rendered messages
        { log := o.log.snapped, buffers := (o.takes env width height scale).2
          held := Function.update o.held i (decide (c.buffer ≠ .null))
          commits := o.commits ++ [c] }

variable {o}

theorem Logged.snapped {s : LogState} {messages : List (List UInt8)} (h : Logged s messages) :
    Logged s.snapped messages := h.afterOverlay

/-- **What a rendering does**: no access leaves an array. -/
theorem rendered {messages : List (List UInt8)} (h : Logged o.log messages) :
    ∃ o', renderDebugOverlay env width height scale o = some o' ∧
      Rendered env width height scale o messages o' := by
  unfold renderDebugOverlay
  by_cases hzero : width = 0 ∨ height = 0
  · rw [if_pos hzero]
    refine ⟨o, rfl, .nothing (Or.inl rfl) ?_⟩
    rcases hzero with hw | hh
    · exact Or.inl hw
    · exact Or.inr (Or.inl hh)
  rw [if_neg hzero, h.getOverlay]
  have hsized : width ≠ 0 ∧ height ≠ 0 := not_or.mp hzero
  have hcount := h.count
  have hcount_eq := h.holds.count_eq
  have hempty : o.log.overlayCount = 0 ↔ messages = [] := by
    rw [← List.length_eq_zero_iff]
    have hpos : 0 < logOverlayLines := by decide
    omega
  dsimp only
  by_cases hnone : o.log.overlayCount = 0
  · rw [if_pos hnone]
    exact ⟨_, rfl, .nothing (Or.inr rfl) (Or.inr (Or.inr (hempty.mp hnone)))⟩
  have hsome := mt hempty.mpr hnone
  rw [if_neg hnone]
  cases htaken : (o.takes env width height scale).1 with
  | none =>
    have htaken' := htaken
    unfold Overlay.takes at htaken'
    rw [htaken']
    exact ⟨_, rfl, .refused hsized hsome htaken⟩
  | some i =>
    have htaken' := htaken
    unfold Overlay.takes at htaken'
    rw [htaken']
    dsimp only
    by_cases hfits : LineFits env.font scale (mulScale height scale)
    · obtain ⟨c, hdraw, hbuffer, hshows⟩ := drawOverlay_shows h hfits
        ((o.takes env width height scale).2.pool i).buffer
        (o.log.overlaySnap.drop o.log.overlayCount.toNat)
      rw [if_neg (not_le.mpr (overlayMaxLines_pos_iff.mpr hfits))]
      unfold Overlay.takes at hdraw
      rw [hdraw]
      refine ⟨_, rfl, ?_⟩
      have hshown := Rendered.shown hsized hsome htaken hfits hbuffer hshows
      rw [hbuffer] at hshown
      exact hshown
    · rw [if_pos (not_lt.mp (mt overlayMaxLines_pos_iff.mp hfits))]
      exact ⟨_, rfl, .unused hsized hsome htaken hfits⟩

theorem Rendered.log {messages : List (List UInt8)} {o' : Overlay}
    (h : Rendered env width height scale o messages o') :
    o'.log = o.log ∨ o'.log = o.log.snapped := by
  cases h with
  | nothing kept => exact kept
  | refused => exact Or.inr rfl
  | unused => exact Or.inr rfl
  | shown => exact Or.inr rfl

end Render

/-! ## Runs -/

/-- The ring holds the messages, and what the compositor has is busy. -/
structure Overlaid (o : Overlay) (messages : List (List UInt8)) : Prop where
  logged : Logged o.log messages
  held : ∀ i, o.held i = true → (o.buffers.pool i).busy = true

/-- A buffer that is busy, and that the compositor will not release. -/
def Overlay.Lost (o : Overlay) (i : Fin 2) : Prop :=
  (o.buffers.pool i).busy = true ∧ o.held i = false

/-- The event takes a buffer that it does not attach. -/
def Loses (e : OverlayEvent) (o : Overlay) (messages : List (List UInt8)) (i : Fin 2) : Prop :=
  ∃ env width height scale, e = .render env width height scale ∧ (width ≠ 0 ∧ height ≠ 0) ∧
    messages ≠ [] ∧ (o.takes env width height scale).1 = some i ∧
    (LineFits env.font scale (mulScale height scale) →
      ((o.takes env width height scale).2.pool i).buffer = .null)

section Run

variable {o o' : Overlay} {messages : List (List UInt8)} {e : OverlayEvent}

section Rendering

variable {env : OverlayEnv} {width height : UInt32} {scale : Int}

theorem takesOne_takes (o : Overlay) :
    Shm.PoolState.TakesOne o.buffers (o.takes env width height scale).2
      (o.takes env width height scale).1 :=
  Shm.PoolState.takesOne env.shm _ _ o.buffers

/-- A buffer that is busy is not touched. -/
theorem busy_rendered (h : Rendered env width height scale o messages o') {i : Fin 2}
    (hbusy : (o.buffers.pool i).busy = true) :
    (o'.buffers.pool i).busy = true ∧ o'.held i = o.held i := by
  have hone := @takesOne_takes env width height scale o
  have hother : ∀ {j : Fin 2}, (o.takes env width height scale).1 = some j →
      i ≠ j ∧ ((o.takes env width height scale).2.pool i).busy = true := by
    intro j hj
    rw [hj] at hone
    cases hone with
    | taken _ free _ other =>
      have hij : i ≠ j := by
        rintro rfl
        rw [hbusy] at free
        cases free
      exact ⟨hij, by rw [other i hij, hbusy]⟩
  cases h with
  | nothing => exact ⟨hbusy, rfl⟩
  | refused _ _ taken =>
    rw [taken] at hone
    cases hone with
    | refused same => exact ⟨(same i).trans hbusy, rfl⟩
  | unused _ _ taken => exact ⟨(hother taken).2, rfl⟩
  | shown _ _ taken =>
    obtain ⟨hij, hb⟩ := hother taken
    exact ⟨hb, Function.update_of_ne hij _ _⟩

/-- **A buffer that was free is lost** exactly when it is taken and not attached. -/
theorem lost_rendered (h : Rendered env width height scale o messages o') {i : Fin 2}
    (hfree : (o.buffers.pool i).busy = false) (hheld : o.held i = false) :
    o'.Lost i ↔ Loses (.render env width height scale) o messages i := by
  have hone := @takesOne_takes env width height scale o
  have hloses : Loses (.render env width height scale) o messages i ↔
      (width ≠ 0 ∧ height ≠ 0) ∧ messages ≠ [] ∧
        (o.takes env width height scale).1 = some i ∧
        (LineFits env.font scale (mulScale height scale) →
          ((o.takes env width height scale).2.pool i).buffer = .null) := by
    constructor
    · rintro ⟨env', width', height', scale', heq, hrest⟩
      cases heq
      exact hrest
    · exact fun hrest => ⟨env, width, height, scale, rfl, hrest⟩
  have hnotbusy : ∀ {j : Fin 2}, (o.takes env width height scale).1 = some j → j ≠ i →
      ((o.takes env width height scale).2.pool i).busy = false := by
    intro j hj hne
    rw [hj] at hone
    cases hone with
    | taken _ _ _ other => rw [other i hne.symm, hfree]
  have hbusy : (o.takes env width height scale).1 = some i →
      ((o.takes env width height scale).2.pool i).busy = true := by
    intro hi
    rw [hi] at hone
    cases hone with
    | taken _ _ busy => exact busy
  rw [hloses]
  cases h with
  | nothing _ why =>
    refine iff_of_false (fun hl => ?_) ?_
    · exact absurd (hfree.symm.trans hl.1) (by decide)
    · rintro ⟨⟨hw, hh⟩, hsome, -⟩
      rcases why with h0 | h0 | h0
      · exact hw h0
      · exact hh h0
      · exact hsome h0
  | refused _ _ taken =>
    rw [taken] at hone
    cases hone with
    | refused same =>
      refine iff_of_false (fun hl => ?_) ?_
      · exact absurd (((same i).trans hfree).symm.trans hl.1) (by decide)
      · rintro ⟨-, -, hi, -⟩
        rw [taken] at hi
        cases hi
  | @unused j sized some taken small =>
    by_cases hj : j = i
    · subst hj
      exact iff_of_true ⟨hbusy taken, hheld⟩ ⟨sized, some, taken, fun hfits => absurd hfits small⟩
    · refine iff_of_false (fun hl => ?_) ?_
      · exact absurd ((hnotbusy taken hj).symm.trans hl.1) (by decide)
      · rintro ⟨-, -, hi, -⟩
        exact hj (Option.some.inj (taken.symm.trans hi))
  | @shown j c sized some taken fits buffer =>
    by_cases hj : j = i
    · subst hj
      constructor
      · rintro ⟨-, hlost⟩
        refine ⟨sized, some, taken, fun _ => ?_⟩
        dsimp only at hlost
        rw [Function.update_self, decide_eq_false_iff_not, not_not] at hlost
        rw [← buffer, hlost]
      · rintro ⟨-, -, -, hnull⟩
        refine ⟨hbusy taken, ?_⟩
        dsimp only
        rw [Function.update_self, decide_eq_false_iff_not, not_not, buffer, hnull fits]
    · refine iff_of_false (fun hl => ?_) ?_
      · exact absurd ((hnotbusy taken hj).symm.trans hl.1) (by decide)
      · rintro ⟨-, -, hi, -⟩
        exact hj (Option.some.inj (taken.symm.trans hi))

/-- The compositor gets only a buffer that has been taken. -/
theorem held_rendered (h : Rendered env width height scale o messages o') {i : Fin 2}
    (hheld : o.held i = false) (hi : o'.held i = true) : (o'.buffers.pool i).busy = true := by
  have hone := @takesOne_takes env width height scale o
  cases h with
  | @shown j c _ _ taken =>
    dsimp only at hi ⊢
    by_cases hij : i = j
    · subst hij
      rw [taken] at hone
      cases hone with
      | taken _ _ busy => exact busy
    · rw [Function.update_of_ne hij, hheld] at hi
      cases hi
  | _ =>
    rw [hheld] at hi
    cases hi

/-- With both buffers busy nothing is committed. -/
theorem commits_rendered (h : Rendered env width height scale o messages o')
    (hbusy : ∀ i, (o.buffers.pool i).busy = true) : o'.commits = o.commits := by
  have hnone : (o.takes env width height scale).1 = none := by
    rw [Overlay.takes, Shm.PoolState.get_of_busy _ _ _ hbusy]
  cases h with
  | shown _ _ taken =>
    rw [hnone] at taken
    cases taken
  | _ => rfl

end Rendering

/-- One event: every access is in bounds, and the messages grow by that of the event. -/
theorem overlaid_step (h : Overlaid o messages) (hstep : overlayStep e o = some o') :
    Overlaid o' (messages ++ passed o.log.logImportance e.call?.toList) ∧
      ∀ rest, passed o.log.logImportance (e.call?.toList ++ rest) =
        passed o.log.logImportance e.call?.toList ++ passed o'.log.logImportance rest := by
  have hcall : ∀ call, (logStep call o.log).map (fun log => { o with log }) = some o' →
      Overlaid o' (messages ++ passed o.log.logImportance [call]) ∧
        ∀ rest, passed o.log.logImportance (call :: rest) =
          passed o.log.logImportance [call] ++ passed o'.log.logImportance rest := by
    intro call hmap
    obtain ⟨log, hlog, rfl⟩ := Option.map_eq_some_iff.mp hmap
    obtain ⟨t, ht, hlogged, hrest⟩ := h.logged.step call
    obtain rfl : log = t := Option.some.inj (hlog.symm.trans ht)
    exact ⟨⟨hlogged, h.held⟩, hrest⟩
  cases e with
  | init verbosity => exact hcall _ hstep
  | log verbosity text => exact hcall _ hstep
  | render env width height scale =>
    obtain ⟨t, ht, hrendered⟩ := rendered env width height scale h.logged
    obtain rfl : o' = t := Option.some.inj (hstep.symm.trans ht)
    have hlogged : Logged o'.log messages ∧ o'.log.logImportance = o.log.logImportance := by
      rcases hrendered.log with heq | heq
      · rw [heq]
        exact ⟨h.logged, rfl⟩
      · rw [heq]
        exact ⟨h.logged.snapped, rfl⟩
    refine ⟨⟨?_, fun i hi => ?_⟩, fun rest => ?_⟩
    · simpa [OverlayEvent.call?, passed] using hlogged.1
    · by_cases hbusy : (o.buffers.pool i).busy = true
      · exact (busy_rendered hrendered hbusy).1
      · exact held_rendered hrendered (Bool.not_eq_true _ ▸ mt (h.held i) hbusy) hi
    · simp [OverlayEvent.call?, passed, hlogged.2]
  | release i =>
    rw [overlayStep] at hstep
    split at hstep
    · cases hstep
      refine ⟨⟨?_, fun j hj => ?_⟩, fun rest => rfl⟩
      · simpa [OverlayEvent.call?, passed] using h.logged
      dsimp only at hj ⊢
      by_cases hij : j = i
      · rw [hij, Function.update_self] at hj
        cases hj
      · rw [Function.update_of_ne hij] at hj ⊢
        exact h.held j hj
    · cases hstep

/-- **A buffer is lost** exactly when it was, or the event takes it and does not attach it. -/
theorem lost_step (h : Overlaid o messages) (hstep : overlayStep e o = some o') (i : Fin 2) :
    o'.Lost i ↔ o.Lost i ∨ Loses e o messages i := by
  have hkeeps : (∀ env width height scale, e ≠ .render env width height scale) →
      ¬ Loses e o messages i := by
    rintro hne ⟨env, width, height, scale, rfl, -⟩
    exact hne env width height scale rfl
  cases e with
  | init verbosity =>
    rw [overlayStep] at hstep
    obtain ⟨log, -, rfl⟩ := Option.map_eq_some_iff.mp hstep
    exact (or_iff_left (hkeeps fun _ _ _ _ => by simp)).symm
  | log verbosity text =>
    obtain ⟨log, -, rfl⟩ := Option.map_eq_some_iff.mp hstep
    exact (or_iff_left (hkeeps fun _ _ _ _ => by simp)).symm
  | release j =>
    rw [or_iff_left (hkeeps fun _ _ _ _ => by simp)]
    rw [overlayStep] at hstep
    split at hstep
    · rename_i hheld
      cases hstep
      unfold Overlay.Lost
      dsimp only
      by_cases hij : i = j
      · subst hij
        rw [Function.update_self, Function.update_self, hheld]
        simp [Shm.bufferRelease]
      · rw [Function.update_of_ne hij, Function.update_of_ne hij]
    · cases hstep
  | render env width height scale =>
    obtain ⟨t, ht, hrendered⟩ := rendered env width height scale h.logged
    obtain rfl : o' = t := Option.some.inj (hstep.symm.trans ht)
    by_cases hbusy : (o.buffers.pool i).busy = true
    · obtain ⟨hb, hheld⟩ := busy_rendered hrendered hbusy
      have hsame : o'.Lost i ↔ o.Lost i := by
        rw [Overlay.Lost, Overlay.Lost, hb, hbusy, hheld]
      rw [hsame]
      refine (or_iff_left ?_).symm
      rintro ⟨env', width', height', scale', heq, -, -, htaken, -⟩
      cases heq
      have hone := @takesOne_takes env width height scale o
      rw [htaken] at hone
      cases hone with
      | taken _ free => exact absurd (free.symm.trans hbusy) (by decide)
    · rw [Bool.not_eq_true] at hbusy
      have hheld : o.held i = false := by
        by_contra hh
        exact absurd ((h.held i (by simpa using hh)).symm.trans hbusy) (by decide)
      rw [lost_rendered hrendered hbusy hheld]
      exact (or_iff_right fun hl => absurd (hbusy.symm.trans hl.1) (by decide)).symm

/-- A run that starts with some messages. -/
theorem overlaid_run {es : List OverlayEvent} (h : Overlaid o messages)
    (hrun : run overlayStep es o = some o') :
    Overlaid o' (messages ++ passed o.log.logImportance (es.filterMap OverlayEvent.call?)) := by
  induction es generalizing o messages with
  | nil =>
    obtain rfl : o = o' := by simpa using hrun
    simpa [passed] using h
  | cons e es ih =>
    obtain ⟨m, hm, hrest⟩ := run_cons.mp hrun
    obtain ⟨hnext, hpassed⟩ := overlaid_step h hm
    have hcalls : (e :: es).filterMap OverlayEvent.call? =
        e.call?.toList ++ es.filterMap OverlayEvent.call? := by
      rw [List.filterMap_cons]
      cases e.call? <;> rfl
    rw [hcalls, hpassed, ← List.append_assoc]
    exact ih hnext hrest

/-- Without a buffer to draw into, the commits stay. -/
theorem commits_step (h : Overlaid o messages) (hbusy : ∀ i, (o.buffers.pool i).busy = true)
    (hstep : overlayStep e o = some o') : o'.commits = o.commits := by
  cases e with
  | init verbosity =>
    rw [overlayStep] at hstep
    obtain ⟨log, -, rfl⟩ := Option.map_eq_some_iff.mp hstep
    rfl
  | log verbosity text =>
    obtain ⟨log, -, rfl⟩ := Option.map_eq_some_iff.mp hstep
    rfl
  | release j =>
    rw [overlayStep] at hstep
    split at hstep
    · cases hstep
      rfl
    · cases hstep
  | render env width height scale =>
    obtain ⟨t, ht, hrendered⟩ := rendered env width height scale h.logged
    obtain rfl : o' = t := Option.some.inj (hstep.symm.trans ht)
    exact commits_rendered hrendered hbusy

/-- Once both buffers are lost, nothing is shown any more. -/
theorem commits_run {es : List OverlayEvent} (h : Overlaid o messages) (hlost : ∀ i, o.Lost i)
    (hrun : run overlayStep es o = some o') : o'.commits = o.commits := by
  induction es generalizing o messages with
  | nil =>
    obtain rfl : o = o' := by simpa using hrun
    rfl
  | cons e es ih =>
    obtain ⟨m, hm, hrest⟩ := run_cons.mp hrun
    have hlost' : ∀ i, m.Lost i := fun i => (lost_step h hm i).mpr (Or.inl (hlost i))
    rw [ih (overlaid_step h hm).1 hlost' hrest]
    exact commits_step h (fun i => (hlost i).1) hm

end Run

theorem overlaid_start : Overlaid {} [] := ⟨logged_start, fun _ h => by cases h⟩

/-- **The debug overlay**, in every state of every run of log calls, renderings and releases: a
rendering of any size stays in the arrays, and what it commits are the last messages, as many as
fit, the newest at the bottom, each within its own part of the band; a buffer is lost exactly when
a rendering takes it and not even one line fits (or it has no memory to attach); it stays lost,
and with both lost nothing is ever shown again. -/
theorem overlay_shown {es : List OverlayEvent} {o : Overlay}
    (h : run overlayStep es {} = some o) :
    (∀ env width height scale, ∃ o', overlayStep (.render env width height scale) o = some o' ∧
      Rendered env width height scale o (overlayMessages es) o') ∧
    (∀ e o' i, overlayStep e o = some o' →
      (o'.Lost i ↔ o.Lost i ∨ Loses e o (overlayMessages es) i)) ∧
    ((∀ i, o.Lost i) → ∀ fs o', run overlayStep fs o = some o' → o'.commits = o.commits) := by
  have hgood : Overlaid o (overlayMessages es) := by
    have hrun := overlaid_run overlaid_start h
    rwa [List.nil_append] at hrun
  refine ⟨fun env width height scale => rendered env width height scale hgood.logged, ?_, ?_⟩
  · intro e o' i hstep
    exact lost_step hgood hstep i
  · intro hlost fs o' hrun
    exact commits_run hgood hlost hrun

/-- A font of sixteen pixels. -/
def overlayFont : OverlayFont where
  ascent := 12
  descent := 4
  height := 16
  ascent_nonneg := by norm_num
  descent_nonneg := by norm_num
  line_le := by norm_num

/-- Two renderings on an output of 640 by 16, where no line fits. -/
def flatRun : List OverlayEvent :=
  [.log .error (ascii "Hello"), .render { font := overlayFont } 640 16 1,
    .render { font := overlayFont } 640 16 1]

/-- On an output that is high enough nothing is shown after these. -/
theorem overlay_shown_flat :
    ∃ o o', run overlayStep flatRun {} = some o ∧ (∀ i, o.Lost i) ∧
      overlayStep (.render { font := overlayFont } 640 480 1) o = some o' ∧ o'.commits = [] := by
  have hrun : ∃ o, run overlayStep flatRun {} = some o ∧ (∀ i, o.Lost i) ∧ o.commits = [] := by
    have hlost : (run overlayStep flatRun {}).any (fun o =>
        decide (∀ i, (o.buffers.pool i).busy = true ∧ o.held i = false) &&
          o.commits.isEmpty) = true := by
      decide +kernel
    obtain ⟨o, ho, hall⟩ := (Option.any_eq_true _ _).mp hlost
    rw [Bool.and_eq_true, decide_eq_true_eq, List.isEmpty_iff] at hall
    exact ⟨o, ho, hall⟩
  obtain ⟨o, ho, hlost, hcommits⟩ := hrun
  obtain ⟨hrenders, -, hnever⟩ := overlay_shown ho
  obtain ⟨o', ho', -⟩ := hrenders { font := overlayFont } 640 480 1
  refine ⟨o, o', ho, hlost, ho', ?_⟩
  rw [hnever hlost [.render { font := overlayFont } 640 480 1] o' (run_cons.mpr ⟨o', ho', rfl⟩),
    hcommits]

end SwaylockAuthd
