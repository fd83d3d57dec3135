import SwaylockAuthd.Lib.Ring
import SwaylockAuthd.Lib.Transition

/-!
# `log.c`: the ring of the debug overlay

A build with the debug overlay keeps the last lines of the log in a static ring and copies them
out, oldest first, for `render_debug_overlay`.  What goes to the standard error is left out.
An access outside an array ends the run: `logStep` is `none` there.

* `Logged`: the ring against the unbounded list of the messages that passed the filter.
* `overlay_shows_last_messages`: what every snapshot of every run returns.
-/

namespace SwaylockAuthd

open Transition

/-- `enum log_importance`. -/
inductive LogImportance
  | silent
  | error
  | info
  | debug
  | importanceLast
  deriving DecidableEq, Repr

def LogImportance.toNat : LogImportance → Nat
  | .silent => 0
  | .error => 1
  | .info => 2
  | .debug => 3
  | .importanceLast => 4

/-- `LOG_OVERLAY_LINES`. -/
def logOverlayLines : Nat := 24

/-- `LOG_OVERLAY_LINE_LEN`. -/
def logOverlayLineLen : Nat := 220

/-- The static variables of `log.c` as the program starts. -/
structure LogState where
  overlayRing : List (List UInt8) :=
    List.replicate logOverlayLines (List.replicate logOverlayLineLen 0)
  overlayHead : Int := 0
  overlayCount : Int := 0
  overlaySnap : List (List UInt8) :=
    List.replicate logOverlayLines (List.replicate logOverlayLineLen 0)
  logImportance : LogImportance := .error
  deriving DecidableEq, Repr

/-- An element of an array; `none` out of bounds. -/
def elementAt {α : Type} (cells : List α) (i : Int) : Option α :=
  if i < 0 then none else cells[i.toNat]?

/-- `vsnprintf` of a text into a buffer of `n` bytes, which keeps what is behind the NUL. -/
def vsnprintf (buffer : List UInt8) (n : Nat) (text : List UInt8) : List UInt8 :=
  text.take (n - 1) ++ 0 :: buffer.drop ((text.take (n - 1)).length + 1)

/-- `swaylock_log_init`. -/
def swaylockLogInit (verbosity : LogImportance) (s : LogState) : LogState :=
  if verbosity.toNat < LogImportance.importanceLast.toNat then { s with logImportance := verbosity }
  else s

/-- `_swaylock_log`; `text` is what the format and its arguments make. -/
def swaylockLog (verbosity : LogImportance) (text : List UInt8) (s : LogState) : Option LogState :=
  if s.logImportance.toNat < verbosity.toNat then some s
  else
    (elementAt s.overlayRing s.overlayHead).map fun line =>
      { s with
        overlayRing :=
          s.overlayRing.set s.overlayHead.toNat (vsnprintf line logOverlayLineLen text)
        overlayHead := (s.overlayHead + 1).tmod logOverlayLines
        overlayCount :=
          if s.overlayCount < logOverlayLines then s.overlayCount + 1 else s.overlayCount }

/-- `swaylock_log_get_overlay`: the count, and the state with the lines in `overlay_snap`. -/
def swaylockLogGetOverlay (s : LogState) : Option (Int × LogState) :=
  let start := (s.overlayHead - s.overlayCount + logOverlayLines).tmod logOverlayLines
  let line (i : Nat) := elementAt s.overlayRing ((start + i).tmod logOverlayLines)
  (Ring.fill line s.overlayCount.toNat s.overlaySnap).map fun snap =>
    (s.overlayCount, { s with overlaySnap := snap })

inductive LogCall
  | init (verbosity : LogImportance)
  | log (verbosity : LogImportance) (text : List UInt8)
  | getOverlay
  deriving DecidableEq, Repr

/-- One call of a function of `log.c`. -/
def logStep : LogCall → LogState → Option LogState
  | .init verbosity, s => some (swaylockLogInit verbosity s)
  | .log verbosity text, s => swaylockLog verbosity text s
  | .getOverlay, s => (swaylockLogGetOverlay s).map Prod.snd

/-! ## The messages -/

/-- The messages that pass the filter, oldest first, from an importance on. -/
def passed : LogImportance → List LogCall → List (List UInt8)
  | _, [] => []
  | i, .init v :: calls =>
    passed (if v.toNat < LogImportance.importanceLast.toNat then v else i) calls
  | i, .log v text :: calls =>
    if i.toNat < v.toNat then passed i calls else text :: passed i calls
  | i, .getOverlay :: calls => passed i calls

/-- The line holds the message, cut to the width of a line, and a NUL byte. -/
def Spells (line text : List UInt8) : Prop :=
  line.length = logOverlayLineLen ∧ text.take (logOverlayLineLen - 1) ++ [0] <+: line

theorem spells_vsnprintf {line : List UInt8} (h : line.length = logOverlayLineLen)
    (text : List UInt8) : Spells (vsnprintf line logOverlayLineLen text) text := by
  have hcut : (text.take (logOverlayLineLen - 1)).length + 1 ≤ logOverlayLineLen := by
    have hpos : 0 < logOverlayLineLen := by decide
    rw [List.length_take]
    omega
  constructor
  · rw [vsnprintf, List.length_append, List.length_cons, List.length_drop, h]
    omega
  · rw [vsnprintf]
    exact ⟨line.drop ((text.take (logOverlayLineLen - 1)).length + 1), by simp⟩

/-! ## The invariant -/

/-- The variables after the messages. -/
structure Logged (s : LogState) (messages : List (List UInt8)) : Prop where
  holds : Ring.Holds logOverlayLines Spells s.overlayRing s.overlayHead.toNat
    s.overlayCount.toNat messages
  head : 0 ≤ s.overlayHead
  count : 0 ≤ s.overlayCount
  width : ∀ line ∈ s.overlayRing, line.length = logOverlayLineLen
  snap : s.overlaySnap.length = logOverlayLines

theorem logged_start : Logged {} [] where
  holds := Ring.holds_nil (List.length_replicate ..)
  head := Int.le_refl 0
  count := Int.le_refl 0
  width line h := by rw [List.eq_of_mem_replicate h, List.length_replicate]
  snap := List.length_replicate ..

/-- An index that the ring wraps is in bounds, and the C remainder is the natural one. -/
theorem elementAt_tmod {cells : List (List UInt8)} {n : Nat} {i : Int} (hi : i = n) :
    elementAt cells (i.tmod logOverlayLines) = cells[n % logOverlayLines]? := by
  subst hi
  rw [← Int.ofNat_tmod, elementAt, if_neg (by omega), Int.toNat_natCast]

theorem Logged.head_lt {s : LogState} {messages : List (List UInt8)} (h : Logged s messages) :
    s.overlayHead.toNat < logOverlayLines := by
  rw [h.holds.head_eq]
  exact Nat.mod_lt _ (by decide)

/-- **A message that passes.** -/
theorem Logged.log {s : LogState} {messages : List (List UInt8)} (h : Logged s messages)
    {verbosity : LogImportance} (hv : ¬ s.logImportance.toNat < verbosity.toNat)
    (text : List UInt8) :
    ∃ t, swaylockLog verbosity text s = some t ∧ t.logImportance = s.logImportance ∧
      Logged t (messages ++ [text]) := by
  have hhead := h.head_lt
  have hlt : s.overlayHead.toNat < s.overlayRing.length := by rw [h.holds.length_eq]; exact hhead
  have hline : elementAt s.overlayRing s.overlayHead = some s.overlayRing[s.overlayHead.toNat] := by
    rw [elementAt, if_neg (by have := h.head; omega), List.getElem?_eq_getElem hlt]
  have hwidth := spells_vsnprintf (h.width _ (List.getElem_mem hlt)) text
  have hpush := h.holds.push (by decide) hwidth
  have hnext : (s.overlayHead + 1).tmod logOverlayLines =
      ((s.overlayHead.toNat + 1) % logOverlayLines : Nat) := by
    rw [Int.ofNat_tmod, Int.natCast_add, Int.toNat_of_nonneg h.head]
    rfl
  have hcount : (if s.overlayCount < logOverlayLines then s.overlayCount + 1
      else s.overlayCount).toNat = if s.overlayCount.toNat < logOverlayLines
        then s.overlayCount.toNat + 1 else s.overlayCount.toNat := by
    have hnonneg := h.count
    split
    · rw [if_pos (by omega)]
      omega
    · rw [if_neg (by omega)]
  refine ⟨_, (if_neg hv).trans (congrArg _ hline), rfl, ?_⟩
  constructor
  · rw [hnext, Int.toNat_natCast, hcount]
    exact hpush
  · rw [hnext]
    exact Int.natCast_nonneg _
  · have hnonneg := h.count
    show 0 ≤ if s.overlayCount < logOverlayLines then s.overlayCount + 1 else s.overlayCount
    split
    · omega
    · exact hnonneg
  · intro line hmem
    rcases List.mem_or_eq_of_mem_set hmem with hold | hnew
    · exact h.width line hold
    · rw [hnew]
      exact hwidth.1
  · exact h.snap

/-- The lines the ring holds, oldest first. -/
def LogState.lines (s : LogState) : List (List UInt8) :=
  (s.overlayRing.rotate (Ring.oldest logOverlayLines s.overlayHead.toNat
    s.overlayCount.toNat)).take s.overlayCount.toNat

theorem Logged.count_le {s : LogState} {messages : List (List UInt8)} (h : Logged s messages) :
    s.overlayCount.toNat ≤ logOverlayLines := by
  rw [h.holds.count_eq]
  exact Nat.min_le_right _ _

theorem Logged.length_lines {s : LogState} {messages : List (List UInt8)}
    (h : Logged s messages) : s.lines.length = s.overlayCount.toNat := by
  have hle := h.count_le
  rw [LogState.lines, List.length_take, List.length_rotate, h.holds.length_eq]
  omega

/-- **What a snapshot does**: every index is in bounds and only `overlay_snap` changes. -/
theorem Logged.getOverlay {s : LogState} {messages : List (List UInt8)} (h : Logged s messages) :
    swaylockLogGetOverlay s = some (s.overlayCount,
      { s with overlaySnap := s.lines ++ s.overlaySnap.drop s.overlayCount.toNat }) := by
  have hle := h.count_le
  have hlen := h.length_lines
  have hhead := h.head
  have hcount := h.count
  have hstart : (s.overlayHead - s.overlayCount + logOverlayLines).tmod logOverlayLines =
      (Ring.oldest logOverlayLines s.overlayHead.toNat s.overlayCount.toNat : Nat) := by
    have hsub : s.overlayHead - s.overlayCount + logOverlayLines =
        ((s.overlayHead.toNat + logOverlayLines - s.overlayCount.toNat : Nat) : Int) := by omega
    rw [Ring.oldest, Int.ofNat_tmod, hsub]
  have hread : ∀ i, i < s.lines.length → elementAt s.overlayRing
      (((s.overlayHead - s.overlayCount + logOverlayLines).tmod logOverlayLines + i).tmod
        logOverlayLines) = s.lines[i]? := by
    intro i hi
    rw [hlen] at hi
    rw [hstart, elementAt_tmod (Int.natCast_add _ _).symm, LogState.lines,
      List.getElem?_take_of_lt hi,
      List.getElem?_rotate (by rw [h.holds.length_eq]; omega), h.holds.length_eq, Nat.add_comm]
  have hroom : s.lines.length ≤ s.overlaySnap.length := by
    rw [hlen, h.snap]
    exact hle
  have hfill := Ring.fill_eq hroom hread s.lines.length (Nat.le_refl _)
  rw [List.take_length, hlen] at hfill
  rw [swaylockLogGetOverlay, hfill]
  rfl

theorem Logged.afterOverlay {s : LogState} {messages : List (List UInt8)}
    (h : Logged s messages) :
    Logged { s with overlaySnap := s.lines ++ s.overlaySnap.drop s.overlayCount.toNat }
      messages where
  holds := h.holds
  head := h.head
  count := h.count
  width := h.width
  snap := by
    have hle := h.count_le
    show (s.lines ++ s.overlaySnap.drop s.overlayCount.toNat).length = logOverlayLines
    rw [List.length_append, List.length_drop, h.length_lines, h.snap]
    omega

/-! ## Runs -/

/-- One call: it stays in bounds, and the messages grow by those that pass. -/
theorem Logged.step {s : LogState} {messages : List (List UInt8)} (h : Logged s messages)
    (call : LogCall) :
    ∃ t, logStep call s = some t ∧ Logged t (messages ++ passed s.logImportance [call]) ∧
      ∀ rest, passed s.logImportance (call :: rest) =
        passed s.logImportance [call] ++ passed t.logImportance rest := by
  cases call with
  | init verbosity =>
    refine ⟨_, rfl, ?_, ?_⟩
    · rw [show passed s.logImportance [.init verbosity] = [] from rfl, List.append_nil]
      unfold swaylockLogInit
      split
      · exact ⟨h.holds, h.head, h.count, h.width, h.snap⟩
      · exact h
    · intro rest
      unfold swaylockLogInit
      split
      · simp [passed, *]
      · simp [passed, *]
  | log verbosity text =>
    by_cases hv : s.logImportance.toNat < verbosity.toNat
    · refine ⟨s, by rw [logStep, swaylockLog, if_pos hv], ?_, fun rest => ?_⟩
      · simpa [passed, hv] using h
      · simp [passed, hv]
    · obtain ⟨t, ht, himp, hlog⟩ := h.log hv text
      refine ⟨t, ht, ?_, fun rest => ?_⟩
      · simpa [passed, hv] using hlog
      · simp [passed, hv, himp]
  | getOverlay =>
    refine ⟨_, by rw [logStep, h.getOverlay]; rfl, ?_, fun rest => ?_⟩
    · simpa [passed] using h.afterOverlay
    · simp [passed]

/-- Every run stays in bounds and leaves the ring of its messages. -/
theorem Logged.run (calls : List LogCall) : ∀ {s : LogState} {messages : List (List UInt8)},
    Logged s messages → ∃ t, run logStep calls s = some t ∧
      Logged t (messages ++ passed s.logImportance calls) := by
  induction calls with
  | nil =>
    intro s messages h
    exact ⟨s, rfl, by simpa [passed] using h⟩
  | cons call calls ih =>
    intro s messages h
    obtain ⟨m, hm, hlogged, hrest⟩ := h.step call
    obtain ⟨t, ht, hrun⟩ := ih hlogged
    refine ⟨t, run_cons.mpr ⟨m, hm, ht⟩, ?_⟩
    rw [hrest, ← List.append_assoc]
    exact hrun

/-! ## Snapshots leave no trace -/

/-- The variables without the copy the last snapshot made. -/
def LogState.live (s : LogState) : LogState := { s with overlaySnap := ({} : LogState).overlaySnap }

/-- The call is not a snapshot. -/
def LogCall.writes : LogCall → Bool
  | .getOverlay => false
  | _ => true

theorem logStep_live {call : LogCall} (h : call.writes = true) (s : LogState) :
    logStep call s.live = (logStep call s).map LogState.live := by
  cases call with
  | init verbosity =>
    rw [logStep, logStep, swaylockLogInit, swaylockLogInit]
    split
    · rfl
    · rfl
  | log verbosity text =>
    rw [logStep, logStep, swaylockLog, swaylockLog]
    by_cases hv : s.logImportance.toNat < verbosity.toNat
    · rw [if_pos hv, if_pos (show s.live.logImportance.toNat < verbosity.toNat from hv)]
      rfl
    · rw [if_neg hv, if_neg (show ¬ s.live.logImportance.toNat < verbosity.toNat from hv),
        Option.map_map]
      rfl
  | getOverlay => cases h

/-- The run without its snapshots ends with the same ring. -/
theorem Logged.run_writes {calls : List LogCall} : ∀ {s t : LogState}
    {messages : List (List UInt8)}, Logged s messages → Transition.run logStep calls s = some t →
      Transition.run logStep (calls.filter LogCall.writes) s.live = some t.live := by
  induction calls with
  | nil =>
    intro s t messages _ hrun
    obtain rfl : s = t := by simpa using hrun
    rfl
  | cons call calls ih =>
    intro s t messages h hrun
    obtain ⟨m, hm, hrest⟩ := run_cons.mp hrun
    obtain ⟨m', hm', hlogged, _⟩ := h.step call
    obtain rfl : m' = m := by rw [hm] at hm'; exact (Option.some.inj hm').symm
    cases hw : call.writes with
    | true =>
      rw [List.filter_cons_of_pos hw]
      exact run_cons.mpr ⟨_, by rw [logStep_live hw, hm]; rfl, ih hlogged hrest⟩
    | false =>
      have hlive : s.live = m'.live := by
        cases call with
        | getOverlay =>
          rw [logStep, h.getOverlay] at hm
          obtain rfl := Option.some.inj hm
          rfl
        | init verbosity => cases hw
        | log verbosity text => cases hw
      rw [List.filter_cons_of_neg (by simp [hw]), hlive]
      exact ih hlogged hrest

/-- What a snapshot after the calls returns: the count and the lines it counts. -/
def overlayAfter (calls : List LogCall) : Option (Int × List (List UInt8)) :=
  (run logStep calls {}).bind fun s =>
    (swaylockLogGetOverlay s).map fun r => (r.1, r.2.overlaySnap.take r.1.toNat)

theorem overlayAfter_eq {calls : List LogCall} {s : LogState} (hrun : run logStep calls {} = some s)
    {messages : List (List UInt8)} (h : Logged s messages) :
    overlayAfter calls = some (s.overlayCount, s.lines) := by
  have htake : (s.lines ++ s.overlaySnap.drop s.overlayCount.toNat).take s.overlayCount.toNat =
      s.lines := List.take_left' h.length_lines
  rw [overlayAfter, hrun, Option.bind_some, h.getOverlay, Option.map_some, htake]

/-- **The overlay shows the last messages**: after any calls, every access in bounds, a snapshot
counts the messages that passed the filter up to the size of the ring, its lines are the last of
them, oldest first, and they are those of the run without the snapshots before it. -/
theorem overlay_shows_last_messages (calls : List LogCall) :
    ∃ (count : Nat) (lines : List (List UInt8)), overlayAfter calls = some ((count : Int), lines) ∧
      count = min (passed .error calls).length logOverlayLines ∧
      List.Forall₂ Spells lines
        ((passed .error calls).drop ((passed .error calls).length - count)) ∧
      overlayAfter (calls.filter LogCall.writes) = overlayAfter calls := by
  obtain ⟨s, hrun, hlogged⟩ := Logged.run calls logged_start
  rw [List.nil_append] at hlogged
  have hwrites := logged_start.run_writes hrun
  have hlive : Logged s.live (passed .error calls) :=
    ⟨hlogged.holds, hlogged.head, hlogged.count, hlogged.width, logged_start.snap⟩
  refine ⟨s.overlayCount.toNat, s.lines, ?_, hlogged.holds.count_eq, hlogged.holds.recent, ?_⟩
  · rw [Int.toNat_of_nonneg hlogged.count]
    exact overlayAfter_eq hrun hlogged
  · rw [overlayAfter_eq hwrites hlive, overlayAfter_eq hrun hlogged]
    rfl

/-- Two calls that pass and one that does not. -/
example : overlayAfter [.log .error [65], .getOverlay, .log .debug [66], .init .debug,
    .log .info [67, 68]] = some (2, [vsnprintf (List.replicate 220 0) 220 [65],
      vsnprintf (List.replicate 220 0) 220 [67, 68]]) := by decide +kernel

end SwaylockAuthd
